import Autoscaling.Lib.Go
import Autoscaling.Lib.Range

/-!
# A map with transactions (`pkg/plugin/state/xactmap.go`)

An `XactMap` records its own changes over a parent map: the keys set here (`newObjs`) and the
keys of the parent deleted here (`deletes`). A new transaction is an empty child; committing
replays the child's deletions and then its settings on the parent, through the parent's own
`Delete` and `Set`, and leaves the child empty.

Go shares the parent by pointer. The model gives each map its own copy of its parent, which
agrees with Go as long as no ancestor is written while a descendant is in use, the condition
under which the source calls a transaction sound; `commit` returns the child over the updated
parent.

`view` is what a map holds: the parent's view without the keys deleted here, overridden by the
keys set here. `get`, `set`, `delete` and `commit` refine the finite map `view`, and a loop over
`Entries()` whose body deletes keys hands it each key of the view once, with its value then.
-/

namespace Autoscaling.Plugin.State

open Go

/-- `XactMap[K, V]`. -/
structure XactMap (K V : Type) where
  parent : Option (XactMap K V)
  newObjs : GoMap K V
  deletes : GoMap K Unit

namespace XactMap

variable {K V : Type} [DecidableEq K]

/-- `NewXactMap()`. -/
def newXactMap : XactMap K V := ⟨none, ∅, ∅⟩

/-- `m.NewTransaction()`. -/
def newTransaction (m : XactMap K V) : XactMap K V := ⟨some m, ∅, ∅⟩

/-- `m.Get(key)`, with `none` for `(zero, false)`. -/
def get : XactMap K V → K → Option V
  | ⟨parent, newObjs, deletes⟩, key =>
    match newObjs.lookup key with
    | some v => some v
    | none =>
      if key ∈ deletes then none
      else match parent with
        | some p => p.get key
        | none => none

/-- `m.Set(key, value)`. -/
def set (m : XactMap K V) (key : K) (value : V) : XactMap K V :=
  { m with newObjs := m.newObjs.insert key value, deletes := m.deletes.erase key }

/-- `m.Delete(key)`: a deletion is recorded only where a parent still has the key, so that a map
without a parent never records one. -/
def delete (m : XactMap K V) (key : K) : XactMap K V :=
  match m.parent with
  | some p =>
    if (p.get key).isSome then
      { m with newObjs := m.newObjs.erase key, deletes := m.deletes.insert key () }
    else { m with newObjs := m.newObjs.erase key }
  | none => { m with newObjs := m.newObjs.erase key }

/-- The panic of `Commit` on a map without a parent. -/
def commitWithoutParent : String := "(*XactMap).Commit() called with nil parent"

/-- `m.Commit()`: the deletions, then the settings, replayed on the parent; the map is left
empty over the updated parent. -/
def commit (m : XactMap K V) : Except String (XactMap K V) :=
  match m.parent with
  | none => throw commitWithoutParent
  | some p =>
    let p := m.deletes.keys.foldl delete p
    let p := m.newObjs.entries.foldl (fun p e => p.set e.1 e.2) p
    pure ⟨some p, ∅, ∅⟩

/-! ### `Entries()` -/

/-- What `m.entriesImpl` hands its callback, in order, while no map changes: the entries set
here, then those the parent hands on that are neither set nor deleted here. -/
def offered : XactMap K V → List (K × V)
  | ⟨parent, newObjs, deletes⟩ =>
    newObjs.entries.map (fun e => (e.1, e.2)) ++
      match parent with
      | some p => (offered p).filter (fun e => decide (e.1 ∉ newObjs ∧ e.1 ∉ deletes))
      | none => []

/-- The body of a loop over `m.Entries()`: from its state and the entry handed to it, its new
state, the keys it deletes from `m`, and whether to go on (what `yield` returns). -/
abbrev EntriesBody (σ K V : Type) := σ → K × V → σ × List K × Bool

/-- The body, acting on the map it walks. -/
def EntriesBody.onMap {σ : Type} (body : EntriesBody σ K V) :
    Range.Body σ (XactMap K V) (K × V) :=
  fun st e m => ((body st e).1, (body st e).2.1.foldl delete m, (body st e).2.2)

/-- An entry set in `m`, as it is now: a `range` over `m.newObjs` skips the keys deleted before
they are reached. -/
def ownEntry (m : XactMap K V) (key : K) : Option (K × V) :=
  (m.newObjs.lookup key).map (key, ·)

/-- An entry the parent hands on, unless `m` now sets or deletes its key: the callback that
`entriesImpl` passes to the parent. -/
def parentEntry (m : XactMap K V) (e : K × V) : Option (K × V) :=
  if e.1 ∈ m.newObjs ∨ e.1 ∈ m.deletes then none else some e

/-- The first part of a loop over `m.Entries()`: a `range` over `m.newObjs`. -/
def rangeOwn {σ : Type} (body : EntriesBody σ K V) (st : σ) (m : XactMap K V) :
    Range.Walk σ (XactMap K V) (K × V) :=
  Range.walk ownEntry body.onMap m.newObjs.keys ⟨st, m, [], false⟩

/-- `for k, v := range m.Entries() { body }`: the entries set in `m`, then those its parent
hands on. The ancestors do not change during the loop, so what the parent hands on is
`offered`. -/
def rangeEntries {σ : Type} (body : EntriesBody σ K V) (st : σ) (m : XactMap K V) :
    Range.Walk σ (XactMap K V) (K × V) :=
  let own := rangeOwn body st m
  if own.stopped then own
  else match m.parent with
    | some p => Range.walk parentEntry body.onMap (offered p) own
    | none => own

/-! ### The finite map an `XactMap` stands for -/

/-- What the map holds: the parent's view without the keys deleted here, overridden by the keys
set here. A map without a parent holds what is set in it. -/
def view : XactMap K V → K → Option V
  | ⟨parent, newObjs, deletes⟩, key =>
    (newObjs.lookup key).or
      (match parent with
        | some p => if key ∈ deletes then none else p.view key
        | none => none)

/-- In no map of the chain is a key both set and deleted, and the map at the root records no
deletion. -/
def WellFormed : XactMap K V → Prop
  | ⟨parent, newObjs, deletes⟩ =>
    (∀ k, k ∈ newObjs → k ∉ deletes) ∧
      match parent with
      | some p => p.WellFormed
      | none => ∀ k, k ∉ deletes

/-- The maps a program builds from `NewXactMap()` with `NewTransaction`, `Set`, `Delete` and
`Commit`, and the parents a transaction was opened on. -/
inductive Built : XactMap K V → Prop
  | new : Built newXactMap
  | transaction {m : XactMap K V} : Built m → Built m.newTransaction
  | set {m : XactMap K V} (k : K) (v : V) : Built m → Built (m.set k v)
  | delete {m : XactMap K V} (k : K) : Built m → Built (m.delete k)
  | commit {m m' : XactMap K V} : Built m → m.commit = .ok m' → Built m'
  | parent {m p : XactMap K V} : Built m → m.parent = some p → Built p

/-- A change a program makes through `Set` or `Delete`. -/
inductive Op (K V : Type)
  | set (k : K) (v : V)
  | delete (k : K)

/-- The change, made on an `XactMap`. -/
def Op.run (m : XactMap K V) : Op K V → XactMap K V
  | .set k v => m.set k v
  | .delete k => m.delete k

/-- The change, made on the finite map: an update, or a removal. -/
def Op.update (f : K → Option V) : Op K V → K → Option V
  | .set k v => Function.update f k (some v)
  | .delete k => Function.update f k none

theorem get_eq_view : ∀ (m : XactMap K V) (key : K), m.get key = m.view key
  | ⟨some p, newObjs, deletes⟩, key => by
    simp only [get, view]
    cases newObjs.lookup key with
    | some v => rfl
    | none =>
      simp only [Option.none_or]
      split
      · rfl
      · exact get_eq_view p key
  | ⟨none, newObjs, deletes⟩, key => by
    simp only [get, view]
    cases newObjs.lookup key with
    | some v => rfl
    | none => simp

@[simp] theorem parent_set (m : XactMap K V) (key : K) (value : V) :
    (m.set key value).parent = m.parent := rfl

@[simp] theorem parent_delete (m : XactMap K V) (key : K) : (m.delete key).parent = m.parent := by
  unfold delete
  split
  · split <;> rfl
  · rfl

theorem view_set (m : XactMap K V) (key : K) (value : V) :
    (m.set key value).view = Function.update m.view key (some value) := by
  funext k
  obtain ⟨parent, newObjs, deletes⟩ := m
  by_cases same : k = key
  · subst same
    cases parent <;> simp [set, view, AList.lookup_insert]
  · cases parent <;>
      simp [set, view, AList.lookup_insert_ne same, AList.mem_erase, same]

theorem view_delete (m : XactMap K V) (key : K) :
    (m.delete key).view = Function.update m.view key none := by
  funext k
  obtain ⟨parent, newObjs, deletes⟩ := m
  cases parent with
  | none =>
    by_cases same : k = key
    · subst same
      simp [delete, view, AList.lookup_erase]
    · simp [delete, view, AList.lookup_erase_ne same, same]
  | some p =>
    by_cases found : (p.get key).isSome
    · by_cases same : k = key
      · subst same
        simp [delete, view, found, AList.lookup_erase]
      · simp [delete, view, found, AList.lookup_erase_ne same, AList.mem_insert, same]
    · -- the parent does not have the key, so nothing needs to be recorded
      simp only [Option.not_isSome_iff_eq_none] at found
      have absent : p.view key = none := by rw [← get_eq_view]; exact found
      by_cases same : k = key
      · subst same
        simp [delete, view, found, absent, AList.lookup_erase]
      · simp [delete, view, found, AList.lookup_erase_ne same, same]


theorem view_deleteAll (ks : List K) :
    ∀ m : XactMap K V, (ks.foldl delete m).view = fun k => if k ∈ ks then none else m.view k := by
  induction ks with
  | nil => intro m; simp
  | cons key rest ih =>
    intro m
    funext k
    rw [List.foldl_cons, ih, view_delete]
    by_cases same : k = key
    · simp [same]
    · simp [same]

theorem parent_deleteAll (ks : List K) :
    ∀ m : XactMap K V, (ks.foldl delete m).parent = m.parent := by
  induction ks with
  | nil => intro m; rfl
  | cons key rest ih => intro m; rw [List.foldl_cons, ih, parent_delete]

theorem view_setAll (es : List (Σ _ : K, V)) (nodup : es.NodupKeys) :
    ∀ m : XactMap K V, (es.foldl (fun p e => p.set e.1 e.2) m).view =
      fun k => (es.dlookup k).or (m.view k) := by
  induction es with
  | nil => intro m; simp
  | cons e rest ih =>
    intro m
    obtain ⟨key, value⟩ := e
    obtain ⟨fresh, nodup'⟩ := List.nodupKeys_cons.mp nodup
    funext k
    rw [List.foldl_cons, ih nodup', view_set]
    by_cases same : k = key
    · subst same
      simp [List.dlookup_eq_none.mpr fresh, List.dlookup_cons_eq]
    · simp [Function.update_of_ne same, List.dlookup_cons_ne rest ⟨key, value⟩ same]

theorem parent_setAll (es : List (Σ _ : K, V)) :
    ∀ m : XactMap K V, (es.foldl (fun p e => p.set e.1 e.2) m).parent = m.parent := by
  induction es with
  | nil => intro m; rfl
  | cons e rest ih => intro m; rw [List.foldl_cons, ih, parent_set]

/-- Committing makes the parent hold what the child held, and leaves the grandparent alone. -/
theorem commit_view {m p : XactMap K V} (hp : m.parent = some p) :
    ∃ p', m.commit = .ok ⟨some p', ∅, ∅⟩ ∧ p'.view = m.view ∧ p'.parent = p.parent := by
  obtain ⟨parent, newObjs, deletes⟩ := m
  cases hp
  refine ⟨_, rfl, ?_, by rw [parent_setAll, parent_deleteAll]⟩
  rw [view_setAll _ newObjs.nodupKeys, view_deleteAll]
  funext k
  simp [view, AList.lookup, AList.mem_keys]

@[simp] theorem view_empty_over (p : XactMap K V) : (⟨some p, ∅, ∅⟩ : XactMap K V).view = p.view := by
  funext k
  simp [view]


theorem mem_pairs {s : GoMap K V} {e : K × V} :
    e ∈ s.entries.map (fun x => (x.1, x.2)) ↔ s.lookup e.1 = some e.2 := by
  obtain ⟨k, v⟩ := e
  rw [List.mem_map, ← Option.mem_def, AList.mem_lookup_iff]
  constructor
  · rintro ⟨⟨k', v'⟩, member, same⟩
    simp only [Prod.mk.injEq] at same
    obtain ⟨rfl, rfl⟩ := same
    exact member
  · exact fun member => ⟨⟨k, v⟩, member, rfl⟩

/-- `Entries()` with nothing changing hands on exactly the entries of the view. -/
theorem mem_offered : ∀ (m : XactMap K V) (e : K × V), e ∈ m.offered ↔ m.view e.1 = some e.2
  | ⟨some p, newObjs, deletes⟩, e => by
    simp only [offered, view, List.mem_append, mem_pairs, List.mem_filter, mem_offered p e,
      decide_eq_true_eq, Option.or_eq_some_iff]
    cases found : newObjs.lookup e.1 with
    | some v =>
      have present : e.1 ∈ newObjs := AList.lookup_isSome.mp (by simp [found])
      simp [present]
    | none =>
      have absent : e.1 ∉ newObjs := AList.lookup_eq_none.mp found
      by_cases deleted : e.1 ∈ deletes <;> simp [absent, deleted]
  | ⟨none, newObjs, deletes⟩, e => by
    simp [offered, view, mem_pairs]

/-- ... and each of their keys once. -/
theorem offered_keys_nodup : ∀ m : XactMap K V, (m.offered.map Prod.fst).Nodup
  | ⟨some p, newObjs, deletes⟩ => by
    have own : ((newObjs.entries.map (fun x => (x.1, x.2))).map Prod.fst).Nodup := by
      simpa [AList.keys, List.keys, List.map_map, Function.comp_def] using newObjs.keys_nodup
    have inherited : ((p.offered.filter
        (fun e => decide (e.1 ∉ newObjs ∧ e.1 ∉ deletes))).map Prod.fst).Nodup :=
      (offered_keys_nodup p).sublist (List.filter_sublist.map Prod.fst)
    simp only [offered, List.map_append]
    refine List.nodup_append.mpr ⟨own, inherited, ?_⟩
    intro a mine b theirs same
    simp only [List.map_map, List.mem_map, Function.comp_apply, List.mem_filter,
      decide_eq_true_eq] at mine theirs
    obtain ⟨x, xMember, rfl⟩ := mine
    obtain ⟨y, ⟨_, notSet, _⟩, rfl⟩ := theirs
    exact notSet (same ▸ AList.mem_keys.mpr (List.mem_map_of_mem xMember))
  | ⟨none, newObjs, deletes⟩ => by
    simpa [offered, AList.keys, List.keys, List.map_map, Function.comp_def] using newObjs.keys_nodup


theorem newObjs_delete (m : XactMap K V) (key : K) :
    (m.delete key).newObjs = m.newObjs.erase key := by
  unfold delete
  split
  · split <;> rfl
  · rfl

theorem deletes_delete {m : XactMap K V} {k : K} (key : K) (deleted : k ∈ m.deletes) :
    k ∈ (m.delete key).deletes := by
  unfold delete
  split
  · split
    · exact AList.mem_insert _ |>.mpr (.inr deleted)
    · exact deleted
  · exact deleted

/-- Deleting a key the parent has leaves a tombstone, so a key set here or deleted here stays
so. -/
theorem tombstone_delete {m p : XactMap K V} (hp : m.parent = some p) {k : K}
    (found : (p.get k).isSome) (key : K) (kept : k ∈ m.newObjs ∨ k ∈ m.deletes) :
    k ∈ (m.delete key).newObjs ∨ k ∈ (m.delete key).deletes := by
  by_cases same : k = key
  · subst same
    right
    simp [delete, hp, found, AList.mem_insert]
  · rcases kept with set | deleted
    · left
      rw [newObjs_delete]
      exact AList.mem_erase.mpr ⟨same, set⟩
    · exact .inr (deletes_delete key deleted)

theorem view_of_own {m : XactMap K V} {k : K} {v : V} (own : m.newObjs.lookup k = some v) :
    m.view k = some v := by
  obtain ⟨parent, newObjs, deletes⟩ := m
  cases parent <;> simp_all [view]

theorem view_of_inherited {m p : XactMap K V} (hp : m.parent = some p) {k : K}
    (notSet : k ∉ m.newObjs) (notDeleted : k ∉ m.deletes) : m.view k = p.view k := by
  obtain ⟨parent, newObjs, deletes⟩ := m
  cases hp
  simp [view, AList.lookup_eq_none.mpr notSet, notDeleted]

/-- What a loop over `Entries()` keeps of the map it walks, from the map `m` it started on. -/
structure Walked (m s : XactMap K V) : Prop where
  parent : s.parent = m.parent
  view : ∀ k v, s.view k = some v → m.view k = some v
  newObjs : ∀ k v, s.newObjs.lookup k = some v → m.newObjs.lookup k = some v
  deletes : ∀ k, k ∈ m.deletes → k ∈ s.deletes
  tombstones : ∀ k p, m.parent = some p → (p.get k).isSome → k ∈ m.newObjs →
    k ∈ s.newObjs ∨ k ∈ s.deletes

theorem Walked.refl (m : XactMap K V) : Walked m m :=
  ⟨rfl, fun _ _ h => h, fun _ _ h => h, fun _ h => h, fun _ _ _ _ h => .inl h⟩

theorem Walked.delete {m s : XactMap K V} (walked : Walked m s) (key : K) :
    Walked m (s.delete key) where
  parent := by rw [parent_delete, walked.parent]
  view k v held := by
    rw [view_delete] at held
    by_cases same : k = key
    · simp [same] at held
    · exact walked.view k v (by simpa [Function.update_of_ne same] using held)
  newObjs k v held := by
    rw [newObjs_delete] at held
    by_cases same : k = key
    · subst same
      rw [AList.lookup_erase] at held
      cases held
    · exact walked.newObjs k v (by rwa [AList.lookup_erase_ne same] at held)
  deletes k deleted := deletes_delete key (walked.deletes k deleted)
  tombstones k p hp found set :=
    tombstone_delete (walked.parent.trans hp) found key (walked.tombstones k p hp found set)

theorem Walked.deleteAll {m : XactMap K V} (ks : List K) :
    ∀ s, Walked m s → Walked m (ks.foldl XactMap.delete s) := by
  induction ks with
  | nil => exact fun s walked => walked
  | cons key rest ih => exact fun s walked => ih _ (walked.delete key)

theorem Walked.onMap {σ : Type} {m s : XactMap K V} (body : EntriesBody σ K V) (st : σ)
    (e : K × V) (walked : Walked m s) : Walked m (body.onMap st e s).2.1 :=
  Walked.deleteAll _ s walked


section Entries

variable {σ : Type} (body : EntriesBody σ K V) (st : σ) (m : XactMap K V)

theorem rangeOwn_spec :
    Walked m (m.rangeOwn body st).store ∧
    ((m.rangeOwn body st).handed.map (·.1.1)).Sublist m.newObjs.keys ∧
    ∀ e ∈ (m.rangeOwn body st).handed, Walked m e.2 ∧ e.2.newObjs.lookup e.1.1 = some e.1.2 := by
  obtain ⟨store, new, grown, picked⟩ :=
    @Range.walk_invariant σ (XactMap K V) K (K × V) ownEntry body.onMap (Walked m)
      (fun st e s walked => walked.onMap body st e) m.newObjs.keys ⟨st, m, [], false⟩ (.refl m)
  obtain ⟨new', grown', sub⟩ :=
    @Range.walk_handed_sublist σ (XactMap K V) K (K × V) ownEntry body.onMap K id Prod.fst
      (fun s k e picked => by
        simp only [ownEntry, Option.map_eq_some_iff] at picked
        obtain ⟨v, -, rfl⟩ := picked
        rfl) m.newObjs.keys ⟨st, m, [], false⟩
  simp only [List.nil_append] at grown grown'
  refine ⟨store, ?_, ?_⟩
  · rw [rangeOwn, grown']
    simpa [Function.comp_def] using sub
  · intro e member
    rw [rangeOwn, grown] at member
    obtain ⟨walked, k, -, picked⟩ := picked e member
    simp only [ownEntry, Option.map_eq_some_iff] at picked
    obtain ⟨v, found, same⟩ := picked
    rw [← same]
    exact ⟨walked, found⟩

theorem parentEntry_eq_some {s : XactMap K V} {a c : K × V} :
    s.parentEntry a = some c ↔ c = a ∧ a.1 ∉ s.newObjs ∧ a.1 ∉ s.deletes := by
  unfold parentEntry
  split
  next shadowed => simp only [reduceCtorEq, false_iff]; tauto
  next visible => simp only [Option.some.injEq, not_or] at visible ⊢; tauto

theorem get_isSome_of_offered {p : XactMap K V} {e : K × V} (member : e ∈ p.offered) :
    (p.get e.1).isSome := by
  rw [get_eq_view, (mem_offered p e).mp member]
  rfl

theorem rangeParent_spec {p : XactMap K V} (w : Range.Walk σ (XactMap K V) (K × V)) (walked : Walked m w.store) :
    Walked m (Range.walk parentEntry body.onMap p.offered w).store ∧
    ∃ new, (Range.walk parentEntry body.onMap p.offered w).handed = w.handed ++ new ∧
      (new.map (·.1.1)).Sublist (p.offered.map Prod.fst) ∧
      ∀ e ∈ new, Walked m e.2 ∧ e.1 ∈ p.offered ∧ e.1.1 ∉ e.2.newObjs ∧ e.1.1 ∉ e.2.deletes := by
  obtain ⟨store, new, grown, picked⟩ :=
    @Range.walk_invariant σ (XactMap K V) (K × V) (K × V) parentEntry body.onMap (Walked m)
      (fun st e s walked => walked.onMap body st e) p.offered w walked
  obtain ⟨new', grown', sub⟩ :=
    @Range.walk_handed_sublist σ (XactMap K V) (K × V) (K × V) parentEntry body.onMap K
      Prod.fst Prod.fst (fun s a e picked => by rw [(parentEntry_eq_some.mp picked).1]) p.offered w
  obtain rfl : new = new' := List.append_cancel_left (grown.symm.trans grown')
  refine ⟨store, new, grown, by simpa [Function.comp_def] using sub, fun e member => ?_⟩
  obtain ⟨walkedThen, a, offeredA, picked⟩ := picked e member
  obtain ⟨rfl, notSet, notDeleted⟩ := parentEntry_eq_some.mp picked
  exact ⟨walkedThen, offeredA, notSet, notDeleted⟩

theorem view_root {s : XactMap K V} (root : s.parent = none) (k : K) :
    s.view k = s.newObjs.lookup k := by
  obtain ⟨parent, newObjs, deletes⟩ := s
  cases root
  simp [view]

theorem view_eq_some_iff {s p : XactMap K V} (hp : s.parent = some p) {k : K} {v : V} :
    s.view k = some v ↔
      s.newObjs.lookup k = some v ∨ (k ∉ s.newObjs ∧ k ∉ s.deletes ∧ p.view k = some v) := by
  obtain ⟨parent, newObjs, deletes⟩ := s
  cases hp
  simp only [view, Option.or_eq_some_iff, AList.lookup_eq_none]
  by_cases deleted : k ∈ deletes <;> simp [deleted]

/-- The loop is its first part, or, when that went on to the end and there is a parent, its
first part followed by the walk over what the parent hands on. -/
theorem rangeEntries_cases :
    ((m.rangeOwn body st).stopped = true ∨ m.parent = none) ∧
        m.rangeEntries body st = m.rangeOwn body st ∨
      ∃ p, m.parent = some p ∧ (m.rangeOwn body st).stopped = false ∧
        m.rangeEntries body st = Range.walk parentEntry body.onMap p.offered (m.rangeOwn body st) := by
  by_cases ownStopped : (m.rangeOwn body st).stopped = true
  · exact .inl ⟨.inl ownStopped, by simp [rangeEntries, ownStopped]⟩
  · cases parentIs : m.parent with
    | none => exact .inl ⟨.inr rfl, by simp [rangeEntries, parentIs]⟩
    | some p =>
      exact .inr ⟨p, rfl, by simpa using ownStopped, by simp [rangeEntries, ownStopped, parentIs]⟩

theorem rangeEntries_store : Walked m (m.rangeEntries body st).store := by
  rcases rangeEntries_cases body st m with ⟨-, same⟩ | ⟨p, -, -, same⟩
  · rw [same]
    exact (rangeOwn_spec body st m).1
  · rw [same]
    exact (rangeParent_spec body m (m.rangeOwn body st) (rangeOwn_spec body st m).1).1

theorem rangeEntries_handed :
    ∀ e ∈ (m.rangeEntries body st).handed, Walked m e.2 ∧ e.2.view e.1.1 = some e.1.2 := by
  have ownFacts : ∀ e ∈ (m.rangeOwn body st).handed,
      Walked m e.2 ∧ e.2.view e.1.1 = some e.1.2 := fun e member =>
    ⟨((rangeOwn_spec body st m).2.2 e member).1,
      view_of_own ((rangeOwn_spec body st m).2.2 e member).2⟩
  rcases rangeEntries_cases body st m with ⟨-, same⟩ | ⟨p, hp, -, same⟩
  · rw [same]
    exact ownFacts
  · obtain ⟨-, new, grown, -, picked⟩ :=
      rangeParent_spec body m (m.rangeOwn body st) (rangeOwn_spec body st m).1
    rw [same, grown]
    intro e member
    rcases List.mem_append.mp member with own | later
    · exact ownFacts e own
    · obtain ⟨walked, offeredE, notSet, notDeleted⟩ := picked e later
      refine ⟨walked, ?_⟩
      rw [view_of_inherited (walked.parent.trans hp) notSet notDeleted]
      exact (mem_offered p e.1).mp offeredE

theorem rangeEntries_nodup : ((m.rangeEntries body st).handed.map (·.1.1)).Nodup := by
  have ownNodup : ((m.rangeOwn body st).handed.map (·.1.1)).Nodup :=
    (rangeOwn_spec body st m).2.1.nodup m.newObjs.keys_nodup
  rcases rangeEntries_cases body st m with ⟨-, same⟩ | ⟨p, hp, -, same⟩
  · rw [same]
    exact ownNodup
  · obtain ⟨-, new, grown, sub, picked⟩ :=
      rangeParent_spec body m (m.rangeOwn body st) (rangeOwn_spec body st m).1
    rw [same, grown, List.map_append]
    refine List.nodup_append.mpr ⟨ownNodup, sub.nodup (offered_keys_nodup p), ?_⟩
    -- a key handed first was set in `m`; one handed later was neither set nor deleted then,
    -- which the tombstones rule out for a key set in `m` that the parent has
    intro x ownX y laterY same
    obtain ⟨e, member, rfl⟩ := List.mem_map.mp laterY
    obtain ⟨walked, offeredE, notSet, notDeleted⟩ := picked e member
    have setX : x ∈ m.newObjs := AList.mem_keys.mpr ((rangeOwn_spec body st m).2.1.subset ownX)
    rw [same] at setX
    rcases walked.tombstones e.1.1 p hp (get_isSome_of_offered offeredE) setX with
      stillSet | deleted
    · exact notSet stillSet
    · exact notDeleted deleted

theorem rangeEntries_complete (finished : (m.rangeEntries body st).stopped = false) {k : K}
    {v : V} (held : (m.rangeEntries body st).store.view k = some v) :
    ∃ s, ((k, v), s) ∈ (m.rangeEntries body st).handed := by
  have ownComplete : (m.rangeOwn body st).stopped = false →
      (m.rangeOwn body st).store.newObjs.lookup k = some v →
      ∃ s, ((k, v), s) ∈ (m.rangeOwn body st).handed := fun going found =>
    Range.walk_complete (Walked m) (fun st e s walked => walked.onMap body st e) m.newObjs.keys
      (fun st' b s a c _ _ picked => by
        simp only [ownEntry, Option.map_eq_some_iff] at picked ⊢
        obtain ⟨v', found', rfl⟩ := picked
        exact ⟨v', ((Walked.refl s).onMap body st' b).newObjs a v' found', rfl⟩)
      m.newObjs.keys ⟨st, m, [], false⟩ (fun _ member => member) (.refl m) going k
      (AList.mem_keys.mp (AList.lookup_isSome.mp
        (by rw [((rangeOwn_spec body st m).1.newObjs k v found)]; rfl)))
      (k, v) (by rw [rangeOwn] at found; simp [ownEntry, found])
  rcases rangeEntries_cases body st m with ⟨stoppedOrRoot, same⟩ | ⟨p, parentIs, going, same⟩
  · rw [same] at finished held ⊢
    rcases stoppedOrRoot with stopped | root
    · rw [stopped] at finished
      cases finished
    · rw [view_root ((rangeOwn_spec body st m).1.parent.trans root)] at held
      exact ownComplete finished held
  · rw [same] at finished held ⊢
    obtain ⟨walkedEnd, new, grown, -, -⟩ :=
      rangeParent_spec body m (m.rangeOwn body st) (rangeOwn_spec body st m).1
    rcases (view_eq_some_iff (walkedEnd.parent.trans parentIs)).mp held with
      setAtEnd | ⟨notSet, notDeleted, inherited⟩
    · -- still set at the end, so set at the end of the first part, where it was handed
      have sinceOwn := (@Range.walk_invariant σ (XactMap K V) (K × V) (K × V) parentEntry
        body.onMap (Walked (m.rangeOwn body st).store) (fun st e s walked => walked.onMap body st e)
        p.offered (m.rangeOwn body st) (.refl _)).1
      obtain ⟨s, member⟩ := ownComplete going (sinceOwn.newObjs k v setAtEnd)
      exact ⟨s, by rw [grown]; exact List.mem_append_left _ member⟩
    · -- inherited from the parent, neither set nor deleted since: handed in the second part
      exact Range.walk_complete (Walked m) (fun st e s walked => walked.onMap body st e)
        p.offered
        (fun st' b s a c walked offeredA picked => by
          have after := (Walked.refl s).onMap body st' b
          obtain ⟨same, notSet', notDeleted'⟩ := parentEntry_eq_some.mp picked
          refine parentEntry_eq_some.mpr ⟨same, fun setA => ?_,
            fun deletedA => notDeleted' (after.deletes _ deletedA)⟩
          rcases after.tombstones a.1 p (walked.parent.trans parentIs)
            (get_isSome_of_offered offeredA) setA with stillSet | deleted
          · exact notSet' stillSet
          · exact notDeleted' deleted)
        p.offered (m.rangeOwn body st) (fun _ member => member) (rangeOwn_spec body st m).1
        finished (k, v) ((mem_offered p (k, v)).mpr inherited) (k, v)
        (parentEntry_eq_some.mpr ⟨rfl, notSet, notDeleted⟩)

/-- What the body keeps of its own state, for each entry it is handed with the map as the entry
is current in, holds at the end of the loop. -/
theorem rangeEntries_state (J : σ → Prop)
    (keeps : ∀ st e s, J st → Walked m s → s.view e.1 = some e.2 → J (body st e).1) (init : J st) :
    J (m.rangeEntries body st).state := by
  have keeps' : ∀ st e s, J st → (Walked m s ∧ s.view e.1 = some e.2) → J (body.onMap st e s).1 :=
    fun st e s inv ⟨walked, current⟩ => keeps st e s inv walked current
  have handed := rangeEntries_handed body st m
  have ownState : (∀ e ∈ (m.rangeOwn body st).handed, Walked m e.2 ∧ e.2.view e.1.1 = some e.1.2) →
      J (m.rangeOwn body st).state :=
    Range.walk_state J _ keeps' m.newObjs.keys ⟨st, m, [], false⟩ init
  rcases rangeEntries_cases body st m with ⟨-, same⟩ | ⟨p, -, -, same⟩
  · rw [same] at handed ⊢
    exact ownState handed
  · rw [same] at handed ⊢
    -- what the first part handed is handed by the end too
    obtain ⟨new, grown⟩ := @Range.walk_handed_grows σ (XactMap K V) (K × V) (K × V) parentEntry
      body.onMap p.offered (m.rangeOwn body st)
    refine Range.walk_state J _ keeps' p.offered _ (ownState fun e member => ?_) handed
    exact handed e (by rw [grown]; exact List.mem_append_left _ member)

/-- A property of the loop's state, the map it walks and what it handed so far, kept by each step
whose record is, with those before it, a prefix of what the loop hands in the end, holds at the
end of the loop. -/
theorem rangeEntries_history (P : σ → XactMap K V → List ((K × V) × XactMap K V) → Prop)
    (init : P st m [])
    (keeps : ∀ st' s H e, P st' s H → H ++ [(e, s)] <+: (m.rangeEntries body st).handed →
      P (body st' e).1 ((body st' e).2.1.foldl delete s) (H ++ [(e, s)])) :
    P (m.rangeEntries body st).state (m.rangeEntries body st).store
      (m.rangeEntries body st).handed := by
  have ownPart := @Range.walk_history σ (XactMap K V) K (K × V) ownEntry body.onMap P
    m.newObjs.keys ⟨st, m, [], false⟩ init
  rcases rangeEntries_cases body st m with ⟨-, same⟩ | ⟨p, -, -, same⟩
  · rw [same] at keeps ⊢
    exact ownPart keeps
  · rw [same] at keeps ⊢
    -- the first part's record is a prefix of the whole loop's
    obtain ⟨new, grown⟩ := @Range.walk_handed_grows σ (XactMap K V) (K × V) (K × V) parentEntry
      body.onMap p.offered (m.rangeOwn body st)
    refine Range.walk_history P p.offered (m.rangeOwn body st) (ownPart ?_) keeps
    exact fun st' s H e inv isPrefix => keeps st' s H e inv (isPrefix.trans ⟨new, grown.symm⟩)

/-- A loop whose body stops only into states outside `J` went to the end when it ends in a
state of `J`. -/
theorem rangeEntries_going (J : σ → Prop) (stops : ∀ st e, (body st e).2.2 = false → ¬J (body st e).1)
    (final : J (m.rangeEntries body st).state) : (m.rangeEntries body st).stopped = false := by
  have stops' : ∀ st e s, (body.onMap st e s).2.2 = false → ¬J (body.onMap st e s).1 :=
    fun st e _ halted => stops st e halted
  rcases rangeEntries_cases body st m with ⟨-, same⟩ | ⟨p, -, going, same⟩
  · rw [same] at final ⊢
    exact Range.walk_going J stops' m.newObjs.keys ⟨st, m, [], false⟩ rfl final
  · rw [same] at final ⊢
    exact Range.walk_going J stops' p.offered (m.rangeOwn body st) going final

/-- The entry a step is handed is one the map had at the start, under a key not handed before. -/
theorem rangeEntries_step_fresh {H : List ((K × V) × XactMap K V)} {e : K × V} {s : XactMap K V}
    (isPrefix : H ++ [(e, s)] <+: (m.rangeEntries body st).handed) :
    e.1 ∉ H.map (·.1.1) ∧ m.view e.1 = some e.2 := by
  have member : (e, s) ∈ (m.rangeEntries body st).handed := isPrefix.subset (by simp)
  obtain ⟨walked, current⟩ := rangeEntries_handed body st m _ member
  have nodup := (rangeEntries_nodup body st m).sublist (isPrefix.sublist.map (·.1.1))
  rw [List.map_append, List.nodup_append] at nodup
  exact ⟨fun old => nodup.2.2 _ old _ (by simp) rfl, walked.view _ _ current⟩

/-- A loop that goes to the end, with a body that deletes at most the key it is handed, is handed
exactly the keys of the map. -/
theorem rangeEntries_handed_keys (own : ∀ st e, ∀ k ∈ (body st e).2.1, k = e.1)
    (finished : (m.rangeEntries body st).stopped = false) (k : K) :
    k ∈ (m.rangeEntries body st).handed.map (·.1.1) ↔ (m.view k).isSome := by
  constructor
  · intro member
    obtain ⟨e, handed, rfl⟩ := List.mem_map.mp member
    obtain ⟨walked, current⟩ := rangeEntries_handed body st m e handed
    rw [walked.view _ _ current]
    rfl
  · intro present
    -- a key not handed yet has not been deleted
    have untouched : ∀ st' s H e, (k ∉ H.map (·.1.1) → s.view k = m.view k) →
        H ++ [(e, s)] <+: (m.rangeEntries body st).handed →
        k ∉ (H ++ [(e, s)]).map (·.1.1) → ((body st' e).2.1.foldl delete s).view k = m.view k := by
      intro st' s H e inv _ fresh
      simp only [List.map_append, List.map_cons, List.map_nil, List.mem_append,
        List.mem_singleton, not_or] at fresh
      rw [view_deleteAll]
      dsimp only
      rw [if_neg fun deleted => fresh.2 (own st' e k deleted)]
      exact inv fresh.1
    have kept := rangeEntries_history body st m
      (fun _ s H => k ∉ H.map (·.1.1) → s.view k = m.view k) (fun _ => rfl) untouched
    -- so a key never handed is still there at the end, where every key left was handed
    by_contra unhanded
    obtain ⟨v, found⟩ := Option.isSome_iff_exists.mp present
    obtain ⟨s, member⟩ := rangeEntries_complete body st m finished ((kept unhanded).trans found)
    exact unhanded (List.mem_map.mpr ⟨_, member, rfl⟩)

end Entries

/-! ### Two loops of `Node.Update` -/

section Loops

variable (m : XactMap K V)

/-- A loop that sets each entry it is handed into a map of its state, and records whether that
changed the map's value for the key, ends with the walked map laid over the state's map. -/
theorem rangeEntries_setEach {body : EntriesBody (XactMap K V × Bool) K V} {a : XactMap K V}
    {c : Bool} {r : Range.Walk (XactMap K V × Bool) (XactMap K V) (K × V)}
    (ran : m.rangeEntries body (a, c) = r)
    (shape : ∀ acc e, (body acc e).2 = ([], true) ∧
      (body acc e).1.1.view = Function.update acc.1.view e.1 (some e.2) ∧
      (body acc e).1.1.parent = acc.1.parent ∧
      ((body acc e).1.2 = true ↔ acc.2 = true ∨ acc.1.view e.1 ≠ some e.2)) :
    r.state.1.view = (fun k => (m.view k).or (a.view k)) ∧ r.state.1.parent = a.parent ∧
      (r.state.2 = true ↔ c = true ∨ ∃ k v, m.view k = some v ∧ a.view k ≠ some v) := by
  subst ran
  have going : (m.rangeEntries body (a, c)).stopped = false :=
    rangeEntries_going body (a, c) m (fun _ => True)
      (fun acc e halted => by rw [(shape acc e).1] at halted; cases halted) trivial
  have keys := rangeEntries_handed_keys body (a, c) m
    (fun acc e k deleted => by rw [(shape acc e).1] at deleted; cases deleted) going
  -- after the entries `H`, the state's map holds them over `a`, and the flag says whether one of
  -- them differed from `a`
  have step : ∀ acc s (H : List ((K × V) × XactMap K V)) e,
      ((∀ k, acc.1.view k = if k ∈ H.map (·.1.1) then m.view k else a.view k) ∧
        acc.1.parent = a.parent ∧
        (acc.2 = true ↔ c = true ∨ ∃ k ∈ H.map (·.1.1), a.view k ≠ m.view k)) →
      H ++ [(e, s)] <+: (m.rangeEntries body (a, c)).handed →
      (∀ k, (body acc e).1.1.view k =
          if k ∈ (H ++ [(e, s)]).map (·.1.1) then m.view k else a.view k) ∧
        (body acc e).1.1.parent = a.parent ∧
        ((body acc e).1.2 = true ↔
          c = true ∨ ∃ k ∈ (H ++ [(e, s)]).map (·.1.1), a.view k ≠ m.view k) := by
    intro acc s H e ⟨view, parent, flag⟩ isPrefix
    obtain ⟨fresh, current⟩ := rangeEntries_step_fresh body (a, c) m isPrefix
    obtain ⟨-, view', parent', flag'⟩ := shape acc e
    refine ⟨fun k => ?_, parent'.trans parent, ?_⟩
    · rw [view', Function.update_apply]
      by_cases same : k = e.1
      · simp [same, current]
      · simp only [same, view k, List.map_append, List.map_cons, List.map_nil, List.mem_append,
          List.mem_singleton, or_false, if_false]
    · rw [flag', flag, view e.1, if_neg fresh, ← current]
      simp only [List.map_append, List.map_cons, List.map_nil, List.mem_append,
        List.mem_singleton, ne_eq]
      constructor
      · rintro ((start | ⟨k, old, differs⟩) | differs)
        · exact .inl start
        · exact .inr ⟨k, .inl old, differs⟩
        · exact .inr ⟨e.1, .inr rfl, differs⟩
      · rintro (start | ⟨k, old | rfl, differs⟩)
        · exact .inl (.inl start)
        · exact .inl (.inr ⟨k, old, differs⟩)
        · exact .inr differs
  obtain ⟨view, parent, flag⟩ := rangeEntries_history body (a, c) m
    (fun acc _ H => (∀ k, acc.1.view k = if k ∈ H.map (·.1.1) then m.view k else a.view k) ∧
      acc.1.parent = a.parent ∧
      (acc.2 = true ↔ c = true ∨ ∃ k ∈ H.map (·.1.1), a.view k ≠ m.view k))
    ⟨fun k => by simp, rfl, by simp⟩ (fun acc s H e inv isPrefix => step acc s H e inv isPrefix)
  -- at the end the entries handed are those of `m`
  refine ⟨funext fun k => ?_, parent, ?_⟩
  · rw [view k]
    simp only [keys]
    cases m.view k <;> simp
  · rw [flag]
    simp only [keys]
    constructor
    · rintro (start | ⟨k, present, differs⟩)
      · exact .inl start
      · obtain ⟨v, found⟩ := Option.isSome_iff_exists.mp present
        exact .inr ⟨k, v, found, found ▸ differs⟩
    · rintro (start | ⟨k, v, found, differs⟩)
      · exact .inl start
      · exact .inr ⟨k, by simp [found], found ▸ differs⟩

/-- A loop that deletes each key it is handed on which `Q` holds, and records whether it deleted
one, leaves the walked map without those keys. -/
theorem rangeEntries_deleteWhere (Q : K → Bool) {body : EntriesBody Bool K V} {c : Bool}
    {r : Range.Walk Bool (XactMap K V) (K × V)} (ran : m.rangeEntries body c = r)
    (shape : ∀ c e, body c e = if Q e.1 then (true, [e.1], true) else (c, [], true)) :
    r.store.view = (fun k => if Q k then none else m.view k) ∧ r.store.parent = m.parent ∧
      (r.state = true ↔ c = true ∨ ∃ k, (m.view k).isSome ∧ Q k = true) := by
  subst ran
  have going : (m.rangeEntries body c).stopped = false :=
    rangeEntries_going body c m (fun _ => True)
      (fun c' e halted => by rw [shape] at halted; split at halted <;> simp at halted) trivial
  have keys := rangeEntries_handed_keys body c m (fun c' e k deleted => by
    rw [shape] at deleted
    split at deleted
    · exact List.mem_singleton.mp deleted
    · cases deleted) going
  -- after the entries `H`, those of them on which `Q` holds are deleted, and the flag says
  -- whether there was one
  have step : ∀ c' s (H : List ((K × V) × XactMap K V)) e,
      ((∀ k, s.view k = if k ∈ H.map (·.1.1) ∧ Q k = true then none else m.view k) ∧
        (c' = true ↔ c = true ∨ ∃ k ∈ H.map (·.1.1), Q k = true)) →
      (∀ k, ((body c' e).2.1.foldl delete s).view k =
          if k ∈ (H ++ [(e, s)]).map (·.1.1) ∧ Q k = true then none else m.view k) ∧
        ((body c' e).1 = true ↔ c = true ∨ ∃ k ∈ (H ++ [(e, s)]).map (·.1.1), Q k = true) := by
    intro c' s H e ⟨view, flag⟩
    rw [shape]
    by_cases deleting : Q e.1 = true
    · simp only [deleting, if_true, view_deleteAll, List.mem_singleton, List.map_append,
        List.map_cons, List.map_nil, List.mem_append]
      refine ⟨fun k => ?_, by simp only [true_iff]; exact .inr ⟨e.1, .inr rfl, deleting⟩⟩
      by_cases same : k = e.1
      · simp [same, deleting]
      · simp only [same, or_false, if_false, view k]
    · simp only [deleting, Bool.false_eq_true, if_false, List.foldl_nil, List.map_append,
        List.map_cons, List.map_nil, List.mem_append, List.mem_singleton]
      refine ⟨fun k => ?_, ?_⟩
      · by_cases same : k = e.1
        · subst same
          simp [view, deleting]
        · simp only [same, or_false, view k]
      · rw [flag]
        constructor
        · rintro (start | ⟨k, old, deletes⟩)
          · exact .inl start
          · exact .inr ⟨k, .inl old, deletes⟩
        · rintro (start | ⟨k, old | same, deletes⟩)
          · exact .inl start
          · exact .inr ⟨k, old, deletes⟩
          · exact absurd (same ▸ deletes) deleting
  obtain ⟨view, flag⟩ := rangeEntries_history body c m
    (fun c' s H => (∀ k, s.view k = if k ∈ H.map (·.1.1) ∧ Q k = true then none else m.view k) ∧
      (c' = true ↔ c = true ∨ ∃ k ∈ H.map (·.1.1), Q k = true))
    ⟨fun k => by simp, by simp⟩ (fun c' s H e inv _ => step c' s H e inv)
  -- at the end the keys handed are those of `m`
  refine ⟨funext fun k => ?_, (rangeEntries_store body c m).parent, ?_⟩
  · rw [view k]
    simp only [keys]
    cases m.view k <;> cases Q k <;> simp
  · rw [flag]
    simp only [keys]

end Loops


/-! ### Well-formedness -/

omit [DecidableEq K] in
theorem wellFormed_iff (m : XactMap K V) :
    m.WellFormed ↔ (∀ k, k ∈ m.newObjs → k ∉ m.deletes) ∧
      match m.parent with
      | some p => p.WellFormed
      | none => ∀ k, k ∉ m.deletes := by
  obtain ⟨parent, newObjs, deletes⟩ := m
  cases parent <;> rfl

omit [DecidableEq K] in
theorem wellFormed_new : (newXactMap : XactMap K V).WellFormed := by
  simp [newXactMap, WellFormed]

omit [DecidableEq K] in
theorem wellFormed_transaction {m : XactMap K V} (wf : m.WellFormed) :
    m.newTransaction.WellFormed := by
  simp [newTransaction, WellFormed, wf]

theorem wellFormed_set {m : XactMap K V} (wf : m.WellFormed) (key : K) (value : V) :
    (m.set key value).WellFormed := by
  rw [wellFormed_iff] at wf ⊢
  -- the key set is no longer deleted; the others keep their status
  have disjoint : ∀ k, k ∈ m.newObjs.insert key value → k ∉ m.deletes.erase key := by
    intro k set
    rw [AList.mem_erase, not_and_or, not_not]
    rcases (AList.mem_insert _).mp set with same | before
    · exact .inl same
    · exact .inr (wf.1 k before)
  refine ⟨disjoint, ?_⟩
  simp only [parent_set]
  split
  next p hp =>
    simp only [hp] at wf
    exact wf.2
  next root =>
    simp only [root] at wf
    exact fun k deleted => wf.2 k (AList.mem_erase.mp deleted).2

theorem wellFormed_delete {m : XactMap K V} (wf : m.WellFormed) (key : K) :
    (m.delete key).WellFormed := by
  obtain ⟨parent, newObjs, deletes⟩ := m
  cases parent with
  | none =>
    exact ⟨fun k set => wf.2 k, wf.2⟩
  | some p =>
    simp only [delete]
    split
    · refine ⟨fun k set => ?_, wf.2⟩
      obtain ⟨other, before⟩ := AList.mem_erase.mp set
      rw [AList.mem_insert, not_or]
      exact ⟨other, wf.1 k before⟩
    · exact ⟨fun k set => wf.1 k (AList.mem_erase.mp set).2, wf.2⟩

omit [DecidableEq K] in
theorem wellFormed_parent {m p : XactMap K V} (wf : m.WellFormed) (hp : m.parent = some p) :
    p.WellFormed := by
  obtain ⟨parent, newObjs, deletes⟩ := m
  cases hp
  exact wf.2

theorem wellFormed_commit {m m' : XactMap K V} (wf : m.WellFormed) (committed : m.commit = .ok m') :
    m'.WellFormed := by
  obtain ⟨parent, newObjs, deletes⟩ := m
  cases parent with
  | none => cases committed
  | some p =>
    simp only [commit, pure_eq_ok] at committed
    subst committed
    -- the replay goes through the parent's own `Delete` and `Set`, which keep it well formed
    have deleted : ∀ (ks : List K) (q : XactMap K V), q.WellFormed → (ks.foldl delete q).WellFormed := by
      intro ks
      induction ks with
      | nil => exact fun q wq => wq
      | cons k rest ih => exact fun q wq => ih _ (wellFormed_delete wq k)
    have setAll : ∀ (es : List (Σ _ : K, V)) (q : XactMap K V), q.WellFormed →
        (es.foldl (fun q e => q.set e.1 e.2) q).WellFormed := by
      intro es
      induction es with
      | nil => exact fun q wq => wq
      | cons e rest ih => exact fun q wq => ih _ (wellFormed_set wq e.1 e.2)
    exact ⟨by simp, setAll _ _ (deleted _ _ wf.2)⟩

/-- Every map a program builds is well formed. -/
theorem Built.wellFormed {m : XactMap K V} (built : m.Built) : m.WellFormed := by
  induction built with
  | new => exact wellFormed_new
  | transaction _ wf => exact wellFormed_transaction wf
  | set k v _ wf => exact wellFormed_set wf k v
  | delete k _ wf => exact wellFormed_delete wf k
  | commit _ committed wf => exact wellFormed_commit wf committed
  | parent _ hp wf => exact wellFormed_parent wf hp

/-! ### Sequences of changes -/

theorem view_run (m : XactMap K V) (op : Op K V) : (Op.run m op).view = Op.update m.view op := by
  cases op with
  | set k v => exact view_set m k v
  | delete k => exact view_delete m k

theorem parent_run (m : XactMap K V) (op : Op K V) : (Op.run m op).parent = m.parent := by
  cases op with
  | set k v => exact parent_set m k v
  | delete k => exact parent_delete m k

/-- A sequence of `Set` and `Delete` acts on the view as the same sequence of updates and removals
on the finite map, and changes no ancestor. -/
theorem runAll (ops : List (Op K V)) :
    ∀ m : XactMap K V, (ops.foldl Op.run m).view = ops.foldl Op.update m.view ∧
      (ops.foldl Op.run m).parent = m.parent := by
  induction ops with
  | nil => exact fun m => ⟨rfl, rfl⟩
  | cons op rest ih =>
    intro m
    obtain ⟨view', parent'⟩ := ih (Op.run m op)
    rw [List.foldl_cons, List.foldl_cons, view', view_run, parent', parent_run]
    exact ⟨rfl, rfl⟩

/-! ### `XactMap` refines a finite map -/

/-- `Get` reads the view; a sequence of `Set` and `Delete` acts on the view as updates and
removals and leaves the ancestors alone; `Commit` hands the child's view to the parent and keeps
the child's; a loop over `Entries()` whose body deletes keys hands each key once, with the value
it has then, and every key still there at the end; and every map a program builds keeps set and
deleted keys apart, with no deletion recorded at the root. -/
theorem xactMap_refines_finite_map :
    (∀ (m : XactMap K V) (k : K), m.get k = m.view k) ∧
    (∀ (m : XactMap K V) (ops : List (Op K V)),
      (ops.foldl Op.run m).view = ops.foldl Op.update m.view ∧
        (ops.foldl Op.run m).parent = m.parent) ∧
    (∀ m p : XactMap K V, m.parent = some p → ∃ p', m.commit = .ok ⟨some p', ∅, ∅⟩ ∧
      p'.view = m.view ∧ (⟨some p', ∅, ∅⟩ : XactMap K V).view = m.view ∧ p'.parent = p.parent) ∧
    (∀ (σ : Type) (body : EntriesBody σ K V) (st : σ) (m : XactMap K V),
      ((m.rangeEntries body st).handed.map (·.1.1)).Nodup ∧
      (∀ e ∈ (m.rangeEntries body st).handed,
        e.2.view e.1.1 = some e.1.2 ∧ m.view e.1.1 = some e.1.2) ∧
      (∀ k v, (m.rangeEntries body st).store.view k = some v → m.view k = some v) ∧
      ((m.rangeEntries body st).stopped = false → ∀ k v,
        (m.rangeEntries body st).store.view k = some v →
          ∃ s, ((k, v), s) ∈ (m.rangeEntries body st).handed)) ∧
    (∀ m : XactMap K V, m.Built → m.WellFormed) := by
  refine ⟨get_eq_view, fun m ops => runAll ops m, fun m p hp => ?_, fun σ body st m => ?_,
    fun m built => built.wellFormed⟩
  · obtain ⟨p', committed, view', grandparent⟩ := commit_view hp
    exact ⟨p', committed, view', by rw [view_empty_over, view'], grandparent⟩
  · refine ⟨rangeEntries_nodup body st m, fun e member => ?_, fun k v held => ?_,
      fun finished k v held => rangeEntries_complete body st m finished held⟩
    · obtain ⟨walked, current⟩ := rangeEntries_handed body st m e member
      exact ⟨current, walked.view _ _ current⟩
    · exact (rangeEntries_store body st m).view k v held

end XactMap

/-- A root holding `1 ↦ 10` and `2 ↦ 20`, and a transaction over it that deletes `1` and sets
`3 ↦ 30`. -/
def sampleTransaction : XactMap Nat Nat :=
  ((((XactMap.newXactMap.set 1 10).set 2 20).newTransaction).delete 1).set 3 30

theorem xactMap_refines_finite_map_sample :
    (∃ p', sampleTransaction.commit = .ok ⟨some p', ∅, ∅⟩ ∧ p'.view = sampleTransaction.view) ∧
    sampleTransaction.WellFormed ∧
    ∃ s, ((2, 20), s) ∈
      (sampleTransaction.rangeEntries (fun (_ : Unit) _ => ((), [], true)) ()).handed := by
  obtain ⟨-, -, commits, entries, built⟩ := @XactMap.xactMap_refines_finite_map Nat Nat _
  obtain ⟨p', committed, view', -⟩ := commits sampleTransaction _ rfl
  exact ⟨⟨p', committed, view'⟩,
    built _ (.set 3 30 (.delete 1 (.transaction (.set 2 20 (.set 1 10 .new))))),
    (entries Unit _ () sampleTransaction).2.2.2 (by decide) 2 20 (by decide)⟩

end Autoscaling.Plugin.State
