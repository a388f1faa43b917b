import Mathlib

/-!
# Lists that enumerate a finite map

A finite map `f : K → Option V` is enumerated by a list of its entries that holds each key once.
Two enumerations of one map are permutations of each other, so a sum over the entries does not
depend on the enumeration, and adding an entry under a fresh key, replacing one, or removing one
changes the sum by those entries. These are the rules by which a running total kept beside a map
is shown to stay the sum over the map.

A list kept in order is read by a loop that stops at the first element past a bound: in such a
list the prefix the loop visits holds every element within the bound, and what it leaves holds
none. A loop that appends to a list keeps a fact about each element and those before it.
-/

namespace Listing

variable {K V : Type}

/-- `l` lists the entries of `f`, each key once. -/
structure Enumerates (l : List (K × V)) (f : K → Option V) : Prop where
  keys_nodup : (l.map Prod.fst).Nodup
  mem_iff : ∀ e, e ∈ l ↔ f e.1 = some e.2

variable {l l' : List (K × V)} {f g : K → Option V}

theorem Enumerates.nodup (h : Enumerates l f) : l.Nodup := h.keys_nodup.of_map _

theorem Enumerates.congr (h : Enumerates l f) (same : f = g) : Enumerates l g := same ▸ h

theorem Enumerates.perm (h : Enumerates l f) (h' : Enumerates l' f) : l.Perm l' :=
  (List.perm_ext_iff_of_nodup h.nodup h'.nodup).mpr fun e => (h.mem_iff e).trans (h'.mem_iff e).symm

theorem Enumerates.nil : Enumerates ([] : List (K × V)) (fun _ => none) :=
  ⟨List.nodup_nil, fun e => by simp⟩

variable [DecidableEq K]

/-- An entry under a fresh key, put in front. -/
theorem Enumerates.cons (h : Enumerates l f) {k : K} {v : V} (fresh : f k = none) :
    Enumerates ((k, v) :: l) (Function.update f k (some v)) where
  keys_nodup := by
    refine List.nodup_cons.mpr ⟨fun member => ?_, h.keys_nodup⟩
    obtain ⟨e, listed, same⟩ := List.mem_map.mp member
    have held := (h.mem_iff e).mp listed
    rw [same, fresh] at held
    cases held
  mem_iff e := by
    obtain ⟨k', v'⟩ := e
    by_cases same : k' = k
    · subst same
      -- the old list has nothing under the fresh key
      have notListed : (k', v') ∉ l := fun listed => by
        rw [h.mem_iff, fresh] at listed
        cases listed
      simp [notListed, eq_comm]
    · simp [same, h.mem_iff]

/-- The entries under other keys. -/
theorem Enumerates.filter (h : Enumerates l f) (k : K) :
    Enumerates (l.filter (fun e => e.1 ≠ k)) (Function.update f k none) where
  keys_nodup := h.keys_nodup.sublist (List.filter_sublist.map Prod.fst)
  mem_iff e := by
    by_cases same : e.1 = k
    · simp [same]
    · simp [same, h.mem_iff]

section Sum

variable {M : Type} [AddCommMonoid M] (weight : K × V → M)

omit [DecidableEq K] in
theorem sum_eq (h : Enumerates l f) (h' : Enumerates l' f) :
    (l.map weight).sum = (l'.map weight).sum :=
  ((h.perm h').map weight).sum_eq

/-- Adding an entry under a fresh key adds its weight. -/
theorem sum_insert {k : K} {v : V} (h : Enumerates l f) (fresh : f k = none)
    (h' : Enumerates l' (Function.update f k (some v))) :
    (l'.map weight).sum = weight (k, v) + (l.map weight).sum := by
  rw [sum_eq weight h' (h.cons fresh), List.map_cons, List.sum_cons]

/-- Removing an entry takes its weight away. -/
theorem sum_erase {k : K} {v : V} (h : Enumerates l f) (found : f k = some v)
    (h' : Enumerates l' (Function.update f k none)) :
    (l.map weight).sum = weight (k, v) + (l'.map weight).sum := by
  -- putting the entry back in front of the rest enumerates `f` again
  have back : Enumerates ((k, v) :: l') f :=
    (h'.cons (Function.update_self k none f)).congr (by
      rw [Function.update_idem, ← found, Function.update_eq_self])
  rw [sum_eq weight h back, List.map_cons, List.sum_cons]

/-- Replacing the entry under a key swaps the two weights. -/
theorem sum_replace {k : K} {v v' : V} (h : Enumerates l f) (found : f k = some v)
    (h' : Enumerates l' (Function.update f k (some v'))) :
    (l'.map weight).sum + weight (k, v) = (l.map weight).sum + weight (k, v') := by
  have rest := h.filter k
  have updated : Enumerates l' (Function.update (Function.update f k none) k (some v')) :=
    h'.congr (by rw [Function.update_idem])
  rw [sum_insert weight rest (Function.update_self k none f) updated,
    sum_erase weight h found rest]
  abel

end Sum

/-! ### Lists in order -/

section Ordered

variable {α : Type} {R : α → α → Prop} {p : α → Bool}

/-- In a list in order, where `p` holds of an element only if it holds of those before it, the
longest prefix where `p` holds has every element where `p` holds. -/
theorem mem_takeWhile_of_pairwise {l : List α} (sorted : l.Pairwise R)
    (closed : ∀ a b, R a b → p b → p a) {a : α} (member : a ∈ l) (holds : p a) :
    a ∈ l.takeWhile p := by
  induction l with
  | nil => simp at member
  | cons x rest ih =>
    rw [List.pairwise_cons] at sorted
    rcases List.mem_cons.mp member with rfl | later
    · simp [holds]
    · cases first : p x with
      | true => simp [first, ih sorted.2 later]
      | false =>
        -- `p` fails at `x`, so it fails at everything after `x`
        have := closed x a (sorted.1 a later) holds
        simp [first] at this

/-- In a list in order as above, `p` fails at every element the longest prefix where it holds
leaves. -/
theorem not_of_mem_dropWhile {l : List α} (sorted : l.Pairwise R)
    (closed : ∀ a b, R a b → p b → p a) {a : α} (member : a ∈ l.dropWhile p) : p a = false := by
  induction l with
  | nil => simp at member
  | cons x rest ih =>
    rw [List.pairwise_cons] at sorted
    cases first : p x with
    | true =>
      rw [List.dropWhile_cons, first] at member
      exact ih sorted.2 member
    | false =>
      rw [List.dropWhile_cons, first] at member
      rcases List.mem_cons.mp member with rfl | later
      · exact first
      · cases holds : p a with
        | false => rfl
        | true =>
          have := closed x a (sorted.1 a later) holds
          simp [first] at this

end Ordered

/-! ### Facts about each element and those before it -/

section Prefixes

variable {α : Type} {P : List α → α → Prop}

/-- A fact about each element of a list together with the elements before it, as a loop that
appends to the list keeps it: it holds of `l ++ [x]` when it holds of `l` and of `x` after `l`. -/
theorem forall_prefix_snoc {l : List α} {x : α}
    (old : ∀ pre a post, l = pre ++ a :: post → P pre a) (new : P l x) :
    ∀ pre a post, l ++ [x] = pre ++ a :: post → P pre a := by
  intro pre a post split
  rcases List.eq_nil_or_concat' post with rfl | ⟨post', y, rfl⟩
  · -- `a` is `x`, the last
    obtain ⟨rfl, same⟩ := List.append_inj' split rfl
    cases same
    exact new
  · -- `a` comes before the last
    rw [← List.cons_append, ← List.append_assoc] at split
    obtain ⟨earlier, -⟩ := List.append_inj' split rfl
    exact old pre a post' earlier

end Prefixes

/-! ### Lists of records with distinct keys

A list whose elements carry distinct keys is a finite map: `find?` by key reads the element
under a key. Appending an element under a fresh key, or removing the element at an index, changes
what `find?` reads under that key only. -/

section Keyed

variable {α : Type} {key : α → K} {l : List α} {x : α} {k : K} {i : Nat}

/-- The element at `i` splits the list, and removing it joins the two parts. -/
theorem eq_append_of_getElem? (found : l[i]? = some x) :
    ∃ pre post, l = pre ++ x :: post ∧ pre.length = i ∧ l.eraseIdx i = pre ++ post := by
  obtain ⟨inRange, rfl⟩ := List.getElem?_eq_some_iff.mp found
  refine ⟨l.take i, l.drop (i + 1), ?_, by simp [inRange.le], List.eraseIdx_eq_take_drop_succ l i⟩
  rw [← List.drop_eq_getElem_cons inRange, List.take_append_drop]

theorem find?_key_of_not_mem (absent : k ∉ l.map key) : l.find? (fun y => key y = k) = none := by
  rw [List.find?_eq_none]
  intro y member same
  exact absent (List.mem_map.mpr ⟨y, member, of_decide_eq_true same⟩)

theorem find?_key_snoc_of_not_mem (fresh : key x ∉ l.map key) :
    (l ++ [x]).find? (fun y => key y = key x) = some x := by
  simp [List.find?_append, find?_key_of_not_mem fresh]

theorem find?_key_snoc_of_ne (other : key x ≠ k) :
    (l ++ [x]).find? (fun y => key y = k) = l.find? (fun y => key y = k) := by
  cases found : l.find? (fun y => key y = k) <;> simp [List.find?_append, found, other]

theorem find?_key_getElem? (distinct : (l.map key).Nodup) (found : l[i]? = some x) :
    l.find? (fun y => key y = key x) = some x := by
  obtain ⟨pre, post, rfl, -, -⟩ := eq_append_of_getElem? found
  -- no element before `x` has its key
  have fresh : key x ∉ pre.map key := by
    simp only [List.map_append, List.map_cons] at distinct
    exact fun member => (List.nodup_append.mp distinct).2.2 _ member _ List.mem_cons_self rfl
  simp [List.find?_append, find?_key_of_not_mem fresh]

theorem find?_key_eraseIdx_of_ne (found : l[i]? = some x) (other : key x ≠ k) :
    (l.eraseIdx i).find? (fun y => key y = k) = l.find? (fun y => key y = k) := by
  obtain ⟨pre, post, rfl, -, erased⟩ := eq_append_of_getElem? found
  rw [erased]
  simp [List.find?_append, other]

omit [DecidableEq K] in
theorem key_not_mem_eraseIdx (distinct : (l.map key).Nodup) (found : l[i]? = some x) :
    key x ∉ (l.eraseIdx i).map key := by
  obtain ⟨pre, post, rfl, -, erased⟩ := eq_append_of_getElem? found
  rw [erased]
  simp only [List.map_append, List.map_cons, List.nodup_append, List.nodup_cons] at distinct
  simp only [List.map_append, List.mem_append, not_or]
  exact ⟨fun member => distinct.2.2 _ member _ List.mem_cons_self rfl, distinct.2.1.1⟩

omit [DecidableEq K] in
theorem mem_keys_eraseIdx_of_ne (found : l[i]? = some x) (other : key x ≠ k) :
    k ∈ (l.eraseIdx i).map key ↔ k ∈ l.map key := by
  obtain ⟨pre, post, rfl, -, erased⟩ := eq_append_of_getElem? found
  rw [erased]
  simp [Ne.symm other]

omit [DecidableEq K] in
theorem keys_eraseIdx_nodup (distinct : (l.map key).Nodup) (i : Nat) :
    ((l.eraseIdx i).map key).Nodup :=
  distinct.sublist ((List.eraseIdx_sublist l i).map key)

end Keyed

end Listing
