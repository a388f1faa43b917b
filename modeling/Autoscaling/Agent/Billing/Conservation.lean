import Autoscaling.Agent.Billing.Metrics

/-!
# Active time is counted once

Over a run of the collector, the active time of every VM is counted exactly once: what the
drains reported of it, and what its history still holds, add up to the time between consecutive
collections that both billed it (`activeTime_conserved`). The time is held in three places (the
open slice, the history's total, and the history a drain reports and forgets) and a slice
straddling a drain is reported by that drain alone, since the drain forgets the history while
`present` still remembers the VM.

Two conditions of the run carry this beside the order of the collections. A key is billed at most
once per collection, as a VM's UID is unique in the store; a VM listed twice would be billed its
interval twice. And the collections span less than `2^63` ns (292 years), the range of the
clock `collect` reads: the time is counted in `Duration`s, which hold no longer span.

The proof is one invariant of the run (`Conserved`), kept by each call: a collection adds to each
history it appends to the time since the last collection, whether it merges the slice or opens a
new one, and a drain moves each history's time into what it reports. Each history stays between
the first collection and the last (`VmMetricsHistory.Within`), which keeps its `Duration`s in
range.
-/

namespace Autoscaling.Agent.Billing

open Go Trans

/-! ### What a run did -/

/-- The collections of a run, in order: the instant of each and the keys it billed. -/
def collections (steps : List (Call × Reply × MetricsState)) : List (Int × List MetricsKey) :=
  steps.filterMap fun e => match e.1 with
    | .collect now store => some (now, store.billedKeys)
    | .drainEnqueue _ => none

/-- The instants of a run's collections. -/
def collectTimes (steps : List (Call × Reply × MetricsState)) : List Int :=
  (collections steps).map (·.1)

/-- The time `k` was active over a list of collections: the intervals between consecutive
collections that both billed it. -/
def activeSpan (k : MetricsKey) : List (Int × List MetricsKey) → Int
  | (t, keys) :: (t', keys') :: rest =>
    (if k ∈ keys ∧ k ∈ keys' then t' - t else 0) + activeSpan k ((t', keys') :: rest)
  | _ => 0

/-- The histories a run's drains reported, in order. -/
def drained (steps : List (Call × Reply × MetricsState)) : List (MetricsKey × VmMetricsHistory) :=
  steps.flatMap fun e => match e.2.1 with
    | .drained reported => reported
    | .collected => []

/-- The active time a run's drains reported for `k`, before rounding to seconds. -/
def reportedActiveTime (k : MetricsKey) (steps : List (Call × Reply × MetricsState)) : Int :=
  (((drained steps).filter (·.1 = k)).map (·.2.total.activeTime.toInt)).sum

/-- The active time a history holds: its total, and its open slice as
`finalizeCurrentTimeSlice` would add it. -/
def VmMetricsHistory.activeTime (h : VmMetricsHistory) : Int :=
  h.total.activeTime.toInt + (h.lastSlice.map (·.duration.toInt)).getD 0

/-- The active time the state holds for `k`, none if it has no history of it. -/
def MetricsState.heldActiveTime (s : MetricsState) (k : MetricsKey) : Int :=
  ((s.historical.lookup k).map VmMetricsHistory.activeTime).getD 0

section Snoc

variable (steps : List (Call × Reply × MetricsState)) (c : Call) (r : Reply) (s' : MetricsState)

theorem collections_snoc :
    collections (steps ++ [(c, r, s')]) = collections steps ++ match c with
      | .collect now store => [(now, store.billedKeys)]
      | .drainEnqueue _ => [] := by
  cases c <;> simp [collections]

theorem reportedActiveTime_snoc (k : MetricsKey) :
    reportedActiveTime k (steps ++ [(c, r, s')]) = reportedActiveTime k steps + match r with
      | .drained reported => ((reported.filter (·.1 = k)).map (·.2.total.activeTime.toInt)).sum
      | .collected => 0 := by
  cases r <;> simp [reportedActiveTime, drained]

end Snoc

theorem activeSpan_snoc (k : MetricsKey) (cs : List (Int × List MetricsKey)) (t' : Int)
    (keys' : List MetricsKey) :
    activeSpan k (cs ++ [(t', keys')]) = activeSpan k cs + match cs.getLast? with
      | some (t, keys) => if k ∈ keys ∧ k ∈ keys' then t' - t else 0
      | none => 0 := by
  -- by induction on `cs`, looking at the collection after the first one
  induction cs with
  | nil => simp [activeSpan]
  | cons first rest ih =>
    cases rest with
    | nil => simp [activeSpan]
    | cons second rest =>
      obtain ⟨t₁, keys₁⟩ := first
      obtain ⟨t₂, keys₂⟩ := second
      rw [List.cons_append, List.cons_append, activeSpan, ← List.cons_append, ih,
        List.getLast?_cons_cons, activeSpan]
      omega

/-! ### The bounds of a history -/

namespace VmMetricsHistory

/-- The length of the open slice, if there is one. -/
def openTime (h : VmMetricsHistory) : Int :=
  (h.lastSlice.map fun sl => sl.endTime - sl.startTime).getD 0

/-- A history between the first collection `o` and the last one `t`: its total is not below zero,
its open slice lies within `[o, t]`, and the two together are at most `t - o`. -/
structure Within (h : VmMetricsHistory) (o t : Int) : Prop where
  total : 0 ≤ h.total.activeTime.toInt
  slice : ∀ sl ∈ h.lastSlice, o ≤ sl.startTime ∧ sl.startTime ≤ sl.endTime ∧ sl.endTime ≤ t
  bounded : h.total.activeTime.toInt + h.openTime ≤ t - o

variable {h h' : VmMetricsHistory} {o t t' : Int}

theorem within_empty (start : o ≤ t) : empty.Within o t where
  total := by simp [empty]
  slice sl held := by simp [empty] at held
  bounded := by simp [empty, openTime]; omega

@[simp] theorem activeTime_empty : empty.activeTime = 0 := by simp [activeTime, empty]

theorem Within.later (w : h.Within o t) (later : t ≤ t') : h.Within o t' where
  total := w.total
  slice sl held := by have := w.slice sl held; omega
  bounded := by have := w.bounded; omega

theorem Within.openTime_nonneg (w : h.Within o t) : 0 ≤ h.openTime := by
  unfold openTime
  cases held : h.lastSlice with
  | none => rfl
  | some sl =>
    have := w.slice sl held
    simp only [Option.map_some, Option.getD_some]
    omega

/-- Within the range of `Duration`, the open slice's duration is its length. -/
theorem Within.activeTime_eq (w : h.Within o t) (fits : t - o < 2 ^ 63) :
    h.activeTime = h.total.activeTime.toInt + h.openTime := by
  unfold activeTime openTime
  cases held : h.lastSlice with
  | none => rfl
  | some sl =>
    have := w.slice sl held
    simp only [Option.map_some, Option.getD_some, MetricsTimeSlice.duration]
    rw [Time.toInt_sub_of_range (by omega) (by omega)]

/-- Finalizing moves the open slice into the total, which stays in range. -/
theorem Within.finalize (w : h.Within o t) (fits : t - o < 2 ^ 63)
    (finalized : h.finalizeCurrentTimeSlice = .ok h') :
    h'.Within o t ∧ h'.total.activeTime.toInt = h.activeTime := by
  obtain ⟨closed, total⟩ := VmMetricsHistory.finalizeCurrentTimeSlice_eq_ok finalized
  have moved : h'.total.activeTime.toInt = h.activeTime := by
    rw [total, w.activeTime_eq fits]
    unfold openTime
    cases held : h.lastSlice with
    | none => simp
    | some sl =>
      have := w.slice sl held
      have := w.total
      have bounded := w.bounded
      simp only [openTime, held, Option.map_some, Option.getD_some] at bounded ⊢
      have length := Time.toInt_sub_of_range (t := sl.endTime) (u := sl.startTime)
        (by omega) (by omega)
      rw [MetricsTimeSlice.duration, toInt_add_of_range (by omega) (by omega), length]
  have open_ := w.openTime_nonneg
  refine ⟨⟨?_, by simp [closed], ?_⟩, moved⟩
  · rw [moved, w.activeTime_eq fits]
    have := w.total
    omega
  · have closedOpen : h'.openTime = 0 := by simp [openTime, closed]
    have := w.bounded
    rw [closedOpen, moved, w.activeTime_eq fits]
    omega

/-- The open slice, ending at the last collection `t`, extended to the next one `t'`. -/
theorem Within.extend {sl : MetricsTimeSlice} (w : h.Within o t) (held : h.lastSlice = some sl)
    (ends : sl.endTime = t) (later : t ≤ t') :
    Within { h with lastSlice := some { sl with endTime := t' } } o t' where
  total := w.total
  slice sl' held' := by
    obtain ⟨starts, ordered, -⟩ := w.slice sl held
    simp only [Option.mem_def, Option.some.injEq] at held'
    subst held'
    dsimp only
    omega
  bounded := by
    have bounded := w.bounded
    simp only [openTime, held, Option.map_some, Option.getD_some] at bounded ⊢
    omega

/-- A new open slice from the last collection `t` to the next one `t'`, once the old one is in
the total. -/
theorem Within.open {m : VmMetricsInstant} (w : h.Within o t) (closed : h.lastSlice = none)
    (start : o ≤ t) (later : t ≤ t') :
    Within { h with lastSlice := some ⟨m, t, t'⟩ } o t' where
  total := w.total
  slice sl' held' := by
    simp only [Option.mem_def, Option.some.injEq] at held'
    subst held'
    dsimp only
    omega
  bounded := by
    have bounded := w.bounded
    simp only [openTime, closed, Option.map_some, Option.map_none, Option.getD_some,
      Option.getD_none] at bounded ⊢
    omega

/-- Appending the slice from the last collection `t` to the next one `t'` adds `t' - t`, whether
it is merged into the open slice or opens a new one. -/
theorem Within.appendSlice {m : VmMetricsInstant} (w : h.Within o t) (start : o ≤ t)
    (later : t ≤ t') (fits : t' - o < 2 ^ 63) (appended : h.appendSlice ⟨m, t, t'⟩ = .ok h') :
    h'.Within o t' ∧ h'.activeTime = h.activeTime + (t' - t) := by
  have fits_t : t - o < 2 ^ 63 := by omega
  rcases VmMetricsHistory.appendSlice_eq_ok appended with
    ⟨sl, held, ends, -, extended⟩ | ⟨f, finalized, opened⟩
  · -- the open slice ends at `t`: it now ends at `t'`
    subst extended
    have grown := w.extend held ends later
    refine ⟨grown, ?_⟩
    rw [grown.activeTime_eq fits, w.activeTime_eq fits_t]
    simp only [openTime, held, Option.map_some, Option.getD_some]
    dsimp only at ends ⊢
    omega
  · -- the open slice, if any, went into the total: `⟨m, t, t'⟩` is the open one now
    subst opened
    obtain ⟨closed, moved⟩ := w.finalize fits_t finalized
    have fresh := closed.open (m := m) (finalizeCurrentTimeSlice_eq_ok finalized).1 start later
    refine ⟨fresh, ?_⟩
    rw [fresh.activeTime_eq fits, ← moved]
    simp only [openTime, Option.map_some, Option.getD_some]

end VmMetricsHistory

/-! ### The invariant of a run -/

/-- What the calls `pre` leave in the state `s`, with `o` at or before every collection: the
instant and the keys of the last collection, each history within `[o, t]` for the last
collection `t`, and for every key the time reported and held equal to the time it was active. -/
structure Conserved (o : Int) (pre : List (Call × Reply × MetricsState)) (s : MetricsState) :
    Prop where
  lastCollectTime : s.lastCollectTime = (collections pre).getLast?.map (·.1)
  present : ∀ k, k ∈ s.present ↔ ∃ c ∈ (collections pre).getLast?, k ∈ c.2
  origin : ∀ t ∈ s.lastCollectTime, o ≤ t
  within : ∀ k h, s.historical.lookup k = some h → ∃ t, s.lastCollectTime = some t ∧ h.Within o t
  conserved : ∀ k, reportedActiveTime k pre + s.heldActiveTime k = activeSpan k (collections pre)

theorem conserved_new (o start : Int) : Conserved o [] (MetricsState.new start) where
  lastCollectTime := rfl
  present k := by simp [MetricsState.new, collections, ← AList.lookup_isSome]
  origin t held := by simp [MetricsState.new] at held
  within k h found := by simp [MetricsState.new] at found
  conserved k := by
    simp [reportedActiveTime, drained, MetricsState.heldActiveTime, MetricsState.new, collections,
      activeSpan]

variable {o : Int} {pre : List (Call × Reply × MetricsState)} {s s' : MetricsState}

/-- The history a collection appends to for `k`, a new one if `s` has none, is within `[o, t]`
for the last collection `t` and holds what `s` holds for `k`. -/
theorem Conserved.base (inv : Conserved o pre s) {t : Int} (last : s.lastCollectTime = some t)
    (k : MetricsKey) :
    ((s.historical.lookup k).getD .empty).Within o t ∧
      ((s.historical.lookup k).getD .empty).activeTime = s.heldActiveTime k := by
  unfold MetricsState.heldActiveTime
  cases found : s.historical.lookup k with
  | none => exact ⟨VmMetricsHistory.within_empty (inv.origin t last), by simp⟩
  | some h =>
    obtain ⟨t', last', w⟩ := inv.within k h found
    rw [last, Option.some.injEq] at last'
    exact ⟨last' ▸ w, rfl⟩

/-- A collection at `now` appends to the history of each key billed now and at the last
collection the time between the two, and leaves the others. -/
theorem Conserved.collect_key {now : Int} {store : Store} {acc : MetricsState}
    (inv : Conserved o pre s) (c : s.Collected s.present now store.billedKeys acc)
    (fits : now - o < 2 ^ 63) (later : ∀ t ∈ s.lastCollectTime, t ≤ now) (k : MetricsKey) :
    (∀ h, acc.historical.lookup k = some h → h.Within o now) ∧
      acc.heldActiveTime k = s.heldActiveTime k + match (collections pre).getLast? with
        | some (t, keys) => if k ∈ keys ∧ k ∈ store.billedKeys then now - t else 0
        | none => 0 := by
  by_cases both : k ∈ store.billedKeys ∧ k ∈ s.present
  · -- billed now and at the last collection `t`: the slice `[t, now]` is appended
    obtain ⟨billed, present⟩ := both
    obtain ⟨⟨t, keys⟩, lastC, listed⟩ := (inv.present k).mp present
    have last : s.lastCollectTime = some t := by simp [inv.lastCollectTime, Option.mem_def.mp lastC]
    obtain ⟨old, found⟩ := Option.isSome_iff_exists.mp (AList.lookup_isSome.mpr present)
    obtain ⟨t₀, m, h, last₀, appended, after⟩ := c.appended k old billed found
    rw [last, Option.some.injEq] at last₀
    subst last₀
    obtain ⟨w, held⟩ := inv.base last k
    obtain ⟨w', grown⟩ := w.appendSlice (inv.origin t last) (later t last) fits appended
    refine ⟨fun h' found' => (Option.some.inj (after ▸ found')) ▸ w', ?_⟩
    rw [Option.mem_def.mp lastC]
    simp only [MetricsState.heldActiveTime, after, Option.map_some, Option.getD_some, grown,
      held, listed, billed, and_self, if_true]
  · -- the history is as it was, and the time it gains is none
    have kept := c.kept k (by
      rw [not_and_or] at both
      exact both.imp id fun absent => by simpa [← AList.lookup_isSome] using absent)
    refine ⟨fun h found => ?_, ?_⟩
    · obtain ⟨t, last, w⟩ := inv.within k h (kept ▸ found)
      exact w.later (later t last)
    · have gained : (match (collections pre).getLast? with
          | some (t, keys) => if k ∈ keys ∧ k ∈ store.billedKeys then now - t else 0
          | none => 0) = 0 := by
        cases lastC : (collections pre).getLast? with
        | none => rfl
        | some c' =>
          obtain ⟨t, keys⟩ := c'
          have : ¬(k ∈ keys ∧ k ∈ store.billedKeys) := fun ⟨listed, billed⟩ =>
            both ⟨billed, (inv.present k).mpr ⟨(t, keys), lastC, listed⟩⟩
          simp [this]
      rw [gained, MetricsState.heldActiveTime, MetricsState.heldActiveTime, kept]
      omega

theorem Conserved.collect {now : Int} {store : Store} (inv : Conserved o pre s)
    (collected : s.collect now store = .ok s') (nodup : store.billedKeys.Nodup)
    (after : o ≤ now) (fits : now - o < 2 ^ 63) (later : ∀ t ∈ s.lastCollectTime, t ≤ now) :
    Conserved o (pre ++ [(.collect now store, .collected, s')]) s' := by
  obtain ⟨acc, c, rfl⟩ := MetricsState.collect_eq_ok nodup collected
  have last : (collections (pre ++ [(.collect now store, .collected,
      { acc with lastCollectTime := some now })])).getLast? = some (now, store.billedKeys) := by
    simp [collections_snoc]
  refine ⟨by simp [last], fun k => by simp [last, c.present], by simpa using after,
    fun k h found => ⟨now, rfl, (inv.collect_key c fits later k).1 h found⟩, fun k => ?_⟩
  have held := (inv.collect_key c fits later k).2
  simp only [MetricsState.heldActiveTime] at held ⊢
  rw [reportedActiveTime_snoc, collections_snoc, activeSpan_snoc, ← inv.conserved k,
    MetricsState.heldActiveTime, held]
  dsimp only
  omega

/-- What a drain reports for `k`: the time the history of `k` held, if it had one. -/
theorem sum_reported {es : List (Σ _ : MetricsKey, VmMetricsHistory)}
    {reported : List (MetricsKey × VmMetricsHistory)} (k : MetricsKey) (nodup : es.NodupKeys)
    (finalized : List.Forall₂ (fun e r => r.1 = e.1 ∧ e.2.finalizeCurrentTimeSlice = .ok r.2)
      es reported)
    (exact : ∀ e ∈ es, ∀ f, e.2.finalizeCurrentTimeSlice = .ok f →
      f.total.activeTime.toInt = e.2.activeTime) :
    ((reported.filter (·.1 = k)).map (·.2.total.activeTime.toInt)).sum =
      ((es.dlookup k).map VmMetricsHistory.activeTime).getD 0 := by
  induction finalized with
  | nil => rfl
  | @cons e r es rest head _ ih =>
    obtain ⟨sameKey, done⟩ := head
    rw [List.nodupKeys_cons] at nodup
    have ih' := ih nodup.2 fun e' member => exact e' (.tail _ member)
    by_cases same : r.1 = k
    · -- the entry of `k`; there is no other
      have absent : es.dlookup k = none := List.dlookup_eq_none.mpr (same ▸ sameKey ▸ nodup.1)
      obtain ⟨key, history⟩ := e
      simp only at sameKey
      subst sameKey same
      rw [absent] at ih'
      simp only [List.filter_cons, decide_true, if_true, List.map_cons, List.sum_cons, ih',
        List.dlookup_cons_eq, Option.map_some, Option.getD_some, Option.map_none,
        Option.getD_none, add_zero]
      exact exact _ List.mem_cons_self _ done
    · have other : k ≠ e.1 := fun eq => same (sameKey.trans eq.symm)
      simp only [List.filter_cons, same, decide_false, Bool.false_eq_true, if_false, ih',
        List.dlookup_cons_ne _ _ other]

theorem Conserved.drainEnqueue {now : Int} {reported : List (MetricsKey × VmMetricsHistory)}
    (inv : Conserved o pre s) (drained : s.drainEnqueue now = .ok (reported, s'))
    (fits : ∀ t ∈ s.lastCollectTime, t - o < 2 ^ 63) :
    Conserved o (pre ++ [(.drainEnqueue now, .drained reported, s')]) s' := by
  obtain ⟨rfl, finalized⟩ := MetricsState.drainEnqueue_eq_ok drained
  have same : collections (pre ++ [(.drainEnqueue now, .drained reported,
      { s with pushWindowStart := now, historical := ∅ })]) = collections pre := by
    simp [collections_snoc]
  refine ⟨by simpa [same] using inv.lastCollectTime, fun k => by simpa [same] using inv.present k,
    inv.origin, fun k h found => by simp at found, fun k => ?_⟩
  -- each history's time moves into what the drain reports
  have exact : ∀ e ∈ s.historical.entries, ∀ f, e.2.finalizeCurrentTimeSlice = .ok f →
      f.total.activeTime.toInt = e.2.activeTime := by
    intro e member f done
    obtain ⟨t, last, w⟩ := inv.within e.1 e.2 (AList.mem_lookup_iff.mpr member)
    exact (w.finalize (fits t last) done).2
  rw [same, reportedActiveTime_snoc, ← inv.conserved k]
  dsimp only
  rw [sum_reported k s.historical.nodupKeys finalized exact]
  simp [MetricsState.heldActiveTime, AList.lookup]

/-- The last collection is one of the run's. -/
theorem Conserved.last_mem (inv : Conserved o pre s) {t : Int} (last : t ∈ s.lastCollectTime) :
    t ∈ collectTimes pre := by
  rw [inv.lastCollectTime, Option.mem_map] at last
  obtain ⟨c, lastC, rfl⟩ := last
  exact List.mem_map_of_mem (List.mem_of_mem_getLast? lastC)

/-! ### Over a whole run -/

section Run

variable {start : Int} {steps : List (Call × Reply × MetricsState)}

/-- The invariant along a run from a new collector whose collections come in order, at `o` or
less than `2^63` ns after it, and bill each key once. -/
theorem conserved_run (run : Trace step (MetricsState.new start) steps)
    (ordered : (collectTimes steps).Pairwise (· ≤ ·))
    (fits : ∀ t ∈ collectTimes steps, o ≤ t ∧ t - o < 2 ^ 63)
    (billedOnce : ∀ c ∈ collections steps, c.2.Nodup) :
    Conserved o steps (last (MetricsState.new start) steps) := by
  refine Trace.invariant_hist (fun pre s => (collectTimes pre).Pairwise (· ≤ ·) →
      (∀ t ∈ collectTimes pre, o ≤ t ∧ t - o < 2 ^ 63) → (∀ c ∈ collections pre, c.2.Nodup) →
      Conserved o pre s) ?_ run (fun _ _ _ => conserved_new o start) ordered fits billedOnce
  intro pre c r s' _ ih stepped ordered' fits' once'
  cases c with
  | collect now store =>
    obtain ⟨rfl, collected⟩ := step_eq_ok stepped
    simp only [collectTimes, collections_snoc, List.map_append, List.map_cons, List.map_nil,
      List.pairwise_append, List.pairwise_singleton, List.mem_append, List.mem_cons,
      List.not_mem_nil, or_false, forall_eq] at ordered' fits' once'
    have inv := ih ordered'.1 (fun t member => fits' t (.inl member))
      (fun c member => once' c (.inl member))
    -- this collection comes after the last one
    refine inv.collect collected (once' _ (.inr rfl)) (fits' now (.inr rfl)).1
      (fits' now (.inr rfl)).2 fun t last => ordered'.2.2 t (inv.last_mem last)
  | drainEnqueue now =>
    obtain ⟨reported, rfl, drained⟩ := step_eq_ok stepped
    simp only [collectTimes, collections_snoc, List.append_nil] at ordered' fits' once'
    have inv := ih ordered' fits' once'
    exact inv.drainEnqueue drained fun t last => (fits' t (inv.last_mem last)).2

/-- Over any run of the collector from its start, with its collections in order, less than
`2^63` ns apart, and each billing a key at most once: for every key, the active time the drains
reported plus the time still held is the time between consecutive collections that both billed
it. -/
theorem activeTime_conserved (run : Trace step (MetricsState.new start) steps)
    (ordered : (collectTimes steps).Pairwise (· ≤ ·))
    (span : ∀ t ∈ collectTimes steps, ∀ u ∈ collectTimes steps, u - t < 2 ^ 63)
    (billedOnce : ∀ c ∈ collections steps, c.2.Nodup) (k : MetricsKey) :
    reportedActiveTime k steps + (last (MetricsState.new start) steps).heldActiveTime k =
      activeSpan k (collections steps) := by
  -- the first collection is the origin of the bounds
  cases first : collectTimes steps with
  | nil => exact (conserved_run (o := 0) run ordered (by simp [first]) billedOnce).conserved k
  | cons t₁ rest =>
    have fits : ∀ t ∈ collectTimes steps, t₁ ≤ t ∧ t - t₁ < 2 ^ 63 := by
      intro t member
      refine ⟨?_, span t₁ (first ▸ List.mem_cons_self) t member⟩
      rw [first] at member ordered
      rcases List.mem_cons.mp member with rfl | later
      · exact le_rfl
      · exact List.rel_of_pairwise_cons ordered later
    exact (conserved_run run ordered fits billedOnce).conserved k

/-- An endpoint's VM, running with one CPU. -/
def sampleVM : VirtualMachine := ⟨"vm", some "endpoint", .running, some 1000⟩

/-- The key it is billed under. -/
def sampleKey : MetricsKey := ⟨"vm", "endpoint"⟩

/-- Three collections of `sampleVM`, ten ns apart, with a drain between the second and the
third: the slice `[10, 20]` straddles the drain. -/
def sampleSteps : List (Call × Reply × MetricsState) :=
  runCalls step (MetricsState.new 0)
    [.collect 0 ⟨false, [sampleVM]⟩, .collect 10 ⟨false, [sampleVM]⟩, .drainEnqueue 15,
      .collect 20 ⟨false, [sampleVM]⟩]

example : reportedActiveTime sampleKey sampleSteps = 10 ∧
    (last (MetricsState.new 0) sampleSteps).heldActiveTime sampleKey = 10 := by decide

theorem activeTime_conserved_sample :
    reportedActiveTime sampleKey sampleSteps +
        (last (MetricsState.new 0) sampleSteps).heldActiveTime sampleKey =
      activeSpan sampleKey (collections sampleSteps) :=
  activeTime_conserved (trace_runCalls _ _) (by decide) (by decide) (by decide) sampleKey

end Run

end Autoscaling.Agent.Billing
