import Autoscaling.Neonvm.Failurelag.Tracker
import Autoscaling.Lib.Listing

/-!
# The tracker meets its specification

What the tracker is for, stated without its queue: after a history of calls, a key has been
failing since its first failure after its last success (`Spec.pendingSince`), and it is degraded
at `now` once that instant is at least `period` before `now` (`Spec.Degraded`).

The tracker computes that lazily, and `Tracks` is what links the two after every call: the
tracker's `pendingSince` is the specification's, every key it has marked degraded is degraded,
every failing key it has not marked has the event of its first failure still queued, and the
queue is in order. `forward` then marks, at any later instant, exactly the keys degraded by
then, because the events due at that instant are a prefix of the queue (`Listing`'s lemmas on
lists in order).
-/

namespace Autoscaling.Neonvm.Failurelag

open Go

variable {T : Type} [DecidableEq T]

/-! ### The specification -/

namespace Spec

/-- What a call does to the instant each key has been failing since: a failure starts the count
unless one runs, a success stops it. -/
def step (since : T → Option Int) : Int × Call T → T → Option Int
  | (now, .recordFailure key) => Function.update since key ((since key).or (some now))
  | (_, .recordSuccess key) => Function.update since key none
  | (_, .degradedCount) => since
  | (_, .degraded) => since

/-- The instant of the first failure of each key since its last success (or the start), after
`calls`. -/
def pendingSince (calls : List (Int × Call T)) : T → Option Int :=
  calls.foldl step fun _ => none

/-- A key is degraded at `now` once it has been failing for at least `period`. -/
def Degraded (since : T → Option Int) (period : Duration) (now : Int) (k : T) : Prop :=
  ∃ p, since k = some p ∧ p + period.toInt ≤ now

variable {since : T → Option Int} {period : Duration} {now now' : Int} {k : T}

omit [DecidableEq T] in
theorem Degraded.later (degraded : Degraded since period now k) (later : now ≤ now') :
    Degraded since period now' k := by
  obtain ⟨p, failing, passed⟩ := degraded
  exact ⟨p, failing, by omega⟩

end Spec

namespace Tracker

variable {t : Tracker T} {now now' : Int}

/-! ### What `forward` does -/

/-- An event is due at `now` unless it is after it. -/
def due (now : Int) (e : DegradeAt T) : Bool := !Time.after e.ts now

/-- A due event makes its key degraded when the key has been failing since at least `period`
before the event. -/
def Fires (t : Tracker T) (e : DegradeAt T) : Prop :=
  ∃ p, t.pendingSince.lookup e.key = some p ∧ ¬ Time.sub e.ts p < t.period

omit [DecidableEq T] in
theorem due_closed (a b : DegradeAt T) (before : a.ts ≤ b.ts) (dueB : due now b) : due now a := by
  simp only [due, Time.after, Bool.not_eq_true', decide_eq_false_iff_not, Int.not_lt] at dueB ⊢
  omega

/-- The loop leaves the events from the first one not due. -/
theorem forwardFrom_events (l : List (DegradeAt T)) (d : GoMap T Unit) :
    (t.forwardFrom now l d).2 = l.dropWhile (due now) := by
  induction l generalizing d with
  | nil => rfl
  | cons e rest ih =>
    cases after : Time.after e.ts now
    · -- a due event is dropped whether or not it fires
      have dueE : due now e = true := by simp [due, after]
      simp only [forwardFrom, after, Bool.false_eq_true, if_false, List.dropWhile_cons, dueE]
      cases t.pendingSince.lookup e.key with
      | none => exact ih d
      | some p =>
        simp only
        split
        · exact ih d
        · exact ih _
    · simp [forwardFrom, after, due]

/-- The loop marks the keys of the due events that fire. -/
theorem mem_forwardFrom (l : List (DegradeAt T)) (d : GoMap T Unit) (k : T) :
    k ∈ (t.forwardFrom now l d).1 ↔ k ∈ d ∨ ∃ e ∈ l.takeWhile (due now), e.key = k ∧ t.Fires e := by
  induction l generalizing d with
  | nil => simp [forwardFrom]
  | cons e rest ih =>
    cases after : Time.after e.ts now
    · have dueE : due now e = true := by simp [due, after]
      simp only [forwardFrom, after, Bool.false_eq_true, if_false,
        List.takeWhile_cons_of_pos dueE, List.mem_cons, or_and_right, exists_or, exists_eq_left]
      cases found : t.pendingSince.lookup e.key with
      | none =>
        -- no success since: the event does not fire
        have quiet : ¬ t.Fires e := by simp [Fires, found]
        simp only [ih, quiet, and_false, false_or]
      | some p =>
        simp only
        split
        next early =>
          have quiet : ¬ t.Fires e := by simp [Fires, found, early]
          simp only [ih, quiet, and_false, false_or]
        next late =>
          have fires : t.Fires e := ⟨p, found, late⟩
          simp only [ih, AList.mem_insert, fires, and_true]
          tauto
    · simp [forwardFrom, after, due]

theorem degraded_forward :
    (t.forward now).degraded = (t.forwardFrom now t.degradeAt t.degraded).1 := rfl

theorem degradeAt_forward : (t.forward now).degradeAt = t.degradeAt.dropWhile (due now) :=
  forwardFrom_events _ _

/-! ### The link with the specification -/

/-- The tracker after calls up to `now` against the instants they say each key has been failing
since. -/
structure Tracks (since : T → Option Int) (now : Int) (t : Tracker T) : Prop where
  pending : ∀ k, t.pendingSince.lookup k = since k
  degraded_sound : ∀ k ∈ t.degraded, Spec.Degraded since t.period now k
  /-- A failing key not yet marked still has the event of its first failure queued. -/
  scheduled : ∀ k p, since k = some p → k ∉ t.degraded → ⟨p + t.period.toInt, k⟩ ∈ t.degradeAt
  sorted : t.degradeAt.Pairwise fun e e' => e.ts ≤ e'.ts
  bounded : ∀ e ∈ t.degradeAt, e.ts ≤ now + t.period.toInt

theorem tracks_new (period : Duration) (now : Int) :
    Tracks (fun _ => none) now (newTracker period : Tracker T) where
  pending k := by simp [newTracker]
  degraded_sound k member := by simp [newTracker] at member
  scheduled k p failing := by simp at failing
  sorted := List.Pairwise.nil
  bounded e member := by simp [newTracker] at member

section Tracks

variable {since : T → Option Int} (tracks : Tracks since now t) (nonneg : 0 ≤ t.period.toInt)
include tracks nonneg

/-- The event of a failing key's first failure fires. -/
theorem Tracks.fires {k : T} {p : Int} (failing : since k = some p) :
    t.Fires ⟨p + t.period.toInt, k⟩ := by
  refine ⟨p, (tracks.pending k).trans failing, ?_⟩
  rw [Time.sub_lt_iff (by omega)]
  dsimp only
  omega

/-- A key an event fires for has been failing for `period` at the event. -/
theorem Tracks.degraded_of_fires {e : DegradeAt T} (fires : t.Fires e) :
    Spec.Degraded since t.period e.ts e.key := by
  obtain ⟨p, found, late⟩ := fires
  rw [Time.sub_lt_iff (by omega)] at late
  exact ⟨p, (tracks.pending e.key).symm.trans found, by omega⟩

/-- At `now'`, the tracker marks every key failing for `period` by then. -/
theorem Tracks.mem_forward {k : T} {p : Int} (failing : since k = some p)
    (passed : p + t.period.toInt ≤ now') : k ∈ (t.forward now').degraded := by
  rw [degraded_forward, mem_forwardFrom]
  by_cases marked : k ∈ t.degraded
  · exact .inl marked
  · -- the event of its first failure is due, so the loop reaches it
    have dueE : due now' ⟨p + t.period.toInt, k⟩ := by
      simp [due, Time.after]
      omega
    exact .inr ⟨_, Listing.mem_takeWhile_of_pairwise tracks.sorted (fun a b => due_closed a b)
      (tracks.scheduled k p failing marked) dueE, rfl, tracks.fires nonneg failing⟩

/-- `forward` keeps the link, at any later instant. -/
theorem Tracks.forward (later : now ≤ now') : Tracks since now' (t.forward now') where
  pending := tracks.pending
  degraded_sound k member := by
    rw [degraded_forward, mem_forwardFrom] at member
    rcases member with old | ⟨e, dueE, rfl, fires⟩
    · exact (tracks.degraded_sound k old).later later
    · have atE := tracks.degraded_of_fires nonneg fires
      have : e.ts ≤ now' := by
        have := List.mem_takeWhile_imp dueE
        simpa [due, Time.after] using this
      exact atE.later this
  scheduled k p failing unmarked := by
    have marked : k ∉ t.degraded := fun old => unmarked (by
      rw [degraded_forward, mem_forwardFrom]
      exact .inl old)
    have queued := tracks.scheduled k p failing marked
    -- the event is not due yet, or the key would be marked by now
    have notDue : due now' ⟨p + t.period.toInt, k⟩ = false := by
      cases dueE : due now' ⟨p + t.period.toInt, k⟩ with
      | false => rfl
      | true =>
        have : p + t.period.toInt ≤ now' := by simpa [due, Time.after] using dueE
        exact absurd (tracks.mem_forward nonneg failing this) unmarked
    rw [degradeAt_forward]
    rw [← List.takeWhile_append_dropWhile (p := due now') (l := t.degradeAt),
      List.mem_append] at queued
    rcases queued with early | left
    · simp [List.mem_takeWhile_imp early] at notDue
    · exact left
  sorted := by
    rw [degradeAt_forward]
    exact tracks.sorted.sublist (List.dropWhile_sublist _)
  bounded e member := by
    rw [degradeAt_forward] at member
    have := tracks.bounded e ((List.dropWhile_sublist _).subset member)
    simp only [period_forward]
    omega

/-- `forward` at `now'` marks exactly the keys failing for `period` by then. -/
theorem Tracks.mem_forward_iff (later : now ≤ now') (k : T) :
    k ∈ (t.forward now').degraded ↔ Spec.Degraded since t.period now' k := by
  constructor
  · exact (tracks.forward nonneg later).degraded_sound k
  · rintro ⟨p, failing, passed⟩
    exact tracks.mem_forward nonneg failing passed

end Tracks

/-! ### Each call keeps the link -/

variable {since : T → Option Int}

theorem Tracks.recordSuccess (tracks : Tracks since now t) (nonneg : 0 ≤ t.period.toInt)
    (later : now ≤ now') (key : T) :
    Tracks (Function.update since key none) now' (t.recordSuccess key now') := by
  -- forgetting the key keeps the link at `now`, and `forward` carries it to `now'`
  have forgotten : Tracks (Function.update since key none) now
      { t with degraded := t.degraded.erase key, pendingSince := t.pendingSince.erase key } := by
    constructor
    · intro k
      by_cases same : k = key
      · subst same
        simp [AList.lookup_erase]
      · simp [AList.lookup_erase_ne same, same, tracks.pending k]
    · intro k member
      obtain ⟨other, old⟩ := AList.mem_erase.mp member
      simpa [Spec.Degraded, other] using tracks.degraded_sound k old
    · intro k p failing unmarked
      have other : k ≠ key := by
        rintro rfl
        simp at failing
      rw [Function.update_of_ne other] at failing
      exact tracks.scheduled k p failing fun old => unmarked (AList.mem_erase.mpr ⟨other, old⟩)
    · exact tracks.sorted
    · exact tracks.bounded
  exact forgotten.forward nonneg later

theorem Tracks.recordFailure (tracks : Tracks since now t) (nonneg : 0 ≤ t.period.toInt)
    (later : now ≤ now') (key : T) :
    Tracks (Function.update since key ((since key).or (some now'))) now'
      (t.recordFailure key now') := by
  unfold Tracker.recordFailure
  -- the failure is recorded with its event at `now'`, and `forward` then runs at `now'`
  refine Tracks.forward ?_ nonneg le_rfl
  constructor
  · intro k
    by_cases same : k = key
    · subst same
      cases failing : since k with
      | none =>
        have absent : t.pendingSince.lookup k = none := (tracks.pending k).trans failing
        simp [absent]
      | some p =>
        have present : t.pendingSince.lookup k = some p := (tracks.pending k).trans failing
        simp [present]
    · split <;> simp [AList.lookup_insert_ne same, same, tracks.pending k]
  · intro k member
    obtain ⟨p, failing, passed⟩ := tracks.degraded_sound k member
    refine ⟨p, ?_, by dsimp only; omega⟩
    by_cases same : k = key
    · subst same
      simp [failing]
    · simp [same, failing]
  · intro k p failing unmarked
    simp only [List.mem_append, List.mem_singleton]
    by_cases same : k = key
    · subst same
      cases old : since k with
      | none =>
        -- the first failure: its event is the one just queued
        simp only [old, Function.update_self, Option.none_or, Option.some.injEq] at failing
        subst failing
        exact .inr rfl
      | some p₀ =>
        simp only [old, Function.update_self, Option.some_or, Option.some.injEq] at failing
        subst failing
        exact .inl (tracks.scheduled k p₀ old unmarked)
    · rw [Function.update_of_ne same] at failing
      exact .inl (tracks.scheduled k p failing unmarked)
  · rw [List.pairwise_append]
    refine ⟨tracks.sorted, List.pairwise_singleton _ _, ?_⟩
    intro e member e' last
    simp only [List.mem_singleton] at last
    subst last
    have := tracks.bounded e member
    simp only [Time.add]
    omega
  · intro e member
    simp only [List.mem_append, List.mem_singleton] at member
    rcases member with old | rfl
    · have := tracks.bounded e old
      dsimp only
      omega
    · simp [Time.add]

theorem Tracks.call (tracks : Tracks since now t) (nonneg : 0 ≤ t.period.toInt)
    (later : now ≤ now') (c : Call T) :
    Tracks (Spec.step since (now', c)) now' (t.call now' c).2 := by
  cases c with
  | recordFailure key => exact tracks.recordFailure nonneg later key
  | recordSuccess key => exact tracks.recordSuccess nonneg later key
  | degradedCount => exact tracks.forward nonneg later
  | degraded => exact tracks.forward nonneg later

/-- Over calls in order, the link holds after each; the instant it holds at is the last call's. -/
theorem Tracks.run (tracks : Tracks since now t) (nonneg : 0 ≤ t.period.toInt)
    (calls : List (Int × Call T)) (ordered : (now :: calls.map (·.1)).Pairwise (· ≤ ·)) :
    Tracks (calls.foldl Spec.step since) (calls.foldl (fun _ c => c.1) now) (t.run calls).2 := by
  induction calls generalizing since now t with
  | nil => exact tracks
  | cons first rest ih =>
    obtain ⟨now', c⟩ := first
    have later : now ≤ now' := List.rel_of_pairwise_cons ordered List.mem_cons_self
    have nonneg' : 0 ≤ (t.call now' c).2.period.toInt := by rw [call_period]; exact nonneg
    exact ih (tracks.call nonneg later c) nonneg' ordered.of_cons

/-! ### The replies -/

section Replies

variable (tracks : Tracks since now t) (nonneg : 0 ≤ t.period.toInt) (later : now ≤ now')
include tracks nonneg later

theorem Tracks.reply_degraded :
    ∃ ks, (t.call now' .degraded).1 = .keys ks ∧ ks.Nodup ∧
      ∀ k, k ∈ ks ↔ Spec.Degraded since t.period now' k :=
  ⟨_, rfl, (t.forward now').degraded.keys_nodup, fun k =>
    (AList.mem_keys).trans (tracks.mem_forward_iff nonneg later k)⟩

theorem Tracks.reply_degradedCount :
    (t.call now' .degradedCount).1 = .count {k | Spec.Degraded since t.period now' k}.ncard := by
  -- the marked keys are listed once each, and they are the degraded ones
  have listed : {k | Spec.Degraded since t.period now' k} =
      ↑((t.forward now').degraded.keys.toFinset) := by
    ext k
    simp [← tracks.mem_forward_iff nonneg later k, AList.mem_keys]
  simp only [Tracker.call, Tracker.degradedCount, listed, Set.ncard_coe_finset]
  rw [List.toFinset_card_of_nodup (t.forward now').degraded.keys_nodup]

end Replies

omit [DecidableEq T] in
/-- The instant a run is at: that of its last call. -/
theorem lastTime_mem (calls : List (Int × Call T)) (now : Int) :
    calls.foldl (fun _ c => c.1) now = now ∨ calls.foldl (fun _ c => c.1) now ∈ calls.map (·.1) := by
  induction calls generalizing now with
  | nil => exact .inl rfl
  | cons first rest ih =>
    rcases ih first.1 with start | later
    · exact .inr (by simp [start])
    · exact .inr (by simp only [List.foldl_cons, List.map_cons, List.mem_cons] at later ⊢; tauto)

end Tracker

/-! ### The tracker refines its specification -/

open Tracker in
/-- Every `Degraded()` and `DegradedCount()` of a run in order answers with the keys the
specification calls degraded at that instant. -/
theorem tracker_refines_spec {period : Duration} (nonneg : 0 ≤ period.toInt)
    (calls : List (Int × Call T)) (ordered : (calls.map (·.1)).Pairwise (· ≤ ·))
    {i : Nat} {now : Int} {c : Call T} (found : calls[i]? = some (now, c)) :
    let degraded := {k | Spec.Degraded (Spec.pendingSince (calls.take i)) period now k}
    let reply := ((newTracker period : Tracker T).run calls).1[i]?
    (c = .degraded → ∃ ks, reply = some (.keys ks) ∧ ks.Nodup ∧ ∀ k, k ∈ ks ↔ k ∈ degraded) ∧
      (c = .degradedCount → reply = some (.count degraded.ncard)) := by
  intro degraded reply
  -- the calls before this one are in order, and all made at or before `now`
  have prefixOrdered : ((calls.take i).map (·.1) ++ [now]).Pairwise (· ≤ ·) := by
    have taken : calls.take (i + 1) = calls.take i ++ [(now, c)] := by
      rw [List.take_add_one, found]
      rfl
    have := ordered.sublist ((List.take_prefix (i + 1) calls).sublist.map (·.1))
    rwa [taken, List.map_append] at this
  rw [List.pairwise_append] at prefixOrdered
  obtain ⟨before, -, upTo⟩ := prefixOrdered
  simp only [List.mem_singleton, forall_eq] at upTo
  -- the link holds after them, at an instant not after `now`
  obtain ⟨last, lastBefore, tracks⟩ : ∃ last, last ≤ now ∧
      Tracks (Spec.pendingSince (calls.take i)) last
        ((newTracker period : Tracker T).run (calls.take i)).2 := by
    cases taken : calls.take i with
    | nil => exact ⟨now, le_rfl, tracks_new period now⟩
    | cons first rest =>
      rw [taken] at before upTo
      -- starting the run at the first call's instant
      have start : (first.1 :: (first :: rest).map (·.1)).Pairwise (· ≤ ·) := by
        refine List.Pairwise.cons (fun y member => ?_) before
        rw [List.map_cons] at member before
        rcases List.mem_cons.mp member with rfl | later
        · exact le_rfl
        · exact List.rel_of_pairwise_cons before later
      refine ⟨_, ?_, (tracks_new period first.1).run nonneg _ start⟩
      rcases lastTime_mem (first :: rest) first.1 with atStart | listed
      · rw [atStart]
        exact upTo first.1 (by simp)
      · exact upTo _ listed
  have periodSame : ((newTracker period : Tracker T).run (calls.take i)).2.period = period :=
    run_period _ _
  have nonneg' : 0 ≤ ((newTracker period : Tracker T).run (calls.take i)).2.period.toInt := by
    rw [periodSame]; exact nonneg
  have atI := run_reply (newTracker period : Tracker T) calls found
  refine ⟨fun degradedCall => ?_, fun countCall => ?_⟩
  · subst degradedCall
    obtain ⟨ks, replied, distinct, listed⟩ := tracks.reply_degraded nonneg' lastBefore
    refine ⟨ks, by simp only [reply, atI, replied], distinct, fun k => ?_⟩
    rw [listed k, periodSame]
    rfl
  · subst countCall
    simp only [reply, atI, tracks.reply_degradedCount nonneg' lastBefore, periodSame]
    rfl

/-- The calls of `TestMultipleKeys`, in minutes, for a period of ten minutes. -/
def sampleCalls : List (Int × Call String) :=
  [(0, .recordFailure "key1"), (0, .recordFailure "key2"), (5, .recordSuccess "key1"),
    (5, .recordSuccess "key2"), (6, .recordFailure "key1"), (11, .degradedCount),
    (18, .degradedCount), (18, .degraded), (18, .recordFailure "key2"), (33, .degradedCount),
    (33, .degraded)]

example : ((newTracker 10 : Tracker String).run sampleCalls).1 =
    [.done, .done, .done, .done, .done, .count 0, .count 1, .keys ["key1"], .done, .count 2,
      .keys ["key2", "key1"]] := by
  decide

theorem tracker_refines_spec_sample :
    ∃ ks, ((newTracker 10 : Tracker String).run sampleCalls).1[7]? = some (.keys ks) ∧
      ks.Nodup ∧
        ∀ k, k ∈ ks ↔ k ∈ {k | Spec.Degraded (Spec.pendingSince (sampleCalls.take 7)) 10 18 k} :=
  (@tracker_refines_spec String _ 10 (by decide) sampleCalls (by decide) 7 18 .degraded rfl).1 rfl

end Autoscaling.Neonvm.Failurelag
