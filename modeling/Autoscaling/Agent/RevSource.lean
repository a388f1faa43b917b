import Autoscaling.Api.Revision
import Autoscaling.Lib.Transition

/-!
# The revision source (`pkg/agent/core/revsource`)

A `RevisionSource` hands out increasing revision values and, when a revision comes back,
reports how long it took. The revisions in flight are stored in order: the value `v` is kept at
`measurements[v - offset]`, the time at which `Next` produced it. `Next` evicts the oldest
entry once more than `MaxRevisions` are held, and `Observe` forgets the observed revision
together with every older one.

The values are `int64`s and wrap. `next_nextValue` and `observe_nextValue` hold in `int64`
arithmetic for every run; the statements that compare values (which revision a callback is for,
when `Observe` fails) hold while no value leaves the range of `int64` and the offset is not
negative: a negative offset lets `rev.Value - c.offset` wrap to a negative index, and then
`Observe` panics (`observe_panics_below_zero_offset`).
-/

namespace Autoscaling.Agent.Core.Revsource

open Go Vmv1 Trans

/-- `Upscale`. -/
def upscale : Flag := 1

/-- `Downscale`. -/
def downscale : Flag := 2

/-- `MaxRevisions`, the bound on the revisions held in flight. -/
def maxRevisions : Nat := 100

/-- `RevisionSource`. The callback is represented by whether it is set: the model reports each
call made to it instead of running it. -/
structure RevisionSource where
  cb : Bool
  measurements : List Int
  offset : Int64
deriving DecidableEq, Repr

/-- `NewRevisionSource(initialRevision, cb)`. -/
def newRevisionSource (initialRevision : Int64) (cb : Bool) : RevisionSource :=
  { cb, measurements := [], offset := initialRevision + 1 }

/-- `c.nextValue()`. -/
def RevisionSource.nextValue (c : RevisionSource) : Int64 :=
  c.offset + Int64.ofNat c.measurements.length

/-- `c.Next(now, flags)`. -/
def RevisionSource.next (c : RevisionSource) (now : Int) (flags : Flag) :
    Revision × RevisionSource :=
  let ret : Revision := ⟨c.nextValue, flags⟩
  let measurements := c.measurements ++ [now]
  if maxRevisions < measurements.length then
    (ret, { c with measurements := measurements.drop 1, offset := c.offset + 1 })
  else
    (ret, { c with measurements })

/-- What a call of `Observe` did besides changing the source: the call it made to the callback,
if any, and the error it returned. -/
structure Observed where
  callback : Option (Duration × Flag)
  err : Option String
deriving DecidableEq, Repr

/-- The error `Observe` returns for a revision it has not produced yet. -/
def futureRevision : String := "revision is in the future"

/-- `c.Observe(moment, rev)`; a panic is `Except.error`. -/
def RevisionSource.observe (c : RevisionSource) (moment : Int) (rev : Revision) :
    Except String (Observed × RevisionSource) :=
  if rev.value < c.offset then
    -- already observed
    .ok (⟨none, none⟩, c)
  else
    let idx := rev.value - c.offset
    if Int64.ofNat c.measurements.length ≤ idx then
      .ok (⟨none, some futureRevision⟩, c)
    else do
      let issued ← Go.index c.measurements idx
      let diff := Time.sub moment issued
      -- forget the measurement, and all the measurements before it
      let measurements ← Go.sliceFrom c.measurements (idx + 1)
      return (⟨if c.cb then some (diff, rev.flags) else none, none⟩,
        { c with offset := rev.value + 1, measurements })

/-- `Propagate(now, target, &current, cb)`: the new value of the slot. The latency it reports to
`cb` is observability only and is left out. -/
def propagate (target : RevisionWithTime) (current : Revision) : Revision :=
  if target.revision.value ≤ current.value then current else target.revision

/-! ### Runs -/

/-- A call on a `RevisionSource`. -/
inductive Call
  | next (now : Int) (flags : Flag)
  | observe (moment : Int) (rev : Revision)
deriving DecidableEq, Repr

/-- What a call returned. -/
inductive Reply
  | next (rev : Revision)
  | observe (observed : Observed)
deriving DecidableEq, Repr

/-- One call, as a step of the machine. -/
def RevisionSource.call (c : RevisionSource) : Call → Except String (Reply × RevisionSource)
  | .next now flags => .ok (.next (c.next now flags).1, (c.next now flags).2)
  | .observe moment rev => (c.observe moment rev).map fun (o, c') => (.observe o, c')

/-- A run: the calls made one after another, each with its reply and the source it left. -/
abbrev Step := Call × Reply × RevisionSource

/-- The number of `Next` calls of a run. -/
def nexts : List Step → Nat
  | [] => 0
  | (.next _ _, _, _) :: rest => nexts rest + 1
  | (.observe _ _, _, _) :: rest => nexts rest

/-- The revision value a step reported to the callback, if it called it. -/
def Step.calledBack : Step → Option Int64
  | (.observe _ rev, .observe ⟨some _, _⟩, _) => some rev.value
  | _ => none

/-! ### One call -/

section Calls

variable (c : RevisionSource)

/-- `Next` in closed form: the revision it returns and the source it leaves. -/
theorem next_eq (now : Int) (flags : Flag) :
    c.next now flags = (⟨c.nextValue, flags⟩,
      if maxRevisions < c.measurements.length + 1 then
        { c with measurements := (c.measurements ++ [now]).drop 1, offset := c.offset + 1 }
      else { c with measurements := c.measurements ++ [now] }) := by
  simp only [RevisionSource.next, List.length_append, List.length_singleton]
  split <;> rfl

@[simp] theorem next_fst (now : Int) (flags : Flag) :
    (c.next now flags).1 = ⟨c.nextValue, flags⟩ := by
  rw [next_eq]

@[simp] theorem next_cb (now : Int) (flags : Flag) : (c.next now flags).2.cb = c.cb := by
  rw [next_eq]
  split <;> rfl

/-- `Next` moves the next value on by one, in `int64` arithmetic, whether or not it evicts. -/
theorem next_nextValue (now : Int) (flags : Flag) :
    (c.next now flags).2.nextValue = c.nextValue + 1 := by
  rw [next_eq]
  unfold RevisionSource.nextValue
  split
  next evict =>
    simp only [List.length_drop, List.length_append, List.length_singleton, Nat.add_sub_cancel]
    grind
  next =>
    simp only [List.length_append, List.length_singleton, Int64.ofNat_add]
    grind

theorem next_length_le {now : Int} {flags : Flag}
    (bounded : c.measurements.length ≤ maxRevisions) :
    (c.next now flags).2.measurements.length ≤ maxRevisions := by
  rw [next_eq]
  split <;> simp <;> omega

theorem observe_of_lt {moment : Int} {rev : Revision} (observed : rev.value < c.offset) :
    c.observe moment rev = .ok (⟨none, none⟩, c) := by
  simp [RevisionSource.observe, observed]

/-- What `Observe` can do, when it does not panic: nothing for a revision below the offset,
the error for one at or past the next value, and otherwise report the revision at index `k`
and forget it with all older ones. -/
theorem observe_eq_ok {moment : Int} {rev : Revision} {o : Observed} {c' : RevisionSource}
    (returned : c.observe moment rev = .ok (o, c')) :
    (rev.value < c.offset ∧ o = ⟨none, none⟩ ∧ c' = c) ∨
    (¬ rev.value < c.offset ∧ Int64.ofNat c.measurements.length ≤ rev.value - c.offset ∧
      o = ⟨none, some futureRevision⟩ ∧ c' = c) ∨
    (∃ (k : Nat) (inFlight : k < c.measurements.length),
      ¬ rev.value < c.offset ∧ (rev.value - c.offset).toInt = k ∧
      o = ⟨if c.cb then some (Time.sub moment c.measurements[k], rev.flags) else none, none⟩ ∧
      c' = { c with offset := rev.value + 1, measurements := c.measurements.drop (k + 1) }) := by
  unfold RevisionSource.observe at returned
  split at returned
  next below =>
    cases returned
    exact .inl ⟨below, rfl, rfl⟩
  next notBelow =>
    simp only at returned
    split at returned
    next reached =>
      cases returned
      exact .inr (.inl ⟨notBelow, reached, rfl, rfl⟩)
    next =>
      cases found : Go.index c.measurements (rev.value - c.offset) with
      | error msg => simp [found, bind, Except.bind] at returned
      | ok issued =>
        cases rest : Go.sliceFrom c.measurements (rev.value - c.offset + 1) with
        | error msg => simp [found, rest, bind, Except.bind] at returned
        | ok measurements =>
          obtain ⟨inFlight, nonneg, rfl⟩ := index_eq_ok found
          obtain ⟨stays, -, rfl⟩ := sliceFrom_eq_ok rest
          have next_index := toInt_add_one_of_nonneg nonneg stays
          simp only [found, rest, bind, Except.bind, pure, Except.pure, Except.ok.injEq,
            Prod.mk.injEq] at returned
          obtain ⟨rfl, rfl⟩ := returned
          refine .inr (.inr ⟨_, inFlight, notBelow, by omega, rfl, ?_⟩)
          rw [next_index]
          congr 3
          omega

/-- `Observe` keeps the next value, in `int64` arithmetic: it forgets as many entries as it
moves the offset on. -/
theorem observe_nextValue {moment : Int} {rev : Revision} {o : Observed} {c' : RevisionSource}
    (returned : c.observe moment rev = .ok (o, c')) : c'.nextValue = c.nextValue := by
  rcases observe_eq_ok c returned with ⟨-, -, rfl⟩ | ⟨-, -, -, rfl⟩ | ⟨k, inFlight, -, at_k, -, rfl⟩
  · rfl
  · rfl
  · have index : Int64.ofNat k = rev.value - c.offset := by
      rw [← Int64.toInt_inj, at_k, toInt_ofNat_of_lt (by have := (rev.value - c.offset).toInt_lt; omega)]
    have split : Int64.ofNat (c.measurements.length - (k + 1)) + Int64.ofNat k + Int64.ofNat 1 =
        Int64.ofNat c.measurements.length := by
      rw [← Int64.ofNat_add, ← Int64.ofNat_add]
      congr 1
      omega
    have one : Int64.ofNat 1 = 1 := rfl
    simp only [RevisionSource.nextValue, List.length_drop]
    grind

theorem observe_length_le {moment : Int} {rev : Revision} {o : Observed} {c' : RevisionSource}
    (returned : c.observe moment rev = .ok (o, c')) :
    c'.measurements.length ≤ c.measurements.length := by
  rcases observe_eq_ok c returned with ⟨-, -, rfl⟩ | ⟨-, -, -, rfl⟩ | ⟨k, -, -, -, -, rfl⟩
  · exact le_rfl
  · exact le_rfl
  · simp

end Calls

/-- What one call can do: a `Next`, or an `Observe` that did not panic. -/
theorem call_eq_ok {c c' : RevisionSource} {call : Call} {r : Reply}
    (called : c.call call = .ok (r, c')) :
    (∃ now flags, call = .next now flags ∧ r = .next ⟨c.nextValue, flags⟩ ∧
      c' = (c.next now flags).2) ∨
    (∃ moment rev o, call = .observe moment rev ∧ r = .observe o ∧
      c.observe moment rev = .ok (o, c')) := by
  cases call with
  | next now flags =>
    simp only [RevisionSource.call, Except.ok.injEq, Prod.mk.injEq] at called
    obtain ⟨rfl, rfl⟩ := called
    exact .inl ⟨now, flags, rfl, by rw [next_fst], rfl⟩
  | observe moment rev =>
    cases returned : c.observe moment rev with
    | error msg => simp [RevisionSource.call, returned, Except.map] at called
    | ok result =>
      obtain ⟨o, c''⟩ := result
      simp only [RevisionSource.call, returned, Except.map, Except.ok.injEq,
        Prod.mk.injEq] at called
      obtain ⟨rfl, rfl⟩ := called
      exact .inr ⟨moment, rev, o, rfl, rfl, returned⟩

/-! ### Sources whose values stay within `int64` -/

/-- The sources whose offset is not negative and whose values in flight are all `int64`s. On
them, comparisons of revision values agree with comparisons of integers. -/
def RevisionSource.Bounded (c : RevisionSource) : Prop :=
  0 ≤ c.offset.toInt ∧ c.offset.toInt + c.measurements.length < 2 ^ 63

/-- `v` is in flight in `c`: it is stored at `measurements[v - offset]`. -/
def RevisionSource.InFlight (c : RevisionSource) (v : Int64) : Prop :=
  c.offset.toInt ≤ v.toInt ∧ v.toInt < c.offset.toInt + c.measurements.length

section Bounded

variable {c : RevisionSource}

theorem RevisionSource.Bounded.nextValue_toInt (bounded : c.Bounded) :
    c.nextValue.toInt = c.offset.toInt + c.measurements.length := by
  obtain ⟨lo, hi⟩ := bounded
  have len : (Int64.ofNat c.measurements.length).toInt = c.measurements.length :=
    toInt_ofNat_of_lt (by omega)
  unfold RevisionSource.nextValue
  rw [toInt_add_of_range (by omega) (by omega), len]

/-- `Observe` on a bounded source, by where the revision lies: below the window, at or past its
end, or in flight at index `k`. -/
theorem observe_bounded {moment : Int} {rev : Revision} {o : Observed} {c' : RevisionSource}
    (bounded : c.Bounded) (returned : c.observe moment rev = .ok (o, c')) :
    (rev.value.toInt < c.offset.toInt ∧ o = ⟨none, none⟩ ∧ c' = c) ∨
    (c.offset.toInt + c.measurements.length ≤ rev.value.toInt ∧
      o = ⟨none, some futureRevision⟩ ∧ c' = c) ∨
    (∃ (k : Nat) (inFlight : k < c.measurements.length), c.offset.toInt + k = rev.value.toInt ∧
      o = ⟨if c.cb then some (Time.sub moment c.measurements[k], rev.flags) else none, none⟩ ∧
      c' = { c with offset := rev.value + 1, measurements := c.measurements.drop (k + 1) }) := by
  obtain ⟨lo, hi⟩ := bounded
  have top := rev.value.toInt_lt
  rcases observe_eq_ok c returned with
    ⟨below, rest⟩ | ⟨notBelow, reached, rest⟩ | ⟨k, inFlight, notBelow, at_k, rest⟩
  · exact .inl ⟨Int64.lt_iff_toInt_lt.mp below, rest⟩
  · have above : c.offset.toInt ≤ rev.value.toInt := by
      have := mt Int64.lt_iff_toInt_lt.mpr notBelow
      omega
    rw [Int64.le_iff_toInt_le, toInt_sub_of_range (by omega) (by omega),
      toInt_ofNat_of_lt (by omega)] at reached
    exact .inr (.inl ⟨by omega, rest⟩)
  · have above : c.offset.toInt ≤ rev.value.toInt := by
      have := mt Int64.lt_iff_toInt_lt.mpr notBelow
      omega
    rw [toInt_sub_of_range (by omega) (by omega)] at at_k
    exact .inr (.inr ⟨k, inFlight, by omega, rest⟩)

/-- On a bounded source `Observe` never panics: the index it computes is in range. -/
theorem observe_ok_of_bounded (bounded : c.Bounded) (moment : Int) (rev : Revision) :
    ∃ o c', c.observe moment rev = .ok (o, c') := by
  obtain ⟨lo, hi⟩ := bounded
  have top := rev.value.toInt_lt
  unfold RevisionSource.observe
  split
  next => exact ⟨_, _, rfl⟩
  next notBelow =>
    have above : c.offset.toInt ≤ rev.value.toInt := by
      have := mt Int64.lt_iff_toInt_lt.mpr notBelow
      omega
    have idx : (rev.value - c.offset).toInt = rev.value.toInt - c.offset.toInt :=
      toInt_sub_of_range (by omega) (by omega)
    simp only
    split
    next => exact ⟨_, _, rfl⟩
    next notReached =>
      rw [Int64.le_iff_toInt_le, toInt_ofNat_of_lt (by omega)] at notReached
      have after : (rev.value - c.offset + 1).toInt = (rev.value - c.offset).toInt + 1 :=
        toInt_add_of_range (by simp only [Int64.toInt_one]; omega)
          (by simp only [Int64.toInt_one]; omega)
      rw [index_of_range (by omega) (by omega), sliceFrom_of_range (by omega) (by omega)]
      exact ⟨_, _, rfl⟩

end Bounded

/-! ### Runs from `NewRevisionSource` -/

/-- One of the calls of `pre` was a `Next` at time `t` that returned the value `v`. -/
def IssuedIn (pre : List Step) (v : Int64) (t : Int) : Prop :=
  ∃ pre₁ flags s₁ pre₂, pre = pre₁ ++ (.next t flags, .next ⟨v, flags⟩, s₁) :: pre₂

theorem IssuedIn.append {pre : List Step} {v : Int64} {t : Int} (issued : IssuedIn pre v t)
    (more : List Step) : IssuedIn (pre ++ more) v t := by
  obtain ⟨pre₁, flags, s₁, pre₂, rfl⟩ := issued
  exact ⟨pre₁, flags, s₁, pre₂ ++ more, by simp⟩

@[simp] theorem nexts_append (xs ys : List Step) : nexts (xs ++ ys) = nexts xs + nexts ys := by
  induction xs with
  | nil => simp [nexts]
  | cons e rest ih =>
    obtain ⟨call, reply, c⟩ := e
    cases call with
    | next now flags => simp only [List.cons_append, nexts, ih]; omega
    | observe moment rev => simp only [List.cons_append, nexts, ih]

@[simp] theorem nexts_next (now : Int) (flags : Flag) (r : Reply) (c : RevisionSource) :
    nexts [(.next now flags, r, c)] = 1 := rfl

@[simp] theorem nexts_observe (moment : Int) (rev : Revision) (r : Reply) (c : RevisionSource) :
    nexts [(.observe moment rev, r, c)] = 0 := rfl

/-- In every run, `int64` arithmetic: the next value is `r0 + 1` plus the number of `Next`
calls so far, and at most `MaxRevisions` revisions are held. -/
theorem counted_of_trace {r0 : Int64} {cb : Bool} {pre : List Step}
    (trace : Trace RevisionSource.call (newRevisionSource r0 cb) pre) :
    (last (newRevisionSource r0 cb) pre).nextValue = r0 + 1 + Int64.ofNat (nexts pre) ∧
    (last (newRevisionSource r0 cb) pre).measurements.length ≤ maxRevisions := by
  induction pre using List.reverseRecOn with
  | nil => exact ⟨by simp [newRevisionSource, RevisionSource.nextValue, nexts],
      by simp [newRevisionSource]⟩
  | append_singleton pre e ih =>
    obtain ⟨call, reply, c'⟩ := e
    obtain ⟨before, called⟩ := (trace_snoc _ pre call reply c').mp trace
    obtain ⟨value, short⟩ := ih before
    rw [last_snoc, nexts_append]
    rcases call_eq_ok called with ⟨now, flags, rfl, -, rfl⟩ | ⟨moment, rev, o, rfl, -, returned⟩
    · rw [next_nextValue, value, nexts_next, Int64.ofNat_add]
      exact ⟨by grind, next_length_le _ short⟩
    · rw [observe_nextValue _ returned, value, nexts_observe]
      exact ⟨by simp, (observe_length_le _ returned).trans short⟩

/-- What holds after the calls `pre` of a run from `NewRevisionSource(r0, _)` while no value
has left `int64`: the window of values in flight ends at `r0 + 1 + nexts pre`, holds at most
`MaxRevisions` entries, and each entry is the time of the `Next` that returned its value. -/
structure Sound (r0 : Int64) (pre : List Step) (c : RevisionSource) : Prop where
  nonneg : 0 ≤ c.offset.toInt
  count : c.offset.toInt + c.measurements.length = r0.toInt + 1 + nexts pre
  short : c.measurements.length ≤ maxRevisions
  issued : ∀ (k : Nat) (inFlight : k < c.measurements.length) (v : Int64),
    v.toInt = c.offset.toInt + k → IssuedIn pre v c.measurements[k]

theorem Sound.bounded {r0 : Int64} {pre : List Step} {c : RevisionSource} (sound : Sound r0 pre c)
    (fits : r0.toInt + 1 + nexts pre < 2 ^ 63) : c.Bounded :=
  ⟨sound.nonneg, by have := sound.count; omega⟩

theorem sound_init {r0 : Int64} (cb : Bool) (lo : -1 ≤ r0.toInt) (hi : r0.toInt + 1 < 2 ^ 63) :
    Sound r0 [] (newRevisionSource r0 cb) where
  nonneg := by
    simp only [newRevisionSource]
    rw [toInt_add_of_range (by simp; omega) (by simpa using hi), Int64.toInt_one]
    omega
  count := by
    simp only [newRevisionSource, List.length_nil, Nat.cast_zero, add_zero, nexts]
    rw [toInt_add_of_range (by simp; omega) (by simpa using hi), Int64.toInt_one]
  short := by simp [newRevisionSource, maxRevisions]
  issued := by simp [newRevisionSource]

/-- The entry `k` of the measurements after appending `now`: an old entry, or `now` itself. -/
private theorem issued_append {pre more : List Step} {c : RevisionSource} {r0 : Int64} {now : Int}
    (sound : Sound r0 pre c) (fresh : IssuedIn (pre ++ more) c.nextValue now)
    (bounded : c.Bounded) (k : Nat) (inFlight : k < (c.measurements ++ [now]).length)
    (v : Int64) (at_k : v.toInt = c.offset.toInt + k) :
    IssuedIn (pre ++ more) v (c.measurements ++ [now])[k] := by
  rw [List.getElem_append]
  split
  next old => exact (sound.issued k old v at_k).append more
  next =>
    have last : k = c.measurements.length := by simp at inFlight; omega
    have same : v = c.nextValue := by
      rw [← Int64.toInt_inj, (RevisionSource.Bounded.nextValue_toInt bounded)]
      omega
    subst same
    simpa using fresh

theorem sound_next {r0 : Int64} {pre : List Step} {c : RevisionSource} (sound : Sound r0 pre c)
    (now : Int) (flags : Flag) (fits : r0.toInt + 1 + nexts pre + 1 < 2 ^ 63) :
    Sound r0 (pre ++ [(.next now flags, .next ⟨c.nextValue, flags⟩, (c.next now flags).2)])
      (c.next now flags).2 := by
  have bounded := sound.bounded (by omega)
  have count := sound.count
  have short := sound.short
  have fresh : IssuedIn (pre ++ [(.next now flags, .next ⟨c.nextValue, flags⟩,
      (c.next now flags).2)]) c.nextValue now := ⟨pre, flags, _, [], rfl⟩
  generalize shape : (c.next now flags).2 = c' at fresh ⊢
  rw [next_eq] at shape
  simp only at shape
  split at shape
  next evict =>
    -- the window is full: the oldest entry goes and the offset moves on by one
    subst shape
    have nonneg := sound.nonneg
    simp only [maxRevisions] at evict short
    have offset : (c.offset + 1).toInt = c.offset.toInt + 1 :=
      toInt_add_of_range (by simp; omega) (by simp; omega)
    refine ⟨?_, ?_, ?_, ?_⟩
    · show 0 ≤ (c.offset + 1).toInt
      omega
    · show (c.offset + 1).toInt + ((c.measurements ++ [now]).drop 1).length = _
      simp only [offset, List.length_drop, List.length_append, List.length_singleton,
        nexts_append, nexts_next]
      omega
    · simp [maxRevisions]
      omega
    · intro k inFlight v at_k
      simp only [List.getElem_drop]
      exact issued_append sound fresh bounded (1 + k) (by simp at inFlight ⊢; omega) v
        (by change v.toInt = (c.offset + 1).toInt + k at at_k; omega)
  next =>
    subst shape
    refine ⟨sound.nonneg, ?_, ?_, ?_⟩
    · simp only [List.length_append, List.length_singleton, nexts_append, nexts_next]
      omega
    · simp only [List.length_append, List.length_singleton]
      omega
    · exact issued_append sound fresh bounded

theorem sound_observe {r0 : Int64} {pre : List Step} {c c' : RevisionSource} {moment : Int}
    {rev : Revision} {o : Observed} (sound : Sound r0 pre c)
    (fits : r0.toInt + 1 + nexts pre < 2 ^ 63) (returned : c.observe moment rev = .ok (o, c')) :
    Sound r0 (pre ++ [(.observe moment rev, .observe o, c')]) c' := by
  have bounded := sound.bounded fits
  have count := sound.count
  have nonneg := sound.nonneg
  rcases observe_bounded bounded returned with ⟨-, -, rfl⟩ | ⟨-, -, rfl⟩ | ⟨k, inFlight, at_k, -, rfl⟩
  · exact ⟨nonneg, by simpa using count, sound.short, fun k inFlight v at_k =>
      (sound.issued k inFlight v at_k).append _⟩
  · exact ⟨nonneg, by simpa using count, sound.short, fun k inFlight v at_k =>
      (sound.issued k inFlight v at_k).append _⟩
  · -- the revision at index `k` and every older one are forgotten
    have offset : (rev.value + 1).toInt = rev.value.toInt + 1 :=
      toInt_add_of_range (by simp; omega) (by simp; omega)
    refine ⟨?_, ?_, ?_, ?_⟩
    · show 0 ≤ (rev.value + 1).toInt
      omega
    · show (rev.value + 1).toInt + (c.measurements.drop (k + 1)).length = _
      simp only [offset, List.length_drop, nexts_append, nexts_observe]
      omega
    · simp only [List.length_drop]
      have := sound.short
      omega
    · intro j inFlight' v at_j
      simp only [List.getElem_drop]
      exact (sound.issued (k + 1 + j) (by simp at inFlight'; omega) v
        (by change v.toInt = (rev.value + 1).toInt + j at at_j; omega)).append _

/-- Every prefix of a run from `NewRevisionSource(r0, cb)` that stays within `int64` leaves a
sound source. -/
theorem sound_of_trace {r0 : Int64} {cb : Bool} {pre : List Step}
    (trace : Trace RevisionSource.call (newRevisionSource r0 cb) pre) (lo : -1 ≤ r0.toInt)
    (fits : r0.toInt + 1 + nexts pre < 2 ^ 63) :
    Sound r0 pre (last (newRevisionSource r0 cb) pre) := by
  induction pre using List.reverseRecOn with
  | nil => exact sound_init cb lo (by simpa [nexts] using fits)
  | append_singleton pre e ih =>
    obtain ⟨call, reply, c'⟩ := e
    obtain ⟨before, called⟩ := (trace_snoc _ pre call reply c').mp trace
    have sound := ih before (by simp at fits; omega)
    rw [last_snoc]
    rcases call_eq_ok called with ⟨now, flags, rfl, rfl, rfl⟩ | ⟨moment, rev, o, rfl, rfl, returned⟩
    · exact sound_next sound now flags (by simp at fits; omega)
    · exact sound_observe sound (by simp at fits; omega) returned

/-! ### The window of values in flight only moves forward -/

section Window

variable {r0 : Int64} {pre : List Step} {c c' : RevisionSource} {call : Call} {r : Reply}

theorem offset_step_mono (sound : Sound r0 pre c) (fits : r0.toInt + 1 + nexts pre < 2 ^ 63)
    (called : c.call call = .ok (r, c')) : c.offset.toInt ≤ c'.offset.toInt := by
  have bounded := sound.bounded fits
  have short := sound.short
  obtain ⟨nonneg, below⟩ := bounded
  rcases call_eq_ok called with ⟨now, flags, -, -, rfl⟩ | ⟨moment, rev, o, -, -, returned⟩
  · rw [next_eq]
    split
    next evict =>
      simp only [maxRevisions] at evict short
      show c.offset.toInt ≤ (c.offset + 1).toInt
      rw [toInt_add_of_range (by simp; omega) (by simp; omega), Int64.toInt_one]
      omega
    next => exact le_rfl
  · rcases observe_bounded ⟨nonneg, below⟩ returned with
      ⟨-, -, rfl⟩ | ⟨-, -, rfl⟩ | ⟨k, inFlight, at_k, -, rfl⟩
    · exact le_rfl
    · exact le_rfl
    · show c.offset.toInt ≤ (rev.value + 1).toInt
      rw [toInt_add_of_range (by simp; omega) (by simp; omega), Int64.toInt_one]
      omega

/-- A call that reports `v` to the callback finds `v` in flight and moves the offset past it. -/
theorem callback_step {v : Int64} (sound : Sound r0 pre c)
    (fits : r0.toInt + 1 + nexts pre < 2 ^ 63) (called : c.call call = .ok (r, c'))
    (back : Step.calledBack (call, r, c') = some v) :
    c.InFlight v ∧ c'.offset.toInt = v.toInt + 1 := by
  obtain ⟨nonneg, below⟩ := sound.bounded fits
  rcases call_eq_ok called with ⟨now, flags, rfl, rfl, -⟩ | ⟨moment, rev, o, rfl, rfl, returned⟩
  · simp [Step.calledBack] at back
  · rcases observe_bounded ⟨nonneg, below⟩ returned with
      ⟨-, rfl, -⟩ | ⟨-, rfl, -⟩ | ⟨k, inFlight, at_k, rfl, rfl⟩
    · simp [Step.calledBack] at back
    · simp [Step.calledBack] at back
    · have reported : rev.value = v := by
        cases cb : c.cb <;> simp [Step.calledBack, cb] at back
        exact back
      subst reported
      refine ⟨⟨by omega, by omega⟩, ?_⟩
      show (rev.value + 1).toInt = _
      rw [toInt_add_of_range (by simp; omega) (by simp; omega), Int64.toInt_one]

/-- Along a run that stays within `int64`, neither end of the window moves back. -/
theorem window_mono {cb : Bool} (lo : -1 ≤ r0.toInt) :
    ∀ (xs ys : List Step), Trace RevisionSource.call (newRevisionSource r0 cb) (xs ++ ys) →
      r0.toInt + 1 + nexts (xs ++ ys) < 2 ^ 63 →
      (last (newRevisionSource r0 cb) xs).offset.toInt ≤
        (last (newRevisionSource r0 cb) (xs ++ ys)).offset.toInt ∧
      nexts xs ≤ nexts (xs ++ ys)
  | xs, [], _, _ => by simp
  | xs, (call, r, c') :: ys, trace, fits => by
    have regrouped : xs ++ (call, r, c') :: ys = (xs ++ [(call, r, c')]) ++ ys := by simp
    rw [regrouped] at trace fits ⊢
    obtain ⟨later, more⟩ := window_mono lo (xs ++ [(call, r, c')]) ys trace fits
    have before := trace.append_left
    obtain ⟨start, called⟩ := (trace_snoc _ xs call r c').mp before
    have sound := sound_of_trace start lo (by simp at fits; omega)
    have moved := offset_step_mono sound (by simp at fits; omega) called
    rw [last_snoc] at later
    simp only [nexts_append] at more ⊢
    exact ⟨moved.trans later, by omega⟩

/-- Between a state where `v` is below the end of the window and a later one where it is not
below the offset, `v` is in flight. -/
theorem inFlight_between {cb : Bool} {v : Int64} (lo : -1 ≤ r0.toInt) (xs ys zs : List Step)
    (trace : Trace RevisionSource.call (newRevisionSource r0 cb) (xs ++ ys ++ zs))
    (fits : r0.toInt + 1 + nexts (xs ++ ys ++ zs) < 2 ^ 63)
    (early : v.toInt < (last (newRevisionSource r0 cb) xs).offset.toInt +
      (last (newRevisionSource r0 cb) xs).measurements.length)
    (late : (last (newRevisionSource r0 cb) (xs ++ ys ++ zs)).offset.toInt ≤ v.toInt) :
    (last (newRevisionSource r0 cb) (xs ++ ys)).InFlight v := by
  have nexts_le : nexts (xs ++ ys) ≤ nexts (xs ++ ys ++ zs) := by simp
  obtain ⟨-, more⟩ := window_mono lo xs ys trace.append_left (by omega)
  obtain ⟨forward, -⟩ := window_mono lo (xs ++ ys) zs trace fits
  have first := (sound_of_trace trace.append_left.append_left lo
    (by simp at fits nexts_le ⊢; omega)).count
  have middle := (sound_of_trace trace.append_left lo (by omega)).count
  exact ⟨by omega, by omega⟩

end Window

/-! ### What a run guarantees -/

/-- The `k`-th `Next` of the run returns `r0 + k`, in `int64` arithmetic. -/
def NextNumbered (r0 : Int64) (steps : List Step) : Prop :=
  ∀ pre now flags r c post, steps = pre ++ (.next now flags, r, c) :: post →
    r = .next ⟨r0 + Int64.ofNat (nexts pre + 1), flags⟩

/-- At most `MaxRevisions` revisions are held after every call, and `Observe` keeps
`offset + len(measurements)`. -/
def WindowPreserved (r0 : Int64) (cb : Bool) (steps : List Step) : Prop :=
  (∀ e ∈ steps, e.2.2.measurements.length ≤ maxRevisions) ∧
  ∀ pre moment rev r c post, steps = pre ++ (.observe moment rev, r, c) :: post →
    c.nextValue = (last (newRevisionSource r0 cb) pre).nextValue

/-- Every call of the callback reports a value that an earlier `Next` returned and that has
stayed in flight ever since, with the time since that `Next`; and no value is reported twice. -/
def CallbacksTimed (steps : List Step) : Prop :=
  (∀ pre moment rev o c post d f,
    steps = pre ++ (.observe moment rev, .observe o, c) :: post → o.callback = some (d, f) →
    f = rev.flags ∧ ∃ pre₁ now flags c₁ pre₂,
      pre = pre₁ ++ (.next now flags, .next ⟨rev.value, flags⟩, c₁) :: pre₂ ∧
      d = Time.sub moment now ∧
      ∀ e ∈ (.next now flags, .next ⟨rev.value, flags⟩, c₁) :: pre₂,
        e.2.2.InFlight rev.value) ∧
  ∀ pre e₁ mid e₂ post, steps = pre ++ e₁ :: mid ++ e₂ :: post →
    e₁.calledBack.isSome → e₂.calledBack ≠ e₁.calledBack

/-- In every state of the run, `Observe` does not panic, and it returns an error exactly for a
revision at or past the next value, leaving the source as it was. -/
def ObserveErrorsExact (r0 : Int64) (cb : Bool) (steps : List Step) : Prop :=
  ∀ pre post, steps = pre ++ post → ∀ moment rev, ∃ o c',
    (last (newRevisionSource r0 cb) pre).observe moment rev = .ok (o, c') ∧
    (o.err.isSome ↔ (last (newRevisionSource r0 cb) pre).nextValue ≤ rev.value) ∧
    (o.err.isSome → o = ⟨none, some futureRevision⟩ ∧ c' = last (newRevisionSource r0 cb) pre)

section Run

variable {r0 : Int64} {cb : Bool} {steps : List Step}

/-- The `k`-th `Next` of a run returns `r0 + k`, whatever was observed in between. -/
theorem next_reply_of_trace (trace : Trace RevisionSource.call (newRevisionSource r0 cb) steps)
    {pre post : List Step} {now : Int} {flags : Flag} {r : Reply} {c : RevisionSource}
    (split : steps = pre ++ (.next now flags, r, c) :: post) :
    r = .next ⟨r0 + Int64.ofNat (nexts pre + 1), flags⟩ := by
  subst split
  obtain ⟨start, called, -⟩ := trace.at
  rcases call_eq_ok called with ⟨now', flags', same, rfl, -⟩ | ⟨_, _, _, contra, -, -⟩
  · cases same
    have one : Int64.ofNat 1 = 1 := rfl
    rw [(counted_of_trace start).1, Int64.ofNat_add, one, Int64.add_assoc, Int64.add_comm 1]
  · cases contra

theorem length_of_trace (trace : Trace RevisionSource.call (newRevisionSource r0 cb) steps) :
    ∀ e ∈ steps, e.2.2.measurements.length ≤ maxRevisions := by
  intro e member
  obtain ⟨xs, ys, rfl⟩ := List.mem_iff_append.mp member
  obtain ⟨call, r, c⟩ := e
  rw [show xs ++ (call, r, c) :: ys = (xs ++ [(call, r, c)]) ++ ys by simp] at trace
  simpa using (counted_of_trace trace.append_left).2

theorem observe_nextValue_of_trace
    (trace : Trace RevisionSource.call (newRevisionSource r0 cb) steps)
    {pre post : List Step} {moment : Int} {rev : Revision} {r : Reply} {c : RevisionSource}
    (split : steps = pre ++ (.observe moment rev, r, c) :: post) :
    c.nextValue = (last (newRevisionSource r0 cb) pre).nextValue := by
  subst split
  obtain ⟨-, called, -⟩ := trace.at
  rcases call_eq_ok called with ⟨_, _, contra, -, -⟩ | ⟨moment', rev', o, same, -, returned⟩
  · cases contra
  · cases same
    exact observe_nextValue _ returned

/-- From the `Next` that returned `v` up to a state in which `v` is not below the offset, `v`
stays in flight. -/
theorem inFlight_since_next (lo : -1 ≤ r0.toInt) {pre₁ pre₂ : List Step} {now : Int}
    {flags : Flag} {v : Int64} {c₁ : RevisionSource}
    (trace : Trace RevisionSource.call (newRevisionSource r0 cb)
      (pre₁ ++ (.next now flags, .next ⟨v, flags⟩, c₁) :: pre₂))
    (fits : r0.toInt + 1 + nexts (pre₁ ++ (.next now flags, .next ⟨v, flags⟩, c₁) :: pre₂) < 2 ^ 63)
    (late : (last (newRevisionSource r0 cb)
      (pre₁ ++ (.next now flags, .next ⟨v, flags⟩, c₁) :: pre₂)).offset.toInt ≤ v.toInt) :
    ∀ e ∈ (.next now flags, .next ⟨v, flags⟩, c₁) :: pre₂, e.2.2.InFlight v := by
  have reply := next_reply_of_trace trace rfl
  have value : v = r0 + Int64.ofNat (nexts pre₁ + 1) := by simpa using reply
  simp only [nexts_append, nexts] at fits
  have value_toInt : v.toInt = r0.toInt + (nexts pre₁ + 1) := by
    have small : (Int64.ofNat (nexts pre₁ + 1)).toInt = nexts pre₁ + 1 := by
      rw [toInt_ofNat_of_lt (by omega)]
      push_cast
      rfl
    rw [value, toInt_add_of_range (by rw [small]; omega) (by rw [small]; omega), small]
  -- split the run after the `Next`, where `v` is the newest value in flight
  set xs := pre₁ ++ [(.next now flags, .next ⟨v, flags⟩, c₁)] with xs_def
  have regrouped : pre₁ ++ (.next now flags, .next ⟨v, flags⟩, c₁) :: pre₂ = xs ++ pre₂ := by
    simp [xs_def]
  rw [regrouped] at trace late
  have after : last (newRevisionSource r0 cb) xs = c₁ := last_snoc _ _ _ _ _
  have early : v.toInt < c₁.offset.toInt + c₁.measurements.length := by
    have count := (sound_of_trace trace.append_left lo (by simp [xs_def]; omega)).count
    rw [after] at count
    simp only [xs_def, nexts_append, nexts_next] at count
    omega
  have fits' : r0.toInt + 1 + nexts (xs ++ pre₂) < 2 ^ 63 := by
    simp only [xs_def, nexts_append, nexts_next]
    omega
  intro e member
  rcases List.mem_cons.mp member with rfl | later
  · have between := inFlight_between lo xs [] pre₂ (by rwa [List.append_nil]) (by rwa [List.append_nil])
      (by rwa [after]) (by rwa [List.append_nil])
    rwa [List.append_nil, after] at between
  · obtain ⟨ys, zs, rfl⟩ := List.mem_iff_append.mp later
    obtain ⟨call, r, c⟩ := e
    have shape : xs ++ (ys ++ (call, r, c) :: zs) = xs ++ (ys ++ [(call, r, c)]) ++ zs := by simp
    rw [shape] at trace late fits'
    have between := inFlight_between lo xs (ys ++ [(call, r, c)]) zs trace fits'
      (by rwa [after]) late
    rwa [← List.append_assoc, last_snoc] at between

/-- A callback reports the flags of the observed revision and the time since the `Next` that
returned its value, which has been in flight ever since. -/
theorem callback_of_trace (trace : Trace RevisionSource.call (newRevisionSource r0 cb) steps)
    (lo : -1 ≤ r0.toInt) (fits : r0.toInt + 1 + nexts steps < 2 ^ 63)
    {pre post : List Step} {moment : Int} {rev : Revision} {o : Observed} {c : RevisionSource}
    {d : Duration} {f : Flag}
    (split : steps = pre ++ (.observe moment rev, .observe o, c) :: post)
    (back : o.callback = some (d, f)) :
    f = rev.flags ∧ ∃ pre₁ now flags c₁ pre₂,
      pre = pre₁ ++ (.next now flags, .next ⟨rev.value, flags⟩, c₁) :: pre₂ ∧
      d = Time.sub moment now ∧
      ∀ e ∈ (.next now flags, .next ⟨rev.value, flags⟩, c₁) :: pre₂,
        e.2.2.InFlight rev.value := by
  subst split
  obtain ⟨start, called, -⟩ := trace.at
  have fits_pre : r0.toInt + 1 + nexts pre < 2 ^ 63 := by simp at fits; omega
  have sound := sound_of_trace start lo fits_pre
  rcases call_eq_ok called with ⟨_, _, contra, -, -⟩ | ⟨moment', rev', o', same, replied, returned⟩
  · cases contra
  cases same
  cases replied
  rcases observe_bounded (sound.bounded fits_pre) returned with
    ⟨-, rfl, -⟩ | ⟨-, rfl, -⟩ | ⟨k, inFlight, at_k, rfl, -⟩
  · simp at back
  · simp at back
  -- the revision was at index `k`: its entry is the time of the `Next` that returned it
  have reported : d = Time.sub moment (last (newRevisionSource r0 cb) pre).measurements[k] ∧
      f = rev.flags := by
    cases set : (last (newRevisionSource r0 cb) pre).cb <;> simp [set] at back
    exact ⟨back.1.symm, back.2.symm⟩
  obtain ⟨pre₁, flags, c₁, pre₂, shape⟩ := sound.issued k inFlight rev.value at_k.symm
  have late : (last (newRevisionSource r0 cb) pre).offset.toInt ≤ rev.value.toInt := by omega
  rw [shape] at start fits_pre late
  exact ⟨reported.2, pre₁, _, flags, c₁, pre₂, shape, reported.1,
    inFlight_since_next lo start fits_pre late⟩

/-- Once a value has been reported, no later call reports it again: reporting moves the offset
past it, and the offset never moves back. -/
theorem callback_once_of_trace (trace : Trace RevisionSource.call (newRevisionSource r0 cb) steps)
    (lo : -1 ≤ r0.toInt) (fits : r0.toInt + 1 + nexts steps < 2 ^ 63)
    {pre mid post : List Step} {e₁ e₂ : Step} (split : steps = pre ++ e₁ :: mid ++ e₂ :: post)
    (first : e₁.calledBack.isSome) : e₂.calledBack ≠ e₁.calledBack := by
  obtain ⟨v, back₁⟩ := Option.isSome_iff_exists.mp first
  rw [back₁]
  intro back₂
  subst split
  obtain ⟨call₁, r₁, c₁⟩ := e₁
  obtain ⟨call₂, r₂, c₂⟩ := e₂
  simp only [nexts_append] at fits
  have shape₁ : pre ++ (call₁, r₁, c₁) :: mid ++ (call₂, r₂, c₂) :: post =
      pre ++ (call₁, r₁, c₁) :: (mid ++ (call₂, r₂, c₂) :: post) := by simp
  have shape₂ : pre ++ (call₁, r₁, c₁) :: mid ++ (call₂, r₂, c₂) :: post =
      (pre ++ (call₁, r₁, c₁) :: mid) ++ (call₂, r₂, c₂) :: post := by simp
  obtain ⟨start₁, called₁, -⟩ := (shape₁ ▸ trace).at
  obtain ⟨start₂, called₂, -⟩ := (shape₂ ▸ trace).at
  -- the first report leaves the offset at `v + 1`
  have past := (callback_step (sound_of_trace start₁ lo (by omega)) (by omega) called₁ back₁).2
  -- the second finds `v` in flight
  have found := (callback_step (sound_of_trace start₂ lo (by simp; omega)) (by simp; omega)
    called₂ back₂).1
  have regrouped : pre ++ (call₁, r₁, c₁) :: mid = (pre ++ [(call₁, r₁, c₁)]) ++ mid := by simp
  rw [regrouped] at start₂ found
  have mono := (window_mono lo (pre ++ [(call₁, r₁, c₁)]) mid start₂ (by simp; omega)).1
  rw [last_snoc] at mono
  have := found.1
  omega

/-- In every state of a run within `int64`, `Observe` returns, and its error is exactly the
case of a revision at or past the next value. -/
theorem observe_of_trace (trace : Trace RevisionSource.call (newRevisionSource r0 cb) steps)
    (lo : -1 ≤ r0.toInt) (fits : r0.toInt + 1 + nexts steps < 2 ^ 63)
    {pre post : List Step} (split : steps = pre ++ post) (moment : Int) (rev : Revision) :
    ∃ o c', (last (newRevisionSource r0 cb) pre).observe moment rev = .ok (o, c') ∧
      (o.err.isSome ↔ (last (newRevisionSource r0 cb) pre).nextValue ≤ rev.value) ∧
      (o.err.isSome → o = ⟨none, some futureRevision⟩ ∧
        c' = last (newRevisionSource r0 cb) pre) := by
  subst split
  simp only [nexts_append] at fits
  have bounded := (sound_of_trace trace.append_left lo (by omega)).bounded (by omega)
  obtain ⟨o, c', returned⟩ := observe_ok_of_bounded bounded moment rev
  refine ⟨o, c', returned, ?_⟩
  rw [Int64.le_iff_toInt_le, RevisionSource.Bounded.nextValue_toInt bounded]
  rcases observe_bounded bounded returned with
    ⟨below, rfl, rfl⟩ | ⟨above, rfl, rfl⟩ | ⟨k, inFlight, at_k, rfl, rfl⟩
  · simp only [Option.isSome_none, Bool.false_eq_true, false_iff, false_implies, and_true]
    omega
  · simp [above]
  · simp only [Option.isSome_none, Bool.false_eq_true, false_iff, false_implies, and_true]
    omega

end Run

/-- Over every run from `NewRevisionSource(r0, cb)`: `Next` numbers its values from `r0 + 1`
and the window keeps its size and end; and while the values stay within `int64` from a
non-negative offset, the callback reports each value at most once with its own latency, and
`Observe` fails exactly on revisions it has not produced. -/
theorem revisionSource_run (r0 : Int64) (cb : Bool) (steps : List Step)
    (trace : Trace RevisionSource.call (newRevisionSource r0 cb) steps) :
    NextNumbered r0 steps ∧ WindowPreserved r0 cb steps ∧
    (-1 ≤ r0.toInt → r0.toInt + 1 + nexts steps < 2 ^ 63 →
      CallbacksTimed steps ∧ ObserveErrorsExact r0 cb steps) := by
  refine ⟨fun pre now flags r c post split => next_reply_of_trace trace split,
    ⟨length_of_trace trace, fun pre moment rev r c post split =>
      observe_nextValue_of_trace trace split⟩, fun lo fits => ⟨⟨?_, ?_⟩, ?_⟩⟩
  · intro pre moment rev o c post d f split back
    exact callback_of_trace trace lo fits split back
  · intro pre e₁ mid e₂ post split first
    exact callback_once_of_trace trace lo fits split first
  · intro pre post split moment rev
    exact observe_of_trace trace lo fits split moment rev

/-- A run from revision 0: two `Next`s, then the `Observe` of the first. -/
def sampleRun : List Step :=
  [(.next 1 upscale, .next ⟨1, upscale⟩, ⟨true, [1], 1⟩),
   (.next 2 downscale, .next ⟨2, downscale⟩, ⟨true, [1, 2], 1⟩),
   (.observe 5 ⟨1, upscale⟩, .observe ⟨some (4, upscale), none⟩, ⟨true, [2], 2⟩)]

theorem revisionSource_run_sample :
    Trace RevisionSource.call (newRevisionSource 0 true) sampleRun ∧
    -1 ≤ (0 : Int64).toInt ∧ (0 : Int64).toInt + 1 + nexts sampleRun < 2 ^ 63 ∧
    CallbacksTimed sampleRun ∧ ObserveErrorsExact 0 true sampleRun := by
  have trace : Trace RevisionSource.call (newRevisionSource 0 true) sampleRun :=
    ⟨by decide, by decide, by decide, trivial⟩
  have lo : -1 ≤ (0 : Int64).toInt := by decide
  have fits : (0 : Int64).toInt + 1 + nexts sampleRun < 2 ^ 63 := by decide
  exact ⟨trace, lo, fits, (revisionSource_run 0 true sampleRun trace).2.2 lo fits⟩

/-- From `r0 = -10` the offset is negative: after one `Next`, observing the revision
`math.MaxInt64`, which is past the next value, makes `rev.Value - c.offset` wrap to a
negative index, and `Observe` panics instead of returning its error. -/
theorem observe_panics_below_zero_offset :
    Trace RevisionSource.call (newRevisionSource (-10) false)
      [(.next 0 0, .next ⟨-9, 0⟩, ⟨false, [0], -9⟩)] ∧
    (⟨false, [0], -9⟩ : RevisionSource).nextValue ≤ Int64.maxValue ∧
    (⟨false, [0], -9⟩ : RevisionSource).call (.observe 5 ⟨Int64.maxValue, 0⟩) =
      .error indexOutOfRange :=
  ⟨⟨by decide, trivial⟩, by decide, by decide⟩

end Autoscaling.Agent.Core.Revsource
