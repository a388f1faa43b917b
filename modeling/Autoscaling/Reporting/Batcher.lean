import Autoscaling.Lib.Go
import Autoscaling.Lib.Transition

/-!
# The event batcher (`pkg/reporting/batcher.go`)

Billing and scaling events are sent in batches. `enqueue` adds an event to the batch being
built and closes the batch once it holds `targetBatchSize` events; `finishOngoing` closes it
early, on the sender's timer. The sender reads the oldest closed batch (`peekLatestCompleted`)
and drops it once it has been sent (`dropLatestCompleted`), retrying on failure. Beside the
batches the batcher keeps two counters, the events in the open batch and in the closed ones,
whose sum is the size gauge.

A `BatchBuilder` is modelled as the list of the events added to it, and `Finish` as that list:
a batch's serialization is its events. The gauge is the value last set on it, and the callback
that wakes the sender is left out. Go's `int` counters are integers: each is bounded by the
number of events enqueued.
-/

namespace Autoscaling.Reporting

open Go Trans

variable {E : Type}

/-- `batch[E]`. -/
structure Batch (E : Type) where
  serialized : List E
  count : Int

/-- `eventBatcher[E]`, with the open batch as its events and the gauge as its value. -/
structure EventBatcher (E : Type) where
  targetBatchSize : Int
  ongoing : List E
  ongoingSize : Int
  completed : List (Batch E)
  completedSize : Int
  sizeGauge : Int

/-- `newEventBatcher(targetBatchSize, ...)`, its gauge still at zero. -/
def newEventBatcher (targetBatchSize : Int) : EventBatcher E :=
  ⟨targetBatchSize, [], 0, [], 0, 0⟩

namespace EventBatcher

variable (b : EventBatcher E)

/-- `b.updateGauge()`. -/
def updateGauge : EventBatcher E := { b with sizeGauge := b.ongoingSize + b.completedSize }

/-- `b.finishCurrentBatch()`. -/
def finishCurrentBatch : EventBatcher E :=
  { b with
    completed := b.completed ++ [⟨b.ongoing, b.ongoingSize⟩]
    completedSize := b.completedSize + b.ongoingSize
    ongoingSize := 0
    ongoing := [] }

/-- `b.enqueue(event)`. -/
def enqueue (event : E) : EventBatcher E :=
  let b := ({ b with ongoing := b.ongoing ++ [event], ongoingSize := b.ongoingSize + 1 } :
    EventBatcher E).updateGauge
  if b.ongoingSize ≥ b.targetBatchSize then b.finishCurrentBatch else b

/-- `b.finishOngoing()`. -/
def finishOngoing : EventBatcher E :=
  if b.ongoingSize = 0 then b else b.finishCurrentBatch

/-- `b.completedCount()`. -/
def completedCount : Int := b.completed.length

/-- `b.peekLatestCompleted()`. -/
def peekLatestCompleted : Except String (Batch E) := index b.completed 0

/-- `b.dropLatestCompleted()`. -/
def dropLatestCompleted : Except String (EventBatcher E) := do
  let batch ← index b.completed 0
  let completed ← sliceFrom b.completed 1
  pure ({ b with completed, completedSize := b.completedSize - batch.count } :
    EventBatcher E).updateGauge

end EventBatcher

/-- The batcher's methods. -/
inductive Call (E : Type)
  | enqueue (event : E)
  | finishOngoing
  | completedCount
  | peekLatestCompleted
  | dropLatestCompleted

/-- What a method returns. -/
inductive Reply (E : Type)
  | done
  | count (n : Int)
  | batch (b : Batch E)

/-- One call under the lock. -/
def step (b : EventBatcher E) : Call E → Except String (Reply E × EventBatcher E)
  | .enqueue event => pure (.done, b.enqueue event)
  | .finishOngoing => pure (.done, b.finishOngoing)
  | .completedCount => pure (.count b.completedCount, b)
  | .peekLatestCompleted => do
    let batch ← b.peekLatestCompleted
    pure (.batch batch, b)
  | .dropLatestCompleted => do
    let b ← b.dropLatestCompleted
    pure (.done, b)

/-! ### What a run has done -/

/-- The events a run enqueued, in order. -/
def enqueued (steps : List (Call E × Reply E × EventBatcher E)) : List E :=
  steps.filterMap fun e => match e.1 with
    | .enqueue event => some event
    | _ => none

/-- The batches a run from `b` dropped, in order: at each drop, the first batch held before it. -/
def dropped : EventBatcher E → List (Call E × Reply E × EventBatcher E) → List (Batch E)
  | _, [] => []
  | b, (.dropLatestCompleted, _, b') :: rest => b.completed.take 1 ++ dropped b' rest
  | _, (_, _, b') :: rest => dropped b' rest

theorem enqueued_snoc (steps : List (Call E × Reply E × EventBatcher E)) (c : Call E)
    (r : Reply E) (b' : EventBatcher E) :
    enqueued (steps ++ [(c, r, b')]) =
      enqueued steps ++ match c with
        | .enqueue event => [event]
        | _ => [] := by
  cases c <;> simp [enqueued]

theorem dropped_snoc (b : EventBatcher E) (steps : List (Call E × Reply E × EventBatcher E))
    (c : Call E) (r : Reply E) (b' : EventBatcher E) :
    dropped b (steps ++ [(c, r, b')]) =
      dropped b steps ++ match c with
        | .dropLatestCompleted => (last b steps).completed.take 1
        | _ => [] := by
  induction steps generalizing b with
  | nil => cases c <;> simp [dropped]
  | cons e rest ih =>
    obtain ⟨c', r', b''⟩ := e
    cases c' <;> simp [dropped, ih]

/-! ### The operations -/

namespace EventBatcher

variable {b b' : EventBatcher E}

theorem peekLatestCompleted_eq_ok {batch : Batch E} :
    b.peekLatestCompleted = .ok batch ↔ b.completed.head? = some batch := by
  cases held : b.completed with
  | nil => simp [peekLatestCompleted, index, held]
  | cons first rest => simp [peekLatestCompleted, index, held]

theorem dropLatestCompleted_eq_ok (dropped : b.dropLatestCompleted = .ok b') :
    ∃ batch rest, b.completed = batch :: rest ∧
      b' = ({ b with completed := rest, completedSize := b.completedSize - batch.count } :
        EventBatcher E).updateGauge := by
  obtain ⟨batch, found, sliced⟩ := bind_eq_ok.mp dropped
  obtain ⟨completed, cut, done⟩ := bind_eq_ok.mp sliced
  obtain ⟨inRange, -, rfl⟩ := index_eq_ok found
  obtain ⟨-, -, rfl⟩ := sliceFrom_eq_ok cut
  cases held : b.completed with
  | nil => simp [held] at inRange
  | cons first rest =>
    refine ⟨first, rest, rfl, ?_⟩
    simp only [held, pure_eq_ok] at done
    simpa using done.symm

theorem targetBatchSize_step {c : Call E} {r : Reply E} (stepped : step b c = .ok (r, b')) :
    b'.targetBatchSize = b.targetBatchSize := by
  cases c with
  | enqueue event =>
    obtain ⟨-, rfl⟩ := Prod.mk.inj (pure_eq_ok.mp stepped)
    dsimp only [enqueue]
    split <;> rfl
  | finishOngoing =>
    obtain ⟨-, rfl⟩ := Prod.mk.inj (pure_eq_ok.mp stepped)
    dsimp only [finishOngoing]
    split <;> rfl
  | completedCount => obtain ⟨-, rfl⟩ := Prod.mk.inj (pure_eq_ok.mp stepped); rfl
  | peekLatestCompleted =>
    obtain ⟨_, -, stepped⟩ := bind_eq_ok.mp stepped
    obtain ⟨-, rfl⟩ := Prod.mk.inj (pure_eq_ok.mp stepped)
    rfl
  | dropLatestCompleted =>
    obtain ⟨_, dropped, stepped⟩ := bind_eq_ok.mp stepped
    obtain ⟨-, rfl⟩ := Prod.mk.inj (pure_eq_ok.mp stepped)
    obtain ⟨batch, rest, -, rfl⟩ := dropLatestCompleted_eq_ok dropped
    rfl

end EventBatcher

/-! ### What the batcher keeps -/

/-- What a batcher holds against the batches a run dropped and the events it enqueued: the
events in order, every batch within the target size and of the count it serializes, and the two
counters and the gauge in step with the batches. -/
structure Tally (b : EventBatcher E) (gone : List (Batch E)) (events : List E) : Prop where
  events : gone.flatMap (·.serialized) ++ b.completed.flatMap (·.serialized) ++ b.ongoing = events
  batches : ∀ batch ∈ gone ++ b.completed,
    1 ≤ batch.count ∧ batch.count ≤ b.targetBatchSize ∧ batch.count = batch.serialized.length
  ongoingSize : b.ongoingSize = b.ongoing.length
  completedSize : b.completedSize = (b.completed.map (·.count)).sum
  gauge : b.sizeGauge = b.ongoingSize + b.completedSize

/-- The tally between two calls, when the open batch is not full. -/
structure Accounts (b : EventBatcher E) (gone : List (Batch E)) (events : List E) : Prop
    extends Tally b gone events where
  below : b.ongoingSize < b.targetBatchSize

theorem accounts_new {target : Int} (positive : 1 ≤ target) :
    Accounts (newEventBatcher target : EventBatcher E) [] [] where
  events := rfl
  batches batch member := by simp [newEventBatcher] at member
  ongoingSize := rfl
  completedSize := rfl
  gauge := rfl
  below := by simp [newEventBatcher]; omega

variable {b b' : EventBatcher E} {gone : List (Batch E)} {events : List E}

/-- Closing a batch of between one and `targetBatchSize` events leaves an empty open batch. -/
theorem Tally.finishCurrentBatch (tally : Tally b gone events) (nonempty : 1 ≤ b.ongoingSize)
    (within : b.ongoingSize ≤ b.targetBatchSize) :
    Accounts b.finishCurrentBatch gone events := by
  refine ⟨⟨?_, ?_, rfl, ?_, ?_⟩, ?_⟩
  · simpa [EventBatcher.finishCurrentBatch] using tally.events
  · intro batch member
    simp only [EventBatcher.finishCurrentBatch, ← List.append_assoc, List.mem_append,
      List.mem_singleton] at member
    rcases member with old | rfl
    · exact tally.batches batch (List.mem_append.mpr old)
    · exact ⟨nonempty, within, tally.ongoingSize⟩
  · simp [EventBatcher.finishCurrentBatch, tally.completedSize]
  · simp only [EventBatcher.finishCurrentBatch, tally.gauge]
    omega
  · simp only [EventBatcher.finishCurrentBatch]
    omega

namespace Accounts

theorem nonneg (acc : Accounts b gone events) : 0 ≤ b.ongoingSize := by
  rw [acc.ongoingSize]
  omega

/-- The batcher once `enqueue` has added `event` to the open batch, before it closes it. -/
theorem add (acc : Accounts b gone events) (event : E) :
    Tally (({ b with ongoing := b.ongoing ++ [event], ongoingSize := b.ongoingSize + 1 } :
      EventBatcher E).updateGauge) gone (events ++ [event]) where
  events := by simp [EventBatcher.updateGauge, ← acc.events]
  batches := acc.batches
  ongoingSize := by simp [EventBatcher.updateGauge, acc.ongoingSize]
  completedSize := acc.completedSize
  gauge := rfl

theorem enqueue (acc : Accounts b gone events) (event : E) :
    Accounts (b.enqueue event) gone (events ++ [event]) := by
  have added := acc.add event
  have nonneg := acc.nonneg
  have below := acc.below
  dsimp only [EventBatcher.enqueue]
  split
  next full =>
    -- the open batch has just reached the target: it holds `targetBatchSize` events
    exact added.finishCurrentBatch (by simp [EventBatcher.updateGauge]; omega)
      (by simp [EventBatcher.updateGauge]; omega)
  next notFull => exact ⟨added, by simpa using notFull⟩

theorem finishOngoing (acc : Accounts b gone events) :
    Accounts b.finishOngoing gone events := by
  have nonneg := acc.nonneg
  dsimp only [EventBatcher.finishOngoing]
  split
  next => exact acc
  next nonempty => exact acc.finishCurrentBatch (by omega) acc.below.le

theorem dropLatestCompleted (acc : Accounts b gone events)
    (dropped : b.dropLatestCompleted = .ok b') :
    Accounts b' (gone ++ b.completed.take 1) events := by
  obtain ⟨batch, rest, held, rfl⟩ := EventBatcher.dropLatestCompleted_eq_ok dropped
  -- the batch dropped moves from the front of `completed` to the end of `gone`
  refine ⟨⟨?_, ?_, acc.ongoingSize, ?_, rfl⟩, acc.below⟩
  · simpa [held, EventBatcher.updateGauge] using acc.events
  · intro kept member
    apply acc.batches kept
    simpa [held, EventBatcher.updateGauge] using member
  · have completed := acc.completedSize
    simp only [held, List.map_cons, List.sum_cons] at completed
    simp only [EventBatcher.updateGauge]
    omega

/-- One call keeps the accounts, with the batch it drops and the event it enqueues. -/
theorem step (acc : Accounts b gone events) {c : Call E} {r : Reply E}
    (stepped : step b c = .ok (r, b')) :
    Accounts b' (gone ++ match c with | .dropLatestCompleted => b.completed.take 1 | _ => [])
      (events ++ match c with | .enqueue event => [event] | _ => []) := by
  cases c with
  | enqueue event =>
    obtain ⟨-, rfl⟩ := Prod.mk.inj (pure_eq_ok.mp stepped)
    simpa using acc.enqueue event
  | finishOngoing =>
    obtain ⟨-, rfl⟩ := Prod.mk.inj (pure_eq_ok.mp stepped)
    simpa using acc.finishOngoing
  | completedCount =>
    obtain ⟨-, rfl⟩ := Prod.mk.inj (pure_eq_ok.mp stepped)
    simpa using acc
  | peekLatestCompleted =>
    obtain ⟨_, -, stepped⟩ := bind_eq_ok.mp stepped
    obtain ⟨-, rfl⟩ := Prod.mk.inj (pure_eq_ok.mp stepped)
    simpa using acc
  | dropLatestCompleted =>
    obtain ⟨_, dropped, stepped⟩ := bind_eq_ok.mp stepped
    obtain ⟨-, rfl⟩ := Prod.mk.inj (pure_eq_ok.mp stepped)
    simpa using acc.dropLatestCompleted dropped

end Accounts

/-- The counts of batches that count what they serialize sum to the events they serialize. -/
theorem sum_count {batches : List (Batch E)}
    (counted : ∀ batch ∈ batches, batch.count = batch.serialized.length) :
    (batches.map (·.count)).sum = (batches.flatMap (·.serialized)).length := by
  induction batches with
  | nil => rfl
  | cons batch rest ih =>
    simp only [List.map_cons, List.sum_cons, List.flatMap_cons, List.length_append, Nat.cast_add]
    rw [counted batch List.mem_cons_self, ih fun kept member => counted kept (.tail _ member)]

/-! ### Over a whole run -/

section Run

variable {target : Int} {steps : List (Call E × Reply E × EventBatcher E)}

theorem accounts_run (positive : 1 ≤ target) (run : Trace step (newEventBatcher target) steps) :
    Accounts (last (newEventBatcher target) steps) (dropped (newEventBatcher target) steps)
      (enqueued steps) := by
  refine Trace.invariant_hist (fun pre b => Accounts b (dropped _ pre) (enqueued pre)) ?_ run
    (accounts_new positive)
  intro pre c r b' _ acc stepped
  rw [dropped_snoc, enqueued_snoc]
  cases c <;> simpa using acc.step stepped

theorem targetBatchSize_run (run : Trace step (newEventBatcher target) steps) :
    (last (newEventBatcher target) steps).targetBatchSize = target :=
  Trace.invariant (fun b => b.targetBatchSize = target)
    (fun _ _ _ _ same stepped => (EventBatcher.targetBatchSize_step stepped).trans same) run rfl

/-- A peek in a run returns the first batch held when it was made. -/
theorem peek_head {pre post : List (Call E × Reply E × EventBatcher E)} {batch : Batch E}
    {b' : EventBatcher E}
    (run : Trace step (newEventBatcher target) (pre ++ (.peekLatestCompleted, .batch batch, b') ::
      post)) :
    (last (newEventBatcher target) pre).completed.head? = some batch := by
  obtain ⟨-, stepped, -⟩ := run.at
  obtain ⟨peeked, found, replied⟩ := bind_eq_ok.mp stepped
  obtain ⟨same, -⟩ := Prod.mk.inj (pure_eq_ok.mp replied)
  cases same
  exact EventBatcher.peekLatestCompleted_eq_ok.mp found

/-- Over any run of the batcher's calls from a new batcher with a positive target, no call
panicking: the dropped batches, the completed ones and the open batch hold the events enqueued,
in order; every batch holds between one and `targetBatchSize` events and counts them; the
counters agree with the batches, so that the gauge is what was enqueued less what was dropped;
and a peek returns the first batch not yet dropped. -/
theorem batcher_keeps_events (positive : 1 ≤ target)
    (run : Trace step (newEventBatcher target) steps) :
    let b := last (newEventBatcher target) steps
    let gone := dropped (newEventBatcher target) steps
    gone.flatMap (·.serialized) ++ b.completed.flatMap (·.serialized) ++ b.ongoing =
        enqueued steps ∧
      (∀ batch ∈ gone ++ b.completed,
        1 ≤ batch.count ∧ batch.count ≤ target ∧ batch.count = batch.serialized.length) ∧
      b.completedSize = (b.completed.map (·.count)).sum ∧
      b.sizeGauge = (enqueued steps).length - (gone.map (·.count)).sum ∧
      ∀ pre batch b' post, steps = pre ++ (.peekLatestCompleted, .batch batch, b') :: post →
        (last (newEventBatcher target) pre).completed.head? = some batch := by
  intro b gone
  have acc := accounts_run positive run
  have target_eq := targetBatchSize_run run
  have counted : ∀ batch ∈ gone ++ b.completed, batch.count = batch.serialized.length :=
    fun batch member => (acc.batches batch member).2.2
  refine ⟨acc.events, fun batch member => target_eq ▸ acc.batches batch member,
    acc.completedSize, ?_, fun pre batch b' post split => peek_head (split ▸ run)⟩
  -- the gauge counts the open and the completed events, and the dropped ones are the rest
  have lengths := congrArg List.length acc.events
  have goneCount := sum_count fun batch member => counted batch (List.mem_append_left _ member)
  have completedCount := sum_count fun batch member =>
    counted batch (List.mem_append_right _ member)
  simp only [List.length_append] at lengths
  rw [acc.gauge, acc.completedSize, acc.ongoingSize, ← lengths, goneCount, completedCount]
  push_cast
  ring

/-- Three events with a target of two, the third batch closed early, then sent: the calls of
`TestEventBatching` with the sender's peek and drop. -/
def sampleSteps : List (Call Nat × Reply Nat × EventBatcher Nat) :=
  let b₁ := (newEventBatcher 2 : EventBatcher Nat).enqueue 1
  let b₂ := b₁.enqueue 2
  let b₃ := b₂.enqueue 3
  let b₄ := b₃.finishOngoing
  [(.enqueue 1, .done, b₁), (.enqueue 2, .done, b₂), (.enqueue 3, .done, b₃),
    (.finishOngoing, .done, b₄), (.peekLatestCompleted, .batch ⟨[1, 2], 2⟩, b₄),
    (.dropLatestCompleted, .done,
      { b₄ with completed := [⟨[3], 1⟩], completedSize := 1, sizeGauge := 1 })]

theorem batcher_keeps_events_sample :
    (last (newEventBatcher 2) sampleSteps).sizeGauge =
      (enqueued sampleSteps).length - ((dropped (newEventBatcher 2) sampleSteps).map (·.count)).sum :=
  (@batcher_keeps_events Nat 2 sampleSteps (by decide) (by
    simp only [sampleSteps, trace_cons, trace_nil, and_true]
    exact ⟨rfl, rfl, rfl, rfl, rfl, rfl⟩)).2.2.2.1

end Run

end Autoscaling.Reporting
