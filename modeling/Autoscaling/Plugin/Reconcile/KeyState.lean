import Autoscaling.Plugin.Reconcile.Queue

/-!
# The reconcile queue, one key at a time

What the queue does with the operations of one object does not depend on the other objects: the
priority queue, its handles and the three maps only keep each key's operation in one of three
places. `KeyState` is that view of one key: the operation waiting in the priority queue, the one
a worker has been handed and not finished, and the changes that came in meanwhile. Three events
touch a key: an `Enqueue` of it, a `Next` handing it out, and the completion of its callback.

`Refinement` shows that each call of the queue moves one key's view by one of these events and
leaves every other key's alone, so what is proved here of the events holds of the queue. Two
such facts are here: a key is never both waiting and handed out (`WellFormed`), and the object of
the last change of a key is kept until a worker is handed it (`Holds`).
-/

namespace Autoscaling.Plugin.Reconcile

variable {Obj : Type}

/-- A new change merged into what already waits for the key, if anything does. -/
def mergeInto : Option (Value Obj) → Value Obj → Except String (Value Obj)
  | some old, v => old.mergeWithNewer v
  | none, v => pure v

/-- What `finishAndMaybeRequeue` puts back in the priority queue: the operation handled merged
with what is pending if it asked for a requeue, what is pending if it did not, and otherwise the
operation handled if it asked for a requeue. -/
def requeued (pending : Option (Value Obj)) (v : Value Obj) (requeue : Bool) :
    Except String (Option (Value Obj)) :=
  match pending with
  | some p => some <$> (if requeue then v.mergeWithNewer p else pure p)
  | none => pure (if requeue then some v else none)

/-- Where the queue keeps one key's operations. -/
structure KeyState (Obj : Type) where
  queued : Option (Value Obj)
  inFlight : Option (Value Obj)
  pending : Option (Value Obj)

namespace KeyState

/-- A key the queue has never seen, or is done with. -/
def idle : KeyState Obj := ⟨none, none, none⟩

/-- An `Enqueue` of the key: into `pending` while a worker has it, into the priority queue
otherwise. -/
def enqueue (s : KeyState Obj) (v : Value Obj) : Except String (KeyState Obj) :=
  if s.inFlight.isSome then do
    let p ← mergeInto s.pending v
    pure { s with pending := some p }
  else do
    let w ← mergeInto s.queued v
    pure { s with queued := some w }

/-- A `Next` handing the key's operation to a worker. -/
def hand (s : KeyState Obj) : KeyState Obj := { s with queued := none, inFlight := s.queued }

/-- The completion of the key's callback, with the value and the requeue of `reconcile`. -/
def finish (s : KeyState Obj) (v : Value Obj) (requeue : Bool) : Except String (KeyState Obj) :=
  do
  let queued ← requeued s.pending v requeue
  pure ⟨queued, none, none⟩

variable {s s' : KeyState Obj} {v : Value Obj}

theorem enqueue_of_busy (busy : s.inFlight.isSome) :
    s.enqueue v = (fun p => { s with pending := some p }) <$> mergeInto s.pending v := by
  simp [enqueue, busy]

theorem enqueue_of_idle (idle : s.inFlight = none) :
    s.enqueue v = (fun w => { s with queued := some w }) <$> mergeInto s.queued v := by
  simp [enqueue, idle]

theorem enqueue_eq_ok :
    s.enqueue v = .ok s' ↔
      (s.inFlight.isSome ∧ ∃ p, mergeInto s.pending v = .ok p ∧ { s with pending := some p } = s') ∨
      (s.inFlight = none ∧ ∃ w, mergeInto s.queued v = .ok w ∧ { s with queued := some w } = s') := by
  cases busy : s.inFlight with
  | none => simp [enqueue_of_idle busy, Go.map_eq_ok, ← busy]
  | some _ =>
    have : s.inFlight.isSome := by simp [busy]
    simp [enqueue_of_busy this, Go.map_eq_ok, busy]

theorem finish_eq {requeue : Bool} :
    s.finish v requeue = (fun queued => ⟨queued, none, none⟩) <$> requeued s.pending v requeue := by
  simp [finish]

theorem mergeInto_object {old : Option (Value Obj)} {w : Value Obj}
    (merged : mergeInto old v = .ok w) : w.object = v.object := by
  cases old with
  | none =>
    simp only [mergeInto, Go.pure_eq_ok] at merged
    rw [merged]
  | some old => exact (Value.mergeWithNewer_eq_ok.mp merged).2.1

/-! ### Never both waiting and handed out -/

/-- A key is not in the priority queue while a worker has it, and its changes wait in `pending`
only then. -/
structure WellFormed (s : KeyState Obj) : Prop where
  queued_idle : s.inFlight.isSome → s.queued = none
  pending_busy : s.pending.isSome → s.inFlight.isSome

theorem WellFormed.idle : (idle : KeyState Obj).WellFormed :=
  ⟨by simp [KeyState.idle], by simp [KeyState.idle]⟩

theorem WellFormed.enqueue (wf : s.WellFormed) (enqueued : s.enqueue v = .ok s') :
    s'.WellFormed := by
  rcases enqueue_eq_ok.mp enqueued with ⟨busy, p, -, rfl⟩ | ⟨idle, w, -, rfl⟩
  · exact ⟨fun _ => wf.queued_idle busy, fun _ => busy⟩
  · refine ⟨fun busy => ?_, fun waiting => ?_⟩
    · simp [idle] at busy
    · -- nothing is pending for a key no worker has
      have := wf.pending_busy waiting
      simp [idle] at this

theorem WellFormed.hand (wf : s.WellFormed) (waiting : s.queued.isSome) : s.hand.WellFormed := by
  have idle : s.inFlight = none := by
    by_contra busy
    have := wf.queued_idle (Option.ne_none_iff_isSome.mp busy)
    simp [this] at waiting
  refine ⟨fun _ => rfl, fun pending => ?_⟩
  have := wf.pending_busy pending
  simp [idle] at this

theorem WellFormed.finish {requeue : Bool} (finished : s.finish v requeue = .ok s') :
    s'.WellFormed := by
  obtain ⟨queued, -, rfl⟩ := Go.map_eq_ok.mp (finish_eq ▸ finished)
  exact ⟨by simp, by simp⟩

/-! ### No change is lost -/

/-- The key keeps the object `o` as the one its waiting or pending operation will hand out. -/
def Holds (s : KeyState Obj) (o : Obj) : Prop :=
  (∃ w, s.queued = some w ∧ w.object = o) ∨ (∃ w, s.pending = some w ∧ w.object = o)

/-- An `Enqueue` keeps its object: merging takes the newer object. -/
theorem holds_enqueue (enqueued : s.enqueue v = .ok s') : s'.Holds v.object := by
  rcases enqueue_eq_ok.mp enqueued with ⟨-, p, merged, rfl⟩ | ⟨-, w, merged, rfl⟩
  · exact .inr ⟨p, rfl, mergeInto_object merged⟩
  · exact .inl ⟨w, rfl, mergeInto_object merged⟩

/-- Handing the operation out keeps what is pending. -/
theorem holds_hand {o : Obj} :
    s.hand.Holds o ↔ ∃ w, s.pending = some w ∧ w.object = o := by
  simp [Holds, hand]

/-- A completion puts what was pending back in the priority queue. -/
theorem Holds.finish {o : Obj} {requeue : Bool} (wf : s.WellFormed) (busy : s.inFlight.isSome)
    (holds : s.Holds o) (finished : s.finish v requeue = .ok s') : s'.Holds o := by
  -- a key a worker has is not in the priority queue, so it holds `o` in `pending`
  have pendingHolds : ∃ w, s.pending = some w ∧ w.object = o := by
    rcases holds with ⟨w, waiting, -⟩ | pending
    · simp [wf.queued_idle busy] at waiting
    · exact pending
  obtain ⟨p, pending, object⟩ := pendingHolds
  obtain ⟨queued, put, rfl⟩ := Go.map_eq_ok.mp (finish_eq ▸ finished)
  refine .inl ?_
  simp only [requeued, pending] at put
  obtain ⟨w, merged, rfl⟩ := Go.map_eq_ok.mp put
  refine ⟨w, rfl, ?_⟩
  cases requeue
  · simp only [Bool.false_eq_true, if_false, Go.pure_eq_ok] at merged
    rw [← merged, object]
  · simpa [← object] using (Value.mergeWithNewer_eq_ok.mp merged).2.1

end KeyState

end Autoscaling.Plugin.Reconcile
