import Autoscaling.Plugin.Reconcile.Queue

/-!
# When the reconcile queue hands out an operation (`Next`)

The priority queue of `Queue` compares operations by `isHigherPriority`, the earlier
`reconcileAt` first, which is a strict weak order; so it stays a heap along every run of the
system (`Scheduled`): `Enqueue` pushes an operation or updates the one waiting for its key,
`Next` pops one, and the end of a callback may push one back. From the heap order, `Next` hands
out an operation only once it is due, and then one that no waiting operation is earlier than;
and it hands out nothing only while no waiting operation is due.
-/

namespace Autoscaling.Plugin.Reconcile

open Go Util.Queue

variable {Obj : Type}

/-- `isHigherPriority` is a strict weak order: it compares the instants of the operations. -/
theorem isHigherPriority_strictWeak :
    IsStrictWeakOrder (KV Obj) fun x y => x.v.isHigherPriority y.v = true where
  irrefl x := by simp [Value.isHigherPriority, Time.before]
  trans x y z := by
    simp only [Value.isHigherPriority, Time.before, decide_eq_true_eq]
    omega
  incomp_trans x y z := by
    simp only [Value.isHigherPriority, Time.before, decide_eq_true_eq]
    omega

namespace Queue

/-- What every call keeps of the priority queue: it compares operations by `isHigherPriority`,
and it is a heap. -/
structure Scheduled (q : Queue Obj) : Prop where
  less : q.queue.inner.less = fun x y => x.v.isHigherPriority y.v
  ordered : q.queue.Ordered

variable {q q' : Queue Obj} {k : Key} {v : Value Obj}

theorem Scheduled.order (sch : q.Scheduled) :
    IsStrictWeakOrder (KV Obj) fun a b => q.queue.inner.less a b = true := by
  rw [sch.less]
  exact isHigherPriority_strictWeak

/-- The calls that change only the maps around the priority queue keep it scheduled. -/
theorem Scheduled.of_queue (sch : q.Scheduled) (same : q'.queue = q.queue) : q'.Scheduled := by
  obtain ⟨less, ordered⟩ := sch
  rw [← same] at less ordered
  exact ⟨less, ordered⟩

theorem scheduled_newQueue {types : List GroupVersionKind} (created : newQueue types = .ok q) :
    q.Scheduled := by
  obtain ⟨handlers, -, done⟩ := bind_eq_ok.mp created
  obtain rfl := pure_eq_ok.mp done
  exact ⟨rfl, PriorityQueue.ordered_new _⟩

theorem Scheduled.push (sch : q.Scheduled) (k : Key) (v : Value Obj) : (q.push k v).Scheduled :=
  ⟨(PriorityQueue.push_less _).trans sch.less, sch.ordered.push sch.order _⟩

theorem Scheduled.enqueueInactive (sch : q.Scheduled)
    (enqueued : q.enqueueInactive k v = .ok q') : q'.Scheduled := by
  unfold Queue.enqueueInactive at enqueued
  split at enqueued
  · -- merged into the operation waiting for the key, through its handle
    obtain ⟨queue, updated, done⟩ := bind_eq_ok.mp enqueued
    obtain rfl := pure_eq_ok.mp done
    exact ⟨(PriorityQueue.update_less sch.ordered.consistent updated).trans sch.less,
      sch.ordered.update sch.order updated⟩
  · obtain rfl := pure_eq_ok.mp enqueued
    exact sch.push k v

theorem enqueuePendingChange_queue (enqueued : q.enqueuePendingChange k v = .ok q') :
    q'.queue = q.queue := by
  simp only [Queue.enqueuePendingChange] at enqueued
  split at enqueued
  all_goals
    obtain ⟨w, -, done⟩ := bind_eq_ok.mp enqueued
    obtain rfl := pure_eq_ok.mp done
    rfl

theorem Scheduled.enqueue [Object Obj] (sch : q.Scheduled) {eventKind : EventKind} {obj : Obj}
    {now : Int} (enqueued : q.enqueue eventKind obj now = .ok q') : q'.Scheduled := by
  simp only [Queue.enqueue] at enqueued
  split_ifs at enqueued
  · exact sch.of_queue (enqueuePendingChange_queue enqueued)
  · exact sch.enqueueInactive enqueued

theorem Scheduled.next (sch : q.Scheduled) (now : Int) : (q.next now).2.Scheduled := by
  unfold Queue.next
  split
  · exact sch
  · split
    · exact sch
    · exact ⟨PriorityQueue.pop_less.trans sch.less, sch.ordered.pop sch.order⟩

theorem Scheduled.finishAndMaybeRequeue (sch : q.Scheduled) {requeue : Bool}
    (finished : q.finishAndMaybeRequeue k v requeue = .ok q') : q'.Scheduled := by
  simp only [Queue.finishAndMaybeRequeue] at finished
  -- the maps change around the priority queue, which only the requeue pushes on
  have done : ∀ (q₁ : Queue Obj) (v₁ : Value Obj) (requeue₁ : Bool), q₁.queue = q.queue →
      (pure (if requeue₁ then q₁.push k v₁ else q₁) : Except String (Queue Obj)) = .ok q' →
        q'.Scheduled := by
    intro q₁ v₁ requeue₁ same pushed
    obtain rfl := pure_eq_ok.mp pushed
    split
    · exact (sch.of_queue same).push k v₁
    · exact sch.of_queue same
  split at finished
  · split at finished
    all_goals
      obtain ⟨w, -, rest⟩ := bind_eq_ok.mp finished
      obtain ⟨x, taken, rest⟩ := bind_eq_ok.mp rest
      cases pure_eq_ok.mp taken
      exact done _ _ _ (by rfl) rest
  · obtain ⟨x, taken, rest⟩ := bind_eq_ok.mp finished
    cases pure_eq_ok.mp taken
    exact done _ _ _ (by rfl) rest

theorem Scheduled.reconcile (sch : q.Scheduled) {result : Result} {now : Int}
    (finished : q.reconcile k v result now = .ok q') : q'.Scheduled :=
  sch.finishAndMaybeRequeue finished

/-- The operation `Next` hands out is due, was waiting, and no waiting operation is earlier. -/
theorem Scheduled.next_some (sch : q.Scheduled) {now : Int} {kv : KV Obj}
    (handed : (q.next now).1 = some kv) :
    kv.v.reconcileAt ≤ now ∧ (∃ it, q.queue.entry it = some kv) ∧
      ∀ it w, q.queue.entry it = some w → kv.v.reconcileAt ≤ w.v.reconcileAt := by
  unfold Queue.next at handed
  split at handed
  · cases handed
  next head peeked =>
    -- handing out nothing before the head is due, the queue hands out the head
    split_ifs at handed with later
    cases handed
    refine ⟨?_, PriorityQueue.peek_mem sch.ordered.consistent peeked, fun it w live => ?_⟩
    · simpa [Time.after] using later
    · -- the head of a heap compared by `isHigherPriority` is as early as any value in it
      have least := sch.ordered.peek_least sch.order peeked live
      rw [sch.less] at least
      simpa [Value.isHigherPriority, Time.before] using least

/-- `Next` hands out nothing only while no waiting operation is due. -/
theorem Scheduled.next_none (sch : q.Scheduled) {now : Int} (idle : (q.next now).1 = none) :
    ∀ it w, q.queue.entry it = some w → now < w.v.reconcileAt := by
  intro it w live
  unfold Queue.next at idle
  split at idle
  next empty =>
    -- a queue holding a value has a head
    obtain ⟨head, peeked⟩ := PriorityQueue.peek_of_entry sch.ordered.consistent live
    rw [peeked] at empty
    cases empty
  next head peeked =>
    split_ifs at idle with later
    · have least := sch.ordered.peek_least sch.order peeked live
      rw [sch.less] at least
      simp only [Value.isHigherPriority, Time.before, decide_eq_false_iff_not, not_lt] at least
      simp only [Time.after, decide_eq_true_eq] at later
      omega

end Queue

/-! ### Along every run -/

variable [Object Obj] {s s' : System Obj} {c : Call Obj} {r : Option (KV Obj)}

/-- Every call keeps the priority queue scheduled. -/
theorem step_scheduled (sch : s.queue.Scheduled) (stepped : step s c = .ok (r, s')) :
    s'.queue.Scheduled := by
  cases c with
  | enqueue eventKind obj now =>
    obtain ⟨queue, enqueued, done⟩ := bind_eq_ok.mp stepped
    cases pure_eq_ok.mp done
    exact sch.enqueue enqueued
  | next now =>
    have moved := sch.next now
    simp only [step] at stepped
    split at stepped
    all_goals
      rename_i nexted
      cases pure_eq_ok.mp stepped
      rw [nexted] at moved
      exact moved
  | complete i result now =>
    simp only [step] at stepped
    split at stepped
    · cases pure_eq_ok.mp stepped
      exact sch
    · obtain ⟨queue, finished, done⟩ := bind_eq_ok.mp stepped
      cases pure_eq_ok.mp done
      exact sch.reconcile finished

/-- What a `Next` call returns is what the queue's `Next` does. -/
theorem step_next {now : Int} (stepped : step s (.next now) = .ok (r, s')) :
    r = (s.queue.next now).1 := by
  simp only [step] at stepped
  split at stepped
  all_goals
    rename_i nexted
    cases pure_eq_ok.mp stepped
    rw [nexted]

section Run

variable {types : List GroupVersionKind} {q₀ : Queue Obj}
  {pre post : List (Call Obj × Option (KV Obj) × System Obj)} {now : Int}

/-- Along every run of a queue made by `NewQueue`, each operation `Next` hands out is due, was
waiting, and no waiting operation is earlier. -/
theorem next_earliest_due (created : newQueue types = .ok q₀) {kv : KV Obj}
    (run : Trans.Trace step (System.start q₀) (pre ++ (.next now, some kv, s') :: post)) :
    kv.v.reconcileAt ≤ now ∧
      (∃ it, (Trans.last (System.start q₀) pre).queue.queue.entry it = some kv) ∧
      ∀ it w, (Trans.last (System.start q₀) pre).queue.queue.entry it = some w →
        kv.v.reconcileAt ≤ w.v.reconcileAt := by
  have sch := Trans.Trace.invariant_at (fun s => s.queue.Scheduled)
    (fun _ _ _ _ sch stepped => step_scheduled sch stepped) run
    (Queue.scheduled_newQueue created)
  exact sch.next_some (step_next run.at.2.1).symm

/-- Along every run of a queue made by `NewQueue`, `Next` hands out nothing only while no
waiting operation is due. -/
theorem next_none_not_due (created : newQueue types = .ok q₀)
    (run : Trans.Trace step (System.start q₀) (pre ++ (.next now, none, s') :: post)) :
    ∀ it w, (Trans.last (System.start q₀) pre).queue.queue.entry it = some w →
      now < w.v.reconcileAt := by
  have sch := Trans.Trace.invariant_at (fun s => s.queue.Scheduled)
    (fun _ _ _ _ sch stepped => step_scheduled sch stepped) run
    (Queue.scheduled_newQueue created)
  exact sch.next_none (step_next run.at.2.1).symm

end Run

/-- An object of one kind, known by its UID. -/
structure ScheduledObject where
  uid : String

/-- The kind of `ScheduledObject`. -/
def scheduledKind : GroupVersionKind := ⟨"", "v1", "ConfigMap"⟩

instance : Object ScheduledObject := ⟨fun _ => scheduledKind, ScheduledObject.uid⟩

/-- The queue `NewQueue` makes for that kind. -/
def scheduledQueue : Queue ScheduledObject :=
  ⟨PriorityQueue.new fun x y => x.v.isHigherPriority y.v, ∅, ∅, ∅, [scheduledKind]⟩

/-- Two objects enqueued at 5 and at 3, then two `Next`s at 4: the first hands out the second
object, the other nothing. -/
def scheduledRun : List (Call ScheduledObject × Option (KV ScheduledObject) × System ScheduledObject) :=
  Trans.runCalls step (System.start scheduledQueue)
    [.enqueue .added ⟨"a"⟩ 5, .enqueue .added ⟨"b"⟩ 3, .next 4, .next 4]

/-- The operation the first `Next` hands out. -/
def scheduledHead : KV ScheduledObject := ⟨⟨scheduledKind, "b"⟩, ⟨3, .added, ⟨"b"⟩⟩⟩

theorem next_earliest_due_sample :
    scheduledHead.v.reconcileAt ≤ 4 ∧
      (∃ it, (Trans.last (System.start scheduledQueue) (scheduledRun.take 2)).queue.queue.entry it =
        some scheduledHead) ∧
      ∀ it w, (Trans.last (System.start scheduledQueue) (scheduledRun.take 2)).queue.queue.entry it =
        some w → scheduledHead.v.reconcileAt ≤ w.v.reconcileAt := by
  have created : newQueue [scheduledKind] = .ok scheduledQueue := rfl
  have run : Trans.Trace step (System.start scheduledQueue) scheduledRun := Trans.trace_runCalls _ _
  have split : scheduledRun = scheduledRun.take 2 ++
      (.next 4, some scheduledHead, Trans.last (System.start scheduledQueue) (scheduledRun.take 3)) ::
        scheduledRun.drop 3 := rfl
  rw [split] at run
  exact next_earliest_due created run

/-- The operation the second `Next` leaves waiting. -/
def scheduledLater : KV ScheduledObject := ⟨⟨scheduledKind, "a"⟩, ⟨5, .added, ⟨"a"⟩⟩⟩

theorem next_none_not_due_sample :
    (Trans.last (System.start scheduledQueue) (scheduledRun.take 3)).queue.queue.entry ⟨0⟩ =
      some scheduledLater ∧ 4 < scheduledLater.v.reconcileAt := by
  have created : newQueue [scheduledKind] = .ok scheduledQueue := rfl
  have run : Trans.Trace step (System.start scheduledQueue) scheduledRun := Trans.trace_runCalls _ _
  have split : scheduledRun = scheduledRun.take 3 ++
      [(.next 4, none, Trans.last (System.start scheduledQueue) scheduledRun)] := rfl
  have live : (Trans.last (System.start scheduledQueue) (scheduledRun.take 3)).queue.queue.entry
      ⟨0⟩ = some scheduledLater := rfl
  rw [split] at run
  exact ⟨live, next_none_not_due created run ⟨0⟩ scheduledLater live⟩

end Autoscaling.Plugin.Reconcile
