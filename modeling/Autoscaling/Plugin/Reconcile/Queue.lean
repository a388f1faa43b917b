import Autoscaling.Util.Queue.PriorityQueue
import Autoscaling.Lib.Transition

/-!
# The plugin's reconcile queue (`pkg/plugin/reconcile`)

`Queue` holds the reconcile operations for kubernetes objects, keyed by the object's kind and UID.
A change to an object (`Enqueue`) is merged into the operation already waiting for the object,
if there is one in the priority queue (`queued`), or put in the priority queue; but while a
reconcile of the object is running (`ongoing`), it waits in `pending` instead. `Next` hands out
the operation at the head of the priority queue once it is due, and marks its key ongoing; when
the handler has run, `finishAndMaybeRequeue` clears the key and puts it back in the priority
queue if the handler asked for a retry or changes arrived meanwhile, merged with those changes.

Merging two changes merges their `EventKind`s, which panics on the combinations that cannot come
from one object's stream of events.

The model leaves out the handlers themselves, the middleware, the logger and the goroutine that
wakes workers (`handleNotifications`): a handler is known here only through the retry delay it
returns. Instants are integers, as in `Go.Time`; `Enqueue` and `Next` read the clock through a
`now` argument. The queue is driven by calls (`Call`) to a `System` that holds, besides the
queue, the callbacks `Next` has handed out and that have not completed yet: a completion is the
end of one such callback, `reconcile`, taken under the lock as the source does.
-/

namespace Autoscaling.Plugin.Reconcile

open Go Util.Queue

/-! ### Event kinds -/

/-- `EventKind`. -/
inductive EventKind
  | added
  | modified
  | deleted
  /-- An addition not yet handled when the object was deleted. -/
  | ephemeral
deriving DecidableEq, Repr

/-- The panic of `Merge` on an ephemeral event. -/
def cannotMergeEphemeral : String := "cannot merge(%s, %s) involving an ephemeral event"

/-- The panic of `Merge` on two additions or two deletions. -/
def cannotMerge : String := "cannot merge(%s, %s)"

/-- `k.Merge(other)`: the kind of the two changes together, `other` being the later one. -/
def EventKind.merge (k other : EventKind) : Except String EventKind :=
  if k == .ephemeral || other == .ephemeral then throw cannotMergeEphemeral
  else if k == .modified then pure other
  else if other == .modified then pure k
  else if k == .added && other == .deleted || k == .deleted && other == .added then
    pure .ephemeral
  else throw cannotMerge

namespace EventKind

@[simp] theorem merge_added_modified : added.merge modified = .ok added := rfl
@[simp] theorem merge_added_deleted : added.merge deleted = .ok ephemeral := rfl
@[simp] theorem merge_modified_modified : modified.merge modified = .ok modified := rfl
@[simp] theorem merge_modified_deleted : modified.merge deleted = .ok deleted := rfl

end EventKind

/-! ### Keys and values -/

/-- `schema.GroupVersionKind`. -/
structure GroupVersionKind where
  group : String
  version : String
  kind : String
deriving DecidableEq, Repr

/-- What the queue asks of an `Object`: its kind and its UID. -/
class Object (Obj : Type) where
  groupVersionKind : Obj → GroupVersionKind
  getUID : Obj → String

/-- `Key`: the object's kind and UID. -/
structure Key where
  gvk : GroupVersionKind
  uid : String
deriving DecidableEq, Repr

/-- The key `Enqueue` files an object under. -/
def Key.of {Obj : Type} [Object Obj] (obj : Obj) : Key :=
  ⟨Object.groupVersionKind obj, Object.getUID obj⟩

variable {Obj : Type}

/-- `value`: a reconcile operation waiting for an object, without its handler, which the
object's kind determines. -/
structure Value (Obj : Type) where
  reconcileAt : Int
  eventKind : EventKind
  object : Obj

/-- `kv`: what the priority queue holds. -/
structure KV (Obj : Type) where
  k : Key
  v : Value Obj

/-- `v.isHigherPriority(other)`: the earlier operation goes first. -/
def Value.isHigherPriority (v other : Value Obj) : Bool :=
  Time.before v.reconcileAt other.reconcileAt

/-- `v.mergeWithNewer(newer)`: the earlier time, the merged kind, and the newer object. -/
def Value.mergeWithNewer (v newer : Value Obj) : Except String (Value Obj) := do
  let reconcileAt :=
    if Time.before v.reconcileAt newer.reconcileAt then v.reconcileAt else newer.reconcileAt
  let eventKind ← v.eventKind.merge newer.eventKind
  pure ⟨reconcileAt, eventKind, newer.object⟩

theorem Value.mergeWithNewer_eq_ok {v newer w : Value Obj} :
    v.mergeWithNewer newer = .ok w ↔
      v.eventKind.merge newer.eventKind = .ok w.eventKind ∧ w.object = newer.object ∧
        w.reconcileAt = min v.reconcileAt newer.reconcileAt := by
  simp only [mergeWithNewer, bind_eq_ok, pure_eq_ok]
  constructor
  · rintro ⟨kind, merged, rfl⟩
    refine ⟨merged, rfl, ?_⟩
    simp only [Time.before, decide_eq_true_eq]
    split_ifs <;> omega
  · rintro ⟨merged, object, time⟩
    refine ⟨w.eventKind, merged, ?_⟩
    cases w
    simp only at object time ⊢
    subst object time
    simp only [Time.before, decide_eq_true_eq, Value.mk.injEq, and_true]
    split_ifs <;> omega

/-- `Result`: the delay before a retry, none if zero. -/
structure Result where
  retryAfter : Duration

/-- The value `reconcile` finishes with, and whether it asks for a requeue: a retry is due
`RetryAfter` after the handler returned at `now`. -/
def Value.retried (v : Value Obj) (result : Result) (now : Int) : Value Obj × Bool :=
  let requeue := result.retryAfter != 0
  (if requeue then { v with reconcileAt := Time.add now result.retryAfter } else v, requeue)

/-! ### The queue -/

/-- `Queue`, with the kinds it has handlers for. -/
structure Queue (Obj : Type) where
  queue : PriorityQueue (KV Obj)
  queued : GoMap Key ItemHandle
  pending : GoMap Key (Value Obj)
  ongoing : GoMap Key Unit
  handlers : List GroupVersionKind

/-- The error of `NewQueue` for two handlers of one kind. -/
def duplicateHandler : String := "duplicate handler for object type %T with GVK %q"

/-- `NewQueue(handlers)`, by the kinds of the handlers' objects, in the order a `range` over the
map visits them. -/
def newQueue (types : List GroupVersionKind) : Except String (Queue Obj) := do
  let handlers ← types.foldlM (fun handlers gvk =>
    if gvk ∈ handlers then throw duplicateHandler else pure (handlers ++ [gvk])) []
  pure {
    queue := PriorityQueue.new fun x y => x.v.isHigherPriority y.v
    queued := ∅
    pending := ∅
    ongoing := ∅
    handlers }

/-- The panic of `Enqueue` on an object of a kind without a handler. -/
def unknownGVK : String := "unknown object GVK %s of type %T"

namespace Queue

variable (q : Queue Obj)

/-- The two lines with which `enqueueInactive` and `finishAndMaybeRequeue` add an operation:
pushed on the priority queue, and its handle kept in `queued`. -/
def push (k : Key) (v : Value Obj) : Queue Obj :=
  let (queue, handle) := q.queue.push ⟨k, v⟩
  { q with queue, queued := q.queued.insert k handle }

/-- `q.enqueuePendingChange(k, v)`. -/
def enqueuePendingChange (k : Key) (v : Value Obj) : Except String (Queue Obj) := do
  let v ← match q.pending.lookup k with
    | some pendingValue => pendingValue.mergeWithNewer v
    | none => pure v
  pure { q with pending := q.pending.insert k v }

/-- `q.enqueueInactive(k, v)`. -/
def enqueueInactive (k : Key) (v : Value Obj) : Except String (Queue Obj) :=
  match q.queued.lookup k with
  | some queuedHandle => do
    let queue ← q.queue.update queuedHandle fun queuedValue => do
      let v ← queuedValue.v.mergeWithNewer v
      pure { queuedValue with v }
    pure { q with queue }
  | none => pure (q.push k v)

/-- `q.Enqueue(eventKind, obj)` at the instant `now`. -/
def enqueue [Object Obj] (eventKind : EventKind) (obj : Obj) (now : Int) :
    Except String (Queue Obj) :=
  let gvk := Object.groupVersionKind obj
  if gvk ∉ q.handlers then throw unknownGVK
  else
    let k : Key := ⟨gvk, Object.getUID obj⟩
    let v : Value Obj := ⟨now, eventKind, obj⟩
    if (q.ongoing.lookup k).isSome then q.enqueuePendingChange k v else q.enqueueInactive k v

/-- `q.Next()` at the instant `now`: the operation handed out, if one is due. -/
def next (now : Int) : Option (KV Obj) × Queue Obj :=
  match q.queue.peek with
  | none => (none, q)
  | some kv =>
    if Time.after kv.v.reconcileAt now then (none, q)
    else
      (some kv, { q with
        queue := q.queue.pop.2
        queued := q.queued.erase kv.k
        ongoing := q.ongoing.insert kv.k () })

/-- `q.finishAndMaybeRequeue(k, v, requeue)`. -/
def finishAndMaybeRequeue (k : Key) (v : Value Obj) (requeue : Bool) :
    Except String (Queue Obj) := do
  let q := { q with ongoing := q.ongoing.erase k }
  let (q, v, requeue) ← match q.pending.lookup k with
    | some pendingValue => do
      -- what is pending is newer than what was handled, so the merge runs backwards
      let v ← if requeue then v.mergeWithNewer pendingValue else pure pendingValue
      pure ({ q with pending := q.pending.erase k }, v, true)
    | none => pure (q, v, requeue)
  pure (if requeue then q.push k v else q)

/-- The end of `q.reconcile(logger, k, v)` once the handler returned `result` at the instant
`now`. -/
def reconcile (k : Key) (v : Value Obj) (result : Result) (now : Int) :
    Except String (Queue Obj) :=
  let (v, requeue) := v.retried result now
  q.finishAndMaybeRequeue k v requeue

end Queue

/-! ### The queue and its workers -/

/-- The queue, and the operations `Next` handed out whose callbacks have not completed. -/
structure System (Obj : Type) where
  queue : Queue Obj
  handedOut : List (KV Obj)

/-- What the queue's users do: the watch handlers enqueue changes, and workers take operations
and complete them. -/
inductive Call (Obj : Type)
  | enqueue (eventKind : EventKind) (obj : Obj) (now : Int)
  | next (now : Int)
  /-- The callback of the `i`-th operation handed out returns, its handler having returned
  `result`. -/
  | complete (i : Nat) (result : Result) (now : Int)

/-- One call: the operation `Next` handed out, if any, and the system after it. -/
def step [Object Obj] (s : System Obj) : Call Obj → Except String (Option (KV Obj) × System Obj)
  | .enqueue eventKind obj now => do
    let queue ← s.queue.enqueue eventKind obj now
    pure (none, { s with queue })
  | .next now =>
    match s.queue.next now with
    | (some kv, queue) => pure (some kv, ⟨queue, s.handedOut ++ [kv]⟩)
    | (none, queue) => pure (none, { s with queue })
  | .complete i result now =>
    match s.handedOut[i]? with
    | none => pure (none, s)
    | some kv => do
      let queue ← s.queue.reconcile kv.k kv.v result now
      pure (none, ⟨queue, s.handedOut.eraseIdx i⟩)

/-- A system that has just been made: a new queue, and nothing handed out. -/
def System.start (q : Queue Obj) : System Obj := ⟨q, []⟩

end Autoscaling.Plugin.Reconcile
