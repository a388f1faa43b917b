import Autoscaling.Lib.Go

/-!
# The failure lag tracker (`pkg/neonvm/controllers/failurelag`)

A `Tracker` tells which keys have seen only failures for at least `period`. It never compares
the clock with each key: every failure schedules an event `period` later (`degradeAt`), and
`forward` marks a key degraded when one of its events comes due while the key is still failing
since at least the event's failure. A success forgets the key; its events stay in the queue and
are skipped when they come due.

The lock is left out, and the clock (`Now`) is read by the caller: each call takes its instant.
Instants are integers, as in `Go.Time`.
-/

namespace Autoscaling.Neonvm.Failurelag

open Go

/-- `degradeAt[T]`: the instant a failure of `key` makes it degraded, unless a success comes
first. -/
structure DegradeAt (T : Type) where
  ts : Int
  key : T

variable {T : Type} [DecidableEq T]

/-- `Tracker[T]`. -/
structure Tracker (T : Type) [DecidableEq T] where
  period : Duration
  pendingSince : GoMap T Int
  degraded : GoMap T Unit
  degradeAt : List (DegradeAt T)

/-- `NewTracker(period)`. -/
def newTracker (period : Duration) : Tracker T := ⟨period, ∅, ∅, []⟩

namespace Tracker

variable (t : Tracker T)

/-- The loop of `t.forward(now)` from one event on, with the keys degraded so far: the keys
degraded, and the events from the first one not yet due. -/
def forwardFrom (now : Int) :
    List (DegradeAt T) → GoMap T Unit → GoMap T Unit × List (DegradeAt T)
  | [], degraded => (degraded, [])
  | event :: rest, degraded =>
    if Time.after event.ts now then (degraded, event :: rest)
    else
      match t.pendingSince.lookup event.key with
      -- there was a success in between
      | none => forwardFrom now rest degraded
      | some pendingSince =>
        -- a success and another failure in between, whose own event is still to come
        if Time.sub event.ts pendingSince < t.period then forwardFrom now rest degraded
        else forwardFrom now rest (degraded.insert event.key ())

/-- `t.forward(now)`. -/
def forward (now : Int) : Tracker T :=
  let (degraded, degradeAt) := t.forwardFrom now t.degradeAt t.degraded
  { t with degraded, degradeAt }

/-- `t.RecordSuccess(key)` at `now`. -/
def recordSuccess (key : T) (now : Int) : Tracker T :=
  ({ t with
    degraded := t.degraded.erase key
    pendingSince := t.pendingSince.erase key } : Tracker T).forward now

/-- `t.RecordFailure(key)` at `now`. -/
def recordFailure (key : T) (now : Int) : Tracker T :=
  let pendingSince :=
    if (t.pendingSince.lookup key).isSome then t.pendingSince else t.pendingSince.insert key now
  ({ t with
    pendingSince
    degradeAt := t.degradeAt ++ [⟨Time.add now t.period, key⟩] } : Tracker T).forward now

/-- `t.DegradedCount()` at `now`. -/
def degradedCount (now : Int) : Nat × Tracker T :=
  let t := t.forward now
  (t.degraded.keys.length, t)

/-- `t.Degraded()` at `now` (the name of the field taken, the method is named for its result). -/
def degradedKeys (now : Int) : List T × Tracker T :=
  let t := t.forward now
  (t.degraded.keys, t)

end Tracker

/-! ### Calls -/

/-- The tracker's methods. -/
inductive Call (T : Type)
  | recordFailure (key : T)
  | recordSuccess (key : T)
  | degradedCount
  | degraded

/-- What a method returns. -/
inductive Reply (T : Type)
  | done
  | count (n : Nat)
  | keys (ks : List T)
deriving DecidableEq

namespace Tracker

/-- One call at the instant `now`. -/
def call (t : Tracker T) (now : Int) : Call T → Reply T × Tracker T
  | .recordFailure key => (.done, t.recordFailure key now)
  | .recordSuccess key => (.done, t.recordSuccess key now)
  | .degradedCount =>
    let (n, t) := t.degradedCount now
    (.count n, t)
  | .degraded =>
    let (ks, t) := t.degradedKeys now
    (.keys ks, t)

/-- The replies to calls made one after another, each at its instant, and the tracker after. -/
def run (t : Tracker T) : List (Int × Call T) → List (Reply T) × Tracker T
  | [] => ([], t)
  | (now, c) :: rest =>
    let (reply, t) := t.call now c
    let (replies, t) := t.run rest
    (reply :: replies, t)

@[simp] theorem run_nil (t : Tracker T) : t.run [] = ([], t) := rfl

@[simp] theorem run_cons (t : Tracker T) (now : Int) (c : Call T) (rest : List (Int × Call T)) :
    t.run ((now, c) :: rest) =
      ((t.call now c).1 :: ((t.call now c).2.run rest).1, ((t.call now c).2.run rest).2) := rfl

/-- The reply to the call at position `i` is the reply the tracker left by the calls before it
gives. -/
theorem run_reply (t : Tracker T) (calls : List (Int × Call T)) {i : Nat} {now : Int}
    {c : Call T} (found : calls[i]? = some (now, c)) :
    (t.run calls).1[i]? = some ((t.run (calls.take i)).2.call now c).1 := by
  induction calls generalizing t i with
  | nil => simp at found
  | cons first rest ih =>
    obtain ⟨now', c'⟩ := first
    cases i with
    | zero =>
      simp only [List.getElem?_cons_zero, Option.some.injEq, Prod.mk.injEq] at found
      obtain ⟨rfl, rfl⟩ := found
      simp
    | succ i =>
      simp only [List.getElem?_cons_succ] at found
      simp [ih _ found]

variable (t : Tracker T)

@[simp] theorem period_forward (now : Int) : (t.forward now).period = t.period := rfl

@[simp] theorem pendingSince_forward (now : Int) :
    (t.forward now).pendingSince = t.pendingSince := rfl

theorem call_period (now : Int) (c : Call T) : (t.call now c).2.period = t.period := by
  cases c <;> rfl

theorem run_period (calls : List (Int × Call T)) : (t.run calls).2.period = t.period := by
  induction calls generalizing t with
  | nil => rfl
  | cons first rest ih =>
    obtain ⟨now, c⟩ := first
    simp only [run_cons, ih, call_period]

end Tracker

end Autoscaling.Neonvm.Failurelag
