import Autoscaling.Plugin.Reconcile.Queue

/-!
# The reconcile queue's middleware (`pkg/plugin/reconcile/middleware.go`)

`NewQueue` wraps the handler of each kind in the default middleware: `LogMiddleware`, then
`ErrorBackoffMiddleware`, then `CatchPanicMiddleware`, the first the outermost. `applyMiddleware`
builds the wrapped handler by a loop from the last middleware to the first, each wrapping what the
loop built so far. `CatchPanicMiddleware` turns a panic of the handler into an error.
`ErrorBackoffMiddleware` keeps, for each kind, the objects whose last reconcile failed, with the
number of failures in a row and the wait before the next retry, which grows by a factor of 2.03
from 100ms up to a minute; and it counts the failing objects over all kinds.

The model keeps what the middleware computes and leaves out what it only reports: the logger, and
the callbacks on results, error counts and panics, which observe a call without changing it. A
handler is known through how each of its calls ends. The middleware's state is threaded through
the calls, and a panic does not undo what was changed before it, as in Go.

Handlers run concurrently, but the middleware changes its state only after the handler returned,
under the kind's lock, and the queue never runs two reconciles of one object at once. A run is
therefore the sequence of these updates, in the order they take place (`reconcileCall`).
-/

namespace Autoscaling.Plugin.Reconcile

open Go Trans

variable {σ Obj : Type}

/-! ### Handlers and middleware -/

/-- `ObjectParams`, without the name and the namespace, which only the logs read. -/
structure ObjectParams (Obj : Type) where
  gvk : GroupVersionKind
  uid : String
  eventKind : EventKind
  obj : Obj

/-- How a call of a handler ends: it returns a result and an error (`none` for `nil`), or it
panics with a payload (`.error`). -/
abbrev Outcome := Except String (Result × Option String)

/-- `HandlerFunc`: how reconciling an object for an event ends. -/
abbrev HandlerFunc (Obj : Type) := EventKind → Obj → Outcome

/-- `MiddlewareHandlerFunc`, run from a state `σ` of the middleware: how the call ends, and the
state it leaves. -/
abbrev MiddlewareHandlerFunc (σ Obj : Type) := ObjectParams Obj → σ → Outcome × σ

/-- `Middleware`: its `Call`, given the handler it wraps. -/
abbrev Middleware (σ Obj : Type) :=
  ObjectParams Obj → MiddlewareHandlerFunc σ Obj → σ → Outcome × σ

/-- `applyMiddleware(middleware, handler)`. -/
def applyMiddleware [Object Obj] (middleware : List (Middleware σ Obj)) (handler : HandlerFunc Obj) :
    EventKind → Obj → σ → Outcome × σ :=
  let f : MiddlewareHandlerFunc σ Obj := fun p s => (handler p.eventKind p.obj, s)
  -- the loop runs backwards: the middleware at `i` wraps what the ones after it built
  let f := middleware.reverse.foldl (fun oldF m => fun p => m p oldF) f
  fun k obj => f ⟨Object.groupVersionKind obj, Object.getUID obj, k, obj⟩

/-- `(*LogMiddleware).Call`: the handler's outcome, which it logs and passes on. -/
def logMiddleware : Middleware σ Obj := fun params handler => handler params

/-- The error `CatchPanicMiddleware` makes of a panic: `fmt.Errorf("panic: %v", r)`. -/
def panicError (payload : String) : String := "panic: " ++ payload

/-- `(*CatchPanicMiddleware).Call`. The deferred `recover` replaces the error, and leaves the
unnamed result at its zero value. -/
def catchPanicMiddleware : Middleware σ Obj := fun params handler s =>
  match handler params s with
  | (.ok returned, s) => (.ok returned, s)
  | (.error payload, s) => (.ok (⟨0⟩, some (panicError payload)), s)

/-! ### Error backoff -/

/-- `backoff`. Go's `int` is an integer here: it counts calls. -/
structure Backoff where
  successiveFailures : Int
  waitDuration : Duration

/-- `typedTimingSet`: the failing objects of one kind. -/
structure TypedTimingSet where
  byUID : GoMap String Backoff

/-- `ErrorBackoffMiddleware`, without its callback. -/
structure ErrorBackoffMiddleware where
  globalFailing : Int
  byType : GoMap GroupVersionKind TypedTimingSet

/-- `initialErrorWait`: 100ms. -/
def initialErrorWait : Duration := 100000000

/-- `maxErrorWait`: a minute. -/
def maxErrorWait : Duration := minute

/-- `backoffFactor`: the constant `2.03`, as the `float64` it converts to. -/
def backoffFactor : ℚ := Binary64.round (203 / 100)

/-- `NewErrorBackoffMiddleware(typs, callback)`: no object failing, of each kind. -/
def newErrorBackoffMiddleware (typs : List GroupVersionKind) : ErrorBackoffMiddleware :=
  ⟨0, typs.foldl (fun byType gvk => byType.insert gvk ⟨∅⟩) ∅⟩

/-- The panic of `Call` on an object of a kind the middleware was not made for. -/
def receivedUnknownType : String := "received reconcile for unknown type %s"

/-- `time.Duration(float64(d) * backoffFactor)`. -/
def scaledWait (d : Duration) : Duration :=
  int64OfFloat (Binary64.mul (Binary64.ofInt d.toInt) backoffFactor)

/-- The backoff of an object after one more failure, from the one it had (`wasFailing`) and the
retry the handler asked for. -/
def Backoff.afterFailure (b : Backoff) (wasFailing : Bool) (retryAfter : Duration) : Backoff :=
  let waitDuration :=
    if wasFailing then min maxErrorWait (scaledWait b.waitDuration) else initialErrorWait
  -- a retry the handler asked for caps the wait
  let waitDuration := if retryAfter != 0 then min retryAfter waitDuration else waitDuration
  ⟨b.successiveFailures + 1, waitDuration⟩

/-- The kind's set replaced by `typed`, and `change` added to the count of failing objects. -/
def ErrorBackoffMiddleware.update (m : ErrorBackoffMiddleware) (gvk : GroupVersionKind)
    (typed : TypedTimingSet) (change : Int) : ErrorBackoffMiddleware where
  globalFailing := if change != 0 then m.globalFailing + change else m.globalFailing
  byType := m.byType.insert gvk typed

/-- What `Call` does under the kind's lock once the handler returned `result` and `err`: the
result it returns, and the middleware after it. `typed` is the kind's set. -/
def ErrorBackoffMiddleware.record (m : ErrorBackoffMiddleware) (gvk : GroupVersionKind)
    (typed : TypedTimingSet) (uid : String) (result : Result) (err : Option String) :
    Result × ErrorBackoffMiddleware :=
  let failed := err.isSome
  -- the object's backoff, the zero one where it was not failing
  let b := (typed.byUID.lookup uid).getD ⟨0, 0⟩
  let wasFailing := (typed.byUID.lookup uid).isSome
  if failed then
    let b := b.afterFailure wasFailing result.retryAfter
    -- the backoff must be respected, but the handler may ask for a longer wait
    let result : Result := ⟨max result.retryAfter b.waitDuration⟩
    (result, m.update gvk ⟨typed.byUID.insert uid b⟩ (if !wasFailing then 1 else 0))
  else (result, m.update gvk ⟨typed.byUID.erase uid⟩ (if wasFailing then -1 else 0))

/-- `(*ErrorBackoffMiddleware).Call`. `typed` is the kind's set as looked up before the handler
runs: the layers inside hold nothing of this middleware's state, so it is still the set then. -/
def ErrorBackoffMiddleware.call : Middleware ErrorBackoffMiddleware Obj := fun params handler m =>
  match m.byType.lookup params.gvk with
  | none => (throw receivedUnknownType, m)
  | some typed =>
    match handler params m with
    | (.ok (result, err), m) =>
      let recorded := m.record params.gvk typed params.uid result err
      (.ok (recorded.1, err), recorded.2)
    -- a panic of the handler goes up through this middleware, which then changes nothing
    | (.error payload, m) => (.error payload, m)

/-- `defaultMiddleware(types, ...)`, without the callbacks. -/
def defaultMiddleware : List (Middleware ErrorBackoffMiddleware Obj) :=
  [logMiddleware, ErrorBackoffMiddleware.call, catchPanicMiddleware]

/-! ### Reconciles through the default middleware -/

/-- A reconcile of an object for an event, and how the handler's call ended. -/
structure HandlerCall (Obj : Type) where
  eventKind : EventKind
  obj : Obj
  outcome : Outcome

/-- One reconcile through the handler `NewQueue` built: what `Queue.reconcile` gets back, and the
middleware after it. A panic that escapes every middleware ends the run. -/
def reconcileCall [Object Obj] (m : ErrorBackoffMiddleware) (c : HandlerCall Obj) :
    Except String ((Result × Option String) × ErrorBackoffMiddleware) :=
  match applyMiddleware defaultMiddleware (fun _ _ => c.outcome) c.eventKind c.obj m with
  | (.ok returned, m) => .ok (returned, m)
  | (.error payload, _) => .error payload

/-! ### The default stack, call by call -/

namespace Outcome

/-- Whether a call of the handler failed: it returned an error, or it panicked. -/
def failed : Outcome → Bool
  | .ok (_, err) => err.isSome
  | .error _ => true

/-- Whether a call of the handler asked for no negative wait. -/
def retryNonneg : Outcome → Bool
  | .ok (result, _) => decide (0 ≤ result.retryAfter)
  | .error _ => true

/-- What `CatchPanicMiddleware` returns for a call of the handler it wraps. -/
def caught : Outcome → Result × Option String
  | .ok returned => returned
  | .error payload => (⟨0⟩, some (panicError payload))

theorem failed_eq_isSome (o : Outcome) : failed o = (caught o).2.isSome := by
  rcases o with payload | ⟨result, err⟩ <;> rfl

theorem caught_retryAfter_nonneg {o : Outcome} (nonneg : retryNonneg o = true) :
    0 ≤ (caught o).1.retryAfter := by
  rcases o with payload | ⟨result, err⟩
  · simp [caught]
  · simpa [retryNonneg, caught] using nonneg

end Outcome

/-- The backwards loop of `applyMiddleware` nests the middleware, the first the outermost. -/
theorem applyMiddleware_eq [Object Obj] (middleware : List (Middleware σ Obj))
    (handler : HandlerFunc Obj) (k : EventKind) (obj : Obj) :
    applyMiddleware middleware handler k obj =
      middleware.foldr (fun m f => fun p => m p f) (fun p s => (handler p.eventKind p.obj, s))
        ⟨Object.groupVersionKind obj, Object.getUID obj, k, obj⟩ := by
  simp only [applyMiddleware, List.foldl_reverse]

theorem catchPanicMiddleware_eq (params : ObjectParams Obj) (o : Outcome) (s : σ) :
    catchPanicMiddleware params (fun _ s => (o, s)) s = (.ok (Outcome.caught o), s) := by
  rcases o with payload | returned <;> rfl

section Calls

variable [Object Obj] {m : ErrorBackoffMiddleware} {c : HandlerCall Obj}

/-- On an object of a kind the middleware was not made for, the default stack panics. -/
theorem reconcileCall_of_unknown (unknown : m.byType.lookup (Object.groupVersionKind c.obj) = none) :
    reconcileCall m c = .error receivedUnknownType := by
  simp [reconcileCall, applyMiddleware_eq, defaultMiddleware, logMiddleware,
    ErrorBackoffMiddleware.call, unknown, throw, throwThe, MonadExceptOf.throw]

/-- On an object of a known kind, the default stack returns the error of the handler, or the one
its panic became, with the result the backoff middleware records. -/
theorem reconcileCall_of_known {typed : TypedTimingSet}
    (found : m.byType.lookup (Object.groupVersionKind c.obj) = some typed) :
    reconcileCall m c =
      .ok (((m.record (Object.groupVersionKind c.obj) typed (Object.getUID c.obj)
          (Outcome.caught c.outcome).1 (Outcome.caught c.outcome).2).1,
        (Outcome.caught c.outcome).2),
        (m.record (Object.groupVersionKind c.obj) typed (Object.getUID c.obj)
          (Outcome.caught c.outcome).1 (Outcome.caught c.outcome).2).2) := by
  simp only [reconcileCall, applyMiddleware_eq, defaultMiddleware, List.foldr_cons,
    List.foldr_nil, logMiddleware, ErrorBackoffMiddleware.call, found, catchPanicMiddleware_eq]

end Calls

/-! ### The wait before a retry -/

theorem two_le_backoffFactor : 2 ≤ backoffFactor := by
  have := Binary64.le_round (x := 203 / 100) (k := 1) (by norm_num) (by norm_num)
  simpa [backoffFactor] using this

theorem backoffFactor_le_four : backoffFactor ≤ 4 :=
  calc backoffFactor ≤ 2 ^ (2 : ℤ) :=
        Binary64.round_le (by norm_num) (by norm_num) (by norm_num)
    _ = 4 := by norm_num

/-- Scaling a positive wait of at most a minute gives a positive wait. -/
theorem scaledWait_pos {d : Duration} (pos : 0 < d) (bounded : d ≤ maxErrorWait) :
    0 < scaledWait d := by
  rw [Int64.lt_iff_toInt_lt] at pos
  rw [Int64.le_iff_toInt_le] at bounded
  have lo : (1 : ℚ) ≤ d.toInt := by
    simp only [Int64.toInt_zero] at pos
    exact_mod_cast (by omega : 1 ≤ d.toInt)
  have hi : (d.toInt : ℚ) ≤ 60000000000 := by
    exact_mod_cast (by simpa [maxErrorWait, minute] using bounded : d.toInt ≤ 60000000000)
  have exact : Binary64.ofInt d.toInt = d.toInt := by
    apply Binary64.round_intCast
    rw [abs_of_pos (by exact_mod_cast (by linarith : (0 : ℚ) < d.toInt))]
    exact_mod_cast (by linarith : (d.toInt : ℚ) < 2 ^ 53)
  -- the exact product lies between `2` and `2^38`, and so does its rounding
  have factor := two_le_backoffFactor
  have qlo : (2 : ℚ) ^ (1 : ℤ) ≤ d.toInt * backoffFactor := by
    rw [zpow_one]
    nlinarith
  have qhi : (d.toInt : ℚ) * backoffFactor ≤ 2 ^ (38 : ℤ) := by
    have := backoffFactor_le_four
    norm_num
    nlinarith
  have rlo := Binary64.le_round (by norm_num) qlo
  have rhi := Binary64.round_le (by norm_num) (by nlinarith) qhi
  rw [zpow_one] at rlo
  rw [Int64.lt_iff_toInt_lt, scaledWait, Binary64.mul, exact,
    toInt_int64OfFloat (by linarith) (by norm_num at rhi; linarith)]
  have floorLo : (2 : ℤ) ≤ ⌊Binary64.round (d.toInt * backoffFactor)⌋ :=
    Int.le_floor.mpr (by exact_mod_cast rlo)
  simp only [Int64.toInt_zero]
  omega

/-- The wait after a failure is positive and at most a minute, when the wait before was and the
handler asked for no negative wait. -/
theorem afterFailure_wait {b : Backoff} {wasFailing : Bool} {retryAfter : Duration}
    (held : wasFailing = true → 0 < b.waitDuration ∧ b.waitDuration ≤ maxErrorWait)
    (nonneg : 0 ≤ retryAfter) :
    0 < (b.afterFailure wasFailing retryAfter).waitDuration ∧
      (b.afterFailure wasFailing retryAfter).waitDuration ≤ maxErrorWait := by
  have maxIs : maxErrorWait.toInt = 60000000000 := by decide
  have initialIs : initialErrorWait.toInt = 100000000 := by decide
  rw [Int64.le_iff_toInt_le, Int64.toInt_zero] at nonneg
  -- a retry the handler asked for is positive
  have retryPos : retryAfter ≠ 0 → 0 < retryAfter.toInt := fun nonzero => by
    have : retryAfter.toInt ≠ 0 := fun zero => nonzero (Int64.toInt_inj.mp (by simpa using zero))
    omega
  -- the scaled wait, where there is one, is positive
  have scaled : wasFailing = true → 0 < (scaledWait b.waitDuration).toInt := fun failing => by
    obtain ⟨pos, bounded⟩ := held failing
    simpa using Int64.lt_iff_toInt_lt.mp (scaledWait_pos pos bounded)
  unfold Backoff.afterFailure
  simp only [Int64.lt_iff_toInt_lt, Int64.le_iff_toInt_le, Int64.toInt_zero, maxIs]
  split_ifs with capped failing failing
  · have := scaled failing
    have := retryPos (by simpa using capped)
    simp only [toInt_min, maxIs]
    omega
  · have := retryPos (by simpa using capped)
    simp only [toInt_min, initialIs]
    omega
  · have := scaled failing
    simp only [toInt_min, maxIs]
    omega
  · simp only [initialIs]
    omega

/-- A failed call returns a positive wait: the backoff's, or a longer one the handler asked for. -/
theorem record_retryAfter_pos {m : ErrorBackoffMiddleware} {gvk : GroupVersionKind}
    {typed : TypedTimingSet} {uid : String} {result : Result} {err : Option String}
    (failed : err.isSome = true) (nonneg : 0 ≤ result.retryAfter)
    (held : ∀ b, typed.byUID.lookup uid = some b →
      0 < b.waitDuration ∧ b.waitDuration ≤ maxErrorWait) :
    0 < (m.record gvk typed uid result err).1.retryAfter := by
  -- the object's last wait, where it had one, is within bounds
  have last : (typed.byUID.lookup uid).isSome = true →
      0 < ((typed.byUID.lookup uid).getD ⟨0, 0⟩).waitDuration ∧
        ((typed.byUID.lookup uid).getD ⟨0, 0⟩).waitDuration ≤ maxErrorWait := fun some => by
    obtain ⟨b, found⟩ := Option.isSome_iff_exists.mp some
    rw [found]
    exact held b found
  have waits := afterFailure_wait last nonneg
  simp only [ErrorBackoffMiddleware.record, failed, if_true]
  rw [Int64.lt_iff_toInt_lt, toInt_max]
  rw [Int64.lt_iff_toInt_lt] at waits
  exact lt_max_of_lt_right waits.1

/-! ### What the middleware should hold

The failures of a run, key by key: the last call on a key failed, and the number of its calls
that failed since its last success. -/

/-- The outcomes of the calls on `k`, in order, `true` for a failure. -/
def outcomesOf (k : Key) (calls : List (Key × Bool)) : List Bool :=
  (calls.filter fun c => decide (c.1 = k)).map (·.2)

/-- Whether the most recent call on `k` failed. -/
def lastFailed (k : Key) (calls : List (Key × Bool)) : Bool :=
  decide ((outcomesOf k calls).getLast? = some true)

/-- The length of the current run of failures of `k`: its failures since its last success. -/
def failureRun (k : Key) (calls : List (Key × Bool)) : Nat :=
  ((outcomesOf k calls).reverse.takeWhile id).length

/-- The keys of the reconciles of a run, each with whether its handler failed. -/
def history [Object Obj]
    (steps : List (HandlerCall Obj × (Result × Option String) × ErrorBackoffMiddleware)) :
    List (Key × Bool) :=
  steps.map fun e => (Key.of e.1.obj, Outcome.failed e.1.outcome)

section History

variable {k k' : Key} {f : Bool} {calls : List (Key × Bool)}

theorem outcomesOf_snoc :
    outcomesOf k (calls ++ [(k', f)]) =
      if k' = k then outcomesOf k calls ++ [f] else outcomesOf k calls := by
  unfold outcomesOf
  split <;> simp [*]

@[simp] theorem lastFailed_nil : lastFailed k [] = false := rfl

theorem lastFailed_snoc :
    lastFailed k (calls ++ [(k', f)]) = if k' = k then f else lastFailed k calls := by
  unfold lastFailed
  rw [outcomesOf_snoc]
  split
  · cases f <;> simp
  · rfl

theorem failureRun_snoc :
    failureRun k (calls ++ [(k', f)]) =
      if k' = k then (if f then failureRun k calls + 1 else 0) else failureRun k calls := by
  unfold failureRun
  rw [outcomesOf_snoc]
  split
  · cases f <;> simp
  · rfl

/-- A key whose last call did not fail has no failures in a row. -/
theorem failureRun_eq_zero (passing : lastFailed k calls = false) : failureRun k calls = 0 := by
  unfold lastFailed at passing
  unfold failureRun
  rw [List.getLast?_eq_head?_reverse] at passing
  generalize (outcomesOf k calls).reverse = rev at passing ⊢
  cases rev with
  | nil => rfl
  | cons b rest => cases b <;> simp_all

end History

/-! ### The invariant of the backoff middleware -/

namespace ErrorBackoffMiddleware

/-- The number of objects the middleware holds as failing: the total size of the `byUID` maps. -/
def failingCount (m : ErrorBackoffMiddleware) : Nat :=
  (m.byType.entries.map fun e => GoMap.len e.2.byUID).sum

/-- The backoff the middleware holds for a key. -/
def backoffOf (m : ErrorBackoffMiddleware) (k : Key) : Option Backoff :=
  (m.byType.lookup k.gvk).bind fun typed => typed.byUID.lookup k.uid

variable {m : ErrorBackoffMiddleware} {gvk : GroupVersionKind} {typed : TypedTimingSet}

theorem backoffOf_of_found (found : m.byType.lookup gvk = some typed) (uid : String) :
    m.backoffOf ⟨gvk, uid⟩ = typed.byUID.lookup uid := by
  simp [backoffOf, found]

theorem mem_update (found : m.byType.lookup gvk = some typed) (typed' : TypedTimingSet)
    (change : Int) (g : GroupVersionKind) : g ∈ (m.update gvk typed' change).byType ↔ g ∈ m.byType := by
  have present : gvk ∈ m.byType := AList.lookup_isSome.mp (by simp [found])
  simp only [update, AList.mem_insert]
  constructor
  · rintro (rfl | member)
    · exact present
    · exact member
  · exact Or.inr

theorem update_globalFailing (typed' : TypedTimingSet) (change : Int) :
    (m.update gvk typed' change).globalFailing = m.globalFailing + change := by
  unfold update
  split <;> simp_all

/-- Replacing the kind's map changes the backoffs of that kind's keys only. -/
theorem backoffOf_update (byUID' : GoMap String Backoff) (change : Int) (k : Key) :
    (m.update gvk ⟨byUID'⟩ change).backoffOf k =
      if k.gvk = gvk then byUID'.lookup k.uid else m.backoffOf k := by
  obtain ⟨g, uid⟩ := k
  unfold backoffOf update
  by_cases same : g = gvk
  · subst same
    simp
  · simp [same, AList.lookup_insert_ne same]

/-- Replacing the kind's map changes the count of failing objects by the two maps' sizes. -/
theorem failingCount_update (found : m.byType.lookup gvk = some typed)
    (byUID' : GoMap String Backoff) (change : Int) :
    (m.update gvk ⟨byUID'⟩ change).failingCount + GoMap.len typed.byUID =
      m.failingCount + GoMap.len byUID' := by
  unfold failingCount update
  exact GoMap.sum_insert_of_lookup (fun (_ : GroupVersionKind) (t : TypedTimingSet) =>
    GoMap.len t.byUID) found ⟨byUID'⟩

variable {uid : String} {result : Result} {err : Option String}

/-- The backoff an object has after one more failure. -/
def nextBackoff (typed : TypedTimingSet) (uid : String) (retryAfter : Duration) : Backoff :=
  ((typed.byUID.lookup uid).getD ⟨0, 0⟩).afterFailure (typed.byUID.lookup uid).isSome retryAfter

/-- What a failed call records: the object's next backoff, and one more failing object if it was
not failing. -/
theorem record_of_failed (failed : err.isSome = true) :
    m.record gvk typed uid result err =
      (⟨max result.retryAfter (nextBackoff typed uid result.retryAfter).waitDuration⟩,
        m.update gvk ⟨typed.byUID.insert uid (nextBackoff typed uid result.retryAfter)⟩
          (if !(typed.byUID.lookup uid).isSome then 1 else 0)) := by
  simp only [record, failed, if_true, nextBackoff]

/-- What a call that did not fail records: the object no longer failing. -/
theorem record_of_passed (passed : err.isSome = false) :
    m.record gvk typed uid result err =
      (result, m.update gvk ⟨typed.byUID.erase uid⟩
        (if (typed.byUID.lookup uid).isSome then -1 else 0)) := by
  simp only [record, passed, Bool.false_eq_true, if_false]

theorem mem_record (found : m.byType.lookup gvk = some typed) (g : GroupVersionKind) :
    g ∈ (m.record gvk typed uid result err).2.byType ↔ g ∈ m.byType := by
  cases failed : err.isSome
  · rw [record_of_passed failed]
    exact mem_update found _ _ g
  · rw [record_of_failed failed]
    exact mem_update found _ _ g

/-- After a failed call the object holds its next backoff; no other key changes. -/
theorem backoffOf_record_of_failed (found : m.byType.lookup gvk = some typed)
    (failed : err.isSome = true) (k : Key) :
    (m.record gvk typed uid result err).2.backoffOf k =
      if k = ⟨gvk, uid⟩ then some (nextBackoff typed uid result.retryAfter)
      else m.backoffOf k := by
  obtain ⟨g, u⟩ := k
  rw [record_of_failed failed, backoffOf_update]
  by_cases same : g = gvk
  · subst same
    by_cases object : u = uid
    · subst object
      simp
    · simp [object, AList.lookup_insert_ne object, backoffOf_of_found found]
  · simp [same]

/-- After a call that did not fail the object holds no backoff; no other key changes. -/
theorem backoffOf_record_of_passed (found : m.byType.lookup gvk = some typed)
    (passed : err.isSome = false) (k : Key) :
    (m.record gvk typed uid result err).2.backoffOf k =
      if k = ⟨gvk, uid⟩ then none else m.backoffOf k := by
  obtain ⟨g, u⟩ := k
  rw [record_of_passed passed, backoffOf_update]
  by_cases same : g = gvk
  · subst same
    by_cases object : u = uid
    · subst object
      simp
    · simp [object, AList.lookup_erase_ne object, backoffOf_of_found found]
  · simp [same]

/-- The count of failing objects moves with the number of entries of the kind's map. -/
theorem globalFailing_record (found : m.byType.lookup gvk = some typed)
    (counted : m.globalFailing = m.failingCount) :
    (m.record gvk typed uid result err).2.globalFailing =
      (m.record gvk typed uid result err).2.failingCount := by
  have wasFailing : (typed.byUID.lookup uid).isSome = true ↔ uid ∈ typed.byUID :=
    AList.lookup_isSome
  cases failed : err.isSome
  · rw [record_of_passed failed]
    have sizes := failingCount_update found (typed.byUID.erase uid)
      (if (typed.byUID.lookup uid).isSome then -1 else 0)
    rw [GoMap.len_erase] at sizes
    rw [update_globalFailing, counted]
    by_cases present : uid ∈ typed.byUID
    · have := List.length_pos_of_mem (AList.mem_keys.mp present)
      simp only [GoMap.len, present, if_true, wasFailing.mpr present] at sizes ⊢
      omega
    · have absent : (typed.byUID.lookup uid).isSome = false :=
        Bool.eq_false_iff.mpr fun some => present (wasFailing.mp some)
      simp only [present, if_false, absent, Bool.false_eq_true] at sizes ⊢
      omega
  · rw [record_of_failed failed]
    have sizes := failingCount_update found (typed.byUID.insert uid
      (nextBackoff typed uid result.retryAfter)) (if !(typed.byUID.lookup uid).isSome then 1 else 0)
    rw [GoMap.len_insert] at sizes
    rw [update_globalFailing, counted]
    by_cases present : uid ∈ typed.byUID
    · simp only [present, if_true, wasFailing.mpr present, Bool.not_true, Bool.false_eq_true,
        if_false] at sizes ⊢
      omega
    · have absent : (typed.byUID.lookup uid).isSome = false :=
        Bool.eq_false_iff.mpr fun some => present (wasFailing.mp some)
      simp only [present, if_false, absent, Bool.not_false, if_true] at sizes ⊢
      omega

end ErrorBackoffMiddleware

/-! ### The invariant along a run -/

open ErrorBackoffMiddleware

/-- What the backoff middleware made for `types` holds after the calls `calls`: the kinds it was
made for; a backoff for exactly the keys whose last call failed, counting the failures since the
key's last success; waits of at most a minute and more than none; and, in `globalFailing`, the
number of backoffs it holds. -/
structure Tracks (types : List GroupVersionKind) (m : ErrorBackoffMiddleware)
    (calls : List (Key × Bool)) : Prop where
  kinds : ∀ gvk, gvk ∈ m.byType ↔ gvk ∈ types
  backoffs : ∀ k, (m.backoffOf k).map (·.successiveFailures) =
    if lastFailed k calls then some (failureRun k calls : Int) else none
  waits : ∀ k b, m.backoffOf k = some b → 0 < b.waitDuration ∧ b.waitDuration ≤ maxErrorWait
  global : m.globalFailing = m.failingCount

theorem lookup_newByType (typs : List GroupVersionKind)
    (acc : GoMap GroupVersionKind TypedTimingSet) (g : GroupVersionKind) :
    (typs.foldl (fun byType gvk => byType.insert gvk ⟨∅⟩) acc).lookup g =
      if g ∈ typs then some ⟨∅⟩ else acc.lookup g := by
  induction typs generalizing acc with
  | nil => simp
  | cons t rest ih =>
    rw [List.foldl_cons, ih]
    by_cases later : g ∈ rest
    · simp [later]
    · by_cases first : g = t
      · subst first
        simp [later]
      · simp [later, first, AList.lookup_insert_ne first]

theorem tracks_new (types : List GroupVersionKind) :
    Tracks types (newErrorBackoffMiddleware types) [] where
  kinds g := by
    rw [← AList.lookup_isSome]
    by_cases registered : g ∈ types <;>
      simp [newErrorBackoffMiddleware, lookup_newByType, registered]
  backoffs k := by
    by_cases registered : k.gvk ∈ types <;>
      simp [newErrorBackoffMiddleware, backoffOf, lookup_newByType, registered]
  waits k b held := by
    by_cases registered : k.gvk ∈ types <;>
      simp [newErrorBackoffMiddleware, backoffOf, lookup_newByType, registered] at held
  global := by
    -- every kind's map is empty
    have empty : ∀ e ∈ (newErrorBackoffMiddleware types).byType.entries,
        GoMap.len e.2.byUID = 0 := by
      intro e member
      have found := AList.mem_lookup_iff.mpr member
      by_cases registered : e.1 ∈ types <;>
        simp [newErrorBackoffMiddleware, lookup_newByType, registered] at found
      rw [← found]
      rfl
    have : (newErrorBackoffMiddleware types).failingCount = 0 :=
      List.sum_eq_zero fun n listed => by
        obtain ⟨e, member, rfl⟩ := List.mem_map.mp listed
        exact empty e member
    rw [this]
    rfl

section Step

variable {types : List GroupVersionKind} {m : ErrorBackoffMiddleware} {calls : List (Key × Bool)}
  {gvk : GroupVersionKind} {typed : TypedTimingSet} {uid : String} {result : Result}
  {err : Option String}

/-- The failures so far of an object of a known kind: its backoff's count, none without one. -/
theorem Tracks.successiveFailures_getD (tracks : Tracks types m calls)
    (found : m.byType.lookup gvk = some typed) (uid : String) :
    ((typed.byUID.lookup uid).getD ⟨0, 0⟩).successiveFailures = failureRun ⟨gvk, uid⟩ calls := by
  have held := tracks.backoffs ⟨gvk, uid⟩
  rw [backoffOf_of_found found] at held
  cases present : typed.byUID.lookup uid with
  | none =>
    rw [present] at held
    have passing : lastFailed ⟨gvk, uid⟩ calls = false := by
      by_contra failing
      simp [failing] at held
    simp [failureRun_eq_zero passing]
  | some b =>
    rw [present] at held
    have failing : lastFailed ⟨gvk, uid⟩ calls = true := by
      by_contra passing
      simp [passing] at held
    simpa [failing] using held

/-- One update of the backoff middleware keeps the invariant, the call added to the history. -/
theorem Tracks.record (tracks : Tracks types m calls) (found : m.byType.lookup gvk = some typed)
    (nonneg : 0 ≤ result.retryAfter) :
    Tracks types (m.record gvk typed uid result err).2 (calls ++ [(⟨gvk, uid⟩, err.isSome)]) where
  kinds g := (mem_record found g).trans (tracks.kinds g)
  backoffs k := by
    rw [lastFailed_snoc, failureRun_snoc]
    by_cases same : k = ⟨gvk, uid⟩
    · subst same
      cases failed : err.isSome
      · simp [backoffOf_record_of_passed found failed]
      · simp [backoffOf_record_of_failed found failed, nextBackoff, Backoff.afterFailure,
          tracks.successiveFailures_getD found uid]
    · have other : (⟨gvk, uid⟩ : Key) ≠ k := Ne.symm same
      cases failed : err.isSome
      · simp [backoffOf_record_of_passed found failed, same, other, tracks.backoffs k]
      · simp [backoffOf_record_of_failed found failed, same, other, tracks.backoffs k]
  waits k b held := by
    by_cases same : k = ⟨gvk, uid⟩
    · subst same
      cases failed : err.isSome
      · simp [backoffOf_record_of_passed found failed] at held
      · rw [backoffOf_record_of_failed found failed, if_pos rfl, Option.some.injEq] at held
        subst held
        -- the wait grows from the object's last one, which the invariant bounds
        apply afterFailure_wait _ nonneg
        intro wasFailing
        obtain ⟨last, present⟩ := Option.isSome_iff_exists.mp wasFailing
        rw [present]
        exact tracks.waits ⟨gvk, uid⟩ last (by rw [backoffOf_of_found found]; exact present)
    · cases failed : err.isSome
      · rw [backoffOf_record_of_passed found failed, if_neg same] at held
        exact tracks.waits k b held
      · rw [backoffOf_record_of_failed found failed, if_neg same] at held
        exact tracks.waits k b held
  global := globalFailing_record found tracks.global

end Step

section Run

variable [Object Obj] {types : List GroupVersionKind} {m m' : ErrorBackoffMiddleware}
  {calls : List (Key × Bool)} {c : HandlerCall Obj} {r : Result × Option String}

/-- A reconcile through the default stack keeps the invariant. -/
theorem Tracks.after_reconcile (tracks : Tracks types m calls)
    (nonneg : Outcome.retryNonneg c.outcome = true) (stepped : reconcileCall m c = .ok (r, m')) :
    Tracks types m' (calls ++ [(Key.of c.obj, Outcome.failed c.outcome)]) := by
  cases found : m.byType.lookup (Object.groupVersionKind c.obj) with
  | none =>
    rw [reconcileCall_of_unknown found] at stepped
    cases stepped
  | some typed =>
    rw [reconcileCall_of_known found] at stepped
    obtain ⟨-, rfl⟩ := Prod.mk.inj (Except.ok.inj stepped)
    rw [Outcome.failed_eq_isSome]
    exact tracks.record found (Outcome.caught_retryAfter_nonneg nonneg)

/-- A handler that failed or panicked makes the default stack return an error and a positive
wait. -/
theorem Tracks.retry_of_failed (tracks : Tracks types m calls)
    (nonneg : Outcome.retryNonneg c.outcome = true) (stepped : reconcileCall m c = .ok (r, m'))
    (failing : Outcome.failed c.outcome = true) : r.2.isSome = true ∧ 0 < r.1.retryAfter := by
  cases found : m.byType.lookup (Object.groupVersionKind c.obj) with
  | none =>
    rw [reconcileCall_of_unknown found] at stepped
    cases stepped
  | some typed =>
    rw [reconcileCall_of_known found] at stepped
    obtain ⟨rfl, -⟩ := Prod.mk.inj (Except.ok.inj stepped)
    rw [Outcome.failed_eq_isSome] at failing
    refine ⟨failing, record_retryAfter_pos failing (Outcome.caught_retryAfter_nonneg nonneg) ?_⟩
    intro b present
    exact tracks.waits _ b (by rw [backoffOf_of_found found]; exact present)

/-- No panic escapes the default stack on an object of a kind it was made for. -/
theorem Tracks.reconcileCall_ok (tracks : Tracks types m calls)
    (registered : Object.groupVersionKind c.obj ∈ types) :
    ∃ r m', reconcileCall m c = .ok (r, m') := by
  obtain ⟨typed, found⟩ :=
    Option.isSome_iff_exists.mp (AList.lookup_isSome.mpr ((tracks.kinds _).mpr registered))
  exact ⟨_, _, reconcileCall_of_known found⟩

/-- The objects of a kind's map are those whose last reconcile failed. -/
theorem Tracks.mem_iff (tracks : Tracks types m calls) {gvk : GroupVersionKind}
    {typed : TypedTimingSet} (found : m.byType.lookup gvk = some typed) (uid : String) :
    uid ∈ typed.byUID ↔ lastFailed ⟨gvk, uid⟩ calls = true := by
  have held := tracks.backoffs ⟨gvk, uid⟩
  rw [backoffOf_of_found found] at held
  rw [← AList.lookup_isSome]
  cases present : typed.byUID.lookup uid <;>
    by_cases failing : lastFailed ⟨gvk, uid⟩ calls = true <;> simp_all

/-- An object's backoff counts its failures since its last success. -/
theorem Tracks.successiveFailures_eq (tracks : Tracks types m calls) {gvk : GroupVersionKind}
    {typed : TypedTimingSet} {uid : String} {b : Backoff}
    (found : m.byType.lookup gvk = some typed) (present : typed.byUID.lookup uid = some b) :
    b.successiveFailures = failureRun ⟨gvk, uid⟩ calls := by
  simpa [present] using tracks.successiveFailures_getD found uid

theorem tracks_run {steps : List (HandlerCall Obj × (Result × Option String) × ErrorBackoffMiddleware)}
    (run : Trace reconcileCall (newErrorBackoffMiddleware types) steps)
    (nonneg : ∀ e ∈ steps, Outcome.retryNonneg e.1.outcome = true) :
    Tracks types (last (newErrorBackoffMiddleware types) steps) (history steps) := by
  refine Trace.invariant_hist (fun pre s => (∀ e ∈ pre, Outcome.retryNonneg e.1.outcome = true) →
    Tracks types s (history pre)) ?_ run (fun _ => tracks_new types) nonneg
  intro pre c r m' _ held stepped nonneg'
  have before := held fun e member => nonneg' e (List.mem_append_left _ member)
  have after := before.after_reconcile (nonneg' _ (List.mem_append_right _ (List.mem_singleton_self _)))
    stepped
  simpa [history] using after

/-- Over any run of reconciles through the default middleware, on objects of the kinds it was
made for and with handlers that ask for no negative wait: a handler that failed or panicked
makes the wrapped handler return an error and a positive wait, so that `Queue.reconcile`
requeues the object; no panic escapes; and after every call each kind's map holds exactly the
objects whose last reconcile failed, each with its number of failures in a row, and
`globalFailing` is the total size of these maps. -/
theorem defaultMiddleware_backs_off_failures (types : List GroupVersionKind)
    {steps : List (HandlerCall Obj × (Result × Option String) × ErrorBackoffMiddleware)}
    (run : Trace reconcileCall (newErrorBackoffMiddleware types) steps)
    (nonneg : ∀ e ∈ steps, Outcome.retryNonneg e.1.outcome = true) :
    let m := last (newErrorBackoffMiddleware types) steps
    (∀ e ∈ steps, Outcome.failed e.1.outcome = true →
      e.2.1.2.isSome = true ∧ 0 < e.2.1.1.retryAfter ∧
        ∀ (v : Value Obj) (now : Int), (v.retried e.2.1.1 now).2 = true) ∧
    (∀ c : HandlerCall Obj, Object.groupVersionKind c.obj ∈ types →
      ∃ r m', reconcileCall m c = .ok (r, m')) ∧
    (∀ gvk, gvk ∈ m.byType ↔ gvk ∈ types) ∧
    (∀ gvk typed, m.byType.lookup gvk = some typed →
      ∀ uid, uid ∈ typed.byUID ↔ lastFailed ⟨gvk, uid⟩ (history steps) = true) ∧
    m.globalFailing = m.failingCount ∧
    ∀ gvk typed uid b, m.byType.lookup gvk = some typed → typed.byUID.lookup uid = some b →
      b.successiveFailures = failureRun ⟨gvk, uid⟩ (history steps) := by
  intro m
  have tracks := tracks_run run nonneg
  refine ⟨?_, fun c registered => tracks.reconcileCall_ok registered, tracks.kinds,
    fun gvk typed found => tracks.mem_iff found, tracks.global,
    fun gvk typed uid b found present => tracks.successiveFailures_eq found present⟩
  -- each call was made in the state the calls before it left, where the invariant held
  rintro ⟨c, r, m'⟩ member failing
  obtain ⟨pre, post, rfl⟩ := List.append_of_mem member
  obtain ⟨before, stepped, -⟩ := run.at
  have held := tracks_run before fun e listed => nonneg e (List.mem_append_left _ listed)
  obtain ⟨error, pos⟩ := held.retry_of_failed (nonneg _ member) stepped failing
  have nonzero : r.1.retryAfter ≠ 0 := fun zero => by
    rw [zero] at pos
    exact absurd pos (by decide)
  exact ⟨error, pos, fun v now => by simp [Value.retried, nonzero]⟩

end Run

/-- A pod's kind. -/
def podKind : GroupVersionKind := ⟨"", "v1", "Pod"⟩

/-- A pod, known by its UID. -/
structure SamplePod where
  uid : String

instance : Object SamplePod := ⟨fun _ => podKind, SamplePod.uid⟩

/-- A pod whose reconcile fails, then panics, then succeeds. -/
def sampleCalls : List (HandlerCall SamplePod) :=
  [⟨.added, ⟨"a"⟩, .ok (⟨0⟩, some "conflict")⟩,
   ⟨.modified, ⟨"a"⟩, .error "nil map"⟩,
   ⟨.modified, ⟨"a"⟩, .ok (⟨0⟩, none)⟩]

theorem defaultMiddleware_backs_off_failures_sample :
    let m := newErrorBackoffMiddleware [podKind]
    let steps := runCalls reconcileCall m sampleCalls
    (last m steps).globalFailing = (last m steps).failingCount := by
  intro m steps
  have asks : ∀ c ∈ sampleCalls, Outcome.retryNonneg c.outcome = true := by decide
  exact (defaultMiddleware_backs_off_failures [podKind] (trace_runCalls m sampleCalls)
    fun e member => asks e.1 (mem_runCalls member)).2.2.2.2.1

end Autoscaling.Plugin.Reconcile
