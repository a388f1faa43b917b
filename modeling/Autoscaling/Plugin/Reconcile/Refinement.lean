import Autoscaling.Plugin.Reconcile.KeyState
import Autoscaling.Plugin.Reconcile.Schedule
import Autoscaling.Lib.Listing

/-!
# The reconcile queue refines one `KeyState` per key

`System.view` reads one key's `KeyState` off the system: the operation waiting for it in the
priority queue (through its handle in `queued`), the operation handed out for it whose callback
has not completed, and its pending changes. `Tracked` is what makes that reading faithful: the
handles in `queued` and the priority queue's entries point at each other, `ongoing` holds
exactly the keys handed out, each at most once, and no key handed out has a handle.

Each call keeps `Tracked` and moves the views as `Refines` says: an `Enqueue` is the `enqueue`
event of its object's key, a `Next` that hands out an operation is the `hand` event of its key,
and the completion of a callback is the `finish` event of its key; every other key's view stays.
The facts of `KeyState` then hold of the queue along every run.
-/

namespace Autoscaling.Plugin.Reconcile

open Go Util.Queue

variable {Obj : Type}

namespace Queue

/-- The operation waiting in the priority queue for `k`, found through its handle in `queued`. -/
def waiting (q : Queue Obj) (k : Key) : Option (Value Obj) :=
  (q.queued.lookup k).bind fun h => (q.queue.entry h).map (·.v)

/-- `queued` and the priority queue agree: the handle of each key holds an operation for that
key, and each operation in the priority queue is reached through the handle of its key. -/
structure Registered (q : Queue Obj) : Prop where
  consistent : q.queue.inner.Consistent
  handle : ∀ k h, q.queued.lookup k = some h → ∃ v, q.queue.entry h = some ⟨k, v⟩
  registered : ∀ h kv, q.queue.entry h = some kv → q.queued.lookup kv.k = some h

variable {q q' : Queue Obj} {k : Key} {v : Value Obj}

theorem registered_newQueue {types : List GroupVersionKind} (created : newQueue types = .ok q) :
    q.Registered := by
  obtain ⟨handlers, -, done⟩ := bind_eq_ok.mp created
  obtain rfl := pure_eq_ok.mp done
  refine ⟨PriorityQueue.consistent_new _, fun k h found => ?_, fun h kv live => ?_⟩
  · simp at found
  · simp [PriorityQueue.new_entry] at live

theorem waiting_of_lookup {h : ItemHandle} (found : q.queued.lookup k = some h) :
    q.waiting k = (q.queue.entry h).map (·.v) := by
  simp [waiting, found]

theorem waiting_of_none (absent : q.queued.lookup k = none) : q.waiting k = none := by
  simp [waiting, absent]

/-- A key has a handle exactly when an operation waits for it. -/
theorem Registered.lookup_eq_none_iff (reg : q.Registered) :
    q.queued.lookup k = none ↔ q.waiting k = none := by
  constructor
  · exact waiting_of_none
  · intro absent
    cases found : q.queued.lookup k with
    | none => rfl
    | some h =>
      obtain ⟨w, live⟩ := reg.handle k h found
      simp [waiting_of_lookup found, live] at absent

/-- The handles of two keys are different. -/
theorem Registered.handle_ne (reg : q.Registered) {k' : Key} {h h' : ItemHandle}
    (found : q.queued.lookup k = some h) (found' : q.queued.lookup k' = some h') (other : k' ≠ k) :
    h' ≠ h := by
  rintro rfl
  obtain ⟨w, live⟩ := reg.handle k h' found
  obtain ⟨w', live'⟩ := reg.handle k' h' found'
  rw [live] at live'
  cases live'
  exact other rfl

/-- The waiting operations of the keys other than `k` depend only on their handles and on the
entries there. -/
theorem waiting_frame
    (queued : ∀ k', k' ≠ k → q'.queued.lookup k' = q.queued.lookup k')
    (entries : ∀ k' h, k' ≠ k → q.queued.lookup k' = some h → q'.queue.entry h = q.queue.entry h) :
    ∀ k', k' ≠ k → q'.waiting k' = q.waiting k' := by
  intro k' other
  cases found : q.queued.lookup k' with
  | none =>
    rw [waiting_of_none found, waiting_of_none ((queued k' other).trans found)]
  | some h =>
    rw [waiting_of_lookup found, waiting_of_lookup ((queued k' other).trans found),
      entries k' h other found]

/-- A change of the maps other than `queued` keeps both the agreement and the waiting
operations. -/
theorem Registered.of_fields (reg : q.Registered) (queue : q'.queue = q.queue)
    (queued : q'.queued = q.queued) : q'.Registered := by
  obtain ⟨consistent, handle, registered⟩ := reg
  rw [← queue, ← queued] at *
  exact ⟨consistent, handle, registered⟩

theorem waiting_of_fields (queue : q'.queue = q.queue) (queued : q'.queued = q.queued) :
    q'.waiting = q.waiting := by
  funext k
  simp only [waiting, queue, queued]

/-! ### The queue's own steps -/

theorem push_queue : (q.push k v).queue = (q.queue.push ⟨k, v⟩).1 := rfl

theorem push_queued : (q.push k v).queued = q.queued.insert k (q.queue.push ⟨k, v⟩).2 := rfl

/-- `push` for a key without a handle: its operation waits, under a new handle. -/
theorem Registered.push (reg : q.Registered) (fresh : q.queued.lookup k = none) (v : Value Obj) :
    (q.push k v).Registered ∧ (q.push k v).waiting k = some v ∧
      ∀ k', k' ≠ k → (q.push k v).waiting k' = q.waiting k' := by
  have entries := PriorityQueue.push_entry reg.consistent (⟨k, v⟩ : KV Obj)
  have unused := PriorityQueue.push_fresh reg.consistent (⟨k, v⟩ : KV Obj)
  -- a handle in use is not the new one
  have old : ∀ h, q.queue.entry h ≠ none → h ≠ (q.queue.push ⟨k, v⟩).2 := by
    rintro h live rfl
    exact live unused
  have kept : ∀ k' h, k' ≠ k → q.queued.lookup k' = some h →
      (q.push k v).queue.entry h = q.queue.entry h := by
    intro k' h _ found
    obtain ⟨w, live⟩ := reg.handle k' h found
    rw [push_queue, entries, Function.update_of_ne (old h (by simp [live]))]
  refine ⟨⟨PriorityQueue.push_consistent reg.consistent _, fun k' h found => ?_,
    fun h kv live => ?_⟩, ?_, waiting_frame (fun k' other => ?_) kept⟩
  · rw [push_queued] at found
    by_cases same : k' = k
    · subst same
      rw [AList.lookup_insert] at found
      cases found
      exact ⟨v, by rw [push_queue, entries, Function.update_self]⟩
    · rw [AList.lookup_insert_ne same] at found
      rw [kept k' h same found]
      exact reg.handle k' h found
  · rw [push_queue, entries] at live
    by_cases new : h = (q.queue.push ⟨k, v⟩).2
    · subst new
      rw [Function.update_self] at live
      cases live
      rw [push_queued, AList.lookup_insert]
    · rw [Function.update_of_ne new] at live
      have found := reg.registered h kv live
      have other : kv.k ≠ k := by
        rintro same
        rw [same, fresh] at found
        cases found
      rw [push_queued, AList.lookup_insert_ne other]
      exact found
  · rw [waiting_of_lookup (by rw [push_queued, AList.lookup_insert]), push_queue, entries,
      Function.update_self]
    rfl
  · rw [push_queued, AList.lookup_insert_ne other]

/-- `enqueueInactive`: the change merged into the operation waiting for the key, or waiting
itself; no other key's operation changes. -/
theorem Registered.enqueueInactive (reg : q.Registered)
    (enqueued : q.enqueueInactive k v = .ok q') :
    q'.Registered ∧ (∃ w, mergeInto (q.waiting k) v = .ok w ∧ q'.waiting k = some w) ∧
      ∀ k', k' ≠ k → q'.waiting k' = q.waiting k' := by
  unfold Queue.enqueueInactive at enqueued
  split at enqueued
  next h found =>
    obtain ⟨queue, updated, done⟩ := bind_eq_ok.mp enqueued
    obtain rfl := pure_eq_ok.mp done
    obtain ⟨old, new, live, made, entries, consistent⟩ :=
      PriorityQueue.update_eq_ok reg.consistent updated
    obtain ⟨w₀, live₀⟩ := reg.handle k h found
    rw [live₀] at live
    cases live
    obtain ⟨w, merged, done'⟩ := bind_eq_ok.mp made
    obtain rfl := pure_eq_ok.mp done'
    -- only the handle of `k` holds something new: the merged operation, for the same key
    have kept : ∀ k' h', k' ≠ k → q.queued.lookup k' = some h' → queue.entry h' = q.queue.entry h' :=
      fun k' h' other found' => by rw [entries, Function.update_of_ne (reg.handle_ne found found' other)]
    refine ⟨⟨consistent, fun k' h' found' => ?_, fun h' kv live' => ?_⟩, ⟨w, ?_, ?_⟩,
      waiting_frame (fun _ _ => rfl) kept⟩
    · by_cases same : k' = k
      · subst same
        rw [found] at found'
        cases found'
        exact ⟨w, by rw [entries, Function.update_self]⟩
      · rw [kept k' h' same found']
        exact reg.handle k' h' found'
    · by_cases at_h : h' = h
      · subst at_h
        rw [entries, Function.update_self] at live'
        cases live'
        exact found
      · rw [entries, Function.update_of_ne at_h] at live'
        exact reg.registered h' kv live'
    · rw [waiting_of_lookup found, live₀]
      exact merged
    · simp [waiting, found, entries]
  next found =>
    obtain rfl := pure_eq_ok.mp enqueued
    obtain ⟨reg', pushed, others⟩ := reg.push found v
    exact ⟨reg', ⟨v, by rw [waiting_of_none found]; rfl, pushed⟩, others⟩

theorem enqueueInactive_maps (enqueued : q.enqueueInactive k v = .ok q') :
    q'.pending = q.pending ∧ q'.ongoing = q.ongoing := by
  unfold Queue.enqueueInactive at enqueued
  split at enqueued
  · obtain ⟨queue, -, done⟩ := bind_eq_ok.mp enqueued
    obtain rfl := pure_eq_ok.mp done
    exact ⟨rfl, rfl⟩
  · obtain rfl := pure_eq_ok.mp enqueued
    exact ⟨rfl, rfl⟩

theorem enqueuePendingChange_eq_ok (enqueued : q.enqueuePendingChange k v = .ok q') :
    ∃ w, mergeInto (q.pending.lookup k) v = .ok w ∧
      q' = { q with pending := q.pending.insert k w } := by
  simp only [Queue.enqueuePendingChange] at enqueued
  split at enqueued
  all_goals
    rename_i found
    obtain ⟨w, merged, done⟩ := bind_eq_ok.mp enqueued
    obtain rfl := pure_eq_ok.mp done
    exact ⟨w, by rw [found]; exact merged, rfl⟩

theorem next_eq_some {now : Int} {kv : KV Obj} (handed : q.next now = (some kv, q')) :
    q.queue.peek = some kv ∧
      q' = { q with
        queue := q.queue.pop.2
        queued := q.queued.erase kv.k
        ongoing := q.ongoing.insert kv.k () } := by
  unfold Queue.next at handed
  split at handed
  · cases handed
  next head peeked =>
    split_ifs at handed
    · cases handed
    · simp only [Prod.mk.injEq, Option.some.injEq] at handed
      obtain ⟨rfl, rfl⟩ := handed
      exact ⟨peeked, rfl⟩

theorem next_eq_none {now : Int} (idle : (q.next now).1 = none) : (q.next now).2 = q := by
  unfold Queue.next at idle ⊢
  split
  · rfl
  next head peeked =>
    rw [peeked] at idle
    simp only at idle
    split_ifs at idle ⊢
    rfl

/-- `Next` handing out `kv`: it was the operation waiting for its key, which no longer has one;
no other key's operation changes. -/
theorem Registered.next (reg : q.Registered) {now : Int} {kv : KV Obj}
    (handed : q.next now = (some kv, q')) :
    q'.Registered ∧ q.waiting kv.k = some kv.v ∧ q'.queued.lookup kv.k = none ∧
      ∀ k', k' ≠ kv.k → q'.waiting k' = q.waiting k' := by
  obtain ⟨peeked, rfl⟩ := next_eq_some handed
  obtain ⟨p, head, live⟩ := PriorityQueue.peek_eq_some reg.consistent peeked
  obtain ⟨-, entries, consistent⟩ := PriorityQueue.pop_of_head reg.consistent head
  have found := reg.registered ⟨p⟩ kv live
  -- `Pop` removes the head's handle only
  have kept : ∀ k' h', k' ≠ kv.k → q.queued.lookup k' = some h' →
      q.queue.pop.2.entry h' = q.queue.entry h' :=
    fun k' h' other found' => by
      rw [entries, Function.update_of_ne (reg.handle_ne found found' other)]
  refine ⟨⟨consistent, fun k' h' found' => ?_, fun h' kv' live' => ?_⟩,
    by rw [waiting_of_lookup found, live]; rfl, AList.lookup_erase _ _,
    waiting_frame (fun k' other => AList.lookup_erase_ne other) kept⟩
  · have other : k' ≠ kv.k := by
      rintro rfl
      simp only [AList.lookup_erase] at found'
      cases found'
    simp only [AList.lookup_erase_ne other] at found'
    rw [kept k' h' other found']
    exact reg.handle k' h' found'
  · have moved : h' ≠ ⟨p⟩ := by
      rintro rfl
      rw [entries, Function.update_self] at live'
      cases live'
    rw [entries, Function.update_of_ne moved] at live'
    have found' := reg.registered h' kv' live'
    have other : kv'.k ≠ kv.k := by
      intro same
      rw [same, found] at found'
      cases found'
      exact moved rfl
    show (q.queued.erase kv.k).lookup kv'.k = some h'
    rw [AList.lookup_erase_ne other]
    exact found'

/-- `finishAndMaybeRequeue` for a key without a handle: the key leaves `ongoing` and
`pending`, and what `requeued` makes of its pending change and of the operation handled waits
for it; no other key's operation or pending change changes. -/
theorem Registered.finishAndMaybeRequeue (reg : q.Registered) (idle : q.queued.lookup k = none)
    {requeue : Bool} (finished : q.finishAndMaybeRequeue k v requeue = .ok q') :
    q'.Registered ∧ requeued (q.pending.lookup k) v requeue = .ok (q'.waiting k) ∧
      q'.pending.lookup k = none ∧ q'.ongoing = q.ongoing.erase k ∧
      ∀ k', k' ≠ k → q'.waiting k' = q.waiting k' ∧ q'.pending.lookup k' = q.pending.lookup k' := by
  simp only [Queue.finishAndMaybeRequeue] at finished
  -- once `ongoing` and `pending` have lost the key, what `requeued` makes, if anything, is pushed
  have last : ∀ (q₁ : Queue Obj) (v₁ : Value Obj) (requeue₁ : Bool), q₁.queue = q.queue →
      q₁.queued = q.queued → q₁.ongoing = q.ongoing.erase k → q₁.pending.lookup k = none →
      (∀ k', k' ≠ k → q₁.pending.lookup k' = q.pending.lookup k') →
      requeued (q.pending.lookup k) v requeue = .ok (if requeue₁ then some v₁ else none) →
      (pure (if requeue₁ then q₁.push k v₁ else q₁) : Except String (Queue Obj)) = .ok q' →
      q'.Registered ∧ requeued (q.pending.lookup k) v requeue = .ok (q'.waiting k) ∧
        q'.pending.lookup k = none ∧ q'.ongoing = q.ongoing.erase k ∧
        ∀ k', k' ≠ k → q'.waiting k' = q.waiting k' ∧
          q'.pending.lookup k' = q.pending.lookup k' := by
    intro q₁ v₁ requeue₁ queue queued ongoing cleared others made pushed
    obtain rfl := pure_eq_ok.mp pushed
    have reg₁ : q₁.Registered := reg.of_fields queue queued
    have same := waiting_of_fields queue queued
    cases requeue₁
    · simp only [Bool.false_eq_true, if_false] at made ⊢
      refine ⟨reg₁, ?_, cleared, ongoing, fun k' other => ⟨by rw [same], others k' other⟩⟩
      rw [same, waiting_of_none idle]
      exact made
    · obtain ⟨reg', pushed', kept⟩ := reg₁.push (queued ▸ idle) v₁
      simp only [if_true] at made ⊢
      exact ⟨reg', by rw [pushed']; exact made, cleared, ongoing,
        fun k' other => ⟨(kept k' other).trans (by rw [same]), others k' other⟩⟩
  split at finished
  next p found =>
    split at finished
    next asked =>
      -- a retry merged with the changes that came in meanwhile
      obtain ⟨w, merged, rest⟩ := bind_eq_ok.mp finished
      obtain ⟨x, taken, rest⟩ := bind_eq_ok.mp rest
      cases pure_eq_ok.mp taken
      refine last _ w true (by rfl) (by rfl) (by rfl) (AList.lookup_erase _ _)
        (fun k' other => AList.lookup_erase_ne other) ?_ rest
      simp [requeued, found, asked, merged]
    next notAsked =>
      obtain ⟨w, merged, rest⟩ := bind_eq_ok.mp finished
      obtain ⟨x, taken, rest⟩ := bind_eq_ok.mp rest
      cases pure_eq_ok.mp taken
      cases pure_eq_ok.mp merged
      refine last _ p true (by rfl) (by rfl) (by rfl) (AList.lookup_erase _ _)
        (fun k' other => AList.lookup_erase_ne other) ?_ rest
      simp [requeued, found, notAsked]
  next found =>
    obtain ⟨x, taken, rest⟩ := bind_eq_ok.mp finished
    cases pure_eq_ok.mp taken
    refine last _ v requeue (by rfl) (by rfl) (by rfl) (by exact found) (fun _ _ => by rfl) ?_ rest
    rw [found]
    cases requeue <;> rfl

theorem reconcile_eq {result : Result} {now : Int} :
    q.reconcile k v result now =
      q.finishAndMaybeRequeue k (v.retried result now).1 (v.retried result now).2 := rfl

theorem enqueue_eq_ok [Object Obj] {eventKind : EventKind} {obj : Obj} {now : Int}
    (enqueued : q.enqueue eventKind obj now = .ok q') :
    ((q.ongoing.lookup (Key.of obj)).isSome ∧
        q.enqueuePendingChange (Key.of obj) ⟨now, eventKind, obj⟩ = .ok q') ∨
      ((q.ongoing.lookup (Key.of obj)).isSome = false ∧
        q.enqueueInactive (Key.of obj) ⟨now, eventKind, obj⟩ = .ok q') := by
  simp only [Queue.enqueue] at enqueued
  split_ifs at enqueued with known busy
  · exact .inl ⟨busy, enqueued⟩
  · exact .inr ⟨by simpa [Key.of] using busy, enqueued⟩

end Queue

namespace System

/-- The operation handed out for `k` whose callback has not completed. -/
def inFlight (s : System Obj) (k : Key) : Option (Value Obj) :=
  (s.handedOut.find? fun kv => kv.k = k).map (·.v)

/-- What the system keeps for `k`. -/
def view (s : System Obj) (k : Key) : KeyState Obj :=
  ⟨s.queue.waiting k, s.inFlight k, s.queue.pending.lookup k⟩

/-- What makes the views faithful: `queued` and the priority queue agree, `ongoing` holds the
keys of the operations handed out, each handed out once, and none of them has a handle. -/
structure Tracked (s : System Obj) : Prop where
  registered : s.queue.Registered
  ongoing : ∀ k, (s.queue.ongoing.lookup k).isSome ↔ k ∈ s.handedOut.map (·.k)
  distinct : (s.handedOut.map (·.k)).Nodup
  idle : ∀ k, k ∈ s.handedOut.map (·.k) → s.queue.queued.lookup k = none

variable {s s' : System Obj} {k : Key}

theorem tracked_start {types : List GroupVersionKind} {q : Queue Obj}
    (created : newQueue types = .ok q) : (System.start q).Tracked := by
  have reg := Queue.registered_newQueue created
  obtain ⟨handlers, -, done⟩ := bind_eq_ok.mp created
  obtain rfl := pure_eq_ok.mp done
  exact ⟨reg, fun k => by simp [System.start], List.nodup_nil, fun k member => by
    simp [System.start] at member⟩

@[simp] theorem inFlight_queue (queue : Queue Obj) :
    ({ s with queue } : System Obj).inFlight = s.inFlight := rfl

theorem inFlight_of_not_mem (absent : k ∉ s.handedOut.map (·.k)) : s.inFlight k = none := by
  simp [inFlight, Listing.find?_key_of_not_mem absent]

/-- A key is handed out exactly when it is in `ongoing`. -/
theorem Tracked.inFlight_isSome (t : s.Tracked) :
    (s.inFlight k).isSome = (s.queue.ongoing.lookup k).isSome := by
  by_cases member : k ∈ s.handedOut.map (·.k)
  · obtain ⟨kv, listed, rfl⟩ := List.mem_map.mp member
    obtain ⟨i, found⟩ := List.mem_iff_getElem?.mp listed
    have := (t.ongoing kv.k).mpr member
    simp [inFlight, Listing.find?_key_getElem? t.distinct found, this]
  · have := (t.ongoing k).not.mpr member
    simp only [Bool.not_eq_true] at this
    rw [inFlight_of_not_mem member, this]
    rfl

/-! ### Each call -/

variable [Object Obj]

/-- An `Enqueue` is the `enqueue` event of its object's key. -/
theorem Tracked.enqueue (t : s.Tracked) {eventKind : EventKind} {obj : Obj} {now : Int}
    {queue : Queue Obj} (enqueued : s.queue.enqueue eventKind obj now = .ok queue) :
    ({ s with queue } : System Obj).Tracked ∧
      (s.view (Key.of obj)).enqueue ⟨now, eventKind, obj⟩ =
        .ok (({ s with queue } : System Obj).view (Key.of obj)) ∧
      ∀ k, k ≠ Key.of obj → ({ s with queue } : System Obj).view k = s.view k := by
  rcases Queue.enqueue_eq_ok enqueued with ⟨busy, pended⟩ | ⟨idle, inactive⟩
  · -- a worker has the key: the change waits in `pending`
    obtain ⟨w, merged, rfl⟩ := Queue.enqueuePendingChange_eq_ok pended
    have handedOut : (s.inFlight (Key.of obj)).isSome := by rw [t.inFlight_isSome]; exact busy
    refine ⟨⟨t.registered.of_fields rfl rfl, t.ongoing, t.distinct, t.idle⟩, ?_, fun k other => ?_⟩
    · rw [KeyState.enqueue_of_busy handedOut]
      simp [view, merged, Queue.waiting]
    · simp [view, Queue.waiting, AList.lookup_insert_ne other]
  · -- no worker has it: the change is merged into the operation waiting for it, or waits
    obtain ⟨reg', ⟨w, merged, waits⟩, others⟩ := t.registered.enqueueInactive inactive
    obtain ⟨pending, ongoing⟩ := Queue.enqueueInactive_maps inactive
    have absent : Key.of obj ∉ s.handedOut.map (·.k) := fun member => by
      rw [← t.ongoing, idle] at member
      cases member
    have notFlight : s.inFlight (Key.of obj) = none := inFlight_of_not_mem absent
    refine ⟨⟨reg', fun k => ?_, t.distinct, fun k member => ?_⟩, ?_, fun k other => ?_⟩
    · rw [ongoing]
      exact t.ongoing k
    · have other : k ≠ Key.of obj := fun same => absent (same ▸ member)
      rw [reg'.lookup_eq_none_iff, others k other, ← t.registered.lookup_eq_none_iff]
      exact t.idle k member
    · rw [KeyState.enqueue_of_idle notFlight]
      simp [view, merged, waits, pending]
    · simp [view, others k other, pending]

omit [Object Obj] in
/-- A `Next` that hands out `kv` is the `hand` event of its key. -/
theorem Tracked.next (t : s.Tracked) {now : Int} {kv : KV Obj} {queue : Queue Obj}
    (handed : s.queue.next now = (some kv, queue)) :
    (⟨queue, s.handedOut ++ [kv]⟩ : System Obj).Tracked ∧ (s.view kv.k).queued = some kv.v ∧
      (⟨queue, s.handedOut ++ [kv]⟩ : System Obj).view kv.k = (s.view kv.k).hand ∧
      ∀ k, k ≠ kv.k → (⟨queue, s.handedOut ++ [kv]⟩ : System Obj).view k = s.view k := by
  obtain ⟨reg', waits, cleared, others⟩ := t.registered.next handed
  obtain ⟨-, rfl⟩ := Queue.next_eq_some handed
  -- the key handed out had a handle, so no worker had it
  have fresh : kv.k ∉ s.handedOut.map (·.k) := fun member => by
    have := t.idle kv.k member
    rw [t.registered.lookup_eq_none_iff, waits] at this
    cases this
  refine ⟨⟨reg', fun k => ?_, ?_, fun k member => ?_⟩, waits, ?_, fun k other => ?_⟩
  · by_cases same : k = kv.k
    · subst same
      simp [AList.lookup_insert]
    · simp [AList.lookup_insert_ne same, t.ongoing k, same]
  · rw [List.map_append, List.nodup_append]
    refine ⟨t.distinct, List.nodup_singleton _, fun a listed b new => ?_⟩
    simp only [List.map_cons, List.map_nil, List.mem_singleton] at new
    subst new
    exact fun same => fresh (same ▸ listed)
  · by_cases same : k = kv.k
    · subst same
      exact cleared
    · simp only [List.map_append, List.map_cons, List.map_nil, List.mem_append,
        List.mem_singleton, same, or_false] at member
      show (s.queue.queued.erase kv.k).lookup k = none
      rw [AList.lookup_erase_ne same]
      exact t.idle k member
  · simp [view, KeyState.hand, waits, Queue.waiting_of_none cleared, inFlight,
      Listing.find?_key_snoc_of_not_mem fresh]
  · simp [view, others k other, inFlight, Listing.find?_key_snoc_of_ne (Ne.symm other)]

omit [Object Obj] in
/-- The completion of the callback of the `i`-th operation handed out is the `finish` event of
its key. -/
theorem Tracked.complete (t : s.Tracked) {i : Nat} {kv : KV Obj} {result : Result} {now : Int}
    {queue : Queue Obj} (found : s.handedOut[i]? = some kv)
    (finished : s.queue.reconcile kv.k kv.v result now = .ok queue) :
    (⟨queue, s.handedOut.eraseIdx i⟩ : System Obj).Tracked ∧ (s.view kv.k).inFlight = some kv.v ∧
      (s.view kv.k).finish (kv.v.retried result now).1 (kv.v.retried result now).2 =
        .ok ((⟨queue, s.handedOut.eraseIdx i⟩ : System Obj).view kv.k) ∧
      ∀ k, k ≠ kv.k → (⟨queue, s.handedOut.eraseIdx i⟩ : System Obj).view k = s.view k := by
  have member : kv.k ∈ s.handedOut.map (·.k) := List.mem_map_of_mem (List.mem_of_getElem? found)
  obtain ⟨reg', made, cleared, ongoing, others⟩ := t.registered.finishAndMaybeRequeue
    (t.idle kv.k member) (show s.queue.finishAndMaybeRequeue kv.k (kv.v.retried result now).1
      (kv.v.retried result now).2 = .ok queue from finished)
  have gone := Listing.key_not_mem_eraseIdx t.distinct found
  refine ⟨⟨reg', fun k => ?_, Listing.keys_eraseIdx_nodup t.distinct i, fun k listed => ?_⟩, ?_, ?_,
    fun k other => ?_⟩
  · rw [ongoing]
    by_cases same : k = kv.k
    · subst same
      simp [AList.lookup_erase, gone]
    · rw [AList.lookup_erase_ne same, Listing.mem_keys_eraseIdx_of_ne found (Ne.symm same)]
      exact t.ongoing k
  · have other : k ≠ kv.k := fun same => gone (same ▸ listed)
    have old := (Listing.mem_keys_eraseIdx_of_ne found (Ne.symm other)).mp listed
    rw [reg'.lookup_eq_none_iff, (others k other).1, ← t.registered.lookup_eq_none_iff]
    exact t.idle k old
  · simp [view, inFlight, Listing.find?_key_getElem? t.distinct found]
  · rw [KeyState.finish_eq]
    show (fun queued => (⟨queued, none, none⟩ : KeyState Obj)) <$>
      requeued (s.queue.pending.lookup kv.k) _ _ = _
    rw [made]
    simp [view, cleared, inFlight, Listing.find?_key_of_not_mem gone]
  · simp [view, (others k other).1, (others k other).2, inFlight,
      Listing.find?_key_eraseIdx_of_ne found (Ne.symm other)]

/-! ### Every call -/

/-- What a call does to the views, by the events of `KeyState`: an `Enqueue` is the `enqueue`
event of its object's key, a `Next` that hands out an operation the `hand` event of its key, the
completion of a callback the `finish` event of its key; no other key's view changes. -/
def Refines (s : System Obj) : Call Obj → Option (KV Obj) → System Obj → Prop
  | .enqueue eventKind obj now, _, s' =>
    (s.view (Key.of obj)).enqueue ⟨now, eventKind, obj⟩ = .ok (s'.view (Key.of obj)) ∧
      ∀ k, k ≠ Key.of obj → s'.view k = s.view k
  | .next _, some kv, s' =>
    (s.view kv.k).queued = some kv.v ∧ s'.view kv.k = (s.view kv.k).hand ∧
      ∀ k, k ≠ kv.k → s'.view k = s.view k
  | .next _, none, s' => ∀ k, s'.view k = s.view k
  | .complete i result now, _, s' =>
    match s.handedOut[i]? with
    | none => ∀ k, s'.view k = s.view k
    | some kv =>
      (s.view kv.k).inFlight = some kv.v ∧
        (s.view kv.k).finish (kv.v.retried result now).1 (kv.v.retried result now).2 =
          .ok (s'.view kv.k) ∧
        ∀ k, k ≠ kv.k → s'.view k = s.view k

/-- Every call keeps the views faithful and moves them as `Refines` says. -/
theorem Tracked.step (t : s.Tracked) {c : Call Obj} {r : Option (KV Obj)}
    (stepped : step s c = .ok (r, s')) : s'.Tracked ∧ s.Refines c r s' := by
  cases c with
  | enqueue eventKind obj now =>
    obtain ⟨queue, enqueued, done⟩ := bind_eq_ok.mp stepped
    cases pure_eq_ok.mp done
    exact t.enqueue enqueued
  | next now =>
    simp only [Reconcile.step] at stepped
    split at stepped
    next kv queue handed =>
      cases pure_eq_ok.mp stepped
      obtain ⟨t', waits, handed', others⟩ := t.next handed
      exact ⟨t', waits, handed', others⟩
    next queue idle =>
      cases pure_eq_ok.mp stepped
      -- a `Next` that hands out nothing changes nothing
      have same := Queue.next_eq_none (by rw [idle])
      rw [idle] at same
      subst same
      exact ⟨t, fun k => rfl⟩
  | complete i result now =>
    simp only [Reconcile.step] at stepped
    split at stepped
    next absent =>
      cases pure_eq_ok.mp stepped
      refine ⟨t, ?_⟩
      simp only [Refines, absent]
      exact fun _ => trivial
    next kv found =>
      obtain ⟨queue, finished, done⟩ := bind_eq_ok.mp stepped
      cases pure_eq_ok.mp done
      obtain ⟨t', flight, finished', others⟩ := t.complete found finished
      refine ⟨t', ?_⟩
      simp only [Refines, found]
      exact ⟨flight, finished', others⟩

/-! ### What `KeyState` shows, for every key -/

/-- Every call keeps each key's view well formed. -/
theorem Refines.wellFormed {c : Call Obj} {r : Option (KV Obj)} (moved : s.Refines c r s')
    (wf : ∀ k, (s.view k).WellFormed) : ∀ k, (s'.view k).WellFormed := by
  intro k
  cases c with
  | enqueue eventKind obj now =>
    obtain ⟨enqueued, others⟩ := moved
    by_cases same : k = Key.of obj
    · subst same
      exact (wf _).enqueue enqueued
    · rw [others k same]
      exact wf k
  | next now =>
    cases r with
    | none =>
      rw [moved k]
      exact wf k
    | some kv =>
      obtain ⟨waits, handed, others⟩ := moved
      by_cases same : k = kv.k
      · subst same
        rw [handed]
        exact (wf _).hand (by simp [waits])
      · rw [others k same]
        exact wf k
  | complete i result now =>
    simp only [Refines] at moved
    split at moved
    · rw [moved k]
      exact wf k
    next kv found =>
      obtain ⟨-, finished, others⟩ := moved
      by_cases same : k = kv.k
      · subst same
        exact KeyState.WellFormed.finish finished
      · rw [others k same]
        exact wf k

end System

/-- Whether a call, with what it returned, renews what is kept for `k`: an `Enqueue` of an
object of key `k`, or a `Next` that hands `k` out. -/
def Call.Renews [Object Obj] (k : Key) : Call Obj → Option (KV Obj) → Prop
  | .enqueue _ obj _, _ => Key.of obj = k
  | .next _, some kv => kv.k = k
  | _, _ => False

namespace System

variable [Object Obj] {s s' : System Obj} {k : Key}

/-- A call that does not renew what is kept for `k` keeps the object it holds. -/
theorem Refines.holds {c : Call Obj} {r : Option (KV Obj)} {o : Obj} (moved : s.Refines c r s')
    (wf : (s.view k).WellFormed) (holds : (s.view k).Holds o) (quiet : ¬ c.Renews k r) :
    (s'.view k).Holds o := by
  cases c with
  | enqueue eventKind obj now =>
    obtain ⟨-, others⟩ := moved
    rw [others k (Ne.symm quiet)]
    exact holds
  | next now =>
    cases r with
    | none =>
      rw [moved k]
      exact holds
    | some kv =>
      obtain ⟨-, -, others⟩ := moved
      rw [others k (Ne.symm quiet)]
      exact holds
  | complete i result now =>
    simp only [Refines] at moved
    split at moved
    · rw [moved k]
      exact holds
    next kv found =>
      obtain ⟨flight, finished, others⟩ := moved
      by_cases same : k = kv.k
      · -- the completion of the key's own callback puts its pending change back in the queue
        subst same
        exact holds.finish wf (by simp [flight]) finished
      · rw [others k same]
        exact holds

/-! ### Along every run -/

/-- Faithful views, each well formed: what every run keeps. -/
theorem sound_trace {mid : List (Call Obj × Option (KV Obj) × System Obj)} (t : s.Tracked)
    (wf : ∀ k, (s.view k).WellFormed) (run : Trans.Trace step s mid) :
    (Trans.last s mid).Tracked ∧ ∀ k, ((Trans.last s mid).view k).WellFormed :=
  Trans.Trace.invariant (fun s => s.Tracked ∧ ∀ k, (s.view k).WellFormed)
    (fun _ _ _ _ sound stepped =>
      have moved := sound.1.step stepped
      ⟨moved.1, moved.2.wellFormed sound.2⟩)
    run ⟨t, wf⟩

/-- From a faithful state, calls that do not renew what is kept for `k` keep the object it
holds. -/
theorem holds_trace {mid : List (Call Obj × Option (KV Obj) × System Obj)} {o : Obj}
    (t : s.Tracked) (wf : ∀ k, (s.view k).WellFormed) (holds : (s.view k).Holds o)
    (run : Trans.Trace step s mid) (quiet : ∀ e ∈ mid, ¬ e.1.Renews k e.2.1) :
    ((Trans.last s mid).view k).Holds o := by
  -- one call at a time, with the views faithful and well formed before each
  induction mid generalizing s with
  | nil => exact holds
  | cons e rest ih =>
    obtain ⟨c, r, s'⟩ := e
    obtain ⟨stepped, later⟩ := run
    obtain ⟨t', moved⟩ := t.step stepped
    exact ih t' (moved.wellFormed wf) (moved.holds (wf k) holds (quiet _ List.mem_cons_self))
      later fun e member => quiet e (List.mem_cons_of_mem _ member)

section Run

variable {types : List GroupVersionKind} {q₀ : Queue Obj}

omit [Object Obj] in
theorem view_start (created : newQueue types = .ok q₀) (k : Key) :
    (System.start q₀).view k = KeyState.idle := by
  obtain ⟨handlers, -, done⟩ := bind_eq_ok.mp created
  obtain rfl := pure_eq_ok.mp done
  simp [view, System.start, Queue.waiting, inFlight, KeyState.idle]

theorem sound_run (created : newQueue types = .ok q₀)
    {steps : List (Call Obj × Option (KV Obj) × System Obj)}
    (run : Trans.Trace step (System.start q₀) steps) :
    (Trans.last (System.start q₀) steps).Tracked ∧
      ∀ k, ((Trans.last (System.start q₀) steps).view k).WellFormed :=
  sound_trace (tracked_start created) (fun k => view_start created k ▸ KeyState.WellFormed.idle)
    run

/-- Along every run of a queue made by `NewQueue`, each call moves the views as `Refines`
says: the queue refines one `KeyState` per key. -/
theorem refines_run (created : newQueue types = .ok q₀)
    {pre post : List (Call Obj × Option (KV Obj) × System Obj)} {c : Call Obj}
    {r : Option (KV Obj)}
    (run : Trans.Trace step (System.start q₀) (pre ++ (c, r, s') :: post)) :
    (Trans.last (System.start q₀) pre).Refines c r s' :=
  ((sound_run created run.at.1).1.step run.at.2.1).2

/-- Along every run of a queue made by `NewQueue`, the operations handed out whose callbacks
have not completed are for different objects: no object is reconciled by two workers at once. -/
theorem handedOut_distinct (created : newQueue types = .ok q₀)
    {steps : List (Call Obj × Option (KV Obj) × System Obj)}
    (run : Trans.Trace step (System.start q₀) steps) :
    ((Trans.last (System.start q₀) steps).handedOut.map (·.k)).Nodup :=
  (sound_run created run).1.distinct

/-- Along every run of a queue made by `NewQueue`, no key has an operation both waiting in the
priority queue and handed out, and changes are pending for a key only while it is handed out. -/
theorem views_wellFormed (created : newQueue types = .ok q₀)
    {steps : List (Call Obj × Option (KV Obj) × System Obj)}
    (run : Trans.Trace step (System.start q₀) steps) (k : Key) :
    ((Trans.last (System.start q₀) steps).view k).WellFormed :=
  (sound_run created run).2 k

/-- Along every run of a queue made by `NewQueue`, a `Next` that hands out an operation for the
key of an object enqueued before hands out that object, if no `Enqueue` of that key and no `Next`
handing the key out came in between: no change is lost. -/
theorem next_hands_out_latest (created : newQueue types = .ok q₀)
    {pre mid post : List (Call Obj × Option (KV Obj) × System Obj)} {eventKind : EventKind}
    {obj : Obj} {now later : Int} {r : Option (KV Obj)} {kv : KV Obj} {s₁ s₂ : System Obj}
    (run : Trans.Trace step (System.start q₀)
      (pre ++ (.enqueue eventKind obj now, r, s₁) :: (mid ++ (.next later, some kv, s₂) :: post)))
    (same : kv.k = Key.of obj) (quiet : ∀ e ∈ mid, ¬ e.1.Renews (Key.of obj) e.2.1) :
    kv.v.object = obj := by
  obtain ⟨before, enqueued, after⟩ := run.at
  obtain ⟨t₀, wf₀⟩ := sound_run created before
  obtain ⟨t₁, moved⟩ := t₀.step enqueued
  have wf₁ := moved.wellFormed wf₀
  obtain ⟨between, stepped, -⟩ := (Trans.trace_append s₁ mid _).mp after
  -- the `Enqueue` leaves its object held, and the calls in between keep it
  have held := holds_trace t₁ wf₁ (KeyState.holds_enqueue moved.1) between quiet
  obtain ⟨t₂, wf₂⟩ := sound_trace t₁ wf₁ between
  obtain ⟨waits, -, -⟩ := (t₂.step stepped).2
  rw [same] at waits
  rcases held with ⟨w, queued, object⟩ | ⟨w, pending, -⟩
  · rw [waits] at queued
    cases queued
    exact object
  · -- changes are pending only while the key is handed out, and then nothing waits for it
    have idle := (wf₂ (Key.of obj)).queued_idle ((wf₂ (Key.of obj)).pending_busy (by simp [pending]))
    rw [waits] at idle
    cases idle

end Run

theorem refines_run_sample :
    (Trans.last (System.start scheduledQueue) (scheduledRun.take 2)).Refines (.next 4)
      (some scheduledHead) (Trans.last (System.start scheduledQueue) (scheduledRun.take 3)) := by
  have created : newQueue [scheduledKind] = .ok scheduledQueue := rfl
  have run : Trans.Trace step (System.start scheduledQueue) scheduledRun := Trans.trace_runCalls _ _
  have split : scheduledRun = scheduledRun.take 2 ++
      (.next 4, some scheduledHead, Trans.last (System.start scheduledQueue) (scheduledRun.take 3)) ::
        scheduledRun.drop 3 := rfl
  rw [split] at run
  exact refines_run created run

theorem handedOut_distinct_sample :
    ((Trans.last (System.start scheduledQueue) scheduledRun).handedOut.map (·.k)).Nodup := by
  have created : newQueue [scheduledKind] = .ok scheduledQueue := rfl
  exact handedOut_distinct created (Trans.trace_runCalls _ _)

theorem views_wellFormed_sample :
    ((Trans.last (System.start scheduledQueue) scheduledRun).view scheduledHead.k).WellFormed := by
  have created : newQueue [scheduledKind] = .ok scheduledQueue := rfl
  exact views_wellFormed created (Trans.trace_runCalls _ _) scheduledHead.k

/-- The second `Enqueue` of the sample is handed out by the `Next` right after it. -/
theorem next_hands_out_latest_sample :
    scheduledHead.k = Key.of (⟨"b"⟩ : ScheduledObject) ∧ scheduledHead.v.object = ⟨"b"⟩ := by
  have created : newQueue [scheduledKind] = .ok scheduledQueue := rfl
  have run : Trans.Trace step (System.start scheduledQueue) scheduledRun := Trans.trace_runCalls _ _
  have split : scheduledRun = scheduledRun.take 1 ++
      (.enqueue .added ⟨"b"⟩ 3, none,
        Trans.last (System.start scheduledQueue) (scheduledRun.take 2)) ::
      ([] ++ (.next 4, some scheduledHead,
        Trans.last (System.start scheduledQueue) (scheduledRun.take 3)) :: scheduledRun.drop 3) :=
    rfl
  rw [split] at run
  exact ⟨rfl, next_hands_out_latest created run rfl (by simp)⟩

end System

end Autoscaling.Plugin.Reconcile
