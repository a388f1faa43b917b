import Autoscaling.Lib.JsonPointer
import Autoscaling.Plugin.Consistency

/-!
# When and how the plugin patches a VM

The plugin tells a VM what it reserved for the VM's pod by patching the VM's annotation of
approved resources, once the reconcile of the pod's reserved resources (`reconcilePodResources`)
asks for it. Every patch of a VM a reconcile handler sends is such a one (`step_patchVM`), and
each keeps the rules the source's comments give:

* of the reconciles, only a pod's patches a VM, and only once startup is done;
* not within `PatchRetryWaitSeconds` of the last patch recorded for the pod on its node, and the
  instant of the patch is recorded;
* the node then reserves for the pod no less than the patch approves, and no less than the pod's
  object showed, so that a patch that does not take effect leaves the old reservation standing;
* the patch tests only annotations the pod's object has, with the values it has, or creates the
  annotations of a VM that may have none, and last replaces the approved resources, under a path
  that a JSON pointer reads back as exactly that annotation (`annotationPath_tokens`).

`Patched` names what the reconcile guarantees; it is proved of `reconcilePodResources` once, and
carried up through `updateVMPod` and `updatePod` to the call. The permit handler patches VMs
too, outside the lock and whether startup is done or not (`vmPatchForAgentRequest`); its
patches are those of its own call, whose reply is not a reconcile's.
-/

namespace Autoscaling.Plugin

open Go State

/-! ### The paths of the patch -/

theorem pathEscape_eq (name : String) :
    pathEscape name = String.ofList (JsonPointer.escape name.toList) := rfl

/-- The path of an annotation is the JSON pointer to it in the object's metadata. -/
theorem annotationPath_toList (name : String) :
    (annotationPath name).toList =
      JsonPointer.render ["metadata".toList, "annotations".toList, name.toList] := by
  -- the two fixed tokens have nothing to escape
  have fixed : "/metadata/annotations/".toList =
      '/' :: JsonPointer.escape "metadata".toList ++ '/' :: JsonPointer.escape "annotations".toList ++
        ['/'] := by
    simp [JsonPointer.escape, JsonPointer.escapeChar]
  unfold annotationPath
  simp only [String.toList_append, pathEscape_eq, String.toList_ofList, fixed, JsonPointer.render,
    List.flatMap_cons, List.flatMap_nil, List.append_nil, List.nil_append, List.cons_append,
    List.append_assoc]

/-- Whatever the annotation's name, the path of the patch reads back, as a JSON pointer, as
exactly that annotation in the object's metadata. -/
theorem annotationPath_tokens (name : String) :
    JsonPointer.tokens (annotationPath name) = some ["metadata", "annotations", name] := by
  simp [JsonPointer.tokens, annotationPath_toList, JsonPointer.parse_render]

theorem annotationsPath_tokens :
    JsonPointer.tokens annotationsPath = some ["metadata", "annotations"] := by decide

/-! ### The patch -/

/-- The last operation of the patch: the approved resources replaced by those `newPod` reserves. -/
def approvedReplacement (env : Env) (newPod : Pod) : Operation :=
  ⟨.replace, annotationPath internalAnnotationResourcesApproved,
    .string (env.marshalResources
      ⟨UInt32.ofBitVec newPod.cpu.reserved, UInt64.ofBitVec newPod.mem.reserved⟩)⟩

/-- The patch of approved resources: a test of each annotation the pod's object has, of the two
the patch checks, with the value the object shows; then the replacement. -/
theorem reservedPatches_spec (env : Env) (oldPodObj : PodObject) (newPod : Pod) :
    ∃ tests, reservedPatches env oldPodObj newPod = tests ++ [approvedReplacement env newPod] ∧
      (∀ op ∈ tests, ∃ key value, op = ⟨.test, annotationPath key, .string value⟩ ∧
        oldPodObj.annotations key = some value) ∧
      (tests = [] ↔ oldPodObj.annotations annotationAutoscalingUnit = none ∧
        oldPodObj.annotations internalAnnotationResourcesRequested = none) := by
  unfold reservedPatches
  cases unit : oldPodObj.annotations annotationAutoscalingUnit <;>
    cases requested : oldPodObj.annotations internalAnnotationResourcesRequested
  case none.none => exact ⟨[], rfl, by simp, by simp⟩
  case none.some value =>
    refine ⟨_, rfl, ?_, by simp⟩
    intro op member
    obtain rfl : op = _ := by simpa using member
    exact ⟨_, _, rfl, requested⟩
  case some.none value =>
    refine ⟨_, rfl, ?_, by simp⟩
    intro op member
    obtain rfl : op = _ := by simpa using member
    exact ⟨_, _, rfl, unit⟩
  case some.some unitValue requestedValue =>
    refine ⟨_, rfl, ?_, by simp⟩
    intro op member
    simp only [List.singleton_append, List.mem_cons, List.not_mem_nil, or_false] at member
    rcases member with rfl | rfl
    · exact ⟨_, _, rfl, unit⟩
    · exact ⟨_, _, rfl, requested⟩

/-- What an operation before the replacement may be, for the pod's object `oldPodObj`: a test
that one of its annotations holds the value the object shows; or, when the object has none of
the three annotations, the test that the VM has no annotations, or their creation. -/
def PatchGuard (oldPodObj : PodObject) (op : Operation) : Prop :=
  (∃ key value, op = ⟨.test, annotationPath key, .string value⟩ ∧
      oldPodObj.annotations key = some value) ∨
    ((op = ⟨.test, annotationsPath, .null⟩ ∨ op = ⟨.add, annotationsPath, .emptyObject⟩) ∧
      oldPodObj.annotations annotationAutoscalingUnit = none ∧
      oldPodObj.annotations internalAnnotationResourcesRequested = none ∧
      oldPodObj.annotations internalAnnotationResourcesApproved = none)

/-- Every patch `patchReservedResourcesForPod` sends is of the VM of `newPod`, and is guards for
the pod's object and then the replacement of the approved resources by those `newPod`
reserves. -/
theorem patchReservedResourcesForPod_sent (env : Env) (oldPodObj : PodObject) (newPod : Pod)
    {vm : NamespacedName} {ops : List Operation}
    (sent : .patchVM vm ops ∈ (patchReservedResourcesForPod env oldPodObj newPod).1) :
    vm = newPod.virtualMachine ∧ ∃ guards, ops = guards ++ [approvedReplacement env newPod] ∧
      ∀ op ∈ guards, PatchGuard oldPodObj op := by
  obtain ⟨tests, patches, shown, noTests⟩ := reservedPatches_spec env oldPodObj newPod
  -- the patch of the normal path is the tests and the replacement
  have normal : ∃ guards, reservedPatches env oldPodObj newPod =
      guards ++ [approvedReplacement env newPod] ∧ ∀ op ∈ guards, PatchGuard oldPodObj op :=
    ⟨tests, patches, fun op member => .inl (shown op member)⟩
  unfold patchReservedResourcesForPod at sent
  dsimp only at sent
  split at sent
  · next unknown =>
    -- no annotation the patch tests or replaces: the add path's patch is two operations on the
    -- annotations field, and then the normal path's patch, which is the replacement alone
    simp only [Bool.not_or, Bool.and_eq_true, Bool.not_eq_true', decide_eq_false_iff_not,
      not_lt, Option.isSome_eq_false_iff, Option.isNone_iff_eq_none, patches,
      List.length_append, List.length_singleton] at unknown
    obtain ⟨short, approved⟩ := unknown
    have none : tests = [] := List.eq_nil_of_length_eq_zero (by omega)
    obtain ⟨unit, requested⟩ := noTests.mp none
    have added : ∃ guards, [⟨.test, annotationsPath, .null⟩, ⟨.add, annotationsPath, .emptyObject⟩] ++
        (reservedPatches env oldPodObj newPod).take 1 = guards ++ [approvedReplacement env newPod] ∧
        ∀ op ∈ guards, PatchGuard oldPodObj op := by
      refine ⟨[⟨.test, annotationsPath, .null⟩, ⟨.add, annotationsPath, .emptyObject⟩],
        by rw [patches, none]; rfl, fun op member => .inr ⟨?_, unit, requested, approved⟩⟩
      simpa using member
    split at sent
    · simp only [List.mem_singleton, Request.patchVM.injEq] at sent
      obtain ⟨rfl, rfl⟩ := sent
      exact ⟨rfl, added⟩
    split at sent
    · simp only [patchNormally, List.mem_cons, Request.patchVM.injEq, List.not_mem_nil,
        or_false] at sent
      rcases sent with ⟨rfl, rfl⟩ | ⟨rfl, rfl⟩
      · exact ⟨rfl, added⟩
      · exact ⟨rfl, normal⟩
    · simp only [List.mem_singleton, Request.patchVM.injEq] at sent
      obtain ⟨rfl, rfl⟩ := sent
      exact ⟨rfl, added⟩
  · simp only [patchNormally, List.mem_singleton, Request.patchVM.injEq] at sent
    obtain ⟨rfl, rfl⟩ := sent
    exact ⟨rfl, normal⟩

/-! ### The reconcile that asks for the patch -/

/-- `reconcilePod` changes only the pod's reserved amount. -/
theorem State.NodeResources.reconcilePod_pod {w : Nat} {r r' : NodeResources w}
    {p p' : PodResources w} {migrating done : Bool}
    (reconciled : r.reconcilePod p migrating = .ok (r', p', done)) :
    ∃ reserved, p' = { p with reserved } := by
  unfold NodeResources.reconcilePod at reconciled
  split at reconciled
  · simp only [pure_eq_ok, Prod.mk.injEq] at reconciled
    exact ⟨p.reserved, reconciled.2.1.symm⟩
  split at reconciled
  · -- a decrease to what is requested
    obtain ⟨r₁, -, rest⟩ := bind_eq_ok.mp reconciled
    obtain ⟨r₂, -, rest⟩ := bind_eq_ok.mp rest
    simp only [pure_eq_ok, Prod.mk.injEq] at rest
    exact ⟨p.requested, rest.2.1.symm⟩
  obtain ⟨q, -, rest⟩ := bind_eq_ok.mp reconciled
  simp only at rest
  generalize (if q * p.factor ≤ p.requested - p.reserved then q * p.factor
    else p.requested - p.reserved) = increase at rest
  split at rest
  · obtain ⟨r₁, -, rest⟩ := bind_eq_ok.mp rest
    obtain ⟨r₃, -, rest⟩ := bind_eq_ok.mp rest
    simp only [pure_bind, pure_eq_ok, Prod.mk.injEq] at rest
    exact ⟨p.reserved + increase, rest.2.1.symm⟩
  · simp only [pure_bind, pure_eq_ok, Prod.mk.injEq] at rest
    exact ⟨p.reserved, rest.2.1.symm⟩

/-- `ReconcilePodReserved` changes only the pod's reserved amounts. -/
theorem State.Node.reconcilePodReserved_pod {n n' : Node} {pod pod' : Pod} {done : Bool}
    (reconciled : n.reconcilePodReserved pod = .ok (n', pod', done)) :
    ∃ cpu mem, pod' =
      { pod with
        cpu := { pod.cpu with reserved := cpu }
        mem := { pod.mem with reserved := mem } } := by
  obtain ⟨_, podCPU, _, _, podMem, _, cpuReconciled, memReconciled, rfl, -⟩ :=
    Node.reconcilePodReserved_eq_ok reconciled
  obtain ⟨cpu, rfl⟩ := NodeResources.reconcilePod_pod cpuReconciled
  obtain ⟨mem, rfl⟩ := NodeResources.reconcilePod_pod memReconciled
  exact ⟨cpu, mem, rfl⟩

/-- `keepReserved` reserves no less than the old pod and the reconciled one. -/
theorem le_keepReserved (oldPod desiredPod : Pod) :
    oldPod.cpu.reserved ≤ (keepReserved oldPod desiredPod).cpu.reserved ∧
      desiredPod.cpu.reserved ≤ (keepReserved oldPod desiredPod).cpu.reserved ∧
      oldPod.mem.reserved ≤ (keepReserved oldPod desiredPod).mem.reserved ∧
      desiredPod.mem.reserved ≤ (keepReserved oldPod desiredPod).mem.reserved := by
  simp only [keepReserved]
  refine ⟨?_, ?_, ?_, ?_⟩ <;> split <;> bv_omega

/-- The retry time reads only the configuration and the node state's record of patches. -/
theorem canRetryAt_congr {s s' : PluginState} {ns ns' : NodeState} (config : s'.config = s.config)
    (patchedAt : ns'.podsVMPatchedAt = ns.podsVMPatchedAt) (uid : String) (now : Int) :
    canRetryAt s' ns' uid now = canRetryAt s ns uid now := by
  unfold canRetryAt
  rw [config, patchedAt]

/-- What holds of a reconcile that asks to patch the VM of the pod `oldPod`, stored in `ns` under
`nodeName` in `s`, to the reservations of `desiredPod`, in the state `s'` it leaves: startup is
done, the pod's retry time has come, the reconciled pod differs from the old one in its
reservations only, and the node stores the pod with the larger of the old and the reconciled
reservations, with the instant of the patch recorded beside the other pods' records. -/
structure Patched (s : PluginState) (nodeName : String) (ns : NodeState) (oldPod desiredPod : Pod)
    (now : Int) (s' : PluginState) : Prop where
  started : s.startupDone = true
  due : Time.before now (canRetryAt s ns oldPod.uid now) = false
  reconciled : ∃ cpu mem, desiredPod =
    { oldPod with
      cpu := { oldPod.cpu with reserved := cpu }
      mem := { oldPod.mem with reserved := mem } }
  stored : ∃ ns', s'.nodes.lookup nodeName = some ns' ∧
    ns'.podsVMPatchedAt = ns.podsVMPatchedAt.insert oldPod.uid now ∧
    ns'.node.pods.view oldPod.uid = some (keepReserved oldPod desiredPod)

/-- `Patched` of a state and a node state that differ from `s` and `ns` only in what the
reconcile does not read. -/
theorem Patched.congr {s₁ s s' : PluginState} {nodeName : String} {ns₁ ns : NodeState}
    {oldPod desiredPod : Pod} {now : Int} (patched : Patched s₁ nodeName ns₁ oldPod desiredPod now s')
    (startupDone : s₁.startupDone = s.startupDone) (config : s₁.config = s.config)
    (patchedAt : ns₁.podsVMPatchedAt = ns.podsVMPatchedAt) :
    Patched s nodeName ns oldPod desiredPod now s' where
  started := startupDone ▸ patched.started
  due := canRetryAt_congr config patchedAt oldPod.uid now ▸ patched.due
  reconciled := patched.reconciled
  stored := patchedAt ▸ patched.stored

/-- When `reconcilePodResources` asks to patch the VM, it is to the reconciled pod, for the pod's
object it was given, and `Patched` holds. -/
theorem reconcilePodResources_patch {s : PluginState} {nodeName : String} {ns : NodeState}
    {oldPodObj o : PodObject} {oldPod d : Pod} {now : Int} {r : PodUpdateResult}
    (held : ns.node.pods.view oldPod.uid = some oldPod)
    (reconciled : (reconcilePodResources s nodeName ns oldPodObj oldPod now).result = .ok (some r))
    (after : r.afterUnlock = some (.patchReservedResourcesForPod o d)) :
    o = oldPodObj ∧ Patched s nodeName ns oldPod d now
      (reconcilePodResources s nodeName ns oldPodObj oldPod now).state := by
  unfold reconcilePodResources at reconciled ⊢
  split at reconciled
  · cases reconciled
  next enabled =>
  split at reconciled
  · cases reconciled
  next tmp desiredPod needsMore speculated =>
  dsimp only at reconciled ⊢
  split at reconciled
  · cases reconciled
  next started =>
  -- the two early results ask for nothing after the lock
  split at reconciled
  · cases reconciled
    cases after
  next changed =>
  split at reconciled
  · cases reconciled
    cases after
  next due =>
  split at reconciled
  · cases reconciled
  next node stored =>
  cases reconciled
  cases after
  rw [if_neg enabled, if_neg started, if_neg changed, if_neg due]
  -- the reconciled pod is the old one with the reservations the tentative node granted
  have desired : ∃ cpu mem, d =
      { oldPod with
        cpu := { oldPod.cpu with reserved := cpu }
        mem := { oldPod.mem with reserved := mem } } := by
    obtain ⟨t, c, modified, -⟩ := Node.speculativelyWith_spec speculated
    obtain ⟨⟨n', d', done⟩, ran, returned⟩ := bind_eq_ok.mp modified
    obtain ⟨-, -, rfl, -⟩ := pure_eq_ok.mp returned
    exact Node.reconcilePodReserved_pod ran
  -- the node is the old one, which holds the pod, or the one a committed `UpdatePod` left
  have view : node.pods.view oldPod.uid = some (keepReserved oldPod d) := by
    split at stored
    · next same =>
      obtain rfl := pure_eq_ok.mp stored
      rw [held, same]
    · obtain ⟨⟨n', commit⟩, ran, rfl⟩ := map_eq_ok.mp stored
      obtain ⟨-, t, b, updated, pods, -⟩ := Node.speculatively_fst ran
      obtain ⟨sameUID, updatedView⟩ := Node.updatePod_pods_view updated
      rw [pods, updatedView, ← sameUID, Function.update_self]
  refine ⟨rfl, ⟨by simpa using started, by simpa using due, desired, ?_⟩⟩
  exact ⟨_, AList.lookup_insert _, rfl, view⟩

theorem reconcileUnlessMigrating_patch {s : PluginState} {nodeName : String} (ns : NodeState)
    {pod o : PodObject} {newPod d : Pod} {now : Int} {r : PodUpdateResult}
    (held : ns.node.pods.view newPod.uid = some newPod)
    (reconciled :
      (reconcileUnlessMigrating s nodeName ns pod newPod now).result = .ok (some r))
    (after : r.afterUnlock = some (.patchReservedResourcesForPod o d)) :
    o = pod ∧ Patched s nodeName ns newPod d now
      (reconcileUnlessMigrating s nodeName ns pod newPod now).state := by
  unfold reconcileUnlessMigrating at reconciled ⊢
  split
  · next notMigrating =>
    rw [if_pos notMigrating] at reconciled
    exact reconcilePodResources_patch held reconciled after
  · next migrating =>
    rw [if_neg migrating] at reconciled
    cases reconciled

/-- A VM patch that `updateVMPod` asks for is the reconcile's: a migration request of the pod, if
any, is forgotten first, which the reconcile does not read. -/
theorem updateVMPod_patch {s : PluginState} {nodeName : String} (ns : NodeState)
    {pod o : PodObject} {newPod d : Pod} {now : Int} {r : PodUpdateResult}
    (held : ns.node.pods.view newPod.uid = some newPod)
    (updated : (updateVMPod s nodeName ns pod newPod now).result = .ok (some r))
    (after : r.afterUnlock = some (.patchReservedResourcesForPod o d)) :
    o = pod ∧ Patched s nodeName ns newPod d now (updateVMPod s nodeName ns pod newPod now).state := by
  unfold updateVMPod at updated ⊢
  split at updated
  · cases updated
  next ours =>
  rw [if_neg ours]
  split at updated
  · split at updated
    · next forget =>
      rw [if_pos forget]
      obtain ⟨rfl, patched⟩ := reconcileUnlessMigrating_patch
        { ns with requestedMigrations := ns.requestedMigrations.erase newPod.uid } held updated after
      exact ⟨rfl, patched.congr rfl rfl rfl⟩
    · -- the migration is created instead
      cases updated
      cases after
  · exact reconcileUnlessMigrating_patch ns held updated after

/-- When `updatePod` asks to patch a VM, it is for the pod's object it was given, and `Patched`
holds of the pod's state extracted from the object, on the node state the state holds. -/
theorem updatePod_patch {env : Env} {s : PluginState} {pod o : PodObject} {now : Int}
    {r : PodUpdateResult} {err : Option String} {d : Pod}
    (updated : (updatePod env s pod now).result = .ok (some r, err))
    (after : r.afterUnlock = some (.patchReservedResourcesForPod o d)) :
    o = pod ∧ ∃ newPod nodeName ns, podStateFromK8sObj env.unmarshal pod.toK8sPod = .ok newPod ∧
      s.nodes.lookup nodeName = some ns ∧
      Patched s nodeName ns newPod d now (updatePod env s pod now).state := by
  unfold updatePod at updated ⊢
  split at updated
  · cases updated
  · cases updated
  next newPod extracted =>
  replace extracted := podStateOrPanic_eq_ok_ok.mp extracted
  dsimp only at updated ⊢
  split at updated
  · cases updated
  next notMoved =>
  rw [if_neg notMoved]
  -- forgetting the pod's tentative scheduling changes nothing the reconcile reads
  generalize s₁def : (if s.tentativelyScheduled.lookup pod.uid = some pod.nodeName then
      { s with tentativelyScheduled := s.tentativelyScheduled.erase pod.uid } else s) = s₁
    at updated ⊢
  have same : s₁.nodes = s.nodes ∧ s₁.startupDone = s.startupDone ∧ s₁.config = s.config := by
    rw [← s₁def]
    split <;> exact ⟨rfl, rfl, rfl⟩
  split at updated
  · cases updated
  next scheduled =>
  rw [if_neg scheduled]
  split at updated
  · cases updated
  next ns found =>
  split at updated
  · cases updated
  next node commit stored =>
  obtain ⟨r', vmUpdated, returned⟩ := map_eq_ok.mp updated
  obtain rfl := (Prod.mk.inj returned).1
  -- the node state holds the pod's state just stored
  have held : node.pods.view newPod.uid = some newPod := by
    rw [(storePod_spec stored).2.2, Function.update_self]
  obtain ⟨rfl, patched⟩ := updateVMPod_patch { ns with node } held vmUpdated after
  refine ⟨rfl, newPod, _, ns, extracted, same.1 ▸ found, patched.congr ?_ ?_ rfl⟩
  · exact same.2.1
  · exact same.2.2

/-! ### Which calls patch a VM -/

/-- The reconcile of reserved resources makes no request under the lock. -/
theorem reconcilePodResources_requests (s : PluginState) (nodeName : String) (ns : NodeState)
    (oldPodObj : PodObject) (oldPod : Pod) (now : Int) :
    (reconcilePodResources s nodeName ns oldPodObj oldPod now).requests = [] := by
  unfold reconcilePodResources
  dsimp only
  repeat' split
  all_goals rfl

theorem updateVMPod_requests (s : PluginState) (nodeName : String) (ns : NodeState)
    (pod : PodObject) (newPod : Pod) (now : Int) :
    (updateVMPod s nodeName ns pod newPod now).requests = [] := by
  unfold updateVMPod reconcileUnlessMigrating
  repeat' split
  all_goals first | rfl | exact reconcilePodResources_requests _ _ _ _ _ _

/-- Under the lock, a pod's update only requeues its node. -/
theorem updatePod_requests (env : Env) (s : PluginState) (pod : PodObject) (now : Int) :
    ∀ req ∈ (updatePod env s pod now).requests, ∃ nodeName, req = .requeueNode nodeName := by
  intro req member
  unfold updatePod at member
  dsimp only at member
  repeat' split at member
  all_goals simp [updateVMPod_requests] at member
  all_goals exact ⟨_, member⟩

theorem deletePod_requests (s : PluginState) (pod : PodObject) :
    ∀ req ∈ (deletePod s pod).requests, ∃ nodeName, req = .requeueNode nodeName := by
  intro req member
  unfold deletePod at member
  dsimp only at member
  repeat' split at member
  all_goals simp at member
  all_goals exact ⟨_, member⟩

/-- A pod event's handler patches a VM only as the patch `updatePod` asked for, and leaves the
state `updatePod` left. -/
theorem handlePodEvent_patchVM {env : Env} {s : PluginState} {kind : Reconcile.EventKind}
    {pod : PodObject} {now : Int} {vm : NamespacedName} {ops : List Operation}
    (patched : .patchVM vm ops ∈ (handlePodEvent env s kind pod now).requests) :
    ∃ r o d, (updatePod env s pod now).result = .ok (some r, none) ∧
      r.afterUnlock = some (.patchReservedResourcesForPod o d) ∧
      .patchVM vm ops ∈ (patchReservedResourcesForPod env o d).1 ∧
      (handlePodEvent env s kind pod now).state = (updatePod env s pod now).state := by
  -- a request made under the lock is a requeue
  have locked : .patchVM vm ops ∉ (updatePod env s pod now).requests := fun member => by
    obtain ⟨_, requeue⟩ := updatePod_requests env s pod now _ member
    cases requeue
  unfold handlePodEvent at patched ⊢
  split at patched
  · cases patched
  next notIgnored =>
  rw [if_neg notIgnored]
  cases kind
  case deleted | ephemeral =>
    obtain ⟨_, requeue⟩ := deletePod_requests s pod _ patched
    cases requeue
  all_goals
    dsimp only at patched ⊢
    split at patched
    · exact absurd patched locked
    next updateResult err updated =>
    split at patched
    · exact absurd patched locked
    next noError =>
    split at patched
    · exact absurd patched locked
    next r =>
    obtain rfl : err = none := by simpa using noError
    -- what runs after the lock: nothing, the creation of a migration, or the patch
    cases after : r.afterUnlock with
    | none =>
      simp only [after] at patched
      repeat' split at patched
      all_goals simp only [List.append_nil] at patched; exact absurd patched locked
    | some a =>
      cases a with
      | createMigrationForPod p =>
        simp only [after, AfterUnlock.run, createMigrationForPod] at patched
        repeat' split at patched
        all_goals simp only [List.mem_append, List.mem_singleton, reduceCtorEq, or_false] at patched; exact absurd patched locked
      | patchReservedResourcesForPod o d =>
        simp only [after, AfterUnlock.run] at patched
        refine ⟨r, o, d, updated, after, ?_, ?_⟩
        · repeat' split at patched
          all_goals exact (List.mem_append.mp patched).resolve_left locked
        · repeat' split
          all_goals rfl

/-- On a `balanceNode` that returns, what its callback did is what it returns, so both branches
of `reconcileNode` keep the callback's requeues and records alike. -/
theorem balanceNodeUntilStop_of_ok {env : Env} {ns : NodeState} {err : Option String}
    {requests : List Request} {requestedMigrations : GoMap String Unit}
    (balanced : balanceNode env ns = .ok (err, requests, requestedMigrations)) :
    balanceNodeUntilStop env ns = (requests, requestedMigrations) := by
  unfold balanceNode at balanced
  obtain ⟨⟨result, err', st⟩, speculated, returned⟩ := bind_eq_ok.mp balanced
  obtain ⟨tmp, commit, modified⟩ := Node.speculativelyWith_set speculated
  -- the callback hands back the loop's variables as `triggerMigrationsIfNecessary` left them
  obtain ⟨⟨e, st'⟩, triggered, back⟩ := bind_eq_ok.mp modified
  simp only [pure_eq_ok, Prod.mk.injEq] at back returned
  obtain ⟨-, -, -, rfl⟩ := back
  obtain ⟨-, rfl, rfl⟩ := returned
  unfold balanceNodeUntilStop
  rw [triggerMigrationsRequested_of_ok triggered]

/-- Whether `balanceNode` panics or returns, `reconcileNode` keeps what its callback did: the
requeues, and the node state's migration requests with the pods requeued. -/
theorem reconcileNode_keeps_callback (env : Env) (s : PluginState) (nodeName : String)
    (ns : NodeState) :
    (reconcileNode env s nodeName ns).requests = (balanceNodeUntilStop env ns).1 ∧
      (reconcileNode env s nodeName ns).state = { s with
        nodes := s.nodes.insert nodeName
          { ns with requestedMigrations := (balanceNodeUntilStop env ns).2 } } := by
  unfold reconcileNode
  split
  · exact ⟨rfl, rfl⟩
  · next balanced => rw [balanceNodeUntilStop_of_ok balanced]; exact ⟨rfl, rfl⟩

/-- The callback of `balanceNode` only requeues the pods whose migration it requests. -/
theorem balanceNodeUntilStop_requests (env : Env) (ns : NodeState) :
    ∀ req ∈ (balanceNodeUntilStop env ns).1, ∃ uid, req = .requeuePod uid := by
  intro req member
  obtain ⟨pod, -, rfl⟩ := List.mem_map.mp member
  exact ⟨_, rfl⟩

/-- A node event's handler only requeues pods. -/
theorem nodeHandler_requests (env : Env) (s : PluginState) (kind : Reconcile.EventKind)
    (node : K8sNode) : ∀ req ∈ (nodeHandler env s kind node).requests, ∃ uid, req = .requeuePod uid := by
  -- every way through ends in `reconcileNode`, or makes no request
  have reconciled : ∀ (s : PluginState) (nodeName : String) (ns : NodeState),
      ∀ req ∈ (reconcileNode env s nodeName ns).requests, ∃ uid, req = .requeuePod uid := by
    intro s nodeName ns req member
    rw [(reconcileNode_keeps_callback env s nodeName ns).1] at member
    exact balanceNodeUntilStop_requests env ns req member
  intro req member
  simp only [nodeHandler, handleNodeEvent] at member
  split at member
  · unfold updateNode at member
    repeat' split at member
    all_goals first | cases member | exact reconciled _ _ _ req member
  · unfold updateNode at member
    repeat' split at member
    all_goals first | cases member | exact reconciled _ _ _ req member
  · cases member
  · cases member

/-- Every patch of a VM a reconcile handler makes is made by the handler of a pod event, as the
patch the reconcile of the pod's reserved resources asked for, with `Patched` of the state the call was
made in and the state it left. -/
theorem step_patchVM {s s' : PluginState} {env : Env} {call : PluginCall}
    {requests : List Request} {out : Reconcile.Outcome} {vm : NamespacedName}
    {ops : List Operation}
    (stepped : s.step (env, call) = .ok (.reconciled requests out, s'))
    (patched : .patchVM vm ops ∈ requests) :
    ∃ kind pod now d newPod nodeName ns, call = .podEvent kind pod now ∧
      podStateFromK8sObj env.unmarshal pod.toK8sPod = .ok newPod ∧ s.nodes.lookup nodeName = some ns ∧
      Patched s nodeName ns newPod d now s' ∧
      .patchVM vm ops ∈ (patchReservedResourcesForPod env pod d).1 := by
  cases call with
  | reserve pod nodeName =>
    obtain ⟨_, -, replied⟩ := map_eq_ok.mp stepped
    cases replied
  | unreserve pod nodeName =>
    obtain ⟨_, -, replied⟩ := map_eq_ok.mp stepped
    cases replied
  | podEvent kind pod now =>
    obtain ⟨replied, rfl⟩ := Prod.mk.inj (pure_eq_ok.mp stepped)
    obtain ⟨rfl, -⟩ := PluginReply.reconciled.inj replied
    obtain ⟨r, o, d, updated, after, sent, state⟩ := handlePodEvent_patchVM patched
    obtain ⟨rfl, newPod, nodeName, ns, extracted, found, done⟩ := updatePod_patch updated after
    refine ⟨kind, o, now, d, newPod, nodeName, ns, rfl, extracted, found, ?_, sent⟩
    simpa only [podHandler, state] using done
  | nodeEvent kind node =>
    obtain ⟨replied, -⟩ := Prod.mk.inj (pure_eq_ok.mp stepped)
    obtain ⟨rfl, -⟩ := PluginReply.reconciled.inj replied
    obtain ⟨_, requeue⟩ := nodeHandler_requests env s kind node _ patched
    cases requeue
  | finishStartup =>
    obtain ⟨replied, -⟩ := Prod.mk.inj (pure_eq_ok.mp stepped)
    cases replied
  | permit watch marshalResponse method body =>
    obtain ⟨replied, -⟩ := Prod.mk.inj (pure_eq_ok.mp stepped)
    cases replied

/-! ### What every patch of a VM keeps -/

section Step

variable {s s' : PluginState} {env : Env} {call : PluginCall} {requests : List Request}
  {out : Reconcile.Outcome} {vm : NamespacedName} {ops : List Operation}

/-- In any call, a VM is patched only by the handler of a pod event, and only if no patch of the
pod recorded on its node is less than `PatchRetryWaitSeconds` old; the instant of the patch is
then recorded, and the records of the other pods are kept. -/
theorem vm_patch_waits_for_retry
    (stepped : s.step (env, call) = .ok (.reconciled requests out, s'))
    (patched : .patchVM vm ops ∈ requests) :
    ∃ kind pod now nodeName ns ns', call = .podEvent kind pod now ∧
      s.nodes.lookup nodeName = some ns ∧
      (∀ lastPatch, ns.podsVMPatchedAt.lookup pod.uid = some lastPatch →
        ¬ now < Time.add lastPatch (second * s.config.patchRetryWaitSeconds)) ∧
      s'.nodes.lookup nodeName = some ns' ∧
      ns'.podsVMPatchedAt = ns.podsVMPatchedAt.insert pod.uid now := by
  obtain ⟨kind, pod, now, d, newPod, nodeName, ns, rfl, extracted, found, done, -⟩ :=
    step_patchVM stepped patched
  have sameUID := podStateFromK8sObj_uid extracted
  obtain ⟨ns', stored, patchedAt, -⟩ := done.stored
  refine ⟨kind, pod, now, nodeName, ns, ns', rfl, found, ?_, stored, sameUID ▸ patchedAt⟩
  intro lastPatch recorded early
  -- the retry time of a pod patched before is `PatchRetryWaitSeconds` after that patch
  have due := done.due
  rw [canRetryAt, sameUID, recorded] at due
  simp [Time.before, early] at due

/-- In any call, the approved resources a VM is patched to are no more than the node then reserves
for the VM's pod; nor does the node reserve less than the pod's object showed, so that a patch that
does not take effect leaves the old reservation standing. -/
theorem vm_approval_within_reserved
    (stepped : s.step (env, call) = .ok (.reconciled requests out, s'))
    (patched : .patchVM vm ops ∈ requests) :
    ∃ kind pod now newPod d nodeName ns' p, call = .podEvent kind pod now ∧
      podStateFromK8sObj env.unmarshal pod.toK8sPod = .ok newPod ∧ vm = newPod.virtualMachine ∧
      ops.getLast? = some (approvedReplacement env d) ∧
      s'.nodes.lookup nodeName = some ns' ∧ ns'.node.pods.view pod.uid = some p ∧
      d.cpu.reserved ≤ p.cpu.reserved ∧ d.mem.reserved ≤ p.mem.reserved ∧
      newPod.cpu.reserved ≤ p.cpu.reserved ∧ newPod.mem.reserved ≤ p.mem.reserved := by
  obtain ⟨kind, pod, now, d, newPod, nodeName, ns, rfl, extracted, -, done, sent⟩ :=
    step_patchVM stepped patched
  obtain ⟨rfl, guards, rfl, -⟩ := patchReservedResourcesForPod_sent env pod d sent
  obtain ⟨ns', stored, -, view⟩ := done.stored
  -- the reconciled pod is the pod's state with other reservations, so of the same VM
  obtain ⟨cpu, mem, reconciled⟩ := done.reconciled
  obtain ⟨oldCPU, desiredCPU, oldMem, desiredMem⟩ := le_keepReserved newPod d
  refine ⟨kind, pod, now, newPod, d, nodeName, ns', _, rfl, extracted, by rw [reconciled],
    by simp, stored, podStateFromK8sObj_uid extracted ▸ view, desiredCPU, desiredMem, oldCPU,
    oldMem⟩

/-- In any call, a patch of a VM touches only the VM's annotations: it tests annotations the pod's
object has, with the values it has, or creates the annotations of a VM whose pod shows none of
the three, and last replaces the approved resources. -/
theorem vm_patch_touches_annotations
    (stepped : s.step (env, call) = .ok (.reconciled requests out, s'))
    (patched : .patchVM vm ops ∈ requests) :
    ∃ kind pod now d guards, call = .podEvent kind pod now ∧
      ops = guards ++ [approvedReplacement env d] ∧ (∀ op ∈ guards, PatchGuard pod op) ∧
      ∀ op ∈ ops, ∃ rest, JsonPointer.tokens op.path = some ("metadata" :: "annotations" :: rest) := by
  obtain ⟨kind, pod, now, d, -, -, -, rfl, -, -, -, sent⟩ := step_patchVM stepped patched
  obtain ⟨-, guards, rfl, guarded⟩ := patchReservedResourcesForPod_sent env pod d sent
  refine ⟨kind, pod, now, d, guards, rfl, rfl, guarded, fun op member => ?_⟩
  rcases List.mem_append.mp member with guard | last
  · rcases guarded op guard with ⟨key, value, rfl, -⟩ | ⟨rfl | rfl, -⟩
    · exact ⟨[key], annotationPath_tokens key⟩
    · exact ⟨[], annotationsPath_tokens⟩
    · exact ⟨[], annotationsPath_tokens⟩
  · obtain rfl := List.mem_singleton.mp last
    exact ⟨[internalAnnotationResourcesApproved], annotationPath_tokens _⟩

end Step

/-! ### A sample patch -/

/-- A cluster that decodes the resources annotation of a VM pod as one CPU and one slot of 1 GiB,
no other annotation, and answers every request. -/
def sampleVMEnv : Env where
  unmarshal := ⟨fun _ => throw "", fun _ => pure ⟨1000, 1, ⟨1073741824, 1073741824000⟩⟩,
    fun _ => throw ""⟩
  marshalResources := fun _ => "{}"
  sortFunc := id
  podStored := fun _ => true
  createMigration := fun _ => none
  patchVM := fun _ _ => none

/-- The pod of the autoscaling-enabled VM "vm", with the resources annotation only, scheduled on
`nodeName`. -/
def sampleVMPod (nodeName : String) : PodObject :=
  { «namespace» := "default", name := "vm-pod", uid := "vm-pod-uid", creationTimestamp := 0,
    ownerReferences := [⟨schemeGroupVersion, "VirtualMachine", "vm", some true⟩],
    labels := fun label => if label = labelEnableAutoscaling then some "true" else none,
    annotations := fun key => if key = virtualMachineResourcesAnnotation then some "{}" else none,
    containers := [], nodeName, schedulerName := "autoscale-scheduler" }

/-- A node, the end of startup, and the VM pod's event: its VM lacks the approved resources, so
the reconcile patches it, through the path that creates the annotations. -/
def patchedRun : List ((Env × PluginCall) × PluginReply × PluginState) :=
  Trans.runCalls PluginState.step (newPluginState sampleConfig [])
    [(sampleVMEnv, .nodeEvent .added (sampleNode "a")), (sampleVMEnv, .finishStartup),
      (sampleVMEnv, .podEvent .added (sampleVMPod "a") 0)]

/-- The patch the sample's reconcile sends. -/
def samplePatch : List Operation :=
  [⟨.test, annotationsPath, .null⟩, ⟨.add, annotationsPath, .emptyObject⟩,
    ⟨.replace, annotationPath internalAnnotationResourcesApproved, .string "{}"⟩]

/-- The requests of the sample's pod event: the node requeued under the lock, and the patch. -/
def sampleRequests : List Request := [.requeueNode "a", .patchVM ⟨"default", "vm"⟩ samplePatch]

/-- The state the pod event is handled in, and the one it leaves. -/
def beforePatch : PluginState := Trans.last (newPluginState sampleConfig []) (patchedRun.take 2)

def afterPatch : PluginState := Trans.last (newPluginState sampleConfig []) patchedRun

theorem patchedRun_step :
    beforePatch.step (sampleVMEnv, .podEvent .added (sampleVMPod "a") 0) =
      .ok (.reconciled sampleRequests (.ok (⟨0⟩, none)), afterPatch) := by
  have split : patchedRun = patchedRun.take 2 ++
      [((sampleVMEnv, .podEvent .added (sampleVMPod "a") 0),
        .reconciled sampleRequests (.ok (⟨0⟩, none)), afterPatch)] := rfl
  have run : Trans.Trace PluginState.step (newPluginState sampleConfig []) patchedRun :=
    Trans.trace_runCalls _ _
  rw [split] at run
  exact run.at.2.1

theorem samplePatch_sent : Request.patchVM ⟨"default", "vm"⟩ samplePatch ∈ sampleRequests :=
  List.mem_cons_of_mem _ (List.mem_singleton_self _)

theorem vm_patch_waits_for_retry_sample :
    beforePatch.step (sampleVMEnv, .podEvent .added (sampleVMPod "a") 0) =
        .ok (.reconciled sampleRequests (.ok (⟨0⟩, none)), afterPatch) ∧
      Request.patchVM ⟨"default", "vm"⟩ samplePatch ∈ sampleRequests ∧
      ∃ kind pod now nodeName ns ns',
        PluginCall.podEvent .added (sampleVMPod "a") 0 = .podEvent kind pod now ∧
        beforePatch.nodes.lookup nodeName = some ns ∧
        (∀ lastPatch, ns.podsVMPatchedAt.lookup pod.uid = some lastPatch →
          ¬ now < Time.add lastPatch (second * beforePatch.config.patchRetryWaitSeconds)) ∧
        afterPatch.nodes.lookup nodeName = some ns' ∧
        ns'.podsVMPatchedAt = ns.podsVMPatchedAt.insert pod.uid now :=
  ⟨patchedRun_step, samplePatch_sent, vm_patch_waits_for_retry patchedRun_step samplePatch_sent⟩

theorem vm_approval_within_reserved_sample :
    beforePatch.step (sampleVMEnv, .podEvent .added (sampleVMPod "a") 0) =
        .ok (.reconciled sampleRequests (.ok (⟨0⟩, none)), afterPatch) ∧
      Request.patchVM ⟨"default", "vm"⟩ samplePatch ∈ sampleRequests ∧
      ∃ kind pod now newPod d nodeName ns' p,
        PluginCall.podEvent .added (sampleVMPod "a") 0 = .podEvent kind pod now ∧
        podStateFromK8sObj sampleVMEnv.unmarshal pod.toK8sPod = .ok newPod ∧
        (⟨"default", "vm"⟩ : NamespacedName) = newPod.virtualMachine ∧
        samplePatch.getLast? = some (approvedReplacement sampleVMEnv d) ∧
        afterPatch.nodes.lookup nodeName = some ns' ∧ ns'.node.pods.view pod.uid = some p ∧
        d.cpu.reserved ≤ p.cpu.reserved ∧ d.mem.reserved ≤ p.mem.reserved ∧
        newPod.cpu.reserved ≤ p.cpu.reserved ∧ newPod.mem.reserved ≤ p.mem.reserved :=
  ⟨patchedRun_step, samplePatch_sent,
    vm_approval_within_reserved patchedRun_step samplePatch_sent⟩

theorem vm_patch_touches_annotations_sample :
    beforePatch.step (sampleVMEnv, .podEvent .added (sampleVMPod "a") 0) =
        .ok (.reconciled sampleRequests (.ok (⟨0⟩, none)), afterPatch) ∧
      Request.patchVM ⟨"default", "vm"⟩ samplePatch ∈ sampleRequests ∧
      ∃ kind pod now d guards,
        PluginCall.podEvent .added (sampleVMPod "a") 0 = .podEvent kind pod now ∧
        samplePatch = guards ++ [approvedReplacement sampleVMEnv d] ∧
        (∀ op ∈ guards, PatchGuard pod op) ∧
        ∀ op ∈ samplePatch, ∃ rest,
          JsonPointer.tokens op.path = some ("metadata" :: "annotations" :: rest) :=
  ⟨patchedRun_step, samplePatch_sent,
    vm_patch_touches_annotations patchedRun_step samplePatch_sent⟩

end Autoscaling.Plugin
