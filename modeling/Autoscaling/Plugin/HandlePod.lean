import Autoscaling.Plugin.GlobalState

/-!
# Pod events (`pkg/plugin/handle_pod.go`, `handle_vmmigration.go`)

`HandlePodEvent` keeps the plugin's state of a pod in line with the pod's object. An added or
modified pod is stored on its node, where it is scheduled or where `Reserve` put it; a pod that
`Reserve` put on one node but that is scheduled on another is a panic. For a VM pod of this
scheduler, a migration the plugin requested is created once the pod is found migratable, and the
resources reserved for it are reconciled (`reconcilePodResources`): what the node can grant of
what the pod requests is worked out in a speculation that is dropped, and the VM's annotation of
approved resources patched to it, but not before startup is done, and not twice for a pod within
`PatchRetryWaitSeconds`. A deleted pod is removed from its node.

The reconcile of reserved resources has one rule that the source's comments give: until the
patch of the VM is known to have taken effect, the resources reserved for the pod must not fall
below what was reserved before, so the node keeps the larger of the old and the reconciled
amounts (`keepReserved`), while the VM is patched to the reconciled ones. The patch itself
(`patchReservedResourcesForPod`) is a JSON patch that first tests the scaling unit and the
requested resources the pod's object showed, and creates the annotations field when the VM may
have none.

The work under the lock (`updatePod`, `deletePod`) leaves the state and the requests made; what
`updatePod` asks to run after the lock is released, creating the migration or patching the VM,
is a value (`AfterUnlock`) that `HandlePodEvent` runs with the cluster's answers.
-/

namespace Autoscaling.Plugin

open Go State

/-! ### The JSON patch of approved resources -/

/-- `patch.PathEscape(s)`: each `~` written `~0` and each `/` written `~1`. -/
def pathEscape (s : String) : String :=
  String.ofList (s.toList.flatMap fun c =>
    if c = '~' then ['~', '0'] else if c = '/' then ['~', '1'] else [c])

/-- The path `fmt.Sprintf("/metadata/annotations/%s", patch.PathEscape(name))`. -/
def annotationPath (name : String) : String := "/metadata/annotations/" ++ pathEscape name

/-- The patch of `patchReservedResourcesForPod` before the choice of path: a test of each of the
scaling unit and the requested resources that the pod's object has, then the replacement of the
approved resources by the reserved ones of `newPod`. -/
def reservedPatches (env : Env) (oldPodObj : PodObject) (newPod : Pod) : List Operation :=
  let patches := match oldPodObj.annotations annotationAutoscalingUnit with
    | some scalingUnitJSON => [⟨.test, annotationPath annotationAutoscalingUnit, .string scalingUnitJSON⟩]
    | none => []
  let patches := patches ++ match oldPodObj.annotations internalAnnotationResourcesRequested with
    | some requestedJSON =>
      [⟨.test, annotationPath internalAnnotationResourcesRequested, .string requestedJSON⟩]
    | none => []
  let reservedJSON :=
    env.marshalResources ⟨UInt32.ofBitVec newPod.cpu.reserved, UInt64.ofBitVec newPod.mem.reserved⟩
  patches ++ [⟨.replace, annotationPath internalAnnotationResourcesApproved, .string reservedJSON⟩]

/-- The path of the annotations field. -/
def annotationsPath : String := "/metadata/annotations"

/-- The error of `patchReservedResourcesForPod` when a test of the patch fails. -/
def stateMismatch : String := "local pod state doesn't match most recent VM state"

/-- The patch sent on the normal path, with its error. -/
def patchNormally (env : Env) (vm : NamespacedName) (patches : List Operation) :
    List Request × Option String :=
  ([.patchVM vm patches], (env.patchVM vm patches).map fun err =>
    -- a failed test is reported as such; any other error is passed on
    if err.reason = .invalid then stateMismatch else err.message)

/-- `s.patchReservedResourcesForPod(logger, oldPodObj, newPod)`: the requests made and the error
returned. If the pod's object has none of the three annotations, the VM may have no annotations
field, so a patch that creates it is tried first; a failed test of that one falls through to the
normal path. -/
def patchReservedResourcesForPod (env : Env) (oldPodObj : PodObject) (newPod : Pod) :
    List Request × Option String :=
  let patches := reservedPatches env oldPodObj newPod
  let hasApprovedAnnotation := (oldPodObj.annotations internalAnnotationResourcesApproved).isSome
  let hasKnownAnnotations := decide (patches.length > 1) || hasApprovedAnnotation
  if !hasKnownAnnotations then
    -- `patches[0]`: the patch always ends with the replacement, so it is not empty
    let addPatches : List Operation :=
      [⟨.test, annotationsPath, .null⟩, ⟨.add, annotationsPath, .emptyObject⟩] ++ patches.take 1
    match env.patchVM newPod.virtualMachine addPatches with
    | none => ([.patchVM newPod.virtualMachine addPatches], none)
    | some err =>
      if err.reason = .invalid then
        let (requests, err) := patchNormally env newPod.virtualMachine patches
        (.patchVM newPod.virtualMachine addPatches :: requests, err)
      else ([.patchVM newPod.virtualMachine addPatches], some err.message)
  else patchNormally env newPod.virtualMachine patches

/-! ### Creating a migration -/

/-- `LabelPluginCreatedMigration`. -/
def labelPluginCreatedMigration : String := "autoscaling.neon.tech/created-by-scheduler"

/-- The migration `createMigrationForPod` builds, with the metadata of `metadataForNewMigration`:
named after the pod, not the VM, so that a migration of another pod of the same VM is not taken
for this one's. -/
def migrationForPod (pod : Pod) : VirtualMachineMigration where
  name := "schedplugin-" ++ pod.namespacedName.name
  «namespace» := pod.namespacedName.namespace
  labels := (∅ : GoMap String String).insert labelPluginCreatedMigration "true"
  vmName := pod.virtualMachine.name
  preventMigrationToSameHost := true
  completionTimeout := 3600
  incremental := true
  autoConverge := true
  maxBandwidth := "1Gi"
  allowPostCopy := false

/-- `s.createMigrationForPod(logger, pod)` through the `createMigration` closure, which takes a
migration that exists already as created. -/
def createMigrationForPod (env : Env) (pod : Pod) : List Request × Option String :=
  ([.createMigration (migrationForPod pod)], (env.createMigration (migrationForPod pod)).bind
    fun err => if err.reason = .alreadyExists then none else some err.message)

/-! ### Under the lock -/

/-- What `updatePod` asks to run once the lock is released. -/
inductive AfterUnlock
  | createMigrationForPod (pod : Pod)
  | patchReservedResourcesForPod (oldPodObj : PodObject) (newPod : Pod)

/-- The error of the closure that creates a migration. -/
def couldNotCreateMigration : String := "could not create migration for Pod: %w"

/-- Running the closure `afterUnlock`: the requests made and the error returned. -/
def AfterUnlock.run (env : Env) : AfterUnlock → List Request × Option String
  | .createMigrationForPod pod =>
    let (requests, err) := Plugin.createMigrationForPod env pod
    (requests, err.map fun _ => couldNotCreateMigration)
  | .patchReservedResourcesForPod oldPodObj newPod =>
    Plugin.patchReservedResourcesForPod env oldPodObj newPod

/-- `podUpdateResult`. -/
structure PodUpdateResult where
  needsMoreResources : Bool
  afterUnlock : Option AfterUnlock
  retryAfter : Option Duration

/-- `newPod` of `reconcilePodResources`: the reconciled pod, reserving for each resource the larger
of its own amount and the old pod's (Go's `max`). -/
def keepReserved (oldPod desiredPod : Pod) : Pod :=
  { desiredPod with
    cpu := { desiredPod.cpu with
      reserved := if desiredPod.cpu.reserved ≤ oldPod.cpu.reserved then oldPod.cpu.reserved
        else desiredPod.cpu.reserved }
    mem := { desiredPod.mem with
      reserved := if desiredPod.mem.reserved ≤ oldPod.mem.reserved then oldPod.mem.reserved
        else desiredPod.mem.reserved } }

/-- When a pod's VM may be patched again: `PatchRetryWaitSeconds` after the last patch, or now if
it was never patched. The product of the two durations wraps, as Go's does. -/
def canRetryAt (s : PluginState) (ns : NodeState) (uid : String) (now : Int) : Int :=
  match ns.podsVMPatchedAt.lookup uid with
  | some lastPatch => Time.add lastPatch (second * s.config.patchRetryWaitSeconds)
  | none => now

/-- `s.reconcilePodResources(logger, ns, oldPodObj, oldPod)` at the instant `now`, for the node
state `ns` stored under `nodeName` in `s`. `ReconcilePodReserved` sets `desiredPod` through its
pointer, in a speculation that is dropped. -/
def reconcilePodResources (s : PluginState) (nodeName : String) (ns : NodeState)
    (oldPodObj : PodObject) (oldPod : Pod) (now : Int) : Handled (Option PodUpdateResult) :=
  if !hasAutoscalingEnabled oldPodObj.toK8sPod then ⟨s, [], .ok none⟩
  else match ns.node.speculativelyWith (fun n => do
      let (n, desiredPod, done) ← n.reconcilePodReserved oldPod
      pure (n, false, desiredPod, !done)) with
  | .error err => ⟨s, [], .error err⟩
  | .ok (_, desiredPod, needsMoreResources) =>
    let hasApprovedAnnotation :=
      (oldPodObj.annotations internalAnnotationResourcesApproved).isSome
    -- before startup, not every pod may be known: the reconcile waits for it
    if !s.startupDone then
      ⟨{ s with requeueAfterStartup := s.requeueAfterStartup.insert oldPod.uid () }, [], .ok none⟩
    else if oldPod = desiredPod ∧ hasApprovedAnnotation then
      ⟨s, [], .ok (some ⟨needsMoreResources, none, none⟩)⟩
    else if Time.before now (canRetryAt s ns oldPod.uid now) then
      ⟨s, [], .ok (some ⟨needsMoreResources, none,
        some (Time.sub (canRetryAt s ns oldPod.uid now) now)⟩)⟩
    else
      let newPod := keepReserved oldPod desiredPod
      let stored := if newPod = oldPod then pure ns.node
        else Prod.fst <$> ns.node.speculatively fun n =>
          (fun r => (r.1, true)) <$> n.updatePod oldPod newPod
      match stored with
      | .error err => ⟨s, [], .error err⟩
      | .ok node =>
        let ns := { ns with node, podsVMPatchedAt := ns.podsVMPatchedAt.insert oldPod.uid now }
        ⟨{ s with nodes := s.nodes.insert nodeName ns }, [],
          .ok (some ⟨needsMoreResources, some (.patchReservedResourcesForPod oldPodObj desiredPod),
            none⟩)⟩

/-- The pod's state stored on its node in a committed speculation: `UpdatePod` from the state the
node holds (read from the node, not the tentative one), or `AddPod`. -/
def storePod (n : Node) (newPod : Pod) : Except String (Node × Bool) :=
  n.speculatively fun tmp => (·, true) <$>
    match n.pods.get newPod.uid with
    | some oldPod => Prod.fst <$> tmp.updatePod oldPod newPod
    | none => tmp.addPod newPod

/-- The delay `updatePod` asks for after requesting a migration. -/
def migrationRetry : Duration := 5 * second

/-- The last step of `updatePod`: a pod not migrating has its reserved resources reconciled. -/
def reconcileUnlessMigrating (s : PluginState) (nodeName : String) (ns : NodeState)
    (pod : PodObject) (newPod : Pod) (now : Int) : Handled (Option PodUpdateResult) :=
  if !newPod.migrating then reconcilePodResources s nodeName ns pod newPod now
  else ⟨s, [], .ok none⟩

/-- The end of `updatePod`, once the pod is stored in the node state `ns` under `nodeName`: for a
VM pod of this scheduler, a migration requested for it is created, or forgotten if the pod
migrates already or cannot be migrated, and then its reserved resources are reconciled. -/
def updateVMPod (s : PluginState) (nodeName : String) (ns : NodeState) (pod : PodObject)
    (newPod : Pod) (now : Int) : Handled (Option PodUpdateResult) :=
  if newPod.virtualMachine = ⟨"", ""⟩ ∨ pod.schedulerName ≠ s.config.schedulerName then
    ⟨s, [], .ok none⟩
  else match ns.requestedMigrations.lookup newPod.uid with
  | some _ =>
    if newPod.migrating || !newPod.migratable then
      let ns := { ns with requestedMigrations := ns.requestedMigrations.erase newPod.uid }
      reconcileUnlessMigrating { s with nodes := s.nodes.insert nodeName ns } nodeName ns pod
        newPod now
    else ⟨s, [], .ok (some ⟨false, some (.createMigrationForPod newPod), some migrationRetry⟩)⟩
  | none => reconcileUnlessMigrating s nodeName ns pod newPod now

/-- The error of `updatePod` for a pod whose state cannot be extracted. -/
def couldNotGetPodState : String := "could not get state from Pod object: %w"

/-- The error of `updatePod` for a pod on a node the state lacks. -/
def podNodeNotPresent : String := "pod's node %q is not present in local state"

/-- The panic for a pod scheduled on a node other than the one `Reserve` put it on. -/
def scheduledOntoDifferentNode : String :=
  "Pod was scheduled onto a different Node than tentatively recorded"

/-- `s.updatePod(logger, pod, expectExists)` at the instant `now`: its result and error. A pod
tentatively scheduled leaves `tentativelyScheduled` when it is scheduled on that node, and is
stored there while it is not scheduled yet. Once the node state is found, the deferred
`updateNodeMetricsAndRequeue` requeues the node, also after a panic; the panic of
`PodStateFromK8sObj` comes before the lock, and requeues nothing. -/
def updatePod (env : Env) (s : PluginState) (pod : PodObject) (now : Int) :
    Handled (Option PodUpdateResult × Option String) :=
  match podStateOrPanic env.unmarshal pod.toK8sPod with
  | .error err => ⟨s, [], .error err⟩
  | .ok (.error _) => ⟨s, [], .ok (none, some couldNotGetPodState)⟩
  | .ok (.ok newPod) =>
    let tentativeNode := s.tentativelyScheduled.lookup pod.uid
    if tentativeNode.isSome ∧ pod.nodeName ≠ tentativeNode.getD "" ∧ pod.nodeName ≠ "" then
      ⟨s, [], .error scheduledOntoDifferentNode⟩
    else
    let s := if tentativeNode = some pod.nodeName then
      { s with tentativelyScheduled := s.tentativelyScheduled.erase pod.uid } else s
    if tentativeNode.isNone ∧ pod.nodeName = "" then ⟨s, [], .ok (none, none)⟩
    else
    let nodeName := if pod.nodeName = "" then tentativeNode.getD "" else pod.nodeName
    match s.nodes.lookup nodeName with
    | none => ⟨s, [], .ok (none, some podNodeNotPresent)⟩
    | some ns =>
      let requeue := [Request.requeueNode ns.node.name]
      match storePod ns.node newPod with
      | .error err => ⟨s, requeue, .error err⟩
      | .ok (node, _) =>
        let ns := { ns with node }
        let h := updateVMPod { s with nodes := s.nodes.insert nodeName ns } nodeName ns pod newPod
          now
        ⟨h.state, h.requests ++ requeue, (fun r => (r, none)) <$> h.result⟩

/-- The removal of a pod from its node in a committed speculation, if the node holds it. -/
def unstorePod (n : Node) (uid : String) : Except String Node :=
  if (n.pods.get uid).isSome then
    Prod.fst <$> n.speculatively fun n => (fun r => (r.1, true)) <$> n.removePod uid
  else pure n

/-- `s.deletePod(logger, pod, expectExists)`, which returns no error: on the node the pod is
scheduled on, or else the one `Reserve` put it on, the pod's migration request and last patch are
forgotten, the pod removed, and then its tentative scheduling. -/
def deletePod (s : PluginState) (pod : PodObject) : Handled Unit :=
  let nodeName := if pod.nodeName = "" then s.tentativelyScheduled.lookup pod.uid
    else some pod.nodeName
  match nodeName with
  | none => ⟨s, [], .ok ()⟩
  | some nodeName =>
    match s.nodes.lookup nodeName with
    | none => ⟨s, [], .ok ()⟩
    | some ns =>
      let requeue := [Request.requeueNode ns.node.name]
      let ns := { ns with
        requestedMigrations := ns.requestedMigrations.erase pod.uid
        podsVMPatchedAt := ns.podsVMPatchedAt.erase pod.uid }
      let s := { s with nodes := s.nodes.insert nodeName ns }
      match unstorePod ns.node pod.uid with
      | .error err => ⟨s, requeue, .error err⟩
      | .ok node =>
        let s := { s with nodes := s.nodes.insert nodeName { ns with node } }
        match s.tentativelyScheduled.lookup pod.uid with
        | none => ⟨s, requeue, .ok ()⟩
        | some tentativeNode =>
          if pod.nodeName ≠ "" ∧ tentativeNode ≠ pod.nodeName then
            ⟨s, requeue, .error scheduledOntoDifferentNode⟩
          else ⟨{ s with tentativelyScheduled := s.tentativelyScheduled.erase pod.uid }, requeue,
            .ok ()⟩

/-! ### The handler -/

/-- The error of `HandlePodEvent` for a pod that needs more than the node can grant. -/
def notEnoughResources : String := "not enough resources to grant request for pod"

/-- The delay `HandlePodEvent` asks for then. -/
def notEnoughRetry : Duration := 5 * second

/-- `s.HandlePodEvent(logger, kind, pod)` at the instant `now`: the result (`none` for nil) and
the error. What `updatePod` asks to run after the lock runs before the result is decided. -/
def handlePodEvent (env : Env) (s : PluginState) (kind : Reconcile.EventKind) (pod : PodObject)
    (now : Int) : Handled (Option Reconcile.Result × Option String) :=
  if s.config.ignoredNamespace pod.namespace then ⟨s, [], .ok (none, none)⟩
  else match kind with
  | .added | .modified =>
    let h := updatePod env s pod now
    match h.result with
    | .error err => ⟨h.state, h.requests, .error err⟩
    | .ok (updateResult, err) =>
      let reconcileResult := updateResult.bind fun r => r.retryAfter.map (⟨·⟩)
      if err.isSome then ⟨h.state, h.requests, .ok (reconcileResult, err)⟩
      else match updateResult with
      | none => ⟨h.state, h.requests, .ok (some ⟨0⟩, none)⟩
      | some r =>
        let (after, afterErr) := match r.afterUnlock with
          | some afterUnlock => afterUnlock.run env
          | none => ([], none)
        let requests := h.requests ++ after
        if afterErr.isSome then ⟨h.state, requests, .ok (reconcileResult, afterErr)⟩
        else if r.needsMoreResources then
          ⟨h.state, requests, .ok (some ⟨notEnoughRetry⟩, some notEnoughResources)⟩
        else ⟨h.state, requests, .ok (some ⟨r.retryAfter.getD 0⟩, none)⟩
  | .deleted | .ephemeral =>
    let h := deletePod s pod
    ⟨h.state, h.requests, (fun _ => (none, none)) <$> h.result⟩

/-- The handler `NewAutoscaleEnforcerPlugin` registers for pods: `HandlePodEvent`, with a nil
result taken as the zero one. -/
def podHandler (env : Env) (s : PluginState) (kind : Reconcile.EventKind) (pod : PodObject)
    (now : Int) : Handled (Reconcile.Result × Option String) :=
  let h := handlePodEvent env s kind pod now
  ⟨h.state, h.requests, (fun r => (r.1.getD ⟨0⟩, r.2)) <$> h.result⟩

/-- The handler `NewAutoscaleEnforcerPlugin` registers for nodes: `HandleNodeEvent`, with the
zero result. -/
def nodeHandler (env : Env) (s : PluginState) (kind : Reconcile.EventKind) (node : K8sNode) :
    Handled (Reconcile.Result × Option String) :=
  let h := handleNodeEvent env s kind node
  ⟨h.state, h.requests, (fun err => (⟨0⟩, err)) <$> h.result⟩

end Autoscaling.Plugin
