import Autoscaling.Plugin.Migration
import Autoscaling.Plugin.State.Pod
import Autoscaling.Plugin.Reconcile.Middleware

/-!
# The plugin's state and what changes it (`pkg/plugin/globalstate.go`, `handle_node.go`)

`PluginState` holds a `nodeState` for each node the plugin knows, by the node's name: the node's
`state.Node`, the pods whose migration it decided on, and when it last patched each pod's VM. The
pods that `Reserve` approved for a node but that the pod events have not yet shown bound there are
kept in `tentativelyScheduled`, with the node's name. Until the initial events are handled
(`startupDone`), the reconciles of reserved resources wait in `requeueAfterStartup`.

The state changes in the handlers of the reconcile queue, for node events (`HandleNodeEvent`,
here) and pod events (`HandlePodEvent`, in `HandlePod`), in the scheduler framework's `Reserve`
and `Unreserve`, and once when startup finishes. Each handler takes the lock for all it does, so
a run is the sequence of the handlers' calls.

The handlers talk to the cluster: they requeue pods and nodes through the watch stores, create
live migrations and patch `VirtualMachine` objects. Each handler here returns the requests it
made, in order (`Request`), and learns the cluster's answers from an environment (`Env`), which
also holds what the model does not compute: the decoding of a pod's annotations, the order of
`slices.SortFunc`, and which pods the watch store holds. A panic is `Except.error`; in the
reconcile handlers the queue's `CatchPanicMiddleware` recovers it, and the state keeps what was
changed before it (`Handled`), while a panic of `Reserve` or `Unreserve` ends the scheduler.
-/

namespace Autoscaling.Plugin

open Go State

/-! ### The state -/

/-- What `Config` holds that the handlers read. `Watermark` is kept as the watermark it gives
each node's totals, as the node's model takes it. -/
structure Config where
  watermark : WatermarkFn
  schedulerName : String
  patchRetryWaitSeconds : Int64
  ignoredNamespaces : List String

/-- `c.ignoredNamespace(namespace)`. -/
def Config.ignoredNamespace (c : Config) («namespace» : String) : Bool :=
  c.ignoredNamespaces.contains «namespace»

/-- `nodeState`. The sets of UIDs are maps to `Unit`; a `time.Time` is an `Int`. -/
structure NodeState where
  node : Node
  requestedMigrations : GoMap String Unit
  podsVMPatchedAt : GoMap String Int

/-- `PluginState`, without the lock and the metrics, but for the labels the node metrics inherit
(`metrics.Nodes.InheritedLabels`), which `updateNode` copies into the node's state. -/
structure PluginState where
  config : Config
  nodes : GoMap String NodeState
  tentativelyScheduled : GoMap String String
  startupDone : Bool
  requeueAfterStartup : GoMap String Unit
  maxNodeCPU : BitVec 32
  maxNodeMem : BitVec 64
  inheritedLabels : List String

/-- `NewPluginState(config, ...)`. -/
def newPluginState (config : Config) (inheritedLabels : List String) : PluginState where
  config := config
  nodes := ∅
  tentativelyScheduled := ∅
  startupDone := false
  requeueAfterStartup := ∅
  maxNodeCPU := 0
  maxNodeMem := 0
  inheritedLabels := inheritedLabels

/-- `corev1.Pod` as the handlers read it: what `PodStateFromK8sObj` reads, and the pod's
`Spec.NodeName` and `Spec.SchedulerName`. -/
structure PodObject extends K8sPod where
  nodeName : String
  schedulerName : String

/-! ### The cluster -/

/-- A `patch.OpKind`. -/
inductive OpKind
  | add
  | remove
  | replace
  | move
  | copy
  | test
deriving DecidableEq, Repr

/-- The `Value` of a `patch.Operation`, as the handlers set it: a string, a typed nil (JSON's
`null`), or an empty struct (an empty JSON object). -/
inductive PatchValue
  | string (s : String)
  | null
  | emptyObject
deriving DecidableEq, Repr

/-- `patch.Operation`, without `From`, which no operation here sets. -/
structure Operation where
  op : OpKind
  path : String
  value : PatchValue
deriving DecidableEq, Repr

/-- `vmv1.VirtualMachineMigration`, with what `createMigrationForPod` sets. `MaxBandwidth` is the
quantity's text. -/
structure VirtualMachineMigration where
  name : String
  «namespace» : String
  labels : GoMap String String
  vmName : String
  preventMigrationToSameHost : Bool
  completionTimeout : Int32
  incremental : Bool
  autoConverge : Bool
  maxBandwidth : String
  allowPostCopy : Bool

/-- A request a handler makes of the cluster through the closures of `PluginState`. -/
inductive Request
  | requeuePod (uid : String)
  | requeueNode (nodeName : String)
  | createMigration (vmm : VirtualMachineMigration)
  | patchVM (vm : NamespacedName) (patches : List Operation)

/-- The reasons of the API errors the handlers tell apart. -/
inductive StatusReason
  | alreadyExists
  | invalid
  | other
deriving DecidableEq, Repr

/-- An error of the API server, by its reason and its text. -/
structure ApiError where
  reason : StatusReason
  message : String
deriving DecidableEq, Repr

/-- What the handlers get from outside the state: the JSON decoding of the pods' annotations and
the encoding of `api.Resources`, the order `slices.SortFunc` puts migration candidates in,
whether the pod watch store holds a UID (for `NopUpdate`), and the API server's answers to
creating a migration and patching a VM. -/
structure Env where
  unmarshal : Unmarshal
  marshalResources : Api.Resources → String
  sortFunc : List Pod → List Pod
  podStored : String → Bool
  createMigration : VirtualMachineMigration → Option ApiError
  patchVM : NamespacedName → List Operation → Option ApiError

/-- The error of `requeuePod` for a pod the watch store lacks. -/
def podNotInWatchStore : String := "pod not found in watch store"

/-- `s.requeuePod(uid)`: `NopUpdate` on the pod watch store. -/
def Env.requeuePod (env : Env) (uid : String) : Option String :=
  if env.podStored uid then none else some podNotInWatchStore

/-- How a reconcile handler ends: the state it leaves, the requests it made in order, and its
result, or the panic it stopped with. A panic keeps what was changed before it. -/
structure Handled (α : Type) where
  state : PluginState
  requests : List Request
  result : Except String α

/-! ### Node events -/

/-- The error of `updateNode` for a node whose state cannot be built. -/
def couldNotGetNodeState : String := "could not get state from Node object: %w"

/-- The error of `reconcileNode` when `balanceNode` fails. -/
def couldNotTriggerMigrations : String := "could not trigger live migrations: %w"

/-- The UIDs `ns.requestedMigrations` has after `balanceNode`: the callback adds each pod whose
requeue succeeded, of those `triggerMigrationsIfNecessary` called it for, in order. -/
def recordRequested (env : Env) (requestedMigrations : GoMap String Unit) (called : List Pod) :
    GoMap String Unit :=
  called.foldl (fun m pod => if env.requeuePod pod.uid = none then m.insert pod.uid () else m)
    requestedMigrations

/-- `s.balanceNode(logger, ns)`: `triggerMigrationsIfNecessary` on the tentative node of a
speculation that is never committed, given the UIDs of `ns.requestedMigrations` in the order of
the map's keys. The error it returns, the requests made by the callback, and the new
`requestedMigrations`; a panic of the speculation is the handler's. -/
def balanceNode (env : Env) (ns : NodeState) :
    Except String (Option String × List Request × GoMap String Unit) := do
  let (_, err, st) ← ns.node.speculativelyWith fun tmpNode => do
    let (err, st) ← triggerMigrationsIfNecessary env.sortFunc tmpNode ns.requestedMigrations.keys
      env.requeuePod
    pure (st.tmpNode, false, err, st)
  let called := st.requested.map (·.1)
  pure (err, called.map (.requeuePod ·.uid), recordRequested env ns.requestedMigrations called)

/-- What `balanceNode`'s callback has done when the speculation stops: the pods it requeued, and
`ns.requestedMigrations` with those it recorded. A panic undoes neither. -/
def balanceNodeUntilStop (env : Env) (ns : NodeState) : List Request × GoMap String Unit :=
  let called := (triggerMigrationsRequested env.sortFunc ns.node.tentative
    ns.requestedMigrations.keys env.requeuePod).map (·.1)
  (called.map (.requeuePod ·.uid), recordRequested env ns.requestedMigrations called)

/-- `s.reconcileNode(logger, ns)` for the node state stored under `nodeName`, from the state `s`
the handler has made so far: `balanceNode`, its callback's changes kept in the node's state, also
when it panics. -/
def reconcileNode (env : Env) (s : PluginState) (nodeName : String) (ns : NodeState) :
    Handled (Option String) :=
  match balanceNode env ns with
  | .error err =>
    let done := balanceNodeUntilStop env ns
    let s := { s with nodes := s.nodes.insert nodeName { ns with requestedMigrations := done.2 } }
    ⟨s, done.1, .error err⟩
  | .ok (err, requests, requestedMigrations) =>
    let s := { s with nodes := s.nodes.insert nodeName { ns with requestedMigrations } }
    ⟨s, requests, .ok (err.map fun _ => couldNotTriggerMigrations)⟩

/-- `s.updateNode(logger, node, expectExists)`: a node not known gets a fresh node state, and the
maximal totals seen grow to its own; a known one takes the new totals and labels through
`Update`, in a committed speculation. Then `reconcileNode`. -/
def updateNode (env : Env) (s : PluginState) (node : K8sNode) : Handled (Option String) :=
  match nodeStateFromK8sObj s.config.watermark node s.inheritedLabels with
  | .error _ => ⟨s, [], .ok (some couldNotGetNodeState)⟩
  | .ok newNode =>
    match s.nodes.lookup node.name with
    | none =>
      let entry : NodeState := ⟨newNode, ∅, ∅⟩
      -- Go's `max`
      let s := { s with
        maxNodeCPU := if s.maxNodeCPU ≤ newNode.cpu.total then newNode.cpu.total else s.maxNodeCPU
        maxNodeMem := if s.maxNodeMem ≤ newNode.mem.total then newNode.mem.total else s.maxNodeMem
        nodes := s.nodes.insert node.name entry }
      reconcileNode env s node.name entry
    | some oldNS =>
      match oldNS.node.speculatively (fun n => (fun r => (r.1, true)) <$> n.update newNode) with
      | .error err => ⟨s, [], .error err⟩
      | .ok (n, _) =>
        let ns := { oldNS with node := n }
        reconcileNode env { s with nodes := s.nodes.insert node.name ns } node.name ns

/-- The loop of `cleanupNode` over `tentativelyScheduled`, deleting each pod on the node named.
It deletes only the entry it visits, so it visits every entry of the map, in any order. -/
def unscheduleFrom (nodeName : String) (tentativelyScheduled : GoMap String String) :
    GoMap String String :=
  tentativelyScheduled.keys.foldl (fun m uid =>
    if m.lookup uid = some nodeName then m.erase uid else m) tentativelyScheduled

/-- `s.cleanupNode(logger, ns)`: the pods tentatively scheduled on the node forgotten, and the
node's state deleted under the name its node has. -/
def cleanupNode (s : PluginState) (ns : NodeState) : PluginState :=
  { s with
    tentativelyScheduled := unscheduleFrom ns.node.name s.tentativelyScheduled
    nodes := s.nodes.erase ns.node.name }

/-- `s.deleteNode(logger, node, expectExists)`. -/
def deleteNode (s : PluginState) (node : K8sNode) : PluginState :=
  match s.nodes.lookup node.name with
  | none => s
  | some ns => cleanupNode s ns

/-- `s.HandleNodeEvent(logger, kind, node)`; `expectExists` only decides what is logged. -/
def handleNodeEvent (env : Env) (s : PluginState) (kind : Reconcile.EventKind) (node : K8sNode) :
    Handled (Option String) :=
  match kind with
  | .added | .modified => updateNode env s node
  | .deleted | .ephemeral => ⟨deleteNode s node, [], .ok none⟩

/-! ### `Reserve` and `Unreserve` -/

/-- The codes of the `framework.Status`es the plugin returns. -/
inductive Code
  | error
  | unschedulableAndUnresolvable
deriving DecidableEq, Repr

/-- `framework.Status`, by its code and its message. -/
structure Status where
  code : Code
  message : String
deriving DecidableEq, Repr

/-- The error of `checkSchedulerName`. -/
def mismatchedSchedulerName : String :=
  "mismatched SchedulerName for pod: our config has %q, but the pod has %q"

/-- `e.checkSchedulerName(logger, pod)`. -/
def checkSchedulerName (s : PluginState) (pod : PodObject) : Option Status :=
  if s.config.schedulerName ≠ pod.schedulerName then some ⟨.error, mismatchedSchedulerName⟩
  else none

/-- The message of a status for a pod whose state cannot be extracted. -/
def errorExtractingPod : String := "Error extracting local information for Pod"

/-- The message of `Reserve` for a pod reserved already. -/
def alreadyTentativelyScheduled : String :=
  "Pod already exists in set of tentatively scheduled pods"

/-- The message of a status for a node the state lacks. -/
def nodeNotFound : String := "Node not found in local state"

/-- `e.Reserve(ctx, state, pod, nodeName)`: the state and the status returned (`none` for
success). The pod is added to the node in a committed speculation, which always lets it through,
also over budget; a panic ends the scheduler. -/
def reserve (env : Env) (s : PluginState) (pod : PodObject) (nodeName : String) :
    Except String (PluginState × Option Status) :=
  if s.config.ignoredNamespace pod.namespace then pure (s, none)
  else if let some status := checkSchedulerName s pod then pure (s, some status)
  else match podStateOrPanic env.unmarshal pod.toK8sPod with
  | .error err => throw err
  | .ok (.error err) =>
    pure (s, some ⟨.unschedulableAndUnresolvable, errorExtractingPod ++ ": " ++ err⟩)
  | .ok (.ok podState) =>
    if (s.tentativelyScheduled.lookup pod.uid).isSome then
      pure (s, some ⟨.unschedulableAndUnresolvable, alreadyTentativelyScheduled⟩)
    else match s.nodes.lookup nodeName with
    | none => pure (s, some ⟨.error, nodeNotFound⟩)
    | some ns => do
      -- the closure also records the pod as tentatively scheduled, before the commit
      let ((node, _), tentativelyScheduled) ← ns.node.speculativelyWith fun n => do
        let n ← n.addPod podState
        pure (n, true, s.tentativelyScheduled.insert pod.uid nodeName)
      pure ({ s with nodes := s.nodes.insert nodeName { ns with node }, tentativelyScheduled },
        none)

/-- The panic of `Unreserve` for a pod reserved on another node. -/
def unexpectedNode : String := "Pod is tentatively scheduled on an unexpected node"

/-- The panic of `Unreserve` for a pod reserved on a node that does not hold it. -/
def podMissingOnNode : String := "Pod unexpectedly doesn't exist on Node"

/-- `e.Unreserve(ctx, state, pod, nodeName)`: a pod tentatively scheduled on the node is removed
from it in a committed speculation, and from `tentativelyScheduled`. -/
def unreserve (s : PluginState) (pod : PodObject) (nodeName : String) :
    Except String PluginState :=
  match s.tentativelyScheduled.lookup pod.uid with
  | none => pure s
  | some nn =>
    if nn ≠ nodeName then throw unexpectedNode
    else match s.nodes.lookup nodeName with
    | none => pure s
    | some ns => do
      let ((node, _), tentativelyScheduled) ← ns.node.speculativelyWith fun n =>
        match n.pods.get pod.uid with
        | none => throw podMissingOnNode
        | some _ => do
          let (n, _) ← n.removePod pod.uid
          pure (n, true, s.tentativelyScheduled.erase pod.uid)
      pure { s with nodes := s.nodes.insert nodeName { ns with node }, tentativelyScheduled }

/-! ### The end of startup -/

/-- The end of `NewAutoscaleEnforcerPlugin`, once the initial events are handled: startup is
done, each pod waiting for it is requeued, and the set is cleared. -/
def finishStartup (s : PluginState) : PluginState × List Request :=
  ({ s with startupDone := true, requeueAfterStartup := ∅ },
    s.requeueAfterStartup.keys.map .requeuePod)

end Autoscaling.Plugin
