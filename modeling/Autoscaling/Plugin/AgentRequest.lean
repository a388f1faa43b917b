import Autoscaling.Api.Version
import Autoscaling.Plugin.HandlePod

/-!
# The handler of the agents' requests (`pkg/plugin/run.go`)

Each autoscaler-agent asks the plugin, over HTTP, for the resources of its VM (`AgentRequest`).
`handleAgentRequest` checks the request, writes what the agent asks for into the annotations of
the VM (`vmPatchForAgentRequest`), and waits for the pod's object to show the approval that the
pod reconcile writes back. It runs beside the reconcile handlers, from before startup ends, and
takes no lock: it reads the pod watch store and patches VMs, but not the plugin's state.

The wait is a loop that reads the pod watch store after each wake-up; the cluster's part is a list
of wake-ups (`Wakeup`), each saying whether the timer fired and what the store then holds, and the
loop answers at the first pass that has an answer (`List.findSome?`), or still waits when the list
runs out. What the handler guarantees is proved in `Run`.
-/

namespace Autoscaling.Plugin

open Go State

/-! ### The request and its checks -/

/-- `MinPluginProtocolVersion`. -/
def minPluginProtocolVersion : Api.PluginProtoVersion := Api.pluginProtoV5_0

/-- `MaxPluginProtocolVersion`. -/
def maxPluginProtocolVersion : Api.PluginProtoVersion := Api.pluginProtoV5_0

/-- `api.AgentRequest`, without `Metrics`, which the plugin does not read. -/
structure AgentRequest where
  protoVersion : Api.PluginProtoVersion
  pod : NamespacedName
  computeUnit : Api.Resources
  resources : Api.Resources
  lastPermit : Option Api.Resources
deriving DecidableEq, Repr

/-- `r.ProtocolRange()`. -/
def AgentRequest.protocolRange (r : AgentRequest) : Api.VersionRange Api.PluginProtoVersion :=
  ⟨r.protoVersion, r.protoVersion⟩

/-- What `handleAgentRequest` returns: the response, or the status code and the error. -/
abbrev AgentReply := Except (Nat × String) Api.PluginResponse

def invalidProtocolVersion : String := "Invalid protocol version %v"

def protocolVersionMismatch : String := "Protocol version mismatch: Need %v but got %v"

def computeUnitNonZero : String := "computeUnit fields must be non-zero: %w"

def podNotFound : String := "pod not found"

def podNodeUnknown : String := "pod's node is unknown"

def notVMPod : String := "pod is not associated with a VM"

def failedToPatchVM : String := "failed to patch VM object"

def failedToExtractState : String := "failed to extract state from pod"

def timedOutWaiting : String := "timed out waiting for updates to be processed"

/-- The checks `handleAgentRequest` makes before it acts, in order: the protocol version, the
compute unit, and the pod, which must be known, scheduled on a node, and a VM's. -/
def checkAgentRequest (getPod : NamespacedName → Option PodObject) (req : AgentRequest) :
    Except (Nat × String) (PodObject × OwnerReference) := do
  let expectedProtoRange : Api.VersionRange Api.PluginProtoVersion :=
    ⟨minPluginProtocolVersion, maxPluginProtocolVersion⟩
  if !req.protoVersion.isValid then throw (400, invalidProtocolVersion)
  if (expectedProtoRange.latestSharedVersion req.protocolRange).isNone then
    throw (400, protocolVersionMismatch)
  if req.computeUnit.validateNonZero.isSome then throw (400, computeUnitNonZero)
  let some podObj := getPod req.pod | throw (404, podNotFound)
  if podObj.nodeName = "" then throw (404, podNodeUnknown)
  let some vmRef := virtualMachineOwnerForPod podObj.toK8sPod | throw (400, notVMPod)
  pure (podObj, vmRef)

/-! ### The patch of the VM -/

/-- One annotation of `vmPatchForAgentRequest`: its replacement by `value`, always included, and
whether the value differs from what the pod's object has, a missing annotation read as empty. -/
def annotationUpdate (pod : PodObject) (key value : String) : Operation × Bool :=
  (⟨.replace, annotationPath key, .string value⟩, decide (value ≠ (pod.annotations key).getD ""))

/-- The annotations an agent's request sets, with their values: the scaling unit, the requested
resources and, if the agent sent one, its last permit as the approved resources. -/
def agentAnnotations (env : Env) (req : AgentRequest) : List (String × String) :=
  [(annotationAutoscalingUnit, env.marshalResources req.computeUnit),
    (internalAnnotationResourcesRequested, env.marshalResources req.resources)] ++
    (req.lastPermit.map fun lastPermit =>
      (internalAnnotationResourcesApproved, env.marshalResources lastPermit)).toList

/-- `vmPatchForAgentRequest(pod, req)`: the replacement of each annotation of the request, and
whether any of them changes. -/
def vmPatchForAgentRequest (env : Env) (pod : PodObject) (req : AgentRequest) :
    List Operation × Bool :=
  let updates := (agentAnnotations env req).map fun (key, value) => annotationUpdate pod key value
  (updates.map Prod.fst, updates.any Prod.snd)

/-! ### Waiting for the approval -/

/-- One pass of the wait loop, as the cluster makes it: whether the timer fired before the pod's
object changed, and the pods the watch store then holds. -/
structure Wakeup where
  timedOut : Bool
  getPod : NamespacedName → Option PodObject

/-- What the handler reads of the pod watch store as it runs: the pods it holds when the request
arrives, whether it has a listener for a pod's UID, and the passes of the wait loop. -/
structure PodWatch where
  getPod : NamespacedName → Option PodObject
  listenerForPod : String → Bool
  wakeups : List Wakeup

/-- The resources the pod's state reserves, as `api.Resources`. -/
def reservedResources (p : Pod) : Api.Resources :=
  ⟨UInt32.ofBitVec p.cpu.reserved, UInt64.ofBitVec p.mem.reserved⟩

/-- The resources the pod's state requests, as `api.Resources`. -/
def requestedResources (p : Pod) : Api.Resources :=
  ⟨UInt32.ofBitVec p.cpu.requested, UInt64.ofBitVec p.mem.requested⟩

/-- `needToWait`: the agent sent no last permit, or asks for more than it in some field. -/
def needToWait (req : AgentRequest) : Bool :=
  match req.lastPermit with
  | none => true
  | some lastPermit => lastPermit.hasFieldLessThan req.resources

/-- `shouldReturn`: the pod's object shows the resources requested, and approves more than the
last permit in some field or, without one, has an approval at all. -/
def shouldReturn (req : AgentRequest) (podObj : PodObject) (podState : Pod) : Bool :=
  let canReturn := decide (requestedResources podState = req.resources)
  match req.lastPermit with
  | none => canReturn && (podObj.annotations internalAnnotationResourcesApproved).isSome
  | some lastPermit => canReturn && (reservedResources podState).hasFieldGreaterThan lastPermit

/-- One pass of the wait loop, after the wait, on the pod the store then holds: its answer, or
`none` to wait for more updates. -/
def passPermit (u : Unmarshal) (req : AgentRequest) (timedOut : Bool) :
    Option PodObject → Option (Except String AgentReply)
  | none => some (.ok (.error (404, podNotFound)))
  | some podObj =>
    match podStateOrPanic u podObj.toK8sPod with
    | .error err => some (.error err)
    | .ok (.error _) => some (.ok (.error (500, failedToExtractState)))
    | .ok (.ok podState) =>
      let canReturn := decide (requestedResources podState = req.resources)
      -- return if the pod has the result, or if the timer fired and it is good enough
      if shouldReturn req podObj podState || (timedOut && canReturn) then
        some (.ok (.ok ⟨reservedResources podState⟩))
      else if timedOut then some (.ok (.error (500, timedOutWaiting)))
      else none

/-- The wait loop: a pass after each wake-up, the timer counted only when there is a need to wait,
up to the first pass with an answer. -/
def awaitPermit (u : Unmarshal) (req : AgentRequest) (wakeups : List Wakeup) :
    Option (Except String AgentReply) :=
  wakeups.findSome? fun w => passPermit u req (needToWait req && w.timedOut) (w.getPod req.pod)

/-- A request for no more than the agent's last permit, which is granted without waiting. -/
def instantlyApproved (req : AgentRequest) : Bool :=
  match req.lastPermit with
  | none => false
  | some lastPermit => !req.resources.hasFieldGreaterThan lastPermit

/-- `s.handleAgentRequest(logger, req, getPod, listenerForPod)`: the requests it makes of the
cluster, and its answer or its panic, or `none` if it still waits when the wake-ups run out. -/
def handleAgentRequest (env : Env) (watch : PodWatch) (req : AgentRequest) :
    List Request × Option (Except String AgentReply) :=
  match checkAgentRequest watch.getPod req with
  | .error err => ([], some (.ok (.error err)))
  | .ok (podObj, vmRef) =>
    let vmName : NamespacedName := ⟨podObj.namespace, vmRef.name⟩
    let (patches, changed) := vmPatchForAgentRequest env podObj req
    -- the listener is taken before the VM is patched
    let podExists := watch.listenerForPod podObj.uid
    -- only a patch that changes something is sent
    let requests := if changed then [Request.patchVM vmName patches] else []
    let patchFailed := changed && (env.patchVM vmName patches).isSome
    (requests,
      if patchFailed then some (.ok (.error (500, failedToPatchVM)))
      else if instantlyApproved req then some (.ok (.ok ⟨req.resources⟩))
      else if !podExists then some (.ok (.error (404, podNotFound)))
      else awaitPermit env.unmarshal req watch.wakeups)

def mustBePost : String := "must be POST"

def badJSON : String := "bad JSON"

def requestHandlerPanicked : String := "request handler panicked"

/-- The handler of `startPermitHandler` for a request of method `method` whose body, read up to
`MaxHTTPBodySize`, decodes to `body`: the requests made, and the status and the body of the
response, the JSON of the agent's response (`marshalResponse`) or the text of the error. A
panic of `handleAgentRequest` is recovered as a 500. -/
def permitHandler (env : Env) (watch : PodWatch) (marshalResponse : Api.PluginResponse → String)
    (method : String) (body : Except String AgentRequest) : List Request × Option (Nat × String) :=
  if method ≠ "POST" then ([], some (400, mustBePost))
  else match body with
  | .error _ => ([], some (400, badJSON))
  | .ok req =>
    let (requests, outcome) := handleAgentRequest env watch req
    (requests, outcome.map fun
      | .error _ => (500, requestHandlerPanicked)
      | .ok (.error (statusCode, err)) => (statusCode, err)
      | .ok (.ok resp) => (200, marshalResponse resp))

end Autoscaling.Plugin
