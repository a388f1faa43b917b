import Autoscaling.Api.Version
import Autoscaling.Plugin.VMPatch

/-!
# The agent's requests (`pkg/plugin/run.go`)

Each autoscaler-agent asks the plugin, over HTTP, for the resources of its VM (`AgentRequest`).
The plugin does not grant them itself: it checks the request, writes what the agent asks for into
the annotations of the VM (`vmPatchForAgentRequest`), and waits for the pod's object to show the
approval that the pod reconcile (`VMPatch`) writes back, the resources reserved for the pod. It
answers as soon as the pod shows the resources requested and approves more than the agent's
last permit, and when the timer fires, with what is approved if the pod shows the request, and
an error otherwise. A request for no more than the last permit is granted at once.

The wait is a loop that reads the pod watch store after each wake-up; the cluster's part is a
list of wake-ups (`Wakeup`), each saying whether the timer fired and what the store then holds,
and the loop answers at the first pass that has an answer (`List.findSome?`), or still waits when
the list runs out.

What the handler guarantees, for every request and every behaviour of the cluster:

* it makes at most one request of the cluster, the patch of the VM that owns the pod, and only
  for a request it accepts and a patch that changes an annotation
  (`agent_request_patches_only_accepted`);
* any version but v5.0 is refused before anything else (`agent_request_version_rejected`);
* every permit is either what the agent asked for, no more than its last permit, or what the
  pod's object approves while it shows the request (`agent_permit_reserved_or_last`);
* the handler answers by the first time the timer fires, whatever comes after
  (`agent_request_answered_by_timeout`);
* it panics only when the pod's object, read again while waiting, is a VM's without the VM's
  resources annotation (`agent_request_panics_only_without_resources`), and the HTTP handler
  answers that with a 500.

Where an answer can come from is stated once (`handleAgentRequest_answer`): the results about
permits and panics are case analyses on it, with one lemma for each pass of the loop
(`passPermit_eq_permit`, `passPermit_eq_panic`).

The handler is defined in `AgentRequest`; the status code of an error is a `Nat`, and each
error keeps the format string of its text.
-/

namespace Autoscaling.Plugin

open Go State

/-! ### The checks -/

/-- The plugin's range of versions is v5.0 alone, so it shares that version with a request for
v5.0, and none with any other. -/
theorem expected_latestSharedVersion (req : AgentRequest) :
    Api.VersionRange.latestSharedVersion ⟨minPluginProtocolVersion, maxPluginProtocolVersion⟩
        req.protocolRange =
      if req.protoVersion = Api.pluginProtoV5_0 then some Api.pluginProtoV5_0 else none := by
  split
  · next version => exact Api.VersionRange.latestSharedVersion_single.mpr ⟨version.symm, rfl⟩
  · next other =>
    cases agreed : Api.VersionRange.latestSharedVersion
      ⟨minPluginProtocolVersion, maxPluginProtocolVersion⟩ req.protocolRange with
    | none => rfl
    | some v => exact absurd (Api.VersionRange.latestSharedVersion_single.mp agreed).1.symm other

theorem checkAgentRequest_eq_ok {getPod : NamespacedName → Option PodObject} {req : AgentRequest}
    {podObj : PodObject} {vmRef : OwnerReference} :
    checkAgentRequest getPod req = .ok (podObj, vmRef) ↔
      req.protoVersion = Api.pluginProtoV5_0 ∧ req.computeUnit.validateNonZero = none ∧
        getPod req.pod = some podObj ∧ podObj.nodeName ≠ "" ∧
        virtualMachineOwnerForPod podObj.toK8sPod = some vmRef := by
  unfold checkAgentRequest
  simp only [expected_latestSharedVersion]
  by_cases version : req.protoVersion = Api.pluginProtoV5_0
  · have valid : Api.pluginProtoV5_0.isValid = true := by decide
    cases unit : req.computeUnit.validateNonZero with
    | some err => simp [version, valid]
    | none =>
      cases found : getPod req.pod with
      | none => simp [version, valid]
      | some obj =>
        by_cases node : obj.nodeName = ""
        · simp [version, valid, node]
          rintro rfl
          exact absurd node
        · cases owner : virtualMachineOwnerForPod obj.toK8sPod <;>
            simp [version, valid, node, owner] <;>
            · rintro rfl
              simp [node, owner]
  · -- a version other than v5.0 is refused, as invalid or as not shared
    simp only [version, if_false, Option.isNone_none, false_and, iff_false]
    cases valid : req.protoVersion.isValid <;> simp

/-- A request for any version but v5.0 fails the first check or the second. -/
theorem checkAgentRequest_of_version {getPod : NamespacedName → Option PodObject}
    {req : AgentRequest} (other : req.protoVersion ≠ Api.pluginProtoV5_0) :
    checkAgentRequest getPod req =
      .error (400, if req.protoVersion.isValid then protocolVersionMismatch
        else invalidProtocolVersion) := by
  unfold checkAgentRequest
  simp only [expected_latestSharedVersion, if_neg other]
  cases valid : req.protoVersion.isValid <;> rfl

/-! ### The handler, after the checks -/

theorem handleAgentRequest_of_error {env : Env} {watch : PodWatch} {req : AgentRequest}
    {err : Nat × String} (refused : checkAgentRequest watch.getPod req = .error err) :
    handleAgentRequest env watch req = ([], some (.ok (.error err))) := by
  unfold handleAgentRequest
  rw [refused]

/-- What the handler does with a request it accepts: the patch, sent if it changes something,
and the answer, from the patch's failure, the last permit, the listener and the wait. -/
theorem handleAgentRequest_of_ok {env : Env} {watch : PodWatch} {req : AgentRequest}
    {podObj : PodObject} {vmRef : OwnerReference}
    (accepted : checkAgentRequest watch.getPod req = .ok (podObj, vmRef)) :
    handleAgentRequest env watch req =
      ((if (vmPatchForAgentRequest env podObj req).2 then
          [.patchVM ⟨podObj.namespace, vmRef.name⟩ (vmPatchForAgentRequest env podObj req).1]
        else []),
        if (vmPatchForAgentRequest env podObj req).2 &&
            (env.patchVM ⟨podObj.namespace, vmRef.name⟩
              (vmPatchForAgentRequest env podObj req).1).isSome then
          some (.ok (.error (500, failedToPatchVM)))
        else if instantlyApproved req then some (.ok (.ok ⟨req.resources⟩))
        else if !watch.listenerForPod podObj.uid then some (.ok (.error (404, podNotFound)))
        else awaitPermit env.unmarshal req watch.wakeups) := by
  unfold handleAgentRequest
  rw [accepted]

/-- A request the handler does not grant at once is one it needs to wait for. -/
theorem needToWait_of_not_instantlyApproved {req : AgentRequest}
    (waits : instantlyApproved req = false) : needToWait req = true := by
  unfold instantlyApproved at waits
  unfold needToWait
  split
  · rfl
  · next lastPermit permit =>
    -- `HasFieldLessThan` is `HasFieldGreaterThan` the other way round
    rw [permit, Bool.not_eq_false'] at waits
    exact waits

/-- Where an answer of the handler comes from: an error status (a failed check, a failed patch
or a missing listener), the grant at once, or a pass of the wait loop. -/
theorem handleAgentRequest_answer {env : Env} {watch : PodWatch} {req : AgentRequest}
    {reply : Except String AgentReply}
    (answered : (handleAgentRequest env watch req).2 = some reply) :
    (∃ err, reply = .ok (.error err)) ∨
      (instantlyApproved req = true ∧ reply = .ok (.ok ⟨req.resources⟩)) ∨
      awaitPermit env.unmarshal req watch.wakeups = some reply := by
  cases checked : checkAgentRequest watch.getPod req with
  | error err =>
    rw [handleAgentRequest_of_error checked] at answered
    exact .inl ⟨err, (Option.some.inj answered).symm⟩
  | ok found =>
    obtain ⟨podObj, vmRef⟩ := found
    rw [handleAgentRequest_of_ok checked] at answered
    dsimp only at answered
    split at answered
    · exact .inl ⟨_, (Option.some.inj answered).symm⟩
    split at answered
    · next instant => exact .inr (.inl ⟨instant, (Option.some.inj answered).symm⟩)
    split at answered
    · exact .inl ⟨_, (Option.some.inj answered).symm⟩
    · exact .inr (.inr answered)

/-! ### The passes of the wait loop -/

/-- The pod's object answers only when it shows the resources requested. -/
theorem requested_of_shouldReturn {req : AgentRequest} {podObj : PodObject} {podState : Pod}
    (answers : shouldReturn req podObj podState = true) :
    requestedResources podState = req.resources := by
  unfold shouldReturn at answers
  split at answers <;> exact of_decide_eq_true (Bool.and_eq_true_iff.mp answers).1

/-- Once the timer fired, a pass answers. -/
theorem passPermit_timedOut (u : Unmarshal) (req : AgentRequest) (pod : Option PodObject) :
    (passPermit u req true pod).isSome = true := by
  cases pod with
  | none => rfl
  | some podObj =>
    simp only [passPermit]
    split
    · rfl
    · rfl
    · split
      · rfl
      · rw [if_pos trivial]
        rfl

/-- A pass grants what the pod's state reserves, once the pod shows the request, and either
answers it or the timer fired. -/
theorem passPermit_eq_permit {u : Unmarshal} {req : AgentRequest} {timedOut : Bool}
    {pod : Option PodObject} {resp : Api.PluginResponse}
    (granted : passPermit u req timedOut pod = some (.ok (.ok resp))) :
    ∃ podObj podState, pod = some podObj ∧
      podStateFromK8sObj u podObj.toK8sPod = .ok podState ∧
      requestedResources podState = req.resources ∧ resp.permit = reservedResources podState ∧
      (shouldReturn req podObj podState = true ∨ timedOut = true) := by
  cases pod with
  | none => cases granted
  | some podObj =>
    simp only [passPermit] at granted
    split at granted
    · cases granted
    · cases granted
    · next podState extracted =>
      split at granted
      · next answers =>
        cases granted
        have stored := podStateOrPanic_eq_ok_ok.mp extracted
        -- the pod's object answers the request, or the timer fired and it shows the request
        rcases Bool.or_eq_true_iff.mp answers with shows | late
        · exact ⟨podObj, podState, rfl, stored, requested_of_shouldReturn shows, rfl, .inl shows⟩
        · obtain ⟨fired, shown⟩ := Bool.and_eq_true_iff.mp late
          exact ⟨podObj, podState, rfl, stored, of_decide_eq_true shown, rfl, .inr fired⟩
      · split at granted <;> cases granted

/-- A pass panics only where the extraction of the pod's state does. -/
theorem passPermit_eq_panic {u : Unmarshal} {req : AgentRequest} {timedOut : Bool}
    {pod : Option PodObject} {err : String}
    (panicked : passPermit u req timedOut pod = some (.error err)) :
    err = nilPointerDereference ∧ ∃ podObj, pod = some podObj ∧
      podStateFromK8sObj u podObj.toK8sPod = .error nilPointerDereference := by
  cases pod with
  | none => cases panicked
  | some podObj =>
    simp only [passPermit] at panicked
    split at panicked
    · next err' extracted =>
      cases panicked
      obtain ⟨isPanic, extractedPanic⟩ := podStateOrPanic_eq_error extracted
      exact ⟨isPanic, podObj, rfl, extractedPanic⟩
    · cases panicked
    · split at panicked
      · cases panicked
      · split at panicked <;> cases panicked

/-- The loop answers at the first pass after the timer fired, whatever comes after it. -/
theorem awaitPermit_timedOut (u : Unmarshal) {req : AgentRequest} (needs : needToWait req = true)
    (pre post : List Wakeup) {w : Wakeup} (fired : w.timedOut = true) :
    awaitPermit u req (pre ++ w :: post) = awaitPermit u req (pre ++ [w]) ∧
      (awaitPermit u req (pre ++ w :: post)).isSome = true := by
  obtain ⟨reply, answered⟩ :=
    Option.isSome_iff_exists.mp (passPermit_timedOut u req (w.getPod req.pod))
  have first : ∀ rest, awaitPermit u req (w :: rest) = some reply := fun rest => by
    unfold awaitPermit
    rw [List.findSome?_cons, needs, fired, Bool.and_true, answered]
  unfold awaitPermit at first ⊢
  rw [List.findSome?_append, List.findSome?_append, first, first]
  exact ⟨rfl, by cases List.findSome? _ pre <;> rfl⟩

/-! ### A request for the sample VM -/

/-- A request of the agent of the sample VM's pod for 1 CPU and 1 GiB, with a compute unit of a
quarter CPU and 1 GiB, and the last permit `lastPermit`. -/
def sampleAgentRequest (lastPermit : Option Api.Resources) : AgentRequest :=
  ⟨Api.pluginProtoV5_0, ⟨"default", "vm-pod"⟩, ⟨250, 1073741824⟩, ⟨1000, 1073741824⟩, lastPermit⟩

/-- The watch store with the sample VM's pod on node "a" and a listener for it. -/
def sampleWatch (wakeups : List Wakeup) : PodWatch :=
  ⟨fun _ => some (sampleVMPod "a"), fun _ => true, wakeups⟩

/-- The timer firing, with the store unchanged. -/
def sampleTimeout : Wakeup := ⟨true, fun _ => some (sampleVMPod "a")⟩

/-! ### What the handler guarantees -/

/-- The handler makes at most one request of the cluster: the patch of the VM that owns the
requested pod, for a request of version v5.0 with a non-zero compute unit, for a pod the watch
store holds on a node, and only when the patch changes an annotation. -/
theorem agent_request_patches_only_accepted (env : Env) (watch : PodWatch) (req : AgentRequest) :
    (handleAgentRequest env watch req).1.length ≤ 1 ∧
      ∀ r ∈ (handleAgentRequest env watch req).1, ∃ podObj vmRef,
        req.protoVersion = Api.pluginProtoV5_0 ∧ req.computeUnit.validateNonZero = none ∧
        watch.getPod req.pod = some podObj ∧ podObj.nodeName ≠ "" ∧
        virtualMachineOwnerForPod podObj.toK8sPod = some vmRef ∧
        (vmPatchForAgentRequest env podObj req).2 = true ∧
        r = .patchVM ⟨podObj.namespace, vmRef.name⟩
          (vmPatchForAgentRequest env podObj req).1 := by
  cases checked : checkAgentRequest watch.getPod req with
  | error err =>
    rw [handleAgentRequest_of_error checked]
    simp
  | ok found =>
    obtain ⟨podObj, vmRef⟩ := found
    rw [handleAgentRequest_of_ok checked]
    dsimp only
    split
    · next changed =>
      refine ⟨by simp, fun r made => ⟨podObj, vmRef, ?_⟩⟩
      obtain ⟨version, unit, found, node, owner⟩ := checkAgentRequest_eq_ok.mp checked
      exact ⟨version, unit, found, node, owner, changed, List.mem_singleton.mp made⟩
    · simp

/-- A request for any version but v5.0 is refused with a 400, as invalid for the zero version and
as a mismatch for any other, before the pod is looked up and without any request of the cluster. -/
theorem agent_request_version_rejected (env : Env) (watch : PodWatch) {req : AgentRequest}
    (other : req.protoVersion ≠ Api.pluginProtoV5_0) :
    handleAgentRequest env watch req =
      ([], some (.ok (.error (400, if req.protoVersion.isValid then protocolVersionMismatch
        else invalidProtocolVersion)))) :=
  handleAgentRequest_of_error (checkAgentRequest_of_version other)

theorem agent_request_version_rejected_sample :
    ({ sampleAgentRequest none with protoVersion := 6 }).protoVersion ≠ Api.pluginProtoV5_0 ∧
      handleAgentRequest sampleVMEnv (sampleWatch [])
          { sampleAgentRequest none with protoVersion := 6 } =
        ([], some (.ok (.error (400, protocolVersionMismatch)))) :=
  ⟨by decide, agent_request_version_rejected sampleVMEnv (sampleWatch []) (by decide)⟩

/-- Every permit the handler grants is what the agent asked for, when that is no more than its
last permit, or what the pod's object approves, read while waiting, when the object shows the
request and either approves beyond the last permit or the timer fired. -/
theorem agent_permit_reserved_or_last {env : Env} {watch : PodWatch} {req : AgentRequest}
    {resp : Api.PluginResponse}
    (granted : (handleAgentRequest env watch req).2 = some (.ok (.ok resp))) :
    (∃ lastPermit, req.lastPermit = some lastPermit ∧ req.resources ≤ lastPermit ∧
        resp.permit = req.resources) ∨
      ∃ w ∈ watch.wakeups, ∃ podObj podState, w.getPod req.pod = some podObj ∧
        podStateFromK8sObj env.unmarshal podObj.toK8sPod = .ok podState ∧
        requestedResources podState = req.resources ∧ resp.permit = reservedResources podState ∧
        (shouldReturn req podObj podState = true ∨ w.timedOut = true) := by
  rcases handleAgentRequest_answer granted with
    ⟨err, refused⟩ | ⟨instant, grantedNow⟩ | waited
  · cases refused
  · -- granted at once: the request is within the last permit
    cases grantedNow
    left
    unfold instantlyApproved at instant
    split at instant
    · cases instant
    · next lastPermit permit =>
      rw [Bool.not_eq_true', Api.Resources.hasFieldGreaterThan_eq_false] at instant
      exact ⟨lastPermit, permit, instant, rfl⟩
  · -- granted by a pass of the wait loop
    right
    obtain ⟨w, waited, passed⟩ := List.exists_of_findSome?_eq_some waited
    obtain ⟨podObj, podState, read, extracted, requested, permit, answers⟩ :=
      passPermit_eq_permit passed
    refine ⟨w, waited, podObj, podState, read, extracted, requested, permit, ?_⟩
    exact answers.imp id fun late => (Bool.and_eq_true_iff.mp late).2

/-- The sample request asks for its last permit, so it is granted at once. -/
theorem agent_permit_reserved_or_last_sample :
    (handleAgentRequest sampleVMEnv (sampleWatch [])
        (sampleAgentRequest (some ⟨1000, 1073741824⟩))).2 =
      some (.ok (.ok ⟨⟨1000, 1073741824⟩⟩)) ∧
    ((∃ lastPermit,
        (sampleAgentRequest (some ⟨1000, 1073741824⟩)).lastPermit = some lastPermit ∧
        (sampleAgentRequest (some ⟨1000, 1073741824⟩)).resources ≤ lastPermit ∧
        (⟨⟨1000, 1073741824⟩⟩ : Api.PluginResponse).permit =
          (sampleAgentRequest (some ⟨1000, 1073741824⟩)).resources) ∨
      ∃ w ∈ (sampleWatch []).wakeups, ∃ podObj podState,
        w.getPod (sampleAgentRequest (some ⟨1000, 1073741824⟩)).pod = some podObj ∧
        podStateFromK8sObj sampleVMEnv.unmarshal podObj.toK8sPod = .ok podState ∧
        requestedResources podState =
          (sampleAgentRequest (some ⟨1000, 1073741824⟩)).resources ∧
        (⟨⟨1000, 1073741824⟩⟩ : Api.PluginResponse).permit = reservedResources podState ∧
        (shouldReturn (sampleAgentRequest (some ⟨1000, 1073741824⟩)) podObj podState = true ∨
          w.timedOut = true)) :=
  have granted : (handleAgentRequest sampleVMEnv (sampleWatch [])
      (sampleAgentRequest (some ⟨1000, 1073741824⟩))).2 =
        some (.ok (.ok ⟨⟨1000, 1073741824⟩⟩)) := by
    rfl
  ⟨granted, agent_permit_reserved_or_last granted⟩

/-- The handler panics only when the pod's object, read again after a wake-up of the wait loop,
is a VM's without the VM's resources annotation, and the panic is the nil dereference; the HTTP
handler answers it with a 500 and "request handler panicked". -/
theorem agent_request_panics_only_without_resources {env : Env} {watch : PodWatch}
    {req : AgentRequest} {err : String}
    (panicked : (handleAgentRequest env watch req).2 = some (.error err)) :
    err = nilPointerDereference ∧
      (∃ w ∈ watch.wakeups, ∃ podObj, w.getPod req.pod = some podObj ∧
        (virtualMachineOwnerForPod podObj.toK8sPod).isSome ∧
        podObj.annotations virtualMachineResourcesAnnotation = none) ∧
      ∀ marshalResponse, (permitHandler env watch marshalResponse "POST" (.ok req)).2 =
        some (500, requestHandlerPanicked) := by
  have answered : ∀ marshalResponse,
      (permitHandler env watch marshalResponse "POST" (.ok req)).2 =
        some (500, requestHandlerPanicked) := fun marshalResponse => by
    rcases handled : handleAgentRequest env watch req with ⟨requests, outcome⟩
    have outcomeIs : outcome = some (.error err) := by
      rw [handled] at panicked
      exact panicked
    simp only [permitHandler, ne_eq, not_true_eq_false, if_false, handled]
    rw [outcomeIs]
    rfl
  rcases handleAgentRequest_answer panicked with ⟨_, refused⟩ | ⟨-, grantedNow⟩ | waited
  · cases refused
  · cases grantedNow
  · -- only a pass of the wait loop can panic
    obtain ⟨w, waited, passed⟩ := List.exists_of_findSome?_eq_some waited
    obtain ⟨isPanic, podObj, read, extracted⟩ := passPermit_eq_panic passed
    obtain ⟨owned, missing⟩ := State.podStateFromK8sObj_nilPointerDereference extracted
    exact ⟨isPanic, ⟨w, waited, podObj, read, owned, missing⟩, answered⟩

/-- The sample VM's pod as the store shows it after a wake-up, without its annotations. -/
def sampleBarePod : PodObject := { sampleVMPod "a" with annotations := fun _ => none }

theorem agent_request_panics_only_without_resources_sample :
    (handleAgentRequest sampleVMEnv
        ⟨fun _ => some (sampleVMPod "a"), fun _ => true, [⟨false, fun _ => some sampleBarePod⟩]⟩
        (sampleAgentRequest none)).2 = some (.error nilPointerDereference) ∧
    nilPointerDereference = nilPointerDereference ∧
      (∃ w ∈ [(⟨false, fun _ => some sampleBarePod⟩ : Wakeup)], ∃ podObj,
        w.getPod (sampleAgentRequest none).pod = some podObj ∧
        (virtualMachineOwnerForPod podObj.toK8sPod).isSome ∧
        podObj.annotations virtualMachineResourcesAnnotation = none) ∧
      ∀ marshalResponse, (permitHandler sampleVMEnv
          ⟨fun _ => some (sampleVMPod "a"), fun _ => true, [⟨false, fun _ => some sampleBarePod⟩]⟩
          marshalResponse "POST" (.ok (sampleAgentRequest none))).2 =
        some (500, requestHandlerPanicked) :=
  have panicked : (handleAgentRequest sampleVMEnv
      ⟨fun _ => some (sampleVMPod "a"), fun _ => true, [⟨false, fun _ => some sampleBarePod⟩]⟩
      (sampleAgentRequest none)).2 = some (.error nilPointerDereference) := by
    rfl
  ⟨panicked, agent_request_panics_only_without_resources panicked⟩

/-- However the cluster behaves after it, the first time the timer fires the handler answers,
and what comes after does not change the answer. -/
theorem agent_request_answered_by_timeout (env : Env) (getPod : NamespacedName → Option PodObject)
    (listenerForPod : String → Bool) (req : AgentRequest) {pre post : List Wakeup} {w : Wakeup}
    (fired : w.timedOut = true) :
    (handleAgentRequest env ⟨getPod, listenerForPod, pre ++ w :: post⟩ req).2 =
        (handleAgentRequest env ⟨getPod, listenerForPod, pre ++ [w]⟩ req).2 ∧
      (handleAgentRequest env ⟨getPod, listenerForPod, pre ++ w :: post⟩ req).2.isSome =
        true := by
  cases checked : checkAgentRequest getPod req with
  | error err =>
    rw [handleAgentRequest_of_error checked, handleAgentRequest_of_error checked]
    exact ⟨rfl, rfl⟩
  | ok found =>
    obtain ⟨podObj, vmRef⟩ := found
    rw [handleAgentRequest_of_ok checked, handleAgentRequest_of_ok checked]
    dsimp only
    split
    · exact ⟨rfl, rfl⟩
    split
    · exact ⟨rfl, rfl⟩
    · next instant =>
      split
      · exact ⟨rfl, rfl⟩
      · exact awaitPermit_timedOut env.unmarshal
          (needToWait_of_not_instantlyApproved (Bool.not_eq_true _ ▸ instant)) pre post fired

theorem agent_request_answered_by_timeout_sample :
    sampleTimeout.timedOut = true ∧
      (handleAgentRequest sampleVMEnv (sampleWatch ([] ++ sampleTimeout :: []))
          (sampleAgentRequest none)).2 =
        (handleAgentRequest sampleVMEnv (sampleWatch ([] ++ [sampleTimeout]))
          (sampleAgentRequest none)).2 ∧
      (handleAgentRequest sampleVMEnv (sampleWatch ([] ++ sampleTimeout :: []))
          (sampleAgentRequest none)).2.isSome = true :=
  ⟨rfl, agent_request_answered_by_timeout sampleVMEnv _ _ (sampleAgentRequest none) rfl⟩

end Autoscaling.Plugin
