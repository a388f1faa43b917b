import Autoscaling.Agent.Core.NextActions

/-!
# Updates of the state (`pkg/agent/core/state.go`)

The public functions that change a `core.State`: new metrics and VM information, and the
plugin, vm-monitor and NeonVM handles through which the executor reports that a request started
and how it ended. Each returns the new state, or a panic: several dereference a pointer that
only the executor's discipline keeps set (the plugin's last request, the monitor's approved
resources and ongoing request), and `NeonVM().RequestSuccessful` panics without an ongoing
request. `Plugin().RequestSuccessful` also returns its validation error, as a value.
-/

namespace Autoscaling.Agent.Core

open Go Vmv1 Api

/-- The panic of `NeonVM().RequestSuccessful` without an ongoing request. -/
def neonVMSuccessWithoutRequest : String :=
  "received NeonVM().RequestSuccessful() update without ongoing request"

namespace State

variable {F : Type}

/-- `s.updateNeonVMCurrentRevision(currentRevision)`. The error `Observe` returns is only logged;
a panic of `Observe` is a panic here. -/
def updateNeonVMCurrentRevision (s : State F) (currentRevision : RevisionWithTime) :
    Except String (State F) := do
  let neonvmCurrent := Revsource.propagate s.neonvm.targetRevision s.neonvm.currentRevision
  let (_, revisionSource) ←
    s.revisionSource.observe currentRevision.updatedAt currentRevision.revision
  return { s with neonvm.currentRevision := neonvmCurrent, revisionSource,
                  lastDesiredResources := none }

/-- `s.UpdatedVM(vm)`: the new VM information, but with the resources the state believes the VM
uses. -/
def updatedVM (s : State F) (vm : VmInfo F) : Except String (State F) := do
  let vm ← vm.setUsing s.vm.using
  let s := { s with vm }
  let s ← match vm.currentRevision with
    | some currentRevision => s.updateNeonVMCurrentRevision currentRevision
    | none => pure s
  -- stale LFC metrics are dropped once LFC metrics are disabled
  let enableLFCMetrics ← deref s.scalingConfig.enableLFCMetrics
  return if !enableLFCMetrics then { s with lfcMetrics := none } else s

/-- `s.UpdateSystemMetrics(metrics)`. -/
def updateSystemMetrics (s : State F) (metrics : SystemMetrics F) : State F :=
  { s with metrics := some metrics }

/-- `s.UpdateLFCMetrics(metrics)`. -/
def updateLFCMetrics (s : State F) (metrics : LFCMetrics F) : State F :=
  { s with lfcMetrics := some metrics }

/-! ### The scheduler plugin -/

/-- `Plugin().StartingRequest(now, resources)`. -/
def pluginStartingRequest (s : State F) (now : Int) (resources : Resources) : State F :=
  { s with plugin.lastRequest := some ⟨now, resources⟩, plugin.ongoingRequest := true }

/-- `Plugin().RequestFailed(now)`. -/
def pluginRequestFailed (s : State F) (now : Int) : State F :=
  { s with plugin.ongoingRequest := false, plugin.lastFailureAt := some now }

/-- `Plugin().RequestSuccessful(now, targetRevision, resp)`: the new state and the error it
returns. An invalid permit is recorded as a failure and changes nothing else. -/
def pluginRequestSuccessful (s : State F) (now : Int) (targetRevision : RevisionWithTime)
    (resp : PluginResponse) : Except String (State F × Option String) := do
  let s := { s with plugin.ongoingRequest := false }
  let failed (err : String) : State F × Option String :=
    ({ s with plugin.lastFailureAt := some now }, some err)
  if let some err := resp.permit.validateNonZero then
    return failed ("Invalid permit: " ++ err)
  let lastRequest ← deref s.plugin.lastRequest
  if resp.permit.hasFieldGreaterThan lastRequest.resources then
    return failed "Permit has resources greater than request"
  if resp.permit.hasFieldLessThan s.vm.using then
    return failed "Permit has resources less than VM"
  return ({ s with plugin.permit := some resp.permit,
                   plugin.currentRevision :=
                     Revsource.propagate targetRevision s.plugin.currentRevision }, none)

/-! ### The vm-monitor -/

/-- `Monitor().Reset()`. -/
def monitorReset (s : State F) : State F :=
  { s with monitor := MonitorState.initial }

/-- `Monitor().Active(active)`: a newly active monitor is taken to have approved what the VM
uses (the source marks this as racy). -/
def monitorActive (s : State F) (active : Bool) : State F :=
  if active then { s with monitor.approved := some s.vm.using }
  else { s with monitor.approved := none }

/-- `Monitor().UpscaleRequested(now, resources)`. -/
def monitorUpscaleRequested (s : State F) (now : Int) (resources : MoreResources) :
    Except String (State F) := do
  let approved ← deref s.monitor.approved
  return { s with monitor.requestedUpscale := some ⟨now, approved, resources⟩ }

/-- `Monitor().StartingUpscaleRequest(now, resources)`. -/
def monitorStartingUpscaleRequest (s : State F) (resources : Resources) : State F :=
  { s with monitor.ongoingRequest := some ⟨.upscale, resources⟩,
           monitor.upscaleFailureAt := none }

/-- `Monitor().UpscaleRequestSuccessful(now)`. -/
def monitorUpscaleRequestSuccessful (s : State F) : Except String (State F) := do
  let ongoing ← deref s.monitor.ongoingRequest
  return { s with monitor.approved := some ongoing.requested, monitor.ongoingRequest := none }

/-- `Monitor().UpscaleRequestFailed(now)`. -/
def monitorUpscaleRequestFailed (s : State F) (now : Int) : State F :=
  { s with monitor.ongoingRequest := none, monitor.upscaleFailureAt := some now }

/-- `Monitor().StartingDownscaleRequest(now, resources)`. -/
def monitorStartingDownscaleRequest (s : State F) (resources : Resources) : State F :=
  { s with monitor.ongoingRequest := some ⟨.downscale, resources⟩,
           monitor.downscaleFailureAt := none }

/-- `Monitor().DownscaleRequestAllowed(now, rev)`. -/
def monitorDownscaleRequestAllowed (s : State F) (rev : RevisionWithTime) :
    Except String (State F) := do
  let ongoing ← deref s.monitor.ongoingRequest
  return { s with monitor.approved := some ongoing.requested, monitor.ongoingRequest := none,
                  monitor.currentRevision := Revsource.propagate rev s.monitor.currentRevision }

/-- `Monitor().DownscaleRequestDenied(now, targetRevision)`. -/
def monitorDownscaleRequestDenied (s : State F) (now : Int) (targetRevision : RevisionWithTime) :
    Except String (State F) := do
  let approved ← deref s.monitor.approved
  let ongoing ← deref s.monitor.ongoingRequest
  return { s with monitor.deniedDownscale := some ⟨now, approved, ongoing.requested⟩,
                  monitor.ongoingRequest := none,
                  monitor.currentRevision :=
                    Revsource.propagate targetRevision s.monitor.currentRevision }

/-- `Monitor().DownscaleRequestFailed(now)`. -/
def monitorDownscaleRequestFailed (s : State F) (now : Int) : State F :=
  { s with monitor.ongoingRequest := none, monitor.downscaleFailureAt := some now }

/-! ### NeonVM -/

/-- `NeonVM().StartingRequest(now, resources)`; the scaling event it reports is left out. -/
def neonVMStartingRequest (s : State F) (resources : Resources) : State F :=
  { s with neonvm.ongoingRequested := some resources }

/-- `NeonVM().RequestSuccessful(now)`: the VM is taken to use what was requested. -/
def neonVMRequestSuccessful (s : State F) : Except String (State F) := do
  let some resources := s.neonvm.ongoingRequested | throw neonVMSuccessWithoutRequest
  let vm ← s.vm.setUsing resources
  return { s with vm, neonvm.ongoingRequested := none }

/-- `NeonVM().RequestFailed(now)`. -/
def neonVMRequestFailed (s : State F) (now : Int) : State F :=
  { s with neonvm.ongoingRequested := none, neonvm.requestFailedAt := some now }

end State

end Autoscaling.Agent.Core
