import Autoscaling.Agent.Core.State

/-!
# `NextActions` (`pkg/agent/core/state.go`)

`nextActions` first computes the desired resources (`desiredResourcesFromMetricsOrRequestedUpscaling`),
then, one party after another, the request to make to the scheduler plugin, to NeonVM and to the
vm-monitor (an upscale notification before a downscale request), and last the time to wait
before anything can change: the least of the waits that the parties' calculations ask for.

Several calls are integrity checks that panic: `clampResources` on bounds that do not contain
the current resources, the monitor calculations on a request on the wrong side of what the
vm-monitor approved, and the desired resources outside the VM's bounds. A panic is
`Except.error` with the fixed part of the panic's text (the values Go formats into it are left
out). `nextActions` is not pure: it moves the target revision on, remembers the desired
resources and, when it asks for a NeonVM request, records the revision that request is for.

The closure that `desiredResourcesFromMetricsOrRequestedUpscaling` returns to compute its wait is
`DesiredWait`, the values it captures, with `DesiredWait.calculate` as its body.
-/

namespace Autoscaling.Agent.Core

open Go Vmv1 Api

/-! ### Panics -/

/-- The panic of `clampResources` on a lower bound above the current resources. -/
def clampLowerBoundInvalid : String :=
  "clampResources called with invalid arguments: lowerBound has field greater than current"

/-- The panic of `clampResources` on an upper bound below the current resources. -/
def clampUpperBoundInvalid : String :=
  "clampResources called with invalid arguments: upperBound has field less than current"

/-- The panic of `calculateMonitorUpscaleAction`. -/
def monitorUpscaleBelowApproved : String :=
  "resources for vm-monitor upscaling are less than what was last approved"

/-- The panic of `calculateMonitorDownscaleAction` on its request. -/
def monitorDownscaleAboveApproved : String :=
  "resources for vm-monitor downscaling are greater than what was last approved"

/-- The panic of `calculateMonitorDownscaleAction` on a denied downscale still in effect. -/
def deniedDownscaleTooSoon : String :=
  "Wanted to send vm-monitor downscale request, but too soon after previously denied " ++
    "downscaling that should have been handled earlier"

/-- The panic of `desiredResourcesFromMetricsOrRequestedUpscaling` above the VM's maximum. -/
def desiredAboveMax : String :=
  "produced invalid desired state: result has field greater than max"

/-- The panic of `desiredResourcesFromMetricsOrRequestedUpscaling` below the VM's minimum. -/
def desiredBelowMin : String :=
  "produced invalid desired state: result has field less than min"

/-! ### Clamping -/

/-- One field of `clampResources`: a decrease is bounded below, an increase above. -/
def clampField {α : Type} [LT α] [DecidableLT α] [Max α] [Min α] (current desired : α)
    (lowerBound upperBound : Option α) : α :=
  if desired < current then
    match lowerBound with
    | some lower => max desired lower
    | none => desired
  else if desired > current then
    match upperBound with
    | some upper => min desired upper
    | none => desired
  else desired

/-- `s.clampResources(current, desired, lowerBound, upperBound)`. -/
def clampResources (current desired : Resources) (lowerBound upperBound : Option Resources) :
    Except String Resources :=
  if lowerBound.any (·.hasFieldGreaterThan current) then .error clampLowerBoundInvalid
  else if upperBound.any (·.hasFieldLessThan current) then .error clampUpperBoundInvalid
  else .ok ⟨clampField current.vcpu desired.vcpu (lowerBound.map (·.vcpu)) (upperBound.map (·.vcpu)),
    clampField current.mem desired.mem (lowerBound.map (·.mem)) (upperBound.map (·.mem))⟩

/-- The wait before retrying after the failure at `failedAt`, while it has not passed: the
`timeUntilFailureBackoffExpires` of each of the four calculations. -/
def failureBackoff (failedAt : Option Int) (retryWait : Duration) (now : Int) : Option Duration :=
  match failedAt with
  | some failed =>
    let timeUntilFailureBackoffExpires := Time.sub (Time.add failed retryWait) now
    if timeUntilFailureBackoffExpires > 0 then some timeUntilFailureBackoffExpires else none
  | none => none

namespace State

variable {F : Type}

/-- `s.monitorApprovedLowerBound()`. -/
def monitorApprovedLowerBound (s : State F) : Resources :=
  s.monitor.approved.getD s.vm.using

/-- `s.pluginApprovedUpperBound()`. -/
def pluginApprovedUpperBound (s : State F) : Resources :=
  s.plugin.permit.getD s.vm.using

/-! ### Desired resources -/

end State

/-- The time until something that happened at `since`, if it did, stops being in effect after
`period`; zero if nothing happened. -/
def timeUntilExpired (since : Option Int) (period : Duration) (now : Int) : Duration :=
  match since with
  | some happened => Time.sub (Time.add happened period) now
  | none => 0

namespace State

variable {F : Type}

/-- `s.timeUntilRequestedUpscalingExpired(now)`. -/
def timeUntilRequestedUpscalingExpired (s : State F) (now : Int) : Duration :=
  timeUntilExpired (s.monitor.requestedUpscale.map (·.at))
    s.config.monitorRequestedUpscaleValidPeriod now

/-- `s.timeUntilDeniedDownscaleExpired(now)`. -/
def timeUntilDeniedDownscaleExpired (s : State F) (now : Int) : Duration :=
  timeUntilExpired (s.monitor.deniedDownscale.map (·.at))
    s.config.monitorDeniedDownscaleCooldown now

end State

/-- `s.requiredCUForRequestedUpscaling(computeUnit, requestedUpscale)`. -/
def requiredCUForRequestedUpscaling (computeUnit : Resources)
    (requestedUpscale : RequestedUpscale) : Except String UInt32 := do
  let requested := requestedUpscale.requested
  let base := requestedUpscale.base
  let required : UInt32 := 0
  let required ← if requested.cpu then do
      let perCU ← div base.vcpu computeUnit.vcpu
      pure (max required (1 + perCU))
    else pure required
  let required ← if requested.memory then do
      let perCU ← div base.mem computeUnit.mem
      pure (max required (1 + perCU.toUInt32))
    else pure required
  return required

/-- `s.requiredCUForDeniedDownscale(computeUnit, deniedResources)`. -/
def requiredCUForDeniedDownscale (computeUnit deniedResources : Resources) :
    Except String UInt32 := do
  let cpuPerCU ← div deniedResources.vcpu computeUnit.vcpu
  let memPerCU ← div deniedResources.mem computeUnit.mem
  return max (1 + cpuPerCU) (1 + memPerCU.toUInt32)

/-- `s.minRequiredResourcesForDeniedDownscale(computeUnit, denied)`: one compute unit above the
denied request, but not above what the VM had when it asked. -/
def minRequiredResourcesForDeniedDownscale (computeUnit : Resources) (denied : DeniedDownscale) :
    Except String Resources := do
  let cpuPerCU ← div denied.requested.vcpu computeUnit.vcpu
  let memPerCU ← div denied.requested.mem computeUnit.mem
  return ⟨min denied.current.vcpu (computeUnit.vcpu * (1 + cpuPerCU)),
    min denied.current.mem (computeUnit.mem * (1 + memPerCU))⟩

/-- What the closure `calculateWaitTime` captures. -/
structure DesiredWait where
  deniedDownscaleAffectedResult : Bool
  timeUntilDeniedDownscaleExpired : Duration
  requestedUpscalingAffectedResult : Bool
  timeUntilRequestedUpscalingExpired : Duration
deriving DecidableEq, Repr

/-- The body of `calculateWaitTime`, run on the monitor's ongoing request at the time of the call
and on the actions computed so far. -/
def DesiredWait.calculate (w : DesiredWait) (ongoing : Option OngoingMonitorRequest)
    (actions : ActionSet) : Option Duration :=
  let (waiting, waitTime) :=
    if w.deniedDownscaleAffectedResult && actions.monitorDownscale.isNone && ongoing.isNone then
      (true, min maxDuration w.timeUntilDeniedDownscaleExpired)
    else (false, maxDuration)
  let (waiting, waitTime) :=
    if w.requestedUpscalingAffectedResult then
      (true, min waitTime w.timeUntilRequestedUpscalingExpired)
    else (waiting, waitTime)
  if waiting then some waitTime else none

namespace State

variable {F : Type}

/-- `s.updateTargetRevision(now, desired, current)`: a new revision from the revision source
whenever the desired resources change, flagged by the direction of the change. -/
def updateTargetRevision (s : State F) (now : Int) (desired current : Resources) : State F :=
  let last := s.lastDesiredResources.getD current
  let s := { s with lastDesiredResources := some last }
  if last = desired then s
  else
    let flags : Flag := 0
    let flags := if desired.hasFieldGreaterThan last then flags.set Revsource.upscale else flags
    let flags := if desired.hasFieldLessThan last then flags.set Revsource.downscale else flags
    let next := s.revisionSource.next now flags
    { s with targetRevision := next.1, revisionSource := next.2 }

/-- The goal number of compute units after requested upscaling or denied downscaling that is
still in effect: `(affected, goalCU)`, where `affected` says that `reqCU` raised the goal. -/
def raiseGoal (initialGoalCU goalCU reqCU : UInt32) : Bool × UInt32 :=
  if reqCU > initialGoalCU then (true, max goalCU reqCU) else (false, goalCU)

/-- The goal after requested upscaling, if it is in effect. -/
def requestedUpscalingGoal (s : State F) (initialGoalCU : UInt32) (inEffect : Bool) :
    Except String (Bool × UInt32) :=
  if inEffect then do
    let requested ← deref s.monitor.requestedUpscale
    let reqCU ← requiredCUForRequestedUpscaling s.config.computeUnit requested
    pure (raiseGoal initialGoalCU initialGoalCU reqCU)
  else pure (false, initialGoalCU)

/-- The goal after denied downscaling, if it is in effect. -/
def deniedDownscaleGoal (s : State F) (initialGoalCU goalCU : UInt32) (inEffect : Bool) :
    Except String (Bool × UInt32) :=
  if inEffect then do
    let denied ← deref s.monitor.deniedDownscale
    let reqCU ← requiredCUForDeniedDownscale s.config.computeUnit denied.requested
    pure (raiseGoal initialGoalCU goalCU reqCU)
  else pure (false, goalCU)

/-- The resources of `goalCU` compute units, never below what the VM uses without all the
metrics, and within the VM's bounds. -/
def boundedGoal (s : State F) (hasAllMetrics : Bool) (goalCU : UInt32) : Resources :=
  let goalResources := s.config.computeUnit.mul goalCU.toUInt16
  let goalResources := if !hasAllMetrics then goalResources.max s.vm.using else goalResources
  (goalResources.min s.vm.max).max s.vm.min

/-- While denied downscaling is in effect, never back down to it, even above the maximum. -/
def deniedDownscaleFloor (s : State F) (result : Resources) (affected inEffect : Bool) :
    Except String (Resources × Bool) :=
  if inEffect then do
    let denied ← deref s.monitor.deniedDownscale
    let preMaxResult := result
    let required ← minRequiredResourcesForDeniedDownscale s.config.computeUnit denied
    let result := result.max required
    pure (result, affected || result != preMaxResult)
  else pure (result, affected)

/-- The integrity checks on the desired resources. -/
def checkDesired (s : State F) (result : Resources) (deniedDownscaleAffectedResult : Bool) :
    Except String Unit :=
  if !deniedDownscaleAffectedResult && result.hasFieldGreaterThan s.vm.max then
    throw desiredAboveMax
  else if result.hasFieldLessThan s.vm.min then
    throw desiredBelowMin
  else pure ()

/-- The desired resources, and whether requested upscaling and denied downscaling affected them,
given whether each is in effect. -/
def desiredOutcome (goalCU : GoalCUFn F) (s : State F)
    (requestedUpscalingInEffect deniedDownscaleInEffect : Bool) :
    Except String (Resources × Bool × Bool) := do
  let sg ← calculateGoalCU goalCU s.scalingConfig s.config.computeUnit s.metrics s.lfcMetrics
  let (requestedUpscalingAffectedResult, goalCU) ←
    s.requestedUpscalingGoal sg.goalCU requestedUpscalingInEffect
  let (deniedDownscaleAffectedResult, goalCU) ←
    s.deniedDownscaleGoal sg.goalCU goalCU deniedDownscaleInEffect
  let result := s.boundedGoal sg.hasAllMetrics goalCU
  let (result, deniedDownscaleAffectedResult) ←
    s.deniedDownscaleFloor result deniedDownscaleAffectedResult deniedDownscaleInEffect
  s.checkDesired result deniedDownscaleAffectedResult
  return (result, requestedUpscalingAffectedResult, deniedDownscaleAffectedResult)

/-- `s.desiredResourcesFromMetricsOrRequestedUpscaling(now)`: the desired resources, what the wait
it reports depends on, and the state with its target revision and `LastDesiredResources`
updated. -/
def desiredResourcesFromMetricsOrRequestedUpscaling (goalCU : GoalCUFn F) (s : State F)
    (now : Int) : Except String (Resources × DesiredWait × State F) := do
  let timeUntilRequestedUpscalingExpired := s.timeUntilRequestedUpscalingExpired now
  let timeUntilDeniedDownscaleExpired := s.timeUntilDeniedDownscaleExpired now
  let (result, requestedUpscalingAffectedResult, deniedDownscaleAffectedResult) ←
    s.desiredOutcome goalCU (timeUntilRequestedUpscalingExpired > 0)
      (timeUntilDeniedDownscaleExpired > 0)
  let s := s.updateTargetRevision now result s.vm.using
  let s := { s with lastDesiredResources := some result }
  return (result, ⟨deniedDownscaleAffectedResult, timeUntilDeniedDownscaleExpired,
    requestedUpscalingAffectedResult, timeUntilRequestedUpscalingExpired⟩, s)

/-! ### The scheduler plugin -/

/-- `timeUntilNextRequestTick` of `calculatePluginAction`. -/
def timeUntilNextRequestTick (s : State F) (now : Int) : Duration :=
  match s.plugin.lastRequest with
  | some last => s.config.pluginRequestTick - Time.sub now last.at
  | none => 0

/-- `timeUntilRetryBackoffExpires` of `calculatePluginAction`: while the last request, not yet
fully granted, may not be repeated. -/
def timeUntilRetryBackoffExpires (s : State F) (now : Int) : Duration :=
  match s.plugin.lastRequest, s.plugin.permit with
  | some last, some permit =>
    if !s.plugin.ongoingRequest && last.resources.hasFieldGreaterThan permit then
      Time.sub (Time.add last.at s.config.pluginDeniedRetryWait) now
    else 0
  | _, _ => 0

/-- `s.calculatePluginAction(now, desiredResources)`. -/
def calculatePluginAction (s : State F) (now : Int) (desiredResources : Resources) :
    Except String (Option ActionPluginRequest × Option Duration) := do
  -- only valid with a permit and no ongoing NeonVM request, as the source says
  let requestResources ← clampResources s.vm.using desiredResources (some s.vm.using) none
  let currentResources := match s.neonvm.ongoingRequested with
    | some ongoing => s.vm.using.max ongoing
    | none => s.vm.using
  let timeUntilNextRequestTick := s.timeUntilNextRequestTick now
  let timeForRequest := timeUntilNextRequestTick ≤ 0
  let timeUntilRetryBackoffExpires := s.timeUntilRetryBackoffExpires now
  let waitingOnRetryBackoff := timeUntilRetryBackoffExpires > 0
  let wantToRequestNewResources := s.plugin.lastRequest.isSome &&
    s.plugin.permit.any (requestResources != ·)
  let shouldRequestNewResources := wantToRequestNewResources && !waitingOnRetryBackoff
  let permittedRequestResources :=
    if shouldRequestNewResources then requestResources else currentResources
  if s.plugin.ongoingRequest then
    -- the source reads the ongoing request, to log it
    let _ ← deref s.plugin.lastRequest
    return (none, none)
  if let some wait := failureBackoff s.plugin.lastFailureAt s.config.pluginRetryWait now then
    return (none, some wait)
  if timeForRequest || shouldRequestNewResources then
    return (some ⟨s.plugin.permit, permittedRequestResources, s.targetRevision.withTime now⟩,
      none)
  else
    let waitTime := if waitingOnRetryBackoff then
        min timeUntilNextRequestTick timeUntilRetryBackoffExpires
      else timeUntilNextRequestTick
    return (none, some waitTime)

/-! ### NeonVM -/

/-- `s.calculateNeonVMAction(now, desiredResources, pluginRequested, _)`: besides the action, the
state with the revision a new request is for. -/
def calculateNeonVMAction (s : State F) (now : Int) (desiredResources : Resources)
    (pluginRequested : Option Resources) :
    Except String (Option ActionNeonVMRequest × Option Duration × State F) := do
  let targetRevision := s.targetRevision
  -- a downscale needs the monitor's permit, an upscale the plugin's
  let targetRevision :=
    if desiredResources.hasFieldLessThan s.vm.using && s.monitor.currentRevision.value > 0 then
      targetRevision.min s.monitor.currentRevision
    else targetRevision
  let targetRevision :=
    if desiredResources.hasFieldGreaterThan s.vm.using && s.plugin.currentRevision.value > 0 then
      targetRevision.min s.plugin.currentRevision
    else targetRevision
  let desiredResources ← clampResources s.vm.using desiredResources
    (some s.monitorApprovedLowerBound) (some s.pluginApprovedUpperBound)
  if s.vm.using = desiredResources then
    return (none, none, s)
  let conflictingPluginRequest := pluginRequested.any (·.hasFieldLessThan desiredResources)
  if !s.neonvm.ongoingRequest && !conflictingPluginRequest then
    if let some wait := failureBackoff s.neonvm.requestFailedAt s.config.neonVMRetryWait now then
      return (none, some wait, s)
    let s := { s with neonvm.targetRevision := targetRevision.withTime now }
    return (some ⟨s.vm.using, desiredResources, s.neonvm.targetRevision⟩, none, s)
  else
    return (none, none, s)

/-! ### The vm-monitor -/

/-- `s.calculateMonitorUpscaleAction(now, desiredResources)`. -/
def calculateMonitorUpscaleAction (s : State F) (now : Int) (desiredResources : Resources) :
    Except String (Option ActionMonitorUpscale × Option Duration) := do
  let some approved := s.monitor.approved | return (none, none)
  -- towards what the VM uses, but not above the desired resources
  let requestResources ← clampResources approved s.vm.using (some approved)
    (some (desiredResources.max approved))
  -- and by at most one compute unit
  let requestResources ← clampResources approved requestResources none
    (some (requestResources.add s.config.computeUnit))
  if requestResources.hasFieldLessThan approved then
    throw monitorUpscaleBelowApproved
  if requestResources = approved then
    return (none, none)
  if s.monitor.ongoingRequest.isSome then
    return (none, none)
  if let some wait := failureBackoff s.monitor.upscaleFailureAt s.config.monitorRetryWait now then
    return (none, some wait)
  return (some ⟨approved, requestResources, s.targetRevision.withTime now⟩, none)

/-- `s.calculateMonitorDownscaleAction(now, desiredResources, plannedUpscaleRequest)`. -/
def calculateMonitorDownscaleAction (s : State F) (now : Int) (desiredResources : Resources)
    (plannedUpscaleRequest : Bool) :
    Except String (Option ActionMonitorDownscale × Option Duration) := do
  let some approved := s.monitor.approved | return (none, none)
  -- towards the desired resources, but never up
  let requestResources ← clampResources approved desiredResources none (some approved)
  -- and by at most one compute unit
  let requestResources ← clampResources approved requestResources
    (some (approved.saturatingSub s.config.computeUnit)) none
  if requestResources.hasFieldGreaterThan approved then
    throw monitorDownscaleAboveApproved
  if requestResources = approved then
    return (none, none)
  if plannedUpscaleRequest then
    return (none, none)
  else if s.monitor.ongoingRequest.isSome then
    return (none, none)
  if let some wait := failureBackoff s.monitor.downscaleFailureAt s.config.monitorRetryWait now then
    return (none, some wait)
  if s.timeUntilDeniedDownscaleExpired now > 0 &&
      !s.monitor.deniedDownscale.any (·.requested.hasFieldLessThan requestResources) then
    throw deniedDownscaleTooSoon
  return (some ⟨approved, requestResources, s.targetRevision.withTime now⟩, none)

/-! ### All together -/

/-- The least of the waits that are set, `maximumDuration` standing for none. -/
def leastWait (waits : List (Option Duration)) : Duration :=
  waits.foldl (fun acc wait => match wait with
    | some w => min acc w
    | none => acc) maxDuration

/-- `pluginRequested` of `nextActions`: what the plugin is asked for, ongoing or planned. -/
def pluginRequested (s : State F) (pluginRequest : Option ActionPluginRequest) :
    Except String (Option Resources) :=
  if s.plugin.ongoingRequest then do
    let last ← deref s.plugin.lastRequest
    pure (some last.resources)
  else pure (pluginRequest.map (·.target))

/-- `s.nextActions(now)`. -/
def nextActions (goalCU : GoalCUFn F) (s : State F) (now : Int) :
    Except String (ActionSet × State F) := do
  let (desiredResources, desiredWait, s) ←
    s.desiredResourcesFromMetricsOrRequestedUpscaling goalCU now
  let (pluginRequest, pluginRequiredWait) ← s.calculatePluginAction now desiredResources
  let pluginRequested ← s.pluginRequested pluginRequest
  let (neonVMRequest, neonvmRequiredWait, s) ←
    s.calculateNeonVMAction now desiredResources pluginRequested
  let (monitorUpscale, monitorUpscaleRequiredWait) ←
    s.calculateMonitorUpscaleAction now desiredResources
  let (monitorDownscale, monitorDownscaleRequiredWait) ←
    s.calculateMonitorDownscaleAction now desiredResources monitorUpscale.isSome
  let actions : ActionSet :=
    { wait := none, pluginRequest, neonVMRequest, monitorDownscale, monitorUpscale }
  let requiredWait := leastWait [desiredWait.calculate s.monitor.ongoingRequest actions,
    pluginRequiredWait, neonvmRequiredWait, monitorUpscaleRequiredWait,
    monitorDownscaleRequiredWait]
  return (actions.withWait requiredWait, s)

end State

end Autoscaling.Agent.Core
