import Autoscaling.Api.Resources
import Autoscaling.Agent.RevSource

/-!
# The state of the agent's scaling logic (`pkg/agent/core`)

`core.State` records, for one VM, what the autoscaler-agent knows of the VM and of its
conversations with the three parties it scales through: the scheduler plugin (which reserves
resources on the node), NeonVM (which changes the VM) and the vm-monitor (which must agree to
downscaling and is told of upscaling). `NextActions` reads it and says which request to make to
whom next; the handles update it as requests start and finish.

The model keeps every field that the scaling logic reads. Go pointers are `Option`s, and a
`time.Time` is an `Int` (see `Go`). The revision source behind `Config.RevisionSource` is the
one the agent installs, `revsource.NewRevisionSource`, and its state is a field of the state.
The logging and observability callbacks only report; they are left out.

The metrics are floating-point values of an arbitrary type `F`. The only computation on them is
the goal number of compute units of `calculateGoalCU`, and the model takes it as a parameter
`GoalCUFn F`.
-/

namespace Autoscaling.Agent.Core

open Go Vmv1 Api

/-- `SystemMetrics`. -/
structure SystemMetrics (F : Type) where
  loadAverage1Min : F
  loadAverage5Min : F
  memoryUsageBytes : F
  memoryCachedBytes : F
deriving DecidableEq, Repr

/-- `LFCMetrics`. -/
structure LFCMetrics (F : Type) where
  cacheHitsTotal : F
  cacheMissesTotal : F
  cacheWritesTotal : F
  approximateworkingSetSizeBuckets : List F
deriving DecidableEq, Repr

/-- `Config`, without its logging and observability callbacks; the revision source is part of
the state. -/
structure Config (F : Type) where
  computeUnit : Resources
  defaultScalingConfig : ScalingConfig F
  neonVMRetryWait : Duration
  pluginRequestTick : Duration
  pluginRetryWait : Duration
  pluginDeniedRetryWait : Duration
  monitorDeniedDownscaleCooldown : Duration
  monitorRequestedUpscaleValidPeriod : Duration
  monitorRetryWait : Duration
deriving DecidableEq, Repr

/-! ### The parties' states -/

/-- `pluginRequested`. -/
structure PluginRequested where
  «at» : Int
  resources : Resources
deriving DecidableEq, Repr

/-- `pluginState`. -/
structure PluginState where
  ongoingRequest : Bool
  lastRequest : Option PluginRequested
  lastFailureAt : Option Int
  permit : Option Resources
  currentRevision : Revision
deriving DecidableEq, Repr

/-- `monitorRequestKind`. -/
inductive MonitorRequestKind
  | downscale
  | upscale
deriving DecidableEq, Repr

/-- `ongoingMonitorRequest`. -/
structure OngoingMonitorRequest where
  kind : MonitorRequestKind
  requested : Resources
deriving DecidableEq, Repr

/-- `requestedUpscale`. -/
structure RequestedUpscale where
  «at» : Int
  base : Resources
  requested : MoreResources
deriving DecidableEq, Repr

/-- `deniedDownscale`. -/
structure DeniedDownscale where
  «at» : Int
  current : Resources
  requested : Resources
deriving DecidableEq, Repr

/-- `monitorState`. -/
structure MonitorState where
  ongoingRequest : Option OngoingMonitorRequest
  requestedUpscale : Option RequestedUpscale
  deniedDownscale : Option DeniedDownscale
  approved : Option Resources
  downscaleFailureAt : Option Int
  upscaleFailureAt : Option Int
  currentRevision : Revision
deriving DecidableEq, Repr

/-- `ms.active()`. -/
def MonitorState.active (ms : MonitorState) : Bool := ms.approved.isSome

/-- `neonvmState`, without `LastSuccess`, which nothing reads or writes. -/
structure NeonvmState where
  ongoingRequested : Option Resources
  requestFailedAt : Option Int
  targetRevision : RevisionWithTime
  currentRevision : Revision
deriving DecidableEq, Repr

/-- `ns.ongoingRequest()`. -/
def NeonvmState.ongoingRequest (ns : NeonvmState) : Bool := ns.ongoingRequested.isSome

/-- `state`, without the `Debug` flag; `revisionSource` is the state of `Config.RevisionSource`. -/
structure State (F : Type) where
  config : Config F
  vm : VmInfo F
  plugin : PluginState
  monitor : MonitorState
  neonvm : NeonvmState
  metrics : Option (SystemMetrics F)
  lfcMetrics : Option (LFCMetrics F)
  targetRevision : Revision
  lastDesiredResources : Option Resources
  revisionSource : Revsource.RevisionSource
deriving DecidableEq, Repr

/-- `MonitorHandle.Reset`'s monitor state, which is also the initial one. -/
def MonitorState.initial : MonitorState :=
  { ongoingRequest := none, requestedUpscale := none, deniedDownscale := none, approved := none,
    downscaleFailureAt := none, upscaleFailureAt := none, currentRevision := zeroRevision }

/-- `NewState(vm, config)`, with the revision source the agent gives it. -/
def newState {F : Type} (vm : VmInfo F) (config : Config F)
    (revisionSource : Revsource.RevisionSource) : State F :=
  { config, vm,
    plugin := { ongoingRequest := false, lastRequest := none, lastFailureAt := none,
                permit := none, currentRevision := zeroRevision }
    monitor := MonitorState.initial
    neonvm := { ongoingRequested := none, requestFailedAt := none,
                targetRevision := zeroRevision.withTime 0, currentRevision := zeroRevision }
    metrics := none, lfcMetrics := none, lastDesiredResources := none,
    targetRevision := zeroRevision, revisionSource }

/-! ### Actions -/

/-- `ActionWait`. -/
structure ActionWait where
  duration : Duration
deriving DecidableEq, Repr

/-- `ActionPluginRequest`, without the metrics it forwards to the plugin. -/
structure ActionPluginRequest where
  lastPermit : Option Resources
  target : Resources
  targetRevision : RevisionWithTime
deriving DecidableEq, Repr

/-- `ActionNeonVMRequest`. -/
structure ActionNeonVMRequest where
  current : Resources
  target : Resources
  targetRevision : RevisionWithTime
deriving DecidableEq, Repr

/-- `ActionMonitorDownscale`. -/
structure ActionMonitorDownscale where
  current : Resources
  target : Resources
  targetRevision : RevisionWithTime
deriving DecidableEq, Repr

/-- `ActionMonitorUpscale`. -/
structure ActionMonitorUpscale where
  current : Resources
  target : Resources
  targetRevision : RevisionWithTime
deriving DecidableEq, Repr

/-- `ActionSet`. -/
structure ActionSet where
  wait : Option ActionWait
  pluginRequest : Option ActionPluginRequest
  neonVMRequest : Option ActionNeonVMRequest
  monitorDownscale : Option ActionMonitorDownscale
  monitorUpscale : Option ActionMonitorUpscale
deriving DecidableEq, Repr

/-- Whether the action set asks for any request, as opposed to only waiting. -/
def ActionSet.hasRequest (a : ActionSet) : Bool :=
  a.pluginRequest.isSome || a.neonVMRequest.isSome || a.monitorDownscale.isSome ||
    a.monitorUpscale.isSome

/-- The actions with the least required wait, unless nothing is waited on (`maximumDuration`). -/
def ActionSet.withWait (actions : ActionSet) (requiredWait : Duration) : ActionSet :=
  if requiredWait != maxDuration then { actions with wait := some ⟨requiredWait⟩ } else actions

/-! ### The goal number of compute units -/

/-- `ScalingGoal`, its floating-point parts reduced to the goal `GoalCU()` computes from them. -/
structure ScalingGoal where
  hasAllMetrics : Bool
  goalCU : UInt32
deriving DecidableEq, Repr

/-- The floating-point part of `calculateGoalCU` followed by `GoalCU()`: the number of compute
units that the metrics call for under a scaling configuration and a compute unit. -/
abbrev GoalCUFn (F : Type) :=
  ScalingConfig F → Resources → Option (SystemMetrics F) → Option (LFCMetrics F) → UInt32

/-- `calculateGoalCU`: whether all the metrics needed are there, and the goal. Reading
`EnableLFCMetrics` dereferences it, but only once system metrics are present. -/
def calculateGoalCU {F : Type} (goalCU : GoalCUFn F) (cfg : ScalingConfig F)
    (computeUnit : Resources) (systemMetrics : Option (SystemMetrics F))
    (lfcMetrics : Option (LFCMetrics F)) : Except String ScalingGoal := do
  let hasAllMetrics ← match systemMetrics with
    | none => pure false
    | some _ => do
      let enableLFCMetrics ← deref cfg.enableLFCMetrics
      pure (!enableLFCMetrics || lfcMetrics.isSome)
  return ⟨hasAllMetrics, goalCU cfg computeUnit systemMetrics lfcMetrics⟩

/-- `s.scalingConfig()`. -/
def State.scalingConfig {F : Type} (s : State F) : ScalingConfig F :=
  s.config.defaultScalingConfig.withOverrides s.vm.config.scalingConfig

end Autoscaling.Agent.Core
