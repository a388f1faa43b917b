import Autoscaling.Agent.Core.Handles
import Autoscaling.Lib.Transition

/-!
# The executor's discipline (`pkg/agent/executor`)

The executor runs one loop per kind of request (scheduler plugin, NeonVM, vm-monitor upscale,
vm-monitor downscale) and a sleeper, all around one `core.State`. A loop reads the actions of
the most recent `NextActions` (`getActions`), starts its request only if no `NextActions` has
been computed since (`updateIfActionsUnchanged`), waits for the request outside the lock, and
reports its outcome with `update`. Each loop has at most one request in flight, and after a
report it reads fresh actions before starting again.

`ExecutorCore` is the state of all of this that the scaling logic depends on: the core state, the
clock, the most recent actions, and the request each loop has in flight. Starting a request
removes its action from the recorded actions, since that loop reads fresh actions before its next
start; the other loops may still start from the same actions. Outside the executor the runner
feeds metrics and VM information, and the vm-monitor connection reports whether it is active and
asks for upscaling.

`ExecutorCore.step` takes one such event, and is `none` where the discipline does not allow it or
the state's update panics. The plugin's answers are constrained by a `PluginPolicy`.
-/

namespace Autoscaling.Agent.Executor

open Go Vmv1 Api Autoscaling.Agent.Core Trans

/-- Which responses the scheduler plugin may give to a request for `target` made with the last
permit `lastPermit`. -/
abbrev PluginPolicy := Option Resources → Resources → PluginResponse → Bool

/-- A plugin that may answer anything. -/
def anyResponse : PluginPolicy := fun _ _ _ => true

/-- A plugin that answers one field as `handleAgentRequest` does: a request that does not increase
on the last permit is granted exactly, an increase is granted somewhere between the last permit
and the request, and a first request at most in full. -/
def honestField {α : Type} [LE α] [DecidableLE α] [DecidableEq α] (lastPermit : Option α)
    (request permit : α) : Bool :=
  match lastPermit with
  | some last => if request ≤ last then permit = request else last ≤ permit && permit ≤ request
  | none => permit ≤ request

/-- The plugin that is honest in each field. -/
def honestPlugin : PluginPolicy := fun lastPermit target resp =>
  honestField (lastPermit.map (·.vcpu)) target.vcpu resp.permit.vcpu &&
    honestField (lastPermit.map (·.mem)) target.mem resp.permit.mem

/-- The state of the executor around one `core.State`. -/
structure ExecutorCore (F : Type) where
  core : State F
  clock : Int
  actions : Option ActionSet
  plugin : Option ActionPluginRequest
  neonVM : Option ActionNeonVMRequest
  monitorUpscale : Option ActionMonitorUpscale
  monitorDownscale : Option ActionMonitorDownscale
deriving DecidableEq, Repr

/-- What happens to the executor: a `NextActions`, the start and the outcome of a request, or an
update from outside. -/
inductive Event (F : Type)
  | nextActions (now : Int)
  | startPlugin (now : Int)
  | pluginSuccessful (now : Int) (resp : PluginResponse)
  | pluginFailed (now : Int)
  | startNeonVM (now : Int)
  | neonVMSuccessful (now : Int)
  | neonVMFailed (now : Int)
  | startMonitorUpscale (now : Int)
  | monitorUpscaleSuccessful (now : Int)
  | monitorUpscaleFailed (now : Int)
  | startMonitorDownscale (now : Int)
  | monitorDownscaleAllowed (now : Int)
  | monitorDownscaleDenied (now : Int)
  | monitorDownscaleFailed (now : Int)
  | updateSystemMetrics (metrics : SystemMetrics F)
  | updateLFCMetrics (metrics : LFCMetrics F)
  | updatedVM (vm : VmInfo F)
  | monitorActive (active : Bool)
  | monitorUpscaleRequested (now : Int) (resources : MoreResources)

/-- The revision the agent starts its revision source from: the VM's current one, or 0. -/
def initialRevision {F : Type} (vm : VmInfo F) : Int64 :=
  (vm.currentRevision.map (·.revision.value)).getD 0

namespace ExecutorCore

variable {F : Type}

/-- `NewExecutorCore`, with the revision source the runner creates, at time `now`. -/
def initial (vm : VmInfo F) (config : Config F) (now : Int) : ExecutorCore F :=
  { core := newState vm config (Revsource.newRevisionSource (initialRevision vm) true),
    clock := now, actions := none, plugin := none, neonVM := none, monitorUpscale := none,
    monitorDownscale := none }

/-- The clock moved to `now`, which must not be in its past. -/
def tick (e : ExecutorCore F) (now : Int) : Option (ExecutorCore F) :=
  if e.clock ≤ now then some { e with clock := now } else none

/-- One event under the discipline. -/
def step (goalCU : GoalCUFn F) (policy : PluginPolicy) (e : ExecutorCore F) :
    Event F → Option (ExecutorCore F)
  | .nextActions now => do
    let e ← e.tick now
    let (actions, core) ← (e.core.nextActions goalCU now).toOption
    pure { e with core, actions := some actions }
  | .startPlugin now => do
    let e ← e.tick now
    let actions ← e.actions
    let action ← actions.pluginRequest
    if e.plugin.isSome then none
    pure { e with core := e.core.pluginStartingRequest now action.target, plugin := some action,
                  actions := some { actions with pluginRequest := none } }
  | .pluginSuccessful now resp => do
    let e ← e.tick now
    let action ← e.plugin
    if !policy action.lastPermit action.target resp then none
    let (core, _) ← (e.core.pluginRequestSuccessful now action.targetRevision resp).toOption
    pure { e with core, plugin := none }
  | .pluginFailed now => do
    let e ← e.tick now
    let _ ← e.plugin
    pure { e with core := e.core.pluginRequestFailed now, plugin := none }
  | .startNeonVM now => do
    let e ← e.tick now
    let actions ← e.actions
    let action ← actions.neonVMRequest
    if e.neonVM.isSome then none
    pure { e with core := e.core.neonVMStartingRequest action.target, neonVM := some action,
                  actions := some { actions with neonVMRequest := none } }
  | .neonVMSuccessful now => do
    let e ← e.tick now
    let _ ← e.neonVM
    let core ← e.core.neonVMRequestSuccessful.toOption
    pure { e with core, neonVM := none }
  | .neonVMFailed now => do
    let e ← e.tick now
    let _ ← e.neonVM
    pure { e with core := e.core.neonVMRequestFailed now, neonVM := none }
  | .startMonitorUpscale now => do
    let e ← e.tick now
    let actions ← e.actions
    let action ← actions.monitorUpscale
    if e.monitorUpscale.isSome then none
    pure { e with core := e.core.monitorStartingUpscaleRequest action.target,
                  monitorUpscale := some action,
                  actions := some { actions with monitorUpscale := none } }
  | .monitorUpscaleSuccessful now => do
    let e ← e.tick now
    let _ ← e.monitorUpscale
    let core ← e.core.monitorUpscaleRequestSuccessful.toOption
    pure { e with core, monitorUpscale := none }
  | .monitorUpscaleFailed now => do
    let e ← e.tick now
    let _ ← e.monitorUpscale
    pure { e with core := e.core.monitorUpscaleRequestFailed now, monitorUpscale := none }
  | .startMonitorDownscale now => do
    let e ← e.tick now
    let actions ← e.actions
    let action ← actions.monitorDownscale
    if e.monitorDownscale.isSome then none
    pure { e with core := e.core.monitorStartingDownscaleRequest action.target,
                  monitorDownscale := some action,
                  actions := some { actions with monitorDownscale := none } }
  | .monitorDownscaleAllowed now => do
    let e ← e.tick now
    let action ← e.monitorDownscale
    let core ← (e.core.monitorDownscaleRequestAllowed action.targetRevision).toOption
    pure { e with core, monitorDownscale := none }
  | .monitorDownscaleDenied now => do
    let e ← e.tick now
    let action ← e.monitorDownscale
    let core ← (e.core.monitorDownscaleRequestDenied now action.targetRevision).toOption
    pure { e with core, monitorDownscale := none }
  | .monitorDownscaleFailed now => do
    let e ← e.tick now
    let _ ← e.monitorDownscale
    pure { e with core := e.core.monitorDownscaleRequestFailed now, monitorDownscale := none }
  | .updateSystemMetrics metrics => pure { e with core := e.core.updateSystemMetrics metrics }
  | .updateLFCMetrics metrics => pure { e with core := e.core.updateLFCMetrics metrics }
  | .updatedVM vm => do
    if !decide (vm.min ≤ vm.max) then none
    let core ← (e.core.updatedVM vm).toOption
    pure { e with core }
  | .monitorActive active => pure { e with core := e.core.monitorActive active }
  | .monitorUpscaleRequested now resources => do
    let e ← e.tick now
    if !e.core.monitor.active then none
    let core ← (e.core.monitorUpscaleRequested now resources).toOption
    pure { e with core }

/-- The events one after another; `none` once one of them is not allowed. -/
def run (goalCU : GoalCUFn F) (policy : PluginPolicy) (e : ExecutorCore F) :
    List (Event F) → Option (ExecutorCore F)
  | [] => some e
  | event :: rest => do
    let e' ← e.step goalCU policy event
    e'.run goalCU policy rest

/-- One step of the discipline, whatever the event. -/
def Next (goalCU : GoalCUFn F) (policy : PluginPolicy) (e e' : ExecutorCore F) : Prop :=
  ∃ event, e.step goalCU policy event = some e'

/-- The starting states: `NewExecutorCore` on a VM whose minimum is not above its maximum. -/
def Init (e : ExecutorCore F) : Prop :=
  ∃ vm config now, vm.min ≤ vm.max ∧ e = initial vm config now

/-- A run of events ends in a state reachable from where it started. -/
theorem reachable_of_run {goalCU : GoalCUFn F} {policy : PluginPolicy} {init : ExecutorCore F → Prop}
    {e e' : ExecutorCore F} (start : Reachable init (Next goalCU policy) e) :
    ∀ {events : List (Event F)}, e.run goalCU policy events = some e' →
      Reachable init (Next goalCU policy) e'
  | [], ran => by
    simp only [run, Option.some.injEq] at ran
    exact ran ▸ start
  | event :: rest, ran => by
    simp only [run, Option.bind_eq_bind, Option.bind_eq_some_iff] at ran
    obtain ⟨middle, stepped, rest_ran⟩ := ran
    exact reachable_of_run (.step start ⟨event, stepped⟩) rest_ran

end ExecutorCore

/-! ### Two interleavings that the discipline allows

Both start from a VM between 1 and 8 compute units of 1 vCPU and 4 GiB (memory in 1 GiB slots),
and change the load: `loadGoal` is the goal that `calculateGoalCU` computes when
`LoadAverageFractionTarget` is 1, both load averages are the same whole number, no memory is in
use and LFC metrics are disabled, namely that load average. -/

section Interleavings

open ExecutorCore

/-- The goal of `calculateGoalCU` under the configuration below: the load average. -/
def loadGoal : GoalCUFn Nat := fun _ _ systemMetrics _ =>
  match systemMetrics with
  | some metrics => metrics.loadAverage5Min.toUInt32
  | none => 0

/-- System metrics with load average `load` and no memory in use. -/
def loadMetrics (load : Nat) : SystemMetrics Nat := ⟨load, load, 0, 0⟩

/-- A configuration with compute units of 1 vCPU and 4 GiB and waits of 5 s. -/
def exampleConfig : Config Nat :=
  { computeUnit := ⟨1000, 4294967296⟩,
    defaultScalingConfig :=
      { loadAverageFractionTarget := some 1, memoryUsageFractionTarget := some 1,
        memoryTotalFractionTarget := some 1, enableLFCMetrics := some false,
        lfcUseLargestWindow := some false, lfcToMemoryRatio := some 1,
        lfcMinWaitBeforeDownscaleMinutes := some 15, lfcWindowSizeMinutes := some 5,
        cpuStableZoneRatio := some 0, cpuMixedZoneRatio := some 0 },
    neonVMRetryWait := 5000000000, pluginRequestTick := 5000000000,
    pluginRetryWait := 5000000000, pluginDeniedRetryWait := 5000000000,
    monitorDeniedDownscaleCooldown := 5000000000,
    monitorRequestedUpscaleValidPeriod := 5000000000, monitorRetryWait := 5000000000 }

/-- A VM between 1 and 8 compute units that uses `cu` of them. -/
def exampleVM (cu : UInt16) : VmInfo Nat :=
  { cpu := ⟨1000, 8000, 1000 * cu.toUInt32⟩, mem := ⟨4, 32, 4 * cu, 1073741824⟩,
    config := ⟨none⟩, currentRevision := none }

/-- `n` compute units. -/
def computeUnits (n : UInt16) : Resources := exampleConfig.computeUnit.mul n

/-- From 4 compute units: the vm-monitor allows a downscale to 3, NeonVM starts it, the load goes
up to 5 before it lands, and the vm-monitor is told of an upscale back to the 4 the VM still
uses. NeonVM then lands at 3. -/
def monitorUpscaleRace : List (Event Nat) :=
  [.nextActions 0, .startPlugin 0, .pluginSuccessful 1 ⟨computeUnits 4⟩,
   .monitorActive true, .updateSystemMetrics (loadMetrics 2),
   .nextActions 2, .startMonitorDownscale 2, .monitorDownscaleAllowed 3,
   .nextActions 4, .startNeonVM 4, .updateSystemMetrics (loadMetrics 5),
   .nextActions 5, .startMonitorUpscale 5, .monitorUpscaleSuccessful 6,
   .neonVMSuccessful 7]

/-- A run from a starting state exhibits a reachable state, with what it computes there. -/
theorem exists_reachable_of_run (goalCU : GoalCUFn Nat) (policy : PluginPolicy)
    (vm : VmInfo Nat) (config : Config Nat) (now : Int) (events : List (Event Nat))
    {β : Type} (f : ExecutorCore Nat → β) (v : β) (valid : vm.min ≤ vm.max)
    (computed : ((initial vm config now).run goalCU policy events).map f = some v) :
    ∃ e, Reachable Init (Next goalCU policy) e ∧ f e = v := by
  cases ran : (initial vm config now).run goalCU policy events with
  | none =>
    rw [ran] at computed
    cases computed
  | some e =>
    rw [ran, Option.map_some] at computed
    exact ⟨e, reachable_of_run (.init ⟨vm, config, now, valid, rfl⟩) ran, Option.some.inj computed⟩

/-- After `monitorUpscaleRace`, `NextActions` panics: the NeonVM calculation clamps between the
monitor's approval of 4 compute units and the 3 the VM now uses. -/
theorem nextActions_panics_after_monitor_upscale :
    ∃ e, Reachable Init (Next loadGoal anyResponse) e ∧
      e.core.nextActions loadGoal 8 = .error clampLowerBoundInvalid :=
  exists_reachable_of_run loadGoal anyResponse (exampleVM 4) exampleConfig 0 monitorUpscaleRace
    (fun e => e.core.nextActions loadGoal 8) _ (by decide) (by decide)

/-- After `monitorUpscaleRace`, the vm-monitor has approved 4 compute units of a VM that uses 3. -/
theorem approved_exceeds_using_after_monitor_upscale :
    ∃ e, Reachable Init (Next loadGoal anyResponse) e ∧
      ∃ approved, e.core.monitor.approved = some approved ∧ ¬ approved ≤ e.core.vm.using := by
  obtain ⟨e, reachable, values⟩ := exists_reachable_of_run loadGoal anyResponse (exampleVM 4)
    exampleConfig 0 monitorUpscaleRace (fun e => (e.core.monitor.approved, e.core.vm.using))
    (some (computeUnits 4), computeUnits 3) (by decide) (by decide)
  obtain ⟨approved, used⟩ := Prod.mk.inj values
  exact ⟨e, reachable, computeUnits 4, approved, by rw [used]; decide⟩

/-- From 2 compute units, with an honest plugin: the load goes to 4, the plugin permits 4 and
NeonVM starts the upscale; before it lands the load drops to 3, and the plugin is asked for 3 (from
what the VM uses, not what it is being scaled to), which it grants. NeonVM then lands at 4. -/
def permitLoweredRace : List (Event Nat) :=
  [.nextActions 0, .startPlugin 0, .pluginSuccessful 1 ⟨computeUnits 2⟩,
   .updateSystemMetrics (loadMetrics 4), .nextActions 2, .startPlugin 2,
   .pluginSuccessful 3 ⟨computeUnits 4⟩, .nextActions 4, .startNeonVM 4,
   .updateSystemMetrics (loadMetrics 3), .nextActions 5, .startPlugin 5,
   .pluginSuccessful 6 ⟨computeUnits 3⟩, .neonVMSuccessful 7]

/-- After `permitLoweredRace`, the VM uses 4 compute units under a permit for 3. -/
theorem using_exceeds_permit_after_lowered_request :
    ∃ e, Reachable Init (Next loadGoal honestPlugin) e ∧
      ∃ permit, e.core.plugin.permit = some permit ∧ ¬ e.core.vm.using ≤ permit := by
  obtain ⟨e, reachable, values⟩ := exists_reachable_of_run loadGoal honestPlugin (exampleVM 2)
    exampleConfig 0 permitLoweredRace (fun e => (e.core.plugin.permit, e.core.vm.using))
    (some (computeUnits 3), computeUnits 4) (by decide) (by decide)
  obtain ⟨permit, used⟩ := Prod.mk.inj values
  exact ⟨e, reachable, computeUnits 3, permit, by rw [used]; decide⟩

end Interleavings

end Autoscaling.Agent.Executor
