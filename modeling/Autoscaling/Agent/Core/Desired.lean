import Autoscaling.Agent.Core.Actions

/-!
# The desired resources (`desiredResourcesFromMetricsOrRequestedUpscaling`)

The desired resources are the goal number of compute units, raised by the requested upscaling
and the denied downscaling in effect, turned into resources, bounded by the VM's minimum and
maximum, and then raised again so as never to go back to a denied downscale.

They are never below the minimum, never above the maximum unless a denied downscale holds
them above it, and not below what the VM uses while metrics are missing. Above a denied
downscale and up to a requested upscale they go as far as the counts of compute units that the
source keeps in a `uint32` and a `uint16` reach: where such a count wraps, they may fall short
(`desired_within_vm_bounds`, `desired_within_bounds`, `denied_downscale_wraps`).

The goal is taken as a `uint16` when it is turned into resources, so the desired resources grow
with the goal up to 65535 compute units only: at 65536 they drop to the minimum
(`desired_wraps_at_uint16`, `boundedGoal_mono`).
-/

namespace Autoscaling.Agent.Core

open Go Vmv1 Api

/-! ### Counts of compute units -/

/-- 65536 compute units, as many as a `uint16` count gives, fit each field of `Resources`. -/
def unitFits (cu : Resources) : Prop := ∀ f, cu.get f * 65536 ≤ f.size

/-- `1 + uint32(r.F / cu.F)`, the fewest compute units with more of the field than `r`, as
`requiredCUForRequestedUpscaling` and `requiredCUForDeniedDownscale` compute it. -/
def cuAbove (cu r : Resources) : Field → UInt32
  | .vcpu => 1 + r.vcpu / cu.vcpu
  | .mem => 1 + (r.mem / cu.mem).toUInt32

/-- Every field of `r`, counted in compute units, is short of `2^32 - 1` of them, so that
`cuAbove` does not wrap. -/
def countsFit (cu r : Resources) : Prop := ∀ f, r.get f / cu.get f + 1 < 2 ^ 32

theorem cuAbove_toNat {cu r : Resources} (fits : countsFit cu r) (f : Field) :
    (cuAbove cu r f).toNat = r.get f / cu.get f + 1 := by
  have exact := fits f
  cases f
  · simp only [cuAbove, UInt32.toNat_add, UInt32.toNat_div, UInt32.reduceToNat]
    simp only [Resources.get] at exact ⊢
    rw [Nat.mod_eq_of_lt (by omega)]
    omega
  · simp only [cuAbove, UInt32.toNat_add, UInt64.toNat_toUInt32, UInt64.toNat_div,
      UInt32.reduceToNat]
    simp only [Resources.get] at exact ⊢
    rw [Nat.mod_eq_of_lt (by omega : r.mem.toNat / cu.mem.toNat < 2 ^ 32),
      Nat.mod_eq_of_lt (by omega)]
    omega

/-- With 65536 compute units fitting each field, at most 65535 of them are computed exactly. -/
theorem mul_get_of_unitFits {cu : Resources} (unit : unitFits cu) {n : Nat} (few : n < 65536)
    (f : Field) : n * cu.get f % f.size = n * cu.get f := by
  apply Nat.mod_eq_of_lt
  have fits := unit f
  have below : n * cu.get f ≤ 65535 * cu.get f := Nat.mul_le_mul_right _ (by omega)
  by_cases zero : cu.get f = 0
  · rw [zero, Nat.mul_zero]
    cases f <;> simp [Field.size]
  · omega

namespace State

variable {F : Type}

/-- The goal number of compute units after the adjustments for the requested upscaling and the
denied downscaling in effect: the goal `desiredOutcome` turns into resources. -/
def adjustedGoalCU (goalCU : GoalCUFn F) (s : State F)
    (requestedUpscalingInEffect deniedDownscaleInEffect : Bool) : Except String UInt32 := do
  let sg ← calculateGoalCU goalCU s.scalingConfig s.config.computeUnit s.metrics s.lfcMetrics
  let (_, goalCU) ← s.requestedUpscalingGoal sg.goalCU requestedUpscalingInEffect
  let (_, goalCU) ← s.deniedDownscaleGoal sg.goalCU goalCU deniedDownscaleInEffect
  return goalCU

variable {goalCU : GoalCUFn F} {s : State F}

/-! ### The goal -/

/-- Raising the goal keeps it and reaches the required count, from a goal already at the
initial one. -/
theorem raiseGoal_ge {initialGoalCU goalCU : UInt32} (reqCU : UInt32)
    (above : initialGoalCU.toNat ≤ goalCU.toNat) :
    goalCU.toNat ≤ (raiseGoal initialGoalCU goalCU reqCU).2.toNat ∧
      reqCU.toNat ≤ (raiseGoal initialGoalCU goalCU reqCU).2.toNat := by
  unfold raiseGoal
  split
  next raised =>
    simp only [UInt32.toNat_max]
    omega
  next kept =>
    have notAbove : ¬ initialGoalCU.toNat < reqCU.toNat := fun lt =>
      kept (UInt32.lt_iff_toNat_lt.mpr lt)
    dsimp only
    omega

theorem requiredCUForRequestedUpscaling_ge {cu : Resources} {requested : RequestedUpscale}
    {reqCU : UInt32} (ok : requiredCUForRequestedUpscaling cu requested = .ok reqCU)
    {f : Field} (asked : requested.requested.get f = true) :
    0 < cu.get f ∧ (cuAbove cu requested.base f).toNat ≤ reqCU.toNat := by
  obtain ⟨since, base, cpu, memory⟩ := requested
  -- the field asked for is counted; the other one may raise the count further
  cases f with
  | vcpu =>
    simp only [MoreResources.get] at asked
    subst asked
    cases memory with
    | false =>
      simp only [requiredCUForRequestedUpscaling, ↓reduceIte, Bool.false_eq_true, bind_eq_ok,
        pure_bind, pure_eq_ok, div_eq_ok] at ok
      obtain ⟨perCU, ⟨unitPos, rfl⟩, rfl⟩ := ok
      exact ⟨Resources.get_vcpu_pos unitPos, by simp [cuAbove, UInt32.toNat_max]⟩
    | true =>
      simp only [requiredCUForRequestedUpscaling, ↓reduceIte, bind_eq_ok, pure_bind,
        pure_eq_ok, div_eq_ok] at ok
      obtain ⟨cpuPerCU, ⟨unitPos, rfl⟩, memPerCU, ⟨-, rfl⟩, rfl⟩ := ok
      refine ⟨Resources.get_vcpu_pos unitPos, ?_⟩
      simp only [cuAbove, UInt32.toNat_max]
      omega
  | mem =>
    simp only [MoreResources.get] at asked
    subst asked
    cases cpu with
    | false =>
      simp only [requiredCUForRequestedUpscaling, ↓reduceIte, Bool.false_eq_true, bind_eq_ok,
        pure_bind, pure_eq_ok, div_eq_ok] at ok
      obtain ⟨perCU, ⟨unitPos, rfl⟩, rfl⟩ := ok
      exact ⟨Resources.get_mem_pos unitPos, by simp [cuAbove, UInt32.toNat_max]⟩
    | true =>
      simp only [requiredCUForRequestedUpscaling, ↓reduceIte, bind_eq_ok, pure_bind,
        pure_eq_ok, div_eq_ok] at ok
      obtain ⟨cpuPerCU, ⟨-, rfl⟩, memPerCU, ⟨unitPos, rfl⟩, rfl⟩ := ok
      refine ⟨Resources.get_mem_pos unitPos, ?_⟩
      simp only [cuAbove, UInt32.toNat_max]
      omega

theorem requiredCUForDeniedDownscale_ge {cu denied : Resources} {reqCU : UInt32}
    (ok : requiredCUForDeniedDownscale cu denied = .ok reqCU) (f : Field) :
    (cuAbove cu denied f).toNat ≤ reqCU.toNat := by
  unfold requiredCUForDeniedDownscale at ok
  simp only [bind_eq_ok, pure_eq_ok, div_eq_ok] at ok
  obtain ⟨cpuPerCU, ⟨-, rfl⟩, memPerCU, ⟨-, rfl⟩, rfl⟩ := ok
  cases f <;> simp [UInt32.toNat_max, cuAbove]

/-- While requested upscaling is in effect, the goal is at least the count it requires. -/
theorem requestedUpscalingGoal_eq_ok {initialGoalCU goalCU : UInt32} {inEffect affected : Bool}
    (ok : s.requestedUpscalingGoal initialGoalCU inEffect = .ok (affected, goalCU)) :
    initialGoalCU.toNat ≤ goalCU.toNat ∧ (inEffect = true → ∃ requested reqCU,
      s.monitor.requestedUpscale = some requested ∧
      requiredCUForRequestedUpscaling s.config.computeUnit requested = .ok reqCU ∧
      reqCU.toNat ≤ goalCU.toNat) := by
  cases inEffect with
  | false =>
    simp only [requestedUpscalingGoal, Bool.false_eq_true, ↓reduceIte, pure_eq_ok,
      Prod.mk.injEq] at ok
    obtain ⟨-, rfl⟩ := ok
    exact ⟨le_refl _, nofun⟩
  | true =>
    simp only [requestedUpscalingGoal, ↓reduceIte, bind_eq_ok, deref_eq_ok, pure_eq_ok] at ok
    obtain ⟨requested, found, reqCU, required, raised⟩ := ok
    have bounds := raiseGoal_ge reqCU (le_refl initialGoalCU.toNat)
    rw [raised] at bounds
    exact ⟨bounds.1, fun _ => ⟨requested, reqCU, found, required, bounds.2⟩⟩

/-- While denied downscaling is in effect, the goal is at least the count it requires. -/
theorem deniedDownscaleGoal_eq_ok {initialGoalCU goalCU goalCU' : UInt32}
    {inEffect affected : Bool} (above : initialGoalCU.toNat ≤ goalCU.toNat)
    (ok : s.deniedDownscaleGoal initialGoalCU goalCU inEffect = .ok (affected, goalCU')) :
    goalCU.toNat ≤ goalCU'.toNat ∧ (inEffect = true → ∃ denied reqCU,
      s.monitor.deniedDownscale = some denied ∧
      requiredCUForDeniedDownscale s.config.computeUnit denied.requested = .ok reqCU ∧
      reqCU.toNat ≤ goalCU'.toNat) := by
  cases inEffect with
  | false =>
    simp only [deniedDownscaleGoal, Bool.false_eq_true, ↓reduceIte, pure_eq_ok,
      Prod.mk.injEq] at ok
    obtain ⟨-, rfl⟩ := ok
    exact ⟨le_refl _, nofun⟩
  | true =>
    simp only [deniedDownscaleGoal, ↓reduceIte, bind_eq_ok, deref_eq_ok, pure_eq_ok] at ok
    obtain ⟨denied, found, reqCU, required, raised⟩ := ok
    have bounds := raiseGoal_ge reqCU above
    rw [raised] at bounds
    exact ⟨bounds.1, fun _ => ⟨denied, reqCU, found, required, bounds.2⟩⟩

/-! ### The resources of the goal -/

theorem get_boundedGoal (hasAllMetrics : Bool) (goal : UInt32) (f : Field) :
    (s.boundedGoal hasAllMetrics goal).get f =
      max (min (if hasAllMetrics then (s.config.computeUnit.mul goal.toUInt16).get f
          else max ((s.config.computeUnit.mul goal.toUInt16).get f) (s.vm.using.get f))
        (s.vm.max.get f)) (s.vm.min.get f) := by
  unfold boundedGoal
  cases hasAllMetrics <;> simp

theorem min_le_boundedGoal (hasAllMetrics : Bool) (goal : UInt32) :
    s.vm.min ≤ s.boundedGoal hasAllMetrics goal := by
  rw [Resources.le_iff_get]
  intro f
  rw [get_boundedGoal]
  exact le_max_right _ _

theorem boundedGoal_le_max (valid : s.vm.min ≤ s.vm.max) (hasAllMetrics : Bool)
    (goal : UInt32) : s.boundedGoal hasAllMetrics goal ≤ s.vm.max := by
  rw [Resources.le_iff_get] at valid ⊢
  intro f
  rw [get_boundedGoal]
  exact max_le (min_le_right _ _) (valid f)

/-- Without all the metrics the goal is never below what the VM uses, up to its maximum. -/
theorem boundedGoal_of_missing (goal : UInt32) (f : Field) :
    min (s.vm.using.get f) (s.vm.max.get f) ≤ (s.boundedGoal false goal).get f := by
  rw [get_boundedGoal]
  simp only [Bool.false_eq_true, ↓reduceIte]
  omega

/-- Resources of the goal above `b` stay above it, unless they reach the maximum. -/
theorem boundedGoal_above (hasAllMetrics : Bool) {goal : UInt32} {f : Field} {b : Nat}
    (below : b < (s.config.computeUnit.mul goal.toUInt16).get f) :
    b < (s.boundedGoal hasAllMetrics goal).get f ∨
      s.vm.max.get f ≤ (s.boundedGoal hasAllMetrics goal).get f := by
  rw [get_boundedGoal]
  cases hasAllMetrics <;> simp only [Bool.false_eq_true, ↓reduceIte] <;> omega

/-! ### Never back to a denied downscale -/

theorem minRequiredResourcesForDeniedDownscale_get {cu : Resources} {denied : DeniedDownscale}
    {required : Resources}
    (ok : minRequiredResourcesForDeniedDownscale cu denied = .ok required) (f : Field) :
    0 < cu.get f ∧ required.get f = min (denied.current.get f)
      (cu.get f * ((denied.requested.get f / cu.get f + 1) % f.size) % f.size) := by
  unfold minRequiredResourcesForDeniedDownscale at ok
  simp only [bind_eq_ok, pure_eq_ok, div_eq_ok] at ok
  obtain ⟨cpuPerCU, ⟨cpuUnit, rfl⟩, memPerCU, ⟨memUnit, rfl⟩, rfl⟩ := ok
  cases f
  · refine ⟨Resources.get_vcpu_pos cpuUnit, ?_⟩
    simp [Resources.get, Field.size, UInt32.toNat_min, UInt32.toNat_mul, UInt32.toNat_add,
      UInt32.toNat_div, Nat.add_comm]
  · refine ⟨Resources.get_mem_pos memUnit, ?_⟩
    simp [Resources.get, Field.size, UInt64.toNat_min, UInt64.toNat_mul, UInt64.toNat_add,
      UInt64.toNat_div, Nat.add_comm]

/-- The floor is one compute unit above the denied request, but not above what the VM had: so
above the request wherever the VM had more, when that compute unit is counted exactly. -/
theorem requested_lt_minRequired {cu : Resources} {denied : DeniedDownscale}
    {required : Resources} (ok : minRequiredResourcesForDeniedDownscale cu denied = .ok required)
    (unit : unitFits cu) {f : Field} (few : denied.requested.get f / cu.get f + 1 < 65536)
    (shrinking : denied.requested.get f < denied.current.get f) :
    denied.requested.get f < required.get f := by
  obtain ⟨positive, floor⟩ := minRequiredResourcesForDeniedDownscale_get ok f
  have countExact : (denied.requested.get f / cu.get f + 1) % f.size =
      denied.requested.get f / cu.get f + 1 := by
    apply Nat.mod_eq_of_lt
    cases f <;> simp only [Field.size] <;> omega
  have unitsExact := mul_get_of_unitFits unit few f
  have above := Nat.lt_mul_div_succ (denied.requested.get f) positive
  rw [floor, countExact, Nat.mul_comm, unitsExact, Nat.mul_comm]
  omega

theorem deniedDownscaleFloor_eq_ok {result result' : Resources} {affected affected' : Bool}
    {inEffect : Bool}
    (ok : s.deniedDownscaleFloor result affected inEffect = .ok (result', affected')) :
    (inEffect = false → result' = result) ∧ (inEffect = true → ∃ denied required,
      s.monitor.deniedDownscale = some denied ∧
      minRequiredResourcesForDeniedDownscale s.config.computeUnit denied = .ok required ∧
      result' = result.max required) := by
  cases inEffect with
  | false =>
    simp only [deniedDownscaleFloor, Bool.false_eq_true, ↓reduceIte, pure_eq_ok,
      Prod.mk.injEq] at ok
    exact ⟨fun _ => ok.1.symm, fun off => absurd off Bool.false_ne_true⟩
  | true =>
    simp only [deniedDownscaleFloor, ↓reduceIte, bind_eq_ok, deref_eq_ok, pure_eq_ok,
      Prod.mk.injEq] at ok
    obtain ⟨denied, found, required, minimal, raised, -⟩ := ok
    exact ⟨fun on => absurd on (by decide),
      fun _ => ⟨denied, required, found, minimal, raised.symm⟩⟩

/-! ### The stages of `desiredOutcome` -/

/-- What `desiredOutcome` computes on its way, when it does not panic. -/
theorem desiredOutcome_eq_ok {rq dd ra da : Bool} {R : Resources}
    (ok : s.desiredOutcome goalCU rq dd = .ok (R, ra, da)) :
    ∃ sg affected₁ goal₁ affected₂ goal₂,
      calculateGoalCU goalCU s.scalingConfig s.config.computeUnit s.metrics s.lfcMetrics =
        .ok sg ∧
      s.requestedUpscalingGoal sg.goalCU rq = .ok (affected₁, goal₁) ∧
      s.deniedDownscaleGoal sg.goalCU goal₁ dd = .ok (affected₂, goal₂) ∧
      s.deniedDownscaleFloor (s.boundedGoal sg.hasAllMetrics goal₂) affected₂ dd = .ok (R, da) := by
  simp only [desiredOutcome, bind_eq_ok, Prod.exists] at ok
  obtain ⟨sg, goalOk, affected₁, goal₁, requestedOk, affected₂, goal₂, deniedOk, result, da₂,
    floorOk, -, -, returned⟩ := ok
  simp only [pure_eq_ok, Prod.mk.injEq] at returned
  obtain ⟨rfl, -, rfl⟩ := returned
  exact ⟨sg, affected₁, goal₁, affected₂, goal₂, goalOk, requestedOk, deniedOk, floorOk⟩

theorem adjustedGoalCU_eq_ok {rq dd affected₁ affected₂ : Bool} {sg : ScalingGoal}
    {goal₁ goal₂ : UInt32}
    (goalOk : calculateGoalCU goalCU s.scalingConfig s.config.computeUnit s.metrics s.lfcMetrics =
      .ok sg)
    (requestedOk : s.requestedUpscalingGoal sg.goalCU rq = .ok (affected₁, goal₁))
    (deniedOk : s.deniedDownscaleGoal sg.goalCU goal₁ dd = .ok (affected₂, goal₂)) :
    s.adjustedGoalCU goalCU rq dd = .ok goal₂ := by
  simp only [adjustedGoalCU, bind_eq_ok]
  exact ⟨sg, goalOk, _, requestedOk, _, deniedOk, rfl⟩

theorem desired_outcome {now : Int} {D : Resources} {dw : DesiredWait} {s' : State F}
    (computed : s.desiredResourcesFromMetricsOrRequestedUpscaling goalCU now = .ok (D, dw, s')) :
    s.desiredOutcome goalCU (s.timeUntilRequestedUpscalingExpired now > 0)
      (s.timeUntilDeniedDownscaleExpired now > 0) =
        .ok (D, dw.requestedUpscalingAffectedResult, dw.deniedDownscaleAffectedResult) := by
  simp only [desiredResourcesFromMetricsOrRequestedUpscaling, bind_eq_ok, Prod.exists] at computed
  obtain ⟨result, ra, da, outcome, returned⟩ := computed
  simp only [pure_eq_ok, Prod.mk.injEq] at returned
  obtain ⟨rfl, rfl, -⟩ := returned
  exact outcome

/-- Without system metrics, or with LFC metrics enabled and missing, not all metrics are
there. -/
theorem calculateGoalCU_missing {cfg : ScalingConfig F} {cu : Resources}
    {systemMetrics : Option (SystemMetrics F)} {lfcMetrics : Option (LFCMetrics F)}
    {sg : ScalingGoal} (ok : calculateGoalCU goalCU cfg cu systemMetrics lfcMetrics = .ok sg)
    (missing : systemMetrics = none ∨ cfg.enableLFCMetrics = some true ∧ lfcMetrics = none) :
    sg.hasAllMetrics = false := by
  unfold calculateGoalCU at ok
  rcases missing with rfl | ⟨enabled, rfl⟩
  · simp only [pure_bind, pure_eq_ok] at ok
    rw [← ok]
  · cases systemMetrics with
    | none =>
      simp only [pure_bind, pure_eq_ok] at ok
      rw [← ok]
    | some metrics =>
      simp only [enabled, deref_some, bind_eq_ok, pure_bind, pure_eq_ok] at ok
      obtain ⟨hasAll, found, rfl⟩ := ok
      cases found
      rfl

theorem le_deniedDownscaleFloor {result result' : Resources} {affected affected' : Bool}
    {inEffect : Bool}
    (ok : s.deniedDownscaleFloor result affected inEffect = .ok (result', affected')) :
    result ≤ result' := by
  obtain ⟨kept, raised⟩ := deniedDownscaleFloor_eq_ok ok
  cases inEffect with
  | false => rw [kept rfl]
  | true =>
    obtain ⟨-, required, -, -, rfl⟩ := raised rfl
    exact Resources.le_max_left _ _

theorem minRequired_le_current {cu : Resources} {denied : DeniedDownscale} {required : Resources}
    (ok : minRequiredResourcesForDeniedDownscale cu denied = .ok required) :
    required ≤ denied.current := by
  rw [Resources.le_iff_get]
  intro f
  rw [(minRequiredResourcesForDeniedDownscale_get ok f).2]
  exact min_le_left _ _

/-! ### The bounds of the desired resources -/

section Outcome

variable {rq dd ra da : Bool} {R : Resources}

theorem min_le_desiredOutcome (ok : s.desiredOutcome goalCU rq dd = .ok (R, ra, da)) :
    s.vm.min ≤ R := by
  obtain ⟨sg, _, _, _, goal₂, -, -, -, floorOk⟩ := desiredOutcome_eq_ok ok
  exact (min_le_boundedGoal sg.hasAllMetrics goal₂).trans (le_deniedDownscaleFloor floorOk)

/-- Above the maximum only while denied downscaling is in effect, and then at most to what the
VM had when it asked. -/
theorem desiredOutcome_le_max (valid : s.vm.min ≤ s.vm.max)
    (ok : s.desiredOutcome goalCU rq dd = .ok (R, ra, da)) :
    (dd = false → R ≤ s.vm.max) ∧ ∀ d ∈ s.monitor.deniedDownscale, R ≤ s.vm.max.max d.current := by
  obtain ⟨sg, _, _, _, goal₂, -, -, -, floorOk⟩ := desiredOutcome_eq_ok ok
  obtain ⟨kept, raised⟩ := deniedDownscaleFloor_eq_ok floorOk
  have bounded := boundedGoal_le_max valid sg.hasAllMetrics goal₂
  cases dd with
  | false =>
    rw [kept rfl]
    exact ⟨fun _ => bounded, fun d _ => bounded.trans (Resources.le_max_left _ _)⟩
  | true =>
    obtain ⟨denied, required, found, minimal, rfl⟩ := raised rfl
    refine ⟨nofun, fun d member => ?_⟩
    -- the denied downscale the floor reads is the one in the state
    have same : denied = d := Option.some.inj (found.symm.trans member)
    subst same
    exact Resources.max_le_iff.mpr ⟨bounded.trans (Resources.le_max_left _ _),
      (minRequired_le_current minimal).trans (Resources.le_max_right _ _)⟩

/-- Missing metrics never take the desired resources below what the VM uses, up to its
maximum. -/
theorem desiredOutcome_of_missing (ok : s.desiredOutcome goalCU rq dd = .ok (R, ra, da))
    (missing : s.metrics = none ∨ s.scalingConfig.enableLFCMetrics = some true ∧
      s.lfcMetrics = none) (f : Field) :
    min (s.vm.using.get f) (s.vm.max.get f) ≤ R.get f := by
  obtain ⟨sg, _, _, _, goal₂, goalOk, -, -, floorOk⟩ := desiredOutcome_eq_ok ok
  have incomplete := calculateGoalCU_missing goalOk missing
  have bounded := boundedGoal_of_missing (s := s) goal₂ f
  rw [← incomplete] at bounded
  exact bounded.trans (Resources.le_iff_get.mp (le_deniedDownscaleFloor floorOk) f)

section Exact

variable (unit : unitFits s.config.computeUnit)
  (goalBelow : ∀ g, s.adjustedGoalCU goalCU rq dd = .ok g → g.toNat < 65536)
include unit goalBelow

/-- While denied downscaling is in effect, every field the VM had more of than it asked for
stays above the request, when the counts of compute units do not wrap. -/
theorem desiredOutcome_above_denied
    (deniedFits : ∀ d ∈ s.monitor.deniedDownscale, countsFit s.config.computeUnit d.requested)
    (ok : s.desiredOutcome goalCU rq dd = .ok (R, ra, da)) (inEffect : dd = true)
    (d : DeniedDownscale) (member : d ∈ s.monitor.deniedDownscale) (f : Field)
    (shrinking : d.requested.get f < d.current.get f) :
    d.requested.get f < R.get f := by
  obtain ⟨sg, _, goal₁, _, goal₂, goalOk, requestedOk, deniedOk, floorOk⟩ :=
    desiredOutcome_eq_ok ok
  have below := goalBelow goal₂ (adjustedGoalCU_eq_ok goalOk requestedOk deniedOk)
  have started := (requestedUpscalingGoal_eq_ok requestedOk).1
  obtain ⟨denied, reqCU, found, required, reached⟩ :=
    (deniedDownscaleGoal_eq_ok started deniedOk).2 inEffect
  obtain ⟨-, raised⟩ := deniedDownscaleFloor_eq_ok floorOk
  obtain ⟨denied', floor, found', minimal, rfl⟩ := raised inEffect
  -- both stages read the denied downscale of the state
  have same : denied = d := Option.some.inj (found.symm.trans member)
  have same' : denied' = d := Option.some.inj (found'.symm.trans member)
  subst same same'
  have counted := requiredCUForDeniedDownscale_ge required f
  rw [cuAbove_toNat (deniedFits _ member) f] at counted
  have above := requested_lt_minRequired minimal unit (by omega) shrinking
  rw [Resources.get_max]
  exact lt_of_lt_of_le above (le_max_right _ _)

/-- While requested upscaling is in effect, every field asked for goes above the base of the
request or up to the maximum, when the counts of compute units do not wrap. -/
theorem desiredOutcome_meets_requested
    (requestedFits : ∀ u ∈ s.monitor.requestedUpscale, countsFit s.config.computeUnit u.base)
    (ok : s.desiredOutcome goalCU rq dd = .ok (R, ra, da)) (inEffect : rq = true)
    (u : RequestedUpscale) (member : u ∈ s.monitor.requestedUpscale) (f : Field)
    (asked : u.requested.get f = true) :
    u.base.get f < R.get f ∨ s.vm.max.get f ≤ R.get f := by
  obtain ⟨sg, _, goal₁, _, goal₂, goalOk, requestedOk, deniedOk, floorOk⟩ :=
    desiredOutcome_eq_ok ok
  have below := goalBelow goal₂ (adjustedGoalCU_eq_ok goalOk requestedOk deniedOk)
  obtain ⟨started, upscaled⟩ := requestedUpscalingGoal_eq_ok requestedOk
  obtain ⟨requested, reqCU, found, required, reached⟩ := upscaled inEffect
  have same : requested = u := Option.some.inj (found.symm.trans member)
  subst same
  have kept := (deniedDownscaleGoal_eq_ok started deniedOk).1
  obtain ⟨positive, counted⟩ := requiredCUForRequestedUpscaling_ge required asked
  rw [cuAbove_toNat (requestedFits _ member) f] at counted
  -- the goal's resources are exact, and one compute unit above the base at least
  have goalExact : (s.config.computeUnit.mul goal₂.toUInt16).get f =
      goal₂.toNat * s.config.computeUnit.get f := by
    rw [Resources.get_mul, UInt32.toNat_toUInt16,
      Nat.mod_eq_of_lt (show goal₂.toNat < 2 ^ 16 by omega)]
    exact mul_get_of_unitFits unit below f
  have overBase : requested.base.get f < (s.config.computeUnit.mul goal₂.toUInt16).get f := by
    rw [goalExact]
    calc requested.base.get f
        < s.config.computeUnit.get f * (requested.base.get f / s.config.computeUnit.get f + 1) :=
          Nat.lt_mul_div_succ _ positive
      _ ≤ s.config.computeUnit.get f * goal₂.toNat := Nat.mul_le_mul_left _ (by omega)
      _ = goal₂.toNat * s.config.computeUnit.get f := Nat.mul_comm _ _
  have raised := Resources.le_iff_get.mp (le_deniedDownscaleFloor floorOk) f
  rcases boundedGoal_above sg.hasAllMetrics overBase with above | atMax
  · exact .inl (lt_of_lt_of_le above raised)
  · exact .inr (atMax.trans raised)

end Exact

end Outcome

/-! ### Growing with the goal -/

/-- Below 65536 compute units, with all of them fitting each field, more goal never gives less. -/
theorem boundedGoal_mono (unit : unitFits s.config.computeUnit) (hasAllMetrics : Bool)
    {goal goal' : UInt32} (le : goal.toNat ≤ goal'.toNat) (below : goal'.toNat < 65536) :
    s.boundedGoal hasAllMetrics goal ≤ s.boundedGoal hasAllMetrics goal' := by
  rw [Resources.le_iff_get]
  intro f
  have exact : ∀ g : UInt32, g.toNat < 65536 →
      (s.config.computeUnit.mul g.toUInt16).get f = g.toNat * s.config.computeUnit.get f := by
    intro g few
    rw [Resources.get_mul, UInt32.toNat_toUInt16, Nat.mod_eq_of_lt (show g.toNat < 2 ^ 16 by omega)]
    exact mul_get_of_unitFits unit few f
  have grows : goal.toNat * s.config.computeUnit.get f ≤ goal'.toNat * s.config.computeUnit.get f :=
    Nat.mul_le_mul_right _ le
  rw [get_boundedGoal, get_boundedGoal, exact goal (by omega), exact goal' below]
  cases hasAllMetrics <;> simp only [Bool.false_eq_true, ↓reduceIte] <;> omega

/-- A goal whose resources, computed exactly, reach the maximum gives the maximum. -/
theorem boundedGoal_eq_max (valid : s.vm.min ≤ s.vm.max) (unit : unitFits s.config.computeUnit)
    (hasAllMetrics : Bool) {goal : UInt32} (below : goal.toNat < 65536)
    (reaches : ∀ f, s.vm.max.get f ≤ goal.toNat * s.config.computeUnit.get f) :
    s.boundedGoal hasAllMetrics goal = s.vm.max := by
  rw [Resources.eq_iff_get]
  intro f
  have minBelow := Resources.le_iff_get.mp valid f
  have exact : (s.config.computeUnit.mul goal.toUInt16).get f =
      goal.toNat * s.config.computeUnit.get f := by
    rw [Resources.get_mul, UInt32.toNat_toUInt16,
      Nat.mod_eq_of_lt (show goal.toNat < 2 ^ 16 by omega)]
    exact mul_get_of_unitFits unit below f
  have atMax := reaches f
  rw [get_boundedGoal, exact]
  cases hasAllMetrics <;> simp only [Bool.false_eq_true, ↓reduceIte] <;> omega

theorem calculateGoalCU_eq_ok {cfg : ScalingConfig F} {cu : Resources}
    {systemMetrics : Option (SystemMetrics F)} {lfcMetrics : Option (LFCMetrics F)}
    {sg : ScalingGoal} (ok : calculateGoalCU goalCU cfg cu systemMetrics lfcMetrics = .ok sg)
    (goalCU' : GoalCUFn F) :
    sg.goalCU = goalCU cfg cu systemMetrics lfcMetrics ∧
      calculateGoalCU goalCU' cfg cu systemMetrics lfcMetrics =
        .ok ⟨sg.hasAllMetrics, goalCU' cfg cu systemMetrics lfcMetrics⟩ := by
  unfold calculateGoalCU at ok ⊢
  cases systemMetrics with
  | none =>
    simp only [pure_bind, pure_eq_ok] at ok ⊢
    subst ok
    exact ⟨rfl, rfl⟩
  | some metrics =>
    simp only [bind_eq_ok, pure_bind, pure_eq_ok] at ok ⊢
    obtain ⟨enabled, found, rfl⟩ := ok
    exact ⟨rfl, enabled, found, rfl⟩

/-- With neither requested upscaling nor denied downscaling in effect, the desired resources
are those of the goal. -/
theorem desiredOutcome_quiet {ra da : Bool} {R : Resources}
    (ok : s.desiredOutcome goalCU false false = .ok (R, ra, da)) :
    ∃ sg, calculateGoalCU goalCU s.scalingConfig s.config.computeUnit s.metrics s.lfcMetrics =
      .ok sg ∧ R = s.boundedGoal sg.hasAllMetrics sg.goalCU := by
  obtain ⟨sg, _, goal₁, _, goal₂, goalOk, requestedOk, deniedOk, floorOk⟩ :=
    desiredOutcome_eq_ok ok
  simp only [requestedUpscalingGoal, Bool.false_eq_true, ↓reduceIte, pure_eq_ok,
    Prod.mk.injEq] at requestedOk
  obtain ⟨-, rfl⟩ := requestedOk
  simp only [deniedDownscaleGoal, Bool.false_eq_true, ↓reduceIte, pure_eq_ok,
    Prod.mk.injEq] at deniedOk
  obtain ⟨-, rfl⟩ := deniedOk
  exact ⟨sg, goalOk, ((deniedDownscaleFloor_eq_ok floorOk).1 rfl)⟩

/-- For a state with neither requested upscaling nor denied downscaling in effect, the desired
resources grow with the goal, below 65536 compute units all fitting each field. -/
theorem desired_goal_mono (unit : unitFits s.config.computeUnit) {now : Int} {goal goal' : UInt32}
    (le : goal.toNat ≤ goal'.toNat) (below : goal'.toNat < 65536)
    (noUpscale : ¬ 0 < s.timeUntilRequestedUpscalingExpired now)
    (noDenial : ¬ 0 < s.timeUntilDeniedDownscaleExpired now)
    {D D' : Resources} {dw dw' : DesiredWait} {s₁ s₁' : State F}
    (computed : s.desiredResourcesFromMetricsOrRequestedUpscaling (fun _ _ _ _ => goal) now =
      .ok (D, dw, s₁))
    (computed' : s.desiredResourcesFromMetricsOrRequestedUpscaling (fun _ _ _ _ => goal') now =
      .ok (D', dw', s₁')) :
    D ≤ D' := by
  have outcome := desired_outcome computed
  have outcome' := desired_outcome computed'
  rw [decide_eq_false noUpscale, decide_eq_false noDenial] at outcome outcome'
  obtain ⟨sg, goalOk, rfl⟩ := desiredOutcome_quiet outcome
  obtain ⟨sg', goalOk', rfl⟩ := desiredOutcome_quiet outcome'
  -- both goals come from one reading of the metrics
  obtain ⟨isGoal, other⟩ := calculateGoalCU_eq_ok goalOk (fun _ _ _ _ => goal')
  rw [goalOk'] at other
  cases other
  rw [isGoal]
  exact boundedGoal_mono unit sg.hasAllMetrics le below

/-- The desired resources keep within the VM's bounds for every goal, with no condition on the
compute unit: at least the minimum, at most the maximum unless a denied downscale is in effect and
never above the larger of the maximum and the denied downscale's current resources, and, while
metrics are missing, not below what the VM uses (within its maximum). -/
theorem desired_within_vm_bounds {goalCU : GoalCUFn F} {s s' : State F} {now : Int}
    {D : Resources} {dw : DesiredWait} (valid : s.vm.min ≤ s.vm.max)
    (computed : s.desiredResourcesFromMetricsOrRequestedUpscaling goalCU now = .ok (D, dw, s')) :
    s.vm.min ≤ D ∧
      (¬ 0 < s.timeUntilDeniedDownscaleExpired now → D ≤ s.vm.max) ∧
      (∀ d ∈ s.monitor.deniedDownscale, D ≤ s.vm.max.max d.current) ∧
      ((s.metrics = none ∨ s.scalingConfig.enableLFCMetrics = some true ∧
          s.lfcMetrics = none) → ∀ f, min (s.vm.using.get f) (s.vm.max.get f) ≤ D.get f) := by
  have outcome := desired_outcome computed
  obtain ⟨notDenied, withinDenied⟩ := desiredOutcome_le_max valid outcome
  exact ⟨min_le_desiredOutcome outcome, fun lapsed => notDenied (decide_eq_false lapsed),
    withinDenied, fun missing f => desiredOutcome_of_missing outcome missing f⟩

/-- Where the counts of compute units do not wrap, the desired resources stay above a denied
downscale in each field it lowers, and reach a requested upscale in each field it asks for, or the
VM's maximum. -/
theorem desired_within_bounds {goalCU : GoalCUFn F} {s s' : State F} {now : Int}
    {D : Resources} {dw : DesiredWait}
    (unit : unitFits s.config.computeUnit)
    (goalBelow : ∀ g, s.adjustedGoalCU goalCU (s.timeUntilRequestedUpscalingExpired now > 0)
      (s.timeUntilDeniedDownscaleExpired now > 0) = .ok g → g.toNat < 65536)
    (requestedFits : ∀ u ∈ s.monitor.requestedUpscale, countsFit s.config.computeUnit u.base)
    (deniedFits : ∀ d ∈ s.monitor.deniedDownscale, countsFit s.config.computeUnit d.requested)
    (computed : s.desiredResourcesFromMetricsOrRequestedUpscaling goalCU now = .ok (D, dw, s')) :
      (0 < s.timeUntilDeniedDownscaleExpired now → ∀ d ∈ s.monitor.deniedDownscale, ∀ f,
        d.requested.get f < d.current.get f → d.requested.get f < D.get f) ∧
      (0 < s.timeUntilRequestedUpscalingExpired now → ∀ u ∈ s.monitor.requestedUpscale, ∀ f,
        u.requested.get f = true → u.base.get f < D.get f ∨ s.vm.max.get f ≤ D.get f) := by
  have outcome := desired_outcome computed
  refine ⟨fun inEffect => ?_, fun inEffect => ?_⟩
  · exact desiredOutcome_above_denied unit goalBelow deniedFits outcome
      (decide_eq_true inEffect)
  · exact desiredOutcome_meets_requested unit goalBelow requestedFits outcome
      (decide_eq_true inEffect)

end State

end Autoscaling.Agent.Core

namespace Autoscaling.Agent.Executor

open Go Vmv1 Api Autoscaling.Agent.Core

/-- `approvedState` with a downscale from four to two compute units denied at time 0. -/
def deniedState : State Nat :=
  { approvedState with
    monitor := { approvedState.monitor with
      deniedDownscale := some ⟨0, computeUnits 4, computeUnits 2⟩ } }

/-- A second after the denial, the desired resources stay a compute unit above the request. -/
theorem desired_within_bounds_denied :
    ∃ D dw s', deniedState.desiredResourcesFromMetricsOrRequestedUpscaling loadGoal 1000000000 =
      .ok (D, dw, s') ∧ ∀ f, (computeUnits 2).get f < D.get f := by
  have computed : deniedState.desiredResourcesFromMetricsOrRequestedUpscaling loadGoal 1000000000 =
      .ok (computeUnits 3, ⟨true, 4000000000, false, 0⟩,
        { deniedState with
          lastDesiredResources := some (computeUnits 3), targetRevision := ⟨1, 2⟩,
          revisionSource := { deniedState.revisionSource with measurements := [1000000000] } }) := by
    decide
  have adjusted : deniedState.adjustedGoalCU loadGoal
      (deniedState.timeUntilRequestedUpscalingExpired 1000000000 > 0)
      (deniedState.timeUntilDeniedDownscaleExpired 1000000000 > 0) = .ok 3 := by
    decide
  have unit : unitFits deniedState.config.computeUnit := fun f => by cases f <;> decide
  have bounds := State.desired_within_bounds unit
    (fun g found => by
      rw [adjusted] at found
      cases found
      decide)
    (fun u member => nomatch member)
    (fun d member => by
      cases member
      intro f
      cases f <;> decide)
    computed
  refine ⟨_, _, _, computed, fun f => bounds.1 (by decide) _ rfl f ?_⟩
  cases f <;> decide

/-- A second after the denial, three compute units: within the VM's bounds and below the denied
downscale's current four. -/
theorem desired_within_vm_bounds_denied :
    deniedState.vm.min ≤ computeUnits 3 ∧
      ∀ d ∈ deniedState.monitor.deniedDownscale,
        computeUnits 3 ≤ deniedState.vm.max.max d.current := by
  have computed : deniedState.desiredResourcesFromMetricsOrRequestedUpscaling loadGoal 1000000000 =
      .ok (computeUnits 3, ⟨true, 4000000000, false, 0⟩,
        { deniedState with
          lastDesiredResources := some (computeUnits 3), targetRevision := ⟨1, 2⟩,
          revisionSource := { deniedState.revisionSource with measurements := [1000000000] } }) := by
    decide
  have valid : deniedState.vm.min ≤ deniedState.vm.max := by decide
  obtain ⟨above, -, withinDenied, -⟩ := State.desired_within_vm_bounds valid computed
  exact ⟨above, withinDenied⟩

/-- `approvedState` with a downscale of memory denied from just under 16 EiB to 4 GiB less. -/
def hugeDeniedState : State Nat :=
  { approvedState with
    monitor := { approvedState.monitor with
      deniedDownscale := some ⟨0, ⟨4000, 18446744073709551615⟩, ⟨4000, 18446744069414584320⟩⟩ } }

/-- One compute unit above the denied memory is `2^64` bytes, which wraps to zero: with the goal
at five compute units, the VM's minimum within its maximum and a compute unit of 1 vCPU and
4 GiB, the desired memory is 20 GiB, far below the denied request. -/
theorem denied_downscale_wraps :
    hugeDeniedState.vm.min ≤ hugeDeniedState.vm.max ∧
      (∀ f, 0 < hugeDeniedState.config.computeUnit.get f) ∧
      hugeDeniedState.adjustedGoalCU loadGoal
        (hugeDeniedState.timeUntilRequestedUpscalingExpired 1000000000 > 0)
        (hugeDeniedState.timeUntilDeniedDownscaleExpired 1000000000 > 0) = .ok 5 ∧
      0 < hugeDeniedState.timeUntilDeniedDownscaleExpired 1000000000 ∧
      ∃ d ∈ hugeDeniedState.monitor.deniedDownscale, d.requested.get .mem < d.current.get .mem ∧
        (hugeDeniedState.desiredResourcesFromMetricsOrRequestedUpscaling loadGoal
          1000000000).map (·.1) = .ok (computeUnits 5) ∧
        (computeUnits 5).get .mem < d.requested.get .mem := by
  have valid : (exampleVM 4).min ≤ (exampleVM 4).max := by decide
  refine ⟨valid, fun f => by cases f <;> decide, by decide, by decide, _, rfl, by decide,
    by decide, by decide⟩

/-- `uint16(goalCU)` wraps: with all metrics, nothing requested or denied and the VM between
one and eight compute units, a goal of 65535 compute units gives the maximum and one of 65536
the minimum, although 65536 compute units, computed exactly, are far above the maximum. -/
theorem desired_wraps_at_uint16 :
    approvedState.vm.min ≤ approvedState.vm.max ∧
      approvedState.monitor.requestedUpscale = none ∧
      approvedState.monitor.deniedDownscale = none ∧
      (calculateGoalCU (fun _ _ _ _ => 65536) approvedState.scalingConfig
        approvedState.config.computeUnit approvedState.metrics approvedState.lfcMetrics).map
          (·.hasAllMetrics) = .ok true ∧
      (65535 : UInt32) ≤ 65536 ∧
      (∀ f, approvedState.vm.max.get f ≤ 65536 * approvedState.config.computeUnit.get f) ∧
      (approvedState.desiredResourcesFromMetricsOrRequestedUpscaling (fun _ _ _ _ => 65535)
        0).map (·.1) = .ok approvedState.vm.max ∧
      (approvedState.desiredResourcesFromMetricsOrRequestedUpscaling (fun _ _ _ _ => 65536)
        0).map (·.1) = .ok approvedState.vm.min ∧
      ¬ approvedState.vm.max ≤ approvedState.vm.min := by
  have valid : (exampleVM 4).min ≤ (exampleVM 4).max := by decide
  refine ⟨valid, rfl, rfl, by decide, by decide, fun f => by cases f <;> decide, by decide,
    by decide, by decide⟩

end Autoscaling.Agent.Executor
