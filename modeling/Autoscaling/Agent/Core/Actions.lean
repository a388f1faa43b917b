import Autoscaling.Agent.Sleeper

/-!
# What the actions of `NextActions` ask for

Every request `nextActions` returns stays within the bounds the protocol sets for it
(`nextActions_requests_within_bounds`). A NeonVM request moves the VM towards the desired
resources, up only as far as the plugin permitted and down only as far as the vm-monitor
approved, and never above what the plugin is being asked for. A plugin request asks for no less
than the VM uses, from the last permit. The vm-monitor gets one request at a time: an upscale
towards what the VM uses, a downscale by at most one compute unit towards the desired
resources. And every wait is positive.

Each bound comes out of `clampResources`, which clamps each field by itself: a field that goes
up is bounded by the upper bound and by the desired value, one that goes down by the lower bound
and by the desired value. `clampField_cases` says so once, over any linear order, and
`clampResources_eq_ok` reads each field of the result as `clampField` of the fields, as natural
numbers.
-/

namespace Autoscaling.Agent.Core

open Go Vmv1 Api

variable {F : Type}

/-! ### Clamping one field -/

section ClampField

variable {α : Type} [LinearOrder α] {current desired : α} {lower upper : Option α}

/-- `clampField` lowers to the lower bound, raises to the upper bound, or keeps the value. -/
theorem clampField_cases (current desired : α) (lower upper : Option α) :
    desired < current ∧
        clampField current desired lower upper = (lower.map (max desired)).getD desired ∨
      current < desired ∧
        clampField current desired lower upper = (upper.map (min desired)).getD desired ∨
      desired = current ∧ clampField current desired lower upper = desired := by
  unfold clampField
  rcases lt_trichotomy desired current with below | same | above
  · refine .inl ⟨below, ?_⟩
    rw [if_pos below]
    cases lower <;> rfl
  · refine .inr (.inr ⟨same, ?_⟩)
    subst same
    rw [if_neg (lt_irrefl _), if_neg (lt_irrefl _)]
  · refine .inr (.inl ⟨above, ?_⟩)
    rw [if_neg (lt_asymm above), if_pos above]
    cases upper <;> rfl

variable (lo : ∀ l ∈ lower, l ≤ current) (hi : ∀ u ∈ upper, current ≤ u)
include lo hi

/-- With bounds on either side of `current`, the result lies between `current` and `desired`. -/
theorem clampField_between :
    min current desired ≤ clampField current desired lower upper ∧
      clampField current desired lower upper ≤ max current desired := by
  rcases clampField_cases current desired lower upper with
    ⟨below, clamped⟩ | ⟨above, clamped⟩ | ⟨same, clamped⟩ <;> rw [clamped]
  · cases lower with
    | none => exact ⟨min_le_right _ _, le_max_right _ _⟩
    | some l =>
      have := lo l rfl
      simp only [Option.map_some, Option.getD_some]
      constructor <;> grind
  · cases upper with
    | none => exact ⟨min_le_right _ _, le_max_right _ _⟩
    | some u =>
      have := hi u rfl
      simp only [Option.map_some, Option.getD_some]
      constructor <;> grind
  · exact ⟨min_le_right _ _, le_max_right _ _⟩

theorem le_clampField {l : α} (member : l ∈ lower) : l ≤ clampField current desired lower upper := by
  have bounded := lo l member
  rcases clampField_cases current desired lower upper with
    ⟨below, clamped⟩ | ⟨above, clamped⟩ | ⟨same, clamped⟩ <;> rw [clamped]
  · rw [Option.mem_def.mp member]
    exact le_max_right _ _
  · -- an increase stays above `current`, which is above the lower bound
    cases upper with
    | none => exact bounded.trans above.le
    | some u => exact bounded.trans (le_min above.le (hi u rfl))
  · exact same ▸ bounded

theorem clampField_le {u : α} (member : u ∈ upper) : clampField current desired lower upper ≤ u := by
  have bounded := hi u member
  rcases clampField_cases current desired lower upper with
    ⟨below, clamped⟩ | ⟨above, clamped⟩ | ⟨same, clamped⟩ <;> rw [clamped]
  · -- a decrease stays below `current`, which is below the upper bound
    cases lower with
    | none => exact below.le.trans bounded
    | some l => exact (max_le below.le (lo l rfl)).trans bounded
  · rw [Option.mem_def.mp member]
    exact min_le_right _ _
  · exact same ▸ bounded

/-- A field that went up is at most the desired value. -/
theorem clampField_le_desired (above : current < clampField current desired lower upper) :
    clampField current desired lower upper ≤ desired := by
  have between : clampField current desired lower upper ≤ max current desired :=
    (clampField_between lo hi).2
  rcases clampField_cases current desired lower upper with
    ⟨below, clamped⟩ | ⟨-, clamped⟩ | ⟨-, clamped⟩
  · rw [max_eq_left below.le] at between
    exact absurd between above.not_ge
  · rw [clamped]
    cases upper with
    | none => exact le_rfl
    | some u => exact min_le_left _ _
  · rw [clamped]

/-- A field that went down is at least the desired value. -/
theorem desired_le_clampField (below : clampField current desired lower upper < current) :
    desired ≤ clampField current desired lower upper := by
  have between : min current desired ≤ clampField current desired lower upper :=
    (clampField_between lo hi).1
  rcases clampField_cases current desired lower upper with
    ⟨-, clamped⟩ | ⟨above, clamped⟩ | ⟨-, clamped⟩
  · rw [clamped]
    cases lower with
    | none => exact le_rfl
    | some l => exact le_max_left _ _
  · rw [min_eq_left above.le] at between
    exact absurd between below.not_ge
  · rw [clamped]

end ClampField

/-- `clampField` commutes with a map that keeps `<`, `max` and `min`, such as `toNat`. -/
theorem map_clampField {α β : Type} [LT α] [DecidableLT α] [Max α] [Min α] [LT β]
    [DecidableLT β] [Max β] [Min β] (f : α → β) (lt_iff : ∀ a b, a < b ↔ f a < f b)
    (map_max : ∀ a b, f (max a b) = max (f a) (f b))
    (map_min : ∀ a b, f (min a b) = min (f a) (f b)) (current desired : α)
    (lower upper : Option α) :
    f (clampField current desired lower upper) =
      clampField (f current) (f desired) (lower.map f) (upper.map f) := by
  unfold clampField
  by_cases below : desired < current
  · rw [if_pos below, if_pos ((lt_iff _ _).mp below)]
    cases lower <;> simp [map_max]
  · rw [if_neg below, if_neg (mt (lt_iff _ _).mpr below)]
    by_cases above : desired > current
    · rw [if_pos above, if_pos ((lt_iff _ _).mp above)]
      cases upper <;> simp [map_min]
    · rw [if_neg above, if_neg (mt (lt_iff _ _).mpr above)]

/-- `clampResources` succeeds only on bounds on either side of `current`, and then clamps each
field. -/
theorem clampResources_eq_ok {current desired r : Resources}
    {lowerBound upperBound : Option Resources}
    (clamped : clampResources current desired lowerBound upperBound = .ok r) :
    (∀ l ∈ lowerBound, l ≤ current) ∧ (∀ u ∈ upperBound, current ≤ u) ∧
      ∀ f, r.get f = clampField (current.get f) (desired.get f) (lowerBound.map (·.get f))
        (upperBound.map (·.get f)) := by
  unfold clampResources at clamped
  split at clamped
  next => cases clamped
  next lowerOk =>
    split at clamped
    next => cases clamped
    next upperOk =>
      cases clamped
      refine ⟨fun l member => ?_, fun u member => ?_, fun f => ?_⟩
      · rw [Option.mem_def.mp member] at lowerOk
        simpa using lowerOk
      · rw [Option.mem_def.mp member] at upperOk
        simpa using upperOk
      · cases f
        · rw [Resources.get, map_clampField UInt32.toNat (fun _ _ => UInt32.lt_iff_toNat_lt)
            UInt32.toNat_max UInt32.toNat_min]
          simp [Option.map_map, Function.comp_def, Resources.get]
        · rw [Resources.get, map_clampField UInt64.toNat (fun _ _ => UInt64.lt_iff_toNat_lt)
            UInt64.toNat_max UInt64.toNat_min]
          simp [Option.map_map, Function.comp_def, Resources.get]

/-- A failure backoff is a positive wait. -/
theorem failureBackoff_pos {failedAt : Option Int} {retryWait : Duration} {now : Int}
    {wait : Duration} (waiting : failureBackoff failedAt retryWait now = some wait) : 0 < wait :=
  (failureBackoff_eq_some.mp waiting).choose_spec.2.2

namespace State

/-! ### Each party's request -/

/-- A plugin request is made with no plugin request ongoing, from the last permit, and for no
less than the VM uses; every wait of the plugin's calculation is positive. -/
theorem calculatePluginAction_bounds {s : State F} {now : Int} {desired : Resources}
    {request : Option ActionPluginRequest} {wait : Option Duration}
    (computed : s.calculatePluginAction now desired = .ok (request, wait)) :
    (∀ req ∈ request, s.plugin.ongoingRequest = false ∧ req.lastPermit = s.plugin.permit ∧
      s.vm.using ≤ req.target) ∧ ∀ w ∈ wait, 0 < w := by
  simp only [calculatePluginAction, bind_eq_ok] at computed
  obtain ⟨requestResources, clamped, computed⟩ := computed
  -- the resources asked for are at least what the VM uses, whether they are new or not
  have requestAbove : s.vm.using ≤ requestResources := by
    obtain ⟨-, -, fields⟩ := clampResources_eq_ok clamped
    rw [Resources.le_iff_get]
    intro f
    rw [fields f]
    exact le_clampField (by simp) (by simp) rfl
  cases ongoing : s.plugin.ongoingRequest with
  | true =>
    simp only [ongoing, ↓reduceIte] at computed
    obtain ⟨_, -, done⟩ := bind_eq_ok.mp computed
    obtain ⟨rfl, rfl⟩ := Prod.mk.inj (pure_eq_ok.mp done)
    simp
  | false =>
    simp only [ongoing, Bool.false_eq_true, ↓reduceIte] at computed
    cases backoff : failureBackoff s.plugin.lastFailureAt s.config.pluginRetryWait now with
    | some w =>
      simp only [backoff, pure_eq_ok, Prod.mk.injEq] at computed
      obtain ⟨rfl, rfl⟩ := computed
      refine ⟨by simp, fun w' member => ?_⟩
      rw [Option.mem_def, Option.some.injEq] at member
      exact member ▸ failureBackoff_pos backoff
    | none =>
      simp only [backoff] at computed
      split at computed
      next =>
        simp only [pure_eq_ok, Prod.mk.injEq] at computed
        obtain ⟨rfl, rfl⟩ := computed
        refine ⟨fun req member => ?_, by simp⟩
        rw [Option.mem_def, Option.some.injEq] at member
        subst member
        refine ⟨rfl, rfl, ?_⟩
        dsimp only
        split
        · exact requestAbove
        · -- the resources of the ongoing NeonVM request, or what the VM uses
          split
          · exact Resources.le_max_left _ _
          · exact le_rfl
      next notDue =>
        -- not yet time for a request: the wait is until the next tick, or the retry backoff
        simp only [gt_iff_lt, Bool.or_eq_true, decide_eq_true_eq, Bool.and_eq_true,
          Bool.not_eq_eq_eq_not, Bool.not_true, decide_eq_false_iff_not, Int64.not_lt, not_or,
          Int64.not_le, not_and, and_imp] at notDue
        obtain ⟨tickPending, retryPending⟩ := notDue
        simp only [pure_eq_ok, Prod.mk.injEq] at computed
        obtain ⟨rfl, rfl⟩ := computed
        refine ⟨by simp, fun w member => ?_⟩
        rw [Option.mem_def, Option.some.injEq] at member
        subst member
        split
        next waiting =>
          rw [Int64.lt_iff_toInt_lt, toInt_min]
          rw [gt_iff_lt, Int64.lt_iff_toInt_lt] at waiting
          exact lt_min (Int64.lt_iff_toInt_lt.mp tickPending) waiting
        next => exact tickPending

/-- A NeonVM request is made with no NeonVM request ongoing, from what the VM uses, to something
else: each field that goes up goes at most to the desired value and to what the plugin
permitted, each that goes down at least to the desired value and to what the vm-monitor
approved, and none goes above what the plugin is asked for. Every wait is positive. -/
theorem calculateNeonVMAction_bounds {s s' : State F} {now : Int} {desired : Resources}
    {requested : Option Resources} {request : Option ActionNeonVMRequest}
    {wait : Option Duration}
    (computed : s.calculateNeonVMAction now desired requested = .ok (request, wait, s')) :
    (∀ req ∈ request, s.neonvm.ongoingRequest = false ∧ req.current = s.vm.using ∧
      req.target ≠ req.current ∧
      (∀ f, s.vm.using.get f < req.target.get f →
        req.target.get f ≤ min (desired.get f) (s.pluginApprovedUpperBound.get f)) ∧
      (∀ f, req.target.get f < s.vm.using.get f →
        max (desired.get f) (s.monitorApprovedLowerBound.get f) ≤ req.target.get f) ∧
      ∀ r ∈ requested, req.target ≤ r) ∧ ∀ w ∈ wait, 0 < w := by
  simp only [calculateNeonVMAction, bind_eq_ok] at computed
  obtain ⟨clamped, clampOk, computed⟩ := computed
  obtain ⟨lo, hi, fields⟩ := clampResources_eq_ok clampOk
  -- the bounds of each field, read off `clampField`
  have lo' : ∀ f, ∀ l ∈ (some s.monitorApprovedLowerBound).map (·.get f), l ≤ s.vm.using.get f := by
    intro f l member
    simp only [Option.map_some, Option.mem_def, Option.some.injEq] at member
    exact member ▸ Resources.le_iff_get.mp (lo _ rfl) f
  have hi' : ∀ f, ∀ u ∈ (some s.pluginApprovedUpperBound).map (·.get f), s.vm.using.get f ≤ u := by
    intro f u member
    simp only [Option.map_some, Option.mem_def, Option.some.injEq] at member
    exact member ▸ Resources.le_iff_get.mp (hi _ rfl) f
  split at computed
  next => simp only [pure_eq_ok, Prod.mk.injEq] at computed; simp [← computed.1, ← computed.2.1]
  next moved =>
    split at computed
    next free =>
      simp only [Bool.and_eq_true, Bool.not_eq_eq_eq_not, Bool.not_true] at free
      cases backoff : failureBackoff s.neonvm.requestFailedAt s.config.neonVMRetryWait now with
      | some w =>
        simp only [backoff, pure_eq_ok, Prod.mk.injEq] at computed
        obtain ⟨rfl, rfl, -⟩ := computed
        refine ⟨by simp, fun w' member => ?_⟩
        rw [Option.mem_def, Option.some.injEq] at member
        exact member ▸ failureBackoff_pos backoff
      | none =>
        simp only [backoff, pure_eq_ok, Prod.mk.injEq] at computed
        obtain ⟨rfl, rfl, -⟩ := computed
        refine ⟨fun req member => ?_, by simp⟩
        rw [Option.mem_def, Option.some.injEq] at member
        subst member
        refine ⟨by simpa [NeonvmState.ongoingRequest] using free.1, rfl, Ne.symm moved,
          fun f up => ?_, fun f down => ?_, fun r member => ?_⟩
        · dsimp only at up ⊢
          rw [fields f] at up ⊢
          exact le_min (clampField_le_desired (lo' f) (hi' f) up) (clampField_le (lo' f) (hi' f) rfl)
        · dsimp only at down ⊢
          rw [fields f] at down ⊢
          exact max_le (desired_le_clampField (lo' f) (hi' f) down)
            (le_clampField (lo' f) (hi' f) rfl)
        · -- the request does not conflict with what the plugin is asked for
          have conflict := free.2
          rw [Option.mem_def.mp member] at conflict
          simpa using conflict
    next => simp only [pure_eq_ok, Prod.mk.injEq] at computed; simp [← computed.1, ← computed.2.1]

/-- A vm-monitor upscale is sent to an active vm-monitor with no request ongoing, from what it
approved to something above it and no higher than what the VM uses. Every wait is positive. -/
theorem calculateMonitorUpscaleAction_bounds {s : State F} {now : Int} {desired : Resources}
    {request : Option ActionMonitorUpscale} {wait : Option Duration}
    (computed : s.calculateMonitorUpscaleAction now desired = .ok (request, wait)) :
    (∀ req ∈ request, s.monitor.approved = some req.current ∧ s.monitor.ongoingRequest = none ∧
      req.target ≠ req.current ∧ req.current ≤ req.target ∧
      req.target ≤ req.current.max s.vm.using) ∧ ∀ w ∈ wait, 0 < w := by
  simp only [calculateMonitorUpscaleAction] at computed
  cases approvedIs : s.monitor.approved with
  | none =>
    simp only [approvedIs, pure_eq_ok, Prod.mk.injEq] at computed
    simp [← computed.1, ← computed.2]
  | some approved =>
    simp only [approvedIs, bind_eq_ok] at computed
    obtain ⟨req₁, clamp₁, req₂, clamp₂, computed⟩ := computed
    have notBelow : req₂.hasFieldLessThan approved = false := by
      cases below : req₂.hasFieldLessThan approved
      · rfl
      · simp [below] at computed
    -- towards what the VM uses, then by at most a compute unit: never above what the VM uses
    have within : req₂ ≤ approved.max s.vm.using := by
      obtain ⟨-, -, fields₁⟩ := clampResources_eq_ok clamp₁
      obtain ⟨-, hi₂, fields₂⟩ := clampResources_eq_ok clamp₂
      rw [Resources.le_iff_get]
      intro f
      have first : req₁.get f ≤ max (approved.get f) (s.vm.using.get f) := by
        rw [fields₁ f]
        refine (clampField_between ?_ ?_).2
        · simp
        · simp
      have second : req₂.get f ≤ max (approved.get f) (req₁.get f) := by
        rw [fields₂ f]
        refine (clampField_between ?_ ?_).2
        · simp
        · simpa using Resources.le_iff_get.mp (hi₂ _ rfl) f
      rw [Resources.get_max]
      omega
    simp only [notBelow, Bool.false_eq_true, ↓reduceIte] at computed
    split at computed
    next => simp only [pure_eq_ok, Prod.mk.injEq] at computed; simp [← computed.1, ← computed.2]
    next moved =>
      split at computed
      next => simp only [pure_eq_ok, Prod.mk.injEq] at computed; simp [← computed.1, ← computed.2]
      next idle =>
        cases backoff : failureBackoff s.monitor.upscaleFailureAt s.config.monitorRetryWait now with
        | some w =>
          simp only [backoff, pure_eq_ok, Prod.mk.injEq] at computed
          obtain ⟨rfl, rfl⟩ := computed
          refine ⟨by simp, fun w' member => ?_⟩
          rw [Option.mem_def, Option.some.injEq] at member
          exact member ▸ failureBackoff_pos backoff
        | none =>
          simp only [backoff, pure_eq_ok, Prod.mk.injEq] at computed
          obtain ⟨rfl, rfl⟩ := computed
          refine ⟨fun req member => ?_, by simp⟩
          rw [Option.mem_def, Option.some.injEq] at member
          subst member
          exact ⟨rfl, by simpa using idle, moved, by simpa using notBelow, within⟩

/-- A vm-monitor downscale is sent to an active vm-monitor with no request ongoing or planned,
from what it approved to something below it, by at most one compute unit, and no lower than
the desired resources. Every wait is positive. -/
theorem calculateMonitorDownscaleAction_bounds {s : State F} {now : Int} {desired : Resources}
    {planned : Bool} {request : Option ActionMonitorDownscale} {wait : Option Duration}
    (computed : s.calculateMonitorDownscaleAction now desired planned = .ok (request, wait)) :
    (∀ req ∈ request, planned = false ∧ s.monitor.approved = some req.current ∧
      s.monitor.ongoingRequest = none ∧ req.target ≠ req.current ∧ req.target ≤ req.current ∧
      req.current.saturatingSub s.config.computeUnit ≤ req.target ∧
      desired.min req.current ≤ req.target) ∧ ∀ w ∈ wait, 0 < w := by
  simp only [calculateMonitorDownscaleAction] at computed
  cases approvedIs : s.monitor.approved with
  | none =>
    simp only [approvedIs, pure_eq_ok, Prod.mk.injEq] at computed
    simp [← computed.1, ← computed.2]
  | some approved =>
    simp only [approvedIs, bind_eq_ok] at computed
    obtain ⟨req₁, clamp₁, req₂, clamp₂, computed⟩ := computed
    have notAbove : req₂.hasFieldGreaterThan approved = false := by
      cases above : req₂.hasFieldGreaterThan approved
      · rfl
      · simp [above] at computed
    -- towards the desired resources, then by at most a compute unit
    have within : approved.saturatingSub s.config.computeUnit ≤ req₂ ∧
        desired.min approved ≤ req₂ := by
      obtain ⟨-, -, fields₁⟩ := clampResources_eq_ok clamp₁
      obtain ⟨lo₂, -, fields₂⟩ := clampResources_eq_ok clamp₂
      have lo₂' : ∀ f, ∀ l ∈ (some (approved.saturatingSub s.config.computeUnit)).map (·.get f),
          l ≤ approved.get f := by
        intro f l member
        simp only [Option.map_some, Option.mem_def, Option.some.injEq] at member
        exact member ▸ Resources.le_iff_get.mp (lo₂ _ rfl) f
      refine ⟨Resources.le_iff_get.mpr fun f => ?_, Resources.le_iff_get.mpr fun f => ?_⟩
      · rw [fields₂ f]
        exact le_clampField (lo₂' f) (by simp) rfl
      · have first : min (approved.get f) (desired.get f) ≤ req₁.get f := by
          rw [fields₁ f]
          exact (clampField_between (by simp) (by simp)).1
        have second : min (approved.get f) (req₁.get f) ≤ req₂.get f := by
          rw [fields₂ f]
          exact (clampField_between (lo₂' f) (by simp)).1
        rw [Resources.get_min]
        omega
    simp only [notAbove, Bool.false_eq_true, ↓reduceIte] at computed
    split at computed
    next => simp only [pure_eq_ok, Prod.mk.injEq] at computed; simp [← computed.1, ← computed.2]
    next moved =>
      split at computed
      next => simp only [pure_eq_ok, Prod.mk.injEq] at computed; simp [← computed.1, ← computed.2]
      next unplanned =>
        split at computed
        next => simp only [pure_eq_ok, Prod.mk.injEq] at computed; simp [← computed.1, ← computed.2]
        next idle =>
          cases backoff : failureBackoff s.monitor.downscaleFailureAt s.config.monitorRetryWait
              now with
          | some w =>
            simp only [backoff, pure_eq_ok, Prod.mk.injEq] at computed
            obtain ⟨rfl, rfl⟩ := computed
            refine ⟨by simp, fun w' member => ?_⟩
            rw [Option.mem_def, Option.some.injEq] at member
            exact member ▸ failureBackoff_pos backoff
          | none =>
            simp only [backoff] at computed
            -- past the check on a denied downscale, the request is made
            split at computed
            next => cases computed
            next =>
              simp only [pure_eq_ok, Prod.mk.injEq] at computed
              obtain ⟨rfl, rfl⟩ := computed
              refine ⟨fun req member => ?_, by simp⟩
              rw [Option.mem_def, Option.some.injEq] at member
              subst member
              exact ⟨by simpa using unplanned, rfl, by simpa using idle, moved,
                by simpa using notAbove, within.1, within.2⟩

/-! ### The waits -/

/-- Requested upscaling and denied downscaling affect the desired resources only while they are
in effect. -/
theorem desiredOutcome_affected {goalCU : GoalCUFn F} {s : State F} {rq dd ra da : Bool}
    {R : Resources} (ok : s.desiredOutcome goalCU rq dd = .ok (R, ra, da)) :
    (ra = true → rq = true) ∧ (da = true → dd = true) := by
  simp only [desiredOutcome, bind_eq_ok, Prod.exists] at ok
  obtain ⟨sg, -, ra₁, goal, rqOk, da₁, goal₂, ddOk, result, da₂, floorOk, u, -, returned⟩ := ok
  simp only [pure, Except.pure, Except.ok.injEq, Prod.mk.injEq] at returned
  obtain ⟨-, rfl, rfl⟩ := returned
  refine ⟨fun affected => ?_, fun affected => ?_⟩
  · cases rq with
    | true => rfl
    | false =>
      simp only [requestedUpscalingGoal, Bool.false_eq_true, ↓reduceIte, pure_eq_ok,
        Prod.mk.injEq] at rqOk
      simp [← rqOk.1] at affected
  · cases dd with
    | true => rfl
    | false =>
      -- out of effect, neither the goal nor the floor marks the result affected
      simp only [deniedDownscaleGoal, Bool.false_eq_true, ↓reduceIte, pure_eq_ok,
        Prod.mk.injEq] at ddOk
      simp only [deniedDownscaleFloor, Bool.false_eq_true, ↓reduceIte, pure_eq_ok,
        Prod.mk.injEq] at floorOk
      simp [← floorOk.2, ← ddOk.1] at affected

/-- The two waits of the desired resources are positive when they count. -/
theorem desired_wait_pos {goalCU : GoalCUFn F} {s s₁ : State F} {now : Int} {D : Resources}
    {dw : DesiredWait}
    (computed : s.desiredResourcesFromMetricsOrRequestedUpscaling goalCU now = .ok (D, dw, s₁)) :
    (dw.requestedUpscalingAffectedResult = true → 0 < dw.timeUntilRequestedUpscalingExpired) ∧
      (dw.deniedDownscaleAffectedResult = true → 0 < dw.timeUntilDeniedDownscaleExpired) := by
  simp only [desiredResourcesFromMetricsOrRequestedUpscaling, bind_eq_ok, Prod.exists] at computed
  obtain ⟨result, ra, da, outcome, returned⟩ := computed
  simp only [pure_eq_ok, Prod.mk.injEq] at returned
  obtain ⟨-, rfl, -⟩ := returned
  obtain ⟨requested, denied⟩ := desiredOutcome_affected outcome
  exact ⟨fun affected => of_decide_eq_true (requested affected),
    fun affected => of_decide_eq_true (denied affected)⟩

theorem pluginRequested_eq_ok {s : State F} {request : Option ActionPluginRequest}
    {requested : Option Resources} (ok : s.pluginRequested request = .ok requested) :
    requested = if s.plugin.ongoingRequest then s.plugin.lastRequest.map (·.resources)
      else request.map (·.target) := by
  unfold pluginRequested at ok
  cases ongoing : s.plugin.ongoingRequest with
  | true =>
    simp only [ongoing, ↓reduceIte] at ok ⊢
    obtain ⟨last, found, done⟩ := bind_eq_ok.mp ok
    rw [deref_eq_ok] at found
    rw [found, ← pure_eq_ok.mp done, Option.map_some]
  | false =>
    simp only [ongoing, Bool.false_eq_true, ↓reduceIte] at ok ⊢
    exact (pure_eq_ok.mp ok).symm

end State

/-- With each flag's wait positive when it counts, the wait of `calculateWaitTime` is positive. -/
theorem DesiredWait.calculate_pos {w : DesiredWait}
    (requested : w.requestedUpscalingAffectedResult = true →
      0 < w.timeUntilRequestedUpscalingExpired)
    (denied : w.deniedDownscaleAffectedResult = true → 0 < w.timeUntilDeniedDownscaleExpired)
    (ongoing : Option OngoingMonitorRequest) (actions : ActionSet) :
    ∀ v ∈ w.calculate ongoing actions, 0 < v := by
  intro v member
  have maxPos : (0 : Duration) < maxDuration := by decide
  -- the wait after the denied downscale, then after the requested upscale, stays positive
  have first : 0 < (if w.deniedDownscaleAffectedResult && actions.monitorDownscale.isNone &&
      ongoing.isNone then (true, min maxDuration w.timeUntilDeniedDownscaleExpired)
      else (false, maxDuration)).2 := by
    split
    next affected =>
      simp only [Bool.and_eq_true] at affected
      exact pos_min maxPos (denied affected.1.1)
    next => exact maxPos
  unfold DesiredWait.calculate at member
  split at member
  next waiting₁ wait₁ firstIs =>
    rw [firstIs] at first
    split at member
    next waiting₂ wait₂ secondIs =>
      have second : 0 < wait₂ := by
        split at secondIs
        next affected =>
          cases secondIs
          exact pos_min first (requested affected)
        next =>
          cases secondIs
          exact first
      split at member
      next =>
        cases member
        exact second
      next => cases member

theorem foldWait_pos {ws : List (Option Duration)} {acc : Duration} (start : 0 < acc)
    (pos : ∀ wait ∈ ws, ∀ v ∈ wait, 0 < v) :
    0 < ws.foldl (fun acc wait => match wait with
      | some w => min acc w
      | none => acc) acc := by
  induction ws generalizing acc with
  | nil => exact start
  | cons wait rest ih =>
    simp only [List.foldl_cons]
    refine ih ?_ fun wait' member => pos wait' (.tail _ member)
    cases waitIs : wait with
    | none => exact start
    | some v => exact pos_min start (pos _ List.mem_cons_self v (by simp [waitIs]))

/-- The least of positive waits is positive. -/
theorem leastWait_pos {ws : List (Option Duration)} (pos : ∀ wait ∈ ws, ∀ v ∈ wait, 0 < v) :
    0 < State.leastWait ws :=
  foldWait_pos (by decide) pos

@[simp] theorem withWait_neonVMRequest (actions : ActionSet) (w : Duration) :
    (actions.withWait w).neonVMRequest = actions.neonVMRequest := by
  unfold ActionSet.withWait
  split <;> rfl

@[simp] theorem withWait_monitorUpscale (actions : ActionSet) (w : Duration) :
    (actions.withWait w).monitorUpscale = actions.monitorUpscale := by
  unfold ActionSet.withWait
  split <;> rfl

@[simp] theorem withWait_monitorDownscale (actions : ActionSet) (w : Duration) :
    (actions.withWait w).monitorDownscale = actions.monitorDownscale := by
  unfold ActionSet.withWait
  split <;> rfl

/-! ### All the actions together -/

namespace State

/-- For every state in which `NextActions` does not panic, and every instant, with `D` the
desired resources it computes: (a) a NeonVM request goes, with none ongoing, from what the VM
uses to something else, each field up at most to `D` and to the plugin's permit, each field down
at least to `D` and to what the vm-monitor approved, and none above the ongoing or planned
plugin request; (b) a plugin request is made with none ongoing, from the last permit, for no
less than the VM uses; (c) the vm-monitor is sent at most one request, only while it is active
and has none ongoing; (d) an upscale goes up from what it approved, at most to what the VM uses;
(e) a downscale goes down from what it approved, by at most a compute unit and not below `D`;
(f) the wait is positive. -/
theorem nextActions_requests_within_bounds {goalCU : GoalCUFn F} {s s' : State F} {now : Int}
    {A : ActionSet} (computed : s.nextActions goalCU now = .ok (A, s')) :
    ∃ D dw s₁, s.desiredResourcesFromMetricsOrRequestedUpscaling goalCU now = .ok (D, dw, s₁) ∧
      (∀ r ∈ A.neonVMRequest, s.neonvm.ongoingRequest = false ∧ r.current = s.vm.using ∧
        r.target ≠ r.current ∧
        (∀ f, s.vm.using.get f < r.target.get f →
          r.target.get f ≤ min (D.get f) (s.pluginApprovedUpperBound.get f)) ∧
        (∀ f, r.target.get f < s.vm.using.get f →
          max (D.get f) (s.monitorApprovedLowerBound.get f) ≤ r.target.get f) ∧
        (∀ p ∈ A.pluginRequest, r.target ≤ p.target) ∧
        (s.plugin.ongoingRequest = true →
          ∀ last ∈ s.plugin.lastRequest, r.target ≤ last.resources)) ∧
      (∀ p ∈ A.pluginRequest, s.plugin.ongoingRequest = false ∧ p.lastPermit = s.plugin.permit ∧
        s.vm.using ≤ p.target) ∧
      (A.monitorUpscale = none ∨ A.monitorDownscale = none) ∧
      ((A.monitorUpscale.isSome ∨ A.monitorDownscale.isSome) →
        s.monitor.active ∧ s.monitor.ongoingRequest = none) ∧
      (∀ u ∈ A.monitorUpscale, s.monitor.approved = some u.current ∧ u.target ≠ u.current ∧
        u.current ≤ u.target ∧ u.target ≤ u.current.max s.vm.using) ∧
      (∀ d ∈ A.monitorDownscale, s.monitor.approved = some d.current ∧ d.target ≠ d.current ∧
        d.target ≤ d.current ∧ d.current.saturatingSub s.config.computeUnit ≤ d.target ∧
        D.min d.current ≤ d.target) ∧
      ∀ w ∈ A.wait, 0 < w.duration := by
  obtain ⟨D, dw, s₁, pluginRequest, pluginWait, requested, neonVMRequest, neonvmWait, up, upWait,
    down, downWait, desiredOk, pluginOk, requestedOk, neonOk, upOk, downOk, rfl⟩ :=
    nextActions_eq_ok.mp computed
  -- the stages after the desired resources run on states that decide as `s` does
  have same₁ := desired_same desiredOk
  have same₂ := same₁.trans (calculateNeonVMAction_same neonOk)
  obtain ⟨pluginBounds, pluginPos⟩ := calculatePluginAction_bounds pluginOk
  obtain ⟨neonBounds, neonPos⟩ := calculateNeonVMAction_bounds neonOk
  obtain ⟨upBounds, upPos⟩ := calculateMonitorUpscaleAction_bounds upOk
  obtain ⟨downBounds, downPos⟩ := calculateMonitorDownscaleAction_bounds downOk
  have requestedIs := pluginRequested_eq_ok requestedOk
  refine ⟨D, dw, s₁, desiredOk, fun r member => ?neonvm, fun p member => ?plugin, ?exclusive,
    ?active, fun u member => ?upscale, fun d member => ?downscale, fun w member => ?wait⟩
  case neonvm =>
    rw [withWait_neonVMRequest] at member
    obtain ⟨idle, current, moved, up, down, below⟩ := neonBounds r member
    simp only [NeonvmState.ongoingRequest, same₁.ongoingRequested] at idle
    rw [same₁.vm] at current up down
    rw [same₁.pluginApprovedUpperBound] at up
    rw [same₁.monitorApprovedLowerBound] at down
    refine ⟨by simpa [NeonvmState.ongoingRequest] using idle, current, moved, up, down,
      fun p planned => ?_, fun ongoing last found => ?_⟩
    · -- a planned plugin request means none is ongoing: it is the one asked for
      simp only [withWait_pluginRequest] at planned
      have idlePlugin := (pluginBounds p planned).1
      rw [same₁.plugin] at idlePlugin
      refine below p.target ?_
      rw [requestedIs, same₁.plugin, idlePlugin, Option.mem_def.mp planned]
      rfl
    · refine below last.resources ?_
      rw [requestedIs, same₁.plugin, ongoing, Option.mem_def.mp found]
      rfl
  case plugin =>
    rw [withWait_pluginRequest] at member
    obtain ⟨idle, permit, above⟩ := pluginBounds p member
    rw [same₁.plugin] at idle permit
    rw [same₁.vm] at above
    exact ⟨idle, permit, above⟩
  case exclusive =>
    rw [withWait_monitorUpscale, withWait_monitorDownscale]
    cases downIs : down with
    | none => exact .inr rfl
    | some d =>
      have unplanned := (downBounds d downIs).1
      exact .inl (Option.not_isSome_iff_eq_none.mp (by simpa using unplanned))
  case active =>
    rw [withWait_monitorUpscale, withWait_monitorDownscale]
    rintro (planned | planned)
    · obtain ⟨u, upIs⟩ := Option.isSome_iff_exists.mp planned
      obtain ⟨approved, idle, -⟩ := upBounds u upIs
      rw [same₂.monitor] at approved idle
      exact ⟨by simp [MonitorState.active, approved], idle⟩
    · obtain ⟨d, downIs⟩ := Option.isSome_iff_exists.mp planned
      obtain ⟨-, approved, idle, -⟩ := downBounds d downIs
      rw [same₂.monitor] at approved idle
      exact ⟨by simp [MonitorState.active, approved], idle⟩
  case upscale =>
    rw [withWait_monitorUpscale] at member
    obtain ⟨approved, -, moved, above, below⟩ := upBounds u member
    rw [same₂.monitor] at approved
    rw [same₂.vm] at below
    exact ⟨approved, moved, above, below⟩
  case downscale =>
    rw [withWait_monitorDownscale] at member
    obtain ⟨-, approved, -, moved, below, step, floor⟩ := downBounds d member
    rw [same₂.monitor] at approved
    rw [same₂.config] at step
    exact ⟨approved, moved, below, step, floor⟩
  case wait =>
    -- the wait is the least of the five, each positive
    obtain ⟨duration, -⟩ := wait_of_withWait (Option.mem_def.mp member) rfl
    rw [duration]
    obtain ⟨requestedPos, deniedPos⟩ := desired_wait_pos desiredOk
    apply leastWait_pos
    simp only [List.mem_cons, List.not_mem_nil, or_false]
    rintro wait (rfl | rfl | rfl | rfl | rfl)
    · exact DesiredWait.calculate_pos requestedPos deniedPos _ _
    · exact pluginPos
    · exact neonPos
    · exact upPos
    · exact downPos

end State

end Autoscaling.Agent.Core

namespace Autoscaling.Agent.Executor

open Go Vmv1 Api Autoscaling.Agent.Core

/-- A VM at four compute units, all of them permitted by the plugin and approved by the
vm-monitor, under a load of two. -/
def approvedState : State Nat :=
  { newState (exampleVM 4) exampleConfig (Revsource.newRevisionSource 0 true) with
    plugin := { ongoingRequest := false, lastRequest := some ⟨0, computeUnits 4⟩,
                lastFailureAt := none, permit := some (computeUnits 4),
                currentRevision := zeroRevision },
    monitor := { MonitorState.initial with approved := some (computeUnits 4) },
    metrics := some (loadMetrics 2),
    lastDesiredResources := some (computeUnits 4) }

/-- From `approvedState` the vm-monitor is asked to downscale by one compute unit, towards the
two the load asks for. -/
theorem nextActions_requests_within_bounds_approved :
    ∃ A s', approvedState.nextActions loadGoal 1000000000 = .ok (A, s') ∧
      A.monitorDownscale.isSome ∧
      ∀ d ∈ A.monitorDownscale, d.current.saturatingSub exampleConfig.computeUnit ≤ d.target ∧
        d.target ≤ d.current ∧ (computeUnits 2).min d.current ≤ d.target := by
  have computed : approvedState.nextActions loadGoal 1000000000 =
      .ok (⟨some ⟨4000000000⟩, none, none,
          some ⟨computeUnits 4, computeUnits 3, ⟨⟨1, 2⟩, 1000000000⟩⟩, none⟩,
        { approvedState with
          lastDesiredResources := some (computeUnits 2), targetRevision := ⟨1, 2⟩,
          revisionSource := { approvedState.revisionSource with measurements := [1000000000] } }) := by
    decide
  obtain ⟨D, dw, s₁, desired, -, -, -, -, -, downscale, -⟩ :=
    State.nextActions_requests_within_bounds computed
  -- the desired resources are the two compute units of the load
  have desiredIs : D = computeUnits 2 := by
    have first : (approvedState.desiredResourcesFromMetricsOrRequestedUpscaling loadGoal
        1000000000).map Prod.fst = .ok (computeUnits 2) := by
      decide
    rw [desired] at first
    exact Except.ok.inj first
  refine ⟨_, _, computed, rfl, fun d member => ?_⟩
  obtain ⟨-, -, below, step, floor⟩ := downscale d member
  exact ⟨step, below, desiredIs ▸ floor⟩

end Autoscaling.Agent.Executor
