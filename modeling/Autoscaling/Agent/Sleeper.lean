import Autoscaling.Agent.Executor

/-!
# The waits of `NextActions` (`pkg/agent/executor/exec_sleeper.go`)

The executor's sleeper sleeps for the `Wait` of the last `ActionSet` and then recomputes the
actions. That is only sound if no request can become due before the wait is over: every deadline
that can change the outcome of `NextActions` must be folded into its wait.

Time enters `nextActions` in a few places. The desired resources depend on whether requested
upscaling and denied downscaling are still in effect; the plugin request on the request tick and
on the backoffs after a denied and after a failed request; NeonVM and the two vm-monitor requests
on their failure backoffs. Each of these deadlines either goes into the wait, or cannot change
the outcome before it passes (an expiry that did not affect the desired resources).

`nextActions` also records revisions in the state it returns. `State.SameDecisions` relates two
states that agree on everything it decides from, and `nextActions` keeps a state's decisions.
The proof that nothing becomes due goes stage by stage: each stage that asked for nothing at `t`
asks for nothing at any `t'` before the least wait runs out, on any state with the same
decisions (the `_later` lemmas).
-/

namespace Autoscaling.Agent.Core

open Go Vmv1 Api

variable {F : Type}

/-! ### What `nextActions` decides from -/

/-- Two states that agree on everything `nextActions` decides from: they may differ in the
revisions and in the last desired resources. -/
structure State.SameDecisions (s₁ s₂ : State F) : Prop where
  config : s₂.config = s₁.config
  vm : s₂.vm = s₁.vm
  plugin : s₂.plugin = s₁.plugin
  monitor : s₂.monitor = s₁.monitor
  ongoingRequested : s₂.neonvm.ongoingRequested = s₁.neonvm.ongoingRequested
  requestFailedAt : s₂.neonvm.requestFailedAt = s₁.neonvm.requestFailedAt
  metrics : s₂.metrics = s₁.metrics
  lfcMetrics : s₂.lfcMetrics = s₁.lfcMetrics

namespace State.SameDecisions

theorem refl (s : State F) : s.SameDecisions s :=
  ⟨rfl, rfl, rfl, rfl, rfl, rfl, rfl, rfl⟩

theorem trans {s₁ s₂ s₃ : State F} (first : s₁.SameDecisions s₂) (second : s₂.SameDecisions s₃) :
    s₁.SameDecisions s₃ :=
  ⟨second.config.trans first.config, second.vm.trans first.vm,
    second.plugin.trans first.plugin, second.monitor.trans first.monitor,
    second.ongoingRequested.trans first.ongoingRequested,
    second.requestFailedAt.trans first.requestFailedAt, second.metrics.trans first.metrics,
    second.lfcMetrics.trans first.lfcMetrics⟩

variable {s₁ s₂ : State F}

theorem timeUntilRequestedUpscalingExpired (same : s₁.SameDecisions s₂) (now : Int) :
    s₂.timeUntilRequestedUpscalingExpired now = s₁.timeUntilRequestedUpscalingExpired now := by
  simp only [State.timeUntilRequestedUpscalingExpired, same.monitor, same.config]

theorem timeUntilDeniedDownscaleExpired (same : s₁.SameDecisions s₂) (now : Int) :
    s₂.timeUntilDeniedDownscaleExpired now = s₁.timeUntilDeniedDownscaleExpired now := by
  simp only [State.timeUntilDeniedDownscaleExpired, same.monitor, same.config]

theorem timeUntilNextRequestTick (same : s₁.SameDecisions s₂) (now : Int) :
    s₂.timeUntilNextRequestTick now = s₁.timeUntilNextRequestTick now := by
  simp only [State.timeUntilNextRequestTick, same.plugin, same.config]

theorem timeUntilRetryBackoffExpires (same : s₁.SameDecisions s₂) (now : Int) :
    s₂.timeUntilRetryBackoffExpires now = s₁.timeUntilRetryBackoffExpires now := by
  simp only [State.timeUntilRetryBackoffExpires, same.plugin, same.config]

theorem monitorApprovedLowerBound (same : s₁.SameDecisions s₂) :
    s₂.monitorApprovedLowerBound = s₁.monitorApprovedLowerBound := by
  simp only [State.monitorApprovedLowerBound, same.monitor, same.vm]

theorem pluginApprovedUpperBound (same : s₁.SameDecisions s₂) :
    s₂.pluginApprovedUpperBound = s₁.pluginApprovedUpperBound := by
  simp only [State.pluginApprovedUpperBound, same.plugin, same.vm]

theorem desiredOutcome (same : s₁.SameDecisions s₂) (goalCU : GoalCUFn F) (rq dd : Bool) :
    s₂.desiredOutcome goalCU rq dd = s₁.desiredOutcome goalCU rq dd := by
  simp only [State.desiredOutcome, State.scalingConfig, State.requestedUpscalingGoal,
    State.deniedDownscaleGoal, State.boundedGoal, State.deniedDownscaleFloor, State.checkDesired,
    same.config, same.vm, same.monitor, same.metrics, same.lfcMetrics]

end State.SameDecisions

namespace State

theorem updateTargetRevision_same (s : State F) (now : Int) (desired current : Resources) :
    s.SameDecisions (s.updateTargetRevision now desired current) := by
  simp only [updateTargetRevision]
  split <;> exact ⟨rfl, rfl, rfl, rfl, rfl, rfl, rfl, rfl⟩

theorem desired_same {goalCU : GoalCUFn F} {s s₁ : State F} {now : Int} {desired : Resources}
    {wait : DesiredWait}
    (computed : s.desiredResourcesFromMetricsOrRequestedUpscaling goalCU now =
      .ok (desired, wait, s₁)) : s.SameDecisions s₁ := by
  simp only [desiredResourcesFromMetricsOrRequestedUpscaling, bind_eq_ok] at computed
  obtain ⟨⟨result, requested, denied⟩, -, returned⟩ := computed
  cases returned
  exact (updateTargetRevision_same s now result s.vm.using).trans
    ⟨rfl, rfl, rfl, rfl, rfl, rfl, rfl, rfl⟩

theorem calculateNeonVMAction_same {s s' : State F} {now : Int} {desired : Resources}
    {requested : Option Resources} {request : Option ActionNeonVMRequest} {wait : Option Duration}
    (computed : s.calculateNeonVMAction now desired requested = .ok (request, wait, s')) :
    s.SameDecisions s' := by
  simp only [calculateNeonVMAction, bind_eq_ok] at computed
  obtain ⟨clamped, -, computed⟩ := computed
  split at computed
  next =>
    simp only [pure_eq_ok, Prod.mk.injEq] at computed
    obtain ⟨-, -, rfl⟩ := computed
    exact .refl s
  next =>
    split at computed
    next =>
      split at computed
      next =>
        simp only [pure_eq_ok, Prod.mk.injEq] at computed
        obtain ⟨-, -, rfl⟩ := computed
        exact .refl s
      next =>
        simp only [pure_eq_ok, Prod.mk.injEq] at computed
        obtain ⟨-, -, rfl⟩ := computed
        exact ⟨rfl, rfl, rfl, rfl, rfl, rfl, rfl, rfl⟩
    next =>
      simp only [pure_eq_ok, Prod.mk.injEq] at computed
      obtain ⟨-, -, rfl⟩ := computed
      exact .refl s

theorem pluginRequested_of_idle {s : State F} (idle : s.plugin.ongoingRequest = false)
    (request : Option ActionPluginRequest) :
    s.pluginRequested request = .ok (request.map (·.target)) := by
  simp [pluginRequested, idle]

/-- `nextActions` in terms of its stages. -/
theorem nextActions_eq_ok {goalCU : GoalCUFn F} {s s' : State F} {now : Int} {A : ActionSet} :
    s.nextActions goalCU now = .ok (A, s') ↔
    ∃ desired desiredWait s₁ pluginRequest pluginWait pluginRequested neonVMRequest neonvmWait
      monitorUpscale upWait monitorDownscale downWait,
      s.desiredResourcesFromMetricsOrRequestedUpscaling goalCU now =
        .ok (desired, desiredWait, s₁) ∧
      s₁.calculatePluginAction now desired = .ok (pluginRequest, pluginWait) ∧
      s₁.pluginRequested pluginRequest = .ok pluginRequested ∧
      s₁.calculateNeonVMAction now desired pluginRequested = .ok (neonVMRequest, neonvmWait, s') ∧
      s'.calculateMonitorUpscaleAction now desired = .ok (monitorUpscale, upWait) ∧
      s'.calculateMonitorDownscaleAction now desired monitorUpscale.isSome =
        .ok (monitorDownscale, downWait) ∧
      A = ActionSet.withWait ⟨none, pluginRequest, neonVMRequest, monitorDownscale, monitorUpscale⟩
        (leastWait [desiredWait.calculate s'.monitor.ongoingRequest
          ⟨none, pluginRequest, neonVMRequest, monitorDownscale, monitorUpscale⟩,
          pluginWait, neonvmWait, upWait, downWait]) := by
  simp only [nextActions, bind_eq_ok, Prod.exists]
  constructor
  · rintro ⟨desired, desiredWait, s₁, desiredOk, pluginRequest, pluginWait, pluginOk,
      pluginRequested, requestedOk, neonVMRequest, neonvmWait, s₂, neonOk, monitorUpscale,
      upWait, upOk, monitorDownscale, downWait, downOk, returned⟩
    simp only [pure_eq_ok, Prod.mk.injEq] at returned
    obtain ⟨rfl, rfl⟩ := returned
    exact ⟨desired, desiredWait, s₁, pluginRequest, pluginWait, pluginRequested, neonVMRequest,
      neonvmWait, monitorUpscale, upWait, monitorDownscale, downWait, desiredOk, pluginOk,
      requestedOk, neonOk, upOk, downOk, rfl⟩
  · rintro ⟨desired, desiredWait, s₁, pluginRequest, pluginWait, pluginRequested, neonVMRequest,
      neonvmWait, monitorUpscale, upWait, monitorDownscale, downWait, desiredOk, pluginOk,
      requestedOk, neonOk, upOk, downOk, rfl⟩
    exact ⟨desired, desiredWait, s₁, desiredOk, pluginRequest, pluginWait, pluginOk,
      pluginRequested, requestedOk, neonVMRequest, neonvmWait, s', neonOk, monitorUpscale, upWait,
      upOk, monitorDownscale, downWait, downOk, rfl⟩

end State

/-! ### Deadlines -/

theorem timeUntilExpired_pos_of_later {since : Option Int} {period : Duration} {t t' : Int}
    (pending : 0 < timeUntilExpired since period t)
    (within : t' < t + (timeUntilExpired since period t).toInt) :
    0 < timeUntilExpired since period t' := by
  cases since with
  | none => simp [timeUntilExpired] at pending
  | some happened => exact Time.sub_pos_of_later pending within

theorem timeUntilExpired_nonpos_of_later {since : Option Int} {period : Duration} {t t' : Int}
    (passed : timeUntilExpired since period t ≤ 0) (later : t ≤ t') :
    timeUntilExpired since period t' ≤ 0 := by
  cases since with
  | none => exact passed
  | some happened => exact Time.sub_nonpos_of_later passed later

theorem failureBackoff_eq_some {failedAt : Option Int} {retryWait : Duration} {now : Int}
    {wait : Duration} :
    failureBackoff failedAt retryWait now = some wait ↔
      ∃ failed, failedAt = some failed ∧ wait = Time.sub (Time.add failed retryWait) now ∧
        0 < wait := by
  cases failedAt with
  | none => simp [failureBackoff]
  | some failed =>
    simp only [failureBackoff]
    split
    next pending =>
      simp only [Option.some.injEq, exists_eq_left']
      constructor
      · rintro rfl
        exact ⟨rfl, pending⟩
      · rintro ⟨rfl, -⟩
        rfl
    next passed =>
      simp only [reduceCtorEq, false_iff, not_exists, not_and]
      rintro _ ⟨⟩ rfl
      exact passed

/-- A backoff in force at `t` is still in force before `t` plus the wait it asked for. -/
theorem failureBackoff_later {failedAt : Option Int} {retryWait : Duration} {t t' : Int}
    {wait : Duration} (waiting : failureBackoff failedAt retryWait t = some wait)
    (within : t' < t + wait.toInt) : ∃ wait', failureBackoff failedAt retryWait t' = some wait' := by
  obtain ⟨failed, rfl, rfl, pending⟩ := failureBackoff_eq_some.mp waiting
  exact ⟨_, failureBackoff_eq_some.mpr ⟨failed, rfl, rfl, Time.sub_pos_of_later pending within⟩⟩

/-- A backoff that has passed stays passed. -/
theorem failureBackoff_none_later {failedAt : Option Int} {retryWait : Duration} {t t' : Int}
    (passed : failureBackoff failedAt retryWait t = none) (later : t ≤ t') :
    failureBackoff failedAt retryWait t' = none := by
  cases failedAt with
  | none => rfl
  | some failed =>
    simp only [failureBackoff, ite_eq_right_iff, reduceCtorEq, imp_false, Int64.not_lt] at passed ⊢
    exact Time.sub_nonpos_of_later passed later

/-- Counted from no earlier than the failure, a backoff is at most the retry wait. -/
theorem failureBackoff_le {failedAt : Option Int} {retryWait : Duration} {now : Int}
    {wait : Duration} (after : ∀ failed, failedAt = some failed → failed ≤ now)
    (waiting : failureBackoff failedAt retryWait now = some wait) :
    wait.toInt ≤ retryWait.toInt := by
  obtain ⟨failed, rfl, rfl, pending⟩ := failureBackoff_eq_some.mp waiting
  have early := after failed rfl
  rw [Int64.lt_iff_toInt_lt, Int64.toInt_zero] at pending
  rw [Time.toInt_sub] at pending ⊢
  simp only [Time.add] at pending ⊢
  omega

/-- Whether something is in effect at a later `t'`: as it was at `t`, or no longer, in which case
it must not have affected anything while it was. -/
theorem inEffect_later {since : Option Int} {period : Duration} {t t' : Int} {affected : Bool}
    (later : t ≤ t')
    (within : affected = true → t' < t + (timeUntilExpired since period t).toInt) :
    decide (timeUntilExpired since period t' > 0) = decide (timeUntilExpired since period t > 0) ∨
      affected = false ∧ decide (timeUntilExpired since period t' > 0) = false := by
  by_cases pending : timeUntilExpired since period t > 0
  · by_cases still : timeUntilExpired since period t' > 0
    · exact .inl (by simp [pending, still])
    · -- it lapsed, so it cannot have been counted in the wait
      cases affected with
      | true => exact absurd (timeUntilExpired_pos_of_later pending (within rfl)) still
      | false => exact .inr ⟨rfl, by simp [still]⟩
  · have passed := timeUntilExpired_nonpos_of_later (Int64.not_lt.mp pending) later
    exact .inl (by simp [pending, Int64.not_lt.mpr passed])

namespace State

theorem timeUntilNextRequestTick_pos_of_later {s : State F} {t t' : Int} (later : t ≤ t')
    (pending : 0 < s.timeUntilNextRequestTick t)
    (within : t' < t + (s.timeUntilNextRequestTick t).toInt) :
    0 < s.timeUntilNextRequestTick t' := by
  unfold timeUntilNextRequestTick at pending within ⊢
  split at pending
  next last lastIs =>
    simp only [lastIs] at within ⊢
    have grow : (Time.sub t last.at).toInt ≤ (Time.sub t' last.at).toInt := by
      rw [Time.toInt_sub, Time.toInt_sub]
      omega
    have slow : (Time.sub t' last.at).toInt - (Time.sub t last.at).toInt ≤ t' - t := by
      rw [Time.toInt_sub, Time.toInt_sub]
      omega
    rw [Int64.lt_iff_toInt_lt, Int64.toInt_zero] at pending ⊢
    rw [toInt_sub_countdown grow (by omega)]
    omega
  next => exact absurd pending Int64.lt_irrefl

theorem timeUntilRetryBackoffExpires_pos_of_later {s : State F} {t t' : Int}
    (pending : 0 < s.timeUntilRetryBackoffExpires t)
    (within : t' < t + (s.timeUntilRetryBackoffExpires t).toInt) :
    0 < s.timeUntilRetryBackoffExpires t' := by
  unfold timeUntilRetryBackoffExpires at pending within ⊢
  split at pending
  next last permit lastIs permitIs =>
    simp only [lastIs, permitIs] at within ⊢
    split at pending
    next backingOff =>
      simp only [backingOff, ↓reduceIte] at within ⊢
      exact Time.sub_pos_of_later pending within
    next => exact absurd pending Int64.lt_irrefl
  next => exact absurd pending Int64.lt_irrefl

theorem timeUntilNextRequestTick_le {s : State F} {now : Int}
    (tickNonneg : 0 ≤ s.config.pluginRequestTick)
    (after : ∀ last, s.plugin.lastRequest = some last → last.at ≤ now) :
    (s.timeUntilNextRequestTick now).toInt ≤ s.config.pluginRequestTick.toInt := by
  rw [Int64.le_iff_toInt_le, Int64.toInt_zero] at tickNonneg
  unfold timeUntilNextRequestTick
  split
  next last lastIs =>
    -- the time since the last request is between zero and `maximumDuration`: no wrap-around
    have early := after last lastIs
    have elapsed := Time.toInt_sub now last.at
    have := s.config.pluginRequestTick.toInt_lt
    rw [toInt_sub_of_range (by omega) (by omega)]
    omega
  next => simpa using tickNonneg

end State

/-! ### The least wait -/

theorem foldWait_le_init (ws : List (Option Duration)) (acc : Duration) :
    (ws.foldl (fun acc wait => match wait with
      | some w => min acc w
      | none => acc) acc).toInt ≤ acc.toInt := by
  induction ws generalizing acc with
  | nil => exact le_rfl
  | cons wait rest ih =>
    cases wait with
    | none => exact ih acc
    | some w =>
      have := ih (min acc w)
      rw [toInt_min] at this
      simp only [List.foldl_cons]
      omega

theorem foldWait_le {ws : List (Option Duration)} {w : Duration} (member : some w ∈ ws)
    (acc : Duration) :
    (ws.foldl (fun acc wait => match wait with
      | some w => min acc w
      | none => acc) acc).toInt ≤ w.toInt := by
  induction ws generalizing acc with
  | nil => cases member
  | cons wait rest ih =>
    rcases List.mem_cons.mp member with rfl | later
    · have := foldWait_le_init rest (min acc w)
      rw [toInt_min] at this
      simp only [List.foldl_cons]
      exact this.trans (min_le_right _ _)
    · simp only [List.foldl_cons]
      exact ih later _

/-- The least wait is at most every wait that is set. -/
theorem leastWait_le {ws : List (Option Duration)} {w : Duration} (member : some w ∈ ws) :
    (State.leastWait ws).toInt ≤ w.toInt :=
  foldWait_le member maxDuration

/-- A wait below `maximumDuration` makes `withWait` set the wait, to the least one. -/
theorem withWait_of_lt {actions : ActionSet} {ws : List (Option Duration)} {w : Duration}
    (member : some w ∈ ws) (below : w.toInt < maxDuration.toInt) :
    (actions.withWait (State.leastWait ws)).wait = some ⟨State.leastWait ws⟩ := by
  have least := leastWait_le member
  have differs : State.leastWait ws ≠ maxDuration := by
    intro same
    rw [same] at least
    omega
  simp [ActionSet.withWait, differs]

@[simp] theorem withWait_pluginRequest (actions : ActionSet) (w : Duration) :
    (actions.withWait w).pluginRequest = actions.pluginRequest := by
  unfold ActionSet.withWait
  split <;> rfl

@[simp] theorem withWait_hasRequest (actions : ActionSet) (w : Duration) :
    (actions.withWait w).hasRequest = actions.hasRequest := by
  unfold ActionSet.withWait
  split <;> rfl

theorem wait_of_withWait {actions : ActionSet} {w : Duration} {wait : ActionWait}
    (set : (actions.withWait w).wait = some wait) (unset : actions.wait = none) :
    wait.duration = w ∧ w ≠ maxDuration := by
  unfold ActionSet.withWait at set
  split at set
  next differs =>
    cases set
    exact ⟨rfl, by simpa using differs⟩
  next => simp [unset] at set

theorem DesiredWait.calculate_of_requested {w : DesiredWait}
    (affected : w.requestedUpscalingAffectedResult = true) (ongoing : Option OngoingMonitorRequest)
    (actions : ActionSet) :
    ∃ v, w.calculate ongoing actions = some v ∧
      v.toInt ≤ w.timeUntilRequestedUpscalingExpired.toInt := by
  simp only [DesiredWait.calculate, affected, ↓reduceIte]
  split
  · exact ⟨_, rfl, by rw [toInt_min]; exact min_le_right _ _⟩
  · exact ⟨_, rfl, by rw [toInt_min]; exact min_le_right _ _⟩

theorem DesiredWait.calculate_of_denied {w : DesiredWait}
    (affected : w.deniedDownscaleAffectedResult = true) {actions : ActionSet}
    (noDownscale : actions.monitorDownscale = none) :
    ∃ v, w.calculate none actions = some v ∧
      v.toInt ≤ w.timeUntilDeniedDownscaleExpired.toInt := by
  simp only [DesiredWait.calculate, affected, noDownscale, Option.isNone_none, Bool.and_self,
    ↓reduceIte]
  split
  · refine ⟨_, rfl, ?_⟩
    rw [toInt_min, toInt_min]
    omega
  · refine ⟨_, rfl, ?_⟩
    rw [toInt_min]
    omega

/-! ### The desired resources while their deadlines have not passed -/

namespace State

theorem requestedUpscalingGoal_unused {s : State F} {initialGoalCU goalCU : UInt32}
    (unused : s.requestedUpscalingGoal initialGoalCU true = .ok (false, goalCU)) :
    goalCU = initialGoalCU := by
  simp only [requestedUpscalingGoal, ↓reduceIte, bind_eq_ok] at unused
  obtain ⟨requested, -, reqCU, -, raised⟩ := unused
  simp only [raiseGoal, pure, Except.pure, Except.ok.injEq] at raised
  split at raised
  · simp at raised
  · exact (Prod.mk.inj raised).2.symm

theorem deniedDownscaleGoal_unused {s : State F} {initialGoalCU goalCU goalCU' : UInt32}
    (unused : s.deniedDownscaleGoal initialGoalCU goalCU true = .ok (false, goalCU')) :
    goalCU' = goalCU := by
  simp only [deniedDownscaleGoal, ↓reduceIte, bind_eq_ok] at unused
  obtain ⟨denied, -, reqCU, -, raised⟩ := unused
  simp only [raiseGoal, pure, Except.pure, Except.ok.injEq] at raised
  split at raised
  · simp at raised
  · exact (Prod.mk.inj raised).2.symm

theorem deniedDownscaleFloor_unused {s : State F} {result result' : Resources} {affected : Bool}
    (unused : s.deniedDownscaleFloor result affected true = .ok (result', false)) :
    affected = false ∧ result' = result := by
  simp only [deniedDownscaleFloor, ↓reduceIte, bind_eq_ok] at unused
  obtain ⟨denied, -, required, -, returned⟩ := unused
  simp only [pure, Except.pure, Except.ok.injEq, Prod.mk.injEq, Bool.or_eq_false_iff,
    bne_eq_false_iff_eq] at returned
  obtain ⟨raised, unaffected, unchanged⟩ := returned
  exact ⟨unaffected, raised.symm.trans unchanged⟩

variable {goalCU : GoalCUFn F} {s : State F} {R : Resources}

/-- Requested upscaling that is in effect but did not raise the goal can lapse without changing
the desired resources. -/
theorem desiredOutcome_requested_unused {dd da : Bool}
    (ok : s.desiredOutcome goalCU true dd = .ok (R, false, da)) :
    s.desiredOutcome goalCU false dd = .ok (R, false, da) := by
  simp only [desiredOutcome, bind_eq_ok, Prod.exists] at ok ⊢
  obtain ⟨sg, sgOk, ra, goal, rqOk, da₁, goal₂, ddOk, result, da₂, floorOk, u, checkOk,
    returned⟩ := ok
  simp only [pure, Except.pure, Except.ok.injEq, Prod.mk.injEq] at returned
  obtain ⟨rfl, rfl, rfl⟩ := returned
  obtain rfl := requestedUpscalingGoal_unused rqOk
  exact ⟨sg, sgOk, false, sg.goalCU, rfl, da₁, goal₂, ddOk, result, da₂, floorOk, u, checkOk, rfl⟩

/-- Denied downscaling that is in effect but did not change the result can lapse without
changing the desired resources. -/
theorem desiredOutcome_denied_unused {rq ra : Bool}
    (ok : s.desiredOutcome goalCU rq true = .ok (R, ra, false)) :
    s.desiredOutcome goalCU rq false = .ok (R, ra, false) := by
  simp only [desiredOutcome, bind_eq_ok, Prod.exists] at ok ⊢
  obtain ⟨sg, sgOk, ra₁, goal, rqOk, da₁, goal₂, ddOk, result, da₂, floorOk, u, checkOk,
    returned⟩ := ok
  simp only [pure, Except.pure, Except.ok.injEq, Prod.mk.injEq] at returned
  obtain ⟨rfl, rfl, rfl⟩ := returned
  obtain ⟨rfl, rfl⟩ := deniedDownscaleFloor_unused floorOk
  obtain rfl := deniedDownscaleGoal_unused ddOk
  exact ⟨sg, sgOk, ra₁, goal₂, rqOk, false, goal₂, rfl, _, false, rfl, u, checkOk, rfl⟩

theorem desiredOutcome_requested_later {rq rq' dd ra da : Bool}
    (ok : s.desiredOutcome goalCU rq dd = .ok (R, ra, da))
    (flag : rq' = rq ∨ ra = false ∧ rq' = false) :
    s.desiredOutcome goalCU rq' dd = .ok (R, ra, da) := by
  rcases flag with rfl | ⟨rfl, rfl⟩
  · exact ok
  · cases rq with
    | false => exact ok
    | true => exact desiredOutcome_requested_unused ok

theorem desiredOutcome_denied_later {rq dd dd' ra da : Bool}
    (ok : s.desiredOutcome goalCU rq dd = .ok (R, ra, da))
    (flag : dd' = dd ∨ da = false ∧ dd' = false) :
    s.desiredOutcome goalCU rq dd' = .ok (R, ra, da) := by
  rcases flag with rfl | ⟨rfl, rfl⟩
  · exact ok
  · cases dd with
    | false => exact ok
    | true => exact desiredOutcome_denied_unused ok

/-- The desired resources stay the same until a deadline that affected them passes. -/
theorem desired_later {s₁ s₂ : State F} {t t' : Int} {dw : DesiredWait}
    (computed : s.desiredResourcesFromMetricsOrRequestedUpscaling goalCU t = .ok (R, dw, s₁))
    (same : s.SameDecisions s₂) (later : t ≤ t')
    (requestedWithin : dw.requestedUpscalingAffectedResult = true →
      t' < t + dw.timeUntilRequestedUpscalingExpired.toInt)
    (deniedWithin : dw.deniedDownscaleAffectedResult = true →
      t' < t + dw.timeUntilDeniedDownscaleExpired.toInt) :
    ∃ dw' s₃, s₂.desiredResourcesFromMetricsOrRequestedUpscaling goalCU t' = .ok (R, dw', s₃) := by
  simp only [desiredResourcesFromMetricsOrRequestedUpscaling, bind_eq_ok, Prod.exists]
    at computed ⊢
  obtain ⟨result, ra, da, outcome, returned⟩ := computed
  simp only [pure_eq_ok, Prod.mk.injEq] at returned
  obtain ⟨rfl, rfl, -⟩ := returned
  have requested := inEffect_later later requestedWithin
  have denied := inEffect_later later deniedWithin
  rw [same.desiredOutcome, same.timeUntilRequestedUpscalingExpired,
    same.timeUntilDeniedDownscaleExpired]
  exact ⟨_, _, result, ra, da,
    desiredOutcome_denied_later (desiredOutcome_requested_later outcome requested) denied, rfl⟩

end State

/-! ### Each party while its deadlines have not passed -/

namespace State

theorem calculatePluginAction_later {s₁ s₂ : State F} {t t' : Int} {desired : Resources}
    {wait : Option Duration} (same : s₁.SameDecisions s₂) (idle : s₁.plugin.ongoingRequest = false)
    (quiet : s₁.calculatePluginAction t desired = .ok (none, wait)) (later : t ≤ t')
    (within : ∀ w, wait = some w → t' < t + w.toInt) :
    ∃ wait', s₂.calculatePluginAction t' desired = .ok (none, wait') := by
  have idle₂ : s₂.plugin.ongoingRequest = false := same.plugin ▸ idle
  simp only [calculatePluginAction, bind_eq_ok, idle, idle₂, Bool.false_eq_true, ↓reduceIte]
    at quiet ⊢
  obtain ⟨req, clamped, quiet⟩ := quiet
  rw [same.vm, same.plugin, same.config, same.ongoingRequested, same.timeUntilNextRequestTick,
    same.timeUntilRetryBackoffExpires]
  cases backoff : failureBackoff s₁.plugin.lastFailureAt s₁.config.pluginRetryWait t with
  | some w =>
    simp only [backoff, pure, Except.pure, Except.ok.injEq, Prod.mk.injEq, true_and] at quiet
    obtain ⟨w', backoff'⟩ := failureBackoff_later backoff (within w quiet.symm)
    exact ⟨some w', req, clamped, by simp only [backoff']; rfl⟩
  | none =>
    simp only [backoff] at quiet
    split at quiet
    next => simp [pure, Except.pure] at quiet
    next notDue =>
      simp only [gt_iff_lt, Bool.or_eq_true, decide_eq_true_eq, Bool.and_eq_true,
        Bool.not_eq_eq_eq_not, Bool.not_true, decide_eq_false_iff_not, Int64.not_lt, not_or,
        Int64.not_le, not_and, and_imp] at notDue
      obtain ⟨tickPending, retryPending⟩ := notDue
      simp only [pure, Except.pure, Except.ok.injEq, Prod.mk.injEq, true_and] at quiet
      have waitWithin := within _ quiet.symm
      have tickWithin : t' < t + (s₁.timeUntilNextRequestTick t).toInt := by
        split at waitWithin
        · rw [toInt_min] at waitWithin
          omega
        · exact waitWithin
      have retryWithin (pending : 0 < s₁.timeUntilRetryBackoffExpires t) :
          t' < t + (s₁.timeUntilRetryBackoffExpires t).toInt := by
        rw [if_pos pending, toInt_min] at waitWithin
        omega
      have tick' := timeUntilNextRequestTick_pos_of_later later tickPending tickWithin
      have retry' := fun requested wanted => timeUntilRetryBackoffExpires_pos_of_later
        (retryPending requested wanted) (retryWithin (retryPending requested wanted))
      have notDue' : ¬ (decide (s₁.timeUntilNextRequestTick t' ≤ 0) ||
          s₁.plugin.lastRequest.isSome && Option.any (fun x => req != x) s₁.plugin.permit &&
            !decide (s₁.timeUntilRetryBackoffExpires t' > 0)) = true := by
        simp only [gt_iff_lt, Bool.or_eq_true, decide_eq_true_eq, Bool.and_eq_true,
          Bool.not_eq_eq_eq_not, Bool.not_true, decide_eq_false_iff_not, Int64.not_lt, not_or,
          Int64.not_le, not_and, and_imp]
        exact ⟨tick', retry'⟩
      simp only [failureBackoff_none_later backoff later]
      exact ⟨_, req, clamped, by rw [if_neg notDue']; rfl⟩

theorem calculateNeonVMAction_later {s₁ s₂ s₁' : State F} {t t' : Int} {desired : Resources}
    {wait : Option Duration} (same : s₁.SameDecisions s₂)
    (idle : s₁.neonvm.ongoingRequested = none)
    (quiet : s₁.calculateNeonVMAction t desired none = .ok (none, wait, s₁'))
    (within : ∀ w, wait = some w → t' < t + w.toInt) :
    ∃ wait' s₂', s₂.calculateNeonVMAction t' desired none = .ok (none, wait', s₂') := by
  simp only [calculateNeonVMAction, bind_eq_ok] at quiet ⊢
  obtain ⟨clamped, clampOk, quiet⟩ := quiet
  simp only [NeonvmState.ongoingRequest, same.vm, same.monitorApprovedLowerBound,
    same.pluginApprovedUpperBound, same.ongoingRequested, same.requestFailedAt, same.config, idle,
    Option.isSome_none, Bool.not_false, Option.any_none, Bool.and_self, ↓reduceIte] at quiet ⊢
  by_cases unchanged : s₁.vm.using = clamped
  · exact ⟨_, _, clamped, clampOk, by rw [if_pos unchanged]; rfl⟩
  · rw [if_neg unchanged] at quiet
    cases backoff : failureBackoff s₁.neonvm.requestFailedAt s₁.config.neonVMRetryWait t with
    | none => simp [backoff] at quiet
    | some w =>
      simp only [backoff, pure_eq_ok, Prod.mk.injEq, true_and] at quiet
      obtain ⟨w', backoff'⟩ := failureBackoff_later backoff (within w quiet.1.symm)
      exact ⟨_, _, clamped, clampOk, by rw [if_neg unchanged, backoff']; rfl⟩

theorem calculateMonitorUpscaleAction_later {s₁ s₂ : State F} {t t' : Int}
    {desired : Resources} {wait : Option Duration} (same : s₁.SameDecisions s₂)
    (quiet : s₁.calculateMonitorUpscaleAction t desired = .ok (none, wait))
    (within : ∀ w, wait = some w → t' < t + w.toInt) :
    ∃ wait', s₂.calculateMonitorUpscaleAction t' desired = .ok (none, wait') := by
  simp only [calculateMonitorUpscaleAction] at quiet ⊢
  rw [same.monitor, same.vm, same.config]
  cases approvedIs : s₁.monitor.approved with
  | none => exact ⟨none, rfl⟩
  | some approved =>
    simp only [approvedIs, bind_eq_ok] at quiet ⊢
    obtain ⟨req₁, clamp₁, req₂, clamp₂, quiet⟩ := quiet
    have notBelow : req₂.hasFieldLessThan approved = false := by
      cases below : req₂.hasFieldLessThan approved
      · rfl
      · simp [below] at quiet
    simp only [notBelow, Bool.false_eq_true, ↓reduceIte] at quiet ⊢
    by_cases unchanged : req₂ = approved
    · exact ⟨_, req₁, clamp₁, req₂, clamp₂,
        by simp only [notBelow, Bool.false_eq_true, ↓reduceIte, if_pos unchanged]; rfl⟩
    · by_cases ongoing : s₁.monitor.ongoingRequest.isSome = true
      · exact ⟨_, req₁, clamp₁, req₂, clamp₂,
          by simp only [notBelow, Bool.false_eq_true, ↓reduceIte, if_neg unchanged, ongoing]; rfl⟩
      · rw [if_neg unchanged, if_neg ongoing] at quiet
        cases backoff : failureBackoff s₁.monitor.upscaleFailureAt s₁.config.monitorRetryWait t with
        | none => simp [backoff] at quiet
        | some w =>
          simp only [backoff, pure_eq_ok, Prod.mk.injEq, true_and] at quiet
          obtain ⟨w', backoff'⟩ := failureBackoff_later backoff (within w quiet.symm)
          exact ⟨_, req₁, clamp₁, req₂, clamp₂, by
            simp only [notBelow, Bool.false_eq_true, ↓reduceIte, if_neg unchanged, if_neg ongoing,
              backoff']
            rfl⟩

theorem calculateMonitorDownscaleAction_later {s₁ s₂ : State F} {t t' : Int}
    {desired : Resources} {planned : Bool} {wait : Option Duration} (same : s₁.SameDecisions s₂)
    (quiet : s₁.calculateMonitorDownscaleAction t desired planned = .ok (none, wait))
    (within : ∀ w, wait = some w → t' < t + w.toInt) :
    ∃ wait', s₂.calculateMonitorDownscaleAction t' desired planned = .ok (none, wait') := by
  simp only [calculateMonitorDownscaleAction] at quiet ⊢
  rw [same.monitor, same.config]
  cases approvedIs : s₁.monitor.approved with
  | none => exact ⟨none, rfl⟩
  | some approved =>
    simp only [approvedIs, bind_eq_ok] at quiet ⊢
    obtain ⟨req₁, clamp₁, req₂, clamp₂, quiet⟩ := quiet
    have notAbove : req₂.hasFieldGreaterThan approved = false := by
      cases above : req₂.hasFieldGreaterThan approved
      · rfl
      · simp [above] at quiet
    simp only [notAbove, Bool.false_eq_true, ↓reduceIte] at quiet
    by_cases unchanged : req₂ = approved
    · exact ⟨_, req₁, clamp₁, req₂, clamp₂,
        by simp only [notAbove, Bool.false_eq_true, ↓reduceIte, if_pos unchanged]; rfl⟩
    · rw [if_neg unchanged] at quiet
      by_cases held : planned = true
      · exact ⟨_, req₁, clamp₁, req₂, clamp₂,
          by simp only [notAbove, Bool.false_eq_true, ↓reduceIte, if_neg unchanged, held]; rfl⟩
      by_cases ongoing : s₁.monitor.ongoingRequest.isSome = true
      · exact ⟨_, req₁, clamp₁, req₂, clamp₂, by
          simp only [notAbove, Bool.false_eq_true, ↓reduceIte, if_neg unchanged, if_neg held,
            ongoing]
          rfl⟩
      rw [if_neg held, if_neg ongoing] at quiet
      cases backoff : failureBackoff s₁.monitor.downscaleFailureAt s₁.config.monitorRetryWait t with
      | none =>
        -- without a backoff the calculation either requests or panics
        simp only [backoff] at quiet
        split at quiet <;> simp at quiet
      | some w =>
        simp only [backoff, pure_eq_ok, Prod.mk.injEq, true_and] at quiet
        obtain ⟨w', backoff'⟩ := failureBackoff_later backoff (within w quiet.symm)
        exact ⟨_, req₁, clamp₁, req₂, clamp₂, by
          simp only [notAbove, Bool.false_eq_true, ↓reduceIte, if_neg unchanged, if_neg held,
            if_neg ongoing, backoff']
          rfl⟩

/-- With the plugin idle and the clock past its last request and failure, the plugin calculation
requests, or waits for at most the request tick or the retry wait. -/
theorem calculatePluginAction_deadline {s : State F} {now : Int} {desired : Resources}
    {request : Option ActionPluginRequest} {wait : Option Duration}
    (tickNonneg : 0 ≤ s.config.pluginRequestTick) (idle : s.plugin.ongoingRequest = false)
    (afterRequest : ∀ last, s.plugin.lastRequest = some last → last.at ≤ now)
    (afterFailure : ∀ failed, s.plugin.lastFailureAt = some failed → failed ≤ now)
    (computed : s.calculatePluginAction now desired = .ok (request, wait)) :
    request.isSome ∨ ∃ w, wait = some w ∧
      w.toInt ≤ max s.config.pluginRequestTick.toInt s.config.pluginRetryWait.toInt := by
  simp only [calculatePluginAction, bind_eq_ok, idle, Bool.false_eq_true, ↓reduceIte] at computed
  obtain ⟨req, -, computed⟩ := computed
  cases backoff : failureBackoff s.plugin.lastFailureAt s.config.pluginRetryWait now with
  | some w =>
    simp only [backoff, pure_eq_ok, Prod.mk.injEq] at computed
    obtain ⟨-, rfl⟩ := computed
    exact .inr ⟨w, rfl, le_max_of_le_right (failureBackoff_le afterFailure backoff)⟩
  | none =>
    simp only [backoff] at computed
    split at computed
    next =>
      simp only [pure_eq_ok, Prod.mk.injEq] at computed
      obtain ⟨rfl, -⟩ := computed
      exact .inl rfl
    next =>
      simp only [pure_eq_ok, Prod.mk.injEq] at computed
      obtain ⟨-, rfl⟩ := computed
      -- the wait is the time to the next tick, or less while a denied request is backed off
      have tick := timeUntilNextRequestTick_le tickNonneg afterRequest
      refine .inr ⟨_, rfl, ?_⟩
      split
      · rw [toInt_min]
        omega
      · omega

/-! ### The sleeper -/

/-- The plugin's deadlines reach the wait: with a request tick and a retry wait below
`maximumDuration`, an idle plugin past its last request and failure is sent a request, or the
actions wait for at most the longer of the two. -/
theorem nextActions_plugin_deadline {goalCU : GoalCUFn F} {s s' : State F} {t : Int}
    {A : ActionSet} (tickNonneg : 0 ≤ s.config.pluginRequestTick)
    (tickBelow : s.config.pluginRequestTick < maxDuration)
    (retryBelow : s.config.pluginRetryWait < maxDuration) (idle : s.plugin.ongoingRequest = false)
    (afterRequest : ∀ last, s.plugin.lastRequest = some last → last.at ≤ t)
    (afterFailure : ∀ failed, s.plugin.lastFailureAt = some failed → failed ≤ t)
    (computed : s.nextActions goalCU t = .ok (A, s')) :
    A.pluginRequest.isSome ∨
      ∃ w, A.wait = some w ∧ w.duration ≤ max s.config.pluginRequestTick s.config.pluginRetryWait := by
  obtain ⟨desired, dw, s₁, pr, pw, preq, nr, nw, mu, uw, md, dwn, desiredOk, pluginOk, -, -, -, -,
    rfl⟩ := nextActions_eq_ok.mp computed
  -- the plugin stage runs on the state after the desired resources, which decides the same
  have same := desired_same desiredOk
  rw [← same.config] at tickNonneg tickBelow retryBelow ⊢
  rw [← same.plugin] at idle afterRequest afterFailure
  rcases calculatePluginAction_deadline tickNonneg idle afterRequest afterFailure pluginOk with
    requested | ⟨w, rfl, bounded⟩
  · exact .inl (by simpa using requested)
  · have member : some w ∈ [dw.calculate s'.monitor.ongoingRequest ⟨none, pr, nr, md, mu⟩,
        some w, nw, uw, dwn] := by simp
    rw [Int64.lt_iff_toInt_lt] at tickBelow retryBelow
    refine .inr ⟨_, withWait_of_lt member (by omega), ?_⟩
    have least := leastWait_le member
    show leastWait _ ≤ _
    rw [Int64.le_iff_toInt_le, toInt_max]
    omega

/-- Nothing becomes due while the sleeper waits: when no request is ongoing and the actions at
`t` ask for nothing but a wait `d`, the actions at any `t'` before `t + d`, on the state `t` left,
ask for nothing either. -/
theorem nextActions_quiet_until_wait {goalCU : GoalCUFn F} {s s' : State F} {t t' : Int}
    {A : ActionSet} {d : Duration} (pluginIdle : s.plugin.ongoingRequest = false)
    (neonvmIdle : s.neonvm.ongoingRequested = none) (monitorIdle : s.monitor.ongoingRequest = none)
    (computed : s.nextActions goalCU t = .ok (A, s')) (noRequest : A.hasRequest = false)
    (waiting : A.wait = some ⟨d⟩) (later : t < t') (within : t' < t + d.toInt) :
    ∃ A' s'', s'.nextActions goalCU t' = .ok (A', s'') ∧ A'.hasRequest = false := by
  obtain ⟨desired, dw, s₁, pr, pw, preq, nr, nw, mu, uw, md, dwn, desiredOk, pluginOk, requestedOk,
    neonOk, upOk, downOk, rfl⟩ := nextActions_eq_ok.mp computed
  rw [withWait_hasRequest] at noRequest
  simp only [ActionSet.hasRequest, Bool.or_eq_false_iff, Option.isSome_eq_false_iff,
    Option.isNone_iff_eq_none] at noRequest
  obtain ⟨⟨⟨rfl, rfl⟩, rfl⟩, rfl⟩ := noRequest
  -- every wait that is set runs out no earlier than `d`
  obtain ⟨rfl, -⟩ := wait_of_withWait waiting rfl
  have before : ∀ w, some w ∈ [dw.calculate s'.monitor.ongoingRequest ⟨none, none, none, none, none⟩,
      pw, nw, uw, dwn] → t' < t + w.toInt := fun w member => by
    have := leastWait_le member
    omega
  have same₁ := desired_same desiredOk
  have same' := calculateNeonVMAction_same neonOk
  have idle₁ : s₁.plugin.ongoingRequest = false := same₁.plugin ▸ pluginIdle
  obtain rfl : preq = none := by
    simpa [pluginRequested_of_idle idle₁] using requestedOk.symm
  -- the desired resources at `t'`
  have requestedWithin (affected : dw.requestedUpscalingAffectedResult = true) :
      t' < t + dw.timeUntilRequestedUpscalingExpired.toInt := by
    obtain ⟨v, calculated, bounded⟩ := DesiredWait.calculate_of_requested affected
      s'.monitor.ongoingRequest ⟨none, none, none, none, none⟩
    have := before v (by simp [← calculated])
    omega
  have deniedWithin (affected : dw.deniedDownscaleAffectedResult = true) :
      t' < t + dw.timeUntilDeniedDownscaleExpired.toInt := by
    have ongoing : s'.monitor.ongoingRequest = none := by
      rw [(same₁.trans same').monitor, monitorIdle]
    obtain ⟨v, calculated, bounded⟩ := DesiredWait.calculate_of_denied affected
      (rfl : (⟨none, none, none, none, none⟩ : ActionSet).monitorDownscale = none)
    have := before v (by simp [ongoing, ← calculated])
    omega
  obtain ⟨dw', s₁', desiredOk'⟩ :=
    desired_later desiredOk (same₁.trans same') later.le requestedWithin deniedWithin
  have same₁' := desired_same desiredOk'
  -- then each party at `t'`
  obtain ⟨pw', pluginOk'⟩ := calculatePluginAction_later (same'.trans same₁') idle₁ pluginOk
    later.le (fun w isW => before w (by simp [← isW]))
  have idle₁' : s₁'.plugin.ongoingRequest = false := (same₁.trans (same'.trans same₁')).plugin ▸ pluginIdle
  obtain ⟨nw', s₂', neonOk'⟩ := calculateNeonVMAction_later (same'.trans same₁')
    (same₁.ongoingRequested.trans neonvmIdle) neonOk (fun w isW => before w (by simp [← isW]))
  have same₂' := calculateNeonVMAction_same neonOk'
  obtain ⟨uw', upOk'⟩ := calculateMonitorUpscaleAction_later (same₁'.trans same₂') upOk
    (fun w isW => before w (by simp [← isW]))
  obtain ⟨dwn', downOk'⟩ := calculateMonitorDownscaleAction_later (same₁'.trans same₂') downOk
    (fun w isW => before w (by simp [← isW]))
  refine ⟨_, s₂', nextActions_eq_ok.mpr ⟨desired, dw', s₁', none, pw', none, none, nw', none, uw',
    none, dwn', desiredOk', pluginOk', pluginRequested_of_idle idle₁' none, neonOk', upOk', downOk',
    rfl⟩, ?_⟩
  rw [withWait_hasRequest]
  rfl

/-- The sleeper never misses a deadline of `NextActions`, for a request tick and a plugin retry
wait below `maximumDuration`. -/
theorem nextActions_meets_deadlines {goalCU : GoalCUFn F} {s s' : State F} {t : Int}
    {A : ActionSet} (computed : s.nextActions goalCU t = .ok (A, s')) :
    (0 ≤ s.config.pluginRequestTick → s.config.pluginRequestTick < maxDuration →
      s.config.pluginRetryWait < maxDuration → s.plugin.ongoingRequest = false →
      (∀ last, s.plugin.lastRequest = some last → last.at ≤ t) →
      (∀ failed, s.plugin.lastFailureAt = some failed → failed ≤ t) →
      A.pluginRequest.isSome ∨
        ∃ w, A.wait = some w ∧ w.duration ≤ max s.config.pluginRequestTick s.config.pluginRetryWait) ∧
    (s.plugin.ongoingRequest = false → s.neonvm.ongoingRequested = none →
      s.monitor.ongoingRequest = none → A.hasRequest = false → ∀ d, A.wait = some ⟨d⟩ →
      ∀ t', t < t' → t' < t + d.toInt →
        ∃ A' s'', s'.nextActions goalCU t' = .ok (A', s'') ∧ A'.hasRequest = false) :=
  ⟨fun tickNonneg tickBelow retryBelow idle afterRequest afterFailure =>
      nextActions_plugin_deadline tickNonneg tickBelow retryBelow idle afterRequest afterFailure
        computed,
    fun pluginIdle neonvmIdle monitorIdle noRequest _ waiting _ later within =>
      nextActions_quiet_until_wait pluginIdle neonvmIdle monitorIdle computed noRequest waiting later
        within⟩

end State

end Autoscaling.Agent.Core

namespace Autoscaling.Agent.Executor

open Go Vmv1 Api Autoscaling.Agent.Core

/-- A VM at one compute unit whose last plugin request, at time 0, was granted, with nothing else
going on; `tick` is the plugin request tick. -/
def settledState (tick : Duration) : State Nat :=
  { newState (exampleVM 1) { exampleConfig with pluginRequestTick := tick }
      (Revsource.newRevisionSource 0 true) with
    plugin := { ongoingRequest := false, lastRequest := some ⟨0, computeUnits 1⟩,
                lastFailureAt := none, permit := some (computeUnits 1),
                currentRevision := zeroRevision },
    lastDesiredResources := some (computeUnits 1) }

theorem nextActions_meets_deadlines_settled :
    ∃ A s', (settledState 5000000000).nextActions loadGoal 1000000000 = .ok (A, s') ∧
      (A.pluginRequest.isSome ∨ ∃ w, A.wait = some w ∧ w.duration ≤ max 5000000000 5000000000) ∧
      ∃ A' s'', s'.nextActions loadGoal 2000000000 = .ok (A', s'') ∧ A'.hasRequest = false := by
  have computed : (settledState 5000000000).nextActions loadGoal 1000000000 =
      .ok (⟨some ⟨4000000000⟩, none, none, none, none⟩, settledState 5000000000) := by decide
  have deadlines := State.nextActions_meets_deadlines computed
  refine ⟨_, _, computed,
    deadlines.1 (by decide) (by decide) (by decide) rfl (fun last isLast => ?_)
      (fun failed isFailed => nomatch isFailed),
    deadlines.2 rfl rfl rfl rfl _ rfl 2000000000 (by decide) (by decide)⟩
  cases isLast
  decide

/-- With a request tick of `maximumDuration`, the plugin calculation waits for ever, which
`nextActions` reports as no wait: right after a granted request, with the plugin idle and no
failure, nothing is requested and no wait is set. -/
theorem nextActions_no_wait_at_maximal_tick :
    (settledState maxDuration).plugin.ongoingRequest = false ∧
    (settledState maxDuration).plugin.lastRequest = some ⟨0, computeUnits 1⟩ ∧
    (settledState maxDuration).plugin.lastFailureAt = none ∧
    (settledState maxDuration).nextActions loadGoal 0 =
      .ok (⟨none, none, none, none, none⟩, settledState maxDuration) := by
  decide

end Autoscaling.Agent.Executor
