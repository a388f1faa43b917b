import Autoscaling.Agent.Core.State

/-!
# The goal from the working set of the LFC (`pkg/agent/core/wss.go`, `calculateLFCGoalCU`)

The LFC metrics give the approximate working set size over the last minute, two minutes, and so
on. `calculateLFCGoalCU` estimates the true working set from that series
(`EstimateTrueWorkingSetSize`), projects its growth over half a minute from the prefix of the
series within the estimate (`ProjectNextHighest`), and counts compute units of memory for it.

Three panics guard it: the estimate needs a window of at least two and an offset of at least the
window minus one, and the projection needs two points. `ScalingConfig`'s validation bounds none
of the integers involved, and a series that does not grow leaves the projection with the points
before the offset only: with a wait of two minutes that is one point, and the goal panics
(`lfcGoal_panics_on_falling_series`). From a wait of three minutes on, with the window within the
wait, it never does (`calculateLFCGoalCU_ok`).

`float64` values are of a linearly ordered type `F` with the arithmetic the source uses; NaN is
left out, as the working set sizes are non-negative numbers.
-/

namespace Autoscaling.Agent.Core

open Go Api

/-- The conversions between `float64` and `api.Bytes` of the LFC goal. -/
class BytesFloat (F : Type) where
  /-- `b.AsFloat64()`. -/
  ofBytes : Bytes → F
  /-- `api.Bytes(x)`. -/
  toBytes : F → Bytes

/-- `WssEstimatorConfig`. -/
structure WssEstimatorConfig (F : Type) where
  maxAllowedIncreaseFactor : F
  initialOffset : Int64
  windowSize : Int64

/-- The panics of `EstimateTrueWorkingSetSize` and `ProjectNextHighest`, without the values
they format. -/
def windowSizeTooSmall : String := "cfg.WindowSize must be >= 2"

def initialOffsetTooSmall : String := "cfg.InitialOffset must be >= cfg.WindowSize - 1"

def projectSeriesTooShort : String := "Cannot ProjectNextHighest with series of length < 2"

variable {F : Type} [LinearOrder F] [Add F] [Sub F] [Mul F] [Div F] [OfScientific F]

/-! ### The estimate -/

/-- The loop of `EstimateTrueWorkingSetSize` from `t` on, for at most `fuel` more rounds, with
`w = cfg.WindowSize - 1`: the value at the first point where the slope grows by more than
`factor`, or else the last value. -/
def estimateFrom (series : List F) (factor : F) (w : Int64) : Nat → Int64 → Except String F
  | 0, _ => index series (Int64.ofNat series.length - 1)
  | fuel + 1, t =>
    if t < Int64.ofNat series.length - w then do
      let current ← index series t
      let before ← index series (t - w)
      let after ← index series (t + w)
      -- the sizes of one instant are not computed at once, so the series may fall
      let d0 := max 0.0 (current - before)
      let d1 := max 0.0 (after - current)
      if d1 > d0 * factor then return current
      estimateFrom series factor w fuel (t + 1)
    else index series (Int64.ofNat series.length - 1)

/-- `EstimateTrueWorkingSetSize(series, cfg)`. Each round of its loop moves `t` up by one from
`InitialOffset`, which is not negative past the checks, and stops before `len(series)`: that
many rounds of fuel are enough. -/
def estimateTrueWorkingSetSize (series : List F) (cfg : WssEstimatorConfig F) : Except String F :=
  if cfg.windowSize < 2 then throw windowSizeTooSmall
  else if cfg.initialOffset < cfg.windowSize - 1 then throw initialOffsetTooSmall
  else estimateFrom series cfg.maxAllowedIncreaseFactor (cfg.windowSize - 1) series.length
    cfg.initialOffset

/-! ### The projection -/

/-- The loop of `ProjectNextHighest` past `series[i-1] = x0`: the highest value any slope,
ignoring decreases, reaches `projectLen` points on. -/
def projectFrom (projectLen : F) : F → List F → F → F
  | _, [], highest => highest
  | x0, x :: rest, highest =>
    let x1 := max x0 x
    let predicted := x1 + (x1 - x0) * projectLen
    projectFrom projectLen x rest (max highest predicted)

/-- `ProjectNextHighest(series, projectLen)`. -/
def projectNextHighest (series : List F) (projectLen : F) : Except String F :=
  if series.length < 2 then throw projectSeriesTooShort
  else do
    let highest ← index series 0
    return projectFrom projectLen highest (series.drop 1) highest

/-- The loop that finds `projectSliceEnd` in `calculateLFCGoalCU`, from `t` on: up to the first
value above the estimate. Each round moves `t` up by one towards `len(values)`, or panics on a
negative `t`: `len(values)` rounds of fuel are enough. -/
def projectSliceEndFrom (values : List F) (estimate : F) : Nat → Int64 → Except String Int64
  | 0, t => pure t
  | fuel + 1, t =>
    if t < Int64.ofNat values.length then do
      let value ← index values t
      if value ≤ estimate then projectSliceEndFrom values estimate fuel (t + 1) else pure t
    else pure t

/-- `calculateLFCGoalCU(warn, cfg, computeUnit, lfcMetrics)`, without its logging: the goal in
compute units and the estimated working set, or none with too few values. -/
def calculateLFCGoalCU [BytesFloat F] (cfg : ScalingConfig F) (computeUnit : Resources)
    (lfcMetrics : LFCMetrics F) : Except String (F × Option Bytes) := do
  let wssValues := lfcMetrics.approximateworkingSetSizeBuckets
  -- the values are a minute apart, from one minute on
  let offsetIndex := (← deref cfg.lfcMinWaitBeforeDownscaleMinutes) - 1
  let windowSize ← deref cfg.lfcWindowSizeMinutes
  if Int64.ofNat wssValues.length < offsetIndex + windowSize then
    return (0.0, none)
  let estimateWss ← if (← deref cfg.lfcUseLargestWindow) then
      index wssValues (Int64.ofNat wssValues.length - 1)
    else estimateTrueWorkingSetSize wssValues ⟨3.0, offsetIndex, windowSize⟩
  -- from offsetIndex on, as the series need not grow
  let projectSliceEnd ← projectSliceEndFrom wssValues estimateWss wssValues.length offsetIndex
  let projected ← sliceTo wssValues projectSliceEnd
  let predictedHighestNextMinute ← projectNextHighest projected 0.5
  -- from pages of 8 KiB to bytes, and up from the part of memory the LFC gets
  let estimateWssMem := predictedHighestNextMinute * 8192.0
  let requiredMem := estimateWssMem / (← deref cfg.lfcToMemoryRatio)
  let requiredCU := requiredMem / BytesFloat.ofBytes computeUnit.mem
  return (requiredCU, some (BytesFloat.toBytes estimateWssMem))

/-! ### When nothing panics -/

section Panics

variable {series : List F}

omit [Div F] [OfScientific F] in
theorem projectNextHighest_ok (series : List F) (projectLen : F) (two : 2 ≤ series.length) :
    ∃ v, projectNextHighest series projectLen = .ok v := by
  unfold projectNextHighest
  rw [if_neg (by omega), index_of_range (by decide) (by simp; omega)]
  exact ⟨_, rfl⟩

omit [Div F] [OfScientific F] in
theorem projectNextHighest_short {projectLen : F} (short : series.length < 2) :
    projectNextHighest series projectLen = .error projectSeriesTooShort := by
  unfold projectNextHighest
  rw [if_pos short]
  rfl

omit [Add F] [Div F] in
/-- Past its checks the loop of the estimate stays within the series: `t - w` is not negative
and `t + w` is short of the end. -/
theorem estimateFrom_ok {factor : F} {w : Int64} (fuel : Nat) {t : Int64}
    (wide : 1 ≤ w.toInt) (past : w.toInt ≤ t.toInt) (nonempty : 0 < series.length)
    (fits : series.length < 2 ^ 63) :
    ∃ v, estimateFrom series factor w fuel t = .ok v := by
  have lenInt := toInt_ofNat_of_lt fits
  have wBelow := w.toInt_lt
  induction fuel generalizing t with
  | zero => exact index_last_ok nonempty fits
  | succ fuel ih =>
    unfold estimateFrom
    split
    next inRange =>
      have endInt : (Int64.ofNat series.length - w).toInt = series.length - w.toInt := by
        rw [toInt_sub_of_range] <;> simp [lenInt] <;> omega
      rw [Int64.lt_iff_toInt_lt, endInt] at inRange
      have beforeInt : (t - w).toInt = t.toInt - w.toInt :=
        toInt_sub_of_range (by omega) (by omega)
      have afterInt : (t + w).toInt = t.toInt + w.toInt :=
        toInt_add_of_range (by omega) (by omega)
      have nextInt : (t + 1).toInt = t.toInt + 1 := toInt_add_of_range (by simp; omega) (by simp; omega)
      rw [index_of_range (by omega) (by omega), index_of_range (by omega) (by omega),
        index_of_range (by omega) (by omega)]
      simp only [ok_bind]
      split
      · exact ⟨_, rfl⟩
      · exact ih (by omega)
    next => exact index_last_ok nonempty fits

omit [Add F] [Div F] in
theorem estimateTrueWorkingSetSize_ok (cfg : WssEstimatorConfig F)
    (wide : 2 ≤ cfg.windowSize.toInt) (offset : cfg.windowSize.toInt - 1 ≤ cfg.initialOffset.toInt)
    (nonempty : 0 < series.length) (fits : series.length < 2 ^ 63) :
    ∃ v, estimateTrueWorkingSetSize series cfg = .ok v := by
  have wRange := toInt_range cfg.windowSize
  have wInt : (cfg.windowSize - 1).toInt = cfg.windowSize.toInt - 1 :=
    toInt_sub_of_range (by simp; omega) (by simp; omega)
  unfold estimateTrueWorkingSetSize
  rw [if_neg (by rw [Int64.lt_iff_toInt_lt]; simp; omega),
    if_neg (by rw [Int64.lt_iff_toInt_lt, wInt]; omega)]
  exact estimateFrom_ok _ (by omega) (by omega) nonempty fits

omit [Add F] [Sub F] [Mul F] [Div F] [OfScientific F] in
/-- The end of the projected prefix is found without a panic from a non-negative start, and
lies between the start and the end of the series. -/
theorem projectSliceEndFrom_ok (estimate : F) (fuel : Nat) {t : Int64} (nonneg : 0 ≤ t.toInt)
    (within : t.toInt ≤ series.length) (fits : series.length < 2 ^ 63) :
    ∃ e, projectSliceEndFrom series estimate fuel t = .ok e ∧ t.toInt ≤ e.toInt ∧
      e.toInt ≤ series.length := by
  have lenInt := toInt_ofNat_of_lt fits
  induction fuel generalizing t with
  | zero => exact ⟨t, rfl, le_refl _, within⟩
  | succ fuel ih =>
    unfold projectSliceEndFrom
    split
    next inRange =>
      rw [Int64.lt_iff_toInt_lt, lenInt] at inRange
      have nextInt : (t + 1).toInt = t.toInt + 1 := toInt_add_of_range (by simp; omega) (by simp; omega)
      rw [index_of_range nonneg (by omega), ok_bind]
      split
      · obtain ⟨e, found, above, below⟩ := ih (t := t + 1) (by omega) (by omega)
        exact ⟨e, found, by omega, below⟩
      · exact ⟨t, rfl, le_refl _, within⟩
    next => exact ⟨t, rfl, le_refl _, within⟩

/-- With the fields it reads set, a window of at least two within the wait, and a wait of at
least three minutes, the LFC goal never panics: the projection then starts from at least two
points, whatever the series. -/
theorem calculateLFCGoalCU_ok [BytesFloat F] {cfg : ScalingConfig F} {computeUnit : Resources}
    {lfcMetrics : LFCMetrics F} {minWait window : Int64} {useLargest : Bool} {ratio : F}
    (waitSet : cfg.lfcMinWaitBeforeDownscaleMinutes = some minWait)
    (windowSet : cfg.lfcWindowSizeMinutes = some window)
    (largestSet : cfg.lfcUseLargestWindow = some useLargest)
    (ratioSet : cfg.lfcToMemoryRatio = some ratio)
    (wide : 2 ≤ window.toInt) (within : window.toInt ≤ minWait.toInt) (long : 3 ≤ minWait.toInt)
    (noWrap : minWait.toInt + window.toInt ≤ 2 ^ 63)
    (fits : lfcMetrics.approximateworkingSetSizeBuckets.length < 2 ^ 63) :
    ∃ result, calculateLFCGoalCU cfg computeUnit lfcMetrics = .ok result := by
  have lenInt := toInt_ofNat_of_lt fits
  have offsetInt : (minWait - 1).toInt = minWait.toInt - 1 :=
    toInt_sub_of_range (by simp; omega) (by simp; omega)
  have neededInt : (minWait - 1 + window).toInt = minWait.toInt - 1 + window.toInt := by
    rw [toInt_add_of_range] <;> rw [offsetInt] <;> omega
  unfold calculateLFCGoalCU
  simp only [waitSet, windowSet, largestSet, ratioSet, deref_some, ok_bind]
  split
  · exact ⟨_, rfl⟩
  next enough =>
    rw [Int64.lt_iff_toInt_lt, lenInt, neededInt] at enough
    -- whatever the estimate, the prefix projected has the points before the offset
    have projects : ∀ estimate : F, ∃ result, (do
        let projectSliceEnd ← projectSliceEndFrom lfcMetrics.approximateworkingSetSizeBuckets
          estimate lfcMetrics.approximateworkingSetSizeBuckets.length (minWait - 1)
        let projected ← sliceTo lfcMetrics.approximateworkingSetSizeBuckets projectSliceEnd
        let predictedHighestNextMinute ← projectNextHighest projected (0.5 : F)
        pure (predictedHighestNextMinute * 8192.0 / ratio / BytesFloat.ofBytes computeUnit.mem,
          some (BytesFloat.toBytes (predictedHighestNextMinute * 8192.0)))) =
          Except.ok (ε := String) result := by
      intro estimate
      obtain ⟨projectEnd, endOk, fromOffset, toEnd⟩ :=
        projectSliceEndFrom_ok estimate lfcMetrics.approximateworkingSetSizeBuckets.length
          (t := minWait - 1) (by omega) (by omega) fits
      rw [endOk, ok_bind, sliceTo_of_range (by omega) toEnd, ok_bind]
      obtain ⟨predicted, projectOk⟩ := projectNextHighest_ok
        (lfcMetrics.approximateworkingSetSizeBuckets.take projectEnd.toInt.toNat) (0.5 : F)
        (by simp only [List.length_take]; omega)
      rw [projectOk, ok_bind]
      exact ⟨_, rfl⟩
    -- the estimate, from the last value or from the loop
    split
    · obtain ⟨estimate, estimateOk⟩ := index_last_ok (by omega) fits
      rw [estimateOk, ok_bind]
      exact projects estimate
    · obtain ⟨estimate, estimateOk⟩ := estimateTrueWorkingSetSize_ok ⟨(3.0 : F), minWait - 1, window⟩
        wide (by simp only; omega) (by omega) fits
      rw [estimateOk, ok_bind]
      exact projects estimate

end Panics

/-! ### A falling series -/

/-- Exact rationals for `float64`: the values below are small integers, on which both compute
alike. -/
instance : BytesFloat ℚ where
  ofBytes b := b.toNat
  toBytes x := x.floor.toNat.toUInt64

/-- Default scaling settings as the agent's configuration sets them: a wait of 15 minutes and a
window of 5 before downscaling on the LFC. -/
def lfcDefaults : ScalingConfig ℚ :=
  { loadAverageFractionTarget := some 0.9, memoryUsageFractionTarget := some 0.75,
    memoryTotalFractionTarget := some 0.9, enableLFCMetrics := some true,
    lfcUseLargestWindow := some false, lfcToMemoryRatio := some 0.75,
    lfcMinWaitBeforeDownscaleMinutes := some 15, lfcWindowSizeMinutes := some 5,
    cpuStableZoneRatio := some 0, cpuMixedZoneRatio := some 0 }

/-- A VM's annotation that waits two minutes, with a window of two. -/
def lfcOverrides : ScalingConfig ℚ :=
  { loadAverageFractionTarget := none, memoryUsageFractionTarget := none,
    memoryTotalFractionTarget := none, enableLFCMetrics := none, lfcUseLargestWindow := none,
    lfcToMemoryRatio := none, lfcMinWaitBeforeDownscaleMinutes := some 2,
    lfcWindowSizeMinutes := some 2, cpuStableZoneRatio := none, cpuMixedZoneRatio := none }

/-- Both settings pass their validation, and the estimate's own checks hold (a window of two
and an offset of one), but the working set of the last two minutes is below that of the
second minute alone: the estimate is the last value, 1, the projected prefix stops before the
second value, 5, and keeps one point. -/
theorem lfcGoal_panics_on_falling_series :
    lfcDefaults.validateDefaults = [] ∧ lfcOverrides.validateOverrides = [] ∧
      calculateLFCGoalCU (lfcDefaults.withOverrides (some lfcOverrides)) ⟨250, 1073741824⟩
        ⟨0, 0, 0, [0, 5, 1]⟩ = .error projectSeriesTooShort := by
  refine ⟨by decide +kernel, by decide +kernel, by decide +kernel⟩

end Autoscaling.Agent.Core
