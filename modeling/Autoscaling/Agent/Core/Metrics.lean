import Autoscaling.Lib.Go

/-!
# The LFC working-set windows (`pkg/agent/core/metrics.go`, `extractWorkingSetSizeWindows`)

The `lfc_approximate_working_set_size_windows` gauge has one metric per window, labelled with the
window's length in seconds. `extractWorkingSetSizeWindows` parses each label with `strconv.Atoi`,
turns it into a `time.Duration` as `time.Second * time.Duration(seconds)`, sorts the windows by
duration, and accepts them only when they are one minute, two minutes, and so on up to their
number; it returns the gauge values in that order.

The multiplication is in `int64` and wraps. A label of `2^55 + 60` seconds is a duration of
exactly one minute, since `10^9 * 2^55` is a multiple of `2^64`; a gauge with that one label is
accepted as the one-minute window (`extractWorkingSetSizeWindows_accepts_wrapped_label`). The law
holds for labels with no wrap, up to `maxSeconds` in size, and for at most `maxWindows` windows,
past which `time.Minute * time.Duration(i+1)` itself wraps and no gauge is accepted
(`extractWorkingSetSizeWindows_ok_iff`, `extractWorkingSetSizeWindows_values`).

The proof reads the check on the sorted windows as an equation with the list of window durations
(`checkMinutesApart_eq_ok`), and a sorted list of durations equal to that list as a permutation
of it (`sorted_eq_windowDurations_iff`); the labels then are a permutation of `60`, …, `60 n` by
dividing out `time.Second` (`windows_perm_iff`).

`float64` gauge values are of any type `F` with a zero, the value of a missing gauge.
-/

namespace Autoscaling.Agent.Core

open Go

/-- `promtypes.MetricType`. -/
inductive MetricType
  | counter
  | gauge
  | summary
  | untyped
  | histogram
  | gaugeHistogram
deriving DecidableEq, Repr

/-- `promtypes.LabelPair`. -/
structure LabelPair where
  name : String
  value : String
deriving DecidableEq, Repr

/-- `promtypes.Metric`: its labels and the value of its gauge, if it has one. -/
structure Metric (F : Type) where
  label : List LabelPair
  gauge : Option F
deriving DecidableEq, Repr

/-- `promtypes.MetricFamily`: its type, if set, and its metrics. -/
structure MetricFamily (F : Type) where
  type : Option MetricType
  metric : List (Metric F)
deriving DecidableEq, Repr

/-- `mf.GetType()`, which is `COUNTER` when the type is not set. -/
def MetricFamily.getType {F : Type} (mf : MetricFamily F) : MetricType :=
  mf.type.getD .counter

/-! ### `strconv.Atoi` -/

def invalidSyntax : String := "strconv.Atoi: parsing %q: invalid syntax"

def valueOutOfRange : String := "strconv.Atoi: parsing %q: value out of range"

/-- The sign of a number and its digits. -/
def signAndDigits : List Char → Bool × List Char
  | '-' :: rest => (true, rest)
  | '+' :: rest => (false, rest)
  | chars => (false, chars)

/-- The value of a string of decimal digits. -/
def decimalValue (digits : List Char) : Nat :=
  digits.foldl (fun n c => 10 * n + (c.toNat - '0'.toNat)) 0

/-- `strconv.Atoi` for a 64-bit `int`: an optional sign and at least one decimal digit, of a value
in the range of `int`. -/
def atoi (s : String) : Except String Int64 :=
  match signAndDigits s.toList with
  | (negative, digits) =>
    if digits = [] ∨ ¬ digits.all Char.isDigit then throw invalidSyntax
    else
      let n : Int := if negative then -(decimalValue digits : Int) else decimalValue digits
      if n < -2 ^ 63 ∨ 2 ^ 63 ≤ n then throw valueOutOfRange else pure (Int64.ofInt n)

example : atoi "-120" = .ok (-120) := by decide
example : atoi "9223372036854775808" = .error valueOutOfRange := by decide

/-! ### The windows -/

def windowsMetricName : String := "lfc_approximate_working_set_size_windows"

def durationLabel : String := "duration_seconds"

/-- `missingMetric(name)`. -/
def missingMetric (name : String) : String := "missing expected metric " ++ name

def wrongMetricType : String := "wrong metric type: expected %s, but got %s"

def tooFewMetrics : String := "expected >= metric, found %d"

def metricMissingLabel : String := "metric missing label %q"

def couldNotParseLabel : String := "couldn't parse metric's %q label as int: %w"

def smallestNotMinute : String := "expected smallest duration to be %v, got %v"

def notMinuteApart : String :=
  "expected duration values to be exactly 1m apart, got unexpected value %v instead of %v"

/-- `pair`: a window's duration and its gauge value. -/
structure Pair (F : Type) where
  duration : Duration
  value : F
deriving DecidableEq, Repr

section Windows

variable {F : Type}

/-- The seconds of a metric's `duration_seconds` label: the first label of that name, parsed by
`strconv.Atoi`. -/
def labelSeconds (m : Metric F) : Except String Int64 :=
  match m.label.find? (fun l => l.name == durationLabel) with
  | none => throw metricMissingLabel
  | some l =>
    match atoi l.value with
    | .error _ => throw couldNotParseLabel
    | .ok seconds => pure seconds

/-- The body of the loop over `mf.Metric`: the window of a metric, as `time.Second` times its
label, and its gauge value, `m.GetGauge().GetValue()`. -/
def pairOf [Zero F] (m : Metric F) : Except String (Pair F) := do
  let durationSeconds ← labelSeconds m
  pure ⟨second * durationSeconds, m.gauge.getD 0⟩

/-- `slices.SortFunc(pairs, ...)` by `cmp.Compare` of the durations. -/
def sortByDuration (pairs : List (Pair F)) : List (Pair F) :=
  pairs.mergeSort fun x y => decide (x.duration ≤ y.duration)

/-- The loop checking that the window at index `i` is `time.Minute * time.Duration(i+1)`. -/
def checkMinutesApart : Nat → List (Pair F) → Except String Unit
  | _, [] => pure ()
  | i, p :: rest =>
    if p.duration ≠ minute * Int64.ofNat (i + 1) then throw notMinuteApart
    else checkMinutesApart (i + 1) rest

/-- `extractWorkingSetSizeWindows(mfs)`, with the map of metric families a function from names
to the family, or `nil`. -/
def extractWorkingSetSizeWindows [Zero F] (mfs : String → Option (MetricFamily F)) :
    Except String (List F) :=
  match mfs windowsMetricName with
  | none => throw (missingMetric windowsMetricName)
  | some mf =>
    if mf.getType ≠ .gauge then throw wrongMetricType
    else if mf.metric.length < 1 then throw tooFewMetrics
    else do
      let pairs ← mf.metric.mapM pairOf
      let pairs := sortByDuration pairs
      -- the windows must be exactly one minute apart, starting at one minute
      let first ← index pairs 0
      if first.duration ≠ minute then throw smallestNotMinute
      else do
        checkMinutesApart 0 pairs
        pure (pairs.map (·.value))

/-! ### The durations of the windows -/

/-- The largest label, in seconds, that `time.Second` times it does not wrap. -/
def maxSeconds : Int := 9223372036

/-- The most windows for which `time.Minute * time.Duration(i+1)` does not wrap. -/
def maxWindows : Nat := 153722867

/-- The durations the check expects of `n` windows: one minute, two minutes, …, `n` minutes. -/
def windowDurations (n : Nat) : List Duration :=
  (List.range' 1 n).map fun k => minute * Int64.ofNat k

/-- The labels of `n` windows: `60`, `120`, …, `60 n`. -/
def windowLabels (n : Nat) : List Int :=
  (List.range' 1 n).map fun k : Nat => 60 * (k : Int)

theorem toInt_second_mul {s : Int64} (bounded : |s.toInt| ≤ maxSeconds) :
    (second * s).toInt = 1000000000 * s.toInt := by
  have secondInt : second.toInt = 1000000000 := by decide
  obtain ⟨lo, hi⟩ := abs_le.mp bounded
  unfold maxSeconds at lo hi
  rw [toInt_mul_of_range (by rw [secondInt]; omega) (by rw [secondInt]; omega), secondInt]

theorem toInt_minute_mul {k : Nat} (fits : k ≤ maxWindows) :
    (minute * Int64.ofNat k).toInt = 60000000000 * k := by
  have minuteInt : minute.toInt = 60000000000 := by decide
  unfold maxWindows at fits
  have kInt : (Int64.ofNat k).toInt = k := toInt_ofNat_of_lt (by omega)
  rw [toInt_mul_of_range (by rw [minuteInt, kInt]; omega) (by rw [minuteInt, kInt]; omega),
    minuteInt, kInt]

theorem windowDurations_sorted {n : Nat} (fits : n ≤ maxWindows) :
    (windowDurations n).Pairwise (· ≤ ·) := by
  unfold windowDurations
  rw [List.pairwise_map]
  refine List.Pairwise.imp_of_mem (fun {a b} inA inB less => ?_) List.pairwise_lt_range'
  rw [List.mem_range'_1] at inA inB
  rw [Int64.le_iff_toInt_le, toInt_minute_mul (by omega), toInt_minute_mul (by omega)]
  omega

/-- Past `maxWindows` windows the expected durations wrap, and are no longer sorted. -/
theorem le_maxWindows_of_sorted {n : Nat} (sorted : (windowDurations n).Pairwise (· ≤ ·)) :
    n ≤ maxWindows := by
  by_contra more
  unfold windowDurations at sorted
  rw [List.pairwise_map, List.pairwise_iff_getElem] at sorted
  -- the last window that fits, and the first that wraps
  have wraps := sorted (maxWindows - 1) maxWindows (by simp; omega) (by simp; omega) (by decide)
  simp only [List.getElem_range'] at wraps
  revert wraps
  decide

theorem checkMinutesApart_eq_ok (i : Nat) (pairs : List (Pair F)) :
    checkMinutesApart i pairs = .ok () ↔
      pairs.map (·.duration) = (List.range' (i + 1) pairs.length).map
        fun k => minute * Int64.ofNat k := by
  induction pairs generalizing i with
  | nil => simp [checkMinutesApart, pure, Except.pure]
  | cons p rest ih =>
    rw [checkMinutesApart, List.length_cons, List.range'_succ, List.map_cons, List.map_cons,
      List.cons.injEq, ← ih]
    by_cases expected : p.duration = minute * Int64.ofNat (i + 1)
    · rw [if_neg (not_not.mpr expected)]
      exact (and_iff_right expected).symm
    · rw [if_pos expected]
      constructor
      · intro thrown
        cases thrown
      · intro both
        exact absurd both.1 expected

theorem sortByDuration_perm (pairs : List (Pair F)) : (sortByDuration pairs).Perm pairs :=
  List.mergeSort_perm _ _

theorem sortByDuration_sorted (pairs : List (Pair F)) :
    ((sortByDuration pairs).map (·.duration)).Pairwise (· ≤ ·) := by
  rw [List.pairwise_map]
  have sorted := @List.pairwise_mergeSort _
    (fun x y : Pair F => decide (x.duration ≤ y.duration))
    (fun _ _ _ first second =>
      decide_eq_true (Int64.le_trans (of_decide_eq_true first) (of_decide_eq_true second)))
    (fun a b => by simpa using Int64.le_total a.duration b.duration) pairs
  simpa [sortByDuration] using sorted

/-- The sorted windows are the expected ones exactly when the windows are a permutation of
them. -/
theorem sorted_eq_windowDurations_iff {pairs : List (Pair F)} (fits : pairs.length ≤ maxWindows) :
    (sortByDuration pairs).map (·.duration) = windowDurations pairs.length ↔
      (pairs.map (·.duration)).Perm (windowDurations pairs.length) := by
  have perm : ((sortByDuration pairs).map (·.duration)).Perm (pairs.map (·.duration)) :=
    (sortByDuration_perm pairs).map _
  constructor
  · intro sorted
    rw [← sorted]
    exact perm.symm
  · intro windows
    exact (perm.trans windows).eq_of_pairwise (fun _ _ _ _ => Int64.le_antisymm)
      (sortByDuration_sorted pairs) (windowDurations_sorted fits)

/-! ### The labels -/

/-- The loop over the metrics builds the pairs from the labels, in order. -/
theorem mapM_pairOf [Zero F] (metrics : List (Metric F)) :
    metrics.mapM pairOf = (fun labels => (metrics.zip labels).map fun ml =>
      (⟨second * ml.2, ml.1.gauge.getD 0⟩ : Pair F)) <$> metrics.mapM labelSeconds := by
  induction metrics with
  | nil => rfl
  | cons m rest ih =>
    rw [List.mapM_cons, List.mapM_cons, ih]
    unfold pairOf
    cases labelSeconds m with
    | error e => rfl
    | ok s =>
      cases rest.mapM labelSeconds with
      | error e => rfl
      | ok labels => rfl

/-- The windows of the pairs are `time.Second` times the labels. -/
theorem durations_of_mapM_pairOf [Zero F] {metrics : List (Metric F)} {pairs : List (Pair F)}
    {labels : List Int64} (parsed : metrics.mapM labelSeconds = .ok labels)
    (built : metrics.mapM pairOf = .ok pairs) :
    pairs.map (·.duration) = labels.map (second * ·) ∧ pairs.length = metrics.length := by
  have lengths := (mapM_eq_ok parsed).length_eq
  rw [mapM_pairOf, parsed] at built
  obtain rfl := Except.ok.inj built
  constructor
  · have seconds := @List.map_snd_zip _ _ metrics labels (by omega)
    rw [List.map_map]
    conv_rhs => rw [← seconds, List.map_map]
    rfl
  · simp [lengths]

/-- With no label past `maxSeconds`, the windows are one minute, …, `n` minutes exactly when the
labels are `60`, …, `60 n`: dividing out `time.Second` and multiplying it back are inverse on
both. -/
theorem windows_perm_iff {labels : List Int64} {n : Nat}
    (bounded : ∀ s ∈ labels, |s.toInt| ≤ maxSeconds) (fits : n ≤ maxWindows) :
    (labels.map (second * ·)).Perm (windowDurations n) ↔
      (labels.map Int64.toInt).Perm (windowLabels n) := by
  have inRange : ∀ k ∈ List.range' 1 n, k ≤ maxWindows := fun k member => by
    rw [List.mem_range'_1] at member
    omega
  have minuteLabel : ∀ k ∈ List.range' 1 n, |(Int64.ofInt (60 * (k : Int))).toInt| ≤ maxSeconds :=
    fun k member => by
      have small := inRange k member
      unfold maxWindows at small
      rw [toInt_ofInt_of_range (by omega) (by omega)]
      unfold maxSeconds
      rw [abs_of_nonneg (by omega)]
      omega
  constructor
  · intro windows
    have divided := windows.map fun d : Duration => d.toInt / 1000000000
    have labelsBack : (labels.map (second * ·)).map (fun d : Duration => d.toInt / 1000000000) =
        labels.map Int64.toInt := by
      rw [List.map_map]
      refine List.map_congr_left fun s member => ?_
      show (second * s).toInt / 1000000000 = s.toInt
      rw [toInt_second_mul (bounded s member)]
      exact Int.mul_ediv_cancel_left _ (by decide)
    have windowsBack : (windowDurations n).map (fun d : Duration => d.toInt / 1000000000) =
        windowLabels n := by
      rw [windowDurations, windowLabels, List.map_map]
      refine List.map_congr_left fun k member => ?_
      show (minute * Int64.ofNat k).toInt / 1000000000 = 60 * (k : Int)
      rw [toInt_minute_mul (inRange k member)]
      omega
    rwa [labelsBack, windowsBack] at divided
  · intro labelled
    have multiplied := labelled.map fun z : Int => second * Int64.ofInt z
    have labelsBack : (labels.map Int64.toInt).map (fun z : Int => second * Int64.ofInt z) =
        labels.map (second * ·) := by
      rw [List.map_map]
      refine List.map_congr_left fun s _ => ?_
      show second * Int64.ofInt s.toInt = second * s
      rw [Int64.ofInt_toInt]
    have windowsBack : (windowLabels n).map (fun z : Int => second * Int64.ofInt z) =
        windowDurations n := by
      rw [windowDurations, windowLabels, List.map_map]
      refine List.map_congr_left fun k member => ?_
      show second * Int64.ofInt (60 * (k : Int)) = minute * Int64.ofNat k
      have small := inRange k member
      unfold maxWindows at small
      rw [← Int64.toInt_inj, toInt_second_mul (minuteLabel k member),
        toInt_minute_mul (inRange k member),
        toInt_ofInt_of_range (by omega) (by omega)]
      omega
    rwa [labelsBack, windowsBack] at multiplied

/-! ### What the extraction accepts -/

theorem length_sortByDuration (pairs : List (Pair F)) :
    (sortByDuration pairs).length = pairs.length :=
  List.length_mergeSort _

/-- The extraction returns exactly when the family is a gauge of metrics whose labels all parse
and whose sorted windows are one minute, …, `n` minutes; it returns their values in that order. -/
theorem extractWorkingSetSizeWindows_eq_ok [Zero F] {mfs : String → Option (MetricFamily F)}
    {values : List F} :
    extractWorkingSetSizeWindows mfs = .ok values ↔
      ∃ mf pairs, mfs windowsMetricName = some mf ∧ mf.getType = .gauge ∧ mf.metric ≠ [] ∧
        mf.metric.mapM pairOf = .ok pairs ∧
        (sortByDuration pairs).map (·.duration) = windowDurations pairs.length ∧
        values = (sortByDuration pairs).map (·.value) := by
  constructor
  · intro extracted
    unfold extractWorkingSetSizeWindows at extracted
    split at extracted
    · cases extracted
    next mf found =>
      have gauge : mf.getType = .gauge := by
        by_contra other
        rw [if_pos other] at extracted
        cases extracted
      have nonempty : mf.metric ≠ [] := by
        intro empty
        rw [if_neg (not_not.mpr gauge), if_pos (by simp [empty])] at extracted
        cases extracted
      rw [if_neg (not_not.mpr gauge), if_neg (by simpa [List.length_pos_iff] using nonempty)]
        at extracted
      obtain ⟨pairs, built, extracted⟩ := bind_eq_ok.mp extracted
      obtain ⟨first, -, extracted⟩ := bind_eq_ok.mp extracted
      have minuteFirst : ¬ first.duration ≠ minute := by
        intro other
        rw [if_pos other] at extracted
        cases extracted
      rw [if_neg minuteFirst] at extracted
      obtain ⟨⟨⟩, checked, returned⟩ := bind_eq_ok.mp extracted
      rw [checkMinutesApart_eq_ok, length_sortByDuration, Nat.zero_add] at checked
      exact ⟨mf, pairs, found, gauge, nonempty, built, checked, (pure_eq_ok.mp returned).symm⟩
  · rintro ⟨mf, pairs, found, gauge, nonempty, built, windows, rfl⟩
    have lengths : (sortByDuration pairs).length = pairs.length := length_sortByDuration pairs
    have somePair : 0 < pairs.length := by
      rw [← (mapM_eq_ok built).length_eq]
      exact List.length_pos_iff.mpr nonempty
    have someSorted : 0 < (sortByDuration pairs).length := by omega
    -- the first window is the first expected one, one minute
    have firstMinute : (sortByDuration pairs)[0].duration = minute := by
      have atZero := congrArg (·[0]?) windows
      simp only [List.getElem?_map, windowDurations] at atZero
      rw [List.getElem?_eq_getElem (by omega), List.getElem?_range' (by omega)] at atZero
      simpa using atZero
    have checked : checkMinutesApart 0 (sortByDuration pairs) = .ok () := by
      rw [checkMinutesApart_eq_ok, lengths, Nat.zero_add]
      exact windows
    unfold extractWorkingSetSizeWindows
    rw [found]
    dsimp only
    rw [if_neg (not_not.mpr gauge), if_neg (by simpa [List.length_pos_iff] using nonempty), built,
      ok_bind, index_of_range (by decide) (by simp [lengths, somePair]), ok_bind]
    simp only [checked, ok_bind]
    simp [firstMinute, pure, Except.pure]

/-- Past `maxWindows` metrics no gauge is accepted: the expected durations wrap. -/
theorem extractWorkingSetSizeWindows_rejects_many_windows [Zero F]
    {mfs : String → Option (MetricFamily F)} {mf : MetricFamily F}
    (found : mfs windowsMetricName = some mf) (many : maxWindows < mf.metric.length)
    (values : List F) : extractWorkingSetSizeWindows mfs ≠ .ok values := by
  intro extracted
  obtain ⟨mf', pairs, found', -, -, built, windows, -⟩ :=
    extractWorkingSetSizeWindows_eq_ok.mp extracted
  obtain rfl : mf' = mf := Option.some.inj (found'.symm.trans found)
  have fits : pairs.length ≤ maxWindows :=
    le_maxWindows_of_sorted (windows ▸ sortByDuration_sorted pairs)
  have lengths := (mapM_eq_ok built).length_eq
  omega

/-- With no label past `maxSeconds`, the extraction succeeds exactly when the family is a gauge of
between one and `maxWindows` metrics, each with a `duration_seconds` label that parses, and the
labels are `60`, `120`, …, `60 n` in some order. -/
theorem extractWorkingSetSizeWindows_ok_iff [Zero F] {mfs : String → Option (MetricFamily F)}
    (bounded : ∀ mf, mfs windowsMetricName = some mf →
      ∀ m ∈ mf.metric, ∀ s, labelSeconds m = .ok s → |s.toInt| ≤ maxSeconds) :
    (∃ values, extractWorkingSetSizeWindows mfs = .ok values) ↔
      ∃ mf labels, mfs windowsMetricName = some mf ∧ mf.getType = .gauge ∧ mf.metric ≠ [] ∧
        mf.metric.length ≤ maxWindows ∧ mf.metric.mapM labelSeconds = .ok labels ∧
        (labels.map Int64.toInt).Perm (windowLabels mf.metric.length) := by
  constructor
  · rintro ⟨values, extracted⟩
    obtain ⟨mf, pairs, found, gauge, nonempty, built, windows, -⟩ :=
      extractWorkingSetSizeWindows_eq_ok.mp extracted
    -- every label parsed, since every pair was built
    obtain ⟨labels, parsed, -⟩ := map_eq_ok.mp ((mapM_pairOf mf.metric).symm.trans built)
    obtain ⟨durations, lengths⟩ := durations_of_mapM_pairOf parsed built
    have fits : pairs.length ≤ maxWindows :=
      le_maxWindows_of_sorted (windows ▸ sortByDuration_sorted pairs)
    have labelsBounded : ∀ s ∈ labels, |s.toInt| ≤ maxSeconds := fun s member => by
      obtain ⟨m, inMetrics, labelled⟩ := mem_of_mapM_eq_ok parsed member
      exact bounded mf found m inMetrics s labelled
    have perm := (sorted_eq_windowDurations_iff fits).mp windows
    rw [durations, lengths] at perm
    rw [lengths] at fits
    exact ⟨mf, labels, found, gauge, nonempty, fits, parsed,
      (windows_perm_iff labelsBounded fits).mp perm⟩
  · rintro ⟨mf, labels, found, gauge, nonempty, fits, parsed, labelled⟩
    -- the labels are among `60`, …, `60 n`, so none is past `maxSeconds`
    have labelsBounded : ∀ s ∈ labels, |s.toInt| ≤ maxSeconds := fun s member => by
      obtain ⟨k, inRange, eq⟩ := List.mem_map.mp (labelled.mem_iff.mp (List.mem_map_of_mem member))
      rw [List.mem_range'_1] at inRange
      unfold maxWindows at fits
      unfold maxSeconds
      rw [← eq, abs_of_nonneg (by omega)]
      omega
    obtain ⟨pairs, built⟩ : ∃ pairs, mf.metric.mapM pairOf = .ok pairs :=
      ⟨_, by rw [mapM_pairOf, parsed]; rfl⟩
    obtain ⟨durations, lengths⟩ := durations_of_mapM_pairOf parsed built
    have windows := (windows_perm_iff labelsBounded fits).mpr labelled
    rw [← durations, ← lengths] at windows
    rw [← lengths] at fits
    exact ⟨_, extractWorkingSetSizeWindows_eq_ok.mpr ⟨mf, pairs, found, gauge, nonempty, built,
      (sorted_eq_windowDurations_iff fits).mpr windows, rfl⟩⟩

/-- The `i`-th sorted window of an accepted gauge is `i+1` minutes. -/
theorem sorted_duration_eq {pairs : List (Pair F)}
    (windows : (sortByDuration pairs).map (·.duration) = windowDurations pairs.length) {i : Nat}
    (lt : i < (sortByDuration pairs).length) :
    (sortByDuration pairs)[i].duration = minute * Int64.ofNat (i + 1) := by
  have atI := congrArg (·[i]?) windows
  simp only [List.getElem?_map, windowDurations] at atI
  rw [List.getElem?_eq_getElem lt, List.getElem?_range' (by simpa [length_sortByDuration] using lt)]
    at atI
  simpa [Nat.add_comm] using atI

/-- With no label past `maxSeconds`, the values returned are one for each metric, the `i`-th the
value of a metric labelled `60 (i+1)`. -/
theorem extractWorkingSetSizeWindows_values [Zero F] {mfs : String → Option (MetricFamily F)}
    {mf : MetricFamily F} {values : List F} (found : mfs windowsMetricName = some mf)
    (bounded : ∀ m ∈ mf.metric, ∀ s, labelSeconds m = .ok s → |s.toInt| ≤ maxSeconds)
    (extracted : extractWorkingSetSizeWindows mfs = .ok values) :
    values.length = mf.metric.length ∧ ∀ i (lt : i < values.length), ∃ m ∈ mf.metric,
      labelSeconds m = .ok (Int64.ofNat (60 * (i + 1))) ∧ values[i] = m.gauge.getD 0 := by
  obtain ⟨mf', pairs, found', -, -, built, windows, rfl⟩ :=
    extractWorkingSetSizeWindows_eq_ok.mp extracted
  obtain rfl : mf' = mf := Option.some.inj (found'.symm.trans found)
  have lengths := (mapM_eq_ok built).length_eq
  have fits : pairs.length ≤ maxWindows :=
    le_maxWindows_of_sorted (windows ▸ sortByDuration_sorted pairs)
  refine ⟨by simp [length_sortByDuration, lengths], fun i lt => ?_⟩
  have iSorted : i < (sortByDuration pairs).length := by simpa using lt
  -- the `i`-th sorted pair was built from some metric, with a window of `i+1` minutes
  obtain ⟨m, inMetrics, builtPair⟩ := mem_of_mapM_eq_ok built
    ((sortByDuration_perm pairs).mem_iff.mp (List.getElem_mem iSorted))
  obtain ⟨s, labelled, returned⟩ := bind_eq_ok.mp builtPair
  have pairEq := pure_eq_ok.mp returned
  have window := sorted_duration_eq windows iSorted
  rw [← pairEq] at window
  -- dividing out `time.Second`, the label is `60 (i+1)`
  have iFits : i + 1 ≤ maxWindows := by rw [length_sortByDuration] at iSorted; omega
  have seconds : s.toInt = 60 * (i + 1 : Nat) := by
    have scaled := congrArg Int64.toInt window
    rw [toInt_second_mul (bounded m inMetrics s labelled), toInt_minute_mul iFits] at scaled
    omega
  refine ⟨m, inMetrics, ?_, ?_⟩
  · rw [labelled]
    congr 1
    rw [← Int64.toInt_inj, seconds, toInt_ofNat_of_lt (by unfold maxWindows at iFits; omega)]
    push_cast
    rfl
  · rw [List.getElem_map, ← pairEq]

end Windows

/-! ### A label that wraps -/

/-- A gauge of one metric, labelled `2^55 + 60` seconds, of value `7`. -/
def wrappedWindowsFamily : MetricFamily Nat :=
  ⟨some .gauge, [⟨[⟨"duration_seconds", "36028797018964028"⟩], some 7⟩]⟩

def wrappedWindows (name : String) : Option (MetricFamily Nat) :=
  if name = windowsMetricName then some wrappedWindowsFamily else none

/-- `time.Second * time.Duration(2^55 + 60)` wraps to one minute, so the gauge is accepted as the
one-minute window, though its one label is not `60`. -/
theorem extractWorkingSetSizeWindows_accepts_wrapped_label :
    extractWorkingSetSizeWindows wrappedWindows = .ok [7] ∧
      wrappedWindowsFamily.metric.mapM labelSeconds = .ok [36028797018964028] ∧
      ¬ ([(36028797018964028 : Int64)].map Int64.toInt).Perm (windowLabels 1) := by
  decide +kernel

end Autoscaling.Agent.Core
