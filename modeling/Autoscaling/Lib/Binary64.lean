import Mathlib

/-!
# Binary64 rounding over the rationals

A finite binary64 value is a rational number: a significand of at most 53 bits scaled by a power
of two, the power being at least `2^-1074`. An operation of IEEE 754 computes the exact result
and rounds it to the nearest such value, ties to the one whose significand is even. Here a
binary64 value is the rational it denotes, so that an operation is an exact rational operation
followed by `round`. Overflow to infinity is not modelled: the values rounded stay far below
`2^1024`.

The lemmas bound a rounded value by the powers of two around the exact one (rounding never
leaves the binade's bounds, which are binary64 values), and show that an integer of at most 53
bits converts exactly.
-/

namespace Binary64

/-! ### Rounding to an integer -/

/-- The integer nearest to `x`, ties to the even one. -/
def roundHalfEven (x : ℚ) : ℤ :=
  let n := ⌊x⌋
  if x - n < 1 / 2 then n
  else if 1 / 2 < x - n then n + 1
  else if n % 2 = 0 then n else n + 1

theorem floor_le_roundHalfEven (x : ℚ) : ⌊x⌋ ≤ roundHalfEven x := by
  unfold roundHalfEven
  dsimp only
  split_ifs <;> omega

theorem roundHalfEven_le_floor_add_one (x : ℚ) : roundHalfEven x ≤ ⌊x⌋ + 1 := by
  unfold roundHalfEven
  dsimp only
  split_ifs <;> omega

theorem le_roundHalfEven {n : ℤ} {x : ℚ} (below : (n : ℚ) ≤ x) : n ≤ roundHalfEven x :=
  (Int.le_floor.mpr below).trans (floor_le_roundHalfEven x)

theorem roundHalfEven_le {n : ℤ} {x : ℚ} (above : x ≤ n) : roundHalfEven x ≤ n := by
  rcases (Int.floor_le_floor above).trans_eq (Int.floor_intCast n) |>.lt_or_eq with lower | same
  · -- the floor is below `n`, and rounding goes up by at most one
    have := roundHalfEven_le_floor_add_one x
    omega
  · -- `x` is `n` itself, which rounds to itself
    have exact : x = n := le_antisymm above (by simpa [same] using Int.floor_le x)
    subst exact
    simp [roundHalfEven]

@[simp] theorem roundHalfEven_intCast (n : ℤ) : roundHalfEven n = n :=
  le_antisymm (roundHalfEven_le le_rfl) (le_roundHalfEven le_rfl)

/-! ### Rounding to binary64 -/

/-- The exponent of the last place of the binary64 values in the binade of `x`: 52 places below
its leading bit, and never below the last place of the subnormals. -/
def ulpExponent (x : ℚ) : ℤ := max (Int.log 2 |x|) (-1022) - 52

/-- `x` rounded to the nearest binary64 value, ties to even. -/
def round (x : ℚ) : ℚ := roundHalfEven (x / 2 ^ ulpExponent x) * 2 ^ ulpExponent x

/-- `float64(n)` for an integer `n`. -/
def ofInt (n : ℤ) : ℚ := round n

/-- `x * y` on binary64 values. -/
def mul (x y : ℚ) : ℚ := round (x * y)

/-- The integer part of `x`, its fraction discarded towards zero. -/
def trunc (x : ℚ) : ℤ := if 0 ≤ x then ⌊x⌋ else ⌈x⌉

theorem intCast_two_pow_mul (m : ℕ) (u : ℤ) : ((2 ^ m : ℤ) : ℚ) * 2 ^ u = 2 ^ (m + u) := by
  rw [zpow_add₀ two_ne_zero, zpow_natCast]
  push_cast
  rfl

theorem log_lt_of_lt {x : ℚ} {k : ℤ} (pos : 0 < x) (below : x < 2 ^ k) : Int.log 2 x < k := by
  by_contra atLeast
  have := (Int.zpow_le_iff_le_log (b := 2) (by norm_num) pos).mpr (not_lt.mp atLeast)
  push_cast at this
  linarith

theorem le_log_of_le {x : ℚ} {k : ℤ} (above : 2 ^ k ≤ x) : k ≤ Int.log 2 x :=
  (Int.zpow_le_iff_le_log (b := 2) (by norm_num) (lt_of_lt_of_le (by positivity) above)).mp
    (by exact_mod_cast above)

/-- Rounding `x` in a binade whose last place is at least one keeps an integer multiple of
that place. -/
theorem round_of_scaled {x : ℚ} {k : ℕ} (place : ulpExponent x = -k) :
    round x = roundHalfEven (x * 2 ^ k) * (2 ^ k)⁻¹ := by
  rw [round, place, zpow_neg, zpow_natCast, div_inv_eq_mul]

/-- An integer of at most 53 bits converts exactly. -/
theorem round_intCast {n : ℤ} (small : |n| < 2 ^ 53) : round n = n := by
  -- the last place of the binade of `n` is at most one
  have atMost : ulpExponent n ≤ 0 := by
    unfold ulpExponent
    rcases eq_or_ne n 0 with rfl | nonzero
    · simp
    · have bits : Int.log 2 |(n : ℚ)| < 53 :=
        log_lt_of_lt (by positivity) (by exact_mod_cast small)
      omega
  obtain ⟨k, place⟩ : ∃ k : ℕ, ulpExponent n = -k := ⟨(-ulpExponent n).toNat, by omega⟩
  have scaled : (n : ℚ) * 2 ^ k = ((n * 2 ^ k : ℤ) : ℚ) := by push_cast; rfl
  rw [round_of_scaled place, scaled, roundHalfEven_intCast]
  push_cast
  field_simp

/-- A value of at least `2^k` rounds to at least `2^k`: the binade's least value is a binary64
value. -/
theorem le_round {x : ℚ} {k : ℤ} (normal : -1022 ≤ k) (above : 2 ^ k ≤ x) : 2 ^ k ≤ round x := by
  have pos : 0 < x := lt_of_lt_of_le (by positivity) above
  set e := Int.log 2 x with he
  have ke : k ≤ e := le_log_of_le above
  have place : ulpExponent x = e - 52 := by
    rw [ulpExponent, abs_of_pos pos, ← he]
    omega
  have leading : (2 : ℚ) ^ e ≤ x := by
    simpa using Int.zpow_log_le_self (b := 2) (by norm_num) pos
  -- the significand of `x` is at least `2^52`, and rounding keeps it so
  have significand : ((2 ^ 52 : ℤ) : ℚ) ≤ x / 2 ^ (e - 52) := by
    rw [le_div_iff₀ (by positivity)]
    calc ((2 ^ 52 : ℤ) : ℚ) * 2 ^ (e - 52) = 2 ^ e := by
          rw [intCast_two_pow_mul]
          congr 1
          omega
      _ ≤ x := leading
  have rounded := le_roundHalfEven significand
  calc (2 : ℚ) ^ k ≤ 2 ^ e := zpow_le_zpow_right₀ (by norm_num) ke
    _ = ((2 ^ 52 : ℤ) : ℚ) * 2 ^ (e - 52) := by
          rw [intCast_two_pow_mul]
          congr 1
          omega
    _ ≤ roundHalfEven (x / 2 ^ (e - 52)) * 2 ^ (e - 52) := by
          gcongr
    _ = round x := by rw [round, place]

/-- A positive value of at most `2^k` rounds to at most `2^k`. -/
theorem round_le {x : ℚ} {k : ℤ} (normal : -1022 ≤ k) (pos : 0 < x) (below : x ≤ 2 ^ k) :
    round x ≤ 2 ^ k := by
  have ek : Int.log 2 x ≤ k := by
    have := Int.log_mono_right (b := 2) pos below
    rwa [show ((2 : ℚ) ^ k) = ((2 : ℕ) : ℚ) ^ k by norm_num,
      Int.log_zpow (by norm_num)] at this
  set u := ulpExponent x with hu
  have gap : u ≤ k - 52 := by
    rw [hu, ulpExponent, abs_of_pos pos]
    omega
  obtain ⟨d, hd⟩ : ∃ d : ℕ, k - u = d := ⟨(k - u).toNat, by omega⟩
  have power : (2 : ℚ) ^ k = ((2 ^ d : ℤ) : ℚ) * 2 ^ u := by
    rw [intCast_two_pow_mul, ← hd]
    congr 1
    omega
  -- the significand of `x` is at most `2^(k - u)`, an integer, and rounding keeps it so
  have significand : x / 2 ^ u ≤ ((2 ^ d : ℤ) : ℚ) := by
    rw [div_le_iff₀ (by positivity), ← power]
    exact below
  have rounded := roundHalfEven_le significand
  rw [power, round, ← hu]
  gcongr

end Binary64
