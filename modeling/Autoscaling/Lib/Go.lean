import Mathlib
import Autoscaling.Lib.Binary64

/-!
# Go's integers, `time.Duration`, `time.Time` and slice indexing

A `time.Duration` is an `int64` count of nanoseconds, and arithmetic on it wraps like any other
`int64`. A `time.Time` is modelled by its offset in nanoseconds from a fixed origin, as an
unbounded `Int` (the model's fields of type `time.Time` are plain `Int`s, so that `omega` sees
them): Go's instants range over far more than an `int64` of nanoseconds, and `Time.Sub`
saturates at the bounds of `Duration` rather than wrapping.

A panic is modelled as `Except.error` carrying the panic's message; indexing or slicing a slice
out of its bounds, dereferencing a nil pointer and dividing an integer by zero are such panics.

The lemmas say when `int64` arithmetic agrees with integer arithmetic, and how the sign of a
saturated difference follows the order of the two instants, which is all that deadline
comparisons of the form `deadline.Sub(now) > 0` need.
-/

namespace Go

/-- Go's `time.Duration`. -/
abbrev Duration := Int64

/-- The largest `time.Duration`. -/
def maxDuration : Duration := Int64.maxValue

/-- The smallest `time.Duration`. -/
def minDuration : Duration := Int64.minValue

/-- `t.Sub(u)`: the duration `t - u`, saturated to the range of `Duration`. -/
def Time.sub (t u : Int) : Duration :=
  if (2 : Int) ^ 63 - 1 < t - u then maxDuration
  else if t - u < -(2 : Int) ^ 63 then minDuration
  else Int64.ofInt (t - u)

/-- `t.Add(d)`. -/
def Time.add (t : Int) (d : Duration) : Int := t + d.toInt

/-- `t.Before(u)`. -/
def Time.before (t u : Int) : Bool := decide (t < u)

/-- `t.After(u)`. -/
def Time.after (t u : Int) : Bool := decide (u < t)

example : Time.sub 5 3 = 2 := by decide
example : Time.sub (2 ^ 70) 0 = maxDuration := by decide

/-- `time.Second` and `time.Minute`. -/
def second : Duration := 1000000000

def minute : Duration := 60000000000

/-! ### Pointers -/

/-- The message of Go's panic on dereferencing a nil pointer. -/
def nilPointerDereference : String :=
  "runtime error: invalid memory address or nil pointer dereference"

/-- `*p` for a pointer `p`, modelled as an `Option`. -/
def deref {α : Type} : Option α → Except String α
  | some x => .ok x
  | none => .error nilPointerDereference

@[simp] theorem deref_some {α : Type} (x : α) : deref (some x) = .ok x := rfl

@[simp] theorem deref_eq_ok {α : Type} {p : Option α} {x : α} : deref p = .ok x ↔ p = some x := by
  cases p <;> simp [deref]

/-- A computation that does not panic runs each of its steps without panicking. -/
theorem bind_eq_ok {ε α β : Type} {x : Except ε α} {f : α → Except ε β} {b : β} :
    x >>= f = .ok b ↔ ∃ a, x = .ok a ∧ f a = .ok b := by
  cases x with
  | error e => simp [bind, Except.bind]
  | ok a => simp [bind, Except.bind]

/-- A computation panics with the panic of its first step that panics. -/
theorem bind_eq_error {ε α β : Type} {x : Except ε α} {f : α → Except ε β} {e : ε} :
    x >>= f = .error e ↔ x = .error e ∨ ∃ a, x = .ok a ∧ f a = .error e := by
  cases x with
  | error e' => simp [bind, Except.bind]
  | ok a => simp [bind, Except.bind]

theorem map_eq_ok {ε α β : Type} {x : Except ε α} {f : α → β} {b : β} :
    f <$> x = .ok b ↔ ∃ a, x = .ok a ∧ f a = b := by
  cases x with
  | error e => simp [Functor.map, Except.map]
  | ok a => simp [Functor.map, Except.map]

@[simp] theorem ok_bind {ε α β : Type} (a : α) (f : α → Except ε β) :
    ((Except.ok a : Except ε α) >>= f) = f a := rfl

@[simp] theorem throw_bind {ε α β : Type} (e : ε) (f : α → Except ε β) :
    (throw e >>= f) = .error e := rfl

@[simp] theorem map_throw {ε α β : Type} (e : ε) (f : α → β) :
    (f <$> throw e : Except ε β) = .error e := rfl

@[simp] theorem pure_eq_ok {ε α : Type} {a b : α} : (pure a : Except ε α) = .ok b ↔ a = b := by
  simp [pure, Except.pure]

/-- A loop over a slice that does not panic runs its body on each element without panicking. -/
theorem mapM_eq_ok {ε α β : Type} {f : α → Except ε β} {xs : List α} {ys : List β}
    (mapped : xs.mapM f = .ok ys) : List.Forall₂ (fun x y => f x = .ok y) xs ys := by
  induction xs generalizing ys with
  | nil =>
    rw [List.mapM_nil, pure_eq_ok] at mapped
    exact mapped ▸ .nil
  | cons x rest ih =>
    rw [List.mapM_cons] at mapped
    obtain ⟨y, first, mapped⟩ := bind_eq_ok.mp mapped
    obtain ⟨ys', others, done⟩ := bind_eq_ok.mp mapped
    rw [pure_eq_ok] at done
    exact done ▸ .cons first (ih others)

/-- Each result of such a loop is what the body returned on one of the elements. -/
theorem mem_of_mapM_eq_ok {ε α β : Type} {f : α → Except ε β} {xs : List α} {ys : List β}
    (mapped : xs.mapM f = .ok ys) {y : β} (member : y ∈ ys) : ∃ x ∈ xs, f x = .ok y := by
  have related := mapM_eq_ok mapped
  clear mapped
  induction related with
  | nil => cases member
  | @cons x y' _ _ first _ ih =>
    rcases List.mem_cons.mp member with rfl | member
    · exact ⟨x, List.mem_cons_self .., first⟩
    · obtain ⟨x', found, returned⟩ := ih member
      exact ⟨x', List.mem_cons_of_mem _ found, returned⟩

/-! ### Two computations that agree -/

/-- Two computations agree up to `R` when both panic with the same message, or both return, with
results related by `R`. -/
def Agree {ε α β : Type} (R : α → β → Prop) : Except ε α → Except ε β → Prop
  | .error e, .error e' => e = e'
  | .ok a, .ok b => R a b
  | _, _ => False

section Agree

variable {ε α β γ δ : Type} {R R' : α → β → Prop} {S : γ → δ → Prop}
  {x : Except ε α} {y : Except ε β}

theorem Agree.pure {a : α} {b : β} (related : R a b) :
    Agree R (Pure.pure a : Except ε α) (Pure.pure b) :=
  related

theorem Agree.throw (e : ε) : Agree R (throw e : Except ε α) (throw e : Except ε β) := rfl

theorem Agree.refl (x : Except ε α) : Agree (· = ·) x x := by
  cases x <;> rfl

/-- Agreeing steps followed by steps that agree on related results agree. -/
theorem Agree.bind {f : α → Except ε γ} {g : β → Except ε δ} (first : Agree R x y)
    (rest : ∀ a b, R a b → Agree S (f a) (g b)) : Agree S (x >>= f) (y >>= g) := by
  cases x with
  | error e =>
    cases y with
    | error e' => exact first
    | ok b => exact first.elim
  | ok a =>
    cases y with
    | error e' => exact first.elim
    | ok b => exact rest a b first

theorem Agree.map {f : α → γ} {g : β → δ} (first : Agree R x y)
    (rest : ∀ a b, R a b → S (f a) (g b)) : Agree S (f <$> x) (g <$> y) := by
  cases x with
  | error e =>
    cases y with
    | error e' => exact first
    | ok b => exact first.elim
  | ok a =>
    cases y with
    | error e' => exact first.elim
    | ok b => exact rest a b first

theorem Agree.error_iff (agree : Agree R x y) {e : ε} : x = .error e ↔ y = .error e := by
  cases x with
  | error e₁ =>
    cases y with
    | error e₂ =>
      cases (agree : e₁ = e₂)
      simp
    | ok b => exact agree.elim
  | ok a =>
    cases y with
    | error e₂ => exact agree.elim
    | ok b => simp

theorem Agree.exists_of_ok (agree : Agree R x y) {a : α} (ran : x = .ok a) :
    ∃ b, y = .ok b ∧ R a b := by
  subst ran
  cases y with
  | error e => exact agree.elim
  | ok b => exact ⟨b, rfl, agree⟩

end Agree

/-! ### Maps -/

/-- A Go `map[K]V`, as the list of its entries in the order a `range` over it visits them. Go
leaves that order unspecified; results about the model hold for every order. -/
abbrev GoMap (K V : Type) := AList (fun _ : K => V)

namespace GoMap

variable {K V : Type} [DecidableEq K]

/-- `len(m)`. -/
def len (m : GoMap K V) : Nat := m.keys.length

theorem len_insert (m : GoMap K V) (k : K) (v : V) :
    len (m.insert k v) = if k ∈ m then len m else len m + 1 := by
  unfold len
  rw [AList.keys_insert, List.length_cons]
  split
  next present =>
    have listed := AList.mem_keys.mp present
    have := List.length_pos_of_mem listed
    rw [List.length_erase_of_mem listed]
    omega
  next absent => rw [List.erase_of_not_mem (fun listed => absent (AList.mem_keys.mpr listed))]

theorem len_erase (m : GoMap K V) (k : K) :
    len (m.erase k) = if k ∈ m then len m - 1 else len m := by
  unfold len
  rw [AList.keys_erase]
  split
  next present => exact List.length_erase_of_mem (AList.mem_keys.mp present)
  next absent => rw [List.erase_of_not_mem (fun listed => absent (AList.mem_keys.mpr listed))]

/-- Replacing the value under a key changes a sum over the entries by the two values. -/
theorem sum_insert_of_lookup {M : Type} [AddCommMonoid M] (weight : K → V → M) {m : GoMap K V}
    {k : K} {v : V} (found : m.lookup k = some v) (v' : V) :
    ((m.insert k v').entries.map fun e => weight e.1 e.2).sum + weight k v =
      (m.entries.map fun e => weight e.1 e.2).sum + weight k v' := by
  have present : k ∈ m.entries.keys :=
    AList.mem_keys.mp (AList.lookup_isSome.mp (by simp [found]))
  obtain ⟨old, before, after, -, decomposed, erased⟩ := List.exists_of_kerase present
  -- the entry the key splits the list at holds the value the lookup gives
  have same : old = v := by
    have listed : (⟨k, old⟩ : Sigma fun _ : K => V) ∈ m.entries := by
      rw [decomposed]
      simp
    have := AList.mem_lookup_iff.mpr listed
    rw [found, Option.mem_def, Option.some.injEq] at this
    exact this.symm
  subst same
  rw [AList.entries_insert, erased, decomposed]
  simp only [List.map_cons, List.map_append, List.sum_cons, List.sum_append]
  abel

end GoMap

/-! ### Integer division and unsigned integers

An unsigned type of `w` bits is `BitVec w`, whose arithmetic wraps as Go's does. -/

/-- The message of Go's panic on an integer division by zero. -/
def integerDivideByZero : String := "runtime error: integer divide by zero"

/-- `x / y` on integers, which panics when `y` is zero. On `Int64`, Lean's `/` truncates towards
zero and wraps `minValue / -1`, as Go's does. -/
def div {α : Type} [Div α] [Zero α] [DecidableEq α] (x y : α) : Except String α :=
  if y = 0 then .error integerDivideByZero else .ok (x / y)

/-- `util.SaturatingSub(x, y)`: `x - y`, or zero where that would wrap. -/
def saturatingSub {α : Type} [LE α] [DecidableLE α] [Sub α] [Zero α] (x y : α) : α :=
  if y ≤ x then x - y else 0

theorem div_of_ne_zero {α : Type} [Div α] [Zero α] [DecidableEq α] (x : α) {y : α}
    (nonzero : y ≠ 0) : div x y = .ok (x / y) := by
  simp [div, nonzero]

theorem div_eq_ok {α : Type} [Div α] [Zero α] [DecidableEq α] {x y q : α} :
    div x y = .ok q ↔ y ≠ 0 ∧ q = x / y := by
  unfold div
  split
  next zero => simp [zero]
  next nonzero => simp [nonzero, eq_comm]

/-- `int64(x)` for an unsigned `x`: its value, wrapped into `int64`. -/
def toInt64 {w : Nat} (x : BitVec w) : Int64 := Int64.ofNat x.toNat

/-- `T(x)` for an `int64` `x` and the unsigned `T` of `w` bits: the low `w` bits of `x`. -/
def ofInt64 (w : Nat) (x : Int64) : BitVec w := BitVec.ofInt w x.toInt

/-- The value of a sum of unsigned integers is the sum of their values, wrapped. -/
theorem toNat_sum {α : Type} {w : Nat} (l : List α) (f : α → BitVec w) :
    (l.map f).sum.toNat = (l.map fun a => (f a).toNat).sum % 2 ^ w := by
  induction l with
  | nil => simp
  | cons a rest ih => simp [BitVec.toNat_add, ih, Nat.add_mod_mod]

/-! ### Slices -/

/-- The message of Go's panic on an index or slice bound out of range. -/
def indexOutOfRange : String := "runtime error: index out of range"

/-- `xs[i]` for an `int64` index `i`. -/
def index {α : Type} (xs : List α) (i : Int64) : Except String α :=
  match xs[i.toInt.toNat]? with
  | some x => if 0 ≤ i.toInt then .ok x else .error indexOutOfRange
  | none => .error indexOutOfRange

/-- `xs[low:]` for an `int64` bound `low`. -/
def sliceFrom {α : Type} (xs : List α) (low : Int64) : Except String (List α) :=
  if 0 ≤ low.toInt ∧ low.toInt ≤ xs.length then .ok (xs.drop low.toInt.toNat)
  else .error indexOutOfRange

theorem index_of_range {α : Type} {xs : List α} {i : Int64} (lo : 0 ≤ i.toInt)
    (hi : i.toInt.toNat < xs.length) : index xs i = .ok xs[i.toInt.toNat] := by
  unfold index
  rw [List.getElem?_eq_getElem hi]
  simp [lo]

/-- `xs[len(xs)-1]` of a non-empty slice. -/
theorem index_last_ok {α : Type} {xs : List α} (nonempty : 0 < xs.length)
    (fits : xs.length < 2 ^ 63) : ∃ x, index xs (Int64.ofNat xs.length - 1) = .ok x := by
  have lenInt : (Int64.ofNat xs.length).toInt = xs.length := by
    rw [Int64.toInt_ofNat']
    exact Int.bmod_eq_of_le (by omega) (by simp [Int64.size]; omega)
  have lastInt : (Int64.ofNat xs.length - 1).toInt = xs.length - 1 := by
    rw [Int64.toInt_sub, lenInt]
    exact Int.bmod_eq_of_le (by simp; omega) (by simp; omega)
  exact ⟨_, index_of_range (by omega) (by omega)⟩

theorem index_of_neg {α : Type} {xs : List α} {i : Int64} (neg : i.toInt < 0) :
    index xs i = .error indexOutOfRange := by
  unfold index
  split <;> simp_all [Int.not_le.mpr neg]

/-- What a successful index tells about the index. -/
theorem index_eq_ok {α : Type} {xs : List α} {i : Int64} {x : α} (h : index xs i = .ok x) :
    ∃ inRange : i.toInt.toNat < xs.length, 0 ≤ i.toInt ∧ x = xs[i.toInt.toNat] := by
  unfold index at h
  split at h
  next found =>
    split at h
    next nonneg =>
      obtain ⟨inRange, rfl⟩ := List.getElem?_eq_some_iff.mp found
      cases h
      exact ⟨inRange, nonneg, rfl⟩
    next => cases h
  next => cases h

theorem sliceFrom_eq_ok {α : Type} {xs ys : List α} {low : Int64}
    (h : sliceFrom xs low = .ok ys) :
    0 ≤ low.toInt ∧ low.toInt ≤ xs.length ∧ ys = xs.drop low.toInt.toNat := by
  unfold sliceFrom at h
  split at h
  next inRange =>
    cases h
    exact ⟨inRange.1, inRange.2, rfl⟩
  next => cases h

theorem sliceFrom_of_range {α : Type} {xs : List α} {low : Int64} (lo : 0 ≤ low.toInt)
    (hi : low.toInt ≤ xs.length) : sliceFrom xs low = .ok (xs.drop low.toInt.toNat) := by
  simp [sliceFrom, lo, hi]

/-- `xs[:high]` for an `int64` bound `high`, on a slice whose capacity is its length. -/
def sliceTo {α : Type} (xs : List α) (high : Int64) : Except String (List α) :=
  if 0 ≤ high.toInt ∧ high.toInt ≤ xs.length then .ok (xs.take high.toInt.toNat)
  else .error indexOutOfRange

theorem sliceTo_of_range {α : Type} {xs : List α} {high : Int64} (lo : 0 ≤ high.toInt)
    (hi : high.toInt ≤ xs.length) : sliceTo xs high = .ok (xs.take high.toInt.toNat) := by
  simp [sliceTo, lo, hi]

/-! ### `int64` arithmetic without overflow -/

theorem toInt_add_of_range {a b : Int64} (lo : -2 ^ 63 ≤ a.toInt + b.toInt)
    (hi : a.toInt + b.toInt < 2 ^ 63) : (a + b).toInt = a.toInt + b.toInt := by
  rw [Int64.toInt_add]
  exact Int.bmod_eq_of_le (by omega) (by omega)

theorem toInt_sub_of_range {a b : Int64} (lo : -2 ^ 63 ≤ a.toInt - b.toInt)
    (hi : a.toInt - b.toInt < 2 ^ 63) : (a - b).toInt = a.toInt - b.toInt := by
  rw [Int64.toInt_sub]
  exact Int.bmod_eq_of_le (by omega) (by omega)

/-- Adding one to a non-negative `int64` wraps only at the maximum, to a negative value. -/
theorem toInt_add_one_of_nonneg {a : Int64} (nonneg : 0 ≤ a.toInt) (stays : 0 ≤ (a + 1).toInt) :
    (a + 1).toInt = a.toInt + 1 := by
  rcases Int.lt_or_le (a.toInt + 1) (2 ^ 63) with fits | wraps
  · exact toInt_add_of_range (by simp; omega) (by simpa using fits)
  · have top : a.toInt = 2 ^ 63 - 1 := by have := a.toInt_lt; omega
    rw [Int64.toInt_add, top, Int64.toInt_one] at stays
    exact absurd stays (by decide)

theorem toInt_ofNat_of_lt {n : Nat} (hn : n < 2 ^ 63) : (Int64.ofNat n).toInt = n := by
  rw [Int64.toInt_ofNat']
  exact Int.bmod_eq_of_le (by omega) (by simp [Int64.size]; omega)

theorem toInt_ofInt_of_range {n : Int} (lo : -2 ^ 63 ≤ n) (hi : n < 2 ^ 63) :
    (Int64.ofInt n).toInt = n :=
  Int64.toInt_ofInt_of_le lo hi

theorem toInt_range (a : Int64) : -2 ^ 63 ≤ a.toInt ∧ a.toInt < 2 ^ 63 :=
  ⟨a.le_toInt, a.toInt_lt⟩

theorem toInt_mul_of_range {a b : Int64} (lo : -2 ^ 63 ≤ a.toInt * b.toInt)
    (hi : a.toInt * b.toInt < 2 ^ 63) : (a * b).toInt = a.toInt * b.toInt := by
  rw [Int64.toInt_mul]
  exact Int.bmod_eq_of_le (by omega) (by omega)

theorem toInt_min (a b : Int64) : (min a b).toInt = min a.toInt b.toInt := by
  show (if a ≤ b then a else b).toInt = _
  split
  next le =>
    rw [Int64.le_iff_toInt_le] at le
    omega
  next gt =>
    rw [Int64.le_iff_toInt_le] at gt
    omega

theorem toInt_max (a b : Int64) : (max a b).toInt = max a.toInt b.toInt := by
  show (if a ≤ b then b else a).toInt = _
  split
  next le =>
    rw [Int64.le_iff_toInt_le] at le
    omega
  next gt =>
    rw [Int64.le_iff_toInt_le] at gt
    omega

/-- A positive countdown `a - b` goes down exactly by what `b` grows, while that is less than the
countdown, even if computing it wrapped around. -/
theorem toInt_sub_countdown {a b b' : Int64} (grow : b.toInt ≤ b'.toInt)
    (less : b'.toInt - b.toInt < (a - b).toInt) :
    (a - b').toInt = (a - b).toInt - (b'.toInt - b.toInt) := by
  have regroup : a - b' = (a - b) - (b' - b) := by grind
  have below := (a - b).toInt_lt
  have gap : (b' - b).toInt = b'.toInt - b.toInt := toInt_sub_of_range (by omega) (by omega)
  rw [regroup, toInt_sub_of_range (by omega) (by omega), gap]

@[simp] theorem toInt_maxDuration : maxDuration.toInt = 2 ^ 63 - 1 := by decide

theorem pos_min {a b : Int64} (left : 0 < a) (right : 0 < b) : 0 < min a b := by
  rw [Int64.lt_iff_toInt_lt, toInt_min]
  rw [Int64.lt_iff_toInt_lt] at left right
  exact lt_min left right

/-! ### Conversions from floating point

A `float64` is the rational it denotes, as in `Binary64`. -/

/-- `int64(x)` for a `float64` `x`: its integer part, where that fits; where it does not, Go
leaves the result to the implementation, and on amd64 it is the smallest `int64`. -/
def int64OfFloat (x : ℚ) : Int64 :=
  let n := Binary64.trunc x
  if -2 ^ 63 ≤ n ∧ n < 2 ^ 63 then Int64.ofInt n else Int64.minValue

theorem toInt_int64OfFloat {x : ℚ} (nonneg : 0 ≤ x) (fits : x < 2 ^ 63) :
    (int64OfFloat x).toInt = ⌊x⌋ := by
  have lo : 0 ≤ ⌊x⌋ := Int.floor_nonneg.mpr nonneg
  have hi : ⌊x⌋ < 2 ^ 63 := Int.floor_lt.mpr (by exact_mod_cast fits)
  rw [int64OfFloat, Binary64.trunc, if_pos nonneg, if_pos ⟨by omega, hi⟩]
  exact toInt_ofInt_of_range (by omega) hi

/-! ### Saturated differences of instants -/

/-- The saturated difference as an integer: `t - u`, clamped to `[-2^63, 2^63 - 1]`. -/
theorem Time.toInt_sub (t u : Int) :
    (Time.sub t u).toInt = max (-2 ^ 63) (min (2 ^ 63 - 1) (t - u)) := by
  unfold Time.sub
  split
  next above => simp only [maxDuration, Int64.toInt_maxValue]; omega
  next notAbove =>
    split
    next below => simp only [minDuration, Int64.toInt_minValue]; omega
    next notBelow =>
      rw [toInt_ofInt_of_range (by omega) (by omega)]
      omega

/-- A deadline has not passed exactly when its saturated distance from now is positive. -/
theorem Time.sub_pos_iff (t u : Int) : 0 < Time.sub t u ↔ u < t := by
  rw [Int64.lt_iff_toInt_lt, Time.toInt_sub]
  simp only [Int64.toInt_zero]
  omega

theorem Time.sub_nonpos_iff (t u : Int) : Time.sub t u ≤ 0 ↔ t ≤ u := by
  rw [Int64.le_iff_toInt_le, Time.toInt_sub]
  simp only [Int64.toInt_zero]
  omega

/-- Going forward in time never increases the distance to a deadline. -/
theorem Time.sub_anti {t u u' : Int} (later : u ≤ u') :
    (Time.sub t u').toInt ≤ (Time.sub t u).toInt := by
  rw [Time.toInt_sub, Time.toInt_sub]
  omega

/-- A deadline not yet passed at `t` has not passed at any `t'` before `t` plus the time left. -/
theorem Time.sub_pos_of_later {deadline t t' : Int} (pending : 0 < Time.sub deadline t)
    (within : t' < t + (Time.sub deadline t).toInt) : 0 < Time.sub deadline t' := by
  rw [Time.sub_pos_iff] at pending ⊢
  rw [Time.toInt_sub] at within
  omega

/-- A deadline passed at `t` stays passed. -/
theorem Time.sub_nonpos_of_later {deadline t t' : Int} (passed : Time.sub deadline t ≤ 0)
    (later : t ≤ t') : Time.sub deadline t' ≤ 0 := by
  rw [Time.sub_nonpos_iff] at passed ⊢
  omega

theorem Time.toInt_sub_of_range {t u : Int} (lo : -2 ^ 63 ≤ t - u) (hi : t - u < 2 ^ 63) :
    (Time.sub t u).toInt = t - u := by
  rw [Time.toInt_sub]
  omega

/-- Against a duration above the least one, the saturation does not change a comparison. -/
theorem Time.sub_lt_iff {t u : Int} {d : Duration} (above : -2 ^ 63 < d.toInt) :
    Time.sub t u < d ↔ t - u < d.toInt := by
  rw [Int64.lt_iff_toInt_lt, Time.toInt_sub]
  have := toInt_range d
  omega

end Go
