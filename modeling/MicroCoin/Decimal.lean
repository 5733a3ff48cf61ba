import Mathlib.Algebra.Order.Field.Rat
import Mathlib.Algebra.Order.Field.Power
import Mathlib.Tactic.Ring

/-!
# `shopspring/decimal`

Every price, quantity and balance of the program is a `decimal.Decimal`
(`github.com/shopspring/decimal`): an arbitrary-precision integer `value` and an
exponent `exp`, standing for `value · 10^exp`. `Add`, `Sub` and `Cmp` first bring both
operands to the smaller exponent (`RescalePair`); `Mul` multiplies the values and adds
the exponents. None of them rounds.

`toRat` is the number a decimal stands for. Results:

* `toRat_add`, `toRat_sub`, `toRat_neg`, `toRat_mul`: the operations are exact.
* `cmp_eq_compare`, and from it `lessThan_iff`, `greaterThan_iff`,
  `lessThanOrEqual_iff`, `equal_iff`: comparisons compare the numbers, whatever the
  exponents.
* `toRat_min`: `decimal.Min` returns the smaller number.
* `toRat_canonical`: `canonical`, the form `String()` prints (trailing zeros trimmed),
  stands for the same number.

Exponents are unbounded integers here: `Mul`'s panic when the sum of two `int32`
exponents overflows is not modelled.
-/

namespace MicroCoin

/-- `decimal.Decimal`: the number `value · 10^exp`. -/
structure Decimal where
  value : ℤ
  exp : ℤ
  deriving DecidableEq, Repr, Inhabited

namespace Decimal

/-- The number a decimal stands for. -/
def toRat (d : Decimal) : ℚ := d.value * 10 ^ d.exp

/-- `decimal.Zero = New(0, 1)`. -/
def zero : Decimal := ⟨0, 1⟩

/-- `decimal.NewFromInt(v)`. -/
def ofInt (v : ℤ) : Decimal := ⟨v, 0⟩

instance (n : ℕ) : OfNat Decimal n := ⟨ofInt n⟩

/-- `d.rescale(e)` for `e ≤ d.exp`, the only direction `RescalePair` uses: the value
    that stands for `d` at exponent `e`. -/
def rescale (d : Decimal) (e : ℤ) : ℤ := d.value * 10 ^ (d.exp - e).toNat

/-- `d.Add(d2)`. -/
def add (a b : Decimal) : Decimal :=
  ⟨a.rescale (min a.exp b.exp) + b.rescale (min a.exp b.exp), min a.exp b.exp⟩

/-- `d.Sub(d2)`. -/
def sub (a b : Decimal) : Decimal :=
  ⟨a.rescale (min a.exp b.exp) - b.rescale (min a.exp b.exp), min a.exp b.exp⟩

/-- `d.Neg()`. -/
def neg (d : Decimal) : Decimal := ⟨-d.value, d.exp⟩

/-- `d.Mul(d2)`. -/
def mul (a b : Decimal) : Decimal := ⟨a.value * b.value, a.exp + b.exp⟩

/-- `d.Cmp(d2)`, as an `Ordering`. -/
def cmp (a b : Decimal) : Ordering :=
  compare (a.rescale (min a.exp b.exp)) (b.rescale (min a.exp b.exp))

/-- `d.LessThan(d2)`: `d.Cmp(d2) == -1`. -/
def lessThan (a b : Decimal) : Bool := a.cmp b = .lt

/-- `d.LessThanOrEqual(d2)`: `cmp == -1 || cmp == 0`. -/
def lessThanOrEqual (a b : Decimal) : Bool := a.cmp b = .lt || a.cmp b = .eq

/-- `d.GreaterThan(d2)`: `d.Cmp(d2) == 1`. -/
def greaterThan (a b : Decimal) : Bool := a.cmp b = .gt

/-- `d.Equal(d2)`: `d.Cmp(d2) == 0`. -/
def equal (a b : Decimal) : Bool := a.cmp b = .eq

/-- `d.IsZero()`: `d.Sign() == 0`. -/
def isZero (d : Decimal) : Bool := d.value == 0

/-- `decimal.Min(first, rest...)` on two arguments: `first` unless the second is
    smaller. -/
def min (a b : Decimal) : Decimal := if b.cmp a = .lt then b else a

/-- `d.Round(places)`, and PostgreSQL's rounding of a value stored in a `NUMERIC(p, places)`
    column: to `places` fractional digits, halves away from zero. -/
def round (d : Decimal) (places : ℕ) : Decimal :=
  if -(places : ℤ) ≤ d.exp then d
  else
    let k := (-(places : ℤ) - d.exp).toNat
    let q := d.value.natAbs / 10 ^ k + if 10 ^ k ≤ 2 * (d.value.natAbs % 10 ^ k) then 1 else 0
    ⟨d.value.sign * q, -(places : ℤ)⟩

/-- `d.Div(d2)` for `d2 ≠ 0`: `DivRound(d2, DivisionPrecision)` with
    `DivisionPrecision = 16`, the quotient rounded to 16 fractional digits, halves away
    from zero. -/
def div (a b : Decimal) : Decimal :=
  let n := a.exp - b.exp + 16
  let num := a.value.natAbs * 10 ^ n.toNat
  let den := b.value.natAbs * 10 ^ (-n).toNat
  let q := num / den + if den ≤ 2 * (num % den) then 1 else 0
  ⟨(a.value.sign * b.value.sign) * q, -16⟩

/-- Divide out trailing zeros of the value, at most `fuel` times. -/
def trimZeros : ℕ → ℤ → ℤ → Decimal
  | 0, v, e => ⟨v, e⟩
  | fuel + 1, v, e => if v ≠ 0 ∧ v % 10 = 0 then trimZeros fuel (v / 10) (e + 1) else ⟨v, e⟩

/-- The decimal `d.String()` prints: `String()` trims trailing zeros, so the text depends
    only on the number `d` stands for. A value has fewer than `|value|` trailing zeros. -/
def canonical (d : Decimal) : Decimal :=
  if d.value = 0 then ⟨0, 0⟩ else trimZeros d.value.natAbs d.value d.exp

/-! ## The number a decimal stands for -/

theorem ten_zpow_pos (e : ℤ) : (0 : ℚ) < 10 ^ e := zpow_pos (by norm_num) e

theorem rescale_mul_zpow {d : Decimal} {e : ℤ} (h : e ≤ d.exp) :
    (d.rescale e : ℚ) * 10 ^ e = d.toRat := by
  have hn : ((d.exp - e).toNat : ℤ) + e = d.exp := by omega
  simp only [rescale, toRat]
  push_cast
  rw [mul_assoc, ← zpow_natCast, ← zpow_add₀ (by norm_num : (10 : ℚ) ≠ 0), hn]

@[simp] theorem toRat_zero : zero.toRat = 0 := by simp [zero, toRat]

@[simp] theorem toRat_ofInt (v : ℤ) : (ofInt v).toRat = v := by simp [ofInt, toRat]

@[simp] theorem toRat_ofNat (n : ℕ) : (OfNat.ofNat n : Decimal).toRat = n := toRat_ofInt n

@[simp] theorem toRat_add (a b : Decimal) : (a.add b).toRat = a.toRat + b.toRat := by
  rw [← rescale_mul_zpow (min_le_left a.exp b.exp), ← rescale_mul_zpow (min_le_right a.exp b.exp)]
  simp only [add, toRat, Int.cast_add, add_mul]

@[simp] theorem toRat_sub (a b : Decimal) : (a.sub b).toRat = a.toRat - b.toRat := by
  rw [← rescale_mul_zpow (min_le_left a.exp b.exp), ← rescale_mul_zpow (min_le_right a.exp b.exp)]
  simp only [sub, toRat, Int.cast_sub, sub_mul]

@[simp] theorem toRat_neg (d : Decimal) : d.neg.toRat = -d.toRat := by simp [neg, toRat]

@[simp] theorem toRat_mul (a b : Decimal) : (a.mul b).toRat = a.toRat * b.toRat := by
  simp only [mul, toRat, Int.cast_mul, zpow_add₀ (by norm_num : (10 : ℚ) ≠ 0)]
  ring

/-- A decimal stands for a non-negative number exactly when its value is non-negative. -/
theorem toRat_nonneg_iff {d : Decimal} : 0 ≤ d.toRat ↔ 0 ≤ d.value := by
  rw [toRat, mul_nonneg_iff_of_pos_right (ten_zpow_pos _), Int.cast_nonneg]

/-- Rounding keeps the sign of the value. -/
theorem round_value_nonneg {d : Decimal} (places : ℕ) (h : 0 ≤ d.value) :
    0 ≤ (d.round places).value := by
  unfold round
  split
  · exact h
  · exact mul_nonneg (Int.sign_nonneg.2 h) (Int.natCast_nonneg _)

/-- Rounding halves away from zero commutes with negation. -/
theorem round_neg (d : Decimal) (places : ℕ) : d.neg.round places = (d.round places).neg := by
  unfold round neg
  split_ifs <;> simp [Int.sign_neg]

/-- A rounded decimal has at most `places` fractional digits. -/
theorem le_round_exp (d : Decimal) (places : ℕ) : -(places : ℤ) ≤ (d.round places).exp := by
  unfold round
  split_ifs with h
  · exact h
  · exact le_rfl

/-! ## Comparisons -/

theorem compare_mul_pos {x y : ℤ} {c : ℚ} (hc : 0 < c) :
    compare ((x : ℚ) * c) ((y : ℚ) * c) = compare x y := by
  rcases lt_trichotomy x y with h | rfl | h
  · rw [compare_lt_iff_lt.2 h, compare_lt_iff_lt]
    exact mul_lt_mul_of_pos_right (Int.cast_lt.2 h) hc
  · rw [compare_eq_iff_eq.2 rfl, compare_eq_iff_eq.2 rfl]
  · rw [compare_gt_iff_gt.2 h, compare_gt_iff_gt]
    exact mul_lt_mul_of_pos_right (Int.cast_lt.2 h) hc

/-- `Cmp` compares the numbers, whatever the two exponents are. -/
theorem cmp_eq_compare (a b : Decimal) : a.cmp b = compare a.toRat b.toRat := by
  rw [← rescale_mul_zpow (min_le_left a.exp b.exp), ← rescale_mul_zpow (min_le_right a.exp b.exp),
    compare_mul_pos (ten_zpow_pos _), cmp]

@[simp] theorem lessThan_iff {a b : Decimal} : a.lessThan b = true ↔ a.toRat < b.toRat := by
  simp [lessThan, cmp_eq_compare, compare_lt_iff_lt]

@[simp] theorem greaterThan_iff {a b : Decimal} :
    a.greaterThan b = true ↔ b.toRat < a.toRat := by
  simp [greaterThan, cmp_eq_compare, compare_gt_iff_gt]

@[simp] theorem equal_iff {a b : Decimal} : a.equal b = true ↔ a.toRat = b.toRat := by
  simp [equal, cmp_eq_compare, compare_eq_iff_eq]

@[simp] theorem lessThanOrEqual_iff {a b : Decimal} :
    a.lessThanOrEqual b = true ↔ a.toRat ≤ b.toRat := by
  simp [lessThanOrEqual, cmp_eq_compare, compare_lt_iff_lt, compare_eq_iff_eq, le_iff_lt_or_eq]

@[simp] theorem isZero_iff {d : Decimal} : d.isZero = true ↔ d.toRat = 0 := by
  simp [isZero, toRat, (ten_zpow_pos d.exp).ne']

@[simp] theorem toRat_min (a b : Decimal) : (a.min b).toRat = Min.min a.toRat b.toRat := by
  unfold Decimal.min
  split_ifs with h
  · rw [cmp_eq_compare, compare_lt_iff_lt] at h
    exact (min_eq_right h.le).symm
  · rw [cmp_eq_compare, compare_lt_iff_lt, not_lt] at h
    exact (min_eq_left h).symm

/-! ## The printed form -/

theorem toRat_trimZeros (fuel : ℕ) (v e : ℤ) :
    (trimZeros fuel v e).toRat = (v : ℚ) * 10 ^ e := by
  induction fuel generalizing v e with
  | zero => rfl
  | succ fuel ih =>
    rw [trimZeros]
    split_ifs with h
    · obtain ⟨k, hk⟩ : (10 : ℤ) ∣ v := Int.dvd_of_emod_eq_zero h.2
      rw [ih, hk, Int.mul_ediv_cancel_left _ (by norm_num),
        zpow_add₀ (by norm_num : (10 : ℚ) ≠ 0)]
      push_cast
      ring
    · rfl

@[simp] theorem toRat_canonical (d : Decimal) : d.canonical.toRat = d.toRat := by
  unfold canonical
  split_ifs with h
  · simp [toRat, h]
  · rw [toRat_trimZeros]; rfl

end Decimal

end MicroCoin
