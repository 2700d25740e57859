/-
# Wiring.Proofs.Decimal.Integral -- what comparisons, floors and casts of numbers come to

All of these are decided on mantissas and exponents.  Of finite numbers, comparisons are
those of the values (`below_iff`, `atLeast_iff`), a number is its own floor exactly if its
value is an integer (`same_floor_iff`), which is also when it has no fraction
(`isIntegral_iff`), and a value that is an integer of 64 bits becomes that integer
(`toInteger_of_value`): the ends of the range never come in.
-/
import Wiring.Decimal.Integral
import Wiring.Proofs.Decimal.Exact
import Wiring.Proofs.Text.Digits
import Mathlib

namespace Wiring.Decimal.Number

set_option autoImplicit false

open Wiring.Text (minInteger integerLimit fitsInteger)

variable {x y : Number} {a b : ℚ}

/-! ## Values -/

theorem signed_natAbs (n : Int) : signed (n < 0) n.natAbs = n := by
  unfold signed
  by_cases negative : n < 0
  · rw [decide_eq_true negative, if_pos rfl]
    omega
  · rw [decide_eq_false negative, if_neg (by decide)]
    omega

theorem natAbs_signed (s : Bool) (m : Nat) : (signed s m).natAbs = m := by
  cases s with
  | true => rw [signed, if_pos rfl, Int.natAbs_neg, Int.natAbs_natCast]
  | false => rw [signed, if_neg (by decide), Int.natAbs_natCast]

/-- The value of a number, in terms of its signed mantissa. -/
theorem value?_finite (s : Bool) (m : Nat) (q : Int) :
    (finite s m q).value? = some ((signed s m : ℚ) * 2 ^ q) := by
  cases s with
  | true =>
    rw [value?, if_pos rfl, signed, if_pos rfl, scaled, Int.cast_neg, Int.cast_natCast, neg_mul]
  | false =>
    rw [value?, if_neg (by decide), signed, if_neg (by decide), scaled, Int.cast_natCast]

/-- A number with a value is finite. -/
theorem exists_of_value (value : x.value? = some a) :
    ∃ s m q, x = .finite s m q ∧ a = (signed s m : ℚ) * 2 ^ q := by
  cases x with
  | nan => cases value
  | infinite s => cases value
  | finite s m q =>
    rw [value?_finite] at value
    exact ⟨s, m, q, rfl, (Option.some.inj value).symm⟩

theorem isFinite_iff : x.isFinite = true ↔ ∃ a, x.value? = some a := by
  cases x <;> simp [isFinite, value?]

/-- A signed mantissa at an exponent, as a quotient. -/
theorem signed_eq_ratio (n q : Int) :
    (n : ℚ) * 2 ^ q = (n * Nat.pow 2 q.toNat : Int) / (Nat.pow 2 (-q).toNat : Nat) := by
  have power := zpow_eq_ratio (b := 2) (by decide) q
  rw [Nat.cast_ofNat] at power
  rw [power, ← mul_div_assoc, Int.cast_mul, Int.cast_natCast]

/-! ## Comparisons -/

/-- Mantissas at exponents compare as their values. -/
theorem compareSigned_cases (n q k r : Int) :
    (compareSigned n q k r = .lt ↔ (n : ℚ) * 2 ^ q < k * 2 ^ r) ∧
      (compareSigned n q k r = .eq ↔ (n : ℚ) * 2 ^ q = k * 2 ^ r) ∧
      (compareSigned n q k r = .gt ↔ (k : ℚ) * 2 ^ r < n * 2 ^ q) := by
  have left := natPow_pos (b := 2) (by decide) (-q).toNat
  have right := natPow_pos (b := 2) (by decide) (-r).toNat
  rw [compareSigned, compare_lt_iff_lt, compare_eq_iff_eq, compare_gt_iff_gt, signed_eq_ratio,
    signed_eq_ratio]
  refine ⟨?_, ?_, ?_⟩
  · rw [div_lt_div_iff₀ left right]
    exact_mod_cast Iff.rfl
  · rw [div_eq_div_iff left.ne' right.ne']
    exact_mod_cast Iff.rfl
  · rw [div_lt_div_iff₀ right left]
    exact_mod_cast Iff.rfl

theorem below_iff (left : x.value? = some a) (right : y.value? = some b) :
    x.below y = true ↔ a < b := by
  obtain ⟨s, m, q, rfl, rfl⟩ := exists_of_value left
  obtain ⟨t, n, r, rfl, rfl⟩ := exists_of_value right
  rw [below, beq_iff_eq, compare?, Option.some.injEq]
  exact (compareSigned_cases ..).1

theorem same_iff (left : x.value? = some a) (right : y.value? = some b) :
    x.same y = true ↔ a = b := by
  obtain ⟨s, m, q, rfl, rfl⟩ := exists_of_value left
  obtain ⟨t, n, r, rfl, rfl⟩ := exists_of_value right
  rw [same, beq_iff_eq, compare?, Option.some.injEq]
  exact (compareSigned_cases ..).2.1

theorem atLeast_iff (left : x.value? = some a) (right : y.value? = some b) :
    x.atLeast y = true ↔ b ≤ a := by
  obtain ⟨s, m, q, rfl, rfl⟩ := exists_of_value left
  obtain ⟨t, n, r, rfl, rfl⟩ := exists_of_value right
  obtain ⟨_, equal, greater⟩ := compareSigned_cases (signed s m) q (signed t n) r
  rw [atLeast, Bool.or_eq_true, beq_iff_eq, beq_iff_eq, compare?, Option.some.injEq,
    Option.some.injEq, equal, greater, le_iff_lt_or_eq, eq_comm (a := (signed t n : ℚ) * 2 ^ r)]

/-! ## The ends of the range -/

theorem leastInteger_eq : leastInteger = .finite true (Nat.pow 2 52) 11 := by decide +kernel

theorem greatestInteger_eq : greatestInteger = .finite false (Nat.pow 2 52) 11 := by
  decide +kernel

theorem value?_leastInteger : leastInteger.value? = some (-2 ^ 63) := by
  rw [leastInteger_eq, value?_finite, signed, if_pos rfl, Nat.pow_eq]
  norm_num

/-- The greatest integer of 64 bits is no number itself; the nearest one is one more. -/
theorem value?_greatestInteger : greatestInteger.value? = some (2 ^ 63) := by
  rw [greatestInteger_eq, value?_finite, signed, if_neg (by decide), Nat.pow_eq]
  norm_num

/-- Both ways of asking whether a finite number lies in the range. -/
theorem withinRange_iff (value : x.value? = some a) :
    (x.atLeast leastInteger = true ∧ x.below greatestInteger = true ↔ -2 ^ 63 ≤ a ∧ a < 2 ^ 63) ∧
      (x.below leastInteger = false ∧ x.atLeast greatestInteger = false ↔
        -2 ^ 63 ≤ a ∧ a < 2 ^ 63) := by
  rw [← Bool.not_eq_true, ← Bool.not_eq_true, atLeast_iff value value?_leastInteger,
    atLeast_iff value value?_greatestInteger, below_iff value value?_leastInteger,
    below_iff value value?_greatestInteger, not_lt, not_le]
  exact ⟨Iff.rfl, Iff.rfl⟩

/-- What lies in the range is finite. -/
theorem exists_value_of_withinRange (low : x.atLeast leastInteger = true)
    (high : x.below greatestInteger = true) : ∃ a, x.value? = some a := by
  cases x with
  | nan => cases low
  | infinite s =>
    rw [leastInteger_eq] at low
    rw [greatestInteger_eq] at high
    cases s with
    | true => cases low
    | false => cases high
  | finite s m q => exact ⟨_, rfl⟩

/-! ## Integral numbers -/

theorem value?_floor (value : x.value? = some a) : x.floor.value? = some (⌊a⌋ : ℚ) := by
  obtain ⟨s, m, q, rfl, rfl⟩ := exists_of_value value
  have whole : (finite s m q).floor? = some ⌊(signed s m : ℚ) * 2 ^ q⌋ := by
    rw [signed_eq_ratio, Rat.floor_intCast_div_natCast]
    show some (if 0 ≤ q then signed s m * (Nat.pow 2 q.toNat : Int)
      else (signed s m).fdiv (Nat.pow 2 (-q).toNat : Int)) = _
    split
    · next up =>
      rw [show (-q).toNat = 0 by omega]
      simp
    · next down =>
      rw [show q.toNat = 0 by omega, Int.fdiv_eq_ediv_of_nonneg _ (Int.natCast_nonneg _)]
      simp
  rw [floor, whole]
  simp only
  rw [value?_finite, signed_natAbs, zpow_zero, mul_one]

/-- A number is its own floor exactly if its value is an integer. -/
theorem same_floor_iff (value : x.value? = some a) :
    x.floor.same x = true ↔ ∃ n : Int, a = n := by
  rw [same_iff (value?_floor value) value]
  constructor
  · intro own
    exact ⟨⌊a⌋, own.symm⟩
  · rintro ⟨n, rfl⟩
    rw [Int.floor_intCast]

/-- What is equal to a quotient, cross-multiplied. -/
theorem eq_ratio_iff {n k q : Int} : (n : ℚ) * 2 ^ q = k ↔
    n * (Nat.pow 2 q.toNat : Int) = k * (Nat.pow 2 (-q).toNat : Int) := by
  have down := natPow_pos (b := 2) (by decide) (-q).toNat
  rw [signed_eq_ratio, div_eq_iff down.ne']
  exact_mod_cast Iff.rfl

/-- A number has no fraction exactly if its value is an integer. -/
theorem isIntegral_iff (value : x.value? = some a) :
    x.isIntegral = true ↔ ∃ n : Int, a = n := by
  obtain ⟨s, m, q, rfl, rfl⟩ := exists_of_value value
  simp only [eq_ratio_iff]
  rw [isIntegral]
  split
  · next up =>
    rw [show (-q).toNat = 0 by omega]
    simp
  · next down =>
    have divides : Nat.pow 2 (-q).toNat ∣ m ↔ (Nat.pow 2 (-q).toNat : Int) ∣ signed s m := by
      rw [Int.natCast_dvd, natAbs_signed]
    rw [show q.toNat = 0 by omega, beq_iff_eq, ← Nat.dvd_iff_mod_eq_zero, divides]
    constructor
    · rintro ⟨n, split⟩
      exact ⟨n, by rw [split]; simp [mul_comm]⟩
    · rintro ⟨n, split⟩
      exact ⟨n, by simpa [mul_comm] using split⟩

/-- **A value that is an integer of 64 bits becomes that integer.** -/
theorem toInteger_of_value {n : Int} (value : x.value? = some (n : ℚ))
    (fits : fitsInteger n = true) : x.toInteger = n := by
  obtain ⟨s, m, q, rfl, equal⟩ := exists_of_value value
  have cross := eq_ratio_iff.1 equal.symm
  have down : 0 < Nat.pow 2 (-q).toNat := Nat.pow_pos (by decide)
  -- without its sign
  have magnitude : m * Nat.pow 2 q.toNat = n.natAbs * Nat.pow 2 (-q).toNat := by
    have sizes := congrArg Int.natAbs cross
    rwa [Int.natAbs_mul, Int.natAbs_mul, natAbs_signed, Int.natAbs_natCast,
      Int.natAbs_natCast] at sizes
  have cut : (if 0 ≤ q then m * Nat.pow 2 q.toNat else m / Nat.pow 2 (-q).toNat) = n.natAbs := by
    split
    · next up =>
      rw [magnitude, show (-q).toNat = 0 by omega]
      exact Nat.mul_one _
    · next low =>
      rw [show q.toNat = 0 by omega] at magnitude
      rw [show m = n.natAbs * Nat.pow 2 (-q).toNat from (Nat.mul_one m).symm.trans magnitude]
      exact Nat.mul_div_cancel _ down
  have same_sign : signed s n.natAbs = n := by
    have down' : (0 : Int) < (Nat.pow 2 (-q).toNat : Nat) := by exact_mod_cast down
    cases s with
    | true =>
      have low : n * (Nat.pow 2 (-q).toNat : Nat) ≤ 0 * (Nat.pow 2 (-q).toNat : Nat) := by
        rw [← cross, signed, if_pos rfl, neg_mul, zero_mul, neg_nonpos]
        exact_mod_cast Nat.zero_le _
      have := le_of_mul_le_mul_right low down'
      rw [signed, if_pos rfl]
      omega
    | false =>
      have high : 0 * (Nat.pow 2 (-q).toNat : Nat) ≤ n * (Nat.pow 2 (-q).toNat : Nat) := by
        rw [← cross, signed, if_neg (by decide), zero_mul]
        exact_mod_cast Nat.zero_le _
      have := le_of_mul_le_mul_right high down'
      rw [signed, if_neg (by decide)]
      omega
  rw [fitsInteger, Bool.and_eq_true, decide_eq_true_eq, decide_eq_true_eq] at fits
  rw [toInteger, cut, same_sign]
  omega

end Wiring.Decimal.Number
