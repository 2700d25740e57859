/-
# Wiring.Proofs.Decimal.Exact -- the exact values of words and decimals

Words and decimals are compared by cross-multiplying naturals.  Here both get their values
as rationals, `m * 2^q` and `digits * 10^scale`, and the comparisons of the printer become
comparisons of values: `readsBack` holds exactly of the decimals that round to a word
(`readsBack_iff`).  So the digits that are printed for a word always round to it again
(`roundsTo_shortest`).
-/
import Wiring.Decimal.Shortest
import Mathlib.Algebra.Order.Field.Power
import Mathlib.Tactic.FieldSimp
import Mathlib.Tactic.Linarith
import Mathlib.Tactic.Positivity
import Mathlib.Tactic.Ring

namespace Wiring.Decimal

set_option autoImplicit false

/-! ## Powers -/

/-- A power with an integer exponent, as the quotient of two powers of naturals. -/
theorem zpow_eq_ratio {b : Nat} (positive : 0 < b) (q : Int) :
    (b : ℚ) ^ q = (Nat.pow b q.toNat : Nat) / (Nat.pow b (-q).toNat : Nat) := by
  have nonzero : (b : ℚ) ≠ 0 := by exact_mod_cast positive.ne'
  rw [Nat.pow_eq, Nat.pow_eq, Nat.cast_pow, Nat.cast_pow]
  rcases le_total 0 q with up | down
  · have none : (-q).toNat = 0 := by omega
    have all : (q.toNat : Int) = q := by omega
    rw [none, pow_zero, div_one, ← zpow_natCast, all]
  · have none : q.toNat = 0 := by omega
    have all : ((-q).toNat : Int) = -q := by omega
    rw [none, pow_zero, ← zpow_natCast, all, zpow_neg, one_div, inv_inv]

theorem natPow_pos {b : Nat} (positive : 0 < b) (n : Nat) : (0 : ℚ) < (Nat.pow b n : Nat) := by
  exact_mod_cast Nat.pow_pos positive

/-! ## Values -/

def scaled (m : Nat) (q : Int) : ℚ := m * 2 ^ q

def Digits.value (d : Digits) : ℚ := d.digits * 10 ^ d.scale

def Number.value? : Number → Option ℚ
  | .finite s m q => some (if s then -scaled m q else scaled m q)
  | _ => none

theorem scaled_pos {m : Nat} (positive : 0 < m) (q : Int) : 0 < scaled m q := by
  unfold scaled
  positivity

theorem Number.isZero_iff {x : Number} : x.isZero = true ↔ x.value? = some 0 := by
  cases x with
  | nan => exact ⟨(nomatch ·), (nomatch ·)⟩
  | infinite s => exact ⟨(nomatch ·), (nomatch ·)⟩
  | finite s m q =>
    have power : (2 : ℚ) ^ q ≠ 0 := zpow_ne_zero q two_ne_zero
    simp only [Number.isZero, Number.value?, scaled, beq_iff_eq, Option.some.injEq]
    cases s <;> simp [power]

/-- Both sides of a comparison, in terms of values: each is one of them times the same factor. -/
theorem cross_eq (a : Nat) (i : Int) (n : Nat) (j : Int) :
    ∃ factor : ℚ, 0 < factor ∧
      ((a * Nat.pow 10 i.toNat * Nat.pow 2 (-j).toNat : Nat) : ℚ) = a * 10 ^ i * factor ∧
      ((n * Nat.pow 2 j.toNat * Nat.pow 10 (-i).toNat : Nat) : ℚ) = scaled n j * factor := by
  have ten := zpow_eq_ratio (b := 10) (by decide) i
  have two := zpow_eq_ratio (b := 2) (by decide) j
  have tens := natPow_pos (b := 10) (by decide) (-i).toNat
  have twos := natPow_pos (b := 2) (by decide) (-j).toNat
  refine ⟨(Nat.pow 10 (-i).toNat : Nat) * (Nat.pow 2 (-j).toNat : Nat), mul_pos tens twos, ?_, ?_⟩
  · rw [Nat.cast_ofNat] at ten
    rw [ten, Nat.cast_mul, Nat.cast_mul]
    field_simp
  · rw [Nat.cast_ofNat] at two
    rw [scaled, two, Nat.cast_mul, Nat.cast_mul]
    field_simp

theorem compareScaled_eq_lt {a n : Nat} {i j : Int} :
    compareScaled a i n j = .lt ↔ (a : ℚ) * 10 ^ i < scaled n j := by
  obtain ⟨factor, positive, left, right⟩ := cross_eq a i n j
  rw [compareScaled, Nat.compare_eq_lt, ← Nat.cast_lt (α := ℚ), left, right,
    mul_lt_mul_iff_left₀ positive]

theorem compareScaled_eq_eq {a n : Nat} {i j : Int} :
    compareScaled a i n j = .eq ↔ (a : ℚ) * 10 ^ i = scaled n j := by
  obtain ⟨factor, positive, left, right⟩ := cross_eq a i n j
  rw [compareScaled, Nat.compare_eq_eq, ← Nat.cast_inj (R := ℚ), left, right,
    mul_left_inj' positive.ne']

theorem compareScaled_eq_gt {a n : Nat} {i j : Int} :
    compareScaled a i n j = .gt ↔ scaled n j < (a : ℚ) * 10 ^ i := by
  obtain ⟨factor, positive, left, right⟩ := cross_eq a i n j
  rw [compareScaled, Nat.compare_eq_gt, ← Nat.cast_lt (α := ℚ), left, right,
    mul_lt_mul_iff_left₀ positive]

/-! ## The reals that round to a word -/

/-- Four times the mantissa at the lower end. -/
def lowEnd (m : Nat) (q : Int) : Nat := if narrowBelow m q then 4 * m - 1 else 4 * m - 2

/-- `v` lies between the halfway points to the words next to `m * 2^q`, or on one of them and `m` is
even. -/
structure RoundsTo (v : ℚ) (m : Nat) (q : Int) : Prop where
  low : scaled (lowEnd m q) (q - 2) ≤ v
  high : v ≤ scaled (4 * m + 2) (q - 2)
  even : v = scaled (lowEnd m q) (q - 2) ∨ v = scaled (4 * m + 2) (q - 2) → m % 2 = 0

theorem readsBack_iff {m : Nat} {q : Int} {d : Digits} :
    readsBack m q d = true ↔ RoundsTo d.value m q := by
  have low : (compareScaled d.digits d.scale (lowEnd m q) (q - 2) == .gt ||
      (m % 2 == 0 && compareScaled d.digits d.scale (lowEnd m q) (q - 2) == .eq)) = true ↔
      scaled (lowEnd m q) (q - 2) < d.value ∨
        m % 2 = 0 ∧ d.value = scaled (lowEnd m q) (q - 2) := by
    simp [compareScaled_eq_gt, compareScaled_eq_eq, Digits.value]
  have high : (compareScaled d.digits d.scale (4 * m + 2) (q - 2) == .lt ||
      (m % 2 == 0 && compareScaled d.digits d.scale (4 * m + 2) (q - 2) == .eq)) = true ↔
      d.value < scaled (4 * m + 2) (q - 2) ∨
        m % 2 = 0 ∧ d.value = scaled (4 * m + 2) (q - 2) := by
    simp [compareScaled_eq_lt, compareScaled_eq_eq, Digits.value]
  show (_ && _) = true ↔ _
  rw [Bool.and_eq_true]
  refine (and_congr low high).trans ⟨?_, ?_⟩
  · rintro ⟨low, high⟩
    refine ⟨?_, ?_, ?_⟩
    · rcases low with above | ⟨_, same⟩
      · exact above.le
      · exact same.ge
    · rcases high with below | ⟨_, same⟩
      · exact below.le
      · exact same.le
    · rintro (same | same)
      · rcases low with above | ⟨even, _⟩
        · exact absurd same above.ne'
        · exact even
      · rcases high with below | ⟨even, _⟩
        · exact absurd same below.ne
        · exact even
  · rintro ⟨low, high, even⟩
    refine ⟨?_, ?_⟩
    · rcases low.lt_or_eq with above | same
      · exact .inl above
      · exact .inr ⟨even (.inl same.symm), same.symm⟩
    · rcases high.lt_or_eq with below | same
      · exact .inl below
      · exact .inr ⟨even (.inr same), same⟩

/-- A quarter of four times a mantissa, at two places less. -/
theorem scaled_four (m : Nat) (q : Int) : scaled (4 * m) (q - 2) = scaled m q := by
  have two : (2 : ℚ) ^ q = 2 ^ (q - 2) * 4 := by
    rw [zpow_sub₀ two_ne_zero]
    norm_num
  rw [scaled, scaled, two, Nat.cast_mul, Nat.cast_ofNat]
  ring

theorem scaled_lt {m n : Nat} (less : m < n) (q : Int) : scaled m q < scaled n q := by
  have power : (0 : ℚ) < 2 ^ q := by positivity
  exact mul_lt_mul_of_pos_right (Nat.cast_lt.2 less) power

/-- A word rounds to itself. -/
theorem roundsTo_self {m : Nat} (positive : 0 < m) (q : Int) : RoundsTo (scaled m q) m q := by
  have below : lowEnd m q < 4 * m := by
    unfold lowEnd
    split <;> omega
  have low := scaled_lt below (q - 2)
  have high := scaled_lt (show 4 * m < 4 * m + 2 by omega) (q - 2)
  rw [scaled_four] at low high
  refine ⟨low.le, high.le, ?_⟩
  rintro (same | same)
  · exact absurd same low.ne'
  · exact absurd same high.ne

/-- What rounds to a positive word is positive. -/
theorem RoundsTo.pos {v : ℚ} {m : Nat} {q : Int} (rounds : RoundsTo v m q) (positive : 0 < m) :
    0 < v := by
  have low : 0 < lowEnd m q := by
    unfold lowEnd
    split <;> omega
  exact lt_of_lt_of_le (scaled_pos low (q - 2)) rounds.low

/-! ## What is printed -/

theorem value_stripZeros (n : Nat) (d : Digits) : (stripZeros n d).value = d.value := by
  induction n generalizing d with
  | zero => rfl
  | succ n ih =>
      unfold stripZeros
      split
      · next zeros =>
        rw [ih]
        have tens : d.digits = d.digits / 10 * 10 := by
          simp only [Bool.and_eq_true, beq_iff_eq] at zeros
          omega
        have cast : (d.digits : ℚ) = (d.digits / 10 : Nat) * 10 := by exact_mod_cast tens
        rw [Digits.value, Digits.value, zpow_add_one₀ (by norm_num), cast]
        ring
      · rfl

theorem value_exactDigits (m : Nat) (q : Int) : (exactDigits m q).value = scaled m q := by
  unfold exactDigits
  split
  · next up =>
    have all : (q.toNat : Int) = q := by omega
    rw [Digits.value, scaled, zpow_zero, mul_one, Nat.pow_eq, Nat.cast_mul, Nat.cast_pow,
      Nat.cast_ofNat, ← zpow_natCast, all]
  · next down =>
    have all : ((-q).toNat : Int) = -q := by omega
    have halves : (5 : ℚ) ^ (-q) * 10 ^ q = 2 ^ q := by
      rw [zpow_neg, show (10 : ℚ) = 5 * 2 by norm_num, mul_zpow]
      field_simp
    rw [Digits.value, scaled, Nat.pow_eq, Nat.cast_mul, Nat.cast_pow, Nat.cast_ofNat,
      ← zpow_natCast, all, mul_assoc, halves]

/-- A hit on a grid reads back. -/
theorem readsBack_of_onGrid? {m : Nat} {q scale : Int} {d : Digits}
    (hit : onGrid? m q scale = some d) : readsBack m q d = true := by
  unfold onGrid? at hit
  simp only at hit
  cases low : readsBack m q ⟨gridFloor m q scale, scale⟩ <;>
    cases high : readsBack m q ⟨gridFloor m q scale + 1, scale⟩ <;>
      rw [low, high] at hit
  · cases hit
  · cases hit
    exact high
  · cases hit
    exact low
  · simp only at hit
    split at hit
    · cases hit
      exact low
    · cases hit
      exact high

/-- **The digits printed for a word round to it again.** -/
theorem roundsTo_shortest {m : Nat} (positive : 0 < m) (q : Int) :
    RoundsTo (shortest m q).value m q := by
  unfold shortest
  simp only
  split
  · next d found =>
    obtain ⟨n, _, hit⟩ := List.exists_of_findSome?_eq_some found
    rw [value_stripZeros]
    exact readsBack_iff.1 (readsBack_of_onGrid? hit)
  · rw [value_exactDigits]
    exact roundsTo_self positive q

end Wiring.Decimal
