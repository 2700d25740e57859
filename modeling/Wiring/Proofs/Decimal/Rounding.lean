/-
# Wiring.Proofs.Decimal.Rounding -- a decimal is read as the word it rounds to

`nearestBits` looks for the binade of a quotient and rounds to its grid.  Just below a power of two
the grid is twice as fine as above it, so a quotient that rounds to the power may lie in the binade
below; it then rounds up to the end of that, which has the same bits (`unit_cases`).  In all cases
a quotient gives the bits of the word it rounds to (`nearestBits_eq`), and therefore so does the
reading of a decimal (`readDecimal_eq`).

A float is made of such bits (`eq_ofBits`), so a decimal that rounds to it is read as itself
(`readDecimal_roundsTo`).
-/
import Wiring.Proofs.Decimal.Exact
import Mathlib

namespace Wiring.Decimal

set_option autoImplicit false

/-! ## Words -/

theorem pow_fractionBits : Nat.pow 2 fractionBits = 4503599627370496 := rfl

theorem pow_fractionBits_succ : Nat.pow 2 53 = 9007199254740992 := rfl

theorem signBit_eq : signBit = 9223372036854775808 := rfl

def magnitudeBits (m : Nat) (q : Int) : Nat :=
  (q - leastExponent).toNat * Nat.pow 2 fractionBits + m

/-- A positive mantissa and an exponent as they stand in a word. -/
structure Canonical (m : Nat) (q : Int) : Prop where
  positive : 0 < m
  fits : m < Nat.pow 2 53
  least : leastExponent ≤ q
  normal : Nat.pow 2 52 ≤ m ∨ q = leastExponent
  finite : magnitudeBits m q < infinityBits

theorem decodeMagnitude_cases {bits : Nat} (finite : bits < infinityBits) :
    let decoded := decodeMagnitude bits
    magnitudeBits decoded.1 decoded.2 = bits ∧
      (decoded.1 = 0 ∨ Canonical decoded.1 decoded.2) := by
  have split := Nat.div_add_mod bits (Nat.pow 2 fractionBits)
  have small : bits % Nat.pow 2 fractionBits < Nat.pow 2 fractionBits :=
    Nat.mod_lt _ (Nat.pow_pos (by decide))
  have whole : Nat.pow 2 52 = 4503599627370496 := rfl
  have carry := pow_fractionBits_succ
  unfold decodeMagnitude
  generalize bits / Nat.pow 2 fractionBits = e at split
  generalize bits % Nat.pow 2 fractionBits = f at split small
  rw [pow_fractionBits] at split small
  by_cases subnormal : e = 0
  · simp only [subnormal, if_true]
    have same : magnitudeBits f leastExponent = bits := by
      rw [magnitudeBits, pow_fractionBits]
      omega
    refine ⟨same, ?_⟩
    rcases Nat.eq_zero_or_pos f with zero | positive
    · exact .inl zero
    · exact .inr ⟨positive, by omega, Int.le_refl _, .inr rfl, by rw [same]; exact finite⟩
  · simp only [subnormal, if_false]
    have same : magnitudeBits (Nat.pow 2 fractionBits + f) (leastExponent + e - 1) = bits := by
      rw [magnitudeBits, pow_fractionBits]
      omega
    have power := pow_fractionBits
    exact ⟨same, .inr ⟨by omega, by omega, by omega, .inl (by omega), by rw [same]; exact finite⟩⟩

/-- **A finite float is made of the bits of its mantissa and exponent.** -/
theorem eq_ofBits {x : Float} {s : Bool} {m : Nat} {q : Int}
    (finite : Number.ofFloat x = .finite s m q) :
    x = ofBits s (magnitudeBits m q) ∧ (m = 0 ∨ Canonical m q) := by
  have small : x.toBits.toNat < 18446744073709551616 := x.toBits.toNat_lt
  have all : Nat.pow 2 64 = 18446744073709551616 := rfl
  unfold Number.ofFloat Number.ofWord at finite
  simp only at finite
  split at finite
  · next below =>
    obtain ⟨same, canonical⟩ := decodeMagnitude_cases below
    obtain ⟨rfl, rfl, rfl⟩ := Number.finite.inj finite
    refine ⟨?_, canonical⟩
    have word : (if signBit ≤ x.toBits.toNat % Nat.pow 2 64 then
        signBit + x.toBits.toNat % signBit else x.toBits.toNat % signBit) = x.toBits.toNat := by
      rw [all, signBit_eq]
      split <;> omega
    unfold ofBits
    simp only [decide_eq_true_eq]
    rw [same, word, UInt64.ofNat_toNat, Float.ofBits_toBits]
  · split at finite <;> cases finite

/-! ## Binades -/

theorem log2Quotient_bounds {num den : Nat} (positive : 0 < num) (divisor : 0 < den) :
    (2 : ℚ) ^ log2Quotient num den ≤ (num : ℚ) / den ∧
      (num : ℚ) / den < 2 ^ (log2Quotient num den + 1) := by
  have den_pos : (0 : ℚ) < den := by exact_mod_cast divisor
  have num_low : (2 : ℚ) ^ num.log2 ≤ num := by exact_mod_cast Nat.log2_self_le positive.ne'
  have num_high : (num : ℚ) < 2 ^ (num.log2 + 1) := by exact_mod_cast Nat.lt_log2_self
  have den_low : (2 : ℚ) ^ den.log2 ≤ den := by exact_mod_cast Nat.log2_self_le divisor.ne'
  have den_high : (den : ℚ) < 2 ^ (den.log2 + 1) := by exact_mod_cast Nat.lt_log2_self
  -- The difference of the two logarithms is right, or one too much; the test tells which.
  let e : Int := (num.log2 : Int) - den.log2
  have above : (num : ℚ) / den < 2 ^ (e + 1) := by
    have power : (2 : ℚ) ^ (e + 1) * 2 ^ den.log2 = 2 ^ (num.log2 + 1) := by
      rw [← zpow_natCast, ← zpow_natCast, ← zpow_add₀ two_ne_zero]
      congr 1
      omega
    rw [div_lt_iff₀ den_pos]
    calc (num : ℚ) < 2 ^ (num.log2 + 1) := num_high
      _ = 2 ^ (e + 1) * 2 ^ den.log2 := power.symm
      _ ≤ 2 ^ (e + 1) * den := mul_le_mul_of_nonneg_left den_low (by positivity)
  have below : (2 : ℚ) ^ (e - 1) ≤ num / den := by
    have power : (2 : ℚ) ^ (e - 1) * 2 ^ (den.log2 + 1) = 2 ^ num.log2 := by
      rw [← zpow_natCast, ← zpow_natCast, ← zpow_add₀ two_ne_zero]
      congr 1
      omega
    rw [le_div_iff₀ den_pos]
    calc (2 : ℚ) ^ (e - 1) * den ≤ 2 ^ (e - 1) * 2 ^ (den.log2 + 1) :=
          mul_le_mul_of_nonneg_left den_high.le (by positivity)
      _ = 2 ^ num.log2 := power
      _ ≤ num := num_low
  have test : den * Nat.pow 2 e.toNat ≤ num * Nat.pow 2 (-e).toNat ↔ (2 : ℚ) ^ e ≤ num / den := by
    have two := zpow_eq_ratio (b := 2) (by decide) e
    rw [Nat.cast_ofNat] at two
    rw [two, div_le_div_iff₀ (natPow_pos (by decide) _) den_pos, mul_comm den]
    exact_mod_cast Iff.rfl
  show (2 : ℚ) ^ (if den * Nat.pow 2 e.toNat ≤ num * Nat.pow 2 (-e).toNat then e else e - 1) ≤ _ ∧
    _ < (2 : ℚ) ^ ((if den * Nat.pow 2 e.toNat ≤ num * Nat.pow 2 (-e).toNat then e else e - 1) + 1)
  by_cases reached : (2 : ℚ) ^ e ≤ num / den
  · rw [if_pos (test.2 reached)]
    exact ⟨reached, above⟩
  · rw [if_neg (fun holds => reached (test.1 holds)), sub_add_cancel]
    exact ⟨below, not_le.1 reached⟩

/-- A mantissa of power `k` at exponent `q - 2`. -/
theorem scaled_power (k : Nat) (q : Int) : scaled (Nat.pow 2 k) (q - 2) = 2 ^ (k + q - 2) := by
  rw [scaled, Nat.pow_eq, Nat.cast_pow, Nat.cast_ofNat, ← zpow_natCast, ← zpow_add₀ two_ne_zero]
  congr 1
  omega

theorem scaled_le {m n : Nat} (le : m ≤ n) (q : Int) : scaled m q ≤ scaled n q := by
  have power : (0 : ℚ) < 2 ^ q := by positivity
  exact mul_le_mul_of_nonneg_right (Nat.cast_le.2 le) power.le

/-- What rounds to a word lies in the binade of the word, or in the one below and the word is the
power of two between the two. -/
theorem unit_cases {v : ℚ} {m : Nat} {q e : Int} (canonical : Canonical m q)
    (rounds : RoundsTo v m q) (low : (2 : ℚ) ^ e ≤ v) (high : v < 2 ^ (e + 1)) :
    max (e - fractionBits) leastExponent = q ∨
      e = q + 51 ∧ m = Nat.pow 2 52 ∧ leastExponent < q := by
  have fraction : (fractionBits : Int) = 52 := rfl
  have least := canonical.least
  have power : Nat.pow 2 52 = 4503599627370496 := rfl
  have fits := canonical.fits
  rw [pow_fractionBits_succ] at fits
  -- The interval that rounds to the word bounds the binade of `v` from both sides.
  have below : e < q + 53 := by
    have end_lt : 4 * m + 2 < Nat.pow 2 55 := by
      have : Nat.pow 2 55 = 36028797018963968 := rfl
      omega
    have top := scaled_lt end_lt (q - 2)
    rw [scaled_power] at top
    have := (zpow_lt_zpow_iff_right₀ (a := (2 : ℚ)) (by norm_num)).1
      (lt_of_le_of_lt (low.trans rounds.high) top)
    omega
  have above {k : Nat} (starts : Nat.pow 2 k ≤ lowEnd m q) : k + q - 2 ≤ e := by
    have bottom := scaled_le starts (q - 2)
    rw [scaled_power] at bottom
    have := (zpow_lt_zpow_iff_right₀ (a := (2 : ℚ)) (by norm_num)).1
      (lt_of_le_of_lt (bottom.trans rounds.low) high)
    omega
  rcases canonical.normal with normal | subnormal
  · rcases eq_or_ne q leastExponent with first | later
    · exact .inl (by omega)
    · have later : leastExponent < q := lt_of_le_of_ne least later.symm
      by_cases edge : m = Nat.pow 2 52
      · have starts : Nat.pow 2 53 ≤ lowEnd m q := by
          rw [pow_fractionBits_succ]
          unfold lowEnd
          split <;> omega
        have := above starts
        by_cases inside : e = q + 51
        · exact .inr ⟨inside, edge, later⟩
        · exact .inl (by omega)
      · have starts : Nat.pow 2 54 ≤ lowEnd m q := by
          have : Nat.pow 2 54 = 18014398509481984 := rfl
          unfold lowEnd
          split <;> omega
        have := above starts
        exact .inl (by omega)
  · exact .inl (by omega)

/-! ## Rounding -/

/-- A quotient is rounded to `k` if it lies within a half of it, or a half away and `k` is even. -/
theorem roundQuotient_eq {num den k : Nat} (divisor : 0 < den)
    (low : (k : ℚ) - 1 / 2 ≤ num / den) (high : (num : ℚ) / den ≤ k + 1 / 2)
    (even : (num : ℚ) / den = k - 1 / 2 ∨ (num : ℚ) / den = k + 1 / 2 → k % 2 = 0) :
    roundQuotient num den = k := by
  have den_pos : (0 : ℚ) < den := by exact_mod_cast divisor
  have low_nat : 2 * (den * k) ≤ 2 * num + den := by
    rw [le_div_iff₀ den_pos] at low
    have : (2 * (den * k) : ℚ) ≤ 2 * num + den := by linarith
    exact_mod_cast this
  have high_nat : 2 * num ≤ 2 * (den * k) + den := by
    rw [div_le_iff₀ den_pos] at high
    have : (2 * num : ℚ) ≤ 2 * (den * k) + den := by linarith
    exact_mod_cast this
  have even_nat : 2 * (den * k) = 2 * num + den ∨ 2 * num = 2 * (den * k) + den → k % 2 = 0 := by
    intro tie
    refine even (tie.imp (fun tie => ?_) fun tie => ?_)
    · have tie : (2 * (den * k) : ℚ) = 2 * num + den := by exact_mod_cast tie
      rw [div_eq_iff den_pos.ne']
      linarith
    · have tie : (2 * num : ℚ) = 2 * (den * k) + den := by exact_mod_cast tie
      rw [div_eq_iff den_pos.ne']
      linarith
  have split := Nat.div_add_mod num den
  have rest := Nat.mod_lt num divisor
  -- The floor is `k`, and the rest at most a half, or one less, and the rest at least a half.
  have floor_le : num / den ≤ k := by
    have : den * (num / den) < den * (k + 1) := by
      rw [Nat.mul_add]
      omega
    exact Nat.lt_succ_iff.1 (Nat.lt_of_mul_lt_mul_left this)
  have le_floor : k ≤ num / den + 1 := by
    have : den * k < den * (num / den + 2) := by
      rw [Nat.mul_add]
      omega
    exact Nat.lt_succ_iff.1 (Nat.lt_of_mul_lt_mul_left this)
  unfold roundQuotient
  simp only [Bool.or_eq_true, decide_eq_true_eq, Bool.and_eq_true, beq_iff_eq]
  rcases Nat.lt_or_ge (num / den) k with less | equal
  · have up : k = num / den + 1 := by omega
    have product : den * k = den * (num / den) + den := by rw [up, Nat.mul_add, Nat.mul_one]
    rw [if_pos (by omega), up]
  · have same : num / den = k := by omega
    rw [same] at split ⊢
    rw [if_neg (by omega)]

/-- The ends of what rounds to a word, around its mantissa. -/
theorem scaled_ends (m : Nat) (q : Int) :
    scaled (4 * m + 2) (q - 2) = (m + 1 / 2) * 2 ^ q ∧
      (0 < m → scaled (4 * m - 2) (q - 2) = (m - 1 / 2) * 2 ^ q) ∧
      (0 < m → scaled (4 * m - 1) (q - 2) = (m - 1 / 4) * 2 ^ q) := by
  have two : (2 : ℚ) ^ q = 2 ^ (q - 2) * 4 := by
    rw [zpow_sub₀ two_ne_zero]
    norm_num
  refine ⟨?_, fun positive => ?_, fun positive => ?_⟩
  · rw [scaled, two, Nat.cast_add, Nat.cast_mul]
    push_cast
    ring
  · rw [scaled, two, Nat.cast_sub (by omega), Nat.cast_mul]
    push_cast
    ring
  · rw [scaled, two, Nat.cast_sub (by omega), Nat.cast_mul]
    push_cast
    ring

/-- A quotient at another unit. -/
theorem ratio_eq (num den : Nat) (q : Int) :
    ((num * Nat.pow 2 (-q).toNat : Nat) : ℚ) / (den * Nat.pow 2 q.toNat : Nat) =
      num / den / 2 ^ q := by
  have two := zpow_eq_ratio (b := 2) (by decide) q
  have up := natPow_pos (b := 2) (by decide) q.toNat
  have down := natPow_pos (b := 2) (by decide) (-q).toNat
  rw [Nat.cast_ofNat] at two
  rw [two, Nat.cast_mul, Nat.cast_mul]
  field_simp

section

variable {num den m : Nat} {q : Int}

theorem scale_pos (divisor : 0 < den) (u : Int) : 0 < den * Nat.pow 2 u.toNat :=
  Nat.mul_pos divisor (Nat.pow_pos (by decide))

/-- What rounds to a word is rounded to its mantissa in the unit of the word. -/
theorem roundQuotient_unit (divisor : 0 < den) (positive : 0 < m)
    (rounds : RoundsTo ((num : ℚ) / den) m q) :
    roundQuotient (num * Nat.pow 2 (-q).toNat) (den * Nat.pow 2 q.toNat) = m := by
  obtain ⟨top, bottom, _⟩ := scaled_ends m q
  have unit_pos : (0 : ℚ) < 2 ^ q := by positivity
  have ends : scaled (4 * m - 2) (q - 2) ≤ scaled (lowEnd m q) (q - 2) := by
    refine scaled_le ?_ (q - 2)
    unfold lowEnd
    split <;> omega
  refine roundQuotient_eq (scale_pos divisor q) ?_ ?_ ?_
  · rw [ratio_eq, le_div_iff₀ unit_pos, ← bottom positive]
    exact ends.trans rounds.low
  · rw [ratio_eq, div_le_iff₀ unit_pos, ← top]
    exact rounds.high
  · rw [ratio_eq, div_eq_iff unit_pos.ne', div_eq_iff unit_pos.ne', ← top, ← bottom positive]
    rintro (tie | tie)
    · exact rounds.even (.inl (le_antisymm (tie ▸ ends) rounds.low))
    · exact rounds.even (.inr tie)

/-- What lies below a power of two and rounds to it is rounded up to the end of its binade, in the
unit of that. -/
theorem roundQuotient_binade (divisor : 0 < den) (power : m = Nat.pow 2 52)
    (later : leastExponent < q) (rounds : RoundsTo ((num : ℚ) / den) m q)
    (high : (num : ℚ) / den < 2 ^ (q + 52)) :
    roundQuotient (num * Nat.pow 2 (-(q - 1)).toNat) (den * Nat.pow 2 (q - 1).toNat) =
      9007199254740992 := by
  have edge : m = 4503599627370496 := power
  obtain ⟨_, _, narrow⟩ := scaled_ends m q
  have half : (2 : ℚ) ^ q = 2 ^ (q - 1) * 2 := by
    rw [← zpow_add_one₀ two_ne_zero, sub_add_cancel]
  have half_pos : (0 : ℚ) < 2 ^ (q - 1) := by positivity
  have cast : (m : ℚ) = 4503599627370496 := by
    rw [edge]
    norm_num
  have low : ((9007199254740992 : Nat) : ℚ) * 2 ^ (q - 1) - 1 / 2 * 2 ^ (q - 1) ≤ num / den := by
    have below : narrowBelow m q = true := by
      unfold narrowBelow
      simp [power, later, fractionBits]
    have := rounds.low
    rw [lowEnd, if_pos below, narrow (by omega), cast, half] at this
    push_cast
    linarith
  have high : (num : ℚ) / den < ((9007199254740992 : Nat) : ℚ) * 2 ^ (q - 1) := by
    have top : (2 : ℚ) ^ (q + 52) = 9007199254740992 * 2 ^ (q - 1) := by
      rw [show q + 52 = (53 : Nat) + (q - 1) by omega, zpow_add₀ two_ne_zero, zpow_natCast]
      norm_num
    rw [top] at high
    exact_mod_cast high
  refine roundQuotient_eq (scale_pos divisor (q - 1)) ?_ ?_ fun _ => rfl
  · rw [ratio_eq, le_div_iff₀ half_pos]
    linarith
  · rw [ratio_eq, div_le_iff₀ half_pos]
    linarith

/-- **A quotient gives the bits of the word it rounds to.** -/
theorem nearestBits_eq (divisor : 0 < den) (canonical : Canonical m q)
    (rounds : RoundsTo ((num : ℚ) / den) m q) : nearestBits num den = magnitudeBits m q := by
  have nonzero : 0 < num := by
    rcases Nat.eq_zero_or_pos num with zero | nonzero
    · have := rounds.pos canonical.positive
      simp [zero] at this
    · exact nonzero
  obtain ⟨low, high⟩ := log2Quotient_bounds nonzero divisor
  unfold nearestBits
  rw [if_neg nonzero.ne']
  simp only
  rcases unit_cases canonical rounds low high with unit | ⟨binade, power, later⟩
  · rw [unit, roundQuotient_unit divisor canonical.positive rounds]
    exact Nat.min_eq_left canonical.finite.le
  · have fraction : (fractionBits : Int) = 52 := rfl
    have unit : max (log2Quotient num den - fractionBits) leastExponent = q - 1 := by omega
    rw [binade, add_assoc] at high
    have rounded := roundQuotient_binade divisor power later rounds high
    have same : (q - 1 - leastExponent).toNat * Nat.pow 2 fractionBits + 9007199254740992 =
        magnitudeBits m q := by
      have edge : m = 4503599627370496 := power
      rw [magnitudeBits, pow_fractionBits]
      omega
    rw [unit, rounded, same]
    exact Nat.min_eq_left canonical.finite.le

end

/-! ## Decimals -/

/-- **A decimal is read as the word it rounds to**, unless its scale is out of all proportion. -/
theorem readDecimal_eq {negative : Bool} {digits count m : Nat} {scale q : Int}
    (canonical : Canonical m q) (rounds : RoundsTo (digits * 10 ^ scale) m q)
    (high : scale ≤ scaleLimit) (low : -scaleLimit ≤ scale + count) :
    readDecimal negative digits count scale = ofBits negative (magnitudeBits m q) := by
  have ten := zpow_eq_ratio (b := 10) (by decide) scale
  rw [Nat.cast_ofNat] at ten
  have quotient : (digits : ℚ) * 10 ^ scale =
      (digits * Nat.pow 10 scale.toNat : Nat) / (Nat.pow 10 (-scale).toNat : Nat) := by
    rw [ten, Nat.cast_mul, mul_div_assoc]
  have nonzero : digits ≠ 0 := by
    rintro rfl
    have := rounds.pos canonical.positive
    simp at this
  rw [quotient] at rounds
  have divisor : 0 < Nat.pow 10 (-scale).toNat := Nat.pow_pos (by decide)
  unfold readDecimal
  rw [if_neg nonzero, if_neg (by omega), if_neg (by omega), nearestBits_eq divisor canonical rounds]

/-- **A decimal that rounds to a float is read as that float.** -/
theorem readDecimal_roundsTo {x : Float} {s : Bool} {m : Nat} {q : Int}
    (finite : Number.ofFloat x = .finite s m q) (positive : 0 < m) {digits count : Nat}
    {scale : Int} (rounds : RoundsTo (digits * 10 ^ scale) m q)
    (high : scale ≤ scaleLimit) (low : -scaleLimit ≤ scale + count) :
    readDecimal s digits count scale = x := by
  obtain ⟨made, zero | canonical⟩ := eq_ofBits finite
  · omega
  · rw [readDecimal_eq canonical rounds high low, ← made]

end Wiring.Decimal
