/-
# Wiring.Proofs.Expression.Numerals -- the texts of numbers are literals with their values

A finite float is printed as a literal that is read as that float (`numeral_floatText`), and an
integer that a float equals as one that is read as the float, without the sign of zero
(`numeral_toString`).
-/
import Wiring.Proofs.Decimal.Rounding
import Wiring.Proofs.Text.Digits
import Wiring.Proofs.Expression.Chains
import Wiring.Decimal.Shortest

namespace Wiring.Expression

set_option autoImplicit false

open Wiring.Decimal

def signChars (negative : Bool) : List Char := if negative then ['-'] else []

/-- The float itself, but zero without a sign. -/
def plainZero (x : Float) : Float := if (Number.ofFloat x).isZero then ofBits false 0 else x

/-! ## Digits -/

/-- The digits of a positive number, with anything behind them, may stand before a point. -/
theorem wholeDigits_append {n : Nat} (positive : 0 < n) {cs : List Char}
    (digits : ∀ c ∈ cs, c.isDigit = true) : WholeDigits (Nat.toDigits 10 n ++ cs) := by
  refine .inr ⟨fun c mem => ?_, ?_⟩
  · rcases List.mem_append.1 mem with mem | mem
    · exact Text.all_isDigit_toDigits n c mem
    · exact digits c mem
  · obtain ⟨c, rest, first, nonzero⟩ := Text.head_toDigits positive
    rw [first]
    simpa using nonzero

/-- The digits of a number, with zeros in front if they are not more than the places behind the
point. -/
def padded (n places : Nat) : List Char :=
  List.replicate (places + 1 - (Nat.toDigits 10 n).length) '0' ++ Nat.toDigits 10 n

theorem length_padded (n places : Nat) : places < (padded n places).length := by
  rw [padded, List.length_append, List.length_replicate]
  omega

theorem all_isDigit_padded (n places : Nat) : ∀ c ∈ padded n places, c.isDigit = true := by
  intro c mem
  rcases List.mem_append.1 mem with zero | mem
  · rw [List.eq_of_mem_replicate zero]
    rfl
  · exact Text.all_isDigit_toDigits n c mem

/-- What stands before the point: a single zero, or digits that do not begin with one. -/
theorem wholeDigits_padded {n : Nat} (positive : 0 < n) (places : Nat) :
    WholeDigits ((padded n places).take ((padded n places).length - places)) := by
  have length := length_padded n places
  have all := all_isDigit_padded n places
  rcases Nat.lt_or_ge (Nat.toDigits 10 n).length (places + 1) with few | many
  · have one : (padded n places).length - places = 1 := by
      rw [padded, List.length_append, List.length_replicate]
      omega
    obtain ⟨k, zeros⟩ : ∃ k, places + 1 - (Nat.toDigits 10 n).length = k + 1 :=
      ⟨places - (Nat.toDigits 10 n).length, by omega⟩
    rw [one, padded, zeros, List.replicate_succ]
    exact .inl (by simp)
  · have none : places + 1 - (Nat.toDigits 10 n).length = 0 := by omega
    have bare : padded n places = Nat.toDigits 10 n := by
      rw [padded, none, List.replicate_zero, List.nil_append]
    obtain ⟨c, rest, first, nonzero⟩ := Text.head_toDigits positive
    rw [bare, first] at length all ⊢
    obtain ⟨k, taken⟩ : ∃ k, (c :: rest).length - places = k + 1 :=
      ⟨(c :: rest).length - places - 1, by omega⟩
    rw [taken]
    exact .inr ⟨fun d mem => all d (List.mem_of_mem_take mem), by simpa using nonzero⟩

section

variable {x : Float} {s : Bool} {m : Nat} {q : Int} {n : Nat}

/-- A decimal that is written without a point. -/
theorem numeral_whole (finite : Number.ofFloat x = .finite s m q) (nonzero : 0 < m)
    (positive : 0 < n) (k : Nat) (rounds : RoundsTo (n * 10 ^ (k : Int)) m q) :
    Numeral (signChars s ++ (Nat.toDigits 10 n ++ List.replicate k '0')) x := by
  have zeros : ∀ c ∈ List.replicate k '0', c.isDigit = true := by
    intro c mem
    rw [List.eq_of_mem_replicate mem]
    rfl
  refine ⟨⟨s, Nat.toDigits 10 n ++ List.replicate k '0', none⟩, ⟨?_, ?_, ?_⟩, ?_, ?_⟩
  · exact wholeDigits_append positive zeros
  · rintro c ⟨⟩
  · simp
  · rw [Literal.chars_eq, Literal.tail, List.append_nil]
    rfl
  · have same : ((n * 10 ^ k : Nat) : ℚ) * 10 ^ (0 : Int) = n * 10 ^ (k : Int) := by
      rw [zpow_zero, mul_one, zpow_natCast, Nat.cast_mul, Nat.cast_pow, Nat.cast_ofNat]
    rw [← same] at rounds
    rw [Literal.value, Literal.places]
    simp only [Option.getD_none, List.append_nil, List.length_nil, Nat.cast_zero, neg_zero]
    rw [Text.digitsValue_shifted]
    exact readDecimal_roundsTo finite nonzero rounds (by decide) (by rw [scaleLimit]; omega)

/-- A decimal that is written with a point, zeros in front if there are few digits. -/
theorem numeral_pointed (finite : Number.ofFloat x = .finite s m q) (nonzero : 0 < m)
    (positive : 0 < n) {places : Nat} (some : 0 < places)
    (rounds : RoundsTo (n * 10 ^ (-(places : Int))) m q) :
    Numeral (signChars s ++ ((padded n places).take ((padded n places).length - places) ++
      '.' :: (padded n places).drop ((padded n places).length - places))) x := by
  have length := length_padded n places
  have all := all_isDigit_padded n places
  have whole := wholeDigits_padded positive places
  have value : Text.digitsValue (padded n places) = n := Text.digitsValue_padded _ n
  generalize padded n places = ds at *
  refine ⟨⟨s, ds.take (ds.length - places), .some (ds.drop (ds.length - places))⟩,
    ⟨whole, fun c mem => all c (List.mem_of_mem_drop mem), ?_⟩, ?_, ?_⟩
  · rw [Literal.places, Option.getD_some, List.take_append_drop]
    exact List.ne_nil_of_length_pos (by omega)
  · rw [Literal.chars_eq, Literal.tail]
    rfl
  · have behind : (ds.drop (ds.length - places)).length = places := by
      rw [List.length_drop]
      omega
    rw [Literal.value, Literal.places, Option.getD_some, List.take_append_drop, behind, value]
    exact readDecimal_roundsTo finite nonzero rounds (by rw [scaleLimit]; omega)
      (by rw [scaleLimit]; omega)

/-! ## Numbers -/

/-- **A float is printed as a literal that is read as that float.** -/
theorem numeral_floatText (finite : Number.ofFloat x = .finite s m q) (nonzero : 0 < m) :
    Numeral (floatText x).toList x := by
  have rounds := roundsTo_shortest nonzero q
  have positive : 0 < (shortest m q).digits := by
    rcases Nat.eq_zero_or_pos (shortest m q).digits with zero | positive
    · have := rounds.pos nonzero
      simp [Digits.value, zero] at this
    · exact positive
  have shape : (floatText x).toList = signChars s ++ positional (shortest m q) := by
    rw [floatText, finite, Number.render, String.toList_ofList, if_neg nonzero.ne', signChars]
    cases s <;> rfl
  rw [shape, positional]
  rw [Digits.value] at rounds
  simp only
  split
  · next up =>
    have scale : ((shortest m q).scale.toNat : Int) = (shortest m q).scale := by omega
    rw [if_neg (by simpa using positive.ne')]
    exact numeral_whole finite nonzero positive _ (by rw [scale]; exact rounds)
  · next down =>
    have scale : -((-(shortest m q).scale).toNat : Int) = (shortest m q).scale := by omega
    exact numeral_pointed finite nonzero positive (by omega) (by rw [scale]; exact rounds)

/-- The sign and the magnitude of an integer that a number other than zero equals. -/
theorem magnitude_of_value {n : Int} (nonzero : 0 < m)
    (value : (if s then -scaled m q else scaled m q) = n) :
    (n.natAbs : ℚ) = scaled m q ∧ decide (n < 0) = s := by
  have positive := scaled_pos nonzero q
  cases s with
  | true =>
    rw [if_pos rfl] at value
    have below : n < 0 := by
      have : (n : ℚ) < 0 := by linarith
      exact_mod_cast this
    have cast : ((n.natAbs : Int) : ℚ) = -n := by
      rw [show (n.natAbs : Int) = -n by omega, Int.cast_neg]
    rw [← value, neg_neg, Int.cast_natCast] at cast
    exact ⟨cast, decide_eq_true below⟩
  | false =>
    rw [if_neg (by decide)] at value
    have above : 0 < n := by
      have : (0 : ℚ) < n := by linarith
      exact_mod_cast this
    have cast : ((n.natAbs : Int) : ℚ) = n := by
      rw [show (n.natAbs : Int) = n by omega]
    rw [← value, Int.cast_natCast] at cast
    exact ⟨cast, decide_eq_false (by omega)⟩

/-- **An integer is printed as a literal that is read as the float that equals it.** -/
theorem numeral_toString {n : Int} (finite : Number.ofFloat x = .finite s m q)
    (same : (Number.ofFloat x).value? = some (n : ℚ)) :
    Numeral (toString n).toList (plainZero x) := by
  have value : (if s then -scaled m q else scaled m q) = n := by
    rw [finite] at same
    exact Option.some.inj same
  rw [Text.toList_toString_int, plainZero, finite, Number.isZero]
  rcases Nat.eq_zero_or_pos m with zero | nonzero
  · have none : n = 0 := by
      have : (n : ℚ) = 0 := by
        rw [← value, zero]
        simp [scaled]
      exact_mod_cast this
    rw [none, zero]
    exact ⟨⟨false, ['0'], .none⟩, ⟨.inl (by simp), by rintro c ⟨⟩, by simp⟩, rfl, rfl⟩
  · obtain ⟨magnitude, sign⟩ := magnitude_of_value nonzero value
    have positive : 0 < n.natAbs := by
      have := scaled_pos nonzero q
      rw [← magnitude] at this
      exact_mod_cast this
    have rounds := roundsTo_self nonzero q
    rw [← magnitude, ← mul_one (n.natAbs : ℚ), ← zpow_zero 10] at rounds
    have whole := numeral_whole finite nonzero positive 0 rounds
    rw [List.replicate_zero, List.append_nil, ← sign, signChars] at whole
    have notZero : ¬(m == 0) = true := by simpa using nonzero.ne'
    rw [if_neg notZero]
    simpa using whole

end

end Wiring.Expression
