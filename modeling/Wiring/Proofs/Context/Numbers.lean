/-
# Wiring.Proofs.Context.Numbers -- how the result of a number constant is published

A result is published as an integer exactly if it equals one of 64 bits, and as the float it is
otherwise (`classified_numberValue`).  Either way the text of what is published is a literal that
is read as the result again, a zero without its sign (`numeral_numberValue`).

The test is not the one that integer properties make, but comes to the same
(`integers_told_exactly`).
-/
import Wiring.Context.Values
import Wiring.Proofs.Component.Integer
import Wiring.Proofs.Expression.Numerals

namespace Wiring.Context

set_option autoImplicit false

open Wiring.Component (IntegerType)
open Wiring.Decimal (Number scaled)
open Wiring.Expression (Numeral plainZero)

/-- `v` is the integer of 64 bits that `x` equals, or `x` itself if there is none. -/
inductive Classified (x : Float) : Config.Value → Prop
  | integral {n : Int} (same : (Number.ofFloat x).value? = some (n : ℚ))
      (fits : Text.fitsInteger n = true) : Classified x (.int n)
  | other (none : ∀ n : Int, (Number.ofFloat x).value? = some (n : ℚ) →
      Text.fitsInteger n = false) : Classified x (.float x)

theorem numberValue_cases (x : Float) :
    (∃ n, numberValue x = .int n) ∨ numberValue x = .float x := by
  unfold numberValue
  simp only
  split
  · exact .inl ⟨_, rfl⟩
  · exact .inr rfl

/-- A result is published as an integer exactly if it equals that integer, of 64 bits. -/
theorem numberValue_eq_int_iff {x : Float} {n : Int} : numberValue x = .int n ↔
    (Number.ofFloat x).value? = some (n : ℚ) ∧ Text.fitsInteger n = true := by
  unfold numberValue
  simp only
  constructor
  · intro published
    split at published
    · next tests =>
      rw [Bool.and_eq_true, Bool.and_eq_true] at tests
      obtain ⟨⟨own, low⟩, high⟩ := tests
      obtain ⟨a, value⟩ := Number.exists_value_of_withinRange low high
      obtain ⟨k, rfl⟩ := (Number.same_floor_iff value).1 own
      have range := (Number.withinRange_iff value).1.1 ⟨low, high⟩
      have fits : Text.fitsInteger k = true := Text.fitsInteger_iff.2 (by exact_mod_cast range)
      rw [Number.toInteger_of_value value fits] at published
      cases published
      exact ⟨value, fits⟩
    · cases published
  · rintro ⟨value, fits⟩
    have range : (-2 ^ 63 : ℚ) ≤ n ∧ (n : ℚ) < 2 ^ 63 := by
      exact_mod_cast Text.fitsInteger_iff.1 fits
    obtain ⟨low, high⟩ := (Number.withinRange_iff value).1.2 range
    rw [(Number.same_floor_iff value).2 ⟨n, rfl⟩, low, high, Number.toInteger_of_value value fits]
    rfl

/-- **A result is published as the integer of 64 bits it equals, else as it is.** -/
theorem classified_numberValue (x : Float) : Classified x (numberValue x) := by
  rcases numberValue_cases x with ⟨n, published⟩ | published
  · obtain ⟨same, fits⟩ := numberValue_eq_int_iff.1 published
    rw [published]
    exact .integral same fits
  · rw [published]
    refine .other fun n same => Bool.eq_false_iff.2 fun fits => ?_
    rw [numberValue_eq_int_iff.2 ⟨same, fits⟩] at published
    cases published

/-- The integers of 64 bits are those that fit. -/
theorem signed64_iff {n : Int} :
    (IntegerType.signed 64).low ≤ n ∧ n ≤ (IntegerType.signed 64).high ↔
      Text.fitsInteger n = true := by
  rw [Text.fitsInteger, Bool.and_eq_true, decide_eq_true_eq, decide_eq_true_eq]
  exact and_congr Iff.rfl Int.le_sub_one_iff

/-- **Both ways of telling integers from other numbers are exact, and agree.**  An integer property
accepts exactly the numbers that equal an integer of 64 bits in its range, as that integer, and
all others are wrong input.  A result is published as the integer that a property of 64 bits
accepts it as, and as it is if there is none. -/
theorem integers_told_exactly (x : Float) :
    (∀ (t : IntegerType) (n : Int), t.coerce x = .ok n ↔
      (Number.ofFloat x).value? = some (n : ℚ) ∧ (-2 ^ 63 ≤ n ∧ n < 2 ^ 63) ∧
        t.low ≤ n ∧ n ≤ t.high) ∧
    (∀ t : IntegerType, (∃ n, t.coerce x = .ok n) ∨
      ∃ detail, t.coerce x = .error (.wrongInput detail)) ∧
    (∀ n : Int, numberValue x = .int n ↔ (IntegerType.signed 64).coerce x = .ok n) ∧
    ((∃ n : Int, numberValue x = .int n) ∨ numberValue x = .float x) := by
  refine ⟨fun t n => ?_, fun t => t.coerce_eq_ok_or_wrongInput x, fun n => ?_,
    numberValue_cases x⟩
  · rw [IntegerType.coerce_eq_ok_iff, Text.fitsInteger_iff]
  · rw [numberValue_eq_int_iff, IntegerType.coerce_eq_ok_iff, signed64_iff, and_self]

/-- **What a finite result is published as is written as a literal that is read as the result.** -/
theorem numeral_numberValue {x : Float} {s : Bool} {m : Nat} {q : Int}
    (finite : Number.ofFloat x = .finite s m q) :
    ∃ text, (numberValue x).text? = some text ∧ Numeral text.toList (plainZero x) := by
  have classified := classified_numberValue x
  generalize numberValue x = v at classified
  cases classified with
  | integral same fits => exact ⟨_, rfl, Expression.numeral_toString finite same⟩
  | other none =>
    have nonzero : 0 < m := by
      refine Nat.pos_of_ne_zero ?_
      rintro rfl
      have unfit := none 0 (by rw [finite, Number.value?]; cases s <;> simp [scaled])
      cases unfit
    refine ⟨_, rfl, ?_⟩
    rw [plainZero, finite, Number.isZero, if_neg (by simpa using nonzero.ne')]
    exact Expression.numeral_floatText finite nonzero

end Wiring.Context
