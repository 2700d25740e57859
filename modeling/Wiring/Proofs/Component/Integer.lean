/-
# Wiring.Proofs.Component.Integer -- which numbers an integer property accepts

A number is accepted exactly if it equals an integer of 64 bits in the range of the property, and
that integer is what the property is given (`coerce_eq_ok_iff`).  Any other number is wrong input.
-/
import Wiring.Component.Integer
import Wiring.Proofs.Decimal.Integral

namespace Wiring.Component.IntegerType

set_option autoImplicit false

open Wiring.Decimal
open Wiring.Text (fitsInteger)

variable {t : IntegerType} {x : Float} {n : Int}

theorem holds_iff : t.holds n = true ↔ t.low ≤ n ∧ n ≤ t.high := by
  rw [holds, Bool.and_eq_true, decide_eq_true_eq, decide_eq_true_eq]

/-- **A number is accepted as the integer of 64 bits that it equals**, if that is in the range of
the property. -/
theorem coerce_eq_ok_iff : t.coerce x = .ok n ↔
    (Number.ofFloat x).value? = some (n : ℚ) ∧ fitsInteger n = true ∧ t.low ≤ n ∧ n ≤ t.high := by
  unfold coerce
  simp only
  constructor
  · intro accepted
    split at accepted
    · cases accepted
    · next within =>
      split at accepted
      · cases accepted
      · next integral =>
        split at accepted
        · cases accepted
        · next held =>
          simp only [Bool.or_eq_true, not_or, Bool.not_eq_true, Bool.not_eq_false'] at within
          simp only [Bool.not_eq_true', Bool.not_eq_false] at integral held
          obtain ⟨⟨finite, low⟩, high⟩ := within
          obtain ⟨a, value⟩ := Number.isFinite_iff.1 finite
          obtain ⟨k, rfl⟩ := (Number.isIntegral_iff value).1 integral
          have range := (Number.withinRange_iff value).2.1 ⟨low, high⟩
          have fits : fitsInteger k = true := Text.fitsInteger_iff.2 (by exact_mod_cast range)
          rw [Number.toInteger_of_value value fits] at held accepted
          cases accepted
          exact ⟨value, fits, holds_iff.1 held⟩
  · rintro ⟨value, fits, held⟩
    have finite := Number.isFinite_iff.2 ⟨_, value⟩
    have integral := (Number.isIntegral_iff value).2 ⟨n, rfl⟩
    have range : (-2 ^ 63 : ℚ) ≤ n ∧ (n : ℚ) < 2 ^ 63 := by
      exact_mod_cast Text.fitsInteger_iff.1 fits
    obtain ⟨low, high⟩ := (Number.withinRange_iff value).2.2 range
    rw [finite, low, high, integral, Number.toInteger_of_value value fits, holds_iff.2 held]
    rfl

/-- A number that is not accepted is wrong input. -/
theorem coerce_eq_ok_or_wrongInput (t : IntegerType) (x : Float) :
    (∃ n, t.coerce x = .ok n) ∨ ∃ detail, t.coerce x = .error (.wrongInput detail) := by
  unfold coerce
  simp only
  split
  · exact .inr ⟨_, rfl⟩
  · split
    · exact .inr ⟨_, rfl⟩
    · split
      · exact .inr ⟨_, rfl⟩
      · exact .inl ⟨_, rfl⟩

end Wiring.Component.IntegerType
