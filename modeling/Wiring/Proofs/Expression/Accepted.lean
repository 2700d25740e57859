/-
# Wiring.Proofs.Expression.Accepted -- what the readers of a term accept, and how they fail

A term is read exactly if a well-formed literal stands in front of the end, a blank or an operator
(`readTerm_eq_ok_iff`).  No reader of a term finds a division by zero: its faults are faults of the
text (`readTerm_error`).
-/
import Wiring.Proofs.Expression.Literals

namespace Wiring.Expression

set_option autoImplicit false

variable {negative : Bool} {whole cs rest : List Char} {l : Literal}

/-! ## Accepted texts -/

theorem stops_of_afterTerm (read : afterTerm cs = .ok rest) : Stops rest := by
  cases afterTerm_eq_ok read
  cases cs with
  | nil => exact Stops.nil
  | cons c cs =>
    by_cases ends : endsTerm c = true
    · exact Stops.cons ends cs
    · rw [afterTerm, if_neg ends] at read
      cases read

/-- What the part behind the whole digits is read as. -/
theorem readFraction_eq_ok (read : readFraction negative whole cs = .ok (l, rest)) :
    l.negative = negative ∧ l.whole = whole ∧ (∀ c ∈ l.places, c.isDigit = true) ∧
      cs = l.tail ++ rest ∧ Stops rest := by
  unfold readFraction at read
  split at read
  · next more =>
    cases behind : afterTerm (more.dropWhile Char.isDigit) with
    | error fault => simp [behind, bind, Except.bind] at read
    | ok after =>
      simp only [behind, bind, Except.bind, pure, Except.pure, Except.ok.injEq,
        Prod.mk.injEq] at read
      obtain ⟨rfl, rfl⟩ := read
      have same := afterTerm_eq_ok behind
      refine ⟨rfl, rfl, fun c mem => List.all_eq_true.1 List.all_takeWhile c mem, ?_,
        stops_of_afterTerm behind⟩
      rw [same, Literal.tail, List.cons_append, List.takeWhile_append_dropWhile]
  · cases behind : afterTerm cs with
    | error fault => simp [behind, bind, Except.bind] at read
    | ok after =>
      simp only [behind, bind, Except.bind, pure, Except.pure, Except.ok.injEq,
        Prod.mk.injEq] at read
      obtain ⟨rfl, rfl⟩ := read
      refine ⟨rfl, rfl, ?_, (afterTerm_eq_ok behind).symm, stops_of_afterTerm behind⟩
      rintro c ⟨⟩

/-- What the digits of a literal are read as. -/
theorem readUnsigned_eq_ok (read : readUnsigned negative cs = .ok (l, rest)) :
    l.negative = negative ∧ WholeDigits l.whole ∧ (∀ c ∈ l.places, c.isDigit = true) ∧
      cs = l.whole ++ (l.tail ++ rest) ∧ Stops rest := by
  unfold readUnsigned at read
  split at read
  · cases read
  · obtain ⟨sign, none, places, shape, stops⟩ := readFraction_eq_ok read
    refine ⟨sign, ?_, places, ?_, stops⟩
    · rw [none]
      exact .inl (by simp)
    · rw [none, ← shape]
      rfl
  · next zeros =>
    obtain ⟨sign, digits, places, shape, stops⟩ := readFraction_eq_ok read
    refine ⟨sign, ?_, places, ?_, stops⟩
    · rw [digits]
      refine .inl fun c mem => ?_
      simpa using List.all_eq_true.1 List.all_takeWhile c mem
    · rw [digits, ← shape, List.takeWhile_append_dropWhile]
  · next c cs _ notZero =>
    split at read
    · next digit =>
      obtain ⟨sign, digits, places, shape, stops⟩ := readFraction_eq_ok read
      refine ⟨sign, ?_, places, ?_, stops⟩
      · rw [digits]
        refine .inr ⟨fun d mem => List.all_eq_true.1 List.all_takeWhile d mem, ?_⟩
        rw [List.takeWhile_cons_of_pos digit, List.head?_cons, ne_eq, Option.some.injEq]
        rintro rfl
        exact notZero rfl
      · rw [digits, ← shape, List.takeWhile_append_dropWhile]
    · cases read

theorem readLiteral_eq_ok (read : readLiteral cs = .ok (l, rest)) :
    WholeDigits l.whole ∧ (∀ c ∈ l.places, c.isDigit = true) ∧ cs = l.chars ++ rest ∧
      Stops rest := by
  unfold readLiteral at read
  split at read
  · obtain ⟨sign, digits, places, shape, stops⟩ := readUnsigned_eq_ok read
    refine ⟨digits, places, ?_, stops⟩
    rw [Literal.chars_eq, sign, shape]
    simp
  · obtain ⟨sign, digits, places, shape, stops⟩ := readUnsigned_eq_ok read
    refine ⟨digits, places, ?_, stops⟩
    rw [Literal.chars_eq, sign, shape]
    simp

theorem Literal.value?_eq_some {v : Float} (found : l.value? = some v) :
    l.whole ++ l.places ≠ [] ∧ v = l.value := by
  unfold Literal.value? at found
  simp only at found
  split at found
  · cases found
  · next nonempty =>
    cases found
    exact ⟨by simpa using nonempty, rfl⟩

/-- **A term is a well-formed literal that nothing sticks to.** -/
theorem readTerm_eq_ok_iff {v : Float} :
    readTerm cs = .ok (v, rest) ↔
      ∃ l : Literal, l.Wellformed ∧ cs = l.chars ++ rest ∧ Stops rest ∧ v = l.value := by
  constructor
  · intro read
    unfold readTerm at read
    cases literal : readLiteral cs with
    | error fault => simp [literal, bind, Except.bind] at read
    | ok found =>
      obtain ⟨l, after⟩ := found
      simp only [literal, bind, Except.bind] at read
      obtain ⟨digits, places, shape, stops⟩ := readLiteral_eq_ok literal
      split at read
      · next v found =>
        cases read
        obtain ⟨nonempty, value⟩ := Literal.value?_eq_some found
        exact ⟨l, ⟨digits, places, nonempty⟩, shape, stops, value⟩
      · cases read
  · rintro ⟨l, wellformed, rfl, stops, rfl⟩
    exact readTerm_chars wellformed stops

/-! ## Faults -/

variable {fault : ArithmeticFault}

theorem afterTerm_error (read : afterTerm cs = .error fault) : fault ≠ .divisionByZero := by
  unfold afterTerm at read
  split at read
  · cases read
  · split at read
    · cases read
    · cases read
      simp

theorem readFraction_error (read : readFraction negative whole cs = .error fault) :
    fault ≠ .divisionByZero := by
  unfold readFraction at read
  split at read
  · next more =>
    cases behind : afterTerm (more.dropWhile Char.isDigit) with
    | error fault =>
      rw [behind] at read
      cases read
      exact afterTerm_error behind
    | ok after =>
      rw [behind] at read
      cases read
  · cases behind : afterTerm cs with
    | error fault =>
      rw [behind] at read
      cases read
      exact afterTerm_error behind
    | ok after =>
      rw [behind] at read
      cases read

theorem readUnsigned_error (read : readUnsigned negative cs = .error fault) :
    fault ≠ .divisionByZero := by
  unfold readUnsigned at read
  split at read
  · cases read
    simp
  · exact readFraction_error read
  · exact readFraction_error read
  · split at read
    · exact readFraction_error read
    · cases read
      simp

theorem readTerm_error (read : readTerm cs = .error fault) : fault ≠ .divisionByZero := by
  unfold readTerm at read
  cases literal : readLiteral cs with
  | error fault =>
    rw [literal] at read
    cases read
    unfold readLiteral at literal
    split at literal
    · exact readUnsigned_error literal
    · exact readUnsigned_error literal
  | ok found =>
    obtain ⟨l, after⟩ := found
    simp only [literal, bind, Except.bind] at read
    split at read
    · cases read
    · cases read
      simp

end Wiring.Expression
