/-
# Wiring.Proofs.Expression.Literals -- a literal in front of what may follow it is read whole

A literal is well formed if its digits are digits, there is one of them, and a zero in front has
only zeros behind it up to the point.  In front of the end, a blank or an operator such a literal
is read as it stands (`readLiteral_chars`) and gives its value (`readTerm_chars`).
-/
import Wiring.Expression.Arithmetic
import Mathlib.Data.List.Basic

namespace Wiring.Expression

set_option autoImplicit false

open Wiring.Text (isAsciiBlank)

/-! ## Well-formed literals -/

/-- Digits before the point: zeros only, or digits that do not start with one. -/
def WholeDigits (cs : List Char) : Prop :=
  (∀ c ∈ cs, c = '0') ∨ (∀ c ∈ cs, c.isDigit = true) ∧ cs.head? ≠ some '0'

/-- A literal as the grammar has it. -/
structure Literal.Wellformed (l : Literal) : Prop where
  whole : WholeDigits l.whole
  places : ∀ c ∈ l.places, c.isDigit = true
  digits : l.whole ++ l.places ≠ []

/-- The float nearest to a literal that has digits. -/
def Literal.value (l : Literal) : Float :=
  Decimal.readDecimal l.negative (Text.digitsValue (l.whole ++ l.places))
    (l.whole ++ l.places).length (-(l.places.length : Int))

theorem Literal.Wellformed.value? {l : Literal} (wellformed : l.Wellformed) :
    l.value? = some l.value := by
  unfold Literal.value?
  simp only
  rw [if_neg (by simpa using wellformed.digits)]
  rfl

/-- The characters behind the digits before the point. -/
def Literal.tail (l : Literal) : List Char :=
  match l.fraction with
  | some ds => '.' :: ds
  | none => []

theorem Literal.chars_eq (l : Literal) :
    l.chars = (if l.negative then ['-'] else []) ++ (l.whole ++ l.tail) := by
  unfold Literal.chars Literal.tail
  cases l.fraction <;> exact List.append_assoc _ _ _

/-! ## What may follow a term -/

/-- A text that a term may stand before. -/
def Stops (rest : List Char) : Prop := ∀ c ∈ rest.head?, endsTerm c = true

theorem Stops.nil : Stops [] := by
  rintro c ⟨⟩

theorem Stops.cons {c : Char} (ends : endsTerm c = true) (rest : List Char) :
    Stops (c :: rest) := by
  rintro _ ⟨⟩
  exact ends

/-- No digit and no point ends a term. -/
theorem not_endsTerm_of_isDigit {c : Char} (digit : c.isDigit = true) : endsTerm c = false := by
  simp only [Char.isDigit, Bool.and_eq_true, decide_eq_true_eq] at digit
  have low : '0' ≤ c := digit.1
  have other {d : Char} (less : d < '0') : c ≠ d := by
    rintro rfl
    exact absurd less (Char.not_lt.2 low)
  have signs : Operator.ofChar? c = none := by
    unfold Operator.ofChar?
    split
    · exact absurd rfl (other (by decide))
    · exact absurd rfl (other (by decide))
    · exact absurd rfl (other (by decide))
    · exact absurd rfl (other (by decide))
    · rfl
  have blanks : isAsciiBlank c = false := by
    unfold isAsciiBlank
    simp only [Bool.or_eq_false_iff, beq_eq_false_iff_ne, ne_eq]
    exact ⟨⟨⟨⟨other (by decide), other (by decide)⟩, other (by decide)⟩, other (by decide)⟩,
      other (by decide)⟩
  rw [endsTerm, signs, blanks]
  rfl

theorem Stops.afterTerm {rest : List Char} (stops : Stops rest) : afterTerm rest = .ok rest := by
  cases rest with
  | nil => rfl
  | cons c rest => exact if_pos (stops c rfl)

/-- No head of what follows a term is a digit. -/
theorem Stops.head {rest : List Char} (stops : Stops rest) :
    ∀ c ∈ rest.head?, c.isDigit = false := by
  intro c mem
  by_contra digit
  have ends := stops c mem
  rw [not_endsTerm_of_isDigit (by simpa using digit)] at ends
  cases ends

/-! ## Cutting off what a predicate accepts -/

theorem takeWhile_append_stop {p : Char → Bool} {cs rest : List Char} (all : ∀ c ∈ cs, p c = true)
    (stop : ∀ c ∈ rest.head?, p c = false) : (cs ++ rest).takeWhile p = cs := by
  rw [List.takeWhile_append_of_pos all]
  cases rest with
  | nil => rw [List.takeWhile_nil, List.append_nil]
  | cons c rest => rw [List.takeWhile_cons_of_neg (by simp [stop c rfl]), List.append_nil]

theorem dropWhile_append_stop {p : Char → Bool} {cs rest : List Char} (all : ∀ c ∈ cs, p c = true)
    (stop : ∀ c ∈ rest.head?, p c = false) : (cs ++ rest).dropWhile p = rest := by
  rw [List.dropWhile_append_of_pos all]
  cases rest with
  | nil => rfl
  | cons c rest => exact List.dropWhile_cons_of_neg (by simp [stop c rfl])

/-! ## Reading -/

section

variable {l : Literal} {rest : List Char}

/-- The part behind the whole digits. -/
theorem readFraction_tail (places : ∀ c ∈ l.places, c.isDigit = true) (stops : Stops rest) :
    readFraction l.negative l.whole (l.tail ++ rest) = .ok (l, rest) := by
  obtain ⟨negative, whole, fraction⟩ := l
  cases fraction with
  | none =>
    show readFraction negative whole rest = _
    unfold readFraction
    split
    · exact absurd (stops '.' rfl) (by decide)
    · rw [stops.afterTerm]
      rfl
  | some ds =>
    have taken : (ds ++ rest).takeWhile Char.isDigit = ds := takeWhile_append_stop places stops.head
    have dropped : (ds ++ rest).dropWhile Char.isDigit = rest :=
      dropWhile_append_stop places stops.head
    show readFraction negative whole ('.' :: (ds ++ rest)) = _
    unfold readFraction
    simp only
    rw [taken, dropped, stops.afterTerm]
    rfl

/-- No head of the part behind the whole digits is a digit. -/
theorem head_tail (stops : Stops rest) : ∀ c ∈ (l.tail ++ rest).head?, c.isDigit = false := by
  unfold Literal.tail
  split
  · rintro _ ⟨⟩
    rfl
  · exact stops.head

/-- Digits that may stand before a point are taken all, either as zeros or as digits. -/
theorem readUnsigned_whole {cs : List Char} (negative : Bool) (whole : WholeDigits cs)
    (nonempty : cs ≠ []) (stop : ∀ c ∈ rest.head?, c.isDigit = false) :
    readUnsigned negative (cs ++ rest) = readFraction negative cs rest := by
  obtain ⟨c, cs, rfl⟩ := List.exists_cons_of_ne_nil nonempty
  rcases whole with zeros | ⟨digits, nonzero⟩
  · cases zeros c List.mem_cons_self
    have all : ∀ c ∈ '0' :: cs, (c == '0') = true := fun c mem => by simpa using zeros c mem
    have none : ∀ c ∈ rest.head?, (c == '0') = false := by
      intro c mem
      have digit := stop c mem
      rw [beq_eq_false_iff_ne]
      rintro rfl
      cases digit
    show readFraction _ (('0' :: cs ++ rest).takeWhile (· == '0'))
      (('0' :: cs ++ rest).dropWhile (· == '0')) = _
    rw [takeWhile_append_stop all none, dropWhile_append_stop all none]
  · have digit := digits c List.mem_cons_self
    have taken := takeWhile_append_stop digits stop
    have dropped := dropWhile_append_stop digits stop
    unfold readUnsigned
    split
    · next empty => cases empty
    · next point =>
      cases point
      cases digit
    · next zero =>
      cases zero
      exact absurd rfl nonzero
    · next same =>
      cases same
      rw [if_pos digit, taken, dropped]

/-- The digits of a literal, and what follows them. -/
theorem readUnsigned_chars (wellformed : l.Wellformed) (stops : Stops rest) :
    readUnsigned l.negative (l.whole ++ (l.tail ++ rest)) = .ok (l, rest) := by
  have behind := readFraction_tail wellformed.places stops
  by_cases leading : l.whole = []
  · -- The digits are behind the point.
    rw [leading] at behind ⊢
    cases fraction : l.fraction with
    | none =>
      refine absurd ?_ wellformed.digits
      rw [leading, Literal.places, fraction]
      rfl
    | some ds =>
      rw [Literal.tail, fraction] at behind ⊢
      exact behind
  · rw [readUnsigned_whole l.negative wellformed.whole leading (head_tail stops), behind]

/-- **A well-formed literal is read as it stands.** -/
theorem readLiteral_chars (wellformed : l.Wellformed) (stops : Stops rest) :
    readLiteral (l.chars ++ rest) = .ok (l, rest) := by
  have unsigned := readUnsigned_chars wellformed stops
  rw [Literal.chars_eq, List.append_assoc, List.append_assoc]
  cases negative : l.negative with
  | true =>
    rw [negative] at unsigned
    exact unsigned
  | false =>
    rw [negative] at unsigned
    rw [if_neg (by decide), List.nil_append]
    unfold readLiteral
    split
    · next minus =>
      -- A minus is none of the characters that a literal starts with.
      rw [minus] at unsigned
      cases unsigned
    · exact unsigned

theorem readTerm_chars (wellformed : l.Wellformed) (stops : Stops rest) :
    readTerm (l.chars ++ rest) = .ok (l.value, rest) := by
  unfold readTerm
  rw [readLiteral_chars wellformed stops]
  simp only [bind, Except.bind]
  rw [wellformed.value?]
  rfl

end

end Wiring.Expression
