/-
# Wiring.Proofs.Text.Digits -- decimal digits and what they denote

The value of a run of digits under appending, zeros in front of it and behind it.  The digits a
number is printed with denote it and do not start with a zero, so an integer is read back from
its text whenever it fits 64 bits (`readInteger_toString`).
-/
import Wiring.Text.Numerals
import Mathlib

namespace Wiring.Text

set_option autoImplicit false

/-! ## Values of digits -/

theorem digitsValue_eq (cs : List Char) : digitsValue cs = Nat.ofDigitChars 10 cs 0 :=
  Nat.ofDigitChars_eq_foldl.symm

theorem digitsValue_append (cs ds : List Char) :
    digitsValue (cs ++ ds) = 10 ^ ds.length * digitsValue cs + digitsValue ds := by
  rw [digitsValue_eq, digitsValue_eq, digitsValue_eq, Nat.ofDigitChars_append,
    Nat.ofDigitChars_eq_ofDigitChars_zero]

theorem digitsValue_replicate_zero (n : Nat) : digitsValue (List.replicate n '0') = 0 := by
  rw [digitsValue_eq, Nat.ofDigitChars_replicate_zero, Nat.mul_zero]

@[simp]
theorem digitsValue_toDigits (n : Nat) : digitsValue (Nat.toDigits 10 n) = n := by
  rw [digitsValue_eq, Nat.ofDigitChars_ten_toDigits]

/-- Zeros in front do not matter. -/
theorem digitsValue_padded (k n : Nat) :
    digitsValue (List.replicate k '0' ++ Nat.toDigits 10 n) = n := by
  rw [digitsValue_append, digitsValue_replicate_zero, digitsValue_toDigits, Nat.mul_zero,
    Nat.zero_add]

/-- Each zero behind is a factor of ten. -/
theorem digitsValue_shifted (n k : Nat) :
    digitsValue (Nat.toDigits 10 n ++ List.replicate k '0') = n * 10 ^ k := by
  rw [digitsValue_append, digitsValue_replicate_zero, digitsValue_toDigits, List.length_replicate,
    Nat.add_zero, Nat.mul_comm]

/-! ## Printed numbers -/

theorem all_isDigit_toDigits (n : Nat) : ∀ c ∈ Nat.toDigits 10 n, c.isDigit = true :=
  fun _ mem => Nat.isDigit_of_mem_toDigits (by decide) (by decide) mem

theorem isEmpty_toDigits (n : Nat) : (Nat.toDigits 10 n).isEmpty = false := by
  rw [List.isEmpty_eq_false_iff]
  exact Nat.toDigits_ne_nil

/-- The digits of a positive number do not start with a zero. -/
theorem head_toDigits {n : Nat} (positive : 0 < n) :
    ∃ c cs, Nat.toDigits 10 n = c :: cs ∧ c ≠ '0' := by
  induction n using Nat.strong_induction_on with
  | _ n ih =>
      rcases Nat.lt_or_ge n 10 with small | large
      · refine ⟨n.digitChar, [], Nat.toDigits_of_lt_base small, ?_⟩
        interval_cases n <;> decide
      · obtain ⟨c, cs, digits, nonzero⟩ := ih (n / 10) (by omega) (by omega)
        refine ⟨c, cs ++ [(n % 10).digitChar], ?_, nonzero⟩
        rw [Nat.toDigits_of_base_le (by decide) large, digits, List.cons_append]

theorem readDigits_toDigits (n : Nat) : readDigits (Nat.toDigits 10 n) = some n := by
  have digits : (Nat.toDigits 10 n).all Char.isDigit = true :=
    List.all_eq_true.2 (all_isDigit_toDigits n)
  unfold readDigits
  rw [isEmpty_toDigits, digits, digitsValue_toDigits]
  rfl

/-- The characters an integer is printed with. -/
theorem toList_toString_int (n : Int) :
    (toString n).toList = (if n < 0 then ['-'] else []) ++ Nat.toDigits 10 n.natAbs := by
  show n.repr.toList = _
  rw [Int.repr_eq_if]
  rcases lt_or_ge n 0 with negative | positive
  · rw [if_neg (by omega), if_pos negative, String.toList_append, Nat.toList_repr,
      show (-n).toNat = n.natAbs by omega]
    rfl
  · rw [if_pos positive, if_neg (by omega), Nat.toList_repr, show n.toNat = n.natAbs by omega]
    rfl

theorem readInteger_plus {ds : List Char} {n : Nat} (digits : readDigits ds = some n)
    (fits : fitsInteger n = true) : readInteger ('+' :: ds) = some (n : Int) := by
  unfold readInteger
  simp only [digits]
  exact Option.bind_eq_some_iff.2 ⟨n, rfl, if_pos fits⟩

theorem readInteger_minus {ds : List Char} {n : Nat} (digits : readDigits ds = some n)
    (fits : fitsInteger (-(n : Int)) = true) : readInteger ('-' :: ds) = some (-(n : Int)) := by
  simp [readInteger, digits, fits]

/-- A digit is no sign. -/
theorem readInteger_digit {c : Char} {cs : List Char} {n : Nat} (digit : c.isDigit = true)
    (digits : readDigits (c :: cs) = some n) (fits : fitsInteger n = true) :
    readInteger (c :: cs) = some (n : Int) := by
  unfold readInteger
  split
  · next same =>
    cases same
    exact absurd digit (by decide)
  · next same =>
    cases same
    exact absurd digit (by decide)
  · rw [digits]
    exact Option.bind_eq_some_iff.2 ⟨n, rfl, if_pos fits⟩

/-- **An integer of 64 bits is read back from its text.** -/
theorem readInteger_toString {n : Int} (fits : fitsInteger n = true) :
    readInteger (toString n).toList = some n := by
  have printed := readDigits_toDigits n.natAbs
  rw [toList_toString_int]
  rcases lt_or_ge n 0 with negative | positive
  · have same : -(n.natAbs : Int) = n := by omega
    rw [if_pos negative]
    have read := readInteger_minus printed (by rw [same]; exact fits)
    rwa [same] at read
  · have same : (n.natAbs : Int) = n := by omega
    rw [if_neg (by omega), List.nil_append]
    obtain ⟨c, cs, digits⟩ := List.exists_cons_of_ne_nil
      (Nat.toDigits_ne_nil (n := n.natAbs) (b := 10))
    have digit : c.isDigit = true := all_isDigit_toDigits n.natAbs c (by simp [digits])
    rw [digits] at printed ⊢
    have read := readInteger_digit digit printed (by rw [same]; exact fits)
    rwa [same] at read

/-! ## Texts of integers -/

theorem fitsInteger_iff {n : Int} : fitsInteger n = true ↔ -2 ^ 63 ≤ n ∧ n < 2 ^ 63 := by
  rw [fitsInteger, Bool.and_eq_true, decide_eq_true_eq, decide_eq_true_eq, minInteger,
    integerLimit, Nat.pow_eq]
  norm_num

/-- At least one decimal digit and nothing else. -/
structure DigitRun (ds : List Char) : Prop where
  nonempty : ds ≠ []
  digits : ∀ c ∈ ds, c.isDigit = true

/-- An optional sign and decimal digits, and the integer they denote. -/
inductive Denotes : List Char → Int → Prop
  | plain {ds : List Char} (run : DigitRun ds) : Denotes ds (Nat.ofDigitChars 10 ds 0)
  | plus {ds : List Char} (run : DigitRun ds) : Denotes ('+' :: ds) (Nat.ofDigitChars 10 ds 0)
  | minus {ds : List Char} (run : DigitRun ds) :
      Denotes ('-' :: ds) (-(Nat.ofDigitChars 10 ds 0 : Int))

theorem readDigits_eq_some_iff {ds : List Char} {n : Nat} :
    readDigits ds = some n ↔ DigitRun ds ∧ Nat.ofDigitChars 10 ds 0 = n := by
  rw [← digitsValue_eq, readDigits]
  constructor
  · intro read
    split at read
    · cases read
    · next run =>
      rw [Bool.or_eq_true, not_or, List.isEmpty_iff, Bool.not_eq_true', Bool.not_eq_false,
        List.all_eq_true] at run
      exact ⟨⟨run.1, run.2⟩, Option.some.inj read⟩
  · rintro ⟨⟨nonempty, digits⟩, rfl⟩
    rw [List.isEmpty_eq_false_iff.2 nonempty, List.all_eq_true.2 digits]
    rfl

/-- **A text is read as an integer exactly if it is an optional sign and digits**, and the integer
they denote has 64 bits. -/
theorem readInteger_eq_some_iff {cs : List Char} {n : Int} :
    readInteger cs = some n ↔ Denotes cs n ∧ fitsInteger n = true := by
  constructor
  · intro read
    -- whatever the sign, the digits are read first and the range is checked last
    have guarded {x : Option Int}
        (bound : (x.bind fun n => if fitsInteger n then some n else none) = some n) :
        x = some n ∧ fitsInteger n = true := by
      obtain ⟨m, value, kept⟩ := Option.bind_eq_some_iff.1 bound
      split at kept
      · next fits =>
        cases kept
        exact ⟨value, fits⟩
      · cases kept
    have denoted {ds : List Char} {f : Int → Int}
        (value : Option.map f (do let k ← readDigits ds; pure (k : Int)) = some n) :
        DigitRun ds ∧ f (Nat.ofDigitChars 10 ds 0 : Nat) = n := by
      obtain ⟨m, lifted, rfl⟩ := Option.map_eq_some_iff.1 value
      obtain ⟨k, digits, same⟩ := Option.bind_eq_some_iff.1 lifted
      obtain ⟨run, rfl⟩ := readDigits_eq_some_iff.1 digits
      cases same
      exact ⟨run, rfl⟩
    unfold readInteger at read
    split at read
    · obtain ⟨value, fits⟩ := guarded read
      obtain ⟨run, rfl⟩ := denoted value
      exact ⟨.minus run, fits⟩
    · obtain ⟨value, fits⟩ := guarded read
      obtain ⟨run, rfl⟩ := denoted value
      exact ⟨.plus run, fits⟩
    · obtain ⟨value, fits⟩ := guarded read
      obtain ⟨run, rfl⟩ := denoted value
      exact ⟨.plain run, fits⟩
  · rintro ⟨denotes, fits⟩
    cases denotes with
    | @plain ds run =>
      have read := readDigits_eq_some_iff.2 ⟨run, rfl⟩
      obtain ⟨c, cs, rfl⟩ := List.exists_cons_of_ne_nil run.nonempty
      exact readInteger_digit (run.digits c List.mem_cons_self) read fits
    | plus run => exact readInteger_plus (readDigits_eq_some_iff.2 ⟨run, rfl⟩) fits
    | minus run => exact readInteger_minus (readDigits_eq_some_iff.2 ⟨run, rfl⟩) fits

end Wiring.Text
