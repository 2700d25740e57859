/-
# Wiring.Proofs.Expression.Comparisons -- which texts compare two words, and which read back

A comparison is spelled as a word, an operator and a word, with blanks on either side of the
operator and nowhere else (`Spelling`).  Words, blanks and operators have no character in common,
so each part ends where the next begins, and a text is spelled in one way at most
(`Spelling.Proper.unique`).

Main statement: `parse_exact`, for every text, and for every comparison that is written out.
-/
import Wiring.Expression.Comparison
import Wiring.Proofs.Expression.Literals

namespace Wiring.Expression

set_option autoImplicit false

open Wiring.Text (isWordBlank)

namespace Comparison

/-! ## Characters -/

/-- An ASCII letter, an ASCII digit or the underscore. -/
def WordChar (c : Char) : Prop :=
  ('A' ≤ c ∧ c ≤ 'Z') ∨ ('a' ≤ c ∧ c ≤ 'z') ∨ ('0' ≤ c ∧ c ≤ '9') ∨ c = '_'

/-- Space, tab, line feed, vertical tab, form feed and carriage return. -/
def blanks : List Char := [' ', '\t', '\n', '\x0b', '\x0c', '\r']

def Word (cs : List Char) : Prop := cs ≠ [] ∧ ∀ c ∈ cs, WordChar c

theorem isUpper_iff {c : Char} : c.isUpper = true ↔ 'A' ≤ c ∧ c ≤ 'Z' := by
  change decide (c.val ≥ 'A'.val ∧ c.val ≤ 'Z'.val) = true ↔ _
  simp [Char.le_def]

theorem isLower_iff {c : Char} : c.isLower = true ↔ 'a' ≤ c ∧ c ≤ 'z' := by
  change (decide (c.val ≥ 'a'.val) && decide (c.val ≤ 'z'.val)) = true ↔ _
  simp [Char.le_def]

theorem isDigit_iff {c : Char} : c.isDigit = true ↔ '0' ≤ c ∧ c ≤ '9' :=
  Char.isDigit_iff_toNat

theorem isWordChar_iff {c : Char} : isWordChar c = true ↔ WordChar c := by
  change (((c.isUpper || c.isLower) || c.isDigit) || c == '_') = true ↔ _
  simp only [Bool.or_eq_true, isUpper_iff, isLower_iff, isDigit_iff, beq_iff_eq, or_assoc, WordChar]

theorem isWordBlank_iff {c : Char} : isWordBlank c = true ↔ c ∈ blanks := by
  simp [isWordBlank, Text.isAsciiBlank, blanks]
  tauto

theorem WordChar.bounds {c : Char} (char : WordChar c) : 48 ≤ c.toNat ∧ c.toNat ≤ 122 := by
  unfold WordChar at char
  simp only [Char.le_def, UInt32.le_iff_toNat_le] at char
  rcases char with upper | lower | digit | rfl
  · change 65 ≤ c.toNat ∧ c.toNat ≤ 90 at upper
    omega
  · change 97 ≤ c.toNat ∧ c.toNat ≤ 122 at lower
    omega
  · change 48 ≤ c.toNat ∧ c.toNat ≤ 57 at digit
    omega
  · decide

/-- No blank is a character of a word. -/
theorem not_isWordChar_of_mem_blanks {c : Char} (blank : c ∈ blanks) : isWordChar c = false := by
  have low : blanks.all (fun d => d.toNat < 48) = true := by decide
  have below : c.toNat < 48 := by simpa using List.all_eq_true.1 low c blank
  by_contra char
  have bounds := (isWordChar_iff.1 (by simpa using char)).bounds
  omega

/-! ## Spellings -/

/-- The parts of a comparison as it is written, from left to right. -/
structure Spelling where
  left : List Char
  before : List Char
  relation : Relation
  after : List Char
  right : List Char

namespace Spelling

def text (p : Spelling) : List Char :=
  p.left ++ (p.before ++ (p.relation.symbol.toList ++ (p.after ++ p.right)))

def comparison (p : Spelling) : Comparison :=
  ⟨String.ofList p.left, String.ofList p.right, p.relation⟩

/-- Two words, and blanks on either side of the operator. -/
structure Proper (p : Spelling) : Prop where
  left : Word p.left
  before : ∀ c ∈ p.before, c ∈ blanks
  after : ∀ c ∈ p.after, c ∈ blanks
  right : Word p.right

end Spelling

/-- An operator begins with neither a character of a word nor a blank. -/
theorem head?_symbol (r : Relation) (rest : List Char) :
    ∀ c ∈ (r.symbol.toList ++ rest).head?, isWordChar c = false ∧ isWordBlank c = false := by
  cases r with
  | equal =>
    rintro c ⟨⟩
    decide
  | notEqual =>
    rintro c ⟨⟩
    decide

theorem readRelation?_eq_some_iff {cs rest : List Char} {r : Relation} :
    readRelation? cs = some (r, rest) ↔ cs = r.symbol.toList ++ rest := by
  constructor
  · intro read
    unfold readRelation? at read
    split at read
    · cases read
      rfl
    · cases read
      rfl
    · cases read
  · rintro rfl
    cases r <;> rfl

namespace Spelling

variable {p : Spelling}

/-- What follows the first word does not go on with it. -/
theorem Proper.stop_left (proper : p.Proper) :
    ∀ c ∈ (p.before ++ (p.relation.symbol.toList ++ (p.after ++ p.right))).head?,
      isWordChar c = false := by
  intro c mem
  cases gap : p.before with
  | nil =>
    rw [gap, List.nil_append] at mem
    exact (head?_symbol p.relation _ c mem).1
  | cons d ds =>
    rw [gap] at mem
    cases mem
    exact not_isWordChar_of_mem_blanks (proper.before c (gap ▸ List.mem_cons_self))

/-- The second word does not begin with a blank. -/
theorem Proper.stop_after (proper : p.Proper) : ∀ c ∈ p.right.head?, isWordBlank c = false := by
  intro c mem
  have char := isWordChar_iff.2 (proper.right.2 c (List.mem_of_mem_head? mem))
  by_contra blank
  rw [not_isWordChar_of_mem_blanks (isWordBlank_iff.1 (by simpa using blank))] at char
  cases char

/-- **Every part can be told from the text**, by the character that it stops at. -/
theorem Proper.parts (proper : p.Proper) :
    p.text.takeWhile isWordChar = p.left ∧
      (p.text.dropWhile isWordChar).takeWhile isWordBlank = p.before ∧
      readRelation? ((p.text.dropWhile isWordChar).dropWhile isWordBlank) =
        some (p.relation, p.after ++ p.right) ∧
      (p.after ++ p.right).takeWhile isWordBlank = p.after ∧
      (p.after ++ p.right).dropWhile isWordBlank = p.right := by
  have word : ∀ c ∈ p.left, isWordChar c = true :=
    fun c mem => isWordChar_iff.2 (proper.left.2 c mem)
  have before : ∀ c ∈ p.before, isWordBlank c = true :=
    fun c mem => isWordBlank_iff.2 (proper.before c mem)
  have after : ∀ c ∈ p.after, isWordBlank c = true :=
    fun c mem => isWordBlank_iff.2 (proper.after c mem)
  have operator := fun c mem => (head?_symbol p.relation (p.after ++ p.right) c mem).2
  have behind : p.text.dropWhile isWordChar =
      p.before ++ (p.relation.symbol.toList ++ (p.after ++ p.right)) :=
    dropWhile_append_stop word proper.stop_left
  refine ⟨takeWhile_append_stop word proper.stop_left, ?_, ?_,
    takeWhile_append_stop after proper.stop_after, dropWhile_append_stop after proper.stop_after⟩
  · rw [behind]
    exact takeWhile_append_stop before operator
  · rw [behind, dropWhile_append_stop before operator]
    exact readRelation?_eq_some_iff.2 rfl

/-- **A text is spelled in one way at most.** -/
theorem Proper.unique {q : Spelling} (proper : p.Proper) (proper' : q.Proper)
    (same : p.text = q.text) : p = q := by
  obtain ⟨left, before, operator, after, right⟩ := proper.parts
  obtain ⟨left', before', operator', after', right'⟩ := proper'.parts
  rw [same] at left before operator
  obtain ⟨relation, rest⟩ := Prod.mk.inj (Option.some.inj (operator.symm.trans operator'))
  rw [rest] at after right
  cases p
  cases q
  simp only [Spelling.mk.injEq]
  exact ⟨left.symm.trans left', before.symm.trans before', relation, after.symm.trans after',
    right.symm.trans right'⟩

/-- A text that is spelled properly is read. -/
theorem Proper.ofChars? (proper : p.Proper) : ofChars? p.text = some p.comparison := by
  obtain ⟨left, -, operator, -, right⟩ := proper.parts
  have words : (p.left.isEmpty || p.right.isEmpty || !p.right.all isWordChar) = false := by
    have all : p.right.all isWordChar = true :=
      List.all_eq_true.2 fun c mem => isWordChar_iff.2 (proper.right.2 c mem)
    simp [proper.left.1, proper.right.1, all]
  simp only [Comparison.ofChars?, left, operator, right, words, Option.bind_eq_bind,
    Option.bind_some]
  rfl

end Spelling

/-- What is read was spelled properly. -/
theorem exists_spelling {cs : List Char} {e : Comparison} (read : ofChars? cs = some e) :
    ∃ p : Spelling, p.Proper ∧ p.text = cs ∧ p.comparison = e := by
  simp only [ofChars?, Option.bind_eq_bind] at read
  obtain ⟨⟨relation, rest⟩, operator, read⟩ := Option.bind_eq_some_iff.1 read
  split at read
  · cases read
  · next words =>
    cases read
    simp only [Bool.or_eq_true, List.isEmpty_iff, Bool.not_eq_true', not_or] at words
    obtain ⟨⟨left, right⟩, all⟩ := words
    refine ⟨⟨cs.takeWhile isWordChar, (cs.dropWhile isWordChar).takeWhile isWordBlank, relation,
      rest.takeWhile isWordBlank, rest.dropWhile isWordBlank⟩, ?_, ?_, rfl⟩
    · refine ⟨⟨left, fun c mem => ?_⟩, fun c mem => ?_, fun c mem => ?_, right, fun c mem => ?_⟩
      · exact isWordChar_iff.1 (List.all_eq_true.1 List.all_takeWhile c mem)
      · exact isWordBlank_iff.1 (List.all_eq_true.1 List.all_takeWhile c mem)
      · exact isWordBlank_iff.1 (List.all_eq_true.1 List.all_takeWhile c mem)
      · exact isWordChar_iff.1 (List.all_eq_true.1 (by simpa using all) c mem)
    · have found := readRelation?_eq_some_iff.1 operator
      show cs.takeWhile isWordChar ++ ((cs.dropWhile isWordChar).takeWhile isWordBlank ++
        (relation.symbol.toList ++ (rest.takeWhile isWordBlank ++ rest.dropWhile isWordBlank))) = cs
      rw [List.takeWhile_append_dropWhile, ← found, List.takeWhile_append_dropWhile,
        List.takeWhile_append_dropWhile]

/-! ## Whole texts -/

theorem parse_eq_ok_iff {text : String} {e : Comparison} :
    parse text = .ok e ↔ ∃ p : Spelling, p.Proper ∧ p.text = text.toList ∧ p.comparison = e := by
  have read : parse text = .ok e ↔ ofChars? text.toList = some e := by
    unfold parse
    cases ofChars? text.toList <;> simp
  rw [read]
  constructor
  · exact exists_spelling
  · rintro ⟨p, proper, same, rfl⟩
    rw [← same]
    exact proper.ofChars?

/-- A comparison is written with one space on either side of the operator. -/
def written (e : Comparison) : Spelling := ⟨e.left.toList, [' '], e.relation, [' '], e.right.toList⟩

theorem text_written (e : Comparison) : e.written.text = e.render.toList := by
  simp [written, render, Spelling.text]

theorem comparison_written (e : Comparison) : e.written.comparison = e := by
  simp [written, Spelling.comparison]

/-- What is read compares two words. -/
theorem words_of_parse {text : String} {e : Comparison} (read : parse text = .ok e) :
    Word e.left.toList ∧ Word e.right.toList := by
  obtain ⟨p, proper, -, rfl⟩ := parse_eq_ok_iff.1 read
  simp only [Spelling.comparison, String.toList_ofList]
  exact ⟨proper.left, proper.right⟩

/-- A comparison of two words reads back as it is written. -/
theorem parse_render {e : Comparison} (left : Word e.left.toList) (right : Word e.right.toList) :
    parse e.render = .ok e := by
  have space : ∀ c ∈ [' '], c ∈ blanks := List.forall_mem_singleton.2 (by decide)
  exact parse_eq_ok_iff.2 ⟨e.written, ⟨left, space, space, right⟩, e.text_written,
    e.comparison_written⟩

/-- **Comparisons are read exactly, and back.**  A text is read if and only if it is a word, blanks,
an operator, blanks and a word, and nothing else; this can be so in one way only, and the comparison
is then that of the two words.  Any other text is a fault of syntax, and is told in full.  A
comparison of any two texts holds if they are equal, or if they differ, as its operator says; it
reads back as it is written if and only if both texts are words, so all that is read does. -/
theorem parse_exact :
    (∀ text e, parse text = .ok e ↔
      ∃ p : Spelling, p.Proper ∧ p.text = text.toList ∧ p.comparison = e) ∧
    (∀ p q : Spelling, p.Proper → q.Proper → p.text = q.text → p = q) ∧
    (∀ text, (¬∃ p : Spelling, p.Proper ∧ p.text = text.toList) →
      parse text = .error (.syntaxFault s!"unrecognized logical expression: '{text}'")) ∧
    (∀ left right, (Comparison.mk left right .equal).holds = true ↔ left = right) ∧
    (∀ left right, (Comparison.mk left right .notEqual).holds = true ↔ left ≠ right) ∧
    (∀ e, parse e.render = .ok e ↔ Word e.left.toList ∧ Word e.right.toList) ∧
    ∀ text e, parse text = .ok e → parse e.render = .ok e := by
  refine ⟨fun text e => parse_eq_ok_iff, fun p q proper proper' same => proper.unique proper' same,
    fun text misspelled => ?_, fun left right => ?_, fun left right => ?_,
    fun e => ⟨words_of_parse, ?_⟩, fun text e read => ?_⟩
  · have unread : ofChars? text.toList = none := by
      refine Option.eq_none_iff_forall_ne_some.2 fun e read => ?_
      obtain ⟨p, proper, same, -⟩ := exists_spelling read
      exact misspelled ⟨p, proper, same⟩
    rw [parse, unread]
  · simp [holds]
  · simp [holds]
  · rintro ⟨left, right⟩
    exact parse_render left right
  · obtain ⟨left, right⟩ := words_of_parse read
    exact parse_render left right

/-- Three equals signs in a row, a line feed in front of the second word, and a word of two. -/
theorem parse_exact_blanks :
    (⟨['a'], [], .equal, ['\n'], ['b']⟩ : Spelling).Proper ∧
      parse "a==\nb" = .ok ⟨"a", "b", .equal⟩ ∧
      (¬∃ p : Spelling, p.Proper ∧ p.text = "a === b".toList) ∧
      parse "a === b" = .error (.syntaxFault "unrecognized logical expression: 'a === b'") ∧
      ¬parse (Comparison.mk "a b" "c" .equal).render = .ok ⟨"a b", "c", .equal⟩ := by
  obtain ⟨accepted, -, refused, -, -, back, -⟩ := parse_exact
  have proper : (⟨['a'], [], .equal, ['\n'], ['b']⟩ : Spelling).Proper := by
    have feed : ∀ c ∈ ['\n'], c ∈ blanks := List.forall_mem_singleton.2 (by decide)
    refine ⟨⟨by simp, ?_⟩, by simp, feed, by simp, ?_⟩
    · exact List.forall_mem_singleton.2 (isWordChar_iff.1 (by decide))
    · exact List.forall_mem_singleton.2 (isWordChar_iff.1 (by decide))
  have misspelled : ¬∃ p : Spelling, p.Proper ∧ p.text = "a === b".toList := by
    rintro ⟨p, proper, same⟩
    have read := proper.ofChars?
    have unread : ofChars? "a === b".toList = none := by decide
    rw [same, unread] at read
    cases read
  refine ⟨proper, (accepted _ _).2 ⟨_, proper, rfl, rfl⟩, misspelled, refused _ misspelled, ?_⟩
  rw [back]
  rintro ⟨left, -⟩
  have space := isWordChar_iff.2 (left.2 ' ' (by decide))
  exact absurd space (by decide)

end Comparison

end Wiring.Expression
