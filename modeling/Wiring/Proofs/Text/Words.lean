/-
# Wiring.Proofs.Text.Words -- the words of a text

Blanks around a text make no difference to its words, and a text without blanks is one word.  A
text has no words exactly if it is blank, and its first word stands between blanks, or at its ends
(`words_eq_cons_iff`).
-/
import Wiring.Text.Blank
import Mathlib.Data.List.Basic

namespace Wiring.Text

set_option autoImplicit false

theorem not_isBlank_of_isDigit {c : Char} (digit : c.isDigit = true) : isBlank c = false := by
  have bounds : 48 ≤ c.toNat ∧ c.toNat ≤ 57 := by
    simpa [Char.isDigit, UInt32.le_iff_toNat_le] using digit
  have outside : ∀ r ∈ blankRanges, (decide (r.1 ≤ c.toNat) && decide (c.toNat ≤ r.2)) = false := by
    intro r mem
    have apart : r.2 < 48 ∨ 57 < r.1 := by
      revert r
      decide
    rw [Bool.and_eq_false_iff, decide_eq_false_iff_not, decide_eq_false_iff_not]
    omega
  exact List.any_eq_false.2 fun r mem => by rw [outside r mem]; decide

section

variable {p : Char → Bool} {cs : List Char}

theorem splitOn_cons_of_pos {c : Char} (cut : p c = true) (cs : List Char) :
    splitOn p (c :: cs) = [] :: splitOn p cs := by
  rw [splitOn, if_pos cut]

/-- What is not cut goes to the first segment. -/
theorem splitOn_append {first : List Char} {others : List (List Char)} {rest : List Char}
    (none : ∀ c ∈ cs, p c = false) (split : splitOn p rest = first :: others) :
    splitOn p (cs ++ rest) = (cs ++ first) :: others := by
  induction cs with
  | nil => exact split
  | cons c cs ih =>
    have uncut : ¬p c = true := by simp [none c List.mem_cons_self]
    rw [List.cons_append, splitOn, if_neg uncut,
      ih fun d mem => none d (List.mem_cons_of_mem _ mem)]
    rfl

end

theorem words_append {lead : List Char} (blank : ∀ c ∈ lead, isBlank c = true) (rest : List Char) :
    words (lead ++ rest) = words rest := by
  induction lead with
  | nil => rfl
  | cons c lead ih =>
    have others := ih fun d mem => blank d (List.mem_cons_of_mem _ mem)
    rw [List.cons_append, words, splitOn_cons_of_pos (blank c List.mem_cons_self)]
    exact others

/-- A word is followed by nothing or by a blank. -/
def Closed (rest : List Char) : Prop := ∀ c cs, rest = c :: cs → isBlank c = true

theorem closed_of_blank {rest : List Char} (blank : ∀ c ∈ rest, isBlank c = true) :
    Closed rest := by
  rintro c cs rfl
  exact blank c List.mem_cons_self

theorem closed_append {gap rest : List Char} (blank : ∀ c ∈ gap, isBlank c = true)
    (apart : gap ≠ []) : Closed (gap ++ rest) := by
  obtain ⟨c, cs, rfl⟩ := List.exists_cons_of_ne_nil apart
  intro d ds same
  rw [List.cons_append] at same
  cases same
  exact blank c List.mem_cons_self

theorem words_cons {word rest : List Char} (solid : ∀ c ∈ word, isBlank c = false)
    (nonempty : word ≠ []) (closed : Closed rest) : words (word ++ rest) = word :: words rest := by
  have cut : ∃ others, splitOn isBlank rest = [] :: others := by
    cases rest with
    | nil => exact ⟨[], rfl⟩
    | cons c cs => exact ⟨_, splitOn_cons_of_pos (closed c cs rfl) cs⟩
  obtain ⟨others, cut⟩ := cut
  rw [words, words, splitOn_append solid cut, cut, List.append_nil]
  simp [nonempty]

theorem words_of_blank {cs : List Char} (blank : ∀ c ∈ cs, isBlank c = true) : words cs = [] := by
  rw [← List.append_nil cs, words_append blank]
  rfl

/-- **A word between blanks is the only one.** -/
theorem words_single {lead word trail : List Char} (before : ∀ c ∈ lead, isBlank c = true)
    (after : ∀ c ∈ trail, isBlank c = true) (solid : ∀ c ∈ word, isBlank c = false)
    (nonempty : word ≠ []) : words (lead ++ (word ++ trail)) = [word] := by
  rw [words_append before, words_cons solid nonempty (closed_of_blank after), words_of_blank after]

/-- A text is blank, or blank up to a first word. -/
theorem blank_or_word (cs : List Char) : (∀ c ∈ cs, isBlank c = true) ∨
    ∃ lead word rest, cs = lead ++ (word ++ rest) ∧ (∀ c ∈ lead, isBlank c = true) ∧
      (∀ c ∈ word, isBlank c = false) ∧ word ≠ [] ∧ Closed rest := by
  induction cs with
  | nil => exact .inl (by simp)
  | cons c cs ih =>
    cases kind : isBlank c with
    | true =>
      rcases ih with blank | ⟨lead, word, rest, same, blank, solid, nonempty, closed⟩
      · exact .inl (List.forall_mem_cons.2 ⟨kind, blank⟩)
      · refine .inr ⟨c :: lead, word, rest, by rw [same]; rfl, ?_, solid, nonempty, closed⟩
        exact List.forall_mem_cons.2 ⟨kind, blank⟩
    | false =>
      have alone : ∀ d ∈ [c], isBlank d = false := by simpa using kind
      rcases ih with blank | ⟨lead, word, rest, same, blank, solid, nonempty, closed⟩
      · exact .inr ⟨[], [c], cs, rfl, by simp, alone, by simp, closed_of_blank blank⟩
      · cases lead with
        | nil =>
          refine .inr ⟨[], c :: word, rest, by rw [same]; rfl, by simp, ?_, by simp, closed⟩
          exact List.forall_mem_cons.2 ⟨kind, solid⟩
        | cons d lead =>
          refine .inr ⟨[], [c], cs, rfl, by simp, alone, by simp, ?_⟩
          intro e tail here
          obtain rfl : e = d := (List.cons.inj (here.symm.trans same)).1
          exact blank e List.mem_cons_self

/-- **The first word of a text, and what stands around it.** -/
theorem words_eq_cons_iff {cs word : List Char} {others : List (List Char)} :
    words cs = word :: others ↔ ∃ lead rest, cs = lead ++ (word ++ rest) ∧
      (∀ c ∈ lead, isBlank c = true) ∧ (∀ c ∈ word, isBlank c = false) ∧ word ≠ [] ∧
      Closed rest ∧ words rest = others := by
  constructor
  · intro found
    rcases blank_or_word cs with blank | ⟨lead, first, rest, rfl, blank, solid, nonempty, closed⟩
    · rw [words_of_blank blank] at found
      cases found
    · rw [words_append blank, words_cons solid nonempty closed] at found
      cases found
      exact ⟨lead, rest, rfl, blank, solid, nonempty, closed, rfl⟩
  · rintro ⟨lead, rest, rfl, blank, solid, nonempty, closed, rfl⟩
    rw [words_append blank, words_cons solid nonempty closed]

theorem words_eq_nil_iff {cs : List Char} : words cs = [] ↔ ∀ c ∈ cs, isBlank c = true := by
  refine ⟨fun none => ?_, words_of_blank⟩
  rcases blank_or_word cs with blank | ⟨lead, first, rest, rfl, blank, solid, nonempty, closed⟩
  · exact blank
  · rw [words_append blank, words_cons solid nonempty closed] at none
    cases none

end Wiring.Text
