/-
# Wiring.Proofs.Text.Segments -- cutting a text at separators, and trimming what is cut

A text is cut into segments at the characters of a class, empty segments kept; `Segmented` says so
without a function, and there is one way to do it (`segmented_iff`).  Trimming leaves what stands
between the blanks at both ends (`trims_iff`).
-/
import Wiring.Proofs.Expression.Chains
import Wiring.Proofs.Text.Words

namespace Wiring.Text

set_option autoImplicit false

variable {p : Char → Bool} {cs : List Char}

/-! ## Segments -/

/-- The segments of a text between the characters of a class, from left to right. -/
inductive Segmented (p : Char → Bool) : List Char → List (List Char) → Prop
  | last {segment : List Char} (whole : ∀ c ∈ segment, p c = false) :
      Segmented p segment [segment]
  | cut {segment rest : List Char} {c : Char} {segments : List (List Char)}
      (whole : ∀ c ∈ segment, p c = false) (separates : p c = true)
      (further : Segmented p rest segments) :
      Segmented p (segment ++ c :: rest) (segment :: segments)

theorem Segmented.splitOn {segments : List (List Char)} (segmented : Segmented p cs segments) :
    splitOn p cs = segments := by
  induction segmented with
  | @last segment whole =>
    have alone := splitOn_append whole (rfl : Text.splitOn p [] = [[]])
    rwa [List.append_nil] at alone
  | @cut segment rest c segments whole separates further ih =>
    have first := splitOn_append whole (splitOn_cons_of_pos separates rest)
    rwa [List.append_nil, ih] at first

theorem segmented_splitOn (p : Char → Bool) (cs : List Char) : Segmented p cs (splitOn p cs) := by
  induction cs with
  | nil => exact .last (by simp)
  | cons c cs ih =>
    by_cases separates : p c = true
    · rw [splitOn_cons_of_pos separates]
      have none : ∀ d ∈ ([] : List Char), p d = false := by simp
      exact .cut none separates ih
    · -- The character goes to the first segment, which begins with it.
      have single : ∀ d ∈ [c], p d = false := by simpa using separates
      have longer {segment : List Char} (whole : ∀ d ∈ segment, p d = false) :
          ∀ d ∈ c :: segment, p d = false :=
        List.forall_mem_cons.2 ⟨by simpa using separates, whole⟩
      generalize found : splitOn p cs = segments at ih
      cases ih with
      | last whole =>
        rw [← List.singleton_append, splitOn_append single found]
        exact .last (longer whole)
      | cut whole cuts further =>
        rw [← List.singleton_append, splitOn_append single found]
        exact .cut (longer whole) cuts further

/-- **There is one way to cut a text into segments.** -/
theorem segmented_iff {segments : List (List Char)} :
    Segmented p cs segments ↔ splitOn p cs = segments :=
  ⟨Segmented.splitOn, fun same => same ▸ segmented_splitOn p cs⟩

/-- There is one segment more than there are separators. -/
theorem length_splitOn (p : Char → Bool) (cs : List Char) :
    (splitOn p cs).length = cs.countP p + 1 := by
  have segmented := segmented_splitOn p cs
  generalize splitOn p cs = segments at segmented
  induction segmented with
  | last whole =>
    rw [List.countP_eq_zero.2 fun c mem => by simp [whole c mem], List.length_singleton]
  | cut whole separates further ih =>
    rw [List.countP_append, List.countP_eq_zero.2 fun c mem => by simp [whole c mem],
      List.countP_cons_of_pos separates, List.length_cons, ih, Nat.zero_add]

/-- Texts without the separator, joined by it, are the segments of what they make. -/
theorem segmented_intercalate {c : Char} (separates : p c = true) {segments : List (List Char)}
    (nonempty : segments ≠ []) (whole : ∀ s ∈ segments, ∀ d ∈ s, p d = false) :
    Segmented p ([c].intercalate segments) segments := by
  induction segments with
  | nil => exact absurd rfl nonempty
  | cons s segments ih =>
    have first := whole s List.mem_cons_self
    cases segments with
    | nil =>
      rw [List.intercalate_singleton]
      exact .last first
    | cons t segments =>
      rw [List.intercalate_cons_cons, List.append_assoc, List.singleton_append]
      exact .cut first separates
        (ih (List.cons_ne_nil t segments) fun u mem => whole u (List.mem_cons_of_mem s mem))

/-! ## Trimming -/

/-- `core` is what is left of a text without the blanks at its ends. -/
structure Trims (cs core : List Char) : Prop where
  parts : ∃ lead trail, cs = lead ++ (core ++ trail) ∧ (∀ c ∈ lead, isBlank c = true) ∧
    ∀ c ∈ trail, isBlank c = true
  head : ∀ c ∈ core.head?, isBlank c = false
  last : ∀ c ∈ core.getLast?, isBlank c = false

theorem trimBy_of_blank (blank : ∀ c ∈ cs, p c = true) : trimBy p cs = [] := by
  rw [trimBy, List.dropWhile_eq_nil_iff.2 blank]
  rfl

theorem Trims.trimBy {core : List Char} (trims : Trims cs core) : trimBy isBlank cs = core := by
  obtain ⟨lead, trail, rfl, before, after⟩ := trims.parts
  by_cases empty : core = []
  · subst empty
    refine trimBy_of_blank fun c mem => ?_
    rw [List.nil_append] at mem
    exact (List.mem_append.1 mem).elim (before c) (after c)
  · exact Expression.trimBy_core before after trims.head trims.last empty

theorem exists_trims (cs : List Char) : ∃ core, Trims cs core := by
  obtain ⟨core, trail, same, after, last⟩ := Expression.exists_trail isBlank (cs.dropWhile isBlank)
  refine ⟨core, ⟨cs.takeWhile isBlank, trail, ?_, fun c mem => ?_, after⟩, fun c mem => ?_, last⟩
  · rw [← same, List.takeWhile_append_dropWhile]
  · exact List.all_eq_true.1 List.all_takeWhile c mem
  · have first : c ∈ (cs.dropWhile isBlank).head? := by
      rw [same, List.head?_append, mem]
      rfl
    have stopped := List.head?_dropWhile_not isBlank cs
    rw [first] at stopped
    simpa using stopped

/-- **Trimming takes the blanks from both ends, and nothing else.** -/
theorem trims_iff {core : List Char} : Trims cs core ↔ trimBy isBlank cs = core := by
  refine ⟨Trims.trimBy, ?_⟩
  rintro rfl
  obtain ⟨core, trims⟩ := exists_trims cs
  rwa [trims.trimBy]

end Wiring.Text
