/-
# Wiring.Proofs.Context.Timespans -- timespans are read exactly or refused

`Written` says what a timespan looks like, character by character: blanks, an integer and possibly
a unit behind more blanks.  A text is read as `n * k` microseconds exactly if it is a timespan of
`n` units of `k` microseconds and neither `n` nor the product leaves 64 bits; every other text is a
syntax fault.  Reading a duration differs in refusing what is negative, and in nothing else.
-/
import Wiring.Proofs.Context.Constants
import Wiring.Proofs.Text.Words

namespace Wiring.Context

set_option autoImplicit false

open Wiring.Expression (microsPerUnit? microsOf parseMicros durationOf parseDuration parseDuration?)
open Wiring.Text (Denotes DigitRun isBlank)

/-! ## What a timespan looks like -/

def timeUnits : List (List Char × Int) :=
  [(['d'], 24 * 60 * 60 * 1000 * 1000), (['h'], 60 * 60 * 1000 * 1000), (['m'], 60 * 1000 * 1000),
    (['s'], 1000 * 1000), (['m', 's'], 1000), (['u', 's'], 1)]

/-- A timespan of `n` units of `k` microseconds, blanks included; without a unit, `k` is 1. -/
inductive Written : List Char → Int → Int → Prop
  | bare {lead number trail : List Char} {n : Int} (before : ∀ c ∈ lead, isBlank c = true)
      (denotes : Denotes number n) (after : ∀ c ∈ trail, isBlank c = true) :
      Written (lead ++ (number ++ trail)) n 1
  | units {lead number gap unit trail : List Char} {n k : Int}
      (before : ∀ c ∈ lead, isBlank c = true) (denotes : Denotes number n)
      (between : ∀ c ∈ gap, isBlank c = true) (apart : gap ≠ [])
      (factor : (unit, k) ∈ timeUnits) (after : ∀ c ∈ trail, isBlank c = true) :
      Written (lead ++ (number ++ (gap ++ (unit ++ trail)))) n k

theorem microsPerUnit?_eq_some_iff {unit : List Char} {k : Int} :
    microsPerUnit? unit = some k ↔ (unit, k) ∈ timeUnits := by
  constructor
  · intro known
    have letters {text : String} (same : String.ofList unit = text) : unit = text.toList := by
      rw [← same, String.toList_ofList]
    unfold microsPerUnit? at known
    split at known
    case h_7 => cases known
    all_goals
      next same =>
        cases known
        rw [letters same]
        decide
  · intro listed
    simp only [timeUnits, List.mem_cons, Prod.mk.injEq, List.not_mem_nil, or_false] at listed
    rcases listed with
        ⟨rfl, rfl⟩ | ⟨rfl, rfl⟩ | ⟨rfl, rfl⟩ | ⟨rfl, rfl⟩ | ⟨rfl, rfl⟩ | ⟨rfl, rfl⟩ <;> rfl

/-- A unit is a word. -/
theorem solid_of_mem_timeUnits {unit : List Char} {k : Int} (listed : (unit, k) ∈ timeUnits) :
    (∀ c ∈ unit, isBlank c = false) ∧ unit ≠ [] := by
  have letters : ∀ u ∈ timeUnits, u.1 ⊆ ['d', 'h', 'm', 's', 'u'] ∧ u.1 ≠ [] := by decide
  have solid : ∀ c ∈ ['d', 'h', 'm', 's', 'u'], isBlank c = false := by
    intro c mem
    fin_cases mem <;> decide
  obtain ⟨within, nonempty⟩ := letters _ listed
  exact ⟨fun c mem => solid c (within mem), nonempty⟩

/-- What denotes an integer is a word. -/
theorem solid_of_denotes {number : List Char} {n : Int} (denotes : Denotes number n) :
    (∀ c ∈ number, isBlank c = false) ∧ number ≠ [] := by
  have solid {ds : List Char} (run : DigitRun ds) : ∀ c ∈ ds, isBlank c = false :=
    fun c mem => Text.not_isBlank_of_isDigit (run.digits c mem)
  cases denotes with
  | plain run => exact ⟨solid run, run.nonempty⟩
  | plus run => exact ⟨List.forall_mem_cons.2 ⟨by decide, solid run⟩, List.cons_ne_nil _ _⟩
  | minus run => exact ⟨List.forall_mem_cons.2 ⟨by decide, solid run⟩, List.cons_ne_nil _ _⟩

/-! ## Reading one -/

/-- The words of a timespan are an integer and possibly a unit. -/
theorem spans_iff {text : String} {v : Int} :
    Spans text v ↔ ∃ n k, Written text.toList n k ∧ Text.fitsInteger n = true ∧
      Text.fitsInteger (n * k) = true ∧ v = n * k := by
  constructor
  · rintro (⟨split, read⟩ | ⟨split, factor, read, fits⟩)
    · obtain ⟨denotes, fits⟩ := Text.readInteger_eq_some_iff.1 read
      obtain ⟨lead, trail, same, before, -, -, -, none⟩ := Text.words_eq_cons_iff.1 split
      refine ⟨v, 1, ?_, fits, ?_, ?_⟩
      · rw [same]
        exact .bare before denotes (Text.words_eq_nil_iff.1 none)
      · rwa [Int.mul_one]
      · rw [Int.mul_one]
    · obtain ⟨denotes, whole⟩ := Text.readInteger_eq_some_iff.1 read
      obtain ⟨lead, rest, same, before, -, -, closed, split⟩ := Text.words_eq_cons_iff.1 split
      obtain ⟨gap, trail, rfl, between, solid, nonempty, -, none⟩ := Text.words_eq_cons_iff.1 split
      refine ⟨_, _, ?_, whole, fits, rfl⟩
      rw [same]
      refine .units before denotes between ?_ (microsPerUnit?_eq_some_iff.1 factor)
        (Text.words_eq_nil_iff.1 none)
      -- without a gap the unit would go on with the integer
      rintro rfl
      obtain ⟨c, cs, rfl⟩ := List.exists_cons_of_ne_nil nonempty
      have blank := closed c _ rfl
      rw [solid c List.mem_cons_self] at blank
      cases blank
  · rintro ⟨n, k, written, fits, product, rfl⟩
    generalize same : text.toList = cs at written
    cases written with
    | bare before denotes after =>
      obtain ⟨solid, nonempty⟩ := solid_of_denotes denotes
      rw [Int.mul_one]
      refine .bare ?_ (Text.readInteger_eq_some_iff.2 ⟨denotes, fits⟩)
      rw [same, Text.words_single before after solid nonempty]
    | units before denotes between apart factor after =>
      obtain ⟨solid, nonempty⟩ := solid_of_denotes denotes
      obtain ⟨unitSolid, unitNonempty⟩ := solid_of_mem_timeUnits factor
      refine .units ?_ (microsPerUnit?_eq_some_iff.2 factor)
        (Text.readInteger_eq_some_iff.2 ⟨denotes, fits⟩) product
      rw [same, Text.words_append before,
        Text.words_cons solid nonempty (Text.closed_append between apart),
        Text.words_single between after unitSolid unitNonempty]

/-- An integer of 64 bits stands for itself. -/
theorem spans_toString {n : Int} (fits : Text.fitsInteger n = true) : Spans (toString n) n := by
  have denotes := (Text.readInteger_eq_some_iff.1 (Text.readInteger_toString fits)).1
  refine spans_iff.2 ⟨n, 1, ?_, fits, by rwa [Int.mul_one], (Int.mul_one n).symm⟩
  have alone : Written ([] ++ ((toString n).toList ++ [])) n 1 := .bare (by simp) denotes (by simp)
  rwa [List.nil_append, List.append_nil] at alone

/-! ## Refusing one -/

def IsSyntaxFault (e : Error) : Prop := ∃ detail, e = .syntaxFault detail

theorem isSyntaxFault_toError (fault : Expression.TimespanFault) : IsSyntaxFault fault.toError := by
  cases fault <;> exact ⟨_, rfl⟩

/-- Reporting faults as errors makes no result, and every error is a syntax fault. -/
theorem answered_mapError {α : Type} (x : Except Expression.TimespanFault α) :
    (∃ a, x.mapError Expression.TimespanFault.toError = .ok a) ∨
      ∃ e, x.mapError Expression.TimespanFault.toError = .error e ∧ IsSyntaxFault e := by
  cases x with
  | ok a => exact .inl ⟨a, rfl⟩
  | error fault => exact .inr ⟨_, rfl, isSyntaxFault_toError fault⟩

/-- A duration is a timespan that is not negative. -/
theorem parseDuration_eq_ok {text : String} {m : Nat} :
    parseDuration text = .ok m ↔ parseMicros text = .ok (m : Int) := by
  unfold parseDuration parseMicros durationOf
  cases microsOf text with
  | error fault => exact ⟨(nomatch ·), (nomatch ·)⟩
  | ok n =>
    show Except.mapError _ (if n < 0 then .error _ else .ok n.toNat) = _ ↔
      Except.ok n = .ok (m : Int)
    split
    · next negative =>
      refine ⟨(nomatch ·), fun same => ?_⟩
      cases same
      omega
    · next positive =>
      show Except.ok n.toNat = .ok m ↔ _
      rw [Except.ok.injEq, Except.ok.injEq]
      omega

/-- **Timespans are read exactly or refused.**  A text is read as a number of microseconds exactly
if it is a timespan whose integer and whose product with its unit have 64 bits, and then it is read
as that product; otherwise it is a syntax fault.  It is read as a duration exactly if it is read as
a number that is not negative, and then as the same number; reading a duration or nothing agrees
with that.  The text of every integer of 64 bits is read as that integer. -/
theorem timespans_exact_or_refused :
    (∀ s v, parseMicros s = .ok v ↔ ∃ n k, Written s.toList n k ∧ (-2 ^ 63 ≤ n ∧ n < 2 ^ 63) ∧
      (-2 ^ 63 ≤ n * k ∧ n * k < 2 ^ 63) ∧ v = n * k) ∧
    (∀ s, (∃ v, parseMicros s = .ok v) ∨ ∃ e, parseMicros s = .error e ∧ IsSyntaxFault e) ∧
    (∀ s m, parseDuration s = .ok m ↔ parseMicros s = .ok (m : Int)) ∧
    (∀ s, (∃ m, parseDuration s = .ok m) ∨ ∃ e, parseDuration s = .error e ∧ IsSyntaxFault e) ∧
    (∀ s, parseDuration? s = (parseDuration s).toOption) ∧
    ∀ n : Int64, parseMicros (toString n) = .ok n.toInt := by
  refine ⟨fun s v => ?_, fun s => answered_mapError _, fun s m => parseDuration_eq_ok,
    fun s => answered_mapError _, fun s => ?_, fun n => ?_⟩
  · rw [parseMicros_eq_ok, spans_iff]
    simp only [Text.fitsInteger_iff]
  · unfold parseDuration? parseDuration
    cases durationOf s <;> rfl
  · refine parseMicros_eq_ok.2 (spans_toString (Text.fitsInteger_iff.2 ⟨?_, ?_⟩))
    · exact n.le_toInt
    · exact n.toInt_lt

end Wiring.Context
