/-
# Wiring.Proofs.Context.Interpolated -- a constant that is interpolated means what it is

What is published for a constant is written as text, put in for a placeholder and read again by
arithmetic, as a timespan or as the gate of an entry.  For the constants that stand nothing is lost
on the way (`constants_survive_interpolation`), but that a zero has no sign.
-/
import Wiring.Proofs.Context.Constants
import Wiring.Proofs.Config.Interpolation
import Wiring.Proofs.Text.Words

namespace Wiring.Context

set_option autoImplicit false

open Wiring.Config (Environment Value)
open Wiring.Config.Environment (placeholder Expands)
open Wiring.Decimal (Number)
open Wiring.Document (Constant Property View)
open Wiring.Expression (ArithmeticFault Blank Chain Comparison Literal Numeral plainZero)

/-! ## The values of constants -/

section

variable (start : Environment) (ks : List Constant) (name : String)

/-- A number constant with the finite value `x` stands. -/
inductive IsNumber (x : Float) : Prop
  | intro {k : Constant} {base : Environment} {t : String} {s : Bool} {m : Nat} {q : Int}
      (lasts : LastOf start ks name k base) (noText : k.text = none) (noTime : k.time = none)
      (given : k.number = some t) (result : Expression.evaluate (base.expand t).value = .ok x)
      (finite : Number.ofFloat x = .finite s m q)

inductive IsTime (n : Int) : Prop
  | intro {k : Constant} {base : Environment} {t : String}
      (lasts : LastOf start ks name k base) (noText : k.text = none)
      (given : k.time = some t) (result : Expression.parseMicros (base.expand t).value = .ok n)

/-- A constant that stands was published as the answer to the comparison `e`. -/
inductive IsAnswer (e : Comparison) : Prop
  | intro {k : Constant} {base : Environment} {t : String}
      (lasts : LastOf start ks name k base) (noText : k.text = none) (noTime : k.time = none)
      (noNumber : k.number = none) (given : k.condition = some t)
      (parsed : Comparison.parse (base.expand t).value = .ok e)

end

section

variable {start : Environment} {ks : List Constant} {env : Environment} {name : String}

theorem text?_of_get? {v : Value} (found : env.get? name = some v) :
    env.text? name = v.text? := by
  rw [Environment.text?, found]
  rfl

theorem IsNumber.text? {x : Float} (number : IsNumber start ks name x)
    (published : Publishes start ks env) :
    ∃ text, env.text? name = some text ∧ Numeral text.toList (plainZero x) := by
  obtain ⟨lasts, noText, noTime, given, result, finite⟩ := number
  obtain ⟨v, valued, found⟩ := lasts.get? published
  rw [constantValue, noText, noTime, given] at valued
  simp only [Logging.Logged.value_bind, Logging.Logged.value_pure, result] at valued
  cases valued
  rw [text?_of_get? found]
  exact numeral_numberValue finite

theorem IsTime.text? {n : Int} (time : IsTime start ks name n)
    (published : Publishes start ks env) :
    env.text? name = some (toString n) ∧ Text.fitsInteger n = true := by
  obtain ⟨lasts, noText, given, result⟩ := time
  obtain ⟨v, valued, found⟩ := lasts.get? published
  rw [constantValue, noText, given] at valued
  simp only [Logging.Logged.value_bind, Logging.Logged.value_pure, result] at valued
  cases valued
  refine ⟨text?_of_get? found, ?_⟩
  cases parseMicros_eq_ok.1 result with
  | bare words read => exact (Text.readInteger_eq_some_iff.1 read).2
  | units words factor read fits => exact fits

theorem IsAnswer.text? {e : Comparison} (answer : IsAnswer start ks name e)
    (published : Publishes start ks env) :
    env.text? name = some (conditionText e.holds) := by
  obtain ⟨lasts, noText, noTime, noNumber, given, parsed⟩ := answer
  obtain ⟨v, valued, found⟩ := lasts.get? published
  rw [constantValue, noText, noTime, noNumber, given] at valued
  simp only [Logging.Logged.value_bind, Logging.Logged.value_pure, parsed] at valued
  cases valued
  exact text?_of_get? found

end

/-! ## Terms -/

/-- A term of an expression as it is written: a literal, or the placeholder of a constant. -/
inductive Term where
  | literal (l : Literal)
  | constant (name : String)

namespace Term

def chars : Term → List Char
  | literal l => l.chars
  | constant name => placeholder name.toList

def expanded (env : Environment) : Term → List Char
  | literal l => l.chars
  | constant name => ((env.text? name).getD "").toList

/-- What a term is worth: the value of a literal, or of a number constant that stands. -/
inductive Worth (start : Environment) (ks : List Constant) : Term → Float → Prop
  | literal {l : Literal} (wellformed : l.Wellformed) : Worth start ks (.literal l) l.value
  | constant {name : String} {x : Float} (closed : '}' ∉ name.toList)
      (number : IsNumber start ks name x) : Worth start ks (.constant name) (plainZero x)

end Term

section

variable {start : Environment} {ks : List Constant} {env : Environment}

/-- There is nothing to expand in a numeral. -/
theorem dollar_notMem_numeral {cs : List Char} {x : Float} (numeral : Numeral cs x) :
    '$' ∉ cs := by
  obtain ⟨l, wellformed, rfl, _⟩ := numeral
  intro mem
  rcases wellformed.mem_chars '$' mem with same | same | digit
  · exact absurd same (by decide)
  · exact absurd same (by decide)
  · exact absurd digit (by decide)

theorem expands_constant {name text : String} (closed : '}' ∉ name.toList)
    (found : env.text? name = some text) (plain : '$' ∉ text.toList) :
    Expands env (placeholder name.toList) text.toList :=
  .placeholder closed (by rwa [String.ofList_toList]) plain

theorem Term.Worth.expands {t : Term} {x : Float} (worth : t.Worth start ks x)
    (published : Publishes start ks env) :
    Expands env t.chars (t.expanded env) ∧ Numeral (t.expanded env) x := by
  cases worth with
  | literal wellformed =>
    have numeral := wellformed.numeral
    exact ⟨.plain (dollar_notMem_numeral numeral), numeral⟩
  | @constant name x closed number =>
    obtain ⟨text, found, numeral⟩ := number.text? published
    have same : (Term.constant name).expanded env = text.toList := by
      rw [Term.expanded, found]
      rfl
    rw [same]
    exact ⟨expands_constant closed found (dollar_notMem_numeral numeral), numeral⟩

theorem dollar_notMem_blank {cs : List Char} (blank : Blank cs) : '$' ∉ cs :=
  fun mem => absurd (blank '$' mem) (by decide)

theorem expands_link {f g : Term → List Char} {k : Expression.Link Term}
    (before : Blank k.before) (after : Blank k.after) (term : Expands env (f k.term) (g k.term)) :
    Expands env (k.text f) (k.text g) := by
  have plain : '$' ∉ k.before ++ k.operator.char :: k.after := by
    rw [List.mem_append, List.mem_cons, not_or, not_or]
    refine ⟨dollar_notMem_blank before, ?_, dollar_notMem_blank after⟩
    cases k.operator <;> decide
  have whole := (Expands.plain plain).append term
  simpa [Expression.Link.text] using whole

/-- The text of a chain expands term by term. -/
theorem expands_chain {f g : Term → List Char} {e : Chain Term} (spaced : e.Spaced)
    (terms : ∀ t ∈ e.terms, Expands env (f t) (g t)) : Expands env (e.text f) (e.text g) := by
  have first := terms e.first List.mem_cons_self
  have links : Expands env (e.links.flatMap (Expression.Link.text f))
      (e.links.flatMap (Expression.Link.text g)) :=
    .flatMap fun k mem => expands_link (spaced.before k mem) (spaced.after k mem)
      (terms k.term (List.mem_cons_of_mem _ (List.mem_map_of_mem mem)))
  have trail : Expands env e.trail e.trail := .plain (dollar_notMem_blank spaced.trail)
  exact (Expands.plain (dollar_notMem_blank spaced.lead)).append ((first.append links).append trail)

/-- An expression over literals and constants has the value of its operators, applied to what its
terms are worth. -/
theorem evaluate_expand (published : Publishes start ks env) {e : Chain Term}
    {value : Term → Float} (spaced : e.Spaced)
    (worth : ∀ t ∈ e.terms, t.Worth start ks (value t)) :
    Expression.evaluate (env.expand (String.ofList (e.text Term.chars))).value =
      (e.fold value).mapError ArithmeticFault.toError := by
  have expands := expands_chain spaced fun t mem => ((worth t mem).expands published).1
  have numerals : ∀ t ∈ e.terms, Numeral (t.expanded env) (value t) :=
    fun t mem => ((worth t mem).expands published).2
  rw [expands.expand, Expression.evaluate, String.toList_ofList,
    Expression.evaluateChars_text spaced numerals]

/-! ## Timespans and gates -/

/-- What an integer is printed with is neither a blank nor a dollar sign. -/
theorem solid_toString (n : Int) :
    ∀ c ∈ (toString n).toList, Text.isBlank c = false ∧ c ≠ '$' := by
  intro c mem
  rw [Text.toList_toString_int, List.mem_append] at mem
  rcases mem with sign | digit
  · split at sign
    · rw [List.mem_singleton.1 sign]
      decide
    · cases sign
  · have digit := Text.all_isDigit_toDigits _ c digit
    refine ⟨Text.not_isBlank_of_isDigit digit, ?_⟩
    rintro rfl
    exact absurd digit (by decide)

/-- A time constant between blanks is read as its microseconds. -/
theorem parseMicros_expand (published : Publishes start ks env) {name : String} {n : Int}
    {lead trail : List Char} (closed : '}' ∉ name.toList) (time : IsTime start ks name n)
    (before : ∀ c ∈ lead, Text.isBlank c = true) (after : ∀ c ∈ trail, Text.isBlank c = true) :
    Expression.parseMicros
      (env.expand (String.ofList (lead ++ (placeholder name.toList ++ trail)))).value = .ok n := by
  obtain ⟨found, fits⟩ := time.text? published
  have solid := solid_toString n
  have no {cs : List Char} (blank : ∀ c ∈ cs, Text.isBlank c = true) : '$' ∉ cs :=
    fun mem => absurd (blank '$' mem) (by decide)
  have written : Expands env (placeholder name.toList) (toString n).toList :=
    expands_constant closed found fun mem => (solid '$' mem).2 rfl
  have whole := (Expands.plain (no before)).append (written.append (Expands.plain (no after)))
  have nonempty : (toString n).toList ≠ [] := by
    rw [Text.toList_toString_int]
    exact List.append_ne_nil_of_right_ne_nil _ Nat.toDigits_ne_nil
  rw [whole.expand, parseMicros_eq_ok]
  refine .bare ?_ (Text.readInteger_toString fits)
  rw [String.toList_ofList]
  exact Text.words_single before after (fun c mem => (solid c mem).1) nonempty

/-- An entry gated by the answer to a comparison applies exactly if that holds. -/
theorem applies_answer (published : Publishes start ks env) {name : String} {e : Comparison}
    {v : View} {p : Property} (closed : '}' ∉ name.toList) (answer : IsAnswer start ks name e)
    (seen : v.environment = env) (gated : p.gate = some (String.ofList (placeholder name.toList))) :
    (v.applies p).value = decide (e.relation = .equal ↔ e.left = e.right) := by
  have plain : '$' ∉ (conditionText e.holds).toList := by cases e.holds <;> decide
  have word := (expands_constant closed (answer.text? published) plain).expand
  have opens : View.applies v p = do
      let word ← v.environment.expand (String.ofList (placeholder name.toList))
      return Document.openWords.contains word := by
    rw [View.applies, gated]
  rw [opens, Logging.Logged.value_bind, Logging.Logged.value_pure, seen, word,
    String.ofList_toList]
  have holds := Comparison.holds_iff e
  cases answered : e.holds with
  | true =>
    rw [answered] at holds
    rw [decide_eq_true (holds.1 rfl)]
    decide
  | false =>
    rw [answered] at holds
    rw [decide_eq_false fun same => by cases holds.2 same]
    decide

/-- Every entry is judged by itself. -/
theorem value_applying (v : View) (ps : List Property) :
    (v.applying ps).value = ps.filter fun p => (v.applies p).value := by
  induction ps with
  | nil => rfl
  | cons p ps ih =>
    rw [View.applying, Logging.Logged.value_bind, Logging.Logged.value_bind,
      Logging.Logged.value_pure, ih, List.filter_cons]

end

/-- **Constants survive publication and interpolation.**  In every environment that the constants
`ks` led to from `start`: an expression over literals and number constants that stand, each put in
by a placeholder, has the value of its operators applied from left to right to the literals and the
constants' own values, a zero constant having no sign; a time constant that stands is read as its
microseconds, with any blanks around it; and an entry gated by the answer to a comparison is among
those that apply exactly if the comparison holds. -/
theorem constants_survive_interpolation {start env : Environment} {ks : List Constant}
    (published : Publishes start ks env) :
    (∀ (e : Chain Term) (value : Term → Float), e.Spaced →
      (∀ t ∈ e.terms, t.Worth start ks (value t)) →
        Expression.evaluate (env.expand (String.ofList (e.text Term.chars))).value =
          (e.fold value).mapError ArithmeticFault.toError) ∧
    (∀ (name : String) (n : Int) (lead trail : List Char), '}' ∉ name.toList →
      IsTime start ks name n → (∀ c ∈ lead, Text.isBlank c = true) →
      (∀ c ∈ trail, Text.isBlank c = true) →
        Expression.parseMicros (env.expand
          (String.ofList (lead ++ (placeholder name.toList ++ trail)))).value = .ok n) ∧
    (∀ (name : String) (e : Comparison) (v : View) (before after : List Property) (p : Property),
      '}' ∉ name.toList → IsAnswer start ks name e → v.environment = env →
      p.gate = some (String.ofList (placeholder name.toList)) →
        (v.applying (before ++ p :: after)).value = (v.applying before).value ++
          ((if e.relation = .equal ↔ e.left = e.right then [p] else []) ++
            (v.applying after).value)) := by
  refine ⟨fun e value spaced worth => evaluate_expand published spaced worth,
    fun name n lead trail closed time before after =>
      parseMicros_expand published closed time before after,
    fun name e v before after p closed answer seen gated => ?_⟩
  have applies := applies_answer published closed answer seen gated
  rw [value_applying, value_applying, value_applying, List.filter_append, List.filter_cons, applies]
  by_cases holds : e.relation = .equal ↔ e.left = e.right
  · rw [decide_eq_true holds, if_pos rfl, if_pos holds]
    rfl
  · rw [decide_eq_false holds, if_neg (by decide), if_neg holds]
    rfl

def threeConstants : List Constant :=
  [{ name := some "x", number := some "-3" }, { name := some "t", time := some "5 s" },
    { name := some "g", condition := some "a == a" }]

def threePublished : Environment :=
  overlaid Environment.empty [("x", .int (-3)), ("t", .int 5000000), ("g", .text "yes")]

def minusThree : Float := Decimal.readDecimal true 3 1 0

def lone : Chain Literal :=
  ⟨[], ⟨true, ['3'], none⟩, [], []⟩

theorem evaluate_minusThree (env : Environment) :
    Expression.evaluate (env.expand "-3").value = .ok minusThree := by
  have literal : (⟨true, ['3'], none⟩ : Literal).Wellformed :=
    ⟨.inr ⟨by simp, by simp⟩, by rintro c ⟨⟩, by simp⟩
  have alone : lone.Spaced :=
    ⟨by rintro c ⟨⟩, by rintro c ⟨⟩, by rintro k ⟨⟩, by rintro k ⟨⟩⟩
  have read : Expression.evaluateChars (lone.text Literal.chars) = lone.fold Literal.value :=
    Expression.evaluateChars_text alone fun t mem => by
      cases List.mem_singleton.1 mem
      exact literal.numeral
  have expanded : (env.expand "-3").value = "-3" :=
    (show Expands env ['-', '3'] ['-', '3'] from .plain (by decide)).expand
  rw [expanded, Expression.evaluate]
  exact congrArg (Except.mapError ArithmeticFault.toError) read

theorem expand_fiveSeconds (env : Environment) : (env.expand "5 s").value = "5 s" :=
  (show Expands env ['5', ' ', 's'] ['5', ' ', 's'] from .plain (by decide)).expand

theorem expand_same (env : Environment) : (env.expand "a == a").value = "a == a" :=
  (show Expands env ['a', ' ', '=', '=', ' ', 'a'] _ from .plain (by decide)).expand

theorem publishes_threeConstants :
    Publishes Environment.empty threeConstants threePublished := by
  refine .named rfl ?_ (.named rfl ?_ (.named rfl ?_ (.nil _)))
  · show (Expression.evaluate (Environment.empty.expand "-3").value).map numberValue = _
    rw [evaluate_minusThree]
    rfl
  · show (Expression.parseMicros (Environment.expand _ "5 s").value).map Value.int = _
    rw [expand_fiveSeconds]
    rfl
  · show (Comparison.parse (Environment.expand _ "a == a").value).map _ = _
    rw [expand_same]
    rfl

/-- Three constants, and what is made of their placeholders. -/
theorem threeConstants_survive :
    Publishes Environment.empty threeConstants threePublished ∧
      Expression.evaluate (threePublished.expand (String.ofList
        (placeholder ['x'] ++ [' ', '-', ' '] ++ placeholder ['x']))).value =
          .ok (minusThree - minusThree) ∧
      Expression.parseMicros (threePublished.expand (String.ofList
        (' ' :: placeholder ['t']))).value = .ok 5000000 ∧
      (View.applying ⟨"a", {}, threePublished⟩
        [{ gate := some (String.ofList (placeholder ['g'])) }]).value =
          [{ gate := some (String.ofList (placeholder ['g'])) }] := by
  obtain ⟨expressions, times, gates⟩ := constants_survive_interpolation publishes_threeConstants
  obtain ⟨_, one, _⟩ := Publishes.append (show Publishes _
    (threeConstants.take 1 ++ threeConstants.drop 1) _ from publishes_threeConstants)
  obtain ⟨_, two, _⟩ := Publishes.append (show Publishes _
    (threeConstants.take 2 ++ threeConstants.drop 2) _ from publishes_threeConstants)
  have x : IsNumber Environment.empty threeConstants "x" minusThree :=
    .intro (.intro [] _ rfl rfl (.nil _) (by simp)) rfl rfl rfl
      (evaluate_minusThree _) rfl
  have t : IsTime Environment.empty threeConstants "t" 5000000 :=
    .intro (.intro (threeConstants.take 1) _ rfl rfl one (by simp)) rfl rfl
      (by rw [expand_fiveSeconds]; rfl)
  have g : IsAnswer Environment.empty threeConstants "g" ⟨"a", "a", .equal⟩ :=
    .intro (.intro (threeConstants.take 2) _ rfl rfl two (by simp)) rfl rfl rfl rfl
      (by rw [expand_same]; rfl)
  have term : Term.Worth Environment.empty threeConstants (.constant "x") minusThree :=
    .constant (by decide) x
  have space : Blank [' '] := by simp [Blank, Text.isAsciiBlank]
  have blank : ∀ c ∈ [' '], Text.isBlank c = true := by
    intro c mem
    rw [List.mem_singleton.1 mem]
    decide
  refine ⟨publishes_threeConstants, ?_, ?_, ?_⟩
  · refine expressions ⟨[], .constant "x", [⟨[' '], .minus, [' '], .constant "x"⟩], []⟩
      (fun _ => minusThree) ⟨by rintro c ⟨⟩, by rintro c ⟨⟩, ?_, ?_⟩ ?_
    · intro k mem
      rw [List.mem_singleton.1 mem]
      exact space
    · intro k mem
      rw [List.mem_singleton.1 mem]
      exact space
    · intro t mem
      have same : t = .constant "x" := by simpa [Chain.terms] using mem
      rw [same]
      exact term
  · exact times "t" 5000000 [' '] [] (by decide) t blank (by rintro c ⟨⟩)
  · exact gates "g" ⟨"a", "a", .equal⟩ ⟨"a", {}, _⟩ [] [] _ (by decide) g rfl rfl

end Wiring.Context
