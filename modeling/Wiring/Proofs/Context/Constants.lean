/-
# Wiring.Proofs.Context.Constants -- constants are a program that runs from left to right

Each named constant is evaluated over the initial environment and exactly the constants before it,
from its first attribute; the first one that fails ends the run with its error, and what was
published until then stays.  Constants without a name are not looked at.

A constant that no later one replaces keeps its value to the end of the run (`LastOf.get?`).
-/
import Wiring.Proofs.Context.Numbers
import Wiring.Proofs.Context.Start

namespace Wiring.Context

set_option autoImplicit false

open Wiring.Config (Environment Value)
open Wiring.Document (Constant)
open Wiring.Expression (Comparison)

/-! ## Timespans -/

/-- A timespan and its exact microseconds, which fit 64 bits. -/
inductive Spans (text : String) : Int → Prop
  | bare {number : List Char} {n : Int} (words : Text.words text.toList = [number])
      (read : Text.readInteger number = some n) : Spans text n
  | units {number unit : List Char} {n k : Int} (words : Text.words text.toList = [number, unit])
      (factor : Expression.microsPerUnit? unit = some k)
      (read : Text.readInteger number = some n) (fits : Text.fitsInteger (n * k) = true) :
      Spans text (n * k)

theorem scaledSpan_eq_ok {input : String} {number : List Char} {k n : Int} :
    Expression.scaledSpan input number k = .ok n ↔
      ∃ m, Text.readInteger number = some m ∧ Text.fitsInteger (m * k) = true ∧ m * k = n := by
  unfold Expression.scaledSpan
  cases read : Text.readInteger number with
  | none => simp
  | some m =>
    simp only [Option.some.injEq, exists_eq_left']
    split
    · next fits => simp [fits]
    · next unfit => simp [unfit]

/-- A timespan is read as its exact microseconds, or not at all. -/
theorem parseMicros_eq_ok {text : String} {n : Int} :
    Expression.parseMicros text = .ok n ↔ Spans text n := by
  have forget : Expression.parseMicros text = .ok n ↔ Expression.microsOf text = .ok n := by
    unfold Expression.parseMicros
    cases Expression.microsOf text <;> simp [Except.mapError]
  rw [forget, Expression.microsOf]
  constructor
  · intro spanned
    split at spanned
    · next number words =>
      obtain ⟨m, read, _, same⟩ := scaledSpan_eq_ok.1 spanned
      rw [Int.mul_one] at same
      exact .bare words (same ▸ read)
    · next number unit words =>
      split at spanned
      · cases spanned
      · next k factor =>
        obtain ⟨m, read, fits, rfl⟩ := scaledSpan_eq_ok.1 spanned
        exact .units words factor read fits
    · cases spanned
  · rintro (⟨words, read⟩ | ⟨words, factor, read, fits⟩)
    · rw [words]
      have fits := (Text.readInteger_eq_some_iff.1 read).2
      exact scaledSpan_eq_ok.2 ⟨n, read, by rwa [Int.mul_one], Int.mul_one n⟩
    · rw [words]
      simp only
      rw [factor]
      exact scaledSpan_eq_ok.2 ⟨_, read, fits, rfl⟩

/-! ## One constant -/

/-- The result of a constant: its first attribute among text, time, number and condition, expanded
and read. -/
inductive Evaluates (env : Environment) (name : String) (k : Constant) :
    Except Error Value → Prop
  | text {t : String} (given : k.text = some t) :
      Evaluates env name k (.ok (.text (env.expand t).value))
  | time {t : String} {n : Int} (noText : k.text = none) (given : k.time = some t)
      (exact : Spans (env.expand t).value n) : Evaluates env name k (.ok (.int n))
  | badTime {t : String} {e : Error} (noText : k.text = none) (given : k.time = some t)
      (failed : Expression.parseMicros (env.expand t).value = .error e) :
      Evaluates env name k (.error e)
  | number {t : String} {x : Float} {v : Value} (noText : k.text = none) (noTime : k.time = none)
      (given : k.number = some t) (result : Expression.evaluate (env.expand t).value = .ok x)
      (classified : Classified x v) : Evaluates env name k (.ok v)
  | badNumber {t : String} {e : Error} (noText : k.text = none) (noTime : k.time = none)
      (given : k.number = some t) (failed : Expression.evaluate (env.expand t).value = .error e) :
      Evaluates env name k (.error e)
  | yes {t : String} {e : Comparison} (noText : k.text = none) (noTime : k.time = none)
      (noNumber : k.number = none) (given : k.condition = some t)
      (parsed : Comparison.parse (env.expand t).value = .ok e)
      (holds : e.relation = .equal ↔ e.left = e.right) : Evaluates env name k (.ok (.text "yes"))
  | no {t : String} {e : Comparison} (noText : k.text = none) (noTime : k.time = none)
      (noNumber : k.number = none) (given : k.condition = some t)
      (parsed : Comparison.parse (env.expand t).value = .ok e)
      (fails : ¬(e.relation = .equal ↔ e.left = e.right)) :
      Evaluates env name k (.ok (.text "no"))
  | badCondition {t : String} {e : Error} (noText : k.text = none) (noTime : k.time = none)
      (noNumber : k.number = none) (given : k.condition = some t)
      (failed : Comparison.parse (env.expand t).value = .error e) : Evaluates env name k (.error e)
  | missing (noText : k.text = none) (noTime : k.time = none) (noNumber : k.number = none)
      (noCondition : k.condition = none) :
      Evaluates env name k (.error (.constantValueMissing name))

/-- A comparison holds if its relation is the one its words are in. -/
theorem Comparison.holds_iff (e : Comparison) :
    e.holds = true ↔ (e.relation = .equal ↔ e.left = e.right) := by
  obtain ⟨left, right, relation⟩ := e
  cases relation <;> simp [Comparison.holds]

/-- **A constant is evaluated from its first attribute.** -/
theorem evaluates_constantValue (env : Environment) (name : String) (k : Constant) :
    Evaluates env name k (constantValue env name k).value := by
  unfold constantValue
  split
  · next text given => exact .text given
  · next time noText given =>
    simp only [Logging.Logged.value_bind, Logging.Logged.value_pure]
    cases read : Expression.parseMicros (env.expand time).value with
    | error e => exact .badTime noText given read
    | ok n => exact .time noText given (parseMicros_eq_ok.1 read)
  · next number noText noTime given =>
    simp only [Logging.Logged.value_bind, Logging.Logged.value_pure]
    cases result : Expression.evaluate (env.expand number).value with
    | error e => exact .badNumber noText noTime given result
    | ok x => exact .number noText noTime given result (classified_numberValue x)
  · next condition noText noTime noNumber given =>
    simp only [Logging.Logged.value_bind, Logging.Logged.value_pure]
    cases parsed : Comparison.parse (env.expand condition).value with
    | error e => exact .badCondition noText noTime noNumber given parsed
    | ok e =>
      show Evaluates env name k (.ok (.text (conditionText e.holds)))
      cases holds : e.holds with
      | true => exact .yes noText noTime noNumber given parsed ((Comparison.holds_iff e).1 holds)
      | false =>
        refine .no noText noTime noNumber given parsed fun same => ?_
        rw [(Comparison.holds_iff e).2 same] at holds
        cases holds
  · next noText noTime noNumber noCondition => exact .missing noText noTime noNumber noCondition

/-! ## The overlay -/

/-- An environment with constants published over it, one after the other. -/
def overlaid (env : Environment) (ps : List (String × Value)) : Environment :=
  ps.foldl (fun env p => env.publish p.1 p.2) env

theorem get?_publish (env : Environment) (name : String) (v : Value) (key : String) :
    (env.publish name v).get? key = if key = name then some v else env.get? key := by
  unfold Environment.get? Environment.publish
  by_cases same : key = name
  · rw [if_pos same, same, Keyed.lookup_put_self]
  · rw [if_neg same, Keyed.lookup_put_of_ne same]

/-- What was published last under a name stands, over the initial environment. -/
theorem get?_overlaid (env : Environment) (ps : List (String × Value)) (key : String) :
    (overlaid env ps).get? key = (ps.reverse.lookup key).or (env.get? key) := by
  induction ps generalizing env with
  | nil => rfl
  | cons p ps ih =>
    obtain ⟨name, v⟩ := p
    show (overlaid (env.publish name v) ps).get? key = _
    rw [ih, get?_publish, List.reverse_cons, List.lookup_append, Option.or_assoc]
    congr 1
    rw [List.lookup_cons]
    split
    · next same => simp [same]
    · next other =>
      have other : (key == name) = false := by simpa using other
      rw [other]
      rfl

/-! ## All constants -/

def namedConstants (ks : List Constant) : List (String × Constant) :=
  ks.filterMap fun k => k.name.map fun name => (name, k)

/-- Constants were published in order, each evaluated over those before it; then there is none left,
or the next one fails with the error that is the result. -/
structure RunsInOrder (env : Environment) (ks : List (String × Constant))
    (published : List (String × Value)) (result : Except Error Unit) : Prop where
  each : ∀ i (inside : i < published.length), ∃ k, ks[i]? = some (published[i].1, k) ∧
    Evaluates (overlaid env (published.take i)) published[i].1 k (.ok published[i].2)
  ends : (result = .ok () ∧ published.length = ks.length) ∨
    ∃ name k e, ks[published.length]? = some (name, k) ∧
      Evaluates (overlaid env published) name k (.error e) ∧ result = .error e

theorem RunsInOrder.cons {env : Environment} {ks : List (String × Constant)}
    {published : List (String × Value)} {result : Except Error Unit} {name : String} {k : Constant}
    {v : Value} (evaluates : Evaluates env name k (.ok v))
    (runs : RunsInOrder (env.publish name v) ks published result) :
    RunsInOrder env ((name, k) :: ks) ((name, v) :: published) result := by
  refine ⟨fun i inside => ?_, ?_⟩
  · cases i with
    | zero => exact ⟨k, rfl, evaluates⟩
    | succ i => exact runs.each i (Nat.lt_of_succ_lt_succ inside)
  · rcases runs.ends with ⟨ok, all⟩ | failed
    · exact .inl ⟨ok, congrArg (· + 1) all⟩
    · exact .inr failed

theorem runsInOrder_publishConstants (env : Environment) (ks : List Constant) :
    ∃ published, RunsInOrder env (namedConstants ks) published (publishConstants env ks).value.1 ∧
      (publishConstants env ks).value.2 = overlaid env published := by
  induction ks generalizing env with
  | nil => exact ⟨[], ⟨fun i inside => absurd inside (Nat.not_lt_zero i), .inl ⟨rfl, rfl⟩⟩, rfl⟩
  | cons k ks ih =>
    unfold publishConstants
    cases named : k.name with
    | none =>
      have skipped : namedConstants (k :: ks) = namedConstants ks := by
        simp [namedConstants, named]
      rw [skipped]
      exact ih env
    | some name =>
      have taken : namedConstants (k :: ks) = (name, k) :: namedConstants ks := by
        simp [namedConstants, named]
      rw [taken]
      simp only [Logging.Logged.value_bind]
      have evaluates := evaluates_constantValue env name k
      cases result : (constantValue env name k).value with
      | error e =>
        rw [result] at evaluates
        exact ⟨[], ⟨fun i inside => absurd inside (Nat.not_lt_zero i),
          .inr ⟨name, k, e, rfl, evaluates, rfl⟩⟩, rfl⟩
      | ok v =>
        rw [result] at evaluates
        obtain ⟨published, runs, final⟩ := ih (env.publish name v)
        exact ⟨(name, v) :: published, .cons evaluates runs, final⟩

/-! ## What stands -/

/-- What no constant names is as it was. -/
theorem Publishes.get? {env env' : Environment} {ks : List Constant}
    (published : Publishes env ks env') {key : String} (other : ∀ k ∈ ks, k.name ≠ some key) :
    env'.get? key = env.get? key := by
  induction published with
  | nil => rfl
  | nameless unnamed rest ih => exact ih fun k mem => other k (List.mem_cons_of_mem _ mem)
  | named named valued rest ih =>
    have differs := other _ List.mem_cons_self
    rw [ih fun k mem => other k (List.mem_cons_of_mem _ mem), get?_publish, if_neg]
    rintro rfl
    exact differs named

theorem Publishes.unique {env env₁ env₂ : Environment} {ks : List Constant}
    (first : Publishes env ks env₁) (second : Publishes env ks env₂) : env₁ = env₂ := by
  induction first with
  | nil =>
    cases second
    rfl
  | nameless unnamed rest ih =>
    cases second with
    | nameless _ rest' => exact ih rest'
    | named named _ _ =>
      rw [unnamed] at named
      cases named
  | named named valued rest ih =>
    cases second with
    | nameless unnamed _ =>
      rw [named] at unnamed
      cases unnamed
    | named named' valued' rest' =>
      rw [named] at named'
      cases named'
      rw [valued] at valued'
      cases valued'
      exact ih rest'

theorem Publishes.append {env env' : Environment} {ks js : List Constant}
    (published : Publishes env (ks ++ js) env') :
    ∃ mid, Publishes env ks mid ∧ Publishes mid js env' := by
  induction ks generalizing env with
  | nil => exact ⟨env, .nil env, published⟩
  | cons k ks ih =>
    cases published with
    | nameless unnamed rest =>
      obtain ⟨mid, front, back⟩ := ih rest
      exact ⟨mid, .nameless unnamed front, back⟩
    | named named valued rest =>
      obtain ⟨mid, front, back⟩ := ih rest
      exact ⟨mid, .named named valued front, back⟩

/-- Of the constants `ks`, `k` is the last one of its name; started from `start` it is evaluated
over `base`. -/
inductive LastOf (start : Environment) (ks : List Constant) (name : String) (k : Constant)
    (base : Environment) : Prop
  | intro (before after : List Constant) (split : ks = before ++ k :: after)
      (named : k.name = some name) (first : Publishes start before base)
      (last : ∀ j ∈ after, j.name ≠ some name)

/-- **The last constant of a name stands**, with the value it was evaluated to. -/
theorem LastOf.get? {start env base : Environment} {ks : List Constant} {name : String}
    {k : Constant} (lasts : LastOf start ks name k base) (published : Publishes start ks env) :
    ∃ v, (constantValue base name k).value = .ok v ∧ env.get? name = some v := by
  obtain ⟨before, after, rfl, named, first, last⟩ := lasts
  obtain ⟨mid, front, back⟩ := published.append
  cases front.unique first
  cases back with
  | nameless unnamed rest =>
    rw [named] at unnamed
    cases unnamed
  | named named' valued rest =>
    rw [named] at named'
    cases named'
    exact ⟨_, valued, by rw [rest.get? last, get?_publish, if_pos rfl]⟩

/-- A constant without a name, stripped of all it gives. -/
def stripNameless (k : Constant) : Constant :=
  match k.name with
  | none => {}
  | some _ => k

/-- What a constant without a name gives is never looked at. -/
theorem publishConstants_stripNameless (env : Environment) (ks : List Constant) :
    publishConstants env (ks.map stripNameless) = publishConstants env ks := by
  induction ks generalizing env with
  | nil => rfl
  | cons k ks ih =>
    cases named : k.name with
    | none =>
      have stripped : stripNameless k = {} := by rw [stripNameless, named]
      rw [List.map_cons, stripped, publishConstants, publishConstants, named]
      simp only
      rw [ih]
    | some name =>
      have kept : stripNameless k = k := by rw [stripNameless, named]
      rw [List.map_cons, kept, publishConstants, publishConstants, named]
      simp only
      congr 1
      funext result
      cases result with
      | error e => rfl
      | ok v => exact ih (env.publish name v)

/-- **Constants are a program that runs from left to right.**  The named constants are evaluated in
order, each where exactly those before it are published over the initial environment, the last one
of a name standing; the run ends behind the last of them, or in front of the first that fails, whose
error it returns.  What is published then is what was evaluated, and nothing that a constant
without a name gives makes any difference. -/
theorem constants_run_in_order {σ : Type} [Component.Lifecycle σ] (c : Context σ) :
    (∃ published, RunsInOrder c.environment (namedConstants c.document.constants) published
        c.publish.1 ∧
      c.publish.2.environment = overlaid c.environment published ∧
      ∀ before key, (overlaid c.environment (published.take before)).get? key =
        ((published.take before).reverse.lookup key).or (c.environment.get? key)) ∧
      publishConstants c.environment (c.document.constants.map stripNameless) =
        publishConstants c.environment c.document.constants := by
  obtain ⟨published, runs, final⟩ :=
    runsInOrder_publishConstants c.environment c.document.constants
  exact ⟨⟨published, runs, final, fun before key => get?_overlaid _ _ key⟩,
    publishConstants_stripNameless _ _⟩

end Wiring.Context
