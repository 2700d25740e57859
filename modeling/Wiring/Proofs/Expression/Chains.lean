/-
# Wiring.Proofs.Expression.Chains -- an expression is evaluated as the fold of its operators

A chain is a first term and links, each an operator and a term, with blanks in between.  Whatever
its terms stand for, once each is written as a literal with its value (`Numeral`), the text of the
chain is evaluated by applying the operators from left to right (`evaluateChars_text`).
-/
import Wiring.Proofs.Expression.Literals
import Mathlib.Data.List.DropRight

namespace Wiring.Expression

set_option autoImplicit false

open Wiring.Text (isAsciiBlank trimBy)

/-! ## Chains -/

def Operator.char : Operator → Char
  | .plus => '+'
  | .minus => '-'
  | .times => '*'
  | .over => '/'

@[simp]
theorem Operator.ofChar?_char (op : Operator) : Operator.ofChar? op.char = some op := by
  cases op <;> rfl

theorem Operator.isAsciiBlank_char (op : Operator) : isAsciiBlank op.char = false := by
  cases op <;> decide

def Blank (cs : List Char) : Prop := ∀ c ∈ cs, isAsciiBlank c = true

/-- An operator, its term and the blanks in front of either. -/
structure Link (α : Type) where
  before : List Char
  operator : Operator
  after : List Char
  term : α

/-- Terms joined by operators, with blanks around. -/
structure Chain (α : Type) where
  lead : List Char
  first : α
  links : List (Link α)
  trail : List Char

variable {α : Type}

/-- The text of a link whose terms are written by `f`. -/
def Link.text (f : α → List Char) (k : Link α) : List Char :=
  k.before ++ k.operator.char :: (k.after ++ f k.term)

namespace Chain

/-- The text without the blanks around it. -/
def core (f : α → List Char) (e : Chain α) : List Char := f e.first ++ e.links.flatMap (Link.text f)

def text (f : α → List Char) (e : Chain α) : List Char := e.lead ++ (e.core f ++ e.trail)

def terms (e : Chain α) : List α := e.first :: e.links.map (·.term)

/-- Only blanks stand between the parts. -/
structure Spaced (e : Chain α) : Prop where
  lead : Blank e.lead
  trail : Blank e.trail
  before : ∀ k ∈ e.links, Blank k.before
  after : ∀ k ∈ e.links, Blank k.after

/-- Applies the operators of links to a first value, from left to right. -/
def foldLinks (value : α → Float) (x : Float) (links : List (Link α)) :
    Except ArithmeticFault Float :=
  links.foldlM (fun x k => k.operator.apply x (value k.term)) x

def fold (value : α → Float) (e : Chain α) : Except ArithmeticFault Float :=
  foldLinks value (value e.first) e.links

end Chain

/-! ## Numerals -/

/-- `cs` is a literal and its value is `x`. -/
def Numeral (cs : List Char) (x : Float) : Prop :=
  ∃ l : Literal, l.Wellformed ∧ cs = l.chars ∧ l.value = x

theorem Literal.Wellformed.numeral {l : Literal} (wellformed : l.Wellformed) :
    Numeral l.chars l.value := ⟨l, wellformed, rfl, rfl⟩

theorem isAsciiBlank_of_isDigit {c : Char} (digit : c.isDigit = true) : isAsciiBlank c = false :=
  (Bool.or_eq_false_iff.1 (not_endsTerm_of_isDigit digit)).1

/-- A literal is made of signs, points and digits. -/
theorem Literal.Wellformed.mem_chars {l : Literal} (wellformed : l.Wellformed) :
    ∀ c ∈ l.chars, c = '-' ∨ c = '.' ∨ c.isDigit = true := by
  intro c mem
  rw [Literal.chars_eq, List.mem_append, List.mem_append] at mem
  rcases mem with sign | whole | tail
  · split at sign
    · exact .inl (List.mem_singleton.1 sign)
    · cases sign
  · rcases wellformed.whole with zeros | ⟨digits, _⟩
    · rw [zeros c whole]
      exact .inr (.inr rfl)
    · exact .inr (.inr (digits c whole))
  · have places := wellformed.places
    rw [Literal.tail] at tail
    rw [Literal.places] at places
    cases fraction : l.fraction with
    | none =>
      rw [fraction] at tail
      cases tail
    | some ds =>
      rw [fraction] at tail places
      exact .inr ((List.mem_cons.1 tail).imp_right (places c))

theorem Literal.Wellformed.not_blank {l : Literal} (wellformed : l.Wellformed) :
    ∀ c ∈ l.chars, isAsciiBlank c = false := by
  intro c mem
  rcases wellformed.mem_chars c mem with rfl | rfl | digit
  · rfl
  · rfl
  · exact isAsciiBlank_of_isDigit digit

theorem Literal.Wellformed.chars_ne_nil {l : Literal} (wellformed : l.Wellformed) :
    l.chars ≠ [] := by
  have digits := wellformed.digits
  rw [Literal.chars_eq, Literal.tail]
  rw [Literal.places] at digits
  intro empty
  obtain ⟨_, empty⟩ := List.append_eq_nil_iff.1 empty
  obtain ⟨whole, tail⟩ := List.append_eq_nil_iff.1 empty
  cases fraction : l.fraction with
  | none =>
    rw [whole, fraction] at digits
    exact digits rfl
  | some ds =>
    rw [fraction] at tail
    cases tail

section

variable {cs : List Char} {x : Float}

theorem Numeral.not_blank (numeral : Numeral cs x) : ∀ c ∈ cs, isAsciiBlank c = false := by
  obtain ⟨l, wellformed, rfl, _⟩ := numeral
  exact wellformed.not_blank

theorem Numeral.ne_nil (numeral : Numeral cs x) : cs ≠ [] := by
  obtain ⟨l, wellformed, rfl, _⟩ := numeral
  exact wellformed.chars_ne_nil

theorem Numeral.readTerm {rest : List Char} (numeral : Numeral cs x) (stops : Stops rest) :
    readTerm (cs ++ rest) = .ok (x, rest) := by
  obtain ⟨l, wellformed, rfl, rfl⟩ := numeral
  exact readTerm_chars wellformed stops

/-- No blank is dropped in front of a numeral. -/
theorem Numeral.head (numeral : Numeral cs x) (rest : List Char) :
    ∀ c ∈ (cs ++ rest).head?, isAsciiBlank c = false := by
  intro c mem
  rw [List.head?_append_of_ne_nil _ numeral.ne_nil] at mem
  exact numeral.not_blank c (List.mem_of_mem_head? mem)

end

/-! ## Trimming -/

/-- Trimming leaves what starts and ends without a blank. -/
theorem trimBy_core {p : Char → Bool} {lead core trail : List Char} (blank : ∀ c ∈ lead, p c = true)
    (after : ∀ c ∈ trail, p c = true) (head : ∀ c ∈ core.head?, p c = false)
    (last : ∀ c ∈ core.getLast?, p c = false) (nonempty : core ≠ []) :
    trimBy p (lead ++ (core ++ trail)) = core := by
  have front : (lead ++ (core ++ trail)).dropWhile p = core ++ trail := by
    refine dropWhile_append_stop blank ?_
    rwa [List.head?_append_of_ne_nil _ nonempty]
  have back : (trail.reverse ++ core.reverse).dropWhile p = core.reverse := by
    refine dropWhile_append_stop (fun c mem => after c (List.mem_reverse.1 mem)) ?_
    rwa [List.head?_reverse]
  rw [trimBy, front, List.reverse_append, back, List.reverse_reverse]

/-- Blanks at the end of a text, and the text in front of them. -/
theorem exists_trail (p : Char → Bool) (cs : List Char) :
    ∃ kept trail, cs = kept ++ trail ∧ (∀ c ∈ trail, p c = true) ∧
      ∀ c ∈ kept.getLast?, p c = false := by
  refine ⟨cs.rdropWhile p, cs.rtakeWhile p, List.rdropWhile_append_rtakeWhile.symm,
    fun c mem => List.mem_rtakeWhile_imp mem, fun c last => ?_⟩
  obtain ⟨nonempty, rfl⟩ := List.mem_getLast?_eq_getLast last
  simpa using List.rdropWhile_last_not p cs nonempty

/-- Trimming a text that starts with a blank and something else takes from the rest of it the blanks
at the end. -/
theorem trimBy_append {p : Char → Bool} {lead core : List Char} (blank : ∀ c ∈ lead, p c = true)
    (head : ∀ c ∈ core.head?, p c = false) (last : ∀ c ∈ core.getLast?, p c = false)
    (nonempty : core ≠ []) (rest : List Char) :
    ∃ kept trail, rest = kept ++ trail ∧ (∀ c ∈ trail, p c = true) ∧
      trimBy p (lead ++ (core ++ rest)) = core ++ kept := by
  obtain ⟨kept, trail, rfl, after, ends⟩ := exists_trail p rest
  refine ⟨kept, trail, rfl, after, ?_⟩
  rw [← List.append_assoc core]
  refine trimBy_core blank after ?_ ?_ (List.append_ne_nil_of_left_ne_nil nonempty kept)
  · rwa [List.head?_append_of_ne_nil _ nonempty]
  · intro c mem
    rw [List.getLast?_append] at mem
    cases kept_last : kept.getLast? with
    | none =>
      rw [kept_last] at mem
      exact last c mem
    | some d =>
      rw [kept_last] at mem
      exact ends c (kept_last ▸ mem)

/-! ## Evaluating -/

/-- One step: the operator, the term behind it, and the rest. -/
theorem evaluateRest_step {x y : Float} {op : Operator} {cs rest operand after : List Char}
    (found : cs.dropWhile isAsciiBlank = op.char :: rest)
    (operandFound : rest.dropWhile isAsciiBlank = operand) (nonempty : operand ≠ [])
    (read : readTerm operand = .ok (y, after)) :
    evaluateRest x cs = (op.apply x y).bind fun z => evaluateRest z after := by
  rw [evaluateRest.eq_def]
  split
  · next none => rw [none] at found; cases found
  · next c rest' same =>
    rw [found] at same
    obtain ⟨rfl, rfl⟩ := List.cons.inj same
    rw [Operator.ofChar?_char]
    simp only
    split
    · next none =>
      rw [operandFound] at none
      exact absurd none nonempty
    · next o operand' same =>
      rw [operandFound] at same
      subst same
      split
      · next error =>
        rw [read] at error
        cases error
      · next y' after' same =>
        rw [read] at same
        cases same
        cases op.apply x y <;> rfl

theorem evaluateRest_blank {cs : List Char} (blank : Blank cs) (x : Float) :
    evaluateRest x cs = .ok x := by
  have none : cs.dropWhile isAsciiBlank = [] := List.dropWhile_eq_nil_iff.2 blank
  rw [evaluateRest.eq_def]
  split
  · rfl
  · next some =>
    rw [none] at some
    cases some

/-- The links that follow a term do not stick to it, nor does what follows them. -/
theorem stops_links {f : α → List Char} {links : List (Link α)}
    (blank : ∀ k ∈ links, Blank k.before) {rest : List Char} (stops : Stops rest) :
    Stops (links.flatMap (Link.text f) ++ rest) := by
  cases links with
  | nil => exact stops
  | cons k ks =>
    rw [List.flatMap_cons, Link.text]
    cases before : k.before with
    | nil => exact Stops.cons (by simp [endsTerm]) _
    | cons c cs =>
      have blank := blank k List.mem_cons_self
      rw [before] at blank
      exact Stops.cons (by simp [endsTerm, blank c List.mem_cons_self]) _

section

variable {f : α → List Char} {value : α → Float}

/-- Links are evaluated one after the other, up to the first operation that fails; then what
follows them. -/
theorem evaluateRest_append {links : List (Link α)} (before : ∀ k ∈ links, Blank k.before)
    (after : ∀ k ∈ links, Blank k.after)
    (numerals : ∀ k ∈ links, Numeral (f k.term) (value k.term)) {rest : List Char}
    (stops : Stops rest) (x : Float) :
    evaluateRest x (links.flatMap (Link.text f) ++ rest) =
      (Chain.foldLinks value x links).bind fun z => evaluateRest z rest := by
  induction links generalizing x with
  | nil => rfl
  | cons k ks ih =>
    have others {p : Link α → Prop} (all : ∀ j ∈ k :: ks, p j) : ∀ j ∈ ks, p j :=
      fun j mem => all j (List.mem_cons_of_mem _ mem)
    have numeral := numerals k List.mem_cons_self
    let more := ks.flatMap (Link.text f) ++ rest
    have found : ((k :: ks).flatMap (Link.text f) ++ rest).dropWhile isAsciiBlank =
        k.operator.char :: (k.after ++ (f k.term ++ more)) := by
      have shape : (k :: ks).flatMap (Link.text f) ++ rest =
          k.before ++ k.operator.char :: (k.after ++ (f k.term ++ more)) := by
        simp [Link.text, more]
      rw [shape]
      refine dropWhile_append_stop (before k List.mem_cons_self) ?_
      rintro _ ⟨⟩
      exact k.operator.isAsciiBlank_char
    have operandFound : (k.after ++ (f k.term ++ more)).dropWhile isAsciiBlank = f k.term ++ more :=
      dropWhile_append_stop (after k List.mem_cons_self) (numeral.head more)
    have nonempty : f k.term ++ more ≠ [] := List.append_ne_nil_of_left_ne_nil numeral.ne_nil _
    have read := numeral.readTerm (stops_links (f := f) (others before) stops)
    rw [evaluateRest_step found operandFound nonempty read, Chain.foldLinks, List.foldlM_cons]
    cases k.operator.apply x (value k.term) with
    | error e => rfl
    | ok z => exact ih (others before) (others after) (others numerals) z

/-- A chain ends with its last term. -/
theorem Chain.core_ends (e : Chain α) : ∃ cs, ∃ t ∈ e.terms, e.core f = cs ++ f t := by
  obtain ⟨lead, first, links, trail⟩ := e
  rcases List.eq_nil_or_concat links with rfl | ⟨front, k, rfl⟩
  · exact ⟨[], first, List.mem_cons_self, List.append_nil _⟩
  · refine ⟨f first ++ front.flatMap (Link.text f) ++ (k.before ++ k.operator.char :: k.after),
      k.term, by simp [Chain.terms], ?_⟩
    simp [Chain.core, Link.text]

/-- **A chain of numerals is evaluated by applying its operators from left to right**, and then what
follows it, up to the blanks at the end. -/
theorem evaluateChars_append {e : Chain α} (spaced : e.Spaced)
    (numerals : ∀ t ∈ e.terms, Numeral (f t) (value t)) {rest : List Char} (stops : Stops rest) :
    ∃ kept trail, rest = kept ++ trail ∧ Blank trail ∧
      evaluateChars (e.lead ++ (e.core f ++ rest)) =
        (e.fold value).bind fun z => evaluateRest z kept := by
  have first := numerals e.first List.mem_cons_self
  have nonempty : e.core f ≠ [] := List.append_ne_nil_of_left_ne_nil first.ne_nil _
  have head : ∀ c ∈ (e.core f).head?, isAsciiBlank c = false := first.head _
  have last : ∀ c ∈ (e.core f).getLast?, isAsciiBlank c = false := by
    obtain ⟨cs, t, mem, ends⟩ := e.core_ends (f := f)
    have numeral := numerals t mem
    intro c last
    rw [ends, List.getLast?_append_of_ne_nil _ numeral.ne_nil] at last
    exact numeral.not_blank c (List.mem_of_mem_getLast? last)
  have links : ∀ k ∈ e.links, Numeral (f k.term) (value k.term) := fun k mem =>
    numerals k.term (List.mem_cons_of_mem _ (List.mem_map_of_mem mem))
  obtain ⟨kept, trail, rfl, blank, trimmed⟩ :=
    trimBy_append spaced.lead head last nonempty rest
  refine ⟨kept, trail, rfl, blank, ?_⟩
  have stops : Stops kept := by
    intro c mem
    refine stops c ?_
    rw [List.head?_append, Option.mem_def.1 mem]
    rfl
  unfold evaluateChars
  rw [trimmed]
  split
  · next empty => exact absurd (List.append_eq_nil_iff.1 empty).1 nonempty
  · rw [Chain.core, List.append_assoc, first.readTerm (stops_links spaced.before stops)]
    exact evaluateRest_append spaced.before spaced.after links stops _

/-- A text that is a chain of numerals is evaluated to the fold of its operators. -/
theorem evaluateChars_text {e : Chain α} (spaced : e.Spaced)
    (numerals : ∀ t ∈ e.terms, Numeral (f t) (value t)) :
    evaluateChars (e.text f) = e.fold value := by
  have stops : Stops e.trail := by
    intro c mem
    rw [endsTerm, spaced.trail c (List.mem_of_mem_head? mem)]
    rfl
  obtain ⟨kept, trail, same, _, evaluated⟩ := evaluateChars_append spaced numerals stops
  rw [Chain.text, evaluated]
  have blank : Blank kept := fun c mem => spaced.trail c (same ▸ List.mem_append_left _ mem)
  cases e.fold value with
  | error fault => rfl
  | ok x => exact evaluateRest_blank blank x

end

end Wiring.Expression
