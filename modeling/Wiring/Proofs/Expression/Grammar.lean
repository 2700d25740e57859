/-
# Wiring.Proofs.Expression.Grammar -- which texts have a value, and which fault the others have

An expression is a chain of well-formed literals with blanks in between, and nothing else
(`Chain.Grammatical`).  Such a text is evaluated to the fold of its operators from the left, unless
a term behind `/` is zero.  Reading and evaluating go hand in hand: a zero behind `/` is a fault
of its own wherever the text up to it is a chain, whatever comes later, and all other faults are
faults of the text.

Main statement: `evaluate_exact`, for every text.
-/
import Wiring.Proofs.Expression.Accepted
import Wiring.Proofs.Expression.Chains
import Wiring.Text.Bytes

namespace Wiring.Expression

set_option autoImplicit false

open Wiring.Decimal (Number)
open Wiring.Text (byteSize between? dropBytes? isAsciiBlank trimBy)

/-! ## Values -/

def Operator.compute : Operator → Float → Float → Float
  | .plus, x, y => x + y
  | .minus, x, y => x - y
  | .times, x, y => x * y
  | .over, x, y => x / y

/-- The term of a link is zero and its operator divides by it. -/
def Link.DividesByZero (k : Link Literal) : Prop :=
  k.operator = .over ∧ (Number.ofFloat k.term.value).isZero = true

def Chain.result (e : Chain Literal) : Float :=
  e.links.foldl (fun x k => k.operator.compute x k.term.value) e.first.value

/-- A chain as the grammar has it: well-formed literals with blanks in between. -/
structure Chain.Grammatical (e : Chain Literal) : Prop where
  spaced : e.Spaced
  wellformed : ∀ t ∈ e.terms, t.Wellformed

theorem apply_of_divides {k : Link Literal} (divides : k.DividesByZero) (x : Float) :
    k.operator.apply x k.term.value = .error .divisionByZero := by
  rw [divides.1, Operator.apply, if_pos divides.2]

theorem apply_of_not_divides {k : Link Literal} (safe : ¬k.DividesByZero) (x : Float) :
    k.operator.apply x k.term.value = .ok (k.operator.compute x k.term.value) := by
  by_cases division : k.operator = .over
  · rw [division]
    exact if_neg fun zero => safe ⟨division, zero⟩
  · cases operator : k.operator <;> first | rfl | exact absurd operator division

theorem foldLinks_of_safe {links : List (Link Literal)} (safe : ∀ k ∈ links, ¬k.DividesByZero)
    (x : Float) :
    Chain.foldLinks Literal.value x links =
      .ok (links.foldl (fun x k => k.operator.compute x k.term.value) x) := by
  induction links generalizing x with
  | nil => rfl
  | cons k links ih =>
    rw [Chain.foldLinks, List.foldlM_cons, apply_of_not_divides (safe k List.mem_cons_self)]
    exact ih (fun j mem => safe j (List.mem_cons_of_mem _ mem)) _

theorem foldLinks_of_divides {links : List (Link Literal)} {k : Link Literal} (mem : k ∈ links)
    (divides : k.DividesByZero) (x : Float) :
    Chain.foldLinks Literal.value x links = .error .divisionByZero := by
  induction links generalizing x with
  | nil => cases mem
  | cons j links ih =>
    rw [Chain.foldLinks, List.foldlM_cons]
    by_cases first : j.DividesByZero
    · rw [apply_of_divides first]
      rfl
    · rw [apply_of_not_divides first]
      rcases List.mem_cons.1 mem with rfl | mem
      · exact absurd divides first
      · exact ih mem _

/-! ## Links -/

/-- Links as the grammar has them. -/
structure Linked (links : List (Link Literal)) : Prop where
  before : ∀ k ∈ links, Blank k.before
  after : ∀ k ∈ links, Blank k.after
  wellformed : ∀ k ∈ links, k.term.Wellformed

namespace Linked

variable {links : List (Link Literal)}

theorem nil : Linked [] := ⟨by simp, by simp, by simp⟩

theorem cons {k : Link Literal} (before : Blank k.before) (after : Blank k.after)
    (wellformed : k.term.Wellformed) (linked : Linked links) : Linked (k :: links) := by
  refine ⟨?_, ?_, ?_⟩
  · intro j mem
    exact (List.mem_cons.1 mem).elim (· ▸ before) (linked.before j)
  · intro j mem
    exact (List.mem_cons.1 mem).elim (· ▸ after) (linked.after j)
  · intro j mem
    exact (List.mem_cons.1 mem).elim (· ▸ wellformed) (linked.wellformed j)

end Linked

theorem Operator.char_of_ofChar? {c : Char} {op : Operator} (found : Operator.ofChar? c = some op) :
    op.char = c := by
  unfold Operator.ofChar? at found
  split at found
  · cases found; rfl
  · cases found; rfl
  · cases found; rfl
  · cases found; rfl
  · cases found

theorem takeWhile_blank (cs : List Char) : Blank (cs.takeWhile isAsciiBlank) :=
  fun c mem => List.all_eq_true.1 List.all_takeWhile c mem

theorem blank_of_dropWhile {cs : List Char} (none : cs.dropWhile isAsciiBlank = []) : Blank cs := by
  intro c mem
  rw [← List.takeWhile_append_dropWhile (p := isAsciiBlank) (l := cs), none,
    List.append_nil] at mem
  exact takeWhile_blank cs c mem

/-- How far the links of a text are read, and why no farther: nothing but blanks is left, the last
term is a zero behind `/`, or what follows is not in the grammar. -/
inductive Ends (links : List (Link Literal)) (rest : List Char) : Except ArithmeticFault Float → Prop
  | whole {v : Float} (blank : Blank rest) : Ends links rest (.ok v)
  | divided {k : Link Literal} (stops : Stops rest) (last : links.getLast? = some k)
      (divides : k.DividesByZero) : Ends links rest (.error .divisionByZero)
  | broken {fault : ArithmeticFault} (other : fault ≠ .divisionByZero) :
      Ends links rest (.error fault)

theorem Ends.cons {links : List (Link Literal)} {rest : List Char}
    {r : Except ArithmeticFault Float} (ends : Ends links rest r) (k : Link Literal) :
    Ends (k :: links) rest r := by
  cases ends with
  | whole blank => exact .whole blank
  | @divided j stops last divides =>
    refine .divided (k := j) stops ?_ divides
    rw [List.getLast?_cons, last]
    rfl
  | broken other => exact .broken other

/-- What is read in one step is a link. -/
theorem link_of_read {cs rest operand after : List Char} {c : Char} {op : Operator} {y : Float}
    (found : cs.dropWhile isAsciiBlank = c :: rest) (operator : Operator.ofChar? c = some op)
    (behind : rest.dropWhile isAsciiBlank = operand) (read : readTerm operand = .ok (y, after)) :
    ∃ k : Link Literal, (∀ links, Linked links → Linked (k :: links)) ∧ k.operator = op ∧
      k.term.value = y ∧ cs = k.text Literal.chars ++ after ∧ Stops after := by
  obtain ⟨l, wellformed, shape, stops, value⟩ := readTerm_eq_ok_iff.1 read
  refine ⟨⟨cs.takeWhile isAsciiBlank, op, rest.takeWhile isAsciiBlank, l⟩, fun links linked =>
    linked.cons (takeWhile_blank cs) (takeWhile_blank rest) wellformed, rfl, value.symm, ?_, stops⟩
  calc cs
    _ = cs.takeWhile isAsciiBlank ++ cs.dropWhile isAsciiBlank :=
        List.takeWhile_append_dropWhile.symm
    _ = cs.takeWhile isAsciiBlank ++
          op.char :: (rest.takeWhile isAsciiBlank ++ rest.dropWhile isAsciiBlank) := by
        rw [found, List.takeWhile_append_dropWhile, Operator.char_of_ofChar? operator]
    _ = _ := by
        rw [behind, shape]
        simp [Link.text]

/-- **Links are read as far as the text goes by the grammar.** -/
theorem ends_evaluateRest (x : Float) (cs : List Char) :
    ∃ links rest, Linked links ∧ cs = links.flatMap (Link.text Literal.chars) ++ rest ∧
      Ends links rest (evaluateRest x cs) := by
  have nothing {r : Except ArithmeticFault Float} {cs : List Char} (ends : Ends [] cs r) :
      ∃ links rest, Linked links ∧ cs = links.flatMap (Link.text Literal.chars) ++ rest ∧
        Ends links rest r := ⟨[], cs, .nil, rfl, ends⟩
  fun_induction evaluateRest x cs with
  | case1 x cs none => exact nothing (.whole (blank_of_dropWhile none))
  | case2 x cs c rest found other => exact nothing (.broken (by simp))
  | case3 x cs c rest found op operator none => exact nothing (.broken (by simp))
  | case4 x cs c rest found op operator o operand behind fault failed =>
    exact nothing (.broken (readTerm_error failed))
  | case5 x cs c rest found op operator o operand behind y after read fault failed =>
    obtain ⟨k, linked, rfl, rfl, shape, stops⟩ := link_of_read found operator behind read
    -- The only operation that fails is the division by zero.
    by_cases divides : k.DividesByZero
    · rw [apply_of_divides divides] at failed
      cases failed
      exact ⟨[k], after, linked [] .nil, by simpa using shape, .divided stops rfl divides⟩
    · rw [apply_of_not_divides divides] at failed
      cases failed
  | case6 x cs c rest found op operator o operand behind y after read z applied ih =>
    obtain ⟨k, linked, rfl, rfl, shape, stops⟩ := link_of_read found operator behind read
    obtain ⟨links, more, wellformed, further, ends⟩ := ih
    refine ⟨k :: links, more, linked links wellformed, ?_, ends.cons k⟩
    rw [shape, further, List.flatMap_cons, List.append_assoc]

/-! ## Whole texts -/

/-- Trimming takes blanks from both ends. -/
theorem trimBy_split (p : Char → Bool) (cs : List Char) :
    ∃ lead trail, (∀ c ∈ lead, p c = true) ∧ (∀ c ∈ trail, p c = true) ∧
      cs = lead ++ (trimBy p cs ++ trail) := by
  refine ⟨cs.takeWhile p, (cs.dropWhile p).rtakeWhile p,
    fun c mem => List.all_eq_true.1 List.all_takeWhile c mem,
    fun c mem => List.mem_rtakeWhile_imp mem, ?_⟩
  have kept : trimBy p cs = (cs.dropWhile p).rdropWhile p := rfl
  rw [kept, List.rdropWhile_append_rtakeWhile, List.takeWhile_append_dropWhile]

/-- A text begins with a chain whose last term is a zero behind `/` that nothing sticks to. -/
def ReachesZero (cs : List Char) : Prop :=
  ∃ (e : Chain Literal) (k : Link Literal) (rest : List Char), e.Grammatical ∧
    cs = e.lead ++ (e.core Literal.chars ++ rest) ∧ Stops rest ∧
    e.links.getLast? = some k ∧ k.DividesByZero

theorem Linked.grammatical {links : List (Link Literal)} (linked : Linked links) {l : Literal}
    (wellformed : l.Wellformed) {lead trail : List Char} (before : Blank lead)
    (after : Blank trail) : Chain.Grammatical ⟨lead, l, links, trail⟩ := by
  refine ⟨⟨before, after, linked.before, linked.after⟩, fun t mem => ?_⟩
  rcases List.mem_cons.1 mem with rfl | mem
  · exact wellformed
  · obtain ⟨k, there, rfl⟩ := List.mem_map.1 mem
    exact linked.wellformed k there

/-- **A text is a chain, comes to a division by zero, or has another fault.** -/
theorem evaluateChars_cases (cs : List Char) :
    (∃ e : Chain Literal, e.Grammatical ∧ e.text Literal.chars = cs ∧
        ∃ v, evaluateChars cs = .ok v) ∨
      (ReachesZero cs ∧ evaluateChars cs = .error .divisionByZero) ∨
      ∃ fault, fault ≠ .divisionByZero ∧ evaluateChars cs = .error fault := by
  obtain ⟨lead, trail, before, after, shape⟩ := trimBy_split isAsciiBlank cs
  cases trimmed : trimBy isAsciiBlank cs with
  | nil =>
    refine .inr (.inr ⟨.empty, by simp, ?_⟩)
    rw [evaluateChars, trimmed]
  | cons c core =>
    have evaluated : evaluateChars cs =
        (readTerm (c :: core)).bind fun found => evaluateRest found.1 found.2 := by
      rw [evaluateChars, trimmed]
      rfl
    rw [trimmed] at shape
    rw [evaluated]
    cases read : readTerm (c :: core) with
    | error fault => exact .inr (.inr ⟨fault, readTerm_error read, rfl⟩)
    | ok found =>
      obtain ⟨x, behind⟩ := found
      obtain ⟨l, wellformed, first, _, rfl⟩ := readTerm_eq_ok_iff.1 read
      -- The links are read as far as they go; how they end decides which case it is.
      obtain ⟨links, rest, linked, further, ends⟩ := ends_evaluateRest l.value behind
      have whole : cs = lead ++ (l.chars ++ links.flatMap (Link.text Literal.chars) ++
          (rest ++ trail)) := by
        rw [shape, first, further]
        simp
      simp only [Except.bind]
      generalize evaluateRest l.value behind = r at ends
      cases ends with
      | whole blank =>
        have ending : Blank (rest ++ trail) := by
          intro d mem
          exact (List.mem_append.1 mem).elim (blank d) (after d)
        exact .inl ⟨_, linked.grammatical wellformed before ending, whole.symm, _, rfl⟩
      | divided stops last divides =>
        have stops : Stops (rest ++ trail) := by
          cases rest with
          | nil =>
            intro d mem
            rw [endsTerm, after d (List.mem_of_mem_head? mem)]
            rfl
          | cons d rest => exact .cons (stops d rfl) _
        have blank : Blank ([] : List Char) := by rintro d ⟨⟩
        have grammatical := linked.grammatical wellformed before blank
        exact .inr (.inl ⟨⟨_, _, rest ++ trail, grammatical, whole, stops, last, divides⟩, rfl⟩)
      | broken other => exact .inr (.inr ⟨_, other, rfl⟩)

/-- **A text has a value if it is a chain without a division by zero**, and only then. -/
theorem evaluateChars_eq_ok_iff {cs : List Char} {v : Float} :
    evaluateChars cs = .ok v ↔ ∃ e : Chain Literal, e.Grammatical ∧ e.text Literal.chars = cs ∧
      (∀ k ∈ e.links, ¬k.DividesByZero) ∧ e.result = v := by
  have folded {e : Chain Literal} (grammatical : e.Grammatical) :
      evaluateChars (e.text Literal.chars) = e.fold Literal.value :=
    evaluateChars_text grammatical.spaced fun t mem => (grammatical.wellformed t mem).numeral
  constructor
  · intro found
    rcases evaluateChars_cases cs with ⟨e, grammatical, rfl, _⟩ | ⟨_, failed⟩ | ⟨_, _, failed⟩
    · rw [folded grammatical] at found
      have safe : ∀ k ∈ e.links, ¬k.DividesByZero := by
        intro k mem divides
        rw [Chain.fold, foldLinks_of_divides mem divides] at found
        cases found
      rw [Chain.fold, foldLinks_of_safe safe] at found
      cases found
      exact ⟨e, grammatical, rfl, safe, rfl⟩
    · rw [found] at failed
      cases failed
    · rw [found] at failed
      cases failed
  · rintro ⟨e, grammatical, rfl, safe, rfl⟩
    rw [folded grammatical, Chain.fold, foldLinks_of_safe safe]
    rfl

/-- **A division by zero is found if a text reaches one**, and only then. -/
theorem evaluateChars_eq_divisionByZero_iff {cs : List Char} :
    evaluateChars cs = .error .divisionByZero ↔ ReachesZero cs := by
  constructor
  · intro failed
    rcases evaluateChars_cases cs with ⟨_, _, _, v, found⟩ | ⟨reaches, _⟩ | ⟨_, other, failed'⟩
    · rw [found] at failed
      cases failed
    · exact reaches
    · rw [failed'] at failed
      cases failed
      exact absurd rfl other
  · rintro ⟨e, k, rest, grammatical, rfl, stops, last, divides⟩
    obtain ⟨kept, trail, _, _, evaluated⟩ := evaluateChars_append grammatical.spaced
      (fun t mem => (grammatical.wellformed t mem).numeral) stops
    have fails : e.fold Literal.value = .error .divisionByZero :=
      foldLinks_of_divides (List.mem_of_mem_getLast? last) divides e.first.value
    rw [evaluated, fails]
    rfl

/-! ## Errors -/

/-- The class of a fault. -/
theorem ArithmeticFault.kind_toError (fault : ArithmeticFault) :
    fault.toError.kind = if fault = .divisionByZero then .illegalState else .syntaxFault := by
  cases fault <;> rfl

theorem evaluate_eq_ok_iff {text : String} {v : Float} :
    evaluate text = .ok v ↔ evaluateChars text.toList = .ok v := by
  unfold evaluate
  cases evaluateChars text.toList <;> simp [Except.mapError]

theorem evaluate_eq_error_iff {text : String} {e : Error} :
    evaluate text = .error e ↔
      ∃ fault, evaluateChars text.toList = .error fault ∧ fault.toError = e := by
  unfold evaluate
  cases evaluateChars text.toList <;> simp [Except.mapError]

/-- **Exactly the texts of the grammar have a value, and faults come in the order of reading.**
A text has a value if and only if it is a chain of well-formed literals in which no zero stands
behind `/`, and the value is that of the operations applied from left to right.  The state is illegal
if and only if the text begins with such a chain that ends with a zero behind `/`; any other
failure is one of the text.  A term is cut off between characters. -/
theorem evaluate_exact (text : String) :
    (∀ v, evaluate text = .ok v ↔
      ∃ e : Chain Literal, e.Grammatical ∧ e.text Literal.chars = text.toList ∧
        (∀ k ∈ e.links, ¬k.DividesByZero) ∧ e.result = v) ∧
    ((∃ e, evaluate text = .error e ∧ e.kind = .illegalState) ↔ ReachesZero text.toList) ∧
    (∀ e, evaluate text = .error e → ¬ReachesZero text.toList → e.kind = .syntaxFault) ∧
    ∀ cs v rest, readTerm cs = .ok (v, rest) → ∃ l : Literal,
      between? cs 0 (byteSize l.chars) = some l.chars ∧
        dropBytes? (byteSize l.chars) cs = some rest := by
  refine ⟨fun v => evaluate_eq_ok_iff.trans evaluateChars_eq_ok_iff, ?_,
    fun e failed unreached => ?_, fun cs v rest read => ?_⟩
  · rw [← evaluateChars_eq_divisionByZero_iff]
    constructor
    · rintro ⟨e, failed, illegal⟩
      obtain ⟨fault, found, rfl⟩ := evaluate_eq_error_iff.1 failed
      rw [fault.kind_toError] at illegal
      split at illegal
      · next zero => rw [found, zero]
      · cases illegal
    · intro found
      exact ⟨_, evaluate_eq_error_iff.2 ⟨_, found, rfl⟩, rfl⟩
  · obtain ⟨fault, found, rfl⟩ := evaluate_eq_error_iff.1 failed
    rw [← evaluateChars_eq_divisionByZero_iff, found] at unreached
    rw [fault.kind_toError, if_neg fun zero => unreached (congrArg Except.error zero)]
  · obtain ⟨l, _, rfl, _⟩ := readTerm_eq_ok_iff.1 read
    have front := Text.between?_append [] l.chars rest
    exact ⟨l, by simpa [byteSize] using front, Text.dropBytes?_append _ _⟩

/-- A quotient by zero with something behind it that is in no expression. -/
def undone : Chain Literal :=
  ⟨[], ⟨false, ['1'], none⟩, [⟨[' '], .over, [' '], ⟨true, ['0'], some []⟩⟩], []⟩

/-- The zero is reached before the fault of the text. -/
theorem evaluate_exact_undone :
    ReachesZero "1 / -0. q".toList ∧
      ∃ e, evaluate "1 / -0. q" = .error e ∧ e.kind = .illegalState := by
  have one : (⟨false, ['1'], none⟩ : Literal).Wellformed :=
    ⟨.inr ⟨by simp, by simp⟩, by rintro c ⟨⟩, by simp⟩
  have zero : (⟨true, ['0'], some []⟩ : Literal).Wellformed :=
    ⟨.inl (by simp), by rintro c ⟨⟩, by simp⟩
  have space : Blank [' '] := by simp [Blank, isAsciiBlank]
  have grammatical : undone.Grammatical :=
    (Linked.nil.cons (k := ⟨[' '], .over, [' '], ⟨true, ['0'], some []⟩⟩) space space
      zero).grammatical one (by rintro c ⟨⟩) (by rintro c ⟨⟩)
  have reaches : ReachesZero "1 / -0. q".toList :=
    ⟨undone, _, [' ', 'q'], grammatical, by decide, .cons (by decide) _, rfl, rfl, by decide +kernel⟩
  exact ⟨reaches, (evaluate_exact "1 / -0. q").2.1.2 reaches⟩

end Wiring.Expression
