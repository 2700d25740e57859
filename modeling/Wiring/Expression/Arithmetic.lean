/-
# Wiring.Expression.Arithmetic -- decimal literals under four operators, from left to right

An expression is `term (op term)*` with ASCII blanks between the parts.  Operators
have no precedence: `2 + 5 * 1 - 3 / 2 * 5` is 10.  A term is a decimal literal
with at most one minus directly before it; a literal that starts with a zero holds
zeros only before its point.
-/
import Wiring.Decimal.Shortest
import Wiring.Text.Blank
import Wiring.Text.Numerals
import Wiring.Error

namespace Wiring.Expression

set_option autoImplicit false

open Wiring.Text (isAsciiBlank)

/-! ## Literals and operators -/

inductive Operator where
  | plus
  | minus
  | times
  | over
  deriving DecidableEq, Repr

/-- The operator a character stands for. -/
def Operator.ofChar? : Char → Option Operator
  | '+' => some .plus
  | '-' => some .minus
  | '*' => some .times
  | '/' => some .over
  | _ => none

/-- A decimal literal: sign, digits before the point and, after a point, digits behind it. -/
structure Literal where
  negative : Bool
  whole : List Char
  fraction : Option (List Char)
  deriving DecidableEq, Repr

def Literal.chars (l : Literal) : List Char :=
  (if l.negative then ['-'] else []) ++ l.whole ++
    match l.fraction with
    | some ds => '.' :: ds
    | none => []

/-- The digits behind the point, none without one. -/
def Literal.places (l : Literal) : List Char := l.fraction.getD []

/-- The float nearest to a literal; a point alone has no value. -/
def Literal.value? (l : Literal) : Option Float :=
  let ds := l.whole ++ l.places
  let scale : Int := -(l.places.length : Int)
  if ds.isEmpty then none
  else some (Decimal.readDecimal l.negative (Text.digitsValue ds) ds.length scale)

/-! ## Faults -/

/-- Why a text is no expression, or has no value. -/
inductive ArithmeticFault where
  | empty
  | unexpected (found : Char)
  | trailing (found : Char)
  | nothing
  | malformed (literal : String)
  | notOperator (found : Char)
  | missingTerm (operator : Char)
  | divisionByZero
  deriving DecidableEq, Repr

def ArithmeticFault.toError : ArithmeticFault → Error
  | empty => .syntaxFault "expected <term> but got nothing"
  | unexpected c => .syntaxFault s!"unexpected character {c} for <term>"
  | trailing c => .syntaxFault s!"unexpected content after <term>: {c}"
  | nothing => .syntaxFault "expected <term> but found nothing"
  | malformed l => .syntaxFault s!"malformed <term>: '{l}'"
  | notOperator c => .syntaxFault s!"unexpected character: {c} for <op>"
  | missingTerm op => .syntaxFault s!"missing <term> after <op>: {op}"
  | divisionByZero => .illegalState "division by zero detected"

/-! ## Reading -/

/-- A term ends at the end of the text, a blank or an operator. -/
def endsTerm (c : Char) : Bool := isAsciiBlank c || (Operator.ofChar? c).isSome

/-- The rest behind a term, unless something else sticks to it. -/
def afterTerm (rest : List Char) : Except ArithmeticFault (List Char) :=
  match rest with
  | [] => .ok []
  | c :: _ => if endsTerm c then .ok rest else .error (.trailing c)

/-- Reads the part of a literal behind its whole digits. -/
def readFraction (negative : Bool) (whole rest : List Char) :
    Except ArithmeticFault (Literal × List Char) :=
  match rest with
  | '.' :: more => do
    let rest ← afterTerm (more.dropWhile Char.isDigit)
    return (⟨negative, whole, some (more.takeWhile Char.isDigit)⟩, rest)
  | rest => do
    let rest ← afterTerm rest
    return (⟨negative, whole, none⟩, rest)

/-- Reads the digits of a literal: zeros only after a leading zero. -/
def readUnsigned (negative : Bool) (cs : List Char) :
    Except ArithmeticFault (Literal × List Char) :=
  match cs with
  | [] => .error .nothing
  | '.' :: _ => readFraction negative [] cs
  | '0' :: _ => readFraction negative (cs.takeWhile (· == '0')) (cs.dropWhile (· == '0'))
  | c :: _ =>
    if c.isDigit then readFraction negative (cs.takeWhile Char.isDigit) (cs.dropWhile Char.isDigit)
    else .error (.unexpected c)

/-- Reads one literal and what follows it. -/
def readLiteral (cs : List Char) : Except ArithmeticFault (Literal × List Char) :=
  match cs with
  | '-' :: rest => readUnsigned true rest
  | cs => readUnsigned false cs

/-- Reads one term: its value and what follows it. -/
def readTerm (cs : List Char) : Except ArithmeticFault (Float × List Char) := do
  let (l, rest) ← readLiteral cs
  match l.value? with
  | some v => return (v, rest)
  | none => throw (.malformed (String.ofList l.chars))

/-! ## Evaluating -/

/-- One operation; only division can fail. -/
def Operator.apply (op : Operator) (x y : Float) : Except ArithmeticFault Float :=
  match op with
  | .plus => .ok (x + y)
  | .minus => .ok (x - y)
  | .times => .ok (x * y)
  | .over => if (Decimal.Number.ofFloat y).isZero then .error .divisionByZero else .ok (x / y)

theorem afterTerm_eq_ok {cs rest : List Char} (h : afterTerm cs = .ok rest) : rest = cs := by
  unfold afterTerm at h
  split at h
  · simpa using h.symm
  · split at h
    · simpa using h.symm
    · simp at h

theorem length_dropWhile_le (p : Char → Bool) (cs : List Char) :
    (cs.dropWhile p).length ≤ cs.length :=
  (List.dropWhile_suffix p).sublist.length_le

theorem length_readFraction {negative : Bool} {whole cs rest : List Char} {l : Literal}
    (h : readFraction negative whole cs = .ok (l, rest)) : rest.length ≤ cs.length := by
  unfold readFraction at h
  split at h
  · next more =>
    cases ha : afterTerm (more.dropWhile Char.isDigit) with
    | error e => simp [ha, bind, Except.bind] at h
    | ok r =>
      have hr := afterTerm_eq_ok ha
      simp only [ha, bind, Except.bind, pure, Except.pure, Except.ok.injEq, Prod.mk.injEq] at h
      rw [← h.2, hr]
      exact Nat.le_succ_of_le (length_dropWhile_le _ _)
  · cases ha : afterTerm cs with
    | error e => simp [ha, bind, Except.bind] at h
    | ok r =>
      have hr := afterTerm_eq_ok ha
      simp only [ha, bind, Except.bind, pure, Except.pure, Except.ok.injEq, Prod.mk.injEq] at h
      exact Nat.le_of_eq (by rw [← h.2, hr])

theorem length_readUnsigned {negative : Bool} {cs rest : List Char} {l : Literal}
    (h : readUnsigned negative cs = .ok (l, rest)) : rest.length ≤ cs.length := by
  unfold readUnsigned at h
  split at h
  · simp at h
  · exact length_readFraction h
  · exact Nat.le_trans (length_readFraction h) (length_dropWhile_le _ _)
  · split at h
    · exact Nat.le_trans (length_readFraction h) (length_dropWhile_le _ _)
    · simp at h

theorem length_readLiteral {cs rest : List Char} {l : Literal}
    (h : readLiteral cs = .ok (l, rest)) : rest.length ≤ cs.length := by
  unfold readLiteral at h
  split at h
  · exact Nat.le_succ_of_le (length_readUnsigned h)
  · exact length_readUnsigned h

theorem length_readTerm {cs rest : List Char} {v : Float}
    (h : readTerm cs = .ok (v, rest)) : rest.length ≤ cs.length := by
  unfold readTerm at h
  cases hl : readLiteral cs with
  | error e => simp [hl, bind, Except.bind] at h
  | ok r =>
    obtain ⟨l, r⟩ := r
    simp only [hl, bind, Except.bind] at h
    split at h
    · simp only [pure, Except.pure, Except.ok.injEq, Prod.mk.injEq] at h
      rw [← h.2]
      exact length_readLiteral hl
    · simp [throw, throwThe, MonadExceptOf.throw] at h

/-- Folds the operations that follow a first value; each takes up at least its operator. -/
def evaluateRest (x : Float) (cs : List Char) : Except ArithmeticFault Float :=
  match _hc : cs.dropWhile isAsciiBlank with
  | [] => .ok x
  | c :: rest =>
    match Operator.ofChar? c with
    | none => .error (.notOperator c)
    | some op =>
      match _ho : rest.dropWhile isAsciiBlank with
      | [] => .error (.missingTerm c)
      | o :: operand =>
        match _ht : readTerm (o :: operand) with
        | .error e => .error e
        | .ok (y, after) =>
          match op.apply x y with
          | .error e => .error e
          | .ok z => evaluateRest z after
termination_by cs.length
decreasing_by
  have h₁ := length_readTerm _ht
  have h₂ := length_dropWhile_le isAsciiBlank rest
  have h₃ := length_dropWhile_le isAsciiBlank cs
  rw [_ho] at h₂
  rw [_hc] at h₃
  simp only [List.length_cons] at h₁ h₂ h₃
  omega

/-- The value of an expression over characters. -/
def evaluateChars (cs : List Char) : Except ArithmeticFault Float :=
  match Text.trimBy isAsciiBlank cs with
  | [] => .error .empty
  | trimmed => do
    let (x, rest) ← readTerm trimmed
    evaluateRest x rest

def evaluate (text : String) : Except Error Float :=
  (evaluateChars text.toList).mapError ArithmeticFault.toError

end Wiring.Expression
