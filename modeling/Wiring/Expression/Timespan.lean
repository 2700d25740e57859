/-
# Wiring.Expression.Timespan -- an integer and a unit of time

A timespan is an integer, alone or followed by one of `d h m s ms us`; alone it
counts microseconds.  Spans are exact or refused: nothing wraps at 64 bits.
-/
import Wiring.Text.Blank
import Wiring.Text.Numerals
import Wiring.Error

namespace Wiring.Expression

set_option autoImplicit false

/-- Why a text is no timespan. -/
inductive TimespanFault where
  | shape (input : String)
  | unit (shown : String)
  | value (number : String)
  | range (input : String)
  | negative (input : String)
  deriving DecidableEq, Repr

def TimespanFault.toError : TimespanFault → Error
  | shape input => .syntaxFault s!"unexpected timespan input: '{input}'"
  | unit shown => .syntaxFault s!"invalid timespan unit: {shown}"
  | value number => .syntaxFault s!"invalid timespan value: '{number}'"
  | range input => .syntaxFault s!"timespan out of range: '{input}'"
  | negative input => .syntaxFault s!"negative timespan: '{input}'"

def microsPerUnit? (unit : List Char) : Option Int :=
  match String.ofList unit with
  | "d" => some 86400000000
  | "h" => some 3600000000
  | "m" => some 60000000
  | "s" => some 1000000
  | "ms" => some 1000
  | "us" => some 1
  | _ => none

/-- How much of an unknown unit is shown. -/
def shownUnitLength : Nat := 5

/-- A number of units of `k` microseconds. -/
def scaledSpan (input : String) (number : List Char) (k : Int) : Except TimespanFault Int :=
  match Text.readInteger number with
  | none => .error (.value (String.ofList number))
  | some n => if Text.fitsInteger (n * k) then .ok (n * k) else .error (.range input)

/-- The signed microseconds of a timespan. -/
def microsOf (input : String) : Except TimespanFault Int :=
  match Text.words input.toList with
  | [number] => scaledSpan input number 1
  | [number, unit] =>
    match microsPerUnit? unit with
    | none => .error (.unit (String.ofList (unit.take shownUnitLength)))
    | some k => scaledSpan input number k
  | _ => .error (.shape input)

/-- The microseconds of a timespan that is not negative. -/
def durationOf (input : String) : Except TimespanFault Nat := do
  let n ← microsOf input
  if n < 0 then throw (.negative input) else return n.toNat

def parseMicros (input : String) : Except Error Int :=
  (microsOf input).mapError TimespanFault.toError

/-- Reads a timespan that is not negative. -/
def parseDuration (input : String) : Except Error Nat :=
  (durationOf input).mapError TimespanFault.toError

/-- Reads a timespan that is not negative, or nothing. -/
def parseDuration? (input : String) : Option Nat :=
  (durationOf input).toOption

end Wiring.Expression
