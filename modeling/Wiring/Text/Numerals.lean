/-
# Wiring.Text.Numerals -- integers and durations in decimal

`readInteger` reads a signed integer of 64 bits: it accepts one optional sign and at least
one ASCII digit, and refuses what lies outside `[-2^63, 2^63)`.

A duration is written in the largest unit of which there is at least one, with as
many decimals as are needed and no zeros behind them: `1.5ms`, `86400s`.
-/
namespace Wiring.Text

set_option autoImplicit false

/-! ## Integers -/

def minInteger : Int := -(Nat.pow 2 63 : Int)

/-- One above the greatest signed 64-bit integer. -/
def integerLimit : Int := Nat.pow 2 63

def fitsInteger (n : Int) : Bool := minInteger ≤ n && n < integerLimit

def digitValue (c : Char) : Nat := c.toNat - '0'.toNat

def digitsValue (cs : List Char) : Nat :=
  cs.foldl (fun n c => 10 * n + digitValue c) 0

/-- The value of at least one decimal digit and nothing else. -/
def readDigits (cs : List Char) : Option Nat :=
  if cs.isEmpty || !cs.all Char.isDigit then none else some (digitsValue cs)

/-- An optional sign and digits that denote a signed 64-bit integer. -/
def readInteger (cs : List Char) : Option Int := do
  let n ← match cs with
    | '-' :: ds => (readDigits ds).map fun n => -(n : Int)
    | '+' :: ds => (readDigits ds).map fun n => (n : Int)
    | ds => (readDigits ds).map fun n => (n : Int)
  if fitsInteger n then some n else none

/-! ## Durations -/

/-- The decimals of `part / 10 ^ places`, with the point, without zeros at the end. -/
def decimals (part places : Nat) : List Char :=
  let digits := Nat.toDigits 10 part
  let padded := List.replicate (places - digits.length) '0' ++ digits
  match (padded.reverse.dropWhile (· == '0')).reverse with
  | [] => []
  | ds => '.' :: ds

/-- A duration of whole microseconds. -/
def duration (micros : Nat) : String :=
  if 1000000 ≤ micros then
    toString (micros / 1000000) ++ String.ofList (decimals (micros % 1000000) 6) ++ "s"
  else if 1000 ≤ micros then
    toString (micros / 1000) ++ String.ofList (decimals (micros % 1000) 3) ++ "ms"
  else if 0 < micros then toString micros ++ "µs"
  else "0ns"

end Wiring.Text
