/-
# Wiring.Component.Integer -- numbers as values of integer properties

Configuration knows only binary64 numbers.  `IntegerType.coerce` accepts a number
for an integer property exactly when it is integral, within 64 signed bits and
within the property's own range, and then keeps its value.  The bounds of 64 bits are
compared as numbers, the bounds of the property as integers.
-/
import Wiring.Decimal.Integral
import Wiring.Decimal.Shortest
import Wiring.Error

namespace Wiring.Component

set_option autoImplicit false

open Wiring.Decimal

/-- The type of an integer property: its name and its range, ends included. -/
structure IntegerType where
  name : String
  low : Int
  high : Int
  deriving DecidableEq, Repr

namespace IntegerType

/-- The signed integers of `bits` bits. -/
def signed (bits : Nat) : IntegerType :=
  let half : Int := Nat.pow 2 (bits - 1)
  ⟨s!"i{bits}", -half, half - 1⟩

/-- The naturals of `bits` bits. -/
def unsigned (bits : Nat) : IntegerType := ⟨s!"u{bits}", 0, (Nat.pow 2 bits : Int) - 1⟩

def holds (t : IntegerType) (n : Int) : Bool := t.low ≤ n && n ≤ t.high

def widths : List Nat := [8, 16, 32, 64, 128]

def ofName? (name : String) : Option IntegerType :=
  (widths.map signed ++ widths.map unsigned).find? (·.name == name)

/-- The integer a number stands for. -/
def coerce (t : IntegerType) (x : Float) : Except Error Int :=
  let v := Number.ofFloat x
  if !v.isFinite || v.below Number.leastInteger || v.atLeast Number.greatestInteger then
    .error (.wrongInput s!"number {v.render} is out of range")
  else if !v.isIntegral then
    .error (.wrongInput s!"given number is not an integer: {v.render}")
  else if !t.holds v.toInteger then
    .error (.wrongInput s!"number {v.render} is out of range for {t.name}")
  else .ok v.toInteger

end IntegerType

end Wiring.Component
