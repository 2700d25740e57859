/-
# Wiring.Decimal.Integral -- numbers and signed integers of 64 bits

Numbers compare as what they denote; a NaN is neither below anything nor the same as
anything, nor at least anything.  An integer goes over to the number nearest to it, so
the greatest one of 64 bits becomes `2^63`.  A number goes over to the integer that is
left without its fraction, to the nearer end of the range if it lies outside, and a NaN
to zero.
-/
import Wiring.Decimal.Binary64
import Wiring.Text.Numerals

namespace Wiring.Decimal.Number

set_option autoImplicit false

open Wiring.Text (minInteger integerLimit)

/-- A mantissa with its sign. -/
def signed (negative : Bool) (m : Nat) : Int := if negative then -(m : Int) else m

def isFinite : Number → Bool
  | .finite .. => true
  | _ => false

/-! ## Comparisons -/

/-- Compares `a * 2^q` with `b * 2^r` by cross-multiplying. -/
def compareSigned (a q b r : Int) : Ordering :=
  compare (a * Nat.pow 2 q.toNat * Nat.pow 2 (-r).toNat)
    (b * Nat.pow 2 r.toNat * Nat.pow 2 (-q).toNat)

/-- How two numbers compare, if they do. -/
def compare? : Number → Number → Option Ordering
  | .nan, _ => none
  | _, .nan => none
  | .infinite s, .infinite t => some (compare t s)
  | .infinite s, .finite .. => some (if s then .lt else .gt)
  | .finite .., .infinite s => some (if s then .gt else .lt)
  | .finite s m q, .finite t n r => some (compareSigned (signed s m) q (signed t n) r)

def below (x y : Number) : Bool := x.compare? y == some .lt

/-- Whether `x` equals `y`; zeros do, whatever their signs. -/
def same (x y : Number) : Bool := x.compare? y == some .eq

def atLeast (x y : Number) : Bool := x.compare? y == some .gt || x.compare? y == some .eq

/-! ## Integers -/

/-- The number nearest to an integer, a half going to the even one. -/
def ofInteger (n : Int) : Number :=
  ofWord ((if n < 0 then signBit else 0) + nearestBits n.natAbs 1)

/-- What the least integer of 64 bits becomes. -/
def leastInteger : Number := ofInteger minInteger

/-- What the greatest integer of 64 bits becomes. -/
def greatestInteger : Number := ofInteger (integerLimit - 1)

/-- The greatest integral number that is not above a number. -/
def floor (x : Number) : Number :=
  match x.floor? with
  | some n => .finite (n < 0) n.natAbs 0
  | none => x

/-- The integer of 64 bits that a number becomes. -/
def toInteger : Number → Int
  | .nan => 0
  | .infinite s => if s then minInteger else integerLimit - 1
  | .finite s m q =>
    let n := signed s (if 0 ≤ q then m * Nat.pow 2 q.toNat else m / Nat.pow 2 (-q).toNat)
    max minInteger (min n (integerLimit - 1))

end Wiring.Decimal.Number
