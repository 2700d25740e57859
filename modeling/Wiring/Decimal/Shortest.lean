/-
# Wiring.Decimal.Shortest -- a number as text, with the fewest digits that read back

The reals that round to `m * 2^q` form an interval, ends included exactly when `m`
is even.  For one digit, two, and so on, the value's two neighbours on that
decimal grid are tried: the first grid with a hit wins, of two hits the nearer, and
of two equally near the greater.

The digits are written in positional notation, without a point when the number is
integral.  The sign of zero is kept.
-/
import Wiring.Decimal.Binary64

namespace Wiring.Decimal

set_option autoImplicit false

/-- A decimal `digits * 10^scale`. -/
structure Digits where
  digits : Nat
  scale : Int
  deriving DecidableEq, Repr

/-- Compares `a * 10^i` with `n * 2^j` by cross-multiplying. -/
def compareScaled (a : Nat) (i : Int) (n : Nat) (j : Int) : Ordering :=
  compare (a * Nat.pow 10 i.toNat * Nat.pow 2 (-j).toNat)
    (n * Nat.pow 2 j.toNat * Nat.pow 10 (-i).toNat)

/-- Whether the word below `m * 2^q` is half as far away as the word above. -/
def narrowBelow (m : Nat) (q : Int) : Bool :=
  m == Nat.pow 2 fractionBits && leastExponent < q

/-- Whether the decimal lies among the reals that round to `m * 2^q`. -/
def readsBack (m : Nat) (q : Int) (d : Digits) : Bool :=
  let low := if narrowBelow m q then 4 * m - 1 else 4 * m - 2
  let closed := m % 2 == 0
  let atLow := compareScaled d.digits d.scale low (q - 2)
  let atHigh := compareScaled d.digits d.scale (4 * m + 2) (q - 2)
  (atLow == .gt || (closed && atLow == .eq)) && (atHigh == .lt || (closed && atHigh == .eq))

/-- `⌊m * 2^q / 10^scale⌋`. -/
def gridFloor (m : Nat) (q scale : Int) : Nat :=
  (m * Nat.pow 2 q.toNat * Nat.pow 10 (-scale).toNat) /
    (Nat.pow 2 (-q).toNat * Nat.pow 10 scale.toNat)

/-- The better of the two neighbours of `m * 2^q` on the grid of step `10^scale`, if one of them
reads back. -/
def onGrid? (m : Nat) (q scale : Int) : Option Digits :=
  let low : Digits := ⟨gridFloor m q scale, scale⟩
  let high : Digits := ⟨gridFloor m q scale + 1, scale⟩
  match readsBack m q low, readsBack m q high with
  | true, true =>
    -- the midpoint of the two is `(2 * low + 1) * 10^scale / 2`
    match compareScaled (2 * low.digits + 1) scale m (q + 1) with
    | .gt => some low
    | _ => some high
  | true, false => some low
  | false, true => some high
  | false, false => none

/-- The least `k` with `m * 2^q < 10^k`, for positive `m`. -/
def decimalExponent (m : Nat) (q : Int) : Int :=
  -- 1233 / 4096 is a little above the decimal logarithm of 2
  let estimate : Int := ((m.log2 + q) * 1233).fdiv 4096 - 1
  ((List.range 5).map fun (i : Nat) => estimate + i).find? (fun k =>
      compareScaled 1 k m q == .gt) |>.getD (estimate + 5)

/-- Moves trailing zeros of the digits into the scale; `fuel` bounds their number. -/
def stripZeros : Nat → Digits → Digits
  | 0, d => d
  | n + 1, d =>
    if d.digits != 0 && d.digits % 10 == 0 then stripZeros n ⟨d.digits / 10, d.scale + 1⟩ else d

def exactDigits (m : Nat) (q : Int) : Digits :=
  if 0 ≤ q then ⟨m * Nat.pow 2 q.toNat, 0⟩ else ⟨m * Nat.pow 5 (-q).toNat, q⟩

/-- The fewest digits that read back to `m * 2^q`, for positive `m`. -/
def shortest (m : Nat) (q : Int) : Digits :=
  let k := decimalExponent m q
  match (List.range 17).findSome? fun (n : Nat) => onGrid? m q (k - 1 - (n : Int)) with
  | some d => stripZeros 20 d
  | none => exactDigits m q

/-! ## The text of a number -/

structure SpecialNames where
  nan : String
  infinity : String

/-- A number without a value is `NaN`, one beyond all others `inf`. -/
def specialNames : SpecialNames := ⟨"NaN", "inf"⟩

/-- Writes `digits * 10^scale` without an exponent. -/
def positional (d : Digits) : List Char :=
  let ds := (Nat.toDigits 10 d.digits)
  if 0 ≤ d.scale then
    if d.digits == 0 then ['0'] else ds ++ List.replicate d.scale.toNat '0'
  else
    let places := (-d.scale).toNat
    let padded := List.replicate (places + 1 - ds.length) '0' ++ ds
    padded.take (padded.length - places) ++ '.' :: padded.drop (padded.length - places)

def Number.render : Number → String
  | .nan => specialNames.nan
  | .infinite s => (if s then "-" else "") ++ specialNames.infinity
  | .finite s m q =>
    let body := if m = 0 then ['0'] else positional (shortest m q)
    String.ofList (if s then '-' :: body else body)

def floatText (x : Float) : String := (Number.ofFloat x).render

end Wiring.Decimal
