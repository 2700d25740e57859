/-
# Wiring.Decimal.Binary64 -- what a binary64 word denotes, and the word nearest to a quotient

`Number.ofFloat` decodes a word into sign, mantissa and exponent, so that ranges,
fractions and digits are decided in exact integer arithmetic.  `nearestBits`
rounds a quotient of naturals to the nearest word, a half going to the even one;
`readDecimal` reads a decimal through it.
-/
namespace Wiring.Decimal

set_option autoImplicit false

/-- What a binary64 word denotes; `finite s m q` is `m * 2^q`, negated if `s`. -/
inductive Number where
  | nan
  | infinite (negative : Bool)
  | finite (negative : Bool) (mantissa : Nat) (exponent : Int)
  deriving DecidableEq, Repr

def fractionBits : Nat := 52

/-- The exponent of the last place of a subnormal word. -/
def leastExponent : Int := -1074

def infinityBits : Nat := 2047 * Nat.pow 2 fractionBits

/-- The magnitude bits of the quiet NaN without payload. -/
def nanBits : Nat := infinityBits + Nat.pow 2 (fractionBits - 1)

def signBit : Nat := Nat.pow 2 63

/-- Decodes the magnitude bits of a finite word. -/
def decodeMagnitude (bits : Nat) : Nat × Int :=
  let e := bits / Nat.pow 2 fractionBits
  let f := bits % Nat.pow 2 fractionBits
  if e = 0 then (f, leastExponent) else (Nat.pow 2 fractionBits + f, leastExponent + e - 1)

namespace Number

def ofWord (word : Nat) : Number :=
  let negative := signBit ≤ word % Nat.pow 2 64
  let bits := word % signBit
  if bits < infinityBits then
    let (m, q) := decodeMagnitude bits
    .finite negative m q
  else if bits = infinityBits then .infinite negative
  else .nan

def ofFloat (x : Float) : Number := ofWord x.toBits.toNat

def isZero : Number → Bool
  | .finite _ m _ => m == 0
  | _ => false

/-- The greatest integer that is not above a finite number. -/
def floor? : Number → Option Int
  | .finite s m q =>
    let n : Int := if s then -(m : Int) else m
    some (if 0 ≤ q then n * (Nat.pow 2 q.toNat : Int) else n.fdiv (Nat.pow 2 (-q).toNat : Int))
  | _ => none

def isIntegral : Number → Bool
  | .finite _ m q => if 0 ≤ q then true else m % Nat.pow 2 (-q).toNat == 0
  | _ => false

end Number

/-! ## Rounding -/

/-- The floor of the binary logarithm of `num / den`, for positive arguments. -/
def log2Quotient (num den : Nat) : Int :=
  let e : Int := (num.log2 : Int) - den.log2
  if den * Nat.pow 2 e.toNat ≤ num * Nat.pow 2 (-e).toNat then e else e - 1

/-- `num / den` to the nearest natural, a half to the even one. -/
def roundQuotient (num den : Nat) : Nat :=
  let m := num / den
  let r := num % den
  if 2 * r > den || (2 * r == den && m % 2 == 1) then m + 1 else m

/-- The magnitude bits of the word nearest to `num / den`, a half to the even one; a quotient
above the finite words gives infinity. -/
def nearestBits (num den : Nat) : Nat :=
  if num = 0 then 0
  else
    let q := max (log2Quotient num den - fractionBits) leastExponent
    let m := roundQuotient (num * Nat.pow 2 (-q).toNat) (den * Nat.pow 2 q.toNat)
    min ((q - leastExponent).toNat * Nat.pow 2 fractionBits + m) infinityBits

/-- The float with these magnitude bits and this sign. -/
def ofBits (negative : Bool) (bits : Nat) : Float :=
  Float.ofBits (UInt64.ofNat (if negative then signBit + bits else bits))

/-- Scales beyond which every decimal of moderate length is zero or infinite. -/
def scaleLimit : Int := 400

/-- The float nearest to `digits * 10^scale`, where `digits` has `count` decimal places. -/
def readDecimal (negative : Bool) (digits count : Nat) (scale : Int) : Float :=
  if digits = 0 then ofBits negative 0
  else if scaleLimit < scale then ofBits negative infinityBits
  else if scale + count < -scaleLimit then ofBits negative 0
  else ofBits negative (nearestBits (digits * Nat.pow 10 scale.toNat) (Nat.pow 10 (-scale).toNat))

end Wiring.Decimal
