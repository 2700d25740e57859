/-
# Wiring.Toml.Scalar -- values, and the numbers, flags, dates and times among them

A document is a tree of tables, arrays and scalars.  Dates and times are kept as their
normal text; table keys are in order and occur once.

A scalar that is not quoted is a run of letters, digits and `+ - . _ :`.  Its form
decides what it is: dates and times come first, then floats, then integers.
-/
import Wiring.Decimal.Binary64
import Wiring.Text.Blank
import Wiring.Text.Numerals

namespace Wiring.Toml

set_option autoImplicit false

/-! ## Values -/

inductive Value where
  | text (s : String)
  | int (n : Int)
  | float (x : Float)
  | flag (b : Bool)
  | moment (s : String)
  | array (items : List Value)
  | table (fields : List (String × Value))
  deriving Inhabited

abbrev Table := List (String × Value)

/-! ## Numbers -/

/-- Digits of class `p` in groups joined by single underscores. -/
def isGrouped (p : Char → Bool) (cs : List Char) : Bool :=
  (Text.splitOn (· == '_') cs).all fun g => !g.isEmpty && g.all p

def ungroup (cs : List Char) : List Char := cs.filter (· != '_')

/-- The sign in front of a number, and the rest. -/
def signOf : List Char → Bool × List Char
  | '-' :: rest => (true, rest)
  | '+' :: rest => (false, rest)
  | cs => (false, cs)

/-- Grouped decimal digits without a leading zero, zero apart. -/
def isWhole (cs : List Char) : Bool :=
  isGrouped Char.isDigit cs && (cs == ['0'] || cs.head? != some '0')

/-- Whether a character is a digit of a base of at most sixteen. -/
def isDigitOf (base : Nat) (c : Char) : Bool :=
  if c.isDigit then c.toNat - 48 < base
  else base == 16 && (('a' ≤ c && c ≤ 'f') || ('A' ≤ c && c ≤ 'F'))

def hexValue (c : Char) : Nat :=
  if c.isDigit then c.toNat - 48 else if 'a' ≤ c then c.toNat - 87 else c.toNat - 55

/-- Reads grouped digits of a base. -/
def basedInteger? (base : Nat) (cs : List Char) : Option Int :=
  if isGrouped (isDigitOf base) cs then
    let n := (ungroup cs).foldl (fun n c => base * n + hexValue c) 0
    if Text.fitsInteger n then some n else none
  else none

def integer? : List Char → Option Int
  | '0' :: 'x' :: rest => basedInteger? 16 rest
  | '0' :: 'o' :: rest => basedInteger? 8 rest
  | '0' :: 'b' :: rest => basedInteger? 2 rest
  | cs =>
    let (negative, digits) := signOf cs
    if isWhole digits then
      let n : Int := Text.digitsValue (ungroup digits)
      let n := if negative then -n else n
      if Text.fitsInteger n then some n else none
    else none

/-- Cuts a text at its first `e` or `E`. -/
def cutExponent (cs : List Char) : List Char × Option (List Char) :=
  let isMark := fun (c : Char) => c == 'e' || c == 'E'
  match cs.dropWhile (!isMark ·) with
  | [] => (cs, none)
  | _ :: rest => (cs.takeWhile (!isMark ·), some rest)

/-- Reads the digits behind the exponent mark. -/
def exponent? (cs : List Char) : Option Int :=
  let (negative, digits) := signOf cs
  if isGrouped Char.isDigit digits then
    let n : Int := Text.digitsValue (ungroup digits)
    some (if negative then -n else n)
  else none

/-- Reads a decimal with a fraction, an exponent or both.  A positive one beyond all floats is
refused. -/
def decimal? (cs : List Char) : Option Float := do
  let (negative, body) := signOf cs
  let (mantissa, mark) := cutExponent body
  let (whole, places) := match Text.cutAt '.' mantissa with
    | some (a, b) => (a, some b)
    | none => (mantissa, none)
  if !isWhole whole || (mark.isNone && places.isNone) then failure
  if places.any fun ds => !isGrouped Char.isDigit ds then failure
  let e ← match mark with
    | some m => exponent? m
    | none => some 0
  let behind := ungroup (places.getD [])
  let digits := ungroup whole ++ behind
  let x := Decimal.readDecimal negative (Text.digitsValue digits) digits.length
    (e - behind.length)
  if Decimal.Number.ofFloat x == .infinite false then none else some x

/-- Reads infinity or a value that is no number. -/
def special? (cs : List Char) : Option Float :=
  let (negative, body) := signOf cs
  if body == "inf".toList then some (Decimal.ofBits negative Decimal.infinityBits)
  else if body == "nan".toList then some (Decimal.ofBits negative Decimal.nanBits)
  else none

/-! ## Dates and times -/

/-- Reads a number of exactly `width` digits within bounds. -/
def field? (width low high : Nat) (cs : List Char) : Option (Nat × List Char) :=
  let ds := cs.take width
  if ds.length == width && ds.all Char.isDigit then
    let n := Text.digitsValue ds
    if low ≤ n && n ≤ high then some (n, cs.drop width) else none
  else none

/-- Drops one given character. -/
def mark? (c : Char) : List Char → Option (List Char)
  | d :: rest => if d == c then some rest else none
  | [] => none

def daysIn (year month : Nat) : Nat :=
  if month == 2 then
    if year % 4 == 0 && (year % 100 != 0 || year % 400 == 0) then 29 else 28
  else if month == 4 || month == 6 || month == 9 || month == 11 then 30
  else 31

/-- Writes a number with leading zeros. -/
def padded (width n : Nat) : List Char :=
  let ds := Nat.toDigits 10 n
  List.replicate (width - ds.length) '0' ++ ds

/-- Reads a date and gives its text. -/
def date? (cs : List Char) : Option (List Char × List Char) := do
  let (year, cs) ← field? 4 0 9999 cs
  let cs ← mark? '-' cs
  let (month, cs) ← field? 2 1 12 cs
  let cs ← mark? '-' cs
  let (day, cs) ← field? 2 1 (daysIn year month) cs
  return (padded 4 year ++ '-' :: padded 2 month ++ '-' :: padded 2 day, cs)

/-- The text of a fraction of a second: nine digits at most, without trailing zeros. -/
def fractionText (ds : List Char) : List Char :=
  match ((ds.take 9).reverse.dropWhile (· == '0')).reverse with
  | [] => []
  | kept => '.' :: kept

/-- Reads a time of day and gives its text. -/
def time? (cs : List Char) : Option (List Char × List Char) := do
  let (hour, cs) ← field? 2 0 23 cs
  let cs ← mark? ':' cs
  let (minute, cs) ← field? 2 0 59 cs
  let cs ← mark? ':' cs
  let (second, cs) ← field? 2 0 60 cs
  let text := padded 2 hour ++ ':' :: padded 2 minute ++ ':' :: padded 2 second
  match cs with
  | '.' :: rest =>
    let ds := rest.takeWhile Char.isDigit
    if ds.isEmpty then none else some (text ++ fractionText ds, rest.dropWhile Char.isDigit)
  | _ => return (text, cs)

/-- Reads the hours and minutes of an offset; an offset of nothing has no sign. -/
def signedOffset? (negative : Bool) (cs : List Char) : Option (List Char × List Char) := do
  let (hours, cs) ← field? 2 0 23 cs
  let cs ← mark? ':' cs
  let (minutes, cs) ← field? 2 0 59 cs
  let sign := if negative && hours + minutes != 0 then '-' else '+'
  return (sign :: padded 2 hours ++ ':' :: padded 2 minutes, cs)

/-- Reads the offset behind a time, if there is one, and gives its text. -/
def offset? (cs : List Char) : Option (List Char × List Char) :=
  match cs with
  | 'Z' :: rest | 'z' :: rest => some (['Z'], rest)
  | '+' :: rest => signedOffset? false rest
  | '-' :: rest => signedOffset? true rest
  | cs => some ([], cs)

/-- Reads a time of day with an optional offset. -/
def timeOffset? (cs : List Char) : Option (List Char × List Char) := do
  let (time, cs) ← time? cs
  let (offset, cs) ← offset? cs
  return (time ++ offset, cs)

/-- Reads a whole text as a time of day or as a date, alone or with a time, and gives its normal
text. -/
def moment? (cs : List Char) : Option String :=
  match date? cs with
  | some (date, []) => some (String.ofList date)
  | some (date, c :: rest) =>
    if c == 'T' || c == 't' || c == ' ' then
      match timeOffset? rest with
      | some (time, []) => some (String.ofList (date ++ 'T' :: time))
      | _ => none
    else none
  | none =>
    match time? cs with
    | some (time, []) => some (String.ofList time)
    | _ => none

/-! ## Scalars -/

def isScalarChar (c : Char) : Bool :=
  c.isAlphanum || c == '+' || c == '-' || c == '.' || c == '_' || c == ':'

/-- What a run of scalar characters denotes. -/
def scalarOf? (cs : List Char) : Option Value :=
  if cs == "true".toList then some (.flag true)
  else if cs == "false".toList then some (.flag false)
  else
    match moment? cs with
    | some s => some (.moment s)
    | none =>
      match decimal? cs with
      | some x => some (.float x)
      | none =>
        match special? cs with
        | some x => some (.float x)
        | none => (integer? cs).map .int

/-- Reads a scalar.  A date may be followed by one space and a time. -/
def scalar (cs : List Char) : Option (Value × List Char) :=
  let run := cs.takeWhile isScalarChar
  let rest := cs.dropWhile isScalarChar
  match date? run, rest with
  | some (_, []), ' ' :: more =>
    let time := more.takeWhile isScalarChar
    if time.isEmpty then (scalarOf? run).map fun v => (v, rest)
    else (scalarOf? (run ++ ' ' :: time)).map fun v => (v, more.dropWhile isScalarChar)
  | _, _ => (scalarOf? run).map fun v => (v, rest)

end Wiring.Toml
