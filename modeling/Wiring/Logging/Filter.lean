/-
# Wiring.Logging.Filter -- which records pass

A filter is a list of directives, each a threshold for the records of one part of the
program, of all of it, or of what happens within a span.  Of the directives that
apply to a record the most specific one decides, the last of them if there are
several: one for a longer target before one for a shorter, and any of those before
one for the whole program.  A record that no directive applies to does not pass.

A directive is written `threshold`, `target`, `target=threshold` or
`target[span{field=value}]=threshold`; without a threshold everything passes.  A
value is a number or a pattern, and one that is neither makes the filter unreadable.
-/
import Wiring.Logging.Settings
import Wiring.Pattern.Parse
import Wiring.Text.Blank
import Wiring.Text.Bytes
import Wiring.Text.Numerals
import Wiring.Text.Classes

namespace Wiring.Logging

set_option autoImplicit false

/-! ## Thresholds -/

/-- The least severe level that passes, or nothing at all. -/
inductive Threshold where
  | off
  | atLeast (level : Level)
  deriving DecidableEq, Repr

namespace Threshold

/-- How much passes, from nothing to everything. -/
def all : List Threshold :=
  [off, atLeast .error, atLeast .warn, atLeast .info, atLeast .debug, atLeast .trace]

def word : Threshold → String
  | off => "off"
  | atLeast level => level.word

/-- How many levels pass. -/
def width : Threshold → Nat
  | off => 0
  | atLeast level => 5 - level.rank

/-- The one of two thresholds that lets more pass. -/
def wider (a b : Threshold) : Threshold := if a.width < b.width then b else a

def admits (t : Threshold) (level : Level) : Bool :=
  match t with
  | off => false
  | atLeast least => least.rank ≤ level.rank

/-- Reads a threshold: a word in any case, or how many levels pass. -/
def parse? (cs : List Char) : Option Threshold :=
  let digits := match cs with
    | '+' :: rest => rest
    | cs => cs
  match Text.readDigits digits with
  | some n => all[n]?
  | none => all.find? fun t => t.word.toList == cs.map Char.toLower

end Threshold

/-! ## Values of fields -/

def isDigits (cs : List Char) : Bool := cs.all Char.isDigit

def unsigned : List Char → List Char
  | '+' :: rest => rest
  | '-' :: rest => rest
  | cs => cs

/-- Whether a text is a decimal number: digits with or without a point, and with or without an
exponent. -/
def isDecimal (cs : List Char) : Bool :=
  let mantissa := cs.takeWhile fun c => c != 'e' && c != 'E'
  let (whole, places) := (Text.cutAt '.' mantissa).getD (mantissa, [])
  let isMantissa := isDigits whole && isDigits places && !(whole ++ places).isEmpty
  match cs.drop mantissa.length with
  | [] => isMantissa
  | _ :: exponent =>
    isMantissa && isDigits (unsigned exponent) && !(unsigned exponent).isEmpty

def numberWords : List String := ["inf", "infinity", "nan"]

def isNumeral (cs : List Char) : Bool :=
  isDecimal (unsigned cs)
    || numberWords.contains (String.ofList ((unsigned cs).map Char.toLower))

/-- Whether a text can be compared with values: it is a number or a pattern. -/
def isComparable (cs : List Char) : Bool :=
  isNumeral cs || (Pattern.parse? cs).any Pattern.isUsable

/-! ## Directives -/

/-- A field that spans or records must have, and whether the directive asks for a value too. -/
structure FieldDemand where
  name : List Char
  hasValue : Bool
  deriving DecidableEq, Repr

/-- Reads a field: a name, and behind an equals sign a value; a further equals sign ends it. -/
def FieldDemand.parse? (cs : List Char) : Option FieldDemand :=
  match Text.splitOn (· == '=') cs with
  | [name] => some ⟨name, false⟩
  | name :: value :: _ => if isComparable value then some ⟨name, true⟩ else none
  | [] => none

/-- A threshold for a part of what happens. -/
structure Directive where
  threshold : Threshold := .atLeast .trace
  target : Option (List Char) := none
  span : Option (List Char) := none
  field : Option FieldDemand := none
  deriving DecidableEq, Repr

namespace Directive

/-- The field that every record has, and the only one. -/
def messageField : List Char := "message".toList

/-- Whether a directive applies to a record.  Records are written outside of all spans. -/
def appliesTo (d : Directive) (r : Record) : Bool :=
  d.span.isNone && d.field.all (fun f => f.name == messageField && !f.hasValue) &&
    d.target.all (·.isPrefixOf r.target.toList)

/-- How specific a directive is. -/
def rank (d : Directive) : Nat :=
  2 * d.target.elim 0 (·.length + 1) + (if d.field.isSome then 1 else 0)

/-- Whether a directive for a target can start with a character. -/
def isStart (c : Char) : Bool :=
  Text.isLetterOrNumber c || c == '-' || c == ':' || c == '_'

/-- Reads the threshold of a directive from a position on, if anything is there. -/
def withThreshold? (d : Directive) (cs : List Char) (position : Nat) : Option Directive := do
  let level ← Text.dropBytes? position cs
  if level.isEmpty then return d
  else return { d with threshold := ← Threshold.parse? level }

/-- Reads what follows the bracket of a span, which is at a position; `rest` is what is found
there. -/
def finish? (d : Directive) (cs : List Char) (position : Nat) (rest : List Char) :
    Option Directive :=
  match rest with
  | [] => some d
  | '=' :: _ => d.withThreshold? cs (position + 1)
  | _ => none

/-- Reads what follows the opening bracket of a span, from a position on; `rest` is what is found
there. -/
def finishSpan? (target : Option (List Char)) (cs : List Char) (position : Nat)
    (rest : List Char) : Option Directive := do
  let name := rest.takeWhile fun c => c != ']' && c != '\x7b'
  let stop := position + Text.byteSize name
  let span ← Text.between? cs position stop
  match rest.drop name.length with
  | ']' :: rest => finish? { target, span := some span } cs (stop + 1) rest
  | _ :: rest =>
    let field := rest.takeWhile (· != '\x7d')
    let fieldStop := stop + 1 + Text.byteSize field
    match rest.drop field.length with
    | _ :: ']' :: rest =>
      if field.isEmpty then none
      else
        let demand ← FieldDemand.parse? (← Text.between? cs (stop + 1) fieldStop)
        let span := if name.isEmpty then none else some span
        finish? { target, span, field := some demand } cs (fieldStop + 2) rest
    | _ => none
  | [] => none

/-- Reads a directive.  Its parts are found in the text without the blanks around it, but taken
from the same positions of the text with them: a lone word keeps its blanks, and blanks in front
shift all other parts. -/
def parse? (cs : List Char) : Option Directive :=
  let trimmed := Text.trimBy Text.isBlank cs
  match trimmed with
  | [] => none
  | '[' :: rest => finishSpan? none cs 1 rest
  | c :: _ =>
    if !isStart c then none
    else do
      let name := trimmed.takeWhile fun c => c != '=' && c != '['
      let stop := Text.byteSize name
      match trimmed.drop name.length with
      | [] =>
        match Threshold.parse? cs with
        | some t => return { threshold := t }
        | none => return { target := some cs }
      | '[' :: rest => finishSpan? (← Text.between? cs 0 stop) cs (stop + 1) rest
      | _ =>
        let d : Directive := { target := ← Text.between? cs 0 stop }
        d.withThreshold? cs (stop + 1)

end Directive

/-! ## Filters -/

/-- Directives in the order they are given. -/
abbrev Filter := List Directive

namespace Filter

/-- Reads a filter: directives separated by commas, of which empty ones are skipped. -/
def parse? (s : String) : Option Filter :=
  ((Text.splitOn (· == ',') s.toList).filter (!·.isEmpty)).mapM Directive.parse?

/-- Of two directives the one that decides, the second one among equals. -/
def prevailing (best : Option Directive) (d : Directive) : Option Directive :=
  match best with
  | none => some d
  | some b => if b.rank ≤ d.rank then some d else some b

/-- The directive that decides about a record. -/
def deciding? (f : Filter) (r : Record) : Option Directive :=
  (f.filter (·.appliesTo r)).foldl prevailing none

def admits (f : Filter) (r : Record) : Bool := (f.deciding? r).any (·.threshold.admits r.level)

/-- The threshold that lets everything pass which some directive may let pass.  A demand for the
value of a field can only be checked later, so it lets all pass at first. -/
def widest (f : Filter) : Threshold :=
  if f.any fun d => d.field.any (·.hasValue) then .atLeast .trace
  else f.foldl (fun t d => t.wider d.threshold) .off

end Filter

/-- The filter that settings ask for; one that cannot be read gives way to the level. -/
def Settings.filtering (s : Settings) : Filter :=
  (s.filter.bind Filter.parse?).getD [{ threshold := .atLeast s.level }]

end Wiring.Logging
