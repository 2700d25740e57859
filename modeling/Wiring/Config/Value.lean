/-
# Wiring.Config.Value -- what a configuration key may hold

A value is text, a number, a flag, a list or a table.  Interpolation uses its
textual form `Value.text?`: lists are joined with commas, tables have none.
-/
import Wiring.Decimal.Shortest
import Wiring.Text.Numerals

namespace Wiring.Config

set_option autoImplicit false

inductive Value where
  | text (s : String)
  | int (n : Int)
  | float (x : Float)
  | flag (b : Bool)
  | list (items : List Value)
  | table (fields : List (String × Value))
  deriving Inhabited

namespace Value

def asText? : Value → Option String
  | text s => some s
  | _ => none

/-- An integer, or a text that denotes one. -/
def asInt? : Value → Option Int
  | int n => some n
  | text s => Text.readInteger s.toList
  | _ => none

/-- The words for true and for false, whatever the case of their letters. -/
def flagOfText? (s : String) : Option Bool :=
  match s.toLower with
  | "true" | "yes" | "1" => some true
  | "false" | "no" | "0" => some false
  | _ => none

/-- A flag, or a text that denotes one. -/
def asFlag? : Value → Option Bool
  | flag b => some b
  | text s => flagOfText? s
  | _ => none

def flagText (b : Bool) : String := if b then "true" else "false"

mutual

/-- The textual form used by interpolation. -/
def text? : Value → Option String
  | text s => some s
  | int n => some (toString n)
  | float x => some (Decimal.floatText x)
  | flag b => some (flagText b)
  | list items => (texts? items).map (",".intercalate ·)
  | table _ => none

/-- The textual forms of all items, if each has one. -/
def texts? : List Value → Option (List String)
  | [] => some []
  | v :: vs => do
    let s ← text? v
    let rest ← texts? vs
    return s :: rest

end

end Value

end Wiring.Config
