/-
# Wiring.Config.Source -- where configuration keys get their values from

A source is a named table of properties or the process variables under a prefix.
A variable `WEAVE_GATEWAY_PORT` under the prefix `WEAVE_` is the key
`gateway.port`: `keyOfVariable` and `variableOfKey` convert between them.
-/
import Wiring.Config.Value
import Wiring.Text.Case
import Wiring.Keyed

namespace Wiring.Config

set_option autoImplicit false

/-! ## Properties -/

abbrev Properties := Keyed Value

/-- Sorts texts by code points. -/
def sortTexts (ts : List String) : List String := ts.mergeSort fun a b => decide (a ≤ b)

/-! ## Process variables -/

abbrev Variables := Keyed String

/-- The rest of a text behind `lead`, if it starts with it. -/
def stripLead? : List Char → List Char → Option (List Char)
  | [], cs => some cs
  | l :: ls, c :: cs => if l == c then stripLead? ls cs else none
  | _ :: _, [] => none

theorem stripLead?_eq_some_iff {lead cs rest : List Char} :
    stripLead? lead cs = some rest ↔ cs = lead ++ rest := by
  induction lead generalizing cs with
  | nil => simp [stripLead?]
  | cons l lead ih =>
    cases cs with
    | nil => simp [stripLead?]
    | cons c cs =>
      by_cases same : l = c
      · simp [stripLead?, same, ih]
      · simp [stripLead?, same, Ne.symm same]

/-- The process keeps each variable as one text `name=value`, and looks for the first that starts
with the wanted name and an equals sign; nothing goes by the empty name. -/
def Variables.get? (vs : Variables) (name : String) : Option String :=
  if name.isEmpty then none
  else vs.findSome? fun v =>
    (stripLead? (name.toList ++ ['=']) (v.1.toList ++ '=' :: v.2.toList)).map String.ofList

def replaceChar (old new : Char) (cs : List Char) : List Char :=
  cs.map fun c => if c == old then new else c

/-- The key of a variable: the prefix goes, letters turn lower case, `_` becomes a dot. -/
def keyOfVariable (lead name : String) : String :=
  let cs := name.toList
  String.ofList (replaceChar '_' '.' (Text.lowercase ((stripLead? lead.toList cs).getD cs)))

/-- The variable of a key: dots become `_`, letters turn upper case, the prefix comes in front. -/
def variableOfKey (lead key : String) : String :=
  lead ++ String.ofList (Text.uppercase (replaceChar '.' '_' key.toList))

/-! ## Sources -/

inductive SourceBody where
  | properties (entries : Properties)
  | process (lead : String) (all : Variables)

/-- A named source; sources of higher priority win. -/
structure Source where
  name : String
  priority : Int
  body : SourceBody

namespace Source

def get? (s : Source) (key : String) : Option Value :=
  match s.body with
  | .properties ps => ps.lookup key
  | .process lead vs => (vs.get? (variableOfKey lead key)).map .text

def keys (s : Source) : List String :=
  match s.body with
  | .properties ps => sortTexts (ps.map (·.1))
  | .process lead vs =>
    (vs.filter fun v => (stripLead? lead.toList v.1.toList).isSome).map
      fun v => keyOfVariable lead v.1

/-- The priority of properties set by a program, unless another is given. -/
def programPriority : Int := 50

/-- The priority of the process variables, unless another is given. -/
def variablePriority : Int := 100

def ofProperties (name : String) (entries : List (String × Value)) (priority : Int) : Source :=
  ⟨name, priority, .properties (Keyed.ofList entries)⟩

/-- The process variables that start with `lead`. -/
def ofVariables (lead : String) (all : Variables) (priority : Int) : Source :=
  ⟨"environment", priority, .process lead all⟩

end Source

end Wiring.Config
