/-
# Wiring.Component.Injection -- from a given value to the call of a setter

`Blueprint.setter` finds the call that injecting a value under a name means: the
setter bound to the name, applied to the converted value.  It fails, and nothing is
called, if the name is not bound, bound with another kind, or if the value cannot be
converted.
-/
import Wiring.Component.Blueprint

namespace Wiring

set_option autoImplicit false

namespace Component

variable {σ : Type}

def singleCharacter (s : String) : Except Error Char :=
  match s.toList with
  | [c] => .ok c
  | _ => .error (.wrongInput s!"expected a single character but got '{s}'")

/-- The hook called once all properties of a new instance are set. -/
def doneHook : String := "done"

def cleanupHook : String := "cleanup"

end Component

namespace Blueprint

open Component

variable {σ : Type}

/-- A value of one kind was given where another is expected. -/
def mismatch (b : Blueprint σ) (name : String) (given expected : Kind) : Error :=
  .wrongInput
    s!"property {name} of {b.typeName} expects {expected.word} but {given.word} was given"

/-- The call that injecting `value` under `name` means.  `cast` says whether an object may be used
as a type. -/
def setter (b : Blueprint σ) (cast : ObjectId → TypeName → Except Error Unit) (name : String)
    (value : Given) : Except Error (Action σ) :=
  match b.binding? name with
  | none => .error (.propertyNotFound name value.kind.word b.typeName)
  | some binding =>
    match binding, value with
    | .reference target set, .reference id => (cast id target).map fun _ => set id
    | .weakReference target set, .reference id => (cast id target).map fun _ => set id
    | .number set, .number x => .ok (set x)
    | .integer type set, .number x => (type.coerce x).map set
    | .boolean set, .number x => .ok (set (!(Decimal.Number.ofFloat x).isZero))
    | .text set, .text s => .ok (set s)
    | .character set, .text s => (singleCharacter s).map set
    | .time set, .time n => .ok (set n)
    | .list set, .list items => .ok (set items)
    | .map set, .map entries => .ok (set entries)
    | binding, value => .error (b.mismatch name value.kind binding.kind)

def hasHook (b : Blueprint σ) (name : String) : Bool := b.kind? name == some .hook

def hook (b : Blueprint σ) (name : String) : Except Error (Action σ) :=
  match b.binding? name with
  | none => .error (.hookNotFound name b.typeName)
  | some (.hook call) => .ok call
  | some binding => .error (b.mismatch name .hook binding.kind)

end Blueprint

end Wiring
