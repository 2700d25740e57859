/-
# Wiring.Component.Blueprint -- what a type lets configuration set

A component type is known to the container only by its blueprint: names of
properties and hooks, each bound to one setter of one kind.  A setter is an
`Action`: given what can be seen of the live objects it says what changes, what is
noted and whether it failed; it does nothing itself.  Actions are made up of three:
`update` changes the component's own state, `fails` changes nothing at all, and `both`
changes what two actions change, the second one only if the first did not fail.
-/
import Wiring.Component.Integer
import Wiring.Heap.Basic
import Wiring.Text.Quoted

namespace Wiring

set_option autoImplicit false

/-- The full name of a type, which identifies it. -/
abbrev TypeName := String

namespace Component

/-! ## Kinds -/

/-- The kind of value a property accepts. -/
inductive Kind where
  | reference
  | number
  | text
  | time
  | list
  | map
  | hook
  deriving DecidableEq, Repr

def Kind.word : Kind → String
  | reference => "reference"
  | number => "number"
  | text => "text"
  | time => "time"
  | list => "list"
  | map => "map"
  | hook => "hook"

/-- A value given to a property; times are in microseconds, maps sorted by key. -/
inductive Given where
  | reference (id : ObjectId)
  | number (x : Float)
  | text (s : String)
  | time (micros : Nat)
  | list (items : List String)
  | map (entries : List (String × String))

def Given.kind : Given → Kind
  | reference _ => .reference
  | number _ => .number
  | text _ => .text
  | time _ => .time
  | list _ => .list
  | map _ => .map

/-! ## Actions -/

/-- What an action does: new states of objects, notes, and whether it failed. -/
structure Effect (σ : Type) where
  changes : List (ObjectId × σ) := []
  notes : List String := []
  outcome : Except Error Unit := .ok ()

/-- What an action sees: the states of live objects. -/
abbrev Sight (σ : Type) := ObjectId → Option σ

/-- The behaviour of a setter or a hook on the object of the given identity. -/
abbrev Action (σ : Type) := Sight σ → ObjectId → Effect σ

section Actions

variable {σ : Type}

def update (f : σ → σ) : Action σ := fun sight id =>
  match sight id with
  | some s => { changes := [(id, f s)] }
  | none => {}

def fails (e : Error) : Action σ := fun _ _ => { outcome := .error e }

/-- Does one action and then another, if the first did not fail.  Both see the states from before
the first. -/
def both (first second : Action σ) : Action σ := fun sight id =>
  let a := first sight id
  match a.outcome with
  | .error _ => a
  | .ok () =>
    let b := second sight id
    { changes := a.changes ++ b.changes, notes := a.notes ++ b.notes, outcome := b.outcome }

end Actions

/-- What the container asks of the states of components. -/
class Lifecycle (σ : Type) where
  /-- The strong references a component holds, in the order it releases them in the end. -/
  held : σ → List ObjectId
  /-- What a component notes when it is destroyed. -/
  farewell : σ → List String

/-! ## Bindings -/

/-- A setter and the value it expects. A weak reference hands over the object without a share in
its lifetime. -/
inductive Binding (σ : Type) where
  | reference (target : TypeName) (set : ObjectId → Action σ)
  | weakReference (target : TypeName) (set : ObjectId → Action σ)
  | number (set : Float → Action σ)
  | integer (type : IntegerType) (set : Int → Action σ)
  | boolean (set : Bool → Action σ)
  | text (set : String → Action σ)
  | character (set : Char → Action σ)
  | time (set : Nat → Action σ)
  | list (set : List String → Action σ)
  | map (set : List (String × String) → Action σ)
  | hook (call : Action σ)

def Binding.kind {σ : Type} : Binding σ → Kind
  | reference .. | weakReference .. => .reference
  | number _ | integer .. | boolean _ => .number
  | text _ | character _ => .text
  | time _ => .time
  | list _ => .list
  | map _ => .map
  | hook _ => .hook

/-- Bindings by name; `bind` keeps names unique. -/
abbrev Bindings (σ : Type) := List (String × Binding σ)

/-- Binds a name that is not bound yet. -/
def Bindings.bind {σ : Type} (bs : Bindings σ) (typeName : TypeName) (name : String)
    (b : Binding σ) : Except Error (Bindings σ) :=
  if (bs.lookup name).isSome then .error (.duplicateProperty name typeName)
  else .ok (bs ++ [(name, b)])

/-- Binds names one after the other, up to the first that is bound already. -/
def Bindings.bindAll {σ : Type} (typeName : TypeName) (bs : Bindings σ) :
    List (String × Binding σ) → Except Error (Bindings σ)
  | [] => .ok bs
  | (name, b) :: rest => do
    let bs ← bs.bind typeName name b
    bindAll typeName bs rest

end Component

/-- The properties and hooks of a type, with the class it goes by in configuration. -/
structure Blueprint (σ : Type) where
  className : String
  typeName : TypeName
  bindings : Component.Bindings σ

/-- A type that configuration can create: its class, the bindings it asks for, how an instance
starts, and the interfaces it may be used as. -/
structure Component (σ : Type) where
  className : String
  typeName : TypeName
  wanted : List (String × Component.Binding σ)
  make : Except Error σ
  interfaces : List TypeName := []

namespace Component

variable {σ : Type}

/-- The blueprint of a type; it fails if a name is bound twice. -/
def describe (c : Component σ) : Except Error (Blueprint σ) := do
  let bs ← Bindings.bindAll c.typeName [] c.wanted
  return ⟨c.className, c.typeName, bs⟩

end Component

namespace Blueprint

variable {σ : Type}

def binding? (b : Blueprint σ) (name : String) : Option (Component.Binding σ) :=
  b.bindings.lookup name

def kind? (b : Blueprint σ) (name : String) : Option Component.Kind :=
  (b.binding? name).map (·.kind)

/-- The names of the properties and hooks, sorted. -/
def names (b : Blueprint σ) : List String :=
  (b.bindings.map (·.1)).mergeSort fun a b => decide (a ≤ b)

def describe (b : Blueprint σ) : String :=
  Text.record "BeanMeta"
    [("class_name", Text.quote b.className), ("type_name", Text.quote b.typeName),
      ("properties", Text.listing (b.names.map Text.quote))]

end Blueprint

/-- A live component: its state and the blueprint of its type. -/
structure Object (σ : Type) where
  blueprint : Blueprint σ
  state : σ

instance {σ : Type} [Component.Lifecycle σ] : Holder (Object σ) :=
  ⟨fun o => Component.Lifecycle.held o.state⟩

end Wiring
