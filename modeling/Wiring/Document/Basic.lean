/-
# Wiring.Document.Basic -- the declarative object graph

A document declares constants, aliases and instances.  Several declarations may use
one name; lookups return the first, so documents merged later never shadow earlier
ones (`find?_merge`).
-/
namespace Wiring

set_option autoImplicit false

namespace Document

/-- When an instance is created: on demand, or while the context is built. -/
inductive Init where
  | onDemand
  | early
  deriving DecidableEq, Repr

/-- Whether an entry assigns a property or adds to it.  Both call the same setter. -/
inductive Change where
  | set
  | add
  deriving DecidableEq, Repr

def Change.word : Change → String
  | .set => "set"
  | .add => "add"

structure Pair where
  key : Option String
  text : Option String
  deriving DecidableEq, Repr

/-- One property of an instance: its name, its value in one of several forms, and the gate that
must open for it to apply. -/
structure Property where
  change : Change := .set
  name : Option String := none
  reference : Option String := none
  number : Option String := none
  text : Option String := none
  time : Option String := none
  list : Option String := none
  pairs : List Pair := []
  gate : Option String := none
  deriving DecidableEq, Repr

structure Declaration where
  name : String
  className : Option String := none
  library : Option String := none
  init : Init := .onDemand
  properties : List Property := []
  deriving DecidableEq, Repr

/-- A second name for an instance. -/
structure Alias where
  name : String
  target : String
  deriving DecidableEq, Repr

/-- A named value in one of four forms. -/
structure Constant where
  name : Option String := none
  text : Option String := none
  time : Option String := none
  number : Option String := none
  condition : Option String := none
  deriving DecidableEq, Repr

end Document

/-- Constants, aliases and instances, in the order they were declared. -/
structure Document where
  constants : List Document.Constant := []
  aliases : List Document.Alias := []
  instances : List Document.Declaration := []
  deriving DecidableEq, Repr

namespace Document

/-- The declarations of `d` followed by those of `other`. -/
def merge (d other : Document) : Document :=
  ⟨d.constants ++ other.constants, d.aliases ++ other.aliases, d.instances ++ other.instances⟩

/-- The first declaration of a name. -/
def find? (d : Document) (name : String) : Option Declaration :=
  d.instances.find? (·.name == name)

/-- The first alias of a name. -/
def alias? (d : Document) (name : String) : Option Alias :=
  d.aliases.find? (·.name == name)

/-- The names of the declarations that ask for early creation, in order. -/
def earlyNames (d : Document) : List String :=
  (d.instances.filter (·.init == .early)).map (·.name)

theorem find?_merge {d other : Document} {name : String} {x : Declaration}
    (h : d.find? name = some x) : (d.merge other).find? name = some x := by
  simp [find?, merge, List.find?_append] at h ⊢
  simp [h]

theorem alias?_merge {d other : Document} {name : String} {x : Alias}
    (h : d.alias? name = some x) : (d.merge other).alias? name = some x := by
  simp [alias?, merge, List.find?_append] at h ⊢
  simp [h]

end Document

end Wiring
