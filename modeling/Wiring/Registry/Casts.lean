/-
# Wiring.Registry.Casts -- which types may be used as which others

A registry holds edges from a concrete type to one that it may be used as.  Edges
are looked up as they are: they are neither composed nor reversed, and a type may
be used as itself only if that edge is registered too.
-/
import Wiring.Component.Blueprint
import Wiring.Text.Quoted

namespace Wiring

set_option autoImplicit false

/-- An edge: the concrete type, and the type it may be used as. -/
structure CastEdge where
  concrete : TypeName
  ancestor : TypeName
  deriving DecidableEq, Repr

def CastEdge.describe (e : CastEdge) : String :=
  Text.record "CastEdge" [("concrete", Text.quote e.concrete), ("ancestor", Text.quote e.ancestor)]

/-- Edges, each registered once. -/
abbrev Casts := List CastEdge

namespace Casts

def register (cs : Casts) (e : CastEdge) : Casts := if cs.contains e then cs else cs ++ [e]

def registerAll (cs : Casts) (es : List CastEdge) : Casts := es.foldl register cs

/-- The edge from `concrete` to `ancestor`. -/
def find? (cs : Casts) (ancestor concrete : TypeName) : Option CastEdge :=
  List.find? (fun e => e.concrete == concrete && e.ancestor == ancestor) cs

def allows (cs : Casts) (ancestor concrete : TypeName) : Bool := (cs.find? ancestor concrete).isSome

/-- The types that a type may be used as, sorted. -/
def ancestors (cs : Casts) (concrete : TypeName) : List TypeName :=
  ((List.filter (fun e => e.concrete == concrete) cs).map (·.ancestor)).mergeSort
    fun a b => decide (a ≤ b)

/-- Uses an object of type `actual` as `ancestor`, on the claim that its type is `concrete` and
goes by `name`: there must be an edge, and the claim must be true. -/
def cast (cs : Casts) (ancestor actual concrete name : TypeName) : Except Error Unit :=
  if cs.allows ancestor concrete && actual == concrete then .ok ()
  else .error (.castUnavailable name ancestor)

end Casts

/-- The edges a component type declares: to itself and to its interfaces. -/
def Component.edges {σ : Type} (c : Component σ) : List CastEdge :=
  ⟨c.typeName, c.typeName⟩ :: c.interfaces.map fun i => ⟨c.typeName, i⟩

end Wiring
