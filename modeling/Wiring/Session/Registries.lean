/-
# Wiring.Session.Registries -- working with registries by hand

A bench holds registries by name, which start out empty, beside the one of a running
program.  Casts are tried on fresh objects that the running program makes.
-/
import Wiring.Session.Basic

namespace Wiring

set_option autoImplicit false

open Wiring.Logging (Logged)

/-- Registries by name, and the one of the program. -/
structure Bench where
  program : Registry Sample
  named : Keyed (Registry Sample) := []

/-- What is shown of an edge, and which fresh objects can be used as nodes through it. -/
structure EdgeForm where
  edge : CastEdge
  leadsFrom : Bool
  leadsTo : Bool
  takesProbe : Bool
  takesLink : Bool

namespace Bench

def ofHost (h : Host Sample) : Bench := ⟨h.registry, []⟩

def registry (b : Bench) (name : String) : Registry Sample := (b.named.lookup name).getD {}

def onNamed {α : Type} (b : Bench) (name : String)
    (step : Registry Sample → Logged (α × Registry Sample)) : Logged (α × Bench) := do
  let (a, r) ← step (b.registry name)
  return (a, { b with named := b.named.put name r })

def takeAway (b : Bench) (name : String) : Registry Sample × Bench :=
  (b.registry name, { b with named := b.named.filter (·.1 != name) })

def register (b : Bench) (name : String) (c : Component Sample) :
    Logged (Except Error Unit × Bench) := b.onNamed name (·.register c)

def registerWithProgram (b : Bench) (c : Component Sample) :
    Logged (Except Error Unit × Bench) := do
  let (result, r) ← b.program.register c
  return (result, { b with program := r })

/-- Registers the factory of a type under another class, and none of its edges. -/
def registerAs (b : Bench) (name className : String) (c : Component Sample) :
    Logged (Except Error Unit × Bench) :=
  b.onNamed name fun r =>
    match c.factory with
    | .error e => pure (.error e, r)
    | .ok f => do
      let (result, fs) ← r.factories.register className f
      return (result, { r with factories := fs })

/-- Registers the types of the sample program, and tells how many there are. -/
def scan (b : Bench) (name : String) : Logged (Except Error Nat × Bench) :=
  b.onNamed name fun r => do
    let (result, r) ← r.scan Sample.catalogue
    return (result.map fun _ => Sample.catalogue.length, r)

def addEdge (b : Bench) (name : String) (e : CastEdge) : Bench :=
  (b.onNamed name fun r => pure ((), { r with casts := r.casts.register e })).value.2

/-- Takes over the factories of a registry, which is used up. -/
def absorbFactories (b : Bench) (name source : String) : Logged (Except Error Nat × Bench) :=
  let (staged, b) := b.takeAway source
  b.onNamed name fun r => do
    let (result, fs) ← r.factories.absorb staged.factories
    return (result, { r with factories := fs })

/-- Takes over the edges of a registry, which is used up, and tells how many it had. -/
def absorbCasts (b : Bench) (name source : String) : Nat × Bench :=
  let (staged, b) := b.takeAway source
  (b.onNamed name fun r =>
    pure (staged.casts.length, { r with casts := r.casts.registerAll staged.casts })).value

/-- Takes over all of a registry, which is used up. -/
def publish (b : Bench) (name source : String) : Logged (Except Error Nat × Bench) :=
  let (staged, b) := b.takeAway source
  b.onNamed name (·.publish staged)

/-- What is shown of the edge between two types, seen from a third. -/
def edgeForm (b : Bench) (name : String) (concrete ancestor probe : TypeName) : Option EdgeForm :=
  let takes (e : CastEdge) (word : String) : Bool :=
    e == ⟨Sample.typeNamed word, Sample.nodeType⟩
  ((b.registry name).casts.find? ancestor concrete).map fun e =>
    ⟨e, e.concrete == probe, e.ancestor == probe, takes e "Probe", takes e "Link"⟩

/-- Uses a fresh object of a class as a type, on the claim that it is of another type. -/
def cast (b : Bench) (name className word : String) (claim : Option TypeName) :
    Except Error String := do
  let f ← b.program.factories.find className
  let state ← f.make
  (b.registry name).casts.cast (Session.typeOf word) f.typeName (claim.getD f.typeName) "claimed"
  return Session.shownAs word state

end Bench

end Wiring
