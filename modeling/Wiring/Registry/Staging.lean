/-
# Wiring.Registry.Staging -- registering component types, and what libraries hand over

Component types register a factory and their cast edges together.  A library does
not register into the program's registries: it fills a `Staging` of its own, which
is then published, edges first.

A library is found under a file name in the directories of a search path.  Opening
a path either fails with a text of the platform or yields a `Library`; one with an
entry point answers with a status and a filled staging.
-/
import Wiring.Registry.Casts
import Wiring.Registry.Factories
import Wiring.Text.Blank

namespace Wiring

set_option autoImplicit false

open Wiring.Logging (Logged)

/-- Factories and cast edges that belong together. -/
structure Registry (σ : Type) where
  factories : Factories σ := []
  casts : Casts := []

namespace Registry

variable {σ : Type}

/-- Registers a component type.  A type that cannot be described changes nothing; its edges stay
even if its class is refused. -/
def register (r : Registry σ) (c : Component σ) : Logged (Except Error Unit × Registry σ) :=
  match c.factory with
  | .error e => pure (.error e, r)
  | .ok f => do
    let (result, fs) ← r.factories.register c.className f
    return (result, ⟨fs, r.casts.registerAll c.edges⟩)

/-- Registers component types in order, up to the first that fails. -/
def scan (r : Registry σ) : List (Component σ) → Logged (Except Error Unit × Registry σ)
  | [] => pure (.ok (), r)
  | c :: rest => do
    let (result, r) ← r.register c
    match result with
    | .ok () => scan r rest
    | .error e => return (.error e, r)

/-- Takes over what another registry holds: all its edges, then its factories by class up to the
first that is refused.  Returns how many classes there are. -/
def publish (r staged : Registry σ) : Logged (Except Error Nat × Registry σ) := do
  let casts := r.casts.registerAll staged.casts
  let (result, fs) ← r.factories.absorb staged.factories
  return (result, ⟨fs, casts⟩)

end Registry

/-- The version of the agreement between program and libraries. -/
def interfaceVersion : Nat := 1

inductive EntryStatus where
  | ok
  | failed
  | incompatible
  deriving DecidableEq, Repr

def EntryStatus.word : EntryStatus → String
  | ok => "Ok"
  | failed => "Failed"
  | incompatible => "Incompatible"

/-- What a library is given to fill: the version of the agreement, and a registry. -/
structure Staging (σ : Type) where
  version : Nat := interfaceVersion
  registry : Registry σ := {}

namespace Staging

variable {σ : Type}

/-- The entry point of a library with the given component types: it registers them, unless it is
given nothing to fill or another version of the agreement.  `aborts` says whether registering a
type breaks off for a reason of its own. -/
def fill (components : List (Component σ)) (aborts : Component σ → Bool)
    (host : Option (Staging σ)) : EntryStatus × Option (Staging σ) :=
  match host with
  | none => (.failed, none)
  | some s =>
    if s.version != interfaceVersion then (.incompatible, some s)
    else
      let before := components.takeWhile (!aborts ·)
      let scanned := (s.registry.scan before).value
      let status :=
        match scanned.1 with
        | .error _ => EntryStatus.failed
        | .ok () => if before.length < components.length then .failed else .ok
      (status, some { s with registry := scanned.2 })

end Staging

/-- An opened library: what its entry point does, or why it has none. -/
structure Library (σ : Type) where
  entry : Except String (EntryStatus × Registry σ)

namespace Library

def fileName (name : String) : String := s!"lib{name}.so"

/-- The name that entry points are exported under. -/
def entrySymbol : String := "weave_components_entry"

def join (dir file : String) : String :=
  if dir.isEmpty then file
  else if dir.endsWith "/" then dir ++ file
  else dir ++ "/" ++ file

/-- The key that lists further search directories. -/
def searchPathKey : String := "weave.library.path"

/-- The directories of a list, separated by colons. -/
def splitPath (paths : String) : List String :=
  (Text.splitOn (· == ':') paths.toList).map String.ofList

def describePath (paths : List String) : String :=
  Text.record "LibraryLoader" [("paths", Text.listing (paths.map Text.quote))]

end Library

end Wiring
