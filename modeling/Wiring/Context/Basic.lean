/-
# Wiring.Context.Basic -- the live graph and how names find objects in it

A context keeps the instances it owns in the order they were created, each with one
handle, and an index from names to positions.  `lookup` goes through the index;
`find` also follows an alias, one step.
-/
import Wiring.Document.View
import Wiring.Host

namespace Wiring

set_option autoImplicit false

open Wiring.Component
open Wiring.Config (Environment)
open Wiring.Document (View)
open Wiring.Logging (Level Logged Record)

/-- A document brought to life: owned instances in creation order, positions by name. -/
structure Context (σ : Type) where
  host : Host σ
  document : Document
  environment : Environment
  paths : List String := []
  owned : List (String × ObjectId) := []
  index : Keyed Nat := []
  shutDown : Bool := false

namespace Context

variable {σ : Type}

def logTarget : String := "weave_core::context"

def entry (level : Level) (message : String) : Record := ⟨level, logTarget, message⟩

def log (c : Context σ) (level : Level) (message : String) : Context σ :=
  { c with host := c.host.record [entry level message] }

/-- Enters the records of a computation and keeps its value. -/
def take {α : Type} (c : Context σ) (x : Logged α) : α × Context σ :=
  let (a, host) := c.host.take x
  (a, { c with host := host })

/-- Carries out a step of the host. -/
def onHost {α : Type} (c : Context σ) (step : Host σ → α × Host σ) : α × Context σ :=
  let (a, host) := step c.host
  (a, { c with host := host })

def view (c : Context σ) (name : String) : View := ⟨name, c.document, c.environment⟩

def expand (c : Context σ) (text : String) : String × Context σ :=
  c.take (c.environment.expand text)

/-- The names of the live instances, in creation order. -/
def names (c : Context σ) : List String := c.owned.map (·.1)

/-- Whether a live instance goes by this very name. -/
def contains (c : Context σ) (name : String) : Bool := (c.index.lookup name).isSome

/-- The live instance of this very name. -/
def lookup (c : Context σ) (name : String) : Option ObjectId :=
  (c.index.lookup name).bind fun position => (c.owned[position]?).map (·.2)

def acquire (c : Context σ) (id : ObjectId) : Context σ := { c with host := c.host.acquire id }

/-- The live instance of a name or of the name it is an alias of, with a new handle. -/
def find (c : Context σ) (name : String) : Option ObjectId × Context σ :=
  match c.lookup name with
  | some id => (some id, c.acquire id)
  | none =>
    match c.take (c.view name).aliasTarget with
    | (.error _, c) => (none, c)
    | (.ok target, c) =>
      if target.isEmpty then (none, c)
      else
        match c.lookup target with
        | some id => (some id, c.acquire id)
        | none => (none, c)

/-- Takes over a new instance: one more handle, the end of the owned list, and the index. -/
def register (c : Context σ) (name : String) (id : ObjectId) : Context σ :=
  { c.acquire id with
    index := c.index.put name c.owned.length
    owned := c.owned ++ [(name, id)] }

def describe (c : Context σ) : String :=
  Text.record "ApplicationContext"
    [("instances", Text.listing (c.names.map Text.quote)),
      ("library_paths", Text.listing (c.paths.map Text.quote)),
      ("shut_down", Config.Value.flagText c.shutDown)]

end Context

end Wiring
