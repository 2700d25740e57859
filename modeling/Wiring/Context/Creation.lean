/-
# Wiring.Context.Creation -- creating an instance and everything it refers to

An instance is registered before its properties are set, so that references back to
it find it.  Hence no more instances are under construction at a time than there are
declared names that are not live yet, one more for a root that is not kept.
`construct` takes the number it may have under construction; `create` gives it
enough.

A failure leaves registered what was registered on the way, including the instance
that failed half way; the handle of a root that is not kept is given up.
-/
import Wiring.Context.Values

namespace Wiring.Context

set_option autoImplicit false

open Wiring.Component
open Wiring.Document (Property View)

variable {σ : Type} [Lifecycle σ]

/-- The result of a step, and the context after it. -/
abbrev Step (σ α : Type) := Except Error α × Context σ

/-- Creates or finds an instance by name; nothing if the depth does not suffice. -/
abbrev Maker (σ : Type) := Context σ → String → Option (Step σ ObjectId)

def release (c : Context σ) (id : ObjectId) : Context σ := { c with host := c.host.release id }

def inject (c : Context σ) (id : ObjectId) (name : String) (value : Given) : Step σ Unit :=
  c.onHost fun h => h.inject id name value

/-- Injects a value that may not be had. -/
def injectResult (c : Context σ) (id : ObjectId) (name : String) (value : Except Error Given) :
    Step σ Unit :=
  match value with
  | .ok v => c.inject id name v
  | .error e => (.error e, c)

/-! ## One property -/

def injectReference (make : Maker σ) (c : Context σ) (id : ObjectId) (name target : String) :
    Option (Step σ Unit) := do
  let (made, c) ← make c target
  match made with
  | .error e => return (.error e, c.log .error s!"Failed to create reference '{target}'")
  | .ok value =>
    let (result, c) := c.inject id name (.reference value)
    return (result, c.release value)

/-- The entry of a property that cannot be used is reported and left out. -/
def skipMalformed (c : Context σ) (owner name : String) : Step σ Unit :=
  (.ok (), c.log .error s!"Malformed configuration entry {name} for '{owner}'")

/-- Injects the value of a property that is no reference: the first present among number, text,
time, list and pairs. -/
def injectPlain (c : Context σ) (owner : String) (id : ObjectId) (p : Property) (name : String) :
    Step σ Unit :=
  match p.number, p.text, p.time, p.list with
  | some number, _, _, _ =>
    let (number, c) := c.expand number
    c.injectResult id name ((Expression.evaluate number).map .number)
  | none, some text, _, _ =>
    let (text, c) := c.expand text
    c.inject id name (.text text)
  | none, none, some time, _ =>
    let (time, c) := c.expand time
    c.injectResult id name ((Expression.parseDuration time).map .time)
  | none, none, none, some list =>
    let (list, c) := c.expand list
    c.inject id name (.list (splitList list))
  | none, none, none, none =>
    if p.pairs.isEmpty then c.skipMalformed owner name
    else
      match c.take (collectPairs c.environment owner name 1 [] p.pairs) with
      | (.complete entries, c) => c.inject id name (.map (sortEntries entries))
      | (.abandoned, c) => c.skipMalformed owner name
      | (.failed e, c) => (.error e, c)

/-- Injects the value of a property; a reference goes before any other value. -/
def injectProperty (make : Maker σ) (c : Context σ) (owner : String) (id : ObjectId) (p : Property)
    (name : String) : Option (Step σ Unit) :=
  match p.reference with
  | some reference =>
    let (target, c) := c.expand reference
    injectReference make c id name target
  | none => some (c.injectPlain owner id p name)

/-! ## All properties -/

/-- Injects properties in order, up to the first that fails. -/
def injectAll (make : Maker σ) (owner : String) (id : ObjectId) :
    List Property → Context σ → Option (Step σ Unit)
  | [], c => some (.ok (), c)
  | p :: rest, c =>
    match p.name with
    | none =>
      injectAll make owner id rest
        (c.log .warn s!"Missing name for {p.change.word} entry of '{owner}'")
    | some name => do
      let (result, c) ← injectProperty make c owner id p name
      match result with
      | .ok () => injectAll make owner id rest c
      | .error e =>
        return (.error e, c.log .error s!"Failed to inject {name} for '{owner}': {e.message}")

/-- Calls the hook of a new instance, if it has one. -/
def callDone (c : Context σ) (owner : String) (id : ObjectId) : Step σ Unit :=
  if c.host.hasHook id doneHook then
    match c.onHost fun h => h.call id doneHook with
    | (.ok (), c) => (.ok (), c)
    | (.error e, c) =>
      (.error e, c.log .error s!"Hook '{doneHook}' failed for '{owner}': {e.message}")
  else (.ok (), c)

/-- Sets all properties of an instance and then calls its hook. -/
def complete (make : Maker σ) (c : Context σ) (owner : String) (id : ObjectId) :
    Option (Step σ Unit) := do
  let (properties, c) := c.take (c.view owner).properties
  let (result, c) ← injectAll make owner id properties c
  match result with
  | .ok () => return c.callDone owner id
  | .error e => return (.error e, c)

/-! ## Instances -/

def loadLibrary (c : Context σ) (library : String) : Step σ Unit :=
  if library.isEmpty then (.ok (), c) else c.onHost fun h => h.load c.paths library

/-- Constructs the bare instance of a declared name, with one handle to it. -/
def instantiate (c : Context σ) (name : String) : Step σ ObjectId :=
  match (c.view name).validated with
  | .error e => (.error e, c)
  | .ok _ =>
    let (library, c) := c.take (c.view name).library
    match c.loadLibrary library with
    | (.error e, c) => (.error e, c)
    | (.ok (), c) =>
      let (className, c) := c.take (c.view name).className
      let c := c.log .info s!"Creating '{name}' as {className}"
      c.onHost fun h => h.construct className

/-- Finds a live instance by name or alias, or has it constructed. -/
def resolve (construct : Context σ → String → Option (Step σ ObjectId)) (c : Context σ)
    (name : String) : Option (Step σ ObjectId) :=
  match c.lookup name with
  | some id => some (.ok id, c.acquire id)
  | none =>
    match c.take (c.view name).aliasTarget with
    | (.error e, c) => some (.error e, c)
    | (.ok target, c) =>
      if target.isEmpty then construct c name
      else
        match c.lookup target with
        | some id => some (.ok id, c.acquire id)
        | none => construct c target

/-- Completes a new instance; if that fails its handle is given up. -/
def finish (make : Maker σ) (c : Context σ) (name : String) (id : ObjectId) :
    Option (Step σ ObjectId) := do
  let (result, c) ← complete make c name id
  match result with
  | .ok () => return (.ok id, c)
  | .error e => return (.error e, c.release id)

/-- Constructs and completes the instance of a name that is not live.  A kept instance is
registered before it is completed; `make` follows its references, and is missing if no further
instance may be under construction. -/
def assemble (make : Option (Maker σ)) (keep : Bool) (c : Context σ) (name : String) :
    Option (Step σ ObjectId) :=
  match c.instantiate name with
  | (.error e, c) => some (.error e, c)
  | (.ok id, c) =>
    make.bind fun make => finish make (if keep then c.register name id else c) name id

/-- Constructs the instance of a name that is not live, with at most `depth` instances under
construction at a time. -/
def construct : Nat → Bool → Context σ → String → Option (Step σ ObjectId)
  | 0 => assemble none
  | depth + 1 => assemble (some (resolve (construct depth true)))

/-- How many declared names are not live. -/
def unborn (c : Context σ) : Nat :=
  (c.document.instances.map (·.name)).eraseDups.countP fun n => (c.lookup n).isNone

end Wiring.Context
