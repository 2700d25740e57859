/-
# Wiring.Context.Request -- asking a context for an instance

A request finds the live instance of a name, or constructs it with all it refers to.
It always has an answer (`Nesting.construct_total`), so no depth shows here.
-/
import Wiring.Context.Nesting

namespace Wiring.Context

set_option autoImplicit false

open Wiring.Component

variable {σ : Type} [Lifecycle σ]

/-- How many instances a request may have under construction: one for each unborn name, and one
more for a root that is not kept. -/
def enoughDepth (c : Context σ) (keep : Bool) : Nat := c.unborn + if keep then 0 else 1

/-- Resolves a name, with at most `enoughDepth` instances under construction. -/
def attempt (c : Context σ) (keep : Bool) (name : String) : Option (Step σ ObjectId) :=
  resolve (construct (c.enoughDepth keep) keep) c name

theorem total_attempt (c : Context σ) (keep : Bool) (name : String) :
    Total c (c.attempt keep name) :=
  total_resolve (fun c' name' hc hl =>
    construct_total _ keep c' name' hl (Nat.add_le_add_right hc _)) (Nat.le_refl _) name

theorem isSome_attempt (c : Context σ) (keep : Bool) (name : String) :
    (c.attempt keep name).isSome := by
  obtain ⟨r, c', h, _⟩ := total_attempt c keep name
  simp [h]

/-- Creates or finds an instance that the context keeps; the answer is a new handle. -/
def create (c : Context σ) (name : String) : Step σ ObjectId :=
  (c.attempt true name).get (isSome_attempt c true name)

/-- Finds a live instance, or creates one that the context does not keep. -/
def createDetached (c : Context σ) (name : String) : Step σ ObjectId :=
  (c.attempt false name).get (isSome_attempt c false name)

theorem attempt_eq_create (c : Context σ) (name : String) :
    c.attempt true name = some (c.create name) := by simp [create]

theorem attempt_eq_createDetached (c : Context σ) (name : String) :
    c.attempt false name = some (c.createDetached name) := by simp [createDetached]

/-- Uses an object as a type.  The handle becomes a pointer of that type, or is given up. -/
def castHandle (c : Context σ) (id : ObjectId) (target : TypeName) : Step σ ObjectId :=
  match c.host.cast id target with
  | .ok () => (.ok id, c)
  | .error e => (.error e, c.release id)

def createAs (c : Context σ) (name : String) (target : TypeName) : Step σ ObjectId :=
  match c.create name with
  | (.error e, c) => (.error e, c)
  | (.ok id, c) => c.castHandle id target

def findAs (c : Context σ) (name : String) (target : TypeName) : Step σ (Option ObjectId) :=
  match c.find name with
  | (none, c) => (.ok none, c)
  | (some id, c) =>
    match c.castHandle id target with
    | (.error e, c) => (.error e, c)
    | (.ok id, c) => (.ok (some id), c)

end Wiring.Context
