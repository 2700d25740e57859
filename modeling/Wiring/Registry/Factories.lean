/-
# Wiring.Registry.Factories -- who creates instances of a class

A class is bound to the first factory registered under it, for good.  Registering a
factory of the same type again changes nothing; one of another type is refused.
-/
import Wiring.Component.Blueprint
import Wiring.Logging.Record

namespace Wiring

set_option autoImplicit false

open Wiring.Logging (Logged Record)

/-- Creates instances of one type. -/
structure Factory (σ : Type) where
  blueprint : Blueprint σ
  make : Except Error σ

def Factory.typeName {σ : Type} (f : Factory σ) : TypeName := f.blueprint.typeName

def Component.factory {σ : Type} (c : Component σ) : Except Error (Factory σ) := do
  let b ← c.describe
  return ⟨b, c.make⟩

/-- Factories by class, each class once. -/
abbrev Factories (σ : Type) := List (String × Factory σ)

namespace Factories

variable {σ : Type}

def logTarget : String := "weave_core::bean_factory"

def get? (fs : Factories σ) (className : String) : Option (Factory σ) := fs.lookup className

/-- The factory of a class, which must be registered. -/
def find (fs : Factories σ) (className : String) : Except Error (Factory σ) :=
  match fs.get? className with
  | some f => .ok f
  | none => .error (.factoryNotFound className)

/-- The factory of a class, if it is registered and able to make an instance. -/
def produce (fs : Factories σ) (className : String) : Except Error (Factory σ) := do
  let f ← fs.find className
  let _ ← f.make
  return f

def contains (fs : Factories σ) (className : String) : Bool := (fs.get? className).isSome

def classes (fs : Factories σ) : List String :=
  (fs.map (·.1)).mergeSort fun a b => decide (a ≤ b)

/-- The record about a class that another type already has. -/
def rejected (className : String) (existing new : TypeName) : Record :=
  ⟨.warn, logTarget, s!"Class '{className}' already registered for {existing}, rejecting {new}"⟩

def register (fs : Factories σ) (className : String) (f : Factory σ) :
    Logged (Except Error Unit × Factories σ) :=
  match fs.get? className with
  | none => pure (.ok (), fs ++ [(className, f)])
  | some existing =>
    if existing.typeName == f.typeName then pure (.ok (), fs)
    else do
      Logged.write (rejected className existing.typeName f.typeName)
      return (.error (.duplicateFactory className existing.typeName), fs)

/-- Registers factories in order, up to the first that is refused. -/
def registerAll (fs : Factories σ) :
    List (String × Factory σ) → Logged (Except Error Unit × Factories σ)
  | [] => pure (.ok (), fs)
  | (className, f) :: rest => do
    let (result, fs) ← fs.register className f
    match result with
    | .ok () => registerAll fs rest
    | .error e => return (.error e, fs)

/-- Takes over all factories of another registry, by class; stops at the first that is refused.
Returns how many there are. -/
def absorb (fs staged : Factories σ) : Logged (Except Error Nat × Factories σ) := do
  let (result, fs) ← fs.registerAll (staged.mergeSort fun a b => decide (a.1 ≤ b.1))
  return (result.map fun _ => staged.length, fs)

end Factories

end Wiring
