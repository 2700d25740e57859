/-
# Wiring.Logging.Record -- log records, and computations that write some

A `Record` is what a subscriber sees: a level, the part of the program it comes
from and a text.  `Logged α` is a value together with the records written on the
way to it, oldest first; binding two of them concatenates the records.
-/
namespace Wiring.Logging

set_option autoImplicit false

/-- How severe a record is, least severe first. -/
inductive Level where
  | trace
  | debug
  | info
  | warn
  | error
  deriving DecidableEq, Repr

/-- The rank of a level, greater ones being more severe. -/
def Level.rank : Level → Nat
  | .trace => 0
  | .debug => 1
  | .info => 2
  | .warn => 3
  | .error => 4

structure Record where
  level : Level
  target : String
  message : String
  deriving DecidableEq, Repr

/-- A value and the records written on the way to it. -/
structure Logged (α : Type) where
  value : α
  records : List Record

namespace Logged

variable {α β : Type}

def just (a : α) : Logged α := ⟨a, []⟩

/-- Continues with a value, keeping its records in front. -/
def andThen (x : Logged α) (f : α → Logged β) : Logged β :=
  ⟨(f x.value).value, x.records ++ (f x.value).records⟩

/-- A record and nothing else. -/
def write (r : Record) : Logged Unit := ⟨(), [r]⟩

instance : Monad Logged where
  pure := just
  bind := andThen

@[simp] theorem value_pure (a : α) : (pure a : Logged α).value = a := rfl

@[simp] theorem records_pure (a : α) : (pure a : Logged α).records = [] := rfl

@[simp] theorem value_bind (x : Logged α) (f : α → Logged β) :
    (x >>= f).value = (f x.value).value := rfl

@[simp] theorem records_bind (x : Logged α) (f : α → Logged β) :
    (x >>= f).records = x.records ++ (f x.value).records := rfl

instance : LawfulMonad Logged :=
  LawfulMonad.mk' Logged
    (fun _ => by simp [Functor.map, andThen, just])
    (fun _ _ => by simp [pure, bind, andThen, just])
    (fun _ _ _ => by simp [bind, andThen, List.append_assoc])

end Logged

end Wiring.Logging
