/-
# Wiring.Registry.Embedding -- libraries in programs whose states are of another type

A library is written for component states of its own type.  An embedding of these
states into those of a program makes the library one of the program's: its actions
see, of all live objects, only those that come from the embedding.
-/
import Wiring.Registry.Staging

namespace Wiring

set_option autoImplicit false

open Wiring.Component

/-- A type of states as a part of another one. -/
structure Embedding (α β : Type) where
  wrap : α → β
  unwrap? : β → Option α
  unwrap?_wrap : ∀ a, unwrap? (wrap a) = some a

namespace Embedding

variable {α β : Type} (e : Embedding α β)

def action (a : Action α) : Action β := fun sight id =>
  let x := a (fun i => (sight i).bind e.unwrap?) id
  { changes := x.changes.map fun c => (c.1, e.wrap c.2), notes := x.notes, outcome := x.outcome }

def binding : Binding α → Binding β
  | .reference target set => .reference target fun id => e.action (set id)
  | .weakReference target set => .weakReference target fun id => e.action (set id)
  | .number set => .number fun x => e.action (set x)
  | .integer type set => .integer type fun n => e.action (set n)
  | .boolean set => .boolean fun b => e.action (set b)
  | .text set => .text fun s => e.action (set s)
  | .character set => .character fun c => e.action (set c)
  | .time set => .time fun n => e.action (set n)
  | .list set => .list fun items => e.action (set items)
  | .map set => .map fun entries => e.action (set entries)
  | .hook call => .hook (e.action call)

def blueprint (b : Blueprint α) : Blueprint β :=
  ⟨b.className, b.typeName, b.bindings.map fun p => (p.1, e.binding p.2)⟩

def factory (f : Factory α) : Factory β := ⟨e.blueprint f.blueprint, f.make.map e.wrap⟩

def registry (r : Registry α) : Registry β :=
  ⟨r.factories.map fun p => (p.1, e.factory p.2), r.casts⟩

def library (l : Library α) : Library β := ⟨l.entry.map fun x => (x.1, e.registry x.2)⟩

end Embedding

end Wiring
