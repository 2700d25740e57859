/-
# Wiring.Samples.State -- component states for trying out the container

The sample components record what is injected into them, refer to each other in all
the ways the container knows, and fail on demand.  `Sample` is the state of any of
them.
-/
import Wiring.Component.Blueprint

namespace Wiring

set_option autoImplicit false

inductive Recorded where
  | text (s : String)
  | int (n : Int)
  | number (x : Float)
  | flag (b : Bool)
  | list (items : List String)
  | entries (es : List (String × String))
  | count (n : Nat)

/-- A property that was set and the value it was set to. -/
abbrev Call := String × Recorded

/-- A component with a property of every kind; it records its calls. -/
structure Probe where
  label : String := ""
  calls : List Call := []
  any : Option ObjectId := none
  named : Option ObjectId := none
  twin : Option ObjectId := none
  weak : Option ObjectId := none

/-- A component that refers to a next one and gives it up when cleaned up. -/
structure Ring where
  label : String := ""
  next : Option ObjectId := none

/-- A component that refers to a next one for good, and weakly to a peer. -/
structure Link where
  label : String := "fresh"
  next : Option ObjectId := none
  peer : Option ObjectId := none

/-- A component whose hooks fail on demand. -/
structure Faulty where
  label : String := ""
  doneMode : String := ""
  cleanupMode : String := ""
  next : Option ObjectId := none

structure Repeater where
  phrase : String := ""
  times : Int := 0

/-- The state of a sample component. -/
inductive Sample where
  | probe (p : Probe)
  | ring (r : Ring)
  | link (l : Link)
  | faulty (f : Faulty)
  | bare
  | odd (seen : List Recorded)
  | recorder (calls : List Call)
  | repeater (r : Repeater)

namespace Sample

def label : Sample → String
  | probe p => p.label
  | ring r => r.label
  | link l => l.label
  | faulty f => f.label
  | _ => ""

def title : Sample → String
  | probe p => "probe " ++ p.label
  | ring r => "ring " ++ r.label
  | _ => ""

def held : Sample → List ObjectId
  | probe p => p.any.toList ++ p.named.toList ++ p.twin.toList
  | ring r => r.next.toList
  | link l => l.next.toList
  | faulty f => f.next.toList
  | _ => []

def farewell : Sample → List String
  | probe p => ["drop:" ++ p.label]
  | ring r => ["drop:" ++ r.label]
  | link l => ["drop:" ++ l.label]
  | faulty f => ["drop:" ++ f.label]
  | _ => []

/-- Adds to the calls of a component that records them. -/
def withCall (property : String) (value : Recorded) : Sample → Sample
  | probe p => probe { p with calls := p.calls ++ [(property, value)] }
  | recorder calls => recorder (calls ++ [(property, value)])
  | s => s

end Sample

instance : Component.Lifecycle Sample := ⟨Sample.held, Sample.farewell⟩

end Wiring
