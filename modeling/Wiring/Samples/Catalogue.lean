/-
# Wiring.Samples.Catalogue -- the sample component types

Seven types belong to the sample program: `probe`, `ring`, `link`, `faulty`,
`plain`, `odd` and `unmakeable`.  The others are for trying out refusals
(`impostor`, `twice`), bindings made at run time (`recorder`) and libraries
(`repeater`, `first`, `otherPlain`, `last`).
-/
import Wiring.Component.Blueprint
import Wiring.Component.Injection
import Wiring.Samples.State

namespace Wiring.Sample

set_option autoImplicit false

open Wiring.Component

/-! ## Type names -/

/-- The full name of a type of the sample program. -/
def typeNamed (name : String) : TypeName := "oracle_driver::comps::" ++ name

/-- The interface of components with a label. -/
def nodeType : TypeName := "dyn oracle_driver::comps::Node"

/-- The interface of components with a title. -/
def namedType : TypeName := "dyn oracle_driver::comps::Named"

/-! ## Actions -/

def recorded (property : String) (value : Recorded) : Action Sample :=
  update (withCall property value)

/-- Writes a note that ends with the component's label. -/
def noting (word : String) : Action Sample := fun sight id =>
  { notes := [word ++ ":" ++ (sight id).elim "" label] }

/-- Records the text another component shows of itself, and then keeps a reference to it. -/
def keeping (property : String) (shown : Sample → String) (keep : ObjectId → Sample → Sample)
    (target : ObjectId) : Action Sample := fun sight id =>
  let text := (sight target).elim "" shown
  update (fun s => keep target (withCall property (.text text) s)) sight id

/-! ## Setters of single types -/

def onProbe (f : Probe → Probe) : Sample → Sample
  | probe p => probe (f p)
  | s => s

def onRing (f : Ring → Ring) : Sample → Sample
  | ring r => ring (f r)
  | s => s

def onLink (f : Link → Link) : Sample → Sample
  | link l => link (f l)
  | s => s

def onFaulty (f : Faulty → Faulty) : Sample → Sample
  | faulty x => faulty (f x)
  | s => s

def onRepeater (f : Repeater → Repeater) : Sample → Sample
  | repeater r => repeater (f r)
  | s => s

/-- Adds to what an odd component has seen. -/
def seeing (value : Recorded) : Action Sample :=
  update fun
    | odd seen => odd (seen ++ [value])
    | s => s

/-- Accepts any text but three, each of which fails in its own way. -/
def setStrict (s : String) : Action Sample :=
  match s with
  | "!plain" => fails (.failure "strict rejected '!plain'")
  | "!wrapped" => fails (.wrapped (.syntaxFault "inner"))
  | "!context" => fails (.inContext (.failure "inner") "outer")
  | s => recorded "strict" (.text s)

/-- Accepts any text but the empty one. -/
def setGuarded (s : String) : Action Sample :=
  if s.isEmpty then fails (.wrongInput "guarded refuses nothing")
  else recorded "guarded" (.text s)

/-- Fails, naming the component. -/
def refuse : Action Sample := fun sight id =>
  { outcome := .error (.failure ((sight id).elim "" label ++ " refuses")) }

def faultyDone : Action Sample := both (noting "done") fun sight id =>
  match sight id with
  | some (faulty f) =>
    match f.doneMode with
    | "state" => { outcome := .error (.illegalState "refusing to start") }
    | "config" => { outcome := .error (.config "not ready") }
    | "other" => { outcome := .error (.failure "other failure") }
    | _ => {}
  | _ => {}

def dropNext : Action Sample := update fun
  | ring r => ring { r with next := none }
  | faulty f => faulty { f with next := none }
  | s => s

def faultyCleanup : Action Sample := both (noting "cleanup") fun sight id =>
  match sight id with
  | some (faulty f) =>
    match f.cleanupMode with
    | "plain" => { outcome := .error (.failure "cleanup failed") }
    | "context" => { outcome := .error (.inContext (.failure "inner") "outer") }
    | "wrapped" => { outcome := .error (.wrapped (.illegalState "wrapped")) }
    | "release-then-fail" =>
      { dropNext sight id with outcome := .error (.failure "released") }
    | _ => {}
  | _ => {}

/-- A repeater must have something to do. -/
def repeaterDone : Action Sample := fun sight id =>
  match sight id with
  | some (repeater r) =>
    if r.times < 1 then
      { outcome := .error (.failure s!"'{r.phrase}' must be repeated at least once") }
    else {}
  | _ => {}

/-! ## Types -/

def recordedInteger (property : String) (t : IntegerType) : String × Binding Sample :=
  (property, .integer t fun n => recorded property (.int n))

/-- The type with a property of every kind. -/
def probeType : Component Sample where
  className := "oracle::Probe"
  typeName := typeNamed "Probe"
  interfaces := [nodeType, namedType]
  make := .ok (probe {})
  wanted := [
    ("label", .text fun s => update (onProbe fun p => { p with label := s })),
    ("note", .text fun s => recorded "note" (.text s)),
    ("strict", .text setStrict),
    ("guarded", .text setGuarded),
    ("num", .number fun x => recorded "num" (.number x)),
    recordedInteger "i8" (.signed 8), recordedInteger "i16" (.signed 16),
    recordedInteger "i32" (.signed 32), recordedInteger "i64" (.signed 64),
    recordedInteger "u8" (.unsigned 8), recordedInteger "u16" (.unsigned 16),
    recordedInteger "u32" (.unsigned 32), recordedInteger "u64" (.unsigned 64),
    ("flag", .boolean fun b => recorded "flag" (.flag b)),
    ("mark", .character fun c => recorded "mark" (.text c.toString)),
    ("time", .time fun n => recorded "time" (.int n)),
    ("list", .list fun items => recorded "list" (.list items)),
    ("map", .map fun es => recorded "map" (.entries es)),
    ("any", .reference nodeType
      (keeping "any" label fun id => onProbe fun p => { p with any := some id })),
    ("named", .reference namedType
      (keeping "named" title fun id => onProbe fun p => { p with named := some id })),
    ("twin", .reference (typeNamed "Probe")
      (keeping "twin" label fun id => onProbe fun p => { p with twin := some id })),
    ("weak", .weakReference nodeType
      (keeping "weak" label fun id => onProbe fun p => { p with weak := some id })),
    ("done", .hook (noting "done")),
    ("cleanup", .hook (noting "cleanup")),
    ("release", .hook (update (onProbe fun p =>
      { p with any := none, named := none, twin := none, weak := none }))),
    ("refuse", .hook refuse)]

/-- The type that gives up its reference when cleaned up. -/
def ringType : Component Sample where
  className := "oracle::Ring"
  typeName := typeNamed "Ring"
  interfaces := [nodeType, namedType]
  make := .ok (ring {})
  wanted := [
    ("label", .text fun s => update (onRing fun r => { r with label := s })),
    ("next", .reference nodeType fun id => update (onRing fun r => { r with next := some id })),
    ("done", .hook (noting "done")),
    ("cleanup", .hook (both (noting "cleanup") dropNext))]

/-- The type without hooks. -/
def linkType : Component Sample where
  className := "oracle::Link"
  typeName := typeNamed "Link"
  interfaces := [nodeType]
  make := .ok (link {})
  wanted := [
    ("label", .text fun s => update (onLink fun l => { l with label := s })),
    ("next", .reference nodeType fun id => update (onLink fun l => { l with next := some id })),
    ("peer", .weakReference (typeNamed "Link") fun id =>
      update (onLink fun l => { l with peer := some id }))]

/-- The type whose hooks fail on demand. -/
def faultyType : Component Sample where
  className := "oracle::Fail"
  typeName := typeNamed "Fail"
  interfaces := [nodeType]
  make := .ok (faulty {})
  wanted := [
    ("label", .text fun s => update (onFaulty fun f => { f with label := s })),
    ("done-mode", .text fun s => update (onFaulty fun f => { f with doneMode := s })),
    ("cleanup-mode", .text fun s => update (onFaulty fun f => { f with cleanupMode := s })),
    ("next", .reference nodeType fun id =>
      update (onFaulty fun f => { f with next := some id })),
    ("done", .hook faultyDone),
    ("cleanup", .hook faultyCleanup)]

/-- The type without properties. -/
def plainType : Component Sample where
  className := "oracle::Plain"
  typeName := typeNamed "Plain"
  make := .ok bare
  wanted := []

/-- The type whose properties go by the names of hooks. -/
def oddType : Component Sample where
  className := "oracle::Odd"
  typeName := typeNamed "Odd"
  make := .ok (odd [])
  wanted := [
    ("done", .text fun s => seeing (.text s)),
    ("cleanup", .number fun x => seeing (.number x))]

/-- The type that cannot be constructed. -/
def unmakeableType : Component Sample where
  className := "oracle::FailCreate"
  typeName := typeNamed "FailCreate"
  make := .error (.failure "cannot construct")
  wanted := []

/-- Another type that claims the class of `plainType`. -/
def impostorType : Component Sample where
  className := "oracle::Plain"
  typeName := typeNamed "Impostor"
  make := .ok bare
  wanted := []

/-- A type that binds one name twice. -/
def twiceType : Component Sample where
  className := "oracle::Twice"
  typeName := typeNamed "Twice"
  make := .ok bare
  wanted := [("x", .text fun _ => update id), ("x", .hook (update id))]

/-- The bindings that a recorder can be given, by the name of their kind. -/
def recorderBinding (name kind : String) : Option (Binding Sample) :=
  match kind with
  | "number" => some (.number fun x => recorded name (.number x))
  | "boolean" => some (.boolean fun b => recorded name (.flag b))
  | "text" => some (.text fun s => recorded name (.text s))
  | "character" => some (.character fun c => recorded name (.text c.toString))
  | "time" => some (.time fun n => recorded name (.int n))
  | "list" => some (.list fun items => recorded name (.list items))
  | "map" => some (.map fun es => recorded name (.entries es))
  | "node" => some (.reference nodeType (keeping name label fun _ s => s))
  | "named" => some (.reference namedType (keeping name title fun _ s => s))
  | "probe" => some (.reference (typeNamed "Probe") (keeping name label fun _ s => s))
  | "dyn" => some (.reference (typeNamed "Dyn") fun target sight id =>
      let n := match sight target with
        | some (recorder calls) => calls.length
        | _ => 0
      recorded name (.count n) sight id)
  | "weak-node" => some (.weakReference nodeType (keeping name label fun _ s => s))
  | "hook" => some (.hook (recorded name (.text "called")))
  | "failing-hook" => some (.hook fun sight id =>
      { recorded name (.text "called") sight id with outcome := .error (.failure "hook failed") })
  | kind => (IntegerType.ofName? kind).map fun t => .integer t fun n => recorded name (.int n)

/-- A type with the given bindings, which records every call. -/
def recorderType (wanted : List (String × Binding Sample)) : Component Sample where
  className := "oracle::Dyn"
  typeName := typeNamed "Dyn"
  make := .ok (recorder [])
  wanted := wanted

def repeaterType : Component Sample where
  className := "echo::Repeater"
  typeName := "echo_plugin::Repeater"
  make := .ok (repeater {})
  wanted := [
    ("phrase", .text fun s => update (onRepeater fun r => { r with phrase := s })),
    ("times", .integer (.signed 32) fun n =>
      update (onRepeater fun r => { r with times := n })),
    ("done", .hook repeaterDone)]

/-- A type without properties, from a library. -/
def libraryType (className typeName : String) : Component Sample where
  className := className
  typeName := typeName
  make := .ok bare
  wanted := []

def catalogue : List (Component Sample) :=
  [probeType, ringType, linkType, faultyType, plainType, oddType, unmakeableType]

/-- All types with a name of their own, recorders without bindings. -/
def allTypes : List (String × Component Sample) :=
  [("Probe", probeType), ("Ring", ringType), ("Link", linkType), ("Fail", faultyType),
    ("Plain", plainType), ("Odd", oddType), ("FailCreate", unmakeableType),
    ("Impostor", impostorType), ("Twice", twiceType), ("Dyn", recorderType [])]

/-- The phrase of a repeater, as often as it says. -/
def echo : Sample → String
  | repeater r => " ".intercalate (List.replicate r.times.toNat r.phrase)
  | _ => ""

end Wiring.Sample
