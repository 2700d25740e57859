/-
# Wiring.Host -- a running program: its objects, registries, libraries and journal

The host is all that contexts of one program share.  Everything that happens is
entered in its journal: log records, notes of components, and each time an object
is constructed, injected, called or destroyed.

Every function here leaves what it does not name as it was; giving up the last
pointer to an object destroys it at once (`Heap.settle`).
-/
import Wiring.Component.Injection
import Wiring.Heap.Release
import Wiring.Registry.Staging

namespace Wiring

set_option autoImplicit false

open Wiring.Component
open Wiring.Logging (Level Logged Record)

inductive Event where
  | logged (r : Record)
  | noted (text : String)
  | constructed (id : ObjectId)
  | injected (id : ObjectId) (property : String) (value : Given)
  | called (id : ObjectId) (hook : String)
  | destroyed (id : ObjectId)

/-- What a program consists of: its component types, and what the platform finds under a path. -/
structure Program (σ : Type) where
  components : List (Component σ)
  openLibrary : String → Except String (Library σ)

structure Host (σ : Type) where
  program : Program σ
  heap : Heap (Object σ) := Heap.empty
  registry : Registry σ := {}
  loaded : List String := []
  journal : List Event := []

namespace Host

variable {σ : Type}

/-! ## Journal -/

def enter (h : Host σ) (es : List Event) : Host σ := { h with journal := h.journal ++ es }

def record (h : Host σ) (rs : List Record) : Host σ := h.enter (rs.map .logged)

/-- Enters the records of a computation and keeps its value. -/
def take {α : Type} (h : Host σ) (x : Logged α) : α × Host σ := (x.value, h.record x.records)

/-! ## Objects -/

def object? (h : Host σ) (id : ObjectId) : Option (Object σ) := h.heap.find? id

def sight (h : Host σ) : Sight σ := fun id => (h.object? id).map (·.state)

def acquire (h : Host σ) (id : ObjectId) : Host σ := { h with heap := h.heap.acquire id }

/-- Uses an object as a type, through the edges registered for its own type. -/
def cast (h : Host σ) (id : ObjectId) (target : TypeName) : Except Error Unit :=
  match h.object? id with
  | none => .error (.castUnavailable "" target)
  | some o =>
    let type := o.blueprint.typeName
    h.registry.casts.cast target type type type

/-- Wraps a new component, with one handle to it. -/
def allocate (h : Host σ) (blueprint : Blueprint σ) (state : σ) : ObjectId × Host σ :=
  let (id, heap) := h.heap.allocate ⟨blueprint, state⟩
  (id, { h with heap := heap }.enter [.constructed id])

/-- Creates an instance of a class, with one handle to it. -/
def construct (h : Host σ) (className : String) : Except Error ObjectId × Host σ :=
  match h.registry.factories.find className with
  | .error e => (.error e, h)
  | .ok f =>
    match f.make with
    | .error e => (.error e, h)
    | .ok state =>
      let (id, h) := h.allocate f.blueprint state
      (.ok id, h)

variable [Lifecycle σ]

def count (h : Host σ) (id : ObjectId) : Nat := h.heap.count id

/-- What is entered when an object is destroyed. -/
def farewells (destroyed : List (ObjectId × Object σ)) : List Event :=
  destroyed.flatMap fun d =>
    .destroyed d.1 :: (Lifecycle.farewell d.2.state).map .noted

def settle (h : Host σ) (lost : List ObjectId) : Host σ :=
  let (heap, destroyed) := h.heap.settle lost
  { h with heap := heap }.enter (farewells destroyed)

def release (h : Host σ) (id : ObjectId) : Host σ :=
  let (heap, destroyed) := h.heap.release id
  { h with heap := heap }.enter (farewells destroyed)

def releaseAll (h : Host σ) (ids : List ObjectId) : Host σ := ids.foldl release h

/-- The changes of an effect, for objects that keep their blueprints. -/
def changesOf (h : Host σ) (e : Effect σ) : List (ObjectId × Object σ) :=
  e.changes.filterMap fun c => (h.object? c.1).map fun o => (c.1, { o with state := c.2 })

/-- Carries out an action: its changes, its notes, and then the references given up by that. -/
def perform (h : Host σ) (id : ObjectId) (action : Action σ) : Except Error Unit × Host σ :=
  let e := action h.sight id
  let (heap, lost) := h.heap.storeAll (h.changesOf e)
  (e.outcome, ({ h with heap := heap }.enter (e.notes.map .noted)).settle lost)

def inject (h : Host σ) (id : ObjectId) (name : String) (value : Given) :
    Except Error Unit × Host σ :=
  let h := h.enter [.injected id name value]
  match h.object? id with
  | none => (.error (.propertyNotFound name value.kind.word ""), h)
  | some o =>
    match o.blueprint.setter h.cast name value with
    | .error e => (.error e, h)
    | .ok action => h.perform id action

def hasHook (h : Host σ) (id : ObjectId) (hook : String) : Bool :=
  (h.object? id).any fun o => o.blueprint.hasHook hook

def call (h : Host σ) (id : ObjectId) (hook : String) : Except Error Unit × Host σ :=
  let h := h.enter [.called id hook]
  match h.object? id with
  | none => (.error (.hookNotFound hook ""), h)
  | some o =>
    match o.blueprint.hook hook with
    | .error e => (.error e, h)
    | .ok action => h.perform id action

/-! ## Libraries -/

def libraryTarget : String := "weave_core::library"

/-- Runs the entry point of an opened library.  The library counts as loaded from then on, even
if its entry point failed or its classes are refused. -/
def adopt (h : Host σ) (name : String) (l : Library σ) : Except Error Unit × Host σ :=
  match l.entry with
  | .error text =>
    (.error (.libraryLoad name [s!"missing entry symbol {Library.entrySymbol}: {text}"]), h)
  | .ok (status, staged) =>
    let h := { h with loaded := if h.loaded.contains name then h.loaded else h.loaded ++ [name] }
    match status with
    | .ok =>
      let ((result, registry), h) := h.take (h.registry.publish staged)
      (result.map fun _ => (), { h with registry := registry })
    | status =>
      (.error (.libraryLoad name [s!"component entry failed with status {status.word}"]), h)

/-- Tries the directories of a search path in order; `failures` are those so far. -/
def search (h : Host σ) (name : String) (failures : List String) :
    List String → Except Error Unit × Host σ
  | [] => (.error (.libraryLoad name failures), h)
  | dir :: dirs =>
    let path := Library.join dir (Library.fileName name)
    match h.program.openLibrary path with
    | .ok l =>
      (h.record [⟨.info, libraryTarget, s!"Loaded library {name} from {path}"⟩]).adopt name l
    | .error text => search h name (failures ++ [s!"{path}: {text}"]) dirs

/-- Loads a library, unless it is loaded already. -/
def load (h : Host σ) (paths : List String) (name : String) : Except Error Unit × Host σ :=
  if h.loaded.contains name then (.ok (), h)
  else if paths.isEmpty then
    (.error (.libraryLoad name ["no library path has been specified"]), h)
  else h.search name [] paths

/-- The names of the loaded libraries, sorted. -/
def loadedNames (h : Host σ) : List String := h.loaded.mergeSort fun a b => decide (a ≤ b)

/-- Registers the program's own component types. -/
def scan (h : Host σ) : Except Error Unit × Host σ :=
  let ((result, registry), h) := h.take (h.registry.scan h.program.components)
  (result, { h with registry := registry })

end Host

end Wiring
