/-
# Wiring.Session.Basic -- working with a context by hand

A session holds a context, named slots with handles of its own, and named pointers
made by casts.  Every step that returns a handle either keeps it in a slot or gives
it up again; what happened is read off the journal.
-/
import Wiring.Context.Build
import Wiring.Samples.Platform

namespace Wiring

set_option autoImplicit false

open Wiring.Component
open Wiring.Logging (Level Record)

/-- A context, if it is still there, with handles and pointers kept by name. -/
structure Session where
  context : Context Sample
  hasContext : Bool
  slots : Keyed ObjectId := []
  pointers : Keyed ObjectId := []

/-- What is shown of a returned handle: the class and the strong count at that time. -/
structure HandleForm where
  className : String
  references : Nat
  deriving DecidableEq, Repr

/-- What is shown of a pointer to a labelled component. -/
structure NodeForm where
  label : String
  references : Nat
  deriving DecidableEq, Repr

/-- What a cast shows: a node, or a text. -/
inductive CastForm where
  | node (form : NodeForm)
  | text (s : String)
  deriving DecidableEq, Repr

namespace Session

def host (s : Session) : Host Sample := s.context.host

def withHost (s : Session) (h : Host Sample) : Session :=
  { s with context := { s.context with host := h } }

def idle (h : Host Sample) : Session :=
  ⟨{ host := h, document := {}, environment := .empty }, false, [], []⟩

/-- The events since the last time, which are taken out of the journal. -/
def takeEvents (s : Session) : List Event × Session :=
  (s.host.journal, s.withHost { s.host with journal := [] })

def notesOf (es : List Event) : List String :=
  es.filterMap fun
    | .noted text => some text
    | _ => none

def recordsOf (es : List Event) : List Record :=
  es.filterMap fun
    | .logged r => some r
    | _ => none

/-- The state of an object, nothing if it is gone. -/
def state (s : Session) (id : ObjectId) : Sample := (s.host.sight id).getD .bare

def slot (s : Session) (name : String) : ObjectId := (s.slots.lookup name).getD s.host.heap.next

/-- Gives up a pointer to an object. -/
def drop (s : Session) (id : ObjectId) : Session := s.withHost (s.host.release id)

/-- Keeps a handle in a slot, or gives it up. -/
def keep (s : Session) (name : Option String) (id : ObjectId) : Session :=
  match name with
  | none => s.drop id
  | some n =>
    let former := s.slots.lookup n
    let s := { s with slots := s.slots.put n id }
    former.elim s s.drop

/-- Keeps a pointer by name, or gives it up. -/
def keepPointer (s : Session) (name : Option String) (id : ObjectId) : Session :=
  match name with
  | none => s.drop id
  | some n =>
    let former := s.pointers.lookup n
    let s := { s with pointers := s.pointers.put n id }
    former.elim s s.drop

def handleForm (s : Session) (id : ObjectId) : HandleForm :=
  ⟨(s.host.object? id).elim "" (·.blueprint.className), s.host.count id⟩

/-- Shows a handle and then keeps it or gives it up. -/
def present (s : Session) (name : Option String) (id : ObjectId) : HandleForm × Session :=
  (s.handleForm id, s.keep name id)

/-- Carries out a step of the context. -/
def onContext {α : Type} (s : Session) (step : Context Sample → α × Context Sample) :
    α × Session :=
  let (a, c) := step s.context
  (a, { s with context := c })

/-- Shows the handle a step returns. -/
def showStep (s : Session) (name : Option String)
    (step : Context Sample → Context.Step Sample ObjectId) : Except Error HandleForm × Session :=
  match s.onContext step with
  | (.error e, s) => (.error e, s)
  | (.ok id, s) =>
    let (form, s) := s.present name id
    (.ok form, s)

/-! ## Asking the context -/

def create (s : Session) (as : Option String) (name : String) :
    Except Error HandleForm × Session := s.showStep as (·.create name)

/-- Creates an instance that the context does not keep. -/
def createDetached (s : Session) (as : Option String) (name : String) :
    Except Error HandleForm × Session := s.showStep as (·.createDetached name)

def find (s : Session) (as : Option String) (name : String) : Option HandleForm × Session :=
  match s.onContext (·.find name) with
  | (none, s) => (none, s)
  | (some id, s) =>
    let (form, s) := s.present as id
    (some form, s)

/-- The type that a word stands for. -/
def typeOf (word : String) : TypeName :=
  match word with
  | "Node" => Sample.nodeType
  | "Named" => Sample.namedType
  | word => Sample.typeNamed word

/-- What a component shows of itself when it is used as a type. -/
def shownAs (word : String) (state : Sample) : String :=
  match word with
  | "Named" => state.title
  | "Plain" => "plain"
  | _ => state.label

/-- Shows a pointer made by a cast; only pointers to labelled components can be kept. -/
def showCast (s : Session) (as : Option String) (word : String) (id : ObjectId) :
    CastForm × Session :=
  match word with
  | "Node" => (.node ⟨(s.state id).label, s.host.count id⟩, s.keepPointer as id)
  | word => (.text (shownAs word (s.state id)), s.drop id)

def createAs (s : Session) (as : Option String) (name word : String) :
    Except Error CastForm × Session :=
  match s.onContext (·.createAs name (typeOf word)) with
  | (.error e, s) => (.error e, s)
  | (.ok id, s) =>
    let (form, s) := s.showCast as word id
    (.ok form, s)

def findAs (s : Session) (as : Option String) (name word : String) :
    Except Error (Option CastForm) × Session :=
  match s.onContext (·.findAs name (typeOf word)) with
  | (.error e, s) => (.error e, s)
  | (.ok none, s) => (.ok none, s)
  | (.ok (some id), s) =>
    let (form, s) := s.showCast as word id
    (.ok (some form), s)

def dropContext (s : Session) : Session :=
  if s.hasContext then { s with context := s.context.close, hasContext := false } else s

/-! ## Handles -/

/-- Creates an instance of a class, without a context. -/
def new (s : Session) (as : Option String) (className : String) :
    Except Error HandleForm × Session :=
  s.showStep as (·.onHost (·.construct className))

/-- Makes a recorder with the given bindings, without a factory. -/
def newRecorder (s : Session) (as : Option String)
    (wanted : List (String × Binding Sample)) : Except Error HandleForm × Session :=
  match (Sample.recorderType wanted).describe with
  | .error e => (.error e, s)
  | .ok b =>
    s.showStep as (·.onHost fun h =>
      let (id, h) := h.allocate b (.recorder [])
      (.ok id, h))

def copy (s : Session) (as : Option String) (slot : String) : HandleForm × Session :=
  let id := s.slot slot
  (s.withHost (s.host.acquire id)).present as id

/-- Gives up the handle of a slot, or else a pointer of that name. -/
def release (s : Session) (name : String) : Session :=
  match s.slots.lookup name with
  | some id => { s with slots := s.slots.filter (·.1 != name) }.drop id
  | none =>
    match s.pointers.lookup name with
    | some id => { s with pointers := s.pointers.filter (·.1 != name) }.drop id
    | none => s

/-- The strong count of the object of a slot, or else of a pointer of that name. -/
def references (s : Session) (name : String) : Nat :=
  (s.slots.lookup name <|> s.pointers.lookup name).elim 0 s.host.count

def cast (s : Session) (as : Option String) (slot word : String) :
    Except Error CastForm × Session :=
  let id := s.slot slot
  match s.host.cast id (typeOf word) with
  | .error e => (.error e, s)
  | .ok () =>
    let (form, s) := (s.withHost (s.host.acquire id)).showCast as word id
    (.ok form, s)

def blueprint (s : Session) (slot : String) : Blueprint Sample :=
  (s.host.object? (s.slot slot)).elim ⟨"", "", []⟩ (·.blueprint)

/-- Whether the object of a slot is of a type of the sample program. -/
def isOfType (s : Session) (slot word : String) : Bool :=
  (s.blueprint slot).typeName == typeOf word

def describe (s : Session) (slot : String) : String :=
  let b := s.blueprint slot
  Text.record "BeanHandle"
    [("class_name", Text.quote b.className), ("type_name", Text.quote b.typeName),
      ("reference_count", toString (s.references slot))]

def inject (s : Session) (slot property : String) (value : Given) : Except Error Unit × Session :=
  s.onContext (·.onHost (·.inject (s.slot slot) property value))

def call (s : Session) (slot hook : String) : Except Error Unit × Session :=
  s.onContext (·.onHost (·.call (s.slot slot) hook))

/-- The end of a session: the context goes, then the pointers and then the handles, each by
name. -/
def close (s : Session) : Session :=
  let byName (l : Keyed ObjectId) : List ObjectId :=
    (l.mergeSort fun a b => decide (a.1 ≤ b.1)).map (·.2)
  let s := s.dropContext
  let s := { s with pointers := [] }.withHost (s.host.releaseAll (byName s.pointers))
  { s with slots := [] }.withHost (s.host.releaseAll (byName s.slots))

/-! ## Libraries -/

/-- Loads a library from the search path of the context. -/
def load (s : Session) (name : String) : Except Error Unit × Session :=
  s.onContext fun c => c.onHost (·.load c.paths name)

def withPaths (s : Session) (paths : List String) : Session :=
  { s with context := { s.context with paths := paths } }

/-! ## Building -/

def build (h : Host Sample) (environment : Config.Environment) (document : Document)
    (options : Context.Options) : Except Error Unit × Session :=
  let (result, c) := Context.build h environment document options
  match result with
  | .ok () => (.ok (), ⟨c, true, [], []⟩)
  | .error e => (.error e, ⟨c, false, [], []⟩)

end Session

end Wiring
