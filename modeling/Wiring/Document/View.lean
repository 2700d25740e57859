/-
# Wiring.Document.View -- what a document says about one name

A view answers questions about one name, with `${...}` replaced in every answer.
An entry applies if it has no gate or if its gate expands to one of `openWords`.
-/
import Wiring.Document.Basic
import Wiring.Config.Environment
import Wiring.Error

namespace Wiring.Document

set_option autoImplicit false

open Wiring.Config (Environment)
open Wiring.Logging (Logged)

/-- The gate texts that let an entry apply. -/
def openWords : List String := ["y", "yes", "true"]

/-- One name, seen in a document and an environment. -/
structure View where
  name : String
  document : Document
  environment : Environment

namespace View

def declaration? (v : View) : Option Declaration := v.document.find? v.name

/-- Whether a class is given and more than blanks. -/
def namesClass (d : Declaration) : Bool :=
  match d.className with
  | some c => !Text.isAllBlank c
  | none => false

/-- The declaration of the name, which must name a class. -/
def validated (v : View) : Except Error Declaration :=
  match v.declaration? with
  | none => .error (.instanceNotFound v.name)
  | some d => if namesClass d then .ok d else .error (.classNotSpecified v.name)

/-- Expands a text that may be absent; absent is empty. -/
def expandOptional (v : View) (text : Option String) : Logged String :=
  match text with
  | some s => v.environment.expand s
  | none => pure ""

/-- The class of the name, empty if none is declared. -/
def className (v : View) : Logged String := v.expandOptional (v.declaration?.bind (·.className))

/-- The library of the name, empty if none is declared. -/
def library (v : View) : Logged String := v.expandOptional (v.declaration?.bind (·.library))

/-- The name that the name is an alias of, empty if it is no alias. -/
def aliasTarget (v : View) : Logged (Except Error String) :=
  match v.document.alias? v.name with
  | none => pure (.ok "")
  | some a => do
    let target ← v.environment.expand a.target
    return if target == v.name then .error (.illegalState s!"alias {v.name} refers to itself")
      else .ok target

def init (v : View) : Init := (v.declaration?.map (·.init)).getD .onDemand

/-- Whether the gate of an entry lets it apply. -/
def applies (v : View) (p : Property) : Logged Bool :=
  match p.gate with
  | none => pure true
  | some gate => do
    let word ← v.environment.expand gate
    return openWords.contains word

/-- The entries that apply, in order. -/
def applying (v : View) : List Property → Logged (List Property)
  | [] => pure []
  | p :: ps => do
    let keep ← v.applies p
    let rest ← v.applying ps
    return if keep then p :: rest else rest

/-- The entries of the name that apply, in order. -/
def properties (v : View) : Logged (List Property) :=
  v.applying ((v.declaration?.map (·.properties)).getD [])

end View

end Wiring.Document
