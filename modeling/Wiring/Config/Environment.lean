/-
# Wiring.Config.Environment -- sources by priority, constants above them, and interpolation

A key is looked up among the published constants first, then in the sources from
the highest priority down, earlier added ones first among equals.  `expand`
replaces every `${name}` by the text of its value, which is expanded again, at
most `expansionLimit` times over.
-/
import Wiring.Config.Source
import Wiring.Text.Blank
import Wiring.Text.Quoted
import Wiring.Logging.Record

namespace Wiring.Config

set_option autoImplicit false

open Wiring.Logging (Logged Record)

/-- Prioritised sources and the constants published so far. -/
structure Environment where
  sources : List Source
  constants : Properties

namespace Environment

def empty : Environment := ⟨[], []⟩

/-- Puts a source behind all sources whose priority is not lower. -/
def insertSource (new : Source) : List Source → List Source
  | [] => [new]
  | s :: rest => if s.priority < new.priority then new :: s :: rest else s :: insertSource new rest

def addSource (env : Environment) (s : Source) : Environment :=
  { env with sources := insertSource s env.sources }

/-- An environment with these sources, added in order. -/
def ofSources (ss : List Source) : Environment := ss.foldl addSource empty

/-- Publishes a constant, which shadows every source. -/
def publish (env : Environment) (name : String) (value : Value) : Environment :=
  { env with constants := env.constants.put name value }

def clearConstants (env : Environment) : Environment := { env with constants := [] }

def get? (env : Environment) (key : String) : Option Value :=
  match env.constants.lookup key with
  | some v => some v
  | none => env.sources.findSome? (·.get? key)

def contains (env : Environment) (key : String) : Bool := (env.get? key).isSome

def text? (env : Environment) (key : String) : Option String := (env.get? key).bind (·.text?)

/-- The integer a key holds or denotes. -/
def int? (env : Environment) (key : String) : Option Int := (env.get? key).bind (·.asInt?)

/-- The flag a key holds or denotes. -/
def flag? (env : Environment) (key : String) : Option Bool := (env.get? key).bind (·.asFlag?)

/-- The sources of an environment by name, and how many constants it holds. -/
def describe (env : Environment) : String :=
  Text.record "Environment"
    [("sources", Text.listing (env.sources.map fun s => Text.quote s.name)),
      ("constants", toString env.constants.length)]

/-! ## Interpolation -/

/-- A piece of a text: one character, or a placeholder. -/
inductive Piece where
  | plain (c : Char)
  | hole (name : List Char)
  deriving DecidableEq, Repr

/-- Cuts a text at each `${` and the first `}` behind it; without one the text stays plain. -/
def pieces : List Char → List Piece
  | [] => []
  | '$' :: '{' :: rest =>
    match _h : Text.cutAt '}' rest with
    | some (name, after) => .hole name :: pieces after
    | none => .plain '$' :: pieces ('{' :: rest)
  | c :: rest => .plain c :: pieces rest
termination_by cs => cs.length
decreasing_by
  · have := congrArg List.length (Text.cutAt_eq_some _h)
    simp only [List.length_append, List.length_cons] at this ⊢
    omega
  · simp
  · simp

/-- How deep substituted values are expanded in turn. -/
def expansionLimit : Nat := 16

def logTarget : String := "weave_core::config"

def tooDeep (text : List Char) : Record :=
  ⟨.warn, logTarget,
    "Expansion of '" ++ String.ofList text ++ "' is nested too deeply, leaving it as is"⟩

def placeholder (name : List Char) : List Char := '$' :: '{' :: name ++ ['}']

def joinPieces (f : Piece → Logged (List Char)) : List Piece → Logged (List Char)
  | [] => pure []
  | p :: ps => do
    let head ← f p
    let tail ← joinPieces f ps
    return head ++ tail

/-- Expands a text, substituted values at most `depth - 1` levels down. -/
def expandWithin (env : Environment) : Nat → List Char → Logged (List Char)
  | 0, cs => do
    Logged.write (tooDeep cs)
    return cs
  | depth + 1, cs =>
    joinPieces (fun p =>
      match p with
      | .plain c => pure [c]
      | .hole name =>
        match env.text? (String.ofList name) with
        | some value => expandWithin env depth value.toList
        | none => pure (placeholder name)) (pieces cs)

/-- Replaces every `${name}` by the text of its value; unknown names and placeholders that are not
closed stay as they are. -/
def expand (env : Environment) (text : String) : Logged String := do
  let cs ← env.expandWithin expansionLimit text.toList
  return String.ofList cs

end Environment

end Wiring.Config
