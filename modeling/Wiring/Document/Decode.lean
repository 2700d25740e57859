/-
# Wiring.Document.Decode -- reading the object graph from a document's tables

Every part of the graph has a fixed list of fields.  It may be written as a table,
where unknown fields are refused, or as an array that gives the fields in order and
whose further items do not count.  Values of some attributes may be numbers or flags,
which count as their texts.
-/
import Wiring.Document.Basic
import Wiring.Config.TomlSource

namespace Wiring.Document

set_option autoImplicit false

open Wiring.Toml (Value Table)

/-! ## Shapes -/

abbrev Fields := List (String × Value)

/-- Reads the fields of a part: a table of known keys, or an array of at least `least` values. -/
def fields? (names : List String) (least : Nat) : Value → Option Fields
  | .table fs => if fs.all fun f => names.contains f.1 then some fs else none
  | .array vs => if least ≤ vs.length then some (names.zip vs) else none
  | _ => none

/-- A text and nothing else. -/
def text? : Value → Option String
  | .text s => some s
  | _ => none

/-- A text, or the text of a number or a flag. -/
def scalar? : Value → Option String
  | .text s => some s
  | .int n => some (toString n)
  | .float x => some (Decimal.floatText x)
  | .flag b => some (Config.Value.flagText b)
  | _ => none

def optional? {α : Type} (read : Value → Option α) (fs : Fields) (name : String) :
    Option (Option α) :=
  match fs.lookup name with
  | none => some none
  | some v => (read v).map some

def required? {α : Type} (read : Value → Option α) (fs : Fields) (name : String) : Option α :=
  (fs.lookup name).bind read

/-- Reads an array, item by item; an absent one is empty. -/
def items? {α : Type} (read : Value → Option α) (fs : Fields) (name : String) : Option (List α) :=
  match fs.lookup name with
  | none => some []
  | some (.array vs) => vs.mapM read
  | some _ => none

/-- Reads a word out of several; it may also be the only key of a table that holds nothing. -/
def word? {α : Type} (words : List (String × α)) : Value → Option α
  | .text s => words.lookup s
  | .table [(k, .table [])] => words.lookup k
  | .table [(k, .array [])] => words.lookup k
  | _ => none

/-! ## Parts -/

def Pair.ofToml? (v : Value) : Option Pair := do
  let fs ← fields? ["key", "text"] 1 v
  return { key := ← optional? text? fs "key", text := ← optional? scalar? fs "text" }

def Property.ofToml? (v : Value) : Option Property := do
  let fs ← fields? ["op", "name", "ref", "number", "text", "time", "list", "pair", "if-yes"] 2 v
  let change ← optional? (word? [("set", Change.set), ("add", Change.add)]) fs "op"
  return {
    change := change.getD .set
    name := ← optional? text? fs "name"
    reference := ← optional? text? fs "ref"
    number := ← optional? scalar? fs "number"
    text := ← optional? scalar? fs "text"
    time := ← optional? scalar? fs "time"
    list := ← optional? text? fs "list"
    pairs := ← items? Pair.ofToml? fs "pair"
    gate := ← optional? scalar? fs "if-yes" }

def Declaration.ofToml? (v : Value) : Option Declaration := do
  let fs ← fields? ["name", "class", "library", "init", "property"] 3 v
  let init ← optional? (word? [("lazy", Init.onDemand), ("early", Init.early)]) fs "init"
  return {
    name := ← required? text? fs "name"
    className := ← optional? text? fs "class"
    library := ← optional? text? fs "library"
    init := init.getD .onDemand
    properties := ← items? Property.ofToml? fs "property" }

def Alias.ofToml? (v : Value) : Option Alias := do
  let fs ← fields? ["name", "ref"] 2 v
  return { name := ← required? text? fs "name", target := ← required? text? fs "ref" }

def Constant.ofToml? (v : Value) : Option Constant := do
  let fs ← fields? ["name", "text", "time", "number", "yes-when"] 1 v
  return {
    name := ← optional? text? fs "name"
    text := ← optional? scalar? fs "text"
    time := ← optional? scalar? fs "time"
    number := ← optional? scalar? fs "number"
    condition := ← optional? text? fs "yes-when" }

/-- Reads a graph from the root table of a document. -/
def ofTable? (root : Table) : Option Document := do
  let fs ← fields? ["constant", "alias", "instance"] 0 (.table root)
  return {
    constants := ← items? Constant.ofToml? fs "constant"
    aliases := ← items? Alias.ofToml? fs "alias"
    instances := ← items? Declaration.ofToml? fs "instance" }

/-- Reads a graph from the text of a document. -/
def parse (content : String) : Except Error Document :=
  match (Toml.written? content).bind ofTable? with
  | some d => .ok d
  | none => .error (Config.malformed "factory document")

end Wiring.Document
