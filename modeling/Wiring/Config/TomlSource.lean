/-
# Wiring.Config.TomlSource -- properties from a document of nested tables

A leaf is any value that is no table; it goes by the keys on the way to it, joined
with dots, and empty keys at the start of the way add nothing.  Where two leaves
share a path the one read later wins: a table's own leaves are read first, then its
tables from the last key to the first.

The tables that are still to be read wait in a list, and each one that is read puts its
own tables in front.  A step reads one table, so there are as many as the document has.
-/
import Wiring.Config.Source
import Wiring.Toml.Document
import Wiring.Error

namespace Wiring.Config

set_option autoImplicit false

mutual

/-- The configuration value of a document's value. -/
def Value.ofToml : Toml.Value → Value
  | .text s => .text s
  | .int n => .int n
  | .float x => .float x
  | .flag b => .flag b
  | .moment s => .text s
  | .array vs => .list (Value.allOfToml vs)
  | .table fs => .table (Value.fieldsOfToml fs)

def Value.allOfToml : List Toml.Value → List Value
  | [] => []
  | v :: vs => Value.ofToml v :: Value.allOfToml vs

def Value.fieldsOfToml : List (String × Toml.Value) → List (String × Value)
  | [] => []
  | (k, v) :: fs => (k, Value.ofToml v) :: Value.fieldsOfToml fs

end

def joinPath (path key : String) : String := if path.isEmpty then key else path ++ "." ++ key

/-! ## Counting tables -/

mutual

/-- How many tables a value consists of; those within arrays do not count. -/
def tablesOf : Toml.Value → Nat
  | .table fields => tablesIn fields + 1
  | _ => 0

def tablesIn : List (String × Toml.Value) → Nat
  | [] => 0
  | (_, v) :: rest => tablesOf v + tablesIn rest

end

/-! ## Reading table by table -/

/-- A document on its way to properties: the tables still to be read, the next one first, each with
its path, and the properties so far. -/
structure Flattening where
  pending : List (String × Toml.Table)
  properties : Properties := []

namespace Flattening

/-- At first, the whole document is still to be read. -/
def start (root : Toml.Table) : Flattening := { pending := [("", root)] }

/-- Reads one field of the table with a path: a table is to be read next, all else is a property. -/
def field (path : String) (f : Flattening) (e : String × Toml.Value) : Flattening :=
  match e.2 with
  | .table fields => { f with pending := (joinPath path e.1, fields) :: f.pending }
  | leaf => { f with properties := f.properties.put (joinPath path e.1) (Value.ofToml leaf) }

/-- Reads the next table. -/
def step? (f : Flattening) : Option Flattening :=
  match f.pending with
  | [] => none
  | (path, fields) :: rest => some (fields.foldl (field path) { f with pending := rest })

/-- How many tables are still to be read. -/
def remaining (f : Flattening) : Nat := f.pending.foldr (fun p n => tablesIn p.2 + 1 + n) 0

theorem remaining_field (path : String) (f : Flattening) (e : String × Toml.Value) :
    (field path f e).remaining = f.remaining + tablesOf e.2 := by
  obtain ⟨key, value⟩ := e
  cases value with
  | table fields => simp only [field, remaining, List.foldr_cons, tablesOf]; omega
  | _ => rfl

theorem remaining_fields (path : String) (fields : Toml.Table) (f : Flattening) :
    (fields.foldl (field path) f).remaining = f.remaining + tablesIn fields := by
  induction fields generalizing f with
  | nil => simp [tablesIn]
  | cons e rest ih =>
    rw [List.foldl_cons, ih, remaining_field, tablesIn]
    omega

/-- A step reads one table. -/
theorem remaining_step {f g : Flattening} (step : f.step? = some g) :
    f.remaining = g.remaining + 1 := by
  unfold step? at step
  split at step
  · cases step
  · next path fields rest waiting =>
    cases step
    rw [remaining_fields]
    simp only [remaining, waiting, List.foldr_cons]
    omega

/-- The properties once all tables are read. -/
def finish (f : Flattening) : Properties :=
  match _more : f.step? with
  | none => f.properties
  | some g => g.finish
termination_by f.remaining
decreasing_by
  have := remaining_step _more
  omega

end Flattening

/-- The priority of a document's properties, unless another is given. -/
def documentPriority : Int := 0

/-- What is reported about a text that is no document; nothing depends on what is wrong. -/
def malformed (what : String) : Error := .config s!"failed to parse {what}: malformed document"

def Source.ofTable (name : String) (root : Toml.Table) (priority : Int) : Source :=
  ⟨name, priority, .properties (Flattening.start root).finish⟩

def Source.ofToml (name content : String) (priority : Int) : Except Error Source :=
  match Toml.parse? content with
  | some root => .ok (Source.ofTable name root priority)
  | none => .error (malformed "TOML")

end Wiring.Config
