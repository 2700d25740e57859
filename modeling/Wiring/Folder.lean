/-
# Wiring.Folder -- a directory tree, and walking paths in it

A path is walked from the directory, name by name; only its last name may be a file.
Of what lies outside the directory nothing is known but that it is made of
directories, so every name there is missing.  Names and paths are limited in size.
-/
import Wiring.Text.Blank

namespace Wiring

set_option autoImplicit false

/-- Why a path leads nowhere. -/
inductive PathFault where
  | missing
  | notDirectory
  | tooLong
  deriving DecidableEq, Repr

namespace PathFault

def text : PathFault → String
  | missing => "No such file or directory"
  | notDirectory => "Not a directory"
  | tooLong => "File name too long"

/-- The number that the platform has for a fault. -/
def code : PathFault → Nat
  | missing => 2
  | notDirectory => 20
  | tooLong => 36

end PathFault

/-- Files, each with what is known of it, by the names on the way to them. -/
abbrev Folder (α : Type) := List (List String × α)

/-- Where a walk has come to. -/
inductive Place (α : Type) where
  | outside
  | inside (path : List String)
  | file (content : α)

namespace Folder

variable {α : Type}

/-- How many bytes a name may have. -/
def nameLimit : Nat := 255

/-- How many bytes a path may have. -/
def pathLimit : Nat := 4095

/-- Whether a name stands for the directory it is looked up in, or for the one above. -/
def isDots (name : String) : Bool := name.isEmpty || name == "." || name == ".."

/-- The place that a name stands for in a directory of the folder. -/
def enter (f : Folder α) (path : List String) : Except PathFault (Place α) :=
  match f.lookup path with
  | some content => .ok (.file content)
  | none => if f.any fun e => path.isPrefixOf e.1 then .ok (.inside path) else .error .missing

def step (f : Folder α) (place : Place α) (name : String) : Except PathFault (Place α) :=
  match place with
  | .file _ => .error .notDirectory
  | .outside =>
    if name.utf8ByteSize > nameLimit then .error .tooLong
    else if isDots name then .ok .outside
    else .error .missing
  | .inside path =>
    if name.utf8ByteSize > nameLimit then .error .tooLong
    else if name.isEmpty || name == "." then .ok (.inside path)
    else if name == ".." then
      .ok (if path.isEmpty then .outside else .inside path.dropLast)
    else f.enter (path ++ [name])

def walkOn (f : Folder α) (place : Place α) (names : List String) : Except PathFault (Place α) :=
  names.foldlM f.step place

/-- The names of a path, separated by slashes. -/
def namesOf (path : String) : List String :=
  (Text.splitOn (· == '/') path.toList).map String.ofList

def walk (f : Folder α) (path : String) : Except PathFault (Place α) :=
  if path.isEmpty then .error .missing
  else if path.utf8ByteSize > pathLimit then .error .tooLong
  else f.walkOn (if path.startsWith "/" then .outside else .inside []) (namesOf path)

end Folder

end Wiring
