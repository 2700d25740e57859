/-
# Wiring.Samples.Platform -- the libraries that the sample program can find

One directory holds libraries for every way that loading can end: with classes, with
classes that clash, with nothing, with an entry point that fails or is missing, or
with a file that is no library.
-/
import Wiring.Folder
import Wiring.Samples.Catalogue
import Wiring.Host

namespace Wiring.Sample

set_option autoImplicit false

def libraryDir : String := "@plugins"

/-- A registry in which classes are taken by a type that claims them. -/
def occupied (classes : List String) : Registry Sample :=
  match impostorType.factory with
  | .ok f => { factories := (Factories.registerAll [] (classes.map fun c => (c, f))).value.2 }
  | .error _ => {}

/-- A library with an entry point that registers types. -/
def exporting (types : List (Component Sample)) : Library Sample :=
  match Staging.fill types (fun _ => false) (some {}) with
  | (status, some s) => ⟨.ok (status, s.registry)⟩
  | (status, none) => ⟨.ok (status, {})⟩

/-- A library whose entry point registers nothing. -/
def answering (status : EntryStatus) : Library Sample := ⟨.ok (status, {})⟩

/-- The types of the library that clashes with the sample program. -/
def clashTypes : List (Component Sample) :=
  [libraryType "clash::First" "clash::First", libraryType "oracle::Plain" "clash::OtherPlain",
    libraryType "zz::Last" "clash::Last"]

/-- What comes of opening a file under a path. -/
abbrev Opening := String → Except String (Library Sample)

def opening (l : Library Sample) : Opening := fun _ => .ok l

def opensWithoutEntry : Opening := fun path =>
  .ok ⟨.error s!"{path}: undefined symbol: {Library.entrySymbol}"⟩

/-- Opening a file that is no library. -/
def tooShort : Opening := fun path => .error s!"{path}: file too short"

def libraries : Folder Opening :=
  [("echo_plugin", opening (exporting [repeaterType])), ("clash", opening (exporting clashTypes)),
    ("noentry", opensWithoutEntry), ("garbage", tooShort), ("failed", opening (answering .failed)),
    ("incompatible", opening (answering .incompatible)),
    ("empty", opening (answering .ok))].map (fun l => ([Library.fileName l.1], l.2))
  ++ [(["second", Library.fileName "elsewhere"], opening (answering .ok))]

/-- Where a path leads: below the directory of the libraries if it starts there, which it may do
from the root of all directories. -/
def locate (path : String) : Except PathFault (Place Opening) :=
  let names := Folder.namesOf path
  let lead := names.takeWhile Folder.isDots
  let isRooted := lead.isEmpty || lead.head? == some ""
  if path.utf8ByteSize > Folder.pathLimit then .error .tooLong
  else
    match names.dropWhile Folder.isDots with
    | name :: rest =>
      if name == libraryDir && isRooted then libraries.walkOn (.inside []) rest
      else libraries.walkOn .outside names
    | [] => libraries.walkOn .outside names

def openLibrary : Opening := fun path =>
  if path.contains '\x00' then .error "could not create a C string from bytes"
  else
    match locate path with
    | .ok (.file opens) => opens path
    | .ok _ => .error s!"{path}: cannot read file data: Is a directory"
    | .error fault => .error s!"{path}: cannot open shared object file: {fault.text}"

def program : Program Sample := ⟨catalogue, openLibrary⟩

/-- The sample program before anything is registered. -/
def host : Host Sample := { program := program }

end Wiring.Sample
