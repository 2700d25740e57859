/-
# Wiring.Files -- what reading a path yields

A path yields the text of a file, or a fault.  Documents and property sources are
read from what it yields.
-/
import Wiring.Config.TomlSource
import Wiring.Document.Decode
import Wiring.Folder
import Wiring.Text.Quoted

namespace Wiring

set_option autoImplicit false

/-- Why a path yields no text. -/
inductive ReadFault where
  | path (fault : PathFault)
  | isDirectory
  | notText
  | nullName
  | other (detail : String)
  deriving DecidableEq, Repr

def ReadFault.message : ReadFault → String
  | path fault => s!"{fault.text} (os error {fault.code})"
  | isDirectory => "Is a directory (os error 21)"
  | notText => "stream did not contain valid UTF-8"
  | nullName => "file name contained an unexpected NUL byte"
  | other detail => detail

/-- What reading a path yields. -/
abbrev Reading := Except ReadFault String

/-- Reads a path in a folder of files that hold bytes. -/
def Folder.read (f : Folder ByteArray) (path : String) : Reading :=
  if path.contains '\x00' then .error .nullName
  else
    match f.walk path with
    | .ok (.file bytes) =>
      match String.fromUTF8? bytes with
      | some text => .ok text
      | none => .error .notText
    | .ok _ => .error .isDirectory
    | .error fault => .error (.path fault)

/-! ## Reading documents and sources -/

/-- What is reported about a path that cannot be read. -/
def unreadable (what path : String) (fault : ReadFault) : Error :=
  .config s!"failed to read {what} {Text.quote path}: {fault.message}"

def Document.ofReading (path : String) : Reading → Except Error Document
  | .ok content => Document.parse content
  | .error fault => .error (unreadable "factory document" path fault)

/-- The source that a path yields; it goes by the path. -/
def Config.Source.ofReading (path : String) (priority : Int) :
    Reading → Except Error Config.Source
  | .ok content => Config.Source.ofToml path content priority
  | .error fault => .error (unreadable "config file" path fault)

end Wiring
