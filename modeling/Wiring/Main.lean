/-
# Wiring.Main -- the gateway as a program

The gateway reads its files below the working directory and runs until it is
interrupted, or for as many ticks as its argument says.  Everything it decides is
decided in `Wiring.Gateway.Service`; here are only files, time and output.
-/
import Wiring.Gateway.Service

namespace Wiring.Gateway

set_option autoImplicit false

/-- The fault that an error of the platform stands for. -/
def faultOf : IO.Error → ReadFault
  | .noFileOrDirectory .. => .path .missing
  | .inappropriateType _ 20 _ => .path .notDirectory
  | .inappropriateType _ 21 _ => .isDirectory
  | e => .other (toString e)

def readPath (path : String) : IO Reading := do
  match ← (IO.FS.readBinFile path).toBaseIO with
  | .ok bytes =>
    match String.fromUTF8? bytes with
    | some text => return .ok text
    | none => return .error .notText
  | .error e => return .error (faultOf e)

/-- The variables of a block of definitions that end with a null character each. -/
def variablesOf (block : String) : Config.Variables :=
  Keyed.ofList ((Text.splitOn (· == '\x00') block.toList).filterMap fun definition =>
    (Text.cutAt '=' definition).map fun d => (String.ofList d.1, String.ofList d.2))

/-- What the program is given by its platform. -/
def readInputs : IO Inputs := do
  let properties ← readPath propertiesPath
  let document ← readPath documentPath
  let block ← readPath "/proc/self/environ"
  return ⟨properties, document, variablesOf (block.toOption.getD "")⟩

def write (lines : List Line) : IO Unit := do
  for line in lines do
    IO.println line.text
  (← IO.getStdout).flush

/-- Ticks until the limit, for ever if there is none. -/
partial def tickOn (filter : Logging.Filter) (r : Running) (limit : Option Nat) (n : Nat) :
    IO Unit := do
  if limit.any (· < n) then return
  write (linesOf filter (r.tick n))
  IO.sleep (UInt32.ofNat (r.state.poll / 1000))
  tickOn filter r limit (n + 1)

/-- A platform where no library is found. -/
def noLibrary (path : String) : Except String (Library Sample) :=
  .error s!"{path}: cannot open shared object file: No such file or directory"

end Wiring.Gateway

open Wiring.Gateway in
/-- Runs the gateway, for ever or for as many ticks as the argument says. -/
def main (args : List String) : IO UInt32 := do
  match start (hostWith noLibrary) (← readInputs) with
  | .error report =>
    write report.lines
    IO.eprintln ("Error: " ++ "; ".intercalate (report.failure.getD []))
    return 1
  | .ok (filter, r) =>
    write (r.opening filter)
    tickOn filter r (args.head?.bind String.toNat?) 1
    write (r.closing filter)
    return 0
