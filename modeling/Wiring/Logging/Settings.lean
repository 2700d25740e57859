/-
# Wiring.Logging.Settings -- how much is logged, and in which layout

Settings start from defaults or from the variables of the process, and are then
overridden by the `logging` keys of an environment.  A value that cannot be read
never fails the program: the variables fall back to the defaults, and keys of the
environment are reported and ignored.
-/
import Wiring.Config.Environment
import Wiring.Error
import Wiring.Text.Case

namespace Wiring.Logging

set_option autoImplicit false

open Wiring.Config (Environment Variables)

/-! ## Levels -/

def Level.word : Level → String
  | .trace => "trace"
  | .debug => "debug"
  | .info => "info"
  | .warn => "warn"
  | .error => "error"

def levelNames : List (String × Level) :=
  [("trace", .trace), ("debug", .debug), ("info", .info), ("information", .info),
    ("warn", .warn), ("warning", .warn), ("error", .error), ("fatal", .error),
    ("critical", .error)]

/-- Reads the name of a level, in any case and with blanks around it. -/
def Level.parse (s : String) : Except Error Level :=
  match levelNames.lookup (String.ofList (Text.lowercase (Text.trim s).toList)) with
  | some level => .ok level
  | none => .error (.config s!"unknown log level '{s}'")

/-! ## Layouts -/

inductive Layout where
  | compact
  | full
  | json
  | pretty
  deriving DecidableEq, Repr

def Layout.word : Layout → String
  | compact => "compact"
  | full => "full"
  | json => "json"
  | pretty => "pretty"

def Layout.all : List Layout := [compact, full, json, pretty]

/-- Reads the word for a layout, with ASCII letters in any case and with blanks around it. -/
def Layout.parse (s : String) : Except Error Layout :=
  match Layout.all.find? fun l => l.word.toList == (Text.trim s).toList.map Char.toLower with
  | some layout => .ok layout
  | none => .error (.config s!"unknown log format '{s}'")

/-! ## Settings -/

/-- What is logged and how.  A filter wins over the level. -/
structure Settings where
  level : Level := .info
  layout : Layout := .compact
  showTarget : Bool := false
  showThreads : Bool := false
  filter : Option String := none
  deriving DecidableEq, Repr

namespace Settings

def logTarget : String := "weave_core::logging"

/-- The variable of a name, if it is set and not empty. -/
def ofVariable? (vars : Variables) (name : String) : Option String :=
  (vars.get? name).filter (!·.isEmpty)

/-- The settings that the variables of the process ask for. -/
def ofVariables (vars : Variables) : Settings where
  level := ((ofVariable? vars "LOG_LEVEL").bind fun s => (Level.parse s).toOption).getD .info
  layout := ((ofVariable? vars "LOG_FORMAT").bind fun s => (Layout.parse s).toOption).getD .compact
  filter := ofVariable? vars "RUST_LOG"

/-- The value that a key of the environment holds; one that cannot be read is reported. -/
def override {α : Type} (env : Environment) (key : String) (parse : String → Except Error α)
    (default : α) : Logged α :=
  match env.text? key with
  | none => pure default
  | some s =>
    match parse s with
    | .ok a => pure a
    | .error e => do
      Logged.write ⟨.warn, logTarget, s!"Ignoring {key}: {e.message}"⟩
      return default

/-- The settings with what the environment overrides. -/
def overriddenBy (s : Settings) (env : Environment) : Logged Settings := do
  let level ← override env "logging.level" Level.parse s.level
  let layout ← override env "logging.format" Layout.parse s.layout
  return { s with level, layout, filter := env.text? "logging.filter" <|> s.filter }

end Settings

end Wiring.Logging
