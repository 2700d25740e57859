/-
# Wiring.Error -- what can go wrong, in which words

An error names its cause; `Error.message` is the only place that words it and
`Error.kind` the only place that classes it.  A failure that a component reports
on its own account is `foreign`: the texts of the failure and of its causes,
outermost first, of which the first is the message.
-/
namespace Wiring

set_option autoImplicit false

inductive ErrorKind where
  | notFound
  | duplicate
  | wrongInput
  | castUnavailable
  | illegalState
  | libraryLoad
  | syntaxFault
  | config
  | other
  deriving DecidableEq, Repr

inductive Error where
  | instanceNotFound (name : String)
  | classNotSpecified (name : String)
  | factoryNotFound (className : String)
  | propertyNotFound (property kind typeName : String)
  | hookNotFound (hook typeName : String)
  | constantValueMissing (name : String)
  | duplicateProperty (property typeName : String)
  | duplicateFactory (className existing : String)
  | wrongInput (detail : String)
  | castUnavailable (source target : String)
  | illegalState (detail : String)
  | libraryLoad (library : String) (failures : List String)
  | syntaxFault (detail : String)
  | config (detail : String)
  | foreign (message : String) (causes : List String)
  deriving DecidableEq, Repr

namespace Error

def kind : Error → ErrorKind
  | instanceNotFound .. | classNotSpecified .. | factoryNotFound .. | propertyNotFound ..
  | hookNotFound .. | constantValueMissing .. => .notFound
  | duplicateProperty .. | duplicateFactory .. => .duplicate
  | wrongInput .. => .wrongInput
  | castUnavailable .. => .castUnavailable
  | illegalState .. => .illegalState
  | libraryLoad .. => .libraryLoad
  | syntaxFault .. => .syntaxFault
  | config .. => .config
  | foreign .. => .other

def message : Error → String
  | instanceNotFound n => s!"missing instance of name {n}"
  | classNotSpecified n => s!"attribute 'class' not specified for instance {n}"
  | factoryNotFound c => s!"factory for class {c} is missing"
  | propertyNotFound p k t => s!"missing {k} property {p} for type {t}"
  | hookNotFound h t => s!"no such hook {h} for type {t}"
  | constantValueMissing n => s!"constant {n} is missing attribute text, time, number or yes-when"
  | duplicateProperty p t => s!"duplicate property {p} for type {t}"
  | duplicateFactory c t => s!"class {c} is already registered for type {t}"
  | wrongInput d => s!"wrong input: {d}"
  | castUnavailable a b => s!"could not cast {a} to {b}"
  | illegalState d => s!"illegal state: {d}"
  | libraryLoad l fs => "failed to load library " ++ l ++ ": " ++ "; ".intercalate fs
  | syntaxFault d => s!"syntax error: {d}"
  | config d => s!"configuration error: {d}"
  | foreign m _ => m

/-- A component's own failure without further causes. -/
def failure (message : String) : Error := .foreign message []

/-- A failure that a component reports on behalf of another error: the class is lost, the text
is kept. -/
def wrapped (e : Error) : Error := .foreign e.message []

/-- The same failure under a new outermost text. -/
def inContext (e : Error) (text : String) : Error :=
  match e with
  | .foreign m causes => .foreign text (m :: causes)
  | e => .foreign text [e.message]

/-- The texts of an error and of its causes, outermost first. -/
def chain : Error → List String
  | .foreign m causes => m :: causes
  | e => [e.message]

end Error

end Wiring
