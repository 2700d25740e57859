/-
# Wiring.Gateway.Service -- starting the gateway, ticking and stopping it

The gateway reads its properties and its document, builds a context and asks it for
the listener `main`.  From then on every tick publishes a sample, and every
twentieth one a sign of life, until the gateway is told to stop.  What it writes
are the deliveries of sinks and the log records that its filter admits.
-/
import Wiring.Context.Build
import Wiring.Files
import Wiring.Gateway.Components
import Wiring.Logging.Filter
import Wiring.Registry.Embedding
import Wiring.Text.Numerals

namespace Wiring.Gateway

set_option autoImplicit false

open Wiring.Config (Environment Variables)
open Wiring.Logging (Filter Level Record Settings)

/-! ## Configuration -/

/-- What the gateway is given: the texts of its two files, and the variables of the process. -/
structure Inputs where
  properties : Reading
  document : Reading
  vars : Variables

def propertiesPath : String := "config/application.toml"

def documentPath : String := "config/factory.toml"

/-- What the names of variables for the gateway start with. -/
def variableLead : String := "WEAVE_"

namespace Inputs

/-- The properties of the file, below those of the variables. -/
def environment (i : Inputs) : Except Error Environment := do
  let file ← Config.Source.ofReading propertiesPath Config.documentPriority i.properties
  let overrides := Config.Source.ofVariables variableLead i.vars Config.Source.variablePriority
  return .ofSources [file, overrides]

/-- The settings of the variables, as the environment overrides them. -/
def settings (i : Inputs) (env : Environment) : Settings :=
  ({ Settings.ofVariables i.vars with showTarget := true }.overriddenBy env).value

/-- The document of the file. -/
def graph (i : Inputs) : Except Error Document := Document.ofReading documentPath i.document

end Inputs

/-! ## Running -/

/-- A gateway that has started: its context, and a pointer to its listener. -/
structure Running where
  context : Context Part
  listener : ObjectId

def logTarget : String := "gateway_demo"

/-- The name of the instance that the gateway asks for. -/
def listenerName : String := "main"

/-- What is reported first when the context cannot be built. -/
def startFailure : String := "failed to start gateway"

/-- Builds the context and gets the listener.  A failure is given as the texts of its causes,
outermost first, with the context it ends. -/
def launch (host : Host Part) (env : Environment) (document : Document) :
    Except (List String × Context Part) Running :=
  match Context.build host env document {} with
  | (.error e, c) => .error (startFailure :: e.chain, c.close)
  | (.ok (), c) =>
    match c.createAs listenerName listenerType with
    | (.error e, c) => .error (e.chain, c.close)
    | (.ok id, c) => .ok ⟨c, id⟩

namespace Running

def sight (r : Running) : Component.Sight Part := r.context.host.sight

def state (r : Running) : Listener :=
  match r.sight r.listener with
  | some (.listener l) => l
  | _ => {}

def record (r : Running) (level : Level) (message : String) : Running :=
  { r with context :=
      { r.context with host := r.context.host.record [⟨level, logTarget, message⟩] } }

def announce (r : Running) : Running :=
  let l := r.state
  let poll := Text.duration l.poll
  let verbose := Config.Value.flagText l.verbose
  r.record .info
    s!"Gateway {l.name} listening on port {l.port} (poll every {poll}, verbose: {verbose})"

/-- What happens when a sink is handed a message. -/
def deliver (r : Running) (sink : ObjectId) (topic message : String) : List Event :=
  match r.sight sink with
  | some (.sink lead) => [.noted s!"{lead} {topic}: {message}"]
  | _ => []

def publish (r : Running) (topic message : String) : List Event :=
  match r.state.router.bind r.sight with
  | some (.router router) =>
    if router.topics.contains topic then
      router.fallback.elim [] fun sink => r.deliver sink topic message
    else [.logged ⟨.warn, logTarget, s!"Dropping message on unknown topic {topic}"⟩]
  | _ => []

/-- What happens at a tick, of which the first has the number 1. -/
def tick (r : Running) (n : Nat) : List Event :=
  r.publish "telemetry" s!"sample #{n}" ++
    if n % 20 == 0 then r.publish "status" "alive" else []

/-- Stops the gateway: the listener is given up and the context torn down. -/
def stop (r : Running) : Context Part :=
  ((r.record .info "Received shutdown signal").context.release r.listener).close

end Running

/-! ## Output -/

/-- A line that the gateway writes. -/
inductive Line where
  | delivery (text : String)
  | record (r : Record)
  deriving DecidableEq, Repr

def Line.text : Line → String
  | .delivery text => text
  | .record r => r.level.word.toUpper ++ " " ++ r.target ++ ": " ++ r.message

/-- The line for an event, if there is one. -/
def lineOf (filter : Filter) : Event → Option Line
  | .noted text => some (.delivery text)
  | .logged r => if filter.admits r then some (.record r) else none
  | _ => none

def linesOf (filter : Filter) (events : List Event) : List Line := events.filterMap (lineOf filter)

/-- The first `count` lines of the ticks, if there are as many within twenty times as many ticks;
a gateway that writes anything writes at least one line in twenty ticks. -/
def tickLines (filter : Filter) (r : Running) (count : Nat) : List Line :=
  ((List.range (20 * count)).flatMap fun n => linesOf filter (r.tick (n + 1))).take count

/-- All that a run writes, and the texts of the failure that ended it, outermost first. -/
structure Report where
  lines : List Line := []
  failure : Option (List String) := none

/-- Starts the gateway on a host: the filter for its lines, and what runs from then on.  A start
that fails is a run of its own. -/
def start (host : Host Part) (i : Inputs) : Except Report (Filter × Running) :=
  match i.environment with
  | .error e => .error { failure := some e.chain }
  | .ok env =>
    let filter := (i.settings env).filtering
    match i.graph with
    | .error e => .error { failure := some e.chain }
    | .ok document =>
      match launch host env document with
      | .error (texts, c) =>
        .error { lines := linesOf filter c.host.journal, failure := some texts }
      | .ok r => .ok (filter, r.announce)

namespace Running

/-- The lines written so far. -/
def opening (r : Running) (filter : Filter) : List Line := linesOf filter r.context.host.journal

/-- The lines written when the gateway is stopped. -/
def closing (r : Running) (filter : Filter) : List Line :=
  linesOf filter (r.stop.host.journal.drop r.context.host.journal.length)

end Running

/-- Runs the gateway on a host until it has written `count` lines at its ticks. -/
def run (host : Host Part) (i : Inputs) (count : Nat) : Report :=
  match start host i with
  | .error report => report
  | .ok (filter, r) =>
    { lines := r.opening filter ++ tickLines filter r count ++ r.closing filter }

/-! ## Hosts -/

/-- Components of libraries among those of the gateway. -/
def guests : Embedding Sample Part where
  wrap := .guest
  unwrap?
    | .guest s => some s
    | _ => none
  unwrap?_wrap _ := rfl

/-- The gateway on a platform that finds libraries as `find` says, before anything is
registered. -/
def hostWith (find : String → Except String (Library Sample)) : Host Part :=
  { program := ⟨components, fun path => (find path).map guests.library⟩ }

end Wiring.Gateway
