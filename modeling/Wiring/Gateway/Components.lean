/-
# Wiring.Gateway.Components -- the component types of the gateway

A `Listener` publishes messages on topics through a `Router`, which hands those on
known topics to a sink.  Sinks, routers and the listener refer to each other only as
configuration wires them; a listener without a router or with a poll interval of
zero refuses to start.
-/
import Wiring.Component.Blueprint
import Wiring.Samples.State

namespace Wiring.Gateway

set_option autoImplicit false

open Wiring.Component

/-! ## States -/

/-- Hands messages on known topics to the fallback sink. -/
structure Router where
  fallback : Option ObjectId := none
  topics : List String := []
  routes : List (String × String) := []

/-- Publishes messages; the poll interval is in microseconds. -/
structure Listener where
  name : String := ""
  port : Int := 0
  poll : Nat := 0
  verbose : Bool := false
  router : Option ObjectId := none

/-- The state of a component of the gateway, or of a library it has loaded. -/
inductive Part where
  | sink (lead : String)
  | router (r : Router)
  | listener (l : Listener)
  | guest (s : Sample)

namespace Part

def held : Part → List ObjectId
  | sink _ => []
  | router r => r.fallback.toList
  | listener l => l.router.toList
  | guest s => s.held

def farewell : Part → List String
  | guest s => s.farewell
  | _ => []

end Part

instance : Lifecycle Part := ⟨Part.held, Part.farewell⟩

/-! ## Actions -/

def onRouter (f : Router → Router) : Action Part := update fun
  | .router r => .router (f r)
  | s => s

def onListener (f : Listener → Listener) : Action Part := update fun
  | .listener l => .listener (f l)
  | s => s

/-- What keeps a listener from starting. -/
def Listener.fault? (l : Listener) : Option Error :=
  if l.router.isNone then some (.failure s!"gateway {l.name} has no router")
  else if l.poll == 0 then some (.failure s!"gateway {l.name} polls with a zero interval")
  else none

/-- Refuses to start a listener that is not ready. -/
def validate : Action Part := fun sight id =>
  match sight id with
  | some (.listener l) =>
    match l.fault? with
    | some e => { outcome := .error e }
    | none => {}
  | _ => {}

/-! ## Types -/

def sinkInterface : TypeName := "dyn gateway_demo::Sink"

def routerType : TypeName := "gateway_demo::Router"

def listenerType : TypeName := "gateway_demo::Gateway"

/-- The sink that writes messages behind a text of its own. -/
def sinkComponent : Component Part where
  className := "gateway::ConsoleSink"
  typeName := "gateway_demo::ConsoleSink"
  interfaces := [sinkInterface]
  make := .ok (.sink "")
  wanted := [
    ("prefix", .text fun s => update fun
      | .sink _ => .sink s
      | other => other)]

def routerComponent : Component Part where
  className := "gateway::Router"
  typeName := routerType
  make := .ok (.router {})
  wanted := [
    ("fallback", .reference sinkInterface fun id =>
      onRouter fun r => { r with fallback := some id }),
    ("topics", .list fun items => onRouter fun r => { r with topics := items }),
    ("routes", .map fun entries => onRouter fun r => { r with routes := entries }),
    ("cleanup", .hook (onRouter fun r => { r with fallback := none }))]

def listenerComponent : Component Part where
  className := "gateway::Gateway"
  typeName := listenerType
  make := .ok (.listener {})
  wanted := [
    ("name", .text fun s => onListener fun l => { l with name := s }),
    ("port", .integer (.unsigned 16) fun n => onListener fun l => { l with port := n }),
    ("poll", .time fun n => onListener fun l => { l with poll := n }),
    ("verbose", .boolean fun b => onListener fun l => { l with verbose := b }),
    ("router", .reference routerType fun id => onListener fun l => { l with router := some id }),
    ("done", .hook validate),
    ("cleanup", .hook (onListener fun l => { l with router := none }))]

def components : List (Component Part) := [sinkComponent, routerComponent, listenerComponent]

end Wiring.Gateway
