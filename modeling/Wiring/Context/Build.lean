/-
# Wiring.Context.Build -- from a document to a running context

Building registers the program's component types, publishes the constants and
creates the early instances in document order.  The first failure tears down what
was built and fails the build.
-/
import Wiring.Context.Request
import Wiring.Context.Teardown

namespace Wiring.Context

set_option autoImplicit false

open Wiring.Component
open Wiring.Config (Environment)

variable {σ : Type} [Lifecycle σ]

structure Options where
  paths : List String := []
  avoidEarly : Bool := false

def publish (c : Context σ) : Step σ Unit :=
  let ((result, env), c) := c.take (publishConstants c.environment c.document.constants)
  (result, { c with environment := env })

/-- Creates early instances in order, up to the first that fails. -/
def createEarly (c : Context σ) : List String → Step σ Unit
  | [] => (.ok (), c)
  | name :: rest =>
    match (c.log .info s!"Creating early instance '{name}'").create name with
    | (.error e, c) => (.error e, c)
    | (.ok id, c) => createEarly (c.release id) rest

/-- Publishes constants and creates early instances. -/
def start (c : Context σ) (avoidEarly : Bool) : Step σ Unit :=
  match c.publish with
  | (.error e, c) => (.error e, c)
  | (.ok (), c) => if avoidEarly then (.ok (), c) else c.createEarly c.document.earlyNames

/-- The directories of libraries: those given first, then those the environment lists. -/
def searchPath (env : Environment) (given : List String) : List String :=
  given ++ ((env.text? Library.searchPathKey).map Library.splitPath).getD []

/-- Builds a context.  If that fails the context is left shut down and without instances. -/
def build (host : Host σ) (environment : Environment) (document : Document) (options : Options) :
    Step σ Unit :=
  let c : Context σ :=
    { host, document, environment, paths := searchPath environment options.paths }
  match c.onHost Host.scan with
  | (.error e, c) => (.error e, { c with shutDown := true })
  | (.ok (), c) =>
    match c.start options.avoidEarly with
    | (.ok (), c) =>
      (.ok (), c.log .info s!"Application context started with {c.owned.length} instances")
    | (.error e, c) =>
      (.error e, (c.log .error s!"Failed to start application context: {e.message}").shutdown)

end Wiring.Context
