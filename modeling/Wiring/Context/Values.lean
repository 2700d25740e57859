/-
# Wiring.Context.Values -- the values of constants, lists and maps

A number constant that is integral and fits 64 bits is published as an integer.  A
list text is cut at commas and semicolons.  A map needs a text for each keyed pair
and keys that differ once they are expanded.
-/
import Wiring.Context.Basic
import Wiring.Decimal.Integral
import Wiring.Expression.Arithmetic
import Wiring.Expression.Comparison
import Wiring.Expression.Timespan

namespace Wiring.Context

set_option autoImplicit false

open Wiring.Config (Environment)
open Wiring.Decimal (Number)
open Wiring.Document (Constant Pair)
open Wiring.Logging (Logged)

/-! ## Constants -/

/-- A number equal to its floor, within 64 bits, is an integer. -/
def numberValue (x : Float) : Config.Value :=
  let v := Number.ofFloat x
  if v.floor.same v && v.atLeast Number.leastInteger && v.below Number.greatestInteger then
    .int v.toInteger
  else .float x

/-- The texts a condition is published as. -/
def conditionText (holds : Bool) : String := if holds then "yes" else "no"

/-- The value of a constant: the first attribute present among text, time, number and condition,
expanded. -/
def constantValue (env : Environment) (name : String) (k : Constant) :
    Logged (Except Error Config.Value) :=
  match k.text, k.time, k.number, k.condition with
  | some text, _, _, _ => do
    let text ← env.expand text
    return .ok (.text text)
  | none, some time, _, _ => do
    let time ← env.expand time
    return (Expression.parseMicros time).map .int
  | none, none, some number, _ => do
    let number ← env.expand number
    return (Expression.evaluate number).map numberValue
  | none, none, none, some condition => do
    let condition ← env.expand condition
    return (Expression.Comparison.parse condition).map fun e => .text (conditionText e.holds)
  | none, none, none, none => pure (.error (.constantValueMissing name))

/-- Publishes constants in order, each in the environment the ones before it made, up to the first
that fails.  Constants without a name are skipped. -/
def publishConstants (env : Environment) : List Constant → Logged (Except Error Unit × Environment)
  | [] => pure (.ok (), env)
  | k :: rest =>
    match k.name with
    | none => do
      Logged.write (entry .warn "Skipping constant without a name")
      publishConstants env rest
    | some name => do
      let result ← constantValue env name k
      match result with
      | .error e => return (.error e, env)
      | .ok value => publishConstants (env.publish name value) rest

/-! ## Lists and maps -/

def isSeparator (c : Char) : Bool := c == ',' || c == ';'

/-- The items of a list text, trimmed; a blank text has none. -/
def splitList (text : String) : List String :=
  if Text.isAllBlank text then []
  else (Text.splitOn isSeparator text.toList).map fun s =>
    String.ofList (Text.trimBy Text.isBlank s)

/-- What becomes of the pairs of a map property. -/
inductive Mapping where
  | complete (entries : Keyed String)
  | abandoned
  | failed (e : Error)

/-- Collects the pairs of a map, from pair number `n` on. -/
def collectPairs (env : Environment) (owner property : String) :
    Nat → Keyed String → List Pair → Logged Mapping
  | _, entries, [] => pure (.complete entries)
  | n, entries, p :: rest =>
    match p.key, p.text with
    | none, _ => do
      Logged.write (entry .warn s!"Missing key for pair {n} of {property} in '{owner}'")
      collectPairs env owner property (n + 1) entries rest
    | some _, none => do
      Logged.write (entry .error s!"Missing text for pair {n} of {property} in '{owner}'")
      return .abandoned
    | some key, some text => do
      let key ← env.expand key
      let text ← env.expand text
      if (entries.lookup key).isSome then
        return .failed (.wrongInput
          s!"duplicate map key {key} for {property} when injecting into {owner}")
      else collectPairs env owner property (n + 1) (entries.put key text) rest

def sortEntries (entries : Keyed String) : Keyed String :=
  entries.mergeSort fun a b => decide (a.1 ≤ b.1)

end Wiring.Context
