/-
# Wiring.Context.Teardown -- destroying the live graph

Teardown has three phases.  The cleanup hooks are called in creation order, so that
components can give up references that form cycles.  Then passes from the newest to
the oldest instance give up every handle that is the only pointer left, until a pass
gives up none.  What remains then is held from outside or lies behind a cycle; its
handles are given up in creation order, with a warning each.
-/
import Wiring.Context.Creation

namespace Wiring.Context

set_option autoImplicit false

open Wiring.Component

variable {σ : Type} [Lifecycle σ]

/-- A name and the object it stands for. -/
abbrev Owned := List (String × ObjectId)

/-- Calls the cleanup hooks in order; a failure stops none of the later ones. -/
def cleanUp (h : Host σ) : Owned → Host σ
  | [] => h
  | (name, id) :: rest =>
    if h.hasHook id cleanupHook then
      match h.call id cleanupHook with
      | (.ok (), h) => cleanUp h rest
      | (.error e, h) =>
        cleanUp (h.record [entry .error
          s!"Hook '{cleanupHook}' failed for '{name}': {e.message}"]) rest
    else cleanUp h rest

/-- One pass over the instances, newest first: gives up each handle that is the only pointer to
its object, and keeps the others. -/
def sweepOnce (h : Host σ) : Owned → Host σ × Owned
  | [] => (h, [])
  | (name, id) :: older =>
    if 1 < h.count id then
      let (h, kept) := sweepOnce h older
      (h, (name, id) :: kept)
    else sweepOnce (h.release id) older

theorem length_sweepOnce_le (h : Host σ) (newest : Owned) :
    (sweepOnce h newest).2.length ≤ newest.length := by
  induction newest generalizing h with
  | nil => simp [sweepOnce]
  | cons e older ih =>
    obtain ⟨name, id⟩ := e
    unfold sweepOnce
    split
    · simpa using ih h
    · exact Nat.le_succ_of_le (ih _)

/-- Passes over the instances, newest first, until a pass gives up no handle. -/
def sweep (h : Host σ) (newest : Owned) : Host σ × Owned :=
  match _once : sweepOnce h newest with
  | (h, kept) => if kept.length < newest.length then sweep h kept else (h, kept)
termination_by newest.length

/-- Gives up the remaining handles in creation order, with a warning each. -/
def forceDown (h : Host σ) : Owned → Host σ
  | [] => h
  | (name, id) :: rest =>
    let type := (h.object? id).elim "" (·.blueprint.typeName)
    let others := h.count id - 1
    let h := h.record [entry .warn
      s!"Instance '{name}' of {type} is still referenced ({others}), destroying anyway"]
    forceDown (h.release id) rest

/-- Destroys instances, given in creation order. -/
def tearDown (h : Host σ) (owned : Owned) : Host σ :=
  if owned.isEmpty then h
  else
    let h := h.record [entry .info s!"Destroying {owned.length} instances"]
    let h := cleanUp h owned
    let (h, kept) := sweep h owned.reverse
    if kept.isEmpty then h.record [entry .info "All instances destroyed"]
    else
      let h := h.record [entry .warn
        s!"{kept.length} instances still referenced, probably a circular dependency"]
      forceDown h kept.reverse

/-- Destroys all instances of a context and forgets their names. -/
def destroyAll (c : Context σ) : Context σ :=
  { c with host := tearDown c.host c.owned, owned := [], index := [] }

/-- Tears the live graph down, once; later calls do nothing. -/
def shutdown (c : Context σ) : Context σ :=
  if c.shutDown then c else { c with shutDown := true }.destroyAll

/-- The end of a context: a teardown if there was none, and then the handles of instances that
were created after it. -/
def close (c : Context σ) : Context σ :=
  let c := c.shutdown
  { c with host := c.host.releaseAll (c.owned.map (·.2)), owned := [], index := [] }

end Wiring.Context
