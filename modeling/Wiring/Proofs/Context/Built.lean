/-
# Wiring.Proofs.Context.Built -- what a build has done that succeeds

It has published all constants, and then created the early instances one after the other
(`prepares_of_build`).  It leaves all that its context owns furnished, by what was done since the
program started (`settled_build`): whatever an early instance needed, and got while it was itself
unfinished, is finished when the build is.  So an instance that is requested then is furnished,
whether it has been there all along or is made for this request (`Settled.answer`).
-/
import Wiring.Proofs.Context.Smooth

namespace Wiring.Context

set_option autoImplicit false

open Wiring.Component
open Wiring.Config (Environment)

variable {σ : Type} [Lifecycle σ] {host : Host σ} {environment : Environment} {document : Document}
  {options : Options} {c c' : Context σ} {D : List Deed} {name : String} {id : ObjectId}

theorem prepares_of_build (built : build host environment document options = (.ok (), c)) :
    (opened host environment document options).publish.1 = .ok () ∧
      ∃ c₁, Prepares (opened host environment document options).publish.2
        (earlyRoots document options) c₁ ∧ Silent c₁ c := by
  obtain ⟨_, after, started, rfl⟩ := start_of_build built
  exact ⟨publish_of_start started, after, prepares_of_createEarly (createEarly_of_start started),
    silent_log _ _ _⟩

/-- What a context was built with: its document, and the constants over its environment. -/
theorem publishes_of_build (built : build host environment document options = (.ok (), c)) :
    c.document = document ∧ Publishes environment document.constants c.environment := by
  obtain ⟨ok, c₁, prepared, silent⟩ := prepares_of_build built
  have grown := prepared.reaches.1.trans (extends_of_silent silent)
  refine ⟨grown.document, ?_⟩
  rw [grown.environment]
  rcases publishConstants_cases environment document.constants with
    ⟨_, published⟩ | ⟨e, _, _, _, _, failed, _⟩
  · exact published
  · have same : (publishConstants environment document.constants).value.1 = .ok () := ok
    rw [same] at failed
    cases failed

/-! ## What it leaves behind -/

namespace Settled

/-- Giving up a handle that the context does not need leaves it settled. -/
theorem release {others : List ObjectId} (settled : Settled D c) (held : Held c (id :: others)) :
    Settled D (c.release id) :=
  settled.moves (.release c.host id) (tends_release held).held.handles

theorem announced (settled : Settled D c) (name : String) : Settled D (c.announced name) := by
  obtain ⟨others, held⟩ := settled.held
  exact settled.moves (.enter c.host _) held.handles

/-- **A context stays settled while early instances are created.** -/
theorem prepares {names : List String} (settled : Settled D c) (prepared : Prepares c names c') :
    ∃ ds, c.host.Does ds c'.host ∧ Settled (D ++ ds) c' := by
  induction prepared generalizing D with
  | nil c => exact ⟨[], .nothing _, by rwa [List.append_nil]⟩
  | @cons c c₁ c' name names id made rest ih =>
      have ready := settled.announced name
      obtain ⟨ds, does, created⟩ := ready.create made
      obtain ⟨others, held⟩ := ready.held
      have given := (tended_create held made).held
      obtain ⟨es, later, final⟩ := ih (created.release given)
      have announcing : c.host.Does [] (c.announced name).host := (Host.Moves.enter c.host _).does
      have releasing : c₁.host.Does [] (c₁.release id).host := (Host.Moves.release c₁.host id).does
      have onward : c₁.host.Does es c'.host := releasing.trans later
      refine ⟨ds ++ es, ?_, by rwa [List.append_assoc] at final⟩
      exact announcing.trans (does.trans onward)

/-- **What a request is answered with is furnished.** -/
theorem answer (settled : Settled D c) (made : c.create name = (.ok id, c')) :
    ∃ ds target, c.host.Does ds c'.host ∧ c'.Furnished (D ++ ds) (target, id) := by
  obtain ⟨ds, does, after⟩ := settled.create made
  have runs := runs_create c name
  rw [made] at runs
  have goes := goes_create c name
  rw [made] at goes
  obtain ⟨target, live⟩ : ∃ target, c'.lookup target = some id := by
    rcases runs.answer settled.indexed with live | ⟨_, target, _, live⟩
    · exact ⟨name, goes.extended.lookup settled.indexed after.indexed live⟩
    · exact ⟨target, live⟩
  have owned := after.indexed.lookup_iff.1 live
  exact ⟨ds, target, does, after.furnished _ owned⟩

end Settled

/-- **A build that succeeds leaves a context settled**, by all that was done since it began. -/
theorem settled_build (fresh : host.heap.Fresh) (built : build host environment document options = (.ok (), c)) :
    ∃ ds, host.Does ds c.host ∧ Settled ds c := by
  obtain ⟨scanned, after, started, rfl⟩ := start_of_build built
  obtain ⟨_, works, did, settled⟩ :=
    (Smooth.begins fresh scanned (publish_of_start started)).settled
  cases did
  obtain ⟨ds, does, prepared⟩ :=
    settled.prepares (prepares_of_createEarly (createEarly_of_start started))
  obtain ⟨others, held⟩ := prepared.held
  have scanning : host.Does [] host.scan.2 := (Host.Moves.scan host).does
  have publishing : host.scan.2.Does []
      (opened host environment document options).publish.2.host :=
    (Host.Moves.enter host.scan.2 _).does
  have reporting := Host.Moves.enter after.host
    [entry .info s!"Application context started with {after.owned.length} instances"]
  refine ⟨ds, ?_, prepared.moves reporting held.handles⟩
  have whole := (scanning.trans publishing).trans (does.trans reporting.does)
  rwa [List.append_nil, List.append_nil] at whole

end Wiring.Context
