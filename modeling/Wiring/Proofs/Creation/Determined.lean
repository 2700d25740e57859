/-
# Wiring.Proofs.Creation.Determined -- a job has one run

The rules of `Runs` exclude each other: a run of a job ends with the answer, and in the
context, that the program comes to (`Runs.outcome`).  So what is shown of one run holds
of the request itself, and two runs of a job from one context end alike (`Runs.unique`).
-/
import Wiring.Proofs.Creation.Runs
import Wiring.Proofs.Creation.Depth

namespace Wiring.Context

set_option autoImplicit false

open Wiring.Component
open Wiring.Document (Property)

variable {σ : Type} [Lifecycle σ]

/-- What a job comes to, if references are followed by `create`. -/
def Job.outcome (c : Context σ) : Job → Option (Step σ ObjectId)
  | .request keep name => c.attempt keep name
  | .filling owner id ps =>
      (injectAll (fun c name => some (c.create name)) owner id ps c).map
        fun s => (s.1.map fun _ => id, s.2)

/-! ## Requests -/

section Requests

variable {c : Context σ} {keep : Bool} {name target : String}

/-- A request for a name that has to be constructed constructs what the name leads to. -/
theorem attempt_of_wants (wants : Wants c name target) :
    c.attempt keep name =
      assemble (some fun c name => some (c.create name)) keep (c.noted name) target := by
  rw [attempt_within_assemble, resolve_of_missing _ wants.missing, wants.leads]
  simp only [wants.absent]

/-- A bare instance is there to be completed. -/
theorem attempt_of_built {c₁ : Context σ} {id : ObjectId} (wants : Wants c name target)
    (built : (c.noted name).instantiate target = (.ok id, c₁)) :
    c.attempt keep name =
      finish (fun c name => some (c.create name)) (c₁.enrolled keep target id) target id := by
  rw [attempt_of_wants wants, assemble, built]
  rfl

theorem create_of_outcome {c' : Context σ} {r : Except Error ObjectId}
    (outcome : (Job.request true name).outcome c = some (r, c')) : c.create name = (r, c') :=
  Option.some.inj ((attempt_eq_create c name).symm.trans outcome)

end Requests

/-! ## Fillings -/

/-- What is left of a filling that has come to an end. -/
theorem injectAll_of_outcome {owner : String} {id : ObjectId} {ps : List Property}
    {c c' : Context σ} {r : Except Error ObjectId}
    (outcome : (Job.filling owner id ps).outcome c = some (r, c')) :
    ∃ all, injectAll (fun c name => some (c.create name)) owner id ps c = some (all, c') ∧
      r = all.map fun _ => id := by
  obtain ⟨⟨all, after⟩, filled, same⟩ := Option.map_eq_some_iff.1 outcome
  cases same
  exact ⟨all, filled, rfl⟩

section Fillings

variable {owner : String} {id : ObjectId} {c c₁ c₂ : Context σ}

/-- An instance that is filled has its hook called, and is given up if that fails. -/
theorem finish_of_filled {done : Except Error Unit}
    (filled : injectAll (fun c name => some (c.create name)) owner id (c.properties owner)
      (c.take (c.view owner).properties).2 = some (.ok (), c₁))
    (called : c₁.callDone owner id = (done, c₂)) :
    finish (fun c name => some (c.create name)) c owner id =
      some (match done with | .ok _ => (.ok id, c₂) | .error e => (.error e, c₂.release id)) := by
  unfold finish Context.complete
  have filled : injectAll (fun c name => some (c.create name)) owner id
    (c.take (c.view owner).properties).1 (c.take (c.view owner).properties).2 =
      some (.ok (), c₁) := filled
  cases done <;> simp [filled, called]

/-- An instance that cannot be filled is given up. -/
theorem finish_of_broken {e : Error}
    (failed : injectAll (fun c name => some (c.create name)) owner id (c.properties owner)
      (c.take (c.view owner).properties).2 = some (.error e, c₁)) :
    finish (fun c name => some (c.create name)) c owner id = some (.error e, c₁.release id) := by
  unfold finish Context.complete
  have failed : injectAll (fun c name => some (c.create name)) owner id
    (c.take (c.view owner).properties).1 (c.take (c.view owner).properties).2 =
      some (.error e, c₁) := failed
  simp [failed]

end Fillings

/-! ## Every run -/

/-- **A run ends as the program does**, with the same answer in the same context. -/
theorem Runs.outcome {job : Job} {c c' : Context σ} {r : Except Error ObjectId}
    (runs : Runs job c r c') : job.outcome c = some (r, c') := by
  induction runs with
  | live found =>
      show attempt _ _ _ = _
      rw [attempt_within_assemble, resolve, found]
  | astray missing leads =>
      show attempt _ _ _ = _
      rw [attempt_within_assemble, resolve_of_missing _ missing, leads]
  | followed missing leads found =>
      show attempt _ _ _ = _
      rw [attempt_within_assemble, resolve_of_missing _ missing, leads]
      simp only [found]
  | unfit wants failed =>
      show attempt _ _ _ = _
      rw [attempt_of_wants wants, assemble, failed]
  | complete wants built filled called ih =>
      show attempt _ _ _ = _
      -- The run inside determines how the entries are gone through.
      obtain ⟨all, filled, same⟩ := injectAll_of_outcome ih
      cases all with
      | error e => cases same
      | ok u =>
          rw [attempt_of_built wants built]
          exact finish_of_filled filled called
  | undone wants built filled called ih =>
      show attempt _ _ _ = _
      obtain ⟨all, filled, same⟩ := injectAll_of_outcome ih
      cases all with
      | error e => cases same
      | ok u =>
          rw [attempt_of_built wants built]
          exact finish_of_filled filled called
  | broken wants built failed ih =>
      show attempt _ _ _ = _
      obtain ⟨all, failed, same⟩ := injectAll_of_outcome ih
      cases all with
      | ok u => cases same
      | error e =>
          cases same
          rw [attempt_of_built wants built]
          exact finish_of_broken failed
  | filled => rfl
  | nameless unnamed rest ih =>
      rw [Job.outcome, injectAll, unnamed]
      exact ih
  | plain named value injected rest ih =>
      rw [Job.outcome, injectAll, named]
      simp only [injectProperty, value, injected]
      exact ih
  | plainFails named value failed =>
      rw [Job.outcome, injectAll, named]
      simp only [injectProperty, value, failed]
      rfl
  | reference named refers made injected rest made_ih ih =>
      rw [Job.outcome, injectAll, named]
      simp only [injectProperty, refers, injectReference, create_of_outcome made_ih]
      simp only [Option.bind_eq_bind, Option.bind_some, injected]
      exact ih
  | targetFails named refers failed ih =>
      rw [Job.outcome, injectAll, named]
      simp only [injectProperty, refers, injectReference, create_of_outcome ih]
      rfl
  | setterFails named refers made failed ih =>
      rw [Job.outcome, injectAll, named]
      simp only [injectProperty, refers, injectReference, create_of_outcome ih]
      simp only [Option.bind_eq_bind, Option.bind_some, failed]
      rfl

theorem create_of_runs {name : String} {c c' : Context σ} {r : Except Error ObjectId}
    (runs : Runs (.request true name) c r c') : c.create name = (r, c') :=
  create_of_outcome runs.outcome

theorem createDetached_of_runs {name : String} {c c' : Context σ} {r : Except Error ObjectId}
    (runs : Runs (.request false name) c r c') : c.createDetached name = (r, c') :=
  Option.some.inj ((attempt_eq_createDetached c name).symm.trans runs.outcome)

/-- **Two runs of a job from one context end alike.** -/
theorem Runs.unique {job : Job} {c c₁ c₂ : Context σ} {r₁ r₂ : Except Error ObjectId}
    (first : Runs job c r₁ c₁) (second : Runs job c r₂ c₂) : r₁ = r₂ ∧ c₁ = c₂ :=
  Prod.mk.inj (Option.some.inj (first.outcome.symm.trans second.outcome))

end Wiring.Context
