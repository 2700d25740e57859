/-
# Wiring.Proofs.Creation.Runs -- the ways a creation can go

`Runs job c r c'` says that a job begun in `c` ends in `c'` with the answer `r`.  There
are two jobs: answering a request for a name, and setting what is left of the
properties of an instance.  Every rule is one way such a job can go, with the
conditions under which it goes that way; together they say all that a creation can do
(`runs_create`), so that what every creation keeps up is proved rule by rule.

The answer to a finished filling is the identity of the instance that was filled.
-/
import Wiring.Context.Request
import Wiring.Proofs.Context.Consistent

namespace Wiring.Context

set_option autoImplicit false

open Wiring.Component
open Wiring.Document (Property)

variable {σ : Type}

/-! ## Requests that construct -/

/-- A context after it has expanded the alias of a name. -/
def noted (c : Context σ) (name : String) : Context σ := (c.take (c.view name).aliasTarget).2

/-- A request for a name has to construct the instance of another, or of that name. -/
structure Wants (c : Context σ) (name target : String) : Prop where
  missing : c.lookup name = none
  leads : c.leadsTo name = .ok target
  absent : c.lookup target = none

/-- An alias is expanded to a failure, or to what its name leads to. -/
theorem take_aliasTarget (c : Context σ) (name : String) :
    (∃ e, c.take (c.view name).aliasTarget = (.error e, c.noted name) ∧
        c.leadsTo name = .error e) ∨
      ∃ t, c.take (c.view name).aliasTarget = (.ok t, c.noted name) ∧
        c.leadsTo name = .ok (if t.isEmpty then name else t) := by
  have leads : c.leadsTo name = (c.take (c.view name).aliasTarget).1.map
    fun t => if t.isEmpty then name else t := rfl
  cases expanded : (c.take (c.view name).aliasTarget).1 with
  | error e => exact .inl ⟨e, Prod.ext expanded rfl, by rw [leads, expanded]; rfl⟩
  | ok t => exact .inr ⟨t, Prod.ext expanded rfl, by rw [leads, expanded]; rfl⟩

/-- A name that is not live is followed one step. -/
theorem resolve_of_missing (construct : Context σ → String → Option (Step σ ObjectId))
    {c : Context σ} {name : String} (missing : c.lookup name = none) :
    resolve construct c name =
      match c.leadsTo name with
      | .error e => some (.error e, c.noted name)
      | .ok target =>
        match c.lookup target with
        | some id => some (.ok id, (c.noted name).acquire id)
        | none => construct (c.noted name) target := by
  unfold resolve
  rw [missing]
  rcases take_aliasTarget c name with ⟨e, expanded, leads⟩ | ⟨t, expanded, leads⟩
  · rw [leads, expanded]
  · rw [leads, expanded]
    by_cases plain : t.isEmpty
    · simp only [plain, if_true, missing]
    · simp only [plain, if_false, Bool.false_eq_true]
      rfl

/-! ## Instances under construction -/

/-- A context with a new instance, registered if it is kept. -/
def enrolled (c : Context σ) (keep : Bool) (name : String) (id : ObjectId) : Context σ :=
  if keep then c.register name id else c

def properties (c : Context σ) (name : String) : List Property := (c.view name).properties.value

/-- A context that is about to set the properties of a new instance. -/
def begun (c : Context σ) (keep : Bool) (name : String) (id : ObjectId) : Context σ :=
  ((c.enrolled keep name id).take ((c.enrolled keep name id).view name).properties).2

/-! ## Runs -/

/-- A request to answer, or an instance to fill. -/
inductive Job where
  | request (keep : Bool) (name : String)
  | filling (owner : String) (id : ObjectId) (properties : List Property)

variable [Lifecycle σ]

/-- The ways a job can go, from its context to its answer and the context after it. -/
inductive Runs : Job → Context σ → Except Error ObjectId → Context σ → Prop where
  /-- The name is live. -/
  | live {keep : Bool} {name : String} {c : Context σ} {id : ObjectId}
      (found : c.lookup name = some id) : Runs (.request keep name) c (.ok id) (c.acquire id)
  /-- The name is no name to follow. -/
  | astray {keep : Bool} {name : String} {c : Context σ} {e : Error}
      (missing : c.lookup name = none) (leads : c.leadsTo name = .error e) :
      Runs (.request keep name) c (.error e) (c.noted name)
  /-- The name is an alias of a live one. -/
  | followed {keep : Bool} {name target : String} {c : Context σ} {id : ObjectId}
      (missing : c.lookup name = none) (leads : c.leadsTo name = .ok target)
      (found : c.lookup target = some id) :
      Runs (.request keep name) c (.ok id) ((c.noted name).acquire id)
  /-- There is no bare instance to be had. -/
  | unfit {keep : Bool} {name target : String} {c c' : Context σ} {e : Error}
      (wants : Wants c name target) (failed : (c.noted name).instantiate target = (.error e, c')) :
      Runs (.request keep name) c (.error e) c'
  /-- A new instance is filled and its hook succeeds. -/
  | complete {keep : Bool} {name target : String} {c c₁ c₂ c' : Context σ} {id : ObjectId}
      (wants : Wants c name target) (built : (c.noted name).instantiate target = (.ok id, c₁))
      (filled : Runs (.filling target id ((c₁.enrolled keep target id).properties target))
        (c₁.begun keep target id) (.ok id) c₂)
      (called : c₂.callDone target id = (.ok (), c')) : Runs (.request keep name) c (.ok id) c'
  /-- A new instance is filled and its hook fails. -/
  | undone {keep : Bool} {name target : String} {c c₁ c₂ c' : Context σ} {id : ObjectId} {e : Error}
      (wants : Wants c name target) (built : (c.noted name).instantiate target = (.ok id, c₁))
      (filled : Runs (.filling target id ((c₁.enrolled keep target id).properties target))
        (c₁.begun keep target id) (.ok id) c₂)
      (called : c₂.callDone target id = (.error e, c')) :
      Runs (.request keep name) c (.error e) (c'.release id)
  /-- A new instance cannot be filled. -/
  | broken {keep : Bool} {name target : String} {c c₁ c' : Context σ} {id : ObjectId} {e : Error}
      (wants : Wants c name target) (built : (c.noted name).instantiate target = (.ok id, c₁))
      (failed : Runs (.filling target id ((c₁.enrolled keep target id).properties target))
        (c₁.begun keep target id) (.error e) c') :
      Runs (.request keep name) c (.error e) (c'.release id)
  /-- No property is left. -/
  | filled {owner : String} {id : ObjectId} {c : Context σ} :
      Runs (.filling owner id []) c (.ok id) c
  /-- The next property has no name and is passed over. -/
  | nameless {owner : String} {id : ObjectId} {p : Property} {ps : List Property} {c c' : Context σ}
      {r : Except Error ObjectId} (unnamed : p.name = none)
      (rest : Runs (.filling owner id ps)
        (c.log .warn s!"Missing name for {p.change.word} entry of '{owner}'") r c') :
      Runs (.filling owner id (p :: ps)) c r c'
  /-- The next property holds no reference and is injected. -/
  | plain {owner name : String} {id : ObjectId} {p : Property} {ps : List Property}
      {c c₁ c' : Context σ} {r : Except Error ObjectId} (named : p.name = some name)
      (value : p.reference = none) (injected : c.injectPlain owner id p name = (.ok (), c₁))
      (rest : Runs (.filling owner id ps) c₁ r c') : Runs (.filling owner id (p :: ps)) c r c'
  /-- The next property holds no reference and cannot be injected. -/
  | plainFails {owner name : String} {id : ObjectId} {p : Property} {ps : List Property}
      {c c' : Context σ} {e : Error} (named : p.name = some name) (value : p.reference = none)
      (failed : c.injectPlain owner id p name = (.error e, c')) :
      Runs (.filling owner id (p :: ps)) c (.error e)
        (c'.log .error s!"Failed to inject {name} for '{owner}': {e.message}")
  /-- The next property holds a reference, which is answered and injected. -/
  | reference {owner name text : String} {id value : ObjectId} {p : Property} {ps : List Property}
      {c c₁ c₂ c' : Context σ} {r : Except Error ObjectId} (named : p.name = some name)
      (refers : p.reference = some text)
      (made : Runs (.request true (c.expand text).1) (c.expand text).2 (.ok value) c₁)
      (injected : c₁.inject id name (.reference value) = (.ok (), c₂))
      (rest : Runs (.filling owner id ps) (c₂.release value) r c') :
      Runs (.filling owner id (p :: ps)) c r c'
  /-- The next property holds a reference, which cannot be answered. -/
  | targetFails {owner name text : String} {id : ObjectId} {p : Property} {ps : List Property}
      {c c' : Context σ} {e : Error} (named : p.name = some name) (refers : p.reference = some text)
      (failed : Runs (.request true (c.expand text).1) (c.expand text).2 (.error e) c') :
      Runs (.filling owner id (p :: ps)) c (.error e)
        ((c'.log .error s!"Failed to create reference '{(c.expand text).1}'").log .error
          s!"Failed to inject {name} for '{owner}': {e.message}")
  /-- The next property holds a reference, which is answered but not accepted. -/
  | setterFails {owner name text : String} {id value : ObjectId} {p : Property} {ps : List Property}
      {c c₁ c' : Context σ} {e : Error} (named : p.name = some name)
      (refers : p.reference = some text)
      (made : Runs (.request true (c.expand text).1) (c.expand text).2 (.ok value) c₁)
      (failed : c₁.inject id name (.reference value) = (.error e, c')) :
      Runs (.filling owner id (p :: ps)) c (.error e)
        ((c'.release value).log .error s!"Failed to inject {name} for '{owner}': {e.message}")

/-! ## Every creation is a run -/

/-- Whatever a maker answers, there is a run to that answer. -/
def Faithful (make : Maker σ) : Prop :=
  ∀ {c : Context σ} {name : String} {r : Except Error ObjectId} {c' : Context σ},
    make c name = some (r, c') → Runs (.request true name) c r c'

/-- A reference that cannot be answered, or one that is injected and given up again. -/
theorem injectReference_cases {make : Maker σ} {c c' : Context σ} {id : ObjectId}
    {name target : String} {r : Except Error Unit}
    (result : injectReference make c id name target = some (r, c')) :
    ∃ made c₁, make c target = some (made, c₁) ∧
      ((∃ e, made = .error e ∧ r = .error e ∧
          c' = c₁.log .error s!"Failed to create reference '{target}'") ∨
        ∃ value c₂, made = .ok value ∧ c₁.inject id name (.reference value) = (r, c₂) ∧
          c' = c₂.release value) := by
  unfold injectReference at result
  cases answered : make c target with
  | none => simp [answered] at result
  | some s =>
      obtain ⟨made, c₁⟩ := s
      rw [answered] at result
      refine ⟨made, c₁, rfl, ?_⟩
      cases made with
      | error e =>
          cases result
          exact .inl ⟨e, rfl, rfl, rfl⟩
      | ok value =>
          cases result
          exact .inr ⟨value, _, rfl, rfl, rfl⟩

theorem runs_of_injectAll {make : Maker σ} (faithful : Faithful make) {owner : String}
    {id : ObjectId} {ps : List Property} {c c' : Context σ} {r : Except Error Unit}
    (result : injectAll make owner id ps c = some (r, c')) :
    Runs (.filling owner id ps) c (r.map fun _ => id) c' := by
  induction ps generalizing c with
  | nil =>
      cases result
      exact .filled
  | cons p ps ih =>
      unfold injectAll at result
      cases named : p.name with
      | none =>
          simp only [named] at result
          exact .nameless named (ih result)
      | some name =>
          simp only [named] at result
          cases injected : injectProperty make c owner id p name with
          | none => simp [injected] at result
          | some s =>
              obtain ⟨done, c₁⟩ := s
              rw [injected] at result
              unfold injectProperty at injected
              cases value : p.reference with
              | none =>
                  rw [value] at injected
                  cases done with
                  | ok u => exact .plain named value (Option.some.inj injected) (ih result)
                  | error e =>
                      cases result
                      exact .plainFails named value (Option.some.inj injected)
              | some text =>
                  rw [value] at injected
                  -- What the maker answers is a run by assumption, and so the reference has one.
                  obtain ⟨made, c₂, answered, ends⟩ := injectReference_cases injected
                  have run := faithful answered
                  rcases ends with ⟨e, rfl, rfl, rfl⟩ | ⟨object, c₃, rfl, handed, rfl⟩
                  · cases result
                    exact .targetFails named value run
                  · cases done with
                    | ok u => exact .reference named value run handed (ih result)
                    | error e =>
                        cases result
                        exact .setterFails named value run handed

/-- A filling that fails, a hook that fails, or neither. -/
theorem finish_cases {make : Maker σ} {c c' : Context σ} {name : String} {id : ObjectId}
    {r : Except Error ObjectId} (result : finish make c name id = some (r, c')) :
    ∃ all c₁, injectAll make name id (c.properties name) (c.take (c.view name).properties).2 =
        some (all, c₁) ∧
      ((∃ e, all = .error e ∧ r = .error e ∧ c' = c₁.release id) ∨
        all = .ok () ∧ ∃ done c₂, c₁.callDone name id = (done, c₂) ∧
          ((∃ e, done = .error e ∧ r = .error e ∧ c' = c₂.release id) ∨
            done = .ok () ∧ r = .ok id ∧ c' = c₂)) := by
  unfold finish Context.complete at result
  simp only at result
  cases injected : injectAll make name id (c.take (c.view name).properties).1
      (c.take (c.view name).properties).2 with
  | none => simp [injected] at result
  | some s =>
      obtain ⟨all, c₁⟩ := s
      rw [injected] at result
      refine ⟨all, c₁, injected, ?_⟩
      cases all with
      | error e =>
          cases result
          exact .inl ⟨e, rfl, rfl, rfl⟩
      | ok u =>
          refine .inr ⟨rfl, ?_⟩
          cases called : c₁.callDone name id with
          | mk done c₂ =>
              simp only [Option.bind_eq_bind, Option.bind_some, called] at result
              refine ⟨done, c₂, rfl, ?_⟩
              cases done with
              | error e =>
                  cases result
                  exact .inl ⟨e, rfl, rfl, rfl⟩
              | ok u =>
                  cases result
                  exact .inr ⟨rfl, rfl, rfl⟩

theorem runs_of_assemble {make : Option (Maker σ)} (faithful : ∀ m, make = some m → Faithful m)
    {keep : Bool} {name target : String} {c c' : Context σ} {r : Except Error ObjectId}
    (wants : Wants c name target)
    (result : assemble make keep (c.noted name) target = some (r, c')) :
    Runs (.request keep name) c r c' := by
  unfold assemble at result
  cases built : (c.noted name).instantiate target with
  | mk made c₁ =>
      rw [built] at result
      cases made with
      | error e =>
          cases result
          exact .unfit wants built
      | ok id =>
          obtain ⟨m, given, result⟩ := Option.bind_eq_some_iff.1 result
          obtain ⟨all, c₂, injected, ends⟩ := finish_cases result
          have run := runs_of_injectAll (faithful m given) injected
          rcases ends with ⟨e, rfl, rfl, rfl⟩ | ⟨rfl, done, c₃, called, ends⟩
          · exact .broken wants built run
          · rcases ends with ⟨e, rfl, rfl, rfl⟩ | ⟨rfl, rfl, rfl⟩
            · exact .undone wants built run called
            · exact .complete wants built run called

theorem runs_of_resolve {make : Option (Maker σ)} (faithful : ∀ m, make = some m → Faithful m)
    {keep : Bool} {name : String} {c c' : Context σ} {r : Except Error ObjectId}
    (result : resolve (assemble make keep) c name = some (r, c')) :
    Runs (.request keep name) c r c' := by
  cases found : c.lookup name with
  | some id =>
      rw [resolve, found] at result
      cases result
      exact .live found
  | none =>
      rw [resolve_of_missing _ found] at result
      cases leads : c.leadsTo name with
      | error e =>
          rw [leads] at result
          cases result
          exact .astray found leads
      | ok target =>
          rw [leads] at result
          simp only at result
          cases live : c.lookup target with
          | some id =>
              rw [live] at result
              cases result
              exact .followed found leads live
          | none =>
              rw [live] at result
              exact runs_of_assemble faithful ⟨found, leads, live⟩ result

theorem runs_of_construct (depth : Nat) {keep : Bool} {name : String} {c c' : Context σ}
    {r : Except Error ObjectId} (result : resolve (construct depth keep) c name = some (r, c')) :
    Runs (.request keep name) c r c' := by
  induction depth generalizing keep c name r c' with
  | zero => exact runs_of_resolve (by simp) result
  | succ depth ih =>
      refine runs_of_resolve ?_ result
      rintro _ ⟨⟩ c name r c' deeper
      exact ih deeper

/-- **Every request runs to its answer.** -/
theorem runs_create (c : Context σ) (name : String) :
    Runs (.request true name) c (c.create name).1 (c.create name).2 :=
  runs_of_construct _ (attempt_eq_create c name)

theorem runs_createDetached (c : Context σ) (name : String) :
    Runs (.request false name) c (c.createDetached name).1 (c.createDetached name).2 :=
  runs_of_construct _ (attempt_eq_createDetached c name)

end Wiring.Context
