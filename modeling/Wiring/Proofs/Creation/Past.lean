/-
# Wiring.Proofs.Creation.Past -- no creation reads the journal

A program writes its journal and never reads it.  So what a context comes to does not
depend on what was entered before: with another past in front of the journal every step,
and every run, ends the same, with that past in front (`Runs.preceded`).
-/
import Wiring.Proofs.Creation.Determined

namespace Wiring

set_option autoImplicit false

open Wiring.Component
open Wiring.Document (Property)
open Wiring.Logging (Level Logged Record)

variable {σ : Type}

/-! ## Programs -/

namespace Host

/-- A program, and what was entered before. -/
def preceded (past : List Event) (h : Host σ) : Host σ := { h with journal := past ++ h.journal }

variable (past : List Event) (h : Host σ)

theorem enter_preceded (es : List Event) :
    (h.preceded past).enter es = (h.enter es).preceded past := by
  simp [enter, preceded]

theorem record_preceded (rs : List Record) :
    (h.preceded past).record rs = (h.record rs).preceded past := enter_preceded past h _

theorem construct_preceded (className : String) :
    (h.preceded past).construct className =
      ((h.construct className).1, (h.construct className).2.preceded past) := by
  unfold construct
  rw [show (h.preceded past).registry = h.registry from rfl]
  cases h.registry.factories.find className with
  | error e => rfl
  | ok f =>
      cases made : f.make with
      | error e => simp [made]
      | ok state =>
          simp only [made]
          exact congrArg (Prod.mk _) (enter_preceded past { h with heap := _ } _)

theorem adopt_preceded (name : String) (l : Library σ) :
    (h.preceded past).adopt name l = ((h.adopt name l).1, (h.adopt name l).2.preceded past) := by
  unfold adopt
  cases l.entry with
  | error text => rfl
  | ok entry =>
      obtain ⟨status, staged⟩ := entry
      cases status with
      | ok =>
          exact congrArg (Prod.mk _) (enter_preceded past { h with loaded := _, registry := _ } _)
      | failed => rfl
      | incompatible => rfl

theorem search_preceded (name : String) (failures dirs : List String) :
    (h.preceded past).search name failures dirs =
      ((h.search name failures dirs).1, (h.search name failures dirs).2.preceded past) := by
  induction dirs generalizing failures with
  | nil => rfl
  | cons dir dirs ih =>
      unfold search
      simp only
      rw [show (h.preceded past).program = h.program from rfl]
      cases h.program.openLibrary (Library.join dir (Library.fileName name)) with
      | ok l =>
          simp only
          rw [record_preceded, adopt_preceded]
      | error text => exact ih _

theorem load_preceded (paths : List String) (name : String) :
    (h.preceded past).load paths name =
      ((h.load paths name).1, (h.load paths name).2.preceded past) := by
  unfold load
  rw [show (h.preceded past).loaded = h.loaded from rfl]
  split
  · rfl
  · split
    · rfl
    · exact search_preceded past h name [] paths

variable [Lifecycle σ]

theorem settle_preceded (lost : List ObjectId) :
    (h.preceded past).settle lost = (h.settle lost).preceded past :=
  enter_preceded past { h with heap := (h.heap.settle lost).1 } _

theorem release_preceded (id : ObjectId) :
    (h.preceded past).release id = (h.release id).preceded past :=
  enter_preceded past { h with heap := (h.heap.release id).1 } _

theorem perform_preceded (id : ObjectId) (action : Action σ) :
    (h.preceded past).perform id action =
      ((h.perform id action).1, (h.perform id action).2.preceded past) := by
  let stored := h.heap.storeAll (h.changesOf (action h.sight id))
  let noted := (action h.sight id).notes.map Event.noted
  show ((action h.sight id).outcome,
    ((({ h with heap := stored.1 } : Host σ).preceded past).enter noted).settle stored.2) = _
  rw [enter_preceded, settle_preceded]
  rfl

theorem inject_preceded (id : ObjectId) (name : String) (value : Given) :
    (h.preceded past).inject id name value =
      ((h.inject id name value).1, (h.inject id name value).2.preceded past) := by
  simp only [inject, enter_preceded]
  generalize h.enter [.injected id name value] = entered
  rw [show (entered.preceded past).object? id = entered.object? id from rfl,
    show (entered.preceded past).cast = entered.cast from rfl]
  cases entered.object? id with
  | none => rfl
  | some o =>
      cases accepted : o.blueprint.setter entered.cast name value with
      | error e => simp only [accepted]
      | ok action => simp only [accepted, perform_preceded]

theorem call_preceded (id : ObjectId) (hook : String) :
    (h.preceded past).call id hook = ((h.call id hook).1, (h.call id hook).2.preceded past) := by
  simp only [call, enter_preceded]
  generalize h.enter [.called id hook] = entered
  rw [show (entered.preceded past).object? id = entered.object? id from rfl]
  cases entered.object? id with
  | none => rfl
  | some o =>
      cases bound : o.blueprint.hook hook with
      | error e => simp only [bound]
      | ok action => simp only [bound, perform_preceded]

end Host

/-! ## Contexts -/

namespace Context

/-- A context, and what was entered before. -/
def preceded (past : List Event) (c : Context σ) : Context σ :=
  { c with host := c.host.preceded past }

variable (past : List Event) (c : Context σ)

theorem take_preceded {α : Type} (x : Logged α) :
    (c.preceded past).take x = (x.value, (c.take x).2.preceded past) :=
  congrArg (fun host => (x.value, { c with host })) (Host.record_preceded past c.host x.records)

theorem expand_preceded (text : String) :
    (c.preceded past).expand text = ((c.expand text).1, (c.expand text).2.preceded past) :=
  take_preceded past c _

theorem log_preceded (level : Level) (message : String) :
    (c.preceded past).log level message = (c.log level message).preceded past :=
  congrArg (fun host => { c with host }) (Host.record_preceded past c.host _)

theorem acquire_preceded (id : ObjectId) :
    (c.preceded past).acquire id = (c.acquire id).preceded past := rfl

theorem noted_preceded (name : String) :
    (c.preceded past).noted name = (c.noted name).preceded past :=
  congrArg Prod.snd (take_preceded past c (c.view name).aliasTarget)

/-- A step of the host that does not read the journal. -/
theorem onHost_preceded {α : Type} {step : Host σ → α × Host σ}
    (blind : step (c.host.preceded past) = ((step c.host).1, (step c.host).2.preceded past)) :
    (c.preceded past).onHost step = ((c.onHost step).1, (c.onHost step).2.preceded past) :=
  congrArg (fun s : α × Host σ => (s.1, { c with host := s.2 })) blind

theorem loadLibrary_preceded (library : String) :
    (c.preceded past).loadLibrary library =
      ((c.loadLibrary library).1, (c.loadLibrary library).2.preceded past) := by
  unfold loadLibrary
  split
  · rfl
  · exact onHost_preceded past c (Host.load_preceded past c.host c.paths library)

theorem instantiate_preceded (name : String) :
    (c.preceded past).instantiate name =
      ((c.instantiate name).1, (c.instantiate name).2.preceded past) := by
  unfold instantiate
  rw [show (c.preceded past).view name = c.view name from rfl]
  cases (c.view name).validated with
  | error e => rfl
  | ok d =>
      let named := (c.take (c.view name).library).2
      simp only [take_preceded, loadLibrary_preceded]
      rw [show c.take (c.view name).library = ((c.view name).library.value, named) from rfl]
      simp only
      cases named.loadLibrary (c.view name).library.value with
      | mk r after =>
          cases r with
          | error e => rfl
          | ok u =>
              simp only
              rw [show (after.preceded past).view name = after.view name from rfl]
              simp only [take_preceded, log_preceded]
              exact onHost_preceded past _ (Host.construct_preceded past _ _)

theorem begun_preceded (keep : Bool) (name : String) (id : ObjectId) :
    (c.preceded past).begun keep name id = (c.begun keep name id).preceded past := by
  cases keep with
  | false => exact congrArg Prod.snd (take_preceded past c (c.view name).properties)
  | true =>
      exact congrArg Prod.snd
        (take_preceded past (c.register name id) ((c.register name id).view name).properties)

variable [Lifecycle σ]

theorem release_preceded (id : ObjectId) :
    (c.preceded past).release id = (c.release id).preceded past :=
  congrArg (fun host => { c with host }) (Host.release_preceded past c.host id)

theorem inject_preceded (id : ObjectId) (name : String) (value : Given) :
    (c.preceded past).inject id name value =
      ((c.inject id name value).1, (c.inject id name value).2.preceded past) :=
  onHost_preceded past c (Host.inject_preceded past c.host id name value)

theorem injectResult_preceded (id : ObjectId) (name : String) (value : Except Error Given) :
    (c.preceded past).injectResult id name value =
      ((c.injectResult id name value).1, (c.injectResult id name value).2.preceded past) := by
  cases value with
  | ok v => exact inject_preceded past c id name v
  | error e => rfl

theorem injectPlain_preceded (owner : String) (id : ObjectId) (p : Property) (name : String) :
    (c.preceded past).injectPlain owner id p name =
      ((c.injectPlain owner id p name).1, (c.injectPlain owner id p name).2.preceded past) := by
  unfold injectPlain
  split
  · simp only [expand_preceded, injectResult_preceded]
  · simp only [expand_preceded, inject_preceded]
  · simp only [expand_preceded, injectResult_preceded]
  · simp only [expand_preceded, inject_preceded]
  · split
    · simp only [skipMalformed, log_preceded]
    · let collected := collectPairs c.environment owner name 1 [] p.pairs
      rw [show c.take collected = (collected.value, (c.take collected).2) from rfl,
        show (c.preceded past).environment = c.environment from rfl, take_preceded]
      cases collected.value with
      | complete entries => exact inject_preceded past _ id name _
      | abandoned => exact congrArg (Prod.mk _) (log_preceded past _ _ _)
      | failed e => rfl

theorem callDone_preceded (owner : String) (id : ObjectId) :
    (c.preceded past).callDone owner id =
      ((c.callDone owner id).1, (c.callDone owner id).2.preceded past) := by
  unfold callDone
  rw [show (c.preceded past).host.hasHook id doneHook = c.host.hasHook id doneHook from rfl]
  split
  · rw [onHost_preceded past c (Host.call_preceded past c.host id doneHook)]
    cases c.onHost fun h => h.call id doneHook with
    | mk r after =>
        cases r with
        | ok u => rfl
        | error e => simp only [log_preceded]
  · rfl

/-! ## Runs -/

variable {past c}

/-- **What was entered before makes no difference to a run.** -/
theorem Runs.preceded {job : Job} {c' : Context σ} {r : Except Error ObjectId}
    (runs : Runs job c r c') (past : List Event) :
    Runs job (c.preceded past) r (c'.preceded past) := by
  have wants {c : Context σ} {name target : String} (wants : Wants c name target) :
      Wants (c.preceded past) name target := ⟨wants.missing, wants.leads, wants.absent⟩
  have built {c c₁ : Context σ} {name target : String} {made : Except Error ObjectId}
      (built : (c.noted name).instantiate target = (made, c₁)) :
      ((c.preceded past).noted name).instantiate target = (made, c₁.preceded past) := by
    rw [noted_preceded, instantiate_preceded, built]
  have filling {c₁ c₂ : Context σ} {keep : Bool} {target : String} {id : ObjectId}
      {r : Except Error ObjectId}
      (filling : Runs (.filling target id ((c₁.enrolled keep target id).properties target))
        ((c₁.begun keep target id).preceded past) r c₂) :
      Runs (.filling target id (((c₁.preceded past).enrolled keep target id).properties target))
        ((c₁.preceded past).begun keep target id) r c₂ := by
    rw [begun_preceded]
    cases keep <;> exact filling
  have asked {c c' : Context σ} {text : String} {r : Except Error ObjectId}
      (answered : Runs (.request true (c.expand text).1) ((c.expand text).2.preceded past) r c') :
      Runs (.request true ((c.preceded past).expand text).1) ((c.preceded past).expand text).2 r
        c' := by
    rw [expand_preceded]
    exact answered
  induction runs with
  | live found => exact .live found
  | astray missing leads =>
      rw [← noted_preceded]
      exact .astray missing leads
  | followed missing leads found =>
      rw [← acquire_preceded, ← noted_preceded]
      exact .followed missing leads found
  | unfit wanted failed => exact .unfit (wants wanted) (built failed)
  | complete wanted made filled called ih =>
      refine .complete (wants wanted) (built made) (filling ih) ?_
      rw [callDone_preceded, called]
  | undone wanted made filled called ih =>
      rw [← release_preceded]
      refine .undone (wants wanted) (built made) (filling ih) ?_
      rw [callDone_preceded, called]
  | broken wanted made failed ih =>
      rw [← release_preceded]
      exact .broken (wants wanted) (built made) (filling ih)
  | filled => exact .filled
  | nameless unnamed rest ih =>
      rw [← log_preceded] at ih
      exact .nameless unnamed ih
  | plain named value injected rest ih =>
      refine .plain named value ?_ ih
      rw [injectPlain_preceded, injected]
  | plainFails named value failed =>
      rw [← log_preceded]
      refine .plainFails named value ?_
      rw [injectPlain_preceded, failed]
  | reference named refers made injected rest made_ih ih =>
      rw [← release_preceded] at ih
      refine .reference named refers (asked made_ih) ?_ ih
      rw [inject_preceded, injected]
  | targetFails named refers failed ih =>
      rw [← log_preceded, ← log_preceded]
      exact .targetFails named refers (asked ih)
  | setterFails named refers made failed ih =>
      rw [← log_preceded, ← release_preceded]
      refine .setterFails named refers (asked ih) ?_
      rw [inject_preceded, failed]

theorem create_preceded (past : List Event) (c : Context σ) (name : String) :
    (c.preceded past).create name = ((c.create name).1, (c.create name).2.preceded past) :=
  create_of_runs ((runs_create c name).preceded past)

theorem createDetached_preceded (past : List Event) (c : Context σ) (name : String) :
    (c.preceded past).createDetached name =
      ((c.createDetached name).1, (c.createDetached name).2.preceded past) :=
  createDetached_of_runs ((runs_createDetached c name).preceded past)

end Context

end Wiring
