/-
# Wiring.Proofs.Context.Operations -- all that callers do with a context

A context is built, asked for instances any number of times, and shut down; callers
give up handles in between.  `operate` carries out one such call, whatever comes of
it, and `operateAll` a whole sequence.

Every context that was built and then operated on is consistent.  Short of a shutdown
it only ever grows (`grown_operateAll`).
-/
import Wiring.Context.Build
import Wiring.Proofs.Creation.Growth

namespace Wiring.Context

set_option autoImplicit false

open Wiring.Component
open Wiring.Config (Environment)

variable {σ : Type} [Lifecycle σ]

/-! ## Operations -/

inductive Operation where
  | create (name : String)
  | createAs (name : String) (target : TypeName)
  | createDetached (name : String)
  | find (name : String)
  | findAs (name : String) (target : TypeName)
  | release (id : ObjectId)
  | shutdown
  deriving DecidableEq

def operate (c : Context σ) : Operation → Context σ
  | .create name => (c.create name).2
  | .createAs name target => (c.createAs name target).2
  | .createDetached name => (c.createDetached name).2
  | .find name => (c.find name).2
  | .findAs name target => (c.findAs name target).2
  | .release id => c.release id
  | .shutdown => c.shutdown

def operateAll (c : Context σ) (calls : List Operation) : Context σ := calls.foldl operate c

/-! ## Growth -/

theorem goes_create (c : Context σ) (name : String) : Goes c (c.create name).2 :=
  (runs_create c name).goes

theorem goes_createDetached (c : Context σ) (name : String) : Goes c (c.createDetached name).2 :=
  (runs_createDetached c name).goes

theorem goes_castHandle (c : Context σ) (id : ObjectId) (target : TypeName) :
    Goes c (c.castHandle id target).2 := by
  unfold castHandle
  split
  · exact .refl c
  · exact (Goes.refl c).silent (silent_release c id)

theorem goes_createAs (c : Context σ) (name : String) (target : TypeName) :
    Goes c (c.createAs name target).2 := by
  have created := goes_create c name
  unfold createAs
  cases made : c.create name with
  | mk r after =>
      rw [made] at created
      cases r with
      | error e => exact created
      | ok id => exact created.trans (goes_castHandle after id target)

omit [Lifecycle σ] in
theorem silent_find (c : Context σ) (name : String) : Silent c (c.find name).2 := by
  have expanded := silent_take c (c.view name).aliasTarget
  unfold find
  split
  · exact silent_acquire c _
  · split
    · next result =>
      rw [result] at expanded
      exact expanded
    · next result =>
      rw [result] at expanded
      split
      · exact expanded
      · split
        · exact expanded.trans (silent_acquire _ _)
        · exact expanded

theorem goes_findAs (c : Context σ) (name : String) (target : TypeName) :
    Goes c (c.findAs name target).2 := by
  have looked := (Goes.refl c).silent (silent_find c name)
  unfold findAs
  cases found : c.find name with
  | mk answer after =>
      rw [found] at looked
      cases answer with
      | none => exact looked
      | some id =>
          have used := looked.trans (goes_castHandle after id target)
          simp only
          cases cast : after.castHandle id target with
          | mk r final =>
              rw [cast] at used
              cases r <;> exact used

/-- One call advances a context. -/
theorem goes_operate (c : Context σ) {call : Operation} (running : call ≠ .shutdown) :
    Goes c (c.operate call) := by
  cases call with
  | create name => exact goes_create c name
  | createAs name target => exact goes_createAs c name target
  | createDetached name => exact goes_createDetached c name
  | find name => exact (Goes.refl c).silent (silent_find c name)
  | findAs name target => exact goes_findAs c name target
  | release id => exact (Goes.refl c).silent (silent_release c id)
  | shutdown => exact absurd rfl running

theorem goes_operateAll (c : Context σ) {calls : List Operation} (running : .shutdown ∉ calls) :
    Goes c (c.operateAll calls) := by
  induction calls generalizing c with
  | nil => exact .refl c
  | cons call rest ih =>
      simp only [List.mem_cons, not_or] at running
      exact (goes_operate c (Ne.symm running.1)).trans (ih _ running.2)

theorem grown_create {c : Context σ} (consistent : Consistent c) (name : String) :
    Grown c (c.create name).2 := (goes_create c name).grown consistent

/-- **Until it is shut down, a context only grows.** -/
theorem grown_operateAll {c : Context σ} (consistent : Consistent c) {calls : List Operation}
    (running : .shutdown ∉ calls) : Grown c (c.operateAll calls) :=
  (goes_operateAll c running).grown consistent

/-! ## Consistency from the beginning -/

omit [Lifecycle σ] in
/-- A context without instances is consistent. -/
theorem consistent_of_owned_nil {c : Context σ} (owned : c.owned = []) (index : c.index = []) :
    Consistent c := by
  have names : c.names = [] := by simp [Context.names, owned]
  refine ⟨⟨?_, ?_, ?_, ?_, ?_⟩, ?_⟩ <;> simp [names, owned, index]

theorem consistent_shutdown {c : Context σ} (consistent : Consistent c) :
    Consistent c.shutdown := by
  unfold shutdown
  split
  · exact consistent
  · exact consistent_of_owned_nil rfl rfl

theorem goes_createEarly (c : Context σ) (names : List String) :
    Goes c (c.createEarly names).2 := by
  induction names generalizing c with
  | nil => exact .refl c
  | cons name rest ih =>
      have noted := (Goes.refl c).silent (silent_log c .info s!"Creating early instance '{name}'")
      have created := noted.trans (goes_create _ name)
      unfold createEarly
      cases made : (c.log .info s!"Creating early instance '{name}'").create name with
      | mk r after =>
          rw [made] at created
          cases r with
          | error e => exact created
          | ok id => exact (created.silent (silent_release after id)).trans (ih _)

theorem consistent_start {c : Context σ} (owned : c.owned = []) (index : c.index = [])
    (avoidEarly : Bool) : Consistent (c.start avoidEarly).2 := by
  have published : Consistent c.publish.2 := consistent_of_owned_nil owned index
  unfold start
  cases made : c.publish with
  | mk r after =>
      rw [made] at published
      cases r with
      | error e => exact published
      | ok u =>
          simp only
          split
          · exact published
          · exact ((goes_createEarly _ _).grown published).1

theorem goes_start (c : Context σ) (avoidEarly : Bool) :
    Goes c.publish.2 (c.start avoidEarly).2 := by
  unfold start
  cases made : c.publish with
  | mk r after =>
      cases r with
      | error e => exact .refl after
      | ok u =>
          simp only
          split
          · exact .refl after
          · exact goes_createEarly after _

theorem document_shutdown (c : Context σ) : c.shutdown.document = c.document := by
  unfold shutdown
  split <;> rfl

/-- A build keeps the document, and what it leaves is not shut down unless it failed. -/
theorem build_keeps (host : Host σ) (environment : Environment) (document : Document)
    (options : Options) : (build host environment document options).2.document = document ∧
      ((build host environment document options).1 = .ok () →
        (build host environment document options).2.shutDown = false) := by
  let bare : Context σ :=
    { host, document, environment, paths := searchPath environment options.paths }
  have scanned : OnlyHost bare (bare.onHost Host.scan).2 := rfl
  unfold build
  simp only
  cases scan : bare.onHost Host.scan with
  | mk r after =>
      rw [scan] at scanned
      have same : after.document = document ∧ after.shutDown = false :=
        ⟨scanned.document, scanned.shutDown⟩
      cases r with
      | error e => exact ⟨same.1, by simp⟩
      | ok u =>
          have goes := goes_start after options.avoidEarly
          have kept := goes.extended.document.trans same.1
          have running := goes.fixed.2.trans same.2
          simp only
          cases start : after.start options.avoidEarly with
          | mk r c =>
              rw [start] at kept running
              cases r with
              | ok u => exact ⟨kept, fun _ => running⟩
              | error e =>
                  exact ⟨(document_shutdown _).trans kept, by simp⟩

/-- **A context is consistent once it is built**, be it that the build fails. -/
theorem consistent_build (host : Host σ) (environment : Environment) (document : Document)
    (options : Options) : Consistent (build host environment document options).2 := by
  let bare : Context σ :=
    { host, document, environment, paths := searchPath environment options.paths }
  have scanned : OnlyHost bare (bare.onHost Host.scan).2 := rfl
  unfold build
  simp only
  cases scan : bare.onHost Host.scan with
  | mk r after =>
      rw [scan] at scanned
      have owned : after.owned = [] := scanned.owned
      have index : after.index = [] := scanned.index
      cases r with
      | error e => exact consistent_of_owned_nil owned index
      | ok u =>
          have started := consistent_start owned index options.avoidEarly
          simp only
          cases start : after.start options.avoidEarly with
          | mk r c =>
              rw [start] at started
              cases r with
              | ok u => exact (grown_of_silent started (silent_log _ _ _)).1
              | error e =>
                  exact consistent_shutdown (grown_of_silent started (silent_log _ _ _)).1

/-- Whatever is done with a context that was built, it is consistent. -/
theorem consistent_operateAll {c : Context σ} (consistent : Consistent c) (calls : List Operation) :
    Consistent (c.operateAll calls) := by
  induction calls generalizing c with
  | nil => exact consistent
  | cons call rest ih =>
      refine ih ?_
      by_cases last : call = .shutdown
      · rw [last]
        exact consistent_shutdown consistent
      · exact ((goes_operate c last).grown consistent).1

end Wiring.Context
