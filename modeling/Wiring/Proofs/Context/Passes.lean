/-
# Wiring.Proofs.Context.Passes -- what the steps between two constructions do

Every step of a creation that is not itself a construction or a registration leaves
the context as it is and only moves its host on: `Passes c c' es`, with the events
entered on the way.  Most of them call no component (`Silent`).  Injecting a value
that is no reference, and the hook of a new instance, call that one instance and hand
it no reference (`Serves`).
-/
import Wiring.Context.Nesting
import Wiring.Proofs.Host.Journal

namespace Wiring.Context

set_option autoImplicit false

open Wiring.Component
open Wiring.Document (Property)
open Wiring.Logging (Level Logged)

variable {σ : Type}

/-! ## Passing -/

/-- Nothing but the host differs, which has entered these events since. -/
structure Passes (c c' : Context σ) (es : List Event) : Prop where
  only : OnlyHost c c'
  follows : c.host.Follows c'.host es

theorem Passes.refl (c : Context σ) : Passes c c [] := ⟨.refl c, .refl c.host⟩

theorem Passes.trans {a b c : Context σ} {es fs : List Event} (first : Passes a b es)
    (second : Passes b c fs) : Passes a c (es ++ fs) :=
  ⟨first.only.trans second.only, first.follows.trans second.follows⟩

/-- Nothing but the host differs, and no component has been called. -/
def Silent (c c' : Context σ) : Prop := ∃ es, Quiet es ∧ Passes c c' es

theorem Silent.refl (c : Context σ) : Silent c c := ⟨[], quiet_nil, .refl c⟩

theorem Silent.trans {a b c : Context σ} (first : Silent a b) (second : Silent b c) :
    Silent a c := by
  obtain ⟨es, quiet, passes⟩ := first
  obtain ⟨fs, quiet', passes'⟩ := second
  exact ⟨es ++ fs, quiet.append quiet', passes.trans passes'⟩

/-- Nothing but the host differs, and only one component has been called, with no references. -/
def Serves (id : ObjectId) (c c' : Context σ) : Prop :=
  ∃ es, Passes c c' es ∧ (∀ x ∈ callees es, x = id) ∧ ∀ x, referenceCalls x es = []

theorem Silent.serves {c c' : Context σ} (silent : Silent c c') (id : ObjectId) :
    Serves id c c' := by
  obtain ⟨es, quiet, passes⟩ := silent
  refine ⟨es, passes, ?_, quiet.referenceCalls⟩
  rw [show callees es = [] from quiet]
  simp

theorem Serves.trans {id : ObjectId} {a b c : Context σ} (first : Serves id a b)
    (second : Serves id b c) : Serves id a c := by
  obtain ⟨es, passes, called, none⟩ := first
  obtain ⟨fs, passes', called', none'⟩ := second
  refine ⟨es ++ fs, passes.trans passes', ?_, fun x => by simp [none, none']⟩
  intro x member
  rw [callees_append] at member
  rcases List.mem_append.1 member with member | member
  · exact called x member
  · exact called' x member

/-! ## Silent steps -/

theorem silent_take {α : Type} (c : Context σ) (x : Logged α) : Silent c (c.take x).2 :=
  ⟨_, quiet_logged x.records, rfl, Host.follows_enter c.host _⟩

theorem silent_expand (c : Context σ) (text : String) : Silent c (c.expand text).2 :=
  silent_take c _

theorem silent_log (c : Context σ) (level : Level) (message : String) :
    Silent c (c.log level message) :=
  ⟨_, quiet_logged [entry level message], rfl, Host.follows_enter c.host _⟩

theorem silent_acquire (c : Context σ) (id : ObjectId) : Silent c (c.acquire id) :=
  ⟨[], quiet_nil, rfl, Host.follows_acquire c.host id⟩

theorem silent_loadLibrary (c : Context σ) (library : String) :
    Silent c (c.loadLibrary library).2 := by
  unfold loadLibrary
  split
  · exact .refl c
  · obtain ⟨es, quiet, follows⟩ := Host.follows_load c.host c.paths library
    exact ⟨es, quiet, rfl, follows⟩

theorem onHost_eq {α : Type} {c : Context σ} {step : Host σ → α × Host σ} {a : α} {host : Host σ}
    (result : step c.host = (a, host)) : c.onHost step = (a, { c with host }) := by
  unfold onHost
  rw [result]

/-- A new bare instance has an identity that was not used before, and the next one comes after
it. -/
theorem instantiate_cases (c : Context σ) (name : String) :
    (∃ e c', c.instantiate name = (.error e, c') ∧ Silent c c') ∨
    ∃ id c', c.instantiate name = (.ok id, c') ∧ Silent c c' ∧
      c.host.heap.next ≤ id ∧ c'.host.heap.next = id + 1 := by
  unfold instantiate
  cases (c.view name).validated with
  | error e => exact .inl ⟨e, c, rfl, .refl c⟩
  | ok d =>
      have named := silent_take c (c.view name).library
      have loaded := silent_loadLibrary (c.take (c.view name).library).2
        (c.take (c.view name).library).1
      cases load : (c.take (c.view name).library).2.loadLibrary
          (c.take (c.view name).library).1 with
      | mk result after =>
          rw [load] at loaded
          simp only [load]
          cases result with
          | error e => exact .inl ⟨e, after, rfl, named.trans loaded⟩
          | ok u =>
              let className := (after.take (after.view name).className).1
              let ready := (after.take (after.view name).className).2.log .info
                s!"Creating '{name}' as {className}"
              have prepared : Silent c ready :=
                (named.trans loaded).trans ((silent_take _ _).trans (silent_log _ _ _))
              rcases Host.construct_cases ready.host className with
                ⟨e, failed⟩ | ⟨host, made, next, follows⟩
              · exact .inl ⟨e, ready, onHost_eq failed, prepared⟩
              · refine .inr
                  ⟨ready.host.heap.next, { ready with host }, onHost_eq made, ?_, ?_, next⟩
                · exact prepared.trans ⟨[.constructed _], rfl, rfl, follows⟩
                · obtain ⟨es, _, passes⟩ := prepared
                  exact passes.follows.next

/-! ## Calls -/

section Calls

variable [Lifecycle σ]

theorem silent_release (c : Context σ) (id : ObjectId) : Silent c (c.release id) :=
  ⟨_, Host.quiet_farewells _, rfl, Host.follows_release c.host id⟩

theorem passes_inject (c : Context σ) (id : ObjectId) (name : String) (value : Given) :
    ∃ es, Quiet es ∧ Passes c (c.inject id name value).2 (.injected id name value :: es) := by
  obtain ⟨es, quiet, follows⟩ := Host.follows_inject c.host id name value
  exact ⟨es, quiet, rfl, follows⟩

/-- Injecting anything but a reference. -/
theorem serves_inject (c : Context σ) (id : ObjectId) (name : String) {value : Given}
    (plain : value.kind ≠ .reference) : Serves id c (c.inject id name value).2 := by
  obtain ⟨es, quiet, passes⟩ := passes_inject c id name value
  refine ⟨_, passes, ?_, ?_⟩
  · intro x member
    have : callees (.injected id name value :: es) = id :: callees es := rfl
    rw [this, show callees es = [] from quiet] at member
    exact List.mem_singleton.1 member
  · intro x
    show referenceCalls x ([.injected id name value] ++ es) = []
    rw [referenceCalls_append, quiet.referenceCalls, List.append_nil]
    cases value <;> first | rfl | exact absurd rfl plain

theorem serves_injectResult {α : Type} (c : Context σ) (id : ObjectId) (name : String)
    (result : Except Error α) {given : α → Given} (plain : ∀ a, (given a).kind ≠ .reference) :
    Serves id c (c.injectResult id name (result.map given)).2 := by
  cases result with
  | ok a => exact serves_inject c id name (plain a)
  | error e => exact (Silent.refl c).serves id

theorem serves_injectPlain (c : Context σ) (owner : String) (id : ObjectId) (p : Property)
    (name : String) : Serves id c (c.injectPlain owner id p name).2 := by
  have expanded (text : String) : Serves id c (c.expand text).2 := (silent_expand c text).serves id
  unfold injectPlain
  split
  · exact (expanded _).trans (serves_injectResult _ id name _ (by simp [Given.kind]))
  · exact (expanded _).trans (serves_inject _ id name (by simp [Given.kind]))
  · exact (expanded _).trans (serves_injectResult _ id name _ (by simp [Given.kind]))
  · exact (expanded _).trans (serves_inject _ id name (by simp [Given.kind]))
  · split
    · exact (silent_log c _ _).serves id
    · have collected :=
        (silent_take c (collectPairs c.environment owner name 1 [] p.pairs)).serves id
      split
      · next result =>
        rw [result] at collected
        exact collected.trans (serves_inject _ id name (by simp [Given.kind]))
      · next result =>
        rw [result] at collected
        exact collected.trans ((silent_log _ _ _).serves id)
      · next result =>
        rw [result] at collected
        exact collected

theorem serves_callDone (c : Context σ) (owner : String) (id : ObjectId) :
    Serves id c (c.callDone owner id).2 := by
  have called : Serves id c (c.onHost fun h => h.call id doneHook).2 := by
    obtain ⟨es, quiet, follows⟩ := Host.follows_call c.host id doneHook
    refine ⟨_, ⟨rfl, follows⟩, ?_, ?_⟩
    · intro x member
      have : callees (.called id doneHook :: es) = id :: callees es := rfl
      rw [this, show callees es = [] from quiet] at member
      exact List.mem_singleton.1 member
    · exact fun x => quiet.referenceCalls x
  unfold callDone
  split
  · split
    · next result =>
      rw [result] at called
      exact called
    · next result =>
      rw [result] at called
      exact called.trans ((silent_log _ _ _).serves id)
  · exact (Silent.refl c).serves id

/-! Read from the result of a call: -/

variable {c c' : Context σ} {id : ObjectId} {owner name : String} {r : Except Error Unit}

theorem passes_of_inject {value : Given} (injected : c.inject id name value = (r, c')) :
    ∃ es, Quiet es ∧ Passes c c' (.injected id name value :: es) := by
  have passes := passes_inject c id name value
  rwa [injected] at passes

theorem serves_of_injectPlain {p : Property} (injected : c.injectPlain owner id p name = (r, c')) :
    Serves id c c' := by
  have serves := serves_injectPlain c owner id p name
  rwa [injected] at serves

theorem serves_of_callDone (called : c.callDone owner id = (r, c')) : Serves id c c' := by
  have serves := serves_callDone c owner id
  rwa [called] at serves

end Calls

end Wiring.Context
