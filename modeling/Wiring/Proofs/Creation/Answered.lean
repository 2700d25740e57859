/-
# Wiring.Proofs.Creation.Answered -- what a request that succeeds is made of

A request that succeeds is made of jobs that succeed, all the way down
(`Inside.succeeds`): the first that failed would have been the end of it.  So each
reference that comes up in its course is answered, and what it is answered with is
injected and is still there in the end (`Inside.receives`).
-/
import Wiring.Proofs.Creation.Determined
import Wiring.Proofs.Creation.Moments

namespace Wiring.Context

set_option autoImplicit false

open Wiring.Component
open Wiring.Document (Property)

variable {σ : Type} {c c₁ c₂ c' : Context σ} {name : String}

/-! ## Requests -/

/-- The name under which an instance is found or made if it is asked for by a name: that name if it
is live, or else what it leads to. -/
def Resolves (c : Context σ) (name target : String) : Prop :=
  ((c.lookup name).isSome ∧ target = name) ∨ c.lookup name = none ∧ c.leadsTo name = .ok target

variable [Lifecycle σ] {job job' : Job}

/-- A request is answered with what is live in the end under the name that it resolves to. -/
theorem Runs.resolves {value : ObjectId} (runs : Runs (.request true name) c (.ok value) c')
    (indexed : Indexed c) : ∃ target, c.Resolves name target ∧ c'.lookup target = some value := by
  rcases runs.answer indexed with live | ⟨missing, target, leads, live⟩
  · have grown := runs.goes
    exact ⟨name, .inl ⟨by rw [live]; rfl, rfl⟩,
      grown.extended.lookup indexed (grown.indexed indexed) live⟩
  · exact ⟨target, .inr ⟨missing, leads⟩, live⟩

/-- A request for an instance that is not live makes, fills and calls it. -/
theorem Runs.completed {keep : Bool} {target : String} {id : ObjectId}
    (runs : Runs (.request keep name) c (.ok id) c') (wants : Wants c name target) :
    ∃ c₁ c₂, (c.noted name).instantiate target = (.ok id, c₁) ∧
      Runs (.filling target id ((c₁.enrolled keep target id).properties target))
        (c₁.begun keep target id) (.ok id) c₂ ∧
      c₂.callDone target id = (.ok (), c') := by
  cases runs with
  | live found =>
      rw [wants.missing] at found
      cases found
  | followed _ leads found =>
      rw [wants.leads] at leads
      cases leads
      rw [wants.absent] at found
      cases found
  | complete wants' built filled called =>
      have leads := wants'.leads
      rw [wants.leads] at leads
      cases leads
      exact ⟨_, _, built, filled, called⟩

/-! ## Jobs -/

/-- A job succeeds in the course of what ends in a context. -/
def Succeeds (job : Job) (c last : Context σ) : Prop :=
  ∃ answer c', Runs job c (.ok answer) c' ∧ Goes c' last

/-- A job that succeeds turns to jobs that succeed. -/
theorem Opens.succeeds {last : Context σ} (opens : Opens job c job' c₁)
    (succeeds : Succeeds job c last) : Succeeds job' c₁ last := by
  obtain ⟨answer, c', runs, goes⟩ := succeeds
  -- The run of the job is determined, so it goes the way that the job turned.
  cases opens with
  | begins wants built =>
      obtain ⟨_, _, built', filled, called⟩ := runs.completed wants
      rw [built] at built'
      cases built'
      have last := (Goes.refl _).serves (serves_of_callDone called)
      exact ⟨_, _, filled, last.trans goes⟩
  | nameless unnamed =>
      cases runs with
      | nameless _ rest => exact ⟨_, _, rest, goes⟩
      | plain named | reference named => simp [unnamed] at named
  | plain named value injected =>
      cases runs with
      | nameless unnamed _ => simp [named] at unnamed
      | plain named' _ injected' rest =>
          rw [named] at named'
          cases named'
          rw [injected] at injected'
          cases injected'
          exact ⟨_, _, rest, goes⟩
      | reference _ refers => simp [value] at refers
  | follows named refers =>
      cases runs with
      | nameless unnamed _ => simp [named] at unnamed
      | plain _ value => simp [refers] at value
      | reference _ refers' made injected rest =>
          rw [refers] at refers'
          cases refers'
          obtain ⟨_, _, passes⟩ := passes_of_inject injected
          have later := ((Goes.passes passes).silent (silent_release _ _)).trans rest.goes
          exact ⟨_, _, made, later.trans goes⟩
  | reference named refers made injected =>
      cases runs with
      | nameless unnamed _ => simp [named] at unnamed
      | plain _ value => simp [refers] at value
      | reference named' refers' made' injected' rest =>
          rw [named] at named'
          cases named'
          rw [refers] at refers'
          cases refers'
          obtain ⟨same, rfl⟩ := made.unique made'
          cases same
          rw [injected] at injected'
          cases injected'
          exact ⟨_, _, rest, goes⟩

/-- **All jobs inside a job that succeeds succeed.** -/
theorem Inside.succeeds {last : Context σ} (inside : Inside job c job' c₁)
    (succeeds : Succeeds job c last) : Succeeds job' c₁ last := by
  induction inside with
  | refl => exact succeeds
  | next _ opens ih => exact opens.succeeds (ih succeeds)

/-! ## References -/

/-- A property of an instance received a reference, to what is live in the end under a name; this is
one of the events. -/
def Receives (id : ObjectId) (property target : String) (es : List Event) (last : Context σ) :
    Prop :=
  ∃ value, last.lookup target = some value ∧ .injected id property (.reference value) ∈ es

/-- **Each reference receives what its name resolves to** when it comes up. -/
theorem Inside.receives {last : Context σ} {owner property text : String} {id : ObjectId}
    {p : Property} {ps : List Property} {es : List Event} (indexed : Indexed c)
    (inside : Inside job c (.filling owner id (p :: ps)) c₁) (succeeds : Succeeds job c last)
    (named : p.name = some property) (refers : p.reference = some text)
    (entered : last.host.journal = c.host.journal ++ es) :
    ∃ target, c₁.Resolves (c₁.expand text).1 target ∧ Receives id property target es last := by
  obtain ⟨_, _, runs, goes⟩ := inside.succeeds succeeds
  have indexed₁ := inside.goes.indexed indexed
  cases runs with
  | nameless unnamed _ => simp [named] at unnamed
  | plain _ value => simp [refers] at value
  | @reference _ _ _ _ value _ _ _ b b' _ _ named' refers' made injected rest =>
      rw [named] at named'
      cases named'
      rw [refers] at refers'
      cases refers'
      have expanded := (Goes.refl c₁).silent (silent_expand c₁ text)
      obtain ⟨target, resolves, live⟩ := made.resolves (expanded.indexed indexed₁)
      have answered := inside.goes.trans (expanded.trans made.goes)
      obtain ⟨handed, _, passes⟩ := passes_of_inject injected
      have later := ((Goes.refl b').silent (silent_release b' value)).trans (rest.goes.trans goes)
      have all := (Goes.passes passes).trans later
      have indexed' := answered.indexed indexed
      refine ⟨target, resolves, value,
        all.extended.lookup indexed' (all.indexed indexed') live, ?_⟩
      obtain ⟨before, first⟩ := answered.follows
      obtain ⟨after, last⟩ := later.follows
      have journal := (first.trans (passes.follows.trans last)).journal
      rw [List.append_cancel_left (entered.symm.trans journal)]
      simp

end Wiring.Context
