/-
# Wiring.Proofs.Creation.Handing -- creations hand over one handle, and call no cleanup

A request that is answered hands over one handle to the object; one that fails hands
over none, and gives up the handle of what it was about to complete.  A filling leaves
the handles as they are.  So whatever becomes of a creation, the handles of others are
known after it, and owned instances stay alive (`Runs.tended`).

On the way stand the two steps that call a component on its own account: injecting a
value that is no reference, which is decided by the document and the environment
(`offer`), and the hook at the end.
-/
import Wiring.Proofs.Context.Held
import Wiring.Proofs.Creation.Growth

namespace Wiring.Context

set_option autoImplicit false

open Wiring.Component
open Wiring.Config (Environment)
open Wiring.Document (Property)

variable {σ : Type}

/-! ## Values that are no references -/

/-- What is to be injected for an entry that holds no reference, if anything. -/
def offer (environment : Environment) (owner name : String) (p : Property) :
    Except Error (Option Given) :=
  match p.number, p.text, p.time, p.list with
  | some number, _, _, _ =>
    ((Expression.evaluate (environment.expand number).value).map .number).map some
  | none, some text, _, _ => .ok (some (.text (environment.expand text).value))
  | none, none, some time, _ =>
    ((Expression.parseDuration (environment.expand time).value).map .time).map some
  | none, none, none, some list =>
    .ok (some (.list (splitList (environment.expand list).value)))
  | none, none, none, none =>
    if p.pairs.isEmpty then .ok none
    else
      match (collectPairs environment owner name 1 [] p.pairs).value with
      | .complete entries => .ok (some (.map (sortEntries entries)))
      | .abandoned => .ok none
      | .failed e => .error e

variable [Lifecycle σ] {c c₁ c' : Context σ} {owner name : String} {id : ObjectId} {p : Property}
  {r : Except Error Unit}

/-- An entry was injected, left out or refused, as it was offered. -/
def Taken (c : Context σ) (id : ObjectId) (name : String) (offered : Except Error (Option Given))
    (r : Except Error Unit) (c' : Context σ) : Prop :=
  match offered with
  | .error e => r = .error e ∧ Proceeds c [] c'
  | .ok none => r = .ok () ∧ Proceeds c [] c'
  | .ok (some value) => Proceeds c [.injected id name value r] c'

theorem taken_inject (before : Proceeds c [] c₁) {value : Given}
    (result : c₁.inject id name value = (r, c')) : Taken c id name (.ok (some value)) r c' := by
  have after := before.trans (proceeds_inject c₁ id name value)
  rw [result] at after
  exact after

theorem taken_injectResult (before : Proceeds c [] c₁) {value : Except Error Given}
    (result : c₁.injectResult id name value = (r, c')) :
    Taken c id name (value.map some) r c' := by
  cases value with
  | error e =>
      cases result
      exact ⟨rfl, before⟩
  | ok value => exact taken_inject before result

theorem injectPlain_taken (result : c.injectPlain owner id p name = (r, c')) :
    Taken c id name (offer c.environment owner name p) r c' := by
  unfold injectPlain at result
  unfold offer
  generalize p.number = number at result ⊢
  generalize p.text = text at result ⊢
  generalize p.time = time at result ⊢
  generalize p.list = list at result ⊢
  match number, text, time, list, result with
  | some number, _, _, _, result => exact taken_injectResult (proceeds_expand c number) result
  | none, some text, _, _, result => exact taken_inject (proceeds_expand c text) result
  | none, none, some time, _, result => exact taken_injectResult (proceeds_expand c time) result
  | none, none, none, some list, result => exact taken_inject (proceeds_expand c list) result
  | none, none, none, none, result =>
    simp only at result ⊢
    by_cases empty : p.pairs.isEmpty
    · rw [if_pos empty] at result ⊢
      cases result
      exact ⟨rfl, proceeds_log c _ _⟩
    · let collected := collectPairs c.environment owner name 1 [] p.pairs
      have before := proceeds_take c collected
      rw [if_neg empty] at result ⊢
      rw [show c.take collected = (collected.value, (c.take collected).2) from rfl] at result
      show Taken c id name (match collected.value with
        | .complete entries => .ok (some (.map (sortEntries entries)))
        | .abandoned => .ok none
        | .failed e => .error e) r c'
      cases value : collected.value with
      | complete entries =>
          rw [value] at result
          exact taken_inject before result
      | abandoned =>
          rw [value] at result
          cases result
          exact ⟨rfl, before.trans (proceeds_log _ _ _)⟩
      | failed e =>
          rw [value] at result
          cases result
          exact ⟨rfl, before⟩

/-! ## The hook of a new instance -/

/-- The hook is called if there is one. -/
theorem callDone_cases (result : c.callDone owner id = (r, c')) :
    (c.host.hasHook id doneHook ∧ Proceeds c [.called id doneHook r] c') ∨
      ¬ c.host.hasHook id doneHook ∧ r = .ok () ∧ c' = c := by
  unfold callDone at result
  split at result
  · next bound =>
    have called : Proceeds c [.called id doneHook (c.host.call id doneHook).1]
        (c.onHost fun h => h.call id doneHook).2 :=
      .moves (.call c.host id doneHook) (Host.handles_call c.host id doneHook)
    have outcome : (c.host.call id doneHook).1 = (c.onHost fun h => h.call id doneHook).1 := rfl
    rw [outcome] at called
    left
    split at result
    · next after done =>
      rw [done] at called
      cases result
      exact ⟨bound, called⟩
    · next e after failed =>
      rw [failed] at called
      cases result
      exact ⟨bound, called.trans (proceeds_log _ _ _)⟩
  · next unbound =>
    cases result
    exact .inr ⟨unbound, rfl, rfl⟩

/-! ## Every run -/

/-- There is no bare instance to be had, and nothing was done. -/
theorem proceeds_of_unfit {target : String} {e : Error}
    (failed : (c.noted name).instantiate target = (.error e, c')) : Proceeds c [] c' := by
  have noted : Proceeds c [] (c.noted name) := proceeds_take c (c.view name).aliasTarget
  rcases instantiate_proceeds (c.noted name) target with
    ⟨e', after, failed', proceeds⟩ | ⟨id, after, made, _⟩
  · rw [failed] at failed'
    cases failed'
    exact noted.trans proceeds
  · simp [failed] at made

/-- A new instance comes with a handle for whoever asked for it. -/
theorem tends_begun (keep : Bool) {target : String} {others : List ObjectId} (held : Held c others)
    (built : (c.noted name).instantiate target = (.ok id, c₁)) :
    Tends c [.made id] (c₁.begun keep target id) (id :: others) := by
  have noted := (proceeds_take c (c.view name).aliasTarget).tends held
  rcases instantiate_proceeds (c.noted name) target with
    ⟨e, after, failed, _⟩ | ⟨id', after, made, _, live, tends⟩
  · simp [failed] at built
  · rw [made] at built
    cases built
    have bare : Tends c [.made id] c₁ (id :: others) := noted.trans (tends noted.held)
    cases keep with
    | false => exact bare.trans ((proceeds_take _ _).tends bare.held)
    | true =>
        have registered : Tends c [.made id] (c₁.register target id) (id :: others) :=
          bare.trans (tends_register bare.held live target)
        exact registered.trans ((proceeds_take _ _).tends registered.held)

/-- No cleanup hook is called. -/
def Tame (ds : List Deed) : Prop := hookCalls cleanupHook (ds.filterMap Deed.event?) = []

theorem tame_nil : Tame [] := rfl

theorem tame_made (id : ObjectId) : Tame [.made id] := rfl

theorem tame_injected (id : ObjectId) (name : String) (value : Given) (r : Except Error Unit) :
    Tame [.injected id name value r] := rfl

theorem Tame.append {ds es : List Deed} (first : Tame ds) (second : Tame es) : Tame (ds ++ es) := by
  unfold Tame at *
  rw [List.filterMap_append, hookCalls_append, first, second, List.append_nil]

/-- A context tends to its handles, and cleans nothing up. -/
def Tended (c c' : Context σ) (others : List ObjectId) : Prop :=
  ∃ ds, Tame ds ∧ Tends c ds c' others

namespace Tended

variable {others more : List ObjectId}

theorem held (tended : Tended c c' others) : Held c' others := by
  obtain ⟨_, _, tends⟩ := tended
  exact tends.held

theorem refl (held : Held c others) : Tended c c others := ⟨[], tame_nil, held.tends⟩

theorem trans (first : Tended c c₁ more) (second : Tended c₁ c' others) : Tended c c' others := by
  obtain ⟨ds, tame, tends⟩ := first
  obtain ⟨es, tame', tends'⟩ := second
  exact ⟨ds ++ es, tame.append tame', tends.trans tends'⟩

/-- Tending, and then whatever tends to the handles left by that. -/
theorem andThen (first : Tended c c₁ more) (rest : Held c₁ more → Tended c₁ c' others) :
    Tended c c' others := first.trans (rest first.held)

theorem proceeds {ds : List Deed} (first : Tended c c₁ others) (tame : Tame ds)
    (proceeds : Proceeds c₁ ds c') : Tended c c' others :=
  first.trans ⟨ds, tame, proceeds.tends first.held⟩

/-- Steps that call no component. -/
theorem idle (first : Tended c c₁ others) (proceeds : Proceeds c₁ [] c') : Tended c c' others :=
  first.proceeds tame_nil proceeds

theorem acquire (first : Tended c c' others) (live : c'.host.heap.isLive id) :
    Tended c (c'.acquire id) (id :: others) :=
  first.trans ⟨[], tame_nil, tends_acquire first.held live⟩

theorem release (first : Tended c c' (id :: others)) : Tended c (c'.release id) others :=
  first.trans ⟨[], tame_nil, tends_release first.held⟩

theorem injectPlain (first : Tended c c₁ others)
    (result : c₁.injectPlain owner id p name = (r, c')) : Tended c c' others := by
  have taken := injectPlain_taken result
  unfold Taken at taken
  split at taken
  · exact first.idle taken.2
  · exact first.idle taken.2
  · exact first.proceeds (tame_injected ..) taken

theorem inject {value : Given} (first : Tended c c₁ others)
    (result : c₁.inject id name value = (r, c')) : Tended c c' others := by
  have injected := proceeds_inject c₁ id name value
  rw [result] at injected
  exact first.proceeds (tame_injected ..) injected

theorem callDone (first : Tended c c₁ others) (result : c₁.callDone owner id = (r, c')) :
    Tended c c' others := by
  rcases callDone_cases result with ⟨_, called⟩ | ⟨_, _, rfl⟩
  · refine first.proceeds ?_ called
    have other : doneHook ≠ cleanupHook := by decide
    simp [Tame, hookCalls, Deed.event?, other]
  · exact first

theorem begun (keep : Bool) {target : String} (held : Held c others)
    (built : (c.noted name).instantiate target = (.ok id, c₁)) :
    Tended c (c₁.begun keep target id) (id :: others) :=
  ⟨_, tame_made id, tends_begun keep held built⟩

end Tended

def Job.handed (r : Except Error ObjectId) : Job → List ObjectId
  | .request .. => r.toOption.toList
  | .filling .. => []

/-- **Creations keep the handles in order**: one more is held, of the answer, if there is one. -/
theorem Runs.tended {job : Job} {c c' : Context σ} {r : Except Error ObjectId}
    (runs : Runs job c r c') {others : List ObjectId} (held : Held c others) :
    Tended c c' (job.handed r ++ others) := by
  induction runs generalizing others with
  | live found => exact (Tended.refl held).acquire (held.live_of_lookup found)
  | astray missing leads => exact (Tended.refl held).idle (proceeds_take _ _)
  | @followed keep name target c id missing leads found =>
      have noted := (Tended.refl held).idle (proceeds_take c (c.view name).aliasTarget)
      exact noted.acquire (noted.held.live_of_lookup found)
  | unfit wants failed => exact (Tended.refl held).idle (proceeds_of_unfit failed)
  | @complete keep _ _ _ _ _ _ _ wants built filled called ih =>
      exact ((Tended.begun keep held built).andThen ih).callDone called
  | @undone keep _ _ _ _ _ _ _ _ wants built filled called ih =>
      exact (((Tended.begun keep held built).andThen ih).callDone called).release
  | @broken keep _ _ _ _ _ _ _ wants built failed ih =>
      exact ((Tended.begun keep held built).andThen ih).release
  | filled => exact .refl held
  | nameless unnamed rest ih => exact ((Tended.refl held).idle (proceeds_log _ _ _)).andThen ih
  | plain named value injected rest ih =>
      exact ((Tended.refl held).injectPlain injected).andThen ih
  | plainFails named value failed =>
      exact ((Tended.refl held).injectPlain failed).idle (proceeds_log _ _ _)
  | reference named refers made injected rest made_ih ih =>
      have answered := ((Tended.refl held).idle (proceeds_expand _ _)).andThen made_ih
      exact ((answered.inject injected).release).andThen ih
  | targetFails named refers failed ih =>
      have failed := ((Tended.refl held).idle (proceeds_expand _ _)).andThen ih
      exact (failed.idle (proceeds_log _ _ _)).idle (proceeds_log _ _ _)
  | setterFails named refers made failed ih =>
      have answered := ((Tended.refl held).idle (proceeds_expand _ _)).andThen ih
      exact ((answered.inject failed).release).idle (proceeds_log _ _ _)

end Wiring.Context
