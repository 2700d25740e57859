/-
# Wiring.Proofs.Creation.Moments -- when the hook of a new instance is called

A filling goes through the entries of its instance one by one (`Runs.through`), and
when none is left the hook is called.  The journal shows no other such calls: for each
that is entered in the course of a job, the job passes through the end of the filling of
that instance, with just that much entered before (`Runs.heard`).
-/
import Wiring.Proofs.Context.Reached

namespace Wiring.Context

set_option autoImplicit false

open Wiring.Component
open Wiring.Document (Property)

variable {σ : Type} {c c₁ c' : Context σ} {owner name target : String} {id : ObjectId}

/-! ## No hook of a new instance -/

/-- A context advanced, and the hook of no new instance was called. -/
structure Hushed (c c' : Context σ) : Prop where
  goes : Goes c c'
  none : ∃ es, c.host.Follows c'.host es ∧ hookCalls doneHook es = []

theorem hookCalls_of_quiet {es : List Event} (quiet : Quiet es) (hook : String) :
    hookCalls hook es = [] := by
  rw [← hookCalls_filter_isCall, quiet.filter_isCall]
  rfl

theorem split_of_mem_hookCalls {hook : String} {es : List Event} (member : id ∈ hookCalls hook es) :
    ∃ before after, es = before ++ .called id hook :: after := by
  obtain ⟨e, there, named⟩ := List.mem_filterMap.1 member
  cases e with
  | called x h =>
      obtain ⟨rfl, rfl⟩ : h = hook ∧ x = id := by simpa using named
      exact List.append_of_mem there
  | _ => cases named

namespace Hushed

theorem trans {a b c : Context σ} (first : Hushed a b) (second : Hushed b c) : Hushed a c := by
  obtain ⟨goes, es, follows, none⟩ := first
  obtain ⟨goes', fs, follows', none'⟩ := second
  refine ⟨goes.trans goes', es ++ fs, follows.trans follows', ?_⟩
  rw [hookCalls_append, none, none', List.append_nil]

theorem of_silent (silent : Silent c c') : Hushed c c' := by
  obtain ⟨es, quiet, passes⟩ := silent
  exact ⟨.passes passes, es, passes.follows, hookCalls_of_quiet quiet doneHook⟩

/-- An instance that is begun has not been called yet. -/
theorem begun {keep : Bool} (wants : Wants c name target)
    (built : (c.noted name).instantiate target = (.ok id, c₁)) :
    Hushed c (c₁.begun keep target id) := by
  obtain ⟨⟨es, quiet, passes⟩, _⟩ := silent_of_built built
  obtain ⟨fs, quiet', follows⟩ := quiet_begun c₁ keep target id
  exact ⟨.single (.begins wants built), _, passes.follows.trans follows,
    hookCalls_of_quiet (quiet.append quiet') doneHook⟩

variable [Lifecycle σ]

theorem inject {value : Given} {r : Except Error Unit}
    (injected : c.inject id name value = (r, c')) : Hushed c c' := by
  obtain ⟨es, quiet, passes⟩ := passes_of_inject injected
  exact ⟨.passes passes, _, passes.follows, hookCalls_of_quiet quiet doneHook⟩

theorem injectPlain {p : Property} {r : Except Error Unit}
    (injected : c.injectPlain owner id p name = (r, c')) : Hushed c c' := by
  refine ⟨(Goes.refl c).serves (serves_of_injectPlain injected), ?_⟩
  have of_does {ds : List Deed} (does : c.host.Does ds c'.host)
      (none : hookCalls doneHook (ds.filterMap Deed.event?) = []) :
      ∃ es, c.host.Follows c'.host es ∧ hookCalls doneHook es = [] := by
    obtain ⟨es, follows, calls⟩ := does.journal
    exact ⟨es, follows, by rw [← hookCalls_filter_isCall, calls, none]⟩
  have taken := injectPlain_taken injected
  unfold Taken at taken
  split at taken
  · exact of_does taken.2.does rfl
  · exact of_does taken.2.does rfl
  · exact of_does taken.does rfl

end Hushed

/-- The hook is the first thing that is called, if there is one. -/
theorem entered_of_callDone [Lifecycle σ] {r : Except Error Unit}
    (called : c.callDone owner id = (r, c')) :
    (∃ es, Quiet es ∧ c.host.Follows c'.host (.called id doneHook :: es)) ∨ c' = c := by
  obtain ⟨es, quiet, follows⟩ := Host.follows_call c.host id doneHook
  unfold Context.callDone at called
  split at called
  · left
    cases result : c.host.call id doneHook with
    | mk outcome host =>
        rw [result] at follows
        rw [onHost_eq result] at called
        cases outcome with
        | ok u =>
            cases called
            exact ⟨es, quiet, follows⟩
        | error e =>
            cases called
            have logged := Host.follows_enter host (List.map .logged [entry .error
              s!"Hook '{doneHook}' failed for '{owner}': {e.message}"])
            exact ⟨_, quiet.append (quiet_logged _), follows.trans logged⟩
  · cases called
    exact .inr rfl

/-! ## Going through -/

variable [Lifecycle σ] {job job₁ job' : Job} {r : Except Error ObjectId}

theorem Inside.trans (first : Inside job c job₁ c₁) (second : Inside job₁ c₁ job' c') :
    Inside job c job' c' := by
  induction second with
  | refl => exact first
  | next inside opens ih => exact .next (ih first) opens

theorem Opens.inside (opens : Opens job c job' c') : Inside job c job' c' :=
  .next (.refl job c) opens

/-- **A filling that succeeds goes through all entries.** -/
theorem Runs.through {ps : List Property} (runs : Runs job c r c')
    (filling : job = .filling owner id ps) {answer : ObjectId} (ok : r = .ok answer) :
    Inside job c (.filling owner id []) c' := by
  induction runs generalizing ps with
  | filled =>
      cases filling
      exact .refl _ _
  | nameless unnamed rest ih =>
      cases filling
      exact (Opens.nameless unnamed).inside.trans (ih rfl ok)
  | plain named value injected rest ih =>
      cases filling
      exact (Opens.plain named value injected).inside.trans (ih rfl ok)
  | reference named refers made injected rest _ ih =>
      cases filling
      exact (Opens.reference named refers made injected).inside.trans (ih rfl ok)
  | plainFails | targetFails | setterFails => cases ok
  | live | astray | followed | unfit | complete | undone | broken => cases filling

/-! ## Moments -/

/-- The moment in a job at which the hook of a new instance is called: all entries of the instance
have been gone through, this much has been entered since the job began, and the job goes on from
there. -/
def Moment (job : Job) (c c' : Context σ) (before : List Event) (id : ObjectId) : Prop :=
  ∃ name b, Inside job c (.filling name id []) b ∧ Goes b c' ∧
    b.host.journal = c.host.journal ++ before

/-- What was entered in the course of a job, and that each call of the hook of a new instance has
its moment. -/
structure Heard (job : Job) (c c' : Context σ) : Prop where
  goes : Goes c c'
  moments : ∃ es, c.host.Follows c'.host es ∧
    ∀ {before x after}, es = before ++ .called x doneHook :: after → Moment job c c' before x

namespace Heard

theorem refl (job : Job) (c : Context σ) : Heard job c c :=
  ⟨.refl c, [], .refl c.host, fun split => by simp at split⟩

/-- What is entered later has its moments as well. -/
theorem append {es : List Event} (first : Heard job c c₁) (goes : Goes c₁ c')
    (entered : c₁.host.Follows c'.host es)
    (later : ∀ {before x after}, es = before ++ .called x doneHook :: after →
      ∃ name b, Inside job c (.filling name x []) b ∧ Goes b c' ∧
        b.host.journal = c₁.host.journal ++ before) : Heard job c c' := by
  obtain ⟨began, start, follows, moments⟩ := first
  refine ⟨began.trans goes, start ++ es, follows.trans entered, fun {before x after} split => ?_⟩
  have of_later {more : List Event} (same : before = start ++ more)
      (there : es = more ++ .called x doneHook :: after) : Moment job c c' before x := by
    obtain ⟨name, b, inside, goes, journal⟩ := later there
    refine ⟨name, b, inside, goes, ?_⟩
    rw [journal, follows.journal, same, List.append_assoc]
  -- The call is one of the later events, or one of the first.
  rcases List.append_eq_append_iff.1 split with ⟨more, same, there⟩ | ⟨rest, same, there⟩
  · exact of_later same there
  · cases rest with
    | nil =>
        have none : before = start ++ [] := by rw [same, List.append_nil, List.append_nil]
        exact of_later none there.symm
    | cons e rest =>
        cases there
        obtain ⟨name, b, inside, went, journal⟩ := moments same
        exact ⟨name, b, inside, went.trans goes, journal⟩

/-- In the end no more such hooks are called. -/
theorem hush (first : Heard job c c₁) (last : Hushed c₁ c') : Heard job c c' := by
  obtain ⟨goes, es, follows, none⟩ := last
  refine first.append goes follows fun {before x after} split => ?_
  have member : x ∈ hookCalls doneHook es := by simp [split, hookCalls]
  simp [none] at member

theorem hushed (hushed : Hushed c c') : Heard job c c' := (refl job c).hush hushed

/-- A job inside a job. -/
theorem andThen (first : Heard job c c₁) (inside : Inside job c job₁ c₁)
    (second : Heard job₁ c₁ c') : Heard job c c' := by
  obtain ⟨goes, es, follows, moments⟩ := second
  refine first.append goes follows fun split => ?_
  obtain ⟨name, b, within, goes, journal⟩ := moments split
  exact ⟨name, b, inside.trans within, goes, journal⟩

/-- The hook of an instance whose entries have been gone through. -/
theorem callDone {r : Except Error Unit} (first : Heard job c c₁)
    (inside : Inside job c (.filling target id []) c₁)
    (called : c₁.callDone target id = (r, c')) : Heard job c c' := by
  have goes : Goes c₁ c' := (Goes.refl c₁).serves (serves_of_callDone called)
  rcases entered_of_callDone called with ⟨es, quiet, follows⟩ | rfl
  · refine first.append goes follows fun {before x after} split => ?_
    rcases List.cons_eq_append_iff.1 split with ⟨rfl, same⟩ | ⟨more, rfl, rest⟩
    · cases same
      exact ⟨target, c₁, inside, goes, (List.append_nil _).symm⟩
    · have member : x ∈ hookCalls doneHook es := by simp [rest, hookCalls]
      simp [hookCalls_of_quiet quiet] at member
  · exact first

/-- Filling an instance that was asked for. -/
theorem begins {keep : Bool} (wants : Wants c name target)
    (built : (c.noted name).instantiate target = (.ok id, c₁))
    (filling : Heard (.filling target id ((c₁.enrolled keep target id).properties target))
      (c₁.begun keep target id) c') : Heard (.request keep name) c c' :=
  (Heard.hushed (.begun wants built)).andThen (Opens.begins wants built).inside filling

/-- Answering what an entry refers to. -/
theorem follows {text : String} {p : Property} {ps : List Property} (named : p.name = some name)
    (refers : p.reference = some text)
    (made : Heard (.request true (c.expand text).1) (c.expand text).2 c') :
    Heard (.filling owner id (p :: ps)) c c' :=
  (Heard.hushed (.of_silent (silent_expand c text))).andThen (Opens.follows named refers).inside
    made

end Heard

/-- **Hooks of new instances are called at their moments**, and at no other time. -/
theorem Runs.heard (runs : Runs job c r c') : Heard job c c' := by
  induction runs with
  | live found => exact .hushed (.of_silent (silent_acquire _ _))
  | astray missing leads => exact .hushed (.of_silent (silent_take _ _))
  | followed missing leads found =>
      exact .hushed (.of_silent ((silent_take _ _).trans (silent_acquire _ _)))
  | unfit wants failed => exact .hushed (.of_silent (silent_of_unfit failed))
  | complete wants built filled called ih =>
      have through := (Opens.begins wants built).inside.trans (filled.through rfl rfl)
      exact (Heard.begins wants built ih).callDone through called
  | undone wants built filled called ih =>
      have through := (Opens.begins wants built).inside.trans (filled.through rfl rfl)
      exact ((Heard.begins wants built ih).callDone through called).hush
        (.of_silent (silent_release _ _))
  | broken wants built failed ih =>
      exact (Heard.begins wants built ih).hush (.of_silent (silent_release _ _))
  | filled => exact .refl _ _
  | nameless unnamed rest ih =>
      exact (Heard.hushed (.of_silent (silent_log _ _ _))).andThen
        (Opens.nameless unnamed).inside ih
  | plain named value injected rest ih =>
      exact (Heard.hushed (.injectPlain injected)).andThen
        (Opens.plain named value injected).inside ih
  | plainFails named value failed =>
      exact .hushed ((Hushed.injectPlain failed).trans (.of_silent (silent_log _ _ _)))
  | reference named refers made injected rest made_ih ih =>
      refine Heard.andThen ?_ (Opens.reference named refers made injected).inside ih
      exact ((Heard.follows named refers made_ih).hush (.inject injected)).hush
        (.of_silent (silent_release _ _))
  | targetFails named refers failed ih =>
      exact (Heard.follows named refers ih).hush
        (.of_silent ((silent_log _ _ _).trans (silent_log _ _ _)))
  | setterFails named refers made failed ih =>
      exact ((Heard.follows named refers ih).hush (.inject failed)).hush
        (.of_silent ((silent_release _ _).trans (silent_log _ _ _)))

end Wiring.Context
