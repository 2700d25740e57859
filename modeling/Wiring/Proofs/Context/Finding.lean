/-
# Wiring.Proofs.Context.Finding -- looking up and asking for an instance agree

`find` and `create` go their own ways to an instance: the one through the names that are
live, the other to the end of a creation.  In every state that can be reached they meet
(`find_agrees`): what is found is what `create` answers with if it does nothing but
answer (`Untouched`), and where nothing is found `create` fails or makes what it answers
with.
-/
import Wiring.Proofs.Config.Interpolation
import Wiring.Proofs.Context.Reached
import Wiring.Proofs.Creation.Determined
import Wiring.Proofs.Creation.Singleton
import Wiring.Proofs.Host.Presence

namespace Wiring.Context

set_option autoImplicit false

open Wiring.Component
open Wiring.Config (Environment)
open Wiring.Logging (Record)

variable {σ : Type} {c c' : Context σ} {n : String} {id : ObjectId}

/-! ## Answers that leave all as it was -/

/-- These records are about texts that are nested too deeply. -/
def Warnings (rs : List Record) : Prop := ∀ r ∈ rs, ∃ text, r = Environment.tooDeep text

/-- A context as it was, but for a handle to the answer, if there is one, and for warnings that were
logged. -/
def Untouched (c : Context σ) (answer : Option ObjectId) (c' : Context σ) : Prop :=
  ∃ rs, Warnings rs ∧ c' = { c with host := { c.host with
    heap := { c.host.heap with handles := answer.toList ++ c.host.heap.handles }
    journal := c.host.journal ++ rs.map .logged } }

namespace Untouched

/-- No object was made. -/
theorem next {answer : Option ObjectId} (untouched : Untouched c answer c') :
    c'.host.heap.next = c.host.heap.next := by
  obtain ⟨rs, _, rfl⟩ := untouched
  rfl

theorem noted (c : Context σ) (n : String) : Untouched c none (c.noted n) := by
  refine ⟨(c.view n).aliasTarget.records, ?_, rfl⟩
  intro r member
  unfold Document.View.aliasTarget at member
  split at member
  · exact absurd member List.not_mem_nil
  · next a _ =>
    have same (x : Except Error String) :
        (do let _ ← c.environment.expand a.target; pure x : Logging.Logged _).records =
          (c.environment.expand a.target).records := List.append_nil _
    exact Environment.records_expand _ _ r (same _ ▸ member)

theorem acquire (untouched : Untouched c none c') (live : c.host.heap.isLive id) :
    Untouched c (some id) (c'.acquire id) := by
  obtain ⟨rs, warnings, rfl⟩ := untouched
  refine ⟨rs, warnings, ?_⟩
  have handle : c.host.heap.acquire id =
      { c.host.heap with handles := id :: c.host.heap.handles } := if_pos live
  exact congrArg (fun heap => ({ c with host := { c.host with
    heap, journal := c.host.journal ++ rs.map .logged } } : Context σ)) handle

theorem refl (c : Context σ) : Untouched c none c :=
  ⟨[], List.forall_mem_nil _, by simp⟩

end Untouched

/-- A look-up leaves all as it was. -/
theorem untouched_find {others : List ObjectId} (held : Held c others) (n : String) :
    Untouched c (c.find n).1 (c.find n).2 := by
  rw [find_eq]
  cases found : c.lookup n with
  | some id => exact (Untouched.refl c).acquire (held.live_of_lookup found)
  | none =>
      simp only
      cases c.leadsTo n with
      | error e => exact .noted c n
      | ok target =>
          simp only
          cases live : c.lookup target with
          | some id => exact (Untouched.noted c n).acquire (held.live_of_lookup live)
          | none => exact .noted c n

variable [Lifecycle σ]

/-- Asking for what can be found is finding it. -/
theorem attempt_of_find {keep : Bool} (found : (c.find n).1 = some id) :
    c.attempt keep n = some (.ok id, (c.find n).2) := by
  rw [find_eq] at found ⊢
  cases here : c.lookup n with
  | some x =>
      simp only [here] at found ⊢
      cases found
      exact (Runs.live here).outcome
  | none =>
      simp only [here] at found ⊢
      cases leads : c.leadsTo n with
      | error e => simp [leads] at found
      | ok target =>
          simp only [leads] at found ⊢
          cases live : c.lookup target with
          | none => simp [live] at found
          | some x =>
              simp only [live] at found ⊢
              cases found
              exact (Runs.followed here leads live).outcome

/-- What is newer than all objects before was made by what was done since. -/
theorem mem_constructedIn {h h' : Host σ} {ds : List Deed} {x : ObjectId} (does : h.Does ds h')
    (low : h.heap.next ≤ x) (high : x < h'.heap.next) :
    ∃ es, h'.journal = h.journal ++ es ∧ x ∈ constructedIn es := by
  obtain ⟨es, follows, made⟩ := does.constructed
  exact ⟨es, follows.journal, made ▸ does.born.2 ⟨low, high⟩⟩

/-- What is asked for and cannot be found is made. -/
theorem Runs.made_of_find {keep : Bool} (runs : Runs (.request keep n) c (.ok id) c')
    (missing : (c.find n).1 = none) :
    c.host.heap.next ≤ id ∧ id < c'.host.heap.next := by
  have unseen {x : ObjectId} (sees : c.lookup n = some x ∨
      c.lookup n = none ∧ ∃ target, c.leadsTo n = .ok target ∧ c.lookup target = some x) :
      False := by
    have found := find_eq_some_iff.2 sees
    rw [missing] at found
    cases found
  cases runs with
  | live found => exact (unseen (.inl found)).elim
  | followed absent leads found => exact (unseen (.inr ⟨absent, _, leads, found⟩)).elim
  | complete wants built filled called =>
      obtain ⟨_, newer, used, _⟩ := silent_of_built built
      obtain ⟨_, _, begun⟩ := quiet_begun _ keep _ id
      have last := filled.goes.serves (serves_of_callDone called)
      exact ⟨newer, Nat.lt_of_lt_of_le used (Nat.le_trans begun.next last.extended.next)⟩

/-! ## Agreement -/

/-- **Looking up and asking agree.**  A look-up leaves all as it was.  It finds an object exactly if
a request is answered with that object and leaves all as it was, and then a request for a detached
instance does the same.  Where it finds nothing a request fails, or is answered with an object that
was made in its course. -/
theorem find_agrees {document : Document} (reached : Reached document c) (n : String) :
    Untouched c (c.find n).1 (c.find n).2 ∧
    (∀ id, (c.find n).1 = some id ↔
      ∃ c', c.create n = (.ok id, c') ∧ Untouched c (some id) c') ∧
    (∀ id, (c.find n).1 = some id →
      c.create n = (.ok id, (c.find n).2) ∧ c.createDetached n = (.ok id, (c.find n).2)) ∧
    ((c.find n).1 = none → ∀ id c', c.create n = (.ok id, c') →
      c.host.heap.next ≤ id ∧
        ∃ es, c'.host.journal = c.host.journal ++ es ∧ id ∈ constructedIn es) := by
  obtain ⟨others, held⟩ := reached.held
  have untouched := untouched_find held n
  have same (id : ObjectId) (found : (c.find n).1 = some id) :
      c.create n = (.ok id, (c.find n).2) ∧ c.createDetached n = (.ok id, (c.find n).2) :=
    ⟨Option.some.inj ((attempt_eq_create c n).symm.trans (attempt_of_find found)),
      Option.some.inj ((attempt_eq_createDetached c n).symm.trans (attempt_of_find found))⟩
  have runs {id : ObjectId} {c' : Context σ} (created : c.create n = (.ok id, c')) :
      Runs (.request true n) c (.ok id) c' := by
    have runs := runs_create c n
    rwa [created] at runs
  refine ⟨untouched, fun id => ⟨fun found => ?_, ?_⟩, same, fun missing id c' created => ?_⟩
  · exact ⟨_, (same id found).1, found ▸ untouched⟩
  · rintro ⟨c', created, idle⟩
    cases found : (c.find n).1 with
    | some x =>
        have answer := (same x found).1
        rw [created] at answer
        cases answer
        rfl
    | none =>
        obtain ⟨newer, older⟩ := (runs created).made_of_find found
        rw [idle.next] at older
        exact absurd older (Nat.not_lt.2 newer)
  · obtain ⟨newer, older⟩ := (runs created).made_of_find missing
    obtain ⟨ds, _, tends⟩ := (runs created).tended held
    exact ⟨newer, mem_constructedIn tends.does newer older⟩

/-- An alias is found once what it leads to is live, and not before. -/
theorem find_agrees_puzzled :
    let later := puzzled.operate (.create "a")
    (puzzled.find "a").1 = none ∧ (later.find "a").1 = some 0 ∧
      Untouched later (some 0) (later.find "a").2 ∧
      later.create "a" = (.ok 0, (later.find "a").2) := by
  intro later
  have start : Reached ambiguous puzzled := .built Heap.fresh_empty .empty {}
  have first : Happens puzzled (some (.create "a")) later := .called trivial
  have reached : Reached ambiguous later := start.next first
  have found : (later.find "a").1 = some 0 := by decide +kernel
  obtain ⟨untouched, _, same, _⟩ := find_agrees reached "a"
  exact ⟨by decide +kernel, found, found ▸ untouched, (same 0 found).1⟩

end Wiring.Context
