/-
# Wiring.Proofs.Context.Aliases -- an alias behaves as what it is an alias of

A name that is not live and is an alias of another goes the way of that other name:
whatever is asked of the one is answered as for the other, and leaves the same behind
(`StandsFor`), through references that come back to either name and failures on the
way.  Only warnings about the text of the alias, if it is nested too deeply, are logged
in addition, before anything else (`Warned`).

An alias of itself, and an alias of an alias that is no instance, are refused.  No mere
alias is ever live (`alias_as_target`).
-/
import Wiring.Proofs.Context.Finding
import Wiring.Proofs.Creation.Past

namespace Wiring.Context

set_option autoImplicit false

open Wiring.Component
open Wiring.Config (Environment)
open Wiring.Logging (Record)

variable {σ α : Type} {c : Context σ} {a t : String} {d : Document.Alias} {rs : List Record}

/-! ## The same but for warnings -/

/-- The same answer and the same context after it, but that these records were logged first. -/
def Warned (rs : List Record) (c : Context σ) (s s' : α × Context σ) : Prop :=
  ∃ es, s.2.host.journal = c.host.journal ++ es ∧
    s' = (s.1, { s.2 with host := { s.2.host with
      journal := c.host.journal ++ rs.map .logged ++ es } })

/-- Without records there is no difference. -/
theorem Warned.eq {s s' : α × Context σ} (warned : Warned [] c s s') : s' = s := by
  obtain ⟨es, journal, rfl⟩ := warned
  rw [List.map_nil, List.append_nil, ← journal]

/-- A call that does not depend on what was entered before. -/
def Blind (call : Context σ → α × Context σ) : Prop :=
  ∀ past c, call (c.preceded past) = ((call c).1, (call c).2.preceded past)

theorem Blind.warned {call : Context σ → α × Context σ} (blind : Blind call) (c : Context σ)
    (rs : List Record) :
    Warned rs c (call c) (call { c with host := c.host.record rs }) := by
  let bare : Context σ := { c with host := { c.host with journal := [] } }
  have before : c = bare.preceded c.host.journal := by simp [bare, preceded, Host.preceded]
  have after : { c with host := c.host.record rs } =
      bare.preceded (c.host.journal ++ rs.map .logged) := by
    simp [bare, preceded, Host.preceded, Host.record, Host.enter]
  have first := blind c.host.journal bare
  rw [← before] at first
  refine ⟨(call bare).2.host.journal, by rw [first]; rfl, ?_⟩
  rw [after, blind, first]
  rfl

theorem blind_find (n : String) : Blind fun c : Context σ => c.find n := by
  intro past c
  show (c.preceded past).find n = ((c.find n).1, (c.find n).2.preceded past)
  rw [find_eq, find_eq, show (c.preceded past).lookup = c.lookup from rfl,
    show (c.preceded past).leadsTo = c.leadsTo from rfl, noted_preceded]
  cases c.lookup n with
  | some id => rfl
  | none =>
      cases c.leadsTo n with
      | error e => rfl
      | ok target =>
          cases live : c.lookup target with
          | some id =>
              simp only [live]
              rfl
          | none => simp only [live]

/-! ## Following an alias -/

theorem noted_of_alias?_none (none : c.document.alias? a = none) : c.noted a = c := by
  have silent : (c.view a).aliasTarget.records = [] := by
    unfold Document.View.aliasTarget
    rw [show (c.view a).document.alias? (c.view a).name = Option.none from none]
    rfl
  show { c with host := c.host.record (c.view a).aliasTarget.records } = c
  rw [silent]
  simp [Host.record, Host.enter]

theorem noted_of_alias? (found : c.document.alias? a = some d) :
    c.noted a = { c with host := c.host.record (c.environment.expand d.target).records } := by
  have same : (c.view a).aliasTarget.records = (c.environment.expand d.target).records := by
    unfold Document.View.aliasTarget
    rw [show (c.view a).document.alias? (c.view a).name = some d from found]
    exact List.append_nil _
  exact congrArg (fun rs => { c with host := c.host.record rs }) same

section Followed

variable (missing : c.lookup a = none) (leads : c.leadsTo a = .ok t)
  (plain : c.document.alias? t = none)

include missing leads plain

/-- A look-up of an alias is a look-up of its target, once the alias is expanded. -/
theorem find_of_alias : c.find a = (c.noted a).find t := by
  have own : (c.noted a).leadsTo t = .ok t := leadsTo_of_alias?_none plain
  have same : (c.noted a).noted t = c.noted a := noted_of_alias?_none plain
  rw [find_eq, missing, leads, find_eq (c.noted a), own, same,
    show (c.noted a).lookup t = c.lookup t from rfl]
  cases live : c.lookup t with
  | some id => simp only [live]
  | none =>
      have absent : (c.noted a).lookup t = none := live
      simp only [live, absent]

variable [Lifecycle σ]

/-- A request for an alias is one for its target, once the alias is expanded. -/
theorem attempt_of_alias (keep : Bool) : c.attempt keep a = (c.noted a).attempt keep t := by
  have own : (c.noted a).leadsTo t = .ok t := leadsTo_of_alias?_none plain
  have same : (c.noted a).noted t = c.noted a := noted_of_alias?_none plain
  rw [attempt_within_assemble, resolve_of_missing _ missing, leads, attempt_within_assemble]
  cases live : c.lookup t with
  | some id =>
      rw [resolve, show (c.noted a).lookup t = some id from live]
      simp only [live]
  | none =>
      have absent : (c.noted a).lookup t = none := live
      rw [resolve_of_missing _ absent, own]
      simp only [live, absent, same]

end Followed

/-! ## Aliases -/

variable [Lifecycle σ]

theorem create_of_alias (missing : c.lookup a = none) (leads : c.leadsTo a = .ok t)
    (plain : c.document.alias? t = none) : c.create a = (c.noted a).create t :=
  Option.some.inj ((attempt_eq_create c a).symm.trans
    ((attempt_of_alias missing leads plain true).trans (attempt_eq_create _ t)))

theorem createDetached_of_alias (missing : c.lookup a = none) (leads : c.leadsTo a = .ok t)
    (plain : c.document.alias? t = none) : c.createDetached a = (c.noted a).createDetached t :=
  Option.some.inj ((attempt_eq_createDetached c a).symm.trans
    ((attempt_of_alias missing leads plain false).trans (attempt_eq_createDetached _ t)))

/-- A request for an alias of what is neither live nor declared is refused. -/
theorem create_of_undeclared (missing : c.lookup a = none) (leads : c.leadsTo a = .ok t)
    (absent : c.lookup t = none) (undeclared : c.document.find? t = none) :
    c.create a = (.error (.instanceNotFound t), c.noted a) := by
  refine create_of_runs (.unfit ⟨missing, leads, absent⟩ ?_)
  have invalid : ((c.noted a).view t).validated = .error (.instanceNotFound t) := by
    unfold Document.View.validated Document.View.declaration?
    rw [show ((c.noted a).view t).document.find? ((c.noted a).view t).name = none from undeclared]
    rfl
  rw [instantiate, invalid]

/-- A request for an alias of itself is refused. -/
theorem create_of_itself (missing : c.lookup a = none) (found : c.document.alias? a = some d)
    (same : (c.environment.expand d.target).value = a) :
    c.create a = (.error (.illegalState s!"alias {a} refers to itself"), c.noted a) := by
  refine create_of_runs (.astray missing ?_)
  rw [leadsTo_of_alias? found, same]
  simp

/-- What becomes of requests for an alias `a` that is not live, if its text expands to `t` and these
records are logged as it is expanded. -/
structure StandsFor (c : Context σ) (a t : String) (rs : List Record) : Prop where
  warnings : Warnings rs
  /-- If `t` is another name and no alias, they are answered as those for `t`, and leave the same
  behind, but for the warnings. -/
  create : t ≠ a → c.document.alias? t = none → Warned rs c (c.create t) (c.create a)
  createDetached : t ≠ a → c.document.alias? t = none →
    Warned rs c (c.createDetached t) (c.createDetached a)
  find : t ≠ a → c.document.alias? t = none → Warned rs c (c.find t) (c.find a)
  /-- If `t` is `a` itself they are refused, -/
  itself : t = a →
    (c.create a).1 = .error (.illegalState s!"alias {a} refers to itself") ∧
      Untouched c none (c.create a).2
  /-- and so if `t` is neither live nor declared as an instance, as when it is a mere alias. -/
  undeclared : t ≠ a → c.lookup t = none → c.document.find? t = none →
    (c.create a).1 = .error (.instanceNotFound t) ∧ Untouched c none (c.create a).2

/-- An alias that is not live stands for what its text expands to, if that is not empty. -/
theorem standsFor (found : c.document.alias? a = some d) (missing : c.lookup a = none)
    (filled : (c.environment.expand d.target).value ≠ "") :
    StandsFor c a (c.environment.expand d.target).value
      (c.environment.expand d.target).records := by
  let t := (c.environment.expand d.target).value
  have noted := noted_of_alias? found
  have untouched : Untouched c none (c.noted a) := .noted c a
  have leads (other : t ≠ a) : c.leadsTo a = .ok t := by
    rw [leadsTo_of_alias? found]
    simp [t, other, filled]
  refine ⟨Environment.records_expand _ _, fun other plain => ?_, fun other plain => ?_,
    fun other plain => ?_, fun same => ?_, fun other absent undeclared => ?_⟩
  · have blind : Blind fun c : Context σ => c.create t := fun past c => create_preceded past c t
    rw [create_of_alias missing (leads other) plain, noted]
    exact blind.warned c _
  · have blind : Blind fun c : Context σ => c.createDetached t := fun past c =>
      createDetached_preceded past c t
    rw [createDetached_of_alias missing (leads other) plain, noted]
    exact blind.warned c _
  · rw [find_of_alias missing (leads other) plain, noted]
    exact (blind_find t).warned c _
  · rw [create_of_itself missing found same]
    exact ⟨rfl, untouched⟩
  · rw [create_of_undeclared missing (leads other) absent undeclared]
    exact ⟨rfl, untouched⟩

/-- **An alias behaves as what it is an alias of.**  In every state that can be reached, each alias
that is not live stands for what its text expands to, if that is not empty.  No name that is a mere
alias is ever live. -/
theorem alias_as_target {document : Document} (reached : Reached document c) :
    (∀ a d, document.alias? a = some d → c.lookup a = none →
      (c.environment.expand d.target).value ≠ "" →
        StandsFor c a (c.environment.expand d.target).value
          (c.environment.expand d.target).records) ∧
    ∀ n, document.find? n = none → n ∉ c.names := by
  obtain rfl := reached.document_eq
  refine ⟨fun a d found missing filled => standsFor found missing filled, ?_⟩
  intro n undeclared member
  obtain ⟨d, declared, _⟩ := reached.indexed.exact.declared n member
  rw [undeclared] at declared
  cases declared

/-- An alias of an instance that refers back to it by that alias, one of itself, and one of an
alias. -/
def renamed : Document where
  aliases := [⟨"a", "b"⟩, ⟨"s", "s"⟩, ⟨"x", "a"⟩]
  instances := [
    { name := "b", className := some "oracle::Link",
      properties := [{ name := some "next", reference := some "a" }] }]

theorem alias_as_target_renamed :
    let c := (build Sample.host .empty renamed {}).2
    (c.create "b").1 = .ok 0 ∧ c.create "a" = c.create "b" ∧
      (c.create "s").1 = .error (.illegalState "alias s refers to itself") ∧
      (c.create "x").1 = .error (.instanceNotFound "a") := by
  intro c
  have reached : Reached renamed c := .built Heap.fresh_empty .empty {}
  have silent : (c.environment.expand "b").records = [] := by decide +kernel
  obtain ⟨stand, _⟩ := alias_as_target reached
  have other := stand "a" ⟨"a", "b"⟩ (by decide) (by decide +kernel) (by decide +kernel)
  have self := stand "s" ⟨"s", "s"⟩ (by decide) (by decide +kernel) (by decide +kernel)
  have further := stand "x" ⟨"x", "a"⟩ (by decide) (by decide +kernel) (by decide +kernel)
  have same := other.create (by decide +kernel) (by decide +kernel)
  have undeclared := further.undeclared (by decide +kernel) (by decide +kernel) (by decide +kernel)
  refine ⟨by decide +kernel, ?_, (self.itself (by decide +kernel)).1, ?_⟩
  · have expands : (c.environment.expand "b").value = "b" := by decide +kernel
    rw [silent, expands] at same
    exact same.eq
  · have expands : (c.environment.expand "a").value = "a" := by decide +kernel
    rw [expands] at undeclared
    exact undeclared.1

end Wiring.Context
