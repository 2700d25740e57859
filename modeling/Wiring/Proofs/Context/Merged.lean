/-
# Wiring.Proofs.Context.Merged -- what a merge keeps of the first document

In a document merged from two, look-ups find the declarations of the first.  But constants are
published in order, so those of the second replace what the first published under their names; and
a name is followed as an alias before it is looked up as an instance, so an alias of the second goes
before an instance of the first.  Everything else keeps its meaning (`merge_keeps`).
-/
import Wiring.Proofs.Config.Interpolation
import Wiring.Proofs.Context.Built
import Wiring.Proofs.Context.Constants

namespace Wiring.Context

set_option autoImplicit false

open Wiring.Component
open Wiring.Config (Environment)
open Wiring.Config.Environment (Consults)
open Wiring.Document (Constant)

variable {σ : Type}

/-! ## Requests -/

/-- A request for `n` was answered with the object of the instance `t`, which was live or was
constructed for it. -/
inductive Gives (c : Context σ) (n t : String) (id : ObjectId) (c' : Context σ) : Prop
  | live (found : c.lookup t = some id)
  | made {c₁ : Context σ} (missing : c.lookup t = none)
      (built : (c.noted n).instantiate t = (.ok id, c₁)) (now : c'.lookup t = some id)

/-- What an alias leads to, if it leads anywhere. -/
theorem leadsTo_of_alias?_some {c : Context σ} {n t : String} {a : Document.Alias}
    (found : c.document.alias? n = some a) (leads : c.leadsTo n = .ok t) :
    ((c.environment.expand a.target).value = "" → t = n) ∧
      ((c.environment.expand a.target).value ≠ "" →
        (c.environment.expand a.target).value ≠ n ∧ t = (c.environment.expand a.target).value) := by
  rw [leadsTo_of_alias? found] at leads
  generalize (c.environment.expand a.target).value = target at leads ⊢
  by_cases own : (target == n) = true
  · rw [if_pos own] at leads
    cases leads
  · rw [if_neg own] at leads
    have leads := Except.ok.inj leads
    constructor
    · rintro rfl
      exact leads.symm
    · intro filled
      rw [if_neg (by simpa using filled)] at leads
      exact ⟨by simpa using own, leads.symm⟩

variable [Lifecycle σ]

/-- A name that is live is answered with its object, and another one with that of the instance it
leads to. -/
theorem gives_create {c c' : Context σ} {n : String} {id : ObjectId} (consistent : Consistent c)
    (made : c.create n = (.ok id, c')) :
    c.lookup n = some id ∨
      c.lookup n = none ∧ ∃ t, c.leadsTo n = .ok t ∧ Gives c n t id c' := by
  have runs := runs_create c n
  rw [made] at runs
  have answer := runs.answer consistent.toIndexed
  cases runs with
  | live found => exact .inl found
  | followed missing leads found => exact .inr ⟨missing, _, leads, .live found⟩
  | complete wants built filled called =>
      refine .inr ⟨wants.missing, _, wants.leads, .made wants.absent built ?_⟩
      rcases answer with live | ⟨_, t, leads, now⟩
      · rw [wants.missing] at live
        cases live
      · rw [wants.leads] at leads
        cases leads
        exact now

/-- Whatever is done with a context, its document and environment stay. -/
theorem operateAll_keeps (c : Context σ) (calls : List Operation) :
    (c.operateAll calls).document = c.document ∧
      (c.operateAll calls).environment = c.environment := by
  induction calls generalizing c with
  | nil => exact ⟨rfl, rfl⟩
  | cons call rest ih =>
      have first : (c.operate call).document = c.document ∧
          (c.operate call).environment = c.environment := by
        by_cases last : call = .shutdown
        · rw [last]
          show c.shutdown.document = _ ∧ c.shutdown.environment = _
          unfold shutdown
          split <;> exact ⟨rfl, rfl⟩
        · have grown := (goes_operate c last).extended
          exact ⟨grown.document, grown.environment⟩
      obtain ⟨document, environment⟩ := ih (c.operate call)
      exact ⟨document.trans first.1, environment.trans first.2⟩

/-! ## Merged documents -/

theorem alias?_merge_of_none {d₁ d₂ : Document} {n : String} (none : d₁.alias? n = none) :
    (d₁.merge d₂).alias? n = d₂.alias? n := by
  unfold Document.alias? at none ⊢
  rw [Document.merge, List.find?_append, none]
  rfl

section

variable {host host₁ : Host σ} {environment : Environment} {d₁ d₂ : Document}
  {options options₁ : Options} {c c₁ : Context σ}

/-- The constants of the second document run after those of the first. -/
theorem publishes_of_merge
    (built : build host environment (d₁.merge d₂) options = (.ok (), c))
    (alone : build host₁ environment d₁ options₁ = (.ok (), c₁)) :
    Publishes c₁.environment d₂.constants c.environment := by
  obtain ⟨_, both⟩ := publishes_of_build built
  obtain ⟨_, first⟩ := publishes_of_build alone
  obtain ⟨mid, front, back⟩ := both.append
  rwa [front.unique first] at back

/-- An alias of the first document has the target it has in that document alone, if its text does
not depend on constants of the second. -/
theorem aliasTarget_of_merge {n : String} {a : Document.Alias} (found : d₁.alias? n = some a)
    (built : build host environment (d₁.merge d₂) options = (.ok (), c))
    (alone : build host₁ environment d₁ options₁ = (.ok (), c₁))
    (independent : ∀ m, Consults c₁.environment a.target.toList m →
      ∀ k ∈ d₂.constants, k.name ≠ some m) :
    (c.view n).aliasTarget = (c₁.view n).aliasTarget := by
  have published := publishes_of_merge built alone
  have agree : ∀ m, Consults c₁.environment a.target.toList m →
      c.environment.text? m = c₁.environment.text? m := by
    intro m consulted
    rw [Environment.text?, Environment.text?, published.get? (independent m consulted)]
  have here : (c.view n).document.alias? n = some a := by
    show c.document.alias? n = some a
    rw [(publishes_of_build built).1]
    exact Document.alias?_merge found
  have there : (c₁.view n).document.alias? n = some a := by
    show c₁.document.alias? n = some a
    rw [(publishes_of_build alone).1, found]
  have expanded :
      (c.view n).environment.expand a.target = (c₁.view n).environment.expand a.target :=
    Environment.expand_congr agree
  unfold Document.View.aliasTarget
  rw [show (c.view n).name = n from rfl, show (c₁.view n).name = n from rfl, here, there]
  simp only
  rw [expanded]

/-- A request for an instance of the first document is answered with that instance, unless it is not
live and the second document has an alias of that name: then with what the alias leads to. -/
theorem gives_of_merge {n : String} {calls : List Operation} {id : ObjectId} {c' : Context σ}
    (plain : d₁.alias? n = none)
    (built : build host environment (d₁.merge d₂) options = (.ok (), c))
    (made : (c.operateAll calls).create n = (.ok id, c')) :
    (((c.operateAll calls).lookup n).isSome ∨ d₂.alias? n = none ∨
        (∃ a, d₂.alias? n = some a ∧ (c.environment.expand a.target).value = "") →
      Gives (c.operateAll calls) n n id c') ∧
    ((c.operateAll calls).lookup n = none → ∀ a, d₂.alias? n = some a →
      (c.environment.expand a.target).value ≠ "" →
        (c.environment.expand a.target).value ≠ n ∧
          Gives (c.operateAll calls) n (c.environment.expand a.target).value id c') := by
  have consistent : Consistent (c.operateAll calls) := by
    have consistent := consistent_build host environment (d₁.merge d₂) options
    rw [built] at consistent
    exact consistent_operateAll consistent calls
  obtain ⟨document, env⟩ := operateAll_keeps c calls
  have second : (c.operateAll calls).document.alias? n = d₂.alias? n := by
    rw [document, (publishes_of_build built).1, alias?_merge_of_none plain]
  rcases gives_create consistent made with live | ⟨missing, t, leads, gives⟩
  · refine ⟨fun _ => .live live, fun missing => ?_⟩
    rw [missing] at live
    cases live
  · refine ⟨?_, fun _ a found filled => ?_⟩
    · rintro (live | none | ⟨a, found, empty⟩)
      · rw [missing] at live
        cases live
      · rw [← second] at none
        rw [leadsTo_of_alias?_none none] at leads
        cases leads
        exact gives
      · rw [← second] at found
        rw [← env] at empty
        rwa [(leadsTo_of_alias?_some found leads).1 empty] at gives
    · rw [← second] at found
      rw [← env] at filled ⊢
      obtain ⟨apart, rfl⟩ := (leadsTo_of_alias?_some found leads).2 filled
      exact ⟨apart, gives⟩

/-- **What a merge keeps.**  In a context of a merged document, compared with one of the first
document alone: what is published under a name is the same unless the second document has a
constant of that name, and then what the last of these is evaluated to; an alias of the first
document stands, with the same target unless its text depends on a constant of the second; and an
instance of the first document that is no alias there is still declared as it was, and a request
for it is answered with it unless the second document has an alias of its name, which goes before
while the instance is not live. -/
theorem merge_keeps (built : build host environment (d₁.merge d₂) options = (.ok (), c))
    (alone : build host₁ environment d₁ options₁ = (.ok (), c₁)) :
    (∀ key, (∀ k ∈ d₂.constants, k.name ≠ some key) →
      c.environment.get? key = c₁.environment.get? key) ∧
    (∀ key k base, LastOf c₁.environment d₂.constants key k base →
      ∃ v, (constantValue base key k).value = .ok v ∧ c.environment.get? key = some v) ∧
    (∀ n a, d₁.alias? n = some a → c.document.alias? n = some a ∧
      ((∀ m, Consults c₁.environment a.target.toList m → ∀ k ∈ d₂.constants, k.name ≠ some m) →
        (c.view n).aliasTarget = (c₁.view n).aliasTarget)) ∧
    ∀ n x, d₁.find? n = some x → d₁.alias? n = none → ∀ calls,
      ((c.operateAll calls).view n).declaration? = some x ∧
      ∀ {id : ObjectId} {c' : Context σ}, (c.operateAll calls).create n = (.ok id, c') →
        (((c.operateAll calls).lookup n).isSome ∨ d₂.alias? n = none ∨
            (∃ a, d₂.alias? n = some a ∧ (c.environment.expand a.target).value = "") →
          Gives (c.operateAll calls) n n id c') ∧
        ((c.operateAll calls).lookup n = none → ∀ a, d₂.alias? n = some a →
          (c.environment.expand a.target).value ≠ "" →
            (c.environment.expand a.target).value ≠ n ∧
              Gives (c.operateAll calls) n (c.environment.expand a.target).value id c') := by
  have published := publishes_of_merge built alone
  have document := (publishes_of_build built).1
  refine ⟨fun key other => published.get? other, fun key k base last => last.get? published,
    fun n a found => ⟨?_, aliasTarget_of_merge found built alone⟩,
    fun n x found plain calls => ⟨?_, gives_of_merge plain built⟩⟩
  · rw [document]
    exact Document.alias?_merge found
  · show (c.operateAll calls).document.find? n = some x
    rw [(operateAll_keeps c calls).1, document]
    exact Document.find?_merge found

end

def earlierPair : Document where
  constants := [{ name := some "x", text := some "one" }]
  instances := [{ name := "a", className := some "oracle::Link" }]

def laterPair : Document where
  constants := [{ name := some "x", text := some "two" }]
  aliases := [⟨"a", "b"⟩]
  instances := [{ name := "b", className := some "oracle::Ring" }]

def mergedPair : Context Sample := (build Sample.host .empty (earlierPair.merge laterPair) {}).2

def alonePair : Context Sample := (build Sample.host .empty earlierPair {}).2

/-- What is merged later replaces a constant and hides an instance of what was there before. -/
theorem merge_shadows_pair :
    (build Sample.host .empty (earlierPair.merge laterPair) {}).1 = .ok () ∧
      (build Sample.host .empty earlierPair {}).1 = .ok () ∧
      alonePair.environment.text? "x" = some "one" ∧ mergedPair.environment.text? "x" = some "two" ∧
      (alonePair.create "a").1 = .ok 0 ∧ (alonePair.create "a").2.owned = [("a", 0)] ∧
      (mergedPair.create "a").1 = .ok 0 ∧ (mergedPair.create "a").2.owned = [("b", 0)] ∧
      (mergedPair.view "b").declaration? ≠ earlierPair.find? "a" := by
  decide +kernel

theorem merge_keeps_pair :
    (∃ v, (constantValue alonePair.environment "x" { name := some "x", text := some "two" }).value =
        .ok v ∧ mergedPair.environment.get? "x" = some v) ∧
      (mergedPair.view "a").declaration? = earlierPair.find? "a" ∧
      Gives mergedPair "a" "b" 0 (mergedPair.create "a").2 := by
  have built : build Sample.host .empty (earlierPair.merge laterPair) {} = (.ok (), mergedPair) :=
    Prod.fst_eq_iff.1 (by decide +kernel)
  have alone : build Sample.host .empty earlierPair {} = (.ok (), alonePair) :=
    Prod.fst_eq_iff.1 (by decide +kernel)
  have made : (mergedPair.create "a").1 = .ok 0 := by decide +kernel
  have target : (mergedPair.environment.expand "b").value = "b" := by decide +kernel
  obtain ⟨_, constants, _, instances⟩ := merge_keeps built alone
  obtain ⟨declared, gives⟩ := instances "a" _ rfl rfl []
  have second := (gives (Prod.ext made rfl)).2 (by decide +kernel) ⟨"a", "b"⟩ rfl
    (by rw [target]; decide)
  rw [target] at second
  exact ⟨constants "x" _ _ (.intro [] [] rfl rfl (.nil _) (by simp)),
    declared, second.2⟩

end Wiring.Context
