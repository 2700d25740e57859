/-
# Wiring.Proofs.Creation.Depth -- how deep a request nests, and that it does not matter

`construct` is given the number of instances that may be under construction at a
time, and has no result where it would need more.  A result it has never changes when
it is given more (`construct_mono`): every step of a creation passes on the results of
the maker it is given.

Together with `construct_total` this bounds the nesting of every request by the
number of declared names that are not live, one more for a root that is not kept, and
makes `create` a solution of the recursion without any bound (`create_nests`).
-/
import Wiring.Context.Request

namespace Wiring.Context

set_option autoImplicit false

open Wiring.Component
open Wiring.Document (Property)

variable {σ : Type}

/-- Every result of the first maker is one of the second. -/
def Within (make more : Maker σ) : Prop := ∀ c name r, make c name = some r → more c name = some r

theorem Within.refl (make : Maker σ) : Within make make := fun _ _ _ made => made

theorem resolve_mono {first second : Maker σ} (within : Within first second) :
    Within (resolve first) (resolve second) := by
  intro c name r result
  unfold resolve at result ⊢
  split at result
  · exact result
  · split at result
    · exact result
    · next target after expanded =>
      by_cases plain : target.isEmpty
      · rw [if_pos plain] at result ⊢
        exact within _ _ _ result
      · rw [if_neg plain] at result ⊢
        cases live : after.lookup target with
        | some id =>
            rw [live] at result
            exact result
        | none =>
            rw [live] at result
            exact within _ _ _ result

variable [Lifecycle σ]

section Steps

variable {make more : Maker σ} (within : Within make more)

include within

theorem injectReference_mono {c : Context σ} {id : ObjectId} {name target : String}
    {r : Step σ Unit} (result : injectReference make c id name target = some r) :
    injectReference more c id name target = some r := by
  unfold injectReference at result ⊢
  cases made : make c target with
  | none => simp [made] at result
  | some s =>
      rw [made] at result
      rw [within c target s made]
      exact result

theorem injectProperty_mono {c : Context σ} {owner : String} {id : ObjectId} {p : Property}
    {name : String} {r : Step σ Unit} (result : injectProperty make c owner id p name = some r) :
    injectProperty more c owner id p name = some r := by
  unfold injectProperty at result ⊢
  cases given : p.reference with
  | none =>
      rw [given] at result
      exact result
  | some reference =>
      rw [given] at result
      exact injectReference_mono within result

theorem injectAll_mono {owner : String} {id : ObjectId} {ps : List Property} {c : Context σ}
    {r : Step σ Unit} (result : injectAll make owner id ps c = some r) :
    injectAll more owner id ps c = some r := by
  induction ps generalizing c with
  | nil => exact result
  | cons p rest ih =>
      unfold injectAll at result ⊢
      cases named : p.name with
      | none =>
          simp only [named] at result ⊢
          exact ih result
      | some name =>
          simp only [named] at result ⊢
          cases injected : injectProperty make c owner id p name with
          | none => simp [injected] at result
          | some s =>
              obtain ⟨done, after⟩ := s
              rw [injected] at result
              rw [injectProperty_mono within injected]
              cases done with
              | ok u => exact ih result
              | error e => exact result

theorem finish_mono {c : Context σ} {name : String} {id : ObjectId} {r : Step σ ObjectId}
    (result : finish make c name id = some r) : finish more c name id = some r := by
  unfold finish complete at result ⊢
  simp only at result ⊢
  cases filled : injectAll make name id (c.take (c.view name).properties).1
      (c.take (c.view name).properties).2 with
  | none => simp [filled] at result
  | some s =>
      rw [filled] at result
      rw [injectAll_mono within filled]
      exact result

end Steps

theorem assemble_mono {make : Option (Maker σ)} {more : Maker σ}
    (within : ∀ first, make = some first → Within first more) (keep : Bool) :
    Within (assemble make keep) (assemble (some more) keep) := by
  intro c name r result
  unfold assemble at result ⊢
  cases built : c.instantiate name with
  | mk made after =>
      rw [built] at result
      cases made with
      | error e => exact result
      | ok id =>
          cases make with
          | none => simp at result
          | some first => exact finish_mono (within first rfl) result

/-- **More depth never changes a result.** -/
theorem construct_mono {depth deeper : Nat} (le : depth ≤ deeper) (keep : Bool) :
    Within (construct (σ := σ) depth keep) (construct deeper keep) := by
  induction depth generalizing deeper keep with
  | zero =>
      cases deeper with
      | zero => exact .refl _
      | succ deeper => exact assemble_mono (by simp) keep
  | succ depth ih =>
      cases deeper with
      | zero => omega
      | succ deeper =>
          have within := resolve_mono (ih (Nat.le_of_succ_le_succ le) true)
          exact assemble_mono (by rintro _ ⟨⟩; exact within) keep

/-! ## Requests -/

theorem resolve_of_enoughDepth (c : Context σ) (keep : Bool) (name : String) {depth : Nat}
    (enough : c.enoughDepth keep ≤ depth) :
    resolve (construct depth keep) c name = c.attempt keep name := by
  have answered := isSome_attempt c keep name
  obtain ⟨r, attempted⟩ := Option.isSome_iff_exists.1 answered
  rw [attempted]
  exact resolve_mono (construct_mono enough keep) c name r attempted

/-- A request made while another is carried out is answered as `create` answers it. -/
theorem resolve_within_create (depth : Nat) :
    Within (resolve (construct (σ := σ) depth true)) fun c name => some (c.create name) := by
  intro c name r result
  have deep := resolve_mono (construct_mono (Nat.le_max_left depth (c.enoughDepth true)) true) c
    name r result
  rw [resolve_of_enoughDepth c true name (Nat.le_max_right _ _), attempt_eq_create] at deep
  exact deep

theorem attempt_within_assemble (c : Context σ) (keep : Bool) (name : String) :
    c.attempt keep name =
      resolve (assemble (some fun c name => some (c.create name)) keep) c name := by
  have answered := isSome_attempt c keep name
  obtain ⟨r, attempted⟩ := Option.isSome_iff_exists.1 answered
  rw [attempted, eq_comm]
  rw [← resolve_of_enoughDepth c keep name (Nat.le_succ _)] at attempted
  refine resolve_mono (assemble_mono ?_ keep) c name r attempted
  rintro _ ⟨⟩
  exact resolve_within_create _

/-- **Every request is answered**, with at most as many instances under construction at a time as
there are declared names that are not live, one more if the root is not kept.  The answers are
those of the recursion without a bound, in which references are followed by `create` itself. -/
theorem create_nests (c : Context σ) (name : String) :
    (∀ depth, c.unborn ≤ depth →
      resolve (construct depth true) c name = some (c.create name)) ∧
    (∀ depth, c.unborn + 1 ≤ depth →
      resolve (construct depth false) c name = some (c.createDetached name)) ∧
    resolve (assemble (some fun c name => some (c.create name)) true) c name =
      some (c.create name) ∧
    resolve (assemble (some fun c name => some (c.create name)) false) c name =
      some (c.createDetached name) := by
  refine ⟨?_, ?_, ?_, ?_⟩
  · intro depth enough
    rw [resolve_of_enoughDepth c true name enough, attempt_eq_create]
  · intro depth enough
    rw [resolve_of_enoughDepth c false name enough, attempt_eq_createDetached]
  · rw [← attempt_within_assemble, attempt_eq_create]
  · rw [← attempt_within_assemble, attempt_eq_createDetached]

end Wiring.Context
