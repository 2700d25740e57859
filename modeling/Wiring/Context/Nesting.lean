/-
# Wiring.Context.Nesting -- how deep constructions nest

Most steps leave the live graph alone and change only the host (`OnlyHost`); no step
ever forgets a live name (`Grows`), and a kept instance is live before its references
are followed.  So every construction inside another finds fewer names that are still
unborn, and `construct` has a result once it may have as many instances under
construction as there are unborn names, or one more for an instance that is not kept:
`construct_total`.
-/
import Wiring.Context.Creation

namespace Wiring.Context

set_option autoImplicit false

open Wiring.Component
open Wiring.Document (Property)
open Wiring.Logging (Level Logged)

variable {σ : Type}

/-! ## Steps on the host alone -/

/-- Nothing but the host differs. -/
def OnlyHost (c c' : Context σ) : Prop := c' = { c with host := c'.host }

namespace OnlyHost

theorem refl (c : Context σ) : OnlyHost c c := rfl

theorem trans {a b c : Context σ} (h : OnlyHost a b) (k : OnlyHost b c) : OnlyHost a c := by
  unfold OnlyHost at *
  rw [k, h]

theorem lookup {c c' : Context σ} (h : OnlyHost c c') (n : String) :
    c'.lookup n = c.lookup n := by
  rw [h]; rfl

theorem document {c c' : Context σ} (h : OnlyHost c c') : c'.document = c.document := by rw [h]

theorem owned {c c' : Context σ} (h : OnlyHost c c') : c'.owned = c.owned := by rw [h]

theorem index {c c' : Context σ} (h : OnlyHost c c') : c'.index = c.index := by rw [h]

theorem paths {c c' : Context σ} (h : OnlyHost c c') : c'.paths = c.paths := by rw [h]

theorem shutDown {c c' : Context σ} (h : OnlyHost c c') : c'.shutDown = c.shutDown := by rw [h]

end OnlyHost

theorem onlyHost_take {α : Type} (c : Context σ) (x : Logged α) : OnlyHost c (c.take x).2 := rfl

theorem onlyHost_expand (c : Context σ) (text : String) : OnlyHost c (c.expand text).2 := rfl

theorem onlyHost_log (c : Context σ) (l : Level) (m : String) : OnlyHost c (c.log l m) := rfl

theorem onlyHost_acquire (c : Context σ) (id : ObjectId) : OnlyHost c (c.acquire id) := rfl

/-! ## Live names stay -/

/-- The same document, and every live name still live. -/
structure Grows (c c' : Context σ) : Prop where
  document : c'.document = c.document
  live : ∀ n, (c.lookup n).isSome → (c'.lookup n).isSome

namespace Grows

theorem refl (c : Context σ) : Grows c c := ⟨rfl, fun _ h => h⟩

theorem trans {a b c : Context σ} (h : Grows a b) (k : Grows b c) : Grows a c :=
  ⟨k.document.trans h.document, fun n hn => k.live n (h.live n hn)⟩

theorem ofOnlyHost {c c' : Context σ} (h : OnlyHost c c') : Grows c c' :=
  ⟨h.document, fun n hn => by rw [h.lookup]; exact hn⟩

theorem unborn_le {c c' : Context σ} (h : Grows c c') : c'.unborn ≤ c.unborn := by
  unfold unborn
  rw [h.document]
  apply List.countP_mono_left
  intro n _ hn
  cases hc : c.lookup n with
  | none => rfl
  | some id =>
    have := h.live n (by simp [hc])
    cases hc' : c'.lookup n with
    | none => simp [hc'] at this
    | some _ => simp [hc'] at hn

end Grows

theorem lookup_register_self (c : Context σ) (name : String) (id : ObjectId) :
    (c.register name id).lookup name = some id := by
  simp [register, lookup, Keyed.lookup_put_self]

theorem lookup_register_of_ne {c : Context σ} {name n : String} {id : ObjectId} (h : n ≠ name)
    {x : ObjectId} (hx : c.lookup n = some x) : (c.register name id).lookup n = some x := by
  simp only [lookup, register, Keyed.lookup_put_of_ne h] at hx ⊢
  obtain ⟨p, hp, hq⟩ := Option.bind_eq_some_iff.1 hx
  obtain ⟨e, he, hy⟩ := Option.map_eq_some_iff.1 hq
  simp [hp, List.getElem?_append_left (List.getElem?_eq_some_iff.1 he).1, he, hy]

theorem grows_register (c : Context σ) (name : String) (id : ObjectId) :
    Grows c (c.register name id) := by
  refine ⟨rfl, fun n hn => ?_⟩
  by_cases h : n = name
  · subst h; simp [lookup_register_self]
  · obtain ⟨x, hx⟩ := Option.isSome_iff_exists.1 hn
    simp [lookup_register_of_ne h hx]

/-- A declared name that is not live is unborn. -/
theorem unborn_pos {c : Context σ} {name : String} (hn : c.lookup name = none)
    (hd : name ∈ c.document.instances.map (·.name)) : 0 < c.unborn :=
  List.countP_pos_iff.2 ⟨name, List.mem_eraseDups.2 hd, by simp [hn]⟩

/-- Registering a declared name that was not live leaves fewer unborn. -/
theorem unborn_register_lt {c : Context σ} {name : String} {id : ObjectId}
    (hn : c.lookup name = none) (hd : name ∈ c.document.instances.map (·.name)) :
    (c.register name id).unborn < c.unborn := by
  have hsub : ∀ n, ((c.register name id).lookup n).isNone → (c.lookup n).isNone := by
    intro n h
    cases hc : c.lookup n with
    | none => rfl
    | some x =>
      have := (grows_register c name id).live n (by simp [hc])
      cases h' : (c.register name id).lookup n <;> simp_all
  have hdoc : (c.register name id).document = c.document := rfl
  have hd := List.mem_eraseDups.2 hd
  unfold unborn
  rw [hdoc]
  generalize (c.document.instances.map (·.name)).eraseDups = l at hd
  induction l with
  | nil => simp at hd
  | cons a l ih =>
    have hle := List.countP_mono_left (l := l) (fun n _ h => hsub n h)
    rcases List.mem_cons.1 hd with rfl | hd
    · simp only [List.countP_cons, lookup_register_self, hn]
      simp
      omega
    · have := ih hd
      have ha := hsub a
      simp only [List.countP_cons]
      by_cases hl : ((c.register name id).lookup a).isNone = true
      · rw [if_pos hl, if_pos (ha hl)]
        omega
      · rw [if_neg hl]
        omega

/-! ## Every step has a result -/

/-- A step that has a result and forgets no name. -/
def Total {α : Type} (c : Context σ) (x : Option (Step σ α)) : Prop :=
  ∃ r c', x = some (r, c') ∧ Grows c c'

/-- A maker that has a result while at most `n` names are unborn. -/
def Makes (make : Maker σ) (n : Nat) : Prop :=
  ∀ c name, c.unborn ≤ n → Total c (make c name)

theorem Total.ofGrows {α : Type} {c : Context σ} {r : Step σ α} (h : Grows c r.2) :
    Total c (some r) := ⟨r.1, r.2, rfl, h⟩

theorem Total.ofOnlyHost {α : Type} {c : Context σ} {r : Step σ α} (h : OnlyHost c r.2) :
    Total c (some r) := .ofGrows (.ofOnlyHost h)

theorem Total.after {α : Type} {a b : Context σ} {x : Option (Step σ α)} (h : Grows a b)
    (k : Total b x) : Total a x := by
  obtain ⟨r, c', hx, hg⟩ := k
  exact ⟨r, c', hx, h.trans hg⟩

section Release

variable [Lifecycle σ]

theorem onlyHost_release (c : Context σ) (id : ObjectId) : OnlyHost c (c.release id) := rfl

theorem onlyHost_inject (c : Context σ) (id : ObjectId) (name : String) (value : Given) :
    OnlyHost c (c.inject id name value).2 := rfl

theorem onlyHost_injectResult (c : Context σ) (id : ObjectId) (name : String)
    (value : Except Error Given) : OnlyHost c (c.injectResult id name value).2 := by
  unfold injectResult
  split
  · exact onlyHost_inject c id name _
  · exact OnlyHost.refl c

theorem total_injectReference {make : Maker σ} {n : Nat} (hm : Makes make n) {c : Context σ}
    (hc : c.unborn ≤ n) (id : ObjectId) (name target : String) :
    Total c (injectReference make c id name target) := by
  obtain ⟨r, c', hx, hg⟩ := hm c target hc
  unfold injectReference
  rw [hx]
  cases r with
  | error e => exact .ofGrows (hg.trans (.ofOnlyHost (onlyHost_log ..)))
  | ok value =>
    exact .ofGrows (hg.trans (.ofOnlyHost
      ((onlyHost_inject c' id name (.reference value)).trans (onlyHost_release _ value))))

theorem onlyHost_injectPlain (c : Context σ) (owner : String) (id : ObjectId) (p : Property)
    (name : String) : OnlyHost c (c.injectPlain owner id p name).2 := by
  unfold injectPlain
  split
  · exact (onlyHost_expand c _).trans (onlyHost_injectResult _ _ _ _)
  · rfl
  · exact (onlyHost_expand c _).trans (onlyHost_injectResult _ _ _ _)
  · rfl
  · split
    · exact onlyHost_log ..
    · have hg := onlyHost_take c (collectPairs c.environment owner name 1 [] p.pairs)
      split
      · next h => rw [h] at hg; exact hg.trans (onlyHost_inject ..)
      · next h => rw [h] at hg; exact hg.trans (onlyHost_log ..)
      · next h => rw [h] at hg; exact hg

theorem total_injectProperty {make : Maker σ} {n : Nat} (hm : Makes make n) {c : Context σ}
    (hc : c.unborn ≤ n) (owner : String) (id : ObjectId) (p : Property) (name : String) :
    Total c (injectProperty make c owner id p name) := by
  unfold injectProperty
  split
  · have hg := Grows.ofOnlyHost (onlyHost_expand c ‹String›)
    exact .after hg (total_injectReference hm (Nat.le_trans hg.unborn_le hc) ..)
  · exact .ofOnlyHost (onlyHost_injectPlain ..)

theorem total_injectAll {make : Maker σ} {n : Nat} (hm : Makes make n) (owner : String)
    (id : ObjectId) (ps : List Property) {c : Context σ} (hc : c.unborn ≤ n) :
    Total c (injectAll make owner id ps c) := by
  induction ps generalizing c with
  | nil => exact .ofGrows (Grows.refl c)
  | cons p rest ih =>
    unfold injectAll
    split
    · have hg := Grows.ofOnlyHost
        (onlyHost_log c .warn s!"Missing name for {p.change.word} entry of '{owner}'")
      exact .after hg (ih (Nat.le_trans hg.unborn_le hc))
    · next name _ =>
      obtain ⟨r, c', hx, hg⟩ := total_injectProperty hm hc owner id p name
      rw [hx]
      cases r with
      | ok u => exact .after hg (ih (Nat.le_trans hg.unborn_le hc))
      | error e => exact .ofGrows (hg.trans (.ofOnlyHost (onlyHost_log ..)))

theorem onlyHost_callDone (c : Context σ) (owner : String) (id : ObjectId) :
    OnlyHost c (c.callDone owner id).2 := by
  unfold callDone
  split
  · have hg : OnlyHost c (c.onHost fun h => h.call id doneHook).2 := rfl
    split
    · next h => rw [h] at hg; exact hg
    · next h => rw [h] at hg; exact hg.trans (onlyHost_log ..)
  · exact OnlyHost.refl c

theorem total_complete {make : Maker σ} {n : Nat} (hm : Makes make n) {c : Context σ}
    (hc : c.unborn ≤ n) (owner : String) (id : ObjectId) :
    Total c (complete make c owner id) := by
  unfold complete
  have hg := Grows.ofOnlyHost (onlyHost_take c (c.view owner).properties)
  obtain ⟨r, c', hx, hk⟩ := total_injectAll hm owner id (c.take (c.view owner).properties).1
    (Nat.le_trans hg.unborn_le hc)
  simp only [hx]
  cases r with
  | ok u => exact ⟨_, _, rfl, (hg.trans hk).trans (.ofOnlyHost (onlyHost_callDone ..))⟩
  | error e => exact .ofGrows (hg.trans hk)

theorem total_finish {make : Maker σ} {n : Nat} (hm : Makes make n) {c : Context σ}
    (hc : c.unborn ≤ n) (name : String) (id : ObjectId) : Total c (finish make c name id) := by
  obtain ⟨r, c', hx, hg⟩ := total_complete hm hc name id
  unfold finish
  rw [hx]
  cases r with
  | ok u => exact .ofGrows hg
  | error e => exact .ofGrows (hg.trans (.ofOnlyHost (onlyHost_release ..)))

end Release

theorem onlyHost_loadLibrary (c : Context σ) (library : String) :
    OnlyHost c (c.loadLibrary library).2 := by
  unfold loadLibrary
  split <;> rfl

theorem onlyHost_instantiate (c : Context σ) (name : String) :
    OnlyHost c (c.instantiate name).2 := by
  unfold instantiate
  split
  · exact OnlyHost.refl c
  · have hg := onlyHost_take c (c.view name).library
    cases h : c.take (c.view name).library with
    | mk library c₁ =>
      rw [h] at hg
      have hk := onlyHost_loadLibrary c₁ library
      simp only
      cases h' : c₁.loadLibrary library with
      | mk result c₂ =>
        rw [h'] at hk
        cases result with
        | error e => exact hg.trans hk
        | ok u => exact hg.trans (hk.trans rfl)

/-- Only the instance of a declared name is ever constructed. -/
theorem mem_declared_of_instantiate {c c' : Context σ} {name : String} {id : ObjectId}
    (h : c.instantiate name = (.ok id, c')) : name ∈ c.document.instances.map (·.name) := by
  unfold instantiate at h
  split at h
  · simp at h
  · next d hv =>
    unfold Document.View.validated at hv
    split at hv
    · simp at hv
    · next hd =>
      unfold Document.View.declaration? Document.find? at hd
      have hm := List.mem_of_find?_eq_some hd
      have hn := List.find?_some hd
      simp only [view, beq_iff_eq] at hn hm
      exact List.mem_map.2 ⟨_, hm, hn⟩

/-- Finding or constructing by name has a result if constructing names that are not live has. -/
theorem total_resolve {construct : Context σ → String → Option (Step σ ObjectId)} {n : Nat}
    (hm : ∀ c name, c.unborn ≤ n → c.lookup name = none → Total c (construct c name))
    {c : Context σ} (hc : c.unborn ≤ n) (name : String) : Total c (resolve construct c name) := by
  unfold resolve
  split
  · exact .ofOnlyHost (onlyHost_acquire ..)
  · next hl =>
    have ho := onlyHost_take c (c.view name).aliasTarget
    cases h : c.take (c.view name).aliasTarget with
    | mk result c₁ =>
      rw [h] at ho
      have hg := Grows.ofOnlyHost ho
      have hc₁ := Nat.le_trans hg.unborn_le hc
      cases result with
      | error e => exact .ofGrows hg
      | ok target =>
        simp only
        split
        · exact .after hg (hm _ _ hc₁ (by rw [ho.lookup, hl]))
        · split
          · exact .after hg (.ofOnlyHost (onlyHost_acquire ..))
          · next ht => exact .after hg (hm _ _ hc₁ ht)

variable [Lifecycle σ]

/-- A construction has a result if it may have as many instances under construction as there are
unborn names, or one more if the instance is not kept. -/
theorem construct_total (depth : Nat) (keep : Bool) (c : Context σ) (name : String)
    (hl : c.lookup name = none) (hd : c.unborn + (if keep then 0 else 1) ≤ depth) :
    Total c (construct depth keep c name) := by
  induction depth generalizing keep c name with
  | zero =>
    unfold construct assemble
    have ho := onlyHost_instantiate c name
    cases h : c.instantiate name with
    | mk result c₁ =>
      rw [h] at ho
      cases result with
      | error e => exact .ofOnlyHost ho
      | ok id =>
        have hpos := unborn_pos hl (mem_declared_of_instantiate h)
        omega
  | succ depth ih =>
    unfold construct assemble
    have ho := onlyHost_instantiate c name
    cases h : c.instantiate name with
    | mk result c₁ =>
      rw [h] at ho
      have hg := Grows.ofOnlyHost ho
      cases result with
      | error e => exact .ofGrows hg
      | ok id =>
        have hmem := mem_declared_of_instantiate h
        have hl₁ : c₁.lookup name = none := by rw [ho.lookup, hl]
        have hmake : ∀ n, n ≤ depth → Makes (resolve (construct (σ := σ) depth true)) n := by
          intro n hn c₂ name₂ hc₂
          apply total_resolve (n := n) _ hc₂
          intro c₃ name₃ hc₃ hl₃
          exact ih true c₃ name₃ hl₃ (by simp; omega)
        have hle : c₁.unborn ≤ c.unborn := hg.unborn_le
        simp only [Option.bind_some]
        cases keep with
        | true =>
          have hlt : (c₁.register name id).unborn < c₁.unborn :=
            unborn_register_lt hl₁ (by rw [ho.document]; exact hmem)
          simp only [if_true] at hd ⊢
          exact .after (hg.trans (grows_register c₁ name id))
            (total_finish (hmake (c₁.register name id).unborn (by omega)) (Nat.le_refl _) name id)
        | false =>
          simp at hd ⊢
          exact .after hg (total_finish (hmake c₁.unborn (by omega)) (Nat.le_refl _) name id)

end Wiring.Context
