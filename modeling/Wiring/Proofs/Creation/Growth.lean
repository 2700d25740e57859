/-
# Wiring.Proofs.Creation.Growth -- creations only add to the live graph

A run advances a context by steps of two kinds: on its host alone, and those that begin
a new instance (`Runs.goes`).  Both extend a context and keep it indexed and
consistent, and so does every run, whatever it ends with (`Runs.grows`).

A request that is answered has found its name live or has made the name live that it
leads to (`Runs.answer`).
-/
import Wiring.Proofs.Creation.Runs
import Mathlib.Logic.Relation

namespace Wiring.Context

set_option autoImplicit false

open Wiring.Component

variable {σ : Type}

/-! ## Registering a new instance -/

theorem validated_of_instantiate {c c' : Context σ} {name : String} {id : ObjectId}
    (built : c.instantiate name = (.ok id, c')) : ∃ d, (c.view name).validated = .ok d := by
  unfold instantiate at built
  cases valid : (c.view name).validated with
  | error e => simp [valid] at built
  | ok d => exact ⟨d, rfl⟩

/-- A bare instance is of a declared name and newer than all objects before. -/
theorem silent_of_built {c c₁ : Context σ} {name target : String} {id : ObjectId}
    (built : (c.noted name).instantiate target = (.ok id, c₁)) :
    Silent c c₁ ∧ c.host.heap.next ≤ id ∧ id < c₁.host.heap.next ∧
      ∃ d, (c₁.view target).validated = .ok d := by
  have noted := silent_take c (c.view name).aliasTarget
  rcases instantiate_cases (c.noted name) target with
    ⟨e, c', failed, _⟩ | ⟨id', c', made, silent, newer, next⟩
  · simp [failed] at built
  · rw [made] at built
    cases built
    have both := noted.trans silent
    obtain ⟨_, _, before⟩ := noted
    obtain ⟨_, _, passes⟩ := silent
    refine ⟨both, Nat.le_trans before.follows.next newer, ?_, ?_⟩
    · rw [next]
      exact Nat.lt_succ_self id
    · rw [(Extends.passes passes).view target]
      exact validated_of_instantiate made

/-- There is no bare instance to be had, and no component was called. -/
theorem silent_of_unfit {c c' : Context σ} {name target : String} {e : Error}
    (failed : (c.noted name).instantiate target = (.error e, c')) :
    Silent c c' := by
  have noted : Silent c (c.noted name) := silent_take c (c.view name).aliasTarget
  rcases instantiate_cases (c.noted name) target with
    ⟨e', after, failed', silent⟩ | ⟨id, after, made, _⟩
  · rw [failed] at failed'
    cases failed'
    exact noted.trans silent
  · simp [failed] at made

/-- Registering an instance and reading its properties calls no component. -/
theorem quiet_begun (c : Context σ) (keep : Bool) (target : String) (id : ObjectId) :
    ∃ es, Quiet es ∧ c.host.Follows (c.begun keep target id).host es := by
  cases keep with
  | false =>
      obtain ⟨es, quiet, passes⟩ := silent_take c (c.view target).properties
      exact ⟨es, quiet, passes.follows⟩
  | true =>
      obtain ⟨es, quiet, acquired⟩ := silent_acquire c id
      obtain ⟨fs, quiet', taken⟩ := silent_take (c.register target id)
        ((c.register target id).view target).properties
      exact ⟨es ++ fs, quiet.append quiet', acquired.follows.trans taken.follows⟩

/-! ## Advancing -/

/-- A step on the host alone, or one that begins an instance. -/
inductive Advances : Context σ → Context σ → Prop where
  | passes {c c' : Context σ} {es : List Event} (passes : Passes c c' es) : Advances c c'
  | begins {keep : Bool} {name target : String} {c c₁ : Context σ} {id : ObjectId}
      (wants : Wants c name target) (built : (c.noted name).instantiate target = (.ok id, c₁)) :
      Advances c (c₁.begun keep target id)

def Goes : Context σ → Context σ → Prop := Relation.ReflTransGen Advances

theorem extends_of_begun {c c₁ : Context σ} {name target : String} {id : ObjectId} (keep : Bool)
    (built : (c.noted name).instantiate target = (.ok id, c₁)) :
    Extends c (c₁.begun keep target id) := by
  obtain ⟨⟨_, _, passes⟩, newer, _⟩ := silent_of_built built
  have taken (c : Context σ) : Extends c (c.take (c.view target).properties).2 := by
    obtain ⟨_, _, passes⟩ := silent_take c (c.view target).properties
    exact .passes passes
  have bare := Extends.passes passes
  cases keep with
  | false => exact bare.trans (taken c₁)
  | true =>
      obtain ⟨_, _, acquired⟩ := silent_acquire c₁ id
      have registered : Extends c (c₁.register target id) := by
        refine ⟨bare.document, bare.environment, Nat.le_trans bare.next acquired.follows.next,
          [(target, id)], ?_, by simpa using newer⟩
        show c₁.owned ++ [(target, id)] = _
        rw [passes.only.owned]
      exact registered.trans (taken _)

theorem Indexed.begun {c c₁ : Context σ} {name target : String} {id : ObjectId} (keep : Bool)
    (indexed : Indexed c) (wants : Wants c name target)
    (built : (c.noted name).instantiate target = (.ok id, c₁)) :
    Indexed (c₁.begun keep target id) := by
  obtain ⟨⟨_, _, passes⟩, newer, used, declared⟩ := silent_of_built built
  have taken {c : Context σ} (indexed : Indexed c) :
      Indexed (c.take (c.view target).properties).2 := by
    obtain ⟨_, _, passes⟩ := silent_take c (c.view target).properties
    exact indexed.passes passes
  cases keep with
  | false => exact taken (indexed.passes passes)
  | true =>
      have absent : c₁.lookup target = none := by
        rw [passes.only.lookup]
        exact wants.absent
      have older : ∀ e ∈ c₁.owned, e.2 < id := by
        intro e member
        rw [passes.only.owned] at member
        exact Nat.lt_of_lt_of_le (indexed.fresh e member) newer
      exact taken ((indexed.passes passes).register absent declared older used)

/-- What an instance is begun for is what a name leads to. -/
theorem names_begun {c c₁ : Context σ} {name target : String} {id : ObjectId} (keep : Bool)
    (built : (c.noted name).instantiate target = (.ok id, c₁)) {n : String}
    (member : n ∈ (c₁.begun keep target id).names) : n ∈ c.names ∨ n = target := by
  obtain ⟨⟨_, _, passes⟩, _⟩ := silent_of_built built
  have names : c₁.names = c.names := by
    unfold Context.names
    rw [passes.only.owned]
  cases keep with
  | false => exact .inl (names ▸ member)
  | true =>
      have member : n ∈ (c₁.register target id).names := member
      rw [names_register, names, List.mem_append, List.mem_singleton] at member
      exact member

theorem grown_begun {c c₁ : Context σ} {name target : String} {id : ObjectId} (keep : Bool)
    (consistent : Consistent c) (wants : Wants c name target)
    (built : (c.noted name).instantiate target = (.ok id, c₁)) :
    Grown c (c₁.begun keep target id) := by
  have grown := extends_of_begun keep built
  refine ⟨⟨consistent.toIndexed.begun keep wants built, ?_⟩, grown⟩
  intro n member
  rcases names_begun keep built member with member | rfl
  · obtain ⟨a, leads⟩ := consistent.asked n member
    exact ⟨a, by rw [grown.leadsTo]; exact leads⟩
  · exact ⟨name, by rw [grown.leadsTo]; exact wants.leads⟩

namespace Goes

variable {a b c c' : Context σ}

theorem refl (c : Context σ) : Goes c c := Relation.ReflTransGen.refl

theorem trans (first : Goes a b) (second : Goes b c) : Goes a c :=
  Relation.ReflTransGen.trans first second

theorem passes {es : List Event} (passes : Passes c c' es) : Goes c c' := .single (.passes passes)

theorem silent (first : Goes a b) (silent : Silent b c) : Goes a c := by
  obtain ⟨_, _, passes⟩ := silent
  exact first.trans (.passes passes)

theorem serves {id : ObjectId} (first : Goes a b) (serves : Serves id b c) : Goes a c := by
  obtain ⟨_, passes, _⟩ := serves
  exact first.trans (.passes passes)

theorem extended (goes : Goes c c') : Extends c c' := by
  induction goes with
  | refl => exact .refl c
  | tail _ last ih =>
      cases last with
      | passes passes => exact ih.trans (.passes passes)
      | begins wants built => exact ih.trans (extends_of_begun _ built)

theorem indexed (goes : Goes c c') (indexed : Indexed c) : Indexed c' := by
  induction goes with
  | refl => exact indexed
  | tail _ last ih =>
      cases last with
      | passes passes => exact ih.passes passes
      | begins wants built => exact ih.begun _ wants built

/-- The search path stays, and no creation shuts a context down. -/
theorem fixed (goes : Goes c c') : c'.paths = c.paths ∧ c'.shutDown = c.shutDown := by
  induction goes with
  | refl => exact ⟨rfl, rfl⟩
  | tail _ last ih =>
      rw [← ih.1, ← ih.2]
      cases last with
      | passes passes => exact ⟨passes.only.paths, passes.only.shutDown⟩
      | @begins keep name target c c₁ id wants built =>
          obtain ⟨⟨_, _, passes⟩, _⟩ := silent_of_built built
          rw [← passes.only.paths, ← passes.only.shutDown]
          cases keep <;> exact ⟨rfl, rfl⟩

/-- The journal only grows. -/
theorem follows (goes : Goes c c') : ∃ es, c.host.Follows c'.host es := by
  induction goes with
  | refl => exact ⟨[], .refl _⟩
  | tail _ last ih =>
      obtain ⟨es, before⟩ := ih
      cases last with
      | passes passes => exact ⟨_, before.trans passes.follows⟩
      | begins wants built =>
          obtain ⟨⟨_, _, passes⟩, _⟩ := silent_of_built built
          obtain ⟨_, _, begun⟩ := quiet_begun _ _ _ _
          exact ⟨_, (before.trans passes.follows).trans begun⟩

theorem grown (goes : Goes c c') (consistent : Consistent c) : Grown c c' := by
  induction goes with
  | refl => exact .refl consistent
  | tail _ last ih =>
      cases last with
      | passes passes => exact ih.trans (grown_of_passes ih.1 passes)
      | begins wants built => exact ih.trans (grown_begun _ ih.1 wants built)

end Goes

/-! ## What every run keeps up -/

variable [Lifecycle σ]

/-- **A run advances step by step**, whatever it ends with. -/
theorem Runs.goes {job : Job} {c c' : Context σ} {r : Except Error ObjectId}
    (runs : Runs job c r c') : Goes c c' := by
  have begun {keep : Bool} {name target : String} {c c₁ : Context σ} {id : ObjectId}
      (wants : Wants c name target)
      (built : (c.noted name).instantiate target = (.ok id, c₁)) :
      Goes c (c₁.begun keep target id) := .single (.begins wants built)
  induction runs with
  | live found => exact (Goes.refl _).silent (silent_acquire _ _)
  | astray missing leads => exact (Goes.refl _).silent (silent_take _ _)
  | followed missing leads found =>
      exact (Goes.refl _).silent ((silent_take _ _).trans (silent_acquire _ _))
  | unfit wants failed => exact (Goes.refl _).silent (silent_of_unfit failed)
  | complete wants built filled called ih =>
      exact ((begun wants built).trans ih).serves (serves_of_callDone called)
  | undone wants built filled called ih =>
      have called := ((begun wants built).trans ih).serves (serves_of_callDone called)
      exact called.silent (silent_release _ _)
  | broken wants built failed ih =>
      exact ((begun wants built).trans ih).silent (silent_release _ _)
  | filled => exact .refl _
  | nameless unnamed rest ih => exact ((Goes.refl _).silent (silent_log _ _ _)).trans ih
  | plain named value injected rest ih =>
      exact ((Goes.refl _).serves (serves_of_injectPlain injected)).trans ih
  | plainFails named value failed =>
      exact ((Goes.refl _).serves (serves_of_injectPlain failed)).silent (silent_log _ _ _)
  | reference named refers made injected rest made_ih ih =>
      have answered := ((Goes.refl _).silent (silent_expand _ _)).trans made_ih
      obtain ⟨_, _, passes⟩ := passes_of_inject injected
      exact ((answered.trans (.passes passes)).silent (silent_release _ _)).trans ih
  | targetFails named refers failed ih =>
      have failed := ((Goes.refl _).silent (silent_expand _ _)).trans ih
      exact failed.silent ((silent_log _ _ _).trans (silent_log _ _ _))
  | setterFails named refers made failed ih =>
      have answered := ((Goes.refl _).silent (silent_expand _ _)).trans ih
      obtain ⟨_, _, passes⟩ := passes_of_inject failed
      exact (answered.trans (.passes passes)).silent
        ((silent_release _ _).trans (silent_log _ _ _))

/-- **A run keeps a context consistent and only extends it.** -/
theorem Runs.grows {job : Job} {c c' : Context σ} {r : Except Error ObjectId}
    (runs : Runs job c r c') (consistent : Consistent c) : Grown c c' :=
  runs.goes.grown consistent

/-- The object a request is answered with is live under the name asked for, or under the one that
leads to. -/
theorem Runs.answer {name : String} {c c' : Context σ} {id : ObjectId}
    (runs : Runs (.request true name) c (.ok id) c') (indexed : Indexed c) :
    c.lookup name = some id ∨
      c.lookup name = none ∧
        ∃ target, c.leadsTo name = .ok target ∧ c'.lookup target = some id := by
  cases runs with
  | live found => exact .inl found
  | followed missing leads found => exact .inr ⟨missing, _, leads, found⟩
  | @complete _ _ target _ c₁ c₂ _ _ wants built filled called =>
      refine .inr ⟨wants.missing, target, wants.leads, ?_⟩
      have begun := indexed.begun true wants built
      have registered : (c₁.begun true target id).lookup target = some id :=
        lookup_register_self c₁ target id
      have goes := filled.goes.serves (serves_of_callDone called)
      exact goes.extended.lookup begun (goes.indexed begun) registered

end Wiring.Context
