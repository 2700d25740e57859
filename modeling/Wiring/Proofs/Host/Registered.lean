/-
# Wiring.Proofs.Host.Registered -- where the factories of a program come from

A program can register the factories of its component types and those that libraries
stage for it (`Program.Offers`).  Its steps add such factories and no others, and a
class that has a factory keeps it (`Moves.registers`).  The same goes for cast edges
(`Program.Links`, `Moves.links`).
-/
import Wiring.Proofs.Host.Deeds
import Wiring.Proofs.Registry.Additions

namespace Wiring

set_option autoImplicit false

open Wiring.Component

variable {σ : Type}

/-- A factory that a program can register: of one of its component types, or from a library. -/
def Program.Offers (p : Program σ) (f : Factory σ) : Prop :=
  (∃ c ∈ p.components, c.factory = .ok f) ∨
    ∃ path library status staged className, p.openLibrary path = .ok library ∧
      library.entry = .ok (status, staged) ∧ (className, f) ∈ staged.factories

/-- A cast edge that a program can register: of one of its component types, or from a library. -/
def Program.Links (p : Program σ) (e : CastEdge) : Prop :=
  (∃ c ∈ p.components, e ∈ c.edges) ∨
    ∃ path library status staged, p.openLibrary path = .ok library ∧
      library.entry = .ok (status, staged) ∧ e ∈ staged.casts

namespace Host

/-- The program is the same, and what was registered on the way it offers. -/
def Registers (h h' : Host σ) : Prop :=
  h'.program = h.program ∧
    Factories.Adds h.program.Offers h.registry.factories h'.registry.factories

namespace Registers

variable {h h₁ h₂ : Host σ}

theorem of_same (program : h₁.program = h.program) (registry : h₁.registry = h.registry) :
    Registers h h₁ := ⟨program, registry ▸ .refl _⟩

theorem trans (first : Registers h h₁) (second : Registers h₁ h₂) : Registers h h₂ := by
  obtain ⟨program, adds⟩ := first
  obtain ⟨program', adds'⟩ := second
  rw [program] at adds'
  exact ⟨program'.trans program, adds.trans adds'⟩

end Registers

theorem registers_scan (h : Host σ) : Registers h h.scan.2 := by
  refine ⟨rfl, Registry.adds_scan h.registry ?_⟩
  intro c member f made
  exact .inl ⟨c, member, made⟩

theorem registers_adopt (h : Host σ) (name : String) {path : String} {l : Library σ}
    (opened : h.program.openLibrary path = .ok l) : Registers h (h.adopt name l).2 := by
  unfold adopt
  split
  · exact .of_same rfl rfl
  · next status staged entry =>
    cases status with
    | ok =>
        refine ⟨rfl, Registry.adds_publish h.registry ?_⟩
        intro e member
        exact .inr ⟨path, l, _, staged, e.1, opened, entry, member⟩
    | failed => exact .of_same rfl rfl
    | incompatible => exact .of_same rfl rfl

theorem registers_search (h : Host σ) (name : String) (failures dirs : List String) :
    Registers h (h.search name failures dirs).2 := by
  induction dirs generalizing failures with
  | nil => exact .of_same rfl rfl
  | cons dir dirs ih =>
      unfold search
      simp only
      split
      · next l opened => exact registers_adopt (h.record _) name opened
      · exact ih _

theorem registers_load (h : Host σ) (paths : List String) (name : String) :
    Registers h (h.load paths name).2 := by
  unfold load
  split
  · exact .of_same rfl rfl
  · split
    · exact .of_same rfl rfl
    · exact registers_search h name [] paths

/-! ## Edges -/

theorem links_scan {h : Host σ} {e : CastEdge} (member : e ∈ h.scan.2.registry.casts) :
    e ∈ h.registry.casts ∨ h.program.Links e := by
  refine @Registry.scan_induction σ (fun r => e ∈ r.casts → e ∈ h.registry.casts ∨
    h.program.Links e) h.registry h.program.components .inl ?_ member
  intro r c known before member
  unfold Registry.register at member
  cases made : c.factory with
  | error e =>
      rw [made] at member
      exact before member
  | ok f =>
      rw [made] at member
      exact (Casts.mem_registerAll.1 member).elim before fun own => .inr (.inl ⟨c, known, own⟩)

theorem links_adopt {h : Host σ} {name path : String} {l : Library σ} {e : CastEdge}
    (opened : h.program.openLibrary path = .ok l)
    (member : e ∈ (h.adopt name l).2.registry.casts) :
    e ∈ h.registry.casts ∨ h.program.Links e := by
  unfold adopt at member
  split at member
  · exact .inl member
  · next status staged entry =>
    cases status with
    | ok =>
        refine (Casts.mem_registerAll.1 member).imp_right fun brought => ?_
        exact .inr ⟨path, l, _, staged, opened, entry, brought⟩
    | failed => exact .inl member
    | incompatible => exact .inl member

theorem links_search {h : Host σ} {name : String} {failures dirs : List String} {e : CastEdge}
    (member : e ∈ (h.search name failures dirs).2.registry.casts) :
    e ∈ h.registry.casts ∨ h.program.Links e := by
  induction dirs generalizing failures with
  | nil => exact .inl member
  | cons dir dirs ih =>
      unfold search at member
      simp only at member
      split at member
      · next l opened => exact links_adopt (h := h.record _) opened member
      · exact ih member

theorem links_load {h : Host σ} {paths : List String} {name : String} {e : CastEdge}
    (member : e ∈ (h.load paths name).2.registry.casts) :
    e ∈ h.registry.casts ∨ h.program.Links e := by
  unfold load at member
  split at member
  · exact .inl member
  · split at member
    · exact .inl member
    · exact links_search member

/-! ## Instances -/

/-- A new instance is one of the factory that its class has. -/
theorem made_of_construct {h h' : Host σ} {className : String} {id : ObjectId}
    (made : h.construct className = (.ok id, h')) :
    ∃ f state, h.registry.factories.get? className = some f ∧ f.make = .ok state ∧
      id = h.heap.next ∧ h' = (h.allocate f.blueprint state).2 := by
  unfold construct Factories.find at made
  cases found : h.registry.factories.get? className with
  | none => simp [found] at made
  | some f =>
      simp only [found] at made
      cases state : f.make with
      | error e => simp [state] at made
      | ok s =>
          simp only [state] at made
          cases made
          exact ⟨f, s, rfl, state, rfl, rfl⟩

variable [Lifecycle σ]

/-- Only loading and scanning reach the registries. -/
theorem Moves.registry_cases {h h' : Host σ} {ds : List Deed} (moves : Moves h ds h') :
    (∃ paths name, h' = (h.load paths name).2) ∨ h' = h.scan.2 ∨
      h'.program = h.program ∧ h'.registry = h.registry ∧ h'.loaded = h.loaded := by
  cases moves with
  | enter rs => exact .inr (.inr ⟨rfl, rfl, rfl⟩)
  | acquire id => exact .inr (.inr ⟨rfl, rfl, rfl⟩)
  | release id => exact .inr (.inr ⟨rfl, rfl, rfl⟩)
  | load paths name => exact .inl ⟨paths, name, rfl⟩
  | scan => exact .inr (.inl rfl)
  | construct made =>
      obtain ⟨_, _, _, _, _, rfl⟩ := made_of_construct made
      exact .inr (.inr ⟨rfl, rfl, rfl⟩)
  | inject id name value =>
      refine .inr (.inr ?_)
      rcases inject_cases h id name value with ⟨e, failed⟩ | ⟨action, injected⟩
      · rw [failed]
        exact ⟨rfl, rfl, rfl⟩
      · rw [injected]
        exact ⟨rfl, rfl, rfl⟩
  | call id hook =>
      refine .inr (.inr ?_)
      rcases call_cases h id hook with ⟨e, failed⟩ | ⟨action, called⟩
      · rw [failed]
        exact ⟨rfl, rfl, rfl⟩
      · rw [called]
        exact ⟨rfl, rfl, rfl⟩

/-- **A step registers only what the program offers**, and takes no factory away. -/
theorem Moves.registers {h h' : Host σ} {ds : List Deed} (moves : Moves h ds h') :
    Registers h h' := by
  rcases moves.registry_cases with ⟨paths, name, rfl⟩ | rfl | ⟨program, registry, -⟩
  · exact registers_load h paths name
  · exact registers_scan h
  · exact .of_same program registry

/-- **A step registers only edges that the program has.** -/
theorem Moves.links {h h' : Host σ} {ds : List Deed} (moves : Moves h ds h') {e : CastEdge}
    (member : e ∈ h'.registry.casts) : e ∈ h.registry.casts ∨ h.program.Links e := by
  rcases moves.registry_cases with ⟨paths, name, rfl⟩ | rfl | ⟨-, registry, -⟩
  · exact links_load member
  · exact links_scan member
  · exact .inl (registry ▸ member)

theorem Does.registers {h h' : Host σ} {ds : List Deed} (does : Does h ds h') :
    Registers h h' := by
  induction does with
  | nothing h => exact .of_same rfl rfl
  | step moves rest ih => exact moves.registers.trans ih

end Host

end Wiring
