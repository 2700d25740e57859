/-
# Wiring.Proofs.Heap.Anchored -- what reference counts can never let go

An object is anchored if it can be reached over strong references from an object held
from outside or from one that lies on a cycle of strong references.  Anchored objects
hold each other up (`supported_of_anchored`).  Conversely, where every live object is
held from outside or referred to by another, every live object is anchored
(`anchored_of_referred`): walking against the references among finitely many objects
ends at an outside handle or runs into a cycle.
-/
import Wiring.Proofs.Heap.Collapse
import Mathlib.Data.Fintype.Card
import Mathlib.Data.Set.Finite.List
import Mathlib.Logic.Relation
import Mathlib.Order.WellFounded

namespace Wiring.Heap

set_option autoImplicit false

open Relation (ReflTransGen TransGen)

variable {α : Type} [Holder α]

/-- An object from which strong references lead back to it. -/
def OnCycle (h : Heap α) (x : ObjectId) : Prop := TransGen h.Refers x x

/-- An object reached over strong references, in zero or more steps, from one that is held from
outside or lies on a cycle. -/
def Anchored (h : Heap α) (outside : List ObjectId) (x : ObjectId) : Prop :=
  ∃ root, (root ∈ outside ∨ h.OnCycle root) ∧ ReflTransGen h.Refers root x

variable {h h' : Heap α} {outside : List ObjectId}

theorem Anchored.step {x y : ObjectId} (anchored : h.Anchored outside x) (refers : h.Refers x y) :
    h.Anchored outside y := by
  obtain ⟨root, anchor, path⟩ := anchored
  exact ⟨root, anchor, path.tail refers⟩

/-- Anchors are kept by more handles. -/
theorem Anchored.mono {other : List ObjectId} (more : ∀ x ∈ outside, x ∈ other) {x : ObjectId}
    (anchored : h.Anchored outside x) : h.Anchored other x := by
  obtain ⟨root, anchor, path⟩ := anchored
  exact ⟨root, anchor.imp_left (more root), path⟩

/-- An anchored object is held from outside or referred to by an anchored one. -/
theorem supported_of_anchored {x : ObjectId} (anchored : h.Anchored outside x) :
    x ∈ outside ∨ ∃ y, h.Anchored outside y ∧ h.Refers y x := by
  obtain ⟨root, anchor, path⟩ := anchored
  rcases ReflTransGen.cases_tail path with rfl | ⟨y, path, refers⟩
  · rcases anchor with held | cycle
    · exact .inl held
    · obtain ⟨y, path, refers⟩ := TransGen.tail'_iff.1 cycle
      exact .inr ⟨y, ⟨x, .inr cycle, path⟩, refers⟩
  · exact .inr ⟨y, ⟨root, anchor, path⟩, refers⟩

omit [Holder α] in
/-- Live objects are finitely many. -/
theorem finite_live (h : Heap α) : Finite { x // h.isLive x } := by
  have within : { x | h.isLive x } ⊆ { x | x ∈ h.cells.map (·.1) } := by
    intro x live
    obtain ⟨a, found⟩ := isLive_iff.1 live
    exact List.mem_map.2 ⟨(x, a), mem_cells_of_find? found, rfl⟩
  exact ((List.finite_toSet _).subset within).to_subtype

/-- If nothing is live but what is held from outside or referred to, all that is live is
anchored. -/
theorem anchored_of_referred
    (referred : ∀ x, h.isLive x → x ∈ outside ∨ ∃ y, h.Refers y x) {x : ObjectId}
    (live : h.isLive x) : h.Anchored outside x := by
  by_contra loose
  -- The loose objects have no cycle among them, so one of them has no loose referrer.
  have : Finite { z // h.isLive z } := finite_live h
  let before : { z : { z // h.isLive z } // ¬ h.Anchored outside z.1 } →
      { z : { z // h.isLive z } // ¬ h.Anchored outside z.1 } → Prop :=
    fun y z => TransGen h.Refers y.1.1 z.1.1
  have : IsTrans _ before := ⟨fun _ _ _ first second => first.trans second⟩
  have : Std.Irrefl before := ⟨fun y cycle => y.2 ⟨y.1.1, .inr cycle, .refl⟩⟩
  have founded : WellFounded before := Finite.wellFounded_of_trans_of_irrefl before
  obtain ⟨first, -, least⟩ := founded.has_min Set.univ ⟨⟨⟨x, live⟩, loose⟩, trivial⟩
  rcases referred first.1.1 first.1.2 with held | ⟨y, refers⟩
  · exact first.2 ⟨first.1.1, .inl held, .refl⟩
  · have looseReferrer : ¬ h.Anchored outside y := fun anchored => first.2 (anchored.step refers)
    have single : TransGen h.Refers y first.1.1 := .single refers
    obtain ⟨a, found, _⟩ := refers
    exact least ⟨⟨y, isLive_iff.2 ⟨a, found⟩⟩, looseReferrer⟩ trivial single

/-! ## Along a collapse -/

theorem refers_of_collapses {gone : List ObjectId} (collapse : Collapses h gone h')
    {x y : ObjectId} (refers : h'.Refers x y) : h.Refers x y := by
  obtain ⟨a, found, held⟩ := refers
  rw [find?_of_collapses collapse] at found
  split at found
  · simp at found
  · exact ⟨a, found, held⟩

theorem anchored_of_collapses {gone : List ObjectId} (collapse : Collapses h gone h')
    {x : ObjectId} (anchored : h'.Anchored outside x) : h.Anchored outside x := by
  have earlier : ∀ y z, h'.Refers y z → h.Refers y z := fun y z => refers_of_collapses collapse
  obtain ⟨root, anchor, path⟩ := anchored
  refine ⟨root, anchor.imp_right fun cycle => ?_, ReflTransGen.mono earlier _ _ path⟩
  exact TransGen.mono earlier _ _ cycle

end Wiring.Heap
