/-
# Wiring.Proofs.Host.Presence -- which objects there are

Identities are given out one after the other, so the objects made between two states of
a program are those whose identities lie between the next ones of the two
(`Does.born`).  What a handle holds is live, as long as it was so in the beginning
(`Does.anchors`); so an object that somebody holds is there to be asked for its hooks
(`Bears`).
-/
import Wiring.Proofs.Host.Deeds

namespace Wiring

set_option autoImplicit false

open Wiring.Component

namespace Host

variable {σ : Type} [Lifecycle σ] {h h₁ h' : Host σ} {ds es : List Deed}

/-! ## What is made -/

theorem next_perform (h : Host σ) (id : ObjectId) (action : Action σ) :
    (h.perform id action).2.heap.next = h.heap.next := by
  let stored := h.heap.storeAll (h.changesOf (action h.sight id))
  show (stored.1.settle stored.2).1.next = _
  rw [Heap.next_settle, Heap.next_storeAll]

/-- A step makes one object, with the next identity, or none. -/
theorem Moves.born (moves : Moves h ds h') :
    madeIn ds = [] ∧ h'.heap.next = h.heap.next ∨
      madeIn ds = [h.heap.next] ∧ h'.heap.next = h.heap.next + 1 := by
  cases moves with
  | enter rs => exact .inl ⟨rfl, rfl⟩
  | acquire id =>
      refine .inl ⟨rfl, ?_⟩
      show (h.heap.acquire id).next = _
      unfold Heap.acquire
      split <;> rfl
  | release id => exact .inl ⟨rfl, Heap.next_release h.heap id⟩
  | load paths name => exact .inl ⟨rfl, congrArg Heap.next (heap_load h paths name)⟩
  | scan => exact .inl ⟨rfl, rfl⟩
  | construct made =>
      obtain ⟨o, rfl, allocated⟩ := construct_eq_ok made
      exact .inr ⟨rfl, congrArg Heap.next allocated⟩
  | inject id name value =>
      refine .inl ⟨rfl, ?_⟩
      rcases inject_cases h id name value with ⟨e, failed⟩ | ⟨action, acted⟩
      · rw [failed]
        rfl
      · rw [acted, next_perform]
        rfl
  | call id hook =>
      refine .inl ⟨rfl, ?_⟩
      rcases call_cases h id hook with ⟨e, failed⟩ | ⟨action, acted⟩
      · rw [failed]
        rfl
      · rw [acted, next_perform]
        rfl

/-- **The objects made are those that are newer than all before and older than all to come.** -/
theorem Does.born (does : Does h ds h') {x : ObjectId} :
    x ∈ madeIn ds ↔ h.heap.next ≤ x ∧ x < h'.heap.next := by
  induction does with
  | nothing h =>
      refine ⟨fun member => absurd member List.not_mem_nil, fun between => ?_⟩
      exact absurd between.2 (Nat.not_lt.2 between.1)
  | @step h h₁ h' ds es moves rest ih =>
      have later := rest.next_le
      rw [madeIn_append, List.mem_append, ih]
      rcases moves.born with ⟨none, same⟩ | ⟨one, next⟩
      · rw [none, same]
        simp
      · rw [next] at later ⊢
        rw [one, List.mem_singleton]
        constructor
        · rintro (rfl | ⟨low, high⟩)
          · exact ⟨Nat.le_refl _, later⟩
          · exact ⟨Nat.le_of_succ_le low, high⟩
        · rintro ⟨low, high⟩
          exact (Nat.eq_or_lt_of_le low).imp Eq.symm fun more => ⟨more, high⟩

/-! ## What is held -/

/-- What a handle holds is live. -/
def Anchors (h : Host σ) : Prop := ∀ x ∈ h.heap.handles, h.heap.isLive x

/-- A handle that was there before keeps its object; any other is to a live object or a new one. -/
theorem Moves.anchors (moves : Moves h ds h') (anchors : h.Anchors) : h'.Anchors := by
  intro x handle
  have kept (live : h.heap.isLive x) : h'.heap.isLive x := by
    have same := moves.blueprint? live handle
    rw [isLive_iff_blueprint?] at live ⊢
    rwa [same]
  cases moves with
  | enter rs => exact anchors x handle
  | acquire id =>
      by_cases live : h.heap.isLive id
      · rw [handles_acquire live] at handle
        rcases List.mem_cons.1 handle with rfl | old
        · exact kept live
        · exact kept (anchors x old)
      · have same : (h.acquire id).heap = h.heap := if_neg live
        rw [same] at handle ⊢
        exact anchors x handle
  | release id =>
      have handle : x ∈ (h.heap.release id).1.handles := handle
      rw [Heap.handles_release] at handle
      exact kept (anchors x (List.mem_of_mem_erase handle))
  | load paths name =>
      rw [heap_load] at handle ⊢
      exact anchors x handle
  | scan => exact anchors x handle
  | construct made =>
      obtain ⟨o, rfl, allocated⟩ := construct_eq_ok made
      rw [allocated] at handle
      rcases List.mem_cons.1 handle with rfl | old
      · rw [allocated]
        exact Heap.isLive_allocate_self h.heap o
      · exact kept (anchors x old)
  | inject id name value =>
      rw [handles_inject] at handle
      exact kept (anchors x handle)
  | call id hook =>
      rw [handles_call] at handle
      exact kept (anchors x handle)

theorem Does.anchors (does : Does h ds h') (anchors : h.Anchors) : h'.Anchors := by
  induction does with
  | nothing h => exact anchors
  | step moves rest ih => exact ih (moves.anchors anchors)

/-! ## What an object has -/

/-- At some time in the course of these deeds the object was there, and had the hook or not. -/
def Bears (h : Host σ) (ds : List Deed) (h' : Host σ) (id : ObjectId) (hook : String)
    (has : Bool) : Prop :=
  ∃ m before after, ds = before ++ after ∧ h.Does before m ∧ m.Does after h' ∧
    m.heap.isLive id ∧ m.hasHook id hook = has

namespace Bears

variable {id : ObjectId} {hook : String} {has : Bool}

theorem last (does : h.Does ds h') (live : h'.heap.isLive id) :
    h.Bears ds h' id hook (h'.hasHook id hook) :=
  ⟨h', ds, [], (List.append_nil ds).symm, does, .nothing h', live, rfl⟩

theorem prepend (does : h.Does ds h₁) (bears : h₁.Bears es h' id hook has) :
    h.Bears (ds ++ es) h' id hook has := by
  obtain ⟨m, before, after, rfl, first, second, bound⟩ := bears
  exact ⟨m, ds ++ before, after, (List.append_assoc ds before after).symm, does.trans first,
    second, bound⟩

theorem append (bears : h.Bears ds h₁ id hook has) (does : h₁.Does es h') :
    h.Bears (ds ++ es) h' id hook has := by
  obtain ⟨m, before, after, rfl, first, second, bound⟩ := bears
  exact ⟨m, before, after ++ es, List.append_assoc before after es, first, second.trans does,
    bound⟩

end Bears

end Host

end Wiring
