/-
# Wiring.Proofs.Heap.Collapse -- in which order objects go

Whatever gives up pointers only ever does two things to a heap: it forgets a handle,
or it erases an object that nothing points to.  `Collapses h gone h'` says that `h'`
comes from `h` by such steps and that `gone` lists the erased objects in order.

From the steps alone follow the facts a teardown rests on: everything that is not in
`gone` is as it was (`find?_of_collapses`), nothing goes twice
(`nodup_of_collapses`), an object goes only after every object that refers to it
(`precedes_of_collapses`), and a set of objects that hold each other up, or are held
from outside to the end, stays (`supported_of_collapses`).
-/
import Wiring.Proofs.Heap.Sound
import Mathlib.Data.Set.Basic

namespace Wiring.Heap

set_option autoImplicit false

variable {α : Type} [Holder α]

def Refers (h : Heap α) (x y : ObjectId) : Prop := ∃ a, h.find? x = some a ∧ y ∈ Holder.held a

/-- The second heap comes from the first by forgetting handles and erasing objects that nothing
points to, in the listed order. -/
inductive Collapses : Heap α → List ObjectId → Heap α → Prop where
  | refl (h : Heap α) : Collapses h [] h
  | forget {h h' : Heap α} {gone : List ObjectId} (id : ObjectId)
      (rest : Collapses (h.dropHandle id) gone h') : Collapses h gone h'
  | erase {h h' : Heap α} {gone : List ObjectId} {id : ObjectId} (live : h.isLive id)
      (unused : h.count id = 0) (rest : Collapses (h.erase id) gone h') :
      Collapses h (id :: gone) h'

namespace Collapses

theorem trans {h₁ h₂ h₃ : Heap α} {early late : List ObjectId} (first : Collapses h₁ early h₂)
    (second : Collapses h₂ late h₃) : Collapses h₁ (early ++ late) h₃ := by
  induction first with
  | refl h => exact second
  | forget id rest ih => exact .forget id (ih second)
  | erase live unused rest ih => exact .erase live unused (ih second)

end Collapses

/-! ## What giving up pointers does -/

theorem collapses_settle (h : Heap α) (pending : List ObjectId) :
    Collapses h ((h.settle pending).2.map (·.1)) (h.settle pending).1 := by
  fun_induction settle h pending with
  | case1 h => exact .refl h
  | case2 h id rest missing ih => exact ih
  | case3 h id rest a found last final destroyed settled ih =>
      rw [settled] at ih
      exact .erase (isLive_iff.2 ⟨a, found⟩) (Nat.eq_zero_of_add_eq_zero_right last) ih
  | case4 h id rest a found other ih => exact ih

theorem collapses_release (h : Heap α) (id : ObjectId) :
    Collapses h ((h.release id).2.map (·.1)) (h.release id).1 := by
  unfold release
  split
  · exact .forget id (collapses_settle _ _)
  · exact .refl h

/-- Giving up the only pointer to an object destroys it. -/
theorem mem_release_of_count_one {h : Heap α} (sound : h.Sound) {id : ObjectId}
    (handle : id ∈ h.handles) (only : h.count id = 1) : id ∈ (h.release id).2.map (·.1) := by
  obtain ⟨a, found⟩ := isLive_iff.1 (sound.handles id handle)
  have found : (h.dropHandle id).find? id = some a := found
  have last : (h.dropHandle id).count id + ([] : List ObjectId).count id = 0 := by
    have := List.count_pos_iff.2 handle
    unfold count at only ⊢
    show (h.handles.erase id).count id + h.inner id + _ = 0
    simp
    omega
  unfold release
  rw [if_pos (List.contains_iff_mem.2 handle), settle]
  split
  · next missing => simp [found] at missing
  · next b there =>
    rw [if_pos last]
    simp

/-! ## What follows from the steps -/

section Steps

variable {h h' : Heap α} {gone : List ObjectId}

theorem find?_of_collapses (collapse : Collapses h gone h') (x : ObjectId) :
    h'.find? x = if x ∈ gone then none else h.find? x := by
  induction collapse with
  | refl h => simp
  | forget id rest ih => exact ih
  | @erase h h' gone id live unused rest ih =>
      rw [ih, find?_erase]
      by_cases same : x = id <;> simp [same]

theorem handles_of_collapses (collapse : Collapses h gone h') : h'.handles ⊆ h.handles := by
  induction collapse with
  | refl h => exact fun _ member => member
  | forget id rest ih => exact fun _ member => List.mem_of_mem_erase (ih member)
  | erase live unused rest ih => exact ih

theorem isLive_of_collapses (collapse : Collapses h gone h') {x : ObjectId} (member : x ∈ gone) :
    h.isLive x := by
  induction collapse with
  | refl h => simp at member
  | forget id rest ih => exact ih member
  | erase live unused rest ih =>
      rcases List.mem_cons.1 member with rfl | member
      · exact live
      · exact (isLive_erase.1 (ih member)).2

theorem nodup_of_collapses (collapse : Collapses h gone h') : gone.Nodup := by
  induction collapse with
  | refl h => exact List.nodup_nil
  | forget id rest ih => exact ih
  | erase live unused rest ih =>
      refine List.nodup_cons.2 ⟨?_, ih⟩
      intro again
      exact (isLive_erase.1 (isLive_of_collapses rest again)).1 rfl

/-- **An object goes only after every object that refers to it.** -/
theorem precedes_of_collapses (collapse : Collapses h gone h') {before after : List ObjectId}
    {x y : ObjectId} (split : gone = before ++ x :: after) (refers : h.Refers y x) :
    y ∈ before := by
  induction collapse generalizing before with
  | refl h => simp at split
  | forget id rest ih => exact ih split refers
  | @erase h h' gone id live unused rest ih =>
      obtain ⟨a, found, held⟩ := refers
      cases before with
      | nil =>
          simp only [List.nil_append, List.cons.injEq] at split
          obtain ⟨rfl, -⟩ := split
          have := inner_pos found held
          unfold count at unused
          omega
      | cons first before =>
          simp only [List.cons_append, List.cons.injEq] at split
          obtain ⟨rfl, split⟩ := split
          by_cases same : y = id
          · exact same ▸ List.mem_cons_self
          · refine List.mem_cons_of_mem _ (ih split ⟨a, ?_, held⟩)
            rw [find?_erase, if_neg same]
            exact found

/-- Objects of a set each of which has a handle to the end or is referred to from the set stay. -/
theorem supported_of_collapses (collapse : Collapses h gone h') {kept : Set ObjectId}
    (supported : ∀ x ∈ kept, x ∈ h'.handles ∨ ∃ y ∈ kept, h.Refers y x) :
    ∀ x ∈ gone, x ∉ kept := by
  induction collapse with
  | refl h => simp
  | forget id rest ih => exact ih supported
  | @erase h h' gone id live unused rest ih =>
      have spared : id ∉ kept := by
        intro member
        unfold count at unused
        rcases supported id member with handle | ⟨y, _, a, found, held⟩
        · have handle : id ∈ h.handles := handles_of_collapses rest handle
          have := List.count_pos_iff.2 handle
          omega
        · have := inner_pos found held
          omega
      intro x member
      rcases List.mem_cons.1 member with rfl | member
      · exact spared
      · apply ih _ x member
        intro z there
        rcases supported z there with handle | ⟨y, keeper, a, found, held⟩
        · exact .inl handle
        · have other : y ≠ id := fun same => spared (same ▸ keeper)
          refine .inr ⟨y, keeper, a, ?_, held⟩
          rw [find?_erase, if_neg other]
          exact found

end Steps

end Wiring.Heap
