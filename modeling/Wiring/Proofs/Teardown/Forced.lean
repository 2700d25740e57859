/-
# Wiring.Proofs.Teardown.Forced -- what the sweep leaves is let go without harm

When the sweep has converged every entry that is left has a second pointer.  Giving up
the owner's handle to one of them therefore destroys nothing, and changes the count of
no other entry, since no two entries are for the same object.  So all of them can be
given up in any order, and each count that is reported is the one from before
(`forceDown_eq`).

`tearDown_forced` says this of a whole teardown: the forced phase leaves every object
there is, and each warning tells how many pointers of others there are, which is never
none.
-/
import Wiring.Proofs.Teardown.Sweep

namespace Wiring

set_option autoImplicit false

/-! ## Giving up one of several pointers -/

namespace Heap

variable {α : Type} [Holder α] {h : Heap α} {id x : ObjectId}

theorem count_dropHandle_self (handle : id ∈ h.handles) :
    (h.dropHandle id).count id + 1 = h.count id := by
  have positive := List.count_pos_iff.2 handle
  show (h.handles.erase id).count id + h.inner id + 1 = h.handles.count id + h.inner id
  rw [List.count_erase_self]
  omega

theorem count_dropHandle_of_ne (other : x ≠ id) : (h.dropHandle id).count x = h.count x := by
  show (h.handles.erase id).count x + h.inner x = h.handles.count x + h.inner x
  rw [List.count_erase_of_ne other]

/-- A handle that is not the last pointer to its object just goes. -/
theorem release_of_shared (handle : id ∈ h.handles) (shared : 1 < h.count id) :
    h.release id = (h.dropHandle id, []) := by
  have left := count_dropHandle_self handle
  unfold release
  rw [if_pos (List.contains_iff_mem.2 handle), settle]
  split
  · rw [settle]
  · next a found =>
    have more : (h.dropHandle id).count id + ([] : List ObjectId).count id ≠ 0 := by
      simp only [List.count_nil]
      omega
    rw [if_neg more, settle]

end Heap

namespace Context

open Wiring.Component

variable {σ : Type} [Lifecycle σ]

/-! ## The forced phase -/

/-- The strong references to an object that are not the owner's: handles of others, and references
from live objects. -/
def pointersOfOthers (h : Host σ) (kept : Owned) (id : ObjectId) : Nat :=
  (outside h kept).count id + h.heap.inner id

def warning (h : Host σ) (pointers : Nat) (e : String × ObjectId) : Event :=
  let type := (h.object? e.2).elim "" (·.blueprint.typeName)
  .logged (entry .warn
    s!"Instance '{e.1}' of {type} is still referenced ({pointers}), destroying anyway")

/-- The program and the entries that are left when the sweep of a teardown has converged. -/
def converged (h : Host σ) (owned : Owned) : Host σ × Owned :=
  sweep (cleanUp (h.record [entry .info s!"Destroying {owned.length} instances"]) owned)
    owned.reverse

/-- **Where every entry has a second pointer, giving up the owner's handles destroys nothing**, and
what is reported of each is its count from before any was given up. -/
theorem forceDown_eq {h : Host σ} {order : Owned} (distinct : (order.map (·.2)).Nodup)
    (handles : ∀ e ∈ order, e.2 ∈ h.heap.handles) (shared : ∀ e ∈ order, 1 < h.count e.2) :
    forceDown h order =
      { h with
        heap := { h.heap with handles := outside h order }
        journal := h.journal ++ order.map fun e => warning h (h.count e.2 - 1) e } := by
  induction order generalizing h with
  | nil => simp [forceDown, outside]
  | cons e rest ih =>
      obtain ⟨name, id⟩ := e
      simp only [List.map_cons, List.nodup_cons] at distinct
      have handle : id ∈ h.heap.handles := handles _ List.mem_cons_self
      have released : h.heap.release id = (h.heap.dropHandle id, []) :=
        Heap.release_of_shared handle (shared _ List.mem_cons_self)
      -- What is left after the first entry differs from `h` in one handle and one record.
      let next : Host σ :=
        { h with
          heap := h.heap.dropHandle id
          journal := h.journal ++ [warning h (h.count id - 1) (name, id)] }
      have first : forceDown h ((name, id) :: rest) = forceDown next rest := by
        simp [forceDown, Host.record, Host.enter, Host.release, released, Host.farewells, next,
          warning]
      have others : ∀ e ∈ rest, e.2 ≠ id := by
        intro e member same
        exact distinct.1 (List.mem_map.2 ⟨e, member, same⟩)
      have counts : ∀ e ∈ rest, next.count e.2 = h.count e.2 := by
        intro e member
        exact Heap.count_dropHandle_of_ne (others e member)
      have handles' : ∀ e ∈ rest, e.2 ∈ next.heap.handles := by
        intro e member
        have there := handles e (List.mem_cons_of_mem _ member)
        exact (List.mem_erase_of_ne (others e member)).2 there
      have shared' : ∀ e ∈ rest, 1 < next.count e.2 := by
        intro e member
        rw [counts e member]
        exact shared e (List.mem_cons_of_mem _ member)
      have warnings : (rest.map fun e => warning next (next.count e.2 - 1) e) =
          rest.map fun e => warning h (h.count e.2 - 1) e := by
        apply List.map_congr_left
        intro e member
        rw [counts e member]
        rfl
      rw [first, ih distinct.2 handles' shared', warnings]
      simp [next, outside, Heap.dropHandle]

/-- A count is what others have, and the handle of the owner. -/
theorem count_eq_pointersOfOthers {h : Host σ} {kept : Owned} (keeps : Keeps h kept)
    {e : String × ObjectId} (member : e ∈ kept) :
    h.count e.2 = pointersOfOthers h kept e.2 + 1 := by
  have handle := List.count_pos_iff.2 (keeps.handles e member)
  have entry : (kept.map (·.2)).count e.2 = 1 :=
    List.count_eq_one_of_mem keeps.distinct (List.mem_map.2 ⟨e, member, rfl⟩)
  unfold pointersOfOthers outside Host.count Heap.count
  rw [List.count_diff, entry]
  omega

/-- **The forced phase of a teardown.**  When the sweep has converged and entries remain, giving
them up leaves all objects as they are; and of each it is reported how many strong references there
are besides the owner's, at least one, counted when the sweep had converged. -/
theorem tearDown_forced {h : Host σ} {owned : Owned} (keeps : Keeps h owned)
    (remain : (converged h owned).2 ≠ []) :
    let after := (converged h owned).1
    let kept := (converged h owned).2
    let final := tearDown h owned
    final.heap = { after.heap with handles := outside after kept.reverse } ∧
    (∃ count, final.journal = after.journal ++ .logged count ::
      kept.reverse.map fun e => warning after (pointersOfOthers after kept e.2) e) ∧
    ∀ e ∈ kept, after.count e.2 = pointersOfOthers after kept e.2 + 1 ∧
      1 ≤ pointersOfOthers after kept e.2 := by
  intro after kept final
  have noted : Keeps (h.record [entry .info s!"Destroying {owned.length} instances"]) owned :=
    ⟨keeps.sound, keeps.distinct, keeps.handles⟩
  have entries := (keeps_cleanUp noted owned).perm (List.reverse_perm owned)
  obtain ⟨⟨gone, swept⟩, counts⟩ := swept_sweep entries
  have left : Keeps after kept := swept.keeps entries
  have backwards : Keeps after kept.reverse := left.perm (List.reverse_perm kept)
  let count := entry .warn
    s!"{kept.length} instances still referenced, probably a circular dependency"
  -- With entries left, the teardown ends with the forced phase.
  have forced : final = forceDown (after.record [count]) kept.reverse := by
    have some : owned ≠ [] := by
      rintro rfl
      exact remain (by simp [converged, cleanUp, sweep, sweepOnce])
    show tearDown h owned = _
    unfold tearDown
    rw [if_neg (by simpa using some)]
    simp only
    rw [if_neg]
    · rfl
    · rw [List.isEmpty_iff]
      exact remain
  have exact := forceDown_eq (h := after.record [count]) backwards.distinct backwards.handles
    fun e member => counts e (List.mem_reverse.1 member)
  have pointers : ∀ e ∈ kept, after.count e.2 = pointersOfOthers after kept e.2 + 1 :=
    fun e member => count_eq_pointersOfOthers left member
  refine ⟨?_, ⟨count, ?_⟩, ?_⟩
  · rw [forced, exact]
    rfl
  · rw [forced, exact]
    have reported : (kept.reverse.map fun e =>
        warning (after.record [count]) ((after.record [count]).count e.2 - 1) e) =
        kept.reverse.map fun e => warning after (pointersOfOthers after kept e.2) e := by
      apply List.map_congr_left
      intro e member
      have same : (after.record [count]).count e.2 = after.count e.2 := rfl
      rw [same, pointers e (List.mem_reverse.1 member), Nat.add_sub_cancel]
      rfl
    rw [reported]
    simp [Host.record, Host.enter]
  · intro e member
    have more := counts e member
    refine ⟨pointers e member, ?_⟩
    have exactly := pointers e member
    show 1 ≤ pointersOfOthers after kept e.2
    have more : 1 < after.count e.2 := more
    omega

theorem tearDown_forced_tangle : Keeps tangle tangled ∧ (converged tangle tangled).2 ≠ [] ∧
    (tearDown tangle tangled).heap.cells = (converged tangle tangled).1.heap.cells ∧
    1 ≤ pointersOfOthers (converged tangle tangled).1 (converged tangle tangled).2 4 := by
  have keeps : Keeps tangle tangled := ⟨by decide, by decide, by decide⟩
  have left : (converged tangle tangled).2 = [("e", 4), ("d", 3), ("c", 2)] := by decide +kernel
  have remain : (converged tangle tangled).2 ≠ [] := by simp [left]
  obtain ⟨heap, _, pointers⟩ := tearDown_forced keeps remain
  exact ⟨keeps, remain, by rw [heap], (pointers ("e", 4) (by simp [left])).2⟩

end Context

end Wiring
