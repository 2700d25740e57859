/-
# Wiring.Heap.Release -- giving up pointers

Giving up the last pointer to an object destroys it, and its own references are
given up next, before anything else that waits.  `settle` works off a list of
references to give up and returns the objects destroyed on the way, in order, each
with its last content.  It ends because every reference is given up once.
-/
import Wiring.Heap.Basic

namespace Wiring.Heap

set_option autoImplicit false

variable {α : Type}

variable [Holder α]

/-- How many references the objects of a list of cells hold. -/
def pointers : List (ObjectId × α) → Nat
  | [] => 0
  | c :: rest => (Holder.held c.2).length + pointers rest

theorem pointers_filter_le (p : ObjectId × α → Bool) (cells : List (ObjectId × α)) :
    pointers (cells.filter p) ≤ pointers cells := by
  induction cells with
  | nil => exact Nat.le_refl _
  | cons c rest ih =>
    rw [List.filter_cons]
    split
    · exact Nat.add_le_add_left ih _
    · exact Nat.le_trans ih (Nat.le_add_left _ _)

/-- An object takes its references with it. -/
theorem pointers_erase_le {h : Heap α} {id : ObjectId} {a : α} (found : h.find? id = some a) :
    (Holder.held a).length + pointers (h.erase id).cells ≤ pointers h.cells := by
  unfold find? at found
  unfold erase
  generalize h.cells = cells at found
  induction cells with
  | nil => simp at found
  | cons c rest ih =>
    obtain ⟨key, content⟩ := c
    rw [List.lookup_cons] at found
    split at found
    · next same =>
      have same : key = id := (beq_iff_eq.1 same).symm
      cases found
      rw [List.filter_cons_of_neg (by simp [same])]
      exact Nat.add_le_add_left (pointers_filter_le _ rest) _
    · next other =>
      have other : key ≠ id := fun same => by simp [same] at other
      have fewer := ih found
      rw [List.filter_cons_of_pos (by simp [other])]
      simp only [pointers] at fewer ⊢
      omega

/-- Gives up the references in order.  One that is not the last pointer to its object just goes;
the last one destroys the object, whose own references come next. -/
def settle (h : Heap α) (pending : List ObjectId) : Heap α × List (ObjectId × α) :=
  match pending with
  | [] => (h, [])
  | id :: rest =>
    match _found : h.find? id with
    | none => settle h rest
    | some a =>
      if h.count id + rest.count id = 0 then
        let (final, destroyed) := settle (h.erase id) (Holder.held a ++ rest)
        (final, (id, a) :: destroyed)
      else settle h rest
termination_by pointers h.cells + pending.length
decreasing_by
  · simp
  · have := pointers_erase_le _found
    simp only [List.length_append, List.length_cons]
    omega
  · simp

def release (h : Heap α) (id : ObjectId) : Heap α × List (ObjectId × α) :=
  if h.handles.contains id then (h.dropHandle id).settle [id] else (h, [])

end Wiring.Heap
