/-
# Wiring.Proofs.Heap.Cells -- what changing one cell does to look-ups and counts

A heap finds an object by its first cell and counts references over all cells.  The
two views agree as long as no identity has two cells (`Distinct`).  Erasing or
replacing a cell then changes what is found under its own identity only, and moves
every reference count by exactly what that one cell held.
-/
import Wiring.Heap.Release
import Wiring.Proofs.Keyed

namespace Wiring.Heap

set_option autoImplicit false

variable {α : Type}

/-! ## Looking up -/

/-- No identity has two cells. -/
def Distinct (h : Heap α) : Prop := (h.cells.map (·.1)).Nodup

theorem mem_cells_of_find? {h : Heap α} {id : ObjectId} {a : α} (found : h.find? id = some a) :
    (id, a) ∈ h.cells := Keyed.mem_of_lookup found

theorem find?_of_mem_cells {h : Heap α} (distinct : h.Distinct) {id : ObjectId} {a : α}
    (member : (id, a) ∈ h.cells) : h.find? id = some a := Keyed.lookup_of_mem distinct member

theorem isLive_iff {h : Heap α} {id : ObjectId} : h.isLive id ↔ ∃ a, h.find? id = some a :=
  Option.isSome_iff_exists

/-- Looking up another key passes over an entry. -/
theorem lookup_cons_of_ne {key x : ObjectId} (content : α) (rest : List (ObjectId × α))
    (other : x ≠ key) : ((key, content) :: rest).lookup x = rest.lookup x := by
  have differs : (x == key) = false := by simpa using other
  rw [List.lookup_cons, differs]

theorem find?_erase (h : Heap α) (id x : ObjectId) :
    (h.erase id).find? x = if x = id then none else h.find? x := by
  unfold find? erase
  generalize h.cells = l
  induction l with
  | nil => simp
  | cons c rest ih =>
      obtain ⟨key, content⟩ := c
      by_cases erased : key = id
      · subst erased
        by_cases same : x = key
        · simpa [same] using ih
        · rw [if_neg same, lookup_cons_of_ne content rest same]
          simpa [same] using ih
      · by_cases same : x = key
        · simp [erased, same]
        · rw [lookup_cons_of_ne content rest same]
          simpa [List.filter_cons, erased, lookup_cons_of_ne, same] using ih

theorem find?_replace {h : Heap α} {id : ObjectId} {old : α} (a : α)
    (found : h.find? id = some old) (x : ObjectId) :
    (h.replace id a).find? x = if x = id then some a else h.find? x := by
  suffices replaced : (h.replace id a).find? x =
      if x = id then (h.find? id).map fun _ => a else h.find? x by
    rw [replaced, found]
    rfl
  unfold find? replace
  generalize h.cells = l
  induction l with
  | nil => simp
  | cons c rest ih =>
      obtain ⟨key, content⟩ := c
      simp only [List.map_cons, beq_iff_eq] at ih ⊢
      by_cases hit : key = id
      · subst hit
        by_cases same : x = key
        · simp [same]
        · rw [if_pos rfl, lookup_cons_of_ne _ _ same, ih, lookup_cons_of_ne _ _ same]
          simp [same]
      · rw [if_neg hit]
        by_cases same : x = key
        · simp [same, hit]
        · rw [lookup_cons_of_ne _ _ same, ih, lookup_cons_of_ne _ _ same,
            lookup_cons_of_ne _ _ (Ne.symm hit)]

/-! ## Counting -/

section Counting

variable [Holder α]

/-- The references to an object from a list of cells. -/
def tally (cells : List (ObjectId × α)) (id : ObjectId) : Nat :=
  (cells.map fun c => (Holder.held c.2).count id).foldr (· + ·) 0

theorem inner_eq_tally (h : Heap α) (id : ObjectId) : h.inner id = tally h.cells id := rfl

@[simp] theorem tally_nil (id : ObjectId) : tally ([] : List (ObjectId × α)) id = 0 := rfl

@[simp] theorem tally_cons (c : ObjectId × α) (rest : List (ObjectId × α)) (id : ObjectId) :
    tally (c :: rest) id = (Holder.held c.2).count id + tally rest id := rfl

@[simp] theorem tally_append (first second : List (ObjectId × α)) (id : ObjectId) :
    tally (first ++ second) id = tally first id + tally second id := by
  induction first with
  | nil => simp
  | cons c rest ih =>
      rw [List.cons_append, tally_cons, tally_cons, ih]
      omega

theorem tally_pos_iff {cells : List (ObjectId × α)} {id : ObjectId} :
    0 < tally cells id ↔ ∃ c ∈ cells, id ∈ Holder.held c.2 := by
  induction cells with
  | nil => simp
  | cons c rest ih =>
      rw [tally_cons, Nat.add_pos_iff_pos_or_pos, ih, List.count_pos_iff]
      simp

/-- An object with a reference to `x` makes the count of `x` positive. -/
theorem inner_pos {h : Heap α} {y x : ObjectId} {a : α} (found : h.find? y = some a)
    (held : x ∈ Holder.held a) : 0 < h.inner x :=
  tally_pos_iff.2 ⟨(y, a), mem_cells_of_find? found, held⟩

/-- A positive count of references comes from some object. -/
theorem exists_of_inner_pos {h : Heap α} (distinct : h.Distinct) {x : ObjectId}
    (positive : 0 < h.inner x) : ∃ y a, h.find? y = some a ∧ x ∈ Holder.held a := by
  obtain ⟨c, cell, held⟩ := tally_pos_iff.1 positive
  exact ⟨c.1, c.2, find?_of_mem_cells distinct cell, held⟩

/-- Erasing an object takes its own references away. -/
theorem inner_erase {h : Heap α} (distinct : h.Distinct) {id : ObjectId} {a : α}
    (found : h.find? id = some a) (x : ObjectId) :
    (h.erase id).inner x + (Holder.held a).count x = h.inner x := by
  unfold Distinct at distinct
  unfold find? at found
  simp only [inner_eq_tally, erase]
  generalize h.cells = l at distinct found
  induction l with
  | nil => simp at found
  | cons c rest ih =>
      obtain ⟨key, content⟩ := c
      simp only [List.map_cons, List.nodup_cons] at distinct
      by_cases hit : key = id
      · subst hit
        have same : content = a := by simpa using found
        subst same
        have kept : rest.filter (·.1 != key) = rest := by
          apply List.filter_eq_self.2
          intro c member
          have other : c.1 ≠ key := fun same => distinct.1 (List.mem_map.2 ⟨c, member, same⟩)
          simpa using other
        simp [kept, Nat.add_comm]
      · rw [lookup_cons_of_ne _ _ (Ne.symm hit)] at found
        have := ih distinct.2 found
        simp only [List.filter_cons, bne_iff_ne, ne_eq, hit, not_false_eq_true, if_true, tally_cons]
        omega

/-- Replacing an object's content exchanges its references. -/
theorem inner_replace {h : Heap α} (distinct : h.Distinct) {id : ObjectId} {old : α} (a : α)
    (found : h.find? id = some old) (x : ObjectId) :
    (h.replace id a).inner x + (Holder.held old).count x =
      h.inner x + (Holder.held a).count x := by
  unfold Distinct at distinct
  unfold find? at found
  simp only [inner_eq_tally, replace]
  generalize h.cells = l at distinct found
  induction l with
  | nil => simp at found
  | cons c rest ih =>
      obtain ⟨key, content⟩ := c
      simp only [List.map_cons, List.nodup_cons] at distinct
      by_cases hit : key = id
      · subst hit
        have same : content = old := by simpa using found
        subst same
        have kept : (rest.map fun c => if c.1 == key then (key, a) else c) = rest := by
          refine (List.map_congr_left fun c member => ?_).trans (List.map_id rest)
          have other : c.1 ≠ key := fun same => distinct.1 (List.mem_map.2 ⟨c, member, same⟩)
          simp [other]
        simp only [List.map_cons, beq_self_eq_true, if_true, kept, tally_cons]
        omega
      · rw [lookup_cons_of_ne _ _ (Ne.symm hit)] at found
        have := ih distinct.2 found
        simp only [List.map_cons, beq_iff_eq, hit, if_false, tally_cons] at this ⊢
        omega

end Counting

/-! ## Identities -/

theorem distinct_erase {h : Heap α} (distinct : h.Distinct) (id : ObjectId) :
    (h.erase id).Distinct :=
  List.Nodup.sublist (List.Sublist.map _ List.filter_sublist) distinct

theorem keys_replace (h : Heap α) (id : ObjectId) (a : α) :
    (h.replace id a).cells.map (·.1) = h.cells.map (·.1) := by
  unfold replace
  rw [List.map_map]
  apply List.map_congr_left
  intro c member
  by_cases hit : c.1 = id <;> simp [hit]

end Wiring.Heap
