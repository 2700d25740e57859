/-
# Wiring.Proofs.Heap.Handles -- what a handle is good for

An object with a handle is not destroyed, whatever references are given up
(`notMem_settle_of_handle`), and giving up references leaves its content alone.
Storing contents may change that, but no more of it than the stored contents do
(`map_find?_storeAll`).
-/
import Wiring.Proofs.Heap.Collapse

namespace Wiring.Heap

set_option autoImplicit false

variable {α : Type} [Holder α]

/-! ## Giving up references -/

/-- An object with a handle is not destroyed. -/
theorem notMem_settle_of_handle {h : Heap α} (pending : List ObjectId) {x : ObjectId}
    (handle : x ∈ h.handles) : x ∉ (h.settle pending).2.map (·.1) := by
  intro gone
  have supported : ∀ y ∈ { y | y ∈ h.handles }, y ∈ (h.settle pending).1.handles ∨
      ∃ z ∈ { y | y ∈ h.handles }, h.Refers z y := by
    intro y held
    left
    rw [handles_settle]
    exact held
  exact supported_of_collapses (collapses_settle h pending) supported x gone handle

theorem find?_settle_of_handle {h : Heap α} (pending : List ObjectId) {x : ObjectId}
    (handle : x ∈ h.handles) : (h.settle pending).1.find? x = h.find? x := by
  rw [find?_of_collapses (collapses_settle h pending),
    if_neg (notMem_settle_of_handle pending handle)]

theorem find?_release_of_handle {h : Heap α} {id x : ObjectId}
    (handle : x ∈ (h.release id).1.handles) : (h.release id).1.find? x = h.find? x := by
  rw [handles_release] at handle
  unfold release
  split
  · have kept : x ∈ (h.dropHandle id).handles := handle
    exact find?_settle_of_handle [id] kept
  · rfl

/-- What is left when pointers have been given up is as it was. -/
theorem find?_of_find?_collapses {h h' : Heap α} {gone : List ObjectId}
    (collapse : Collapses h gone h') {x : ObjectId} {a : α} (found : h'.find? x = some a) :
    h.find? x = some a := by
  rw [find?_of_collapses collapse] at found
  split at found
  · simp at found
  · exact found

/-- Nothing becomes live by giving up pointers. -/
theorem isLive_of_isLive_collapses {h h' : Heap α} {gone : List ObjectId}
    (collapse : Collapses h gone h') {x : ObjectId} (live : h'.isLive x) : h.isLive x := by
  obtain ⟨a, found⟩ := isLive_iff.1 live
  exact isLive_iff.2 ⟨a, find?_of_find?_collapses collapse found⟩

/-! ## Storing -/

/-- What a stored content has in common with the old one, it leaves as it was. -/
theorem map_find?_store {β : Type} (f : α → β) {h : Heap α} {id : ObjectId} {a : α}
    (same : ∀ old, h.find? id = some old → f a = f old) (x : ObjectId) :
    ((h.store id a).1.find? x).map f = (h.find? x).map f := by
  unfold store
  cases found : h.find? id with
  | none => rfl
  | some old =>
      simp only
      split
      · rw [find?_replace a found]
        by_cases here : x = id
        · rw [if_pos here, here, found, Option.map_some, Option.map_some, same old found]
        · rw [if_neg here]
      · rfl

theorem map_find?_storeAll {β : Type} (f : α → β) {h : Heap α} {changes : List (ObjectId × α)}
    (same : ∀ c ∈ changes, ∀ old, h.find? c.1 = some old → f c.2 = f old) (x : ObjectId) :
    ((h.storeAll changes).1.find? x).map f = (h.find? x).map f := by
  induction changes generalizing h with
  | nil => rfl
  | cons c rest ih =>
      have first := map_find?_store f (same c List.mem_cons_self)
      have later : ∀ d ∈ rest, ∀ old, (h.store c.1 c.2).1.find? d.1 = some old →
          f d.2 = f old := by
        intro d member old found
        have before := first d.1
        rw [found, Option.map_some, eq_comm, Option.map_eq_some_iff] at before
        obtain ⟨older, there, equal⟩ := before
        rw [same d (List.mem_cons_of_mem _ member) older there, equal]
      show (((h.store c.1 c.2).1.storeAll rest).1.find? x).map f = _
      rw [ih later, first]

/-- What is found after contents were stored was there before, or is one of them. -/
theorem find?_storeAll_cases {h : Heap α} {changes : List (ObjectId × α)} {x : ObjectId} {a : α}
    (found : (h.storeAll changes).1.find? x = some a) :
    h.find? x = some a ∨ (x, a) ∈ changes := by
  induction changes generalizing h with
  | nil => exact .inl found
  | cons c rest ih =>
      obtain ⟨id, b⟩ := c
      rcases ih found with stored | later
      · replace stored : (h.store id b).1.find? x = some a := stored
        unfold store at stored
        cases there : h.find? id with
        | none =>
            rw [there] at stored
            exact .inl stored
        | some old =>
            simp only [there] at stored
            split at stored
            · simp only [find?_replace b there] at stored
              split at stored
              · next same =>
                cases stored
                exact .inr (same ▸ List.mem_cons_self)
              · exact .inl stored
            · exact .inl stored
      · exact .inr (List.mem_cons_of_mem _ later)

/-! ## Identities in use -/

/-- No identity from `next` on is in use. -/
def Fresh (h : Heap α) : Prop := ∀ x, h.isLive x → x < h.next

omit [Holder α] in
theorem fresh_empty : (empty : Heap α).Fresh := by
  intro x live
  simp [empty, isLive, find?] at live

theorem Fresh.collapses {h h' : Heap α} {gone : List ObjectId} (fresh : h.Fresh)
    (collapse : Collapses h gone h') (next : h'.next = h.next) : h'.Fresh := by
  intro x live
  rw [next]
  exact fresh x (isLive_of_isLive_collapses collapse live)

theorem isLive_storeAll {h : Heap α} (changes : List (ObjectId × α)) (x : ObjectId) :
    (h.storeAll changes).1.isLive x = h.isLive x := by
  have same : ((h.storeAll changes).1.find? x).map (fun _ => ()) = (h.find? x).map fun _ => () :=
    map_find?_storeAll _ (by simp) x
  unfold isLive
  rw [← Option.isSome_map (f := fun _ : α => ()), same, Option.isSome_map]

theorem Fresh.storeAll {h : Heap α} (fresh : h.Fresh) (changes : List (ObjectId × α)) :
    (h.storeAll changes).1.Fresh := by
  intro x live
  rw [isLive_storeAll] at live
  rw [next_storeAll]
  exact fresh x live

omit [Holder α] in
theorem find?_allocate_of_isLive {h : Heap α} (a : α) {x : ObjectId} (live : h.isLive x) :
    (h.allocate a).2.find? x = h.find? x := by
  obtain ⟨b, found⟩ := isLive_iff.1 live
  unfold find? at found ⊢
  show (h.cells ++ [(h.next, a)]).lookup x = _
  rw [List.lookup_append, found]
  rfl

omit [Holder α] in
theorem isLive_allocate_self (h : Heap α) (a : α) : (h.allocate a).2.isLive h.next := by
  unfold isLive find?
  show ((h.cells ++ [(h.next, a)]).lookup h.next).isSome
  rw [List.lookup_append]
  simp

omit [Holder α] in
/-- What is found after an allocation was there before, or is the new object. -/
theorem find?_allocate_cases {h : Heap α} {a b : α} {x : ObjectId}
    (found : (h.allocate a).2.find? x = some b) :
    h.find? x = some b ∨ x = h.next ∧ b = a := by
  unfold find? at found ⊢
  rw [show (h.allocate a).2.cells = h.cells ++ [(h.next, a)] from rfl, List.lookup_append] at found
  cases there : h.cells.lookup x with
  | some old =>
      rw [there] at found
      exact .inl found
  | none =>
      rw [there, Option.none_or] at found
      by_cases new : x = h.next
      · subst new
        rw [List.lookup_cons_self] at found
        exact .inr ⟨rfl, (Option.some.inj found).symm⟩
      · rw [lookup_cons_of_ne _ _ new] at found
        cases found

omit [Holder α] in
theorem Fresh.allocate {h : Heap α} (fresh : h.Fresh) (a : α) : (h.allocate a).2.Fresh := by
  intro x live
  obtain ⟨b, found⟩ := isLive_iff.1 live
  rcases find?_allocate_cases found with there | ⟨rfl, _⟩
  · exact Nat.lt_succ_of_lt (fresh x (isLive_iff.2 ⟨b, there⟩))
  · exact Nat.lt_succ_self h.next

end Wiring.Heap
