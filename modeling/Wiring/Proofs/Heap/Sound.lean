/-
# Wiring.Proofs.Heap.Sound -- no dangling pointer, no stray object

In a sound heap every pointer leads to a live object and every live object has a
pointer.  While references are being given up the second half holds only if those
that still wait are counted too: `Balanced h pending`.  A sound heap is balanced with
nothing pending.

Each heap operation keeps the balance: `store` and `storeAll` move the references
they take away to the pending ones (`balanced_storeAll`), and `settle` works these off
until the heap is sound (`sound_settle`).
-/
import Wiring.Proofs.Heap.Cells

namespace Wiring.Heap

set_option autoImplicit false

variable {α : Type} [Holder α]

/-! ## Balance -/

/-- Pointers lead to live objects, and every live object is pointed to by a handle, by a live
object or by a pending reference. -/
structure Balanced (h : Heap α) (pending : List ObjectId) : Prop where
  distinct : h.Distinct
  fresh : ∀ id, h.isLive id → id < h.next
  handles : ∀ id ∈ h.handles, h.isLive id
  held : ∀ {id a}, h.find? id = some a → ∀ x ∈ Holder.held a, h.isLive x
  waiting : ∀ id ∈ pending, h.isLive id
  pointed : ∀ id, h.isLive id → 0 < h.count id + pending.count id

/-- A heap without dangling pointers and without stray objects. -/
abbrev Sound (h : Heap α) : Prop := h.Balanced []

theorem Sound.count_pos {h : Heap α} (sound : h.Sound) {id : ObjectId} (live : h.isLive id) :
    0 < h.count id := by
  simpa using sound.pointed id live

/-- Balance can be told from the cells alone. -/
theorem balanced_iff {h : Heap α} {pending : List ObjectId} :
    h.Balanced pending ↔ (h.cells.map (·.1)).Nodup ∧ (∀ c ∈ h.cells, c.1 < h.next) ∧
      (∀ id ∈ h.handles, h.isLive id) ∧
      (∀ c ∈ h.cells, ∀ x ∈ Holder.held c.2, h.isLive x) ∧
      (∀ id ∈ pending, h.isLive id) ∧ ∀ c ∈ h.cells, 0 < h.count c.1 + pending.count c.1 := by
  constructor
  · intro balanced
    have there : ∀ c ∈ h.cells, h.find? c.1 = some c.2 :=
      fun c cell => find?_of_mem_cells balanced.distinct cell
    have live : ∀ c ∈ h.cells, h.isLive c.1 :=
      fun c cell => isLive_iff.2 ⟨c.2, there c cell⟩
    exact ⟨balanced.distinct, fun c cell => balanced.fresh c.1 (live c cell), balanced.handles,
      fun c cell => balanced.held (there c cell), balanced.waiting,
      fun c cell => balanced.pointed c.1 (live c cell)⟩
  · intro ⟨distinct, fresh, handles, held, waiting, pointed⟩
    refine ⟨distinct, ?_, handles, ?_, waiting, ?_⟩
    · intro id live
      obtain ⟨a, found⟩ := isLive_iff.1 live
      exact fresh (id, a) (mem_cells_of_find? found)
    · intro id a found
      exact held (id, a) (mem_cells_of_find? found)
    · intro id live
      obtain ⟨a, found⟩ := isLive_iff.1 live
      exact pointed (id, a) (mem_cells_of_find? found)

instance (h : Heap α) (pending : List ObjectId) : Decidable (h.Balanced pending) :=
  decidable_of_iff _ balanced_iff.symm

theorem sound_empty : (empty : Heap α).Sound where
  distinct := List.nodup_nil
  fresh := by simp [isLive, find?, empty]
  handles := by simp [empty]
  held := by simp [find?, empty]
  waiting := by simp
  pointed := by simp [isLive, find?, empty]

/-! ## Giving up references -/

omit [Holder α] in
theorem isLive_erase {h : Heap α} {id x : ObjectId} :
    (h.erase id).isLive x ↔ x ≠ id ∧ h.isLive x := by
  unfold isLive
  rw [find?_erase]
  by_cases same : x = id <;> simp [same]

/-- One pending reference fewer, as long as its object has another pointer. -/
theorem Balanced.skip {h : Heap α} {id : ObjectId} {rest : List ObjectId}
    (balanced : h.Balanced (id :: rest)) (other : h.count id + rest.count id ≠ 0) :
    h.Balanced rest where
  distinct := balanced.distinct
  fresh := balanced.fresh
  handles := balanced.handles
  held := balanced.held
  waiting := fun x member => balanced.waiting x (List.mem_cons_of_mem _ member)
  pointed := by
    intro x live
    by_cases same : x = id
    · subst same
      omega
    · have := balanced.pointed x live
      rwa [List.count_cons_of_ne (Ne.symm same)] at this

/-- An object without pointers goes, and its own references wait first. -/
theorem Balanced.destroy {h : Heap α} {id : ObjectId} {rest : List ObjectId} {a : α}
    (balanced : h.Balanced (id :: rest)) (found : h.find? id = some a)
    (last : h.count id + rest.count id = 0) : (h.erase id).Balanced (Holder.held a ++ rest) := by
  -- Without pointers there is neither a handle, nor a reference from an object, nor one that waits.
  have noHandle : id ∉ h.handles := by
    intro member
    have := List.count_pos_iff.2 member
    unfold count at last
    omega
  have unheld : ∀ y b, h.find? y = some b → id ∉ Holder.held b := by
    intro y b there member
    have := inner_pos there member
    unfold count at last
    omega
  have unwaited : id ∉ rest := by
    intro member
    have := List.count_pos_iff.2 member
    omega
  refine ⟨distinct_erase balanced.distinct id, ?_, ?_, ?_, ?_, ?_⟩
  · intro x live
    exact balanced.fresh x (isLive_erase.1 live).2
  · intro x member
    exact isLive_erase.2 ⟨fun same => noHandle (same ▸ member), balanced.handles x member⟩
  · intro y b there x member
    rw [find?_erase] at there
    split at there
    · simp at there
    · exact isLive_erase.2 ⟨fun same => unheld y b there (same ▸ member),
        balanced.held there x member⟩
  · intro x member
    rcases List.mem_append.1 member with member | member
    · exact isLive_erase.2 ⟨fun same => unheld id a found (same ▸ member),
        balanced.held found x member⟩
    · exact isLive_erase.2 ⟨fun same => unwaited (same ▸ member),
        balanced.waiting x (List.mem_cons_of_mem _ member)⟩
  · intro x live
    obtain ⟨other, live⟩ := isLive_erase.1 live
    have before := balanced.pointed x live
    -- The references of the object that goes are no longer inner ones, but they wait instead.
    have moved := inner_erase balanced.distinct found x
    rw [List.count_cons_of_ne (Ne.symm other)] at before
    unfold count at before ⊢
    rw [List.count_append]
    show 0 < h.handles.count x + (h.erase id).inner x + _
    omega

/-- Giving up all pending references makes a balanced heap sound. -/
theorem sound_settle {h : Heap α} {pending : List ObjectId} (balanced : h.Balanced pending) :
    (h.settle pending).1.Sound := by
  fun_induction settle h pending with
  | case1 h => exact balanced
  | case2 h id rest missing ih =>
      have live := balanced.waiting id List.mem_cons_self
      simp [isLive, missing] at live
  | case3 h id rest a found last final destroyed settled ih =>
      rw [settled] at ih
      exact ih (balanced.destroy found last)
  | case4 h id rest a found other ih => exact ih (balanced.skip other)

/-- Working off references changes nothing but the cells. -/
theorem settle_eq (h : Heap α) (pending : List ObjectId) :
    (h.settle pending).1 = { h with cells := (h.settle pending).1.cells } := by
  fun_induction settle h pending with
  | case1 h => rfl
  | case2 h id rest missing ih => exact ih
  | case3 h id rest a found last final destroyed settled ih =>
      rw [settled] at ih
      exact ih
  | case4 h id rest a found other ih => exact ih

@[simp] theorem handles_settle (h : Heap α) (pending : List ObjectId) :
    (h.settle pending).1.handles = h.handles := by
  rw [settle_eq]

@[simp] theorem next_settle (h : Heap α) (pending : List ObjectId) :
    (h.settle pending).1.next = h.next := by
  rw [settle_eq]

/-! ## Handles -/

/-- A handle that is given up waits as a reference. -/
theorem Balanced.dropHandle {h : Heap α} (sound : h.Sound) {id : ObjectId}
    (handle : id ∈ h.handles) : (h.dropHandle id).Balanced [id] where
  distinct := sound.distinct
  fresh := sound.fresh
  handles := fun x member => sound.handles x (List.mem_of_mem_erase member)
  held := sound.held
  waiting := by
    intro x member
    rw [List.mem_singleton.1 member]
    exact sound.handles id handle
  pointed := by
    intro x live
    have before := sound.count_pos live
    unfold count at before ⊢
    show 0 < (h.handles.erase id).count x + h.inner x + _
    by_cases same : x = id
    · subst same
      simp
    · rw [List.count_erase_of_ne same]
      omega

theorem sound_release {h : Heap α} (sound : h.Sound) (id : ObjectId) : (h.release id).1.Sound := by
  unfold release
  split
  · next handle =>
    exact sound_settle (.dropHandle sound (List.contains_iff_mem.1 handle))
  · exact sound

theorem handles_release (h : Heap α) (id : ObjectId) :
    (h.release id).1.handles = h.handles.erase id := by
  unfold release
  split
  · rw [handles_settle]
    rfl
  · next absent =>
    have absent : id ∉ h.handles := fun member => absent (List.contains_iff_mem.2 member)
    exact (List.erase_of_not_mem absent).symm

theorem next_release (h : Heap α) (id : ObjectId) : (h.release id).1.next = h.next := by
  unfold release
  split
  · rw [next_settle]
    rfl
  · rfl

theorem sound_acquire {h : Heap α} (sound : h.Sound) (id : ObjectId) : (h.acquire id).Sound := by
  unfold acquire
  split
  · next live =>
    refine ⟨sound.distinct, sound.fresh, ?_, sound.held, sound.waiting, ?_⟩
    · intro x member
      rcases List.mem_cons.1 member with rfl | member
      · exact live
      · exact sound.handles x member
    · intro x there
      have before := sound.count_pos there
      unfold count at before ⊢
      show 0 < (id :: h.handles).count x + h.inner x + _
      have := List.count_le_count_cons (a := x) (b := id) (l := h.handles)
      omega
  · exact sound

theorem find?_allocate {h : Heap α} (sound : h.Sound) (a : α) (x : ObjectId) :
    (h.allocate a).2.find? x = if x = h.next then some a else h.find? x := by
  have unused : h.find? h.next = none := by
    cases there : h.find? h.next with
    | none => rfl
    | some b => exact absurd (sound.fresh h.next (isLive_iff.2 ⟨b, there⟩)) (Nat.lt_irrefl _)
  unfold find? at unused ⊢
  show (h.cells ++ [(h.next, a)]).lookup x = _
  rw [List.lookup_append]
  by_cases same : x = h.next
  · simp [same, unused]
  · rw [lookup_cons_of_ne _ _ same, if_neg same]
    simp

theorem isLive_allocate {h : Heap α} (sound : h.Sound) (a : α) {x : ObjectId} :
    (h.allocate a).2.isLive x ↔ x = h.next ∨ h.isLive x := by
  unfold isLive
  rw [find?_allocate sound]
  by_cases same : x = h.next <;> simp [same]

theorem distinct_allocate {h : Heap α} (sound : h.Sound) (a : α) : (h.allocate a).2.Distinct := by
  unfold Distinct
  show ((h.cells ++ [(h.next, a)]).map (·.1)).Nodup
  rw [List.map_append, List.nodup_append]
  refine ⟨sound.distinct, by simp, ?_⟩
  intro x member y new same
  obtain ⟨c, cell, rfl⟩ := List.mem_map.1 member
  have there := find?_of_mem_cells sound.distinct cell
  have older := sound.fresh c.1 (isLive_iff.2 ⟨c.2, there⟩)
  rw [same, List.mem_singleton.1 new] at older
  exact Nat.lt_irrefl _ older

/-- A new object that holds live objects only keeps the heap sound. -/
theorem sound_allocate {h : Heap α} (sound : h.Sound) (a : α)
    (live : ∀ x ∈ Holder.held a, h.isLive x) : (h.allocate a).2.Sound := by
  have kept : ∀ x, h.isLive x → (h.allocate a).2.isLive x :=
    fun x there => (isLive_allocate sound a).2 (.inr there)
  refine ⟨distinct_allocate sound a, ?_, ?_, ?_, by simp, ?_⟩
  · intro x there
    show x < h.next + 1
    rcases (isLive_allocate sound a).1 there with rfl | there
    · exact Nat.lt_succ_self _
    · exact Nat.lt_succ_of_lt (sound.fresh x there)
  · intro x member
    rcases List.mem_cons.1 member with rfl | member
    · exact (isLive_allocate sound a).2 (.inl rfl)
    · exact kept x (sound.handles x member)
  · intro y b there x member
    rw [find?_allocate sound] at there
    split at there
    · cases there
      exact kept x (live x member)
    · exact kept x (sound.held there x member)
  · intro x there
    unfold count
    show 0 < (h.next :: h.handles).count x + tally (h.cells ++ [(h.next, a)]) x + _
    rw [tally_append, List.count_cons]
    rcases (isLive_allocate sound a).1 there with rfl | there
    · rw [beq_self_eq_true, if_pos rfl]
      omega
    · have before := sound.count_pos there
      unfold count at before
      rw [inner_eq_tally] at before
      omega

/-! ## Storing -/

theorem count_lostFrom (old new : List ObjectId) (x : ObjectId) :
    (lostFrom old new).count x = old.count x - new.count x := by
  induction old generalizing new with
  | nil => simp [lostFrom]
  | cons id old ih =>
      unfold lostFrom
      split
      · next there =>
        have there := List.contains_iff_mem.1 there
        rw [ih, List.count_erase]
        by_cases same : id = x
        · subst same
          have := List.count_pos_iff.2 there
          simp
          omega
        · simp [same, List.count_cons_of_ne same]
      · next absent =>
        have absent : id ∉ new := fun member => absent (List.contains_iff_mem.2 member)
        by_cases same : id = x
        · subst same
          simp [ih, List.count_eq_zero.2 absent]
        · rw [List.count_cons_of_ne same, List.count_cons_of_ne same, ih]

omit [Holder α] in
theorem isLive_replace {h : Heap α} {id : ObjectId} {old : α} (a : α)
    (found : h.find? id = some old) (x : ObjectId) :
    (h.replace id a).isLive x = h.isLive x := by
  unfold isLive
  rw [find?_replace a found]
  by_cases same : x = id
  · rw [if_pos same, same, found]
    rfl
  · rw [if_neg same]

/-- The references a changed object gives up are the only ones that have to wait. -/
theorem balanced_store {h : Heap α} {pending : List ObjectId} (balanced : h.Balanced pending)
    (id : ObjectId) (a : α) : (h.store id a).1.Balanced (pending ++ (h.store id a).2) := by
  unfold store
  cases found : h.find? id with
  | none => simpa using balanced
  | some old =>
      simp only
      split
      · next allLive =>
        have allLive : ∀ x ∈ Holder.held a, h.isLive x := List.all_eq_true.1 allLive
        have lost : ∀ x ∈ lostFrom (Holder.held old) (Holder.held a), x ∈ Holder.held old := by
          intro x member
          have := List.count_pos_iff.2 member
          rw [count_lostFrom] at this
          exact List.count_pos_iff.1 (by omega)
        have same := isLive_replace a found
        refine ⟨?_, ?_, ?_, ?_, ?_, ?_⟩
        · unfold Distinct
          rw [keys_replace]
          exact balanced.distinct
        · intro x there
          exact balanced.fresh x (by rwa [same] at there)
        · intro x member
          rw [same]
          exact balanced.handles x member
        · intro y b there x member
          rw [same]
          rw [find?_replace a found] at there
          split at there
          · cases there
            exact allLive x member
          · exact balanced.held there x member
        · intro x member
          rw [same]
          rcases List.mem_append.1 member with member | member
          · exact balanced.waiting x member
          · exact balanced.held found x (lost x member)
        · intro x there
          rw [same] at there
          have before := balanced.pointed x there
          -- What the new content lacks of the old one is what waits, so no pointer is forgotten.
          have exchanged := inner_replace balanced.distinct a found x
          unfold count at before ⊢
          rw [List.count_append, count_lostFrom]
          show 0 < h.handles.count x + (h.replace id a).inner x + _
          omega
      · simpa using balanced

theorem balanced_storeAll {h : Heap α} {pending : List ObjectId} (balanced : h.Balanced pending)
    (changes : List (ObjectId × α)) :
    (h.storeAll changes).1.Balanced (pending ++ (h.storeAll changes).2) := by
  induction changes generalizing h pending with
  | nil => simpa [storeAll] using balanced
  | cons c rest ih =>
      obtain ⟨id, a⟩ := c
      have behind := ih (balanced_store balanced id a)
      simpa [storeAll, List.append_assoc] using behind

/-- Storing changes nothing but the cells. -/
theorem storeAll_eq (h : Heap α) (changes : List (ObjectId × α)) :
    (h.storeAll changes).1 = { h with cells := (h.storeAll changes).1.cells } := by
  induction changes generalizing h with
  | nil => rfl
  | cons c rest ih =>
      have first : (h.store c.1 c.2).1 = { h with cells := (h.store c.1 c.2).1.cells } := by
        unfold store
        split <;> [rfl; split <;> rfl]
      have next := congrArg Heap.next first
      have handles := congrArg Heap.handles first
      show ((h.store c.1 c.2).1.storeAll rest).1 =
        { h with cells := ((h.store c.1 c.2).1.storeAll rest).1.cells }
      rw [ih, next, handles]

@[simp] theorem handles_storeAll (h : Heap α) (changes : List (ObjectId × α)) :
    (h.storeAll changes).1.handles = h.handles := by
  rw [storeAll_eq]

@[simp] theorem next_storeAll (h : Heap α) (changes : List (ObjectId × α)) :
    (h.storeAll changes).1.next = h.next := by
  rw [storeAll_eq]

/-! ## Storing what holds the same -/

/-- What goes on being held is not lost. -/
theorem lostFrom_of_perm {old new : List ObjectId} (same : old.Perm new) :
    lostFrom old new = [] := by
  refine List.eq_nil_iff_forall_not_mem.2 fun x => List.count_eq_zero.1 ?_
  rw [count_lostFrom, same.count_eq, Nat.sub_self]

/-- New contents that hold what the contents in place hold. -/
def Steady (h : Heap α) (changes : List (ObjectId × α)) : Prop :=
  ∀ c ∈ changes, ∀ old, h.find? c.1 = some old → (Holder.held c.2).Perm (Holder.held old)

theorem store_of_steady {h : Heap α} (distinct : h.Distinct) {id : ObjectId} {a : α}
    {rest : List (ObjectId × α)} (steady : h.Steady ((id, a) :: rest)) :
    (h.store id a).1.Distinct ∧ (h.store id a).1.Steady rest ∧ (h.store id a).2 = [] ∧
      ∀ x, (h.store id a).1.count x = h.count x := by
  have later : h.Steady rest := fun c member => steady c (List.mem_cons_of_mem _ member)
  unfold store
  cases found : h.find? id with
  | none => exact ⟨distinct, later, rfl, fun _ => rfl⟩
  | some old =>
      have own : (Holder.held a).Perm (Holder.held old) := steady _ List.mem_cons_self old found
      simp only
      split
      · refine ⟨?_, ?_, lostFrom_of_perm own.symm, ?_⟩
        · unfold Distinct
          rw [keys_replace]
          exact distinct
        · intro c member old' there
          rw [find?_replace a found] at there
          split at there
          · next same =>
            cases there
            exact (later c member old (same ▸ found)).trans own.symm
          · exact later c member old' there
        · intro x
          have exchanged := inner_replace distinct a found x
          rw [own.count_eq] at exchanged
          exact congrArg (h.handles.count x + ·) (Nat.add_right_cancel exchanged)
      · exact ⟨distinct, later, rfl, fun _ => rfl⟩

/-- Contents that hold the same change no count. -/
theorem storeAll_of_steady {h : Heap α} (distinct : h.Distinct) {changes : List (ObjectId × α)}
    (steady : h.Steady changes) :
    (h.storeAll changes).2 = [] ∧ ∀ x, (h.storeAll changes).1.count x = h.count x := by
  induction changes generalizing h with
  | nil => exact ⟨rfl, fun _ => rfl⟩
  | cons c rest ih =>
      obtain ⟨distinct', steady', lost, counts⟩ := store_of_steady distinct steady
      obtain ⟨lost', counts'⟩ := ih distinct' steady'
      refine ⟨?_, fun x => (counts' x).trans (counts x)⟩
      show (h.store c.1 c.2).2 ++ ((h.store c.1 c.2).1.storeAll rest).2 = []
      rw [lost, lost']
      rfl

end Wiring.Heap
