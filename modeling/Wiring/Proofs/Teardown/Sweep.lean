/-
# Wiring.Proofs.Teardown.Sweep -- the sweep keeps what is anchored, and nothing else

A pass of the sweep gives up the owner's handles to objects that have no other
pointer, and what goes with them may set further objects free.  `Swept` collects what
passes do, so that it can be chained from pass to pass: a collapse of the heap, a
shorter list of entries, and one handle fewer for each entry that is missing from it.

The sweep ends when a pass gives up nothing.  Then each entry left has a pointer
besides the owner's handle, which is all that `Heap.anchored_of_referred` asks for:
what is left is anchored.  Anchored objects in turn hold each other up through any
collapse, so none of them is ever let go.  `sweep_exact` states both for the heap
that the cleanup hooks leave behind.
-/
import Wiring.Context.Teardown
import Wiring.Proofs.Heap.Anchored
import Wiring.Proofs.Host.Journal
import Wiring.Samples.State
import Mathlib.Data.List.Perm.Basic

namespace Wiring.Context

set_option autoImplicit false

open Wiring.Component
open Wiring.Heap (Collapses Anchored)

variable {σ : Type} [Lifecycle σ]

/-! ## The owner's handles -/

/-- The owner of distinct objects of a sound heap holds a handle to each of them. -/
structure Keeps (h : Host σ) (owned : Owned) : Prop where
  sound : h.heap.Sound
  distinct : (owned.map (·.2)).Nodup
  handles : ∀ e ∈ owned, e.2 ∈ h.heap.handles

/-- The handles that are not the owner's. -/
def outside (h : Host σ) (owned : Owned) : List ObjectId :=
  h.heap.handles.diff (owned.map (·.2))

theorem Keeps.sublist {h : Host σ} {owned part : Owned} (keeps : Keeps h owned)
    (sub : part.Sublist owned) : Keeps h part :=
  ⟨keeps.sound, keeps.distinct.sublist (sub.map _),
    fun e member => keeps.handles e (sub.subset member)⟩

theorem Keeps.perm {h : Host σ} {owned other : Owned} (keeps : Keeps h owned)
    (same : other.Perm owned) : Keeps h other :=
  ⟨keeps.sound, (same.map _).nodup_iff.2 keeps.distinct,
    fun e member => keeps.handles e (same.subset member)⟩

omit [Lifecycle σ] in
theorem mem_outside_iff {h : Host σ} {owned : Owned} {x : ObjectId} :
    x ∈ outside h owned ↔ (owned.map (·.2)).count x < h.heap.handles.count x := by
  unfold outside
  rw [← List.count_pos_iff, List.count_diff]
  omega

/-- Cleanup hooks may change references between objects, and leave the owner's handles. -/
theorem keeps_cleanUp {h : Host σ} {owned : Owned} (keeps : Keeps h owned) (part : Owned) :
    Keeps (cleanUp h part) owned := by
  induction part generalizing h with
  | nil => exact keeps
  | cons e rest ih =>
      obtain ⟨name, id⟩ := e
      have called : Keeps (h.call id cleanupHook).2 owned := by
        obtain ⟨sound, handles⟩ := Host.sound_call keeps.sound id cleanupHook
        exact ⟨sound, keeps.distinct, fun e member => handles ▸ keeps.handles e member⟩
      unfold cleanUp
      split
      · split
        · next after result =>
          rw [result] at called
          exact ih called
        · next e after result =>
          rw [result] at called
          exact ih ⟨called.sound, called.distinct, called.handles⟩
      · exact ih keeps

/-! ## One pass and several -/

/-- What passes over `entries` do that leave `kept`: they destroy `gone`, and give up exactly the
handles of the other entries, each the last pointer to its object. -/
structure Swept (h : Host σ) (entries : Owned) (h' : Host σ) (kept : Owned)
    (gone : List ObjectId) : Prop where
  collapse : Collapses h.heap gone h'.heap
  journal : ∃ es, h'.journal = h.journal ++ es ∧ destroyedIn es = gone
  sound : h'.heap.Sound
  sublist : kept.Sublist entries
  handles : ∀ x, h'.heap.handles.count x + (entries.map (·.2)).count x =
    h.heap.handles.count x + (kept.map (·.2)).count x
  released : ∀ e ∈ entries, e ∉ kept → e.2 ∈ gone

namespace Swept

variable {h h₁ h₂ : Host σ} {entries kept rest : Owned} {gone more : List ObjectId}

theorem trans (first : Swept h entries h₁ kept gone) (second : Swept h₁ kept h₂ rest more) :
    Swept h entries h₂ rest (gone ++ more) := by
  obtain ⟨es, journal, goneEq⟩ := first.journal
  obtain ⟨fs, journal', moreEq⟩ := second.journal
  refine ⟨first.collapse.trans second.collapse, ⟨es ++ fs, ?_, ?_⟩, second.sound,
    second.sublist.trans first.sublist, ?_, ?_⟩
  · rw [journal', journal, List.append_assoc]
  · rw [destroyedIn_append, goneEq, moreEq]
  · intro x
    have := first.handles x
    have := second.handles x
    omega
  · intro e member absent
    by_cases between : e ∈ kept
    · exact List.mem_append_right _ (second.released e between absent)
    · exact List.mem_append_left _ (first.released e member between)

/-- The owner still holds a handle to each entry that is left. -/
theorem keeps (swept : Swept h entries h₁ kept gone) (before : Keeps h entries) :
    Keeps h₁ kept := by
  refine ⟨swept.sound, before.distinct.sublist (swept.sublist.map _), ?_⟩
  intro e member
  have there := List.count_pos_iff.2 (before.handles e (swept.sublist.subset member))
  have left := List.count_pos_iff.2 (List.mem_map.2 ⟨e, member, rfl⟩ : e.2 ∈ kept.map (·.2))
  have once := List.nodup_iff_count_le_one.1 before.distinct e.2
  have := swept.handles e.2
  exact List.count_pos_iff.1 (by omega)

/-- The passes leave the handles of others alone. -/
theorem mem_outside_iff (swept : Swept h entries h₁ kept gone) (x : ObjectId) :
    x ∈ outside h₁ kept ↔ x ∈ outside h entries := by
  rw [Context.mem_outside_iff, Context.mem_outside_iff]
  have := swept.handles x
  omega

end Swept

/-- Giving up the owner's handle to an object without other pointers. -/
theorem swept_release {h : Host σ} {name : String} {id : ObjectId} {older : Owned}
    (keeps : Keeps h ((name, id) :: older)) (only : ¬ 1 < h.count id) :
    ∃ gone, Swept h ((name, id) :: older) (h.release id) older gone := by
  have handle : id ∈ h.heap.handles := keeps.handles _ List.mem_cons_self
  have positive := keeps.sound.count_pos (keeps.sound.handles id handle)
  have last : h.heap.count id = 1 := by
    unfold Host.count at only
    omega
  refine ⟨(h.heap.release id).2.map (·.1), Heap.collapses_release h.heap id,
    ⟨_, rfl, Host.destroyedIn_farewells _⟩, Heap.sound_release keeps.sound id,
    List.sublist_cons_self _ _, ?_, ?_⟩
  · intro x
    show (h.heap.release id).1.handles.count x + _ = _
    rw [Heap.handles_release, List.map_cons]
    by_cases same : id = x
    · subst same
      have := List.count_pos_iff.2 handle
      simp
      omega
    · rw [List.count_erase_of_ne (Ne.symm same), List.count_cons_of_ne same]
  · intro e member absent
    rcases List.mem_cons.1 member with rfl | member
    · exact Heap.mem_release_of_count_one keeps.sound handle last
    · exact absurd member absent

theorem swept_sweepOnce {h : Host σ} {entries : Owned} (keeps : Keeps h entries) :
    ∃ gone, Swept h entries (sweepOnce h entries).1 (sweepOnce h entries).2 gone := by
  induction entries generalizing h with
  | nil =>
      exact ⟨[], .refl _, ⟨[], (List.append_nil _).symm, rfl⟩, keeps.sound, .slnil,
        by simp [sweepOnce], by simp⟩
  | cons e older ih =>
      obtain ⟨name, id⟩ := e
      unfold sweepOnce
      split
      · obtain ⟨gone, swept⟩ := ih (keeps.sublist (List.sublist_cons_self _ _))
        refine ⟨gone, swept.collapse, swept.journal, swept.sound, swept.sublist.cons_cons _, ?_, ?_⟩
        · intro x
          have := swept.handles x
          simp only [List.map_cons, List.count_cons]
          omega
        · intro e member absent
          simp only [List.mem_cons, not_or] at member absent
          exact swept.released e (member.resolve_left absent.1) absent.2
      · next only =>
        obtain ⟨gone, first⟩ := swept_release keeps only
        obtain ⟨more, second⟩ := ih (first.keeps keeps)
        exact ⟨gone ++ more, first.trans second⟩

/-- A pass that keeps every entry found a second pointer to each, and changed nothing. -/
theorem sweepOnce_of_length_eq {h : Host σ} {entries : Owned}
    (all : entries.length ≤ (sweepOnce h entries).2.length) :
    (sweepOnce h entries).1 = h ∧ ∀ e ∈ entries, 1 < h.count e.2 := by
  induction entries with
  | nil => simp [sweepOnce]
  | cons e older ih =>
      obtain ⟨name, id⟩ := e
      unfold sweepOnce at all ⊢
      split at all
      · next more =>
        rw [if_pos more]
        obtain ⟨unchanged, counts⟩ := ih (by simpa using all)
        refine ⟨unchanged, ?_⟩
        intro e member
        rcases List.mem_cons.1 member with rfl | member
        · exact more
        · exact counts e member
      · have := length_sweepOnce_le (h.release id) older
        simp only [List.length_cons] at all
        omega

/-- The sweep consists of passes, and ends with a second pointer to each entry that is left. -/
theorem swept_sweep {h : Host σ} {entries : Owned} (keeps : Keeps h entries) :
    (∃ gone, Swept h entries (sweep h entries).1 (sweep h entries).2 gone) ∧
      ∀ e ∈ (sweep h entries).2, 1 < (sweep h entries).1.count e.2 := by
  fun_induction sweep h entries with
  | case1 h entries after kept once fewer ih =>
      obtain ⟨gone, first⟩ := swept_sweepOnce keeps
      simp only [once] at first ⊢
      obtain ⟨⟨more, second⟩, counts⟩ := ih (first.keeps keeps)
      rw [if_pos fewer]
      exact ⟨⟨gone ++ more, first.trans second⟩, counts⟩
  | case2 h entries after kept once same =>
      obtain ⟨gone, swept⟩ := swept_sweepOnce keeps
      have all : entries.length ≤ (sweepOnce h entries).2.length := by
        simp only [once]
        exact Nat.le_of_not_lt same
      obtain ⟨unchanged, counts⟩ := sweepOnce_of_length_eq all
      simp only [once] at swept unchanged ⊢
      rw [if_neg same]
      subst unchanged
      exact ⟨⟨gone, swept⟩, fun e member => counts e (swept.sublist.subset member)⟩

/-! ## The sweep is exact -/

/-- Once a second pointer to each entry is left, everything live is held from outside or referred
to. -/
theorem referred_of_swept {h h' : Host σ} {entries kept : Owned} {gone : List ObjectId}
    (keeps : Keeps h entries) (swept : Swept h entries h' kept gone)
    (counts : ∀ e ∈ kept, 1 < h'.count e.2) {x : ObjectId} (live : h'.heap.isLive x) :
    x ∈ outside h' kept ∨ ∃ y, h'.heap.Refers y x := by
  by_cases held : x ∈ outside h' kept
  · exact .inl held
  · right
    rw [mem_outside_iff] at held
    have positive := swept.sound.count_pos live
    have once := List.nodup_iff_count_le_one.1 (swept.keeps keeps).distinct x
    have inner : 0 < h'.heap.inner x := by
      by_cases entry : x ∈ kept.map (·.2)
      · obtain ⟨e, member, rfl⟩ := List.mem_map.1 entry
        have second := counts e member
        unfold Host.count Heap.count at second
        omega
      · have := List.count_eq_zero.2 entry
        unfold Heap.count at positive
        omega
    obtain ⟨y, a, found, member⟩ := Heap.exists_of_inner_pos swept.sound.distinct inner
    exact ⟨y, a, found, member⟩

/-- **The sweep is exact.**  After the cleanup hooks, and whatever the order of the instances, the
entries left are those whose objects are anchored to the handles that are not the owner's.  Their
objects are live; every other one is destroyed, once, and after all that referred to it. -/
theorem sweep_exact {h : Host σ} {owned order : Owned} (keeps : Keeps h owned)
    (same : order.Perm owned) :
    let before := cleanUp h owned
    let (after, kept) := sweep before order.reverse
    (∀ e, e ∈ kept ↔ e ∈ owned ∧ before.heap.Anchored (outside before owned) e.2) ∧
    kept.Sublist order.reverse ∧
    ∃ es, after.journal = before.journal ++ es ∧
      (∀ e ∈ kept, after.heap.isLive e.2 ∧ e.2 ∉ destroyedIn es) ∧
      ∀ e ∈ owned, e ∉ kept → ¬ after.heap.isLive e.2 ∧
        ∃ earlier later, destroyedIn es = earlier ++ e.2 :: later ∧ e.2 ∉ earlier ∧ e.2 ∉ later ∧
          ∀ y, before.heap.Refers y e.2 → y ∈ earlier := by
  intro before
  have ordered : order.reverse.Perm owned := (List.reverse_perm _).trans same
  have keeps : Keeps before owned := keeps_cleanUp keeps owned
  have entries : Keeps before order.reverse := keeps.perm ordered
  obtain ⟨⟨gone, swept⟩, counts⟩ := swept_sweep entries
  generalize sweep before order.reverse = result at swept counts
  obtain ⟨after, kept⟩ := result
  have handed : ∀ x, x ∈ outside after kept ↔ x ∈ outside before owned := by
    intro x
    rw [swept.mem_outside_iff, mem_outside_iff, mem_outside_iff, (ordered.map _).count_eq]
  -- A kept entry has another pointer than the owner's, which starts a path or a cycle.
  have anchored : ∀ e ∈ kept, before.heap.Anchored (outside before owned) e.2 := by
    intro e member
    have live := swept.sound.handles _ ((swept.keeps entries).handles e member)
    have there := Heap.anchored_of_referred
      (fun _ live => referred_of_swept entries swept counts live) live
    exact (Heap.anchored_of_collapses swept.collapse there).mono fun x => (handed x).1
  -- What is anchored supports itself, and such a set no collapse takes anything from.
  have supported : ∀ x ∈ { x | before.heap.Anchored (outside before owned) x },
      x ∈ after.heap.handles ∨
        ∃ y ∈ { y | before.heap.Anchored (outside before owned) y }, before.heap.Refers y x := by
    intro x member
    refine (Heap.supported_of_anchored member).imp_left fun held => ?_
    have more := mem_outside_iff.1 ((handed x).2 held)
    exact List.count_pos_iff.1 (Nat.zero_lt_of_lt more)
  have spared : ∀ x ∈ gone, ¬ before.heap.Anchored (outside before owned) x :=
    Heap.supported_of_collapses swept.collapse supported
  have kept_iff : ∀ e, e ∈ kept ↔ e ∈ owned ∧ before.heap.Anchored (outside before owned) e.2 := by
    intro e
    constructor
    · exact fun member => ⟨ordered.subset (swept.sublist.subset member), anchored e member⟩
    · intro ⟨member, held⟩
      by_contra absent
      exact spared _ (swept.released e (ordered.symm.subset member) absent) held
  obtain ⟨es, journal, destroyed⟩ := swept.journal
  refine ⟨kept_iff, swept.sublist, es, journal, ?_, ?_⟩
  · intro e member
    rw [destroyed]
    exact ⟨swept.sound.handles _ ((swept.keeps entries).handles e member),
      fun lost => spared _ lost (anchored e member)⟩
  · intro e member absent
    have lost := swept.released e (ordered.symm.subset member) absent
    obtain ⟨earlier, later, split⟩ := List.append_of_mem lost
    have once := Heap.nodup_of_collapses swept.collapse
    rw [split, List.nodup_middle, List.nodup_cons, List.mem_append, not_or] at once
    refine ⟨?_, earlier, later, destroyed.trans split, once.1.1, once.1.2, ?_⟩
    · unfold Heap.isLive
      rw [Heap.find?_of_collapses swept.collapse, if_pos lost]
      simp
    · exact fun y refers => Heap.precedes_of_collapses swept.collapse split refers

/-- A chain, a ring of two, and an instance behind an object of a caller. -/
def tangle : Host Sample where
  program := ⟨[], fun path => .error path⟩
  heap :=
    let link (next : Option ObjectId) : Object Sample := ⟨⟨"Link", "Link", []⟩, .link { next }⟩
    ⟨[(0, link none), (1, link (some 0)), (2, link (some 3)), (3, link (some 2)), (4, link none),
      (5, link (some 4))], 6, [0, 1, 2, 3, 4, 5]⟩

def tangled : Owned := [("a", 0), ("b", 1), ("c", 2), ("d", 3), ("e", 4)]

theorem sweep_exact_tangle : Keeps tangle tangled ∧
    ∀ e, e ∈ (sweep (cleanUp tangle tangled) tangled.reverse).2 ↔ e ∈ tangled ∧
      (cleanUp tangle tangled).heap.Anchored (outside (cleanUp tangle tangled) tangled) e.2 := by
  have keeps : Keeps tangle tangled := ⟨by decide, by decide, by decide⟩
  exact ⟨keeps, (sweep_exact keeps (List.Perm.refl _)).1⟩

end Wiring.Context
