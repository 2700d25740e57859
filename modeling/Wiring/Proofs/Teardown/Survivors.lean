/-
# Wiring.Proofs.Teardown.Survivors -- what is left when a teardown is over

After the cleanup hooks a teardown only gives up pointers (`Drops`), and in the end the
handles left are those of others.  So what survives it can be told as soon as the hooks
have been called: all that is anchored to the handles of others or behind a cycle, and
nothing else (`survives_tearDown`).
-/
import Wiring.Proofs.Teardown.Phases
import Wiring.Proofs.Teardown.Sweep

namespace Wiring.Context

set_option autoImplicit false

open Wiring.Component
open Wiring.Heap (Collapses)

variable {σ : Type} [Lifecycle σ]

/-! ## Giving up pointers -/

/-- Pointers were given up, and these objects destroyed by that. -/
structure Drops (h h' : Host σ) (gone : List ObjectId) : Prop where
  does : h.Does [] h'
  collapse : Collapses h.heap gone h'.heap
  journal : ∃ es, h'.journal = h.journal ++ es ∧ destroyedIn es = gone
  sound : h.heap.Sound → h'.heap.Sound

namespace Drops

variable {h h₁ h₂ : Host σ} {gone more : List ObjectId}

theorem trans (first : Drops h h₁ gone) (second : Drops h₁ h₂ more) :
    Drops h h₂ (gone ++ more) := by
  obtain ⟨es, journal, destroyed⟩ := first.journal
  obtain ⟨fs, journal', destroyed'⟩ := second.journal
  refine ⟨first.does.trans second.does, first.collapse.trans second.collapse, ⟨es ++ fs, ?_, ?_⟩,
    fun sound => second.sound (first.sound sound)⟩
  · rw [journal', journal, List.append_assoc]
  · rw [destroyedIn_append, destroyed, destroyed']

theorem record (h : Host σ) (rs : List Logging.Record) : Drops h (h.record rs) [] :=
  ⟨(Host.Moves.enter h rs).does, .refl h.heap, ⟨_, rfl, destroyedIn_logged rs⟩,
    fun sound => sound⟩

theorem release (h : Host σ) (id : ObjectId) :
    Drops h (h.release id) ((h.heap.release id).2.map (·.1)) :=
  ⟨(Host.Moves.release h id).does, Heap.collapses_release h.heap id,
    ⟨_, rfl, Host.destroyedIn_farewells _⟩,
    fun sound => Heap.sound_release sound id⟩

theorem of_swept {entries kept : Owned} (swept : Swept h entries h₁ kept gone)
    (does : h.Does [] h₁) : Drops h h₁ gone :=
  ⟨does, swept.collapse, swept.journal, fun _ => swept.sound⟩

end Drops

theorem drops_forceDown (h : Host σ) (entries : Owned) :
    ∃ gone, Drops h (forceDown h entries) gone := by
  induction entries generalizing h with
  | nil => exact ⟨[], .nothing h, .refl h.heap, ⟨[], (List.append_nil _).symm, rfl⟩, fun sound => sound⟩
  | cons e rest ih =>
      obtain ⟨name, id⟩ := e
      unfold forceDown
      simp only
      obtain ⟨gone, later⟩ := ih _
      exact ⟨_, ((Drops.record h _).trans (.release _ id)).trans later⟩

/-! ## A whole teardown -/

/-- The cleanup hooks of the entries are all that is called by them. -/
theorem does_cleanUp (h : Host σ) (part : Owned) :
    ∃ ds, h.Does ds (cleanUp h part) ∧ ∀ d ∈ ds, ∃ e ∈ part, ∃ r, d = .called e.2 cleanupHook r := by
  induction part generalizing h with
  | nil => exact ⟨[], .nothing h, by simp⟩
  | cons e rest ih =>
      have andThen {h₁ : Host σ} {ds : List Deed} (first : h.Does ds h₁)
          (only : ∀ d ∈ ds, ∃ r, d = .called e.2 cleanupHook r) :
          ∃ ds, h.Does ds (cleanUp h₁ rest) ∧
            ∀ d ∈ ds, ∃ x ∈ e :: rest, ∃ r, d = .called x.2 cleanupHook r := by
        obtain ⟨es, does, later⟩ := ih h₁
        refine ⟨ds ++ es, first.trans does, ?_⟩
        intro d member
        rcases List.mem_append.1 member with member | member
        · exact ⟨e, List.mem_cons_self, only d member⟩
        · obtain ⟨x, there, called⟩ := later d member
          exact ⟨x, List.mem_cons_of_mem _ there, called⟩
      obtain ⟨name, id⟩ := e
      have called := (Host.Moves.call h id cleanupHook).does
      have single : ∀ d ∈ [Deed.called id cleanupHook (h.call id cleanupHook).1],
          ∃ r, d = .called id cleanupHook r :=
        fun d member => ⟨_, List.mem_singleton.1 member⟩
      unfold cleanUp
      split
      · split
        · next after done =>
          rw [done] at called single
          exact andThen called single
        · next e after failed =>
          rw [failed] at called single
          exact andThen (called.trans (Host.Moves.enter after _).does) (by simp)
      · exact andThen (.nothing h) (by simp)

/-- They are all that is called by a teardown. -/
theorem does_tearDown {h : Host σ} {owned : Owned} {others : List ObjectId}
    (handles : h.heap.handles.Perm (others ++ owned.map (·.2))) :
    ∃ ds, h.Does ds (tearDown h owned) ∧
      ∀ d ∈ ds, ∃ e ∈ owned, ∃ r, d = .called e.2 cleanupHook r := by
  by_cases empty : owned = []
  · subst empty
    exact ⟨[], .nothing h, by simp⟩
  · let noted := h.record [entry .info s!"Destroying {owned.length} instances"]
    obtain ⟨ds, called, only⟩ := does_cleanUp noted owned
    have all := (Host.Moves.enter h _).does.trans
      (called.trans (sheds_tearDown handles empty).does)
    rw [List.nil_append, List.append_nil] at all
    exact ⟨ds, all, only⟩

theorem madeIn_of_called {ds : List Deed} {part : Owned}
    (only : ∀ d ∈ ds, ∃ e ∈ part, ∃ r, d = .called e.2 cleanupHook r) : madeIn ds = [] := by
  unfold madeIn
  rw [List.filterMap_eq_nil_iff]
  intro d member
  obtain ⟨e, _, r, rfl⟩ := only d member
  rfl

theorem keeps_afterCleanups {h : Host σ} {owned : Owned} (keeps : Keeps h owned) :
    Keeps (afterCleanups h owned) owned := by
  refine keeps_cleanUp ?_ owned
  exact ⟨keeps.sound, keeps.distinct, keeps.handles⟩

/-- After the cleanup hooks, a teardown only gives up pointers. -/
theorem drops_tearDown {h : Host σ} {owned : Owned} {others : List ObjectId} (keeps : Keeps h owned)
    (handles : h.heap.handles.Perm (others ++ owned.map (·.2))) (some : owned ≠ []) :
    ∃ gone, Drops (afterCleanups h owned) (tearDown h owned) gone := by
  have cleaned := cleans_cleanUp (h := h.record [entry .info s!"Destroying {owned.length} instances"])
    keeps.handles
  have before : (afterCleanups h owned).heap.handles.Perm (others ++ owned.reverse.map (·.2)) := by
    rw [afterCleanups, cleaned.handles]
    exact handles.trans (((List.reverse_perm owned).map _).symm.append_left others)
  obtain ⟨⟨gone, swept⟩, _⟩ :=
    swept_sweep ((keeps_afterCleanups keeps).perm (List.reverse_perm owned))
  have converged := Drops.of_swept swept (sheds_sweep before).does
  unfold tearDown
  rw [if_neg (by simpa using some)]
  simp only
  split
  · exact ⟨_, converged.trans (.record _ _)⟩
  · have counted := fun rs => converged.trans (.record _ rs)
    exact (drops_forceDown _ _).imp' _ fun _ forced => (counted _).trans forced

/-- **What survives a teardown** is what is anchored to the handles of others, or lies behind a
cycle, when the cleanup hooks have been called.  All else is destroyed. -/
theorem survives_tearDown {h : Host σ} {owned : Owned} {others : List ObjectId}
    (keeps : Keeps h owned) (handles : h.heap.handles.Perm (others ++ owned.map (·.2)))
    (some : owned ≠ []) :
    let before := afterCleanups h owned
    let final := tearDown h owned
    ∃ gone, Drops before final gone ∧
      ∀ x, before.heap.isLive x →
        (x ∈ gone ↔ ¬ before.heap.Anchored others x) ∧ (final.heap.isLive x ↔ x ∉ gone) := by
  intro before final
  obtain ⟨gone, drops⟩ := drops_tearDown keeps handles some
  have sound : final.heap.Sound := drops.sound (keeps_afterCleanups keeps).sound
  have left : final.heap.handles.Perm others := by
    obtain ⟨_, _, sheds⟩ := tearDown_phases handles
    have left := sheds.handles
    rwa [List.map_nil, List.append_nil] at left
  have live (x : ObjectId) (there : before.heap.isLive x) :
      final.heap.isLive x ↔ x ∉ gone := by
    unfold Heap.isLive at there ⊢
    rw [Heap.find?_of_collapses drops.collapse]
    by_cases lost : x ∈ gone
    · simp [lost]
    · rw [if_neg lost]
      exact iff_of_true there lost
  -- What is anchored is supported by itself and by handles that are left, so it stays.
  have supported : ∀ y ∈ { y | before.heap.Anchored others y }, y ∈ final.heap.handles ∨
      ∃ z ∈ { z | before.heap.Anchored others z }, before.heap.Refers z y :=
    fun y member => (Heap.supported_of_anchored member).imp_left left.mem_iff.2
  refine ⟨gone, drops, fun x there => ⟨⟨?_, ?_⟩, live x there⟩⟩
  · exact fun lost => Heap.supported_of_collapses drops.collapse supported x lost
  · intro loose
    by_contra spared
    -- What is left has a pointer, and none is the owner's any more; so it is anchored.
    have referred : ∀ y, final.heap.isLive y → y ∈ others ∨ ∃ z, final.heap.Refers z y := by
      intro y alive
      by_cases handle : y ∈ final.heap.handles
      · exact .inl (left.mem_iff.1 handle)
      · right
        have positive := sound.count_pos alive
        have none := List.count_eq_zero.2 handle
        have inner : 0 < final.heap.inner y := by
          unfold Heap.count at positive
          omega
        obtain ⟨z, a, found, member⟩ := Heap.exists_of_inner_pos sound.distinct inner
        exact ⟨z, a, found, member⟩
    have anchored := Heap.anchored_of_referred referred ((live x there).2 spared)
    exact loose (Heap.anchored_of_collapses drops.collapse anchored)

end Wiring.Context
