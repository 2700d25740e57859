/-
# Wiring.Proofs.Teardown.Phases -- first all cleanups, then all destructions

While the cleanup hooks run, the owner still has a handle to each of its objects, so
none of them is destroyed, whatever references the hooks give up, and none of the
hooks is lost, whatever the ones before it return: `Cleans` says what such calls do
and leave, and can be chained.  The rest of a teardown calls no component; it only
gives up handles, one for each entry (`tearDown_phases`).
-/
import Wiring.Context.Build
import Wiring.Proofs.Context.Held
import Wiring.Samples.Platform

namespace Wiring

set_option autoImplicit false

open Wiring.Component

variable {σ : Type}

theorem Host.Follows.unique {h h' : Host σ} {es fs : List Event} (first : h.Follows h' es)
    (second : h.Follows h' fs) : es = fs :=
  List.append_cancel_left (first.journal.symm.trans second.journal)

variable [Lifecycle σ]

/-- What has a handle is not destroyed by a call, whatever the hook does. -/
theorem Host.spared_call {h : Host σ} {id x : ObjectId} {hook : String} {es : List Event}
    (follows : h.Follows (h.call id hook).2 es) (handle : x ∈ h.heap.handles) :
    x ∉ destroyedIn es := by
  rcases call_cases h id hook with ⟨e, failed⟩ | ⟨action, acted⟩
  · rw [failed] at follows
    rw [follows.unique (follows_enter h _)]
    simp [destroyedIn]
  · rw [acted] at follows
    let entered := h.enter [.called id hook]
    let effect := action entered.sight id
    let stored := entered.heap.storeAll (entered.changesOf effect)
    have journal : (entered.perform id action).2.journal = h.journal ++ ([.called id hook] ++
        (effect.notes.map .noted ++ farewells (stored.1.settle stored.2).2)) := by
      show ((h.journal ++ [.called id hook]) ++ effect.notes.map .noted) ++ _ = _
      rw [List.append_assoc, List.append_assoc]
      rfl
    have same := List.append_cancel_left (follows.journal.symm.trans journal)
    have kept : x ∈ stored.1.handles := by rwa [Heap.handles_storeAll]
    rw [same, destroyedIn_append, destroyedIn_append, destroyedIn_noted, destroyedIn_farewells]
    simpa [destroyedIn] using Heap.notMem_settle_of_handle stored.2 kept

namespace Context

/-! ## The cleanups -/

/-- The entries whose objects have a cleanup hook. -/
def bound (h : Host σ) (owned : Owned) : Owned := owned.filter fun e => h.hasHook e.2 cleanupHook

def cleanups (h : Host σ) (owned : Owned) : List Event :=
  (bound h owned).map fun e => .called e.2 cleanupHook

/-- The cleanup hooks of these entries were called in order, and what has a handle has kept it and
has not been destroyed. -/
structure Cleans (h : Host σ) (part : Owned) (h' : Host σ) : Prop where
  does : ∃ ds, h.Does ds h'
  handles : h'.heap.handles = h.heap.handles
  lasts : ∀ x ∈ h.heap.handles, h'.blueprint? x = h.blueprint? x
  journal : ∃ es, h.Follows h' es ∧ es.filter Event.isCall = cleanups h part ∧
    ∀ x ∈ h.heap.handles, x ∉ destroyedIn es

namespace Cleans

variable {h h₁ h₂ : Host σ} {part rest : Owned}

theorem refl (h : Host σ) : Cleans h [] h :=
  ⟨⟨[], .nothing h⟩, rfl, fun _ _ => rfl, [], .refl h, rfl, by simp [destroyedIn]⟩

theorem append (first : Cleans h part h₁) (second : Cleans h₁ rest h₂)
    (kept : ∀ e ∈ rest, e.2 ∈ h.heap.handles) : Cleans h (part ++ rest) h₂ := by
  obtain ⟨ds, does⟩ := first.does
  obtain ⟨ds', does'⟩ := second.does
  obtain ⟨es, follows, calls, spared⟩ := first.journal
  obtain ⟨fs, follows', calls', spared'⟩ := second.journal
  have still {x : ObjectId} (handle : x ∈ h.heap.handles) : x ∈ h₁.heap.handles := by
    rwa [first.handles]
  have same : bound h₁ rest = bound h rest := by
    unfold bound
    apply List.filter_congr
    intro e member
    rw [Host.hasHook_eq, Host.hasHook_eq, first.lasts _ (kept e member)]
  refine ⟨⟨ds ++ ds', does.trans does'⟩, second.handles.trans first.handles, ?_, es ++ fs,
    follows.trans follows', ?_, ?_⟩
  · intro x handle
    rw [second.lasts x (still handle), first.lasts x handle]
  · unfold cleanups at calls calls' ⊢
    rw [List.filter_append, calls, calls', same]
    unfold bound
    rw [List.filter_append, List.map_append]
  · intro x handle
    rw [destroyedIn_append, List.mem_append, not_or]
    exact ⟨spared x handle, spared' x (still handle)⟩

/-- An entry without a cleanup hook. -/
theorem unbound {e : String × ObjectId} (none : ¬ h.hasHook e.2 cleanupHook) :
    Cleans h [e] h := by
  have same : cleanups h [e] = cleanups h [] := by simp [cleanups, bound, none]
  obtain ⟨does, handles, lasts, es, follows, calls, spared⟩ := Cleans.refl h
  exact ⟨does, handles, lasts, es, follows, calls.trans same.symm, spared⟩

theorem call {e : String × ObjectId} (has : h.hasHook e.2 cleanupHook) :
    Cleans h [e] (h.call e.2 cleanupHook).2 := by
  obtain ⟨es, quiet, follows⟩ := Host.follows_call h e.2 cleanupHook
  refine ⟨⟨_, (Host.Moves.call h e.2 cleanupHook).does⟩, Host.handles_call h e.2 cleanupHook,
    fun x handle => Host.blueprint?_call e.2 cleanupHook handle, _, follows, ?_,
    fun x handle => Host.spared_call follows handle⟩
  show .called e.2 cleanupHook :: es.filter Event.isCall = _
  rw [quiet.filter_isCall]
  simp [cleanups, bound, has]

theorem record (first : Cleans h part h₁) (rs : List Logging.Record) :
    Cleans h part (h₁.record rs) := by
  obtain ⟨⟨ds, does⟩, handles, lasts, es, follows, calls, spared⟩ := first
  refine ⟨⟨_, does.trans (Host.Moves.enter h₁ rs).does⟩, handles, lasts, _,
    follows.trans (Host.follows_enter h₁ _), ?_, ?_⟩
  · rw [List.filter_append, (quiet_logged rs).filter_isCall, List.append_nil]
    exact calls
  · intro x handle
    rw [destroyedIn_append, destroyedIn_logged, List.append_nil]
    exact spared x handle

end Cleans

/-- **All cleanup hooks are called**, in order, whatever they do and return. -/
theorem cleans_cleanUp {h : Host σ} {part : Owned} (kept : ∀ e ∈ part, e.2 ∈ h.heap.handles) :
    Cleans h part (cleanUp h part) := by
  induction part generalizing h with
  | nil => exact .refl h
  | cons e rest ih =>
      have later : ∀ e ∈ rest, e.2 ∈ h.heap.handles :=
        fun e member => kept e (List.mem_cons_of_mem _ member)
      have andThen {h₁ : Host σ} (first : Cleans h [e] h₁) :
          Cleans h (e :: rest) (cleanUp h₁ rest) :=
        first.append (ih (first.handles ▸ later)) later
      obtain ⟨name, id⟩ := e
      unfold cleanUp
      split
      · next has =>
        have called := Cleans.call (e := (name, id)) has
        split
        · next after done =>
          rw [done] at called
          exact andThen called
        · next e after failed =>
          rw [failed] at called
          exact andThen (called.record _)
      · next none => exact andThen (.unbound none)

/-! ## The rest -/

variable {others : List ObjectId}

/-- No component is called, and besides those of others the handles to these entries are left. -/
structure Sheds (h h' : Host σ) (others : List ObjectId) (kept : Owned) : Prop where
  does : h.Does [] h'
  handles : h'.heap.handles.Perm (others ++ kept.map (·.2))

theorem Sheds.trans {h h₁ h₂ : Host σ} {kept rest : Owned} (first : Sheds h h₁ others kept)
    (second : Sheds h₁ h₂ others rest) : Sheds h h₂ others rest :=
  ⟨first.does.trans second.does, second.handles⟩

theorem sheds_release {h : Host σ} {e : String × ObjectId} {rest : Owned}
    (handles : h.heap.handles.Perm (others ++ (e :: rest).map (·.2))) :
    Sheds h (h.release e.2) others rest := by
  refine ⟨(Host.Moves.release h e.2).does, ?_⟩
  show (h.heap.release e.2).1.handles.Perm _
  rw [Heap.handles_release]
  simpa using (handles.trans List.perm_middle).erase e.2

theorem sheds_sweepOnce {h : Host σ} {entries : Owned}
    (handles : h.heap.handles.Perm (others ++ entries.map (·.2))) :
    Sheds h (sweepOnce h entries).1 others (sweepOnce h entries).2 := by
  induction entries generalizing h others with
  | nil => exact ⟨.nothing h, handles⟩
  | cons e older ih =>
      unfold sweepOnce
      split
      · -- For the rest of the pass, the handle to this entry is as good as one of others.
        have rest := ih (handles.trans List.perm_middle : h.heap.handles.Perm (e.2 :: others ++ _))
        exact ⟨rest.does, rest.handles.trans List.perm_middle.symm⟩
      · have first := sheds_release handles
        exact first.trans (ih first.handles)

theorem sheds_sweep {h : Host σ} {entries : Owned}
    (handles : h.heap.handles.Perm (others ++ entries.map (·.2))) :
    Sheds h (sweep h entries).1 others (sweep h entries).2 := by
  fun_induction sweep h entries with
  | case1 h entries after kept once fewer ih =>
      have first := sheds_sweepOnce handles
      simp only [once] at first ⊢
      rw [if_pos fewer]
      exact first.trans (ih first.handles)
  | case2 h entries after kept once same =>
      have first := sheds_sweepOnce handles
      simp only [once] at first ⊢
      rw [if_neg same]
      exact first

theorem sheds_forceDown {h : Host σ} {entries : Owned}
    (handles : h.heap.handles.Perm (others ++ entries.map (·.2))) :
    Sheds h (forceDown h entries) others [] := by
  induction entries generalizing h with
  | nil => exact ⟨.nothing h, handles⟩
  | cons e rest ih =>
      obtain ⟨name, id⟩ := e
      have first (warning : List Logging.Record) :
          Sheds (h.record warning) ((h.record warning).release id) others rest :=
        sheds_release (e := (name, id)) handles
      have last (warning : List Logging.Record) :=
        (first warning).trans (ih (first warning).handles)
      unfold forceDown
      exact ⟨(Host.Moves.enter h _).does.trans (last _).does, (last _).handles⟩

theorem Sheds.record {h h' : Host σ} {kept : Owned} (first : Sheds h h' others kept)
    (rs : List Logging.Record) : Sheds h (h'.record rs) others kept :=
  ⟨first.does.trans (Host.Moves.enter h' rs).does, first.handles⟩

/-! ## Teardown -/

/-- The program when all cleanup hooks of a teardown have been called. -/
def afterCleanups (h : Host σ) (owned : Owned) : Host σ :=
  cleanUp (h.record [entry .info s!"Destroying {owned.length} instances"]) owned

theorem cleans_afterCleanups {h : Host σ} {owned : Owned}
    (handles : h.heap.handles.Perm (others ++ owned.map (·.2))) :
    Cleans h owned (afterCleanups h owned) := by
  have kept : ∀ e ∈ owned, e.2 ∈ h.heap.handles := by
    intro e member
    rw [handles.mem_iff, List.mem_append]
    exact .inr (List.mem_map.2 ⟨e, member, rfl⟩)
  exact ((Cleans.refl h).record _).append (cleans_cleanUp kept) kept

theorem sheds_tearDown {h : Host σ} {owned : Owned}
    (handles : h.heap.handles.Perm (others ++ owned.map (·.2))) (some : owned ≠ []) :
    Sheds (afterCleanups h owned) (tearDown h owned) others [] := by
  have before : (afterCleanups h owned).heap.handles.Perm (others ++ owned.reverse.map (·.2)) := by
    rw [(cleans_afterCleanups handles).handles]
    exact handles.trans (((List.reverse_perm owned).map _).symm.append_left others)
  have swept := sheds_sweep before
  have counted (records : List Logging.Record) := swept.record records
  have order := ((List.reverse_perm (sweep (afterCleanups h owned) owned.reverse).2).map
    (·.2)).symm.append_left others
  unfold tearDown
  rw [if_neg (by simpa using some)]
  simp only
  split
  · next none =>
    rw [List.isEmpty_iff] at none
    have left := counted [entry .info "All instances destroyed"]
    unfold afterCleanups at left
    rwa [none] at left
  · exact (counted _).trans (sheds_forceDown ((counted _).handles.trans order))

/-- **A teardown has two phases.**  In the first all cleanup hooks are called and no object that has
a handle is destroyed; in the second no component is called, and the owner's handles go. -/
theorem tearDown_phases {h : Host σ} {owned : Owned}
    (handles : h.heap.handles.Perm (others ++ owned.map (·.2))) :
    ∃ between, Cleans h owned between ∧ Sheds between (tearDown h owned) others [] := by
  by_cases empty : owned = []
  · subst empty
    exact ⟨h, .refl h, .nothing h, handles⟩
  · exact ⟨_, cleans_afterCleanups handles, sheds_tearDown handles empty⟩

omit [Lifecycle σ] in
theorem find_of_index_nil {c : Context σ} (index : c.index = []) (name : String) :
    (c.find name).1 = none := by
  have missing (c' : Context σ) (n : String) (same : c'.index = []) : c'.lookup n = none := by
    unfold lookup
    rw [same]
    rfl
  unfold find
  rw [missing c name index]
  simp only
  cases expanded : c.take (c.view name).aliasTarget with
  | mk r after =>
      have same : after.index = [] := by
        rw [show after = (c.take (c.view name).aliasTarget).2 by rw [expanded]]
        exact index
      cases r with
      | error e => rfl
      | ok target =>
          simp only
          split
          · rfl
          · rw [missing after target same]

/-- **Teardown of a context.**  All cleanup hooks of its instances are called, once and in creation
order, before any instance is destroyed; then no component is called any more.  Afterwards it owns
nothing, finds nothing, and the handles left are those of others. -/
theorem destroyAll_phases {c : Context σ}
    (handles : c.host.heap.handles.Perm (others ++ c.owned.map (·.2))) :
    let after := c.destroyAll
    (∃ early late, after.host.journal = c.host.journal ++ early ++ late ∧
      early.filter Event.isCall = (c.owned.filter fun e => c.host.hasHook e.2 cleanupHook).map
        (fun e => .called e.2 cleanupHook) ∧
      (∀ e ∈ c.owned, e.2 ∉ destroyedIn early) ∧ late.filter Event.isCall = []) ∧
    after.owned = [] ∧ (∀ name, (after.find name).1 = none) ∧
    after.host.heap.handles.Perm others := by
  intro after
  obtain ⟨between, cleans, sheds⟩ := tearDown_phases handles
  obtain ⟨early, follows, calls, spared⟩ := cleans.journal
  obtain ⟨late, follows', none⟩ := sheds.does.journal
  refine ⟨⟨early, late, ?_, calls, ?_, none⟩, rfl, find_of_index_nil rfl, ?_⟩
  · rw [← follows.journal]
    exact follows'.journal
  · intro e owned
    apply spared
    rw [handles.mem_iff, List.mem_append]
    exact .inr (List.mem_map.2 ⟨e, owned, rfl⟩)
  · have left : (tearDown c.host c.owned).heap.handles.Perm (others ++ []) := sheds.handles
    rwa [List.append_nil] at left

/-- Two instances that refer to each other, give that up when cleaned up, and then fail. -/
def quarrel : Document :=
  let entries (other : String) : List Document.Property :=
    [{ name := some "cleanup-mode", text := some "release-then-fail" },
      { name := some "next", reference := some other }]
  { instances := [
      { name := "a", className := some "oracle::Fail", properties := entries "b" },
      { name := "b", className := some "oracle::Fail", properties := entries "a" }] }

def quarrelling : Context Sample := ((build Sample.host .empty quarrel {}).2.create "a").2

theorem destroyAll_phases_quarrelling : ∃ early late,
    quarrelling.destroyAll.host.journal = quarrelling.host.journal ++ early ++ late ∧
      early.filter Event.isCall = [.called 0 cleanupHook, .called 1 cleanupHook] ∧
      0 ∉ destroyedIn early ∧ 1 ∉ destroyedIn early := by
  have owned : quarrelling.owned = [("a", 0), ("b", 1)] := by decide +kernel
  have bound : quarrelling.owned.filter (fun e => quarrelling.host.hasHook e.2 cleanupHook) =
      [("a", 0), ("b", 1)] := by decide +kernel
  have handles : quarrelling.host.heap.handles.Perm ([0] ++ quarrelling.owned.map (·.2)) := by
    decide +kernel
  obtain ⟨⟨early, late, journal, calls, spared, _⟩, _⟩ := destroyAll_phases handles
  rw [bound] at calls
  exact ⟨early, late, journal, calls, spared ("a", 0) (by simp [owned]),
    spared ("b", 1) (by simp [owned])⟩

end Context

end Wiring
