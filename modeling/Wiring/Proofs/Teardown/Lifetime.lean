/-
# Wiring.Proofs.Teardown.Lifetime -- which instances are cleaned up in a whole life

A context lives from its build to its end (`close`), with calls in any order in
between.  Only the first shutdown, or the end if there was none, calls cleanup hooks,
and it calls those of the instances that are owned then.  So an instance with such a
hook is cleaned up exactly once if it was owned before the first shutdown.

Creation goes on after a shutdown.  An instance that a context comes to own then is
never cleaned up, because the end finds the context shut down already
(`cleanup_count`, and `unswept` for an example).
-/
import Wiring.Proofs.Context.Reached
import Mathlib.Data.List.Induction

namespace Wiring.Context

set_option autoImplicit false

open Wiring.Component
open Wiring.Config (Environment)

variable {σ : Type} [Lifecycle σ]

/-! ## Cleanups along a life -/

/-- One state of a program is followed by another, and in between the cleanup hooks of these
objects were called, in order. -/
def Cleaned (h h' : Host σ) (ids : List ObjectId) : Prop :=
  ∃ es, h.Follows h' es ∧ hookCalls cleanupHook es = ids

namespace Cleaned

variable {h h₁ h₂ : Host σ} {ids more : List ObjectId}

omit [Lifecycle σ] in
theorem refl (h : Host σ) : Cleaned h h [] := ⟨[], .refl h, rfl⟩

omit [Lifecycle σ] in
theorem trans (first : Cleaned h h₁ ids) (second : Cleaned h₁ h₂ more) :
    Cleaned h h₂ (ids ++ more) := by
  obtain ⟨es, follows, cleaned⟩ := first
  obtain ⟨fs, follows', cleaned'⟩ := second
  exact ⟨es ++ fs, follows.trans follows', by rw [hookCalls_append, cleaned, cleaned']⟩

theorem of_does {ds : List Deed} (does : h.Does ds h₁) :
    Cleaned h h₁ (hookCalls cleanupHook (ds.filterMap Deed.event?)) := by
  obtain ⟨es, follows, calls⟩ := does.journal
  exact ⟨es, follows, by rw [← hookCalls_filter_isCall, calls]⟩

omit [Lifecycle σ] in
/-- Nothing is cleaned up after that. -/
theorem idle (first : Cleaned h h₁ ids) (second : Cleaned h₁ h₂ []) : Cleaned h h₂ ids := by
  rw [← List.append_nil ids]
  exact first.trans second

theorem of_tended {c c' : Context σ} {others : List ObjectId} (tended : Tended c c' others) :
    Cleaned c.host c'.host [] := by
  obtain ⟨ds, tame, tends⟩ := tended
  have cleaned := of_does tends.does
  rwa [show hookCalls cleanupHook (ds.filterMap Deed.event?) = [] from tame] at cleaned

end Cleaned

variable {c : Context σ} {others : List ObjectId}

theorem shutdown_of_shutDown (shut : c.shutDown = true) : c.shutdown = c := by
  unfold shutdown
  rw [if_pos shut]

/-- The first shutdown cleans up all that is owned and has a cleanup hook. -/
theorem cleaned_shutdown (held : Held c others) (running : c.shutDown = false) :
    Cleaned c.host c.shutdown.host ((bound c.host c.owned).map (·.2)) ∧ c.shutdown.owned = [] ∧
      c.shutdown.shutDown = true := by
  unfold shutdown
  rw [running]
  obtain ⟨between, cleans, sheds⟩ := tearDown_phases held.handles
  obtain ⟨es, follows, calls, _⟩ := cleans.journal
  have first : Cleaned c.host between ((bound c.host c.owned).map (·.2)) := by
    refine ⟨es, follows, ?_⟩
    rw [← hookCalls_filter_isCall, calls]
    unfold cleanups hookCalls
    rw [List.filterMap_map]
    simp
  exact ⟨first.idle (.of_does sheds.does), rfl, rfl⟩

theorem does_releaseAll (h : Host σ) (ids : List ObjectId) : h.Does [] (h.releaseAll ids) := by
  induction ids generalizing h with
  | nil => exact .nothing h
  | cons id rest ih => exact (Host.Moves.release h id).does.trans (ih (h.release id))

/-- The end of a context cleans up what its shutdown does. -/
theorem cleaned_close {ids : List ObjectId} (shutdown : Cleaned c.host c.shutdown.host ids) :
    Cleaned c.host c.close.host ids :=
  shutdown.idle (.of_does (does_releaseAll c.shutdown.host _))

/-! ## Calls -/

/-- Callers give up no handle of the context's in any of these calls. -/
def FairAll (c : Context σ) : List Operation → Prop
  | [] => True
  | call :: rest => Fair c call ∧ FairAll (c.operate call) rest

theorem fairAll_append {first second : List Operation} :
    FairAll c (first ++ second) ↔ FairAll c first ∧ FairAll (c.operateAll first) second := by
  induction first generalizing c with
  | nil => simp [FairAll, operateAll]
  | cons call rest ih =>
      show Fair c call ∧ FairAll _ (rest ++ second) ↔ (Fair c call ∧ FairAll _ rest) ∧ _
      rw [ih, and_assoc]
      rfl

/-- A call that is no shutdown cleans nothing up. -/
theorem cleaned_operate (held : Held c others) {call : Operation} (fair : Fair c call)
    (running : call ≠ .shutdown) :
    (∃ left, Tended c (c.operate call) left) ∧ (c.operate call).shutDown = c.shutDown :=
  ⟨tended_operate held fair running, (goes_operate c running).fixed.2⟩

/-- Once a context is shut down, no cleanup hook is ever called again. -/
theorem cleaned_of_shutDown (held : Held c others) (shut : c.shutDown = true)
    {calls : List Operation} (fair : FairAll c calls) :
    Cleaned c.host (c.operateAll calls).close.host [] := by
  induction calls generalizing c others with
  | nil =>
      refine cleaned_close ?_
      show Cleaned c.host c.shutdown.host []
      rw [shutdown_of_shutDown shut]
      exact .refl c.host
  | cons call rest ih =>
      by_cases last : call = .shutdown
      · subst last
        have same : c.operate .shutdown = c := shutdown_of_shutDown shut
        have fair := fair.2
        rw [same] at fair
        show Cleaned c.host ((c.operate .shutdown).operateAll rest).close.host []
        rw [same]
        exact ih held shut fair
      · obtain ⟨⟨left, tended⟩, same⟩ := cleaned_operate held fair.1 last
        exact (Cleaned.of_tended tended).idle (ih tended.held (same.trans shut) fair.2)

/-- What is owned before the first shutdown is cleaned up once, if it has a cleanup hook. -/
theorem cleaned_of_running (indexed : Indexed c) (held : Held c others)
    (running : c.shutDown = false) {calls : List Operation} (fair : FairAll c calls)
    {e : String × ObjectId} (owned : e ∈ c.owned) (has : c.host.hasHook e.2 cleanupHook) :
    ∃ ids, Cleaned c.host (c.operateAll calls).close.host ids ∧ ids.count e.2 = 1 := by
  have once {c : Context σ} (indexed : Indexed c) (owned : e ∈ c.owned)
      (has : c.host.hasHook e.2 cleanupHook) :
      ((bound c.host c.owned).map (·.2)).count e.2 = 1 := by
    apply List.count_eq_one_of_mem
    · exact indexed.objects.sublist (List.filter_sublist.map _)
    · exact List.mem_map.2 ⟨e, List.mem_filter.2 ⟨owned, has⟩, rfl⟩
  induction calls generalizing c others with
  | nil => exact ⟨_, cleaned_close (cleaned_shutdown held running).1, once indexed owned has⟩
  | cons call rest ih =>
      by_cases last : call = .shutdown
      · subst last
        obtain ⟨first, _, shut⟩ := cleaned_shutdown held running
        have second := cleaned_of_shutDown (held_shutdown held) shut fair.2
        exact ⟨_, first.idle second, once indexed owned has⟩
      · obtain ⟨⟨left, tended⟩, same⟩ := cleaned_operate held fair.1 last
        obtain ⟨ds, tame, tends⟩ := tended
        have first := Cleaned.of_tended ⟨ds, tame, tends⟩
        obtain ⟨ids, second, count⟩ := ih ((goes_operate c last).indexed indexed) tends.held
          (same.trans running) fair.2 (tends.lasts e owned).1
          ((tends.hasHook owned cleanupHook).trans has)
        exact ⟨ids, first.trans second, count⟩

/-- What is owned at some time has not been cleaned up before that time. -/
theorem cleaned_before (indexed : Indexed c) (held : Held c others) (running : c.shutDown = false)
    {calls : List Operation} (fair : FairAll c calls) :
    ∃ ids, Cleaned c.host (c.operateAll calls).host ids ∧
      (∀ x ∈ ids, x < (c.operateAll calls).host.heap.next) ∧
      (∀ e ∈ (c.operateAll calls).owned, e.2 ∉ ids) ∧
      ((c.operateAll calls).shutDown = true ↔ .shutdown ∈ calls) ∧
      Indexed (c.operateAll calls) ∧ ∃ left, Held (c.operateAll calls) left := by
  -- On the last call, since that is where new instances come from.
  induction calls using List.reverseRecOn with
  | nil => exact ⟨[], .refl _, by simp, by simp, by simp [operateAll, running], indexed, _, held⟩
  | append_singleton calls call ih =>
      obtain ⟨fair, last⟩ := fairAll_append.1 fair
      obtain ⟨ids, cleaned, older, fresh, shut, indexed, left, held⟩ := ih fair
      have step : c.operateAll (calls ++ [call]) = (c.operateAll calls).operate call := by
        simp [operateAll]
      rw [step]
      generalize c.operateAll calls = b at *
      by_cases stop : call = .shutdown
      · subst stop
        cases ended : b.shutDown with
        | true =>
            rw [show b.operate .shutdown = b from shutdown_of_shutDown ended]
            exact ⟨ids, cleaned, older, fresh, by simp [ended], indexed, left, held⟩
        | false =>
            obtain ⟨swept, none, shut⟩ := cleaned_shutdown held ended
            have indexed' : Indexed (b.operate .shutdown) := indexed.happens (.called last.1)
            refine ⟨_, cleaned.trans swept, ?_, ?_, ?_, indexed', _, held_shutdown held⟩
            · obtain ⟨_, follows, _⟩ := swept
              intro x member
              rcases List.mem_append.1 member with member | member
              · exact Nat.lt_of_lt_of_le (older x member) follows.next
              · obtain ⟨e, owned, rfl⟩ := List.mem_map.1 member
                exact Nat.lt_of_lt_of_le (indexed.fresh e (List.mem_of_mem_filter owned))
                  follows.next
            · show ∀ e ∈ b.shutdown.owned, _
              simp [none]
            · show b.shutdown.shutDown = true ↔ _
              simp [shut]
      · obtain ⟨⟨left, tended⟩, same⟩ := cleaned_operate held last.1 stop
        have grown := (goes_operate b stop).extended
        refine ⟨ids, ?_, ?_, ?_, ?_, (goes_operate b stop).indexed indexed, left, tended.held⟩
        · exact cleaned.idle (.of_tended tended)
        · exact fun x member => Nat.lt_of_lt_of_le (older x member) grown.next
        · intro e owned member
          obtain ⟨more, all, newer⟩ := grown.owned
          rw [all] at owned
          rcases List.mem_append.1 owned with old | new
          · exact fresh e old member
          · exact Nat.lt_irrefl _ (Nat.lt_of_lt_of_le (older _ member) (newer e new))
        · rw [same, shut]
          simp [Ne.symm stop]

/-! ## A whole life -/

/-- **How often an instance is cleaned up.**  In a life of a context that was built, with calls in
any order, an instance with a cleanup hook that is owned after some of them is cleaned up once if
there was no shutdown among these, and never if there was one. -/
theorem cleanup_count {host : Host σ} (fresh : host.heap.Fresh) {environment : Environment}
    {document : Document} {options : Options}
    (built : (build host environment document options).1 = .ok ()) {before after : List Operation}
    (fair : FairAll (build host environment document options).2 (before ++ after))
    {e : String × ObjectId}
    (owned : e ∈ ((build host environment document options).2.operateAll before).owned)
    (has : ((build host environment document options).2.operateAll before).host.hasHook e.2
      cleanupHook) :
    let start := (build host environment document options).2
    let final := (start.operateAll (before ++ after)).close
    ∃ es, final.host.journal = host.journal ++ es ∧
      (hookCalls cleanupHook es).count e.2 = if .shutdown ∈ before then 0 else 1 := by
  intro start final
  have indexed : Indexed start := (consistent_build _ _ _ _).toIndexed
  obtain ⟨held, begun⟩ := tended_build fresh environment document options
  obtain ⟨ds, tame, does⟩ := begun built
  have running := (build_keeps host environment document options).2 built
  have birth := Cleaned.of_does does
  rw [show hookCalls cleanupHook (ds.filterMap Deed.event?) = [] from tame] at birth
  obtain ⟨fair, fair'⟩ := fairAll_append.1 fair
  obtain ⟨ids, past, _, spared, shut, indexed', left, held'⟩ :=
    cleaned_before indexed held running fair
  have joined : final = ((start.operateAll before).operateAll after).close := by
    show (start.operateAll (before ++ after)).close = _
    unfold operateAll
    rw [List.foldl_append]
  -- Up to now the instance was not cleaned up, so all that counts is what is yet to come.
  have counted {more : List ObjectId}
      (future : Cleaned (start.operateAll before).host final.host more) :
      ∃ es, final.host.journal = host.journal ++ es ∧
        (hookCalls cleanupHook es).count e.2 = more.count e.2 := by
    obtain ⟨es, follows, cleaned⟩ := (birth.trans past).trans future
    refine ⟨es, follows.journal, ?_⟩
    rw [cleaned, List.nil_append, List.count_append, List.count_eq_zero.2 (spared e owned),
      Nat.zero_add]
  by_cases stopped : .shutdown ∈ before
  · rw [if_pos stopped]
    have future := cleaned_of_shutDown held' (shut.2 stopped) fair'
    rw [← joined] at future
    exact counted future
  · rw [if_neg stopped]
    have going : (start.operateAll before).shutDown = false := by
      rw [← Bool.not_eq_true, shut]
      exact stopped
    obtain ⟨more, future, once⟩ := cleaned_of_running indexed' held' going fair' owned has
    rw [← joined] at future
    rw [← once]
    exact counted future

/-- One instance with a cleanup hook. -/
def lonely : Document where
  instances := [{ name := "r", className := some "oracle::Ring" }]

/-- An instance that is created after a shutdown and not cleaned up at the end. -/
theorem unswept :
    let start := (build Sample.host .empty lonely {}).2
    let c := start.operateAll [.shutdown, .create "r"]
    (build Sample.host .empty lonely {}).1 = .ok () ∧ c.owned = [("r", 0)] ∧
      c.host.hasHook 0 cleanupHook ∧
      (hookCalls cleanupHook c.close.host.journal).count 0 = 0 := by
  decide +kernel

theorem cleanup_count_lonely :
    let start := (build Sample.host .empty lonely {}).2
    let final := (start.operateAll ([.create "r"] ++ [.shutdown])).close
    ∃ es, final.host.journal = [] ++ es ∧ (hookCalls cleanupHook es).count 0 = 1 := by
  have built : (build Sample.host .empty lonely {}).1 = .ok () := by decide +kernel
  have fair : FairAll (build Sample.host .empty lonely {}).2 ([.create "r"] ++ [.shutdown]) :=
    ⟨trivial, trivial, trivial⟩
  have owned :
      ("r", 0) ∈ ((build Sample.host .empty lonely {}).2.operateAll [.create "r"]).owned := by
    decide +kernel
  exact cleanup_count Heap.fresh_empty built fair owned (by decide +kernel)

end Wiring.Context
