/-
# Wiring.Proofs.Context.Rollback -- what a failed build leaves behind

A build that fails tears down what it has built so far.  The instances that it made are
those that the context owns by then, half-finished ones included; each has its cleanup
hook called once, and all of them are destroyed but those behind a cycle of references
that outlasts the hooks (`build_rollsBack`).

Nobody else can hold one of them, as long as components keep references in their fields
only: what was there before the build never comes to know of what it made.
-/
import Wiring.Proofs.Context.Start
import Wiring.Proofs.Teardown.Lifetime
import Wiring.Proofs.Teardown.Survivors

namespace Wiring.Context

set_option autoImplicit false

open Relation (ReflTransGen)
open Wiring.Component
open Wiring.Config (Environment)

variable {σ : Type} [Lifecycle σ]

/-- The context of a document when the component types of the program are registered. -/
def opened (host : Host σ) (environment : Environment) (document : Document) (options : Options) :
    Context σ :=
  { host := host.scan.2, document, environment, paths := searchPath environment options.paths }

omit [Lifecycle σ] in
theorem held_opened {host : Host σ} (fresh : host.heap.Fresh) (environment : Environment)
    (document : Document) (options : Options) :
    Held (opened host environment document options) host.heap.handles := by
  refine ⟨fresh, by simp [opened], ?_⟩
  show host.heap.handles.Perm (host.heap.handles ++ [])
  rw [List.append_nil]

/-- What is left of a context whose start failed. -/
def abandoned (c : Context σ) (e : Error) : Context σ :=
  c.log .error s!"Failed to start application context: {e.message}"

/-- A build that cannot register its types ends there. -/
theorem build_eq_scan {host : Host σ} {environment : Environment} {document : Document}
    {options : Options} {e : Error} (failed : host.scan.1 = .error e) :
    build host environment document options =
      (.error e, { opened host environment document options with shutDown := true }) := by
  unfold build
  simp only
  rw [show Context.onHost (Context.mk host document environment
      (searchPath environment options.paths) [] [] false) Host.scan =
    (.error e, opened host environment document options) from Prod.ext failed rfl]

/-- A build that can register its types starts its context, and reports on that or shuts it down. -/
theorem build_eq_start {host : Host σ} {environment : Environment} {document : Document}
    {options : Options} (scanned : host.scan.1 = .ok ()) :
    build host environment document options =
      match (opened host environment document options).start options.avoidEarly with
      | (.ok (), c) =>
        (.ok (), c.log .info s!"Application context started with {c.owned.length} instances")
      | (.error e, c) => (.error e, (c.abandoned e).shutdown) := by
  unfold build
  simp only
  rw [show Context.onHost (Context.mk host document environment
      (searchPath environment options.paths) [] [] false) Host.scan =
    (.ok (), opened host environment document options) from Prod.ext scanned rfl]
  rfl

/-- A build that succeeds has started its context, and said so. -/
theorem start_of_build {host : Host σ} {environment : Environment} {document : Document}
    {options : Options} {c : Context σ}
    (built : build host environment document options = (.ok (), c)) :
    host.scan.1 = .ok () ∧
      ∃ started, (opened host environment document options).start options.avoidEarly =
        (.ok (), started) ∧
          c = started.log .info
            s!"Application context started with {started.owned.length} instances" := by
  cases scanned : host.scan.1 with
  | error e =>
      rw [build_eq_scan scanned] at built
      cases built
  | ok u =>
      rw [build_eq_start scanned] at built
      cases start : (opened host environment document options).start options.avoidEarly with
      | mk r started =>
          rw [start] at built
          cases r with
          | error e => cases built
          | ok u =>
              cases built
              exact ⟨rfl, started, rfl, rfl⟩

/-- It fails with what its start fails with. -/
theorem build_of_failed_start {host : Host σ} {environment : Environment} {document : Document}
    {options : Options} {e : Error} (scanned : host.scan.1 = .ok ())
    (failed : (build host environment document options).1 = .error e) :
    ∃ c, (opened host environment document options).start options.avoidEarly = (.error e, c) ∧
      (build host environment document options).2 = (c.abandoned e).shutdown := by
  rw [build_eq_start scanned] at failed ⊢
  cases start : (opened host environment document options).start options.avoidEarly with
  | mk r c =>
      rw [start] at failed
      cases r with
      | ok u => cases failed
      | error e' =>
          cases failed
          exact ⟨c, rfl, rfl⟩

/-- What was made before the end of `c` and undone by it, with these events in all. -/
structure RolledBack (host : Host σ) (c : Context σ) (es : List Event) (final : Host σ) :
    Prop where
  journal : final.journal = host.journal ++ es
  /-- All that was constructed is owned. -/
  constructed : constructedIn es = c.owned.map (·.2)
  /-- Its cleanup hook is called once, if it has one. -/
  cleaned : ∀ x ∈ c.owned, (hookCalls cleanupHook es).count x.2 =
    if c.host.hasHook x.2 cleanupHook then 1 else 0
  /-- It is destroyed, if it is not behind a cycle by the time the hooks have been called. -/
  left : ∀ x ∈ c.owned, final.heap.isLive x.2 ↔
    (afterCleanups c.host c.owned).heap.Anchored [] x.2
  destroyed : ∀ x ∈ c.owned, ¬ final.heap.isLive x.2 → x.2 ∈ destroyedIn es

variable {fields : Fields σ} {c : Context σ} {others : List ObjectId} {N : ObjectId}

/-- Where older objects are kept apart, handles to them anchor no newer one. -/
theorem anchored_of_older {h : Host σ} (secluded : h.Secluded fields N)
    (older : ∀ x ∈ others, x < N) {x : ObjectId} (newer : N ≤ x) :
    h.heap.Anchored others x ↔ h.heap.Anchored [] x := by
  constructor
  · rintro ⟨root, held | cycle, path⟩
    · have side : ∀ y, ReflTransGen h.heap.Refers root y → y < N := by
        intro y path
        induction path with
        | refl => exact older root held
        | tail _ refers ih => exact (secluded.refers refers).2 ih
      exact absurd (side x path) (Nat.not_lt_of_le newer)
    · exact ⟨root, .inr cycle, path⟩
  · exact Heap.Anchored.mono (by simp)

omit [Lifecycle σ] in
/-- A shutdown calls each cleanup hook once. -/
theorem count_bound {h : Host σ} {owned : Owned} (distinct : (owned.map (·.2)).Nodup)
    {x : String × ObjectId} (member : x ∈ owned) :
    ((bound h owned).map (·.2)).count x.2 = if h.hasHook x.2 cleanupHook then 1 else 0 := by
  split
  · next has =>
    apply List.count_eq_one_of_mem
    · exact distinct.sublist (List.filter_sublist.map _)
    · exact List.mem_map.2 ⟨x, List.mem_filter.2 ⟨member, has⟩, rfl⟩
  · next unbound =>
    rw [List.count_eq_zero]
    intro there
    obtain ⟨y, bound, same⟩ := List.mem_map.1 there
    rw [← same] at unbound
    exact unbound (List.mem_filter.1 bound).2

/-- What survives the shutdown of a context that has dealt with newer objects only. -/
theorem survives_shutdown (secluded : c.host.Secluded fields N) (indexed : Indexed c)
    (held : Held c others) (running : c.shutDown = false) (older : ∀ x ∈ others, x < N)
    (newer : ∀ x ∈ c.owned, N ≤ x.2) :
    ∃ calls early destroyed, c.host.Does calls c.shutdown.host ∧ madeIn calls = [] ∧
      c.shutdown.host.journal = c.host.journal ++ early ++ destroyed ∧
      ∀ x ∈ c.owned, (c.shutdown.host.heap.isLive x.2 ↔
          (afterCleanups c.host c.owned).heap.Anchored [] x.2) ∧
        (¬ c.shutdown.host.heap.isLive x.2 → x.2 ∈ destroyedIn destroyed) := by
  have shut : c.shutdown.host = tearDown c.host c.owned := by
    unfold shutdown
    rw [running]
    rfl
  rw [shut]
  by_cases none : c.owned = []
  · rw [none]
    exact ⟨[], [], [], .nothing _, rfl, by simp [tearDown], by simp⟩
  · have keeps : Keeps c.host c.owned := by
      refine ⟨secluded.sound, indexed.objects, ?_⟩
      intro e owned
      rw [held.handles.mem_iff]
      exact List.mem_append_right _ (List.mem_map.2 ⟨e, owned, rfl⟩)
    let before := afterCleanups c.host c.owned
    obtain ⟨calls, called, only⟩ :=
      does_cleanUp (c.host.record [entry .info s!"Destroying {c.owned.length} instances"]) c.owned
    have hooked : c.host.Does calls before := (Host.Moves.enter c.host _).does.trans called
    have secluded' : before.Secluded fields N := by
      refine hooked.secluded secluded ?_
      intro d member x object
      obtain ⟨e, owned, r, rfl⟩ := only d member
      rw [List.mem_singleton.1 object]
      exact newer e owned
    obtain ⟨gone, drops, survives⟩ := survives_tearDown keeps held.handles none
    obtain ⟨destroyed, ended, rfl⟩ := drops.journal
    obtain ⟨early, follows, _⟩ := hooked.journal
    refine ⟨calls, early, destroyed, ?_, madeIn_of_called only, ?_, ?_⟩
    · rw [← List.append_nil calls]
      exact hooked.trans drops.does
    · rw [ended, ← follows.journal]
    · intro x owned
      have live : before.heap.isLive x.2 :=
        secluded'.sound.handles x.2 ((keeps_afterCleanups keeps).handles x owned)
      have anchor := anchored_of_older secluded' older (newer x owned)
      obtain ⟨lost, stays⟩ := survives x.2 live
      refine ⟨?_, fun gone => not_not.1 fun spared => gone (stays.2 spared)⟩
      rw [← anchor, stays, lost, not_not]

/-- A shutdown of a context that has dealt with newer objects only rolls back what it has made. -/
theorem rolledBack_shutdown {host : Host σ} (secluded : c.host.Secluded fields N)
    (indexed : Indexed c) (held : Held c others) (running : c.shutDown = false)
    (older : ∀ x ∈ others, x < N) (newer : ∀ x ∈ c.owned, N ≤ x.2)
    (cleaned : Cleaned host c.host []) {ds : List Deed} (does : host.Does ds c.host)
    (made : madeIn ds = c.owned.map (·.2)) : ∃ es, RolledBack host c es c.shutdown.host := by
  obtain ⟨es, follows, hooks⟩ := cleaned.trans (cleaned_shutdown held running).1
  obtain ⟨calls, early, destroyed, ended, none, journal, left⟩ :=
    survives_shutdown secluded indexed held running older newer
  obtain ⟨first, born, constructed⟩ := (does.trans ended).constructed
  obtain ⟨begun, began, _⟩ := does.journal
  have all : es = (begun ++ early) ++ destroyed := by
    have whole := follows.journal
    rw [journal, began.journal, List.append_assoc, List.append_assoc] at whole
    rw [List.append_assoc]
    exact (List.append_cancel_left whole).symm
  refine ⟨es, follows.journal, ?_, ?_, fun x owned => (left x owned).1, ?_⟩
  · rw [follows.unique born, constructed, madeIn_append, made, none, List.append_nil]
  · intro x owned
    rw [hooks, List.nil_append]
    exact count_bound indexed.objects owned
  · intro x owned gone
    rw [all, destroyedIn_append]
    exact List.mem_append_right _ ((left x owned).2 gone)

/-- **A failed build rolls back.**  It is the start of its context that failed, with the error of the
first constant or else of the first early instance that failed; and what the start had made is
cleaned up, each instance once, and destroyed unless a cycle of references that the cleanup hooks
leave leads to it. -/
theorem build_rollsBack {host : Host σ} (sound : host.heap.Sound) (confined : host.Confined fields)
    (known : ∀ id o, host.object? id = some o → ∀ x ∈ fields.kept o.state, x < host.heap.next)
    {environment : Environment} {document : Document} {options : Options} {e : Error}
    (scanned : host.scan.1 = .ok ())
    (failed : (build host environment document options).1 = .error e) :
    ∃ c es, (opened host environment document options).start options.avoidEarly = (.error e, c) ∧
      Fault (opened host environment document options) e c ∧
      (build host environment document options).2 = (c.abandoned e).shutdown ∧
      RolledBack host (c.abandoned e) es (build host environment document options).2.host := by
  obtain ⟨c, start, same⟩ := build_of_failed_start scanned failed
  let bare := opened host environment document options
  have begins : Held bare host.heap.handles := held_opened sound.fresh environment document options
  obtain ⟨indexed, held, newer, ⟨ds, does, made⟩, deeds, deals, own⟩ :=
    start_deals rfl rfl begins options.avoidEarly
  have tended := tended_start begins options.avoidEarly
  have goes := goes_start bare options.avoidEarly
  have next : host.heap.next ≤ bare.host.heap.next := Nat.le_refl _
  rw [start] at indexed held newer does made deals own tended goes
  have running : c.shutDown = false := goes.fixed.2
  have scan : host.Does [] bare.host := (Host.Moves.scan host).does
  have logged : c.host.Does [] (c.abandoned e).host := (Host.Moves.enter c.host _).does
  -- The start has called and handed over newer instances only, so older objects know none.
  have secluded : (c.abandoned e).host.Secluded fields host.heap.next := by
    refine ((scan.trans deals).trans logged).secluded (.of_known sound confined known) ?_
    intro d member x object
    rw [List.nil_append, List.append_nil] at member
    obtain ⟨y, owned, rfl⟩ := List.mem_map.1 (own d member x object)
    exact newer y owned
  have older : ∀ x ∈ host.heap.handles, x < host.heap.next :=
    fun x handle => sound.fresh x (sound.handles x handle)
  have cleaned : Cleaned host (c.abandoned e).host [] :=
    ((Cleaned.of_does scan).trans (.of_tended tended)).idle (.of_does logged)
  obtain ⟨fresh, live, handles⟩ := held
  obtain ⟨es, rolled⟩ := rolledBack_shutdown (c := c.abandoned e) secluded
    ⟨indexed.index, indexed.names, indexed.objects, indexed.fresh, indexed.declared⟩
    ⟨fresh, live, handles⟩ running older newer cleaned ((scan.trans does).trans logged) (by
      rw [List.nil_append, List.append_nil]
      exact made)
  exact ⟨c, es, start, fault_of_start rfl start, same, same ▸ rolled⟩

/-- The references that rings and links keep, weak ones included. -/
def sampleFields : Fields Sample where
  kept s := Sample.held s ++
    match s with
    | .probe p => p.weak.toList
    | .link l => l.peer.toList
    | _ => []
  held _ _ member := List.mem_append_left _ member

/-- A program with rings and links, and without libraries. -/
def small : Host Sample :=
  { program := ⟨[Sample.ringType, Sample.linkType], fun path => .error path⟩ }

theorem confined_ring {f : Factory Sample} (made : Sample.ringType.factory = .ok f) :
    f.Confined sampleFields := by
  have noted (word : String) : Confined sampleFields [] (Sample.noting word) :=
    confined_of_unchanged fun _ _ => rfl
  have dropped : Confined sampleFields [] Sample.dropNext := by
    refine confined_update ?_
    intro s x kept
    cases s <;> simp_all [sampleFields, Sample.held]
  refine confined_factory ?_ ?_ made
  · intro e member
    simp only [Sample.ringType, List.mem_cons, List.not_mem_nil, or_false] at member
    rcases member with rfl | rfl | rfl | rfl
    · intro label
      refine confined_update fun s x kept => .inl ?_
      cases s <;> exact kept
    · intro next
      refine confined_update ?_
      intro s x kept
      cases s <;> simp_all [sampleFields, Sample.held, Sample.onRing]
    · exact noted "done"
    · exact (noted "cleanup").both dropped
  · rintro s ⟨⟩
    rfl

theorem confined_link {f : Factory Sample} (made : Sample.linkType.factory = .ok f) :
    f.Confined sampleFields := by
  refine confined_factory ?_ ?_ made
  · intro e member
    simp only [Sample.linkType, List.mem_cons, List.not_mem_nil, or_false] at member
    rcases member with rfl | rfl | rfl
    · intro label
      refine confined_update fun s x kept => .inl ?_
      cases s <;> exact kept
    · intro next
      refine confined_update ?_
      intro s x kept
      cases s <;> simp_all [sampleFields, Sample.held, Sample.onLink]
      tauto
    · intro peer
      refine confined_update ?_
      intro s x kept
      cases s <;> simp_all [sampleFields, Sample.held, Sample.onLink]
      tauto
  · rintro s ⟨⟩
    rfl

theorem confined_small : small.Confined sampleFields := by
  refine ⟨?_, by simp [small], ?_⟩
  · rintro f (⟨c, member, made⟩ | ⟨path, library, status, staged, className, opened, _⟩)
    · simp only [small, List.mem_cons, List.not_mem_nil, or_false] at member
      rcases member with rfl | rfl
      · exact confined_ring made
      · exact confined_link made
    · cases opened
  · intro id o found
    cases found

/-- Two links that refer to each other, and two rings that do; then one of the rings refers to what
is not declared. -/
def entangled : Document where
  instances := [
    { name := "a", className := some "oracle::Link", init := .early,
      properties := [{ name := some "next", reference := some "b" }] },
    { name := "b", className := some "oracle::Link",
      properties := [{ name := some "next", reference := some "a" }] },
    { name := "c", className := some "oracle::Ring", init := .early,
      properties := [{ name := some "next", reference := some "d" },
        { name := some "next", reference := some "e" }] },
    { name := "d", className := some "oracle::Ring",
      properties := [{ name := some "next", reference := some "c" }] },
    { name := "f", className := some "oracle::Ring", init := .early }]

theorem build_rollsBack_entangled :
    let final := (build small .empty entangled {}).2
    (build small .empty entangled {}).1 = .error (.instanceNotFound "e") ∧
      final.host.heap.cells.map (·.1) = [0, 1] ∧
      ∃ c es, (opened small .empty entangled {}).start false = (.error (.instanceNotFound "e"), c) ∧
        Fault (opened small .empty entangled {}) (.instanceNotFound "e") c ∧
        (build small .empty entangled {}).2 = (c.abandoned (.instanceNotFound "e")).shutdown ∧
        RolledBack small (c.abandoned (.instanceNotFound "e")) es final.host := by
  have failed : (build small .empty entangled {}).1 = .error (.instanceNotFound "e") := by
    decide +kernel
  refine ⟨failed, by decide +kernel, ?_⟩
  exact build_rollsBack Heap.sound_empty confined_small (by intro id o found; cases found)
    (by decide +kernel) failed

end Wiring.Context
