/-
# Wiring.Proofs.Context.Life -- the calls of each instance in a whole life

A life of a context is a sequence of turns, in which the context itself is at work: its
build, the calls of its callers, and its end.  In between the rest of the program may
do what it likes.

In each turn a context calls what it makes in that turn, each as it is declared
(`Worked`), and nothing else but the cleanup hooks of a teardown.  So over a whole life
the calls of an instance are those of its trace, and then at most cleanups
(`calls_of_life`).
-/
import Wiring.Proofs.Context.Rollback
import Wiring.Proofs.Creation.Trace

namespace Wiring.Context

set_option autoImplicit false

open Wiring.Component
open Wiring.Config (Environment)

variable {σ : Type} [Lifecycle σ]

/-! ## Turns -/

/-- A time at which a context is at work: the call that it was given, if it is one, and the context
before, when all creations are over, and after. -/
structure Turn (σ : Type) where
  call : Option Operation
  first : Context σ
  last : Context σ
  after : Context σ

/-- The root of a turn, if it is not kept. -/
def Turn.root (turn : Turn σ) : Option String :=
  turn.call.bind fun
    | .createDetached name => some name
    | _ => none

/-- The context that a build begins with. -/
def blank (host : Host σ) (environment : Environment) (document : Document) (options : Options) :
    Context σ :=
  { host, document, environment, paths := searchPath environment options.paths }

/-- The context of a build when all creations are over. -/
def erected (host : Host σ) (environment : Environment) (document : Document) (options : Options) :
    Context σ :=
  match host.scan.1 with
  | .ok () => ((opened host environment document options).start options.avoidEarly).2
  | .error _ => opened host environment document options

/-- The context of a call when all creations are over. -/
def creations (c : Context σ) : Operation → Context σ
  | .shutdown => c
  | call => c.operate call

theorem creations_eq_operate (c : Context σ) {call : Operation} (running : call ≠ .shutdown) :
    c.creations call = c.operate call := by
  cases call with
  | shutdown => exact absurd rfl running
  | _ => rfl

/-- A life of a context that is to bring a document to life, and the context as it is now, unless it
has ended. -/
inductive Life (document : Document) : List (Turn σ) → Option (Context σ) → Prop where
  | built {host : Host σ} (fresh : host.heap.Fresh) (anchors : host.Anchors)
      (environment : Environment) (options : Options) :
      Life document
        [⟨none, blank host environment document options, erected host environment document options,
          (build host environment document options).2⟩]
        (some (build host environment document options).2)
  | next {turns : List (Turn σ)} {c c' : Context σ} {label : Option Operation}
      (life : Life document turns (some c)) (happens : Happens c label c') :
      Life document (turns ++ label.toList.map fun call => ⟨some call, c, c.creations call, c'⟩)
        (some c')
  | ended {turns : List (Turn σ)} {c : Context σ} (life : Life document turns (some c)) :
      Life document (turns ++ [⟨none, c, c, c.close⟩]) none

/-! ## One turn -/

/-- What was done in a turn by its creations, and what after them. -/
structure Worked (document : Document) (turn : Turn σ) (work : List Deed × List Deed) : Prop where
  document : turn.last.document = document
  works : Works turn.root turn.first work.1 turn.last
  ends : turn.last.host.Does work.2 turn.after.host
  /-- After the creations nothing but cleanup hooks is called, and these in a teardown only. -/
  cleanups : ∀ d ∈ work.2, ∃ x ∈ turn.last.owned, ∃ r, d = .called x.2 cleanupHook r
  calm : turn.after.shutDown = turn.last.shutDown → work.2 = []
  /-- All that was made and called can be read in the journal. -/
  journal : ∃ es, turn.after.host.journal = turn.first.host.journal ++ es ∧
    constructedIn es = madeIn work.1 ∧
    es.filter Event.isCall = (work.1 ++ work.2).filterMap Deed.event?

variable {document : Document} {c c' : Context σ} {others : List ObjectId} {ds es : List Deed}
  {call : Option Operation}

namespace Worked

theorem of_works {first last after : Context σ} (same : last.document = document)
    (works : Works (Turn.root ⟨call, first, last, after⟩) first ds last)
    (ends : last.host.Does es after.host)
    (cleanups : ∀ d ∈ es, ∃ x ∈ last.owned, ∃ r, d = .called x.2 cleanupHook r)
    (calm : after.shutDown = last.shutDown → es = []) :
    Worked document ⟨call, first, last, after⟩ (ds, es) := by
  have does := works.does.trans ends
  obtain ⟨_, follows, calls⟩ := does.journal
  obtain ⟨_, follows', made⟩ := does.constructed
  refine ⟨same, works, ends, cleanups, calm, _, follows.journal, ?_, calls⟩
  rw [follows.unique follows', made, madeIn_append, madeIn_of_called cleanups, List.append_nil]

/-- A turn that does not tear down. -/
theorem calmly {first last : Context σ} (same : last.document = document)
    (works : Works (Turn.root ⟨call, first, last, last⟩) first ds last) :
    Worked document ⟨call, first, last, last⟩ (ds, []) :=
  of_works same works (.nothing _) (by simp) fun _ => rfl

end Worked

/-! ### Teardown -/

/-- A shutdown calls cleanup hooks, unless there was one before. -/
theorem does_shutdown (held : Held c others) :
    ∃ es, c.host.Does es c.shutdown.host ∧
      (∀ d ∈ es, ∃ x ∈ c.owned, ∃ r, d = .called x.2 cleanupHook r) ∧
      c.shutdown.shutDown = true ∧ (c.shutDown = true → es = []) := by
  cases shut : c.shutDown with
  | true =>
      rw [shutdown_of_shutDown shut]
      exact ⟨[], .nothing _, by simp, shut, fun _ => rfl⟩
  | false =>
      obtain ⟨es, does, only⟩ := does_tearDown held.handles
      refine ⟨es, ?_, only, (cleaned_shutdown held shut).2.2, by simp⟩
      unfold shutdown
      rw [if_neg (by simp [shut])]
      exact does

/-- A turn that tears down, after these creations. -/
theorem worked_shutdown {first last after : Context σ} (same : last.document = document)
    (works : Works (Turn.root ⟨call, first, last, after⟩) first ds last)
    (report : last.host.Does [] c.host) (owned : c.owned = last.owned)
    (shut : c.shutDown = last.shutDown) (held : Held c others)
    (ends : c.shutdown.host.Does [] after.host) (ended : after.shutDown = c.shutdown.shutDown) :
    ∃ es, Worked document ⟨call, first, last, after⟩ (ds, es) := by
  obtain ⟨es, does, only, down, none⟩ := does_shutdown held
  have all := (report.trans does).trans ends
  rw [List.nil_append, List.append_nil] at all
  refine ⟨es, .of_works same works all (owned ▸ only) fun calm => none ?_⟩
  rw [shut, ← calm, ended, down]

/-! ### Calls -/

theorem rests_castHandle (c : Context σ) (id : ObjectId) (target : TypeName) :
    Rests c (c.castHandle id target).2 := by
  unfold castHandle
  split
  · exact .refl c
  · exact .release c id

theorem rests_find (c : Context σ) (name : String) : Rests c (c.find name).2 := by
  have noted := (proceeds_take c (c.view name).aliasTarget).rests
  unfold find
  split
  · exact .acquire c _
  · split
    · next result =>
      rw [result] at noted
      exact noted
    · next result =>
      rw [result] at noted
      split
      · exact noted
      · split
        · exact noted.trans (.acquire _ _)
        · exact noted

theorem works_castHandle {root : Option String} {b : Context σ} (works : Works root c ds b)
    (id : ObjectId) (target : TypeName) : Works root c ds (b.castHandle id target).2 :=
  works.rests (rests_castHandle b id target)

theorem works_find {root : Option String} (c : Context σ) (name : String) :
    Works root c [] (c.find name).2 := .idle (rests_find c name).does

/-- **A call works on what it makes.** -/
theorem works_operate (anchors : c.host.Anchors) (indexed : Indexed c) (held : Held c others)
    {call : Operation} (running : call ≠ .shutdown) :
    ∃ ds, Works (Turn.root ⟨some call, c, c.operate call, c.operate call⟩) c ds
      (c.operate call) := by
  cases call with
  | create name => exact works_create indexed held name
  | createDetached name => exact works_createDetached anchors indexed held name
  | createAs name target =>
      obtain ⟨ds, works⟩ := works_create indexed held name
      show ∃ ds, Works none c ds (c.createAs name target).2
      unfold createAs
      cases made : c.create name with
      | mk r after =>
          rw [made] at works
          cases r with
          | error e => exact ⟨ds, works⟩
          | ok id => exact ⟨ds, works_castHandle works id target⟩
  | find name => exact ⟨[], works_find c name⟩
  | findAs name target =>
      have works : Works none c [] (c.find name).2 := works_find c name
      show ∃ ds, Works none c ds (c.findAs name target).2
      unfold findAs
      cases found : c.find name with
      | mk answer after =>
          rw [found] at works
          cases answer with
          | none => exact ⟨[], works⟩
          | some id =>
              have used := works_castHandle works id target
              simp only
              cases cast : after.castHandle id target with
              | mk r final =>
                  rw [cast] at used
                  cases r <;> exact ⟨[], used⟩
  | release id => exact ⟨[], .idle (Host.Moves.release c.host id).does⟩
  | shutdown => exact absurd rfl running

theorem worked_operate (same : c.document = document) (anchors : c.host.Anchors)
    (indexed : Indexed c) (held : Held c others) (call : Operation) :
    ∃ work, Worked document ⟨some call, c, c.creations call, c.operate call⟩ work := by
  by_cases last : call = .shutdown
  · subst last
    obtain ⟨es, worked⟩ : ∃ es, Worked document ⟨some .shutdown, c, c, c.shutdown⟩ ([], es) :=
      worked_shutdown same (.idle (.nothing c.host)) (.nothing c.host) rfl rfl held (.nothing _) rfl
    exact ⟨_, worked⟩
  · obtain ⟨ds, works⟩ := works_operate anchors indexed held last
    have kept := (goes_operate c last).extended.document.trans same
    rw [creations_eq_operate c last]
    exact ⟨_, .calmly kept works⟩

theorem worked_close (same : c.document = document) (held : Held c others) :
    ∃ work, Worked document ⟨none, c, c, c.close⟩ work := by
  obtain ⟨es, worked⟩ : ∃ es, Worked document ⟨none, c, c, c.close⟩ ([], es) :=
    worked_shutdown same (.idle (.nothing c.host)) (.nothing c.host) rfl rfl held
      (does_releaseAll _ _) rfl
  exact ⟨_, worked⟩

/-! ### Builds -/

/-- Early instances are made and called one after the other. -/
theorem traced_createEarly (indexed : Indexed c) (held : Held c others) (names : List String) :
    ∃ ds more, Adds [] c ds (c.createEarly names).2 others more ∧
      ∀ x ∈ more, Trace c (c.createEarly names).2 ds x.1 x.2 := by
  induction names generalizing c with
  | nil => exact ⟨[], [], .refl held, by simp⟩
  | cons name rest ih =>
      have logged := proceeds_log c .info s!"Creating early instance '{name}'"
      have noted : Adds [] c [] (c.announced name) others [] :=
        .idle logged.only (logged.tends held)
      obtain ⟨ds, more, chain, told, traced⟩ := (runs_create (c.announced name) name).traced
        (noted.goes.indexed indexed) noted.tends.held rfl rfl
      have created := noted.andThen told.adds
      have before : ∀ x ∈ more,
          Trace c ((c.announced name).create name).2 ([] ++ ds) x.1 x.2 := fun x member =>
        (traced x member).prepend logged.does (fun _ _ => rfl) (told.adds.newer member)
      unfold createEarly
      rw [show c.log .info _ = c.announced name from rfl]
      cases made : (c.announced name).create name with
      | mk r after =>
          rw [made] at told created before
          cases r with
          | error e => exact ⟨_, _, created, before⟩
          | ok id =>
              have released := created.release
              have indexed' := released.goes.indexed indexed
              obtain ⟨es, more', later, traced'⟩ := ih indexed' released.tends.held
              have all := released.andThen later
              refine ⟨_, _, all, fun x member => ?_⟩
              rcases List.mem_append.1 member with old | new
              · obtain ⟨rfl, _⟩ := told.done id rfl
                have furnished := (told.furnished x old).resolve_left List.not_mem_nil
                have last := (Adds.refl told.adds.tends.held).release.andThen later
                have final := furnished.append
                  (told.adds.goes.indexed (noted.goes.indexed indexed))
                  (told.adds.owned ▸ List.mem_append_right _ old) List.not_mem_nil last
                exact .of_furnished final all.tends.does
                  (all.tends.held.live x (all.owned ▸ List.mem_append_right _ member))
              · exact (traced' x new).prepend released.tends.does
                  (fun y newer => released.spared List.not_mem_nil (.inr newer)) (later.newer new)

/-- What comes before, and does nothing, is no part of what is worked on. -/
theorem Works.after {root : Option String} {b : Context σ} (works : Works root b ds c')
    (does : c.host.Does [] b.host) : Works root c ds c' := by
  refine ⟨does.trans works.does, fun id member => ?_, works.only⟩
  obtain ⟨name, stands, trace⟩ := works.traced id member
  exact ⟨name, stands, trace.prepend does (fun _ _ => rfl) (works.does.born.1 member).1⟩

theorem works_start (owned : c.owned = []) (index : c.index = []) (held : Held c others)
    (avoidEarly : Bool) : ∃ ds, Works none c ds (c.start avoidEarly).2 := by
  obtain ⟨names, same⟩ := start_eq_createEarly c avoidEarly
  have indexed : Indexed c.publish.2 :=
    (consistent_of_owned_nil (c := c.publish.2) owned index).toIndexed
  obtain ⟨ds, more, adds, traced⟩ := traced_createEarly indexed (held_publish held) names
  rw [same]
  exact ⟨ds, (Works.of_adds adds traced).after (Host.Moves.enter c.host _).does⟩

/-- **A build works on what it makes**, and tears that down if it fails. -/
theorem worked_build {host : Host σ} (fresh : host.heap.Fresh) (environment : Environment)
    (document : Document) (options : Options) :
    ∃ work, Worked document
      ⟨none, blank host environment document options, erected host environment document options,
        (build host environment document options).2⟩ work := by
  have scan : (blank host environment document options).host.Does []
      (opened host environment document options).host := (Host.Moves.scan host).does
  unfold erected
  cases scanned : host.scan.1 with
  | error e =>
      rw [build_eq_scan scanned]
      exact ⟨([], []), .of_works rfl (.idle scan) (.nothing _) (by simp) fun _ => rfl⟩
  | ok u =>
      have held := held_opened fresh environment document options
      obtain ⟨ds, works⟩ := works_start rfl rfl held options.avoidEarly
      have kept := (goes_start (opened host environment document options)
        options.avoidEarly).extended.document
      have tended := tended_start held options.avoidEarly
      rw [build_eq_start scanned]
      cases start : (opened host environment document options).start options.avoidEarly with
      | mk r c =>
          rw [start] at works kept tended
          cases r with
          | ok u =>
              refine ⟨(ds, []), .of_works kept (works.after scan) ?_ (by simp) fun _ => rfl⟩
              exact (Host.Moves.enter c.host _).does
          | error e =>
              have abandoned : Held (c.abandoned e) host.heap.handles :=
                ((proceeds_log c .error _).tends tended.held).held
              have report : c.host.Does [] (c.abandoned e).host := (Host.Moves.enter c.host _).does
              obtain ⟨es, worked⟩ : ∃ es, Worked document ⟨none,
                  blank host environment document options, c, (c.abandoned e).shutdown⟩ (ds, es) :=
                worked_shutdown kept (works.after scan) report rfl rfl abandoned (.nothing _) rfl
              exact ⟨_, worked⟩

/-! ## A whole life -/

def deeds (works : List (List Deed × List Deed)) : List Deed :=
  works.flatMap fun work => work.1 ++ work.2

omit [Lifecycle σ] in
theorem deeds_append (works : List (List Deed × List Deed)) (work : List Deed × List Deed) :
    deeds (works ++ [work]) = deeds works ++ (work.1 ++ work.2) := by
  simp [deeds]

/-- What was made in these turns was called as it was in its own turn, and then cleaned up at most;
and all that was called or made is older than `next`. -/
structure Past (works : List (List Deed × List Deed)) (next : ObjectId) : Prop where
  older : ∀ d ∈ deeds works, ∀ x, d.callee = some x → x < next
  born : ∀ work ∈ works, ∀ id ∈ madeIn work.1, id < next
  calls : ∀ work ∈ works, ∀ id ∈ madeIn work.1, ∃ cleanups,
    callsOn id (deeds works) = callsOn id work.1 ++ cleanups ∧
      ∀ d ∈ cleanups, ∃ r, d = .called id cleanupHook r
  rung : ∀ work ∈ works, ∀ id ∈ madeIn work.1,
    (hookCalls doneHook ((callsOn id work.1).filterMap Deed.event?)).length ≤ 1

namespace Past

variable {works : List (List Deed × List Deed)} {work : List Deed × List Deed} {n m : ObjectId}

theorem mono (past : Past works n) (le : n ≤ m) : Past works m :=
  ⟨fun d member x callee => Nat.lt_of_lt_of_le (past.older d member x callee) le,
    fun work member id made => Nat.lt_of_lt_of_le (past.born work member id made) le, past.calls,
    past.rung⟩

theorem nil (n : ObjectId) : Past [] n := ⟨by simp [deeds], by simp, by simp, by simp⟩

/-- One more turn. -/
theorem snoc {turn : Turn σ} (past : Past works turn.first.host.heap.next)
    (worked : Worked document turn work) (indexed : Indexed turn.last) :
    Past (works ++ [work]) turn.after.host.heap.next := by
  have does := worked.works.does
  have next := worked.ends.next_le
  have fresh : ∀ id ∈ madeIn work.1, turn.first.host.heap.next ≤ id ∧
      id < turn.last.host.heap.next := fun id => does.born.1
  have cleaned (id : ObjectId) : ∀ d ∈ callsOn id work.2, ∃ r, d = .called id cleanupHook r := by
    intro d member
    obtain ⟨there, mine⟩ := List.mem_filter.1 member
    obtain ⟨x, _, r, rfl⟩ := worked.cleanups d there
    obtain rfl : x.2 = id := by simpa [Deed.callee] using mine
    exact ⟨r, rfl⟩
  refine ⟨?_, ?_, ?_, ?_⟩
  · intro d member x callee
    rw [deeds_append] at member
    rcases List.mem_append.1 member with old | new
    · exact Nat.lt_of_lt_of_le (past.older d old x callee) (Nat.le_trans does.next_le next)
    · refine Nat.lt_of_lt_of_le ?_ next
      rcases List.mem_append.1 new with new | last
      · exact (fresh x (worked.works.only d new x callee)).2
      · obtain ⟨y, owned, r, rfl⟩ := worked.cleanups d last
        cases callee
        exact indexed.fresh y owned
  · intro other member id made
    rcases List.mem_append.1 member with old | new
    · exact Nat.lt_of_lt_of_le (past.born other old id made) (Nat.le_trans does.next_le next)
    · rw [List.mem_singleton.1 new] at made
      exact Nat.lt_of_lt_of_le (fresh id made).2 next
  · intro other member id made
    rw [deeds_append, callsOn_append, callsOn_append]
    rcases List.mem_append.1 member with old | new
    · -- What was made before is not called again.
      obtain ⟨cleanups, same, only⟩ := past.calls other old id made
      have spared : callsOn id work.1 = [] := callsOn_eq_nil fun d there callee =>
        absurd (past.born other old id made)
          (Nat.not_lt.2 (fresh id (worked.works.only d there id callee)).1)
      refine ⟨cleanups ++ callsOn id work.2, ?_, ?_⟩
      · rw [same, spared, List.nil_append, List.append_assoc]
      · intro d member
        exact (List.mem_append.1 member).elim (only d) (cleaned id d)
    · -- What was made now was not called before.
      rw [List.mem_singleton.1 new] at made ⊢
      have spared : callsOn id (deeds works) = [] := callsOn_eq_nil fun d there callee =>
        absurd (past.older d there id callee) (Nat.not_lt.2 (fresh id made).1)
      exact ⟨_, by rw [spared, List.nil_append], cleaned id⟩
  · intro other member id made
    rcases List.mem_append.1 member with old | new
    · exact past.rung other old id made
    · rw [List.mem_singleton.1 new] at made ⊢
      obtain ⟨_, _, trace⟩ := worked.works.traced id made
      exact trace.rung_once

end Past

theorem indexed_erected (host : Host σ) (environment : Environment) (document : Document)
    (options : Options) : Indexed (erected host environment document options) := by
  unfold erected
  split
  · exact (consistent_start rfl rfl options.avoidEarly).toIndexed
  · exact (consistent_of_owned_nil rfl rfl).toIndexed

theorem indexed_creations (indexed : Indexed c) (call : Operation) :
    Indexed (c.creations call) := by
  by_cases last : call = .shutdown
  · rw [last]
    exact indexed
  · rw [creations_eq_operate c last]
    exact (goes_operate c last).indexed indexed

theorem Life.past {turns : List (Turn σ)} {state : Option (Context σ)}
    (life : Life document turns state) :
    ∃ works next, List.Forall₂ (Worked document) turns works ∧ Past works next ∧
      ∀ c, state = some c →
        Reached document c ∧ c.host.Anchors ∧ next ≤ c.host.heap.next := by
  have andThen {turns : List (Turn σ)} {turn : Turn σ} {works : List (List Deed × List Deed)}
      {work : List Deed × List Deed} (before : List.Forall₂ (Worked document) turns works)
      (worked : Worked document turn work) :
      List.Forall₂ (Worked document) (turns ++ [turn]) (works ++ [work]) :=
    List.rel_append before (.cons worked .nil)
  -- Identities only grow, so what a turn makes is apart from all that earlier turns called.
  induction life with
  | @built host fresh anchors environment options =>
      obtain ⟨work, worked⟩ := worked_build fresh environment document options
      have past := (Past.nil _).snoc worked (indexed_erected host environment document options)
      refine ⟨[work], _, .cons worked .nil, past, ?_⟩
      rintro _ ⟨⟩
      have does := worked.works.does.trans worked.ends
      exact ⟨.built fresh environment options, does.anchors anchors, Nat.le_refl _⟩
  | @next turns c c' label life happens ih =>
      obtain ⟨works, next, worked, past, now⟩ := ih
      obtain ⟨reached, anchors, later⟩ := now c rfl
      obtain ⟨others, held⟩ := reached.held
      have reached' := reached.next happens
      cases happens with
      | @called call fair =>
          obtain ⟨work, turn⟩ := worked_operate reached.document_eq anchors reached.indexed held call
          have past := (past.mono later).snoc turn (indexed_creations reached.indexed call)
          refine ⟨_, _, andThen worked turn, past, ?_⟩
          rintro _ ⟨⟩
          exact ⟨reached', (turn.works.does.trans turn.ends).anchors anchors, Nat.le_refl _⟩
      | aside environment moves handles =>
          refine ⟨works, next, ?_, past, ?_⟩
          · rw [show Option.toList none = [] from rfl, List.map_nil, List.append_nil]
            exact worked
          · rintro _ ⟨⟩
            exact ⟨reached', moves.anchors anchors, Nat.le_trans later moves.does.next_le⟩
  | ended life ih =>
      obtain ⟨works, next, worked, past, now⟩ := ih
      obtain ⟨reached, anchors, later⟩ := now _ rfl
      obtain ⟨others, held⟩ := reached.held
      obtain ⟨work, turn⟩ := worked_close reached.document_eq held
      exact ⟨_, _, andThen worked turn, (past.mono later).snoc turn reached.indexed, by simp⟩

/-- **The calls of each instance.**  In a life of a context, whatever becomes of it, an instance is
called in the turn that makes it, as it is declared, and from then on only to clean up; its hook is
called once at most. -/
theorem calls_of_life {turns : List (Turn σ)} {state : Option (Context σ)}
    (life : Life document turns state) :
    ∃ works, List.Forall₂ (Worked document) turns works ∧
      ∀ work ∈ works, ∀ id ∈ madeIn work.1,
        (∃ cleanups, callsOn id (deeds works) = callsOn id work.1 ++ cleanups ∧
          ∀ d ∈ cleanups, ∃ r, d = .called id cleanupHook r) ∧
        (hookCalls doneHook ((deeds works).filterMap Deed.event?)).count id ≤ 1 := by
  obtain ⟨works, next, worked, past, _⟩ := life.past
  refine ⟨works, worked, fun work member id made => ?_⟩
  obtain ⟨cleanups, all, only⟩ := past.calls work member id made
  refine ⟨⟨cleanups, all, only⟩, ?_⟩
  have none : hookCalls doneHook (cleanups.filterMap Deed.event?) = [] := by
    apply hookCalls_eq_nil
    rintro d member x r rfl
    obtain ⟨_, same⟩ := only _ member
    exact absurd (Deed.called.inj same).2.1 (by decide)
  rw [count_hookCalls, all, List.filterMap_append, hookCalls_append, none, List.append_nil]
  exact past.rung work member id made

/-- A ring with an entry that does not apply and one without a name; an instance whose `done` is a
property; and one whose hook fails. -/
def staged : Document where
  instances := [
    { name := "a", className := some "oracle::Ring", init := .early,
      properties := [{ name := some "label", text := some "off", gate := some "no" },
        { text := some "nameless" }, { name := some "next", reference := some "b" }] },
    { name := "b", className := some "oracle::Ring" },
    { name := "o", className := some "oracle::Odd", init := .early,
      properties := [{ name := some "done", text := some "set" }] },
    { name := "f", className := some "oracle::Fail",
      properties := [{ name := some "done-mode", text := some "state" }] }]

theorem calls_of_life_staged :
    let start := (build Sample.host .empty staged {}).2
    let c := start.operateAll [.createDetached "f", .create "b"]
    c.owned = [("a", 0), ("b", 1), ("o", 2)] ∧ hookCalls doneHook c.host.journal = [1, 0, 3] ∧
      ∃ (turns : List (Turn Sample)) (works : List (List Deed × List Deed)),
        Life staged turns none ∧ List.Forall₂ (Worked staged) turns works ∧
          ∀ work ∈ works, ∀ id ∈ madeIn work.1,
            (∃ cleanups, callsOn id (deeds works) = callsOn id work.1 ++ cleanups ∧
              ∀ d ∈ cleanups, ∃ r, d = .called id cleanupHook r) ∧
            (hookCalls doneHook ((deeds works).filterMap Deed.event?)).count id ≤ 1 := by
  intro start c
  have none : (Sample.host : Host Sample).Anchors := fun x handle => absurd handle List.not_mem_nil
  have called (c : Context Sample) (call : Operation) (fair : Fair c call) :
      Happens c (some call) (c.operate call) := .called fair
  let failed := start.operate (.createDetached "f")
  have built : Life staged _ (some start) := .built Heap.fresh_empty none .empty {}
  have later := built.next (called start (.createDetached "f") trivial)
  have found : Life staged _ (some c) := later.next (called failed (.create "b") trivial)
  have life := (found.next (called c .shutdown trivial)).ended
  obtain ⟨works, worked, calls⟩ := calls_of_life life
  exact ⟨by decide +kernel, by decide +kernel, _, works, life, worked, calls⟩

end Wiring.Context
