/-
# Wiring.Proofs.Creation.Trace -- the calls that each instance gets

Of all that a creation does to an instance that it makes, the declaration of the
instance tells what it is and in which order (`Trace`): the entries that their gates
let apply are set one by one up to the first that fails, and the hook is called at the
end if none has.

A creation calls nothing but what it makes itself, and each of these has a trace
(`Works`), be the root kept (`works_create`) or not (`works_createDetached`).
-/
import Wiring.Proofs.Creation.Failure
import Wiring.Proofs.Creation.Reach
import Wiring.Proofs.Host.Presence

namespace Wiring.Context

set_option autoImplicit false

open Wiring.Component
open Wiring.Document (Property View openWords)

variable {σ : Type}

/-! ## Gates -/

/-- The entries of the declaration of a name that have no gate, or one that expands to an open
word. -/
def gated (c : Context σ) (name : String) : List Property :=
  (((c.view name).declaration?.map (·.properties)).getD []).filter fun p =>
    p.gate.all fun gate => openWords.contains (c.expand gate).1

theorem applying_value (v : View) (ps : List Property) :
    (v.applying ps).value = ps.filter fun p =>
      p.gate.all fun gate => openWords.contains (v.environment.expand gate).value := by
  have applies (p : Property) : (v.applies p).value =
      p.gate.all fun gate => openWords.contains (v.environment.expand gate).value := by
    unfold View.applies
    cases p.gate <;> rfl
  induction ps with
  | nil => rfl
  | cons p ps ih =>
      simp only [View.applying, Logging.Logged.value_bind, Logging.Logged.value_pure, applies, ih,
        List.filter_cons]

/-- The entries that are gone through are those that their gates let apply. -/
theorem properties_eq_gated (c : Context σ) (name : String) : c.properties name = c.gated name :=
  applying_value _ _

/-! ## Traces -/

variable [Lifecycle σ] {own others : List ObjectId} {b c c' c₁ : Context σ} {ds es : List Deed}
  {more chain : List (String × ObjectId)} {name target : String} {id : ObjectId} {e : Error}

/-- All calls of an instance that was made in the course of these deeds. -/
inductive Trace (c c' : Context σ) (ds : List Deed) (name : String) (id : ObjectId) : Prop where
  /-- All entries were set, and then the hook was called if the instance has one. -/
  | finished {calls : List Deed} {has : Bool} {r : Except Error Unit}
      (sets : c'.Sets name id (c'.gated name) calls)
      (bears : c.host.Bears ds c'.host id doneHook has)
      (called : callsOn id ds = calls ++ if has then [.called id doneHook r] else [])
  /-- An entry failed: it was refused a value, or its value was not accepted, or what it refers to
  could not be had, for which other new instances may have been begun.  It was the last. -/
  | halted {e : Error} {chain : List (String × ObjectId)}
      (stuck : Stuck c c' ds e (.filling name id (c'.gated name)) chain)
      (newer : ∀ x ∈ chain, c.host.heap.next ≤ x.2)

namespace Trace

theorem rests (trace : Trace c b ds name id) (rests : Rests b c') : Trace c c' ds name id := by
  have gated : c'.gated name = b.gated name := by
    rw [← properties_eq_gated, ← properties_eq_gated, rests.extended.properties]
  cases trace with
  | finished sets bears called =>
      have bears := bears.append rests.does
      rw [List.append_nil] at bears
      exact .finished (gated ▸ sets.mono rests.upholds) bears called
  | halted stuck newer => exact .halted (gated ▸ stuck.rests rests) newer

/-- What was done before to older instances is no part of a trace. -/
theorem prepend (trace : Trace c₁ c' es name id) (does : c.host.Does ds c₁.host)
    (spared : ∀ x, c₁.host.heap.next ≤ x → callsOn x ds = []) (new : c₁.host.heap.next ≤ id) :
    Trace c c' (ds ++ es) name id := by
  cases trace with
  | finished sets bears called =>
      have same : callsOn id (ds ++ es) = callsOn id es := by
        rw [callsOn_append, spared id new, List.nil_append]
      exact .finished sets (bears.prepend does) (same.trans called)
  | halted stuck newer =>
      refine .halted (stuck.prepend does ?_) fun x member =>
        Nat.le_trans does.next_le (newer x member)
      intro x member
      rcases List.mem_append.1 member with mine | member
      · rw [List.mem_singleton.1 mine]
        exact spared id new
      · obtain ⟨y, there, rfl⟩ := List.mem_map.1 member
        exact spared y.2 (newer y there)

/-- An instance that is furnished has all its calls. -/
theorem of_furnished {x : String × ObjectId} (furnished : c'.Furnished ds x)
    (does : c.host.Does ds c'.host) (live : c'.host.heap.isLive x.2) : Trace c c' ds x.1 x.2 := by
  obtain ⟨calls, sets, called⟩ := furnished
  rw [properties_eq_gated] at sets
  exact .finished sets (.last does live) called

/-- The hook is called once at most. -/
theorem rung_once (trace : Trace c c' ds name id) :
    (hookCalls doneHook ((callsOn id ds).filterMap Deed.event?)).length ≤ 1 := by
  cases trace with
  | @finished calls has r sets bears called =>
      have none : hookCalls doneHook (calls.filterMap Deed.event?) = [] := by
        apply hookCalls_eq_nil
        rintro d member id r rfl
        obtain ⟨_, _, injected⟩ := sets.injected member
        cases injected
      rw [called, List.filterMap_append, hookCalls_append, none]
      cases has <;> simp [Deed.event?, hookCalls]
  | halted stuck newer =>
      rw [hookCalls_eq_nil]
      · exact Nat.zero_le 1
      · rintro d member id r rfl
        obtain ⟨_, _, _, injected⟩ := stuck.injected member
        cases injected

end Trace

/-- So have those on the way to a failure. -/
theorem Stuck.traced {job : Job} (stuck : Stuck c c' ds e job chain) (does : c.host.Does ds c'.host)
    (rings : ∀ id r, .called id doneHook r ∈ ds → c'.host.hasHook id doneHook)
    (live : ∀ x ∈ chain, c'.host.heap.isLive x.2) (newer : ∀ x ∈ chain, c.host.heap.next ≤ x.2) :
    ∀ x ∈ chain, Trace c c' ds x.1 x.2 := by
  induction stuck with
  | astray leads => simp
  | unfit leads absent unfit => simp
  | @undone keep name target id calls leads sets called =>
      intro x member
      rw [List.mem_singleton.1 member]
      have last : Deed.called id doneHook (.error e) ∈ callsOn id ds :=
        called ▸ List.mem_append_right _ (List.mem_singleton_self _)
      have bears : c.host.Bears ds c'.host id doneHook (c'.host.hasHook id doneHook) :=
        .last does (live (target, id) (List.mem_singleton_self _))
      rw [rings id _ (List.mem_of_mem_filter last)] at bears
      rw [properties_eq_gated] at sets
      exact .finished sets bears called
  | @unfilled keep name target id chain leads stuck ih =>
      rw [properties_eq_gated] at stuck
      intro x member
      have later := fun x member => newer x (List.mem_cons_of_mem _ member)
      rcases List.mem_cons.1 member with rfl | member
      · exact .halted stuck later
      · exact ih (fun x member => live x (List.mem_cons_of_mem _ member)) later x member
  | refused sets named direct offered called => simp
  | rejected sets named means called => simp
  | deeper sets named refers called stuck ih => exact ih live newer

theorem events_unique {h h' : Host σ} (first : h.Does ds h') (second : h.Does es h') :
    ds.filterMap Deed.event? = es.filterMap Deed.event? := by
  obtain ⟨_, follows, calls⟩ := first.journal
  obtain ⟨_, follows', calls'⟩ := second.journal
  rw [← calls, ← calls', follows.unique follows']

/-- The hook of a new instance is called only of those that have one. -/
theorem Dealing.rings (dealing : Dealing own c c' others) (does : c.host.Does ds c'.host)
    {r : Except Error Unit} (called : .called id doneHook r ∈ ds) :
    c'.host.hasHook id doneHook := by
  obtain ⟨es, deals⟩ := dealing
  have entered : Event.called id doneHook ∈ ds.filterMap Deed.event? :=
    List.mem_filterMap.2 ⟨_, called, rfl⟩
  rw [events_unique does deals.tends.does] at entered
  obtain ⟨d, member, same⟩ := List.mem_filterMap.1 entered
  cases d with
  | made id => cases same
  | injected id property value outcome => cases same
  | called id' hook outcome =>
      cases same
      exact (deals.rings id outcome member).2

/-- **All that a run adds has a trace.** -/
theorem Runs.traced {job : Job} {r : Except Error ObjectId} (runs : Runs job c r c')
    (indexed : Indexed c) (held : Held c others) (ready : job.Ready c) (kept : job.Kept) :
    ∃ ds more chain, Told job c r c' others ds more chain ∧
      ∀ x ∈ more, Trace c c' ds x.1 x.2 := by
  obtain ⟨ds, more, chain, told⟩ := runs.told indexed held ready
  have adds := told.adds
  have does := adds.tends.does
  have live : ∀ x ∈ more, c'.host.heap.isLive x.2 := fun x member =>
    adds.tends.held.live x (adds.owned ▸ List.mem_append_right _ member)
  refine ⟨ds, more, chain, told, fun x member => ?_⟩
  rcases told.furnished x member with failed | furnished
  · cases r with
    | ok answer =>
        rw [(told.done answer rfl).1] at failed
        exact absurd failed List.not_mem_nil
    | error e =>
        refine (told.stuck e rfl).traced does ?_ ?_ ?_ x failed
        · exact fun id r called => (runs.deals held kept).1.rings does called
        · exact fun y there => live y (told.sublist.subset there)
        · exact fun y there => adds.newer (told.sublist.subset there)
  · exact .of_furnished furnished does (live x member)

/-! ## What a creation works on -/

/-- Under which name an instance was made: that under which it is owned, or that which the name of a
root leads to that is not kept. -/
def Stands (c : Context σ) (root : Option String) (name : String) (id : ObjectId) : Prop :=
  (name, id) ∈ c.owned ∨ ∃ asked, root = some asked ∧ c.leadsTo asked = .ok name

/-- By these deeds a context made instances and called these only, and each of them has a trace. -/
structure Works (root : Option String) (c : Context σ) (ds : List Deed) (c' : Context σ) :
    Prop where
  does : c.host.Does ds c'.host
  traced : ∀ id ∈ madeIn ds, ∃ name, c'.Stands root name id ∧ Trace c c' ds name id
  only : ∀ d ∈ ds, ∀ x, d.callee = some x → x ∈ madeIn ds

namespace Works

variable {root : Option String}

theorem idle (does : c.host.Does [] c'.host) : Works root c [] c' :=
  ⟨does, by simp [madeIn], by simp⟩

theorem rests (works : Works root c ds b) (rests : Rests b c') : Works root c ds c' := by
  have does := works.does.trans rests.does
  rw [List.append_nil] at does
  refine ⟨does, fun id member => ?_, works.only⟩
  obtain ⟨name, stands, trace⟩ := works.traced id member
  refine ⟨name, ?_, trace.rests rests⟩
  rcases stands with owned | ⟨asked, same, leads⟩
  · exact .inl (rests.only.owned ▸ owned)
  · exact .inr ⟨asked, same, (rests.extended.leadsTo asked).trans leads⟩

theorem of_adds (adds : Adds [] c ds c' others more) (traced : ∀ x ∈ more, Trace c c' ds x.1 x.2) :
    Works root c ds c' := by
  refine ⟨adds.tends.does, fun id member => ?_, ?_⟩
  · rw [adds.made] at member
    obtain ⟨x, there, rfl⟩ := List.mem_map.1 member
    exact ⟨x.1, .inl (adds.owned ▸ List.mem_append_right _ there), traced x there⟩
  · intro d member x callee
    rw [adds.tends.does.born]
    exact (adds.called d member x callee).resolve_left List.not_mem_nil

end Works

/-- **A creation calls what it makes, each as it is declared.** -/
theorem works_create (indexed : Indexed c) (held : Held c others) (name : String) :
    ∃ ds, Works none c ds (c.create name).2 := by
  obtain ⟨ds, more, chain, told, traced⟩ :=
    (runs_create c name).traced indexed held rfl rfl
  exact ⟨ds, .of_adds told.adds traced⟩

/-! ## Roots that are not kept -/

section Detached

variable {left : List ObjectId} {ps : List Property} (wants : Wants c name target)
  (built : (c.noted name).instantiate target = (.ok id, c₁)) (held : Held c others)

include wants built held

/-- A root is made, filled, and then called. -/
theorem works_around {r : Except Error ObjectId}
    (filling : Told (.filling target id ps) (c₁.begun false target id) r b (id :: others) ds more
      chain)
    (last : Adds [id] b es c' left [])
    (root : Trace c c' ([.made id] ++ (ds ++ es)) target id)
    (traced : ∀ x ∈ more, Trace (c₁.begun false target id) c' (ds ++ es) x.1 x.2) :
    Works (some name) c ([.made id] ++ (ds ++ es)) c' := by
  have begun := (tends_begun false held built).does
  have inner := filling.adds.andIdle last
  have does := begun.trans inner.tends.does
  have made : madeIn ([.made id] ++ (ds ++ es)) = id :: more.map (·.2) := by
    rw [madeIn_append, inner.made]
    rfl
  refine ⟨does, ?_, ?_⟩
  · intro i member
    rw [made] at member
    rcases List.mem_cons.1 member with rfl | member
    · have grown := (extends_of_begun false built).trans inner.goes.extended
      exact ⟨target, .inr ⟨name, rfl, (grown.leadsTo name).trans wants.leads⟩, root⟩
    · obtain ⟨x, there, rfl⟩ := List.mem_map.1 member
      refine ⟨x.1, .inl (inner.owned ▸ List.mem_append_right _ there), ?_⟩
      exact (traced x there).prepend begun (fun _ _ => rfl) (inner.newer there)
  · intro d member x callee
    rcases List.mem_append.1 member with first | later
    · rw [List.mem_singleton.1 first] at callee
      cases callee
    · rcases inner.called d later x callee with mine | ⟨low, high⟩
      · rw [made, List.mem_singleton.1 mine]
        exact List.mem_cons_self
      · exact does.born.2 ⟨Nat.le_trans begun.next_le low, high⟩

/-- All entries of a root are set, and its hook is called if it has one. -/
theorem works_filled {r : Except Error Unit} (anchors : c.host.Anchors) (indexed : Indexed c)
    (filling : Told (.filling target id ((c₁.enrolled false target id).properties target))
      (c₁.begun false target id) (.ok id) b (id :: others) ds more chain)
    (called : b.callDone target id = (r, c')) :
    Works (some name) c ([.made id] ++ (ds ++ b.finale id r)) c' := by
  have begun := (tends_begun false held built).does
  have last := Adds.finale filling.adds.tends.held called
  have inner := filling.adds.andIdle last
  have indexed' := filling.adds.goes.indexed (indexed.begun false wants built)
  obtain ⟨rfl, calls, sets, set⟩ := filling.done id rfl
  have before := begun.trans filling.adds.tends.does
  have live : b.host.heap.isLive id :=
    before.anchors anchors id (filling.adds.tends.held.handles.mem_iff.2 List.mem_cons_self)
  refine works_around wants built held filling last ?_ fun x member => ?_
  · have bears : c.host.Bears ([.made id] ++ ds) b.host id doneHook (b.host.hasHook id doneHook) :=
      .last before live
    have bears := bears.append last.tends.does
    rw [List.append_assoc] at bears
    have sets := sets.mono (last.goes.extended.upholds indexed' (last.goes.indexed indexed'))
    rw [← show c'.properties target = (c₁.enrolled false target id).properties target from
      inner.goes.extended.properties target, properties_eq_gated] at sets
    have all : callsOn id ([.made id] ++ (ds ++ b.finale id r)) =
        calls ++ if b.host.hasHook id doneHook then [.called id doneHook r] else [] := by
      rw [callsOn_append, callsOn_append, set]
      unfold finale
      split <;> simp [callsOn, Deed.callee]
    exact .finished sets bears all
  · have owned : x ∈ b.owned := filling.adds.owned ▸ List.mem_append_right _ member
    have other := filling.adds.other (silent_of_built built).2.2.1 member
    have furnished := ((filling.furnished x member).resolve_left List.not_mem_nil).append indexed'
      owned other last
    exact .of_furnished furnished inner.tends.does
      (inner.tends.held.live x (inner.owned ▸ List.mem_append_right _ member))

/-- A root cannot be filled. -/
theorem works_unfilled
    (filling : Told (.filling target id ((c₁.enrolled false target id).properties target))
      (c₁.begun false target id) (.error e) b (id :: others) ds more chain)
    (traced : ∀ x ∈ more, Trace (c₁.begun false target id) b ds x.1 x.2) :
    Works (some name) c ([.made id] ++ (ds ++ [])) b := by
  have begun := (tends_begun false held built).does
  refine works_around wants built held filling (.refl filling.adds.tends.held) ?_ ?_
  · have stuck := (filling.stuck e rfl).prepend begun (by intros; rfl)
    rw [← show b.properties target = (c₁.enrolled false target id).properties target from
      filling.adds.goes.extended.properties target, properties_eq_gated] at stuck
    rw [List.append_nil]
    refine .halted stuck fun x member => ?_
    exact Nat.le_trans begun.next_le (filling.adds.newer (filling.sublist.subset member))
  · rwa [List.append_nil]

end Detached

/-- **So does a creation whose root is not kept.** -/
theorem works_createDetached (anchors : c.host.Anchors) (indexed : Indexed c) (held : Held c others)
    (name : String) : ∃ ds, Works (some name) c ds (c.createDetached name).2 := by
  have runs := runs_createDetached c name
  have begun {target : String} {id : ObjectId} {c₁ b : Context σ} {r : Except Error ObjectId}
      (wants : Wants c name target) (built : (c.noted name).instantiate target = (.ok id, c₁))
      (filling : Runs (.filling target id ((c₁.enrolled false target id).properties target))
        (c₁.begun false target id) r b) :=
    filling.traced (indexed.begun false wants built) (tends_begun false held built).held
      (silent_of_built built).2.2.1 trivial
  have noted := (proceeds_take c (c.view name).aliasTarget).does
  generalize c.createDetached name = s at runs ⊢
  obtain ⟨r, c'⟩ := s
  cases runs with
  | live found => exact ⟨[], .idle (Host.Moves.acquire c.host _).does⟩
  | astray missing leads => exact ⟨[], .idle noted⟩
  | followed missing leads found =>
      exact ⟨[], .idle (noted.trans (Host.Moves.acquire _ _).does)⟩
  | unfit wants failed => exact ⟨[], .idle (proceeds_of_unfit failed).does⟩
  | complete wants built filled called =>
      obtain ⟨ds, more, chain, told, _⟩ := begun wants built filled
      exact ⟨_, works_filled wants built held anchors indexed told called⟩
  | undone wants built filled called =>
      obtain ⟨ds, more, chain, told, _⟩ := begun wants built filled
      exact ⟨_, (works_filled wants built held anchors indexed told called).rests (.release _ _)⟩
  | broken wants built failed =>
      obtain ⟨ds, more, chain, told, traced⟩ := begun wants built failed
      exact ⟨_, (works_unfilled wants built held told traced).rests (.release _ _)⟩

end Wiring.Context
