/-
# Wiring.Proofs.Gateway.Validated -- the gateway never runs unvalidated

The state of a listener is its own: no action of another component changes it, be it one of the
gateway or of a library (`Spares`), and an action of its own changes no other (`Minds`).  A running
gateway is guarded as long as this goes for all that is registered or live (`Guarded`).

So a listener whose last call was its hook, with success, is still in the state that the hook
approved of (`Approved`): every step keeps that (`Approved.moves`), and so does every run.  What
`main` is answered with has its hook as its last call, however it was made (`Settled.answer`).
Main statement: `launch_validated`.
-/
import Wiring.Gateway.Service
import Wiring.Proofs.Context.Built
import Wiring.Proofs.Host.Actions
import Wiring.Samples.Platform

namespace Wiring.Gateway

set_option autoImplicit false

open Wiring.Component
open Wiring.Config (Environment)
open Wiring.Context (Settled settled_build)

/-! ## Actions -/

/-- An action leaves the state of every listener as it is. -/
def Spares (action : Action Part) : Prop :=
  ∀ sight id, ∀ c ∈ (action sight id).changes, ∀ l,
    sight c.1 = some (.listener l) → c.2 = .listener l

/-- An action changes no component but its own, and leaves it a listener if it is one. -/
def Minds (action : Action Part) : Prop :=
  ∀ sight id, ∀ c ∈ (action sight id).changes, c.1 = id ∧
    ∀ l, sight id = some (.listener l) → ∃ l', c.2 = .listener l'

theorem spares_update {f : Part → Part} (same : ∀ l, f (.listener l) = .listener l) :
    Spares (update f) := by
  intro sight id c member l seen
  obtain ⟨own, s, there, changed⟩ := mem_changes_update member
  rw [own, there] at seen
  cases seen
  rw [changed, same]

theorem minds_onListener (f : Listener → Listener) : Minds (onListener f) := by
  intro sight id c member
  obtain ⟨own, s, there, changed⟩ := mem_changes_update member
  refine ⟨own, fun l seen => ?_⟩
  rw [there] at seen
  cases seen
  exact ⟨f l, changed⟩

theorem changes_validate (sight : Sight Part) (id : ObjectId) :
    (validate sight id).changes = [] := by
  unfold validate
  split
  · split <;> rfl
  · rfl

theorem minds_validate : Minds validate := by
  intro sight id c member
  rw [changes_validate] at member
  cases member

/-- The hook of a listener approves of nothing but a listener without a fault. -/
theorem fault?_of_validate {sight : Sight Part} {id : ObjectId} {l : Listener}
    (seen : sight id = some (.listener l)) (approved : (validate sight id).outcome = .ok ()) :
    l.fault? = none := by
  unfold validate at approved
  simp only [seen] at approved
  cases fault : l.fault? with
  | none => rfl
  | some e =>
      rw [fault] at approved
      cases approved

theorem fault?_eq_none_iff {l : Listener} :
    l.fault? = none ↔ l.router.isSome ∧ l.poll ≠ 0 := by
  unfold Listener.fault?
  cases l.router <;> by_cases zero : l.poll = 0 <;> simp [zero]

/-! ## Blueprints, factories and libraries -/

def listenerBlueprint : Blueprint Part :=
  ⟨listenerComponent.className, listenerType, listenerComponent.wanted⟩

theorem minds_of_runs {action : Action Part} (runs : listenerBlueprint.Runs action) :
    Minds action := by
  obtain ⟨e, member, runs⟩ := runs
  simp only [listenerBlueprint, listenerComponent, List.mem_cons, List.not_mem_nil, or_false]
    at member
  rcases member with rfl | rfl | rfl | rfl | rfl | rfl | rfl <;> cases runs <;>
    first
    | exact minds_onListener _
    | exact minds_validate

/-- A type is that of listeners, or its actions spare them. -/
structure Fits (b : Blueprint Part) : Prop where
  own : b.typeName = listenerType → b = listenerBlueprint
  other : b.typeName ≠ listenerType → ∀ action, b.Runs action → Spares action

/-- Factories of such types, of which those for listeners make listeners. -/
structure FitFactory (f : Factory Part) : Prop where
  blueprint : Fits f.blueprint
  make : f.blueprint.typeName = listenerType → ∀ s, f.make = .ok s → ∃ l, s = .listener l

/-- What a library registers is foreign to the gateway: none of its types is that of listeners, nor
can be used as such, and its actions leave listeners alone.  The type of listeners is the program's
own, and so are its fields, so no library can name the one or get at the others. -/
structure Foreign (r : Registry Part) : Prop where
  types : ∀ e ∈ r.factories, e.2.blueprint.typeName ≠ listenerType
  spares : ∀ e ∈ r.factories, ∀ action, e.2.blueprint.Runs action → Spares action
  casts : ∀ e ∈ r.casts, e.ancestor ≠ listenerType

/-- All that can be loaded is foreign to the gateway. -/
def Apart (openLibrary : String → Except String (Library Part)) : Prop :=
  ∀ path l status staged, openLibrary path = .ok l → l.entry = .ok (status, staged) →
    Foreign staged

/-! ### Guests -/

/-- An action changes no states but those that it sees. -/
def Sighted (action : Action Sample) : Prop :=
  ∀ sight id, ∀ c ∈ (action sight id).changes, (sight c.1).isSome

/-- Guests do not see listeners. -/
theorem spares_guest {own : Action Sample} (sighted : Sighted own) :
    Spares (guests.action own) := by
  intro sight id c member l seen
  obtain ⟨change, there, rfl⟩ := List.mem_map.1 member
  have visible := sighted _ id change there
  rw [show sight change.1 = _ from seen] at visible
  cases visible

/-- A library for states of its own is foreign to the gateway, if it has types of its own. -/
theorem foreign_guests {r : Registry Sample}
    (types : ∀ e ∈ r.factories, e.2.blueprint.typeName ≠ listenerType)
    (sighted : ∀ e ∈ r.factories, ∀ action, e.2.blueprint.Runs action → Sighted action)
    (casts : ∀ e ∈ r.casts, e.ancestor ≠ listenerType) : Foreign (guests.registry r) := by
  refine ⟨fun e member => ?_, fun e member action runs => ?_, casts⟩
  · obtain ⟨own, there, rfl⟩ := List.mem_map.1 member
    exact types own there
  · obtain ⟨own, there, rfl⟩ := List.mem_map.1 member
    obtain ⟨binding, bound, runs⟩ := runs
    obtain ⟨kept, among, rfl⟩ := List.mem_map.1 bound
    obtain ⟨action, set, rfl⟩ := guests.runs_binding runs
    exact spares_guest (sighted own there action ⟨kept, among, set⟩)

/-! ### The gateway's own types -/

theorem fit_sink {f : Factory Part} (made : sinkComponent.factory = .ok f) : FitFactory f := by
  cases eq_of_factory made
  have apart : sinkComponent.typeName ≠ listenerType := by decide
  refine ⟨⟨fun same => absurd same apart, fun _ action runs => ?_⟩, fun same => absurd same apart⟩
  obtain ⟨e, member, runs⟩ := runs
  cases List.mem_singleton.1 member
  cases runs
  exact spares_update fun _ => rfl

theorem fit_router {f : Factory Part} (made : routerComponent.factory = .ok f) : FitFactory f := by
  cases eq_of_factory made
  have apart : routerComponent.typeName ≠ listenerType := by decide
  refine ⟨⟨fun same => absurd same apart, fun _ action runs => ?_⟩, fun same => absurd same apart⟩
  obtain ⟨e, member, runs⟩ := runs
  simp only [routerComponent, List.mem_cons, List.not_mem_nil, or_false] at member
  rcases member with rfl | rfl | rfl | rfl <;> cases runs <;> exact spares_update fun _ => rfl

theorem fit_listener {f : Factory Part} (made : listenerComponent.factory = .ok f) :
    FitFactory f := by
  cases eq_of_factory made
  refine ⟨⟨fun _ => rfl, fun other => absurd rfl other⟩, fun _ s made => ?_⟩
  cases made
  exact ⟨_, rfl⟩

theorem fit_components {c : Component Part} (own : c ∈ components) {f : Factory Part}
    (made : c.factory = .ok f) : FitFactory f := by
  simp only [components, List.mem_cons, List.not_mem_nil, or_false] at own
  rcases own with rfl | rfl | rfl
  · exact fit_sink made
  · exact fit_router made
  · exact fit_listener made

/-- Of the types of the gateway, only listeners can be used as listeners. -/
theorem concrete_of_edges {c : Component Part} (own : c ∈ components) {e : CastEdge}
    (edge : e ∈ c.edges) (listens : e.ancestor = listenerType) : e.concrete = listenerType := by
  have all : ∀ c ∈ components, ∀ e ∈ c.edges, e.ancestor = listenerType →
      e.concrete = listenerType := by decide
  exact all c own e edge listens

/-! ## Guarded gateways -/

/-- The gateway on a platform with these libraries, before anything is registered. -/
def hostOf (openLibrary : String → Except String (Library Part)) : Host Part :=
  { program := ⟨components, openLibrary⟩ }

/-- All that is there, and all that can still be registered, is a listener or leaves listeners
alone. -/
structure Guarded (h : Host Part) : Prop where
  offered : ∀ f, h.program.Offers f → FitFactory f
  linked : ∀ e, h.program.Links e → e.ancestor = listenerType → e.concrete = listenerType
  registered : ∀ e ∈ h.registry.factories, FitFactory e.2
  casts : ∀ e ∈ h.registry.casts, e.ancestor = listenerType → e.concrete = listenerType
  fits : ∀ {id o}, h.object? id = some o → Fits o.blueprint
  listens : ∀ {id o}, h.object? id = some o → o.blueprint.typeName = listenerType →
    ∃ l, o.state = .listener l
  fresh : h.heap.Fresh

variable {openLibrary : String → Except String (Library Part)} {h h' : Host Part}
  {D ds : List Deed} {d : Deed} {id : ObjectId} {action : Action Part}

/-- Before anything is registered, a gateway is guarded by its own types. -/
theorem guarded_of_apart (apart : Apart openLibrary) : Guarded (hostOf openLibrary) where
  offered f offers := by
    rcases offers with ⟨c, own, made⟩ | ⟨path, l, status, staged, className, opened, entry, there⟩
    · exact fit_components own made
    · have foreign := apart path l status staged opened entry
      have other := foreign.types _ there
      exact ⟨⟨fun same => absurd same other, fun _ => foreign.spares _ there⟩,
        fun same => absurd same other⟩
  linked e links listens := by
    rcases links with ⟨c, own, edge⟩ | ⟨path, l, status, staged, opened, entry, there⟩
    · exact concrete_of_edges own edge listens
    · exact absurd listens ((apart path l status staged opened entry).casts e there)
  registered _ member := absurd member List.not_mem_nil
  casts _ member := absurd member List.not_mem_nil
  fits found := by cases found
  listens found := by cases found
  fresh := Heap.fresh_empty

namespace Guarded

/-- A call carries out an action that spares listeners, or one of a listener that minds itself. -/
theorem spares_or_minds (guarded : Guarded h) (acts : h.Acts d id action) :
    Spares action ∨ Minds action := by
  obtain ⟨o, there, runs⟩ := acts.runs
  have fits := guarded.fits there
  by_cases listener : o.blueprint.typeName = listenerType
  · rw [fits.own listener] at runs
    exact .inr (minds_of_runs runs)
  · exact .inl (fits.other listener action runs)

/-- **Every step keeps a gateway guarded.** -/
theorem moves (guarded : Guarded h) (moves : h.Moves ds h') : Guarded h' := by
  obtain ⟨program, adds⟩ := moves.registers
  refine ⟨?_, ?_, ?_, ?_, ?_, ?_, moves.fresh guarded.fresh⟩
  · rw [program]
    exact guarded.offered
  · rw [program]
    exact guarded.linked
  · exact (adds.mono guarded.offered).forall_mem guarded.registered
  · intro e member
    exact (moves.links member).elim (guarded.casts e) (guarded.linked e)
  · intro id o found
    cases moves.comes found with
    | stays before => exact guarded.fits before
    | made _ known blueprint _ => exact blueprint ▸ (guarded.registered _ known).blueprint
    | changed before blueprint _ _ _ => exact blueprint ▸ guarded.fits before
  · intro id o found listener
    cases moves.comes found with
    | stays before => exact guarded.listens before listener
    | made _ known blueprint bare =>
        exact (guarded.registered _ known).make (blueprint ▸ listener) _ bare
    | @changed old _ caller action before blueprint _ acts change =>
        obtain ⟨l, was⟩ := guarded.listens before (blueprint ▸ listener)
        have seen : h.sight id = some (.listener l) := by simp [Host.sight, before, was]
        rcases guarded.spares_or_minds acts with spares | minds
        · exact ⟨l, spares h.sight caller _ change l seen⟩
        · obtain ⟨own, stays⟩ := minds h.sight caller _ change
          exact stays l (own ▸ seen)

end Guarded

/-! ## Approved listeners -/

/-- A listener whose last call was its hook, with success, has no fault. -/
def Approved (D : List Deed) (h : Host Part) : Prop :=
  ∀ id, (callsOn id D).getLast? = some (.called id doneHook (.ok ())) → id < h.heap.next ∧
    ∀ o l, h.object? id = some o → o.blueprint.typeName = listenerType → o.state = .listener l →
      l.fault? = none

theorem approved_nil (h : Host Part) : Approved [] h := fun _ last => nomatch last

/-- A step that does not call a listener leaves its state as it was. -/
theorem Guarded.state_of_uncalled (guarded : Guarded h) (moves : h.Moves ds h')
    (uncalled : callsOn id ds = []) {o : Object Part} {l : Listener} (known : id < h.heap.next)
    (found : h'.object? id = some o) (listener : o.blueprint.typeName = listenerType)
    (state : o.state = .listener l) :
    ∃ old, h.object? id = some old ∧ old.blueprint.typeName = listenerType ∧
      old.state = .listener l := by
  cases moves.comes found with
  | stays before => exact ⟨o, before, listener, state⟩
  | made new _ _ _ => exact absurd known (new ▸ Nat.lt_irrefl _)
  | @changed old d caller action before blueprint done acts change =>
      have type : old.blueprint.typeName = listenerType := blueprint ▸ listener
      obtain ⟨l', was⟩ := guarded.listens before type
      have seen : h.sight id = some (.listener l') := by simp [Host.sight, before, was]
      refine ⟨old, before, type, ?_⟩
      rcases guarded.spares_or_minds acts with spares | minds
      · rw [was, ← state]
        exact (spares h.sight caller _ change l' seen).symm
      · obtain ⟨own, _⟩ := minds h.sight caller _ change
        have called : callsOn id ds = [d] := by simp [callsOn, done, acts.callee, ← own]
        rw [called] at uncalled
        cases uncalled

/-- The hook of a listener leaves it as it is, and succeeds only if there is no fault. -/
theorem Guarded.fault?_of_called (guarded : Guarded h)
    (moves : h.Moves [.called id doneHook (.ok ())] h') {o : Object Part} {l : Listener}
    (found : h'.object? id = some o) (listener : o.blueprint.typeName = listenerType)
    (state : o.state = .listener l) : l.fault? = none := by
  have bound {old : Object Part} {action : Action Part} (before : h.object? id = some old)
      (listens : old.blueprint.typeName = listenerType)
      (acts : h.Acts (.called id doneHook (.ok ())) id action) :
      action = validate ∧ (action h.sight id).outcome = .ok () := by
    cases acts with
    | @called _ _ same _ _ there bound ends =>
        rw [before] at there
        cases there
        rw [(guarded.fits before).own listens] at bound
        cases bound
        exact ⟨rfl, ends⟩
  obtain ⟨action, acts⟩ := moves.acts_of_called rfl
  cases moves.comes found with
  | stays before =>
      obtain ⟨rfl, approved⟩ := bound before listener acts
      have seen : h.sight id = some (.listener l) := by simp [Host.sight, before, state]
      exact fault?_of_validate seen approved
  | made new _ _ _ =>
      obtain ⟨old, before, _⟩ := acts.runs
      have older := guarded.fresh id (Heap.isLive_iff.2 ⟨old, before⟩)
      exact absurd older (new ▸ Nat.lt_irrefl _)
  | changed before blueprint done acts' change =>
      -- the action that changed the listener would be its hook, which changes nothing
      cases done
      cases acts'.callee
      obtain ⟨rfl, _⟩ := bound before (blueprint ▸ listener) acts'
      rw [changes_validate] at change
      cases change

/-- **Every step keeps listeners approved.** -/
theorem Approved.moves (approved : Approved D h) (guarded : Guarded h) (moves : h.Moves ds h') :
    Approved (D ++ ds) h' := by
  intro id last
  rw [callsOn_append] at last
  rcases uncalled : callsOn id ds with _ | ⟨d, rest⟩
  · rw [uncalled, List.append_nil] at last
    obtain ⟨known, sound⟩ := approved id last
    refine ⟨Nat.lt_of_lt_of_le known moves.does.next_le, fun o l found listener state => ?_⟩
    obtain ⟨old, before, type, was⟩ :=
      guarded.state_of_uncalled moves uncalled known found listener state
    exact sound old l before type was
  · obtain rfl : ds = [.called id doneHook (.ok ())] := by
      rcases moves.single with rfl | ⟨only, rfl⟩
      · cases uncalled
      · by_cases mine : only.callee = some id
        · have called : callsOn id [only] = [only] := by simp [callsOn, mine]
          rw [called, List.getLast?_append] at last
          cases last
          rfl
        · have spared : callsOn id [only] = [] := by simp [callsOn, mine]
          rw [spared] at uncalled
          cases uncalled
    obtain ⟨action, acts⟩ := moves.acts_of_called rfl
    obtain ⟨old, before, _⟩ := acts.runs
    have known := guarded.fresh id (Heap.isLive_iff.2 ⟨old, before⟩)
    exact ⟨Nat.lt_of_lt_of_le known moves.does.next_le, fun o l found listener state =>
      guarded.fault?_of_called moves found listener state⟩

/-- **A run keeps a gateway guarded and its listeners approved.** -/
theorem Guarded.does (guarded : Guarded h) (approved : Approved D h) (does : h.Does ds h') :
    Guarded h' ∧ Approved (D ++ ds) h' := by
  induction does generalizing D with
  | nothing h => exact ⟨guarded, by rwa [List.append_nil]⟩
  | step moves rest ih =>
      have first := approved.moves guarded moves
      rw [← List.append_assoc]
      exact ih (guarded.moves moves) first

/-! ## Starting -/

/-- The listener that a gateway runs with has been validated: its properties were set with success,
then its hook was called with success, and nothing has been called since; it has a router, and does
not poll with a zero interval. -/
structure Validated (start : Host Part) (r : Running) : Prop where
  done : ∃ ds calls, start.Does ds r.context.host ∧
    callsOn r.listener ds = calls ++ [.called r.listener doneHook (.ok ())] ∧
    ∀ d ∈ calls, ∃ property value, d = .injected r.listener property value (.ok ())
  listens : r.sight r.listener = some (.listener r.state)
  routed : r.state.router.isSome
  polls : r.state.poll ≠ 0

/-- A record of its own changes nothing. -/
theorem Validated.announce {start : Host Part} {r : Running} (validated : Validated start r) :
    Validated start r.announce := by
  obtain ⟨⟨ds, calls, does, last, injections⟩, listens, routed, polls⟩ := validated
  have announcing : r.context.host.Does [] r.announce.context.host :=
    (Host.Moves.enter r.context.host _).does
  have whole := does.trans announcing
  rw [List.append_nil] at whole
  exact ⟨⟨ds, calls, whole, last, injections⟩, listens, routed, polls⟩

/-- What a guarded gateway can use as a listener is one. -/
theorem Guarded.listener_of_castHandle {c c' : Context Part} {x : ObjectId}
    (guarded : Guarded c.host) (cast : c.castHandle id listenerType = (.ok x, c')) :
    x = id ∧ c' = c ∧ ∃ o l, c.host.object? id = some o ∧ o.blueprint = listenerBlueprint ∧
      o.state = .listener l := by
  unfold Context.castHandle at cast
  split at cast
  · next granted =>
    cases cast
    obtain ⟨o, live, edge⟩ := Host.cast_eq_ok_iff.1 granted
    have type := guarded.casts _ edge rfl
    obtain ⟨l, state⟩ := guarded.listens live type
    exact ⟨rfl, rfl, o, l, live, (guarded.fits live).own type, state⟩
  · cases cast

/-- What a settled context of a guarded gateway gives out as a listener has been validated. -/
theorem validated_of_createAs {c c' : Context Part} (guarded : Guarded h) (does : h.Does D c.host)
    (settled : Settled D c) (made : c.createAs listenerName listenerType = (.ok id, c')) :
    Validated h ⟨c', id⟩ := by
  unfold Context.createAs at made
  cases created : c.create listenerName with
  | mk result after =>
      rw [created] at made
      cases result with
      | error e => cases made
      | ok x =>
          obtain ⟨ds, target, later, calls, sets, last⟩ := settled.answer created
          have whole := does.trans later
          obtain ⟨guarded', approved⟩ := guarded.does (approved_nil h) whole
          obtain ⟨rfl, rfl, o, l, live, blueprint, state⟩ := guarded'.listener_of_castHandle made
          have rings : c'.host.hasHook id doneHook := by
            unfold Host.hasHook
            rw [live, Option.any_some, blueprint]
            rfl
          rw [Context.finale, if_pos rings] at last
          have ended : (callsOn id ([] ++ (D ++ ds))).getLast? =
              some (.called id doneHook (.ok ())) := by
            rw [List.nil_append, last, List.getLast?_append]
            rfl
          have type : o.blueprint.typeName = listenerType := by rw [blueprint]; rfl
          obtain ⟨routed, polls⟩ :=
            fault?_eq_none_iff.1 ((approved id ended).2 o l live type state)
          have seen : (⟨c', id⟩ : Running).sight id = some (.listener l) := by
            simp [Running.sight, Host.sight, live, state]
          have same : (⟨c', id⟩ : Running).state = l := by simp [Running.state, seen]
          exact ⟨⟨D ++ ds, calls, whole, last, fun d member => sets.injected member⟩,
            same ▸ seen, same ▸ routed, same ▸ polls⟩

/-- **The gateway never runs unvalidated.**  On any platform whose libraries are foreign to it, with
any document and any properties: if the gateway gets its listener, then the listener has been
validated, and still is when the gateway has announced it. -/
theorem launch_validated (apart : Apart openLibrary) {environment : Environment}
    {document : Document} {r : Running}
    (launched : launch (hostOf openLibrary) environment document = .ok r) :
    Validated (hostOf openLibrary) r ∧ Validated (hostOf openLibrary) r.announce := by
  unfold launch at launched
  cases built : Context.build (hostOf openLibrary) environment document {} with
  | mk result c =>
      rw [built] at launched
      cases result with
      | error e => cases launched
      | ok u =>
          obtain ⟨D, does, settled⟩ := settled_build Heap.fresh_empty built
          simp only at launched
          cases made : c.createAs listenerName listenerType with
          | mk answer after =>
              rw [made] at launched
              cases answer with
              | error e => cases launched
              | ok id =>
                  cases launched
                  have validated := validated_of_createAs (guarded_of_apart apart) does settled made
                  exact ⟨validated, validated.announce⟩

/-- The gateway on a platform where a library with repeaters is found under every path. -/
def echoing : Host Part := hostWith (Sample.opening (Sample.exporting [Sample.repeaterType]))

theorem sighted_update (f : Sample → Sample) : Sighted (update f) := by
  intro sight id c member
  obtain ⟨own, s, seen, _⟩ := mem_changes_update member
  rw [own, seen]
  rfl

theorem sighted_repeaterDone : Sighted Sample.repeaterDone := by
  intro sight id c member
  have none : (Sample.repeaterDone sight id).changes = [] := by
    unfold Sample.repeaterDone
    split
    · split <;> rfl
    · rfl
  rw [none] at member
  cases member

theorem apart_echoing : Apart echoing.program.openLibrary := by
  intro path l status staged opened entry
  cases opened
  cases entry
  refine foreign_guests ?_ ?_ (by decide)
  · intro e member
    cases List.mem_singleton.1 member
    decide
  · intro e member action runs
    cases List.mem_singleton.1 member
    obtain ⟨binding, bound, runs⟩ := runs
    replace bound : binding ∈ Sample.repeaterType.wanted := bound
    simp only [Sample.repeaterType, List.mem_cons, List.not_mem_nil, or_false] at bound
    rcases bound with rfl | rfl | rfl <;> cases runs
    · exact sighted_update _
    · exact sighted_update _
    · exact sighted_repeaterDone

/-- A listener that is created early, and called `main` by an alias only. -/
def wired : Document where
  aliases := [⟨"main", "gateway"⟩]
  instances := [
    { name := "gateway", className := some "gateway::Gateway", init := .early,
      properties := [{ name := some "poll", time := some "500 us" },
        { name := some "router", reference := some "router" }] },
    { name := "router", className := some "gateway::Router",
      properties := [{ name := some "fallback", reference := some "sink" }] },
    { name := "sink", className := some "gateway::ConsoleSink" }]

theorem launch_validated_wired :
    ∃ r, launch echoing .empty wired = .ok r ∧ Validated echoing r ∧
      Validated echoing r.announce := by
  have started : (launch echoing .empty wired).isOk := by decide +kernel
  cases launched : launch echoing .empty wired with
  | error failure =>
      rw [launched] at started
      cases started
  | ok r => exact ⟨r, rfl, launch_validated apart_echoing launched⟩

end Wiring.Gateway
