/-
# Wiring.Proofs.Host.Deeds -- what a program does with its components

The journal tells which components were called but not how the calls ended.  A `Deed`
does: it is the construction of a component, or the call of a setter or a hook with
its outcome.  A program moves on in steps, each of which does one thing or none
(`Moves`), and `Does h ds h'` says that it came from `h` to `h'` by such steps, doing
`ds` in this order.

Steps leave alone what a handle holds: an object with a handle before and after a
step is still there, and of the same blueprint (`Moves.blueprint?`).
-/
import Wiring.Proofs.Heap.Handles
import Wiring.Proofs.Host.Journal

namespace Wiring

set_option autoImplicit false

open Wiring.Component
open Wiring.Logging (Logged Record)

/-! ## Deeds -/

/-- Something a program does with a component; a call with the way it ended. -/
inductive Deed where
  | made (id : ObjectId)
  | injected (id : ObjectId) (property : String) (value : Given) (outcome : Except Error Unit)
  | called (id : ObjectId) (hook : String) (outcome : Except Error Unit)

def Deed.callee : Deed → Option ObjectId
  | .made _ => none
  | .injected id .. | .called id .. => some id

def Deed.failed : Deed → Bool
  | .injected _ _ _ (.error _) | .called _ _ (.error _) => true
  | _ => false

/-- What is entered in the journal of a call: all but its outcome. -/
def Deed.event? : Deed → Option Event
  | .made _ => none
  | .injected id property value _ => some (.injected id property value)
  | .called id hook _ => some (.called id hook)

def Event.isCall (e : Event) : Bool := e.callee.isSome

theorem Quiet.filter_isCall {es : List Event} (quiet : Quiet es) : es.filter Event.isCall = [] := by
  unfold Quiet callees at quiet
  rw [List.filterMap_eq_nil_iff] at quiet
  rw [List.filter_eq_nil_iff]
  intro e member
  simp [Event.isCall, quiet e member]

def madeIn (ds : List Deed) : List ObjectId :=
  ds.filterMap fun
    | .made id => some id
    | _ => none

def callsOn (id : ObjectId) (ds : List Deed) : List Deed :=
  ds.filter fun d => d.callee == some id

@[simp] theorem madeIn_append (ds es : List Deed) : madeIn (ds ++ es) = madeIn ds ++ madeIn es :=
  List.filterMap_append

@[simp] theorem callsOn_append (id : ObjectId) (ds es : List Deed) :
    callsOn id (ds ++ es) = callsOn id ds ++ callsOn id es := List.filter_append ..

/-- A component that no deed calls has no calls. -/
theorem callsOn_eq_nil {id : ObjectId} {ds : List Deed} (spared : ∀ d ∈ ds, d.callee ≠ some id) :
    callsOn id ds = [] := by
  unfold callsOn
  rw [List.filter_eq_nil_iff]
  intro d member
  simpa using spared d member

/-- The components whose hook of this name was called, in order. -/
def hookCalls (hook : String) (es : List Event) : List ObjectId :=
  es.filterMap fun
    | .called id h => if h = hook then some id else none
    | _ => none

@[simp] theorem hookCalls_append (hook : String) (es fs : List Event) :
    hookCalls hook (es ++ fs) = hookCalls hook es ++ hookCalls hook fs := List.filterMap_append

theorem hookCalls_filter_isCall (hook : String) (es : List Event) :
    hookCalls hook (es.filter Event.isCall) = hookCalls hook es := by
  induction es with
  | nil => rfl
  | cons e rest ih =>
      rw [List.filter_cons]
      split
      · show hookCalls hook ([e] ++ rest.filter Event.isCall) = hookCalls hook ([e] ++ rest)
        rw [hookCalls_append, hookCalls_append, ih]
      · next other =>
        have none : hookCalls hook [e] = [] := by
          cases e with
          | called id h => exact absurd rfl other
          | _ => rfl
        show _ = hookCalls hook ([e] ++ rest)
        rw [ih, hookCalls_append, none, List.nil_append]

/-- How often the hook of a component was called can be told from the calls of that component. -/
theorem count_hookCalls (hook : String) (id : ObjectId) (ds : List Deed) :
    (hookCalls hook (ds.filterMap Deed.event?)).count id =
      (hookCalls hook ((callsOn id ds).filterMap Deed.event?)).length := by
  induction ds with
  | nil => rfl
  | cons d ds ih =>
      have one : (hookCalls hook ([d].filterMap Deed.event?)).count id =
          (hookCalls hook ((callsOn id [d]).filterMap Deed.event?)).length := by
        cases d with
        | made x => rfl
        | injected x property value outcome =>
            by_cases same : x = id <;> simp [callsOn, Deed.callee, Deed.event?, hookCalls, same]
        | called x h outcome =>
            by_cases same : x = id <;> by_cases rung : h = hook <;>
              simp [callsOn, Deed.callee, Deed.event?, hookCalls, same, rung]
      show (hookCalls hook (([d] ++ ds).filterMap Deed.event?)).count id =
        (hookCalls hook ((callsOn id ([d] ++ ds)).filterMap Deed.event?)).length
      rw [callsOn_append, List.filterMap_append, List.filterMap_append, hookCalls_append,
        hookCalls_append, List.count_append, List.length_append, one, ih]

theorem hookCalls_eq_nil {hook : String} {ds : List Deed}
    (none : ∀ d ∈ ds, ∀ id r, d ≠ .called id hook r) :
    hookCalls hook (ds.filterMap Deed.event?) = [] := by
  unfold hookCalls
  rw [List.filterMap_filterMap, List.filterMap_eq_nil_iff]
  intro d member
  cases d with
  | called id h r =>
      have other : h ≠ hook := fun same => none _ member id r (by rw [same])
      simp [Deed.event?, other]
  | _ => rfl

namespace Host

variable {σ : Type}

def blueprint? (h : Host σ) (id : ObjectId) : Option (Blueprint σ) :=
  (h.object? id).map (·.blueprint)

theorem hasHook_eq (h : Host σ) (id : ObjectId) (hook : String) :
    h.hasHook id hook = (h.blueprint? id).any fun b => b.hasHook hook := by
  unfold hasHook blueprint?
  cases h.object? id <;> rfl

theorem isLive_iff_blueprint? {h : Host σ} {id : ObjectId} :
    h.heap.isLive id ↔ (h.blueprint? id).isSome := by
  unfold blueprint? object? Heap.isLive
  rw [Option.isSome_map]

variable [Lifecycle σ]

/-- A step of a program, with what it does. -/
inductive Moves : Host σ → List Deed → Host σ → Prop where
  | enter (h : Host σ) (rs : List Record) : Moves h [] (h.record rs)
  | acquire (h : Host σ) (id : ObjectId) : Moves h [] (h.acquire id)
  | release (h : Host σ) (id : ObjectId) : Moves h [] (h.release id)
  | load (h : Host σ) (paths : List String) (name : String) : Moves h [] (h.load paths name).2
  | scan (h : Host σ) : Moves h [] h.scan.2
  | construct {h h' : Host σ} {className : String} {id : ObjectId}
      (made : h.construct className = (.ok id, h')) : Moves h [.made id] h'
  | inject (h : Host σ) (id : ObjectId) (name : String) (value : Given) :
      Moves h [.injected id name value (h.inject id name value).1] (h.inject id name value).2
  | call (h : Host σ) (id : ObjectId) (hook : String) :
      Moves h [.called id hook (h.call id hook).1] (h.call id hook).2

/-- Steps one after the other, with all that they do. -/
inductive Does : Host σ → List Deed → Host σ → Prop where
  | nothing (h : Host σ) : Does h [] h
  | step {h h₁ h' : Host σ} {ds es : List Deed} (first : Moves h ds h₁) (rest : Does h₁ es h') :
      Does h (ds ++ es) h'

theorem Moves.does {h h' : Host σ} {ds : List Deed} (moves : Moves h ds h') : Does h ds h' := by
  rw [← List.append_nil ds]
  exact .step moves (.nothing h')

theorem Does.trans {h₁ h₂ h₃ : Host σ} {ds es : List Deed} (first : Does h₁ ds h₂)
    (second : Does h₂ es h₃) : Does h₁ (ds ++ es) h₃ := by
  induction first with
  | nothing h => exact second
  | step moves rest ih =>
      rw [List.append_assoc]
      exact .step moves (ih second)

/-! ## The journal of deeds -/

/-- A step enters the calls that it makes, and enters nothing that it does not do. -/
theorem Moves.journal {h h' : Host σ} {ds : List Deed} (moves : Moves h ds h') :
    ∃ es, Follows h h' es ∧ es.filter Event.isCall = ds.filterMap Deed.event? := by
  cases moves with
  | enter rs => exact ⟨_, follows_enter h _, (quiet_logged rs).filter_isCall⟩
  | acquire id => exact ⟨[], follows_acquire h id, rfl⟩
  | release id => exact ⟨_, follows_release h id, (quiet_farewells _).filter_isCall⟩
  | load paths name =>
      obtain ⟨es, quiet, follows⟩ := follows_load h paths name
      exact ⟨es, follows, quiet.filter_isCall⟩
  | scan =>
      obtain ⟨es, quiet, follows⟩ := follows_scan h
      exact ⟨es, follows, quiet.filter_isCall⟩
  | @construct _ className id made =>
      rcases construct_cases h className with ⟨e, failed⟩ | ⟨after, made', _, follows⟩
      · simp [failed] at made
      · rw [made'] at made
        cases made
        exact ⟨_, follows, rfl⟩
  | inject id name value =>
      obtain ⟨es, quiet, follows⟩ := follows_inject h id name value
      refine ⟨_, follows, ?_⟩
      show .injected id name value :: es.filter Event.isCall = _
      rw [quiet.filter_isCall]
      rfl
  | call id hook =>
      obtain ⟨es, quiet, follows⟩ := follows_call h id hook
      refine ⟨_, follows, ?_⟩
      show .called id hook :: es.filter Event.isCall = _
      rw [quiet.filter_isCall]
      rfl

/-- **The calls in the journal are the calls that were made**, in this order. -/
theorem Does.journal {h h' : Host σ} {ds : List Deed} (does : Does h ds h') :
    ∃ es, Follows h h' es ∧ es.filter Event.isCall = ds.filterMap Deed.event? := by
  induction does with
  | nothing h => exact ⟨[], .refl h, rfl⟩
  | step moves rest ih =>
      obtain ⟨es, follows, calls⟩ := moves.journal
      obtain ⟨fs, follows', calls'⟩ := ih
      refine ⟨es ++ fs, follows.trans follows', ?_⟩
      rw [List.filter_append, List.filterMap_append, calls, calls']

theorem Does.next_le {h h' : Host σ} {ds : List Deed} (does : Does h ds h') :
    h.heap.next ≤ h'.heap.next := by
  obtain ⟨es, follows, _⟩ := does.journal
  exact follows.next

/-! ## Handles -/

omit [Lifecycle σ] in
theorem handles_acquire {h : Host σ} {id : ObjectId} (live : h.heap.isLive id) :
    (h.acquire id).heap.handles = id :: h.heap.handles := by
  show (h.heap.acquire id).handles = _
  unfold Heap.acquire
  rw [if_pos live]

omit [Lifecycle σ] in
theorem heap_load (h : Host σ) (paths : List String) (name : String) :
    (h.load paths name).2.heap = h.heap := by
  have adopted (h : Host σ) (l : Library σ) : (h.adopt name l).2.heap = h.heap := by
    unfold adopt
    split
    · rfl
    · next status staged _ => cases status <;> rfl
  have searched (failures dirs : List String) :
      (h.search name failures dirs).2.heap = h.heap := by
    induction dirs generalizing failures with
    | nil => rfl
    | cons dir dirs ih =>
        unfold search
        simp only
        split
        · exact adopted _ _
        · exact ih _
  unfold load
  split
  · rfl
  · split
    · rfl
    · exact searched [] paths

/-- An injection enters itself, and then fails at once or carries out one action. -/
theorem inject_cases (h : Host σ) (id : ObjectId) (name : String) (value : Given) :
    (∃ e, h.inject id name value = (.error e, h.enter [.injected id name value])) ∨
      ∃ action, h.inject id name value =
        (h.enter [.injected id name value]).perform id action := by
  unfold inject
  simp only
  split
  · exact .inl ⟨_, rfl⟩
  · split
    · exact .inl ⟨_, rfl⟩
    · exact .inr ⟨_, rfl⟩

/-- So does a call of a hook. -/
theorem call_cases (h : Host σ) (id : ObjectId) (hook : String) :
    (∃ e, h.call id hook = (.error e, h.enter [.called id hook])) ∨
      ∃ action, h.call id hook = (h.enter [.called id hook]).perform id action := by
  unfold call
  simp only
  split
  · exact .inl ⟨_, rfl⟩
  · split
    · exact .inl ⟨_, rfl⟩
    · exact .inr ⟨_, rfl⟩

/-- So are the constructions. -/
theorem Moves.constructed {h h' : Host σ} {ds : List Deed} (moves : Moves h ds h') :
    ∃ es, Follows h h' es ∧ constructedIn es = madeIn ds := by
  have acted {h h' : Host σ} {id : ObjectId} {action : Action σ} {e : Event}
      (none : constructedIn [e] = []) (same : h' = ((h.enter [e]).perform id action).2) :
      ∃ es, Follows h h' es ∧ constructedIn es = [] := by
    obtain ⟨texts, destroyed, follows⟩ := enters_perform (h.enter [e]) id action
    refine ⟨_, same ▸ (follows_enter h [e]).trans follows, ?_⟩
    rw [constructedIn_append, constructedIn_append, none, constructedIn_noted,
      constructedIn_farewells]
    rfl
  cases moves with
  | enter rs => exact ⟨_, follows_enter h _, constructedIn_logged rs⟩
  | acquire id => exact ⟨[], follows_acquire h id, rfl⟩
  | release id => exact ⟨_, follows_release h id, constructedIn_farewells _⟩
  | load paths name =>
      obtain ⟨rs, follows⟩ := logs_load h paths name
      exact ⟨_, follows, constructedIn_logged rs⟩
  | scan => exact ⟨_, ⟨Nat.le_refl _, rfl⟩, constructedIn_logged _⟩
  | @construct _ className id made =>
      rcases construct_cases h className with ⟨e, failed⟩ | ⟨after, made', _, follows⟩
      · simp [failed] at made
      · rw [made'] at made
        cases made
        exact ⟨_, follows, rfl⟩
  | inject id name value =>
      rcases inject_cases h id name value with ⟨e, failed⟩ | ⟨action, injected⟩
      · rw [failed]
        exact ⟨_, follows_enter h _, rfl⟩
      · exact acted rfl (congrArg Prod.snd injected)
  | call id hook =>
      rcases call_cases h id hook with ⟨e, failed⟩ | ⟨action, called⟩
      · rw [failed]
        exact ⟨_, follows_enter h _, rfl⟩
      · exact acted rfl (congrArg Prod.snd called)

/-- **The constructions in the journal are those that were made**, in this order. -/
theorem Does.constructed {h h' : Host σ} {ds : List Deed} (does : Does h ds h') :
    ∃ es, Follows h h' es ∧ constructedIn es = madeIn ds := by
  induction does with
  | nothing h => exact ⟨[], .refl h, rfl⟩
  | step moves rest ih =>
      obtain ⟨es, follows, made⟩ := moves.constructed
      obtain ⟨fs, follows', made'⟩ := ih
      exact ⟨es ++ fs, follows.trans follows', by rw [constructedIn_append, madeIn_append, made,
        made']⟩

theorem handles_inject (h : Host σ) (id : ObjectId) (name : String) (value : Given) :
    (h.inject id name value).2.heap.handles = h.heap.handles := by
  rcases inject_cases h id name value with ⟨e, failed⟩ | ⟨action, acted⟩
  · rw [failed]
    rfl
  · rw [acted, handles_perform]
    rfl

theorem handles_call (h : Host σ) (id : ObjectId) (hook : String) :
    (h.call id hook).2.heap.handles = h.heap.handles := by
  rcases call_cases h id hook with ⟨e, failed⟩ | ⟨action, acted⟩
  · rw [failed]
    rfl
  · rw [acted, handles_perform]
    rfl

omit [Lifecycle σ] in
/-- A new object is live and has one handle. -/
theorem construct_eq_ok {h h' : Host σ} {className : String} {id : ObjectId}
    (made : h.construct className = (.ok id, h')) :
    ∃ o, id = h.heap.next ∧ h'.heap = (h.heap.allocate o).2 := by
  unfold construct at made
  cases found : h.registry.factories.find className with
  | error e => simp [found] at made
  | ok f =>
      simp only [found] at made
      cases state : f.make with
      | error e => simp [state] at made
      | ok s =>
          simp only [state] at made
          cases made
          exact ⟨_, rfl, rfl⟩

/-! ## What a handle holds -/

/-- Actions change states, and leave the blueprints of what is held. -/
theorem blueprint?_perform {h : Host σ} (id : ObjectId) (action : Action σ) {x : ObjectId}
    (handle : x ∈ h.heap.handles) : (h.perform id action).2.blueprint? x = h.blueprint? x := by
  let changes := h.changesOf (action h.sight id)
  have same : ∀ c ∈ changes, ∀ old, h.heap.find? c.1 = some old →
      c.2.blueprint = old.blueprint := by
    intro c member old found
    obtain ⟨change, _, there⟩ := List.mem_filterMap.1 member
    obtain ⟨o, live, rfl⟩ := Option.map_eq_some_iff.1 there
    have found : h.object? change.1 = some old := found
    rw [live] at found
    cases found
    rfl
  have held : x ∈ (h.heap.storeAll changes).1.handles := by rwa [Heap.handles_storeAll]
  show (((h.heap.storeAll changes).1.settle (h.heap.storeAll changes).2).1.find? x).map _ = _
  rw [Heap.find?_settle_of_handle _ held]
  exact Heap.map_find?_storeAll _ same x

/-- What is there after an action was there before, with the same state or one that the action gave
it. -/
theorem object?_perform {h : Host σ} {id x : ObjectId} {action : Action σ} {o : Object σ}
    (found : (h.perform id action).2.object? x = some o) :
    h.object? x = some o ∨ ∃ old, h.object? x = some old ∧ o.blueprint = old.blueprint ∧
      (x, o.state) ∈ (action h.sight id).changes := by
  let stored := h.heap.storeAll (h.changesOf (action h.sight id))
  have left : stored.1.find? x = some o :=
    Heap.find?_of_find?_collapses (Heap.collapses_settle stored.1 stored.2) found
  rcases Heap.find?_storeAll_cases left with same | changed
  · exact .inl same
  · obtain ⟨c, member, there⟩ := List.mem_filterMap.1 changed
    obtain ⟨old, live, equal⟩ := Option.map_eq_some_iff.1 there
    cases equal
    exact .inr ⟨old, live, rfl, member⟩

theorem fresh_perform {h : Host σ} (fresh : h.heap.Fresh) (id : ObjectId) (action : Action σ) :
    (h.perform id action).2.heap.Fresh := by
  have stored := fresh.storeAll (h.changesOf (action h.sight id))
  exact stored.collapses (Heap.collapses_settle _ _) (Heap.next_settle _ _)

theorem blueprint?_inject {h : Host σ} (id : ObjectId) (name : String) (value : Given)
    {x : ObjectId} (handle : x ∈ h.heap.handles) :
    (h.inject id name value).2.blueprint? x = h.blueprint? x := by
  rcases inject_cases h id name value with ⟨e, failed⟩ | ⟨action, acted⟩
  · rw [failed]
    rfl
  · rw [acted]
    exact blueprint?_perform (h := h.enter _) id action handle

theorem blueprint?_call {h : Host σ} (id : ObjectId) (hook : String) {x : ObjectId}
    (handle : x ∈ h.heap.handles) : (h.call id hook).2.blueprint? x = h.blueprint? x := by
  rcases call_cases h id hook with ⟨e, failed⟩ | ⟨action, acted⟩
  · rw [failed]
    rfl
  · rw [acted]
    exact blueprint?_perform (h := h.enter _) id action handle

/-- **What has a handle stays**: a live object that has a handle after a step is the same as
before, up to its state. -/
theorem Moves.blueprint? {h h' : Host σ} {ds : List Deed} (moves : Moves h ds h') {x : ObjectId}
    (live : h.heap.isLive x) (handle : x ∈ h'.heap.handles) :
    h'.blueprint? x = h.blueprint? x := by
  have same_of_heap {a b : Host σ} (equal : b.heap = a.heap) : b.blueprint? x = a.blueprint? x := by
    unfold Host.blueprint? Host.object?
    rw [equal]
  cases moves with
  | enter rs => rfl
  | acquire id =>
      show ((h.heap.acquire id).find? x).map _ = _
      unfold Heap.acquire
      split <;> rfl
  | release id =>
      show ((h.heap.release id).1.find? x).map _ = _
      rw [Heap.find?_release_of_handle handle]
      rfl
  | load paths name => exact same_of_heap (heap_load h paths name)
  | scan => rfl
  | construct made =>
      obtain ⟨o, _, allocated⟩ := construct_eq_ok made
      unfold Host.blueprint? Host.object?
      rw [allocated, Heap.find?_allocate_of_isLive o live]
  | inject id name value =>
      rw [handles_inject] at handle
      exact blueprint?_inject id name value handle
  | call id hook =>
      rw [handles_call] at handle
      exact blueprint?_call id hook handle

theorem Moves.fresh {h h' : Host σ} {ds : List Deed} (moves : Moves h ds h')
    (fresh : h.heap.Fresh) : h'.heap.Fresh := by
  cases moves with
  | enter rs => exact fresh
  | acquire id =>
      show (h.heap.acquire id).Fresh
      unfold Heap.acquire
      split <;> exact fresh
  | release id =>
      exact fresh.collapses (Heap.collapses_release h.heap id) (Heap.next_release h.heap id)
  | load paths name =>
      rw [heap_load]
      exact fresh
  | scan => exact fresh
  | construct made =>
      obtain ⟨o, _, allocated⟩ := construct_eq_ok made
      rw [allocated]
      exact fresh.allocate o
  | inject id name value =>
      rcases inject_cases h id name value with ⟨e, failed⟩ | ⟨action, acted⟩
      · rw [failed]
        exact fresh
      · rw [acted]
        exact fresh_perform fresh id action
  | call id hook =>
      rcases call_cases h id hook with ⟨e, failed⟩ | ⟨action, acted⟩
      · rw [failed]
        exact fresh
      · rw [acted]
        exact fresh_perform fresh id action

theorem Does.fresh {h h' : Host σ} {ds : List Deed} (does : Does h ds h')
    (fresh : h.heap.Fresh) : h'.heap.Fresh := by
  induction does with
  | nothing h => exact fresh
  | step moves rest ih => exact ih (moves.fresh fresh)

end Host

end Wiring
