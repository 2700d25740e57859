/-
# Wiring.Proofs.Host.Journal -- what each step of the host enters in the journal

The journal only grows, and no identity is ever taken back.  `Follows h h' es` says
that `h'` is a later state of `h`, with the events `es` entered in between.  Most
steps enter nothing but records, notes and destructions (`Quiet`); an injection or a
hook call enters itself first, and then only such events.
-/
import Wiring.Host
import Wiring.Proofs.Heap.Sound

namespace Wiring

set_option autoImplicit false

open Wiring.Component
open Wiring.Logging (Logged Record)

/-! ## Events -/

def Event.callee : Event → Option ObjectId
  | .injected id .. | .called id _ => some id
  | _ => none

def callees (es : List Event) : List ObjectId := es.filterMap Event.callee

@[simp] theorem callees_append (es fs : List Event) :
    callees (es ++ fs) = callees es ++ callees fs := List.filterMap_append

/-- No component is called. -/
def Quiet (es : List Event) : Prop := callees es = []

theorem quiet_nil : Quiet [] := rfl

theorem Quiet.append {es fs : List Event} (first : Quiet es) (second : Quiet fs) :
    Quiet (es ++ fs) := by
  unfold Quiet at *
  rw [callees_append, first, second, List.append_nil]

theorem quiet_logged (rs : List Record) : Quiet (rs.map .logged) := by
  simp [Quiet, callees, List.filterMap_map, Event.callee]

theorem quiet_noted (texts : List String) : Quiet (texts.map .noted) := by
  simp [Quiet, callees, List.filterMap_map, Event.callee]

/-- The references injected into an object, each with the property it was injected as. -/
def referenceCalls (id : ObjectId) (es : List Event) : List (String × ObjectId) :=
  es.filterMap fun
    | .injected x property (.reference value) => if x = id then some (property, value) else none
    | _ => none

@[simp] theorem referenceCalls_append (id : ObjectId) (es fs : List Event) :
    referenceCalls id (es ++ fs) = referenceCalls id es ++ referenceCalls id fs :=
  List.filterMap_append

theorem referenceCalls_of_notMem {id : ObjectId} {es : List Event} (spared : id ∉ callees es) :
    referenceCalls id es = [] := by
  induction es with
  | nil => rfl
  | cons e rest ih =>
      have : callees (e :: rest) = callees [e] ++ callees rest := callees_append [e] rest
      rw [this, List.mem_append, not_or] at spared
      show referenceCalls id ([e] ++ rest) = []
      rw [referenceCalls_append, ih spared.2, List.append_nil]
      have other := spared.1
      cases e with
      | injected x property value =>
          have distinct : x ≠ id := by simpa [callees, Event.callee, eq_comm] using other
          cases value <;> simp [referenceCalls, distinct]
      | _ => rfl

theorem Quiet.referenceCalls {es : List Event} (quiet : Quiet es) (id : ObjectId) :
    referenceCalls id es = [] := by
  apply referenceCalls_of_notMem
  rw [show callees es = [] from quiet]
  simp

def destroyedIn (es : List Event) : List ObjectId :=
  es.filterMap fun
    | .destroyed id => some id
    | _ => none

@[simp] theorem destroyedIn_append (es fs : List Event) :
    destroyedIn (es ++ fs) = destroyedIn es ++ destroyedIn fs := List.filterMap_append

@[simp] theorem destroyedIn_noted (texts : List String) : destroyedIn (texts.map .noted) = [] := by
  simp [destroyedIn, List.filterMap_map]

@[simp] theorem destroyedIn_logged (rs : List Record) : destroyedIn (rs.map .logged) = [] := by
  simp [destroyedIn, List.filterMap_map]

def constructedIn (es : List Event) : List ObjectId :=
  es.filterMap fun
    | .constructed id => some id
    | _ => none

@[simp] theorem constructedIn_append (es fs : List Event) :
    constructedIn (es ++ fs) = constructedIn es ++ constructedIn fs := List.filterMap_append

@[simp] theorem constructedIn_noted (texts : List String) :
    constructedIn (texts.map .noted) = [] := by
  simp [constructedIn, List.filterMap_map]

@[simp] theorem constructedIn_logged (rs : List Record) :
    constructedIn (rs.map .logged) = [] := by
  simp [constructedIn, List.filterMap_map]

namespace Host

variable {σ : Type}

/-! ## Later states -/

/-- A later state of a program: no identity is taken back, and `es` is entered in the journal. -/
structure Follows (h h' : Host σ) (es : List Event) : Prop where
  next : h.heap.next ≤ h'.heap.next
  journal : h'.journal = h.journal ++ es

namespace Follows

theorem refl (h : Host σ) : Follows h h [] := ⟨Nat.le_refl _, (List.append_nil _).symm⟩

theorem trans {h₁ h₂ h₃ : Host σ} {es fs : List Event} (first : Follows h₁ h₂ es)
    (second : Follows h₂ h₃ fs) : Follows h₁ h₃ (es ++ fs) := by
  refine ⟨Nat.le_trans first.next second.next, ?_⟩
  rw [second.journal, first.journal, List.append_assoc]

end Follows

theorem follows_enter (h : Host σ) (es : List Event) : Follows h (h.enter es) es :=
  ⟨Nat.le_refl _, rfl⟩

theorem follows_acquire (h : Host σ) (id : ObjectId) : Follows h (h.acquire id) [] := by
  refine ⟨?_, (List.append_nil _).symm⟩
  show h.heap.next ≤ (h.heap.acquire id).next
  unfold Heap.acquire
  split <;> exact Nat.le_refl _

/-- A construction gives the new object the next identity, or changes nothing. -/
theorem construct_cases (h : Host σ) (className : String) :
    (∃ e, h.construct className = (.error e, h)) ∨
    ∃ h', h.construct className = (.ok h.heap.next, h') ∧ h'.heap.next = h.heap.next + 1 ∧
      Follows h h' [.constructed h.heap.next] := by
  unfold construct
  cases h.registry.factories.find className with
  | error e => exact .inl ⟨e, rfl⟩
  | ok f =>
      cases made : f.make with
      | error e => exact .inl ⟨e, by simp [made]⟩
      | ok state =>
          refine .inr ⟨(h.allocate f.blueprint state).2, by simp [made]; rfl, rfl, ?_⟩
          exact ⟨Nat.le_succ _, rfl⟩

theorem construct_eq_error {h h' : Host σ} {className : String} {e : Error}
    (failed : h.construct className = (.error e, h')) : h' = h := by
  rcases construct_cases h className with ⟨_, same⟩ | ⟨_, made, _⟩
  · rw [failed] at same
    exact congrArg Prod.snd same
  · rw [failed] at made
    cases made

/-! ## Libraries -/

/-- Loading a library only enters records. -/
theorem logs_adopt (h : Host σ) (name : String) (l : Library σ) :
    ∃ rs : List Record, Follows h (h.adopt name l).2 (rs.map .logged) := by
  unfold adopt
  split
  · exact ⟨[], .refl h⟩
  · next status staged entry =>
    cases status with
    | ok => exact ⟨_, ⟨Nat.le_refl _, rfl⟩⟩
    | failed => exact ⟨[], ⟨Nat.le_refl _, (List.append_nil _).symm⟩⟩
    | incompatible => exact ⟨[], ⟨Nat.le_refl _, (List.append_nil _).symm⟩⟩

theorem logs_search (h : Host σ) (name : String) (failures dirs : List String) :
    ∃ rs : List Record, Follows h (h.search name failures dirs).2 (rs.map .logged) := by
  induction dirs generalizing failures with
  | nil => exact ⟨[], .refl h⟩
  | cons dir dirs ih =>
      unfold search
      simp only
      split
      · next l opened =>
        let found : Record := ⟨.info, libraryTarget,
          s!"Loaded library {name} from {Library.join dir (Library.fileName name)}"⟩
        obtain ⟨rs, follows⟩ := logs_adopt (h.record [found]) name l
        exact ⟨found :: rs, (follows_enter h [.logged found]).trans follows⟩
      · exact ih _

theorem logs_load (h : Host σ) (paths : List String) (name : String) :
    ∃ rs : List Record, Follows h (h.load paths name).2 (rs.map .logged) := by
  unfold load
  split
  · exact ⟨[], .refl h⟩
  · split
    · exact ⟨[], .refl h⟩
    · exact logs_search h name [] paths

theorem follows_load (h : Host σ) (paths : List String) (name : String) :
    ∃ es, Quiet es ∧ Follows h (h.load paths name).2 es := by
  obtain ⟨rs, follows⟩ := logs_load h paths name
  exact ⟨_, quiet_logged rs, follows⟩

theorem follows_scan (h : Host σ) : ∃ es, Quiet es ∧ Follows h h.scan.2 es :=
  ⟨_, quiet_logged _, ⟨Nat.le_refl _, rfl⟩⟩

/-! ## Giving up references -/

section Actions

variable [Lifecycle σ]

theorem quiet_farewells (destroyed : List (ObjectId × Object σ)) : Quiet (farewells destroyed) := by
  induction destroyed with
  | nil => rfl
  | cons d rest ih =>
      have bye : Quiet (.destroyed d.1 :: (Lifecycle.farewell d.2.state).map .noted) :=
        quiet_noted _
      exact bye.append ih

theorem destroyedIn_farewells (destroyed : List (ObjectId × Object σ)) :
    destroyedIn (farewells destroyed) = destroyed.map (·.1) := by
  induction destroyed with
  | nil => rfl
  | cons d rest ih =>
      show destroyedIn ((.destroyed d.1 :: (Lifecycle.farewell d.2.state).map .noted) ++
        farewells rest) = _
      rw [destroyedIn_append, ih]
      show (d.1 :: destroyedIn ((Lifecycle.farewell d.2.state).map .noted)) ++ _ = _
      rw [destroyedIn_noted]
      rfl

theorem constructedIn_farewells (destroyed : List (ObjectId × Object σ)) :
    constructedIn (farewells destroyed) = [] := by
  induction destroyed with
  | nil => rfl
  | cons d rest ih =>
      show constructedIn (([.destroyed d.1] ++ (Lifecycle.farewell d.2.state).map .noted) ++
        farewells rest) = _
      rw [constructedIn_append, constructedIn_append, constructedIn_noted, ih]
      rfl

theorem follows_release (h : Host σ) (id : ObjectId) :
    Follows h (h.release id) (farewells (h.heap.release id).2) :=
  ⟨Nat.le_of_eq (Heap.next_release h.heap id).symm, rfl⟩

/-- An action enters its notes, and then what is destroyed by it. -/
theorem enters_perform (h : Host σ) (id : ObjectId) (action : Action σ) :
    ∃ (texts : List String) (destroyed : List (ObjectId × Object σ)),
      Follows h (h.perform id action).2 (texts.map .noted ++ farewells destroyed) := by
  let effect := action h.sight id
  let stored := h.heap.storeAll (h.changesOf effect)
  refine ⟨effect.notes, (stored.1.settle stored.2).2, ?_, List.append_assoc _ _ _⟩
  have next : (stored.1.settle stored.2).1.next = h.heap.next := by
    rw [Heap.next_settle, Heap.next_storeAll]
  exact Nat.le_of_eq next.symm

theorem follows_perform (h : Host σ) (id : ObjectId) (action : Action σ) :
    ∃ es, Quiet es ∧ Follows h (h.perform id action).2 es := by
  obtain ⟨texts, destroyed, follows⟩ := enters_perform h id action
  exact ⟨_, (quiet_noted texts).append (quiet_farewells destroyed), follows⟩

theorem follows_inject (h : Host σ) (id : ObjectId) (name : String) (value : Given) :
    ∃ es, Quiet es ∧ Follows h (h.inject id name value).2 (.injected id name value :: es) := by
  have entered := follows_enter h [.injected id name value]
  unfold inject
  simp only
  split
  · exact ⟨[], quiet_nil, entered⟩
  · split
    · exact ⟨[], quiet_nil, entered⟩
    · obtain ⟨es, quiet, follows⟩ := follows_perform (h.enter [.injected id name value]) id _
      exact ⟨es, quiet, entered.trans follows⟩

theorem follows_call (h : Host σ) (id : ObjectId) (hook : String) :
    ∃ es, Quiet es ∧ Follows h (h.call id hook).2 (.called id hook :: es) := by
  have entered := follows_enter h [.called id hook]
  unfold call
  simp only
  split
  · exact ⟨[], quiet_nil, entered⟩
  · split
    · exact ⟨[], quiet_nil, entered⟩
    · obtain ⟨es, quiet, follows⟩ := follows_perform (h.enter [.called id hook]) id _
      exact ⟨es, quiet, entered.trans follows⟩

/-! ## The heap under actions -/

theorem sound_perform {h : Host σ} (sound : h.heap.Sound) (id : ObjectId) (action : Action σ) :
    (h.perform id action).2.heap.Sound := by
  have stored := Heap.balanced_storeAll sound (h.changesOf (action h.sight id))
  exact Heap.sound_settle stored

theorem handles_perform (h : Host σ) (id : ObjectId) (action : Action σ) :
    (h.perform id action).2.heap.handles = h.heap.handles := by
  let stored := h.heap.storeAll (h.changesOf (action h.sight id))
  show (stored.1.settle stored.2).1.handles = _
  rw [Heap.handles_settle, Heap.handles_storeAll]

/-- A hook call keeps the heap sound and takes no handle away. -/
theorem sound_call {h : Host σ} (sound : h.heap.Sound) (id : ObjectId) (hook : String) :
    (h.call id hook).2.heap.Sound ∧ (h.call id hook).2.heap.handles = h.heap.handles := by
  unfold call
  simp only
  split
  · exact ⟨sound, rfl⟩
  · split
    · exact ⟨sound, rfl⟩
    · have entered : (h.enter [.called id hook]).heap.Sound := sound
      exact ⟨sound_perform entered id _, handles_perform _ id _⟩

end Actions

end Host

end Wiring
