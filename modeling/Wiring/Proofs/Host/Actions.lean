/-
# Wiring.Proofs.Host.Actions -- how a step changes the objects that are there

A call that is not refused carries out one action, which a binding of the object called can run
(`Acts`, `Binding.Runs`).  Nothing else changes objects: what is there after a step was there
before as it is, has just been made by a registered factory, or got its state by the action of the
call that the step is (`Comes`).  Main statement: `Moves.comes`.
-/
import Wiring.Proofs.Host.Injected
import Wiring.Proofs.Keyed
import Wiring.Registry.Embedding

namespace Wiring

set_option autoImplicit false

open Wiring.Component

variable {σ : Type}

/-! ## What bindings run -/

/-- An action that a binding runs for some value that is set, or for the hook that it is. -/
inductive Component.Binding.Runs : Binding σ → Action σ → Prop where
  | reference {target : TypeName} {set : ObjectId → Action σ} (id : ObjectId) :
      Runs (.reference target set) (set id)
  | weakReference {target : TypeName} {set : ObjectId → Action σ} (id : ObjectId) :
      Runs (.weakReference target set) (set id)
  | number {set : Float → Action σ} (x : Float) : Runs (.number set) (set x)
  | integer {type : IntegerType} {set : Int → Action σ} (n : Int) :
      Runs (.integer type set) (set n)
  | boolean {set : Bool → Action σ} (b : Bool) : Runs (.boolean set) (set b)
  | text {set : String → Action σ} (s : String) : Runs (.text set) (set s)
  | character {set : Char → Action σ} (c : Char) : Runs (.character set) (set c)
  | time {set : Nat → Action σ} (n : Nat) : Runs (.time set) (set n)
  | list {set : List String → Action σ} (items : List String) : Runs (.list set) (set items)
  | map {set : List (String × String) → Action σ} (entries : List (String × String)) :
      Runs (.map set) (set entries)
  | hook {call : Action σ} : Runs (.hook call) call

/-- An action that one of the bindings of a type runs. -/
def Blueprint.Runs (b : Blueprint σ) (action : Action σ) : Prop :=
  ∃ e ∈ b.bindings, e.2.Runs action

/-- A library's binding in a program runs what it runs in the library, on the states embedded. -/
theorem Embedding.runs_binding {α β : Type} (e : Embedding α β) {b : Binding α} {action : Action β}
    (runs : (e.binding b).Runs action) : ∃ own, b.Runs own ∧ action = e.action own := by
  cases b <;> cases runs <;> exact ⟨_, by constructor, rfl⟩

/-- An update changes the component's own state and nothing else. -/
theorem Component.mem_changes_update {f : σ → σ} {sight : Sight σ} {id : ObjectId}
    {c : ObjectId × σ} (member : c ∈ (update f sight id).changes) :
    c.1 = id ∧ ∃ s, sight id = some s ∧ c.2 = f s := by
  unfold update at member
  split at member
  · next s seen =>
    rw [List.mem_singleton.1 member]
    exact ⟨rfl, s, seen, rfl⟩
  · cases member

/-- A factory has the blueprint that its component type describes. -/
theorem Component.eq_of_factory {c : Component σ} {f : Factory σ} (made : c.factory = .ok f) :
    f = ⟨⟨c.className, c.typeName, c.wanted⟩, c.make⟩ := by
  unfold Component.factory Component.describe at made
  cases bound : Bindings.bindAll c.typeName [] c.wanted with
  | error e =>
      rw [bound] at made
      cases made
  | ok bs =>
      rw [bound] at made
      cases made
      rw [bindings_of_bindAll bound, List.nil_append]

namespace Host

/-! ## What calls run -/

variable {h h' : Host σ} {ds : List Deed} {d : Deed} {id x : ObjectId} {action : Action σ}
  {o : Object σ}

/-- A call that carries out an action of an object that is there, and ends as the action does. -/
inductive Acts (h : Host σ) : Deed → ObjectId → Action σ → Prop where
  | injected {id : ObjectId} {name : String} {value : Given} {o : Object σ} {action : Action σ}
      {r : Except Error Unit} (there : h.object? id = some o)
      (set : o.blueprint.setter h.cast name value = .ok action)
      (ends : (action h.sight id).outcome = r) : Acts h (.injected id name value r) id action
  | called {id : ObjectId} {hook : String} {o : Object σ} {action : Action σ}
      {r : Except Error Unit} (there : h.object? id = some o)
      (bound : o.blueprint.hook hook = .ok action) (ends : (action h.sight id).outcome = r) :
      Acts h (.called id hook r) id action

theorem Acts.callee (acts : h.Acts d id action) : d.callee = some id := by cases acts <;> rfl

theorem Converts.runs {binding : Binding σ} {value : Given} (converts : h.Converts binding value
    action) : binding.Runs action := by
  cases converts <;> constructor

/-- The action is one that a binding of the object runs. -/
theorem Acts.runs (acts : h.Acts d id action) :
    ∃ o, h.object? id = some o ∧ o.blueprint.Runs action := by
  cases acts with
  | injected there set _ =>
      obtain ⟨binding, bound, converts⟩ := setter_eq_ok_iff.1 set
      exact ⟨_, there, _, Keyed.mem_of_lookup bound, converts.runs⟩
  | called there bound _ =>
      unfold Blueprint.hook at bound
      split at bound
      · cases bound
      · next call found =>
        cases bound
        exact ⟨_, there, _, Keyed.mem_of_lookup found, .hook⟩
      · cases bound

variable [Lifecycle σ]

/-- An injection is refused, or carries out an action. -/
theorem acts_inject (h : Host σ) (id : ObjectId) (name : String) (value : Given) :
    (∃ e, h.inject id name value = (.error e, h.enter [.injected id name value])) ∨
      ∃ action, h.Acts (.injected id name value (h.inject id name value).1) id action ∧
        h.inject id name value = (h.enter [.injected id name value]).perform id action := by
  cases there : h.object? id with
  | none =>
      refine .inl ⟨.propertyNotFound name value.kind.word "", ?_⟩
      have entered : (h.enter [.injected id name value]).object? id = none := there
      unfold inject
      simp only [entered]
  | some o =>
      rw [inject_eq there]
      cases set : o.blueprint.setter h.cast name value with
      | error e => exact .inl ⟨e, rfl⟩
      | ok action => exact .inr ⟨action, .injected there set rfl, rfl⟩

/-- So does a call of a hook. -/
theorem acts_call (h : Host σ) (id : ObjectId) (hook : String) :
    (∃ e, h.call id hook = (.error e, h.enter [.called id hook])) ∨
      ∃ action, h.Acts (.called id hook (h.call id hook).1) id action ∧
        h.call id hook = (h.enter [.called id hook]).perform id action := by
  have entered : (h.enter [.called id hook]).object? id = h.object? id := rfl
  unfold call
  simp only [entered]
  cases there : h.object? id with
  | none => exact .inl ⟨_, rfl⟩
  | some o =>
      cases bound : o.blueprint.hook hook with
      | error e => exact .inl ⟨e, by simp only [bound]⟩
      | ok action =>
          refine .inr ⟨action, ?_, by simp only [bound]⟩
          simp only [bound]
          exact .called there bound rfl

/-- A call of a hook that succeeds has carried out an action. -/
theorem Moves.acts_of_called (moves : Moves h ds h') {hook : String}
    (done : ds = [.called id hook (.ok ())]) :
    ∃ action, h.Acts (.called id hook (.ok ())) id action := by
  cases moves with
  | call x other =>
      obtain ⟨⟨rfl, rfl, succeeds⟩, _⟩ : (x = id ∧ other = hook ∧ (h.call x other).1 = .ok ()) ∧
          True := by simpa using done
      rcases acts_call h x other with ⟨e, refused⟩ | ⟨action, acts, _⟩
      · rw [refused] at succeeds
        cases succeeds
      · exact ⟨action, succeeds ▸ acts⟩
  | construct | inject => simp at done
  | _ => cases done

/-- A step does one thing, or none. -/
theorem Moves.single (moves : Moves h ds h') : ds = [] ∨ ∃ d, ds = [d] := by
  cases moves with
  | construct | inject | call => exact .inr ⟨_, rfl⟩
  | _ => exact .inl rfl

/-! ## What steps leave -/

/-- Where an object comes from that is there after a step. -/
inductive Comes (h : Host σ) (ds : List Deed) (x : ObjectId) (o : Object σ) : Prop where
  | stays (before : h.object? x = some o)
  | made {className : String} {f : Factory σ} (new : x = h.heap.next)
      (known : (className, f) ∈ h.registry.factories) (blueprint : o.blueprint = f.blueprint)
      (bare : f.make = .ok o.state)
  | changed {old : Object σ} {d : Deed} {id : ObjectId} {action : Action σ}
      (before : h.object? x = some old) (blueprint : o.blueprint = old.blueprint) (done : ds = [d])
      (acts : h.Acts d id action) (change : (x, o.state) ∈ (action h.sight id).changes)

omit [Lifecycle σ] in
theorem Comes.of_heap_eq (same : h'.heap = h.heap) (found : h'.object? x = some o) :
    Comes h ds x o := by
  unfold object? at found
  rw [same] at found
  exact .stays found

/-- The action of a call accounts for what is there after it. -/
theorem Comes.of_perform {e : Event} (acts : h.Acts d id action)
    (found : ((h.enter [e]).perform id action).2.object? x = some o) : Comes h [d] x o := by
  rcases object?_perform found with same | ⟨old, live, blueprint, change⟩
  · exact .stays same
  · exact .changed live blueprint rfl acts change

/-- **An object comes from before, from a factory, or from the action of the call.** -/
theorem Moves.comes (moves : Moves h ds h') (found : h'.object? x = some o) : Comes h ds x o := by
  cases moves with
  | enter rs => exact .stays found
  | acquire id =>
      replace found : (h.heap.acquire id).find? x = some o := found
      unfold Heap.acquire at found
      split at found <;> exact .stays found
  | release id =>
      exact .stays (Heap.find?_of_find?_collapses (Heap.collapses_release h.heap id) found)
  | load paths name => exact .of_heap_eq (heap_load h paths name) found
  | scan => exact .stays found
  | construct made =>
      obtain ⟨f, state, known, bare, rfl, rfl⟩ := made_of_construct made
      rcases Heap.find?_allocate_cases found with there | ⟨new, rfl⟩
      · exact .stays there
      · exact .made new (Keyed.mem_of_lookup known) rfl bare
  | inject id name value =>
      rcases acts_inject h id name value with ⟨e, refused⟩ | ⟨action, acts, acted⟩
      · rw [refused] at found
        exact .stays found
      · rw [acted] at found
        exact .of_perform acts found
  | call id hook =>
      rcases acts_call h id hook with ⟨e, refused⟩ | ⟨action, acts, acted⟩
      · rw [refused] at found
        exact .stays found
      · rw [acted] at found
        exact .of_perform acts found

end Host

end Wiring
