/-
# Wiring.Proofs.Creation.Walks -- what a creation comes to own, name by name

A request for a name does nothing if the name is live, or the one it leads to; else it makes that
one live and goes on with what its references ask for.  So a creation that succeeds is a walk along
the references (`Runs.explores`), whatever the document: also one that has several declarations of a
name, or uses a name for an alias and an instance.
-/
import Wiring.Proofs.Context.Start
import Wiring.Proofs.Creation.Closure

namespace Wiring

set_option autoImplicit false

/-! ## Creations -/

namespace Context

open Wiring.Component
open Wiring.Document (Property)

variable {σ : Type}

/-- The names that the references of a declaration ask for. -/
def requests (c : Context σ) (name : String) : List String := (c.references name).map (·.2)

/-- A context came to own, in order, what a walk comes to. -/
structure Explores (c c' : Context σ) (roots : List String) : Prop where
  grown : Extends c c'
  walk : ∃ out, c'.names = c.names ++ out ∧ Walks c.goal c.requests c.names roots out

theorem Extends.requests {c c' : Context σ} (grown : Extends c c') : c'.requests = c.requests := by
  funext n
  unfold Context.requests
  rw [grown.references]

namespace Explores

variable {c c₁ c₂ c' : Context σ} {roots more : List String} {id : ObjectId}

theorem idle (grown : Extends c c') (same : c'.names = c.names) : Explores c c' [] :=
  ⟨grown, [], by rw [same, List.append_nil], .done⟩

theorem of_silent (silent : Silent c c') : Explores c c' [] :=
  .idle (extends_of_silent silent) (names_of_silent silent)

theorem of_serves (serves : Serves id c c') : Explores c c' [] :=
  .idle (extends_of_serves serves) (names_of_serves serves)

/-- A name that is live, or leads to one that is. -/
theorem known {n : String} (explores : Explores c c' []) (settled : Visited c.goal c.names n) :
    Explores c c' [n] := by
  obtain ⟨grown, out, names, walks⟩ := explores
  exact ⟨grown, out, names, .known settled walks⟩

theorem trans (first : Explores c c₁ roots) (second : Explores c₁ c₂ more) :
    Explores c c₂ (roots ++ more) := by
  obtain ⟨grown, out, names, walks⟩ := first
  obtain ⟨grown', out', names', walks'⟩ := second
  have goals : c₁.goal = c.goal := funext grown.goal
  rw [goals, grown.requests, names] at walks'
  exact ⟨grown.trans grown', out ++ out', by rw [names', names, List.append_assoc],
    walks.append walks'⟩

end Explores

/-! ## Every successful creation -/

/-- What a job has come to own when it has succeeded; of a request for an instance that is not kept,
nothing is said. -/
def Explored (c : Context σ) (r : Except Error ObjectId) (c' : Context σ) : Job → Prop
  | .request keep name => keep = true → ∀ id, r = .ok id → Explores c c' [name]
  | .filling _ id ps => r = .ok id → Explores c c' ((c.wires ps).map (·.2))

/-- A request that constructs an instance goes on with what that asks for. -/
theorem Explores.complete {c c₁ c₂ : Context σ} {name target : String} {id : ObjectId}
    (indexed : Indexed c) (wants : Wants c name target)
    (built : (c.noted name).instantiate target = (.ok id, c₁))
    (filled : Explores (c₁.begun true target id) c₂
      ((c₁.begun true target id).requests target)) : Explores c c₂ [name] := by
  obtain ⟨owned, _⟩ := begun_of_built built
  have begun := extends_of_begun true built
  have goal : c.goal name = target := by simp [Context.goal, wants.leads]
  generalize c₁.begun true target id = b at *
  have names : b.names = c.names ++ [target] := by simp [Context.names, owned]
  obtain ⟨grown, out, names', walks⟩ := filled
  have goals : b.goal = c.goal := funext begun.goal
  rw [goals, begun.requests, names] at walks
  rw [← goal] at walks names
  have new : ¬Visited c.goal c.names name := by
    rintro (live | live)
    · exact indexed.lookup_eq_none_iff.1 wants.missing live
    · rw [goal] at live
      exact indexed.lookup_eq_none_iff.1 wants.absent live
  refine ⟨begun.trans grown, c.goal name :: out, ?_, ?_⟩
  · rw [names', names, List.append_assoc]
    rfl
  · simpa using Walks.visit new walks .done

variable [Lifecycle σ]

/-- **A creation that succeeds walks the references from what it is asked for.** -/
theorem Runs.explores {job : Job} {c c' : Context σ} {r : Except Error ObjectId}
    (runs : Runs job c r c') (indexed : Indexed c) : Explored c r c' job := by
  induction runs with
  | @live keep name c id found =>
      rintro - _ -
      have member : name ∈ c.names := List.mem_map.2 ⟨_, indexed.lookup_iff.1 found, rfl⟩
      exact (Explores.of_silent (silent_acquire c id)).known (.inl member)
  | astray missing leads => rintro - _ ⟨⟩
  | @followed keep name target c id missing leads found =>
      rintro - _ -
      have member : target ∈ c.names := List.mem_map.2 ⟨_, indexed.lookup_iff.1 found, rfl⟩
      have goal : c.goal name = target := by simp [Context.goal, leads]
      have silent := (silent_take c (c.view name).aliasTarget).trans (silent_acquire _ id)
      exact (Explores.of_silent silent).known (.inr (goal ▸ member))
  | unfit wants failed => rintro - _ ⟨⟩
  | @complete keep name target c c₁ c₂ c' id wants built filled called ih =>
      rintro rfl _ -
      have begun := indexed.begun true wants built
      have whole := Explores.complete indexed wants built (ih begun rfl)
      exact whole.trans (.of_serves (serves_of_callDone called))
  | undone wants built filled called ih => rintro - _ ⟨⟩
  | broken wants built failed ih => rintro - _ ⟨⟩
  | @filled owner id c => exact fun _ => .idle (.refl c) rfl
  | @nameless owner id p ps c c' r unnamed rest ih =>
      intro ok
      have logged := silent_log c .warn s!"Missing name for {p.change.word} entry of '{owner}'"
      have goes := (Goes.refl c).silent logged
      have rest := ih (goes.indexed indexed) ok
      rw [goes.extended.wires] at rest
      rw [wires_cons_of_skipped ps (.inl unnamed)]
      exact (Explores.of_silent logged).trans rest
  | @plain owner name id p ps c c₁ c' r named value injected rest ih =>
      intro ok
      have served := serves_of_injectPlain injected
      have goes := (Goes.refl c).serves served
      have rest := ih (goes.indexed indexed) ok
      rw [goes.extended.wires] at rest
      rw [wires_cons_of_skipped ps (.inr value)]
      exact (Explores.of_serves served).trans rest
  | plainFails named value failed => rintro ⟨⟩
  | @reference owner name text id value p ps c c₁ c₂ c' r named refers made injected rest made_ih
      ih =>
      intro ok
      have expanded := silent_expand c text
      have first := (Goes.refl c).silent expanded
      have asked := made_ih (first.indexed indexed) rfl value rfl
      obtain ⟨_, _, passes⟩ := passes_of_inject injected
      have handed : Explores c₁ (c₂.release value) [] :=
        .idle ((Extends.passes passes).trans (extends_of_silent (silent_release c₂ value))) (by
          rw [names_of_silent (silent_release c₂ value)]
          unfold Context.names
          rw [passes.only.owned])
      -- The walk goes on from all that the reference has led to.
      have goes := ((first.trans made.goes).trans (.passes passes)).silent (silent_release c₂ value)
      have rest := ih (goes.indexed indexed) ok
      rw [goes.extended.wires] at rest
      rw [wires_cons ps named refers]
      exact (((Explores.of_silent expanded).trans asked).trans handed).trans rest
  | targetFails named refers failed ih => rintro ⟨⟩
  | setterFails named refers made failed ih => rintro ⟨⟩

variable {c c' : Context σ} {ns : List String}

theorem explores_create {n : String} {id : ObjectId} (indexed : Indexed c)
    (made : c.create n = (.ok id, c')) : Explores c c' [n] := by
  have runs := runs_create c n
  rw [made] at runs
  exact runs.explores indexed rfl id rfl

/-- One request after another is one walk. -/
theorem Creates.explores (creates : Creates c ns c') (indexed : Indexed c) : Explores c c' ns := by
  induction creates with
  | @done c => exact .idle (.refl c) rfl
  | @create c c₁ c' n ns id made rest ih =>
      have goes := goes_create c n
      rw [made] at goes
      exact (explores_create indexed made).trans (ih (goes.indexed indexed))
  | @release c c' ns id rest ih =>
      have released := silent_release c id
      have later := ((Goes.refl c).silent released).indexed indexed
      exact (Explores.of_silent released).trans (ih later)

theorem Prepares.explores (prepared : Prepares c ns c') (indexed : Indexed c) :
    Explores c c' ns := by
  induction prepared with
  | nil c => exact .idle (.refl c) rfl
  | @cons c c₁ c' n ns id made rest ih =>
      have announced := silent_log c .info s!"Creating early instance '{n}'"
      have noted := ((Goes.refl c).silent announced).indexed indexed
      have goes := goes_create (c.announced n) n
      rw [made] at goes
      have released := silent_release c₁ id
      have later := (((Goes.refl _).trans goes).silent released).indexed noted
      have first := (Explores.of_silent announced).trans (explores_create noted made)
      exact (first.trans (.of_silent released)).trans (ih later)

end Context

end Wiring
