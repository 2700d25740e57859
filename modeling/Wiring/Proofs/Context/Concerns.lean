/-
# Wiring.Proofs.Context.Concerns -- the objects that a context has to do with

An object concerns a context if the context owns it, or if it is still to be made.
Whatever is asked of a context, up to its end, calls such objects only
(`minds_operate`), is answered with such objects only, and gives up no handle to any
other (`hands_operate`).  And what does not concern a context any more never will again
(`Becomes.concerns`): such an object is left alone (`Reached.leavesAlone`).
-/
import Wiring.Proofs.Context.Life
import Wiring.Proofs.Creation.Singleton

namespace Wiring.Context

set_option autoImplicit false

open Relation (ReflTransGen)
open Wiring.Component

variable {σ : Type} {a b c c' : Context σ} {name : String} {id x : ObjectId}

/-- An object that a context owns, or that is still to be made. -/
def Concerns (c : Context σ) (x : ObjectId) : Prop :=
  c.host.heap.next ≤ x ∨ x ∈ c.owned.map (·.2)

theorem concerns_of_lookup (found : c.lookup name = some x) : Concerns c x :=
  .inr (mem_owned_of_lookup found)

theorem concerns_of_find (found : (c.find name).1 = some x) : Concerns c x := by
  rcases find_eq_some_iff.1 found with live | ⟨_, _, _, live⟩
  · exact concerns_of_lookup live
  · exact concerns_of_lookup live

/-- A context comes to own nothing but what is made then. -/
theorem Extends.concerns (grown : Extends c c') (concerns : Concerns c' x) : Concerns c x := by
  obtain ⟨more, owned, newer⟩ := grown.owned
  rcases concerns with new | member
  · exact .inl (Nat.le_trans grown.next new)
  · rw [owned, List.map_append] at member
    rcases List.mem_append.1 member with old | new
    · exact .inr old
    · obtain ⟨e, there, rfl⟩ := List.mem_map.1 new
      exact .inl (newer e there)

variable [Lifecycle σ] {others left : List ObjectId} {ds es : List Deed} {document : Document}

/-! ## What is called -/

/-- By what was done, only objects were called that concern the context. -/
def Minds (c c' : Context σ) : Prop :=
  ∃ ds, c.host.Does ds c'.host ∧ ∀ d ∈ ds, ∀ x, d.callee = some x → Concerns c x

def Uncalled (id : ObjectId) (c c' : Context σ) : Prop :=
  ∃ es, c'.host.journal = c.host.journal ++ es ∧ id ∉ callees es

/-- The journal tells who was called. -/
theorem Minds.uncalled (minds : Minds c c') (other : ¬Concerns c id) : Uncalled id c c' := by
  obtain ⟨ds, does, concerned⟩ := minds
  obtain ⟨es, follows, calls⟩ := does.journal
  refine ⟨es, follows.journal, fun member => ?_⟩
  obtain ⟨e, there, callee⟩ := List.mem_filterMap.1 member
  have entered : e ∈ ds.filterMap Deed.event? := by
    rw [← calls, List.mem_filter]
    exact ⟨there, by rw [Event.isCall, callee]; rfl⟩
  obtain ⟨d, done, same⟩ := List.mem_filterMap.1 entered
  refine other (concerned d done id ?_)
  cases d with
  | made id => cases same
  | injected | called =>
      cases same
      exact callee

namespace Minds

theorem rests (rests : Rests c c') : Minds c c' := ⟨[], rests.does, by simp⟩

theorem andRests (minds : Minds c b) (rests : Rests b c') : Minds c c' := by
  obtain ⟨ds, does, concerned⟩ := minds
  refine ⟨ds, ?_, concerned⟩
  rw [← List.append_nil ds]
  exact does.trans rests.does

/-- A root is made, filled and called. -/
theorem root {target : String} {c₁ : Context σ} {more : List (String × ObjectId)}
    (held : Held c others) (built : (c.noted name).instantiate target = (.ok id, c₁))
    (adds : Adds [id] (c₁.begun false target id) ds c' left more) : Minds c c' := by
  have begun := (tends_begun false held built).does
  refine ⟨_, begun.trans adds.tends.does, fun d member x callee => .inl ?_⟩
  rcases List.mem_append.1 member with first | later
  · rw [List.mem_singleton.1 first] at callee
    cases callee
  · rcases adds.called d later x callee with mine | ⟨newer, _⟩
    · rw [List.mem_singleton.1 mine]
      exact (silent_of_built built).2.1
    · exact Nat.le_trans begun.next_le newer

end Minds

/-- Requests call new objects only. -/
theorem Runs.minds {keep : Bool} {r : Except Error ObjectId}
    (runs : Runs (.request keep name) c r c') (indexed : Indexed c) (held : Held c others) :
    Minds c c' := by
  cases keep with
  | true =>
      obtain ⟨ds, more, chain, told⟩ := runs.told indexed held rfl
      refine ⟨ds, told.adds.tends.does, fun d member x callee => .inl ?_⟩
      exact ((told.adds.called d member x callee).resolve_left List.not_mem_nil).1
  | false =>
      have noted : Rests c (c.noted name) := (proceeds_take c (c.view name).aliasTarget).rests
      have filling {target : String} {id : ObjectId} {c₁ b : Context σ} {r : Except Error ObjectId}
          (wants : Wants c name target) (built : (c.noted name).instantiate target = (.ok id, c₁))
          (filling : Runs (.filling target id ((c₁.enrolled false target id).properties target))
            (c₁.begun false target id) r b) :=
        filling.told (indexed.begun false wants built) (tends_begun false held built).held
          (silent_of_built built).2.2.1
      cases runs with
      | live found => exact .rests (.acquire c _)
      | astray missing leads => exact .rests noted
      | followed missing leads found => exact .rests (noted.trans (.acquire _ _))
      | unfit wants failed => exact .rests (proceeds_of_unfit failed).rests
      | complete wants built filled called =>
          obtain ⟨ds, more, chain, told⟩ := filling wants built filled
          exact .root held built (told.adds.andIdle (.finale told.adds.tends.held called))
      | undone wants built filled called =>
          obtain ⟨ds, more, chain, told⟩ := filling wants built filled
          have adds := told.adds.andIdle (.finale told.adds.tends.held called)
          exact (Minds.root held built adds).andRests (.release _ _)
      | broken wants built failed =>
          obtain ⟨ds, more, chain, told⟩ := filling wants built failed
          exact (Minds.root held built told.adds).andRests (.release _ _)

theorem minds_shutdown (held : Held c others) : Minds c c.shutdown := by
  obtain ⟨es, does, only, _⟩ := does_shutdown held
  refine ⟨es, does, fun d member x callee => .inr ?_⟩
  obtain ⟨e, owned, r, rfl⟩ := only d member
  cases callee
  exact List.mem_map.2 ⟨e, owned, rfl⟩

/-- So does the end. -/
theorem minds_close (held : Held c others) : Minds c c.close := by
  obtain ⟨ds, does, concerned⟩ := minds_shutdown held
  refine ⟨ds, ?_, concerned⟩
  rw [← List.append_nil ds]
  exact does.trans (does_releaseAll c.shutdown.host _)

/-- **Whatever is asked of a context, it calls objects only that concern it.** -/
theorem minds_operate (indexed : Indexed c) (held : Held c others) (call : Operation) :
    Minds c (c.operate call) := by
  cases call with
  | create name => exact (runs_create c name).minds indexed held
  | createDetached name => exact (runs_createDetached c name).minds indexed held
  | createAs name target =>
      have created := (runs_create c name).minds indexed held
      show Minds c (c.createAs name target).2
      unfold createAs
      cases made : c.create name with
      | mk r after =>
          rw [made] at created
          cases r with
          | error e => exact created
          | ok id => exact created.andRests (rests_castHandle after id target)
  | find name => exact .rests (rests_find c name)
  | findAs name target =>
      have looked := rests_find c name
      show Minds c (c.findAs name target).2
      unfold findAs
      cases found : c.find name with
      | mk answer after =>
          rw [found] at looked
          cases answer with
          | none => exact .rests looked
          | some id =>
              have used := looked.trans (rests_castHandle after id target)
              simp only
              cases cast : after.castHandle id target with
              | mk r final =>
                  rw [cast] at used
                  cases r <;> exact .rests used
  | release id => exact .rests (.release c id)
  | shutdown => exact minds_shutdown held

/-! ## Whose handles change -/

/-- Requests are answered with what is live or new. -/
theorem Runs.concerns {keep : Bool} (runs : Runs (.request keep name) c (.ok id) c') :
    Concerns c id := by
  cases runs with
  | live found => exact concerns_of_lookup found
  | followed missing leads found => exact concerns_of_lookup found
  | complete wants built filled called => exact .inl (silent_of_built built).2.1

/-- All handles of others are there after a call, and handles to answers in addition. -/
def Hands (c c' : Context σ) (others : List ObjectId) : Prop :=
  ∃ answers, Held c' (answers ++ others) ∧ ∀ x ∈ answers, Concerns c x

theorem hands_of_run {keep : Bool} {r : Except Error ObjectId} (held : Held c others)
    (runs : Runs (.request keep name) c r c') : Hands c c' others := by
  refine ⟨_, (runs.tended held).held, fun x member => ?_⟩
  cases r with
  | error e => exact absurd member List.not_mem_nil
  | ok id => exact List.mem_singleton.1 member ▸ runs.concerns

/-- An answer that is used as a type is kept or given up. -/
theorem hands_castHandle (concerns : Concerns c id) (held : Held c' (id :: others))
    (target : TypeName) : Hands c (c'.castHandle id target).2 others := by
  unfold castHandle
  split
  · refine ⟨[id], held, fun x member => List.mem_singleton.1 member ▸ concerns⟩
  · exact ⟨[], (tends_release held).held, by simp⟩

/-- **A call other than to give up a handle takes none from others.** -/
theorem hands_operate (held : Held c others) {call : Operation}
    (other : ∀ id, call ≠ .release id) : Hands c (c.operate call) others := by
  have looked (name : String) : Hands c (c.find name).2 others :=
    ⟨_, (tended_find held name).held, fun x member =>
      concerns_of_find (Option.mem_toList.1 member)⟩
  cases call with
  | create name => exact hands_of_run held (runs_create c name)
  | createDetached name => exact hands_of_run held (runs_createDetached c name)
  | createAs name target =>
      have runs := runs_create c name
      show Hands c (c.createAs name target).2 others
      unfold createAs
      cases made : c.create name with
      | mk r after =>
          rw [made] at runs
          cases r with
          | error e => exact hands_of_run held runs
          | ok id => exact hands_castHandle runs.concerns (runs.tended held).held target
  | find name => exact looked name
  | findAs name target =>
      have looked := looked name
      have tended := tended_find held name
      have concerned (x : ObjectId) : (c.find name).1 = some x → Concerns c x := concerns_of_find
      show Hands c (c.findAs name target).2 others
      unfold findAs
      cases found : c.find name with
      | mk answer after =>
          rw [found] at looked tended concerned
          cases answer with
          | none => exact looked
          | some id =>
              have used := hands_castHandle (concerned id rfl) tended.held target
              simp only
              cases cast : after.castHandle id target with
              | mk r final =>
                  rw [cast] at used
                  cases r <;> exact used
  | release id => exact absurd rfl (other id)
  | shutdown => exact ⟨[], held_shutdown held, by simp⟩

omit [Lifecycle σ] in
/-- What does not concern a context has no handles but those of others. -/
theorem count_handles (held : Held c others) (other : ¬Concerns c id) :
    c.host.heap.handles.count id = others.count id := by
  have unowned : (c.owned.map (·.2)).count id = 0 :=
    List.count_eq_zero.2 fun member => other (.inr member)
  rw [held.handles.count_eq, List.count_append, unowned, Nat.add_zero]

/-! ## What is left alone -/

theorem concerns_of_shutdown (held : Held c others) (concerns : Concerns c.shutdown x) :
    Concerns c x := by
  obtain ⟨ds, does, _⟩ := minds_shutdown held
  rcases concerns with new | member
  · exact .inl (Nat.le_trans does.next_le new)
  · right
    unfold shutdown at member
    split at member
    · exact member
    · exact absurd member List.not_mem_nil

theorem concerns_of_operate (held : Held c others) {call : Operation}
    (concerns : Concerns (c.operate call) x) : Concerns c x := by
  by_cases last : call = .shutdown
  · subst last
    exact concerns_of_shutdown held concerns
  · exact (goes_operate c last).extended.concerns concerns

/-- Whatever happens, nothing comes to concern a context that did not. -/
theorem Happens.concerns {label : Option Operation} (happens : Happens c label c')
    (held : Held c others) (concerns : Concerns c' x) : Concerns c x := by
  cases happens with
  | called fair => exact concerns_of_operate held concerns
  | aside environment moves handles =>
      exact concerns.imp_left fun new => Nat.le_trans moves.does.next_le new

def Becomes : Context σ → Context σ → Prop := ReflTransGen fun a b => ∃ label, Happens a label b

theorem Becomes.concerns (becomes : Becomes c c') (reached : Reached document c) :
    Reached document c' ∧ (Concerns c' x → Concerns c x) := by
  induction becomes with
  | refl => exact ⟨reached, id⟩
  | tail _ last ih =>
      obtain ⟨before, concerns⟩ := ih
      obtain ⟨label, happens⟩ := last
      obtain ⟨others, held⟩ := before.held
      exact ⟨before.next happens, fun later => concerns (happens.concerns held later)⟩

/-- A context leaves an object alone: it does not own it, no call and not the end of the context
calls it, and its handles stay, unless somebody gives one of them up. -/
structure LeavesAlone (c : Context σ) (id : ObjectId) : Prop where
  unowned : id ∉ c.owned.map (·.2)
  uncalled : ∀ call, Uncalled id c (c.operate call)
  handles : ∀ call, call ≠ .release id →
    (c.operate call).host.heap.handles.count id = c.host.heap.handles.count id
  closed : Uncalled id c c.close ∧
    c.close.host.heap.handles.count id = c.host.heap.handles.count id

theorem count_release {h : Host σ} {y : ObjectId} (other : id ≠ y) :
    (h.release y).heap.handles.count id = h.heap.handles.count id := by
  show (h.heap.release y).1.handles.count id = _
  rw [Heap.handles_release, List.count_erase_of_ne other]

theorem count_releaseAll {h : Host σ} {ids : List ObjectId} (absent : id ∉ ids) :
    (h.releaseAll ids).heap.handles.count id = h.heap.handles.count id := by
  induction ids generalizing h with
  | nil => rfl
  | cons y rest ih =>
      rw [List.mem_cons, not_or] at absent
      exact (ih absent.2).trans (count_release absent.1)

/-- **What does not concern a context is left alone.** -/
theorem Reached.leavesAlone (reached : Reached document c) (other : ¬Concerns c id) :
    LeavesAlone c id := by
  obtain ⟨others, held⟩ := reached.held
  refine ⟨fun member => other (.inr member), ?_, ?_, ?_, ?_⟩
  · exact fun call => (minds_operate reached.indexed held call).uncalled other
  · intro call kept
    by_cases given : ∃ y, call = .release y
    · obtain ⟨y, rfl⟩ := given
      exact count_release fun same => kept (congrArg Operation.release same.symm)
    · obtain ⟨answers, held', concerned⟩ :=
        hands_operate held fun y same => given ⟨y, same⟩
      have still : ¬Concerns (c.operate call) id := fun concerns =>
        other (concerns_of_operate held concerns)
      have none : answers.count id = 0 :=
        List.count_eq_zero.2 fun member => other (concerned id member)
      rw [count_handles held' still, List.count_append, none, Nat.zero_add,
        count_handles held other]
  · exact (minds_close held).uncalled other
  · have shut : ¬Concerns c.shutdown id :=
      fun concerns => other (concerns_of_shutdown held concerns)
    have absent : id ∉ c.shutdown.owned.map (·.2) := fun member => shut (.inr member)
    show (c.shutdown.host.releaseAll _).heap.handles.count id = _
    rw [count_releaseAll absent, count_handles (held_shutdown held) shut, count_handles held other]

end Wiring.Context
