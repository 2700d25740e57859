/-
# Wiring.Proofs.Context.Detached -- instances that are not kept stay outside the live graph

A request for a detached instance makes an object that the context does not own, and
owns all that this object needs, as it comes up (`Detaches`).  References that lead back
to the name asked for find nothing live under it at first; so a second object is made,
which is owned, and they receive that.

From then on the context leaves the first object alone, whatever is asked of it
(`detached_apart`).
-/
import Wiring.Proofs.Context.Concerns
import Wiring.Proofs.Creation.Answered
import Wiring.Proofs.Creation.Ready

namespace Wiring.Context

set_option autoImplicit false

open Relation (ReflTransGen TransGen)
open Wiring.Component
open Wiring.Document (Property)

variable {σ : Type} [Lifecycle σ] {b c c' c₁ : Context σ} {m n name : String}
  {id : ObjectId} {others : List ObjectId} {document : Document}

/-! ## References -/

omit [Lifecycle σ] in
/-- An entry that was set stands for the value that was injected. -/
theorem Sets.means {owner property : String} {ps : List Property} {calls : List Deed}
    {value : Given} {r : Except Error Unit} (sets : c.Sets owner id ps calls)
    (member : .injected id property value r ∈ calls) :
    ∃ p ∈ ps, c.Means owner property p value := by
  induction sets with
  | nil => exact absurd member List.not_mem_nil
  | cons entry rest ih =>
      rcases List.mem_append.1 member with now | later
      · cases entry with
        | nameless _ => exact absurd now List.not_mem_nil
        | malformed _ _ _ => exact absurd now List.not_mem_nil
        | set named means =>
            cases List.mem_singleton.1 now
            exact ⟨_, List.mem_cons_self, means⟩
      · obtain ⟨p, there, means⟩ := ih later
        exact ⟨p, List.mem_cons_of_mem _ there, means⟩

omit [Lifecycle σ] in
/-- A reference is to an object that is owned. -/
theorem Means.owned {owner property : String} {p : Property} {value : ObjectId}
    (means : c.Means owner property p (.reference value)) : value ∈ c.owned.map (·.2) := by
  cases means with
  | plain direct offered => exact absurd (objects_of_offer offered) (by simp [Given.objects])
  | reference refers finds =>
      rcases finds with live | ⟨_, _, live⟩
      · exact mem_owned_of_lookup live
      · exact mem_owned_of_lookup live

omit [Lifecycle σ] in
/-- In the end nothing is injected. -/
theorem not_mem_finale {x : ObjectId} {property : String} {value : Given}
    {r ended : Except Error Unit} : .injected x property value r ∉ c.finale id ended := by
  unfold finale
  split <;> simp

/-- What a filling that succeeds hands over is owned in the end. -/
theorem Told.hands {owner property : String} {ps : List Property} {ds : List Deed}
    {more chain : List (String × ObjectId)} {x value : ObjectId} {r : Except Error Unit}
    (told : Told (.filling owner id ps) c (.ok id) c' others ds more chain)
    (member : .injected x property (.reference value) r ∈ ds) :
    value ∈ c'.owned.map (·.2) := by
  obtain ⟨rfl, calls, sets, set⟩ := told.done id rfl
  have call : Deed.injected x property (.reference value) r ∈ callsOn x ds :=
    List.mem_filter.2 ⟨member, by simp [Deed.callee]⟩
  rcases told.adds.called _ member x rfl with mine | between
  · -- It was handed to the instance that was filled,
    obtain rfl : x = id := List.mem_singleton.1 mine
    obtain ⟨p, _, means⟩ := sets.means (set ▸ call)
    exact means.owned
  · -- or to one that was made meanwhile, and is furnished.
    have made := told.adds.tends.does.born.2 between
    rw [told.adds.made] at made
    obtain ⟨e, there, rfl⟩ := List.mem_map.1 made
    obtain ⟨calls, sets, all⟩ := (told.furnished e there).resolve_left List.not_mem_nil
    rw [all] at call
    rcases List.mem_append.1 call with first | last
    · obtain ⟨p, _, means⟩ := sets.means first
      exact means.owned
    · exact absurd last not_mem_finale

/-! ## Roots that are not kept -/

/-- What a request for a detached instance, under a name that leads to `m`, comes to: the events
that were entered, and the instances that are owned in addition. -/
structure Detaches (c : Context σ) (name m : String) (id : ObjectId) (c' : Context σ)
    (es : List Event) (more : List (String × ObjectId)) : Prop where
  journal : c'.host.journal = c.host.journal ++ es
  /-- The object is a new one, is not taken over, and a handle to it is handed over. -/
  fresh : c.host.heap.next ≤ id
  apart : ¬Concerns c' id
  handed : c'.host.heap.handles.count id = c.host.heap.handles.count id + 1
  /-- All other objects that were made are owned, and are needed for it. -/
  made : constructedIn es = id :: more.map (·.2)
  owned : c'.owned = c.owned ++ more
  needed : ∀ x ∈ more, c.Needs m x.1
  /-- Each reference that comes up receives what is owned under the name it resolves to, -/
  received : ∀ {owner property text x p ps b},
    Inside (.request false name) c (.filling owner x (p :: ps)) b → p.name = some property →
      p.reference = some text →
        ∃ target, b.Resolves (b.expand text).1 target ∧ Receives x property target es c'
  /-- and none the object itself. -/
  unshared : ∀ x property, .injected x property (.reference id) ∉ es
  /-- What is live under the name in the end is another object, which its own needs called for. -/
  again : ∀ y, c'.lookup m = some y → c.Needs m m ∧ (m, y) ∈ more ∧ y ≠ id

omit [Lifecycle σ] in
theorem silent_begun (built : (c.noted name).instantiate m = (.ok id, c₁)) :
    Silent c (c₁.begun false m id) :=
  (silent_of_built built).1.trans (silent_take c₁ (c₁.view m).properties)

/-- What comes to be owned while an instance is filled is needed for it. -/
theorem Runs.needs_of_filling {r : Except Error ObjectId} {k : String}
    (built : (c.noted name).instantiate m = (.ok id, c₁))
    (filled : Runs (.filling m id ((c₁.enrolled false m id).properties m)) (c₁.begun false m id)
      r b)
    (member : k ∈ b.names) (absent : k ∉ c.names) : c.Needs m k := by
  have grown := extends_of_begun false built
  rcases filled.reaches member with old | covered
  · rw [names_of_silent (silent_begun built)] at old
    exact absurd old absent
  · have properties : (c₁.enrolled false m id).properties m = c.properties m := grown.properties m
    rw [grown.covers, properties] at covered
    obtain ⟨wire, there, path⟩ := covered
    exact TransGen.head' (List.mem_map.2 ⟨wire, there, rfl⟩) path

/-- No reference to an object that is not owned is handed over while it is filled and called. -/
theorem Told.unshared {ps : List Property} {ds : List Deed} {es : List Event}
    {more chain : List (String × ObjectId)} {x : ObjectId} {property : String}
    (told : Told (.filling m id ps) b (.ok id) c₁ others ds more chain)
    (called : c₁.callDone m id = (.ok (), c')) (unowned : id ∉ c'.owned.map (·.2))
    (does : c.host.Does ([.made id] ++ (ds ++ c₁.finale id (.ok ()))) c'.host)
    (follows : c.host.Follows c'.host es) : .injected x property (.reference id) ∉ es := by
  intro entered
  obtain ⟨fs, follows', calls⟩ := does.journal
  have call : Event.injected x property (.reference id) ∈ fs.filter Event.isCall :=
    List.mem_filter.2 ⟨follows.unique follows' ▸ entered, rfl⟩
  rw [calls] at call
  obtain ⟨d, member, same⟩ := List.mem_filterMap.1 call
  cases d with
  | made | called => cases same
  | injected y q value r =>
      cases same
      simp only [List.mem_append, List.mem_singleton, reduceCtorEq, false_or] at member
      have owned := told.hands (member.resolve_right not_mem_finale)
      obtain ⟨_, passes, _⟩ := serves_of_callDone called
      rw [← passes.only.owned] at owned
      exact unowned owned

/-- **A detached instance comes alone**, with what it needs. -/
theorem detaches (indexed : Indexed c) (held : Held c others) (wants : Wants c name m)
    (detached : c.createDetached name = (.ok id, c')) :
    ∃ es more, Detaches c name m id c' es more := by
  have runs : Runs (.request false name) c (.ok id) c' := by
    have runs := runs_createDetached c name
    rwa [detached] at runs
  obtain ⟨c₁, c₂, built, filled, called⟩ := runs.completed wants
  obtain ⟨_, newer, used, _⟩ := silent_of_built built
  have begun := tends_begun false held built
  obtain ⟨ds, more, chain, told⟩ := filled.told (indexed.begun false wants built) begun.held used
  have inner := told.adds.andIdle (.finale told.adds.tends.held called)
  have does := begun.does.trans inner.tends.does
  obtain ⟨es, follows, constructed⟩ := does.constructed
  have indexed' := runs.goes.indexed indexed
  have owned : c'.owned = c.owned ++ more := by
    obtain ⟨_, _, passes⟩ := silent_begun built
    rw [inner.owned, passes.only.owned]
  -- The object is neither one of those that were owned before, nor of those that came in addition.
  have before : id ∉ c.owned.map (·.2) := fun member => by
    obtain ⟨e, there, same⟩ := List.mem_map.1 member
    exact Nat.lt_irrefl _ (Nat.lt_of_lt_of_le (same ▸ indexed.fresh e there) newer)
  have other : ∀ x ∈ more, x.2 ≠ id := fun x member same =>
    inner.other used member (List.mem_singleton.2 same)
  have unowned : id ∉ c'.owned.map (·.2) := by
    rw [owned, List.map_append, List.mem_append, not_or]
    refine ⟨before, fun member => ?_⟩
    obtain ⟨x, there, same⟩ := List.mem_map.1 member
    exact other x there same
  have needed : ∀ x ∈ more, c.Needs m x.1 := by
    intro x member
    have named : x.1 ∈ c'.names := List.mem_map_of_mem (owned ▸ List.mem_append_right _ member)
    have absent : x.1 ∉ c.names := by
      have distinct := indexed'.names
      rw [Context.names, owned, List.map_append] at distinct
      exact fun old => List.disjoint_of_nodup_append distinct old (List.mem_map_of_mem member)
    rw [names_of_serves (serves_of_callDone called)] at named
    exact filled.needs_of_filling built named absent
  refine ⟨es, more, follows.journal, newer, ?_, ?_, ?_, owned, needed, ?_, ?_, ?_⟩
  · have older : id < c'.host.heap.next := Nat.lt_of_lt_of_le used inner.tends.does.next_le
    exact fun concerns => concerns.elim (Nat.not_le.2 older) unowned
  · have handles : c'.host.heap.handles.Perm (id :: others ++ c'.owned.map (·.2)) :=
      inner.tends.held.handles
    rw [handles.count_eq, held.handles.count_eq, List.count_append, List.count_append,
      List.count_cons_self, List.count_eq_zero.2 unowned, List.count_eq_zero.2 before]
  · rw [constructed, madeIn_append, inner.made]
    rfl
  · intro owner property text x p ps b inside named refers
    exact inside.receives indexed ⟨id, c', runs, .refl c'⟩ named refers follows.journal
  · exact fun x property => told.unshared called unowned does follows
  · intro y live
    have member := indexed'.lookup_iff.1 live
    rw [owned] at member
    rcases List.mem_append.1 member with old | new
    · have found := indexed.lookup_iff.2 old
      rw [wants.absent] at found
      cases found
    · exact ⟨needed _ new, new, other _ new⟩

/-! ## The rest of its life -/

/-- **Detached instances stay outside the live graph.**  Let the instance that a name leads to not
be live.  If a request for a detached one succeeds, the answer is a new object, with a handle to it.
All else that it made is owned, and is needed for that object over references; each reference that
came up was answered with what is owned under the name that it resolved to, none with the object
itself.  If references lead back to the name, a second object is owned under it.

Whatever becomes of the context from then on, it leaves the first object alone: it never owns it,
never calls it again, and takes none of its handles, be it when it is shut down or in the end. -/
theorem detached_apart (reached : Reached document c) (wants : Wants c name m)
    (detached : c.createDetached name = (.ok id, c')) :
    (∃ es more, Detaches c name m id c' es more) ∧
      ∀ later, Becomes c' later → LeavesAlone later id := by
  obtain ⟨others, held⟩ := reached.held
  obtain ⟨es, more, detaches⟩ := detaches reached.indexed held wants detached
  refine ⟨⟨es, more, detaches⟩, fun later becomes => ?_⟩
  have made : Reached document c' := by
    have happens : Happens c (some (.createDetached name)) (c.operate (.createDetached name)) :=
      .called trivial
    have after : c.operate (.createDetached name) = c' := congrArg Prod.snd detached
    exact reached.next (after ▸ happens)
  obtain ⟨reached', concerns⟩ := becomes.concerns made
  exact reached'.leavesAlone fun later => detaches.apart (concerns later)

def mirrored : Document where
  instances := [
    { name := "a", className := some "oracle::Ring",
      properties := [{ name := some "next", reference := some "b" }] },
    { name := "b", className := some "oracle::Ring",
      properties := [{ name := some "next", reference := some "a" }] }]

theorem detached_apart_mirrored :
    let c := (build Sample.host .empty mirrored {}).2
    let after := (c.createDetached "a").2
    (c.createDetached "a").1 = .ok 0 ∧ after.owned = [("b", 1), ("a", 2)] ∧
      (∃ es more, Detaches c "a" "a" 0 after es more) ∧ LeavesAlone (after.operate .shutdown) 0 := by
  intro c after
  have reached : Reached mirrored c := .built Heap.fresh_empty .empty {}
  have wants : Wants c "a" "a" :=
    ⟨by decide +kernel, by decide +kernel, by decide +kernel⟩
  have answer : (c.createDetached "a").1 = .ok 0 := by decide +kernel
  obtain ⟨detaches, alone⟩ := detached_apart reached wants (Prod.ext answer rfl)
  have last : Happens after (some .shutdown) (after.operate .shutdown) := .called trivial
  exact ⟨answer, by decide +kernel, detaches, alone _ (.single ⟨_, last⟩)⟩

end Wiring.Context
