/-
# Wiring.Proofs.Creation.Ready -- what an instance needs is furnished before it

While a creation goes on, each instance that is owned is furnished, or it waits for what
is being made just then, which it refers to directly or over others (`Poised`).  A job
hands this on to every job inside it (`Inside.poised`).

So when the entries of an instance have been gone through, all that it needs is
furnished, unless it needs itself (`Poised.ready`): what waits for it needs it.
-/
import Wiring.Proofs.Creation.Closes
import Wiring.Proofs.Creation.Failure

namespace Wiring.Context

set_option autoImplicit false

open Relation (ReflTransGen TransGen)
open Wiring.Component
open Wiring.Document (Property)

variable {σ : Type} {c c' : Context σ} {n k owner name : String} {id : ObjectId} {p : Property}
  {ps rest : List Property} {calls : List Deed}

/-! ## Needs -/

/-- The instance of one name needs that of another: it refers to it, directly or over others. -/
abbrev Needs (c : Context σ) : String → String → Prop := TransGen fun a b => b ∈ c.successors a

theorem Extends.needs (grown : Extends c c') : c'.Needs = c.Needs := by
  unfold Needs
  rw [grown.successors]

/-- What is needed lies among names that are closed under succession. -/
theorem Needs.within {names : List String}
    (closed : ∀ a ∈ n :: names, ∀ b ∈ c.successors a, b ∈ names) (needs : c.Needs n k) :
    k ∈ names := by
  induction needs with
  | single edge => exact closed n List.mem_cons_self _ edge
  | tail _ edge ih => exact closed _ (List.mem_cons_of_mem n ih) _ edge

/-- What an entry refers to is a successor of its owner. -/
theorem goal_mem_successors {text : String} {done : List Property}
    (split : c.properties owner = done ++ p :: ps) (named : p.name = some name)
    (refers : p.reference = some text) : c.goal (c.expand text).1 ∈ c.successors owner := by
  refine List.mem_map.2 ⟨(name, (c.expand text).1), ?_, rfl⟩
  refine List.mem_filterMap.2 ⟨p, split ▸ List.mem_append_right _ List.mem_cons_self, ?_⟩
  simp only [named, refers]
  rfl

/-- What entries that were set refer to was found. -/
theorem Sets.finds (sets : c.Sets owner id ps calls) {wire : String × String}
    (member : wire ∈ c.wires ps) : ∃ i, c.Finds wire.2 i := by
  induction sets with
  | nil => simp [wires] at member
  | @cons p ps calls more entry _ ih =>
      cases entry with
      | nameless unnamed => exact ih (wires_cons_of_skipped ps (.inl unnamed) ▸ member)
      | malformed named direct _ => exact ih (wires_cons_of_skipped ps (.inr direct) ▸ member)
      | set named means =>
          cases means with
          | plain direct _ => exact ih (wires_cons_of_skipped ps (.inr direct) ▸ member)
          | @reference text i refers finds =>
              rw [wires_cons ps named refers] at member
              rcases List.mem_cons.1 member with rfl | later
              · exact ⟨i, finds⟩
              · exact ih later

/-- What a name finds is owned under the name that it leads to. -/
theorem Indexed.owned_of_finds (indexed : Indexed c) (apart : c.document.Apart)
    (finds : c.Finds name id) : (c.goal name, id) ∈ c.owned := by
  rcases finds with live | ⟨target, leads, live⟩
  · have owned := indexed.lookup_iff.1 live
    have declared := indexed.declared name (List.mem_map.2 ⟨_, owned, rfl⟩)
    unfold goal
    rw [leadsTo_of_declared apart declared]
    exact owned
  · unfold goal
    rw [leads]
    exact indexed.lookup_iff.1 live

/-- The successors of an instance that got all its entries are owned. -/
theorem Sets.owned (sets : c.Sets n id (c.properties n) calls) (indexed : Indexed c)
    (apart : c.document.Apart) (edge : k ∈ c.successors n) : ∃ i, (k, i) ∈ c.owned := by
  obtain ⟨wire, member, rfl⟩ := List.mem_map.1 edge
  obtain ⟨i, finds⟩ := sets.finds member
  exact ⟨i, indexed.owned_of_finds apart finds⟩

/-! ## Steady contexts -/

variable [Lifecycle σ] {D ds : List Deed} {own others : List ObjectId}
  {more : List (String × ObjectId)} {job job' : Job}

/-- A context that is indexed and has its handles, after deeds that called nothing but what was
there. -/
structure Steady (D : List Deed) (c : Context σ) : Prop where
  indexed : Indexed c
  held : ∃ others, Held c others
  older : ∀ d ∈ D, ∀ x, d.callee = some x → x < c.host.heap.next

namespace Steady

omit [Lifecycle σ] in
theorem spared (steady : Steady D c) (newer : c.host.heap.next ≤ id) : callsOn id D = [] := by
  apply callsOn_eq_nil
  intro d member callee
  exact Nat.lt_irrefl _ (Nat.lt_of_lt_of_le (steady.older d member id callee) newer)

theorem after (steady : Steady D c) (goes : Goes c c') (tends : Tends c ds c' others)
    (called : ∀ d ∈ ds, ∀ x, d.callee = some x → x < c'.host.heap.next) :
    Steady (D ++ ds) c' := by
  refine ⟨goes.indexed steady.indexed, ⟨others, tends.held⟩, fun d member x callee => ?_⟩
  rcases List.mem_append.1 member with old | new
  · exact Nat.lt_of_lt_of_le (steady.older d old x callee) goes.extended.next
  · exact called d new x callee

theorem adds (steady : Steady D c) (adds : Adds own c ds c' others more)
    (ready : ∀ x ∈ own, x < c.host.heap.next) : Steady (D ++ ds) c' := by
  refine steady.after adds.goes adds.tends fun d member x callee => ?_
  rcases adds.called d member x callee with mine | ⟨_, high⟩
  · exact Nat.lt_of_lt_of_le (ready x mine) adds.goes.extended.next
  · exact high

end Steady

/-! ## Poised contexts -/

/-- The names whose instances wait for a job. -/
def Job.Blocks (c : Context σ) : Job → String → Prop
  | .request _ name, n => c.Needs n (c.goal name)
  | .filling owner _ _, n => Reaches c.successors n owner

/-- The entries of an instance have been dealt with up to those that are left. -/
def Job.Halfway (c : Context σ) : Job → Prop
  | .request .. => True
  | .filling owner id ps => id < c.host.heap.next ∧ (∀ e ∈ c.owned, e.2 = id → e.1 = owner) ∧
    ∃ done calls, c.properties owner = done ++ ps ∧ c.Sets owner id done calls

/-- At the beginning of a job, all instances are furnished but those that wait for it. -/
structure Poised (D : List Deed) (job : Job) (c : Context σ) : Prop extends Steady D c where
  settled : ∀ e ∈ c.owned, c.Furnished D e ∨ job.Blocks c e.1
  halfway : job.Halfway c

namespace Poised

variable {c₁ : Context σ} {target text : String} {keep : Bool}

/-- An instance is begun, for which waits what waited for the request. -/
theorem begins (poised : Poised D (.request keep name) c) (wants : Wants c name target)
    (built : (c.noted name).instantiate target = (.ok id, c₁)) :
    Poised (D ++ [.made id]) (.filling target id ((c₁.enrolled keep target id).properties target))
      (c₁.begun keep target id) := by
  obtain ⟨others, held⟩ := poised.held
  have goes : Goes c (c₁.begun keep target id) := .single (.begins wants built)
  have tends := tends_begun keep held built
  have goal : c.goal name = target := by simp [Context.goal, wants.leads]
  obtain ⟨⟨_, _, passes⟩, newer, used, _⟩ := silent_of_built built
  have owned : ∀ e ∈ (c₁.begun keep target id).owned, e ∈ c.owned ∨ e = (target, id) := by
    intro e member
    cases keep with
    | false => exact .inl (passes.only.owned ▸ member)
    | true =>
        rcases List.mem_append.1 member with old | new
        · exact .inl (passes.only.owned ▸ old)
        · exact .inr (List.mem_singleton.1 new)
  refine ⟨poised.after goes tends (by simp [Deed.callee]), fun e member => ?_, ?_, ?_, [], [],
    rfl, .nil⟩
  · show _ ∨ Reaches _ e.1 target
    rw [goes.extended.successors]
    rcases owned e member with old | rfl
    · rcases poised.settled e old with furnished | needs
      · exact .inl ((furnished.lasts poised.indexed old goes tends).extend rfl)
      · exact .inr (goal ▸ TransGen.to_reflTransGen needs)
    · exact .inr .refl
  · obtain ⟨_, _, follows⟩ := quiet_begun c₁ keep target id
    exact Nat.lt_of_lt_of_le used follows.next
  · intro e member same
    rcases owned e member with old | rfl
    · have older := poised.indexed.fresh e old
      rw [same] at older
      exact absurd newer (Nat.not_le.2 older)
    · rfl

/-- An entry is dealt with, and all that this adds is furnished. -/
theorem dealt (poised : Poised D (.filling owner id (p :: ps)) c)
    (dealt : Dealt owner id p c ds c' others more) :
    Poised (D ++ ds) (.filling owner id ps) c' := by
  obtain ⟨ready, mine, done, calls, split, sets⟩ := poised.halfway
  obtain ⟨adds, all, entry⟩ := dealt
  have grown := adds.goes.extended
  have owned : ∀ e ∈ c'.owned, e ∈ c.owned ∨ e ∈ more := fun e member =>
    List.mem_append.1 (adds.owned ▸ member)
  have steady : Steady (D ++ ds) c' :=
    poised.adds adds fun x mine => List.mem_singleton.1 mine ▸ ready
  have mine' : ∀ e ∈ c'.owned, e.2 = id → e.1 = owner := by
    intro e member same
    rcases owned e member with old | new
    · exact mine e old same
    · exact absurd (List.mem_singleton.2 same) (adds.other ready new)
  refine ⟨steady, fun e member => ?_, Nat.lt_of_lt_of_le ready grown.next, mine', done ++ [p],
    calls ++ callsOn id ds, ?_, ?_⟩
  · show _ ∨ Reaches _ e.1 owner
    rw [grown.successors]
    rcases owned e member with old | new
    · rcases poised.settled e old with furnished | waits
      · -- The instance that is filled is called, but it waits for its own filling anyway.
        by_cases same : e.2 = id
        · exact .inr (mine e old same ▸ .refl)
        · exact .inl (furnished.append poised.indexed old (by simpa using same) adds)
      · exact .inr waits
    · exact .inl ((all e new).prepend (poised.spared (adds.newer new)))
  · rw [grown.properties, split, List.append_assoc]
    rfl
  · have upholds := grown.upholds poised.indexed steady.indexed
    refine (sets.mono upholds).append ?_
    rw [← List.append_nil (callsOn id ds)]
    exact .cons entry .nil

/-- A reference is followed; now its owner waits as well. -/
theorem follows (poised : Poised D (.filling owner id (p :: ps)) c) (named : p.name = some name)
    (refers : p.reference = some text) :
    Poised D (.request true (c.expand text).1) (c.expand text).2 := by
  obtain ⟨others, held⟩ := poised.held
  obtain ⟨_, _, done, _, split, _⟩ := poised.halfway
  have expanded := proceeds_expand c text
  have idle : Adds [] c [] (c.expand text).2 others [] :=
    .idle expanded.only (expanded.tends held)
  have steady := poised.adds idle (by simp)
  rw [List.append_nil] at steady
  refine ⟨steady, fun e member => ?_, trivial⟩
  show _ ∨ Needs _ e.1 _
  rw [idle.goes.extended.needs, idle.goes.extended.goal]
  have old : e ∈ c.owned := by
    rw [idle.owned, List.append_nil] at member
    exact member
  rcases poised.settled e old with furnished | waits
  · exact .inl (furnished.lasts poised.indexed old idle.goes idle.tends)
  · exact .inr (TransGen.tail' waits (goal_mem_successors split named refers))

omit [Lifecycle σ] in
/-- If an instance is live later on, then under the name for which it is filled. -/
theorem named (poised : Poised D (.filling owner id ps) c) (goes : Goes c c')
    (live : c'.lookup n = some id) : n = owner := by
  obtain ⟨ready, mine, _⟩ := poised.halfway
  obtain ⟨more, owned, newer⟩ := goes.extended.owned
  have there := (goes.indexed poised.indexed).lookup_iff.1 live
  rw [owned] at there
  rcases List.mem_append.1 there with old | new
  · exact mine _ old rfl
  · exact absurd (newer _ new) (Nat.not_le.2 ready)

omit [Lifecycle σ] in
/-- **What an instance needs is furnished when its entries have been gone through**, unless it needs
itself. -/
theorem ready (poised : Poised D (.filling n id []) c) (apart : c.document.Apart)
    (acyclic : ¬ c.Needs n n) (needs : c.Needs n k) :
    ∃ i, c.lookup k = some i ∧ c.host.heap.isLive i ∧ c.Furnished D (k, i) := by
  obtain ⟨others, held⟩ := poised.held
  obtain ⟨_, _, done, calls, split, sets⟩ := poised.halfway
  rw [List.append_nil] at split
  -- What does not wait for the instance is furnished, and what the instance needs does not.
  have furnished {a : String} {i : ObjectId} (needs : c.Needs n a) (owned : (a, i) ∈ c.owned) :
      c.Furnished D (a, i) :=
    (poised.settled (a, i) owned).resolve_right fun waits =>
      acyclic (TransGen.trans_left needs waits)
  have found : ∃ i, (k, i) ∈ c.owned ∧ c.Furnished D (k, i) := by
    induction needs with
    | single edge =>
        obtain ⟨i, owned⟩ := (split ▸ sets : c.Sets n id (c.properties n) calls).owned
          poised.indexed apart edge
        exact ⟨i, owned, furnished (.single edge) owned⟩
    | tail path edge ih =>
        obtain ⟨_, _, _, set, _⟩ := ih
        obtain ⟨i, owned⟩ := set.owned poised.indexed apart edge
        exact ⟨i, owned, furnished (.tail path edge) owned⟩
  obtain ⟨i, owned, all⟩ := found
  exact ⟨i, poised.indexed.lookup_iff.2 owned, held.live _ owned, all⟩

end Poised

/-! ## Jobs inside jobs -/

/-- A job hands on what it begins with. -/
theorem Opens.poised (opens : Opens job c job' c') (poised : Poised D job c) :
    ∃ ds, c.host.Does ds c'.host ∧ Poised (D ++ ds) job' c' := by
  obtain ⟨others, held⟩ := poised.held
  cases opens with
  | begins wants built => exact ⟨_, (tends_begun _ held built).does, poised.begins wants built⟩
  | nameless unnamed =>
      exact ⟨[], (proceeds_log _ _ _).does, poised.dealt (dealt_nameless held unnamed _ _)⟩
  | plain named value injected =>
      obtain ⟨ds, dealt⟩ := dealt_plain held named value injected
      exact ⟨ds, dealt.adds.tends.does, poised.dealt dealt⟩
  | @follows owner name text id p ps c named refers =>
      refine ⟨[], (proceeds_expand c text).does, ?_⟩
      rw [List.append_nil]
      exact poised.follows named refers
  | @reference owner name text id value p ps c c₁ c₂ named refers made injected =>
      obtain ⟨indexed', held'⟩ := ready_expand poised.indexed held text
      obtain ⟨ds, more, chain, told⟩ := made.told indexed' held' rfl
      obtain ⟨adds, furnished, means, calls⟩ :=
        reference_injected poised.indexed held poised.halfway.1 refers told injected (.refl _)
      have dealt : Dealt owner id p c _ _ others more :=
        ⟨adds, furnished, by rw [calls]; exact .set named means⟩
      exact ⟨_, adds.tends.does, poised.dealt dealt⟩

/-- **So it does for all jobs inside it.** -/
theorem Inside.poised (inside : Inside job c job' c') (poised : Poised D job c) :
    ∃ ds, c.host.Does ds c'.host ∧ Poised (D ++ ds) job' c' := by
  induction inside with
  | refl => exact ⟨[], .nothing _, by rwa [List.append_nil]⟩
  | next inside opens ih =>
      obtain ⟨ds, does, before⟩ := ih poised
      obtain ⟨es, does', after⟩ := opens.poised before
      exact ⟨ds ++ es, does.trans does', by rwa [← List.append_assoc]⟩

end Wiring.Context
