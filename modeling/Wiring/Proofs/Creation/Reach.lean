/-
# Wiring.Proofs.Creation.Reach -- how far a creation reaches

Over names: a creation comes to own nothing but what it was asked for and what the
references of declarations lead to from there, whether it succeeds or not
(`Runs.reaches`).

Over objects: it makes, calls and hands over nothing but what the context owns in the
end (`Runs.deals`), so nothing that the rest of the program has is touched by it.
-/
import Wiring.Proofs.Creation.Closes
import Wiring.Proofs.Creation.Furnished
import Wiring.Proofs.Host.Confined

namespace Wiring.Context

set_option autoImplicit false

open Wiring.Component
open Wiring.Document (Property)

variable {σ : Type} {c c₁ c' : Context σ} {n name target : String} {id : ObjectId}

/-! ## Names -/

/-- The names that a job can come to create. -/
def Job.Covers (c : Context σ) : Job → String → Prop
  | .request _ name, n => Reaches c.successors (c.goal name) n
  | .filling _ _ ps, n => ∃ wire ∈ c.wires ps, Reaches c.successors (c.goal wire.2) n

theorem Extends.covers (grown : Extends c c') (job : Job) : job.Covers c' n ↔ job.Covers c n := by
  cases job with
  | request keep name =>
      show Reaches c'.successors (c'.goal name) n ↔ Reaches c.successors (c.goal name) n
      rw [grown.successors, grown.goal]
  | filling owner id ps => simp only [Job.Covers, grown.successors, grown.goal, grown.wires]

theorem names_of_silent (silent : Silent c c') : c'.names = c.names := by
  obtain ⟨_, _, passes⟩ := silent
  unfold Context.names
  rw [passes.only.owned]

theorem extends_of_silent (silent : Silent c c') : Extends c c' := by
  obtain ⟨_, _, passes⟩ := silent
  exact .passes passes

theorem names_of_serves (serves : Serves id c c') : c'.names = c.names := by
  obtain ⟨_, passes, _, _⟩ := serves
  unfold Context.names
  rw [passes.only.owned]

theorem extends_of_serves (serves : Serves id c c') : Extends c c' := by
  obtain ⟨_, passes, _, _⟩ := serves
  exact .passes passes

/-- What the references of an instance lead to is reached from that instance. -/
theorem covers_of_begun {keep : Bool} (wants : Wants c name target)
    (built : (c.noted name).instantiate target = (.ok id, c₁))
    (member : n ∈ (c₁.begun keep target id).names ∨
      (Job.filling target id ((c₁.enrolled keep target id).properties target)).Covers
        (c₁.begun keep target id) n) :
    n ∈ c.names ∨ (Job.request keep name).Covers c n := by
  have grown := extends_of_begun keep built
  have goal : c.goal name = target := by simp [Context.goal, wants.leads]
  have properties : (c₁.enrolled keep target id).properties target = c.properties target :=
    grown.properties target
  show n ∈ c.names ∨ Reaches c.successors (c.goal name) n
  rw [goal]
  rcases member with member | covered
  · rcases names_begun keep built member with old | rfl
    · exact .inl old
    · exact .inr .refl
  · rw [grown.covers, properties] at covered
    obtain ⟨wire, there, path⟩ := covered
    exact .inr (.head (List.mem_map.2 ⟨wire, there, rfl⟩) path)

/-- The first of several entries covers less than all of them. -/
theorem covers_cons {owner : String} {p : Property} {ps : List Property}
    (covered : (Job.filling owner id ps).Covers c n) :
    (Job.filling owner id (p :: ps)).Covers c n := by
  obtain ⟨wire, there, path⟩ := covered
  refine ⟨wire, ?_, path⟩
  unfold Context.wires at there ⊢
  rw [List.filterMap_cons]
  split
  · exact there
  · exact List.mem_cons_of_mem _ there

theorem covers_reference {owner text : String} {p : Property} {ps : List Property}
    (named : p.name = some name) (refers : p.reference = some text)
    (covered : (Job.request true (c.expand text).1).Covers c n) :
    (Job.filling owner id (p :: ps)).Covers c n :=
  ⟨(name, (c.expand text).1), by
    rw [wires_cons ps named refers]
    exact List.mem_cons_self, covered⟩

variable [Lifecycle σ] {job : Job} {r : Except Error ObjectId}

/-- **A run comes to own only what is reached from what it was asked for.** -/
theorem Runs.reaches (runs : Runs job c r c') (member : n ∈ c'.names) :
    n ∈ c.names ∨ job.Covers c n := by
  induction runs with
  | @live keep name c id found =>
      rw [names_of_silent (silent_acquire c id)] at member
      exact .inl member
  | @astray keep name c e missing leads =>
      have noted : Silent c (c.noted name) := silent_take c (c.view name).aliasTarget
      rw [names_of_silent noted] at member
      exact .inl member
  | @followed keep name target c id missing leads found =>
      have noted : Silent c (c.noted name) := silent_take c (c.view name).aliasTarget
      rw [names_of_silent (noted.trans (silent_acquire _ id))] at member
      exact .inl member
  | unfit wants failed =>
      rw [names_of_silent (silent_of_unfit failed)] at member
      exact .inl member
  | complete wants built filled called ih =>
      rw [names_of_serves (serves_of_callDone called)] at member
      exact covers_of_begun wants built (ih member)
  | undone wants built filled called ih =>
      rw [names_of_silent (silent_release _ _), names_of_serves (serves_of_callDone called)]
        at member
      exact covers_of_begun wants built (ih member)
  | broken wants built failed ih =>
      rw [names_of_silent (silent_release _ _)] at member
      exact covers_of_begun wants built (ih member)
  | filled => exact .inl member
  | @nameless owner id p ps c c' r unnamed rest ih =>
      have logged := silent_log c .warn s!"Missing name for {p.change.word} entry of '{owner}'"
      have rest := ih member
      rw [names_of_silent logged, (extends_of_silent logged).covers] at rest
      exact rest.imp_right covers_cons
  | plain named value injected rest ih =>
      have served := serves_of_injectPlain injected
      have rest := ih member
      rw [names_of_serves served, (extends_of_serves served).covers] at rest
      exact rest.imp_right covers_cons
  | plainFails named value failed =>
      rw [names_of_silent (silent_log _ _ _), names_of_serves (serves_of_injectPlain failed)]
        at member
      exact .inl member
  | @reference owner name text id value p ps c c₁ c₂ c' r named refers made injected rest made_ih
      ih =>
      have expanded := silent_expand c text
      obtain ⟨_, _, passes⟩ := passes_of_inject injected
      have handed : c₂.names = c₁.names := by
        unfold Context.names
        rw [passes.only.owned]
      -- What was made for the reference is reached over it, all else from the entries behind it.
      have grown := ((extends_of_silent expanded).trans made.goes.extended).trans
        ((Extends.passes passes).trans (extends_of_silent (silent_release c₂ value)))
      rcases ih member with before | covered
      · rw [names_of_silent (silent_release _ _), handed] at before
        have first := made_ih before
        rw [names_of_silent expanded, (extends_of_silent expanded).covers] at first
        exact first.imp_right (covers_reference named refers)
      · rw [grown.covers] at covered
        exact .inr (covers_cons covered)
  | @targetFails owner name text id p ps c c' e named refers failed ih =>
      have expanded := silent_expand c text
      rw [names_of_silent (silent_log _ _ _), names_of_silent (silent_log _ _ _)] at member
      have first := ih member
      rw [names_of_silent expanded, (extends_of_silent expanded).covers] at first
      exact first.imp_right (covers_reference named refers)
  | @setterFails owner name text id value p ps c c₁ c' e named refers made failed ih =>
      have expanded := silent_expand c text
      obtain ⟨_, _, passes⟩ := passes_of_inject failed
      have handed : c'.names = c₁.names := by
        unfold Context.names
        rw [passes.only.owned]
      rw [names_of_silent (silent_log _ _ _), names_of_silent (silent_release _ _), handed]
        at member
      have first := ih member
      rw [names_of_silent expanded, (extends_of_silent expanded).covers] at first
      exact first.imp_right (covers_reference named refers)

/-! ## Objects -/

omit [Lifecycle σ] in
theorem mem_owned_of_lookup (found : c.lookup n = some id) : id ∈ c.owned.map (·.2) := by
  unfold lookup at found
  obtain ⟨position, _, there⟩ := Option.bind_eq_some_iff.1 found
  obtain ⟨e, owned, rfl⟩ := Option.map_eq_some_iff.1 there
  exact List.mem_map.2 ⟨e, List.mem_of_getElem? owned, rfl⟩

omit [Lifecycle σ] in
/-- What is offered without a reference hands over no object. -/
theorem objects_of_offer {environment : Config.Environment} {owner : String} {p : Property}
    {value : Given} (offered : offer environment owner name p = .ok (some value)) :
    value.objects = [] := by
  have evaluated {α : Type} {x : Except Error α} {f : α → Given} (plain : ∀ a, (f a).objects = [])
      (same : (x.map f).map some = .ok (some value)) : value.objects = [] := by
    cases x with
    | error e => cases same
    | ok a =>
        cases same
        exact plain a
  unfold offer at offered
  split at offered
  · exact evaluated (fun _ => rfl) offered
  · cases offered
    rfl
  · exact evaluated (fun _ => rfl) offered
  · cases offered
    rfl
  · split at offered
    · cases offered
    · split at offered
      · cases offered
        rfl
      · cases offered
      · cases offered

/-- Nothing was made, called or handed over but one's own and what is owned in the end; and the hook
of a new instance was called only of those that have one. -/
structure Deals (own : List ObjectId) (c : Context σ) (ds : List Deed) (c' : Context σ)
    (others : List ObjectId) : Prop where
  tends : Tends c ds c' others
  own : ∀ d ∈ ds, ∀ x ∈ d.objects, x ∈ own ∨ x ∈ c'.owned.map (·.2)
  rings : ∀ id r, Deed.called id doneHook r ∈ ds →
    id ∈ c'.owned.map (·.2) ∧ c'.host.hasHook id doneHook

namespace Deals

variable {a b : Context σ} {ds es : List Deed} {own others left : List ObjectId}

theorem keeps (deals : Deals own c ds c' others) {x : ObjectId} (owned : x ∈ c.owned.map (·.2)) :
    x ∈ c'.owned.map (·.2) := by
  obtain ⟨e, there, rfl⟩ := List.mem_map.1 owned
  exact List.mem_map.2 ⟨e, (deals.tends.lasts e there).1, rfl⟩

theorem idle (tends : Tends c [] c' others) : Deals own c [] c' others :=
  ⟨tends, by simp, by simp⟩

theorem trans (first : Deals own a ds b left) (second : Deals own b es c others) :
    Deals own a (ds ++ es) c others := by
  refine ⟨first.tends.trans second.tends, ?_, ?_⟩
  · intro d member x object
    rcases List.mem_append.1 member with member | member
    · exact (first.own d member x object).imp_right second.keeps
    · exact second.own d member x object
  · intro id r member
    rcases List.mem_append.1 member with member | member
    · obtain ⟨owned, has⟩ := first.rings id r member
      obtain ⟨e, there, rfl⟩ := List.mem_map.1 owned
      exact ⟨second.keeps owned, (second.tends.hasHook there doneHook).trans has⟩
    · exact second.rings id r member

/-- One's own may be owned. -/
theorem settle {mine : List ObjectId} (deals : Deals mine c ds c' others)
    (owned : ∀ x ∈ mine, x ∈ c.owned.map (·.2)) : Deals own c ds c' others := by
  refine ⟨deals.tends, ?_, deals.rings⟩
  intro d member x object
  rcases deals.own d member x object with mine | there
  · exact .inr (deals.keeps (owned x mine))
  · exact .inr there

end Deals

/-- A context dealt with one's own and with its instances only, and the handles left are these. -/
def Dealing (own : List ObjectId) (c c' : Context σ) (others : List ObjectId) : Prop :=
  ∃ ds, Deals own c ds c' others

namespace Dealing

variable {own others left : List ObjectId} {owner : String} {p : Property}

theorem held (dealing : Dealing own c c' others) : Held c' others := by
  obtain ⟨_, deals⟩ := dealing
  exact deals.tends.held

theorem keeps (dealing : Dealing own c c' others) {x : ObjectId}
    (owned : x ∈ c.owned.map (·.2)) : x ∈ c'.owned.map (·.2) := by
  obtain ⟨_, deals⟩ := dealing
  exact deals.keeps owned

theorem refl (own : List ObjectId) (held : Held c others) : Dealing own c c others :=
  ⟨[], .idle held.tends⟩

theorem trans (first : Dealing own c c₁ left) (second : Dealing own c₁ c' others) :
    Dealing own c c' others := by
  obtain ⟨ds, deals⟩ := first
  obtain ⟨es, deals'⟩ := second
  exact ⟨ds ++ es, deals.trans deals'⟩

theorem settle {mine : List ObjectId} (dealing : Dealing mine c c' others) (own : List ObjectId)
    (owned : ∀ x ∈ mine, x ∈ c.owned.map (·.2)) : Dealing own c c' others := by
  obtain ⟨ds, deals⟩ := dealing
  exact ⟨ds, deals.settle owned⟩

theorem idle (first : Dealing own c c₁ others) (proceeds : Proceeds c₁ [] c') :
    Dealing own c c' others := first.trans ⟨[], .idle (proceeds.tends first.held)⟩

theorem acquire (first : Dealing own c c' others) (live : c'.host.heap.isLive id) :
    Dealing own c (c'.acquire id) (id :: others) :=
  first.trans ⟨[], .idle (tends_acquire first.held live)⟩

theorem release (first : Dealing own c c' (id :: others)) :
    Dealing own c (c'.release id) others :=
  first.trans ⟨[], .idle (tends_release first.held)⟩

theorem inject {value : Given} {r : Except Error Unit} (first : Dealing [id] c c₁ others)
    (result : c₁.inject id name value = (r, c'))
    (owned : ∀ x ∈ value.objects, x ∈ c₁.owned.map (·.2)) : Dealing [id] c c' others := by
  have injected := proceeds_inject c₁ id name value
  rw [result] at injected
  refine first.trans ⟨_, injected.tends first.held, ?_, by simp⟩
  intro d member x object
  rw [List.mem_singleton.1 member] at object
  rcases List.mem_cons.1 object with rfl | object
  · exact .inl (List.mem_singleton_self _)
  · right
    rw [injected.only.owned]
    exact owned x object

theorem injectPlain {r : Except Error Unit} (first : Dealing [id] c c₁ others)
    (result : c₁.injectPlain owner id p name = (r, c')) : Dealing [id] c c' others := by
  have taken := injectPlain_taken result
  unfold Taken at taken
  split at taken
  · exact first.idle taken.2
  · exact first.idle taken.2
  · next value offered =>
    refine first.trans ⟨_, taken.tends first.held, ?_, by simp⟩
    intro d member x object
    rw [List.mem_singleton.1 member] at object
    simp only [Deed.objects, objects_of_offer offered] at object
    exact .inl object

theorem callDone {r : Except Error Unit} (first : Dealing own c c₁ others)
    (result : c₁.callDone owner id = (r, c')) (owned : id ∈ c₁.owned.map (·.2)) :
    Dealing own c c' others := by
  rcases callDone_cases result with ⟨bound, called⟩ | ⟨_, _, rfl⟩
  · have tends := called.tends first.held
    obtain ⟨e, there, rfl⟩ := List.mem_map.1 owned
    have stays : e.2 ∈ c'.owned.map (·.2) :=
      List.mem_map.2 ⟨e, (tends.lasts e there).1, rfl⟩
    refine first.trans ⟨_, tends, ?_, ?_⟩
    · intro d member x object
      rw [List.mem_singleton.1 member] at object
      exact .inr (List.mem_singleton.1 object ▸ stays)
    · intro id r member
      cases List.mem_singleton.1 member
      exact ⟨stays, (tends.hasHook there doneHook).trans bound⟩
  · exact first

theorem begun (own : List ObjectId) (held : Held c others)
    (built : (c.noted name).instantiate target = (.ok id, c₁)) :
    Dealing own c (c₁.begun true target id) (id :: others) ∧
      id ∈ (c₁.begun true target id).owned.map (·.2) := by
  have owned : id ∈ (c₁.begun true target id).owned.map (·.2) :=
    List.mem_map.2 ⟨(target, id), List.mem_append_right _ (List.mem_singleton_self _), rfl⟩
  refine ⟨⟨_, tends_begun true held built, ?_, by simp⟩, owned⟩
  intro d member x object
  rw [List.mem_singleton.1 member] at object
  exact .inr (List.mem_singleton.1 object ▸ owned)

end Dealing

/-- A request keeps what it creates. -/
def Job.Kept : Job → Prop
  | .request keep _ => keep = true
  | .filling .. => True

/-- **A creation deals with instances of its own context only.** -/
theorem Runs.deals (runs : Runs job c r c') {others : List ObjectId} (held : Held c others)
    (kept : job.Kept) : Dealing job.own c c' (job.handed r ++ others) ∧
      ∀ answer, r = .ok answer → answer ∈ job.own ∨ answer ∈ c'.owned.map (·.2) := by
  induction runs generalizing others with
  | live found =>
      refine ⟨(Dealing.refl [] held).acquire (held.live_of_lookup found), ?_⟩
      rintro _ ⟨⟩
      exact .inr (mem_owned_of_lookup found)
  | @astray keep name c e missing leads =>
      exact ⟨(Dealing.refl [] held).idle (proceeds_take c (c.view name).aliasTarget), by simp⟩
  | @followed keep name target c id missing leads found =>
      have noted := (Dealing.refl [] held).idle (proceeds_take c (c.view name).aliasTarget)
      refine ⟨noted.acquire (noted.held.live_of_lookup found), ?_⟩
      rintro _ ⟨⟩
      exact .inr (mem_owned_of_lookup found)
  | unfit wants failed =>
      exact ⟨(Dealing.refl [] held).idle (proceeds_of_unfit failed), by simp⟩
  | complete wants built filled called ih =>
      cases kept
      obtain ⟨begun, owned⟩ := Dealing.begun [] held built
      have filling := (ih begun.held trivial).1.settle [] (by simpa [Job.own] using owned)
      have rest := filling.callDone called (filling.keeps owned)
      refine ⟨begun.trans rest, ?_⟩
      rintro _ ⟨⟩
      exact .inr (rest.keeps owned)
  | undone wants built filled called ih =>
      cases kept
      obtain ⟨begun, owned⟩ := Dealing.begun [] held built
      have filling := (ih begun.held trivial).1.settle [] (by simpa [Job.own] using owned)
      exact ⟨(begun.trans (filling.callDone called (filling.keeps owned))).release, by simp⟩
  | broken wants built failed ih =>
      cases kept
      obtain ⟨begun, owned⟩ := Dealing.begun [] held built
      have filling := (ih begun.held trivial).1.settle [] (by simpa [Job.own] using owned)
      exact ⟨(begun.trans filling).release, by simp⟩
  | filled =>
      refine ⟨.refl _ held, ?_⟩
      rintro _ ⟨⟩
      exact .inl (List.mem_singleton_self _)
  | @nameless owner id p ps c c' r unnamed rest ih =>
      have logged := (Dealing.refl [id] held).idle
        (proceeds_log c .warn s!"Missing name for {p.change.word} entry of '{owner}'")
      obtain ⟨later, answered⟩ := ih logged.held trivial
      exact ⟨logged.trans later, answered⟩
  | @plain owner name id p ps c c₁ c' r named value injected rest ih =>
      have first := (Dealing.refl [id] held).injectPlain injected
      obtain ⟨later, answered⟩ := ih first.held trivial
      exact ⟨first.trans later, answered⟩
  | @plainFails owner name id p ps c c' e named value failed =>
      exact ⟨((Dealing.refl [id] held).injectPlain failed).idle (proceeds_log _ _ _), by simp⟩
  | @reference owner name text id value p ps c c₁ c₂ c' r named refers made injected rest made_ih
      ih =>
      have expanded := (Dealing.refl [id] held).idle (proceeds_expand c text)
      obtain ⟨found, answered⟩ := made_ih expanded.held rfl
      -- The reference is handed to an instance of the context, and given up at once.
      have before := expanded.trans (found.settle [id] (by simp [Job.own]))
      have set := (before.inject injected
        (by simpa [Given.objects, Job.own] using answered _ rfl)).release
      obtain ⟨later, answered⟩ := ih set.held trivial
      exact ⟨set.trans later, answered⟩
  | @targetFails owner name text id p ps c c' e named refers failed ih =>
      have expanded := (Dealing.refl [id] held).idle (proceeds_expand c text)
      have found := (ih expanded.held rfl).1.settle [id] (by simp [Job.own])
      exact ⟨((expanded.trans found).idle (proceeds_log _ _ _)).idle (proceeds_log _ _ _), by simp⟩
  | @setterFails owner name text id value p ps c c₁ c' e named refers made failed ih =>
      have expanded := (Dealing.refl [id] held).idle (proceeds_expand c text)
      obtain ⟨found, answered⟩ := ih expanded.held rfl
      have before := expanded.trans (found.settle [id] (by simp [Job.own]))
      have set := (before.inject failed
        (by simpa [Given.objects, Job.own] using answered _ rfl)).release
      exact ⟨set.idle (proceeds_log _ _ _), by simp⟩

end Wiring.Context
