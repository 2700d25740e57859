/-
# Wiring.Proofs.Creation.Closes -- a creation walks the reference graph

The graph of a document has the declared names as its nodes; the successors of a name
are what the references among its properties lead to.  `Closes own c c' roots es`
says that a context was extended as if by a depth-first walk from the roots, and that
each new instance was handed exactly the references of its declaration, in order, each
being the object that is live under the name it leads to.

Calls go to new instances only, and to those of `own`: while an instance is filled its
own setters are called in between.  That is what keeps the calls of one instance apart
from those of all others, when such extensions follow one another (`Closes.trans`) or
one lies inside another (`Runs.closes`).
-/
import Wiring.Proofs.Creation.Growth
import Wiring.Proofs.Creation.Visits
import Mathlib.Data.List.Forall2

namespace Wiring

set_option autoImplicit false

/-- No name is declared both as an alias and as an instance. -/
def Document.Apart (d : Document) : Prop := ∀ a ∈ d.aliases, ∀ i ∈ d.instances, a.name ≠ i.name

instance (d : Document) : Decidable d.Apart := by
  unfold Document.Apart
  infer_instance

namespace Context

open Wiring.Component
open Wiring.Document (Property)

variable {σ : Type}

/-! ## The reference graph -/

/-- The declared name a name leads to, or the name itself if it leads nowhere. -/
def goal (c : Context σ) (name : String) : String :=
  match c.leadsTo name with
  | .ok target => target
  | .error _ => name

/-- The named references among properties: the property, and the text of the reference. -/
def wires (c : Context σ) (ps : List Property) : List (String × String) :=
  ps.filterMap fun p =>
    match p.name, p.reference with
    | some name, some text => some (name, (c.environment.expand text).value)
    | _, _ => none

/-- The references that a declaration holds and that apply. -/
def references (c : Context σ) (name : String) : List (String × String) :=
  c.wires (c.properties name)

/-- What the references of a declaration lead to. -/
def successors (c : Context σ) (name : String) : List String :=
  (c.references name).map fun wire => c.goal wire.2

/-- The calls hand over, in order, the objects that are live under what the wires lead to. -/
def Matches (c : Context σ) (calls : List (String × ObjectId)) (wires : List (String × String)) :
    Prop :=
  List.Forall₂ (fun call wire => call.1 = wire.1 ∧ c.lookup (c.goal wire.2) = some call.2) calls
    wires

/-- An instance was handed exactly the references of its declaration. -/
def Wired (c : Context σ) (es : List Event) (name : String) (id : ObjectId) : Prop :=
  Matches c (referenceCalls id es) (c.references name)

namespace Extends

variable {c c' : Context σ}

theorem goal (grown : Extends c c') (n : String) : c'.goal n = c.goal n := by
  unfold Context.goal
  rw [grown.leadsTo]

theorem wires (grown : Extends c c') (ps : List Property) : c'.wires ps = c.wires ps := by
  unfold Context.wires
  rw [grown.environment]

theorem references (grown : Extends c c') (n : String) : c'.references n = c.references n := by
  unfold Context.references Context.properties
  rw [grown.wires, grown.view]

theorem successors (grown : Extends c c') : c'.successors = c.successors := by
  funext n
  unfold Context.successors
  rw [grown.references]
  exact List.map_congr_left fun wire _ => grown.goal wire.2

end Extends

theorem Matches.mono {c c' : Context σ} {calls : List (String × ObjectId)}
    {wires : List (String × String)} (same : Matches c calls wires) (consistent : Consistent c)
    (grown : Grown c c') : Matches c' calls wires := by
  refine List.Forall₂.imp ?_ same
  rintro call wire ⟨property, found⟩
  refine ⟨property, ?_⟩
  rw [grown.2.goal]
  exact grown.lookup consistent found

/-- A declared name that is no alias leads to itself. -/
theorem leadsTo_of_declared {c : Context σ} (apart : c.document.Apart) {n : String}
    (declared : ∃ d, (c.view n).validated = .ok d) : c.leadsTo n = .ok n := by
  obtain ⟨d, valid⟩ := declared
  have member : ∃ i ∈ c.document.instances, i.name = n := by
    unfold Document.View.validated at valid
    split at valid
    · simp at valid
    · next i found =>
      have there := List.mem_of_find?_eq_some found
      have named := List.find?_some found
      exact ⟨i, there, by simpa [view] using named⟩
  obtain ⟨i, there, rfl⟩ := member
  have plain : c.document.alias? i.name = none := by
    unfold Document.alias?
    rw [List.find?_eq_none]
    intro a member
    simpa using apart a member i there
  unfold leadsTo Document.View.aliasTarget
  simp only [view, plain]
  rfl

theorem Consistent.goal {c : Context σ} (consistent : Consistent c) (apart : c.document.Apart)
    {n : String} (live : n ∈ c.names) : c.goal n = n := by
  unfold Context.goal
  rw [leadsTo_of_declared apart (consistent.declared n live)]

/-! ## Extensions that follow the graph -/

/-- A context is extended by what a walk from the roots visits, all new instances are wired, and
only they and those of `own` are called. -/
structure Closes (own : List ObjectId) (c c' : Context σ) (roots : List String) (es : List Event) :
    Prop where
  grown : Grown c c'
  journal : c'.host.journal = c.host.journal ++ es
  preorder : ∃ out, c'.names = c.names ++ out ∧ Visits c.successors c.names roots out
  called : ∀ x ∈ callees es, x ∈ own ∨ c.host.heap.next ≤ x ∧ x < c'.host.heap.next
  wired : ∀ n i, (n, i) ∈ c'.owned → (n, i) ∉ c.owned → Wired c' es n i

namespace Closes

variable {own : List ObjectId} {c c₁ c₂ c' : Context σ} {roots more : List String}
  {es fs : List Event}

/-- Moving on without a construction, with calls to one's own at most. -/
theorem passes (consistent : Consistent c) (passes : Passes c c' es)
    (called : ∀ x ∈ callees es, x ∈ own) : Closes own c c' [] es := by
  have owned := passes.only.owned
  have names : c'.names = c.names := by
    unfold Context.names
    rw [owned]
  refine ⟨grown_of_passes consistent passes, passes.follows.journal, ⟨[], ?_, .done⟩,
    fun x member => .inl (called x member), ?_⟩
  · rw [names, List.append_nil]
  · intro n i new old
    rw [owned] at new
    exact absurd new old

/-- A root that is live. -/
theorem live (consistent : Consistent c) {n : String} (member : n ∈ c.names) :
    Closes own c c [n] [] where
  grown := .refl consistent
  journal := (List.append_nil _).symm
  preorder := ⟨[], (List.append_nil _).symm, .again member .done⟩
  called := by simp [callees]
  wired _ _ new old := absurd new old

theorem mono {others : List ObjectId} (closes : Closes own c c' roots es) (sub : own ⊆ others) :
    Closes others c c' roots es :=
  ⟨closes.grown, closes.journal, closes.preorder, fun x member => (closes.called x member).imp_left
    fun mine => sub mine, closes.wired⟩

/-- New entries are for objects that are newer than all before. -/
theorem newer (closes : Closes own c c' roots es) {n : String} {i : ObjectId}
    (new : (n, i) ∈ c'.owned) (old : (n, i) ∉ c.owned) : c.host.heap.next ≤ i := by
  obtain ⟨more, owned, newer⟩ := closes.grown.2.owned
  rw [owned] at new
  rcases List.mem_append.1 new with there | there
  · exact absurd there old
  · exact newer _ there

/-- **One walk after another is one walk.** -/
theorem trans (older : ∀ x ∈ own, x < c.host.heap.next) (first : Closes own c c₁ roots es)
    (second : Closes own c₁ c₂ more fs) : Closes own c c₂ (roots ++ more) (es ++ fs) := by
  have next₁ := first.grown.2.next
  have next₂ := second.grown.2.next
  refine ⟨first.grown.trans second.grown, ?_, ?_, ?_, ?_⟩
  · rw [second.journal, first.journal, List.append_assoc]
  · obtain ⟨out, names, visits⟩ := first.preorder
    obtain ⟨out', names', visits'⟩ := second.preorder
    rw [first.grown.2.successors, names] at visits'
    exact ⟨out ++ out', by rw [names', names, List.append_assoc], visits.append visits'⟩
  · intro x member
    rw [callees_append] at member
    rcases List.mem_append.1 member with member | member
    · rcases first.called x member with mine | ⟨low, high⟩
      · exact .inl mine
      · exact .inr ⟨low, Nat.lt_of_lt_of_le high next₂⟩
    · rcases second.called x member with mine | ⟨low, high⟩
      · exact .inl mine
      · exact .inr ⟨Nat.le_trans next₁ low, high⟩
  · intro n i new old
    unfold Wired
    rw [referenceCalls_append]
    by_cases between : (n, i) ∈ c₁.owned
    · -- The instance is of the first walk, which is why the second does not call it.
      have low := first.newer between old
      have high := first.grown.1.fresh _ between
      have spared : i ∉ callees fs := by
        intro member
        rcases second.called i member with mine | ⟨later, _⟩
        · exact absurd (older i mine) (Nat.not_lt.2 low)
        · exact absurd high (Nat.not_lt.2 later)
      rw [referenceCalls_of_notMem spared, List.append_nil, second.grown.2.references]
      exact (first.wired n i between old).mono first.grown.1 second.grown
    · have low := second.newer new between
      have spared : i ∉ callees es := by
        intro member
        rcases first.called i member with mine | ⟨_, high⟩
        · exact absurd (older i mine) (Nat.not_lt.2 (Nat.le_trans next₁ low))
        · exact absurd high (Nat.not_lt.2 low)
      rw [referenceCalls_of_notMem spared, List.nil_append]
      exact second.wired n i new between

theorem of_silent (own : List ObjectId) (consistent : Consistent c) (silent : Silent c c') :
    ∃ es, Quiet es ∧ Closes own c c' [] es := by
  obtain ⟨es, quiet, moved⟩ := silent
  refine ⟨es, quiet, passes consistent moved ?_⟩
  rw [show callees es = [] from quiet]
  simp

theorem of_serves {id : ObjectId} (consistent : Consistent c) (serves : Serves id c c') :
    ∃ es, (∀ x, referenceCalls x es = []) ∧ Closes [id] c c' [] es := by
  obtain ⟨es, moved, called, none⟩ := serves
  exact ⟨es, none, passes consistent moved fun x member => List.mem_singleton.2 (called x member)⟩

end Closes

/-! ## A new instance -/

/-- A kept instance that is about to be filled is the last entry, and no component has been called
yet. -/
theorem begun_of_built {c c₁ : Context σ} {name target : String} {id : ObjectId}
    (built : (c.noted name).instantiate target = (.ok id, c₁)) :
    (c₁.begun true target id).owned = c.owned ++ [(target, id)] ∧
      id < (c₁.begun true target id).host.heap.next ∧
      ∃ pre, Quiet pre ∧ (c₁.begun true target id).host.journal = c.host.journal ++ pre := by
  obtain ⟨⟨es, quiet, passes⟩, _, used, _⟩ := silent_of_built built
  obtain ⟨fs, quiet', acquired⟩ := silent_acquire c₁ id
  obtain ⟨gs, quiet'', taken⟩ := silent_take (c₁.register target id)
    ((c₁.register target id).view target).properties
  have follows := (passes.follows.trans acquired.follows).trans taken.follows
  refine ⟨?_, ?_, (es ++ fs) ++ gs, (quiet.append quiet').append quiet'', follows.journal⟩
  · show c₁.owned ++ [(target, id)] = _
    rw [passes.only.owned]
  · exact Nat.lt_of_lt_of_le used (Nat.le_trans acquired.follows.next taken.follows.next)

/-- Filling a new instance follows what its declaration refers to. -/
theorem Closes.complete {c c₁ c₂ c' : Context σ} {name target : String} {id : ObjectId}
    {es : List Event} (consistent : Consistent c) (wants : Wants c name target)
    (built : (c.noted name).instantiate target = (.ok id, c₁))
    (filled : Closes [id] (c₁.begun true target id) c₂
      ((c₁.begun true target id).successors target) es)
    (wired : Matches c₂ (referenceCalls id es) ((c₁.begun true target id).references target))
    (called : Serves id c₂ c') :
    ∃ es', Closes [] c c' [target] es' ∧ c'.lookup target = some id := by
  obtain ⟨owned, used, pre, quiet, journal⟩ := begun_of_built built
  have newer := (silent_of_built built).2.1
  have begun := grown_begun true consistent wants built
  obtain ⟨post, none, after⟩ := Closes.of_serves filled.grown.1 called
  -- From here on only that `b` comes from `c` by one entry matters, not how it was made.
  generalize c₁.begun true target id = b at *
  have late := filled.grown.trans after.grown
  have whole := begun.trans late
  have first : b.lookup target = some id := begun.1.lookup_iff.2 (by simp [owned])
  have names : b.names = c.names ++ [target] := by simp [Context.names, owned]
  have owned' : c'.owned = c₂.owned := by
    obtain ⟨_, passes, _⟩ := called
    exact passes.only.owned
  refine ⟨pre ++ (es ++ post), ⟨whole, ?_, ?_, ?_, ?_⟩, late.lookup begun.1 first⟩
  · rw [after.journal, filled.journal, journal]
    simp [List.append_assoc]
  · obtain ⟨out, names', visits⟩ := filled.preorder
    rw [begun.2.successors, names] at visits
    refine ⟨target :: out, ?_, ?_⟩
    · unfold Context.names at names' names ⊢
      rw [owned', names', names, List.append_assoc]
      rfl
    · have new := consistent.lookup_eq_none_iff.1 wants.absent
      simpa using Visits.visit new visits .done
  · intro x member
    right
    rw [callees_append, callees_append, show callees pre = [] from quiet, List.nil_append] at member
    -- While the instance is filled it counts as old, but seen from `c` it is new itself.
    have mine : c.host.heap.next ≤ id ∧ id < c'.host.heap.next :=
      ⟨newer, Nat.lt_of_lt_of_le used late.2.next⟩
    rcases List.mem_append.1 member with member | member
    · rcases filled.called x member with same | ⟨low, high⟩
      · rwa [List.mem_singleton.1 same]
      · exact ⟨Nat.le_trans begun.2.next low, Nat.lt_of_lt_of_le high after.grown.2.next⟩
    · rcases after.called x member with same | ⟨low, high⟩
      · rwa [List.mem_singleton.1 same]
      · exact ⟨Nat.le_trans (begun.trans filled.grown).2.next low, high⟩
  · intro n i new old
    unfold Wired
    rw [referenceCalls_append, referenceCalls_append, quiet.referenceCalls, none, List.append_nil,
      List.nil_append, late.2.references]
    rw [owned'] at new
    by_cases between : (n, i) ∈ b.owned
    · rw [owned] at between
      rcases List.mem_append.1 between with there | there
      · exact absurd there old
      · cases List.mem_singleton.1 there
        exact wired.mono filled.grown.1 after.grown
    · have there := filled.wired n i new between
      unfold Wired at there
      rw [filled.grown.2.references] at there
      exact there.mono filled.grown.1 after.grown

/-! ## Filling -/

theorem wires_cons_of_skipped {c : Context σ} {p : Property} (ps : List Property)
    (skipped : p.name = none ∨ p.reference = none) : c.wires (p :: ps) = c.wires ps := by
  unfold wires
  rcases skipped with none | none <;> simp [none]

theorem wires_cons {c : Context σ} {p : Property} {name text : String} (ps : List Property)
    (named : p.name = some name) (refers : p.reference = some text) :
    c.wires (p :: ps) = (name, (c.expand text).1) :: c.wires ps := by
  unfold wires
  simp only [List.filterMap_cons, named, refers]
  rfl

/-- Properties of an instance were set: a walk from what they refer to, and a call for each. -/
def Fills (id : ObjectId) (c c' : Context σ) (ps : List Property) : Prop :=
  ∃ es, Closes [id] c c' ((c.wires ps).map fun wire => c.goal wire.2) es ∧
    Matches c' (referenceCalls id es) (c.wires ps)

namespace Fills

variable {id : ObjectId} {c c₁ c₂ c' : Context σ} {p : Property} {ps : List Property}

/-- A property that refers to nothing. -/
theorem skip {es : List Event} (older : id < c.host.heap.next) (first : Closes [id] c c₁ [] es)
    (unreferred : referenceCalls id es = []) (skipped : p.name = none ∨ p.reference = none)
    (rest : Fills id c₁ c' ps) : Fills id c c' (p :: ps) := by
  obtain ⟨fs, closes, wired⟩ := rest
  have same : c₁.goal = c.goal := funext first.grown.2.goal
  rw [first.grown.2.wires] at closes wired
  rw [same] at closes
  refine ⟨es ++ fs, ?_, ?_⟩
  · rw [wires_cons_of_skipped ps skipped]
    exact first.trans (by simpa using older) closes
  · rw [wires_cons_of_skipped ps skipped, referenceCalls_append, unreferred,
      List.nil_append]
    exact wired

/-- A property that refers to a name, after the request for that name. -/
theorem follow {name text : String} {value : ObjectId} {es fs : List Event}
    (older : id < c.host.heap.next) (named : p.name = some name) (refers : p.reference = some text)
    (made : Closes [] c c₁ [c.goal (c.expand text).1] es)
    (live : c₁.lookup (c.goal (c.expand text).1) = some value)
    (quiet : Quiet fs) (injected : Passes c₁ c₂ (.injected id name (.reference value) :: fs))
    (rest : Fills id c₂ c' ps) : Fills id c c' (p :: ps) := by
  obtain ⟨gs, closes, wired⟩ := rest
  have called : callees (.injected id name (.reference value) :: fs) = [id] := by
    show id :: callees fs = [id]
    rw [show callees fs = [] from quiet]
  have handed : Closes [id] c₁ c₂ [] (.injected id name (.reference value) :: fs) :=
    .passes made.grown.1 injected (by simp [called])
  have before : ∀ x ∈ [id], x < c.host.heap.next := by simpa using older
  have first := (made.mono (List.nil_subset [id])).trans before handed
  have goals : c₂.goal = c.goal := funext first.grown.2.goal
  rw [first.grown.2.wires] at closes wired
  rw [goals] at closes
  refine ⟨(es ++ .injected id name (.reference value) :: fs) ++ gs, ?_, ?_⟩
  · rw [wires_cons ps named refers]
    exact first.trans before closes
  · -- Only the injection itself calls this instance between its other setters.
    have spared : id ∉ callees es := by
      intro member
      rcases made.called id member with mine | ⟨low, _⟩
      · simp at mine
      · exact absurd older (Nat.not_lt.2 low)
    have once :
        referenceCalls id (.injected id name (.reference value) :: fs) = [(name, value)] := by
      show referenceCalls id ([.injected id name (.reference value)] ++ fs) = _
      rw [referenceCalls_append, quiet.referenceCalls]
      simp [referenceCalls]
    rw [wires_cons ps named refers, referenceCalls_append, referenceCalls_append, once,
      referenceCalls_of_notMem spared]
    refine .cons ⟨rfl, ?_⟩ wired
    have final := first.grown.2.trans closes.grown.2
    rw [final.goal]
    exact (handed.grown.trans closes.grown).lookup made.grown.1 live

end Fills

/-! ## Every successful run -/

/-- What a job has done when it has succeeded; of a request for an instance that is not kept,
nothing is said. -/
def Achieved (c : Context σ) (r : Except Error ObjectId) (c' : Context σ) : Job → Prop
  | .request keep name => keep = true → ∀ id, r = .ok id →
    ∃ es, Closes [] c c' [c.goal name] es ∧ c'.lookup (c.goal name) = some id
  | .filling _ id ps => r = .ok id → id < c.host.heap.next → Fills id c c' ps

variable [Lifecycle σ]

/-- **A successful run walks the graph from what it is asked for.** -/
theorem Runs.closes {job : Job} {c c' : Context σ} {r : Except Error ObjectId}
    (runs : Runs job c r c') (consistent : Consistent c) (apart : c.document.Apart) :
    Achieved c r c' job := by
  induction runs with
  | @live keep name c id found =>
      rintro - _ ⟨⟩
      have member : name ∈ c.names := List.mem_map.2 ⟨_, consistent.lookup_iff.1 found, rfl⟩
      rw [consistent.goal apart member]
      obtain ⟨es, _, after⟩ := Closes.of_silent [] consistent (silent_acquire c id)
      exact ⟨_, (Closes.live consistent member).trans (by simp) after, found⟩
  | astray missing leads => rintro - _ ⟨⟩
  | @followed keep name target c id missing leads found =>
      rintro - _ ⟨⟩
      have member : target ∈ c.names := List.mem_map.2 ⟨_, consistent.lookup_iff.1 found, rfl⟩
      have goal : c.goal name = target := by simp [Context.goal, leads]
      obtain ⟨es, _, after⟩ := Closes.of_silent [] consistent
        ((silent_take c (c.view name).aliasTarget).trans (silent_acquire _ id))
      rw [goal]
      exact ⟨_, (Closes.live consistent member).trans (by simp) after, found⟩
  | unfit wants failed => rintro - _ ⟨⟩
  | @complete keep name target c c₁ c₂ c' id wants built filled called ih =>
      rintro rfl _ ⟨⟩
      have goal : c.goal name = target := by simp [Context.goal, wants.leads]
      have begun := grown_begun true consistent wants built
      obtain ⟨_, used, _⟩ := begun_of_built built
      obtain ⟨es, closes, wired⟩ := ih begun.1 (by rw [begun.2.document]; exact apart) rfl used
      rw [goal]
      exact Closes.complete consistent wants built closes wired (serves_of_callDone called)
  | undone wants built filled called ih => rintro - _ ⟨⟩
  | broken wants built failed ih => rintro - _ ⟨⟩
  | @filled owner id c =>
      intro _ _
      exact ⟨[], .passes consistent (.refl c) (by simp [callees]), .nil⟩
  | @nameless owner id p ps c c' r unnamed rest ih =>
      intro ok older
      obtain ⟨es, quiet, logged⟩ := Closes.of_silent [id] consistent
        (silent_log c .warn s!"Missing name for {p.change.word} entry of '{owner}'")
      have rest := ih logged.grown.1 apart ok (Nat.lt_of_lt_of_le older logged.grown.2.next)
      exact rest.skip older logged (quiet.referenceCalls id) (.inl unnamed)
  | plain named value injected rest ih =>
      intro ok older
      obtain ⟨es, none, passed⟩ := Closes.of_serves consistent (serves_of_injectPlain injected)
      have apart := passed.grown.2.document ▸ apart
      have rest := ih passed.grown.1 apart ok (Nat.lt_of_lt_of_le older passed.grown.2.next)
      exact rest.skip older passed (none _) (.inr value)
  | plainFails named value failed => rintro ⟨⟩
  | @reference owner name text id value p ps c c₁ c₂ c' r named refers made injected rest made_ih
      ih =>
      intro ok older
      obtain ⟨es, quiet, expanded⟩ := Closes.of_silent [] consistent (silent_expand c text)
      obtain ⟨fs, closes, live⟩ := made_ih expanded.grown.1 apart rfl value rfl
      have first := expanded.trans (by simp) closes
      obtain ⟨gs, quiet', passes⟩ := passes_of_inject injected
      obtain ⟨hs, quiet'', released⟩ := silent_release c₂ value
      have handed := passes.trans released
      have grown := first.grown.trans (grown_of_passes first.grown.1 handed)
      -- The rest begins in a context that has grown, where names lead to the same as before.
      have rest := ih grown.1 (by rw [grown.2.document]; exact apart) ok
        (Nat.lt_of_lt_of_le older grown.2.next)
      exact Fills.follow older named refers first live (quiet'.append quiet'') handed rest
  | targetFails named refers failed ih => rintro ⟨⟩
  | setterFails named refers made failed ih => rintro ⟨⟩

end Context

end Wiring
