/-
# Wiring.Proofs.Context.Consistent -- the live graph and its index describe each other

In an indexed context the index is nothing but the positions of the owned names, no
name and no object is owned twice, and every owned name is declared with a class.  A
look-up then finds exactly what is owned (`Indexed.lookup_iff`).  It is consistent if
every owned name is also what some name leads to, which holds while the environment
stays as it is.

`Extends c c'` says how a context changes until it is torn down: entries are only
added, each for an object that is newer than all before.  What a name finds once it
finds ever after (`Extends.lookup`).
-/
import Wiring.Proofs.Context.Passes
import Wiring.Proofs.Keyed

namespace Wiring.Context

set_option autoImplicit false

open Wiring.Component

variable {σ : Type}

/-! ## Consistent contexts -/

/-- The declared name that a name leads to: itself, or what it is an alias of. -/
def leadsTo (c : Context σ) (name : String) : Except Error String :=
  (c.view name).aliasTarget.value.map fun target => if target.isEmpty then name else target

/-- What a name that is no alias leads to. -/
theorem leadsTo_of_alias?_none {c : Context σ} {n : String} (none : c.document.alias? n = none) :
    c.leadsTo n = .ok n := by
  unfold leadsTo Document.View.aliasTarget
  simp only [view, none]
  rfl

/-- What an alias leads to. -/
theorem leadsTo_of_alias? {c : Context σ} {n : String} {a : Document.Alias}
    (found : c.document.alias? n = some a) :
    c.leadsTo n =
      if (c.environment.expand a.target).value == n then
        .error (.illegalState s!"alias {n} refers to itself")
      else .ok (if (c.environment.expand a.target).value.isEmpty then n
        else (c.environment.expand a.target).value) := by
  unfold leadsTo Document.View.aliasTarget
  rw [show (c.view n).document.alias? (c.view n).name = some a from found]
  show Except.map _ (if (c.environment.expand a.target).value == n then _ else _) = _
  split <;> rfl

/-- The index and the owned instances describe each other. -/
structure Indexed (c : Context σ) : Prop where
  index : c.index = c.names.zipIdx
  names : c.names.Nodup
  objects : (c.owned.map (·.2)).Nodup
  fresh : ∀ e ∈ c.owned, e.2 < c.host.heap.next
  declared : ∀ n ∈ c.names, ∃ d, (c.view n).validated = .ok d

/-- So they do, and the owned names are what names lead to. -/
structure Consistent (c : Context σ) : Prop extends Indexed c where
  asked : ∀ n ∈ c.names, ∃ a, c.leadsTo a = .ok n

theorem names_register (c : Context σ) (name : String) (id : ObjectId) :
    (c.register name id).names = c.names ++ [name] := by
  simp [Context.names, Context.register]

namespace Indexed

variable {c c' : Context σ}

theorem index_lookup (indexed : Indexed c) {n : String} {position : Nat} :
    c.index.lookup n = some position ↔ c.names[position]? = some n := by
  rw [indexed.index, ← List.mk_mem_zipIdx_iff_getElem?]
  apply Keyed.lookup_eq_some_iff_mem
  rw [List.zipIdx_map_fst]
  exact indexed.names

/-- A look-up finds exactly what is owned. -/
theorem lookup_iff (indexed : Indexed c) {n : String} {id : ObjectId} :
    c.lookup n = some id ↔ (n, id) ∈ c.owned := by
  unfold lookup
  rw [Option.bind_eq_some_iff, List.mem_iff_getElem?]
  constructor
  · rintro ⟨position, there, found⟩
    obtain ⟨e, owned, rfl⟩ := Option.map_eq_some_iff.1 found
    have named := indexed.index_lookup.1 there
    rw [Context.names, List.getElem?_map, owned] at named
    cases named
    exact ⟨position, owned⟩
  · rintro ⟨position, owned⟩
    refine ⟨position, indexed.index_lookup.2 ?_, by rw [owned]; rfl⟩
    rw [Context.names, List.getElem?_map, owned]
    rfl

theorem lookup_eq_none_iff (indexed : Indexed c) {n : String} :
    c.lookup n = none ↔ n ∉ c.names := by
  constructor
  · intro absent member
    obtain ⟨e, owned, rfl⟩ := List.mem_map.1 member
    have found : c.lookup e.1 = some e.2 := indexed.lookup_iff.2 owned
    rw [absent] at found
    simp at found
  · intro absent
    cases found : c.lookup n with
    | none => rfl
    | some id => exact absurd (List.mem_map.2 ⟨_, indexed.lookup_iff.1 found, rfl⟩) absent

/-- Two names never find the same object. -/
theorem lookup_injective (indexed : Indexed c) {m n : String} {id : ObjectId}
    (first : c.lookup m = some id) (second : c.lookup n = some id) : m = n := by
  have same := List.inj_on_of_nodup_map indexed.objects (indexed.lookup_iff.1 first)
    (indexed.lookup_iff.1 second) rfl
  exact congrArg Prod.fst same

theorem passes {es : List Event} (indexed : Indexed c) (passes : Passes c c' es) :
    Indexed c' := by
  have only := passes.only
  have later := passes.follows.next
  unfold OnlyHost at only
  rw [only]
  exact ⟨indexed.index, indexed.names, indexed.objects,
    fun e owned => Nat.lt_of_lt_of_le (indexed.fresh e owned) later, indexed.declared⟩

/-- Taking over an object that is newer than all others, under a declared name. -/
theorem register (indexed : Indexed c) {name : String} {id : ObjectId}
    (absent : c.lookup name = none) (declared : ∃ d, (c.view name).validated = .ok d)
    (newer : ∀ e ∈ c.owned, e.2 < id) (used : id < c.host.heap.next) :
    Indexed (c.register name id) := by
  have unnamed : name ∉ c.names := indexed.lookup_eq_none_iff.1 absent
  have names := names_register c name id
  have length : c.names.length = c.owned.length := List.length_map _
  have next : c.host.heap.next ≤ (c.acquire id).host.heap.next := by
    obtain ⟨_, _, passes⟩ := silent_acquire c id
    exact passes.follows.next
  refine ⟨?_, ?_, ?_, ?_, ?_⟩
  · rw [names, List.zipIdx_append, ← indexed.index]
    show c.index.put name c.owned.length = _
    rw [Keyed.put_of_notMem, ← length]
    · simp
    · rw [indexed.index, List.zipIdx_map_fst]
      exact unnamed
  · rw [names, List.nodup_append]
    refine ⟨indexed.names, List.nodup_singleton _, ?_⟩
    intro n member m single same
    rw [same, List.mem_singleton.1 single] at member
    exact unnamed member
  · show ((c.owned ++ [(name, id)]).map (·.2)).Nodup
    rw [List.map_append, List.nodup_append]
    refine ⟨indexed.objects, List.nodup_singleton _, ?_⟩
    intro x member y single same
    obtain ⟨e, owned, rfl⟩ := List.mem_map.1 member
    have := newer e owned
    rw [same, List.mem_singleton.1 single] at this
    exact Nat.lt_irrefl _ this
  · intro e member
    rcases List.mem_append.1 member with owned | single
    · exact Nat.lt_of_lt_of_le (indexed.fresh e owned) next
    · rw [List.mem_singleton.1 single]
      exact Nat.lt_of_lt_of_le used next
  · intro n member
    rw [names] at member
    rcases List.mem_append.1 member with member | single
    · exact indexed.declared n member
    · rw [List.mem_singleton.1 single]
      exact declared

end Indexed

/-! ## Contexts that grow -/

/-- The same document and environment, and more entries, for newer objects. -/
structure Extends (c c' : Context σ) : Prop where
  document : c'.document = c.document
  environment : c'.environment = c.environment
  next : c.host.heap.next ≤ c'.host.heap.next
  owned : ∃ more, c'.owned = c.owned ++ more ∧ ∀ e ∈ more, c.host.heap.next ≤ e.2

namespace Extends

theorem refl (c : Context σ) : Extends c c :=
  ⟨rfl, rfl, Nat.le_refl _, [], (List.append_nil _).symm, by simp⟩

theorem trans {a b c : Context σ} (first : Extends a b) (second : Extends b c) : Extends a c := by
  obtain ⟨more, owned, newer⟩ := first.owned
  obtain ⟨others, owned', newer'⟩ := second.owned
  refine ⟨second.document.trans first.document, second.environment.trans first.environment,
    Nat.le_trans first.next second.next, more ++ others, ?_, ?_⟩
  · rw [owned', owned, List.append_assoc]
  · intro e member
    rcases List.mem_append.1 member with member | member
    · exact newer e member
    · exact Nat.le_trans first.next (newer' e member)

theorem passes {c c' : Context σ} {es : List Event} (passes : Passes c c' es) : Extends c c' := by
  have only := passes.only
  have later := passes.follows.next
  unfold OnlyHost at only
  rw [only]
  exact ⟨rfl, rfl, later, [], (List.append_nil _).symm, by simp⟩

variable {c c' : Context σ}

theorem view (grown : Extends c c') (n : String) : c'.view n = c.view n := by
  unfold Context.view
  rw [grown.document, grown.environment]

theorem leadsTo (grown : Extends c c') (n : String) : c'.leadsTo n = c.leadsTo n := by
  unfold Context.leadsTo
  rw [grown.view]

/-- **A live name keeps denoting the same object.** -/
theorem lookup (grown : Extends c c') (indexed : Indexed c) (indexed' : Indexed c')
    {n : String} {id : ObjectId} (found : c.lookup n = some id) : c'.lookup n = some id := by
  obtain ⟨more, owned, _⟩ := grown.owned
  rw [indexed'.lookup_iff, owned]
  exact List.mem_append_left _ (indexed.lookup_iff.1 found)

end Extends

/-! ## Both at once -/

theorem Consistent.passes {c c' : Context σ} {es : List Event} (consistent : Consistent c)
    (passes : Passes c c' es) : Consistent c' := by
  refine ⟨consistent.toIndexed.passes passes, ?_⟩
  have only := passes.only
  unfold OnlyHost at only
  rw [only]
  exact consistent.asked

/-- A consistent context that comes from another by growing. -/
def Grown (c c' : Context σ) : Prop := Consistent c' ∧ Extends c c'

theorem Grown.refl {c : Context σ} (consistent : Consistent c) : Grown c c := ⟨consistent, .refl c⟩

theorem Grown.trans {a b c : Context σ} (first : Grown a b) (second : Grown b c) : Grown a c :=
  ⟨second.1, first.2.trans second.2⟩

theorem Grown.lookup {c c' : Context σ} (grown : Grown c c') (consistent : Consistent c)
    {n : String} {id : ObjectId} (found : c.lookup n = some id) : c'.lookup n = some id :=
  grown.2.lookup consistent.toIndexed grown.1.toIndexed found

theorem grown_of_passes {c c' : Context σ} {es : List Event} (consistent : Consistent c)
    (passes : Passes c c' es) : Grown c c' :=
  ⟨consistent.passes passes, .passes passes⟩

theorem grown_of_silent {c c' : Context σ} (consistent : Consistent c) (silent : Silent c c') :
    Grown c c' := by
  obtain ⟨_, _, passes⟩ := silent
  exact grown_of_passes consistent passes

end Wiring.Context
