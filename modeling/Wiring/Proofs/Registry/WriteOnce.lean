/-
# Wiring.Proofs.Registry.WriteOnce -- a class is bound once and for good

A registry takes calls of two kinds: to register one factory, and to absorb a registry
that was filled elsewhere.  Any of them may be refused, and an absorption may be refused
halfway.  Still a class is bound to the first factory that got registered under it, and
each call does exactly what can be told from the bindings before it:

* `register_spec`: a factory is refused if its class is bound to one of another type,
  and otherwise leaves the class bound, to what it was bound to before if anything;
* `absorb_free`, `absorb_blocked`: an absorbed registry is taken over as a whole, or up
  to the least class that is bound to another type here;
* `Registry.scan_again`: component types that were registered before change nothing.
-/
import Wiring.Proofs.Keyed
import Wiring.Proofs.Registry.Additions

namespace Wiring

set_option autoImplicit false

variable {σ : Type}

namespace Factories

/-! ## One factory -/

/-- A class is bound to a factory of another type. -/
def Conflicts (fs : Factories σ) (className : String) (f : Factory σ) : Prop :=
  ∃ g, fs.get? className = some g ∧ g.typeName ≠ f.typeName

instance (fs : Factories σ) (className : String) (f : Factory σ) :
    Decidable (fs.Conflicts className f) :=
  decidable_of_iff ((fs.get? className).any fun g => g.typeName != f.typeName) (by
    unfold Conflicts
    cases fs.get? className <;> simp)

/-- The answer to registering a factory under a class that is then bound to `bound`. -/
def answer (className : String) (bound f : Factory σ) : Except Error Unit :=
  if bound.typeName = f.typeName then .ok ()
  else .error (.duplicateFactory className bound.typeName)

theorem register_of_free {fs : Factories σ} {className : String}
    (free : fs.get? className = none) (f : Factory σ) :
    (fs.register className f).value = (.ok (), fs ++ [(className, f)]) := by
  unfold register
  rw [free]
  rfl

theorem register_of_bound {fs : Factories σ} {className : String} {g : Factory σ}
    (bound : fs.get? className = some g) (f : Factory σ) :
    (fs.register className f).value = (answer className g f, fs) := by
  unfold register answer
  simp only [bound]
  by_cases same : g.typeName = f.typeName
  · rw [if_pos (beq_iff_eq.2 same), if_pos same]
    rfl
  · rw [if_neg (mt beq_iff_eq.1 same), if_neg same]
    rfl

theorem get?_append_single (fs : Factories σ) (className : String) (f : Factory σ) (n : String) :
    get? (fs ++ [(className, f)]) n =
      if n = className then some ((fs.get? className).getD f) else fs.get? n := by
  unfold get?
  rw [List.lookup_append]
  by_cases same : n = className
  · rw [if_pos same, same]
    cases fs.lookup className <;> simp
  · have other : (n == className) = false := by simpa using same
    rw [if_neg same]
    cases fs.lookup n <;> simp [List.lookup_cons, other]

/-- **What registering a factory does**: afterwards its class is bound, to the factory it was
bound to before if there was one, and that factory's type decides the answer. -/
theorem register_spec (fs : Factories σ) (className : String) (f : Factory σ) :
    (fs.register className f).value.1 = answer className ((fs.get? className).getD f) f ∧
      ∀ n, (fs.register className f).value.2.get? n =
        if n = className then some ((fs.get? className).getD f) else fs.get? n := by
  cases bound : fs.get? className with
  | none =>
      rw [register_of_free bound]
      refine ⟨(if_pos rfl).symm, fun n => ?_⟩
      rw [get?_append_single, bound]
  | some g =>
      rw [register_of_bound bound]
      refine ⟨rfl, fun n => ?_⟩
      by_cases same : n = className
      · rw [if_pos same, same, bound]
        rfl
      · rw [if_neg same]

theorem answer_eq_ok_iff {fs : Factories σ} {className : String} {f : Factory σ} :
    answer className ((fs.get? className).getD f) f = .ok () ↔ ¬ fs.Conflicts className f := by
  unfold answer Conflicts
  cases fs.get? className with
  | none => simp
  | some g => simp

theorem register_of_conflict {fs : Factories σ} {className : String} {f g : Factory σ}
    (bound : fs.get? className = some g) (differs : g.typeName ≠ f.typeName) :
    (fs.register className f).value = (.error (.duplicateFactory className g.typeName), fs) := by
  rw [register_of_bound bound, answer, if_neg differs]

/-- All there is to say of registering a factory `f` under a class. -/
structure Registers (fs : Factories σ) (className : String) (f : Factory σ) : Prop where
  refused : (∃ e, (fs.register className f).value.1 = .error e) ↔ fs.Conflicts className f
  duplicate : ∀ e, (fs.register className f).value.1 = .error e → e.kind = .duplicate
  unchanged : ∀ e, (fs.register className f).value.1 = .error e →
    (fs.register className f).value.2 = fs
  bound : ∀ n, (fs.register className f).value.2.get? n =
    if n = className then some ((fs.get? className).getD f) else fs.get? n

theorem registers (fs : Factories σ) (className : String) (f : Factory σ) :
    fs.Registers className f := by
  obtain ⟨answered, bound⟩ := register_spec fs className f
  by_cases conflicts : fs.Conflicts className f
  · obtain ⟨g, found, differs⟩ := conflicts
    have refused := register_of_conflict found differs
    refine ⟨⟨fun _ => ⟨g, found, differs⟩, fun _ => ⟨_, by rw [refused]⟩⟩, ?_, ?_, bound⟩
    · intro e failed
      rw [refused] at failed
      cases failed
      rfl
    · intro e failed
      rw [refused]
  · have accepted := answered.trans (answer_eq_ok_iff.2 conflicts)
    refine ⟨⟨?_, fun conflict => absurd conflict conflicts⟩, ?_, ?_, bound⟩
    · rintro ⟨e, failed⟩
      exact absurd (accepted.symm.trans failed) (by simp)
    · intro e failed
      exact absurd (accepted.symm.trans failed) (by simp)
    · intro e failed
      exact absurd (accepted.symm.trans failed) (by simp)

/-! ## Several factories -/

theorem nodup_register {fs : Factories σ} (distinct : (fs.map (·.1)).Nodup) (className : String)
    (f : Factory σ) : (((fs.register className f).value.2).map (·.1)).Nodup := by
  cases bound : fs.get? className with
  | none =>
      rw [register_of_free bound, List.map_append]
      refine List.nodup_append.2 ⟨distinct, List.nodup_singleton _, ?_⟩
      intro a member b new same
      rw [List.map_singleton, List.mem_singleton] at new
      rw [same, new] at member
      exact Keyed.notMem_of_lookup_eq_none bound member
  | some g =>
      rw [register_of_bound bound]
      exact distinct

theorem registerAll_cons_of_ok {fs : Factories σ} {className : String} {f : Factory σ}
    (accepted : (fs.register className f).value.1 = .ok ()) (rest : List (String × Factory σ)) :
    (fs.registerAll ((className, f) :: rest)).value =
      ((fs.register className f).value.2.registerAll rest).value := by
  rw [value_registerAll_cons]
  cases registered : (fs.register className f).value with
  | mk result fs₁ =>
      rw [registered] at accepted
      cases accepted
      rfl

/-- Classes that differ and are not bound to other types are all bound. -/
theorem registerAll_free {fs : Factories σ} {list : List (String × Factory σ)}
    (distinct : (list.map (·.1)).Nodup) (free : ∀ e ∈ list, ¬ fs.Conflicts e.1 e.2) :
    (fs.registerAll list).value.1 = .ok () ∧
      ∀ n, (fs.registerAll list).value.2.get? n = (fs.get? n).or (list.lookup n) := by
  induction list generalizing fs with
  | nil => exact ⟨rfl, fun n => by simp [registerAll]⟩
  | cons e rest ih =>
      obtain ⟨className, f⟩ := e
      obtain ⟨fresh, distinct⟩ := List.nodup_cons.1 distinct
      obtain ⟨answered, bound⟩ := register_spec fs className f
      have accepted := answered.trans (answer_eq_ok_iff.2 (free _ List.mem_cons_self))
      rw [registerAll_cons_of_ok accepted]
      have free' : ∀ e ∈ rest, ¬ (fs.register className f).value.2.Conflicts e.1 e.2 := by
        rintro e member ⟨g, found, differs⟩
        have other : e.1 ≠ className := by
          intro same
          exact fresh (List.mem_map.2 ⟨e, member, same⟩)
        rw [bound, if_neg other] at found
        exact free e (List.mem_cons_of_mem _ member) ⟨g, found, differs⟩
      obtain ⟨done, all⟩ := ih distinct free'
      refine ⟨done, fun n => ?_⟩
      rw [all, bound]
      by_cases same : n = className
      · rw [if_pos same, same]
        cases fs.get? className <;> simp
      · have other : (n == className) = false := by simpa using same
        rw [if_neg same, List.lookup_cons, other]

theorem registerAll_append {fs : Factories σ} {first : List (String × Factory σ)}
    (accepted : (fs.registerAll first).value.1 = .ok ()) (rest : List (String × Factory σ)) :
    (fs.registerAll (first ++ rest)).value =
      ((fs.registerAll first).value.2.registerAll rest).value := by
  induction first generalizing fs with
  | nil => rfl
  | cons e first ih =>
      obtain ⟨className, f⟩ := e
      rw [value_registerAll_cons] at accepted ⊢
      rw [List.cons_append, value_registerAll_cons]
      cases registered : (fs.register className f).value with
      | mk result fs₁ =>
          rw [registered] at accepted
          cases result with
          | error e => cases accepted
          | ok u => exact ih accepted

/-- The first class that is bound to another type stops the registration: those before it are
bound, and nothing else is. -/
theorem registerAll_blocked {fs : Factories σ} {first : List (String × Factory σ)}
    {className : String} {f g : Factory σ} (distinct : (first.map (·.1)).Nodup)
    (free : ∀ e ∈ first, ¬ fs.Conflicts e.1 e.2)
    (found : fs.get? className = some g) (differs : g.typeName ≠ f.typeName)
    (rest : List (String × Factory σ)) :
    (fs.registerAll (first ++ (className, f) :: rest)).value.1 =
        .error (.duplicateFactory className g.typeName) ∧
      ∀ n, (fs.registerAll (first ++ (className, f) :: rest)).value.2.get? n =
        (fs.get? n).or (first.lookup n) := by
  obtain ⟨accepted, all⟩ := registerAll_free distinct free
  have still : (fs.registerAll first).value.2.get? className = some g := by
    rw [all, found]
    rfl
  rw [registerAll_append accepted, value_registerAll_cons, register_of_conflict still differs]
  exact ⟨rfl, all⟩

theorem mem_register {fs : Factories σ} {className : String} {f : Factory σ}
    {e : String × Factory σ} (member : e ∈ (fs.register className f).value.2) :
    e ∈ fs ∨ e ∈ [(className, f)] := by
  cases bound : fs.get? className with
  | none =>
      rw [register_of_free bound] at member
      exact List.mem_append.1 member
  | some g =>
      rw [register_of_bound bound] at member
      exact .inl member

theorem mem_registerAll {fs : Factories σ} {list : List (String × Factory σ)}
    {x : String × Factory σ} (member : x ∈ (fs.registerAll list).value.2) : x ∈ fs ∨ x ∈ list := by
  refine registerAll_induction (I := fun fs' => ∀ x ∈ fs', x ∈ fs ∨ x ∈ list) (fun x => .inl)
    ?_ x member
  intro fs₁ e there before x new
  rcases mem_register new with old | same
  · exact before x old
  · exact .inr (List.mem_singleton.1 same ▸ there)

/-- A class is bound to the type of the factory that is staged for it. -/
def Binds (fs : Factories σ) (e : String × Factory σ) : Prop :=
  ∃ g, fs.get? e.1 = some g ∧ g.typeName = e.2.typeName

theorem Binds.mono {P : Factory σ → Prop} {fs fs' : Factories σ} {e : String × Factory σ}
    (binds : fs.Binds e) (adds : Adds P fs fs') : fs'.Binds e := by
  obtain ⟨g, found, same⟩ := binds
  exact ⟨g, adds.get? found, same⟩

/-- Either all classes end up bound to the types of their factories, or the refusal is due to the
first one that ends up bound to another type. -/
theorem registerAll_verdict (fs : Factories σ) (list : List (String × Factory σ)) :
    ((fs.registerAll list).value.1 = .ok () ∧
        ∀ e ∈ list, (fs.registerAll list).value.2.Binds e) ∨
      ∃ before e after g, list = before ++ e :: after ∧
        (∀ x ∈ before, (fs.registerAll list).value.2.Binds x) ∧
        (fs.registerAll list).value.2.get? e.1 = some g ∧ g.typeName ≠ e.2.typeName ∧
        (fs.registerAll list).value.1 = .error (.duplicateFactory e.1 g.typeName) := by
  induction list generalizing fs with
  | nil => exact .inl ⟨rfl, fun e member => absurd member List.not_mem_nil⟩
  | cons first rest ih =>
      obtain ⟨className, f⟩ := first
      obtain ⟨answered, bound⟩ := register_spec fs className f
      have here := bound className
      rw [if_pos rfl] at here
      rw [value_registerAll_cons]
      cases registered : (fs.register className f).value with
      | mk result fs₁ =>
          rw [registered] at answered here
          by_cases same : ((fs.get? className).getD f).typeName = f.typeName
          · rw [answer, if_pos same] at answered
            obtain rfl : result = .ok () := answered
            have adds : Adds (fun _ => True) fs₁ (fs₁.registerAll rest).value.2 :=
              adds_registerAll fs₁ fun _ _ => trivial
            have first : (fs₁.registerAll rest).value.2.Binds (className, f) :=
              Binds.mono ⟨_, here, same⟩ adds
            rcases ih fs₁ with ⟨accepted, all⟩ | ⟨before, e, after, g, rfl, all, later⟩
            · exact .inl ⟨accepted, List.forall_mem_cons.2 ⟨first, all⟩⟩
            · exact .inr ⟨(className, f) :: before, e, after, g, rfl,
                List.forall_mem_cons.2 ⟨first, all⟩, later⟩
          · rw [answer, if_neg same] at answered
            obtain rfl : result = .error _ := answered
            exact .inr ⟨[], (className, f), rest, _, rfl, by simp, here, same, rfl⟩

theorem nodup_registerAll {fs : Factories σ} (distinct : (fs.map (·.1)).Nodup)
    (list : List (String × Factory σ)) : (((fs.registerAll list).value.2).map (·.1)).Nodup :=
  registerAll_induction (I := fun fs' => (fs'.map (·.1)).Nodup) distinct
    fun _ e _ before => nodup_register before e.1 e.2

/-! ## Calls -/

/-- A call that a registry serves. -/
inductive Call (σ : Type) where
  | register (className : String) (f : Factory σ)
  | absorb (staged : Factories σ)

/-- The factories that come with a call. -/
def Call.brings : Call σ → List (String × Factory σ)
  | .register className f => [(className, f)]
  | .absorb staged => staged

/-- The registry after a call, whether it was refused or not. -/
def serve (fs : Factories σ) : Call σ → Factories σ
  | .register className f => (fs.register className f).value.2
  | .absorb staged => (fs.absorb staged).value.2

def serveAll (fs : Factories σ) (calls : List (Call σ)) : Factories σ := calls.foldl serve fs

theorem adds_serve (fs : Factories σ) (call : Call σ) : Adds (fun _ => True) fs (fs.serve call) := by
  cases call with
  | register className f => exact adds_register fs className trivial
  | absorb staged => exact adds_absorb fs fun _ _ => trivial

theorem adds_serveAll (fs : Factories σ) (calls : List (Call σ)) :
    Adds (fun _ => True) fs (fs.serveAll calls) := by
  induction calls generalizing fs with
  | nil => exact .refl fs
  | cons call calls ih => exact (adds_serve fs call).trans (ih (fs.serve call))

theorem mem_serve {fs : Factories σ} {call : Call σ} {e : String × Factory σ}
    (member : e ∈ fs.serve call) : e ∈ fs ∨ e ∈ call.brings := by
  cases call with
  | register className f => exact mem_register member
  | absorb staged => exact (mem_registerAll member).imp_right List.mem_mergeSort.1

/-- A class that gets bound gets bound by one of the calls, to a factory that came with it. -/
theorem exists_binding_call {fs : Factories σ} {calls : List (Call σ)} {className : String}
    {f : Factory σ} (free : fs.get? className = none)
    (bound : (fs.serveAll calls).get? className = some f) :
    ∃ before call after, calls = before ++ call :: after ∧
      (fs.serveAll before).get? className = none ∧
      ((fs.serveAll before).serve call).get? className = some f ∧
      (className, f) ∈ call.brings := by
  induction calls generalizing fs with
  | nil => exact absurd (free.symm.trans bound) (by simp)
  | cons call calls ih =>
      cases now : (fs.serve call).get? className with
      | none =>
          obtain ⟨before, found, after, split, unbound, binds, brought⟩ := ih now bound
          exact ⟨call :: before, found, after, by rw [split]; rfl, unbound, binds, brought⟩
      | some g =>
          have kept : (fs.serveAll (call :: calls)).get? className = some g :=
            (adds_serveAll (fs.serve call) calls).get? now
          have same : g = f := Option.some.inj (kept.symm.trans bound)
          rw [same] at now
          refine ⟨[], call, calls, rfl, free, now, ?_⟩
          rcases mem_serve (Keyed.mem_of_lookup now) with old | brought
          · exact absurd (List.mem_map_of_mem old) (Keyed.notMem_of_lookup_eq_none free)
          · exact brought

/-- No class stands twice in a registry that was filled by calls. -/
theorem nodup_serve {fs : Factories σ} (distinct : (fs.map (·.1)).Nodup) (call : Call σ) :
    ((fs.serve call).map (·.1)).Nodup := by
  cases call with
  | register className f => exact nodup_register distinct className f
  | absorb staged => exact nodup_registerAll distinct _

theorem nodup_serveAll {fs : Factories σ} (distinct : (fs.map (·.1)).Nodup)
    (calls : List (Call σ)) : ((fs.serveAll calls).map (·.1)).Nodup := by
  induction calls generalizing fs with
  | nil => exact distinct
  | cons call calls ih => exact ih (nodup_serve distinct call)

/-! ## Absorbing -/

/-- A staged class that is bound to another type here. -/
def Blocks (fs staged : Factories σ) (className : String) : Prop :=
  ∃ f, staged.get? className = some f ∧ fs.Conflicts className f

/-- The order in which a staged registry is taken over. -/
def inOrder (staged : Factories σ) : List (String × Factory σ) :=
  staged.mergeSort fun a b => decide (a.1 ≤ b.1)

theorem sorted_inOrder (staged : Factories σ) :
    staged.inOrder.Pairwise fun a b => a.1 ≤ b.1 := by
  have pairwise : staged.inOrder.Pairwise fun a b => decide (a.1 ≤ b.1) = true :=
    List.pairwise_mergeSort
      (fun a b c first second => by
        simpa using String.le_trans (of_decide_eq_true first) (of_decide_eq_true second))
      (fun a b => by simpa using String.le_total a.1 b.1) staged
  exact pairwise.imp of_decide_eq_true

/-- What is staged for a class that is less than another is taken over before that. -/
theorem mem_of_lt {staged before after : List (String × Factory σ)} {e x : String × Factory σ}
    (split : inOrder staged = before ++ e :: after) (member : x ∈ staged) (lesser : x.1 < e.1) :
    x ∈ before := by
  have sorted := sorted_inOrder staged
  have member' : x ∈ inOrder staged := List.mem_mergeSort.2 member
  rw [split] at sorted member'
  rcases List.mem_append.1 member' with earlier | later
  · exact earlier
  · refine absurd lesser (String.not_lt.2 ?_)
    rcases List.mem_cons.1 later with same | later
    · exact same ▸ String.le_refl _
    · exact (List.pairwise_cons.1 (List.pairwise_append.1 sorted).2.1).1 x later

section InOrder

variable {staged : Factories σ} (distinct : (staged.map (·.1)).Nodup)
include distinct

theorem nodup_inOrder : (staged.inOrder.map (·.1)).Nodup :=
  ((List.mergeSort_perm staged _).map (·.1)).nodup_iff.2 distinct

theorem lookup_inOrder (n : String) : staged.inOrder.lookup n = staged.get? n := by
  apply Option.ext
  intro f
  unfold get?
  rw [Keyed.lookup_eq_some_iff_mem (nodup_inOrder distinct),
    Keyed.lookup_eq_some_iff_mem distinct]
  exact List.mem_mergeSort

/-- Classes are taken over in string order. -/
theorem pairwise_inOrder : staged.inOrder.Pairwise fun a b => a.1 < b.1 := by
  refine (sorted_inOrder staged).imp₂ ?_ (List.pairwise_map.1 (nodup_inOrder distinct))
  intro a b le differs
  exact String.not_le.1 fun ge => differs (String.le_antisymm le ge)

end InOrder

theorem value_absorb (fs staged : Factories σ) :
    (fs.absorb staged).value = ((fs.registerAll staged.inOrder).value.1.map fun _ => staged.length,
      (fs.registerAll staged.inOrder).value.2) := rfl

section Absorb

variable {fs staged : Factories σ} (distinct : (staged.map (·.1)).Nodup)
include distinct

theorem mem_inOrder_iff {e : String × Factory σ} :
    e ∈ staged.inOrder ↔ staged.get? e.1 = some e.2 := by
  rw [← lookup_inOrder distinct, Keyed.lookup_eq_some_iff_mem (nodup_inOrder distinct)]

/-- A registry of which no class is bound to another type here is taken over as a whole. -/
theorem absorb_free (free : ∀ className, ¬ fs.Blocks staged className) :
    (fs.absorb staged).value.1 = .ok staged.length ∧
      ∀ n, (fs.absorb staged).value.2.get? n = (fs.get? n).or (staged.get? n) := by
  have unopposed : ∀ e ∈ staged.inOrder, ¬ fs.Conflicts e.1 e.2 := fun e member conflicts =>
    free e.1 ⟨e.2, (mem_inOrder_iff distinct).1 member, conflicts⟩
  obtain ⟨accepted, all⟩ := registerAll_free (nodup_inOrder distinct) unopposed
  rw [value_absorb]
  refine ⟨by rw [accepted]; rfl, fun n => ?_⟩
  rw [all, lookup_inOrder distinct]

/-- The entries before one of a registry in order are those of the lesser classes. -/
theorem lookup_before {before after : List (String × Factory σ)} {e : String × Factory σ}
    (split : staged.inOrder = before ++ e :: after) (n : String) :
    before.lookup n = if n < e.1 then staged.get? n else none := by
  have order := pairwise_inOrder distinct
  rw [split, List.pairwise_append, List.pairwise_cons] at order
  obtain ⟨-, ⟨above, -⟩, below⟩ := order
  by_cases lesser : n < e.1
  · have beyond : (e :: after).lookup n = none := by
      rw [List.lookup_eq_none_iff]
      intro p member
      have lt : n < p.1 := by
        rcases List.mem_cons.1 member with rfl | later
        · exact lesser
        · exact String.lt_trans lesser (above p later)
      exact bne_iff_ne.2 (String.ne_of_lt lt)
    rw [if_pos lesser, ← lookup_inOrder distinct, split, List.lookup_append, beyond, Option.or_none]
  · rw [if_neg lesser, List.lookup_eq_none_iff]
    intro p member
    refine bne_iff_ne.2 fun same => lesser ?_
    rw [same]
    exact below p member e List.mem_cons_self

/-- Of the classes that are bound to another type here, the one that is absorbed first is the least. -/
theorem exists_least_blocked {className : String} (blocked : fs.Blocks staged className) :
    ∃ before e after, staged.inOrder = before ++ e :: after ∧ fs.Conflicts e.1 e.2 ∧
      (∀ x ∈ before, ¬ fs.Conflicts x.1 x.2) ∧
      ∀ other, fs.Blocks staged other → e.1 ≤ other := by
  obtain ⟨f, there, conflicts⟩ := blocked
  have member : (className, f) ∈ staged.inOrder := (mem_inOrder_iff distinct).2 there
  obtain ⟨e, found⟩ :
      ∃ e, staged.inOrder.find? (fun e => decide (fs.Conflicts e.1 e.2)) = some e :=
    Option.isSome_iff_exists.1 (List.find?_isSome.2 ⟨_, member, decide_eq_true conflicts⟩)
  obtain ⟨opposed, before, after, split, unopposed⟩ := List.find?_eq_some_iff_append.1 found
  have free : ∀ x ∈ before, ¬ fs.Conflicts x.1 x.2 := fun x member => by
    simpa using unopposed x member
  refine ⟨before, e, after, split, of_decide_eq_true opposed, free, ?_⟩
  rintro other ⟨f', there', conflicts'⟩
  refine String.not_lt.1 fun lesser => free (other, f') ?_ conflicts'
  exact mem_of_lt split (Keyed.mem_of_lookup there') lesser

/-- A registry with a class that is bound to another type here is taken over up to the least such
class, in string order. -/
theorem absorb_blocked {className : String} (blocked : fs.Blocks staged className) :
    ∃ least g, fs.Blocks staged least ∧ (∀ other, fs.Blocks staged other → least ≤ other) ∧
      fs.get? least = some g ∧
      (fs.absorb staged).value.1 = .error (.duplicateFactory least g.typeName) ∧
      ∀ n, (fs.absorb staged).value.2.get? n =
        if n < least then (fs.get? n).or (staged.get? n) else fs.get? n := by
  obtain ⟨before, e, after, split, conflicts, free, least⟩ := exists_least_blocked distinct blocked
  have here : e ∈ staged.inOrder := by
    rw [split]
    exact List.mem_append_right _ List.mem_cons_self
  have earlier : (before.map (·.1)).Nodup := by
    have nodup := nodup_inOrder distinct
    rw [split, List.map_append] at nodup
    exact (List.nodup_append.1 nodup).1
  obtain ⟨g, bound, differs⟩ := conflicts
  obtain ⟨refused, all⟩ := registerAll_blocked earlier free bound differs after
  refine ⟨e.1, g, ⟨e.2, (mem_inOrder_iff distinct).1 here, g, bound, differs⟩, least, bound, ?_, ?_⟩
  · rw [value_absorb, split, refused]
    rfl
  · intro n
    rw [value_absorb, split, all, lookup_before distinct split]
    by_cases lesser : n < e.1
    · rw [if_pos lesser, if_pos lesser]
    · rw [if_neg lesser, if_neg lesser, Option.or_none]

end Absorb

/-- All there is to say of absorbing a staged registry. -/
structure Absorbs (fs staged : Factories σ) : Prop where
  succeeds : (fs.absorb staged).value.1 = .ok staged.length ↔
    ∀ className, ¬ fs.Blocks staged className
  complete : (∀ className, ¬ fs.Blocks staged className) →
    ∀ n, (fs.absorb staged).value.2.get? n = (fs.get? n).or (staged.get? n)
  halfway : ∀ className, fs.Blocks staged className →
    ∃ least g, fs.Blocks staged least ∧ (∀ other, fs.Blocks staged other → least ≤ other) ∧
      fs.get? least = some g ∧
      (fs.absorb staged).value.1 = .error (.duplicateFactory least g.typeName) ∧
      ∀ n, (fs.absorb staged).value.2.get? n =
        if n < least then (fs.get? n).or (staged.get? n) else fs.get? n

theorem absorbs {staged : Factories σ} (distinct : (staged.map (·.1)).Nodup) (fs : Factories σ) :
    fs.Absorbs staged := by
  refine ⟨⟨?_, fun free => (absorb_free distinct free).1⟩, fun free => (absorb_free distinct free).2,
    fun className blocked => absorb_blocked distinct blocked⟩
  intro succeeded className blocked
  obtain ⟨least, g, -, -, -, refused, -⟩ := absorb_blocked distinct blocked
  exact absurd (succeeded.symm.trans refused) (by simp)

end Factories

/-! ## Scanning again -/

namespace Registry

/-- Registering a component type again, whatever was added since, is answered as before and changes
nothing. -/
theorem register_again {r r' : Registry σ} (c : Component σ)
    (grows : Grows (r.register c).value.2 r') :
    (r'.register c).value = ((r.register c).value.1, r') := by
  cases made : c.factory with
  | error e =>
      unfold register
      rw [made]
      rfl
  | ok f =>
      have value : ∀ r : Registry σ, (r.register c).value =
          ((r.factories.register c.className f).value.1,
            ⟨(r.factories.register c.className f).value.2, r.casts.registerAll c.edges⟩) := by
        intro r
        unfold register
        rw [made]
        rfl
      rw [value r] at grows
      rw [value r, value r']
      obtain ⟨answered, bound⟩ := Factories.register_spec r.factories c.className f
      have known : r'.factories.get? c.className = some ((r.factories.get? c.className).getD f) := by
        refine grows.factories.get? ?_
        rw [bound, if_pos rfl]
      have present : r'.casts.registerAll c.edges = r'.casts :=
        Casts.registerAll_of_subset fun e member =>
          grows.casts (Casts.mem_registerAll.2 (.inr member))
      rw [Factories.register_of_bound known, answered, present]

/-- **Scanning component types again changes nothing**, whatever was added since, and is answered as
it was the first time. -/
theorem scan_again {r r' : Registry σ} (components : List (Component σ))
    (grows : Grows (r.scan components).value.2 r') :
    (r'.scan components).value = ((r.scan components).value.1, r') := by
  induction components generalizing r with
  | nil => rfl
  | cons c rest ih =>
      -- whatever the rest of the scan comes to, it adds to what the first type left
      have first : Grows (r.register c).value.2 r' := by
        refine Grows.trans ?_ grows
        rw [value_scan_cons]
        rcases (r.register c).value with ⟨_ | _, r₁⟩
        · exact .refl r₁
        · exact grows_scan r₁ rest
      rw [value_scan_cons] at grows
      rw [value_scan_cons, value_scan_cons, register_again c first]
      rcases registered : (r.register c).value with ⟨_ | _, r₁⟩
      · rfl
      · rw [registered] at grows
        exact ih grows

/-! ## The registry as a whole -/

/-- **A registry is write-once**, whatever it is asked for and whether that is refused or not.

A class that is bound stays bound to the same factory over any calls, and one that gets bound is
bound to the factory that comes with the call that does so.  Registering and absorbing do what
`Factories.Registers` and `Factories.Absorbs` say, which is told by the bindings before, for any
registry to absorb, as it was filled by calls.  So scanning the same component types again, also
after any calls and after any edges were added, has the same answer and changes nothing. -/
theorem write_once (r : Registry σ) :
    (∀ calls className f, r.factories.get? className = some f →
      (r.factories.serveAll calls).get? className = some f) ∧
    (∀ calls className f, r.factories.get? className = none →
      (r.factories.serveAll calls).get? className = some f →
      ∃ before call after, calls = before ++ call :: after ∧
        (r.factories.serveAll before).get? className = none ∧
        ((r.factories.serveAll before).serve call).get? className = some f ∧
        (className, f) ∈ call.brings) ∧
    (∀ className f, r.factories.Registers className f) ∧
    (∀ filling, r.factories.Absorbs (Factories.serveAll [] filling)) ∧
    ∀ components calls, ∀ later : Registry σ,
      later.factories = (r.scan components).value.2.factories.serveAll calls →
      (r.scan components).value.2.casts ⊆ later.casts →
      (later.scan components).value = ((r.scan components).value.1, later) := by
  refine ⟨?_, ?_, ?_, ?_, ?_⟩
  · intro calls className f bound
    exact (Factories.adds_serveAll r.factories calls).get? bound
  · intro calls className f free bound
    exact Factories.exists_binding_call free bound
  · exact fun className f => Factories.registers r.factories className f
  · exact fun filling => Factories.absorbs (Factories.nodup_serveAll (by simp) filling) _
  · intro components calls later served edges
    refine scan_again components ⟨?_, edges⟩
    rw [served]
    exact Factories.adds_serveAll _ calls

def plainFactory (typeName : TypeName) : Factory Unit := ⟨⟨typeName, typeName, []⟩, .ok ()⟩

def holdingB : Registry Unit := ⟨[("b", plainFactory "B")], []⟩

/-- Calls that fill a registry with three classes, of which the second one clashes. -/
def clashingCalls : List (Factories.Call Unit) :=
  [.register "c" (plainFactory "C"), .register "b" (plainFactory "X"),
    .register "a" (plainFactory "A")]

theorem write_once_clash :
    let staged := Factories.serveAll [] clashingCalls
    let absorbed := (holdingB.factories.absorb staged).value
    holdingB.factories.Blocks staged "b" ∧
      absorbed.1 = .error (.duplicateFactory "b" "B") ∧
      absorbed.2.get? "a" = some (plainFactory "A") ∧ absorbed.2.get? "c" = none ∧
      ∀ calls, (absorbed.2.serveAll calls).get? "b" = some (plainFactory "B") := by
  intro staged absorbed
  have blocks : holdingB.factories.Blocks staged "b" :=
    ⟨plainFactory "X", rfl, plainFactory "B", rfl, by decide⟩
  obtain ⟨keeps, -, -, absorbs, -⟩ := write_once holdingB
  obtain ⟨least, g, -, -, bound, refused, taken⟩ := (absorbs clashingCalls).halfway "b" blocks
  obtain ⟨rfl, rfl⟩ : least = "b" ∧ g = plainFactory "B" := by
    have member := Keyed.mem_of_lookup bound
    simpa [holdingB] using member
  refine ⟨blocks, refused, ?_, ?_, fun calls => ?_⟩
  · rw [taken]
    rfl
  · rw [taken]
    rfl
  · exact keeps (.absorb staged :: calls) "b" _ rfl

end Registry

end Wiring
