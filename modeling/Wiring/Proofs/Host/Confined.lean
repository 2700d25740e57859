/-
# Wiring.Proofs.Host.Confined -- components that keep references in their fields only

A component gets at another one over references, and if all references are in fields
then the fields lead to everything that it can get at: those of itself, of what it was
given, and of what it finds there.  An action is `Confined` if it hands around nothing
else, and a program is if all its components are.

Such programs are divided by time: as long as only objects from `N` on are called, and
given nothing but such objects, the older ones never come to know of a newer one, nor
the newer ones of an older (`Moves.secluded`).
-/
import Wiring.Component.Blueprint
import Wiring.Proofs.Heap.Anchored
import Wiring.Proofs.Host.Presence
import Wiring.Proofs.Host.Registered

namespace Wiring

set_option autoImplicit false

open Relation (ReflTransGen)

namespace Component

variable {σ : Type}

/-- Which references components keep in their fields, strong and weak. -/
structure Fields (σ : Type) [Lifecycle σ] where
  kept : σ → List ObjectId
  held : ∀ s, ∀ x ∈ Lifecycle.held s, x ∈ kept s

variable [Lifecycle σ] (fields : Fields σ)

/-- An object has a reference to another in its fields. -/
def Links (sight : Sight σ) (x y : ObjectId) : Prop := ∃ s, sight x = some s ∧ y ∈ fields.kept s

/-- The fields of objects lead to an object, from one of those given. -/
def Leads (sight : Sight σ) (given : List ObjectId) (y : ObjectId) : Prop :=
  ∃ x ∈ given, ReflTransGen (Links fields sight) x y

/-- An action that is given some objects leaves no object with a new reference, but where fields
lead to both from its own component or from those that it was given. -/
def Confined (given : List ObjectId) (action : Action σ) : Prop :=
  ∀ sight id, ∀ c ∈ (action sight id).changes, ∀ s, sight c.1 = some s → ∀ x ∈ fields.kept c.2,
    x ∈ fields.kept s ∨
      Leads fields sight (id :: given) c.1 ∧ Leads fields sight (id :: given) x

/-- The objects that a value hands over. -/
def Given.objects : Given → List ObjectId
  | reference id => [id]
  | _ => []

def Binding.Confined : Binding σ → Prop
  | reference _ set | weakReference _ set => ∀ id, Component.Confined fields [id] (set id)
  | number set => ∀ x, Component.Confined fields [] (set x)
  | integer _ set => ∀ n, Component.Confined fields [] (set n)
  | boolean set => ∀ b, Component.Confined fields [] (set b)
  | text set => ∀ s, Component.Confined fields [] (set s)
  | character set => ∀ c, Component.Confined fields [] (set c)
  | time set => ∀ n, Component.Confined fields [] (set n)
  | list set => ∀ items, Component.Confined fields [] (set items)
  | map set => ∀ entries, Component.Confined fields [] (set entries)
  | hook call => Component.Confined fields [] call

end Component

open Wiring.Component

variable {σ : Type} [Lifecycle σ] {fields : Fields σ}

/-! ## Blueprints, factories and programs -/

def Blueprint.Confined (fields : Fields σ) (b : Blueprint σ) : Prop :=
  ∀ e ∈ b.bindings, e.2.Confined fields

/-- A factory makes confined instances, which have no references to begin with. -/
structure Factory.Confined (fields : Fields σ) (f : Factory σ) : Prop where
  blueprint : f.blueprint.Confined fields
  bare : ∀ s, f.make = .ok s → fields.kept s = []

/-- All components of a running program are confined, those it can still register included. -/
structure Host.Confined (fields : Fields σ) (h : Host σ) : Prop where
  offered : ∀ f, h.program.Offers f → f.Confined fields
  registered : ∀ e ∈ h.registry.factories, e.2.Confined fields
  objects : ∀ {id o}, h.object? id = some o → o.blueprint.Confined fields

namespace Blueprint

variable {b : Blueprint σ} {action : Action σ}

theorem Confined.binding (confined : b.Confined fields) {name : String} {binding : Binding σ}
    (found : b.binding? name = some binding) : binding.Confined fields := by
  obtain ⟨before, after, same, _⟩ := List.lookup_eq_some_iff.1 found
  have member : (name, binding) ∈ b.bindings := by simp [same]
  exact confined _ member

omit [Lifecycle σ] in
theorem exists_of_map_eq_ok {α β : Type} {x : Except Error α} {f : α → β} {b : β}
    (mapped : x.map f = .ok b) : ∃ a, x = .ok a ∧ f a = b := by
  cases x with
  | error e => cases mapped
  | ok a =>
      cases mapped
      exact ⟨a, rfl, rfl⟩

omit [Lifecycle σ] in
theorem error_of_map_eq_error {α β : Type} {x : Except Error α} {f : α → β} {e : Error}
    (mapped : x.map f = .error e) : x = .error e := by
  cases x with
  | error e =>
      cases mapped
      rfl
  | ok a => cases mapped

theorem Confined.setter (confined : b.Confined fields)
    {cast : ObjectId → TypeName → Except Error Unit} {name : String} {value : Given}
    (found : b.setter cast name value = .ok action) :
    Component.Confined fields value.objects action := by
  unfold Blueprint.setter at found
  cases bound : b.binding? name with
  | none => simp [bound] at found
  | some binding =>
      have good := confined.binding bound
      simp only [bound] at found
      split at found <;>
        first
        | (obtain ⟨_, _, rfl⟩ := exists_of_map_eq_ok found
           exact good _)
        | (cases found
           exact good _)
        | cases found

theorem Confined.hook (confined : b.Confined fields) {name : String}
    (found : b.hook name = .ok action) : Component.Confined fields [] action := by
  unfold Blueprint.hook at found
  split at found
  · simp at found
  · next call bound =>
    cases found
    exact confined.binding bound
  · simp at found

end Blueprint

/-! ## Components -/

namespace Component

theorem confined_update {given : List ObjectId} {f : σ → σ}
    (keeps : ∀ s, ∀ x ∈ fields.kept (f s), x ∈ fields.kept s ∨ x ∈ given) :
    Confined fields given (update f) := by
  intro sight id c member s seen x kept
  unfold update at member
  split at member
  · next t own =>
    rw [List.mem_singleton.1 member] at seen kept
    have same : t = s := Option.some.inj (own.symm.trans seen)
    rw [same] at kept
    rcases keeps s x kept with before | handed
    · exact .inl before
    · rw [List.mem_singleton.1 member]
      exact .inr ⟨⟨id, List.mem_cons_self, .refl⟩, x, List.mem_cons_of_mem _ handed, .refl⟩
  · simp at member

theorem confined_of_unchanged {given : List ObjectId} {action : Action σ}
    (none : ∀ sight id, (action sight id).changes = []) : Confined fields given action := by
  intro sight id c member
  simp [none] at member

theorem Confined.both {given : List ObjectId} {first second : Action σ}
    (confined : Confined fields given first) (confined' : Confined fields given second) :
    Confined fields given (both first second) := by
  intro sight id c member
  unfold Component.both at member
  simp only at member
  split at member
  · exact confined sight id c member
  · rcases List.mem_append.1 member with member | member
    · exact confined sight id c member
    · exact confined' sight id c member

omit [Lifecycle σ] in
theorem bindings_of_bindAll {typeName : TypeName} {bs bs' : Bindings σ}
    {wanted : List (String × Binding σ)} (bound : bs.bindAll typeName wanted = .ok bs') :
    bs' = bs ++ wanted := by
  induction wanted generalizing bs with
  | nil =>
      cases bound
      exact (List.append_nil _).symm
  | cons e rest ih =>
      obtain ⟨name, binding⟩ := e
      unfold Bindings.bindAll Bindings.bind at bound
      split at bound
      · cases bound
      · rw [ih bound, List.append_assoc]
        rfl

/-- A component type is confined if its bindings are. -/
theorem confined_factory {c : Component σ} (wanted : ∀ e ∈ c.wanted, e.2.Confined fields)
    (bare : ∀ s, c.make = .ok s → fields.kept s = []) {f : Factory σ} (made : c.factory = .ok f) :
    f.Confined fields := by
  unfold Component.factory Component.describe at made
  cases bound : Bindings.bindAll c.typeName [] c.wanted with
  | error e =>
      rw [bound] at made
      cases made
  | ok bs =>
      rw [bound] at made
      cases made
      refine ⟨?_, bare⟩
      rw [bindings_of_bindAll bound, List.nil_append]
      exact wanted

end Component

/-- The objects that a deed makes, calls or hands over. -/
def Deed.objects : Deed → List ObjectId
  | .made id => [id]
  | .injected id _ value _ => id :: value.objects
  | .called id _ _ => [id]

namespace Host

/-! ## Older and newer objects -/

/-- In a sound program of confined components, the fields of objects before `N` lead to such objects
only, and those of objects from `N` on to these. -/
structure Secluded (fields : Fields σ) (N : ObjectId) (h : Host σ) : Prop where
  sound : h.heap.Sound
  confined : h.Confined fields
  next : N ≤ h.heap.next
  apart : ∀ {id o}, h.object? id = some o → ∀ x ∈ fields.kept o.state, x < N ↔ id < N

namespace Secluded

variable {N : ObjectId} {h h' : Host σ}

/-- At any time, what is there is older than what comes. -/
theorem of_known (sound : h.heap.Sound) (confined : h.Confined fields)
    (known : ∀ id o, h.object? id = some o → ∀ x ∈ fields.kept o.state, x < h.heap.next) :
    Secluded fields h.heap.next h := by
  refine ⟨sound, confined, Nat.le_refl _, ?_⟩
  intro id o found x kept
  have live : h.heap.isLive id := Heap.isLive_iff.2 ⟨o, found⟩
  exact iff_of_true (known id o found x kept) (sound.fresh id live)

/-- References stay on one side. -/
theorem refers (secluded : Secluded fields N h) {x y : ObjectId} (refers : h.heap.Refers x y) :
    y < N ↔ x < N := by
  obtain ⟨o, found, held⟩ := refers
  exact secluded.apart found y (fields.held o.state y held)

/-- So does all that fields lead to. -/
theorem leads (secluded : Secluded fields N h) {given : List ObjectId} (newer : ∀ x ∈ given, N ≤ x)
    {y : ObjectId} (leads : Leads fields h.sight given y) : N ≤ y := by
  obtain ⟨x, member, path⟩ := leads
  induction path with
  | refl => exact newer x member
  | tail _ link ih =>
      obtain ⟨s, seen, kept⟩ := link
      obtain ⟨o, found, rfl⟩ := Option.map_eq_some_iff.1 seen
      have side := secluded.apart found _ kept
      exact Nat.le_of_not_lt fun older => Nat.not_lt_of_le ih (side.1 older)

/-- Steps that leave no object changed. -/
theorem shrink (secluded : Secluded fields N h) (registers : Registers h h')
    (sound : h'.heap.Sound) (next : h.heap.next ≤ h'.heap.next)
    (same : ∀ {id o}, h'.object? id = some o → h.object? id = some o) :
    Secluded fields N h' := by
  obtain ⟨program, adds⟩ := registers
  refine ⟨sound, ⟨?_, ?_, fun found => secluded.confined.objects (same found)⟩,
    Nat.le_trans secluded.next next, fun found => secluded.apart (same found)⟩
  · rw [program]
    exact secluded.confined.offered
  · exact (adds.mono secluded.confined.offered).forall_mem secluded.confined.registered

/-- A confined action on a newer object, given newer objects. -/
theorem perform (secluded : Secluded fields N h) {id : ObjectId} {given : List ObjectId}
    {action : Action σ} (confined : Component.Confined fields given action)
    (newer : ∀ x ∈ id :: given, N ≤ x) : Secluded fields N (h.perform id action).2 := by
  refine ⟨sound_perform secluded.sound id action,
    ⟨secluded.confined.offered, secluded.confined.registered, ?_⟩,
    next_perform h id action ▸ secluded.next, ?_⟩
  · intro x o found
    rcases object?_perform found with same | ⟨old, live, blueprint, _⟩
    · exact secluded.confined.objects same
    · exact blueprint ▸ secluded.confined.objects live
  · intro x o found y member
    rcases object?_perform found with same | ⟨old, live, _, change⟩
    · exact secluded.apart same y member
    · have seen : h.sight x = some old.state := by simp [sight, live]
      rcases confined h.sight id _ change old.state seen y member with before | ⟨there, reached⟩
      · exact secluded.apart live y before
      · have side := secluded.leads newer there
        have side' := secluded.leads newer reached
        exact iff_of_false (Nat.not_lt_of_le side') (Nat.not_lt_of_le side)

theorem enter (secluded : Secluded fields N h) (es : List Event) :
    Secluded fields N (h.enter es) :=
  secluded.shrink (.of_same rfl rfl) secluded.sound (Nat.le_refl _) fun found => found

end Secluded

/-- **Steps keep the older objects and the newer ones apart**, as long as they call newer ones only
and hand over nothing else. -/
theorem Moves.secluded {N : ObjectId} {h h' : Host σ} {ds : List Deed} (moves : Moves h ds h')
    (secluded : Secluded fields N h) (newer : ∀ d ∈ ds, ∀ x ∈ d.objects, N ≤ x) :
    Secluded fields N h' := by
  cases moves with
  | enter rs => exact secluded.enter _
  | acquire id =>
      refine secluded.shrink (Moves.acquire h id).registers (Heap.sound_acquire secluded.sound id)
        (follows_acquire h id).next ?_
      intro x o found
      rw [← found]
      show h.heap.find? x = (h.heap.acquire id).find? x
      unfold Heap.acquire
      split <;> rfl
  | release id =>
      refine secluded.shrink (Moves.release h id).registers (Heap.sound_release secluded.sound id)
        (follows_release h id).next ?_
      intro x o found
      exact Heap.find?_of_find?_collapses (Heap.collapses_release h.heap id) found
  | load paths name =>
      have same := heap_load h paths name
      refine secluded.shrink (registers_load h paths name) (same ▸ secluded.sound)
        (Nat.le_of_eq (congrArg Heap.next same).symm) ?_
      intro x o found
      unfold object? at found ⊢
      rwa [same] at found
  | scan =>
      exact secluded.shrink (registers_scan h) secluded.sound (Nat.le_refl _) fun found => found
  | construct made =>
      obtain ⟨f, state, known, bare, rfl, rfl⟩ := made_of_construct made
      obtain ⟨before, after, same, _⟩ := List.lookup_eq_some_iff.1 known
      have good := secluded.confined.registered _ (same ▸ List.mem_append_right _ List.mem_cons_self)
      -- A new component has no references, so nothing leads from it to either side.
      have empty := good.bare state bare
      have found := Heap.find?_allocate secluded.sound (⟨f.blueprint, state⟩ : Object σ)
      have unheld : ∀ x ∈ Lifecycle.held state, h.heap.isLive x := by
        intro x held
        have kept := fields.held state x held
        simp [empty] at kept
      refine ⟨Heap.sound_allocate secluded.sound _ unheld,
        ⟨secluded.confined.offered, secluded.confined.registered, ?_⟩,
        Nat.le_succ_of_le secluded.next, ?_⟩
      · intro x o there
        rw [show (h.allocate f.blueprint state).2.object? x = _ from found x] at there
        split at there
        · cases there
          exact good.blueprint
        · exact secluded.confined.objects there
      · intro x o there
        rw [show (h.allocate f.blueprint state).2.object? x = _ from found x] at there
        split at there
        · cases there
          simp [empty]
        · exact secluded.apart there
  -- Only setters and hooks change fields, and each is confined to what it was given.
  | inject id name value =>
      have entered := secluded.enter [.injected id name value]
      unfold Host.inject
      simp only
      split
      · exact entered
      · next o there =>
        split
        · exact entered
        · next action set =>
          have good := (entered.confined.objects there).setter set
          exact entered.perform good (newer _ List.mem_cons_self)
  | call id hook =>
      have entered := secluded.enter [.called id hook]
      unfold Host.call
      simp only
      split
      · exact entered
      · next o there =>
        split
        · exact entered
        · next action bound =>
          have good := (entered.confined.objects there).hook bound
          exact entered.perform good (newer _ List.mem_cons_self)

theorem Does.secluded {N : ObjectId} {h h' : Host σ} {ds : List Deed} (does : Does h ds h')
    (secluded : Secluded fields N h) (newer : ∀ d ∈ ds, ∀ x ∈ d.objects, N ≤ x) :
    Secluded fields N h' := by
  induction does with
  | nothing h => exact secluded
  | step moves rest ih =>
      have first := moves.secluded secluded fun d member => newer d (List.mem_append_left _ member)
      exact ih first fun d member => newer d (List.mem_append_right _ member)

end Host

end Wiring
