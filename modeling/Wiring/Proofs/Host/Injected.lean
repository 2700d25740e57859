/-
# Wiring.Proofs.Host.Injected -- what injecting a value does

A type is described by a sequence of calls that bind names.  A call that repeats a name is refused
and changes nothing, so a name stands for the first binding it was given (`lookup_attemptAll`).

`Converts` is the table of all values that bindings accept, each with the action that it means.  An
injection carries out that action, once, if the name is bound and the table has an entry; otherwise
nothing is carried out, and the class of the error is told by the binding and the kind of the value
(`refusal`).
-/
import Wiring.Proofs.Host.Confined
import Wiring.Proofs.Component.Integer
import Wiring.Proofs.Registry.Additions
import Wiring.Samples.Catalogue

namespace Wiring

set_option autoImplicit false

open Wiring.Component
open Wiring.Decimal (Number)

/-! ## Binding names -/

namespace Component

variable {σ : Type}

/-- Asks for a binding; a refusal leaves the bindings as they were. -/
def Bindings.attempt (typeName : TypeName) (bs : Bindings σ) (call : String × Binding σ) :
    Except Error Unit × Bindings σ :=
  match bs.bind typeName call.1 call.2 with
  | .ok bs => (.ok (), bs)
  | .error e => (.error e, bs)

def Bindings.attemptAll (typeName : TypeName) (bs : Bindings σ) :
    List (String × Binding σ) → List (Except Error Unit) × Bindings σ
  | [] => ([], bs)
  | call :: rest =>
    let (answer, bs) := bs.attempt typeName call
    let (answers, bs) := attemptAll typeName bs rest
    (answer :: answers, bs)

def bindingAnswer (typeName : TypeName) (taken : List String) (name : String) :
    Except Error Unit :=
  if name ∈ taken then .error (.duplicateProperty name typeName) else .ok ()

variable (typeName : TypeName) (bs : Bindings σ)

theorem attempt_eq (call : String × Binding σ) : bs.attempt typeName call =
    (bindingAnswer typeName (bs.map (·.1)) call.1,
      if call.1 ∈ bs.map (·.1) then bs else bs ++ [call]) := by
  unfold Bindings.attempt Bindings.bind bindingAnswer
  by_cases taken : call.1 ∈ bs.map (·.1)
  · rw [if_pos (Keyed.isSome_lookup_iff.2 taken), if_pos taken, if_pos taken]
  · rw [if_neg (mt Keyed.isSome_lookup_iff.1 taken), if_neg taken, if_neg taken]

/-- A binding that is refused would not have been found. -/
theorem lookup_attempt (call : String × Binding σ) (name : String) :
    (bs.attempt typeName call).2.lookup name = (bs ++ [call]).lookup name := by
  rw [attempt_eq]
  simp only
  split
  · next taken =>
    rw [List.lookup_append]
    cases found : bs.lookup name with
    | some b => rfl
    | none =>
      have other : name ≠ call.1 := by
        rintro rfl
        exact Keyed.notMem_of_lookup_eq_none found taken
      have differs : (name == call.1) = false := by simpa using other
      show none = ([(call.1, call.2)] : Bindings σ).lookup name
      rw [List.lookup_cons, differs]
      rfl
  · rfl

/-- **The first binding of a name is in force.** -/
theorem lookup_attemptAll (calls : List (String × Binding σ)) (name : String) :
    (bs.attemptAll typeName calls).2.lookup name = (bs ++ calls).lookup name := by
  induction calls generalizing bs with
  | nil => rw [List.append_nil, Bindings.attemptAll]
  | cons call rest ih =>
    show ((bs.attempt typeName call).2.attemptAll typeName rest).2.lookup name = _
    rw [ih, List.lookup_append, lookup_attempt, ← List.lookup_append, List.append_assoc]
    rfl

theorem mem_keys_attempt (call : String × Binding σ) (name : String) :
    name ∈ (bs.attempt typeName call).2.map (·.1) ↔ name ∈ (bs ++ [call]).map (·.1) := by
  rw [← Keyed.isSome_lookup_iff, ← Keyed.isSome_lookup_iff, lookup_attempt]

/-- **A call is refused if an earlier one asked for the same name**, and only then. -/
theorem answers_attemptAll (calls : List (String × Binding σ)) (i : Nat) :
    (bs.attemptAll typeName calls).1[i]? = calls[i]?.map fun call =>
      bindingAnswer typeName ((bs ++ calls.take i).map (·.1)) call.1 := by
  induction calls generalizing bs i with
  | nil => rfl
  | cons call rest ih =>
    cases i with
    | zero =>
      show some (bs.attempt typeName call).1 = _
      rw [attempt_eq, List.take_zero, List.append_nil]
      rfl
    | succ i =>
      show ((bs.attempt typeName call).2.attemptAll typeName rest).1[i]? = rest[i]?.map _
      rw [ih]
      refine congrArg (Option.map · rest[i]?) (funext fun later => ?_)
      have same : later.1 ∈ ((bs.attempt typeName call).2 ++ rest.take i).map (·.1) ↔
          later.1 ∈ (bs ++ (call :: rest).take (i + 1)).map (·.1) := by
        rw [List.map_append, List.mem_append, mem_keys_attempt, ← List.mem_append,
          ← List.map_append, List.append_assoc]
        rfl
      unfold bindingAnswer
      simp only [same]

theorem singleCharacter_eq_ok_iff {s : String} {c : Char} :
    singleCharacter s = .ok c ↔ s.toList = [c] := by
  unfold singleCharacter
  split
  · next d single => simp [single]
  · next several => exact ⟨(nomatch ·), fun single => absurd single (several c)⟩

end Component

/-! ## The table -/

namespace Host

variable {σ : Type}

/-- The values that a binding accepts, and the action that each of them means: the setter, called
with the converted value. -/
inductive Converts (h : Host σ) : Binding σ → Given → Action σ → Prop
  | reference {target : TypeName} {set : ObjectId → Action σ} {x : ObjectId} {o : Object σ}
      (live : h.object? x = some o) (edge : ⟨o.blueprint.typeName, target⟩ ∈ h.registry.casts) :
      Converts h (.reference target set) (.reference x) (set x)
  | weakReference {target : TypeName} {set : ObjectId → Action σ} {x : ObjectId} {o : Object σ}
      (live : h.object? x = some o) (edge : ⟨o.blueprint.typeName, target⟩ ∈ h.registry.casts) :
      Converts h (.weakReference target set) (.reference x) (set x)
  | number {set : Float → Action σ} {x : Float} : Converts h (.number set) (.number x) (set x)
  | integer {type : IntegerType} {set : Int → Action σ} {x : Float} {n : Int}
      (equals : (Number.ofFloat x).value? = some (n : ℚ)) (range : -2 ^ 63 ≤ n ∧ n < 2 ^ 63)
      (own : type.low ≤ n ∧ n ≤ type.high) : Converts h (.integer type set) (.number x) (set n)
  | boolean {set : Bool → Action σ} {x : Float} {b : Bool}
      (truth : b = true ↔ (Number.ofFloat x).value? ≠ some 0) :
      Converts h (.boolean set) (.number x) (set b)
  | text {set : String → Action σ} {s : String} : Converts h (.text set) (.text s) (set s)
  | character {set : Char → Action σ} {s : String} {c : Char} (single : s.toList = [c]) :
      Converts h (.character set) (.text s) (set c)
  | time {set : Nat → Action σ} {micros : Nat} : Converts h (.time set) (.time micros) (set micros)
  | list {set : List String → Action σ} {items : List String} :
      Converts h (.list set) (.list items) (set items)
  | map {set : List (String × String) → Action σ} {entries : List (String × String)} :
      Converts h (.map set) (.map entries) (set entries)

/-- The class of the error of an injection that the table has no entry for. -/
def refusal : Option (Binding σ) → Given → ErrorKind
  | none, _ => .notFound
  | some (.reference ..), .reference _ => .castUnavailable
  | some (.weakReference ..), .reference _ => .castUnavailable
  | some _, _ => .wrongInput

variable {h : Host σ}

theorem cast_eq_ok_iff {x : ObjectId} {target : TypeName} : h.cast x target = .ok () ↔
    ∃ o, h.object? x = some o ∧ ⟨o.blueprint.typeName, target⟩ ∈ h.registry.casts := by
  unfold cast
  cases h.object? x with
  | none => simp
  | some o =>
    simp only [Option.some.injEq, exists_eq_left']
    rw [← Casts.allows_iff]
    unfold Casts.cast
    simp

theorem kind_of_cast_eq_error {x : ObjectId} {target : TypeName} {e : Error}
    (failed : h.cast x target = .error e) : e.kind = .castUnavailable := by
  unfold cast at failed
  split at failed
  · cases failed
    rfl
  · simp only [Casts.cast] at failed
    split at failed
    · cases failed
    · cases failed
      rfl

/-- The setter that is found is the one that the table has. -/
theorem setter_eq_ok_iff {b : Blueprint σ} {name : String} {value : Given} {action : Action σ} :
    b.setter h.cast name value = .ok action ↔
      ∃ binding, b.binding? name = some binding ∧ Converts h binding value action := by
  unfold Blueprint.setter
  cases bound : b.binding? name with
  | none => simp
  | some binding =>
    simp only [Option.some.injEq, exists_eq_left']
    constructor
    · intro found
      -- one case for each row of the table, in its order; the last is every other pair
      split at found
      · obtain ⟨⟨⟩, granted, rfl⟩ := Blueprint.exists_of_map_eq_ok found
        obtain ⟨o, live, edge⟩ := cast_eq_ok_iff.1 granted
        exact .reference live edge
      · obtain ⟨⟨⟩, granted, rfl⟩ := Blueprint.exists_of_map_eq_ok found
        obtain ⟨o, live, edge⟩ := cast_eq_ok_iff.1 granted
        exact .weakReference live edge
      · cases found
        exact .number
      · obtain ⟨n, accepted, rfl⟩ := Blueprint.exists_of_map_eq_ok found
        obtain ⟨equals, fits, own⟩ := IntegerType.coerce_eq_ok_iff.1 accepted
        exact .integer equals (Text.fitsInteger_iff.1 fits) own
      · cases found
        refine .boolean ?_
        rw [Bool.not_eq_true', ← Bool.not_eq_true, Number.isZero_iff]
      · cases found
        exact .text
      · obtain ⟨c, single, rfl⟩ := Blueprint.exists_of_map_eq_ok found
        exact .character (singleCharacter_eq_ok_iff.1 single)
      · cases found
        exact .time
      · cases found
        exact .list
      · cases found
        exact .map
      · cases found
    · intro converts
      cases converts with
      | @reference _ set x _ live edge =>
        exact congrArg (Except.map fun _ => set x) (cast_eq_ok_iff.2 ⟨_, live, edge⟩)
      | @weakReference _ set x _ live edge =>
        exact congrArg (Except.map fun _ => set x) (cast_eq_ok_iff.2 ⟨_, live, edge⟩)
      | @integer type set x n equals range own =>
        have fits := Text.fitsInteger_iff.2 range
        exact congrArg (Except.map set) (IntegerType.coerce_eq_ok_iff.2 ⟨equals, fits, own⟩)
      | @boolean set x b truth =>
        have same : (!(Number.ofFloat x).isZero) = b := by
          rw [Bool.eq_iff_iff, truth, Bool.not_eq_true', ← Bool.not_eq_true, Number.isZero_iff]
        exact congrArg (fun b => Except.ok (set b)) same
      | @character set s c single =>
        exact congrArg (Except.map set) (singleCharacter_eq_ok_iff.2 single)
      | number => rfl
      | text => rfl
      | time => rfl
      | list => rfl
      | map => rfl

theorem refusal_of_unlike {binding : Binding σ} {value : Given}
    (unlike : ∀ target set x, binding = .reference target set → value = .reference x → False)
    (unlikeWeak : ∀ target set x, binding = .weakReference target set → value = .reference x →
      False) : refusal (some binding) value = .wrongInput := by
  cases binding with
  | reference target set =>
    cases value with
    | reference x => exact (unlike target set x rfl rfl).elim
    | _ => rfl
  | weakReference target set =>
    cases value with
    | reference x => exact (unlikeWeak target set x rfl rfl).elim
    | _ => rfl
  | _ => rfl

/-- Where no setter is found, the class of the error is the one the table has. -/
theorem kind_of_setter_eq_error {b : Blueprint σ} {name : String} {value : Given} {e : Error}
    (failed : b.setter h.cast name value = .error e) :
    e.kind = refusal (b.binding? name) value := by
  unfold Blueprint.setter at failed
  cases bound : b.binding? name with
  | none =>
    rw [bound] at failed
    cases failed
    rfl
  | some binding =>
    rw [bound] at failed
    simp only at failed
    -- of the rows only those that convert can fail
    split at failed
    · exact kind_of_cast_eq_error (Blueprint.error_of_map_eq_error failed)
    · exact kind_of_cast_eq_error (Blueprint.error_of_map_eq_error failed)
    · cases failed
    · next type set x =>
      have refused := Blueprint.error_of_map_eq_error failed
      rcases type.coerce_eq_ok_or_wrongInput x with ⟨n, accepted⟩ | ⟨detail, wrong⟩
      · rw [accepted] at refused
        cases refused
      · rw [wrong] at refused
        cases refused
        rfl
    · cases failed
    · cases failed
    · have refused := Blueprint.error_of_map_eq_error failed
      unfold singleCharacter at refused
      split at refused
      · cases refused
      · cases refused
        rfl
    · cases failed
    · cases failed
    · cases failed
    · next unlike unlikeWeak _ _ _ _ _ _ _ _ =>
      cases failed
      exact (refusal_of_unlike unlike unlikeWeak).symm

/-! ## Injecting -/

variable [Lifecycle σ]

/-- An action that leaves to every component the strong references that it held and gives it no
other, as a setter does that keeps what it is handed as a weak reference only. -/
def TakesNoShare (action : Action σ) : Prop :=
  ∀ sight id, ∀ c ∈ (action sight id).changes, ∀ s, sight c.1 = some s →
    (Lifecycle.held c.2).Perm (Lifecycle.held s)

theorem count_perform (sound : h.heap.Sound) {action : Action σ} (takes : TakesNoShare action)
    (id x : ObjectId) : (h.perform id action).2.count x = h.count x := by
  have steady : h.heap.Steady (h.changesOf (action h.sight id)) := by
    intro c member old found
    obtain ⟨change, changes, kept⟩ := List.mem_filterMap.1 member
    obtain ⟨o, live, rfl⟩ := Option.map_eq_some_iff.1 kept
    obtain rfl : o = old := Option.some.inj (live.symm.trans found)
    have seen : h.sight change.1 = some o.state := by
      unfold sight
      rw [live]
      rfl
    exact takes h.sight id change changes o.state seen
  obtain ⟨lost, counts⟩ := Heap.storeAll_of_steady sound.distinct steady
  show ((h.heap.storeAll _).1.settle (h.heap.storeAll _).2).1.count x = _
  rw [lost, Heap.settle]
  exact counts x

/-- What injecting values under a name does to an object, where the name is bound like this. -/
structure Injects (h : Host σ) (id : ObjectId) (name : String) (bound : Option (Binding σ)) :
    Prop where
  /-- A value that can be converted makes one call of the setter, and nothing else. -/
  applied : ∀ binding value action, bound = some binding → h.Converts binding value action →
    h.inject id name value = (h.enter [.injected id name value]).perform id action
  /-- Any other value makes none, and all objects and all pointers to them are as before. -/
  refused : ∀ value, (∀ binding action, bound = some binding →
    ¬h.Converts binding value action) → (∃ e, h.inject id name value =
      (.error e, h.enter [.injected id name value]) ∧ e.kind = refusal bound value) ∧
      (h.inject id name value).2.heap = h.heap
  /-- No handle is added or given up. -/
  handles : ∀ value, (h.inject id name value).2.heap.handles = h.heap.handles
  /-- An object that is handed over weakly gets no share in its lifetime from that. -/
  weak : ∀ target set x, bound = some (.weakReference target set) → h.heap.Sound →
    TakesNoShare (set x) → ∀ y, (h.inject id name (.reference x)).2.count y = h.count y

/-- What calling a name as a hook does to an object, where the name is bound like this. -/
structure Rings (h : Host σ) (id : ObjectId) (name : String) (bound : Option (Binding σ)) :
    Prop where
  has : h.hasHook id name = true ↔ ∃ call, bound = some (.hook call)
  called : ∀ call, bound = some (.hook call) →
    h.call id name = (h.enter [.called id name]).perform id call
  refused : (∀ call, bound ≠ some (.hook call)) → (∃ e, h.call id name =
    (.error e, h.enter [.called id name]) ∧
      e.kind = bound.elim .notFound fun _ => .wrongInput) ∧ (h.call id name).2.heap = h.heap

theorem inject_eq {id : ObjectId} {o : Object σ} (there : h.object? id = some o) (name : String)
    (value : Given) : h.inject id name value =
      match o.blueprint.setter h.cast name value with
      | .error e => (.error e, h.enter [.injected id name value])
      | .ok action => (h.enter [.injected id name value]).perform id action := by
  have entered : (h.enter [.injected id name value]).object? id = some o := there
  unfold inject
  simp only [entered]
  rfl

theorem inject_of_converts {id : ObjectId} {o : Object σ} (there : h.object? id = some o)
    {name : String} {binding : Binding σ} {value : Given} {action : Action σ}
    (bound : o.blueprint.binding? name = some binding)
    (converts : h.Converts binding value action) :
    h.inject id name value = (h.enter [.injected id name value]).perform id action := by
  rw [inject_eq there, setter_eq_ok_iff.2 ⟨binding, bound, converts⟩]

theorem inject_of_not_converts {id : ObjectId} {o : Object σ} (there : h.object? id = some o)
    {name : String} {value : Given} (none : ∀ binding action,
      o.blueprint.binding? name = some binding → ¬h.Converts binding value action) :
    ∃ e, h.inject id name value = (.error e, h.enter [.injected id name value]) ∧
      e.kind = refusal (o.blueprint.binding? name) value := by
  cases found : o.blueprint.setter h.cast name value with
  | ok action =>
    obtain ⟨binding, bound, converts⟩ := setter_eq_ok_iff.1 found
    exact absurd converts (none binding action bound)
  | error e =>
    refine ⟨e, ?_, kind_of_setter_eq_error found⟩
    rw [inject_eq there, found]

/-- Handing over an object weakly counts for nothing, whether it succeeds or not. -/
theorem count_inject_weak {id : ObjectId} {o : Object σ} (there : h.object? id = some o)
    (sound : h.heap.Sound) {name : String} {target : TypeName} {set : ObjectId → Action σ}
    {x : ObjectId} (bound : o.blueprint.binding? name = some (.weakReference target set))
    (takes : TakesNoShare (set x)) (y : ObjectId) :
    (h.inject id name (.reference x)).2.count y = h.count y := by
  by_cases converts : h.Converts (.weakReference target set) (.reference x) (set x)
  · rw [inject_of_converts there bound converts]
    have entered : (h.enter [.injected id name (.reference x)]).heap.Sound := sound
    exact count_perform entered takes id y
  · have none (binding : Binding σ) (action : Action σ)
        (other : o.blueprint.binding? name = some binding) :
        ¬h.Converts binding (.reference x) action := by
      intro found
      obtain rfl := Option.some.inj (bound.symm.trans other)
      cases found with
      | weakReference live edge => exact converts (.weakReference live edge)
    obtain ⟨e, answer, -⟩ := inject_of_not_converts there none
    rw [answer]
    rfl

theorem injects {id : ObjectId} {o : Object σ} (there : h.object? id = some o) (name : String) :
    Injects h id name (o.blueprint.binding? name) where
  applied _ _ _ bound converts := inject_of_converts there bound converts
  refused value none := by
    obtain ⟨e, answer, kind⟩ := inject_of_not_converts there none
    refine ⟨⟨e, answer, kind⟩, ?_⟩
    rw [answer]
    rfl
  handles := handles_inject h id name
  weak _ _ _ bound sound takes := count_inject_weak there sound bound takes

theorem rings {id : ObjectId} {o : Object σ} (there : h.object? id = some o) (name : String) :
    Rings h id name (o.blueprint.binding? name) := by
  have entered : (h.enter [.called id name]).object? id = some o := there
  refine ⟨?_, ?_, ?_⟩
  · unfold hasHook Blueprint.hasHook Blueprint.kind?
    rw [there]
    cases bound : o.blueprint.binding? name with
    | none => simp [bound]
    | some binding => cases binding <;> simp [bound, Binding.kind]
  · intro call bound
    unfold Host.call Blueprint.hook
    simp only [entered, bound]
  · intro none
    unfold Host.call Blueprint.hook
    simp only [entered]
    cases bound : o.blueprint.binding? name with
    | none => exact ⟨⟨_, rfl, rfl⟩, rfl⟩
    | some binding =>
      cases binding with
      | hook call => exact absurd bound (none call)
      | _ => exact ⟨⟨_, rfl, rfl⟩, rfl⟩

/-- **The injection table.**  A call that binds a name is refused as a duplicate exactly if an
earlier one asked for that name, and then the earlier one stays in force.  To an object of the type
that such calls describe, injecting a value does what the first binding of the name says: it calls
the setter once with the converted value, or, where the name is not bound or the value cannot be
converted, it calls nothing, changes no object and no pointer, and fails with the class of error
that goes with the binding and the value.  An object can be used as what an edge registered for its
own type leads to, and edges come about by being registered only.  Hooks are what is bound as
hooks. -/
theorem injection_table (className : String) (typeName : TypeName)
    (calls : List (String × Binding σ)) :
    (∀ i name binding, calls[i]? = some (name, binding) →
      (Bindings.attemptAll typeName [] calls).1[i]? =
        some (if name ∈ (calls.take i).map (·.1) then .error (.duplicateProperty name typeName)
          else .ok ())) ∧
    (∀ (h : Host σ) id state, h.object? id =
        some ⟨⟨className, typeName, (Bindings.attemptAll typeName [] calls).2⟩, state⟩ →
      ∀ name, Injects h id name (calls.lookup name) ∧ Rings h id name (calls.lookup name)) ∧
    ∀ edges e, e ∈ Casts.registerAll [] edges ↔ e ∈ edges := by
  refine ⟨fun i name binding here => ?_, fun h id state there name => ?_, fun edges e => ?_⟩
  · rw [answers_attemptAll, here]
    rfl
  · have first : (Bindings.attemptAll typeName [] calls).2.lookup name = calls.lookup name :=
      lookup_attemptAll typeName [] calls name
    rw [← first]
    exact ⟨injects there name, rings there name⟩
  · rw [Casts.mem_registerAll]
    simp

end Host

namespace Sample

open Wiring.Host

/-- The bindings of a link, and one more for the name of its peer. -/
def peerCalls : List (String × Binding Sample) :=
  linkType.wanted ++ [("peer", .text fun s => update (onLink fun l => { l with label := s }))]

def newLink : Object Sample :=
  ⟨⟨linkType.className, linkType.typeName,
    (Bindings.attemptAll linkType.typeName [] peerCalls).2⟩, .link {}⟩

def twoLinks : Host Sample where
  program := ⟨[linkType], fun _ => .error "no library"⟩
  heap := ⟨[(0, newLink), (1, newLink)], 2, [0, 1]⟩
  registry := { casts := linkType.edges }

def setPeer (peer : ObjectId) : Action Sample :=
  update (onLink fun l => { l with peer := some peer })

/-- Two bindings of `peer` are asked for, and the first is the one that hands over a link. -/
theorem injection_table_twoLinks :
    twoLinks.object? 0 = some newLink ∧
      twoLinks.Converts (.weakReference linkType.typeName setPeer) (.reference 1) (setPeer 1) ∧
      twoLinks.heap.Sound ∧ TakesNoShare (setPeer 1) ∧
      (Bindings.attemptAll linkType.typeName [] peerCalls).1[3]? =
        some (.error (.duplicateProperty "peer" linkType.typeName)) ∧
      twoLinks.inject 0 "peer" (.reference 1) =
        (twoLinks.enter [.injected 0 "peer" (.reference 1)]).perform 0 (setPeer 1) ∧
      ∀ y, (twoLinks.inject 0 "peer" (.reference 1)).2.count y = twoLinks.count y := by
  obtain ⟨answers, effects, -⟩ := injection_table linkType.className linkType.typeName peerCalls
  have there : twoLinks.object? 0 = some newLink := rfl
  have bound : peerCalls.lookup "peer" = some (.weakReference linkType.typeName setPeer) := rfl
  have live : twoLinks.object? 1 = some newLink := rfl
  have converts : twoLinks.Converts (.weakReference linkType.typeName setPeer) (.reference 1)
      (setPeer 1) := .weakReference live List.mem_cons_self
  have sound : twoLinks.heap.Sound := by decide
  have takes : TakesNoShare (setPeer 1) := by
    intro sight id c member s seen
    unfold setPeer update at member
    split at member
    · next own =>
      obtain rfl := List.mem_singleton.1 member
      cases own.symm.trans seen
      cases s <;> exact .refl _
    · cases member
  obtain ⟨injects, -⟩ := effects twoLinks 0 (.link {}) there "peer"
  refine ⟨there, converts, sound, takes, ?_, injects.applied _ _ _ bound converts,
    injects.weak _ _ _ bound sound takes⟩
  rw [answers 3 "peer" _ rfl]
  rfl

end Sample

end Wiring
