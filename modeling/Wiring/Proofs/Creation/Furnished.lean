/-
# Wiring.Proofs.Creation.Furnished -- finished and unfinished instances

An instance is furnished when every entry of its declaration that is to be injected
has been, in order, each with the value it stands for (`Sets`), and its hook has been
called after that, all with success.

`Stuck` says how a request or a filling came to fail: which instance was begun for it,
which of its entries were set, and what happened to the next; if that entry is a
reference, then how the request for it came to fail, and so on down to the step whose
error is the answer.  The instances on the way form a chain, and none of them is
furnished (`Stuck.not_furnished`).
-/
import Wiring.Proofs.Creation.Handing

namespace Wiring.Context

set_option autoImplicit false

open Wiring.Component
open Wiring.Document (Property)

variable {σ : Type}

/-! ## Entries -/

/-- A name finds an object, by itself or as an alias. -/
def Finds (c : Context σ) (name : String) (id : ObjectId) : Prop :=
  c.lookup name = some id ∨ ∃ target, c.leadsTo name = .ok target ∧ c.lookup target = some id

/-- The value that an entry stands for. -/
inductive Means (c : Context σ) (owner name : String) (p : Property) : Given → Prop where
  | plain {value : Given} (direct : p.reference = none)
      (offered : offer c.environment owner name p = .ok (some value)) : Means c owner name p value
  | reference {text : String} {id : ObjectId} (refers : p.reference = some text)
      (finds : c.Finds (c.expand text).1 id) : Means c owner name p (.reference id)

/-- An entry was dealt with by these calls: one, or none if it has no name, or no value that could
be injected; such an entry is reported and passed over. -/
inductive Entry (c : Context σ) (owner : String) (id : ObjectId) (p : Property) :
    List Deed → Prop where
  | nameless (unnamed : p.name = none) : Entry c owner id p []
  | malformed {name : String} (named : p.name = some name) (direct : p.reference = none)
      (offered : offer c.environment owner name p = .ok none) : Entry c owner id p []
  | set {name : String} {value : Given} (named : p.name = some name)
      (means : c.Means owner name p value) :
      Entry c owner id p [.injected id name value (.ok ())]

/-- Entries were dealt with by these calls, one after the other. -/
inductive Sets (c : Context σ) (owner : String) (id : ObjectId) :
    List Property → List Deed → Prop where
  | nil : Sets c owner id [] []
  | cons {p : Property} {ps : List Property} {calls more : List Deed}
      (entry : c.Entry owner id p calls) (rest : Sets c owner id ps more) :
      Sets c owner id (p :: ps) (calls ++ more)

/-- The call of the hook of an instance, if it has one. -/
def finale (c : Context σ) (id : ObjectId) (r : Except Error Unit) : List Deed :=
  if c.host.hasHook id doneHook then [.called id doneHook r] else []

/-- An instance got all that its declaration says, and then its hook was called with success. -/
def Furnished (c : Context σ) (ds : List Deed) (e : String × ObjectId) : Prop :=
  ∃ calls, c.Sets e.1 e.2 (c.properties e.1) calls ∧ callsOn e.2 ds = calls ++ c.finale e.2 (.ok ())

variable {c c' : Context σ} {owner name : String} {id : ObjectId} {p : Property}
  {ps : List Property} {calls more : List Deed}

/-! ## Later contexts -/

/-- What stands for something in a context stands for it in another as well. -/
structure Upholds (c c' : Context σ) : Prop where
  environment : c'.environment = c.environment
  finds : ∀ {name : String} {id : ObjectId}, c.Finds name id → c'.Finds name id

theorem expand_congr (same : c'.environment = c.environment) (text : String) :
    (c'.expand text).1 = (c.expand text).1 := by
  show (c'.environment.expand text).value = (c.environment.expand text).value
  rw [same]

theorem Means.mono {value : Given} (means : c.Means owner name p value) (upholds : Upholds c c') :
    c'.Means owner name p value := by
  cases means with
  | plain direct offered => exact .plain direct (upholds.environment ▸ offered)
  | @reference text id refers finds =>
      refine .reference refers ?_
      rw [expand_congr upholds.environment]
      exact upholds.finds finds

theorem Entry.mono (entry : c.Entry owner id p calls) (upholds : Upholds c c') :
    c'.Entry owner id p calls := by
  cases entry with
  | nameless unnamed => exact .nameless unnamed
  | malformed named direct offered =>
      exact .malformed named direct (upholds.environment ▸ offered)
  | set named means => exact .set named (means.mono upholds)

theorem Sets.mono (sets : c.Sets owner id ps calls) (upholds : Upholds c c') :
    c'.Sets owner id ps calls := by
  induction sets with
  | nil => exact .nil
  | cons entry rest ih => exact .cons (entry.mono upholds) ih

theorem Extends.upholds (grown : Extends c c') (indexed : Indexed c) (indexed' : Indexed c') :
    Upholds c c' := by
  refine ⟨grown.environment, ?_⟩
  rintro name id (live | ⟨target, leads, live⟩)
  · exact .inl (grown.lookup indexed indexed' live)
  · exact .inr ⟨target, (grown.leadsTo name).trans leads, grown.lookup indexed indexed' live⟩

theorem Extends.properties (grown : Extends c c') (n : String) :
    c'.properties n = c.properties n := by
  unfold Context.properties
  rw [grown.view]

/-! ## How many calls entries take -/

theorem Entry.length_unique (first : c.Entry owner id p calls) (second : c.Entry owner id p more) :
    calls.length = more.length := by
  have apart {name : String} {value : Given} (named : p.name = some name)
      (direct : p.reference = none)
      (offered : offer c.environment owner name p = .ok none) {other : String}
      (named' : p.name = some other) (means : c.Means owner other p value) : False := by
    rw [named] at named'
    cases named'
    cases means with
    | plain _ offered' => simp [offered] at offered'
    | reference refers _ => simp [direct] at refers
  cases first with
  | nameless unnamed =>
      cases second with
      | nameless _ => rfl
      | malformed _ _ _ => rfl
      | set named _ => simp [unnamed] at named
  | malformed named direct offered =>
      cases second with
      | nameless _ => rfl
      | malformed _ _ _ => rfl
      | set named' means => exact (apart named direct offered named' means).elim
  | set named means =>
      cases second with
      | nameless unnamed => simp [unnamed] at named
      | malformed named' direct offered => exact (apart named' direct offered named means).elim
      | set _ _ => rfl

theorem Sets.length_unique (first : c.Sets owner id ps calls) (second : c.Sets owner id ps more) :
    calls.length = more.length := by
  induction first generalizing more with
  | nil =>
      cases second
      rfl
  | cons entry rest ih =>
      cases second with
      | cons entry' rest' =>
          rw [List.length_append, List.length_append, entry.length_unique entry', ih rest']

theorem Sets.append {qs : List Property} (sets : c.Sets owner id ps calls)
    (rest : c.Sets owner id qs more) : c.Sets owner id (ps ++ qs) (calls ++ more) := by
  induction sets with
  | nil => exact rest
  | cons entry _ ih =>
      rw [List.append_assoc]
      exact .cons entry ih

theorem Sets.split {before : List Property} (sets : c.Sets owner id (before ++ ps) calls) :
    ∃ first rest, c.Sets owner id before first ∧ c.Sets owner id ps rest ∧
      calls = first ++ rest := by
  induction before generalizing calls with
  | nil => exact ⟨[], calls, .nil, sets, rfl⟩
  | cons q before ih =>
      cases sets with
      | @cons _ _ now later entry rest =>
          obtain ⟨first, final, sets, sets', rfl⟩ := ih rest
          exact ⟨now ++ first, final, .cons entry sets, sets', (List.append_assoc ..).symm⟩

/-- Entries are dealt with by injections that succeed. -/
theorem Sets.injected (sets : c.Sets owner id ps calls) {d : Deed} (member : d ∈ calls) :
    ∃ property value, d = .injected id property value (.ok ()) := by
  induction sets with
  | nil => simp at member
  | cons entry rest ih =>
      rcases List.mem_append.1 member with now | later
      · cases entry with
        | nameless _ => simp at now
        | malformed _ _ _ => simp at now
        | set _ _ => exact ⟨_, _, List.mem_singleton.1 now⟩
      · exact ih later

/-! ## Resting -/

variable [Lifecycle σ] {c₁ : Context σ} {ds : List Deed} {e : Error}

/-- Nothing but the host differs, and nothing was done. -/
structure Rests (c c' : Context σ) : Prop where
  only : OnlyHost c c'
  does : c.host.Does [] c'.host

namespace Rests

theorem refl (c : Context σ) : Rests c c := ⟨.refl c, .nothing _⟩

theorem trans {a b c : Context σ} (first : Rests a b) (second : Rests b c) : Rests a c :=
  ⟨first.only.trans second.only, first.does.trans second.does⟩

theorem acquire (c : Context σ) (id : ObjectId) : Rests c (c.acquire id) :=
  ⟨rfl, (Host.Moves.acquire c.host id).does⟩

theorem release (c : Context σ) (id : ObjectId) : Rests c (c.release id) :=
  ⟨rfl, (Host.Moves.release c.host id).does⟩

theorem extended (rests : Rests c c') : Extends c c' :=
  ⟨rests.only.document, by rw [rests.only], rests.does.next_le, [],
    by rw [rests.only.owned, List.append_nil], by simp⟩

theorem names (rests : Rests c c') : c'.names = c.names := by
  unfold Context.names
  rw [rests.only.owned]

theorem upholds (rests : Rests c c') : Upholds c c' := by
  have only := rests.only
  unfold OnlyHost at only
  refine ⟨by rw [only], fun finds => ?_⟩
  rw [only]
  exact finds

end Rests

theorem Proceeds.rests (proceeds : Proceeds c [] c') : Rests c c' := ⟨proceeds.only, proceeds.does⟩

/-! ## Instances that cannot be had -/

/-- A library that is named was loaded; where none is, nothing was. -/
def Loaded (h : Host σ) (paths : List String) (library : String) (h' : Host σ) : Prop :=
  library.isEmpty = true ∧ h' = h ∨
    library.isEmpty = false ∧ h.load paths library = (.ok (), h')

/-- Why there is no bare instance of a name: it is not declared as it should be; or it is, but the
library that it names failed to load; or that did not fail, but its class did.  What failed was the
last thing done. -/
inductive Unfit (c c' : Context σ) (ds : List Deed) (name : String) (e : Error) : Prop where
  | invalid (failed : (c'.view name).validated = .error e)
  | library {d : Document.Declaration} {h h' : Host σ} (valid : (c'.view name).validated = .ok d)
      (does : c.host.Does ds h) (named : (c'.view name).library.value.isEmpty = false)
      (failed : h.load c'.paths (c'.view name).library.value = (.error e, h'))
      (last : h'.Does [] c'.host)
  | factory {d : Document.Declaration} {h₀ h₁ h : Host σ} (valid : (c'.view name).validated = .ok d)
      (does : c.host.Does ds h₀) (loaded : Loaded h₀ c'.paths (c'.view name).library.value h₁)
      (ready : h₁.Does [] h)
      (failed : h.construct (c'.view name).className.value = (.error e, h))
      (last : h.Does [] c'.host)

omit [Lifecycle σ] in
theorem loadLibrary_eq_error {library : String}
    (failed : c.loadLibrary library = (.error e, c')) :
    library.isEmpty = false ∧ c.host.load c.paths library = (.error e, c'.host) := by
  unfold loadLibrary at failed
  by_cases unnamed : library.isEmpty = true
  · rw [if_pos unnamed] at failed
    cases failed
  · rw [if_neg unnamed] at failed
    cases result : c.host.load c.paths library with
    | mk r host =>
        rw [onHost_eq result] at failed
        cases failed
        exact ⟨by simpa using unnamed, rfl⟩

omit [Lifecycle σ] in
theorem loadLibrary_eq_ok {library : String} (passed : c.loadLibrary library = (.ok (), c')) :
    Loaded c.host c.paths library c'.host := by
  unfold loadLibrary at passed
  by_cases unnamed : library.isEmpty = true
  · rw [if_pos unnamed] at passed
    cases passed
    exact .inl ⟨unnamed, rfl⟩
  · rw [if_neg unnamed] at passed
    cases result : c.host.load c.paths library with
    | mk r host =>
        rw [onHost_eq result] at passed
        cases passed
        exact .inr ⟨by simpa using unnamed, result⟩

/-- The class of an instance fails when the library that it names has been loaded. -/
theorem unfit_of_construct {d : Document.Declaration} {named after : Context σ}
    (valid : (c.view name).validated = .ok d) (noted : Rests c named)
    (load : named.loadLibrary (c.view name).library.value = (.ok (), after))
    (failed : ((after.take (after.view name).className).2.log .info
      s!"Creating '{name}' as {(after.view name).className.value}").onHost
        (fun h => h.construct (after.view name).className.value) = (.error e, c')) :
    Unfit c c' [] name e := by
  let className := (after.view name).className
  let ready := (after.take className).2.log .info s!"Creating '{name}' as {className.value}"
  have loaded := (proceeds_loadLibrary named (c.view name).library.value).rests
  rw [load] at loaded
  have before : Rests c after := noted.trans loaded
  have announced : Proceeds after [] ready :=
    (proceeds_take after className).trans (proceeds_log _ _ _)
  have prepared : Rests c ready := before.trans announced.rests
  have passed := loadLibrary_eq_ok load
  cases made : ready.host.construct className.value with
  | mk r host =>
      rw [onHost_eq made] at failed
      cases failed
      obtain rfl := Host.construct_eq_error made
      -- The declaration says the same about the name in `ready` as it did at first.
      have view : after.view name = c.view name := before.extended.view name
      have same : ready.view name = c.view name := prepared.extended.view name
      have paths : ready.paths = named.paths := prepared.only.paths.trans noted.only.paths.symm
      rw [← same] at valid passed
      rw [← paths] at passed
      rw [show className = (ready.view name).className from
        congrArg Document.View.className (view.trans same.symm)] at made
      exact .factory valid noted.does passed announced.does made (.nothing _)

theorem unfit_of_instantiate (failed : c.instantiate name = (.error e, c')) :
    Unfit c c' [] name e := by
  unfold instantiate at failed
  cases valid : (c.view name).validated with
  | error e' =>
      simp only [valid] at failed
      cases failed
      exact .invalid valid
  | ok d =>
      let named := (c.take (c.view name).library).2
      have noted : Rests c named := (proceeds_take c _).rests
      simp only [valid] at failed
      rw [show c.take (c.view name).library = ((c.view name).library.value, named) from rfl]
        at failed
      cases load : named.loadLibrary (c.view name).library.value with
      | mk result after =>
          simp only [load] at failed
          cases result with
          | error e' =>
              cases failed
              -- Loading changes nothing that the declaration and the search path depend on.
              have loaded := (proceeds_loadLibrary named (c.view name).library.value).rests
              rw [load] at loaded
              have before : Rests c c' := noted.trans loaded
              obtain ⟨given, library⟩ := loadLibrary_eq_error load
              rw [← before.extended.view name] at valid given library
              rw [← show c'.paths = named.paths from before.only.paths] at library
              exact .library valid noted.does given library (.nothing _)
          | ok u => exact unfit_of_construct valid noted load failed

/-! ## How a job fails -/

/-- How a job came to fail with an error: which instances were begun for it, from the first down to
the one that was being filled, and the step that failed. -/
inductive Stuck (c c' : Context σ) (ds : List Deed) (e : Error) :
    Job → List (String × ObjectId) → Prop where
  /-- The name leads nowhere. -/
  | astray {keep : Bool} {name : String} (leads : c'.leadsTo name = .error e) :
      Stuck c c' ds e (.request keep name) []
  /-- There is no bare instance to be had, and none is owned. -/
  | unfit {keep : Bool} {name target : String} (leads : c'.leadsTo name = .ok target)
      (absent : target ∉ c'.names) (unfit : c.Unfit c' ds target e) :
      Stuck c c' ds e (.request keep name) []
  /-- All entries of the instance were set, and its hook failed. -/
  | undone {keep : Bool} {name target : String} {id : ObjectId} {calls : List Deed}
      (leads : c'.leadsTo name = .ok target)
      (sets : c'.Sets target id (c'.properties target) calls)
      (called : callsOn id ds = calls ++ [.called id doneHook (.error e)]) :
      Stuck c c' ds e (.request keep name) [(target, id)]
  /-- Not all entries of the instance could be set. -/
  | unfilled {keep : Bool} {name target : String} {id : ObjectId}
      {chain : List (String × ObjectId)} (leads : c'.leadsTo name = .ok target)
      (stuck : Stuck c c' ds e (.filling target id (c'.properties target)) chain) :
      Stuck c c' ds e (.request keep name) ((target, id) :: chain)
  /-- After some entries the next has no value. -/
  | refused {owner property : String} {id : ObjectId} {p : Property} {before rest : List Property}
      {calls : List Deed} (sets : c'.Sets owner id before calls) (named : p.name = some property)
      (direct : p.reference = none)
      (offered : offer c'.environment owner property p = .error e)
      (called : callsOn id ds = calls) :
      Stuck c c' ds e (.filling owner id (before ++ p :: rest)) []
  /-- After some entries the value of the next is not accepted. -/
  | rejected {owner property : String} {id : ObjectId} {p : Property} {before rest : List Property}
      {calls : List Deed} {value : Given} (sets : c'.Sets owner id before calls)
      (named : p.name = some property) (means : c'.Means owner property p value)
      (called : callsOn id ds = calls ++ [.injected id property value (.error e)]) :
      Stuck c c' ds e (.filling owner id (before ++ p :: rest)) []
  /-- After some entries the request for what the next refers to fails. -/
  | deeper {owner property text : String} {id : ObjectId} {p : Property}
      {before rest : List Property} {calls : List Deed} {chain : List (String × ObjectId)}
      (sets : c'.Sets owner id before calls) (named : p.name = some property)
      (refers : p.reference = some text) (called : callsOn id ds = calls)
      (stuck : Stuck c c' ds e (.request true (c'.expand text).1) chain) :
      Stuck c c' ds e (.filling owner id (before ++ p :: rest)) chain

def Job.own : Job → List ObjectId
  | .request .. => []
  | .filling _ id _ => [id]

section Stuck

variable {job : Job} {chain : List (String × ObjectId)}

theorem Unfit.prepend (unfit : c₁.Unfit c' ds name e) (does : c.host.Does more c₁.host) :
    c.Unfit c' (more ++ ds) name e := by
  cases unfit with
  | invalid failed => exact .invalid failed
  | library valid before named failed last =>
      exact .library valid (does.trans before) named failed last
  | factory valid before loaded ready failed last =>
      exact .factory valid (does.trans before) loaded ready failed last

/-- What was done before has no part in a failure, unless it called the instances involved. -/
theorem Stuck.prepend (stuck : Stuck c₁ c' ds e job chain) (does : c.host.Does more c₁.host)
    (spared : ∀ x ∈ job.own ++ chain.map (·.2), callsOn x more = []) :
    Stuck c c' (more ++ ds) e job chain := by
  have same {x : ObjectId} {calls : List Deed} (none : callsOn x more = [])
      (called : callsOn x ds = calls) : callsOn x (more ++ ds) = calls := by
    rw [callsOn_append, none, called, List.nil_append]
  induction stuck with
  | astray leads => exact .astray leads
  | unfit leads absent unfit => exact .unfit leads absent (unfit.prepend does)
  | @undone _ _ _ id _ leads sets called =>
      exact .undone leads sets (same (spared id (by simp)) called)
  | unfilled leads stuck ih =>
      refine .unfilled leads (ih ?_)
      intro x member
      exact spared x (by simpa [Job.own] using member)
  | @refused _ _ id _ _ _ _ sets named direct offered called =>
      exact .refused sets named direct offered (same (spared id (by simp [Job.own])) called)
  | @rejected _ _ id _ _ _ _ _ sets named means called =>
      exact .rejected sets named means (same (spared id (by simp [Job.own])) called)
  | @deeper _ _ _ id _ _ _ _ _ sets named refers called stuck ih =>
      refine .deeper sets named refers (same (spared id (by simp [Job.own])) called) (ih ?_)
      intro x member
      exact spared x (List.mem_append_right _ (by simpa [Job.own] using member))

theorem Unfit.rests (unfit : c.Unfit c₁ ds name e) (rests : Rests c₁ c') :
    c.Unfit c' ds name e := by
  have view := rests.extended.view name
  have paths := rests.only.paths
  cases unfit with
  | invalid failed => exact .invalid (view ▸ failed)
  | library valid before named failed last =>
      rw [← view] at valid named failed
      rw [← paths] at failed
      exact .library valid before named failed (last.trans rests.does)
  | factory valid before loaded ready failed last =>
      rw [← view] at valid loaded failed
      rw [← paths] at loaded
      exact .factory valid before loaded ready failed (last.trans rests.does)

/-- Nothing that is done after a failure, short of another deed, changes what led to it. -/
theorem Stuck.rests (stuck : Stuck c c₁ ds e job chain) (rests : Rests c₁ c') :
    Stuck c c' ds e job chain := by
  have grown := rests.extended
  have upholds := rests.upholds
  induction stuck with
  | astray leads => exact .astray ((grown.leadsTo _).trans leads)
  | unfit leads absent unfit =>
      exact .unfit ((grown.leadsTo _).trans leads) (rests.names ▸ absent) (unfit.rests rests)
  | undone leads sets called =>
      refine .undone ((grown.leadsTo _).trans leads) ?_ called
      rw [grown.properties]
      exact sets.mono upholds
  | @unfilled _ _ target _ _ leads stuck ih =>
      rw [← grown.properties target] at ih
      exact .unfilled ((grown.leadsTo _).trans leads) ih
  | refused sets named direct offered called =>
      exact .refused (sets.mono upholds) named direct (grown.environment ▸ offered) called
  | rejected sets named means called =>
      exact .rejected (sets.mono upholds) named (means.mono upholds) called
  | deeper sets named refers called stuck ih =>
      rw [← expand_congr grown.environment] at ih
      exact .deeper (sets.mono upholds) named refers called ih

/-- A filling that fails after its first entry. -/
theorem Stuck.cons (entry : c'.Entry owner id p (callsOn id more))
    (does : c.host.Does more c₁.host) (spared : ∀ x ∈ chain.map (·.2), callsOn x more = [])
    (stuck : Stuck c₁ c' ds e (.filling owner id ps) chain) :
    Stuck c c' (more ++ ds) e (.filling owner id (p :: ps)) chain := by
  have all {calls : List Deed} (called : callsOn id ds = calls) :
      callsOn id (more ++ ds) = callsOn id more ++ calls := by
    rw [callsOn_append, called]
  cases stuck with
  | refused sets named direct offered called =>
      exact .refused (.cons entry sets) named direct offered (all called)
  | rejected sets named means called =>
      refine .rejected (.cons entry sets) named means ?_
      rw [all called, List.append_assoc]
  | deeper sets named refers called stuck =>
      exact .deeper (.cons entry sets) named refers (all called)
        (stuck.prepend does (by simpa [Job.own] using spared))

/-! ## None of them is furnished -/

omit [Lifecycle σ] in
/-- What an instance gets, it accepts. -/
theorem Sets.not_failed {d : Deed} (sets : c.Sets owner id ps calls)
    (member : d ∈ calls ++ c.finale id (.ok ())) : d.failed = false := by
  rcases List.mem_append.1 member with set | called
  · obtain ⟨property, value, rfl⟩ := sets.injected set
    rfl
  · unfold finale at called
    split at called
    · rw [List.mem_singleton.1 called]
      rfl
    · simp at called

/-- An instance whose filling failed did not get all that its declaration says. -/
theorem Stuck.unset (stuck : Stuck c c' ds e (.filling owner id ps) chain)
    (sets : c'.Sets owner id ps calls) : callsOn id ds ≠ calls ++ c'.finale id (.ok ()) := by
  intro all
  cases stuck with
  | refused before named direct offered called =>
      obtain ⟨_, _, _, after, _⟩ := sets.split
      cases after with
      | cons entry _ =>
          cases entry with
          | nameless unnamed => simp [named] at unnamed
          | malformed named' _ offered' =>
              rw [named] at named'
              cases named'
              simp [offered] at offered'
          | set named' means =>
              rw [named] at named'
              cases named'
              cases means with
              | plain _ offered' => simp [offered] at offered'
              | reference refers _ => simp [direct] at refers
  | @rejected _ _ _ _ _ _ _ value before named means called =>
      rw [called] at all
      have member := all ▸ List.mem_append_right _ (List.mem_singleton_self _)
      exact Bool.noConfusion (sets.not_failed member)
  | deeper before named refers called stuck =>
      -- The entry that failed takes a call that was not made.
      obtain ⟨first, rest, before', after, rfl⟩ := sets.split
      have fewer := congrArg List.length (called.symm.trans all)
      have same := before.length_unique before'
      cases after with
      | cons entry _ =>
          cases entry with
          | nameless unnamed => simp [named] at unnamed
          | malformed _ direct _ => simp [refers] at direct
          | set _ _ =>
              simp only [List.length_append, List.length_cons] at fewer
              omega

/-- **No instance that failed on the way is furnished.** -/
theorem Stuck.not_furnished (stuck : Stuck c c' ds e job chain) :
    ∀ x ∈ chain, ¬ c'.Furnished ds x := by
  induction stuck with
  | astray leads => simp
  | unfit leads absent unfit => simp
  | undone leads sets called =>
      intro x member
      rw [List.mem_singleton.1 member]
      rintro ⟨calls, sets', all⟩
      rw [called] at all
      have member := all ▸ List.mem_append_right _ (List.mem_singleton_self _)
      exact Bool.noConfusion (sets'.not_failed member)
  | unfilled leads stuck ih =>
      intro x member
      rcases List.mem_cons.1 member with rfl | later
      · rintro ⟨calls, sets, all⟩
        exact stuck.unset sets all
      · exact ih x later
  | refused sets named direct offered called => simp
  | rejected sets named means called => simp
  | deeper sets named refers called stuck ih => exact ih

/-- An instance whose filling failed was only injected into. -/
theorem Stuck.injected (stuck : Stuck c c' ds e (.filling owner id ps) chain) {d : Deed}
    (member : d ∈ callsOn id ds) :
    ∃ property value outcome, d = .injected id property value outcome := by
  have of_sets {before : List Property} {calls : List Deed} (sets : c'.Sets owner id before calls)
      (member : d ∈ calls) : ∃ property value outcome, d = .injected id property value outcome := by
    obtain ⟨property, value, rfl⟩ := sets.injected member
    exact ⟨property, value, _, rfl⟩
  cases stuck with
  | refused sets named direct offered called => exact of_sets sets (called ▸ member)
  | rejected sets named means called =>
      rw [called] at member
      rcases List.mem_append.1 member with before | last
      · exact of_sets sets before
      · exact ⟨_, _, _, List.mem_singleton.1 last⟩
  | deeper sets named refers called stuck => exact of_sets sets (called ▸ member)

/-- **No instance that failed on the way had its hook called with success.** -/
theorem Stuck.not_done (stuck : Stuck c c' ds e job chain) :
    ∀ x ∈ chain, Deed.called x.2 doneHook (.ok ()) ∉ ds := by
  have on {x : ObjectId} (member : Deed.called x doneHook (.ok ()) ∈ ds) :
      Deed.called x doneHook (.ok ()) ∈ callsOn x ds :=
    List.mem_filter.2 ⟨member, by simp [Deed.callee]⟩
  induction stuck with
  | astray leads => simp
  | unfit leads absent unfit => simp
  | undone leads sets called =>
      intro x member done
      rw [List.mem_singleton.1 member] at done
      have done := called ▸ on done
      rcases List.mem_append.1 done with set | last
      · obtain ⟨_, _, injected⟩ := sets.injected set
        simp at injected
      · simp at last
  | unfilled leads stuck ih =>
      intro x member done
      rcases List.mem_cons.1 member with rfl | later
      · obtain ⟨_, _, _, injected⟩ := stuck.injected (on done)
        simp at injected
      · exact ih x later done
  | refused sets named direct offered called => simp
  | rejected sets named means called => simp
  | deeper sets named refers called stuck ih => exact ih

end Stuck

end Wiring.Context
