/-
# Wiring.Proofs.Context.Start -- what a start does, and how it fails

A start publishes the constants one after the other, each in the environment that the
ones before it made (`Publishes`), and then creates the early instances one after the
other (`Prepares`).  If it fails, then at the first of these that does (`Fault`), and
all that it has done was done to instances that it made itself (`Starts`).
-/
import Wiring.Context.Build
import Wiring.Proofs.Creation.Failure
import Wiring.Proofs.Creation.Reach

namespace Wiring.Context

set_option autoImplicit false

open Wiring.Component
open Wiring.Config (Environment)
open Wiring.Document (Constant)

/-! ## Constants -/

/-- Constants were published, one after the other; those without a name were skipped. -/
inductive Publishes : Environment → List Constant → Environment → Prop where
  | nil (env : Environment) : Publishes env [] env
  | nameless {env env' : Environment} {k : Constant} {ks : List Constant} (unnamed : k.name = none)
      (rest : Publishes env ks env') : Publishes env (k :: ks) env'
  | named {env env' : Environment} {k : Constant} {ks : List Constant} {name : String}
      {value : Config.Value} (named : k.name = some name)
      (valued : (constantValue env name k).value = .ok value)
      (rest : Publishes (env.publish name value) ks env') : Publishes env (k :: ks) env'

/-- All constants are published, or all before the first that has no value. -/
theorem publishConstants_cases (env : Environment) (ks : List Constant) :
    let published := (publishConstants env ks).value
    (published.1 = .ok () ∧ Publishes env ks published.2) ∨
      ∃ e before k after name, published.1 = .error e ∧ ks = before ++ k :: after ∧
        Publishes env before published.2 ∧ k.name = some name ∧
        (constantValue published.2 name k).value = .error e := by
  induction ks generalizing env with
  | nil => exact .inl ⟨rfl, .nil env⟩
  | cons k ks ih =>
      unfold publishConstants
      cases named : k.name with
      | none =>
          simp only [Logging.Logged.value_bind]
          rcases ih env with ⟨ok, published⟩ |
            ⟨e, before, j, after, name, failed, rfl, published, named', invalid⟩
          · exact .inl ⟨ok, .nameless named published⟩
          · exact .inr ⟨e, k :: before, j, after, name, failed, rfl, .nameless named published,
              named', invalid⟩
      | some name =>
          simp only [Logging.Logged.value_bind]
          cases valued : (constantValue env name k).value with
          | error e => exact .inr ⟨e, [], k, ks, name, rfl, rfl, .nil env, named, valued⟩
          | ok value =>
              simp only
              rcases ih (env.publish name value) with ⟨ok, published⟩ |
                ⟨e, before, j, after, other, failed, rfl, published, named', invalid⟩
              · exact .inl ⟨ok, .named named valued published⟩
              · exact .inr ⟨e, k :: before, j, after, other, failed, rfl,
                  .named named valued published, named', invalid⟩

/-! ## Early instances -/

variable {σ : Type} [Lifecycle σ] {c c₁ c' : Context σ} {name : String} {names : List String}
  {e : Error}

def announced (c : Context σ) (name : String) : Context σ :=
  c.log .info s!"Creating early instance '{name}'"

/-- Early instances were created one after the other, and the handles to them given up. -/
inductive Prepares : Context σ → List String → Context σ → Prop where
  | nil (c : Context σ) : Prepares c [] c
  | cons {c c₁ c' : Context σ} {name : String} {names : List String} {id : ObjectId}
      (made : (c.announced name).create name = (.ok id, c₁))
      (rest : Prepares (c₁.release id) names c') : Prepares c (name :: names) c'

/-- A creation of early instances that fails does so at the first that cannot be created. -/
theorem createEarly_error (failed : c.createEarly names = (.error e, c')) :
    ∃ before name after c₁, names = before ++ name :: after ∧ Prepares c before c₁ ∧
      (c₁.announced name).create name = (.error e, c') := by
  induction names generalizing c with
  | nil => cases failed
  | cons name names ih =>
      unfold createEarly at failed
      cases made : (c.announced name).create name with
      | mk r c₁ =>
          rw [show (c.log .info _).create name = (r, c₁) from made] at failed
          cases r with
          | error e' =>
              cases failed
              exact ⟨[], name, names, c, rfl, .nil c, made⟩
          | ok id =>
              obtain ⟨before, other, after, c₂, rfl, prepared, failed⟩ := ih failed
              exact ⟨name :: before, other, after, c₂, rfl, .cons made prepared, failed⟩

omit [Lifecycle σ] in
theorem extends_announced (c : Context σ) (name : String) : Extends c (c.announced name) :=
  extends_of_silent (silent_log c .info _)

/-- What a creation after an announcement comes to own is reached from the name. -/
theorem reaches_announced {r : Except Error ObjectId}
    (made : (c.announced name).create name = (r, c')) {n : String} (member : n ∈ c'.names) :
    n ∈ c.names ∨ Reaches c.successors (c.goal name) n := by
  have runs := runs_create (c.announced name) name
  rw [made] at runs
  have reached := runs.reaches member
  rw [(extends_announced c name).covers] at reached
  exact reached

theorem extends_create {r : Except Error ObjectId}
    (made : (c.announced name).create name = (r, c')) : Extends c c' := by
  have goes := goes_create (c.announced name) name
  rw [made] at goes
  exact (extends_announced c name).trans goes.extended

theorem Prepares.reaches (prepared : Prepares c names c') :
    Extends c c' ∧ ∀ n ∈ c'.names, n ∈ c.names ∨
      ∃ root ∈ names, Reaches c.successors (c.goal root) n := by
  induction prepared with
  | nil c => exact ⟨.refl c, fun n member => .inl member⟩
  | @cons c c₁ c' name names id made rest ih =>
      obtain ⟨grown, later⟩ := ih
      have first := extends_create made
      have released := first.trans (extends_of_silent (silent_release c₁ id))
      refine ⟨released.trans grown, fun n member => ?_⟩
      rcases later n member with before | ⟨root, there, path⟩
      · rw [names_of_silent (silent_release c₁ id)] at before
        exact (reaches_announced made before).imp_right fun path => ⟨name, List.mem_cons_self, path⟩
      · rw [released.successors, released.goal] at path
        exact .inr ⟨root, List.mem_cons_of_mem _ there, path⟩

/-! ## How a start fails -/

/-- Why a start failed, and with which context: at the first constant without a value, when there was
no instance yet; else, with all constants published, at the first early instance that could not be
created, when there was none that the early ones up to it do not lead to. -/
inductive Fault (c : Context σ) (e : Error) : Context σ → Prop where
  | constant {before after : List Constant} {k : Constant} {name : String} {c' : Context σ}
      (split : c.document.constants = before ++ k :: after)
      (published : Publishes c.environment before c'.environment) (named : k.name = some name)
      (failed : (constantValue c'.environment name k).value = .error e)
      (ended : c.publish = (.error e, c')) (none : c'.owned = []) : Fault c e c'
  | early {before after : List String} {name : String} {c₀ c₁ c' : Context σ}
      (constants : Publishes c.environment c.document.constants c₀.environment)
      (published : c.publish = (.ok (), c₀))
      (split : c.document.earlyNames = before ++ name :: after)
      (prepared : Prepares c₀ before c₁)
      (failed : (c₁.announced name).create name = (.error e, c'))
      (reached : ∀ n ∈ c'.names, ∃ root ∈ before ++ [name],
        Reaches c₀.successors (c₀.goal root) n) : Fault c e c'

theorem fault_of_start {avoidEarly : Bool} (bare : c.owned = [])
    (failed : c.start avoidEarly = (.error e, c')) : Fault c e c' := by
  have published := publishConstants_cases c.environment c.document.constants
  unfold start at failed
  cases start : c.publish with
  | mk r c₀ =>
      have result : (publishConstants c.environment c.document.constants).value.1 = r :=
        congrArg Prod.fst start
      have document : c₀.document = c.document := congrArg (·.2.document) start.symm
      have owned : c₀.owned = [] := (congrArg (·.2.owned) start.symm).trans bare
      have environment : (publishConstants c.environment c.document.constants).value.2 =
          c₀.environment := congrArg (·.2.environment) start
      simp only [result, environment] at published
      rw [start] at failed
      rcases published with ⟨rfl, published⟩ |
        ⟨e', before, k, after, name, rfl, split, published, named, invalid⟩
      · simp only at failed
        split at failed
        · cases failed
        · rw [document] at failed
          obtain ⟨before, name, after, c₁, split, prepared, failed⟩ := createEarly_error failed
          refine .early published start split prepared failed ?_
          intro n member
          obtain ⟨grown, reached⟩ := prepared.reaches
          rcases reaches_announced failed member with old | path
          · rcases reached n old with none | ⟨root, there, path⟩
            · simp [Context.names, owned] at none
            · exact ⟨root, List.mem_append_left _ there, path⟩
          · rw [grown.successors, grown.goal] at path
            exact ⟨name, List.mem_append_right _ (List.mem_singleton_self _), path⟩
      · cases failed
        exact .constant split published named invalid start owned

/-! ## What a start has done -/

variable {others : List ObjectId}

theorem dealing_createEarly (held : Held c others) (names : List String) :
    Dealing [] c (c.createEarly names).2 others := by
  induction names generalizing c with
  | nil => exact .refl [] held
  | cons name rest ih =>
      have noted : Dealing [] c (c.announced name) others :=
        (Dealing.refl [] held).idle (proceeds_log c .info _)
      have created := (runs_create (c.announced name) name).deals noted.held rfl
      unfold createEarly
      rw [show c.log .info _ = c.announced name from rfl]
      cases made : (c.announced name).create name with
      | mk r after =>
          rw [made] at created
          cases r with
          | error e => exact noted.trans created.1
          | ok id =>
              have released := (noted.trans created.1).release
              exact released.trans (ih released.held)

theorem adds_createEarly (indexed : Indexed c) (held : Held c others) (names : List String) :
    ∃ ds more, Adds [] c ds (c.createEarly names).2 others more := by
  induction names generalizing c with
  | nil => exact ⟨[], [], .refl held⟩
  | cons name rest ih =>
      have logged := proceeds_log c .info s!"Creating early instance '{name}'"
      have noted : Adds [] c [] (c.announced name) others [] :=
        .idle logged.only (logged.tends held)
      obtain ⟨ds, more, chain, told⟩ := (runs_create (c.announced name) name).told
        (noted.goes.indexed indexed) noted.tends.held rfl
      have created := told.adds
      unfold createEarly
      rw [show c.log .info _ = c.announced name from rfl]
      cases made : (c.announced name).create name with
      | mk r after =>
          rw [made] at created
          cases r with
          | error e => exact ⟨_, _, noted.andThen created⟩
          | ok id =>
              have released := (noted.andThen created).release
              obtain ⟨es, rest, later⟩ :=
                ih (released.goes.indexed indexed) released.tends.held
              exact ⟨_, _, released.andThen later⟩

theorem held_publish (held : Held c others) : Held c.publish.2 others := by
  have noted := (proceeds_take c (publishConstants c.environment c.document.constants)).tends held
  obtain ⟨fresh, live, handles⟩ := noted.held
  exact ⟨fresh, live, handles⟩

/-- After the constants, a start does nothing but create early instances. -/
theorem start_eq_createEarly (c : Context σ) (avoidEarly : Bool) :
    ∃ names, (c.start avoidEarly).2 = (c.publish.2.createEarly names).2 := by
  unfold start
  cases published : c.publish with
  | mk r after =>
      cases r with
      | error e => exact ⟨[], rfl⟩
      | ok u =>
          simp only
          split
          · exact ⟨[], rfl⟩
          · exact ⟨_, rfl⟩

/-- A start makes the instances that are owned in the end, one after the other, and deals with
these only, which are newer than all that was there. -/
theorem start_deals (bare : c.owned = []) (index : c.index = []) (held : Held c others)
    (avoidEarly : Bool) :
    Indexed (c.start avoidEarly).2 ∧ Held (c.start avoidEarly).2 others ∧
      (∀ x ∈ (c.start avoidEarly).2.owned, c.host.heap.next ≤ x.2) ∧
      (∃ ds, c.host.Does ds (c.start avoidEarly).2.host ∧
        madeIn ds = (c.start avoidEarly).2.owned.map (·.2)) ∧
      ∃ ds, c.host.Does ds (c.start avoidEarly).2.host ∧
        ∀ d ∈ ds, ∀ x ∈ d.objects, x ∈ (c.start avoidEarly).2.owned.map (·.2) := by
  obtain ⟨names, same⟩ := start_eq_createEarly c avoidEarly
  have indexed : Indexed c.publish.2 :=
    (consistent_of_owned_nil (c := c.publish.2) bare index).toIndexed
  have held := held_publish held
  have enters : c.host.Does [] c.publish.2.host := (Host.Moves.enter c.host _).does
  obtain ⟨ds, more, adds⟩ := adds_createEarly indexed held names
  obtain ⟨es, deals⟩ := dealing_createEarly held names
  have owned : (c.publish.2.createEarly names).2.owned = more := by
    rw [adds.owned, show c.publish.2.owned = [] from bare, List.nil_append]
  rw [same]
  refine ⟨adds.goes.indexed indexed, adds.tends.held, ?_,
    ⟨_, enters.trans adds.tends.does, ?_⟩, _, enters.trans deals.tends.does, ?_⟩
  · rw [owned]
    exact fun x member => adds.newer member
  · rw [owned]
    exact adds.made
  · exact fun d member x object => (deals.own d member x object).resolve_left List.not_mem_nil

end Wiring.Context
