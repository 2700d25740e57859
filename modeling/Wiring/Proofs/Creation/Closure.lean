/-
# Wiring.Proofs.Creation.Closure -- the live graph is what the roots reach

A context that was built and then asked for some names, each with success, owns what a
depth-first walk visits from the early names and those names, in pre-order.  Each of
its instances was handed the objects that are live under what its references lead to.

So neither the order in which names are asked for nor what the host was like before
has any influence on which names are live and how they are wired: two contexts of one
document and environment agree on both once they were asked for the same names
(`creates_closure`).
-/
import Wiring.Proofs.Context.Operations
import Wiring.Proofs.Context.Rollback
import Wiring.Proofs.Creation.Closes
import Wiring.Samples.Platform

namespace Wiring.Context

set_option autoImplicit false

open Wiring.Component
open Wiring.Config (Environment)

variable {σ : Type}

/-! ## Wiring by names -/

def nameOf (c : Context σ) (id : ObjectId) : Option String :=
  (c.owned.find? (·.2 == id)).map (·.1)

/-- The references an instance was handed, each with its property and the name it is live under. -/
def wiring (c : Context σ) (es : List Event) (name : String) : List (String × Option String) :=
  match c.lookup name with
  | none => []
  | some id => (referenceCalls id es).map fun call => (call.1, c.nameOf call.2)

theorem nameOf_of_lookup {c : Context σ} (consistent : Consistent c) {n : String} {id : ObjectId}
    (live : c.lookup n = some id) : c.nameOf id = some n := by
  have member := consistent.lookup_iff.1 live
  unfold nameOf
  cases found : c.owned.find? (·.2 == id) with
  | none =>
      have absent := List.find?_eq_none.1 found (n, id) member
      simp at absent
  | some e =>
      obtain ⟨m, x⟩ := e
      have same : x = id := by simpa using List.find?_some found
      subst same
      have live' := consistent.lookup_iff.2 (List.mem_of_find?_eq_some found)
      rw [consistent.lookup_injective live' live]
      rfl

theorem map_nameOf_of_matches {c : Context σ} (consistent : Consistent c)
    {calls : List (String × ObjectId)} {wires : List (String × String)}
    (same : Matches c calls wires) :
    (calls.map fun call => (call.1, c.nameOf call.2)) =
      wires.map fun wire => (wire.1, some (c.goal wire.2)) := by
  induction same with
  | nil => rfl
  | cons first _ ih =>
      obtain ⟨property, live⟩ := first
      rw [List.map_cons, List.map_cons, ih, nameOf_of_lookup consistent live, property]

/-- The wiring of an instance by names is that of its declaration. -/
theorem wiring_of_wired {c : Context σ} (consistent : Consistent c) {es : List Event}
    (wired : ∀ n i, (n, i) ∈ c.owned → Wired c es n i) {n : String} (live : n ∈ c.names) :
    c.wiring es n = (c.references n).map fun wire => (wire.1, some (c.goal wire.2)) := by
  obtain ⟨⟨m, id⟩, owned, rfl⟩ := List.mem_map.1 live
  unfold wiring
  rw [consistent.lookup_iff.2 owned]
  exact map_nameOf_of_matches consistent (wired m id owned)

/-! ## Successful requests -/

variable [Lifecycle σ]

/-- One request after the other was answered; handles may have been given up in between. -/
inductive Creates : Context σ → List String → Context σ → Prop where
  | done {c : Context σ} : Creates c [] c
  | create {c c₁ c' : Context σ} {n : String} {ns : List String} {id : ObjectId}
      (made : c.create n = (.ok id, c₁)) (rest : Creates c₁ ns c') : Creates c (n :: ns) c'
  | release {c c' : Context σ} {ns : List String} (id : ObjectId)
      (rest : Creates (c.release id) ns c') : Creates c ns c'

theorem closes_create {c c' : Context σ} {n : String} {id : ObjectId} (consistent : Consistent c)
    (apart : c.document.Apart) (made : c.create n = (.ok id, c')) :
    ∃ es, Closes [] c c' [c.goal n] es := by
  have runs := runs_create c n
  rw [made] at runs
  obtain ⟨es, closes, _⟩ := runs.closes consistent apart rfl id rfl
  exact ⟨es, closes⟩

omit [Lifecycle σ] in
/-- Going on after a walk, in the terms of the context before it. -/
theorem Closes.andThen {c c₁ c' : Context σ} {roots ns : List String} {es fs : List Event}
    (first : Closes [] c c₁ roots es) (second : Closes [] c₁ c' (ns.map c₁.goal) fs) :
    Closes [] c c' (roots ++ ns.map c.goal) (es ++ fs) := by
  have goals : c₁.goal = c.goal := funext first.grown.2.goal
  rw [goals] at second
  exact first.trans (by simp) second

theorem closes_creates {c c' : Context σ} {roots : List String} (creates : Creates c roots c')
    (consistent : Consistent c) (apart : c.document.Apart) :
    ∃ es, Closes [] c c' (roots.map c.goal) es := by
  induction creates with
  | done => exact ⟨[], .passes consistent (.refl _) (by simp [callees])⟩
  | create made rest ih =>
      obtain ⟨es, first⟩ := closes_create consistent apart made
      obtain ⟨fs, second⟩ := ih first.grown.1 (by rw [first.grown.2.document]; exact apart)
      exact ⟨es ++ fs, first.andThen second⟩
  | @release c _ _ id rest ih =>
      obtain ⟨es, _, first⟩ := Closes.of_silent [] consistent (silent_release c id)
      obtain ⟨fs, second⟩ := ih first.grown.1 apart
      exact ⟨es ++ fs, first.andThen second⟩

theorem closes_createEarly {c c' : Context σ} {names : List String}
    (made : c.createEarly names = (.ok (), c')) (consistent : Consistent c)
    (apart : c.document.Apart) : ∃ es, Closes [] c c' (names.map c.goal) es := by
  induction names generalizing c with
  | nil =>
      cases made
      exact ⟨[], .passes consistent (.refl _) (by simp [callees])⟩
  | cons n rest ih =>
      unfold createEarly at made
      obtain ⟨es, _, logged⟩ := Closes.of_silent [] consistent
        (silent_log c .info s!"Creating early instance '{n}'")
      cases created : (c.log .info s!"Creating early instance '{n}'").create n with
      | mk r c₁ =>
          rw [created] at made
          cases r with
          | error e => cases made
          | ok id =>
              obtain ⟨fs, first⟩ := closes_create logged.grown.1 apart created
              have first := logged.trans (by simp) first
              obtain ⟨gs, _, released⟩ := Closes.of_silent [] first.grown.1 (silent_release c₁ id)
              have first := first.trans (by simp) released
              obtain ⟨hs, second⟩ := ih made first.grown.1
                (by rw [first.grown.2.document]; exact apart)
              exact ⟨_, first.andThen second⟩

/-! ## From the beginning -/

/-- What a context is before it creates anything: the constants are published. -/
def origin (host : Host σ) (environment : Environment) (document : Document) (options : Options) :
    Context σ where
  host := host
  document := document
  environment := (publishConstants environment document.constants).value.2
  paths := searchPath environment options.paths

def earlyRoots (document : Document) (options : Options) : List String :=
  if options.avoidEarly then [] else document.earlyNames

/-- A start that succeeds publishes the constants and then asks for the early names. -/
theorem createEarly_of_start {c c' : Context σ} {options : Options}
    (started : c.start options.avoidEarly = (.ok (), c')) :
    c.publish.2.createEarly (earlyRoots c.document options) = (.ok (), c') := by
  unfold start at started
  cases published : c.publish with
  | mk r after =>
      rw [published] at started
      cases r with
      | error e => cases started
      | ok u =>
          have document : after.document = c.document := by
            have same : c.publish.2.document = c.document := rfl
            rwa [published] at same
          unfold earlyRoots
          simp only at started
          split at started
          · next avoid =>
            rw [if_pos avoid]
            exact started
          · next early =>
            rw [if_neg early, ← document]
            exact started

omit [Lifecycle σ] in
theorem consistent_origin (host : Host σ) (environment : Environment) (document : Document)
    (options : Options) : Consistent (origin host environment document options) :=
  consistent_of_owned_nil rfl rfl

omit [Lifecycle σ] in
/-- Registering the component types and publishing the constants calls no component. -/
theorem silent_publish (host : Host σ) (environment : Environment) (document : Document)
    (options : Options) :
    Silent (origin host environment document options)
      (opened host environment document options).publish.2 := by
  obtain ⟨es, quiet, follows⟩ := Host.follows_scan host
  exact ⟨_, quiet.append (quiet_logged _), rfl, follows.trans (Host.follows_enter _ _)⟩

theorem closes_build {host : Host σ} {environment : Environment} {document : Document}
    {options : Options} {c : Context σ} (apart : document.Apart)
    (built : build host environment document options = (.ok (), c)) :
    ∃ es, Closes [] (origin host environment document options) c
      ((earlyRoots document options).map (origin host environment document options).goal) es := by
  obtain ⟨_, started, start, rfl⟩ := start_of_build built
  obtain ⟨es, _, published⟩ := Closes.of_silent []
    (consistent_origin host environment document options)
    (silent_publish host environment document options)
  obtain ⟨fs, created⟩ :=
    closes_createEarly (createEarly_of_start start) published.grown.1 apart
  obtain ⟨gs, _, logged⟩ := Closes.of_silent [] created.grown.1 (silent_log started .info _)
  have walk := (published.andThen created).trans (by simp) logged
  rw [List.nil_append, List.append_nil] at walk
  exact ⟨_, walk⟩

/-- Everything a context owns comes from a walk, begun with nothing visited. -/
theorem closes_of_creates {host : Host σ} {environment : Environment} {document : Document}
    {options : Options} {c₀ c : Context σ} {roots : List String} (apart : document.Apart)
    (built : build host environment document options = (.ok (), c₀))
    (creates : Creates c₀ roots c) :
    ∃ es, Closes [] (origin host environment document options) c
      ((earlyRoots document options ++ roots).map
        (origin host environment document options).goal) es := by
  obtain ⟨es, first⟩ := closes_build apart built
  obtain ⟨fs, second⟩ := closes_creates creates first.grown.1
    (by rw [first.grown.2.document]; exact apart)
  rw [List.map_append]
  exact ⟨_, first.andThen second⟩

/-! ## The live graph -/

/-- What a context owns is the walk from `roots`, and all of it is wired by the events `es`. -/
structure Graph (c : Context σ) (roots : List String) (es : List Event) : Prop where
  preorder : Visits c.successors [] (roots.map c.goal) c.names
  once : c.names.Nodup
  wired : ∀ n i, (n, i) ∈ c.owned → Wired c es n i

section Graph

variable {host : Host σ} {environment : Environment} {document : Document} {options : Options}
  {c₀ c : Context σ} {roots : List String}

theorem graph_of_creates (apart : document.Apart)
    (built : build host environment document options = (.ok (), c₀))
    (creates : Creates c₀ roots c) :
    Grown (origin host environment document options) c ∧
      ∃ es, c.host.journal = host.journal ++ es ∧
        Graph c (earlyRoots document options ++ roots) es := by
  obtain ⟨es, walk⟩ := closes_of_creates apart built creates
  have grown := walk.grown
  refine ⟨grown, es, walk.journal, ?_, grown.1.names, ?_⟩
  · obtain ⟨out, names, visits⟩ := walk.preorder
    have goals : c.goal = (origin host environment document options).goal := funext grown.2.goal
    have all : c.names = out := names
    rw [grown.2.successors, goals, all]
    exact visits
  · intro n i owned
    exact walk.wired n i owned (by simp [origin])

/-- **The live graph is the depth-first closure of the names asked for**, and every instance was
handed what is live under its references.  A second context of the same document and environment
that was asked for the same names, in any order, has the same names live and wires them alike. -/
theorem creates_closure (apart : document.Apart)
    (built : build host environment document options = (.ok (), c₀))
    (creates : Creates c₀ roots c) :
    (∃ es, c.host.journal = host.journal ++ es ∧
      Graph c (earlyRoots document options ++ roots) es) ∧
    ∀ {host' : Host σ} {options' : Options} {c₀' c' : Context σ} {roots' : List String},
      build host' environment document options' = (.ok (), c₀') → Creates c₀' roots' c' →
      (∀ n, n ∈ earlyRoots document options' ++ roots' ↔ n ∈ earlyRoots document options ++ roots) →
      c'.names.Perm c.names ∧
        ∀ es es', c.host.journal = host.journal ++ es → c'.host.journal = host'.journal ++ es' →
          ∀ n ∈ c.names, c'.wiring es' n = c.wiring es n := by
  obtain ⟨grown, fs, journal, graph⟩ := graph_of_creates apart built creates
  refine ⟨⟨fs, journal, graph⟩, ?_⟩
  intro host' options' c₀' c' roots' built' creates' same
  obtain ⟨grown', fs', journal', graph'⟩ := graph_of_creates apart built' creates'
  -- Both contexts see the graph that their common document and environment describe.
  have document_eq : c'.document = c.document := grown'.2.document.trans grown.2.document.symm
  have environment_eq : c'.environment = c.environment :=
    grown'.2.environment.trans grown.2.environment.symm
  have views : c'.view = c.view := by
    funext n
    unfold view
    rw [document_eq, environment_eq]
  have goals : c'.goal = c.goal := by
    funext n
    unfold goal leadsTo
    rw [views]
  have references_eq : c'.references = c.references := by
    funext n
    unfold references wires properties
    rw [views, environment_eq]
  have successors_eq : c'.successors = c.successors := by
    funext n
    unfold successors
    rw [references_eq, goals]
  have names : ∀ n, n ∈ c'.names ↔ n ∈ c.names := by
    intro n
    rw [graph'.preorder.mem_iff_reaches, graph.preorder.mem_iff_reaches, successors_eq, goals]
    simp only [List.mem_map, exists_exists_and_eq_and, same]
  refine ⟨(List.perm_ext_iff_of_nodup graph'.once graph.once).2 names, ?_⟩
  intro es es' entered entered' n live
  rw [journal] at entered
  rw [journal'] at entered'
  cases List.append_cancel_left entered
  cases List.append_cancel_left entered'
  rw [wiring_of_wired grown'.1 graph'.wired ((names n).2 live),
    wiring_of_wired grown.1 graph.wired live, references_eq, goals]

end Graph

/-- Two links that refer to each other, one of them over an alias. -/
def couple : Document where
  aliases := [⟨"partner", "a"⟩]
  instances :=
    [{ name := "a", className := some "oracle::Link",
        properties := [{ name := some "next", reference := some "b" }] },
      { name := "b", className := some "oracle::Link",
        properties := [{ name := some "next", reference := some "partner" }] }]

def paired : Context Sample := (build Sample.host .empty couple {}).2

/-- Asked for one link, and then for the other over its alias. -/
def pairedForth : Context Sample := ((paired.create "b").2.create "partner").2

/-- Asked the other way round. -/
def pairedBack : Context Sample := ((paired.create "partner").2.create "b").2

theorem creates_closure_couple :
    couple.Apart ∧
      (∃ es, pairedForth.host.journal = Sample.host.journal ++ es ∧
        Graph pairedForth ["b", "partner"] es) ∧
      pairedBack.names.Perm pairedForth.names := by
  have apart : couple.Apart := by decide
  have built : build Sample.host .empty couple {} = (.ok (), paired) :=
    Prod.ext (by decide +kernel) rfl
  have first : (paired.create "b").1 = .ok 0 := by decide +kernel
  have second : ((paired.create "b").2.create "partner").1 = .ok 1 := by decide +kernel
  have first' : (paired.create "partner").1 = .ok 0 := by decide +kernel
  have second' : ((paired.create "partner").2.create "b").1 = .ok 1 := by decide +kernel
  have forth : Creates paired ["b", "partner"] pairedForth :=
    .create (Prod.ext first rfl) (.create (Prod.ext second rfl) .done)
  have back : Creates paired ["partner", "b"] pairedBack :=
    .create (Prod.ext first' rfl) (.create (Prod.ext second' rfl) .done)
  obtain ⟨graph, again⟩ := creates_closure apart built forth
  have same : ∀ n, n ∈ earlyRoots couple {} ++ ["partner", "b"] ↔
      n ∈ earlyRoots couple {} ++ ["b", "partner"] := by
    intro n
    simp [or_comm]
  exact ⟨apart, graph, (again built back same).1⟩

end Wiring.Context
