/-
# Wiring.Proofs.Creation.Early -- which instances a build leaves live

Whether a name is early is asked in two places.  A view looks at the first declaration of the name
(`View.init`), a build goes through all of them (`Document.earlyNames`).  What a build leaves live
is what it comes to from the names it asks for, so a name with an early declaration behind a lazy
one is created although its view says it is not (`shadowed`).  Where there is no such name, the two
agree (`eraseDups_earlyNames`), and so does what they make of a document (`build_early`).
-/
import Wiring.Proofs.Context.Built
import Wiring.Proofs.Creation.Walks

namespace Wiring

set_option autoImplicit false

/-! ## Names that are early -/

namespace Document

/-- The names that a view says are early, each once, in the order of their declarations. -/
def viewedEarly (d : Document) (environment : Config.Environment) : List String :=
  (d.instances.map (·.name)).eraseDups.filter fun n => View.init ⟨n, d, environment⟩ == .early

/-- What is found among the declarations of other names is found among all. -/
theorem find?_of_others {ds : List Declaration} {m n : String} {x : Declaration}
    (found : (ds.filter fun x => !x.name == m).find? (·.name == n) = some x) :
    n ≠ m ∧ ds.find? (·.name == n) = some x := by
  have named : x.name = n := by simpa using List.find?_some found
  have apart : n ≠ m := by
    have kept := (List.mem_filter.1 (List.mem_of_find?_eq_some found)).2
    simpa [named] using kept
  have same : (fun x : Declaration => decide ((!x.name == m) = true ∧ (x.name == n) = true)) =
      (·.name == n) := by
    funext x
    by_cases here : x.name = n
    · simp [here, apart]
    · simp [here]
  rw [List.find?_filter, same] at found
  exact ⟨apart, found⟩

/-- If a name is early exactly if its first declaration is, the names with an early declaration are
those that are early. -/
theorem eraseDups_early {early : String → Bool} (ds : List Declaration)
    (sound : ∀ d ∈ ds, d.init = .early → early d.name = true)
    (first : ∀ n d, ds.find? (·.name == n) = some d → early n = true → d.init = .early) :
    ((ds.filter (·.init == .early)).map (·.name)).eraseDups =
      (ds.map (·.name)).eraseDups.filter early := by
  match ds with
  | [] => rfl
  | d :: ds =>
      -- The recursion goes on without the other declarations of the first name.
      let others := ds.filter fun x => !x.name == d.name
      have names : ((ds.map (·.name)).filter fun n => !n == d.name) = others.map (·.name) := by
        rw [List.filter_map]
        rfl
      have earlies : (((ds.filter (·.init == .early)).map (·.name)).filter fun n => !n == d.name) =
          (others.filter (·.init == .early)).map (·.name) := by
        rw [List.filter_map, List.filter_filter, List.filter_filter]
        refine congrArg _ (List.filter_congr fun x _ => ?_)
        exact Bool.and_comm _ _
      have rest : ((others.filter (·.init == .early)).map (·.name)).eraseDups =
          (others.map (·.name)).eraseDups.filter early := by
        refine eraseDups_early others
          (fun x member => sound x (List.mem_cons_of_mem _ (List.mem_of_mem_filter member))) ?_
        intro n x found
        obtain ⟨apart, found⟩ := find?_of_others found
        refine first n x ?_
        rw [List.find?_cons_of_neg (by simpa using Ne.symm apart)]
        exact found
      rw [List.map_cons, List.eraseDups_cons, names]
      cases init : d.init with
      | early =>
        have asked := sound d List.mem_cons_self init
        rw [List.filter_cons_of_pos (by simp [init]), List.map_cons, List.eraseDups_cons, earlies,
          rest, List.filter_cons_of_pos asked]
      | onDemand =>
        have unasked : ¬early d.name = true := by
          intro asked
          have := first d.name d (List.find?_cons_of_pos (by simp)) asked
          rw [init] at this
          cases this
        have apart : ∀ n ∈ (ds.filter (·.init == .early)).map (·.name), (!n == d.name) = true := by
          intro n member
          obtain ⟨x, there, rfl⟩ := List.mem_map.1 member
          obtain ⟨there, early'⟩ := List.mem_filter.1 there
          have asked := sound x (List.mem_cons_of_mem _ there) (by simpa using early')
          rw [Bool.not_eq_true', beq_eq_false_iff_ne]
          intro same
          rw [same] at asked
          exact unasked asked
        rw [List.filter_cons_of_neg (by simp [init]), List.filter_cons_of_neg unasked, ← rest,
          ← earlies, List.filter_eq_self.2 apart]
termination_by ds.length
decreasing_by exact Nat.lt_succ_of_le (List.length_filter_le _ _)

/-- **Where no early declaration stands behind a lazy one of its name**, the names that a build asks
for are those that are early. -/
theorem eraseDups_earlyNames {d : Document} {environment : Config.Environment}
    (unshadowed : ∀ n ∈ d.earlyNames, View.init ⟨n, d, environment⟩ = .early) :
    d.earlyNames.eraseDups = d.viewedEarly environment := by
  refine eraseDups_early d.instances (fun x member early => ?_) fun n x found early => ?_
  · have asked : x.name ∈ d.earlyNames :=
      List.mem_map_of_mem (List.mem_filter.2 ⟨member, by simp [early]⟩)
    simpa using unshadowed x.name asked
  · have first : d.find? n = some x := found
    simpa [View.init, View.declaration?, first] using early

end Document

namespace Context

open Wiring.Component
open Wiring.Config (Environment)

variable {σ : Type} [Lifecycle σ] {host : Host σ} {environment : Environment} {document : Document}
  {options : Options} {c : Context σ}

/-! ## What a build leaves live -/

/-- A build comes to own what a walk from the names it asks for comes to. -/
theorem explores_build (built : build host environment document options = (.ok (), c)) :
    Explores (opened host environment document options).publish.2 c
      (earlyRoots document options) := by
  obtain ⟨_, c₁, prepared, silent⟩ := prepares_of_build built
  have bare : Indexed (opened host environment document options).publish.2 :=
    (consistent_of_owned_nil rfl rfl).toIndexed
  have walk := (prepared.explores bare).trans (.of_silent silent)
  rwa [List.append_nil] at walk

/-- A build that creates nothing early and then requests for some names make one walk from these. -/
theorem explores_build_creates {c' : Context σ} {ns : List String} (avoids : options.avoidEarly)
    (built : build host environment document options = (.ok (), c)) (creates : Creates c ns c') :
    Explores (opened host environment document options).publish.2 c' ns := by
  have first := explores_build built
  rw [show earlyRoots document options = [] from if_pos avoids] at first
  have indexed : Indexed c := by
    have consistent := consistent_build host environment document options
    rw [built] at consistent
    exact consistent.toIndexed
  exact first.trans (creates.explores indexed)

/-- What is live after a build is what a walk from the names it asks for comes to. -/
theorem walks_build (built : build host environment document options = (.ok (), c)) :
    Walks c.goal c.requests [] (earlyRoots document options) c.names := by
  obtain ⟨grown, out, names, walks⟩ := explores_build built
  have goals : c.goal = (opened host environment document options).publish.2.goal :=
    funext grown.goal
  have all : c.names = out := names
  rw [goals, grown.requests, all]
  exact walks

/-- What is live in a context is what creating these names, one after the other, leaves live: a walk
from them comes to it, and so do requests for them, made of any context of the document and the
environment that has created nothing early. -/
structure LeftBy (environment : Environment) (document : Document) (ns : List String)
    (c : Context σ) : Prop where
  walk : Walks c.goal c.requests [] ns c.names
  created : ∀ {host : Host σ} {options : Options} {c₀ c' : Context σ}, options.avoidEarly = true →
    build host environment document options = (.ok (), c₀) → Creates c₀ ns c' → c'.names = c.names

/-- Requests for names come to what a walk from them comes to. -/
theorem leftBy_of_walks {ns : List String}
    (built : build host environment document options = (.ok (), c))
    (walks : Walks c.goal c.requests [] ns c.names) : LeftBy environment document ns c := by
  refine ⟨walks, fun {_ _ _ c'} avoids built' creates => ?_⟩
  obtain ⟨_, out, names, walks'⟩ := explores_build_creates avoids built' creates
  have grown := (explores_build built).grown
  have goals : c.goal = (opened host environment document options).publish.2.goal :=
    funext grown.goal
  rw [goals, grown.requests] at walks
  have all : c'.names = out := names
  rw [all]
  exact walks'.unique walks

/-- **A build leaves live what creating the names with an early declaration leaves live**, one after
the other as they are declared, and nothing but what these reach.  If no early declaration stands
behind a lazy one of its name, that is what creating the names that are early leaves live. -/
theorem build_early (eager : options.avoidEarly = false)
    (built : build host environment document options = (.ok (), c)) :
    LeftBy environment document document.earlyNames c ∧
    ((∀ n ∈ document.earlyNames, (c.view n).init = .early) →
      LeftBy environment document (document.viewedEarly c.environment) c) ∧
    ∀ n ∈ c.names, ∃ root ∈ document.earlyNames, Reaches c.successors (c.goal root) n := by
  have roots : earlyRoots document options = document.earlyNames := if_neg (by simp [eager])
  have walks := walks_build built
  rw [roots] at walks
  refine ⟨leftBy_of_walks built walks, fun unshadowed => leftBy_of_walks built ?_,
    fun n member => ?_⟩
  · -- Both ask for the same names, the build for some of them more than once.
    have same : document.earlyNames.eraseDups = document.viewedEarly c.environment :=
      Document.eraseDups_earlyNames fun n early => by
        have viewed := unshadowed n early
        rwa [view, (publishes_of_build built).1] at viewed
    rw [← same]
    exact walks.eraseDups
  · obtain ⟨_, c₁, prepared, silent⟩ := prepares_of_build built
    have grown := prepared.reaches.1.trans (extends_of_silent silent)
    rw [roots] at prepared
    rw [names_of_silent silent] at member
    rcases prepared.reaches.2 n member with none | ⟨root, early, path⟩
    · cases none
    · rw [← grown.successors, ← grown.goal] at path
      exact ⟨root, early, path⟩

/-- A lazy instance, and an early declaration of its name behind it. -/
def shadowed : Document where
  instances :=
    [{ name := "a", className := some "oracle::Link" },
      { name := "a", className := some "oracle::Link", init := .early }]

def shadowedContext : Context Sample := (build Sample.host .empty shadowed {}).2

def idleContext : Context Sample := (build Sample.host .empty shadowed { avoidEarly := true }).2

/-- No name of that document is early, and yet its build leaves one live. -/
theorem shadowed_is_built :
    (build Sample.host .empty shadowed {}).1 = .ok () ∧ shadowedContext.names = ["a"] ∧
      shadowed.viewedEarly shadowedContext.environment = [] ∧
      (build Sample.host .empty shadowed { avoidEarly := true }).1 = .ok () ∧
      ∃ c', Creates idleContext (shadowed.viewedEarly shadowedContext.environment) c' ∧
        c'.names = [] := by
  have none : shadowed.viewedEarly shadowedContext.environment = [] := by decide +kernel
  refine ⟨by decide +kernel, by decide +kernel, none, by decide +kernel, idleContext, ?_,
    by decide +kernel⟩
  rw [none]
  exact .done

theorem build_early_shadowed : shadowed.earlyNames = ["a"] ∧
    (idleContext.create "a").2.names = shadowedContext.names ∧
    ∀ n ∈ shadowedContext.names, ∃ root ∈ shadowed.earlyNames,
      Reaches shadowedContext.successors (shadowedContext.goal root) n := by
  have built : build Sample.host .empty shadowed {} = (.ok (), shadowedContext) :=
    Prod.fst_eq_iff.1 (by decide +kernel)
  have bare : build Sample.host .empty shadowed { avoidEarly := true } = (.ok (), idleContext) :=
    Prod.fst_eq_iff.1 (by decide +kernel)
  have made : (idleContext.create "a").1 = .ok 0 := by decide +kernel
  obtain ⟨left, _, reached⟩ := build_early rfl built
  exact ⟨rfl, left.created rfl bare (.create (Prod.ext made rfl) .done), reached⟩

end Context

end Wiring
