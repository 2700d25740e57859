/-
# Wiring.Proofs.Context.Reached -- the live graph in every state that can be reached

A context is reached by building it, by calls of all kinds, failed ones and those
after a shutdown included, and by whatever the rest of the program does in between
to its components, its handles and the environment (`Happens`).  In all these states,
and in all that a request passes through (`Inside`), the index and the owned
instances describe each other (`Exact`), and the handles are as they should be
(`Reached.held`).
-/
import Wiring.Proofs.Context.Custody

namespace Wiring.Context

set_option autoImplicit false

open Wiring.Component
open Wiring.Config (Environment)
open Wiring.Document (Property View)

variable {σ : Type} [Lifecycle σ]

/-! ## Reached states -/

/-- What can happen to a context: a call, or a step of the rest of the program, which may change the
environment and leaves the context its handles. -/
inductive Happens (c : Context σ) : Option Operation → Context σ → Prop where
  | called {call : Operation} (fair : Fair c call) : Happens c (some call) (c.operate call)
  | aside {host : Host σ} {ds : List Deed} {others : List ObjectId} (environment : Environment)
      (moves : c.host.Moves ds host)
      (handles : host.heap.handles.Perm (others ++ c.owned.map (·.2))) :
      Happens c none { c with host, environment }

/-- A context that was built from a document, successfully or not, and what can become of it. -/
inductive Reached (document : Document) : Context σ → Prop where
  | built {host : Host σ} (fresh : host.heap.Fresh) (environment : Environment)
      (options : Options) : Reached document (build host environment document options).2
  | next {c c' : Context σ} {label : Option Operation} (reached : Reached document c)
      (happens : Happens c label c') : Reached document c'

/-- What can become of a context as long as it is not shut down. -/
inductive Lasts : Context σ → Context σ → Prop where
  | refl (c : Context σ) : Lasts c c
  | next {c c' c'' : Context σ} {label : Option Operation} (lasts : Lasts c c')
      (happens : Happens c' label c'') (running : label ≠ some .shutdown) : Lasts c c''

variable {document : Document} {c c' : Context σ} {label : Option Operation}

/-! ## What is kept up -/

theorem Indexed.happens (indexed : Indexed c) (happens : Happens c label c') : Indexed c' := by
  cases happens with
  | @called call fair =>
      by_cases last : call = .shutdown
      · subst last
        show Indexed c.shutdown
        unfold shutdown
        split
        · exact indexed
        · exact (consistent_of_owned_nil rfl rfl).toIndexed
      · exact (goes_operate c last).indexed indexed
  | aside environment moves handles =>
      obtain ⟨_, follows, _⟩ := moves.journal
      exact ⟨indexed.index, indexed.names, indexed.objects,
        fun e owned => Nat.lt_of_lt_of_le (indexed.fresh e owned) follows.next, indexed.declared⟩

theorem document_of_happens (happens : Happens c label c') : c'.document = c.document := by
  cases happens with
  | @called call fair =>
      by_cases last : call = .shutdown
      · subst last
        exact document_shutdown c
      · exact (goes_operate c last).extended.document
  | aside environment moves handles => rfl

theorem Held.happens {others : List ObjectId} (held : Held c others)
    (happens : Happens c label c') : ∃ left, Held c' left := by
  cases happens with
  | @called call fair =>
      by_cases last : call = .shutdown
      · subst last
        exact ⟨_, held_shutdown held⟩
      · obtain ⟨left, tended⟩ := tended_operate held fair last
        exact ⟨left, tended.held⟩
  | aside environment moves handles =>
      obtain ⟨fresh, live, handles⟩ := (held.moves moves handles).held
      exact ⟨_, fresh, live, handles⟩

/-- Short of a shutdown, entries are only added. -/
theorem prefix_of_happens (happens : Happens c label c') (running : label ≠ some .shutdown) :
    c.owned <+: c'.owned := by
  cases happens with
  | @called call fair =>
      have running : call ≠ .shutdown := fun last => running (congrArg some last)
      obtain ⟨more, owned, _⟩ := (goes_operate c running).extended.owned
      exact ⟨more, owned.symm⟩
  | aside environment moves handles => exact List.prefix_refl _

namespace Reached

theorem indexed (reached : Reached document c) : Indexed c := by
  induction reached with
  | built fresh environment options => exact (consistent_build _ _ _ _).toIndexed
  | next reached happens ih => exact ih.happens happens

theorem held (reached : Reached document c) : ∃ others, Held c others := by
  induction reached with
  | built fresh environment options =>
      exact ⟨_, (tended_build fresh environment document options).1⟩
  | next reached happens ih =>
      obtain ⟨_, held⟩ := ih
      exact held.happens happens

theorem document_eq (reached : Reached document c) : c.document = document := by
  induction reached with
  | @built host fresh environment options =>
      exact (build_keeps host environment document options).1
  | next reached happens ih => exact (document_of_happens happens).trans ih

end Reached

/-! ## What a request passes through -/

/-- The job that a job turns to next, and the context in which it does. -/
inductive Opens : Job → Context σ → Job → Context σ → Prop where
  | begins {keep : Bool} {name target : String} {c c₁ : Context σ} {id : ObjectId}
      (wants : Wants c name target) (built : (c.noted name).instantiate target = (.ok id, c₁)) :
      Opens (.request keep name) c
        (.filling target id ((c₁.enrolled keep target id).properties target))
        (c₁.begun keep target id)
  | nameless {owner : String} {id : ObjectId} {p : Property} {ps : List Property} {c : Context σ}
      (unnamed : p.name = none) :
      Opens (.filling owner id (p :: ps)) c (.filling owner id ps)
        (c.log .warn s!"Missing name for {p.change.word} entry of '{owner}'")
  | plain {owner name : String} {id : ObjectId} {p : Property} {ps : List Property}
      {c c₁ : Context σ} (named : p.name = some name) (value : p.reference = none)
      (injected : c.injectPlain owner id p name = (.ok (), c₁)) :
      Opens (.filling owner id (p :: ps)) c (.filling owner id ps) c₁
  | follows {owner name text : String} {id : ObjectId} {p : Property} {ps : List Property}
      {c : Context σ} (named : p.name = some name) (refers : p.reference = some text) :
      Opens (.filling owner id (p :: ps)) c (.request true (c.expand text).1) (c.expand text).2
  | reference {owner name text : String} {id value : ObjectId} {p : Property} {ps : List Property}
      {c c₁ c₂ : Context σ} (named : p.name = some name) (refers : p.reference = some text)
      (made : Runs (.request true (c.expand text).1) (c.expand text).2 (.ok value) c₁)
      (injected : c₁.inject id name (.reference value) = (.ok (), c₂)) :
      Opens (.filling owner id (p :: ps)) c (.filling owner id ps) (c₂.release value)

/-- The jobs inside a job, each with the context in which it starts. -/
inductive Inside : Job → Context σ → Job → Context σ → Prop where
  | refl (job : Job) (c : Context σ) : Inside job c job c
  | next {job job₁ job' : Job} {c c₁ c' : Context σ} (inside : Inside job c job₁ c₁)
      (opens : Opens job₁ c₁ job' c') : Inside job c job' c'

theorem Opens.goes {job job' : Job} (opens : Opens job c job' c') : Goes c c' := by
  cases opens with
  | begins wants built => exact .single (.begins wants built)
  | nameless unnamed => exact (Goes.refl c).silent (silent_log _ _ _)
  | plain named value injected => exact (Goes.refl c).serves (serves_of_injectPlain injected)
  | follows named refers => exact (Goes.refl c).silent (silent_expand _ _)
  | reference named refers made injected =>
      obtain ⟨_, _, passes⟩ := passes_of_inject injected
      have answered := ((Goes.refl c).silent (silent_expand _ _)).trans made.goes
      exact (answered.trans (.passes passes)).silent (silent_release _ _)

theorem Inside.goes {job job' : Job} (inside : Inside job c job' c') : Goes c c' := by
  induction inside with
  | refl => exact .refl _
  | next inside opens ih => exact ih.trans opens.goes

/-! ## The live graph and its index -/

/-- The index has one entry for each instance that is owned, and maps its name to its position; no
name and no object is owned twice; owned names are declared, with a class. -/
structure Exact (document : Document) (c : Context σ) : Prop where
  names : c.names.Nodup
  objects : (c.owned.map (·.2)).Nodup
  entries : c.index.length = c.owned.length
  positions : ∀ n k, c.index.lookup n = some k ↔ ∃ id, c.owned[k]? = some (n, id)
  bounds : ∀ n, (c.lookup n).isSome ↔ (c.index.lookup n).isSome
  declared : ∀ n ∈ c.names, ∃ d, document.find? n = some d ∧ View.namesClass d

omit [Lifecycle σ] in
theorem Indexed.exact (indexed : Indexed c) : Exact c.document c where
  names := indexed.names
  objects := indexed.objects
  entries := by simp [indexed.index, Context.names]
  positions := by
    intro n k
    rw [indexed.index_lookup, Context.names, List.getElem?_map, Option.map_eq_some_iff]
    constructor
    · rintro ⟨e, owned, rfl⟩
      exact ⟨e.2, owned⟩
    · rintro ⟨id, owned⟩
      exact ⟨(n, id), owned, rfl⟩
  bounds := by
    intro n
    unfold lookup
    cases there : c.index.lookup n with
    | none => simp
    | some k =>
        have named := indexed.index_lookup.1 there
        rw [Context.names, List.getElem?_map] at named
        obtain ⟨e, owned, _⟩ := Option.map_eq_some_iff.1 named
        simp [owned]
  declared := by
    intro n member
    obtain ⟨d, valid⟩ := indexed.declared n member
    unfold View.validated at valid
    cases found : (c.view n).declaration? with
    | none => simp [found] at valid
    | some i =>
        rw [found] at valid
        simp only at valid
        split at valid
        · next named => exact ⟨i, found, named⟩
        · simp at valid

omit [Lifecycle σ] in
/-- Where entries are only added, those of the index stay where they are as well, and names keep
denoting what they denote. -/
theorem Indexed.keeps (indexed : Indexed c) (indexed' : Indexed c') (kept : c.owned <+: c'.owned) :
    c.index <+: c'.index ∧ ∀ n id, c.lookup n = some id → c'.lookup n = some id := by
  obtain ⟨more, owned⟩ := kept
  refine ⟨?_, ?_⟩
  · have names : c'.names = c.names ++ more.map (·.1) := by
      rw [Context.names, Context.names, ← owned, List.map_append]
    rw [indexed.index, indexed'.index, names, List.zipIdx_append]
    exact List.prefix_append _ _
  · intro n id found
    rw [indexed'.lookup_iff, ← owned]
    exact List.mem_append_left _ (indexed.lookup_iff.1 found)

theorem Lasts.keeps (lasts : Lasts c c') (indexed : Indexed c) :
    Indexed c' ∧ c.owned <+: c'.owned := by
  induction lasts with
  | refl => exact ⟨indexed, List.prefix_refl _⟩
  | next lasts happens running ih =>
      obtain ⟨before, kept⟩ := ih
      exact ⟨before.happens happens, kept.trans (prefix_of_happens happens running)⟩

/-- **The live graph and its index.**  In every state that is reached, and in every one that a
request passes through, they describe each other exactly.  Whatever happens short of a shutdown
leaves the entries there are as they are, so a name keeps denoting the same object until then. -/
theorem index_exact (reached : Reached document c) :
    Exact document c ∧
    (∀ keep name job c', Inside (.request keep name) c job c' →
      Exact document c' ∧ c.owned <+: c'.owned ∧ c.index <+: c'.index) ∧
    (∀ label c', Happens c label c' → label ≠ some .shutdown →
      c.owned <+: c'.owned ∧ c.index <+: c'.index) ∧
    ∀ c', Lasts c c' → ∀ n id, c.lookup n = some id → c'.lookup n = some id := by
  have indexed := reached.indexed
  refine ⟨reached.document_eq ▸ indexed.exact, ?_, ?_, ?_⟩
  · intro keep name job c' inside
    have grown := inside.goes.extended
    have indexed' := inside.goes.indexed indexed
    obtain ⟨more, owned, _⟩ := grown.owned
    have kept : c.owned <+: c'.owned := ⟨more, owned.symm⟩
    have same : c'.document = document := grown.document.trans reached.document_eq
    exact ⟨same ▸ indexed'.exact, kept, (indexed.keeps indexed' kept).1⟩
  · intro label c' happens running
    have kept := prefix_of_happens happens running
    exact ⟨kept, (indexed.keeps (indexed.happens happens) kept).1⟩
  · intro c' lasts
    obtain ⟨indexed', kept⟩ := lasts.keeps indexed
    exact (indexed.keeps indexed' kept).2

/-- An instance that refers to one whose hook fails. -/
def faltering : Document where
  instances := [
    { name := "a", className := some "oracle::Link",
      properties := [{ name := some "next", reference := some "b" }] },
    { name := "b", className := some "oracle::Fail",
      properties := [{ name := some "done-mode", text := some "state" }] }]

def faltered : Context Sample :=
  (build Sample.host .empty faltering {}).2.operateAll [.shutdown, .create "a"]

theorem index_exact_faltered :
    faltered.owned = [("a", 0), ("b", 1)] ∧ Exact faltering faltered := by
  let start := (build Sample.host .empty faltering {}).2
  have first : Happens start (some .shutdown) (start.operate .shutdown) := .called trivial
  have second : Happens (start.operate .shutdown) (some (.create "a")) faltered := .called trivial
  have reached : Reached faltering faltered :=
    ((Reached.built Heap.fresh_empty .empty {}).next first).next second
  exact ⟨by decide +kernel, (index_exact reached).1⟩

end Wiring.Context
