/-
# Wiring.Proofs.Context.Maps -- what becomes of the pairs of a map

Pairs are mapped if each one with a key has a text and no two keys are the same once expanded
(`Mapped`).  Otherwise there is a first pair that is at fault (`Decides`), and it alone decides: if
it has no text the entry is passed over, if its key is that of an earlier pair the creation fails.
In neither case is anything injected.

Pairs up to the first fault are collected as they are told by `entriesOf`
(`value_collectPairs_append`).  Main statement: `maps_exact`.
-/
import Wiring.Proofs.Config.Flattening
import Wiring.Proofs.Context.Lists
import Wiring.Proofs.Keyed

namespace Wiring.Context

set_option autoImplicit false

open Wiring.Component
open Wiring.Config (Environment)
open Wiring.Document (Pair Property)
open Wiring.Logging (Logged Record)

/-! ## Pairs -/

/-- The expanded keys of pairs, in order. -/
def keysOf (env : Environment) (pairs : List Pair) : List String :=
  pairs.filterMap fun q => q.key.map fun key => (env.expand key).value

/-- The expanded keys and texts of pairs that have both, in order. -/
def entriesOf (env : Environment) (pairs : List Pair) : Keyed String :=
  pairs.filterMap fun q => q.key.bind fun key => q.text.map fun text =>
    ((env.expand key).value, (env.expand text).value)

/-- Every pair with a key has a text, and no key is that of another pair once it is expanded. -/
structure Mapped (env : Environment) (pairs : List Pair) : Prop where
  texts : ∀ q ∈ pairs, q.key.isSome → q.text.isSome
  distinct : (keysOf env pairs).Nodup

instance (env : Environment) (pairs : List Pair) : Decidable (Mapped env pairs) :=
  decidable_of_iff ((∀ q ∈ pairs, q.key.isSome → q.text.isSome) ∧ (keysOf env pairs).Nodup)
    ⟨fun ⟨texts, distinct⟩ => ⟨texts, distinct⟩, fun mapped => ⟨mapped.texts, mapped.distinct⟩⟩

/-- The first pair at fault: it has a key, but no text, or the key of an earlier pair. -/
structure Decides (env : Environment) (pairs before : List Pair) (q : Pair) (key : String) :
    Prop where
  split : ∃ after, pairs = before ++ q :: after
  mapped : Mapped env before
  keyed : q.key = some key
  fault : q.text = none ∨ (env.expand key).value ∈ keysOf env before

section

variable {env : Environment} {pairs before rest : List Pair} {q : Pair} {key text : String}

theorem mem_entriesOf {k v : String} : (k, v) ∈ entriesOf env pairs ↔
    ∃ q ∈ pairs, ∃ key text, q.key = some key ∧ q.text = some text ∧
      (env.expand key).value = k ∧ (env.expand text).value = v := by
  simp [entriesOf, List.mem_filterMap, Option.bind_eq_some_iff, Option.map_eq_some_iff]

theorem keysOf_append (before rest : List Pair) :
    keysOf env (before ++ rest) = keysOf env before ++ keysOf env rest := List.filterMap_append

theorem keysOf_cons (keyed : q.key = some key) (rest : List Pair) :
    keysOf env (q :: rest) = (env.expand key).value :: keysOf env rest := by
  rw [keysOf, List.filterMap_cons, keyed]
  rfl

theorem keysOf_cons_of_none (keyless : q.key = none) (rest : List Pair) :
    keysOf env (q :: rest) = keysOf env rest := by
  rw [keysOf, List.filterMap_cons, keyless]
  rfl

theorem entriesOf_cons (keyed : q.key = some key) (texted : q.text = some text)
    (rest : List Pair) : entriesOf env (q :: rest) =
      ((env.expand key).value, (env.expand text).value) :: entriesOf env rest := by
  rw [entriesOf, List.filterMap_cons, keyed, texted]
  rfl

theorem entriesOf_cons_of_none (keyless : q.key = none) (rest : List Pair) :
    entriesOf env (q :: rest) = entriesOf env rest := by
  rw [entriesOf, List.filterMap_cons, keyless]
  rfl

theorem keys_entriesOf (texts : ∀ q ∈ pairs, q.key.isSome → q.text.isSome) :
    (entriesOf env pairs).map (·.1) = keysOf env pairs := by
  induction pairs with
  | nil => rfl
  | cons q pairs ih =>
    have others := ih fun r mem => texts r (List.mem_cons_of_mem q mem)
    cases keyed : q.key with
    | none => rw [entriesOf_cons_of_none keyed, keysOf_cons_of_none keyed, others]
    | some key =>
      have there := texts q List.mem_cons_self (by rw [keyed]; rfl)
      obtain ⟨text, texted⟩ := Option.isSome_iff_exists.1 there
      rw [entriesOf_cons keyed texted, keysOf_cons keyed, List.map_cons, others]

/-- **All pairs are mapped, or there is a first one at fault.** -/
theorem mapped_or_decides (env : Environment) (pairs : List Pair) :
    Mapped env pairs ∨ ∃ before q key, Decides env pairs before q key := by
  induction pairs using List.reverseRecOn with
  | nil => exact .inl ⟨by simp, List.nodup_nil⟩
  | append_singleton pairs q ih =>
    rcases ih with mapped | ⟨before, r, key, ⟨after, rfl⟩, mapped, keyed, fault⟩
    · cases keyed : q.key with
      | none =>
        refine .inl ⟨fun r mem some => ?_, ?_⟩
        · rcases List.mem_append.1 mem with old | new
          · exact mapped.texts r old some
          · rw [List.mem_singleton.1 new, keyed] at some
            cases some
        · rw [keysOf_append, keysOf_cons_of_none keyed]
          exact (List.append_nil (keysOf env pairs)).symm ▸ mapped.distinct
      | some key =>
        by_cases fault : q.text = none ∨ (env.expand key).value ∈ keysOf env pairs
        · exact .inr ⟨pairs, q, key, ⟨[], rfl⟩, mapped, keyed, fault⟩
        · rw [not_or] at fault
          refine .inl ⟨fun r mem some => ?_, ?_⟩
          · rcases List.mem_append.1 mem with old | new
            · exact mapped.texts r old some
            · rw [List.mem_singleton.1 new]
              exact Option.isSome_iff_ne_none.2 fault.1
          · rw [keysOf_append, keysOf_cons keyed]
            exact mapped.distinct.append (List.nodup_singleton _)
              (List.disjoint_singleton.2 fault.2)
    · exact .inr ⟨before, r, key, ⟨after ++ [q], by simp⟩, mapped, keyed, fault⟩

/-! ## Collecting -/

def repeatedKey (owner property key : String) : Error :=
  .wrongInput s!"duplicate map key {key} for {property} when injecting into {owner}"

variable {owner property : String}

theorem value_collectPairs_keyless (keyless : q.key = none) (n : Nat) (entries : Keyed String) :
    (collectPairs env owner property n entries (q :: rest)).value =
      (collectPairs env owner property (n + 1) entries rest).value := by
  rw [collectPairs, keyless]
  rfl

theorem value_collectPairs_textless (keyed : q.key = some key) (textless : q.text = none) (n : Nat)
    (entries : Keyed String) :
    (collectPairs env owner property n entries (q :: rest)).value = .abandoned := by
  rw [collectPairs, keyed, textless]
  rfl

theorem value_collectPairs_repeated (keyed : q.key = some key) (texted : q.text = some text)
    (n : Nat) {entries : Keyed String} (there : (env.expand key).value ∈ entries.map (·.1)) :
    (collectPairs env owner property n entries (q :: rest)).value =
      .failed (repeatedKey owner property (env.expand key).value) := by
  have found : (entries.lookup (env.expand key).value).isSome = true :=
    Keyed.isSome_lookup_iff.2 there
  rw [collectPairs, keyed, texted]
  simp only [Logging.Logged.value_bind, found, if_true]
  rfl

theorem value_collectPairs_new (keyed : q.key = some key) (texted : q.text = some text)
    (n : Nat) {entries : Keyed String} (new : (env.expand key).value ∉ entries.map (·.1)) :
    (collectPairs env owner property n entries (q :: rest)).value =
      (collectPairs env owner property (n + 1)
        (entries ++ [((env.expand key).value, (env.expand text).value)]) rest).value := by
  have absent : (entries.lookup (env.expand key).value).isSome = false := by
    rw [← Bool.not_eq_true, Keyed.isSome_lookup_iff]
    exact new
  rw [collectPairs, keyed, texted]
  simp only [Logging.Logged.value_bind, absent, Bool.false_eq_true, if_false,
    Keyed.put_of_notMem new]

/-- **Pairs without a fault are collected**, whatever comes after them. -/
theorem value_collectPairs_append (owner property : String) (rest : List Pair)
    (texts : ∀ q ∈ before, q.key.isSome → q.text.isSome) (n : Nat) (entries : Keyed String)
    (distinct : (entries.map (·.1) ++ keysOf env before).Nodup) :
    ∃ m, (collectPairs env owner property n entries (before ++ rest)).value =
      (collectPairs env owner property m (entries ++ entriesOf env before) rest).value := by
  induction before generalizing n entries with
  | nil => exact ⟨n, by rw [entriesOf, List.filterMap_nil, List.append_nil, List.nil_append]⟩
  | cons q before ih =>
    have others : ∀ r ∈ before, r.key.isSome → r.text.isSome :=
      fun r mem => texts r (List.mem_cons_of_mem q mem)
    cases keyed : q.key with
    | none =>
      rw [keysOf_cons_of_none keyed] at distinct
      rw [List.cons_append, value_collectPairs_keyless keyed, entriesOf_cons_of_none keyed]
      exact ih others (n + 1) entries distinct
    | some key =>
      have there := texts q List.mem_cons_self (by rw [keyed]; rfl)
      obtain ⟨text, texted⟩ := Option.isSome_iff_exists.1 there
      rw [keysOf_cons keyed, List.append_cons] at distinct
      have new : (env.expand key).value ∉ entries.map (·.1) := by
        have front := (List.nodup_append.1 distinct).1
        exact fun mem => (List.nodup_append.1 front).2.2 _ mem _ (List.mem_singleton_self _) rfl
      obtain ⟨m, collected⟩ := ih others (n + 1)
        (entries ++ [((env.expand key).value, (env.expand text).value)])
        (by rw [List.map_append]; exact distinct)
      refine ⟨m, ?_⟩
      rw [List.cons_append, value_collectPairs_new keyed texted n new, collected,
        entriesOf_cons keyed texted, List.append_assoc, List.singleton_append]

theorem value_collectPairs_mapped (mapped : Mapped env pairs) :
    (collectPairs env owner property 1 [] pairs).value = .complete (entriesOf env pairs) := by
  obtain ⟨m, collected⟩ := value_collectPairs_append owner property [] mapped.texts 1 []
    mapped.distinct
  rw [List.append_nil] at collected
  rw [collected, collectPairs]
  rfl

/-- The first pair at fault decides. -/
theorem value_collectPairs_decided (decides : Decides env pairs before q key) :
    (collectPairs env owner property 1 [] pairs).value =
      if q.text = none then .abandoned
      else .failed (repeatedKey owner property (env.expand key).value) := by
  obtain ⟨⟨after, rfl⟩, mapped, keyed, fault⟩ := decides
  obtain ⟨m, collected⟩ := value_collectPairs_append owner property (q :: after) mapped.texts 1 []
    mapped.distinct
  rw [collected, List.nil_append]
  cases texted : q.text with
  | none => exact value_collectPairs_textless keyed texted m _
  | some text =>
    rw [if_neg (by simp)]
    refine value_collectPairs_repeated keyed texted m ?_
    rw [keys_entriesOf mapped.texts]
    exact fault.resolve_left (by simp [texted])

/-! ## Sorting -/

theorem mem_sortEntries {entries : Keyed String} {e : String × String} :
    e ∈ sortEntries entries ↔ e ∈ entries := List.mem_mergeSort

/-- Entries with keys of their own are sorted strictly. -/
theorem pairwise_sortEntries {entries : Keyed String} (distinct : (entries.map (·.1)).Nodup) :
    (sortEntries entries).Pairwise fun a b => a.1 < b.1 := by
  have keys : (sortEntries entries).map (·.1) = Config.sortTexts (entries.map (·.1)) :=
    List.map_mergeSort fun _ _ _ _ => rfl
  rw [← List.pairwise_map (f := fun e : String × String => e.1), keys]
  exact Config.pairwise_sortTexts distinct

end

/-! ## Properties -/

variable {σ : Type} [Lifecycle σ]

def reported (c : Context σ) (rs : List Record) : Context σ := { c with host := c.host.record rs }

omit [Lifecycle σ] in
theorem reported_reported (c : Context σ) (rs more : List Record) :
    (c.reported rs).reported more = c.reported (rs ++ more) := by
  unfold reported Host.record Host.enter
  rw [List.map_append, List.append_assoc]

omit [Lifecycle σ] in
theorem exists_log_reported (c : Context σ) (rs : List Record) (l : Logging.Level) (m : String) :
    ∃ more, (c.reported rs).log l m = c.reported (rs ++ more) :=
  ⟨[_], reported_reported c rs [_]⟩

variable {make : Maker σ} {c c₁ : Context σ} {owner name : String} {id : ObjectId} {p : Property}

/-- Pairs are the value of a property that has no other. -/
theorem injectProperty_pairs (make : Maker σ) (c : Context σ) (owner name : String) (id : ObjectId)
    (unvalued : Unvalued p) (list : p.list = none) (pairs : p.pairs ≠ []) :
    injectProperty make c owner id p name =
      some (match (collectPairs c.environment owner name 1 [] p.pairs).value with
        | .complete entries => (c.reported (collectPairs c.environment owner name 1 []
            p.pairs).records).inject id name (.map (sortEntries entries))
        | .abandoned => (c.reported (collectPairs c.environment owner name 1 []
            p.pairs).records).skipMalformed owner name
        | .failed e => (.error e,
            c.reported (collectPairs c.environment owner name 1 [] p.pairs).records)) := by
  have nonempty : p.pairs.isEmpty = false := by simpa using pairs
  simp only [injectProperty, unvalued.reference, injectPlain, unvalued.number, unvalued.text,
    unvalued.time, list, nonempty, Bool.false_eq_true, if_false]
  rw [show c.take (collectPairs c.environment owner name 1 [] p.pairs) =
    ((collectPairs c.environment owner name 1 [] p.pairs).value,
      c.reported (collectPairs c.environment owner name 1 [] p.pairs).records) from rfl]
  cases (collectPairs c.environment owner name 1 [] p.pairs).value <;> rfl

theorem injectAll_cons_of_none (nameless : p.name = none) (rest : List Property) :
    injectAll make owner id (p :: rest) c = injectAll make owner id rest
      (c.log .warn s!"Missing name for {p.change.word} entry of '{owner}'") := by
  rw [injectAll, nameless]

theorem injectAll_cons_of_ok (named : p.name = some name)
    (injected : injectProperty make c owner id p name = some (.ok (), c₁)) (rest : List Property) :
    injectAll make owner id (p :: rest) c = injectAll make owner id rest c₁ := by
  rw [injectAll, named]
  simp only [injected, Option.bind_eq_bind, Option.bind_some]

theorem injectAll_cons_of_error {e : Error} (named : p.name = some name)
    (injected : injectProperty make c owner id p name = some (.error e, c₁))
    (rest : List Property) : injectAll make owner id (p :: rest) c =
      some (.error e, c₁.log .error s!"Failed to inject {name} for '{owner}': {e.message}") := by
  rw [injectAll, named]
  simp only [injected, Option.bind_eq_bind, Option.bind_some]
  rfl

theorem injectAll_append {front : List Property}
    (done : injectAll make owner id front c = some (.ok (), c₁)) (rest : List Property) :
    injectAll make owner id (front ++ rest) c = injectAll make owner id rest c₁ := by
  induction front generalizing c with
  | nil =>
    cases done
    rfl
  | cons q front ih =>
    rw [List.cons_append]
    cases named : q.name with
    | none =>
      rw [injectAll_cons_of_none named] at done ⊢
      exact ih done
    | some n =>
      cases injected : injectProperty make c owner id q n with
      | none =>
        rw [injectAll, named] at done
        simp [injected] at done
      | some step =>
        obtain ⟨result, after⟩ := step
        cases result with
        | ok u =>
          rw [injectAll_cons_of_ok named injected] at done ⊢
          exact ih done
        | error e =>
          rw [injectAll_cons_of_error named injected] at done
          cases done

/-- An instance whose entries cannot all be injected is not created. -/
theorem finish_of_error {e : Error} {c₀ : Context σ}
    (filled : injectAll make owner id (c₀.view owner).properties.value
      (c₀.take (c₀.view owner).properties).2 = some (.error e, c₁)) :
    finish make c₀ owner id = some (.error e, c₁.release id) := by
  have taken : c₀.take (c₀.view owner).properties =
      ((c₀.view owner).properties.value, (c₀.take (c₀.view owner).properties).2) := rfl
  unfold finish complete
  rw [taken]
  simp only [filled, Option.bind_eq_bind, Option.bind_some]
  rfl

/-- **Maps are injected whole or not at all.**  For an entry whose value is its pairs:

* either all pairs are mapped, or there is a first one at fault;
* if all are mapped, nothing happens but log records and one injection of a map, which has exactly
  the expanded pairs that have a key, sorted by it;
* a first fault that is a missing text leads to log records and nothing else, and the entries behind
  this one come next;
* any other first fault leads to log records and a wrong input, whatever entries come behind this
  one, and the instance that they are for is not created. -/
theorem maps_exact (unvalued : Unvalued p) (list : p.list = none) (pairs : p.pairs ≠ [])
    (make : Maker σ) (c : Context σ) (owner name : String) (id : ObjectId) :
    (Mapped c.environment p.pairs ∨ ∃ before q key, Decides c.environment p.pairs before q key) ∧
    (Mapped c.environment p.pairs → ∃ rs entries,
      entries.Pairwise (fun a b : String × String => a.1 < b.1) ∧
      (∀ k v, (k, v) ∈ entries ↔ ∃ q ∈ p.pairs, ∃ key text, q.key = some key ∧ q.text = some text ∧
        (c.environment.expand key).value = k ∧ (c.environment.expand text).value = v) ∧
      injectProperty make c owner id p name =
        some ((c.reported rs).inject id name (.map entries))) ∧
    (∀ before q key, Decides c.environment p.pairs before q key → q.text = none →
      ∃ rs, injectProperty make c owner id p name = some (.ok (), c.reported rs) ∧
        (p.name = some name → ∀ rest,
          injectAll make owner id (p :: rest) c = injectAll make owner id rest (c.reported rs))) ∧
    ∀ before q key, Decides c.environment p.pairs before q key → q.text ≠ none →
      ∃ rs e, e.kind = .wrongInput ∧
        injectProperty make c owner id p name = some (.error e, c.reported rs) ∧
        (p.name = some name → ∀ c₀ front rest,
          (c₀.view owner).properties.value = front ++ p :: rest →
          injectAll make owner id front (c₀.take (c₀.view owner).properties).2 =
            some (.ok (), c) →
          ∃ more, finish make c₀ owner id =
            some (.error e, (c.reported (rs ++ more)).release id)) := by
  have value := injectProperty_pairs make c owner name id unvalued list pairs
  refine ⟨mapped_or_decides _ _, fun mapped => ?_, fun before q key decides textless => ?_,
    fun before q key decides texted => ?_⟩
  · have distinct := (keys_entriesOf mapped.texts).symm ▸ mapped.distinct
    refine ⟨(collectPairs c.environment owner name 1 [] p.pairs).records,
      sortEntries (entriesOf c.environment p.pairs), pairwise_sortEntries distinct,
      fun k v => mem_sortEntries.trans mem_entriesOf, ?_⟩
    rw [value, value_collectPairs_mapped mapped]
  · rw [value_collectPairs_decided decides, if_pos textless] at value
    obtain ⟨more, logged⟩ := exists_log_reported c
      (collectPairs c.environment owner name 1 [] p.pairs).records .error
      s!"Malformed configuration entry {name} for '{owner}'"
    have skipped : injectProperty make c owner id p name = some (.ok (), c.reported
        ((collectPairs c.environment owner name 1 [] p.pairs).records ++ more)) := by
      rw [value, ← logged]
      rfl
    exact ⟨_, skipped, fun named => injectAll_cons_of_ok named skipped⟩
  · rw [value_collectPairs_decided decides, if_neg texted] at value
    refine ⟨_, _, rfl, value, fun named c₀ front rest split done => ?_⟩
    have filled := (injectAll_append done (p :: rest)).trans
      (injectAll_cons_of_error named value rest)
    rw [← split] at filled
    obtain ⟨more, logged⟩ := exists_log_reported c
      (collectPairs c.environment owner name 1 [] p.pairs).records .error _
    exact ⟨more, (finish_of_error filled).trans (by rw [logged])⟩

def mapEntry (pairs : List Pair) : Property := { name := some "map", pairs := pairs }

/-- Pairs without a fault: one has no key, and the key of another is a placeholder. -/
def sound : List Pair := [⟨some "b", some "1"⟩, ⟨none, none⟩, ⟨some "$\x7bname\x7d", some "2"⟩]

/-- Pairs of which the second has no text, and the third has the key of the first. -/
def textless : List Pair := [⟨some "b", some "1"⟩, ⟨some "c", none⟩, ⟨some "b", some "3"⟩]

/-- Pairs of which the second has the key of the first once it is expanded, and the third has no
text. -/
def repeated : List Pair :=
  [⟨some "a", some "1"⟩, ⟨some "$\x7bname\x7d", some "2"⟩, ⟨some "c", none⟩]

/-- A context with a placeholder for a key, and an instance with these pairs. -/
def aliased (pairs : List Pair) : Context Sample where
  host := Sample.host
  document := { instances := [⟨"x", some "oracle::Probe", none, .onDemand, [mapEntry pairs]⟩] }
  environment := { sources := [], constants := [("name", .text "a")] }

theorem maps_exact_aliased :
    (∃ rs entries, ("a", "2") ∈ entries ∧ ("b", "1") ∈ entries ∧
      injectProperty (fun _ _ => none) (aliased sound) "x" 0 (mapEntry sound) "map" =
        some (((aliased sound).reported rs).inject 0 "map" (.map entries))) ∧
    (∃ rs, injectProperty (fun _ _ => none) (aliased textless) "x" 0 (mapEntry textless) "map" =
      some (.ok (), (aliased textless).reported rs)) ∧
    ∃ rs e, e.kind = .wrongInput ∧ finish (fun _ _ => none) (aliased repeated) "x" 0 =
      some (.error e, ((aliased repeated).reported rs).release 0) := by
  have unvalued : ∀ pairs, Unvalued (mapEntry pairs) := fun _ => ⟨rfl, rfl, rfl, rfl⟩
  have whole : Mapped (aliased sound).environment sound := by decide +kernel
  have lacking : Decides (aliased textless).environment textless [⟨some "b", some "1"⟩]
      ⟨some "c", none⟩ "c" := ⟨⟨_, rfl⟩, by decide +kernel, rfl, .inl rfl⟩
  have again : Decides (aliased repeated).environment repeated [⟨some "a", some "1"⟩]
      ⟨some "$\x7bname\x7d", some "2"⟩ "$\x7bname\x7d" :=
    ⟨⟨_, rfl⟩, by decide +kernel, rfl, .inr (by decide +kernel)⟩
  refine ⟨?_, ?_, ?_⟩
  · obtain ⟨-, all, -⟩ := maps_exact (unvalued sound) rfl (by decide) (fun _ _ => none)
      (aliased sound) "x" "map" 0
    obtain ⟨rs, entries, -, exactly, injected⟩ := all whole
    refine ⟨rs, entries, (exactly _ _).2 ?_, (exactly _ _).2 ?_, injected⟩
    · exact ⟨⟨some "$\x7bname\x7d", some "2"⟩, by decide, _, _, rfl, rfl, by decide +kernel,
        by decide +kernel⟩
    · exact ⟨⟨some "b", some "1"⟩, by decide, _, _, rfl, rfl, by decide +kernel,
        by decide +kernel⟩
  · obtain ⟨-, -, skipped, -⟩ := maps_exact (unvalued textless) rfl (by decide) (fun _ _ => none)
      (aliased textless) "x" "map" 0
    obtain ⟨rs, done, -⟩ := skipped _ _ _ lacking rfl
    exact ⟨rs, done⟩
  · let read := (aliased repeated).take ((aliased repeated).view "x").properties
    obtain ⟨-, -, -, failed⟩ := maps_exact (unvalued repeated) rfl (by decide) (fun _ _ => none)
      read.2 "x" "map" 0
    obtain ⟨rs, e, wrong, -, ends⟩ := failed _ _ _ again (by decide)
    obtain ⟨more, finished⟩ := ends rfl (aliased repeated) [] [] (by decide +kernel) rfl
    have same := reported_reported (aliased repeated)
      ((aliased repeated).view "x").properties.records (rs ++ more)
    exact ⟨_, e, wrong, same ▸ finished⟩

end Wiring.Context
