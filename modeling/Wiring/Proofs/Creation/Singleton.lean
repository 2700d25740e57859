/-
# Wiring.Proofs.Creation.Singleton -- when two requests for a name agree

A name is resolved by three rules in order: it is live, it is an alias of a live name,
or it leads to a name that has to be constructed.  Once a request has been answered
every later one is (`create_same_iff`), and `create` and `find` agree on the object.

It is the object of the first answer unless that came over an alias and the name has
become live by itself since.  Only a name declared both as an alias and as an instance
can do that, and only over a further alias that leads to it: an alias pointing at
another alias, which reaches the instance hidden behind that.  `ambiguous` is such a
document.
-/
import Wiring.Proofs.Context.Operations
import Wiring.Samples.Platform

namespace Wiring.Context

set_option autoImplicit false

open Wiring.Component
open Wiring.Config (Environment)

variable {σ : Type}

/-! ## Finding -/

/-- A look-up follows a name that is not live one step. -/
theorem find_eq (c : Context σ) (n : String) :
    c.find n =
      match c.lookup n with
      | some id => (some id, c.acquire id)
      | none =>
        match c.leadsTo n with
        | .error _ => (none, c.noted n)
        | .ok target =>
          match c.lookup target with
          | some id => (some id, (c.noted n).acquire id)
          | none => (none, c.noted n) := by
  unfold find
  cases found : c.lookup n with
  | some id => rfl
  | none =>
      rcases take_aliasTarget c n with ⟨e, expanded, leads⟩ | ⟨t, expanded, leads⟩
      · rw [leads, expanded]
      · rw [leads, expanded]
        by_cases plain : t.isEmpty
        · simp only [plain, if_true, found]
        · simp only [plain, if_false, Bool.false_eq_true]
          rfl

/-- A look-up goes by the name first and then by the name it leads to. -/
theorem find_eq_some_iff {c : Context σ} {n : String} {id : ObjectId} :
    (c.find n).1 = some id ↔ c.lookup n = some id ∨
      c.lookup n = none ∧ ∃ target, c.leadsTo n = .ok target ∧ c.lookup target = some id := by
  rw [find_eq]
  cases found : c.lookup n with
  | some live => simp
  | none =>
      cases leads : c.leadsTo n with
      | error e => simp
      | ok target => cases live : c.lookup target <;> simp [live]

variable [Lifecycle σ]

/-- A request for a name that finds an object is answered with it. -/
theorem Runs.answer_of_find {keep : Bool} {n : String} {c c' : Context σ} {id : ObjectId}
    {r : Except Error ObjectId} (runs : Runs (.request keep n) c r c')
    (found : (c.find n).1 = some id) : r = .ok id := by
  rcases find_eq_some_iff.1 found with live | ⟨missing, target, leads, live⟩
  · cases runs with
    | live found =>
        rw [live] at found
        cases found
        rfl
    | astray missing => simp [missing] at live
    | followed missing => simp [missing] at live
    | unfit wants | complete wants | undone wants | broken wants =>
        have := wants.missing
        simp [this] at live
  · cases runs with
    | live found => simp [missing] at found
    | astray _ leads' => simp [leads] at leads'
    | followed _ leads' found =>
        rw [leads] at leads'
        cases leads'
        rw [live] at found
        cases found
        rfl
    | unfit wants | complete wants | undone wants | broken wants =>
        have same := wants.leads
        rw [leads] at same
        cases same
        have := wants.absent
        simp [this] at live

/-- Once a name was answered with `x`, it finds what is live under that very name, and else `x`. -/
theorem find_of_answer {c c₁ later : Context σ} {n : String} {x : ObjectId}
    (run : Runs (.request true n) c (.ok x) c₁) (consistent : Consistent c)
    (grown : Grown c₁ later) : (later.find n).1 = some ((later.lookup n).getD x) := by
  have created := run.grows consistent
  cases hidden : later.lookup n with
  | some y => exact find_eq_some_iff.2 (.inl hidden)
  | none =>
      rcases run.answer consistent.toIndexed with live | ⟨missing, target, leads, live⟩
      · have := (created.trans grown).lookup consistent live
        simp [hidden] at this
      · have leads' : later.leadsTo n = .ok target := by
          rw [(created.trans grown).2.leadsTo, leads]
        exact find_eq_some_iff.2 (.inr ⟨hidden, target, leads', grown.lookup created.1 live⟩)

/-- **Later requests agree.**  Once a name was answered with `x`, and whatever is asked of the
context before its shutdown, `create` and `find` return one object for it.  That is `x` exactly if
the first answer did not come over an alias, or the name is still not live itself. -/
theorem create_same_iff {host : Host σ} {environment : Environment} {document : Document}
    {options : Options} {before between : List Operation} {n : String} {x : ObjectId}
    (first : (((build host environment document options).2.operateAll before).create n).1 = .ok x)
    (running : .shutdown ∉ between) :
    let c := (build host environment document options).2.operateAll before
    let later := c.operateAll (.create n :: between)
    ∃ y, (later.create n).1 = .ok y ∧ (later.find n).1 = some y ∧
      (y = x ↔ (c.lookup n).isSome ∨ c.leadsTo n = .ok n ∨ later.lookup n = none) ∧
      (y ≠ x → ∃ target other, c.leadsTo n = .ok target ∧ target ≠ n ∧
        c.leadsTo other = .ok n ∧ other ≠ n ∧ ∃ d, (c.view n).validated = .ok d) := by
  intro c later
  have consistent : Consistent c := consistent_operateAll (consistent_build _ _ _ _) before
  have created := grown_create consistent n
  have grown : Grown (c.create n).2 later := grown_operateAll created.1 running
  have whole : Grown c later := created.trans grown
  have run : Runs (.request true n) c (.ok x) (c.create n).2 := first ▸ runs_create c n
  have found := find_of_answer run consistent grown
  refine ⟨_, (runs_create later n).answer_of_find found, found, ?_⟩
  rcases run.answer consistent.toIndexed with live | ⟨missing, target, leads, live⟩
  · have still := whole.lookup consistent live
    simp [live, still]
  · have live : later.lookup target = some x := grown.lookup created.1 live
    cases hidden : later.lookup n with
    | none => simp
    | some y =>
        -- Two live names, and no object has two: the answers agree if the names do.
        have same_iff : y = x ↔ target = n := by
          constructor
          · rintro rfl
            exact whole.1.lookup_injective live hidden
          · rintro rfl
            rw [live] at hidden
            exact (Option.some.inj hidden).symm
        refine ⟨by simp [missing, leads, same_iff], ?_⟩
        intro other
        have apart : target ≠ n := fun same => other (same_iff.2 same)
        have member : n ∈ later.names := List.mem_map.2 ⟨_, whole.1.lookup_iff.1 hidden, rfl⟩
        obtain ⟨a, asked⟩ := whole.1.asked n member
        rw [whole.2.leadsTo] at asked
        have declared := whole.1.declared n member
        rw [whole.2.view] at declared
        refine ⟨target, a, leads, apart, asked, ?_, declared⟩
        rintro rfl
        rw [leads] at asked
        exact apart (Except.ok.inj asked)

/-! ## A name that changes its meaning -/

/-- A name declared as an alias and as an instance, and an alias that leads to it. -/
def ambiguous : Document where
  aliases := [⟨"a", "b"⟩, ⟨"c", "a"⟩]
  instances :=
    [{ name := "a", className := some "oracle::Link" },
      { name := "b", className := some "oracle::Link" }]

def puzzled : Context Sample := (build Sample.host .empty ambiguous {}).2

/-- Two requests for one name, with different answers. -/
theorem create_differs_ambiguous :
    (build Sample.host .empty ambiguous {}).1 = .ok () ∧
      (puzzled.create "a").1 = .ok 0 ∧
      ((puzzled.operateAll [.create "a", .create "c"]).create "a").1 = .ok 1 ∧
      ((puzzled.operateAll [.create "a", .create "c"]).find "a").1 = some 1 := by
  decide +kernel

theorem create_same_iff_ambiguous : ∃ y,
    ((puzzled.operateAll [.create "a", .create "c"]).create "a").1 = .ok y ∧
      (y = 0 ↔ (puzzled.lookup "a").isSome ∨ puzzled.leadsTo "a" = .ok "a" ∨
        (puzzled.operateAll [.create "a", .create "c"]).lookup "a" = none) := by
  have first : ((puzzled.operateAll []).create "a").1 = .ok 0 := by decide +kernel
  have running : .shutdown ∉ [Operation.create "c"] := by decide
  obtain ⟨y, created, _, same, _⟩ := create_same_iff first running
  exact ⟨y, created, same⟩

end Wiring.Context
