/-
# Wiring.Proofs.Config.Priority -- what a key is after any history of an environment

Sources are added, and constants published and cleared, in any order (`Change`).  A
source is put behind all sources whose priority is not lower, so the list stays sorted
by priority (`descends_ranked`), and the first source in it that has a key is the
`Foremost` of all that were added: none has the key with a higher priority, and none
added before it with the same.

Hence a key is the constant last published under it since the constants were last
cleared, or else what the foremost source has (`get?_changeAll`).  Where no two sources
have the same priority, the order they were added in makes no difference.
-/
import Wiring.Config.Environment
import Mathlib.Data.List.Induction
import Mathlib.Data.List.Nodup

namespace Wiring.Config.Environment

set_option autoImplicit false

/-! ## Histories -/

inductive Change where
  | add (s : Source)
  | publish (name : String) (value : Value)
  | clear

def change (env : Environment) : Change → Environment
  | .add s => env.addSource s
  | .publish name value => env.publish name value
  | .clear => env.clearConstants

def changeAll (env : Environment) (changes : List Change) : Environment := changes.foldl change env

def Change.source? : Change → Option Source
  | .add s => some s
  | _ => none

def added (changes : List Change) : List Source := changes.filterMap Change.source?

/-- The changes of a history to the constants, in order. -/
def overlays (changes : List Change) : List Change := changes.filter (·.source?.isNone)

/-- A value is the last that was published under a key, and the constants were not cleared since. -/
def Published (changes : List Change) (key : String) (v : Value) : Prop :=
  ∃ before after, changes = before ++ .publish key v :: after ∧
    .clear ∉ after ∧ ∀ w, .publish key w ∉ after

def defines (key : String) (s : Source) : Bool := (s.get? key).isSome

/-- Of the sources that have a key this one has the highest priority, and is the first that has
it. -/
def Foremost (sources : List Source) (key : String) (s : Source) : Prop :=
  ∃ before after, sources = before ++ s :: after ∧ defines key s ∧
    (∀ t ∈ before, defines key t → t.priority < s.priority) ∧
    ∀ t ∈ after, defines key t → t.priority ≤ s.priority

variable {changes : List Change} {sources l : List Source} {key : String} {s t new : Source}

theorem changeAll_concat (env : Environment) (changes : List Change) (last : Change) :
    env.changeAll (changes ++ [last]) = (env.changeAll changes).change last :=
  List.foldl_append ..

/-- What a list with a last element is split at is that element, or one before it. -/
theorem split_concat {α : Type} {xs before after : List α} {x y : α}
    (split : xs ++ [x] = before ++ y :: after) :
    (before = xs ∧ y = x ∧ after = []) ∨
      ∃ rest, after = rest ++ [x] ∧ xs = before ++ y :: rest := by
  rcases List.eq_nil_or_concat after with rfl | ⟨rest, last, rfl⟩
  · obtain ⟨rfl, same⟩ := List.append_inj' split rfl
    exact .inl ⟨rfl, (List.singleton_inj.1 same).symm, rfl⟩
  · have split : xs ++ [x] = (before ++ y :: rest) ++ [last] := by simpa using split
    obtain ⟨rfl, same⟩ := List.append_inj' split rfl
    exact .inr ⟨rest, by rw [List.singleton_inj.1 same, List.concat_eq_append], rfl⟩

/-! ## Constants -/

theorem published_concat {last : Change} {v : Value} :
    Published (changes ++ [last]) key v ↔
      last = .publish key v ∨
        last ≠ .clear ∧ (∀ w, last ≠ .publish key w) ∧ Published changes key v := by
  constructor
  · rintro ⟨before, after, split, kept, newest⟩
    rcases split_concat split with ⟨_, same, _⟩ | ⟨rest, rfl, rfl⟩
    · exact .inl same.symm
    · simp only [List.mem_append, List.mem_singleton, not_or] at kept newest
      exact .inr ⟨Ne.symm kept.2, fun w => Ne.symm (newest w).2, before, rest, rfl, kept.1,
        fun w => (newest w).1⟩
  · rintro (rfl | ⟨kept, newest, before, after, rfl, kept', newest'⟩)
    · exact ⟨changes, [], rfl, List.not_mem_nil, fun _ => List.not_mem_nil⟩
    · refine ⟨before, after ++ [last], by simp, ?_, fun w => ?_⟩
      · simpa [kept'] using Ne.symm kept
      · simpa [newest' w] using Ne.symm (newest w)

/-- **The constants are those published last and not cleared since.** -/
theorem lookup_constants_changeAll {v : Value} :
    (empty.changeAll changes).constants.lookup key = some v ↔ Published changes key v := by
  induction changes using List.reverseRecOn with
  | nil => simp [changeAll, empty, Published]
  | append_singleton changes last ih =>
      rw [changeAll_concat, published_concat]
      cases last with
      | add s => simpa [change, addSource] using ih
      | clear => simp [change, clearConstants]
      | publish name value =>
          show (Keyed.put _ name value).lookup key = some v ↔ _
          by_cases same : key = name
          · subst same
            simp [Keyed.lookup_put_self]
          · rw [Keyed.lookup_put_of_ne same, ih]
            simp [Ne.symm same]

/-- Adding sources leaves the constants as they are. -/
theorem constants_changeAll (changes : List Change) :
    (empty.changeAll changes).constants = (empty.changeAll (overlays changes)).constants := by
  induction changes using List.reverseRecOn with
  | nil => rfl
  | append_singleton changes last ih =>
      rw [changeAll_concat, overlays, List.filter_append]
      cases last with
      | add s =>
          show (empty.changeAll changes).constants = _
          rw [ih, show [Change.add s].filter (·.source?.isNone) = [] from rfl, List.append_nil]
          rfl
      | publish name value =>
          show Keyed.put _ name value =
            (empty.changeAll (overlays changes ++ [.publish name value])).constants
          rw [ih, changeAll_concat]
          rfl
      | clear =>
          show [] = (empty.changeAll (overlays changes ++ [.clear])).constants
          rw [changeAll_concat]
          rfl

/-! ## Sources -/

/-- Sources in the order in which they are asked. -/
def ranked (sources : List Source) : List Source := sources.foldl (fun l s => insertSource s l) []

theorem ranked_concat (sources : List Source) (last : Source) :
    ranked (sources ++ [last]) = insertSource last (ranked sources) := List.foldl_append ..

theorem sources_changeAll (changes : List Change) :
    (empty.changeAll changes).sources = ranked (added changes) := by
  induction changes using List.reverseRecOn with
  | nil => rfl
  | append_singleton changes last ih =>
      rw [changeAll_concat, added, List.filterMap_append]
      cases last with
      | add s =>
          show insertSource s _ = ranked (added changes ++ [s])
          rw [ih, ranked_concat]
      | publish name value =>
          show (empty.changeAll changes).sources = ranked (added changes ++ [])
          rw [ih, List.append_nil]
      | clear =>
          show (empty.changeAll changes).sources = ranked (added changes ++ [])
          rw [ih, List.append_nil]

theorem insertSource_perm (new : Source) (l : List Source) :
    (insertSource new l).Perm (new :: l) := by
  induction l with
  | nil => exact .refl _
  | cons s rest ih =>
      unfold insertSource
      split
      · exact .refl _
      · exact (ih.cons s).trans (.swap new s rest)

theorem ranked_perm (sources : List Source) : (ranked sources).Perm sources := by
  induction sources using List.reverseRecOn with
  | nil => exact .refl _
  | append_singleton sources last ih =>
      rw [ranked_concat]
      exact ((insertSource_perm last _).trans (ih.cons last)).trans
        (List.perm_append_singleton last sources).symm

def Descends (l : List Source) : Prop := l.Pairwise fun s t => t.priority ≤ s.priority

/-- Adding a source keeps the list sorted. -/
theorem Descends.insertSource (descends : Descends l) (new : Source) :
    Descends (insertSource new l) := by
  induction l with
  | nil => exact List.pairwise_singleton ..
  | cons s rest ih =>
      obtain ⟨first, later⟩ := List.pairwise_cons.1 descends
      unfold Environment.insertSource
      split
      · next below =>
        refine List.pairwise_cons.2 ⟨fun t member => ?_, descends⟩
        rcases List.mem_cons.1 member with rfl | member
        · exact Int.le_of_lt below
        · exact Int.le_trans (first t member) (Int.le_of_lt below)
      · next above =>
        refine List.pairwise_cons.2 ⟨fun t member => ?_, ih later⟩
        rcases List.mem_cons.1 ((insertSource_perm new rest).mem_iff.1 member) with rfl | member
        · exact Int.not_lt.1 above
        · exact first t member

/-- **However sources are added, they are asked by falling priority.** -/
theorem descends_ranked (sources : List Source) : Descends (ranked sources) := by
  induction sources using List.reverseRecOn with
  | nil => exact .nil
  | append_singleton sources last ih =>
      rw [ranked_concat]
      exact ih.insertSource last

/-- A source that is put into a sorted list is found first if all that would have been found have
lower priorities. -/
theorem find?_insertSource {p : Source → Bool} (descends : Descends l)
    (found : (insertSource new l).find? p = some s) :
    (s = new ∧ p new ∧ ∀ t, l.find? p = some t → t.priority < new.priority) ∨
      l.find? p = some s ∧ (p new → new.priority ≤ s.priority) := by
  induction l with
  | nil =>
      rw [insertSource, List.find?_singleton] at found
      obtain ⟨has, same⟩ := Option.ite_none_right_eq_some.1 found
      cases same
      exact .inl ⟨rfl, has, by simp⟩
  | cons a rest ih =>
      obtain ⟨first, later⟩ := List.pairwise_cons.1 descends
      unfold insertSource at found
      split at found
      · next below =>
        rw [List.find?_cons] at found
        split at found
        · next has =>
          cases found
          refine .inl ⟨rfl, has, fun t there => ?_⟩
          rcases List.mem_cons.1 (List.mem_of_find?_eq_some there) with rfl | member
          · exact below
          · exact Int.lt_of_le_of_lt (first t member) below
        · next lacks => exact .inr ⟨found, by simp [lacks]⟩
      · next above =>
        rw [List.find?_cons] at found ⊢
        split at found
        · cases found
          exact .inr ⟨rfl, fun _ => Int.not_lt.1 above⟩
        · exact ih later found

namespace Foremost

theorem mem (foremost : Foremost sources key s) : s ∈ sources := by
  obtain ⟨before, after, rfl, _⟩ := foremost
  simp

/-- No source that has the key has a higher priority. -/
theorem le (foremost : Foremost sources key s) (member : t ∈ sources) (has : defines key t) :
    t.priority ≤ s.priority := by
  obtain ⟨before, after, rfl, _, earlier, later⟩ := foremost
  rcases List.mem_append.1 member with member | member
  · exact Int.le_of_lt (earlier t member has)
  · rcases List.mem_cons.1 member with rfl | member
    · exact Int.le_refl _
    · exact later t member has

/-- A source that has the key, and a higher priority than all before it that have the key. -/
theorem of_last (has : defines key new)
    (lower : ∀ t ∈ sources, defines key t → t.priority < new.priority) :
    Foremost (sources ++ [new]) key new :=
  ⟨sources, [], rfl, has, lower, by simp⟩

/-- A source that is added later and has no higher priority makes no difference. -/
theorem concat (foremost : Foremost sources key s)
    (lower : defines key new → new.priority ≤ s.priority) : Foremost (sources ++ [new]) key s := by
  obtain ⟨before, after, rfl, has, earlier, later⟩ := foremost
  refine ⟨before, after ++ [new], by simp, has, earlier, fun t member has => ?_⟩
  rcases List.mem_append.1 member with member | member
  · exact later t member has
  · rw [List.mem_singleton.1 member] at has ⊢
    exact lower has

/-- There is only one such source. -/
theorem unique (first : Foremost sources key s) (second : Foremost sources key t) : s = t := by
  obtain ⟨before, after, rfl, has, earlier, later⟩ := first
  obtain ⟨before', after', split, has', earlier', later'⟩ := second
  have apart {low high : Source} (lt : low.priority < high.priority)
      (le : high.priority ≤ low.priority) : s = t := absurd le (Int.not_le.2 lt)
  rcases List.append_eq_append_iff.1 split with ⟨more, rfl, there⟩ | ⟨more, rfl, there⟩
  · cases more with
    | nil => exact (List.cons.inj there).1
    | cons x more =>
        obtain ⟨rfl, rfl⟩ := List.cons.inj there
        exact apart (earlier' s (by simp) has) (later t (by simp) has')
  · cases more with
    | nil => exact (List.cons.inj there).1.symm
    | cons x more =>
        obtain ⟨rfl, rfl⟩ := List.cons.inj there
        exact apart (earlier t (by simp) has') (later' s (by simp) has)

end Foremost

theorem foremost_of_find? (found : (ranked sources).find? (defines key) = some s) :
    Foremost sources key s := by
  induction sources using List.reverseRecOn generalizing s with
  | nil => cases found
  | append_singleton sources last ih =>
      rw [ranked_concat] at found
      rcases find?_insertSource (descends_ranked sources) found with
        ⟨rfl, has, lower⟩ | ⟨there, lower⟩
      · refine .of_last has fun t member has' => ?_
        cases other : (ranked sources).find? (defines key) with
        | none =>
            have lacks := List.find?_eq_none.1 other t ((ranked_perm sources).mem_iff.2 member)
            exact absurd has' lacks
        | some u => exact Int.lt_of_le_of_lt ((ih other).le member has') (lower u other)
      · exact (ih there).concat lower

/-- **The source that is asked first of those that have a key is the foremost.** -/
theorem find?_ranked : (ranked sources).find? (defines key) = some s ↔ Foremost sources key s := by
  refine ⟨foremost_of_find?, fun foremost => ?_⟩
  cases found : (ranked sources).find? (defines key) with
  | none =>
      obtain ⟨_, _, _, has, _⟩ := id foremost
      have lacks := List.find?_eq_none.1 found s ((ranked_perm sources).mem_iff.2 foremost.mem)
      exact absurd has lacks
  | some t => rw [(foremost_of_find? found).unique foremost]

theorem findSome?_get? {v : Value} : l.findSome? (·.get? key) = some v ↔
    ∃ s, l.find? (defines key) = some s ∧ s.get? key = some v := by
  induction l with
  | nil => simp
  | cons a rest ih =>
      rw [List.findSome?_cons, List.find?_cons]
      cases has : a.get? key with
      | some w => simp [defines, has]
      | none => simpa [defines, has] using ih

/-- Of sources with different priorities there is only one order. -/
theorem ranked_eq_of_perm {sources' : List Source} (distinct : (sources.map (·.priority)).Nodup)
    (same : sources'.Perm sources) : ranked sources' = ranked sources := by
  have perm := ((ranked_perm sources').trans same).trans (ranked_perm sources).symm
  refine perm.eq_of_pairwise ?_ (descends_ranked sources') (descends_ranked sources)
  intro s t member member' above below
  have here : s ∈ sources := same.mem_iff.1 ((ranked_perm sources').mem_iff.1 member)
  have there : t ∈ sources := (ranked_perm sources).mem_iff.1 member'
  exact List.inj_on_of_nodup_map distinct here there (Int.le_antisymm below above)

/-! ## Look-up -/

/-- **What a key is after any history.**  It is the constant last published under the key since the
constants were last cleared, if there is one; else what the foremost source that was added has; else
nothing.  If the priorities of all sources differ, any history that adds the same sources in another
order and makes the same changes to the constants leads to the same. -/
theorem get?_changeAll (changes : List Change) (key : String) :
    (∀ v, (empty.changeAll changes).get? key = some v ↔
      Published changes key v ∨ (∀ w, ¬Published changes key w) ∧
        ∃ s, Foremost (added changes) key s ∧ s.get? key = some v) ∧
    ((empty.changeAll changes).get? key = none ↔
      (∀ w, ¬Published changes key w) ∧ ∀ s ∈ added changes, s.get? key = none) ∧
    (((added changes).map (·.priority)).Nodup → ∀ changes', (added changes').Perm (added changes) →
      overlays changes' = overlays changes →
        (empty.changeAll changes').get? key = (empty.changeAll changes).get? key) := by
  have constants (v : Value) :
      (empty.changeAll changes).constants.lookup key = some v ↔ Published changes key v :=
    lookup_constants_changeAll
  have sources := sources_changeAll changes
  refine ⟨fun v => ?_, ?_, fun distinct changes' same others => ?_⟩
  · unfold get?
    cases found : (empty.changeAll changes).constants.lookup key with
    | some w =>
        have published := (constants w).1 found
        simp only [Option.some.injEq, ← constants, found]
        simp
    | none =>
        have none : ∀ w, ¬Published changes key w := by simp [← constants, found]
        simp only [none, sources, findSome?_get?, find?_ranked, not_false_eq_true, implies_true,
          false_or, true_and]
  · unfold get?
    cases found : (empty.changeAll changes).constants.lookup key with
    | some w => simp [← constants, found]
    | none =>
        simp only [← constants, found, sources, List.findSome?_eq_none_iff,
          (ranked_perm (added changes)).mem_iff]
        simp
  · have constants :
        (empty.changeAll changes').constants = (empty.changeAll changes).constants := by
      rw [constants_changeAll changes', others, ← constants_changeAll]
    unfold get?
    rw [constants, sources, sources_changeAll, ranked_eq_of_perm distinct same]

/-- A port that a site and a machine set, the machine with the higher priority. -/
theorem get?_of_two_orders :
    let site : Source := ⟨"site", 1, .properties [("port", .int 80)]⟩
    let machine : Source := ⟨"machine", 2, .properties [("port", .int 8080)]⟩
    ((added [.add site, .add machine]).map (·.priority)).Nodup ∧
      (empty.changeAll [.add site, .add machine]).get? "port" = some (.int 8080) ∧
      (empty.changeAll [.add machine, .add site]).get? "port" =
        (empty.changeAll [.add site, .add machine]).get? "port" := by
  intro site machine
  have distinct : ((added [.add site, .add machine]).map (·.priority)).Nodup := by decide
  obtain ⟨values, _, orders⟩ := get?_changeAll [.add site, .add machine] "port"
  refine ⟨distinct, (values _).2 (.inr ⟨fun w => ?_, machine, ?_, rfl⟩), ?_⟩
  · rintro ⟨before, after, same, _⟩
    have member : Change.publish "port" w ∈ [.add site, .add machine] := by simp [same]
    simp at member
  · show Foremost ([site] ++ [machine]) "port" machine
    exact .of_last rfl (by simp [site, machine])
  · exact orders distinct [.add machine, .add site] (.swap ..) rfl

end Wiring.Config.Environment
