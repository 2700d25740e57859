/-
# Wiring.Proofs.Context.Lists -- lists are read as they are joined

A text that is not blank has one item for each of its segments, trimmed; a blank one has none.
Interpolation joins the items of an array with commas, so a list that is one placeholder gets back
the items of its array, unless these cannot be told apart from others (`ListItem`), or are a single
empty one.

Main statement: `lists_exact`.
-/
import Wiring.Context.Creation
import Wiring.Proofs.Config.Interpolation
import Wiring.Proofs.Text.Segments
import Wiring.Samples.Platform
import Mathlib.Data.List.Forall2

namespace Wiring.Context

set_option autoImplicit false

open Wiring.Component
open Wiring.Config (Value)
open Wiring.Config.Environment (placeholder expand_placeholder)
open Wiring.Document (Property)
open Wiring.Text (Segmented Trims isBlank)

/-! ## Items -/

theorem isAllBlank_iff {text : String} :
    Text.isAllBlank text = true ↔ ∀ c ∈ text.toList, isBlank c = true := List.all_eq_true

theorem splitList_of_solid {text : String} (solid : ¬∀ c ∈ text.toList, isBlank c = true) :
    splitList text = (Text.splitOn isSeparator text.toList).map fun s =>
      String.ofList (Text.trimBy isBlank s) := if_neg fun blank => solid (isAllBlank_iff.1 blank)

/-- The items of a text that is not blank are its segments, trimmed. -/
theorem splitList_eq_iff {text : String} (solid : ¬∀ c ∈ text.toList, isBlank c = true)
    {items : List String} :
    splitList text = items ↔ ∃ segments, Segmented isSeparator text.toList segments ∧
      List.Forall₂ (fun segment item => Trims segment item.toList) segments items := by
  have trimmed {segments : List (List Char)} {items : List String} :
      List.Forall₂ (fun segment item => Trims segment item.toList) segments items ↔
        segments.map (fun s => String.ofList (Text.trimBy isBlank s)) = items := by
    rw [← List.forall₂_eq_eq_eq, List.forall₂_map_left_iff]
    refine Iff.of_eq (congrArg (fun R => List.Forall₂ R segments items) ?_)
    funext segment item
    rw [Text.trims_iff, ← String.ofList_inj, String.ofList_toList]
  rw [splitList_of_solid solid]
  constructor
  · intro same
    exact ⟨_, Text.segmented_splitOn isSeparator _, trimmed.2 same⟩
  · rintro ⟨segments, segmented, trims⟩
    rw [segmented.splitOn, trimmed.1 trims]

theorem countP_isSeparator (cs : List Char) :
    cs.countP isSeparator = cs.count ',' + cs.count ';' := by
  induction cs with
  | nil => rfl
  | cons c cs ih =>
    by_cases comma : c = ','
    · subst comma
      simp [isSeparator, ih]
      omega
    · by_cases semicolon : c = ';'
      · subst semicolon
        simp [isSeparator, ih]
        omega
      · simp [isSeparator, comma, semicolon, ih]

theorem length_splitList {text : String} (solid : ¬∀ c ∈ text.toList, isBlank c = true) :
    (splitList text).length = text.toList.count ',' + text.toList.count ';' + 1 := by
  rw [splitList_of_solid solid, List.length_map, Text.length_splitOn, countP_isSeparator]

/-! ## Arrays -/

/-- A text that can be told from others in a list: it has nothing to trim, no separator and nothing
to expand. -/
structure ListItem (item : String) : Prop where
  trimmed : Trims item.toList item.toList
  comma : ',' ∉ item.toList
  semicolon : ';' ∉ item.toList
  dollar : '$' ∉ item.toList

theorem texts?_map_text (items : List String) : Value.texts? (items.map .text) = some items := by
  induction items with
  | nil => rfl
  | cons item items ih =>
    rw [List.map_cons, Value.texts?, Value.text?, ih]
    rfl

/-- An array is interpolated as its items, joined with commas. -/
theorem text?_list (items : List String) :
    Value.text? (.list (items.map .text)) = some (",".intercalate items) := by
  rw [Value.text?, texts?_map_text]
  rfl

theorem notMem_intercalate {items : List String} {c : Char} (other : c ≠ ',')
    (missing : ∀ item ∈ items, c ∉ item.toList) : c ∉ (",".intercalate items).toList := by
  rw [String.toList_intercalate]
  induction items with
  | nil => simp
  | cons item items ih =>
    have first := missing item List.mem_cons_self
    have rest := ih fun u mem => missing u (List.mem_cons_of_mem item mem)
    cases items with
    | nil => simpa using first
    | cons next items =>
      rw [List.map_cons, List.map_cons, List.intercalate_cons_cons, List.mem_append,
        List.mem_append, not_or, not_or]
      exact ⟨⟨first, by simpa using other⟩, rest⟩

/-- Joined items are blank only if there is none, or a single empty one. -/
theorem eq_nil_of_blank {items : List String} (single : items ≠ [""])
    (each : ∀ item ∈ items, ListItem item)
    (blank : ∀ c ∈ (",".intercalate items).toList, isBlank c = true) : items = [] := by
  cases items with
  | nil => rfl
  | cons item items =>
    rw [String.toList_intercalate] at blank
    cases items with
    | nil =>
      rw [List.map_singleton, List.intercalate_singleton] at blank
      have empty := (each item List.mem_cons_self).trimmed.trimBy
      rw [Text.trimBy_of_blank blank] at empty
      exact absurd (congrArg (fun i => [i]) (String.toList_eq_nil_iff.1 empty.symm)) single
    | cons next items =>
      have comma : ',' ∈ [','].intercalate ((item :: next :: items).map String.toList) := by
        rw [List.map_cons, List.map_cons, List.intercalate_cons_cons]
        simp
      exact absurd (blank ',' comma) (by decide)

/-- **Joined items are cut apart again.** -/
theorem splitList_intercalate {items : List String} (single : items ≠ [""])
    (each : ∀ item ∈ items, ListItem item) : splitList (",".intercalate items) = items := by
  by_cases blank : ∀ c ∈ (",".intercalate items).toList, isBlank c = true
  · rw [eq_nil_of_blank single each blank]
    rfl
  · have nonempty : items ≠ [] := by
      rintro rfl
      exact blank (by simp)
    refine (splitList_eq_iff blank).2 ⟨items.map String.toList, ?_, ?_⟩
    · rw [String.toList_intercalate]
      refine Text.segmented_intercalate rfl (by simpa using nonempty) fun s mem c there => ?_
      obtain ⟨item, member, rfl⟩ := List.mem_map.1 mem
      have comma : c ≠ ',' := fun same => (each item member).comma (same ▸ there)
      have semicolon : c ≠ ';' := fun same => (each item member).semicolon (same ▸ there)
      simp [isSeparator, comma, semicolon]
    · rw [List.forall₂_map_left_iff, List.forall₂_same]
      exact fun item member => (each item member).trimmed

/-! ## Properties -/

/-- A property without any of the values that go before a list. -/
structure Unvalued (p : Property) : Prop where
  reference : p.reference = none
  number : p.number = none
  text : p.text = none
  time : p.time = none

variable {σ : Type} [Lifecycle σ]

/-- A list that is one placeholder of an array is injected as the items of the array. -/
theorem injectProperty_array (make : Maker σ) (c : Context σ) (owner : String) (id : ObjectId)
    (name : String) {p : Property} (unvalued : Unvalued p) {key : List Char} {items : List String}
    (list : p.list = some (String.ofList (placeholder key))) (closed : '}' ∉ key)
    (found : c.environment.get? (String.ofList key) = some (.list (items.map .text)))
    (single : items ≠ [""]) (each : ∀ item ∈ items, ListItem item) :
    injectProperty make c owner id p name = some (c.inject id name (.list items)) := by
  have text : c.environment.text? (String.ofList key) = some (",".intercalate items) := by
    rw [Config.Environment.text?, found]
    exact text?_list items
  have plain : '$' ∉ (",".intercalate items).toList :=
    notMem_intercalate (by decide) fun item member => (each item member).dollar
  have expanded : c.expand (String.ofList (placeholder key)) = (",".intercalate items, c) := by
    unfold Context.expand
    rw [expand_placeholder closed text plain]
    show (_, { c with host := { c.host with journal := c.host.journal ++ [] } }) = _
    rw [List.append_nil]
  have plainly : c.injectPlain owner id p name = c.inject id name (.list items) := by
    simp only [injectPlain, unvalued.number, unvalued.text, unvalued.time, list, expanded,
      splitList_intercalate single each]
  simp only [injectProperty, unvalued.reference, plainly]

/-- **Lists are read exactly, and arrays come back.**  A blank text has no items; any other has the
segments between its commas and semicolons, each of them trimmed, one more than there are
separators.  If an array of texts with nothing to trim, to cut or to expand is found under a key,
and is not a single empty text, then a list that is the placeholder of this key is injected as the
items of the array, and nothing else happens. -/
theorem lists_exact :
    (∀ text, (∀ c ∈ text.toList, isBlank c = true) → splitList text = []) ∧
    (∀ text, (¬∀ c ∈ text.toList, isBlank c = true) →
      (splitList text).length = text.toList.count ',' + text.toList.count ';' + 1 ∧
      ∀ items, splitList text = items ↔ ∃ segments, Segmented isSeparator text.toList segments ∧
        List.Forall₂ (fun segment item => Trims segment item.toList) segments items) ∧
    ∀ (make : Maker σ) (c : Context σ) (owner : String) (id : ObjectId) (name : String)
      (p : Property) (key : List Char) (items : List String), Unvalued p →
      p.list = some (String.ofList (placeholder key)) → '}' ∉ key →
      c.environment.get? (String.ofList key) = some (.list (items.map .text)) →
      items ≠ [""] → (∀ item ∈ items, ListItem item) →
      injectProperty make c owner id p name = some (c.inject id name (.list items)) := by
  refine ⟨fun text blank => if_pos (isAllBlank_iff.2 blank),
    fun text solid => ⟨length_splitList solid, fun items => splitList_eq_iff solid⟩, ?_⟩
  intro make c owner id name p key items unvalued list closed found single each
  exact injectProperty_array make c owner id name unvalued list closed found single each

/-- A context with an array of three texts, of which the first is empty and the last has a blank
inside, under a key that looks like the start of a placeholder. -/
def listed : Context Sample where
  host := Sample.host
  document := {}
  environment := {
    sources := []
    constants := [("$\x7b", .list [.text "", .text "b", .text "c d"])] }

def listEntry : Property :=
  { name := some "list", list := some (String.ofList (placeholder ['$', '\x7b'])) }

theorem lists_exact_listed :
    (∀ c ∈ " \t".toList, isBlank c = true) ∧ splitList " \t" = [] ∧
    (¬∀ c ∈ "a;, b".toList, isBlank c = true) ∧ (splitList "a;, b").length = 3 ∧
    Unvalued listEntry ∧
    listed.environment.get? "$\x7b" = some (.list (["", "b", "c d"].map .text)) ∧
    (∀ item ∈ ["", "b", "c d"], ListItem item) ∧
    injectProperty (fun _ _ => none) listed "a" 0 listEntry "list" =
      some (listed.inject 0 "list" (.list ["", "b", "c d"])) := by
  obtain ⟨blank, solid, arrays⟩ := lists_exact (σ := Sample)
  have empty : ∀ c ∈ " \t".toList, isBlank c = true := isAllBlank_iff.1 (by decide)
  have filled : ¬∀ c ∈ "a;, b".toList, isBlank c = true :=
    fun blank => absurd (isAllBlank_iff.2 blank) (by decide)
  have unvalued : Unvalued listEntry := ⟨rfl, rfl, rfl, rfl⟩
  have found : listed.environment.get? "$\x7b" =
      some (.list (["", "b", "c d"].map .text)) := rfl
  have each : ∀ item ∈ ["", "b", "c d"], ListItem item := by
    intro item member
    have trimmed : ∀ item ∈ ["", "b", "c d"],
        Text.trimBy isBlank item.toList = item.toList ∧ ',' ∉ item.toList ∧
          ';' ∉ item.toList ∧ '$' ∉ item.toList := by decide
    obtain ⟨trimmed, comma, semicolon, dollar⟩ := trimmed item member
    exact ⟨Text.trims_iff.2 trimmed, comma, semicolon, dollar⟩
  refine ⟨empty, blank _ empty, filled, (solid _ filled).1, unvalued, found, each, ?_⟩
  exact arrays _ _ _ _ _ _ _ _ unvalued rfl (by decide) found (by decide) each

end Wiring.Context
