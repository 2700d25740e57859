/-
# Wiring.Proofs.Config.Flattening -- nested tables are flattened without loss

A leaf of a document is reached over the keys of tables, and its path is those keys joined with
dots, without the empty ones it starts with (`Leaf`, `dotted`).  While tables are read one after
the other, every leaf is either a property already or below a table that is still to be read, and
there is nothing else (`Flattens`): reading one field keeps this (`Flattens.field`), hence reading
a table does (`Flattens.step`) and the whole run (`Reads.flattens`).

So in the end the keys are the paths of the leaves and a key has the value of one of the leaves
with this path, of the only one if there is no other (`ofTable_lossless`).
-/
import Wiring.Config.TomlSource
import Wiring.Proofs.Keyed
import Mathlib

namespace Wiring.Config

set_option autoImplicit false

/-! ## Leaves -/

/-- A value that is no table, and the keys that lead to it. -/
inductive Leaf : Toml.Table → List String → Toml.Value → Prop
  | own {t : Toml.Table} {key : String} {v : Toml.Value} (field : (key, v) ∈ t)
      (single : ∀ fields, v ≠ .table fields) : Leaf t [key] v
  | nested {t fields : Toml.Table} {key : String} {keys : List String} {v : Toml.Value}
      (field : (key, .table fields) ∈ t) (deeper : Leaf fields keys v) : Leaf t (key :: keys) v

/-- The path of keys: joined with dots, without the empty ones at the start. -/
def dotted (keys : List String) : String := ".".intercalate (keys.dropWhile (·.isEmpty))

theorem not_leaf_nil {keys : List String} {v : Toml.Value} : ¬ Leaf [] keys v := by
  rintro (⟨field, _⟩ | ⟨field, _⟩) <;> cases field

/-- A leaf of a table is its first field, or below it, or a leaf of the other fields. -/
theorem leaf_cons_iff {key : String} {value : Toml.Value} {t : Toml.Table} {keys : List String}
    {v : Toml.Value} : Leaf ((key, value) :: t) keys v ↔
      (keys = [key] ∧ v = value ∧ ∀ fields, value ≠ .table fields) ∨
        (∃ fields rest, value = .table fields ∧ keys = key :: rest ∧ Leaf fields rest v) ∨
        Leaf t keys v := by
  constructor
  · rintro (⟨field, single⟩ | ⟨field, deeper⟩)
    · rcases List.mem_cons.1 field with first | other
      · cases first
        exact .inl ⟨rfl, rfl, single⟩
      · exact .inr (.inr (.own other single))
    · rcases List.mem_cons.1 field with first | other
      · cases first
        exact .inr (.inl ⟨_, _, rfl, rfl, deeper⟩)
      · exact .inr (.inr (.nested other deeper))
  · rintro (⟨rfl, rfl, single⟩ | ⟨fields, rest, rfl, rfl, deeper⟩ | other)
    · exact .own List.mem_cons_self single
    · exact .nested List.mem_cons_self deeper
    · cases other with
      | own field single => exact .own (List.mem_cons_of_mem _ field) single
      | nested field deeper => exact .nested (List.mem_cons_of_mem _ field) deeper

/-! ## Paths -/

/-- Below a path, keys are joined to it with dots. -/
theorem foldl_joinPath {path : String} (nonempty : path ≠ "") (keys : List String) :
    keys.foldl joinPath path = ".".intercalate (path :: keys) := by
  induction keys generalizing path with
  | nil => exact String.intercalate_singleton.symm
  | cons key keys ih =>
    have joined : joinPath path key = path ++ "." ++ key := by
      unfold joinPath
      rw [if_neg (by simpa using nonempty)]
    have longer : path ++ "." ++ key ≠ "" := by
      intro empty
      simp [String.append_eq_empty_iff] at empty
    rw [List.foldl_cons, joined, ih longer, String.intercalate_cons_append,
      String.intercalate_cons_cons]

/-- **The paths of a run are the dotted ones.** -/
theorem foldl_joinPath_root (keys : List String) : keys.foldl joinPath "" = dotted keys := by
  unfold dotted
  induction keys with
  | nil => rfl
  | cons key keys ih =>
    have joined : joinPath "" key = key := rfl
    rw [List.foldl_cons, joined]
    by_cases empty : key = ""
    · rw [empty, ih, List.dropWhile_cons_of_pos rfl]
    · rw [foldl_joinPath empty, List.dropWhile_cons_of_neg (by simpa using empty)]

/-! ## Reading field by field -/

namespace Flattening

/-- Every leaf of a document is a property already or below a table still to be read, and nothing
else is either. -/
structure Flattens (root : Toml.Table) (f : Flattening) : Prop where
  distinct : (f.properties.map (·.1)).Nodup
  property : ∀ path w, f.properties.lookup path = some w →
    ∃ keys v, Leaf root keys v ∧ dotted keys = path ∧ w = Value.ofToml v
  waiting : ∀ path fields, (path, fields) ∈ f.pending → ∀ keys v, Leaf fields keys v →
    ∃ all, Leaf root all v ∧ dotted all = keys.foldl joinPath path
  leaf : ∀ keys v, Leaf root keys v → (f.properties.lookup (dotted keys)).isSome ∨
    ∃ path fields, (path, fields) ∈ f.pending ∧
      ∃ rest, Leaf fields rest v ∧ rest.foldl joinPath path = dotted keys

variable {root : Toml.Table}

theorem flattens_start (root : Toml.Table) : Flattens root (start root) := by
  refine ⟨List.nodup_nil, ?_, ?_, ?_⟩
  · intro path w found
    cases found
  · intro path fields member keys v leaf
    cases List.mem_singleton.1 member
    exact ⟨keys, leaf, (foldl_joinPath_root keys).symm⟩
  · intro keys v leaf
    exact .inr ⟨"", root, List.mem_singleton_self _, keys, leaf, foldl_joinPath_root keys⟩

theorem field_single {value : Toml.Value} (single : ∀ fields, value ≠ .table fields)
    (path key : String) (f : Flattening) : field path f (key, value) =
      { f with properties := f.properties.put (joinPath path key) (Value.ofToml value) } := by
  cases value with
  | table fields => exact absurd rfl (single fields)
  | _ => rfl

section Field

variable {path key : String} {fields : Toml.Table} {f : Flattening}

/-- The leaves of the table that is read next, and of the others, all belong to the document. -/
theorem Flattens.cons_waiting {value : Toml.Value}
    (flattens : Flattens root { f with pending := (path, (key, value) :: fields) :: f.pending })
    {p : String} {t : Toml.Table} (member : (p, t) ∈ (path, fields) :: f.pending)
    {keys : List String} {v : Toml.Value} (isLeaf : Leaf t keys v) :
    ∃ all, Leaf root all v ∧ dotted all = keys.foldl joinPath p := by
  rcases List.mem_cons.1 member with here | member
  · cases here
    exact flattens.waiting path _ List.mem_cons_self keys v (leaf_cons_iff.2 (.inr (.inr isLeaf)))
  · exact flattens.waiting p t (List.mem_cons_of_mem _ member) keys v isLeaf

/-- A nested table waits, with the other fields. -/
theorem Flattens.table {inner : Toml.Table}
    (flattens : Flattens root
      { f with pending := (path, (key, .table inner) :: fields) :: f.pending }) :
    Flattens root
      { f with pending := (path, fields) :: (joinPath path key, inner) :: f.pending } := by
  refine ⟨flattens.distinct, flattens.property, ?_, ?_⟩
  · intro p t member keys v isLeaf
    rcases List.mem_cons.1 member with rest | member
    · exact flattens.cons_waiting (rest ▸ List.mem_cons_self) isLeaf
    · rcases List.mem_cons.1 member with new | member
      · cases new
        exact flattens.waiting path _ List.mem_cons_self (key :: keys) v
          (leaf_cons_iff.2 (.inr (.inl ⟨inner, keys, rfl, rfl, isLeaf⟩)))
      · exact flattens.cons_waiting (List.mem_cons_of_mem _ member) isLeaf
  · intro keys v isLeaf
    rcases flattens.leaf keys v isLeaf with done | ⟨p, t, member, way, below, same⟩
    · exact .inl done
    · refine .inr ?_
      rcases List.mem_cons.1 member with here | member
      · cases here
        rcases leaf_cons_iff.1 below with ⟨_, _, single⟩ | ⟨_, deeper, eq, rfl, below⟩ | below
        · exact absurd rfl (single inner)
        · cases eq
          exact ⟨_, inner, List.mem_cons_of_mem _ List.mem_cons_self, deeper, below, same⟩
        · exact ⟨path, fields, List.mem_cons_self, way, below, same⟩
      · exact ⟨p, t, List.mem_cons_of_mem _ (List.mem_cons_of_mem _ member), way, below, same⟩

/-- Anything else becomes a property. -/
theorem Flattens.single {value : Toml.Value} (single : ∀ inner, value ≠ .table inner)
    (flattens : Flattens root { f with pending := (path, (key, value) :: fields) :: f.pending }) :
    Flattens root ⟨(path, fields) :: f.pending,
      f.properties.put (joinPath path key) (Value.ofToml value)⟩ := by
  refine ⟨Keyed.nodup_put flattens.distinct _ _, ?_, ?_, ?_⟩
  · intro p w found
    by_cases new : p = joinPath path key
    · rw [new, Keyed.lookup_put_self] at found
      cases found
      obtain ⟨all, isLeaf, same⟩ := flattens.waiting path _ List.mem_cons_self [key] value
        (leaf_cons_iff.2 (.inl ⟨rfl, rfl, single⟩))
      exact ⟨all, value, isLeaf, same.trans new.symm, rfl⟩
    · rw [Keyed.lookup_put_of_ne new] at found
      exact flattens.property p w found
  · intro p t member keys v isLeaf
    exact flattens.cons_waiting member isLeaf
  · intro keys v isLeaf
    rcases flattens.leaf keys v isLeaf with done | ⟨p, t, member, way, below, same⟩
    · exact .inl (Keyed.isSome_lookup_put done _ _)
    · rcases List.mem_cons.1 member with here | member
      · cases here
        rcases leaf_cons_iff.1 below with ⟨rfl, _, _⟩ | ⟨inner, _, eq, _⟩ | below
        · refine .inl ?_
          rw [← same]
          show (List.lookup (joinPath path key) _).isSome
          rw [Keyed.lookup_put_self]
          rfl
        · exact absurd eq (single inner)
        · exact .inr ⟨path, fields, List.mem_cons_self, way, below, same⟩
      · exact .inr ⟨p, t, List.mem_cons_of_mem _ member, way, below, same⟩

/-- Reading one field of a table leaves its other fields to be read. -/
theorem Flattens.field {e : String × Toml.Value}
    (flattens : Flattens root { f with pending := (path, e :: fields) :: f.pending }) :
    Flattens root
      { field path f e with pending := (path, fields) :: (field path f e).pending } := by
  obtain ⟨key, value⟩ := e
  by_cases table : ∃ inner, value = .table inner
  · obtain ⟨inner, rfl⟩ := table
    exact flattens.table
  · have single : ∀ inner, value ≠ .table inner := fun inner same => table ⟨inner, same⟩
    rw [field_single single]
    exact flattens.single single

end Field

/-- Reading all fields of a table leaves nothing of it to be read. -/
theorem Flattens.fields {path : String} {fields : Toml.Table} {f : Flattening}
    (flattens : Flattens root { f with pending := (path, fields) :: f.pending }) :
    Flattens root (fields.foldl (Flattening.field path) f) := by
  induction fields generalizing f with
  | nil =>
    obtain ⟨distinct, property, waiting, leaf⟩ := flattens
    refine ⟨distinct, property, fun p t member => waiting p t (List.mem_cons_of_mem _ member), ?_⟩
    intro keys v isLeaf
    rcases leaf keys v isLeaf with done | ⟨p, t, member, rest, below, same⟩
    · exact .inl done
    · rcases List.mem_cons.1 member with empty | member
      · cases empty
        exact absurd below not_leaf_nil
      · exact .inr ⟨p, t, member, rest, below, same⟩
  | cons e rest ih => exact ih flattens.field

theorem Flattens.step {f g : Flattening} (flattens : Flattens root f) (step : f.step? = some g) :
    Flattens root g := by
  unfold step? at step
  split at step
  · cases step
  · next path fields rest waiting =>
    cases step
    refine Flattens.fields ?_
    rw [← waiting]
    exact flattens

/-! ## Reading table by table -/

inductive Reads : Flattening → Nat → Flattening → Prop
  | none (f : Flattening) : Reads f 0 f
  | one {f g last : Flattening} {n : Nat} (step : f.step? = some g) (rest : Reads g n last) :
      Reads f (n + 1) last

theorem Reads.flattens {f last : Flattening} {n : Nat} (reads : Reads f n last)
    (flattens : Flattens root f) : Flattens root last := by
  induction reads with
  | none f => exact flattens
  | one step rest ih => exact ih (flattens.step step)

/-- **Reading comes to an end**, after as many steps as there are tables, with the properties. -/
theorem reads_finish (f : Flattening) :
    ∃ last, Reads f f.remaining last ∧ last.pending = [] ∧ last.properties = f.finish := by
  induction f using finish.induct with
  | case1 f done =>
    have nothing : f.pending = [] := by
      unfold step? at done
      split at done
      · assumption
      · cases done
    refine ⟨f, ?_, nothing, ?_⟩
    · rw [remaining, nothing]
      exact .none f
    · rw [finish]
      split
      · rfl
      · next more => cases done.symm.trans more
  | case2 f g step ih =>
    obtain ⟨last, reads, nothing, properties⟩ := ih
    refine ⟨last, ?_, nothing, ?_⟩
    · rw [remaining_step step]
      exact .one step reads
    · rw [properties, finish.eq_def f]
      split
      · next none => cases step.symm.trans none
      · next h more =>
        cases step.symm.trans more
        rfl

/-- The properties of a document are its leaves. -/
theorem flattens_finish (root : Toml.Table) : Flattens root ⟨[], (start root).finish⟩ := by
  obtain ⟨last, reads, nothing, properties⟩ := reads_finish (start root)
  rw [← nothing, ← properties]
  exact reads.flattens (flattens_start root)

end Flattening

open Flattening

/-! ## Sources -/

theorem pairwise_sortTexts {ts : List String} (distinct : ts.Nodup) :
    (sortTexts ts).Pairwise (· < ·) := by
  have sorted : (sortTexts ts).Pairwise fun a b => decide (a ≤ b) = true :=
    List.pairwise_mergeSort
      (fun a b c first second => by
        simpa using String.le_trans (of_decide_eq_true first) (of_decide_eq_true second))
      (fun a b => by simpa using String.le_total a b) ts
  have distinct' : (sortTexts ts).Nodup := (List.mergeSort_perm ts _).nodup_iff.2 distinct
  refine sorted.imp₂ ?_ distinct'
  intro a b le differs
  exact String.not_le.1 fun ge => differs (String.le_antisymm (of_decide_eq_true le) ge)

/-- **Nested tables are flattened without loss.**  Reading a document ends, after as many steps as
it has tables, and makes it a source of properties.  The keys of the source are the paths of the
leaves, in order and each once.  What a key has is the value of one of the leaves with this path;
there is something for each path of a leaf and nothing else; and a leaf that alone has its path is
found there. -/
theorem ofTable_lossless (name : String) (root : Toml.Table) (priority : Int) :
    let source := Source.ofTable name root priority
    (∃ last, Reads (start root) (tablesIn root + 1) last ∧ last.step? = none ∧
      source = ⟨name, priority, .properties last.properties⟩) ∧
    source.keys.Pairwise (· < ·) ∧
    (∀ path, path ∈ source.keys ↔ ∃ keys v, Leaf root keys v ∧ dotted keys = path) ∧
    (∀ path, source.get? path = none ↔ ∀ keys v, Leaf root keys v → dotted keys ≠ path) ∧
    (∀ path w, source.get? path = some w →
      ∃ keys v, Leaf root keys v ∧ dotted keys = path ∧ w = Value.ofToml v) ∧
    (∀ keys v, Leaf root keys v →
      (∀ others u, Leaf root others u → dotted others = dotted keys → others = keys ∧ u = v) →
      source.get? (dotted keys) = some (Value.ofToml v)) := by
  intro source
  have flattens := flattens_finish root
  have leaf : ∀ keys v, Leaf root keys v → (source.get? (dotted keys)).isSome := by
    intro keys v isLeaf
    rcases flattens.leaf keys v isLeaf with done | ⟨_, _, member, _⟩
    · exact done
    · cases member
  have found : ∀ path, path ∈ source.keys ↔ (source.get? path).isSome := by
    intro path
    show path ∈ sortTexts _ ↔ _
    rw [sortTexts, List.mem_mergeSort]
    exact Keyed.isSome_lookup_iff.symm
  refine ⟨?_, pairwise_sortTexts flattens.distinct, ?_, ?_, flattens.property, ?_⟩
  · obtain ⟨last, reads, nothing, properties⟩ := reads_finish (start root)
    refine ⟨last, ?_, by rw [step?, nothing], by rw [properties]; rfl⟩
    rwa [show (start root).remaining = tablesIn root + 1 from Nat.add_zero _] at reads
  · intro path
    rw [found]
    constructor
    · intro there
      obtain ⟨w, there⟩ := Option.isSome_iff_exists.1 there
      obtain ⟨keys, v, isLeaf, same, _⟩ := flattens.property path w there
      exact ⟨keys, v, isLeaf, same⟩
    · rintro ⟨keys, v, isLeaf, rfl⟩
      exact leaf keys v isLeaf
  · intro path
    constructor
    · rintro absent keys v isLeaf rfl
      have there := leaf keys v isLeaf
      rw [absent] at there
      cases there
    · intro apart
      refine Option.eq_none_iff_forall_ne_some.2 fun w there => ?_
      obtain ⟨keys, v, isLeaf, same, _⟩ := flattens.property path w there
      exact apart keys v isLeaf same
  · intro keys v isLeaf alone
    obtain ⟨w, there⟩ := Option.isSome_iff_exists.1 (leaf keys v isLeaf)
    obtain ⟨others, u, isLeaf', same, rfl⟩ := flattens.property _ w there
    obtain ⟨-, rfl⟩ := alone others u isLeaf' same
    exact there

/-- A document with an empty key at the start of a path, an empty table, a dot within a key and two
paths that two leaves share each: `a`, and `c.x.y`. -/
def tangled : Toml.Table :=
  [("", .table [("a", .int 1)]), ("a", .int 2), ("b", .table []),
    ("c", .table [("", .flag true), ("x.y", .array [.table []])]),
    ("c.x", .table [("y", .text "s")])]

theorem leaf_tangled_iff {keys : List String} {v : Toml.Value} : Leaf tangled keys v ↔
    keys = ["", "a"] ∧ v = .int 1 ∨ keys = ["a"] ∧ v = .int 2 ∨
      keys = ["c", ""] ∧ v = .flag true ∨ keys = ["c", "x.y"] ∧ v = .array [.table []] ∨
      keys = ["c.x", "y"] ∧ v = .text "s" := by
  simp [tangled, leaf_cons_iff, not_leaf_nil, and_or_left, exists_or, or_assoc]

theorem ofTable_lossless_tangled :
    Leaf tangled ["c", ""] (.flag true) ∧
    (∀ others u, Leaf tangled others u → dotted others = "c." →
      others = ["c", ""] ∧ u = .flag true) ∧
    (Source.ofTable "app" tangled 0).get? "c." = some (.flag true) := by
  have isLeaf : Leaf tangled ["c", ""] (.flag true) :=
    leaf_tangled_iff.2 (.inr (.inr (.inl ⟨rfl, rfl⟩)))
  have alone : ∀ others u, Leaf tangled others u → dotted others = "c." →
      others = ["c", ""] ∧ u = .flag true := by
    intro others u isLeaf same
    rcases leaf_tangled_iff.1 isLeaf with
      ⟨rfl, rfl⟩ | ⟨rfl, rfl⟩ | ⟨rfl, rfl⟩ | ⟨rfl, rfl⟩ | ⟨rfl, rfl⟩
    · exact absurd same (by decide)
    · exact absurd same (by decide)
    · exact ⟨rfl, rfl⟩
    · exact absurd same (by decide)
    · exact absurd same (by decide)
  obtain ⟨-, -, -, -, -, visible⟩ := ofTable_lossless "app" tangled 0
  exact ⟨isLeaf, alone, visible ["c", ""] (.flag true) isLeaf alone⟩

end Wiring.Config
