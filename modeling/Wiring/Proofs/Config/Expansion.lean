/-
# Wiring.Proofs.Config.Expansion -- bounded expansion, told without the bound

A text is cut at its leftmost `${` and the first `}` behind it (`Cut`); what follows the cut is
cut in turn.  `Expansion env stop k cs ds` says that `cs`, reached by `k` substitutions one inside
the other, expands to `ds`: what no cut takes out is copied, a placeholder without a textual value
too, and any other becomes the expansion of its value.  A text for which `stop k` holds is inserted
as it is.  If nothing stops, this is the full expansion, which need not exist.

Main statement (`expand_exact`): `expand` is the expansion that stops at the sixteenth substitution
and nowhere else, in every environment, and the full expansion wherever no chain of substitutions
is longer than that.
-/
import Wiring.Proofs.Config.Interpolation
import Wiring.Text.Bytes

namespace Wiring.Config.Environment

set_option autoImplicit false

open Wiring.Text (byteSize between? dropBytes?)

/-! ## Cutting -/

/-- The leftmost `${` of a text, the name up to the first `}` behind it, and what is around. -/
structure Cut (cs before name after : List Char) : Prop where
  parts : cs = before ++ (placeholder name ++ after)
  leftmost : ¬['$', '{'] <:+: before
  first : '}' ∉ name

/-- The names that a text is cut at, one cut after the other. -/
inductive Contains : List Char → List Char → Prop
  | here {cs before name after : List Char} (cut : Cut cs before name after) : Contains cs name
  | later {cs before name after other : List Char} (cut : Cut cs before name after)
      (rest : Contains after other) : Contains cs other

theorem pieces_dollar {cs : List Char} (other : ∀ rest, cs ≠ '{' :: rest) :
    pieces ('$' :: cs) = .plain '$' :: pieces cs := by
  rw [pieces.eq_def]
  split
  · next same => cases same
  · next rest same =>
    cases same
    exact absurd rfl (other rest)
  · next same =>
    cases same
    rfl

theorem cutAt_of_notMem {c : Char} {cs : List Char} (missing : c ∉ cs) :
    Text.cutAt c cs = none := by
  induction cs with
  | nil => rfl
  | cons d cs ih =>
    rw [List.mem_cons, not_or] at missing
    have other : (d == c) = false := by simpa using Ne.symm missing.1
    rw [Text.cutAt, other, ih missing.2]
    rfl

/-- Without a `}` there is nothing to cut out. -/
theorem pieces_of_notMem {cs : List Char} (unclosed : '}' ∉ cs) : pieces cs = cs.map .plain := by
  induction cs with
  | nil => simp [pieces]
  | cons c cs ih =>
    rw [List.mem_cons, not_or] at unclosed
    have rest := ih unclosed.2
    rw [pieces.eq_def]
    split
    · next same => cases same
    · next more same =>
      cases same
      have none := cutAt_of_notMem fun mem => unclosed.2 (List.mem_cons_of_mem _ mem)
      split
      · next found =>
        rw [none] at found
        cases found
      · rw [rest]
        rfl
    · next same =>
      cases same
      rw [rest]
      rfl

/-- A cut further on stays the leftmost one if no `${` comes to stand in front of it. -/
theorem Cut.cons {cs before name after : List Char} (cut : Cut cs before name after) {c : Char}
    (other : c = '$' → ∀ rest, cs ≠ '{' :: rest) : Cut (c :: cs) (c :: before) name after := by
  obtain ⟨parts, leftmost, first⟩ := cut
  refine ⟨by rw [parts, List.cons_append], ?_, first⟩
  intro occurs
  rcases List.infix_cons_iff.1 occurs with ⟨rest, same⟩ | occurs
  · obtain ⟨rfl, begins⟩ := List.cons.inj same
    refine other rfl (rest ++ (placeholder name ++ after)) ?_
    rw [parts, ← begins]
    rfl
  · exact leftmost occurs

theorem Cut.pieces {cs before name after : List Char} (cut : Cut cs before name after) :
    pieces cs = before.map .plain ++ .hole name :: pieces after := by
  obtain ⟨rfl, leftmost, first⟩ := cut
  induction before with
  | nil => exact pieces_placeholder first after
  | cons c before ih =>
    have rest := ih fun occurs => leftmost (List.infix_cons occurs)
    by_cases dollar : c = '$'
    · subst dollar
      have other : ∀ more, before ++ (placeholder name ++ after) ≠ '{' :: more := by
        intro more same
        cases before with
        | nil => exact absurd (List.cons.inj same).1 (by decide)
        | cons d before =>
          obtain ⟨rfl, _⟩ := List.cons.inj same
          exact leftmost ⟨[], before, rfl⟩
      rw [List.cons_append, pieces_dollar other, rest]
      rfl
    · rw [List.cons_append, pieces_cons dollar, rest]
      rfl

/-- A text that cannot be cut is literal. -/
theorem pieces_of_uncut {cs : List Char} (uncut : ∀ before name after, ¬Cut cs before name after) :
    pieces cs = cs.map .plain := by
  induction cs with
  | nil => simp [Environment.pieces]
  | cons c cs ih =>
    by_cases opens : c = '$' ∧ ∃ rest, cs = '{' :: rest
    · obtain ⟨rfl, rest, rfl⟩ := opens
      -- A `}` in the rest would end a placeholder that starts here.
      have unclosed : '}' ∉ rest := by
        intro mem
        obtain ⟨name, after, rfl, first⟩ := List.eq_append_cons_of_mem mem
        refine uncut [] name after ⟨?_, by simp, first⟩
        simp [placeholder]
      refine pieces_of_notMem ?_
      simpa using unclosed
    · have rest := ih fun before name after cut => by
        refine uncut (c :: before) name after (cut.cons ?_)
        rintro dollar rest rfl
        exact opens ⟨dollar, rest, rfl⟩
      by_cases dollar : c = '$'
      · subst dollar
        rw [pieces_dollar fun rest same => opens ⟨rfl, rest, same⟩, rest]
        rfl
      · rw [pieces_cons dollar, rest]
        rfl

/-- There is one way to cut a text. -/
theorem Cut.unique {cs before name after before' name' after' : List Char}
    (cut : Cut cs before name after) (cut' : Cut cs before' name' after') :
    before = before' ∧ name = name' ∧ after = after' := by
  have aligned : ∀ {front front' : List Char} {more more' : List Piece},
      front.map Piece.plain ++ .hole name :: more = front'.map Piece.plain ++ .hole name' :: more' →
      front = front' ∧ name = name' := by
    intro front
    induction front with
    | nil =>
      intro front' more more' same
      cases front' with
      | nil =>
        cases same
        exact ⟨rfl, rfl⟩
      | cons c front' => cases same
    | cons c front ih =>
      intro front' more more' same
      cases front' with
      | nil => cases same
      | cons c' front' =>
        obtain ⟨head, tail⟩ := List.cons.inj same
        cases head
        obtain ⟨rfl, rfl⟩ := ih tail
        exact ⟨rfl, rfl⟩
  obtain ⟨rfl, rfl⟩ := aligned (cut.pieces.symm.trans cut'.pieces)
  have rest := cut.parts.symm.trans cut'.parts
  exact ⟨rfl, rfl, List.append_cancel_left (List.append_cancel_left rest)⟩

theorem Cut.length_lt {cs before name after : List Char} (cut : Cut cs before name after) :
    after.length < cs.length := by
  rw [cut.parts]
  simp only [placeholder, List.length_append, List.length_cons]
  omega

/-- A cut takes a text apart at positions between characters. -/
theorem Cut.positions {cs before name after : List Char} (cut : Cut cs before name after) :
    between? cs 0 (byteSize before) = some before ∧
      between? cs (byteSize before + 2) (byteSize before + 2 + byteSize name) = some name ∧
      dropBytes? (byteSize before + 2 + byteSize name + 1) cs = some after := by
  have opening : byteSize (before ++ ['$', '{']) = byteSize before + 2 := Text.byteSize_append _ _
  have whole : byteSize (before ++ placeholder name) = byteSize before + 2 + byteSize name + 1 := by
    have shape : before ++ placeholder name = (before ++ ['$', '{']) ++ (name ++ ['}']) := by
      simp [placeholder]
    rw [shape, Text.byteSize_append, opening, Text.byteSize_append, ← Nat.add_assoc]
    rfl
  refine ⟨?_, ?_, ?_⟩
  · have front := Text.between?_append [] before (placeholder name ++ after)
    rw [cut.parts]
    simpa [byteSize] using front
  · have middle := Text.between?_append (before ++ ['$', '{']) name ('}' :: after)
    rw [opening] at middle
    rw [← middle, cut.parts]
    simp [placeholder]
  · rw [cut.parts, ← whole, ← List.append_assoc]
    exact Text.dropBytes?_append _ _

/-- The names that a text is cut at are the placeholders among its pieces. -/
theorem contains_iff {cs name : List Char} : Contains cs name ↔ .hole name ∈ pieces cs := by
  constructor
  · intro contains
    induction contains with
    | here cut =>
      rw [cut.pieces]
      exact List.mem_append_right _ List.mem_cons_self
    | later cut _ ih =>
      rw [cut.pieces]
      exact List.mem_append_right _ (List.mem_cons_of_mem _ ih)
  · intro mem
    induction length : cs.length using Nat.strongRecOn generalizing cs with
    | ind n ih =>
      have literal (front : List Char) : .hole name ∉ front.map Piece.plain := by simp
      by_cases cuts : ∃ before other after, Cut cs before other after
      · obtain ⟨before, other, after, cut⟩ := cuts
        rw [cut.pieces, List.mem_append, List.mem_cons] at mem
        rcases mem with mem | same | mem
        · exact absurd mem (literal before)
        · cases same
          exact .here cut
        · exact .later cut (ih after.length (length ▸ cut.length_lt) mem rfl)
      · rw [pieces_of_uncut fun before other after cut => cuts ⟨before, other, after, cut⟩] at mem
        exact absurd mem (literal cs)

/-! ## Expanding -/

/-- `cs`, reached by `k` substitutions one inside the other, expands to `ds`; where `stop` holds of
the number of substitutions, a text is inserted as it is. -/
inductive Expansion (env : Environment) (stop : Nat → Prop) : Nat → List Char → List Char → Prop
  | stopped {k : Nat} (cs : List Char) (stops : stop k) : Expansion env stop k cs cs
  | literal {k : Nat} {cs : List Char} (goes : ¬stop k)
      (uncut : ∀ before name after, ¬Cut cs before name after) : Expansion env stop k cs cs
  | kept {k : Nat} {cs before name after es : List Char} (goes : ¬stop k)
      (cut : Cut cs before name after) (unknown : env.text? (String.ofList name) = none)
      (rest : Expansion env stop k after es) :
      Expansion env stop k cs (before ++ (placeholder name ++ es))
  | substituted {k : Nat} {cs before name after ds es : List Char} {value : String}
      (goes : ¬stop k) (cut : Cut cs before name after)
      (found : env.text? (String.ofList name) = some value)
      (inner : Expansion env stop (k + 1) value.toList ds) (rest : Expansion env stop k after es) :
      Expansion env stop k cs (before ++ (ds ++ es))

/-- A chain of substitutions that starts at a text: each step is the value of a name in the text
before. -/
inductive Nested (env : Environment) : List Char → Nat → Prop
  | nothing (cs : List Char) : Nested env cs 0
  | step {cs name : List Char} {value : String} {n : Nat} (contains : Contains cs name)
      (found : env.text? (String.ofList name) = some value) (rest : Nested env value.toList n) :
      Nested env cs (n + 1)

/-- No chain of substitutions that starts at a text has more than `n` steps. -/
def NestedWithin (env : Environment) (n : Nat) (cs : List Char) : Prop :=
  ∀ k, Nested env cs k → k ≤ n

section

variable {env : Environment} {stop : Nat → Prop} {cs before name after : List Char}

theorem NestedWithin.value {n : Nat} {value : String} (within : NestedWithin env (n + 1) cs)
    (contains : Contains cs name) (found : env.text? (String.ofList name) = some value) :
    NestedWithin env n value.toList := by
  intro k nested
  exact Nat.le_of_succ_le_succ (within (k + 1) (.step contains found nested))

theorem NestedWithin.of_values {n : Nat} (values : ∀ name value, Contains cs name →
    env.text? (String.ofList name) = some value → NestedWithin env n value.toList) :
    NestedWithin env (n + 1) cs := by
  intro k nested
  cases nested with
  | nothing => exact Nat.zero_le _
  | step contains found rest => exact Nat.succ_le_succ (values _ _ contains found _ rest)

theorem NestedWithin.mono {m n : Nat} (within : NestedWithin env m cs) (le : m ≤ n) :
    NestedWithin env n cs := fun k nested => Nat.le_trans (within k nested) le

theorem NestedWithin.of_unresolved
    (unresolved : ∀ name, Contains cs name → env.text? (String.ofList name) = none) :
    NestedWithin env 0 cs := by
  intro k nested
  cases nested with
  | nothing => exact Nat.le_refl 0
  | step contains found _ =>
    rw [unresolved _ contains] at found
    cases found

theorem NestedWithin.rest {n : Nat} (within : NestedWithin env n cs)
    (cut : Cut cs before name after) : NestedWithin env n after := by
  intro k nested
  cases nested with
  | nothing => exact Nat.zero_le n
  | step contains found inner => exact within _ (.step (.later cut contains) found inner)

theorem NestedWithin.unresolved (within : NestedWithin env 0 cs) (contains : Contains cs name) :
    env.text? (String.ofList name) = none := by
  cases found : env.text? (String.ofList name) with
  | none => rfl
  | some value => exact absurd (within 1 (.step contains found (.nothing _))) (by decide)

/-- A text has at most one expansion. -/
theorem Expansion.unique {k : Nat} {ds ds' : List Char} (first : Expansion env stop k cs ds)
    (second : Expansion env stop k cs ds') : ds = ds' := by
  induction first generalizing ds' with
  | stopped cs stops =>
    cases second with
    | stopped _ _ => rfl
    | literal _ _ => rfl
    | kept goes _ _ _ => exact absurd stops goes
    | substituted goes _ _ _ _ => exact absurd stops goes
  | literal goes uncut =>
    cases second with
    | stopped _ _ => rfl
    | literal _ _ => rfl
    | kept _ cut _ _ => exact absurd cut (uncut _ _ _)
    | substituted _ cut _ _ _ => exact absurd cut (uncut _ _ _)
  | kept goes cut unknown _ ih =>
    cases second with
    | stopped _ stops => exact absurd stops goes
    | literal _ uncut => exact absurd cut (uncut _ _ _)
    -- Both cut the text at the same place, as there is only one leftmost cut.
    | kept _ cut' _ rest =>
      obtain ⟨rfl, rfl, rfl⟩ := cut.unique cut'
      rw [ih rest]
    | substituted _ cut' found _ _ =>
      obtain ⟨rfl, rfl, rfl⟩ := cut.unique cut'
      rw [unknown] at found
      cases found
  | substituted goes cut found _ _ ihInner ihRest =>
    cases second with
    | stopped _ stops => exact absurd stops goes
    | literal _ uncut => exact absurd cut (uncut _ _ _)
    | kept _ cut' unknown _ =>
      obtain ⟨rfl, rfl, rfl⟩ := cut.unique cut'
      rw [unknown] at found
      cases found
    | substituted _ cut' found' inner rest =>
      obtain ⟨rfl, rfl, rfl⟩ := cut.unique cut'
      rw [found] at found'
      cases found'
      rw [ihInner inner, ihRest rest]

theorem spell_of_uncut (depth : Nat) (uncut : ∀ before name after, ¬Cut cs before name after) :
    env.spell depth cs = cs := by
  rw [spell, pieces_of_uncut uncut, List.flatMap_map]
  exact List.flatMap_singleton' cs

theorem Cut.spell (cut : Cut cs before name after) (depth : Nat) :
    env.spell depth cs =
      before ++ ((env.expandPiece depth (.hole name)).value ++ env.spell depth after) := by
  rw [Environment.spell, cut.pieces, List.flatMap_append, List.flatMap_map, List.flatMap_cons]
  exact congrArg (· ++ _) (List.flatMap_singleton' before)

/-- A text none of whose names has a value is its own expansion. -/
theorem Expansion.of_unresolved {k : Nat} (goes : ¬stop k)
    (unresolved : ∀ name, Contains cs name → env.text? (String.ofList name) = none) :
    Expansion env stop k cs cs := by
  induction length : cs.length using Nat.strongRecOn generalizing cs with
  | ind n ih =>
    by_cases cuts : ∃ before name after, Cut cs before name after
    · obtain ⟨before, name, after, cut⟩ := cuts
      have rest : Expansion env stop k after after :=
        ih after.length (length ▸ cut.length_lt)
          (fun other contains => unresolved other (.later cut contains)) rfl
      have kept := Expansion.kept goes cut (unresolved name (.here cut)) rest
      rwa [← cut.parts] at kept
    · exact .literal goes fun before name after cut => cuts ⟨before, name, after, cut⟩

/-- Within `m` levels a text expands as the rules say, if they stop after `m` more substitutions, or
if no chain goes further. -/
theorem expansion_expandWithin {m k : Nat} (goes : ∀ j < m, ¬stop (k + j))
    (ends : stop (k + m) ∨ NestedWithin env m cs) :
    Expansion env stop k cs (env.expandWithin m cs).value := by
  induction m generalizing k cs with
  | zero =>
    by_cases stops : stop k
    · exact .stopped cs stops
    · refine .of_unresolved stops fun name contains => ?_
      exact (ends.resolve_left stops).unresolved contains
  | succ m ihDepth =>
    have goesOn : ¬stop k := goes 0 (Nat.succ_pos m)
    have deeper : ∀ j < m, ¬stop (k + 1 + j) := by
      intro j less
      have later := goes (j + 1) (Nat.succ_lt_succ less)
      rwa [Nat.add_assoc, Nat.add_comm 1 j]
    rw [value_expandWithin]
    induction length : cs.length using Nat.strongRecOn generalizing cs with
    | ind n ih =>
      by_cases cuts : ∃ before name after, Cut cs before name after
      · obtain ⟨before, name, after, cut⟩ := cuts
        have rest : Expansion env stop k after (env.spell m after) :=
          ih after.length (length ▸ cut.length_lt) (ends.imp_right (·.rest cut)) rfl
        rw [cut.spell, expandPiece]
        cases found : env.text? (String.ofList name) with
        | none => exact .kept goesOn cut found rest
        | some value =>
          refine .substituted goesOn cut found (ihDepth deeper ?_) rest
          rw [Nat.add_assoc, Nat.add_comm 1 m]
          exact ends.imp_right (·.value (.here cut) found)
      · have uncut before name after : ¬Cut cs before name after :=
          fun cut => cuts ⟨before, name, after, cut⟩
        rw [spell_of_uncut m uncut]
        exact .literal goesOn uncut

end

/-! ## The bound -/

/-- Expansions are unique, so the one that `expand` comes to is the only one. -/
theorem expansion_iff {env : Environment} {stop : Nat → Prop} {text : String} {ds : List Char}
    (expands : Expansion env stop 0 text.toList (env.expandWithin expansionLimit text.toList).value) :
    Expansion env stop 0 text.toList ds ↔ (env.expand text).value = String.ofList ds := by
  show _ ↔ String.ofList (env.expandWithin expansionLimit text.toList).value = String.ofList ds
  rw [String.ofList_inj]
  constructor
  · exact expands.unique
  · rintro rfl
    exact expands

/-- **Expansion is the full one up to its bound.**  In every environment, `expand` gives the
expansion of a text that inserts exactly the values reached by the sixteenth substitution as they
are; it gives the full expansion if no chain of substitutions that starts at the text is longer, and
the text itself if none of its names has a value.  Every text is cut at positions between
characters. -/
theorem expand_exact (env : Environment) (text : String) :
    (∀ ds, Expansion env (· = 16) 0 text.toList ds ↔ (env.expand text).value = String.ofList ds) ∧
    (NestedWithin env 16 text.toList → ∀ ds,
      Expansion env (fun _ => False) 0 text.toList ds ↔
        (env.expand text).value = String.ofList ds) ∧
    ((∀ name, Contains text.toList name → env.text? (String.ofList name) = none) →
      (env.expand text).value = text) ∧
    ∀ cs before name after, Cut cs before name after →
      between? cs 0 (byteSize before) = some before ∧
        between? cs (byteSize before + 2) (byteSize before + 2 + byteSize name) = some name ∧
        dropBytes? (byteSize before + 2 + byteSize name + 1) cs = some after := by
  refine ⟨fun ds => ?_, fun within ds => ?_, fun unresolved => ?_, fun _ _ _ _ => Cut.positions⟩
  · refine expansion_iff (expansion_expandWithin (m := 16) ?_ (.inl rfl))
    intro j less
    show 0 + j ≠ 16
    omega
  · exact expansion_iff (expansion_expandWithin (m := 16) (fun _ _ => id) (.inr within))
  · have within := (NestedWithin.of_unresolved unresolved).mono (Nat.zero_le 16)
    have full : Expansion env (fun _ => False) 0 text.toList
        (env.expandWithin 16 text.toList).value :=
      expansion_expandWithin (fun _ _ => id) (.inr within)
    have whole := (expansion_iff full).1 (.of_unresolved id unresolved)
    rwa [String.ofList_toList] at whole

/-- A value that names another one, which ends with a placeholder that is not closed, and a value
that names itself. -/
def layered : Environment :=
  { sources := []
    constants := [("x", .text (String.ofList ('<' :: placeholder ['y'] ++ ['>']))),
      ("y", .text (String.ofList ['1', '$', '\x7b'])),
      ("z", .text (String.ofList ('-' :: placeholder ['z'])))] }

/-- A text with a name that has a value and one that has none. -/
def doubtful : List Char := 'a' :: placeholder ['x'] ++ '$' :: placeholder ['n']

theorem nestedWithin_doubtful : NestedWithin layered 2 doubtful := by
  have outer : pieces doubtful =
      [.plain 'a', .hole ['x'], .plain '$', .hole ['n']] := by decide +kernel
  have middle : pieces (String.ofList ('<' :: placeholder ['y'] ++ ['>'])).toList =
      [.plain '<', .hole ['y'], .plain '>'] := by decide +kernel
  have inner : pieces (String.ofList ['1', '$', '\x7b']).toList =
      [.plain '1', .plain '$', .plain '\x7b'] := by decide +kernel
  refine .of_values fun name value contains found => ?_
  rw [contains_iff, outer] at contains
  have known : name = ['x'] ∨ name = ['n'] := by simpa using contains
  rcases known with rfl | rfl
  · cases found
    refine .of_values fun name value contains found => ?_
    rw [contains_iff, middle] at contains
    have known : name = ['y'] := by simpa using contains
    cases known
    cases found
    refine .of_unresolved fun name contains => ?_
    rw [contains_iff, inner] at contains
    simp at contains
  · cases found

/-- Values two levels deep are expanded in full, and a value that names itself sixteen times. -/
theorem expand_exact_layered :
    NestedWithin layered 16 doubtful ∧
      Expansion layered (fun _ => False) 0 doubtful
        (['a', '<', '1', '$', '\x7b', '>', '$'] ++ placeholder ['n']) ∧
      Expansion layered (· = 16) 0 (placeholder ['z'])
        (List.replicate 16 '-' ++ placeholder ['z']) ∧
      (layered.expand (String.ofList (placeholder ['n']))).value =
        String.ofList (placeholder ['n']) := by
  have within : NestedWithin layered 16 doubtful := nestedWithin_doubtful.mono (by decide)
  obtain ⟨_, full, _⟩ := expand_exact layered (String.ofList doubtful)
  obtain ⟨bounded, _⟩ := expand_exact layered (String.ofList (placeholder ['z']))
  obtain ⟨_, _, same, _⟩ := expand_exact layered (String.ofList (placeholder ['n']))
  rw [String.toList_ofList] at full bounded same
  refine ⟨within, (full within _).2 (by decide +kernel), (bounded _).2 (by decide +kernel),
    same fun name contains => ?_⟩
  have alone : pieces (placeholder ['n']) = [.hole ['n']] := by decide +kernel
  rw [contains_iff, alone] at contains
  have known : name = ['n'] := by simpa using contains
  cases known
  rfl

end Wiring.Config.Environment
