/-
# Wiring.Proofs.Config.Interpolation -- what a text expands to, part by part

A text without `$` expands to itself, and a placeholder to the text of its value if that has no
`$`; a text made of such parts expands to what they do, one after the other (`Expands`).

An expansion depends on the environment only through the names it consults, those of its own
placeholders and of the ones in the values it puts in (`expand_congr`).
-/
import Wiring.Config.Environment

namespace Wiring.Config.Environment

set_option autoImplicit false

open Wiring.Logging (Logged)

/-! ## Pieces -/

theorem pieces_cons {c : Char} (plain : c ≠ '$') (cs : List Char) :
    pieces (c :: cs) = .plain c :: pieces cs := by
  rw [pieces.eq_def]
  split
  · next same => cases same
  · next same =>
    cases same
    exact absurd rfl plain
  · next same =>
    cases same
    rfl

/-- A text without `$` is cut into its characters. -/
theorem pieces_append {cs : List Char} (plain : '$' ∉ cs) (rest : List Char) :
    pieces (cs ++ rest) = cs.map .plain ++ pieces rest := by
  induction cs with
  | nil => rfl
  | cons c cs ih =>
    rw [List.mem_cons, not_or] at plain
    rw [List.cons_append, pieces_cons (Ne.symm plain.1), ih plain.2]
    rfl

theorem cutAt_append {c : Char} {cs : List Char} (missing : c ∉ cs) (rest : List Char) :
    Text.cutAt c (cs ++ c :: rest) = some (cs, rest) := by
  induction cs with
  | nil => simp [Text.cutAt]
  | cons d cs ih =>
    rw [List.mem_cons, not_or] at missing
    have other : (d == c) = false := by simpa using Ne.symm missing.1
    rw [List.cons_append, Text.cutAt, other, ih missing.2]
    rfl

/-- A placeholder is one piece. -/
theorem pieces_placeholder {name : List Char} (closed : '}' ∉ name) (rest : List Char) :
    pieces (placeholder name ++ rest) = .hole name :: pieces rest := by
  have shape : placeholder name ++ rest = '$' :: '{' :: (name ++ '}' :: rest) := by
    simp [placeholder]
  rw [shape, pieces.eq_def]
  simp only
  have cut := cutAt_append closed rest
  split
  · next name' after same =>
    rw [cut] at same
    cases same
    rfl
  · next none =>
    rw [cut] at none
    cases none

/-! ## What pieces become -/

def expandPiece (env : Environment) (depth : Nat) : Piece → Logged (List Char)
  | .plain c => pure [c]
  | .hole name =>
    match env.text? (String.ofList name) with
    | some value => env.expandWithin depth value.toList
    | none => pure (placeholder name)

theorem expandWithin_succ (env : Environment) (depth : Nat) (cs : List Char) :
    env.expandWithin (depth + 1) cs = joinPieces (env.expandPiece depth) (pieces cs) := by
  rw [expandWithin]
  rfl

theorem value_joinPieces (f : Piece → Logged (List Char)) (ps : List Piece) :
    (joinPieces f ps).value = ps.flatMap fun p => (f p).value := by
  induction ps with
  | nil => rfl
  | cons p ps ih =>
    rw [joinPieces, Logging.Logged.value_bind, Logging.Logged.value_bind,
      Logging.Logged.value_pure, ih, List.flatMap_cons]

theorem records_joinPieces (f : Piece → Logged (List Char)) (ps : List Piece) :
    (joinPieces f ps).records = ps.flatMap fun p => (f p).records := by
  induction ps with
  | nil => rfl
  | cons p ps ih =>
    rw [joinPieces, Logging.Logged.records_bind, Logging.Logged.records_bind,
      Logging.Logged.records_pure, List.append_nil, ih, List.flatMap_cons]

/-- An expansion is silent but for texts that are nested too deeply. -/
theorem records_expandWithin (env : Environment) (depth : Nat) (cs : List Char) :
    ∀ r ∈ (env.expandWithin depth cs).records, ∃ text, r = tooDeep text := by
  induction depth generalizing cs with
  | zero =>
    intro r member
    exact ⟨cs, List.mem_singleton.1 member⟩
  | succ depth ih =>
    intro r member
    rw [expandWithin_succ, records_joinPieces] at member
    obtain ⟨p, _, member⟩ := List.mem_flatMap.1 member
    cases p with
    | plain c => exact absurd member List.not_mem_nil
    | hole name =>
      rw [expandPiece] at member
      split at member
      · exact ih _ r member
      · exact absurd member List.not_mem_nil

theorem records_expand (env : Environment) (text : String) :
    ∀ r ∈ (env.expand text).records, ∃ text, r = tooDeep text := by
  intro r member
  have same : (env.expand text).records =
      (env.expandWithin expansionLimit text.toList).records := List.append_nil _
  exact records_expandWithin env _ _ r (same ▸ member)

def spell (env : Environment) (depth : Nat) (cs : List Char) : List Char :=
  (pieces cs).flatMap fun p => (env.expandPiece depth p).value

theorem value_expandWithin (env : Environment) (depth : Nat) (cs : List Char) :
    (env.expandWithin (depth + 1) cs).value = env.spell depth cs := by
  rw [expandWithin_succ, value_joinPieces]
  rfl

theorem spell_nil (env : Environment) (depth : Nat) : env.spell depth [] = [] := by
  simp [spell, pieces]

/-- Wherever it stands, `cs` expands to `ds`. -/
def Expands (env : Environment) (cs ds : List Char) : Prop :=
  ∀ depth rest, env.spell (depth + 1) (cs ++ rest) = ds ++ env.spell (depth + 1) rest

section

variable {env : Environment} {cs ds cs' ds' : List Char}

theorem Expands.nil : Expands env [] [] := fun _ _ => rfl

theorem Expands.append (first : Expands env cs ds) (second : Expands env cs' ds') :
    Expands env (cs ++ cs') (ds ++ ds') := by
  intro depth rest
  rw [List.append_assoc, first, second, List.append_assoc]

theorem spell_append (plain : '$' ∉ cs) (depth : Nat) (rest : List Char) :
    env.spell depth (cs ++ rest) = cs ++ env.spell depth rest := by
  rw [spell, pieces_append plain, List.flatMap_append, List.flatMap_map]
  exact congrArg (· ++ _) (List.flatMap_singleton' cs)

/-- A text without `$` stays as it is. -/
theorem Expands.plain (plain : '$' ∉ cs) : Expands env cs cs :=
  fun depth rest => spell_append plain (depth + 1) rest

/-- A placeholder becomes the text of its value, if there is nothing to expand in that. -/
theorem Expands.placeholder {name : List Char} {value : String} (closed : '}' ∉ name)
    (found : env.text? (String.ofList name) = some value) (plain : '$' ∉ value.toList) :
    Expands env (placeholder name) value.toList := by
  intro depth rest
  have whole : (env.expandWithin (depth + 1) value.toList).value = value.toList := by
    have spelled : env.spell depth (value.toList ++ []) = _ := spell_append plain depth []
    rw [spell_nil, List.append_nil] at spelled
    rw [value_expandWithin, spelled]
  rw [spell, pieces_placeholder closed, List.flatMap_cons, expandPiece, found]
  exact congrArg (· ++ _) whole

/-- Nothing is reported about a text without `$`. -/
theorem records_expandWithin_plain (plain : '$' ∉ cs) (depth : Nat) :
    (env.expandWithin (depth + 1) cs).records = [] := by
  have literal := pieces_append plain []
  rw [List.append_nil, show pieces [] = [] by simp [pieces], List.append_nil] at literal
  rw [expandWithin_succ, records_joinPieces, literal, List.flatMap_map]
  exact List.flatMap_eq_nil_iff.2 fun _ _ => rfl

theorem Expands.flatMap {α : Type} {l : List α} {f g : α → List Char}
    (each : ∀ a ∈ l, Expands env (f a) (g a)) : Expands env (l.flatMap f) (l.flatMap g) := by
  induction l with
  | nil => exact .nil
  | cons a l ih =>
    rw [List.flatMap_cons, List.flatMap_cons]
    exact (each a List.mem_cons_self).append
      (ih fun b mem => each b (List.mem_cons_of_mem _ mem))

/-- **A text expands to what its parts expand to.** -/
theorem Expands.expand (expands : Expands env cs ds) :
    (env.expand (String.ofList cs)).value = String.ofList ds := by
  have whole := expands 14 []
  rw [spell_nil, List.append_nil, List.append_nil] at whole
  show String.ofList (env.expandWithin expansionLimit (String.ofList cs).toList).value = _
  rw [String.toList_ofList, show expansionLimit = 15 + 1 from rfl, value_expandWithin, whole]

/-- A placeholder alone becomes the text of its value, and nothing is reported. -/
theorem expand_placeholder {name : List Char} {value : String} (closed : '}' ∉ name)
    (found : env.text? (String.ofList name) = some value) (plain : '$' ∉ value.toList) :
    env.expand (String.ofList (Environment.placeholder name)) = ⟨value, []⟩ := by
  have single : pieces (Environment.placeholder name) = [.hole name] := by
    have alone := pieces_placeholder closed []
    rwa [List.append_nil, show pieces [] = [] by simp [pieces]] at alone
  have silent : (env.expand (String.ofList (Environment.placeholder name))).records = [] := by
    show (env.expandWithin (15 + 1) _).records ++ [] = []
    rw [List.append_nil, String.toList_ofList, expandWithin_succ, records_joinPieces, single,
      List.flatMap_singleton, expandPiece, found]
    exact records_expandWithin_plain plain 14
  have whole := (Expands.placeholder closed found plain).expand
  rw [String.ofList_toList] at whole
  rw [← whole, ← silent]

end

/-! ## What an expansion depends on -/

/-- `name` is consulted while `cs` is expanded, at any depth. -/
inductive Consults (env : Environment) : List Char → String → Prop
  | here {cs name : List Char} (hole : .hole name ∈ pieces cs) :
      Consults env cs (String.ofList name)
  | within {cs name : List Char} {value n : String} (hole : .hole name ∈ pieces cs)
      (found : env.text? (String.ofList name) = some value)
      (inner : Consults env value.toList n) : Consults env cs n

theorem joinPieces_congr {f g : Piece → Logged (List Char)} {ps : List Piece}
    (same : ∀ p ∈ ps, f p = g p) : joinPieces f ps = joinPieces g ps := by
  induction ps with
  | nil => rfl
  | cons p ps ih =>
    rw [joinPieces, joinPieces, same p List.mem_cons_self,
      ih fun q mem => same q (List.mem_cons_of_mem _ mem)]

theorem expandWithin_congr {env env' : Environment} (depth : Nat) {cs : List Char}
    (agree : ∀ n, Consults env cs n → env'.text? n = env.text? n) :
    env'.expandWithin depth cs = env.expandWithin depth cs := by
  induction depth generalizing cs with
  | zero => rfl
  | succ depth ih =>
    rw [expandWithin_succ, expandWithin_succ]
    refine joinPieces_congr fun p mem => ?_
    cases p with
    | plain c => rfl
    | hole name =>
      rw [expandPiece, expandPiece, agree _ (.here mem)]
      cases found : env.text? (String.ofList name) with
      | none => rfl
      | some value => exact ih fun n inner => agree n (.within mem found inner)

/-- **Two environments expand a text alike if they agree on the names it consults.** -/
theorem expand_congr {env env' : Environment} {text : String}
    (agree : ∀ n, Consults env text.toList n → env'.text? n = env.text? n) :
    env'.expand text = env.expand text := by
  unfold expand
  rw [expandWithin_congr expansionLimit agree]

end Wiring.Config.Environment
