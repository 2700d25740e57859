/-
# Wiring.Text.Bytes -- texts cut at positions in bytes

A position counts the bytes of the characters before it, in UTF-8.  A text cannot be
cut inside of a character.
-/
namespace Wiring.Text

set_option autoImplicit false

def byteSize (cs : List Char) : Nat := (cs.map Char.utf8Size).foldr (· + ·) 0

/-- The text behind a position. -/
def dropBytes? : Nat → List Char → Option (List Char)
  | 0, cs => some cs
  | _ + 1, [] => none
  | n + 1, c :: cs => if c.utf8Size ≤ n + 1 then dropBytes? (n + 1 - c.utf8Size) cs else none

/-- The text before a position. -/
def takeBytes? : Nat → List Char → Option (List Char)
  | 0, _ => some []
  | _ + 1, [] => none
  | n + 1, c :: cs =>
    if c.utf8Size ≤ n + 1 then (takeBytes? (n + 1 - c.utf8Size) cs).map (c :: ·) else none

/-- The text between two positions. -/
def between? (cs : List Char) (start stop : Nat) : Option (List Char) :=
  (dropBytes? start cs).bind (takeBytes? (stop - start))

/-! ## Lemmas -/

theorem byteSize_cons (c : Char) (cs : List Char) :
    byteSize (c :: cs) = c.utf8Size + byteSize cs := rfl

theorem byteSize_append (a b : List Char) : byteSize (a ++ b) = byteSize a + byteSize b := by
  induction a with
  | nil => simp [byteSize]
  | cons c a ih => rw [List.cons_append, byteSize_cons, byteSize_cons, ih, Nat.add_assoc]

/-- The bytes of a text that is not empty: those of its first character, and the others. -/
theorem byteSize_cons_succ (c : Char) (cs : List Char) :
    ∃ n, byteSize (c :: cs) = n + 1 ∧ c.utf8Size ≤ n + 1 ∧ n + 1 - c.utf8Size = byteSize cs := by
  have positive := c.utf8Size_pos
  refine ⟨c.utf8Size + byteSize cs - 1, ?_, ?_, ?_⟩
  · rw [byteSize_cons]
    omega
  · omega
  · omega

theorem dropBytes?_append (a b : List Char) : dropBytes? (byteSize a) (a ++ b) = some b := by
  induction a with
  | nil => exact dropBytes?.eq_1 b
  | cons c a ih =>
    obtain ⟨n, size, fits, rest⟩ := byteSize_cons_succ c a
    rw [size, List.cons_append, dropBytes?, if_pos fits, rest, ih]

theorem takeBytes?_append (a b : List Char) : takeBytes? (byteSize a) (a ++ b) = some a := by
  induction a with
  | nil => exact takeBytes?.eq_1 b
  | cons c a ih =>
    obtain ⟨n, size, fits, rest⟩ := byteSize_cons_succ c a
    rw [size, List.cons_append, takeBytes?, if_pos fits, rest, ih]
    rfl

/-- A part of a text lies between two positions. -/
theorem between?_append (a b c : List Char) :
    between? (a ++ (b ++ c)) (byteSize a) (byteSize a + byteSize b) = some b := by
  rw [between?, dropBytes?_append, Nat.add_sub_cancel_left]
  exact takeBytes?_append b c

end Wiring.Text
