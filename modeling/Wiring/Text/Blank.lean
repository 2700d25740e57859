/-
# Wiring.Text.Blank -- three classes of blank characters, and cutting text at them

Expressions, attributes and comparisons each skip their own set of blanks:

* `isAsciiBlank`: space, tab, line feed, form feed, carriage return (arithmetic);
* `isWordBlank`: those and the vertical tab (comparisons);
* `isBlank`: the 25 code points of Unicode `White_Space` (timespans, list items,
  class names).

Texts are cut as lists of characters.  `trimBy` drops a class at both ends,
`words` is the runs of non-blank characters, `splitOn` keeps empty segments.
-/
import Wiring.Text.Classes

namespace Wiring.Text

set_option autoImplicit false

/-! ## Classes -/

/-- Space, tab, line feed, form feed or carriage return. -/
def isAsciiBlank (c : Char) : Bool :=
  c == ' ' || c == '\t' || c == '\n' || c == '\x0c' || c == '\r'

/-- An ASCII blank or the vertical tab. -/
def isWordBlank (c : Char) : Bool :=
  isAsciiBlank c || c == '\x0b'

/-- The ranges of the Unicode property `White_Space`, ends included. -/
def blankRanges : List (Nat × Nat) :=
  [(0x09, 0x0d), (0x20, 0x20), (0x85, 0x85), (0xa0, 0xa0), (0x1680, 0x1680), (0x2000, 0x200a),
   (0x2028, 0x2029), (0x202f, 0x202f), (0x205f, 0x205f), (0x3000, 0x3000)]

/-- A character of the Unicode property `White_Space`. -/
def isBlank (c : Char) : Bool := inRanges blankRanges c

/-! ## Cutting -/

/-- Drops the characters of class `p` at both ends. -/
def trimBy (p : Char → Bool) (cs : List Char) : List Char :=
  ((cs.dropWhile p).reverse.dropWhile p).reverse

/-- Drops Unicode blanks at both ends. -/
def trim (s : String) : String :=
  String.ofList (trimBy isBlank s.toList)

def isAllBlank (s : String) : Bool :=
  s.toList.all isBlank

/-- The segments between characters of class `p`, empty ones kept; never the empty list. -/
def splitOn (p : Char → Bool) : List Char → List (List Char)
  | [] => [[]]
  | c :: cs =>
    if p c then [] :: splitOn p cs
    else
      match splitOn p cs with
      | [] => [[c]]
      | s :: rest => (c :: s) :: rest

/-- The maximal runs of non-blank characters. -/
def words (cs : List Char) : List (List Char) :=
  (splitOn isBlank cs).filter (!·.isEmpty)

/-- The text before the first `c`, and the text after it. -/
def cutAt (c : Char) : List Char → Option (List Char × List Char)
  | [] => none
  | d :: ds =>
    if d == c then some ([], ds)
    else (cutAt c ds).map fun r => (d :: r.1, r.2)

/-! ## Lemmas -/

theorem cutAt_eq_some {c : Char} {cs a b : List Char} (h : cutAt c cs = some (a, b)) :
    cs = a ++ c :: b := by
  induction cs generalizing a with
  | nil => simp [cutAt] at h
  | cons d ds ih =>
    unfold cutAt at h
    split at h
    · next e => simp only [Option.some.injEq, Prod.mk.injEq] at h; simp_all
    · obtain ⟨⟨u, v⟩, hu, he⟩ := Option.map_eq_some_iff.1 h
      simp only [Prod.mk.injEq] at he
      obtain ⟨rfl, rfl⟩ := he
      simp [ih hu]

end Wiring.Text
