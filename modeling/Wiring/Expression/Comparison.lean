/-
# Wiring.Expression.Comparison -- two bare words compared for equality

A comparison is `word == word` or `word != word`, with blanks only around the
operator.  A word is one or more of `A-Z a-z 0-9 _`.  `Comparison.render` writes
one space on either side, which `Comparison.parse?` reads back for words.
-/
import Wiring.Text.Blank
import Wiring.Error

namespace Wiring.Expression

set_option autoImplicit false

open Wiring.Text (isWordBlank)

inductive Relation where
  | equal
  | notEqual
  deriving DecidableEq, Repr

def Relation.symbol : Relation → String
  | .equal => "=="
  | .notEqual => "!="

/-- Two texts and the relation asked about. -/
structure Comparison where
  left : String
  right : String
  relation : Relation
  deriving DecidableEq, Repr

namespace Comparison

def isWordChar (c : Char) : Bool := c.isAlphanum || c == '_'

def holds (e : Comparison) : Bool :=
  match e.relation with
  | .equal => e.left == e.right
  | .notEqual => e.left != e.right

def render (e : Comparison) : String :=
  e.left ++ " " ++ e.relation.symbol ++ " " ++ e.right

/-- Reads an operator at the head of a text. -/
def readRelation? : List Char → Option (Relation × List Char)
  | '=' :: '=' :: rest => some (.equal, rest)
  | '!' :: '=' :: rest => some (.notEqual, rest)
  | _ => none

/-- Reads a comparison that takes up the whole text. -/
def ofChars? (cs : List Char) : Option Comparison := do
  let left := cs.takeWhile isWordChar
  let (relation, rest) ← readRelation? ((cs.dropWhile isWordChar).dropWhile isWordBlank)
  let right := rest.dropWhile isWordBlank
  if left.isEmpty || right.isEmpty || !right.all isWordChar then none
  else some ⟨String.ofList left, String.ofList right, relation⟩

/-- Reads a comparison, or says that the text is none. -/
def parse (text : String) : Except Error Comparison :=
  match ofChars? text.toList with
  | some e => .ok e
  | none => .error (.syntaxFault s!"unrecognized logical expression: '{text}'")

end Comparison

end Wiring.Expression
