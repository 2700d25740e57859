/-
# Wiring.Pattern.Basic -- patterns for texts

A pattern is a choice between sequences of items.  An item stands for one character
of a kind, for a place between characters, or is a group, and it may be repeated.
A group of flags inside a sequence changes how the rest of its group is understood.
-/
namespace Wiring

set_option autoImplicit false

namespace Pattern

/-- The modes that a group of flags switches on or off, of those that bear on whether a pattern
can be used: matching characters and not bytes, and skipping blanks and comments. -/
structure Flags where
  unicode : Option Bool := none
  verbose : Option Bool := none
  deriving DecidableEq, Repr

/-- A character, and whether it is written as a byte of two hexadecimal digits. -/
structure Literal where
  char : Char
  isByte : Bool := false
  deriving DecidableEq, Repr

/-- A part of a class in brackets.  The operands of a nested class are joined by set
operations. -/
inductive Part where
  | one (l : Literal)
  | range (first last : Literal)
  | shorthand (negated : Bool)
  | property (name : Char)
  | named (negated : Bool)
  | nested (negated : Bool) (operands : List (List Part))

end Pattern

inductive Pattern where
  | flags (f : Pattern.Flags)
  | literal (l : Pattern.Literal)
  | anyChar
  | edge
  | wordEdge
  | shorthand (negated : Bool)
  | property (name : Char)
  | bracket (negated : Bool) (operands : List (List Pattern.Part))
  | repeated (p : Pattern)
  | group (f : Pattern.Flags) (p : Pattern)
  | sequence (ps : List Pattern)
  | choice (ps : List Pattern)

namespace Pattern

/-! ## Nesting -/

/-- How deep set operations are nested, each of which has all before it as its first operand. -/
def operationDepth : List Nat → Nat
  | [] => 0
  | d :: ds => ds.foldl (fun before d => 1 + max before d) d

mutual

/-- How deep a part of a class is nested. -/
def Part.depth : Part → Nat
  | .nested _ operands => 1 + operationDepth (operandDepths operands)
  | _ => 0

def partsDepth : List Part → Nat
  | [] => 0
  | p :: ps => max p.depth (partsDepth ps)

/-- How deep each operand is nested; one of a single part is that part. -/
def operandDepths : List (List Part) → List Nat
  | [] => []
  | ps :: rest => (if 1 < ps.length then 1 + partsDepth ps else partsDepth ps) :: operandDepths rest

end

mutual

/-- How deep a pattern is nested; a sequence of a single item is that item. -/
def depth : Pattern → Nat
  | .bracket _ operands => 1 + operationDepth (operandDepths operands)
  | .repeated p => 1 + p.depth
  | .group _ p => 1 + p.depth
  | .sequence ps => if 1 < ps.length then 1 + greatestDepth ps else greatestDepth ps
  | .choice ps => 1 + greatestDepth ps
  | _ => 0

def greatestDepth : List Pattern → Nat
  | [] => 0
  | p :: ps => max p.depth (greatestDepth ps)

end

/-! ## Use -/

mutual

/-- Whether a part of a class of bytes holds bytes of ASCII only. -/
def Part.isAscii : Part → Bool
  | .one l => l.char.toNat < 128
  | .range first last => first.char.toNat < 128 && last.char.toNat < 128
  | .shorthand negated => !negated
  | .property _ => false
  | .named negated => !negated
  | .nested negated operands => !negated && operandsAscii operands

def partsAscii : List Part → Bool
  | [] => true
  | p :: ps => p.isAscii && partsAscii ps

def operandsAscii : List (List Part) → Bool
  | [] => true
  | ps :: rest => partsAscii ps && operandsAscii rest

end

mutual

/-- Checks whether a pattern can be used, and gives the mode for what follows it.  Bytes beyond
ASCII are parts of characters, so nothing that matches single ones can be used, and the edges of
words are known for ASCII only. -/
def check (unicode : Bool) : Pattern → Option Bool
  | .flags f => some (f.unicode.getD unicode)
  | .literal l => if !unicode && l.isByte && 128 ≤ l.char.toNat then none else some unicode
  | .anyChar => if unicode then some unicode else none
  | .edge => some unicode
  | .wordEdge => if unicode then none else some unicode
  | .shorthand negated => if !unicode && negated then none else some unicode
  | .property _ => if unicode then some unicode else none
  | .bracket negated operands =>
    if unicode || (!negated && operandsAscii operands) then some unicode else none
  | .repeated p => check unicode p
  | .group f p => (check (f.unicode.getD unicode) p).map fun _ => unicode
  | .sequence ps => checkAll unicode ps
  | .choice ps => checkAll unicode ps

def checkAll (unicode : Bool) : List Pattern → Option Bool
  | [] => some unicode
  | p :: ps =>
    match check unicode p with
    | some mode => checkAll mode ps
    | none => none

end

def depthLimit : Nat := 250

def isUsable (p : Pattern) : Bool := p.depth ≤ depthLimit && (p.check true).isSome

end Pattern

end Wiring
