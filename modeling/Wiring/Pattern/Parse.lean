/-
# Wiring.Pattern.Parse -- reading patterns

Patterns stand between braces, so no pattern holds a closing brace: repetitions with
a count, and escapes that name something in braces, are never complete and make a
pattern unreadable.  In the verbose mode blanks and comments are skipped between the
items of a pattern and of a class.
-/
import Wiring.Pattern.Basic
import Wiring.Text.Blank
import Wiring.Text.Classes

namespace Wiring.Pattern

set_option autoImplicit false

/-! ## Blanks -/

/-- Drops blanks and comments; a comment ends with its line. -/
def skipBlanks (inComment : Bool) : List Char → List Char
  | [] => []
  | c :: rest =>
    if inComment then skipBlanks (c != '\n') rest
    else if Text.isBlank c then skipBlanks false rest
    else if c == '#' then skipBlanks true rest
    else c :: rest

def skip (verbose : Bool) (cs : List Char) : List Char :=
  if verbose then skipBlanks false cs else cs

/-- The first character that is no blank; a single mark of a comment is passed over, but not the
comment. -/
def firstShown? (inComment : Bool) : List Char → Option Char
  | [] => none
  | c :: rest =>
    if Text.isBlank c then firstShown? inComment rest
    else if !inComment && c == '#' then firstShown? true rest
    else some c

/-- The character that decides whether a dash makes a range. -/
def peek? (verbose : Bool) (cs : List Char) : Option Char :=
  if verbose then (firstShown? false cs).or cs.head? else cs.head?

/-! ## Escapes -/

def hexValue? (c : Char) : Option Nat :=
  if c.isDigit then some (c.toNat - 48)
  else if 'a' ≤ c && c ≤ 'f' then some (c.toNat - 87)
  else if 'A' ≤ c && c ≤ 'F' then some (c.toNat - 55)
  else none

/-- Reads hexadecimal digits and adds them to a number. -/
def hexDigits? (verbose : Bool) : Nat → Nat → List Char → Option (Nat × List Char)
  | 0, n, cs => some (n, cs)
  | _ + 1, _, [] => none
  | left + 1, n, c :: rest =>
    match hexValue? c with
    | some d => hexDigits? verbose left (16 * n + d) (skip verbose rest)
    | none => none

/-- Reads the character that hexadecimal digits denote. -/
def hexChar? (verbose : Bool) (width : Nat) (cs : List Char) : Option (Char × List Char) := do
  let (n, rest) ← hexDigits? verbose width 0 (skip verbose cs)
  if n.isValidChar then return (Char.ofNat n, rest) else none

/-- The names of one letter that groups of characters have, in lower case. -/
def groupNames : List Char := ['c', 'l', 'm', 'n', 'p', 's', 'z']

/-- Whether a backslash makes a character stand for itself: one of ASCII that is no letter and no
digit, apart from the edges of words. -/
def isEscapable (c : Char) : Bool :=
  c.toNat < 128 && !c.isAlphanum && c != '<' && c != '>'

/-- The control characters with an escape of one letter. -/
def controls : List (Char × Char) :=
  [('a', '\x07'), ('f', '\x0c'), ('t', '\t'), ('n', '\n'), ('r', '\r'), ('v', '\x0b')]

/-- Reads an escape behind its backslash. -/
def escape? (verbose : Bool) : List Char → Option (Pattern × List Char)
  | [] => none
  | 'x' :: rest =>
    (hexChar? verbose 2 rest).map fun p => (.literal { char := p.1, isByte := true }, p.2)
  | 'u' :: rest => (hexChar? verbose 4 rest).map fun p => (.literal { char := p.1 }, p.2)
  | 'U' :: rest => (hexChar? verbose 8 rest).map fun p => (.literal { char := p.1 }, p.2)
  | c :: rest =>
    if c == 'p' || c == 'P' then
      match skip verbose rest with
      | name :: rest =>
        if groupNames.contains name.toLower then some (.property name.toLower, rest) else none
      | [] => none
    else if c == 'd' || c == 's' || c == 'w' then some (.shorthand false, rest)
    else if c == 'D' || c == 'S' || c == 'W' then some (.shorthand true, rest)
    else if c == 'A' || c == 'z' then some (.edge, rest)
    else if c == 'b' || c == 'B' || c == '<' || c == '>' then some (.wordEdge, rest)
    else
      match controls.lookup c with
      | some d => some (.literal { char := d }, rest)
      | none => if isEscapable c then some (.literal { char := c }, rest) else none

/-! ## Classes -/

/-- The names that classes of ASCII characters have inside of brackets. -/
def asciiClasses : List String :=
  ["alnum", "alpha", "ascii", "blank", "cntrl", "digit", "graph", "lower", "print", "punct",
    "space", "upper", "word", "xdigit"]

/-- Reads a class by its name behind the opening bracket, and tells whether it is negated. -/
def namedClass? : List Char → Option (Bool × List Char)
  | ':' :: rest =>
    let (negated, rest) := match rest with
      | '^' :: more => (true, more)
      | rest => (false, rest)
    let name := rest.takeWhile (· != ':')
    match rest.drop name.length with
    | ':' :: ']' :: rest =>
      if asciiClasses.contains (String.ofList name) then some (negated, rest) else none
    | _ => none
  | _ => none

def classItem? (verbose : Bool) : List Char → Option (Pattern × List Char)
  | '\\' :: rest => escape? verbose rest
  | c :: rest => some (.literal { char := c }, rest)
  | [] => none

/-- What an item is as a part of a class. -/
def partOf? : Pattern → Option Part
  | .literal l => some (.one l)
  | .shorthand negated => some (.shorthand negated)
  | .property name => some (.property name)
  | _ => none

/-- Reads an item of a class or a range of characters. -/
def part? (verbose : Bool) (cs : List Char) : Option (Part × List Char) := do
  let (first, rest) ← classItem? verbose cs
  match skip verbose rest with
  | '-' :: more =>
    let next := peek? verbose more
    if next == some ']' || next == some '-' then
      return (← partOf? first, '-' :: more)
    let (last, rest) ← classItem? verbose (skip verbose more)
    match first, last with
    | .literal a, .literal b => if a.char ≤ b.char then return (.range a b, rest) else none
    | _, _ => none
  | [] => none
  | rest => return (← partOf? first, rest)

/-- Reads dashes that stand for themselves; `fuel` bounds their number. -/
def leadingDashes (verbose : Bool) : Nat → List Char → List Part × List Char
  | 0, cs => ([], cs)
  | fuel + 1, cs =>
    match cs with
    | '-' :: rest =>
      let (ps, rest) := leadingDashes verbose fuel (skip verbose rest)
      (.one { char := '-' } :: ps, rest)
    | cs => ([], cs)

/-- Reads the start of a class behind its bracket: whether it is negated, and the dashes and the
closing bracket that stand for themselves there. -/
def openClass (verbose : Bool) (cs : List Char) : Bool × List Part × List Char :=
  let (negated, cs) := match skip verbose cs with
    | '^' :: rest => (true, skip verbose rest)
    | cs => (false, cs)
  let (dashes, cs) := leadingDashes verbose cs.length cs
  match dashes, cs with
  | [], ']' :: rest => (negated, [.one { char := ']' }], skip verbose rest)
  | dashes, cs => (negated, dashes, cs)

/-- Reads the rest of a class up to its bracket, behind parts of its current operand.  `fuel`
bounds the number of parts and operations. -/
def classRest (verbose : Bool) :
    Nat → List Part → List Char → Option (List (List Part) × List Char)
  | 0, _, _ => none
  | fuel + 1, parts, cs =>
    match skip verbose cs with
    | [] => none
    | ']' :: rest => some ([parts], rest)
    | '[' :: rest =>
      match namedClass? rest with
      | some (negated, rest) => classRest verbose fuel (parts ++ [.named negated]) rest
      | none => do
        let (negated, first, rest) := openClass verbose rest
        let (operands, rest) ← classRest verbose fuel first rest
        classRest verbose fuel (parts ++ [.nested negated operands]) rest
    | '&' :: '&' :: rest | '-' :: '-' :: rest | '~' :: '~' :: rest => do
      let (operands, rest) ← classRest verbose fuel [] rest
      return (parts :: operands, rest)
    | cs => do
      let (p, rest) ← part? verbose cs
      classRest verbose fuel (parts ++ [p]) rest

def class? (verbose : Bool) (cs : List Char) : Option (Pattern × List Char) := do
  let (negated, first, rest) := openClass verbose cs
  let (operands, rest) ← classRest verbose (cs.length + 1) first rest
  return (.bracket negated operands, rest)

/-! ## Groups -/

def flagLetters : List Char := ['i', 'm', 's', 'U', 'u', 'R', 'x']

/-- Reads letters of flags up to a colon or a bracket, behind letters that were read before, with
the latest first.  Each letter may occur once, and so may the dash before those that are switched
off. -/
def flags? (before : List Char) (f : Flags) : List Char → Option (Flags × List Char)
  | [] => none
  | c :: rest =>
    if c == ':' || c == ')' then
      if before.head? == some '-' then none else some (f, c :: rest)
    else if before.contains c then none
    else
      let on := !before.contains '-'
      if c == 'u' then flags? (c :: before) { f with unicode := some on } rest
      else if c == 'x' then flags? (c :: before) { f with verbose := some on } rest
      else if c == '-' || flagLetters.contains c then flags? (c :: before) f rest
      else none

def isNameChar (isFirst : Bool) (c : Char) : Bool :=
  if isFirst then c == '_' || Text.isLetter c
  else c == '_' || c == '.' || c == '[' || c == ']' || Text.isLetterOrNumber c

/-- Reads the name of a group up to its closing mark; no two groups have the same name. -/
def groupName? (taken : List (List Char)) (cs : List Char) :
    Option (List Char × List Char) :=
  let name := cs.takeWhile (· != '>')
  match name, cs.drop name.length with
  | first :: more, _ :: rest =>
    if isNameChar true first && more.all (isNameChar false) && !taken.contains name then
      some (name, rest)
    else none
  | _, _ => none

inductive Opened where
  | flags (f : Flags)
  | group (f : Flags) (name : Option (List Char))

def opened? (verbose : Bool) (taken : List (List Char)) (cs : List Char) :
    Option (Opened × List Char) :=
  match skip verbose cs with
  | '?' :: 'P' :: '<' :: rest | '?' :: '<' :: rest =>
    (groupName? taken rest).map fun p => (.group {} (some p.1), p.2)
  | '?' :: rest =>
    match flags? [] {} rest with
    | some (f, ':' :: more) => some (.group f none, more)
    | some (f, _ :: more) => if rest.head? == some ')' then none else some (.flags f, more)
    | _ => none
  | rest => some (.group {} none, rest)

/-! ## Patterns -/

/-- A choice, or its only sequence; the latest is given first. -/
def choiceOf (items : List Pattern) (choices : List Pattern) : Pattern :=
  match choices with
  | [] => .sequence items.reverse
  | _ => .choice (.sequence items.reverse :: choices).reverse

/-- Reads a pattern up to a closing bracket or the end, behind items of its current sequence and
sequences before that, the latest first.  The names of groups go along.  `fuel` bounds the number
of items and bars. -/
def patternRest : Nat → Bool → List (List Char) → List Pattern → List Pattern → List Char →
    Option (Pattern × List (List Char) × List Char)
  | 0, _, _, _, _, _ => none
  | fuel + 1, verbose, taken, items, choices, cs =>
    let goOn (item : Pattern) (rest : List Char) :=
      patternRest fuel verbose taken (item :: items) choices rest
    match skip verbose cs with
    | [] => some (choiceOf items choices, taken, [])
    | ')' :: rest => some (choiceOf items choices, taken, ')' :: rest)
    | '|' :: rest =>
      patternRest fuel verbose taken [] (.sequence items.reverse :: choices) rest
    | '(' :: rest =>
      match opened? verbose taken rest with
      | some (.flags f, rest) =>
        patternRest fuel (f.verbose.getD verbose) taken (.flags f :: items) choices rest
      | some (.group f name, rest) =>
        match patternRest fuel (f.verbose.getD verbose) (name.toList ++ taken) [] [] rest with
        | some (inner, taken, ')' :: rest) =>
          patternRest fuel verbose taken (.group f inner :: items) choices rest
        | _ => none
      | none => none
    | '[' :: rest => do
      let (item, rest) ← class? verbose rest
      goOn item rest
    | '\\' :: rest => do
      let (item, rest) ← escape? verbose rest
      goOn item rest
    | c :: rest =>
      if c == '?' || c == '*' || c == '+' then
        match items with
        | [] => none
        | .flags _ :: _ => none
        | item :: items =>
          let rest := if rest.head? == some '?' then rest.drop 1 else rest
          patternRest fuel verbose taken (.repeated item :: items) choices rest
      else if c == '\x7b' then none
      else if c == '.' then goOn .anyChar rest
      else if c == '^' || c == '$' then goOn .edge rest
      else goOn (.literal { char := c }) rest

def parse? (cs : List Char) : Option Pattern :=
  match patternRest (cs.length + 1) false [] [] [] cs with
  | some (p, _, []) => some p
  | _ => none

end Wiring.Pattern
