/-
# Wiring.Toml.Scan -- blanks, comments, quoted texts and keys

Scanners take the rest of a document and return what they read and the new rest,
or nothing when the text has no such form.
-/
import Wiring.Text.Blank

namespace Wiring.Toml

set_option autoImplicit false

/-- What a scanner returns: a value and the rest of the text. -/
abbrev Scanned (α : Type) := Option (α × List Char)

/-! ## Blanks and line ends -/

def isSpace (c : Char) : Bool := c == ' ' || c == '\t'

/-- A character that may stand in a line: no control character but the tab. -/
def isLineChar (c : Char) : Bool := c == '\t' || (0x20 ≤ c.toNat && c.toNat != 0x7f)

def skipSpace (cs : List Char) : List Char := cs.dropWhile isSpace

def newline? : List Char → Option (List Char)
  | '\n' :: rest => some rest
  | '\r' :: '\n' :: rest => some rest
  | _ => none

def skipComment : List Char → List Char
  | '#' :: rest => rest.dropWhile isLineChar
  | cs => cs

/-- Drops blanks, a comment and the line end, which the end of the text stands for too. -/
def endLine? (cs : List Char) : Option (List Char) :=
  match skipComment (skipSpace cs) with
  | [] => some []
  | rest => newline? rest

/-- Drops blanks, comments and line ends; `fuel` bounds their number. -/
def skipBlank : Nat → List Char → List Char
  | 0, cs => cs
  | fuel + 1, cs =>
    let rest := skipComment (skipSpace cs)
    match newline? rest with
    | some more => skipBlank fuel more
    | none => rest

/-! ## Quoted texts -/

/-- The character of a hexadecimal escape, unless it denotes none. -/
def charOfHex? (ds : List Char) : Option Char := do
  let n ← ds.foldlM (fun (n : Nat) d =>
    if d.isDigit then some (16 * n + (d.toNat - 48))
    else if 'a' ≤ d && d ≤ 'f' then some (16 * n + (d.toNat - 87))
    else if 'A' ≤ d && d ≤ 'F' then some (16 * n + (d.toNat - 55))
    else none) 0
  if n < 0xd800 || (0xe000 ≤ n && n < 0x110000) then some (Char.ofNat n) else none

/-- The character of an escape of one letter. -/
def escaped? : Char → Option Char
  | 'b' => some '\x08'
  | 't' => some '\t'
  | 'n' => some '\n'
  | 'f' => some '\x0c'
  | 'r' => some '\r'
  | '"' => some '"'
  | '\\' => some '\\'
  | _ => none

/-- Reads an escape behind its backslash. -/
def escape? : List Char → Scanned Char
  | 'u' :: rest =>
    if rest.length < 4 then none else (charOfHex? (rest.take 4)).map fun c => (c, rest.drop 4)
  | 'U' :: rest =>
    if rest.length < 8 then none else (charOfHex? (rest.take 8)).map fun c => (c, rest.drop 8)
  | c :: rest => (escaped? c).map fun d => (d, rest)
  | [] => none

def consScanned (c : Char) (r : Scanned (List Char)) : Scanned (List Char) :=
  r.map fun p => (c :: p.1, p.2)

/-- Reads a one-line text with escapes up to its closing quote; `fuel` bounds its length. -/
def basicText : Nat → List Char → Scanned (List Char)
  | 0, _ => none
  | fuel + 1, cs =>
    match cs with
    | '"' :: rest => some ([], rest)
    | '\\' :: rest =>
      match escape? rest with
      | some (c, more) => consScanned c (basicText fuel more)
      | none => none
    | c :: rest => if isLineChar c then consScanned c (basicText fuel rest) else none
    | [] => none

/-- Reads a one-line text without escapes up to its closing apostrophe. -/
def literalText : List Char → Scanned (List Char)
  | '\'' :: rest => some ([], rest)
  | c :: rest => if isLineChar c then consScanned c (literalText rest) else none
  | [] => none

/-- Where a text of several lines closes: a run of three to five quotes, of which all but three
belong to the text. -/
def closeLines? (quote : Char) (cs : List Char) : Scanned (List Char) :=
  let run := (cs.takeWhile (· == quote)).length
  if run < 3 then none
  else some (List.replicate (min run 5 - 3) quote, cs.drop (min run 5))

/-- Drops blanks and line ends; `fuel` bounds their number. -/
def skipLines : Nat → List Char → List Char
  | 0, cs => cs
  | fuel + 1, cs =>
    let rest := skipSpace cs
    match newline? rest with
    | some more => skipLines fuel more
    | none => rest

/-- Reads a text of several lines up to its closing quotes.  With escapes, a backslash at the end
of a line drops the blanks that follow.  Line ends become line feeds. -/
def linesText (quote : Char) (escapes : Bool) : Nat → List Char → Scanned (List Char)
  | 0, _ => none
  | fuel + 1, cs =>
    match closeLines? quote cs with
    | some found => some found
    | none =>
      match newline? cs with
      | some more => consScanned '\n' (linesText quote escapes fuel more)
      | none =>
        match cs with
        | [] => none
        | c :: rest =>
          if escapes && c == '\\' then
            match newline? (skipSpace rest) with
            | some more => linesText quote escapes fuel (skipLines more.length more)
            | none =>
              match escape? rest with
              | some (d, more) => consScanned d (linesText quote escapes fuel more)
              | none => none
          else if isLineChar c then consScanned c (linesText quote escapes fuel rest)
          else none

/-- Drops the line end directly behind opening quotes. -/
def skipFirstNewline (cs : List Char) : List Char := (newline? cs).getD cs

/-- Reads a text in any of the four quotations. -/
def quotedText (cs : List Char) : Scanned (List Char) :=
  match cs with
  | '"' :: '"' :: '"' :: rest => linesText '"' true (rest.length + 1) (skipFirstNewline rest)
  | '\'' :: '\'' :: '\'' :: rest => linesText '\'' false (rest.length + 1) (skipFirstNewline rest)
  | '"' :: rest => basicText (rest.length + 1) rest
  | '\'' :: rest => literalText rest
  | _ => none

/-! ## Keys -/

def isBareChar (c : Char) : Bool := c.isAlphanum || c == '_' || c == '-'

/-- Reads one part of a key: quoted on one line, or bare. -/
def keyPart (cs : List Char) : Scanned String :=
  match cs with
  | '"' :: rest => (basicText (rest.length + 1) rest).map fun p => (String.ofList p.1, p.2)
  | '\'' :: rest => (literalText rest).map fun p => (String.ofList p.1, p.2)
  | cs =>
    let bare := cs.takeWhile isBareChar
    if bare.isEmpty then none else some (String.ofList bare, cs.dropWhile isBareChar)

/-- How many parts a key may have, and how deep values may be nested, at most: one less. -/
def nestingLimit : Nat := 80

/-- Reads the parts of a key, separated by dots; `fuel` bounds their number. -/
def keyParts : Nat → List Char → Option (List String × List Char)
  | 0, _ => none
  | fuel + 1, cs => do
    let (part, rest) ← keyPart (skipSpace cs)
    match skipSpace rest with
    | '.' :: more =>
      let (parts, rest) ← keyParts fuel more
      return (part :: parts, rest)
    | rest => return ([part], rest)

/-- Reads a key: the parts before the last, and the last. -/
def key (cs : List Char) : Option ((List String × String) × List Char) := do
  let (parts, rest) ← keyParts (nestingLimit - 1) cs
  let last ← parts.getLast?
  return ((parts.dropLast, last), rest)

end Wiring.Toml
