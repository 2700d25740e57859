/-
# Wiring.Toml.Document -- reading a document into one table

A document is a list of lines: `key = value`, table headers, and blank lines.  A
table under construction (`Draft`) remembers how it came about, because a table may
be opened by a header once, and dotted keys extend only tables that dotted keys
made.
-/
import Wiring.Toml.Scan
import Wiring.Toml.Scalar

namespace Wiring.Toml

set_option autoImplicit false

/-! ## Tables under construction -/

mutual

/-- What a key of a table under construction holds. -/
inductive Entry where
  | value (v : Value)
  | draft (t : Draft)
  | drafts (ts : List Draft)

/-- A table under construction: whether a header or key below it made it, whether that was a
dotted key, and its entries. -/
inductive Draft where
  | mk (implied dotted : Bool) (entries : List (String × Entry))

end

namespace Draft

/-- Whether a header or key below the table made it. -/
def implied : Draft → Bool
  | mk i _ _ => i

def dotted : Draft → Bool
  | mk _ d _ => d

def entries : Draft → List (String × Entry)
  | mk _ _ es => es

def opened (es : List (String × Entry)) : Draft := mk false false es

def withEntries (t : Draft) (es : List (String × Entry)) : Draft := mk t.implied t.dotted es

/-- Sets a key, replacing its former entry. -/
def set (t : Draft) (k : String) (e : Entry) : Draft :=
  if (t.entries.lookup k).isSome then
    t.withEntries (t.entries.map fun p => if p.1 == k then (k, e) else p)
  else t.withEntries (t.entries ++ [(k, e)])

def erase (t : Draft) (k : String) : Draft := t.withEntries (t.entries.filter (·.1 != k))

/-- Changes the table under a path, making the tables on the way; of an array of tables the last
one is meant.  A dotted path passes only tables that no header opened. -/
def descend (dotted : Bool) (change : Draft → Option Draft) : List String → Draft → Option Draft
  | [], t => change t
  | k :: path, t =>
    match t.entries.lookup k with
    | none => do
      let inner ← descend dotted change path (mk true dotted [])
      return t.set k (.draft inner)
    | some (.value _) => none
    | some (.drafts ts) => do
      let last ← ts.getLast?
      let inner ← descend dotted change path last
      return t.set k (.drafts (ts.dropLast ++ [inner]))
    | some (.draft inner) =>
      if dotted && !inner.implied then none
      else do
        let inner ← descend dotted change path inner
        return t.set k (.draft inner)

/-- Adds `key = value`; the table a dotted key leads to is one that dotted keys made. -/
def put (path : List String) (k : String) (v : Value) (t : Draft) : Option Draft :=
  descend (!path.isEmpty) (fun inner =>
    if inner.dotted == path.isEmpty then none
    else if (inner.entries.lookup k).isSome then none
    else some (inner.set k (.value v))) path t

end Draft

mutual

def Entry.finish : Entry → Value
  | .value v => v
  | .draft t => .table (Draft.finish t)
  | .drafts ts => .array (Entry.finishAll ts)

/-- The fields of a finished table, in the order they were set. -/
def Draft.finish : Draft → Table
  | .mk _ _ es => Entry.finishFields es

def Entry.finishAll : List Draft → List Value
  | [] => []
  | t :: ts => .table (Draft.finish t) :: Entry.finishAll ts

def Entry.finishFields : List (String × Entry) → Table
  | [] => []
  | (k, e) :: es => (k, Entry.finish e) :: Entry.finishFields es

end

/-! ## The final form -/

def sortFields (fields : Table) : Table := fields.mergeSort fun a b => decide (a.1 ≤ b.1)

/-- The key that makes a table a moment, given as a text, if it is set before all others. -/
def momentKey : String := "$__toml_private_datetime"

/-- What a table gives as the text of a moment. -/
def momentField? : Table → Option Value
  | (k, v) :: _ => if k == momentKey then some v else none
  | [] => none

/-- A moment given as a text. -/
def quotedMoment? : Value → Option Value
  | .text s => (moment? s.toList).map .moment
  | _ => none

mutual

/-- Puts the fields of all tables in order, and moments in the place of the tables that give them
as texts; whatever else such a table holds does not count. -/
def Value.settle? : Value → Option Value
  | .array vs => (Value.settleAll? vs).map .array
  | .table fs =>
    match momentField? fs with
    | some v => quotedMoment? v
    | none => (Value.settleFields? fs).map fun fs => .table (sortFields fs)
  | v => some v

def Value.settleAll? : List Value → Option (List Value)
  | [] => some []
  | v :: vs => do return (← Value.settle? v) :: (← Value.settleAll? vs)

def Value.settleFields? : List (String × Value) → Option Table
  | [] => some []
  | (k, v) :: fs => do return (k, ← Value.settle? v) :: (← Value.settleFields? fs)

end

/-! ## Values -/

/-- Reads the items of an array up to its bracket; `fuel` bounds their number. -/
def arrayItems (item : List Char → Scanned Value) :
    Nat → List Char → Option (List Value × List Char)
  | 0, _ => none
  | fuel + 1, cs =>
    match skipBlank cs.length cs with
    | ']' :: rest => some ([], rest)
    | cs => do
      let (v, rest) ← item cs
      match skipBlank rest.length rest with
      | ',' :: rest =>
        let (vs, rest) ← arrayItems item fuel rest
        return (v :: vs, rest)
      | ']' :: rest => return ([v], rest)
      | _ => none

/-- Reads `key = value` pairs up to the brace, all on one line; `fuel` bounds their number. -/
def inlineFields (item : List Char → Scanned Value) :
    Nat → Draft → List Char → Option (Draft × List Char)
  | 0, _, _ => none
  | fuel + 1, t, cs => do
    let ((path, k), rest) ← key cs
    let rest ← mark? '=' rest
    let (v, rest) ← item (skipSpace rest)
    let t ← t.put path k v
    match skipSpace rest with
    | ',' :: rest => inlineFields item fuel t rest
    | '}' :: rest => return (t, rest)
    | _ => none

def inlineTable (item : List Char → Scanned Value) (cs : List Char) :
    Option (Value × List Char) :=
  match skipSpace cs with
  | '}' :: rest => some (.table [], rest)
  | cs => do
    let (t, rest) ← inlineFields item (cs.length + 1) (Draft.opened []) cs
    return (.table t.finish, rest)

/-- Reads a value that nests fewer than `depth` further levels. -/
def value : Nat → List Char → Scanned Value
  | 0, cs =>
    match cs with
    | '"' :: _ | '\'' :: _ => (quotedText cs).map fun p => (.text (String.ofList p.1), p.2)
    | cs => scalar cs
  | depth + 1, cs =>
    match cs with
    | '"' :: _ | '\'' :: _ => (quotedText cs).map fun p => (.text (String.ofList p.1), p.2)
    | '[' :: rest =>
      (arrayItems (value depth) (rest.length + 1) rest).map fun p => (.array p.1, p.2)
    | '\x7b' :: rest => inlineTable (value depth) rest
    | cs => scalar cs

/-! ## Lines -/

/-- A document being read: the tables put in place, and the one that lines now add to, with its
path and whether it is an item of an array. -/
structure Assembly where
  root : Draft
  current : Draft
  path : List String
  item : Bool

namespace Assembly

/-- Before the first line. -/
def start : Assembly := ⟨Draft.opened [], Draft.opened [], [], false⟩

/-- Puts the current table in its place. -/
def settle (a : Assembly) : Option Draft :=
  match a.path.getLast? with
  | none => some a.current
  | some k =>
    Draft.descend false (fun t =>
      match t.entries.lookup k, a.item with
      | some (.drafts ts), true => some (t.set k (.drafts (ts ++ [a.current])))
      | none, true => some (t.set k (.drafts [a.current]))
      | none, false => some (t.set k (.draft a.current))
      | _, _ => none) a.path.dropLast a.root

/-- Opens the table of a header; one that only keys or headers below it have made may be opened
once. -/
def openTable (a : Assembly) (path : List String) (k : String) : Option Assembly := do
  let root ← a.settle
  let found ← findEntry path k root
  match found with
  | none =>
    let root ← Draft.descend false some path root
    return ⟨root, Draft.opened [], path ++ [k], false⟩
  | some (.draft t) =>
    if t.implied && !t.dotted then
      let root ← Draft.descend false (fun p => some (p.erase k)) path root
      return ⟨root, Draft.opened t.entries, path ++ [k], false⟩
    else none
  | some _ => none
where
  /-- The entry under a path, `none` outside if the path leads through a value. -/
  findEntry (path : List String) (k : String) (root : Draft) : Option (Option Entry) :=
    match path with
    | [] => some (root.entries.lookup k)
    | p :: path =>
      match root.entries.lookup p with
      | none => some none
      | some (.value _) => none
      | some (.draft t) => findEntry path k t
      | some (.drafts ts) =>
        match ts.getLast? with
        | some t => findEntry path k t
        | none => none

/-- Opens a further item of an array of tables. -/
def openItem (a : Assembly) (path : List String) (k : String) : Option Assembly := do
  let root ← a.settle
  let root ← Draft.descend false (fun t =>
    match t.entries.lookup k with
    | none => some (t.set k (.drafts []))
    | some (.drafts _) => some t
    | some _ => none) path root
  return ⟨root, Draft.opened [], path ++ [k], true⟩

end Assembly

def keyLine (a : Assembly) (cs : List Char) : Option (Assembly × List Char) := do
  let ((path, k), rest) ← key cs
  let rest ← mark? '=' rest
  let (v, rest) ← value (nestingLimit - 1) (skipSpace rest)
  let rest ← endLine? rest
  let current ← a.current.put path k v
  return ({ a with current := current }, rest)

/-- Reads a header line behind its first bracket. -/
def headerLine (a : Assembly) (cs : List Char) : Option (Assembly × List Char) :=
  match cs with
  | '[' :: cs => do
    let ((path, k), rest) ← key cs
    let rest ← mark? ']' rest
    let rest ← mark? ']' rest
    let rest ← endLine? rest
    let a ← a.openItem path k
    return (a, rest)
  | cs => do
    let ((path, k), rest) ← key cs
    let rest ← mark? ']' rest
    let rest ← endLine? rest
    let a ← a.openTable path k
    return (a, rest)

/-- Reads the remaining lines; `fuel` bounds their number. -/
def readLines : Nat → Assembly → List Char → Option Assembly
  | 0, _, _ => none
  | fuel + 1, a, cs =>
    match skipSpace cs with
    | [] => some a
    | '#' :: rest => do readLines fuel a (← endLine? ('#' :: rest))
    | '[' :: rest => do
      let (a, rest) ← headerLine a rest
      readLines fuel a rest
    | c :: rest =>
      match newline? (c :: rest) with
      | some rest => readLines fuel a rest
      | none => do
        let (a, rest) ← keyLine a (c :: rest)
        readLines fuel a rest

/-- Drops a byte order mark. -/
def skipMark : List Char → List Char
  | c :: rest => if c.toNat == 0xfeff then rest else c :: rest
  | [] => []

/-- Reads the tables of a document as they are written. -/
def written? (text : String) : Option Table := do
  let cs := skipMark text.toList
  let a ← readLines (cs.length + 1) .start cs
  return (← a.settle).finish

/-- Reads a document into its final form.  The root is a table whatever its first key. -/
def parse? (text : String) : Option Table := do
  let root ← written? text
  (Value.settleFields? root).map sortFields

end Wiring.Toml
