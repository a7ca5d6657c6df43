import SchemaBindings.Toml.Build
import SchemaBindings.Toml.Quote
import SchemaBindings.Toml.Scalar

/-! From TOML text to its root table. Offsets count bytes. -/

namespace SchemaBindings.Toml

open Text (Cursor)

def skipBlanks (c : Cursor) : Cursor :=
  c.skipWhile isBlankInLine

/-- A line feed, alone or after a carriage return. -/
def lineBreak? (c : Cursor) : Option Cursor :=
  match c.rest with
  | '\n' :: rest => some ⟨rest, c.offset + 1⟩
  | '\r' :: '\n' :: rest => some ⟨rest, c.offset + 2⟩
  | _ => none

def skipComment (c : Cursor) : Cursor :=
  match c.rest with
  | '#' :: _ => c.skipWhile isPlain
  | _ => c

def endLine? (c : Cursor) : Option Cursor :=
  let c := skipComment (skipBlanks c)
  if c.rest.isEmpty then some c else lineBreak? c

def skipTrivia : (fuel : Nat) → Cursor → Cursor
  | 0, c => c
  | fuel + 1, c =>
    let c := skipComment (skipBlanks c)
    match lineBreak? c with
    | some next => skipTrivia fuel next
    | none => c

def skipAll (c : Cursor) : Cursor :=
  skipTrivia c.rest.length c

def spanFrom (start after : Cursor) : Span :=
  ⟨start.offset, after.offset - start.offset⟩

/-- The deepest nesting of brackets, and the most keys of one path. -/
def nestingLimit : Nat := 80

/-! ### Keys -/

def isBareKey (c : Char) : Bool :=
  c.isAlphanum || c = '_' || c = '-'

def scanSimpleKey (c : Cursor) : Option (Key × Cursor) :=
  match c.takeWhile isBareKey with
  | ([], _) => (scanShortQuote c).map fun (name, after) =>
      (⟨String.ofList name, spanFrom c after⟩, after)
  | (name, after) => some (⟨String.ofList name, spanFrom c after⟩, after)

def scanKeys : (limit : Nat) → Cursor → Option (List Key × Cursor)
  | 0, _ => none
  | limit + 1, c => do
    let (key, after) ← scanSimpleKey (skipBlanks c)
    let after := skipBlanks after
    match after.rest with
    | '.' :: rest => do
      let (keys, after) ← scanKeys limit ⟨rest, after.offset + 1⟩
      return (key :: keys, after)
    | _ => return ([key], after)

def scanKeyPath (c : Cursor) : Option (List Key × Cursor) :=
  scanKeys nestingLimit c

def splitLast? : List Key → Option (List Key × Key)
  | [] => none
  | [key] => some ([], key)
  | key :: keys => (splitLast? keys).map fun (before, last) => (key :: before, last)

/-! ### Values -/

def isScalarChar (c : Char) : Bool :=
  c.isAlphanum || c = '+' || c = '-' || c = '_' || c = '.' || c = ':'

/-- A date may be followed by a time after one space. -/
def takeScalar (c : Cursor) : List Char × Cursor :=
  let (run, after) := c.takeWhile isScalarChar
  match after.rest with
  | ' ' :: d :: _ =>
    if date? run = some [] ∧ d.isDigit then
      let (time, after) := Cursor.takeWhile ⟨after.rest.drop 1, after.offset + 1⟩ isScalarChar
      (run ++ ' ' :: time, after)
    else (run, after)
  | _ => (run, after)

def scanSimple (c : Cursor) : Option (Node × Cursor) :=
  match c.rest with
  | [] => none
  | d :: _ =>
    if d = '"' || d = '\'' then
      (scanQuote c).map fun (text, after) =>
        (.string (spanFrom c after) (String.ofList text), after)
    else
      let (run, after) := takeScalar c
      (scalar? (spanFrom c after) run).map fun node => (node, after)

mutual

def scanValue : (fuel depth : Nat) → Cursor → Option (Node × Cursor)
  | 0, _, _ => none
  | fuel + 1, depth, c =>
    match c.rest, depth with
    | '[' :: _, 0 => none
    | '\x7b' :: _, 0 => none
    | '[' :: rest, depth + 1 => do
      let (items, after) ← scanItems fuel depth ⟨rest, c.offset + 1⟩
      return (.array (spanFrom c after) items, after)
    | '\x7b' :: rest, depth + 1 => do
      let (entries, after) ← scanEntries fuel depth [] ⟨rest, c.offset + 1⟩
      return (.table (spanFrom c after) .inline entries, after)
    | _, _ => scanSimple c

/-- The items up to the closing bracket. A comma may follow the last. -/
def scanItems : (fuel depth : Nat) → Cursor → Option (List Node × Cursor)
  | 0, _, _ => none
  | fuel + 1, depth, c =>
    let c := skipAll c
    match c.rest with
    | ']' :: rest => some ([], ⟨rest, c.offset + 1⟩)
    | _ => do
      let (item, after) ← scanValue fuel depth c
      let after := skipAll after
      match after.rest with
      | ',' :: rest => do
        let (items, after) ← scanItems fuel depth ⟨rest, after.offset + 1⟩
        return (item :: items, after)
      | ']' :: rest => return ([item], ⟨rest, after.offset + 1⟩)
      | _ => none

def scanEntries : (fuel depth : Nat) → Entries → Cursor → Option (Entries × Cursor)
  | 0, _, _, _ => none
  | fuel + 1, depth, entries, c =>
    let c := skipAll c
    match c.rest with
    | '\x7d' :: rest => some (entries, ⟨rest, c.offset + 1⟩)
    | _ => do
      let (path, after) ← scanKeyPath c
      let (keys, key) ← splitLast? path
      let after ← (skipAll after).skip? ['=']
      let (value, after) ← scanValue fuel depth (skipAll after)
      let entries ← setKey [] keys key value entries
      let after := skipAll after
      match after.rest with
      | ',' :: rest => scanEntries fuel depth entries ⟨rest, after.offset + 1⟩
      | '\x7d' :: rest => return (entries, ⟨rest, after.offset + 1⟩)
      | _ => none

end

/-! ### Documents -/

/-- The tables so far and the path of the one that takes the next keys. -/
structure Draft where
  root : Entries
  path : List Key

def scanKeyValue (d : Draft) (c : Cursor) : Option (Draft × Cursor) := do
  let (path, after) ← scanKeyPath c
  let (keys, key) ← splitLast? path
  let after ← after.skip? ['=']
  let after := skipBlanks after
  let (value, after) ← scanValue (2 * after.rest.length + 2) nestingLimit after
  let root ← setKey d.path keys key value d.root
  return ({ d with root }, after)

def scanHeader (brackets : List Char) (edit : Key → Span → Edit) (d : Draft)
    (start after : Cursor) : Option (Draft × Cursor) := do
  let (path, after) ← scanKeyPath after
  let (keys, key) ← splitLast? path
  let after ← after.skip? brackets
  let root ← editUnder false (edit key (spanFrom start after)) keys .header d.root
  return (⟨root, path⟩, after)

def scanStatement (d : Draft) (c : Cursor) : Option (Draft × Cursor) :=
  match c.rest with
  | '[' :: '[' :: rest => scanHeader [']', ']'] appendTable d c ⟨rest, c.offset + 2⟩
  | '[' :: rest => scanHeader [']'] openTable d c ⟨rest, c.offset + 1⟩
  | _ => scanKeyValue d c

def scanStatements : (fuel : Nat) → Draft → Cursor → Option Draft
  | 0, _, _ => none
  | fuel + 1, d, c =>
    let c := skipAll c
    if c.rest.isEmpty then some d
    else do
      let (d, after) ← scanStatement d c
      scanStatements fuel d (← endLine? after)

def byteOrderMark : Char := '\ufeff'

def scanDocument? (text : List Char) : Option Node :=
  let start := Cursor.start text
  let start := (start.skip? [byteOrderMark]).getD start
  (scanStatements (text.length + 1) ⟨[], []⟩ start).map fun d => .table ⟨0, 0⟩ .header d.root

end SchemaBindings.Toml
