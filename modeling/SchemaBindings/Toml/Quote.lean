import SchemaBindings.Text.Cursor

/-! The four kinds of quoted text. Each reader stands just after the opening quotes. -/

namespace SchemaBindings.Toml

open Text (Cursor hexNumber?)

def isPlain (c : Char) : Bool :=
  c = '\t' || (32 ≤ c.toNat && c.toNat ≠ 127)

def simpleEscape? (c : Char) : Option Char :=
  if c = '"' || c = '\\' then some c
  else if c = 'b' then some '\x08'
  else if c = 't' then some '\t'
  else if c = 'n' then some '\n'
  else if c = 'f' then some '\x0c'
  else if c = 'r' then some '\r'
  else if c = 'e' then some '\x1b'
  else none

def codePoint? (digits : List Char) : Option Char :=
  (hexNumber? digits).bind fun n => if h : n.isValidChar then some (Char.ofNatAux n h) else none

/-- A backslash at the end of a line swallows the blanks up to the next character. -/
inductive Fold where
  | none
  | wanted
  | folding
  deriving DecidableEq, Repr

def closed (reversed : List Char) (offset : Nat) (rest : List Char) : Option (List Char × Cursor) :=
  some (reversed.reverse, ⟨rest, offset⟩)

def scanLiteral (reversed : List Char) (offset : Nat) : List Char → Option (List Char × Cursor)
  | [] => none
  | c :: rest =>
    if c = '\'' then closed reversed (offset + 1) rest
    else if isPlain c then scanLiteral (c :: reversed) (offset + c.utf8Size) rest
    else none

/-- Up to two quotes may stand before the closing three. -/
def scanLongLiteral (reversed : List Char) (offset : Nat) :
    List Char → Option (List Char × Cursor)
  | [] => none
  | '\'' :: '\'' :: '\'' :: '\'' :: '\'' :: rest =>
    closed ('\'' :: '\'' :: reversed) (offset + 5) rest
  | '\'' :: '\'' :: '\'' :: '\'' :: rest => closed ('\'' :: reversed) (offset + 4) rest
  | '\'' :: '\'' :: '\'' :: rest => closed reversed (offset + 3) rest
  | '\r' :: '\n' :: rest => scanLongLiteral ('\n' :: '\r' :: reversed) (offset + 2) rest
  | c :: rest =>
    if isPlain c || c = '\n' then scanLongLiteral (c :: reversed) (offset + c.utf8Size) rest
    else none

def scanBasic (reversed : List Char) (offset : Nat) : List Char → Option (List Char × Cursor)
  | [] => none
  | '\\' :: 'x' :: a :: b :: rest =>
    (codePoint? [a, b]).bind fun c => scanBasic (c :: reversed) (offset + 4) rest
  | '\\' :: 'u' :: a :: b :: c :: d :: rest =>
    (codePoint? [a, b, c, d]).bind fun c => scanBasic (c :: reversed) (offset + 6) rest
  | '\\' :: 'U' :: a :: b :: c :: d :: e :: f :: g :: h :: rest =>
    (codePoint? [a, b, c, d, e, f, g, h]).bind fun c => scanBasic (c :: reversed) (offset + 10) rest
  | '\\' :: e :: rest =>
    (simpleEscape? e).bind fun c => scanBasic (c :: reversed) (offset + 2) rest
  | c :: rest =>
    if c = '"' then closed reversed (offset + 1) rest
    else if c ≠ '\\' ∧ isPlain c then scanBasic (c :: reversed) (offset + c.utf8Size) rest
    else none

def isBlankInLine (c : Char) : Bool :=
  c = ' ' || c = '\t'

def scanLongBasic (fold : Fold) (reversed : List Char) (offset : Nat) :
    List Char → Option (List Char × Cursor)
  | [] => none
  | '\r' :: '\n' :: rest =>
    match fold with
    | .none => scanLongBasic .none ('\n' :: '\r' :: reversed) (offset + 2) rest
    | _ => scanLongBasic .folding reversed (offset + 2) rest
  | '\n' :: rest =>
    match fold with
    | .none => scanLongBasic .none ('\n' :: reversed) (offset + 1) rest
    | _ => scanLongBasic .folding reversed (offset + 1) rest
  | c :: rest =>
    if fold ≠ .none ∧ isBlankInLine c then scanLongBasic fold reversed (offset + 1) rest
    else if fold = .wanted then none
    else
      match c, rest with
      | '"', '"' :: '"' :: '"' :: '"' :: after => closed ('"' :: '"' :: reversed) (offset + 5) after
      | '"', '"' :: '"' :: '"' :: after => closed ('"' :: reversed) (offset + 4) after
      | '"', '"' :: '"' :: after => closed reversed (offset + 3) after
      | '\\', 'x' :: a :: b :: after =>
        (codePoint? [a, b]).bind fun c => scanLongBasic .none (c :: reversed) (offset + 4) after
      | '\\', 'u' :: a :: b :: c :: d :: after =>
        (codePoint? [a, b, c, d]).bind fun c =>
          scanLongBasic .none (c :: reversed) (offset + 6) after
      | '\\', 'U' :: a :: b :: c :: d :: e :: f :: g :: h :: after =>
        (codePoint? [a, b, c, d, e, f, g, h]).bind fun c =>
          scanLongBasic .none (c :: reversed) (offset + 10) after
      | '\\', ' ' :: after => scanLongBasic .wanted reversed (offset + 2) after
      | '\\', '\t' :: after => scanLongBasic .wanted reversed (offset + 2) after
      | '\\', '\n' :: after => scanLongBasic .folding reversed (offset + 2) after
      | '\\', '\r' :: '\n' :: after => scanLongBasic .folding reversed (offset + 3) after
      | '\\', e :: after =>
        (simpleEscape? e).bind fun c => scanLongBasic .none (c :: reversed) (offset + 2) after
      | c, after =>
        if c ≠ '\\' ∧ isPlain c then scanLongBasic .none (c :: reversed) (offset + c.utf8Size) after
        else none

/-- A line feed right after the opening quotes is not part of the text. -/
def dropFirstBreak (c : Cursor) : Cursor :=
  match c.rest with
  | '\n' :: rest => ⟨rest, c.offset + 1⟩
  | '\r' :: '\n' :: rest => ⟨rest, c.offset + 2⟩
  | _ => c

def scanShortQuote (c : Cursor) : Option (List Char × Cursor) :=
  match c.rest with
  | '"' :: rest => scanBasic [] (c.offset + 1) rest
  | '\'' :: rest => scanLiteral [] (c.offset + 1) rest
  | _ => none

def scanQuote (c : Cursor) : Option (List Char × Cursor) :=
  match c.rest with
  | '"' :: '"' :: '"' :: rest =>
    let inside := dropFirstBreak ⟨rest, c.offset + 3⟩
    scanLongBasic .none [] inside.offset inside.rest
  | '\'' :: '\'' :: '\'' :: rest =>
    let inside := dropFirstBreak ⟨rest, c.offset + 3⟩
    scanLongLiteral [] inside.offset inside.rest
  | _ => scanShortQuote c

end SchemaBindings.Toml
