import SchemaBindings.Json.Value

/-!
The tree of a JSON text with the byte offsets of its parts. A text that breaks off still has a
tree up to that place, so a reader meets wrong shapes and broken syntax in the order of the text.
-/

namespace SchemaBindings.Json

inductive Cause where
  | endInValue
  | endInList
  | endInObject
  | endInString
  | expectedColon
  | expectedListSeparator
  | expectedObjectSeparator
  | expectedIdent
  | expectedValue
  | invalidEscape
  | invalidNumber
  | numberOutOfRange
  | loneSurrogate
  | endOfHexEscape
  | controlCharacter
  | keyMustBeString
  | trailingComma
  | trailingCharacters
  | recursionLimit
  | shape (fault : ShapeFault)
  deriving DecidableEq, Repr

def Cause.message : Cause → String
  | .endInValue => "EOF while parsing a value"
  | .endInList => "EOF while parsing a list"
  | .endInObject => "EOF while parsing an object"
  | .endInString => "EOF while parsing a string"
  | .expectedColon => "expected `:`"
  | .expectedListSeparator => "expected `,` or `]`"
  | .expectedObjectSeparator => "expected `,` or `\x7d`"
  | .expectedIdent => "expected ident"
  | .expectedValue => "expected value"
  | .invalidEscape => "invalid escape"
  | .invalidNumber => "invalid number"
  | .numberOutOfRange => "number out of range"
  | .loneSurrogate => "lone leading surrogate in hex escape"
  | .endOfHexEscape => "unexpected end of hex escape"
  | .controlCharacter => "control character (\\u0000-\\u001F) found while parsing a string"
  | .keyMustBeString => "key must be a string"
  | .trailingComma => "trailing comma"
  | .trailingCharacters => "trailing characters"
  | .recursionLimit => "recursion limit exceeded"
  | .shape fault => fault.message

/-- A fault without a place takes the place where the enclosing list or object is left. -/
structure Fault where
  cause : Cause
  offset : Option Nat
  deriving DecidableEq, Repr

def Fault.at (cause : Cause) (offset : Nat) : Fault :=
  ⟨cause, some offset⟩

def Fault.shapeAt (fault : ShapeFault) (offset : Nat) : Fault :=
  ⟨.shape fault, some offset⟩

def Fault.settle (resume : Nat) (fault : Fault) : Fault :=
  { fault with offset := fault.offset.or (some resume) }

/-- Where the text breaks off, for one who reads the value and for one who skips it. -/
structure Cut where
  reading : Fault
  skipping : Fault
  deriving DecidableEq, Repr

def Cut.both (cause : Cause) (offset : Nat) : Cut :=
  ⟨.at cause offset, .at cause offset⟩

inductive Scalar where
  | null
  | bool (value : Bool)
  | number (value : Number)
  | string (value : String)
  deriving DecidableEq, Repr

inductive Ending where
  | closed (after : Nat)
  | cut (stop : Cut) (closing : Fault)
  deriving DecidableEq, Repr

/-- The offset `resume` is where the object is left when its reading is given up at this key. -/
structure Key where
  name : Except Fault String
  after : Nat
  resume : Nat

mutual

/--
A flawed value can be skipped but not read. The fault of a flawed or broken value is `early` when
it comes before the kind of the value can be told.
-/
inductive Outline where
  | scalar (start : Nat) (value : Scalar) (after : Nat)
  | flawed (start : Nat) (early : Bool) (fault : Fault)
  | broken (start : Nat) (early : Bool) (cut : Cut)
  | array (start : Nat) (items : Items)
  | object (start : Nat) (members : Members)

/-- The offset `resume` is where the list is left when its reading is given up at this item. -/
inductive Items where
  | done (ending : Ending)
  | more (start : Nat) (value : Outline) (resume : Nat) (rest : Items)

inductive Members where
  | done (ending : Ending)
  | more (key : Key) (value : Outline) (resume : Nat) (rest : Members)

end

def Ending.skip? : Ending → Option Fault
  | .closed _ => none
  | .cut stop _ => some stop.skipping

mutual

def Outline.skip? : Outline → Option Fault
  | .scalar .. => none
  | .flawed .. => none
  | .broken _ _ cut => some cut.skipping
  | .array _ items => items.skip?
  | .object _ members => members.skip?

def Items.skip? : Items → Option Fault
  | .done ending => ending.skip?
  | .more _ value _ rest => value.skip?.or rest.skip?

def Members.skip? : Members → Option Fault
  | .done ending => ending.skip?
  | .more _ value _ rest => value.skip?.or rest.skip?

end

def Items.toList : Items → List Outline
  | .done _ => []
  | .more _ value _ rest => value :: rest.toList

def Members.find? (name : String) : Members → Option Outline
  | .done _ => none
  | .more key value _ rest =>
    (rest.find? name).or (if key.name.toOption = some name then some value else none)

end SchemaBindings.Json
