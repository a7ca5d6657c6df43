import SchemaBindings.Text.Blank
import SchemaBindings.Text.Search

/-!
The text of a file. Its lines and columns are counted in bytes and stand for offsets.
-/

namespace SchemaBindings

structure SourceText where
  name : String
  text : List Char
  deriving DecidableEq, Repr

/-- Lines count from one; a column is the number of bytes since the last line feed. -/
structure Position where
  line : Nat
  column : Nat
  deriving DecidableEq, Repr

/-- Moves over `count` bytes, which need not end between two characters. -/
def Position.after (p : Position) : List Char → Nat → Position
  | [], _ => p
  | c :: rest, count =>
    if count = 0 then p
    else if c = '\n' then Position.after ⟨p.line + 1, 0⟩ rest (count - 1)
    else Position.after ⟨p.line, p.column + min count c.utf8Size⟩ rest (count - c.utf8Size)

def Position.ofOffset (text : List Char) (offset : Nat) : Position :=
  Position.after ⟨1, 0⟩ text offset

/-- The offset of the byte that ends at a column, never past the text; line zero has none. Offsets
are machine words, and their sum wraps around, as it does where overflow is not checked. -/
def offsetOf? (text : List Char) (line column : UInt64) : Option UInt64 :=
  if line = 0 then none
  else
    let before := ((Text.linePieces text).take (line.toNat - 1)).flatten
    let lineStart := UInt64.ofNat (Text.byteLength before)
    let end_ := UInt64.ofNat (Text.byteLength text)
    some (min (lineStart + UInt64.ofNat (column.toNat - 1)) end_)

structure Span where
  offset : Nat
  length : Nat
  deriving DecidableEq, Repr

end SchemaBindings
