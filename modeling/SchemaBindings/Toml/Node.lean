import SchemaBindings.Number.Binary64
import SchemaBindings.Source.Position

/-! TOML values with the places where they are written. -/

namespace SchemaBindings.Toml

structure Key where
  name : String
  span : Span
  deriving DecidableEq, Repr

inductive Real where
  | finite (value : Binary64)
  | infinite (negative : Bool)
  | nan
  | overflow
  deriving DecidableEq, Repr

/-- How a table came about, which decides who may add to it. -/
inductive Origin where
  | inline
  | header
  | implied
  | dotted
  deriving DecidableEq, Repr

/-- A node of `tables` is built by headers in double brackets. -/
inductive Node where
  | string (span : Span) (text : String)
  | integer (span : Span) (value : Int)
  | real (span : Span) (value : Real)
  | boolean (span : Span) (value : Bool)
  | datetime (span : Span)
  | array (span : Span) (items : List Node)
  | tables (span : Span) (items : List Node)
  | table (span : Span) (origin : Origin) (entries : List (Key × Node))
  deriving Repr

def Node.span : Node → Span
  | .string span _ => span
  | .integer span _ => span
  | .real span _ => span
  | .boolean span _ => span
  | .datetime span => span
  | .array span _ => span
  | .tables span _ => span
  | .table span _ _ => span

abbrev Entries := List (Key × Node)

def entryNamed? (name : String) (entries : Entries) : Option (Key × Node) :=
  entries.find? (·.1.name == name)

def replaceEntry (key : Key) (node : Node) : Entries → Entries
  | [] => []
  | (other, old) :: rest =>
    if other.name = key.name then (key, node) :: rest
    else (other, old) :: replaceEntry key node rest

end SchemaBindings.Toml
