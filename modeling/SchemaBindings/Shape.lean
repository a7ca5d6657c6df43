import SchemaBindings.Number.Shortest
import SchemaBindings.Text.Quoted

/-! What is said of a value that does not have the wanted shape. -/

namespace SchemaBindings

inductive Found where
  | integer (value : Int)
  | real (digits : String)
  | boolean (value : Bool)
  | string (value : String)
  | null
  | sequence
  | map
  | unitVariant
  deriving DecidableEq, Repr

def boolText (b : Bool) : String :=
  if b then "true" else "false"

def Found.description : Found → String
  | .integer n => "integer `" ++ toString n ++ "`"
  | .real digits => "floating point `" ++ digits ++ "`"
  | .boolean b => "boolean `" ++ boolText b ++ "`"
  | .string s => "string " ++ Text.quoted s
  | .null => "null"
  | .sequence => "sequence"
  | .map => "map"
  | .unitVariant => "unit variant"

inductive ShapeFault where
  | invalidType (found : Found) (expected : String)
  | invalidValue (found : Found) (expected : String)
  | invalidLength (count : Nat) (expected : String)
  | missingField (name : String)
  | duplicateField (name : String)
  | unknownField (name : String) (known : List String)
  | unknownVariant (name : String) (known : List String)
  deriving DecidableEq, Repr

def tick (name : String) : String :=
  "`" ++ name ++ "`"

def alternatives : List String → String
  | [name] => "expected " ++ tick name
  | [first, second] => "expected " ++ tick first ++ " or " ++ tick second
  | names => "expected one of " ++ ", ".intercalate (names.map tick)

def ShapeFault.message : ShapeFault → String
  | .invalidType found expected =>
    "invalid type: " ++ found.description ++ ", expected " ++ expected
  | .invalidValue found expected =>
    "invalid value: " ++ found.description ++ ", expected " ++ expected
  | .invalidLength count expected =>
    "invalid length " ++ toString count ++ ", expected " ++ expected
  | .missingField name => "missing field " ++ tick name
  | .duplicateField name => "duplicate field " ++ tick name
  | .unknownField name known => "unknown field " ++ tick name ++ ", " ++ alternatives known
  | .unknownVariant name known => "unknown variant " ++ tick name ++ ", " ++ alternatives known

def recordLength (title : String) (fields : Nat) : String :=
  "struct " ++ title ++ " with " ++ toString fields ++
    (if fields = 1 then " element" else " elements")

end SchemaBindings
