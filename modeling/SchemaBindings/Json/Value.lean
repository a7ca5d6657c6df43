import SchemaBindings.Shape
import SchemaBindings.Text.Order

/-! JSON values. -/

namespace SchemaBindings.Json

/-- A double stands for what no 64-bit integer holds. -/
inductive Number where
  | integer (value : Int)
  | double (value : Binary64)
  deriving DecidableEq, Repr

inductive Value where
  | null
  | bool (value : Bool)
  | number (value : Number)
  | string (value : String)
  | array (items : List Value)
  | object (members : List (String × Value))
  deriving Inhabited, Repr

/-- Between two decimals that are equally near the even one is taken. -/
def realStyle : RealStyle := ⟨.even, some (-5, 15)⟩

def Number.found : Number → Found
  | .integer n => .integer n
  | .double x => .real (x.text realStyle)

namespace Value

def get? : Value → String → Option Value
  | .object members, key => members.lookup key
  | _, _ => none

end Value

def sortedMembers (members : List (String × Value)) : List (String × Value) :=
  sortBy (fun a b => nameLe a.1 b.1) (members.foldl (fun kept m => putKey m.1 m.2 kept) [])

mutual

def canonical : Value → Value
  | .array items => .array (canonicalItems items)
  | .object members => .object (sortedMembers (canonicalMembers members))
  | .null => .null
  | .bool b => .bool b
  | .number n => .number n
  | .string s => .string s

def canonicalItems : List Value → List Value
  | [] => []
  | item :: items => canonical item :: canonicalItems items

def canonicalMembers : List (String × Value) → List (String × Value)
  | [] => []
  | (key, value) :: members => (key, canonical value) :: canonicalMembers members

end

end SchemaBindings.Json
