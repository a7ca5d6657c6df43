import SchemaBindings.Json.Value

/-! Reading typed values from JSON values held in memory, members in the order of their names. -/

namespace SchemaBindings.Json

abbrev Decoding (α : Type) := Value → Except ShapeFault α

namespace Value

def found : Value → Found
  | .null => .null
  | .bool b => .boolean b
  | .number n => n.found
  | .string s => .string s
  | .array _ => .sequence
  | .object _ => .map

def refuse (v : Value) (expected : String) : Except ShapeFault α :=
  .error (.invalidType v.found expected)

end Value

namespace Decoding

def text : Decoding String
  | .string s => .ok s
  | v => v.refuse "a string"

def boolean : Decoding Bool
  | .bool b => .ok b
  | v => v.refuse "a boolean"

def optional (decode : Decoding α) : Decoding (Option α)
  | .null => .ok none
  | v => (decode v).map some

def list (decode : Decoding α) : Decoding (List α)
  | .array items => items.mapM decode
  | v => v.refuse "a sequence"

def unit : Decoding Unit
  | .null => .ok ()
  | v => v.refuse "unit"

structure Part (α : Type) where
  name : String
  otherNames : List String
  required : Bool
  decode : Decoding (α → α)

def Part.answersTo (part : Part α) (name : String) : Bool :=
  part.name == name || part.otherNames.contains name

def Part.of (name : String) (decode : Decoding β) (set : β → α → α) (required : Bool) : Part α :=
  ⟨name, [], required, fun v => (decode v).map set⟩

def fillMembers (parts : List (Part α)) :
    List (String × Value) → List String → α → Except ShapeFault (List String × α)
  | [], seen, record => .ok (seen, record)
  | (name, value) :: members, seen, record =>
    match parts.find? (·.answersTo name) with
    | none => fillMembers parts members seen record
    | some part => do
      if seen.contains part.name then throw (.duplicateField part.name)
      let update ← part.decode value
      fillMembers parts members (part.name :: seen) (update record)

def fillItems (expected : String) :
    List (Part α) → Nat → List Value → α → Except ShapeFault (α × Nat)
  | [], _, items, record => .ok (record, items.length)
  | part :: parts, index, [], record =>
    match (part :: parts).findIdx? (·.required) with
    | some i => .error (.invalidLength (index + i) expected)
    | none => .ok (record, 0)
  | part :: parts, index, item :: items, record => do
    let update ← part.decode item
    fillItems expected parts (index + 1) items (update record)

/-- A record is an object, or the list of its fields in order; absent fields keep `blank`. -/
def record (title : String) (blank : α) (parts : List (Part α)) : Decoding α
  | .object members => do
    let (seen, filled) ← fillMembers parts members [] blank
    match parts.find? (fun part => part.required && !seen.contains part.name) with
    | some part => throw (.missingField part.name)
    | none => return filled
  | .array items => do
    let (filled, surplus) ← fillItems (recordLength title parts.length) parts 0 items blank
    if surplus = 0 then return filled
    else throw (.invalidLength items.length "fewer elements in array")
  | v => v.refuse ("struct " ++ title)

inductive Tagged where
  | bare (tag : String)
  | carrying (tag : String) (payload : Value)

def tagged : Decoding Tagged
  | .string tag => .ok (.bare tag)
  | .object [(tag, payload)] => .ok (.carrying tag payload)
  | .object _ => .error (.invalidValue .map "map with a single key")
  | v => v.refuse "string or map"

end Decoding

end SchemaBindings.Json
