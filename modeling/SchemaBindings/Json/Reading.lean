import SchemaBindings.Json.Scan

/-!
Reading typed values from the tree of a JSON text. A reading is given how many more brackets may
be entered; the first fault in the order of the text is the one reported.
-/

namespace SchemaBindings.Json

abbrev Reading (α : Type) := Nat → Outline → Except Fault α

def nestingLimit : Nat := 127

def Scalar.found : Scalar → Found
  | .null => .null
  | .bool b => .boolean b
  | .number n => n.found
  | .string s => .string s

/-- A scalar is refused after its last byte, a bracket before it is entered. -/
def refuse (expected : String) : Outline → Fault
  | .scalar _ value after => .shapeAt (.invalidType value.found expected) after
  | .flawed _ _ fault => fault
  | .broken _ _ cut => cut.reading
  | .array start _ => .shapeAt (.invalidType .sequence expected) start
  | .object start _ => .shapeAt (.invalidType .map expected) start

def entering (start : Nat) (inner : Nat → Except Fault α) : Nat → Except Fault α
  | 0 => .error (.at .recursionLimit (start + 1))
  | depth + 1 => inner depth

def readText (expected : String) : Outline → Except Fault String
  | .scalar _ (.string s) _ => .ok s
  | outline => .error (refuse expected outline)

def text : Reading String := fun _ => readText "a string"

def optional (read : Reading α) : Reading (Option α)
  | _, .scalar _ .null _ => .ok none
  | depth, outline => (read depth outline).map some

def Items.readAll (read : Outline → Except Fault α) : Items → Except Fault (List α)
  | .done (.closed _) => .ok []
  | .done (.cut cut _) => .error cut.reading
  | .more _ value resume rest => do
    let x ← (read value).mapError (Fault.settle resume)
    let xs ← rest.readAll read
    return x :: xs

def list (read : Reading α) : Reading (List α)
  | depth, .array start items => entering start (fun depth => items.readAll (read depth)) depth
  | _, outline => .error (refuse "a sequence" outline)

/-- Later members of one name replace earlier ones, which keep their places. -/
def Members.readAll (read : Outline → Except Fault α) :
    Members → List (String × α) → Except Fault (List (String × α))
  | .done (.closed _), entries => .ok entries
  | .done (.cut cut _), _ => .error cut.reading
  | .more key value resume rest, entries => do
    let name ← key.name
    let x ← (read value).mapError (Fault.settle resume)
    rest.readAll read (putKey name x entries)

def keyed (read : Reading α) : Reading (List (String × α))
  | depth, .object start members =>
    entering start (fun depth => members.readAll (read depth) []) depth
  | _, outline => .error (refuse "a map" outline)

/-! ### Records -/

structure Slot (α : Type) where
  name : String
  required : Bool
  read : Reading (α → α)

def Slot.of (name : String) (read : Reading β) (set : β → α → α) (required : Bool) : Slot α :=
  ⟨name, required, fun depth outline => (read depth outline).map set⟩

def Members.fill (slots : List (Slot α)) (depth : Nat) :
    Members → List String → α → Except Fault (List String × α × Nat)
  | .done (.closed after), seen, record => .ok (seen, record, after)
  | .done (.cut cut _), _, _ => .error cut.reading
  | .more key value resume rest, seen, record => do
    let name ← key.name
    match slots.find? (·.name == name) with
    | none =>
      match value.skip? with
      | some fault => throw fault
      | none => rest.fill slots depth seen record
    | some slot =>
      if seen.contains name then throw (.shapeAt (.duplicateField name) key.resume)
      let update ← (slot.read depth value).mapError (Fault.settle resume)
      rest.fill slots depth (name :: seen) (update record)

def Items.fill (expected : String) (depth : Nat) :
    Items → List (Slot α) → Nat → α → Except Fault α
  | .done (.closed after), slots, index, record =>
    match slots.findIdx? (·.required) with
    | some i => .error (.shapeAt (.invalidLength (index + i) expected) after)
    | none => .ok record
  | .done (.cut _ closing), [], _, _ => .error closing
  | .done (.cut cut _), _ :: _, _, _ => .error cut.reading
  | .more start _ _ _, [], _, _ => .error (.at .trailingCharacters (start + 1))
  | .more _ value resume rest, slot :: slots, index, record => do
    let update ← (slot.read depth value).mapError (Fault.settle resume)
    rest.fill expected depth slots (index + 1) (update record)

def record (title : String) (blank : α) (slots : List (Slot α)) : Reading α
  | depth, .object start members =>
    entering start (fun depth => do
      let (seen, filled, after) ← members.fill slots depth [] blank
      match slots.find? (fun slot => slot.required && !seen.contains slot.name) with
      | some slot => throw (.shapeAt (.missingField slot.name) after)
      | none => return filled) depth
  | depth, .array start items =>
    entering start
      (fun depth => items.fill (recordLength title slots.length) depth slots 0 blank) depth
  | _, outline => .error (refuse ("struct " ++ title) outline)

/-! ### Tagged values -/

structure Variant (α : Type) where
  tag : String
  read : Reading α

def Members.close (resume : Nat) : Members → Except Fault Unit
  | .done (.closed _) => .ok ()
  | .done (.cut cut _) =>
    if cut.reading = .at .endInObject resume then .error cut.reading
    else .error (.at .expectedValue resume)
  | .more .. => .error (.at .expectedValue resume)

def tagged (variants : List (Variant α)) : Reading α
  | depth, .object start members =>
    entering start (fun depth => do
      match members with
      | .done (.closed after) => throw (.at .expectedValue after)
      | .done (.cut cut _) => throw cut.reading
      | .more key value resume rest =>
        let tag ← key.name
        match variants.find? (·.tag == tag) with
        | none => throw (.shapeAt (.unknownVariant tag (variants.map (·.tag))) key.after)
        | some variant =>
          let payload ← variant.read depth value
          rest.close resume
          return payload) depth
  | _, .scalar start value after =>
    match value with
    | .string tag =>
      if (variants.map (·.tag)).contains tag then
        .error ⟨.shape (.invalidType .unitVariant "newtype variant"), none⟩
      else .error (.shapeAt (.unknownVariant tag (variants.map (·.tag))) after)
    | _ => .error (.at .expectedValue (start + 1))
  | _, .flawed start early fault =>
    .error (if early then fault else .at .expectedValue (start + 1))
  | _, .broken start early cut =>
    .error (if early then cut.reading else .at .expectedValue (start + 1))
  | _, .array start _ => .error (.at .expectedValue (start + 1))

/-! ### Any value -/

def Scalar.value : Scalar → Value
  | .null => .null
  | .bool b => .bool b
  | .number n => .number n
  | .string s => .string s

mutual

def Outline.value (depth : Nat) : Outline → Except Fault Value
  | .scalar _ value _ => .ok value.value
  | .flawed _ _ fault => .error fault
  | .broken _ _ cut => .error cut.reading
  | .array start items =>
    match depth with
    | 0 => .error (.at .recursionLimit (start + 1))
    | depth + 1 => (items.values depth).map .array
  | .object start members =>
    match depth with
    | 0 => .error (.at .recursionLimit (start + 1))
    | depth + 1 => (members.values depth).map (.object ∘ sortedMembers)

def Items.values (depth : Nat) : Items → Except Fault (List Value)
  | .done (.closed _) => .ok []
  | .done (.cut cut _) => .error cut.reading
  | .more _ value _ rest => do
    let x ← value.value depth
    let xs ← rest.values depth
    return x :: xs

def Members.values (depth : Nat) : Members → Except Fault (List (String × Value))
  | .done (.closed _) => .ok []
  | .done (.cut cut _) => .error cut.reading
  | .more key value _ rest => do
    let name ← key.name
    let x ← value.value depth
    let xs ← rest.values depth
    return (name, x) :: xs

end

def any : Reading Value := fun depth outline => outline.value depth

def readDocument (read : Reading α) (text : List Char) : Except Fault α :=
  let (outline, after) := scanDocument text
  match read nestingLimit outline with
  | .error fault => .error fault
  | .ok x =>
    match after with
    | some fault => .error fault
    | none => .ok x

end SchemaBindings.Json
