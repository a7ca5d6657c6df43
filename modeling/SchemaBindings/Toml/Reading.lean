import SchemaBindings.Shape
import SchemaBindings.Text.Order
import SchemaBindings.Toml.Scan

/-! Reading typed values from TOML, the entries of a table in the order of their names. -/

namespace SchemaBindings.Toml

structure Fault where
  cause : ShapeFault
  span : Span
  deriving DecidableEq, Repr

abbrev Reading (α : Type) := Node → Except Fault α

def fault (cause : ShapeFault) (span : Span) : Except Fault α :=
  .error ⟨cause, span⟩

/-- Of two decimals that are equally near the greater is taken; no exponent is written. -/
def realStyle : RealStyle := ⟨.away, none⟩

def Real.text : Real → String
  | .finite x => x.text realStyle
  | .infinite negative => if negative then "-inf" else "inf"
  | .nan => "NaN"
  | .overflow => "inf"

def Node.found : Node → Found
  | .string _ text => .string text
  | .integer _ n => .integer n
  | .real _ x => .real x.text
  | .boolean _ b => .boolean b
  | .datetime _ => .map
  | .array _ _ => .sequence
  | .tables _ _ => .sequence
  | .table _ _ _ => .map

def refuse (expected : String) (node : Node) : Except Fault α :=
  fault (.invalidType node.found expected) node.span

def readText (expected : String) : Reading String
  | .string _ text => .ok text
  | node => refuse expected node

def text : Reading String :=
  readText "a string"

def path : Reading String :=
  readText "path string"

def optional (read : Reading α) : Reading (Option α) :=
  fun node => (read node).map some

def list (read : Reading α) : Reading (List α)
  | .array _ items => items.mapM read
  | .tables _ items => items.mapM read
  | node => refuse "a sequence" node

structure Slot (α : Type) where
  name : String
  required : Bool
  read : Reading (α → α)

def Slot.must (name : String) (read : Reading β) (set : β → α → α) : Slot α :=
  ⟨name, true, fun node => (read node).map set⟩

def Slot.may (name : String) (read : Reading β) (set : β → α → α) : Slot α :=
  ⟨name, false, fun node => (read node).map set⟩

def fillEntries (slots : List (Slot α)) :
    Entries → List String → α → Except Fault (List String × α)
  | [], seen, record => .ok (seen, record)
  | (key, node) :: entries, seen, record =>
    match slots.find? (·.name == key.name) with
    | none => fault (.unknownField key.name (slots.map (·.name))) key.span
    | some slot => do
      let update ← slot.read node
      fillEntries slots entries (key.name :: seen) (update record)

def fillItems (expected : String) (span : Span) :
    List (Slot α) → Nat → List Node → α → Except Fault α
  | [], _, _, record => .ok record
  | _ :: _, index, [], _ => fault (.invalidLength index expected) span
  | slot :: slots, index, node :: nodes, record => do
    let update ← slot.read node
    fillItems expected span slots (index + 1) nodes (update record)

def sortedEntries (entries : Entries) : Entries :=
  sortBy (fun a b => nameLe a.1.name b.1.name) entries

def datetimeField : String := "$__toml_private_datetime"

/-- A record is a table without other entries, or the list of its fields in order. -/
def record (title : String) (blank : α) (slots : List (Slot α)) : Reading α
  | .table span _ entries => do
    let (seen, filled) ← fillEntries slots (sortedEntries entries) [] blank
    match slots.find? (fun slot => slot.required && !seen.contains slot.name) with
    | some slot => fault (.missingField slot.name) span
    | none => return filled
  | .array span items => fillItems (recordLength title slots.length) span slots 0 items blank
  | .tables span items => fillItems (recordLength title slots.length) span slots 0 items blank
  | .datetime span => fault (.unknownField datetimeField (slots.map (·.name))) span
  | node => refuse ("struct " ++ title) node

/-! ### Documents -/

def fitsInteger (n : Int) : Bool :=
  -(Nat.pow 2 63 : Int) ≤ n && n < Nat.pow 2 63

def Node.spellsDate : Node → Bool
  | .string _ text => isDatetime text.toList
  | _ => false

mutual

def Node.isHeld : Node → Bool
  | .integer _ n => fitsInteger n
  | .real _ x => x != .overflow
  | .array _ items => itemsHeld items
  | .tables _ items => itemsHeld items
  | .table _ _ entries =>
    match (sortedEntries entries).head? with
    | none => true
    | some (key, node) =>
      if key.name = datetimeField then node.spellsDate else entriesHeld entries
  | _ => true

def itemsHeld : List Node → Bool
  | [] => true
  | node :: nodes => node.isHeld && itemsHeld nodes

def entriesHeld : Entries → Bool
  | [] => true
  | (_, node) :: entries => node.isHeld && entriesHeld entries

end

def readDocument (read : Reading α) (text : List Char) : Except (Option Fault) α :=
  match scanDocument? text with
  | none => .error none
  | some root =>
    match read root with
    | .ok x => .ok x
    | .error fault => .error (if root.isHeld then some fault else none)

end SchemaBindings.Toml
