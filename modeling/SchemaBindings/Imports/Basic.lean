import SchemaBindings.Imports.Assignment
import SchemaBindings.Target.Mapper

/-!
The imports of one file. Types are registered first, then the imports are settled once, and from
then on names are asked for.
-/

namespace SchemaBindings

/-- Declarations of `localModule` are written unqualified and never imported. -/
structure Imports where
  mapper : Mapper
  style : ImportStyle
  localModule : Option String
  ledger : Ledger
  settled : Option Assignment

structure ImportedSymbol where
  name : String
  rename : Option String
  deriving DecidableEq, Repr

structure ModuleImport where
  moduleName : String
  moduleAlias : String
  symbols : List ImportedSymbol
  deriving DecidableEq, Repr

namespace Imports

def new (mapper : Mapper) : Imports :=
  ⟨mapper, .qualified, none, .empty, none⟩

def isSettled (i : Imports) : Bool :=
  i.settled.isSome

def isLocal (i : Imports) (moduleName : String) : Bool :=
  i.localModule == some moduleName

def ensureOpen (i : Imports) (operation : String) : Except GenerationError Unit :=
  if i.isSettled then .error (.importMisuse (.settled operation)) else .ok ()

theorem ensureOpen_of_isSettled {i : Imports} (settled : i.isSettled = true) (operation : String) :
    i.ensureOpen operation = .error (.importMisuse (.settled operation)) :=
  if_pos settled

def isImported (i : Imports) (name : ScopedName) : Bool :=
  !i.isLocal name.moduleName && (i.mapper.native name).isNone

def register (i : Imports) (helpers : List String) (name : ScopedName) : Imports :=
  if i.isImported name then
    let symbols := name.name :: helpers.map (· ++ name.name)
    { i with ledger := symbols.foldl (fun l symbol => l.add name.moduleName symbol) i.ledger }
  else i

end Imports

def TypeHead.reference? : TypeHead → Option ScopedName
  | .reference name => some name
  | _ => none

mutual

def TypeExpr.references : TypeExpr → List ScopedName
  | ⟨head, parameters⟩ => head.reference?.toList ++ TypeExpr.referencesAll parameters

def TypeExpr.referencesAll : List TypeExpr → List ScopedName
  | [] => []
  | te :: rest => te.references ++ TypeExpr.referencesAll rest

end

namespace Imports

/-- Helpers are registered for the head only. -/
def addTypeWithHelpers (i : Imports) (te : TypeExpr) (helpers : List String) :
    Except GenerationError Imports := do
  i.ensureOpen "add_type"
  let i := te.head.reference?.toList.foldl (register · helpers) i
  return (TypeExpr.referencesAll te.parameters).foldl (register · []) i

def addType (i : Imports) (te : TypeExpr) : Except GenerationError Imports :=
  i.addTypeWithHelpers te []

theorem addType_of_isSettled {i : Imports} (settled : i.isSettled = true) (te : TypeExpr) :
    i.addType te = .error (.importMisuse (.settled "add_type")) := by
  rw [addType, addTypeWithHelpers, ensureOpen_of_isSettled settled]
  rfl

def addDecoded (i : Imports) (d : Decoded) : Except GenerationError Imports := do
  i.ensureOpen "add_decoded"
  return (d.references.map (·.1)).foldl (register · []) i

def settle (i : Imports) : Except GenerationError Imports := do
  i.ensureOpen "resolve_imports"
  return { i with settled := some (.ofLedger i.mapper.naming i.style i.ledger) }

theorem settle_of_isSettled {i : Imports} (settled : i.isSettled = true) :
    i.settle = .error (.importMisuse (.settled "resolve_imports")) := by
  rw [settle, ensureOpen_of_isSettled settled]
  rfl

def assignment (i : Imports) (operation : String) : Except GenerationError Assignment :=
  match i.settled with
  | some a => .ok a
  | none => .error (.importMisuse (.unsettled operation))

def alias? (i : Imports) (moduleName : String) : Option String :=
  i.settled.bind (·.alias? moduleName)

def rename? (a : Assignment) (moduleName symbol : String) : Option String :=
  (a.local? moduleName symbol).filter (· != symbol)

def moduleImport? (a : Assignment) (entry : String × List String) : Option ModuleImport :=
  (a.alias? entry.1).map fun moduleAlias =>
    ⟨entry.1, moduleAlias, entry.2.map fun symbol => ⟨symbol, rename? a entry.1 symbol⟩⟩

/-- Modules in the order of first registration. -/
def modules (i : Imports) : Except GenerationError (List ModuleImport) := do
  let a ← i.assignment "imports"
  return i.ledger.entries.filterMap (moduleImport? a)

def qualifiedSymbol (i : Imports) (moduleName symbol : String) : Except GenerationError String := do
  let a ← i.assignment "qualified_symbol"
  if i.isLocal moduleName then return symbol
  match a.alias? moduleName with
  | none => throw (.importMisuse (.unknownModule moduleName))
  | some moduleAlias =>
    match i.style with
    | .qualified => return i.mapper.qualify moduleAlias symbol
    | .named =>
      if i.ledger.contains moduleName symbol then
        return (a.local? moduleName symbol).getD symbol
      else throw (.importMisuse (.unknownSymbol moduleName symbol))

def helperName (i : Imports) (name : ScopedName) (before : String) :
    Except GenerationError String :=
  i.qualifiedSymbol name.moduleName (before ++ name.name)

def declarationName (i : Imports) (name : ScopedName) : Except GenerationError String :=
  match i.mapper.native name with
  | some native => do
    let _ ← i.assignment "as_referenced_name"
    return native
  | none => i.qualifiedSymbol name.moduleName name.name

end Imports

def TypeHead.isNullable : TypeHead → Bool
  | .primitive name => name == "Nullable"
  | _ => false

namespace Imports

mutual

/-- A type expression as the file writes it; a nullable of a nullable is written once. -/
def referencedName (i : Imports) : TypeExpr → Except GenerationError String
  | ⟨.primitive name, [⟨head, parameters⟩]⟩ =>
    if name = "Vector" then i.mapper.vector <$> referencedName i ⟨head, parameters⟩
    else if name = "StringMap" then i.mapper.stringMap <$> referencedName i ⟨head, parameters⟩
    else if name = "Nullable" then
      if head.isNullable then referencedName i ⟨head, parameters⟩
      else i.mapper.nullable <$> referencedName i ⟨head, parameters⟩
    else .error (.unsupported (.primitive (TypeExpr.text ⟨.primitive name, [⟨head, parameters⟩]⟩)))
  | ⟨.primitive name, parameters⟩ =>
    if ["Vector", "StringMap", "Nullable"].contains name then
      .error (.unsupported (.singleArgument name parameters.length))
    else
      match parameters, Primitive.ofName? name with
      | [], some p => .ok (i.mapper.primitive p)
      | _, _ => .error (.unsupported (.primitive (TypeExpr.text ⟨.primitive name, parameters⟩)))
  | ⟨.typeParam name, parameters⟩ =>
    if parameters.isEmpty then .ok name else .error (.unsupported (.appliedFreeParam name))
  | ⟨.reference name, parameters⟩ => do
    let base ← i.declarationName name
    return i.mapper.applyParams base (← referencedNames i parameters)

def referencedNames (i : Imports) : List TypeExpr → Except GenerationError (List String)
  | [] => .ok []
  | te :: rest => do
    let first ← referencedName i te
    let others ← referencedNames i rest
    return first :: others

end

mutual

def decodedName (i : Imports) : Decoded → Except GenerationError String
  | .primitive p => .ok (i.mapper.primitive p)
  | .vector elem => i.mapper.vector <$> decodedName i elem
  | .stringMap elem => i.mapper.stringMap <$> decodedName i elem
  | .nullable (.nullable elem) => decodedName i (.nullable elem)
  | .nullable elem => i.mapper.nullable <$> decodedName i elem
  | .reference name _ parameters => do
    let base ← i.declarationName name
    return i.mapper.applyParams base (← decodedNames i parameters)

def decodedNames (i : Imports) : List Decoded → Except GenerationError (List String)
  | [] => .ok []
  | d :: rest => do
    let first ← decodedName i d
    let others ← decodedNames i rest
    return first :: others

end

end Imports

end SchemaBindings
