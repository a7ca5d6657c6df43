import SchemaBindings.Emit.Diagnostic
import SchemaBindings.Imports.Basic
import SchemaBindings.Resolve.Table
import SchemaBindings.Script.File
import SchemaBindings.Script.Member

/-! TypeScript row interfaces, one for each database table, and the interface that lists them. -/

namespace SchemaBindings

structure TablesGenerator where
  output : String
  importPrefix : String
  deriving DecidableEq, Repr

structure ResolvedTable where
  table : Table
  fields : List ResolvedField
  deriving Repr

namespace ResolvedTable

/-- Tables with a key of their own make do without the column `id`. -/
def addsId (t : ResolvedTable) : Bool :=
  t.table.settings.withIdPrimaryKey && !t.fields.any (·.columnName == "id")

end ResolvedTable

def resolveTable (d : Decoder) (table : Table) : Except GenerationError ResolvedTable := do
  return ⟨table, ← table.fields.mapM (resolveField d table.name)⟩

def registerDecoded (imports : Imports) : List Decoded → Except GenerationError Imports
  | [] => .ok imports
  | d :: rest => do registerDecoded (← imports.addDecoded d) rest

/-- Rows see through newtypes, instants excepted. -/
def rowDecoder (s : Schema) : Decoder :=
  ⟨s.get?, .expand, [instantName], none⟩

def columnType (imports : Imports) (f : ResolvedField) : Except GenerationError String := do
  let name ← imports.decodedName f.decoded
  return if f.nullable then imports.mapper.nullable name else name

def rowMember (imports : Imports) (f : ResolvedField) : Except GenerationError Script.Member := do
  return .field f.columnName (← columnType imports f)

def rowInterface (imports : Imports) (t : ResolvedTable) :
    Except GenerationError Script.Interface := do
  let members ← t.fields.mapM (rowMember imports)
  let id := if t.addsId then [.field "id" "string"] else []
  return ⟨Text.pascalCase t.table.tableName ++ "Table", id ++ members, false⟩

def databaseInterface (tables : List (ResolvedTable × Script.Interface)) : Script.Interface :=
  ⟨"Database", tables.map fun (t, i) => .field t.table.tableName i.name, true⟩

/-- Resolves each table and registers its types before the next one is looked at. -/
def resolveRows (d : Decoder) :
    List Table → Imports → Except GenerationError (List ResolvedTable × Imports)
  | [], imports => .ok ([], imports)
  | table :: tables, imports => do
    let t ← resolveTable d table
    let imports ← registerDecoded imports (t.fields.map (·.decoded))
    let (rest, imports) ← resolveRows d tables imports
    return (t :: rest, imports)

def tableRows (s : Schema) :
    Except GenerationError (List (ResolvedTable × Script.Interface) × Imports) := do
  let tables ← s.tables
  let (resolved, imports) ← resolveRows (rowDecoder s) tables (.new rowMapper)
  let imports ← imports.settle
  let interfaces ← resolved.mapM (rowInterface imports)
  return (resolved.zip interfaces, imports)

namespace TablesGenerator

def new (output : String) : TablesGenerator :=
  ⟨output, "./"⟩

def file (g : TablesGenerator) (s : Schema) : Except GenerationError Script.File := do
  let (rows, imports) ← tableRows s
  let modules ← imports.modules
  let head := Script.File.empty.addImports (modules.map (Script.wholeImport g.importPrefix))
  return (head.addAll (rows.map (·.2.fragments))).add (databaseInterface rows).fragments

def generate (g : TablesGenerator) (s : Schema) : Except GenerationError Artifact := do
  return ⟨g.output, (← g.file s).render, []⟩

end TablesGenerator

end SchemaBindings
