import SchemaBindings.Artifact.Tables
import SchemaBindings.Items.File
import SchemaBindings.Items.Item

/-! Rust column specifications, one struct and one implementation block for each table. -/

namespace SchemaBindings

structure ColumnsGenerator where
  output : String
  runtimeModule : String
  runtimeAlias : String
  genModule : String
  deriving DecidableEq, Repr

def keyName : ScopedName := ⟨"common.db", "DbKey"⟩

def defaultKeyPath : String := "crate::adl::custom::DbKey"

/-- Newtypes stand for themselves, and so do declarations bound to hand-written types. -/
def columnDecoder (s : Schema) : Decoder :=
  ⟨s.get?, .nominal, [], some customTypeMark.key⟩

def rowType (t : Table) : Decoded :=
  .reference t.name .struct []

def columnAccessor (name column type : String) (doc : Option String) : Items.Function :=
  ⟨name, doc, some ("ColumnSpec<" ++ type ++ ">"),
    ["ColumnSpec::new(Self::table_str(), \"" ++ column ++ "\")"]⟩

def fieldAccessor (imports : Imports) (keyType : String) (f : ResolvedField) :
    Except GenerationError Items.Function := do
  let type ← if f.primaryKey then pure keyType else columnType imports f
  return columnAccessor (rustNaming.memberName f.name) f.columnName type f.doc

def tableAccessors (tableName : String) : List Items.Function :=
  [⟨"table_str", none, some "&'static str", ["\"" ++ tableName ++ "\""]⟩,
   ⟨"table", none, some "DynIden", ["Alias::new(Self::table_str()).into_iden()"]⟩]

def tableItems (imports : Imports) (keyPath : String) (t : ResolvedTable) :
    Except GenerationError (Items.UnitStruct × Items.Implementation) := do
  let keyType := keyPath ++ "<" ++ (← imports.decodedName (rowType t.table)) ++ ">"
  let structName := rustNaming.typeName t.table.tableName
  let doc ← docComment? t.table.decl.annotations t.table.name.text
  let id := if t.addsId then [columnAccessor "id" "id" keyType none] else []
  let accessors ← t.fields.mapM (fieldAccessor imports keyType)
  return (⟨structName, doc⟩, ⟨structName, tableAccessors t.table.tableName ++ id ++ accessors⟩)

/-- Registers the row type of each table before its columns, primary keys left out. -/
def resolveColumns (d : Decoder) :
    List Table → Imports → Except GenerationError (List ResolvedTable × Imports)
  | [], imports => .ok ([], imports)
  | table :: tables, imports => do
    let imports ← imports.addDecoded (rowType table)
    let t ← resolveTable d table
    let columns := t.fields.filter (!·.primaryKey)
    let imports ← registerDecoded imports (columns.map (·.decoded))
    let (rest, imports) ← resolveColumns d tables imports
    return (t :: rest, imports)

namespace ColumnsGenerator

def new (output : String) : ColumnsGenerator :=
  ⟨output, "crate::adl::rt", "adlrt", "crate::adl::gen"⟩

def moduleUse (g : ColumnsGenerator) (m : ModuleImport) : Items.Use :=
  let segments := (Text.parts '.' m.moduleName.toList).map fun segment =>
    rustNaming.safeName (String.ofList segment)
  let path := g.genModule ++ "::" ++ "::".intercalate segments
  ⟨path, [], if segments.getLast? = some m.moduleAlias then none else some m.moduleAlias⟩

def uses (g : ColumnsGenerator) (modules : List ModuleImport) : List Items.Use :=
  ⟨g.runtimeModule, [], some g.runtimeAlias⟩ :: modules.map g.moduleUse

def libraryUses : List Items.Use :=
  [⟨"super::types", ["ColumnSpec"], none⟩, ⟨"sea_query", ["Alias", "DynIden", "IntoIden"], none⟩]

def columnItems (g : ColumnsGenerator) (s : Schema) :
    Except GenerationError
      (List (ResolvedTable × Items.UnitStruct × Items.Implementation) × Imports) := do
  let tables ← s.tables
  let natives ← s.customTypes g.runtimeAlias
  let keyPath := (natives.find? keyName).getD defaultKeyPath
  let (resolved, imports) ← resolveColumns (columnDecoder s) tables (.new (rustMapper natives))
  let imports ← imports.settle
  let items ← resolved.mapM (tableItems imports keyPath)
  return (resolved.zip items, imports)

def file (g : ColumnsGenerator) (s : Schema) : Except GenerationError Items.File := do
  let (items, imports) ← g.columnItems s
  let modules ← imports.modules
  let head := Items.File.empty.addHeader "// This file is generated from the schema definition"
  let head := (head.addUses libraryUses).beginGroup.addUses (g.uses modules)
  return head.addAll (items.flatMap fun (_, s, i) => [s.fragments, i.fragments])

def generate (g : ColumnsGenerator) (s : Schema) : Except GenerationError Artifact := do
  return ⟨g.output, (← g.file s).render, []⟩

end ColumnsGenerator

end SchemaBindings
