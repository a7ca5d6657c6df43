import SchemaBindings.Resolve.Mark
import SchemaBindings.Text.Words

/-! Database tables of a schema and their columns. -/

namespace SchemaBindings

structure Table where
  name : ScopedName
  decl : Decl
  fields : List Field
  settings : TableSettings
  deriving Repr

namespace Table

/-- The declaration must carry the table annotation and be a struct without parameters. -/
def ofDecl (name : ScopedName) (decl : Decl) : Except GenerationError Table := do
  let settings ← tableMark.require decl.annotations name.text
  match decl.body with
  | .struct [] fields => return ⟨name, decl, fields, settings⟩
  | _ => throw (.annotationInvalid tableMark.key name.text .genericTable)

def tableName (t : Table) : String :=
  t.settings.tableName.getD (Text.snakeCase t.decl.name)

end Table

def isTable (decl : Decl) : Bool :=
  (findAnnotation? tableMark.key decl.annotations).isSome

def Schema.tables (s : Schema) : Except GenerationError (List Table) :=
  (s.decls.filter (isTable ·.2)).mapM fun (name, decl) => Table.ofDecl name decl

/-- A field ready for emission, its type without the wrappers that make it nullable. -/
structure ResolvedField where
  name : String
  columnOverride : Option String
  decoded : Decoded
  nullable : Bool
  primaryKey : Bool
  doc : Option String
  deriving Repr

def ResolvedField.columnName (f : ResolvedField) : String :=
  f.columnOverride.getD (Text.snakeCase f.name)

def maybeName : ScopedName := ⟨"sys.types", "Maybe"⟩

def unwrapNullable : Decoded → Decoded × Bool
  | .nullable elem => ((unwrapNullable elem).1, true)
  | .reference name kind [elem] =>
    if name = maybeName then ((unwrapNullable elem).1, true)
    else (.reference name kind [elem], false)
  | d => (d, false)

def resolveField (d : Decoder) (owner : ScopedName) (field : Field) :
    Except GenerationError ResolvedField := do
  let target := owner.text ++ "." ++ field.name
  let (decoded, nullable) := unwrapNullable (← d.decode field.typeExpr)
  let columnOverride ← columnNameMark.get? field.annotations target
  let primaryKey ← primaryKeyMark.get? field.annotations target
  let doc ← docComment? field.annotations target
  return ⟨field.name, columnOverride, decoded, nullable, primaryKey.isSome, doc⟩

end SchemaBindings
