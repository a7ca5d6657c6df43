import SchemaBindings.Imports.Basic
import SchemaBindings.Layout.Builder
import SchemaBindings.Text.Search

/-! TypeScript import statements, and those of a settled import block. -/

namespace SchemaBindings.Script

structure ImportedName where
  name : String
  localName : Option String
  deriving DecidableEq, Repr

def ImportedName.clause (n : ImportedName) : String :=
  match n.localName with
  | some localName => n.name ++ " as " ++ localName
  | none => n.name

structure Import where
  source : String
  default : Option String
  whole : Option String
  named : List ImportedName
  singleQuoted : Bool
  deriving DecidableEq, Repr

namespace Import

def ofPath (path : String) : Import :=
  ⟨path, none, none, [], false⟩

def ofNames (path : String) (names : List String) : Import :=
  { ofPath path with named := names.map (⟨·, none⟩) }

def ofWhole (path name : String) : Import :=
  { ofPath path with whole := some name }

def clauses (i : Import) : List String :=
  i.default.toList ++ (i.whole.map ("* as " ++ ·)).toList ++
    (if i.named.isEmpty then []
      else ["\x7b " ++ ", ".intercalate (i.named.map ImportedName.clause) ++ " \x7d"])

def statement (i : Import) : String :=
  let mark := if i.singleQuoted then "'" else "\""
  let source := mark ++ i.source ++ mark
  if i.clauses.isEmpty then "import " ++ source ++ ";"
  else "import " ++ ", ".intercalate i.clauses ++ " from " ++ source ++ ";"

def fragments (i : Import) : List Fragment :=
  [.line i.statement]

end Import

/-- The path of a schema module: dots become slashes, under a directory when there is one. -/
def modulePath (directory moduleName : String) : String :=
  let path := String.ofList (moduleName.toList.map fun c => if c = '.' then '/' else c)
  if directory.isEmpty then path
  else if directory.toList.getLast? = some '/' then directory ++ path
  else directory ++ "/" ++ path

def symbolImport (directory : String) (m : ModuleImport) : Import :=
  { Import.ofPath (modulePath directory m.moduleName) with
    named := m.symbols.map fun s => ⟨s.name, s.rename⟩ }

def wholeImport (directory : String) (m : ModuleImport) : Import :=
  Import.ofWhole (modulePath directory m.moduleName) m.moduleAlias

end SchemaBindings.Script
