import SchemaBindings.Layout.Builder

/-! Rust use statements. -/

namespace SchemaBindings.Items

structure Use where
  path : String
  symbols : List String
  localName : Option String
  deriving DecidableEq, Repr

namespace Use

def ofPath (path : String) : Use :=
  ⟨path, [], none⟩

def target (u : Use) : String :=
  match u.symbols with
  | [] => u.path
  | [symbol] => u.path ++ "::" ++ symbol
  | symbols => u.path ++ "::\x7b" ++ ", ".intercalate symbols ++ "\x7d"

def statement (u : Use) : String :=
  match u.localName with
  | some name => "use " ++ u.target ++ " as " ++ name ++ ";"
  | none => "use " ++ u.target ++ ";"

def fragments (u : Use) : List Fragment :=
  [.line u.statement]

end Use

end SchemaBindings.Items
