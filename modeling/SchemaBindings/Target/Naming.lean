import SchemaBindings.Text.Words

/-! How schema names become names of a target language. -/

namespace SchemaBindings

structure Naming where
  typeCase : String → String
  memberCase : String → String
  reserved : List String
  escape : String → String

namespace Naming

def isReserved (n : Naming) (name : String) : Bool :=
  n.reserved.contains name

def safeName (n : Naming) (name : String) : String :=
  if n.isReserved name then n.escape name else name

def typeName (n : Naming) (name : String) : String :=
  n.safeName (n.typeCase name)

def memberName (n : Naming) (name : String) : String :=
  n.safeName (n.memberCase name)

end Naming

def typescriptReserved : List String :=
  ["break", "case", "catch", "class", "const", "continue", "debugger", "default", "delete", "do",
   "else", "enum", "export", "extends", "false", "finally", "for", "function", "if", "import",
   "in", "instanceof", "let", "new", "null", "return", "super", "switch", "this", "throw", "true",
   "try", "typeof", "var", "void", "while", "with", "yield", "any", "as", "async", "await",
   "boolean", "constructor", "declare", "get", "implements", "interface", "module", "namespace",
   "never", "number", "object", "package", "private", "protected", "public", "readonly",
   "require", "set", "static", "string", "symbol", "type", "undefined", "unknown"]

def typescriptNaming : Naming :=
  ⟨Text.pascalCase, Text.camelCase, typescriptReserved, ("_" ++ ·)⟩

def rustReserved : List String :=
  ["as", "async", "await", "break", "const", "continue", "crate", "dyn", "else", "enum", "extern",
   "false", "fn", "for", "gen", "if", "impl", "in", "let", "loop", "match", "mod", "move", "mut",
   "pub", "ref", "return", "self", "Self", "static", "struct", "super", "trait", "true", "type",
   "unsafe", "use", "where", "while", "abstract", "become", "box", "do", "final", "macro",
   "override", "priv", "try", "typeof", "unsized", "virtual", "yield"]

/-- Keywords that have no raw form take an underscore at the end. -/
def rustEscape (name : String) : String :=
  if ["crate", "self", "Self", "super"].contains name then name ++ "_" else "r#" ++ name

def rustNaming : Naming :=
  ⟨Text.pascalCase, Text.snakeCase, rustReserved, rustEscape⟩

end SchemaBindings
