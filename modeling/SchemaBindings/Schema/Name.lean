import SchemaBindings.Text.Order
import SchemaBindings.Text.Search

/-! Names of declarations, qualified by dotted module names. -/

namespace SchemaBindings

structure ScopedName where
  moduleName : String
  name : String
  deriving DecidableEq, Repr

/-- The last segment of a dotted module name. -/
def moduleTail (moduleName : String) : String :=
  String.ofList (Text.lastPart '.' moduleName.toList)

namespace ScopedName

def text (n : ScopedName) : String :=
  n.moduleName ++ "." ++ n.name

/-- Both parts must be present around the last dot. -/
def ofText? (s : String) : Option ScopedName :=
  match Text.aroundLast? '.' s.toList with
  | some (before, after) =>
    if before.isEmpty || after.isEmpty then none
    else some ⟨String.ofList before, String.ofList after⟩
  | none => none

def refusal (s : String) : String :=
  "'" ++ s ++ "' is not a scoped name (expected module.Name)"

def le (a b : ScopedName) : Bool :=
  if a.moduleName = b.moduleName then nameLe a.name b.name
  else nameLe a.moduleName b.moduleName

end ScopedName

end SchemaBindings
