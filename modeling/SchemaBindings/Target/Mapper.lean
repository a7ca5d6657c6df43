import SchemaBindings.Resolve.Mark
import SchemaBindings.Target.Naming

/-! How canonical types are written in a target language. -/

namespace SchemaBindings

def angled (name : String) (params : List String) : String :=
  if params.isEmpty then name else name ++ "<" ++ ", ".intercalate params ++ ">"

/-- What `native` gives is the text of declarations that are written as they are and never
imported. -/
structure Mapper where
  language : String
  naming : Naming
  primitive : Primitive → String
  vector : String → String
  stringMap : String → String
  nullable : String → String
  qualify : (moduleAlias name : String) → String
  applyParams : (name : String) → (params : List String) → String := angled
  native : ScopedName → Option String := fun _ => none

/-- Declarations with a text of their own; of two entries for one name the later counts. -/
abbrev Natives := List (ScopedName × String)

def Natives.find? (natives : Natives) (name : ScopedName) : Option String :=
  natives.reverse.lookup name

def typescriptPrimitive : Primitive → String
  | .void => "null"
  | .bool => "boolean"
  | .string => "string"
  | .int64 => "bigint"
  | .word64 => "bigint"
  | .int8 => "number"
  | .int16 => "number"
  | .int32 => "number"
  | .word8 => "number"
  | .word16 => "number"
  | .word32 => "number"
  | .float => "number"
  | .double => "number"
  | .json => "\x7b\x7d"

/-- Element types of more than one word are put in parentheses. -/
def typescriptVector (elem : String) : String :=
  if elem.toList.contains ' ' then "(" ++ elem ++ ")[]" else elem ++ "[]"

def typescriptMapper (natives : Natives) : Mapper where
  language := "typescript"
  naming := typescriptNaming
  primitive := typescriptPrimitive
  vector := typescriptVector
  stringMap elem := "\x7b[key: string]: " ++ elem ++ "\x7d"
  nullable elem := elem ++ " | null"
  qualify moduleAlias name := moduleAlias ++ "." ++ name
  native := natives.find?

def instantName : ScopedName := ⟨"common", "Instant"⟩

def rowMapper : Mapper :=
  typescriptMapper [(instantName, "Date")]

def rustPrimitive : Primitive → String
  | .void => "()"
  | .bool => "bool"
  | .string => "String"
  | .int8 => "i8"
  | .int16 => "i16"
  | .int32 => "i32"
  | .int64 => "i64"
  | .word8 => "u8"
  | .word16 => "u16"
  | .word32 => "u32"
  | .word64 => "u64"
  | .float => "f32"
  | .double => "f64"
  | .json => "serde_json::Value"

def rustMapper (natives : Natives) : Mapper where
  language := "rust"
  naming := rustNaming
  primitive := rustPrimitive
  vector elem := "std::vec::Vec<" ++ elem ++ ">"
  stringMap elem := "std::collections::HashMap<String, " ++ elem ++ ">"
  nullable elem := "std::option::Option<" ++ elem ++ ">"
  qualify moduleAlias name := moduleAlias ++ "::" ++ name
  native := natives.find?

def Schema.customTypes (s : Schema) (runtimeAlias : String) : Except GenerationError Natives := do
  let found ← s.decls.mapM fun (name, decl) => do
    let custom ← customTypeMark.get? decl.annotations name.text
    return custom.map fun c => (name, c.path runtimeAlias)
  return found.filterMap id

end SchemaBindings
