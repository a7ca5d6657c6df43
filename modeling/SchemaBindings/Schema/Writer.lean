import SchemaBindings.Schema.Basic

/-! Writing modules and their parts as JSON, every field present. -/

namespace SchemaBindings

open Json

def textValues (items : List String) : Value :=
  .array (items.map .string)

def orNull : Option Value → Value
  | some value => value
  | none => .null

def ScopedName.write (n : ScopedName) : Value :=
  .object [("moduleName", .string n.moduleName), ("name", .string n.name)]

def TypeHead.write : TypeHead → Value
  | .primitive name => .object [("primitive", .string name)]
  | .typeParam name => .object [("typeParam", .string name)]
  | .reference name => .object [("reference", name.write)]

mutual

def TypeExpr.write : TypeExpr → Value
  | ⟨head, parameters⟩ =>
    .object [("typeRef", head.write), ("parameters", .array (writeTypeExprs parameters))]

def writeTypeExprs : List TypeExpr → List Value
  | [] => []
  | te :: rest => te.write :: writeTypeExprs rest

end

def Annotation.write (a : Annotation) : Value :=
  .object [("key", a.key.write), ("value", a.value)]

def writeAnnotations (annotations : List Annotation) : Value :=
  .array (annotations.map Annotation.write)

def Field.write (f : Field) : Value :=
  .object
    [("name", .string f.name),
     ("serializedName", orNull (f.serializedName.map .string)),
     ("typeExpr", f.typeExpr.write),
     ("default", orNull f.default),
     ("annotations", writeAnnotations f.annotations)]

def writeFields (fields : List Field) : Value :=
  .array (fields.map Field.write)

def writeRecord (params : List String) (fields : List Field) : Value :=
  .object [("typeParams", textValues params), ("fields", writeFields fields)]

def DeclBody.write : DeclBody → Value
  | .struct params fields => .object [("struct_", writeRecord params fields)]
  | .union params fields => .object [("union_", writeRecord params fields)]
  | .typeAlias params te =>
    .object [("type_", .object [("typeParams", textValues params), ("typeExpr", te.write)])]
  | .newtype params te default =>
    .object [("newtype_", .object
      [("typeParams", textValues params), ("typeExpr", te.write), ("default", orNull default)])]

def Decl.write (d : Decl) : Value :=
  .object
    [("name", .string d.name), ("type_", d.body.write),
     ("annotations", writeAnnotations d.annotations)]

def Module.write (m : Module) : Value :=
  .object
    [("name", .string m.name), ("imports", textValues m.imports),
     ("decls", .object (m.decls.map fun (key, d) => (key, d.write))),
     ("annotations", writeAnnotations m.annotations)]

end SchemaBindings
