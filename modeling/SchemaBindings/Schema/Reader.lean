import SchemaBindings.Json.Reading
import SchemaBindings.Schema.Basic

/-! Reading modules and their parts from JSON. -/

namespace SchemaBindings

open Json

def ScopedName.read : Reading ScopedName :=
  record "ScopedName" ⟨"", ""⟩
    [.of "moduleName" Json.text (fun v n => { n with moduleName := v }) true,
     .of "name" Json.text (fun v n => { n with name := v }) true]

def TypeHead.read : Reading TypeHead :=
  tagged
    [⟨"primitive", fun depth o => (Json.text depth o).map .primitive⟩,
     ⟨"typeParam", fun depth o => (Json.text depth o).map .typeParam⟩,
     ⟨"reference", fun depth o => (ScopedName.read depth o).map .reference⟩]

namespace TypeExpr

def readWithin : (levels : Nat) → Reading TypeExpr
  | 0 => fun _ o => .error (refuse "struct TypeExpr" o)
  | levels + 1 =>
    record "TypeExpr" ⟨.primitive "", []⟩
      [.of "typeRef" TypeHead.read (fun v te => { te with head := v }) true,
       .of "parameters" (list (readWithin levels)) (fun v te => { te with parameters := v }) false]

/-- Each level enters a bracket, so the brackets left bound the levels. -/
def read : Reading TypeExpr :=
  fun depth => readWithin (depth + 1) depth

end TypeExpr

def Annotation.read : Reading Annotation :=
  record "Annotation" ⟨⟨"", ""⟩, .null⟩
    [.of "key" ScopedName.read (fun v a => { a with key := v }) true,
     .of "value" any (fun v a => { a with value := v }) false]

def Field.read : Reading Field :=
  record "Field" ⟨"", none, .primitive "", none, []⟩
    [.of "name" Json.text (fun v f => { f with name := v }) true,
     .of "serializedName" (optional Json.text) (fun v f => { f with serializedName := v }) false,
     .of "typeExpr" TypeExpr.read (fun v f => { f with typeExpr := v }) true,
     .of "default" (optional any) (fun v f => { f with default := v }) false,
     .of "annotations" (list Annotation.read) (fun v f => { f with annotations := v }) false]

namespace DeclBody

def setParams (params : List String) : DeclBody → DeclBody
  | .struct _ fields => .struct params fields
  | .union _ fields => .union params fields
  | .typeAlias _ te => .typeAlias params te
  | .newtype _ te default => .newtype params te default

def setFields (fields : List Field) : DeclBody → DeclBody
  | .struct params _ => .struct params fields
  | .union params _ => .union params fields
  | body => body

def setTypeExpr (te : TypeExpr) : DeclBody → DeclBody
  | .typeAlias params _ => .typeAlias params te
  | .newtype params _ default => .newtype params te default
  | body => body

def setDefault (default : Option Value) : DeclBody → DeclBody
  | .newtype params te _ => .newtype params te default
  | body => body

def typeParamsSlot : Slot DeclBody :=
  .of "typeParams" (list Json.text) setParams false

def fieldsSlot : Slot DeclBody :=
  .of "fields" (list Field.read) setFields true

def typeExprSlot : Slot DeclBody :=
  .of "typeExpr" TypeExpr.read setTypeExpr true

def defaultSlot : Slot DeclBody :=
  .of "default" (optional any) setDefault false

def read : Reading DeclBody :=
  tagged
    [⟨"struct_", record "Struct" (.struct [] []) [typeParamsSlot, fieldsSlot]⟩,
     ⟨"union_", record "Union" (.union [] []) [typeParamsSlot, fieldsSlot]⟩,
     ⟨"type_", record "TypeDef" (.typeAlias [] (.primitive "")) [typeParamsSlot, typeExprSlot]⟩,
     ⟨"newtype_", record "NewType" (.newtype [] (.primitive "") none)
       [typeParamsSlot, typeExprSlot, defaultSlot]⟩]

end DeclBody

def Decl.read : Reading Decl :=
  record "Decl" ⟨"", .struct [] [], []⟩
    [.of "name" Json.text (fun v d => { d with name := v }) true,
     .of "type_" DeclBody.read (fun v d => { d with body := v }) true,
     .of "annotations" (list Annotation.read) (fun v d => { d with annotations := v }) false]

def Module.read : Reading Module :=
  record "Module" ⟨"", [], [], []⟩
    [.of "name" Json.text (fun v m => { m with name := v }) true,
     .of "imports" (list Json.text) (fun v m => { m with imports := v }) false,
     .of "decls" (keyed Decl.read) (fun v m => { m with decls := v }) false,
     .of "annotations" (list Annotation.read) (fun v m => { m with annotations := v }) false]

end SchemaBindings
