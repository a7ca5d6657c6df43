import SchemaBindings.Json.Value
import SchemaBindings.Schema.TypeExpr

/-! Declarations with their fields and annotations. -/

namespace SchemaBindings

structure Annotation where
  key : ScopedName
  value : Json.Value
  deriving Repr

structure Field where
  name : String
  serializedName : Option String
  typeExpr : TypeExpr
  default : Option Json.Value
  annotations : List Annotation
  deriving Repr

def Field.isVoid (f : Field) : Bool :=
  match f.typeExpr with
  | ⟨.primitive name, []⟩ => name == "Void"
  | _ => false

inductive DeclBody where
  | struct (typeParams : List String) (fields : List Field)
  | union (typeParams : List String) (fields : List Field)
  | typeAlias (typeParams : List String) (typeExpr : TypeExpr)
  | newtype (typeParams : List String) (typeExpr : TypeExpr) (default : Option Json.Value)
  deriving Repr

def DeclBody.typeParams : DeclBody → List String
  | .struct params _ => params
  | .union params _ => params
  | .typeAlias params _ => params
  | .newtype params _ _ => params

structure Decl where
  name : String
  body : DeclBody
  annotations : List Annotation
  deriving Repr

namespace Decl

def typeParams (d : Decl) : List String :=
  d.body.typeParams

def isEnum (d : Decl) : Bool :=
  match d.body with
  | .union _ fields => fields.all Field.isVoid
  | _ => false

end Decl

end SchemaBindings
