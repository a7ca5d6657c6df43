import SchemaBindings.Resolve.Decoded
import SchemaBindings.Resolve.Expand

/-! Decoding type expressions into canonical types. -/

namespace SchemaBindings

/-- The value of the first annotation under a key. -/
def findAnnotation? (key : ScopedName) (annotations : List Annotation) : Option Json.Value :=
  (annotations.find? (·.key == key)).map (·.value)

def Decl.kind (d : Decl) : DeclKind :=
  match d.body with
  | .struct _ _ => .struct
  | .union _ _ => if d.isEnum then .enum else .union
  | .typeAlias _ _ => .typeAlias
  | .newtype _ _ _ => .newtype

def decodingLimit : Nat := 32

/-- Declarations in `nominal`, or annotated with `customTypeKey`, stand for themselves. -/
structure Decoder where
  resolver : Resolver
  newtypes : NewtypePolicy
  nominal : List ScopedName
  customTypeKey : Option ScopedName

namespace Decoder

def new (resolver : Resolver) : Decoder :=
  ⟨resolver, .nominal, [], none⟩

def expander (d : Decoder) : Expander :=
  ⟨d.resolver, d.newtypes⟩

def isPinned (d : Decoder) (name : ScopedName) (decl : Decl) : Bool :=
  d.nominal.contains name ||
    (match d.customTypeKey with
      | some key => (findAnnotation? key decl.annotations).isSome
      | none => false)

def nullableOf : Decoded → Decoded
  | .nullable elem => .nullable elem
  | elem => .nullable elem

def single (name : String) : List TypeExpr → Except GenerationError TypeExpr
  | [te] => .ok te
  | parameters => .error (.unsupported (.singleArgument name parameters.length))

def scalar (name : String) (parameters : List TypeExpr) : Except GenerationError Decoded :=
  match Primitive.ofName? name with
  | none => .error (.unsupported (.primitive name))
  | some p =>
    if parameters.isEmpty then .ok (.primitive p)
    else .error (.unsupported (.scalarArguments name parameters.length))

/-- Decodes with `levels` of nesting left, the present one included. -/
def decodeWithin (d : Decoder) : (levels : Nat) → TypeExpr → Except GenerationError Decoded
  | 0, te => .error (.aliasCycle te.text decodingLimit)
  | levels + 1, te =>
    match te.head with
    | .primitive name =>
      if name = "Vector" then do
        return .vector (← d.decodeWithin levels (← single name te.parameters))
      else if name = "StringMap" then do
        return .stringMap (← d.decodeWithin levels (← single name te.parameters))
      else if name = "Nullable" then do
        return nullableOf (← d.decodeWithin levels (← single name te.parameters))
      else scalar name te.parameters
    | .typeParam name => .error (.unsupported (.unboundParam name))
    | .reference name =>
      match d.resolver name with
      | none => .error (.unresolvedReference name)
      | some decl => do
        let expanded ← if d.isPinned name decl then pure none else d.expander.step te
        match expanded with
        | some next => d.decodeWithin levels next
        | none =>
          checkArity name decl.typeParams.length te.parameters.length
          return .reference name decl.kind (← te.parameters.mapM (d.decodeWithin levels))

def decode (d : Decoder) (te : TypeExpr) : Except GenerationError Decoded :=
  d.decodeWithin (decodingLimit + 1) te

end Decoder

end SchemaBindings
