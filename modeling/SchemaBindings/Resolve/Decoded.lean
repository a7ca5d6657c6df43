import SchemaBindings.Schema.Name

/-! Canonical types: what remains of a type expression once its aliases are gone. -/

namespace SchemaBindings

inductive Primitive where
  | void
  | bool
  | string
  | int8
  | int16
  | int32
  | int64
  | word8
  | word16
  | word32
  | word64
  | float
  | double
  | json
  deriving DecidableEq, Repr

namespace Primitive

def all : List Primitive :=
  [void, bool, string, int8, int16, int32, int64, word8, word16, word32, word64, float, double,
   json]

def name : Primitive → String
  | void => "Void"
  | bool => "Bool"
  | string => "String"
  | int8 => "Int8"
  | int16 => "Int16"
  | int32 => "Int32"
  | int64 => "Int64"
  | word8 => "Word8"
  | word16 => "Word16"
  | word32 => "Word32"
  | word64 => "Word64"
  | float => "Float"
  | double => "Double"
  | json => "Json"

def ofName? (s : String) : Option Primitive :=
  all.find? (·.name == s)

end Primitive

inductive DeclKind where
  | struct
  | union
  | enum
  | newtype
  | typeAlias
  deriving DecidableEq, Repr

namespace DeclKind

def all : List DeclKind :=
  [struct, union, enum, newtype, typeAlias]

def name : DeclKind → String
  | struct => "Struct"
  | union => "Union"
  | enum => "Enum"
  | newtype => "Newtype"
  | typeAlias => "TypeAlias"

def ofName? (s : String) : Option DeclKind :=
  all.find? (·.name == s)

end DeclKind

inductive Decoded where
  | primitive (p : Primitive)
  | vector (elem : Decoded)
  | stringMap (elem : Decoded)
  | nullable (elem : Decoded)
  | reference (name : ScopedName) (kind : DeclKind) (parameters : List Decoded)
  deriving Repr

namespace Decoded

mutual

def references : Decoded → List (ScopedName × DeclKind)
  | .primitive _ => []
  | .vector elem => references elem
  | .stringMap elem => references elem
  | .nullable elem => references elem
  | .reference name kind parameters => (name, kind) :: referencesAll parameters

def referencesAll : List Decoded → List (ScopedName × DeclKind)
  | [] => []
  | d :: rest => references d ++ referencesAll rest

end

def headName? : Decoded → Option ScopedName
  | .reference name _ _ => some name
  | _ => none

end Decoded

end SchemaBindings
