import SchemaBindings.Schema.Name

/-! Type expressions: a head applied to arguments. -/

namespace SchemaBindings

inductive TypeHead where
  | primitive (name : String)
  | typeParam (name : String)
  | reference (name : ScopedName)
  deriving DecidableEq, Repr

structure TypeExpr where
  head : TypeHead
  parameters : List TypeExpr
  deriving Repr

def TypeHead.text : TypeHead → String
  | .primitive name => name
  | .typeParam name => name
  | .reference name => name.text

namespace TypeExpr

def primitive (name : String) : TypeExpr :=
  ⟨.primitive name, []⟩

def typeParam (name : String) : TypeExpr :=
  ⟨.typeParam name, []⟩

def reference (name : ScopedName) : TypeExpr :=
  ⟨.reference name, []⟩

def scopedName? (te : TypeExpr) : Option ScopedName :=
  match te.head with
  | .reference name => some name
  | _ => none

mutual

def text : TypeExpr → String
  | ⟨head, []⟩ => head.text
  | ⟨head, first :: rest⟩ => head.text ++ "<" ++ text first ++ textRest rest ++ ">"

def textRest : List TypeExpr → String
  | [] => ""
  | te :: rest => ", " ++ text te ++ textRest rest

end

end TypeExpr

end SchemaBindings
