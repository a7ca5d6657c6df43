import SchemaBindings.Layout.Builder

/-! TypeScript interfaces, functions and class methods. -/

namespace SchemaBindings.Script

structure Param where
  name : String
  type : String
  deriving DecidableEq, Repr

def Param.text (p : Param) : String :=
  p.name ++ ": " ++ p.type

def paramsText (params : List Param) : String :=
  ", ".intercalate (params.map Param.text)

inductive Member where
  | field (name type : String)
  | method (name : String) (params : List Param) (returns : String)
  deriving DecidableEq, Repr

namespace Member

def text : Member → String
  | .field name type => name ++ ": " ++ type ++ ";"
  | .method name params returns => name ++ "(" ++ paramsText params ++ "): " ++ returns ++ ";"

def fragments (m : Member) : List Fragment :=
  [.line m.text]

end Member

structure Interface where
  name : String
  members : List Member
  exported : Bool
  deriving DecidableEq, Repr

def exportText (exported : Bool) : String :=
  if exported then "export " else ""

def Interface.fragments (i : Interface) : List Fragment :=
  let head := exportText i.exported ++ "interface " ++ i.name ++ " "
  if i.members.isEmpty then [.line (head ++ "\x7b\x7d")]
  else [.braced (head ++ "\x7b") (i.members.map fun m => .line m.text)]

structure Function where
  name : String
  doc : Option String
  exported : Bool
  method : Bool
  async : Bool
  params : List Param
  returns : Option String
  body : List Fragment
  deriving Repr

namespace Function

def new (name : String) : Function :=
  ⟨name, none, true, false, false, [], none, []⟩

def ofMethod (name : String) : Function :=
  { new name with exported := false, method := true }

def signature (f : Function) : String :=
  exportText f.exported ++ (if f.async then "async " else "") ++
    (if f.method then "" else "function ") ++ f.name ++ "(" ++ paramsText f.params ++ ")" ++
    (match f.returns with
      | some type => ": " ++ type
      | none => "") ++ " \x7b"

def fragments (f : Function) : List Fragment :=
  (f.doc.map Fragment.jsDoc).toList ++ [.braced f.signature f.body]

end Function

end SchemaBindings.Script
