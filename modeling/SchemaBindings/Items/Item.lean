import SchemaBindings.Layout.Builder
import SchemaBindings.Text.Blank

/-! Rust functions without parameters, implementation blocks and unit-like structs. -/

namespace SchemaBindings.Items

def docFragments (doc : String) : List Fragment :=
  (Text.lines doc.toList).map fun line => .rustDoc (String.ofList (Text.trim line))

def docOrNone (doc : Option String) : List Fragment :=
  match doc with
  | some doc => docFragments doc
  | none => []

structure Function where
  name : String
  doc : Option String
  returns : Option String
  body : List String
  deriving DecidableEq, Repr

namespace Function

def signature (f : Function) : String :=
  match f.returns with
  | some type => "pub fn " ++ f.name ++ "() -> " ++ type ++ " \x7b"
  | none => "pub fn " ++ f.name ++ "() \x7b"

def fragments (f : Function) : List Fragment :=
  docOrNone f.doc ++ [.braced f.signature (f.body.map .line)]

end Function

structure Implementation where
  typeName : String
  methods : List Function
  deriving DecidableEq, Repr

def methodFragments : List Function → List Fragment
  | [] => []
  | [method] => method.fragments
  | method :: methods => method.fragments ++ .blank :: methodFragments methods

def Implementation.fragments (i : Implementation) : List Fragment :=
  [.braced ("impl " ++ i.typeName ++ " \x7b") (methodFragments i.methods)]

structure UnitStruct where
  name : String
  doc : Option String
  deriving DecidableEq, Repr

def UnitStruct.fragments (s : UnitStruct) : List Fragment :=
  docOrNone s.doc ++ [.line ("pub struct " ++ s.name ++ " \x7b\x7d")]

end SchemaBindings.Items
