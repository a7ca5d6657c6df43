import SchemaBindings.Schema.TypeExpr
import SchemaBindings.Shape

/-! What can stop the generation of an artifact, and how it is told. -/

namespace SchemaBindings

inductive Unsupported where
  | surplusArguments (name : ScopedName) (expected supplied : Nat)
  | appliedParam (param : String) (owner : ScopedName)
  | unboundParam (param : String)
  | appliedFreeParam (param : String)
  | primitive (text : String)
  | scalarArguments (name : String) (supplied : Nat)
  | singleArgument (name : String) (supplied : Nat)
  | apiShape (name : ScopedName)
  | requestDefault (location : String) (fault : ShapeFault)
  deriving DecidableEq, Repr

def quotedName (name : String) : String :=
  "'" ++ name ++ "'"

def Unsupported.message : Unsupported → String
  | .surplusArguments name expected supplied =>
    quotedName name.text ++ " takes " ++ toString expected ++ " type argument(s), " ++
      toString supplied ++ " supplied"
  | .appliedParam param owner =>
    "type parameter " ++ quotedName param ++ " of " ++ quotedName owner.text ++
      " is applied to arguments"
  | .unboundParam param => "unbound type parameter " ++ quotedName param
  | .appliedFreeParam param => "type parameter " ++ quotedName param ++ " applied to arguments"
  | .primitive text => "primitive " ++ quotedName text
  | .scalarArguments name supplied =>
    quotedName name ++ " takes no type arguments, " ++ toString supplied ++ " supplied"
  | .singleArgument name supplied =>
    quotedName name ++ " expects one type argument, " ++ toString supplied ++ " supplied"
  | .apiShape name => "API " ++ quotedName name.text ++ " must be a non-generic struct"
  | .requestDefault location fault =>
    "request default of " ++ location ++ ": " ++ fault.message

inductive AnnotationFault where
  | shape (fault : ShapeFault)
  | genericTable
  deriving DecidableEq, Repr

def AnnotationFault.message : AnnotationFault → String
  | .shape fault => fault.message
  | .genericTable => "tables must be non-generic structs"

/-- Names are registered first, then the imports are settled once, then names are asked for. -/
inductive ImportMisuse where
  | settled (operation : String)
  | unsettled (operation : String)
  | unknownModule (moduleName : String)
  | unknownSymbol (moduleName symbol : String)
  deriving DecidableEq, Repr

def ImportMisuse.message : ImportMisuse → String
  | .settled operation => operation ++ " called after resolve_imports"
  | .unsettled operation => operation ++ " called before resolve_imports"
  | .unknownModule moduleName => "module " ++ quotedName moduleName ++ " was never registered"
  | .unknownSymbol moduleName symbol =>
    "symbol " ++ quotedName symbol ++ " was never registered for module " ++ quotedName moduleName

inductive GenerationError where
  | unresolvedReference (name : ScopedName)
  | aliasCycle (name : String) (limit : Nat)
  | partialApplication (name : ScopedName) (expected supplied : Nat)
  | unsupported (cause : Unsupported)
  | annotationMissing (key : ScopedName) (target : String)
  | annotationInvalid (key : ScopedName) (target : String) (fault : AnnotationFault)
  | importMisuse (cause : ImportMisuse)
  deriving DecidableEq, Repr

namespace GenerationError

def message : GenerationError → String
  | .unresolvedReference name => "unresolved reference " ++ quotedName name.text
  | .aliasCycle name limit =>
    "expansion of " ++ quotedName name ++ " exceeded " ++ toString limit ++ " steps"
  | .partialApplication name expected supplied =>
    quotedName name.text ++ " expects " ++ toString expected ++ " type argument(s), " ++
      toString supplied ++ " supplied"
  | .unsupported cause => "unsupported type kind: " ++ cause.message
  | .annotationMissing key target =>
    "missing annotation " ++ quotedName key.text ++ " on " ++ target
  | .annotationInvalid key target fault =>
    "invalid annotation " ++ quotedName key.text ++ " on " ++ target ++ ": " ++ fault.message
  | .importMisuse cause => "importing helper misuse: " ++ cause.message

def code : GenerationError → String
  | .unresolvedReference _ => "schemagen::unresolved_reference"
  | .aliasCycle _ _ => "schemagen::alias_cycle"
  | .partialApplication _ _ _ => "schemagen::partial_application"
  | .unsupported _ => "schemagen::unsupported_type"
  | .annotationMissing _ _ => "schemagen::missing_annotation"
  | .annotationInvalid _ _ _ => "schemagen::invalid_annotation"
  | .importMisuse _ => "schemagen::importing_helper"

def help? : GenerationError → Option String
  | .unresolvedReference name =>
    some ("check that the module declaring " ++ quotedName name.text ++
      " is listed in [schema] files")
  | .aliasCycle _ _ => some "type aliases or newtypes probably refer to each other in a cycle"
  | _ => none

end GenerationError

end SchemaBindings
