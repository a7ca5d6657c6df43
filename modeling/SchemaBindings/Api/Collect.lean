import SchemaBindings.Api.Basic
import SchemaBindings.Emit.Phased

/-! Collecting the entries of an API: requests register their types, the rest are reported. -/

namespace SchemaBindings

def registerAll (imports : Imports) : List TypeExpr → Except GenerationError Imports
  | [] => .ok imports
  | te :: rest => do registerAll (← imports.addType te) rest

def HttpRequest.types (h : HttpRequest) : List TypeExpr :=
  h.request.toList ++ [h.response]

def ApiEntry.skipped (entry : ApiEntry) : String :=
  "unrecognized API entry '" ++ entry.name ++ "' of type " ++ entry.typeExpr.text

def collectEntry (entry : ApiEntry) (imports : Imports) (context : EmitContext) :
    Collected Bool :=
  match entry.http with
  | none => ⟨.ok false, imports, context.warn entry.location entry.skipped⟩
  | some http =>
    match registerAll imports http.types with
    | .ok registered => ⟨.ok true, registered, context⟩
    | .error e => ⟨.error e, imports, context⟩

/-- What the phases emit for an API, and the settled imports; the API itself comes first in them. -/
def Api.emit (api : Api) (helpers : List String) (g : PhasedGenerator ApiEntry) :
    Except GenerationError (PhasedOutput × Imports) := do
  let start : Imports := { Imports.new (typescriptMapper []) with style := .named }
  let start ← start.addTypeWithHelpers api.typeExpr helpers
  let (result, imports) := g.run api.entries start
  return (← result, imports)

end SchemaBindings
