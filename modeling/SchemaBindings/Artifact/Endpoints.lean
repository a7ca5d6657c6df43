import SchemaBindings.Api.Collect
import SchemaBindings.Script.File
import SchemaBindings.Script.Member

/-! The handlers a server must provide for an API, and the function that registers them. -/

namespace SchemaBindings

structure EndpointsGenerator where
  output : String
  api : ScopedName
  importPrefix : String
  deriving DecidableEq, Repr

namespace EndpointsGenerator

def new (output : String) (api : ScopedName) : EndpointsGenerator :=
  ⟨output, api, "@protoapp/adl"⟩

def requestType (http : HttpRequest) (imports : Imports) : Except GenerationError String :=
  match http.request with
  | some request => imports.referencedName request
  | none => .ok (imports.mapper.primitive .void)

/-- The request is rendered before the response. -/
def handler (entry : ApiEntry) (imports : Imports) : Emitted :=
  match entry.http with
  | none => .ok []
  | some http => do
    let request ← requestType http imports
    let response ← imports.referencedName http.response
    return Script.Member.fragments
      (.method entry.name [⟨"ctx", "AContext<" ++ response ++ ">"⟩, ⟨"req", request⟩]
        "Promise<void>")

def registration (entry : ApiEntry) (_ : Imports) : Emitted :=
  .ok [.braced ("if (h." ++ entry.name ++ ") \x7b")
    [.line ("addReqHandler(r, RESOLVER, api." ++ entry.name ++ ", h." ++ entry.name ++
      ".bind(h));")]]

def phases : PhasedGenerator ApiEntry where
  collect := collectEntry
  decl := handler
  impl := registration

def runtimeImports (g : EndpointsGenerator) : List Script.Import :=
  [{ Script.Import.ofNames "../server/adl-requests" ["AContext", "addReqHandler"] with
     singleQuoted := true },
   { Script.Import.ofNames g.importPrefix ["RESOLVER"] with singleQuoted := true },
   { Script.Import.ofPath "koa-router" with default := some "Router", singleQuoted := true }]

def registerFunction (maker : String) (registrations : List Fragment) : Script.Function :=
  { Script.Function.new "registerEndpoints" with
    params := [⟨"h", "Partial<Endpoints>"⟩, ⟨"r", "Router"⟩]
    body := .line ("const api = " ++ maker ++ "(\x7b\x7d);") :: .blank :: registrations }

def file (g : EndpointsGenerator) (api : Api) (output : PhasedOutput) (imports : Imports) :
    Except GenerationError Script.File := do
  let maker ← imports.helperName api.name "make"
  let modules ← imports.modules
  let head := (Script.File.empty.addHeader schemaBanner).addImports
    (modules.map (Script.symbolImport g.importPrefix) ++ g.runtimeImports)
  let handlers := [.braced "export interface Endpoints \x7b" output.decls]
  return (head.add handlers).add (registerFunction maker output.impls).fragments

def generate (g : EndpointsGenerator) (s : Schema) : Except GenerationError Artifact := do
  let api ← s.api g.api
  let (output, imports) ← api.emit ["make"] phases
  let file ← g.file api output imports
  return ⟨g.output, file.render, output.diagnostics⟩

end EndpointsGenerator

end SchemaBindings
