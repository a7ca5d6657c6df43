import SchemaBindings.Api.Collect
import SchemaBindings.Script.File
import SchemaBindings.Script.Member

/-!
A TypeScript client class for an API: for each request a member that holds its function, a line of
the constructor that sets it, and an async method that calls it.
-/

namespace SchemaBindings

structure ClientGenerator where
  output : String
  api : ScopedName
  importPrefix : String
  className : String
  deriving DecidableEq, Repr

def slotName (entry : ApiEntry) (http : HttpRequest) : String :=
  typescriptNaming.memberName (http.method.text ++ " " ++ entry.name)

def factoryName (http : HttpRequest) : String :=
  match http.method, http.security.requiresToken with
  | .post, false => "mkPostFn"
  | .post, true => "mkAuthPostFn"
  | .get, false => "mkGetFn"
  | .get, true => "mkAuthGetFn"

def constructorArguments : List Fragment :=
  [.jsDoc "Fetcher over HTTP", .line "http: HttpFetch,",
   .jsDoc "Base URL of the API endpoints", .line "baseUrl: string,",
   .jsDoc "Resolver for ADL types", .line "resolver: DeclResolver,",
   .jsDoc "fn to get an auth token", .line "getAuthToken: ()=>AuthTokens,",
   .jsDoc "Error handler to allow for cross cutting concerns, e.g. authorization errors",
   .line "handleError: (error: HttpServiceError) => void"]

namespace ClientGenerator

def new (output : String) (api : ScopedName) : ClientGenerator :=
  ⟨output, api, "@/adl-gen", "AppService"⟩

/-- The response is rendered before the request. -/
def slotType (http : HttpRequest) (imports : Imports) : Except GenerationError String := do
  let response ← imports.referencedName http.response
  match http.request with
  | some request => do
    let request ← imports.referencedName request
    return "PostFn<" ++ request ++ ", " ++ response ++ ">"
  | none => return "GetFn<" ++ response ++ ">"

def slot (entry : ApiEntry) (imports : Imports) : Emitted :=
  match entry.http with
  | none => .ok []
  | some http => do
    let type ← slotType http imports
    return (entry.doc.map Fragment.jsDoc).toList ++
      [.line ("private " ++ slotName entry http ++ ": " ++ type ++ ";"), .blank]

def initializer (entry : ApiEntry) (_ : Imports) : Emitted :=
  match entry.http with
  | none => .ok []
  | some http =>
    .ok [.line ("this." ++ slotName entry http ++ " = this." ++ factoryName http ++
      "(api." ++ entry.name ++ ");")]

def method (entry : ApiEntry) (imports : Imports) : Emitted :=
  match entry.http with
  | none => .ok []
  | some http => do
    let response ← imports.referencedName http.response
    let call := "return this." ++ slotName entry http ++ ".call("
    let base : Script.Function :=
      { Script.Function.ofMethod entry.name with
        doc := entry.doc, async := true, returns := some ("Promise<" ++ response ++ ">") }
    match http.request with
    | some request => do
      let request ← imports.referencedName request
      return .blank :: Script.Function.fragments
        { base with params := [⟨"req", request⟩], body := [.line (call ++ "req);")] }
    | none =>
      return .blank :: Script.Function.fragments { base with body := [.line (call ++ ");")] }

def phases : PhasedGenerator ApiEntry where
  collect := collectEntry
  decl := slot
  ctor := initializer
  impl := method

def classFragments (g : ClientGenerator) (api : Api) (annotatedApi : String)
    (output : PhasedOutput) : List Fragment :=
  let constructorBody :=
    .line "super(http, baseUrl, resolver, getAuthToken, handleError);" ::
      .line annotatedApi :: output.ctors
  let body := output.decls ++
    [.line "constructor(", .indent constructorArguments, .braced ") \x7b" constructorBody] ++
    output.impls
  (api.doc.map Fragment.jsDoc).toList ++
    [.block ("export class " ++ g.className ++ " extends HttpServiceBase \x7b") body (some "\x7d;")]

def runtimeImports : List Script.Import :=
  [.ofNames "./http-service-base" ["AuthTokens", "HttpServiceBase"],
   .ofNames "./http-service-error" ["HttpServiceError"],
   .ofNames "./types" ["GetFn", "PostFn"],
   .ofNames "./http" ["HttpFetch"]]

def resolverImport (g : ClientGenerator) : Script.Import :=
  .ofNames (Script.modulePath g.importPrefix "runtime.adl") ["DeclResolver"]

def file (g : ClientGenerator) (api : Api) (output : PhasedOutput) (imports : Imports) :
    Except GenerationError Script.File := do
  let scopedName ← imports.helperName api.name "sn"
  let maker ← imports.helperName api.name "make"
  let annotatedApi := "const api = this.annotatedApi(" ++ scopedName ++ ", " ++ maker ++
    "(\x7b\x7d));"
  let modules ← imports.modules
  let head := (Script.File.empty.addHeader schemaBanner).addImports
    (modules.map (Script.symbolImport g.importPrefix) ++ runtimeImports)
  let head := head.beginGroup.addImport g.resolverImport
  return head.add (g.classFragments api annotatedApi output)

def generate (g : ClientGenerator) (s : Schema) : Except GenerationError Artifact := do
  let api ← s.api g.api
  let (output, imports) ← api.emit ["sn", "make"] phases
  let file ← g.file api output imports
  return ⟨g.output, file.render, output.diagnostics⟩

end ClientGenerator

end SchemaBindings
