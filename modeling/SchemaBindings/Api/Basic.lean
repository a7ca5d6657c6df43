import SchemaBindings.Resolve.Mark

/-! API structs: each field describes one HTTP request, or is left unrecognized. -/

namespace SchemaBindings

open Json (Decoding)

inductive Security where
  | anyone
  | token
  | tokenWithRole (role : String)
  deriving DecidableEq, Repr

namespace Security

def requiresToken : Security → Bool
  | .anyone => false
  | _ => true

def tags : List String :=
  ["public", "token", "tokenWithRole"]

def decode : Decoding Security := fun v => do
  match ← Decoding.tagged v with
  | .bare "public" => return .anyone
  | .bare "token" => return .token
  | .bare "tokenWithRole" => throw (.invalidType .unitVariant "newtype variant")
  | .bare tag => throw (.unknownVariant tag tags)
  | .carrying "public" payload => (Decoding.unit payload).map fun _ => .anyone
  | .carrying "token" payload => (Decoding.unit payload).map fun _ => .token
  | .carrying "tokenWithRole" payload => (Decoding.text payload).map .tokenWithRole
  | .carrying tag _ => throw (.unknownVariant tag tags)

end Security

def decodeRequestDefault : Decoding Security :=
  Decoding.record "RequestDefault" .anyone
    [.of "security" Security.decode (fun v _ => v) false]

inductive HttpMethod where
  | get
  | post
  deriving DecidableEq, Repr

def HttpMethod.text : HttpMethod → String
  | .get => "get"
  | .post => "post"

structure HttpRequest where
  method : HttpMethod
  request : Option TypeExpr
  response : TypeExpr
  security : Security
  deriving Repr

/-- The `location` is the path of the field; the type is expanded at its head. -/
structure ApiEntry where
  name : String
  location : String
  doc : Option String
  typeExpr : TypeExpr
  http : Option HttpRequest
  deriving Repr

structure Api where
  name : ScopedName
  doc : Option String
  entries : List ApiEntry
  deriving Repr

def httpModule : String := "common.http"

/-- Method, request and response of a type that describes a request. -/
def httpShape? (te : TypeExpr) : Option (HttpMethod × Option TypeExpr × TypeExpr) :=
  match te.head with
  | .reference name =>
    if name = ⟨httpModule, "HttpPost"⟩ then
      match te.parameters with
      | [request, response] => some (.post, some request, response)
      | _ => none
    else if name = ⟨httpModule, "HttpGet"⟩ then
      match te.parameters with
      | [response] => some (.get, none, response)
      | _ => none
    else none
  | _ => none

/-- A field without a default value is open to everyone. -/
def requestSecurity (default : Option Json.Value) (location : String) :
    Except GenerationError Security :=
  match default with
  | none => .ok .anyone
  | some value =>
    match decodeRequestDefault value with
    | .ok security => .ok security
    | .error fault => .error (.unsupported (.requestDefault location fault))

def classify (te : TypeExpr) (default : Option Json.Value) (location : String) :
    Except GenerationError (Option HttpRequest) :=
  match httpShape? te with
  | none => .ok none
  | some (method, request, response) => do
    let security ← requestSecurity default location
    return some ⟨method, request, response, security⟩

def loadEntry (e : Expander) (owner : ScopedName) (field : Field) :
    Except GenerationError ApiEntry := do
  let location := owner.text ++ "." ++ field.name
  let te ← e.expand field.typeExpr
  let http ← classify te field.default location
  let doc ← docComment? field.annotations location
  return ⟨field.name, location, doc, te, http⟩

def Schema.api (s : Schema) (name : ScopedName) : Except GenerationError Api :=
  match s.get? name with
  | none => .error (.unresolvedReference name)
  | some decl =>
    match decl.body with
    | .struct [] fields => do
      let entries ← fields.mapM (loadEntry ⟨s.get?, .nominal⟩ name)
      let doc ← docComment? decl.annotations name.text
      return ⟨name, doc, entries⟩
    | _ => .error (.unsupported (.apiShape name))

def Api.typeExpr (api : Api) : TypeExpr :=
  .reference api.name

end SchemaBindings
