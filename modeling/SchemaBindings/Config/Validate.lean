import SchemaBindings.Config.Basic
import SchemaBindings.Config.Error

/-! Rules that a well-shaped configuration must still keep, and where in the text one is broken. -/

namespace SchemaBindings

open Text (byteLength)

def assignmentSpan? (text : List Char) (key value : String) : Option Span :=
  ["\"", "'"].findSome? fun mark =>
    let pattern := (key ++ " = " ++ mark ++ value ++ mark).toList
    (Text.around? pattern text).map fun (before, _) => ⟨byteLength before, byteLength pattern⟩

def lineAssigns (key line : List Char) : Bool :=
  let start := Text.trimStart line
  key.isPrefixOf start && (Text.trimStart (start.drop key.length)).head? = some '='

/-- The key in the first line that assigns it, lines counted from `offset` on. -/
def lineSpan? (key : List Char) (offset : Nat) : List (List Char) → Option Span
  | [] => none
  | line :: rest =>
    if lineAssigns key line then
      let indent := byteLength line - byteLength (Text.trimStart line)
      some ⟨offset + indent, byteLength key⟩
    else lineSpan? key (offset + byteLength line) rest

def keySpan? (text : List Char) (key value : String) : Option Span :=
  (assignmentSpan? text key value).or (lineSpan? key.toList 0 (Text.linePieces text))

def isBlankText (value : String) : Bool :=
  value.toList.all Text.isBlank

def requireText (source : SourceText) (section_ key value : String) : Except LoadError Unit :=
  if isBlankText value then
    .error (.invalid source (.emptyValue (section_ ++ "." ++ key)) (keySpan? source.text key value))
  else .ok ()

def requireApi (source : SourceText) (section_ : String) :
    (index : Nat) → List (String × String) → Except LoadError Unit
  | _, [] => .ok ()
  | index, (apiModule, apiName) :: rest => do
    let place := section_ ++ "." ++ toString index
    requireText source place "api_module" apiModule
    requireText source place "api_name" apiName
    requireApi source section_ (index + 1) rest

/-- Schema files first, then services, then endpoints. -/
def Config.validate (c : Config) (source : SourceText) : Except LoadError Unit := do
  if c.files.isEmpty then
    throw (.invalid source (.noItems "schema.files") (keySpan? source.text "files" ""))
  requireApi source "services" 0 (c.services.map fun s => (s.apiModule, s.apiName))
  requireApi source "endpoints" 0 (c.endpoints.map fun e => (e.apiModule, e.apiName))

def Config.ofText (source : SourceText) : Except LoadError Config :=
  match Toml.readDocument Config.read source.text with
  | .error fault => .error (.badConfig source fault)
  | .ok c => do
    c.validate source
    return c

end SchemaBindings
