import SchemaBindings.Schema.Reader
import SchemaBindings.Source.Position
import SchemaBindings.Text.Blank

/-! Schema documents: one module, or a list of modules. -/

namespace SchemaBindings

def readModules (text : List Char) : Except Json.Fault (List Module) :=
  match Text.trimStart text with
  | '[' :: _ => Json.readDocument (Json.list Module.read) text
  | _ => (Json.readDocument Module.read text).map ([·])

namespace Json.Fault

def position? (fault : Json.Fault) (text : List Char) : Option Position :=
  fault.offset.map (Position.ofOffset text)

def message (fault : Json.Fault) (text : List Char) : String :=
  match fault.position? text with
  | some p =>
    fault.cause.message ++ " at line " ++ toString p.line ++ " column " ++ toString p.column
  | none => fault.cause.message

/-- The empty span in `source` that the place in `text` stands for. -/
def span? (fault : Json.Fault) (text source : List Char) : Option Span :=
  (fault.position? text).bind fun p =>
    (offsetOf? source (.ofNat p.line) (.ofNat p.column)).map fun offset => ⟨offset.toNat, 0⟩

end Json.Fault

end SchemaBindings
