import SchemaBindings.Project.FileAccess
import SchemaBindings.Schema.Document
import SchemaBindings.Toml.Reading

/-! What can go wrong before anything is generated. -/

namespace SchemaBindings

inductive Invalid where
  | emptyValue (keyPath : String)
  | noItems (keyPath : String)
  | moduleTwice (name path : String)
  deriving DecidableEq, Repr

def Invalid.message : Invalid → String
  | .emptyValue keyPath => keyPath ++ " must not be empty"
  | .noItems keyPath => keyPath ++ " must list at least one entry"
  | .moduleTwice name path =>
    "module '" ++ name ++ "' is already defined in '" ++ path ++ "'"

/-- A configuration that is no TOML at all has no shape fault. -/
inductive LoadError where
  | unreadable (path : String) (fault : FileFault)
  | badConfig (source : SourceText) (fault : Option Toml.Fault)
  | badSchema (source : SourceText) (fault : Json.Fault)
  | invalid (source : SourceText) (cause : Invalid) (span : Option Span)
  deriving DecidableEq, Repr

namespace LoadError

def message : LoadError → String
  | .unreadable path _ => "failed to read '" ++ path ++ "'"
  | .badConfig _ _ => "failed to parse schemagen.toml"
  | .badSchema _ _ => "failed to parse schema file"
  | .invalid _ cause _ => cause.message

def code : LoadError → String
  | .unreadable _ _ => "schemagen::io"
  | .badConfig _ _ => "schemagen::parse_error"
  | .badSchema _ _ => "schemagen::schema_error"
  | .invalid _ _ _ => "schemagen::validation_error"

def help? : LoadError → Option String
  | .unreadable _ _ =>
    some "paths in schemagen.toml are relative to the directory containing it"
  | .badSchema _ _ => some "a schema file holds one module object or an array of modules"
  | _ => none

def span? : LoadError → Option Span
  | .unreadable _ _ => none
  | .badConfig _ fault => fault.map (·.span)
  | .badSchema source fault => fault.span? source.text source.text
  | .invalid _ _ span => span

def source? : LoadError → Option String
  | .unreadable _ fault => some fault.message
  | .badConfig _ fault => fault.map (·.cause.message)
  | .badSchema source fault => some (fault.message source.text)
  | .invalid _ _ _ => none

end LoadError

end SchemaBindings
