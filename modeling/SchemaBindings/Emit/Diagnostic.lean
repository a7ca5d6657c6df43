/-! Findings that do not stop generation, and the generated files that carry them. -/

namespace SchemaBindings

inductive Severity where
  | warning
  | note
  deriving DecidableEq, Repr

def Severity.text : Severity → String
  | .warning => "warning"
  | .note => "note"

structure Diagnostic where
  severity : Severity
  phase : String
  message : String
  location : Option String
  deriving DecidableEq, Repr

namespace Diagnostic

def isWarning (d : Diagnostic) : Bool :=
  d.severity == .warning

def text (d : Diagnostic) : String :=
  d.severity.text ++ ": " ++ d.message ++
    (match d.location with
      | some location => " (at " ++ location ++ ")"
      | none => "")

end Diagnostic

def warningCount (diagnostics : List Diagnostic) : Nat :=
  diagnostics.countP Diagnostic.isWarning

structure Artifact where
  path : String
  content : String
  diagnostics : List Diagnostic
  deriving DecidableEq, Repr

end SchemaBindings
