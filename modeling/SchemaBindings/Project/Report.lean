import SchemaBindings.Emit.Diagnostic

/-! What became of each artifact, and the lines that tell it. -/

namespace SchemaBindings

inductive Mode where
  | write
  | dryRun
  | check
  deriving DecidableEq, Repr

inductive Outcome (φ : Type) where
  | written
  | unchanged
  | preview (content : String)
  | checked
  | failed (failure : φ)
  deriving DecidableEq, Repr

/-- The path is unknown when the generator itself failed. -/
structure ArtifactReport (φ : Type) where
  generator : String
  path : Option String
  outcome : Outcome φ
  diagnostics : List Diagnostic
  deriving DecidableEq, Repr

structure Report (φ : Type) where
  mode : Mode
  artifacts : List (ArtifactReport φ)
  deriving DecidableEq, Repr

inductive OutputLine where
  | keyValue (key value : String)
  | added (text : String)
  | unchanged (text : String)
  | warning (text : String)
  | error (text : String)
  | divider (label : String)
  | preformatted (text : String)
  | newline
  deriving DecidableEq, Repr

namespace ArtifactReport

def label (a : ArtifactReport φ) : String :=
  a.path.getD a.generator

def isFailed (a : ArtifactReport φ) : Bool :=
  match a.outcome with
  | .failed _ => true
  | _ => false

def outcomeLines (explain : φ → String) (a : ArtifactReport φ) : List OutputLine :=
  match a.outcome with
  | .preview content => [.divider a.label, .preformatted content]
  | .written => [.added a.label]
  | .unchanged => [.unchanged a.label]
  | .checked => [.keyValue a.generator a.label]
  | .failed failure => [.error (a.generator ++ " failed"), .preformatted (explain failure)]

def diagnosticLine (a : ArtifactReport φ) (d : Diagnostic) : OutputLine :=
  let text := a.label ++ ": " ++ d.message
  if d.isWarning then .warning text else .error text

def lines (explain : φ → String) (a : ArtifactReport φ) : List OutputLine :=
  a.outcomeLines explain ++ a.diagnostics.map a.diagnosticLine

end ArtifactReport

namespace Report

def failedCount (r : Report φ) : Nat :=
  r.artifacts.countP (·.isFailed)

def warnings (r : Report φ) : Nat :=
  warningCount (r.artifacts.flatMap (·.diagnostics))

def failure? (r : Report φ) : Option String :=
  if r.failedCount = 0 then none
  else
    some (toString r.failedCount ++ " of " ++ toString r.artifacts.length ++ " artifacts failed")

def verb : Mode → String
  | .write => "generated"
  | .dryRun => "would be generated"
  | .check => "checked"

def summary (r : Report φ) : String :=
  toString (r.artifacts.length - r.failedCount) ++ " of " ++ toString r.artifacts.length ++
    " artifacts " ++ verb r.mode ++ ", " ++ toString r.warnings ++ " warnings"

def lines (explain : φ → String) (r : Report φ) : List OutputLine :=
  r.artifacts.flatMap (·.lines explain) ++
    [match r.mode with
      | .dryRun => .divider "Summary"
      | _ => .newline,
     .preformatted r.summary]

end Report

end SchemaBindings
