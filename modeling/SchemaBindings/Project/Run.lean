import SchemaBindings.Artifact.Client
import SchemaBindings.Artifact.Columns
import SchemaBindings.Artifact.Endpoints
import SchemaBindings.Artifact.Tables
import SchemaBindings.Config.Load
import SchemaBindings.Project.Report

/-! Running the configured generators over a schema. -/

namespace SchemaBindings

inductive Generator where
  | tables (g : TablesGenerator)
  | columns (g : ColumnsGenerator)
  | client (g : ClientGenerator)
  | endpoints (g : EndpointsGenerator)
  deriving DecidableEq, Repr

namespace Generator

def name : Generator → String
  | .tables _ => "tables"
  | .columns _ => "columns"
  | .client _ => "service-client"
  | .endpoints _ => "endpoints"

def generate : Generator → Schema → Except GenerationError Artifact
  | .tables g, s => g.generate s
  | .columns g, s => g.generate s
  | .client g, s => g.generate s
  | .endpoints g, s => g.generate s

end Generator

namespace Config

/-! Settings that are left out keep the default of their generator. -/

def tablesGenerator (c : Config) (t : TablesSection) : TablesGenerator :=
  let g := TablesGenerator.new (c.resolve t.output)
  { g with importPrefix := t.importPrefix.getD g.importPrefix }

def columnsGenerator (c : Config) (t : ColumnsSection) : ColumnsGenerator :=
  let g := ColumnsGenerator.new (c.resolve t.output)
  { g with
    runtimeAlias := t.runtimeAlias.getD g.runtimeAlias
    genModule := t.genModule.getD g.genModule }

def clientGenerator (c : Config) (s : ServiceSection) : ClientGenerator :=
  let g := ClientGenerator.new (c.resolve s.output) ⟨s.apiModule, s.apiName⟩
  { g with
    importPrefix := s.importPrefix.getD g.importPrefix
    className := s.className.getD g.className }

def endpointsGenerator (c : Config) (e : EndpointsSection) : EndpointsGenerator :=
  let g := EndpointsGenerator.new (c.resolve e.output) ⟨e.apiModule, e.apiName⟩
  { g with importPrefix := e.importPrefix.getD g.importPrefix }

def generators (c : Config) : List Generator :=
  (c.tables.map fun t => .tables (c.tablesGenerator t)).toList ++
    (c.columns.map fun t => .columns (c.columnsGenerator t)).toList ++
    c.services.map (fun s => .client (c.clientGenerator s)) ++
    c.endpoints.map (fun e => .endpoints (c.endpointsGenerator e))

end Config

abbrev SaveFile (m : Type → Type) := (path content : String) → m (Except FileFault Saved)

inductive Failure where
  | generation (error : GenerationError)
  | writing (fault : FileFault)
  deriving DecidableEq, Repr

def Failure.message : Failure → String
  | .generation error => error.message
  | .writing fault => "failed to write: " ++ fault.message

abbrev GenerateReport := Report Failure

def savedOutcome : Except FileFault Saved → Outcome Failure
  | .ok .written => .written
  | .ok .unchanged => .unchanged
  | .error fault => .failed (.writing fault)

def artifactOutcome [Monad m] (save : SaveFile m) (mode : Mode) (a : Artifact) :
    m (Outcome Failure) :=
  match mode with
  | .check => return .checked
  | .dryRun => return .preview a.content
  | .write => return savedOutcome (← save a.path a.content)

def runGenerator [Monad m] (save : SaveFile m) (s : Schema) (mode : Mode) (g : Generator) :
    m (ArtifactReport Failure) := do
  match g.generate s with
  | .error e => return ⟨g.name, none, .failed (.generation e), []⟩
  | .ok a => return ⟨g.name, some a.path, ← artifactOutcome save mode a, a.diagnostics⟩

/-- A generator that fails does not stop the others. -/
def runAll [Monad m] (save : SaveFile m) (c : Config) (s : Schema) (mode : Mode) :
    m GenerateReport := do
  return ⟨mode, ← c.generators.mapM (runGenerator save s mode)⟩

end SchemaBindings
