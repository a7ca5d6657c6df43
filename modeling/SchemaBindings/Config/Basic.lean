import SchemaBindings.Project.Path
import SchemaBindings.Toml.Reading

/-! The settings of a project: its schema files and the artifacts to generate. -/

namespace SchemaBindings

structure TablesSection where
  output : String
  importPrefix : Option String
  deriving DecidableEq, Repr

structure ColumnsSection where
  output : String
  runtimeAlias : Option String
  genModule : Option String
  deriving DecidableEq, Repr

structure ServiceSection where
  output : String
  apiModule : String
  apiName : String
  importPrefix : Option String
  className : Option String
  deriving DecidableEq, Repr

structure EndpointsSection where
  output : String
  apiModule : String
  apiName : String
  importPrefix : Option String
  deriving DecidableEq, Repr

/-- Relative paths are taken from `root`. -/
structure Config where
  root : String
  files : List String
  tables : Option TablesSection
  columns : Option ColumnsSection
  services : List ServiceSection
  endpoints : List EndpointsSection
  deriving DecidableEq, Repr

namespace Config

def empty : Config := ⟨"", [], none, none, [], []⟩

def fileName : String := "schemagen.toml"

def resolve (c : Config) (path : String) : String :=
  Path.join c.root path

def schemaFiles (c : Config) : List String :=
  c.files.map c.resolve

def outputCount (c : Config) : Nat :=
  c.tables.toList.length + c.columns.toList.length + c.services.length + c.endpoints.length

end Config

open Toml

def readSchemaFiles : Reading (List String) :=
  record "SchemaConfig" [] [.must "files" (list path) (fun v _ => v)]

def TablesSection.read : Reading TablesSection :=
  record "TablesConfig" ⟨"", none⟩
    [.must "output" path (fun v t => { t with output := v }),
     .may "import_prefix" (optional text) (fun v t => { t with importPrefix := v })]

def ColumnsSection.read : Reading ColumnsSection :=
  record "ColumnsConfig" ⟨"", none, none⟩
    [.must "output" path (fun v c => { c with output := v }),
     .may "runtime_alias" (optional text) (fun v c => { c with runtimeAlias := v }),
     .may "gen_module" (optional text) (fun v c => { c with genModule := v })]

def ServiceSection.read : Reading ServiceSection :=
  record "ServiceConfig" ⟨"", "", "", none, none⟩
    [.must "output" path (fun v s => { s with output := v }),
     .must "api_module" text (fun v s => { s with apiModule := v }),
     .must "api_name" text (fun v s => { s with apiName := v }),
     .may "import_prefix" (optional text) (fun v s => { s with importPrefix := v }),
     .may "class_name" (optional text) (fun v s => { s with className := v })]

def EndpointsSection.read : Reading EndpointsSection :=
  record "EndpointsConfig" ⟨"", "", "", none⟩
    [.must "output" path (fun v e => { e with output := v }),
     .must "api_module" text (fun v e => { e with apiModule := v }),
     .must "api_name" text (fun v e => { e with apiName := v }),
     .may "import_prefix" (optional text) (fun v e => { e with importPrefix := v })]

def Config.read : Reading Config :=
  record "Config" .empty
    [.must "schema" readSchemaFiles (fun v c => { c with files := v }),
     .may "tables" (optional TablesSection.read) (fun v c => { c with tables := v }),
     .may "columns" (optional ColumnsSection.read) (fun v c => { c with columns := v }),
     .may "services" (list ServiceSection.read) (fun v c => { c with services := v }),
     .may "endpoints" (list EndpointsSection.read) (fun v c => { c with endpoints := v })]

end SchemaBindings
