import SchemaBindings.Config.Validate

/-! Loading a configuration and its schema through any way of reading files. -/

namespace SchemaBindings

/-- Relative paths are taken from the directory of the file. -/
def Config.ofFile (path content : String) : Except LoadError Config :=
  (Config.ofText ⟨path, content.toList⟩).map fun c => { c with root := Path.directory path }

def Config.load [Monad m] (read : ReadFile m) (path : String) : m (Except LoadError Config) := do
  match ← read path with
  | .error fault => return .error (.unreadable path fault)
  | .ok content => return Config.ofFile path content

structure LoadedModules where
  schema : Schema
  origins : List (String × String)

namespace LoadedModules

def empty : LoadedModules := ⟨.empty, []⟩

def add (source : SourceText) (l : LoadedModules) (m : Module) : Except LoadError LoadedModules :=
  match l.origins.lookup m.name with
  | some first => .error (.invalid source (.moduleTwice m.name first) none)
  | none => .ok ⟨l.schema.insert m, (m.name, source.name) :: l.origins⟩

def addDocument (l : LoadedModules) (source : SourceText) : Except LoadError LoadedModules :=
  match readModules source.text with
  | .error fault => .error (.badSchema source fault)
  | .ok modules => modules.foldlM (add source) l

end LoadedModules

def loadModules [Monad m] (read : ReadFile m) :
    List String → LoadedModules → m (Except LoadError LoadedModules)
  | [], l => return .ok l
  | path :: paths, l => do
    match ← read path with
    | .error fault => return .error (.unreadable path fault)
    | .ok content =>
      match l.addDocument ⟨path, content.toList⟩ with
      | .error e => return .error e
      | .ok l => loadModules read paths l

/-- Files are read in order, up to the first that fails. -/
def loadSchema [Monad m] (read : ReadFile m) (paths : List String) :
    m (Except LoadError Schema) := do
  return (← loadModules read paths .empty).map (·.schema)

end SchemaBindings
