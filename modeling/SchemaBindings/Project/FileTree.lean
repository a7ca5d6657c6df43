import SchemaBindings.Project.FileAccess
import SchemaBindings.Project.Path
import SchemaBindings.Text.Search

/-! A tree of directories and files, and how paths are read and written in it. -/

namespace SchemaBindings

/-- What a file holds: text, or bytes that are none. -/
inductive FileContent where
  | text (content : String)
  | binary (bytes : List UInt8)
  deriving DecidableEq, Repr

def FileContent.ofBytes (bytes : List UInt8) : FileContent :=
  match String.fromUTF8? ⟨bytes.toArray⟩ with
  | some content => .text content
  | none => .binary bytes

inductive FileTree where
  | file (content : FileContent)
  | directory (entries : List (String × FileTree))
  deriving Repr

namespace FileTree

/-- Where relative paths start. No path spells an empty name. -/
def workingDirectory : List String := ["", ""]

def empty : FileTree := .directory [("", .directory [("", .directory [])])]

abbrev FileEntries := List (String × FileTree)

def child? (name : String) : FileTree → Option FileTree
  | .directory entries => entries.lookup name
  | .file _ => none

def at? : List String → FileTree → Option FileTree
  | [], t => some t
  | name :: names, t => (t.child? name).bind (at? names)

def setEntry (name : String) (t : FileTree) : FileEntries → FileEntries
  | [] => [(name, t)]
  | (other, u) :: rest =>
    if other = name then (name, t) :: rest else (other, u) :: setEntry name t rest

def put : List String → FileTree → FileTree → FileTree
  | [], node, _ => node
  | name :: names, node, .directory entries =>
    .directory (setEntry name (put names node ((entries.lookup name).getD (.directory []))) entries)
  | _ :: _, _, .file content => .file content

def drop : List String → FileTree → FileTree
  | [], t => t
  | [name], .directory entries => .directory (entries.filter (·.1 != name))
  | name :: names, .directory entries =>
    match entries.lookup name with
    | some t => .directory (setEntry name (drop names t) entries)
    | none => .directory entries
  | _, .file content => .file content

def isDirectory : FileTree → Bool
  | .directory _ => true
  | .file _ => false

def steps (path : String) : List String :=
  ((Text.parts '/' path.toList).map String.ofList).filter (· != "")

def endsInSlash (path : String) : Bool :=
  path.toList.getLast? = some '/'

def nameLimit : Nat := 255

def pathLimit : Nat := 4095

def step (root : FileTree) (visited : List String) (name : String) :
    Except FileFault (List String) :=
  match at? visited root with
  | none => .error .missing
  | some (.file _) => .error .notDirectory
  | some (.directory _) =>
    if name = "." then .ok visited
    else if name = ".." then .ok visited.dropLast
    else if nameLimit < name.utf8ByteSize then .error .nameTooLong
    else .ok (visited ++ [name])

/-- The last component need not be there; those before it must be directories. -/
def locate (root : FileTree) (path : String) : Except FileFault (List String) :=
  if path.toList.contains '\x00' then .error .badName
  else if path.isEmpty then .error .missing
  else if pathLimit < path.utf8ByteSize then .error .nameTooLong
  else (steps path).foldlM root.step (if Path.isAbsolute path then [] else workingDirectory)

/-- A slash at the end asks for a directory. -/
def node (root : FileTree) (path : String) : Except FileFault FileTree := do
  match at? (← root.locate path) root with
  | none => throw .missing
  | some t => if endsInSlash path && !t.isDirectory then throw .notDirectory else return t

def pathExists (root : FileTree) (path : String) : Bool :=
  (root.node path).isOk

def isDirectoryAt (root : FileTree) (path : String) : Bool :=
  match root.node path with
  | .ok t => t.isDirectory
  | .error _ => false

def read (root : FileTree) (path : String) : Except FileFault String := do
  match ← root.node path with
  | .file (.text content) => return content
  | .file (.binary _) => throw .notText
  | .directory _ => throw .isDirectory

def makeDirectory (root : FileTree) (path : String) : Except FileFault FileTree := do
  let names ← root.locate path
  match at? names root with
  | some _ => throw .exists
  | none => return put names (.directory []) root

def ensureDirectory (root : FileTree) (path : String) : FileTree × Except FileFault Unit :=
  match root.makeDirectory path with
  | .ok made => (made, .ok ())
  | .error fault => (root, if root.isDirectoryAt path then .ok () else .error fault)

/-- Makes a directory after those above it, at most `fuel` of them; what is made stays made. -/
def makeDirectories : (fuel : Nat) → FileTree → String → FileTree × Except FileFault Unit
  | 0, root, _ => (root, .error .missing)
  | fuel + 1, root, path =>
    if path.isEmpty then (root, .ok ())
    else
      match root.ensureDirectory path, Path.parent? path with
      | (_, .error .missing), some above =>
        match makeDirectories fuel root above with
        | (made, .ok ()) => made.ensureDirectory path
        | (made, .error fault) => (made, .error fault)
      | result, _ => result

def writeContent (root : FileTree) (path : String) (content : FileContent) :
    Except FileFault FileTree := do
  let names ← root.locate path
  if endsInSlash path then throw .isDirectory
  match at? names root with
  | some (.directory _) => throw .isDirectory
  | _ => return put names (.file content) root

def writeFile (root : FileTree) (path : String) (content : FileContent) :
    FileTree × Except FileFault Unit :=
  let (made, prepared) : FileTree × Except FileFault Unit :=
    match Path.parent? path with
    | none => (root, .ok ())
    | some above => makeDirectories (path.length + 1) root above
  match prepared with
  | .error fault => (made, .error fault)
  | .ok () =>
    match made.writeContent path content with
    | .ok written => (written, .ok ())
    | .error fault => (made, .error fault)

def load : ReadFile (StateM FileTree) := fun path => do
  return (← get).read path

def store : WriteFile (StateM FileTree) := fun path content => do
  let (written, result) := (← get).writeFile path (.text content)
  set written
  return result

def removeFile (root : FileTree) (path : String) : FileTree × Bool :=
  match root.node path, root.locate path with
  | .ok (.file _), .ok names => (drop names root, true)
  | _, _ => (root, false)

end FileTree

end SchemaBindings
