/-! File paths as they are written: joining, parents and components. -/

namespace SchemaBindings.Path

def isAbsolute (p : String) : Bool :=
  p.toList.head? = some '/'

/-- An absolute path stands alone; joining the empty path leaves a slash at the end. -/
def join (root p : String) : String :=
  if isAbsolute p || root.isEmpty then p
  else if root.toList.getLast? = some '/' then root ++ p
  else root ++ "/" ++ p

def trimReversed : List Char → List Char
  | '/' :: c :: rest => trimReversed (c :: rest)
  | '.' :: '/' :: rest => trimReversed ('/' :: rest)
  | cs => cs

def parent? (p : String) : Option String :=
  match trimReversed p.toList.reverse with
  | [] => none
  | ['/'] => none
  | cs => some (String.ofList (trimReversed (cs.dropWhile (· != '/'))).reverse)

def directory (p : String) : String :=
  (parent? p).getD ""

end SchemaBindings.Path
