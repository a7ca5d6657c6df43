/-! Reading and writing files, by whatever means, and what can go wrong. -/

namespace SchemaBindings

inductive FileFault where
  | missing
  | exists
  | notDirectory
  | isDirectory
  | nameTooLong
  | notText
  | badName
  | other (message : String)
  deriving DecidableEq, Repr

def FileFault.message : FileFault → String
  | .missing => "No such file or directory (os error 2)"
  | .exists => "File exists (os error 17)"
  | .notDirectory => "Not a directory (os error 20)"
  | .isDirectory => "Is a directory (os error 21)"
  | .nameTooLong => "File name too long (os error 36)"
  | .notText => "stream did not contain valid UTF-8"
  | .badName => "file name contained an unexpected NUL byte"
  | .other message => message

abbrev ReadFile (m : Type → Type) := (path : String) → m (Except FileFault String)

abbrev WriteFile (m : Type → Type) := (path content : String) → m (Except FileFault Unit)

inductive Saved where
  | written
  | unchanged
  deriving DecidableEq, Repr

/-- A file that already holds the text is left alone. -/
def saveFile [Monad m] (read : ReadFile m) (write : WriteFile m) (path content : String) :
    m (Except FileFault Saved) := do
  match ← read path with
  | .ok found =>
    if found = content then return .ok .unchanged
    else return (← write path content).map fun _ => .written
  | .error _ => return (← write path content).map fun _ => .written

end SchemaBindings
