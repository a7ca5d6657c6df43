import SchemaBindings.CommandLine.Session

/-! The program: files of the machine, the two output streams, the exit code. -/

namespace SchemaBindings

def faultOfCode (code : UInt32) (details : String) : FileFault :=
  if code = 2 then .missing
  else if code = 17 then .exists
  else if code = 20 then .notDirectory
  else if code = 21 then .isDirectory
  else if code = 36 then .nameTooLong
  else .other (details ++ " (os error " ++ toString code ++ ")")

def faultOf : IO.Error → FileFault
  | .noFileOrDirectory _ code details => faultOfCode code details
  | .alreadyExists _ code details => faultOfCode code details
  | .inappropriateType _ code details => faultOfCode code details
  | .permissionDenied _ code details => faultOfCode code details
  | e => .other e.toString

def readDisk : ReadFile IO := fun path => do
  try
    let bytes ← IO.FS.readBinFile path
    return match String.fromUTF8? bytes with
      | some content => .ok content
      | none => .error .notText
  catch e => return .error (faultOf e)

def writeDisk : WriteFile IO := fun path content => do
  try
    if let some above := Path.parent? path then
      if above ≠ "" then IO.FS.createDirAll above
    IO.FS.writeFile path content
    return .ok ()
  catch e => return .error (faultOf e)

def Printed.print : Printed → IO Unit
  | .out text => IO.println text
  | .err text => IO.eprintln text

end SchemaBindings

open SchemaBindings in
/-- Ends with 0 when all went well, 1 when something failed, 2 when the arguments are refused. -/
def main (args : List String) : IO UInt32 := do
  let session ← Session.run readDisk writeDisk args
  session.printed.forM Printed.print
  return session.code.toUInt32
