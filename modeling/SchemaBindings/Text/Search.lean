/-! Finding, cutting and replacing in text. -/

namespace SchemaBindings.Text

def byteLength : List Char → Nat
  | [] => 0
  | c :: rest => c.utf8Size + byteLength rest

def around? (pattern : List Char) : List Char → Option (List Char × List Char)
  | [] => if pattern.isEmpty then some ([], []) else none
  | c :: rest =>
    if pattern.isPrefixOf (c :: rest) then some ([], (c :: rest).drop pattern.length)
    else (around? pattern rest).map fun (before, after) => (c :: before, after)

def parts (sep : Char) : List Char → List (List Char)
  | [] => [[]]
  | c :: rest =>
    if c = sep then [] :: parts sep rest
    else
      match parts sep rest with
      | [] => [[c]]
      | part :: more => (c :: part) :: more

def aroundLast? (sep : Char) : List Char → Option (List Char × List Char)
  | [] => none
  | c :: rest =>
    match aroundLast? sep rest with
    | some (before, after) => some (c :: before, after)
    | none => if c = sep then some ([], rest) else none

def lastPart (sep : Char) (cs : List Char) : List Char :=
  match aroundLast? sep cs with
  | some (_, after) => after
  | none => cs

/-- Passes over `skip` characters, then replaces every occurrence, none overlapping another. -/
def replaceFrom (pattern substitute : List Char) : (skip : Nat) → List Char → List Char
  | _, [] => []
  | skip + 1, _ :: rest => replaceFrom pattern substitute skip rest
  | 0, c :: rest =>
    if pattern.isPrefixOf (c :: rest) then
      substitute ++ replaceFrom pattern substitute (pattern.length - 1) rest
    else c :: replaceFrom pattern substitute 0 rest

def replaceAll (pattern substitute s : String) : String :=
  String.ofList (replaceFrom pattern.toList substitute.toList 0 s.toList)

end SchemaBindings.Text
