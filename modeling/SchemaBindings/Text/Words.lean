import SchemaBindings.Text.Alphanumeric
import SchemaBindings.Text.CaseMap
import SchemaBindings.Text.LetterCase

/-! Words of an identifier and the three casings built from them. -/

namespace SchemaBindings.Text

/-- A capital letter after such a character begins a word. -/
def endsSmall (c : Char) : Bool :=
  isLowercase c || c.isDigit

def closed (word : List Char) : List (List Char) :=
  if word.isEmpty then [] else [word]

def wordsFrom (word : List Char) (small : Bool) : List Char → List (List Char)
  | [] => closed word
  | c :: rest =>
    if !isAlphanumeric c then closed word ++ wordsFrom [] false rest
    else if isUppercase c && small && !word.isEmpty then
      word :: wordsFrom (lowerOf c) (endsSmall c) rest
    else wordsFrom (word ++ lowerOf c) (endsSmall c) rest

/-- Lowercase words, parted at every character that is neither letter nor number. -/
def words (s : String) : List (List Char) :=
  wordsFrom [] false s.toList

def capitalize : List Char → List Char
  | [] => []
  | c :: rest => upperOf c ++ rest

def pascalCase (s : String) : String :=
  String.ofList ((words s).flatMap capitalize)

def camelCase (s : String) : String :=
  match words s with
  | [] => ""
  | first :: rest => String.ofList (first ++ rest.flatMap capitalize)

def snakeCase (s : String) : String :=
  String.ofList (['_'].intercalate (words s))

end SchemaBindings.Text
