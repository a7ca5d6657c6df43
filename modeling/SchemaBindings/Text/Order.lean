/-! Sorting by byte order of names, and maps that keep the order of first insertion. -/

namespace SchemaBindings

def nameLe (a b : String) : Bool :=
  !decide (b < a)

def insertBy (le : α → α → Bool) (x : α) : List α → List α
  | [] => [x]
  | y :: rest => if le x y then x :: y :: rest else y :: insertBy le x rest

/-- Stable. -/
def sortBy (le : α → α → Bool) : List α → List α
  | [] => []
  | x :: rest => insertBy le x (sortBy le rest)

def addName (name : String) : List String → List String
  | [] => [name]
  | other :: rest =>
    if name = other then other :: rest
    else if nameLe name other then name :: other :: rest
    else other :: addName name rest

/-- A present key keeps its place and takes the new value; an absent one goes to the end. -/
def putKey (key : String) (value : α) : List (String × α) → List (String × α)
  | [] => [(key, value)]
  | (k, v) :: rest => if k = key then (k, value) :: rest else (k, v) :: putKey key value rest

end SchemaBindings
