import SchemaBindings.Imports.Ledger
import SchemaBindings.Schema.Name
import SchemaBindings.Target.Naming

/-!
Names bound by an import block. Each module, and where symbols are imported by name each symbol,
takes the first free of its own name and that name with 2, 3, … after it.
-/

namespace SchemaBindings

inductive ImportStyle where
  | qualified
  | named
  deriving DecidableEq, Repr

def freeSuffixed (make : String → String) (taken : List String) (base : String) (suffix : Nat) :
    (count : Nat) → String
  | 0 => make (base ++ toString suffix)
  | count + 1 =>
    let candidate := make (base ++ toString suffix)
    if taken.contains candidate then freeSuffixed make taken base (suffix + 1) count else candidate

/-- Where `make` changes reserved names only, one of more candidates than there are taken and
reserved names is free. -/
def freeName (make : String → String) (reserved taken : List String) (base : String) : String :=
  if taken.contains (make base) then
    freeSuffixed make taken base 2 (taken.length + reserved.length)
  else make base

structure Assignment where
  aliases : List (String × String)
  locals : List ((String × String) × String)
  deriving DecidableEq, Repr

namespace Assignment

def empty : Assignment := ⟨[], []⟩

def addAlias (naming : Naming) (a : Assignment) (moduleName : String) : Assignment :=
  let moduleAlias :=
    freeName naming.safeName naming.reserved (a.aliases.map (·.2)) (moduleTail moduleName)
  { a with aliases := a.aliases ++ [(moduleName, moduleAlias)] }

def addLocal (moduleName : String) (a : Assignment) (symbol : String) : Assignment :=
  let localName := freeName id [] (a.locals.map (·.2)) symbol
  { a with locals := a.locals ++ [((moduleName, symbol), localName)] }

def addModule (naming : Naming) (style : ImportStyle) (a : Assignment)
    (entry : String × List String) : Assignment :=
  let a := a.addAlias naming entry.1
  match style with
  | .qualified => a
  | .named => entry.2.foldl (addLocal entry.1) a

def ofLedger (naming : Naming) (style : ImportStyle) (l : Ledger) : Assignment :=
  l.entries.foldl (addModule naming style) empty

def alias? (a : Assignment) (moduleName : String) : Option String :=
  a.aliases.lookup moduleName

def local? (a : Assignment) (moduleName symbol : String) : Option String :=
  a.locals.lookup (moduleName, symbol)

end Assignment

end SchemaBindings
