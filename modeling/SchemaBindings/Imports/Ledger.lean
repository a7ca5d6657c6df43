import SchemaBindings.Text.Order

/-! Symbols wanted from each module: modules in the order of first mention, symbols sorted. -/

namespace SchemaBindings

structure Ledger where
  entries : List (String × List String)
  deriving DecidableEq, Repr

def addEntry (moduleName symbol : String) :
    List (String × List String) → List (String × List String)
  | [] => [(moduleName, [symbol])]
  | (other, symbols) :: rest =>
    if other = moduleName then (other, addName symbol symbols) :: rest
    else (other, symbols) :: addEntry moduleName symbol rest

namespace Ledger

def empty : Ledger := ⟨[]⟩

def add (l : Ledger) (moduleName symbol : String) : Ledger :=
  ⟨addEntry moduleName symbol l.entries⟩

def symbols (l : Ledger) (moduleName : String) : List String :=
  (l.entries.lookup moduleName).getD []

def contains (l : Ledger) (moduleName symbol : String) : Bool :=
  (l.symbols moduleName).contains symbol

def size (l : Ledger) : Nat :=
  l.entries.length

end Ledger

end SchemaBindings
