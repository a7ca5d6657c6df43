import SchemaBindings.Toml.Node

/-!
Building tables statement by statement. Nothing is defined twice: a table of its own header takes
no dotted keys from outside, an inline table takes nothing more at all.
-/

namespace SchemaBindings.Toml

abbrev Edit := Origin → Entries → Option Entries

def editNode (dotted : Bool) (edit : Edit) : Node → Option Node
  | .table span origin entries =>
    if origin = .inline || (dotted && origin = .header) then none
    else (edit origin entries).map (.table span origin)
  | .tables span items =>
    match items.reverse with
    | .table inner origin entries :: earlier =>
      (edit origin entries).map fun entries =>
        .tables span (earlier.reverse ++ [.table inner origin entries])
    | _ => none
  | _ => none

def editUnder (dotted : Bool) (edit : Edit) : List Key → Edit
  | [], origin, entries => edit origin entries
  | key :: keys, _, entries =>
    let made : Origin := if dotted then .dotted else .implied
    match entryNamed? key.name entries with
    | none =>
      (editUnder dotted edit keys made []).map fun inner =>
        entries ++ [(key, .table key.span made inner)]
    | some (known, node) =>
      (editNode dotted (editUnder dotted edit keys) node).map fun node =>
        replaceEntry known node entries

/-- Dotted keys end in a table that dotted keys made; a plain key stays in its own table. -/
def define (plain : Bool) (key : Key) (node : Node) : Edit := fun origin entries =>
  if (origin = .dotted) = plain || (entryNamed? key.name entries).isSome then none
  else some (entries ++ [(key, node)])

/-- Sets the value of a key path inside the table under `path`. -/
def setKey (path keys : List Key) (key : Key) (node : Node) (root : Entries) : Option Entries :=
  editUnder false (editUnder true (define keys.isEmpty key node) keys) path .header root

/-- A table that was only implied may be defined, once; it then stands under its own key. -/
def openTable (key : Key) (span : Span) : Edit := fun _ entries =>
  match entryNamed? key.name entries with
  | none => some (entries ++ [(key, .table span .header [])])
  | some (_, .table _ .implied inner) =>
    some (replaceEntry key (.table span .header inner) entries)
  | some _ => none

def appendTable (key : Key) (span : Span) : Edit := fun _ entries =>
  match entryNamed? key.name entries with
  | none => some (entries ++ [(key, .tables span [.table span .header []])])
  | some (known, .tables outer items) =>
    some (replaceEntry known (.tables outer (items ++ [.table span .header []])) entries)
  | some _ => none

end SchemaBindings.Toml
