import SchemaBindings.Items.Use

/-! Rust files: header, groups of use statements and body items, all parted by blank lines. -/

namespace SchemaBindings.Items

structure File where
  header : List String
  useGroups : List (List Use)
  body : List (List Fragment)
  deriving Repr

namespace File

def empty : File := ⟨[], [], []⟩

def addHeader (f : File) (line : String) : File :=
  { f with header := f.header ++ [line] }

def addUse (f : File) (u : Use) : File :=
  { f with useGroups := addToLast u f.useGroups }

def addUses (f : File) (uses : List Use) : File :=
  uses.foldl addUse f

/-- Begins a group unless the last one is still empty. -/
def beginGroup (f : File) : File :=
  match lastGroup? f.useGroups with
  | some [] => f
  | _ => { f with useGroups := f.useGroups ++ [[]] }

def add (f : File) (item : List Fragment) : File :=
  { f with body := f.body ++ [item] }

def addAll (f : File) (items : List (List Fragment)) : File :=
  { f with body := f.body ++ items }

def emitSections (b : Builder) (later : Bool) : List (List Fragment) → Builder
  | [] => b
  | section_ :: sections =>
    emitSections ((if later then b.pushBlank else b).emit section_) true sections

def groupFragments (group : List Use) : List Fragment :=
  group.flatMap Use.fragments

def render (f : File) : String :=
  let groups := nonemptyGroups f.useGroups
  let b := f.header.foldl Builder.pushLine (.new .rust)
  let afterHeader := !f.header.isEmpty
  let b := emitSections b afterHeader (groups.map groupFragments)
  (emitSections b (afterHeader || !groups.isEmpty) f.body).text

def isEmpty (f : File) : Bool :=
  f.header.isEmpty && (nonemptyGroups f.useGroups).isEmpty && f.body.isEmpty

end File

end SchemaBindings.Items
