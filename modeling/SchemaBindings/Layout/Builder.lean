/-!
Pieces of generated text, independent of indentation, and text built from them line by line. A file
keeps runs of statements apart by blank lines.
-/

namespace SchemaBindings

inductive Fragment where
  | line (text : String)
  | blank
  | block (header : String) (body : List Fragment) (close : Option String)
  | indent (body : List Fragment)
  | jsDoc (text : String)
  | rustDoc (text : String)
  deriving Repr

def Fragment.braced (header : String) (body : List Fragment) : Fragment :=
  .block header body (some "\x7d")

inductive IndentUnit where
  | spaces (width : Nat)
  | tab
  deriving DecidableEq, Repr

namespace IndentUnit

def widest : Nat := 8
def rust : IndentUnit := .spaces 4
def typescript : IndentUnit := .spaces 2

/-- Widths above `widest` count as `widest`. -/
def text : IndentUnit → String
  | .spaces width => String.ofList (List.replicate (min width widest) ' ')
  | .tab => "\t"

end IndentUnit

structure Builder where
  unit : IndentUnit
  level : Nat
  text : String
  deriving DecidableEq, Repr

namespace Builder

def new (unit : IndentUnit) : Builder :=
  ⟨unit, 0, ""⟩

def repeated (s : String) : Nat → String
  | 0 => ""
  | n + 1 => s ++ repeated s n

def pushLine (b : Builder) (line : String) : Builder :=
  { b with text := b.text ++ repeated b.unit.text b.level ++ line ++ "\n" }

/-- Blank lines carry no indentation. -/
def pushBlank (b : Builder) : Builder :=
  { b with text := b.text ++ "\n" }

def indent (b : Builder) : Builder :=
  { b with level := b.level + 1 }

/-- Stays at the margin once there. -/
def dedent (b : Builder) : Builder :=
  { b with level := b.level - 1 }

def pushJsDoc (b : Builder) (doc : String) : Builder :=
  b.pushLine ("/** " ++ doc ++ " */")

def pushRustDoc (b : Builder) (doc : String) : Builder :=
  b.pushLine ("/// " ++ doc)

def pushClose (b : Builder) : Option String → Builder
  | some close => b.pushLine close
  | none => b

mutual

def apply (b : Builder) : Fragment → Builder
  | .line text => b.pushLine text
  | .blank => b.pushBlank
  | .block header body close => (emit (b.pushLine header).indent body).dedent.pushClose close
  | .indent body => (emit b.indent body).dedent
  | .jsDoc text => b.pushJsDoc text
  | .rustDoc text => b.pushRustDoc text

def emit (b : Builder) : List Fragment → Builder
  | [] => b
  | fragment :: rest => emit (apply b fragment) rest

end

end Builder

def renderFragments (unit : IndentUnit) (fragments : List Fragment) : String :=
  ((Builder.new unit).emit fragments).text

def addToLast (x : α) : List (List α) → List (List α)
  | [] => [[x]]
  | [group] => [group ++ [x]]
  | group :: groups => group :: addToLast x groups

def lastGroup? : List (List α) → Option (List α)
  | [] => none
  | [group] => some group
  | _ :: groups => lastGroup? groups

def nonemptyGroups (groups : List (List α)) : List (List α) :=
  groups.filter (!·.isEmpty)

end SchemaBindings
