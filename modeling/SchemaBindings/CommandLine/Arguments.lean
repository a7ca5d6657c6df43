import SchemaBindings.Config.Basic
import SchemaBindings.Project.Report

/-! What the arguments of the program ask for. -/

namespace SchemaBindings

inductive Command where
  | generate
  | check
  deriving DecidableEq, Repr

inductive Request where
  | help (command : Option Command)
  | version
  | run (mode : Mode) (config : String)
  deriving DecidableEq, Repr

namespace Command

def ofName? (name : String) : Option Command :=
  if name = "generate" then some .generate
  else if name = "check" then some .check
  else none

structure Options where
  config : Option String
  dryRun : Bool
  deriving DecidableEq, Repr

def Options.none : Options := ⟨Option.none, false⟩

def Options.withConfig? (o : Options) (path : String) : Option Options :=
  if path.isEmpty || o.config.isSome then .none else some { o with config := some path }

def Options.withDryRun? (o : Options) : Option Options :=
  if o.dryRun then .none else some { o with dryRun := true }

def mode (o : Options) : Command → Mode
  | .generate => if o.dryRun then .dryRun else .write
  | .check => .check

def request (c : Command) (o : Options) : Request :=
  .run (c.mode o) (o.config.getD Config.fileName)

/-- A value that stands apart from its option may not look like an option; a lone dash does not. -/
def isSeparateValue (arg : String) : Bool :=
  arg = "-" || arg.toList.head? != some '-'

def attachedValue (value : List Char) : String :=
  String.ofList (match value with
    | '=' :: value => value
    | value => value)

/-- Asking for help ends the reading; so does the first argument that is refused. -/
def readOptions (c : Command) : Options → List String → Option Request
  | o, [] => some (c.request o)
  | o, arg :: args =>
    match arg.toList with
    | ['-', '-'] => if args.isEmpty then some (c.request o) else none
    | '-' :: '-' :: word =>
      if word = "help".toList then some (.help c)
      else if word = "dry-run".toList ∧ c = .generate then
        o.withDryRun?.bind fun o => readOptions c o args
      else if word = "config".toList then readValue c o args
      else if "config=".toList.isPrefixOf word then
        (o.withConfig? (String.ofList (word.drop "config=".length))).bind fun o =>
          readOptions c o args
      else none
    | ['-', 'c'] => readValue c o args
    | '-' :: 'c' :: value =>
      (o.withConfig? (attachedValue value)).bind fun o => readOptions c o args
    | '-' :: 'h' :: _ => some (.help c)
    | _ => none
where
  /-- The path of the configuration, then further options. -/
  readValue (c : Command) : Options → List String → Option Request
    | _, [] => none
    | o, path :: args =>
      if isSeparateValue path then (o.withConfig? path).bind fun o => readOptions c o args
      else none

end Command

namespace Request

def ofHelpArguments? : List String → Option Request
  | [] => some (.help none)
  | [name] => if name = "help" then some (.help none) else (Command.ofName? name).map (.help ∘ some)
  | _ => none

def ofArguments? : List String → Option Request
  | [] => none
  | arg :: args =>
    match arg.toList with
    | '-' :: 'V' :: _ => some .version
    | '-' :: 'h' :: _ => some (.help none)
    | _ =>
      if arg = "--version" then some .version
      else if arg = "--help" then some (.help none)
      else if arg = "help" then ofHelpArguments? args
      else (Command.ofName? arg).bind fun c => c.readOptions .none args

end Request

end SchemaBindings
