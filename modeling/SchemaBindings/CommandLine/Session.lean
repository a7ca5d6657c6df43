import SchemaBindings.CommandLine.Arguments
import SchemaBindings.Project.Run

/-! One run of the program: what it prints and the code it ends with. -/

namespace SchemaBindings

inductive Printed where
  | out (text : String)
  | err (text : String)
  deriving DecidableEq, Repr

structure Session where
  printed : List Printed
  code : Nat
  deriving DecidableEq, Repr

namespace Session

def streamText (select : Printed → Option String) (s : Session) : String :=
  String.join ((s.printed.filterMap select).map (· ++ "\n"))

def output : Session → String :=
  streamText fun
    | .out text => some text
    | .err _ => none

def errors : Session → String :=
  streamText fun
    | .err text => some text
    | .out _ => none

end Session

def OutputLine.printed : OutputLine → Printed
  | .keyValue key value => .out (key ++ ": " ++ value)
  | .added text => .out ("  + " ++ text)
  | .unchanged text => .out ("  = " ++ text)
  | .warning text => .err ("warning: " ++ text)
  | .error text => .err ("error: " ++ text)
  | .divider label => .out ("── " ++ label ++ " ──")
  | .preformatted text => .out text
  | .newline => .out ""

def explanation (code message : String) (source help : Option String) : String :=
  let lines := [code, "", "  × " ++ message] ++
    (source.map ("  ╰─▶ " ++ ·)).toList ++ (help.map ("  help: " ++ ·)).toList
  String.join (lines.map (· ++ "\n"))

def Failure.explain : Failure → String
  | .generation error => explanation error.code error.message none error.help?
  | .writing fault => Failure.message (.writing fault)

def LoadError.explain (e : LoadError) : String :=
  explanation e.code e.message e.source? e.help?

namespace Session

def ofReport (r : GenerateReport) : Session :=
  let printed := (r.lines Failure.explain).map OutputLine.printed
  match r.failure? with
  | none => ⟨printed, 0⟩
  | some message => ⟨printed ++ [.err ("Error: " ++ message)], 1⟩

def ofLoadError (e : LoadError) : Session :=
  ⟨[.err e.explain], 1⟩

def versionText : String := "schemagen 0.3.0"

def optionLines : Option Command → List String
  | none => ["  -h, --help           Print help", "  -V, --version        Print version"]
  | some command =>
    ["  -c, --config CONFIG  Path to schemagen.toml (defaults to ./schemagen.toml)"] ++
      (if command = .generate then
        ["      --dry-run        Preview generated code without writing to disk"] else []) ++
      ["  -h, --help           Print help"]

def commandLines : List String :=
  ["Commands:",
   "  generate  Generate every output configured in schemagen.toml",
   "  check     Run every generator without writing and report diagnostics",
   "  help      Print this message or the help of a command", ""]

def usage : Option Command → String
  | none => "Usage: schemagen COMMAND"
  | some .generate => "Usage: schemagen generate [OPTIONS]"
  | some .check => "Usage: schemagen check [OPTIONS]"

def about : Option Command → String
  | none => "Generate database and API bindings from schema definitions"
  | some .generate => "Generate every output configured in schemagen.toml"
  | some .check => "Run every generator without writing and report diagnostics"

def help (command : Option Command) : Session :=
  ⟨([about command, "", usage command, ""] ++ (if command.isNone then commandLines else []) ++
    ["Options:"] ++ optionLines command).map .out, 0⟩

def refused : Session :=
  ⟨[.err "error: unexpected or missing argument", .err (usage none)], 2⟩

/-- Nothing is generated unless the configuration and the whole schema can be loaded. -/
def generate [Monad m] (read : ReadFile m) (write : WriteFile m) (mode : Mode) (path : String) :
    m Session := do
  match ← Config.load read path with
  | .error e => return ofLoadError e
  | .ok config =>
    match ← loadSchema read config.schemaFiles with
    | .error e => return ofLoadError e
    | .ok schema => return ofReport (← runAll (saveFile read write) config schema mode)

def run [Monad m] (read : ReadFile m) (write : WriteFile m) (args : List String) : m Session :=
  match Request.ofArguments? args with
  | none => return refused
  | some (.help command) => return help command
  | some .version => return ⟨[.out versionText], 0⟩
  | some (.run mode path) => generate read write mode path

end Session

end SchemaBindings
