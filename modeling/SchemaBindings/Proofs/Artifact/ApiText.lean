import SchemaBindings.Proofs.Artifact.RecognizedEntries
import SchemaBindings.Proofs.Layout.Comments

/-!
The text of clients and of endpoints, line by line. In a client each request has a slot above the
constructor, an initializer in it and a method below it; among endpoints it has a handler in the
interface and a registration in the function.
-/

namespace SchemaBindings

open Fragment (allLines)

/-! ### Import statements -/

def ImportedSymbol.clause (s : ImportedSymbol) : String :=
  s.name ++ s.rename.elim "" (" as " ++ ·)

def ModuleImport.line (directory : String) (m : ModuleImport) : Line :=
  .nested 0 ("import \x7b " ++ ", ".intercalate (m.symbols.map ImportedSymbol.clause) ++
    " \x7d from \"" ++ Script.modulePath directory m.moduleName ++ "\";")

theorem statement_symbolImport (directory : String) {m : ModuleImport} (wanted : m.symbols ≠ []) :
    Line.nested 0 (Script.symbolImport directory m).statement = m.line directory := by
  have clauses : (m.symbols.map fun s => Script.ImportedName.clause ⟨s.name, s.rename⟩) =
      m.symbols.map ImportedSymbol.clause := by
    refine List.map_congr_left fun s _ => ?_
    rcases s with ⟨name, _ | rename⟩
    · exact String.append_empty.symm
    · exact String.append_assoc ..
  have statement : (Script.symbolImport directory m).statement =
      "import " ++ ("\x7b " ++ ", ".intercalate (m.symbols.map ImportedSymbol.clause) ++ " \x7d") ++
        " from " ++ ("\"" ++ Script.modulePath directory m.moduleName ++ "\"") ++ ";" := by
    simp [Script.Import.statement, Script.symbolImport, Script.Import.clauses,
      Script.Import.ofPath, wanted, Function.comp_def, clauses]
  rw [statement, ModuleImport.line, Line.nested.injEq, ← String.toList_inj]
  simp

theorem Imports.Lists.symbols_ne_nil {i : Imports} {entries : List ModuleImport}
    (lists : i.Lists entries) (listed : ∀ entry ∈ i.ledger.entries, entry.2 ≠ []) :
    ∀ e ∈ entries, e.symbols ≠ [] := by
  intro e member none
  have there : (e.moduleName, e.symbols.map (·.name)) ∈ i.ledger.entries := by
    rw [← lists.ledger]
    exact List.mem_map_of_mem member
  exact listed _ there (by rw [none]; rfl)

theorem Api.importLines_settled {api : Api} {helpers : List String} {modules : List ModuleImport}
    (lists : (api.settledImports helpers).Lists modules) (directory : String) :
    (modules.map (Script.symbolImport directory)).map (fun i => Line.nested 0 i.statement) =
      modules.map (ModuleImport.line directory) := by
  have none : ∀ entry ∈ Ledger.empty.entries, entry.2 ≠ [] := nofun
  have filled := lists.symbols_ne_nil (Ledger.symbols_addAll_ne_nil none _)
  rw [List.map_map]
  exact List.map_congr_left fun m member => statement_symbolImport directory (filled m member)

/-! ### Lines of the requests -/

namespace Api

def requests (api : Api) : List ApiEntry :=
  api.entries.filter (·.http.isSome)

theorem requests_http {api : Api} {entry : ApiEntry} (member : entry ∈ api.requests) :
    entry ∈ api.entries ∧ ∃ http, entry.http = some http := by
  obtain ⟨listed, recognized⟩ := List.mem_filter.mp member
  exact ⟨listed, Option.isSome_iff_exists.mp recognized⟩

end Api

theorem Fragment.allLines_jsDoc (doc : Option String) :
    allLines (doc.map Fragment.jsDoc).toList = (doc.map (commentLine 0)).toList := by
  cases doc <;> rfl

theorem deeper_comment (doc : Option String) (depth : Nat) :
    (doc.map (commentLine depth)).toList.map Line.deeper =
      (doc.map (commentLine (depth + 1))).toList := by
  cases doc <;> rfl

theorem lines_of_emitsEach {p : ApiEntry → List Line → Prop} {emit : ApiEntry → Imports → Emitted}
    {i : Imports} {api : Api} {fragments : List Fragment} (nest : Line → Line)
    (emits : PhasedGenerator.EmitsEach emit i api.requests fragments)
    (step : ∀ entry http part, entry.http = some http → emit entry i = .ok part →
      p entry ((allLines part).map nest)) :
    ∃ parts, List.Forall₂ p api.requests parts ∧ (allLines fragments).map nest = parts.flatten := by
  obtain ⟨parts, each, rfl⟩ := emits
  refine ⟨parts.map fun part => (allLines part).map nest, ?_, ?_⟩
  · have both := (List.forall₂_and_left _ _).mpr
      ⟨fun entry (member : entry ∈ api.requests) => (Api.requests_http member).2, each⟩
    rw [List.forall₂_map_right_iff]
    exact both.imp fun entry part ⟨⟨http, found⟩, done⟩ => step entry http part found done
  · rw [Fragment.allLines_flatten, List.map_flatten, List.map_map]
    rfl

/-! ### Clients -/

namespace ClientGenerator

/-- The member of the class that holds the function of a request. -/
def IsSlot (entry : ApiEntry) (part : List Line) : Prop :=
  ∃ http request response, entry.http = some http ∧
    part = (entry.doc.map (commentLine 1)).toList ++
      [.nested 1 ("private " ++ slotName entry http ++ ": " ++
        http.request.elim ("GetFn<" ++ response ++ ">")
          (fun _ => "PostFn<" ++ request ++ ", " ++ response ++ ">") ++ ";"),
       .blank]

/-- The line of the constructor that sets the slot to the function of the field of the API. -/
def IsInitializer (entry : ApiEntry) (part : List Line) : Prop :=
  ∃ http, entry.http = some http ∧
    part = [.nested 2 ("this." ++ slotName entry http ++ " = this." ++ factoryName http ++
      "(api." ++ entry.name ++ ");")]

def IsMethod (entry : ApiEntry) (part : List Line) : Prop :=
  ∃ http request response, entry.http = some http ∧
    part = .blank :: (entry.doc.map (commentLine 1)).toList ++
      [.nested 1 ("async " ++ entry.name ++ "(" ++
        http.request.elim "" (fun _ => "req: " ++ request) ++
        "): Promise<" ++ response ++ "> \x7b"),
       .nested 2 ("return this." ++ slotName entry http ++ ".call(" ++
        http.request.elim "" (fun _ => "req") ++ ");"),
       .nested 1 "\x7d"]

def libraryLines : List Line :=
  [.nested 0 "import \x7b AuthTokens, HttpServiceBase \x7d from \"./http-service-base\";",
   .nested 0 "import \x7b HttpServiceError \x7d from \"./http-service-error\";",
   .nested 0 "import \x7b GetFn, PostFn \x7d from \"./types\";",
   .nested 0 "import \x7b HttpFetch \x7d from \"./http\";"]

def lines (g : ClientGenerator) (api : Api) (modules : List ModuleImport)
    (scopedName maker : String) (slots initializers methods : List Line) : List Line :=
  .nested 0 "/* eslint-disable @typescript-eslint/no-unused-vars */" ::
    modules.map (ModuleImport.line g.importPrefix) ++
    libraryLines ++
    [.blank,
     .nested 0 ("import \x7b DeclResolver \x7d from \"" ++
      Script.modulePath g.importPrefix "runtime.adl" ++ "\";"),
     .blank] ++
    (api.doc.map (commentLine 0)).toList ++
    [.nested 0 ("export class " ++ g.className ++ " extends HttpServiceBase \x7b")] ++
    slots ++
    [.nested 1 "constructor("] ++
    allLines [.indent [.indent constructorArguments]] ++
    [.nested 1 ") \x7b",
     .nested 2 "super(http, baseUrl, resolver, getAuthToken, handleError);",
     .nested 2 ("const api = this.annotatedApi(" ++ scopedName ++ ", " ++ maker ++
      "(\x7b\x7d));")] ++
    initializers ++
    [.nested 1 "\x7d"] ++
    methods ++
    [.nested 0 "\x7d;"]

/-- The text of a client is made of the slots, initializers and methods of the requests, in order,
and of imports from the modules. -/
def MadeOf (g : ClientGenerator) (api : Api) (modules : List ModuleImport) (a : Artifact) : Prop :=
  ∃ slots initializers methods scopedName maker,
    List.Forall₂ IsSlot api.requests slots ∧
    List.Forall₂ IsInitializer api.requests initializers ∧
    List.Forall₂ IsMethod api.requests methods ∧
    a.content = linesText .typescript 0 (g.lines api modules scopedName maker slots.flatten
      initializers.flatten methods.flatten)

variable {g : ClientGenerator} {api : Api} {entry : ApiEntry} {http : HttpRequest} {i : Imports}
  {part : List Fragment}

theorem isSlot_of_slot (found : entry.http = some http) (done : slot entry i = .ok part) :
    IsSlot entry ((allLines part).map Line.deeper) := by
  simp only [slot, found] at done
  obtain ⟨type, typed, made⟩ := bind_eq_ok_iff.mp done
  cases made
  obtain ⟨response, _, typed⟩ := bind_eq_ok_iff.mp typed
  rw [Fragment.allLines_append, List.map_append, Fragment.allLines_jsDoc, deeper_comment]
  cases carried : http.request with
  | none =>
      rw [carried] at typed
      cases typed
      exact ⟨http, "", response, found, by rw [carried]; rfl⟩
  | some request =>
      rw [carried] at typed
      obtain ⟨text, _, typed⟩ := bind_eq_ok_iff.mp typed
      cases typed
      exact ⟨http, text, response, found, by rw [carried]; rfl⟩

theorem isInitializer_of_initializer (found : entry.http = some http)
    (done : initializer entry i = .ok part) :
    IsInitializer entry ((allLines part).map (Line.deeper ∘ Line.deeper)) := by
  simp only [initializer, found] at done
  cases done
  exact ⟨http, found, rfl⟩

theorem lines_method (name : String) (doc : Option String) (params : List Script.Param)
    (response call : String) :
    (allLines (.blank :: Script.Function.fragments
      { Script.Function.ofMethod name with
        doc, async := true, params, returns := some ("Promise<" ++ response ++ ">"),
        body := [.line call] })).map Line.deeper =
      .blank :: (doc.map (commentLine 1)).toList ++
        [.nested 1 ("async " ++ name ++ "(" ++ Script.paramsText params ++ "): Promise<" ++
          response ++ "> \x7b"), .nested 2 call, .nested 1 "\x7d"] := by
  have signature : Script.Function.signature
      { Script.Function.ofMethod name with
        doc, async := true, params, returns := some ("Promise<" ++ response ++ ">"),
        body := [.line call] } =
      "async " ++ name ++ "(" ++ Script.paramsText params ++ "): Promise<" ++ response ++
        "> \x7b" := by
    rw [← String.toList_inj]
    simp [Script.Function.signature, Script.Function.ofMethod, Script.Function.new,
      Script.exportText]
  change Line.blank :: (allLines (Script.Function.fragments _)).map Line.deeper = _
  rw [Script.Function.fragments, Fragment.allLines_append, List.map_append,
    Fragment.allLines_jsDoc, deeper_comment, signature]
  rfl

theorem isMethod_of_method (found : entry.http = some http) (done : method entry i = .ok part) :
    IsMethod entry ((allLines part).map Line.deeper) := by
  simp only [method, found] at done
  obtain ⟨response, _, done⟩ := bind_eq_ok_iff.mp done
  cases carried : http.request with
  | none =>
      rw [carried] at done
      cases done
      refine ⟨http, "", response, found, (lines_method ..).trans ?_⟩
      simp [carried, Script.Function.ofMethod, Script.Function.new, Script.paramsText]
  | some request =>
      rw [carried] at done
      obtain ⟨text, _, made⟩ := bind_eq_ok_iff.mp done
      cases made
      refine ⟨http, text, response, found, (lines_method ..).trans ?_⟩
      simp [carried, Script.paramsText, Script.Param.text, String.append_assoc]

theorem lines_class {output : PhasedOutput} {annotatedApi : String} :
    allLines (g.classFragments api annotatedApi output) =
      (api.doc.map (commentLine 0)).toList ++
        [.nested 0 ("export class " ++ g.className ++ " extends HttpServiceBase \x7b")] ++
        (allLines output.decls).map Line.deeper ++ [.nested 1 "constructor("] ++
        allLines [.indent [.indent constructorArguments]] ++
        [.nested 1 ") \x7b",
         .nested 2 "super(http, baseUrl, resolver, getAuthToken, handleError);",
         .nested 2 annotatedApi] ++
        (allLines output.ctors).map (Line.deeper ∘ Line.deeper) ++ [.nested 1 "\x7d"] ++
        (allLines output.impls).map Line.deeper ++ [.nested 0 "\x7d;"] := by
  rw [classFragments, Fragment.allLines_append, Fragment.allLines_jsDoc]
  simp [allLines, Fragment.lines, Fragment.allLines_append, Fragment.braced, Line.deeper]

theorem statement_resolverImport (g : ClientGenerator) :
    g.resolverImport.statement = "import \x7b DeclResolver \x7d from \"" ++
      Script.modulePath g.importPrefix "runtime.adl" ++ "\";" := by
  rw [← String.toList_inj]
  simp [Script.Import.statement, resolverImport, Script.Import.ofNames, Script.Import.ofPath,
    Script.Import.clauses, Script.ImportedName.clause]

theorem lines_of_file {output : PhasedOutput} {file : Script.File} {modules : List ModuleImport}
    (filed : g.file api output i = .ok file) (block : i.modules = .ok modules)
    (imported : (modules.map (Script.symbolImport g.importPrefix)).map
      (fun i => Line.nested 0 i.statement) = modules.map (ModuleImport.line g.importPrefix)) :
    ∃ scopedName maker, file.lines = g.lines api modules scopedName maker
      ((allLines output.decls).map Line.deeper)
      ((allLines output.ctors).map (Line.deeper ∘ Line.deeper))
      ((allLines output.impls).map Line.deeper) := by
  obtain ⟨scopedName, _, filed⟩ := bind_eq_ok_iff.mp filed
  obtain ⟨maker, _, filed⟩ := bind_eq_ok_iff.mp filed
  obtain ⟨listed, same, filed⟩ := bind_eq_ok_iff.mp filed
  obtain rfl := Except.ok.inj (same.symm.trans block)
  cases filed
  refine ⟨scopedName, maker, ?_⟩
  let statements := listed.map (Script.symbolImport g.importPrefix) ++ runtimeImports
  let calls : List (FileCall Script.Import) :=
    [.header schemaBanner, .statements statements, .group, .statement g.resolverImport,
     .add (g.classFragments api ("const api = this.annotatedApi(" ++ scopedName ++ ", " ++ maker ++
      "(\x7b\x7d));") output)]
  have some : statements ≠ [] := by simp [statements, runtimeImports]
  have runs : runsFrom [] (calls.flatMap FileCall.marks) = [statements, [g.resolverImport]] := by
    change runsFrom [] (statements.map Option.some ++ [none, Option.some g.resolverImport]) = _
    rw [runsFrom_statements, List.nil_append]
    exact congrArg (· ++ _) (nonemptyGroups_single some)
  refine (Script.File.lines_ofCalls calls runs).trans ?_
  have imports : statements.map (fun i => Line.nested 0 i.statement) =
      listed.map (ModuleImport.line g.importPrefix) ++ libraryLines := by
    rw [List.map_append, imported]
    rfl
  simp only [List.map_cons, List.map_nil, imports, statement_resolverImport]
  simp [calls, List.intercalate, lines_class, lines, schemaBanner]

end ClientGenerator

/-! ### Endpoints -/

namespace EndpointsGenerator

def IsHandler (entry : ApiEntry) (part : List Line) : Prop :=
  ∃ request response, part =
    [.nested 1 (entry.name ++ "(ctx: AContext<" ++ response ++ ">, req: " ++ request ++
      "): Promise<void>;")]

def IsRegistration (entry : ApiEntry) (part : List Line) : Prop :=
  part =
    [.nested 1 ("if (h." ++ entry.name ++ ") \x7b"),
     .nested 2 ("addReqHandler(r, RESOLVER, api." ++ entry.name ++ ", h." ++ entry.name ++
      ".bind(h));"),
     .nested 1 "\x7d"]

def libraryLines (g : EndpointsGenerator) : List Line :=
  [.nested 0 "import \x7b AContext, addReqHandler \x7d from '../server/adl-requests';",
   .nested 0 ("import \x7b RESOLVER \x7d from '" ++ g.importPrefix ++ "';"),
   .nested 0 "import Router from 'koa-router';"]

def lines (g : EndpointsGenerator) (modules : List ModuleImport) (maker : String)
    (handlers registrations : List Line) : List Line :=
  .nested 0 "/* eslint-disable @typescript-eslint/no-unused-vars */" ::
    modules.map (ModuleImport.line g.importPrefix) ++
    g.libraryLines ++
    [.blank,
     .nested 0 "export interface Endpoints \x7b"] ++
    handlers ++
    [.nested 0 "\x7d",
     .blank,
     .nested 0 "export function registerEndpoints(h: Partial<Endpoints>, r: Router) \x7b",
     .nested 1 ("const api = " ++ maker ++ "(\x7b\x7d);"),
     .blank] ++
    registrations ++
    [.nested 0 "\x7d"]

/-- The text of endpoints is made of the handlers and registrations of the requests, in order, and
of imports from the modules. -/
def MadeOf (g : EndpointsGenerator) (api : Api) (modules : List ModuleImport) (a : Artifact) :
    Prop :=
  ∃ handlers registrations maker,
    List.Forall₂ IsHandler api.requests handlers ∧
    List.Forall₂ IsRegistration api.requests registrations ∧
    a.content = linesText .typescript 0
      (g.lines modules maker handlers.flatten registrations.flatten)

variable {g : EndpointsGenerator} {api : Api} {entry : ApiEntry} {http : HttpRequest} {i : Imports}
  {part : List Fragment}

theorem isHandler_of_handler (found : entry.http = some http)
    (done : handler entry i = .ok part) : IsHandler entry ((allLines part).map Line.deeper) := by
  simp only [handler, found] at done
  obtain ⟨request, _, done⟩ := bind_eq_ok_iff.mp done
  obtain ⟨response, _, made⟩ := bind_eq_ok_iff.mp done
  cases made
  have params : Script.paramsText [⟨"ctx", "AContext<" ++ response ++ ">"⟩, ⟨"req", request⟩] =
      "ctx: AContext<" ++ response ++ ">, req: " ++ request := by
    rw [← String.toList_inj]
    simp [Script.paramsText, Script.Param.text, String.intercalate_cons_cons]
  refine ⟨request, response, ?_⟩
  change [Line.nested 1 (Script.Member.text _)] = _
  rw [Script.Member.text, params, List.cons.injEq, Line.nested.injEq, ← String.toList_inj]
  simp

theorem isRegistration_of_registration (done : registration entry i = .ok part) :
    IsRegistration entry ((allLines part).map Line.deeper) := by
  cases done
  rfl

theorem statement_runtimeImports (g : EndpointsGenerator) :
    g.runtimeImports.map (fun i => Line.nested 0 i.statement) = g.libraryLines := by
  have resolver : Script.Import.statement
      { Script.Import.ofNames g.importPrefix ["RESOLVER"] with singleQuoted := true } =
        "import \x7b RESOLVER \x7d from '" ++ g.importPrefix ++ "';" := by
    rw [← String.toList_inj]
    simp [Script.Import.statement, Script.Import.ofNames, Script.Import.ofPath,
      Script.Import.clauses, Script.ImportedName.clause]
  rw [libraryLines, ← resolver]
  rfl

theorem lines_of_file {output : PhasedOutput} {file : Script.File} {modules : List ModuleImport}
    (filed : g.file api output i = .ok file) (block : i.modules = .ok modules)
    (imported : (modules.map (Script.symbolImport g.importPrefix)).map
      (fun i => Line.nested 0 i.statement) = modules.map (ModuleImport.line g.importPrefix)) :
    ∃ maker, file.lines = g.lines modules maker ((allLines output.decls).map Line.deeper)
      ((allLines output.impls).map Line.deeper) := by
  obtain ⟨maker, _, filed⟩ := bind_eq_ok_iff.mp filed
  obtain ⟨listed, same, filed⟩ := bind_eq_ok_iff.mp filed
  obtain rfl := Except.ok.inj (same.symm.trans block)
  cases filed
  refine ⟨maker, ?_⟩
  let statements := listed.map (Script.symbolImport g.importPrefix) ++ g.runtimeImports
  let calls : List (FileCall Script.Import) :=
    [.header schemaBanner, .statements statements,
     .add [.braced "export interface Endpoints \x7b" output.decls],
     .add (registerFunction maker output.impls).fragments]
  have some : statements ≠ [] := by simp [statements, runtimeImports]
  have runs : runsFrom [] (calls.flatMap FileCall.marks) = [statements] := by
    change runsFrom [] (statements.map Option.some ++ []) = _
    rw [runsFrom_statements, List.nil_append]
    exact nonemptyGroups_single some
  refine (Script.File.lines_ofCalls calls runs).trans ?_
  have imports : statements.map (fun i => Line.nested 0 i.statement) =
      listed.map (ModuleImport.line g.importPrefix) ++ g.libraryLines := by
    rw [List.map_append, imported, g.statement_runtimeImports]
  have function : allLines (registerFunction maker output.impls).fragments =
      [.nested 0 "export function registerEndpoints(h: Partial<Endpoints>, r: Router) \x7b",
       .nested 1 ("const api = " ++ maker ++ "(\x7b\x7d);"), .blank] ++
      (allLines output.impls).map Line.deeper ++ [.nested 0 "\x7d"] :=
    Fragment.allLines_braced _ _
  simp only [List.map_cons, List.map_nil, imports]
  simp [calls, List.intercalate, Fragment.allLines_braced, function, lines, schemaBanner]

end EndpointsGenerator

end SchemaBindings
