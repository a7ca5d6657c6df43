import SchemaBindings.Proofs.Artifact.ImportBlocks
import SchemaBindings.Proofs.Artifact.RecognizedEntries
import SchemaBindings.Proofs.Imports.NamedInTurn

/-!
The names that the import block of a file binds. Those of schema modules and symbols are given in
turn and differ from each other; the names of the runtime are not among those taken, so a file binds
one of them twice as soon as the schema has it too.
-/

namespace SchemaBindings

namespace Script

def ImportedName.bound (n : ImportedName) : String :=
  n.localName.getD n.name

def Import.bound (i : Import) : List String :=
  i.default.toList ++ i.whole.toList ++ i.named.map ImportedName.bound

def File.bound (f : File) : List String :=
  f.imports.flatMap Import.bound

end Script

namespace Items

/-- A path without symbols binds its last segment. -/
def Use.bound (u : Use) : List String :=
  match u.localName, u.symbols with
  | some name, _ => [name]
  | none, [] => [String.ofList (Text.lastPart ':' u.path.toList)]
  | none, symbols => symbols

def File.bound (f : File) : List String :=
  f.uses.flatMap Use.bound

end Items

namespace InTurn

variable {make : String → String} {earlier bases names : List String}

theorem mem_iff (turns : InTurn make earlier bases names) {name : String}
    (plain : ∀ base n, make (numbered base n) ≠ name) (free : name ∉ earlier) :
    name ∈ names ↔ ∃ base ∈ bases, make base = name := by
  induction turns with
  | nil earlier => simp
  | @cons earlier bases names base given chosen rest ih =>
      simp only [List.mem_cons, exists_eq_or_imp]
      by_cases own : make base = name
      · refine iff_of_true (.inl ?_) (.inl own)
        cases chosen.first with
        | own vacant => exact own.symm
        | suffixed held least vacant before => exact absurd (own ▸ held) free
      · have other : name ≠ given := by
          rintro rfl
          cases chosen.first with
          | own vacant => exact own rfl
          | suffixed held least vacant before => exact plain _ _ rfl
        have later : name ∉ earlier ++ [given] := by simp [free, other]
        rw [or_iff_right other, or_iff_right own, ih later]

/-- Names given in turn stay apart from others exactly when these are the names of no base. -/
theorem nodup_append_iff (turns : InTurn make [] bases names) {others : List String}
    (distinct : others.Nodup) (plain : ∀ name ∈ others, ∀ base n, make (numbered base n) ≠ name) :
    (names ++ others).Nodup ↔ ∀ base ∈ bases, make base ∉ others := by
  have apart : (names ++ others).Nodup ↔ ∀ name ∈ others, name ∉ names := by
    rw [List.nodup_append]
    constructor
    · rintro ⟨_, _, differ⟩ name member again
      exact differ name again name member rfl
    · intro absent
      refine ⟨turns.nodup, distinct, ?_⟩
      rintro name again _ member rfl
      exact absent name member again
  rw [apart]
  constructor
  · intro absent base member taken
    exact absent _ taken ((turns.mem_iff (plain _ taken) List.not_mem_nil).mpr ⟨base, member, rfl⟩)
  · intro absent name member given
    obtain ⟨base, among, rfl⟩ :=
      (turns.mem_iff (plain name member) List.not_mem_nil).mp given
    exact absent base among member

end InTurn

namespace Imports

variable {i : Imports} {entries : List ModuleImport}

/-- Under the named style the statements for the modules bind the local names of their symbols. -/
theorem Lists.bound_symbolImports (ready : i.Ready) (lists : i.Lists entries) (directory : String) :
    (entries.map (Script.symbolImport directory)).flatMap Script.Import.bound =
      (entries.flatMap ModuleImport.pairs).map fun pair => i.localName pair.1 pair.2 := by
  rw [List.flatMap_map, List.map_flatMap]
  refine List.flatMap_congr fun e member => ?_
  simp only [Script.symbolImport, Script.Import.bound, Script.Import.ofPath, Option.toList_none,
    List.nil_append, ModuleImport.pairs, List.map_map]
  refine List.map_congr_left fun symbol among => ?_
  have bound : ImportedSymbol.boundName symbol = i.localName e.moduleName symbol.name := by
    rw [boundName_eq (lists.renames e member symbol among), localName, ready.settled]
    rfl
  exact bound

theorem Lists.nodup_symbolImports_iff (ready : i.Ready) (lists : i.Lists entries)
    (named : i.style = .named) (directory : String) {own : List String} (distinct : own.Nodup)
    (plain : ∀ name ∈ own, name.toList.any Char.isDigit = false) :
    ((entries.map (Script.symbolImport directory)).flatMap Script.Import.bound ++ own).Nodup ↔
      ∀ e ∈ entries, ∀ symbol ∈ e.symbols, symbol.name ∉ own := by
  rw [lists.bound_symbolImports ready, (lists.locals_inTurn ready named).nodup_append_iff distinct
    fun name member => numbered_ne (plain name member)]
  simp only [List.mem_map, List.mem_flatMap, ModuleImport.pairs, id]
  constructor
  · intro apart e member symbol among
    exact apart _ ⟨_, ⟨e, member, symbol, among, rfl⟩, rfl⟩
  · rintro apart _ ⟨_, ⟨e, member, symbol, among, rfl⟩, rfl⟩
    exact apart e member symbol among

theorem bound_wholeImports (directory : String) (entries : List ModuleImport) :
    (entries.map (Script.wholeImport directory)).flatMap Script.Import.bound =
      entries.map (·.moduleAlias) := by
  induction entries with
  | nil => rfl
  | cons e rest ih => exact congrArg (e.moduleAlias :: ·) ih

end Imports

/-! A use statement for a module binds the alias of the module. -/

theorem lastPart_of_separated {sep : Char} (front : List Char) {part : List Char}
    (whole : sep ∉ part) : Text.lastPart sep (front ++ sep :: part) = part := by
  have none : ∀ cs : List Char, sep ∉ cs → Text.aroundLast? sep cs = none := by
    intro cs absent
    induction cs with
    | nil => rfl
    | cons c rest ih =>
        rw [List.mem_cons, not_or] at absent
        rw [Text.aroundLast?, ih absent.2]
        exact if_neg (Ne.symm absent.1)
  have found : ∃ before, Text.aroundLast? sep (front ++ sep :: part) = some (before, part) := by
    induction front with
    | nil =>
      refine ⟨[], ?_⟩
      rw [List.nil_append, Text.aroundLast?, none part whole]
      exact if_pos rfl
    | cons c rest ih =>
        obtain ⟨before, split⟩ := ih
        exact ⟨c :: before, by rw [List.cons_append, Text.aroundLast?, split]⟩
  obtain ⟨before, split⟩ := found
  rw [Text.lastPart, split]

theorem lastPart_intercalate {segments : List String} {last : String} (front : String)
    (ends : segments.getLast? = some last) (whole : ':' ∉ last.toList) :
    Text.lastPart ':' (front ++ "::" ++ "::".intercalate segments).toList = last.toList := by
  induction segments generalizing front with
  | nil => cases ends
  | cons segment rest ih =>
      cases rest with
      | nil =>
          obtain rfl : segment = last := Option.some.inj ends
          have separated : (front ++ "::" ++ "::".intercalate [segment]).toList =
              (front.toList ++ [':']) ++ ':' :: segment.toList := by
            simp
          rw [separated]
          exact lastPart_of_separated _ whole
      | cons next later =>
          have longer : front ++ "::" ++ "::".intercalate (segment :: next :: later) =
              (front ++ "::" ++ segment) ++ "::" ++ "::".intercalate (next :: later) := by
            rw [String.intercalate_cons_cons]
            simp only [String.append_assoc]
          rw [longer]
          exact ih _ (by rw [← ends, List.getLast?_cons_cons])

theorem mem_parts {sep c : Char} {cs part : List Char} (among : part ∈ Text.parts sep cs)
    (member : c ∈ part) : c ∈ cs := by
  induction cs generalizing part with
  | nil =>
      rw [List.mem_singleton.mp among] at member
      cases member
  | cons d rest ih =>
      rw [Text.parts] at among
      split at among
      · rcases List.mem_cons.mp among with rfl | later
        · cases member
        · exact List.mem_cons_of_mem d (ih later member)
      · split at among
        · rw [List.mem_singleton.mp among] at member
          exact List.mem_singleton.mp member ▸ List.mem_cons_self
        · next first more split =>
            rcases List.mem_cons.mp among with rfl | later
            · rcases List.mem_cons.mp member with rfl | inner
              · exact List.mem_cons_self
              · refine List.mem_cons_of_mem d (ih ?_ inner)
                rw [split]
                exact List.mem_cons_self
            · refine List.mem_cons_of_mem d (ih ?_ member)
              rw [split]
              exact List.mem_cons_of_mem _ later

theorem rustEscape_plain {name : String} (plain : ':' ∉ name.toList) :
    ':' ∉ (rustNaming.safeName name).toList := by
  unfold Naming.safeName
  split
  · change ':' ∉ (rustEscape name).toList
    unfold rustEscape
    split
    · simp [plain]
    · simp [plain]
  · exact plain

theorem ColumnsGenerator.bound_moduleUse (g : ColumnsGenerator) {m : ModuleImport}
    (plain : ':' ∉ m.moduleName.toList) : (g.moduleUse m).bound = [m.moduleAlias] := by
  unfold moduleUse
  by_cases last : ((Text.parts '.' m.moduleName.toList).map fun segment =>
      rustNaming.safeName (String.ofList segment)).getLast? = some m.moduleAlias
  · simp only [last, if_true, Items.Use.bound]
    have whole : ':' ∉ m.moduleAlias.toList := by
      obtain ⟨segment, among, same⟩ := List.mem_map.mp (List.mem_of_getLast? last)
      rw [← same]
      refine rustEscape_plain ?_
      rw [String.toList_ofList]
      exact fun colon => plain (mem_parts among colon)
    rw [lastPart_intercalate g.genModule last whole, String.ofList_toList]
  · simp only [last, if_false, Items.Use.bound]

def ClientGenerator.ownNames : List String :=
  ["AuthTokens", "HttpServiceBase", "HttpServiceError", "GetFn", "PostFn", "HttpFetch",
   "DeclResolver"]

def EndpointsGenerator.ownNames : List String :=
  ["AContext", "addReqHandler", "RESOLVER", "Router"]

def ColumnsGenerator.ownNames : List String :=
  ["ColumnSpec", "Alias", "DynIden", "IntoIden", "adlrt"]

theorem TablesGenerator.Run.bound_nodup {g : TablesGenerator} {s : Schema}
    {rows : List (ResolvedTable × Script.Interface)} {entries : List ModuleImport}
    {file : Script.File} {a : Artifact} (run : g.Run s rows entries file a) :
    file.bound.Nodup := by
  obtain ⟨tables, resolved, _, _, _, lists⟩ := run.lists
  have ready : (rowImports resolved).Ready := Imports.settledFor_ready _ _ _
  rw [Script.File.bound, run.imports, Imports.bound_wholeImports]
  exact (lists.aliases_inTurn ready).nodup

theorem ClientGenerator.Run.bound_nodup_iff {g : ClientGenerator} {s : Schema} {api : Api}
    {entries : List ModuleImport} {file : Script.File} {a : Artifact}
    (run : g.Run s api entries file a) :
    file.bound.Nodup ↔ ∀ e ∈ entries, ∀ symbol ∈ e.symbols, symbol.name ∉ ownNames := by
  have own : (runtimeImports ++ [g.resolverImport]).flatMap Script.Import.bound = ownNames := rfl
  rw [Script.File.bound, run.imports, List.flatMap_append, own]
  exact run.lists.nodup_symbolImports_iff (api.settledImports_ready _) rfl _ (by decide)
    (by decide)

theorem EndpointsGenerator.Run.bound_nodup_iff {g : EndpointsGenerator} {s : Schema} {api : Api}
    {entries : List ModuleImport} {file : Script.File} {a : Artifact}
    (run : g.Run s api entries file a) :
    file.bound.Nodup ↔ ∀ e ∈ entries, ∀ symbol ∈ e.symbols, symbol.name ∉ ownNames := by
  have own : g.runtimeImports.flatMap Script.Import.bound = ownNames := rfl
  rw [Script.File.bound, run.imports, List.flatMap_append, own]
  exact run.lists.nodup_symbolImports_iff (api.settledImports_ready _) rfl _ (by decide)
    (by decide)

namespace ColumnsGenerator

theorem safeName_mem_ownNames {name : String} :
    rustNaming.safeName name ∈ ownNames ↔ name ∈ ownNames := by
  have letters : ∀ own ∈ ownNames, own.toList.all Char.isAlpha = true := by decide
  have free : ∀ own ∈ ownNames, rustNaming.isReserved own = false := by decide
  unfold Naming.safeName
  split
  · next reserved =>
      refine iff_of_false ?_ fun member => ?_
      · intro member
        obtain ⟨c, inside, mark⟩ := rustNaming_escapes.marks name
        have letter := List.all_eq_true.mp (letters _ member) c inside
        rw [mark] at letter
        cases letter
      · rw [free name member] at reserved
        cases reserved
  · exact Iff.rfl

theorem Run.bound_nodup_iff {output : String} {s : Schema}
    {items : List (ResolvedTable × Items.UnitStruct × Items.Implementation)}
    {entries : List ModuleImport} {file : Items.File} {a : Artifact}
    (run : (new output).Run s items entries file a)
    (plain : ∀ e ∈ entries, ':' ∉ e.moduleName.toList) :
    file.bound.Nodup ↔ ∀ e ∈ entries, moduleTail e.moduleName ∉ ownNames := by
  obtain ⟨tables, natives, resolved, _, _, _, _, lists⟩ := run.lists
  have ready : (columnImports natives resolved).Ready := Imports.settledFor_ready _ _ _
  have turns : InTurn rustNaming.safeName [] (entries.map fun e => moduleTail e.moduleName)
      (entries.map (·.moduleAlias)) := lists.aliases_inTurn ready
  have modules : (entries.map (new output).moduleUse).flatMap Items.Use.bound =
      entries.map (·.moduleAlias) := by
    rw [List.flatMap_map, ← List.flatMap_pure_eq_map]
    exact List.flatMap_congr fun e member => bound_moduleUse _ (plain e member)
  have block : file.bound = ownNames ++ entries.map (·.moduleAlias) := by
    rw [Items.File.bound, run.uses, List.flatMap_append, ColumnsGenerator.uses, List.flatMap_cons,
      modules]
    rfl
  have plainOwn : ∀ name ∈ ownNames, ∀ base n, rustNaming.safeName (numbered base n) ≠ name := by
    intro name member base n
    have digits : ∀ name ∈ ownNames, name.toList.any Char.isDigit = false := by decide
    rw [rustNaming_escapes.safeName_numbered]
    exact numbered_ne (digits name member) base n
  rw [block, (List.perm_append_comm).nodup_iff, turns.nodup_append_iff (by decide) plainOwn]
  simp only [List.forall_mem_map, safeName_mem_ownNames]

end ColumnsGenerator

/--
The rows import no name twice. Columns do exactly when the last segment of a module they import is a
name of the runtime, a client and endpoints exactly when a symbol they import is one; names of the
runtime are never among those taken.
-/
theorem bound_once_iff (s : Schema) :
    (∀ output a, (TablesGenerator.new output).generate s = .ok a → ∃ rows entries file,
      (TablesGenerator.new output).Run s rows entries file a ∧ file.bound.Nodup) ∧
    (∀ output a, (ColumnsGenerator.new output).generate s = .ok a → ∃ items entries file,
      (ColumnsGenerator.new output).Run s items entries file a ∧
      ((∀ e ∈ entries, ':' ∉ e.moduleName.toList) →
        (file.bound.Nodup ↔
          ∀ e ∈ entries, moduleTail e.moduleName ∉ ColumnsGenerator.ownNames))) ∧
    (∀ output name a, (ClientGenerator.new output name).generate s = .ok a → ∃ api entries file,
      (ClientGenerator.new output name).Run s api entries file a ∧
      (file.bound.Nodup ↔
        ∀ e ∈ entries, ∀ symbol ∈ e.symbols, symbol.name ∉ ClientGenerator.ownNames)) ∧
    (∀ output name a, (EndpointsGenerator.new output name).generate s = .ok a →
      ∃ api entries file, (EndpointsGenerator.new output name).Run s api entries file a ∧
      (file.bound.Nodup ↔
        ∀ e ∈ entries, ∀ symbol ∈ e.symbols, symbol.name ∉ EndpointsGenerator.ownNames)) := by
  refine ⟨?_, ?_, ?_, ?_⟩
  · intro output a made
    obtain ⟨rows, entries, file, run⟩ := TablesGenerator.run_of_generate made
    exact ⟨rows, entries, file, run, run.bound_nodup⟩
  · intro output a made
    obtain ⟨items, entries, file, run⟩ := ColumnsGenerator.run_of_generate made
    exact ⟨items, entries, file, run, run.bound_nodup_iff⟩
  · intro output name a made
    obtain ⟨api, entries, file, run⟩ := ClientGenerator.run_of_generate made
    exact ⟨api, entries, file, run, run.bound_nodup_iff⟩
  · intro output name a made
    obtain ⟨api, entries, file, run⟩ := EndpointsGenerator.run_of_generate made
    exact ⟨api, entries, file, run, run.bound_nodup_iff⟩

namespace Sample

theorem protoapp_bound_once :
    (∃ a rows entries file, (TablesGenerator.new "tables.ts").generate protoapp = .ok a ∧
      (TablesGenerator.new "tables.ts").Run protoapp rows entries file a ∧ file.bound.Nodup) ∧
    (∃ a items entries file, (ColumnsGenerator.new "columns.rs").generate protoapp = .ok a ∧
      (ColumnsGenerator.new "columns.rs").Run protoapp items entries file a ∧
      (∀ e ∈ entries, ':' ∉ e.moduleName.toList) ∧
      (file.bound.Nodup ↔
        ∀ e ∈ entries, moduleTail e.moduleName ∉ ColumnsGenerator.ownNames)) ∧
    (∃ a api entries file, (ClientGenerator.new "client.ts" apiRequests).generate protoapp = .ok a ∧
      (ClientGenerator.new "client.ts" apiRequests).Run protoapp api entries file a ∧
      (file.bound.Nodup ↔
        ∀ e ∈ entries, ∀ symbol ∈ e.symbols, symbol.name ∉ ClientGenerator.ownNames)) ∧
    ∃ a api entries file,
      (EndpointsGenerator.new "endpoints.ts" apiRequests).generate protoapp = .ok a ∧
      (EndpointsGenerator.new "endpoints.ts" apiRequests).Run protoapp api entries file a ∧
      (file.bound.Nodup ↔
        ∀ e ∈ entries, ∀ symbol ∈ e.symbols, symbol.name ∉ EndpointsGenerator.ownNames) := by
  obtain ⟨ofTables, ofColumns, ofClient, ofEndpoints⟩ := bound_once_iff protoapp
  have tabled : error? ((TablesGenerator.new "tables.ts").generate protoapp) = none := by
    decide +kernel
  have columned : error? ((ColumnsGenerator.new "columns.rs").generate protoapp) = none := by
    decide +kernel
  have clientMade : error? ((ClientGenerator.new "client.ts" apiRequests).generate protoapp) =
      none := by
    decide +kernel
  have endpointsMade :
      error? ((EndpointsGenerator.new "endpoints.ts" apiRequests).generate protoapp) = none := by
    decide +kernel
  refine ⟨?_, ?_, ?_, ?_⟩
  · obtain ⟨a, made⟩ := error?_eq_none_iff.mp tabled
    obtain ⟨rows, entries, file, run, once⟩ := ofTables _ a made
    exact ⟨a, rows, entries, file, made, run, once⟩
  · obtain ⟨a, made⟩ := error?_eq_none_iff.mp columned
    obtain ⟨items, entries, file, run, once⟩ := ofColumns _ a made
    obtain ⟨imports, itemed, block⟩ := run.settled
    have plain : ((ColumnsGenerator.new "columns.rs").columnItems protoapp).toOption.bind
        (fun parts => parts.2.modules.toOption.map fun entries =>
          entries.all fun e => !e.moduleName.toList.contains ':') = some true := by
      decide +kernel
    rw [itemed] at plain
    simp only [Except.toOption, Option.bind_some, block, Option.map_some,
      Option.some.injEq] at plain
    have apart : ∀ e ∈ entries, ':' ∉ e.moduleName.toList := by simpa using plain
    exact ⟨a, items, entries, file, made, run, apart, once apart⟩
  · obtain ⟨a, made⟩ := error?_eq_none_iff.mp clientMade
    obtain ⟨api, entries, file, run, once⟩ := ofClient _ _ a made
    exact ⟨a, api, entries, file, made, run, once⟩
  · obtain ⟨a, made⟩ := error?_eq_none_iff.mp endpointsMade
    obtain ⟨api, entries, file, run, once⟩ := ofEndpoints _ _ a made
    exact ⟨a, api, entries, file, made, run, once⟩

def colliding : Schema :=
  .ofModules
    [moduleOf "app.adlrt" [table (struct "Device" [field "label" (prim "String")])
       [("withIdPrimaryKey", .bool true)]],
     moduleOf "app.api"
       [struct "Requests" [entry "route"
          (post (named "app.api" "Router" []) (named "app.api" "HttpFetch" [])) "/route"
          (.string "public")],
        struct "Router" [], struct "HttpFetch" []],
     commonHttp]

def collidingApi : Api where
  name := ⟨"app.api", "Requests"⟩
  doc := none
  entries :=
    [⟨"route", "app.api.Requests.route", none,
      post (named "app.api" "Router" []) (named "app.api" "HttpFetch" []),
      some ⟨.post, some (named "app.api" "Router" []), named "app.api" "HttpFetch" [], .anyone⟩⟩]

/-- All three files are made, and each binds a name twice. -/
theorem colliding_bound_twice :
    (∃ a items entries file, (ColumnsGenerator.new "columns.rs").generate colliding = .ok a ∧
      (ColumnsGenerator.new "columns.rs").Run colliding items entries file a ∧
      ¬ file.bound.Nodup) ∧
    (∃ a api entries file,
      (ClientGenerator.new "client.ts" collidingApi.name).generate colliding = .ok a ∧
      (ClientGenerator.new "client.ts" collidingApi.name).Run colliding api entries file a ∧
      ¬ file.bound.Nodup) ∧
    ∃ a api entries file,
      (EndpointsGenerator.new "endpoints.ts" collidingApi.name).generate colliding = .ok a ∧
      (EndpointsGenerator.new "endpoints.ts" collidingApi.name).Run colliding api entries file a ∧
      ¬ file.bound.Nodup := by
  have loaded : colliding.api collidingApi.name = .ok collidingApi := by rfl
  refine ⟨?_, ?_, ?_⟩
  · have done : error? ((ColumnsGenerator.new "columns.rs").generate colliding) = none := by
      decide +kernel
    have twice : ((ColumnsGenerator.new "columns.rs").file colliding).toOption.map
        (fun file => decide file.bound.Nodup) = some false := by
      decide +kernel
    obtain ⟨a, made⟩ := error?_eq_none_iff.mp done
    obtain ⟨items, entries, file, run⟩ := ColumnsGenerator.run_of_generate made
    refine ⟨a, items, entries, file, made, run, ?_⟩
    rw [run.filed] at twice
    exact of_decide_eq_false (Option.some.inj twice)
  · have done : error? ((ClientGenerator.new "client.ts" collidingApi.name).generate colliding) =
        none := by
      decide +kernel
    obtain ⟨a, entries, file, made, run⟩ := ClientGenerator.exists_run loaded done
    refine ⟨a, collidingApi, entries, file, made, run, ?_⟩
    obtain ⟨e, member, _, among⟩ := run.lists.listed_iff.mpr
      ⟨⟨⟨"app.api", "HttpFetch"⟩, ""⟩, by decide, rfl, rfl⟩
    obtain ⟨symbol, listed, same⟩ := List.mem_map.mp among
    rw [run.bound_nodup_iff]
    intro apart
    exact apart e member symbol listed (same ▸ by decide)
  · have done : error? ((EndpointsGenerator.new "endpoints.ts" collidingApi.name).generate
        colliding) = none := by
      decide +kernel
    obtain ⟨a, entries, file, made, run⟩ := EndpointsGenerator.exists_run loaded done
    refine ⟨a, collidingApi, entries, file, made, run, ?_⟩
    obtain ⟨e, member, _, among⟩ := run.lists.listed_iff.mpr
      ⟨⟨⟨"app.api", "Router"⟩, ""⟩, by decide, rfl, rfl⟩
    obtain ⟨symbol, listed, same⟩ := List.mem_map.mp among
    rw [run.bound_nodup_iff]
    intro apart
    exact apart e member symbol listed (same ▸ by decide)

end Sample

end SchemaBindings
