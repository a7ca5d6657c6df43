import SchemaBindings.Proofs.Artifact.ClientEndpoints
import SchemaBindings.Proofs.Artifact.ImportBlocks
import SchemaBindings.Proofs.Artifact.TableColumns
import SchemaBindings.Proofs.Decoding.References
import SchemaBindings.Proofs.Schema.Listing

/-!
Whether the declarations a file refers to are in the schema. In the files of tables and columns they
are, since the types of fields are decoded. The types of requests are written as they stand, and the
files made for an API import whatever these name.
-/

namespace SchemaBindings

namespace Schema

def Declares (s : Schema) (name : ScopedName) : Prop :=
  ∃ decl, s.get? name = some decl

/-- Each symbol that an import block takes from a module is declared there, or one of `spared`. -/
def DeclaresImports (s : Schema) (entries : List ModuleImport) (spared : List ScopedName) : Prop :=
  ∀ e ∈ entries, ∀ symbol ∈ e.symbols,
    ⟨e.moduleName, symbol.name⟩ ∉ spared → s.Declares ⟨e.moduleName, symbol.name⟩

variable {s : Schema}

theorem declaresImports_iff {m : Mapper} {style : ImportStyle} {wanted : List Wanted}
    {entries : List ModuleImport} (lists : (Imports.settledFor m style wanted).Lists entries)
    (spared : List ScopedName) :
    s.DeclaresImports entries spared ↔ ∀ w ∈ wanted, m.native w.name = none →
      ⟨w.name.moduleName, w.symbol⟩ ∉ spared → s.Declares ⟨w.name.moduleName, w.symbol⟩ := by
  constructor
  · intro declared w member foreign kept
    obtain ⟨e, listed, named, symbols⟩ := lists.listed_iff.mpr ⟨w, member, foreign, rfl⟩
    obtain ⟨symbol, among, same⟩ := List.mem_map.mp symbols
    rw [← named, ← same] at kept ⊢
    exact declared e listed symbol among kept
  · intro declared e listed symbol among kept
    obtain ⟨w, member, foreign, same⟩ :=
      lists.listed_iff.mp ⟨e, listed, rfl, List.mem_map_of_mem among⟩
    obtain ⟨named, symboled⟩ := Prod.mk.inj same
    rw [← named, ← symboled] at kept ⊢
    exact declared w member foreign kept

theorem OwnNames.declares_of_mem_decls (own : s.OwnNames) {name : ScopedName} {decl : Decl}
    (member : (name, decl) ∈ s.decls) : s.Declares name := by
  obtain ⟨m, present, named, key, listed, carried⟩ := mem_decls_iff.mp member
  have found : s.module? name.moduleName = some m :=
    (find?_eq_some_iff_of_distinct own.modules).mpr ⟨present, named⟩
  have same : name.name = key := carried.symm.trans (own.decls m present _ listed)
  have keyed : name.name ∈ m.decls.map (·.1) := List.mem_map.mpr ⟨_, listed, same.symm⟩
  obtain ⟨decl, declared⟩ := lookup_of_mem_keys keyed
  exact ⟨decl, by rw [get?, found]; exact declared⟩

theorem OwnNames.declares_table (own : s.OwnNames) {tables : List Table}
    (found : s.tables = .ok tables) {table : Table} (member : table ∈ tables) :
    s.Declares table.name :=
  own.declares_of_mem_decls (listed_of_tables found member)

end Schema

theorem Decoded.ResolvedBy.declares {s : Schema} {d : Decoded} (resolved : d.ResolvedBy s.get?)
    {w : Wanted} (member : w ∈ d.wanted) : s.Declares ⟨w.name.moduleName, w.symbol⟩ := by
  obtain ⟨name, among, asked⟩ := List.mem_flatMap.mp member
  obtain ⟨rfl, own⟩ := Wanted.mem_declaration.mp asked
  obtain ⟨reference, named, same⟩ := List.mem_map.mp among
  have symbol : w.symbol = w.name.name := by
    rw [Wanted.symbol, own.resolve_right List.not_mem_nil, String.empty_append]
  obtain ⟨decl, found, _⟩ := resolved reference named
  rw [symbol]
  exact ⟨decl, same ▸ found⟩

/-- Every type of a table that is resolved names what the decoder found. -/
theorem resolveTable_resolved {d : Decoder} {table : Table} {t : ResolvedTable}
    (done : resolveTable d table = .ok t) : ∀ f ∈ t.fields, f.decoded.ResolvedBy d.resolver := by
  obtain ⟨fields, each, made⟩ := bind_eq_ok_iff.mp done
  cases made
  intro f member
  obtain ⟨field, _, resolves⟩ := exists_of_mapM each member
  exact resolveField_resolved resolves

theorem TablesGenerator.Run.references {g : TablesGenerator} {s : Schema}
    {rows : List (ResolvedTable × Script.Interface)} {entries : List ModuleImport}
    {file : Script.File} {a : Artifact} (run : g.Run s rows entries file a) :
    s.DeclaresImports entries [] ∧
      ∀ row ∈ rows, ∀ f ∈ row.1.fields, f.decoded.ResolvedBy s.get? := by
  obtain ⟨tables, resolved, found, done, among, lists⟩ := run.lists
  have fields : ∀ t ∈ resolved, ∀ f ∈ t.fields, f.decoded.ResolvedBy s.get? := by
    intro t member
    obtain ⟨table, _, resolves⟩ := exists_of_mapM done member
    exact resolveTable_resolved resolves
  refine ⟨(Schema.declaresImports_iff lists []).mpr ?_,
    fun row member => fields _ (among row member)⟩
  intro w member _ _
  obtain ⟨t, listed, asked⟩ := List.mem_flatMap.mp member
  obtain ⟨decoded, of, wanted⟩ := List.mem_flatMap.mp asked
  obtain ⟨f, field, rfl⟩ := List.mem_map.mp of
  exact (fields t listed f field).declares wanted

theorem ColumnsGenerator.Run.references {g : ColumnsGenerator} {s : Schema}
    {items : List (ResolvedTable × Items.UnitStruct × Items.Implementation)}
    {entries : List ModuleImport} {file : Items.File} {a : Artifact}
    (run : g.Run s items entries file a) (own : s.OwnNames) :
    s.DeclaresImports entries [] ∧ ∀ item ∈ items, s.Declares item.1.table.name ∧
      ∀ f ∈ item.1.fields, f.decoded.ResolvedBy s.get? := by
  obtain ⟨tables, natives, resolved, found, _, done, among, lists⟩ := run.lists
  have types : ∀ t ∈ resolved, s.Declares t.table.name ∧
      ∀ f ∈ t.fields, f.decoded.ResolvedBy s.get? := by
    intro t member
    obtain ⟨table, listed, resolves⟩ := exists_of_mapM done member
    rw [resolveTable_table resolves]
    exact ⟨own.declares_table found listed, resolveTable_resolved resolves⟩
  refine ⟨(Schema.declaresImports_iff lists []).mpr ?_,
    fun item member => types _ (among item member)⟩
  intro w member _ _
  obtain ⟨t, listed, asked⟩ := List.mem_flatMap.mp member
  rcases List.mem_append.mp asked with row | column
  · rcases List.mem_singleton.mp row with rfl
    rw [Wanted.symbol_own]
    exact (types t listed).1
  · obtain ⟨decoded, of, wanted⟩ := List.mem_flatMap.mp column
    obtain ⟨f, field, rfl⟩ := List.mem_map.mp of
    exact ((types t listed).2 f (List.mem_of_mem_filter field)).declares wanted

namespace Api

def helperSymbols (api : Api) (helpers : List String) : List ScopedName :=
  helpers.map fun before => ⟨api.name.moduleName, before ++ api.name.name⟩

/-- Every declaration named by a type of a request, at any depth, is in the schema. -/
def RequestsDeclared (api : Api) (s : Schema) (spared : List ScopedName) : Prop :=
  ∀ entry ∈ api.requests, ∀ http, entry.http = some http → ∀ te ∈ http.types,
    ∀ name ∈ te.references, name ∉ spared → s.Declares name

theorem mem_wanted {api : Api} {helpers : List String} {w : Wanted} :
    w ∈ api.wanted helpers ↔ (w.name = api.name ∧ (w.before = "" ∨ w.before ∈ helpers)) ∨
      ∃ entry ∈ api.requests, ∃ http, entry.http = some http ∧ ∃ te ∈ http.types,
        w.name ∈ te.references ∧ w.before = "" := by
  have own : w ∈ api.typeExpr.wanted helpers ↔
      w.name = api.name ∧ (w.before = "" ∨ w.before ∈ helpers) := by
    rw [← Wanted.mem_declaration]
    simp [typeExpr, TypeExpr.wanted, TypeExpr.reference, TypeHead.reference?,
      TypeExpr.referencesAll]
  have plain (te : TypeExpr) : w ∈ te.wanted [] ↔ w.name ∈ te.references ∧ w.before = "" := by
    rcases te with ⟨head, parameters⟩
    rw [TypeExpr.wanted, ← List.flatMap_append, TypeExpr.references, List.mem_flatMap]
    simp only [Wanted.mem_declaration, List.not_mem_nil, or_false]
    constructor
    · rintro ⟨name, among, rfl, before⟩
      exact ⟨among, before⟩
    · rintro ⟨among, before⟩
      exact ⟨w.name, among, rfl, before⟩
  rw [wanted, List.mem_append, own]
  refine or_congr_right ?_
  simp only [List.mem_flatMap, ApiEntry.wanted, HttpRequest.wanted, Option.mem_toList, plain]
  constructor
  · rintro ⟨entry, listed, http, found, rest⟩
    exact ⟨entry, List.mem_filter.mpr ⟨listed, by rw [found]; rfl⟩, http, found, rest⟩
  · rintro ⟨entry, listed, http, found, rest⟩
    exact ⟨entry, (requests_http listed).1, http, found, rest⟩

theorem declaresImports_iff {s : Schema} {name : ScopedName} {api : Api}
    (loaded : s.api name = .ok api) {helpers : List String} {entries : List ModuleImport}
    (lists : (api.settledImports helpers).Lists entries) :
    s.DeclaresImports entries (api.helperSymbols helpers) ↔
      api.RequestsDeclared s (api.helperSymbols helpers) := by
  have itself : s.Declares api.name := by
    obtain ⟨decl, _, found, _, named, _⟩ := Schema.exists_of_api loaded
    rw [named]
    exact ⟨decl, found⟩
  rw [Schema.declaresImports_iff lists]
  constructor
  · intro declared entry listed http found te typed name named kept
    have asked : (⟨name, ""⟩ : Wanted) ∈ api.wanted helpers :=
      mem_wanted.mpr (.inr ⟨entry, listed, http, found, te, typed, named, rfl⟩)
    have symbol := Wanted.symbol_own name
    have holds := declared ⟨name, ""⟩ asked rfl
    rw [symbol] at holds
    exact holds kept
  · intro declared w asked _ kept
    rcases w with ⟨name, before⟩
    rcases mem_wanted.mp asked with
      ⟨rfl, rfl | helper⟩ | ⟨entry, listed, http, found, te, typed, named, rfl⟩
    · rw [Wanted.symbol_own]
      exact itself
    · exact absurd (List.mem_map.mpr ⟨before, helper, rfl⟩) kept
    · rw [Wanted.symbol_own] at kept ⊢
      exact declared entry listed http found te typed name named kept

end Api

/--
Of the files that can be made, those of tables and of columns refer to nothing that is not declared.
Those of an API do, as soon as the type of a request does: whatever such a type names is imported,
and it is declared exactly when the type is made of declarations.
-/
theorem references_declared (s : Schema) :
    (∀ (g : TablesGenerator) a, g.generate s = .ok a → ∃ rows entries file,
      g.Run s rows entries file a ∧ s.DeclaresImports entries [] ∧
      ∀ row ∈ rows, ∀ f ∈ row.1.fields, f.decoded.ResolvedBy s.get?) ∧
    (∀ (g : ColumnsGenerator) a, s.OwnNames → g.generate s = .ok a → ∃ items entries file,
      g.Run s items entries file a ∧ s.DeclaresImports entries [] ∧
      ∀ item ∈ items, s.Declares item.1.table.name ∧
        ∀ f ∈ item.1.fields, f.decoded.ResolvedBy s.get?) ∧
    (∀ (g : ClientGenerator) a, g.generate s = .ok a → ∃ api entries file,
      g.Run s api entries file a ∧
      (s.DeclaresImports entries (api.helperSymbols ["sn", "make"]) ↔
        api.RequestsDeclared s (api.helperSymbols ["sn", "make"]))) ∧
    (∀ (g : EndpointsGenerator) a, g.generate s = .ok a → ∃ api entries file,
      g.Run s api entries file a ∧
      (s.DeclaresImports entries (api.helperSymbols ["make"]) ↔
        api.RequestsDeclared s (api.helperSymbols ["make"]))) := by
  refine ⟨?_, ?_, ?_, ?_⟩
  · intro g a made
    obtain ⟨rows, entries, file, run⟩ := TablesGenerator.run_of_generate made
    exact ⟨rows, entries, file, run, run.references⟩
  · intro g a own made
    obtain ⟨items, entries, file, run⟩ := ColumnsGenerator.run_of_generate made
    exact ⟨items, entries, file, run, run.references own⟩
  · intro g a made
    obtain ⟨api, entries, file, run⟩ := ClientGenerator.run_of_generate made
    exact ⟨api, entries, file, run, Api.declaresImports_iff run.loaded run.lists⟩
  · intro g a made
    obtain ⟨api, entries, file, run⟩ := EndpointsGenerator.run_of_generate made
    exact ⟨api, entries, file, run, Api.declaresImports_iff run.loaded run.lists⟩

namespace Sample

def dangling : Schema :=
  withApiEntries protoapp [entry "lost" (get (vector (named "nowhere" "Missing" []))) "/lost"
    (.string "public")]

def danglingApi : Api where
  name := apiRequests
  doc := some "API requests for the protoapp UI"
  entries :=
    [⟨"lost", "protoapp.apis.ui.ApiRequests.lost", none,
      get (vector (named "nowhere" "Missing" [])),
      some ⟨.get, none, vector (named "nowhere" "Missing" []), .anyone⟩⟩]

theorem danglingApi_refers (helpers : List String) (spared : ⟨"nowhere", "Missing"⟩ ∉
    danglingApi.helperSymbols helpers) :
    ¬ danglingApi.RequestsDeclared dangling (danglingApi.helperSymbols helpers) := by
  intro declared
  obtain ⟨decl, found⟩ := declared _ List.mem_cons_self _ rfl _ List.mem_cons_self
    ⟨"nowhere", "Missing"⟩ List.mem_cons_self spared
  have absent : dangling.get? ⟨"nowhere", "Missing"⟩ = none := rfl
  cases absent.symm.trans found

/-- Both files are made, with an import that names nothing. -/
theorem dangling_imported :
    (∃ a, (ClientGenerator.new "client.ts" apiRequests).generate dangling = .ok a ∧
      ∃ api entries file,
        (ClientGenerator.new "client.ts" apiRequests).Run dangling api entries file a ∧
        ¬ dangling.DeclaresImports entries (api.helperSymbols ["sn", "make"])) ∧
      ∃ a, (EndpointsGenerator.new "endpoints.ts" apiRequests).generate dangling = .ok a ∧
        ∃ api entries file,
          (EndpointsGenerator.new "endpoints.ts" apiRequests).Run dangling api entries file a ∧
          ¬ dangling.DeclaresImports entries (api.helperSymbols ["make"]) := by
  have loaded : dangling.api apiRequests = .ok danglingApi := by rfl
  constructor
  · have done : error? ((ClientGenerator.new "client.ts" apiRequests).generate dangling) =
        none := by
      decide +kernel
    obtain ⟨a, entries, file, made, run⟩ := ClientGenerator.exists_run loaded done
    refine ⟨a, made, danglingApi, entries, file, run, ?_⟩
    rw [Api.declaresImports_iff run.loaded run.lists]
    exact danglingApi_refers _ (by decide)
  · have done : error? ((EndpointsGenerator.new "endpoints.ts" apiRequests).generate dangling) =
        none := by
      decide +kernel
    obtain ⟨a, entries, file, made, run⟩ := EndpointsGenerator.exists_run loaded done
    refine ⟨a, made, danglingApi, entries, file, run, ?_⟩
    rw [Api.declaresImports_iff run.loaded run.lists]
    exact danglingApi_refers _ (by decide)

theorem protoapp_ownNames : protoapp.OwnNames where
  modules := by decide +kernel
  decls := by decide +kernel

theorem protoapp_declared :
    protoapp.OwnNames ∧
    (∃ a rows entries file, applicationTables.generate protoapp = .ok a ∧
      applicationTables.Run protoapp rows entries file a ∧ protoapp.DeclaresImports entries []) ∧
    (∃ a items entries file, applicationColumns.generate protoapp = .ok a ∧
      applicationColumns.Run protoapp items entries file a ∧
      protoapp.DeclaresImports entries []) ∧
    (∃ a api entries file, scatteredClient.generate protoapp = .ok a ∧
      scatteredClient.Run protoapp api entries file a ∧
      (protoapp.DeclaresImports entries (api.helperSymbols ["sn", "make"]) ↔
        api.RequestsDeclared protoapp (api.helperSymbols ["sn", "make"]))) ∧
    ∃ a api entries file, scatteredEndpoints.generate protoapp = .ok a ∧
      scatteredEndpoints.Run protoapp api entries file a ∧
      (protoapp.DeclaresImports entries (api.helperSymbols ["make"]) ↔
        api.RequestsDeclared protoapp (api.helperSymbols ["make"])) := by
  obtain ⟨ofTables, ofColumns, ofClient, ofEndpoints⟩ := references_declared protoapp
  have tabled : error? (applicationTables.generate protoapp) = none := by decide +kernel
  have columned : error? (applicationColumns.generate protoapp) = none := by decide +kernel
  have clientMade : error? (scatteredClient.generate protoapp) = none := by decide +kernel
  have endpointsMade : error? (scatteredEndpoints.generate protoapp) = none := by decide +kernel
  refine ⟨protoapp_ownNames, ?_, ?_, ?_, ?_⟩
  · obtain ⟨a, made⟩ := error?_eq_none_iff.mp tabled
    obtain ⟨rows, entries, file, run, declared, _⟩ := ofTables _ a made
    exact ⟨a, rows, entries, file, made, run, declared⟩
  · obtain ⟨a, made⟩ := error?_eq_none_iff.mp columned
    obtain ⟨items, entries, file, run, declared, _⟩ := ofColumns _ a protoapp_ownNames made
    exact ⟨a, items, entries, file, made, run, declared⟩
  · obtain ⟨a, made⟩ := error?_eq_none_iff.mp clientMade
    obtain ⟨api, entries, file, run, declared⟩ := ofClient _ a made
    exact ⟨a, api, entries, file, made, run, declared⟩
  · obtain ⟨a, made⟩ := error?_eq_none_iff.mp endpointsMade
    obtain ⟨api, entries, file, run, declared⟩ := ofEndpoints _ a made
    exact ⟨a, api, entries, file, made, run, declared⟩

end Sample

end SchemaBindings
