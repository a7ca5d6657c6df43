import SchemaBindings.Project.Run
import SchemaBindings.Proofs.Config.Loading
import SchemaBindings.Sample.Protoapp

/-!
Artifacts do not depend on the order in which modules are inserted or schema files are listed:
generators look names up and go through the declarations, sorted by module, and nothing else.
-/

namespace SchemaBindings

namespace Schema.Alike

variable {first second : Schema}

theorem tables (alike : first.Alike second) : first.tables = second.tables := by
  rw [Schema.tables, Schema.tables, alike.decls]

theorem customTypes (alike : first.Alike second) : first.customTypes = second.customTypes := by
  funext runtimeAlias
  rw [Schema.customTypes, Schema.customTypes, alike.decls]

theorem api (alike : first.Alike second) : first.api = second.api := by
  funext name
  rw [Schema.api, Schema.api, alike.get?]

theorem rowDecoder (alike : first.Alike second) :
    SchemaBindings.rowDecoder first = SchemaBindings.rowDecoder second := by
  rw [SchemaBindings.rowDecoder, SchemaBindings.rowDecoder, alike.get?]

theorem columnDecoder (alike : first.Alike second) :
    SchemaBindings.columnDecoder first = SchemaBindings.columnDecoder second := by
  rw [SchemaBindings.columnDecoder, SchemaBindings.columnDecoder, alike.get?]

theorem generate (alike : first.Alike second) (g : Generator) :
    g.generate first = g.generate second := by
  cases g with
  | tables g =>
      have rows : tableRows first = tableRows second := by
        rw [tableRows, tableRows, alike.tables, alike.rowDecoder]
      rw [Generator.generate, Generator.generate, TablesGenerator.generate,
        TablesGenerator.generate, TablesGenerator.file, TablesGenerator.file, rows]
  | columns g =>
      have items : g.columnItems first = g.columnItems second := by
        rw [ColumnsGenerator.columnItems, ColumnsGenerator.columnItems, alike.tables,
          alike.customTypes, alike.columnDecoder]
      rw [Generator.generate, Generator.generate, ColumnsGenerator.generate,
        ColumnsGenerator.generate, ColumnsGenerator.file, ColumnsGenerator.file, items]
  | client g =>
      rw [Generator.generate, Generator.generate, ClientGenerator.generate,
        ClientGenerator.generate, alike.api]
  | endpoints g =>
      rw [Generator.generate, Generator.generate, EndpointsGenerator.generate,
        EndpointsGenerator.generate, alike.api]

end Schema.Alike

theorem runAll_of_alike {m : Type → Type} [Monad m] {first second : Schema}
    (alike : first.Alike second) (save : SaveFile m) (c : Config) (files : List String)
    (mode : Mode) : runAll save c first mode = runAll save { c with files } second mode := by
  have run : runGenerator save first mode = runGenerator save second mode := by
    funext g
    rw [runGenerator, runGenerator, alike.generate]
  -- The settings of the generators do not come from the list of schema files.
  have generators : { c with files }.generators = c.generators := rfl
  rw [runAll, runAll, run, generators]

theorem ofModules_alike {modules reordered : List Module} (distinct : (modules.map (·.name)).Nodup)
    (perm : modules.Perm reordered) : (Schema.ofModules modules).Alike (.ofModules reordered) := by
  have otherDistinct := (perm.map (·.name)).nodup_iff.mp distinct
  rw [Schema.ofModules_of_distinct distinct, Schema.ofModules_of_distinct otherDistinct]
  exact .of_perm perm distinct

/-- Neither the order of insertion nor that of the schema files shows in what is generated, as long
as every file parses and no module is defined twice. -/
theorem output_order_irrelevant :
    (∀ modules reordered : List Module, (modules.map (·.name)).Nodup → modules.Perm reordered →
      ∀ g : Generator, g.generate (.ofModules modules) = g.generate (.ofModules reordered)) ∧
    ∀ (t : FileTree) (c : Config) (files : List String),
      t.Loadable c.schemaFiles → c.files.Perm files →
      ∃ first second : Schema,
        (loadSchema FileTree.load c.schemaFiles).run t = (.ok first, t) ∧
        (loadSchema FileTree.load { c with files }.schemaFiles).run t = (.ok second, t) ∧
        (∀ g : Generator, g.generate first = g.generate second) ∧
        ∀ {m : Type → Type} [Monad m] (save : SaveFile m) (mode : Mode),
          runAll save c first mode = runAll save { c with files } second mode := by
  refine ⟨?_, ?_⟩
  · intro modules reordered distinct perm
    exact (ofModules_alike distinct perm).generate
  · intro t c files loadable perm
    have paths : c.schemaFiles.Perm { c with files }.schemaFiles := perm.map c.resolve
    have alike := ofModules_alike loadable.distinct (FileTree.modulesAt_perm paths)
    refine ⟨_, _, loadSchema_run loadable, loadSchema_run (loadable.perm paths), alike.generate, ?_⟩
    intro m _ save mode
    exact runAll_of_alike alike save c files mode

namespace Sample

def applicationModules : List Module :=
  [sysTypes, common, commonDb, commonHttp, protoappDb, protoappOps, protoappUi]

def splitFiles : FileTree :=
  .directory [("", .directory [("", .directory
    [("first.json", .file (.text "[\x7b\"name\":\"c\"\x7d,\x7b\"name\":\"a\"\x7d]")),
     ("second.json", .file (.text "\x7b\"name\":\"b\"\x7d"))])])]

def splitConfig : Config :=
  { Config.empty with files := ["first.json", "second.json"], tables := some ⟨"rows.ts", none⟩ }

theorem splitFiles_loadable : splitFiles.Loadable splitConfig.schemaFiles where
  parses := by decide +kernel
  distinct := by decide +kernel

theorem application_order_irrelevant :
    (applicationModules.map (·.name)).Nodup ∧
    (∀ g : Generator, g.generate protoapp = g.generate (.ofModules applicationModules.reverse)) ∧
    splitFiles.Loadable splitConfig.schemaFiles ∧
    ∃ first second : Schema,
      (loadSchema FileTree.load splitConfig.schemaFiles).run splitFiles =
        (.ok first, splitFiles) ∧
      (loadSchema FileTree.load ["second.json", "first.json"]).run splitFiles =
        (.ok second, splitFiles) ∧
      ∀ g : Generator, g.generate first = g.generate second := by
  have distinct : (applicationModules.map (·.name)).Nodup := by decide +kernel
  obtain ⟨first, second, loaded, otherLoaded, same, _⟩ := output_order_irrelevant.2 splitFiles
    splitConfig ["second.json", "first.json"] splitFiles_loadable (.swap _ _ _)
  exact ⟨distinct, output_order_irrelevant.1 _ _ distinct (List.reverse_perm _).symm,
    splitFiles_loadable, first, second, loaded, otherLoaded, same⟩

end Sample

end SchemaBindings
