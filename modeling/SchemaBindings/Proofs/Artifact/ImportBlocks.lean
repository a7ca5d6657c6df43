import SchemaBindings.Proofs.Artifact.RequestTypes
import SchemaBindings.Proofs.Artifact.TableTypes

/-!
Runs of the four generators with the import blocks of their files: the statements for the modules of
the settled imports, and those for the runtime that every file has.
-/

namespace SchemaBindings

section Groups

variable {α : Type}

theorem flatten_addToLast (x : α) (groups : List (List α)) :
    (addToLast x groups).flatten = groups.flatten ++ [x] := by
  induction groups with
  | nil => rfl
  | cons group rest ih =>
      cases rest with
      | nil => simp [addToLast]
      | cons next later =>
          have step : addToLast x (group :: next :: later) =
              group :: addToLast x (next :: later) := rfl
          rw [step, List.flatten_cons, ih, ← List.append_assoc]
          rfl

end Groups

namespace Script.File

def imports (f : File) : List Import :=
  f.importGroups.flatten

@[simp] theorem imports_empty : empty.imports = [] := rfl

@[simp] theorem imports_addHeader (f : File) (line : String) :
    (f.addHeader line).imports = f.imports := rfl

@[simp] theorem imports_add (f : File) (element : List Fragment) :
    (f.add element).imports = f.imports := rfl

@[simp] theorem imports_addAll (f : File) (elements : List (List Fragment)) :
    (f.addAll elements).imports = f.imports := rfl

@[simp] theorem imports_addImport (f : File) (i : Import) :
    (f.addImport i).imports = f.imports ++ [i] :=
  flatten_addToLast i f.importGroups

@[simp] theorem imports_addImports (f : File) (is : List Import) :
    (f.addImports is).imports = f.imports ++ is := by
  unfold addImports
  induction is generalizing f with
  | nil => exact (List.append_nil _).symm
  | cons i rest ih =>
      rw [List.foldl_cons, ih, imports_addImport, List.append_assoc, List.singleton_append]

@[simp] theorem imports_beginGroup (f : File) : f.beginGroup.imports = f.imports := by
  unfold beginGroup
  split
  · simp [imports]
  · rfl

end Script.File

namespace Items.File

def uses (f : File) : List Use :=
  f.useGroups.flatten

@[simp] theorem uses_empty : empty.uses = [] := rfl

@[simp] theorem uses_addHeader (f : File) (line : String) : (f.addHeader line).uses = f.uses := rfl

@[simp] theorem uses_addAll (f : File) (items : List (List Fragment)) :
    (f.addAll items).uses = f.uses := rfl

@[simp] theorem uses_addUses (f : File) (us : List Use) : (f.addUses us).uses = f.uses ++ us := by
  unfold addUses
  induction us generalizing f with
  | nil => exact (List.append_nil _).symm
  | cons u rest ih =>
      have added : (f.addUse u).uses = f.uses ++ [u] := flatten_addToLast u f.useGroups
      rw [List.foldl_cons, ih, added, List.append_assoc, List.singleton_append]

@[simp] theorem uses_beginGroup (f : File) : f.beginGroup.uses = f.uses := by
  unfold beginGroup
  split
  · rfl
  · simp [uses]

end Items.File

namespace Imports

/-- The block of a helper lists what it was asked for, unless it is written natively. -/
theorem Lists.listed_iff {m : Mapper} {style : ImportStyle} {wanted : List Wanted}
    {entries : List ModuleImport} (lists : (settledFor m style wanted).Lists entries)
    {moduleName symbol : String} :
    (∃ e ∈ entries, e.moduleName = moduleName ∧ symbol ∈ e.symbols.map (·.name)) ↔
      ∃ w ∈ wanted, m.native w.name = none ∧ w.entry = (moduleName, symbol) := by
  have recorded : (settledFor m style wanted).ledger =
      Ledger.empty.addAll ((settledFor m style wanted).foreign wanted) := rfl
  have held : (∃ e ∈ entries, e.moduleName = moduleName ∧ symbol ∈ e.symbols.map (·.name)) ↔
      (settledFor m style wanted).ledger.Holds moduleName symbol := by
    rw [Ledger.Holds, ← lists.ledger]
    simp only [List.mem_map, Prod.mk.injEq]
    constructor
    · rintro ⟨e, member, named, listed⟩
      exact ⟨_, ⟨e, member, named, rfl⟩, List.mem_map.mpr listed⟩
    · rintro ⟨_, ⟨e, member, named, rfl⟩, listed⟩
      exact ⟨e, member, named, List.mem_map.mp listed⟩
  have imported (w : Wanted) : (settledFor m style wanted).IsForeign w.name ↔
      m.native w.name = none :=
    and_iff_right nofun
  rw [held, recorded, Ledger.holds_addAll, mem_foreign]
  simp only [imported]
  refine or_iff_left ?_
  rintro ⟨_, absent, _⟩
  exact List.not_mem_nil absent

end Imports

namespace TablesGenerator

/-- A run that makes `file` of the rows, its import block for the modules in `entries`. -/
structure Run (g : TablesGenerator) (s : Schema) (rows : List (ResolvedTable × Script.Interface))
    (entries : List ModuleImport) (file : Script.File) (a : Artifact) : Prop where
  settled : ∃ imports, tableRows s = .ok (rows, imports) ∧ imports.modules = .ok entries
  filed : g.file s = .ok file
  content : a.content = file.render

variable {g : TablesGenerator} {s : Schema} {rows : List (ResolvedTable × Script.Interface)}
  {entries : List ModuleImport} {file : Script.File} {a : Artifact}

theorem run_of_generate (made : g.generate s = .ok a) :
    ∃ rows entries file, g.Run s rows entries file a := by
  obtain ⟨file, filed, made⟩ := bind_eq_ok_iff.mp made
  cases made
  have parts := filed
  unfold TablesGenerator.file at parts
  obtain ⟨⟨rows, imports⟩, rowed, parts⟩ := bind_eq_ok_iff.mp parts
  obtain ⟨entries, block, _⟩ := bind_eq_ok_iff.mp parts
  exact ⟨rows, entries, file, ⟨imports, rowed, block⟩, filed, rfl⟩

theorem Run.imports (run : g.Run s rows entries file a) :
    file.imports = entries.map (Script.wholeImport g.importPrefix) := by
  obtain ⟨imports, rowed, block⟩ := run.settled
  have filed := run.filed
  simp only [TablesGenerator.file, rowed, bind, Except.bind, block, pure, Except.pure] at filed
  cases filed
  simp

theorem Run.lists (run : g.Run s rows entries file a) :
    ∃ tables resolved, s.tables = .ok tables ∧
      tables.mapM (resolveTable (rowDecoder s)) = .ok resolved ∧
      (∀ row ∈ rows, row.1 ∈ resolved) ∧ (rowImports resolved).Lists entries := by
  obtain ⟨imports, rowed, block⟩ := run.settled
  rw [tableRows_eq] at rowed
  obtain ⟨tables, found, rowed⟩ := bind_eq_ok_iff.mp rowed
  obtain ⟨resolved, done, rowed⟩ := bind_eq_ok_iff.mp rowed
  obtain ⟨interfaces, _, rowed⟩ := bind_eq_ok_iff.mp rowed
  cases rowed
  obtain ⟨listed, same, lists⟩ := Imports.modules_lists (i := rowImports resolved)
    (Imports.settledFor_ready _ _ _)
  obtain rfl := Except.ok.inj (same.symm.trans block)
  exact ⟨tables, resolved, found, done, fun row member => (List.of_mem_zip member).1, lists⟩

end TablesGenerator

namespace ColumnsGenerator

structure Run (g : ColumnsGenerator) (s : Schema)
    (items : List (ResolvedTable × Items.UnitStruct × Items.Implementation))
    (entries : List ModuleImport) (file : Items.File) (a : Artifact) : Prop where
  settled : ∃ imports, g.columnItems s = .ok (items, imports) ∧ imports.modules = .ok entries
  filed : g.file s = .ok file
  content : a.content = file.render

variable {g : ColumnsGenerator} {s : Schema}
  {items : List (ResolvedTable × Items.UnitStruct × Items.Implementation)}
  {entries : List ModuleImport} {file : Items.File} {a : Artifact}

theorem run_of_generate (made : g.generate s = .ok a) :
    ∃ items entries file, g.Run s items entries file a := by
  obtain ⟨file, filed, made⟩ := bind_eq_ok_iff.mp made
  cases made
  have parts := filed
  unfold ColumnsGenerator.file at parts
  obtain ⟨⟨items, imports⟩, itemed, parts⟩ := bind_eq_ok_iff.mp parts
  obtain ⟨entries, block, _⟩ := bind_eq_ok_iff.mp parts
  exact ⟨items, entries, file, ⟨imports, itemed, block⟩, filed, rfl⟩

theorem Run.uses (run : g.Run s items entries file a) :
    file.uses = libraryUses ++ g.uses entries := by
  obtain ⟨imports, itemed, block⟩ := run.settled
  have filed := run.filed
  simp only [ColumnsGenerator.file, itemed, bind, Except.bind, block, pure, Except.pure] at filed
  cases filed
  simp

theorem Run.lists (run : g.Run s items entries file a) :
    ∃ tables natives resolved, s.tables = .ok tables ∧
      s.customTypes g.runtimeAlias = .ok natives ∧
      tables.mapM (resolveTable (columnDecoder s)) = .ok resolved ∧
      (∀ item ∈ items, item.1 ∈ resolved) ∧ (columnImports natives resolved).Lists entries := by
  obtain ⟨imports, itemed, block⟩ := run.settled
  rw [columnItems_eq] at itemed
  obtain ⟨tables, found, itemed⟩ := bind_eq_ok_iff.mp itemed
  obtain ⟨natives, bound, itemed⟩ := bind_eq_ok_iff.mp itemed
  obtain ⟨resolved, done, itemed⟩ := bind_eq_ok_iff.mp itemed
  obtain ⟨made, _, itemed⟩ := bind_eq_ok_iff.mp itemed
  cases itemed
  obtain ⟨listed, same, lists⟩ := Imports.modules_lists (i := columnImports natives resolved)
    (Imports.settledFor_ready _ _ _)
  obtain rfl := Except.ok.inj (same.symm.trans block)
  exact ⟨tables, natives, resolved, found, bound, done,
    fun item member => (List.of_mem_zip member).1, lists⟩

end ColumnsGenerator

namespace ClientGenerator

structure Run (g : ClientGenerator) (s : Schema) (api : Api) (entries : List ModuleImport)
    (file : Script.File) (a : Artifact) : Prop where
  loaded : s.api g.api = .ok api
  settled : ∃ output imports, api.emit ["sn", "make"] phases = .ok (output, imports) ∧
    imports.modules = .ok entries ∧ g.file api output imports = .ok file
  content : a.content = file.render

variable {g : ClientGenerator} {s : Schema} {api : Api} {entries : List ModuleImport}
  {file : Script.File} {a : Artifact}

theorem run_of_generate (made : g.generate s = .ok a) :
    ∃ api entries file, g.Run s api entries file a := by
  obtain ⟨api, loaded, made⟩ := bind_eq_ok_iff.mp made
  obtain ⟨⟨output, imports⟩, emitted, made⟩ := bind_eq_ok_iff.mp made
  obtain ⟨file, filed, made⟩ := bind_eq_ok_iff.mp made
  cases made
  have parts := filed
  unfold ClientGenerator.file at parts
  obtain ⟨_, _, parts⟩ := bind_eq_ok_iff.mp parts
  obtain ⟨_, _, parts⟩ := bind_eq_ok_iff.mp parts
  obtain ⟨entries, block, _⟩ := bind_eq_ok_iff.mp parts
  exact ⟨api, entries, file, loaded, ⟨output, imports, emitted, block, filed⟩, rfl⟩

theorem exists_run (loaded : s.api g.api = .ok api) (done : error? (g.generate s) = none) :
    ∃ a entries file, g.generate s = .ok a ∧ g.Run s api entries file a := by
  obtain ⟨a, made⟩ := error?_eq_none_iff.mp done
  obtain ⟨other, entries, file, run⟩ := run_of_generate made
  obtain rfl := Except.ok.inj (loaded.symm.trans run.loaded)
  exact ⟨a, entries, file, made, run⟩

theorem Run.imports (run : g.Run s api entries file a) :
    file.imports = entries.map (Script.symbolImport g.importPrefix) ++
      (runtimeImports ++ [g.resolverImport]) := by
  obtain ⟨output, imports, _, block, filed⟩ := run.settled
  unfold ClientGenerator.file at filed
  obtain ⟨_, _, filed⟩ := bind_eq_ok_iff.mp filed
  obtain ⟨_, _, filed⟩ := bind_eq_ok_iff.mp filed
  obtain ⟨listed, same, filed⟩ := bind_eq_ok_iff.mp filed
  obtain rfl := Except.ok.inj (same.symm.trans block)
  cases filed
  simp

theorem Run.lists (run : g.Run s api entries file a) :
    (api.settledImports ["sn", "make"]).Lists entries := by
  obtain ⟨output, imports, emitted, block, _⟩ := run.settled
  obtain rfl := Api.emit_settled rfl emitted
  obtain ⟨listed, same, lists⟩ := Imports.modules_lists (api.settledImports_ready ["sn", "make"])
  exact Except.ok.inj (same.symm.trans block) ▸ lists

end ClientGenerator

namespace EndpointsGenerator

structure Run (g : EndpointsGenerator) (s : Schema) (api : Api) (entries : List ModuleImport)
    (file : Script.File) (a : Artifact) : Prop where
  loaded : s.api g.api = .ok api
  settled : ∃ output imports, api.emit ["make"] phases = .ok (output, imports) ∧
    imports.modules = .ok entries ∧ g.file api output imports = .ok file
  content : a.content = file.render

variable {g : EndpointsGenerator} {s : Schema} {api : Api} {entries : List ModuleImport}
  {file : Script.File} {a : Artifact}

theorem run_of_generate (made : g.generate s = .ok a) :
    ∃ api entries file, g.Run s api entries file a := by
  obtain ⟨api, loaded, made⟩ := bind_eq_ok_iff.mp made
  obtain ⟨⟨output, imports⟩, emitted, made⟩ := bind_eq_ok_iff.mp made
  obtain ⟨file, filed, made⟩ := bind_eq_ok_iff.mp made
  cases made
  have parts := filed
  unfold EndpointsGenerator.file at parts
  obtain ⟨_, _, parts⟩ := bind_eq_ok_iff.mp parts
  obtain ⟨entries, block, _⟩ := bind_eq_ok_iff.mp parts
  exact ⟨api, entries, file, loaded, ⟨output, imports, emitted, block, filed⟩, rfl⟩

theorem exists_run (loaded : s.api g.api = .ok api) (done : error? (g.generate s) = none) :
    ∃ a entries file, g.generate s = .ok a ∧ g.Run s api entries file a := by
  obtain ⟨a, made⟩ := error?_eq_none_iff.mp done
  obtain ⟨other, entries, file, run⟩ := run_of_generate made
  obtain rfl := Except.ok.inj (loaded.symm.trans run.loaded)
  exact ⟨a, entries, file, made, run⟩

theorem Run.imports (run : g.Run s api entries file a) :
    file.imports = entries.map (Script.symbolImport g.importPrefix) ++ g.runtimeImports := by
  obtain ⟨output, imports, _, block, filed⟩ := run.settled
  unfold EndpointsGenerator.file at filed
  obtain ⟨_, _, filed⟩ := bind_eq_ok_iff.mp filed
  obtain ⟨listed, same, filed⟩ := bind_eq_ok_iff.mp filed
  obtain rfl := Except.ok.inj (same.symm.trans block)
  cases filed
  simp

theorem Run.lists (run : g.Run s api entries file a) :
    (api.settledImports ["make"]).Lists entries := by
  obtain ⟨output, imports, emitted, block, _⟩ := run.settled
  obtain rfl := Api.emit_settled rfl emitted
  obtain ⟨listed, same, lists⟩ := Imports.modules_lists (api.settledImports_ready ["make"])
  exact Except.ok.inj (same.symm.trans block) ▸ lists

end EndpointsGenerator

end SchemaBindings
