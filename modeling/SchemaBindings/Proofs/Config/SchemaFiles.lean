import Mathlib.Algebra.Ring.Nat
import SchemaBindings.Proofs.Config.Loading
import SchemaBindings.Proofs.Schema.Listing

/-!
Which lists of schema files load, and what is loaded. A schema that was loaded holds every module of
every file, and each declaration is found in it under its key. It is listed under the name it
carries, which no file is made to repeat as the key.
-/

namespace SchemaBindings

section SchemaFiles

variable {t : FileTree} {paths : List String} {s : Schema}

theorem FileTree.distinctKeys_modulesAt (t : FileTree) (paths : List String) :
    ∀ m ∈ t.modulesAt paths, m.DistinctKeys := by
  intro m member
  obtain ⟨path, _, among⟩ := List.mem_flatMap.mp member
  cases found : t.modules? path with
  | none =>
      rw [found] at among
      cases among
  | some modules =>
      rw [found] at among
      obtain ⟨content, _, parsed⟩ := modules?_eq_some found
      exact distinctKeys_of_readModules parsed m among

theorem loadable_of_loadSchema (loaded : (loadSchema FileTree.load paths).run t = (.ok s, t)) :
    t.Loadable paths ∧ s = ⟨t.modulesAt paths⟩ := by
  rcases loadSchema_outcome t paths with ⟨loadable, made⟩ | ⟨_, _, _, e, _, _, _, failed⟩
  · cases made.symm.trans loaded
    exact ⟨loadable, rfl⟩
  · cases failed.symm.trans loaded

theorem indexed_of_loadSchema (loaded : (loadSchema FileTree.load paths).run t = (.ok s, t)) :
    s.Indexed := by
  obtain ⟨loadable, rfl⟩ := loadable_of_loadSchema loaded
  exact ⟨loadable.distinct, t.distinctKeys_modulesAt paths⟩

/--
Schema files load exactly when each can be read and parsed and no module is defined twice. The
schema then holds their modules in order, and lookup finds every declaration under its key.
Otherwise the first file that stops the loading decides the failure: it is unreadable or broken, or
it has a module whose name was met, and then the failure tells of the file that first defined it.
-/
theorem loadSchema_exact (t : FileTree) (paths : List String) :
    ((∃ s, (loadSchema FileTree.load paths).run t = (.ok s, t)) ↔ t.Loadable paths) ∧
    (∀ s, (loadSchema FileTree.load paths).run t = (.ok s, t) →
      s.modules = t.modulesAt paths ∧
      s.modules.length = (paths.map fun path => ((t.modules? path).getD []).length).sum ∧
      ∀ m ∈ t.modulesAt paths, ∀ key decl, (key, decl) ∈ m.decls →
        s.get? ⟨m.name, key⟩ = some decl) ∧
    (¬ t.Loadable paths → ∃ before path after e, paths = before ++ path :: after ∧
      t.Loadable before ∧ t.StopsAt (t.definitions before) path e ∧
      (loadSchema FileTree.load paths).run t = (.error e, t)) := by
  refine ⟨⟨?_, ?_⟩, ?_, ?_⟩
  · rintro ⟨s, loaded⟩
    exact (loadable_of_loadSchema loaded).1
  · intro loadable
    exact ⟨_, loadSchema_run loadable⟩
  · intro s loaded
    obtain ⟨_, rfl⟩ := loadable_of_loadSchema loaded
    refine ⟨rfl, List.length_flatMap, ?_⟩
    intro m member key decl declared
    exact (indexed_of_loadSchema loaded).get?_eq_some_iff.mpr ⟨m, member, rfl, declared⟩
  · intro stopped
    rcases loadSchema_outcome t paths with ⟨loadable, _⟩ | failed
    · exact absurd loadable stopped
    · exact failed

end SchemaFiles

namespace Sample

def clashingFiles : FileTree :=
  .directory [("", .directory [("", .directory
    [("one.json", .file (.text "\x7b\"name\":\"a\"\x7d")),
     ("two.json", .file (.text "[\x7b\"name\":\"b\"\x7d,\x7b\"name\":\"a\"\x7d]"))])])]

theorem clashingFiles_loaded_apart :
    clashingFiles.Loadable ["one.json"] ∧
    (∃ s, (loadSchema FileTree.load ["one.json"]).run clashingFiles = (.ok s, clashingFiles) ∧
      s.modules = clashingFiles.modulesAt ["one.json"]) ∧
    ¬ clashingFiles.Loadable ["one.json", "two.json"] ∧
    ∃ before path after e, ["one.json", "two.json"] = before ++ path :: after ∧
      clashingFiles.StopsAt (clashingFiles.definitions before) path e ∧
      (loadSchema FileTree.load ["one.json", "two.json"]).run clashingFiles =
        (.error e, clashingFiles) := by
  have alone : clashingFiles.Loadable ["one.json"] :=
    ⟨by decide +kernel, by decide +kernel⟩
  have together : ¬ clashingFiles.Loadable ["one.json", "two.json"] := by
    intro loadable
    have twice : ¬ ((clashingFiles.modulesAt ["one.json", "two.json"]).map (·.name)).Nodup := by
      decide +kernel
    exact twice loadable.distinct
  obtain ⟨loads, holds, _⟩ := loadSchema_exact clashingFiles ["one.json"]
  obtain ⟨s, loaded⟩ := loads.mpr alone
  obtain ⟨_, _, stops⟩ := loadSchema_exact clashingFiles ["one.json", "two.json"]
  obtain ⟨before, path, after, e, split, _, reason, failed⟩ := stops together
  exact ⟨alone, ⟨s, loaded, (holds s loaded).1⟩, together,
    before, path, after, e, split, reason, failed⟩

end Sample

/--
In a schema that was loaded, a declaration is listed under its own name whenever lookup finds it
under any key. What is listed is what lookup finds by the name, and listed once, exactly when every
key is the name of its declaration. The tables and the bound types are then those found by name.
-/
theorem loaded_listing_exact {t : FileTree} {paths : List String} {s : Schema}
    (loaded : (loadSchema FileTree.load paths).run t = (.ok s, t)) :
    (∀ name decl, (name, decl) ∈ s.decls ↔
      decl.name = name.name ∧ ∃ key, s.get? ⟨name.moduleName, key⟩ = some decl) ∧
    (((∀ listed ∈ s.decls, s.get? listed.1 = some listed.2) ∧ (s.decls.map (·.1)).Nodup) ↔
      s.OwnNames) ∧
    (s.OwnNames →
      (∀ tables, s.tables = .ok tables →
        ∀ table ∈ tables, s.get? table.name = some table.decl) ∧
      ∀ runtimeAlias natives, s.customTypes runtimeAlias = .ok natives →
        ∀ name text, (name, text) ∈ natives → ∃ decl custom, s.get? name = some decl ∧
          customTypeMark.get? decl.annotations name.text = .ok (some custom) ∧
          text = custom.path runtimeAlias) := by
  have indexed := indexed_of_loadSchema loaded
  refine ⟨fun name decl => indexed.mem_decls_iff, ⟨?_, ?_⟩, fun own => ⟨?_, ?_⟩⟩
  · rintro ⟨agree, once⟩
    exact indexed.ownNames_of_agree agree once
  · intro own
    exact ⟨fun _ listed => own.get?_of_mem_decls indexed listed, own.nodup_decls indexed⟩
  · intro tables found table member
    exact own.get?_of_mem_decls indexed (Schema.listed_of_tables found member)
  · intro runtimeAlias natives found name text member
    obtain ⟨decl, custom, listed, bound, written⟩ := Schema.listed_of_customTypes found member
    exact ⟨decl, custom, own.get?_of_mem_decls indexed listed, bound, written⟩

namespace Sample

def keyedFiles : FileTree :=
  .directory [("", .directory [("", .directory
    [("own.json", .file (.text
        "\x7b\"name\":\"m\",\"decls\":\x7b\"A\":
          \x7b\"name\":\"A\",\"type_\":\x7b\"struct_\":\x7b\"fields\":[]\x7d\x7d\x7d\x7d\x7d")),
     ("other.json", .file (.text
        "\x7b\"name\":\"m\",\"decls\":\x7b\"A\":
          \x7b\"name\":\"B\",\"type_\":\x7b\"struct_\":\x7b\"fields\":[]\x7d\x7d\x7d\x7d\x7d"))])])]

theorem keyedFiles_found :
    ∃ s, (loadSchema FileTree.load ["own.json"]).run keyedFiles = (.ok s, keyedFiles) ∧
      s.OwnNames ∧ (∀ listed ∈ s.decls, s.get? listed.1 = some listed.2) ∧
      ∀ tables, s.tables = .ok tables → ∀ table ∈ tables, s.get? table.name = some table.decl := by
  have loadable : keyedFiles.Loadable ["own.json"] := ⟨by decide +kernel, by decide +kernel⟩
  have loaded := loadSchema_run loadable
  have own : (Schema.ofModules (keyedFiles.modulesAt ["own.json"])).OwnNames :=
    ⟨by decide +kernel, by decide +kernel⟩
  obtain ⟨_, agree, found⟩ := loaded_listing_exact loaded
  exact ⟨_, loaded, own, (agree.mpr own).1, (found own).1⟩

theorem keyedFiles_not_found :
    ∃ s, (loadSchema FileTree.load ["other.json"]).run keyedFiles = (.ok s, keyedFiles) ∧
      ¬ ∀ listed ∈ s.decls, s.get? listed.1 = some listed.2 := by
  have loadable : keyedFiles.Loadable ["other.json"] := ⟨by decide +kernel, by decide +kernel⟩
  have listed : ⟨"m", "B"⟩ ∈
      (Schema.ofModules (keyedFiles.modulesAt ["other.json"])).decls.map (·.1) := by
    decide +kernel
  have absent :
      ((Schema.ofModules (keyedFiles.modulesAt ["other.json"])).get? ⟨"m", "B"⟩).isNone := by
    decide +kernel
  refine ⟨_, loadSchema_run loadable, ?_⟩
  intro agree
  obtain ⟨⟨name, decl⟩, among, rfl⟩ := List.mem_map.mp listed
  rw [agree _ among] at absent
  cases absent

end Sample

end SchemaBindings
