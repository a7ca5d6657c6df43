import SchemaBindings.Config.Load
import SchemaBindings.Project.FileTree
import SchemaBindings.Proofs.Schema.ModuleOrder

/-!
Loading schema files. What was loaded so far is told by the list of modules met, each with the path
of its file. A file either adds its modules to the list or stops the loading, and the first that
stops it decides the failure.
-/

namespace SchemaBindings

namespace FileTree

def modules? (t : FileTree) (path : String) : Option (List Module) :=
  match t.read path with
  | .error _ => none
  | .ok content => (readModules content.toList).toOption

def modulesAt (t : FileTree) (paths : List String) : List Module :=
  paths.flatMap fun path => (t.modules? path).getD []

/-- Every schema file parses, and no module is defined twice. -/
structure Loadable (t : FileTree) (paths : List String) : Prop where
  parses : ∀ path ∈ paths, (t.modules? path).isSome
  distinct : ((t.modulesAt paths).map (·.name)).Nodup

variable {t : FileTree}

theorem modules?_eq_some {path : String} {modules : List Module}
    (found : t.modules? path = some modules) :
    ∃ content, t.read path = .ok content ∧ readModules content.toList = .ok modules := by
  unfold modules? at found
  split at found
  · cases found
  · rename_i content there
    refine ⟨content, there, ?_⟩
    cases parsed : readModules content.toList with
    | error fault =>
        rw [parsed] at found
        cases found
    | ok modules =>
        rw [parsed] at found
        cases found
        rfl

theorem modulesAt_perm {paths others : List String} (perm : paths.Perm others) :
    (t.modulesAt paths).Perm (t.modulesAt others) :=
  perm.flatMap_right _

theorem Loadable.perm {paths others : List String} (loadable : t.Loadable paths)
    (perm : paths.Perm others) : t.Loadable others where
  parses path member := loadable.parses path (perm.mem_iff.mpr member)
  distinct := ((modulesAt_perm perm).map _).nodup_iff.mp loadable.distinct

end FileTree

/-! ### Modules met -/

def FileTree.definitions (t : FileTree) (paths : List String) : List (String × Module) :=
  paths.flatMap fun path => ((t.modules? path).getD []).map (path, ·)

/-- No name is that of two modules. -/
def DistinctNames (defined : List (String × Module)) : Prop :=
  (defined.map (·.2.name)).Nodup

def origin? (defined : List (String × Module)) (name : String) : Option String :=
  (defined.find? (·.2.name == name)).map (·.1)

section Definitions

variable {t : FileTree} {defined : List (String × Module)} {name : String}

theorem FileTree.definitions_modules (t : FileTree) (paths : List String) :
    (t.definitions paths).map (·.2) = t.modulesAt paths := by
  rw [definitions, modulesAt, List.map_flatMap]
  simp only [List.map_map, Function.comp_def, List.map_id']

theorem FileTree.definitions_cons {path : String} {modules : List Module}
    (found : t.modules? path = some modules) (paths : List String) :
    t.definitions (path :: paths) = modules.map (path, ·) ++ t.definitions paths := by
  rw [definitions, List.flatMap_cons, found]
  rfl

theorem FileTree.distinctNames_definitions {paths : List String} :
    DistinctNames (t.definitions paths) ↔ ((t.modulesAt paths).map (·.name)).Nodup := by
  rw [← t.definitions_modules, List.map_map]
  rfl

theorem origin?_eq_none_iff :
    origin? defined name = none ↔ name ∉ defined.map (·.2.name) := by
  simp [origin?]

theorem mem_of_origin? {first : String} (found : origin? defined name = some first) :
    ∃ m, (first, m) ∈ defined ∧ m.name = name := by
  obtain ⟨⟨path, m⟩, met, rfl⟩ := Option.map_eq_some_iff.mp found
  have named := List.find?_some met
  exact ⟨m, List.mem_of_find?_eq_some met, eq_of_beq named⟩

end Definitions

namespace LoadedModules

/-- What is loaded once these modules are met. -/
def holding (defined : List (String × Module)) : LoadedModules where
  schema := ⟨defined.map (·.2)⟩
  origins := (defined.map fun (path, m) => (m.name, path)).reverse

variable {defined : List (String × Module)} {source : SourceText} {first : String} {m : Module}

theorem keys_origins (defined : List (String × Module)) :
    (holding defined).origins.map (·.1) = (defined.map (·.2.name)).reverse := by
  rw [holding, List.map_reverse, List.map_map]
  rfl

theorem add_of_new (new : origin? defined m.name = none) :
    (holding defined).add source m = .ok (holding (defined ++ [(source.name, m)])) := by
  have absent : m.name ∉ defined.map (·.2.name) := origin?_eq_none_iff.mp new
  have unknown : (holding defined).origins.lookup m.name = none := by
    refine List.lookup_eq_none_iff.mpr ?_
    intro origin member
    refine bne_iff_ne.mpr ?_
    intro same
    have known : m.name ∈ (holding defined).origins.map (·.1) :=
      List.mem_map.mpr ⟨origin, member, same.symm⟩
    rw [keys_origins, List.mem_reverse] at known
    exact absent known
  have placed : placeModule m (defined.map (·.2)) = defined.map (·.2) ++ [m] :=
    placeModule_of_absent (by rw [List.map_map]; exact absent)
  rw [add, unknown]
  simp only [holding, Schema.insert, placed, List.map_append, List.reverse_append]
  rfl

/-- The origins are kept latest first, but distinct names have one origin each. -/
theorem add_of_defined (distinct : DistinctNames defined)
    (met : origin? defined m.name = some first) :
    (holding defined).add source m = .error (.invalid source (.moduleTwice m.name first) none) := by
  obtain ⟨other, member, named⟩ := mem_of_origin? met
  have known : (holding defined).origins.lookup m.name = some first := by
    refine lookup_of_mem ?_ ?_
    · rw [keys_origins]
      exact List.nodup_reverse.mpr distinct
    · exact List.mem_reverse.mpr (List.mem_map.mpr ⟨(first, other), member, by simp [named]⟩)
  rw [add, known]

theorem foldlM_add (source : SourceText) (modules : List Module)
    (distinct : DistinctNames defined) : (DistinctNames (defined ++ modules.map (source.name, ·)) ∧
      modules.foldlM (add source) (holding defined) =
        .ok (holding (defined ++ modules.map (source.name, ·)))) ∨
    ∃ earlier m later first, modules = earlier ++ m :: later ∧
      DistinctNames (defined ++ earlier.map (source.name, ·)) ∧
      origin? (defined ++ earlier.map (source.name, ·)) m.name = some first ∧
      modules.foldlM (add source) (holding defined) =
        .error (.invalid source (.moduleTwice m.name first) none) := by
  induction modules generalizing defined with
  | nil =>
      rw [List.map_nil, List.append_nil]
      exact .inl ⟨distinct, rfl⟩
  | cons m rest ih =>
      rw [List.foldlM_cons]
      cases met : origin? defined m.name with
      | some first =>
          refine .inr ⟨[], m, rest, first, rfl, ?_, ?_, ?_⟩
          · rwa [List.map_nil, List.append_nil]
          · rwa [List.map_nil, List.append_nil]
          · rw [add_of_defined distinct met]
            rfl
      | none =>
          have absent : m.name ∉ defined.map (·.2.name) := origin?_eq_none_iff.mp met
          have still : DistinctNames (defined ++ [(source.name, m)]) := by
            rw [DistinctNames, List.map_append, List.map_singleton, ← List.concat_eq_append]
            exact distinct.concat absent
          have step : (holding defined).add source m >>= (fun l => rest.foldlM (add source) l) =
              rest.foldlM (add source) (holding (defined ++ [(source.name, m)])) := by
            rw [add_of_new met]
            rfl
          rw [step, List.map_cons, List.append_cons]
          rcases ih still with added | ⟨earlier, n, later, first, split, kept, again, failed⟩
          · exact .inl added
          · refine .inr ⟨m :: earlier, n, later, first, ?_, ?_, ?_, failed⟩
            · rw [split, List.cons_append]
            · rwa [List.map_cons, List.append_cons]
            · rwa [List.map_cons, List.append_cons]

end LoadedModules

/-! ### Files -/

/-- Why loading stops at a file, once these modules are met in the files before it. -/
inductive FileTree.StopsAt (t : FileTree) (defined : List (String × Module)) (path : String) :
    LoadError → Prop where
  | unreadable {fault : FileFault} (unread : t.read path = .error fault) :
      StopsAt t defined path (.unreadable path fault)
  | unparsed {content : String} {fault : Json.Fault} (there : t.read path = .ok content)
      (broken : readModules content.toList = .error fault) :
      StopsAt t defined path (.badSchema ⟨path, content.toList⟩ fault)
  | defined {content : String} {earlier later : List Module} {m : Module} {first : String}
      (there : t.read path = .ok content)
      (found : readModules content.toList = .ok (earlier ++ m :: later))
      (distinct : DistinctNames (defined ++ earlier.map (path, ·)))
      (again : origin? (defined ++ earlier.map (path, ·)) m.name = some first) :
      StopsAt t defined path (.invalid ⟨path, content.toList⟩ (.moduleTwice m.name first) none)

section Loading

variable {t : FileTree} {paths : List String}

open LoadedModules (holding)

theorem addDocument_outcome (t : FileTree) (path : String) {defined : List (String × Module)}
    (distinct : DistinctNames defined) (rest : List String) :
    (∃ modules, t.modules? path = some modules ∧
      DistinctNames (defined ++ modules.map (path, ·)) ∧
      (loadModules FileTree.load (path :: rest) (holding defined)).run t =
        (loadModules FileTree.load rest (holding (defined ++ modules.map (path, ·)))).run t) ∨
    ∃ e, t.StopsAt defined path e ∧
      (loadModules FileTree.load (path :: rest) (holding defined)).run t = (.error e, t) := by
  have answer : (FileTree.load path).run t = (t.read path, t) := rfl
  rw [loadModules, StateT.run_bind, answer]
  cases there : t.read path with
  | error fault => exact .inr ⟨_, .unreadable there, rfl⟩
  | ok content =>
      simp only [bind, LoadedModules.addDocument]
      cases parsed : readModules content.toList with
      | error fault => exact .inr ⟨_, .unparsed there parsed, rfl⟩
      | ok modules =>
          have found : t.modules? path = some modules := by
            simp only [FileTree.modules?, there, parsed]
            rfl
          simp only
          rcases LoadedModules.foldlM_add ⟨path, content.toList⟩ modules distinct with
            ⟨still, added⟩ | ⟨earlier, m, later, first, rfl, kept, again, failed⟩
          · rw [added]
            exact .inl ⟨modules, found, still, rfl⟩
          · rw [failed]
            exact .inr ⟨_, .defined there parsed kept again, rfl⟩

theorem loadModules_outcome (t : FileTree) (paths : List String)
    {defined : List (String × Module)} (distinct : DistinctNames defined) :
    ((∀ path ∈ paths, (t.modules? path).isSome) ∧
      DistinctNames (defined ++ t.definitions paths) ∧
      (loadModules FileTree.load paths (holding defined)).run t =
        (.ok (holding (defined ++ t.definitions paths)), t)) ∨
    ∃ before path after e, paths = before ++ path :: after ∧
      (∀ other ∈ before, (t.modules? other).isSome) ∧
      DistinctNames (defined ++ t.definitions before) ∧
      t.StopsAt (defined ++ t.definitions before) path e ∧
      (loadModules FileTree.load paths (holding defined)).run t = (.error e, t) := by
  have none : defined ++ t.definitions [] = defined := List.append_nil defined
  induction paths generalizing defined with
  | nil =>
      rw [none]
      exact .inl ⟨nofun, distinct, rfl⟩
  | cons path rest ih =>
      rcases addDocument_outcome t path distinct rest with
        ⟨modules, found, still, step⟩ | ⟨e, stops, failed⟩
      · have parses : (t.modules? path).isSome := Option.isSome_iff_exists.mpr ⟨modules, found⟩
        have met (paths : List String) : defined ++ t.definitions (path :: paths) =
            defined ++ modules.map (path, ·) ++ t.definitions paths := by
          rw [FileTree.definitions_cons found, List.append_assoc]
        rw [step, met]
        rcases ih still (List.append_nil _) with
          ⟨each, kept, loaded⟩ | ⟨before, other, after, e, split, each, kept, stops, failed⟩
        · exact .inl ⟨List.forall_mem_cons.mpr ⟨parses, each⟩, kept, loaded⟩
        · refine .inr ⟨path :: before, other, after, e, ?_, ?_, ?_, ?_, failed⟩
          · rw [split, List.cons_append]
          · exact List.forall_mem_cons.mpr ⟨parses, each⟩
          · rwa [met]
          · rwa [met]
      · refine .inr ⟨[], path, rest, e, rfl, nofun, ?_, ?_, failed⟩
        · rwa [none]
        · rwa [none]

theorem loadSchema_outcome (t : FileTree) (paths : List String) :
    (t.Loadable paths ∧
      (loadSchema FileTree.load paths).run t = (.ok ⟨t.modulesAt paths⟩, t)) ∨
    ∃ before path after e, paths = before ++ path :: after ∧ t.Loadable before ∧
      t.StopsAt (t.definitions before) path e ∧
      (loadSchema FileTree.load paths).run t = (.error e, t) := by
  have nothing : LoadedModules.empty = holding [] := rfl
  have distinct : DistinctNames [] := List.nodup_nil
  rw [loadSchema, StateT.run_bind, nothing]
  rcases loadModules_outcome t paths distinct with
    ⟨each, kept, loaded⟩ | ⟨before, path, after, e, split, each, kept, stops, failed⟩
  · refine .inl ⟨⟨each, FileTree.distinctNames_definitions.mp kept⟩, ?_⟩
    rw [loaded, ← t.definitions_modules]
    rfl
  · refine .inr ⟨before, path, after, e, split, ?_, stops, ?_⟩
    · exact ⟨each, FileTree.distinctNames_definitions.mp kept⟩
    · rw [failed]
      rfl

/-- Files past one that stops the loading do not help. -/
theorem FileTree.StopsAt.not_loadable {before after : List String} {path : String} {e : LoadError}
    (stops : t.StopsAt (t.definitions before) path e) : ¬ t.Loadable (before ++ path :: after) := by
  intro loadable
  have parses := loadable.parses path (List.mem_append_right before List.mem_cons_self)
  have distinct := distinctNames_definitions.mpr loadable.distinct
  cases stops with
  | unreadable unread =>
      rw [modules?, unread] at parses
      cases parses
  | unparsed there broken =>
      simp only [modules?, there, broken] at parses
      cases parses
  | @defined content earlier later m first there parsed kept again =>
      have found : t.modules? path = some (earlier ++ m :: later) := by
        simp only [modules?, there, parsed]
        rfl
      obtain ⟨other, member, named⟩ := mem_of_origin? again
      have met : t.definitions (before ++ path :: after) =
          (t.definitions before ++ earlier.map (path, ·)) ++
            (path, m) :: (later.map (path, ·) ++ t.definitions after) := by
        rw [definitions, List.flatMap_append]
        refine (congrArg (t.definitions before ++ ·) (definitions_cons found after)).trans ?_
        simp only [List.map_append, List.map_cons, List.append_assoc, List.cons_append]
      rw [met, DistinctNames, List.map_append, List.map_cons] at distinct
      have twice : m.name ∈ (t.definitions before ++ earlier.map (path, ·)).map (·.2.name) :=
        List.mem_map.mpr ⟨(first, other), member, named⟩
      exact (List.nodup_append.mp distinct).2.2 _ twice _ List.mem_cons_self rfl

theorem loadSchema_run (loadable : t.Loadable paths) :
    (loadSchema FileTree.load paths).run t = (.ok (.ofModules (t.modulesAt paths)), t) := by
  rw [Schema.ofModules_of_distinct loadable.distinct]
  rcases loadSchema_outcome t paths with ⟨_, loaded⟩ | ⟨before, path, after, e, rfl, _, stops, _⟩
  · exact loaded
  · exact absurd loadable stops.not_loadable

end Loading

end SchemaBindings
