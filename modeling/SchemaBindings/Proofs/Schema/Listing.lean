import SchemaBindings.Proofs.Failure
import SchemaBindings.Proofs.Schema.DeclKeys
import SchemaBindings.Resolve.Table
import SchemaBindings.Target.Mapper

/-!
What is listed in a schema against what is found there. Listing goes by the name that a declaration
carries, lookup by the key it is stored under. Nothing makes the two one but the keys themselves.
-/

namespace SchemaBindings

namespace Schema

/-- Modules have names of their own, and each declaration is stored under the name it carries. -/
structure OwnNames (s : Schema) : Prop where
  modules : (s.modules.map (·.name)).Nodup
  decls : ∀ m ∈ s.modules, ∀ stored ∈ m.decls, stored.2.name = stored.1

variable {s : Schema} {name : ScopedName} {decl : Decl}

theorem mem_sortedModules {m : Module} : m ∈ s.sortedModules ↔ m ∈ s.modules :=
  (sortBy_perm _ s.modules).mem_iff

theorem mem_decls_iff :
    (name, decl) ∈ s.decls ↔
      ∃ m ∈ s.modules, m.name = name.moduleName ∧ ∃ key, (key, decl) ∈ m.decls ∧
        decl.name = name.name := by
  constructor
  · intro listed
    obtain ⟨m, sorted, among⟩ := List.mem_flatMap.mp listed
    obtain ⟨⟨key, stored⟩, declared, same⟩ := List.mem_map.mp among
    obtain ⟨rfl, rfl⟩ := Prod.mk.inj same
    exact ⟨m, mem_sortedModules.mp sorted, rfl, key, declared, rfl⟩
  · rintro ⟨m, member, named, key, declared, carried⟩
    rcases name with ⟨_, _⟩
    cases named
    cases carried
    exact List.mem_flatMap.mpr
      ⟨m, mem_sortedModules.mpr member, List.mem_map.mpr ⟨_, declared, rfl⟩⟩

theorem map_decls (s : Schema) :
    s.decls.map (·.1) =
      s.sortedModules.flatMap fun m => m.decls.map fun stored => ⟨m.name, stored.2.name⟩ := by
  rw [decls, List.map_flatMap]
  simp only [List.map_map, Function.comp_def]

/-! ### Tables and bound types -/

theorem listed_of_tables {tables : List Table} (found : s.tables = .ok tables) {table : Table}
    (member : table ∈ tables) : (table.name, table.decl) ∈ s.decls := by
  obtain ⟨⟨name, decl⟩, listed, made⟩ := exists_of_mapM found member
  have told : table.name = name ∧ table.decl = decl := by
    unfold Table.ofDecl at made
    obtain ⟨settings, _, made⟩ := bind_eq_ok_iff.mp made
    split at made
    · cases made
      exact ⟨rfl, rfl⟩
    · cases made
  rw [told.1, told.2]
  exact (List.mem_filter.mp listed).1

theorem listed_of_customTypes {runtimeAlias text : String} {natives : Natives}
    (found : s.customTypes runtimeAlias = .ok natives) (member : (name, text) ∈ natives) :
    ∃ decl custom, (name, decl) ∈ s.decls ∧
      customTypeMark.get? decl.annotations name.text = .ok (some custom) ∧
      text = custom.path runtimeAlias := by
  obtain ⟨bindings, each, kept⟩ := bind_eq_ok_iff.mp found
  cases kept
  obtain ⟨binding, among, rfl⟩ := List.mem_filterMap.mp member
  obtain ⟨⟨other, decl⟩, listed, made⟩ := exists_of_mapM each among
  obtain ⟨custom?, read, made⟩ := bind_eq_ok_iff.mp made
  cases custom? with
  | none => cases made
  | some custom =>
      cases made
      exact ⟨decl, custom, listed, read, rfl⟩

/-! ### Agreement -/

theorem Indexed.mem_decls_iff (indexed : s.Indexed) :
    (name, decl) ∈ s.decls ↔
      decl.name = name.name ∧ ∃ key, s.get? ⟨name.moduleName, key⟩ = some decl := by
  rw [Schema.mem_decls_iff]
  constructor
  · rintro ⟨m, member, named, key, declared, carried⟩
    exact ⟨carried, key, indexed.get?_eq_some_iff.mpr ⟨m, member, named, declared⟩⟩
  · rintro ⟨carried, key, found⟩
    obtain ⟨m, member, named, declared⟩ := get?_declared found
    exact ⟨m, member, named, key, declared, carried⟩

theorem OwnNames.get?_of_mem_decls (own : s.OwnNames) (indexed : s.Indexed)
    (listed : (name, decl) ∈ s.decls) : s.get? name = some decl := by
  obtain ⟨m, member, named, key, declared, carried⟩ := mem_decls_iff.mp listed
  have same : key = name.name := (own.decls m member _ declared).symm.trans carried
  exact indexed.get?_eq_some_iff.mpr ⟨m, member, named, same ▸ declared⟩

theorem OwnNames.nodup_decls (own : s.OwnNames) (indexed : s.Indexed) :
    (s.decls.map (·.1)).Nodup := by
  rw [map_decls]
  refine List.nodup_flatMap.mpr ⟨?_, ?_⟩
  · intro m sorted
    have keyed : (m.decls.map fun stored => (⟨m.name, stored.2.name⟩ : ScopedName)) =
        (m.decls.map (·.1)).map (⟨m.name, ·⟩) := by
      rw [List.map_map]
      refine List.map_congr_left ?_
      intro stored declared
      rw [own.decls m (mem_sortedModules.mp sorted) stored declared]
      rfl
    rw [keyed]
    exact (indexed.keys m (mem_sortedModules.mp sorted)).map fun _ _ same =>
      (ScopedName.mk.inj same).2
  · have distinct : (s.sortedModules.map (·.name)).Nodup :=
      ((sortBy_perm _ s.modules).map (·.name)).nodup_iff.mpr indexed.names
    refine (List.pairwise_map.mp distinct).imp ?_
    intro m other apart name first second
    obtain ⟨_, _, rfl⟩ := List.mem_map.mp first
    obtain ⟨_, _, same⟩ := List.mem_map.mp second
    exact apart (ScopedName.mk.inj same).1.symm

/-- A declaration found by the name it carries is stored under it. If its key were another, the name
would be listed for both. -/
theorem Indexed.ownNames_of_agree (indexed : s.Indexed)
    (agree : ∀ listed ∈ s.decls, s.get? listed.1 = some listed.2)
    (once : (s.decls.map (·.1)).Nodup) : s.OwnNames where
  modules := indexed.names
  decls := by
    rintro m member ⟨key, decl⟩ declared
    have found := agree (⟨m.name, decl.name⟩, decl)
      (Schema.mem_decls_iff.mpr ⟨m, member, rfl, key, declared, rfl⟩)
    obtain ⟨other, present, named, again⟩ := get?_declared found
    have same : other = m := List.inj_on_of_nodup_map indexed.names present member named
    subst same
    rw [map_decls] at once
    have apart := (List.nodup_flatMap.mp once).1 other (mem_sortedModules.mpr member)
    exact (Prod.mk.inj (List.inj_on_of_nodup_map apart again declared rfl)).1

end Schema

end SchemaBindings
