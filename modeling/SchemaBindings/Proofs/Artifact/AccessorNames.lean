import Mathlib.Data.List.Nodup
import SchemaBindings.Proofs.Artifact.ImportBlocks
import SchemaBindings.Proofs.Artifact.TableColumns
import SchemaBindings.Proofs.Text.Words

/-!
Names of column accessors. Escaping keeps the names of two members apart exactly as far as their
snake case does, so the functions of a block have one name twice only where two fields are spelled
alike or where a field is spelled like a function that every block has, or like the `id` that is
added for want of a column of that name.
-/

namespace SchemaBindings

open Text (snakeCase)

/-! ### Members in snake case -/

/-- A keyword is marked in a way that snake case never is. -/
theorem rustEscape_marked (name : String) :
    '#' ∈ (rustEscape name).toList ∨ (rustEscape name).toList.getLast? = some '_' := by
  unfold rustEscape
  split
  · exact .inr (by simp)
  · exact .inl (by simp)

theorem rustEscape_ne_snakeCase (name s : String) : rustEscape name ≠ snakeCase s := by
  intro same
  rcases rustEscape_marked name with member | last
  · exact Text.hash_not_mem_snakeCase s (same ▸ member)
  · exact Text.getLast?_snakeCase_ne s (same ▸ last)

theorem rustEscape_inj {name other : String} (plain : '#' ∉ name.toList)
    (otherPlain : '#' ∉ other.toList) (same : rustEscape name = rustEscape other) :
    name = other := by
  have mixed : ∀ raw marked : String, '#' ∉ marked.toList → "r#" ++ raw ≠ marked ++ "_" := by
    intro raw marked absent same
    have member : '#' ∈ (marked ++ "_").toList := same ▸ by simp
    simp [absent] at member
  unfold rustEscape at same
  split at same <;> split at same
  · exact (String.append_left_inj "_").mp same
  · exact absurd same.symm (mixed other name plain)
  · exact absurd same (mixed name other otherPlain)
  · exact (String.append_right_inj "r#").mp same

theorem escaped_or_kept (s : String) : rustNaming.memberName s = rustEscape (snakeCase s) ∨
    rustNaming.memberName s = snakeCase s := by
  unfold Naming.memberName Naming.safeName
  split
  · exact .inl rfl
  · exact .inr rfl

theorem rustNaming_memberName_inj {s t : String} :
    rustNaming.memberName s = rustNaming.memberName t ↔ snakeCase s = snakeCase t := by
  constructor
  · intro same
    rcases escaped_or_kept s with first | first <;>
      rcases escaped_or_kept t with second | second <;> rw [first, second] at same
    · exact rustEscape_inj (Text.hash_not_mem_snakeCase s) (Text.hash_not_mem_snakeCase t) same
    · exact absurd same (rustEscape_ne_snakeCase _ t)
    · exact absurd same.symm (rustEscape_ne_snakeCase _ s)
    · exact same
  · intro same
    exact congrArg rustNaming.safeName same

/-! ### Names of the functions of a block -/

namespace ResolvedTable

def fixedNames (t : ResolvedTable) : List String :=
  "table_str" :: "table" :: if t.addsId then ["id"] else []

theorem fixedNames_nodup (t : ResolvedTable) : t.fixedNames.Nodup := by
  unfold fixedNames
  cases t.addsId <;> decide

theorem snakeCase_fixedName {t : ResolvedTable} {name : String} (member : name ∈ t.fixedNames) :
    snakeCase name = name ∧ rustNaming.memberName name = name := by
  have known : ∀ name ∈ ["table_str", "table", "id"],
      snakeCase name = name ∧ rustNaming.memberName name = name := by decide +kernel
  have among : name ∈ ["table_str", "table", "id"] := by
    unfold fixedNames at member
    cases added : t.addsId <;> rw [added] at member
    · exact List.mem_append_left ["id"] member
    · exact member
  exact known name among

theorem memberName_mem_fixedNames {t : ResolvedTable} {name : String} :
    rustNaming.memberName name ∈ t.fixedNames ↔ snakeCase name ∈ t.fixedNames := by
  constructor
  · intro member
    obtain ⟨snake, kept⟩ := snakeCase_fixedName member
    have same := rustNaming_memberName_inj.mp kept
    rwa [← same, snake]
  · intro member
    obtain ⟨snake, kept⟩ := snakeCase_fixedName member
    have same := rustNaming_memberName_inj.mpr snake
    rwa [← same, kept]

end ResolvedTable

theorem names_of_tableItems {i : Imports} {keyPath : String} {t : ResolvedTable}
    {item : Items.UnitStruct × Items.Implementation}
    (done : tableItems i keyPath t = .ok item) :
    item.2.methods.map (·.name) =
      t.fixedNames ++ t.fields.map fun f => rustNaming.memberName f.name := by
  unfold tableItems at done
  obtain ⟨row, _, done⟩ := bind_eq_ok_iff.mp done
  obtain ⟨doc, _, done⟩ := bind_eq_ok_iff.mp done
  obtain ⟨accessors, each, made⟩ := bind_eq_ok_iff.mp done
  obtain rfl := Except.ok.inj made
  have fields : accessors.map (·.name) = t.fields.map fun f => rustNaming.memberName f.name := by
    refine map_eq_of_mapM each fun f accessor written => ?_
    obtain ⟨type, rfl⟩ := columnAccessor_of_fieldAccessor written
    rfl
  rw [List.map_append, List.map_append, fields]
  unfold ResolvedTable.fixedNames
  cases t.addsId <;> rfl

theorem fieldNames_of_resolveTable {d : Decoder} {table : Table} {t : ResolvedTable}
    (done : resolveTable d table = .ok t) :
    t.table = table ∧ t.fields.map (·.name) = table.fields.map (·.name) := by
  obtain ⟨fields, each, made⟩ := bind_eq_ok_iff.mp done
  obtain rfl := Except.ok.inj made
  refine ⟨rfl, map_eq_of_mapM each fun field f resolved => ?_⟩
  unfold resolveField at resolved
  obtain ⟨_, _, resolved⟩ := bind_eq_ok_iff.mp resolved
  obtain ⟨_, _, resolved⟩ := bind_eq_ok_iff.mp resolved
  obtain ⟨_, _, resolved⟩ := bind_eq_ok_iff.mp resolved
  obtain ⟨_, _, made⟩ := bind_eq_ok_iff.mp resolved
  obtain rfl := Except.ok.inj made
  rfl

theorem nodup_memberNames {names : List String} :
    (names.map rustNaming.memberName).Nodup ↔ (names.map snakeCase).Nodup := by
  simp only [List.Nodup, List.pairwise_map, ne_eq, rustNaming_memberName_inj]

theorem nodup_accessors {t : ResolvedTable} {names : List String} :
    (t.fixedNames ++ names.map rustNaming.memberName).Nodup ↔
      (names.map snakeCase).Nodup ∧ ∀ name ∈ names, snakeCase name ∉ t.fixedNames := by
  rw [List.nodup_append', List.disjoint_right, nodup_memberNames]
  simp only [t.fixedNames_nodup, true_and, List.forall_mem_map, t.memberName_mem_fixedNames]

namespace ColumnsGenerator

variable {g : ColumnsGenerator} {s : Schema}
  {items : List (ResolvedTable × Items.UnitStruct × Items.Implementation)}
  {entries : List ModuleImport} {file : Items.File} {a : Artifact}

theorem Run.body (run : g.Run s items entries file a) :
    file.body = items.flatMap fun item => [item.2.1.fragments, item.2.2.fragments] := by
  obtain ⟨imports, itemed, block⟩ := run.settled
  have filed := run.filed
  simp only [ColumnsGenerator.file, itemed, bind, Except.bind, block, pure, Except.pure] at filed
  cases filed
  simp only [Items.File.addAll, Items.File.body_addUses, Items.File.body_beginGroup]
  rfl

theorem Run.made (run : g.Run s items entries file a) :
    s.tables = .ok (items.map (·.1.table)) ∧
    ∀ item ∈ items, resolveTable (columnDecoder s) item.1.table = .ok item.1 ∧
      ∃ i keyPath, tableItems i keyPath item.1 = .ok item.2 := by
  obtain ⟨imports, itemed, _⟩ := run.settled
  rw [columnItems_eq] at itemed
  obtain ⟨tables, found, itemed⟩ := bind_eq_ok_iff.mp itemed
  obtain ⟨natives, _, itemed⟩ := bind_eq_ok_iff.mp itemed
  obtain ⟨resolved, done, itemed⟩ := bind_eq_ok_iff.mp itemed
  obtain ⟨blocks, written, itemed⟩ := bind_eq_ok_iff.mp itemed
  obtain ⟨rfl, rfl⟩ := Prod.mk.inj (Except.ok.inj itemed)
  have each := (forall₂_of_mapM written).flip
  have own : ∀ table t, resolveTable (columnDecoder s) table = .ok t → t.table = table :=
    fun table t resolves => (fieldNames_of_resolveTable resolves).1
  have firsts : (resolved.zip blocks).map Prod.fst = resolved :=
    List.map_fst_zip (Nat.le_of_eq each.length_eq)
  constructor
  · have listed : resolved.map (·.table) = tables.map id := map_eq_of_mapM done own
    have parted : ((resolved.zip blocks).map Prod.fst).map (·.table) =
        (resolved.zip blocks).map (·.1.table) := List.map_map
    rw [found, ← parted, firsts, listed, List.map_id]
  · intro item member
    obtain ⟨table, _, resolves⟩ := exists_of_mapM done (List.of_mem_zip member).1
    refine ⟨?_, _, _, List.forall₂_zip each member⟩
    rw [own table item.1 resolves, resolves]

end ColumnsGenerator

/--
The text of a run is that of one struct and one block for each table, and the functions of a block
have distinct names exactly when the fields of its table are distinct in snake case and none of them
is then a name the block has without them. Such names are `table_str` and `table`, and `id` where
it is asked for and no field has a column of that name, whatever the fields themselves are called.
-/
theorem accessors_distinct_iff {g : ColumnsGenerator} {s : Schema} {a : Artifact}
    (made : g.generate s = .ok a) :
    ∃ items entries file, g.Run s items entries file a ∧
      file.body = items.flatMap (fun item => [item.2.1.fragments, item.2.2.fragments]) ∧
      s.tables = .ok (items.map (·.1.table)) ∧
      ∀ item ∈ items, item.1.table.HasColumns item.1.told ∧
        ((item.2.2.methods.map (·.name)).Nodup ↔
          (item.1.table.fields.map (snakeCase ·.name)).Nodup ∧
          ∀ field ∈ item.1.table.fields, snakeCase field.name ∉ item.1.fixedNames) := by
  obtain ⟨items, entries, file, run⟩ := ColumnsGenerator.run_of_generate made
  obtain ⟨tables, each⟩ := run.made
  refine ⟨items, entries, file, run, run.body, tables, ?_⟩
  intro item member
  obtain ⟨resolves, i, keyPath, written⟩ := each item member
  refine ⟨resolveTable_hasColumns resolves, ?_⟩
  have names : item.2.2.methods.map (·.name) = item.1.fixedNames ++
      (item.1.table.fields.map (·.name)).map rustNaming.memberName := by
    rw [names_of_tableItems written, ← (fieldNames_of_resolveTable resolves).2, List.map_map]
    rfl
  rw [names, nodup_accessors, List.map_map, List.forall_mem_map]
  rfl

namespace Sample

theorem protoapp_accessors : ∃ a items entries file,
    applicationColumns.generate protoapp = .ok a ∧
    applicationColumns.Run protoapp items entries file a ∧
    file.body = items.flatMap (fun item => [item.2.1.fragments, item.2.2.fragments]) ∧
    protoapp.tables = .ok (items.map (·.1.table)) ∧
    ∀ item ∈ items, item.1.table.HasColumns item.1.told ∧
      ((item.2.2.methods.map (·.name)).Nodup ↔
        (item.1.table.fields.map (snakeCase ·.name)).Nodup ∧
        ∀ field ∈ item.1.table.fields, snakeCase field.name ∉ item.1.fixedNames) := by
  have done : error? (applicationColumns.generate protoapp) = none := by decide +kernel
  obtain ⟨a, made⟩ := error?_eq_none_iff.mp done
  obtain ⟨items, entries, file, told⟩ := accessors_distinct_iff made
  exact ⟨a, items, entries, file, made, told⟩

def reservations : Schema :=
  .ofModules
    [moduleOf "app.store"
      [table (struct "Reservation"
         [annotated (field "id" (prim "String")) "common.db" "DbColumnName" (.string "code"),
          field "table" (prim "String")])
       [("withIdPrimaryKey", .bool true)]]]

/-- The fields differ in snake case, and two names are given twice nevertheless. -/
theorem reservations_accessors : ∃ a items entries file,
    applicationColumns.generate reservations = .ok a ∧
    applicationColumns.Run reservations items entries file a ∧
    items.map (fun item => item.1.table.fields.map (snakeCase ·.name)) = [["id", "table"]] ∧
    items.map (fun item => item.2.2.methods.map (·.name)) =
      [["table_str", "table", "id", "id", "table"]] := by
  have done : error? (applicationColumns.generate reservations) = none := by decide +kernel
  have written : (applicationColumns.columnItems reservations).toOption.map
      (fun parts => (parts.1.map (fun item => item.1.table.fields.map (snakeCase ·.name)),
        parts.1.map fun item => item.2.2.methods.map (·.name))) =
      some ([["id", "table"]], [["table_str", "table", "id", "id", "table"]]) := by
    decide +kernel
  obtain ⟨a, made⟩ := error?_eq_none_iff.mp done
  obtain ⟨items, entries, file, run⟩ := ColumnsGenerator.run_of_generate made
  obtain ⟨imports, itemed, _⟩ := run.settled
  rw [itemed] at written
  obtain ⟨fields, names⟩ := Prod.mk.inj (Option.some.inj written)
  exact ⟨a, items, entries, file, made, run, fields, names⟩

end Sample

end SchemaBindings
