import SchemaBindings.Proofs.Artifact.TableTypes
import SchemaBindings.Sample.Protoapp

/-!
Row interfaces and column specifications tell the same of the tables of a schema. The name of a
table and of its columns come from the declaration and its annotations alone, whichever way the
types of the fields are decoded.
-/

namespace SchemaBindings

/-- The name of a table, the columns of its fields, and whether a column `id` is put before them. -/
structure TableColumns where
  tableName : String
  addsId : Bool
  fieldColumns : List String
  deriving DecidableEq, Repr

namespace TableColumns

def columns (t : TableColumns) : List String :=
  (if t.addsId then ["id"] else []) ++ t.fieldColumns

end TableColumns

/-- The column of a field is named by its annotation, else after the field. -/
def Field.HasColumn (owner : ScopedName) (field : Field) (column : String) : Prop :=
  ∃ named, columnNameMark.get? field.annotations (owner.text ++ "." ++ field.name) = .ok named ∧
    column = named.getD (Text.snakeCase field.name)

/-- The column `id` is added where it is asked for and no field has it. -/
structure Table.HasColumns (table : Table) (t : TableColumns) : Prop where
  tableName : t.tableName = table.tableName
  addsId : t.addsId = (table.settings.withIdPrimaryKey && !t.fieldColumns.contains "id")
  fieldColumns : List.Forall₂ (Field.HasColumn table.name) table.fields t.fieldColumns

theorem Field.hasColumn_unique {owner : ScopedName} {field : Field} {column other : String}
    (has : field.HasColumn owner column) (hasOther : field.HasColumn owner other) :
    column = other := by
  obtain ⟨named, found, rfl⟩ := has
  obtain ⟨named', found', rfl⟩ := hasOther
  cases found.symm.trans found'
  rfl

namespace Table.HasColumns

variable {table : Table} {t u : TableColumns}

theorem unique (has : table.HasColumns t) (hasOther : table.HasColumns u) : t = u := by
  have single : Relator.RightUnique (Field.HasColumn table.name) :=
    fun _ _ _ => Field.hasColumn_unique
  have columns : t.fieldColumns = u.fieldColumns :=
    List.right_unique_forall₂' single has.fieldColumns hasOther.fieldColumns
  have name := has.tableName.trans hasOther.tableName.symm
  have id : t.addsId = u.addsId := by rw [has.addsId, hasOther.addsId, columns]
  cases t
  cases u
  simp_all

end Table.HasColumns

def ResolvedTable.told (t : ResolvedTable) : TableColumns :=
  ⟨t.table.tableName, t.addsId, t.fields.map (·.columnName)⟩

/-- Decoding the type of a field has no part in its column. -/
theorem resolveField_hasColumn {d : Decoder} {owner : ScopedName} {field : Field}
    {f : ResolvedField} (done : resolveField d owner field = .ok f) :
    field.HasColumn owner f.columnName := by
  unfold resolveField at done
  obtain ⟨decoded, _, done⟩ := bind_eq_ok_iff.mp done
  obtain ⟨named, found, done⟩ := bind_eq_ok_iff.mp done
  obtain ⟨primaryKey, _, done⟩ := bind_eq_ok_iff.mp done
  obtain ⟨doc, _, made⟩ := bind_eq_ok_iff.mp done
  obtain rfl := Except.ok.inj made
  exact ⟨named, found, rfl⟩

theorem resolveTable_hasColumns {d : Decoder} {table : Table} {t : ResolvedTable}
    (done : resolveTable d table = .ok t) : table.HasColumns t.told := by
  obtain ⟨fields, each, made⟩ := bind_eq_ok_iff.mp done
  obtain rfl := Except.ok.inj made
  have present : fields.any (·.columnName == "id") =
      (fields.map (·.columnName)).contains "id" := by
    rw [List.contains_eq_any_beq, List.any_map]
    exact congrArg (fields.any ·) (funext fun f => Bool.beq_comm)
  refine ⟨rfl, ?_, ?_⟩
  · rw [ResolvedTable.told, ResolvedTable.addsId, present]
  · rw [ResolvedTable.told, List.forall₂_map_right_iff]
    exact (forall₂_of_mapM each).flip.imp fun field f => resolveField_hasColumn

theorem columnAccessor_of_fieldAccessor {i : Imports} {keyType : String} {f : ResolvedField}
    {accessor : Items.Function} (done : fieldAccessor i keyType f = .ok accessor) :
    ∃ type, accessor = columnAccessor (rustNaming.memberName f.name) f.columnName type f.doc := by
  unfold fieldAccessor at done
  by_cases primary : f.primaryKey = true
  · rw [if_pos primary] at done
    obtain rfl := Except.ok.inj done
    exact ⟨keyType, rfl⟩
  · rw [if_neg primary] at done
    obtain ⟨type, _, made⟩ := bind_eq_ok_iff.mp done
    obtain rfl := Except.ok.inj made
    exact ⟨type, rfl⟩

theorem Items.File.body_addUses (f : Items.File) (uses : List Items.Use) :
    (f.addUses uses).body = f.body := by
  unfold addUses
  induction uses generalizing f with
  | nil => rfl
  | cons u rest ih => exact ih (f.addUse u)

theorem Items.File.body_beginGroup (f : Items.File) : f.beginGroup.body = f.body := by
  unfold beginGroup
  split <;> rfl

namespace Sample

def applicationTables : TablesGenerator := .new "tables.ts"

def applicationColumns : ColumnsGenerator := .new "columns.rs"

end Sample

end SchemaBindings
