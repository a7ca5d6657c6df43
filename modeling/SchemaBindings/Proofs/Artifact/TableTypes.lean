import SchemaBindings.Artifact.Columns
import SchemaBindings.Proofs.Imports.Coverage
import SchemaBindings.Proofs.Resolve.SchemaFaults

/-!
The types of tables: resolving the tables registers the types of their columns, and whatever is
asked of the settled imports afterwards was registered there.
-/

namespace SchemaBindings

open GenerationError (IsSchemaFault)

theorem registerDecoded_eq {i : Imports} (opened : i.settled = none) (ds : List Decoded) :
    registerDecoded i ds = .ok (i.record (ds.flatMap Decoded.wanted)) := by
  induction ds generalizing i with
  | nil => rfl
  | cons d rest ih =>
      have still : (i.record d.wanted).settled = none := opened
      rw [registerDecoded, Imports.addDecoded_eq opened]
      calc
        registerDecoded (i.record d.wanted) rest =
            .ok ((i.record d.wanted).record (rest.flatMap Decoded.wanted)) := ih still
        _ = .ok (i.record ((d :: rest).flatMap Decoded.wanted)) := by
            rw [Imports.record_append, List.flatMap_cons]

theorem resolveTable_schemaFault (d : Decoder) (table : Table) :
    FailsOnly IsSchemaFault (resolveTable d table) := by
  refine .bind (.mapM fun field _ => resolveField_schemaFault d table.name field) ?_
  intro fields _
  exact .ok _

theorem resolveTable_table {d : Decoder} {table : Table} {t : ResolvedTable}
    (done : resolveTable d table = .ok t) : t.table = table := by
  rcases bind_eq_ok_iff.mp done with ⟨fields, _, made⟩
  cases made
  rfl

namespace ResolvedTable

def rowTypes (t : ResolvedTable) : List Wanted :=
  (t.fields.map (·.decoded)).flatMap Decoded.wanted

def columnTypes (t : ResolvedTable) : List Wanted :=
  (rowType t.table).wanted ++
    ((t.fields.filter (!·.primaryKey)).map (·.decoded)).flatMap Decoded.wanted

end ResolvedTable

/-- Resolving tables one after the other, each recording what it wants before the next, is one
traversal of the tables and one record. -/
theorem threaded_eq {d : Decoder} {wanted : ResolvedTable → List Wanted}
    {thread : List Table → Imports → Except GenerationError (List ResolvedTable × Imports)}
    (stop : ∀ i, thread [] i = .ok ([], i))
    (step : ∀ table rest (i : Imports), i.settled = none →
      thread (table :: rest) i = (do
        let t ← resolveTable d table
        let (resolved, i) ← thread rest (i.record (wanted t))
        return (t :: resolved, i)))
    {i : Imports} (opened : i.settled = none) (tables : List Table) :
    thread tables i = (tables.mapM (resolveTable d)).map fun resolved =>
      (resolved, i.record (resolved.flatMap wanted)) := by
  induction tables generalizing i with
  | nil => exact stop i
  | cons table rest ih =>
      rw [step table rest i opened, List.mapM_cons]
      cases resolveTable d table with
      | error e => rfl
      | ok t =>
          have still : (i.record (wanted t)).settled = none := opened
          simp only [bind, Except.bind, ih still]
          cases rest.mapM (resolveTable d) with
          | error e => rfl
          | ok resolved =>
              simp only [Except.map, Imports.record_append]
              rfl

theorem resolveRows_eq (d : Decoder) {i : Imports} (opened : i.settled = none)
    (tables : List Table) :
    resolveRows d tables i = (tables.mapM (resolveTable d)).map fun resolved =>
      (resolved, i.record (resolved.flatMap ResolvedTable.rowTypes)) := by
  refine threaded_eq (fun _ => rfl) ?_ opened tables
  intro table rest i opened
  rw [resolveRows]
  refine congrArg (resolveTable d table >>= ·) (funext fun t => ?_)
  rw [registerDecoded_eq opened]
  rfl

theorem resolveColumns_eq (d : Decoder) {i : Imports} (opened : i.settled = none)
    (tables : List Table) :
    resolveColumns d tables i = (tables.mapM (resolveTable d)).map fun resolved =>
      (resolved, i.record (resolved.flatMap ResolvedTable.columnTypes)) := by
  refine threaded_eq (fun _ => rfl) ?_ opened tables
  intro table rest i opened
  rw [resolveColumns, Imports.addDecoded_eq opened]
  cases resolved : resolveTable d table with
  | error e => rfl
  | ok t =>
      have registered : registerDecoded (i.record (rowType table).wanted)
          ((t.fields.filter (!·.primaryKey)).map (·.decoded)) = .ok (i.record t.columnTypes) := by
        rw [registerDecoded_eq (i := i.record _) opened, Imports.record_append,
          ← resolveTable_table resolved]
        rfl
      simp only [bind, Except.bind, registered]

theorem columnType_ok {i : Imports} (ready : i.Ready) {f : ResolvedField}
    (known : i.KnowsAll f.decoded.wanted) : ∃ type, columnType i f = .ok type := by
  rcases ready.decodedName_ok known with ⟨name, done⟩
  exact ⟨_, by rw [columnType, done]; rfl⟩

theorem rowInterface_ok {i : Imports} (ready : i.Ready) {t : ResolvedTable}
    (known : i.KnowsAll t.rowTypes) : ∃ row, rowInterface i t = .ok row := by
  have each : ∀ f ∈ t.fields, ∃ member, rowMember i f = .ok member ∧ True := by
    intro f member
    rcases columnType_ok ready (known.part (List.mem_map_of_mem member)) with ⟨type, done⟩
    exact ⟨_, by rw [rowMember, done]; rfl, trivial⟩
  rcases mapM_ok_of_forall each with ⟨members, done, _⟩
  exact ⟨_, by rw [rowInterface, done]; rfl⟩

theorem tableItems_schemaFault {i : Imports} (ready : i.Ready) (keyPath : String)
    {t : ResolvedTable} (known : i.KnowsAll t.columnTypes) :
    FailsOnly IsSchemaFault (tableItems i keyPath t) := by
  rcases ready.decodedName_ok known.left with ⟨row, named⟩
  unfold tableItems
  rw [named]
  refine .bind (.ok row) ?_
  intro rowName _
  apply FailsOnly.bind (docComment?_schemaFault _ _)
  intro doc _
  refine .bind (.mapM ?_) ?_
  · intro f member
    unfold fieldAccessor
    by_cases primary : f.primaryKey = true
    · rw [if_pos primary]
      exact .bind (.ok _) fun _ _ => .ok _
    · have column : f.decoded ∈ (t.fields.filter (!·.primaryKey)).map (·.decoded) :=
        List.mem_map_of_mem (List.mem_filter.mpr ⟨member, by simpa using primary⟩)
      rcases columnType_ok ready (known.right.part column) with ⟨type, done⟩
      rw [if_neg primary, done]
      exact .bind (.ok type) fun _ _ => .ok _
  · intro accessors _
    exact .ok _

def rowImports (resolved : List ResolvedTable) : Imports :=
  .settledFor rowMapper .qualified (resolved.flatMap ResolvedTable.rowTypes)

theorem tableRows_eq (s : Schema) :
    tableRows s = (do
      let tables ← s.tables
      let resolved ← tables.mapM (resolveTable (rowDecoder s))
      let rows ← resolved.mapM (rowInterface (rowImports resolved))
      return (resolved.zip rows, rowImports resolved)) := by
  unfold tableRows
  refine congrArg (s.tables >>= ·) (funext fun tables => ?_)
  rw [resolveRows_eq _ rfl]
  cases tables.mapM (resolveTable (rowDecoder s)) with
  | error e => rfl
  | ok resolved =>
      simp only [Except.map, bind, Except.bind]
      have settled : (Imports.record (.new rowMapper)
          (resolved.flatMap ResolvedTable.rowTypes)).settle = .ok (rowImports resolved) :=
        Imports.settle_record rowMapper .qualified _
      simp only [settled]

theorem rowImports_knows {resolved : List ResolvedTable} {t : ResolvedTable}
    (member : t ∈ resolved) : (rowImports resolved).KnowsAll t.rowTypes :=
  (Imports.settledFor_knows _ _ _).part member

theorem tableRows_knows {s : Schema} {rows : List (ResolvedTable × Script.Interface)}
    {i : Imports} (done : tableRows s = .ok (rows, i)) :
    i.Ready ∧ ∀ row ∈ rows, i.KnowsAll row.1.rowTypes := by
  rw [tableRows_eq] at done
  rcases bind_eq_ok_iff.mp done with ⟨tables, _, done⟩
  rcases bind_eq_ok_iff.mp done with ⟨resolved, _, done⟩
  rcases bind_eq_ok_iff.mp done with ⟨interfaces, _, done⟩
  cases done
  refine ⟨Imports.settledFor_ready _ _ _, ?_⟩
  intro row member
  exact rowImports_knows (List.of_mem_zip member).1

theorem tableRows_schemaFault (s : Schema) : FailsOnly IsSchemaFault (tableRows s) := by
  rw [tableRows_eq]
  refine .bind s.tables_schemaFault ?_
  intro tables _
  refine .bind (.mapM fun table _ => resolveTable_schemaFault _ table) ?_
  intro resolved _
  refine .bind (.mapM ?_) fun _ _ => .ok _
  intro t member
  rcases rowInterface_ok (Imports.settledFor_ready _ _ _) (rowImports_knows member) with ⟨row, done⟩
  exact done ▸ .ok row

theorem TablesGenerator.generate_schemaFault (g : TablesGenerator) (s : Schema) :
    FailsOnly IsSchemaFault (g.generate s) := by
  refine .bind (.bind (tableRows_schemaFault s) ?_) fun _ _ => .ok _
  intro made done
  rcases (tableRows_knows done).1.modules_ok with ⟨entries, block⟩
  simp only [block]
  exact .ok _

/-- Once the tables are resolved, nothing keeps their rows from being generated. -/
theorem TablesGenerator.generate_ok (g : TablesGenerator) {s : Schema} {tables : List Table}
    {resolved : List ResolvedTable} (found : s.tables = .ok tables)
    (done : tables.mapM (resolveTable (rowDecoder s)) = .ok resolved) :
    ∃ artifact, g.generate s = .ok artifact := by
  have ready : (rowImports resolved).Ready := Imports.settledFor_ready _ _ _
  have each : ∀ t ∈ resolved, ∃ row, rowInterface (rowImports resolved) t = .ok row ∧ True := by
    intro t member
    rcases rowInterface_ok ready (rowImports_knows member) with ⟨row, written⟩
    exact ⟨row, written, trivial⟩
  rcases mapM_ok_of_forall each with ⟨rows, written, _⟩
  have made : tableRows s = .ok (resolved.zip rows, rowImports resolved) := by
    rw [tableRows_eq, found]
    simp only [bind, Except.bind, done, written]
    rfl
  rcases ready.modules_ok with ⟨entries, block⟩
  unfold generate file
  simp only [made, bind, Except.bind, block]
  exact ⟨_, rfl⟩

def columnImports (natives : Natives) (resolved : List ResolvedTable) : Imports :=
  .settledFor (rustMapper natives) .qualified (resolved.flatMap ResolvedTable.columnTypes)

namespace ColumnsGenerator

theorem columnItems_eq (g : ColumnsGenerator) (s : Schema) :
    g.columnItems s = (do
      let tables ← s.tables
      let natives ← s.customTypes g.runtimeAlias
      let resolved ← tables.mapM (resolveTable (columnDecoder s))
      let items ← resolved.mapM
        (tableItems (columnImports natives resolved) ((natives.find? keyName).getD defaultKeyPath))
      return (resolved.zip items, columnImports natives resolved)) := by
  unfold columnItems
  refine congrArg (s.tables >>= ·) (funext fun tables => ?_)
  refine congrArg (s.customTypes g.runtimeAlias >>= ·) (funext fun natives => ?_)
  simp only [resolveColumns_eq (columnDecoder s) (i := .new (rustMapper natives)) rfl]
  cases tables.mapM (resolveTable (columnDecoder s)) with
  | error e => rfl
  | ok resolved =>
      simp only [Except.map, bind, Except.bind]
      have settled : (Imports.record (.new (rustMapper natives))
          (resolved.flatMap ResolvedTable.columnTypes)).settle =
          .ok (columnImports natives resolved) :=
        Imports.settle_record (rustMapper natives) .qualified _
      simp only [settled]

theorem columnImports_knows {natives : Natives} {resolved : List ResolvedTable} {t : ResolvedTable}
    (member : t ∈ resolved) : (columnImports natives resolved).KnowsAll t.columnTypes :=
  (Imports.settledFor_knows _ _ _).part member

theorem columnItems_knows {g : ColumnsGenerator} {s : Schema}
    {items : List (ResolvedTable × Items.UnitStruct × Items.Implementation)} {i : Imports}
    (done : g.columnItems s = .ok (items, i)) :
    i.Ready ∧ ∀ item ∈ items, i.KnowsAll item.1.columnTypes := by
  rw [columnItems_eq] at done
  rcases bind_eq_ok_iff.mp done with ⟨tables, _, done⟩
  rcases bind_eq_ok_iff.mp done with ⟨natives, _, done⟩
  rcases bind_eq_ok_iff.mp done with ⟨resolved, _, done⟩
  rcases bind_eq_ok_iff.mp done with ⟨made, _, done⟩
  cases done
  refine ⟨Imports.settledFor_ready _ _ _, ?_⟩
  intro item member
  exact columnImports_knows (List.of_mem_zip member).1

theorem columnItems_schemaFault (g : ColumnsGenerator) (s : Schema) :
    FailsOnly IsSchemaFault (g.columnItems s) := by
  rw [columnItems_eq]
  refine .bind s.tables_schemaFault ?_
  intro tables _
  apply FailsOnly.bind (s.customTypes_schemaFault _)
  intro natives _
  refine .bind (.mapM fun table _ => resolveTable_schemaFault _ table) ?_
  intro resolved _
  refine .bind (.mapM ?_) fun _ _ => .ok _
  intro t member
  exact tableItems_schemaFault (Imports.settledFor_ready _ _ _) _ (columnImports_knows member)

theorem generate_schemaFault (g : ColumnsGenerator) (s : Schema) :
    FailsOnly IsSchemaFault (g.generate s) := by
  refine .bind (.bind (g.columnItems_schemaFault s) ?_) fun _ _ => .ok _
  intro made done
  rcases (columnItems_knows done).1.modules_ok with ⟨entries, block⟩
  simp only [block]
  exact .ok _

end ColumnsGenerator

end SchemaBindings
