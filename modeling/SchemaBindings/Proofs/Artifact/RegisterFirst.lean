import SchemaBindings.Proofs.Artifact.RequestTypes
import SchemaBindings.Proofs.Artifact.TableTypes

/-!
Registering comes before use in whole runs of the four generators. No run ends in a misuse of its
helper, because the settled imports know whatever the emission asks them for.
-/

namespace SchemaBindings

theorem Api.emit_knows {api : Api} {helpers : List String} {g : PhasedGenerator ApiEntry}
    (collects : g.collect = collectEntry) {output : PhasedOutput} {i : Imports}
    (done : api.emit helpers g = .ok (output, i)) :
    i.KnowsAll (api.typeExpr.wanted helpers) ∧
      ∀ entry ∈ api.entries, i.KnowsAll entry.wanted := by
  have known := api.settledImports_knows helpers
  obtain rfl := emit_settled collects done
  exact ⟨known.left, fun _ member => known.right.part member⟩

/-- No generator misuses its imports, and what its emission names was registered when the imports
were settled. Rows are generated whenever their tables can be resolved. -/
structure RegistersFirst (s : Schema) : Prop where
  tables : ∀ (g : TablesGenerator) cause, g.generate s ≠ .error (.importMisuse cause)
  columns : ∀ (g : ColumnsGenerator) cause, g.generate s ≠ .error (.importMisuse cause)
  client : ∀ (g : ClientGenerator) cause, g.generate s ≠ .error (.importMisuse cause)
  endpoints : ∀ (g : EndpointsGenerator) cause, g.generate s ≠ .error (.importMisuse cause)
  rows : ∀ (g : TablesGenerator) tables resolved, s.tables = .ok tables →
    tables.mapM (resolveTable (rowDecoder s)) = .ok resolved →
    ∃ artifact, g.generate s = .ok artifact
  rowTypes : ∀ rows i, tableRows s = .ok (rows, i) →
    ∀ row ∈ rows, ∀ f ∈ row.1.fields, i.KnowsAll f.decoded.wanted
  columnTypes : ∀ (g : ColumnsGenerator) items i, g.columnItems s = .ok (items, i) →
    ∀ item ∈ items, i.KnowsAll (rowType item.1.table).wanted ∧
      ∀ f ∈ item.1.fields, f.primaryKey = false → i.KnowsAll f.decoded.wanted
  clientTypes : ∀ (g : ClientGenerator) api output i, s.api g.api = .ok api →
    api.emit ["sn", "make"] ClientGenerator.phases = .ok (output, i) →
    i.KnowsAll (api.typeExpr.wanted ["sn", "make"]) ∧
      ∀ entry ∈ api.entries, i.KnowsAll entry.wanted
  endpointTypes : ∀ (g : EndpointsGenerator) api output i, s.api g.api = .ok api →
    api.emit ["make"] EndpointsGenerator.phases = .ok (output, i) →
    i.KnowsAll (api.typeExpr.wanted ["make"]) ∧ ∀ entry ∈ api.entries, i.KnowsAll entry.wanted

theorem registersFirst (s : Schema) : RegistersFirst s where
  tables g cause failed := g.generate_schemaFault s _ failed cause rfl
  columns g cause failed := g.generate_schemaFault s _ failed cause rfl
  client g cause failed := g.generate_schemaFault s _ failed cause rfl
  endpoints g cause failed := g.generate_schemaFault s _ failed cause rfl
  rows g _ _ found done := g.generate_ok found done
  rowTypes _ _ done row member _ field :=
    ((tableRows_knows done).2 row member).part (List.mem_map_of_mem field)
  columnTypes g _ _ done item member := by
    have known := (g.columnItems_knows done).2 item member
    refine ⟨known.left, ?_⟩
    intro f field notKey
    have column : f ∈ item.1.fields.filter (!·.primaryKey) :=
      List.mem_filter.mpr ⟨field, by rw [notKey]; rfl⟩
    exact known.right.part (List.mem_map_of_mem column)
  clientTypes _ _ _ _ _ done := Api.emit_knows rfl done
  endpointTypes _ _ _ _ _ done := Api.emit_knows rfl done

end SchemaBindings
