import SchemaBindings.Proofs.Imports.Rendering
import SchemaBindings.Proofs.Imports.Settling

/-!
Registration covers rendering: what was registered before the imports were settled is written
afterwards, under names that the import block binds, and the block holds nothing else.
-/

namespace SchemaBindings

theorem TypeExpr.wanted_of_reference {te : TypeExpr} {name : ScopedName}
    (member : name ∈ te.references) (helpers : List String) : ⟨name, ""⟩ ∈ te.wanted helpers := by
  rcases te with ⟨head, parameters⟩
  rcases List.mem_append.mp member with outer | inner
  · exact List.mem_append_left _ (List.mem_flatMap.mpr
      ⟨name, outer, Wanted.mem_declaration.mpr ⟨rfl, .inl rfl⟩⟩)
  · exact List.mem_append_right _ (List.mem_flatMap.mpr
      ⟨name, inner, Wanted.mem_declaration.mpr ⟨rfl, .inl rfl⟩⟩)

theorem TypeExpr.wanted_of_helper (name : ScopedName) {helpers : List String} {before : String}
    (member : before ∈ helpers) (parameters : List TypeExpr) :
    ⟨name, before⟩ ∈ TypeExpr.wanted ⟨.reference name, parameters⟩ helpers :=
  List.mem_append_left _ (List.mem_flatMap.mpr
    ⟨name, List.mem_cons_self, Wanted.mem_declaration.mpr ⟨rfl, .inr member⟩⟩)

theorem Decoded.wanted_of_reference {d : Decoded} {name : ScopedName}
    (member : name ∈ d.references.map (·.1)) : ⟨name, ""⟩ ∈ d.wanted :=
  List.mem_flatMap.mpr ⟨name, member, Wanted.mem_declaration.mpr ⟨rfl, .inl rfl⟩⟩

namespace Imports

def KnowsAll (i : Imports) (wanted : List Wanted) : Prop :=
  ∀ w ∈ wanted, i.Knows w

theorem KnowsAll.left {i : Imports} {first second : List Wanted}
    (known : i.KnowsAll (first ++ second)) : i.KnowsAll first :=
  fun w member => known w (List.mem_append_left second member)

theorem KnowsAll.right {i : Imports} {first second : List Wanted}
    (known : i.KnowsAll (first ++ second)) : i.KnowsAll second :=
  fun w member => known w (List.mem_append_right first member)

theorem KnowsAll.part {α : Type} {i : Imports} {wanted : α → List Wanted} {parts : List α}
    (known : i.KnowsAll (parts.flatMap wanted)) {part : α} (member : part ∈ parts) :
    i.KnowsAll (wanted part) :=
  fun w present => known w (List.mem_flatMap.mpr ⟨part, member, present⟩)

def settledFor (m : Mapper) (style : ImportStyle) (wanted : List Wanted) : Imports :=
  let recorded := record { new m with style } wanted
  { recorded with settled := some recorded.names }

theorem settle_record (m : Mapper) (style : ImportStyle) (wanted : List Wanted) :
    (record { new m with style } wanted).settle = .ok (settledFor m style wanted) :=
  settle_eq rfl

theorem settledFor_ready (m : Mapper) (style : ImportStyle) (wanted : List Wanted) :
    (settledFor m style wanted).Ready :=
  ⟨rfl, Ledger.ordered_addAll Ledger.ordered_empty _⟩

theorem settledFor_knows (m : Mapper) (style : ImportStyle) (wanted : List Wanted) :
    (settledFor m style wanted).KnowsAll wanted := by
  intro w member
  exact knows_of_mem (i := { new m with style }) member

theorem Ready.nameable {i : Imports} (ready : i.Ready) {entries : List ModuleImport}
    (lists : i.Lists entries) {names : List ScopedName} {wanted : List Wanted}
    (known : i.KnowsAll wanted) (included : ∀ name ∈ names, ⟨name, ""⟩ ∈ wanted) :
    i.Nameable (i.Names entries) names :=
  fun name member => declarationName_names ready lists (known _ (included name member))

theorem Ready.decodedName_written {i : Imports} (ready : i.Ready) {entries : List ModuleImport}
    (lists : i.Lists entries) {d : Decoded} (known : i.KnowsAll d.wanted) :
    ∃ text, i.decodedName d = .ok text ∧ d.WrittenAs i.mapper (i.Names entries) text :=
  Imports.decodedName_written d
    (ready.nameable lists known fun _ reference => Decoded.wanted_of_reference reference)

theorem Ready.referencedName_written {i : Imports} (ready : i.Ready)
    {entries : List ModuleImport} (lists : i.Lists entries) {te : TypeExpr}
    {helpers : List String} (known : i.KnowsAll (te.wanted helpers)) :
    (∃ text, i.referencedName te = .ok text ∧ te.WrittenAs i.mapper (i.Names entries) text) ∨
      ∃ cause, i.referencedName te = .error (.unsupported cause) :=
  Imports.referencedName_written te
    (ready.nameable lists known fun _ reference => TypeExpr.wanted_of_reference reference helpers)

theorem Ready.decodedName_ok {i : Imports} (ready : i.Ready) {d : Decoded}
    (known : i.KnowsAll d.wanted) : ∃ text, i.decodedName d = .ok text := by
  rcases modules_lists ready with ⟨entries, _, lists⟩
  rcases ready.decodedName_written lists known with ⟨text, done, _⟩
  exact ⟨text, done⟩

theorem Ready.referencedName_schemaFault {i : Imports} (ready : i.Ready) {te : TypeExpr}
    (known : i.KnowsAll (te.wanted [])) :
    FailsOnly GenerationError.IsSchemaFault (i.referencedName te) := by
  rcases modules_lists ready with ⟨entries, _, lists⟩
  rcases ready.referencedName_written lists known with ⟨text, done, _⟩ | ⟨cause, failed⟩
  · rw [done]
    exact .ok text
  · rw [failed]
    exact .error nofun

theorem Ready.helperName_ok {i : Imports} (ready : i.Ready) {w : Wanted} (known : i.Knows w)
    (foreign : i.mapper.native w.name = none) :
    ∃ text, i.helperName w.name w.before = .ok text := by
  rcases modules_lists ready with ⟨entries, _, lists⟩
  rcases helperName_binds ready lists known foreign with ⟨text, done, _⟩
  exact ⟨text, done⟩

theorem Ready.error?_referencedName {i j : Imports} (ready : i.Ready) (otherReady : j.Ready)
    {te : TypeExpr} (known : i.KnowsAll (te.wanted [])) (otherKnown : j.KnowsAll (te.wanted [])) :
    error? (i.referencedName te) = error? (j.referencedName te) := by
  rcases modules_lists ready with ⟨entries, _, lists⟩
  rcases modules_lists otherReady with ⟨others, _, otherLists⟩
  exact Imports.error?_referencedName te
    (ready.nameable lists known fun _ reference => TypeExpr.wanted_of_reference reference [])
    (otherReady.nameable otherLists otherKnown fun _ reference =>
      TypeExpr.wanted_of_reference reference [])

theorem Ready.modules_ok {i : Imports} (ready : i.Ready) : ∃ entries, i.modules = .ok entries := by
  rcases modules_lists ready with ⟨entries, block, _⟩
  exact ⟨entries, block⟩

/-- What settled imports owe to the calls before: their block `entries` and the names they give. Of
the symbols wanted it lists those of another module whose declaration has no text of its own. -/
structure Covers (i : Imports) (calls : List Registration) (entries : List ModuleImport) :
    Prop where
  modules : i.modules = .ok entries
  order : entries.map (·.moduleName) =
    (((calls.flatMap Registration.wanted).filter fun w =>
      i.localModule ≠ some w.name.moduleName ∧ i.mapper.native w.name = none).map
        (·.name.moduleName)).eraseDups
  distinct : (entries.map (·.moduleName)).Nodup
  sorted : ∀ entry ∈ entries, (entry.symbols.map (·.name)).Pairwise (· < ·)
  symbols : ∀ entry ∈ entries, ∀ symbol, symbol ∈ entry.symbols.map (·.name) ↔
    ∃ w ∈ calls.flatMap Registration.wanted, i.localModule ≠ some w.name.moduleName ∧
      i.mapper.native w.name = none ∧ w.name.moduleName = entry.moduleName ∧ w.symbol = symbol
  decoded : ∀ d, .decoded d ∈ calls →
    ∃ text, i.decodedName d = .ok text ∧ d.WrittenAs i.mapper (i.Names entries) text
  types : ∀ te, (.type te ∈ calls ∨ ∃ helpers, .typeWithHelpers te helpers ∈ calls) →
    (∃ text, i.referencedName te = .ok text ∧ te.WrittenAs i.mapper (i.Names entries) text) ∨
      ∃ cause, i.referencedName te = .error (.unsupported cause)
  helpers : ∀ name parameters helpers before,
    .typeWithHelpers ⟨.reference name, parameters⟩ helpers ∈ calls → before ∈ helpers →
    i.mapper.native name = none →
    ∃ text, i.helperName name before = .ok text ∧
      i.Binds entries name.moduleName (before ++ name.name) text

theorem covers_of_known {i : Imports} {calls : List Registration} (ready : i.Ready)
    (ledger : i.ledger = Ledger.empty.addAll (i.foreign (calls.flatMap Registration.wanted)))
    (known : i.KnowsAll (calls.flatMap Registration.wanted)) :
    ∃ entries, i.Covers calls entries := by
  rcases modules_lists ready with ⟨entries, block, lists⟩
  have modules := lists.modules
  have listed : ∀ entry ∈ entries,
      (entry.moduleName, entry.symbols.map (·.name)) ∈ i.ledger.entries := by
    intro entry member
    rw [← lists.ledger]
    exact List.mem_map.mpr ⟨entry, member, rfl⟩
  refine ⟨entries, block, ?_, ?_, ?_, ?_, ?_, ?_, ?_⟩
  · rw [modules, ledger, Ledger.modules_addAll Ledger.ordered_empty.distinct, foreign, List.map_map]
    rfl
  · rw [modules]
    exact ready.ordered.distinct
  · intro entry member
    exact ready.ordered.sorted _ (listed entry member)
  · intro entry member symbol
    have empty : ¬ Ledger.empty.Holds entry.moduleName symbol := by
      rintro ⟨_, absent, _⟩
      cases absent
    rw [← Ledger.holds_iff_mem ready.ordered.distinct (listed entry member), ledger,
      Ledger.holds_addAll, or_iff_left empty, mem_foreign]
    simp only [IsForeign, Wanted.entry, Prod.mk.injEq, and_assoc]
  · intro d member
    exact ready.decodedName_written lists (known.part member)
  · intro te member
    rcases member with plain | ⟨helpers, helped⟩
    · exact ready.referencedName_written lists (known.part plain)
    · exact ready.referencedName_written lists (known.part helped)
  · intro name parameters helpers before member wanted foreign
    have asked := TypeExpr.wanted_of_helper name wanted parameters
    exact helperName_binds ready lists (known.part member _ asked) foreign

/-- Any registering calls and then one settling succeed, and the import block covers the calls. -/
theorem registered_covered (m : Mapper) (style : ImportStyle) (localModule : Option String)
    (calls : List Registration) :
    ∃ i, calls.foldlM Registration.apply { new m with style, localModule } >>= settle = .ok i ∧
      i.mapper = m ∧ i.style = style ∧ i.localModule = localModule ∧
      ∃ entries, i.Covers calls entries := by
  let start : Imports := { new m with style, localModule }
  let wanted := calls.flatMap Registration.wanted
  have registered : calls.foldlM Registration.apply start = .ok (start.record wanted) :=
    Registration.run_eq rfl calls
  rw [registered]
  refine ⟨_, settle_eq (i := start.record wanted) rfl, rfl, rfl, rfl, ?_⟩
  refine covers_of_known ⟨rfl, Ledger.ordered_addAll Ledger.ordered_empty _⟩ rfl ?_
  intro w member
  exact knows_of_mem (i := start) member

end Imports

end SchemaBindings
