import SchemaBindings.Proofs.Imports.Registration

/-!
Names after the imports are settled. Each module of the ledger has an alias and its entry in the
block, and a symbol that is known is written as that entry binds it.
-/

namespace SchemaBindings

namespace Assignment

theorem aliases_addLocal (moduleName : String) (a : Assignment) (symbols : List String) :
    (symbols.foldl (addLocal moduleName) a).aliases = a.aliases := by
  induction symbols generalizing a with
  | nil => rfl
  | cons symbol rest ih => exact ih (addLocal moduleName a symbol)

theorem aliases_addModule (naming : Naming) (style : ImportStyle) (a : Assignment)
    (entry : String × List String) :
    (addModule naming style a entry).aliases.map (·.1) = a.aliases.map (·.1) ++ [entry.1] := by
  have added : (a.addAlias naming entry.1).aliases.map (·.1) =
      a.aliases.map (·.1) ++ [entry.1] := by
    rw [addAlias, List.map_append, List.map_singleton]
  cases style with
  | qualified => exact added
  | named =>
      have same := aliases_addLocal entry.1 (a.addAlias naming entry.1) entry.2
      exact (congrArg (List.map (·.1)) same).trans added

theorem aliases_foldl (naming : Naming) (style : ImportStyle) (a : Assignment)
    (entries : List (String × List String)) :
    (entries.foldl (addModule naming style) a).aliases.map (·.1) =
      a.aliases.map (·.1) ++ entries.map (·.1) := by
  induction entries generalizing a with
  | nil => rw [List.foldl_nil, List.map_nil, List.append_nil]
  | cons entry rest ih =>
      rw [List.foldl_cons, ih, aliases_addModule, List.append_assoc, List.map_cons,
        List.singleton_append]

theorem aliases_ofLedger (naming : Naming) (style : ImportStyle) (l : Ledger) :
    (ofLedger naming style l).aliases.map (·.1) = l.modules :=
  aliases_foldl naming style empty l.entries

theorem alias_of_mem {naming : Naming} {style : ImportStyle} {l : Ledger} {moduleName : String}
    (present : moduleName ∈ l.modules) :
    ∃ moduleAlias, (ofLedger naming style l).alias? moduleName = some moduleAlias := by
  rw [← aliases_ofLedger naming style] at present
  exact lookup_of_mem_keys present

end Assignment

def ImportedSymbol.boundName (s : ImportedSymbol) : String :=
  s.rename.getD s.name

namespace Imports

def names (i : Imports) : Assignment :=
  .ofLedger i.mapper.naming i.style i.ledger

/-- What `settle` leaves behind. -/
structure Ready (i : Imports) : Prop where
  settled : i.settled = some i.names
  ordered : i.ledger.Ordered

/-- The block of `entries` is the ledger under the names given to it. -/
structure Lists (i : Imports) (entries : List ModuleImport) : Prop where
  ledger : entries.map (fun e => (e.moduleName, e.symbols.map (·.name))) = i.ledger.entries
  aliases : ∀ e ∈ entries, i.names.alias? e.moduleName = some e.moduleAlias
  renames : ∀ e ∈ entries, ∀ s ∈ e.symbols, s.rename = rename? i.names e.moduleName s.name

theorem settle_eq {i : Imports} (opened : i.settled = none) :
    i.settle = .ok { i with settled := some i.names } := by
  unfold settle
  rw [ensureOpen_of_open opened]
  rfl

theorem assignment_eq {i : Imports} (ready : i.Ready) (operation : String) :
    i.assignment operation = .ok i.names := by
  rw [assignment, ready.settled]

theorem filterMap_moduleImport {a : Assignment} {entries : List (String × List String)}
    (named : ∀ entry ∈ entries, ∃ moduleAlias, a.alias? entry.1 = some moduleAlias) :
    (entries.filterMap (moduleImport? a)).map (fun e => (e.moduleName, e.symbols.map (·.name))) =
      entries := by
  induction entries with
  | nil => rfl
  | cons entry rest ih =>
      rcases List.forall_mem_cons.mp named with ⟨⟨moduleAlias, found⟩, later⟩
      have made : moduleImport? a entry = some ⟨entry.1, moduleAlias,
          entry.2.map fun symbol => ⟨symbol, rename? a entry.1 symbol⟩⟩ := by
        rw [moduleImport?, found]
        rfl
      rw [List.filterMap_cons_some made, List.map_cons, ih later, List.map_map]
      simp [Function.comp_def]

theorem Lists.modules {i : Imports} {entries : List ModuleImport} (lists : i.Lists entries) :
    entries.map (·.moduleName) = i.ledger.modules := by
  rw [Ledger.modules, ← lists.ledger, List.map_map]
  rfl

theorem modules_lists {i : Imports} (ready : i.Ready) :
    ∃ entries, i.modules = .ok entries ∧ i.Lists entries := by
  refine ⟨_, by rw [modules, assignment_eq ready]; rfl, ?_, ?_, ?_⟩
  · refine filterMap_moduleImport ?_
    intro entry member
    exact Assignment.alias_of_mem (List.mem_map_of_mem member)
  · intro e member
    rcases List.mem_filterMap.mp member with ⟨entry, _, made⟩
    rcases Option.map_eq_some_iff.mp made with ⟨moduleAlias, found, rfl⟩
    exact found
  · intro e member s listed
    rcases List.mem_filterMap.mp member with ⟨entry, _, made⟩
    rcases Option.map_eq_some_iff.mp made with ⟨moduleAlias, found, rfl⟩
    rcases List.mem_map.mp listed with ⟨symbol, _, rfl⟩
    rfl

/-- How the file writes a symbol: bare in its own module, else through the entry that imports it. -/
inductive Binds (i : Imports) (entries : List ModuleImport) (moduleName symbol : String) :
    String → Prop where
  | own : i.isLocal moduleName = true → Binds i entries moduleName symbol symbol
  | qualified (entry : ModuleImport) (s : ImportedSymbol) : i.style = .qualified →
      entry ∈ entries → entry.moduleName = moduleName → s ∈ entry.symbols → s.name = symbol →
      Binds i entries moduleName symbol (i.mapper.qualify entry.moduleAlias symbol)
  | named (entry : ModuleImport) (s : ImportedSymbol) : i.style = .named →
      entry ∈ entries → entry.moduleName = moduleName → s ∈ entry.symbols → s.name = symbol →
      Binds i entries moduleName symbol s.boundName

/-- How the file writes a declaration: natively, else as its own symbol. -/
inductive Names (i : Imports) (entries : List ModuleImport) (name : ScopedName) :
    String → Prop where
  | native (text : String) : i.mapper.native name = some text → Names i entries name text
  | bound (text : String) : i.mapper.native name = none →
      i.Binds entries name.moduleName name.name text → Names i entries name text

theorem Lists.entry_of_holds {i : Imports} {entries : List ModuleImport}
    (lists : i.Lists entries) {moduleName symbol : String}
    (held : i.ledger.Holds moduleName symbol) :
    ∃ e ∈ entries, e.moduleName = moduleName ∧ ∃ s ∈ e.symbols, s.name = symbol := by
  rcases held with ⟨symbols, member, present⟩
  rw [← lists.ledger] at member
  rcases List.mem_map.mp member with ⟨e, listed, same⟩
  rcases Prod.mk.inj same with ⟨rfl, rfl⟩
  rcases List.mem_map.mp present with ⟨s, found, named⟩
  exact ⟨e, listed, rfl, s, found, named⟩

theorem boundName_eq {a : Assignment} {moduleName : String} {s : ImportedSymbol}
    (renamed : s.rename = rename? a moduleName s.name) :
    s.boundName = (a.local? moduleName s.name).getD s.name := by
  rw [ImportedSymbol.boundName, renamed, rename?]
  cases a.local? moduleName s.name with
  | none => rfl
  | some localName =>
      by_cases same : localName = s.name
      · simp [Option.filter, same]
      · simp [Option.filter, same]

theorem qualifiedSymbol_binds {i : Imports} (ready : i.Ready) {entries : List ModuleImport}
    (lists : i.Lists entries) {moduleName symbol : String}
    (known : i.isLocal moduleName = false → i.ledger.Holds moduleName symbol) :
    ∃ text, i.qualifiedSymbol moduleName symbol = .ok text ∧
      i.Binds entries moduleName symbol text := by
  unfold qualifiedSymbol
  rw [assignment_eq ready]
  cases own : i.isLocal moduleName with
  | true => exact ⟨symbol, rfl, .own own⟩
  | false =>
      have held := known own
      rcases lists.entry_of_holds held with ⟨e, listed, rfl, s, found, rfl⟩
      have aliased := lists.aliases e listed
      cases style : i.style with
      | qualified =>
          refine ⟨i.mapper.qualify e.moduleAlias s.name, ?_,
            .qualified e s style listed rfl found rfl⟩
          simp [bind, Except.bind, aliased]
          rfl
      | named =>
          refine ⟨s.boundName, ?_, .named e s style listed rfl found rfl⟩
          rw [boundName_eq (lists.renames e listed s found)]
          have contained := Ledger.contains_of_holds ready.ordered held
          simp [bind, Except.bind, aliased, contained]
          rfl

theorem declarationName_names {i : Imports} (ready : i.Ready) {entries : List ModuleImport}
    (lists : i.Lists entries) {name : ScopedName}
    (known : i.Knows ⟨name, ""⟩) :
    ∃ text, i.declarationName name = .ok text ∧ i.Names entries name text := by
  unfold declarationName
  cases native : i.mapper.native name with
  | some text =>
      refine ⟨text, ?_, .native text native⟩
      simp only [assignment_eq ready]
      rfl
  | none =>
      have held : i.isLocal name.moduleName = false →
          i.ledger.Holds name.moduleName name.name := by
        intro foreign
        rw [← Wanted.symbol_own name]
        exact known ⟨by simpa [isLocal] using foreign, native⟩
      rcases qualifiedSymbol_binds ready lists held with ⟨text, written, binds⟩
      exact ⟨text, written, .bound text native binds⟩

theorem helperName_binds {i : Imports} (ready : i.Ready) {entries : List ModuleImport}
    (lists : i.Lists entries) {w : Wanted}
    (known : i.Knows w) (foreign : i.mapper.native w.name = none) :
    ∃ text, i.helperName w.name w.before = .ok text ∧
      i.Binds entries w.name.moduleName w.symbol text := by
  refine qualifiedSymbol_binds ready lists ?_
  intro other
  exact known ⟨by simpa [isLocal] using other, foreign⟩

end Imports

end SchemaBindings
