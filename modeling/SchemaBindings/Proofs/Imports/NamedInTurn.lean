import SchemaBindings.Proofs.Imports.Coverage
import SchemaBindings.Proofs.Imports.FreeName

/-!
Names given in turn. Modules in the order of first registration take their aliases one after the
other, and so do the symbols of the block where each is imported by name; a name once given is never
given again.
-/

namespace SchemaBindings

/-- The first free name, and a search for it that ends. -/
structure Chosen (make : String → String) (taken : List String) (base name : String) : Prop where
  first : FirstFree make taken base name
  ends : SearchEnds make taken base 2 (make base) name

theorem freeName_chosen {make : String → String} {reserved : List String}
    (keeps : KeepsUnreserved make reserved) (taken : List String) (base : String) :
    Chosen make taken base (freeName make reserved taken base) :=
  ⟨freeName_firstFree keeps taken base, (freeName_firstFree keeps taken base).searchEnds⟩

/-- Each base is given the name that is chosen once the names before it are taken. -/
inductive InTurn (make : String → String) : (earlier bases names : List String) → Prop where
  | nil (earlier : List String) : InTurn make earlier [] []
  | cons {earlier bases names : List String} {base name : String}
      (chosen : Chosen make earlier base name)
      (rest : InTurn make (earlier ++ [name]) bases names) :
      InTurn make earlier (base :: bases) (name :: names)

namespace InTurn

variable {make : String → String} {earlier bases names : List String}

theorem not_mem (turns : InTurn make earlier bases names) : ∀ name ∈ names, name ∉ earlier := by
  induction turns with
  | nil earlier => simp
  | cons chosen rest ih =>
      rw [List.forall_mem_cons]
      refine ⟨chosen.first.not_mem, ?_⟩
      intro later member taken
      exact ih later member (List.mem_append_left _ taken)

theorem nodup (turns : InTurn make earlier bases names) : names.Nodup := by
  induction turns with
  | nil earlier => exact .nil
  | cons chosen rest ih =>
      refine List.nodup_cons.mpr ⟨?_, ih⟩
      intro again
      exact rest.not_mem _ again (List.mem_append_right _ List.mem_cons_self)

theorem exists_eq (turns : InTurn make earlier bases names) :
    ∀ name ∈ names, ∃ text, name = make text := by
  induction turns with
  | nil earlier => simp
  | cons chosen rest ih => exact List.forall_mem_cons.mpr ⟨chosen.first.exists_eq, ih⟩

end InTurn

section Given

variable {α κ : Type}

def giveNames (make : String → String) (reserved : List String) (key : α → κ) (base : α → String)
    (given : List (κ × String)) (items : List α) : List (κ × String) :=
  items.foldl (fun given item =>
    given ++ [(key item, freeName make reserved (given.map (·.2)) (base item))]) given

variable (make : String → String) (reserved : List String) (key : α → κ) (base : α → String)

theorem giveNames_keys (given : List (κ × String)) (items : List α) :
    (giveNames make reserved key base given items).map (·.1) =
      given.map (·.1) ++ items.map key := by
  induction items generalizing given with
  | nil => exact (List.append_nil _).symm
  | cons item rest ih =>
      rw [giveNames, List.foldl_cons]
      refine (ih _).trans ?_
      simp

theorem giveNames_inTurn
    (keeps : KeepsUnreserved make reserved) (given : List (κ × String)) (items : List α) :
    ∃ names, (giveNames make reserved key base given items).map (·.2) = given.map (·.2) ++ names ∧
      InTurn make (given.map (·.2)) (items.map base) names := by
  induction items generalizing given with
  | nil => exact ⟨[], (List.append_nil _).symm, .nil _⟩
  | cons item rest ih =>
      let name := freeName make reserved (given.map (·.2)) (base item)
      obtain ⟨names, later, turns⟩ := ih (given ++ [(key item, name)])
      rw [List.map_append, List.map_singleton] at later turns
      refine ⟨name :: names, ?_, .cons (freeName_chosen keeps _ _) turns⟩
      exact later.trans (List.append_assoc ..)

theorem giveNames_firstFree
    (keeps : KeepsUnreserved make reserved) (given : List (κ × String)) (items : List α) :
    ∀ pair ∈ giveNames make reserved key base given items, pair ∈ given ∨
      ∃ item ∈ items, pair.1 = key item ∧ ∃ taken, FirstFree make taken (base item) pair.2 := by
  induction items generalizing given with
  | nil => exact fun pair member => .inl member
  | cons item rest ih =>
      intro pair member
      rcases ih _ pair member with present | ⟨later, among, named⟩
      · rcases List.mem_append.mp present with earlier | here
        · exact .inl earlier
        · have same := List.mem_singleton.mp here
          subst same
          exact .inr ⟨item, List.mem_cons_self, rfl, _, freeName_firstFree keeps _ _⟩
      · exact .inr ⟨later, List.mem_cons_of_mem item among, named⟩

theorem map_lookup [BEq κ] [LawfulBEq κ] {given : List (κ × String)}
    (distinct : (given.map (·.1)).Nodup) (default : κ → String) :
    (given.map (·.1)).map (fun key => (given.lookup key).getD (default key)) =
      given.map (·.2) := by
  rw [List.map_map]
  refine List.map_congr_left ?_
  intro pair member
  rw [Function.comp_apply, lookup_of_mem distinct member]
  rfl

end Given

def symbolPairs (entries : List (String × List String)) : List (String × String) :=
  entries.flatMap fun entry => entry.2.map (entry.1, ·)

theorem Ledger.Ordered.symbolPairs_nodup {l : Ledger} (ordered : l.Ordered) :
    (symbolPairs l.entries).Nodup := by
  refine List.nodup_flatMap.mpr ⟨?_, ?_⟩
  · intro entry member
    have symbols : entry.2.Nodup := (ordered.sorted entry member).imp String.ne_of_lt
    exact symbols.map fun first second same => (Prod.mk.inj same).2
  · refine (List.pairwise_map.mp ordered.distinct).imp ?_
    intro first second different pair inFirst inSecond
    obtain ⟨_, _, rfl⟩ := List.mem_map.mp inFirst
    obtain ⟨_, _, same⟩ := List.mem_map.mp inSecond
    exact different (Prod.mk.inj same).1.symm

namespace Assignment

theorem aliases_foldl_eq (naming : Naming) (style : ImportStyle) (a : Assignment)
    (entries : List (String × List String)) :
    (entries.foldl (addModule naming style) a).aliases =
      giveNames naming.safeName naming.reserved id moduleTail a.aliases (entries.map (·.1)) := by
  induction entries generalizing a with
  | nil => rfl
  | cons entry rest ih =>
      have step : (addModule naming style a entry).aliases =
          (a.addAlias naming entry.1).aliases := by
        cases style with
        | qualified => rfl
        | named => exact aliases_addLocal entry.1 _ entry.2
      rw [List.foldl_cons, ih, step]
      rfl

theorem aliases_ofLedger_eq (naming : Naming) (style : ImportStyle) (l : Ledger) :
    (ofLedger naming style l).aliases =
      giveNames naming.safeName naming.reserved id moduleTail [] l.modules :=
  aliases_foldl_eq naming style empty l.entries

theorem locals_addLocal (moduleName : String) (a : Assignment) (symbols : List String) :
    (symbols.foldl (addLocal moduleName) a).locals =
      giveNames id [] id (·.2) a.locals (symbols.map (moduleName, ·)) := by
  induction symbols generalizing a with
  | nil => rfl
  | cons symbol rest ih => exact ih (addLocal moduleName a symbol)

theorem locals_foldl_eq (naming : Naming) (a : Assignment)
    (entries : List (String × List String)) :
    (entries.foldl (addModule naming .named) a).locals =
      giveNames id [] id (·.2) a.locals (symbolPairs entries) := by
  induction entries generalizing a with
  | nil => rfl
  | cons entry rest ih =>
      have step : (addModule naming .named a entry).locals =
          giveNames id [] id (·.2) a.locals (entry.2.map (entry.1, ·)) :=
        locals_addLocal entry.1 (a.addAlias naming entry.1) entry.2
      rw [List.foldl_cons, ih, step]
      exact List.foldl_append.symm

end Assignment

def Imports.localName (i : Imports) (moduleName symbol : String) : String :=
  (i.settled.bind (·.local? moduleName symbol)).getD symbol

def ModuleImport.pairs (entry : ModuleImport) : List (String × String) :=
  entry.symbols.map fun s => (entry.moduleName, s.name)

namespace Imports

theorem Lists.pairs {i : Imports} {entries : List ModuleImport} (lists : i.Lists entries) :
    entries.flatMap ModuleImport.pairs = symbolPairs i.ledger.entries := by
  rw [← lists.ledger, symbolPairs, List.flatMap_map]
  simp only [List.map_map]
  rfl

theorem Lists.given_aliases {i : Imports} {entries : List ModuleImport} (ready : i.Ready)
    (lists : i.Lists entries) :
    entries.map (·.moduleAlias) = i.names.aliases.map (·.2) := by
  have keys : i.names.aliases.map (·.1) = entries.map (·.moduleName) :=
    (Assignment.aliases_ofLedger _ _ _).trans lists.modules.symm
  have distinct : (i.names.aliases.map (·.1)).Nodup := by
    rw [keys, lists.modules]
    exact ready.ordered.distinct
  rw [← map_lookup distinct id, keys, List.map_map]
  refine List.map_congr_left ?_
  intro entry member
  have found : i.names.aliases.lookup entry.moduleName = some entry.moduleAlias :=
    lists.aliases entry member
  rw [Function.comp_apply, found]
  rfl

theorem Lists.aliases_inTurn {i : Imports} {entries : List ModuleImport} (ready : i.Ready)
    (lists : i.Lists entries) :
    InTurn i.mapper.naming.safeName [] (entries.map fun entry => moduleTail entry.moduleName)
      (entries.map (·.moduleAlias)) := by
  have given : i.names.aliases = giveNames i.mapper.naming.safeName i.mapper.naming.reserved id
      moduleTail [] i.ledger.modules :=
    Assignment.aliases_ofLedger_eq _ _ _
  obtain ⟨names, same, turns⟩ := giveNames_inTurn _ _ id moduleTail
    i.mapper.naming.keepsUnreserved [] i.ledger.modules
  rw [given_aliases ready lists, given, same]
  rw [← lists.modules, List.map_map] at turns
  exact turns

theorem Lists.locals_inTurn {i : Imports} {entries : List ModuleImport} (ready : i.Ready)
    (lists : i.Lists entries) (named : i.style = .named) :
    let pairs := entries.flatMap ModuleImport.pairs
    InTurn id [] (pairs.map (·.2)) (pairs.map fun pair => i.localName pair.1 pair.2) := by
  intro pairs
  have given : i.names.locals = giveNames id [] id (·.2) [] pairs := by
    rw [names, named, Assignment.ofLedger, Assignment.locals_foldl_eq]
    exact congrArg _ lists.pairs.symm
  have keys : i.names.locals.map (·.1) = pairs := by
    rw [given, giveNames_keys, List.map_id]
    rfl
  have distinct : (i.names.locals.map (·.1)).Nodup := by
    rw [keys, show pairs = symbolPairs i.ledger.entries from lists.pairs]
    exact ready.ordered.symbolPairs_nodup
  have locals : pairs.map (fun pair => i.localName pair.1 pair.2) =
      i.names.locals.map (·.2) := by
    rw [← map_lookup distinct (·.2), keys]
    simp only [localName, ready.settled]
    rfl
  obtain ⟨names, same, turns⟩ := giveNames_inTurn id [] id (fun pair : String × String => pair.2)
    keepsUnreserved_id [] pairs
  rw [locals, given, same]
  exact turns

theorem qualifiedSymbol_named {i : Imports} (ready : i.Ready) (named : i.style = .named)
    {moduleName symbol : String} (foreign : i.isLocal moduleName = false)
    (held : i.ledger.Holds moduleName symbol) :
    i.qualifiedSymbol moduleName symbol = .ok (i.localName moduleName symbol) := by
  obtain ⟨moduleAlias, aliased⟩ : ∃ moduleAlias, i.names.alias? moduleName = some moduleAlias := by
    obtain ⟨symbols, member, _⟩ := held
    exact Assignment.alias_of_mem (List.mem_map_of_mem member)
  have contained := Ledger.contains_of_holds ready.ordered held
  simp [qualifiedSymbol, assignment_eq ready, bind, Except.bind, foreign, aliased, named, contained,
    localName, ready.settled]
  rfl

theorem Lists.rename_eq {i : Imports} {entries : List ModuleImport} (ready : i.Ready)
    (lists : i.Lists entries) {entry : ModuleImport} (member : entry ∈ entries)
    {s : ImportedSymbol} (listed : s ∈ entry.symbols) :
    s.rename = if i.localName entry.moduleName s.name = s.name then none
      else some (i.localName entry.moduleName s.name) := by
  rw [lists.renames entry member s listed, rename?, localName, ready.settled, Option.bind_some]
  cases i.names.local? entry.moduleName s.name with
  | none => simp
  | some localName =>
      by_cases same : localName = s.name
      · simp [Option.filter, same]
      · simp [Option.filter, same]

/-- Under the named style each symbol of the block takes a local name in turn, whatever its module:
no two have the same, and a rename tells of each that differs from its symbol. -/
structure LocalsInTurn (i : Imports) (entries : List ModuleImport) : Prop where
  turns : InTurn id [] ((entries.flatMap ModuleImport.pairs).map (·.2))
    ((entries.flatMap ModuleImport.pairs).map fun pair => i.localName pair.1 pair.2)
  distinct :
    ((entries.flatMap ModuleImport.pairs).map fun pair => i.localName pair.1 pair.2).Nodup
  written : ∀ entry ∈ entries, ∀ s ∈ entry.symbols,
    i.qualifiedSymbol entry.moduleName s.name = .ok (i.localName entry.moduleName s.name)
  renamed : ∀ entry ∈ entries, ∀ s ∈ entry.symbols,
    s.rename = if i.localName entry.moduleName s.name = s.name then none
      else some (i.localName entry.moduleName s.name)

/-- The block of settled imports lists the modules of `wanted` as they were first registered, with
sorted symbols, and its names were given in that order. -/
structure NamedInTurn (i : Imports) (wanted : List Wanted) (entries : List ModuleImport) :
    Prop where
  modules : i.modules = .ok entries
  order : entries.map (·.moduleName) =
    ((wanted.filter fun w =>
      i.localModule ≠ some w.name.moduleName ∧ i.mapper.native w.name = none).map
        (·.name.moduleName)).eraseDups
  sorted : ∀ entry ∈ entries, (entry.symbols.map (·.name)).Pairwise (· < ·)
  symbols : ∀ entry ∈ entries, ∀ symbol, symbol ∈ entry.symbols.map (·.name) ↔
    ∃ w ∈ wanted, i.localModule ≠ some w.name.moduleName ∧ i.mapper.native w.name = none ∧
      w.name.moduleName = entry.moduleName ∧ w.symbol = symbol
  turns : InTurn i.mapper.naming.safeName []
    (entries.map fun entry => moduleTail entry.moduleName) (entries.map (·.moduleAlias))
  found : ∀ entry ∈ entries, i.alias? entry.moduleName = some entry.moduleAlias
  distinct : (entries.map (·.moduleAlias)).Nodup
  unreserved : ∀ entry ∈ entries, i.mapper.naming.isReserved entry.moduleAlias = false
  locals : i.style = .named → i.LocalsInTurn entries

theorem Lists.localsInTurn {i : Imports} {entries : List ModuleImport} (ready : i.Ready)
    (lists : i.Lists entries) (named : i.style = .named)
    (foreign : ∀ entry ∈ entries, i.isLocal entry.moduleName = false) : i.LocalsInTurn entries where
  turns := lists.locals_inTurn ready named
  distinct := (lists.locals_inTurn ready named).nodup
  written entry member s listed := by
    refine qualifiedSymbol_named ready named (foreign entry member) ?_
    refine ⟨entry.symbols.map (·.name), ?_, List.mem_map_of_mem listed⟩
    rw [← lists.ledger]
    exact List.mem_map_of_mem member
  renamed _ member _ listed := lists.rename_eq ready member listed

theorem namedInTurn_of_known {i : Imports} {calls : List Registration} (ready : i.Ready)
    (escapes : i.mapper.naming.Escapes)
    (ledger : i.ledger = Ledger.empty.addAll (i.foreign (calls.flatMap Registration.wanted)))
    (known : i.KnowsAll (calls.flatMap Registration.wanted)) :
    ∃ entries, i.NamedInTurn (calls.flatMap Registration.wanted) entries := by
  obtain ⟨entries, covers⟩ := covers_of_known ready ledger known
  obtain ⟨listed, block, lists⟩ := modules_lists ready
  obtain rfl : entries = listed := Except.ok.inj (covers.modules.symm.trans block)
  have turns := lists.aliases_inTurn ready
  have foreign : ∀ entry ∈ entries, i.isLocal entry.moduleName = false := by
    intro entry member
    have mentioned := List.mem_map_of_mem (f := ModuleImport.moduleName) member
    rw [covers.order, List.mem_eraseDups] at mentioned
    obtain ⟨w, wanted, same⟩ := List.mem_map.mp mentioned
    have other := (of_decide_eq_true (List.mem_filter.mp wanted).2).1
    rw [same] at other
    exact beq_eq_false_iff_ne.mpr other
  refine ⟨entries, block, covers.order, covers.sorted, covers.symbols, turns, ?_, turns.nodup, ?_,
    fun named => lists.localsInTurn ready named foreign⟩
  · intro entry member
    rw [alias?, ready.settled]
    exact lists.aliases entry member
  · intro entry member
    obtain ⟨text, same⟩ := turns.exists_eq _ (List.mem_map_of_mem member)
    rw [same]
    exact Bool.eq_false_iff.mpr (mt List.contains_iff_mem.mp (escapes.safeName_not_reserved text))

/-- Any registering calls and then one settling succeed, and the names of the block are given in
turn. -/
theorem registered_namedInTurn (m : Mapper)
    (naming : m.naming = typescriptNaming ∨ m.naming = rustNaming) (style : ImportStyle)
    (localModule : Option String) (calls : List Registration) :
    ∃ i, calls.foldlM Registration.apply { new m with style, localModule } >>= settle = .ok i ∧
      i.mapper = m ∧ i.style = style ∧ i.localModule = localModule ∧
      ∃ entries, i.NamedInTurn (calls.flatMap Registration.wanted) entries := by
  let start : Imports := { new m with style, localModule }
  let wanted := calls.flatMap Registration.wanted
  have escapes : m.naming.Escapes := by
    rcases naming with same | same
    · exact same ▸ typescriptNaming_escapes
    · exact same ▸ rustNaming_escapes
  have registered : calls.foldlM Registration.apply start = .ok (start.record wanted) :=
    Registration.run_eq rfl calls
  rw [registered]
  refine ⟨_, settle_eq (i := start.record wanted) rfl, rfl, rfl, rfl, ?_⟩
  refine namedInTurn_of_known ⟨rfl, Ledger.ordered_addAll Ledger.ordered_empty _⟩ escapes rfl ?_
  intro w member
  exact knows_of_mem (i := start) member

def collidingCalls : List Registration :=
  [.type (.reference ⟨"a.db", "Message"⟩), .type (.reference ⟨"db2", "Message2"⟩),
   .typeWithHelpers (.reference ⟨"b.db", "Message"⟩) ["make"],
   .decoded (.vector (.reference ⟨"x.delete", "Message"⟩ .struct [])),
   .type (.reference ⟨"_delete", "makeMessage"⟩)]

theorem collidingCalls_namedInTurn :
    (typescriptMapper []).naming = typescriptNaming ∧
      ∃ i, collidingCalls.foldlM Registration.apply
          { new (typescriptMapper []) with style := .named, localModule := none } >>= settle =
            .ok i ∧
        i.mapper = typescriptMapper [] ∧ i.style = .named ∧ i.localModule = none ∧
        ∃ entries, i.NamedInTurn (collidingCalls.flatMap Registration.wanted) entries :=
  ⟨rfl, registered_namedInTurn (typescriptMapper []) (.inl rfl) .named none collidingCalls⟩

example :
    Assignment.ofLedger typescriptNaming .named
      ⟨[("a.db", ["Message"]), ("db2", ["Message2"]), ("b.db", ["Message", "makeMessage"]),
        ("x.delete", ["Message"]), ("_delete", ["makeMessage"])]⟩ =
      ⟨[("a.db", "db"), ("db2", "db2"), ("b.db", "db3"), ("x.delete", "_delete"),
        ("_delete", "_delete2")],
       [(("a.db", "Message"), "Message"), (("db2", "Message2"), "Message2"),
        (("b.db", "Message"), "Message3"), (("b.db", "makeMessage"), "makeMessage"),
        (("x.delete", "Message"), "Message4"), (("_delete", "makeMessage"), "makeMessage2")]⟩ := by
  decide +kernel

end Imports

end SchemaBindings
