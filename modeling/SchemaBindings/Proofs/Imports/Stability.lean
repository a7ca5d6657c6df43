import Mathlib.Data.List.Sort
import SchemaBindings.Proofs.Imports.NamedInTurn
import SchemaBindings.Proofs.Imports.Stages

/-!
Stability of names. Calls that reach modules in the same order and want the same symbols settle to
the same helper, however they repeat, nest or mix the types; and what is registered later leaves
earlier modules their aliases.
-/

namespace SchemaBindings

namespace Ledger

theorem entries_eq_map {l : Ledger} (distinct : l.modules.Nodup) :
    l.entries = l.modules.map fun moduleName => (moduleName, l.symbols moduleName) := by
  rw [modules, List.map_map]
  conv_lhs => rw [← List.map_id l.entries]
  refine List.map_congr_left ?_
  intro entry member
  rw [Function.comp_apply, symbols, lookup_of_mem distinct member]
  rfl

theorem mem_symbols_iff {l : Ledger} (distinct : l.modules.Nodup) {moduleName : String}
    (present : moduleName ∈ l.modules) (symbol : String) :
    symbol ∈ l.symbols moduleName ↔ l.Holds moduleName symbol := by
  obtain ⟨⟨_, symbols⟩, member, rfl⟩ := List.mem_map.mp present
  rw [Ledger.symbols, lookup_of_mem distinct member, holds_iff_mem distinct member]
  rfl

theorem sorted_symbols {l : Ledger} (ordered : l.Ordered) {moduleName : String}
    (present : moduleName ∈ l.modules) : (l.symbols moduleName).Pairwise (· < ·) := by
  obtain ⟨⟨_, symbols⟩, member, rfl⟩ := List.mem_map.mp present
  rw [Ledger.symbols, lookup_of_mem ordered.distinct member]
  exact ordered.sorted _ member

theorem Ordered.eq_of_holds {l k : Ledger} (ordered : l.Ordered) (alsoOrdered : k.Ordered)
    (modules : l.modules = k.modules)
    (holds : ∀ moduleName symbol, l.Holds moduleName symbol ↔ k.Holds moduleName symbol) :
    l = k := by
  have entries : l.entries = k.entries := by
    rw [entries_eq_map ordered.distinct, entries_eq_map alsoOrdered.distinct, ← modules]
    refine List.map_congr_left ?_
    intro moduleName present
    have alsoPresent : moduleName ∈ k.modules := modules ▸ present
    refine congrArg (Prod.mk moduleName) (List.Pairwise.eq_of_mem_iff
      (sorted_symbols ordered present) (sorted_symbols alsoOrdered alsoPresent) ?_)
    intro symbol
    rw [mem_symbols_iff ordered.distinct present, holds,
      mem_symbols_iff alsoOrdered.distinct alsoPresent]
  rcases l with ⟨_⟩
  rcases k with ⟨_⟩
  exact congrArg Ledger.mk entries

theorem modules_prefix_add (l : Ledger) (moduleName symbol : String) :
    l.modules <+: (l.add moduleName symbol).modules := by
  by_cases present : moduleName ∈ l.modules
  · exact ⟨[], by rw [modules_add_of_mem present, List.append_nil]⟩
  · rw [modules_add_of_not_mem present]
    exact List.prefix_append _ _

theorem modules_prefix_addAll (l : Ledger) (pairs : List (String × String)) :
    l.modules <+: (l.addAll pairs).modules := by
  induction pairs generalizing l with
  | nil => exact List.prefix_rfl
  | cons pair rest ih => exact (modules_prefix_add l pair.1 pair.2).trans (ih _)

theorem mem_modules_of_holds {l : Ledger} {moduleName symbol : String}
    (held : l.Holds moduleName symbol) : moduleName ∈ l.modules := by
  obtain ⟨symbols, member, _⟩ := held
  exact List.mem_map_of_mem member

end Ledger

theorem prefix_giveNames {α κ : Type} (make : String → String) (reserved : List String)
    (key : α → κ) (base : α → String) (given : List (κ × String)) (items : List α) :
    given <+: giveNames make reserved key base given items := by
  induction items generalizing given with
  | nil => exact List.prefix_rfl
  | cons item rest ih => exact (List.prefix_append given _).trans (ih _)

namespace Assignment

theorem aliases_kept {naming : Naming} {style : ImportStyle} {l k : Ledger}
    (longer : l.modules <+: k.modules) :
    (ofLedger naming style l).aliases <+: (ofLedger naming style k).aliases := by
  obtain ⟨later, modules⟩ := longer
  have continued : (ofLedger naming style k).aliases =
      giveNames naming.safeName naming.reserved id moduleTail
        (ofLedger naming style l).aliases later := by
    rw [aliases_ofLedger_eq, aliases_ofLedger_eq, ← modules]
    exact List.foldl_append
  rw [continued]
  exact prefix_giveNames _ _ _ _ _ _

theorem alias_kept {naming : Naming} {style : ImportStyle} {l k : Ledger}
    (longer : l.modules <+: k.modules) {moduleName : String} (present : moduleName ∈ l.modules) :
    ∃ moduleAlias, (ofLedger naming style l).alias? moduleName = some moduleAlias ∧
      (ofLedger naming style k).alias? moduleName = some moduleAlias := by
  obtain ⟨moduleAlias, found⟩ : ∃ moduleAlias,
      (ofLedger naming style l).alias? moduleName = some moduleAlias := alias_of_mem present
  exact ⟨moduleAlias, found, (aliases_kept longer).lookup_eq_some found⟩

end Assignment

namespace Imports

def registered (i : Imports) (calls : List Registration) : List (String × String) :=
  i.foreign (calls.flatMap Registration.wanted)

def reached (i : Imports) (calls : List Registration) : List String :=
  ((i.registered calls).map (·.1)).eraseDups

/-- Calls that reach modules in one order and register the same symbols. -/
structure Alike (i : Imports) (calls others : List Registration) : Prop where
  order : i.reached calls = i.reached others
  symbols : ∀ pair, pair ∈ i.registered calls ↔ pair ∈ i.registered others

/-- The helper after all calls, settled. -/
def settledBy (i : Imports) (calls : List Registration) : Except GenerationError Imports :=
  calls.foldlM Registration.apply i >>= settle

variable {i : Imports} {calls others : List Registration}

theorem settledBy_eq (opened : i.settled = none) (calls : List Registration) :
    i.settledBy calls =
      .ok { i.record (calls.flatMap Registration.wanted) with
            settled := some (i.record (calls.flatMap Registration.wanted)).names } := by
  rw [settledBy, Registration.run_eq opened]
  exact settle_eq opened

theorem record_alike (empty : i.ledger = .empty) (alike : i.Alike calls others) :
    i.record (calls.flatMap Registration.wanted) =
      i.record (others.flatMap Registration.wanted) := by
  have ordered : ∀ pairs, (Ledger.empty.addAll pairs).Ordered :=
    Ledger.ordered_addAll Ledger.ordered_empty
  have ledgers : Ledger.empty.addAll (i.registered calls) =
      Ledger.empty.addAll (i.registered others) := by
    refine (ordered _).eq_of_holds (ordered _) ?_ ?_
    · rw [Ledger.modules_addAll Ledger.ordered_empty.distinct,
        Ledger.modules_addAll Ledger.ordered_empty.distinct]
      exact alike.order
    · intro moduleName symbol
      rw [Ledger.holds_addAll, Ledger.holds_addAll, alike.symbols]
  rw [record, record, empty]
  exact congrArg (fun ledger => { i with ledger }) ledgers

theorem settledBy_alike (opened : i.settled = none) (empty : i.ledger = .empty)
    (alike : i.Alike calls others) : i.settledBy calls = i.settledBy others := by
  rw [settledBy_eq opened, settledBy_eq opened, record_alike empty alike]

theorem alias_settledBy_append (opened : i.settled = none) (calls more : List Registration) :
    ∃ j k, i.settledBy calls = .ok j ∧ i.settledBy (calls ++ more) = .ok k ∧
      ∀ pair ∈ i.registered calls, ∃ moduleAlias,
        j.alias? pair.1 = some moduleAlias ∧ k.alias? pair.1 = some moduleAlias := by
  let shorter := i.record (calls.flatMap Registration.wanted)
  let longer := i.record ((calls ++ more).flatMap Registration.wanted)
  refine ⟨_, _, settledBy_eq opened calls, settledBy_eq opened (calls ++ more), ?_⟩
  intro pair member
  have reached : pair.1 ∈ shorter.ledger.modules :=
    Ledger.mem_modules_of_holds ((Ledger.holds_addAll _ _).mpr (.inl member))
  have extended : longer = shorter.record (more.flatMap Registration.wanted) := by
    rw [record_append, ← List.flatMap_append]
  have modules : shorter.ledger.modules <+: longer.ledger.modules := by
    rw [extended]
    exact Ledger.modules_prefix_addAll _ _
  exact Assignment.alias_kept modules reached

/-- Order of modules and set of symbols decide all that settled imports answer, and whatever is
registered later leaves the aliases given so far. -/
theorem registered_stable (m : Mapper) (style : ImportStyle) (localModule : Option String) :
    let start : Imports := { new m with style, localModule }
    (∀ calls others, start.Alike calls others →
      ∃ i j, start.settledBy calls = .ok i ∧ start.settledBy others = .ok j ∧
        ∀ question : Question, question.answer i = question.answer j) ∧
    ∀ calls more, ∃ i j, start.settledBy calls = .ok i ∧ start.settledBy (calls ++ more) = .ok j ∧
      ∀ pair ∈ start.registered calls, ∃ moduleAlias,
        i.alias? pair.1 = some moduleAlias ∧ j.alias? pair.1 = some moduleAlias := by
  intro start
  refine ⟨?_, alias_settledBy_append (i := start) rfl⟩
  intro calls others alike
  have settled := settledBy_eq (i := start) rfl calls
  exact ⟨_, _, settled, settledBy_alike (i := start) rfl rfl alike ▸ settled, fun _ => rfl⟩

def nestedCalls : List Registration :=
  [.typeWithHelpers ⟨.reference ⟨"a.db", "Message"⟩, [.reference ⟨"b.db", "Key"⟩]⟩ ["make"],
   .decoded (.vector (.reference ⟨"a.db", "Thread"⟩ .struct []))]

def scatteredCalls : List Registration :=
  [.type (.reference ⟨"a.db", "Thread"⟩), .type (.reference ⟨"b.db", "Key"⟩),
   .typeWithHelpers (.reference ⟨"a.db", "Message"⟩) ["make"],
   .decoded (.nullable (.reference ⟨"b.db", "Key"⟩ .newtype []))]

theorem nestedCalls_stable :
    let start : Imports := { new (typescriptMapper []) with style := .named, localModule := none }
    start.Alike nestedCalls scatteredCalls ∧
      ∃ i j, start.settledBy nestedCalls = .ok i ∧ start.settledBy scatteredCalls = .ok j ∧
        ∀ question : Question, question.answer i = question.answer j := by
  intro start
  have nested : start.registered nestedCalls =
      [("a.db", "Message"), ("a.db", "makeMessage"), ("b.db", "Key"), ("a.db", "Thread")] := by
    decide
  have scattered : start.registered scatteredCalls =
      [("a.db", "Thread"), ("b.db", "Key"), ("a.db", "Message"), ("a.db", "makeMessage"),
       ("b.db", "Key")] := by
    decide
  have alike : start.Alike nestedCalls scatteredCalls := by
    refine ⟨by rw [reached, reached, nested, scattered]; decide, ?_⟩
    intro pair
    rw [nested, scattered]
    simp only [List.mem_cons, List.not_mem_nil, or_false]
    tauto
  exact ⟨alike, (registered_stable (typescriptMapper []) .named none).1 _ _ alike⟩

end Imports

end SchemaBindings
