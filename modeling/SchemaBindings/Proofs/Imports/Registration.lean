import SchemaBindings.Imports.Basic
import SchemaBindings.Proofs.Failure
import SchemaBindings.Proofs.Imports.Ledger

/-!
Registration as a list of wanted symbols. Whatever is registered while a helper is open comes to one
addition to its ledger, and what is wanted stays known from then on.
-/

namespace SchemaBindings

/-- A declaration with what stands before its name in the symbol wanted. -/
structure Wanted where
  name : ScopedName
  before : String
  deriving DecidableEq, Repr

namespace Wanted

def symbol (w : Wanted) : String :=
  w.before ++ w.name.name

def entry (w : Wanted) : String × String :=
  (w.name.moduleName, w.symbol)

/-- The declaration itself and then its helpers. -/
def declaration (helpers : List String) (name : ScopedName) : List Wanted :=
  ("" :: helpers).map (⟨name, ·⟩)

theorem symbol_own (name : ScopedName) : symbol ⟨name, ""⟩ = name.name :=
  String.empty_append

theorem mem_declaration {helpers : List String} {name : ScopedName} {w : Wanted} :
    w ∈ declaration helpers name ↔ w.name = name ∧ (w.before = "" ∨ w.before ∈ helpers) := by
  rcases w with ⟨other, before⟩
  simp only [declaration, List.mem_map, List.mem_cons, mk.injEq]
  constructor
  · rintro ⟨_, wanted, rfl, rfl⟩
    exact ⟨rfl, wanted⟩
  · rintro ⟨rfl, wanted⟩
    exact ⟨before, wanted, rfl, rfl⟩

end Wanted

def TypeExpr.wanted (te : TypeExpr) (helpers : List String) : List Wanted :=
  te.head.reference?.toList.flatMap (Wanted.declaration helpers) ++
    (TypeExpr.referencesAll te.parameters).flatMap (Wanted.declaration [])

def Decoded.wanted (d : Decoded) : List Wanted :=
  (d.references.map (·.1)).flatMap (Wanted.declaration [])

namespace Imports

/-- Of another module than the local one, and without a text of its own. -/
def IsForeign (i : Imports) (name : ScopedName) : Prop :=
  i.localModule ≠ some name.moduleName ∧ i.mapper.native name = none

instance (i : Imports) (name : ScopedName) : Decidable (i.IsForeign name) :=
  inferInstanceAs (Decidable (_ ∧ _))

theorem isImported_iff {i : Imports} {name : ScopedName} :
    i.isImported name = true ↔ i.IsForeign name := by
  simp [isImported, isLocal, IsForeign]

def foreign (i : Imports) (wanted : List Wanted) : List (String × String) :=
  (wanted.filter (i.IsForeign ·.name)).map Wanted.entry

def record (i : Imports) (wanted : List Wanted) : Imports :=
  { i with ledger := i.ledger.addAll (i.foreign wanted) }

theorem record_append (i : Imports) (first second : List Wanted) :
    (i.record first).record second = i.record (first ++ second) := by
  have same : (i.record first).foreign second = i.foreign second := rfl
  have both : i.foreign (first ++ second) = i.foreign first ++ i.foreign second := by
    rw [foreign, List.filter_append, List.map_append]
    rfl
  simp only [record, both, Ledger.addAll_append]
  rw [← same]
  rfl

theorem mem_foreign {i : Imports} {wanted : List Wanted} {pair : String × String} :
    pair ∈ i.foreign wanted ↔ ∃ w ∈ wanted, i.IsForeign w.name ∧ w.entry = pair := by
  simp only [foreign, List.mem_map, List.mem_filter, decide_eq_true_eq, and_assoc]

theorem register_eq (i : Imports) (helpers : List String) (name : ScopedName) :
    i.register helpers name = i.record (Wanted.declaration helpers name) := by
  have addSymbols : ∀ (l : Ledger) (befores : List String),
      (befores.map (· ++ name.name)).foldl (fun l symbol => l.add name.moduleName symbol) l =
        l.addAll ((befores.map (Wanted.mk name)).map Wanted.entry) := by
    intro l befores
    rw [List.foldl_map, Ledger.addAll, List.foldl_map, List.foldl_map]
    rfl
  unfold register
  by_cases imported : i.isImported name = true
  · have kept : i.foreign (Wanted.declaration helpers name) =
        (Wanted.declaration helpers name).map Wanted.entry := by
      rw [foreign, List.filter_eq_self.mpr]
      intro w member
      rw [(Wanted.mem_declaration.mp member).1]
      exact decide_eq_true (isImported_iff.mp imported)
    have symbols : name.name :: helpers.map (· ++ name.name) =
        ("" :: helpers).map (· ++ name.name) := by
      rw [List.map_cons, String.empty_append]
    simp only [if_pos imported, record, kept, symbols, addSymbols]
    rfl
  · have dropped : i.foreign (Wanted.declaration helpers name) = [] := by
      rw [foreign, List.filter_eq_nil_iff.mpr, List.map_nil]
      intro w member
      rw [(Wanted.mem_declaration.mp member).1, decide_eq_true_eq]
      exact mt isImported_iff.mpr imported
    simp only [if_neg imported, record, dropped]
    rfl

theorem register_foldl (i : Imports) (helpers : List String) (names : List ScopedName) :
    names.foldl (register · helpers) i =
      i.record (names.flatMap (Wanted.declaration helpers)) := by
  induction names generalizing i with
  | nil => rfl
  | cons name rest ih =>
      rw [List.foldl_cons, register_eq, ih, record_append, List.flatMap_cons]

theorem ensureOpen_of_open {i : Imports} (opened : i.settled = none) (operation : String) :
    i.ensureOpen operation = .ok () := by
  simp [ensureOpen, isSettled, opened]

theorem addTypeWithHelpers_eq {i : Imports} (opened : i.settled = none) (te : TypeExpr)
    (helpers : List String) :
    i.addTypeWithHelpers te helpers = .ok (i.record (te.wanted helpers)) := by
  unfold addTypeWithHelpers
  rw [ensureOpen_of_open opened]
  have both : (TypeExpr.referencesAll te.parameters).foldl (register · [])
      (te.head.reference?.toList.foldl (register · helpers) i) = i.record (te.wanted helpers) := by
    rw [register_foldl, register_foldl, record_append]
    rfl
  exact congrArg Except.ok both

theorem addType_eq {i : Imports} (opened : i.settled = none) (te : TypeExpr) :
    i.addType te = .ok (i.record (te.wanted [])) :=
  addTypeWithHelpers_eq opened te []

theorem addDecoded_eq {i : Imports} (opened : i.settled = none) (d : Decoded) :
    i.addDecoded d = .ok (i.record d.wanted) := by
  unfold addDecoded
  rw [ensureOpen_of_open opened]
  exact congrArg Except.ok (register_foldl i [] (d.references.map (·.1)))

def Knows (i : Imports) (w : Wanted) : Prop :=
  i.IsForeign w.name → i.ledger.Holds w.name.moduleName w.symbol

theorem knows_of_mem {i : Imports} {wanted : List Wanted} {w : Wanted} (member : w ∈ wanted) :
    (i.record wanted).Knows w := by
  intro imported
  exact (Ledger.holds_addAll _ _).mpr (.inl (mem_foreign.mpr ⟨w, member, imported, rfl⟩))

theorem Knows.record {i : Imports} {w : Wanted} (known : i.Knows w) (wanted : List Wanted) :
    (i.record wanted).Knows w := by
  intro imported
  exact (Ledger.holds_addAll _ _).mpr (.inr (known imported))

end Imports

inductive Registration where
  | type (te : TypeExpr)
  | typeWithHelpers (te : TypeExpr) (helpers : List String)
  | decoded (d : Decoded)
  deriving Repr

namespace Registration

def apply (i : Imports) : Registration → Except GenerationError Imports
  | .type te => i.addType te
  | .typeWithHelpers te helpers => i.addTypeWithHelpers te helpers
  | .decoded d => i.addDecoded d

def wanted : Registration → List Wanted
  | .type te => te.wanted []
  | .typeWithHelpers te helpers => te.wanted helpers
  | .decoded d => d.wanted

theorem apply_eq {i : Imports} (opened : i.settled = none) (call : Registration) :
    apply i call = .ok (i.record call.wanted) := by
  cases call with
  | type te => exact Imports.addType_eq opened te
  | typeWithHelpers te helpers => exact Imports.addTypeWithHelpers_eq opened te helpers
  | decoded d => exact Imports.addDecoded_eq opened d

theorem run_eq {i : Imports} (opened : i.settled = none) (calls : List Registration) :
    calls.foldlM apply i = .ok (i.record (calls.flatMap wanted)) := by
  induction calls generalizing i with
  | nil => rfl
  | cons call rest ih =>
      have still : (i.record call.wanted).settled = none := opened
      rw [List.foldlM_cons, apply_eq opened]
      calc
        rest.foldlM apply (i.record call.wanted) =
            .ok ((i.record call.wanted).record (rest.flatMap wanted)) := ih still
        _ = .ok (i.record ((call :: rest).flatMap wanted)) := by
            rw [Imports.record_append, List.flatMap_cons]

end Registration

end SchemaBindings
