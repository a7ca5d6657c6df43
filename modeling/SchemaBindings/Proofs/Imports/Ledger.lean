import SchemaBindings.Imports.Ledger
import SchemaBindings.Proofs.Text.Order

/-!
What a ledger holds after any additions: each module once, in the order of first mention, with
exactly the symbols added for it in sorted order.
-/

namespace SchemaBindings.Ledger

def modules (l : Ledger) : List String :=
  l.entries.map (·.1)

def Holds (l : Ledger) (moduleName symbol : String) : Prop :=
  ∃ symbols, (moduleName, symbols) ∈ l.entries ∧ symbol ∈ symbols

structure Ordered (l : Ledger) : Prop where
  distinct : l.modules.Nodup
  sorted : ∀ entry ∈ l.entries, entry.2.Pairwise (· < ·)

def addAll (l : Ledger) (pairs : List (String × String)) : Ledger :=
  pairs.foldl (fun l pair => l.add pair.1 pair.2) l

theorem addAll_append (l : Ledger) (first second : List (String × String)) :
    l.addAll (first ++ second) = (l.addAll first).addAll second :=
  List.foldl_append

theorem add_same (moduleName symbol : String) (symbols : List String)
    (rest : List (String × List String)) :
    (Ledger.mk ((moduleName, symbols) :: rest)).add moduleName symbol =
      ⟨(moduleName, addName symbol symbols) :: rest⟩ := by
  simp [add, addEntry]

theorem add_other {moduleName : String} {entry : String × List String}
    (other : entry.1 ≠ moduleName) (symbol : String) (rest : List (String × List String)) :
    (Ledger.mk (entry :: rest)).add moduleName symbol =
      ⟨entry :: ((Ledger.mk rest).add moduleName symbol).entries⟩ := by
  simp [add, addEntry, other]

theorem modules_cons (entry : String × List String) (rest : List (String × List String)) :
    (Ledger.mk (entry :: rest)).modules = entry.1 :: (Ledger.mk rest).modules := rfl

theorem modules_add_of_mem {l : Ledger} {moduleName : String} (present : moduleName ∈ l.modules)
    (symbol : String) : (l.add moduleName symbol).modules = l.modules := by
  rcases l with ⟨entries⟩
  induction entries with
  | nil => cases present
  | cons entry rest ih =>
      by_cases same : entry.1 = moduleName
      · rcases entry with ⟨_, symbols⟩
        subst same
        rw [add_same]
        rfl
      · have later : moduleName ∈ (Ledger.mk rest).modules :=
          (List.mem_cons.mp present).resolve_left (Ne.symm same)
        rw [add_other same, modules_cons, modules_cons]
        exact congrArg _ (ih later)

theorem modules_add_of_not_mem {l : Ledger} {moduleName : String}
    (absent : moduleName ∉ l.modules) (symbol : String) :
    (l.add moduleName symbol).modules = l.modules ++ [moduleName] := by
  rcases l with ⟨entries⟩
  induction entries with
  | nil => rfl
  | cons entry rest ih =>
      rcases not_or.mp (mt List.mem_cons.mpr absent) with ⟨other, later⟩
      rw [add_other (Ne.symm other), modules_cons, modules_cons, List.cons_append]
      exact congrArg _ (ih later)

theorem holds_cons (entry : String × List String) (rest : List (String × List String))
    (moduleName symbol : String) :
    (Ledger.mk (entry :: rest)).Holds moduleName symbol ↔
      (moduleName = entry.1 ∧ symbol ∈ entry.2) ∨ (Ledger.mk rest).Holds moduleName symbol := by
  constructor
  · rintro ⟨symbols, member, present⟩
    rcases List.mem_cons.mp member with rfl | member
    · exact .inl ⟨rfl, present⟩
    · exact .inr ⟨symbols, member, present⟩
  · rintro (⟨rfl, present⟩ | ⟨symbols, member, present⟩)
    · exact ⟨entry.2, List.mem_cons_self, present⟩
    · exact ⟨symbols, List.mem_cons_of_mem _ member, present⟩

theorem holds_add (l : Ledger) {moduleName symbol other wanted : String} :
    (l.add moduleName symbol).Holds other wanted ↔
      (other = moduleName ∧ wanted = symbol) ∨ l.Holds other wanted := by
  rcases l with ⟨entries⟩
  induction entries with
  | nil =>
      have added : (Ledger.mk []).add moduleName symbol = ⟨[(moduleName, [symbol])]⟩ := rfl
      rw [added, holds_cons, List.mem_singleton]
  | cons entry rest ih =>
      by_cases same : entry.1 = moduleName
      · rcases entry with ⟨_, symbols⟩
        subst same
        rw [add_same, holds_cons, holds_cons, mem_addName, and_or_left, or_assoc]
      · rw [add_other same, holds_cons, holds_cons]
        exact (or_congr_right ih).trans or_left_comm

theorem ordered_empty : Ordered .empty :=
  ⟨.nil, by simp [empty]⟩

theorem forall_add {p : List String → Prop} {l : Ledger} {symbol : String}
    (each : ∀ entry ∈ l.entries, p entry.2) (alone : p [symbol])
    (added : ∀ symbols, p symbols → p (addName symbol symbols)) (moduleName : String) :
    ∀ entry ∈ (l.add moduleName symbol).entries, p entry.2 := by
  rcases l with ⟨entries⟩
  induction entries with
  | nil =>
      intro entry member
      rw [List.mem_singleton.mp member]
      exact alone
  | cons entry rest ih =>
      rcases List.forall_mem_cons.mp each with ⟨first, later⟩
      by_cases same : entry.1 = moduleName
      · rcases entry with ⟨_, symbols⟩
        subst same
        rw [add_same]
        exact List.forall_mem_cons.mpr ⟨added symbols first, later⟩
      · rw [add_other same]
        exact List.forall_mem_cons.mpr ⟨first, ih later⟩

theorem sorted_add {l : Ledger} (sorted : ∀ entry ∈ l.entries, entry.2.Pairwise (· < ·))
    (moduleName symbol : String) :
    ∀ entry ∈ (l.add moduleName symbol).entries, entry.2.Pairwise (· < ·) :=
  forall_add sorted (List.pairwise_singleton _ _) (fun _ => addName_sorted) moduleName

theorem distinct_add {l : Ledger} (distinct : l.modules.Nodup) (moduleName symbol : String) :
    (l.add moduleName symbol).modules.Nodup := by
  by_cases present : moduleName ∈ l.modules
  · rw [modules_add_of_mem present]
    exact distinct
  · rw [modules_add_of_not_mem present, List.nodup_append]
    refine ⟨distinct, by simp, ?_⟩
    rintro other member added memberAdded rfl
    exact present (List.mem_singleton.mp memberAdded ▸ member)

theorem ordered_add {l : Ledger} (ordered : l.Ordered) (moduleName symbol : String) :
    (l.add moduleName symbol).Ordered :=
  ⟨distinct_add ordered.distinct moduleName symbol, sorted_add ordered.sorted moduleName symbol⟩

theorem ordered_addAll {l : Ledger} (ordered : l.Ordered) (pairs : List (String × String)) :
    (l.addAll pairs).Ordered := by
  induction pairs generalizing l with
  | nil => exact ordered
  | cons pair rest ih => exact ih (ordered_add ordered pair.1 pair.2)

theorem symbols_addAll_ne_nil {l : Ledger} (listed : ∀ entry ∈ l.entries, entry.2 ≠ [])
    (pairs : List (String × String)) : ∀ entry ∈ (l.addAll pairs).entries, entry.2 ≠ [] := by
  induction pairs generalizing l with
  | nil => exact listed
  | cons pair rest ih =>
      have filled (symbols : List String) : addName pair.2 symbols ≠ [] :=
        List.ne_nil_of_mem (mem_addName.mpr (.inl rfl))
      have next : ∀ entry ∈ (l.add pair.1 pair.2).entries, entry.2 ≠ [] :=
        forall_add (p := (· ≠ [])) listed (List.cons_ne_nil _ _) (fun symbols _ => filled symbols)
          pair.1
      exact ih next

theorem holds_addAll (l : Ledger) (pairs : List (String × String)) {moduleName symbol : String} :
    (l.addAll pairs).Holds moduleName symbol ↔
      (moduleName, symbol) ∈ pairs ∨ l.Holds moduleName symbol := by
  induction pairs generalizing l with
  | nil => simp [addAll]
  | cons pair rest ih =>
      have step : l.addAll (pair :: rest) = (l.add pair.1 pair.2).addAll rest := rfl
      rw [step, ih, holds_add, List.mem_cons, Prod.ext_iff]
      exact or_left_comm.trans or_assoc.symm

/-- Modules stand in the order of first mention. -/
theorem modules_addAll {l : Ledger} (distinct : l.modules.Nodup) (pairs : List (String × String)) :
    (l.addAll pairs).modules = (l.modules ++ pairs.map (·.1)).eraseDups := by
  induction pairs generalizing l with
  | nil =>
      rw [List.map_nil, List.append_nil]
      exact (eraseDups_of_nodup distinct).symm
  | cons pair rest ih =>
      have step : l.addAll (pair :: rest) = (l.add pair.1 pair.2).addAll rest := rfl
      rw [step, ih (distinct_add distinct pair.1 pair.2), List.map_cons]
      by_cases present : pair.1 ∈ l.modules
      · rw [modules_add_of_mem present]
        exact (eraseDups_append_cons present _).symm
      · rw [modules_add_of_not_mem present, List.append_assoc]
        rfl

example : (Ledger.empty.addAll [("b", "y"), ("a", "x"), ("b", "x")]).entries =
    [("b", ["x", "y"]), ("a", ["x"])] := by decide

theorem holds_iff_mem {l : Ledger} (distinct : l.modules.Nodup) {moduleName symbol : String}
    {symbols : List String} (member : (moduleName, symbols) ∈ l.entries) :
    l.Holds moduleName symbol ↔ symbol ∈ symbols := by
  constructor
  · rintro ⟨others, found, present⟩
    have same := (lookup_of_mem distinct found).symm.trans (lookup_of_mem distinct member)
    exact Option.some.inj same ▸ present
  · intro present
    exact ⟨symbols, member, present⟩

theorem contains_of_holds {l : Ledger} (ordered : l.Ordered) {moduleName symbol : String}
    (held : l.Holds moduleName symbol) : l.contains moduleName symbol = true := by
  rcases held with ⟨symbols, member, present⟩
  have found : l.entries.lookup moduleName = some symbols := lookup_of_mem ordered.distinct member
  simp [contains, Ledger.symbols, found, present]

end SchemaBindings.Ledger
