import Mathlib.Data.List.Nodup
import SchemaBindings.Json.Reading
import SchemaBindings.Proofs.Failure
import SchemaBindings.Proofs.Text.Order

/-!
Trees that hold a value, and what readings make of them. A reading gives for every tree that holds a
value the same result, whatever the offsets, as long as the brackets of the value may be entered.
-/

namespace SchemaBindings.Json

mutual

/-- The tree is that of a text that spells the value, with no part flawed or cut off. -/
inductive Outline.Holds : Outline → Value → Prop where
  | scalar {start after : Nat} {scalar : Scalar} {v : Value} (same : scalar.value = v) :
      Outline.Holds (.scalar start scalar after) v
  | array {start : Nat} {items : Items} {values : List Value} (each : items.Hold values) :
      Outline.Holds (.array start items) (.array values)
  | object {start : Nat} {members : Members} {values : List (String × Value)}
      (each : members.Hold values) : Outline.Holds (.object start members) (.object values)

inductive Items.Hold : Items → List Value → Prop where
  | done {after : Nat} : Items.Hold (.done (.closed after)) []
  | more {start resume : Nat} {item : Outline} {rest : Items} {v : Value} {values : List Value}
      (first : item.Holds v) (later : rest.Hold values) :
      Items.Hold (.more start item resume rest) (v :: values)

inductive Members.Hold : Members → List (String × Value) → Prop where
  | done {after : Nat} : Members.Hold (.done (.closed after)) []
  | more {name : String} {after leave resume : Nat} {member : Outline} {rest : Members} {v : Value}
      {values : List (String × Value)} (first : member.Holds v) (later : rest.Hold values) :
      Members.Hold (.more ⟨.ok name, after, leave⟩ member resume rest) ((name, v) :: values)

end

mutual

def Value.nesting : Value → Nat
  | .array items => itemsNesting items + 1
  | .object members => membersNesting members + 1
  | _ => 0

def itemsNesting : List Value → Nat
  | [] => 0
  | v :: values => max v.nesting (itemsNesting values)

def membersNesting : List (String × Value) → Nat
  | [] => 0
  | (_, v) :: values => max v.nesting (membersNesting values)

end

theorem itemsNesting_le {values : List Value} {depth : Nat} :
    itemsNesting values ≤ depth ↔ ∀ v ∈ values, v.nesting ≤ depth := by
  induction values with
  | nil => simp [itemsNesting]
  | cons v rest ih => rw [itemsNesting, Nat.max_le, ih, List.forall_mem_cons]

theorem membersNesting_le {values : List (String × Value)} {depth : Nat} :
    membersNesting values ≤ depth ↔ ∀ member ∈ values, member.2.nesting ≤ depth := by
  induction values with
  | nil => simp [membersNesting]
  | cons member rest ih => rw [membersNesting, Nat.max_le, ih, List.forall_mem_cons]

/-- Whatever tree holds the value, and however deep it lies, the reading gives `x`. -/
def Reads {α : Type} (read : Reading α) (v : Value) (x : α) : Prop :=
  ∀ depth outline, v.nesting ≤ depth → outline.Holds v → read depth outline = .ok x

variable {α β : Type} {read : Reading α} {v : Value} {x : α}

theorem Reads.map (reads : Reads read v x) (f : α → β) :
    Reads (fun depth outline => (read depth outline).map f) v (f x) := by
  intro depth outline shallow holds
  change (read depth outline).map f = _
  rw [reads depth outline shallow holds]
  rfl

theorem reads_text (s : String) : Reads text (.string s) s := by
  intro depth outline _ holds
  cases holds with
  | @scalar start after scalar v same =>
      cases scalar with
      | string other =>
          cases same
          rfl
      | null => cases same
      | bool b => cases same
      | number n => cases same

theorem reads_none (read : Reading α) : Reads (optional read) .null none := by
  intro depth outline _ holds
  cases holds with
  | @scalar start after scalar v same =>
      cases scalar with
      | null => rfl
      | bool b => cases same
      | number n => cases same
      | string s => cases same

theorem reads_some (reads : Reads read v x) (present : v ≠ .null) :
    Reads (optional read) v (some x) := by
  intro depth outline shallow holds
  have ran := reads depth outline shallow holds
  have wrapped : optional read depth outline = (read depth outline).map some := by
    cases holds with
    | @scalar start after scalar v same =>
        cases scalar with
        | null => exact absurd same.symm present
        | bool b => rfl
        | number n => rfl
        | string s => rfl
    | array each => rfl
    | object each => rfl
  rw [wrapped, ran]
  rfl

/-! ### Lists and maps -/

theorem readAll_of_hold {read : Outline → Except Fault α} {write : α → Value} {xs : List α}
    {items : Items} (holds : items.Hold (xs.map write))
    (each : ∀ x ∈ xs, ∀ item : Outline, item.Holds (write x) → read item = .ok x) :
    items.readAll read = .ok xs := by
  induction xs generalizing items with
  | nil =>
      cases holds
      rfl
  | cons x rest ih =>
      cases holds with
      | @more start resume item later _ _ first others =>
          have ran := each x List.mem_cons_self item first
          have following := ih others fun y member => each y (List.mem_cons_of_mem x member)
          rw [Items.readAll, ran, following]
          rfl

theorem reads_list {write : α → Value} {xs : List α}
    (each : ∀ x ∈ xs, Reads read (write x) x) :
    Reads (list read) (.array (xs.map write)) xs := by
  intro depth outline shallow holds
  cases holds with
  | @scalar start after scalar v same => cases scalar <;> cases same
  | array items =>
      cases depth with
      | zero => exact absurd shallow (Nat.not_succ_le_zero _)
      | succ depth =>
          have inner := itemsNesting_le.mp (Nat.le_of_succ_le_succ shallow)
          refine readAll_of_hold items fun x member item first => ?_
          exact each x member depth item (inner _ (List.mem_map_of_mem member)) first

theorem putKey_of_absent {name : String} {x : α} {entries : List (String × α)}
    (absent : name ∉ entries.map (·.1)) : putKey name x entries = entries ++ [(name, x)] := by
  induction entries with
  | nil => rfl
  | cons entry rest ih =>
      rw [List.map_cons, List.mem_cons, not_or] at absent
      rw [putKey, if_neg (Ne.symm absent.1), ih absent.2, List.cons_append]

theorem fresh_of_nodup {entries rest : List (String × α)} {entry : String × α}
    (distinct : ((entries ++ entry :: rest).map (·.1)).Nodup) : entry.1 ∉ entries.map (·.1) := by
  rw [List.map_append, List.map_cons] at distinct
  intro present
  exact (List.nodup_append.mp distinct).2.2 _ present _ List.mem_cons_self rfl

theorem keyed_readAll_of_hold {read : Outline → Except Fault α} {write : α → Value}
    (entries : List (String × α)) {xs : List (String × α)} {members : Members}
    (holds : members.Hold (xs.map fun entry => (entry.1, write entry.2)))
    (distinct : ((entries ++ xs).map (·.1)).Nodup)
    (each : ∀ entry ∈ xs, ∀ member : Outline, member.Holds (write entry.2) →
      read member = .ok entry.2) :
    members.readAll read entries = .ok (entries ++ xs) := by
  induction xs generalizing members entries with
  | nil =>
      cases holds
      rw [List.append_nil]
      rfl
  | cons entry rest ih =>
      cases holds with
      | @more name after leave resume member later _ _ first others =>
          have ran := each entry List.mem_cons_self member first
          have absent := fresh_of_nodup distinct
          rw [List.append_cons] at distinct
          have following := ih _ others distinct fun other among =>
            each other (List.mem_cons_of_mem entry among)
          rw [Members.readAll, ran, List.append_cons, ← following, ← putKey_of_absent absent]
          rfl

/-- Members of distinct names keep their order. -/
theorem reads_keyed {write : α → Value} {xs : List (String × α)} (distinct : (xs.map (·.1)).Nodup)
    (each : ∀ entry ∈ xs, Reads read (write entry.2) entry.2) :
    Reads (keyed read) (.object (xs.map fun entry => (entry.1, write entry.2))) xs := by
  intro depth outline shallow holds
  cases holds with
  | @scalar start after scalar v same => cases scalar <;> cases same
  | object members =>
      cases depth with
      | zero => exact absurd shallow (Nat.not_succ_le_zero _)
      | succ depth =>
          have inner := membersNesting_le.mp (Nat.le_of_succ_le_succ shallow)
          refine keyed_readAll_of_hold [] members distinct fun entry member item first => ?_
          exact each entry member depth item (inner _ (List.mem_map.mpr ⟨entry, member, rfl⟩)) first

/-! ### Records -/

/-- Slot by slot, a member of that name is read and its value put into the record. -/
inductive Fills {α : Type} : List (Slot α) → List (String × Value) → α → α → Prop where
  | nil (x : α) : Fills [] [] x x
  | cons {slot : Slot α} {slots : List (Slot α)} {v : Value} {members : List (String × Value)}
      {update : α → α} {x y : α} (reads : Reads slot.read v update)
      (rest : Fills slots members (update x) y) :
      Fills (slot :: slots) ((slot.name, v) :: members) x y

theorem fill_of_fills {all slots : List (Slot α)} {values : List (String × Value)} {x y : α}
    (fills : Fills slots values x y) {depth : Nat} (shallow : membersNesting values ≤ depth)
    (known : ∀ slot ∈ slots, all.find? (·.name == slot.name) = some slot)
    (distinct : (slots.map (·.name)).Nodup) {members : Members} (holds : members.Hold values)
    (seen : List String) (fresh : ∀ slot ∈ slots, slot.name ∉ seen) :
    ∃ met after, members.fill all depth seen x = .ok (met, y, after) ∧
      ∀ name, name ∈ met ↔ name ∈ seen ∨ name ∈ slots.map (·.name) := by
  induction fills generalizing members seen with
  | nil x =>
      cases holds
      exact ⟨seen, _, rfl, by simp⟩
  | @cons slot slots v values update x y reads _ ih =>
      cases holds with
      | @more name after leave resume member rest _ _ first later =>
          obtain ⟨here, there⟩ := List.forall_mem_cons.mp (membersNesting_le.mp shallow)
          rw [List.map_cons, List.nodup_cons] at distinct
          have ran : slot.read depth member = .ok update := reads depth member here first
          have unseen : seen.contains slot.name = false := by
            simpa using fresh slot List.mem_cons_self
          -- The slots to come are not the one just met, for their names differ.
          obtain ⟨met, after, filled, names⟩ := ih (membersNesting_le.mpr there)
            (fun other among => known other (List.mem_cons_of_mem slot among)) distinct.2 later
            (slot.name :: seen) (by
              intro other among
              rw [List.mem_cons, not_or]
              refine ⟨?_, fresh other (List.mem_cons_of_mem slot among)⟩
              intro same
              exact distinct.1 (same ▸ List.mem_map_of_mem among))
          refine ⟨met, after, ?_, ?_⟩
          · rw [← filled, Members.fill]
            simp [bind, Except.bind, known slot List.mem_cons_self, fresh slot List.mem_cons_self,
              ran, Except.mapError]
          · intro name
            rw [names, List.map_cons, List.mem_cons, List.mem_cons, or_left_comm, or_assoc]

/-- A record written with every slot, in order, is read as what the slots are filled with. -/
theorem reads_record {title : String} {blank y : α} {slots : List (Slot α)}
    {values : List (String × Value)} (distinct : (slots.map (·.name)).Nodup)
    (fills : Fills slots values blank y) : Reads (record title blank slots) (.object values) y := by
  intro depth outline shallow holds
  cases holds with
  | @scalar start after scalar v same => cases scalar <;> cases same
  | object members =>
      cases depth with
      | zero => exact absurd shallow (Nat.not_succ_le_zero _)
      | succ depth =>
          have known : ∀ slot ∈ slots, slots.find? (·.name == slot.name) = some slot :=
            fun slot among => (find?_eq_some_iff_of_distinct distinct).mpr ⟨among, rfl⟩
          obtain ⟨met, after, filled, names⟩ := fill_of_fills fills
            (Nat.le_of_succ_le_succ shallow) known distinct members [] (by simp)
          have complete : slots.find? (fun slot => slot.required && !met.contains slot.name) =
              none := by
            rw [List.find?_eq_none]
            intro slot among
            simp [(names slot.name).mpr (.inr (List.mem_map_of_mem among))]
          simp only [record, entering, bind, Except.bind, filled, complete]
          rfl

/-! ### Tagged values -/

theorem reads_tagged {variants : List (Variant α)} (variant : Variant α)
    (known : variants.find? (·.tag == variant.tag) = some variant)
    (reads : Reads variant.read v x) : Reads (tagged variants) (.object [(variant.tag, v)]) x := by
  intro depth outline shallow holds
  cases holds with
  | @scalar start after scalar v same => cases scalar <;> cases same
  | object members =>
      cases depth with
      | zero => exact absurd shallow (Nat.not_succ_le_zero _)
      | succ depth =>
          cases members with
          | @more name after leave resume member rest _ _ first later =>
              cases later
              have inner := membersNesting_le.mp (Nat.le_of_succ_le_succ shallow)
              have ran := reads depth member (inner _ List.mem_cons_self) first
              simp [tagged, entering, bind, Except.bind, known, ran, Members.close]
              rfl

/-! ### Any value -/

mutual

def Value.sorted : Value → Bool
  | .array items => itemsSorted items
  | .object members => (members.map (·.1)).Pairwise (· < ·) && membersSorted members
  | _ => true

def itemsSorted : List Value → Bool
  | [] => true
  | v :: values => v.sorted && itemsSorted values

def membersSorted : List (String × Value) → Bool
  | [] => true
  | (_, v) :: values => v.sorted && membersSorted values

end

theorem foldl_putKey_of_distinct {members : List (String × Value)} (kept : List (String × Value))
    (distinct : ((kept ++ members).map (·.1)).Nodup) :
    members.foldl (fun kept m => putKey m.1 m.2 kept) kept = kept ++ members := by
  induction members generalizing kept with
  | nil => rw [List.foldl_nil, List.append_nil]
  | cons member rest ih =>
      have absent := fresh_of_nodup distinct
      rw [List.append_cons] at distinct ⊢
      rw [List.foldl_cons, putKey_of_absent absent, ih _ distinct]

theorem sortedMembers_eq_self {members : List (String × Value)}
    (increasing : (members.map (·.1)).Pairwise (· < ·)) : sortedMembers members = members := by
  have distinct : (members.map (·.1)).Nodup := increasing.imp String.ne_of_lt
  rw [sortedMembers, foldl_putKey_of_distinct [] distinct]
  exact sortBy_eq_self ((List.pairwise_map.mp increasing).imp fun before => Std.le_of_lt before)

mutual

theorem canonical_eq_self : ∀ {v : Value}, v.sorted = true → canonical v = v
  | .null, _ => rfl
  | .bool _, _ => rfl
  | .number _, _ => rfl
  | .string _, _ => rfl
  | .array _, sorted => congrArg Value.array (canonicalItems_eq_self sorted)
  | .object members, sorted => by
      rw [Value.sorted, Bool.and_eq_true, decide_eq_true_eq] at sorted
      rw [canonical, canonicalMembers_eq_self sorted.2, sortedMembers_eq_self sorted.1]

theorem canonicalItems_eq_self : ∀ {values : List Value}, itemsSorted values = true →
    canonicalItems values = values
  | [], _ => rfl
  | v :: values, sorted => by
      rw [itemsSorted, Bool.and_eq_true] at sorted
      rw [canonicalItems, canonical_eq_self sorted.1, canonicalItems_eq_self sorted.2]

theorem canonicalMembers_eq_self : ∀ {values : List (String × Value)},
    membersSorted values = true → canonicalMembers values = values
  | [], _ => rfl
  | (name, v) :: values, sorted => by
      rw [membersSorted, Bool.and_eq_true] at sorted
      rw [canonicalMembers, canonical_eq_self sorted.1, canonicalMembers_eq_self sorted.2]

end

mutual

theorem value_of_holds : ∀ {v : Value} {outline : Outline} {depth : Nat}, v.nesting ≤ depth →
    outline.Holds v → outline.value depth = .ok (canonical v)
  | v, _, _, _, @Outline.Holds.scalar _ _ scalar _ same => by
      subst same
      rw [Outline.value]
      cases scalar <;> rfl
  | .array values, _, 0, shallow, .array each => absurd shallow (Nat.not_succ_le_zero _)
  | .array values, _, depth + 1, shallow, .array each => by
      have ran := values_of_hold (Nat.le_of_succ_le_succ shallow) each
      rw [Outline.value, ran]
      rfl
  | .object values, _, 0, shallow, .object each => absurd shallow (Nat.not_succ_le_zero _)
  | .object values, _, depth + 1, shallow, .object each => by
      have ran := members_of_hold (Nat.le_of_succ_le_succ shallow) each
      rw [Outline.value, ran]
      rfl

theorem values_of_hold : ∀ {values : List Value} {items : Items} {depth : Nat},
    itemsNesting values ≤ depth → items.Hold values →
    items.values depth = .ok (canonicalItems values)
  | [], _, _, _, .done => rfl
  | v :: values, _, depth, shallow, .more first later => by
      have here := value_of_holds (Nat.le_trans (Nat.le_max_left _ _) shallow) first
      have there := values_of_hold (Nat.le_trans (Nat.le_max_right _ _) shallow) later
      rw [Items.values, here, there]
      rfl

theorem members_of_hold : ∀ {values : List (String × Value)} {members : Members} {depth : Nat},
    membersNesting values ≤ depth → members.Hold values →
    members.values depth = .ok (canonicalMembers values)
  | [], _, _, _, .done => rfl
  | (name, v) :: values, _, depth, shallow, .more first later => by
      have here := value_of_holds (Nat.le_trans (Nat.le_max_left _ _) shallow) first
      have there := members_of_hold (Nat.le_trans (Nat.le_max_right _ _) shallow) later
      rw [Members.values, here, there]
      rfl

end

theorem reads_any (sorted : v.sorted = true) : Reads any v v := by
  intro depth outline shallow holds
  rw [any, value_of_holds shallow holds, canonical_eq_self sorted]

end SchemaBindings.Json
