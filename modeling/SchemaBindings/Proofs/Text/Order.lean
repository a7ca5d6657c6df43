import Mathlib.Data.List.Nodup
import SchemaBindings.Text.Order

/-! Sorted names, distinct names, and lookup and sorting by keys that are distinct. -/

namespace SchemaBindings

theorem nameLe_iff {a b : String} : nameLe a b = true ↔ a ≤ b := by
  simp only [nameLe, Bool.not_eq_true', decide_eq_false_iff_not, String.not_lt]

theorem mem_addName {name symbol : String} {names : List String} :
    symbol ∈ addName name names ↔ symbol = name ∨ symbol ∈ names := by
  induction names with
  | nil => simp [addName]
  | cons other rest ih =>
      rw [addName]
      by_cases same : name = other
      · subst same
        simp
      · rw [if_neg same]
        by_cases before : nameLe name other
        · simp [if_pos before]
        · rw [if_neg before, List.mem_cons, List.mem_cons, ih]
          exact or_left_comm

theorem addName_sorted {name : String} {names : List String} (sorted : names.Pairwise (· < ·)) :
    (addName name names).Pairwise (· < ·) := by
  induction names with
  | nil => simp [addName]
  | cons other rest ih =>
      rcases List.pairwise_cons.mp sorted with ⟨first, later⟩
      rw [addName]
      by_cases same : name = other
      · rw [if_pos same]
        exact sorted
      · rw [if_neg same]
        by_cases before : nameLe name other
        · have smaller : name < other := String.not_le.mp fun after =>
            same (String.le_antisymm (nameLe_iff.mp before) after)
          rw [if_pos before]
          refine List.pairwise_cons.mpr ⟨?_, sorted⟩
          intro symbol member
          rcases List.mem_cons.mp member with rfl | member
          · exact smaller
          · exact String.lt_trans smaller (first symbol member)
        · have smaller : other < name := String.not_le.mp (by simpa [nameLe_iff] using before)
          rw [if_neg before]
          refine List.pairwise_cons.mpr ⟨?_, ih later⟩
          intro symbol member
          rcases mem_addName.mp member with rfl | member
          · exact smaller
          · exact first symbol member

theorem eraseDups_of_nodup {names : List String} (distinct : names.Nodup) :
    names.eraseDups = names := by
  induction names with
  | nil => rfl
  | cons name rest ih =>
      rcases List.nodup_cons.mp distinct with ⟨absent, distinct⟩
      have kept : rest.filter (fun other => !other == name) = rest := by
        refine List.filter_eq_self.mpr ?_
        intro other member
        have different : other ≠ name := fun same => absent (same ▸ member)
        simpa using different
      rw [List.eraseDups_cons, kept, ih distinct]

theorem eraseDups_append_cons {names : List String} {name : String} (present : name ∈ names)
    (rest : List String) : (names ++ name :: rest).eraseDups = (names ++ rest).eraseDups := by
  have dropped : (name :: rest).removeAll names = rest.removeAll names := by
    rw [List.cons_removeAll, if_neg (by simpa using present)]
  rw [List.eraseDups_append, List.eraseDups_append, dropped]

theorem lookup_of_mem {κ β : Type} [BEq κ] [LawfulBEq κ] {entries : List (κ × β)} {key : κ}
    {value : β} (distinct : (entries.map (·.1)).Nodup) (member : (key, value) ∈ entries) :
    entries.lookup key = some value := by
  induction entries with
  | nil => cases member
  | cons entry rest ih =>
      rcases List.nodup_cons.mp distinct with ⟨absent, distinct⟩
      rw [List.lookup_cons]
      rcases List.mem_cons.mp member with rfl | member
      · simp
      · have other : key ≠ entry.1 := by
          rintro rfl
          exact absent (List.mem_map.mpr ⟨_, member, rfl⟩)
        rw [beq_eq_false_iff_ne.mpr other]
        exact ih distinct member

theorem lookup_of_mem_keys {β : Type} {entries : List (String × β)} {key : String}
    (present : key ∈ entries.map (·.1)) : ∃ value, entries.lookup key = some value := by
  induction entries with
  | nil => cases present
  | cons entry rest ih =>
      rw [List.lookup_cons]
      by_cases same : key = entry.1
      · exact ⟨entry.2, by simp [same]⟩
      · rw [beq_eq_false_iff_ne.mpr same]
        exact ih ((List.mem_cons.mp present).resolve_left same)

section Keyed

variable {α : Type} {key : α → String} {xs ys : List α}

theorem find?_eq_some_iff_of_distinct (distinct : (xs.map key).Nodup) {name : String} {x : α} :
    xs.find? (key · == name) = some x ↔ x ∈ xs ∧ key x = name := by
  constructor
  · intro found
    have named := List.find?_some found
    exact ⟨List.mem_of_find?_eq_some found, eq_of_beq named⟩
  · rintro ⟨member, rfl⟩
    obtain ⟨y, found⟩ : ∃ y, xs.find? (key · == key x) = some y :=
      Option.isSome_iff_exists.mp (List.find?_isSome.mpr ⟨x, member, by simp⟩)
    have named := List.find?_some found
    have same : y = x := List.inj_on_of_nodup_map distinct (List.mem_of_find?_eq_some found) member
      (eq_of_beq named)
    rw [found, same]

theorem find?_eq_of_perm (distinct : (xs.map key).Nodup) (perm : xs.Perm ys) (name : String) :
    xs.find? (key · == name) = ys.find? (key · == name) := by
  have otherDistinct : (ys.map key).Nodup := (perm.map key).nodup_iff.mp distinct
  refine Option.ext fun x => ?_
  rw [find?_eq_some_iff_of_distinct distinct, find?_eq_some_iff_of_distinct otherDistinct,
    perm.mem_iff]

theorem insertBy_perm (le : α → α → Bool) (x : α) (xs : List α) :
    (insertBy le x xs).Perm (x :: xs) := by
  induction xs with
  | nil => exact .refl _
  | cons y rest ih =>
      rw [insertBy]
      split
      · exact .refl _
      · exact (ih.cons y).trans (.swap x y rest)

theorem sortBy_perm (le : α → α → Bool) (xs : List α) : (sortBy le xs).Perm xs := by
  induction xs with
  | nil => exact .refl _
  | cons x rest ih => exact (insertBy_perm le x _).trans (ih.cons x)

theorem insertBy_sorted {x : α} (sorted : xs.Pairwise (key · ≤ key ·)) :
    (insertBy (fun a b => nameLe (key a) (key b)) x xs).Pairwise (key · ≤ key ·) := by
  induction xs with
  | nil => exact List.pairwise_singleton _ _
  | cons y rest ih =>
      rcases List.pairwise_cons.mp sorted with ⟨first, later⟩
      rw [insertBy]
      by_cases before : nameLe (key x) (key y)
      · have smaller := nameLe_iff.mp before
        rw [if_pos before]
        refine List.pairwise_cons.mpr ⟨?_, sorted⟩
        intro z member
        rcases List.mem_cons.mp member with rfl | member
        · exact smaller
        · exact String.le_trans smaller (first z member)
      · have smaller : key y ≤ key x :=
          (String.le_total (key x) (key y)).resolve_left fun le => before (nameLe_iff.mpr le)
        rw [if_neg before]
        refine List.pairwise_cons.mpr ⟨?_, ih later⟩
        intro z member
        rcases List.mem_cons.mp ((insertBy_perm _ x rest).mem_iff.mp member) with rfl | member
        · exact smaller
        · exact first z member

theorem sortBy_sorted (xs : List α) :
    (sortBy (fun a b => nameLe (key a) (key b)) xs).Pairwise (key · ≤ key ·) := by
  induction xs with
  | nil => exact .nil
  | cons x rest ih => exact insertBy_sorted ih

theorem sortBy_eq_self (sorted : xs.Pairwise (key · ≤ key ·)) :
    sortBy (fun a b => nameLe (key a) (key b)) xs = xs := by
  induction xs with
  | nil => rfl
  | cons x rest ih =>
      rcases List.pairwise_cons.mp sorted with ⟨first, later⟩
      rw [sortBy, ih later]
      cases rest with
      | nil => rfl
      | cons y rest => rw [insertBy, if_pos (nameLe_iff.mpr (first y List.mem_cons_self))]

/-- Distinct keys leave only one order. -/
theorem sortBy_eq_of_perm (distinct : (xs.map key).Nodup) (perm : xs.Perm ys) :
    sortBy (fun a b => nameLe (key a) (key b)) xs =
      sortBy (fun a b => nameLe (key a) (key b)) ys := by
  have sortedPerm := ((sortBy_perm (fun a b => nameLe (key a) (key b)) xs).trans perm).trans
    (sortBy_perm (fun a b => nameLe (key a) (key b)) ys).symm
  refine List.Perm.eq_of_pairwise ?_ (sortBy_sorted xs) (sortBy_sorted ys) sortedPerm
  intro a b left right before after
  have left : a ∈ xs := (sortBy_perm _ xs).mem_iff.mp left
  have right : b ∈ xs := perm.mem_iff.mpr ((sortBy_perm _ ys).mem_iff.mp right)
  exact List.inj_on_of_nodup_map distinct left right (String.le_antisymm before after)

end Keyed

end SchemaBindings
