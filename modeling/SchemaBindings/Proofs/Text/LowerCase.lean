import SchemaBindings.Text.Alphanumeric
import SchemaBindings.Text.CaseMap

/-!
Lower case of a character. It holds none of the marks that stand in identifiers, and it is its own
lower case: no letter is moved to a place that letters are moved from.
-/

namespace SchemaBindings.Text

theorem holds_of_ascii {p : Char → Prop} (each : ∀ n < 128, p (Char.ofNat n)) {c : Char}
    (ascii : c.toNat < 128) : p c := by
  rw [← Char.ofNat_toNat c]
  exact each c.toNat ascii

theorem toNat_ofNat_cases (n : Nat) : (Char.ofNat n).toNat = n ∨ (Char.ofNat n).toNat = 0 := by
  by_cases valid : n.isValidChar
  · exact .inl (congrArg Char.toNat (dif_pos valid))
  · exact .inr (congrArg Char.toNat (dif_neg valid))

theorem ofNat_ne_of_lt {c : Char} (proper : 0 < c.toNat) {n : Nat} (above : c.toNat < n) :
    Char.ofNat n ≠ c := by
  rintro rfl
  rcases toNat_ofNat_cases n with same | null <;> omega

/-! ### Shifts -/

theorem Shift.image?_eq_some_iff {s : Shift} {n image : Nat} :
    s.image? n = some image ↔
      s.first ≤ n ∧ n ≤ s.last ∧ (n - s.first) % s.step = 0 ∧ image = s.target + (n - s.first) := by
  unfold image?
  split
  · next inside => simp [inside, eq_comm]
  · next outside =>
      simp only [reduceCtorEq, false_iff]
      rintro ⟨after, before, steps, _⟩
      exact outside ⟨after, before, steps⟩

theorem Shift.target_le {s : Shift} {n image : Nat} (moved : s.image? n = some image) :
    s.target ≤ image := by
  obtain ⟨_, _, _, rfl⟩ := image?_eq_some_iff.mp moved
  exact Nat.le_add_right _ _

def Shift.misses (s other : Shift) : Bool :=
  Nat.blt other.last s.target || Nat.blt (s.target + (s.last - s.first)) other.first ||
    (s.step == 2 || s.first == s.last) && other.step == 2 && (s.target + other.first) % 2 == 1

theorem Shift.image?_eq_none {s other : Shift} {n image : Nat} (misses : s.misses other = true)
    (moved : s.image? n = some image) : other.image? image = none := by
  obtain ⟨after, before, steps, rfl⟩ := image?_eq_some_iff.mp moved
  rw [Option.eq_none_iff_forall_ne_some]
  intro again movedAgain
  obtain ⟨otherAfter, otherBefore, otherSteps, _⟩ := image?_eq_some_iff.mp movedAgain
  simp only [Shift.misses, Nat.blt_eq, Bool.or_eq_true, Bool.and_eq_true, beq_iff_eq] at misses
  rcases misses with (above | below) | ⟨⟨paired | single, otherPaired⟩, odd⟩
  · omega
  · omega
  · rw [paired] at steps
    rw [otherPaired] at otherSteps
    omega
  · rw [otherPaired] at otherSteps
    omega

theorem mapped_cases (shifts : List Shift) (expansions : List (Nat × List Nat)) (c : Char) :
    (∃ targets, (c.toNat, targets) ∈ expansions ∧
      mapped shifts expansions c = targets.map Char.ofNat) ∨
    (∃ shift ∈ shifts, ∃ n, shift.image? c.toNat = some n ∧
      mapped shifts expansions c = [Char.ofNat n]) ∨
    mapped shifts expansions c = [c] := by
  unfold mapped
  cases expanded : expansions.lookup c.toNat with
  | some targets =>
      obtain ⟨before, after, split, _⟩ := List.lookup_eq_some_iff.mp expanded
      exact .inl ⟨targets, by simp [split], rfl⟩
  | none => cases shifted : shifts.findSome? (·.image? c.toNat) with
    | none => exact .inr (.inr rfl)
    | some n =>
        obtain ⟨shift, member, image⟩ := List.exists_of_findSome?_eq_some shifted
        exact .inr (.inl ⟨shift, member, n, image, rfl⟩)

/-! ### Lower case -/

theorem lowerOf_ne {b c : Char} (spells : isAlphanumeric b = true) (member : c ∈ lowerOf b) :
    c ≠ '_' ∧ c ≠ '#' := by
  have small : b.toNat < 128 → isAlphanumeric b = true → b.toLower ≠ '_' ∧ b.toLower ≠ '#' :=
    holds_of_ascii (p := fun b => isAlphanumeric b = true → b.toLower ≠ '_' ∧ b.toLower ≠ '#')
      (by decide +kernel)
  have shifted : ∀ shift ∈ lowercaseShifts, '_'.toNat < shift.target := by decide +kernel
  have expanded : ∀ e ∈ lowercaseExpansions, ∀ n ∈ e.2, '_'.toNat < n := by decide
  have above : ∀ n, '_'.toNat < n → Char.ofNat n ≠ '_' ∧ Char.ofNat n ≠ '#' := fun n after =>
    ⟨ofNat_ne_of_lt (by decide) after, ofNat_ne_of_lt (by decide) (Nat.lt_trans (by decide) after)⟩
  unfold lowerOf at member
  split at member
  · next ascii =>
      obtain rfl := List.mem_singleton.mp member
      exact small ascii spells
  · next wide =>
      rcases mapped_cases lowercaseShifts lowercaseExpansions b with
        ⟨targets, listed, same⟩ | ⟨shift, listed, n, moved, same⟩ | same <;> rw [same] at member
      · obtain ⟨n, target, rfl⟩ := List.mem_map.mp member
        exact above n (expanded _ listed n target)
      · obtain rfl := List.mem_singleton.mp member
        exact above n (Nat.lt_of_lt_of_le (shifted shift listed) (Shift.target_le moved))
      · obtain rfl := List.mem_singleton.mp member
        constructor <;> (rintro rfl; exact wide (by decide))

theorem lowercaseShifts_miss :
    (lowercaseShifts.all fun s => lowercaseShifts.all s.misses) = true := by
  decide +kernel

/-- A letter that becomes several is taken for a shift that leaves it in its place. -/
theorem lowercaseShifts_miss_expansions :
    (lowercaseShifts.all fun s => lowercaseExpansions.all fun e => s.misses ⟨e.1, e.1, 1, e.1⟩) =
      true := by
  decide +kernel

theorem lowerOf_of_ascii {c : Char} (ascii : c.toNat < 128)
    (small : 'Z'.toNat < c.toNat ∨ c.toNat = 0) : lowerOf c = [c] := by
  have stays : 'Z'.toNat < c.toNat ∨ c.toNat = 0 → c.toLower = c :=
    holds_of_ascii (p := fun c => 'Z'.toNat < c.toNat ∨ c.toNat = 0 → c.toLower = c)
      (by decide +kernel) ascii
  rw [lowerOf, if_pos ascii, stays small]

theorem lowerOf_moved {s : Shift} (listed : s ∈ lowercaseShifts) {n image : Nat}
    (moved : s.image? n = some image) : lowerOf (Char.ofNat image) = [Char.ofNat image] := by
  have least : ∀ s ∈ lowercaseShifts, 'Z'.toNat < s.target := by decide +kernel
  have beyond := Nat.lt_of_lt_of_le (least s listed) (Shift.target_le moved)
  rcases toNat_ofNat_cases image with valid | null
  · by_cases ascii : (Char.ofNat image).toNat < 128
    · exact lowerOf_of_ascii ascii (.inl (by rwa [valid]))
    · have stays : lowercaseExpansions.lookup image = none := by
        rw [List.lookup_eq_none_iff]
        intro e member
        rw [bne_iff_ne]
        rintro rfl
        have apart := List.all_eq_true.mp
          (List.all_eq_true.mp lowercaseShifts_miss_expansions s listed) e member
        simpa [Shift.image?] using Shift.image?_eq_none apart moved
      have fixed : lowercaseShifts.findSome? (·.image? image) = none := by
        rw [List.findSome?_eq_none_iff]
        intro other otherListed
        have apart := List.all_eq_true.mp
          (List.all_eq_true.mp lowercaseShifts_miss s listed) other otherListed
        exact Shift.image?_eq_none apart moved
      rw [lowerOf, if_neg ascii, mapped, valid, stays, fixed]
  · exact lowerOf_of_ascii (by omega) (.inr null)

theorem lowerOf_of_mem {c d : Char} (member : d ∈ lowerOf c) : lowerOf d = [d] := by
  have small : c.toNat < 128 → lowerOf c.toLower = [c.toLower] :=
    holds_of_ascii (p := fun c => lowerOf c.toLower = [c.toLower]) (by decide +kernel)
  have expanded : ∀ e ∈ lowercaseExpansions, ∀ n ∈ e.2,
      lowerOf (Char.ofNat n) = [Char.ofNat n] := by decide +kernel
  unfold lowerOf at member
  split at member
  · next ascii =>
      obtain rfl := List.mem_singleton.mp member
      exact small ascii
  · next wide =>
      rcases mapped_cases lowercaseShifts lowercaseExpansions c with
        ⟨targets, listed, same⟩ | ⟨shift, listed, n, moved, same⟩ | same <;> rw [same] at member
      · obtain ⟨n, target, rfl⟩ := List.mem_map.mp member
        exact expanded _ listed n target
      · obtain rfl := List.mem_singleton.mp member
        exact lowerOf_moved listed moved
      · obtain rfl := List.mem_singleton.mp member
        rw [lowerOf, if_neg wide, same]

end SchemaBindings.Text
