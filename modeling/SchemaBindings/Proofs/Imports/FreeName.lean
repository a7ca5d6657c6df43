import Mathlib.Data.List.Nodup
import Mathlib.Data.List.Perm.Subperm
import SchemaBindings.Imports.Assignment

/-!
The first free name. Numbered names of one base differ and all but the reserved ones are kept, so a
search that tries them one after the other ends. No reserved word of the two targets is numbered.
-/

namespace SchemaBindings

def numbered (base : String) (n : Nat) : String :=
  base ++ toString n

theorem toString_toList (n : Nat) : (toString n).toList = Nat.toDigits 10 n := by
  rw [Nat.toString_eq_ofList_toDigits, String.toList_ofList]

theorem numbered_injective (base : String) {m n : Nat} (same : numbered base m = numbered base n) :
    m = n := by
  have digits : toString m = toString n := (String.append_right_inj base).mp same
  have read := congrArg (fun s : String => Nat.ofDigitChars 10 s.toList 0) digits
  simpa only [toString_toList, Nat.ofDigitChars_toDigits (by decide : 1 < 10) (by decide)]
    using read

theorem numbered_hasDigit (base : String) (n : Nat) :
    ∃ c ∈ (numbered base n).toList, c.isDigit = true := by
  obtain ⟨digit, member⟩ := List.exists_mem_of_ne_nil _ (Nat.toDigits_ne_nil (b := 10) (n := n))
  refine ⟨digit, ?_, Nat.isDigit_of_mem_toDigits (by decide) (by decide) member⟩
  rw [numbered, String.toList_append, toString_toList]
  exact List.mem_append_right _ member

theorem numbered_ne {name : String} (plain : name.toList.any Char.isDigit = false)
    (base : String) (n : Nat) : numbered base n ≠ name := by
  rintro rfl
  obtain ⟨c, member, digit⟩ := numbered_hasDigit base n
  exact List.any_eq_false.mp plain c member digit

section Rule

variable (make : String → String) (taken : List String) (base : String)

/-- The name of `base` itself when it is free, and otherwise that of the first of `base2`, `base3`
and so on whose name is free. -/
inductive FirstFree : String → Prop where
  | own (free : make base ∉ taken) : FirstFree (make base)
  | suffixed {n : Nat} (held : make base ∈ taken) (least : 2 ≤ n)
      (free : make (numbered base n) ∉ taken)
      (earlier : ∀ m, 2 ≤ m → m < n → make (numbered base m) ∈ taken) :
      FirstFree (make (numbered base n))

/-- An unbounded search: while the candidate is taken, the next suffix is tried. -/
inductive SearchEnds : (suffix : Nat) → (candidate result : String) → Prop where
  | free {suffix : Nat} {candidate : String} (free : candidate ∉ taken) :
      SearchEnds suffix candidate candidate
  | next {suffix : Nat} {candidate result : String} (held : candidate ∈ taken)
      (rest : SearchEnds (suffix + 1) (make (numbered base suffix)) result) :
      SearchEnds suffix candidate result

end Rule

variable {make : String → String} {taken : List String} {base name : String}

theorem FirstFree.not_mem (first : FirstFree make taken base name) : name ∉ taken := by
  cases first with
  | own free => exact free
  | suffixed held least free earlier => exact free

theorem FirstFree.exists_eq (first : FirstFree make taken base name) :
    ∃ text, name = make text := by
  cases first with
  | own free => exact ⟨base, rfl⟩
  | suffixed held least free earlier => exact ⟨_, rfl⟩

theorem SearchEnds.through {suffix count : Nat} {candidate : String} (held : candidate ∈ taken)
    (earlier : ∀ m, suffix ≤ m → m < suffix + count → make (numbered base m) ∈ taken)
    (free : make (numbered base (suffix + count)) ∉ taken) :
    SearchEnds make taken base suffix candidate (make (numbered base (suffix + count))) := by
  induction count generalizing suffix candidate with
  | zero => exact .next held (.free free)
  | succ count ih =>
      have between : suffix + (count + 1) = suffix + 1 + count := by omega
      rw [between] at free ⊢
      refine .next held (ih (earlier suffix (Nat.le_refl _) (by omega)) ?_ free)
      intro m lower upper
      exact earlier m (by omega) (by omega)

theorem FirstFree.searchEnds (first : FirstFree make taken base name) :
    SearchEnds make taken base 2 (make base) name := by
  cases first with
  | own free => exact .free free
  | @suffixed n held least free earlier =>
      obtain ⟨count, rfl⟩ := Nat.exists_eq_add_of_le least
      exact .through held earlier free

theorem freeSuffixed_eq (make : String → String) (taken : List String) (base : String)
    (suffix count : Nat) :
    ∃ n, freeSuffixed make taken base suffix count = make (numbered base n) ∧ suffix ≤ n ∧
      (∀ m, suffix ≤ m → m < n → make (numbered base m) ∈ taken) ∧
      (make (numbered base n) ∉ taken ∨ n = suffix + count) := by
  induction count generalizing suffix with
  | zero => exact ⟨suffix, rfl, Nat.le_refl _, by omega, .inr rfl⟩
  | succ count ih =>
      by_cases held : make (numbered base suffix) ∈ taken
      · obtain ⟨n, chosen, later, earlier, stop⟩ := ih (suffix + 1)
        refine ⟨n, ?_, by omega, ?_, ?_⟩
        · rw [← chosen, freeSuffixed]
          exact if_pos (List.contains_iff_mem.mpr held)
        · intro m lower upper
          rcases Nat.eq_or_lt_of_le lower with rfl | later
          · exact held
          · exact earlier m later upper
        · exact stop.imp_right fun last => by omega
      · refine ⟨suffix, ?_, Nat.le_refl _, by omega, .inl held⟩
        rw [freeSuffixed]
        exact if_neg (mt List.contains_iff_mem.mp held)

/-- What is not reserved is kept as it is. -/
def KeepsUnreserved (make : String → String) (reserved : List String) : Prop :=
  ∀ name ∉ reserved, make name = name

theorem keepsUnreserved_id : KeepsUnreserved id [] :=
  fun _ _ => rfl

theorem Naming.keepsUnreserved (naming : Naming) :
    KeepsUnreserved naming.safeName naming.reserved :=
  fun _ plain => if_neg (mt List.contains_iff_mem.mp plain)

theorem exists_free_numbered {reserved : List String} (keeps : KeepsUnreserved make reserved)
    (taken : List String) (base : String) (suffix : Nat) :
    ∃ m, suffix ≤ m ∧ m ≤ suffix + (taken.length + reserved.length) ∧
      make (numbered base m) ∉ taken := by
  by_contra none
  push Not at none
  let candidates :=
    (List.range' suffix (taken.length + reserved.length + 1)).map (numbered base)
  have nodup : candidates.Nodup :=
    (List.nodup_range' 1).map fun m n same => numbered_injective base same
  have inside : candidates ⊆ taken ++ reserved := by
    intro candidate member
    obtain ⟨m, within, rfl⟩ := List.mem_map.mp member
    obtain ⟨lower, upper⟩ := List.mem_range'_1.mp within
    by_cases marked : numbered base m ∈ reserved
    · exact List.mem_append_right _ marked
    · have held := none m lower (by omega)
      rw [keeps _ marked] at held
      exact List.mem_append_left _ held
  have fewer := (List.subperm_of_subset nodup inside).length_le
  rw [List.length_map, List.length_range', List.length_append] at fewer
  omega

theorem freeName_firstFree {reserved : List String} (keeps : KeepsUnreserved make reserved)
    (taken : List String) (base : String) :
    FirstFree make taken base (freeName make reserved taken base) := by
  unfold freeName
  by_cases held : make base ∈ taken
  · obtain ⟨n, chosen, least, earlier, stop⟩ :=
      freeSuffixed_eq make taken base 2 (taken.length + reserved.length)
    obtain ⟨m, lower, upper, vacant⟩ := exists_free_numbered keeps taken base 2
    have free : make (numbered base n) ∉ taken := by
      intro filled
      have last := stop.resolve_left (not_not_intro filled)
      rcases Nat.lt_or_eq_of_le upper with inside | atEnd
      · exact vacant (earlier m lower (by omega))
      · exact vacant ((atEnd.trans last.symm) ▸ filled)
    rw [if_pos (List.contains_iff_mem.mpr held), chosen]
    exact .suffixed held least free earlier
  · rw [if_neg (mt List.contains_iff_mem.mp held)]
    exact .own held

/-- Reserved words are made of letters, and escaping a word puts another character into it. -/
structure Naming.Escapes (naming : Naming) : Prop where
  letters : ∀ word ∈ naming.reserved, word.toList.all Char.isAlpha = true
  marks : ∀ word, ∃ c ∈ (naming.escape word).toList, c.isAlpha = false

theorem typescriptNaming_escapes : typescriptNaming.Escapes where
  letters := by decide +kernel
  marks word := ⟨'_', by simp [typescriptNaming], rfl⟩

theorem rustNaming_escapes : rustNaming.Escapes where
  letters := by decide +kernel
  marks word := by
    change ∃ c ∈ (rustEscape word).toList, _
    unfold rustEscape
    split
    · exact ⟨'_', by simp, rfl⟩
    · exact ⟨'#', by simp, rfl⟩

theorem isAlpha_of_isDigit {c : Char} (digit : c.isDigit = true) : c.isAlpha = false := by
  have before : c.val < 'A'.val :=
    UInt32.lt_of_le_of_lt (of_decide_eq_true (Bool.and_eq_true_iff.mp digit).2) (by decide)
  have upper : c.isUpper = false :=
    decide_eq_false fun letter => UInt32.not_le.mpr before letter.1
  have lower : c.isLower = false := by
    have small : ¬ 'a'.val ≤ c.val :=
      UInt32.not_le.mpr (UInt32.lt_trans before (by decide))
    exact Bool.and_eq_false_iff.mpr (.inl (decide_eq_false small))
  exact Bool.or_eq_false_iff.mpr ⟨upper, lower⟩

namespace Naming.Escapes

variable {naming : Naming}

theorem not_reserved (escapes : naming.Escapes) {name : String} {c : Char}
    (member : c ∈ name.toList) (mark : c.isAlpha = false) : name ∉ naming.reserved := by
  intro reserved
  have letter := List.all_eq_true.mp (escapes.letters name reserved) c member
  rw [mark] at letter
  cases letter

theorem safeName_numbered (escapes : naming.Escapes) (base : String) (n : Nat) :
    naming.safeName (numbered base n) = numbered base n := by
  obtain ⟨c, member, digit⟩ := numbered_hasDigit base n
  exact naming.keepsUnreserved _ (escapes.not_reserved member (isAlpha_of_isDigit digit))

theorem safeName_not_reserved (escapes : naming.Escapes) (name : String) :
    naming.safeName name ∉ naming.reserved := by
  unfold safeName isReserved
  by_cases reserved : name ∈ naming.reserved
  · obtain ⟨c, member, mark⟩ := escapes.marks name
    rw [if_pos (List.contains_iff_mem.mpr reserved)]
    exact escapes.not_reserved member mark
  · rw [if_neg (mt List.contains_iff_mem.mp reserved)]
    exact reserved

end Naming.Escapes

end SchemaBindings
