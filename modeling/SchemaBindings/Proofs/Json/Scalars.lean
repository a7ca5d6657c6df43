import Mathlib.Data.List.Basic
import Mathlib.Tactic.SplitIfs
import SchemaBindings.Json.Print
import SchemaBindings.Json.Scan

/-!
Scans of the texts printed for strings and numbers. A string is read with its escapes undone, a
number as long as 64 bits hold it; what follows is left alone.
-/

namespace SchemaBindings.Json

open Text (Cursor digitValue hexNumber?)

/-! ### Strings -/

theorem hexNumber?_of_control : ∀ n < 32,
    hexNumber? ['0', '0', hexDigit (n / 16), hexDigit (n % 16)] = some n := by
  decide

/-- A string that has met nothing it cannot read. -/
def Spelling.sound (reversed : List Char) : Spelling :=
  ⟨reversed, none, none⟩

theorem Spelling.unit_sound (reversed : List Char) {n : Nat} (offset : Nat) (low : n < 32) :
    (Spelling.sound reversed).unit n offset = .sound (Char.ofNat n :: reversed) := by
  have trailing : isTrailing n = false := by simp [isTrailing]; omega
  have leading : isLeading n = false := by simp [isLeading]; omega
  simp [Spelling.unit, Spelling.sound, Spelling.push, trailing, leading]

theorem scanText_escape {reversed : List Char} {c e : Char} (simple : simpleEscape? e = some c)
    (offset : Nat) (rest : List Char) :
    scanText (.sound reversed) offset ('\\' :: e :: rest) =
      scanText (.sound (c :: reversed)) (offset + 2) rest := by
  have plain : e ≠ 'u' := by
    rintro rfl
    cases simple
  simp [scanText, plain, simple, Spelling.alone, Spelling.push, Spelling.sound]

theorem scanText_escapedChar (reversed : List Char) (c : Char) (offset : Nat) (rest : List Char) :
    ∃ after, scanText (.sound reversed) offset (escapedChar c ++ rest) =
      scanText (.sound (c :: reversed)) after rest := by
  unfold escapedChar
  -- Seven characters have an escape of their own, other controls their code, the rest none.
  split_ifs with quote slash backspace feed line carriage tab control
  · subst quote
    exact ⟨offset + 2, scanText_escape rfl offset rest⟩
  · subst slash
    exact ⟨offset + 2, scanText_escape rfl offset rest⟩
  · subst backspace
    exact ⟨offset + 2, scanText_escape rfl offset rest⟩
  · subst feed
    exact ⟨offset + 2, scanText_escape rfl offset rest⟩
  · subst line
    exact ⟨offset + 2, scanText_escape rfl offset rest⟩
  · subst carriage
    exact ⟨offset + 2, scanText_escape rfl offset rest⟩
  · subst tab
    exact ⟨offset + 2, scanText_escape rfl offset rest⟩
  · refine ⟨offset + 6, ?_⟩
    have unit := Spelling.unit_sound reversed (offset + 6) control
    rw [Char.ofNat_toNat] at unit
    simp only [List.cons_append, List.nil_append]
    rw [scanText, hexNumber?_of_control c.toNat control, ← unit]
  · refine ⟨offset + c.utf8Size, ?_⟩
    simp [scanText, quote, slash, control, Spelling.alone, Spelling.push, Spelling.sound]

theorem scanText_escaped (cs reversed : List Char) (offset : Nat) (rest : List Char) :
    ∃ after, scanText (.sound reversed) offset (cs.flatMap escapedChar ++ '"' :: rest) =
      .ok (.ok (String.ofList (reversed.reverse ++ cs)), ⟨rest, after⟩) := by
  induction cs generalizing reversed offset with
  | nil =>
      refine ⟨offset + 1, ?_⟩
      simp [scanText, Spelling.alone, Spelling.sound]
  | cons c cs ih =>
      obtain ⟨middle, stepped⟩ := scanText_escapedChar reversed c offset
        (cs.flatMap escapedChar ++ '"' :: rest)
      obtain ⟨after, ran⟩ := ih (c :: reversed) middle
      refine ⟨after, ?_⟩
      rw [List.flatMap_cons, List.append_assoc, stepped, ran, List.reverse_cons, List.append_assoc,
        List.singleton_append]

theorem escapedText_append (s : String) (rest : List Char) :
    (escapedText s).toList ++ rest = '"' :: (s.toList.flatMap escapedChar ++ '"' :: rest) := by
  simp [escapedText]

theorem scanText_escapedText (s : String) (offset : Nat) (rest : List Char) :
    ∃ after, scanText .empty offset (s.toList.flatMap escapedChar ++ '"' :: rest) =
      .ok (.ok s, ⟨rest, after⟩) := by
  obtain ⟨after, scanned⟩ := scanText_escaped s.toList [] offset rest
  rw [List.reverse_nil, List.nil_append, String.ofList_toList] at scanned
  exact ⟨after, scanned⟩

/-! ### Numbers -/

def Number.integral : Number → Bool
  | .integer n => -(Nat.pow 2 63 : Nat) ≤ n && n < significandLimit
  | .double _ => false

/-- What follows a value: the end, a comma or a closing bracket. -/
def Ends (rest : List Char) : Prop :=
  ∀ d ∈ rest.head?, d = ',' ∨ d = ']' ∨ d = '\x7d'

theorem takeDigits_of_ends {ds rest : List Char} (digits : ∀ d ∈ ds, d.isDigit = true)
    (ends : Ends rest) (offset : Nat) :
    takeDigits ⟨ds ++ rest, offset⟩ = (ds, ⟨rest, offset + Text.byteLength ds⟩) := by
  have run : (ds ++ rest).takeWhile Char.isDigit = ds := by
    rw [List.takeWhile_append_of_pos digits]
    cases rest with
    | nil => rw [List.takeWhile_nil, List.append_nil]
    | cons d rest =>
        have stop : d.isDigit = false := by
          obtain rfl | rfl | rfl := ends d rfl <;> rfl
        rw [List.takeWhile_cons, stop]
        exact List.append_nil ds
  simp [takeDigits, Cursor.takeWhile, run]

theorem head?_toDigits_ne_zero {n : Nat} (positive : 0 < n) :
    (Nat.toDigits 10 n).head? ≠ some '0' := by
  induction n using Nat.strongRecOn with
  | _ n ih =>
      by_cases one : n < 10
      · rw [Nat.toDigits_of_lt_base one]
        have nonzero : ∀ n < 10, 0 < n → [n.digitChar].head? ≠ some '0' := by decide
        exact nonzero n one positive
      · rw [Nat.toDigits_of_base_le (by omega) (by omega), List.head?_append_of_ne_nil _
          Nat.toDigits_ne_nil]
        exact ih (n / 10) (by omega) (by omega)

theorem toDigits_eq_cons (n : Nat) :
    ∃ d ds, Nat.toDigits 10 n = d :: ds ∧ d.isDigit = true := by
  cases written : Nat.toDigits 10 n with
  | nil => exact absurd written Nat.toDigits_ne_nil
  | cons d ds =>
      have member : d ∈ Nat.toDigits 10 n := written ▸ List.mem_cons_self
      exact ⟨d, ds, rfl, Nat.isDigit_of_mem_toDigits (by omega) (by omega) member⟩

theorem scanWhole_toDigits (n : Nat) {rest : List Char} (ends : Ends rest) (offset : Nat) :
    ∃ after, scanWhole ⟨Nat.toDigits 10 n ++ rest, offset⟩ =
      .ok (Nat.toDigits 10 n, ⟨rest, after⟩) := by
  have digits : ∀ d ∈ Nat.toDigits 10 n, d.isDigit = true :=
    fun d => Nat.isDigit_of_mem_toDigits (by omega) (by omega)
  refine ⟨offset + Text.byteLength (Nat.toDigits 10 n), ?_⟩
  simp only [scanWhole, takeDigits_of_ends digits ends]
  split
  · next none => exact absurd none Nat.toDigits_ne_nil
  · next d ds leading =>
      rcases Nat.eq_zero_or_pos n with rfl | positive
      · cases leading
      · exact absurd (congrArg List.head? leading) (head?_toDigits_ne_zero positive)
  · rfl

theorem le_ofDigitChars (ds : List Char) (n : Nat) : n ≤ Nat.ofDigitChars 10 ds n := by
  induction ds generalizing n with
  | nil => exact Nat.le_refl n
  | cons d ds ih =>
      rw [Nat.ofDigitChars_cons]
      exact Nat.le_trans (by omega) (ih _)

theorem pushDigits_eq {ds : List Char} {n : Nat}
    (fits : Nat.ofDigitChars 10 ds n < significandLimit) :
    pushDigits n ds = (Nat.ofDigitChars 10 ds n, 0) := by
  induction ds generalizing n with
  | nil => rfl
  | cons d ds ih =>
      rw [Nat.ofDigitChars_cons, Nat.mul_comm] at fits ⊢
      -- What is read so far is below what will have been read.
      have next : n * 10 + digitValue d < significandLimit :=
        Nat.lt_of_le_of_lt (le_ofDigitChars ds _) fits
      rw [pushDigits, if_pos next]
      exact ih fits

theorem pushDigits_toDigits {n : Nat} (fits : n < significandLimit) :
    pushDigits 0 (Nat.toDigits 10 n) = (n, 0) := by
  have value : Nat.ofDigitChars 10 (Nat.toDigits 10 n) 0 = n :=
    Nat.ofDigitChars_toDigits (by omega) (by omega)
  rw [pushDigits_eq (value.symm ▸ fits), value]

theorem scanFraction_of_ends {rest : List Char} (ends : Ends rest) (offset : Nat) :
    scanFraction ⟨rest, offset⟩ = .ok (none, ⟨rest, offset⟩) := by
  cases rest with
  | nil => rfl
  | cons d rest => obtain rfl | rfl | rfl := ends d rfl <;> rfl

theorem scanExponent_of_ends {rest : List Char} (ends : Ends rest) (offset : Nat) :
    scanExponent ⟨rest, offset⟩ = .ok (none, ⟨rest, offset⟩) := by
  cases rest with
  | nil => rfl
  | cons d rest => obtain rfl | rfl | rfl := ends d rfl <;> rfl

theorem Numeral.value_unsigned {n : Nat} (fits : n < significandLimit) (start after : Nat) :
    Numeral.value ⟨false, Nat.toDigits 10 n, none, none⟩ start after = .ok (.integer n) := by
  have whole : pushDigits 0 (Nat.toDigits 10 n) = (n, 0) := pushDigits_toDigits fits
  simp [Numeral.value, whole]

theorem Numeral.value_negative {n : Nat} (positive : 0 < n) (fits : n ≤ Nat.pow 2 63)
    (start after : Nat) :
    Numeral.value ⟨true, Nat.toDigits 10 n, none, none⟩ start after = .ok (.integer (-n)) := by
  have whole : pushDigits 0 (Nat.toDigits 10 n) = (n, 0) :=
    pushDigits_toDigits (Nat.lt_of_le_of_lt fits (by decide))
  have held : negativeInteger n = some (.integer (-n)) := by
    rw [negativeInteger, if_neg (Nat.ne_of_gt positive), if_pos fits]
  simp [Numeral.value, whole, held]

theorem scanNumber_text {n : Int} (fits : (Number.integer n).integral = true) {rest : List Char}
    (ends : Ends rest) (offset : Nat) :
    ∃ after, scanNumber ⟨(Number.integer n).text.toList ++ rest, offset⟩ =
      (.scalar offset (.number (.integer n)) after, some ⟨rest, after⟩) := by
  simp only [Number.integral, Bool.and_eq_true, decide_eq_true_eq] at fits
  cases n with
  | ofNat n =>
      obtain ⟨after, whole⟩ := scanWhole_toDigits n ends offset
      have value := Numeral.value_unsigned (Int.ofNat_lt.mp fits.2) after after
      obtain ⟨d, ds, written, digit⟩ := toDigits_eq_cons n
      have unsigned : d ≠ '-' := by
        rintro rfl
        cases digit
      have text : (Number.integer (Int.ofNat n)).text.toList = d :: ds :=
        Nat.toList_repr.trans written
      refine ⟨after, ?_⟩
      rw [written, List.cons_append] at whole
      rw [written] at value
      rw [text, List.cons_append]
      simp [scanNumber, unsigned, whole, value, scanFraction_of_ends ends,
        scanExponent_of_ends ends, bind, Except.bind, pure, Except.pure]
  | negSucc n =>
      obtain ⟨after, whole⟩ := scanWhole_toDigits (n + 1) ends (offset + 1)
      have small : n + 1 ≤ Nat.pow 2 63 := by
        have bound := fits.1
        rw [Int.negSucc_eq] at bound
        exact Int.ofNat_le.mp (Int.le_of_neg_le_neg bound)
      have value : Numeral.value ⟨true, Nat.toDigits 10 (n + 1), none, none⟩ after after =
        .ok (.integer (Int.negSucc n)) := Numeral.value_negative n.succ_pos small after after
      have text : (Number.integer (Int.negSucc n)).text.toList = '-' :: Nat.toDigits 10 (n + 1) :=
        String.toList_append.trans (congrArg ('-' :: ·) Nat.toList_repr)
      refine ⟨after, ?_⟩
      rw [text, List.cons_append]
      simp [scanNumber, whole, value, scanFraction_of_ends ends, scanExponent_of_ends ends, bind,
        Except.bind, pure, Except.pure]

end SchemaBindings.Json
