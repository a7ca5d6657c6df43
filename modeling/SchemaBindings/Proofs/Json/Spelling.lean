import SchemaBindings.Proofs.Json.Holding
import SchemaBindings.Proofs.Json.Scalars
import SchemaBindings.Text.Blank

/-!
Texts that spell a value. The text printed for a value spells it when its numbers are integers of 64
bits, and every reading of such a text gives what it reads from the value.
-/

namespace SchemaBindings.Json

open Text (Cursor)

/-- The text is one document, and its tree holds the value. -/
def Spells (text : List Char) (v : Value) : Prop :=
  ∃ outline, scanDocument text = (outline, none) ∧ outline.Holds v

theorem readDocument_of_spells {α : Type} {read : Reading α} {text : List Char} {v : Value} {x : α}
    (reads : Reads read v x) (spells : Spells text v) (shallow : v.nesting ≤ nestingLimit) :
    readDocument read text = .ok x := by
  obtain ⟨outline, scanned, holds⟩ := spells
  have ran := reads nestingLimit outline shallow holds
  simp only [readDocument, scanned, ran]

/-! ### Values -/

mutual

def Value.integral : Value → Bool
  | .number n => n.integral
  | .array items => itemsIntegral items
  | .object members => membersIntegral members
  | _ => true

def itemsIntegral : List Value → Bool
  | [] => true
  | v :: values => v.integral && itemsIntegral values

def membersIntegral : List (String × Value) → Bool
  | [] => true
  | (_, v) :: values => v.integral && membersIntegral values

end

def opening (d : Char) : Bool :=
  d.isDigit || ['-', 'n', 't', 'f', '"', '[', '\x7b'].contains d

theorem Number.text_opens (n : Int) :
    ∃ d tail, (Number.integer n).text.toList = d :: tail ∧ (d = '-' ∨ d.isDigit = true) := by
  cases n with
  | ofNat n =>
      obtain ⟨d, tail, written, digit⟩ := toDigits_eq_cons n
      exact ⟨d, tail, Nat.toList_repr.trans written, .inr digit⟩
  | negSucc n => exact ⟨'-', _, String.toList_append, .inl rfl⟩

theorem Value.text_opens {v : Value} (integral : v.integral = true) :
    ∃ d tail, v.text.toList = d :: tail ∧ opening d = true := by
  cases v with
  | null => exact ⟨'n', _, rfl, rfl⟩
  | bool b => cases b <;> exact ⟨_, _, rfl, rfl⟩
  | number n =>
      cases n with
      | integer n =>
          obtain ⟨d, tail, written, sign | digit⟩ := Number.text_opens n
          · exact ⟨d, tail, written, sign ▸ rfl⟩
          · exact ⟨d, tail, written, by rw [opening, digit, Bool.true_or]⟩
      | double x => cases integral
  | string s => exact ⟨'"', _, String.toList_ofList, rfl⟩
  | array items =>
      refine ⟨'[', (itemsText items ++ "]").toList, ?_, rfl⟩
      rw [Value.text, String.append_assoc, String.toList_append]
      rfl
  | object members =>
      refine ⟨'\x7b', (membersText members ++ "\x7d").toList, ?_, rfl⟩
      rw [Value.text, String.append_assoc, String.toList_append]
      rfl

theorem skipSpace_of_not {d : Char} (black : isSpace d = false) (tail : List Char) (offset : Nat) :
    skipSpace ⟨d :: tail, offset⟩ = ⟨d :: tail, offset⟩ := by
  simp [skipSpace, Cursor.skipWhile, Cursor.takeWhile, black, Text.byteLength]

theorem opening_apart {d : Char} (opens : opening d = true) :
    isSpace d = false ∧ d ≠ ']' := by
  constructor
  · rw [Bool.eq_false_iff]
    intro space
    simp only [isSpace, Bool.or_eq_true, decide_eq_true_eq] at space
    obtain ((rfl | rfl) | rfl) | rfl := space <;> cases opens
  · rintro rfl
    cases opens

/-- Wherever the text of the value stands, a scan takes it all and leaves what follows. -/
def Scans (fuel : Nat) (v : Value) : Prop :=
  ∀ rest, Ends rest → ∀ offset, ∃ outline after,
    scanValue fuel ⟨v.text.toList ++ rest, offset⟩ = (outline, some ⟨rest, after⟩) ∧ outline.Holds v

theorem scans_number {n : Int} (fits : (Number.integer n).integral = true) (fuel : Nat) :
    Scans (fuel + 1) (.number (.integer n)) := by
  intro rest ends offset
  obtain ⟨after, scanned⟩ := scanNumber_text fits ends offset
  refine ⟨.scalar offset (.number (.integer n)) after, after, ?_, .scalar rfl⟩
  obtain ⟨d, tail, written, opens⟩ := Number.text_opens n
  have black : isSpace d = false := by
    refine (opening_apart ?_).1
    obtain rfl | digit := opens
    · rfl
    · rw [opening, digit, Bool.true_or]
  have apart : d ≠ '[' ∧ d ≠ '\x7b' ∧ d ≠ 'n' ∧ d ≠ 't' ∧ d ≠ 'f' ∧ d ≠ '"' := by
    refine ⟨?_, ?_, ?_, ?_, ?_, ?_⟩ <;> rintro rfl <;> simp at opens
  rw [written, List.cons_append] at scanned
  rw [Value.text, written, List.cons_append]
  simp [scanValue, scanScalar, skipSpace_of_not black, apart, opens, scanned]

theorem scans_string (s : String) (fuel : Nat) : Scans (fuel + 1) (.string s) := by
  intro rest ends offset
  obtain ⟨after, scanned⟩ := scanText_escapedText s (offset + 1) rest
  refine ⟨.scalar offset (.string s) after, after, ?_, .scalar rfl⟩
  rw [Value.text, escapedText_append]
  simp [scanValue, scanScalar, skipSpace_of_not (d := '"') rfl, scanned]

theorem scans_null (fuel : Nat) : Scans (fuel + 1) .null := by
  intro rest ends offset
  exact ⟨_, _, rfl, .scalar rfl⟩

theorem scans_bool (b : Bool) (fuel : Nat) : Scans (fuel + 1) (.bool b) := by
  intro rest ends offset
  cases b with
  | false => exact ⟨_, _, rfl, .scalar rfl⟩
  | true => exact ⟨_, _, rfl, .scalar rfl⟩

/-! ### Lists -/

def restText (values : List Value) : List Char :=
  values.flatMap fun v => ',' :: v.text.toList

theorem itemsText_cons (v : Value) (values : List Value) :
    (itemsText (v :: values)).toList = v.text.toList ++ restText values := by
  induction values generalizing v with
  | nil => rw [itemsText, restText, List.flatMap_nil, List.append_nil]
  | cons next values ih =>
      rw [itemsText, String.toList_append, String.toList_append, ih, List.append_assoc]
      · rfl
      · exact List.cons_ne_nil next values

theorem arrayText_cons (v : Value) (values : List Value) :
    (Value.array (v :: values)).text.toList =
      '[' :: (v.text.toList ++ (restText values ++ [']'])) := by
  rw [Value.text, String.toList_append, String.toList_append, itemsText_cons]
  simp

theorem ends_restText (values : List Value) (rest : List Char) :
    Ends (restText values ++ ']' :: rest) := by
  intro d first
  cases values with
  | nil => exact .inr (.inl (Option.some.inj first).symm)
  | cons v values => exact .inl (Option.some.inj first).symm

def ScansRest (fuel : Nat) (values : List Value) : Prop :=
  ∀ rest offset, ∃ items after,
    scanItems fuel false ⟨restText values ++ ']' :: rest, offset⟩ = (items, some ⟨rest, after⟩) ∧
      items.Hold values

theorem scanItem_of_scans {fuel : Nat} {v : Value} {values : List Value} (first : Scans fuel v)
    (later : ScansRest fuel values) (rest : List Char) (offset : Nat) :
    ∃ items after,
      scanItem (fuel + 1) ⟨v.text.toList ++ (restText values ++ ']' :: rest), offset⟩ =
        (items, some ⟨rest, after⟩) ∧ items.Hold (v :: values) := by
  obtain ⟨item, middle, scanned, holds⟩ := first _ (ends_restText values rest) offset
  obtain ⟨items, after, others, hold⟩ := later rest middle
  simp only [scanItem, scanned, others]
  exact ⟨_, after, rfl, .more holds hold⟩

theorem scansRest_nil (fuel : Nat) : ScansRest (fuel + 1) [] := by
  intro rest offset
  exact ⟨_, _, rfl, .done⟩

theorem scansRest_cons {fuel : Nat} {v : Value} {values : List Value}
    (integral : v.integral = true) (first : Scans fuel v) (later : ScansRest fuel values) :
    ScansRest (fuel + 2) (v :: values) := by
  intro rest offset
  obtain ⟨d, tail, written, opens⟩ := v.text_opens integral
  obtain ⟨black, unclosed⟩ := opening_apart opens
  obtain ⟨items, after, scanned, hold⟩ := scanItem_of_scans first later rest (offset + 1)
  refine ⟨items, after, ?_, hold⟩
  rw [written, List.cons_append] at scanned
  have text : restText (v :: values) ++ ']' :: rest =
      ',' :: d :: (tail ++ (restText values ++ ']' :: rest)) := by
    rw [restText, List.flatMap_cons, written]
    simp [restText]
  rw [text]
  simp [scanItems, skipSpace_of_not (d := ',') rfl, skipSpace_of_not black, unclosed, scanned]

theorem scans_nil (fuel : Nat) : Scans (fuel + 2) (.array []) := by
  intro rest ends offset
  exact ⟨_, _, rfl, .array .done⟩

theorem scans_cons {fuel : Nat} {v : Value} {values : List Value} (integral : v.integral = true)
    (first : Scans fuel v) (later : ScansRest fuel values) :
    Scans (fuel + 3) (.array (v :: values)) := by
  intro rest ends offset
  obtain ⟨d, tail, written, opens⟩ := v.text_opens integral
  obtain ⟨black, unclosed⟩ := opening_apart opens
  obtain ⟨items, after, scanned, hold⟩ := scanItem_of_scans first later rest (offset + 1)
  refine ⟨.array offset items, after, ?_, .array hold⟩
  rw [written, List.cons_append] at scanned
  have text : (Value.array (v :: values)).text.toList ++ rest =
      '[' :: d :: (tail ++ (restText values ++ ']' :: rest)) := by
    rw [arrayText_cons, written]
    simp
  rw [text]
  simp [scanValue, scanItems, skipSpace_of_not (d := '[') rfl, skipSpace_of_not black, scanned]

/-! ### Objects -/

def memberText (name : String) (v : Value) : List Char :=
  (escapedText name).toList ++ ':' :: v.text.toList

theorem memberText_append (name : String) (v : Value) (rest : List Char) :
    memberText name v ++ rest =
      '"' :: (name.toList.flatMap escapedChar ++ '"' :: ':' :: (v.text.toList ++ rest)) := by
  rw [memberText, List.append_assoc, escapedText_append, List.cons_append]

def restMembersText (values : List (String × Value)) : List Char :=
  values.flatMap fun member => ',' :: memberText member.1 member.2

theorem membersText_cons (name : String) (v : Value) (values : List (String × Value)) :
    (membersText ((name, v) :: values)).toList = memberText name v ++ restMembersText values := by
  induction values generalizing name v with
  | nil => simp [membersText, memberText, restMembersText]
  | cons next values ih =>
      rw [membersText]
      · simp [ih, memberText, restMembersText]
      · exact List.cons_ne_nil next values

theorem objectText_cons (name : String) (v : Value) (values : List (String × Value)) :
    (Value.object ((name, v) :: values)).text.toList =
      '\x7b' :: (memberText name v ++ (restMembersText values ++ ['\x7d'])) := by
  rw [Value.text, String.toList_append, String.toList_append, membersText_cons]
  simp

theorem ends_restMembersText (values : List (String × Value)) (rest : List Char) :
    Ends (restMembersText values ++ '\x7d' :: rest) := by
  intro d first
  cases values with
  | nil => exact .inr (.inr (Option.some.inj first).symm)
  | cons member values => exact .inl (Option.some.inj first).symm

def ScansMembersRest (fuel : Nat) (values : List (String × Value)) : Prop :=
  ∀ rest offset, ∃ members after,
    scanMembers fuel false ⟨restMembersText values ++ '\x7d' :: rest, offset⟩ =
      (members, some ⟨rest, after⟩) ∧ members.Hold values

theorem scanMember_of_scans {fuel : Nat} {v : Value} {values : List (String × Value)}
    (name : String) (first : Scans fuel v) (later : ScansMembersRest fuel values)
    (rest : List Char) (offset : Nat) :
    ∃ members after,
      scanMember (fuel + 1)
        ⟨memberText name v ++ (restMembersText values ++ '\x7d' :: rest), offset⟩ =
          (members, some ⟨rest, after⟩) ∧ members.Hold ((name, v) :: values) := by
  have ends := ends_restMembersText values rest
  obtain ⟨colon, named⟩ := scanText_escapedText name (offset + 1)
    (':' :: (v.text.toList ++ (restMembersText values ++ '\x7d' :: rest)))
  obtain ⟨member, middle, scanned, holds⟩ := first _ ends (colon + 1)
  obtain ⟨members, after, others, hold⟩ := later rest middle
  simp only [memberText_append, scanMember, List.drop_succ_cons, List.drop_zero, named,
    skipSpace_of_not (d := ':') rfl, scanned, others]
  exact ⟨_, after, rfl, .more holds hold⟩

theorem scansMembersRest_nil (fuel : Nat) : ScansMembersRest (fuel + 1) [] := by
  intro rest offset
  exact ⟨_, _, rfl, .done⟩

theorem scansMembersRest_cons {fuel : Nat} {v : Value} {values : List (String × Value)}
    (name : String) (first : Scans fuel v) (later : ScansMembersRest fuel values) :
    ScansMembersRest (fuel + 2) ((name, v) :: values) := by
  intro rest offset
  obtain ⟨members, after, scanned, hold⟩ := scanMember_of_scans name first later rest (offset + 1)
  refine ⟨members, after, ?_, hold⟩
  rw [memberText_append] at scanned
  have text : restMembersText ((name, v) :: values) ++ '\x7d' :: rest =
      ',' :: (memberText name v ++ (restMembersText values ++ '\x7d' :: rest)) := by
    simp [restMembersText]
  rw [text, memberText_append]
  simp [scanMembers, skipSpace_of_not (d := ',') rfl, skipSpace_of_not (d := '"') rfl, scanned]

theorem scans_empty (fuel : Nat) : Scans (fuel + 2) (.object []) := by
  intro rest ends offset
  exact ⟨_, _, rfl, .object .done⟩

theorem scans_members {fuel : Nat} {v : Value} {values : List (String × Value)} (name : String)
    (first : Scans fuel v) (later : ScansMembersRest fuel values) :
    Scans (fuel + 3) (.object ((name, v) :: values)) := by
  intro rest ends offset
  obtain ⟨members, after, scanned, hold⟩ := scanMember_of_scans name first later rest (offset + 1)
  refine ⟨.object offset members, after, ?_, .object hold⟩
  rw [memberText_append] at scanned
  have text : (Value.object ((name, v) :: values)).text.toList ++ rest =
      '\x7b' :: (memberText name v ++ (restMembersText values ++ '\x7d' :: rest)) := by
    rw [objectText_cons]
    simp
  rw [text, memberText_append]
  simp [scanValue, scanMembers, skipSpace_of_not (d := '\x7b') rfl,
    skipSpace_of_not (d := '"') rfl, scanned]

/-! ### Whole texts -/

theorem scans_of_fuel {v : Value} {least : Nat} (each : ∀ more, Scans (more + least) v) {fuel : Nat}
    (enough : least ≤ fuel) : Scans fuel v := by
  rw [← Nat.sub_add_cancel enough]
  exact each (fuel - least)

theorem Value.text_nonempty {v : Value} (integral : v.integral = true) :
    1 ≤ v.text.toList.length := by
  obtain ⟨d, tail, written, -⟩ := v.text_opens integral
  rw [written]
  exact Nat.succ_pos _

mutual

-- An item takes two steps beside its own, and its comma or bracket pays for them.
/-- Two steps for each character are enough. -/
theorem scans_of_length : ∀ (v : Value) (fuel : Nat), v.integral = true →
    2 * v.text.toList.length ≤ fuel → Scans fuel v
  | .null => fun _ _ enough => scans_of_fuel scans_null (Nat.le_trans (by decide) enough)
  | .bool b => fun _ _ enough =>
      scans_of_fuel (scans_bool b) (Nat.le_trans (by cases b <;> decide) enough)
  | .number (.integer n) => fun _ integral enough => by
      have length := Value.text_nonempty integral
      exact scans_of_fuel (scans_number integral) (by omega)
  | .number (.double _) => nofun
  | .string s => fun _ integral enough => by
      have length := Value.text_nonempty integral
      exact scans_of_fuel (scans_string s) (by omega)
  | .array [] => fun _ _ enough => scans_of_fuel scans_nil (Nat.le_trans (by decide) enough)
  | .array (v :: values) => fun fuel integral enough => by
      rw [arrayText_cons] at enough
      simp only [List.length_cons, List.length_append, List.length_nil] at enough
      have both : v.integral = true ∧ itemsIntegral values = true :=
        Bool.and_eq_true_iff.mp integral
      obtain ⟨more, rfl⟩ : ∃ more, fuel = more + 3 := ⟨fuel - 3, by omega⟩
      exact scans_cons both.1 (scans_of_length v more both.1 (by omega))
        (scansRest_of_length values more both.2 (by omega))
  | .object [] => fun _ _ enough => scans_of_fuel scans_empty (Nat.le_trans (by decide) enough)
  | .object ((name, v) :: values) => fun fuel integral enough => by
      rw [objectText_cons] at enough
      simp only [memberText, List.length_cons, List.length_append, List.length_nil] at enough
      have both : v.integral = true ∧ membersIntegral values = true :=
        Bool.and_eq_true_iff.mp integral
      obtain ⟨more, rfl⟩ : ∃ more, fuel = more + 3 := ⟨fuel - 3, by omega⟩
      exact scans_members name (scans_of_length v more both.1 (by omega))
        (scansMembersRest_of_length values more both.2 (by omega))

theorem scansRest_of_length : ∀ (values : List Value) (fuel : Nat), itemsIntegral values = true →
    2 * (restText values).length + 1 ≤ fuel → ScansRest fuel values
  | [], fuel, _, enough => by
      obtain ⟨fuel, rfl⟩ := Nat.exists_eq_add_of_le' enough
      exact scansRest_nil fuel
  | v :: values, fuel, integral, enough => by
      have both : v.integral = true ∧ itemsIntegral values = true :=
        Bool.and_eq_true_iff.mp integral
      have split : (restText (v :: values)).length =
          v.text.toList.length + 1 + (restText values).length :=
        List.length_append
      obtain ⟨more, rfl⟩ : ∃ more, fuel = more + 2 := ⟨fuel - 2, by omega⟩
      exact scansRest_cons both.1 (scans_of_length v more both.1 (by omega))
        (scansRest_of_length values more both.2 (by omega))

theorem scansMembersRest_of_length : ∀ (values : List (String × Value)) (fuel : Nat),
    membersIntegral values = true → 2 * (restMembersText values).length + 1 ≤ fuel →
      ScansMembersRest fuel values
  | [], fuel, _, enough => by
      obtain ⟨fuel, rfl⟩ := Nat.exists_eq_add_of_le' enough
      exact scansMembersRest_nil fuel
  | (name, v) :: values, fuel, integral, enough => by
      have both : v.integral = true ∧ membersIntegral values = true :=
        Bool.and_eq_true_iff.mp integral
      have split : (restMembersText ((name, v) :: values)).length =
          (memberText name v).length + 1 + (restMembersText values).length :=
        List.length_append
      rw [memberText, List.length_append, List.length_cons] at split
      obtain ⟨more, rfl⟩ : ∃ more, fuel = more + 2 := ⟨fuel - 2, by omega⟩
      exact scansMembersRest_cons name (scans_of_length v more both.1 (by omega))
        (scansMembersRest_of_length values more both.2 (by omega))

end

theorem spells_text {v : Value} (integral : v.integral = true) : Spells v.text.toList v := by
  have enough : 2 * v.text.toList.length ≤ scanFuel v.text.toList := by
    rw [scanFuel]
    omega
  obtain ⟨outline, after, scanned, holds⟩ :=
    scans_of_length v _ integral enough [] (by simp [Ends]) 0
  refine ⟨outline, ?_, holds⟩
  rw [List.append_nil] at scanned
  rw [scanDocument, Cursor.start, scanned]
  rfl

/-! ### The first bracket -/

def Outline.opener? : Outline → Option Char
  | .array .. => some '['
  | .object .. => some '\x7b'
  | _ => none

theorem scanWord_opener (value : Scalar) (start : Nat) (word : List Char) (c : Cursor) :
    (scanWord value start word c).1.opener? = none := by
  induction word generalizing c with
  | nil => rfl
  | cons w word ih =>
      rw [scanWord]
      split
      · rfl
      · split
        · exact ih _
        · rfl

theorem scanNumber_opener (c : Cursor) : (scanNumber c).1.opener? = none := by
  simp only [scanNumber]
  split
  · rfl
  · split <;> rfl

theorem scanScalar_opener (c : Cursor) : (scanScalar c).1.opener? = none := by
  unfold scanScalar
  split
  · rfl
  · exact scanWord_opener ..
  · exact scanWord_opener ..
  · exact scanWord_opener ..
  · split <;> rfl
  · split
    · exact scanNumber_opener _
    · rfl

theorem scanValue_opener {fuel : Nat} {c : Cursor} {d : Char}
    (opens : (scanValue fuel c).1.opener? = some d) : (skipSpace c).rest.head? = some d := by
  cases fuel with
  | zero => cases opens
  | succ fuel =>
      simp only [scanValue] at opens
      split at opens
      · next rest first =>
          rw [first]
          exact opens
      · next rest first =>
          rw [first]
          exact opens
      · rw [scanScalar_opener] at opens
        cases opens

theorem isBlank_of_isSpace {c : Char} (space : isSpace c = true) : Text.isBlank c = true := by
  simp only [isSpace, Bool.or_eq_true, decide_eq_true_eq] at space
  obtain ((rfl | rfl) | rfl) | rfl := space <;> rfl

theorem skipSpace_rest (c : Cursor) : (skipSpace c).rest = c.rest.dropWhile isSpace := by
  have parts : c.rest.takeWhile isSpace ++ c.rest.dropWhile isSpace = c.rest :=
    List.takeWhile_append_dropWhile
  change c.rest.drop (c.rest.takeWhile isSpace).length = _
  exact (congrArg (List.drop _) parts.symm).trans List.drop_left

theorem dropWhile_of_dropWhile {p q : Char → Bool} {d : Char} {text : List Char}
    (first : (text.dropWhile p).head? = some d) (weaker : ∀ c, p c = true → q c = true)
    (stops : q d = false) : ∃ rest, text.dropWhile q = d :: rest := by
  induction text with
  | nil => cases first
  | cons c text ih =>
      rw [List.dropWhile_cons] at first ⊢
      split at first
      · next passed =>
          rw [if_pos (weaker c passed)]
          exact ih first
      · cases first
        rw [stops]
        exact ⟨text, rfl⟩

def Value.opener? : Value → Option Char
  | .array _ => some '['
  | .object _ => some '\x7b'
  | _ => none

theorem opener_of_holds {outline : Outline} {v : Value} (holds : outline.Holds v) :
    outline.opener? = v.opener? := by
  cases holds with
  | @scalar start after scalar v same => cases same; cases scalar <;> rfl
  | array each => rfl
  | object each => rfl

theorem trimStart_of_spells {text : List Char} {v : Value} (spells : Spells text v) {d : Char}
    (opens : v.opener? = some d) : ∃ rest, Text.trimStart text = d :: rest := by
  obtain ⟨outline, scanned, holds⟩ := spells
  have tree : (scanValue (scanFuel text) (.start text)).1 = outline := by
    rw [scanDocument] at scanned
    split at scanned
    · next met => rw [met]; exact congrArg Prod.fst scanned
    · next met => rw [met]; exact congrArg Prod.fst scanned
  have first : (skipSpace (.start text)).rest.head? = some d :=
    scanValue_opener (tree ▸ (opener_of_holds holds).trans opens)
  have stops : Text.isBlank d = false := by
    cases v <;> cases opens <;> rfl
  rw [skipSpace_rest] at first
  exact dropWhile_of_dropWhile first (fun _ => isBlank_of_isSpace) stops

end SchemaBindings.Json
