import SchemaBindings.Json.Reading
import SchemaBindings.Proofs.Failure
import SchemaBindings.Proofs.Text.Searching

/-!
Where the parts of a scanned text lie. A scan goes no further than the end of the text, so every
offset of its tree is within the text, and so is every fault that can be met in it.
-/

namespace SchemaBindings

/-! ### Cursors -/

namespace Text

variable {size : Nat} {c : Cursor}

theorem length_le_byteLength (text : List Char) : text.length ≤ byteLength text := by
  induction text with
  | nil => exact Nat.le_refl 0
  | cons d rest ih =>
      have positive := d.utf8Size_pos
      rw [List.length_cons, byteLength]
      omega

theorem length_add_byteLength_le (front rest : List Char) :
    front.length + byteLength rest ≤ byteLength (front ++ rest) := by
  rw [byteLength_append]
  exact Nat.add_le_add_right (length_le_byteLength front) _

namespace Cursor

/-- What is left of the text ends after so many bytes at the latest. -/
def Within (size : Nat) (c : Cursor) : Prop :=
  c.offset + byteLength c.rest ≤ size

theorem Within.offset_le (within : c.Within size) : c.offset ≤ size :=
  Nat.le_trans (Nat.le_add_right _ _) within

theorem Within.next {d : Char} {rest : List Char} (within : c.Within size)
    (first : c.rest = d :: rest) : Within size ⟨rest, c.offset + 1⟩ := by
  have positive := d.utf8Size_pos
  rw [Within, first, byteLength] at within
  change c.offset + 1 + byteLength rest ≤ size
  omega

theorem Within.lt {d : Char} {rest : List Char} (within : c.Within size)
    (first : c.rest = d :: rest) : c.offset < size :=
  (within.next first).offset_le

theorem Within.takeWhile (within : c.Within size) (p : Char → Bool) :
    (c.takeWhile p).2.Within size := by
  have parts := List.prefix_iff_eq_append.mp (c.rest.takeWhile_prefix p)
  have total := congrArg byteLength parts
  rw [byteLength_append] at total
  rw [Within] at within ⊢
  simp only [Cursor.takeWhile]
  omega

theorem Within.lt_of_more (within : c.Within size) (more : ¬c.rest.isEmpty) : c.offset < size := by
  cases left : c.rest with
  | nil => exact absurd (List.isEmpty_iff.mpr left) more
  | cons d rest => exact within.lt left

theorem Within.peekOffset_le (within : c.Within size) : c.peekOffset ≤ size := by
  unfold peekOffset
  split
  · exact within.offset_le
  · next more => exact within.lt_of_more more

end Cursor

end Text

namespace Json

open Text (Cursor byteLength length_le_byteLength length_add_byteLength_le)

variable {size : Nat} {c : Cursor}

/-! ### Faults -/

def Fault.Within (size : Nat) (fault : Fault) : Prop :=
  ∀ place ∈ fault.offset, place ≤ size

def Fault.PlacedWithin (size : Nat) (fault : Fault) : Prop :=
  ∃ place ≤ size, fault.offset = some place

theorem Fault.placedWithin_at {cause : Cause} {place : Nat} (inside : place ≤ size) :
    (Fault.at cause place).PlacedWithin size :=
  ⟨place, inside, rfl⟩

theorem Fault.placedWithin_shapeAt {shape : ShapeFault} {place : Nat} (inside : place ≤ size) :
    (Fault.shapeAt shape place).PlacedWithin size :=
  ⟨place, inside, rfl⟩

theorem Fault.PlacedWithin.within {fault : Fault} (placed : fault.PlacedWithin size) :
    fault.Within size := by
  obtain ⟨place, inside, there⟩ := placed
  intro other same
  obtain rfl : place = other := Option.some.inj (there.symm.trans same)
  exact inside

theorem Fault.within_of_unplaced {fault : Fault} (unplaced : fault.offset = none) :
    fault.Within size := by
  intro place there
  rw [unplaced] at there
  cases there

theorem Fault.Within.settle {fault : Fault} {resume : Nat} (within : fault.Within size)
    (inside : resume ≤ size) : (fault.settle resume).PlacedWithin size := by
  cases place : fault.offset with
  | none => exact ⟨resume, inside, by rw [Fault.settle, place]; rfl⟩
  | some offset => exact ⟨offset, within offset place, by rw [Fault.settle, place]; rfl⟩

structure Cut.Within (size : Nat) (cut : Cut) : Prop where
  reading : cut.reading.PlacedWithin size
  skipping : cut.skipping.PlacedWithin size

theorem Cut.within_both {cause : Cause} {place : Nat} (inside : place ≤ size) :
    (Cut.both cause place).Within size :=
  ⟨Fault.placedWithin_at inside, Fault.placedWithin_at inside⟩

/-- A scan is cut off within so many bytes, or gives what satisfies `p`. -/
inductive ScansWithin {α : Type} (size : Nat) (p : α → Prop) : Except Cut α → Prop where
  | cut {stop : Cut} (within : stop.Within size) : ScansWithin size p (.error stop)
  | done {x : α} (holds : p x) : ScansWithin size p (.ok x)

theorem ScansWithin.bind {α β : Type} {p : α → Prop} {q : β → Prop} {scan : Except Cut α}
    {next : α → Except Cut β} (first : ScansWithin size p scan)
    (later : ∀ x, p x → ScansWithin size q (next x)) : ScansWithin size q (scan >>= next) := by
  cases first with
  | cut within => exact .cut within
  | done holds => exact later _ holds

/-! ### Strings -/

def Spelling.Within (size : Nat) (s : Spelling) : Prop :=
  ∀ fault ∈ s.flaw, fault.PlacedWithin size

namespace Spelling.Within

variable {s : Spelling} {offset : Nat}

theorem empty : Spelling.empty.Within size :=
  nofun

theorem push (within : s.Within size) (d : Char) : (s.push d).Within size :=
  within

theorem blame (within : s.Within size) (cause : Cause) (inside : offset ≤ size) :
    (s.blame cause offset).Within size := by
  intro fault flaw
  cases flawed : s.flaw with
  | none =>
      rw [Spelling.blame, flawed] at flaw
      cases flaw
      exact Fault.placedWithin_at inside
  | some first =>
      rw [Spelling.blame, flawed] at flaw
      cases flaw
      exact within _ flawed

theorem alone (within : s.Within size) (inside : offset ≤ size) : (s.alone offset).Within size := by
  unfold Spelling.alone
  split
  · exact within.blame _ inside
  · exact within

theorem unit (within : s.Within size) (n : Nat) (inside : offset ≤ size) :
    (s.unit n offset).Within size := by
  unfold Spelling.unit
  split
  · split
    · exact within
    · exact within.blame _ inside
  · split
    · exact within.blame _ inside
    · split
      · exact within
      · exact within.push _

theorem getD (within : s.Within size) {fault : Fault} (placed : fault.PlacedWithin size) :
    (s.flaw.getD fault).PlacedWithin size := by
  cases flawed : s.flaw with
  | none => exact placed
  | some first => exact within first flawed

theorem cut (within : s.Within size) (cause : Cause) (inside : offset ≤ size) :
    (s.cut cause offset).Within size :=
  ⟨within.getD (Fault.placedWithin_at inside), Fault.placedWithin_at inside⟩

end Spelling.Within

structure TextWithin (size : Nat) (scanned : Except Fault String × Cursor) : Prop where
  flaw : FailsOnly (Fault.PlacedWithin size) scanned.1
  left : scanned.2.Within size

theorem scanText_within {s : Spelling} {offset : Nat} {text : List Char}
    (flaw : s.Within size) (within : offset + byteLength text ≤ size) :
    ScansWithin size (TextWithin size) (scanText s offset text) := by
  fun_induction scanText s offset text with
  | case1 s offset => exact .cut (flaw.cut _ within)
  | case2 s offset a b c d rest n _ ih =>
      have room : 6 + byteLength rest ≤ byteLength ('\\' :: 'u' :: a :: b :: c :: d :: rest) :=
        length_add_byteLength_le ['\\', 'u', a, b, c, d] rest
      exact ih (flaw.unit n (by omega)) (by omega)
  | case3 s offset a b c d rest _ =>
      have room : 6 + byteLength rest ≤ byteLength ('\\' :: 'u' :: a :: b :: c :: d :: rest) :=
        length_add_byteLength_le ['\\', 'u', a, b, c, d] rest
      exact .cut (flaw.cut _ (by omega))
  | case4 s offset rest _ left few =>
      have room : 2 + left ≤ byteLength ('\\' :: 'u' :: rest) :=
        length_add_byteLength_le ['\\', 'u'] rest
      exact .cut (flaw.cut _ (by omega))
  | case5 s offset rest _ left enough =>
      have room : 2 + left ≤ byteLength ('\\' :: 'u' :: rest) :=
        length_add_byteLength_le ['\\', 'u'] rest
      exact .cut (flaw.cut _ (by omega))
  | case6 s offset => exact .cut (flaw.cut _ within)
  | case7 s offset e rest _ _ _ c _ ih =>
      have room : 2 + byteLength rest ≤ byteLength ('\\' :: e :: rest) :=
        length_add_byteLength_le ['\\', e] rest
      exact ih ((flaw.alone (by omega)).push c) (by omega)
  | case8 s offset e rest _ _ _ _ =>
      have room : 2 + byteLength rest ≤ byteLength ('\\' :: e :: rest) :=
        length_add_byteLength_le ['\\', e] rest
      exact .cut ((flaw.alone (by omega)).cut _ (by omega))
  | case9 s offset rest lone =>
      have room : 1 + byteLength rest ≤ byteLength ('"' :: rest) :=
        length_add_byteLength_le ['"'] rest
      have flawed : lone.Within size := flaw.alone (by omega)
      refine .done ⟨?_, by change offset + 1 + byteLength rest ≤ size; omega⟩
      simp only
      split
      · next fault first => exact FailsOnly.error (flawed fault first)
      · exact FailsOnly.ok _
  | case10 s offset c rest _ _ _ _ lone _ _ =>
      have room : 1 + byteLength rest ≤ byteLength (c :: rest) := length_add_byteLength_le [c] rest
      have flawed : lone.Within size := flaw.alone (by omega)
      exact .cut ⟨flawed.getD (Fault.placedWithin_at (by omega)), Fault.placedWithin_at (by omega)⟩
  | case11 s offset c rest _ _ _ _ lone _ _ ih =>
      have positive := c.utf8Size_pos
      have room : byteLength (c :: rest) = c.utf8Size + byteLength rest := rfl
      exact ih ((flaw.alone (by omega)).push c) (by omega)

/-! ### Numbers -/

theorem takeDigits_within (within : c.Within size) :
    (takeDigits c).2.Within size ∧
      c.offset + (takeDigits c).1.length ≤ (takeDigits c).2.offset :=
  ⟨within.takeWhile _, Nat.add_le_add_left (length_le_byteLength _) _⟩

theorem digitWanted_within (within : c.Within size) : (digitWanted c).Within size := by
  unfold digitWanted
  split
  · exact ⟨Fault.placedWithin_at within.offset_le, Fault.placedWithin_at within.offset_le⟩
  · next more => exact Cut.within_both (within.lt_of_more more)

theorem scanWhole_within (within : c.Within size) :
    ScansWithin size (fun (_, after) => after.Within size) (scanWhole c) := by
  obtain ⟨left, long⟩ := takeDigits_within within
  unfold scanWhole
  simp only
  split
  · exact .cut (digitWanted_within within)
  · next d more digits =>
      rw [digits, List.length_cons, List.length_cons] at long
      have inside := left.offset_le
      exact .cut (Cut.within_both (by omega))
  · exact .done left

theorem scanFraction_within (within : c.Within size) :
    ScansWithin size (fun (_, after) => after.Within size) (scanFraction c) := by
  unfold scanFraction
  split
  · next rest first =>
      have next := within.next first
      simp only
      split
      · exact .cut (digitWanted_within next)
      · exact .done (takeDigits_within next).1
  · exact .done within

structure ExponentWithin (size : Nat) (scanned : Option (Bool × List Char) × Cursor) : Prop where
  digits : ∀ down digits, scanned.1 = some (down, digits) → digits.length ≤ scanned.2.offset
  left : scanned.2.Within size

theorem scanExponent_within (within : c.Within size) :
    ScansWithin size (ExponentWithin size) (scanExponent c) := by
  have none : ExponentWithin size (none, c) := ⟨nofun, within⟩
  have written (down : Bool) (signed : Cursor) (inside : signed.Within size) :
      ScansWithin size (ExponentWithin size)
        (if (takeDigits signed).1.isEmpty then .error (digitWanted signed)
          else .ok (some (down, (takeDigits signed).1), (takeDigits signed).2)) := by
    obtain ⟨left, long⟩ := takeDigits_within inside
    split
    · exact .cut (digitWanted_within inside)
    · refine .done ⟨?_, left⟩
      rintro _ _ ⟨⟩
      exact Nat.le_trans (Nat.le_add_left _ _) long
  unfold scanExponent
  split
  · next e rest first =>
      have next := within.next first
      simp only
      split
      · refine written _ _ ?_
        split
        · exact next.next rfl
        · exact next.next rfl
        · exact next
      · exact .done none
  · exact .done none

theorem exponentValue_error {value count read : Nat} {digits : List Char}
    (large : exponentValue value count digits = .error read) : read ≤ count + digits.length := by
  induction digits generalizing value count with
  | nil => cases large
  | cons d digits ih =>
      rw [exponentValue] at large
      rw [List.length_cons]
      split at large
      · have later := ih large
        omega
      · cases large
        omega

theorem Numeral.value_placed {n : Numeral} {exponentStart after : Nat} (inside : after ≤ size)
    (digits : ∀ down digits, n.exponent = some (down, digits) →
      exponentStart + digits.length ≤ size) :
    FailsOnly (Fault.PlacedWithin size) (n.value exponentStart after) := by
  have large : (Fault.at .numberOutOfRange after).PlacedWithin size := Fault.placedWithin_at inside
  unfold Numeral.value
  dsimp only
  split
  · next down written exponent =>
      split
      · split
        · exact FailsOnly.ok _
        · exact FailsOnly.error large
      · next count long =>
          split_ifs
          · exact FailsOnly.ok _
          · have few := exponentValue_error long
            have room := digits down written exponent
            exact FailsOnly.error (Fault.placedWithin_at (by omega))
  · split_ifs
    · split
      · exact FailsOnly.ok _
      · exact FailsOnly.error large
    · exact FailsOnly.ok _
    · split
      · exact FailsOnly.ok _
      · exact FailsOnly.error large

/-! ### Trees -/

mutual

/-- Every offset of the tree is within so many bytes, and brackets open before the last of them. -/
inductive Outline.Within (size : Nat) : Outline → Prop where
  | scalar {start after : Nat} {value : Scalar} (opens : start < size) (ends : after ≤ size) :
      Outline.Within size (.scalar start value after)
  | flawed {start : Nat} {early : Bool} {fault : Fault} (opens : start < size)
      (placed : fault.PlacedWithin size) : Outline.Within size (.flawed start early fault)
  | broken {start : Nat} {early : Bool} {stop : Cut} (opens : early = false → start < size)
      (within : stop.Within size) : Outline.Within size (.broken start early stop)
  | array {start : Nat} {items : Items} (opens : start < size) (each : items.Within size) :
      Outline.Within size (.array start items)
  | object {start : Nat} {members : Members} (opens : start < size)
      (each : members.Within size) : Outline.Within size (.object start members)

inductive Items.Within (size : Nat) : Items → Prop where
  | closed {after : Nat} (ends : after ≤ size) : Items.Within size (.done (.closed after))
  | cut {stop : Cut} {closing : Fault} (within : stop.Within size)
      (placed : closing.PlacedWithin size) : Items.Within size (.done (.cut stop closing))
  | more {start resume : Nat} {item : Outline} {rest : Items} (opens : start < size)
      (first : item.Within size) (inside : resume ≤ size) (later : rest.Within size) :
      Items.Within size (.more start item resume rest)

inductive Members.Within (size : Nat) : Members → Prop where
  | closed {after : Nat} (ends : after ≤ size) : Members.Within size (.done (.closed after))
  | cut {stop : Cut} {closing : Fault} (within : stop.Within size) :
      Members.Within size (.done (.cut stop closing))
  | more {key : Key} {resume : Nat} {member : Outline} {rest : Members}
      (name : FailsOnly (Fault.PlacedWithin size) key.name) (after : key.after ≤ size)
      (leave : key.resume ≤ size) (first : member.Within size) (inside : resume ≤ size)
      (later : rest.Within size) : Members.Within size (.more key member resume rest)

end

structure Leaves {α : Type} (size : Nat) (p : α → Prop) (scanned : α × Option Cursor) : Prop where
  tree : p scanned.1
  left : ∀ after ∈ scanned.2, after.Within size

theorem Leaves.some {α : Type} {p : α → Prop} {x : α} (tree : p x) (within : c.Within size) :
    Leaves size p (x, some c) := by
  refine ⟨tree, ?_⟩
  rintro _ ⟨⟩
  exact within

theorem Leaves.none {α : Type} {p : α → Prop} {x : α} (tree : p x) :
    Leaves size p (x, (none : Option Cursor)) :=
  ⟨tree, nofun⟩

structure NumeralWithin (size : Nat) (scanned : Numeral × Nat × Cursor) : Prop where
  digits : ∀ down digits, scanned.1.exponent = some (down, digits) →
    scanned.2.1 + digits.length ≤ size
  left : scanned.2.2.Within size

theorem leaves_of_numeralWithin {start : Nat} (opens : start < size)
    {parts : Except Cut (Numeral × Nat × Cursor)} :
    ScansWithin size (NumeralWithin size) parts → Leaves size (Outline.Within size)
      (match parts with
        | .error stop => (.broken start false stop, none)
        | .ok (numeral, exponentStart, after) =>
          match numeral.value exponentStart after.offset with
          | .ok number => (.scalar start (.number number) after.offset, some after)
          | .error fault => (.flawed start false fault, some after)) := by
  intro scanned
  cases scanned with
  | cut inside => exact .none (.broken (fun _ => opens) inside)
  | @done found numeral =>
      obtain ⟨n, exponentStart, after⟩ := found
      have placed := Numeral.value_placed numeral.left.offset_le numeral.digits
      simp only at placed ⊢
      split
      · exact .some (.scalar opens numeral.left.offset_le) numeral.left
      · next fault flawed => exact .some (.flawed opens (placed fault flawed)) numeral.left

theorem scanNumber_within (within : c.Within size) (opens : c.offset < size) :
    Leaves size (Outline.Within size) (scanNumber c) := by
  unfold scanNumber
  simp only
  refine leaves_of_numeralWithin opens ?_
  refine (scanWhole_within ?_).bind fun (whole, afterWhole) inside => ?_
  · split
    · next rest first => exact within.next first
    · exact within
  refine (scanFraction_within inside).bind fun (fraction, afterFraction) inside => ?_
  refine (scanExponent_within inside).bind fun (exponent, after) ⟨digits, left⟩ => ?_
  refine .done ⟨?_, left⟩
  rintro down written ⟨⟩
  have few : written.length ≤ after.offset := digits down written rfl
  have ends : after.offset ≤ size := left.offset_le
  change after.offset - written.length + written.length ≤ size
  omega

theorem scanWord_within {value : Scalar} {start : Nat} {word : List Char} (opens : start < size)
    (within : c.Within size) :
    Leaves size (Outline.Within size) (scanWord value start word c) := by
  induction word generalizing c with
  | nil => exact .some (.scalar opens within.offset_le) within
  | cons w word ih =>
      rw [scanWord]
      split
      · exact .none (.broken (fun _ => opens) (Cut.within_both within.offset_le))
      · next d rest first =>
          have next := within.next first
          split
          · exact ih next
          · exact .none (.broken (fun _ => opens) (Cut.within_both next.offset_le))

theorem scanScalar_within (within : c.Within size) :
    Leaves size (Outline.Within size) (scanScalar c) := by
  unfold scanScalar
  split
  · exact .none (.broken nofun (Cut.within_both within.offset_le))
  · next rest first => exact scanWord_within (within.lt first) (within.next first)
  · next rest first => exact scanWord_within (within.lt first) (within.next first)
  · next rest first => exact scanWord_within (within.lt first) (within.next first)
  · next rest first =>
      have opens := within.lt first
      have scanned := scanText_within Spelling.Within.empty (within.next first)
      generalize scanText .empty (c.offset + 1) rest = result at scanned ⊢
      cases scanned with
      | cut inside => exact .none (.broken nofun inside)
      | @done found text =>
          obtain ⟨name, after⟩ := found
          have ends : after.offset ≤ size := text.left.offset_le
          cases name with
          | error fault => exact .some (.flawed opens (text.flaw fault rfl)) text.left
          | ok name => exact .some (.scalar opens ends) text.left
  · next d rest _ _ _ _ first =>
      split
      · exact scanNumber_within within (within.lt first)
      · exact .none (.broken (fun _ => within.lt first) (Cut.within_both (within.lt first)))

theorem skipSpace_within (within : c.Within size) : (skipSpace c).Within size :=
  within.takeWhile isSpace

theorem leaveList_le (within : c.Within size) : leaveList c ≤ size := by
  have skipped := skipSpace_within within
  unfold leaveList
  simp only
  split
  · next rest first => exact skipped.lt first
  · next rest first => exact (skipSpace_within (skipped.next first)).offset_le
  · exact skipped.offset_le

theorem leaveObject_le (within : c.Within size) : leaveObject c ≤ size := by
  have skipped := skipSpace_within within
  unfold leaveObject
  simp only
  split
  · next rest first => exact skipped.lt first
  · exact skipped.offset_le

theorem Items.within_unfinished (within : c.Within size) :
    Items.Within size (.done (unfinished c)) :=
  .cut (Cut.within_both within.offset_le) (Fault.placedWithin_at within.offset_le)

theorem Members.within_unfinished (within : c.Within size) :
    Members.Within size (.done (unfinished c)) :=
  .cut (Cut.within_both within.offset_le)

mutual

theorem scanValue_within : ∀ (fuel : Nat) {c : Cursor}, c.Within size →
    Leaves size (Outline.Within size) (scanValue fuel c)
  | 0, c, within => .none (.broken nofun (Cut.within_both within.offset_le))
  | fuel + 1, c, within => by
      have skipped := skipSpace_within within
      rw [scanValue]
      simp only
      split
      · next rest first =>
          obtain ⟨each, left⟩ := scanItems_within fuel true (skipped.next first)
          exact ⟨.array (skipped.lt first) each, left⟩
      · next rest first =>
          obtain ⟨each, left⟩ := scanMembers_within fuel true (skipped.next first)
          exact ⟨.object (skipped.lt first) each, left⟩
      · exact scanScalar_within skipped

theorem scanItems_within : ∀ (fuel : Nat) (first : Bool) {c : Cursor}, c.Within size →
    Leaves size (Items.Within size) (scanItems fuel first c)
  | 0, _, c, within => .none (Items.within_unfinished within)
  | fuel + 1, first, c, within => by
      have skipped := skipSpace_within within
      rw [scanItems]
      simp only
      split
      · exact .none (Items.within_unfinished skipped)
      · next rest opens => exact .some (.closed (skipped.lt opens)) (skipped.next opens)
      · next d rest _ opens =>
          split
          · exact scanItem_within fuel skipped opens
          · split
            · have behind := skipSpace_within (skipped.next opens)
              split
              · exact .none (.cut (Cut.within_both behind.offset_le)
                  (Fault.placedWithin_at behind.offset_le))
              · next rest opens =>
                  have inside := behind.lt opens
                  exact .none (.cut ⟨Fault.placedWithin_at inside, Fault.placedWithin_at inside⟩
                    (Fault.placedWithin_at inside))
              · next more _ =>
                  obtain ⟨e, rest, opens⟩ := List.exists_cons_of_ne_nil more
                  exact scanItem_within fuel behind opens
            · exact .none (.cut (Cut.within_both (skipped.lt opens))
                (Fault.placedWithin_at (skipped.lt opens)))

theorem scanItem_within : ∀ (fuel : Nat) {c : Cursor} {d : Char} {rest : List Char},
    c.Within size → c.rest = d :: rest → Leaves size (Items.Within size) (scanItem fuel c)
  | 0, c, _, _, within, _ => .none (Items.within_unfinished within)
  | fuel + 1, c, d, rest, within, opens => by
      have value := scanValue_within fuel within
      rw [scanItem]
      split
      · next item found =>
          rw [found] at value
          exact .none (.more (within.lt opens) value.tree within.offset_le
            (Items.within_unfinished within))
      · next item after found =>
          rw [found] at value
          have left := value.left after rfl
          obtain ⟨each, behind⟩ := scanItems_within fuel false left
          exact ⟨.more (within.lt opens) value.tree (leaveList_le left) each, behind⟩

theorem scanMembers_within : ∀ (fuel : Nat) (first : Bool) {c : Cursor}, c.Within size →
    Leaves size (Members.Within size) (scanMembers fuel first c)
  | 0, _, c, within => .none (Members.within_unfinished within)
  | fuel + 1, first, c, within => by
      have skipped := skipSpace_within within
      rw [scanMembers]
      simp only
      split
      · exact .none (.cut (Cut.within_both skipped.offset_le))
      · next rest opens => exact .some (.closed (skipped.lt opens)) (skipped.next opens)
      · next d rest _ opens =>
          split
          · split
            · exact scanMember_within fuel skipped opens
            · exact .none (.cut (Cut.within_both (skipped.lt opens)))
          · split
            · have behind := skipSpace_within (skipped.next opens)
              split
              · exact .none (.cut ⟨Fault.placedWithin_at behind.offset_le,
                  Fault.placedWithin_at behind.offset_le⟩)
              · next rest opens =>
                  exact .none (.cut ⟨Fault.placedWithin_at (behind.lt opens),
                    Fault.placedWithin_at (behind.lt opens)⟩)
              · next rest opens => exact scanMember_within fuel behind opens
              · next more _ _ =>
                  obtain ⟨e, rest, opens⟩ := List.exists_cons_of_ne_nil more
                  exact .none (.cut (Cut.within_both (behind.lt opens)))
            · exact .none (.cut (Cut.within_both (skipped.lt opens)))

theorem scanMember_within : ∀ (fuel : Nat) {c : Cursor} {d : Char} {rest : List Char},
    c.Within size → c.rest = d :: rest → Leaves size (Members.Within size) (scanMember fuel c)
  | 0, c, _, _, within, _ => .none (Members.within_unfinished within)
  | fuel + 1, c, d, rest, within, opens => by
      have quoted := scanText_within Spelling.Within.empty (within.next opens)
      rw [scanMember, opens, List.drop_succ_cons, List.drop_zero]
      generalize scanText .empty (c.offset + 1) rest = result at quoted ⊢
      cases quoted with
      | cut inside => exact .none (.cut inside)
      | @done found text =>
          obtain ⟨name, after⟩ := found
          have colon := skipSpace_within text.left
          have unnamed {cause : Cause} :
              (Cut.both cause (skipSpace after).peekOffset).Within size :=
            Cut.within_both colon.peekOffset_le
          have key {member : Outline} {resume : Nat} {rest : Members} :=
            @Members.Within.more size ⟨name, after.offset, leaveObject after⟩ resume member rest
              text.flaw text.left.offset_le (leaveObject_le text.left)
          simp only
          split
          · exact .none (key (.broken nofun unnamed) colon.offset_le
              (Members.within_unfinished colon))
          · next rest first =>
              have value := scanValue_within fuel (colon.next first)
              split
              · next member found =>
                  rw [found] at value
                  exact .none (key value.tree colon.offset_le (Members.within_unfinished colon))
              · next member after found =>
                  rw [found] at value
                  have left := value.left after rfl
                  obtain ⟨each, behind⟩ := scanMembers_within fuel false left
                  exact ⟨key value.tree (leaveObject_le left) each, behind⟩
          · exact .none (key (.broken nofun unnamed) colon.offset_le
              (Members.within_unfinished colon))

end

/-- The tree of a document, and what follows it, lie within its text. -/
theorem scanDocument_within (text : List Char) :
    (scanDocument text).1.Within (byteLength text) ∧
      ∀ fault ∈ (scanDocument text).2, fault.PlacedWithin (byteLength text) := by
  have start : (Cursor.start text).Within (byteLength text) := (Nat.zero_add _).le
  have value := scanValue_within (scanFuel text) start
  unfold scanDocument
  split
  · next outline found =>
      rw [found] at value
      exact ⟨value.tree, nofun⟩
  · next outline after found =>
      rw [found] at value
      have behind := skipSpace_within (value.left after rfl)
      refine ⟨value.tree, ?_⟩
      simp only
      split
      · exact nofun
      · next more =>
          rintro _ ⟨⟩
          exact Fault.placedWithin_at (behind.lt_of_more more)

end Json

end SchemaBindings
