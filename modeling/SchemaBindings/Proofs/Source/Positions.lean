import Mathlib.Algebra.Ring.Nat
import Mathlib.Data.List.DropRight
import SchemaBindings.Proofs.Text.Searching
import SchemaBindings.Source.Position

/-!
Lines and columns against bytes. Moving over a text moves over its bytes, one after the other, and
where a line begins and the column there add up to the bytes moved over. So a position stands for
the last of them, or for the byte to come where a line has just begun.
-/

namespace SchemaBindings

open Text (byteLength byteLength_append linePieces flatten_linePieces)

def lineFeed : UInt8 := 10

def lineAfter (bytes : List UInt8) : Nat :=
  1 + bytes.count lineFeed

def columnAfter (bytes : List UInt8) : Nat :=
  (bytes.rtakeWhile (· ≠ lineFeed)).length

namespace Text

def bytes (text : List Char) : List UInt8 :=
  text.flatMap String.utf8EncodeChar

theorem bytes_cons (c : Char) (rest : List Char) :
    bytes (c :: rest) = String.utf8EncodeChar c ++ bytes rest :=
  List.flatMap_cons

theorem bytes_lineFeed (rest : List Char) : bytes ('\n' :: rest) = lineFeed :: bytes rest :=
  rfl

theorem length_bytes (text : List Char) : (bytes text).length = byteLength text := by
  induction text with
  | nil => rfl
  | cons c rest ih =>
      rw [bytes_cons, List.length_append, String.length_utf8EncodeChar, ih, byteLength]

theorem bytes_toList (source : String) : bytes source.toList = source.toUTF8.data.toList := by
  have written : source.toUTF8 = (bytes source.toList).toByteArray := by
    conv_lhs => rw [← String.ofList_toList (s := source), String.toUTF8_eq_toByteArray,
      String.toByteArray_ofList]
    rfl
  rw [written, List.toList_data_toByteArray]

theorem lineFeed_not_mem_encoded {c : Char} (other : c ≠ '\n') :
    lineFeed ∉ String.utf8EncodeChar c := by
  have apart : c.val.toNat ≠ 10 := by
    intro same
    exact other (Char.ext (UInt32.toNat_inj.mp same))
  have byte (n : Nat) : lineFeed = UInt8.ofNat n ↔ n % 256 = 10 := by
    rw [← UInt8.toNat_inj, UInt8.toNat_ofNat']
    exact eq_comm
  unfold String.utf8EncodeChar
  simp only
  split_ifs <;> simp only [List.mem_cons, List.not_mem_nil, or_false, byte] <;> omega

end Text

/-! ### Counting by bytes -/

section Counting

variable {front bytes : List UInt8}

theorem columnAfter_concat (bytes : List UInt8) (b : UInt8) :
    columnAfter (bytes ++ [b]) = if b = lineFeed then 0 else columnAfter bytes + 1 := by
  rw [columnAfter, List.rtakeWhile_concat]
  by_cases ends : b = lineFeed <;> simp [ends, columnAfter]

theorem lineAfter_concat (bytes : List UInt8) (b : UInt8) :
    lineAfter (bytes ++ [b]) = if b = lineFeed then lineAfter bytes + 1 else lineAfter bytes := by
  by_cases ends : b = lineFeed <;> simp [ends, lineAfter, Nat.add_assoc]

theorem columnAfter_append (front bytes : List UInt8) :
    columnAfter (front ++ bytes) =
      if lineFeed ∈ bytes then columnAfter bytes else columnAfter front + bytes.length := by
  induction bytes using List.reverseRecOn with
  | nil => simp
  | append_singleton bytes b ih =>
      rw [← List.append_assoc, columnAfter_concat, columnAfter_concat, ih]
      by_cases ends : b = lineFeed
      · simp [ends]
      · have same : lineFeed ∈ bytes ++ [b] ↔ lineFeed ∈ bytes := by simp [Ne.symm ends]
        rw [if_neg ends, if_neg ends, List.length_append]
        simp only [same]
        split <;> rfl

theorem columnAfter_of_not_mem (within : lineFeed ∉ bytes) : columnAfter bytes = bytes.length := by
  have appended := columnAfter_append [] bytes
  rw [if_neg within] at appended
  simpa [columnAfter] using appended

theorem lineAfter_of_not_mem (within : lineFeed ∉ bytes) : lineAfter bytes = 1 := by
  rw [lineAfter, List.count_eq_zero.mpr within]

theorem lineAfter_cons_lineFeed (bytes : List UInt8) :
    lineAfter (lineFeed :: bytes) = lineAfter bytes + 1 := by
  rw [lineAfter, List.count_cons_self, lineAfter, Nat.add_assoc]

theorem columnAfter_cons_lineFeed (bytes : List UInt8) :
    columnAfter (lineFeed :: bytes) = columnAfter bytes := by
  rw [← List.singleton_append, columnAfter_append]
  split
  · rfl
  · next within =>
      rw [columnAfter_of_not_mem within]
      exact Nat.zero_add _

theorem lineAfter_append_of_not_mem (within : lineFeed ∉ front) (bytes : List UInt8) :
    lineAfter (front ++ bytes) = lineAfter bytes := by
  rw [lineAfter, List.count_append, List.count_eq_zero.mpr within, Nat.zero_add, lineAfter]

namespace Position

/-- A line feed ends the line; any other byte is one column. -/
def past (p : Position) (b : UInt8) : Position :=
  if b = lineFeed then ⟨p.line + 1, 0⟩ else ⟨p.line, p.column + 1⟩

theorem foldl_past_of_not_mem (p : Position) (within : lineFeed ∉ bytes) :
    bytes.foldl past p = ⟨p.line, p.column + bytes.length⟩ := by
  induction bytes generalizing p with
  | nil => rfl
  | cons b rest ih =>
      rw [List.mem_cons, not_or] at within
      rw [List.foldl_cons, past, if_neg (Ne.symm within.1), ih _ within.2, List.length_cons]
      simp only [Nat.add_assoc, Nat.add_comm 1]

theorem foldl_past (bytes : List UInt8) :
    bytes.foldl past ⟨1, 0⟩ = ⟨lineAfter bytes, columnAfter bytes⟩ := by
  induction bytes using List.reverseRecOn with
  | nil => rfl
  | append_singleton bytes b ih =>
      rw [List.foldl_concat, ih, past, lineAfter_concat, columnAfter_concat]
      split <;> rfl

theorem after_eq_foldl (p : Position) (text : List Char) (count : Nat) :
    p.after text count = ((Text.bytes text).take count).foldl past p := by
  induction text generalizing p count with
  | nil => simp [after, Text.bytes]
  | cons c rest ih =>
      rw [after]
      split
      · next none => rw [none, List.take_zero, List.foldl_nil]
      · next some =>
          split
          · next feed =>
              obtain ⟨more, rfl⟩ := Nat.exists_eq_succ_of_ne_zero some
              rw [feed, Text.bytes_lineFeed, List.take_succ_cons, List.foldl_cons, ih]
              rfl
          · next other =>
              have within : lineFeed ∉ (String.utf8EncodeChar c).take count :=
                fun member => Text.lineFeed_not_mem_encoded other (List.mem_of_mem_take member)
              rw [Text.bytes_cons, List.take_append, List.foldl_append,
                foldl_past_of_not_mem p within, ih, List.length_take, String.length_utf8EncodeChar]

theorem ofOffset_eq (text : List Char) (count : Nat) :
    ofOffset text count = ⟨lineAfter ((Text.bytes text).take count),
      columnAfter ((Text.bytes text).take count)⟩ := by
  rw [ofOffset, after_eq_foldl, foldl_past]

end Position

end Counting

/-! ### Back to the byte -/

/-- The offset at which a line begins, or the end of the text where there is no such line. -/
def lineStart (text : List Char) (line : Nat) : Nat :=
  byteLength ((linePieces text).take (line - 1)).flatten

theorem toNat_min (a b : UInt64) : (min a b).toNat = min a.toNat b.toNat := by
  rw [UInt64.min_def]
  split
  · next least => exact (Nat.min_eq_left (UInt64.le_iff_toNat_le.mp least)).symm
  · next above =>
      rw [UInt64.le_iff_toNat_le] at above
      omega

section Words

variable {text : List Char} {line column offset : UInt64}

theorem offsetOf?_eq_none_iff : offsetOf? text line column = none ↔ line = 0 := by
  unfold offsetOf?
  split <;> simp [*]

theorem offsetOf?_le (found : offset ∈ offsetOf? text line column) :
    offset.toNat ≤ byteLength text := by
  unfold offsetOf? at found
  split at found
  · cases found
  · cases found
    rw [toNat_min, UInt64.toNat_ofNat']
    exact (Nat.min_le_right _ _).trans (Nat.mod_le _ _)

theorem toNat_of_offsetOf? (found : offset ∈ offsetOf? text line column)
    (sized : byteLength text < 2 ^ 64)
    (fits : lineStart text line.toNat + (column.toNat - 1) < 2 ^ 64) :
    offset.toNat = min (lineStart text line.toNat + (column.toNat - 1)) (byteLength text) := by
  unfold offsetOf? at found
  split at found
  · cases found
  · cases found
    rw [lineStart] at fits ⊢
    simp only [toNat_min, UInt64.toNat_add, UInt64.toNat_ofNat', Nat.add_mod_mod, Nat.mod_add_mod]
    rw [Nat.mod_eq_of_lt fits, Nat.mod_eq_of_lt sized]

end Words

theorem lineStart_first (text : List Char) : lineStart text 1 = 0 := by
  simp [lineStart, byteLength]

theorem lineStart_cons_lineFeed (rest : List Char) (lines : Nat) :
    lineStart ('\n' :: rest) (lines + 1 + 1) = 1 + lineStart rest (lines + 1) :=
  rfl

theorem lineStart_cons_other {c : Char} {rest : List Char} (other : c ≠ '\n') (more : rest ≠ [])
    (lines : Nat) :
    lineStart (c :: rest) (lines + 1 + 1) = c.utf8Size + lineStart rest (lines + 1 + 1) := by
  simp only [lineStart, Nat.add_sub_cancel]
  rw [linePieces, if_neg other]
  cases pieces : linePieces rest with
  | nil =>
      have whole := flatten_linePieces rest
      rw [pieces] at whole
      exact absurd whole.symm more
  | cons piece pieces =>
      simp only [List.take_succ_cons, List.flatten_cons, List.cons_append, byteLength]

def placeAfter (text : List Char) (bytes : List UInt8) : Nat :=
  lineStart text (lineAfter bytes) + columnAfter bytes

section Places

variable {c : Char} {rest : List Char} {front bytes : List UInt8}

theorem placeAfter_of_not_mem (text : List Char) (within : lineFeed ∉ bytes) :
    placeAfter text bytes = bytes.length := by
  rw [placeAfter, lineAfter_of_not_mem within, lineStart_first, columnAfter_of_not_mem within,
    Nat.zero_add]

theorem placeAfter_cons_lineFeed (rest : List Char) (bytes : List UInt8) :
    placeAfter ('\n' :: rest) (lineFeed :: bytes) = placeAfter rest bytes + 1 := by
  rw [placeAfter, lineAfter_cons_lineFeed, columnAfter_cons_lineFeed, lineAfter, Nat.add_comm 1,
    lineStart_cons_lineFeed, placeAfter, lineAfter, Nat.add_comm 1 (bytes.count lineFeed)]
  omega

theorem placeAfter_append_of_not_mem (other : c ≠ '\n') (more : rest ≠ [])
    (plain : lineFeed ∉ front) (size : front.length = c.utf8Size) (bytes : List UInt8) :
    placeAfter (c :: rest) (front ++ bytes) = placeAfter rest bytes + front.length := by
  by_cases feeds : lineFeed ∈ bytes
  · obtain ⟨lines, counted⟩ := Nat.exists_eq_succ_of_ne_zero (List.count_pos_iff.mpr feeds).ne'
    have reached : lineAfter bytes = lines + 1 + 1 := by
      rw [lineAfter, counted, Nat.add_comm]
    rw [placeAfter, lineAfter_append_of_not_mem plain, columnAfter_append, if_pos feeds, reached,
      lineStart_cons_other other more, placeAfter, reached, size]
    omega
  · have both : lineFeed ∉ front ++ bytes := by
      rw [List.mem_append, not_or]
      exact ⟨plain, feeds⟩
    rw [placeAfter_of_not_mem _ both, placeAfter_of_not_mem _ feeds, List.length_append,
      Nat.add_comm]

end Places

/-- The position after so many bytes of the text stands for just as many. -/
theorem placeAfter_take {text : List Char} {count : Nat} (within : count ≤ byteLength text) :
    placeAfter text ((Text.bytes text).take count) = count := by
  induction text generalizing count with
  | nil =>
      obtain rfl : count = 0 := Nat.eq_zero_of_le_zero within
      rfl
  | cons c rest ih =>
      rw [byteLength] at within
      by_cases feed : c = '\n'
      · subst feed
        cases count with
        | zero => exact placeAfter_of_not_mem _ List.not_mem_nil
        | succ count =>
            have inner : count ≤ byteLength rest := by
              have size : '\n'.utf8Size = 1 := rfl
              omega
            rw [Text.bytes_lineFeed, List.take_succ_cons, placeAfter_cons_lineFeed, ih inner]
      · have plain := Text.lineFeed_not_mem_encoded feed
        have size := String.length_utf8EncodeChar c
        rw [Text.bytes_cons, List.take_append, size]
        by_cases short : count ≤ c.utf8Size
        · have within : lineFeed ∉ (String.utf8EncodeChar c).take count :=
            fun member => plain (List.mem_of_mem_take member)
          rw [Nat.sub_eq_zero_of_le short, List.take_zero, List.append_nil,
            placeAfter_of_not_mem _ within, List.length_take, size, Nat.min_eq_left short]
        · have more : rest ≠ [] := by
            rintro rfl
            exact short within
          rw [List.take_of_length_le (by omega), placeAfter_append_of_not_mem feed more plain size,
            ih (by omega), size]
          omega

def positionAfter (source : String) (count : Nat) : Position :=
  let taken := source.toUTF8.data.toList.take count
  ⟨lineAfter taken, columnAfter taken⟩

/-- Where one who took in so many bytes stopped: at the last of them, or at the byte to come when a
line has just begun. -/
def stopAfter (source : String) (count : Nat) : Nat :=
  if (positionAfter source count).column = 0 then count else count - 1

theorem stopAfter_le (source : String) (count : Nat) : stopAfter source count ≤ count := by
  rw [stopAfter]
  split <;> omega

section Sources

variable {source : String} {count : Nat}

theorem byteLength_toList (source : String) : byteLength source.toList = source.utf8ByteSize := by
  rw [← Text.length_bytes, Text.bytes_toList]
  exact String.size_toByteArray

theorem ofOffset_toList (source : String) (count : Nat) :
    Position.ofOffset source.toList count = positionAfter source count := by
  rw [Position.ofOffset_eq, Text.bytes_toList]
  rfl

theorem lineStart_positionAfter (within : count ≤ source.utf8ByteSize) :
    lineStart source.toList (positionAfter source count).line +
      (positionAfter source count).column = count := by
  rw [← byteLength_toList] at within
  have place := placeAfter_take within
  rw [Text.bytes_toList] at place
  exact place

theorem offsetOf?_positionAfter (sized : source.utf8ByteSize < 2 ^ 63)
    (within : count ≤ source.utf8ByteSize) :
    offsetOf? source.toList (.ofNat (positionAfter source count).line)
        (.ofNat (positionAfter source count).column) =
      some (.ofNat (stopAfter source count)) := by
  have place := lineStart_positionAfter within
  have lines : (positionAfter source count).line ≤ 1 + count :=
    Nat.add_le_add_left (List.count_le_length.trans (List.length_take_le _ _)) 1
  have positive : 0 < (positionAfter source count).line := Nat.lt_add_right _ Nat.one_pos
  have word {n : Nat} (small : n < 2 ^ 64) : (UInt64.ofNat n).toNat = n :=
    UInt64.toNat_ofNat_of_lt' small
  have line := word (n := (positionAfter source count).line) (by omega)
  have column := word (n := (positionAfter source count).column) (by omega)
  rw [← byteLength_toList] at within sized
  cases found : offsetOf? source.toList (.ofNat (positionAfter source count).line)
      (.ofNat (positionAfter source count).column) with
  | none =>
      have zero := congrArg UInt64.toNat (offsetOf?_eq_none_iff.mp found)
      rw [line] at zero
      exact absurd zero positive.ne'
  | some offset =>
      have reached := toNat_of_offsetOf? found (by omega) (by rw [line, column]; omega)
      have stopped : stopAfter source count < 2 ^ 64 := (stopAfter_le _ _).trans_lt (by omega)
      rw [line, column] at reached
      refine congrArg some (UInt64.toNat_inj.mp ?_)
      rw [reached, word stopped, stopAfter]
      split <;> omega

end Sources

end SchemaBindings
