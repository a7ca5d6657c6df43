import SchemaBindings.Config.Error
import SchemaBindings.Proofs.Json.Placing
import SchemaBindings.Proofs.Source.Positions

/-!
Faults of schema documents. Whatever is wrong with a document, the reading of its modules stops
within the text, and the line and column that are told lead back to the byte it stopped on.
-/

namespace SchemaBindings

open Json

/-! ### The parts of modules -/

theorem ScopedName.faults : Faults ScopedName.read Fault.PlacedWithin :=
  faults_record ⟨faults_text.within.map _, faults_text.within.map _⟩

theorem TypeHead.faults : Faults TypeHead.read Fault.Within :=
  faults_tagged ⟨faults_text.within.map _, faults_text.within.map _,
    ScopedName.faults.within.map _⟩

namespace TypeExpr

theorem faults_readWithin (levels : Nat) : Faults (readWithin levels) Fault.PlacedWithin := by
  induction levels with
  | zero => exact fun _ _ _ within => FailsOnly.error (refuse_placed _ within)
  | succ levels ih => exact faults_record ⟨TypeHead.faults.map _, ih.within.list.within.map _⟩

theorem faults : Faults TypeExpr.read Fault.PlacedWithin :=
  fun size depth => faults_readWithin (depth + 1) size depth

end TypeExpr

theorem Annotation.faults : Faults Annotation.read Fault.PlacedWithin :=
  faults_record ⟨ScopedName.faults.within.map _, faults_any.within.map _⟩

theorem faults_annotations : Faults (list Annotation.read) Fault.Within :=
  Annotation.faults.within.list.within

theorem Field.faults : Faults Field.read Fault.PlacedWithin :=
  faults_record ⟨faults_text.within.map _, faults_text.optional.within.map _,
    TypeExpr.faults.within.map _, faults_any.optional.within.map _, faults_annotations.map _⟩

theorem DeclBody.faults : Faults DeclBody.read Fault.Within := by
  have params : Faults typeParamsSlot.read Fault.Within := faults_text.within.list.within.map _
  have fields : Faults fieldsSlot.read Fault.Within := Field.faults.within.list.within.map _
  have typeExpr : Faults typeExprSlot.read Fault.Within := TypeExpr.faults.within.map _
  have default : Faults defaultSlot.read Fault.Within := faults_any.optional.within.map _
  exact faults_tagged ⟨.within (faults_record ⟨params, fields⟩),
    .within (faults_record ⟨params, fields⟩), .within (faults_record ⟨params, typeExpr⟩),
    .within (faults_record ⟨params, typeExpr, default⟩)⟩

theorem Decl.faults : Faults Decl.read Fault.PlacedWithin :=
  faults_record ⟨faults_text.within.map _, DeclBody.faults.map _, faults_annotations.map _⟩

theorem Module.faults : Faults Module.read Fault.PlacedWithin :=
  faults_record ⟨faults_text.within.map _, faults_text.within.list.within.map _,
    Decl.faults.within.keyed.within.map _, faults_annotations.map _⟩

/-! ### Documents -/

theorem readModules_placed (text : List Char) :
    FailsOnly (Fault.PlacedWithin (Text.byteLength text)) (readModules text) := by
  unfold readModules
  split
  · exact Module.faults.within.list.document text
  · exact (Module.faults.document text).map _

/--
After any number of bytes of a source, the line that is reached begins as many bytes before as the
column tells, and the two lead back to the last byte, or to the byte to come when a line has just
begun. All lines but line zero have an offset in every column, and none is past the end, also where
the sum of the two wraps around. A schema document that fails has been taken in up to a byte within
it, where its fault is told to stand, and its span is set on that byte. No text in memory is larger
than is asked of the source.
-/
theorem position_leads_back (source : String) (sized : source.utf8ByteSize < 2 ^ 63) :
    (∀ count ≤ source.utf8ByteSize,
      lineStart source.toList (positionAfter source count).line +
        (positionAfter source count).column = count ∧
      offsetOf? source.toList (.ofNat (positionAfter source count).line)
        (.ofNat (positionAfter source count).column) = some (.ofNat (stopAfter source count))) ∧
    (∀ line column, (offsetOf? source.toList line column = none ↔ line = 0) ∧
      ∀ offset ∈ offsetOf? source.toList line column, offset.toNat ≤ source.utf8ByteSize ∧
        (lineStart source.toList line.toNat + (column.toNat - 1) < 2 ^ 64 →
          offset.toNat = min (lineStart source.toList line.toNat + (column.toNat - 1))
            source.utf8ByteSize)) ∧
    ∀ name fault, readModules source.toList = .error fault →
      ∃ count ≤ source.utf8ByteSize, fault.offset = some count ∧
        fault.position? source.toList = some (positionAfter source count) ∧
        (LoadError.badSchema ⟨name, source.toList⟩ fault).span? =
          some ⟨stopAfter source count, 0⟩ := by
  refine ⟨?_, ?_, ?_⟩
  · intro count within
    exact ⟨lineStart_positionAfter within, offsetOf?_positionAfter sized within⟩
  · intro line column
    refine ⟨offsetOf?_eq_none_iff, ?_⟩
    intro offset found
    rw [← byteLength_toList] at sized ⊢
    exact ⟨offsetOf?_le found, toNat_of_offsetOf? found (by omega)⟩
  · intro name fault failed
    obtain ⟨count, within, placed⟩ := readModules_placed source.toList fault failed
    rw [byteLength_toList] at within
    have position : fault.position? source.toList = some (positionAfter source count) := by
      rw [Fault.position?, placed, Option.map_some, ofOffset_toList]
    refine ⟨count, within, placed, position, ?_⟩
    change fault.span? source.toList source.toList = _
    have stopped : stopAfter source count < 2 ^ 64 := (stopAfter_le _ _).trans_lt (by omega)
    rw [Fault.span?, position, Option.bind_some, offsetOf?_positionAfter sized within,
      Option.map_some, UInt64.toNat_ofNat_of_lt' stopped]

namespace Sample

def accentedModule : String :=
  "\x7b\"name\": \"é\",\r\n  \"imports\": 7\x7d"

theorem accentedModule_leads_back :
    accentedModule.utf8ByteSize < 2 ^ 63 ∧
    offsetOf? accentedModule.toList 1 11 = some 10 ∧
    offsetOf? accentedModule.toList 2 0 = some 16 ∧
    (∃ offset ∈ offsetOf? accentedModule.toList 2 (.ofNat (2 ^ 64 - 1)),
      offset.toNat ≤ accentedModule.utf8ByteSize) ∧
    ∃ fault, readModules accentedModule.toList = .error fault ∧
      fault.position? accentedModule.toList = some ⟨2, 14⟩ ∧
      (LoadError.badSchema ⟨"a.json", accentedModule.toList⟩ fault).span? = some ⟨29, 0⟩ := by
  have sized : accentedModule.utf8ByteSize < 2 ^ 63 := by
    decide +kernel
  have inLetter : positionAfter accentedModule 11 = ⟨1, 11⟩ ∧ stopAfter accentedModule 11 = 10 := by
    decide +kernel
  have afterFeed : positionAfter accentedModule 16 = ⟨2, 0⟩ ∧ stopAfter accentedModule 16 = 16 := by
    decide +kernel
  have afterNumber :
      positionAfter accentedModule 30 = ⟨2, 14⟩ ∧ stopAfter accentedModule 30 = 29 := by
    decide +kernel
  have refused : error? (readModules accentedModule.toList) =
      some (.shapeAt (.invalidType (.integer 7) "a sequence") 30) := by
    decide +kernel
  have failed := error?_eq_some_iff.mp refused
  obtain ⟨back, any, told⟩ := position_leads_back accentedModule sized
  obtain ⟨_, letter⟩ := back 11 (by decide +kernel)
  obtain ⟨_, feed⟩ := back 16 (by decide +kernel)
  obtain ⟨none, far⟩ := any 2 (.ofNat (2 ^ 64 - 1))
  obtain ⟨offset, wrapped⟩ := Option.ne_none_iff_exists'.mp (mt none.mp (by decide))
  obtain ⟨count, _, placed, position, span⟩ := told "a.json" _ failed
  obtain rfl : 30 = count := Option.some.inj placed
  rw [inLetter.1, inLetter.2] at letter
  rw [afterFeed.1, afterFeed.2] at feed
  rw [afterNumber.1] at position
  rw [afterNumber.2] at span
  exact ⟨sized, letter, feed, ⟨offset, wrapped, (far offset wrapped).1⟩, _, failed, position, span⟩

end Sample

end SchemaBindings
