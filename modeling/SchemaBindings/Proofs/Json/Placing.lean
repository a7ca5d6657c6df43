import Mathlib.Data.List.Basic
import SchemaBindings.Proofs.Json.Extent

/-!
Where the faults of readings lie. What a reading of a tree fails with is placed within the text, or
has no place yet and gets one where the list or object around it is left.
-/

namespace SchemaBindings.Json

open Text (byteLength)

/-- Each fault of the reading satisfies `p` of the number of bytes that the tree is within. -/
def Faults {α : Type} (read : Reading α) (p : Nat → Fault → Prop) : Prop :=
  ∀ size depth outline, outline.Within size → FailsOnly (p size) (read depth outline)

variable {α β : Type} {read : Reading α} {p : Nat → Fault → Prop} {size depth : Nat}

theorem Faults.within (placed : Faults read Fault.PlacedWithin) : Faults read Fault.Within :=
  fun size depth outline inside =>
    (placed size depth outline inside).imp fun _ placed => placed.within

theorem Faults.map (faults : Faults read p) (f : α → β) :
    Faults (fun depth outline => (read depth outline).map f) p :=
  fun size depth outline inside => (faults size depth outline inside).map f

theorem Faults.settled (faults : Faults read Fault.Within) {outline : Outline} {resume : Nat}
    (within : outline.Within size) (inside : resume ≤ size) :
    FailsOnly (Fault.PlacedWithin size) ((read depth outline).mapError (Fault.settle resume)) :=
  (faults size depth outline within).mapError fun _ within => within.settle inside

theorem refuse_placed (expected : String) {outline : Outline} (within : outline.Within size) :
    (refuse expected outline).PlacedWithin size := by
  cases within with
  | scalar _ ends => exact Fault.placedWithin_shapeAt ends
  | flawed _ placed => exact placed
  | broken _ within => exact within.reading
  | array opens _ => exact Fault.placedWithin_shapeAt opens.le
  | object opens _ => exact Fault.placedWithin_shapeAt opens.le

theorem faults_text : Faults text Fault.PlacedWithin := by
  intro size depth outline within
  unfold text readText
  split
  · exact FailsOnly.ok _
  · exact FailsOnly.error (refuse_placed _ within)

theorem Faults.optional (faults : Faults read p) : Faults (optional read) p := by
  intro size depth outline within
  unfold Json.optional
  split
  · exact FailsOnly.ok _
  · exact (faults size depth outline within).map some

theorem entering_fails {start : Nat} {inner : Nat → Except Fault α} {q : Fault → Prop}
    (limit : q (.at .recursionLimit (start + 1))) (each : ∀ depth, FailsOnly q (inner depth)) :
    FailsOnly q (entering start inner depth) := by
  cases depth with
  | zero => exact FailsOnly.error limit
  | succ depth => exact each depth

/-! ### Lists and maps -/

theorem Faults.readAll (faults : Faults read Fault.Within) : ∀ {items : Items},
    items.Within size → FailsOnly (Fault.PlacedWithin size) (items.readAll (read depth))
  | .done (.closed _), _ => FailsOnly.ok _
  | .done (.cut _ _), .cut within _ => FailsOnly.error within.reading
  | .more _ _ _ _, .more _ first inside later =>
      (faults.settled first inside).bind fun _ _ =>
        (faults.readAll later).bind fun _ _ => FailsOnly.ok _

theorem Faults.list (faults : Faults read Fault.Within) :
    Faults (list read) Fault.PlacedWithin := by
  intro size depth outline within
  unfold Json.list
  split
  · cases within with
    | array opens each =>
        exact entering_fails (Fault.placedWithin_at opens) fun _ => faults.readAll each
  · exact FailsOnly.error (refuse_placed _ within)

theorem Faults.readMembers (faults : Faults read Fault.Within) :
    ∀ {members : Members} {entries : List (String × α)}, members.Within size →
      FailsOnly (Fault.PlacedWithin size) (members.readAll (read depth) entries)
  | .done (.closed _), _, _ => FailsOnly.ok _
  | .done (.cut _ _), _, .cut within => FailsOnly.error within.reading
  | .more _ _ _ _, _, .more name _ _ first inside later =>
      name.bind fun _ _ => (faults.settled first inside).bind fun _ _ => faults.readMembers later

theorem Faults.keyed (faults : Faults read Fault.Within) :
    Faults (keyed read) Fault.PlacedWithin := by
  intro size depth outline within
  unfold Json.keyed
  split
  · cases within with
    | object opens each =>
        exact entering_fails (Fault.placedWithin_at opens) fun _ => faults.readMembers each
  · exact FailsOnly.error (refuse_placed _ within)

/-! ### Skipped values -/

mutual

theorem Outline.skip?_placed : ∀ {outline : Outline}, outline.Within size →
    ∀ fault ∈ outline.skip?, fault.PlacedWithin size
  | .scalar .., _ => nofun
  | .flawed .., _ => nofun
  | .broken _ _ stop, .broken _ within => by
      rintro _ ⟨⟩
      exact within.skipping
  | .array _ items, .array _ each => items.skip?_placed each
  | .object _ members, .object _ each => members.skip?_placed each

theorem Items.skip?_placed : ∀ {items : Items}, items.Within size →
    ∀ fault ∈ items.skip?, fault.PlacedWithin size
  | .done (.closed _), _ => nofun
  | .done (.cut stop _), .cut within _ => by
      rintro _ ⟨⟩
      exact within.skipping
  | .more _ value _ rest, .more _ first _ later => by
      intro fault met
      rcases Option.or_eq_some_iff.mp met with here | ⟨_, there⟩
      · exact value.skip?_placed first fault here
      · exact rest.skip?_placed later fault there

theorem Members.skip?_placed : ∀ {members : Members}, members.Within size →
    ∀ fault ∈ members.skip?, fault.PlacedWithin size
  | .done (.closed _), _ => nofun
  | .done (.cut stop _), .cut within => by
      rintro _ ⟨⟩
      exact within.skipping
  | .more _ value _ rest, .more _ _ _ first _ later => by
      intro fault met
      rcases Option.or_eq_some_iff.mp met with here | ⟨_, there⟩
      · exact value.skip?_placed first fault here
      · exact rest.skip?_placed later fault there

end

/-! ### Records -/

variable {slots : List (Slot α)}

theorem fill_placed (each : ∀ slot ∈ slots, Faults slot.read Fault.Within) :
    ∀ {members : Members} {seen : List String} {x : α}, members.Within size →
      FailsOnly (Fault.PlacedWithin size) (members.fill slots depth seen x)
  | .done (.closed _), _, _, _ => FailsOnly.ok _
  | .done (.cut _ _), _, _, .cut within => FailsOnly.error within.reading
  | .more key value resume rest, seen, x, .more name after leave first inside later => by
      refine name.bind fun tag _ => ?_
      split
      · split
        · next fault met => exact FailsOnly.error (value.skip?_placed first fault met)
        · exact fill_placed each later
      · next slot found =>
          have faults := each slot (List.mem_of_find?_eq_some found)
          split
          · exact FailsOnly.error (Fault.placedWithin_shapeAt leave)
          · exact (faults.settled first inside).bind fun _ _ => fill_placed each later

theorem after_le_of_fill : ∀ {members : Members} {seen met : List String} {x y : α} {after : Nat},
    members.Within size → members.fill slots depth seen x = .ok (met, y, after) → after ≤ size
  | .done (.closed _), _, _, _, _, _, .closed ends, done => by
      cases done
      exact ends
  | .done (.cut _ _), _, _, _, _, _, _, done => by cases done
  | .more key value resume rest, seen, _, x, _, _, .more _ _ _ _ _ later, done => by
      obtain ⟨name, _, done⟩ := bind_eq_ok_iff.mp done
      split at done
      · split at done
        · cases done
        · exact after_le_of_fill later done
      · split at done
        · cases done
        · obtain ⟨update, _, done⟩ := bind_eq_ok_iff.mp done
          exact after_le_of_fill later done

theorem fillItems_placed {expected : String} : ∀ {items : Items} {slots : List (Slot α)}
    {index : Nat} {x : α}, (∀ slot ∈ slots, Faults slot.read Fault.Within) → items.Within size →
      FailsOnly (Fault.PlacedWithin size) (items.fill expected depth slots index x)
  | .done (.closed _), slots, _, _, _, .closed ends => by
      unfold Items.fill
      split
      · exact FailsOnly.error (Fault.placedWithin_shapeAt ends)
      · exact FailsOnly.ok _
  | .done (.cut _ _), [], _, _, _, .cut _ placed => FailsOnly.error placed
  | .done (.cut _ _), _ :: _, _, _, _, .cut within _ => FailsOnly.error within.reading
  | .more _ _ _ _, [], _, _, _, .more opens _ _ _ =>
      FailsOnly.error (Fault.placedWithin_at opens)
  | .more _ _ _ _, slot :: _, _, _, each, .more _ first inside later => by
      obtain ⟨here, there⟩ := List.forall_mem_cons.mp each
      exact (here.settled first inside).bind fun _ _ => fillItems_placed there later

theorem faults_record {title : String} {blank : α}
    (each : slots.Forall fun slot => Faults slot.read Fault.Within) :
    Faults (record title blank slots) Fault.PlacedWithin := by
  rw [List.forall_iff_forall_mem] at each
  intro size depth outline within
  unfold record
  split
  · cases within with
    | object opens members =>
        refine entering_fails (Fault.placedWithin_at opens) fun depth => ?_
        refine (fill_placed each members).bind fun (met, filled, after) done => ?_
        have ends := after_le_of_fill members done
        simp only
        split
        · exact FailsOnly.error (Fault.placedWithin_shapeAt ends)
        · exact FailsOnly.ok _
  · cases within with
    | array opens items =>
        exact entering_fails (Fault.placedWithin_at opens) fun _ => fillItems_placed each items
  · exact FailsOnly.error (refuse_placed _ within)

/-! ### Tagged values -/

theorem close_placed {members : Members} {resume : Nat} (within : members.Within size)
    (inside : resume ≤ size) : FailsOnly (Fault.PlacedWithin size) (members.close resume) := by
  unfold Members.close
  split
  · exact FailsOnly.ok _
  · cases within with
    | cut within =>
        split
        · exact FailsOnly.error within.reading
        · exact FailsOnly.error (Fault.placedWithin_at inside)
  · exact FailsOnly.error (Fault.placedWithin_at inside)

theorem faults_tagged {variants : List (Variant α)}
    (each : variants.Forall fun variant => Faults variant.read Fault.Within) :
    Faults (tagged variants) Fault.Within := by
  rw [List.forall_iff_forall_mem] at each
  intro size depth outline within
  have placed {cause : Cause} {place : Nat} (inside : place ≤ size) :
      (Fault.at cause place).Within size :=
    (Fault.placedWithin_at inside).within
  unfold tagged
  split
  · cases within with
    | object opens members =>
        refine entering_fails (placed opens) fun depth => ?_
        split
        · cases members with
          | closed ends => exact FailsOnly.error (placed ends)
        · cases members with
          | cut within => exact FailsOnly.error within.reading.within
        · next key value resume rest =>
            cases members with
            | more name after _ first inside later =>
                refine (name.imp fun _ placed => placed.within).bind fun tag _ => ?_
                split
                · exact FailsOnly.error (Fault.placedWithin_shapeAt after).within
                · next variant found =>
                    have faults := each variant (List.mem_of_find?_eq_some found)
                    have closes := (close_placed later inside).imp fun _ placed => placed.within
                    exact (faults size depth value first).bind fun _ _ =>
                      closes.bind fun _ _ => FailsOnly.ok _
  · cases within with
    | scalar opens ends =>
        split
        · split
          · exact FailsOnly.error (Fault.within_of_unplaced rfl)
          · exact FailsOnly.error (Fault.placedWithin_shapeAt ends).within
        · exact FailsOnly.error (placed opens)
  · next start early fault =>
      cases within with
      | flawed opens inside =>
          cases early with
          | true => exact FailsOnly.error inside.within
          | false => exact FailsOnly.error (placed opens)
  · next start early stop =>
      cases within with
      | broken opens inside =>
          cases early with
          | true => exact FailsOnly.error inside.reading.within
          | false => exact FailsOnly.error (placed (opens rfl))
  · cases within with
    | array opens _ => exact FailsOnly.error (placed opens)

/-! ### Any value -/

mutual

theorem Outline.value_placed : ∀ {outline : Outline} {depth : Nat}, outline.Within size →
    FailsOnly (Fault.PlacedWithin size) (outline.value depth)
  | .scalar .., _, _ => FailsOnly.ok _
  | .flawed .., _, .flawed _ placed => FailsOnly.error placed
  | .broken .., _, .broken _ within => FailsOnly.error within.reading
  | .array .., 0, .array opens _ => FailsOnly.error (Fault.placedWithin_at opens)
  | .array .., _ + 1, .array _ each => (Items.values_placed each).map _
  | .object .., 0, .object opens _ => FailsOnly.error (Fault.placedWithin_at opens)
  | .object .., _ + 1, .object _ each => (Members.values_placed each).map _

theorem Items.values_placed : ∀ {items : Items} {depth : Nat}, items.Within size →
    FailsOnly (Fault.PlacedWithin size) (items.values depth)
  | .done (.closed _), _, _ => FailsOnly.ok _
  | .done (.cut _ _), _, .cut within _ => FailsOnly.error within.reading
  | .more .., _, .more _ first _ later =>
      (Outline.value_placed first).bind fun _ _ =>
        (Items.values_placed later).bind fun _ _ => FailsOnly.ok _

theorem Members.values_placed : ∀ {members : Members} {depth : Nat}, members.Within size →
    FailsOnly (Fault.PlacedWithin size) (members.values depth)
  | .done (.closed _), _, _ => FailsOnly.ok _
  | .done (.cut _ _), _, .cut within => FailsOnly.error within.reading
  | .more .., _, .more name _ _ first _ later =>
      name.bind fun _ _ => (Outline.value_placed first).bind fun _ _ =>
        (Members.values_placed later).bind fun _ _ => FailsOnly.ok _

end

theorem faults_any : Faults any Fault.PlacedWithin :=
  fun _ _ _ within => Outline.value_placed within

/-! ### Documents -/

theorem Faults.document (faults : Faults read Fault.PlacedWithin) (text : List Char) :
    FailsOnly (Fault.PlacedWithin (byteLength text)) (readDocument read text) := by
  obtain ⟨tree, behind⟩ := scanDocument_within text
  have failed := faults (byteLength text) nestingLimit (scanDocument text).1 tree
  unfold readDocument
  simp only
  split
  · next fault found => exact FailsOnly.error (failed fault found)
  · split
    · next fault met => exact FailsOnly.error (behind fault met)
    · exact FailsOnly.ok _

end SchemaBindings.Json
