import Mathlib.Data.List.Infix
import Mathlib.Order.Bounds.Basic
import SchemaBindings.Text.Blank
import SchemaBindings.Text.Search

/-!
Places in a text, counted in bytes: the first place where a pattern is read, and the lines, which
put together are the text.
-/

namespace SchemaBindings.Text

variable {text pattern before after front back : List Char} {offset : Nat}

@[simp] theorem byteLength_append (first second : List Char) :
    byteLength (first ++ second) = byteLength first + byteLength second := by
  induction first with
  | nil => simp [byteLength]
  | cons c rest ih => rw [List.cons_append, byteLength, byteLength, ih, Nat.add_assoc]

theorem byteLength_le_of_prefix (within : before <+: front) :
    byteLength before ≤ byteLength front := by
  obtain ⟨rest, rfl⟩ := within
  rw [byteLength_append]
  exact Nat.le_add_right _ _

/-- The pattern stands in the text behind so many bytes. -/
def ReadsAt (text pattern : List Char) (offset : Nat) : Prop :=
  ∃ before after, text = before ++ pattern ++ after ∧ byteLength before = offset

theorem ReadsAt.within (reads : ReadsAt text pattern offset) :
    offset + byteLength pattern ≤ byteLength text := by
  obtain ⟨before, after, rfl, rfl⟩ := reads
  simp only [byteLength_append]
  omega

/-- The pattern stands there and nowhere before. -/
def FirstAt (text pattern : List Char) (offset : Nat) : Prop :=
  IsLeast {place | ReadsAt text pattern place} offset

theorem FirstAt.isInfix (first : FirstAt text pattern offset) : pattern <:+: text := by
  obtain ⟨⟨before, after, rfl, _⟩, _⟩ := first
  exact ⟨before, after, rfl⟩

theorem around?_eq_none (absent : around? pattern text = none) : ¬ pattern <:+: text := by
  induction text with
  | nil =>
      intro inside
      rw [List.infix_nil.mp inside] at absent
      cases absent
  | cons c rest ih =>
      rw [around?] at absent
      split at absent
      · cases absent
      · next elsewhere =>
          rw [Option.map_eq_none_iff] at absent
          rw [List.infix_cons_iff, ← List.isPrefixOf_iff_prefix]
          rintro (here | later)
          · exact elsewhere here
          · exact ih absent later

/-- Where the pattern is found, the text is parted by it, and it is found no sooner. -/
theorem around?_eq_some (found : around? pattern text = some (before, after)) :
    text = before ++ pattern ++ after ∧
      ∀ front back, text = front ++ pattern ++ back → before <+: front := by
  induction text generalizing before with
  | nil =>
      rw [around?] at found
      split at found
      · next empty =>
          cases found
          exact ⟨by rw [List.isEmpty_iff.mp empty]; rfl, fun front _ _ => front.nil_prefix⟩
      · cases found
  | cons c rest ih =>
      rw [around?] at found
      split at found
      · next here =>
          cases found
          obtain ⟨back, parted⟩ := List.isPrefixOf_iff_prefix.mp here
          refine ⟨?_, fun front _ _ => front.nil_prefix⟩
          rw [← parted, List.drop_left]
          rfl
      · next elsewhere =>
          obtain ⟨⟨early, late⟩, later, same⟩ := Option.map_eq_some_iff.mp found
          cases same
          obtain ⟨rfl, first⟩ := ih later
          refine ⟨rfl, ?_⟩
          intro front back other
          cases front with
          | nil => exact absurd (List.isPrefixOf_iff_prefix.mpr ⟨back, other.symm⟩) elsewhere
          | cons d front =>
              obtain ⟨rfl, behind⟩ := List.cons.inj other
              exact List.cons_prefix_cons.mpr ⟨rfl, first front back behind⟩

theorem firstAt_of_around? (found : around? pattern text = some (before, after)) :
    FirstAt text pattern (byteLength before) := by
  obtain ⟨parted, first⟩ := around?_eq_some found
  refine ⟨⟨before, after, parted, rfl⟩, ?_⟩
  rintro _ ⟨front, back, other, rfl⟩
  exact byteLength_le_of_prefix (first front back other)

theorem flatten_linePieces (text : List Char) : (linePieces text).flatten = text := by
  induction text with
  | nil => rfl
  | cons c rest ih =>
      rw [linePieces]
      split
      · rw [List.flatten_cons, ih]
        rfl
      · split
        · next none => rw [← ih, none]; rfl
        · next piece pieces some => rw [← ih, some]; rfl

end SchemaBindings.Text
