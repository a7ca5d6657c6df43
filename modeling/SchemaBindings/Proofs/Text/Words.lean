import Mathlib.Data.List.Basic
import SchemaBindings.Proofs.Text.LowerCase
import SchemaBindings.Text.Words

/-!
Words of an identifier. None is empty, they are parted wherever a character is neither letter nor
number, and together they are the letters and numbers of the text in lower case.
-/

namespace SchemaBindings.Text

/-! ### Words -/

variable {word w : List Char} {small : Bool} {text : List Char}

theorem flatten_closed (word : List Char) : (closed word).flatten = word := by
  cases word with
  | nil => rfl
  | cons c rest => exact List.append_nil _

theorem ne_nil_of_mem_closed (member : w ∈ closed word) : w ≠ [] := by
  cases word with
  | nil => cases member
  | cons c rest =>
      obtain rfl := List.mem_singleton.mp member
      exact List.cons_ne_nil c rest

theorem ne_nil_of_mem_wordsFrom (member : w ∈ wordsFrom word small text) : w ≠ [] := by
  induction text generalizing word small with
  | nil => exact ne_nil_of_mem_closed member
  | cons c rest ih =>
      rw [wordsFrom] at member
      split at member
      · exact (List.mem_append.mp member).elim ne_nil_of_mem_closed ih
      · split at member
        · next begins =>
            rcases List.mem_cons.mp member with rfl | member
            · rintro rfl
              simp at begins
            · exact ih member
        · exact ih member

/-- No letter or number is lost, and none is moved. -/
theorem flatten_wordsFrom (word : List Char) (small : Bool) (text : List Char) :
    (wordsFrom word small text).flatten =
      word ++ (text.filter isAlphanumeric).flatMap lowerOf := by
  induction text generalizing word small with
  | nil => rw [wordsFrom, flatten_closed, List.filter_nil, List.flatMap_nil, List.append_nil]
  | cons c rest ih =>
      rw [wordsFrom]
      cases spells : isAlphanumeric c with
      | false =>
          rw [Bool.not_false, if_pos rfl, List.flatten_append, flatten_closed, ih,
            List.filter_cons_of_neg (by simp [spells]), List.nil_append]
      | true =>
          rw [Bool.not_true, if_neg Bool.false_ne_true,
            List.filter_cons_of_pos spells, List.flatMap_cons]
          split
          · rw [List.flatten_cons, ih]
          · rw [ih, List.append_assoc]

theorem wordsFrom_append_break {c : Char} (parts : isAlphanumeric c = false)
    (word : List Char) (small : Bool) (before after : List Char) :
    wordsFrom word small (before ++ c :: after) =
      wordsFrom word small before ++ wordsFrom [] false after := by
  induction before generalizing word small with
  | nil =>
      rw [List.nil_append, wordsFrom.eq_2, parts, Bool.not_false, if_pos rfl]
      rfl
  | cons b rest ih =>
      rw [List.cons_append, wordsFrom, wordsFrom, ih, ih, ih]
      split
      · rw [List.append_assoc]
      · split <;> rfl

variable {s : String} {c : Char}

theorem words_append_space (s t : String) : words (s ++ " " ++ t) = words s ++ words t := by
  have text : (s ++ " " ++ t).toList = s.toList ++ ' ' :: t.toList := by simp
  rw [words, text]
  exact wordsFrom_append_break (by decide) [] false s.toList t.toList

theorem ne_nil_of_mem_words (member : w ∈ words s) : w ≠ [] :=
  ne_nil_of_mem_wordsFrom member

theorem mem_words (member : w ∈ words s) (inside : c ∈ w) :
    ∃ b ∈ s.toList, isAlphanumeric b = true ∧ c ∈ lowerOf b := by
  have spelled : c ∈ (words s).flatten := List.mem_flatten.mpr ⟨w, member, inside⟩
  rw [words, flatten_wordsFrom, List.nil_append] at spelled
  obtain ⟨b, kept, lower⟩ := List.mem_flatMap.mp spelled
  obtain ⟨there, spells⟩ := List.mem_filter.mp kept
  exact ⟨b, there, spells, lower⟩

theorem ne_of_mem_words (member : w ∈ words s) (inside : c ∈ w) : c ≠ '_' ∧ c ≠ '#' := by
  obtain ⟨b, _, spells, lower⟩ := mem_words member inside
  exact lowerOf_ne spells lower

/-! ### Snake case -/

theorem mem_intercalate {mark : Char} {ws : List (List Char)}
    (member : c ∈ [mark].intercalate ws) : c = mark ∨ ∃ w ∈ ws, c ∈ w := by
  induction ws with
  | nil => cases member
  | cons w rest ih => cases rest with
    | nil =>
        rw [List.intercalate_singleton] at member
        exact .inr ⟨w, List.mem_cons_self, member⟩
    | cons next later =>
        rw [List.intercalate_cons_cons, List.append_assoc, List.mem_append,
          List.singleton_append, List.mem_cons] at member
        rcases member with own | rfl | other
        · exact .inr ⟨w, List.mem_cons_self, own⟩
        · exact .inl rfl
        · exact (ih other).imp_right fun ⟨v, listed, inside⟩ =>
            ⟨v, List.mem_cons_of_mem w listed, inside⟩

theorem mem_of_getLast?_intercalate {mark : Char} {ws : List (List Char)}
    (nonempty : ∀ w ∈ ws, w ≠ []) (last : ([mark].intercalate ws).getLast? = some c) :
    ∃ w ∈ ws, c ∈ w := by
  induction ws with
  | nil => cases last
  | cons w rest ih => cases rest with
    | nil =>
        rw [List.intercalate_singleton] at last
        exact ⟨w, List.mem_cons_self, List.mem_of_getLast? last⟩
    | cons next later =>
        rw [List.intercalate_cons_cons, List.getLast?_append] at last
        cases inner : ([mark].intercalate (next :: later)).getLast? with
        | none =>
            have full : next ≠ [] := nonempty next (by simp)
            have empty := List.getLast?_eq_none_iff.mp inner
            cases later with
            | nil =>
                rw [List.intercalate_singleton] at empty
                exact absurd empty full
            | cons => simp [List.intercalate_cons_cons] at empty
        | some d =>
            rw [inner, Option.some_or] at last
            obtain rfl := Option.some.inj last
            obtain ⟨v, listed, inside⟩ :=
              ih (fun v listed => nonempty v (List.mem_cons_of_mem w listed)) inner
            exact ⟨v, List.mem_cons_of_mem w listed, inside⟩

theorem hash_not_mem_snakeCase (s : String) : '#' ∉ (snakeCase s).toList := by
  rw [snakeCase, String.toList_ofList]
  intro member
  rcases mem_intercalate member with same | ⟨w, listed, inside⟩
  · exact absurd same (by decide)
  · exact (ne_of_mem_words listed inside).2 rfl

theorem getLast?_snakeCase_ne (s : String) : (snakeCase s).toList.getLast? ≠ some '_' := by
  rw [snakeCase, String.toList_ofList]
  intro last
  obtain ⟨w, listed, inside⟩ :=
    mem_of_getLast?_intercalate (fun w => ne_nil_of_mem_words) last
  exact (ne_of_mem_words listed inside).1 rfl

end SchemaBindings.Text
