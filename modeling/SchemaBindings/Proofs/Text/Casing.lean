import SchemaBindings.Proofs.Text.Words

/-!
Casings of casings. Words are lower case, and snake case only puts marks between them, so the words
of an identifier are read off its snake case again and every casing of the one is that of the other.
-/

namespace SchemaBindings.Text

def Uncapitalized (text : List Char) : Prop :=
  ∀ c ∈ text, isAlphanumeric c = true ∧ isUppercase c = false

instance (text : List Char) : Decidable (Uncapitalized text) :=
  List.decidableBAll (fun c => isAlphanumeric c = true ∧ isUppercase c = false) text

/-- Each letter and number is put into lower case by letters and numbers, none of them a capital. -/
def LowersPlainly (s : String) : Prop :=
  ∀ c ∈ s.toList, isAlphanumeric c = true → Uncapitalized (lowerOf c)

instance (s : String) : Decidable (LowersPlainly s) :=
  List.decidableBAll (fun c => isAlphanumeric c = true → Uncapitalized (lowerOf c)) s.toList

theorem lowersPlainly_of_ascii {s : String} (ascii : ∀ c ∈ s.toList, c.toNat < 128) :
    LowersPlainly s := by
  intro c member
  exact holds_of_ascii (p := fun c => isAlphanumeric c = true → Uncapitalized (lowerOf c))
    (by decide +kernel) (ascii c member)

/-- What the splitter neither parts nor changes. -/
def Lowered (text : List Char) : Prop :=
  ∀ c ∈ text, isAlphanumeric c = true ∧ isUppercase c = false ∧ lowerOf c = [c]

theorem lowered_of_mem_words {s : String} (plain : LowersPlainly s) {w : List Char}
    (member : w ∈ words s) : Lowered w := by
  intro c inside
  obtain ⟨b, there, spells, lower⟩ := mem_words member inside
  obtain ⟨alphanumeric, small⟩ := plain b there spells c lower
  exact ⟨alphanumeric, small, lowerOf_of_mem lower⟩

theorem wordsFrom_of_lowered {text : List Char} (lowered : Lowered text) (word : List Char)
    (small : Bool) : wordsFrom word small text = closed (word ++ text) := by
  induction text generalizing word small with
  | nil => rw [wordsFrom, List.append_nil]
  | cons c rest ih =>
      obtain ⟨⟨alphanumeric, notUpper, same⟩, lowered⟩ := List.forall_mem_cons.mp lowered
      rw [wordsFrom, alphanumeric, notUpper, same, Bool.not_true, if_neg Bool.false_ne_true,
        Bool.false_and, Bool.false_and, if_neg Bool.false_ne_true, ih lowered, List.append_assoc,
        List.singleton_append]

theorem closed_of_ne_nil {word : List Char} (nonempty : word ≠ []) : closed word = [word] := by
  rw [closed, if_neg (by rwa [List.isEmpty_iff])]

theorem wordsFrom_intercalate {mark : Char} (parts : isAlphanumeric mark = false)
    {ws : List (List Char)} (nonempty : ∀ w ∈ ws, w ≠ []) (lowered : ∀ w ∈ ws, Lowered w)
    (small : Bool) : wordsFrom [] small ([mark].intercalate ws) = ws := by
  induction ws generalizing small with
  | nil => rfl
  | cons w rest ih =>
      obtain ⟨full, nonempty⟩ := List.forall_mem_cons.mp nonempty
      obtain ⟨low, lowered⟩ := List.forall_mem_cons.mp lowered
      have first : wordsFrom [] small w = [w] := by
        rw [wordsFrom_of_lowered low, List.nil_append, closed_of_ne_nil full]
      cases rest with
      | nil => rw [List.intercalate_singleton, first]
      | cons next later =>
          rw [List.intercalate_cons_cons, List.append_assoc, List.singleton_append,
            wordsFrom_append_break parts, first, ih nonempty lowered, List.singleton_append]

theorem words_snakeCase {s : String} (plain : LowersPlainly s) : words (snakeCase s) = words s := by
  rw [words, snakeCase, String.toList_ofList]
  exact wordsFrom_intercalate (by decide) (fun w => ne_nil_of_mem_words)
    (fun w => lowered_of_mem_words plain) false

/--
The words of a text are not empty, and in a row they are the lower case of its letters and numbers.
Where that lower case holds letters and numbers only and no capital, as it does for ASCII text,
snake case has the same words again, so it is its own snake case and has the Pascal case and the
camel case of the text it was made from.
-/
theorem words_kept_in_snakeCase :
    (∀ s : String, (∀ w ∈ words s, w ≠ []) ∧
      (words s).flatten = (s.toList.filter isAlphanumeric).flatMap lowerOf) ∧
    (∀ s : String, LowersPlainly s →
      words (snakeCase s) = words s ∧ snakeCase (snakeCase s) = snakeCase s ∧
      pascalCase (snakeCase s) = pascalCase s ∧ camelCase (snakeCase s) = camelCase s) ∧
    ∀ s : String, (∀ c ∈ s.toList, c.toNat < 128) → LowersPlainly s := by
  refine ⟨?_, ?_, fun s => lowersPlainly_of_ascii⟩
  · intro s
    refine ⟨fun w => ne_nil_of_mem_words, ?_⟩
    rw [words, flatten_wordsFrom, List.nil_append]
  · intro s plain
    have same := words_snakeCase plain
    refine ⟨same, ?_, ?_, ?_⟩
    · rw [snakeCase, same, ← snakeCase]
    · rw [pascalCase, same, ← pascalCase]
    · rw [camelCase, same, ← camelCase]

def oddName : String :=
  "XMLÉcole-2GoÀ\u212b"

theorem oddName_kept :
    LowersPlainly oddName ∧
      words oddName = ["xmlécole".toList, "2".toList, "go".toList, "àå".toList] ∧
      words (snakeCase oddName) = words oddName ∧
      snakeCase (snakeCase oddName) = snakeCase oddName ∧
      pascalCase (snakeCase oddName) = pascalCase oddName ∧
      camelCase (snakeCase oddName) = camelCase oddName := by
  have plain : LowersPlainly oddName := by decide +kernel
  have spelled : words oddName =
      ["xmlécole".toList, "2".toList, "go".toList, "àå".toList] := by decide +kernel
  exact ⟨plain, spelled, words_kept_in_snakeCase.2.1 oddName plain⟩

/-- A dot over a letter is no letter, so the lower case of this one is parted from what follows. -/
example : ¬ LowersPlainly "İl" ∧ words "İl" = ["i\u0307l".toList] ∧
    words (snakeCase "İl") = [['i'], ['l']] := by
  decide +kernel

end SchemaBindings.Text
