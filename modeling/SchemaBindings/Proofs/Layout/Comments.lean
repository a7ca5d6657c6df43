import SchemaBindings.Proofs.Layout.Sections

/-!
Comments on lines of their own. The text of one is closed by the terminator that is written after
it, unless it holds a terminator itself, and is one line unless it holds the end of one.
-/

namespace SchemaBindings

def EndsLine (c : Char) : Prop :=
  c = '\n' ∨ c = '\r' ∨ c = '\u2028' ∨ c = '\u2029'

instance (c : Char) : Decidable (EndsLine c) :=
  inferInstanceAs (Decidable (c = '\n' ∨ c = '\r' ∨ c = '\u2028' ∨ c = '\u2029'))

def KeepsLine (cs : List Char) : Prop :=
  ∀ c ∈ cs, ¬ EndsLine c

instance (cs : List Char) : Decidable (KeepsLine cs) :=
  List.decidableBAll (¬ EndsLine ·) cs

/-- A comment and nothing else, on one line: what ends a comment stands at the end alone. -/
structure IsSingleComment (text : String) : Prop where
  opens : "/**".toList <+: text.toList
  closes : "*/".toList <:+ text.toList
  nowhereElse : ∀ before after, text.toList = before ++ "*/".toList ++ after → after = []
  oneLine : KeepsLine text.toList

def commentText (doc : String) : String :=
  "/** " ++ doc ++ " */"

/-- A pattern that occurs in a text occurs on one side of a character it does not have. -/
theorem occurs_beside {α : Type} {p before after front back : List α} {sep : α} (absent : sep ∉ p)
    (same : front ++ sep :: back = before ++ p ++ after) :
    p <:+: front ∨ ∃ later, back = later ++ p ++ after := by
  rcases List.append_eq_append_iff.mp same with ⟨rest, early, late⟩ | ⟨rest, early, _⟩
  · match rest, late with
    | [], _ => exact .inl ⟨before, [], by rw [early, List.append_nil, List.append_nil]⟩
    | _ :: rest, late =>
        obtain ⟨rfl, rfl⟩ := List.cons.inj late
        rcases List.append_eq_append_iff.mp early with ⟨part, rfl, split⟩ | ⟨part, rfl, split⟩
        · exact absurd (split ▸ List.mem_append_right part List.mem_cons_self) absent
        · match part, split with
          | [], split =>
              have member : sep ∈ [] ++ p := split ▸ List.mem_cons_self
              exact absurd member absent
          | _ :: part, split =>
              obtain ⟨rfl, rfl⟩ := List.cons.inj split
              exact .inr ⟨part, rfl⟩
  · exact .inl ⟨before, rest, early.symm⟩

theorem mem_commentText {doc : String} {c : Char} :
    c ∈ (commentText doc).toList ↔ c ∈ "/** ".toList ++ " */".toList ∨ c ∈ doc.toList := by
  rw [commentText, String.toList_append, String.toList_append, List.mem_append, List.mem_append,
    or_right_comm, ← List.mem_append]

/-- The text must hold no terminator and no end of a line, and nothing else is asked of it. -/
theorem isSingleComment_iff (doc : String) :
    IsSingleComment (commentText doc) ↔
      ¬ "*/".toList <:+: doc.toList ∧ KeepsLine doc.toList := by
  have text : (commentText doc).toList =
      "/**".toList ++ ' ' :: (doc.toList ++ ' ' :: "*/".toList) := by
    simp [commentText]
  constructor
  · intro single
    refine ⟨?_, fun c member => single.oneLine c (mem_commentText.mpr (.inr member))⟩
    rintro ⟨before, after, split⟩
    have ends := single.nowhereElse ("/** ".toList ++ before) (after ++ " */".toList)
      (by rw [text, ← split]; simp)
    simp at ends
  · rintro ⟨absent, oneLine⟩
    refine ⟨?_, ?_, ?_, ?_⟩
    · exact ⟨' ' :: (doc.toList ++ ' ' :: "*/".toList), text.symm⟩
    · exact ⟨"/** ".toList ++ doc.toList ++ [' '], by simp [commentText]⟩
    · intro before after split
      -- No terminator reaches over a blank, so it stands in one of the three parts.
      rw [text] at split
      rcases occurs_beside (by decide) split with opening | ⟨later, split⟩
      · exact absurd opening (by decide)
      · rcases occurs_beside (by decide) split with inside | ⟨last, split⟩
        · exact absurd inside absent
        · have lengths := congrArg List.length split
          simp only [List.length_append] at lengths
          exact List.length_eq_zero_iff.mp (by omega)
    · intro c member
      rcases mem_commentText.mp member with mark | inside
      · have fixed : KeepsLine ("/** ".toList ++ " */".toList) := by decide
        exact fixed c mark
      · exact oneLine c inside

/-! ### Comments among lines -/

namespace Line

def isComment : Line → Bool
  | .nested _ text => "/**".toList.isPrefixOf text.toList
  | .blank => false

def IsSingle : Line → Prop
  | .nested _ text => IsSingleComment text
  | .blank => False

end Line

def commentLine (depth : Nat) (doc : String) : Line :=
  .nested depth (commentText doc)

theorem isComment_commentLine (depth : Nat) (doc : String) :
    (commentLine depth doc).isComment = true := by
  have opens : "/**".toList <+: (commentText doc).toList :=
    ⟨' ' :: (doc.toList ++ " */".toList), by simp [commentText]⟩
  exact List.isPrefixOf_iff_prefix.mpr opens

theorem filter_comment (depth : Nat) (doc : Option String) :
    (doc.map (commentLine depth)).toList.filter Line.isComment =
      (doc.map (commentLine depth)).toList := by
  cases doc with
  | none => rfl
  | some text => exact List.filter_cons_of_pos (isComment_commentLine depth text)

def Fragment.comments (fragments : List Fragment) : List Line :=
  (allLines fragments).filter Line.isComment

end SchemaBindings
