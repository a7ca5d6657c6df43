import Mathlib.Data.List.Basic

/-!
Angle brackets with commas between them. A text whose brackets pair up and whose commas all stand
inside has an end that can be told in any list of such texts, so the list is read off the text that
joins it.
-/

namespace SchemaBindings.Text

theorem append_cons_inj {mark : Char} {before other after rest : List Char}
    (absent : mark ∉ before) (otherAbsent : mark ∉ other)
    (same : before ++ mark :: after = other ++ mark :: rest) : before = other ∧ after = rest := by
  induction before generalizing other with
  | nil =>
      cases other with
      | nil => simpa using same
      | cons c other =>
          simp only [List.nil_append, List.cons_append, List.cons.injEq] at same
          exact absurd (List.mem_cons.mpr (.inl same.1)) otherAbsent
  | cons c before ih =>
      cases other with
      | nil =>
          simp only [List.nil_append, List.cons_append, List.cons.injEq] at same
          exact absurd (List.mem_cons.mpr (.inl same.1.symm)) absent
      | cons d other =>
          simp only [List.cons_append, List.cons.injEq] at same
          simp only [List.mem_cons, not_or] at absent otherAbsent
          have ⟨equal, further⟩ := ih absent.2 otherAbsent.2 same.2
          exact ⟨by rw [same.1, equal], further⟩

/-- The brackets that are open after a character. None is closed that was not opened, and a comma
stands inside one. -/
def depthAfter (depth : Nat) (c : Char) : Option Nat :=
  if c = '<' then some (depth + 1)
  else if c = '>' then if depth = 0 then none else some (depth - 1)
  else if c = ',' then if depth = 0 then none else some depth
  else some depth

def Plain (cs : List Char) : Prop :=
  ∀ c ∈ cs, c ≠ '<' ∧ c ≠ '>' ∧ c ≠ ','

instance (cs : List Char) : Decidable (Plain cs) :=
  List.decidableBAll (fun c => c ≠ '<' ∧ c ≠ '>' ∧ c ≠ ',') cs

theorem Plain.not_mem {cs : List Char} (plain : Plain cs) : '<' ∉ cs :=
  fun member => (plain '<' member).1 rfl

def Closed (least : Nat) (cs : List Char) : Prop :=
  ∀ depth, least ≤ depth → cs.foldlM depthAfter depth = some depth

inductive Separated : List Char → Prop where
  | ends : Separated []
  | comma (later : List Char) : Separated (',' :: later)

namespace Closed

variable {least : Nat} {cs ds rest later : List Char}

theorem nil : Closed least [] :=
  fun _ _ => rfl

theorem append (first : Closed least cs) (second : Closed least ds) : Closed least (cs ++ ds) := by
  intro depth deep
  rw [List.foldlM_append, first depth deep]
  exact second depth deep

theorem inside (closed : Closed 0 cs) : Closed least cs :=
  fun depth _ => closed depth (Nat.zero_le depth)

theorem of_plain (plain : Plain cs) : Closed 0 cs := by
  induction cs with
  | nil => exact .nil
  | cons c rest ih =>
      intro depth deep
      have ⟨here, later⟩ := List.forall_mem_cons.mp plain
      have kept : depthAfter depth c = some depth := by simp [depthAfter, here]
      rw [List.foldlM_cons, kept]
      exact ih later depth deep

theorem comma : Closed 1 [',', ' '] := by
  intro depth deep
  have opened : depth ≠ 0 := Nat.ne_of_gt deep
  simp [depthAfter, opened]

theorem angled (inner : Closed 1 cs) : Closed 0 ('<' :: (cs ++ ['>'])) := by
  intro depth _
  have opening : depthAfter depth '<' = some (depth + 1) := by simp [depthAfter]
  have closing : depthAfter (depth + 1) '>' = some depth := by simp [depthAfter]
  rw [List.foldlM_cons, opening]
  calc
    (cs ++ ['>']).foldlM depthAfter (depth + 1) = ['>'].foldlM depthAfter (depth + 1) := by
      rw [List.foldlM_append, inner (depth + 1) (Nat.le_add_left 1 depth)]
      rfl
    _ = some depth := by rw [List.foldlM_cons, closing]; rfl

/-- Outside of brackets a closed text does not go on with a comma. -/
theorem eq_nil_of_separated (closed : Closed 0 cs) (longer : Closed 0 (cs ++ ds))
    (separated : Separated (ds ++ rest)) : ds = [] := by
  cases ds with
  | nil => rfl
  | cons c ds =>
      cases separated with
      | comma later =>
          have read := longer 0 (Nat.le_refl 0)
          rw [List.foldlM_append, closed 0 (Nat.le_refl 0)] at read
          cases read

theorem append_inj (first : Closed 0 cs) (second : Closed 0 ds) (separated : Separated rest)
    (otherwise : Separated later) (same : cs ++ rest = ds ++ later) : cs = ds ∧ rest = later := by
  rcases List.append_eq_append_iff.mp same with ⟨between, rfl, rfl⟩ | ⟨between, rfl, rfl⟩
  · have empty := first.eq_nil_of_separated second separated
    simp [empty]
  · have empty := second.eq_nil_of_separated first otherwise
    simp [empty]

end Closed

def joinedAfter : List String → List Char
  | [] => []
  | text :: rest => ',' :: ' ' :: (", ".intercalate (text :: rest)).toList

theorem joined_cons (text : String) (rest : List String) :
    (", ".intercalate (text :: rest)).toList = text.toList ++ joinedAfter rest := by
  cases rest with
  | nil => simp [joinedAfter]
  | cons next rest => simp [joinedAfter, String.intercalate_cons_cons]

theorem separated_joinedAfter (rest : List String) : Separated (joinedAfter rest) := by
  cases rest with
  | nil => exact .ends
  | cons text rest => exact .comma _

theorem closed_joined {texts : List String} (closed : ∀ text ∈ texts, Closed 0 text.toList) :
    Closed 1 (", ".intercalate texts).toList := by
  induction texts with
  | nil => exact .nil
  | cons text rest ih =>
      have ⟨first, others⟩ := List.forall_mem_cons.mp closed
      rw [joined_cons]
      apply Closed.append first.inside
      cases rest with
      | nil => exact .nil
      | cons next rest => exact Closed.comma.append (ih others)

section Lists

variable {text other : String} {texts others : List String}

theorem joined_first (closed : ∀ t ∈ text :: texts, Closed 0 t.toList)
    (otherClosed : ∀ t ∈ other :: others, Closed 0 t.toList)
    (same : ", ".intercalate (text :: texts) = ", ".intercalate (other :: others)) :
    text = other ∧ joinedAfter texts = joinedAfter others := by
  have whole := congrArg String.toList same
  rw [joined_cons, joined_cons] at whole
  have first := closed text List.mem_cons_self
  have otherFirst := otherClosed other List.mem_cons_self
  have ⟨head, tail⟩ := first.append_inj otherFirst (separated_joinedAfter texts)
    (separated_joinedAfter others) whole
  exact ⟨String.toList_inj.mp head, tail⟩

theorem joined_inj (closed : ∀ t ∈ text :: texts, Closed 0 t.toList)
    (otherClosed : ∀ t ∈ other :: others, Closed 0 t.toList)
    (same : ", ".intercalate (text :: texts) = ", ".intercalate (other :: others)) :
    text :: texts = other :: others := by
  induction texts generalizing text other others with
  | nil =>
      have ⟨head, tail⟩ := joined_first closed otherClosed same
      cases others with
      | nil => rw [head]
      | cons next others => cases tail
  | cons next texts ih =>
      have ⟨head, tail⟩ := joined_first closed otherClosed same
      cases others with
      | nil => cases tail
      | cons otherNext others =>
          simp only [joinedAfter, List.cons.injEq, true_and, String.toList_inj] at tail
          have later := ih (List.forall_mem_cons.mp closed).2
            (List.forall_mem_cons.mp otherClosed).2 tail
          rw [head, later]

end Lists

end SchemaBindings.Text
