import Mathlib.Data.List.Nodup
import Mathlib.Data.List.TakeWhile
import SchemaBindings.Proofs.Target.Legible

/-!
Both target languages are legible. In TypeScript the form of a type shows at the end of its text, or
else in a space or a dot of it; in Rust it shows in the path before the first bracket.
-/

namespace SchemaBindings

open Text (Closed Plain)

section Qualified

variable {moduleAlias other name otherName : String} (separator : String)

theorem forall_mem_qualified {P : Char → Prop} (unlisted : ∀ c, c ∉ marks → P c)
    (separates : ∀ c ∈ separator.toList, P c) (fit : Unmarked moduleAlias)
    (unmarked : Unmarked name) : ∀ c ∈ (moduleAlias ++ separator ++ name).toList, P c := by
  intro c member
  simp only [String.toList_append, List.mem_append] at member
  rcases member with (inAlias | between) | inName
  · exact unlisted c (fit c inAlias)
  · exact separates c between
  · exact unlisted c (unmarked c inName)

theorem plain_qualified (separates : Plain separator.toList) (fit : Unmarked moduleAlias)
    (unmarked : Unmarked name) : Plain (moduleAlias ++ separator ++ name).toList := by
  refine forall_mem_qualified separator ?_ separates fit unmarked
  intro c unlisted
  simp only [marks, List.mem_cons, not_or] at unlisted
  simp [unlisted]

theorem qualified_inj {mark : Char} {later : List Char} (starts : separator.toList = mark :: later)
    (absent : mark ∉ moduleAlias.toList) (otherAbsent : mark ∉ other.toList)
    (same : moduleAlias ++ separator ++ name = other ++ separator ++ otherName) :
    moduleAlias = other ∧ name = otherName := by
  have whole := congrArg String.toList same
  simp only [String.toList_append, starts, List.append_assoc, List.cons_append] at whole
  have ⟨before, after⟩ := Text.append_cons_inj absent otherAbsent whole
  exact ⟨String.toList_inj.mp before, String.toList_inj.mp (List.append_cancel_left after)⟩

end Qualified

theorem closed_around (before after : String) {inner : List Char}
    (plain : Plain before.toList) (closed : Closed 0 inner) (plainAfter : Plain after.toList) :
    Closed 0 (before.toList ++ inner ++ after.toList) :=
  ((Closed.of_plain plain).append closed).append (.of_plain plainAfter)

theorem getLast?_append_text (text : String) {after : String} {c : Char}
    (last : after.toList.getLast? = some c) : (text ++ after).toList.getLast? = some c := by
  rw [String.toList_append, List.getLast?_append, last]
  rfl

section TypeScript

/-- An end in a bracket tells lists and applied names; then a space tells the other containers and a
dot the bare names. -/
def typescriptForm (text : String) : Form :=
  let cs := text.toList
  if cs.getLast? = some ']' then .vector
  else if cs.getLast? = some '>' then .reference
  else if ' ' ∈ cs then
    if cs.getLast? = some '\x7d' then .stringMap else .nullable
  else if '.' ∈ cs then .reference
  else .scalar

theorem typescriptForm_primitive (p : Primitive) :
    typescriptForm (typescriptPrimitive p) = .scalar := by
  cases p <;> decide +kernel

/-- Parentheses stand where a space does, and put no space beside it. -/
theorem space_typescriptVector (elem : String) :
    ' ' ∈ (typescriptVector elem).toList ↔ ' ' ∈ elem.toList := by
  unfold typescriptVector
  split
  · simp
  · simp

theorem typescriptVector_inj {elem other : String}
    (same : typescriptVector elem = typescriptVector other) : elem = other := by
  have spaces : ' ' ∈ elem.toList ↔ ' ' ∈ other.toList := by
    rw [← space_typescriptVector, same, space_typescriptVector]
  unfold typescriptVector at same
  by_cases spaced : ' ' ∈ elem.toList
  · have alsoSpaced := spaces.mp spaced
    simpa [spaced, alsoSpaced, String.append_left_inj, String.append_right_inj] using same
  · have unspaced := mt spaces.mpr spaced
    simpa [spaced, unspaced, String.append_left_inj] using same

theorem typescriptForm_vector (elem : String) :
    typescriptForm (typescriptVector elem) = .vector := by
  have ends : (typescriptVector elem).toList.getLast? = some ']' := by
    unfold typescriptVector
    split
    · exact getLast?_append_text _ rfl
    · exact getLast?_append_text _ rfl
  exact if_pos ends

theorem closed_typescriptVector {elem : String} (closed : Closed 0 elem.toList) :
    Closed 0 (typescriptVector elem).toList := by
  unfold typescriptVector
  split
  · simpa using closed_around "(" ")[]" (by decide) closed (by decide)
  · simpa using closed_around "" "[]" (by decide) closed (by decide)

theorem typescriptForm_angled {base : String}
    (plain : ∀ c ∈ base.toList, c ≠ ']' ∧ c ≠ '>' ∧ c ≠ ' ') (dotted : '.' ∈ base.toList)
    (texts : List String) : typescriptForm (angled base texts) = .reference := by
  cases texts with
  | nil =>
      have ends : ∀ c, c = ']' ∨ c = '>' → base.toList.getLast? ≠ some c := by
        intro c mark last
        have here := plain c (List.mem_of_getLast? last)
        rcases mark with same | same
        · exact here.1 same
        · exact here.2.1 same
      have unspaced : ' ' ∉ base.toList := fun member => (plain ' ' member).2.2 rfl
      simp [typescriptForm, angled, ends, unspaced, dotted]
  | cons text rest =>
      have ends : (angled base (text :: rest)).toList.getLast? = some '>' :=
        getLast?_append_text _ rfl
      simp [typescriptForm, ends]

theorem typescript_legible : (typescriptMapper []).Legible Unmarked typescriptForm where
  scalar := typescriptForm_primitive
  brackets := rfl
  vector := typescriptForm_vector
  stringMap elem := by
    have ends : ((typescriptMapper []).stringMap elem).toList.getLast? = some '\x7d' :=
      getLast?_append_text _ rfl
    have spaced : ' ' ∈ ((typescriptMapper []).stringMap elem).toList := by simp [typescriptMapper]
    simp [typescriptForm, ends, spaced]
  nullable elem := by
    have ends : ((typescriptMapper []).nullable elem).toList.getLast? = some 'l' :=
      getLast?_append_text _ rfl
    have spaced : ' ' ∈ ((typescriptMapper []).nullable elem).toList := by simp [typescriptMapper]
    simp [typescriptForm, ends, spaced]
  reference {moduleAlias name} fit unmarked texts := by
    refine typescriptForm_angled ?_ (by simp [typescriptMapper]) texts
    refine forall_mem_qualified "." ?_ (by simp) fit unmarked
    intro c unlisted
    simp only [marks, List.mem_cons, not_or] at unlisted
    simp [unlisted]
  vector_inj := typescriptVector_inj
  stringMap_inj same := by
    simpa [typescriptMapper, String.append_left_inj, String.append_right_inj] using same
  nullable_inj same := by simpa [typescriptMapper, String.append_left_inj] using same
  qualify_inj fit otherFit same :=
    qualified_inj "." rfl (fit.not_mem (by decide)) (otherFit.not_mem (by decide)) same
  qualify_plain fit unmarked := plain_qualified "." (by decide) fit unmarked
  closed_primitive p := .of_plain (by cases p <;> decide)
  closed_vector := closed_typescriptVector
  closed_stringMap closed := by
    simpa [typescriptMapper] using
      closed_around "\x7b[key: string]: " "\x7d" (by decide) closed (by decide)
  closed_nullable closed := by
    simpa [typescriptMapper] using
      closed_around "" " | null" (by decide) closed (by decide)

end TypeScript

section Rust

def rustPath (text : String) : String :=
  String.ofList (text.toList.takeWhile (· != '<'))

/-- The containers and one scalar have a path of their own; any other path of more than one segment
is that of a declaration. -/
def rustForm (text : String) : Form :=
  let path := rustPath text
  if path = "std::vec::Vec" then .vector
  else if path = "std::collections::HashMap" then .stringMap
  else if path = "std::option::Option" then .nullable
  else if ':' ∈ path.toList ∧ path ≠ "serde_json::Value" then .reference
  else .scalar

theorem rustPath_angled {base : String} (plain : Plain base.toList) (texts : List String) :
    rustPath (angled base texts) = base := by
  have kept : ∀ c ∈ base.toList, (c != '<') = true := by
    intro c member
    simpa using (plain c member).1
  have before : (angled base texts).toList.takeWhile (· != '<') = base.toList := by
    cases texts with
    | nil => exact List.takeWhile_eq_self_iff.mpr kept
    | cons text rest =>
        rw [angled_cons, List.takeWhile_append_of_pos kept]
        simp
  rw [rustPath, before, String.ofList_toList]

theorem rustForm_angled {base : String} (plain : Plain base.toList) (texts : List String) :
    rustForm (angled base texts) = rustForm base := by
  have bare : rustPath base = base := rustPath_angled plain []
  rw [rustForm, rustForm, rustPath_angled plain, bare]

theorem rustForm_primitive (p : Primitive) : rustForm (rustPrimitive p) = .scalar := by
  cases p <;> decide +kernel

theorem rustPrimitive_injective {p q : Primitive} (same : rustPrimitive p = rustPrimitive q) :
    p = q := by
  have listed : ∀ p, p ∈ Primitive.all := by
    intro p
    cases p <;> decide
  have distinct : (Primitive.all.map rustPrimitive).Nodup := by decide
  exact List.inj_on_of_nodup_map distinct (listed p) (listed q) same

def FreePath (moduleAlias : String) : Prop :=
  Unmarked moduleAlias ∧ moduleAlias ≠ "serde_json"

theorem rustForm_qualified {moduleAlias name : String} (fit : FreePath moduleAlias)
    (unmarked : Unmarked name) : rustForm (moduleAlias ++ "::" ++ name) = .reference := by
  have colon : ':' ∉ moduleAlias.toList := fit.1.not_mem (by decide)
  have longer : ∀ rest : String, ':' ∈ rest.toList →
      moduleAlias ++ "::" ++ name ≠ "std" ++ "::" ++ rest := by
    intro rest further same
    have ⟨_, names⟩ := qualified_inj "::" rfl colon (by decide) same
    exact unmarked.not_mem (by decide) (names ▸ further)
  have foreign : moduleAlias ++ "::" ++ name ≠ "serde_json" ++ "::" ++ "Value" := by
    intro same
    exact fit.2 (qualified_inj "::" rfl colon (by decide) same).1
  have whole : rustPath (moduleAlias ++ "::" ++ name) = moduleAlias ++ "::" ++ name :=
    rustPath_angled (plain_qualified "::" (by decide) fit.1 unmarked) []
  have vector : moduleAlias ++ "::" ++ name ≠ "std::vec::Vec" := longer "vec::Vec" (by decide)
  have stringMap : moduleAlias ++ "::" ++ name ≠ "std::collections::HashMap" :=
    longer "collections::HashMap" (by decide)
  have nullable : moduleAlias ++ "::" ++ name ≠ "std::option::Option" :=
    longer "option::Option" (by decide)
  have json : moduleAlias ++ "::" ++ name ≠ "serde_json::Value" := foreign
  rw [rustForm, whole]
  simp [vector, stringMap, nullable, json]

section Containers

variable (natives : Natives) (elem : String)

theorem rustMapper_vector :
    (rustMapper natives).vector elem = angled "std::vec::Vec" [elem] := by
  simp [rustMapper, angled]

theorem rustMapper_stringMap :
    (rustMapper natives).stringMap elem =
      angled "std::collections::HashMap" ["String", elem] := by
  simp [rustMapper, angled, String.intercalate_cons_cons, ← String.append_assoc]

theorem rustMapper_nullable :
    (rustMapper natives).nullable elem = angled "std::option::Option" [elem] := by
  simp [rustMapper, angled]

end Containers

theorem rust_legible : (rustMapper []).Legible FreePath rustForm where
  scalar := rustForm_primitive
  brackets := rfl
  vector elem := by
    rw [rustMapper_vector, rustForm_angled (by decide)]
    decide +kernel
  stringMap elem := by
    rw [rustMapper_stringMap, rustForm_angled (by decide)]
    decide +kernel
  nullable elem := by
    rw [rustMapper_nullable, rustForm_angled (by decide)]
    decide +kernel
  reference {moduleAlias name} fit unmarked texts := by
    have plain := plain_qualified "::" (by decide) fit.1 unmarked
    calc
      rustForm (angled (moduleAlias ++ "::" ++ name) texts) =
          rustForm (moduleAlias ++ "::" ++ name) :=
        rustForm_angled plain texts
      _ = .reference := rustForm_qualified fit unmarked
  vector_inj same := by
    simpa [rustMapper, String.append_left_inj, String.append_right_inj] using same
  stringMap_inj same := by
    simpa [rustMapper, String.append_left_inj, String.append_right_inj] using same
  nullable_inj same := by
    simpa [rustMapper, String.append_left_inj, String.append_right_inj] using same
  qualify_inj fit otherFit same :=
    qualified_inj "::" rfl (fit.1.not_mem (by decide)) (otherFit.1.not_mem (by decide)) same
  qualify_plain fit unmarked :=
    plain_qualified "::" (by decide) fit.1 unmarked
  closed_primitive p := .of_plain (by cases p <;> decide)
  closed_vector closed := by
    rw [rustMapper_vector]
    exact closed_angled (by decide) (by simpa using closed)
  closed_stringMap closed := by
    have key : Closed 0 "String".toList := .of_plain (by decide)
    rw [rustMapper_stringMap]
    exact closed_angled (by decide)
      (List.forall_mem_cons.mpr ⟨key, by simpa using closed⟩)
  closed_nullable closed := by
    rw [rustMapper_nullable]
    exact closed_angled (by decide) (by simpa using closed)

end Rust

end SchemaBindings
