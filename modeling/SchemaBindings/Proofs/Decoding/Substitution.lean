import Mathlib.Data.List.Forall2
import SchemaBindings.Proofs.Decoding.HeadStep
import SchemaBindings.Sample.Protoapp

/-!
Arguments for type parameters. Putting arguments into a type and expanding its head can be done in
either order: what a definition makes of arguments that were put in is what was put into its result.
-/

namespace SchemaBindings

mutual

def TypeExpr.mentioned : TypeExpr → List String
  | ⟨.typeParam name, parameters⟩ => name :: mentionedAll parameters
  | ⟨.primitive _, parameters⟩ => mentionedAll parameters
  | ⟨.reference _, parameters⟩ => mentionedAll parameters

def TypeExpr.mentionedAll : List TypeExpr → List String
  | [] => []
  | te :: rest => mentioned te ++ mentionedAll rest

end

mutual

/-- The body with arguments for the parameters: each stands alone, and in its place is the argument
of the same position just as it was given. Of two parameters of one name the first counts. -/
inductive Filled (params : List String) (args : List TypeExpr) :
    (body filled : TypeExpr) → Prop where
  | argument {before after : List String} {param : String} {te : TypeExpr}
      (listed : params = before ++ param :: after) (first : param ∉ before)
      (given : args[before.length]? = some te) :
      Filled params args ⟨.typeParam param, []⟩ te
  | parts {head : TypeHead} {parameters filled : List TypeExpr}
      (other : ∀ param ∈ params, head ≠ .typeParam param)
      (each : FilledAll params args parameters filled) :
      Filled params args ⟨head, parameters⟩ ⟨head, filled⟩

inductive FilledAll (params : List String) (args : List TypeExpr) :
    (bodies filled : List TypeExpr) → Prop where
  | nil : FilledAll params args [] []
  | cons {body filled : TypeExpr} {bodies rest : List TypeExpr}
      (first : Filled params args body filled) (later : FilledAll params args bodies rest) :
      FilledAll params args (body :: bodies) (filled :: rest)

end

section Filling

variable {owner : ScopedName} {params own before after : List String}
  {args inner outer : List TypeExpr} {param : String} {body filled : TypeExpr}

theorem argumentFor?_eq_none_iff : argumentFor? params args param = none ↔ param ∉ params := by
  simp only [argumentFor?, Option.map_eq_none_iff, List.findIdx?_eq_none_iff, beq_eq_false_iff_ne]
  exact ⟨fun apart member => apart param member rfl, fun absent _ member same =>
    absent (same ▸ member)⟩

theorem argumentFor?_first (first : param ∉ before) :
    argumentFor? (before ++ param :: after) args param = some args[before.length]? := by
  have none : before.findIdx? (· == param) = none := by
    rw [List.findIdx?_eq_none_iff]
    intro name member
    rw [beq_eq_false_iff_ne]
    rintro rfl
    exact first member
  simp [argumentFor?, List.findIdx?_append, none, List.findIdx?_cons]

theorem argumentFor?_eq_some_iff {argument : Option TypeExpr} :
    argumentFor? params args param = some argument ↔
      ∃ before after, params = before ++ param :: after ∧ param ∉ before ∧
        args[before.length]? = argument := by
  constructor
  · intro found
    have member : param ∈ params := by
      by_contra absent
      rw [argumentFor?_eq_none_iff.mpr absent] at found
      cases found
    obtain ⟨before, after, rfl, first⟩ := List.eq_append_cons_of_mem member
    rw [argumentFor?_first first] at found
    exact ⟨before, after, rfl, first, Option.some.inj found⟩
  · rintro ⟨before, after, rfl, first, rfl⟩
    exact argumentFor?_first first

theorem filled_typeParam_iff {parameters : List TypeExpr} (present : param ∈ params) :
    Filled params args ⟨.typeParam param, parameters⟩ filled ↔
      parameters = [] ∧ argumentFor? params args param = some (some filled) := by
  constructor
  · intro done
    cases done with
    | argument listed first given =>
        exact ⟨rfl, argumentFor?_eq_some_iff.mpr ⟨_, _, listed, first, given⟩⟩
    | parts other _ => exact absurd rfl (other param present)
  · rintro ⟨rfl, found⟩
    obtain ⟨before, after, listed, first, given⟩ := argumentFor?_eq_some_iff.mp found
    exact .argument listed first given

theorem filled_parts_iff {head : TypeHead} {parameters : List TypeExpr}
    (other : ∀ param ∈ params, head ≠ .typeParam param) :
    Filled params args ⟨head, parameters⟩ filled ↔
      ∃ made, FilledAll params args parameters made ∧ ⟨head, made⟩ = filled := by
  constructor
  · intro done
    cases done with
    | argument listed _ _ => exact absurd rfl (other _ (by simp [listed]))
    | parts _ each => exact ⟨_, each, rfl⟩
  · rintro ⟨made, each, rfl⟩
    exact .parts other each

mutual

theorem substitute_eq_ok_iff : ∀ (body : TypeExpr) {filled : TypeExpr},
    substitute owner params args body = .ok filled ↔ Filled params args body filled
  | ⟨.typeParam param, parameters⟩, filled => by
      rw [substitute]
      by_cases present : param ∈ params
      · rw [filled_typeParam_iff present]
        cases found : argumentFor? params args param with
        | none => exact absurd present (argumentFor?_eq_none_iff.mp found)
        | some argument => cases parameters <;> cases argument <;> simp
      · have other : ∀ name ∈ params, TypeHead.typeParam param ≠ .typeParam name := by
          rintro name member ⟨⟩
          exact present member
        rw [filled_parts_iff other, argumentFor?_eq_none_iff.mpr present]
        simp only [map_eq_ok_iff, substituteAll_eq_ok_iff parameters]
  | ⟨.primitive name, parameters⟩, filled => by
      rw [substitute, filled_parts_iff (by simp)]
      simp only [map_eq_ok_iff, substituteAll_eq_ok_iff parameters]
  | ⟨.reference name, parameters⟩, filled => by
      rw [substitute, filled_parts_iff (by simp)]
      simp only [map_eq_ok_iff, substituteAll_eq_ok_iff parameters]

theorem substituteAll_eq_ok_iff : ∀ (bodies : List TypeExpr) {filled : List TypeExpr},
    substituteAll owner params args bodies = .ok filled ↔ FilledAll params args bodies filled
  | [], filled => by
      rw [substituteAll]
      constructor
      · rintro ⟨⟩
        exact .nil
      · rintro ⟨⟩
        rfl
  | body :: bodies, filled => by
      simp only [substituteAll, bind_eq_ok_iff, substitute_eq_ok_iff body,
        substituteAll_eq_ok_iff bodies]
      constructor
      · rintro ⟨made, first, rest, later, done⟩
        cases done
        exact .cons first later
      · rintro ⟨⟩
        next first later => exact ⟨_, first, _, later, rfl⟩

end

theorem FilledAll.getElem? : ∀ {inner outer : List TypeExpr}, FilledAll params args inner outer →
    ∀ {index : Nat} {te : TypeExpr}, inner[index]? = some te →
      ∃ filled, outer[index]? = some filled ∧ Filled params args te filled
  | _, _, .cons first _, 0, _, rfl => ⟨_, rfl, first⟩
  | _, _, .cons _ later, index + 1, _, found => later.getElem? (show _[index]? = some _ from found)

theorem FilledAll.length_eq : ∀ {inner outer : List TypeExpr}, FilledAll params args inner outer →
    outer.length = inner.length
  | _, _, .nil => rfl
  | _, _, .cons _ later => congrArg Nat.succ later.length_eq

mutual

/-- What is put into the arguments of a body may be put into the filled body instead, where the
body mentions no other parameters than its own. -/
theorem Filled.fill (each : FilledAll params args inner outer) :
    ∀ {body filled : TypeExpr}, Filled own inner body filled → (∀ p ∈ body.mentioned, p ∈ own) →
      ∃ again, Filled params args filled again ∧ Filled own outer body again
  | _, _, .argument listed first given, _ => by
      obtain ⟨again, given, filled⟩ := each.getElem? given
      exact ⟨again, filled, .argument listed first given⟩
  | ⟨.typeParam param, _⟩, _, .parts other _, closed =>
      absurd rfl (other param (closed param (by simp [TypeExpr.mentioned])))
  | ⟨.primitive name, _⟩, _, .parts other parts, closed => by
      obtain ⟨again, filled, outside⟩ := each.fill parts closed
      exact ⟨⟨.primitive name, again⟩, .parts (by simp) filled, .parts other outside⟩
  | ⟨.reference name, _⟩, _, .parts other parts, closed => by
      obtain ⟨again, filled, outside⟩ := each.fill parts closed
      exact ⟨⟨.reference name, again⟩, .parts (by simp) filled, .parts other outside⟩

theorem FilledAll.fill (each : FilledAll params args inner outer) :
    ∀ {bodies filled : List TypeExpr}, FilledAll own inner bodies filled →
      (∀ p ∈ TypeExpr.mentionedAll bodies, p ∈ own) →
      ∃ again, FilledAll params args filled again ∧ FilledAll own outer bodies again
  | _, _, .nil, _ => ⟨[], .nil, .nil⟩
  | _, _, .cons first later, closed => by
      obtain ⟨head, tail⟩ := List.forall_mem_append.mp closed
      obtain ⟨again, filled, outside⟩ := first.fill each head
      obtain ⟨others, filledAll, outsideAll⟩ := each.fill later tail
      exact ⟨again :: others, .cons filled filledAll, .cons outside outsideAll⟩

end

end Filling

namespace Expander

/-- A body that may be expanded mentions no type parameters but those of its declaration. -/
def ClosedBodies (e : Expander) : Prop :=
  ∀ name decl params body, e.resolver name = some decl →
    e.definition? decl = some (params, body) → ∀ p ∈ body.mentioned, p ∈ params

theorem closedBodies_of_declared {s : Schema} {newtypes : NewtypePolicy}
    (each : ∀ m ∈ s.modules, ∀ d ∈ m.decls,
      ∀ definition ∈ (Expander.mk s.get? newtypes).definition? d.2,
        ∀ p ∈ definition.2.mentioned, p ∈ definition.1) :
    (Expander.mk s.get? newtypes).ClosedBodies := by
  intro name decl params body resolved defined
  obtain ⟨m, stored, _, declared⟩ := Schema.get?_declared resolved
  exact each m stored _ declared (params, body) defined

variable {e : Expander} {name : ScopedName} {te put next : TypeExpr}

/-- The head is replaced by its definition, with the arguments filled in. -/
inductive Unfolds (e : Expander) : TypeExpr → TypeExpr → Prop where
  | intro {name : ScopedName} {decl : Decl} {own : List String} {parameters : List TypeExpr}
      {body next : TypeExpr} (resolved : e.resolver name = some decl)
      (defined : e.definition? decl = some (own, body)) (arity : parameters.length = own.length)
      (filled : Filled own parameters body next) : Unfolds e ⟨.reference name, parameters⟩ next

theorem step_eq_some_iff : e.step te = .ok (some next) ↔ e.Unfolds te next := by
  constructor
  · intro expanded
    rcases te with ⟨head, parameters⟩
    cases head with
    | primitive name => cases expanded
    | typeParam name => cases expanded
    | reference name =>
        simp only [step] at expanded
        split at expanded
        · cases expanded
        · next decl resolved =>
            split at expanded
            · cases expanded
            · next own body defined =>
                obtain ⟨_, arity, expanded⟩ := bind_eq_ok_iff.mp expanded
                obtain ⟨made, done, expanded⟩ := bind_eq_ok_iff.mp expanded
                cases expanded
                exact .intro resolved defined (checkArity_eq_ok_iff.mp arity)
                  ((substitute_eq_ok_iff body).mp done)
  · rintro ⟨resolved, defined, arity, filled⟩
    simp only [step, resolved, defined, arity, checkArity_self,
      (substitute_eq_ok_iff _).mpr filled]
    rfl

/--
What is put for type parameters before the head is expanded may be put for them afterwards. Both
ways the definition gets its arguments as they are, also where they mention a parameter that is
called like one of its own.
-/
theorem step_of_substitute (closed : e.ClosedBodies) {owner : ScopedName} {params : List String}
    {args : List TypeExpr} (done : substitute owner params args te = .ok put)
    (expanded : e.step te = .ok (some next)) :
    ∃ again, substitute owner params args next = .ok again ∧ e.step put = .ok (some again) ∧
      ∃ name decl own body, te.head = .reference name ∧ put.head = .reference name ∧
        e.resolver name = some decl ∧ e.definition? decl = some (own, body) ∧
        Filled own te.parameters body next ∧ Filled own put.parameters body again := by
  cases step_eq_some_iff.mp expanded with
  | @intro name decl own parameters body next resolved defined arity filled =>
      obtain ⟨outer, each, rfl⟩ :=
        (filled_parts_iff (by simp)).mp ((substitute_eq_ok_iff _).mp done)
      obtain ⟨again, inside, outside⟩ :=
        filled.fill each (closed name decl own body resolved defined)
      have unfolds : e.Unfolds ⟨.reference name, outer⟩ again :=
        .intro resolved defined (each.length_eq.trans arity) outside
      exact ⟨again, (substitute_eq_ok_iff next).mpr inside, step_eq_some_iff.mpr unfolds,
        name, decl, own, body, rfl, rfl, resolved, defined, filled, outside⟩

end Expander

namespace Sample

def swaps : Schema :=
  .ofModules
    [moduleOf "swaps"
       [typeAlias "Swap" ["A", "B"]
          (named "swaps" "Pair" [param "B", vector (named "swaps" "Pair" [param "A", param "B"])]),
        genericStruct "Pair" ["L", "R"] [field "left" (param "L"), field "right" (param "R")]]]

def swapsExpander : Expander := ⟨swaps.get?, .nominal⟩

def swap (first second : TypeExpr) : TypeExpr := named "swaps" "Swap" [first, second]

def swapped (first second : TypeExpr) : TypeExpr :=
  named "swaps" "Pair" [second, vector (named "swaps" "Pair" [first, second])]

/-- The arguments mention the parameters of the alias, and so does what is put for them. -/
theorem swap_step_substitute :
    let put := substitute ⟨"swaps", "Owner"⟩ ["A", "B"] [nullable (param "B"), prim "String"]
    swapsExpander.ClosedBodies ∧
      put (swap (vector (param "B")) (param "A")) =
        .ok (swap (vector (prim "String")) (nullable (param "B"))) ∧
      swapsExpander.step (swap (vector (param "B")) (param "A")) =
        .ok (some (swapped (vector (param "B")) (param "A"))) ∧
      ∃ again, put (swapped (vector (param "B")) (param "A")) = .ok again ∧
        swapsExpander.step (swap (vector (prim "String")) (nullable (param "B"))) =
          .ok (some again) ∧
        again = swapped (vector (prim "String")) (nullable (param "B")) := by
  intro put
  have closed : swapsExpander.ClosedBodies :=
    Expander.closedBodies_of_declared (s := swaps) (by decide)
  have done : put (swap (vector (param "B")) (param "A")) =
      .ok (swap (vector (prim "String")) (nullable (param "B"))) := rfl
  have expanded : swapsExpander.step (swap (vector (param "B")) (param "A")) =
      .ok (some (swapped (vector (param "B")) (param "A"))) := rfl
  obtain ⟨again, after, before, _⟩ := Expander.step_of_substitute closed done expanded
  exact ⟨closed, done, expanded, again, after, before, by cases before; rfl⟩

end Sample

end SchemaBindings
