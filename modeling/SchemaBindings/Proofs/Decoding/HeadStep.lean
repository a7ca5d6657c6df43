import SchemaBindings.Proofs.Failure
import SchemaBindings.Resolve.Decode

/-!
Decoding in two moves: the head is expanded while it is an alias in use, and a type whose head
stands for itself is decoded part by part.
-/

namespace SchemaBindings

/-- The containers, each with what it makes of its element. -/
def wrapper? (name : String) : Option (Decoded → Decoded) :=
  if name = "Vector" then some .vector
  else if name = "StringMap" then some .stringMap
  else if name = "Nullable" then some Decoder.nullableOf
  else none

theorem checkArity_eq_ok_iff {name : ScopedName} {expected supplied : Nat} {checked : Unit} :
    checkArity name expected supplied = .ok checked ↔ supplied = expected := by
  unfold checkArity
  split
  · next fewer => simp [Nat.ne_of_lt fewer]
  · split
    · next more => simp [Nat.ne_of_gt more]
    · simp only [true_iff]
      omega

theorem checkArity_self (name : ScopedName) (count : Nat) :
    checkArity name count count = .ok () :=
  checkArity_eq_ok_iff.mpr rfl

namespace Decoder

/-- The head expanded once, unless it stands for itself. -/
def headStep (d : Decoder) (te : TypeExpr) : Except GenerationError (Option TypeExpr) :=
  match te.head with
  | .reference name =>
    match d.resolver name with
    | none => .error (.unresolvedReference name)
    | some decl => if d.isPinned name decl then .ok none else d.expander.step te
  | _ => .ok none

def decodeParts (d : Decoder) (decodePart : TypeExpr → Except GenerationError Decoded)
    (te : TypeExpr) : Except GenerationError Decoded :=
  match te.head with
  | .primitive name =>
    match wrapper? name with
    | some wrap => do return wrap (← decodePart (← single name te.parameters))
    | none => scalar name te.parameters
  | .typeParam name => .error (.unsupported (.unboundParam name))
  | .reference name =>
    match d.resolver name with
    | none => .error (.unresolvedReference name)
    | some decl => do
      checkArity name decl.typeParams.length te.parameters.length
      return .reference name decl.kind (← te.parameters.mapM decodePart)

theorem decodeWithin_succ (d : Decoder) (levels : Nat) (te : TypeExpr) :
    d.decodeWithin (levels + 1) te = (do
      match ← d.headStep te with
      | some next => d.decodeWithin levels next
      | none => d.decodeParts (d.decodeWithin levels) te) := by
  rcases te with ⟨head, parameters⟩
  cases head with
  | primitive name =>
      simp only [decodeWithin, headStep, decodeParts, wrapper?]
      by_cases vector : name = "Vector"
      · rw [if_pos vector, if_pos vector]
        rfl
      rw [if_neg vector, if_neg vector]
      by_cases stringMap : name = "StringMap"
      · rw [if_pos stringMap, if_pos stringMap]
        rfl
      rw [if_neg stringMap, if_neg stringMap]
      by_cases nullable : name = "Nullable"
      · rw [if_pos nullable, if_pos nullable]
        rfl
      · rw [if_neg nullable, if_neg nullable]
        rfl
  | typeParam name => rfl
  | reference name =>
      simp only [decodeWithin, headStep, decodeParts]
      cases d.resolver name with
      | none => rfl
      | some decl =>
          dsimp only
          cases d.isPinned name decl with
          | true => rfl
          | false =>
              cases d.expander.step ⟨.reference name, parameters⟩ with
              | error e => rfl
              | ok expanded =>
                  cases expanded with
                  | none => rfl
                  | some next => rfl

theorem single_eq_ok {name : String} {parameters : List TypeExpr} {te : TypeExpr}
    (done : single name parameters = .ok te) : parameters = [te] := by
  unfold single at done
  split at done
  · cases done
    rfl
  · cases done

theorem scalar_eq_ok {name : String} {parameters : List TypeExpr} {decoded : Decoded}
    (done : scalar name parameters = .ok decoded) :
    ∃ p : Primitive, p.name = name ∧ parameters = [] ∧ decoded = .primitive p := by
  unfold scalar at done
  split at done
  · cases done
  · next p found =>
      split at done
      · next empty =>
          cases done
          exact ⟨p, by simpa using List.find?_some found, List.isEmpty_iff.mp empty, rfl⟩
      · cases done

end Decoder

end SchemaBindings
