import SchemaBindings.Proofs.Decoding.HeadStep

/-!
More levels never change a decoding that did not stop at the depth limit, be it a type or a failure.
-/

namespace SchemaBindings.Decoder

open GenerationError (IsAliasCycle)

def shape? (d : Decoder) (name : ScopedName) : Option (DeclKind × Nat) :=
  (d.resolver name).map fun decl => (decl.kind, decl.typeParams.length)

/-- Decoding part by part agrees where decoding each part does, as long as references show the same
or the first decoder stops at them. -/
theorem decodeParts_agrees {p : GenerationError → Prop} {d other : Decoder}
    (shapes : ∀ name, (d.resolver name = none ∧ p (.unresolvedReference name)) ∨
      other.shape? name = d.shape? name)
    {decodePart decodeOther : TypeExpr → Except GenerationError Decoded}
    (each : ∀ te, AgreesUnless p (decodePart te) (decodeOther te)) (te : TypeExpr) :
    AgreesUnless p (d.decodeParts decodePart te) (other.decodeParts decodeOther te) := by
  rcases te with ⟨head, parameters⟩
  cases head with
  | primitive name =>
      simp only [decodeParts]
      cases wrapper? name with
      | none => exact .refl _
      | some wrap =>
          apply AgreesUnless.bind (.refl _)
          intro elem
          exact AgreesUnless.bind (each elem) (fun decoded => .refl _)
  | typeParam name => exact .refl _
  | reference name =>
      simp only [decodeParts]
      rcases shapes name with ⟨unknown, allowed⟩ | same
      · rw [unknown]
        exact .stopped allowed _
      · cases known : d.resolver name with
        | none =>
            have unknown : other.resolver name = none := by simpa [shape?, known] using same
            rw [unknown]
            exact .refl _
        | some decl =>
            have seen : ∃ found, other.resolver name = some found ∧ found.kind = decl.kind ∧
                found.typeParams.length = decl.typeParams.length := by
              simpa [shape?, known] using same
            obtain ⟨found, resolved, kind, arity⟩ := seen
            simp only [resolved, kind, arity]
            apply AgreesUnless.bind (.refl _)
            intro checked
            exact AgreesUnless.bind (.mapM each parameters) (fun decoded => .refl _)

theorem decodeWithin_agrees (d : Decoder) {levels more : Nat} (le : levels ≤ more) (te : TypeExpr) :
    AgreesUnless IsAliasCycle (d.decodeWithin levels te) (d.decodeWithin more te) := by
  induction levels generalizing more te with
  | zero => exact .stopped ⟨_, _, rfl⟩ _
  | succ levels ih =>
      obtain ⟨more, rfl⟩ : ∃ deeper, more = deeper + 1 := ⟨more - 1, by omega⟩
      have below : levels ≤ more := Nat.le_of_succ_le_succ le
      rw [decodeWithin_succ, decodeWithin_succ]
      apply AgreesUnless.bind (.refl _)
      intro expanded
      cases expanded with
      | some next => exact ih below next
      | none => exact decodeParts_agrees (fun _ => .inr rfl) (fun part => ih below part) te

end SchemaBindings.Decoder
