import SchemaBindings.Artifact.Tables
import SchemaBindings.Proofs.Decoding.Canonical
import SchemaBindings.Proofs.Resolve.Nullability

/-!
What a decoded type names is declared. A decoder looks up each reference it keeps, at any depth, and
what is made of a field afterwards names no more.
-/

namespace SchemaBindings

namespace Decoded

theorem mem_referencesAll {reference : ScopedName × DeclKind} {ds : List Decoded} :
    reference ∈ referencesAll ds ↔ ∃ d ∈ ds, reference ∈ d.references := by
  induction ds with
  | nil => simp [referencesAll]
  | cons d rest ih => simp [referencesAll, ih]

/-- Every declaration the type names is found, and of the kind told. -/
def ResolvedBy (d : Decoded) (resolver : Resolver) : Prop :=
  ∀ reference ∈ d.references, ∃ decl, resolver reference.1 = some decl ∧ decl.kind = reference.2

variable {resolver : Resolver} {elem : Decoded}

theorem ResolvedBy.reference {name : ScopedName} {decl : Decl} {parameters : List Decoded}
    (found : resolver name = some decl) (arguments : ∀ d ∈ parameters, d.ResolvedBy resolver) :
    ResolvedBy (.reference name decl.kind parameters) resolver := by
  intro reference member
  rcases List.mem_cons.mp member with rfl | inner
  · exact ⟨decl, found, rfl⟩
  · obtain ⟨d, listed, named⟩ := mem_referencesAll.mp inner
    exact arguments d listed reference named

theorem ResolvedBy.argument {name : ScopedName} {kind : DeclKind}
    (resolved : ResolvedBy (.reference name kind [elem]) resolver) : elem.ResolvedBy resolver := by
  intro reference member
  refine resolved reference (List.mem_cons_of_mem _ ?_)
  exact mem_referencesAll.mpr ⟨elem, List.mem_cons_self, member⟩

end Decoded

theorem resolvedBy_unwrapNullable {resolver : Resolver} (d : Decoded)
    (resolved : d.ResolvedBy resolver) : (unwrapNullable d).1.ResolvedBy resolver := by
  induction d using unwrapNullable.induct with
  | case1 elem ih =>
      rw [unwrapNullable]
      exact ih resolved
  | case2 kind elem ih =>
      rw [unwrapNullable, if_pos rfl]
      exact ih resolved.argument
  | case3 name kind elem other =>
      rw [unwrapNullable, if_neg other]
      exact resolved
  | case4 d _ _ =>
      rw [unwrapNullable]
      · exact resolved
      all_goals assumption

theorem Decoder.Canonical.resolvedBy {d : Decoder} {decoded : Decoded}
    (canonical : d.Canonical decoded) : decoded.ResolvedBy d.resolver := by
  induction canonical with
  | primitive p => simp [Decoded.ResolvedBy, Decoded.references]
  | vector _ ih => exact ih
  | stringMap _ ih => exact ih
  | nullable _ _ ih => exact ih
  | reference resolved _ _ _ ih => exact .reference resolved ih

theorem resolveField_resolved {d : Decoder} {owner : ScopedName} {field : Field}
    {f : ResolvedField} (done : resolveField d owner field = .ok f) :
    f.decoded.ResolvedBy d.resolver := by
  obtain ⟨decoded, decodes, unwrapped, _⟩ := decoded_of_resolveField done
  rw [unwrapped]
  exact resolvedBy_unwrapNullable decoded (Decoder.canonical_of_decodeWithin decodes).resolvedBy

end SchemaBindings
