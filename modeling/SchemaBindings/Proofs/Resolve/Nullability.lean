import SchemaBindings.Artifact.Tables
import SchemaBindings.Proofs.Decoding.Derivation

/-!
Nullability of fields. The wrappers that make a type nullable stand around it in layers, of two
sorts in any order. Resolving a field takes away every layer and remembers only whether there was
one, so a further layer changes nothing else.
-/

namespace SchemaBindings

inductive Decoded.Layer : (elem wrapped : Decoded) → Prop where
  | nullable (elem : Decoded) : Layer elem (.nullable elem)
  | maybe (kind : DeclKind) (elem : Decoded) : Layer elem (.reference maybeName kind [elem])

/-- The type is `core` below so many layers. -/
inductive Decoded.Wrapped (core : Decoded) : (layers : Nat) → Decoded → Prop where
  | core : Wrapped core 0 core
  | layer {layers : Nat} {elem wrapped : Decoded} (outermost : elem.Layer wrapped)
      (below : Wrapped core layers elem) : Wrapped core (layers + 1) wrapped

/-- No wrapper is outermost. -/
def Decoded.Bare (d : Decoded) : Prop :=
  ∀ elem : Decoded, ¬ elem.Layer d

section Unwrapping

variable {d elem wrapped core : Decoded}

theorem Decoded.Layer.unwrapNullable_eq (layer : elem.Layer wrapped) :
    unwrapNullable wrapped = ((unwrapNullable elem).1, true) := by
  cases layer with
  | nullable elem => rw [unwrapNullable]
  | maybe kind elem => rw [unwrapNullable, if_pos rfl]

theorem layer_or_unwrapped (d : Decoded) :
    (∃ elem : Decoded, elem.Layer d) ∨ (d.Bare ∧ unwrapNullable d = (d, false)) := by
  cases d with
  | primitive p => exact .inr ⟨nofun, rfl⟩
  | vector elem => exact .inr ⟨nofun, rfl⟩
  | stringMap elem => exact .inr ⟨nofun, rfl⟩
  | nullable elem => exact .inl ⟨elem, .nullable elem⟩
  | reference name kind parameters =>
      match parameters with
      | [] => exact .inr ⟨nofun, rfl⟩
      | _ :: _ :: _ => exact .inr ⟨nofun, rfl⟩
      | [elem] =>
          by_cases isMaybe : name = maybeName
          · subst isMaybe
            exact .inl ⟨elem, .maybe kind elem⟩
          · refine .inr ⟨?_, by rw [unwrapNullable, if_neg isMaybe]⟩
            intro other layer
            cases layer
            exact isMaybe rfl

/-- Every layer is taken away, and only a type without one is not nullable. -/
theorem unwrapNullable_wrapped (d : Decoded) :
    ∃ layers, (unwrapNullable d).1.Wrapped layers d ∧ (unwrapNullable d).1.Bare ∧
      ((unwrapNullable d).2 = true ↔ 0 < layers) := by
  induction d using unwrapNullable.induct with
  | case1 elem ih =>
      obtain ⟨layers, wrapped, bare, _⟩ := ih
      rw [(Decoded.Layer.nullable elem).unwrapNullable_eq]
      exact ⟨layers + 1, .layer (.nullable elem) wrapped, bare, by simp⟩
  | case2 kind elem ih =>
      obtain ⟨layers, wrapped, bare, _⟩ := ih
      rw [(Decoded.Layer.maybe kind elem).unwrapNullable_eq]
      exact ⟨layers + 1, .layer (.maybe kind elem) wrapped, bare, by simp⟩
  | case3 name kind elem other =>
      rcases layer_or_unwrapped (.reference name kind [elem]) with ⟨_, layer⟩ | ⟨bare, kept⟩
      · cases layer
        exact absurd rfl other
      · rw [kept]
        exact ⟨0, .core, bare, by simp⟩
  | case4 d plain unapplied =>
      rcases layer_or_unwrapped d with ⟨elem, layer⟩ | ⟨bare, kept⟩
      · cases layer with
        | nullable elem => exact absurd rfl (plain elem)
        | maybe kind elem => exact absurd rfl (unapplied _ _ _)
      · rw [kept]
        exact ⟨0, .core, bare, by simp⟩

theorem unwrapNullable_nullableOf (d : Decoded) :
    unwrapNullable (Decoder.nullableOf d) = ((unwrapNullable d).1, true) := by
  cases d with
  | nullable elem => exact (Decoded.Layer.nullable elem).unwrapNullable_eq
  | primitive p => rfl
  | vector elem => rfl
  | stringMap elem => rfl
  | reference name kind parameters => rfl

end Unwrapping

def DeclBody.HoldsOne (body : DeclBody) : Prop :=
  ∃ param fields, body = .struct [param] fields ∨ body = .union [param] fields

inductive TypeExpr.Layer (resolver : Resolver) (te : TypeExpr) : (wrapped : TypeExpr) → Prop where
  | nullable : Layer resolver te ⟨.primitive "Nullable", [te]⟩
  | maybe {decl : Decl} (resolved : resolver maybeName = some decl) (holds : decl.body.HoldsOne) :
      Layer resolver te ⟨.reference maybeName, [te]⟩

section Fields

variable {d : Decoder} {te wrapped : TypeExpr} {decoded : Decoded} {height : Nat}

theorem DeclBody.HoldsOne.keeps {decl : Decl} (holds : decl.body.HoldsOne) (d : Decoder)
    (name : ScopedName) : d.Keeps name decl ∧ decl.typeParams.length = 1 := by
  obtain ⟨param, fields, shape | shape⟩ := holds
  · have isStruct : decl.kind = .struct := by rw [Decl.kind, shape]
    refine ⟨?_, by rw [Decl.typeParams, shape]; rfl⟩
    rintro (isAlias | ⟨_, isNewtype⟩)
    · cases isStruct.symm.trans isAlias
    · cases isStruct.symm.trans isNewtype
  · refine ⟨?_, by rw [Decl.typeParams, shape]; rfl⟩
    rintro (isAlias | ⟨_, isNewtype⟩)
    · obtain ⟨_, _, other⟩ := Decl.kind_eq_typeAlias.mp isAlias
      cases shape.symm.trans other
    · obtain ⟨_, _, _, other⟩ := Decl.kind_eq_newtype.mp isNewtype
      cases shape.symm.trans other

/-- One more wrapper is one more step of the derivation, and is taken away again. -/
theorem TypeExpr.Layer.derives (layer : te.Layer d.resolver wrapped)
    (derived : d.Derives height te decoded) :
    ∃ made, d.Derives (height + 1) wrapped made ∧
      unwrapNullable made = ((unwrapNullable decoded).1, true) := by
  cases layer with
  | nullable =>
      have wraps : Decoder.Wraps "Nullable" decoded (Decoder.nullableOf decoded) :=
        Decoder.wraps_iff.mpr ⟨Decoder.nullableOf, rfl, rfl⟩
      exact ⟨_, .container wraps derived, unwrapNullable_nullableOf decoded⟩
  | @maybe decl resolved holds =>
      obtain ⟨kept, arity⟩ := holds.keeps d maybeName
      have argument : d.DerivesAll (height + 1) [te] [decoded] := by
        simpa using Decoder.DerivesAll.cons derived .nil
      exact ⟨_, .reference resolved kept arity.symm argument,
        (Decoded.Layer.maybe decl.kind decoded).unwrapNullable_eq⟩

variable {owner : ScopedName} {field : Field} {f : ResolvedField}

theorem decoded_of_resolveField (done : resolveField d owner field = .ok f) :
    ∃ decoded, d.decode field.typeExpr = .ok decoded ∧
      f.decoded = (unwrapNullable decoded).1 ∧ f.nullable = (unwrapNullable decoded).2 := by
  unfold resolveField at done
  obtain ⟨decoded, decodes, done⟩ := bind_eq_ok_iff.mp done
  obtain ⟨_, _, done⟩ := bind_eq_ok_iff.mp done
  obtain ⟨_, _, done⟩ := bind_eq_ok_iff.mp done
  obtain ⟨_, _, made⟩ := bind_eq_ok_iff.mp done
  cases made
  exact ⟨decoded, decodes, rfl, rfl⟩

theorem resolveField_of_decode (done : resolveField d owner field = .ok f) {te : TypeExpr}
    {made : Decoded} (decodes : d.decode te = .ok made) :
    resolveField d owner { field with typeExpr := te } =
      .ok { f with decoded := (unwrapNullable made).1, nullable := (unwrapNullable made).2 } := by
  unfold resolveField at done ⊢
  obtain ⟨_, _, done⟩ := bind_eq_ok_iff.mp done
  obtain ⟨column, named, done⟩ := bind_eq_ok_iff.mp done
  obtain ⟨primaryKey, marked, done⟩ := bind_eq_ok_iff.mp done
  obtain ⟨doc, told, resolved⟩ := bind_eq_ok_iff.mp done
  cases resolved
  simp only [decodes, named, marked, told]
  rfl

/--
The type of a resolved field is the decoded one without any of its layers, and the field is nullable
exactly when there was a layer. One more layer makes the field nullable and changes nothing else,
unless the derivation is as tall as the limit allows already, and then decoding gives up.
-/
theorem resolveField_collapses (done : resolveField d owner field = .ok f) :
    ∃ decoded layers, d.decode field.typeExpr = .ok decoded ∧
      f.decoded.Wrapped layers decoded ∧ f.decoded.Bare ∧ (f.nullable = true ↔ 0 < layers) ∧
      ∀ wrapped, field.typeExpr.Layer d.resolver wrapped →
        resolveField d owner { field with typeExpr := wrapped } = .ok { f with nullable := true } ∨
        (d.Derives 32 field.typeExpr decoded ∧
          ∃ name, d.decode wrapped = .error (.aliasCycle name 32)) := by
  obtain ⟨decoded, decodes, core, told⟩ := decoded_of_resolveField done
  obtain ⟨layers, wrapped, bare, counted⟩ := unwrapNullable_wrapped decoded
  rw [← core] at wrapped bare
  rw [← told] at counted
  refine ⟨decoded, layers, decodes, wrapped, bare, counted, ?_⟩
  intro wrapped layer
  obtain ⟨height, within, derived⟩ := Decoder.decodeWithin_eq_ok_iff.mp decodes
  obtain ⟨made, taller, unwrapped⟩ := layer.derives derived
  rcases Nat.lt_or_eq_of_le within with below | tallest
  · have fits : d.decode wrapped = .ok made :=
      Decoder.decodeWithin_eq_ok_iff.mpr ⟨height + 1, below, taller⟩
    left
    rw [resolveField_of_decode done fits, unwrapped, ← core]
  · subst tallest
    exact .inr ⟨derived, taller.exceeds _ (Nat.le_refl _)⟩

end Fields

namespace Sample

def drawers : Schema :=
  .ofModules
    [sysTypes,
     moduleOf "drawers"
       [typeAlias "Perhaps" ["T"] (nullable (named "sys.types" "Maybe" [param "T"])),
        ⟨"Note", .newtype [] (named "sys.types" "Maybe" [nullable (prim "Json")]) none, []⟩]]

def noteField : Field := field "note" (named "drawers" "Perhaps" [named "drawers" "Note" []])

def resolvedNote : ResolvedField := ⟨"note", none, .primitive .json, true, false, none⟩

theorem note_collapses :
    resolveField (rowDecoder drawers) ⟨"drawers", "Desk"⟩ noteField = .ok resolvedNote ∧
      ∃ decoded layers, (rowDecoder drawers).decode noteField.typeExpr = .ok decoded ∧
        resolvedNote.decoded.Wrapped layers decoded ∧ resolvedNote.decoded.Bare ∧
        (resolvedNote.nullable = true ↔ 0 < layers) ∧
        ∀ wrapped, noteField.typeExpr.Layer drawers.get? wrapped →
          resolveField (rowDecoder drawers) ⟨"drawers", "Desk"⟩
              { noteField with typeExpr := wrapped } =
            .ok { resolvedNote with nullable := true } ∨
          ((rowDecoder drawers).Derives 32 noteField.typeExpr decoded ∧
            ∃ name, (rowDecoder drawers).decode wrapped = .error (.aliasCycle name 32)) :=
  have resolves : resolveField (rowDecoder drawers) ⟨"drawers", "Desk"⟩ noteField =
      .ok resolvedNote := by rfl
  ⟨resolves, resolveField_collapses resolves⟩

end Sample

end SchemaBindings
