import SchemaBindings.Proofs.Decoding.Canonical
import SchemaBindings.Proofs.Imports.Coverage

/-!
A type written before and after it is decoded. Where decoding expands nothing it only drops doubled
nullables, which neither way of writing repeats, so both give the same text or fail alike: they ask
for the same names in the same order.
-/

namespace SchemaBindings

namespace Decoder

/-- The decoder leaves each of the names as it stands. -/
def KeepsAll (d : Decoder) (names : List ScopedName) : Prop :=
  ∀ name ∈ names, ∀ decl, d.resolver name = some decl → d.Keeps name decl

theorem KeepsAll.left {d : Decoder} {first second : List ScopedName}
    (kept : d.KeepsAll (first ++ second)) : d.KeepsAll first :=
  fun name member => kept name (List.mem_append_left second member)

theorem KeepsAll.right {d : Decoder} {first second : List ScopedName}
    (kept : d.KeepsAll (first ++ second)) : d.KeepsAll second :=
  fun name member => kept name (List.mem_append_right first member)

end Decoder

namespace TypeExpr

theorem references_container (container : String) (te : TypeExpr) :
    references ⟨.primitive container, [te]⟩ = te.references := by
  simp [references, referencesAll, TypeHead.reference?]

theorem references_reference (name : ScopedName) (parameters : List TypeExpr) :
    references ⟨.reference name, parameters⟩ = [name] ++ referencesAll parameters := by
  simp [references, TypeHead.reference?]

end TypeExpr

namespace Decoder

variable {d : Decoder} {te next : TypeExpr} {decoded : Decoded} {height : Nat}

theorem KeepsAll.not_expands (kept : d.KeepsAll te.references) : ¬ d.Expands te next := by
  intro head
  cases head with
  | @intro name decl parameters body _ resolved loose replaced underlying arity put =>
      rw [TypeExpr.references_reference] at kept
      exact loose (kept name (by simp) decl resolved replaced)

/-- Nothing but a nullable type becomes a nullable. -/
theorem Derives.isNullable_iff (derived : d.Derives height te decoded)
    (kept : d.KeepsAll te.references) :
    te.head.isNullable = true ↔ ∃ inner, decoded = .nullable inner := by
  cases derived with
  | scalar p => cases p <;> simp [TypeHead.isNullable, Primitive.name]
  | container wraps _ => cases wraps <;> simp [TypeHead.isNullable]
  | expanded head _ => exact absurd head kept.not_expands
  | reference _ _ _ _ => simp [TypeHead.isNullable]

end Decoder

namespace Imports

variable {i : Imports} {te : TypeExpr} {decoded : Decoded}

theorem referencedName_scalar (i : Imports) (p : Primitive) :
    i.referencedName ⟨.primitive p.name, []⟩ = .ok (i.mapper.primitive p) := by
  cases p <;> rfl

theorem decodedName_nullable_once (i : Imports) (once : ∀ inner, decoded ≠ .nullable inner) :
    i.decodedName (.nullable decoded) = i.mapper.nullable <$> i.decodedName decoded := by
  rw [decodedName]
  exact once

end Imports

namespace Decoder

variable {d : Decoder} {te : TypeExpr} {elem made : Decoded} {height : Nat}

theorem Wraps.decodedName_eq {container : String} (i : Imports) (wraps : Wraps container elem made)
    (derived : d.Derives height te elem) (kept : d.KeepsAll te.references)
    (element : i.decodedName elem = i.referencedName te) :
    i.decodedName made = i.referencedName ⟨.primitive container, [te]⟩ := by
  have nullable := derived.isNullable_iff kept
  rcases te with ⟨head, parameters⟩
  rw [Imports.referencedName]
  cases wraps with
  | vector elem => rw [Imports.decodedName, element, if_pos rfl]
  | stringMap elem => rw [Imports.decodedName, element, if_neg (by decide), if_pos rfl]
  | nullable once =>
      have apart : ¬ head.isNullable = true := by
        intro twice
        obtain ⟨inner, same⟩ := nullable.mp twice
        exact once inner same
      rw [Imports.decodedName_nullable_once i once, element, if_neg (by decide),
        if_neg (by decide), if_pos rfl, if_neg apart]
  | collapsed inner =>
      have twice : head.isNullable = true := nullable.mpr ⟨inner, rfl⟩
      rw [element, if_neg (by decide), if_neg (by decide), if_pos rfl, if_pos twice]

mutual

theorem Derives.decodedName_eq (i : Imports) :
    ∀ {height : Nat} {te : TypeExpr} {decoded : Decoded}, d.Derives height te decoded →
      d.KeepsAll te.references → i.decodedName decoded = i.referencedName te
  | _, _, _, .scalar p, _ => by rw [Imports.decodedName, Imports.referencedName_scalar]
  | _, _, _, .container wraps element, kept => by
      rw [TypeExpr.references_container] at kept
      exact wraps.decodedName_eq i element kept (element.decodedName_eq i kept)
  | _, _, _, .expanded head _, kept => absurd head kept.not_expands
  | _, _, _, .reference resolved _ _ each, kept => by
      rw [TypeExpr.references_reference] at kept
      rw [Imports.decodedName, Imports.referencedName, each.decodedNames_eq i kept.right]

theorem DerivesAll.decodedNames_eq (i : Imports) :
    ∀ {height : Nat} {tes : List TypeExpr} {arguments : List Decoded},
      d.DerivesAll height tes arguments → d.KeepsAll (TypeExpr.referencesAll tes) →
        i.decodedNames arguments = i.referencedNames tes
  | _, _, _, .nil, _ => rfl
  | _, _, _, .cons first later, kept => by
      rw [TypeExpr.referencesAll] at kept
      rw [Imports.decodedNames, Imports.referencedNames, first.decodedName_eq i kept.left,
        later.decodedNames_eq i kept.right]

end

end Decoder

/-- A type none of whose references is expanded is written as what it is decoded to, whatever state
the imports are in: the same text comes of both, or the same failure. -/
theorem Imports.decodedName_eq_referencedName {d : Decoder} {te : TypeExpr} {decoded : Decoded}
    (kept : ∀ name ∈ te.references, ∀ decl, d.resolver name = some decl → d.Keeps name decl)
    (done : d.decode te = .ok decoded) (i : Imports) :
    i.decodedName decoded = i.referencedName te := by
  obtain ⟨height, _, derived⟩ := Decoder.derives_of_decodeWithin done
  exact derived.decodedName_eq i kept

namespace Sample

def parcel : TypeExpr :=
  named "common.db" "WithId"
    [nullable (nullable (named "shop" "Label" [])),
     ⟨.primitive "StringMap", [vector (named "shop" "Stamp" [])]⟩]

def decodedParcel : Decoded :=
  .reference ⟨"common.db", "WithId"⟩ .struct
    [.nullable (.reference ⟨"shop", "Label"⟩ .typeAlias []),
     .stringMap (.vector (.reference ⟨"shop", "Stamp"⟩ .newtype []))]

def parcelImports : Imports :=
  .settledFor (typescriptMapper [(⟨"shop", "Stamp"⟩, "Date")]) .named
    [⟨⟨"depot", "WithId"⟩, ""⟩, ⟨⟨"common.db", "WithId"⟩, ""⟩, ⟨⟨"shop", "Label"⟩, ""⟩]

example : parcelImports.referencedName parcel =
    .ok "WithId2<Label | null, \x7b[key: string]: Date[]\x7d>" := by
  rfl

theorem parcel_written_alike :
    (∀ name ∈ parcel.references, ∀ decl, stallDecoder.resolver name = some decl →
      stallDecoder.Keeps name decl) ∧
      stallDecoder.decode parcel = .ok decodedParcel ∧
      parcelImports.decodedName decodedParcel = parcelImports.referencedName parcel := by
  have keeps : ∀ name decl, stallDecoder.resolver name = some decl →
      stallDecoder.headStep (.reference name) = .ok none → stallDecoder.Keeps name decl :=
    fun _ _ resolved stands => Decoder.keeps_of_headStep resolved stands
  have kept : ∀ name ∈ parcel.references, ∀ decl, stallDecoder.resolver name = some decl →
      stallDecoder.Keeps name decl := by
    intro name member decl resolved
    have listed : name ∈ ([⟨"common.db", "WithId"⟩, ⟨"shop", "Label"⟩, ⟨"shop", "Stamp"⟩] :
        List ScopedName) := member
    simp only [List.mem_cons, List.not_mem_nil, or_false] at listed
    rcases listed with rfl | rfl | rfl
    · exact keeps _ decl resolved rfl
    · exact keeps _ decl resolved rfl
    · exact keeps _ decl resolved rfl
  have decodes : stallDecoder.decode parcel = .ok decodedParcel := by rfl
  exact ⟨kept, decodes, Imports.decodedName_eq_referencedName kept decodes parcelImports⟩

end Sample

end SchemaBindings
