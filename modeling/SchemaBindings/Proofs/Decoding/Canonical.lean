import SchemaBindings.Proofs.Decoding.Derivation

/-!
What a canonical type is. Each rule of decoding makes one of canonical parts: nullables are not
doubled, and each reference is applied in full to a declaration that the decoder keeps.
-/

namespace SchemaBindings

inductive DeclBody.Tagged : DeclBody → DeclKind → Prop where
  | struct (params : List String) (fields : List Field) : Tagged (.struct params fields) .struct
  | enum (params : List String) {variants : List Field}
      (empty : ∀ v ∈ variants, v.typeExpr = .primitive "Void") :
      Tagged (.union params variants) .enum
  | union (params : List String) {variants : List Field}
      (payload : ∃ v ∈ variants, v.typeExpr ≠ .primitive "Void") :
      Tagged (.union params variants) .union
  | typeAlias (params : List String) (te : TypeExpr) : Tagged (.typeAlias params te) .typeAlias
  | newtype (params : List String) (te : TypeExpr) (default : Option Json.Value) :
      Tagged (.newtype params te default) .newtype

theorem Field.isVoid_iff {f : Field} : f.isVoid = true ↔ f.typeExpr = .primitive "Void" := by
  unfold isVoid TypeExpr.primitive
  split
  · next name shape => simp [shape]
  · next other =>
      constructor
      · nofun
      · intro same
        exact absurd same (other "Void")

theorem Decl.tagged (decl : Decl) : decl.body.Tagged decl.kind := by
  cases shape : decl.body with
  | struct params fields =>
      simp only [kind, shape]
      exact .struct params fields
  | union params variants =>
      simp only [kind, shape, isEnum]
      split
      · next empty =>
          refine .enum params ?_
          intro v member
          exact Field.isVoid_iff.mp (List.all_eq_true.mp empty v member)
      · next payload =>
          refine .union params ?_
          simpa [Field.isVoid_iff] using payload
  | typeAlias params te =>
      simp only [kind, shape]
      exact .typeAlias params te
  | newtype params te default =>
      simp only [kind, shape]
      exact .newtype params te default

/-- A canonical type inside another, at any depth. -/
inductive Decoded.Inside (part : Decoded) : Decoded → Prop where
  | self : Inside part part
  | vector {elem : Decoded} (inside : Inside part elem) : Inside part (.vector elem)
  | stringMap {elem : Decoded} (inside : Inside part elem) : Inside part (.stringMap elem)
  | nullable {elem : Decoded} (inside : Inside part elem) : Inside part (.nullable elem)
  | argument {name : ScopedName} {kind : DeclKind} {arguments : List Decoded} {elem : Decoded}
      (member : elem ∈ arguments) (inside : Inside part elem) :
      Inside part (.reference name kind arguments)

namespace Decoder

/-- The canonical types of a decoder, each made of canonical parts. -/
inductive Canonical (d : Decoder) : Decoded → Prop where
  | primitive (p : Primitive) : Canonical d (.primitive p)
  | vector {elem : Decoded} (element : Canonical d elem) : Canonical d (.vector elem)
  | stringMap {elem : Decoded} (element : Canonical d elem) : Canonical d (.stringMap elem)
  | nullable {elem : Decoded} (once : ∀ inner, elem ≠ .nullable inner)
      (element : Canonical d elem) : Canonical d (.nullable elem)
  | reference {name : ScopedName} {decl : Decl} {arguments : List Decoded}
      (resolved : d.resolver name = some decl) (kept : d.Keeps name decl)
      (arity : arguments.length = decl.typeParams.length)
      (each : ∀ argument ∈ arguments, Canonical d argument) :
      Canonical d (.reference name decl.kind arguments)

variable {d : Decoder} {te : TypeExpr} {decoded part : Decoded}

theorem Canonical.wrapped {container : String} {elem made : Decoded}
    (wraps : Wraps container elem made) (element : d.Canonical elem) : d.Canonical made := by
  cases wraps with
  | vector elem => exact .vector element
  | stringMap elem => exact .stringMap element
  | nullable once => exact .nullable once element
  | collapsed inner => exact element

theorem DerivesAll.length_eq : ∀ {height : Nat} {tes : List TypeExpr} {arguments : List Decoded},
    d.DerivesAll height tes arguments → arguments.length = tes.length
  | _, _, _, .nil => rfl
  | _, _, _, .cons _ later => congrArg Nat.succ later.length_eq

mutual

theorem Derives.canonical : ∀ {height : Nat} {te : TypeExpr} {decoded : Decoded},
    d.Derives height te decoded → d.Canonical decoded
  | _, _, _, .scalar p => .primitive p
  | _, _, _, .container wraps element => element.canonical.wrapped wraps
  | _, _, _, .expanded _ rest => rest.canonical
  | _, _, _, .reference resolved kept arity each =>
      .reference resolved kept (each.length_eq.trans arity) each.canonical

theorem DerivesAll.canonical : ∀ {height : Nat} {tes : List TypeExpr} {arguments : List Decoded},
    d.DerivesAll height tes arguments → ∀ argument ∈ arguments, d.Canonical argument
  | _, _, _, .nil => by simp
  | _, _, _, .cons first later => List.forall_mem_cons.mpr ⟨first.canonical, later.canonical⟩

end

theorem canonical_of_decodeWithin {levels : Nat} (done : d.decodeWithin levels te = .ok decoded) :
    d.Canonical decoded := by
  obtain ⟨_, _, derived⟩ := derives_of_decodeWithin done
  exact derived.canonical

theorem Canonical.inside (canonical : d.Canonical decoded) (inside : part.Inside decoded) :
    d.Canonical part := by
  induction inside with
  | self => exact canonical
  | vector _ ih =>
      cases canonical with
      | vector element => exact ih element
  | stringMap _ ih =>
      cases canonical with
      | stringMap element => exact ih element
  | nullable _ ih =>
      cases canonical with
      | nullable _ element => exact ih element
  | argument member _ ih =>
      cases canonical with
      | reference _ _ _ each => exact ih (each _ member)

/-- What holds of each part of a canonical type: it is no nullable of a nullable, and as a reference
it names a known declaration by its kind, with an argument for each parameter. Aliases stay only
where they are pinned, and so do newtypes where the policy is to expand them. -/
structure Sound (d : Decoder) (part : Decoded) : Prop where
  once : ∀ inner, part ≠ .nullable (.nullable inner)
  declared : ∀ name kind arguments, part = .reference name kind arguments →
    ∃ decl, d.resolver name = some decl ∧ decl.body.Tagged kind ∧
      arguments.length = decl.typeParams.length ∧
      (kind = .typeAlias → d.Pins name decl) ∧
      (d.newtypes = .expand → kind = .newtype → d.Pins name decl)

theorem Canonical.sound (canonical : d.Canonical part) : d.Sound part := by
  constructor
  · rintro inner rfl
    cases canonical with
    | nullable once _ => exact once inner rfl
  · rintro name kind arguments rfl
    cases canonical with
    | @reference _ decl _ resolved kept arity _ =>
        refine ⟨decl, resolved, decl.tagged, arity, ?_, ?_⟩
        · intro isAlias
          exact kept (.inl isAlias)
        · intro expands isNewtype
          exact kept (.inr ⟨expands, isNewtype⟩)

/-- Every part of a decoded type is sound. -/
theorem decode_canonical (done : d.decode te = .ok decoded) :
    ∀ part : Decoded, part.Inside decoded → d.Sound part := by
  intro part inside
  exact ((canonical_of_decodeWithin done).inside inside).sound

end Decoder

namespace Sample

/-- An alias kept by name, a newtype bound to a type of its own, one that is expanded, and an
enumeration. -/
def stall : Schema :=
  .ofModules
    [catalogue [] [] [field "sold" (prim "Void")] (prim "Int64")
      [typeAlias "Label" [] (prim "String"),
       ⟨"Code", .newtype [] (nullable (named "shop" "Label" [])) none, []⟩],
     commonDb]

def stallDecoder : Decoder :=
  ⟨stall.get?, .expand, [⟨"shop", "Label"⟩], some customTypeMark.key⟩

def offer : TypeExpr :=
  named "common.db" "WithId"
    [named "shop" "Price" [named "shop" "Price" [named "shop" "Stamp" []]],
     ⟨.primitive "StringMap",
       [named "common.db" "WithId"
         [named "shop" "Event" [], named "shop" "Price" [named "shop" "Code" []]]]⟩]

def decodedOffer : Decoded :=
  .reference ⟨"common.db", "WithId"⟩ .struct
    [.nullable (.reference ⟨"shop", "Stamp"⟩ .newtype []),
     .stringMap (.reference ⟨"common.db", "WithId"⟩ .struct
       [.reference ⟨"shop", "Event"⟩ .enum [],
        .nullable (.reference ⟨"shop", "Label"⟩ .typeAlias [])])]

theorem offer_canonical :
    stallDecoder.decode offer = .ok decodedOffer ∧
      ∀ part : Decoded, part.Inside decodedOffer → stallDecoder.Sound part :=
  have decodes : stallDecoder.decode offer = .ok decodedOffer := by rfl
  ⟨decodes, Decoder.decode_canonical decodes⟩

end Sample

end SchemaBindings
