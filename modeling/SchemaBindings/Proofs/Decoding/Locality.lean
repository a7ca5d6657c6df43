import SchemaBindings.Proofs.Decoding.Depth
import SchemaBindings.Resolve.Mark
import SchemaBindings.Sample.Protoapp

/-!
What a decoding reads of the declarations it meets. Two resolvers that show the same of every name
the first of them knows decode alike, unless the first lacks a name that the second has.
-/

namespace SchemaBindings

def DeclBody.underlying? : DeclBody → Option TypeExpr
  | .typeAlias _ te => some te
  | .newtype _ te _ => some te
  | _ => none

def NewtypePolicy.Replaces (newtypes : NewtypePolicy) (kind : DeclKind) : Prop :=
  kind = .typeAlias ∨ (newtypes = .expand ∧ kind = .newtype)

/-- The decoder cannot tell one declaration of `name` from the other. -/
structure Decoder.SeenAlike (d : Decoder) (name : ScopedName) (decl other : Decl) : Prop where
  kind : other.kind = decl.kind
  typeParams : other.typeParams = decl.typeParams
  custom : ∀ key ∈ d.customTypeKey,
    (∃ a ∈ other.annotations, a.key = key) ↔ ∃ a ∈ decl.annotations, a.key = key
  underlying : d.isPinned name decl = false → d.newtypes.Replaces decl.kind →
    other.body.underlying? = decl.body.underlying?

theorem findAnnotation?_isSome {key : ScopedName} {annotations : List Annotation} :
    (findAnnotation? key annotations).isSome = true ↔ ∃ a ∈ annotations, a.key = key := by
  simp [findAnnotation?]

theorem Decl.kind_eq_typeAlias {d : Decl} :
    d.kind = .typeAlias ↔ ∃ params te, d.body = .typeAlias params te := by
  cases shape : d.body with
  | struct params fields => simp [kind, shape]
  | union params fields =>
      simp only [kind, shape]
      split <;> simp
  | typeAlias params te => simp [kind, shape]
  | newtype params te default => simp [kind, shape]

theorem Decl.kind_eq_newtype {d : Decl} :
    d.kind = .newtype ↔ ∃ params te default, d.body = .newtype params te default := by
  cases shape : d.body with
  | struct params fields => simp [kind, shape]
  | union params fields =>
      simp only [kind, shape]
      split <;> simp
  | typeAlias params te => simp [kind, shape]
  | newtype params te default => simp [kind, shape]

namespace Expander

theorem definition?_eq (e : Expander) (decl : Decl) [Decidable (e.newtypes.Replaces decl.kind)] :
    e.definition? decl =
      if e.newtypes.Replaces decl.kind then
        decl.body.underlying?.map fun te => (decl.typeParams, te)
      else none := by
  cases shape : decl.body with
  | struct params fields => simp [definition?, shape, DeclBody.underlying?]
  | union params fields => simp [definition?, shape, DeclBody.underlying?]
  | typeAlias params te =>
      have kind : decl.kind = .typeAlias := Decl.kind_eq_typeAlias.mpr ⟨_, _, shape⟩
      rw [if_pos (.inl kind)]
      simp [definition?, shape, DeclBody.underlying?, Decl.typeParams, DeclBody.typeParams]
  | newtype params te default =>
      have kind : decl.kind = .newtype := Decl.kind_eq_newtype.mpr ⟨_, _, _, shape⟩
      by_cases expands : e.newtypes = .expand
      · rw [if_pos (.inr ⟨expands, kind⟩)]
        simp [definition?, shape, expands, DeclBody.underlying?, Decl.typeParams,
          DeclBody.typeParams]
      · have stands : ¬ e.newtypes.Replaces decl.kind := by
          simp [NewtypePolicy.Replaces, kind, expands]
        rw [if_neg stands]
        simp [definition?, shape, expands]

end Expander

namespace Decoder

def withResolver (d : Decoder) (resolver : Resolver) : Decoder :=
  { d with resolver }

/-- The resolver shows whatever the decoder's own one does, seen alike. -/
def Extends (d : Decoder) (resolver : Resolver) : Prop :=
  ∀ name decl, d.resolver name = some decl →
    ∃ other, resolver name = some other ∧ d.SeenAlike name decl other

def Lacks (d : Decoder) (resolver : Resolver) (failure : GenerationError) : Prop :=
  ∃ name, failure = .unresolvedReference name ∧ d.resolver name = none ∧ (resolver name).isSome

variable {d : Decoder} {resolver : Resolver} {name : ScopedName} {decl other : Decl}

theorem SeenAlike.isPinned_eq (alike : d.SeenAlike name decl other) :
    d.isPinned name other = d.isPinned name decl := by
  unfold isPinned
  cases custom : d.customTypeKey with
  | none => rfl
  | some key =>
      dsimp only
      congr 1
      rw [Bool.eq_iff_iff, findAnnotation?_isSome, findAnnotation?_isSome]
      exact alike.custom key custom

theorem SeenAlike.definition?_eq (alike : d.SeenAlike name decl other)
    (loose : d.isPinned name decl = false) :
    d.expander.definition? other = d.expander.definition? decl := by
  classical
  rw [Expander.definition?_eq, Expander.definition?_eq, alike.kind, alike.typeParams]
  split
  · next replaced => rw [alike.underlying loose replaced]
  · rfl

theorem headStep_agrees (extension : d.Extends resolver) (te : TypeExpr) :
    AgreesUnless (d.Lacks resolver) (d.headStep te) ((d.withResolver resolver).headStep te) := by
  rcases te with ⟨head, parameters⟩
  cases head with
  | primitive name => exact .refl _
  | typeParam name => exact .refl _
  | reference name =>
      simp only [headStep, withResolver]
      cases known : d.resolver name with
      | none =>
          cases found : resolver name with
          | none => exact .refl _
          | some other => exact .stopped ⟨name, rfl, known, by rw [found]; rfl⟩ _
      | some decl =>
          obtain ⟨other, found, alike⟩ := extension name decl known
          have pins : isPinned { d with resolver } name other = d.isPinned name decl :=
            alike.isPinned_eq
          simp only [found, pins]
          cases pinned : d.isPinned name decl with
          | true => exact .refl _
          | false =>
              have defined : Expander.definition? ⟨resolver, d.newtypes⟩ other =
                  Expander.definition? ⟨d.resolver, d.newtypes⟩ decl :=
                alike.definition?_eq pinned
              simp only [expander, Expander.step, known, found, defined]
              exact .refl _

theorem shape?_extends (extension : d.Extends resolver) (name : ScopedName) :
    (d.resolver name = none ∧ d.Lacks resolver (.unresolvedReference name)) ∨
      (d.withResolver resolver).shape? name = d.shape? name := by
  cases known : d.resolver name with
  | none =>
      cases found : resolver name with
      | none => exact .inr (by simp [shape?, withResolver, known, found])
      | some other => exact .inl ⟨rfl, name, rfl, known, by rw [found]; rfl⟩
  | some decl =>
      obtain ⟨other, found, alike⟩ := extension name decl known
      exact .inr (by simp [shape?, withResolver, known, found, alike.kind, alike.typeParams])

theorem decodeWithin_extends (extension : d.Extends resolver) (levels : Nat) (te : TypeExpr) :
    AgreesUnless (d.Lacks resolver) (d.decodeWithin levels te)
      ((d.withResolver resolver).decodeWithin levels te) := by
  induction levels generalizing te with
  | zero => exact .refl _
  | succ levels ih =>
      rw [decodeWithin_succ, decodeWithin_succ]
      apply AgreesUnless.bind (headStep_agrees extension te)
      intro expanded
      cases expanded with
      | some next => exact ih next
      | none => exact decodeParts_agrees (shape?_extends extension) ih te

/-- Fields of structs, payloads of unions, bodies that stand for themselves, other annotations and
declarations that were added change no decoding. -/
theorem decode_extends (d : Decoder) (resolver : Resolver) (extension : d.Extends resolver)
    (te : TypeExpr) :
    (∃ name, d.decode te = .error (.unresolvedReference name) ∧ d.resolver name = none ∧
      (resolver name).isSome) ∨
      (d.withResolver resolver).decode te = d.decode te := by
  rcases decodeWithin_extends extension (decodingLimit + 1) te with
    ⟨failure, stopped, name, rfl, unknown, found⟩ | same
  · exact .inl ⟨name, stopped, unknown, found⟩
  · exact .inr same.symm

end Decoder

namespace Sample

def catalogue (priceDoc : List Annotation) (item event : List Field) (stamp : TypeExpr)
    (more : List Decl) : Module :=
  moduleOf "shop"
    ([{ typeAlias "Price" ["T"] (nullable (param "T")) with annotations := priceDoc },
      struct "Item" item,
      ⟨"Event", .union [] event, []⟩,
      customNewtype "Stamp" [] stamp "Stamp"] ++ more)

def shop : Schema :=
  .ofModules
    [catalogue [] [field "cost" (named "shop" "Price" [prim "Int64"])]
      [field "sold" (named "shop" "Item" [])] (prim "Int64") []]

def reshapedShop : Schema :=
  .ofModules
    [commonDb,
     catalogue [⟨⟨"sys.annotations", "Doc"⟩, .string "What it costs"⟩] []
      [field "returned" (named "nowhere" "Missing" []), field "lost" (prim "Void")]
      (prim "String") [typeAlias "Item2" [] (named "shop" "Item2" [])]]

def shopDecoder : Decoder :=
  ⟨shop.get?, .expand, [], some customTypeMark.key⟩

def priced : TypeExpr :=
  named "shop" "Price"
    [⟨.primitive "StringMap", [named "shop" "Price" [named "shop" "Event" []]]⟩]

theorem shopDecoder_extends : shopDecoder.Extends reshapedShop.get? := by
  rintro ⟨moduleName, name⟩ decl found
  obtain ⟨m, stored, rfl, declared⟩ := Schema.get?_declared found
  obtain rfl : m = _ := List.mem_singleton.mp stored
  simp only [catalogue, moduleOf, List.append_nil, List.map_cons, List.map_nil, List.mem_cons,
    List.not_mem_nil, or_false, Prod.mk.injEq] at declared
  rcases declared with ⟨rfl, rfl⟩ | ⟨rfl, rfl⟩ | ⟨rfl, rfl⟩ | ⟨rfl, rfl⟩
  · exact ⟨_, rfl, rfl, rfl, by decide, fun _ _ => rfl⟩
  · exact ⟨_, rfl, rfl, rfl, by decide, fun _ _ => rfl⟩
  · exact ⟨_, rfl, rfl, rfl, by decide, fun _ _ => rfl⟩
  · exact ⟨_, rfl, rfl, rfl, by decide, fun loose => absurd loose (by decide)⟩

theorem reshapedShop_decodes_alike :
    shopDecoder.Extends reshapedShop.get? ∧
      (shopDecoder.withResolver reshapedShop.get?).decode priced =
        .ok (.nullable (.stringMap (.nullable (.reference ⟨"shop", "Event"⟩ .union [])))) := by
  have decodes : shopDecoder.decode priced =
      .ok (.nullable (.stringMap (.nullable (.reference ⟨"shop", "Event"⟩ .union [])))) := rfl
  refine ⟨shopDecoder_extends, ?_⟩
  rcases Decoder.decode_extends shopDecoder reshapedShop.get? shopDecoder_extends priced with
    ⟨name, failed, _⟩ | same
  · cases decodes.symm.trans failed
  · exact same.trans decodes

end Sample

end SchemaBindings
