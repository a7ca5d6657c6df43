import SchemaBindings.Artifact.Columns
import SchemaBindings.Proofs.Decoding.Derivation
import SchemaBindings.Sample.Protoapp

/-!
Newtype policies. A type that was decoded with its newtypes kept can be written back and decoded
once more with its newtypes expanded: that gives what the type it was decoded from gives.
-/

namespace SchemaBindings

namespace Decoded

mutual

def typeExpr : Decoded → TypeExpr
  | .primitive p => .primitive p.name
  | .vector elem => ⟨.primitive "Vector", [typeExpr elem]⟩
  | .stringMap elem => ⟨.primitive "StringMap", [typeExpr elem]⟩
  | .nullable elem => ⟨.primitive "Nullable", [typeExpr elem]⟩
  | .reference name _ parameters => ⟨.reference name, typeExprs parameters⟩

def typeExprs : List Decoded → List TypeExpr
  | [] => []
  | d :: rest => typeExpr d :: typeExprs rest

end

end Decoded

namespace Decoder

/-- The first comes of the second by expanding heads and dropping doubled nullables, anywhere in
it. -/
inductive Reduct (d : Decoder) : (reduced te : TypeExpr) → Prop where
  | parts {head : TypeHead} {reduced parameters : List TypeExpr}
      (each : List.Forall₂ (Reduct d) reduced parameters) :
      Reduct d ⟨head, reduced⟩ ⟨head, parameters⟩
  | expanded {reduced te next : TypeExpr} (step : d.headStep te = .ok (some next))
      (rest : Reduct d reduced next) : Reduct d reduced te
  | collapsed {elem inner : TypeExpr} (rest : Reduct d ⟨.primitive "Nullable", [elem]⟩ inner) :
      Reduct d ⟨.primitive "Nullable", [elem]⟩ ⟨.primitive "Nullable", [inner]⟩

variable {d : Decoder} {reduced parameters : List TypeExpr}

theorem argumentFor?_reduct (each : List.Forall₂ d.Reduct reduced parameters)
    (params : List String) (param : String) :
    Option.Rel (Option.Rel d.Reduct) (argumentFor? params reduced param)
      (argumentFor? params parameters param) := by
  unfold argumentFor?
  cases params.findIdx? (· == param) with
  | none => exact .none
  | some index =>
      refine .some ?_
      change Option.Rel d.Reduct reduced[index]? parameters[index]?
      by_cases inside : index < parameters.length
      · have within : index < reduced.length := each.length_eq ▸ inside
        rw [List.getElem?_eq_getElem inside, List.getElem?_eq_getElem within]
        exact .some (each.get within inside)
      · have outside : ¬ index < reduced.length := each.length_eq ▸ inside
        rw [List.getElem?_eq_none (Nat.le_of_not_lt inside),
          List.getElem?_eq_none (Nat.le_of_not_lt outside)]
        exact .none

section Substitution

variable (owner : ScopedName) (params : List String)

mutual

theorem substitute_reduct (each : List.Forall₂ d.Reduct reduced parameters) : ∀ (body : TypeExpr),
    Follows d.Reduct (substitute owner params reduced body)
      (substitute owner params parameters body)
  | ⟨.typeParam param, arguments⟩ => by
      rw [substitute, substitute]
      have argument := argumentFor?_reduct each params param
      generalize argumentFor? params reduced param = here at argument ⊢
      generalize argumentFor? params parameters param = there at argument ⊢
      cases argument with
      | none => exact .map (substituteAll_reduct each arguments) fun _ _ related => .parts related
      | some found =>
          dsimp only
          split
          · exact .error _ _
          · cases found with
            | none => exact .error _ _
            | some related => exact .ok related
  | ⟨.primitive name, arguments⟩ => by
      rw [substitute, substitute]
      exact .map (substituteAll_reduct each arguments) fun _ _ related => .parts related
  | ⟨.reference name, arguments⟩ => by
      rw [substitute, substitute]
      exact .map (substituteAll_reduct each arguments) fun _ _ related => .parts related

theorem substituteAll_reduct (each : List.Forall₂ d.Reduct reduced parameters) :
    ∀ (bodies : List TypeExpr),
    Follows (List.Forall₂ d.Reduct) (substituteAll owner params reduced bodies)
      (substituteAll owner params parameters bodies)
  | [] => .ok .nil
  | body :: rest => by
      rw [substituteAll, substituteAll]
      apply Follows.bind (substitute_reduct each body)
      intro _ _ first
      apply Follows.bind (substituteAll_reduct each rest)
      intro _ _ others
      exact .ok (.cons first others)

end

end Substitution

theorem headStep_reduct (each : List.Forall₂ d.Reduct reduced parameters) (head : TypeHead) :
    Follows (Option.Rel d.Reduct) (d.headStep ⟨head, reduced⟩) (d.headStep ⟨head, parameters⟩) := by
  unfold headStep
  cases head with
  | primitive name => exact .ok .none
  | typeParam name => exact .ok .none
  | reference name =>
      cases resolved : d.resolver name with
      | none =>
          simp only [resolved]
          exact .error _ _
      | some decl =>
          simp only [resolved]
          split
          · exact .ok .none
          · have known : d.expander.resolver name = some decl := resolved
            simp only [Expander.step, known, each.length_eq]
            cases d.expander.definition? decl with
            | none => exact .ok .none
            | some definition =>
                refine .bind (.refl _) ?_
                rintro _ _ rfl
                refine .bind (substitute_reduct _ _ each _) ?_
                intro _ _ related
                exact .ok (.some related)

theorem single_reduct (name : String) (each : List.Forall₂ d.Reduct reduced parameters) :
    Follows d.Reduct (single name reduced) (single name parameters) := by
  cases each with
  | nil => exact .error _ _
  | cons first rest =>
      cases rest with
      | nil => exact .ok first
      | cons second rest => exact .error _ _

theorem scalar_reduct (name : String) (each : List.Forall₂ d.Reduct reduced parameters) :
    Follows Eq (scalar name reduced) (scalar name parameters) := by
  have empty : reduced.isEmpty = parameters.isEmpty := by
    cases each with
    | nil => rfl
    | cons first rest => rfl
  unfold scalar
  rw [empty, each.length_eq]
  exact .refl _

theorem decodeParts_reduct {decodePart : TypeExpr → Except GenerationError Decoded}
    (part : ∀ te' te, d.Reduct te' te → Follows Eq (decodePart te') (decodePart te))
    (each : List.Forall₂ d.Reduct reduced parameters) (head : TypeHead) :
    Follows Eq (d.decodeParts decodePart ⟨head, reduced⟩)
      (d.decodeParts decodePart ⟨head, parameters⟩) := by
  cases head with
  | primitive name =>
      simp only [decodeParts]
      cases wrapper? name with
      | none => exact scalar_reduct name each
      | some wrap =>
          refine .bind (single_reduct name each) ?_
          intro te' te related
          refine .bind (part te' te related) ?_
          rintro elem _ rfl
          exact .ok rfl
  | typeParam name => exact .error _ _
  | reference name =>
      simp only [decodeParts]
      cases d.resolver name with
      | none => exact .error _ _
      | some decl =>
          simp only [each.length_eq]
          refine .bind (.refl _) ?_
          rintro _ _ rfl
          refine .bind (.mapM part each) ?_
          intro decoded others same
          rw [List.forall₂_eq_eq_eq] at same
          exact .ok (congrArg _ same)

theorem nullableOf_nullableOf (decoded : Decoded) :
    nullableOf (nullableOf decoded) = nullableOf decoded := by
  cases decoded with
  | nullable elem => rfl
  | primitive p => rfl
  | vector elem => rfl
  | stringMap elem => rfl
  | reference name kind parameters => rfl

theorem decodeWithin_nullable (d : Decoder) (levels : Nat) (elem : TypeExpr) :
    d.decodeWithin (levels + 1) ⟨.primitive "Nullable", [elem]⟩ =
      (d.decodeWithin levels elem).map nullableOf :=
  rfl

theorem nullableOf_decoded {levels : Nat} {elem : TypeExpr} {decoded : Decoded}
    (done : d.decodeWithin levels ⟨.primitive "Nullable", [elem]⟩ = .ok decoded) :
    nullableOf decoded = decoded := by
  cases levels with
  | zero => cases done
  | succ levels =>
      rw [decodeWithin_nullable] at done
      obtain ⟨part, _, rfl⟩ := map_eq_ok_iff.mp done
      exact nullableOf_nullableOf part

theorem decodeWithin_reduct {te te' : TypeExpr} (levels : Nat) (reduct : d.Reduct te' te) :
    Follows Eq (d.decodeWithin levels te') (d.decodeWithin levels te) := by
  induction levels generalizing te te' with
  | zero => exact .error _ _
  | succ levels ih =>
      have deeper : ∀ {decoded}, d.decodeWithin levels te' = .ok decoded →
          d.decodeWithin (levels + 1) te' = .ok decoded := fun done =>
        (decodeWithin_agrees d (Nat.le_succ levels) te').eq_ok done
      cases reduct with
      | @parts head reduced parameters each =>
          rw [decodeWithin_succ, decodeWithin_succ]
          refine .bind (headStep_reduct each head) ?_
          intro next' next related
          cases related with
          | none => exact decodeParts_reduct (fun _ _ => ih) each head
          | some related => exact ih related
      | @expanded _ _ next step rest =>
          intro decoded done
          rw [decodeWithin_succ, step] at done
          exact ⟨decoded, deeper ((ih rest).eq_ok done), rfl⟩
      | @collapsed elem inner rest =>
          intro decoded done
          rw [decodeWithin_nullable] at done
          obtain ⟨part, ran, rfl⟩ := map_eq_ok_iff.mp done
          have same := (ih rest).eq_ok ran
          exact ⟨part, deeper same, (nullableOf_decoded same).symm⟩

/-! Writing back what was decoded gives a reduct of what it was decoded from. -/

theorem Wraps.reduct {container : String} {elem made : Decoded} {te : TypeExpr}
    (wraps : Wraps container elem made) (reduct : d.Reduct elem.typeExpr te) :
    d.Reduct made.typeExpr ⟨.primitive container, [te]⟩ := by
  have alone : List.Forall₂ d.Reduct [elem.typeExpr] [te] := .cons reduct .nil
  cases wraps with
  | vector elem => exact .parts alone
  | stringMap elem => exact .parts alone
  | nullable once => exact .parts alone
  | collapsed inner => exact .collapsed reduct

mutual

theorem Derives.reduct {kept : Decoder}
    (steps : ∀ te next, kept.Expands te next → d.Expands te next) :
    ∀ {height : Nat} {te : TypeExpr} {decoded : Decoded},
      kept.Derives height te decoded → d.Reduct decoded.typeExpr te
  | _, _, _, .scalar p => .parts .nil
  | _, _, _, .container wraps element => wraps.reduct (element.reduct steps)
  | _, _, _, .expanded head rest =>
      .expanded (headStep_of_expands (steps _ _ head)) (rest.reduct steps)
  | _, _, _, .reference _ _ _ each => .parts (each.reduct steps)

theorem DerivesAll.reduct {kept : Decoder}
    (steps : ∀ te next, kept.Expands te next → d.Expands te next) :
    ∀ {height : Nat} {tes : List TypeExpr} {arguments : List Decoded},
      kept.DerivesAll height tes arguments →
        List.Forall₂ d.Reduct (Decoded.typeExprs arguments) tes
  | _, _, _, .nil => .nil
  | _, _, _, .cons first later => .cons (first.reduct steps) (later.reduct steps)

end

theorem Expands.of_nominal {kept : Decoder} (resolver : kept.resolver = d.resolver)
    (nominal : kept.newtypes = .nominal)
    (pins : ∀ name decl params body, d.resolver name = some decl →
      decl.body = .typeAlias params body → d.isPinned name decl = true →
      kept.isPinned name decl = true)
    {te next : TypeExpr} (head : kept.Expands te next) : d.Expands te next := by
  cases head with
  | @intro name decl parameters body _ resolved loose replaced underlying arity put =>
      rw [resolver] at resolved
      rcases replaced with isAlias | ⟨expands, _⟩
      · obtain ⟨params, aliased, shape⟩ := Decl.kind_eq_typeAlias.mp isAlias
        have stillLoose : ¬ d.Pins name decl := by
          intro pinned
          exact loose (isPinned_iff.mp
            (pins name decl params aliased resolved shape (isPinned_iff.mpr pinned)))
        exact .intro resolved stillLoose (.inl isAlias) underlying arity put
      · cases nominal.symm.trans expands

theorem decode_typeExpr_of_nominal {kept : Decoder} (resolver : kept.resolver = d.resolver)
    (nominal : kept.newtypes = .nominal)
    (pins : ∀ name decl params body, d.resolver name = some decl →
      decl.body = .typeAlias params body → d.isPinned name decl = true →
      kept.isPinned name decl = true)
    {te : TypeExpr} {named decoded : Decoded} (keeps : kept.decode te = .ok named)
    (done : d.decode te = .ok decoded) : d.decode named.typeExpr = .ok decoded := by
  obtain ⟨_, _, derived⟩ := derives_of_decodeWithin keeps
  have reduct : d.Reduct named.typeExpr te :=
    derived.reduct fun _ _ => Expands.of_nominal resolver nominal pins
  exact (decodeWithin_reduct _ reduct).eq_ok done

end Decoder

/-- No row keeps an alias that a column expands: where an instant is an alias, it is bound to a type
of its own. -/
def Schema.BindsInstant (s : Schema) : Prop :=
  ∀ decl params body, s.get? instantName = some decl → decl.body = .typeAlias params body →
    (findAnnotation? customTypeMark.key decl.annotations).isSome = true

theorem rowDecoder_columnDecoder {s : Schema} (bound : s.BindsInstant) {te : TypeExpr}
    {column row : Decoded} (columns : (columnDecoder s).decode te = .ok column)
    (rows : (rowDecoder s).decode te = .ok row) :
    (rowDecoder s).decode column.typeExpr = .ok row := by
  refine Decoder.decode_typeExpr_of_nominal ?_ ?_ ?_ columns rows
  · rfl
  · rfl
  intro name decl params body found shape pinned
  have same : name = instantName := by
    simpa [Decoder.isPinned, rowDecoder] using pinned
  subst same
  simpa [Decoder.isPinned, columnDecoder] using bound decl params body found shape

/--
What a type gives with newtypes expanded, the type it gives with newtypes kept gives as well. So
rows see the types of columns with their newtypes expanded, unless an instant is an alias that only
rows keep.
-/
theorem decode_factors :
    (∀ (resolver : Resolver) (nominal : List ScopedName) (customTypeKey : Option ScopedName)
      (te : TypeExpr) (kept expanded : Decoded),
      Decoder.decode ⟨resolver, .nominal, nominal, customTypeKey⟩ te = .ok kept →
      Decoder.decode ⟨resolver, .expand, nominal, customTypeKey⟩ te = .ok expanded →
      Decoder.decode ⟨resolver, .expand, nominal, customTypeKey⟩ kept.typeExpr = .ok expanded) ∧
    ∀ (s : Schema) (te : TypeExpr) (column row : Decoded), s.BindsInstant →
      (columnDecoder s).decode te = .ok column → (rowDecoder s).decode te = .ok row →
      (rowDecoder s).decode column.typeExpr = .ok row := by
  constructor
  · intro resolver nominal customTypeKey te kept expanded keeps expands
    refine Decoder.decode_typeExpr_of_nominal ?_ ?_ ?_ keeps expands
    · rfl
    · rfl
    · intro _ _ _ _ _ _ pinned
      exact pinned
  · intro s te column row bound columns rows
    exact rowDecoder_columnDecoder bound columns rows

namespace Sample

/-- Newtypes over aliases of nullables, one with a parameter it does not use, one bound to a type of
its own. -/
def boxes : Schema :=
  .ofModules
    [moduleOf "boxes"
       [typeAlias "Maybe" ["T"] (nullable (param "T")),
        ⟨"Box", .newtype ["T"]
          (named "boxes" "Maybe" [named "boxes" "Maybe" [param "T"]]) none, []⟩,
        ⟨"Key", .newtype ["T"] (prim "String") none, []⟩,
        customNewtype "Stamp" [] (prim "Int64") "Stamp",
        typeAlias "Pair" ["K", "V"]
          (named "common.db" "WithId" [named "boxes" "Box" [param "K"], vector (param "V")])],
     commonDb]

def stampedBox : TypeExpr := named "boxes" "Box" [named "boxes" "Stamp" []]

def boxedPair : TypeExpr :=
  named "boxes" "Pair" [named "boxes" "Maybe" [stampedBox], named "boxes" "Key" [stampedBox]]

def stamp : Decoded := .reference ⟨"boxes", "Stamp"⟩ .newtype []

def keptBox (elem : Decoded) : Decoded := .reference ⟨"boxes", "Box"⟩ .newtype [elem]

def keptPair : Decoded :=
  .reference ⟨"common.db", "WithId"⟩ .struct
    [keptBox (.nullable (keptBox stamp)),
     .vector (.reference ⟨"boxes", "Key"⟩ .newtype [keptBox stamp])]

def expandedPair : Decoded :=
  .reference ⟨"common.db", "WithId"⟩ .struct [.nullable stamp, .vector (.primitive .string)]

def pairRow : Decoded :=
  .reference ⟨"common.db", "WithId"⟩ .struct
    [.nullable (.primitive .int64), .vector (.primitive .string)]

theorem boxes_bindsInstant : boxes.BindsInstant := by
  intro decl params body found
  have absent : boxes.get? instantName = none := by rfl
  cases absent.symm.trans found

theorem boxedPair_factors :
    Decoder.decode ⟨boxes.get?, .nominal, [], some customTypeMark.key⟩ boxedPair = .ok keptPair ∧
      Decoder.decode ⟨boxes.get?, .expand, [], some customTypeMark.key⟩ keptPair.typeExpr =
        .ok expandedPair ∧
      boxes.BindsInstant ∧ (rowDecoder boxes).decode keptPair.typeExpr = .ok pairRow := by
  have keeps : (columnDecoder boxes).decode boxedPair = .ok keptPair := by rfl
  have expands : Decoder.decode ⟨boxes.get?, .expand, [], some customTypeMark.key⟩ boxedPair =
      .ok expandedPair := by rfl
  have rows : (rowDecoder boxes).decode boxedPair = .ok pairRow := by rfl
  obtain ⟨general, ofSchemas⟩ := decode_factors
  exact ⟨keeps, general _ _ _ _ _ _ keeps expands, boxes_bindsInstant,
    ofSchemas _ _ _ _ boxes_bindsInstant keeps rows⟩

def clock : Schema :=
  .ofModules [moduleOf "common" [typeAlias "Instant" [] (prim "Int64")]]

/-- The column is a number, and the row stays an instant. -/
theorem clock_splits :
    (columnDecoder clock).decode (named "common" "Instant" []) = .ok (.primitive .int64) ∧
      (rowDecoder clock).decode (named "common" "Instant" []) =
        .ok (.reference instantName .typeAlias []) ∧
      (rowDecoder clock).decode (Decoded.typeExpr (.primitive .int64)) ≠
        .ok (.reference instantName .typeAlias []) := by
  have number : (rowDecoder clock).decode (Decoded.typeExpr (.primitive .int64)) =
      .ok (.primitive .int64) := by rfl
  refine ⟨by rfl, by rfl, ?_⟩
  rw [number]
  nofun

end Sample

end SchemaBindings
