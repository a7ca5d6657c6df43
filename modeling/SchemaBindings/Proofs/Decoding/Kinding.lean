import SchemaBindings.Proofs.Decoding.HeadStep
import SchemaBindings.Sample.Protoapp

/-!
Well-kinded type expressions. Expanding an alias whose body is well-kinded keeps a type well-kinded,
and decoding one without free parameters gives a type unless it stops at the depth limit.
-/

namespace SchemaBindings

open GenerationError (IsAliasCycle)

/-- Every reference resolves and has as many arguments as its declaration has parameters, containers
have one argument and scalars none; only the parameters in `bound` occur, and they stand alone. -/
inductive WellKinded (resolver : Resolver) (bound : List String) : TypeExpr → Prop where
  | reference {name : ScopedName} {decl : Decl} {parameters : List TypeExpr}
      (resolved : resolver name = some decl) (arity : parameters.length = decl.typeParams.length)
      (arguments : ∀ te ∈ parameters, WellKinded resolver bound te) :
      WellKinded resolver bound ⟨.reference name, parameters⟩
  | container {name : String} {elem : TypeExpr} (known : name ∈ ["Vector", "StringMap", "Nullable"])
      (argument : WellKinded resolver bound elem) :
      WellKinded resolver bound ⟨.primitive name, [elem]⟩
  | scalar (p : Primitive) : WellKinded resolver bound ⟨.primitive p.name, []⟩
  | typeParam {name : String} (present : name ∈ bound) :
      WellKinded resolver bound ⟨.typeParam name, []⟩

/-- A body that may be expanded is well-kinded under the parameters of its declaration. -/
def WellKindedBody (resolver : Resolver) (newtypes : NewtypePolicy) : DeclBody → Prop
  | .typeAlias params body => WellKinded resolver params body
  | .newtype params body _ => newtypes = .expand → WellKinded resolver params body
  | _ => True

def WellKindedBodies (resolver : Resolver) (newtypes : NewtypePolicy) : Prop :=
  ∀ name decl, resolver name = some decl → WellKindedBody resolver newtypes decl.body

variable {resolver : Resolver} {newtypes : NewtypePolicy} {bound params : List String}
  {args : List TypeExpr} {te : TypeExpr}

theorem substituteAll_eq_mapM (owner : ScopedName) (params : List String)
    (args tes : List TypeExpr) :
    substituteAll owner params args tes = tes.mapM (substitute owner params args) := by
  induction tes with
  | nil => rfl
  | cons te tes ih =>
      rw [List.mapM_cons, ← ih]
      rfl

theorem argumentFor?_of_mem {param : String} (present : param ∈ params)
    (length : args.length = params.length) :
    ∃ te ∈ args, argumentFor? params args param = some (some te) := by
  have found : (params.findIdx? (· == param)).isSome := by
    rw [List.findIdx?_isSome]
    exact List.any_eq_true.mpr ⟨param, present, by simp⟩
  obtain ⟨index, position⟩ := Option.isSome_iff_exists.mp found
  have inside : index < args.length := by
    have := (List.findIdx?_eq_some_iff_getElem.mp position).1
    omega
  refine ⟨args[index], List.getElem_mem inside, ?_⟩
  simp [argumentFor?, position, List.getElem?_eq_getElem inside]

/-- Arguments that are well-kinded where they stand keep the body well-kinded there. -/
theorem substitute_wellKinded (owner : ScopedName) (length : args.length = params.length)
    (arguments : ∀ te ∈ args, WellKinded resolver bound te) (body : WellKinded resolver params te) :
    ∃ result, substitute owner params args te = .ok result ∧ WellKinded resolver bound result := by
  induction body with
  | @reference name decl parameters resolved arity _ ih =>
      obtain ⟨tes, run, same, kinded⟩ := mapM_ok_of_forall ih
      refine ⟨⟨.reference name, tes⟩, ?_, .reference resolved (same.trans arity) kinded⟩
      rw [substitute, substituteAll_eq_mapM, run]
      rfl
  | @container name elem known _ ih =>
      obtain ⟨te, run, kinded⟩ := ih
      refine ⟨⟨.primitive name, [te]⟩, ?_, .container known kinded⟩
      rw [substitute, substituteAll, run]
      rfl
  | scalar p => exact ⟨_, rfl, .scalar p⟩
  | typeParam present =>
      obtain ⟨te, member, found⟩ := argumentFor?_of_mem present length
      exact ⟨te, by simp [substitute, found], arguments te member⟩

theorem Expander.definition?_wellKinded {e : Expander} {name : ScopedName} {decl : Decl}
    {body : TypeExpr} (bodies : WellKindedBodies e.resolver e.newtypes)
    (resolved : e.resolver name = some decl) (defined : e.definition? decl = some (params, body)) :
    params = decl.typeParams ∧ WellKinded e.resolver params body := by
  have kinded := bodies name decl resolved
  rcases decl with ⟨declName, shape, annotations⟩
  cases shape with
  | struct params fields => cases defined
  | union params fields => cases defined
  | typeAlias params body =>
      cases defined
      exact ⟨rfl, kinded⟩
  | newtype params body default =>
      by_cases expands : e.newtypes = .expand
      · simp only [definition?, if_pos expands] at defined
        cases defined
        exact ⟨rfl, kinded expands⟩
      · simp only [definition?, if_neg expands] at defined
        cases defined

theorem Expander.step_wellKinded {e : Expander} (bodies : WellKindedBodies e.resolver e.newtypes)
    (kinded : WellKinded e.resolver bound te) :
    ∃ expanded, e.step te = .ok expanded ∧ ∀ next ∈ expanded, WellKinded e.resolver bound next := by
  cases kinded with
  | @reference name decl parameters resolved arity arguments =>
      cases defined : e.definition? decl with
      | none => exact ⟨none, by simp [step, resolved, defined], by simp⟩
      | some definition =>
          obtain ⟨params, body⟩ := definition
          obtain ⟨rfl, bodyKinded⟩ := definition?_wellKinded bodies resolved defined
          obtain ⟨next, run, nextKinded⟩ := substitute_wellKinded name arity arguments bodyKinded
          refine ⟨some next, ?_, by simpa using nextKinded⟩
          simp only [step, resolved, defined, arity, checkArity_self, run]
          rfl
  | container known argument => exact ⟨none, rfl, by simp⟩
  | scalar p => exact ⟨none, rfl, by simp⟩
  | typeParam present => exact ⟨none, rfl, by simp⟩

namespace Decoder

variable {d : Decoder}

theorem headStep_wellKinded (bodies : WellKindedBodies d.resolver d.newtypes)
    (kinded : WellKinded d.resolver bound te) :
    ∃ expanded, d.headStep te = .ok expanded ∧
      ∀ next ∈ expanded, WellKinded d.resolver bound next := by
  cases kinded with
  | @reference name decl parameters resolved arity arguments =>
      by_cases pinned : d.isPinned name decl
      · exact ⟨none, by simp [headStep, resolved, pinned], by simp⟩
      · obtain ⟨expanded, run, expandedKinded⟩ := Expander.step_wellKinded (e := d.expander) bodies
          (.reference resolved arity arguments)
        exact ⟨expanded, by simp [headStep, resolved, pinned, run], expandedKinded⟩
  | container known argument => exact ⟨none, rfl, by simp⟩
  | scalar p => exact ⟨none, rfl, by simp⟩
  | typeParam present => exact ⟨none, rfl, by simp⟩

theorem wrapper?_isSome {name : String} (known : name ∈ ["Vector", "StringMap", "Nullable"]) :
    ∃ wrap, wrapper? name = some wrap := by
  simp only [List.mem_cons, List.not_mem_nil, or_false] at known
  rcases known with rfl | rfl | rfl
  · exact ⟨_, rfl⟩
  · exact ⟨_, rfl⟩
  · exact ⟨_, rfl⟩

theorem wrapper?_scalar (p : Primitive) : wrapper? p.name = none := by
  cases p <;> rfl

theorem scalar_name (p : Primitive) : scalar p.name [] = .ok (.primitive p) := by
  cases p <;> rfl

theorem decodeParts_failsOnly {decodePart : TypeExpr → Except GenerationError Decoded}
    (each : ∀ part, WellKinded d.resolver [] part → FailsOnly IsAliasCycle (decodePart part))
    (kinded : WellKinded d.resolver [] te) :
    FailsOnly IsAliasCycle (d.decodeParts decodePart te) := by
  cases kinded with
  | @reference name decl parameters resolved arity arguments =>
      simp only [decodeParts, resolved, arity, checkArity_self]
      refine FailsOnly.bind (.ok ()) ?_
      intro _ _
      refine FailsOnly.bind (.mapM fun part member => each part (arguments part member)) ?_
      intro decoded _
      exact .ok _
  | @container name elem known argument =>
      obtain ⟨wrap, found⟩ := wrapper?_isSome known
      simp only [decodeParts, found, single]
      refine FailsOnly.bind (.ok elem) ?_
      intro part same
      cases same
      refine FailsOnly.bind (each elem argument) ?_
      intro decoded _
      exact .ok _
  | scalar p =>
      simp only [decodeParts, wrapper?_scalar, scalar_name]
      exact .ok _
  | typeParam present => cases present

theorem decodeWithin_failsOnly (bodies : WellKindedBodies d.resolver d.newtypes) (levels : Nat)
    (kinded : WellKinded d.resolver [] te) :
    FailsOnly IsAliasCycle (d.decodeWithin levels te) := by
  induction levels generalizing te with
  | zero => exact .error ⟨_, _, rfl⟩
  | succ levels ih =>
      obtain ⟨expanded, run, expandedKinded⟩ := headStep_wellKinded bodies kinded
      rw [decodeWithin_succ, run]
      cases expanded with
      | some next => exact ih (expandedKinded next rfl)
      | none => exact decodeParts_failsOnly (fun part partKinded => ih partKinded) kinded

/-- Where bodies are well-kinded, no decoding of a closed well-kinded type meets a reference, an
arity or a primitive it cannot handle. -/
theorem decode_wellKinded (bodies : WellKindedBodies d.resolver d.newtypes)
    (kinded : WellKinded d.resolver [] te) :
    (∃ decoded, d.decode te = .ok decoded) ∨
      ∃ name limit, d.decode te = .error (.aliasCycle name limit) := by
  rcases (decodeWithin_failsOnly bodies (decodingLimit + 1) kinded).ok_or_error with
    done | ⟨e, failed, name, limit, rfl⟩
  · exact .inl done
  · exact .inr ⟨name, limit, failed⟩

end Decoder

theorem wellKindedBodies_of_declared {s : Schema}
    (kinded : ∀ m ∈ s.modules, ∀ entry ∈ m.decls, WellKindedBody s.get? newtypes entry.2.body) :
    WellKindedBodies s.get? newtypes := by
  intro name decl found
  obtain ⟨m, member, _, declared⟩ := Schema.get?_declared found
  exact kinded m member (name.name, decl) declared

namespace Sample

theorem appUserId_wellKinded : WellKinded protoapp.get? bound appUserId :=
  .reference rfl rfl (by simp)

theorem unit_wellKinded : WellKinded protoapp.get? bound unit :=
  .reference rfl rfl (by simp)

theorem keyOf_wellKinded {name : String} {decl : Decl}
    (declared : protoapp.get? ⟨"protoapp.db", name⟩ = some decl) (plain : decl.typeParams = []) :
    WellKinded protoapp.get? bound (keyOf name) := by
  have argument : WellKinded protoapp.get? bound (named "protoapp.db" name []) :=
    .reference declared (by rw [plain]; rfl) (by simp)
  exact .reference rfl rfl (by simpa using argument)

theorem protoapp_wellKindedBodies : WellKindedBodies protoapp.get? .expand := by
  apply wellKindedBodies_of_declared
  intro m member
  change m ∈ [sysTypes, common, commonDb, commonHttp, protoappDb, protoappOps, protoappUi] at member
  simp only [List.mem_cons, List.not_mem_nil, or_false] at member
  rcases member with rfl | rfl | rfl | rfl | rfl | rfl | rfl
  · simp [sysTypes, moduleOf, WellKindedBody]
  · simpa [common, moduleOf, customNewtype, WellKindedBody] using .scalar .int64
  · simpa [commonDb, moduleOf, customNewtype, genericStruct, WellKindedBody] using .scalar .string
  · simp [commonHttp, moduleOf, genericStruct, struct, WellKindedBody]
  · simp only [protoappDb, moduleOf, typeAlias, struct, table, enumeration, List.map_cons,
      List.map_nil, List.forall_mem_cons, WellKindedBody, true_and]
    refine ⟨keyOf_wellKinded rfl rfl, keyOf_wellKinded rfl rfl, ?_⟩
    simpa using .container (by simp) (.scalar .int32)
  · simp [protoappOps, moduleOf, enumeration, struct, table, WellKindedBody]
  · have body : WellKinded protoapp.get? ["I", "O"] (post (param "I") (param "O")) :=
      .reference rfl rfl (by simpa using ⟨.typeParam (by simp), .typeParam (by simp)⟩)
    simpa [protoappUi, moduleOf, struct, typeAlias, genericStruct, WellKindedBody] using body

def userUpdate : TypeExpr :=
  ui "AdminReq" [named "common.db" "WithId" [nullable appUserId, vector (keyOf "Message")], unit]

theorem userUpdate_wellKinded : WellKinded protoapp.get? [] userUpdate := by
  have id : WellKinded protoapp.get? [] (nullable appUserId) :=
    .container (by simp) appUserId_wellKinded
  have value : WellKinded protoapp.get? [] (vector (keyOf "Message")) :=
    .container (by simp) (keyOf_wellKinded rfl rfl)
  have withId : WellKinded protoapp.get? []
      (named "common.db" "WithId" [nullable appUserId, vector (keyOf "Message")]) :=
    .reference rfl rfl (by simpa using ⟨id, value⟩)
  exact .reference rfl rfl (by simpa using ⟨withId, unit_wellKinded⟩)

def keyDecoder : Decoder :=
  ⟨protoapp.get?, .expand, [⟨"common.db", "DbKey"⟩], none⟩

theorem keyDecoder_userUpdate :
    WellKindedBodies keyDecoder.resolver keyDecoder.newtypes ∧
      WellKinded keyDecoder.resolver [] userUpdate ∧
      ((∃ decoded, keyDecoder.decode userUpdate = .ok decoded) ∨
        ∃ name limit, keyDecoder.decode userUpdate = .error (.aliasCycle name limit)) :=
  ⟨protoapp_wellKindedBodies, userUpdate_wellKinded,
    Decoder.decode_wellKinded protoapp_wellKindedBodies userUpdate_wellKinded⟩

end Sample

end SchemaBindings
