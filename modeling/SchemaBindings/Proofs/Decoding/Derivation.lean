import SchemaBindings.Proofs.Decoding.Locality

/-!
Decoding as a relation. Its rules know no limit: a type is related to a canonical type by a
derivation of any height, and by at most one. A decoder with enough levels for the height finds the
canonical type, and one with fewer gives up as on a cycle of aliases.
-/

namespace SchemaBindings

theorem NewtypePolicy.Replaces.underlying {newtypes : NewtypePolicy} {decl : Decl}
    (replaced : newtypes.Replaces decl.kind) : ∃ body, decl.body.underlying? = some body := by
  rcases replaced with isAlias | ⟨_, isNewtype⟩
  · obtain ⟨_, body, shape⟩ := Decl.kind_eq_typeAlias.mp isAlias
    exact ⟨body, by rw [shape]; rfl⟩
  · obtain ⟨_, body, _, shape⟩ := Decl.kind_eq_newtype.mp isNewtype
    exact ⟨body, by rw [shape]; rfl⟩

namespace Decoder

def Pins (d : Decoder) (name : ScopedName) (decl : Decl) : Prop :=
  name ∈ d.nominal ∨ ∃ key ∈ d.customTypeKey, ∃ a ∈ decl.annotations, a.key = key

def Keeps (d : Decoder) (name : ScopedName) (decl : Decl) : Prop :=
  d.newtypes.Replaces decl.kind → d.Pins name decl

/-- One expansion of the head: the underlying type with the arguments put in. -/
inductive Expands (d : Decoder) : TypeExpr → TypeExpr → Prop where
  | intro {name : ScopedName} {decl : Decl} {parameters : List TypeExpr} {body next : TypeExpr}
      (resolved : d.resolver name = some decl) (loose : ¬ d.Pins name decl)
      (replaced : d.newtypes.Replaces decl.kind) (underlying : decl.body.underlying? = some body)
      (arity : parameters.length = decl.typeParams.length)
      (put : substitute name decl.typeParams parameters body = .ok next) :
      Expands d ⟨.reference name, parameters⟩ next

inductive Wraps : (container : String) → (elem made : Decoded) → Prop where
  | vector (elem : Decoded) : Wraps "Vector" elem (.vector elem)
  | stringMap (elem : Decoded) : Wraps "StringMap" elem (.stringMap elem)
  | nullable {elem : Decoded} (once : ∀ inner, elem ≠ .nullable inner) :
      Wraps "Nullable" elem (.nullable elem)
  | collapsed (inner : Decoded) : Wraps "Nullable" (.nullable inner) (.nullable inner)

mutual

/-- The rules of decoding. The height counts the arguments of containers, the arguments of
references and the expansions of heads on the longest way down. -/
inductive Derives (d : Decoder) : (height : Nat) → TypeExpr → Decoded → Prop where
  | scalar (p : Primitive) : Derives d 0 ⟨.primitive p.name, []⟩ (.primitive p)
  | container {height : Nat} {container : String} {te : TypeExpr} {elem made : Decoded}
      (wraps : Wraps container elem made) (element : Derives d height te elem) :
      Derives d (height + 1) ⟨.primitive container, [te]⟩ made
  | expanded {height : Nat} {te next : TypeExpr} {decoded : Decoded} (head : d.Expands te next)
      (rest : Derives d height next decoded) : Derives d (height + 1) te decoded
  | reference {height : Nat} {name : ScopedName} {decl : Decl} {parameters : List TypeExpr}
      {arguments : List Decoded} (resolved : d.resolver name = some decl)
      (kept : d.Keeps name decl) (arity : parameters.length = decl.typeParams.length)
      (each : DerivesAll d height parameters arguments) :
      Derives d height ⟨.reference name, parameters⟩ (.reference name decl.kind arguments)

/-- Arguments one by one; the height is one more than that of the tallest, if there is one. -/
inductive DerivesAll (d : Decoder) : (height : Nat) → List TypeExpr → List Decoded → Prop where
  | nil : DerivesAll d 0 [] []
  | cons {height others : Nat} {te : TypeExpr} {tes : List TypeExpr} {decoded : Decoded}
      {rest : List Decoded} (first : Derives d height te decoded)
      (later : DerivesAll d others tes rest) :
      DerivesAll d (max (height + 1) others) (te :: tes) (decoded :: rest)

end

variable {d : Decoder} {name : ScopedName} {decl : Decl} {parameters : List TypeExpr}
  {te next : TypeExpr} {decoded : Decoded} {height levels : Nat}

theorem isPinned_iff : d.isPinned name decl = true ↔ d.Pins name decl := by
  unfold isPinned Pins
  cases d.customTypeKey with
  | none => simp
  | some key =>
      rw [Bool.or_eq_true, List.contains_iff_mem, findAnnotation?_isSome]
      simp [eq_comm, and_comm]

theorem keeps_or_expands (name : ScopedName) (decl : Decl) :
    d.Keeps name decl ∨ (¬ d.Pins name decl ∧ d.newtypes.Replaces decl.kind) := by
  by_cases replaced : d.newtypes.Replaces decl.kind
  · by_cases pinned : d.Pins name decl
    · exact .inl fun _ => pinned
    · exact .inr ⟨pinned, replaced⟩
  · exact .inl fun other => absurd other replaced

theorem headStep_of_keeps (resolved : d.resolver name = some decl) (kept : d.Keeps name decl) :
    d.headStep ⟨.reference name, parameters⟩ = .ok none := by
  classical
  simp only [headStep, resolved]
  split
  · rfl
  · next loose =>
      have stands : ¬ d.newtypes.Replaces decl.kind :=
        fun replaced => loose (isPinned_iff.mpr (kept replaced))
      have undefined : d.expander.definition? decl = none := by
        rw [Expander.definition?_eq]
        exact if_neg stands
      have known : d.expander.resolver name = some decl := resolved
      simp only [Expander.step, known, undefined]

theorem headStep_of_replaced {body : TypeExpr} (resolved : d.resolver name = some decl)
    (loose : ¬ d.Pins name decl) (replaced : d.newtypes.Replaces decl.kind)
    (underlying : decl.body.underlying? = some body) :
    d.headStep ⟨.reference name, parameters⟩ = (do
      checkArity name decl.typeParams.length parameters.length
      return some (← substitute name decl.typeParams parameters body)) := by
  classical
  have defined : d.expander.definition? decl = some (decl.typeParams, body) := by
    rw [Expander.definition?_eq, underlying]
    exact if_pos replaced
  have known : d.expander.resolver name = some decl := resolved
  simp only [headStep, resolved, if_neg (mt isPinned_iff.mp loose), Expander.step, known, defined]

theorem headStep_of_expands (head : d.Expands te next) : d.headStep te = .ok (some next) := by
  cases head with
  | intro resolved loose replaced underlying arity put =>
      rw [headStep_of_replaced resolved loose replaced underlying, arity, checkArity_self, put]
      rfl

theorem expands_of_headStep (stepped : d.headStep te = .ok (some next)) : d.Expands te next := by
  rcases te with ⟨head, parameters⟩
  cases head with
  | primitive name => cases stepped
  | typeParam name => cases stepped
  | reference name =>
      cases resolved : d.resolver name with
      | none =>
          simp only [headStep, resolved] at stepped
          cases stepped
      | some decl =>
          rcases d.keeps_or_expands name decl with kept | ⟨loose, replaced⟩
          · rw [headStep_of_keeps resolved kept] at stepped
            cases stepped
          · obtain ⟨body, underlying⟩ := replaced.underlying
            rw [headStep_of_replaced resolved loose replaced underlying] at stepped
            obtain ⟨_, checked, stepped⟩ := bind_eq_ok_iff.mp stepped
            obtain ⟨expanded, put, made⟩ := bind_eq_ok_iff.mp stepped
            cases made
            exact .intro resolved loose replaced underlying (checkArity_eq_ok_iff.mp checked) put

theorem keeps_of_headStep (resolved : d.resolver name = some decl)
    (stands : d.headStep ⟨.reference name, parameters⟩ = .ok none) : d.Keeps name decl := by
  rcases d.keeps_or_expands name decl with kept | ⟨loose, replaced⟩
  · exact kept
  · obtain ⟨body, underlying⟩ := replaced.underlying
    rw [headStep_of_replaced resolved loose replaced underlying] at stands
    obtain ⟨_, _, stands⟩ := bind_eq_ok_iff.mp stands
    obtain ⟨_, _, made⟩ := bind_eq_ok_iff.mp stands
    cases made

theorem Expands.unique {other : TypeExpr} (head : d.Expands te next)
    (otherHead : d.Expands te other) : next = other := by
  have same := (headStep_of_expands head).symm.trans (headStep_of_expands otherHead)
  exact Option.some.inj (Except.ok.inj same)

theorem wraps_iff {container : String} {elem made : Decoded} :
    Wraps container elem made ↔ ∃ wrap, wrapper? container = some wrap ∧ wrap elem = made := by
  constructor
  · intro wraps
    cases wraps with
    | vector elem => exact ⟨.vector, rfl, rfl⟩
    | stringMap elem => exact ⟨.stringMap, rfl, rfl⟩
    | nullable once =>
        refine ⟨nullableOf, rfl, ?_⟩
        cases elem with
        | nullable inner => exact absurd rfl (once inner)
        | primitive p => rfl
        | vector elem => rfl
        | stringMap elem => rfl
        | reference name kind arguments => rfl
    | collapsed inner => exact ⟨nullableOf, rfl, rfl⟩
  · rintro ⟨wrap, found, rfl⟩
    unfold wrapper? at found
    split at found
    · next isVector =>
        cases found
        exact isVector ▸ .vector elem
    · split at found
      · next isStringMap =>
          cases found
          exact isStringMap ▸ .stringMap elem
      · split at found
        · next isNullable =>
            cases found
            subst isNullable
            cases elem with
            | nullable inner => exact .collapsed inner
            | primitive p => exact .nullable nofun
            | vector elem => exact .nullable nofun
            | stringMap elem => exact .nullable nofun
            | reference name kind arguments => exact .nullable nofun
        · cases found

/-! Each rule as an equation between a decoding and those of its parts. -/

theorem decodeWithin_container {container : String} {wrap : Decoded → Decoded}
    (found : wrapper? container = some wrap) (levels : Nat) (te : TypeExpr) :
    d.decodeWithin (levels + 1) ⟨.primitive container, [te]⟩ = (do
      return wrap (← d.decodeWithin levels te)) := by
  rw [decodeWithin_succ]
  simp only [headStep, decodeParts, found]
  rfl

theorem decodeWithin_scalar (p : Primitive) (levels : Nat) :
    d.decodeWithin (levels + 1) ⟨.primitive p.name, []⟩ = .ok (.primitive p) := by
  cases p <;> rfl

theorem decodeWithin_expanded (head : d.Expands te next) (levels : Nat) :
    d.decodeWithin (levels + 1) te = d.decodeWithin levels next := by
  rw [decodeWithin_succ, headStep_of_expands head]
  rfl

theorem decodeWithin_reference (resolved : d.resolver name = some decl) (kept : d.Keeps name decl)
    (arity : parameters.length = decl.typeParams.length) (levels : Nat) :
    d.decodeWithin (levels + 1) ⟨.reference name, parameters⟩ = (do
      return .reference name decl.kind (← parameters.mapM (d.decodeWithin levels))) := by
  rw [decodeWithin_succ, headStep_of_keeps resolved kept]
  simp only [decodeParts, resolved, arity, checkArity_self]
  rfl

mutual

theorem Derives.decodeWithin_eq : ∀ {height : Nat} {te : TypeExpr} {decoded : Decoded},
    d.Derives height te decoded → ∀ levels, height ≤ levels →
      d.decodeWithin (levels + 1) te = .ok decoded
  | _, _, _, .scalar p, levels, _ => decodeWithin_scalar p levels
  | _, _, _, .container wraps element, levels + 1, enough => by
      obtain ⟨wrap, found, rfl⟩ := wraps_iff.mp wraps
      rw [decodeWithin_container found, element.decodeWithin_eq levels (by omega)]
      rfl
  | _, _, _, .expanded head rest, levels + 1, enough => by
      rw [decodeWithin_expanded head, rest.decodeWithin_eq levels (by omega)]
  | _, _, _, .reference resolved kept arity each, levels, enough => by
      rw [decodeWithin_reference resolved kept arity, each.mapM_eq levels enough]
      rfl

theorem DerivesAll.mapM_eq : ∀ {height : Nat} {tes : List TypeExpr} {decoded : List Decoded},
    d.DerivesAll height tes decoded → ∀ levels, height ≤ levels →
      tes.mapM (d.decodeWithin levels) = .ok decoded
  | _, _, _, .nil, _, _ => rfl
  | _, _, _, .cons _ _, 0, enough => by omega
  | _, _, _, .cons first later, levels + 1, enough => by
      rw [List.mapM_cons, first.decodeWithin_eq levels (by omega),
        later.mapM_eq (levels + 1) (by omega)]
      rfl

end

mutual

/-- No more levels than the height are too few, and nothing else goes wrong before that. -/
theorem Derives.exceeds : ∀ {height : Nat} {te : TypeExpr} {decoded : Decoded},
    d.Derives height te decoded → ∀ levels, levels ≤ height →
      ∃ name, d.decodeWithin levels te = .error (.aliasCycle name decodingLimit)
  | _, te, _, _, 0, _ => ⟨te.text, rfl⟩
  | _, _, _, .container wraps element, levels + 1, short => by
      obtain ⟨wrap, found, rfl⟩ := wraps_iff.mp wraps
      obtain ⟨name, failed⟩ := element.exceeds levels (by omega)
      exact ⟨name, by rw [decodeWithin_container found, failed]; rfl⟩
  | _, _, _, .expanded head rest, levels + 1, short => by
      obtain ⟨name, failed⟩ := rest.exceeds levels (by omega)
      exact ⟨name, by rw [decodeWithin_expanded head, failed]⟩
  | _, _, _, .reference resolved kept arity each, levels + 1, short => by
      obtain ⟨name, failed⟩ := each.exceeds levels short
      exact ⟨name, by rw [decodeWithin_reference resolved kept arity, failed]; rfl⟩

/-- The first argument that is too tall stops the rest, and the ones before it are found. -/
theorem DerivesAll.exceeds : ∀ {height : Nat} {tes : List TypeExpr} {decoded : List Decoded},
    d.DerivesAll height tes decoded → ∀ levels, levels < height →
      ∃ name, tes.mapM (d.decodeWithin levels) = .error (.aliasCycle name decodingLimit)
  | _, _, _, .nil, _, short => by omega
  | _, _, _, @DerivesAll.cons _ height _ _ _ _ _ first later, levels, short => by
      rw [List.mapM_cons]
      rcases Nat.lt_or_ge height levels with found | tall
      · obtain ⟨levels, rfl⟩ := Nat.exists_eq_add_of_lt found
        obtain ⟨name, failed⟩ := later.exceeds (height + levels + 1) (by omega)
        exact ⟨name, by rw [first.decodeWithin_eq _ (Nat.le_add_right ..), failed]; rfl⟩
      · obtain ⟨name, failed⟩ := first.exceeds levels tall
        exact ⟨name, by rw [failed]; rfl⟩

end

theorem Derives.unique {other : Decoded} {otherHeight : Nat} (derived : d.Derives height te decoded)
    (otherDerived : d.Derives otherHeight te other) : height = otherHeight ∧ decoded = other := by
  have lower {h k : Nat} {x y : Decoded} (first : d.Derives h te x) (second : d.Derives k te y) :
      ¬ h < k := by
    intro below
    obtain ⟨name, failed⟩ := second.exceeds (h + 1) below
    cases (first.decodeWithin_eq h (Nat.le_refl h)).symm.trans failed
  have same : height = otherHeight :=
    Nat.le_antisymm (Nat.le_of_not_lt (lower otherDerived derived))
      (Nat.le_of_not_lt (lower derived otherDerived))
  subst same
  have found := derived.decodeWithin_eq height (Nat.le_refl height)
  have otherFound := otherDerived.decodeWithin_eq height (Nat.le_refl height)
  exact ⟨rfl, Except.ok.inj (found.symm.trans otherFound)⟩

/-! What is found is derived. -/

theorem derivesAll_of_forall₂ {arguments : List Decoded}
    (each : List.Forall₂ (fun decoded te => ∃ height < levels, d.Derives height te decoded)
      arguments parameters) :
    ∃ height ≤ levels, d.DerivesAll height parameters arguments := by
  induction each with
  | nil => exact ⟨0, Nat.zero_le _, .nil⟩
  | cons first _ ih =>
      obtain ⟨height, below, derived⟩ := first
      obtain ⟨others, within, later⟩ := ih
      exact ⟨_, Nat.max_le.mpr ⟨below, within⟩, .cons derived later⟩

theorem derives_of_decodeParts {decodePart : TypeExpr → Except GenerationError Decoded}
    (part : ∀ te decoded, decodePart te = .ok decoded →
      ∃ height < levels, d.Derives height te decoded)
    (stands : d.headStep te = .ok none) (done : d.decodeParts decodePart te = .ok decoded) :
    ∃ height ≤ levels, d.Derives height te decoded := by
  rcases te with ⟨head, parameters⟩
  cases head with
  | primitive container =>
      simp only [decodeParts] at done
      cases found : wrapper? container with
      | none =>
          rw [found] at done
          obtain ⟨p, rfl, rfl, rfl⟩ := scalar_eq_ok done
          exact ⟨0, Nat.zero_le _, .scalar p⟩
      | some wrap =>
          simp only [found] at done
          obtain ⟨te, alone, done⟩ := bind_eq_ok_iff.mp done
          obtain ⟨elem, ran, made⟩ := bind_eq_ok_iff.mp done
          cases made
          obtain ⟨height, below, derived⟩ := part te elem ran
          rw [single_eq_ok alone]
          exact ⟨height + 1, below, .container (wraps_iff.mpr ⟨wrap, found, rfl⟩) derived⟩
  | typeParam name => cases done
  | reference name =>
      simp only [decodeParts] at done
      cases resolved : d.resolver name with
      | none =>
          rw [resolved] at done
          cases done
      | some decl =>
          simp only [resolved] at done
          obtain ⟨_, checked, done⟩ := bind_eq_ok_iff.mp done
          obtain ⟨arguments, ran, made⟩ := bind_eq_ok_iff.mp done
          cases made
          obtain ⟨height, within, each⟩ := derivesAll_of_forall₂
            ((forall₂_of_mapM ran).imp fun decoded te => part te decoded)
          have arity := checkArity_eq_ok_iff.mp checked
          exact ⟨height, within, .reference resolved (keeps_of_headStep resolved stands) arity
            each⟩

theorem derives_of_decodeWithin (done : d.decodeWithin levels te = .ok decoded) :
    ∃ height < levels, d.Derives height te decoded := by
  induction levels generalizing te decoded with
  | zero => cases done
  | succ levels ih =>
      rw [decodeWithin_succ] at done
      obtain ⟨expanded, step, done⟩ := bind_eq_ok_iff.mp done
      cases expanded with
      | some next =>
          obtain ⟨height, below, derived⟩ := ih done
          exact ⟨height + 1, Nat.succ_lt_succ below, .expanded (expands_of_headStep step) derived⟩
      | none =>
          obtain ⟨height, within, derived⟩ := derives_of_decodeParts (fun _ _ => ih) step done
          exact ⟨height, Nat.lt_succ_of_le within, derived⟩

theorem decodeWithin_eq_ok_iff :
    d.decodeWithin (levels + 1) te = .ok decoded ↔
      ∃ height ≤ levels, d.Derives height te decoded := by
  constructor
  · intro done
    obtain ⟨height, below, derived⟩ := derives_of_decodeWithin done
    exact ⟨height, Nat.le_of_lt_succ below, derived⟩
  · rintro ⟨height, enough, derived⟩
    exact derived.decodeWithin_eq levels enough

/-! Types whose decoding never ends have no derivation, however tall. -/

/-- Decoding the first type goes on to the second: an element, an argument or an expansion. -/
inductive Visits (d : Decoder) : TypeExpr → TypeExpr → Prop where
  | element {container : String} (known : container ∈ ["Vector", "StringMap", "Nullable"])
      (te : TypeExpr) : Visits d ⟨.primitive container, [te]⟩ te
  | argument {name : ScopedName} {decl : Decl} {parameters : List TypeExpr} {te : TypeExpr}
      (resolved : d.resolver name = some decl) (kept : d.Keeps name decl)
      (member : te ∈ parameters) : Visits d ⟨.reference name, parameters⟩ te
  | expansion {te next : TypeExpr} (head : d.Expands te next) : Visits d te next

theorem Keeps.not_expands (resolved : d.resolver name = some decl) (kept : d.Keeps name decl) :
    ¬ d.Expands ⟨.reference name, parameters⟩ next := by
  intro head
  cases (headStep_of_keeps resolved kept).symm.trans (headStep_of_expands head)

theorem DerivesAll.of_mem : ∀ {height : Nat} {tes : List TypeExpr} {decoded : List Decoded},
    d.DerivesAll height tes decoded → te ∈ tes →
      ∃ lower < height, ∃ found, d.Derives lower te found
  | _, _, _, .nil, member => by cases member
  | _, _, _, .cons first later, member => by
      rcases List.mem_cons.mp member with rfl | inner
      · exact ⟨_, Nat.lt_of_succ_le (Nat.le_max_left ..), _, first⟩
      · obtain ⟨lower, below, derived⟩ := later.of_mem inner
        exact ⟨lower, Nat.lt_of_lt_of_le below (Nat.le_max_right ..), derived⟩

theorem Derives.of_visits (derived : d.Derives height te decoded) (visits : d.Visits te next) :
    ∃ lower < height, ∃ found, d.Derives lower next found := by
  cases visits with
  | element known te =>
      cases derived with
      | container wraps element => exact ⟨_, Nat.lt_succ_self _, _, element⟩
      | expanded head rest => cases head
  | argument resolved kept member =>
      cases derived with
      | expanded head rest => exact absurd head (kept.not_expands resolved)
      | reference _ _ _ each => exact each.of_mem member
  | expansion head =>
      cases derived with
      | scalar p => cases head
      | container wraps element => cases head
      | expanded otherHead rest =>
          rw [head.unique otherHead]
          exact ⟨_, Nat.lt_succ_self _, _, rest⟩
      | reference resolved kept _ _ => exact absurd head (kept.not_expands resolved)

theorem not_derives_of_endless {path : Nat → TypeExpr}
    (endless : ∀ n, d.Visits (path n) (path (n + 1))) (n : Nat) :
    ¬ d.Derives height (path n) decoded := by
  intro derived
  induction height using Nat.strongRecOn generalizing n decoded with
  | ind height ih =>
      obtain ⟨lower, below, found, visited⟩ := derived.of_visits (endless n)
      exact ih lower below (n + 1) visited

/--
Decoding is the relation cut off at a height of 32: a type has at most one derivation, it decodes to
what is derived by one of height 32 at most, and a type whose only derivation is taller is taken for
a cycle of aliases. A type whose decoding would go on for ever is never decoded.
-/
theorem decode_derivation (d : Decoder) (te : TypeExpr) :
    (∀ height otherHeight decoded other, d.Derives height te decoded →
      d.Derives otherHeight te other → height = otherHeight ∧ decoded = other) ∧
    (∀ decoded, d.decode te = .ok decoded ↔ ∃ height ≤ 32, d.Derives height te decoded) ∧
    (∀ height decoded, d.Derives height te decoded → 32 < height →
      ∃ name, d.decode te = .error (.aliasCycle name 32)) ∧
    (∀ path : Nat → TypeExpr, path 0 = te → (∀ n, d.Visits (path n) (path (n + 1))) →
      ∀ decoded, d.decode te ≠ .ok decoded) := by
  refine ⟨?_, fun _ => decodeWithin_eq_ok_iff, ?_, ?_⟩
  · intro height otherHeight decoded other derived otherDerived
    exact derived.unique otherDerived
  · intro height decoded derived tall
    exact derived.exceeds (decodingLimit + 1) tall
  · rintro path rfl endless decoded done
    obtain ⟨height, _, derived⟩ := decodeWithin_eq_ok_iff.mp done
    exact not_derives_of_endless endless 0 derived

end Decoder

namespace Sample

def nested : Nat → TypeExpr
  | 0 => prim "String"
  | depth + 1 => vector (nested depth)

example : error? (Decoder.decode (.new fun _ => none) (nested 32)) = none := by decide

example : error? (Decoder.decode (.new fun _ => none) (nested 33)) =
    some (.aliasCycle "String" 32) := by decide

def spirals : Schema :=
  .ofModules
    [moduleOf "spirals"
      [typeAlias "Spiral" ["T"] (named "spirals" "Spiral" [vector (param "T")])]]

def spiral (turns : Nat) : TypeExpr := named "spirals" "Spiral" [nested turns]

theorem spiral_expands (turns : Nat) :
    (Decoder.new spirals.get?).Visits (spiral turns) (spiral (turns + 1)) :=
  .expansion (.intro rfl (by simp [Decoder.Pins, Decoder.new]) (.inl rfl) rfl rfl rfl)

theorem spiral_not_decoded :
    (∀ turns, (Decoder.new spirals.get?).Visits (spiral turns) (spiral (turns + 1))) ∧
      ∀ decoded, (Decoder.new spirals.get?).decode (spiral 0) ≠ .ok decoded :=
  ⟨spiral_expands,
    (Decoder.decode_derivation (.new spirals.get?) (spiral 0)).2.2.2 spiral rfl spiral_expands⟩

end Sample

end SchemaBindings
