import SchemaBindings.Proofs.Decoding.Depth

/-!
Chains of head expansions, and decoding after them. Where nothing is pinned, decoding a type is
decoding what its head expands to, and both give up on the same chains of aliases.
-/

namespace SchemaBindings

open GenerationError (IsAliasCycle)

namespace Expander

/-- `te` becomes `last` by `count` expansions of its head. -/
inductive Chain (e : Expander) : (count : Nat) → (te last : TypeExpr) → Prop where
  | stop (te : TypeExpr) : Chain e 0 te te
  | expand {count : Nat} {te next last : TypeExpr} (expanded : e.step te = .ok (some next))
      (rest : Chain e count next last) : Chain e (count + 1) te last

/-- An expansion ends where the chain does, fails where the chain fails, and gives up on a chain of
one step too many. -/
inductive Outcome (e : Expander) (origin : TypeExpr) (steps : Nat) (te : TypeExpr) : Prop where
  | stands {count : Nat} {last : TypeExpr} (within : count ≤ steps) (chain : e.Chain count te last)
      (stop : e.step last = .ok none) (result : e.expandWithin origin steps te = .ok last)
  | fails {count : Nat} {last : TypeExpr} {failure : GenerationError} (within : count ≤ steps)
      (chain : e.Chain count te last) (stop : e.step last = .error failure)
      (result : e.expandWithin origin steps te = .error failure)
  | exceeds {last : TypeExpr} (chain : e.Chain (steps + 1) te last)
      (result : e.expandWithin origin steps te = .error (.aliasCycle origin.text expansionLimit))

theorem outcome (e : Expander) (origin : TypeExpr) (steps : Nat) (te : TypeExpr) :
    e.Outcome origin steps te := by
  induction steps generalizing te with
  | zero =>
      cases step : e.step te with
      | error failure =>
          exact .fails (Nat.le_refl 0) (.stop te) step (by rw [expandWithin, step]; rfl)
      | ok expanded =>
          cases expanded with
          | none => exact .stands (Nat.le_refl 0) (.stop te) step (by rw [expandWithin, step]; rfl)
          | some next =>
              exact .exceeds (.expand step (.stop next)) (by rw [expandWithin, step]; rfl)
  | succ steps ih =>
      cases step : e.step te with
      | error failure =>
          exact .fails (Nat.zero_le _) (.stop te) step (by rw [expandWithin, step]; rfl)
      | ok expanded =>
          cases expanded with
          | none => exact .stands (Nat.zero_le _) (.stop te) step (by rw [expandWithin, step]; rfl)
          | some next =>
              have unfolded : e.expandWithin origin (steps + 1) te =
                  e.expandWithin origin steps next := by
                rw [expandWithin, step]
                rfl
              cases ih next with
              | stands within chain stop result =>
                  exact .stands (Nat.succ_le_succ within) (.expand step chain) stop
                    (unfolded.trans result)
              | fails within chain stop result =>
                  exact .fails (Nat.succ_le_succ within) (.expand step chain) stop
                    (unfolded.trans result)
              | exceeds chain result => exact .exceeds (.expand step chain) (unfolded.trans result)

end Expander

namespace Decoder

def unpinned (resolver : Resolver) (newtypes : NewtypePolicy) : Decoder :=
  ⟨resolver, newtypes, [], none⟩

variable {resolver : Resolver} {newtypes : NewtypePolicy}

theorem headStep_unpinned (te : TypeExpr) :
    (unpinned resolver newtypes).headStep te = (unpinned resolver newtypes).expander.step te := by
  rcases te with ⟨head, parameters⟩
  cases head with
  | primitive name => rfl
  | typeParam name => rfl
  | reference name =>
      simp only [headStep, Expander.step, expander, unpinned]
      cases resolver name with
      | none => rfl
      | some decl => rfl

theorem decodeWithin_chain {count levels : Nat} {te last : TypeExpr}
    (chain : (unpinned resolver newtypes).expander.Chain count te last) :
    (unpinned resolver newtypes).decodeWithin (levels + count) te =
      (unpinned resolver newtypes).decodeWithin levels last := by
  induction chain with
  | stop te => rfl
  | expand expanded rest ih =>
      rw [← Nat.add_assoc, decodeWithin_succ, headStep_unpinned, expanded]
      exact ih

theorem decode_chain {count : Nat} {te last : TypeExpr} (within : count ≤ decodingLimit)
    (chain : (unpinned resolver newtypes).expander.Chain count te last) :
    (unpinned resolver newtypes).decode te =
      (unpinned resolver newtypes).decodeWithin (decodingLimit - count + 1) last := by
  rw [← decodeWithin_chain chain, decode]
  congr 1
  omega

theorem decode_agrees_expanded {count : Nat} {te last : TypeExpr} (within : count ≤ decodingLimit)
    (chain : (unpinned resolver newtypes).expander.Chain count te last) :
    AgreesUnless IsAliasCycle ((unpinned resolver newtypes).decode te)
      ((unpinned resolver newtypes).decode last) := by
  rw [decode_chain within chain]
  exact decodeWithin_agrees _ (by omega) last

theorem decode_fails_with_chain {count : Nat} {te last : TypeExpr} {failure : GenerationError}
    (within : count ≤ decodingLimit)
    (chain : (unpinned resolver newtypes).expander.Chain count te last)
    (stop : (unpinned resolver newtypes).expander.step last = .error failure) :
    (unpinned resolver newtypes).decode te = .error failure := by
  rw [decode_chain within chain, decodeWithin_succ, headStep_unpinned, stop]
  rfl

theorem decode_exceeds_with_chain {te last : TypeExpr}
    (chain : (unpinned resolver newtypes).expander.Chain (expansionLimit + 1) te last) :
    (unpinned resolver newtypes).decode te = .error (.aliasCycle last.text decodingLimit) := by
  have spent := @decodeWithin_chain _ _ _ 0 _ _ chain
  rw [Nat.zero_add] at spent
  exact spent

/-- Decoding a type and decoding its expansion agree, also on failures, except that decoding the
type itself may stop at the depth limit. -/
theorem decode_expand (resolver : Resolver) (newtypes : NewtypePolicy) (te : TypeExpr) :
    let d := unpinned resolver newtypes
    (∀ decoded, d.decode te = .ok decoded →
      ∃ expanded, d.expander.expand te = .ok expanded ∧ d.decode expanded = .ok decoded) ∧
    (∀ expanded, d.expander.expand te = .ok expanded →
      d.decode te = d.decode expanded ∨ ∃ e, d.decode te = .error e ∧ e.IsAliasCycle) ∧
    (∀ failure, d.expander.expand te = .error failure →
      (¬ failure.IsAliasCycle → d.decode te = .error failure) ∧
      (failure.IsAliasCycle → ∃ e, d.decode te = .error e ∧ e.IsAliasCycle)) := by
  intro d
  cases d.expander.outcome te expansionLimit te with
  | stands within chain stop result =>
      have agrees := decode_agrees_expanded within chain
      refine ⟨?_, ?_, ?_⟩
      · intro decoded done
        exact ⟨_, result, agrees.eq_ok done⟩
      · intro expanded run
        obtain rfl := Except.ok.inj (run.symm.trans result)
        exact agrees.symm
      · intro failure run
        cases run.symm.trans result
  | fails within chain stop result =>
      have failed := decode_fails_with_chain within chain stop
      refine ⟨?_, ?_, ?_⟩
      · intro decoded done
        cases done.symm.trans failed
      · intro expanded run
        cases run.symm.trans result
      · intro failure run
        obtain rfl := Except.error.inj (run.symm.trans result)
        exact ⟨fun _ => failed, fun cycle => ⟨_, failed, cycle⟩⟩
  | exceeds chain result =>
      have failed := decode_exceeds_with_chain chain
      refine ⟨?_, ?_, ?_⟩
      · intro decoded done
        cases done.symm.trans failed
      · intro expanded run
        cases run.symm.trans result
      · intro failure run
        obtain rfl := Except.error.inj (run.symm.trans result)
        exact ⟨fun other => absurd ⟨_, _, rfl⟩ other, fun _ => ⟨_, failed, _, _, rfl⟩⟩

end Decoder

end SchemaBindings
