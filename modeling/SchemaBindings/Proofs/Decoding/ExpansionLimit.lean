import SchemaBindings.Proofs.Decoding.Derivation
import SchemaBindings.Proofs.Decoding.HeadExpansion

/-!
How the expansion of a head ends: at a head that stands for itself, at a failing step, or after one
step more than the limit allows. Which of the three it is and what comes of it is read off the chain
of single steps, so a chain that never ends is a cycle whatever its types grow to.
-/

namespace SchemaBindings.Expander

/-- The head is no alias, and no newtype where these are expanded. -/
def Stands (e : Expander) (te : TypeExpr) : Prop :=
  ∀ name, te.head = .reference name →
    ∃ decl, e.resolver name = some decl ∧ ¬ e.newtypes.Replaces decl.kind

/-- Following the single steps from a type leads to a result. -/
inductive Ends (e : Expander) (te : TypeExpr) : Except GenerationError TypeExpr → Prop where
  | stands {count : Nat} {last : TypeExpr} (within : count ≤ 32) (chain : e.Chain count te last)
      (stop : e.step last = .ok none) : Ends e te (.ok last)
  | fails {count : Nat} {last : TypeExpr} {failure : GenerationError} (within : count ≤ 32)
      (chain : e.Chain count te last) (stop : e.step last = .error failure) :
      Ends e te (.error failure)
  | exceeds {last : TypeExpr} (chain : e.Chain 33 te last) :
      Ends e te (.error (.aliasCycle te.text 32))

variable {e : Expander} {origin te last next : TypeExpr} {count : Nat}

theorem definition?_eq_none_iff {decl : Decl} :
    e.definition? decl = none ↔ ¬ e.newtypes.Replaces decl.kind := by
  classical
  rw [definition?_eq]
  split
  · next replaced =>
      obtain ⟨body, underlying⟩ := replaced.underlying
      simp [underlying, replaced]
  · next kept => simp [kept]

theorem step_reference_eq_none_iff {name : ScopedName} {decl : Decl}
    (resolved : e.resolver name = some decl) (parameters : List TypeExpr) :
    e.step ⟨.reference name, parameters⟩ = .ok none ↔ ¬ e.newtypes.Replaces decl.kind := by
  rw [← definition?_eq_none_iff]
  simp only [step, resolved]
  cases e.definition? decl with
  | none => simp
  | some definition =>
      -- a step that is taken has a result or fails, so it never stands still
      have taken : ∀ x : Except GenerationError TypeExpr, (some <$> x) ≠ .ok none := by
        intro x
        cases x <;> simp [Functor.map, Except.map]
      simp only [reduceCtorEq, iff_false]
      intro still
      obtain ⟨_, _, rest⟩ := bind_eq_ok_iff.mp still
      exact taken _ rest

theorem step_eq_none_iff : e.step te = .ok none ↔ e.Stands te := by
  rcases te with ⟨head, parameters⟩
  cases head with
  | primitive name => simp [step, Stands]
  | typeParam name => simp [step, Stands]
  | reference name =>
      cases resolved : e.resolver name with
      | none => simp [step, Stands, resolved]
      | some decl => simp [step_reference_eq_none_iff resolved, Stands, resolved]

/-! The counted loop along a chain. -/

theorem Chain.expandWithin_eq (chain : e.Chain count te last) (steps : Nat) :
    e.expandWithin origin (steps + count) te = e.expandWithin origin steps last := by
  induction chain with
  | stop te => rfl
  | @expand count te next last expanded rest ih =>
      calc
        e.expandWithin origin (steps + count + 1) te = e.expandWithin origin (steps + count) next :=
          by rw [expandWithin, expanded]; rfl
        _ = e.expandWithin origin steps last := ih

theorem Chain.expand_eq (within : count ≤ expansionLimit) (chain : e.Chain count te last) :
    e.expand te = e.expandWithin te (expansionLimit - count) last := by
  have whole : expansionLimit - count + count = expansionLimit := Nat.sub_add_cancel within
  rw [Expander.expand, ← chain.expandWithin_eq, whole]

theorem expandWithin_of_none (stop : e.step te = .ok none) (steps : Nat) :
    e.expandWithin origin steps te = .ok te := by
  cases steps with
  | zero => rw [expandWithin, stop]; rfl
  | succ steps => rw [expandWithin, stop]; rfl

theorem expandWithin_of_error {failure : GenerationError} (stop : e.step te = .error failure)
    (steps : Nat) : e.expandWithin origin steps te = .error failure := by
  cases steps with
  | zero => rw [expandWithin, stop]; rfl
  | succ steps => rw [expandWithin, stop]; rfl

theorem Chain.split_last (chain : e.Chain (count + 1) te last) :
    ∃ before, e.Chain count te before ∧ e.step before = .ok (some last) := by
  induction count generalizing te with
  | zero =>
      cases chain with
      | expand expanded rest =>
          cases rest with
          | stop _ => exact ⟨te, .stop te, expanded⟩
  | succ count ih =>
      cases chain with
      | expand expanded rest =>
          obtain ⟨before, earlier, final⟩ := ih rest
          exact ⟨before, .expand expanded earlier, final⟩

theorem chain_of_path {path : Nat → TypeExpr}
    (steps : ∀ n, e.step (path n) = .ok (some (path (n + 1)))) (start count : Nat) :
    e.Chain count (path start) (path (start + count)) := by
  induction count generalizing start with
  | zero => exact .stop _
  | succ count ih =>
      have later := ih (start + 1)
      rw [Nat.add_right_comm] at later
      exact .expand (steps start) later

theorem Ends.expand_eq {result : Except GenerationError TypeExpr} (ends : e.Ends te result) :
    e.expand te = result := by
  cases ends with
  | stands within chain stop =>
      rw [chain.expand_eq within]
      exact expandWithin_of_none stop _
  | fails within chain stop =>
      rw [chain.expand_eq within]
      exact expandWithin_of_error stop _
  | exceeds chain =>
      -- the limit is spent on the chain before its last step, which is then the probe
      obtain ⟨before, earlier, final⟩ := chain.split_last
      rw [earlier.expand_eq (Nat.le_refl _), Nat.sub_self, expandWithin, final]
      rfl

theorem ends_expand (e : Expander) (te : TypeExpr) : e.Ends te (e.expand te) := by
  cases e.outcome te expansionLimit te with
  | stands within chain stop result =>
      rw [expand, result]
      exact .stands within chain stop
  | fails within chain stop result =>
      rw [expand, result]
      exact .fails within chain stop
  | exceeds chain result =>
      rw [expand, result]
      exact .exceeds chain

theorem stands_of_expand (done : e.expand te = .ok last) :
    e.Stands last ∧ e.expand last = .ok last := by
  have ends : e.Ends te (.ok last) := done ▸ e.ends_expand te
  cases ends with
  | stands _ _ stop =>
      have again : e.Ends last (.ok last) := .stands (Nat.zero_le 32) (.stop last) stop
      exact ⟨step_eq_none_iff.mp stop, again.expand_eq⟩

/--
Expanding a head gives exactly what following its single steps leads to. What it gives stands for
itself and is its own expansion, and a chain of steps that never ends is told as a cycle of the type
it began with.
-/
theorem expand_exact (e : Expander) (te : TypeExpr) :
    (∀ result, e.expand te = result ↔ e.Ends te result) ∧
    (∀ last, e.expand te = .ok last → e.Stands last ∧ e.expand last = .ok last) ∧
    (∀ path : Nat → TypeExpr, path 0 = te →
      (∀ n, e.step (path n) = .ok (some (path (n + 1)))) →
      e.expand te = .error (.aliasCycle te.text 32)) := by
  refine ⟨?_, fun _ => stands_of_expand, ?_⟩
  · intro result
    constructor
    · rintro rfl
      exact e.ends_expand te
    · exact Ends.expand_eq
  · rintro path rfl steps
    have chain : e.Chain 33 (path 0) (path (0 + 33)) := chain_of_path steps 0 33
    exact (Ends.exceeds chain).expand_eq

end SchemaBindings.Expander

namespace SchemaBindings.Sample

def ladder (height : Nat) : Schema :=
  .ofModules
    [moduleOf "ladder"
      (struct (rungName height) [] ::
        (List.range height).map fun n =>
          typeAlias (rungName n) [] (named "ladder" (rungName (n + 1)) []))]
where
  rungName (n : Nat) : String := String.ofList (List.replicate (n + 1) 'I')

def rung (n : Nat) : TypeExpr := named "ladder" (ladder.rungName n) []

example : (Expander.mk (ladder 32).get? .nominal).expand (rung 0) = .ok (rung 32) := by rfl

example : error? ((Expander.mk (ladder 33).get? .nominal).expand (rung 0)) =
    some (.aliasCycle "ladder.I" 32) := by decide

theorem spiral_step (turns : Nat) :
    (Expander.mk spirals.get? .nominal).step (spiral turns) = .ok (some (spiral (turns + 1))) := by
  rfl

/-- The argument is wrapped once more by each step. -/
theorem spiral_exceeds :
    (∀ turns, (Expander.mk spirals.get? .nominal).step (spiral turns) =
        .ok (some (spiral (turns + 1)))) ∧
      (Expander.mk spirals.get? .nominal).expand (spiral 0) =
        .error (.aliasCycle (spiral 0).text 32) :=
  ⟨spiral_step, (Expander.expand_exact ⟨spirals.get?, .nominal⟩ (spiral 0)).2.2 spiral rfl
    spiral_step⟩

end SchemaBindings.Sample
