import SchemaBindings.Emit.Phased
import SchemaBindings.Proofs.Failure

/-!
Runs of a phased generator. The entries are collected in order, the imports are settled once, and
each phase after the one that collecting has come to emits over the accepted entries; the first call
that fails ends the run. A generator whose collecting only warns runs through all phases.
-/

namespace SchemaBindings

def Phase.warning (phase : Phase) (found : String × String) : Diagnostic :=
  ⟨.warning, phase.name, found.2, some found.1⟩

def Phase.following : Phase → List Phase
  | .collect => [.decl, .ctor, .impl]
  | .decl => [.ctor, .impl]
  | .ctor => [.impl]
  | .impl => []

def EmitContext.warnAll (c : EmitContext) (found : List (String × String)) : EmitContext :=
  found.foldl (fun c w => c.warn w.1 w.2) c

theorem EmitContext.warnAll_eq (c : EmitContext) (found : List (String × String)) :
    c.warnAll found = ⟨c.phase, c.diagnostics ++ found.map c.phase.warning⟩ := by
  induction found generalizing c with
  | nil =>
      rw [List.map_nil, List.append_nil]
      rfl
  | cons first rest ih =>
      calc c.warnAll (first :: rest)
          = (c.warn first.1 first.2).warnAll rest := rfl
        _ = ⟨c.phase, (c.diagnostics ++ [c.phase.warning first]) ++ rest.map c.phase.warning⟩ :=
            ih _
        _ = ⟨c.phase, c.diagnostics ++ (first :: rest).map c.phase.warning⟩ := by
            rw [List.append_assoc, List.singleton_append, List.map_cons]

theorem EmitContext.following_of_advance {c next : EmitContext} (moves : c.advance? = some next) :
    c.phase.following = next.phase :: next.phase.following ∧ next.diagnostics = c.diagnostics := by
  obtain ⟨phase, follows, rfl⟩ := Option.map_eq_some_iff.mp moves
  obtain ⟨first, diagnostics⟩ := c
  cases first <;> cases follows <;> exact ⟨rfl, rfl⟩

theorem EmitContext.following_of_last {c : EmitContext} (stops : c.advance? = none) :
    c.phase.following = [] := by
  obtain ⟨phase, diagnostics⟩ := c
  cases phase <;> first | rfl | cases stops

/-- What collecting an entry told and the context it left. -/
structure Verdict (ε : Type) where
  entry : ε
  accepted : Bool
  context : EmitContext

def acceptedOf {ε : Type} (vs : List (Verdict ε)) : List ε :=
  (vs.filter (·.accepted)).map (·.entry)

/-- Each context is the one before it with findings more, which are `found` in all. -/
inductive Warned {ε : Type} : EmitContext → List (Verdict ε) → List (String × String) → Prop where
  | nil {c : EmitContext} : Warned c [] []
  | cons {c : EmitContext} {v : Verdict ε} {vs : List (Verdict ε)}
      {found later : List (String × String)} (here : v.context = c.warnAll found)
      (rest : Warned v.context vs later) : Warned c (v :: vs) (found ++ later)

namespace PhasedOutput

variable {o other : PhasedOutput} {phase : Phase} {fragments : List Fragment}

theorem fragments_withFragments_self (emits : phase ≠ .collect) :
    (o.withFragments phase fragments).fragments phase = fragments := by
  cases phase <;> first | rfl | exact absurd rfl emits

theorem fragments_withFragments_other {asked : Phase} (differ : asked ≠ phase) :
    (o.withFragments phase fragments).fragments asked = o.fragments asked := by
  cases phase <;> cases asked <;> first | rfl | exact absurd rfl differ

theorem withFragments_accepted : (o.withFragments phase fragments).accepted = o.accepted := by
  cases phase <;> rfl

theorem withFragments_diagnostics :
    (o.withFragments phase fragments).diagnostics = o.diagnostics := by
  cases phase <;> rfl

theorem ext_fragments (each : ∀ phase, o.fragments phase = other.fragments phase)
    (accepted : o.accepted = other.accepted) (diagnostics : o.diagnostics = other.diagnostics) :
    o = other := by
  have decls := each .decl
  have ctors := each .ctor
  have impls := each .impl
  cases o
  cases other
  simp_all [PhasedOutput.fragments]

end PhasedOutput

namespace PhasedGenerator

/-- Entries are collected one after the other, each from the imports and the context that the one
before it left. -/
inductive Collects {ε : Type} (g : PhasedGenerator ε) :
    Imports → EmitContext → List (Verdict ε) → Imports → EmitContext → Prop where
  | nil {i : Imports} {c : EmitContext} : Collects g i c [] i c
  | cons {i next left : Imports} {c context : EmitContext} {v : Verdict ε}
      {vs : List (Verdict ε)} :
      g.collect v.entry i c = ⟨.ok v.accepted, next, v.context⟩ →
      Collects g next v.context vs left context →
      Collects g i c (v :: vs) left context

/-- Collecting does nothing to the context but warn. -/
def OnlyWarns {ε : Type} (g : PhasedGenerator ε) : Prop :=
  ∀ entry imports context,
    ∃ found, (g.collect entry imports context).context = context.warnAll found

/-- Collecting leaves settled imports settled. -/
def StaysSettled {ε : Type} (g : PhasedGenerator ε) : Prop :=
  ∀ entry imports context, imports.isSettled = true →
    (g.collect entry imports context).imports.isSettled = true

variable {ε : Type} {g : PhasedGenerator ε} {i left settled : Imports} {c context : EmitContext}
  {entries : List ε} {vs : List (Verdict ε)} {e : GenerationError}

theorem collectAll_of_collects (collects : g.Collects i c vs left context) (after : List ε) :
    g.collectAll (vs.map (·.entry) ++ after) i c =
      { g.collectAll after left context with
        result := (g.collectAll after left context).result.map (acceptedOf vs ++ ·) } := by
  induction collects with
  | @nil i c =>
      rw [List.map_nil, List.nil_append]
      cases g.collectAll after i c with
      | mk result imports context => cases result <;> rfl
  | @cons i next left c context v vs done _ ih =>
      simp only [List.map_cons, List.cons_append, collectAll, done, ih]
      cases (g.collectAll after left context).result with
      | error e => rfl
      | ok others => cases told : v.accepted <;> simp [Except.map, acceptedOf, told]

theorem collects_or_fails (g : PhasedGenerator ε) (entries : List ε) (i : Imports)
    (c : EmitContext) :
    (∃ vs left context, vs.map (·.entry) = entries ∧ g.Collects i c vs left context) ∨
    ∃ vs entry after left context e, vs.map (·.entry) ++ entry :: after = entries ∧
      g.Collects i c vs left context ∧ (g.collect entry left context).result = .error e := by
  induction entries generalizing i c with
  | nil => exact .inl ⟨[], i, c, rfl, .nil⟩
  | cons entry rest ih =>
      cases told : (g.collect entry i c).result with
      | error e => exact .inr ⟨[], entry, rest, i, c, e, rfl, .nil, told⟩
      | ok accepted =>
          let v : Verdict ε := ⟨entry, accepted, (g.collect entry i c).context⟩
          have done : g.collect v.entry i c =
              ⟨.ok v.accepted, (g.collect entry i c).imports, v.context⟩ := by
            rw [← told]
          rcases ih (g.collect entry i c).imports v.context with
            ⟨vs, left, context, rfl, collects⟩ | ⟨vs, failing, after, left, context, e, rfl,
              collects, failed⟩
          · exact .inl ⟨v :: vs, left, context, rfl, .cons done collects⟩
          · exact .inr ⟨v :: vs, failing, after, left, context, e, rfl, .cons done collects,
              failed⟩

theorem Collects.warned (collects : g.Collects i c vs left context) (warns : g.OnlyWarns) :
    ∃ found, Warned c vs found ∧ context = c.warnAll found := by
  induction collects with
  | nil => exact ⟨[], .nil, rfl⟩
  | @cons i next left c context v vs done _ ih =>
      obtain ⟨found, here⟩ := warns v.entry i c
      rw [done] at here
      change v.context = c.warnAll found at here
      obtain ⟨later, rest, ends⟩ := ih
      refine ⟨found ++ later, .cons here rest, ?_⟩
      rw [ends, here, EmitContext.warnAll, EmitContext.warnAll, EmitContext.warnAll,
        List.foldl_append]

theorem Collects.isSettled (collects : g.Collects i c vs left context) (stays : g.StaysSettled)
    (closed : i.isSettled = true) : left.isSettled = true := by
  induction collects with
  | nil => exact closed
  | @cons i next _ c _ v _ done _ ih =>
      have still := stays v.entry i c closed
      rw [done] at still
      exact ih still

/-! ### The emitting phases -/

def emitOver (g : PhasedGenerator ε) (imports : Imports) (accepted : List ε) :
    List Phase → PhasedOutput → Except GenerationError PhasedOutput
  | [], output => .ok output
  | phase :: later, output => do
    let fragments ← emitAll (g.emitIn phase) imports accepted
    g.emitOver imports accepted later (output.withFragments phase fragments)

def emitAfter (g : PhasedGenerator ε) (imports : Imports) (accepted : List ε) (c : EmitContext) :
    Except GenerationError PhasedOutput := do
  let output ← g.emitOver imports accepted c.phase.following .empty
  return { output with accepted := accepted.length, diagnostics := c.diagnostics }

def emitPhases (g : PhasedGenerator ε) (imports : Imports) (accepted : List ε)
    (diagnostics : List Diagnostic) : Except GenerationError PhasedOutput := do
  let decls ← emitAll g.decl imports accepted
  let ctors ← emitAll g.ctor imports accepted
  let impls ← emitAll g.impl imports accepted
  return ⟨decls, ctors, impls, accepted.length, diagnostics⟩

theorem emitFrom_of_next {next : EmitContext} (moves : c.advance? = some next)
    (output : PhasedOutput) :
    g.emitFrom settled entries c output =
      emitAll (g.emitIn next.phase) settled entries >>= fun fragments =>
        g.emitFrom settled entries next (output.withFragments next.phase fragments) := by
  rw [emitFrom]
  split
  · rename_i stops
    cases stops.symm.trans moves
  · rename_i moved
    cases moved.symm.trans moves
    rfl

theorem emitFrom_of_last (stops : c.advance? = none) (output : PhasedOutput) :
    g.emitFrom settled entries c output =
      .ok { output with accepted := entries.length, diagnostics := c.diagnostics } := by
  rw [emitFrom]
  split
  · rfl
  · rename_i moved
    cases moved.symm.trans stops

theorem emitFrom_eq (g : PhasedGenerator ε) (settled : Imports) (entries : List ε)
    (c : EmitContext) (output : PhasedOutput) :
    g.emitFrom settled entries c output = (do
      let emitted ← g.emitOver settled entries c.phase.following output
      return { emitted with accepted := entries.length, diagnostics := c.diagnostics }) := by
  cases moves : c.advance? with
  | none =>
      rw [emitFrom_of_last moves, EmitContext.following_of_last moves]
      rfl
  | some next =>
      obtain ⟨phases, same⟩ := EmitContext.following_of_advance moves
      rw [emitFrom_of_next moves, phases, emitOver, bind_assoc]
      refine congrArg (emitAll (g.emitIn next.phase) settled entries >>= ·)
        (funext fun fragments => ?_)
      rw [emitFrom_eq g settled entries next, same]
termination_by c.phase.left
decreasing_by exact EmitContext.left_of_advance moves

theorem emitAfter_collect (g : PhasedGenerator ε) (settled : Imports) (entries : List ε)
    (diagnostics : List Diagnostic) :
    g.emitAfter settled entries ⟨.collect, diagnostics⟩ =
      g.emitPhases settled entries diagnostics := by
  simp only [emitAfter, Phase.following, emitOver, emitPhases, bind_assoc]
  rfl

theorem emitFrom_collect (g : PhasedGenerator ε) (settled : Imports) (entries : List ε)
    (diagnostics : List Diagnostic) :
    g.emitFrom settled entries ⟨.collect, diagnostics⟩ .empty =
      g.emitPhases settled entries diagnostics :=
  (g.emitFrom_eq settled entries _ _).trans (g.emitAfter_collect settled entries diagnostics)

def EmitsEach (emit : ε → Imports → Emitted) (settled : Imports) (entries : List ε)
    (fragments : List Fragment) : Prop :=
  ∃ parts, List.Forall₂ (fun entry part => emit entry settled = .ok part) entries parts ∧
    fragments = parts.flatten

theorem emitAll_eq_ok_iff {emit : ε → Imports → Emitted} {fragments : List Fragment} :
    emitAll emit settled entries = .ok fragments ↔ EmitsEach emit settled entries fragments := by
  rw [emitAll, bind_eq_ok_iff]
  constructor
  · rintro ⟨parts, done, made⟩
    cases made
    exact ⟨parts, (forall₂_of_mapM done).flip, rfl⟩
  · rintro ⟨parts, each, rfl⟩
    exact ⟨parts, mapM_of_forall₂ each.flip, rfl⟩

theorem error?_emitAll (emit : ε → Imports → Emitted) (settled : Imports) (entries : List ε) :
    error? (emitAll emit settled entries) = (entries.map (emit · settled)).findSome? error? := by
  rw [← error?_mapM, emitAll]
  cases entries.mapM (emit · settled) <;> rfl

def emissions (g : PhasedGenerator ε) (settled : Imports) (entries : List ε)
    (phases : List Phase) : List Emitted :=
  phases.flatMap fun phase => entries.map (g.emitIn phase · settled)

theorem error?_emitOver (g : PhasedGenerator ε) (settled : Imports) (entries : List ε)
    (phases : List Phase) (output : PhasedOutput) :
    error? (g.emitOver settled entries phases output) =
      (g.emissions settled entries phases).findSome? error? := by
  induction phases generalizing output with
  | nil => rfl
  | cons phase later ih =>
      rw [emissions, List.flatMap_cons, List.findSome?_append, ← error?_emitAll, emitOver]
      cases emitAll (g.emitIn phase) settled entries with
      | error e => rfl
      | ok fragments => exact ih _

theorem error?_emitAfter (g : PhasedGenerator ε) (settled : Imports) (entries : List ε)
    (c : EmitContext) :
    error? (g.emitAfter settled entries c) =
      (g.emissions settled entries c.phase.following).findSome? error? := by
  rw [← error?_emitOver g settled entries c.phase.following .empty, emitAfter]
  cases g.emitOver settled entries c.phase.following .empty <;> rfl

theorem emitPhases_ok_iff {diagnostics : List Diagnostic} :
    (∃ output, g.emitPhases settled entries diagnostics = .ok output) ↔
      ∀ entry ∈ entries, (∃ part, g.decl entry settled = .ok part) ∧
        (∃ part, g.ctor entry settled = .ok part) ∧ ∃ part, g.impl entry settled = .ok part := by
  rw [← error?_eq_none_iff, ← emitAfter_collect, error?_emitAfter, List.findSome?_eq_none_iff]
  simp only [emissions, Phase.following, List.flatMap_cons, List.flatMap_nil, List.append_nil,
    List.forall_mem_append, List.forall_mem_map, error?_eq_none_iff, emitIn]
  constructor
  · rintro ⟨declared, constructed, implemented⟩ entry member
    exact ⟨declared entry member, constructed entry member, implemented entry member⟩
  · intro each
    exact ⟨fun entry member => (each entry member).1, fun entry member => (each entry member).2.1,
      fun entry member => (each entry member).2.2⟩

theorem emitPhases_eq_ok_iff {diagnostics : List Diagnostic} {output : PhasedOutput} :
    g.emitPhases settled entries diagnostics = .ok output ↔
      EmitsEach g.decl settled entries output.decls ∧
      EmitsEach g.ctor settled entries output.ctors ∧
      EmitsEach g.impl settled entries output.impls ∧
      output.accepted = entries.length ∧ output.diagnostics = diagnostics := by
  simp only [emitPhases, bind_eq_ok_iff, ← emitAll_eq_ok_iff]
  constructor
  · rintro ⟨decls, declared, ctors, constructed, impls, implemented, made⟩
    cases made
    exact ⟨declared, constructed, implemented, rfl, rfl⟩
  · rintro ⟨declared, constructed, implemented, count, told⟩
    refine ⟨_, declared, _, constructed, _, implemented, ?_⟩
    rw [← count, ← told]
    rfl

theorem emitOver_eq_ok_iff {phases : List Phase} (distinct : phases.Nodup)
    (emitting : Phase.collect ∉ phases) {output result : PhasedOutput} :
    g.emitOver settled entries phases output = .ok result ↔
      (∀ phase ∈ phases, EmitsEach (g.emitIn phase) settled entries (result.fragments phase)) ∧
      (∀ phase, phase ∉ phases → result.fragments phase = output.fragments phase) ∧
      result.accepted = output.accepted ∧ result.diagnostics = output.diagnostics := by
  induction phases generalizing output with
  | nil =>
      constructor
      · rintro ⟨⟩
        exact ⟨nofun, fun _ _ => rfl, rfl, rfl⟩
      · rintro ⟨_, kept, accepted, diagnostics⟩
        exact congrArg Except.ok
          (PhasedOutput.ext_fragments (fun phase => (kept phase List.not_mem_nil).symm)
            accepted.symm diagnostics.symm)
  | cons first later ih =>
      obtain ⟨fresh, distinct⟩ := List.nodup_cons.mp distinct
      rw [List.mem_cons, not_or] at emitting
      obtain ⟨emits, emitting⟩ := emitting
      have rest {fragments} := @ih distinct emitting (output.withFragments first fragments)
      rw [emitOver, bind_eq_ok_iff]
      simp only [rest, emitAll_eq_ok_iff, PhasedOutput.withFragments_accepted,
        PhasedOutput.withFragments_diagnostics, List.forall_mem_cons]
      constructor
      · rintro ⟨fragments, each, others, kept, told⟩
        have own : result.fragments first = fragments :=
          (kept first fresh).trans (PhasedOutput.fragments_withFragments_self (Ne.symm emits))
        refine ⟨⟨own ▸ each, others⟩, ?_, told⟩
        intro phase outside
        rw [List.mem_cons, not_or] at outside
        obtain ⟨other, outside⟩ := outside
        exact (kept phase outside).trans (PhasedOutput.fragments_withFragments_other other)
      · rintro ⟨⟨each, others⟩, kept, told⟩
        refine ⟨_, each, others, ?_, told⟩
        intro phase outside
        by_cases same : phase = first
        · subst same
          exact (PhasedOutput.fragments_withFragments_self (Ne.symm emits)).symm
        · rw [kept phase (List.not_mem_cons_of_ne_of_not_mem same outside),
            PhasedOutput.fragments_withFragments_other same]

/-- Every call succeeds, on the entries of `vs` in order: what the run leaves and gives, where
collecting has come to `context`. -/
structure Completes (g : PhasedGenerator ε) (i : Imports) (vs : List (Verdict ε))
    (context : EmitContext) (settled : Imports) (output : PhasedOutput) : Prop where
  collects : ∃ left, g.Collects i .start vs left context ∧ left.settle = .ok settled
  emits : ∀ phase ∈ context.phase.following,
    EmitsEach (g.emitIn phase) settled (acceptedOf vs) (output.fragments phase)
  skips : ∀ phase, phase ∉ context.phase.following → output.fragments phase = []
  accepted : output.accepted = (acceptedOf vs).length
  diagnostics : output.diagnostics = context.diagnostics

/-- The first call that fails, which is one of collecting, the one of settling, or one of emitting
over the accepted entries. -/
inductive FirstFailure (g : PhasedGenerator ε) (i : Imports) :
    List ε → GenerationError → Prop where
  | collecting {vs : List (Verdict ε)} {left : Imports} {context : EmitContext} {entry : ε}
      {e : GenerationError} (after : List ε) : g.Collects i .start vs left context →
      (g.collect entry left context).result = .error e →
      FirstFailure g i (vs.map (·.entry) ++ entry :: after) e
  | settling {vs : List (Verdict ε)} {left : Imports} {context : EmitContext}
      {e : GenerationError} : g.Collects i .start vs left context → left.settle = .error e →
      FirstFailure g i (vs.map (·.entry)) e
  | emitting {vs : List (Verdict ε)} {left settled : Imports} {context : EmitContext}
      {e : GenerationError} : g.Collects i .start vs left context → left.settle = .ok settled →
      (g.emissions settled (acceptedOf vs) context.phase.following).findSome? error? = some e →
      FirstFailure g i (vs.map (·.entry)) e

theorem emitAfter_eq_ok_iff {output : PhasedOutput} :
    g.emitAfter settled entries c = .ok output ↔
      (∀ phase ∈ c.phase.following,
        EmitsEach (g.emitIn phase) settled entries (output.fragments phase)) ∧
      (∀ phase, phase ∉ c.phase.following → output.fragments phase = []) ∧
      output.accepted = entries.length ∧ output.diagnostics = c.diagnostics := by
  have distinct : c.phase.following.Nodup := by cases c.phase <;> decide
  have emitting : Phase.collect ∉ c.phase.following := by cases c.phase <;> decide
  have blank (phase : Phase) : PhasedOutput.empty.fragments phase = [] := by cases phase <;> rfl
  rw [emitAfter, bind_eq_ok_iff]
  simp only [emitOver_eq_ok_iff distinct emitting, blank]
  constructor
  · rintro ⟨_, ⟨each, skipped, _, _⟩, made⟩
    cases made
    exact ⟨fun phase member => each phase member, fun phase outside => skipped phase outside,
      rfl, rfl⟩
  · rintro ⟨each, skipped, count, told⟩
    refine ⟨{ output with accepted := 0, diagnostics := [] },
      ⟨fun phase member => each phase member, fun phase outside => skipped phase outside, rfl,
        rfl⟩, ?_⟩
    rw [← count, ← told]
    rfl

theorem run_of_collect_fails {entry : ε} (after : List ε)
    (collects : g.Collects i .start vs left context)
    (failed : (g.collect entry left context).result = .error e) :
    (g.run (vs.map (·.entry) ++ entry :: after) i).1 = .error e := by
  simp only [run, collectAll_of_collects collects, collectAll, failed, Except.map]

theorem run_of_settle_fails (collects : g.Collects i .start vs left context)
    (failed : left.settle = .error e) : (g.run (vs.map (·.entry)) i).1 = .error e := by
  have all := collectAll_of_collects collects []
  rw [List.append_nil] at all
  simp only [run, all, collectAll, Except.map, failed]

theorem run_of_settle (collects : g.Collects i .start vs left context)
    (settles : left.settle = .ok settled) :
    g.run (vs.map (·.entry)) i = (g.emitAfter settled (acceptedOf vs) context, settled) := by
  have all := collectAll_of_collects collects []
  rw [List.append_nil] at all
  simp only [run, all, collectAll, Except.map, List.append_nil, settles, emitFrom_eq, emitAfter]

theorem run_eq_ok_iff {output : PhasedOutput} :
    g.run entries i = (.ok output, settled) ↔
      ∃ vs context, vs.map (·.entry) = entries ∧ g.Completes i vs context settled output := by
  constructor
  · intro ran
    -- A run that succeeds has come past both ways to stop before the emitting phases.
    rcases g.collects_or_fails entries i .start with
      ⟨vs, left, context, rfl, collects⟩ | ⟨vs, entry, after, left, context, e, rfl, collects,
        failed⟩
    · cases settles : left.settle with
      | error e =>
          have stopped := run_of_settle_fails collects settles
          rw [ran] at stopped
          cases stopped
      | ok settled' =>
          obtain ⟨emitted, rfl⟩ := Prod.mk.inj ((run_of_settle collects settles).symm.trans ran)
          obtain ⟨emits, skips, accepted, diagnostics⟩ := emitAfter_eq_ok_iff.mp emitted
          exact ⟨vs, context, rfl, ⟨left, collects, settles⟩, emits, skips, accepted, diagnostics⟩
    · have stopped := run_of_collect_fails after collects failed
      rw [ran] at stopped
      cases stopped
  · rintro ⟨vs, context, rfl, ⟨left, collects, settles⟩, emits, skips, accepted, diagnostics⟩
    rw [run_of_settle collects settles]
    exact Prod.ext (emitAfter_eq_ok_iff.mpr ⟨emits, skips, accepted, diagnostics⟩) rfl

theorem run_eq_error_iff : (g.run entries i).1 = .error e ↔ g.FirstFailure i entries e := by
  constructor
  · intro stopped
    rcases g.collects_or_fails entries i .start with
      ⟨vs, left, context, rfl, collects⟩ | ⟨vs, entry, after, left, context, other, rfl, collects,
        failed⟩
    · cases settles : left.settle with
      | error other =>
          cases (run_of_settle_fails collects settles).symm.trans stopped
          exact .settling collects settles
      | ok settled =>
          rw [run_of_settle collects settles] at stopped
          refine .emitting collects settles ?_
          rw [← error?_emitAfter]
          exact error?_eq_some_iff.mpr stopped
    · cases (run_of_collect_fails after collects failed).symm.trans stopped
      exact .collecting after collects failed
  · intro first
    cases first with
    | collecting after collects failed => exact run_of_collect_fails after collects failed
    | settling collects failed => exact run_of_settle_fails collects failed
    | emitting collects settles failed =>
        rw [run_of_settle collects settles]
        rw [← error?_emitAfter] at failed
        exact error?_eq_some_iff.mp failed

/-- All three phases emit, and the findings are told as those of collecting. -/
structure RunsThrough (g : PhasedGenerator ε) (vs : List (Verdict ε)) (settled : Imports)
    (output : PhasedOutput) : Prop where
  decls : EmitsEach g.decl settled (acceptedOf vs) output.decls
  ctors : EmitsEach g.ctor settled (acceptedOf vs) output.ctors
  impls : EmitsEach g.impl settled (acceptedOf vs) output.impls
  accepted : output.accepted = (acceptedOf vs).length
  warnings : ∃ found, Warned .start vs found ∧
    output.diagnostics = found.map Phase.collect.warning

theorem Completes.runsThrough {output : PhasedOutput} (warns : g.OnlyWarns)
    (completes : g.Completes i vs context settled output) : g.RunsThrough vs settled output := by
  obtain ⟨left, collects, _⟩ := completes.collects
  obtain ⟨found, warned, reached⟩ := collects.warned warns
  rw [EmitContext.warnAll_eq] at reached
  subst reached
  have emits (phase : Phase) (member : phase ∈ Phase.collect.following) :=
    completes.emits phase member
  exact ⟨emits .decl (by decide), emits .ctor (by decide), emits .impl (by decide),
    completes.accepted, found, warned, completes.diagnostics⟩

/-- Imports that are settled cannot be settled again, whatever is collected in between. -/
theorem Completes.opened {output : PhasedOutput} (stays : g.StaysSettled)
    (completes : g.Completes i vs context settled output) : i.isSettled = false := by
  obtain ⟨left, collects, settles⟩ := completes.collects
  by_contra closed
  have still : left.isSettled = true := collects.isSettled stays (Bool.not_eq_false _ ▸ closed)
  cases (Imports.settle_of_isSettled still).symm.trans settles

/--
A run collects the entries in order, settles the imports once and then emits over the entries that
were accepted, in each phase after the one that collecting has come to. It ends with the first of
these calls that fails. Where collecting does nothing to the context but warn, all three phases
emit, and where it leaves settled imports settled, no run on such imports succeeds.
-/
theorem run_in_phases (g : PhasedGenerator ε) (entries : List ε) (i : Imports) :
    (∀ output settled, g.run entries i = (.ok output, settled) ↔
      ∃ vs context, vs.map (·.entry) = entries ∧ g.Completes i vs context settled output) ∧
    (∀ e, (g.run entries i).1 = .error e ↔ g.FirstFailure i entries e) ∧
    (g.OnlyWarns → ∀ output settled, g.run entries i = (.ok output, settled) →
      ∃ vs context, vs.map (·.entry) = entries ∧ g.Completes i vs context settled output ∧
        g.RunsThrough vs settled output) ∧
    (g.StaysSettled → i.isSettled = true →
      ∀ output settled, g.run entries i ≠ (.ok output, settled)) := by
  refine ⟨fun _ _ => run_eq_ok_iff, fun _ => run_eq_error_iff, ?_, ?_⟩
  · intro warns output settled ran
    obtain ⟨vs, context, same, completes⟩ := run_eq_ok_iff.mp ran
    exact ⟨vs, context, same, completes, completes.runsThrough warns⟩
  · intro stays closed output settled ran
    obtain ⟨vs, context, _, completes⟩ := run_eq_ok_iff.mp ran
    exact Bool.false_ne_true ((completes.opened stays).symm.trans closed)

end PhasedGenerator

namespace Sample

def slots : PhasedGenerator (String × Option TypeExpr) where
  collect entry imports context :=
    match entry.2 with
    | none => ⟨.ok false, imports, context.warn entry.1 ("skipping " ++ entry.1)⟩
    | some te =>
      match imports.addType te with
      | .ok registered => ⟨.ok true, registered, context⟩
      | .error e => ⟨.error e, imports, context⟩
  decl entry imports := do
    let names ← entry.2.toList.mapM imports.referencedName
    return names.map fun name => .line (entry.1 ++ ": " ++ name)
  impl entry _ := .ok [.line entry.1]

theorem slots_onlyWarns : slots.OnlyWarns := by
  rintro ⟨name, type⟩ imports context
  cases type with
  | none => exact ⟨[(name, "skipping " ++ name)], rfl⟩
  | some te =>
      simp only [slots]
      split <;> exact ⟨[], rfl⟩

theorem slots_staysSettled : slots.StaysSettled := by
  rintro ⟨name, type⟩ imports context settled
  cases type with
  | none => exact settled
  | some te =>
      simp only [slots, Imports.addType_of_isSettled settled]
      exact settled

def slotEntries : List (String × Option TypeExpr) :=
  [("login", some ⟨.reference ⟨"protoapp.apis.ui", "LoginReq"⟩, []⟩), ("version", none),
   ("logout", some ⟨.reference ⟨"common.http", "Unit"⟩, []⟩)]

theorem slots_run_once : ∃ output settled,
    slots.run slotEntries (.new (typescriptMapper [])) = (.ok output, settled) ∧
    output.accepted = 2 ∧ output.diagnostics.map (·.phase) = ["collect"] ∧
    (∃ vs, vs.map (·.entry) = slotEntries ∧ slots.RunsThrough vs settled output) ∧
    ∀ other again, slots.run [] settled ≠ (.ok other, again) := by
  let warned := EmitContext.start.warn "version" "skipping version"
  have collects : slots.Collects (.new (typescriptMapper [])) .start
      [⟨slotEntries[0], true, .start⟩, ⟨slotEntries[1], false, warned⟩,
       ⟨slotEntries[2], true, warned⟩] _ _ :=
    .cons rfl (.cons rfl (.cons rfl .nil))
  have ran : slots.run slotEntries (.new (typescriptMapper [])) = (.ok _, _) :=
    (PhasedGenerator.run_of_settle collects rfl).trans rfl
  obtain ⟨vs, _, same, _, through⟩ :=
    (slots.run_in_phases slotEntries (.new (typescriptMapper []))).2.2.1 slots_onlyWarns _ _ ran
  exact ⟨_, _, ran, rfl, rfl, ⟨vs, same, through⟩,
    (slots.run_in_phases [] _).2.2.2 slots_staysSettled rfl⟩

def hasty : PhasedGenerator String where
  collect entry imports context :=
    ⟨.ok true, imports, (context.advance?.getD context).warn entry "late"⟩
  decl entry _ := .ok [.line entry]

def reopening : PhasedGenerator String where
  collect _ imports context := ⟨.ok true, .new imports.mapper, context⟩

/-- An entry that takes part is not declared, its finding is not one of collecting, and a run on
settled imports succeeds. -/
theorem unbound_collecting :
    (∃ output settled, hasty.run ["login"] (.new rowMapper) = (.ok output, settled) ∧
      output.accepted = 1 ∧ hasty.decl "login" settled = .ok [.line "login"] ∧
      output.decls = [] ∧ output.diagnostics.map (·.phase) = ["decl"]) ∧
    ∃ imports output settled, imports.isSettled = true ∧
      reopening.run ["login"] imports = (.ok output, settled) := by
  let moved : EmitContext := ⟨.decl, [Phase.decl.warning ("login", "late")]⟩
  have hurried : hasty.Collects (.new rowMapper) .start [⟨"login", true, moved⟩] _ _ :=
    .cons rfl .nil
  have replaced : reopening.Collects { Imports.new rowMapper with settled := some .empty } .start
      [⟨"login", true, .start⟩] _ _ := .cons rfl .nil
  exact ⟨⟨_, _, (PhasedGenerator.run_of_settle hurried rfl).trans rfl, rfl, rfl, rfl, rfl⟩,
    _, _, _, rfl, (PhasedGenerator.run_of_settle replaced rfl).trans rfl⟩

end Sample

end SchemaBindings
