import SchemaBindings.Api.Collect
import SchemaBindings.Proofs.Emit.Phases
import SchemaBindings.Proofs.Imports.Coverage
import SchemaBindings.Proofs.Resolve.SchemaFaults

/-!
Emission of an API: collecting registers the API itself and the types of each request it accepts,
the imports are settled once, and phases that name only these types misuse nothing.
-/

namespace SchemaBindings

open GenerationError (IsSchemaFault)

theorem requestSecurity_schemaFault (default : Option Json.Value) (location : String) :
    FailsOnly IsSchemaFault (requestSecurity default location) := by
  unfold requestSecurity
  split
  · exact .ok _
  · split
    · exact .ok _
    · exact .error nofun

theorem classify_schemaFault (te : TypeExpr) (default : Option Json.Value) (location : String) :
    FailsOnly IsSchemaFault (classify te default location) := by
  unfold classify
  split
  · exact .ok none
  · apply FailsOnly.bind (requestSecurity_schemaFault default location)
    intro security _
    exact .ok _

theorem loadEntry_schemaFault (e : Expander) (owner : ScopedName) (field : Field) :
    FailsOnly IsSchemaFault (loadEntry e owner field) := by
  apply FailsOnly.bind (e.expandWithin_schemaFault _ _ _)
  intro te _
  apply FailsOnly.bind (classify_schemaFault _ _ _)
  intro http _
  apply FailsOnly.bind (docComment?_schemaFault _ _)
  intro doc _
  exact .ok _

theorem Schema.api_schemaFault (s : Schema) (name : ScopedName) :
    FailsOnly IsSchemaFault (s.api name) := by
  unfold api
  split
  · exact .error nofun
  · split
    · refine .bind (.mapM fun field _ => loadEntry_schemaFault _ _ field) ?_
      intro entries _
      apply FailsOnly.bind (docComment?_schemaFault _ _)
      intro doc _
      exact .ok _
    · exact .error nofun

/-- A loaded API is a struct without parameters, and has an entry for each field. -/
theorem Schema.exists_of_api {s : Schema} {name : ScopedName} {api : Api}
    (loaded : s.api name = .ok api) :
    ∃ decl fields, s.get? name = some decl ∧ decl.body = .struct [] fields ∧ api.name = name ∧
      fields.mapM (loadEntry ⟨s.get?, .nominal⟩ name) = .ok api.entries := by
  unfold Schema.api at loaded
  split at loaded
  · cases loaded
  · next decl found =>
      split at loaded
      · next fields shaped =>
          obtain ⟨entries, each, loaded⟩ := bind_eq_ok_iff.mp loaded
          obtain ⟨doc, _, made⟩ := bind_eq_ok_iff.mp loaded
          cases made
          exact ⟨decl, fields, found, shaped, rfl, each⟩
      · cases loaded

def HttpRequest.wanted (h : HttpRequest) : List Wanted :=
  h.types.flatMap (·.wanted [])

def ApiEntry.wanted (entry : ApiEntry) : List Wanted :=
  entry.http.toList.flatMap HttpRequest.wanted

theorem registerAll_eq {i : Imports} (opened : i.settled = none) (tes : List TypeExpr) :
    registerAll i tes = .ok (i.record (tes.flatMap (·.wanted []))) := by
  induction tes generalizing i with
  | nil => rfl
  | cons te rest ih =>
      have still : (i.record (te.wanted [])).settled = none := opened
      rw [registerAll, Imports.addType_eq opened]
      calc
        registerAll (i.record (te.wanted [])) rest =
            .ok ((i.record (te.wanted [])).record (rest.flatMap (·.wanted []))) := ih still
        _ = .ok (i.record ((te :: rest).flatMap (·.wanted []))) := by
            rw [Imports.record_append, List.flatMap_cons]

def ApiEntry.warning (phase : Phase) (entry : ApiEntry) : Diagnostic :=
  ⟨.warning, phase.name, entry.skipped, some entry.location⟩

namespace EmitContext

def pass (c : EmitContext) (entries : List ApiEntry) : EmitContext :=
  { c with
    diagnostics := c.diagnostics ++ (entries.filter (·.http.isNone)).map (·.warning c.phase) }

theorem pass_nil (c : EmitContext) : c.pass [] = c := by
  rw [pass, List.filter_nil, List.map_nil, List.append_nil]

theorem pass_append (c : EmitContext) (first second : List ApiEntry) :
    (c.pass first).pass second = c.pass (first ++ second) := by
  simp only [pass, List.filter_append, List.map_append, List.append_assoc]

end EmitContext

theorem collectEntry_eq {i : Imports} (opened : i.settled = none) (entry : ApiEntry)
    (context : EmitContext) :
    collectEntry entry i context =
      ⟨.ok entry.http.isSome, i.record entry.wanted, context.pass [entry]⟩ := by
  unfold collectEntry
  cases found : entry.http with
  | none =>
      rw [ApiEntry.wanted, found, EmitContext.pass, List.filter_cons_of_pos (by rw [found]; rfl)]
      rfl
  | some http =>
      have silent : context.pass [entry] = context := by
        rw [EmitContext.pass, List.filter_cons_of_neg (by rw [found]; exact Bool.false_ne_true),
          List.filter_nil, List.map_nil, List.append_nil]
      simp only [registerAll_eq opened, ApiEntry.wanted, found, Option.toList_some,
        List.flatMap_singleton, Option.isSome_some, silent]
      rfl

namespace PhasedGenerator

theorem collectAll_eq {g : PhasedGenerator ApiEntry} (collects : g.collect = collectEntry)
    {i : Imports} (opened : i.settled = none) (entries : List ApiEntry) (context : EmitContext) :
    g.collectAll entries i context =
      ⟨.ok (entries.filter (·.http.isSome)), i.record (entries.flatMap ApiEntry.wanted),
        context.pass entries⟩ := by
  induction entries generalizing i context with
  | nil =>
      rw [context.pass_nil]
      rfl
  | cons entry rest ih =>
      have still : (i.record entry.wanted).settled = none := opened
      rw [collectAll, collects]
      simp only [collectEntry_eq opened, ih still, Except.map, Imports.record_append,
        List.flatMap_cons, List.filter_cons, EmitContext.pass_append, List.singleton_append]

theorem run_eq {g : PhasedGenerator ApiEntry} (collects : g.collect = collectEntry)
    {i settled : Imports} (opened : i.settled = none) {entries : List ApiEntry}
    (settles : (i.record (entries.flatMap ApiEntry.wanted)).settle = .ok settled) :
    g.run entries i =
      (g.emitPhases settled (entries.filter (·.http.isSome))
        (EmitContext.start.pass entries).diagnostics, settled) := by
  simp only [run, collectAll_eq collects opened entries .start, settles]
  exact congrArg (·, settled) (g.emitFrom_collect settled _ _)

/-- The generators of an API warn of the entries they leave out, and do nothing else to the
context. -/
theorem onlyWarns_of_collects {g : PhasedGenerator ApiEntry} (collects : g.collect = collectEntry) :
    g.OnlyWarns := by
  intro entry imports context
  rw [collects]
  unfold collectEntry
  split
  · exact ⟨[(entry.location, entry.skipped)], rfl⟩
  · split <;> exact ⟨[], rfl⟩

theorem staysSettled_of_collects {g : PhasedGenerator ApiEntry}
    (collects : g.collect = collectEntry) : g.StaysSettled := by
  intro entry imports context settled
  rw [collects]
  unfold collectEntry
  split
  · exact settled
  · next http _ =>
      cases types : http.types with
      | nil => exact settled
      | cons te rest =>
          rw [registerAll, Imports.addType_of_isSettled settled]
          exact settled

theorem emitAll_schemaFault {emit : ApiEntry → Imports → Emitted} {i : Imports}
    {entries : List ApiEntry} (each : ∀ entry ∈ entries, FailsOnly IsSchemaFault (emit entry i)) :
    FailsOnly IsSchemaFault (emitAll emit i entries) := by
  refine .bind (.mapM each) ?_
  intro fragments _
  exact .ok _

/-- Each step of the phases names only what its entry registered. -/
structure NamesWanted (g : PhasedGenerator ApiEntry) : Prop where
  decl : ∀ entry (i : Imports), i.Ready → i.KnowsAll entry.wanted →
    FailsOnly IsSchemaFault (g.decl entry i)
  ctor : ∀ entry (i : Imports), i.Ready → i.KnowsAll entry.wanted →
    FailsOnly IsSchemaFault (g.ctor entry i)
  impl : ∀ entry (i : Imports), i.Ready → i.KnowsAll entry.wanted →
    FailsOnly IsSchemaFault (g.impl entry i)

theorem NamesWanted.emitPhases_schemaFault {g : PhasedGenerator ApiEntry} (names : g.NamesWanted)
    {i : Imports} (ready : i.Ready) {entries : List ApiEntry}
    (known : ∀ entry ∈ entries, i.KnowsAll entry.wanted) (diagnostics : List Diagnostic) :
    FailsOnly IsSchemaFault (g.emitPhases i entries diagnostics) := by
  refine .bind (emitAll_schemaFault fun entry member =>
    names.decl entry i ready (known entry member)) ?_
  intro decls _
  refine .bind (emitAll_schemaFault fun entry member =>
    names.ctor entry i ready (known entry member)) ?_
  intro ctors _
  refine .bind (emitAll_schemaFault fun entry member =>
    names.impl entry i ready (known entry member)) ?_
  intro impls _
  exact .ok _

end PhasedGenerator

namespace Api

def wanted (api : Api) (helpers : List String) : List Wanted :=
  api.typeExpr.wanted helpers ++ api.entries.flatMap ApiEntry.wanted

def settledImports (api : Api) (helpers : List String) : Imports :=
  .settledFor (typescriptMapper []) .named (api.wanted helpers)

def warnings (api : Api) : List Diagnostic :=
  (api.entries.filter (·.http.isNone)).map (·.warning .collect)

theorem emit_eq (api : Api) (helpers : List String) {g : PhasedGenerator ApiEntry}
    (collects : g.collect = collectEntry) :
    api.emit helpers g =
      (g.emitPhases (api.settledImports helpers) (api.entries.filter (·.http.isSome))
        api.warnings).map (·, api.settledImports helpers) := by
  let start : Imports := { Imports.new (typescriptMapper []) with style := .named }
  have headed : start.addTypeWithHelpers api.typeExpr helpers =
      .ok (start.record (api.typeExpr.wanted helpers)) := Imports.addTypeWithHelpers_eq rfl _ _
  have settles : ((start.record (api.typeExpr.wanted helpers)).record
      (api.entries.flatMap ApiEntry.wanted)).settle = .ok (api.settledImports helpers) := by
    rw [Imports.record_append]
    exact Imports.settle_record _ _ _
  have collected : (EmitContext.start.pass api.entries).diagnostics = api.warnings :=
    List.nil_append _
  change (start.addTypeWithHelpers api.typeExpr helpers >>= _) = _
  rw [headed]
  simp only [bind, Except.bind, PhasedGenerator.run_eq collects rfl settles, collected]
  cases g.emitPhases (api.settledImports helpers) (api.entries.filter (·.http.isSome))
      api.warnings with
  | error e => rfl
  | ok output => rfl

theorem settledImports_ready (api : Api) (helpers : List String) :
    (api.settledImports helpers).Ready :=
  Imports.settledFor_ready _ _ _

theorem settledImports_knows (api : Api) (helpers : List String) :
    (api.settledImports helpers).KnowsAll (api.wanted helpers) :=
  Imports.settledFor_knows _ _ _

theorem emit_settled {api : Api} {helpers : List String} {g : PhasedGenerator ApiEntry}
    (collects : g.collect = collectEntry) {output : PhasedOutput} {i : Imports}
    (done : api.emit helpers g = .ok (output, i)) : i = api.settledImports helpers := by
  rw [api.emit_eq helpers collects] at done
  cases emitted : g.emitPhases (api.settledImports helpers) (api.entries.filter (·.http.isSome))
      api.warnings with
  | error e =>
      rw [emitted] at done
      cases done
  | ok output =>
      rw [emitted] at done
      cases done
      rfl

theorem emit_schemaFault (api : Api) (helpers : List String) {g : PhasedGenerator ApiEntry}
    (collects : g.collect = collectEntry) (names : g.NamesWanted) :
    FailsOnly IsSchemaFault (api.emit helpers g) := by
  rw [api.emit_eq helpers collects]
  refine .map _ (names.emitPhases_schemaFault (api.settledImports_ready helpers) ?_ api.warnings)
  intro entry member
  exact (api.settledImports_knows helpers).right.part (List.mem_filter.mp member).1

theorem helperName_ok (api : Api) (helpers : List String) (before : String)
    (member : before ∈ helpers) :
    ∃ text, (api.settledImports helpers).helperName api.name before = .ok text := by
  have known : (api.settledImports helpers).Knows ⟨api.name, before⟩ :=
    (api.settledImports_knows helpers).left _ (TypeExpr.wanted_of_helper api.name member [])
  exact (api.settledImports_ready helpers).helperName_ok known rfl

end Api

section Requests

variable {i : Imports} {entry : ApiEntry} {http : HttpRequest}

theorem knows_types (known : i.KnowsAll entry.wanted) (found : entry.http = some http)
    {te : TypeExpr} (member : te ∈ http.types) : i.KnowsAll (te.wanted []) := by
  rw [ApiEntry.wanted, found] at known
  exact (known.part List.mem_cons_self).part member

theorem response_schemaFault (ready : i.Ready) (known : i.KnowsAll entry.wanted)
    (found : entry.http = some http) :
    FailsOnly IsSchemaFault (i.referencedName http.response) :=
  ready.referencedName_schemaFault
    (knows_types known found (List.mem_append_right _ List.mem_cons_self))

theorem request_schemaFault (ready : i.Ready) (known : i.KnowsAll entry.wanted)
    (found : entry.http = some http) {request : TypeExpr} (carried : http.request = some request) :
    FailsOnly IsSchemaFault (i.referencedName request) := by
  refine ready.referencedName_schemaFault
    (knows_types known found (List.mem_append_left _ ?_))
  rw [carried]
  exact List.mem_cons_self

end Requests

end SchemaBindings
