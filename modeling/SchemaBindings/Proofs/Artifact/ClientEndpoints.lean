import SchemaBindings.Proofs.Artifact.ApiText

/-!
The client and the endpoints of one API. Either both can be made or neither, for what each needs is
a text for the types of every request. Both tell of the same entries left out, take up the same
requests in one order and import from the same modules.
-/

namespace SchemaBindings

def HttpRequest.WrittenBy (http : HttpRequest) (i : Imports) : Prop :=
  ∀ te ∈ http.types, ∃ text, i.referencedName te = .ok text

section Writing

variable {http : HttpRequest} {i : Imports} {entry : ApiEntry}

theorem writtenBy_of_none (carried : http.request = none) :
    http.WrittenBy i ↔ ∃ text, i.referencedName http.response = .ok text := by
  simp [HttpRequest.WrittenBy, HttpRequest.types, carried]

theorem writtenBy_of_some {request : TypeExpr} (carried : http.request = some request) :
    http.WrittenBy i ↔ (∃ text, i.referencedName request = .ok text) ∧
      ∃ text, i.referencedName http.response = .ok text := by
  simp [HttpRequest.WrittenBy, HttpRequest.types, carried]

namespace ClientGenerator

theorem slot_ok_iff (found : entry.http = some http) :
    (∃ part, slot entry i = .ok part) ↔ http.WrittenBy i := by
  simp only [slot, found, slotType, exists_bind_eq_ok_iff, exists_pure_eq_ok, and_true]
  cases carried : http.request with
  | none =>
      simp only [writtenBy_of_none carried, exists_pure_eq_ok, and_true]
  | some request =>
      rw [writtenBy_of_some carried, and_comm]
      simp only [exists_bind_eq_ok_iff, exists_pure_eq_ok, and_true, exists_and_right]

theorem method_ok_iff (found : entry.http = some http) :
    (∃ part, method entry i = .ok part) ↔ http.WrittenBy i := by
  simp only [method, found, exists_bind_eq_ok_iff]
  cases carried : http.request with
  | none =>
      simp only [writtenBy_of_none carried, exists_pure_eq_ok, and_true]
  | some request =>
      rw [writtenBy_of_some carried, and_comm]
      simp only [exists_bind_eq_ok_iff, exists_pure_eq_ok, and_true, exists_and_right]

theorem initializer_ok (entry : ApiEntry) (i : Imports) :
    ∃ part, initializer entry i = .ok part := by
  unfold initializer
  cases entry.http <;> exact ⟨_, rfl⟩

theorem steps_ok_iff (found : entry.http = some http) :
    ((∃ part, phases.decl entry i = .ok part) ∧ (∃ part, phases.ctor entry i = .ok part) ∧
      ∃ part, phases.impl entry i = .ok part) ↔ http.WrittenBy i := by
  constructor
  · rintro ⟨slotted, _, _⟩
    exact (slot_ok_iff found).mp slotted
  · intro written
    exact ⟨(slot_ok_iff found).mpr written, initializer_ok entry i,
      (method_ok_iff found).mpr written⟩

end ClientGenerator

namespace EndpointsGenerator

theorem handler_ok_iff (found : entry.http = some http) :
    (∃ part, handler entry i = .ok part) ↔ http.WrittenBy i := by
  simp only [handler, found, requestType, exists_bind_eq_ok_iff, exists_pure_eq_ok, and_true]
  cases carried : http.request with
  | none =>
      rw [writtenBy_of_none carried]
      constructor
      · rintro ⟨_, _, written⟩
        exact written
      · intro written
        exact ⟨_, rfl, written⟩
  | some request =>
      rw [writtenBy_of_some carried]
      exact exists_and_right

theorem steps_ok_iff (found : entry.http = some http) :
    ((∃ part, phases.decl entry i = .ok part) ∧ (∃ part, phases.ctor entry i = .ok part) ∧
      ∃ part, phases.impl entry i = .ok part) ↔ http.WrittenBy i := by
  constructor
  · rintro ⟨handled, _, _⟩
    exact (handler_ok_iff found).mp handled
  · intro written
    exact ⟨(handler_ok_iff found).mpr written, ⟨_, rfl⟩, ⟨_, rfl⟩⟩

end EndpointsGenerator

end Writing

namespace Api

def WrittenBy (api : Api) (i : Imports) : Prop :=
  ∀ entry ∈ api.requests, ∀ http, entry.http = some http → http.WrittenBy i

/-- The helpers of the API itself do not matter for the texts of its requests. -/
theorem writtenBy_settled (api : Api) (helpers others : List String) :
    api.WrittenBy (api.settledImports helpers) ↔ api.WrittenBy (api.settledImports others) := by
  have known (helpers : List String) {entry : ApiEntry} (member : entry ∈ api.requests) :
      (api.settledImports helpers).KnowsAll entry.wanted :=
    (api.settledImports_knows helpers).right.part (requests_http member).1
  unfold WrittenBy HttpRequest.WrittenBy
  refine forall₂_congr fun entry member => forall₂_congr fun http found =>
    forall₂_congr fun te part => ?_
  have alike := (api.settledImports_ready helpers).error?_referencedName
    (api.settledImports_ready others) (knows_types (known helpers member) found part)
    (knows_types (known others member) found part)
  rw [← error?_eq_none_iff, alike, error?_eq_none_iff]

section Making

variable {api : Api} {helpers : List String} {g : PhasedGenerator ApiEntry}
  {file : PhasedOutput → Imports → Except GenerationError Script.File} {path : String}

theorem made_iff
    (filed : ∀ output, ∃ made, file output (api.settledImports helpers) = .ok made)
    (steps : ∀ entry http, entry.http = some http →
      (((∃ part, g.decl entry (api.settledImports helpers) = .ok part) ∧
        (∃ part, g.ctor entry (api.settledImports helpers) = .ok part) ∧
        ∃ part, g.impl entry (api.settledImports helpers) = .ok part) ↔
        http.WrittenBy (api.settledImports helpers))) :
    (∃ a, (api.content helpers g file).map (⟨path, ·, api.warnings⟩) = .ok (a : Artifact)) ↔
      api.WrittenBy (api.settledImports helpers) := by
  have mapped (x : Except GenerationError String) :
      (∃ a, x.map (⟨path, ·, api.warnings⟩) = .ok (a : Artifact)) ↔ ∃ text, x = .ok text := by
    cases x with
    | error e => exact ⟨nofun, nofun⟩
    | ok text => exact ⟨fun _ => ⟨text, rfl⟩, fun _ => ⟨_, rfl⟩⟩
  have emitted : (∃ text, api.content helpers g file = .ok text) ↔
      ∃ output, g.emitPhases (api.settledImports helpers) api.requests [] = .ok output := by
    simp only [content, exists_bind_eq_ok_iff, exists_pure_eq_ok, and_true, filed]
    rfl
  rw [mapped, emitted, PhasedGenerator.emitPhases_ok_iff]
  refine forall₂_congr fun entry member => ?_
  obtain ⟨_, http, found⟩ := requests_http member
  rw [steps entry http found, found]
  simp only [Option.some.injEq, forall_eq']

theorem made_of {a : Artifact}
    (done : (api.content helpers g file).map (⟨path, ·, api.warnings⟩) = .ok a) :
    a.diagnostics = api.warnings ∧
      ∃ output made, g.emitPhases (api.settledImports helpers) api.requests [] = .ok output ∧
        file output (api.settledImports helpers) = .ok made ∧ a.content = made.render := by
  obtain ⟨text, rendered, rfl⟩ := map_eq_ok_iff.mp done
  obtain ⟨output, emitted, rendered⟩ := bind_eq_ok_iff.mp rendered
  obtain ⟨made, filed, rendered⟩ := bind_eq_ok_iff.mp rendered
  cases rendered
  exact ⟨rfl, output, made, emitted, filed, rfl⟩

end Making

theorem eraseDups_of_repeated {m : String} {front : List String} (own : ∀ x ∈ front, x = m)
    (rest : List String) : (m :: (front ++ rest)).eraseDups = (m :: rest).eraseDups := by
  have none : front.filter (fun x => !x == m) = [] := by
    refine List.filter_eq_nil_iff.mpr ?_
    intro x member
    simp [own x member]
  rw [List.eraseDups_cons, List.eraseDups_cons, List.filter_append, none, List.nil_append]

theorem modules_settled (api : Api) (helpers : List String) :
    (api.settledImports helpers).ledger.modules =
      (api.name.moduleName ::
        (api.entries.flatMap ApiEntry.wanted).map (·.name.moduleName)).eraseDups := by
  let rest := (api.entries.flatMap ApiEntry.wanted).map (·.name.moduleName)
  -- Nothing is native or local here, so all that is wanted is in the ledger.
  have imported : (api.wanted helpers).filter
      ((api.settledImports helpers).IsForeign ·.name) = api.wanted helpers :=
    List.filter_eq_self.mpr fun w _ => decide_eq_true ⟨nofun, rfl⟩
  have pairs : (api.settledImports helpers).ledger =
      Ledger.empty.addAll ((api.wanted helpers).map Wanted.entry) := by
    rw [← imported]
    rfl
  have heads : (api.wanted helpers).map (·.name.moduleName) =
      api.name.moduleName :: (helpers.map (fun _ => api.name.moduleName) ++ rest) := by
    simp only [wanted, typeExpr, TypeExpr.wanted, Wanted.declaration, TypeExpr.reference,
      TypeHead.reference?, TypeExpr.referencesAll, Option.toList_some, List.flatMap_singleton,
      List.flatMap_nil, List.append_nil, List.map_append, List.map_map, List.map_cons,
      List.cons_append, rest]
    rfl
  calc (api.settledImports helpers).ledger.modules
      = ((api.wanted helpers).map (·.name.moduleName)).eraseDups := by
        rw [pairs, Ledger.modules_addAll Ledger.ordered_empty.distinct, List.map_map]
        rfl
    _ = (api.name.moduleName :: rest).eraseDups := by
        rw [heads]
        refine eraseDups_of_repeated ?_ rest
        intro m member
        obtain ⟨_, _, rfl⟩ := List.mem_map.mp member
        rfl

end Api

namespace ClientGenerator

variable {g : ClientGenerator} {s : Schema} {api : Api} {a : Artifact}

theorem generate_ok_iff (loaded : s.api g.api = .ok api) :
    (∃ a, g.generate s = .ok a) ↔ api.WrittenBy (api.settledImports ["sn", "make"]) := by
  rw [g.generate_eq loaded]
  exact Api.made_iff (g.file_ok api) fun entry http => steps_ok_iff

theorem madeOf_of_generate (loaded : s.api g.api = .ok api) (made : g.generate s = .ok a) :
    a.diagnostics = api.warnings ∧ ∃ modules, g.MadeOf api modules a ∧
      modules.map (·.moduleName) = (api.settledImports ["sn", "make"]).ledger.modules := by
  rw [g.generate_eq loaded] at made
  obtain ⟨told, output, file, emitted, filed, content⟩ := Api.made_of made
  obtain ⟨decls, ctors, impls, _, _⟩ := PhasedGenerator.emitPhases_eq_ok_iff.mp emitted
  obtain ⟨slots, areSlots, declared⟩ :=
    lines_of_emitsEach Line.deeper decls fun _ _ _ => isSlot_of_slot
  obtain ⟨initializers, areInitializers, constructed⟩ :=
    lines_of_emitsEach (Line.deeper ∘ Line.deeper) ctors fun _ _ _ =>
      isInitializer_of_initializer (i := api.settledImports ["sn", "make"])
  obtain ⟨methods, areMethods, implemented⟩ :=
    lines_of_emitsEach Line.deeper impls fun _ _ _ => isMethod_of_method
  obtain ⟨modules, block, lists⟩ :=
    Imports.modules_lists (api.settledImports_ready ["sn", "make"])
  obtain ⟨scopedName, maker, written⟩ :=
    lines_of_file filed block (Api.importLines_settled lists g.importPrefix)
  refine ⟨told, modules, ⟨slots, initializers, methods, scopedName, maker, areSlots,
    areInitializers, areMethods, ?_⟩, lists.modules⟩
  rw [content, file.render_eq_lines, written, declared, constructed, implemented]

end ClientGenerator

namespace EndpointsGenerator

variable {g : EndpointsGenerator} {s : Schema} {api : Api} {b : Artifact}

theorem generate_ok_iff (loaded : s.api g.api = .ok api) :
    (∃ b, g.generate s = .ok b) ↔ api.WrittenBy (api.settledImports ["make"]) := by
  rw [g.generate_eq loaded]
  exact Api.made_iff (g.file_ok api) fun entry http => steps_ok_iff

theorem madeOf_of_generate (loaded : s.api g.api = .ok api) (made : g.generate s = .ok b) :
    b.diagnostics = api.warnings ∧ ∃ modules, g.MadeOf api modules b ∧
      modules.map (·.moduleName) = (api.settledImports ["make"]).ledger.modules := by
  rw [g.generate_eq loaded] at made
  obtain ⟨told, output, file, emitted, filed, content⟩ := Api.made_of made
  obtain ⟨decls, _, impls, _, _⟩ := PhasedGenerator.emitPhases_eq_ok_iff.mp emitted
  obtain ⟨handlers, areHandlers, declared⟩ :=
    lines_of_emitsEach Line.deeper decls fun _ _ _ => isHandler_of_handler
  obtain ⟨registrations, areRegistrations, implemented⟩ :=
    lines_of_emitsEach Line.deeper impls fun _ _ _ _ =>
      isRegistration_of_registration (i := api.settledImports ["make"])
  obtain ⟨modules, block, lists⟩ := Imports.modules_lists (api.settledImports_ready ["make"])
  obtain ⟨maker, written⟩ :=
    lines_of_file filed block (Api.importLines_settled lists g.importPrefix)
  refine ⟨told, modules, ⟨handlers, registrations, maker, areHandlers, areRegistrations, ?_⟩,
    lists.modules⟩
  rw [content, file.render_eq_lines, written, declared, implemented]

end EndpointsGenerator

/--
A client and endpoints of one API can both be made or neither can. Made, they tell of the same
entries left out, the parts of each are for the same requests in one order, and both import from
the same modules in one order.
-/
theorem client_endpoints_agree {client : ClientGenerator} {endpoints : EndpointsGenerator}
    (shared : client.api = endpoints.api) (s : Schema) :
    ((∃ a, client.generate s = .ok a) ↔ ∃ b, endpoints.generate s = .ok b) ∧
    ∀ a b, client.generate s = .ok a → endpoints.generate s = .ok b →
      a.diagnostics = b.diagnostics ∧
      ∃ api modules others, s.api client.api = .ok api ∧
        client.MadeOf api modules a ∧ endpoints.MadeOf api others b ∧
        modules.map (·.moduleName) = others.map (·.moduleName) := by
  cases loaded : s.api client.api with
  | error e =>
      have clientFails : client.generate s = .error e := by
        rw [ClientGenerator.generate, loaded]
        rfl
      have endpointsFail : endpoints.generate s = .error e := by
        rw [EndpointsGenerator.generate, ← shared, loaded]
        rfl
      simp [clientFails, endpointsFail]
  | ok api =>
      have otherLoaded : s.api endpoints.api = .ok api := shared ▸ loaded
      refine ⟨?_, ?_⟩
      · rw [ClientGenerator.generate_ok_iff loaded, EndpointsGenerator.generate_ok_iff otherLoaded]
        exact api.writtenBy_settled _ _
      · intro a b made otherMade
        obtain ⟨told, modules, parts, listed⟩ :=
          ClientGenerator.madeOf_of_generate loaded made
        obtain ⟨otherTold, others, otherParts, otherListed⟩ :=
          EndpointsGenerator.madeOf_of_generate otherLoaded otherMade
        refine ⟨told.trans otherTold.symm, api, modules, others, rfl, parts, otherParts, ?_⟩
        rw [listed, otherListed, api.modules_settled, api.modules_settled]

namespace Sample

def scatteredClient : ClientGenerator := .new "client.ts" apiRequests

def scatteredEndpoints : EndpointsGenerator := .new "endpoints.ts" apiRequests

theorem scattered_agree :
    (∃ a, scatteredClient.generate scattered = .ok a) ∧
    (∃ b, scatteredEndpoints.generate scattered = .ok b) ∧
    ∀ a b, scatteredClient.generate scattered = .ok a →
      scatteredEndpoints.generate scattered = .ok b →
      a.diagnostics = b.diagnostics ∧
      ∃ api modules others, scattered.api scatteredClient.api = .ok api ∧
        scatteredClient.MadeOf api modules a ∧ scatteredEndpoints.MadeOf api others b ∧
        modules.map (·.moduleName) = others.map (·.moduleName) := by
  obtain ⟨both, agree⟩ := client_endpoints_agree
    (show scatteredClient.api = scatteredEndpoints.api from rfl) scattered
  have made : ∃ a, scatteredClient.generate scattered = .ok a := by
    have done : error? (scatteredClient.generate scattered) = none := by decide +kernel
    exact error?_eq_none_iff.mp done
  exact ⟨made, both.mp made, agree⟩

end Sample

end SchemaBindings
