import SchemaBindings.Proofs.Artifact.RequestTypes
import SchemaBindings.Sample.Protoapp

/-!
The artifacts of an API are made of its recognized entries alone. An API has a plain form, without
the entries left out and with nothing in it but what is emitted, and its content is that of the
plain form; the entries left out are told of in the diagnostics.
-/

namespace SchemaBindings

structure RecognizedEntry where
  name : String
  doc : Option String
  method : HttpMethod
  request : Option TypeExpr
  response : TypeExpr
  requiresToken : Bool
  deriving Repr

def ApiEntry.recognized? (entry : ApiEntry) : Option RecognizedEntry :=
  entry.http.map fun http =>
    ⟨entry.name, entry.doc, http.method, http.request, http.response,
      http.security.requiresToken⟩

def RecognizedEntry.entry (r : RecognizedEntry) : ApiEntry where
  name := r.name
  location := ""
  doc := r.doc
  typeExpr := .primitive "Void"
  http := some ⟨r.method, r.request, r.response, if r.requiresToken then .token else .anyone⟩

theorem requiresToken_of_bool (b : Bool) :
    (if b then Security.token else .anyone).requiresToken = b := by
  cases b with
  | true => rfl
  | false => rfl

theorem ApiEntry.recognized?_none {entry : ApiEntry} (found : entry.http = none) :
    entry.recognized? = none := by
  rw [recognized?, found]
  rfl

theorem ApiEntry.recognized?_some {entry : ApiEntry} {http : HttpRequest}
    (found : entry.http = some http) :
    entry.recognized? = some ⟨entry.name, entry.doc, http.method, http.request, http.response,
      http.security.requiresToken⟩ := by
  rw [recognized?, found]
  rfl

namespace Api

def recognized (api : Api) : List RecognizedEntry :=
  api.entries.filterMap ApiEntry.recognized?

def plain (api : Api) : Api :=
  { api with entries := api.recognized.map RecognizedEntry.entry }

theorem plain_eq {first second : Api} (name : first.name = second.name)
    (doc : first.doc = second.doc) (recognized : first.recognized = second.recognized) :
    first.plain = second.plain := by
  rw [plain, plain, name, doc, recognized]

end Api

section Accepted

variable {entries : List ApiEntry}

theorem plain_accepted (rs : List RecognizedEntry) :
    (rs.map RecognizedEntry.entry).filter (·.http.isSome) = rs.map RecognizedEntry.entry := by
  refine List.filter_eq_self.mpr ?_
  intro entry member
  obtain ⟨r, _, rfl⟩ := List.mem_map.mp member
  rfl

theorem wanted_plain (entries : List ApiEntry) :
    ((entries.filterMap ApiEntry.recognized?).map RecognizedEntry.entry).flatMap ApiEntry.wanted =
      entries.flatMap ApiEntry.wanted := by
  induction entries with
  | nil => rfl
  | cons entry rest ih =>
      rw [List.flatMap_cons, ← ih]
      cases found : entry.http with
      | none =>
          rw [List.filterMap_cons_none (ApiEntry.recognized?_none found), ApiEntry.wanted, found]
          rfl
      | some http =>
          rw [List.filterMap_cons_some (ApiEntry.recognized?_some found), List.map_cons,
            List.flatMap_cons, ApiEntry.wanted, ApiEntry.wanted, found]
          rfl

theorem mapM_plain {β : Type} {f : ApiEntry → Except GenerationError β}
    (factors : ∀ entry r, entry.recognized? = some r → f entry = f r.entry)
    (entries : List ApiEntry) :
    (entries.filter (·.http.isSome)).mapM f =
      ((entries.filterMap ApiEntry.recognized?).map RecognizedEntry.entry).mapM f := by
  induction entries with
  | nil => rfl
  | cons entry rest ih =>
      rw [List.filter_cons]
      cases found : entry.http with
      | none =>
          rw [List.filterMap_cons_none (ApiEntry.recognized?_none found), ← ih]
          rfl
      | some http =>
          have recognized := ApiEntry.recognized?_some found
          rw [List.filterMap_cons_some recognized, List.map_cons, List.mapM_cons, ← ih,
            ← factors entry _ recognized, ← List.mapM_cons]
          rfl

theorem length_plain (entries : List ApiEntry) :
    (entries.filter (·.http.isSome)).length =
      ((entries.filterMap ApiEntry.recognized?).map RecognizedEntry.entry).length := by
  rw [List.length_map, List.length_filterMap_eq_countP, List.countP_eq_length_filter]
  simp only [ApiEntry.recognized?, Option.isSome_map]

end Accepted

namespace PhasedGenerator

/-- Each emitting step takes from an accepted entry only what is recognized in it. -/
structure EmitsRecognized (g : PhasedGenerator ApiEntry) : Prop where
  decl : ∀ i entry r, entry.recognized? = some r → g.decl entry i = g.decl r.entry i
  ctor : ∀ i entry r, entry.recognized? = some r → g.ctor entry i = g.ctor r.entry i
  impl : ∀ i entry r, entry.recognized? = some r → g.impl entry i = g.impl r.entry i

theorem emitPhases_diagnostics (g : PhasedGenerator ApiEntry) (i : Imports)
    (entries : List ApiEntry) (diagnostics : List Diagnostic) :
    g.emitPhases i entries diagnostics =
      (g.emitPhases i entries []).map ({ · with diagnostics }) := by
  unfold emitPhases
  cases emitAll g.decl i entries with
  | error e => rfl
  | ok decls =>
      cases emitAll g.ctor i entries with
      | error e => rfl
      | ok ctors =>
          cases emitAll g.impl i entries with
          | error e => rfl
          | ok impls => rfl

theorem EmitsRecognized.emitPhases_plain {g : PhasedGenerator ApiEntry}
    (emits : g.EmitsRecognized) (i : Imports) (entries : List ApiEntry)
    (diagnostics : List Diagnostic) :
    g.emitPhases i (entries.filter (·.http.isSome)) diagnostics =
      g.emitPhases i ((entries.filterMap ApiEntry.recognized?).map RecognizedEntry.entry)
        diagnostics := by
  simp only [emitPhases, emitAll, mapM_plain (emits.decl i), mapM_plain (emits.ctor i),
    mapM_plain (emits.impl i), length_plain]

end PhasedGenerator

namespace Api

def content (api : Api) (helpers : List String) (g : PhasedGenerator ApiEntry)
    (file : PhasedOutput → Imports → Except GenerationError Script.File) :
    Except GenerationError String := do
  let imports := api.settledImports helpers
  let output ← g.emitPhases imports (api.entries.filter (·.http.isSome)) []
  return (← file output imports).render

/-- An artifact of the API has this content and one warning for each entry left out, since what puts
the output together does not look at its diagnostics. -/
theorem artifact_eq (api : Api) (helpers : List String) {g : PhasedGenerator ApiEntry}
    (collects : g.collect = collectEntry)
    {file : PhasedOutput → Imports → Except GenerationError Script.File}
    (silent : ∀ output diagnostics i, file { output with diagnostics } i = file output i)
    (path : String) :
    (do let (output, imports) ← api.emit helpers g
        let file ← file output imports
        return (⟨path, file.render, output.diagnostics⟩ : Artifact)) =
      (api.content helpers g file).map (⟨path, ·, api.warnings⟩) := by
  rw [api.emit_eq helpers collects, PhasedGenerator.emitPhases_diagnostics, content]
  cases g.emitPhases (api.settledImports helpers) (api.entries.filter (·.http.isSome)) [] with
  | error e => rfl
  | ok output =>
      simp only [bind, Except.bind, Except.map, silent]
      cases file output (api.settledImports helpers) with
      | error e => rfl
      | ok file => rfl

theorem content_plain {g : PhasedGenerator ApiEntry} (emits : g.EmitsRecognized) (api : Api)
    (helpers : List String) (file : PhasedOutput → Imports → Except GenerationError Script.File) :
    api.plain.content helpers g file = api.content helpers g file := by
  have imports : api.plain.settledImports helpers = api.settledImports helpers := by
    rw [settledImports, settledImports, wanted, wanted]
    exact congrArg (fun entries => Imports.settledFor _ _ (_ ++ entries)) (wanted_plain api.entries)
  have accepted : api.plain.entries.filter (·.http.isSome) =
      (api.entries.filterMap ApiEntry.recognized?).map RecognizedEntry.entry :=
    plain_accepted api.recognized
  rw [content, content, imports, accepted, emits.emitPhases_plain]

theorem content_congr {g : PhasedGenerator ApiEntry} (emits : g.EmitsRecognized) {left right : Api}
    (plain : left.plain = right.plain) (helpers : List String)
    (file : PhasedOutput → Imports → Except GenerationError Script.File) :
    left.content helpers g file = right.content helpers g file := by
  rw [← content_plain emits left, plain, content_plain emits right]

end Api

theorem Schema.api_name {s : Schema} {name : ScopedName} {api : Api}
    (loaded : s.api name = .ok api) : api.name = name := by
  obtain ⟨_, _, _, _, named, _⟩ := Schema.exists_of_api loaded
  exact named

namespace ClientGenerator

theorem phases_emitsRecognized : phases.EmitsRecognized where
  decl i entry r recognized := by
    obtain ⟨http, found, rfl⟩ := Option.map_eq_some_iff.mp recognized
    simp only [phases, slot, found]
    rfl
  ctor i entry r recognized := by
    obtain ⟨http, found, rfl⟩ := Option.map_eq_some_iff.mp recognized
    simp only [phases, initializer, found, RecognizedEntry.entry, factoryName,
      requiresToken_of_bool]
    rfl
  impl i entry r recognized := by
    obtain ⟨http, found, rfl⟩ := Option.map_eq_some_iff.mp recognized
    simp only [phases, method, found]
    rfl

theorem generate_eq (g : ClientGenerator) {s : Schema} {api : Api}
    (loaded : s.api g.api = .ok api) :
    g.generate s = (api.content ["sn", "make"] phases (g.file api)).map
      (⟨g.output, ·, api.warnings⟩) := by
  rw [generate, loaded]
  exact api.artifact_eq _ rfl (fun _ _ _ => rfl) g.output

end ClientGenerator

namespace EndpointsGenerator

theorem phases_emitsRecognized : phases.EmitsRecognized where
  decl i entry r recognized := by
    obtain ⟨http, found, rfl⟩ := Option.map_eq_some_iff.mp recognized
    simp only [phases, handler, found]
    rfl
  ctor _ _ _ _ := rfl
  impl i entry r recognized := by
    obtain ⟨http, _, rfl⟩ := Option.map_eq_some_iff.mp recognized
    rfl

theorem generate_eq (g : EndpointsGenerator) {s : Schema} {api : Api}
    (loaded : s.api g.api = .ok api) :
    g.generate s = (api.content ["make"] phases (g.file api)).map
      (⟨g.output, ·, api.warnings⟩) := by
  rw [generate, loaded]
  exact api.artifact_eq _ rfl (fun _ _ _ => rfl) g.output

end EndpointsGenerator

/-- Two runs end alike, with one failure or with one content, and each that succeeds has told of
exactly the entries left out. -/
structure SameContent (first second : Except GenerationError Artifact) (left right : Api) :
    Prop where
  content : first.map (·.content) = second.map (·.content)
  warnings : ∀ artifact, first = .ok artifact → artifact.diagnostics = left.warnings
  otherWarnings : ∀ artifact, second = .ok artifact → artifact.diagnostics = right.warnings

theorem sameContent_of_eq {x y : Except GenerationError String} (same : x = y) (path : String)
    (left right : Api) :
    SameContent (x.map (⟨path, ·, left.warnings⟩)) (y.map (⟨path, ·, right.warnings⟩)) left
      right := by
  subst same
  cases x with
  | error e => exact ⟨rfl, nofun, nofun⟩
  | ok text =>
      refine ⟨rfl, ?_, ?_⟩
      · intro artifact made
        cases made
        rfl
      · intro artifact made
        cases made
        rfl

theorem Api.sameContent {g : PhasedGenerator ApiEntry} (emits : g.EmitsRecognized)
    {left right : Api} (plain : left.plain = right.plain) (helpers : List String)
    {file : Api → PhasedOutput → Imports → Except GenerationError Script.File}
    (file_plain : ∀ api : Api, file api.plain = file api) (path : String) :
    SameContent ((left.content helpers g (file left)).map (⟨path, ·, left.warnings⟩))
      ((right.content helpers g (file right)).map (⟨path, ·, right.warnings⟩)) left right := by
  have same : file left = file right := by rw [← file_plain left, plain, file_plain right]
  rw [same]
  exact sameContent_of_eq (content_congr emits plain helpers (file right)) path left right

/-- Schemas whose APIs have one documentation and the same recognized entries give the same client
and the same endpoints. -/
theorem artifacts_of_recognized {first second : Schema} {name : ScopedName} {left right : Api}
    (loaded : first.api name = .ok left) (otherLoaded : second.api name = .ok right)
    (doc : left.doc = right.doc) (recognized : left.recognized = right.recognized) :
    (∀ g : ClientGenerator, g.api = name →
      SameContent (g.generate first) (g.generate second) left right) ∧
    (∀ g : EndpointsGenerator, g.api = name →
      SameContent (g.generate first) (g.generate second) left right) := by
  have named : left.name = right.name :=
    (Schema.api_name loaded).trans (Schema.api_name otherLoaded).symm
  have plain : left.plain = right.plain := Api.plain_eq named doc recognized
  refine ⟨?_, ?_⟩
  · rintro g rfl
    rw [g.generate_eq loaded, g.generate_eq otherLoaded]
    exact Api.sameContent ClientGenerator.phases_emitsRecognized plain _ (fun _ => rfl) g.output
  · rintro g rfl
    rw [g.generate_eq loaded, g.generate_eq otherLoaded]
    exact Api.sameContent EndpointsGenerator.phases_emitsRecognized plain _ (fun _ => rfl) g.output

namespace Sample

def apiRequests : ScopedName := ⟨"protoapp.apis.ui", "ApiRequests"⟩

def scattered : Schema :=
  .ofModules
    [moduleOf "protoapp.apis.ui"
       [typeAlias "Ping" [] (get (prim "Void")),
        { struct "ApiRequests"
            [field "version" (prim "String"), field "healthy" (ui "Ping" []),
             field "pings" (vector (ui "Ping" [])),
             entry "touch" (ui "Echo" [appUserId]) "/touch"
               (.object [("tokenWithRole", .string "admin")]),
             field "key" (keyOf "Message")] with
          annotations := [⟨⟨"sys.annotations", "Doc"⟩,
            .string "API requests for\nthe protoapp UI  "⟩] },
        typeAlias "Echo" ["T"] (post (param "T") (param "T"))],
     commonDb, commonHttp]

def gathered : Schema :=
  withApiEntries protoapp
    [entry "healthy" (get (prim "Void")) "/" (.string "public"),
     entry "touch" (post appUserId appUserId) "/users/touch" (.string "token")]

def scatteredApi : Api where
  name := apiRequests
  doc := some "API requests for the protoapp UI"
  entries :=
    [⟨"version", "protoapp.apis.ui.ApiRequests.version", none, prim "String", none⟩,
     ⟨"healthy", "protoapp.apis.ui.ApiRequests.healthy", none, get (prim "Void"),
       some ⟨.get, none, prim "Void", .anyone⟩⟩,
     ⟨"pings", "protoapp.apis.ui.ApiRequests.pings", none, vector (ui "Ping" []), none⟩,
     ⟨"touch", "protoapp.apis.ui.ApiRequests.touch", none, post appUserId appUserId,
       some ⟨.post, some appUserId, appUserId, .tokenWithRole "admin"⟩⟩,
     ⟨"key", "protoapp.apis.ui.ApiRequests.key", none, keyOf "Message", none⟩]

def gatheredApi : Api where
  name := apiRequests
  doc := some "API requests for the protoapp UI"
  entries :=
    [⟨"healthy", "protoapp.apis.ui.ApiRequests.healthy", none, get (prim "Void"),
       some ⟨.get, none, prim "Void", .anyone⟩⟩,
     ⟨"touch", "protoapp.apis.ui.ApiRequests.touch", none, post appUserId appUserId,
       some ⟨.post, some appUserId, appUserId, .token⟩⟩]

theorem scattered_loaded : scattered.api apiRequests = .ok scatteredApi := by rfl

theorem gathered_loaded : gathered.api apiRequests = .ok gatheredApi := by rfl

theorem scattered_gathered :
    scattered.api apiRequests = .ok scatteredApi ∧ gathered.api apiRequests = .ok gatheredApi ∧
      scatteredApi.doc = gatheredApi.doc ∧ scatteredApi.recognized = gatheredApi.recognized ∧
      (∀ g : ClientGenerator, g.api = apiRequests →
        SameContent (g.generate scattered) (g.generate gathered) scatteredApi gatheredApi) ∧
      (∀ g : EndpointsGenerator, g.api = apiRequests →
        SameContent (g.generate scattered) (g.generate gathered) scatteredApi gatheredApi) :=
  ⟨scattered_loaded, gathered_loaded, rfl, rfl,
    artifacts_of_recognized scattered_loaded gathered_loaded rfl rfl⟩

end Sample

end SchemaBindings
