import SchemaBindings.Proofs.Artifact.ClientEndpoints

/-!
Which requests a client sends without a token. The default value of a field asks for a security, or
the API does not load; nothing but an absent or an explicitly public security is open to everyone.
-/

namespace SchemaBindings

open Json (Decoding Value)

/-! ### Spellings -/

section Scalars

variable {v payload : Value} {tag text : String}

theorem text_eq_ok_iff : Decoding.text v = .ok text ↔ v = .string text := by
  cases v <;> simp [Decoding.text, Value.refuse]

theorem unit_eq_ok_iff {u : Unit} : Decoding.unit v = .ok u ↔ v = .null := by
  cases v <;> simp [Decoding.unit, Value.refuse]

theorem tagged_eq_bare_iff : Decoding.tagged v = .ok (.bare tag) ↔ v = .string tag := by
  constructor
  · intro told
    unfold Decoding.tagged at told
    split at told
    · cases told
      rfl
    · cases told
    · cases told
    · cases told
  · rintro rfl
    rfl

theorem tagged_eq_carrying_iff :
    Decoding.tagged v = .ok (.carrying tag payload) ↔ v = .object [(tag, payload)] := by
  constructor
  · intro told
    unfold Decoding.tagged at told
    split at told
    · cases told
    · cases told
      rfl
    · cases told
    · cases told
  · rintro rfl
    rfl

end Scalars

/-- The values a security is written as: its tag, or an object with the tag and the payload. -/
inductive Security.Spelled : Value → Security → Prop where
  | anyone : Spelled (.string "public") .anyone
  | anyoneTagged : Spelled (.object [("public", .null)]) .anyone
  | token : Spelled (.string "token") .token
  | tokenTagged : Spelled (.object [("token", .null)]) .token
  | role (role : String) : Spelled (.object [("tokenWithRole", .string role)]) (.tokenWithRole role)

theorem Security.decode_eq_ok_iff {v : Value} {security : Security} :
    Security.decode v = .ok security ↔ Spelled v security := by
  constructor
  · intro decoded
    obtain ⟨tagged, told, decoded⟩ := bind_eq_ok_iff.mp decoded
    split at decoded
    · cases decoded
      rw [tagged_eq_bare_iff.mp told]
      exact .anyone
    · cases decoded
      rw [tagged_eq_bare_iff.mp told]
      exact .token
    · cases decoded
    · cases decoded
    · obtain ⟨_, none, rfl⟩ := map_eq_ok_iff.mp decoded
      rw [tagged_eq_carrying_iff.mp told, unit_eq_ok_iff.mp none]
      exact .anyoneTagged
    · obtain ⟨_, none, rfl⟩ := map_eq_ok_iff.mp decoded
      rw [tagged_eq_carrying_iff.mp told, unit_eq_ok_iff.mp none]
      exact .tokenTagged
    · obtain ⟨role, text, rfl⟩ := map_eq_ok_iff.mp decoded
      rw [tagged_eq_carrying_iff.mp told, text_eq_ok_iff.mp text]
      exact .role role
    · cases decoded
  · intro spelled
    cases spelled <;> rfl

/-! ### Default values -/

/-- What a default value asks for. An object may have any other members, and a list stands for the
object with its items as fields. -/
inductive Asks : Option Value → Security → Prop where
  | absent : Asks none .anyone
  | silent {members : List (String × Value)} (without : ∀ m ∈ members, m.1 ≠ "security") :
      Asks (some (.object members)) .anyone
  | member {before after : List (String × Value)} {v : Value} {security : Security}
      (spelled : Security.Spelled v security) (alone : ∀ m ∈ before ++ after, m.1 ≠ "security") :
      Asks (some (.object (before ++ ("security", v) :: after))) security
  | emptyList : Asks (some (.array [])) .anyone
  | item {v : Value} {security : Security} (spelled : Security.Spelled v security) :
      Asks (some (.array [v])) security

def securityPart : Decoding.Part Security :=
  .of "security" Security.decode (fun v _ => v) false

theorem decodeRequestDefault_eq :
    decodeRequestDefault = Decoding.record "RequestDefault" .anyone [securityPart] :=
  rfl

section Members

variable {before after members : List (String × Value)} {seen : List String}
  {blank security : Security} {v : Value}

theorem find?_securityPart {name : String} (other : name ≠ "security") :
    [securityPart].find? (·.answersTo name) = none := by
  have apart : securityPart.answersTo name = false := by
    simpa [securityPart, Decoding.Part.answersTo, Decoding.Part.of] using other.symm
  rw [List.find?_cons, apart, List.find?_nil]

theorem fillMembers_append (without : ∀ m ∈ before, m.1 ≠ "security") :
    Decoding.fillMembers [securityPart] (before ++ after) seen blank =
      Decoding.fillMembers [securityPart] after seen blank := by
  induction before with
  | nil => rfl
  | cons m rest ih =>
      obtain ⟨other, without⟩ := List.forall_mem_cons.mp without
      rw [List.cons_append, Decoding.fillMembers, find?_securityPart other]
      exact ih without

theorem fillMembers_without (without : ∀ m ∈ members, m.1 ≠ "security") :
    Decoding.fillMembers [securityPart] members seen blank = .ok (seen, blank) := by
  rw [← List.append_nil members, fillMembers_append without]
  rfl

theorem fillMembers_security (v : Value) (after : List (String × Value)) (blank : Security) :
    Decoding.fillMembers [securityPart] (("security", v) :: after) [] blank =
      Security.decode v >>= Decoding.fillMembers [securityPart] after ["security"] := by
  change (Security.decode v).map (fun security _ => security) >>= _ = _
  cases Security.decode v <;> rfl

theorem without_or_first (name : String) (members : List (String × Value)) :
    (∀ m ∈ members, m.1 ≠ name) ∨ ∃ before v after, members = before ++ (name, v) :: after ∧
      ∀ m ∈ before, m.1 ≠ name := by
  cases found : members.lookup name with
  | none =>
      refine .inl ?_
      intro m member
      exact (bne_iff_ne.mp (List.lookup_eq_none_iff.mp found m member)).symm
  | some v =>
      obtain ⟨before, after, split, without⟩ := List.lookup_eq_some_iff.mp found
      refine .inr ⟨before, v, after, split, ?_⟩
      intro m member
      exact (bne_iff_ne.mp (without m member)).symm

end Members

theorem decode_object_iff {members : List (String × Value)} {security : Security} :
    decodeRequestDefault (.object members) = .ok security ↔
      ∃ met, Decoding.fillMembers [securityPart] members [] .anyone = .ok (met, security) := by
  rw [decodeRequestDefault_eq, Decoding.record]
  constructor
  · intro decoded
    obtain ⟨⟨met, filled⟩, done, decoded⟩ := bind_eq_ok_iff.mp decoded
    cases decoded
    exact ⟨met, done⟩
  · rintro ⟨met, done⟩
    rw [done]
    rfl

theorem decode_list_iff {v : Value} {rest : List Value} {security : Security} :
    decodeRequestDefault (.array (v :: rest)) = .ok security ↔
      Security.decode v = .ok security ∧ rest = [] := by
  have filled : Decoding.fillItems (recordLength "RequestDefault" 1) [securityPart] 0 (v :: rest)
      .anyone = (Security.decode v).map (·, rest.length) := by
    change (Security.decode v).map (fun security _ => security) >>= _ = _
    cases Security.decode v <;> rfl
  rw [decodeRequestDefault_eq, Decoding.record, List.length_singleton, filled]
  cases Security.decode v with
  | error fault => exact ⟨nofun, nofun⟩
  | ok asked => cases rest with
    | nil => simp [Except.map, bind, Except.bind, pure, Except.pure]
    | cons other rest => simp [Except.map, bind, Except.bind]

/-- A second member of the name would be a duplicate. -/
theorem asks_of_fillMembers {members : List (String × Value)} {met : List String}
    {security : Security}
    (filled : Decoding.fillMembers [securityPart] members [] .anyone = .ok (met, security)) :
    Asks (some (.object members)) security := by
  rcases without_or_first "security" members with without | ⟨before, v, after, rfl, without⟩
  · rw [fillMembers_without without] at filled
    cases filled
    exact .silent without
  · rw [fillMembers_append without, fillMembers_security] at filled
    obtain ⟨asked, read, filled⟩ := bind_eq_ok_iff.mp filled
    rcases without_or_first "security" after with later | ⟨between, other, rest, rfl, later⟩
    · rw [fillMembers_without later] at filled
      cases filled
      exact .member (Security.decode_eq_ok_iff.mp read)
        (List.forall_mem_append.mpr ⟨without, later⟩)
    · rw [fillMembers_append later] at filled
      cases filled

theorem decodeRequestDefault_eq_ok_iff {v : Value} {security : Security} :
    decodeRequestDefault v = .ok security ↔ Asks (some v) security := by
  constructor
  · intro decoded
    cases v with
    | object members =>
        obtain ⟨met, filled⟩ := decode_object_iff.mp decoded
        exact asks_of_fillMembers filled
    | array items => cases items with
      | nil =>
          cases decoded
          exact .emptyList
      | cons v rest =>
          obtain ⟨read, rfl⟩ := decode_list_iff.mp decoded
          exact .item (Security.decode_eq_ok_iff.mp read)
    | null => cases decoded
    | bool _ => cases decoded
    | number _ => cases decoded
    | string _ => cases decoded
  · intro asks
    cases asks with
    | silent without =>
        exact decode_object_iff.mpr ⟨[], fillMembers_without without⟩
    | member spelled alone =>
        obtain ⟨first, later⟩ := List.forall_mem_append.mp alone
        refine decode_object_iff.mpr ⟨["security"], ?_⟩
        rw [fillMembers_append first, fillMembers_security,
          Security.decode_eq_ok_iff.mpr spelled]
        exact fillMembers_without later
    | emptyList => rfl
    | item spelled =>
        exact decode_list_iff.mpr ⟨Security.decode_eq_ok_iff.mpr spelled, rfl⟩

theorem requestSecurity_eq_ok_iff (location : String) {default : Option Value}
    {security : Security} :
    requestSecurity default location = .ok security ↔ Asks default security := by
  cases default with
  | none =>
      constructor
      · intro settled
        cases settled
        exact .absent
      · intro asks
        cases asks
        rfl
  | some v =>
      rw [← decodeRequestDefault_eq_ok_iff, requestSecurity]
      cases decodeRequestDefault v with
      | error fault => exact ⟨nofun, nofun⟩
      | ok asked => simp only [Except.ok.injEq]

theorem Asks.unique {default : Option Value} {first second : Security}
    (asks : Asks default first) (again : Asks default second) : first = second := by
  have settled := (requestSecurity_eq_ok_iff "").mpr asks
  have other := (requestSecurity_eq_ok_iff "").mpr again
  exact Except.ok.inj (settled.symm.trans other)

/-! ### Entries -/

def Schema.entryExpander (s : Schema) : Expander :=
  ⟨s.get?, .nominal⟩

/-- What a loaded entry takes from its field: its type is that of the field, expanded, and it is a
request as soon as this describes one, with the security that the default value asks for. -/
structure ApiEntry.LoadedFrom (s : Schema) (field : Field) (entry : ApiEntry) : Prop where
  name : entry.name = field.name
  typeExpr : s.entryExpander.expand field.typeExpr = .ok entry.typeExpr
  recognized : entry.http.isSome = (httpShape? entry.typeExpr).isSome
  asks : ∀ http, entry.http = some http → Asks field.default http.security

section Entries

variable {s : Schema} {owner : ScopedName} {field : Field} {entry : ApiEntry} {te : TypeExpr}
  {location : String}

theorem classify_request {http? : Option HttpRequest} {default : Option Value}
    (done : classify te default location = .ok http?) :
    http?.isSome = (httpShape? te).isSome ∧
      ∀ http, http? = some http → Asks default http.security := by
  unfold classify at done
  split at done
  · next shape =>
      cases done
      rw [shape]
      exact ⟨rfl, nofun⟩
  · next shape =>
      obtain ⟨security, settled, made⟩ := bind_eq_ok_iff.mp done
      cases made
      rw [shape]
      refine ⟨rfl, ?_⟩
      intro http found
      cases found
      exact (requestSecurity_eq_ok_iff location).mp settled

theorem loadedFrom_of_loadEntry (done : loadEntry s.entryExpander owner field = .ok entry) :
    entry.LoadedFrom s field := by
  obtain ⟨te, expanded, done⟩ := bind_eq_ok_iff.mp done
  obtain ⟨http?, classified, done⟩ := bind_eq_ok_iff.mp done
  obtain ⟨doc, _, made⟩ := bind_eq_ok_iff.mp done
  cases made
  obtain ⟨recognized, asks⟩ := classify_request classified
  exact ⟨rfl, expanded, recognized, asks⟩

end Entries

theorem factoryName_open_iff {http : HttpRequest} :
    factoryName http ∈ ["mkPostFn", "mkGetFn"] ↔ http.security = .anyone := by
  rcases http with ⟨_ | _, request, response, _ | _ | role⟩ <;>
    simp [factoryName, Security.requiresToken]

theorem factoryName_token_iff {http : HttpRequest} :
    factoryName http ∈ ["mkAuthPostFn", "mkAuthGetFn"] ↔
      http.security = .token ∨ ∃ role, http.security = .tokenWithRole role := by
  rcases http with ⟨_ | _, request, response, _ | _ | role⟩ <;>
    simp [factoryName, Security.requiresToken]

namespace ApiEntry.LoadedFrom

variable {s : Schema} {field : Field} {entry : ApiEntry}

theorem wired (loaded : entry.LoadedFrom s field) {http : HttpRequest}
    (found : entry.http = some http) :
    (factoryName http ∈ ["mkPostFn", "mkGetFn"] ↔ Asks field.default .anyone) ∧
      (factoryName http ∈ ["mkAuthPostFn", "mkAuthGetFn"] ↔
        Asks field.default .token ∨ ∃ role, Asks field.default (.tokenWithRole role)) := by
  have asks := loaded.asks http found
  have asked_iff (security : Security) :
      http.security = security ↔ Asks field.default security :=
    ⟨fun same => same ▸ asks, asks.unique⟩
  rw [factoryName_open_iff, factoryName_token_iff]
  simp only [asked_iff, and_self]

theorem exists_asks (loaded : entry.LoadedFrom s field) {te : TypeExpr}
    (expanded : s.entryExpander.expand field.typeExpr = .ok te)
    (request : (httpShape? te).isSome) : ∃ security, Asks field.default security := by
  cases loaded.typeExpr.symm.trans expanded
  rw [← loaded.recognized] at request
  obtain ⟨http, found⟩ := Option.isSome_iff_exists.mp request
  exact ⟨http.security, loaded.asks http found⟩

end ApiEntry.LoadedFrom

/--
The client calls a request without a token exactly when the default value of its field asks for no
security or for the public one, and with a token exactly when it asks for a token. The API does not
load if the default value of a request asks for anything else.
-/
theorem client_token_exact (g : ClientGenerator) (s : Schema) :
    (∀ api, s.api g.api = .ok api → ∃ decl fields,
      s.get? g.api = some decl ∧ decl.body = .struct [] fields ∧
      List.Forall₂ (fun entry field => entry.LoadedFrom s field ∧
        ∀ http, entry.http = some http →
          (factoryName http ∈ ["mkPostFn", "mkGetFn"] ↔ Asks field.default .anyone) ∧
          (factoryName http ∈ ["mkAuthPostFn", "mkAuthGetFn"] ↔
            Asks field.default .token ∨ ∃ role, Asks field.default (.tokenWithRole role)))
        api.entries fields ∧
      ∀ a, g.generate s = .ok a → ∃ modules, g.MadeOf api modules a) ∧
    ∀ decl fields field te, s.get? g.api = some decl → decl.body = .struct [] fields →
      field ∈ fields → s.entryExpander.expand field.typeExpr = .ok te →
      (httpShape? te).isSome → (∀ security, ¬ Asks field.default security) →
      ∃ e, s.api g.api = .error e := by
  refine ⟨?_, ?_⟩
  · intro api loaded
    obtain ⟨decl, fields, found, shaped, _, each⟩ := Schema.exists_of_api loaded
    refine ⟨decl, fields, found, shaped, ?_, ?_⟩
    · refine (forall₂_of_mapM each).imp fun entry field done => ?_
      have fits : entry.LoadedFrom s field := loadedFrom_of_loadEntry done
      exact ⟨fits, fun http recognized => fits.wired recognized⟩
    · intro a made
      obtain ⟨_, modules, parts, _⟩ := ClientGenerator.madeOf_of_generate loaded made
      exact ⟨modules, parts⟩
  · intro decl fields field te found shaped member expanded request unasked
    cases loaded : s.api g.api with
    | error e => exact ⟨e, rfl⟩
    | ok api =>
        obtain ⟨other, others, again, otherShape, _, each⟩ := Schema.exists_of_api loaded
        cases found.symm.trans again
        cases shaped.symm.trans otherShape
        obtain ⟨entry, _, done⟩ := ok_of_mapM each member
        have fits : entry.LoadedFrom s field := loadedFrom_of_loadEntry done
        obtain ⟨security, asks⟩ := fits.exists_asks expanded request
        exact absurd asks (unasked security)

namespace Sample

def misspelled : Field :=
  entry "healthy" (get (prim "Void")) "/" (.string "Public")

def misspelledRequests : Schema :=
  withApiEntries protoapp [misspelled]

theorem misspelled_unasked (security : Security) : ¬ Asks misspelled.default security := by
  rw [← requestSecurity_eq_ok_iff ""]
  exact nofun

theorem scattered_wired_misspelled_refused :
    (∃ decl fields, scattered.get? apiRequests = some decl ∧ decl.body = .struct [] fields ∧
      List.Forall₂ (fun entry field => ∀ http, entry.http = some http →
        (factoryName http ∈ ["mkPostFn", "mkGetFn"] ↔ Asks field.default .anyone))
        scatteredApi.entries fields) ∧
    (∀ security, ¬ Asks misspelled.default security) ∧
    ∃ e, misspelledRequests.api apiRequests = .error e := by
  obtain ⟨wired, _⟩ := client_token_exact scatteredClient scattered
  obtain ⟨decl, fields, found, shaped, each, _⟩ := wired scatteredApi scattered_loaded
  obtain ⟨_, refused⟩ := client_token_exact scatteredClient misspelledRequests
  refine ⟨⟨decl, fields, found, shaped, ?_⟩, misspelled_unasked, ?_⟩
  · exact each.imp fun _ _ fits http recognized => (fits.2 http recognized).1
  · exact refused _ _ misspelled _ rfl rfl List.mem_cons_self rfl rfl misspelled_unasked

def listed : List Field :=
  [{ misspelled with default := some (.array []) },
   { misspelled with name := "ready", default := some (.array [.string "public"]) }]

theorem listed_open :
    ((withApiEntries protoapp listed).api apiRequests).toOption.map
        (fun api => api.entries.map fun entry => (entry.name, entry.http.map factoryName)) =
      some [("healthy", some "mkGetFn"), ("ready", some "mkGetFn")] ∧
    listed.map (fun field => (field.name, field.default)) =
      [("healthy", some (.array [])), ("ready", some (.array [.string "public"]))] := by
  constructor
  · decide +kernel
  · rfl

end Sample

end SchemaBindings
