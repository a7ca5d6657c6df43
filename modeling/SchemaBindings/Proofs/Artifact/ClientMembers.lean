import Mathlib.Data.List.Nodup
import SchemaBindings.Proofs.Artifact.ClientEndpoints
import SchemaBindings.Proofs.Text.Words

/-!
Names of the members of a client. The slot of a request is named by its HTTP method and its name in
Pascal case, and by nothing else, while its method keeps the name as it is. So two requests share a
slot when only separators or the case of letters tell their names apart, and a request may be named
like the slot of another.
-/

namespace SchemaBindings

def ApiEntry.spelling? (entry : ApiEntry) : Option (HttpMethod × String) :=
  entry.http.map fun http => (http.method, Text.pascalCase entry.name)

def ApiEntry.slot? (entry : ApiEntry) : Option String :=
  entry.http.map (slotName entry)

/-- Method and name run together, but for the one reserved word that comes of it. -/
def slotText (spelling : HttpMethod × String) : String :=
  if spelling = (.get, "") then "_get" else spelling.1.text ++ spelling.2

theorem camelCase_method (method : HttpMethod) (name : String) :
    Text.camelCase (method.text ++ " " ++ name) = method.text ++ Text.pascalCase name := by
  have first : Text.words method.text = [method.text.toList] := by cases method <;> decide
  rw [Text.camelCase, Text.words_append_space, first, List.singleton_append]
  change String.ofList (method.text.toList ++ _) = _
  rw [String.ofList_append, String.ofList_toList]
  rfl

theorem reserved_method_iff (method : HttpMethod) (rest : String) :
    method.text ++ rest ∈ typescriptNaming.reserved ↔ (method, rest) = (.get, "") := by
  have getters : ∀ word ∈ typescriptNaming.reserved, word.toList.take 3 = "get".toList →
      word = "get" := by decide
  have posters : ∀ word ∈ typescriptNaming.reserved, word.toList.take 4 ≠ "post".toList := by
    decide
  constructor
  · intro member
    cases method with
    | get =>
        have whole : "get" ++ rest = "get" ++ "" := getters _ member (by simp)
        rw [(String.append_right_inj "get").mp whole]
    | post => exact absurd (by simp [HttpMethod.text]) (posters _ member)
  · intro same
    obtain ⟨rfl, rfl⟩ := Prod.mk.inj same
    decide

theorem slotName_eq (entry : ApiEntry) (http : HttpRequest) :
    slotName entry http = slotText (http.method, Text.pascalCase entry.name) := by
  change typescriptNaming.safeName (Text.camelCase _) = _
  rw [camelCase_method, Naming.safeName, Naming.isReserved, slotText]
  simp only [List.contains_iff_mem]
  by_cases bare : (http.method, Text.pascalCase entry.name) = (.get, "")
  · rw [if_pos bare, if_pos ((reserved_method_iff _ _).mpr bare)]
    obtain ⟨method, name⟩ := Prod.mk.inj bare
    rw [method, name]
    rfl
  · rw [if_neg bare, if_neg (mt (reserved_method_iff _ _).mp bare)]

theorem head?_method (method : HttpMethod) (rest : String) :
    (method.text ++ rest).toList.head? = method.text.toList.head? := by
  cases method <;> simp [HttpMethod.text]

theorem method_append_inj {method other : HttpMethod} {rest otherRest : String}
    (same : method.text ++ rest = other.text ++ otherRest) :
    (method, rest) = (other, otherRest) := by
  have heads := congrArg (·.toList.head?) same
  simp only [head?_method] at heads
  have methods : method = other := by
    cases method <;> cases other <;> first | rfl | exact absurd heads (by decide)
  subst methods
  rw [(String.append_right_inj _).mp same]

theorem method_append_ne_escaped (method : HttpMethod) (rest : String) :
    method.text ++ rest ≠ "_get" := by
  intro same
  have heads := congrArg (·.toList.head?) same
  simp only [head?_method] at heads
  cases method <;> exact absurd heads (by decide)

theorem slotText_injective : Function.Injective slotText := by
  intro first second same
  unfold slotText at same
  split at same <;> split at same
  · next bare otherBare => rw [bare, otherBare]
  · exact absurd same.symm (method_append_ne_escaped _ _)
  · exact absurd same (method_append_ne_escaped _ _)
  · exact method_append_inj same

namespace Api

def slots (api : Api) : List String :=
  api.requests.filterMap ApiEntry.slot?

def spellings (api : Api) : List (HttpMethod × String) :=
  api.requests.filterMap ApiEntry.spelling?

theorem slots_eq (api : Api) : api.slots = api.spellings.map slotText := by
  have each : ∀ entry : ApiEntry, entry.slot? = entry.spelling?.map slotText := by
    intro entry
    rw [ApiEntry.slot?, ApiEntry.spelling?, Option.map_map]
    exact congrArg (entry.http.map ·) (funext (slotName_eq entry))
  rw [slots, spellings, List.map_filterMap]
  exact congrArg (api.requests.filterMap ·) (funext each)

theorem slots_nodup_iff (api : Api) : api.slots.Nodup ↔ api.spellings.Nodup := by
  rw [api.slots_eq]
  exact List.nodup_map_iff slotText_injective

end Api

/--
The slots of a client differ, and no method has the name of one, exactly when no two requests have
one method and one name in Pascal case, and none is named like the slot such a name gives. Names
that differ are not enough for either.
-/
theorem client_members_distinct_iff {g : ClientGenerator} {s : Schema} {a : Artifact}
    (made : g.generate s = .ok a) :
    ∃ api modules, s.api g.api = .ok api ∧ g.MadeOf api modules a ∧
      (api.slots.Nodup ∧ api.slots.Disjoint (api.requests.map (·.name)) ↔
        api.spellings.Nodup ∧
        ∀ spelling ∈ api.spellings, ∀ entry ∈ api.requests, entry.name ≠ slotText spelling) := by
  obtain ⟨api, loaded, _⟩ := bind_eq_ok_iff.mp made
  obtain ⟨_, modules, parts, _⟩ := ClientGenerator.madeOf_of_generate loaded made
  refine ⟨api, modules, loaded, parts, ?_⟩
  have apart : api.slots.Disjoint (api.requests.map (·.name)) ↔
      ∀ spelling ∈ api.spellings, ∀ entry ∈ api.requests, entry.name ≠ slotText spelling := by
    rw [api.slots_eq, List.disjoint_left, List.forall_mem_map]
    simp only [List.mem_map, not_exists, not_and, ne_eq]
  rw [api.slots_nodup_iff, apart]

namespace Sample

theorem protoapp_members :
    ∃ a api modules, scatteredClient.generate protoapp = .ok a ∧
      protoapp.api scatteredClient.api = .ok api ∧ scatteredClient.MadeOf api modules a ∧
      (api.slots.Nodup ∧ api.slots.Disjoint (api.requests.map (·.name)) ↔
        api.spellings.Nodup ∧
        ∀ spelling ∈ api.spellings, ∀ entry ∈ api.requests, entry.name ≠ slotText spelling) := by
  have done : error? (scatteredClient.generate protoapp) = none := by decide +kernel
  obtain ⟨a, made⟩ := error?_eq_none_iff.mp done
  obtain ⟨api, modules, told⟩ := client_members_distinct_iff made
  exact ⟨a, api, modules, made, told⟩

/-- Three requests, two of which are spelled alike and the third like the slot of both. -/
def confusable : Schema :=
  withApiEntries protoapp
    [entry "userCount" (get (prim "Int64")) "/users/count" (.string "public"),
     entry "user_count" (get (prim "Int64")) "/users/total" (.string "token"),
     entry "getUserCount" (post (prim "String") (prim "Int64")) "/users/matching"
       (.string "public")]

/-- The names differ, and still a slot is shared and has the name of a method. -/
theorem confusable_members :
    ∃ a api modules, scatteredClient.generate confusable = .ok a ∧
      confusable.api scatteredClient.api = .ok api ∧ scatteredClient.MadeOf api modules a ∧
      api.requests.map (·.name) = ["userCount", "user_count", "getUserCount"] ∧
      api.slots = ["getUserCount", "getUserCount", "postGetUserCount"] := by
  have done : error? (scatteredClient.generate confusable) = none := by decide +kernel
  have named : (confusable.api scatteredClient.api).toOption.map
      (fun api => (api.requests.map (·.name), api.slots)) =
      some (["userCount", "user_count", "getUserCount"],
        ["getUserCount", "getUserCount", "postGetUserCount"]) := by
    decide +kernel
  obtain ⟨a, made⟩ := error?_eq_none_iff.mp done
  obtain ⟨api, loaded, _⟩ := bind_eq_ok_iff.mp made
  obtain ⟨_, modules, parts, _⟩ := ClientGenerator.madeOf_of_generate loaded made
  rw [loaded] at named
  obtain ⟨names, slots⟩ := Prod.mk.inj (Option.some.inj named)
  exact ⟨a, api, modules, made, loaded, parts, names, slots⟩

end Sample

end SchemaBindings
