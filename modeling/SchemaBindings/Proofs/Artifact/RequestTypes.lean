import SchemaBindings.Artifact.Client
import SchemaBindings.Artifact.Endpoints
import SchemaBindings.Proofs.Api.Emission

/-!
The types of requests: the client and the endpoints name what their entries registered, and the
helpers of the API they were made for.
-/

namespace SchemaBindings

open GenerationError (IsSchemaFault)

namespace ClientGenerator

theorem slot_schemaFault {i : Imports} (ready : i.Ready) {entry : ApiEntry}
    (known : i.KnowsAll entry.wanted) : FailsOnly IsSchemaFault (slot entry i) := by
  unfold slot
  cases found : entry.http with
  | none => exact .ok []
  | some http =>
      refine .bind (.bind (response_schemaFault ready known found) ?_) fun _ _ => .ok _
      intro response _
      cases carried : http.request with
      | none => exact .ok _
      | some request =>
          apply FailsOnly.bind (request_schemaFault ready known found carried)
          intro text _
          exact .ok _

theorem method_schemaFault {i : Imports} (ready : i.Ready) {entry : ApiEntry}
    (known : i.KnowsAll entry.wanted) : FailsOnly IsSchemaFault (method entry i) := by
  unfold method
  cases found : entry.http with
  | none => exact .ok []
  | some http =>
      apply FailsOnly.bind (response_schemaFault ready known found)
      intro response _
      cases carried : http.request with
      | none => exact .ok _
      | some request =>
          apply FailsOnly.bind (request_schemaFault ready known found carried)
          intro text _
          exact .ok _

theorem initializer_schemaFault (entry : ApiEntry) (i : Imports) :
    FailsOnly IsSchemaFault (initializer entry i) := by
  unfold initializer
  cases entry.http with
  | none => exact .ok []
  | some http => exact .ok _

theorem phases_namesWanted : phases.NamesWanted where
  decl _ _ ready known := slot_schemaFault ready known
  ctor entry i _ _ := initializer_schemaFault entry i
  impl _ _ ready known := method_schemaFault ready known

/-- What the file needs besides the output was registered. -/
theorem file_ok (g : ClientGenerator) (api : Api) (output : PhasedOutput) :
    ∃ made, g.file api output (api.settledImports ["sn", "make"]) = .ok made := by
  rcases api.helperName_ok ["sn", "make"] "sn" List.mem_cons_self with ⟨scopedName, named⟩
  obtain ⟨maker, made⟩ := api.helperName_ok ["sn", "make"] "make"
    (List.mem_cons_of_mem _ List.mem_cons_self)
  rcases (api.settledImports_ready ["sn", "make"]).modules_ok with ⟨entries, block⟩
  unfold file
  simp only [named, made, block]
  exact ⟨_, rfl⟩

theorem file_schemaFault (g : ClientGenerator) (api : Api) (output : PhasedOutput) :
    FailsOnly IsSchemaFault (g.file api output (api.settledImports ["sn", "make"])) := by
  obtain ⟨made, done⟩ := g.file_ok api output
  rw [done]
  exact .ok made

theorem generate_schemaFault (g : ClientGenerator) (s : Schema) :
    FailsOnly IsSchemaFault (g.generate s) := by
  apply FailsOnly.bind (s.api_schemaFault g.api)
  intro api _
  apply FailsOnly.bind (api.emit_schemaFault _ rfl phases_namesWanted)
  intro emitted done
  rcases emitted with ⟨output, i⟩
  obtain rfl := Api.emit_settled rfl done
  exact .bind (g.file_schemaFault api output) fun _ _ => .ok _

end ClientGenerator

namespace EndpointsGenerator

theorem handler_schemaFault {i : Imports} (ready : i.Ready) {entry : ApiEntry}
    (known : i.KnowsAll entry.wanted) : FailsOnly IsSchemaFault (handler entry i) := by
  unfold handler
  cases found : entry.http with
  | none => exact .ok []
  | some http =>
      refine .bind ?_ ?_
      · unfold requestType
        cases carried : http.request with
        | none => exact .ok _
        | some request => exact request_schemaFault ready known found carried
      · intro request _
        apply FailsOnly.bind (response_schemaFault ready known found)
        intro response _
        exact .ok _

theorem phases_namesWanted : phases.NamesWanted where
  decl _ _ ready known := handler_schemaFault ready known
  ctor _ _ _ _ := .ok []
  impl _ _ _ _ := .ok _

theorem file_ok (g : EndpointsGenerator) (api : Api) (output : PhasedOutput) :
    ∃ made, g.file api output (api.settledImports ["make"]) = .ok made := by
  rcases api.helperName_ok ["make"] "make" List.mem_cons_self with ⟨maker, made⟩
  rcases (api.settledImports_ready ["make"]).modules_ok with ⟨entries, block⟩
  unfold file
  simp only [made, block]
  exact ⟨_, rfl⟩

theorem file_schemaFault (g : EndpointsGenerator) (api : Api) (output : PhasedOutput) :
    FailsOnly IsSchemaFault (g.file api output (api.settledImports ["make"])) := by
  obtain ⟨made, done⟩ := g.file_ok api output
  rw [done]
  exact .ok made

theorem generate_schemaFault (g : EndpointsGenerator) (s : Schema) :
    FailsOnly IsSchemaFault (g.generate s) := by
  apply FailsOnly.bind (s.api_schemaFault g.api)
  intro api _
  apply FailsOnly.bind (api.emit_schemaFault _ rfl phases_namesWanted)
  intro emitted done
  rcases emitted with ⟨output, i⟩
  obtain rfl := Api.emit_settled rfl done
  exact .bind (g.file_schemaFault api output) fun _ _ => .ok _

end EndpointsGenerator

end SchemaBindings
