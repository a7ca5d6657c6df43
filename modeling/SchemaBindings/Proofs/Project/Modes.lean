import SchemaBindings.Proofs.Project.Saving
import SchemaBindings.Sample.Protoapp

/-!
The three modes of a run. They tell the same of every configured output up to what becomes of its
text, only writing touches files, and what was written is there until something else is written to
the same place, so that writing again changes nothing.
-/

namespace SchemaBindings

open FileTree (Apart save)

structure ConfiguredOutput where
  generator : String
  path : String
  deriving DecidableEq, Repr

def Config.outputs (c : Config) : List ConfiguredOutput :=
  c.tables.toList.map (⟨"tables", c.resolve ·.output⟩) ++
    c.columns.toList.map (⟨"columns", c.resolve ·.output⟩) ++
    c.services.map (⟨"service-client", c.resolve ·.output⟩) ++
    c.endpoints.map (⟨"endpoints", c.resolve ·.output⟩)

structure Rendering where
  generator : String
  path : Option String
  error : Option GenerationError
  diagnostics : List Diagnostic
  deriving DecidableEq, Repr

def Outcome.generationError? : Outcome Failure → Option GenerationError
  | .failed (.generation e) => some e
  | _ => none

def ArtifactReport.rendering (r : ArtifactReport Failure) : Rendering :=
  ⟨r.generator, r.path, r.outcome.generationError?, r.diagnostics⟩

def ArtifactReport.Saved (r : ArtifactReport Failure) : Prop :=
  r.outcome = .written ∨ r.outcome = .unchanged

instance (r : ArtifactReport Failure) : Decidable r.Saved :=
  inferInstanceAs (Decidable (_ ∨ _))

namespace Generator

def output : Generator → String
  | .tables g => g.output
  | .columns g => g.output
  | .client g => g.output
  | .endpoints g => g.output

def configured (g : Generator) : ConfiguredOutput :=
  ⟨g.name, g.output⟩

theorem generate_path {g : Generator} {s : Schema} {a : Artifact} (made : g.generate s = .ok a) :
    a.path = g.output := by
  cases g with
  | tables g =>
      obtain ⟨_, _, made⟩ := bind_eq_ok_iff.mp made
      cases made
      rfl
  | columns g =>
      obtain ⟨_, _, made⟩ := bind_eq_ok_iff.mp made
      cases made
      rfl
  | client g =>
      obtain ⟨_, _, made⟩ := bind_eq_ok_iff.mp made
      obtain ⟨_, _, made⟩ := bind_eq_ok_iff.mp made
      obtain ⟨_, _, made⟩ := bind_eq_ok_iff.mp made
      cases made
      rfl
  | endpoints g =>
      obtain ⟨_, _, made⟩ := bind_eq_ok_iff.mp made
      obtain ⟨_, _, made⟩ := bind_eq_ok_iff.mp made
      obtain ⟨_, _, made⟩ := bind_eq_ok_iff.mp made
      cases made
      rfl

def rendering (s : Schema) (g : Generator) : Rendering :=
  match g.generate s with
  | .error e => ⟨g.name, none, some e, []⟩
  | .ok a => ⟨g.name, some g.output, none, a.diagnostics⟩

end Generator

theorem Config.configured_generators (c : Config) :
    c.generators.map Generator.configured = c.outputs := by
  simp only [generators, outputs, List.map_append, List.map_map, Option.toList_map]
  rfl

abbrev stepIn (s : Schema) (mode : Mode) (g : Generator) (t : FileTree) :
    ArtifactReport Failure × FileTree :=
  (runGenerator save s mode g).run t

section Step

variable {s : Schema} {g : Generator}

theorem step_of_error {e : GenerationError} (failed : g.generate s = .error e) (mode : Mode)
    (t : FileTree) : stepIn s mode g t = (⟨g.name, none, .failed (.generation e), []⟩, t) := by
  rw [stepIn, runGenerator, failed]
  rfl

theorem step_of_ok {a : Artifact} (made : g.generate s = .ok a) (mode : Mode) (t : FileTree) :
    stepIn s mode g t =
      (⟨g.name, some g.output, ((artifactOutcome save mode a).run t).1, a.diagnostics⟩,
        ((artifactOutcome save mode a).run t).2) := by
  rw [stepIn, runGenerator, made, ← Generator.generate_path made]
  rfl

theorem outcome_generationError? (mode : Mode) (a : Artifact) (t : FileTree) :
    ((artifactOutcome save mode a).run t).1.generationError? = none := by
  cases mode with
  | check => rfl
  | dryRun => rfl
  | write =>
      change (savedOutcome ((save a.path a.content).run t).1).generationError? = none
      cases ((save a.path a.content).run t).1 with
      | error fault => rfl
      | ok saved => cases saved <;> rfl

theorem rendering_of_step (mode : Mode) (t : FileTree) :
    (stepIn s mode g t).1.rendering = g.rendering s := by
  cases made : g.generate s with
  | error e =>
      rw [step_of_error made, Generator.rendering, made]
      rfl
  | ok a =>
      rw [step_of_ok made, Generator.rendering, made, ArtifactReport.rendering,
        outcome_generationError?]

theorem step_of_not_write {mode : Mode} (quiet : mode ≠ .write) (t : FileTree) :
    (stepIn s mode g t).2 = t := by
  cases made : g.generate s with
  | error e => rw [step_of_error made]
  | ok a =>
      rw [step_of_ok made]
      cases mode with
      | check => rfl
      | dryRun => rfl
      | write => exact absurd rfl quiet

theorem step_preview {a : Artifact} (made : g.generate s = .ok a) (t : FileTree) :
    (stepIn s .dryRun g t).1.outcome = .preview a.content := by
  rw [step_of_ok made]
  rfl

def Stored (s : Schema) (g : Generator) (t : FileTree) : Prop :=
  ∃ a, g.generate s = .ok a ∧ t.read g.output = .ok a.content

theorem step_write {a : Artifact} (made : g.generate s = .ok a) (t : FileTree) :
    (stepIn s .write g t).1.outcome = savedOutcome ((save g.output a.content).run t).1 ∧
      (stepIn s .write g t).2 = ((save g.output a.content).run t).2 := by
  rw [step_of_ok made, ← Generator.generate_path made]
  exact ⟨rfl, rfl⟩

theorem stored_of_step {t : FileTree} (saved : (stepIn s .write g t).1.Saved) :
    Stored s g (stepIn s .write g t).2 := by
  cases made : g.generate s with
  | error e =>
      rw [step_of_error made] at saved
      rcases saved with told | told <;> cases told
  | ok a =>
      obtain ⟨outcome, left⟩ := step_write made t
      rw [ArtifactReport.Saved, outcome] at saved
      rw [left]
      refine ⟨a, made, ?_⟩
      cases done : ((save g.output a.content).run t).1 with
      | error fault =>
          rw [done] at saved
          rcases saved with told | told <;> cases told
      | ok result => exact FileTree.read_of_save done

theorem step_of_stored {t : FileTree} (stored : Stored s g t) :
    (stepIn s .write g t).1.outcome = .unchanged ∧ (stepIn s .write g t).2 = t := by
  obtain ⟨a, made, there⟩ := stored
  obtain ⟨outcome, left⟩ := step_write made t
  rw [outcome, left, FileTree.save_of_read there]
  exact ⟨rfl, rfl⟩

/-- Writing one artifact leaves alone what is stored for an output apart from it. -/
theorem step_keeps {other : Generator} (apart : Apart g.output other.output) {t : FileTree}
    (stored : Stored s other t) : Stored s other (stepIn s .write g t).2 := by
  obtain ⟨b, otherMade, there⟩ := stored
  refine ⟨b, otherMade, ?_⟩
  cases made : g.generate s with
  | error e =>
      rw [step_of_error made]
      exact there
  | ok a =>
      rw [(step_write made t).2]
      exact FileTree.save_keeps apart there a.content

end Step

abbrev stepsIn (s : Schema) (mode : Mode) (gs : List Generator) (t : FileTree) :
    List (ArtifactReport Failure) × FileTree :=
  (gs.mapM (runGenerator save s mode)).run t

section Steps

variable {s : Schema}

theorem steps_cons (mode : Mode) (g : Generator) (gs : List Generator) (t : FileTree) :
    stepsIn s mode (g :: gs) t =
      ((stepIn s mode g t).1 :: (stepsIn s mode gs (stepIn s mode g t).2).1,
        (stepsIn s mode gs (stepIn s mode g t).2).2) := by
  rw [stepsIn, List.mapM_cons, StateT.run_bind]
  rfl

theorem rendering_of_steps (mode : Mode) (gs : List Generator) (t : FileTree) :
    (stepsIn s mode gs t).1.map ArtifactReport.rendering = gs.map (Generator.rendering s) := by
  induction gs generalizing t with
  | nil => rfl
  | cons g rest ih =>
      rw [steps_cons, List.map_cons, List.map_cons, rendering_of_step, ih]

theorem steps_of_not_write {mode : Mode} (quiet : mode ≠ .write) (gs : List Generator)
    (t : FileTree) : (stepsIn s mode gs t).2 = t := by
  induction gs generalizing t with
  | nil => rfl
  | cons g rest ih => rw [steps_cons, ih, step_of_not_write quiet]

theorem previews_of_steps (gs : List Generator) (t : FileTree) :
    List.Forall₂ (fun g r => ∀ a, g.generate s = .ok a → r.outcome = .preview a.content) gs
      (stepsIn s .dryRun gs t).1 := by
  induction gs generalizing t with
  | nil => exact .nil
  | cons g rest ih =>
      rw [steps_cons]
      exact .cons (fun a made => step_preview made t) (ih _)

/-- What is stored stays stored while outputs apart from it are written. -/
theorem steps_keep {other : Generator} {gs : List Generator}
    (apart : ∀ g ∈ gs, Apart g.output other.output) {t : FileTree} (stored : Stored s other t) :
    Stored s other (stepsIn s .write gs t).2 := by
  induction gs generalizing t with
  | nil => exact stored
  | cons g rest ih =>
      obtain ⟨first, later⟩ := List.forall_mem_cons.mp apart
      rw [steps_cons]
      exact ih later (step_keeps first stored)

/-- Each artifact that is saved is stored when the run ends, whatever became of the others. -/
theorem stored_of_steps {gs : List Generator} (apart : gs.Pairwise (Apart ·.output ·.output))
    (t : FileTree) :
    List.Forall₂ (fun g r => r.Saved → Stored s g (stepsIn s .write gs t).2) gs
      (stepsIn s .write gs t).1 := by
  induction gs generalizing t with
  | nil => exact .nil
  | cons g rest ih =>
      obtain ⟨first, later⟩ := List.pairwise_cons.mp apart
      rw [steps_cons]
      refine .cons ?_ (ih later _)
      intro saved
      -- What is saved now outlasts the writing of the outputs after it.
      exact steps_keep (fun other member => (first other member).symm) (stored_of_step saved)

theorem unchanged_of_steps {gs : List Generator} (apart : gs.Pairwise (Apart ·.output ·.output))
    (t : FileTree) :
    List.Forall₂ (fun g r => Stored s g t →
      r.outcome = .unchanged ∧ Stored s g (stepsIn s .write gs t).2) gs
      (stepsIn s .write gs t).1 := by
  induction gs generalizing t with
  | nil => exact .nil
  | cons g rest ih =>
      obtain ⟨first, later⟩ := List.pairwise_cons.mp apart
      rw [steps_cons]
      refine .cons ?_ ?_
      · intro stored
        obtain ⟨outcome, left⟩ := step_of_stored stored
        refine ⟨outcome, ?_⟩
        rw [left]
        exact steps_keep (fun other member => (first other member).symm) stored
      · -- What is stored for the outputs after this one outlasts its writing.
        have both := (List.forall₂_and_left _ _).mpr ⟨first, ih later (stepIn s .write g t).2⟩
        refine both.imp ?_
        rintro other r ⟨elsewhere, told⟩ stored
        exact told (step_keeps elsewhere stored)

end Steps

abbrev runIn (c : Config) (s : Schema) (mode : Mode) (t : FileTree) : GenerateReport × FileTree :=
  (runAll save c s mode).run t

namespace ConfiguredOutput

def ToldBy (o : ConfiguredOutput) (told : Rendering) : Prop :=
  told.generator = o.generator ∧
    told.path = if told.error.isSome then none else some o.path

end ConfiguredOutput

theorem toldBy_rendering (s : Schema) (g : Generator) : g.configured.ToldBy (g.rendering s) := by
  rw [Generator.rendering]
  cases g.generate s <;> exact ⟨rfl, rfl⟩

/-- The modes tell the same of every configured output, and only writing touches files. -/
structure ModesAgree (c : Config) (s : Schema) (t : FileTree) : Prop where
  inOrder : ∀ mode, List.Forall₂ ConfiguredOutput.ToldBy c.outputs
    ((runIn c s mode t).1.artifacts.map ArtifactReport.rendering)
  count : ∀ mode, (runIn c s mode t).1.artifacts.length = c.outputCount
  same : ∀ mode other, (runIn c s mode t).1.artifacts.map ArtifactReport.rendering =
    (runIn c s other t).1.artifacts.map ArtifactReport.rendering
  quiet : ∀ mode, mode ≠ .write → (runIn c s mode t).2 = t

theorem Config.outputs_length (c : Config) : c.outputs.length = c.outputCount := by
  simp [outputs, outputCount, Nat.add_assoc]

theorem agree_of_run (c : Config) (s : Schema) (t : FileTree) : ModesAgree c s t := by
  have told (mode : Mode) : (runIn c s mode t).1.artifacts.map ArtifactReport.rendering =
      c.generators.map (Generator.rendering s) := rendering_of_steps mode c.generators t
  constructor
  case inOrder =>
    intro mode
    rw [told, ← c.configured_generators, List.forall₂_map_left_iff, List.forall₂_map_right_iff,
      List.forall₂_same]
    exact fun g _ => toldBy_rendering s g
  case count =>
    intro mode
    calc (runIn c s mode t).1.artifacts.length
        = (c.generators.map (Generator.rendering s)).length := by rw [← told, List.length_map]
      _ = (c.generators.map Generator.configured).length := by
          rw [List.length_map, List.length_map]
      _ = c.outputCount := by rw [c.configured_generators, c.outputs_length]
  case same =>
    intro mode other
    rw [told, told]
  case quiet =>
    intro mode quiet
    exact steps_of_not_write quiet c.generators t

/-- Whatever a run saves is on disk as previewed, and the next run finds it unchanged. -/
def WritesOnce (c : Config) (s : Schema) (t : FileTree) : Prop :=
  let first := runIn c s .write t
  let second := runIn c s .write first.2
  ∀ (k : Nat) r, first.1.artifacts[k]? = some r → r.Saved →
    ∃ path content preview again, r.path = some path ∧
      (runIn c s .dryRun t).1.artifacts[k]? = some preview ∧
      preview.path = some path ∧ preview.outcome = .preview content ∧
      first.2.read path = .ok content ∧
      second.1.artifacts[k]? = some again ∧
      again.path = some path ∧ again.outcome = .unchanged ∧
      second.2.read path = .ok content

section Index

variable {α β : Type} {R : α → β → Prop} {xs : List α} {ys : List β} {k : Nat}

theorem forall₂_left_of_getElem? (each : List.Forall₂ R xs ys) {y : β} (there : ys[k]? = some y) :
    ∃ x, xs[k]? = some x ∧ R x y := by
  induction each generalizing k with
  | nil => cases there
  | @cons x _ _ _ related _ ih =>
      cases k with
      | zero => cases there; exact ⟨x, rfl, related⟩
      | succ k => exact ih there

theorem forall₂_right_of_getElem? (each : List.Forall₂ R xs ys) {x : α} (there : xs[k]? = some x) :
    ∃ y, ys[k]? = some y ∧ R x y :=
  forall₂_left_of_getElem? each.flip there

end Index

theorem path_of_steps {s : Schema} {mode : Mode} {gs : List Generator} {t : FileTree} {k : Nat}
    {g : Generator} {r : ArtifactReport Failure} {a : Artifact} (asked : gs[k]? = some g)
    (there : (stepsIn s mode gs t).1[k]? = some r) (made : g.generate s = .ok a) :
    r.path = some g.output := by
  have told := congrArg (·[k]?) (rendering_of_steps (s := s) mode gs t)
  simp only [List.getElem?_map, there, asked, Option.map_some, Option.some.injEq] at told
  rw [Generator.rendering, made] at told
  exact congrArg Rendering.path told

theorem writesOnce_of_apart {c : Config} (s : Schema) (t : FileTree)
    (apart : (c.outputs.map ConfiguredOutput.path).Pairwise Apart) : WritesOnce c s t := by
  have apart : c.generators.Pairwise (Apart ·.output ·.output) := by
    rw [← c.configured_generators, List.map_map, List.pairwise_map] at apart
    exact apart
  unfold WritesOnce
  intro first second k r there saved
  obtain ⟨g, asked, stored⟩ := forall₂_left_of_getElem? (stored_of_steps apart t) there
  obtain ⟨a, made, onDisk⟩ := stored saved
  obtain ⟨preview, previewed, shown⟩ := forall₂_right_of_getElem? (previews_of_steps _ t) asked
  obtain ⟨again, repeated, told⟩ :=
    forall₂_right_of_getElem? (unchanged_of_steps apart first.2) asked
  obtain ⟨outcome, _, madeToo, still⟩ := told ⟨a, made, onDisk⟩
  cases madeToo.symm.trans made
  exact ⟨g.output, a.content, preview, again, path_of_steps asked there made, previewed,
    path_of_steps asked previewed made, shown a made, onDisk, repeated,
    path_of_steps asked repeated made, outcome, still⟩

/--
The modes of a run agree, whatever is on disk. When the outputs are for different places, writing
once is enough, even for the artifacts beside ones that fail.
-/
theorem modes_agree_and_write_once (c : Config) (s : Schema) (t : FileTree) :
    ModesAgree c s t ∧
      ((c.outputs.map ConfiguredOutput.path).Pairwise Apart → WritesOnce c s t) :=
  ⟨agree_of_run c s t, writesOnce_of_apart s t⟩

namespace Sample

def fourOutputs : Config :=
  { Config.empty with
    tables := some ⟨"gen/rows.ts", none⟩
    columns := some ⟨"gen/columns.rs", none, none⟩
    services := [⟨"gen/client.ts", "protoapp.apis.ui", "Missing", none, none⟩]
    endpoints := [⟨"server/api.ts", "protoapp.apis.ui", "ApiRequests", none⟩] }

def obstructed : FileTree :=
  .directory [("", .directory [("", .directory
    [("gen", .directory
      [("columns.rs", .directory []), ("rows.ts", .file (.binary [0xff]))])])])]

theorem obstructed_writesOnce :
    ((runIn fourOutputs protoapp .write obstructed).1.artifacts.filter (·.Saved)).map (·.path) =
      [some "gen/rows.ts", some "server/api.ts"] ∧
    WritesOnce fourOutputs protoapp obstructed := by
  have apart : (fourOutputs.outputs.map ConfiguredOutput.path).Pairwise Apart := by
    have different :
        (fourOutputs.outputs.map ConfiguredOutput.path).Pairwise
          (FileTree.target · ≠ FileTree.target ·) := by decide +kernel
    exact different.imp FileTree.apart_of_target
  exact ⟨by decide +kernel, (modes_agree_and_write_once fourOutputs protoapp obstructed).2 apart⟩

end Sample

end SchemaBindings
