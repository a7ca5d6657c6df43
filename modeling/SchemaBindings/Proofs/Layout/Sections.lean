import SchemaBindings.Items.File
import SchemaBindings.Proofs.Layout.Lines
import SchemaBindings.Script.File

/-!
Layout of files. Whatever the order of the calls a file is built by, its text is made of the header,
of the runs of statements that no call for a group parts, and of the elements of the body, with one
blank line between two of them. A call for a group that parts no statements leaves no trace.
-/

namespace SchemaBindings

inductive FileCall (α : Type) where
  | header (line : String)
  | statement (x : α)
  | statements (xs : List α)
  | group
  | add (element : List Fragment)
  | addAll (elements : List (List Fragment))

namespace FileCall

variable {α : Type}

@[simp] def headerLines : FileCall α → List String
  | .header line => [line]
  | _ => []

@[simp] def marks : FileCall α → List (Option α)
  | .statement x => [some x]
  | .statements xs => xs.map some
  | .group => [none]
  | _ => []

@[simp] def elements : FileCall α → List (List Fragment)
  | .add element => [element]
  | .addAll elements => elements
  | _ => []

def Silent (calls : List (FileCall α)) : Prop :=
  ∀ mark ∈ calls.flatMap marks, mark = none

end FileCall

/-! ### Runs of statements -/

section Runs

variable {α : Type}

/-- The runs of statements among marks: each is as long as it can be, and none is empty. -/
inductive Runs : List (Option α) → List (List α) → Prop where
  | nil : Runs [] []
  | gap {marks : List (Option α)} {groups : List (List α)} (rest : Runs marks groups) :
      Runs (none :: marks) groups
  | run {group : List α} {marks : List (Option α)} {groups : List (List α)}
      (nonempty : group ≠ []) (ends : marks.head?.join = none) (rest : Runs marks groups) :
      Runs (group.map some ++ marks) (group :: groups)

/-- The runs when the marks come after the statements of `run`. -/
def runsFrom (run : List α) : List (Option α) → List (List α)
  | [] => nonemptyGroups [run]
  | none :: marks => nonemptyGroups [run] ++ runsFrom [] marks
  | some x :: marks => runsFrom (run ++ [x]) marks

variable {groups closed : List (List α)} {run : List α} {marks before after : List (Option α)}

theorem nonemptyGroups_append (first second : List (List α)) :
    nonemptyGroups (first ++ second) = nonemptyGroups first ++ nonemptyGroups second :=
  List.filter_append ..

theorem nonemptyGroups_single (nonempty : run ≠ []) : nonemptyGroups [run] = [run] := by
  cases run with
  | nil => exact absurd rfl nonempty
  | cons x rest => rfl

theorem runs_runsFrom (run : List α) (marks : List (Option α)) :
    Runs (run.map some ++ marks) (runsFrom run marks) := by
  induction marks generalizing run with
  | nil => cases run with
    | nil => exact .nil
    | cons x rest => exact .run (List.cons_ne_nil x rest) rfl .nil
  | cons mark marks ih => cases mark with
    | none => cases run with
      | nil => exact .gap (ih [])
      | cons x rest => exact .run (List.cons_ne_nil x rest) rfl (.gap (ih []))
    | some x =>
        have later := ih (run ++ [x])
        rwa [List.map_append, List.append_assoc] at later

theorem runsFrom_statements (run xs : List α) (marks : List (Option α)) :
    runsFrom run (xs.map some ++ marks) = runsFrom (run ++ xs) marks := by
  induction xs generalizing run with
  | nil => rw [List.map_nil, List.nil_append, List.append_nil]
  | cons x rest ih =>
      rw [List.map_cons, List.cons_append, runsFrom, ih, List.append_assoc, List.singleton_append]

theorem runs_iff : Runs marks groups ↔ groups = runsFrom [] marks := by
  constructor
  · intro runs
    induction runs with
    | nil => rfl
    | gap rest ih => exact ih
    | @run group marks groups nonempty ends rest ih =>
        rw [runsFrom_statements, List.nil_append, ih]
        match marks, ends with
        | [], _ => exact (nonemptyGroups_single nonempty).symm
        | none :: marks, _ =>
            rw [runsFrom, runsFrom, nonemptyGroups_single nonempty]
            rfl
  · rintro rfl
    exact runs_runsFrom [] marks

/-! Gaps that part no statements. -/

theorem runsFrom_leading (silent : ∀ mark ∈ before, mark = none) :
    runsFrom ([] : List α) (before ++ none :: after) = runsFrom [] (before ++ after) := by
  induction before with
  | nil => rfl
  | cons mark rest ih =>
      obtain ⟨rfl, later⟩ := List.forall_mem_cons.mp silent
      exact ih later

theorem runsFrom_silent (run : List α) (silent : ∀ mark ∈ after, mark = none) :
    runsFrom run after = nonemptyGroups [run] := by
  induction after generalizing run with
  | nil => rfl
  | cons mark rest ih =>
      obtain ⟨rfl, later⟩ := List.forall_mem_cons.mp silent
      rw [runsFrom, ih [] later]
      exact List.append_nil _

theorem runsFrom_congr {first second : List (Option α)}
    (same : ∀ run, runsFrom run first = runsFrom run second) (run : List α)
    (before : List (Option α)) :
    runsFrom run (before ++ first) = runsFrom run (before ++ second) := by
  induction before generalizing run with
  | nil => exact same run
  | cons mark rest ih => cases mark with
    | none => exact congrArg (nonemptyGroups [run] ++ ·) (ih [])
    | some x => exact ih (run ++ [x])

theorem runsFrom_trailing (silent : ∀ mark ∈ after, mark = none) :
    runsFrom ([] : List α) (before ++ none :: after) = runsFrom [] (before ++ after) := by
  refine runsFrom_congr (fun run => ?_) [] before
  rw [runsFrom_silent run silent]
  exact runsFrom_silent run (List.forall_mem_cons.mpr ⟨rfl, silent⟩)

theorem runsFrom_repeated {between : List (Option α)} (silent : ∀ mark ∈ between, mark = none) :
    runsFrom ([] : List α) (before ++ none :: (between ++ none :: after)) =
      runsFrom [] (before ++ none :: (between ++ after)) := by
  refine runsFrom_congr (fun run => ?_) [] before
  rw [runsFrom, runsFrom, runsFrom_leading silent]

/-! Groups as a builder keeps them: those before the last may be empty, and the last may be. -/

/-- The groups before the last, without the empty ones, and the last. -/
inductive EndsIn : (groups closed : List (List α)) → (run : List α) → Prop where
  | none : EndsIn [] [] []
  | last (done : List (List α)) (run : List α) : EndsIn (done ++ [run]) (nonemptyGroups done) run

theorem addToLast_last (x : α) (done : List (List α)) (run : List α) :
    addToLast x (done ++ [run]) = done ++ [run ++ [x]] := by
  induction done with
  | nil => rfl
  | cons group rest ih => cases rest with
    | nil => rfl
    | cons next later => exact congrArg (group :: ·) ih

theorem lastGroup?_last (done : List (List α)) (run : List α) :
    lastGroup? (done ++ [run]) = some run := by
  induction done with
  | nil => rfl
  | cons group rest ih => cases rest with
    | nil => rfl
    | cons next later => exact ih

namespace EndsIn

theorem add (ends : EndsIn groups closed run) (x : α) :
    EndsIn (addToLast x groups) closed (run ++ [x]) := by
  cases ends with
  | none => exact last [] [x]
  | last done =>
      rw [addToLast_last]
      exact last done (run ++ [x])

theorem opened (ends : EndsIn groups closed run) :
    EndsIn (groups ++ [[]]) (closed ++ nonemptyGroups [run]) [] := by
  cases ends with
  | none => exact last [] []
  | last done =>
      rw [← nonemptyGroups_append]
      exact last (done ++ [run]) []

theorem kept (ends : EndsIn groups closed []) :
    EndsIn groups (closed ++ nonemptyGroups [[]]) [] := by
  have same : closed ++ nonemptyGroups [[]] = closed := List.append_nil closed
  rwa [same]

theorem nonemptyGroups_eq (ends : EndsIn groups closed run) :
    nonemptyGroups groups = closed ++ nonemptyGroups [run] := by
  cases ends with
  | none => rfl
  | last done => exact nonemptyGroups_append done [run]

end EndsIn

def Begins (begin_ : List (List α) → List (List α)) : Prop :=
  ∀ groups closed run, EndsIn groups closed run →
    EndsIn (begin_ groups) (closed ++ nonemptyGroups [run]) []

def addMark (begin_ : List (List α) → List (List α)) (groups : List (List α)) :
    Option α → List (List α)
  | some x => addToLast x groups
  | none => begin_ groups

theorem Begins.nonemptyGroups_marks {begin_ : List (List α) → List (List α)}
    (begins : Begins begin_) (ends : EndsIn groups closed run) (marks : List (Option α)) :
    nonemptyGroups (marks.foldl (addMark begin_) groups) = closed ++ runsFrom run marks := by
  induction marks generalizing groups closed run with
  | nil => exact ends.nonemptyGroups_eq
  | cons mark rest ih => cases mark with
    | some x => exact ih (ends.add x)
    | none =>
        have later := ih (begins groups closed run ends)
        rwa [List.append_assoc] at later

end Runs

/-! ### Calls to a builder -/

structure FileParts (α : Type) where
  header : List String
  groups : List (List α)
  body : List (List Fragment)

namespace FileParts

variable {α : Type} {begin_ : List (List α) → List (List α)}

def call (begin_ : List (List α) → List (List α)) (p : FileParts α) (c : FileCall α) :
    FileParts α :=
  ⟨p.header ++ c.headerLines, c.marks.foldl (addMark begin_) p.groups, p.body ++ c.elements⟩

theorem foldl_call_eq (p : FileParts α) (calls : List (FileCall α)) :
    calls.foldl (call begin_) p = ⟨p.header ++ calls.flatMap FileCall.headerLines,
      (calls.flatMap FileCall.marks).foldl (addMark begin_) p.groups,
      p.body ++ calls.flatMap FileCall.elements⟩ := by
  induction calls generalizing p with
  | nil => simp
  | cons c rest ih =>
      rw [List.foldl_cons, ih, call]
      simp only [List.flatMap_cons, List.append_assoc, List.foldl_append]

/-- The parts of a file for which all calls have been made, seen as those of any builder whose
single calls are told by their marks, lines and elements. -/
theorem of_calls {F : Type} (parts : F → FileParts α) {step : F → FileCall α → F} {empty : F}
    (blank : parts empty = ⟨[], [], []⟩) (told : ∀ f c, parts (step f c) = (parts f).call begin_ c)
    (calls : List (FileCall α)) : parts (calls.foldl step empty) =
      ⟨calls.flatMap FileCall.headerLines,
        (calls.flatMap FileCall.marks).foldl (addMark begin_) [],
        calls.flatMap FileCall.elements⟩ := by
  rw [← List.foldl_hom parts fun f c => (told f c).symm, blank, foldl_call_eq]
  rfl

end FileParts

/-- A call for a group changes nothing before the first statement, after the last one, and when no
statement has come since another such call. -/
structure IgnoresIdleGroups {α : Type} (text : List (FileCall α) → String) : Prop where
  leading : ∀ before after, FileCall.Silent before →
    text (before ++ .group :: after) = text (before ++ after)
  repeated : ∀ before between after, FileCall.Silent between →
    text (before ++ .group :: (between ++ .group :: after)) =
      text (before ++ .group :: (between ++ after))
  trailing : ∀ before after, FileCall.Silent after →
    text (before ++ .group :: after) = text (before ++ after)

theorem ignoresIdleGroups_of_runs {α : Type} {text : List (FileCall α) → String}
    {layout : List String → List (List α) → List (List Fragment) → String}
    (told : ∀ calls, text calls = layout (calls.flatMap FileCall.headerLines)
      (runsFrom [] (calls.flatMap FileCall.marks)) (calls.flatMap FileCall.elements)) :
    IgnoresIdleGroups text where
  leading before after silent := by
    simp only [told, List.flatMap_append, List.flatMap_cons, FileCall.headerLines, FileCall.marks,
      FileCall.elements, List.nil_append, List.singleton_append, runsFrom_leading silent]
  repeated before between after silent := by
    simp only [told, List.flatMap_append, List.flatMap_cons, FileCall.headerLines, FileCall.marks,
      FileCall.elements, List.nil_append, List.singleton_append, runsFrom_repeated silent]
  trailing before after silent := by
    simp only [told, List.flatMap_append, List.flatMap_cons, FileCall.headerLines, FileCall.marks,
      FileCall.elements, List.nil_append, List.singleton_append, runsFrom_trailing silent]

/-! ### Text at the margin -/

/-- Each line with its end. -/
def endedLines (lines : List String) : String :=
  String.join (lines.map (· ++ "\n"))

theorem endedLines_cons (line : String) (rest : List String) :
    endedLines (line :: rest) = line ++ "\n" ++ endedLines rest :=
  String.join_cons

section Margin

variable {α : Type} (unit : IndentUnit) (text : String)

theorem renderFragments_eq (fragments : List Fragment) :
    renderFragments unit fragments = linesText unit 0 (Fragment.allLines fragments) := by
  rw [renderFragments, Builder.emit_eq_write]
  exact String.empty_append

theorem emit_at_margin (fragments : List Fragment) :
    (⟨unit, 0, text⟩ : Builder).emit fragments =
      ⟨unit, 0, text ++ renderFragments unit fragments⟩ := by
  rw [Builder.emit_eq_write, renderFragments_eq]
  rfl

theorem pushLines_at_margin (lines : List String) :
    lines.foldl Builder.pushLine (⟨unit, 0, text⟩ : Builder) =
      ⟨unit, 0, text ++ endedLines lines⟩ := by
  induction lines generalizing text with
  | nil => simp [endedLines]
  | cons line rest ih =>
      have step : (⟨unit, 0, text⟩ : Builder).pushLine line =
          ⟨unit, 0, text ++ (line ++ "\n")⟩ := by
        simp [Builder.pushLine, Builder.repeated, String.append_assoc]
      rw [List.foldl_cons, step, ih, endedLines_cons, String.append_assoc]

theorem renderFragments_statements (statement : α → String) (xs : List α) :
    renderFragments unit (xs.flatMap fun x => [.line (statement x)]) =
      endedLines (xs.map statement) := by
  rw [renderFragments_eq]
  induction xs with
  | nil => rfl
  | cons x rest ih =>
      have line : linesText unit 0 (Fragment.line (statement x)).lines = statement x ++ "\n" := by
        simp [linesText, Fragment.lines, Line.written]
      rw [List.flatMap_cons, List.singleton_append, Fragment.allLines, linesText_append, ih, line,
        List.map_cons, endedLines_cons]

theorem endedLines_eq (lines : List String) :
    endedLines lines = linesText unit 0 (lines.map (Line.nested 0)) := by
  rw [endedLines, linesText, List.map_map]
  exact congrArg String.join (List.map_congr_left fun line _ => by simp [Line.written])

theorem linesText_intercalate (level : Nat) (parts : List (List Line)) :
    linesText unit level ([.blank].intercalate parts) =
      "\n".intercalate (parts.map (linesText unit level)) := by
  induction parts with
  | nil => rfl
  | cons part rest ih => cases rest with
    | nil => simp
    | cons next later =>
        have blank : linesText unit level [.blank] = "\n" := by simp [linesText, Line.written]
        rw [List.intercalate_cons_cons, linesText_append, linesText_append, ih, blank]
        exact String.intercalate_cons_cons.symm

end Margin

/-! ### TypeScript files -/

namespace Script

/-- No blank line parts the header from what is below it. -/
def layout (unit : IndentUnit) (header : List String) (groups : List (List Import))
    (body : List (List Fragment)) : String :=
  endedLines header ++
    "\n".intercalate (groups.map fun group => endedLines (group.map Import.statement)) ++
    (if groups ≠ [] ∧ body ≠ [] then "\n" else "") ++
    "\n".intercalate (body.map (renderFragments unit))

namespace File

def call (f : File) : FileCall Import → File
  | .header line => f.addHeader line
  | .statement i => f.addImport i
  | .statements imports => f.addImports imports
  | .group => f.beginGroup
  | .add element => f.add element
  | .addAll elements => f.addAll elements

def ofCalls (calls : List (FileCall Import)) : File :=
  calls.foldl call empty

def begun (groups : List (List Import)) : List (List Import) :=
  match lastGroup? groups with
  | some (_ :: _) => groups ++ [[]]
  | _ => groups

theorem begins_begun : Begins begun := by
  intro groups closed run ends
  cases ends with
  | none => exact .none
  | last done =>
      rw [begun, lastGroup?_last]
      cases run with
      | nil => exact (EndsIn.last done []).kept
      | cons i rest => exact (EndsIn.last done (i :: rest)).opened

theorem beginGroup_eq (f : File) :
    f.beginGroup = { f with importGroups := begun f.importGroups } := by
  unfold beginGroup begun
  cases lastGroup? f.importGroups with
  | none => rfl
  | some group => cases group <;> rfl

theorem addImports_eq (f : File) (imports : List Import) : f.addImports imports =
    { f with importGroups := (imports.map some).foldl (addMark begun) f.importGroups } := by
  unfold addImports
  induction imports generalizing f with
  | nil => rfl
  | cons i rest ih => exact ih (f.addImport i)

def parts (f : File) : FileParts Import :=
  ⟨f.header, f.importGroups, f.body⟩

theorem parts_call (f : File) (c : FileCall Import) : (f.call c).parts = f.parts.call begun c := by
  cases c with
  | header line => simp [call, addHeader, parts, FileParts.call]
  | statement i => simp [call, addImport, parts, FileParts.call, addMark]
  | statements imports => simp [call, addImports_eq, parts, FileParts.call]
  | group => simp [call, beginGroup_eq, parts, FileParts.call, addMark]
  | add element => simp [call, add, parts, FileParts.call]
  | addAll elements => simp [call, addAll, parts, FileParts.call]

theorem parts_ofCalls (calls : List (FileCall Import)) : (ofCalls calls).parts =
    ⟨calls.flatMap FileCall.headerLines, (calls.flatMap FileCall.marks).foldl (addMark begun) [],
      calls.flatMap FileCall.elements⟩ :=
  FileParts.of_calls parts rfl parts_call calls

theorem emitSeparated_at_margin (unit : IndentUnit) (text : String) (parts : List (List Fragment)) :
    emitSeparated ⟨unit, 0, text⟩ parts =
      ⟨unit, 0, text ++ "\n".intercalate (parts.map (renderFragments unit))⟩ := by
  induction parts generalizing text with
  | nil => simp [emitSeparated]
  | cons part rest ih => cases rest with
    | nil =>
        rw [emitSeparated, emit_at_margin]
        simp
    | cons next later =>
        have step : emitSeparated ⟨unit, 0, text⟩ (part :: next :: later) =
            emitSeparated ⟨unit, 0, text ++ renderFragments unit part ++ "\n"⟩ (next :: later) := by
          rw [emitSeparated, emit_at_margin]
          · rfl
          · exact List.cons_ne_nil next later
        rw [step, ih]
        simp [String.intercalate_cons_cons, String.append_assoc]

theorem renderWith_eq (f : File) (unit : IndentUnit) :
    f.renderWith unit = layout unit f.header (nonemptyGroups f.importGroups) f.body := by
  have groups : (nonemptyGroups f.importGroups).map (renderFragments unit ∘ groupFragments) =
      (nonemptyGroups f.importGroups).map fun group => endedLines (group.map Import.statement) :=
    List.map_congr_left fun group _ => renderFragments_statements unit Import.statement group
  have start : Builder.new unit = ⟨unit, 0, ""⟩ := rfl
  simp only [renderWith, start, pushLines_at_margin, emitSeparated_at_margin, List.map_map, groups,
    layout, String.empty_append]
  by_cases both : nonemptyGroups f.importGroups ≠ [] ∧ f.body ≠ []
  · simp [both, Builder.pushBlank, emitSeparated_at_margin]
  · have alone : (!(nonemptyGroups f.importGroups).isEmpty && !f.body.isEmpty) = false := by
      simpa [Bool.eq_false_iff] using both
    simp [both, alone, emitSeparated_at_margin]

theorem render_ofCalls (calls : List (FileCall Import)) :
    (ofCalls calls).render = layout .typescript (calls.flatMap FileCall.headerLines)
      (runsFrom [] (calls.flatMap FileCall.marks)) (calls.flatMap FileCall.elements) := by
  obtain ⟨header, groups, body⟩ := FileParts.mk.inj (parts_ofCalls calls)
  rw [render, renderWith_eq, header, groups, body, begins_begun.nonemptyGroups_marks .none]
  rfl

def lines (f : File) : List Line :=
  let groups := nonemptyGroups f.importGroups
  f.header.map (.nested 0) ++
    [.blank].intercalate (groups.map (·.map fun i => .nested 0 i.statement)) ++
    (if groups ≠ [] ∧ f.body ≠ [] then [.blank] else []) ++
    [.blank].intercalate (f.body.map Fragment.allLines)

theorem render_eq_lines (f : File) : f.render = linesText .typescript 0 f.lines := by
  rw [render, renderWith_eq, layout, lines]
  have groups : (nonemptyGroups f.importGroups).map
      (fun group => endedLines (group.map Import.statement)) =
      ((nonemptyGroups f.importGroups).map (·.map fun i => Line.nested 0 i.statement)).map
        (linesText .typescript 0) := by
    rw [List.map_map]
    refine List.map_congr_left fun group _ => ?_
    rw [endedLines_eq .typescript, List.map_map]
    rfl
  have body : f.body.map (renderFragments .typescript) =
      (f.body.map Fragment.allLines).map (linesText .typescript 0) := by
    rw [List.map_map]
    exact List.map_congr_left fun part _ => renderFragments_eq _ part
  have gap : (if nonemptyGroups f.importGroups ≠ [] ∧ f.body ≠ [] then "\n" else "") =
      linesText .typescript 0
        (if nonemptyGroups f.importGroups ≠ [] ∧ f.body ≠ [] then [.blank] else []) := by
    split <;> simp [linesText, Line.written]
  rw [groups, body, gap, endedLines_eq .typescript]
  simp only [linesText_append, linesText_intercalate]

theorem lines_ofCalls (calls : List (FileCall Import)) {groups : List (List Import)}
    (runs : runsFrom [] (calls.flatMap FileCall.marks) = groups) : (ofCalls calls).lines =
      (calls.flatMap FileCall.headerLines).map (.nested 0) ++
        [.blank].intercalate (groups.map (·.map fun i => .nested 0 i.statement)) ++
        (if groups ≠ [] ∧ calls.flatMap FileCall.elements ≠ [] then [.blank] else []) ++
        [.blank].intercalate ((calls.flatMap FileCall.elements).map Fragment.allLines) := by
  obtain ⟨header, marked, body⟩ := FileParts.mk.inj (parts_ofCalls calls)
  have kept : nonemptyGroups (ofCalls calls).importGroups = groups := by
    rw [marked, begins_begun.nonemptyGroups_marks .none]
    exact runs
  rw [lines, kept, header, body]

end File

end Script

/-! ### Rust files -/

namespace Items

def headerSection (header : List String) : List String :=
  if header = [] then [] else [endedLines header]

/-- The header is parted from what is below it like any other section. -/
def layout (header : List String) (groups : List (List Use)) (body : List (List Fragment)) :
    String :=
  "\n".intercalate (headerSection header ++
    groups.map (fun group => endedLines (group.map Use.statement)) ++
    body.map (renderFragments .rust))

namespace File

def call (f : File) : FileCall Use → File
  | .header line => f.addHeader line
  | .statement u => f.addUse u
  | .statements uses => f.addUses uses
  | .group => f.beginGroup
  | .add item => f.add item
  | .addAll items => f.addAll items

def ofCalls (calls : List (FileCall Use)) : File :=
  calls.foldl call empty

def begun (groups : List (List Use)) : List (List Use) :=
  match lastGroup? groups with
  | some [] => groups
  | _ => groups ++ [[]]

theorem begins_begun : Begins begun := by
  intro groups closed run ends
  cases ends with
  | none => exact EndsIn.none.opened
  | last done =>
      rw [begun, lastGroup?_last]
      cases run with
      | nil => exact (EndsIn.last done []).kept
      | cons u rest => exact (EndsIn.last done (u :: rest)).opened

theorem beginGroup_eq (f : File) :
    f.beginGroup = { f with useGroups := begun f.useGroups } := by
  unfold beginGroup begun
  cases lastGroup? f.useGroups with
  | none => rfl
  | some group => cases group <;> rfl

theorem addUses_eq (f : File) (uses : List Use) : f.addUses uses =
    { f with useGroups := (uses.map some).foldl (addMark begun) f.useGroups } := by
  unfold addUses
  induction uses generalizing f with
  | nil => rfl
  | cons u rest ih => exact ih (f.addUse u)

def parts (f : File) : FileParts Use :=
  ⟨f.header, f.useGroups, f.body⟩

theorem parts_call (f : File) (c : FileCall Use) : (f.call c).parts = f.parts.call begun c := by
  cases c with
  | header line => simp [call, addHeader, parts, FileParts.call]
  | statement u => simp [call, addUse, parts, FileParts.call, addMark]
  | statements uses => simp [call, addUses_eq, parts, FileParts.call]
  | group => simp [call, beginGroup_eq, parts, FileParts.call, addMark]
  | add item => simp [call, add, parts, FileParts.call]
  | addAll items => simp [call, addAll, parts, FileParts.call]

theorem parts_ofCalls (calls : List (FileCall Use)) : (ofCalls calls).parts =
    ⟨calls.flatMap FileCall.headerLines, (calls.flatMap FileCall.marks).foldl (addMark begun) [],
      calls.flatMap FileCall.elements⟩ :=
  FileParts.of_calls parts rfl parts_call calls

theorem emitSections_at_margin (unit : IndentUnit) (before : List String)
    (parts : List (List Fragment)) :
    emitSections ⟨unit, 0, "\n".intercalate before⟩ (!before.isEmpty) parts =
      ⟨unit, 0, "\n".intercalate (before ++ parts.map (renderFragments unit))⟩ := by
  induction parts generalizing before with
  | nil => rw [emitSections, List.map_nil, List.append_nil]
  | cons part rest ih =>
      have step : (if !before.isEmpty then (⟨unit, 0, "\n".intercalate before⟩ : Builder).pushBlank
          else ⟨unit, 0, "\n".intercalate before⟩).emit part =
            ⟨unit, 0, "\n".intercalate (before ++ [renderFragments unit part])⟩ := by
        cases before with
        | nil => exact emit_at_margin unit "" part
        | cons first others =>
            rw [String.intercalate_append_of_ne_nil (List.cons_ne_nil first others)
              (List.cons_ne_nil _ _), String.intercalate_singleton]
            exact emit_at_margin unit _ part
      have opened : (!(before ++ [renderFragments unit part]).isEmpty) = true := by simp
      have later := ih (before ++ [renderFragments unit part])
      rw [opened, List.append_assoc] at later
      rw [emitSections, step, later]
      rfl

theorem headerSection_isEmpty (header : List String) :
    (headerSection header).isEmpty = header.isEmpty := by
  cases header <;> rfl

theorem pushHeader_eq (header : List String) : header.foldl Builder.pushLine (.new .rust) =
    ⟨.rust, 0, "\n".intercalate (headerSection header)⟩ := by
  have start : Builder.new .rust = ⟨.rust, 0, ""⟩ := rfl
  rw [start, pushLines_at_margin, String.empty_append]
  cases header with
  | nil => rfl
  | cons line rest => exact congrArg (Builder.mk .rust 0) String.intercalate_singleton.symm

theorem render_eq (f : File) :
    f.render = layout f.header (nonemptyGroups f.useGroups) f.body := by
  have grouped : ((nonemptyGroups f.useGroups).map groupFragments).map (renderFragments .rust) =
      (nonemptyGroups f.useGroups).map fun group => endedLines (group.map Use.statement) := by
    rw [List.map_map]
    exact List.map_congr_left fun group _ => renderFragments_statements .rust Use.statement group
  have below : (!f.header.isEmpty || !(nonemptyGroups f.useGroups).isEmpty) =
      !(headerSection f.header ++ (nonemptyGroups f.useGroups).map fun group =>
        endedLines (group.map Use.statement)).isEmpty := by
    cases f.header <;> cases nonemptyGroups f.useGroups <;> rfl
  simp only [render, below]
  rw [pushHeader_eq, ← headerSection_isEmpty, emitSections_at_margin, grouped,
    emitSections_at_margin]
  rfl

theorem render_ofCalls (calls : List (FileCall Use)) :
    (ofCalls calls).render = layout (calls.flatMap FileCall.headerLines)
      (runsFrom [] (calls.flatMap FileCall.marks)) (calls.flatMap FileCall.elements) := by
  obtain ⟨header, groups, body⟩ := FileParts.mk.inj (parts_ofCalls calls)
  rw [render_eq, header, groups, body, begins_begun.nonemptyGroups_marks .none]
  rfl

end File

end Items

/--
Files are laid out by their header, their runs of statements and their elements alone, TypeScript
files with a blank line below the statements only if there is a body, Rust files with one between
any two sections.
-/
theorem files_laid_out :
    (∀ calls : List (FileCall Script.Import), ∃ groups, Runs (calls.flatMap FileCall.marks) groups ∧
      (Script.File.ofCalls calls).render = Script.layout .typescript
        (calls.flatMap FileCall.headerLines) groups (calls.flatMap FileCall.elements)) ∧
    (∀ calls : List (FileCall Items.Use), ∃ groups, Runs (calls.flatMap FileCall.marks) groups ∧
      (Items.File.ofCalls calls).render = Items.layout
        (calls.flatMap FileCall.headerLines) groups (calls.flatMap FileCall.elements)) ∧
    IgnoresIdleGroups (fun calls => (Script.File.ofCalls calls).render) ∧
    IgnoresIdleGroups (fun calls => (Items.File.ofCalls calls).render) := by
  refine ⟨?_, ?_, ?_, ?_⟩
  · intro calls
    exact ⟨_, runs_iff.mpr rfl, Script.File.render_ofCalls calls⟩
  · intro calls
    exact ⟨_, runs_iff.mpr rfl, Items.File.render_ofCalls calls⟩
  · exact ignoresIdleGroups_of_runs Script.File.render_ofCalls
  · exact ignoresIdleGroups_of_runs Items.File.render_ofCalls

example :
    (Script.File.ofCalls [.group, .header "// a", .statement (.ofPath "b"), .group, .group,
      .statement (.ofPath "c"), .group, .add [.line "d"]]).render =
        "// a\nimport \"b\";\n\nimport \"c\";\n\nd\n" ∧
    (Items.File.ofCalls [.group, .header "// a", .statement (.ofPath "b"), .group, .group,
      .statement (.ofPath "c"), .group, .add [.line "d"]]).render =
        "// a\n\nuse b;\n\nuse c;\n\nd\n" := by
  decide

end SchemaBindings
