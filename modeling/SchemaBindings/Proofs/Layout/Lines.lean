import SchemaBindings.Layout.Builder

/-!
What a builder writes. Fragments are flattened to lines, each nested to a depth; emitting them adds
the text of these lines at the level of the builder and leaves the level as it was, whichever calls
have led to it.
-/

namespace SchemaBindings

/-- A line of flattened fragments. Blank lines have no depth. -/
inductive Line where
  | nested (depth : Nat) (text : String)
  | blank
  deriving DecidableEq, Repr

namespace Line

def deeper : Line → Line
  | .nested depth text => .nested (depth + 1) text
  | .blank => .blank

/-- The line with its end, where the outermost lines stand at the level. -/
def written (unit : IndentUnit) (level : Nat) : Line → String
  | .nested depth text => String.join (List.replicate (level + depth) unit.text) ++ text ++ "\n"
  | .blank => "\n"

theorem written_deeper (unit : IndentUnit) (level : Nat) (line : Line) :
    line.deeper.written unit level = line.written unit (level + 1) := by
  cases line with
  | nested depth text => rw [deeper, written, written, Nat.add_right_comm, Nat.add_assoc]
  | blank => rfl

end Line

def linesText (unit : IndentUnit) (level : Nat) (lines : List Line) : String :=
  String.join (lines.map (Line.written unit level))

theorem linesText_append (unit : IndentUnit) (level : Nat) (first second : List Line) :
    linesText unit level (first ++ second) =
      linesText unit level first ++ linesText unit level second := by
  rw [linesText, List.map_append, String.join_append]
  rfl

theorem linesText_deeper (unit : IndentUnit) (level : Nat) (lines : List Line) :
    linesText unit level (lines.map Line.deeper) = linesText unit (level + 1) lines := by
  rw [linesText, List.map_map]
  exact congrArg String.join (List.map_congr_left fun line _ => line.written_deeper unit level)

namespace Fragment

mutual

def lines : Fragment → List Line
  | .line text => [.nested 0 text]
  | .blank => [.blank]
  | .block header body close =>
    .nested 0 header :: (allLines body).map Line.deeper ++ (close.map (Line.nested 0)).toList
  | .indent body => (allLines body).map Line.deeper
  | .jsDoc text => [.nested 0 ("/** " ++ text ++ " */")]
  | .rustDoc text => [.nested 0 ("/// " ++ text)]

def allLines : List Fragment → List Line
  | [] => []
  | fragment :: rest => fragment.lines ++ allLines rest

end

theorem allLines_append (first second : List Fragment) :
    allLines (first ++ second) = allLines first ++ allLines second := by
  induction first with
  | nil => rfl
  | cons fragment rest ih => rw [List.cons_append, allLines, ih, allLines, List.append_assoc]

theorem allLines_braced (header : String) (body : List Fragment) :
    allLines [.braced header body] =
      .nested 0 header :: (allLines body).map Line.deeper ++ [.nested 0 "\x7d"] :=
  List.append_nil _

theorem allLines_flatten (parts : List (List Fragment)) :
    allLines parts.flatten = (parts.map allLines).flatten := by
  induction parts with
  | nil => rfl
  | cons part rest ih => rw [List.flatten_cons, allLines_append, ih]; rfl

end Fragment

namespace Builder

theorem repeated_eq_join (s : String) (n : Nat) :
    repeated s n = String.join (List.replicate n s) := by
  induction n with
  | zero => rfl
  | succ n ih => rw [repeated, ih, List.replicate_succ, String.join_cons]

def write (b : Builder) (lines : List Line) : Builder :=
  { b with text := b.text ++ linesText b.unit b.level lines }

@[simp] theorem write_nil (b : Builder) : b.write [] = b := by
  simp [write, linesText]

theorem write_append (b : Builder) (first second : List Line) :
    b.write (first ++ second) = (b.write first).write second := by
  simp only [write, linesText_append, String.append_assoc]

theorem pushLine_eq (b : Builder) (text : String) : b.pushLine text = b.write [.nested 0 text] := by
  simp [pushLine, write, linesText, Line.written, repeated_eq_join, String.append_assoc]

theorem pushBlank_eq (b : Builder) : b.pushBlank = b.write [.blank] := by
  simp [pushBlank, write, linesText, Line.written]

theorem pushClose_eq (b : Builder) (close : Option String) :
    b.pushClose close = b.write (close.map (Line.nested 0)).toList := by
  cases close with
  | none => exact b.write_nil.symm
  | some text => exact b.pushLine_eq text

/-- Between indenting and dedenting, what is written is one deeper, and the level is as before. -/
theorem dedent_write_indent (b : Builder) (lines : List Line) :
    (b.indent.write lines).dedent = b.write (lines.map Line.deeper) := by
  simp only [write, indent, dedent, linesText_deeper, Nat.add_sub_cancel]

mutual

theorem apply_eq_write (b : Builder) :
    (fragment : Fragment) → b.apply fragment = b.write fragment.lines
  | .line text => b.pushLine_eq text
  | .blank => b.pushBlank_eq
  | .block header body close => by
      rw [apply, emit_eq_write, dedent_write_indent, pushLine_eq, pushClose_eq, ← write_append,
        ← write_append]
      rfl
  | .indent body => by
      rw [apply, emit_eq_write, dedent_write_indent]
      rfl
  | .jsDoc text => b.pushLine_eq _
  | .rustDoc text => b.pushLine_eq _

theorem emit_eq_write (b : Builder) :
    (fragments : List Fragment) → b.emit fragments = b.write (Fragment.allLines fragments)
  | [] => b.write_nil.symm
  | fragment :: rest => by
      rw [emit, apply_eq_write, emit_eq_write, ← write_append]
      rfl

end

theorem emit_append (b : Builder) (first second : List Fragment) :
    b.emit (first ++ second) = (b.emit first).emit second := by
  induction first generalizing b with
  | nil => rfl
  | cons fragment rest ih => exact ih (b.apply fragment)

end Builder

inductive BuilderCall where
  | indent
  | dedent
  | line (text : String)
  | blank
  | jsDoc (text : String)
  | rustDoc (text : String)
  | apply (fragment : Fragment)
  | emit (fragments : List Fragment)
  deriving Repr

namespace BuilderCall

def lines : BuilderCall → List Line
  | .indent => []
  | .dedent => []
  | .line text => (Fragment.line text).lines
  | .blank => Fragment.blank.lines
  | .jsDoc text => (Fragment.jsDoc text).lines
  | .rustDoc text => (Fragment.rustDoc text).lines
  | .apply fragment => fragment.lines
  | .emit fragments => Fragment.allLines fragments

def levelAfter (level : Nat) : BuilderCall → Nat
  | .indent => level + 1
  | .dedent => level - 1
  | _ => level

def written (unit : IndentUnit) : Nat → List BuilderCall → String
  | _, [] => ""
  | level, call :: rest =>
    linesText unit level call.lines ++ written unit (call.levelAfter level) rest

end BuilderCall

namespace Builder

def call (b : Builder) : BuilderCall → Builder
  | .indent => b.indent
  | .dedent => b.dedent
  | .line text => b.pushLine text
  | .blank => b.pushBlank
  | .jsDoc text => b.pushJsDoc text
  | .rustDoc text => b.pushRustDoc text
  | .apply fragment => b.apply fragment
  | .emit fragments => b.emit fragments

def run (b : Builder) (calls : List BuilderCall) : Builder :=
  calls.foldl call b

theorem call_eq (b : Builder) (c : BuilderCall) :
    b.call c = { b.write c.lines with level := c.levelAfter b.level } := by
  cases c with
  | indent => rw [BuilderCall.lines, write_nil]; rfl
  | dedent => rw [BuilderCall.lines, write_nil]; rfl
  | line text => exact b.apply_eq_write (.line text)
  | blank => exact b.apply_eq_write .blank
  | jsDoc text => exact b.apply_eq_write (.jsDoc text)
  | rustDoc text => exact b.apply_eq_write (.rustDoc text)
  | apply fragment => exact b.apply_eq_write fragment
  | emit fragments => exact b.emit_eq_write fragments

theorem run_eq (b : Builder) (calls : List BuilderCall) :
    b.run calls = ⟨b.unit, calls.foldl BuilderCall.levelAfter b.level,
      b.text ++ BuilderCall.written b.unit b.level calls⟩ := by
  induction calls generalizing b with
  | nil => simp [run, BuilderCall.written]
  | cons c rest ih =>
      have step : b.run (c :: rest) = (b.call c).run rest := rfl
      rw [step, ih, call_eq]
      simp only [write, BuilderCall.written, List.foldl_cons, String.append_assoc]

end Builder

/--
Emitting adds the lines of the fragments, each with its end and indented by the level and its depth,
to what is written, and changes nothing else. So lists are emitted one after the other, an indented
list is emitted one level deeper, and what any calls in any order write is told by the level that
each of them finds.
-/
theorem emitted_exactly :
    (∀ (b : Builder) (fragments : List Fragment), b.emit fragments =
      { b with text := b.text ++ linesText b.unit b.level (Fragment.allLines fragments) }) ∧
    (∀ (b : Builder) (first second : List Fragment),
      b.emit (first ++ second) = (b.emit first).emit second) ∧
    (∀ (b : Builder) (body : List Fragment), b.emit [.indent body] =
      { Builder.emit { b with level := b.level + 1 } body with level := b.level }) ∧
    ∀ (b : Builder) (calls : List BuilderCall), b.run calls =
      ⟨b.unit, calls.foldl BuilderCall.levelAfter b.level,
        b.text ++ BuilderCall.written b.unit b.level calls⟩ := by
  refine ⟨Builder.emit_eq_write, Builder.emit_append, ?_, Builder.run_eq⟩
  intro b body
  have inside : b.emit [.indent body] = (b.indent.emit body).dedent := rfl
  have level : (b.indent.emit body).level = b.level + 1 := by
    rw [Builder.emit_eq_write]
    rfl
  rw [inside, Builder.dedent, level]
  rfl

/-- Dedentations at the margin are not owed to later indentations. -/
example : ((Builder.new .typescript).run
    [.dedent, .dedent, .indent, .emit [.block "if (a) \x7b" [.line "b();", .blank] none],
      .dedent, .jsDoc "c"]).text = "  if (a) \x7b\n    b();\n\n/** c */\n" := by
  decide

end SchemaBindings
