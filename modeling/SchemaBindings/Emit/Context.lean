import SchemaBindings.Emit.Diagnostic
import SchemaBindings.Emit.Phase

/-! The current phase and the findings so far. -/

namespace SchemaBindings

structure EmitContext where
  phase : Phase
  diagnostics : List Diagnostic
  deriving DecidableEq, Repr

namespace EmitContext

def start : EmitContext :=
  ⟨.collect, []⟩

def advance? (c : EmitContext) : Option EmitContext :=
  c.phase.next?.map fun phase => { c with phase }

def warn (c : EmitContext) (location message : String) : EmitContext :=
  { c with diagnostics := c.diagnostics ++ [⟨.warning, c.phase.name, message, some location⟩] }

theorem left_of_advance {c next : EmitContext} (moves : c.advance? = some next) :
    next.phase.left < c.phase.left := by
  obtain ⟨phase, follows, rfl⟩ := Option.map_eq_some_iff.mp moves
  exact Phase.left_of_next follows

end EmitContext

end SchemaBindings
