import SchemaBindings.Emit.Context
import SchemaBindings.Imports.Basic
import SchemaBindings.Layout.Builder

/-!
Phased emission: every entry is collected, the imports are settled once, and each emitting phase
then runs over the accepted entries in order.
-/

namespace SchemaBindings

abbrev Emitted := Except GenerationError (List Fragment)

/-- What a collecting step leaves behind, whether it failed or not. -/
structure Collected (α : Type) where
  result : Except GenerationError α
  imports : Imports
  context : EmitContext

/--
Collecting registers the types of an entry and tells whether it takes part. Nothing keeps it from
moving the context on to a later phase, or from leaving other imports or another context behind.
-/
structure PhasedGenerator (ε : Type) where
  collect : ε → Imports → EmitContext → Collected Bool
  decl : ε → Imports → Emitted := fun _ _ => .ok []
  ctor : ε → Imports → Emitted := fun _ _ => .ok []
  impl : ε → Imports → Emitted := fun _ _ => .ok []

structure PhasedOutput where
  decls : List Fragment
  ctors : List Fragment
  impls : List Fragment
  accepted : Nat
  diagnostics : List Diagnostic
  deriving Repr

namespace PhasedOutput

def empty : PhasedOutput :=
  ⟨[], [], [], 0, []⟩

def fragments (o : PhasedOutput) : Phase → List Fragment
  | .collect => []
  | .decl => o.decls
  | .ctor => o.ctors
  | .impl => o.impls

def withFragments (o : PhasedOutput) (phase : Phase) (fragments : List Fragment) : PhasedOutput :=
  match phase with
  | .collect => o
  | .decl => { o with decls := fragments }
  | .ctor => { o with ctors := fragments }
  | .impl => { o with impls := fragments }

end PhasedOutput

namespace PhasedGenerator

def collectAll (g : PhasedGenerator ε) : List ε → Imports → EmitContext → Collected (List ε)
  | [], imports, context => ⟨.ok [], imports, context⟩
  | entry :: entries, imports, context =>
    let step := g.collect entry imports context
    match step.result with
    | .error e => ⟨.error e, step.imports, step.context⟩
    | .ok accepted =>
      let rest := g.collectAll entries step.imports step.context
      { rest with
        result := rest.result.map fun others => if accepted then entry :: others else others }

def emitAll (emit : ε → Imports → Emitted) (imports : Imports) (entries : List ε) : Emitted := do
  return (← entries.mapM (emit · imports)).flatten

def emitIn (g : PhasedGenerator ε) : Phase → ε → Imports → Emitted
  | .collect, _, _ => .ok []
  | .decl, entry, imports => g.decl entry imports
  | .ctor, entry, imports => g.ctor entry imports
  | .impl, entry, imports => g.impl entry imports

/-- The phases after the one the context is in, each over all accepted entries. -/
def emitFrom (g : PhasedGenerator ε) (imports : Imports) (accepted : List ε)
    (context : EmitContext) (output : PhasedOutput) : Except GenerationError PhasedOutput :=
  match _moves : context.advance? with
  | none =>
    .ok { output with accepted := accepted.length, diagnostics := context.diagnostics }
  | some next => do
    let fragments ← emitAll (g.emitIn next.phase) imports accepted
    g.emitFrom imports accepted next (output.withFragments next.phase fragments)
termination_by context.phase.left
decreasing_by exact EmitContext.left_of_advance _moves

def run (g : PhasedGenerator ε) (entries : List ε) (imports : Imports) :
    Except GenerationError PhasedOutput × Imports :=
  let collected := g.collectAll entries imports .start
  match collected.result with
  | .error e => (.error e, collected.imports)
  | .ok accepted =>
    match collected.imports.settle with
    | .error e => (.error e, collected.imports)
    | .ok settled => (g.emitFrom settled accepted collected.context .empty, settled)

end PhasedGenerator

end SchemaBindings
