import SchemaBindings.Resolve.Error
import SchemaBindings.Schema.Basic

/-! Expanding the head of a type expression through aliases, and newtypes where wanted. -/

namespace SchemaBindings

abbrev Resolver := ScopedName → Option Decl

/-- Whether a newtype stands for its underlying type or for itself. -/
inductive NewtypePolicy where
  | expand
  | nominal
  deriving DecidableEq, Repr

def expansionLimit : Nat := 32

def checkArity (name : ScopedName) (expected supplied : Nat) : Except GenerationError Unit :=
  if supplied < expected then .error (.partialApplication name expected supplied)
  else if expected < supplied then
    .error (.unsupported (.surplusArguments name expected supplied))
  else .ok ()

def argumentFor? (params : List String) (args : List TypeExpr) (param : String) :
    Option (Option TypeExpr) :=
  (params.findIdx? (· == param)).map (args[·]?)

mutual

/-- Puts arguments for the parameters of `owner`, by position; arguments are taken as they are. -/
def substitute (owner : ScopedName) (params : List String) (args : List TypeExpr) :
    TypeExpr → Except GenerationError TypeExpr
  | ⟨.typeParam param, parameters⟩ =>
    match argumentFor? params args param with
    | some argument =>
      if !parameters.isEmpty then .error (.unsupported (.appliedParam param owner))
      else
        match argument with
        | some te => .ok te
        | none => .error (.partialApplication owner params.length args.length)
    | none => (substituteAll owner params args parameters).map (⟨.typeParam param, ·⟩)
  | ⟨.primitive name, parameters⟩ =>
    (substituteAll owner params args parameters).map (⟨.primitive name, ·⟩)
  | ⟨.reference name, parameters⟩ =>
    (substituteAll owner params args parameters).map (⟨.reference name, ·⟩)

def substituteAll (owner : ScopedName) (params : List String) (args : List TypeExpr) :
    List TypeExpr → Except GenerationError (List TypeExpr)
  | [] => .ok []
  | te :: rest => do
    let te ← substitute owner params args te
    let rest ← substituteAll owner params args rest
    return te :: rest

end

structure Expander where
  resolver : Resolver
  newtypes : NewtypePolicy

namespace Expander

def definition? (e : Expander) (d : Decl) : Option (List String × TypeExpr) :=
  match d.body with
  | .typeAlias params body => some (params, body)
  | .newtype params body _ => if e.newtypes = .expand then some (params, body) else none
  | _ => none

def step (e : Expander) (te : TypeExpr) : Except GenerationError (Option TypeExpr) :=
  match te.head with
  | .reference name =>
    match e.resolver name with
    | none => .error (.unresolvedReference name)
    | some d =>
      match e.definition? d with
      | none => .ok none
      | some (params, body) => do
        checkArity name params.length te.parameters.length
        let expanded ← substitute name params te.parameters body
        return some expanded
  | _ => .ok none

/-- At most `steps` expansions; one more would be a cycle through `origin`. -/
def expandWithin (e : Expander) (origin : TypeExpr) :
    (steps : Nat) → TypeExpr → Except GenerationError TypeExpr
  | 0, te => do
    match ← e.step te with
    | some _ => throw (.aliasCycle origin.text expansionLimit)
    | none => return te
  | steps + 1, te => do
    match ← e.step te with
    | some next => e.expandWithin origin steps next
    | none => return te

def expand (e : Expander) (te : TypeExpr) : Except GenerationError TypeExpr :=
  e.expandWithin te expansionLimit te

end Expander

end SchemaBindings
