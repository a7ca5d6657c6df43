import SchemaBindings.Proofs.Imports.Rendering
import SchemaBindings.Proofs.Imports.Settling

/-!
The two stages of a helper. It collects until it is settled, which happens once at most, and tells
no name before that; from then on nothing is registered and no call changes what it tells. Calls are
made in place, where one that failed halfway would leave its traces.
-/

namespace SchemaBindings

/-- What a helper can be asked. -/
inductive Question where
  | isSettled
  | aliasOf (moduleName : String)
  | modules
  | symbol (moduleName name : String)
  | helper (name : ScopedName) (before : String)
  | type (te : TypeExpr)
  | decoded (d : Decoded)
  deriving Repr

inductive Answer where
  | done
  | flag (b : Bool)
  | aliasOf (moduleAlias : Option String)
  | modules (entries : List ModuleImport)
  | text (written : String)
  deriving DecidableEq, Repr

def Question.answer (i : Imports) : Question → Except GenerationError Answer
  | isSettled => .ok (.flag i.isSettled)
  | aliasOf moduleName => .ok (.aliasOf (i.alias? moduleName))
  | modules => .modules <$> i.modules
  | symbol moduleName name => .text <$> i.qualifiedSymbol moduleName name
  | helper name before => .text <$> i.helperName name before
  | type te => .text <$> i.referencedName te
  | decoded d => .text <$> i.decodedName d

inductive Call where
  | register (registration : Registration)
  | settle
  | ask (question : Question)
  deriving Repr

def Call.apply (i : Imports) : Call → Except GenerationError (Answer × Imports)
  | register registration => (.done, ·) <$> registration.apply i
  | settle => (.done, ·) <$> i.settle
  | ask question => (·, i) <$> question.answer i

theorem Imports.open_or_isSettled (i : Imports) : i.settled = none ∨ i.isSettled = true := by
  rw [isSettled]
  cases i.settled with
  | none => exact .inl rfl
  | some names => exact .inr rfl

/-- What is done to a helper in place. What was done before a failure stays done. -/
abbrev InPlace := EStateM GenerationError Imports

namespace InPlace

def checkOpen (operation : String) : InPlace Unit := do
  match (← get).ensureOpen operation with
  | .ok _ => pure ()
  | .error misuse => throw misuse

def registerNames (helpers : List String) (names : List ScopedName) : InPlace Unit :=
  names.forM fun name => modify (·.register helpers name)

mutual

def registerType (helpers : List String) : TypeExpr → InPlace Unit
  | ⟨head, parameters⟩ => do
    checkOpen "add_type"
    registerNames helpers head.reference?.toList
    registerTypes parameters

def registerTypes : List TypeExpr → InPlace Unit
  | [] => pure ()
  | te :: rest => do
    registerType [] te
    registerTypes rest

end

def register : Registration → InPlace Unit
  | .type te => registerType [] te
  | .typeWithHelpers te helpers => registerType helpers te
  | .decoded d => do
    checkOpen "add_decoded"
    registerNames [] (d.references.map (·.1))

def settle : InPlace Unit := do
  checkOpen "resolve_imports"
  modify fun i => { i with settled := some i.names }

def ask (question : Question) : InPlace Answer := do
  match question.answer (← get) with
  | .ok answer => pure answer
  | .error e => throw e

def perform : Call → InPlace Answer
  | .register registration => do
    register registration
    return .done
  | .settle => do
    settle
    return .done
  | .ask question => ask question

variable {i : Imports}

section Run

variable {α β : Type} {x : InPlace α} {j : Imports}

theorem run_bind_of_ok {a : α} (done : x.run i = .ok a j) (next : α → InPlace β) :
    (x >>= next).run i = (next a).run j := by
  rw [EStateM.run_bind, done]

theorem run_bind_of_error {e : GenerationError} (failed : x.run i = .error e j)
    (next : α → InPlace β) : (x >>= next).run i = .error e j := by
  rw [EStateM.run_bind, failed]

end Run

theorem checkOpen_of_open (opened : i.settled = none) (operation : String) :
    (checkOpen operation).run i = .ok () i := by
  rw [checkOpen, EStateM.run_bind, EStateM.run_get]
  simp only [Imports.ensureOpen_of_open opened]
  rfl

theorem checkOpen_of_isSettled (settled : i.isSettled = true) (operation : String) :
    (checkOpen operation).run i = .error (.importMisuse (.settled operation)) i := by
  rw [checkOpen, EStateM.run_bind, EStateM.run_get]
  simp only [Imports.ensureOpen_of_isSettled settled]
  rfl

theorem registerNames_run (helpers : List String) (names : List ScopedName) (i : Imports) :
    (registerNames helpers names).run i =
      .ok () (i.record (names.flatMap (Wanted.declaration helpers))) := by
  rw [← Imports.register_foldl]
  induction names generalizing i with
  | nil => rfl
  | cons name rest ih => exact ih (i.register helpers name)

mutual

theorem registerType_of_open (helpers : List String) : ∀ (te : TypeExpr) {i : Imports},
    i.settled = none → (registerType helpers te).run i = .ok () (i.record (te.wanted helpers))
  | ⟨head, parameters⟩, i, opened => by
      let outer := head.reference?.toList.flatMap (Wanted.declaration helpers)
      have still : (i.record outer).settled = none := opened
      rw [registerType, run_bind_of_ok (checkOpen_of_open opened _),
        run_bind_of_ok (registerNames_run helpers _ i), registerTypes_of_open parameters still,
        Imports.record_append]
      rfl

theorem registerTypes_of_open : ∀ (tes : List TypeExpr) {i : Imports}, i.settled = none →
    (registerTypes tes).run i =
      .ok () (i.record ((TypeExpr.referencesAll tes).flatMap (Wanted.declaration [])))
  | [], _, _ => rfl
  | ⟨head, parameters⟩ :: rest, i, opened => by
      let te : TypeExpr := ⟨head, parameters⟩
      have still : (i.record (te.wanted [])).settled = none := opened
      have first : te.wanted [] = te.references.flatMap (Wanted.declaration []) :=
        List.flatMap_append.symm
      rw [registerTypes, run_bind_of_ok (registerType_of_open [] te opened),
        registerTypes_of_open rest still, Imports.record_append, first, ← List.flatMap_append]
      rfl

end

theorem register_of_open (opened : i.settled = none) (registration : Registration) :
    (register registration).run i = .ok () (i.record registration.wanted) := by
  cases registration with
  | type te => exact registerType_of_open [] te opened
  | typeWithHelpers te helpers => exact registerType_of_open helpers te opened
  | decoded d =>
      rw [register, run_bind_of_ok (checkOpen_of_open opened _)]
      exact registerNames_run [] _ i

theorem settle_of_open (opened : i.settled = none) :
    settle.run i = .ok () { i with settled := some i.names } := by
  rw [settle, run_bind_of_ok (checkOpen_of_open opened _)]
  rfl

theorem registerType_of_isSettled (settled : i.isSettled = true) (helpers : List String)
    (te : TypeExpr) :
    (registerType helpers te).run i = .error (.importMisuse (.settled "add_type")) i := by
  rcases te with ⟨head, parameters⟩
  rw [registerType, run_bind_of_error (checkOpen_of_isSettled settled _)]

end InPlace

def Registration.operation : Registration → String
  | type _ => "add_type"
  | typeWithHelpers _ _ => "add_type"
  | decoded _ => "add_decoded"

theorem Registration.apply_of_isSettled {i : Imports} (settled : i.isSettled = true)
    (registration : Registration) :
    registration.apply i = .error (.importMisuse (.settled registration.operation)) := by
  cases registration with
  | type te => exact Imports.addType_of_isSettled settled te
  | typeWithHelpers te helpers =>
      rw [apply, Imports.addTypeWithHelpers, Imports.ensureOpen_of_isSettled settled]
      rfl
  | decoded d =>
      rw [apply, Imports.addDecoded, Imports.ensureOpen_of_isSettled settled]
      rfl

namespace InPlace

variable {i : Imports}

theorem register_of_isSettled (settled : i.isSettled = true) (registration : Registration) :
    (register registration).run i =
      .error (.importMisuse (.settled registration.operation)) i := by
  cases registration with
  | type te => exact registerType_of_isSettled settled [] te
  | typeWithHelpers te helpers => exact registerType_of_isSettled settled helpers te
  | decoded d =>
      rw [register, run_bind_of_error (checkOpen_of_isSettled settled _)]
      rfl

theorem settle_of_isSettled (settled : i.isSettled = true) :
    settle.run i = .error (.importMisuse (.settled "resolve_imports")) i := by
  rw [settle, run_bind_of_error (checkOpen_of_isSettled settled _)]

def leaving (i : Imports) : Except GenerationError (Answer × Imports) →
    EStateM.Result GenerationError Imports Answer
  | .ok (answer, j) => .ok answer j
  | .error e => .error e i

theorem ask_run (question : Question) (i : Imports) :
    (ask question).run i = leaving i ((·, i) <$> question.answer i) := by
  rw [ask, EStateM.run_bind, EStateM.run_get]
  cases told : question.answer i with
  | ok answer =>
      simp only [told]
      rfl
  | error e =>
      simp only [told]
      rfl

theorem register_run (registration : Registration) (i : Imports) :
    (perform (.register registration)).run i =
      leaving i ((.done, ·) <$> registration.apply i) := by
  rcases i.open_or_isSettled with opened | settled
  · rw [perform, run_bind_of_ok (register_of_open opened registration),
      Registration.apply_eq opened]
    rfl
  · rw [perform, run_bind_of_error (register_of_isSettled settled registration),
      Registration.apply_of_isSettled settled]
    rfl

theorem settle_run (i : Imports) :
    (perform .settle).run i = leaving i ((.done, ·) <$> i.settle) := by
  rcases i.open_or_isSettled with opened | settled
  · rw [perform, run_bind_of_ok (settle_of_open opened), Imports.settle_eq opened]
    rfl
  · rw [perform, run_bind_of_error (settle_of_isSettled settled),
      Imports.settle_of_isSettled settled]
    rfl

/-- A call that fails in place fails before it changes anything. -/
theorem perform_run (call : Call) (i : Imports) :
    (perform call).run i = leaving i (call.apply i) := by
  cases call with
  | register registration => exact register_run registration i
  | settle => exact settle_run i
  | ask question => exact ask_run question i

end InPlace

namespace Call

def after (i : Imports) (call : Call) : Imports :=
  match (InPlace.perform call).run i with
  | .ok _ j => j
  | .error _ j => j

def settles (i : Imports) : Call → Bool
  | register _ => false
  | settle =>
    match InPlace.settle.run i with
    | .ok _ _ => true
    | .error _ _ => false
  | ask _ => false

theorem after_of_isSettled {i : Imports} (settled : i.isSettled = true) (call : Call) :
    call.after i = i := by
  rw [after, InPlace.perform_run]
  cases call with
  | register registration =>
      rw [apply, Registration.apply_of_isSettled settled]
      rfl
  | settle =>
      rw [apply, Imports.settle_of_isSettled settled]
      rfl
  | ask question =>
      rw [apply]
      cases question.answer i with
      | ok answer => rfl
      | error e => rfl

theorem settles_of_isSettled {i : Imports} (settled : i.isSettled = true) (call : Call) :
    call.settles i = false := by
  cases call with
  | register registration => rfl
  | settle => rw [settles, InPlace.settle_of_isSettled settled]
  | ask question => rfl

theorem isSettled_after_of_open {i : Imports} (opened : i.settled = none) (call : Call) :
    (call.after i).isSettled = call.settles i := by
  have before : i.isSettled = false := congrArg Option.isSome opened
  rw [after, InPlace.perform_run]
  cases call with
  | register registration =>
      rw [apply, Registration.apply_eq opened]
      exact before
  | settle =>
      rw [apply, Imports.settle_eq opened, settles, InPlace.settle_of_open opened]
      rfl
  | ask question =>
      rw [apply]
      cases question.answer i with
      | ok answer => exact before
      | error e => exact before

theorem isSettled_after (i : Imports) (call : Call) :
    (call.after i).isSettled.toNat = i.isSettled.toNat + (call.settles i).toNat := by
  rcases i.open_or_isSettled with opened | settled
  · have before : i.isSettled = false := congrArg Option.isSome opened
    rw [isSettled_after_of_open opened, before, Bool.toNat_false, Nat.zero_add]
  · rw [after_of_isSettled settled, settles_of_isSettled settled, Bool.toNat_false, Nat.add_zero]

end Call

namespace Imports

def afterAll (i : Imports) (calls : List Call) : Imports :=
  calls.foldl Call.after i

def settlings (i : Imports) : List Call → Nat
  | [] => 0
  | call :: rest => (call.settles i).toNat + (call.after i).settlings rest

theorem isSettled_afterAll (i : Imports) (calls : List Call) :
    (i.afterAll calls).isSettled.toNat = i.isSettled.toNat + i.settlings calls := by
  induction calls generalizing i with
  | nil => rfl
  | cons call rest ih =>
      calc ((call.after i).afterAll rest).isSettled.toNat
          = (call.after i).isSettled.toNat + (call.after i).settlings rest := ih _
        _ = i.isSettled.toNat + (call.settles i).toNat + (call.after i).settlings rest := by
            rw [Call.isSettled_after]
        _ = i.isSettled.toNat + i.settlings (call :: rest) := Nat.add_assoc _ _ _

theorem afterAll_of_isSettled {i : Imports} (settled : i.isSettled = true) (calls : List Call) :
    i.afterAll calls = i := by
  induction calls with
  | nil => rfl
  | cons call rest ih =>
      rw [afterAll, List.foldl_cons, Call.after_of_isSettled settled]
      exact ih

/-- Nothing is told because the names are not settled. -/
def Withheld {α : Type} (x : Except GenerationError α) : Prop :=
  ∃ operation, x = .error (.importMisuse (.unsettled operation))

theorem Withheld.bind {α β : Type} {x : Except GenerationError α} (withheld : Withheld x)
    (next : α → Except GenerationError β) : Withheld (x >>= next) := by
  obtain ⟨operation, rfl⟩ := withheld
  exact ⟨operation, rfl⟩

theorem Withheld.map {α β : Type} {x : Except GenerationError α} (withheld : Withheld x)
    (wrap : α → β) : Withheld (wrap <$> x) := by
  obtain ⟨operation, rfl⟩ := withheld
  exact ⟨operation, rfl⟩

section Open

variable {i : Imports} (opened : i.settled = none)
include opened

theorem assignment_of_open (operation : String) :
    i.assignment operation = .error (.importMisuse (.unsettled operation)) := by
  rw [assignment, opened]

theorem alias?_of_open (moduleName : String) : i.alias? moduleName = none := by
  rw [alias?, opened]
  rfl

theorem modules_of_open : i.modules = .error (.importMisuse (.unsettled "imports")) := by
  rw [modules, assignment_of_open opened]
  rfl

theorem qualifiedSymbol_of_open (moduleName symbol : String) :
    i.qualifiedSymbol moduleName symbol =
      .error (.importMisuse (.unsettled "qualified_symbol")) := by
  rw [qualifiedSymbol, assignment_of_open opened]
  rfl

theorem declarationName_of_open (name : ScopedName) : Withheld (i.declarationName name) := by
  rw [declarationName]
  cases i.mapper.native name with
  | none => exact ⟨_, qualifiedSymbol_of_open opened _ _⟩
  | some text => exact Withheld.bind ⟨_, assignment_of_open opened _⟩ _

end Open

theorem decodedName_nullable (i : Imports) (elem : Decoded) :
    ∃ wrap : String → String, i.decodedName (.nullable elem) = wrap <$> i.decodedName elem := by
  by_cases twice : ∃ inner, elem = .nullable inner
  · obtain ⟨inner, rfl⟩ := twice
    exact ⟨id, by rw [decodedName, id_map]⟩
  · exact ⟨i.mapper.nullable, by rw [decodedName]; exact fun inner same => twice ⟨inner, same⟩⟩

theorem decodedName_of_open {i : Imports} (opened : i.settled = none) :
    ∀ (d : Decoded), d.references ≠ [] → Withheld (i.decodedName d)
  | .primitive _, referring => absurd rfl referring
  | .vector elem, referring => by
      rw [decodedName]
      exact (decodedName_of_open opened elem referring).map _
  | .stringMap elem, referring => by
      rw [decodedName]
      exact (decodedName_of_open opened elem referring).map _
  | .nullable elem, referring => by
      obtain ⟨wrap, wrapped⟩ := decodedName_nullable i elem
      rw [wrapped]
      exact (decodedName_of_open opened elem referring).map wrap
  | .reference name kind parameters, _ => by
      rw [decodedName]
      exact (declarationName_of_open opened name).bind _

theorem referencedName_single (i : Imports) (name : String) (te : TypeExpr) :
    (∃ wrap : String → String, i.referencedName ⟨.primitive name, [te]⟩ =
      wrap <$> i.referencedName te) ∨
    ∃ cause, i.referencedName ⟨.primitive name, [te]⟩ = .error (.unsupported cause) := by
  rcases te with ⟨head, parameters⟩
  rw [referencedName]
  by_cases vector : name = "Vector"
  · exact .inl ⟨i.mapper.vector, if_pos vector⟩
  rw [if_neg vector]
  by_cases stringMap : name = "StringMap"
  · exact .inl ⟨i.mapper.stringMap, if_pos stringMap⟩
  rw [if_neg stringMap]
  by_cases nullable : name = "Nullable"
  · rw [if_pos nullable]
    cases head.isNullable with
    | true => exact .inl ⟨id, by rw [if_pos rfl, id_map]⟩
    | false => exact .inl ⟨i.mapper.nullable, if_neg Bool.false_ne_true⟩
  · exact .inr ⟨_, if_neg nullable⟩

theorem referencedName_of_open {i : Imports} (opened : i.settled = none) :
    ∀ (te : TypeExpr), te.references ≠ [] →
      Withheld (i.referencedName te) ∨ ∃ cause, i.referencedName te = .error (.unsupported cause)
  | ⟨.primitive name, []⟩, referring => absurd rfl referring
  | ⟨.primitive name, [te]⟩, referring => by
      rcases referencedName_single i name te with ⟨wrap, wrapped⟩ | unsupported
      · rw [wrapped]
        have inner : te.references ≠ [] := by
          simpa [TypeExpr.references, TypeExpr.referencesAll, TypeHead.reference?] using referring
        rcases referencedName_of_open opened te inner with withheld | ⟨cause, failed⟩
        · exact .inl (withheld.map wrap)
        · exact .inr ⟨cause, by rw [failed]; rfl⟩
      · exact .inr unsupported
  | ⟨.primitive name, first :: second :: rest⟩, _ => by
      right
      simp only [referencedName]
      split
      · exact ⟨_, rfl⟩
      · exact ⟨_, rfl⟩
  | ⟨.typeParam name, []⟩, referring => absurd rfl referring
  | ⟨.typeParam name, first :: rest⟩, _ => by
      rw [referencedName]
      exact .inr ⟨_, rfl⟩
  | ⟨.reference name, parameters⟩, _ => by
      rw [referencedName]
      exact .inl ((declarationName_of_open opened name).bind _)

/-- A helper in its first stage: it registers, can be settled, and names nothing. -/
structure Collecting (i : Imports) : Prop where
  registers : ∀ registration : Registration,
    registration.apply i = .ok (i.record registration.wanted)
  settles : i.settle = .ok { i with settled := some i.names }
  aliases : ∀ moduleName, i.alias? moduleName = none
  modules : i.modules = .error (.importMisuse (.unsettled "imports"))
  symbols : ∀ moduleName symbol, i.qualifiedSymbol moduleName symbol =
    .error (.importMisuse (.unsettled "qualified_symbol"))
  helpers : ∀ name before, i.helperName name before =
    .error (.importMisuse (.unsettled "qualified_symbol"))
  types : ∀ te : TypeExpr, te.references ≠ [] →
    Withheld (i.referencedName te) ∨ ∃ cause, i.referencedName te = .error (.unsupported cause)
  decoded : ∀ d : Decoded, d.references ≠ [] → Withheld (i.decodedName d)

theorem collecting_of_open {i : Imports} (opened : i.settled = none) : i.Collecting where
  registers := Registration.apply_eq opened
  settles := settle_eq opened
  aliases := alias?_of_open opened
  modules := modules_of_open opened
  symbols := qualifiedSymbol_of_open opened
  helpers _ _ := qualifiedSymbol_of_open opened _ _
  types := referencedName_of_open opened
  decoded := decodedName_of_open opened

/-- A helper in its second stage: it refuses what would change it, and answers alike ever after. -/
structure Closed (i : Imports) : Prop where
  registers : ∀ registration : Registration,
    registration.apply i = .error (.importMisuse (.settled registration.operation))
  settles : i.settle = .error (.importMisuse (.settled "resolve_imports"))
  answers : ∀ (between : List Call) (question : Question),
    question.answer (i.afterAll between) = question.answer i

theorem closed_of_isSettled {i : Imports} (settled : i.isSettled = true) : i.Closed where
  registers := Registration.apply_of_isSettled settled
  settles := settle_of_isSettled settled
  answers between question := by rw [afterAll_of_isSettled settled]

/-- Calls in any order settle a helper once at most. It is in its first stage as long as they have
not, and in its second from then on; and none that fails changes anything. -/
theorem calls_in_two_stages (i : Imports) (calls : List Call) :
    i.settlings calls ≤ 1 ∧
      ((i.afterAll calls).isSettled = true ↔ i.isSettled = true ∨ i.settlings calls = 1) ∧
      (if (i.afterAll calls).isSettled then (i.afterAll calls).Closed
        else (i.afterAll calls).Collecting) ∧
      ∀ call : Call, (InPlace.perform call).run (i.afterAll calls) =
        InPlace.leaving (i.afterAll calls) (call.apply (i.afterAll calls)) := by
  have counted := i.isSettled_afterAll calls
  have small := Bool.toNat_le (i.afterAll calls).isSettled
  refine ⟨by omega, ?_, ?_, fun call => InPlace.perform_run call _⟩
  · rw [← Bool.toNat_eq_one, ← Bool.toNat_eq_one]
    omega
  · rcases (i.afterAll calls).open_or_isSettled with opened | settled
    · have unsettled : (i.afterAll calls).isSettled = false := congrArg Option.isSome opened
      rw [unsettled]
      exact collecting_of_open opened
    · rw [settled]
      exact closed_of_isSettled settled

end Imports

end SchemaBindings
