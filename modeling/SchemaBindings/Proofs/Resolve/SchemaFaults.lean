import SchemaBindings.Proofs.Decoding.HeadStep
import SchemaBindings.Resolve.Table
import SchemaBindings.Target.Mapper

/-!
Resolving a schema fails on the schema alone: annotations, expansion, decoding and the tables never
tell of imports that were used wrongly.
-/

namespace SchemaBindings

open GenerationError (IsSchemaFault)

theorem checkArity_schemaFault (name : ScopedName) (expected supplied : Nat) :
    FailsOnly IsSchemaFault (checkArity name expected supplied) := by
  unfold checkArity
  split
  · exact .error nofun
  · split
    · exact .error nofun
    · exact .ok ()

section Substitution

variable (owner : ScopedName) (params : List String) (args : List TypeExpr)

mutual

theorem substitute_schemaFault : ∀ (te : TypeExpr),
    FailsOnly IsSchemaFault (substitute owner params args te)
  | ⟨.typeParam param, parameters⟩ => by
      rw [substitute]
      cases argumentFor? params args param with
      | none => exact .map _ (substituteAll_schemaFault parameters)
      | some argument =>
          simp only
          split
          · exact .error nofun
          · cases argument with
            | none => exact .error nofun
            | some te => exact .ok te
  | ⟨.primitive name, parameters⟩ => by
      rw [substitute]
      exact .map _ (substituteAll_schemaFault parameters)
  | ⟨.reference name, parameters⟩ => by
      rw [substitute]
      exact .map _ (substituteAll_schemaFault parameters)

theorem substituteAll_schemaFault : ∀ (tes : List TypeExpr),
    FailsOnly IsSchemaFault (substituteAll owner params args tes)
  | [] => .ok []
  | te :: rest => by
      rw [substituteAll]
      apply FailsOnly.bind (substitute_schemaFault te)
      intro first _
      apply FailsOnly.bind (substituteAll_schemaFault rest)
      intro others _
      exact .ok _

end

end Substitution

namespace Expander

theorem step_schemaFault (e : Expander) (te : TypeExpr) : FailsOnly IsSchemaFault (e.step te) := by
  unfold step
  cases te.head with
  | reference name =>
      cases resolved : e.resolver name with
      | none =>
          simp only [resolved]
          exact .error nofun
      | some decl =>
          cases definition : e.definition? decl with
          | none =>
              simp only [resolved, definition]
              exact .ok none
          | some definition =>
              simp only [resolved, definition]
              apply FailsOnly.bind (checkArity_schemaFault _ _ _)
              intro _ _
              apply FailsOnly.bind (substitute_schemaFault _ _ _ _)
              intro expanded _
              exact .ok _
  | primitive name => exact .ok none
  | typeParam name => exact .ok none

theorem expandWithin_schemaFault (e : Expander) (origin : TypeExpr) (steps : Nat) (te : TypeExpr) :
    FailsOnly IsSchemaFault (e.expandWithin origin steps te) := by
  induction steps generalizing te with
  | zero =>
      apply FailsOnly.bind (e.step_schemaFault te)
      intro expanded _
      cases expanded with
      | none => exact .ok te
      | some next => exact .error nofun
  | succ steps ih =>
      apply FailsOnly.bind (e.step_schemaFault te)
      intro expanded _
      cases expanded with
      | none => exact .ok te
      | some next => exact ih next

end Expander

namespace Decoder

theorem headStep_schemaFault (d : Decoder) (te : TypeExpr) :
    FailsOnly IsSchemaFault (d.headStep te) := by
  unfold headStep
  cases te.head with
  | reference name =>
      cases resolved : d.resolver name with
      | none =>
          simp only [resolved]
          exact .error nofun
      | some decl =>
          simp only [resolved]
          split
          · exact .ok none
          · exact d.expander.step_schemaFault te
  | primitive name => exact .ok none
  | typeParam name => exact .ok none

theorem single_schemaFault (name : String) (parameters : List TypeExpr) :
    FailsOnly IsSchemaFault (single name parameters) := by
  unfold single
  split
  · exact .ok _
  · exact .error nofun

theorem scalar_schemaFault (name : String) (parameters : List TypeExpr) :
    FailsOnly IsSchemaFault (scalar name parameters) := by
  unfold scalar
  split
  · exact .error nofun
  · split
    · exact .ok _
    · exact .error nofun

theorem decodeParts_schemaFault (d : Decoder)
    {decodePart : TypeExpr → Except GenerationError Decoded}
    (each : ∀ part, FailsOnly IsSchemaFault (decodePart part)) (te : TypeExpr) :
    FailsOnly IsSchemaFault (d.decodeParts decodePart te) := by
  unfold decodeParts
  cases te.head with
  | primitive name =>
      cases wrapper : wrapper? name with
      | none =>
          simp only [wrapper]
          exact scalar_schemaFault name te.parameters
      | some wrap =>
          simp only [wrapper]
          apply FailsOnly.bind (single_schemaFault name te.parameters)
          intro part _
          apply FailsOnly.bind (each part)
          intro decoded _
          exact .ok _
  | typeParam name => exact .error nofun
  | reference name =>
      cases resolved : d.resolver name with
      | none =>
          simp only [resolved]
          exact .error nofun
      | some decl =>
          simp only [resolved]
          apply FailsOnly.bind (checkArity_schemaFault _ _ _)
          intro _ _
          refine .bind (.mapM fun part _ => each part) ?_
          intro decoded _
          exact .ok _

theorem decodeWithin_schemaFault (d : Decoder) (levels : Nat) (te : TypeExpr) :
    FailsOnly IsSchemaFault (d.decodeWithin levels te) := by
  induction levels generalizing te with
  | zero => exact .error nofun
  | succ levels ih =>
      rw [decodeWithin_succ]
      apply FailsOnly.bind (d.headStep_schemaFault te)
      intro expanded _
      cases expanded with
      | some next => exact ih next
      | none => exact d.decodeParts_schemaFault ih te

end Decoder

namespace Mark

theorem get?_schemaFault (m : Mark α) (annotations : List Annotation) (target : String) :
    FailsOnly IsSchemaFault (m.get? annotations target) := by
  unfold get?
  split
  · exact .ok none
  · split
    · exact .ok _
    · exact .error nofun

theorem require_schemaFault (m : Mark α) (annotations : List Annotation) (target : String) :
    FailsOnly IsSchemaFault (m.require annotations target) := by
  apply FailsOnly.bind (m.get?_schemaFault annotations target)
  intro found _
  cases found with
  | none => exact .error nofun
  | some x => exact .ok x

end Mark

theorem docComment?_schemaFault (annotations : List Annotation) (target : String) :
    FailsOnly IsSchemaFault (docComment? annotations target) := by
  apply FailsOnly.bind (docMark.get?_schemaFault annotations target)
  intro found _
  cases found with
  | none => exact .ok none
  | some doc => exact .ok _

theorem resolveField_schemaFault (d : Decoder) (owner : ScopedName) (field : Field) :
    FailsOnly IsSchemaFault (resolveField d owner field) := by
  apply FailsOnly.bind (d.decodeWithin_schemaFault _ field.typeExpr)
  intro decoded _
  apply FailsOnly.bind (columnNameMark.get?_schemaFault _ _)
  intro column _
  apply FailsOnly.bind (primaryKeyMark.get?_schemaFault _ _)
  intro primaryKey _
  apply FailsOnly.bind (docComment?_schemaFault _ _)
  intro doc _
  exact .ok _

theorem Table.ofDecl_schemaFault (name : ScopedName) (decl : Decl) :
    FailsOnly IsSchemaFault (Table.ofDecl name decl) := by
  apply FailsOnly.bind (tableMark.require_schemaFault _ _)
  intro settings _
  split
  · exact .ok _
  · exact .error nofun

theorem Schema.tables_schemaFault (s : Schema) : FailsOnly IsSchemaFault s.tables :=
  .mapM fun entry _ => Table.ofDecl_schemaFault entry.1 entry.2

theorem Schema.customTypes_schemaFault (s : Schema) (runtimeAlias : String) :
    FailsOnly IsSchemaFault (s.customTypes runtimeAlias) := by
  refine .bind (.mapM ?_) ?_
  · intro entry _
    apply FailsOnly.bind (customTypeMark.get?_schemaFault _ _)
    intro custom _
    exact .ok _
  · intro found _
    exact .ok _

end SchemaBindings
