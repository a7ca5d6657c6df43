import SchemaBindings.Imports.Basic
import SchemaBindings.Proofs.Failure

/-!
Rendering follows the type: wherever each declaration in it has a name, a canonical type has a
text made of these names, and a type expression has one or has no meaning in the target language.
-/

namespace SchemaBindings

section Written

variable (m : Mapper) (named : ScopedName → String → Prop)

mutual

/-- A text of a canonical type in which each declaration stands under a name that `named` allows. -/
inductive Decoded.WrittenAs : Decoded → String → Prop where
  | primitive (p : Primitive) : WrittenAs (.primitive p) (m.primitive p)
  | vector {elem : Decoded} {text : String} :
      WrittenAs elem text → WrittenAs (.vector elem) (m.vector text)
  | stringMap {elem : Decoded} {text : String} :
      WrittenAs elem text → WrittenAs (.stringMap elem) (m.stringMap text)
  | collapsed {elem : Decoded} {text : String} :
      WrittenAs (.nullable elem) text → WrittenAs (.nullable (.nullable elem)) text
  | nullable {elem : Decoded} {text : String} : (∀ inner, elem ≠ .nullable inner) →
      WrittenAs elem text → WrittenAs (.nullable elem) (m.nullable text)
  | reference {name : ScopedName} {kind : DeclKind} {parameters : List Decoded} {base : String}
      {texts : List String} : named name base → Decoded.AllWrittenAs parameters texts →
      WrittenAs (.reference name kind parameters) (m.applyParams base texts)

inductive Decoded.AllWrittenAs : List Decoded → List String → Prop where
  | nil : AllWrittenAs [] []
  | cons {d : Decoded} {rest : List Decoded} {text : String} {texts : List String} :
      Decoded.WrittenAs d text → AllWrittenAs rest texts → AllWrittenAs (d :: rest) (text :: texts)

end

mutual

inductive TypeExpr.WrittenAs : TypeExpr → String → Prop where
  | scalar {name : String} {p : Primitive} : Primitive.ofName? name = some p →
      WrittenAs ⟨.primitive name, []⟩ (m.primitive p)
  | vector {elem : TypeExpr} {text : String} :
      WrittenAs elem text → WrittenAs ⟨.primitive "Vector", [elem]⟩ (m.vector text)
  | stringMap {elem : TypeExpr} {text : String} :
      WrittenAs elem text → WrittenAs ⟨.primitive "StringMap", [elem]⟩ (m.stringMap text)
  | collapsed {elem : TypeExpr} {text : String} : elem.head.isNullable = true →
      WrittenAs elem text → WrittenAs ⟨.primitive "Nullable", [elem]⟩ text
  | nullable {elem : TypeExpr} {text : String} : elem.head.isNullable = false →
      WrittenAs elem text → WrittenAs ⟨.primitive "Nullable", [elem]⟩ (m.nullable text)
  | typeParam (name : String) : WrittenAs ⟨.typeParam name, []⟩ name
  | reference {name : ScopedName} {parameters : List TypeExpr} {base : String}
      {texts : List String} : named name base → TypeExpr.AllWrittenAs parameters texts →
      WrittenAs ⟨.reference name, parameters⟩ (m.applyParams base texts)

inductive TypeExpr.AllWrittenAs : List TypeExpr → List String → Prop where
  | nil : AllWrittenAs [] []
  | cons {te : TypeExpr} {rest : List TypeExpr} {text : String} {texts : List String} :
      TypeExpr.WrittenAs te text → AllWrittenAs rest texts →
      AllWrittenAs (te :: rest) (text :: texts)

end

end Written

namespace Imports

/-- Each of the names given has a name in the file, one that `named` allows. -/
def Nameable (i : Imports) (named : ScopedName → String → Prop) (names : List ScopedName) : Prop :=
  ∀ name ∈ names, ∃ text, i.declarationName name = .ok text ∧ named name text

variable {i : Imports} {named : ScopedName → String → Prop}

theorem Nameable.left {first second : List ScopedName}
    (nameable : i.Nameable named (first ++ second)) : i.Nameable named first :=
  fun name member => nameable name (List.mem_append_left second member)

theorem Nameable.right {first second : List ScopedName}
    (nameable : i.Nameable named (first ++ second)) : i.Nameable named second :=
  fun name member => nameable name (List.mem_append_right first member)

mutual

theorem decodedName_written : ∀ (d : Decoded), i.Nameable named (d.references.map (·.1)) →
    ∃ text, i.decodedName d = .ok text ∧ d.WrittenAs i.mapper named text
  | .primitive p, _ => ⟨i.mapper.primitive p, rfl, .primitive p⟩
  | .vector elem, nameable => by
      obtain ⟨text, done, written⟩ := decodedName_written elem nameable
      exact ⟨_, by rw [decodedName, done]; rfl, .vector written⟩
  | .stringMap elem, nameable => by
      obtain ⟨text, done, written⟩ := decodedName_written elem nameable
      exact ⟨_, by rw [decodedName, done]; rfl, .stringMap written⟩
  | .nullable elem, nameable => by
      obtain ⟨text, done, written⟩ := decodedName_written elem nameable
      by_cases twice : ∃ inner, elem = .nullable inner
      · obtain ⟨inner, rfl⟩ := twice
        exact ⟨text, by rw [decodedName, done], .collapsed written⟩
      · have once : ∀ inner, elem ≠ .nullable inner := fun inner same => twice ⟨inner, same⟩
        exact ⟨_, by rw [decodedName, done]; rfl; exact once, .nullable once written⟩
  | .reference name kind parameters, nameable => by
      obtain ⟨base, found, allowed⟩ := nameable name List.mem_cons_self
      obtain ⟨texts, done, written⟩ := decodedNames_written parameters
        (fun other member => nameable other (List.mem_cons_of_mem name member))
      exact ⟨_, by rw [decodedName, found, done]; rfl, .reference allowed written⟩

theorem decodedNames_written : ∀ (ds : List Decoded),
    i.Nameable named ((Decoded.referencesAll ds).map (·.1)) →
    ∃ texts, i.decodedNames ds = .ok texts ∧ Decoded.AllWrittenAs i.mapper named ds texts
  | [], _ => ⟨[], rfl, .nil⟩
  | d :: rest, nameable => by
      rw [Decoded.referencesAll, List.map_append] at nameable
      obtain ⟨text, first, written⟩ := decodedName_written d nameable.left
      obtain ⟨texts, others, allWritten⟩ := decodedNames_written rest nameable.right
      exact ⟨text :: texts, by rw [decodedNames, first, others]; rfl, .cons written allWritten⟩

end

theorem map_written {x : Except GenerationError String} {good better : String → Prop}
    (wrap : String → String)
    (part : (∃ text, x = .ok text ∧ good text) ∨ ∃ cause, x = .error (.unsupported cause))
    (lift : ∀ text, good text → better (wrap text)) :
    (∃ text, wrap <$> x = .ok text ∧ better text) ∨
      ∃ cause, wrap <$> x = .error (.unsupported cause) := by
  rcases part with ⟨text, rfl, written⟩ | ⟨cause, rfl⟩
  · exact .inl ⟨wrap text, rfl, lift text written⟩
  · exact .inr ⟨cause, rfl⟩

mutual

theorem referencedName_written : ∀ (te : TypeExpr), i.Nameable named te.references →
    (∃ text, i.referencedName te = .ok text ∧ te.WrittenAs i.mapper named text) ∨
      ∃ cause, i.referencedName te = .error (.unsupported cause)
  | ⟨.primitive name, [⟨head, parameters⟩]⟩, nameable => by
      have part := referencedName_written ⟨head, parameters⟩ (by
        intro other member
        refine nameable other ?_
        simpa [TypeExpr.references, TypeExpr.referencesAll, TypeHead.reference?] using member)
      rw [referencedName]
      by_cases vector : name = "Vector"
      · subst vector
        rw [if_pos rfl]
        exact map_written i.mapper.vector part fun _ written => .vector written
      rw [if_neg vector]
      by_cases stringMap : name = "StringMap"
      · subst stringMap
        rw [if_pos rfl]
        exact map_written i.mapper.stringMap part fun _ written => .stringMap written
      rw [if_neg stringMap]
      by_cases nullable : name = "Nullable"
      · subst nullable
        rw [if_pos rfl]
        cases twice : head.isNullable with
        | true =>
            rw [if_pos rfl]
            rcases part with ⟨text, done, written⟩ | ⟨cause, failed⟩
            · exact .inl ⟨text, done, .collapsed twice written⟩
            · exact .inr ⟨cause, failed⟩
        | false =>
            rw [if_neg Bool.false_ne_true]
            exact map_written i.mapper.nullable part fun _ written => .nullable twice written
      · rw [if_neg nullable]
        exact .inr ⟨_, rfl⟩
  | ⟨.primitive name, []⟩, _ => by
      by_cases container : ["Vector", "StringMap", "Nullable"].contains name = true
      · refine .inr ⟨.singleArgument name 0, ?_⟩
        simp only [referencedName]
        exact if_pos container
      · cases found : Primitive.ofName? name with
        | none =>
            refine .inr ⟨.primitive (TypeExpr.text ⟨.primitive name, []⟩), ?_⟩
            simp only [referencedName, found]
            exact if_neg container
        | some p =>
            refine .inl ⟨i.mapper.primitive p, ?_, .scalar found⟩
            simp only [referencedName, found]
            exact if_neg container
  | ⟨.primitive name, first :: second :: rest⟩, _ => by
      by_cases container : ["Vector", "StringMap", "Nullable"].contains name = true
      · refine .inr ⟨.singleArgument name (first :: second :: rest).length, ?_⟩
        simp only [referencedName]
        exact if_pos container
      · refine .inr ⟨.primitive (TypeExpr.text ⟨.primitive name, first :: second :: rest⟩), ?_⟩
        simp only [referencedName]
        exact if_neg container
  | ⟨.typeParam name, []⟩, _ => .inl ⟨name, by rw [referencedName]; rfl, .typeParam name⟩
  | ⟨.typeParam name, first :: rest⟩, _ => .inr ⟨_, by rw [referencedName]; rfl⟩
  | ⟨.reference name, parameters⟩, nameable => by
      obtain ⟨base, found, allowed⟩ := nameable name (by
        simp [TypeExpr.references, TypeHead.reference?])
      rw [referencedName, found]
      rcases referencedNames_written parameters (fun other member => nameable other
        (List.mem_append_right _ member)) with ⟨texts, done, written⟩ | ⟨cause, failed⟩
      · exact .inl ⟨_, by rw [done]; rfl, .reference allowed written⟩
      · exact .inr ⟨cause, by rw [failed]; rfl⟩

theorem referencedNames_written : ∀ (tes : List TypeExpr),
    i.Nameable named (TypeExpr.referencesAll tes) →
    (∃ texts, i.referencedNames tes = .ok texts ∧
      TypeExpr.AllWrittenAs i.mapper named tes texts) ∨
      ∃ cause, i.referencedNames tes = .error (.unsupported cause)
  | [], _ => .inl ⟨[], rfl, .nil⟩
  | te :: rest, nameable => by
      rw [TypeExpr.referencesAll] at nameable
      rw [referencedNames]
      rcases referencedName_written te nameable.left with ⟨text, first, written⟩ | ⟨cause, failed⟩
      · rcases referencedNames_written rest nameable.right with ⟨texts, others, allWritten⟩ |
          ⟨cause, failed⟩
        · exact .inl ⟨text :: texts, by rw [first, others]; rfl, .cons written allWritten⟩
        · exact .inr ⟨cause, by rw [first, failed]; rfl⟩
      · exact .inr ⟨cause, by rw [failed]; rfl⟩

end

section Alike

variable {j : Imports} {allowed : ScopedName → String → Prop}

mutual

theorem error?_referencedName : ∀ (te : TypeExpr), i.Nameable named te.references →
    j.Nameable allowed te.references →
    error? (i.referencedName te) = error? (j.referencedName te)
  | ⟨.primitive name, [⟨head, parameters⟩]⟩, nameable, others => by
      have same : TypeExpr.references ⟨.primitive name, [⟨head, parameters⟩]⟩ =
          TypeExpr.references ⟨head, parameters⟩ := by
        simp [TypeExpr.references, TypeExpr.referencesAll, TypeHead.reference?]
      rw [same] at nameable others
      have part := error?_referencedName ⟨head, parameters⟩ nameable others
      simp only [referencedName, apply_ite error?, error?_map, part]
  | ⟨.primitive name, []⟩, _, _ => by
      cases found : Primitive.ofName? name with
      | none => simp only [referencedName, found]
      | some p =>
          simp only [referencedName, found, apply_ite error?]
          rfl
  | ⟨.primitive name, first :: second :: rest⟩, _, _ => by
      simp only [referencedName]
  | ⟨.typeParam name, parameters⟩, _, _ => by
      simp only [referencedName]
  | ⟨.reference name, parameters⟩, nameable, others => by
      have member : name ∈ TypeExpr.references ⟨.reference name, parameters⟩ := by
        simp [TypeExpr.references, TypeHead.reference?]
      obtain ⟨base, found, _⟩ := nameable name member
      obtain ⟨other, otherFound, _⟩ := others name member
      have part := error?_referencedNames parameters
        (fun name inner => nameable name (List.mem_append_right _ inner))
        (fun name inner => others name (List.mem_append_right _ inner))
      rw [referencedName, referencedName, found, otherFound]
      calc error? (i.mapper.applyParams base <$> i.referencedNames parameters)
          = error? (i.referencedNames parameters) := error?_map _ _
        _ = error? (j.referencedNames parameters) := part
        _ = error? (j.mapper.applyParams other <$> j.referencedNames parameters) :=
          (error?_map _ _).symm

theorem error?_referencedNames : ∀ (tes : List TypeExpr),
    i.Nameable named (TypeExpr.referencesAll tes) →
    j.Nameable allowed (TypeExpr.referencesAll tes) →
    error? (i.referencedNames tes) = error? (j.referencedNames tes)
  | [], _, _ => rfl
  | te :: rest, nameable, others => by
      rw [TypeExpr.referencesAll] at nameable others
      have first := error?_referencedName te nameable.left others.left
      have later := error?_referencedNames rest nameable.right others.right
      rw [referencedNames, referencedNames]
      exact error?_bind_congr first fun _ _ => error?_bind_congr later fun _ _ => rfl

end

end Alike

end Imports

end SchemaBindings
