import SchemaBindings.Proofs.Text.Order
import SchemaBindings.Schema.Basic

/-! Modules of distinct names: what is inserted stays, and the order does not matter. -/

namespace SchemaBindings

theorem name_not_mem_of_distinct {before : List Module} {m : Module} {rest : List Module}
    (distinct : ((before ++ m :: rest).map (·.name)).Nodup) : m.name ∉ before.map (·.name) := by
  rw [List.map_append, List.map_cons] at distinct
  intro member
  exact (List.nodup_append.mp distinct).2.2 _ member _ List.mem_cons_self rfl

theorem placeModule_of_absent {m : Module} {modules : List Module}
    (absent : m.name ∉ modules.map (·.name)) : placeModule m modules = modules ++ [m] := by
  induction modules with
  | nil => rfl
  | cons other rest ih =>
      rw [List.map_cons, List.mem_cons, not_or] at absent
      rw [placeModule, if_neg (Ne.symm absent.1), ih absent.2, List.cons_append]

namespace Schema

theorem foldl_insert_of_distinct {s : Schema} {modules : List Module}
    (distinct : ((s.modules ++ modules).map (·.name)).Nodup) :
    modules.foldl insert s = ⟨s.modules ++ modules⟩ := by
  induction modules generalizing s with
  | nil => rw [List.foldl_nil, List.append_nil]
  | cons m rest ih =>
      have inserted : (s.insert m).modules = s.modules ++ [m] :=
        placeModule_of_absent (name_not_mem_of_distinct distinct)
      rw [List.append_cons, ← inserted] at distinct
      rw [List.foldl_cons, ih distinct, inserted, ← List.append_cons]

theorem ofModules_of_distinct {modules : List Module} (distinct : (modules.map (·.name)).Nodup) :
    ofModules modules = ⟨modules⟩ :=
  foldl_insert_of_distinct (s := empty) distinct

/-- Schemas in which every name stands for the same and the same is declared, in one order. -/
structure Alike (first second : Schema) : Prop where
  get? : first.get? = second.get?
  decls : first.decls = second.decls

theorem Alike.of_perm {first second : Schema} (perm : first.modules.Perm second.modules)
    (distinct : (first.modules.map (·.name)).Nodup) : first.Alike second where
  get? := by
    funext name
    rw [Schema.get?, Schema.get?, module?, module?, find?_eq_of_perm distinct perm]
  decls := by
    rw [Schema.decls, Schema.decls, sortedModules, sortedModules, sortBy_eq_of_perm distinct perm]

end Schema

end SchemaBindings
