import SchemaBindings.Proofs.Json.Yielding
import SchemaBindings.Proofs.Text.Order
import SchemaBindings.Schema.Document

/-!
Lookup in schemas whose names tell their modules apart, and whose keys tell the declarations of each
module apart. Modules that were read have such keys, whatever the text.
-/

namespace SchemaBindings

open Json (Yields)

def Module.DistinctKeys (m : Module) : Prop :=
  (m.decls.map (·.1)).Nodup

theorem Module.yields_distinctKeys : Yields Module.read Module.DistinctKeys := by
  have any {β : Type} (read : Json.Reading β) : Yields read fun _ => True :=
    fun _ _ _ _ => trivial
  refine Json.yields_record List.nodup_nil ?_
  intro slot member
  simp only [List.mem_cons, List.not_mem_nil, or_false] at member
  rcases member with rfl | rfl | rfl | rfl
  · exact Json.Slot.keeps_of "name" (any _) true fun _ _ _ kept => kept
  · exact Json.Slot.keeps_of "imports" (any _) false fun _ _ _ kept => kept
  · exact Json.Slot.keeps_of "decls" (Json.yields_keyed _) false fun _ distinct _ _ => distinct
  · exact Json.Slot.keeps_of "annotations" (any _) false fun _ _ _ kept => kept

theorem distinctKeys_of_readModules {text : List Char} {modules : List Module}
    (done : readModules text = .ok modules) : ∀ m ∈ modules, m.DistinctKeys := by
  unfold readModules at done
  split at done
  · exact Module.yields_distinctKeys.list.document done
  · obtain ⟨m, found, rfl⟩ := map_eq_ok_iff.mp done
    exact List.forall_mem_singleton.mpr (Module.yields_distinctKeys.document found)

namespace Schema

/-- Each declaration is told by the name of its module and its key there. -/
structure Indexed (s : Schema) : Prop where
  names : (s.modules.map (·.name)).Nodup
  keys : ∀ m ∈ s.modules, m.DistinctKeys

theorem Indexed.get?_eq_some_iff {s : Schema} (indexed : s.Indexed) {name : ScopedName}
    {decl : Decl} :
    s.get? name = some decl ↔
      ∃ m ∈ s.modules, m.name = name.moduleName ∧ (name.name, decl) ∈ m.decls := by
  constructor
  · exact get?_declared
  · rintro ⟨m, member, named, declared⟩
    have found : s.module? name.moduleName = some m :=
      (find?_eq_some_iff_of_distinct indexed.names).mpr ⟨member, named⟩
    rw [get?, found]
    exact lookup_of_mem (indexed.keys m member) declared

end Schema

end SchemaBindings
