import SchemaBindings.Schema.Decl

/-! Modules and the schema that holds them. -/

namespace SchemaBindings

/-- Declarations stand in declared order, each under its own key. -/
structure Module where
  name : String
  imports : List String
  decls : List (String × Decl)
  annotations : List Annotation
  deriving Repr

structure Schema where
  modules : List Module
  deriving Repr

def placeModule (m : Module) : List Module → List Module
  | [] => [m]
  | other :: rest => if other.name = m.name then m :: rest else other :: placeModule m rest

namespace Schema

def empty : Schema := ⟨[]⟩

/-- A module of the same name is replaced where it stands. -/
def insert (s : Schema) (m : Module) : Schema :=
  ⟨placeModule m s.modules⟩

def ofModules (modules : List Module) : Schema :=
  modules.foldl insert empty

def module? (s : Schema) (name : String) : Option Module :=
  s.modules.find? (·.name == name)

def get? (s : Schema) (name : ScopedName) : Option Decl :=
  (s.module? name.moduleName).bind (·.decls.lookup name.name)

theorem get?_declared {s : Schema} {name : ScopedName} {decl : Decl}
    (found : s.get? name = some decl) :
    ∃ m ∈ s.modules, m.name = name.moduleName ∧ (name.name, decl) ∈ m.decls := by
  rcases Option.bind_eq_some_iff.mp found with ⟨m, stored, declared⟩
  have named := List.find?_some stored
  rcases List.lookup_eq_some_iff.mp declared with ⟨before, after, split, _⟩
  refine ⟨m, List.mem_of_find?_eq_some stored, eq_of_beq named, ?_⟩
  rw [split]
  exact List.mem_append_right before List.mem_cons_self

def sortedModules (s : Schema) : List Module :=
  sortBy (fun a b => nameLe a.name b.name) s.modules

/-- Every declaration under the name it carries: modules by name, then declared order. -/
def decls (s : Schema) : List (ScopedName × Decl) :=
  s.sortedModules.flatMap fun m => m.decls.map fun (_, d) => (⟨m.name, d.name⟩, d)

end Schema

end SchemaBindings
