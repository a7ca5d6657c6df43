import SchemaBindings.Proofs.Json.Spelling
import SchemaBindings.Sample.Protoapp
import SchemaBindings.Schema.Document
import SchemaBindings.Schema.Writer

/-!
A module that is written is read as that module. Each part is read from what is written for it, and
a record from the members written for its fields.
-/

namespace SchemaBindings

open Json

/-! ### Embedded values -/

def DeclBody.fields : DeclBody → List Field
  | .struct _ fields => fields
  | .union _ fields => fields
  | _ => []

def DeclBody.defaults : DeclBody → List Value
  | .newtype _ _ default => default.toList
  | body => body.fields.flatMap (·.default.toList)

def Decl.annotationValues (d : Decl) : List Value :=
  (d.annotations ++ d.body.fields.flatMap (·.annotations)).map (·.value)

namespace Module

def defaults (m : Module) : List Value :=
  m.decls.flatMap (·.2.body.defaults)

def annotationValues (m : Module) : List Value :=
  m.annotations.map (·.value) ++ m.decls.flatMap (·.2.annotationValues)

/-- The maps of a module are maps: keys of declarations differ, and an embedded value has its
members in the order of their names. -/
structure WellFormed (m : Module) : Prop where
  keys : (m.decls.map (·.1)).Nodup
  sorted : ∀ v ∈ m.annotationValues ++ m.defaults, v.sorted = true

end Module

/-! ### Parts of a module -/

theorem Json.Fills.of {α β : Type} {name : String} {required : Bool} {read : Reading β}
    {set : β → α → α} {slots : List (Slot α)} {v : Value} {members : List (String × Value)} {b : β}
    {x y : α} (reads : Reads read v b) (rest : Fills slots members (set b x) y) :
    Fills (.of name read set required :: slots) ((name, v) :: members) x y :=
  .cons (reads.map set) rest

theorem reads_texts (items : List String) : Reads (list Json.text) (textValues items) items :=
  reads_list fun s _ => reads_text s

theorem reads_optionalText (written : Option String) :
    Reads (optional Json.text) (orNull (written.map .string)) written := by
  cases written with
  | none => exact reads_none _
  | some s => exact reads_some (reads_text s) nofun

/-- A default that is there is not null, or it would be read as none. -/
theorem reads_default {default : Option Value} (present : Value.null ∉ default.toList)
    (sorted : ∀ v ∈ default.toList, v.sorted = true) :
    Reads (optional any) (orNull default) default := by
  cases default with
  | none => exact reads_none _
  | some v =>
      refine reads_some (reads_any (sorted v List.mem_cons_self)) ?_
      rintro rfl
      exact present List.mem_cons_self

theorem ScopedName.reads (name : ScopedName) : Reads ScopedName.read name.write name :=
  reads_record (by simp [Slot.of]) (.of (reads_text _) (.of (reads_text _) (.nil _)))

theorem TypeHead.reads (head : TypeHead) : Reads TypeHead.read head.write head := by
  cases head with
  | primitive name =>
      exact reads_tagged ⟨"primitive", fun depth o => (Json.text depth o).map .primitive⟩
        rfl ((reads_text name).map _)
  | typeParam name =>
      exact reads_tagged ⟨"typeParam", fun depth o => (Json.text depth o).map .typeParam⟩
        rfl ((reads_text name).map _)
  | reference name =>
      exact reads_tagged
        ⟨"reference", fun depth o => (ScopedName.read depth o).map .reference⟩
        rfl (name.reads.map _)

namespace TypeExpr

theorem writeTypeExprs_eq (tes : List TypeExpr) : writeTypeExprs tes = tes.map write := by
  induction tes with
  | nil => rfl
  | cons te rest ih => rw [writeTypeExprs, ih, List.map_cons]

theorem reads_within {levels : Nat} {te : TypeExpr} (fewer : te.write.nesting < levels) :
    Reads (readWithin levels) te.write te := by
  induction levels generalizing te with
  | zero => exact absurd fewer (Nat.not_lt_zero _)
  | succ levels ih =>
      rcases te with ⟨head, parameters⟩
      rw [write, writeTypeExprs_eq] at fewer ⊢
      -- The arguments lie below the brackets of the expression and of their list.
      have inner : itemsNesting (parameters.map write) < levels := by
        simp only [Value.nesting, membersNesting] at fewer
        omega
      have arguments : ∀ te ∈ parameters, Reads (readWithin levels) te.write te := by
        intro te member
        refine ih (Nat.lt_of_le_of_lt ?_ inner)
        exact itemsNesting_le.mp (Nat.le_refl _) _ (List.mem_map_of_mem member)
      exact reads_record (by simp [Slot.of]) (.of head.reads (.of (reads_list arguments) (.nil _)))

theorem reads (te : TypeExpr) : Reads TypeExpr.read te.write te := by
  intro depth outline shallow holds
  exact reads_within (Nat.lt_succ_of_le shallow) depth outline shallow holds

end TypeExpr

theorem Annotation.reads {a : Annotation} (sorted : a.value.sorted = true) :
    Reads Annotation.read a.write a :=
  reads_record (by simp [Slot.of]) (.of a.key.reads (.of (reads_any sorted) (.nil _)))

theorem reads_annotations {annotations : List Annotation}
    (sorted : ∀ v ∈ annotations.map (·.value), v.sorted = true) :
    Reads (list Annotation.read) (writeAnnotations annotations) annotations :=
  reads_list fun _ member => Annotation.reads (sorted _ (List.mem_map_of_mem member))

theorem Field.reads {f : Field} (sorted : ∀ v ∈ f.annotations.map (·.value), v.sorted = true)
    (present : Value.null ∉ f.default.toList)
    (sortedDefault : ∀ v ∈ f.default.toList, v.sorted = true) : Reads Field.read f.write f :=
  reads_record (by simp [Slot.of])
    (.of (reads_text _) (.of (reads_optionalText _) (.of f.typeExpr.reads
      (.of (reads_default present sortedDefault) (.of (reads_annotations sorted) (.nil _))))))

theorem reads_fields {fields : List Field}
    (sorted : ∀ v ∈ (fields.flatMap (·.annotations)).map (·.value), v.sorted = true)
    (present : Value.null ∉ fields.flatMap (·.default.toList))
    (sortedDefaults : ∀ v ∈ fields.flatMap (·.default.toList), v.sorted = true) :
    Reads (list Field.read) (writeFields fields) fields := by
  refine reads_list fun f member => Field.reads ?_ ?_ ?_
  · intro v among
    obtain ⟨a, own, rfl⟩ := List.mem_map.mp among
    exact sorted _ (List.mem_map_of_mem (List.mem_flatMap.mpr ⟨f, member, own⟩))
  · exact fun among => present (List.mem_flatMap.mpr ⟨f, member, among⟩)
  · exact fun v among => sortedDefaults v (List.mem_flatMap.mpr ⟨f, member, among⟩)

theorem DeclBody.reads {body : DeclBody}
    (sorted : ∀ v ∈ (body.fields.flatMap (·.annotations)).map (·.value), v.sorted = true)
    (present : Value.null ∉ body.defaults)
    (sortedDefaults : ∀ v ∈ body.defaults, v.sorted = true) :
    Reads DeclBody.read body.write body := by
  cases body with
  | struct params fields =>
      exact reads_tagged ⟨"struct_", _⟩ rfl (reads_record (by decide)
        (.of (reads_texts params) (.of (reads_fields sorted present sortedDefaults) (.nil _))))
  | union params fields =>
      exact reads_tagged ⟨"union_", _⟩ rfl (reads_record (by decide)
        (.of (reads_texts params) (.of (reads_fields sorted present sortedDefaults) (.nil _))))
  | typeAlias params te =>
      exact reads_tagged ⟨"type_", _⟩ rfl (reads_record (by decide)
        (.of (reads_texts params) (.of te.reads (.nil _))))
  | newtype params te default =>
      exact reads_tagged ⟨"newtype_", _⟩ rfl (reads_record (by decide)
        (.of (reads_texts params) (.of te.reads
          (.of (reads_default present sortedDefaults) (.nil _)))))

theorem Decl.reads {d : Decl} (sorted : ∀ v ∈ d.annotationValues, v.sorted = true)
    (present : Value.null ∉ d.body.defaults)
    (sortedDefaults : ∀ v ∈ d.body.defaults, v.sorted = true) :
    Reads Decl.read d.write d := by
  simp only [annotationValues, List.map_append, List.mem_append, or_imp, forall_and] at sorted
  have body := DeclBody.reads sorted.2 present sortedDefaults
  exact reads_record (by simp [Slot.of])
    (.of (reads_text _) (.of body (.of (reads_annotations sorted.1) (.nil _))))

namespace Module

/-- Keys, lists and values come back in the order they are written in. -/
theorem reads {m : Module} (wellFormed : m.WellFormed) (present : Value.null ∉ m.defaults) :
    Reads Module.read m.write m := by
  have annotated : ∀ v ∈ m.annotationValues, v.sorted = true :=
    fun v among => wellFormed.sorted v (List.mem_append_left _ among)
  have defaulted : ∀ v ∈ m.defaults, v.sorted = true :=
    fun v among => wellFormed.sorted v (List.mem_append_right _ among)
  simp only [annotationValues, List.mem_append, or_imp, forall_and] at annotated
  have declared : ∀ entry ∈ m.decls, Reads Decl.read entry.2.write entry.2 := by
    intro entry member
    refine Decl.reads ?_ ?_ ?_
    · exact fun v among => annotated.2 v (List.mem_flatMap.mpr ⟨entry, member, among⟩)
    · exact fun among => present (List.mem_flatMap.mpr ⟨entry, member, among⟩)
    · exact fun v among => defaulted v (List.mem_flatMap.mpr ⟨entry, member, among⟩)
  exact reads_record (by simp [Slot.of])
    (.of (reads_text _) (.of (reads_texts _) (.of (reads_keyed wellFormed.keys declared)
      (.of (reads_annotations annotated.1) (.nil _)))))

end Module

/-! ### Documents -/

theorem readModules_module {m : Module} (reads : Reads Module.read m.write m) {text : List Char}
    (spells : Spells text m.write) (shallow : m.write.nesting ≤ nestingLimit) :
    readModules text = .ok [m] := by
  obtain ⟨rest, opens⟩ := trimStart_of_spells spells (d := '\x7b') rfl
  have ran := readDocument_of_spells reads spells shallow
  simp only [readModules, opens, ran]
  rfl

theorem readModules_list {modules : List Module}
    (each : ∀ m ∈ modules, Reads Module.read m.write m) {text : List Char}
    (spells : Spells text (.array (modules.map Module.write)))
    (shallow : (Value.array (modules.map Module.write)).nesting ≤ nestingLimit) :
    readModules text = .ok modules := by
  obtain ⟨rest, opens⟩ := trimStart_of_spells spells (d := '[') rfl
  have ran := readDocument_of_spells (reads_list each) spells shallow
  simp only [readModules, opens, ran]

/--
Any text that spells what is written for a module is read as that module, and for a list of modules
as that list. The text printed for a value spells it when its numbers are integers of 64 bits.
-/
theorem written_modules_read {modules : List Module} (wellFormed : ∀ m ∈ modules, m.WellFormed)
    (present : ∀ m ∈ modules, Value.null ∉ m.defaults) :
    (∀ m ∈ modules, m.write.nesting ≤ nestingLimit → ∀ text, Spells text m.write →
      readDocument Module.read text = .ok m ∧ readModules text = .ok [m]) ∧
    ((Value.array (modules.map Module.write)).nesting ≤ nestingLimit →
      ∀ text, Spells text (.array (modules.map Module.write)) → readModules text = .ok modules) ∧
    ∀ v : Value, v.integral = true → Spells v.text.toList v := by
  have each : ∀ m ∈ modules, Reads Module.read m.write m :=
    fun m member => Module.reads (wellFormed m member) (present m member)
  refine ⟨?_, ?_, fun v integral => spells_text integral⟩
  · intro m member shallow text spells
    exact ⟨readDocument_of_spells (each m member) spells shallow,
      readModules_module (each m member) spells shallow⟩
  · intro shallow text spells
    exact readModules_list each spells shallow

namespace Sample

def stock : Module :=
  ⟨"shop.stock", ["shop", "sys.types"],
    [("Item", ⟨"Item", .struct ["T"]
       [{ documented (field "label" (prim "String")) "as \"printed\"\n" with
          serializedName := some "l", default := some (.string "\t?") },
        { field "sizes" (vector (nullable (param "T"))) with default := some (.array []) }],
       [⟨⟨"shop", "Shelf"⟩, .object [("column", .number (.integer (-3))),
         ("row", .object [("open", .bool false), ("side", .null)])]⟩]⟩),
     ("Kind", enumeration "Kind" ["new", "used"]),
     ("Items", typeAlias "Items" ["T"] (vector (named "shop.stock" "Item" [param "T"]))),
     ("Weight", ⟨"Weight", .newtype [] (prim "Int64") (some (.number (.integer 1000))), []⟩)],
    [⟨⟨"shop", "Owner"⟩, .null⟩]⟩

/-- The texts printed for two modules, alone and together. -/
theorem stock_read :
    (∀ m ∈ [stock, sysTypes], m.WellFormed) ∧
    (∀ m ∈ [stock, sysTypes], Value.null ∉ m.defaults) ∧
    stock.write.nesting ≤ nestingLimit ∧ Spells stock.write.text.toList stock.write ∧
    readDocument Module.read stock.write.text.toList = .ok stock ∧
    readModules stock.write.text.toList = .ok [stock] ∧
    (Value.array [stock.write, sysTypes.write]).nesting ≤ nestingLimit ∧
    Spells (Value.array [stock.write, sysTypes.write]).text.toList
      (.array [stock.write, sysTypes.write]) ∧
    readModules (Value.array [stock.write, sysTypes.write]).text.toList =
      .ok [stock, sysTypes] := by
  have wellFormed : ∀ m ∈ [stock, sysTypes], m.WellFormed := by
    intro m member
    obtain rfl | rfl : m = stock ∨ m = sysTypes := by simpa using member
    · exact ⟨by decide, by decide⟩
    · exact ⟨by decide, by decide⟩
  have present : ∀ m ∈ [stock, sysTypes], Value.null ∉ m.defaults := by
    intro m member
    obtain rfl | rfl : m = stock ∨ m = sysTypes := by simpa using member
    · simp [stock, Module.defaults, DeclBody.defaults, DeclBody.fields, enumeration, typeAlias,
        field, documented, annotated]
    · simp [sysTypes, moduleOf, Module.defaults, DeclBody.defaults, DeclBody.fields, field]
  obtain ⟨alone, together, printed⟩ := written_modules_read wellFormed present
  have one : Spells stock.write.text.toList stock.write := printed _ (by decide)
  have both := printed (.array [stock.write, sysTypes.write]) (by decide)
  obtain ⟨parsed, listed⟩ := alone stock List.mem_cons_self (by decide) _ one
  exact ⟨wellFormed, present, by decide, one, parsed, listed, by decide, both,
    together (by decide) _ both⟩

end Sample

end SchemaBindings
