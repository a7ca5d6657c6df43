import SchemaBindings.Json.Decode
import SchemaBindings.Resolve.Decode
import SchemaBindings.Text.Blank

/-! Annotations with a fixed key and a typed value. -/

namespace SchemaBindings

open Json (Decoding)

structure Mark (α : Type) where
  key : ScopedName
  decode : Decoding α

namespace Mark

/-- The `target` names the annotated item. -/
def get? (m : Mark α) (annotations : List Annotation) (target : String) :
    Except GenerationError (Option α) :=
  match findAnnotation? m.key annotations with
  | none => .ok none
  | some value =>
    match m.decode value with
    | .ok x => .ok (some x)
    | .error fault => .error (.annotationInvalid m.key target (.shape fault))

def require (m : Mark α) (annotations : List Annotation) (target : String) :
    Except GenerationError α := do
  match ← m.get? annotations target with
  | some x => return x
  | none => throw (.annotationMissing m.key target)

end Mark

def docMark : Mark String :=
  ⟨⟨"sys.annotations", "Doc"⟩, Decoding.text⟩

/-- The text on one line, trimmed. -/
def docText (doc : String) : String :=
  String.ofList (Text.trim (doc.toList.map fun c => if c = '\n' then ' ' else c))

def docComment? (annotations : List Annotation) (target : String) :
    Except GenerationError (Option String) := do
  match ← docMark.get? annotations target with
  | some doc => return if (docText doc).isEmpty then none else some (docText doc)
  | none => return none

structure TableSettings where
  tableName : Option String
  withIdPrimaryKey : Bool
  withPrimaryKey : List String
  label : List String
  deriving DecidableEq, Repr

def tableMark : Mark TableSettings :=
  ⟨⟨"common.db", "DbTable"⟩,
    Decoding.record "DbTable" ⟨none, false, [], []⟩
      [.of "tableName" (Decoding.optional Decoding.text)
         (fun v t => { t with tableName := v }) false,
       .of "withIdPrimaryKey" Decoding.boolean (fun v t => { t with withIdPrimaryKey := v }) false,
       .of "withPrimaryKey" (Decoding.list Decoding.text)
         (fun v t => { t with withPrimaryKey := v }) false,
       .of "label" (Decoding.list Decoding.text) (fun v t => { t with label := v }) false]⟩

/-- Names the column of a field. -/
def columnNameMark : Mark String :=
  ⟨⟨"common.db", "DbColumnName"⟩, Decoding.text⟩

/-- Marks the primary key; its value does not matter. -/
def primaryKeyMark : Mark Unit :=
  ⟨⟨"common.db", "DbPrimaryKey"⟩, fun _ => .ok ()⟩

structure CustomType where
  rustName : String
  helpers : String
  generateOrigType : String
  deriving DecidableEq, Repr

def customTypeMark : Mark CustomType :=
  ⟨⟨"adlc.config.rust", "RustCustomType"⟩,
    Decoding.record "RustCustomType" ⟨"", "", ""⟩
      [.of "rustname" Decoding.text (fun v c => { c with rustName := v }) true,
       .of "helpers" Decoding.text (fun v c => { c with helpers := v }) false,
       { name := "generateOrigAdlType"
         otherNames := ["generateOrigADLType"]
         required := false
         decode := fun v => (Decoding.text v).map fun v c => { c with generateOrigType := v } }]⟩

def runtimePlaceholder : String :=
  "\x7b\x7bSTDLIBMODULE\x7d\x7d"

def CustomType.path (c : CustomType) (runtimeAlias : String) : String :=
  Text.replaceAll runtimePlaceholder runtimeAlias c.rustName

end SchemaBindings
