import SchemaBindings.Proofs.Decoding.Canonical
import SchemaBindings.Proofs.Imports.Rendering
import SchemaBindings.Proofs.Text.Brackets

/-!
Legible targets. Where the outermost form of a type and the texts of its parts are told from the
text of the type, and each declaration stands under a name of its own, one text is written for one
type only, up to what no text shows: the kinds of declarations and scalars of one name.
-/

namespace SchemaBindings

open Text (Closed Plain)

def marks : List Char :=
  [' ', '.', ',', ':', '<', '>', '(', ')', '[', ']', '\x7b', '\x7d', '|']

def Unmarked (name : String) : Prop :=
  ∀ c ∈ name.toList, c ∉ marks

instance (name : String) : Decidable (Unmarked name) :=
  List.decidableBAll (· ∉ marks) name.toList

theorem Unmarked.not_mem {name : String} (unmarked : Unmarked name) {mark : Char}
    (listed : mark ∈ marks) : mark ∉ name.toList :=
  fun member => unmarked mark member listed

/-- The outermost form of a canonical type. -/
inductive Form where
  | scalar
  | vector
  | stringMap
  | nullable
  | reference
  deriving DecidableEq, Repr

namespace Decoded

def form : Decoded → Form
  | .primitive _ => .scalar
  | .vector _ => .vector
  | .stringMap _ => .stringMap
  | .nullable _ => .nullable
  | .reference _ _ _ => .reference

/-- No nullable stands right inside a nullable. -/
def OnceNullable (d : Decoded) : Prop :=
  ∀ inner, ¬ (Decoded.nullable (.nullable inner)).Inside d

section Once

variable {elem : Decoded}

theorem OnceNullable.ne {d : Decoded} (once : d.OnceNullable) (inner : Decoded) :
    d ≠ .nullable (.nullable inner) := by
  rintro rfl
  exact once inner .self

theorem OnceNullable.vector (once : (Decoded.vector elem).OnceNullable) : elem.OnceNullable :=
  fun inner inside => once inner (.vector inside)

theorem OnceNullable.stringMap (once : (Decoded.stringMap elem).OnceNullable) :
    elem.OnceNullable :=
  fun inner inside => once inner (.stringMap inside)

theorem OnceNullable.nullable (once : (Decoded.nullable elem).OnceNullable) : elem.OnceNullable :=
  fun inner inside => once inner (.nullable inside)

theorem OnceNullable.argument {name : ScopedName} {kind : DeclKind} {arguments : List Decoded}
    (once : (Decoded.reference name kind arguments).OnceNullable) :
    ∀ argument ∈ arguments, argument.OnceNullable :=
  fun _ member inner inside => once inner (.argument member inside)

end Once

mutual

/-- The same type but for the kinds of its references, and for scalars that are the `same`. -/
inductive Alike (same : Primitive → Primitive → Prop) : Decoded → Decoded → Prop where
  | primitive {p q : Primitive} (scalars : same p q) : Alike same (.primitive p) (.primitive q)
  | vector {elem other : Decoded} (part : Alike same elem other) :
      Alike same (.vector elem) (.vector other)
  | stringMap {elem other : Decoded} (part : Alike same elem other) :
      Alike same (.stringMap elem) (.stringMap other)
  | nullable {elem other : Decoded} (part : Alike same elem other) :
      Alike same (.nullable elem) (.nullable other)
  | reference {name : ScopedName} {kind otherKind : DeclKind} {arguments others : List Decoded}
      (parts : AllAlike same arguments others) :
      Alike same (.reference name kind arguments) (.reference name otherKind others)

inductive AllAlike (same : Primitive → Primitive → Prop) : List Decoded → List Decoded → Prop where
  | nil : AllAlike same [] []
  | cons {d other : Decoded} {rest others : List Decoded} (first : Alike same d other)
      (later : AllAlike same rest others) : AllAlike same (d :: rest) (other :: others)

end

/-- The first stands in one type where the second stands in the other, whatever is beside them. -/
inductive Facing (part facing : Decoded) : Decoded → Decoded → Prop where
  | here : Facing part facing part facing
  | vector {elem other : Decoded} (inner : Facing part facing elem other) :
      Facing part facing (.vector elem) (.vector other)
  | stringMap {elem other : Decoded} (inner : Facing part facing elem other) :
      Facing part facing (.stringMap elem) (.stringMap other)
  | nullable {elem other : Decoded} (inner : Facing part facing elem other) :
      Facing part facing (.nullable elem) (.nullable other)
  | argument {name otherName : ScopedName} {kind otherKind : DeclKind}
      {arguments others : List Decoded} {n : Nat} {argument other : Decoded}
      (here : arguments[n]? = some argument) (there : others[n]? = some other)
      (inner : Facing part facing argument other) :
      Facing part facing (.reference name kind arguments) (.reference otherName otherKind others)

variable {same : Primitive → Primitive → Prop}

theorem AllAlike.getElem? : ∀ {arguments others : List Decoded} (n : Nat)
    {argument other : Decoded}, AllAlike same arguments others →
      arguments[n]? = some argument → others[n]? = some other →
      argument.Alike same other
  | _, _, _, _, _, .nil, here, _ => by cases here
  | _, _, 0, _, _, .cons first _, here, there => by
      cases here
      cases there
      exact first
  | _, _, n + 1, _, _, .cons _ later, here, there => later.getElem? n here there

theorem Alike.of_facing {part facing first second : Decoded}
    (place : Facing part facing first second) (alike : first.Alike same second) :
    part.Alike same facing := by
  induction place with
  | here => exact alike
  | vector _ ih =>
      cases alike with
      | vector part => exact ih part
  | stringMap _ ih =>
      cases alike with
      | stringMap part => exact ih part
  | nullable _ ih =>
      cases alike with
      | nullable part => exact ih part
  | argument here there _ ih =>
      cases alike with
      | reference parts => exact ih (parts.getElem? _ here there)

section Names

variable {i : Imports}

mutual

theorem Alike.decodedName_eq
    (scalars : ∀ p q, same p q → i.mapper.primitive p = i.mapper.primitive q) :
    ∀ {first second : Decoded}, first.Alike same second →
      i.decodedName first = i.decodedName second
  | _, _, .primitive related => by
      rw [Imports.decodedName, Imports.decodedName, scalars _ _ related]
  | _, _, .vector part => by
      rw [Imports.decodedName, Imports.decodedName, part.decodedName_eq scalars]
  | _, _, .stringMap part => by
      rw [Imports.decodedName, Imports.decodedName, part.decodedName_eq scalars]
  | _, _, .nullable part => by
      have inner := part.decodedName_eq scalars
      -- under a nullable the outer one is not written
      cases part with
      | nullable deeper => simpa only [Imports.decodedName] using inner
      | _ => simpa only [Imports.decodedName] using congrArg (i.mapper.nullable <$> ·) inner
  | _, _, .reference parts => by
      rw [Imports.decodedName, Imports.decodedName, parts.decodedNames_eq scalars]

theorem AllAlike.decodedNames_eq
    (scalars : ∀ p q, same p q → i.mapper.primitive p = i.mapper.primitive q) :
    ∀ {arguments others : List Decoded}, AllAlike same arguments others →
      i.decodedNames arguments = i.decodedNames others
  | _, _, .nil => rfl
  | _, _, .cons first later => by
      rw [Imports.decodedNames, Imports.decodedNames, first.decodedName_eq scalars,
        later.decodedNames_eq scalars]

end

end Names

end Decoded

theorem Decoder.Canonical.onceNullable {d : Decoder} {decoded : Decoded}
    (canonical : d.Canonical decoded) : decoded.OnceNullable := by
  intro inner inside
  cases canonical.inside inside with
  | nullable once _ => exact once inner rfl

/-- What makes the texts of a target legible, aliases being of the kind that `fits`: the form is
told from the text, the texts of the parts are told too, and brackets pair up in all of them. -/
structure Mapper.Legible (m : Mapper) (fits : String → Prop) (form : String → Form) : Prop where
  scalar : ∀ p, form (m.primitive p) = .scalar
  vector : ∀ elem, form (m.vector elem) = .vector
  stringMap : ∀ elem, form (m.stringMap elem) = .stringMap
  nullable : ∀ elem, form (m.nullable elem) = .nullable
  brackets : m.applyParams = SchemaBindings.angled
  reference : ∀ {moduleAlias name : String}, fits moduleAlias → Unmarked name →
    ∀ texts, form (m.applyParams (m.qualify moduleAlias name) texts) = .reference
  vector_inj : ∀ {elem other}, m.vector elem = m.vector other → elem = other
  stringMap_inj : ∀ {elem other}, m.stringMap elem = m.stringMap other → elem = other
  nullable_inj : ∀ {elem other}, m.nullable elem = m.nullable other → elem = other
  qualify_inj : ∀ {moduleAlias otherAlias name other : String}, fits moduleAlias →
    fits otherAlias → m.qualify moduleAlias name = m.qualify otherAlias other →
    moduleAlias = otherAlias ∧ name = other
  qualify_plain : ∀ {moduleAlias name : String}, fits moduleAlias → Unmarked name →
    Plain (m.qualify moduleAlias name).toList
  closed_primitive : ∀ p, Closed 0 (m.primitive p).toList
  closed_vector : ∀ {elem : String}, Closed 0 elem.toList → Closed 0 (m.vector elem).toList
  closed_stringMap : ∀ {elem : String}, Closed 0 elem.toList → Closed 0 (m.stringMap elem).toList
  closed_nullable : ∀ {elem : String}, Closed 0 elem.toList → Closed 0 (m.nullable elem).toList

inductive Mapper.Qualifies (m : Mapper) (fits : String → Prop) (aliasOf : String → Option String)
    (name : ScopedName) : String → Prop where
  | intro {moduleAlias : String} (assigned : aliasOf name.moduleName = some moduleAlias)
      (fit : fits moduleAlias) (unmarked : Unmarked name.name) :
      Qualifies m fits aliasOf name (m.qualify moduleAlias name.name)

/-- No two modules have one alias. -/
def OneEach (aliasOf : String → Option String) : Prop :=
  ∀ {moduleName other moduleAlias : String}, aliasOf moduleName = some moduleAlias →
    aliasOf other = some moduleAlias → moduleName = other

theorem angled_cons (base text : String) (rest : List String) :
    (angled base (text :: rest)).toList =
      base.toList ++ '<' :: ((", ".intercalate (text :: rest)).toList ++ ['>']) := by
  simp [angled]

theorem closed_angled {base : String} {texts : List String} (plain : Plain base.toList)
    (closed : ∀ text ∈ texts, Closed 0 text.toList) : Closed 0 (angled base texts).toList := by
  cases texts with
  | nil => exact .of_plain plain
  | cons text rest =>
      rw [angled_cons]
      exact (Closed.of_plain plain).append (Text.closed_joined closed).angled

theorem angled_inj {base other : String} {texts others : List String}
    (plain : Plain base.toList) (otherPlain : Plain other.toList)
    (closed : ∀ text ∈ texts, Closed 0 text.toList)
    (otherClosed : ∀ text ∈ others, Closed 0 text.toList)
    (same : angled base texts = angled other others) :
    base = other ∧ texts = others := by
  have whole := congrArg String.toList same
  cases texts with
  | nil =>
      cases others with
      | nil => exact ⟨same, rfl⟩
      | cons text rest =>
          rw [angled_cons] at whole
          exact absurd (whole ▸ by simp : '<' ∈ base.toList) plain.not_mem
  | cons text rest =>
      cases others with
      | nil =>
          rw [angled_cons] at whole
          exact absurd (whole ▸ by simp : '<' ∈ other.toList) otherPlain.not_mem
      | cons otherText otherRest =>
          rw [angled_cons, angled_cons] at whole
          have ⟨bases, arguments⟩ := Text.append_cons_inj plain.not_mem otherPlain.not_mem whole
          have joined := String.toList_inj.mp ((List.append_left_inj _).mp arguments)
          exact ⟨String.toList_inj.mp bases, Text.joined_inj closed otherClosed joined⟩

namespace Decoded

variable {m : Mapper} {fits : String → Prop} {form : String → Form}
  {aliasOf : String → Option String} {same : Primitive → Primitive → Prop}

mutual

theorem WrittenAs.closed (legible : m.Legible fits form) : ∀ {d : Decoded} {text : String},
    d.WrittenAs m (m.Qualifies fits aliasOf) text → Closed 0 text.toList
  | _, _, .primitive p => legible.closed_primitive p
  | _, _, .vector part => legible.closed_vector (part.closed legible)
  | _, _, .stringMap part => legible.closed_stringMap (part.closed legible)
  | _, _, .collapsed part => part.closed legible
  | _, _, .nullable _ part => legible.closed_nullable (part.closed legible)
  | _, _, .reference (.intro _ fit unmarked) arguments =>
      legible.brackets ▸ closed_angled (legible.qualify_plain fit unmarked)
        (arguments.closed legible)

theorem AllWrittenAs.closed (legible : m.Legible fits form) :
    ∀ {ds : List Decoded} {texts : List String},
      AllWrittenAs m (m.Qualifies fits aliasOf) ds texts →
        ∀ text ∈ texts, Closed 0 text.toList
  | _, _, .nil => by simp
  | _, _, .cons first later =>
      List.forall_mem_cons.mpr ⟨first.closed legible, later.closed legible⟩

end

theorem WrittenAs.form_eq (legible : m.Legible fits form) {d : Decoded} {text : String}
    (written : d.WrittenAs m (m.Qualifies fits aliasOf) text) (once : d.OnceNullable) :
    form text = d.form := by
  cases written with
  | primitive p => exact legible.scalar p
  | vector _ => exact legible.vector _
  | stringMap _ => exact legible.stringMap _
  | collapsed _ => exact absurd rfl (once.ne _)
  | nullable _ _ => exact legible.nullable _
  | reference named _ =>
      cases named with
      | intro _ fit unmarked => exact legible.reference fit unmarked _

theorem reference_inj (legible : m.Legible fits form) (distinct : OneEach aliasOf)
    {name other : ScopedName} {base otherBase : String} {texts others : List String}
    (named : m.Qualifies fits aliasOf name base)
    (otherNamed : m.Qualifies fits aliasOf other otherBase)
    (closed : ∀ text ∈ texts, Closed 0 text.toList)
    (otherClosed : ∀ text ∈ others, Closed 0 text.toList)
    (equal : m.applyParams base texts = m.applyParams otherBase others) :
    name = other ∧ texts = others := by
  rw [legible.brackets] at equal
  cases named with
  | intro assigned fit unmarked =>
      cases otherNamed with
      | intro otherAssigned otherFit otherUnmarked =>
          have plain := legible.qualify_plain fit unmarked
          have otherPlain := legible.qualify_plain otherFit otherUnmarked
          have ⟨bases, arguments⟩ := angled_inj plain otherPlain closed otherClosed equal
          have ⟨aliases, names⟩ := legible.qualify_inj fit otherFit bases
          have modules := distinct assigned (aliases ▸ otherAssigned)
          exact ⟨congrArg₂ ScopedName.mk modules names, arguments⟩

mutual

theorem WrittenAs.alike (legible : m.Legible fits form) (distinct : OneEach aliasOf)
    (scalars : ∀ p q, m.primitive p = m.primitive q → same p q) :
    ∀ {first second : Decoded} {text other : String},
      first.WrittenAs m (m.Qualifies fits aliasOf) text →
      second.WrittenAs m (m.Qualifies fits aliasOf) other → text = other →
      first.OnceNullable → second.OnceNullable → first.Alike same second
  | first, second, text, other, written, otherWritten, equal, once, otherOnce => by
      have forms : first.form = second.form := by
        rw [← written.form_eq legible once, equal, otherWritten.form_eq legible otherOnce]
      match written with
      | .primitive p =>
          cases otherWritten with
          | primitive q => exact .primitive (scalars p q equal)
          | _ => cases forms
      | .vector part =>
          cases otherWritten with
          | vector otherPart =>
              exact .vector (part.alike legible distinct scalars otherPart
                (legible.vector_inj equal) once.vector otherOnce.vector)
          | _ => cases forms
      | .stringMap part =>
          cases otherWritten with
          | stringMap otherPart =>
              exact .stringMap (part.alike legible distinct scalars otherPart
                (legible.stringMap_inj equal) once.stringMap otherOnce.stringMap)
          | _ => cases forms
      | .collapsed part => exact absurd rfl (once.ne _)
      | .nullable _ part =>
          cases otherWritten with
          | nullable _ otherPart =>
              exact .nullable (part.alike legible distinct scalars otherPart
                (legible.nullable_inj equal) once.nullable otherOnce.nullable)
          | collapsed _ => exact absurd rfl (otherOnce.ne _)
          | _ => cases forms
      | .reference named parts =>
          cases otherWritten with
          | reference otherNamed otherParts =>
              have ⟨names, texts⟩ := reference_inj legible distinct named otherNamed
                (parts.closed legible) (otherParts.closed legible) equal
              subst names
              exact .reference (parts.alike legible distinct scalars otherParts texts
                once.argument otherOnce.argument)
          | _ => cases forms

theorem AllWrittenAs.alike (legible : m.Legible fits form) (distinct : OneEach aliasOf)
    (scalars : ∀ p q, m.primitive p = m.primitive q → same p q) :
    ∀ {arguments others : List Decoded} {texts otherTexts : List String},
      AllWrittenAs m (m.Qualifies fits aliasOf) arguments texts →
      AllWrittenAs m (m.Qualifies fits aliasOf) others otherTexts → texts = otherTexts →
      (∀ argument ∈ arguments, argument.OnceNullable) →
      (∀ other ∈ others, other.OnceNullable) → AllAlike same arguments others
  | _, _, _, _, .nil, .nil, _, _, _ => .nil
  | _, _, _, _, .nil, .cons _ _, equal, _, _ => by cases equal
  | _, _, _, _, .cons _ _, .nil, equal, _, _ => by cases equal
  | _, _, _, _, .cons first later, .cons otherFirst otherLater, equal, once, otherOnce => by
      have ⟨head, tail⟩ := List.cons_eq_cons.mp equal
      have ⟨here, rest⟩ := List.forall_mem_cons.mp once
      have ⟨there, otherRest⟩ := List.forall_mem_cons.mp otherOnce
      exact .cons (first.alike legible distinct scalars otherFirst head here there)
        (later.alike legible distinct scalars otherLater tail rest otherRest)

end

end Decoded

end SchemaBindings
