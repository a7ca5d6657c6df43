import Mathlib.Data.List.Nodup
import SchemaBindings.Proofs.Imports.Stability
import SchemaBindings.Proofs.Target.Languages

/-!
Unambiguous texts. The alias of a module is made from the end of its name and is its own, so settled
imports that qualify every name write two types alike only where the target has one text for both.
-/

namespace SchemaBindings

namespace Unmarked

variable {first second base : String}

theorem append (before : Unmarked first) (after : Unmarked second) :
    Unmarked (first ++ second) := by
  intro c member
  rw [String.toList_append, List.mem_append] at member
  exact member.elim (before c) (after c)

theorem numbered (unmarked : Unmarked base) (n : Nat) : Unmarked (numbered base n) := by
  have undigit : marks.any Char.isDigit = false := by decide
  have digits : Unmarked (toString n) := by
    intro c member listed
    rw [toString_toList] at member
    have digit := Nat.isDigit_of_mem_toDigits (by decide) (by decide) member
    exact List.any_eq_false.mp undigit c listed digit
  exact unmarked.append digits

end Unmarked

/-- Neither escaping nor numbering takes a name out of its kind. -/
structure Naming.Keeps (naming : Naming) (fits : String → Prop) : Prop where
  escapes : naming.Escapes
  escape : ∀ {name : String}, fits name → fits (naming.escape name)
  number : ∀ {name : String}, fits name → ∀ n, fits (numbered name n)

theorem typescriptNaming_keeps : typescriptNaming.Keeps Unmarked where
  escapes := typescriptNaming_escapes
  escape unmarked := Unmarked.append (by decide) unmarked
  number := Unmarked.numbered

theorem rustNaming_keeps : rustNaming.Keeps FreePath where
  escapes := rustNaming_escapes
  escape {name} fit := by
    change FreePath (rustEscape name)
    unfold rustEscape
    split
    · refine ⟨fit.1.append (by decide), ?_⟩
      intro same
      have ends : (name ++ "_").toList.getLast? = some '_' := getLast?_append_text name rfl
      rw [same] at ends
      exact absurd ends (by decide)
    · refine ⟨Unmarked.append (by decide) fit.1, ?_⟩
      intro same
      have starts := congrArg (·.toList.head?) same
      simp at starts
  number fit n := ⟨fit.1.numbered n, numbered_ne (by decide) _ n⟩

theorem FirstFree.fits {naming : Naming} {fits : String → Prop} (keeps : naming.Keeps fits)
    {taken : List String} {base name : String} (first : FirstFree naming.safeName taken base name)
    (fit : fits base) : fits name := by
  cases first with
  | own free =>
      unfold Naming.safeName
      split
      · exact keeps.escape fit
      · exact fit
  | suffixed held least free earlier =>
      rw [keeps.escapes.safeName_numbered]
      exact keeps.number fit _

namespace Assignment

variable {naming : Naming} {style : ImportStyle} {l : Ledger}

theorem mem_aliases {a : Assignment} {moduleName moduleAlias : String}
    (found : a.alias? moduleName = some moduleAlias) : (moduleName, moduleAlias) ∈ a.aliases := by
  have ⟨before, after, split, _⟩ := List.lookup_eq_some_iff.mp found
  simp [split]

theorem alias_fits {fits : String → Prop} (keeps : naming.Keeps fits)
    {moduleName moduleAlias : String}
    (found : (ofLedger naming style l).alias? moduleName = some moduleAlias)
    (fit : fits (moduleTail moduleName)) : fits moduleAlias := by
  have member := mem_aliases found
  rw [aliases_ofLedger_eq] at member
  rcases giveNames_firstFree _ _ id moduleTail naming.keepsUnreserved [] l.modules _ member with
    none | ⟨_, _, rfl, _, first⟩
  · cases none
  · exact first.fits keeps fit

theorem oneEach_alias : OneEach (ofLedger naming style l).alias? := by
  intro moduleName other moduleAlias found otherFound
  have distinct : ((ofLedger naming style l).aliases.map (·.2)).Nodup := by
    have ⟨names, same, turns⟩ := giveNames_inTurn naming.safeName _ id moduleTail
      naming.keepsUnreserved [] l.modules
    rw [aliases_ofLedger_eq, same]
    exact turns.nodup
  have pairs := List.inj_on_of_nodup_map distinct (mem_aliases found) (mem_aliases otherFound) rfl
  exact congrArg Prod.fst pairs

end Assignment

/-- The names of the declarations bear no marks, and the tails of their modules fit. -/
def Decoded.NamedWithin (fits : String → Prop) (d : Decoded) : Prop :=
  ∀ name ∈ d.references.map (·.1), Unmarked name.name ∧ fits (moduleTail name.moduleName)

namespace Imports

/-- Every declaration is imported, and written after the alias of its module. -/
structure Qualifying (i : Imports) : Prop where
  style : i.style = .qualified
  foreign : i.localModule = none
  imported : ∀ name, i.mapper.native name = none

/-- Both types have a text, and it is one text exactly when they differ in nothing but the kinds of
declarations and scalars that are the `same`. So it is not where one has a list of nullables in the
place that holds a nullable list in the other. -/
structure TellsApart (i : Imports) (same : Primitive → Primitive → Prop) (first second : Decoded) :
    Prop where
  written : ∃ text, i.decodedName first = .ok text
  otherWritten : ∃ text, i.decodedName second = .ok text
  equal_iff : i.decodedName first = i.decodedName second ↔ first.Alike same second
  lists : ∀ elem other, Decoded.Facing (.vector (.nullable elem)) (.nullable (.vector other))
    first second → i.decodedName first ≠ i.decodedName second

variable {i : Imports} {m : Mapper} {fits : String → Prop} {form : String → Form}
  {same : Primitive → Primitive → Prop} {first second : Decoded}

theorem Ready.qualifies (ready : i.Ready) (qualifying : i.Qualifying)
    (keeps : i.mapper.naming.Keeps fits) {d : Decoded} (known : i.KnowsAll d.wanted)
    (named : d.NamedWithin fits) :
    i.Nameable (i.mapper.Qualifies fits i.names.alias?) (d.references.map (·.1)) := by
  have ⟨entries, _, lists⟩ := modules_lists ready
  intro name member
  have ⟨unmarked, fit⟩ := named name member
  have ⟨text, written, names⟩ :=
    declarationName_names ready lists (known _ (Decoded.wanted_of_reference member))
  refine ⟨text, written, ?_⟩
  cases names with
  | native found =>
      rw [qualifying.imported] at found
      cases found
  | bound _ binds =>
      cases binds with
      | own here => simp [isLocal, qualifying.foreign] at here
      | qualified entry _ _ listed same =>
          have aliased := lists.aliases entry listed
          rw [same] at aliased
          exact .intro aliased (Assignment.alias_fits keeps aliased fit) unmarked
      | named _ _ style =>
          rw [qualifying.style] at style
          cases style

theorem tellsApart_of_nameable (legible : i.mapper.Legible fits form)
    (distinct : OneEach i.names.alias?)
    (scalars : ∀ p q, i.mapper.primitive p = i.mapper.primitive q ↔ same p q)
    (named : i.Nameable (i.mapper.Qualifies fits i.names.alias?) (first.references.map (·.1)))
    (otherNamed : i.Nameable (i.mapper.Qualifies fits i.names.alias?)
      (second.references.map (·.1)))
    (once : first.OnceNullable) (otherOnce : second.OnceNullable) :
    i.TellsApart same first second := by
  have ⟨text, done, written⟩ := decodedName_written first named
  have ⟨otherText, otherDone, otherWritten⟩ := decodedName_written second otherNamed
  have alike : i.decodedName first = i.decodedName second → first.Alike same second := by
    intro equal
    rw [done, otherDone, Except.ok.injEq] at equal
    exact written.alike legible distinct (fun p q => (scalars p q).mp) otherWritten equal once
      otherOnce
  refine ⟨⟨text, done⟩, ⟨otherText, otherDone⟩, ⟨alike, ?_⟩, ?_⟩
  · exact fun related => related.decodedName_eq fun p q => (scalars p q).mpr
  · intro elem other place equal
    cases (alike equal).of_facing place

theorem settledBy_tellsApart (legible : m.Legible fits form) (keeps : m.naming.Keeps fits)
    (imported : ∀ name, m.native name = none)
    (scalars : ∀ p q, m.primitive p = m.primitive q ↔ same p q) {calls : List Registration}
    (among : .decoded first ∈ calls) (otherAmong : .decoded second ∈ calls)
    (once : first.OnceNullable) (otherOnce : second.OnceNullable)
    (named : first.NamedWithin fits) (otherNamed : second.NamedWithin fits) :
    ∃ i, (new m).settledBy calls = .ok i ∧ i.TellsApart same first second := by
  let wanted := calls.flatMap Registration.wanted
  let i := settledFor m .qualified wanted
  have ready : i.Ready := settledFor_ready m .qualified wanted
  have known : i.KnowsAll wanted := settledFor_knows m .qualified wanted
  have qualifying : i.Qualifying := ⟨rfl, rfl, imported⟩
  refine ⟨i, settledBy_eq rfl calls, ?_⟩
  exact tellsApart_of_nameable legible Assignment.oneEach_alias scalars
    (ready.qualifies qualifying keeps (known.part among) named)
    (ready.qualifies qualifying keeps (known.part otherAmong) otherNamed) once otherOnce

/-- Two registered types are written, and alike only if they differ in nothing but the kinds of
declarations and, in TypeScript, scalars of one name. In Rust no module may bear the name of the
library that one scalar is from. -/
theorem registered_unambiguous {calls : List Registration} {first second : Decoded}
    (among : .decoded first ∈ calls) (otherAmong : .decoded second ∈ calls)
    (once : first.OnceNullable) (otherOnce : second.OnceNullable)
    (named : first.NamedWithin Unmarked) (otherNamed : second.NamedWithin Unmarked) :
    (∃ i, (new (typescriptMapper [])).settledBy calls = .ok i ∧
      i.TellsApart (fun p q => typescriptPrimitive p = typescriptPrimitive q) first second) ∧
    ((∀ name ∈ first.references.map (·.1) ++ second.references.map (·.1),
        moduleTail name.moduleName ≠ "serde_json") →
      ∃ i, (new (rustMapper [])).settledBy calls = .ok i ∧ i.TellsApart Eq first second) := by
  constructor
  · exact settledBy_tellsApart typescript_legible typescriptNaming_keeps (fun _ => rfl)
      (fun _ _ => Iff.rfl) among otherAmong once otherOnce named otherNamed
  · intro own
    have scalars : ∀ p q, rustPrimitive p = rustPrimitive q ↔ p = q :=
      fun _ _ => ⟨rustPrimitive_injective, congrArg rustPrimitive⟩
    have free : first.NamedWithin FreePath := fun name member =>
      ⟨(named name member).1, (named name member).2, own name (List.mem_append_left _ member)⟩
    have otherFree : second.NamedWithin FreePath := fun name member =>
      ⟨(otherNamed name member).1, (otherNamed name member).2,
        own name (List.mem_append_right _ member)⟩
    exact settledBy_tellsApart rust_legible rustNaming_keeps (fun _ => rfl) scalars among
      otherAmong once otherOnce free otherFree

end Imports

namespace Sample

def shelf : TypeExpr :=
  named "common.db" "WithId" [vector (nullable (prim "Int32")), named "shop" "Stamp" []]

def rack : TypeExpr :=
  named "common.db" "WithId" [nullable (vector (prim "Word8")), named "shop" "Stamp" []]

def decodedShelf : Decoded :=
  .reference ⟨"common.db", "WithId"⟩ .struct
    [.vector (.nullable (.primitive .int32)), .reference ⟨"shop", "Stamp"⟩ .newtype []]

def decodedRack : Decoded :=
  .reference ⟨"common.db", "WithId"⟩ .struct
    [.nullable (.vector (.primitive .word8)), .reference ⟨"shop", "Stamp"⟩ .newtype []]

def shelfCalls : List Registration :=
  [.type (named "depot.db" "WithId" []), .decoded decodedShelf, .decoded decodedRack]

example : (Imports.settledFor (typescriptMapper []) .qualified
    (shelfCalls.flatMap Registration.wanted)).decodedName decodedShelf =
      .ok "db2.WithId<(number | null)[], shop.Stamp>" := by
  rfl

theorem shelf_told_apart :
    .decoded decodedShelf ∈ shelfCalls ∧ .decoded decodedRack ∈ shelfCalls ∧
    decodedShelf.OnceNullable ∧ decodedRack.OnceNullable ∧
    decodedShelf.NamedWithin Unmarked ∧ decodedRack.NamedWithin Unmarked ∧
    (∃ i, (Imports.new (typescriptMapper [])).settledBy shelfCalls = .ok i ∧
      i.TellsApart (fun p q => typescriptPrimitive p = typescriptPrimitive q) decodedShelf
        decodedRack) ∧
    ∃ i, (Imports.new (rustMapper [])).settledBy shelfCalls = .ok i ∧
      i.TellsApart Eq decodedShelf decodedRack := by
  have among : .decoded decodedShelf ∈ shelfCalls := by simp [shelfCalls]
  have otherAmong : .decoded decodedRack ∈ shelfCalls := by simp [shelfCalls]
  have decodes : stallDecoder.decode shelf = .ok decodedShelf := by rfl
  have otherDecodes : stallDecoder.decode rack = .ok decodedRack := by rfl
  have once := (Decoder.canonical_of_decodeWithin decodes).onceNullable
  have otherOnce := (Decoder.canonical_of_decodeWithin otherDecodes).onceNullable
  have named : decodedShelf.NamedWithin Unmarked := by
    unfold Decoded.NamedWithin
    decide
  have otherNamed : decodedRack.NamedWithin Unmarked := by
    unfold Decoded.NamedWithin
    decide
  have apart := Imports.registered_unambiguous among otherAmong once otherOnce named otherNamed
  exact ⟨among, otherAmong, once, otherOnce, named, otherNamed, apart.1, apart.2 (by decide)⟩

end Sample

end SchemaBindings
