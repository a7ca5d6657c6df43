import Mathlib.Data.List.TakeWhile
import SchemaBindings.Config.Validate
import SchemaBindings.Proofs.Failure
import SchemaBindings.Proofs.Text.Searching

/-!
Configurations that are well shaped and still invalid. The first value that must not be empty and is
decides the failure. Where it is told to stand is found by a search of the text for the key and the
value, so what is found first need not belong to the table that has the fault.
-/

namespace SchemaBindings

open Text

/-! ### Places of keys -/

def assignment (key value mark : String) : List Char :=
  (key ++ " = " ++ mark ++ value ++ mark).toList

def AssignsAfter (indent key line : List Char) : Prop :=
  ∃ gap rest, line = indent ++ key ++ gap ++ '=' :: rest ∧ (∀ c ∈ indent, isBlank c = true) ∧
    ∀ c ∈ gap, isBlank c = true

def Unquoted (text : List Char) (key value : String) : Prop :=
  ∀ mark ∈ ["\"", "'"], ¬ assignment key value mark <:+: text

theorem Unquoted.not_firstAt {text : List Char} {key value mark : String} {offset : Nat}
    (absent : Unquoted text key value) (quotes : mark ∈ ["\"", "'"])
    (first : FirstAt text (assignment key value mark) offset) : False :=
  absent mark quotes first.isInfix

/-- Where a search for a key and its value ends: at the first text that sets it in double quotes, or
else in single quotes, or else at the key in the first line that begins with it. -/
inductive PlaceOf (text : List Char) (key value : String) : Option Span → Prop where
  | doubleQuoted {offset : Nat} (first : FirstAt text (assignment key value "\"") offset) :
      PlaceOf text key value (some ⟨offset, byteLength (assignment key value "\"")⟩)
  | singleQuoted {offset : Nat} (absent : ¬ assignment key value "\"" <:+: text)
      (first : FirstAt text (assignment key value "'") offset) :
      PlaceOf text key value (some ⟨offset, byteLength (assignment key value "'")⟩)
  | lineStart {before after : List (List Char)} {line indent : List Char}
      (absent : Unquoted text key value) (lines : linePieces text = before ++ line :: after)
      (earlier : ∀ other ∈ before, ∀ indent, ¬ AssignsAfter indent key.toList other)
      (assigns : AssignsAfter indent key.toList line) :
      PlaceOf text key value
        (some ⟨byteLength before.flatten + byteLength indent, byteLength key.toList⟩)
  | nowhere (absent : Unquoted text key value)
      (never : ∀ line ∈ linePieces text, ∀ indent, ¬ AssignsAfter indent key.toList line) :
      PlaceOf text key value none

namespace PlaceOf

variable {text : List Char} {key value : String}

theorem within {span : Span} (found : PlaceOf text key value (some span)) :
    span.offset + span.length ≤ byteLength text := by
  cases found with
  | doubleQuoted first => exact first.1.within
  | singleQuoted _ first => exact first.1.within
  | @lineStart before after line indent _ lines _ assigns =>
      obtain ⟨gap, rest, rfl, _, _⟩ := assigns
      rw [← flatten_linePieces text, lines]
      simp only [List.flatten_append, List.flatten_cons, byteLength_append]
      omega

theorem eq_of_firstAt {place : Option Span} {mark : String} {offset : Nat}
    (found : PlaceOf text key value place) (quotes : mark ∈ ["\"", "'"])
    (preferred : mark = "'" → ¬ assignment key value "\"" <:+: text)
    (first : FirstAt text (assignment key value mark) offset) :
    place = some ⟨offset, byteLength (assignment key value mark)⟩ := by
  cases found with
  | doubleQuoted other =>
      rcases List.mem_pair.mp quotes with rfl | rfl
      · rw [other.unique first]
      · exact absurd other.isInfix (preferred rfl)
  | singleQuoted absent other =>
      rcases List.mem_pair.mp quotes with rfl | rfl
      · exact absurd first.isInfix absent
      · rw [other.unique first]
  | lineStart absent _ _ _ => exact (absent.not_firstAt quotes first).elim
  | nowhere absent _ => exact (absent.not_firstAt quotes first).elim

end PlaceOf

/-! ### The search -/

section Lines

variable {key line indent : List Char}

theorem trimStart_append {rest : List Char} (blank : ∀ c ∈ indent, isBlank c = true) :
    trimStart (indent ++ rest) = trimStart rest :=
  List.dropWhile_append_of_pos blank

theorem trimStart_of_visible {c : Char} (visible : isBlank c = false) (rest : List Char) :
    trimStart (c :: rest) = c :: rest :=
  List.dropWhile_cons_of_neg (by simp [visible])

theorem assignsAfter_of_lineAssigns (assigns : lineAssigns key line = true) :
    AssignsAfter (line.takeWhile isBlank) key line := by
  obtain ⟨begins, goesOn⟩ := Bool.and_eq_true_iff.mp assigns
  obtain ⟨rest, split⟩ := List.isPrefixOf_iff_prefix.mp begins
  rw [← split, List.drop_left] at goesOn
  obtain ⟨tail, sign⟩ := List.head?_eq_some_iff.mp (of_decide_eq_true goesOn)
  refine ⟨rest.takeWhile isBlank, tail, ?_, fun c => List.mem_takeWhile_imp,
    fun c => List.mem_takeWhile_imp⟩
  calc line = line.takeWhile isBlank ++ trimStart line := (List.takeWhile_append_dropWhile ..).symm
    _ = line.takeWhile isBlank ++ (key ++ (rest.takeWhile isBlank ++ trimStart rest)) := by
        rw [← split]
        exact congrArg _ (congrArg _ (List.takeWhile_append_dropWhile ..).symm)
    _ = line.takeWhile isBlank ++ key ++ rest.takeWhile isBlank ++ '=' :: tail := by
        rw [sign]
        simp only [List.append_assoc]

theorem lineAssigns_of_assignsAfter {first : Char} {more : List Char} (named : key = first :: more)
    (visible : isBlank first = false) (assigns : AssignsAfter indent key line) :
    lineAssigns key line = true := by
  obtain ⟨gap, rest, rfl, indented, blank⟩ := assigns
  have start : trimStart (indent ++ key ++ gap ++ '=' :: rest) = key ++ (gap ++ '=' :: rest) := by
    rw [List.append_assoc, List.append_assoc, trimStart_append indented, named, List.cons_append,
      trimStart_of_visible visible]
  have sign : trimStart (gap ++ '=' :: rest) = '=' :: rest := by
    rw [trimStart_append blank, trimStart_of_visible (by decide)]
  rw [lineAssigns, start, List.drop_left, sign]
  exact Bool.and_eq_true_iff.mpr ⟨List.isPrefixOf_iff_prefix.mpr (List.prefix_append _ _), rfl⟩

theorem lineSpan?_outcome (key : List Char) (offset : Nat) (lines : List (List Char)) :
    (lineSpan? key offset lines = none ∧ ∀ line ∈ lines, lineAssigns key line = false) ∨
    ∃ before line after, lines = before ++ line :: after ∧
      (∀ other ∈ before, lineAssigns key other = false) ∧ lineAssigns key line = true ∧
      lineSpan? key offset lines = some ⟨offset + byteLength before.flatten +
        byteLength (line.takeWhile isBlank), byteLength key⟩ := by
  induction lines generalizing offset with
  | nil => exact .inl ⟨rfl, by simp⟩
  | cons line rest ih =>
      cases assigns : lineAssigns key line with
      | true =>
          have parted : byteLength line =
              byteLength (line.takeWhile isBlank) + byteLength (trimStart line) := by
            rw [← byteLength_append, trimStart, List.takeWhile_append_dropWhile]
          refine .inr ⟨[], line, rest, rfl, by simp, assigns, ?_⟩
          simp [lineSpan?, assigns, parted, byteLength]
      | false =>
          have step : lineSpan? key offset (line :: rest) =
              lineSpan? key (offset + byteLength line) rest := by
            simp [lineSpan?, assigns]
          rcases ih (offset + byteLength line) with ⟨missed, never⟩ |
            ⟨before, other, after, lines, earlier, found, place⟩
          · exact .inl ⟨step.trans missed, List.forall_mem_cons.mpr ⟨assigns, never⟩⟩
          · refine .inr ⟨line :: before, other, after, by rw [lines]; rfl,
              List.forall_mem_cons.mpr ⟨assigns, earlier⟩, found, ?_⟩
            rw [step, place, List.flatten_cons, byteLength_append, Nat.add_assoc offset]

theorem indent_of_assignsAfter {first : Char} {more : List Char} (named : key = first :: more)
    (visible : isBlank first = false) (assigns : AssignsAfter indent key line) :
    indent = line.takeWhile isBlank := by
  obtain ⟨gap, rest, rfl, indented, _⟩ := assigns
  rw [named, List.append_assoc, List.append_assoc, List.takeWhile_append_of_pos indented,
    List.cons_append, List.takeWhile_cons_of_neg (by simp [visible]), List.append_nil]

theorem first_unique {α : Type} {p : α → Prop} {before other after rest : List α} {x y : α}
    (same : before ++ x :: after = other ++ y :: rest) (earlier : ∀ z ∈ before, ¬ p z)
    (otherEarlier : ∀ z ∈ other, ¬ p z) (holds : p x) (otherHolds : p y) :
    before = other ∧ x = y := by
  rcases List.append_eq_append_iff.mp same with ⟨part, rfl, split⟩ | ⟨part, rfl, split⟩
  · cases part with
    | nil => exact ⟨(List.append_nil _).symm, (List.cons.inj split).1⟩
    | cons z part =>
        obtain ⟨rfl, _⟩ := List.cons.inj split
        exact absurd holds (otherEarlier x (List.mem_append_right _ List.mem_cons_self))
  · cases part with
    | nil => exact ⟨List.append_nil _, (List.cons.inj split).1.symm⟩
    | cons z part =>
        obtain ⟨rfl, _⟩ := List.cons.inj split
        exact absurd otherHolds (earlier y (List.mem_append_right _ List.mem_cons_self))

end Lines

theorem PlaceOf.unique {text : List Char} {key value : String} {first : Char} {more : List Char}
    {place other : Option Span} (named : key.toList = first :: more)
    (visible : isBlank first = false) (found : PlaceOf text key value place)
    (foundToo : PlaceOf text key value other) : other = place := by
  cases found with
  | doubleQuoted least => exact foundToo.eq_of_firstAt (by decide) nofun least
  | singleQuoted absent least => exact foundToo.eq_of_firstAt (by decide) (fun _ => absent) least
  | lineStart absent lines earlier assigns =>
      cases foundToo with
      | doubleQuoted least => exact (absent.not_firstAt (by decide) least).elim
      | singleQuoted _ least => exact (absent.not_firstAt (by decide) least).elim
      | lineStart _ otherLines otherEarlier otherAssigns =>
          obtain ⟨rfl, rfl⟩ := first_unique (p := fun line => ∃ indent, AssignsAfter indent _ line)
            (lines.symm.trans otherLines) (fun line member => not_exists.mpr (earlier line member))
            (fun line member => not_exists.mpr (otherEarlier line member)) ⟨_, assigns⟩
            ⟨_, otherAssigns⟩
          rw [indent_of_assignsAfter named visible assigns,
            indent_of_assignsAfter named visible otherAssigns]
      | nowhere _ never =>
          exact absurd assigns (never _ (lines ▸ List.mem_append_right _ List.mem_cons_self) _)
  | nowhere absent never =>
      cases foundToo with
      | doubleQuoted least => exact (absent.not_firstAt (by decide) least).elim
      | singleQuoted _ least => exact (absent.not_firstAt (by decide) least).elim
      | lineStart _ lines _ assigns =>
          exact absurd assigns (never _ (lines ▸ List.mem_append_right _ List.mem_cons_self) _)
      | nowhere _ _ => rfl

theorem placeOf_lineSpan? {text : List Char} {key value : String} {first : Char} {more : List Char}
    (named : key.toList = first :: more) (visible : isBlank first = false)
    (absent : Unquoted text key value) :
    PlaceOf text key value (lineSpan? key.toList 0 (linePieces text)) := by
  have other {line indent : List Char} (assigns : lineAssigns key.toList line = false) :
      ¬ AssignsAfter indent key.toList line := by
    intro after
    rw [lineAssigns_of_assignsAfter named visible after] at assigns
    cases assigns
  rcases lineSpan?_outcome key.toList 0 (linePieces text) with ⟨place, never⟩ |
    ⟨before, line, after, lines, earlier, assigns, place⟩
  · rw [place]
    exact .nowhere absent fun line member _ => other (never line member)
  · rw [place, Nat.zero_add]
    exact .lineStart absent lines (fun line member _ => other (earlier line member))
      (assignsAfter_of_lineAssigns assigns)

def quotedSpan? (text : List Char) (key value mark : String) : Option Span :=
  (around? (assignment key value mark) text).map fun (before, _) =>
    ⟨byteLength before, byteLength (assignment key value mark)⟩

theorem quotedSpan?_outcome (text : List Char) (key value mark : String) :
    (quotedSpan? text key value mark = none ∧ ¬ assignment key value mark <:+: text) ∨
    ∃ offset, FirstAt text (assignment key value mark) offset ∧ quotedSpan? text key value mark =
      some ⟨offset, byteLength (assignment key value mark)⟩ := by
  unfold quotedSpan?
  cases found : around? (assignment key value mark) text with
  | none => exact .inl ⟨rfl, around?_eq_none found⟩
  | some sides => exact .inr ⟨_, firstAt_of_around? found, rfl⟩

theorem keySpan?_eq (text : List Char) (key value : String) : keySpan? text key value =
    ((quotedSpan? text key value "\"").or (quotedSpan? text key value "'")).or
      (lineSpan? key.toList 0 (linePieces text)) := by
  change (["\"", "'"].findSome? (quotedSpan? text key value)).or _ = _
  cases double : quotedSpan? text key value "\"" <;>
    cases single : quotedSpan? text key value "'" <;> simp [double, single]

theorem placeOf_keySpan? {text : List Char} {key value : String} {first : Char} {more : List Char}
    (named : key.toList = first :: more) (visible : isBlank first = false) :
    PlaceOf text key value (keySpan? text key value) := by
  rw [keySpan?_eq]
  rcases quotedSpan?_outcome text key value "\"" with ⟨missed, noDouble⟩ | ⟨offset, least, place⟩
  · rcases quotedSpan?_outcome text key value "'" with ⟨missedToo, noSingle⟩ |
      ⟨offset, least, place⟩
    · have absent : Unquoted text key value := by
        simpa [Unquoted] using ⟨noDouble, noSingle⟩
      rw [missed, missedToo]
      exact placeOf_lineSpan? named visible absent
    · rw [missed, place]
      exact .singleQuoted noDouble least
  · rw [place]
    exact .doubleQuoted least

/-! ### Values that must not be empty -/

namespace Toml.Node

def entry? (name : String) : Node → Option (Key × Node)
  | .table _ _ entries => entryNamed? name entries
  | _ => none

def item? (index : Nat) : Node → Option Node
  | .array _ items => items[index]?
  | .tables _ items => items[index]?
  | _ => none

end Toml.Node

/-- The schema files, of which there must be one, and texts of numbered tables, which must not be
blank. -/
inductive Demand where
  | schemaFiles (files : List String)
  | apiText (section_ : String) (index : Nat) (key value : String)
  deriving DecidableEq, Repr

namespace Demand

def Met : Demand → Prop
  | .schemaFiles files => files ≠ []
  | .apiText _ _ _ value => ∃ c ∈ value.toList, isBlank c = false

instance : (d : Demand) → Decidable d.Met
  | .schemaFiles files => inferInstanceAs (Decidable (files ≠ []))
  | .apiText _ _ _ value => List.decidableBEx (isBlank · = false) value.toList

def cause : Demand → Invalid
  | .schemaFiles _ => .noItems "schema.files"
  | .apiText section_ index key _ => .emptyValue (section_ ++ "." ++ toString index ++ "." ++ key)

def key : Demand → String
  | .schemaFiles _ => "files"
  | .apiText _ _ key _ => key

def value : Demand → String
  | .schemaFiles _ => ""
  | .apiText _ _ _ value => value

def ownKey? (root : Toml.Node) : Demand → Option Toml.Key
  | .schemaFiles _ => do
    let (_, schema) ← root.entry? "schema"
    let (key, _) ← schema.entry? "files"
    return key
  | .apiText section_ index name _ => do
    let (_, tables) ← root.entry? section_
    let table ← tables.item? index
    let (key, _) ← table.entry? name
    return key

def check (source : SourceText) (d : Demand) : Except LoadError Unit :=
  if d.Met then .ok () else .error (.invalid source d.cause (keySpan? source.text d.key d.value))

end Demand

def apiDemands (section_ : String) (index : Nat) (apis : List (String × String)) : List Demand :=
  (apis.zipIdx index).flatMap fun ((apiModule, apiName), index) =>
    [.apiText section_ index "api_module" apiModule, .apiText section_ index "api_name" apiName]

/-- Schema files first, then services, then endpoints. -/
def Config.demands (c : Config) : List Demand :=
  .schemaFiles c.files ::
    (apiDemands "services" 0 (c.services.map fun s => (s.apiModule, s.apiName)) ++
      apiDemands "endpoints" 0 (c.endpoints.map fun e => (e.apiModule, e.apiName)))

theorem isBlankText_iff (section_ : String) (index : Nat) (key value : String) :
    isBlankText value = true ↔ ¬ (Demand.apiText section_ index key value).Met := by
  simp [isBlankText, Demand.Met]

theorem requireText_eq (source : SourceText) (section_ : String) (index : Nat)
    (key value : String) : requireText source (section_ ++ "." ++ toString index) key value =
      (Demand.apiText section_ index key value).check source := by
  unfold requireText Demand.check
  by_cases blank : isBlankText value = true
  · rw [if_pos blank, if_neg ((isBlankText_iff section_ index key value).mp blank)]
    rfl
  · rw [if_neg blank, if_pos (not_not.mp (mt (isBlankText_iff section_ index key value).mpr blank))]

theorem requireApi_eq (source : SourceText) (section_ : String) (index : Nat)
    (apis : List (String × String)) :
    requireApi source section_ index apis =
      (apiDemands section_ index apis).forM (·.check source) := by
  induction apis generalizing index with
  | nil => rfl
  | cons api rest ih =>
      simp only [requireApi, requireText_eq, ih]
      rfl

theorem Demand.check_eq_ok_iff {source : SourceText} {d : Demand} :
    d.check source = .ok () ↔ d.Met := by
  unfold check
  split <;> simp [*]

theorem Config.validate_eq (c : Config) (source : SourceText) :
    c.validate source = c.demands.forM (·.check source) := by
  simp only [validate, requireApi_eq]
  cases named : c.files with
  | nil =>
      rw [demands, named]
      rfl
  | cons file rest =>
      have passed : (Demand.schemaFiles (file :: rest)).check source = .ok () :=
        Demand.check_eq_ok_iff.mpr (List.cons_ne_nil file rest)
      rw [demands, named, List.forM_eq_forM, List.forM_cons, passed, List.forM_append]
      rfl

theorem key_of_mem_apiDemands {section_ : String} {index : Nat} {apis : List (String × String)}
    {d : Demand} (asked : d ∈ apiDemands section_ index apis) :
    d.key = "api_module" ∨ d.key = "api_name" := by
  obtain ⟨⟨⟨apiModule, apiName⟩, i⟩, _, asked⟩ := List.mem_flatMap.mp asked
  rcases List.mem_pair.mp asked with rfl | rfl
  · exact .inl rfl
  · exact .inr rfl

theorem Config.visible_key {c : Config} {d : Demand} (asked : d ∈ c.demands) :
    ∃ first more, d.key.toList = first :: more ∧ isBlank first = false := by
  rcases List.mem_cons.mp asked with rfl | ofApi
  · exact ⟨'f', "iles".toList, (by decide : "files".toList = _), by decide⟩
  · have named : d.key = "api_module" ∨ d.key = "api_name" :=
      (List.mem_append.mp ofApi).elim key_of_mem_apiDemands key_of_mem_apiDemands
    rcases named with named | named
    · exact ⟨'a', "pi_module".toList, by rw [named]; decide, by decide⟩
    · exact ⟨'a', "pi_name".toList, by rw [named]; decide, by decide⟩

/-- The text sets the key here, and nothing before reads alike: in double quotes, or else in single
quotes, or else at the start of a line. The length is that of what is found. -/
inductive FirstSetAt (text : List Char) (key value : String) (offset : Nat) : Nat → Prop where
  | quoted {mark : String} (quotes : mark ∈ ["\"", "'"])
      (preferred : mark = "'" → ¬ assignment key value "\"" <:+: text)
      (first : FirstAt text (assignment key value mark) offset) :
      FirstSetAt text key value offset (byteLength (assignment key value mark))
  | line {before after : List (List Char)} {line indent : List Char}
      (absent : Unquoted text key value) (lines : linePieces text = before ++ line :: after)
      (earlier : ∀ other ∈ before, ∀ indent, ¬ AssignsAfter indent key.toList other)
      (assigns : AssignsAfter indent key.toList line)
      (here : offset = byteLength before.flatten + byteLength indent) :
      FirstSetAt text key value offset (byteLength key.toList)

theorem PlaceOf.eq_of_firstSetAt {text : List Char} {key value : String} {first : Char}
    {more : List Char} {place : Option Span} {offset length : Nat}
    (named : key.toList = first :: more) (visible : isBlank first = false)
    (found : PlaceOf text key value place) (set : FirstSetAt text key value offset length) :
    place = some ⟨offset, length⟩ := by
  cases set with
  | quoted quotes preferred least => exact found.eq_of_firstAt quotes preferred least
  | line absent lines earlier assigns here =>
      rw [here]
      exact (PlaceOf.lineStart absent lines earlier assigns).unique named visible found

/-- The first demand that is not met, and the one place that a search for its key and value ends at.
That is the place of the table's own key, when nothing before it reads alike. -/
structure Config.FailsAt (c : Config) (text : List Char) (d : Demand) (place : Option Span) :
    Prop where
  first : ∃ before after, c.demands = before ++ d :: after ∧ ∀ other ∈ before, other.Met
  unmet : ¬ d.Met
  placed : ∀ other, PlaceOf text d.key d.value other ↔ other = place
  within : ∀ span ∈ place, span.offset + span.length ≤ byteLength text
  own : ∀ root key length, Toml.scanDocument? text = some root → d.ownKey? root = some key →
    FirstSetAt text d.key d.value key.span.offset length → place = some ⟨key.span.offset, length⟩

theorem Config.failsAt_keySpan? {c : Config} {text : List Char} {before after : List Demand}
    {d : Demand} (split : c.demands = before ++ d :: after) (earlier : ∀ other ∈ before, other.Met)
    (unmet : ¬ d.Met) : c.FailsAt text d (keySpan? text d.key d.value) := by
  have asked : d ∈ c.demands := split ▸ List.mem_append_right before List.mem_cons_self
  obtain ⟨first, more, named, visible⟩ := Config.visible_key asked
  have placed : PlaceOf text d.key d.value (keySpan? text d.key d.value) :=
    placeOf_keySpan? named visible
  refine ⟨⟨before, after, split, earlier⟩, unmet, ?_, ?_,
    fun _ _ _ _ _ => placed.eq_of_firstSetAt named visible⟩
  · intro other
    exact ⟨fun found => placed.unique named visible found, fun same => same ▸ placed⟩
  · intro span found
    exact PlaceOf.within (found ▸ placed)

/--
A configuration that is well shaped is accepted exactly when nothing in it is empty that must not
be. Otherwise the first such value, in the order of the demands, is told of, with the place where a
search of the text for its key and value ends, which is within the text or none.
-/
theorem invalid_config_placed {source : SourceText} {c : Config}
    (shaped : Toml.readDocument Config.read source.text = .ok c) :
    (Config.ofText source = .ok c ↔ ∀ d ∈ c.demands, d.Met) ∧
    ∀ e, Config.ofText source = .error e →
      ∃ d place, e = .invalid source d.cause place ∧ c.FailsAt source.text d place := by
  have ran : Config.ofText source = (c.demands.forM (·.check source)).map fun _ => c := by
    unfold Config.ofText
    simp only [shaped, c.validate_eq]
    rfl
  rcases forM_outcome (·.check source) c.demands with ⟨done, each⟩ |
    ⟨before, d, after, e, split, each, failed, ended⟩
  · rw [ran, done]
    refine ⟨iff_of_true rfl fun d asked => Demand.check_eq_ok_iff.mp (each d asked), ?_⟩
    intro e failed
    cases failed
  · have unmet : ¬ d.Met := by
      intro met
      rw [Demand.check_eq_ok_iff.mpr met] at failed
      cases failed
    have told : e = .invalid source d.cause (keySpan? source.text d.key d.value) := by
      rw [Demand.check, if_neg unmet] at failed
      exact (Except.error.inj failed).symm
    have asked : d ∈ c.demands := split ▸ List.mem_append_right before List.mem_cons_self
    rw [ran, ended]
    refine ⟨iff_of_false nofun fun met => unmet (met d asked), ?_⟩
    rintro _ ⟨⟩
    exact ⟨d, _, told, Config.failsAt_keySpan? split
      (fun other listed => Demand.check_eq_ok_iff.mp (each other listed)) unmet⟩

theorem shaped_of_invalid {source other : SourceText} {cause : Invalid} {place : Option Span}
    (told : Config.ofText source = .error (.invalid other cause place)) :
    ∃ c, Toml.readDocument Config.read source.text = .ok c := by
  unfold Config.ofText at told
  split at told
  · cases told
  · next c shaped => exact ⟨c, shaped⟩

namespace Sample

def unnamedEndpoints : SourceText where
  name := "schemagen.toml"
  text := ("[schema]\nfiles = [\"a.json\"]\n\n[[endpoints]]\noutput = \"e.ts\"\n" ++
    "api_module = \"m\"\napi_name = \"\"\n").toList

theorem unnamedEndpoints_placed :
    ∃ c d, Toml.readDocument Config.read unnamedEndpoints.text = .ok c ∧
      d.cause = .emptyValue "endpoints.0.api_name" ∧
      c.FailsAt unnamedEndpoints.text d (some ⟨76, 13⟩) := by
  have told : error? (Config.ofText unnamedEndpoints) = some (.invalid unnamedEndpoints
      (.emptyValue "endpoints.0.api_name") (some ⟨76, 13⟩)) := by
    decide +kernel
  have ended := error?_eq_some_iff.mp told
  obtain ⟨c, shaped⟩ := shaped_of_invalid ended
  obtain ⟨d, place, same, fails⟩ := (invalid_config_placed shaped).2 _ ended
  obtain ⟨_, cause, rfl⟩ := LoadError.invalid.inj same
  exact ⟨c, d, shaped, cause.symm, fails⟩

def crampedServices : SourceText where
  name := "schemagen.toml"
  text := ("[schema]\nfiles = [\"a.json\"]\n\n[[services]]\noutput = \"a.ts\"\n" ++
    "api_module = \"m\"\napi_name = \"A\"\n\n[[services]]\noutput = \"b.ts\"\n" ++
    "api_module = \"m\"\napi_name=\"\"\n").toList

/-- The fault is in the second table, and the place that is told is the key of the first. -/
theorem crampedServices_misplaced :
    ∃ root own other, Toml.scanDocument? crampedServices.text = some root ∧
      (Demand.apiText "services" 1 "api_name" "").ownKey? root = some own ∧
      (Demand.apiText "services" 0 "api_name" "A").ownKey? root = some other ∧
      Config.ofText crampedServices = .error (.invalid crampedServices
        (.emptyValue "services.1.api_name") (some other.span)) ∧
      other.span.offset + other.span.length < own.span.offset := by
  have keys : (Toml.scanDocument? crampedServices.text).map (fun root =>
      ((Demand.apiText "services" 1 "api_name" "").ownKey? root,
        (Demand.apiText "services" 0 "api_name" "A").ownKey? root)) =
      some (some ⟨"api_name", ⟨137, 8⟩⟩, some ⟨"api_name", ⟨75, 8⟩⟩) := by
    decide +kernel
  have told : error? (Config.ofText crampedServices) = some (.invalid crampedServices
      (.emptyValue "services.1.api_name") (some ⟨75, 8⟩)) := by
    decide +kernel
  obtain ⟨root, scanned, pair⟩ := Option.map_eq_some_iff.mp keys
  obtain ⟨own, other⟩ := Prod.mk.inj pair
  exact ⟨root, _, _, scanned, own, other, error?_eq_some_iff.mp told, by decide⟩

end Sample

end SchemaBindings
