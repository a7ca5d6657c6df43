import SchemaBindings.Proofs.Artifact.ClientEndpoints
import SchemaBindings.Proofs.Artifact.TableColumns
import SchemaBindings.Proofs.Layout.Comments

/-!
Documentation in a client. What is written for the API stands above the class, what is written for a
request above its slot and again above its method, each in a comment of its own. Line feeds are
folded and blanks at the ends cut off, but nothing in the text is escaped, so the comments are
closed at their ends alone exactly when no text that is written holds a terminator.
-/

namespace SchemaBindings

namespace Text

variable {p cs : List Char}

theorem infix_dropWhile_iff {blank : Char → Bool} (nonempty : p ≠ [])
    (visible : ∀ c ∈ p, blank c = false) : p <:+: cs.dropWhile blank ↔ p <:+: cs := by
  induction cs with
  | nil => rfl
  | cons c rest ih =>
      cases passed : blank c with
      | false => rw [List.dropWhile_cons_of_neg (by simp [passed])]
      | true =>
          have apart : ¬ p <+: c :: rest := by
            rintro ⟨after, same⟩
            cases p with
            | nil => exact nonempty rfl
            | cons d more =>
                obtain ⟨rfl, _⟩ := List.cons.inj same
                exact absurd passed (by simp [visible d List.mem_cons_self])
          rw [List.dropWhile_cons_of_pos passed, ih, List.infix_cons_iff, or_iff_right apart]

theorem infix_trim_iff (nonempty : p ≠ []) (visible : ∀ c ∈ p, isBlank c = false) :
    p <:+: trim cs ↔ p <:+: cs := by
  have backwards : ∀ c ∈ p.reverse, isBlank c = false := by
    intro c member
    exact visible c (List.mem_reverse.mp member)
  rw [trim, trimEnd, trimStart, ← List.reverse_infix, List.reverse_reverse,
    infix_dropWhile_iff (by simpa using nonempty) backwards, List.reverse_infix,
    infix_dropWhile_iff nonempty visible]

/-- What comes of itself alone stands in a mapped text where it stands in the text. -/
theorem infix_map_iff {f : Char → Char} (alone : ∀ c ∈ p, ∀ d, f d = c ↔ d = c) :
    p <:+: cs.map f ↔ p <:+: cs := by
  have unmapped {ds : List Char} (within : ∀ d ∈ ds, f d ∈ p) : ds.map f = ds := by
    have each : ∀ d ∈ ds, f d = id d := fun d member =>
      ((alone (f d) (within d member) d).mp rfl).symm
    rw [List.map_congr_left each, List.map_id]
  constructor
  · rintro ⟨before, after, split⟩
    obtain ⟨front, _, rfl, mapped, _⟩ := List.map_eq_append_iff.mp split.symm
    obtain ⟨start, middle, rfl, _, rfl⟩ := List.map_eq_append_iff.mp mapped
    rw [unmapped fun d member => List.mem_map_of_mem member]
    exact ⟨start, _, rfl⟩
  · intro inside
    have same : p.map f = p := unmapped fun d member => ((alone d member d).mpr rfl).symm ▸ member
    exact same ▸ inside.map f

theorem mem_of_mem_trim {c : Char} (member : c ∈ trim cs) : c ∈ cs := by
  have later := List.dropWhile_subset _ (List.mem_reverse.mp member)
  exact List.dropWhile_subset _ (List.mem_reverse.mp later)

end Text

/-! ### Documentation of annotated items -/

theorem toList_docText (raw : String) :
    (docText raw).toList = Text.trim (raw.toList.map fun c => if c = '\n' then ' ' else c) :=
  String.toList_ofList

theorem newline_notMem_docText (raw : String) : '\n' ∉ (docText raw).toList := by
  intro member
  rw [toList_docText] at member
  obtain ⟨c, _, folded⟩ := List.mem_map.mp (Text.mem_of_mem_trim member)
  split at folded
  · cases folded
  · next kept => exact kept folded

theorem terminator_docText_iff (raw : String) :
    "*/".toList <:+: (docText raw).toList ↔ "*/".toList <:+: raw.toList := by
  have visible : ∀ c ∈ "*/".toList, Text.isBlank c = false := by
    intro c member
    rcases List.mem_pair.mp member with rfl | rfl <;> rfl
  rw [toList_docText, Text.infix_trim_iff (by decide) visible]
  refine Text.infix_map_iff fun c member d => ?_
  -- Folding turns a blank into a blank, and there is none in a terminator.
  have seen := visible c member
  split
  · next feed =>
      subst feed
      refine iff_of_false ?_ ?_ <;> rintro rfl <;> cases seen
  · rfl

/-- What is written of an item: the text of its first `Doc` annotation, unless that is blank. -/
def writtenDoc? (annotations : List Annotation) : Option String :=
  match findAnnotation? docMark.key annotations with
  | some (.string raw) => if (docText raw).isEmpty then none else some raw
  | _ => none

theorem docComment?_eq {annotations : List Annotation} {target : String} {doc : Option String}
    (done : docComment? annotations target = .ok doc) :
    doc = (writtenDoc? annotations).map docText := by
  unfold docComment? Mark.get? at done
  unfold writtenDoc?
  cases found : findAnnotation? docMark.key annotations with
  | none =>
      rw [found] at done
      cases done
      rfl
  | some value =>
      rw [found] at done
      cases value with
      | string raw =>
          have made : doc = if (docText raw).isEmpty then none else some (docText raw) :=
            (Except.ok.inj done).symm
          change doc = (if (docText raw).isEmpty then none else some raw).map docText
          rw [made]
          split <;> rfl
      | _ => cases done

/-! ### Comments of a client -/

theorem Schema.doc_of_api {s : Schema} {name : ScopedName} {api : Api} {decl : Decl}
    (loaded : s.api name = .ok api) (found : s.get? name = some decl) :
    api.doc = (writtenDoc? decl.annotations).map docText := by
  simp only [Schema.api, found] at loaded
  split at loaded
  · obtain ⟨_, _, loaded⟩ := bind_eq_ok_iff.mp loaded
    obtain ⟨doc, written, made⟩ := bind_eq_ok_iff.mp loaded
    cases made
    exact docComment?_eq written
  · cases loaded

theorem doc_of_loadEntry {e : Expander} {owner : ScopedName} {field : Field} {entry : ApiEntry}
    (loaded : loadEntry e owner field = .ok entry) :
    entry.doc = (writtenDoc? field.annotations).map docText := by
  obtain ⟨_, _, loaded⟩ := bind_eq_ok_iff.mp loaded
  obtain ⟨_, _, loaded⟩ := bind_eq_ok_iff.mp loaded
  obtain ⟨doc, written, made⟩ := bind_eq_ok_iff.mp loaded
  cases made
  exact docComment?_eq written

namespace ClientGenerator

variable {g : ClientGenerator} {entry : ApiEntry} {part : List Line}

theorem comments_slot (slotted : IsSlot entry part) :
    part.filter Line.isComment = (entry.doc.map (commentLine 1)).toList := by
  obtain ⟨_, _, _, _, rfl⟩ := slotted
  rw [List.filter_append, filter_comment]
  simp [Line.isComment, List.isPrefixOf]

theorem comments_initializer (initialized : IsInitializer entry part) :
    part.filter Line.isComment = [] := by
  obtain ⟨_, _, rfl⟩ := initialized
  simp [Line.isComment, List.isPrefixOf]

theorem comments_method (called : IsMethod entry part) :
    part.filter Line.isComment = (entry.doc.map (commentLine 1)).toList := by
  obtain ⟨_, _, _, _, rfl⟩ := called
  rw [List.cons_append, List.filter_cons_of_neg (by decide), List.filter_append, filter_comment]
  simp [Line.isComment, List.isPrefixOf]

theorem comments_lines (api : Api) (modules : List ModuleImport) (scopedName maker : String)
    (slots initializers methods : List Line) :
    (g.lines api modules scopedName maker slots initializers methods).filter Line.isComment =
      (api.doc.map (commentLine 0)).toList ++ slots.filter Line.isComment ++
        Fragment.comments [.indent [.indent constructorArguments]] ++
        initializers.filter Line.isComment ++ methods.filter Line.isComment := by
  have imports : (modules.map (ModuleImport.line g.importPrefix)).filter Line.isComment = [] := by
    simp [List.filter_eq_nil_iff, ModuleImport.line, Line.isComment, List.isPrefixOf]
  have fixed : libraryLines.filter Line.isComment = [] := by decide
  simp only [lines, List.cons_append, List.filter_cons, List.filter_append, imports, fixed,
    filter_comment, Fragment.comments]
  simp [Line.isComment, List.isPrefixOf]

end ClientGenerator

theorem comments_of_forall₂ {p : ApiEntry → List Line → Prop} {f : ApiEntry → Option Line}
    {requests : List ApiEntry} {parts : List (List Line)} (each : List.Forall₂ p requests parts)
    (step : ∀ {entry part}, p entry part →
      part.filter Line.isComment = (f entry).toList) :
    parts.flatten.filter Line.isComment = requests.filterMap f := by
  induction each with
  | nil => rfl
  | @cons entry part _ _ first _ ih =>
      rw [List.flatten_cons, List.filter_append, step first, ih, List.filterMap_cons]
      cases f entry <;> rfl

def requestDocs (requests : List Field) : List String :=
  requests.filterMap (writtenDoc? ·.annotations)

/-- The comments of a client for the requests of an API: those of its members are in a class, those
of the arguments one level deeper, and those of the requests are given twice. -/
def clientComments (decl : Decl) (requests : List Field) : List Line :=
  let members := (requestDocs requests).map fun raw => commentLine 1 (docText raw)
  ((writtenDoc? decl.annotations).map fun raw => commentLine 0 (docText raw)).toList ++ members ++
    Fragment.comments [.indent [.indent constructorArguments]] ++ members

namespace ClientGenerator

/-- The lines of a client and the fields of the API, declared by `decl`, that it has requests for.
The comments among the lines are those of their documentation and of the constructor. -/
structure Documents (g : ClientGenerator) (s : Schema) (a : Artifact) (decl : Decl)
    (requests : List Field) (lines : List Line) : Prop where
  declared : s.get? g.api = some decl
  taken : ∃ api fields, s.api g.api = .ok api ∧ decl.body = .struct [] fields ∧
    requests.Sublist fields ∧ requests.mapM (loadEntry ⟨s.get?, .nominal⟩ g.api) = .ok api.requests
  content : a.content = linesText .typescript 0 lines
  comments : lines.filter Line.isComment = clientComments decl requests

theorem requestComments_eq {entries : List ApiEntry} {requests : List Field}
    (docs : entries.map (·.doc) =
      requests.map fun field => (writtenDoc? field.annotations).map docText) :
    (entries.filterMap fun entry => entry.doc.map (commentLine 1)) =
      (requestDocs requests).map fun raw => commentLine 1 (docText raw) := by
  calc (entries.filterMap fun entry => entry.doc.map (commentLine 1))
      = (entries.map (·.doc)).filterMap (Option.map (commentLine 1)) := by
        rw [List.filterMap_map]
        rfl
    _ = (requestDocs requests).map fun raw => commentLine 1 (docText raw) := by
        rw [docs, List.filterMap_map, requestDocs, List.map_filterMap]
        exact List.filterMap_congr fun field _ => Option.map_map ..

theorem documents_of_generate {g : ClientGenerator} {s : Schema} {a : Artifact}
    (made : g.generate s = .ok a) : ∃ decl requests lines, g.Documents s a decl requests lines := by
  obtain ⟨api, loaded, _⟩ := bind_eq_ok_iff.mp made
  obtain ⟨decl, fields, found, shaped, _, each⟩ := Schema.exists_of_api loaded
  obtain ⟨requests, within, taken⟩ := exists_sublist_of_mapM each (·.http.isSome)
  obtain ⟨_, modules, parts, _⟩ := madeOf_of_generate loaded made
  obtain ⟨slots, initializers, methods, scopedName, maker, areSlots, areInitializers, areMethods,
    content⟩ := parts
  refine ⟨decl, requests, _, found, ⟨api, fields, loaded, shaped, within, taken⟩, content, ?_⟩
  have docs : api.requests.map (·.doc) =
      requests.map fun field => (writtenDoc? field.annotations).map docText :=
    map_eq_of_mapM taken fun _ _ => doc_of_loadEntry
  have silent : initializers.flatten.filter Line.isComment = [] := by
    rw [comments_of_forall₂ (f := fun _ => none) areInitializers comments_initializer,
      List.filterMap_none]
  rw [comments_lines, comments_of_forall₂ areSlots comments_slot, silent,
    comments_of_forall₂ areMethods comments_method, requestComments_eq docs,
    Schema.doc_of_api loaded found, clientComments, Option.map_map, List.append_nil]
  rfl

end ClientGenerator

/-- A text that ends neither the comment nor the line on which it is written. -/
def StaysInside (raw : String) : Prop :=
  ¬ "*/".toList <:+: raw.toList ∧ KeepsLine (docText raw).toList

theorem isSingle_docText_iff (depth : Nat) (raw : String) :
    (commentLine depth (docText raw)).IsSingle ↔ StaysInside raw := by
  rw [StaysInside, ← terminator_docText_iff]
  exact isSingleComment_iff (docText raw)

def constructorDocs : List String :=
  ["Fetcher over HTTP", "Base URL of the API endpoints", "Resolver for ADL types",
   "fn to get an auth token",
   "Error handler to allow for cross cutting concerns, e.g. authorization errors"]

theorem constructorComments_eq :
    Fragment.comments [.indent [.indent constructorArguments]] =
      constructorDocs.map (commentLine 2) := by
  decide +kernel

theorem isSingle_constructorComments {line : Line}
    (member : line ∈ Fragment.comments [.indent [.indent constructorArguments]]) :
    line.IsSingle := by
  rw [constructorComments_eq] at member
  obtain ⟨doc, listed, rfl⟩ := List.mem_map.mp member
  have plain : ∀ doc ∈ constructorDocs, ¬ "*/".toList <:+: doc.toList ∧ KeepsLine doc.toList := by
    decide +kernel
  exact (isSingleComment_iff doc).mpr (plain doc listed)

def clientDocs (decl : Decl) (requests : List Field) : List String :=
  (writtenDoc? decl.annotations).toList ++ requestDocs requests

theorem newline_notMem_docComment {depth nested : Nat} {raw text : String}
    (same : commentLine nested (docText raw) = .nested depth text) : '\n' ∉ text.toList := by
  cases same
  intro member
  rcases mem_commentText.mp member with mark | inside
  · exact absurd mark (by decide)
  · exact newline_notMem_docText raw inside

theorem mem_clientComments {decl : Decl} {requests : List Field} {line : Line} :
    line ∈ clientComments decl requests ↔
      line ∈ Fragment.comments [.indent [.indent constructorArguments]] ∨
      (∃ raw, writtenDoc? decl.annotations = some raw ∧ commentLine 0 (docText raw) = line) ∨
      ∃ raw ∈ requestDocs requests, commentLine 1 (docText raw) = line := by
  simp only [clientComments, List.mem_append, List.mem_map, Option.mem_toList,
    Option.map_eq_some_iff]
  constructor
  · rintro (((own | ofRequest) | fixed) | ofRequest)
    · exact .inr (.inl own)
    · exact .inr (.inr ofRequest)
    · exact .inl fixed
    · exact .inr (.inr ofRequest)
  · rintro (fixed | own | ofRequest)
    · exact .inl (.inr fixed)
    · exact .inl (.inl (.inl own))
    · exact .inr ofRequest

/--
The comments of a client are those of the API, of its requests, each twice, and of the constructor,
and no line feed stands in one. All of them are closed at their ends alone and keep to one line
exactly when each text that is written does not end its comment or its line.
-/
theorem client_comments_single_iff {g : ClientGenerator} {s : Schema} {a : Artifact}
    (made : g.generate s = .ok a) :
    ∃ decl requests lines, g.Documents s a decl requests lines ∧
      (∀ depth text, Line.nested depth text ∈ lines.filter Line.isComment →
        '\n' ∉ text.toList) ∧
      ((∀ line ∈ lines.filter Line.isComment, line.IsSingle) ↔
        ∀ raw ∈ clientDocs decl requests, StaysInside raw) := by
  obtain ⟨decl, requests, lines, documents⟩ := ClientGenerator.documents_of_generate made
  refine ⟨decl, requests, lines, documents, ?_, ?_⟩
  · intro depth text member
    rw [documents.comments] at member
    rcases mem_clientComments.mp member with fixed | ⟨raw, _, same⟩ | ⟨raw, _, same⟩
    · intro feed
      exact (isSingle_constructorComments fixed).oneLine '\n' feed (.inl rfl)
    · exact newline_notMem_docComment same
    · exact newline_notMem_docComment same
  · rw [documents.comments]
    constructor
    · intro single raw written
      rcases List.mem_append.mp written with own | ofRequest
      · exact (isSingle_docText_iff 0 raw).mp (single _ (mem_clientComments.mpr
          (.inr (.inl ⟨raw, Option.mem_toList.mp own, rfl⟩))))
      · exact (isSingle_docText_iff 1 raw).mp (single _ (mem_clientComments.mpr
          (.inr (.inr ⟨raw, ofRequest, rfl⟩))))
    · intro inside line member
      rcases mem_clientComments.mp member with fixed | ⟨raw, own, rfl⟩ | ⟨raw, ofRequest, rfl⟩
      · exact isSingle_constructorComments fixed
      · exact (isSingle_docText_iff 0 raw).mpr
          (inside raw (List.mem_append_left _ (Option.mem_toList.mpr own)))
      · exact (isSingle_docText_iff 1 raw).mpr (inside raw (List.mem_append_right _ ofRequest))

namespace Sample

theorem protoapp_comments :
    ∃ a decl requests lines, scatteredClient.generate protoapp = .ok a ∧
      scatteredClient.Documents protoapp a decl requests lines ∧
      (∀ depth text, Line.nested depth text ∈ lines.filter Line.isComment →
        '\n' ∉ text.toList) ∧
      ((∀ line ∈ lines.filter Line.isComment, line.IsSingle) ↔
        ∀ raw ∈ clientDocs decl requests, StaysInside raw) := by
  have done : error? (scatteredClient.generate protoapp) = none := by decide +kernel
  obtain ⟨a, made⟩ := error?_eq_none_iff.mp done
  obtain ⟨decl, requests, lines, told⟩ := client_comments_single_iff made
  exact ⟨a, decl, requests, lines, made, told⟩

def escaping : Schema :=
  withApiEntries protoapp
    [documented (entry "ping" (get (prim "Void")) "/ping" (.string "public"))
      "Pings */ static seen = alert(1); /* the server"]

/-- What is written between the two is a member of the class. -/
theorem escaping_comments :
    ∃ a decl requests lines, scatteredClient.generate escaping = .ok a ∧
      scatteredClient.Documents escaping a decl requests lines ∧
      Line.nested 1 "/** Pings */ static seen = alert(1); /* the server */" ∈
        lines.filter Line.isComment ∧
      ¬ IsSingleComment "/** Pings */ static seen = alert(1); /* the server */" := by
  have done : error? (scatteredClient.generate escaping) = none := by decide +kernel
  obtain ⟨a, made⟩ := error?_eq_none_iff.mp done
  obtain ⟨decl, requests, lines, documents⟩ := ClientGenerator.documents_of_generate made
  obtain ⟨api, _, loaded, _, _, taken⟩ := documents.taken
  have written : (escaping.api scatteredClient.api).toOption.map
      (fun api => api.requests.map (·.doc)) =
      some [some "Pings */ static seen = alert(1); /* the server"] := by
    decide +kernel
  have docs : api.requests.map (·.doc) =
      requests.map fun field => (writtenDoc? field.annotations).map docText :=
    map_eq_of_mapM taken fun _ _ => doc_of_loadEntry
  have text : "/** Pings */ static seen = alert(1); /* the server */" =
      commentText "Pings */ static seen = alert(1); /* the server" := by decide
  rw [loaded] at written
  obtain ⟨ping, rfl, doc⟩ :=
    List.map_eq_singleton_iff.mp (docs.symm.trans (Option.some.inj written))
  obtain ⟨raw, found, folded⟩ := Option.map_eq_some_iff.mp doc
  have listed : raw ∈ requestDocs [ping] := by simp [requestDocs, found]
  have member : commentLine 1 (docText raw) ∈ lines.filter Line.isComment :=
    documents.comments ▸ mem_clientComments.mpr (.inr (.inr ⟨raw, listed, rfl⟩))
  rw [folded, commentLine, ← text] at member
  refine ⟨a, decl, [ping], lines, made, documents, member, ?_⟩
  rw [text, isSingleComment_iff]
  decide +kernel

end Sample

end SchemaBindings
