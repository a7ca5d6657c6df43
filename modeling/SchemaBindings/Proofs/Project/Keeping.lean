import SchemaBindings.Proofs.Project.Walking

/-!
What operations on a file tree leave alone. Directories stay directories, and files stay as they
are but for the one that is written, whether the operation succeeds or stops half way.
-/

namespace SchemaBindings.FileTree

/-- A file is the same file afterwards, and a directory is still a directory. -/
inductive Stays : FileTree → FileTree → Prop where
  | file (content : FileContent) : Stays (.file content) (.file content)
  | directory (before after : FileEntries) : Stays (.directory before) (.directory after)

namespace Stays

theorem refl (t : FileTree) : t.Stays t := by
  cases t with
  | file content => exact .file content
  | directory entries => exact .directory entries entries

theorem trans {t u v : FileTree} (first : t.Stays u) (second : u.Stays v) : t.Stays v := by
  cases first with
  | file content => exact second
  | directory before after =>
      cases second with
      | directory _ last => exact .directory before last

end Stays

/-- Whatever was in `t` is still in `u`, except for files whose names are not `kept`. -/
def Keeps (kept : List String → Prop) (t u : FileTree) : Prop :=
  ∀ names node, at? names t = some node → (t.DirectoryAt names ∨ kept names) →
    ∃ after, at? names u = some after ∧ node.Stays after

theorem lookup_cons_other {name other : String} (different : other ≠ name) (t : FileTree)
    (entries : FileEntries) : List.lookup other ((name, t) :: entries) = entries.lookup other := by
  rw [List.lookup_cons, beq_false_of_ne different]

theorem lookup_setEntry_self (name : String) (t : FileTree) (entries : FileEntries) :
    (setEntry name t entries).lookup name = some t := by
  induction entries with
  | nil => exact List.lookup_cons_self
  | cons entry rest ih =>
      rcases entry with ⟨first, u⟩
      by_cases here : first = name
      · rw [setEntry, if_pos here]
        exact List.lookup_cons_self
      · rw [setEntry, if_neg here, lookup_cons_other (Ne.symm here)]
        exact ih

theorem lookup_setEntry_other {name other : String} (different : other ≠ name) (t : FileTree)
    (entries : FileEntries) : (setEntry name t entries).lookup other = entries.lookup other := by
  induction entries with
  | nil => exact lookup_cons_other different t []
  | cons entry rest ih =>
      rcases entry with ⟨first, u⟩
      by_cases here : first = name
      · subst here
        rw [setEntry, if_pos rfl, lookup_cons_other different, lookup_cons_other different]
      · rw [setEntry, if_neg here, List.lookup_cons, List.lookup_cons, ih]

theorem at?_put {t : FileTree} {above : List String} (stands : t.DirectoryAt above)
    (name : String) (node : FileTree) :
    at? (above ++ [name]) (put (above ++ [name]) node t) = some node := by
  induction above generalizing t with
  | nil =>
      obtain ⟨children, rfl⟩ := directoryAt_nil.mp stands
      rw [List.nil_append, put, at?_directory, lookup_setEntry_self]
      rfl
  | cons top rest ih =>
      obtain ⟨children, child, rfl, there, below⟩ := directoryAt_cons.mp stands
      rw [List.cons_append, put, at?_directory, lookup_setEntry_self, there]
      exact ih below

theorem setEntry_stays {children : FileEntries} {names : List String} {old : FileTree}
    (found : at? names (.directory children) = some old) (name : String) {node : FileTree}
    (below : ∀ rest child, names = name :: rest → children.lookup name = some child →
      at? rest child = some old → ∃ after, at? rest node = some after ∧ old.Stays after) :
    ∃ after, at? names (.directory (setEntry name node children)) = some after ∧
      old.Stays after := by
  cases names with
  | nil =>
      cases found
      exact ⟨_, rfl, .directory _ _⟩
  | cons first rest =>
      by_cases here : first = name
      · subst here
        obtain ⟨child, there, inner⟩ := Option.bind_eq_some_iff.mp found
        rw [at?_directory, lookup_setEntry_self]
        exact below rest child rfl there inner
      · rw [at?_directory] at found
        rw [at?_directory, lookup_setEntry_other here, found]
        exact ⟨old, rfl, .refl old⟩

/-- Nothing else is lost where a node is put in place of a file or of nothing. -/
theorem put_stays {t : FileTree} {above : List String} (stands : t.DirectoryAt above)
    {name : String} (free : ¬ t.DirectoryAt (above ++ [name])) (node : FileTree)
    {names : List String} {old : FileTree} (found : at? names t = some old)
    (elsewhere : names ≠ above ++ [name]) :
    ∃ after, at? names (put (above ++ [name]) node t) = some after ∧ old.Stays after := by
  induction above generalizing t names with
  | nil =>
      obtain ⟨children, rfl⟩ := directoryAt_nil.mp stands
      refine setEntry_stays found name ?_
      rintro rest child rfl there inner
      -- What was at the name is no directory, so nothing was below it.
      cases child with
      | directory entries =>
          exact absurd (directoryAt_cons.mpr ⟨children, _, rfl, there, entries, rfl⟩) free
      | file content =>
          cases rest with
          | nil => exact absurd rfl elsewhere
          | cons next more => cases inner
  | cons top rest ih =>
      obtain ⟨children, child, rfl, there, below⟩ := directoryAt_cons.mp stands
      rw [List.cons_append, put, there]
      refine setEntry_stays found top ?_
      rintro others same rfl again inner
      obtain rfl : child = same := Option.some.inj (there.symm.trans again)
      have freeBelow : ¬ child.DirectoryAt (rest ++ [name]) := by
        intro occupied
        exact free (directoryAt_cons.mpr ⟨children, child, rfl, there, occupied⟩)
      have elsewhereBelow : others ≠ rest ++ [name] := by
        rintro rfl
        exact elsewhere rfl
      exact ih below freeBelow inner elsewhereBelow

namespace Keeps

variable {kept : List String → Prop} {t u v : FileTree}

theorem refl (t : FileTree) : Keeps kept t t :=
  fun _ node found _ => ⟨node, found, .refl node⟩

theorem directoryAt (keeps : Keeps kept t u) {names : List String}
    (stands : t.DirectoryAt names) : u.DirectoryAt names := by
  obtain ⟨entries, found⟩ := stands
  obtain ⟨after, there, stays⟩ := keeps names _ found (.inl ⟨entries, found⟩)
  cases stays with
  | directory _ later => exact ⟨later, there⟩

theorem fileAt (keeps : Keeps kept t u) {names : List String} (spared : kept names)
    {content : FileContent} (found : at? names t = some (.file content)) :
    at? names u = some (.file content) := by
  obtain ⟨after, there, stays⟩ := keeps names _ found (.inr spared)
  cases stays with
  | file _ => exact there

theorem trans (first : Keeps kept t u) (second : Keeps kept u v) : Keeps kept t v := by
  intro names node found spared
  obtain ⟨middle, there, stays⟩ := first names node found spared
  have stillSpared : u.DirectoryAt names ∨ kept names := spared.imp_left first.directoryAt
  obtain ⟨last, still, staysOn⟩ := second names middle there stillSpared
  exact ⟨last, still, stays.trans staysOn⟩

theorem mono {fewer : List String → Prop} (keeps : Keeps kept t u)
    (included : ∀ names, fewer names → kept names) : Keeps fewer t u :=
  fun names node found spared => keeps names node found (spared.imp_right (included names))

theorem walk (keeps : Keeps kept t u) {visited names : List String} {components : List String}
    (walked : components.foldlM t.step visited = .ok names) :
    components.foldlM u.step visited = .ok names := by
  induction components generalizing visited with
  | nil => exact walked
  | cons name rest ih =>
      obtain ⟨next, first, walked⟩ := bind_eq_ok_iff.mp walked
      have stands := (step_eq_ok first).1
      rw [step_eq_step stands (keeps.directoryAt stands)] at first
      exact bind_eq_ok_iff.mpr ⟨next, first, ih walked⟩

theorem locate (keeps : Keeps kept t u) {path : String} {names : List String}
    (located : t.locate path = .ok names) : u.locate path = .ok names := by
  unfold FileTree.locate at located ⊢
  split at located
  · cases located
  · rw [if_neg ‹_›]
    split at located
    · cases located
    · rw [if_neg ‹_›]
      split at located
      · cases located
      · rw [if_neg ‹_›]
        exact keeps.walk located

end Keeps

theorem put_keeps {t : FileTree} {path : String} {names : List String}
    (located : t.locate path = .ok names) (free : ¬ t.DirectoryAt names) (node : FileTree) :
    Keeps (· ≠ names) t (put names node t) ∧ at? names (put names node t) = some node := by
  rcases directoryAt_of_locate located with stands | rfl | ⟨above, last, rfl, stands⟩
  · exact absurd stands free
  · -- The path is the root, which is no directory, so there is nothing below it to keep.
    refine ⟨?_, rfl⟩
    intro names old found spared
    cases names with
    | nil => exact (spared.elim free (absurd rfl ·)).elim
    | cons name rest =>
        cases t with
        | file content => cases found
        | directory entries => exact absurd ⟨entries, rfl⟩ free
  · refine ⟨?_, at?_put stands last node⟩
    intro names old found spared
    refine put_stays stands free node found ?_
    rcases spared with occupied | different
    · rintro rfl
      exact free occupied
    · exact different

theorem makeDirectory_keeps {t made : FileTree} {path : String}
    (done : t.makeDirectory path = .ok made) : Keeps (fun _ => True) t made := by
  obtain ⟨names, located, done⟩ := bind_eq_ok_iff.mp done
  split at done
  · cases done
  · rename_i absent
    cases done
    have free : ¬ t.DirectoryAt names := by
      rintro ⟨entries, found⟩
      rw [absent] at found
      cases found
    intro other node found _
    refine (put_keeps located free (.directory [])).1 other node found (.inr ?_)
    rintro rfl
    rw [absent] at found
    cases found

theorem ensureDirectory_keeps (t : FileTree) (path : String) :
    Keeps (fun _ => True) t (t.ensureDirectory path).1 := by
  unfold ensureDirectory
  split
  · rename_i made done
    exact makeDirectory_keeps done
  · exact .refl t

theorem makeDirectories_keeps (fuel : Nat) (t : FileTree) (path : String) :
    Keeps (fun _ => True) t (makeDirectories fuel t path).1 := by
  induction fuel generalizing t path with
  | zero => exact .refl t
  | succ fuel ih =>
      unfold makeDirectories
      split
      · exact .refl t
      · split
        · -- What the call for the directories above leaves is kept even if that call fails.
          rename_i above _ _
          have before := ih t above
          split
          · rename_i made done
            rw [done] at before
            exact before.trans (ensureDirectory_keeps made path)
          · rename_i made fault done
            rw [done] at before
            exact before
        · exact ensureDirectory_keeps t path

theorem read_eq_ok {t : FileTree} {path content : String} :
    t.read path = .ok content ↔
      ∃ names, t.locate path = .ok names ∧ endsInSlash path = false ∧
        at? names t = some (.file (.text content)) := by
  constructor
  · intro done
    obtain ⟨found, opened, done⟩ := bind_eq_ok_iff.mp done
    obtain ⟨names, located, opened⟩ := bind_eq_ok_iff.mp opened
    refine ⟨names, located, ?_⟩
    split at opened
    · cases opened
    · rename_i there
      split at opened
      · cases opened
      · rename_i plain
        cases opened
        split at done
        · cases done
          exact ⟨by simpa [isDirectory] using plain, there⟩
        · cases done
        · cases done
  · rintro ⟨names, located, plain, there⟩
    have opened : t.node path = .ok (.file (.text content)) := by
      rw [node, located]
      simp [bind, Except.bind, there, plain]
      rfl
    rw [read, opened]
    rfl

theorem Keeps.read {kept : List String → Prop} {t u : FileTree} (keeps : Keeps kept t u)
    {path content : String} (there : t.read path = .ok content)
    (spared : ∀ names, t.locate path = .ok names → kept names) : u.read path = .ok content := by
  obtain ⟨names, located, plain, found⟩ := read_eq_ok.mp there
  exact read_eq_ok.mpr
    ⟨names, keeps.locate located, plain, keeps.fileAt (spared names located) found⟩

theorem writeContent_keeps {t written : FileTree} {path : String} {content : FileContent}
    (done : t.writeContent path content = .ok written) :
    ∃ names, t.locate path = .ok names ∧ Keeps (· ≠ names) t written ∧
      endsInSlash path = false ∧ at? names written = some (.file content) := by
  obtain ⟨names, located, done⟩ := bind_eq_ok_iff.mp done
  cases slash : endsInSlash path with
  | true =>
      rw [slash] at done
      cases done
  | false =>
      simp only [slash, Bool.false_eq_true, if_false] at done
      split at done
      · cases done
      · rename_i noDirectory
        cases done
        have free : ¬ t.DirectoryAt names := by
          rintro ⟨entries, found⟩
          exact noDirectory entries found
        obtain ⟨keeps, placed⟩ := put_keeps located free (.file content)
        exact ⟨names, located, keeps, rfl, placed⟩

/-- The tree with the directories of a file made. -/
def prepared (t : FileTree) (path : String) : FileTree × Except FileFault Unit :=
  match Path.parent? path with
  | none => (t, .ok ())
  | some above => makeDirectories (path.length + 1) t above

theorem prepared_keeps (t : FileTree) (path : String) :
    Keeps (fun _ => True) t (t.prepared path).1 := by
  unfold prepared
  split
  · exact .refl t
  · exact makeDirectories_keeps _ t _

theorem writeFile_eq (t : FileTree) (path : String) (content : FileContent) :
    t.writeFile path content =
      match (t.prepared path).2 with
      | .error fault => ((t.prepared path).1, .error fault)
      | .ok () =>
        match (t.prepared path).1.writeContent path content with
        | .ok written => (written, .ok ())
        | .error fault => ((t.prepared path).1, .error fault) := rfl

theorem writeFile_of_unprepared {t made : FileTree} {path : String} {fault : FileFault}
    (failed : t.prepared path = (made, .error fault)) (content : FileContent) :
    t.writeFile path content = (made, .error fault) := by
  rw [writeFile_eq, failed]

theorem writeFile_of_prepared {t made : FileTree} {path : String}
    (ready : t.prepared path = (made, .ok ())) (content : FileContent) :
    t.writeFile path content =
      match made.writeContent path content with
      | .ok written => (written, .ok ())
      | .error fault => (made, .error fault) := by
  rw [writeFile_eq, ready]

theorem writeFile_cases (t : FileTree) (path : String) (content : FileContent) :
    ∃ made, Keeps (fun _ => True) t made ∧
      ((∃ fault, t.writeFile path content = (made, .error fault)) ∨
        ∃ written, made.writeContent path content = .ok written ∧
          t.writeFile path content = (written, .ok ())) := by
  have keeps := t.prepared_keeps path
  rcases ready : t.prepared path with ⟨made, fault | _⟩
  · rw [ready] at keeps
    exact ⟨made, keeps, .inl ⟨fault, writeFile_of_unprepared ready content⟩⟩
  · rw [ready] at keeps
    refine ⟨made, keeps, ?_⟩
    rw [writeFile_of_prepared ready]
    cases made.writeContent path content with
    | error fault => exact .inl ⟨fault, rfl⟩
    | ok written => exact .inr ⟨written, rfl, rfl⟩

/-- Only a file to which the path leads afterwards can have changed, whether writing succeeds or
not. -/
theorem writeFile_keeps (t : FileTree) (path : String) (content : FileContent) :
    Keeps (fun names => (t.writeFile path content).1.locate path ≠ .ok names) t
      (t.writeFile path content).1 := by
  obtain ⟨made, prepared, ⟨fault, failed⟩ | ⟨written, done, finished⟩⟩ :=
    writeFile_cases t path content
  · rw [failed]
    exact prepared.mono fun _ _ => trivial
  · rw [finished]
    obtain ⟨names, located, keeps, _, _⟩ := writeContent_keeps done
    refine (prepared.mono fun _ _ => trivial).trans (keeps.mono ?_)
    rintro other elsewhere rfl
    exact elsewhere (keeps.locate located)

theorem read_writeFile {t written : FileTree} {path content : String}
    (done : t.writeFile path (.text content) = (written, .ok ())) :
    written.read path = .ok content := by
  obtain ⟨made, _, ⟨fault, failed⟩ | ⟨last, stored, finished⟩⟩ :=
    writeFile_cases t path (.text content)
  · rw [failed] at done
    cases done
  · rw [finished] at done
    cases done
    obtain ⟨names, located, keeps, plain, placed⟩ := writeContent_keeps stored
    exact read_eq_ok.mpr ⟨names, keeps.locate located, plain, placed⟩

end SchemaBindings.FileTree
