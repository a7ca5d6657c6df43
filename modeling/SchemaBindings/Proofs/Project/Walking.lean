import SchemaBindings.Project.FileTree
import SchemaBindings.Proofs.Failure

/-!
Where paths lead in a file tree. A walk goes through directories only, so where it ends is spelled
by the path and does not depend on what else the tree holds.
-/

namespace SchemaBindings.FileTree

def DirectoryAt (t : FileTree) (names : List String) : Prop :=
  ∃ entries, at? names t = some (.directory entries)

theorem at?_directory (name : String) (names : List String) (entries : FileEntries) :
    at? (name :: names) (.directory entries) = (entries.lookup name).bind (at? names) := rfl

theorem at?_append (first second : List String) (t : FileTree) :
    at? (first ++ second) t = (at? first t).bind (at? second) := by
  induction first generalizing t with
  | nil => rfl
  | cons name rest ih =>
      cases t with
      | file content => rfl
      | directory entries =>
          rw [List.cons_append, at?_directory, at?_directory, Option.bind_assoc]
          exact congrArg _ (funext ih)

theorem directoryAt_nil {t : FileTree} :
    t.DirectoryAt [] ↔ ∃ children, t = .directory children := by
  constructor
  · rintro ⟨children, root⟩
    exact ⟨children, Option.some.inj root⟩
  · rintro ⟨children, rfl⟩
    exact ⟨children, rfl⟩

theorem directoryAt_cons {t : FileTree} {name : String} {names : List String} :
    t.DirectoryAt (name :: names) ↔
      ∃ children child, t = .directory children ∧ children.lookup name = some child ∧
        child.DirectoryAt names := by
  constructor
  · rintro ⟨entries, found⟩
    cases t with
    | file content => cases found
    | directory children =>
        rw [at?_directory] at found
        obtain ⟨child, there, below⟩ := Option.bind_eq_some_iff.mp found
        exact ⟨children, child, rfl, there, entries, below⟩
  · rintro ⟨children, child, rfl, there, entries, below⟩
    refine ⟨entries, ?_⟩
    rw [at?_directory, there]
    exact below

theorem directoryAt_above {t : FileTree} {above : List String} {name : String}
    {rest : List String} {node : FileTree} (found : at? (above ++ name :: rest) t = some node) :
    t.DirectoryAt above := by
  rw [at?_append] at found
  obtain ⟨child, there, below⟩ := Option.bind_eq_some_iff.mp found
  cases child with
  | file content => cases below
  | directory entries => exact ⟨entries, there⟩

theorem directoryAt_dropLast {t : FileTree} {names : List String} (stands : t.DirectoryAt names) :
    t.DirectoryAt names.dropLast := by
  rcases List.eq_nil_or_concat names with rfl | ⟨above, name, rfl⟩
  · exact stands
  · obtain ⟨entries, found⟩ := stands
    rw [List.concat_eq_append] at found ⊢
    rw [List.dropLast_concat]
    exact directoryAt_above found

/-- The names one component on, whatever is there. -/
def onward (visited : List String) (name : String) : List String :=
  if name = "." then visited else if name = ".." then visited.dropLast else visited ++ [name]

theorem step_eq_ok {t : FileTree} {visited next : List String} {name : String}
    (walked : t.step visited name = .ok next) :
    t.DirectoryAt visited ∧ next = onward visited name := by
  unfold step at walked
  split at walked
  · cases walked
  · cases walked
  · rename_i entries there
    refine ⟨⟨entries, there⟩, ?_⟩
    unfold onward
    split at walked
    · cases walked
      rw [if_pos ‹_›]
    · rw [if_neg ‹_›]
      split at walked
      · cases walked
        rw [if_pos ‹_›]
      · rw [if_neg ‹_›]
        split at walked
        · cases walked
        · cases walked
          rfl

theorem step_eq_step {t u : FileTree} {visited : List String} (stands : t.DirectoryAt visited)
    (stillStands : u.DirectoryAt visited) (name : String) :
    t.step visited name = u.step visited name := by
  obtain ⟨before, there⟩ := stands
  obtain ⟨after, stillThere⟩ := stillStands
  simp only [step, there, stillThere]

theorem directoryAt_of_step {t : FileTree} {visited next : List String} {name : String}
    (walked : t.step visited name = .ok next) :
    t.DirectoryAt next ∨ ∃ above last, next = above ++ [last] ∧ t.DirectoryAt above := by
  obtain ⟨stands, rfl⟩ := step_eq_ok walked
  unfold onward
  split
  · exact .inl stands
  · split
    · exact .inl (directoryAt_dropLast stands)
    · exact .inr ⟨visited, name, rfl, stands⟩

theorem directoryAt_of_walk {t : FileTree} {visited names : List String} {name : String}
    {rest : List String} (walked : (name :: rest).foldlM t.step visited = .ok names) :
    t.DirectoryAt names ∨ ∃ above last, names = above ++ [last] ∧ t.DirectoryAt above := by
  induction rest generalizing visited name with
  | nil =>
      obtain ⟨next, first, done⟩ := bind_eq_ok_iff.mp walked
      cases done
      exact directoryAt_of_step first
  | cons second rest ih =>
      obtain ⟨next, _, walked⟩ := bind_eq_ok_iff.mp walked
      exact ih walked

def start (path : String) : List String :=
  if Path.isAbsolute path then [] else workingDirectory

def target (path : String) : List String :=
  (steps path).foldl onward (start path)

theorem locate_eq_ok {t : FileTree} {path : String} {names : List String}
    (located : t.locate path = .ok names) :
    path.isEmpty = false ∧ (steps path).foldlM t.step (start path) = .ok names := by
  unfold locate at located
  split at located
  · cases located
  · split at located
    · cases located
    · split at located
      · cases located
      · exact ⟨by simpa using ‹¬ path.isEmpty = true›, located⟩

theorem walk_eq_foldl {t : FileTree} {visited names : List String} {components : List String}
    (walked : components.foldlM t.step visited = .ok names) :
    names = components.foldl onward visited := by
  induction components generalizing visited with
  | nil =>
      cases walked
      rfl
  | cons name rest ih =>
      obtain ⟨next, first, walked⟩ := bind_eq_ok_iff.mp walked
      obtain ⟨_, rfl⟩ := step_eq_ok first
      exact ih walked

/-- Wherever a path leads in some tree, it leads to the names it spells. -/
theorem locate_eq_target {t : FileTree} {path : String} {names : List String}
    (located : t.locate path = .ok names) : names = target path :=
  walk_eq_foldl (locate_eq_ok located).2

theorem parts_of_ne {sep c : Char} (other : c ≠ sep) (rest : List Char) :
    ∃ part more, Text.parts sep (c :: rest) = (c :: part) :: more := by
  rw [Text.parts, if_neg other]
  cases Text.parts sep rest with
  | nil => exact ⟨[], [], rfl⟩
  | cons part more => exact ⟨part, more, rfl⟩

theorem isAbsolute_of_steps_nil {path : String} (nonempty : path.isEmpty = false)
    (bare : steps path = []) : Path.isAbsolute path = true := by
  cases spelled : path.toList with
  | nil =>
      rw [String.toList_eq_nil_iff.mp spelled] at nonempty
      cases nonempty
  | cons c rest =>
      by_cases slash : c = '/'
      · rw [Path.isAbsolute, spelled, slash]
        rfl
      · obtain ⟨part, more, split⟩ := parts_of_ne slash rest
        rw [steps, spelled, split, List.map_cons, List.filter_cons_of_pos (by simp)] at bare
        cases bare

theorem directoryAt_of_locate {t : FileTree} {path : String} {names : List String}
    (located : t.locate path = .ok names) :
    t.DirectoryAt names ∨ names = [] ∨
      ∃ above last, names = above ++ [last] ∧ t.DirectoryAt above := by
  obtain ⟨nonempty, walked⟩ := locate_eq_ok located
  cases components : steps path with
  | nil =>
      rw [components, start, if_pos (isAbsolute_of_steps_nil nonempty components)] at walked
      cases walked
      exact .inr (.inl rfl)
  | cons name rest =>
      rw [components] at walked
      rcases directoryAt_of_walk walked with stands | inside
      · exact .inl stands
      · exact .inr (.inr inside)

end SchemaBindings.FileTree
