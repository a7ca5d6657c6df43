import SchemaBindings.Project.Run
import SchemaBindings.Proofs.Project.Keeping

/-!
Saving files in a tree: what is saved is read again, a second saving finds it unchanged, and files
that other paths lead to are left alone.
-/

namespace SchemaBindings.FileTree

/-- The two paths never lead to one place. -/
def Apart (path other : String) : Prop :=
  ∀ (t : FileTree) names, t.locate path = .ok names → t.locate other ≠ .ok names

theorem Apart.symm {path other : String} (apart : Apart path other) : Apart other path :=
  fun t names located again => apart t names again located

theorem apart_of_target {path other : String} (different : target path ≠ target other) :
    Apart path other := by
  intro t names located again
  exact different ((locate_eq_target located).symm.trans (locate_eq_target again))

/-- Saving in a tree. -/
abbrev save : SaveFile (StateM FileTree) :=
  saveFile load store

theorem load_run (t : FileTree) (path : String) : (load path).run t = (t.read path, t) := rfl

theorem save_of_read {t : FileTree} {path content : String} (there : t.read path = .ok content) :
    (save path content).run t = (.ok .unchanged, t) := by
  rw [save, saveFile, StateT.run_bind, load_run, there]
  simp only [bind, if_pos]
  rfl

theorem save_of_not_read {t : FileTree} {path content : String}
    (differs : t.read path ≠ .ok content) :
    (save path content).run t =
      ((t.writeFile path (.text content)).2.map fun _ => .written,
        (t.writeFile path (.text content)).1) := by
  rw [save, saveFile, StateT.run_bind, load_run]
  cases found : t.read path with
  | error fault => rfl
  | ok other =>
      have changed : other ≠ content := by
        rintro rfl
        exact differs found
      simp only [bind, if_neg changed]
      rfl

theorem save_keeps {path other : String} (apart : Apart path other) {t : FileTree} {text : String}
    (there : t.read other = .ok text) (content : String) :
    ((save path content).run t).2.read other = .ok text := by
  by_cases same : t.read path = .ok content
  · rw [save_of_read same]
    exact there
  · rw [save_of_not_read same]
    have keeps := t.writeFile_keeps path (.text content)
    refine keeps.read there ?_
    intro names located again
    exact apart _ names again (keeps.locate located)

theorem read_of_save {t : FileTree} {path content : String} {saved : Saved}
    (done : ((save path content).run t).1 = .ok saved) :
    ((save path content).run t).2.read path = .ok content := by
  by_cases same : t.read path = .ok content
  · rw [save_of_read same]
    exact same
  · rw [save_of_not_read same] at done ⊢
    obtain ⟨_, finished, _⟩ := map_eq_ok_iff.mp done
    exact read_writeFile (Prod.ext rfl finished)

end SchemaBindings.FileTree
