import IncidentDigest.Export
import IncidentDigest.Proofs.Files.Walk

/-!
# What is written can be read

A path leads where it led before as long as the directories are still there.  Writing a file
takes no directory away, so that the file is afterwards found under the path that it was
written to (`read_of_write`), and an output file holds the text of the output.
-/

namespace IncidentDigest.FileTree

/-! ## 1. Resolving again -/

/-- A tree with the same working directory in which all directories are still there. -/
structure KeepsDirectories (t u : FileTree) : Prop where
  workingDirectory : u.workingDirectory = t.workingDirectory
  directory : ∀ l, t.node? l = some .directory → u.node? l = some .directory

variable {t u : FileTree}

theorem KeepsDirectories.step (h : t.KeepsDirectories u) {l m : Location} {piece : String}
    (hstep : t.step l piece = .ok m) : u.step l piece = .ok m := by
  unfold FileTree.step at hstep ⊢
  split
  · rwa [if_pos ‹_›] at hstep
  · rw [if_neg ‹_›] at hstep
    split
    · rwa [if_pos ‹_›] at hstep
    · rw [if_neg ‹_›] at hstep
      split
      · rw [if_pos ‹_›] at hstep
        cases hstep
      · rw [if_neg ‹_›] at hstep
        split at hstep
        · rename_i hnode
          rw [h.directory _ hnode]
          exact hstep
        · cases hstep
        · cases hstep

theorem KeepsDirectories.steps (h : t.KeepsDirectories u) {pieces : List String}
    {l m : Location} (hsteps : pieces.foldlM t.step l = .ok m) :
    pieces.foldlM u.step l = .ok m := by
  induction pieces generalizing l with
  | nil => exact hsteps
  | cons piece rest ih =>
      rw [List.foldlM_cons] at hsteps ⊢
      obtain ⟨l', hstep, hrest⟩ := ok_of_bind hsteps
      rw [h.step hstep]
      exact ih hrest

theorem KeepsDirectories.resolve (h : t.KeepsDirectories u) {path : String} {target : Target}
    (hresolve : t.resolve path = .ok target) : u.resolve path = .ok target := by
  unfold FileTree.resolve at hresolve ⊢
  split
  · rwa [if_pos ‹_›] at hresolve
  · rw [if_neg ‹_›] at hresolve
    split
    · rwa [if_pos ‹_›] at hresolve
    · rw [if_neg ‹_›] at hresolve
      split
      · rwa [if_pos ‹_›] at hresolve
      · rw [if_neg ‹_›] at hresolve
        dsimp only at hresolve ⊢
        rw [h.workingDirectory]
        split at hresolve
        · exact hresolve
        · obtain ⟨parent, hparent, hresolve⟩ := ok_of_bind hresolve
          rw [h.steps hparent]
          dsimp only [bind, Except.bind] at hresolve ⊢
          split
          · rw [if_pos ‹_›] at hresolve
            obtain ⟨l, hl, hresolve⟩ := ok_of_bind hresolve
            rw [h.step hl]
            exact hresolve
          · rwa [if_neg ‹_›] at hresolve

/-! ## 2. Files -/

/-- A file takes the place of no directory. -/
theorem keepsDirectories_set {l : Location} {content : String}
    (h : t.node? l ≠ some .directory) : t.KeepsDirectories (t.set l (.file content)) where
  workingDirectory := rfl
  directory m hm := by
    have hne : m ≠ l := by
      rintro rfl
      exact h hm
    rw [node?_set_of_ne t _ hne, hm]

/-- **What is written to a path is read from it.** -/
theorem read_of_write {path content : String} (h : t.write path content = .ok u) :
    u.read path = .ok content := by
  obtain ⟨-, hdirectory⟩ := write_spec h
  unfold write at h
  obtain ⟨target, hresolve, h⟩ := ok_of_bind h
  have hlocation := location_of_resolve hresolve
  cases target with
  | directory l => cases h
  | entry parent name slash =>
      rw [← hlocation] at hdirectory
      dsimp only [Target.location] at h hdirectory
      split at h
      · cases h
      · split at h
        · cases h
        · rename_i hslash
          obtain rfl := Except.ok.inj h
          have hkeeps : t.KeepsDirectories (t.set (parent ++ [name]) (.file content)) :=
            keepsDirectories_set hdirectory
          unfold read lookup
          rw [hkeeps.resolve hresolve]
          dsimp only [bind, Except.bind]
          rw [node?_set_self]
          dsimp only
          rw [if_neg hslash]
          rfl

/-- **An output file holds the output.** -/
theorem read_of_writeOutput {path content : String} (h : t.writeOutput path content = (u, .ok ())) :
    u.read path = .ok content := by
  unfold writeOutput at h
  dsimp only at h
  split at h
  · cases h
  · rename_i t' _
    cases hwrite : t'.write path content with
    | error e =>
        rw [hwrite] at h
        cases h
    | ok v =>
        rw [hwrite] at h
        obtain rfl : v = u := congrArg Prod.fst h
        exact read_of_write hwrite

end IncidentDigest.FileTree
