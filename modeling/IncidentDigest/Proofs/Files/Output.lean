import IncidentDigest.Proofs.Files.Confinement
import IncidentDigest.Proofs.Files.Resolution

/-!
# What an output leaves in the tree

An output file is written after the directories above it have been made.  Either step may
fail, the first one also midway.  `writeOutput_effect` says what the tree then holds: the
output and its directories, or at most some of the directories; nothing that was there has
been touched, except that a file at the path itself is overwritten.
-/

namespace IncidentDigest.FileTree

/-- The tree after an output has been written: it is at its path, below directories, and all
else is as it was, up to directories above the path that were missing. -/
structure OutputWritten (t : FileTree) (path content : String) (u : FileTree) : Prop where
  read : u.read path = .ok content
  node : u.node? (t.location path) = some (.file content)
  notDirectory : t.node? (t.location path) ≠ some .directory
  above : ∀ up, FilePath.Above path up → up ≠ "" → u.isDirectory up = true
  others : ∀ l, l ≠ t.location path → u.node? l = t.node? l ∨
    l ∈ t.locationsAbove path ∧ t.node? l = none ∧ u.node? l = some .directory

/-- The tree after an output has been refused, and why: the files are those that were there,
and at most some missing directories above the path have been made. -/
structure OutputRefused (t : FileTree) (path content : String) (u : FileTree)
    (e : StorageError) : Prop where
  cause : (∃ up cause, FilePath.parent? path = some up ∧ up ≠ "" ∧
      t.makeDirectories up = (u, .error cause) ∧ e = .createDirectory up cause) ∨
    ∃ cause, u.write path content = .error cause ∧ e = .writeOutput path cause
  files : ∀ l text, u.node? l = some (.file text) ↔ t.node? l = some (.file text)
  grown : Grown (t.locationsAbove path) t u

def OutputEffect (t : FileTree) (path content : String) :
    FileTree × Except StorageError Unit → Prop
  | (u, .ok ()) => t.OutputWritten path content u
  | (u, .error e) => t.OutputRefused path content u e

/-! ## The directories above -/

/-- The first step of writing an output: the directories above it. -/
def prepared (t : FileTree) (path : String) : FileTree × Except StorageError Unit :=
  match FilePath.parent? path with
  | some up => if up.isEmpty then (t, .ok ()) else t.ensureDirectory up
  | none => (t, .ok ())

theorem writeOutput_eq (t : FileTree) (path content : String) :
    t.writeOutput path content =
      match t.prepared path with
      | (v, .error e) => (v, .error e)
      | (v, .ok ()) =>
        match v.write path content with
        | .ok u => (u, .ok ())
        | .error e => (v, .error (.writeOutput path e)) := rfl

theorem grown_prepared (t : FileTree) (path : String) :
    Grown (t.locationsAbove path) t (t.prepared path).1 := by
  unfold prepared
  cases hup : FilePath.parent? path with
  | none => exact Grown.refl _ t
  | some up =>
      dsimp only
      split
      · exact Grown.refl _ t
      · exact (grown_ensureDirectory t up).mono (locations_ancestors_subset t hup)

theorem cause_of_prepared {t u : FileTree} {path : String} {e : StorageError}
    (h : t.prepared path = (u, .error e)) :
    ∃ up cause, FilePath.parent? path = some up ∧ up ≠ "" ∧
      t.makeDirectories up = (u, .error cause) ∧ e = .createDirectory up cause := by
  unfold prepared at h
  cases hup : FilePath.parent? path with
  | none =>
      rw [hup] at h
      cases h
  | some up =>
      rw [hup] at h
      dsimp only at h
      split at h
      · cases h
      · rename_i hne
        unfold ensureDirectory at h
        rcases hmade : t.makeDirectories up with ⟨v, cause | _⟩
        · rw [hmade] at h
          cases h
          exact ⟨up, cause, rfl, by simpa using hne, hmade, rfl⟩
        · rw [hmade] at h
          cases h

/-! ## The output -/

theorem outputWritten_of_write {t u v : FileTree} {path content : String}
    (hgrown : Grown (t.locationsAbove path) t v)
    (h : v.write path content = .ok u) : t.OutputWritten path content u := by
  obtain ⟨hu, hdirectory⟩ := write_spec h
  have hlocation : v.location path = t.location path :=
    congrFun (location_congr hgrown.workingDirectory) path
  have hkeeps : v.KeepsDirectories u := hu ▸ keepsDirectories_set hdirectory
  obtain ⟨target, hresolve, -⟩ := ok_of_bind h
  rw [hlocation] at hu hdirectory
  refine ⟨read_of_write h, ?_, ?_, ?_, ?_⟩
  · rw [hu]
    exact node?_set_self v _ _
  · -- a directory that was there would still be there
    intro hthere
    rcases hgrown.node (t.location path) with hsame | ⟨-, hnone, -⟩
    · exact hdirectory (hsame.trans hthere)
    · rw [hnone] at hthere
      cases hthere
  · intro up hup hne
    exact hkeeps.isDirectory (isDirectory_of_above hresolve hup hne)
  · intro l hl
    rw [hu, node?_set_of_ne v _ hl]
    exact hgrown.node l

/-- **The effect of writing an output**, at any path and in any tree. -/
theorem writeOutput_effect (t : FileTree) (path content : String) :
    t.OutputEffect path content (t.writeOutput path content) := by
  have hgrown := grown_prepared t path
  rw [writeOutput_eq]
  rcases hprepared : t.prepared path with ⟨v, e | _⟩
  · rw [hprepared] at hgrown
    exact ⟨Or.inl (cause_of_prepared hprepared), hgrown.file_iff, hgrown⟩
  · rw [hprepared] at hgrown
    dsimp only
    cases hwrite : v.write path content with
    | ok u => exact outputWritten_of_write hgrown hwrite
    | error cause => exact ⟨Or.inr ⟨cause, hwrite, rfl⟩, hgrown.file_iff, hgrown⟩

/-- A file stands where a directory is needed: the output is refused, and the directory that had
to be made on the way to the file stays. -/
example :
    (writeOutput ⟨[(["f"], .file "")], []⟩ "n/../f/x" "text").2 =
        .error (.createDirectory "n/../f" .alreadyExists) ∧
      (writeOutput ⟨[(["f"], .file "")], []⟩ "n/../f/x" "text").1.node? ["n"] =
        some .directory := by
  decide +kernel

end IncidentDigest.FileTree
