import IncidentDigest.Proofs.Files.Overwriting
import IncidentDigest.Proofs.Files.Resolution

/-!
# How far an export comes

An export makes its directory and then writes its payloads one after the other, until one
cannot be written.  Whether a payload with a plain name can be written depends on its name
and on the directories of the tree only (`Ready.write_eq`), and writing files changes
neither.  So the payloads before the first obstacle are written, and nothing after it is
(`writeScenarios_outcome`).
-/

namespace IncidentDigest

open FilePath (steps named)

namespace FilePath

theorem named_append (ps qs : List (List Char)) : named (ps ++ qs) = named ps ++ named qs := by
  unfold named
  rw [List.map_append, List.filter_append]

/-- A name without a slash is one more step in a directory. -/
theorem steps_append (directory : String) {name : String} (hplain : '/' ∉ name.toList)
    (hne : name ≠ "") : steps (append directory name) = steps directory ++ [name] := by
  have hname : named [name.toList] = [name] := by
    unfold named
    rw [List.map_singleton, String.ofList_toList, List.filter_cons_of_pos (by simpa using hne),
      List.filter_nil]
  have hhead : name.toList.head? ≠ some '/' := fun hhead => hplain (List.mem_of_head? hhead)
  unfold append
  rw [if_neg (by simpa using hhead)]
  by_cases hempty : directory = ""
  · subst hempty
    change named (pieces ("" ++ name).toList) = [] ++ [name]
    rw [String.empty_append, pieces_of_notMem hplain, hname, List.nil_append]
  · by_cases hslash : directory.toList.getLast? = some '/'
    · obtain ⟨cs, hcs⟩ := List.getLast?_eq_some_iff.mp hslash
      rw [if_pos (by simp [hslash])]
      unfold steps
      rw [String.toList_append, hcs, List.append_assoc, List.singleton_append,
        pieces_append_slash, pieces_append_slash, pieces_of_notMem hplain, named_append,
        named_append, hname, List.append_assoc]
      rfl
    · rw [if_neg (by simp [hslash, hempty])]
      unfold steps
      rw [String.append_assoc, String.toList_append, String.toList_append]
      change named (pieces (directory.toList ++ '/' :: name.toList)) = _
      rw [pieces_append_slash, pieces_of_notMem hplain, named_append, hname]

theorem append_eq (directory : String) {name : String} (hplain : '/' ∉ name.toList) :
    ∃ between, append directory name = directory ++ between ++ name ∧
      '\x00' ∉ between.toList := by
  have hhead : name.toList.head? ≠ some '/' := fun hhead => hplain (List.mem_of_head? hhead)
  unfold append
  rw [if_neg (by simpa using hhead)]
  split
  · exact ⟨"", by rw [String.append_empty], by decide⟩
  · exact ⟨"/", rfl, by decide⟩

end FilePath

namespace FileTree

/-! ## 1. One payload -/

/-- A directory in which files can be written: one that is there.  No name at all is the
working directory. -/
def Ready (t : FileTree) (directory : String) : Prop :=
  directory = "" ∨ t.isDirectory directory = true

/-- What keeps a payload with a plain name from being written: its name, or a directory of
that name. -/
def obstacle? (t : FileTree) (directory : String) (p : ScenarioPayload) : Option FileError :=
  if '\x00' ∈ p.fileName.toList then some .invalidName
  else if maxPathBytes ≤ (FilePath.append directory p.fileName).utf8ByteSize ∨
      maxNameBytes < p.fileName.utf8ByteSize then some .nameTooLong
  else if t.node? (t.destination directory p) = some .directory then some .isDirectory
  else none

variable {t u : FileTree} {directory : String} {p : ScenarioPayload}

theorem fileName_ne (p : ScenarioPayload) :
    p.fileName ≠ "" ∧ p.fileName ≠ "." ∧ p.fileName ≠ ".." := by
  have hlong := length_fileName p
  refine ⟨?_, ?_, ?_⟩
  all_goals
    intro hname
    rw [hname] at hlong
    exact absurd hlong (by decide)

theorem append_ne_empty (directory : String) (hplain : '/' ∉ p.fileName.toList) :
    FilePath.append directory p.fileName ≠ "" := by
  obtain ⟨between, happend, -⟩ := FilePath.append_eq directory hplain
  have hname : p.fileName.toList ≠ [] := by simpa using (fileName_ne p).1
  rw [happend, ← String.toList_inj.ne, String.toList_append]
  simp [hname]

theorem Ready.mem_nul_iff (h : t.Ready directory) (hplain : '/' ∉ p.fileName.toList) :
    '\x00' ∈ (FilePath.append directory p.fileName).toList ↔ '\x00' ∈ p.fileName.toList := by
  obtain ⟨between, happend, hbetween⟩ := FilePath.append_eq directory hplain
  have hdirectory : '\x00' ∉ directory.toList := by
    rcases h with rfl | h
    · decide
    · exact ((t.isDirectory_iff directory).mp h).1.noNul
  rw [happend, String.toList_append, String.toList_append]
  simp [hdirectory, hbetween]

/-- In a directory that is there, the way to the name can be taken. -/
theorem Ready.way (h : t.Ready directory) (hplain : '/' ∉ p.fileName.toList) :
    ∃ l, (steps directory).foldlM t.step (t.origin (FilePath.append directory p.fileName)) =
      .ok l := by
  rcases h with rfl | h
  · exact ⟨_, rfl⟩
  · obtain ⟨hadmissible, l, hway⟩ := (t.isDirectory_iff directory).mp h
    obtain ⟨between, happend, -⟩ := FilePath.append_eq directory hplain
    have hne : directory.toList ≠ [] := by simpa using hadmissible.nonempty
    rw [happend, String.append_assoc, origin_append_of_ne_nil t hne]
    exact ⟨l, hway⟩

theorem Ready.resolve (h : t.Ready directory) (hplain : '/' ∉ p.fileName.toList)
    (hnul : '\x00' ∉ p.fileName.toList)
    (hshort : (FilePath.append directory p.fileName).utf8ByteSize < maxPathBytes) :
    ∃ l, t.resolve (FilePath.append directory p.fileName) =
      if maxNameBytes < p.fileName.utf8ByteSize then .error .nameTooLong
      else .ok (.entry l p.fileName false) := by
  obtain ⟨hne, hpoint, htwo⟩ := fileName_ne p
  obtain ⟨l, hway⟩ := h.way hplain
  refine ⟨l, ?_⟩
  have hend : (FilePath.append directory p.fileName).toList.getLast? ≠ some '/' := by
    obtain ⟨between, happend, -⟩ := FilePath.append_eq directory hplain
    have hname : p.fileName.toList ≠ [] := by simpa using hne
    rw [happend, String.toList_append, List.getLast?_append_of_ne_nil _ hname]
    intro hlast
    exact hplain (List.mem_of_getLast? hlast)
  have hadmissible : Admissible (FilePath.append directory p.fileName) :=
    ⟨append_ne_empty directory hplain, (h.mem_nul_iff hplain).not.mpr hnul, hshort⟩
  rw [resolve_eq t hadmissible, FilePath.steps_append directory hplain hne,
    List.getLast?_concat, List.dropLast_concat]
  dsimp only
  rw [hway]
  change t.lastStep l p.fileName _ = _
  unfold lastStep
  rw [if_neg (by simp [hpoint, htwo]), beq_eq_false_iff_ne.mpr hend]
  rfl

/-- **Writing a payload** fails at its obstacle, and without one puts a file at its
destination. -/
theorem Ready.write_eq (h : t.Ready directory) (hplain : '/' ∉ p.fileName.toList)
    (content : String) :
    t.write (FilePath.append directory p.fileName) content =
      match t.obstacle? directory p with
      | some e => .error e
      | none => .ok (t.set (t.destination directory p) (.file content)) := by
  unfold obstacle? FileTree.write
  by_cases hnul : '\x00' ∈ p.fileName.toList
  · rw [if_pos hnul, resolve_of_nul t ((h.mem_nul_iff hplain).mpr hnul)]
    rfl
  rw [if_neg hnul]
  by_cases hlong : maxPathBytes ≤ (FilePath.append directory p.fileName).utf8ByteSize
  · rw [if_pos (Or.inl hlong), resolve_of_long t ((h.mem_nul_iff hplain).not.mpr hnul) hlong]
    rfl
  obtain ⟨l, hresolve⟩ := h.resolve hplain hnul (Nat.not_le.mp hlong)
  by_cases hname : maxNameBytes < p.fileName.utf8ByteSize
  · rw [if_pos hname] at hresolve
    rw [if_pos (Or.inr hname), hresolve]
    rfl
  · rw [if_neg hname] at hresolve
    have hlocation : l ++ [p.fileName] = t.destination directory p :=
      location_of_resolve hresolve
    rw [if_neg (not_or.mpr ⟨hlong, hname⟩), hresolve, ← hlocation]
    dsimp only [bind, Except.bind]
    rcases t.node? (l ++ [p.fileName]) with _ | _ | old
    · rfl
    · rfl
    · rfl

/-! ### Writing changes no obstacle -/

theorem node?_set_file_eq_directory_iff {l : Location} (hl : t.node? l ≠ some .directory)
    (content : String) (m : Location) :
    (t.set l (.file content)).node? m = some .directory ↔ t.node? m = some .directory := by
  by_cases hml : m = l
  · subst hml
    rw [node?_set_self]
    exact iff_of_false nofun hl
  · rw [node?_set_of_ne t _ hml]

theorem obstacle?_set {l : Location} (hl : t.node? l ≠ some .directory) (content : String) :
    (t.set l (.file content)).obstacle? directory p = t.obstacle? directory p := by
  have hdestination : (t.set l (.file content)).destination directory p =
      t.destination directory p := congrFun (location_congr rfl) _
  unfold obstacle?
  simp only [hdestination, node?_set_file_eq_directory_iff hl content]

theorem Ready.set (h : t.Ready directory) {l : Location} (hl : t.node? l ≠ some .directory)
    (content : String) : (t.set l (.file content)).Ready directory :=
  h.imp_right (keepsDirectories_set hl).isDirectory

/-- What a payload without an obstacle is like. -/
structure Free (t : FileTree) (directory : String) (p : ScenarioPayload) : Prop where
  noNul : '\x00' ∉ p.fileName.toList
  shortPath : (FilePath.append directory p.fileName).utf8ByteSize < maxPathBytes
  shortName : p.fileName.utf8ByteSize ≤ maxNameBytes
  noDirectory : t.node? (t.destination directory p) ≠ some .directory

theorem free_of_obstacle? (h : t.obstacle? directory p = none) : t.Free directory p := by
  unfold obstacle? at h
  split at h
  · cases h
  · rename_i hnul
    split at h
    · cases h
    · rename_i hlong
      split at h
      · cases h
      · rename_i hdirectory
        obtain ⟨hpath, hname⟩ := not_or.mp hlong
        exact ⟨hnul, Nat.not_le.mp hpath, Nat.not_lt.mp hname, hdirectory⟩

/-- The file of a payload without an obstacle can be read. -/
theorem Ready.read_eq (h : t.Ready directory) (hplain : '/' ∉ p.fileName.toList)
    (hfree : t.Free directory p) {content : String}
    (hnode : t.node? (t.destination directory p) = some (.file content)) :
    t.read (FilePath.append directory p.fileName) = .ok content := by
  obtain ⟨l, hresolve⟩ := h.resolve hplain hfree.noNul hfree.shortPath
  rw [if_neg (Nat.not_lt.mpr hfree.shortName)] at hresolve
  have hlocation : l ++ [p.fileName] = t.destination directory p :=
    location_of_resolve hresolve
  unfold read
  rw [lookup_eq, hresolve]
  dsimp only [bind, Except.bind]
  rw [found, hlocation, hnode]
  rfl

/-! ## 2. The loop -/

theorem writePayloads_append (t : FileTree) (directory : String) (indented : Bool)
    (before rest : List ScenarioPayload) :
    t.writePayloads directory indented (before ++ rest) =
      match t.writePayloads directory indented before with
      | (u, .ok ()) => u.writePayloads directory indented rest
      | (u, .error e) => (u, .error e) := by
  induction before generalizing t with
  | nil => rfl
  | cons p before ih =>
      rw [List.cons_append, writePayloads, writePayloads]
      cases t.write (FilePath.append directory p.fileName) (p.body.render indented) with
      | ok u => exact ih u
      | error e => rfl

/-- **Payloads without an obstacle are all written**, and the obstacles of other payloads
stay what they were. -/
theorem Ready.writePayloads {ps : List ScenarioPayload} (h : t.Ready directory)
    (hplain : ∀ p ∈ ps, '/' ∉ p.fileName.toList)
    (hfree : ∀ p ∈ ps, t.obstacle? directory p = none) (indented : Bool) :
    ∃ u, t.writePayloads directory indented ps = (u, .ok ()) ∧ u.Ready directory ∧
      u.workingDirectory = t.workingDirectory ∧ u.obstacle? directory = t.obstacle? directory := by
  induction ps generalizing t with
  | nil => exact ⟨t, rfl, h, rfl, rfl⟩
  | cons p ps ih =>
      have hp := hfree p List.mem_cons_self
      have hdestination := (free_of_obstacle? hp).noDirectory
      have hsame : ∀ content, (t.set (t.destination directory p) (.file content)).obstacle?
          directory = t.obstacle? directory := fun content =>
        funext fun q => obstacle?_set hdestination content
      rw [FileTree.writePayloads, h.write_eq (hplain p List.mem_cons_self), hp]
      have hrest : ∀ q ∈ ps, (t.set (t.destination directory p)
          (.file (p.body.render indented))).obstacle? directory q = none := by
        intro q hq
        rw [hsame]
        exact hfree q (List.mem_cons_of_mem p hq)
      obtain ⟨u, hu, hready, hworking, hobstacle⟩ :=
        ih (h.set hdestination _) (fun q hq => hplain q (List.mem_cons_of_mem p hq)) hrest
      exact ⟨u, hu, hready, hworking, hobstacle.trans (hsame _)⟩

/-! ## 3. Names that come again -/

/-- The last one of some payloads with a file name. -/
def lastNamed (ps : List ScenarioPayload) (name : String) : Option ScenarioPayload :=
  (ps.filter fun p => p.fileName == name).getLast?

/-- Under each name that some payloads bear, the directory has a file, and it holds the text of
the last payload of that name. -/
def HoldsLast (u : FileTree) (directory : String) (indented : Bool)
    (ps : List ScenarioPayload) : Prop :=
  ∀ p ∈ ps, ∃ q, lastNamed ps p.fileName = some q ∧
    u.read (FilePath.append directory p.fileName) = .ok (q.body.render indented)

theorem lastAt_destination_of_plain {ps : List ScenarioPayload}
    (hplain : ∀ p ∈ ps, '/' ∉ p.fileName.toList) (hp : p ∈ ps) :
    t.lastAt directory ps (t.destination directory p) = lastNamed ps p.fileName := by
  unfold lastAt lastNamed
  congr 1
  refine List.filter_congr fun q hq => ?_
  rw [destination_of_plain t (hplain q hq), destination_of_plain t (hplain p hp)]
  simp

theorem exists_lastNamed {ps : List ScenarioPayload} (hp : p ∈ ps) :
    ∃ q, lastNamed ps p.fileName = some q := by
  refine Option.isSome_iff_exists.mp (List.getLast?_isSome.mpr ?_)
  exact List.ne_nil_of_mem (List.mem_filter.mpr ⟨hp, beq_self_eq_true _⟩)

theorem Ready.holdsLast {ps : List ScenarioPayload} (h : t.Ready directory)
    (hplain : ∀ p ∈ ps, '/' ∉ p.fileName.toList)
    (hfree : ∀ p ∈ ps, t.obstacle? directory p = none) (indented : Bool) :
    (t.writePayloads directory indented ps).1.HoldsLast directory indented ps := by
  obtain ⟨u, hu, hready, hworking, hobstacle⟩ := h.writePayloads hplain hfree indented
  have hall : t.writable directory indented ps = ps := writable_eq_of_ok (by rw [hu])
  rw [hu]
  intro p hp
  obtain ⟨q, hlast⟩ := exists_lastNamed hp
  have hnode := node?_writePayloads t directory indented ps (t.destination directory p)
  rw [hu, hall, lastAt_destination_of_plain hplain hp, hlast] at hnode
  have hdestination : u.destination directory p = t.destination directory p :=
    congrFun (location_congr hworking) _
  rw [← hdestination] at hnode
  have hp' : u.obstacle? directory p = none := by rw [hobstacle, hfree p hp]
  exact ⟨q, hlast, hready.read_eq (hplain p hp) (free_of_obstacle? hp') hnode⟩

/-! ## 4. The outcome -/

/-- How an export ends, and what the tree then holds.  A tree `v` is the one in which the
directory has just been made. -/
inductive ExportOutcome (t : FileTree) (directory : String) (indented : Bool)
    (ps : List ScenarioPayload) : FileTree × Except StorageError Nat → Prop
  /-- All payloads are written. -/
  | complete {u v : FileTree} (made : t.makeDirectories directory = (v, .ok ()))
      (free : ∀ p ∈ ps, v.obstacle? directory p = none)
      (holds : u.HoldsLast directory indented ps) :
      ExportOutcome t directory indented ps (u, .ok ps.length)
  /-- There is no directory, and no file is written. -/
  | noDirectory {u : FileTree} {e : FileError}
      (unmade : t.makeDirectories directory = (u, .error e))
      (files : ∀ l text, u.node? l = some (.file text) ↔ t.node? l = some (.file text)) :
      ExportOutcome t directory indented ps (u, .error (.createDirectory directory e))
  /-- The payloads before the first one that has an obstacle are written, and the tree is the one
  that an export of these leaves. -/
  | stopped {u v : FileTree} {before after : List ScenarioPayload} {p : ScenarioPayload}
      {e : FileError} (made : t.makeDirectories directory = (v, .ok ()))
      (split : ps = before ++ p :: after) (free : ∀ q ∈ before, v.obstacle? directory q = none)
      (obstacle : v.obstacle? directory p = some e)
      (same : t.writeScenarios directory before indented = (u, .ok before.length))
      (holds : u.HoldsLast directory indented before) :
      ExportOutcome t directory indented ps
        (u, .error (.writeFile (FilePath.append directory p.fileName) e))

theorem ready_of_makeDirectories (h : t.makeDirectories directory = (u, .ok ())) :
    u.Ready directory := by
  by_cases hempty : directory = ""
  · exact Or.inl hempty
  · exact Or.inr (isDirectory_of_makeDirectories h hempty)

theorem writeScenarios_eq (t : FileTree) (directory : String) (ps : List ScenarioPayload)
    (indented : Bool) :
    t.writeScenarios directory ps indented =
      match t.makeDirectories directory with
      | (v, .error e) => (v, .error (.createDirectory directory e))
      | (v, .ok ()) =>
        match v.writePayloads directory indented ps with
        | (u, .ok ()) => (u, .ok ps.length)
        | (u, .error e) => (u, .error e) := by
  unfold writeScenarios ensureDirectory
  rcases t.makeDirectories directory with ⟨v, e | _⟩
  · rfl
  · rfl

theorem exportOutcome {ps : List ScenarioPayload} (hplain : ∀ p ∈ ps, '/' ∉ p.fileName.toList)
    (indented : Bool) :
    t.ExportOutcome directory indented ps (t.writeScenarios directory ps indented) := by
  rw [writeScenarios_eq]
  rcases hmade : t.makeDirectories directory with ⟨v, e | _⟩
  · have hgrown := grown_makeAncestors t (FilePath.ancestors directory)
    change Grown _ t (t.makeDirectories directory).1 at hgrown
    rw [hmade] at hgrown
    exact .noDirectory hmade hgrown.file_iff
  · have hready := ready_of_makeDirectories hmade
    dsimp only
    cases hfirst : ps.find? fun p => (v.obstacle? directory p).isSome with
    | none =>
        have hfree : ∀ p ∈ ps, v.obstacle? directory p = none := by
          simpa [List.find?_eq_none] using hfirst
        obtain ⟨u, hu, -⟩ := hready.writePayloads hplain hfree indented
        have hholds := hready.holdsLast hplain hfree indented
        rw [hu] at hholds ⊢
        exact .complete hmade hfree hholds
    | some p =>
        obtain ⟨hsome, before, after, hsplit, hnone⟩ := List.find?_eq_some_iff_append.mp hfirst
        obtain ⟨e, he⟩ := Option.isSome_iff_exists.mp hsome
        subst hsplit
        have hplain' : ∀ q ∈ before, '/' ∉ q.fileName.toList := fun q hq =>
          hplain q (List.mem_append_left _ hq)
        have hfree : ∀ q ∈ before, v.obstacle? directory q = none := by
          simpa using hnone
        obtain ⟨u, hu, hstopped, -, hobstacle⟩ := hready.writePayloads hplain' hfree indented
        have hholds := hready.holdsLast hplain' hfree indented
        have hsame : t.writeScenarios directory before indented = (u, .ok before.length) := by
          rw [writeScenarios_eq, hmade]
          dsimp only
          rw [hu]
        rw [hu] at hholds
        rw [writePayloads_append, hu]
        dsimp only
        rw [writePayloads, hstopped.write_eq (hplain p (by simp)), hobstacle, he]
        exact .stopped hmade rfl hfree he hsame hholds

/-- **The effect of an export of payloads with plain names.**  It ends in one of three ways,
and in each of them what is neither the directory, nor above it, nor a file of a payload is as it
was. -/
theorem writeScenarios_outcome (t : FileTree) (directory : String) {ps : List ScenarioPayload}
    (hplain : ∀ p ∈ ps, '/' ∉ p.fileName.toList) (indented : Bool) :
    t.ExportOutcome directory indented ps (t.writeScenarios directory ps indented) ∧
      ∀ l, l ≠ t.location directory → l ∉ t.locationsAbove directory →
        (∀ p ∈ ps, l ≠ t.destination directory p) →
          (t.writeScenarios directory ps indented).1.node? l = t.node? l := by
  refine ⟨exportOutcome hplain indented, ?_⟩
  intro l hself habove hother
  have hmade : l ∉ t.locations (FilePath.ancestors directory) := by
    rw [mem_locations_ancestors_iff]
    exact not_or.mpr ⟨hself, habove⟩
  rw [node?_writeScenarios]
  cases hlast : t.lastAt directory (t.exported directory indented ps) l with
  | none => exact (grown_ensureDirectory t directory).node_of_notMem hmade
  | some p =>
      obtain ⟨hmem, hdestination⟩ := mem_of_lastAt hlast
      exact absurd hdestination.symm
        (hother p ((exported_isPrefix t directory indented ps).subset hmem))

/-! ### A directory in the way -/

def obstructedTree : FileTree := ⟨[(["out"], .directory), (["out", "b.json"], .directory)], []⟩

def fourPayloads : List ScenarioPayload :=
  [firstPayload, secondPayload, otherPayload, firstPayload]

/-- The third of four payloads cannot be written.  The file of the first two holds the second
one, and the fourth, which bears the same name, is not written any more. -/
theorem writeScenarios_outcome_obstructed :
    (∀ p ∈ fourPayloads, '/' ∉ p.fileName.toList) ∧
      obstructedTree.ExportOutcome "out" false fourPayloads
        (obstructedTree.writeScenarios "out" fourPayloads false) ∧
      (obstructedTree.writeScenarios "out" fourPayloads false).2 =
        .error (.writeFile "out/b.json" .isDirectory) ∧
      (obstructedTree.writeScenarios "out" fourPayloads false).1.read "out/a.json" =
        .ok (secondPayload.body.render false) := by
  have hplain : ∀ p ∈ fourPayloads, '/' ∉ p.fileName.toList := by decide +kernel
  exact ⟨hplain, (writeScenarios_outcome obstructedTree "out" hplain false).1,
    by decide +kernel, by decide +kernel⟩

end FileTree
end IncidentDigest
