import IncidentDigest.Export
import IncidentDigest.Proofs.Files.Walk

/-!
# What an export reaches

An export makes a directory and writes one file for each payload.  The name of the file
comes from the payload, and it may lead out of the directory: by a slash at its beginning,
or by two points.  The effect of an export is stated for every location of the tree
(`node?_writeScenarios`), and from it when an export stays inside its directory.  Payloads
with plain names never leave it; in general it stays inside exactly if no payload that gets
written leaves something new outside.
-/

namespace IncidentDigest.FileTree

/-! ## 1. Where payloads go -/

def destination (t : FileTree) (directory : String) (p : ScenarioPayload) : Location :=
  t.location (FilePath.append directory p.fileName)

/-- The last one of some payloads that goes to a location. -/
def lastAt (t : FileTree) (directory : String) (ps : List ScenarioPayload) (l : Location) :
    Option ScenarioPayload :=
  (ps.filter fun p => t.destination directory p == l).getLast?

/-- The payloads up to the first one that cannot be written. -/
def writable (t : FileTree) (directory : String) (indented : Bool) :
    List ScenarioPayload → List ScenarioPayload
  | [] => []
  | p :: rest =>
    match t.write (FilePath.append directory p.fileName) (p.body.render indented) with
    | .ok t => p :: t.writable directory indented rest
    | .error _ => []

theorem lastAt_congr {t u : FileTree} (h : t.workingDirectory = u.workingDirectory) :
    t.lastAt = u.lastAt := by
  funext directory ps l
  unfold lastAt destination
  rw [location_congr h]

theorem lastAt_cons (t : FileTree) (directory : String) (p : ScenarioPayload)
    (ps : List ScenarioPayload) (l : Location) :
    t.lastAt directory (p :: ps) l =
      (t.lastAt directory ps l).or (if t.destination directory p = l then some p else none) := by
  unfold lastAt
  by_cases h : t.destination directory p = l
  · rw [List.filter_cons_of_pos (by simpa using h), List.getLast?_cons, if_pos h]
    rcases (ps.filter fun q => t.destination directory q == l).getLast? with _ | q
    · rfl
    · rfl
  · rw [List.filter_cons_of_neg (by simpa using h), if_neg h, Option.or_none]

theorem mem_of_lastAt {t : FileTree} {directory : String} {ps : List ScenarioPayload}
    {l : Location} {p : ScenarioPayload} (h : t.lastAt directory ps l = some p) :
    p ∈ ps ∧ t.destination directory p = l := by
  have hmem := List.mem_filter.mp (List.mem_of_getLast? h)
  exact ⟨hmem.1, by simpa using hmem.2⟩

/-! ## 2. The effect of an export -/

theorem node?_writePayloads (t : FileTree) (directory : String) (indented : Bool)
    (ps : List ScenarioPayload) (l : Location) :
    (t.writePayloads directory indented ps).1.node? l =
      match t.lastAt directory (t.writable directory indented ps) l with
      | some p => some (.file (p.body.render indented))
      | none => t.node? l := by
  induction ps generalizing t with
  | nil => rfl
  | cons p rest ih =>
      rw [writePayloads, writable]
      cases hwrite : t.write (FilePath.append directory p.fileName) (p.body.render indented) with
      | error e => rfl
      | ok u =>
          -- what comes later wins over what is written now
          obtain ⟨hu, -⟩ := write_spec hwrite
          have hlast : u.lastAt = t.lastAt := lastAt_congr (by rw [hu]; rfl)
          dsimp only
          rw [ih u, hlast, lastAt_cons]
          rcases t.lastAt directory (u.writable directory indented rest) l with _ | q
          · by_cases h : t.destination directory p = l
            · rw [if_pos h, hu, ← h]
              exact node?_set_self t _ _
            · rw [if_neg h, hu]
              exact node?_set_of_ne t _ (Ne.symm h)
          · rfl

/-- The payloads that an export writes. -/
def exported (t : FileTree) (directory : String) (indented : Bool)
    (ps : List ScenarioPayload) : List ScenarioPayload :=
  match t.ensureDirectory directory with
  | (u, .ok ()) => u.writable directory indented ps
  | (_, .error _) => []

theorem grown_ensureDirectory (t : FileTree) (directory : String) :
    Grown (t.locations (FilePath.ancestors directory)) t (t.ensureDirectory directory).1 := by
  have hgrown := grown_makeAncestors t (FilePath.ancestors directory)
  unfold ensureDirectory makeDirectories
  rcases h : t.makeAncestors (FilePath.ancestors directory) with ⟨u, e | v⟩
  · rw [h] at hgrown
    exact hgrown
  · rw [h] at hgrown
    exact hgrown

/-- **The effect of an export**, at every location of the tree, whether or not it
succeeds. -/
theorem node?_writeScenarios (t : FileTree) (directory : String) (ps : List ScenarioPayload)
    (indented : Bool) (l : Location) :
    (t.writeScenarios directory ps indented).1.node? l =
      match t.lastAt directory (t.exported directory indented ps) l with
      | some p => some (.file (p.body.render indented))
      | none => (t.ensureDirectory directory).1.node? l := by
  have hworking := (grown_ensureDirectory t directory).workingDirectory
  unfold writeScenarios exported
  rcases h : t.ensureDirectory directory with ⟨u, e | v⟩
  · rfl
  · rw [h] at hworking
    dsimp only at hworking ⊢
    rw [← lastAt_congr hworking, ← node?_writePayloads]
    rcases u.writePayloads directory indented ps with ⟨v, e | _⟩
    · rfl
    · rfl

theorem writable_isPrefix (t : FileTree) (directory : String) (indented : Bool)
    (ps : List ScenarioPayload) : t.writable directory indented ps <+: ps := by
  induction ps generalizing t with
  | nil => exact List.prefix_refl []
  | cons p rest ih =>
      rw [writable]
      cases t.write (FilePath.append directory p.fileName) (p.body.render indented) with
      | error e => exact List.nil_prefix
      | ok u => exact (List.prefix_cons_inj p).mpr (ih u)

theorem exported_isPrefix (t : FileTree) (directory : String) (indented : Bool)
    (ps : List ScenarioPayload) : t.exported directory indented ps <+: ps := by
  unfold exported
  rcases t.ensureDirectory directory with ⟨u, e | v⟩
  · exact List.nil_prefix
  · exact writable_isPrefix u directory indented ps

theorem writable_eq_of_ok {t : FileTree} {directory : String} {indented : Bool}
    {ps : List ScenarioPayload} (h : (t.writePayloads directory indented ps).2 = .ok ()) :
    t.writable directory indented ps = ps := by
  induction ps generalizing t with
  | nil => rfl
  | cons p rest ih =>
      rw [writePayloads] at h
      rw [writable]
      cases hwrite : t.write (FilePath.append directory p.fileName) (p.body.render indented) with
      | error e =>
          rw [hwrite] at h
          cases h
      | ok u =>
          rw [hwrite] at h
          exact congrArg (p :: ·) (ih h)

theorem exported_eq_of_ok {t : FileTree} {directory : String} {indented : Bool}
    {ps : List ScenarioPayload} {n : Nat}
    (h : (t.writeScenarios directory ps indented).2 = .ok n) :
    t.exported directory indented ps = ps ∧ n = ps.length := by
  unfold writeScenarios at h
  unfold exported
  rcases hready : t.ensureDirectory directory with ⟨u, e | v⟩
  · rw [hready] at h
    cases h
  · rw [hready] at h
    dsimp only at h ⊢
    rcases hwritten : u.writePayloads directory indented ps with ⟨v, e | _⟩
    · rw [hwritten] at h
      cases h
    · rw [hwritten] at h
      exact ⟨writable_eq_of_ok (by rw [hwritten]), (Except.ok.inj h).symm⟩

/-! ## 3. Staying inside -/

/-- A location is outside a directory if it is not the directory, not above it and not
below it.  Above it are the locations of the paths above it, and those on the way to it. -/
structure Outside (t : FileTree) (directory : String) (l : Location) : Prop where
  notNamed : l ∉ t.locations (FilePath.ancestors directory)
  notAbove : ¬ l <+: t.location directory
  notBelow : ¬ t.location directory <+: l

theorem Outside.node?_writeScenarios {t : FileTree} {directory : String} {l : Location}
    (h : t.Outside directory l) (ps : List ScenarioPayload) (indented : Bool) :
    (t.writeScenarios directory ps indented).1.node? l =
      match t.lastAt directory (t.exported directory indented ps) l with
      | some p => some (.file (p.body.render indented))
      | none => t.node? l := by
  rw [FileTree.node?_writeScenarios,
    (grown_ensureDirectory t directory).node_of_notMem h.notNamed]

/-- **When an export stays inside its directory.**  It leaves everything outside as it
was exactly if each file that its payloads leave outside was there before, with the same
content. -/
theorem writeScenarios_confined_iff (t : FileTree) (directory : String)
    (ps : List ScenarioPayload) (indented : Bool) :
    (∀ l, t.Outside directory l →
        (t.writeScenarios directory ps indented).1.node? l = t.node? l) ↔
      ∀ l, t.Outside directory l →
        ∀ p, t.lastAt directory (t.exported directory indented ps) l = some p →
          t.node? l = some (.file (p.body.render indented)) := by
  constructor
  · intro hconfined l hl p hp
    have heffect := hl.node?_writeScenarios ps indented
    rw [hp, hconfined l hl] at heffect
    exact heffect
  · intro hsame l hl
    rw [hl.node?_writeScenarios ps indented]
    rcases hp : t.lastAt directory (t.exported directory indented ps) l with _ | p
    · rfl
    · exact (hsame l hl p hp).symm

/-! ### Plain names -/

theorem length_fileName (p : ScenarioPayload) : 5 ≤ p.fileName.toList.length := by
  unfold ScenarioPayload.fileName
  rw [String.toList_append, List.length_append]
  exact Nat.le_add_left _ _

/-- A name without a slash stays in the directory: it never is a point or two points. -/
theorem destination_of_plain {directory : String} {p : ScenarioPayload} (t : FileTree)
    (h : '/' ∉ p.fileName.toList) :
    t.destination directory p = t.location directory ++ [p.fileName] := by
  have hlong := length_fileName p
  have hhead : p.fileName.toList.head? ≠ some '/' := by
    intro hhead
    exact h (List.mem_of_head? hhead)
  unfold destination
  rw [location_append t directory hhead]
  unfold walk
  rw [FilePath.pieces_of_notMem h, List.map_singleton, String.ofList_toList, List.foldl_cons,
    List.foldl_nil]
  refine moved_name ?_ ?_ ?_
  all_goals
    intro hname
    rw [hname] at hlong
    exact absurd hlong (by decide)

/-- **Payloads with plain names never leave the directory**, whether or not the export
succeeds. -/
theorem node?_writeScenarios_of_plain {t : FileTree} {directory : String}
    {ps : List ScenarioPayload} (hplain : ∀ p ∈ ps, '/' ∉ p.fileName.toList) (indented : Bool)
    {l : Location} (hl : t.Outside directory l) :
    (t.writeScenarios directory ps indented).1.node? l = t.node? l := by
  rw [hl.node?_writeScenarios ps indented]
  rcases hp : t.lastAt directory (t.exported directory indented ps) l with _ | p
  · rfl
  · obtain ⟨hmem, hdestination⟩ := mem_of_lastAt hp
    have hgiven : p ∈ ps := (exported_isPrefix t directory indented ps).subset hmem
    rw [destination_of_plain t (hplain p hgiven)] at hdestination
    exact absurd ⟨_, hdestination⟩ hl.notBelow

/-! ### Two points -/

def strayPayload : ScenarioPayload := ⟨.obj [("scenario_id", .str "../evil")]⟩

/-- An id with two points puts a file beside the directory. -/
theorem writeScenarios_not_confined :
    ∃ l, Outside ⟨[], []⟩ "out" l ∧ node? ⟨[], []⟩ l = none ∧
      (writeScenarios ⟨[], []⟩ "out" [strayPayload] false).1.node? l =
        some (.file "\x7b\"scenario_id\":\"../evil\"\x7d") := by
  refine ⟨["evil.json"], ?_, by decide, by decide +kernel⟩
  refine ⟨?_, by decide, by decide⟩
  rintro ⟨above, habove, hlocation⟩
  have hancestors : FilePath.ancestors "out" = ["out", ""] := by decide +kernel
  rw [hancestors] at habove
  rcases List.mem_pair.mp habove with rfl | rfl
  · exact absurd hlocation (by decide)
  · exact absurd hlocation (by decide)

end IncidentDigest.FileTree
