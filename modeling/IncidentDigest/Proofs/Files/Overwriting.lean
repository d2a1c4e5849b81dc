import IncidentDigest.Proofs.Files.Confinement

/-!
# Which payloads survive an export

A file is overwritten if a later payload goes to the same place.  Payloads with one id do
so, and so do all payloads without an id.  An export that succeeds reports the number of
payloads, however many files they have left.  `writeScenarios_keepsAll_iff` says when
nothing is lost: no two payloads may go to the same location, and what leads out of the
directory must have its text in the directory by some other way.  For plain names this
means that the names are distinct.
-/

namespace IncidentDigest.FileTree

/-! ## 1. Files written -/

/-- The locations of the files that an export writes. -/
def written (t : FileTree) (directory : String) (indented : Bool)
    (ps : List ScenarioPayload) : Finset Location :=
  ((t.exported directory indented ps).map (t.destination directory)).toFinset

/-- A location below the one that a directory leads to. -/
def Below (t : FileTree) (directory : String) (l : Location) : Prop :=
  t.location directory <+: l ∧ l ≠ t.location directory

/-- An export that loses nothing: what it reports is the number of files that it has
written, and the text of every payload is in a file of the directory. -/
structure KeepsAll (t : FileTree) (directory : String) (indented : Bool)
    (ps : List ScenarioPayload) (reported : Nat) : Prop where
  counted : reported = (t.written directory indented ps).card
  kept : ∀ p ∈ ps, ∃ l, t.Below directory l ∧
    (t.writeScenarios directory ps indented).1.node? l = some (.file (p.body.render indented))

theorem lastAt_eq_none {t : FileTree} {directory : String} {ps : List ScenarioPayload}
    {l : Location} (h : t.lastAt directory ps l = none) :
    ∀ p ∈ ps, t.destination directory p ≠ l := by
  unfold lastAt at h
  rw [List.getLast?_eq_none_iff, List.filter_eq_nil_iff] at h
  intro p hp heq
  exact h p hp (by simpa using heq)

/-- Where no two payloads go to the same location, each is the last one at its own. -/
theorem lastAt_destination {t : FileTree} {directory : String} {ps : List ScenarioPayload}
    (hnodup : (ps.map (t.destination directory)).Nodup) {p : ScenarioPayload} (hp : p ∈ ps) :
    t.lastAt directory ps (t.destination directory p) = some p := by
  cases hlast : t.lastAt directory ps (t.destination directory p) with
  | none => exact absurd rfl (lastAt_eq_none hlast p hp)
  | some q =>
      obtain ⟨hq, hdestination⟩ := mem_of_lastAt hlast
      rw [List.inj_on_of_nodup_map hnodup hq hp hdestination]

/-- Making the directory changes no file. -/
theorem node?_ensureDirectory_eq_file_iff (t : FileTree) (directory : String) (l : Location)
    (content : String) :
    (t.ensureDirectory directory).1.node? l = some (.file content) ↔
      t.node? l = some (.file content) :=
  (grown_ensureDirectory t directory).file_iff l content

/-! ## 2. When nothing is lost -/

/-- The text of a payload is to be found at a location after an export: a payload with this
text goes there, or none does and the text was there before. -/
def Holds (t : FileTree) (directory : String) (indented : Bool) (ps : List ScenarioPayload)
    (l : Location) (text : String) : Prop :=
  (∃ q ∈ ps, t.destination directory q = l ∧ q.body.render indented = text) ∨
    (∀ q ∈ ps, t.destination directory q ≠ l) ∧ t.node? l = some (.file text)

theorem holds_of_node? {t : FileTree} {directory : String} {indented : Bool}
    {ps : List ScenarioPayload} (hall : t.exported directory indented ps = ps) {l : Location}
    {text : String}
    (h : (t.writeScenarios directory ps indented).1.node? l = some (.file text)) :
    t.Holds directory indented ps l text := by
  rw [node?_writeScenarios, hall] at h
  cases hlast : t.lastAt directory ps l with
  | some q =>
      rw [hlast] at h
      obtain ⟨hq, hdestination⟩ := mem_of_lastAt hlast
      exact Or.inl ⟨q, hq, hdestination, by simpa using h⟩
  | none =>
      rw [hlast] at h
      exact Or.inr ⟨lastAt_eq_none hlast, (node?_ensureDirectory_eq_file_iff t _ _ _).mp h⟩

theorem node?_of_holds {t : FileTree} {directory : String} {indented : Bool}
    {ps : List ScenarioPayload} (hall : t.exported directory indented ps = ps)
    (hnodup : (ps.map (t.destination directory)).Nodup) {l : Location} {text : String}
    (h : t.Holds directory indented ps l text) :
    (t.writeScenarios directory ps indented).1.node? l = some (.file text) := by
  rw [node?_writeScenarios, hall]
  rcases h with ⟨q, hq, rfl, rfl⟩ | ⟨hnone, htext⟩
  · rw [lastAt_destination hnodup hq]
  · cases hlast : t.lastAt directory ps l with
    | some q =>
        obtain ⟨hq, hdestination⟩ := mem_of_lastAt hlast
        exact absurd hdestination (hnone q hq)
    | none => exact (node?_ensureDirectory_eq_file_iff t _ _ _).mpr htext

theorem card_written_eq_length_iff {t : FileTree} {directory : String} {indented : Bool}
    {ps : List ScenarioPayload} (hall : t.exported directory indented ps = ps) :
    ps.length = (t.written directory indented ps).card ↔
      (ps.map (t.destination directory)).Nodup := by
  unfold written
  rw [hall, List.card_toFinset, ← List.length_map (t.destination directory)]
  constructor
  · intro hlength
    rw [← List.dedup_eq_self]
    exact (List.dedup_sublist _).eq_of_length hlength.symm
  · intro hnodup
    rw [hnodup.dedup]

/-- **When an export that succeeds loses nothing.**  It does so exactly if all payloads go
to different locations, and every text is to be found below the directory. -/
theorem writeScenarios_keepsAll_iff {t : FileTree} {directory : String} {indented : Bool}
    {ps : List ScenarioPayload} {reported : Nat}
    (h : (t.writeScenarios directory ps indented).2 = .ok reported) :
    t.KeepsAll directory indented ps reported ↔
      (ps.map (t.destination directory)).Nodup ∧
        ∀ p ∈ ps, ∃ l, t.Below directory l ∧
          t.Holds directory indented ps l (p.body.render indented) := by
  obtain ⟨hall, rfl⟩ := exported_eq_of_ok h
  constructor
  · rintro ⟨hcounted, hkept⟩
    refine ⟨(card_written_eq_length_iff hall).mp hcounted, ?_⟩
    intro p hp
    obtain ⟨l, hbelow, hnode⟩ := hkept p hp
    exact ⟨l, hbelow, holds_of_node? hall hnode⟩
  · rintro ⟨hnodup, hfound⟩
    refine ⟨(card_written_eq_length_iff hall).mpr hnodup, ?_⟩
    intro p hp
    obtain ⟨l, hbelow, hholds⟩ := hfound p hp
    exact ⟨l, hbelow, node?_of_holds hall hnodup hholds⟩

/-- **Plain names.**  An export of payloads whose names hold no slash loses nothing exactly
if their names are distinct. -/
theorem keepsAll_iff_nodup_fileName {t : FileTree} {directory : String} {indented : Bool}
    {ps : List ScenarioPayload} {reported : Nat}
    (h : (t.writeScenarios directory ps indented).2 = .ok reported)
    (hplain : ∀ p ∈ ps, '/' ∉ p.fileName.toList) :
    t.KeepsAll directory indented ps reported ↔ (ps.map ScenarioPayload.fileName).Nodup := by
  have hplace : ∀ p ∈ ps, t.destination directory p = t.location directory ++ [p.fileName] :=
    fun p hp => destination_of_plain t (hplain p hp)
  have hnames : ps.map (t.destination directory) =
      (ps.map ScenarioPayload.fileName).map fun name => t.location directory ++ [name] := by
    rw [List.map_map]
    exact List.map_congr_left hplace
  have hinjective : Function.Injective fun name => t.location directory ++ [name] := by
    intro a b hab
    simpa using hab
  obtain ⟨hall, rfl⟩ := exported_eq_of_ok h
  rw [← List.nodup_map_iff hinjective, ← hnames, ← card_written_eq_length_iff hall]
  constructor
  · intro hkeeps
    exact hkeeps.counted
  · intro hcounted
    refine ⟨hcounted, ?_⟩
    intro p hp
    refine ⟨t.destination directory p, ?_, ?_⟩
    · rw [hplace p hp]
      exact ⟨List.prefix_append _ _, by simp⟩
    · exact node?_of_holds hall ((card_written_eq_length_iff hall).mp hcounted)
        (Or.inl ⟨p, hp, rfl, rfl⟩)

/-! ### Two payloads -/

def firstPayload : ScenarioPayload := ⟨.obj [("scenario_id", .str "a"), ("title", .str "first")]⟩

def secondPayload : ScenarioPayload := ⟨.obj [("scenario_id", .str "a"), ("title", .str "second")]⟩

def otherPayload : ScenarioPayload := ⟨.obj [("scenario_id", .str "b")]⟩

/-- Two ids make two files. -/
theorem writeScenarios_keepsAll_two_ids :
    (writeScenarios ⟨[], []⟩ "out" [firstPayload, otherPayload] false).2 = .ok 2 ∧
      KeepsAll ⟨[], []⟩ "out" false [firstPayload, otherPayload] 2 := by
  have hok : (writeScenarios ⟨[], []⟩ "out" [firstPayload, otherPayload] false).2 = .ok 2 := by
    decide +kernel
  refine ⟨hok, (writeScenarios_keepsAll_iff hok).mpr ⟨by decide +kernel, ?_⟩⟩
  intro p hp
  refine ⟨destination ⟨[], []⟩ "out" p, ?_, Or.inl ⟨p, hp, rfl, rfl⟩⟩
  rcases List.mem_pair.mp hp with rfl | rfl
  · exact ⟨by decide +kernel, by decide +kernel⟩
  · exact ⟨by decide +kernel, by decide +kernel⟩

/-- Of two payloads with one id, the second overwrites the first: two are reported, one
file is written, and the text of the first is nowhere in the tree. -/
theorem writeScenarios_overwrites :
    (writeScenarios ⟨[], []⟩ "out" [firstPayload, secondPayload] false).2 = .ok 2 ∧
      (written ⟨[], []⟩ "out" false [firstPayload, secondPayload]).card = 1 ∧
      (∀ l, (writeScenarios ⟨[], []⟩ "out" [firstPayload, secondPayload] false).1.node? l ≠
        some (.file (firstPayload.body.render false))) ∧
      ¬ KeepsAll ⟨[], []⟩ "out" false [firstPayload, secondPayload] 2 := by
  have hcard : (written ⟨[], []⟩ "out" false [firstPayload, secondPayload]).card = 1 := by
    decide +kernel
  refine ⟨by decide +kernel, hcard, ?_, fun hkeeps => by simpa [hcard] using hkeeps.counted⟩
  intro l hfirst
  have hall : exported ⟨[], []⟩ "out" false [firstPayload, secondPayload] =
      [firstPayload, secondPayload] := (exported_eq_of_ok (n := 2) (by decide +kernel)).1
  have hlater : ((lastAt ⟨[], []⟩ "out" [firstPayload, secondPayload] ["out", "a.json"]).map
      fun p => p.body.render false) = some (secondPayload.body.render false) := by decide +kernel
  rw [node?_writeScenarios, hall] at hfirst
  cases hlast : lastAt ⟨[], []⟩ "out" [firstPayload, secondPayload] l with
  | some q =>
      rw [hlast] at hfirst
      obtain ⟨hq, rfl⟩ := mem_of_lastAt hlast
      have hplace : destination ⟨[], []⟩ "out" q = ["out", "a.json"] := by
        rcases List.mem_pair.mp hq with rfl | rfl
        · decide +kernel
        · decide +kernel
      rw [hplace] at hlast
      rw [hlast, Option.map_some] at hlater
      dsimp only at hfirst
      rw [Option.some.inj hlater] at hfirst
      exact absurd hfirst (by decide +kernel)
  | none =>
      -- nothing was in the tree before
      rw [hlast] at hfirst
      have hbefore := (node?_ensureDirectory_eq_file_iff _ _ _ _).mp hfirst
      unfold node? at hbefore
      rw [List.find?_nil] at hbefore
      dsimp only at hbefore
      split at hbefore
      · cases hbefore
      · cases hbefore

end IncidentDigest.FileTree
