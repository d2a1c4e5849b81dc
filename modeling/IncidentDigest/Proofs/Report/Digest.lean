import IncidentDigest.Proofs.Report.Lines

/-!
# What the digest tells

The text digest of an analysis report puts free text between signs that the free text may hold
as well.  It still tells the facts apart: each line gives back its entry, and the sections follow
each other by their place, since every line of an entry has something in it and an empty line
comes before every heading.  So two reports with the same digest have the same entries, the same
counts and the same findings (`renderText_determines_facts`).  What it does not tell is which
service the report is about, since its name and that of the environment stand on one line.
-/

namespace IncidentDigest.AnalysisReport

/-! ## 1. Sections -/

/-- A line that an entry can have: it is not empty, and it does not say that there is none. -/
structure IsEntryLine (l : String) : Prop where
  ne_empty : l ≠ ""
  ne_none : l ≠ "- none"

theorem isEntryLine_namedLine (e : NamedCount) : IsEntryLine (namedLine e) := by
  constructor
  · intro h
    have hchars := congrArg String.toList h
    rw [toList_namedLine] at hchars
    simp at hchars
  · intro h
    -- there is a colon in the line
    have hcolon : ':' ∈ (namedLine e).toList := by simp [toList_namedLine]
    rw [h] at hcolon
    exact absurd hcolon (by decide)

theorem isEntryLine_rankedLine (e : RankedEntry) : IsEntryLine (rankedLine e) := by
  constructor
  · intro h
    have hchars := congrArg String.toList h
    rw [toList_rankedLine] at hchars
    simp at hchars
  · intro h
    have hbracket : '(' ∈ (rankedLine e).toList := by simp [toList_rankedLine]
    rw [h] at hbracket
    exact absurd hbracket (by decide)

/-- What stands below a heading. -/
def sectionBody (lines : List String) : List String :=
  if lines.isEmpty then ["- none"] else lines

theorem sectionLines_eq (heading : String) (lines : List String) :
    sectionLines heading lines = "" :: (heading ++ ":") :: sectionBody lines := rfl

theorem ne_empty_of_mem_sectionBody {lines : List String} (h : ∀ l ∈ lines, IsEntryLine l) :
    ∀ l ∈ sectionBody lines, l ≠ "" := by
  intro l hl
  cases lines with
  | nil =>
      rw [List.mem_singleton.mp hl]
      decide
  | cons first rest => exact (h l hl).ne_empty

/-- **A section without entries is never written like one with entries.** -/
theorem sectionBody_injective {xs ys : List String} (hxs : ∀ l ∈ xs, IsEntryLine l)
    (hys : ∀ l ∈ ys, IsEntryLine l) (h : sectionBody xs = sectionBody ys) : xs = ys := by
  cases xs with
  | nil =>
      cases ys with
      | nil => rfl
      | cons y ys =>
          have hy : "- none" = y := (List.cons.inj h).1
          exact absurd hy.symm (hys y List.mem_cons_self).ne_none
  | cons x xs =>
      cases ys with
      | nil =>
          have hx : x = "- none" := (List.cons.inj h).1
          exact absurd hx (hxs x List.mem_cons_self).ne_none
      | cons y ys => exact h

/-- What follows a section: nothing, or an empty line first. -/
def StartsAnew (lines : List String) : Prop := ∀ l ∈ lines.head?, l = ""

theorem eq_nil_of_startsAnew {lines rest : List String} (hlines : ∀ l ∈ lines, l ≠ "")
    (h : StartsAnew (lines ++ rest)) : lines = [] := by
  cases lines with
  | nil => rfl
  | cons l lines => exact absurd (h l rfl) (hlines l List.mem_cons_self)

/-- Lines with something in them end where an empty line follows. -/
theorem eq_of_append_eq_of_startsAnew {xs ys rest rest' : List String} (hxs : ∀ l ∈ xs, l ≠ "")
    (hys : ∀ l ∈ ys, l ≠ "") (hrest : StartsAnew rest) (hrest' : StartsAnew rest')
    (h : xs ++ rest = ys ++ rest') : xs = ys ∧ rest = rest' := by
  rcases List.append_eq_append_iff.mp h with ⟨m, rfl, rfl⟩ | ⟨m, rfl, rfl⟩
  · obtain rfl := eq_nil_of_startsAnew (fun l hl => hys l (List.mem_append_right _ hl)) hrest
    simp
  · obtain rfl := eq_nil_of_startsAnew (fun l hl => hxs l (List.mem_append_right _ hl)) hrest'
    simp

/-- **A section can be told from what follows it.** -/
theorem eq_of_sectionLines_append {heading : String} {xs ys rest rest' : List String}
    (hxs : ∀ l ∈ xs, IsEntryLine l) (hys : ∀ l ∈ ys, IsEntryLine l) (hrest : StartsAnew rest)
    (hrest' : StartsAnew rest')
    (h : sectionLines heading xs ++ rest = sectionLines heading ys ++ rest') :
    xs = ys ∧ rest = rest' := by
  rw [sectionLines_eq, sectionLines_eq] at h
  have hbodies := (List.cons.inj (List.cons.inj h).2).2
  obtain ⟨hbody, hafter⟩ := eq_of_append_eq_of_startsAnew (ne_empty_of_mem_sectionBody hxs)
    (ne_empty_of_mem_sectionBody hys) hrest hrest' hbodies
  exact ⟨sectionBody_injective hxs hys hbody, hafter⟩

theorem startsAnew_sectionLines (heading : String) (lines rest : List String) :
    StartsAnew (sectionLines heading lines ++ rest) := by
  intro l hl
  exact (Option.some.inj hl).symm

/-- The lines of the findings. -/
def findingLines (insights : List String) : List String :=
  if insights.isEmpty then [] else "" :: "Insights:" :: insights.map fun i => "- " ++ i

theorem startsAnew_findingLines (insights : List String) : StartsAnew (findingLines insights) := by
  intro l hl
  cases insights with
  | nil => simp [findingLines] at hl
  | cons i is => exact (Option.some.inj hl).symm

theorem findingLines_injective : Function.Injective findingLines := by
  have hline : Function.Injective fun i : String => "- " ++ i := by
    intro i j h
    simpa using h
  intro xs ys h
  cases xs with
  | nil =>
      cases ys with
      | nil => rfl
      | cons y ys => cases h
  | cons x xs =>
      cases ys with
      | nil => cases h
      | cons y ys =>
          have htail := (List.cons.inj (List.cons.inj h).2).2
          exact List.map_injective_iff.mpr hline htail

/-! ## 2. Reports -/

/-- A report all of whose texts have no line feed. -/
structure OneLined (r : AnalysisReport) : Prop where
  start : OneLine r.window.start
  stop : OneLine r.window.stop
  service : OneLine r.service
  metric : OneLine r.metric
  environment : OneLine r.environment
  topVersions : ∀ e ∈ r.analysis.topVersions, OneLine e.value
  topHosts : ∀ e ∈ r.analysis.topHosts, OneLine e.value
  errorCodes : ∀ e ∈ r.analysis.errorCodes, OneLine e.value
  dependencies : ∀ e ∈ r.analysis.dependencies, OneLine e.name
  operations : ∀ e ∈ r.analysis.operations, OneLine e.name
  insights : ∀ i ∈ r.insights, OneLine i

/-- Two reports give the same values with the same counts, in the same order, and the same
findings. -/
structure SameFacts (r r' : AnalysisReport) : Prop where
  topVersions : r.analysis.topVersions.map RankedEntry.counted =
    r'.analysis.topVersions.map RankedEntry.counted
  topHosts : r.analysis.topHosts.map RankedEntry.counted =
    r'.analysis.topHosts.map RankedEntry.counted
  errorCodes : r.analysis.errorCodes.map RankedEntry.counted =
    r'.analysis.errorCodes.map RankedEntry.counted
  dependencies : r.analysis.dependencies = r'.analysis.dependencies
  operations : r.analysis.operations = r'.analysis.operations
  insights : r.insights = r'.insights

def headLines (r : AnalysisReport) : List String :=
  [s!"RCA summary for {r.service} ({r.environment})", s!"Metric: {r.metric}",
    s!"Window: {r.window.start} -> {r.window.stop}"]

theorem textLines_eq (r : AnalysisReport) : r.textLines = r.headLines ++
    (sectionLines "Top versions" (r.analysis.topVersions.map rankedLine) ++
    (sectionLines "Top hosts" (r.analysis.topHosts.map rankedLine) ++
    (sectionLines "Error codes" (r.analysis.errorCodes.map rankedLine) ++
    (sectionLines "Dependencies" (r.analysis.dependencies.map namedLine) ++
    (sectionLines "Operations" (r.analysis.operations.map namedLine) ++
    findingLines r.insights))))) := by
  simp only [← List.append_assoc]
  rfl

theorem oneLine_headLines {r : AnalysisReport} (h : r.OneLined) :
    ∀ l ∈ r.headLines, OneLine l := by
  intro l hl
  simp only [headLines, List.mem_cons, List.not_mem_nil, or_false] at hl
  rcases hl with rfl | rfl | rfl
  · have hservice : OneLine ("RCA summary for " ++ r.service) :=
      OneLine.append (by decide) h.service
    exact ((hservice.append (by decide)).append h.environment).append (by decide)
  · exact OneLine.append (by decide) h.metric
  · have hstart : OneLine ("Window: " ++ r.window.start) := OneLine.append (by decide) h.start
    exact (hstart.append (by decide)).append h.stop

theorem oneLine_sectionLines {heading : String} {lines : List String} (hheading : OneLine heading)
    (h : ∀ l ∈ lines, OneLine l) : ∀ l ∈ sectionLines heading lines, OneLine l := by
  intro l hl
  rw [sectionLines_eq] at hl
  rcases List.mem_cons.mp hl with rfl | hl
  · decide
  rcases List.mem_cons.mp hl with rfl | hl
  · exact hheading.append (by decide)
  cases lines with
  | nil =>
      rw [List.mem_singleton.mp hl]
      decide
  | cons first rest => exact h l hl

theorem oneLine_findingLines {insights : List String} (h : ∀ i ∈ insights, OneLine i) :
    ∀ l ∈ findingLines insights, OneLine l := by
  intro l hl
  cases insights with
  | nil => cases hl
  | cons first rest =>
      rcases List.mem_cons.mp hl with rfl | hl
      · decide
      rcases List.mem_cons.mp hl with rfl | hl
      · decide
      obtain ⟨i, hi, rfl⟩ := List.mem_map.mp hl
      exact OneLine.append (by decide) (h i hi)

/-- Each line of a digest is one line of its text. -/
theorem oneLine_textLines {r : AnalysisReport} (h : r.OneLined) :
    ∀ l ∈ r.textLines, OneLine l := by
  have hranked : ∀ {entries : List RankedEntry}, (∀ e ∈ entries, OneLine e.value) →
      ∀ l ∈ entries.map rankedLine, OneLine l := by
    intro entries hentries l hl
    obtain ⟨e, he, rfl⟩ := List.mem_map.mp hl
    exact oneLine_rankedLine (hentries e he)
  have hnamed : ∀ {entries : List NamedCount}, (∀ e ∈ entries, OneLine e.name) →
      ∀ l ∈ entries.map namedLine, OneLine l := by
    intro entries hentries l hl
    obtain ⟨e, he, rfl⟩ := List.mem_map.mp hl
    exact oneLine_namedLine (hentries e he)
  intro l hl
  rw [textLines_eq] at hl
  rcases List.mem_append.mp hl with hl | hl
  · exact oneLine_headLines h l hl
  rcases List.mem_append.mp hl with hl | hl
  · exact oneLine_sectionLines (by decide) (hranked h.topVersions) l hl
  rcases List.mem_append.mp hl with hl | hl
  · exact oneLine_sectionLines (by decide) (hranked h.topHosts) l hl
  rcases List.mem_append.mp hl with hl | hl
  · exact oneLine_sectionLines (by decide) (hranked h.errorCodes) l hl
  rcases List.mem_append.mp hl with hl | hl
  · exact oneLine_sectionLines (by decide) (hnamed h.dependencies) l hl
  rcases List.mem_append.mp hl with hl | hl
  · exact oneLine_sectionLines (by decide) (hnamed h.operations) l hl
  · exact oneLine_findingLines h.insights l hl

theorem textLines_eq_of_renderText {r r' : AnalysisReport} (hr : r.OneLined) (hr' : r'.OneLined)
    (h : r.renderText = r'.renderText) : r.textLines = r'.textLines :=
  eq_of_joinWith_eq (oneLine_textLines hr) (List.cons_ne_nil _ _) (oneLine_textLines hr')
    (List.cons_ne_nil _ _) h

theorem forall_isEntryLine_ranked (entries : List RankedEntry) :
    ∀ l ∈ entries.map rankedLine, IsEntryLine l := by
  intro l hl
  obtain ⟨e, -, rfl⟩ := List.mem_map.mp hl
  exact isEntryLine_rankedLine e

theorem forall_isEntryLine_named (entries : List NamedCount) :
    ∀ l ∈ entries.map namedLine, IsEntryLine l := by
  intro l hl
  obtain ⟨e, -, rfl⟩ := List.mem_map.mp hl
  exact isEntryLine_namedLine e

theorem map_counted_eq {entries entries' : List RankedEntry}
    (h : entries.map rankedLine = entries'.map rankedLine) :
    entries.map RankedEntry.counted = entries'.map RankedEntry.counted := by
  have hfactors : Function.FactorsThrough RankedEntry.counted rankedLine :=
    fun _ _ => counted_eq_of_rankedLine
  have hmap : ∀ entries : List RankedEntry, entries.map RankedEntry.counted =
      (entries.map rankedLine).map
        (Function.extend rankedLine RankedEntry.counted fun _ => ⟨"", 0⟩) := by
    intro entries
    rw [List.map_map]
    exact List.map_congr_left fun e _ => (hfactors.extend_apply _ e).symm
  rw [hmap entries, h, ← hmap entries']

/-- A section of ranked entries gives back their values and counts. -/
theorem eq_of_rankedLines_append {heading : String} {entries entries' : List RankedEntry}
    {rest rest' : List String} (hrest : StartsAnew rest) (hrest' : StartsAnew rest')
    (h : sectionLines heading (entries.map rankedLine) ++ rest =
      sectionLines heading (entries'.map rankedLine) ++ rest') :
    entries.map RankedEntry.counted = entries'.map RankedEntry.counted ∧ rest = rest' := by
  obtain ⟨hlines, hafter⟩ := eq_of_sectionLines_append (forall_isEntryLine_ranked entries)
    (forall_isEntryLine_ranked entries') hrest hrest' h
  exact ⟨map_counted_eq hlines, hafter⟩

/-- A section of counted names gives back its entries. -/
theorem eq_of_namedLines_append {heading : String} {entries entries' : List NamedCount}
    {rest rest' : List String} (hrest : StartsAnew rest) (hrest' : StartsAnew rest')
    (h : sectionLines heading (entries.map namedLine) ++ rest =
      sectionLines heading (entries'.map namedLine) ++ rest') :
    entries = entries' ∧ rest = rest' := by
  obtain ⟨hlines, hafter⟩ := eq_of_sectionLines_append (forall_isEntryLine_named entries)
    (forall_isEntryLine_named entries') hrest hrest' h
  exact ⟨List.map_injective_iff.mpr namedLine_injective hlines, hafter⟩

theorem sameFacts_of_textLines {r r' : AnalysisReport} (h : r.textLines = r'.textLines) :
    r.SameFacts r' := by
  have hnext := startsAnew_sectionLines
  have hlast := startsAnew_findingLines
  rw [textLines_eq, textLines_eq] at h
  -- three lines come first, and then one section after the other
  have h := (List.append_inj h rfl).2
  obtain ⟨hversions, h⟩ := eq_of_rankedLines_append (hnext _ _ _) (hnext _ _ _) h
  obtain ⟨hhosts, h⟩ := eq_of_rankedLines_append (hnext _ _ _) (hnext _ _ _) h
  obtain ⟨hcodes, h⟩ := eq_of_rankedLines_append (hnext _ _ _) (hnext _ _ _) h
  obtain ⟨hdependencies, h⟩ := eq_of_namedLines_append (hnext _ _ _) (hnext _ _ _) h
  obtain ⟨hoperations, h⟩ := eq_of_namedLines_append (hlast _) (hlast _) h
  exact {
    topVersions := hversions
    topHosts := hhosts
    errorCodes := hcodes
    dependencies := hdependencies
    operations := hoperations
    insights := findingLines_injective h }

theorem sectionLines_ne_of_ne_nil {heading : String} {lines : List String}
    (hlines : ∀ l ∈ lines, IsEntryLine l) (hne : lines ≠ []) :
    sectionLines heading lines ≠ sectionLines heading [] := by
  intro h
  rw [sectionLines_eq, sectionLines_eq] at h
  have hbody := (List.cons.inj (List.cons.inj h).2).2
  exact hne (sectionBody_injective hlines (by simp) hbody)

/-- **The digest tells the facts.**  Two reports without line feeds in their texts that have the
same digest give the same values with the same counts, in the same order, and the same findings;
and a section without entries is written like no section with entries. -/
theorem renderText_determines_facts {r r' : AnalysisReport} (hr : r.OneLined)
    (hr' : r'.OneLined) (h : r.renderText = r'.renderText) :
    r.SameFacts r' ∧
    (∀ heading (e : RankedEntry) entries,
      sectionLines heading ((e :: entries).map rankedLine) ≠ sectionLines heading []) ∧
    (∀ heading (e : NamedCount) entries,
      sectionLines heading ((e :: entries).map namedLine) ≠ sectionLines heading []) := by
  refine ⟨sameFacts_of_textLines (textLines_eq_of_renderText hr hr' h), ?_, ?_⟩
  · intro heading e entries
    exact sectionLines_ne_of_ne_nil (forall_isEntryLine_ranked _) (List.cons_ne_nil _ _)
  · intro heading e entries
    exact sectionLines_ne_of_ne_nil (forall_isEntryLine_named _) (List.cons_ne_nil _ _)

/-- A report whose values look like other parts of a digest. -/
def bracketed (service environment : String) : AnalysisReport where
  window := ⟨"2024-01-01T00:00:00+00:00", "2024-01-01T00:30:00+00:00"⟩
  service
  metric := "latency"
  environment
  analysis := {
    topVersions := [⟨"1: 2 (3%)", 3, percentage 3 4⟩, ⟨"none", 1, percentage 1 4⟩]
    topHosts := []
    errorCodes := []
    dependencies := [⟨"db: 1", 2⟩]
    operations := [] }
  insights := ["none"]

/-- The bracket before the environment may as well stand in the name of the service.  The facts are
the same. -/
theorem renderText_determines_facts_bracketed :
    (bracketed "web (a" "b").OneLined ∧ (bracketed "web" "a (b").OneLined ∧
    (bracketed "web (a" "b").renderText = (bracketed "web" "a (b").renderText ∧
    (bracketed "web (a" "b").SameFacts (bracketed "web" "a (b") := by
  have hlines : ∀ service environment, OneLine service → OneLine environment →
      (bracketed service environment).OneLined := by
    intro service environment hservice henvironment
    exact {
      start := by simp only [bracketed]; decide
      stop := by simp only [bracketed]; decide
      service := hservice
      metric := by simp only [bracketed]; decide
      environment := henvironment
      topVersions := by simp only [bracketed]; decide
      topHosts := by simp [bracketed]
      errorCodes := by simp [bracketed]
      dependencies := by simp only [bracketed]; decide
      operations := by simp [bracketed]
      insights := by simp only [bracketed]; decide }
  have hfirst := hlines "web (a" "b" (by decide) (by decide)
  have hsecond := hlines "web" "a (b" (by decide) (by decide)
  have htext : (bracketed "web (a" "b").renderText = (bracketed "web" "a (b").renderText := by
    decide +kernel
  exact ⟨hfirst, hsecond, htext, (renderText_determines_facts hfirst hsecond htext).1⟩

end IncidentDigest.AnalysisReport
