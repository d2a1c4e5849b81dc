import IncidentDigest.Settings.Reader
import Mathlib

/-!
# What the two checks accept

Arguments are checked before any settings are read, and the settings in force are checked
afterwards.  Four settings can be given in both places: the base address, the timeout, the number
of tries, and the length of the window.  A `Choice` is a value for one of them, and `Acceptable`
says which values can be worked with.  The check of the arguments accepts exactly these.  The
check of the settings accepts these as well, and every base address besides.
-/

namespace IncidentDigest

open CommandLine

/-! ## 1. The two checks -/

namespace CommandLine.Arguments

theorem hasProtocol_iff (url : String) : hasProtocol url = true ↔
    "http://".toList <+: url.toList ∨ "https://".toList <+: url.toList := by
  unfold hasProtocol
  rw [Bool.or_eq_true, List.isPrefixOf_iff_prefix, List.isPrefixOf_iff_prefix]

theorem check_eq_ok_iff (a : Arguments) : a.check = .ok () ↔
    (a.verbose && a.quiet) = false ∧ (∀ url, a.baseUrl = some url → hasProtocol url = true) ∧
      a.timeoutSeconds ≠ some 0 ∧ a.attempts ≠ some 0 ∧ checkCommand a.command = .ok () := by
  have hurl : a.baseUrl.any (fun url => !hasProtocol url) = false ↔
      ∀ url, a.baseUrl = some url → hasProtocol url = true := by
    cases a.baseUrl <;> simp
  rw [← hurl]
  unfold check
  split_ifs <;> simp_all

theorem checkCommand_analyse_iff (c : AnalyseArguments) : checkCommand (.analyse c) = .ok () ↔
    isEmptyText c.service = false ∧ ∀ minutes, c.windowMinutes = some minutes → 1 ≤ minutes := by
  have hwindow : c.windowMinutes.any (· ≤ 0) = false ↔
      ∀ minutes, c.windowMinutes = some minutes → 1 ≤ minutes := by
    cases c.windowMinutes with
    | none => simp
    | some minutes => simp; omega
  rw [← hwindow]
  simp only [checkCommand]
  split_ifs <;> simp_all

end CommandLine.Arguments

namespace Settings

theorem check_eq_ok_iff (s : Settings) : s.check = .ok () ↔
    1 ≤ s.api.timeoutSeconds ∧ 1 ≤ s.api.attempts ∧ 1 ≤ s.analysis.windowMinutes := by
  unfold check
  split_ifs <;> simp <;> omega

/-! ## 2. Choices -/

/-- A value for one of the settings that can be given in both places. -/
inductive Choice where
  | baseUrl (url : String)
  | timeout (seconds : Nat)
  | attempts (number : Nat)
  | window (minutes : Int)

namespace Choice

/-- The value can be worked with. -/
def Acceptable : Choice → Prop
  | .baseUrl url => "http://".toList <+: url.toList ∨ "https://".toList <+: url.toList
  | .timeout seconds => 1 ≤ seconds
  | .attempts number => 1 ≤ number
  | .window minutes => 1 ≤ minutes

/-- The length of the window that a command asks for. -/
def windowOf : Command → Option Int
  | .analyse c => c.windowMinutes
  | _ => none

/-- The arguments with the value given by an option.  Only analyses report on a window. -/
def inArguments : Choice → Arguments → Arguments
  | .baseUrl url, a => { a with baseUrl := some url }
  | .timeout seconds, a => { a with timeoutSeconds := some seconds }
  | .attempts number, a => { a with attempts := some number }
  | .window minutes, a => { a with command := match a.command with
      | .analyse c => .analyse { c with windowMinutes := some minutes }
      | command => command }

/-- The settings with the value given by their file. -/
def inSettings : Choice → Settings → Settings
  | .baseUrl url, s => { s with api := { s.api with baseUrl := url } }
  | .timeout seconds, s => { s with api := { s.api with timeoutSeconds := seconds } }
  | .attempts number, s => { s with api := { s.api with attempts := number } }
  | .window minutes, s => { s with analysis := { s.analysis with windowMinutes := minutes } }

/-- The arguments could give the value and do not. -/
def LeftOpen (a : Arguments) : Choice → Prop
  | .baseUrl _ => a.baseUrl = none
  | .timeout _ => a.timeoutSeconds = none
  | .attempts _ => a.attempts = none
  | .window _ => ∃ c, a.command = .analyse c ∧ c.windowMinutes = none

/-- Arguments that leave a value open, and settings, with nothing else in them to be refused. -/
structure Undecided (v : Choice) (a : Arguments) (s : Settings) : Prop where
  leftOpen : v.LeftOpen a
  arguments : a.check = .ok ()
  settings : (s.withArguments a).check = .ok ()

variable {v : Choice} {a : Arguments} {s : Settings}

/-- **The check of the arguments** accepts what can be worked with. -/
theorem check_inArguments_iff (hopen : v.LeftOpen a) (hcheck : a.check = .ok ()) :
    (v.inArguments a).check = .ok () ↔ v.Acceptable := by
  rw [Arguments.check_eq_ok_iff] at hcheck ⊢
  obtain ⟨hquiet, hurl, htimeout, hattempts, hcommand⟩ := hcheck
  cases v with
  | baseUrl url =>
      constructor
      · intro h
        exact (Arguments.hasProtocol_iff url).mp (h.2.1 url rfl)
      · intro h
        refine ⟨hquiet, ?_, htimeout, hattempts, hcommand⟩
        intro given hgiven
        obtain rfl : url = given := Option.some.inj hgiven
        exact (Arguments.hasProtocol_iff url).mpr h
  | timeout seconds =>
      constructor
      · intro h
        apply Nat.one_le_iff_ne_zero.mpr
        rintro rfl
        exact h.2.2.1 rfl
      · intro h
        refine ⟨hquiet, hurl, ?_, hattempts, hcommand⟩
        intro hzero
        obtain rfl : seconds = 0 := Option.some.inj hzero
        exact Nat.not_succ_le_zero 0 h
  | attempts number =>
      constructor
      · intro h
        apply Nat.one_le_iff_ne_zero.mpr
        rintro rfl
        exact h.2.2.2.1 rfl
      · intro h
        refine ⟨hquiet, hurl, htimeout, ?_, hcommand⟩
        intro hzero
        obtain rfl : number = 0 := Option.some.inj hzero
        exact Nat.not_succ_le_zero 0 h
  | window minutes =>
      obtain ⟨c, hc, -⟩ := hopen
      rw [hc, Arguments.checkCommand_analyse_iff] at hcommand
      have hchosen : (inArguments (.window minutes) a).command =
          .analyse { c with windowMinutes := some minutes } := by
        simp [inArguments, hc]
      rw [hchosen, Arguments.checkCommand_analyse_iff]
      constructor
      · intro h
        exact h.2.2.2.2.2 minutes rfl
      · intro h
        refine ⟨hquiet, hurl, htimeout, hattempts, hcommand.1, ?_⟩
        intro given hgiven
        obtain rfl : minutes = given := Option.some.inj hgiven
        exact h

/-- **The check of the settings** accepts it as well, and every base address besides. -/
theorem check_inSettings_iff (hopen : v.LeftOpen a) (hcheck : (s.withArguments a).check = .ok ()) :
    ((v.inSettings s).withArguments a).check = .ok () ↔
      v.Acceptable ∨ ∃ url, v = .baseUrl url := by
  rw [check_eq_ok_iff] at hcheck ⊢
  obtain ⟨htimeout, hattempts, hwindow⟩ := hcheck
  cases v with
  | baseUrl url =>
      constructor
      · intro _
        exact Or.inr ⟨url, rfl⟩
      · intro _
        exact ⟨htimeout, hattempts, hwindow⟩
  | timeout seconds =>
      have hseconds : ((inSettings (.timeout seconds) s).withArguments a).api.timeoutSeconds =
          seconds := congrArg (·.getD seconds) (show a.timeoutSeconds = none from hopen)
      rw [hseconds]
      simp only [Acceptable, reduceCtorEq, exists_false, or_false]
      exact ⟨And.left, fun h => ⟨h, hattempts, hwindow⟩⟩
  | attempts number =>
      have hnumber : ((inSettings (.attempts number) s).withArguments a).api.attempts =
          number := congrArg (·.getD number) (show a.attempts = none from hopen)
      rw [hnumber]
      simp only [Acceptable, reduceCtorEq, exists_false, or_false]
      exact ⟨fun h => h.2.1, fun h => ⟨htimeout, h, hwindow⟩⟩
  | window minutes =>
      simp only [Acceptable, reduceCtorEq, exists_false, or_false]
      exact ⟨fun h => h.2.2, fun h => ⟨htimeout, hattempts, h⟩⟩

/-! ## 3. Agreement -/

/-- A value is accepted from the command line exactly if it is accepted from the settings file,
where nothing else is refused. -/
def SourcesAgree (v : Choice) : Prop :=
  ∀ a s, v.Undecided a s →
    ((v.inArguments a).check = .ok () ↔ ((v.inSettings s).withArguments a).check = .ok ())

/-- Arguments with nothing in them that could be refused. -/
def plainArguments : Arguments where
  baseUrl := none
  userAgent := none
  authorization := none
  timeoutSeconds := none
  attempts := none
  settingsFile := none
  verbose := false
  quiet := false
  command := .fetch ⟨"scenarios_full.json", none⟩

theorem undecided_baseUrl (url : String) : (baseUrl url).Undecided plainArguments .default where
  leftOpen := rfl
  arguments := by decide
  settings := by decide

theorem sourcesAgree_of_acceptable (h : ∀ url, v = .baseUrl url → v.Acceptable) :
    v.SourcesAgree := by
  intro a s hundecided
  rw [check_inArguments_iff hundecided.leftOpen hundecided.arguments,
    check_inSettings_iff hundecided.leftOpen hundecided.settings]
  constructor
  · exact Or.inl
  · rintro (haccepted | ⟨url, hurl⟩)
    · exact haccepted
    · exact h url hurl

theorem not_sourcesAgree {url : String} (h : ¬ (baseUrl url).Acceptable) :
    ¬ (baseUrl url).SourcesAgree := by
  intro hagree
  have hundecided := undecided_baseUrl url
  apply h
  rw [← check_inArguments_iff hundecided.leftOpen hundecided.arguments, hagree _ _ hundecided,
    check_inSettings_iff hundecided.leftOpen hundecided.settings]
  exact Or.inr ⟨url, rfl⟩

/-! ## 4. Values in force -/

/-- The value that counts, given the arguments and the settings that have been loaded. -/
def InForce (a : Arguments) (s : Settings) : Choice → Prop
  | .baseUrl url => a.baseUrl.getD s.api.baseUrl = url
  | .timeout seconds => a.timeoutSeconds.getD s.api.timeoutSeconds = seconds
  | .attempts number => a.attempts.getD s.api.attempts = number
  | .window minutes => (windowOf a.command).getD s.analysis.windowMinutes = minutes

/-- A window is judged where it is given: by the check of the arguments or by that of the
settings. -/
theorem one_le_window (harguments : a.check = .ok ()) (hsettings : s.check = .ok ()) :
    1 ≤ (windowOf a.command).getD s.analysis.windowMinutes := by
  obtain ⟨-, -, hwindow⟩ := (check_eq_ok_iff s).mp hsettings
  cases hgiven : windowOf a.command with
  | none => exact hwindow
  | some minutes =>
      obtain ⟨-, -, -, -, hcommand⟩ := a.check_eq_ok_iff.mp harguments
      unfold windowOf at hgiven
      split at hgiven
      · rename_i c hc
        rw [hc, Arguments.checkCommand_analyse_iff] at hcommand
        exact hcommand.2 minutes hgiven
      · cases hgiven

/-- **What both checks let pass can be worked with**, from whichever source it comes, except for
a base address that is not given by the arguments. -/
theorem acceptable_of_inForce (hcheck : a.check = .ok ())
    (haccepted : (s.withArguments a).check = .ok ()) (h : v.InForce a s) :
    v.Acceptable ∨ (∃ url, v = .baseUrl url) ∧ a.baseUrl = none := by
  obtain ⟨htimeout, hattempts, -⟩ := (check_eq_ok_iff _).mp haccepted
  cases v with
  | baseUrl url =>
      obtain ⟨-, hurl, -⟩ := a.check_eq_ok_iff.mp hcheck
      cases hgiven : a.baseUrl with
      | none => exact Or.inr ⟨⟨url, rfl⟩, rfl⟩
      | some given =>
          have hforce : a.baseUrl.getD s.api.baseUrl = url := h
          obtain rfl : given = url := by simpa [hgiven] using hforce
          exact Or.inl ((Arguments.hasProtocol_iff given).mp (hurl given hgiven))
  | timeout seconds =>
      obtain rfl : a.timeoutSeconds.getD s.api.timeoutSeconds = seconds := h
      exact Or.inl htimeout
  | attempts number =>
      obtain rfl : a.attempts.getD s.api.attempts = number := h
      exact Or.inl hattempts
  | window minutes =>
      obtain rfl : (windowOf a.command).getD s.analysis.windowMinutes = minutes := h
      have hwindow := one_le_window hcheck haccepted
      exact Or.inl hwindow

end Choice
end Settings
end IncidentDigest
