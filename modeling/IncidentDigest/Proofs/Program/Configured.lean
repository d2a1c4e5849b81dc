import IncidentDigest.Proofs.Program.ExitCode
import IncidentDigest.Proofs.Settings.Acceptance

/-!
# Runs under accepted settings

A run requests nothing before its arguments and the settings in force have been accepted.  So a
request is made with values that can be worked with, whichever source they come from, except for
the base address: the two checks agree on every value but on base addresses without one of the
two protocols, which the settings file can give and the command line cannot.  Some of these can
be requested.
-/

namespace IncidentDigest

open CommandLine

namespace Program

/-! ## 1. Settings of a run -/

/-- The settings in force are those that have been loaded, under the arguments, if they are
accepted. -/
theorem settings_eq_ok_iff {a : Arguments} {s : Settings} {w w' : World} :
    (settings a).runIn w = (.ok s, w') ↔ ∃ loaded,
      (loadSettings a.settingsFile).runIn w = (.ok loaded, w') ∧
      loaded.withArguments a = s ∧ s.check = .ok () := by
  constructor
  · intro h
    obtain ⟨loaded, w₁, hload, h⟩ := ok_of_runIn_bind h
    obtain ⟨u, w₂, hcheck, h⟩ := ok_of_runIn_bind h
    obtain ⟨haccepted, rfl⟩ := runIn_orFail_eq_ok_iff.mp hcheck
    obtain ⟨rfl, rfl⟩ : loaded.withArguments a = s ∧ w₁ = w' := by simpa using h
    exact ⟨loaded, hload, rfl, haccepted⟩
  · rintro ⟨loaded, hload, rfl, haccepted⟩
    unfold settings
    rw [runIn_bind_ok hload, runIn_bind_ok (runIn_orFail_eq_ok_iff.mpr ⟨haccepted, rfl⟩)]
    rfl

theorem offline_init : init.Offline := by
  intro w
  change (init w).2.session.network = _ ∧ (init w).2.session.sent = _
  unfold init
  split
  · exact ⟨rfl, rfl⟩
  · split
    · exact ⟨rfl, rfl⟩
    · exact ⟨rfl, rfl⟩

/-- **What a run does to the network** it does under accepted arguments and settings. -/
theorem settings_of_requested {words : List String} {environment : List (String × String)}
    {now : Instant} {w w' : World} {ending : Ending}
    (hrun : execute words environment now w = (ending, w'))
    (hrequested : w'.session.network ≠ w.session.network) :
    ∃ a loaded w₁, CommandLine.parse words environment = .ok a ∧ a.check = .ok () ∧
      (loadSettings a.settingsFile).runIn w = (.ok loaded, w₁) ∧
      (loaded.withArguments a).check = .ok () := by
  cases hparse : CommandLine.parse words environment with
  | error e =>
      have hsame : (Ending.usage e, w) = (ending, w') := by
        rw [← hrun, execute, hparse]
      obtain ⟨-, rfl⟩ := Prod.mk.inj hsame
      exact absurd rfl hrequested
  | ok a =>
      cases hcheck : a.check with
      | error f =>
          have hsame : (Ending.refused f, w) = (ending, w') := by
            rw [← hrun]
            simp only [execute, hparse, hcheck]
          obtain ⟨-, rfl⟩ := Prod.mk.inj hsame
          exact absurd rfl hrequested
      | ok u =>
          have haction : ((action a now).runIn w).2 = w' := by
            rcases execute_cases hparse hcheck hrun with ⟨-, h⟩ | ⟨f, -, h⟩
            · rw [h]
            · rw [h]
          subst haction
          unfold action at hrequested
          split at hrequested
          · exact absurd (offline_init w).1 hrequested
          · rw [run_eq] at hrequested
            rcases hsettings : (settings a).runIn w with ⟨f | s, w₁⟩
            · -- without settings, nothing has been requested when the run ends
              rw [runIn_bind_error hsettings] at hrequested
              exact absurd ((offline_settings a).network_eq hsettings) hrequested
            · obtain ⟨loaded, hload, rfl, haccepted⟩ := settings_eq_ok_iff.mp hsettings
              exact ⟨a, loaded, w₁, rfl, hcheck, hload, haccepted⟩

/-! ## 2. Values from either source -/

open Settings (Choice)

/-- **The two sources agree on every value but on base addresses without a protocol.**  Where
nothing else is refused, the command line accepts the values that can be worked with, and the
settings file accepts these and any base address.  So a value that counts in a run that requests
something can be worked with, unless it is a base address that the command line does not give. -/
theorem sources_agree_iff (v : Choice) :
    (∀ a s, v.Undecided a s → ((v.inArguments a).check = .ok () ↔ v.Acceptable) ∧
      (((v.inSettings s).withArguments a).check = .ok () ↔
        v.Acceptable ∨ ∃ url, v = .baseUrl url)) ∧
    (v.SourcesAgree ↔ ∀ url, v = .baseUrl url → v.Acceptable) ∧
    ∀ words environment now w ending w', execute words environment now w = (ending, w') →
      w'.session.network ≠ w.session.network →
      ∃ a loaded w₁, CommandLine.parse words environment = .ok a ∧
        (loadSettings a.settingsFile).runIn w = (.ok loaded, w₁) ∧
        (v.InForce a loaded → v.Acceptable ∨ (∃ url, v = .baseUrl url) ∧ a.baseUrl = none) := by
  refine ⟨?_, ?_, ?_⟩
  · intro a s hundecided
    exact ⟨Choice.check_inArguments_iff hundecided.leftOpen hundecided.arguments,
      Choice.check_inSettings_iff hundecided.leftOpen hundecided.settings⟩
  · constructor
    · rintro hagree url rfl
      by_contra hrefused
      exact Choice.not_sourcesAgree hrefused hagree
    · exact Choice.sourcesAgree_of_acceptable
  · intro words environment now w ending w' hrun hrequested
    obtain ⟨a, loaded, w₁, hparse, hcheck, hload, haccepted⟩ :=
      settings_of_requested hrun hrequested
    exact ⟨a, loaded, w₁, hparse, hload, Choice.acceptable_of_inForce hcheck haccepted⟩

/-- A world in which every connection is refused, with a settings file that writes the protocol
of the base address in capitals. -/
def capitalsWorld : World := .start (fun _ _ => .refusal)
  ⟨[([Settings.fileName], .file "[api]\nbase_url = \"HTTP://api.local\"\n")], []⟩

/-- On the command line this address is refused.  From the settings file it is requested, once
for each try. -/
theorem sources_disagree_on_capitals :
    ¬ (Choice.baseUrl "HTTP://api.local").SourcesAgree ∧
    (execute ["--base-url", "HTTP://api.local", "fetch-scenarios"] [] ⟨0, 0⟩ unreachable).1 =
      .refused .baseUrl ∧
    (execute ["fetch-scenarios"] [] ⟨0, 0⟩ capitalsWorld).2.session.network.asked =
      List.replicate 3 ⟨.get, "http://api.local/hackathon/scenarios"⟩ := by
  have hunacceptable : ¬ (Choice.baseUrl "HTTP://api.local").Acceptable := by
    unfold Choice.Acceptable
    decide
  refine ⟨Choice.not_sourcesAgree hunacceptable, ?_, ?_⟩
  · decide +kernel
  · decide +kernel

end Program
end IncidentDigest
