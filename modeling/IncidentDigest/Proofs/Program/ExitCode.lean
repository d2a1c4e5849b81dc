import IncidentDigest.Proofs.Program.Effects

/-!
# The exit code tells whose failure it was

Exit code 2 means that a service has failed the program.  The commands differ in which of
their operations they isolate: an analysis falls back on a local file, a dump passes over
what it cannot have of single scenarios, a download needs everything.  The relation
`UnisolatedFailure` says from the operations alone when a command is failed by a service.
This is what the exit code shows, and nothing has been written by then.
-/

namespace IncidentDigest

open CommandLine

/-- An operation of a service that the command does not isolate ends in a failure. -/
inductive UnisolatedFailure (s : Settings) (session : Session) : Command → ServiceError → Prop where
  /-- The listing of a download. -/
  | listing {a : FetchArguments} {c : Client} {e : ServiceError}
      (hclient : Client.ofSettings s.api = .ok c)
      (hlist : c.list.Fails session e) : UnisolatedFailure s session (.fetch a) e
  /-- A scenario of a download, after the scenarios before it have been had. -/
  | scenario {a : FetchArguments} {c : Client} {e : ServiceError}
      {entries : List ScenarioSummary} {before after : List String} {id : String}
      {got : List ScenarioPayload} {listed reached : Session}
      (hclient : Client.ofSettings s.api = .ok c)
      (hlist : c.list.runIn session = (.ok entries, listed))
      (hids : entries.filterMap Client.usableId? = before ++ id :: after)
      (hbefore : (c.payloads before).runIn listed = (.ok got, reached))
      (hid : (c.payload id).Fails reached e) : UnisolatedFailure s session (.fetch a) e
  /-- The reset before a dump. -/
  | reset {a : DumpArguments} {c : Client} {e : ServiceError}
      (hclient : Client.ofSettings s.api = .ok c) (hwanted : a.reset = true)
      (hreset : c.reset.Fails session e) : UnisolatedFailure s session (.dump a) e
  /-- The listing of a dump. -/
  | dumpListing {a : DumpArguments} {c : Client} {e : ServiceError}
      (hclient : Client.ofSettings s.api = .ok c) (hwanted : a.reset = false)
      (hlist : c.list.Fails session e) : UnisolatedFailure s session (.dump a) e
  /-- The listing of a dump, after a reset. -/
  | dumpListingAfterReset {a : DumpArguments} {c : Client} {e : ServiceError} {answer : Json}
      {fresh : Session} (hclient : Client.ofSettings s.api = .ok c) (hwanted : a.reset = true)
      (hreset : c.reset.runIn session = (.ok answer, fresh))
      (hlist : c.list.Fails fresh e) : UnisolatedFailure s session (.dump a) e
  /-- The post of a message. -/
  | post {a : PostArguments} {token channel : String} {e : ServiceError}
      (htoken : a.token.or s.chat.token = some token)
      (hchannel : a.channel.or s.chat.channel = some channel)
      (hpost : (ChatClient.post ⟨s.chat.url, token, s.api.timeoutSeconds⟩ channel a.text).Fails
        session e) : UnisolatedFailure s session (.post a) e

theorem Failure.exitCode_eq_two_iff (f : Failure) : f.exitCode = 2 ↔ ∃ e, f = .service e := by
  cases f <;> simp [exitCode]

theorem Failure.exitCode_eq_one {f : Failure} (h : f.exitCode ≠ 2) : f.exitCode = 1 := by
  cases f <;> simp_all [exitCode]

namespace Program

/-! ## 1. Analyses and settings files -/

theorem local_analyse (s : Settings) (a : AnalyseArguments) (now : Instant) :
    (analyse s a now).Local := by
  refine (local_client s).bind fun c => ?_
  refine local_files.bind fun t => ?_
  refine (local_call fun session => Client.recordsOrLocal_ok c t _ _ session).bind fun records => ?_
  refine (local_orFail (by simp) records).bind fun records => ?_
  refine (local_orFail (by simp) _).bind fun report => ?_
  exact local_output _ report

theorem local_init : init.Local := by
  intro w e h
  have hresult : (init w).1 = .error (.service e) := h
  unfold init at hresult
  split at hresult
  · exact absurd (Except.error.inj hresult) (by simp)
  · split at hresult
    · exact absurd (Except.error.inj hresult) (by simp)
    · exact absurd hresult (by simp [print])

/-! ## 2. Downloads -/

/-- What a download does with the payloads. -/
def savePayloads (s : Settings) (a : FetchArguments) (payloads : List ScenarioPayload) :
    Program Unit := do
  if let some directory := a.directory then
    let _ ← store fun files => files.writeScenarios directory payloads s.output.indented
  output (some a.output) ((Json.arr (payloads.map (·.body))).render s.output.indented)

theorem fetch_eq (s : Settings) (a : FetchArguments) :
    fetch s a = client s >>= fun c => call c.fetchAll >>= savePayloads s a := rfl

theorem local_savePayloads (s : Settings) (a : FetchArguments) (payloads : List ScenarioPayload) :
    (savePayloads s a payloads).Local := by
  unfold savePayloads
  rcases a.directory with _ | directory
  · exact local_output _ _
  · exact (local_store _).bind fun _ => local_output _ _

theorem exposes_fetch_iff (s : Settings) (a : FetchArguments) (w : World) (e : ServiceError) :
    (fetch s a).Exposes w e ↔ UnisolatedFailure s w.session (.fetch a) e := by
  have hcall : (fetch s a).Exposes w e ↔
      ∃ c, Client.ofSettings s.api = .ok c ∧ c.fetchAll.Fails w.session e := by
    rw [fetch_eq]
    refine (exposes_orFail_bind_iff (by simp)).trans (exists_congr fun c => and_congr_right' ?_)
    exact (exposes_bind_iff_of_local (local_savePayloads s a)).trans exposes_call_iff
  rw [hcall]
  constructor
  · rintro ⟨c, hclient, h⟩
    rcases (c.fetchAll_fails_iff w.session e).mp h with hlist | ⟨entries, listed, hlist, h⟩
    · exact .listing hclient hlist
    · obtain ⟨before, id, after, got, reached, hids, hbefore, hid⟩ :=
        (c.payloads_fails_iff _ listed e).mp h
      exact .scenario hclient hlist hids hbefore hid
  · intro h
    cases h with
    | listing hclient hlist =>
        exact ⟨_, hclient, (Client.fetchAll_fails_iff _ _ _).mpr (Or.inl hlist)⟩
    | scenario hclient hlist hids hbefore hid =>
        refine ⟨_, hclient, (Client.fetchAll_fails_iff _ _ _).mpr (Or.inr ⟨_, _, hlist, ?_⟩)⟩
        exact (Client.payloads_fails_iff _ _ _ _).mpr ⟨_, _, _, _, _, hids, hbefore, hid⟩

theorem quietWhenExposed_fetch (s : Settings) (a : FetchArguments) :
    (fetch s a).QuietWhenExposed := by
  rw [fetch_eq]
  refine (quiet_client s).bind_quietWhenExposed fun c => ?_
  refine (quiet_call _).bind_quietWhenExposed fun payloads => ?_
  exact (local_savePayloads s a payloads).quietWhenExposed

/-! ## 3. Dumps -/

/-- What a dump does with the dumps of the scenarios. -/
def saveDumps (s : Settings) (a : DumpArguments) (dumps : List ScenarioDump) : Program Unit := do
  if dumps.isEmpty then throw (.noScenario (Client.wanted? a.scenario))
  output a.output (match a.format with
    | .json => (Json.arr (dumps.map ScenarioDump.toJson)).render s.output.indented
    | .text => ScenarioDump.renderText dumps)

theorem dump_eq_of_reset {s : Settings} {a : DumpArguments} (h : a.reset = true) :
    dump s a = client s >>= fun c =>
      call c.reset >>= fun _ => call (c.dump a.scenario) >>= saveDumps s a := by
  unfold dump
  rw [h]
  rfl

theorem dump_eq_of_no_reset {s : Settings} {a : DumpArguments} (h : a.reset = false) :
    dump s a = client s >>= fun c => call (c.dump a.scenario) >>= saveDumps s a := by
  unfold dump
  rw [h]
  rfl

theorem local_saveDumps (s : Settings) (a : DumpArguments) (dumps : List ScenarioDump) :
    (saveDumps s a dumps).Local := by
  unfold saveDumps
  cases dumps.isEmpty
  · exact local_output _ _
  · exact (local_throw (by simp)).bind fun _ => local_output _ _

theorem exposes_dumped_iff (c : Client) (s : Settings) (a : DumpArguments) (w : World)
    (e : ServiceError) : (call (c.dump a.scenario) >>= saveDumps s a).Exposes w e ↔
      c.list.Fails w.session e := by
  rw [exposes_bind_iff_of_local (local_saveDumps s a), exposes_call_iff, Client.dump_fails_iff]

theorem exposes_dump_iff (s : Settings) (a : DumpArguments) (w : World) (e : ServiceError) :
    (dump s a).Exposes w e ↔ UnisolatedFailure s w.session (.dump a) e := by
  cases hwanted : a.reset with
  | false =>
      rw [dump_eq_of_no_reset hwanted]
      refine (exposes_orFail_bind_iff (by simp)).trans ?_
      simp only [exposes_dumped_iff]
      constructor
      · rintro ⟨c, hclient, hlist⟩
        exact .dumpListing hclient hwanted hlist
      · intro h
        cases h with
        | reset _ hreset _ => exact absurd (hwanted.symm.trans hreset) (by simp)
        | dumpListing hclient _ hlist => exact ⟨_, hclient, hlist⟩
        | dumpListingAfterReset _ hreset _ _ => exact absurd (hwanted.symm.trans hreset) (by simp)
  | true =>
      rw [dump_eq_of_reset hwanted]
      have hcalls : ∀ c : Client,
          (call c.reset >>= fun _ => call (c.dump a.scenario) >>= saveDumps s a).Exposes w e ↔
            c.reset.Fails w.session e ∨ ∃ answer fresh,
              c.reset.runIn w.session = (.ok answer, fresh) ∧ c.list.Fails fresh e := by
        intro c
        rw [exposes_call_bind_iff]
        simp only [exposes_dumped_iff]
      refine (exposes_orFail_bind_iff (by simp)).trans ?_
      simp only [hcalls]
      constructor
      · rintro ⟨c, hclient, hreset | ⟨answer, fresh, hreset, hlist⟩⟩
        · exact .reset hclient hwanted hreset
        · exact .dumpListingAfterReset hclient hwanted hreset hlist
      · intro h
        cases h with
        | reset hclient _ hreset => exact ⟨_, hclient, Or.inl hreset⟩
        | dumpListing _ hno _ => exact absurd (hwanted.symm.trans hno) (by simp)
        | dumpListingAfterReset hclient _ hreset hlist =>
            exact ⟨_, hclient, Or.inr ⟨_, _, hreset, hlist⟩⟩

theorem quietWhenExposed_dump (s : Settings) (a : DumpArguments) :
    (dump s a).QuietWhenExposed := by
  have hlast : ∀ c : Client, (call (c.dump a.scenario) >>= saveDumps s a).QuietWhenExposed := by
    intro c
    refine (quiet_call _).bind_quietWhenExposed fun dumps => ?_
    exact (local_saveDumps s a dumps).quietWhenExposed
  cases hwanted : a.reset with
  | false =>
      rw [dump_eq_of_no_reset hwanted]
      exact (quiet_client s).bind_quietWhenExposed hlast
  | true =>
      rw [dump_eq_of_reset hwanted]
      refine (quiet_client s).bind_quietWhenExposed fun c => ?_
      exact (quiet_call _).bind_quietWhenExposed fun _ => hlast c

/-! ## 4. Posts -/

theorem exposes_post_iff (s : Settings) (a : PostArguments) (w : World) (e : ServiceError) :
    (post s a).Exposes w e ↔ UnisolatedFailure s w.session (.post a) e := by
  unfold post
  refine (exposes_orElseFail_bind_iff (by simp)).trans ?_
  constructor
  · rintro ⟨token, htoken, h⟩
    obtain ⟨channel, hchannel, h⟩ := (exposes_orElseFail_bind_iff (by simp)).mp h
    have hpost := (exposes_bind_iff_of_local fun _ => local_pure _).mp h
    exact .post htoken hchannel (exposes_call_iff.mp hpost)
  · intro h
    cases h with
    | post htoken hchannel hpost =>
        refine ⟨_, htoken, (exposes_orElseFail_bind_iff (by simp)).mpr ⟨_, hchannel, ?_⟩⟩
        exact (exposes_bind_iff_of_local fun _ => local_pure _).mpr (exposes_call_iff.mpr hpost)

theorem quiet_post (s : Settings) (a : PostArguments) : (post s a).Quiet := by
  refine (quiet_orElseFail _ _).bind fun token => ?_
  refine (quiet_orElseFail _ _).bind fun channel => ?_
  exact (quiet_call _).bind fun _ => quiet_pure _

/-! ## 5. Commands -/

/-- What a command does under the settings in force. -/
def carryOut (s : Settings) (now : Instant) : Command → Program Unit
  | .analyse a => analyse s a now
  | .fetch a => fetch s a
  | .dump a => dump s a
  | .post a => post s a
  | .init => init

theorem run_eq (a : Arguments) (now : Instant) :
    run a now = settings a >>= fun s => carryOut s now a.command := by
  rfl

/-- **A command is failed by a service exactly if an operation that it does not isolate
ends in a failure.** -/
theorem exposes_carryOut_iff (s : Settings) (now : Instant) (command : Command) (w : World)
    (e : ServiceError) :
    (carryOut s now command).Exposes w e ↔ UnisolatedFailure s w.session command e := by
  cases command with
  | analyse a =>
      constructor
      · intro h
        exact absurd h (local_analyse s a now w e)
      · intro h
        cases h
  | fetch a => exact exposes_fetch_iff s a w e
  | dump a => exact exposes_dump_iff s a w e
  | post a => exact exposes_post_iff s a w e
  | init =>
      constructor
      · intro h
        exact absurd h (local_init w e)
      · intro h
        cases h

theorem quietWhenExposed_carryOut (s : Settings) (now : Instant) (command : Command) :
    (carryOut s now command).QuietWhenExposed := by
  cases command with
  | analyse a => exact (local_analyse s a now).quietWhenExposed
  | fetch a => exact quietWhenExposed_fetch s a
  | dump a => exact quietWhenExposed_dump s a
  | post a => exact (quiet_post s a).quietWhenExposed
  | init => exact local_init.quietWhenExposed

theorem exposes_run_iff (a : Arguments) (now : Instant) (w : World) (e : ServiceError) :
    (run a now).Exposes w e ↔ ∃ s w₁, (settings a).runIn w = (.ok s, w₁) ∧
      UnisolatedFailure s w₁.session a.command e := by
  rw [run_eq, exposes_bind_iff]
  simp only [exposes_carryOut_iff]
  constructor
  · rintro (h | h)
    · exact absurd h (local_settings a w e)
    · exact h
  · exact Or.inr

theorem quietWhenExposed_run (a : Arguments) (now : Instant) : (run a now).QuietWhenExposed := by
  rw [run_eq]
  exact (quiet_settings a).bind_quietWhenExposed fun s => quietWhenExposed_carryOut s now a.command

/-! ## 6. The whole program -/

/-- What the program does with arguments that it accepts. -/
def action (a : Arguments) (now : Instant) : Program Unit :=
  if a.command = .init then init else run a now

theorem exposes_action_iff (a : Arguments) (now : Instant) (w : World) (e : ServiceError) :
    (action a now).Exposes w e ↔ ∃ s w₁, (settings a).runIn w = (.ok s, w₁) ∧
      UnisolatedFailure s w₁.session a.command e := by
  unfold action
  by_cases hinit : a.command = .init
  · -- no settings are read before a settings file is made, and none matter
    rw [if_pos hinit, hinit]
    constructor
    · intro h
      exact absurd h (local_init w e)
    · rintro ⟨s, w₁, -, h⟩
      cases h
  · rw [if_neg hinit]
    exact exposes_run_iff a now w e

theorem quietWhenExposed_action (a : Arguments) (now : Instant) :
    (action a now).QuietWhenExposed := by
  unfold action
  by_cases hinit : a.command = .init
  · rw [if_pos hinit]
    exact local_init.quietWhenExposed
  · rw [if_neg hinit]
    exact quietWhenExposed_run a now

theorem execute_cases {words : List String} {environment : List (String × String)}
    {now : Instant} {w w' : World} {a : Arguments} {ending : Ending}
    (hparse : CommandLine.parse words environment = .ok a) (hcheck : a.check = .ok ())
    (hrun : execute words environment now w = (ending, w')) :
    (ending = .success ∧ (action a now).runIn w = (.ok (), w')) ∨
      ∃ f, ending = .failed f ∧ (action a now).runIn w = (.error f, w') := by
  have hexecute : execute words environment now w = match (action a now).runIn w with
      | (.ok (), w₁) => (.success, w₁)
      | (.error f, w₁) => (.failed f, w₁) := by
    unfold execute
    simp only [hparse, hcheck]
    rfl
  rw [hexecute] at hrun
  rcases haction : (action a now).runIn w with ⟨f | u, w₁⟩
  · rw [haction] at hrun
    obtain ⟨rfl, rfl⟩ : Ending.failed f = ending ∧ w₁ = w' := by simpa using hrun
    exact Or.inr ⟨f, rfl, rfl⟩
  · rw [haction] at hrun
    obtain ⟨rfl, rfl⟩ : Ending.success = ending ∧ w₁ = w' := by simpa using hrun
    exact Or.inl ⟨rfl, rfl⟩

/-- **The exit code tells whose failure it was.**  Of an accepted command line, under every
file tree, environment and script of the network: the exit code is 2 exactly if, under
the settings in force, an operation that the command does not isolate ends in a failure;
every other failure has exit code 1; analyses and settings files are never failed by a
service; and with exit code 2 no file has changed and nothing has been printed. -/
theorem execute_exitCode {words : List String} {environment : List (String × String)}
    {now : Instant} {w w' : World} {a : Arguments} {ending : Ending}
    (hparse : CommandLine.parse words environment = .ok a) (hcheck : a.check = .ok ())
    (hrun : execute words environment now w = (ending, w')) :
    (ending.exitCode = 2 ↔ ∃ s w₁ e, (settings a).runIn w = (.ok s, w₁) ∧
      UnisolatedFailure s w₁.session a.command e) ∧
    (ending ≠ .success → ending.exitCode ≠ 2 → ending.exitCode = 1) ∧
    ((∃ c, a.command = .analyse c) ∨ a.command = .init → ending.exitCode ≠ 2) ∧
    (ending.exitCode = 2 → w'.files = w.files ∧ w'.printed = w.printed) := by
  have hexposed : ending.exitCode = 2 ↔ ∃ e, (action a now).Exposes w e := by
    unfold Exposes
    rcases execute_cases hparse hcheck hrun with ⟨rfl, hok⟩ | ⟨f, rfl, hfail⟩
    · rw [hok]
      simp [Ending.exitCode]
    · rw [hfail]
      simp only [Except.error.injEq]
      exact f.exitCode_eq_two_iff
  have hservice : ending.exitCode = 2 ↔ ∃ s w₁ e, (settings a).runIn w = (.ok s, w₁) ∧
      UnisolatedFailure s w₁.session a.command e := by
    rw [hexposed]
    simp only [exposes_action_iff]
    constructor
    · rintro ⟨e, s, w₁, hsettings, h⟩
      exact ⟨s, w₁, e, hsettings, h⟩
    · rintro ⟨s, w₁, e, hsettings, h⟩
      exact ⟨e, s, w₁, hsettings, h⟩
  refine ⟨hservice, ?_, ?_, ?_⟩
  · intro hfailed hcode
    rcases execute_cases hparse hcheck hrun with ⟨rfl, -⟩ | ⟨f, rfl, -⟩
    · exact absurd rfl hfailed
    · exact Failure.exitCode_eq_one hcode
  · intro hcommand hcode
    obtain ⟨s, w₁, e, -, h⟩ := hservice.mp hcode
    rcases hcommand with ⟨c, hcommand⟩ | hcommand
    · rw [hcommand] at h
      cases h
    · rw [hcommand] at h
      cases h
  · intro hcode
    obtain ⟨e, hexposed⟩ := hexposed.mp hcode
    have hquiet := quietWhenExposed_action a now w e hexposed
    rcases execute_cases hparse hcheck hrun with ⟨-, hok⟩ | ⟨f, -, hfail⟩
    · rw [hok] at hquiet
      exact hquiet
    · rw [hfail] at hquiet
      exact hquiet

/-- A world without files in which every connection is refused. -/
def unreachable : World := .start (fun _ _ => .refusal) ⟨[], []⟩

/-- A download in this world is failed by the service, and leaves the world without files. -/
theorem execute_exitCode_unreachable :
    ∃ ending w', execute ["fetch-scenarios"] [] ⟨0, 0⟩ unreachable = (ending, w') ∧
      ending.exitCode = 2 ∧ w'.files = unreachable.files ∧ w'.printed = "" ∧
      ∃ s session e, UnisolatedFailure s session (.fetch ⟨"scenarios_full.json", none⟩) e := by
  have hparsed : (CommandLine.parse ["fetch-scenarios"] []).toOption.map
      (fun a => (a.command, a.check.toOption)) =
        some (.fetch ⟨"scenarios_full.json", none⟩, some ()) := by decide +kernel
  have hcode : (execute ["fetch-scenarios"] [] ⟨0, 0⟩ unreachable).1.exitCode = 2 := by
    decide +kernel
  rcases hparse : CommandLine.parse ["fetch-scenarios"] [] with e | a
  · rw [hparse] at hparsed
    exact absurd hparsed (by simp [Except.toOption])
  · rw [hparse] at hparsed
    obtain ⟨hcommand, haccepted⟩ : a.command = .fetch ⟨"scenarios_full.json", none⟩ ∧
        a.check.toOption = some () := by simpa [Except.toOption] using hparsed
    have hcheck : a.check = .ok () := by
      rcases h : a.check with f | u
      · rw [h] at haccepted
        exact absurd haccepted (by simp [Except.toOption])
      · rfl
    rcases hrun : execute ["fetch-scenarios"] [] ⟨0, 0⟩ unreachable with ⟨ending, w'⟩
    rw [hrun] at hcode
    obtain ⟨hservice, -, -, hquiet⟩ := execute_exitCode hparse hcheck hrun
    obtain ⟨hfiles, hprinted⟩ := hquiet hcode
    obtain ⟨s, w₁, e, -, hfailure⟩ := hservice.mp hcode
    rw [hcommand] at hfailure
    exact ⟨ending, w', rfl, hcode, hfiles, hprinted, s, w₁.session, e, hfailure⟩

end Program
end IncidentDigest
