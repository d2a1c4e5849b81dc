import IncidentDigest.Program.Run
import IncidentDigest.Proofs.Service.Failures

/-!
# What programs do to the world

Three properties of programs decide how a command can end and what it leaves behind.  A
*local* program never ends in a failure of a service: it makes no calls, or it hands
their failures over as values.  A *quiet* program neither changes files nor prints: it
only makes calls, decides, and gives warnings.  An *offline* program sends nothing.  All
three are kept by sequencing.
-/

namespace IncidentDigest.Program

variable {α β : Type}

/-! ## 1. Running programs -/

def runIn (p : Program α) (w : World) : Except Failure α × World := (ExceptT.run p).run w

@[simp] theorem runIn_pure (v : α) (w : World) : (pure v : Program α).runIn w = (.ok v, w) := rfl

@[simp] theorem runIn_throw (f : Failure) (w : World) :
    (throw f : Program α).runIn w = (.error f, w) := rfl

theorem runIn_bind (p : Program α) (f : α → Program β) (w : World) :
    (p >>= f).runIn w = match p.runIn w with
      | (.ok v, w') => (f v).runIn w'
      | (.error e, w') => (.error e, w') := by
  simp only [runIn, ExceptT.run_bind, StateT.run_bind]
  rcases (ExceptT.run p).run w with ⟨_ | v, w'⟩ <;> rfl

theorem runIn_bind_ok {p : Program α} {f : α → Program β} {w w' : World} {v : α}
    (h : p.runIn w = (.ok v, w')) : (p >>= f).runIn w = (f v).runIn w' := by
  rw [runIn_bind, h]

theorem runIn_bind_error {p : Program α} {f : α → Program β} {w w' : World} {e : Failure}
    (h : p.runIn w = (.error e, w')) : (p >>= f).runIn w = (.error e, w') := by
  rw [runIn_bind, h]

theorem ok_of_runIn_bind {p : Program α} {f : α → Program β} {w w' : World} {v : β}
    (h : (p >>= f).runIn w = (.ok v, w')) :
    ∃ u w₁, p.runIn w = (.ok u, w₁) ∧ (f u).runIn w₁ = (.ok v, w') := by
  rcases hrun : p.runIn w with ⟨e | u, w₁⟩
  · rw [runIn_bind_error hrun] at h
    exact absurd (congrArg Prod.fst h) (by simp)
  · rw [runIn_bind_ok hrun] at h
    exact ⟨u, w₁, rfl, h⟩

@[simp] theorem runIn_warn (warning : Warning) (w : World) :
    (warn warning).runIn w = (.ok (), { w with session := w.session.warn warning }) := rfl

@[simp] theorem runIn_print (text : String) (w : World) :
    (print text).runIn w = (.ok (), { w with printed := w.printed ++ text ++ "\n" }) := rfl

@[simp] theorem runIn_files (w : World) : files.runIn w = (.ok w.files, w) := rfl

theorem runIn_store (action : FileTree → FileTree × Except StorageError α) (w : World) :
    (store action).runIn w =
      ((action w.files).2.mapError .storage, { w with files := (action w.files).1 }) := rfl

theorem runIn_call (c : Call α) (w : World) :
    (call c).runIn w =
      ((c.runIn w.session).1.mapError .service, { w with session := (c.runIn w.session).2 }) := rfl

theorem runIn_call_ok {c : Call α} {w : World} {v : α} {session : Session}
    (h : c.runIn w.session = (.ok v, session)) :
    (call c).runIn w = (.ok v, { w with session }) := by
  rw [runIn_call, h]
  rfl

theorem runIn_call_eq_ok_iff {c : Call α} {w w' : World} {v : α} :
    (call c).runIn w = (.ok v, w') ↔
      ∃ session, c.runIn w.session = (.ok v, session) ∧ { w with session } = w' := by
  rcases hrun : c.runIn w.session with ⟨e | u, session⟩
  · rw [runIn_call, hrun]
    simp [Except.mapError]
  · rw [runIn_call_ok hrun]
    simp

theorem runIn_orFail_eq_ok_iff {ε : Type} {failure : ε → Failure} {result : Except ε α}
    {w w' : World} {v : α} : (orFail failure result).runIn w = (.ok v, w') ↔ result = .ok v ∧ w = w' := by
  cases result with
  | error e => simp [orFail]
  | ok u => simp [orFail]

/-! ## 2. Failures of a service -/

/-- A program ends in a failure of a service. -/
def Exposes (p : Program α) (w : World) (e : ServiceError) : Prop :=
  (p.runIn w).1 = .error (.service e)

theorem exposes_bind_iff {p : Program α} {f : α → Program β} {w : World} {e : ServiceError} :
    (p >>= f).Exposes w e ↔
      p.Exposes w e ∨ ∃ v w', p.runIn w = (.ok v, w') ∧ (f v).Exposes w' e :=
  sequence_eq_error_iff (fun _ _ h => runIn_bind_ok h) (fun _ _ h => runIn_bind_error h)

theorem exposes_call_iff {c : Call α} {w : World} {e : ServiceError} :
    (call c).Exposes w e ↔ c.Fails w.session e := by
  unfold Exposes Call.Fails
  rw [runIn_call]
  rcases (c.runIn w.session).1 with e' | v <;> simp [Except.mapError]

theorem exposes_call_bind_iff {c : Call α} {f : α → Program β} {w : World} {e : ServiceError} :
    (call c >>= f).Exposes w e ↔ c.Fails w.session e ∨
      ∃ v session, c.runIn w.session = (.ok v, session) ∧ (f v).Exposes { w with session } e := by
  rw [exposes_bind_iff, exposes_call_iff]
  refine or_congr_right ?_
  constructor
  · rintro ⟨v, w', hrun, hexposed⟩
    obtain ⟨session, hcall, rfl⟩ := runIn_call_eq_ok_iff.mp hrun
    exact ⟨v, session, hcall, hexposed⟩
  · rintro ⟨v, session, hcall, hexposed⟩
    exact ⟨v, _, runIn_call_ok hcall, hexposed⟩

/-- A program never ends in a failure of a service. -/
def Local (p : Program α) : Prop := ∀ w e, ¬ p.Exposes w e

theorem local_of_ok {p : Program α} (h : ∀ w, ∃ v w', p.runIn w = (.ok v, w')) : p.Local := by
  intro w e hexposed
  obtain ⟨v, w', hrun⟩ := h w
  rw [Exposes, hrun] at hexposed
  exact absurd hexposed (by simp)

theorem local_pure (v : α) : (pure v : Program α).Local :=
  local_of_ok fun w => ⟨v, w, rfl⟩

theorem local_warn (warning : Warning) : (warn warning).Local :=
  local_of_ok fun w => ⟨(), _, runIn_warn warning w⟩

theorem local_files : files.Local :=
  local_of_ok fun w => ⟨w.files, w, runIn_files w⟩

theorem local_print (text : String) : (print text).Local :=
  local_of_ok fun w => ⟨(), _, runIn_print text w⟩

theorem local_throw {f : Failure} (h : ∀ e, f ≠ .service e) : (throw f : Program α).Local := by
  intro w e hexposed
  exact h e (Except.error.inj hexposed)

theorem Local.bind {p : Program α} {f : α → Program β} (hp : p.Local) (hf : ∀ v, (f v).Local) :
    (p >>= f).Local := by
  intro w e h
  rcases exposes_bind_iff.mp h with h | ⟨v, w', -, h⟩
  · exact hp w e h
  · exact hf v w' e h

theorem local_call {c : Call α} (h : ∀ s, ∃ v s', c.runIn s = (.ok v, s')) : (call c).Local := by
  refine local_of_ok fun w => ?_
  obtain ⟨v, s', hrun⟩ := h w.session
  exact ⟨v, { w with session := s' }, runIn_call_ok hrun⟩

theorem local_store (action : FileTree → FileTree × Except StorageError α) :
    (store action).Local := by
  intro w e h
  have hresult : (action w.files).2.mapError Failure.storage = .error (.service e) := by
    rw [Exposes, runIn_store] at h
    exact h
  cases hcase : (action w.files).2 with
  | error failure => simp [hcase, Except.mapError] at hresult
  | ok v => simp [hcase, Except.mapError] at hresult

theorem local_output (path : Option String) (content : String) : (output path content).Local := by
  rcases path with _ | path
  · exact local_print content
  · exact local_store _

theorem local_orFail {ε : Type} {failure : ε → Failure} (h : ∀ x e, failure x ≠ .service e)
    (result : Except ε α) : (orFail failure result).Local := by
  rcases result with x | v
  · exact local_throw (h x)
  · exact local_pure v

theorem local_client (s : Settings) : (client s).Local :=
  local_orFail (by simp) _

/-- After the last call to a service, no service can fail. -/
theorem exposes_bind_iff_of_local {p : Program α} {f : α → Program β} (hf : ∀ v, (f v).Local)
    {w : World} {e : ServiceError} : (p >>= f).Exposes w e ↔ p.Exposes w e := by
  rw [exposes_bind_iff]
  constructor
  · rintro (h | ⟨v, w', -, h⟩)
    · exact h
    · exact absurd h (hf v w' e)
  · exact Or.inl

theorem exposes_orFail_bind_iff {ε : Type} {failure : ε → Failure}
    (h : ∀ x e, failure x ≠ .service e) {result : Except ε α} {f : α → Program β} {w : World}
    {e : ServiceError} :
    (orFail failure result >>= f).Exposes w e ↔ ∃ v, result = .ok v ∧ (f v).Exposes w e := by
  rcases result with x | v
  · constructor
    · intro hexposed
      exact absurd (Except.error.inj hexposed) (h x e)
    · rintro ⟨v, hv, -⟩
      exact absurd hv (by simp)
  · constructor
    · intro hexposed
      exact ⟨v, rfl, hexposed⟩
    · rintro ⟨v', hv, hexposed⟩
      obtain rfl := Except.ok.inj hv
      exact hexposed

theorem exposes_orElseFail_bind_iff {failure : Failure} (h : ∀ e, failure ≠ .service e)
    {value : Option α} {f : α → Program β} {w : World} {e : ServiceError} :
    (orElseFail failure value >>= f).Exposes w e ↔ ∃ v, value = some v ∧ (f v).Exposes w e := by
  rcases value with _ | v
  · constructor
    · intro hexposed
      exact absurd (Except.error.inj hexposed) (h e)
    · rintro ⟨v, hv, -⟩
      exact absurd hv (by simp)
  · constructor
    · intro hexposed
      exact ⟨v, rfl, hexposed⟩
    · rintro ⟨v', hv, hexposed⟩
      obtain rfl := Option.some.inj hv
      exact hexposed

/-! ## 3. Files and output -/

/-- A program leaves files and output as they are. -/
def Quiet (p : Program α) : Prop :=
  ∀ w, (p.runIn w).2.files = w.files ∧ (p.runIn w).2.printed = w.printed

theorem quiet_pure (v : α) : (pure v : Program α).Quiet := fun _ => ⟨rfl, rfl⟩

theorem quiet_throw (f : Failure) : (throw f : Program α).Quiet := fun _ => ⟨rfl, rfl⟩

theorem quiet_call (c : Call α) : (call c).Quiet := fun _ => ⟨rfl, rfl⟩

theorem quiet_warn (warning : Warning) : (warn warning).Quiet := fun _ => ⟨rfl, rfl⟩

theorem quiet_files : files.Quiet := fun _ => ⟨rfl, rfl⟩

theorem Quiet.bind {p : Program α} {f : α → Program β} (hp : p.Quiet) (hf : ∀ v, (f v).Quiet) :
    (p >>= f).Quiet := by
  intro w
  obtain ⟨hfiles, hprinted⟩ := hp w
  rcases h : p.runIn w with ⟨failure | v, w'⟩
  · rw [h] at hfiles hprinted
    rw [runIn_bind_error h]
    exact ⟨hfiles, hprinted⟩
  · rw [h] at hfiles hprinted
    rw [runIn_bind_ok h]
    exact ⟨(hf v w').1.trans hfiles, (hf v w').2.trans hprinted⟩

theorem quiet_orFail {ε : Type} (failure : ε → Failure) (result : Except ε α) :
    (orFail failure result).Quiet := by
  rcases result with x | v
  · exact quiet_throw _
  · exact quiet_pure v

theorem quiet_orElseFail (failure : Failure) (value : Option α) :
    (orElseFail failure value).Quiet := by
  rcases value with _ | v
  · exact quiet_throw _
  · exact quiet_pure v

theorem quiet_client (s : Settings) : (client s).Quiet :=
  quiet_orFail _ _

/-- A program leaves files and output as they are whenever it ends in a failure of a
service. -/
def QuietWhenExposed (p : Program α) : Prop :=
  ∀ w e, p.Exposes w e → (p.runIn w).2.files = w.files ∧ (p.runIn w).2.printed = w.printed

theorem Quiet.quietWhenExposed {p : Program α} (h : p.Quiet) : p.QuietWhenExposed :=
  fun w _ _ => h w

theorem Local.quietWhenExposed {p : Program α} (h : p.Local) : p.QuietWhenExposed :=
  fun w e hexposed => absurd hexposed (h w e)

/-- What comes before the last call to a service may not change anything. -/
theorem Quiet.bind_quietWhenExposed {p : Program α} {f : α → Program β} (hp : p.Quiet)
    (hf : ∀ v, (f v).QuietWhenExposed) : (p >>= f).QuietWhenExposed := by
  intro w e hexposed
  obtain ⟨hfiles, hprinted⟩ := hp w
  rcases h : p.runIn w with ⟨failure | v, w'⟩
  · rw [h] at hfiles hprinted
    rw [runIn_bind_error h]
    exact ⟨hfiles, hprinted⟩
  · rw [h] at hfiles hprinted
    unfold Exposes at hexposed
    rw [runIn_bind_ok h] at hexposed ⊢
    obtain ⟨hfiles', hprinted'⟩ := hf v w' e hexposed
    exact ⟨hfiles'.trans hfiles, hprinted'.trans hprinted⟩

/-! ## 4. The network -/

/-- A program sends nothing. -/
def Offline (p : Program α) : Prop :=
  ∀ w, (p.runIn w).2.session.network = w.session.network ∧
    (p.runIn w).2.session.sent = w.session.sent

theorem Offline.network_eq {p : Program α} (h : p.Offline) {w w' : World}
    {result : Except Failure α} (hrun : p.runIn w = (result, w')) :
    w'.session.network = w.session.network := by
  have hsame := (h w).1
  rwa [hrun] at hsame

theorem Offline.sent_eq {p : Program α} (h : p.Offline) {w w' : World}
    {result : Except Failure α} (hrun : p.runIn w = (result, w')) :
    w'.session.sent = w.session.sent := by
  have hsame := (h w).2
  rwa [hrun] at hsame

theorem offline_pure (v : α) : (pure v : Program α).Offline := fun _ => ⟨rfl, rfl⟩

theorem offline_throw (f : Failure) : (throw f : Program α).Offline := fun _ => ⟨rfl, rfl⟩

theorem offline_warn (warning : Warning) : (warn warning).Offline := fun _ => ⟨rfl, rfl⟩

theorem offline_files : files.Offline := fun _ => ⟨rfl, rfl⟩

theorem Offline.bind {p : Program α} {f : α → Program β} (hp : p.Offline)
    (hf : ∀ v, (f v).Offline) : (p >>= f).Offline := by
  intro w
  obtain ⟨hnetwork, hsent⟩ := hp w
  rcases h : p.runIn w with ⟨failure | v, w'⟩
  · rw [h] at hnetwork hsent
    rw [runIn_bind_error h]
    exact ⟨hnetwork, hsent⟩
  · rw [h] at hnetwork hsent
    rw [runIn_bind_ok h]
    exact ⟨(hf v w').1.trans hnetwork, (hf v w').2.trans hsent⟩

theorem offline_orFail {ε : Type} (failure : ε → Failure) (result : Except ε α) :
    (orFail failure result).Offline := by
  rcases result with x | v
  · exact offline_throw _
  · exact offline_pure v

/-! ## 5. Settings -/

theorem local_loadSettings (path : Option String) : (loadSettings path).Local := by
  refine local_files.bind fun t => ?_
  rcases path with _ | path
  · rcases Settings.loadDefault t with f | s
    · exact (local_warn _).bind fun _ => local_pure _
    · exact local_pure _
  · exact local_orFail (by simp) _

theorem quiet_loadSettings (path : Option String) : (loadSettings path).Quiet := by
  refine quiet_files.bind fun t => ?_
  rcases path with _ | path
  · rcases Settings.loadDefault t with f | s
    · exact (quiet_warn _).bind fun _ => quiet_pure _
    · exact quiet_pure _
  · exact quiet_orFail _ _

theorem local_settings (a : CommandLine.Arguments) : (settings a).Local :=
  (local_loadSettings _).bind fun _ => (local_orFail (by simp) _).bind fun _ => local_pure _

theorem quiet_settings (a : CommandLine.Arguments) : (settings a).Quiet :=
  (quiet_loadSettings _).bind fun _ => (quiet_orFail _ _).bind fun _ => quiet_pure _

theorem offline_loadSettings (path : Option String) : (loadSettings path).Offline := by
  refine offline_files.bind fun t => ?_
  rcases path with _ | path
  · rcases Settings.loadDefault t with f | s
    · exact (offline_warn _).bind fun _ => offline_pure _
    · exact offline_pure _
  · exact offline_orFail _ _

theorem offline_settings (a : CommandLine.Arguments) : (settings a).Offline :=
  (offline_loadSettings _).bind fun _ => (offline_orFail _ _).bind fun _ => offline_pure _

end IncidentDigest.Program
