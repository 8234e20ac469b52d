import JustRun.Guest.Reversal

/-!
# A restore that fails

`restore` follows only one flag, set by its third step. `Interrupted` lists what each step
leaves when it fails, and the `except` undoes only what came after the flag.
-/
namespace JustRun.Guest
open Machine Concurrency

/-- The steps of the `try` of `restore`. -/
inductive RestoreStep where
  | stop
  | clearPolicy
  | setAside
  | putBack
  | setPolicy
  | start
  deriving DecidableEq

/-- The steps before this one. -/
def RestoreStep.index : RestoreStep → ℕ
  | stop => 0
  | clearPolicy => 1
  | setAside => 2
  | putBack => 3
  | setPolicy => 4
  | start => 5

theorem RestoreStep.index_injective {s s' : RestoreStep} (h : s.index = s'.index) : s = s' := by
  cases s <;> cases s' <;> first | rfl | exact absurd h (by decide)

/-- Steps of the work that change a container. -/
def Call.isWork (call : Call) : Bool := decide (call.phase = .forward) && !call.op.isQuiet

/-- The steps of the work that were tried, the failed one included. -/
def tried (h : List (Entry Call fun c => Except GuestError c.op.Val)) :
    List (Entry Call fun c => Except GuestError c.op.Val) :=
  h.filter fun e => e.1.isWork

section Restore
variable (request : Request) (d : Containers) (current backup : Inspected)

/-- Both containers are where they were; of the backup only the policy is looked at. -/
def Undone (d' : Containers) : Prop :=
  (∃ c, d' (containerOf request) = some c ∧ SameContainer current c) ∧
    ∃ b, d' (backupOf request) = some b ∧ b.core = backup.core ∧ b.setting = backup.setting

/-- What a failing step leaves and what the flag says then. -/
def Interrupted (plan : RestorePlan) (renamed : Bool) (d' : Containers) : RestoreStep → Prop
  | .stop => renamed = false ∧ d' = d
  | .clearPolicy => renamed = false ∧
      d' = Function.update d (containerOf request) (some (Change.stop.apply current))
  | .setAside => renamed = false ∧ d' = Function.update d (containerOf request)
      (some ((Change.stop.apply current).setRestart (restartSetting noPolicy)))
  | .putBack => renamed = true ∧ d' (containerOf request) = none ∧
      d' (backupOf request) = some backup ∧
      d' plan.retained = some ((Change.stop.apply current).setRestart (restartSetting noPolicy))
  | .setPolicy => renamed = true ∧ d' (containerOf request) = some backup ∧
      d' (backupOf request) = none ∧
      d' plan.retained = some ((Change.stop.apply current).setRestart (restartSetting noPolicy))
  | .start => renamed = true ∧
      d' (containerOf request) = some (backup.setRestart (restartSetting plan.policy)) ∧
      d' (backupOf request) = none ∧
      d' plan.retained = some ((Change.stop.apply current).setRestart (restartSetting noPolicy))

/-- The failing step leaves nothing that its recovery does not undo. -/
def FailsSafely : RestoreStep → Prop
  | .stop | .putBack | .setPolicy => True
  | .clearPolicy => current.running = false
  | .setAside => current.running = false ∧ current.setting = restartSetting noPolicy
  | .start => ∀ metadata, rollbackMetadata current = .ok metadata →
      restartSetting (metadata.policy.getD backup.policy) = backup.setting

variable {request d current backup}
  {h : List (Entry Call fun c => Except GuestError c.op.Val)}

theorem tried_append_work {call : Call} {r : Except GuestError call.op.Val}
    (hwork : call.isWork = true) : (tried (h ++ [⟨call, r⟩])).length = (tried h).length + 1 := by
  simp [tried, hwork]

/-- Each failing step leaves its own state. -/
theorem performRestore_interrupted {plan : RestorePlan} (hname : d (containerOf request) = some current)
    (hbackup : d (backupOf request) = some backup) (hnew : plan.retained ≠ containerOf request)
    (hother : plan.retained ≠ backupOf request) (htried : (tried h).length = 0) :
    (performRestore request plan).Ensures exec (fun h' r d' => ∀ e renamed, r = .error (e, renamed) →
      ∃ step : RestoreStep, (tried h').length = step.index + 1 ∧
        Interrupted request d current backup plan renamed d' step) h d := by
  have hne := containerOf_ne_backupOf request
  have htaken : ∀ (h : List (Entry Call fun c => Except GuestError c.op.Val)) (call : Call)
      (r : Except GuestError call.op.Val) (n : ℕ), call.isWork = true → (tried h).length = n →
      (tried (h ++ [⟨call, r⟩])).length = n + 1 := by
    intro h call r n hwork hn
    rw [tried_append_work hwork, hn]
  refine Prog.ensures_mapFail_bind _ ?_
  refine ensures_change hname ?_ ?_
  · rintro t _ _ ⟨⟩
    exact ⟨.stop, htaken _ _ _ 0 rfl htried, rfl, rfl⟩
  have h1 := htaken h ⟨.forward, .change (containerOf request) .stop⟩ (.ok ()) 0 rfl htried
  refine ensures_change (Function.update_self ..) ?_ ?_
  · rintro t _ _ ⟨⟩
    exact ⟨.clearPolicy, htaken _ _ _ 1 rfl h1, rfl, rfl⟩
  have h2 := htaken _ ⟨.forward, .change (containerOf request)
    (.updateRestart (restartSetting noPolicy))⟩ (.ok ()) 1 rfl h1
  rw [Function.update_idem, ← bind_pure (rename .forward _ plan.retained)]
  cases hfree : d plan.retained with
  | some other =>
    refine ensures_rename_taken ?_ ?_
    · rw [Function.update_of_ne hnew, hfree]
      exact Option.some_ne_none other
    · rintro e _ _ ⟨⟩
      exact ⟨.setAside, htaken _ _ _ 2 rfl h2, rfl, rfl⟩
  | none =>
    refine ensures_rename (Function.update_self ..) ?_ ?_ ?_
    · rw [Function.update_of_ne hnew, hfree]
    · rintro e _ _ ⟨⟩
      exact ⟨.setAside, htaken _ _ _ 2 rfl h2, rfl, rfl⟩
    have h3 := htaken _ ⟨.forward, .rename (containerOf request) plan.retained⟩ (.ok ()) 2 rfl h2
    refine (Prog.ensures_mapFail _ _).mpr ?_
    have hbackup' : Function.update (Function.update (Function.update d (containerOf request)
        (some ((Change.stop.apply current).setRestart (restartSetting noPolicy))))
          (containerOf request) none) plan.retained
            (some ((Change.stop.apply current).setRestart (restartSetting noPolicy)))
              (backupOf request) = some backup := by
      rw [Function.update_of_ne hother.symm, Function.update_of_ne hne.symm,
        Function.update_of_ne hne.symm, hbackup]
    have hname' : Function.update (Function.update (Function.update d (containerOf request)
        (some ((Change.stop.apply current).setRestart (restartSetting noPolicy))))
          (containerOf request) none) plan.retained
            (some ((Change.stop.apply current).setRestart (restartSetting noPolicy)))
              (containerOf request) = none := by
      rw [Function.update_of_ne hnew.symm, Function.update_self]
    refine ensures_rename hbackup' hname' ?_ ?_
    · rintro t _ _ ⟨⟩
      exact ⟨.putBack, htaken _ _ _ 3 rfl h3, rfl, hname', hbackup', Function.update_self ..⟩
    have h4 := htaken _ ⟨.forward, .rename (backupOf request) (containerOf request)⟩ (.ok ()) 3 rfl h3
    -- The backup stands under the name; where the current container is does not change any more.
    have hret : ∀ (d : Containers) (o o' : Option Inspected), d plan.retained =
        some ((Change.stop.apply current).setRestart (restartSetting noPolicy)) →
        Function.update (Function.update d (backupOf request) o) (containerOf request) o' plan.retained =
          some ((Change.stop.apply current).setRestart (restartSetting noPolicy)) := by
      intro d o o' hd
      rw [Function.update_of_ne hnew, Function.update_of_ne hother, hd]
    refine ensures_settle (Function.update_self ..) ?_ ?_ ?_
    · rintro t _ _ ⟨⟩
      refine ⟨.setPolicy, htaken _ _ _ 4 rfl h4, rfl, Function.update_self .., ?_,
        hret _ _ _ (Function.update_self ..)⟩
      rw [Function.update_of_ne hne.symm, Function.update_self]
    · rintro - t _ _ ⟨⟩
      refine ⟨.start, htaken _ _ _ 5 rfl (htaken _ _ _ 4 rfl h4), rfl, Function.update_self .., ?_, ?_⟩
      · rw [Function.update_of_ne hne.symm, Function.update_of_ne hne.symm, Function.update_self]
      · rw [Function.update_idem]
        exact hret _ _ _ (Function.update_self ..)
    · rintro h' _ _ ⟨⟩

theorem RecoveryWorks.before {h' : List (Entry Call fun c => Except GuestError c.op.Val)}
    (hw : RecoveryWorks h') (hh : h <+: h') : RecoveryWorks h := by
  obtain ⟨rest, rfl⟩ := hh
  rw [RecoveryWorks, List.all_append, Bool.and_eq_true] at hw
  exact hw.1

/-- The end of the recovery, once the name is free. -/
theorem ensures_takeBack {plan : RestorePlan} {b : Inspected} (hcurrent : plan.current = current)
    (hother : plan.retained ≠ backupOf request)
    (hname : d (containerOf request) = none) (hbackup : d (backupOf request) = some b)
    (hret : d plan.retained =
      some ((Change.stop.apply current).setRestart (restartSetting noPolicy))) :
    (do rename .recovery plan.retained (containerOf request)
        updateRestart .recovery (containerOf request) plan.current.policy
        onlyIf plan.current.running (start .recovery (containerOf request)) :
      Runner Unit).Ensures exec (fun h' _ d' => RecoveryWorks h' →
        (∃ c, d' (containerOf request) = some c ∧ SameContainer current c) ∧
          d' (backupOf request) = some b) h d := by
  have hne := containerOf_ne_backupOf request
  subst hcurrent
  refine ensures_rename hret hname (fun t hw => absurd hw (not_recoveryWorks _ _ _)) ?_
  refine ensures_settle (Function.update_self ..) (fun t hw => absurd hw (not_recoveryWorks _ _ _))
    (fun _ t hw => absurd hw (not_recoveryWorks _ _ _)) fun _ _ => ⟨⟨_, Function.update_self .., ?_⟩, ?_⟩
  · exact ((Kin.refl _).stop.setRestart _).settled
  · rw [Function.update_of_ne hne.symm, Function.update_of_ne hne.symm,
      Function.update_of_ne hother.symm, hbackup]

/-- Behind the flag the recovery puts both containers back; the backup keeps what it has. -/
theorem undoRestore_renamed {plan : RestorePlan} {b : Inspected} (hcurrent : plan.current = current)
    (hnew : plan.retained ≠ containerOf request) (hother : plan.retained ≠ backupOf request)
    (hb : (d (containerOf request) = none ∧ d (backupOf request) = some b) ∨
      (d (containerOf request) = some b ∧ d (backupOf request) = none))
    (hret : d plan.retained =
      some ((Change.stop.apply current).setRestart (restartSetting noPolicy))) :
    (undoRestore request plan true).Ensures exec (fun h' _ d' => RecoveryWorks h' →
      (∃ c, d' (containerOf request) = some c ∧ SameContainer current c) ∧
        d' (backupOf request) = some b) h d := by
  intro choice r d' hx
  cases choice with
  | fault t =>
    cases hx
    refine (Prog.ensures_history _).mono fun h' r' d'' _ hh hw => ?_
    exact absurd (hw.before hh) (not_recoveryWorks _ _ _)
  | answer a =>
    cases hx
    obtain ⟨hname, hbackup⟩ | ⟨hname, hbackup⟩ := hb
    · rw [hname]
      exact ensures_takeBack hcurrent hother hname hbackup hret
    · rw [hname]
      refine ensures_rename hname hbackup (fun t hw => absurd hw (not_recoveryWorks _ _ _)) ?_
      refine ensures_takeBack hcurrent hother ?_ (Function.update_self ..) ?_
      · rw [Function.update_of_ne (containerOf_ne_backupOf request), Function.update_self]
      · rw [Function.update_of_ne hother, Function.update_of_ne hnew, hret]

/-- What the recovery makes of each interruption. -/
theorem undoRestore_spec {plan : RestorePlan} {metadata : RollbackMetadata} {renamed : Bool}
    {d' : Containers} {step : RestoreStep} (hcurrent : plan.current = current)
    (hname : d (containerOf request) = some current) (hbackup : d (backupOf request) = some backup)
    (hmeta : rollbackMetadata current = .ok metadata)
    (hpolicy : plan.policy = metadata.policy.getD backup.policy)
    (hnew : plan.retained ≠ containerOf request) (hother : plan.retained ≠ backupOf request)
    (hd : Interrupted request d current backup plan renamed d' step) :
    (undoRestore request plan renamed).Ensures exec (fun h' _ d'' => RecoveryWorks h' →
      (Undone request current backup d'' ↔ FailsSafely current backup step)) h d' := by
  have hne := containerOf_ne_backupOf request
  -- A changed container is the same one if its state and policy still are.
  have hchanged : ∀ c, Undone request current backup (Function.update d (containerOf request) (some c)) ↔
      SameContainer current c := by
    intro c
    refine ⟨fun ⟨⟨c', hc', hsame⟩, _⟩ => ?_, fun hsame => ?_⟩
    · rw [Function.update_self] at hc'
      rwa [Option.some.inj hc']
    · exact ⟨⟨c, Function.update_self .., hsame⟩, backup, by
        rw [Function.update_of_ne hne.symm, hbackup], rfl, rfl⟩
  -- Behind the flag only the policy of the backup is in question.
  have hput : ∀ (d'' : Containers) (b : Inspected), b.core = backup.core →
      ((∃ c, d'' (containerOf request) = some c ∧ SameContainer current c) ∧
        d'' (backupOf request) = some b) →
      (Undone request current backup d'' ↔ b.setting = backup.setting) := by
    rintro d'' b hcore ⟨hc, hb⟩
    refine ⟨fun ⟨_, b', hb', _, hset⟩ => ?_, fun hset => ⟨hc, b, hb, hcore, hset⟩⟩
    rwa [Option.some.inj (hb.symm.trans hb')]
  cases step with
  | stop =>
    obtain ⟨rfl, rfl⟩ := hd
    exact fun _ => ⟨fun _ => trivial, fun _ =>
      ⟨⟨current, hname, SameContainer.refl current⟩, backup, hbackup, rfl, rfl⟩⟩
  | clearPolicy =>
    obtain ⟨rfl, rfl⟩ := hd
    refine fun _ => (hchanged _).trans ⟨fun hsame => hsame.running.symm, fun hrun => ?_⟩
    exact ⟨rfl, hrun.symm, rfl⟩
  | setAside =>
    obtain ⟨rfl, rfl⟩ := hd
    refine fun _ => (hchanged _).trans ⟨fun hsame => ⟨hsame.running.symm, ?_⟩, fun hrun => ?_⟩
    · exact hsame.setting.symm.trans (setting_setRestart _ _)
    · exact ⟨rfl, hrun.1.symm, (setting_setRestart _ _).trans hrun.2.symm⟩
  | putBack =>
    obtain ⟨rfl, hfree, hkept, hret⟩ := hd
    refine (undoRestore_renamed hcurrent hnew hother (.inl ⟨hfree, hkept⟩) hret).mono
      fun h' r d'' _ hd'' hw => (hput d'' backup rfl (hd'' hw)).trans (iff_of_true rfl trivial)
  | setPolicy =>
    obtain ⟨rfl, hkept, hfree, hret⟩ := hd
    refine (undoRestore_renamed hcurrent hnew hother (.inr ⟨hkept, hfree⟩) hret).mono
      fun h' r d'' _ hd'' hw => (hput d'' backup rfl (hd'' hw)).trans (iff_of_true rfl trivial)
  | start =>
    obtain ⟨rfl, hkept, hfree, hret⟩ := hd
    refine (undoRestore_renamed hcurrent hnew hother (.inr ⟨hkept, hfree⟩) hret).mono
      fun h' r d'' _ hd'' hw => (hput d'' _ ?_ (hd'' hw)).trans ?_
    · rfl
    · rw [setting_setRestart, hpolicy]
      refine ⟨fun hset metadata' hmeta' => ?_, fun hsafe => hsafe metadata hmeta⟩
      rwa [← Except.ok.inj (hmeta.symm.trans hmeta')]

theorem planRestore_within : (planRestore request).Everywhere fun call _ => call.isWork = false := by
  have hquiet : ∀ call : Call, call.op.isQuiet = true → call.isWork = false := fun call hq => by
    simp [Call.isWork, hq]
  refine Prog.everywhere_bind (everywhere_isPresent hquiet _) fun available => ?_
  refine Prog.everywhere_bind everywhere_raise fun _ => ?_
  have hinspect : ∀ name, (inspect .forward name).Everywhere fun call _ => call.isWork = false :=
    fun _ => everywhere_request (fun call => call.isWork = false) (hquiet _ rfl)
  refine Prog.everywhere_bind (hinspect _) fun current => ?_
  refine Prog.everywhere_bind (hinspect _) fun original => ?_
  refine Prog.everywhere_bind (Prog.everywhere_ofExcept _) fun metadata => ?_
  exact Prog.everywhere_bind (everywhere_run hquiet _) fun hex => trivial

theorem undoRestore_within (plan : RestorePlan) (renamed : Bool) :
    (undoRestore request plan renamed).Everywhere fun call _ => call.isWork = false := by
  have hrecovery : ∀ op : DockerOp,
      (Concurrency.request (Call.mk .recovery op) : Runner (Call.mk .recovery op).op.Val).Everywhere
        fun call _ => call.isWork = false :=
    fun op => everywhere_request (fun call => call.isWork = false) rfl
  refine everywhere_onlyIf (Prog.everywhere_bind ?_ fun present => ?_)
  · refine ⟨rfl, fun r => ?_⟩
    cases r <;> trivial
  refine Prog.everywhere_bind (everywhere_onlyIf (hrecovery (.rename _ _))) fun _ => ?_
  refine Prog.everywhere_bind (hrecovery (.rename _ _)) fun _ => ?_
  exact Prog.everywhere_bind (hrecovery (.change _ _)) fun _ =>
    everywhere_onlyIf (hrecovery (.change _ _))

theorem restore_failure (hname : d (containerOf request) = some current)
    (hbackup : d (backupOf request) = some backup) (htried : (tried h).length = 0) :
    (restore request).Ensures exec (fun h' r d' => ∀ e, r = .error e → RecoveryWorks h' →
      ∀ step : RestoreStep, (tried h').length = step.index + 1 →
        (Undone request current backup d' ↔ FailsSafely current backup step)) h d := by
  refine ((planRestore_spec hname hbackup).and planRestore_within.ensures_filter).bind ?_ ?_
  · rintro h₁ plan d₁ - ⟨⟨rfl, hplan⟩, hsame₁⟩
    obtain ⟨metadata, hex, hmeta, rfl⟩ := hplan plan rfl
    have hnew := retained_ne_containerOf request hex
    have hother := retained_ne_backupOf request hex
    have htried₁ : (tried h₁).length = 0 := (congrArg List.length hsame₁).trans htried
    rw [Prog.ensures_tryThen]
    refine (performRestore_interrupted hname hbackup hnew hother htried₁).mono fun h₂ r d₂ _ hr => ?_
    cases r with
    | ok _ => exact fun _ hr' => nomatch hr'
    | error e =>
      obtain ⟨step, hstep, hd₂⟩ := hr e.1 e.2 rfl
      refine ((undoRestore_spec rfl hname hbackup hmeta rfl hnew hother hd₂).and
        (undoRestore_within _ _).ensures_filter).bind ?_ ?_
      all_goals
        rintro h₃ _ d₃ - ⟨hundone, hsame₃⟩ e' - hw step' hstep'
        have hlen : (tried h₃).length = (tried h₂).length := congrArg List.length hsame₃
        obtain rfl : step = step' := RestoreStep.index_injective (by omega)
        exact hundone hw
  · rintro h₁ e d₁ - ⟨-, hsame₁⟩ _ - - step hstep
    have hlen : (tried h₁).length = (tried h).length := congrArg List.length hsame₁
    omega

end Restore

/-- Which failing steps of `restore` leave nothing behind. -/
theorem restore_fails_atomically_iff (request : Request) (d d' : Containers)
    (current backup : Inspected) (choices : List Choice)
    (h : List (Entry Call fun c => Except GuestError c.op.Val)) (e : GuestError) (step : RestoreStep)
    (hname : d (containerOf request) = some current) (hbackup : d (backupOf request) = some backup)
    (hrun : (restore request).alone exec [] d choices = some (h, .error e, d'))
    (hworks : RecoveryWorks h) (hstep : (tried h).length = step.index + 1) :
    Undone request current backup d' ↔ FailsSafely current backup step :=
  (restore_failure hname hbackup rfl).alone hrun e rfl hworks step hstep

/-! ### A policy that cannot be cleared -/

/-- The backup that an upgrade of the running instance made. -/
def plainBackup : Inspected :=
  { plainInspected.setRestart (restartSetting noPolicy) with running := false }

/-- The planning works and so many steps after it; then one step fails. -/
def failingAfter (worked : ℕ) : List Choice :=
  List.replicate (4 + worked) (answering "0123456789ab") ++ [.fault "docker: timeout"] ++
    List.replicate 5 (answering "")

theorem stopped_instance_stays_stopped :
    ¬ ∀ (request : Request) (d d' : Containers) (current backup : Inspected) (choices : List Choice)
      (h : List (Entry Call fun c => Except GuestError c.op.Val)) (e : GuestError)
      (step : RestoreStep), d (containerOf request) = some current →
      d (backupOf request) = some backup →
      (restore request).alone exec [] d choices = some (h, .error e, d') →
      (h.filter isFault).length = 1 → RecoveryWorks h → (tried h).length = step.index + 1 →
      Undone request current backup d' := by
  intro hclaim
  have hout : Prog.failedSo (fun h after => decide ((h.filter isFault).length = 1 ∧
      RecoveryWorks h ∧ (tried h).length = 2 ∧
      (after "qc-a").map Inspected.running = some false))
      ((restore plainRequest).alone exec [] (plainContainers (some plainBackup))
        (failingAfter 1)) = true := by decide +kernel
  obtain ⟨h, e, d', hrun, hgood⟩ := Prog.failedSo_eq_true hout
  obtain ⟨hone, hworks, htried, hstopped⟩ := of_decide_eq_true hgood
  obtain ⟨⟨c, hc, hsame⟩, -⟩ := hclaim plainRequest _ d' plainInspected plainBackup _ h e
    .clearPolicy (by decide +kernel) (by decide +kernel) hrun hone hworks htried
  have hname : containerOf plainRequest = "qc-a" := by decide +kernel
  rw [hname] at hc
  rw [hc, Option.map_some] at hstopped
  exact absurd (hsame.running.symm.trans (Option.some.inj hstopped)) (by decide)

theorem restore_fails_atomically_putBack :
    ∃ h e d', (restore plainRequest).alone exec [] (plainContainers (some plainBackup))
        (failingAfter 3) = some (h, .error e, d') ∧
      Undone plainRequest plainInspected plainBackup d' := by
  have hout : Prog.failedSo (fun h _ => decide (RecoveryWorks h ∧ (tried h).length = 4))
      ((restore plainRequest).alone exec [] (plainContainers (some plainBackup))
        (failingAfter 3)) = true := by decide +kernel
  obtain ⟨h, e, d', hrun, hgood⟩ := Prog.failedSo_eq_true hout
  obtain ⟨hworks, htried⟩ := of_decide_eq_true hgood
  exact ⟨h, e, d', hrun, (restore_fails_atomically_iff plainRequest
    (plainContainers (some plainBackup)) d' plainInspected plainBackup (failingAfter 3) h e .putBack
    (by decide +kernel) (by decide +kernel) hrun hworks htried).mpr trivial⟩

end JustRun.Guest
