import JustRun.Guest.DataIsolation
import JustRun.Guest.Effects

/-!
# An upgrade is undone

`upgrade` is followed along its two flags: `Midway` says what stands under the name of the
instance and under the name of its backup while they have their values. The `except` then
puts the original container back from any of these states, and `restore` from the last one.
-/
namespace JustRun.Guest
open Machine Concurrency

/-- A container without what `stop`, `start` and `update` change. -/
def Inspected.core (c : Inspected) : Inspected :=
  { c with running := false, hostConfig := { c.hostConfig with restartPolicy := none } }

/-- The same container with the same running state and restart policy. -/
structure SameContainer (c c' : Inspected) : Prop where
  core : c'.core = c.core
  running : c'.running = c.running
  setting : c'.setting = c.setting

/-- The original container while the upgrade works on it. -/
structure Kin (c c' : Inspected) : Prop where
  core : c'.core = c.core
  running : c'.running = true → c.running = true

theorem Kin.refl (c : Inspected) : Kin c c := ⟨rfl, id⟩

theorem Kin.stop {c c' : Inspected} (h : Kin c c') : Kin c (Change.stop.apply c') :=
  ⟨h.core, fun hrun => Bool.noConfusion hrun⟩

theorem Kin.setRestart {c c' : Inspected} (h : Kin c c') (setting : RestartSetting) :
    Kin c (c'.setRestart setting) :=
  ⟨h.core, h.running⟩

theorem SameContainer.refl (c : Inspected) : SameContainer c c := ⟨rfl, rfl, rfl⟩

theorem SameContainer.mounts {c c' : Inspected} (h : SameContainer c c') : c'.mounts = c.mounts := by
  have hmounts : c'.core.mounts = c.core.mounts := by rw [h.core]
  exact hmounts

/-- The same container has the same volume at `/data`. -/
theorem SameContainer.dataVolume {c c' : Inspected} (h : SameContainer c c') :
    dataVolume c' = dataVolume c := by
  unfold Guest.dataVolume
  rw [h.mounts]

/-- A container with its policy set, and started if it is to run. -/
def settled (c : Inspected) (policy : RestartPolicy) (running : Bool) : Inspected :=
  if running then Change.start.apply (c.setRestart (restartSetting policy))
  else c.setRestart (restartSetting policy)

/-- What an interrupted upgrade left of a container is settled to the container itself. -/
theorem Kin.settled {c c' : Inspected} (h : Kin c c') :
    SameContainer c (settled c' c.policy c.running) := by
  unfold Guest.settled
  split
  · next hrun => exact ⟨h.core, hrun.symm, setting_setRestart c' c.policy⟩
  · next hrun =>
    have hstopped : c'.running = false := Bool.eq_false_iff.mpr fun h' => hrun (h.running h')
    exact ⟨h.core, hstopped.trans (Bool.eq_false_iff.mpr hrun).symm, setting_setRestart c' c.policy⟩

/-! ### The names -/

theorem containerOf_ne_backupOf (request : Request) : containerOf request ≠ backupOf request := by
  intro h
  have hlen := congrArg String.length h
  simp [backupOf] at hlen

theorem retained_ne_backupOf (request : Request) (hex : String) :
    containerOf request ++ "-replaced-" ++ hex ≠ backupOf request := by
  intro h
  have hlist := congrArg String.toList h
  simp [backupOf] at hlist

theorem retained_ne_containerOf (request : Request) (hex : String) :
    containerOf request ++ "-replaced-" ++ hex ≠ containerOf request := by
  intro h
  have hlen := congrArg String.length h
  have hlabel : "-replaced-".length = 10 := rfl
  simp only [String.length_append] at hlen
  omega

/-! ### Setting the policy and starting -/

section Settle
variable {R : List (Entry Call fun c => Except GuestError c.op.Val) → Except GuestError Unit →
  Containers → Prop} {h : List (Entry Call fun c => Except GuestError c.op.Val)}
  {d : Containers} {name : String} {c : Inspected} {phase : Phase} {policy : RestartPolicy}
  {running : Bool}

/-- `update_restart`, then `start` if it is to run: the end of both recoveries and of `restore`. -/
theorem ensures_settle (hc : d name = some c)
    (hfault : ∀ t, R (h ++ [⟨⟨phase, .change name (.updateRestart (restartSetting policy))⟩,
      .error (.fault t)⟩]) (.error (.fault t)) d)
    (hstart : running = true → ∀ t, R (h ++ [⟨⟨phase, .change name (.updateRestart
      (restartSetting policy))⟩, .ok ()⟩] ++ [⟨⟨phase, .change name .start⟩, .error (.fault t)⟩])
      (.error (.fault t)) (Function.update d name (some (c.setRestart (restartSetting policy)))))
    (hok : ∀ h', R h' (.ok ()) (Function.update d name (some (settled c policy running)))) :
    (do updateRestart phase name policy
        onlyIf running (start phase name) : Runner Unit).Ensures exec R h d := by
  refine ensures_change hc hfault ?_
  unfold onlyIf
  split
  · next hrun =>
    rw [← bind_pure (start phase name)]
    refine ensures_change (Function.update_self ..) (hstart hrun) ?_
    have hend := hok (h ++ [⟨⟨phase, .change name (.updateRestart (restartSetting policy))⟩, .ok ()⟩] ++
      [⟨⟨phase, .change name .start⟩, .ok ()⟩])
    rw [settled, if_pos hrun] at hend
    rw [Function.update_idem]
    exact hend
  · next hrun =>
    have hend := hok (h ++ [⟨⟨phase, .change name (.updateRestart (restartSetting policy))⟩, .ok ()⟩])
    rw [settled, if_neg hrun] at hend
    exact hend

end Settle

/-! ### Upgrade -/

/-- The step failed without taking effect. -/
def isFault : Entry Call (fun c => Except GuestError c.op.Val) → Bool
  | ⟨_, .error (.fault _)⟩ => true
  | _ => false

/-- No step of a recovery failed. -/
def RecoveryWorks (h : List (Entry Call fun c => Except GuestError c.op.Val)) : Prop :=
  h.all (fun e => !(decide (e.1.phase = .recovery) && isFault e)) = true

instance (h : List (Entry Call fun c => Except GuestError c.op.Val)) : Decidable (RecoveryWorks h) :=
  inferInstanceAs (Decidable (_ = true))

theorem not_recoveryWorks (h : List (Entry Call fun c => Except GuestError c.op.Val))
    (op : DockerOp) (text : String) :
    ¬ RecoveryWorks (h ++ [⟨⟨.recovery, op⟩, .error (.fault text)⟩]) := by
  simp [RecoveryWorks, isFault]

section Upgrade
variable (request : Request) (d₀ : Containers) (c : Inspected)

/-- The instance and its backup as they were. -/
def Restored (d : Containers) : Prop :=
  d (backupOf request) = d₀ (backupOf request) ∧
    ∃ c', d (containerOf request) = some c' ∧ SameContainer c c'

/-- The original container stands under the name of the backup, stopped. -/
def Shelved (d : Containers) : Prop :=
  d₀ (backupOf request) = none ∧
    ∃ c', d (backupOf request) = some c' ∧ Kin c c' ∧ c'.running = false

/-- What `restore` finds out from the container that took the name. -/
def Labelled (d : Containers) : Prop :=
  ∃ n, d (containerOf request) = some n ∧
    rollbackMetadata n = .ok ⟨some c.policy, some c.running⟩

/-- The state while the flags of `upgrade` have these values. -/
def Midway (progress : Progress) (d : Containers) : Prop :=
  match progress with
  | ⟨false, false⟩ => d (backupOf request) = d₀ (backupOf request) ∧
      ∃ c', d (containerOf request) = some c' ∧ Kin c c'
  | ⟨true, false⟩ => Shelved request d₀ c d ∧ d (containerOf request) = none
  | ⟨true, true⟩ => Shelved request d₀ c d ∧ Labelled request c d
  | ⟨false, true⟩ => False

variable {request d₀ c} {d : Containers}
  {h : List (Entry Call fun c => Except GuestError c.op.Val)}

/-- The `except` undoes what the flags say. -/
theorem rollBack_spec {plan : UpgradePlan} {progress : Progress} (hplan : plan.inspected = c)
    (hd : Midway request d₀ c progress d) :
    (rollBack request plan progress).Ensures exec (fun h' r d' => RecoveryWorks h' →
      r = .ok () ∧ Restored request d₀ c d') h d := by
  have hne := containerOf_ne_backupOf request
  subst hplan
  -- From a container that is kin of the original, under its name.
  have hsettle : ∀ (h : List (Entry Call fun c => Except GuestError c.op.Val)) (d : Containers) c',
      d (backupOf request) = d₀ (backupOf request) → d (containerOf request) = some c' →
      Kin plan.inspected c' →
      (do updateRestart .recovery (containerOf request) plan.inspected.policy
          onlyIf plan.inspected.running (start .recovery (containerOf request)) :
        Runner Unit).Ensures exec (fun h' r d' => RecoveryWorks h' →
          r = .ok () ∧ Restored request d₀ plan.inspected d') h d := by
    intro h d c' hbackup hname hkin
    refine ensures_settle hname (fun t hw => absurd hw (not_recoveryWorks _ _ _))
      (fun _ t hw => absurd hw (not_recoveryWorks _ _ _)) fun _ _ => ⟨rfl, ?_, ?_⟩
    · rw [Function.update_of_ne hne.symm, hbackup]
    · exact ⟨_, Function.update_self .., hkin.settled⟩
  -- From the backup, once the name is free.
  have hback : ∀ (h : List (Entry Call fun c => Except GuestError c.op.Val)) (d : Containers),
      Shelved request d₀ plan.inspected d → d (containerOf request) = none →
      (do rename .recovery (backupOf request) (containerOf request)
          updateRestart .recovery (containerOf request) plan.inspected.policy
          onlyIf plan.inspected.running (start .recovery (containerOf request)) :
        Runner Unit).Ensures exec (fun h' r d' => RecoveryWorks h' →
          r = .ok () ∧ Restored request d₀ plan.inspected d') h d := by
    rintro h d ⟨hnone, c', hbackup, hkin, -⟩ hname
    refine ensures_rename hbackup hname (fun t hw => absurd hw (not_recoveryWorks _ _ _)) ?_
    refine hsettle _ _ c' ?_ (Function.update_self ..) hkin
    rw [Function.update_of_ne hne.symm, Function.update_self, hnone]
  obtain ⟨renamed, created⟩ := progress
  cases renamed with
  | false =>
    cases created with
    | false =>
      obtain ⟨hbackup, c', hname, hkin⟩ := hd
      exact hsettle h d c' hbackup hname hkin
    | true => exact hd.elim
  | true =>
    cases created with
    | false => exact hback h d hd.1 hd.2
    | true =>
      obtain ⟨⟨hnone, c', hbackup, hkin⟩, n, hname, -⟩ := hd
      refine ensures_remove hname (fun t hw => absurd hw (not_recoveryWorks _ _ _)) ?_
      refine hback _ _ ⟨hnone, c', ?_, hkin⟩ (Function.update_self ..)
      rw [Function.update_of_ne hne.symm, hbackup]

theorem Change.apply_config (c : Inspected) (what : Change) : (what.apply c).config = c.config := by
  cases what <;> rfl

theorem rollbackMetadata_congr {n n' : Inspected} (hconfig : n'.config = n.config) :
    rollbackMetadata n' = rollbackMetadata n := by
  rw [rollbackMetadata, rollbackMetadata, hconfig]

theorem lookup_withRollback (labels : List (String × Label)) (metadata : RollbackMetadata) :
    List.lookup rollbackLabel (labels.filter (fun l => l.1 ≠ rollbackLabel) ++
      [(rollbackLabel, .rollback metadata)]) = some (.rollback metadata) := by
  induction labels with
  | nil => simp
  | cons l rest ih =>
    by_cases hl : l.1 = rollbackLabel
    · simpa [hl] using ih
    · have hbeq : (rollbackLabel == l.1) = false := by simpa using Ne.symm hl
      rw [List.filter_cons_of_pos (by simpa using hl), List.cons_append, List.lookup_cons, hbeq]
      exact ih

/-- What changes the new container in its place keeps the state. -/
theorem midway_change {n : Inspected} (what : Change) (hd : Midway request d₀ c ⟨true, true⟩ d)
    (hname : d (containerOf request) = some n) :
    Midway request d₀ c ⟨true, true⟩
      (Function.update d (containerOf request) (some (what.apply n))) := by
  have hne := containerOf_ne_backupOf request
  obtain ⟨⟨hnone, c', hbackup, hkin⟩, n', hname', hlabel⟩ := hd
  obtain rfl : n = n' := Option.some.inj (hname.symm.trans hname')
  refine ⟨⟨hnone, c', ?_, hkin⟩, what.apply n, Function.update_self .., ?_⟩
  · rw [Function.update_of_ne hne.symm, hbackup]
  · rw [rollbackMetadata_congr (Change.apply_config n what), hlabel]

/-- The steps up to the first flag. -/
theorem setAside_spec (plan : UpgradePlan) (hname : d₀ (containerOf request) = some c) :
    (do stop .forward (containerOf request)
        cloneVolume plan.oldVolume plan.newVolume
        seedData plan.newVolume request
        updateRestart .forward (containerOf request) noPolicy
        rename .forward (containerOf request) (backupOf request) : Runner Unit).Ensures exec
      (fun _ r d' => match r with
        | .ok () => Midway request d₀ c ⟨true, false⟩ d'
        | .error _ => Midway request d₀ c ⟨false, false⟩ d') h d₀ := by
  have hne := containerOf_ne_backupOf request
  -- Until the renaming works, only the container of the instance has changed.
  have hin : ∀ c', Kin c c' → Midway request d₀ c ⟨false, false⟩
      (Function.update d₀ (containerOf request) (some c')) := fun c' hkin =>
    ⟨Function.update_of_ne hne.symm .., c', Function.update_self .., hkin⟩
  have hstopped := (Kin.refl c).stop
  refine ensures_change hname (fun t => ⟨rfl, c, hname, Kin.refl c⟩) ?_
  refine ensures_quiet_bind (cloneVolume_within (fun _ hq => hq) _ _) (fun _ _ => ?_)
    fun _ _ => hin _ hstopped
  refine ensures_quiet_bind (seedData_within (fun _ hq => hq) _ _) (fun h' _ => ?_)
    fun _ _ => hin _ hstopped
  refine ensures_change (Function.update_self ..) (fun t => hin _ hstopped) ?_
  rw [Function.update_idem, ← bind_pure (rename .forward _ _)]
  have hset := hstopped.setRestart (restartSetting noPolicy)
  cases hbackup : d₀ (backupOf request) with
  | some other =>
    refine ensures_rename_taken ?_ fun e => hin _ hset
    rw [Function.update_of_ne hne.symm, hbackup]
    exact Option.some_ne_none other
  | none =>
    refine ensures_rename (Function.update_self ..) ?_ (fun t => hin _ hset) ?_
    · rw [Function.update_of_ne hne.symm, hbackup]
    · refine ⟨⟨hbackup, _, Function.update_self .., hset, rfl⟩, ?_⟩
      rw [Function.update_of_ne hne, Function.update_self]

/-- The new container carries the label that `restore` reads. -/
theorem midway_created (hd : Midway request d₀ c ⟨true, false⟩ d) (body : CreateBody)
    (mounts : List MountPoint) :
    let body := body.withRollback ⟨some c.policy, some c.running⟩
    Midway request d₀ c ⟨true, true⟩ (Function.update d (containerOf request)
      (some ⟨body.config, body.hostConfig, mounts, false⟩)) := by
  have hne := containerOf_ne_backupOf request
  obtain ⟨⟨hnone, c', hbackup, hkin⟩, -⟩ := hd
  refine ⟨⟨hnone, c', ?_, hkin⟩, _, Function.update_self .., ?_⟩
  · rw [Function.update_of_ne hne.symm, hbackup]
  · simp only [rollbackMetadata, CreateBody.withRollback, lookup_withRollback]

/-- Starting and preparing the new container changes no other. -/
theorem launch_spec (hd : Midway request d₀ c ⟨true, true⟩ d) :
    (do start .forward (containerOf request)
        activate (containerOf request) request : Runner Unit).Ensures exec
      (fun _ _ d' => Midway request d₀ c ⟨true, true⟩ d') h d := by
  obtain ⟨n, hname, -⟩ := hd.2
  refine ensures_change hname (fun t => hd) ?_
  have hwithin : (activate (containerOf request) request).Everywhere fun call _ =>
      call.op.isQuiet = true ∨ call = ⟨.forward, .change (containerOf request) .restart⟩ :=
    activate_within (fun _ hq => .inl hq) (.inr rfl) request
  refine hwithin.ensures (Midway request d₀ c ⟨true, true⟩) ?_ (midway_change .start hd hname)
  intro call choice d r d' hcall hx hd
  obtain hquiet | rfl := hcall
  · rwa [exec_quiet hquiet hx]
  · obtain ⟨n, hname, -⟩ := hd.2
    cases choice with
    | fault t =>
      cases hx
      exact hd
    | answer a =>
      simp only [exec, perform, hname, Option.some.injEq, Prod.mk.injEq] at hx
      rw [← hx.2]
      exact midway_change .restart hd hname

/-- The flags say what a failed upgrade has done. -/
theorem performUpgrade_spec {plan : UpgradePlan} (hplan : plan.inspected = c)
    (hname : d₀ (containerOf request) = some c) :
    (performUpgrade request plan).Ensures exec (fun _ r d' => match r with
      | .ok () => Midway request d₀ c ⟨true, true⟩ d'
      | .error (_, progress) => Midway request d₀ c progress d') h d₀ := by
  subst hplan
  refine Prog.ensures_mapFail_bind _ ((setAside_spec plan hname).mono fun h' r d' _ hd => ?_)
  cases r with
  | error e => exact hd
  | ok _ =>
    refine Prog.ensures_mapFail_bind _ ?_
    rw [← bind_pure (create .forward _ _)]
    refine ensures_create hd.2 (fun t => hd) fun mounts => ?_
    rw [← bind_pure (during ⟨true, true⟩ _)]
    refine Prog.ensures_mapFail_bind _ ((launch_spec (midway_created hd plan.body mounts)).mono fun h'' r d'' _ hd' => ?_)
    cases r with
    | error e => exact hd'
    | ok _ => exact hd'

theorem planUpgrade_spec (hname : d₀ (containerOf request) = some c) :
    (planUpgrade request).Ensures exec (fun _ r d' =>
      d' = d₀ ∧ ∀ plan, r = .ok plan → plan.inspected = c) h d₀ := by
  have hrefused : ∀ (_ : List (Entry Call fun c => Except GuestError c.op.Val)) (e : GuestError),
      d₀ = d₀ ∧ ∀ plan : UpgradePlan, Except.error e = .ok plan → plan.inspected = c :=
    fun _ _ => ⟨rfl, fun _ hr => nomatch hr⟩
  have hquiet : ∀ call : Call, call.op.isQuiet = true → call.op.isQuiet = true := fun _ hq => hq
  refine ensures_quiet_bind (everywhere_isPresent hquiet _) (fun _ taken => ?_) hrefused
  refine ensures_quiet_bind everywhere_raise (fun _ _ => ?_) hrefused
  refine ensures_inspect hname (fun t => hrefused [] _) ?_
  refine ensures_quiet_bind (Prog.everywhere_ofExcept _) (fun _ oldVolume => ?_) hrefused
  refine ensures_quiet_bind (imageVersion_within hquiet _) (fun _ targetVersion => ?_) hrefused
  refine ensures_quiet_bind (deviceVersion_within hquiet _) (fun _ currentVersion => ?_) hrefused
  refine ensures_quiet_bind everywhere_raise (fun _ _ => ?_) hrefused
  refine ensures_quiet_bind (everywhere_run hquiet _) (fun _ hex => ?_) hrefused
  refine ensures_quiet_bind (Prog.everywhere_ofExcept _) (fun _ body => ?_) hrefused
  refine ensures_quiet_bind (presentTraces_within hquiet _) (fun _ isFile => ?_) hrefused
  refine ensures_quiet_bind (Prog.everywhere_ofExcept _) (fun _ body => ?_) hrefused
  refine ⟨rfl, fun plan hr => ?_⟩
  cases hr
  rfl

theorem upgrade_spec (hname : d₀ (containerOf request) = some c) :
    (upgrade request).Ensures exec (fun h' r d' => match r with
      | .ok () => Midway request d₀ c ⟨true, true⟩ d'
      | .error _ => RecoveryWorks h' → Restored request d₀ c d') h d₀ := by
  refine (planUpgrade_spec hname).bind ?_ ?_
  · rintro h plan d' - ⟨rfl, hplan⟩
    rw [Prog.ensures_tryThen]
    refine (performUpgrade_spec (hplan plan rfl) hname).mono fun h' r d' _ hd => ?_
    cases r with
    | ok _ => exact hd
    | error e =>
      rw [Prog.ensures_tryThen]
      refine (rollBack_spec (hplan plan rfl) hd).mono fun h'' r d'' _ hr => ?_
      cases r with
      | ok _ => exact fun hw => (hr hw).2
      | error e' => exact fun hw => nomatch (hr hw).1
  · rintro h e d' - ⟨rfl, -⟩ -
    exact ⟨rfl, c, hname, SameContainer.refl c⟩

/-! ### Restore after an upgrade -/

theorem planRestore_spec {current original : Inspected}
    (hname : d (containerOf request) = some current) (hbackup : d (backupOf request) = some original) :
    (planRestore request).Ensures exec (fun _ r d' => d' = d ∧ ∀ plan, r = .ok plan →
      ∃ metadata hex, rollbackMetadata current = .ok metadata ∧
        plan = ⟨current, metadata.policy.getD original.policy, metadata.running.getD true,
          containerOf request ++ "-replaced-" ++ hex⟩) h d := by
  have hrefused : ∀ (_ : List (Entry Call fun c => Except GuestError c.op.Val)) (e : GuestError),
      d = d ∧ ∀ plan : RestorePlan, Except.error e = .ok plan → ∃ metadata hex,
        rollbackMetadata current = .ok metadata ∧ plan = ⟨current,
          metadata.policy.getD original.policy, metadata.running.getD true,
            containerOf request ++ "-replaced-" ++ hex⟩ :=
    fun _ _ => ⟨rfl, fun _ hr => nomatch hr⟩
  refine ensures_quiet_bind (everywhere_isPresent (fun _ hq => hq) _) (fun _ available => ?_) hrefused
  refine ensures_quiet_bind everywhere_raise (fun _ _ => ?_) hrefused
  refine ensures_inspect hname (fun t => hrefused [] _) ?_
  refine ensures_inspect hbackup (fun t => hrefused [] _) ?_
  cases hmeta : rollbackMetadata current with
  | error e => exact ⟨rfl, fun _ hr => nomatch hr⟩
  | ok metadata =>
    change (run .forward ["uuid4"] >>= _).Ensures exec _ _ d
    refine ensures_quiet_bind (everywhere_run (fun _ hq => hq) _) (fun _ hex => ?_)
      fun _ _ => ⟨rfl, fun _ hr => nomatch hr⟩
    refine ⟨rfl, fun plan hr => ?_⟩
    cases hr
    exact ⟨metadata, hex, rfl, rfl⟩

theorem performRestore_spec {plan : RestorePlan} (hd : Midway request d₀ c ⟨true, true⟩ d)
    (hpolicy : plan.policy = c.policy) (hruns : plan.startsOriginal = c.running)
    (hnew : plan.retained ≠ containerOf request) (hother : plan.retained ≠ backupOf request) :
    (performRestore request plan).Ensures exec (fun _ r d' => r = .ok () →
      ∃ c', d' (containerOf request) = some c' ∧ SameContainer c c') h d := by
  have hne := containerOf_ne_backupOf request
  obtain ⟨⟨-, c', hbackup, hkin, -⟩, n, hname, -⟩ := hd
  refine Prog.ensures_mapFail_bind _ ?_
  refine ensures_change hname (fun t hr => nomatch hr) ?_
  refine ensures_change (Function.update_self ..) (fun t hr => nomatch hr) ?_
  rw [Function.update_idem, ← bind_pure (rename .forward _ plan.retained)]
  cases hfree : d plan.retained with
  | some other =>
    refine ensures_rename_taken ?_ ?_
    · rw [Function.update_of_ne hnew, hfree]
      exact Option.some_ne_none other
    · exact fun _ hr => nomatch hr
  | none =>
    refine ensures_rename (Function.update_self ..) ?_ ?_ ?_
    · rw [Function.update_of_ne hnew, hfree]
    · exact fun _ hr => nomatch hr
    · refine (Prog.ensures_mapFail _ _).mpr ?_
      refine ensures_rename (c := c') ?_ ?_ (fun t hr => nomatch hr) ?_
      · rw [Function.update_of_ne hother.symm, Function.update_of_ne hne.symm,
          Function.update_of_ne hne.symm, hbackup]
      · rw [Function.update_of_ne hnew.symm, Function.update_self]
      · refine ensures_settle (Function.update_self ..) (fun t hr => nomatch hr)
          (fun _ t hr => nomatch hr) fun _ _ => ⟨_, Function.update_self .., ?_⟩
        rw [hpolicy, hruns]
        exact hkin.settled

theorem restore_spec (hd : Midway request d₀ c ⟨true, true⟩ d) :
    (restore request).Ensures exec (fun _ r d' => r = .ok () →
      ∃ c', d' (containerOf request) = some c' ∧ SameContainer c c') h d := by
  obtain ⟨⟨-, c', hbackup, -⟩, n, hname, hlabel⟩ := id hd
  refine (planRestore_spec hname hbackup).bind ?_ ?_
  · rintro h plan d' - ⟨rfl, hplan⟩
    obtain ⟨metadata, hex, hmeta, rfl⟩ := hplan plan rfl
    obtain rfl : ⟨some c.policy, some c.running⟩ = metadata := Except.ok.inj (hlabel.symm.trans hmeta)
    rw [Prog.ensures_tryThen]
    refine (performRestore_spec hd rfl rfl (retained_ne_containerOf request hex)
      (retained_ne_backupOf request hex)).mono fun h' r d' _ hr => ?_
    cases r with
    | ok _ => exact fun _ => hr rfl
    | error e =>
      refine Prog.Ensures.bind (Prog.ensures_history _) ?_ ?_
      · exact fun _ _ _ _ _ hr => nomatch hr
      · exact fun _ _ _ _ _ hr => nomatch hr
  · exact fun _ _ _ _ _ hr => nomatch hr

end Upgrade

/-- A failed upgrade leaves the instance and its backup as they were, however many of its steps
failed; a successful one finds no backup and is taken back by a successful `restore`. -/
theorem upgrade_is_reversible (request request' : Request) (c : Inspected) (d₀ d : Containers)
    (choices : List Choice) (h : List (Entry Call fun c => Except GuestError c.op.Val))
    (r : Except GuestError Unit) (hsame : request'.name = request.name)
    (hname : d₀ (containerOf request) = some c)
    (hrun : (upgrade request).alone exec [] d₀ choices = some (h, r, d)) :
    (∀ e, r = .error e → RecoveryWorks h → Restored request d₀ c d) ∧
      (r = .ok () → d₀ (backupOf request) = none ∧
        ∀ choices' h' d', (restore request').alone exec [] d choices' = some (h', .ok (), d') →
          ∃ c', d' (containerOf request') = some c' ∧ SameContainer c c') := by
  have hcontainer : containerOf request' = containerOf request := by
    rw [containerOf, containerOf, hsame]
  have hbackup : backupOf request' = backupOf request := by rw [backupOf, backupOf, hcontainer]
  have hd := (upgrade_spec hname).alone hrun
  constructor
  · rintro e rfl hworks
    exact hd hworks
  · rintro rfl
    refine ⟨hd.1.1, fun choices' h' d' hrun' => ?_⟩
    have hd' : Midway request' d₀ c ⟨true, true⟩ d := by
      simpa only [Midway, Shelved, Labelled, hcontainer, hbackup] using hd
    exact (restore_spec hd').alone hrun' rfl

/-! ### An instance with a backup, and one whose new container does not start -/

/-- The instance `a`, with what stands under the name of its backup. -/
def plainContainers (backup : Option Inspected) : Containers := fun name =>
  if name = "qc-a" then some plainInspected
  else if name = "qc-a-preupgrade" then backup else none

/-- A step that works and answers this text. -/
def answering (text : String) : Choice :=
  .answer ⟨text, true, ⟨"local", false, "/var/lib/docker/volumes/qc-a/_data"⟩, []⟩

theorem earlier_backup_remains :
    ¬ ∀ (request : Request) (c : Inspected) (volume : String) (d₀ d : Containers)
      (choices : List Choice) (h : List (Entry Call fun c => Except GuestError c.op.Val))
      (e : GuestError), d₀ (containerOf request) = some c → dataVolume c = .ok volume →
      (upgrade request).alone exec [] d₀ choices = some (h, .error e, d) →
      (h.filter isFault).length ≤ 1 → RecoveryWorks h →
      (∃ c', d (containerOf request) = some c' ∧ SameContainer c c') ∧
        d (backupOf request) = none := by
  intro hclaim
  have hbackup := (hclaim plainRequest plainInspected "qc-a-data"
    (plainContainers (some { plainInspected with running := false }))
    (plainContainers (some { plainInspected with running := false })) [answering ""]
    [⟨⟨.forward, .isPresent (backupOf plainRequest)⟩, .ok true⟩]
    (.raised ("An upgrade backup already exists; restore it or remove it deliberately " ++
      "before another upgrade"))
    (by decide +kernel) (by decide +kernel) rfl (by decide +kernel) (by decide +kernel)).2
  exact absurd hbackup (by decide +kernel)

/-- Every step works until the new container is started. -/
def startFails : List Choice :=
  List.replicate 19 (answering "ro.build.version.sdk=33") ++
    List.replicate 15 (answering "0123456789ab") ++ [.fault "docker start: no such device"] ++
    List.replicate 4 (answering "")

theorem upgrade_is_reversible_startFails :
    ∃ h e d, (upgrade plainRequest).alone exec [] (plainContainers none) startFails =
        some (h, .error e, d) ∧
      Restored plainRequest (plainContainers none) plainInspected d := by
  have hout : Prog.failedSo (fun h _ => decide (RecoveryWorks h))
      ((upgrade plainRequest).alone exec [] (plainContainers none) startFails) = true := by
    decide +kernel
  obtain ⟨h, e, d, hrun, hworks⟩ := Prog.failedSo_eq_true hout
  exact ⟨h, e, d, hrun, (upgrade_is_reversible plainRequest plainRequest plainInspected
    (plainContainers none) d startFails h (.error e) rfl (by decide +kernel) hrun).1 e rfl
    (of_decide_eq_true hworks)⟩

end JustRun.Guest
