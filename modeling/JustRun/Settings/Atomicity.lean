import JustRun.Concurrency.Stopping
import JustRun.Machine.Fallible
import JustRun.Settings.Update

/-!
# Whether an update is all or nothing

An update changes the login item, the desktop shortcut and the settings file in this order, and
empties the file before it writes it. So it is all or nothing only where the host refuses it
before its first effect.
-/
namespace JustRun.Settings
open Machine Concurrency Concurrency.Prog

variable {Other : Type}

abbrev SettingsCalls (Other : Type) := List (Entry (SettingsOp Other) SettingsRes)

/-- The settings that a file is read as. -/
def readSettings (serde : Serde Other) (content : Option (List UInt8)) :
    Option (AppSettings Other) :=
  (content.bind decodeText).bind serde.fromStr

/-- Memory, settings file, login item and desktop shortcut are as before. -/
structure AsBefore (host : Host Other) (s s' : SettingsState Other) : Prop where
  memory : s'.memory = s.memory
  settingsFile : s'.files host.settingsFile = s.files host.settingsFile
  loginItem : ∀ path, host.startupFile = .ok path ∨ host.legacyStartupFile = .ok path →
    s'.files path = s.files path
  services : s'.loaded = s.loaded
  shortcut : ∀ dir, host.desktopDir = .ok dir →
    ∀ path ∈ desktopShortcutPaths dir ++ legacyDesktopShortcutPaths dir,
      s'.files path = s.files path

theorem AsBefore.refl (host : Host Other) (s : SettingsState Other) : AsBefore host s s :=
  ⟨rfl, rfl, fun _ _ => rfl, rfl, fun _ _ _ _ => rfl⟩

/-- The next `load_from_disk`, where every call works, yields one of these settings and leaves the
settings file as it is. -/
def LoadsOneOf (host : Host Other) (serde : Serde Other) (settings : List (AppSettings Other))
    (c : SettingsState Other) : Prop :=
  ∀ choices h loaded c', (loadFromDisk host serde).alone SettingsState.executeWorking [] c choices =
    some (h, .ok loaded, c') →
      loaded ∈ settings ∧ c'.files host.settingsFile = c.files host.settingsFile

structure AllOrNothing (host : Host Other) (serde : Serde Other) (s : SettingsState Other)
    (new : AppSettings Other) : Prop where
  failed : ∀ choices h error s', (update host serde new).alone SettingsState.execute [] s choices =
    some (h, .error error, s') → AsBefore host s s'
  stopped : ∀ c, (update host serde new).StopsIn SettingsState.execute s c →
    LoadsOneOf host serde [s.memory, new] c

/-- The host refuses the update before its first effect: it has no login items, or no place for
them, or no desktop where there is no login item to remove. -/
def Refuses (host : Host Other) (s : SettingsState Other) (new : AppSettings Other) : Prop :=
  match host.platform with
  | .linux => new.launchAtLogin = true ∨ host.desktopDir.isOk = false
  | _ => host.startupDir.isOk = false ∨ (host.desktopDir.isOk = false ∧ new.launchAtLogin = false ∧
      ∀ path, host.startupFile = .ok path ∨ host.legacyStartupFile = .ok path → s.files path = none)

/-! ### The next load -/

theorem decodeText_bytes (text : String) : decodeText (bytes text) = some text := by
  simp only [decodeText, bytes, String.fromUTF8?]
  exact dif_pos text.isValidUTF8

section Load
variable {host : Host Other} {serde : Serde Other} {c : SettingsState Other}
  {h : SettingsCalls Other}

theorem ensureDirs_working (s : AppSettings Other) : (ensureDirs s).Ensures
    SettingsState.executeWorking (fun _ r c' => r = .ok () ∧ c' = c) h c := by
  have hdir : ∀ path h', (ensureDir path : SettingsProg Other Unit).Ensures
      SettingsState.executeWorking (fun _ r c' => r = .ok () ∧ c' = c) h' c := by
    intro path h' choice r c' hx
    simp only [SettingsState.executeWorking, Option.ite_none_right_eq_some] at hx
    cases hx.2
    exact ⟨rfl, rfl⟩
  have hthen : ∀ path (p : SettingsProg Other Unit),
      (∀ h', p.Ensures SettingsState.executeWorking (fun _ r c' => r = .ok () ∧ c' = c) h' c) →
      ∀ h', (ensureDir path >>= fun _ => p).Ensures SettingsState.executeWorking
        (fun _ r c' => r = .ok () ∧ c' = c) h' c := by
    intro path p hp h'
    refine (hdir path h').bind (fun h₁ _ c' _ hq => ?_) fun _ _ _ _ hq => absurd hq.1 (by simp)
    rw [hq.2]
    exact hp h₁
  refine hthen _ _ (hthen _ _ (hthen _ _ fun h' => ?_)) h
  split
  · exact hdir _ h'
  · exact ⟨rfl, rfl⟩

theorem adopt_working (s : AppSettings Other) : (adopt s).Ensures SettingsState.executeWorking
    (fun _ r c' => r = .ok s ∧ c'.files = c.files) h c := by
  refine (ensureDirs_working s).bind (fun h₁ _ c' _ hq => ?_) fun _ _ _ _ hq => absurd hq.1 (by simp)
  rw [hq.2]
  intro choice r c₂ hx
  simp only [SettingsState.executeWorking, Option.ite_none_right_eq_some] at hx
  cases hx.2
  exact ⟨rfl, rfl⟩

/-- A working `std::fs::write`. -/
theorem writeFile_working (path : Path) (content label : String) :
    (writeFile path content label).Ensures SettingsState.executeWorking
      (fun _ r c' => r = .ok () ∧ c'.files = Function.update c.files path (some (bytes content)))
      h c := by
  intro choice r c₁ hx
  simp only [SettingsState.executeWorking, Option.ite_none_right_eq_some] at hx
  obtain ⟨hworks, hx⟩ := hx
  simp only [SettingsState.exec, SettingsState.create, hworks] at hx
  cases hx
  intro choice' r' c₂ hx'
  simp only [SettingsState.executeWorking, Option.ite_none_right_eq_some] at hx'
  obtain ⟨hworks', hx'⟩ := hx'
  simp only [SettingsState.exec, SettingsState.write, hworks'] at hx'
  cases hx'
  refine ⟨rfl, ?_⟩
  simp [overlay]

theorem saveToDisk_working (s : AppSettings Other) : (saveToDisk host serde s).Ensures
    SettingsState.executeWorking (fun _ r c' => r = .ok () ∧
      c'.files = Function.update c.files host.settingsFile (some (bytes (serde.toStringPretty s))))
      h c := by
  intro choice r c₁ hx
  simp only [SettingsState.executeWorking, Option.ite_none_right_eq_some] at hx
  cases hx.2
  exact writeFile_working _ _ _

theorem loadDefaults_working : (loadDefaults host serde).Ensures SettingsState.executeWorking
    (fun _ r c' => r = .ok host.defaults ∧
      c'.files host.settingsFile = some (bytes (serde.toStringPretty host.defaults))) h c := by
  refine (ensureDirs_working _).bind (fun h₁ _ c' _ hq => ?_) fun _ _ _ _ hq => absurd hq.1 (by simp)
  rw [hq.2]
  intro choice r c₂ hx
  simp only [SettingsState.executeWorking, Option.ite_none_right_eq_some] at hx
  cases hx.2
  refine (ensures_bind _ _).mpr ((ensures_attempt _).mpr ?_)
  refine (saveToDisk_working host.defaults).mono fun _ _ c₃ _ hq => ⟨rfl, ?_⟩
  rw [hq.2, Function.update_self]

/-- What a load yields, and what it leaves in the file. -/
theorem loadFromDisk_working : (loadFromDisk host serde).Ensures SettingsState.executeWorking
    (fun _ r c' => match readSettings serde (c.files host.settingsFile) with
      | some s => r = .ok s ∧ c'.files host.settingsFile = c.files host.settingsFile
      | none => r = .ok host.defaults ∧
        c'.files host.settingsFile = some (bytes (serde.toStringPretty host.defaults))) h c := by
  intro choice r c₁ hx
  simp only [SettingsState.executeWorking, Option.ite_none_right_eq_some] at hx
  cases hx.2
  intro choice' present c₂ hx'
  simp only [SettingsState.executeWorking, Option.ite_none_right_eq_some] at hx'
  cases hx'.2
  dsimp only
  cases hfile : c.files host.settingsFile with
  | none => exact loadDefaults_working
  | some content =>
    rw [Option.isSome_some, if_pos rfl]
    intro choice₃ text c₃ hx₃
    simp only [SettingsState.executeWorking, Option.ite_none_right_eq_some] at hx₃
    obtain ⟨hworks, hx₃⟩ := hx₃
    simp only [SettingsState.exec, hworks, hfile] at hx₃
    cases hx₃
    have hread : readSettings serde (some content) = (decodeText content).bind serde.fromStr := rfl
    rw [Option.bind_some, hread]
    dsimp only
    cases hsettings : (decodeText content).bind serde.fromStr with
    | none => exact loadDefaults_working
    | some s =>
      refine (adopt_working s).mono fun h' r c' _ hq => ⟨hq.1, ?_⟩
      rw [hq.2, hfile]

/-! ### Whether a stop is survived -/

theorem ensureDir_bind_mayReturn {α : Type} (path : Path) {f : Unit → SettingsProg Other α}
    (hf : (f ()).MayReturn SettingsState.executeWorking c) :
    (ensureDir path >>= f).MayReturn SettingsState.executeWorking c :=
  ⟨working, .ok (), c, rfl, hf⟩

theorem ensureDirs_bind_mayReturn {α : Type} (s : AppSettings Other)
    {f : Unit → SettingsProg Other α} (hf : (f ()).MayReturn SettingsState.executeWorking c) :
    (ensureDirs s >>= f).MayReturn SettingsState.executeWorking c := by
  simp only [ensureDirs, bind_assoc]
  refine ensureDir_bind_mayReturn _ (ensureDir_bind_mayReturn _ (ensureDir_bind_mayReturn _ ?_))
  split
  · exact ensureDir_bind_mayReturn _ hf
  · exact hf

theorem loadDefaults_mayReturn (c : SettingsState Other) :
    (loadDefaults host serde).MayReturn SettingsState.executeWorking c := by
  refine ensureDirs_bind_mayReturn _ ⟨working, (), _, rfl, ?_⟩
  exact ⟨working, .ok (), _, rfl, working, .ok (), _, rfl, working, .ok (), _, rfl, trivial⟩

/-- A load comes to its end. -/
theorem loadFromDisk_mayReturn (host : Host Other) (serde : Serde Other) (c : SettingsState Other) :
    (loadFromDisk host serde).MayReturn SettingsState.executeWorking c := by
  refine ensureDir_bind_mayReturn _ ⟨working, _, c, rfl, ?_⟩
  dsimp only
  split
  · refine ⟨working, _, c, rfl, ?_⟩
    dsimp only
    split
    · exact ensureDirs_bind_mayReturn _ ⟨working, (), _, rfl, trivial⟩
    · exact loadDefaults_mayReturn c
  · exact loadDefaults_mayReturn c

/-- A stop is survived where the file is read as one of the settings. -/
theorem loadsOneOf_iff {settings : List (AppSettings Other)}
    (hdefaults : serde.fromStr (serde.toStringPretty host.defaults) = some host.defaults) :
    LoadsOneOf host serde settings c ↔
      ∃ s ∈ settings, readSettings serde (c.files host.settingsFile) = some s := by
  constructor
  · intro hloads
    obtain ⟨choices, h, loaded, c', hrun⟩ :=
      (loadFromDisk_mayReturn host serde c).alone (h := [])
    obtain ⟨hmem, hsame⟩ := hloads choices h loaded c' hrun
    have hload := loadFromDisk_working.alone hrun
    cases hread : readSettings serde (c.files host.settingsFile) with
    | some s =>
      rw [hread] at hload
      obtain rfl : loaded = s := Except.ok.inj hload.1
      exact ⟨loaded, hmem, rfl⟩
    | none =>
      -- The file would hold the defaults, and so be read.
      rw [hread] at hload
      rw [← hsame, hload.2] at hread
      simp [readSettings, decodeText_bytes, hdefaults] at hread
  · rintro ⟨s, hmem, hread⟩ choices h loaded c' hrun
    have hload := loadFromDisk_working.alone hrun
    rw [hread] at hload
    cases hload.1
    exact ⟨hmem, hload.2⟩

end Load

/-! ### An update that is refused -/

section Refused
variable {host : Host Other} {serde : Serde Other} {s : SettingsState Other}
  {new : AppSettings Other}

theorem still_removeIfPresent {path : Path} (hpath : s.files path = none) (label : String) :
    (removeIfPresent path label : SettingsProg Other Unit).Still SettingsState.execute s := by
  apply still_call
  intro choice r s' hx
  cases hx
  rw [hpath]
  exact ⟨rfl, still_ret ()⟩

theorem still_unloadLaunchAgent {path : Path} (hpath : s.files path = none) :
    (unloadLaunchAgent path : SettingsProg Other Unit).Still SettingsState.execute s := by
  apply still_call
  intro choice r s' hx
  cases hx
  rw [hpath]
  exact ⟨rfl, still_ret ()⟩

theorem startupFile_eq {dir : Path} (hdir : host.startupDir = .ok dir) :
    host.startupFile = .ok (dir ++ [host.startupName]) ∧
      host.legacyStartupFile = .ok (dir ++ [host.legacyStartupName]) := by
  rw [Host.startupFile, Host.legacyStartupFile, hdir]
  exact ⟨rfl, rfl⟩

theorem startupFile_error {error : String} (hdir : host.startupDir = .error error) :
    host.startupFile = .error error := by
  rw [Host.startupFile, hdir]
  rfl

/-- Where there is no login item, switching it off changes nothing. -/
theorem still_apply_off (hplatform : host.platform ≠ .linux) {dir : Path}
    (hdir : host.startupDir = .ok dir)
    (habsent : ∀ path, host.startupFile = .ok path ∨ host.legacyStartupFile = .ok path →
      s.files path = none) : (apply host false).Still SettingsState.execute s := by
  obtain ⟨hpath, hlegacy⟩ := startupFile_eq hdir
  have hnone := habsent _ (.inl hpath)
  have hlegacyNone := habsent _ (.inr hlegacy)
  unfold apply
  split
  · rw [applyWindows, hpath, hlegacy]
    exact (still_removeIfPresent hnone _).bind fun _ => still_removeIfPresent hlegacyNone _
  · rw [applyMacos, hpath, hlegacy]
    exact (still_unloadLaunchAgent hnone).bind fun _ => (still_unloadLaunchAgent hlegacyNone).bind
      fun _ => (still_removeIfPresent hnone _).bind fun _ => still_removeIfPresent hlegacyNone _
  · contradiction

theorem applyDesktopShortcut_error {error : String} (hdesktop : host.desktopDir = .error error)
    (enabled : Bool) : applyDesktopShortcut host enabled = .fail error := by
  cases enabled
  · simp only [applyDesktopShortcut, removeDesktopShortcuts, hdesktop]
    rfl
  · simp only [applyDesktopShortcut, hdesktop]
    rfl

theorem still_update (serde : Serde Other) (hrefuses : Refuses host s new) :
    (update host serde new).Still SettingsState.execute s := by
  have hdesktop : host.desktopDir.isOk = false → ∀ enabled, (applyDesktopShortcut host enabled >>=
      fun _ => (do
        ensureDirs new
        saveToDisk host serde new
        .call (.setRuntimeProxy new.proxy) fun _ => .call (.store new) fun _ => .ret new)).Still
      SettingsState.execute s := by
    intro hnone enabled
    cases hdir : host.desktopDir with
    | ok dir => simp [hdir, Except.isOk, Except.toBool] at hnone
    | error error =>
      rw [applyDesktopShortcut_error hdir]
      exact still_fail error
  have hstartup : host.platform ≠ .linux → host.startupDir.isOk = false → ∀ enabled,
      ∃ error, apply host enabled = .fail error := by
    intro hplatform hnone enabled
    cases hdir : host.startupDir with
    | ok dir => simp [hdir, Except.isOk, Except.toBool] at hnone
    | error error =>
      refine ⟨error, ?_⟩
      unfold apply
      split
      · rw [applyWindows, startupFile_error hdir]
        rfl
      · rw [applyMacos, startupFile_error hdir]
        rfl
      · contradiction
  unfold update
  by_cases hlinux : host.platform = .linux
  · simp only [Refuses, hlinux] at hrefuses
    rw [show apply host new.launchAtLogin = rejectIf new.launchAtLogin "当前平台暂不支持开机启动" by
      simp only [apply, hlinux]]
    rcases hrefuses with hlaunch | hnone
    · rw [hlaunch]
      exact still_fail _
    · cases hlaunch : new.launchAtLogin
      · exact hdesktop hnone _
      · exact still_fail _
  · have hrefuses' : host.startupDir.isOk = false ∨ (host.desktopDir.isOk = false ∧
        new.launchAtLogin = false ∧ ∀ path, host.startupFile = .ok path ∨
          host.legacyStartupFile = .ok path → s.files path = none) := by
      unfold Refuses at hrefuses
      split at hrefuses
      · contradiction
      · exact hrefuses
    cases hdir : host.startupDir with
    | error error =>
      obtain ⟨error, happly⟩ := hstartup hlinux (by simp [hdir, Except.isOk, Except.toBool])
        new.launchAtLogin
      rw [happly]
      exact still_fail error
    | ok dir =>
      obtain ⟨hnone, hlaunch, habsent⟩ := hrefuses'.resolve_left
        (by simp [hdir, Except.isOk, Except.toBool])
      rw [hlaunch]
      exact (still_apply_off hlinux hdir habsent).bind fun _ => hdesktop hnone _

end Refused

/-! ### An update that is not refused -/

section Begun
variable {host : Host Other} {serde : Serde Other} {s : SettingsState Other}
  {new : AppSettings Other}

/-- The program is there, and there is nothing that `launchctl` knows of. -/
def missing : SettingsChoice := ⟨none, 0, ⟨false, "", "not found"⟩⟩

def outOfSpace : String := "No space left on device (os error 28)"

def failing : SettingsChoice := ⟨some outOfSpace, 0, ⟨false, "", ""⟩⟩

theorem setFile_absent {path : Path} (hpath : s.files path = none) : s.setFile path none = s := by
  rw [SettingsState.setFile, ← hpath, Function.update_eq_self]

theorem ends_removeIfPresent (path : Path) (label : String) :
    (removeIfPresent path label : SettingsProg Other Unit).Ends SettingsState.execute s (.ok ())
      (s.setFile path none) := by
  refine ⟨working, _, s, rfl, ?_⟩
  cases hpath : s.files path with
  | none => exact ⟨rfl, (setFile_absent hpath).symm ▸ rfl⟩
  | some content =>
    refine ⟨working, .ok (), s.setFile path none, ?_, rfl, rfl⟩
    simp [SettingsState.exec, SettingsState.remove, working, hpath]

theorem ends_currentExe : (currentExe : SettingsProg Other String).Ends SettingsState.execute s
    (.ok "501") s :=
  ⟨working, .ok "501", s, rfl, rfl, rfl⟩

theorem ends_createDirs (path : Path) (label : String) :
    (createDirs path label : SettingsProg Other Unit).Ends SettingsState.execute s (.ok ()) s :=
  ⟨working, .ok (), s, rfl, rfl, rfl⟩

theorem ends_writeFile (path : Path) (content label : String) :
    (writeFile path content label : SettingsProg Other Unit).Ends SettingsState.execute s (.ok ())
      (s.setFile path (some (bytes content))) := by
  refine ⟨working, .ok (), s.setFile path (some []), rfl, working, .ok (), _, ?_, rfl, rfl⟩
  simp [SettingsState.exec, SettingsState.write, working, SettingsState.setFile, overlay]

/-- A write may fail at its first byte. -/
theorem ends_writeFile_error (path : Path) {content : String} (hcontent : bytes content ≠ [])
    (label : String) : (writeFile path content label : SettingsProg Other Unit).Ends
      SettingsState.execute s (.error (label ++ outOfSpace)) (s.setFile path (some [])) := by
  refine ⟨working, .ok (), s.setFile path (some []), rfl, failing, .error outOfSpace, _, ?_, rfl, rfl⟩
  have hlength : 0 < (bytes content).length := List.length_pos_of_ne_nil hcontent
  simp [SettingsState.exec, SettingsState.write, failing, SettingsState.setFile, overlay, hlength]

theorem ends_launchctlGuiDomain :
    (launchctlGuiDomain : SettingsProg Other String).Ends SettingsState.execute s (.ok "gui/501") s := by
  refine ⟨working, .ok working.output, s, rfl, ?_⟩
  have huid : trim working.output.stdout = "501" := by decide +kernel
  dsimp only
  rw [huid]
  exact ⟨rfl, rfl⟩

theorem fileStem_isSome (dir : Path) (name : String) : ∃ stem, fileStem (dir ++ [name]) = some stem := by
  simp [fileStem]

/-- There may be no service to remove. -/
theorem ends_unloadLaunchAgent (dir : Path) (name : String) :
    (unloadLaunchAgent (dir ++ [name]) : SettingsProg Other Unit).Ends SettingsState.execute s
      (.ok ()) s := by
  refine ⟨working, _, s, rfl, ?_⟩
  cases s.files (dir ++ [name]) with
  | none => exact ⟨rfl, rfl⟩
  | some content =>
    obtain ⟨stem, hstem⟩ := fileStem_isSome dir name
    refine ends_launchctlGuiDomain.bind ?_
    rw [hstem]
    refine ⟨missing, .ok missing.output, s, rfl, ?_⟩
    have hmissing : isMissingService missing.output.stderr = true := by decide +kernel
    dsimp only
    rw [hmissing]
    exact ⟨rfl, rfl⟩

theorem ends_loadLaunchAgent (path : Path) : ∃ s', s'.files = s.files ∧
    (loadLaunchAgent path : SettingsProg Other Unit).Ends SettingsState.execute s (.ok ()) s' := by
  refine ⟨{ s with loaded := ("gui/501" ++ "/" ++ (fileStem path).getD "") :: s.loaded }, rfl,
    ends_launchctlGuiDomain.bind ?_⟩
  exact ⟨working, .ok working.output, _, rfl, rfl, rfl⟩

/-- The text of the login item. -/
def Host.startupText (host : Host Other) (executable : String) : String :=
  if host.platform = .macos then launchAgentContent executable else startupContent executable

theorem startupText_ne (host : Host Other) : bytes (host.startupText "501") ≠ [] := by
  unfold Host.startupText
  split <;> decide +kernel

/-- Switching the login item on may work. -/
theorem ends_apply_on (hplatform : host.platform ≠ .linux) {dir : Path}
    (hdir : host.startupDir = .ok dir) : ∃ s', (apply host true).Ends SettingsState.execute s
      (.ok ()) s' ∧
      s'.files (dir ++ [host.startupName]) = some (bytes (host.startupText "501")) := by
  obtain ⟨hpath, hlegacy⟩ := startupFile_eq hdir
  unfold apply
  split
  · next hwindows =>
    rw [applyWindows, hpath, hlegacy]
    refine ⟨_, (ends_removeIfPresent _ _).bind (ends_currentExe.bind ((ends_createDirs _ _).bind
      (ends_writeFile _ _ _))), ?_⟩
    simp [Host.startupText, hwindows]
  · next hmacos =>
    rw [applyMacos, hpath, hlegacy]
    obtain ⟨s', hfiles, hload⟩ := ends_loadLaunchAgent (s := (s.setFile
      (dir ++ [host.legacyStartupName]) none).setFile (dir ++ [host.startupName])
        (some (bytes (launchAgentContent "501")))) (dir ++ [host.startupName])
    refine ⟨s', (ends_unloadLaunchAgent _ _).bind ((ends_removeIfPresent _ _).bind
      (ends_currentExe.bind ((ends_createDirs _ _).bind ((ends_writeFile _ _ _).bind
        ((ends_unloadLaunchAgent _ _).bind hload))))), ?_⟩
    rw [hfiles]
    simp [Host.startupText, hmacos]
  · contradiction

/-- It may fail when the file of the login item has been emptied. -/
theorem ends_apply_on_error (hplatform : host.platform ≠ .linux) {dir : Path}
    (hdir : host.startupDir = .ok dir) : ∃ error s', (apply host true).Ends SettingsState.execute s
      (.error error) s' ∧ s'.files (dir ++ [host.startupName]) = some [] := by
  obtain ⟨hpath, hlegacy⟩ := startupFile_eq hdir
  have htext := startupText_ne host
  unfold apply
  split
  · next hwindows =>
    simp only [Host.startupText, hwindows] at htext
    rw [applyWindows, hpath, hlegacy]
    refine ⟨_, _, (ends_removeIfPresent _ _).bind (ends_currentExe.bind ((ends_createDirs _ _).bind
      (ends_writeFile_error _ htext _))), ?_⟩
    simp
  · next hmacos =>
    simp only [Host.startupText, hmacos] at htext
    rw [applyMacos, hpath, hlegacy]
    refine ⟨_, _, (ends_unloadLaunchAgent _ _).bind ((ends_removeIfPresent _ _).bind
      (ends_currentExe.bind ((ends_createDirs _ _).bind
        (ends_writeFile_error _ htext _).bind_error))), ?_⟩
    simp
  · contradiction

/-- Switching the login item off may work. -/
theorem ends_apply_off (hplatform : host.platform ≠ .linux) {dir : Path}
    (hdir : host.startupDir = .ok dir) : (apply host false).Ends SettingsState.execute s (.ok ())
      ((s.setFile (dir ++ [host.startupName]) none).setFile (dir ++ [host.legacyStartupName]) none) := by
  obtain ⟨hpath, hlegacy⟩ := startupFile_eq hdir
  unfold apply
  split
  · rw [applyWindows, hpath, hlegacy]
    exact (ends_removeIfPresent _ _).bind (ends_removeIfPresent _ _)
  · rw [applyMacos, hpath, hlegacy]
    exact (ends_unloadLaunchAgent _ _).bind ((ends_unloadLaunchAgent _ _).bind
      ((ends_removeIfPresent _ _).bind (ends_removeIfPresent _ _)))
  · contradiction

/-- Shortcuts that cannot be read stay. -/
theorem ends_removeOwned (paths : List Path) :
    (removeOwned paths : SettingsProg Other Unit).Ends SettingsState.execute s (.ok ()) s := by
  induction paths with
  | nil => exact ⟨rfl, rfl⟩
  | cons path paths ih =>
    have hpath : (removeIfOwned path : SettingsProg Other Unit).Ends SettingsState.execute s (.ok ()) s :=
      ⟨failing, none, s, rfl, rfl, rfl⟩
    exact hpath.bind ih

theorem ends_applyDesktopShortcut {dir : Path} (hdir : host.desktopDir = .ok dir) (enabled : Bool) :
    ∃ s', (applyDesktopShortcut host enabled).Ends SettingsState.execute s (.ok ()) s' := by
  have hremove : ∀ s, (removeDesktopShortcuts host).Ends SettingsState.execute s (.ok ()) s := by
    intro s
    rw [removeDesktopShortcuts, hdir]
    exact ends_removeOwned _
  cases enabled with
  | false => exact ⟨s, hremove s⟩
  | true =>
    simp only [applyDesktopShortcut, hdir]
    refine ⟨s.setFile (dir ++ [shortcutName host.platform])
      (some (bytes (shortcutContent host.platform "501"))), (ends_createDirs _ _).bind
        ((hremove s).bind (ends_currentExe.bind ((ends_writeFile _ _ _).bind ?_)))⟩
    split
    · exact ⟨working, .ok (), _, rfl, working, .ok (), _, rfl, rfl, rfl⟩
    · exact ⟨rfl, rfl⟩

theorem ends_ensureDirs (settings : AppSettings Other) :
    (ensureDirs settings).Ends SettingsState.execute s (.ok ()) s := by
  have hdir : ∀ path, (ensureDir path : SettingsProg Other Unit).Ends SettingsState.execute s (.ok ()) s :=
    fun path => ⟨working, .ok (), s, rfl, rfl, rfl⟩
  refine (hdir _).bind ((hdir _).bind ((hdir _).bind ?_))
  split
  · exact hdir _
  · exact ⟨rfl, rfl⟩

/-- Once the settings file has been opened it is empty, and the update may be stopped. -/
theorem stopsIn_saveToDisk (settings : AppSettings Other) :
    (saveToDisk host serde settings).StopsIn SettingsState.execute s
      (s.setFile host.settingsFile (some [])) :=
  .inr ⟨working, .ok (), s, rfl, .inr ⟨working, .ok (), _, rfl, stopsIn_start _ _⟩⟩

/-- An update that gets past the desktop may be stopped with an empty settings file. -/
theorem stopsIn_update (serde : Serde Other) {s₁ : SettingsState Other}
    (happly : (apply host new.launchAtLogin).Ends SettingsState.execute s (.ok ()) s₁) {dir : Path}
    (hdesktop : host.desktopDir = .ok dir) : ∃ c, c.files host.settingsFile = some [] ∧
      (update host serde new).StopsIn SettingsState.execute s c := by
  obtain ⟨s₂, hshortcut⟩ := ends_applyDesktopShortcut (s := s₁) hdesktop new.desktopShortcut
  refine ⟨s₂.setFile host.settingsFile (some []), by simp, ?_⟩
  refine happly.stopsIn_bind (hshortcut.stopsIn_bind ((ends_ensureDirs _).stopsIn_bind ?_))
  exact .inr ⟨working, .ok (), s₂, rfl, .inr ⟨working, .ok (), _, rfl, stopsIn_start _ _⟩⟩

/-- An empty settings file is no settings. -/
theorem readSettings_empty : readSettings serde (some []) = none := by
  have hempty : decodeText [] = some "" := decodeText_bytes ""
  simp [readSettings, hempty, serde.fromStr_empty]

/-- Where the update fails for want of a desktop, its first part is undone by nobody. -/
theorem AllOrNothing.startup_as_before (hall : AllOrNothing host serde s new) {s₁ : SettingsState Other}
    {error : String} (hdesktop : host.desktopDir = .error error)
    (happly : (apply host new.launchAtLogin).Ends SettingsState.execute s (.ok ()) s₁) {path : Path}
    (hpath : host.startupFile = .ok path ∨ host.legacyStartupFile = .ok path) :
    s.files path = s₁.files path := by
  have hends : (update host serde new).Ends SettingsState.execute s (.error error) s₁ := by
    refine happly.bind (Ends.bind_error ?_)
    rw [applyDesktopShortcut_error hdesktop]
    exact ⟨rfl, rfl⟩
  obtain ⟨choices, h, hrun⟩ := hends.alone
  exact ((hall.failed choices h error s₁ hrun).loginItem path hpath).symm

theorem refuses_of_allOrNothing
    (hdefaults : serde.fromStr (serde.toStringPretty host.defaults) = some host.defaults)
    (hall : AllOrNothing host serde s new) : Refuses host s new := by
  -- An update that reaches the settings file may be stopped there.
  have hreach : ∀ s₁, (apply host new.launchAtLogin).Ends SettingsState.execute s (.ok ()) s₁ →
      host.desktopDir.isOk = false := by
    intro s₁ happly
    cases hdesktop : host.desktopDir with
    | error error => rfl
    | ok dir =>
      obtain ⟨c, hempty, hstop⟩ := stopsIn_update serde happly hdesktop
      obtain ⟨settings, -, hread⟩ := (loadsOneOf_iff hdefaults).mp (hall.stopped c hstop)
      rw [hempty, readSettings_empty] at hread
      cases hread
  unfold Refuses
  split
  · next hlinux =>
    cases hlaunch : new.launchAtLogin
    · refine .inr (hreach s ?_)
      simp only [apply, hlinux, hlaunch]
      exact ⟨rfl, rfl⟩
    · exact .inl rfl
  · next hlinux =>
    cases hdir : host.startupDir with
    | error error => exact .inl rfl
    | ok dir =>
      obtain ⟨hpath, hlegacy⟩ := startupFile_eq hdir
      refine .inr ?_
      cases hlaunch : new.launchAtLogin
      · have hoff := ends_apply_off (s := s) hlinux hdir
        rw [← hlaunch] at hoff
        have hnone := hreach _ hoff
        refine ⟨hnone, rfl, fun path hstartup => ?_⟩
        cases hdesktop : host.desktopDir with
        | ok dir => simp [hdesktop, Except.isOk, Except.toBool] at hnone
        | error error =>
          rw [hall.startup_as_before hdesktop hoff hstartup]
          rcases hstartup with h | h
          · obtain rfl := Except.ok.inj (hpath.symm.trans h)
            by_cases hsame : dir ++ [host.startupName] = dir ++ [host.legacyStartupName]
            · simp [hsame]
            · simp [Function.update_of_ne hsame]
          · obtain rfl := Except.ok.inj (hlegacy.symm.trans h)
            simp
      · obtain ⟨s₁, hon, hwritten⟩ := ends_apply_on (s := s) hlinux hdir
        obtain ⟨error, s₂, hfailed, hempty⟩ := ends_apply_on_error (s := s) hlinux hdir
        rw [← hlaunch] at hon hfailed
        have hnone := hreach _ hon
        cases hdesktop : host.desktopDir with
        | ok dir => simp [hdesktop, Except.isOk, Except.toBool] at hnone
        | error message =>
          -- The file of the login item would have to be written and empty at once.
          have hbefore := hall.startup_as_before hdesktop hon (.inl hpath)
          obtain ⟨choices, h, hrun⟩ := (hfailed.bind_error (f := fun _ => (do
            applyDesktopShortcut host new.desktopShortcut
            ensureDirs new
            saveToDisk host serde new
            .call (.setRuntimeProxy new.proxy) fun _ => .call (.store new) fun _ => .ret new))).alone
          have hbefore' := (hall.failed choices h error s₂ hrun).loginItem _ (.inl hpath)
          rw [hempty, hbefore, hwritten, Option.some.injEq] at hbefore'
          exact absurd hbefore'.symm (startupText_ne host)

/-- **Exactly the refused updates are all or nothing.** -/
theorem update_is_all_or_nothing_iff (host : Host Other) (serde : Serde Other)
    (s : SettingsState Other) (new : AppSettings Other)
    (hdefaults : serde.fromStr (serde.toStringPretty host.defaults) = some host.defaults) :
    AllOrNothing host serde s new ↔ Refuses host s new ∧
      (readSettings serde (s.files host.settingsFile) = some s.memory ∨
        readSettings serde (s.files host.settingsFile) = some new) := by
  constructor
  · intro hall
    refine ⟨refuses_of_allOrNothing hdefaults hall, ?_⟩
    obtain ⟨settings, hmem, hread⟩ := (loadsOneOf_iff hdefaults).mp
      (hall.stopped s (stopsIn_start _ _))
    simp only [List.mem_cons, List.not_mem_nil, or_false] at hmem
    rcases hmem with rfl | rfl
    · exact .inl hread
    · exact .inr hread
  · rintro ⟨hrefuses, hread⟩
    have hstill := still_update serde hrefuses
    constructor
    · intro choices h error s' hrun
      rw [hstill s' (stopsIn_of_alone hrun)]
      exact AsBefore.refl host s
    · intro c hc
      rw [hstill c hc]
      refine (loadsOneOf_iff hdefaults).mpr ?_
      rcases hread with hread | hread
      · exact ⟨s.memory, by simp, hread⟩
      · exact ⟨new, by simp, hread⟩

end Begun

/-- There are no login items on this host. -/
theorem update_is_all_or_nothing_refused :
    AllOrNothing sampleHost sampleSerde sampleState { sampleSettings with launchAtLogin := true } :=
  (update_is_all_or_nothing_iff sampleHost sampleSerde sampleState
    { sampleSettings with launchAtLogin := true } (by decide +kernel)).mpr
      ⟨.inl rfl, .inl (by decide +kernel)⟩

/-- A change of the proxy is not refused. -/
theorem update_is_not_all_or_nothing :
    ¬ ∀ (host : Host Unit) (serde : Serde Unit) (s : SettingsState Unit) (new : AppSettings Unit),
      serde.fromStr (serde.toStringPretty host.defaults) = some host.defaults →
      readSettings serde (s.files host.settingsFile) = some s.memory →
      AllOrNothing host serde s new := by
  intro hclaim
  have hall := hclaim sampleHost sampleSerde sampleState { sampleSettings with proxy := "10.0.2.2:8080" }
    (by decide +kernel) (by decide +kernel)
  have hrefuses : Refuses sampleHost sampleState { sampleSettings with proxy := "10.0.2.2:8080" } :=
    refuses_of_allOrNothing (by decide +kernel) hall
  rcases hrefuses with hlaunch | hdesktop
  · exact absurd hlaunch (by decide)
  · exact absurd hdesktop (by decide +kernel)

end JustRun.Settings
