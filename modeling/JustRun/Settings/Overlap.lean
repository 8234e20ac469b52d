import JustRun.Concurrency.Footprint
import JustRun.Machine.Fallible
import JustRun.Settings.Update

/-!
# Overlapping updates

A call reads the settings, edits its copy and stores the copy whole, in the file and then in
memory. No update is lost while nobody has stored in between what the copy does not know of.
-/
namespace JustRun.Settings
open Machine Concurrency Concurrency.Prog Concurrency.System

variable {Other : Type}

abbrev SettingsHistory (Other : Type) := List (Entry (SettingsOp Other) SettingsRes)

/-- The calls on the settings in memory and in this file. -/
def isTracked (file : Path) : SettingsOp Other → Bool
  | .get | .store _ => true
  | .createFile path | .writeAll path _ | .removeFile path => path = file
  | _ => false

def track (file : Path) (h : SettingsHistory Other) : SettingsHistory Other :=
  h.filter fun x => isTracked file x.1

theorem track_snoc_tracked {file : Path} {op : SettingsOp Other} (hop : isTracked file op = true)
    (h : SettingsHistory Other) (r : SettingsRes op) :
    track file (h ++ [⟨op, r⟩]) = track file h ++ [⟨op, r⟩] := by
  simp [track, hop]

theorem track_snoc_aside {file : Path} {op : SettingsOp Other} (hop : isTracked file op = false)
    (h : SettingsHistory Other) (r : SettingsRes op) :
    track file (h ++ [⟨op, r⟩]) = track file h := by
  simp [track, hop]

section Specification
variable (host : Host Other) (serde : Serde Other)

/-- What a call presupposes of the calls before it: the handler has read settings `s`, and
writes and stores `f s`, where `f` is the edit of its request. -/
def Follows (request : SettingsRequest Other) (h : SettingsHistory Other) :
    SettingsOp Other → Prop
  | .get => track host.settingsFile h = []
  | .createFile path => path = host.settingsFile →
    ∃ s f, request.edit? = some f ∧ track host.settingsFile h = [⟨.get, s⟩]
  | .writeAll path content => path = host.settingsFile →
    ∃ s f, request.edit? = some f ∧ content = serde.toStringPretty (f s) ∧
      track host.settingsFile h = [⟨.get, s⟩, ⟨.createFile host.settingsFile, .ok ()⟩]
  | .removeFile path => path ≠ host.settingsFile
  | .store new => ∃ s f, request.edit? = some f ∧ new = f s ∧
      track host.settingsFile h = [⟨.get, s⟩, ⟨.createFile host.settingsFile, .ok ()⟩,
        ⟨.writeAll host.settingsFile (serde.toStringPretty new), .ok ()⟩]
  | _ => True

/-- A handler that returns has left the file alone, or has stored what it has written. -/
def Settled (h : SettingsHistory Other) : Except String (SettingsAnswer Other) → Prop
  | .ok _ => (∃ s, track host.settingsFile h = [⟨.get, s⟩]) ∨
      ∃ new, ⟨.store new, ()⟩ ∈ track host.settingsFile h
  | .error _ => True

end Specification

/-! ### The handlers -/

section Handlers
variable {host : Host Other} {serde : Serde Other}

/-- Calls that leave the settings alone. -/
def Aside (host : Host Other) (op : SettingsOp Other) : Prop :=
  isTracked host.settingsFile op = false

theorem settingsFile_ne {dir : Path} {name : String} (hname : name ≠ "settings.json") :
    dir ++ [name] ≠ host.settingsFile := by
  intro heq
  have hlast := congrArg List.getLast? heq
  simp [Host.settingsFile, hname] at hlast

theorem aside_of_ne {path : Path} (hpath : path ≠ host.settingsFile) (content : String) :
    Aside host (.removeFile path) ∧ Aside host (.createFile path) ∧
      Aside host (.writeAll path content) := by
  simp [Aside, isTracked, hpath]

theorem only_labelled {α : Type} (label : String) (r : Except String α) :
    (labelled label r : SettingsProg Other α).Only (Aside host) :=
  only_ofExcept _

theorem only_removeFile {path : Path} (hpath : path ≠ host.settingsFile) (label : String) :
    (removeFile path label : SettingsProg Other Unit).Only (Aside host) :=
  ⟨(aside_of_ne hpath "").1, only_labelled label⟩

theorem only_removeIfPresent {path : Path} (hpath : path ≠ host.settingsFile) (label : String) :
    (removeIfPresent path label : SettingsProg Other Unit).Only (Aside host) := by
  refine ⟨rfl, fun present => ?_⟩
  cases present with
  | true => exact only_removeFile hpath label
  | false => trivial

theorem only_createDirs (path : Path) (label : String) :
    (createDirs path label : SettingsProg Other Unit).Only (Aside host) :=
  ⟨rfl, only_labelled label⟩

theorem only_currentExe : (currentExe : SettingsProg Other String).Only (Aside host) :=
  ⟨rfl, only_labelled _⟩

theorem only_writeFile {path : Path} (hpath : path ≠ host.settingsFile) (content label : String) :
    (writeFile path content label : SettingsProg Other Unit).Only (Aside host) := by
  refine ⟨(aside_of_ne hpath "").2.1, fun created => ?_⟩
  cases created with
  | error error => trivial
  | ok _ => exact ⟨(aside_of_ne hpath content).2.2, only_labelled label⟩

theorem only_launchctlGuiDomain :
    (launchctlGuiDomain : SettingsProg Other String).Only (Aside host) := by
  refine ⟨rfl, fun output => ?_⟩
  cases output with
  | error error => trivial
  | ok output => exact (only_rejectIf _ _).bind fun _ => (only_rejectIf _ _).bind fun _ => trivial

theorem only_unloadLaunchAgent (path : Path) :
    (unloadLaunchAgent path : SettingsProg Other Unit).Only (Aside host) := by
  refine ⟨rfl, fun present => ?_⟩
  cases present with
  | false => trivial
  | true =>
    refine only_launchctlGuiDomain.bind fun domain => (only_orReject _ _).bind fun label =>
      ⟨rfl, fun output => ?_⟩
    cases output with
    | error error => trivial
    | ok output => exact only_rejectIf _ _

theorem only_loadLaunchAgent (path : Path) :
    (loadLaunchAgent path : SettingsProg Other Unit).Only (Aside host) := by
  refine only_launchctlGuiDomain.bind fun domain => ⟨rfl, fun output => ?_⟩
  cases output with
  | error error => trivial
  | ok output => exact only_rejectIf _ _

theorem startupFile_ne {path : Path} (h : host.startupFile = .ok path) :
    path ≠ host.settingsFile := by
  simp only [Host.startupFile, bind_eq_ok, Except.ok.injEq] at h
  obtain ⟨dir, -, rfl⟩ := h
  apply settingsFile_ne
  unfold Host.startupName
  split <;> decide

theorem legacyStartupFile_ne {path : Path} (h : host.legacyStartupFile = .ok path) :
    path ≠ host.settingsFile := by
  simp only [Host.legacyStartupFile, bind_eq_ok, Except.ok.injEq] at h
  obtain ⟨dir, -, rfl⟩ := h
  apply settingsFile_ne
  unfold Host.legacyStartupName
  split <;> decide

theorem only_ofExcept_bind {α β : Type} {A : SettingsOp Other → Prop} {x : Except String α}
    {f : α → SettingsProg Other β} (hf : ∀ a, x = .ok a → (f a).Only A) :
    (ofExcept x >>= f).Only A :=
  (everywhere_ofExcept_bind x f).mpr hf

theorem only_applyWindows (enabled : Bool) : (applyWindows host enabled).Only (Aside host) := by
  refine only_ofExcept_bind fun path hpath => only_ofExcept_bind fun legacyPath hlegacy => ?_
  have hpath := startupFile_ne hpath
  have hlegacy := legacyStartupFile_ne hlegacy
  cases enabled with
  | true =>
    exact (only_removeIfPresent hlegacy _).bind fun _ => only_currentExe.bind fun exe =>
      (only_createDirs _ _).bind fun _ => only_writeFile hpath _ _
  | false => exact (only_removeIfPresent hpath _).bind fun _ => only_removeIfPresent hlegacy _

theorem only_applyMacos (enabled : Bool) : (applyMacos host enabled).Only (Aside host) := by
  refine only_ofExcept_bind fun path hpath => only_ofExcept_bind fun legacyPath hlegacy => ?_
  have hpath := startupFile_ne hpath
  have hlegacy := legacyStartupFile_ne hlegacy
  cases enabled with
  | true =>
    exact (only_unloadLaunchAgent _).bind fun _ => (only_removeIfPresent hlegacy _).bind fun _ =>
      only_currentExe.bind fun exe => (only_createDirs _ _).bind fun _ =>
        (only_writeFile hpath _ _).bind fun _ => (only_unloadLaunchAgent _).bind fun _ =>
          only_loadLaunchAgent _
  | false =>
    exact (only_unloadLaunchAgent _).bind fun _ => (only_unloadLaunchAgent _).bind fun _ =>
      (only_removeIfPresent hpath _).bind fun _ => only_removeIfPresent hlegacy _

theorem only_apply (enabled : Bool) : (apply host enabled).Only (Aside host) := by
  unfold apply
  split
  · exact only_applyWindows enabled
  · exact only_applyMacos enabled
  · exact only_rejectIf _ _

theorem only_removeIfOwned {path : Path} (hpath : path ≠ host.settingsFile) :
    (removeIfOwned path : SettingsProg Other Unit).Only (Aside host) := by
  refine ⟨rfl, fun content => ?_⟩
  dsimp only
  split
  · exact only_removeFile hpath _
  · trivial

theorem only_removeOwned {paths : List Path} (hpaths : ∀ path ∈ paths, path ≠ host.settingsFile) :
    (removeOwned paths : SettingsProg Other Unit).Only (Aside host) := by
  induction paths with
  | nil => trivial
  | cons path paths ih =>
    exact (only_removeIfOwned (hpaths path List.mem_cons_self)).bind fun _ =>
      ih fun path hpath => hpaths path (List.mem_cons_of_mem _ hpath)

theorem shortcutPaths_ne {dir path : Path}
    (hpath : path ∈ desktopShortcutPaths dir ++ legacyDesktopShortcutPaths dir) :
    path ≠ host.settingsFile := by
  simp only [desktopShortcutPaths, legacyDesktopShortcutPaths, List.cons_append, List.nil_append,
    List.mem_cons, List.not_mem_nil, or_false] at hpath
  rcases hpath with rfl | rfl | rfl | rfl | rfl | rfl <;> exact settingsFile_ne (by decide)

theorem only_removeDesktopShortcuts : (removeDesktopShortcuts host).Only (Aside host) :=
  only_ofExcept_bind fun _ _ => only_removeOwned fun _ => shortcutPaths_ne

theorem only_applyDesktopShortcut (enabled : Bool) :
    (applyDesktopShortcut host enabled).Only (Aside host) := by
  cases enabled with
  | false => exact only_removeDesktopShortcuts
  | true =>
    refine only_ofExcept_bind fun dir _ => (only_createDirs _ _).bind fun _ =>
      only_removeDesktopShortcuts.bind fun _ => only_currentExe.bind fun executable => ?_
    have hname : shortcutName host.platform ≠ "settings.json" := by
      cases host.platform <;> decide
    refine (only_writeFile (settingsFile_ne hname) _ _).bind fun _ => ?_
    split
    · refine ⟨rfl, fun mode => ?_⟩
      cases mode with
      | error error => trivial
      | ok _ => exact ⟨rfl, only_labelled _⟩
    · trivial

theorem only_ensureDir (path : Path) : (ensureDir path : SettingsProg Other Unit).Only (Aside host) :=
  ⟨rfl, fun _ => trivial⟩

theorem only_ensureDirs (s : AppSettings Other) : (ensureDirs s).Only (Aside host) := by
  refine (only_ensureDir _).bind fun _ => (only_ensureDir _).bind fun _ =>
    (only_ensureDir _).bind fun _ => ?_
  split
  · exact only_ensureDir _
  · trivial

/-- A handler that has stored what it has written. -/
def Stored (host : Host Other) (h : SettingsHistory Other) {α : Type} : Except String α → Prop
  | .ok _ => ∃ new, ⟨.store new, ()⟩ ∈ track host.settingsFile h
  | .error _ => True

variable {request : SettingsRequest Other} {h : SettingsHistory Other}

theorem follows_of_aside {op : SettingsOp Other} (hop : Aside host op) :
    Follows host serde request h op := by
  cases op with
  | get => cases hop
  | store new => cases hop
  | createFile path => exact fun hpath => absurd hop (by simp [Aside, isTracked, hpath])
  | writeAll path content => exact fun hpath => absurd hop (by simp [Aside, isTracked, hpath])
  | removeFile path => exact fun hpath => absurd hop (by simp [Aside, isTracked, hpath])
  | _ => trivial

/-- A part that leaves the settings alone leaves the tracked calls as they are. -/
theorem aside_meets {α : Type} {p : SettingsProg Other α} (hp : p.Only (Aside host))
    {t : SettingsHistory Other} (hh : track host.settingsFile h = t) :
    p.Meets (Follows host serde request) (fun h' _ => track host.settingsFile h' = t) h :=
  hp.meets (fun h => track host.settingsFile h = t) (fun _ _ _ hop => follows_of_aside hop)
    (fun _ _ r hh hop => (track_snoc_aside hop _ r).trans hh) hh

theorem update_meets {s : AppSettings Other} {f : AppSettings Other → AppSettings Other}
    (hf : request.edit? = some f) (hh : track host.settingsFile h = [⟨.get, s⟩]) :
    (update host serde (f s)).Meets (Follows host serde request) (fun h' r => Stored host h' r) h := by
  unfold update
  refine (aside_meets (only_apply _) hh).bind (fun h₁ _ _ h₁t => ?_) fun _ _ _ _ => trivial
  refine (aside_meets (only_applyDesktopShortcut _) h₁t).bind (fun h₂ _ _ h₂t => ?_)
    fun _ _ _ _ => trivial
  refine (aside_meets (only_ensureDirs _) h₂t).bind (fun h₃ _ _ h₃t => ?_) fun _ _ _ _ => trivial
  rw [saveToDisk, bind_assoc]
  refine (aside_meets (only_ensureDir _) h₃t).bind (fun h₄ _ _ h₄t => ?_) fun _ _ _ _ => trivial
  have htracked : ∀ content, isTracked host.settingsFile
      (.createFile host.settingsFile : SettingsOp Other) = true ∧ isTracked host.settingsFile
        (.writeAll host.settingsFile content : SettingsOp Other) = true := by
    simp [isTracked]
  refine ⟨fun _ => ⟨s, f, hf, h₄t⟩, fun created => ?_⟩
  cases created with
  | error error => trivial
  | ok created =>
    have h₅t := (track_snoc_tracked (htracked "").1 h₄ (.ok created)).trans
      (congrArg (· ++ _) h₄t)
    refine ⟨fun _ => ⟨s, f, hf, rfl, h₅t⟩, fun written => ?_⟩
    cases written with
    | error error => trivial
    | ok written =>
      have h₆t := (track_snoc_tracked (htracked (serde.toStringPretty (f s))).2 _
        (.ok written)).trans (congrArg (· ++ _) h₅t)
      refine ⟨trivial, fun _ => ⟨⟨s, f, hf, rfl, (track_snoc_aside rfl _ _).trans h₆t⟩,
        fun _ => ⟨f s, ?_⟩⟩⟩
      rw [track_snoc_tracked rfl]
      exact List.mem_append_right _ (List.mem_singleton_self _)

theorem handler_follows (request : SettingsRequest Other) :
    (handler host serde request).Meets (Follows host serde request) (Settled host) [] := by
  have hread : ∀ s, track host.settingsFile [⟨.get, s⟩] = ([⟨.get, s⟩] : SettingsHistory Other) :=
    fun _ => rfl
  cases request with
  | get => exact ⟨rfl, fun current => .inl ⟨current, hread current⟩⟩
  | getTags => exact ⟨rfl, fun current => .inl ⟨current, hread current⟩⟩
  | setTags deviceId tags =>
    have hset : (setTags host serde deviceId tags).Meets
        (Follows host serde (.setTags deviceId tags)) (fun h' r => Stored host h' r) [] := by
      refine (meets_rejectIf_bind _ _ _).mpr ⟨fun _ => trivial, fun _ => ⟨rfl, fun current => ?_⟩⟩
      exact (update_meets (f := withTags (trim deviceId) tags) rfl (hread current)).bind
        (fun _ _ _ hq => hq) fun _ _ _ hq => hq
    exact hset.bind (fun _ _ _ hq => .inr hq) fun _ _ _ hq => hq
  | update edit =>
    refine ⟨rfl, fun current => ?_⟩
    exact (update_meets (f := edit.apply) rfl (hread current)).bind (fun _ _ _ hq => .inr hq)
      fun _ _ _ hq => hq

end Handlers
end JustRun.Settings
