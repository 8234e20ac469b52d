import JustRun.Settings.Launch
import JustRun.Concurrency.Standing

/-!
# Reading and replacing the settings

`services/settings.rs` and `services/device_tags.rs`, and the calls of the application on them
as one system. A settings update of a client is `get_settings` and then `update_settings` with
an edited copy.
-/
namespace JustRun.Settings
open Machine Concurrency Concurrency.Prog

variable {Other : Type}

/-! ### `services/settings.rs` -/

def Host.configFolder (host : Host Other) : Path :=
  ((host.configDir.or host.homeDir).getD []) ++ ["JustRun"]

def Host.settingsFile (host : Host Other) : Path := host.configFolder ++ ["settings.json"]

/-- `ensure_dir` ignores how the call ends. -/
def ensureDir (path : Path) : SettingsProg Other Unit := .call (.createDirs path) fun _ => .ret ()

def ensureDirs (s : AppSettings Other) : SettingsProg Other Unit := do
  ensureDir [s.logPath]
  ensureDir [s.screenshotPath]
  ensureDir [s.apkPath]
  if trim s.recordingPath ≠ "" then ensureDir [s.recordingPath]

variable (host : Host Other) (serde : Serde Other)

def saveToDisk (s : AppSettings Other) : SettingsProg Other Unit := do
  ensureDir host.configFolder
  writeFile host.settingsFile (serde.toStringPretty s) ""

/-- The rest of `load_from_disk` where there are no settings to read. -/
def loadDefaults : SettingsProg Other (AppSettings Other) := do
  ensureDirs host.defaults
  .call (.setRuntimeProxy host.defaults.proxy) fun _ => do
    let _ ← (saveToDisk host serde host.defaults).attempt
    pure host.defaults

def adopt (s : AppSettings Other) : SettingsProg Other (AppSettings Other) := do
  ensureDirs s
  .call (.setRuntimeProxy s.proxy) fun _ => .ret s

def loadFromDisk : SettingsProg Other (AppSettings Other) := do
  ensureDir host.configFolder
  .call (.pathExists host.settingsFile) fun present =>
    if present then
      .call (.readToString host.settingsFile) fun content =>
        match content.bind serde.fromStr with
        | some s => adopt s
        | none => loadDefaults host serde
    else loadDefaults host serde

def update (settings : AppSettings Other) : SettingsProg Other (AppSettings Other) := do
  apply host settings.launchAtLogin
  applyDesktopShortcut host settings.desktopShortcut
  ensureDirs settings
  saveToDisk host serde settings
  .call (.setRuntimeProxy settings.proxy) fun _ => .call (.store settings) fun _ => .ret settings

/-! ### `services/device_tags.rs` -/

/-- A `BTreeMap` in the order of its keys. -/
abbrev TagRecord := List (String × List String)

def maxTagLen : ℕ := 24

def normalizeTag (raw : String) : Option String :=
  if trim raw = "" then none else some (String.ofList ((trim raw).toList.take maxTagLen))

def normalizeTags (raw : List String) : List String :=
  raw.foldl (fun out tag => match normalizeTag tag with
    | some tag => if tag ∈ out then out else out ++ [tag]
    | none => out) []

def TagRecord.insert (record : TagRecord) (id : String) (tags : List String) : TagRecord :=
  record.filter (·.1 < id) ++ (id, tags) :: record.filter (fun x => ¬ x.1 < id ∧ x.1 ≠ id)

def mergeTagRecord (existing : Option TagRecord) (deviceId : String) (tags : List String) :
    TagRecord :=
  if normalizeTags tags = [] then (existing.getD []).filter (·.1 ≠ deviceId)
  else TagRecord.insert (existing.getD []) deviceId (normalizeTags tags)

def getTags (s : AppSettings Other) : TagRecord := s.deviceTags.getD []

/-- The settings with the tags of one device replaced. -/
def withTags (deviceId : String) (tags : List String) (s : AppSettings Other) : AppSettings Other :=
  let merged := mergeTagRecord s.deviceTags deviceId tags
  { s with deviceTags := if merged = [] then none else some merged }

def setTags (deviceId : String) (tags : List String) : SettingsProg Other TagRecord := do
  rejectIf (trim deviceId = "") "设备标识不能为空"
  .call .get fun current => do
    let _ ← update host serde (withTags (trim deviceId) tags current)
    .ret (mergeTagRecord current.deviceTags (trim deviceId) tags)

/-! ### The calls of the application -/

/-- What a settings page changes of the settings it has read: not the tags. -/
structure SettingsEdit (Other : Type) where
  apply : AppSettings Other → AppSettings Other
  deviceTags : ∀ s, (apply s).deviceTags = s.deviceTags

inductive SettingsRequest (Other : Type) where
  | get
  | getTags
  | setTags (deviceId : String) (tags : List String)
  | update (edit : SettingsEdit Other)

inductive SettingsAnswer (Other : Type) where
  | settings (settings : AppSettings Other)
  | tags (record : TagRecord)

/-- What a request makes of the settings it has read. -/
def SettingsRequest.edit? : SettingsRequest Other → Option (AppSettings Other → AppSettings Other)
  | .get | .getTags => none
  | .setTags deviceId tags => some (withTags (trim deviceId) tags)
  | .update edit => some edit.apply

def handler : SettingsRequest Other → SettingsProg Other (SettingsAnswer Other)
  | .get => .call .get fun current => .ret (.settings current)
  | .getTags => .call .get fun current => .ret (.tags (getTags current))
  | .setTags deviceId tags => .tags <$> setTags host serde deviceId tags
  | .update edit => .call .get fun current => .settings <$> update host serde (edit.apply current)

/-- All calls on one set of settings. -/
def calls : System (SettingsState Other) (SettingsRequest Other) (SettingsOp Other) SettingsRes
    String (SettingsAnswer Other) SettingsChoice Empty where
  handler := handler host serde
  exec choice s op := s.exec choice op
  env move := move.elim

abbrev SettingsWorld (Other : Type) := World (SettingsState Other) (SettingsRequest Other)
  (SettingsOp Other) SettingsRes String (SettingsAnswer Other)

abbrev SettingsAction (Other : Type) := Action (SettingsRequest Other) SettingsChoice Empty

/-! ### A desktop with the first settings -/

def sampleSettings : AppSettings Unit where
  logPath := "/home/u/JustRun/logs"
  screenshotPath := "/home/u/JustRun/screenshots"
  apkPath := "/home/u/JustRun/apks"
  recordingPath := ""
  proxy := ""
  launchAtLogin := false
  desktopShortcut := false
  deviceTags := none
  other := ()

/-- The text of the settings, as far as the tags go. -/
def sampleText (s : AppSettings Unit) : String :=
  "\x7b\"deviceTags\": \x7b" ++ String.intercalate ", " ((getTags s).map fun x =>
    "\"" ++ x.1 ++ "\": [" ++ String.intercalate ", " (x.2.map fun tag => "\"" ++ tag ++ "\"") ++
      "]") ++ "\x7d\x7d"

def sampleSerde : Serde Unit where
  toStringPretty := sampleText
  fromStr text := if text = sampleText sampleSettings then some sampleSettings else none
  fromStr_empty := by
    rw [if_neg]
    decide +kernel

def sampleHost : Host Unit where
  platform := .linux
  dataDir := none
  configDir := some ["home", "u", ".config"]
  homeDir := some ["home", "u"]
  desktop := none
  defaults := sampleSettings

/-- Memory and file hold the first settings. -/
def sampleState : SettingsState Unit where
  memory := sampleSettings
  runtimeProxy := ""
  files := Function.update (fun _ => none) sampleHost.settingsFile
    (some (bytes (sampleText sampleSettings)))
  loaded := []

/-- Everything works. -/
def working : SettingsChoice := ⟨none, 0, ⟨true, "501", ""⟩⟩

end JustRun.Settings
