import JustRun.Concurrency.Sequential
import JustRun.Machine.Text

/-!
# The settings and where they are kept

The settings in memory, the file system, the login services of `launchctl`, and the calls that
`services/settings.rs` and `services/launch.rs` make on them.
-/
namespace JustRun.Settings
open Machine Concurrency

abbrev Path := List String

/-- `AppSettings`: the fields that the modelled functions read, and all the others as one. -/
structure AppSettings (Other : Type) where
  logPath : String
  screenshotPath : String
  apkPath : String
  recordingPath : String
  proxy : String
  launchAtLogin : Bool
  desktopShortcut : Bool
  deviceTags : Option (List (String × List String))
  other : Other
  deriving DecidableEq

/-- `serde_json` on the settings: the empty text is no object. -/
structure Serde (Other : Type) where
  toStringPretty : AppSettings Other → String
  fromStr : String → Option (AppSettings Other)
  fromStr_empty : fromStr "" = none

inductive Platform where
  | windows | macos | linux
  deriving DecidableEq

/-- The platform, the directories that `dirs` finds on it, and `AppSettings::default()`. -/
structure Host (Other : Type) where
  platform : Platform
  dataDir : Option Path
  configDir : Option Path
  homeDir : Option Path
  desktop : Option Path
  defaults : AppSettings Other

structure CommandOutput where
  success : Bool
  stdout : String
  stderr : String
  deriving DecidableEq

inductive SettingsOp (Other : Type) where
  /-- `SETTINGS.lock().clone()`. -/
  | get
  | pathExists (path : Path)
  | readToString (path : Path)
  | removeFile (path : Path)
  | createDirs (path : Path)
  /-- The two steps of `std::fs::write`. -/
  | createFile (path : Path)
  | writeAll (path : Path) (content : String)
  | readMode (path : Path)
  | setMode (path : Path)
  | currentExe
  | runId
  | bootout (target : String)
  | bootstrap (domain : String) (path : Path)
  | setRuntimeProxy (proxy : String)
  /-- `*SETTINGS.lock() = settings`. -/
  | store (settings : AppSettings Other)
  deriving DecidableEq

variable {Other : Type}

abbrev SettingsRes : SettingsOp Other → Type
  | .get => AppSettings Other
  | .pathExists _ => Bool
  | .readToString _ => Option String
  | .removeFile _ | .createDirs _ | .createFile _ | .writeAll .. | .readMode _ | .setMode _ =>
    Except String Unit
  | .currentExe => Except String String
  | .runId | .bootout _ | .bootstrap .. => Except String CommandOutput
  | .setRuntimeProxy _ | .store _ => Unit

abbrev SettingsProg (Other α : Type) := Prog (SettingsOp Other) SettingsRes String α

/-- `loaded` are the services that `launchctl` knows. -/
structure SettingsState (Other : Type) where
  memory : AppSettings Other
  runtimeProxy : String
  files : Path → Option (List UInt8)
  loaded : List String

/-- Whether a call fails, how many bytes a failing write has written, and what a command prints. -/
structure SettingsChoice where
  fault : Option String
  written : ℕ
  output : CommandOutput

/-- `Path::file_stem`. -/
def fileStem (path : Path) : Option String :=
  path.getLast?.map fun name =>
    match (name.toList.reverse.dropWhile (· ≠ '.')).tail with
    | [] => name
    | stem => String.ofList stem.reverse

/-- A write from the start of the file. -/
def overlay (content old : List UInt8) : List UInt8 := content ++ old.drop content.length

/-- `std::fs::read_to_string` on the bytes of the file. -/
def decodeText (content : List UInt8) : Option String := String.fromUTF8? ⟨⟨content⟩⟩

namespace SettingsState
variable (s : SettingsState Other)

def setFile (path : Path) (content : Option (List UInt8)) : SettingsState Other :=
  { s with files := Function.update s.files path content }

def attempt (choice : SettingsChoice) : Except String Unit :=
  match choice.fault with
  | some error => .error error
  | none => .ok ()

def remove (choice : SettingsChoice) (path : Path) : Except String Unit × SettingsState Other :=
  match choice.fault with
  | some error => (.error error, s)
  | none =>
    if (s.files path).isSome then (.ok (), s.setFile path none)
    else (.error "No such file or directory (os error 2)", s)

/-- The file is there afterwards, and empty. -/
def create (choice : SettingsChoice) (path : Path) : Except String Unit × SettingsState Other :=
  match choice.fault with
  | some error => (.error error, s)
  | none => (.ok (), s.setFile path (some []))

/-- A write that fails has written fewer bytes than it was given. -/
def write (choice : SettingsChoice) (path : Path) (content : List UInt8) :
    Option (Except String Unit × SettingsState Other) :=
  match choice.fault with
  | none => some (.ok (), s.setFile path ((s.files path).map (overlay content)))
  | some error =>
    if choice.written < content.length then
      some (.error error, s.setFile path ((s.files path).map (overlay (content.take choice.written))))
    else none

def command (choice : SettingsChoice) (effect : List String → List String) :
    Except String CommandOutput × SettingsState Other :=
  match choice.fault with
  | some error => (.error error, s)
  | none => (.ok choice.output,
      if choice.output.success then { s with loaded := effect s.loaded } else s)

@[simp] theorem setFile_memory (path : Path) (content : Option (List UInt8)) :
    (s.setFile path content).memory = s.memory := rfl

@[simp] theorem setFile_files (path : Path) (content : Option (List UInt8)) :
    (s.setFile path content).files = Function.update s.files path content := rfl

theorem remove_cases (choice : SettingsChoice) (path : Path) :
    (s.remove choice path).2 = s ∨ s.remove choice path = (.ok (), s.setFile path none) := by
  unfold remove
  split
  · exact .inl rfl
  · split
    · exact .inr rfl
    · exact .inl rfl

theorem create_cases (choice : SettingsChoice) (path : Path) :
    (∃ error, s.create choice path = (.error error, s)) ∨
      s.create choice path = (.ok (), s.setFile path (some [])) := by
  unfold create
  split
  · exact .inl ⟨_, rfl⟩
  · exact .inr rfl

theorem write_cases {choice : SettingsChoice} {path : Path} {content : List UInt8}
    {r : Except String Unit} {s' : SettingsState Other}
    (h : s.write choice path content = some (r, s')) :
    ∃ written, s' = s.setFile path ((s.files path).map (overlay written)) ∧
      (r = .ok () → written = content) := by
  unfold write at h
  split at h
  · cases h
    exact ⟨content, rfl, fun _ => rfl⟩
  · split at h
    · cases h
      exact ⟨content.take choice.written, rfl, fun hr => by cases hr⟩
    · cases h

theorem command_cases (choice : SettingsChoice) (effect : List String → List String) :
    ∃ loaded, (s.command choice effect).2 = { s with loaded := loaded } := by
  unfold command
  split
  · exact ⟨s.loaded, rfl⟩
  · by_cases hsuccess : choice.output.success = true
    · exact ⟨effect s.loaded, by simp [hsuccess]⟩
    · exact ⟨s.loaded, by simp [hsuccess]⟩

def exec (choice : SettingsChoice) :
    (op : SettingsOp Other) → Option (SettingsRes op × SettingsState Other)
  | .get => some (s.memory, s)
  | .pathExists path => some ((s.files path).isSome, s)
  | .readToString path => some (match choice.fault with
    | some _ => none
    | none => (s.files path).bind decodeText, s)
  | .removeFile path => some (s.remove choice path)
  | .createDirs _ | .readMode _ | .setMode _ => some (attempt choice, s)
  | .createFile path => some (s.create choice path)
  | .writeAll path content => s.write choice path (bytes content)
  | .currentExe => some (match choice.fault with
    | some error => .error error
    | none => .ok choice.output.stdout, s)
  | .runId => some (s.command choice id)
  | .bootout target => some (s.command choice (·.filter (· ≠ target)))
  | .bootstrap domain path =>
    some (s.command choice ((domain ++ "/" ++ (fileStem path).getD "") :: ·))
  | .setRuntimeProxy proxy => some ((), { s with runtimeProxy := trim proxy })
  | .store settings => some ((), { s with memory := settings })

/-- The calls as one function, the choice first. -/
abbrev execute (choice : SettingsChoice) (s : SettingsState Other) (op : SettingsOp Other) :
    Option (SettingsRes op × SettingsState Other) := s.exec choice op

/-- The same where every call works. -/
def executeWorking (choice : SettingsChoice) (s : SettingsState Other) (op : SettingsOp Other) :
    Option (SettingsRes op × SettingsState Other) :=
  if choice.fault = none then s.exec choice op else none

end SettingsState
end JustRun.Settings
