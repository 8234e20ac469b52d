import JustRun.Guest.Docker

/-!
# Upgrade and restore

`services/qemu_guest.py`: `upgrade` puts a new container in the place of the original one
and keeps that as a backup; `restore` takes it back. Both undo what they did when a step fails.
-/
namespace JustRun.Guest
open Machine Concurrency

/-- The fields of a request that `upgrade` and `restore` read. -/
structure Request where
  name : String
  image : String
  context : List String
  adbPubkey : String
  cleanTraces : Bool
  installMagisk : Bool
  installLsposed : Bool
  installGapps : Bool
  installCloak : Bool
  hidePackages : List String
  moduleIds : List String
  expectedProps : List (String × String)

/-- A request without options. -/
def plainRequest : Request where
  name := "a"
  image := "redroid-2"
  context := ["run", "rdc-presets", "job-1"]
  adbPubkey := ""
  cleanTraces := false
  installMagisk := false
  installLsposed := false
  installGapps := false
  installCloak := false
  hidePackages := []
  moduleIds := []
  expectedProps := []

/-! ### Versions -/

/-- `SDK_VERSIONS`. -/
def sdkVersions : List (ℕ × String) :=
  [(29, "10"), (30, "11"), (31, "12"), (32, "12"), (33, "13"), (34, "14"), (35, "15"), (36, "16")]

/-- `line.split("=", 1)`. -/
def property (line : String) : Option (String × String) :=
  match line.toList.dropWhile (· ≠ '=') with
  | [] => none
  | _ :: value => some (String.ofList (line.toList.takeWhile (· ≠ '=')), String.ofList value)

/-- `int(value)` where it is not negative: ASCII digits, single underscores between them. -/
def pythonInt (value : String) : Option ℕ :=
  let unsigned := if value.toList.head? = some '+' then value.toList.tail else value.toList
  let groups := unsigned.splitOn '_'
  if groups.all fun g => !g.isEmpty && g.all Char.isDigit then
    some (Nat.ofDigitChars 10 groups.flatten 0)
  else none

def androidVersion (props : String) : Except String String :=
  let values := (lines props).filterMap fun line =>
    if line.toList.head? = some '#' then none else property line
  let sdk := (List.lookup "ro.build.version.sdk" values.reverse).bind
    fun value => pythonInt (trim value)
  orFail (sdk.bind fun sdk => List.lookup sdk sdkVersions)
    "Cannot determine actual Android SDK from immutable build.prop"

/-- The properties found at one path of the image; most images lack one of the two. -/
def copiedProps (container path : String) : Runner String :=
  (run .forward ["docker", "cp", container ++ ":" ++ path]).tryThen fun
    | .error _ => .ret ""
    | .ok _ => do
      let found ← ask .forward ["is_file", path]
      if found then
        let text ← run .forward ["read_text", path]
        return text ++ "\n"
      else return ""

def imageVersion (image : String) : Runner String := do
  let container ← run .forward ["docker", "create", image]
  let version : Runner String := do
    let props ← copiedProps container "/system/build.prop"
    let props' ← copiedProps container "/system/system/build.prop"
    checked (androidVersion (props ++ props'))
  version.tryThen fun outcome => do
    let _ ← run .forward ["docker", "rm", "-f", container]
    Prog.ofExcept outcome

def deviceVersion (name : String) : Runner String := do
  let inspected ← inspect .forward name
  imageVersion inspected.config.image

/-! ### Volumes -/

def volumePath (volume : String) : Runner String := do
  let info ← volumeInspect .forward volume
  if info.driver ≠ "local" || info.hasOptions then
    raise "Upgrade supports standard local Docker volumes only"
  else do
    let isDir ← ask .forward ["is_dir", info.mountpoint]
    if !isDir || !("/var/lib/docker/volumes/".toList.isPrefixOf info.mountpoint.toList) then
      raise ("Unexpected Docker volume mountpoint: " ++ info.mountpoint)
    else return info.mountpoint

def cloneVolume (old new : String) : Runner Unit := do
  let source ← volumePath old
  let _ ← run .forward ["docker", "volume", "create", new]
  let target ← volumePath new
  let _ ← run .forward ["cp", "-a", source ++ "/.", target]
  return ()

/-- `existing.rstrip("\n")`. -/
def withoutNewlines (text : String) : String :=
  String.ofList (text.toList.reverse.dropWhile (· = '\n')).reverse

/-- The key of the host is added to the keys of the guest once. -/
def seedAdbKeys (root key : String) : Runner Unit := do
  let path := root ++ "/misc/adb/adb_keys"
  let present ← ask .forward ["exists", path]
  let existing ← textIf present (run .forward ["read_text", path])
  onlyIf (!(lines existing).contains key) do
    let _ ← run .forward ["write_text", path, withoutNewlines existing ++
      (if existing = "" then "" else "\n") ++ key ++ "\n"]
    return ()
  let _ ← run .forward ["chown", path, "1000", "2000"]
  let _ ← run .forward ["chmod", path, "640"]
  return ()

def seedMagisk (root : String) (request : Request) : Runner Unit := do
  let preset := root ++ "/adb"
  let _ ← run .forward ["mkdir", preset]
  let _ ← run .forward ["unlink", preset ++ "/.rdc_preset_done"]
  let _ ← run .forward ["write_text", preset ++ "/rdc_target_packages.txt",
    "\n".intercalate request.hidePackages ++ "\n"]
  let conf := "/".intercalate (request.context ++ ["data", "spoof.conf"])
  let isConf ← ask .forward ["is_file", conf]
  onlyIf isConf do
    let _ ← run .forward ["copy", conf, preset ++ "/rdc_spoof.conf"]
    return ()
  forEach request.moduleIds fun module => do
    let staged := preset ++ "/modules/" ++ module
    let isDir ← ask .forward ["is_dir", staged]
    onlyIf isDir do
      let _ ← run .forward ["rm", "-rf", "--", staged]
      return ()

def seedData (volume : String) (request : Request) : Runner Unit := do
  let root ← volumePath volume
  let _ ← run .forward ["mkdir", root ++ "/misc/adb"]
  onlyIf (trim request.adbPubkey ≠ "") (seedAdbKeys root (trim request.adbPubkey))
  onlyIf request.installMagisk (seedMagisk root request)
  let cloak := "/".intercalate (request.context ++ ["cloak.json"])
  let isCloak ← ask .forward ["is_file", cloak]
  onlyIf isCloak do
    let _ ← run .forward ["mkdir", root ++ "/local/tmp"]
    let _ ← run .forward ["copy", cloak, root ++ "/local/tmp/rdc-cloak.json"]
    let _ ← run .forward ["chmod", root ++ "/local/tmp/rdc-cloak.json", "644"]
    return ()

/-! ### Activation -/

/-- Passes of the loop: each but the last sleeps three of the 300 seconds. -/
def bootPolls : ℕ := 100

def waitBoot (name : String) (preset : Bool) : ℕ → String → Runner Unit
  | 0, last => raise ("First boot/preset timeout: " ++ last)
  | polls + 1, last => do
    let early ← ask .forward ["monotonic() < deadline"]
    if !early then raise ("First boot/preset timeout: " ++ last)
    else
      let query := shell name ("getprop sys.boot_completed" ++
        if preset then "; test -f /data/adb/.rdc_preset_done && echo preset_done" else "")
      query.tryThen fun
        | .error e => waitBoot name preset polls e.text
        | .ok last =>
          if (lines last).head? = some "1" && (!preset || containsText last "preset_done") then .ret ()
          else waitBoot name preset polls last

def activateMagisk (name : String) (request : Request) : Runner Unit := do
  restart .forward name
  waitBoot name true bootPolls ""
  let checks ← shell name ("pidof magiskd; /sbin/magisk --sqlite \"SELECT value FROM settings " ++
    "WHERE key='zygisk'\"; pidof zygiskd zygiskd64; pm path com.topjohnwu.magisk")
  onlyIf (!((lines checks).any (containsText · "value=1")) ||
      !((lines checks).any (containsText · "package:")))
    (raise ("Magisk manager / Zygisk configuration not verified: " ++ checks))
  let magiskd ← shell name "pidof magiskd"
  let zygiskd ← textIf (!magiskd.isEmpty) (shell name "pidof zygiskd zygiskd64")
  onlyIf zygiskd.isEmpty (raise "Magisk daemon or Zygisk process is absent")
  forEach request.moduleIds fun module => do
    let quoted := "'" ++ module ++ "'"
    let _ ← shell name ("test -d /data/adb/modules/" ++ quoted ++ " && test ! -f /data/adb/modules/" ++
      quoted ++ "/disable && test ! -f /data/adb/modules/" ++ quoted ++ "/remove")
    return ()
  onlyIf request.installLsposed do
    let lspd ← shell name "pidof lspd"
    onlyIf lspd.isEmpty (raise "LSPosed module installed but lspd is not running")
  forEach request.expectedProps fun p => do
    let value ← shell name ("getprop " ++ p.1)
    onlyIf (value ≠ p.2) (raise ("Device profile property mismatch: " ++ p.1))

def activateGapps (name : String) : Runner Unit := do
  forEach ["com.google.android.gms", "com.google.android.gsf", "com.android.vending"] fun package => do
    let path ← shell name ("pm path " ++ package)
    onlyIf (!("package:".toList.isPrefixOf path.toList)) (raise ("GApps package missing: " ++ package))
  let _ ← shell name ("settings put global device_provisioned 1; settings put secure " ++
    "user_setup_complete 1; pm disable-user --user 0 com.google.android.setupwizard >/dev/null 2>&1; " ++
    "settings put global package_verifier_enable 0; settings put global " ++
    "verifier_verify_adb_installs 0; true")
  return ()

def activateCloak (name : String) (request : Request) : Runner Unit := do
  let _ ← run .forward ["docker", "cp", "/".intercalate (request.context ++ ["DeviceCloak.apk"]),
    name ++ ":/data/local/tmp/DeviceCloak.apk"]
  let result ← shell name ("settings put global package_verifier_enable 0; pm install -r " ++
    "/data/local/tmp/DeviceCloak.apk")
  let path ← textIf (containsText result "Success") (shell name "pm path dev.rdc.devicecloak")
  onlyIf (!("package:".toList.isPrefixOf path.toList))
    (raise ("DeviceCloak installation failed: " ++ result))

def activate (name : String) (request : Request) : Runner Unit := do
  waitBoot name request.installMagisk bootPolls ""
  onlyIf request.installMagisk (activateMagisk name request)
  onlyIf request.installGapps (activateGapps name)
  onlyIf request.installCloak (activateCloak name request)
  let _ ← shell name
    "settings put global stay_on_while_plugged_in 7; input keyevent KEYCODE_WAKEUP; true"
  return ()

/-! ### Upgrade -/

def containerOf (request : Request) : String := "qc-" ++ request.name

def backupOf (request : Request) : String := containerOf request ++ "-preupgrade"

def rollbackLabel : String := "rdc.qemu.rollback"

/-- `config.setdefault("Labels", {})["rdc.qemu.rollback"] = …`. -/
def CreateBody.withRollback (body : CreateBody) (metadata : RollbackMetadata) : CreateBody :=
  { body with config := { body.config with
    labels := body.config.labels.filter (fun l => l.1 ≠ rollbackLabel) ++
      [(rollbackLabel, .rollback metadata)] } }

/-- The two flags of `upgrade`. -/
structure Progress where
  renamed : Bool
  created : Bool

/-- A step at which the flags have these values. -/
def during {α : Type} (progress : Progress) (p : Runner α) :
    Prog Call (fun c => Except GuestError c.op.Val) (GuestError × Progress) α :=
  p.mapFail fun e => (e, progress)

/-- The trace files that exist, where they are asked for. -/
def presentTraces (request : Request) : Runner (List String → Bool) :=
  if request.cleanTraces then do
    let cpuinfo ← ask .forward ("is_file" :: request.context ++ ["traces", "cpuinfo"])
    let version ← ask .forward ("is_file" :: request.context ++ ["traces", "version"])
    return fun path => if path = request.context ++ ["traces", "cpuinfo"] then cpuinfo else version
  else .ret fun _ => false

/-- What `upgrade` finds out before it changes anything. -/
structure UpgradePlan where
  inspected : Inspected
  oldVolume : String
  newVolume : String
  body : CreateBody

def planUpgrade (request : Request) : Runner UpgradePlan := do
  let taken ← isPresent .forward (backupOf request)
  onlyIf taken (raise ("An upgrade backup already exists; restore it or remove it deliberately " ++
    "before another upgrade"))
  let inspected ← inspect .forward (containerOf request)
  let oldVolume ← checked (dataVolume inspected)
  let targetVersion ← imageVersion request.image
  let currentVersion ← deviceVersion (containerOf request)
  onlyIf (currentVersion ≠ targetVersion) (raise ("Android version must stay unchanged: current=" ++
    currentVersion ++ ", target=" ++ targetVersion))
  let hex ← run .forward ["uuid4"]
  let newVolume := containerOf request ++ "-upgrade-" ++ hex ++ "-data"
  let body ← checked (cloneConfig inspected request.image oldVolume newVolume)
  let isFile ← presentTraces request
  let body ← checked (configureTraces isFile body ⟨request.cleanTraces, request.context⟩)
  return ⟨inspected, oldVolume, newVolume, body⟩

/-- The `try` of `upgrade`. -/
def performUpgrade (request : Request) (plan : UpgradePlan) :
    Prog Call (fun c => Except GuestError c.op.Val) (GuestError × Progress) Unit := do
  let name := containerOf request
  during ⟨false, false⟩ do
    stop .forward name
    cloneVolume plan.oldVolume plan.newVolume
    seedData plan.newVolume request
    updateRestart .forward name noPolicy
    rename .forward name (backupOf request)
  during ⟨true, false⟩ (create .forward name
    (plan.body.withRollback ⟨some plan.inspected.policy, some plan.inspected.running⟩))
  during ⟨true, true⟩ do
    start .forward name
    activate name request

/-- The `except` of `upgrade`. -/
def rollBack (request : Request) (plan : UpgradePlan) (progress : Progress) : Runner Unit := do
  let name := containerOf request
  onlyIf progress.created (remove .recovery name)
  onlyIf progress.renamed (rename .recovery (backupOf request) name)
  updateRestart .recovery name plan.inspected.policy
  onlyIf plan.inspected.running (start .recovery name)

def upgrade (request : Request) : Runner Unit := do
  let plan ← planUpgrade request
  (performUpgrade request plan).tryThen fun
    | .ok () => .ret ()
    | .error (error, progress) => (rollBack request plan progress).tryThen fun
      | .ok () => raise (error.text ++ "; original instance restored; cloned volume retained: " ++
          plan.newVolume)
      | .error rollbackError => raise (error.text ++ "; automatic restore FAILED: " ++
          rollbackError.text ++ "; backup=" ++ backupOf request)

/-! ### Restore -/

/-- `json.loads(current["Config"].get("Labels", {}).get("rdc.qemu.rollback", "{}"))`. -/
def rollbackMetadata (current : Inspected) : Except String RollbackMetadata :=
  match List.lookup rollbackLabel current.config.labels with
  | some (.rollback metadata) => .ok metadata
  | some (.text _) => .error "Expecting value"
  | none => .ok ⟨none, none⟩

/-- What `restore` finds out before it changes anything. -/
structure RestorePlan where
  current : Inspected
  policy : RestartPolicy
  startsOriginal : Bool
  retained : String

def planRestore (request : Request) : Runner RestorePlan := do
  let available ← isPresent .forward (backupOf request)
  onlyIf (!available) (raise "No pre-upgrade backup available")
  let current ← inspect .forward (containerOf request)
  let original ← inspect .forward (backupOf request)
  let metadata ← checked (rollbackMetadata current)
  let hex ← run .forward ["uuid4"]
  return ⟨current, metadata.policy.getD original.policy, metadata.running.getD true,
    containerOf request ++ "-replaced-" ++ hex⟩

/-- The `try` of `restore`. -/
def performRestore (request : Request) (plan : RestorePlan) :
    Prog Call (fun c => Except GuestError c.op.Val) (GuestError × Bool) Unit := do
  let name := containerOf request
  Prog.mapFail (fun e => (e, false)) do
    stop .forward name
    updateRestart .forward name noPolicy
    rename .forward name plan.retained
  Prog.mapFail (fun e => (e, true)) do
    rename .forward (backupOf request) name
    updateRestart .forward name plan.policy
    onlyIf plan.startsOriginal (start .forward name)

/-- The `except` of `restore`. -/
def undoRestore (request : Request) (plan : RestorePlan) (renamed : Bool) : Runner Unit :=
  onlyIf renamed do
    let name := containerOf request
    let present ← isPresent .recovery name
    onlyIf present (rename .recovery name (backupOf request))
    rename .recovery plan.retained name
    updateRestart .recovery name plan.current.policy
    onlyIf plan.current.running (start .recovery name)

def restore (request : Request) : Runner Unit := do
  let plan ← planRestore request
  (performRestore request plan).tryThen fun
    | .ok () => .ret ()
    | .error (error, renamed) => do
      undoRestore request plan renamed
      .fail error

end JustRun.Guest
