import JustRun.Machine.Fallible
import JustRun.Machine.Lines

/-!
# The configuration of an upgraded container

`services/qemu_guest.py`: `data_volume`, `clone_config` and `configure_traces` on what
`docker inspect` shows. The fields are those the runner reads or writes.
-/
namespace JustRun.Guest
open Machine

structure RestartPolicy where
  name : Option String
  maximumRetryCount : ℕ
  deriving DecidableEq

/-- An entry of `HostConfig.Mounts`. -/
structure HostMount where
  type : Option String
  source : Option String
  target : Option String
  readOnly : Bool
  deriving DecidableEq

structure HostConfig where
  binds : Option (List String)
  mounts : Option (List HostMount)
  volumesFrom : Option (List String)
  networkMode : Option String
  restartPolicy : Option RestartPolicy
  cgroupParent : Option String
  containerIdFile : String
  deriving DecidableEq

/-- What `upgrade` writes to the label `rdc.qemu.rollback`. -/
structure RollbackMetadata where
  policy : Option RestartPolicy
  running : Option Bool
  deriving DecidableEq

/-- The value of a label: JSON that `upgrade` wrote, or any other text. -/
inductive Label where
  | text (value : String)
  | rollback (metadata : RollbackMetadata)
  deriving DecidableEq

/-- `Config`, with `HostConfig` where it is a body of `containers/create`. -/
structure ContainerConfig where
  image : String
  labels : List (String × Label)
  deriving DecidableEq

/-- An entry of `Mounts`: what Docker mounted. -/
structure MountPoint where
  destination : String
  type : String
  name : Option String
  rw : Option Bool
  deriving DecidableEq

structure Inspected where
  config : ContainerConfig
  hostConfig : HostConfig
  mounts : List MountPoint
  running : Bool
  deriving DecidableEq

structure CreateBody where
  config : ContainerConfig
  hostConfig : HostConfig
  deriving DecidableEq

def dataVolume (inspected : Inspected) : Except String String :=
  match inspected.mounts.filter (·.destination = "/data") with
  | [m] =>
    if m.type ≠ "volume" ∨ m.rw.getD true = false then
      .error "Upgrade requires one writable Docker volume at /data"
    else orFail m.name "'Name'"
  | _ => .error "Upgrade requires one writable Docker volume at /data"

/-! ### Binds -/

def beforeColon (s : String) : String := String.ofList (s.toList.takeWhile (· ≠ ':'))

def afterColon (s : String) : Option String :=
  match s.toList.dropWhile (· ≠ ':') with
  | [] => none
  | _ :: rest => some (String.ofList rest)

/-- `b.split(":", 1)[0]`. -/
def bindSource (b : String) : String := beforeColon b

/-- `b.split(":", 2)[1:2]`. -/
def bindTarget (b : String) : Option String := (afterColon b).map beforeColon

/-- What follows the target: the options of the mount. -/
def bindMode (b : String) : Option String := (afterColon b).bind afterColon

/-- `new_volume + b[len(old_volume):] if b.split(":", 1)[0] == old_volume else b`. -/
def replaceVolume (oldVolume newVolume b : String) : String :=
  if bindSource b = oldVolume then
    String.ofList (newVolume.toList ++ b.toList.drop oldVolume.toList.length)
  else b

def replaceMount (newVolume : String) (m : HostMount) : HostMount :=
  if m.target = some "/data" ∧ m.type = some "volume" then { m with source := some newVolume } else m

/-- The networks a container is recreated in. -/
def networkModes : List String := ["bridge", "default", "host", "none"]

def cloneConfig (inspected : Inspected) (image oldVolume newVolume : String) :
    Except String CreateBody := do
  let host := inspected.hostConfig
  let binds := (host.binds.getD []).map (replaceVolume oldVolume newVolume)
  let mounts := host.mounts.map (List.map (replaceMount newVolume))
  -- The engine may represent anonymous volumes without binds and mounts.
  let binds := if !(binds.any fun b => bindTarget b == some "/data") &&
      !((mounts.getD []).any fun m => m.target == some "/data")
    then binds ++ [newVolume ++ ":/data"] else binds
  failIf (!networkModes.contains (host.networkMode.getD "bridge"))
    ("Upgrade currently requires bridge/host/none networking; custom networks are preserved " ++
      "only by manual migration")
  return ⟨{ inspected.config with image := image },
    { host with binds := some binds, mounts := mounts, containerIdFile := "" }⟩

/-- The fields of a request that the configuration depends on; `context` is resolved. -/
structure TraceRequest where
  cleanTraces : Bool
  context : List String

/-- The files `configure_traces` mounts, and where. -/
def traceFiles : List (String × String) := [("cpuinfo", "/proc/cpuinfo"), ("version", "/proc/version")]

/-- `str(context / "traces" / filename) + ":" + destination + ":ro"`. -/
def traceBind (context : List String) (filename destination : String) : String :=
  "/" ++ "/".intercalate (context ++ ["traces", filename]) ++ ":" ++ destination ++ ":ro"

def addTrace (isFile : List String → Bool) (context : List String) (binds : List String)
    (trace : String × String) : Except String (List String) := do
  failIf (!isFile (context ++ ["traces", trace.1])) "Trace configuration requires a device profile"
  return binds.filter (fun b => bindTarget b != some trace.2) ++ [traceBind context trace.1 trace.2]

def configureTraces (isFile : List String → Bool) (body : CreateBody) (request : TraceRequest) :
    Except String CreateBody :=
  if !request.cleanTraces then .ok body
  else do
    let binds ← traceFiles.foldlM (addTrace isFile request.context) (body.hostConfig.binds.getD [])
    return { body with hostConfig :=
      { body.hostConfig with binds := some binds, cgroupParent := some "system.slice" } }

end JustRun.Guest
