import JustRun.Machine.Commands
import JustRun.Machine.Fallible
import JustRun.Qemu.Liveness
import JustRun.Qemu.Ports

/-!
# The registry of virtual machines

`qemu-center/src/main.rs`: `vm create`, `vm clone` and `vm delete` on `state.json`.
Every step outside the registry (setup, keys, images, disks, saving) is an answer
of the host, which may fail.
-/
namespace JustRun.Qemu
open Machine

abbrev Path := List String

inductive Accel where
  | whpx
  | tcg
  deriving DecidableEq

structure VmEntry where
  name : String
  baseImage : Option Path
  disk : Path
  vcpus : UInt16
  memMib : UInt32
  accel : Accel
  sshHostPort : UInt16
  qmpHostPort : UInt16
  adbPorts : List UInt16
  adbAssignments : List (String × UInt16)
  snapshots : List String
  deriving DecidableEq

/-- What the entry adds to `used_ports`. -/
def VmEntry.ports (v : VmEntry) : List UInt16 := v.sshHostPort :: v.qmpHostPort :: v.adbPorts

structure Registry where
  vms : List VmEntry
  deriving DecidableEq

namespace Registry

def get (r : Registry) (name : String) : Option VmEntry := r.vms.find? (·.name = name)

def contains (r : Registry) (name : String) : Bool := (r.get name).isSome

def ports (r : Registry) : List UInt16 := r.vms.flatMap VmEntry.ports

def usedPorts (r : Registry) : Finset UInt16 := r.ports.toFinset

end Registry

def vmDir (stateDir : Path) (name : String) : Path := stateDir ++ ["vms", name]

def vmDiskPath (stateDir : Path) (name : String) : Path := vmDir stateDir name ++ ["disk.qcow2"]

def defaultAdbPortBase : UInt16 := 24500
def defaultSshPortBase : UInt16 := 22300
def defaultQmpPortBase : UInt16 := 23300

def vmNameChar (c : Char) : Bool := c.isLower || c.isDigit || c == '-'

def validateVmName (name : String) : Except String Unit := do
  failIf (name.isEmpty || 24 < name.utf8ByteSize) "VM name must be 1..=24 chars"
  failIf (!name.toList.all vmNameChar) ("VM name " ++ name.quote ++
    " must be lowercase [a-z0-9-] (it is used as a path component)")
  failIf (name.toList.head? == some '-' || name.toList.getLast? == some '-')
    "VM name must not start or end with '-'"

def parseAccel (s : String) : Option Accel :=
  if s.toLower = "whpx" then some .whpx else if s.toLower = "tcg" then some .tcg else none

/-! ### vm create -/

structure CreateArgs where
  name : String
  baseImage : Path
  cpus : UInt16
  mem : UInt32
  accel : String
  sshHostPort : Option UInt16
  adbPortBase : UInt16
  adbPortCount : UInt16

/-- What the host answers to `vm create`, in the order of the source. -/
structure CreateHost where
  prerequisites : Except String Unit
  baseImageIsFile : Bool
  loaded : Except String Unit
  sshKey : Except String Unit
  seedImage : Except String Unit
  qemuImg : Option String
  overlay : Except String Unit
  saved : Except String Unit

/-- Where every step succeeds. -/
def CreateHost.ready : CreateHost where
  prerequisites := .ok ()
  baseImageIsFile := true
  loaded := .ok ()
  sshKey := .ok ()
  seedImage := .ok ()
  qemuImg := some "qemu-img"
  overlay := .ok ()
  saved := .ok ()

def chooseSshPort (used : Finset UInt16) : Option UInt16 → Except String UInt16
  | some p =>
    if p ∉ used ∧ portIsReserved p = false then .ok p
    else .error ("ssh host port " ++ toString p ++ " is already in use/reserved")
  | none => orFail (nextFreePort used defaultSshPortBase) "no free ssh host port"

def chooseQmpPort (used : Finset UInt16) : Except String UInt16 :=
  orFail (nextFreePort used defaultQmpPortBase) "no free qmp host port"

def chooseAdbPorts (used : Finset UInt16) (base count : UInt16) : Except String (List UInt16) :=
  (allocatePortBlock used base count).mapError PortError.text

structure NodePorts where
  ssh : UInt16
  qmp : UInt16
  adb : List UInt16

def NodePorts.all (p : NodePorts) : List UInt16 := p.ssh :: p.qmp :: p.adb

/-- Each choice is kept out of the ones after it. -/
def chooseNodePorts (used : Finset UInt16) (ssh : Option UInt16) (base count : UInt16) :
    Except String NodePorts := do
  let sshPort ← chooseSshPort used ssh
  let qmpPort ← chooseQmpPort (insert sshPort used)
  let adbPorts ← chooseAdbPorts (insert qmpPort (insert sshPort used)) base count
  return ⟨sshPort, qmpPort, adbPorts⟩

def cmdVmCreate (stateDir : Path) (host : CreateHost) (args : CreateArgs) (registry : Registry) :
    Except String Registry := do
  host.prerequisites
  validateVmName args.name
  let accel ← orFail (parseAccel args.accel) "accel must be 'whpx' or 'tcg'"
  failIf (!host.baseImageIsFile) ("base cloud image " ++ "/".intercalate args.baseImage ++
    " not found (download an Ubuntu cloud image first — see README)")
  failIf (args.adbPortCount == 0) "adb_port_count must be > 0"
  failIf (!(decide (1536 ≤ args.mem) && decide (args.mem ≤ 16384)))
    "mem must be between 1536 MiB and 16384 MiB"
  host.loaded
  failIf (registry.contains args.name)
    ("VM " ++ args.name.quote ++ " already exists in state.json")
  let ports ← chooseNodePorts registry.usedPorts args.sshHostPort args.adbPortBase
    args.adbPortCount
  host.sshKey
  host.seedImage
  let _ ← orFail host.qemuImg
    "qemu-img not found — install QEMU or run `qemu-center doctor` for hints"
  host.overlay
  host.saved
  return ⟨registry.vms ++ [{
    name := args.name
    baseImage := some args.baseImage
    disk := vmDiskPath stateDir args.name
    vcpus := args.cpus
    memMib := args.mem
    accel := accel
    sshHostPort := ports.ssh
    qmpHostPort := ports.qmp
    adbPorts := ports.adb
    adbAssignments := []
    snapshots := [] }]⟩

/-! ### vm clone -/

/-- What the host answers to `vm clone`, in the order of the source. -/
structure CloneHost where
  loaded : Except String Unit
  liveness : LivenessProbe
  qemuImg : Option String
  cloneDirExists : Bool
  cloneDirCreated : Except String Unit
  overlay : Except String Unit
  sshIdentity : Except String Unit
  saved : Except String Unit

/-- `src.adb_ports.len().max(1) as u16`. -/
def cloneBlockSize (src : VmEntry) : UInt16 := .ofNat (max src.adbPorts.length 1)

def cmdVmClone (stateDir : Path) (host : CloneHost) (name newName : String) (registry : Registry) :
    Except String Registry := do
  validateVmName newName
  host.loaded
  failIf (registry.contains newName) ("VM " ++ newName.quote ++ " already exists")
  let src ← orFail (registry.get name) ("VM " ++ name.quote ++ " not registered")
  (clonePlan (probeVmLiveness host.liveness)).mapError
    fun reason => "refusing to clone " ++ name ++ ": " ++ reason
  let _ ← orFail host.qemuImg "qemu-img not found — run `qemu-center doctor`"
  failIf host.cloneDirExists ("refusing to clone into existing VM artifact directory " ++
    "/".intercalate (vmDir stateDir newName))
  host.cloneDirCreated
  host.overlay
  host.sshIdentity
  let ports ← chooseNodePorts registry.usedPorts none defaultAdbPortBase (cloneBlockSize src)
  host.saved
  return ⟨registry.vms ++ [{
    name := newName
    baseImage := none
    disk := vmDiskPath stateDir newName
    vcpus := src.vcpus
    memMib := src.memMib
    accel := src.accel
    sshHostPort := ports.ssh
    qmpHostPort := ports.qmp
    adbPorts := ports.adb
    adbAssignments := []
    snapshots := [] }]⟩

/-! ### vm delete -/

/-- What the host answers to `vm delete`, in the order of the source. -/
structure DeleteHost where
  loaded : Except String Unit
  liveness : LivenessProbe
  recordedPid : Option UInt32
  pidIsAlive : Except String Bool
  qmpPortIsFree : Bool
  saved : Except String Unit

def deleteCheck (host : DeleteHost) : Except String Unit :=
  if probeVmLiveness host.liveness = .unknown then
    deletePlanWithShutdownProof (probeVmLiveness host.liveness) host.recordedPid.isSome
      (host.recordedPid.bind fun _ => host.pidIsAlive.toOption) host.qmpPortIsFree
  else deletePlan (probeVmLiveness host.liveness)

/-- The registry is saved before anything is removed, so the removal does not matter here. -/
def cmdVmDelete (host : DeleteHost) (name : String) (registry : Registry) :
    Except String Registry := do
  host.loaded
  let _ ← orFail (registry.get name) ("VM " ++ name.quote ++ " not registered")
  (deleteCheck host).mapError fun reason => "refusing to delete " ++ name ++ ": " ++ reason
  host.saved
  return ⟨registry.vms.filter (·.name ≠ name)⟩

end JustRun.Qemu
