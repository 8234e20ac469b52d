import JustRun.Machine.Lines
import JustRun.Qemu.Registry

/-!
# Redroid instances of a node

`qemu-center/src/redroid.rs`, `guest.rs` and `cmd_redroid_create`: the resources of a
profile, the memory budget of a node, and the count of running instances that is
read from `docker ps`.
-/
namespace JustRun.Qemu
open Machine

/-! ### Resources -/

inductive ResourceProfile where
  | lean
  | standard
  | full
  deriving DecidableEq

/-- The `f64` of `--cpus`. -/
inductive Cpus where
  | finite (value : ℚ)
  | notFinite
  deriving DecidableEq

structure InstanceDefaults where
  cpus : ℕ
  memoryMib : ℕ
  width : ℕ
  height : ℕ
  dpi : ℕ
  installGapps : Bool
  installMagisk : Bool
  deriving DecidableEq

def fullProfileMinNodeMemoryMib : ℕ := 6144

/-- `Ord::clamp`. -/
def clamp (value lo hi : ℕ) : ℕ := min (max value lo) hi

namespace ResourceProfile

def parse (value : String) : Except String ResourceProfile :=
  let name := (trim value).toLower
  if name = "lean" then .ok .lean
  else if name = "standard" ∨ name = "" then .ok .standard
  else if name = "full" then .ok .full
  else .error ("resource profile must be lean, standard, or full (got " ++ name.quote ++ ")")

def asStr : ResourceProfile → String
  | .lean => "lean"
  | .standard => "standard"
  | .full => "full"

def containerDefaults (profile : ResourceProfile) (nodeVcpus nodeMemMib : ℕ) : InstanceDefaults :=
  let nodeMemMib := max nodeMemMib 1024
  let reserved := max (nodeMemMib / 4) 512
  let available := nodeMemMib - reserved
  let (cpus, memoryMib, installGapps, installMagisk) := match profile with
    | .lean => (max (nodeVcpus / 4) 1,
        clamp (available / 2) (if nodeMemMib ≥ 3072 then 1536 else 1024) 4096, false, false)
    | .standard => (max (nodeVcpus / 3) 1,
        clamp (min (max available 1024) (max (nodeMemMib / 4) 2048)) 1024 8192, false, false)
    | .full => (max (nodeVcpus / 2) 1, clamp available 1536 8192, true, true)
  ⟨cpus, memoryMib, 720, 1280, 320, installGapps, installMagisk⟩

end ResourceProfile

def resolveInstanceResources (profile : ResourceProfile) (nodeVcpus nodeMemMib : ℕ)
    (cpusOverride : Option Cpus) (memoryOverride : Option UInt32) : Except String (Cpus × ℕ) := do
  failIf (profile == .full && decide (nodeMemMib < fullProfileMinNodeMemoryMib))
    ("full profile requires a node with at least " ++ toString fullProfileMinNodeMemoryMib ++
      " MiB; choose lean/standard or a larger node")
  let defaults := profile.containerDefaults nodeVcpus nodeMemMib
  let cpus := cpusOverride.getD (.finite defaults.cpus)
  failIf (match cpus with
    | .finite value => decide (value ≤ 0)
    | .notFinite => true) "cpus must be a finite positive number"
  let memoryMib := (memoryOverride.map UInt32.toNat).getD defaults.memoryMib
  failIf (decide (memoryMib < 512)) "memory must be at least 512 MiB"
  return (cpus, memoryMib)

inductive ResourceBudgetError where
  | invalidNodeMemory
  | invalidInstanceMemory
  | insufficientHeadroom (requestedMib availableMib headroomMib : ℕ)
  deriving DecidableEq

def ResourceBudgetError.debug : ResourceBudgetError → String
  | .invalidNodeMemory => "InvalidNodeMemory"
  | .invalidInstanceMemory => "InvalidInstanceMemory"
  | .insufficientHeadroom requestedMib availableMib headroomMib =>
    "InsufficientHeadroom \x7b requested_mib: " ++ toString requestedMib ++ ", available_mib: " ++
      toString availableMib ++ ", headroom_mib: " ++ toString headroomMib ++ " \x7d"

/-- The headroom of a node. -/
def reserveMib (nodeMemoryMib : ℕ) : ℕ := max (nodeMemoryMib / 4) 512

/-- The product saturates at `u64::MAX`. -/
def validateResourceBudget (nodeMemoryMib instanceMemoryMib runningInstances : ℕ) :
    Except ResourceBudgetError Unit := do
  failIf (nodeMemoryMib == 0) .invalidNodeMemory
  failIf (decide (instanceMemoryMib < 512)) .invalidInstanceMemory
  let headroomMib := reserveMib nodeMemoryMib
  let availableMib := nodeMemoryMib - headroomMib
  let requestedMib := min (instanceMemoryMib * runningInstances) (2 ^ 64 - 1)
  failIf (decide (requestedMib > availableMib))
    (.insufficientHeadroom requestedMib availableMib headroomMib)

/-- The budget charges the size of the new instance for every running one. -/
theorem validateResourceBudget_ok {node memory count : ℕ} (hnode : node < 2 ^ 32) (hcount : 0 < count)
    (h : validateResourceBudget node memory count = .ok ()) :
    memory * count + reserveMib node ≤ node := by
  simp only [validateResourceBudget, bind_eq_ok, failIf_eq_ok, decide_eq_false_iff_not, not_lt] at h
  obtain ⟨-, -, -, hmemory, hfits⟩ := h
  have hpos : 512 ≤ memory * count := hmemory.trans (Nat.le_mul_of_pos_right memory hcount)
  have hsaturated : memory * count ≤ node - reserveMib node := by
    by_contra hlt
    omega
  omega

/-! ### Instances in Docker -/

/-- A column that Docker writes: no tab and no newline in it, no white space at its ends. -/
structure Column where
  text : String
  oneColumn : '\t' ∉ text.toList ∧ '\n' ∉ text.toList
  trimmed : Trimmed text
  deriving DecidableEq

structure Detail extends Column where
  nonempty : text ≠ ""
  deriving DecidableEq

/-- The status that Docker shows for a container. The detail after an opening parenthesis is the
exit code, the closing parenthesis and the time since; a paused container is `Up` with `(Paused)`. -/
inductive ContainerStatus where
  | created
  | restarting (detail : Detail)
  | up (detail : Detail)
  | exited (detail : Detail)
  | removing
  | dead
  deriving DecidableEq

namespace ContainerStatus

def text : ContainerStatus → String
  | created => "Created"
  | restarting detail => "Restarting (" ++ detail.text
  | up detail => "Up " ++ detail.text
  | exited detail => "Exited (" ++ detail.text
  | removing => "Removal In Progress"
  | dead => "Dead"

def isRunning : ContainerStatus → Bool
  | up _ => true
  | _ => false

end ContainerStatus

structure Container where
  name : String
  memoryMib : ℕ
  status : ContainerStatus
  ports : Column
  deriving DecidableEq

def Container.isRunning (c : Container) : Bool := c.status.isRunning

/-- What the guest answers to `docker ps`: nothing, or one row for each container, in which the
status may be missing. -/
inductive PsReply where
  | failed
  | rows (statusMissing : String → Bool)

def Container.row (statusMissing : String → Bool) (c : Container) : String :=
  joinWith '\t' [c.name, if statusMissing c.name then "" else c.status.text, c.ports.text]

/-- The output of `docker ps`, where it succeeds. -/
def PsReply.stdout (containers : List Container) : PsReply → Option String
  | failed => none
  | rows statusMissing => some (unlines (containers.map (·.row statusMissing)))

def parseDockerPsLine (line : String) : Option (String × String × String) :=
  let columns := splitOn '\t' line
  let name := trim (columns.headD "")
  if !("qc-".toList.isPrefixOf name.toList) then none
  else some (name, trim (columns.getD 1 ""), trim (columns.getD 2 ""))

/-- `status == "running" || status == "up" || status.starts_with("up ")`, in lower case. -/
def statusIsRunning (status : String) : Bool :=
  let status := status.toLower
  status == "running" || status == "up" || "up ".toList.isPrefixOf status.toList

/-- The loop of `parse_running_redroid_count` over the lines that are not blank. -/
def collectRunning (running : Finset String) : List String → Except String (Finset String)
  | [] => .ok running
  | line :: rest => match parseDockerPsLine line with
    | none => collectRunning running rest
    | some (name, status, _) =>
      if status.isEmpty then .error ("docker ps row has no status for " ++ name)
      else if statusIsRunning status then collectRunning (insert name running) rest
      else collectRunning running rest

def parseRunningRedroidCount (stdout : String) : Except String ℕ := do
  let running ← collectRunning ∅ ((lines stdout).filter fun line => !isBlank line)
  failIf (decide (2 ^ 32 ≤ running.card)) "too many redroid containers"
  return running.card

/-! ### redroid create -/

def containerName (name : String) : String := "qc-" ++ name

def validateInstanceName (name : String) : Except String Unit := do
  failIf (name.isEmpty || 24 < name.utf8ByteSize) "instance name must be 1..=24 chars"
  failIf (!name.toList.all vmNameChar)
    ("instance name " ++ name.quote ++ " must be lowercase [a-z0-9-]")
  failIf (name.toList.head? == some '-' || name.toList.getLast? == some '-')
    "instance name must not start or end with '-'"

inductive GpuMode where
  | guest
  | host
  deriving DecidableEq

def parseGpuMode (s : String) : Option GpuMode :=
  if s.toLower = "guest" then some .guest else if s.toLower = "host" then some .host else none

def imageNameChar (c : Char) : Bool := c.isAlphanum || "._-/:".toList.contains c

def imageDigestIsValid (name digest : String) : Bool :=
  (name.toList.head?.any Char.isAlphanum) && name.toList.all imageNameChar &&
    byteLength digest == 64 && isAsciiHex digest

/-- `image.split_once("@sha256:")` cuts at the first occurrence. -/
def splitOnce (s needle : List Char) : Option (List Char × List Char) :=
  match s with
  | [] => if needle.isEmpty then some ([], []) else none
  | c :: rest =>
    if needle.isPrefixOf (c :: rest) then some ([], (c :: rest).drop needle.length)
    else (splitOnce rest needle).map fun (before, after) => (c :: before, after)

def validateImageRef (image : String) : Except String Unit :=
  match splitOnce image.toList "@sha256:".toList with
  | none => .error "redroid image must use an immutable @sha256 digest"
  | some (name, digest) =>
    failIf (!imageDigestIsValid (String.ofList name) (String.ofList digest))
      "redroid image digest is invalid"

def bindIsValid (bind : String) : Bool :=
  match splitOn ':' bind with
  | [source, target, mode] => source.toList.head? == some '/' && target.toList.head? == some '/' &&
      mode == "ro" && !bind.toList.any fun c => c == ',' || c == '\n' || c == '\r'
  | _ => false

structure RedroidSpec where
  name : String
  adbPort : UInt16
  cpus : Cpus
  memoryMib : ℕ
  width : UInt32
  height : UInt32
  dpi : UInt32
  gpuMode : GpuMode
  image : String

structure RedroidCreateArgs where
  inst : String
  profile : String
  cpus : Option Cpus
  memory : Option UInt32
  width : UInt32
  height : UInt32
  dpi : UInt32
  gpuMode : String
  image : Option String
  binds : List String

/-- What is answered to `redroid create` from outside the node. -/
structure RedroidCreateHost where
  grantFile : Except String Unit
  authorizationPath : Except String Unit
  loaded : Except String Unit
  authorized : Except String Unit
  ps : PsReply
  volumeCreated : Except String Unit
  dockerRun : Except String Unit
  saved : Except String Unit

/-- A VM with the Docker of its guest. -/
structure Node where
  name : String
  vcpus : UInt16
  memMib : UInt32
  adbPorts : List UInt16
  adbAssignments : List (String × UInt16)
  containers : List Container
  deriving DecidableEq

namespace Node

def registered (node : Node) : List String := node.adbAssignments.map Prod.fst

/-- `VmEntry::next_free_adb_port`. -/
def nextFreeAdbPort (node : Node) : Option UInt16 :=
  node.adbPorts.find? fun p => !(node.adbAssignments.map Prod.snd).contains p

/-- The count the budget is checked for; every registered instance where Docker does not say. -/
def runningInstances (node : Node) (ps : PsReply) : ℕ :=
  let registeredInstances := node.adbAssignments.length % 2 ^ 32
  match ps.stdout node.containers with
  | some stdout => (parseRunningRedroidCount stdout).toOption.getD registeredInstances
  | none => registeredInstances

end Node

def justStarted : Detail where
  text := "Less than a second"
  nonempty := by decide
  oneColumn := by decide +kernel
  trimmed := by decide +kernel

def noPorts : Column where
  text := ""
  oneColumn := by decide
  trimmed := by decide

/-- `docker run`: a name is given to one container only. -/
def Node.dockerRun (node : Node) (spec : RedroidSpec) : Except String Node := do
  failIf (node.containers.any (·.name == containerName spec.name))
    "docker run failed in guest: the container name is already in use"
  return { node with containers := node.containers ++
    [⟨containerName spec.name, spec.memoryMib, .up justStarted, noPorts⟩] }

def cmdRedroidCreate (host : RedroidCreateHost) (args : RedroidCreateArgs) (node : Node) :
    Except String Node := do
  host.grantFile
  host.authorizationPath
  failIf (!args.binds.all bindIsValid)
    "bind must be an absolute guest source:target:ro without commas/newlines"
  validateInstanceName args.inst
  let gpuMode ← orFail (parseGpuMode args.gpuMode) "gpu-mode must be 'guest' or 'host'"
  let profile ← ResourceProfile.parse args.profile
  host.loaded
  host.authorized
  let (cpus, memory) ← resolveInstanceResources profile node.vcpus.toNat node.memMib.toNat
    args.cpus args.memory
  failIf (node.registered.contains args.inst) ("instance " ++ args.inst.quote ++
    " already assigned on VM " ++ node.name.quote)
  (validateResourceBudget node.memMib.toNat memory
      (min (node.runningInstances host.ps + 1) (2 ^ 32 - 1))).mapError
    fun error => "resource profile " ++ profile.asStr ++ " cannot fit this VM: " ++ error.debug
  let port ← orFail node.nextFreeAdbPort ("VM " ++ node.name.quote ++ " adb block exhausted (" ++
    toString node.adbPorts.length ++ " ports) — create a new VM or recreate with a larger block")
  let image := args.image.getD ""
  validateImageRef image
  let node ← node.dockerRun ⟨args.inst, port, cpus, memory, args.width, args.height, args.dpi,
    gpuMode, image⟩
  host.dockerRun
  host.saved
  return { node with adbAssignments := node.adbAssignments ++ [(args.inst, port)] }

end JustRun.Qemu
