import JustRun.Concurrency.Standing
import JustRun.Machine.Text

/-!
# Creating an instance

`services/docker.rs`: `create_redroid` and `cancel_create` as programs over the flags that all
creations share and over the containers and volumes of the Docker host. A container or a volume
gets a number when it is made, so that one of the same name made later is another.
-/
namespace JustRun.Containers
open Machine Concurrency

/-! ### Names -/

/-- `str::trim_start_matches` with a pattern that is not empty: no string has more turns than
characters. -/
def trimStart (pattern : List Char) : ℕ → List Char → List Char
  | 0, s => s
  | turns + 1, s =>
    if pattern.isPrefixOf s then trimStart pattern turns (s.drop pattern.length) else s

def trimStartMatches (pattern s : String) : String :=
  .ofList (trimStart pattern.toList s.length s.toList)

def nameChar (c : Char) : Char :=
  if c.isAlphanum || c == '-' || c == '_' then c else '-'

def sanitizeName (name : String) : String := (name.map nameChar).toLower

def createContainerName (name : String) : String := "rdc-" ++ sanitizeName name

def dataVolumeName (sanitized : String) : String := "rdc-" ++ sanitized ++ "-data"

/-! ### Calls -/

structure ShellResult where
  success : Bool
  stdout : String
  stderr : String
  exitCode : ℤ
  deriving DecidableEq

structure CreateInstanceRequest where
  name : String
  androidVersion : String
  image : String
  adbPort : UInt16
  installMagisk : Bool
  installGapps : Bool
  installCloak : Bool
  waitAdb : Bool
  deriving DecidableEq

inductive DockerObject where
  | container
  | volume
  deriving DecidableEq

/-- The arguments of `docker run` that name what it makes. -/
structure RunArgs where
  container : String
  volume : String
  image : String
  adbPort : UInt16
  deriving DecidableEq

inductive DockerOp where
  /-- `CREATE_CANCEL_REQUESTED`. -/
  | setCancelRequested (value : Bool)
  | cancelRequested
  /-- `CREATE_CONTAINER_CREATED` and `CREATE_VOLUME_CREATED`. -/
  | setCreated (object : DockerObject) (value : Bool)
  | created (object : DockerObject)
  | listContainers
  /-- `host_port_in_use`; where the port is taken, another is suggested. -/
  | hostPortInUse (port : UInt16)
  | imageExists (image : String)
  | pull (image : String)
  | ensurePresetImage (base : String)
  | ensureGappsImage (base version : String)
  | volumeExists (volume : String)
  | volumeCreate (volume : String)
  | run (args : RunArgs)
  | waitReady (serial : String)
  | magiskActivation (container serial : String)
  | cloakInstall (container serial : String)
  /-- `docker rm -f` and `docker volume rm -f`. -/
  | remove (object : DockerObject) (name : String)
  deriving DecidableEq

abbrev DockerRes : DockerOp → Type
  | .setCancelRequested _ | .setCreated _ _ | .remove _ _ => Unit
  | .cancelRequested | .created _ | .imageExists _ => Bool
  | .hostPortInUse _ => Option UInt16
  | .listContainers => List String
  | .pull _ | .volumeCreate _ | .run _ | .waitReady _ => ShellResult
  | .ensurePresetImage _ | .ensureGappsImage _ _ => Except String String
  | .magiskActivation _ _ | .cloakInstall _ _ => Except String String
  | .volumeExists _ => Option Bool

abbrev DockerProg (α : Type) := Prog DockerOp DockerRes String α

abbrev act (op : DockerOp) : DockerProg (DockerRes op) := .call op .ret

namespace CreateInstanceRequest

def container (req : CreateInstanceRequest) : String := createContainerName req.name

def volume (req : CreateInstanceRequest) : String := dataVolumeName (sanitizeName req.name)

def baseImage (req : CreateInstanceRequest) : String :=
  if req.image = "" then "redroid/redroid:" ++ req.androidVersion else req.image

def serial (req : CreateInstanceRequest) : String := "127.0.0.1:" ++ toString req.adbPort

end CreateInstanceRequest

/-! ### Cancelling -/

def cleanupContainer (containerName : String) : DockerProg Unit := do
  match ← act (.created .container) with
  | true => act (.remove .container containerName)
  | false => return ()

def cleanupVolume (sanitized : String) : DockerProg Unit := do
  let created ← act (.created .volume)
  if created && sanitized != "" then act (.remove .volume (dataVolumeName sanitized))
  else return ()

def cleanupCreateArtifacts (containerName : String) : DockerProg Unit := do
  cleanupContainer containerName
  cleanupVolume (trimStartMatches "rdc-" containerName)

def invalid (stderr : String) : ShellResult := ⟨false, "", stderr, -1⟩

/-- `CREATE_CANCELLED_EXIT_CODE`. -/
def createCancelledExitCode : ℤ := -2

def cancelledCreateResult (containerName : String) : DockerProg ShellResult := do
  cleanupCreateArtifacts containerName
  return ⟨false, "", "创建已取消", createCancelledExitCode⟩

def cancelCreate (name : String) : DockerProg ShellResult :=
  let containerName := createContainerName name
  if containerName = "rdc-" then return invalid "实例名称无效"
  else do
    act (.setCancelRequested true)
    cleanupCreateArtifacts containerName
    return ⟨true, "已请求取消创建 " ++ containerName, "", 0⟩

/-! ### Creating -/

def unlessCancelled (req : CreateInstanceRequest) (go : DockerProg ShellResult) :
    DockerProg ShellResult := do
  match ← act .cancelRequested with
  | true => cancelledCreateResult req.container
  | false => go

def ShellResult.note (r : ShellResult) (message : String) : ShellResult :=
  { r with stdout := trim r.stdout ++ "\n" ++ message }

def finish (req : CreateInstanceRequest) (r : ShellResult) : DockerProg ShellResult :=
  unlessCancelled req (return r)

def installCloak (req : CreateInstanceRequest) (r : ShellResult) : DockerProg ShellResult :=
  if req.installCloak then do
    match ← act (.cloakInstall req.container req.serial) with
    | .ok message => finish req (r.note (trim message))
    | .error e => finish req (r.note ("DeviceCloak 深度伪装安装未完成（警告，不阻断）：" ++ e))
  else finish req r

def firstBoot (req : CreateInstanceRequest) (r : ShellResult) : DockerProg ShellResult :=
  if req.installMagisk then do
    match ← act (.magiskActivation req.container req.serial) with
    | .ok message => installCloak req (r.note (trim message))
    | .error e => installCloak req (r.note
      ("Magisk 激活未完成（可手动 docker restart 后检查 /data/adb/rdc_preset.log）：" ++ e))
  else installCloak req r

/-- What the result says about the instance. -/
def ShellResult.describe (r : ShellResult) (req : CreateInstanceRequest) (more : String) :
    ShellResult :=
  { r with
    stdout := trim r.stdout ++ "\n数据卷: " ++ req.volume ++ "\nADB: " ++ req.serial ++ "\n" ++ more }

def afterReady (req : CreateInstanceRequest) (r ready : ShellResult) : DockerProg ShellResult :=
  let r := { r with stdout := trim (r.describe req (trim ready.stdout)).stdout }
  if ready.success then firstBoot req r
  else finish req { r with
    success := false
    stderr := "容器已创建并启动，但 ADB 未就绪。\n" ++ ready.stderr ++ "\n" ++ r.stderr
    exitCode := ready.exitCode }

def magiskHint (req : CreateInstanceRequest) : String :=
  if req.installMagisk then
    "\n已勾选 Magisk：本次跳过了等待 ADB，开机后需手动重启一次容器以完成激活（Zygisk/模块）"
  else ""

def afterRun (req : CreateInstanceRequest) (r : ShellResult) : DockerProg ShellResult :=
  if req.waitAdb then do
    let ready ← act (.waitReady req.serial)
    unlessCancelled req (afterReady req r ready)
  else finish req (r.describe req ("已跳过等待 ADB（工具不可用或已关闭等待）" ++ magiskHint req))

def runContainer (req : CreateInstanceRequest) (image : String) : DockerProg ShellResult := do
  let r ← act (.run ⟨req.container, req.volume, image, req.adbPort⟩)
  if r.success then do
    act (.setCreated .container true)
    unlessCancelled req (afterRun req r)
  else return r

def createVolume (req : CreateInstanceRequest) (image : String) : DockerProg ShellResult := do
  let found ← act (.volumeExists req.volume)
  act (.setCreated .volume (!found.getD true))
  let _ ← act (.volumeCreate req.volume)
  runContainer req image

def layerGapps (req : CreateInstanceRequest) (base : String) : DockerProg ShellResult := do
  match ← act (.ensureGappsImage base req.androidVersion) with
  | .ok tag => unlessCancelled req (createVolume req tag)
  | .error e => return invalid e

def prepareImage (req : CreateInstanceRequest) : DockerProg ShellResult :=
  if req.installMagisk then do
    match ← act (.ensurePresetImage req.baseImage) with
    | .ok tag =>
      if req.installGapps then layerGapps req tag else unlessCancelled req (createVolume req tag)
    | .error e => return invalid e
  else if req.installGapps then layerGapps req req.baseImage
  else unlessCancelled req (createVolume req req.baseImage)

def pullImage (req : CreateInstanceRequest) : DockerProg ShellResult := do
  let pulled ← act (.pull req.baseImage)
  if pulled.success then unlessCancelled req (prepareImage req)
  else return { pulled with
    success := false
    stderr := "镜像拉取失败（可能超时或网络问题）: " ++ req.baseImage ++ "\n" ++ pulled.stderr }

def ensureImage (req : CreateInstanceRequest) : DockerProg ShellResult := do
  match ← act (.imageExists req.baseImage) with
  | true => unlessCancelled req (prepareImage req)
  | false => pullImage req

def checkPort (req : CreateInstanceRequest) : DockerProg ShellResult := do
  match ← act (.hostPortInUse req.adbPort) with
  | some suggested => return invalid ("ADB 主机端口 " ++ toString req.adbPort ++
      " 已被其它容器占用。请换端口（如 " ++ toString suggested ++ "）。")
  | none => ensureImage req

def checkName (req : CreateInstanceRequest) : DockerProg ShellResult :=
  if req.adbPort = 0 then return invalid "ADB 端口无效"
  else do
    let existing ← act .listContainers
    if existing.contains req.container then
      return invalid ("实例名称已存在: " ++ req.name ++ "（容器 " ++ req.container ++
        "）。请换一个名字，或先删除旧实例。")
    else checkPort req

def createRedroid (req : CreateInstanceRequest) : DockerProg ShellResult := do
  act (.setCancelRequested false)
  act (.setCreated .container false)
  act (.setCreated .volume false)
  if sanitizeName req.name = "" then
    return invalid "实例名称无效（需字母/数字/下划线/横线）"
  else unlessCancelled req (checkName req)

inductive DockerRequest where
  | create (req : CreateInstanceRequest)
  | cancel (name : String)
  deriving DecidableEq

def DockerRequest.handler : DockerRequest → DockerProg ShellResult
  | .create req => createRedroid req
  | .cancel name => cancelCreate name

/-! ### The Docker host -/

/-- The flags of the process, and what is on the Docker host with the number of each. -/
structure DockerState where
  cancelRequested : Bool
  created : DockerObject → Bool
  objects : DockerObject → List (String × ℕ)
  nextNumber : ℕ

/-- How far a command has come that did not succeed. -/
inductive RunExtent where
  | nothing
  | volume
  | container
  deriving DecidableEq

/-- What is outside decides how a command ends. -/
structure DockerChoice where
  output : ShellResult
  extent : RunExtent
  image : Except String String
  takenPort : Option UInt16

namespace DockerState

def has (s : DockerState) (object : DockerObject) (name : String) : Bool :=
  (s.objects object).any (·.1 == name)

/-- An object of this name is made, where there is none. -/
def make (s : DockerState) (object : DockerObject) (name : String) : DockerState :=
  if s.has object name then s
  else { s with
    objects := Function.update s.objects object ((name, s.nextNumber) :: s.objects object)
    nextNumber := s.nextNumber + 1 }

def remove (s : DockerState) (object : DockerObject) (name : String) : DockerState :=
  { s with
    objects := Function.update s.objects object ((s.objects object).filter (·.1 != name)) }

/-- `docker run` makes the volume and then the container, whose name must be free. -/
def run (s : DockerState) (args : RunArgs) (choice : DockerChoice) : Option DockerState :=
  if choice.output.success then
    if s.has .container args.container then none
    else some ((s.make .volume args.volume).make .container args.container)
  else match choice.extent with
    | .nothing => some s
    | .volume => some (s.make .volume args.volume)
    | .container => some ((s.make .volume args.volume).make .container args.container)

def exec (choice : DockerChoice) (s : DockerState) :
    (op : DockerOp) → Option (DockerRes op × DockerState)
  | .setCancelRequested value => some ((), { s with cancelRequested := value })
  | .cancelRequested => some (s.cancelRequested, s)
  | .setCreated object value =>
    some ((), { s with created := Function.update s.created object value })
  | .created object => some (s.created object, s)
  | .listContainers =>
    some (if choice.output.success then (s.objects .container).map Prod.fst else [], s)
  | .hostPortInUse _ => some (choice.takenPort, s)
  | .imageExists _ => some (choice.output.success, s)
  | .pull _ | .waitReady _ => some (choice.output, s)
  | .ensurePresetImage _ | .ensureGappsImage _ _ => some (choice.image, s)
  | .magiskActivation _ _ | .cloakInstall _ _ => some (choice.image, s)
  | .volumeExists volume =>
    some (if choice.output.success then some (s.has .volume volume) else none, s)
  | .volumeCreate volume => some (choice.output,
    if choice.output.success || choice.extent != .nothing then s.make .volume volume else s)
  | .run args => (s.run args choice).map fun s => (choice.output, s)
  | .remove object name => some ((), if choice.output.success then s.remove object name else s)

end DockerState

/-- Containers and volumes that others make and remove. -/
inductive DockerMove where
  | make (object : DockerObject) (name : String)
  | remove (object : DockerObject) (name : String)

def DockerMove.apply (s : DockerState) : DockerMove → DockerState
  | make object name => s.make object name
  | remove object name => s.remove object name

abbrev DockerAction := Action DockerRequest DockerChoice DockerMove

abbrev DockerWorld := World DockerState DockerRequest DockerOp DockerRes String ShellResult

/-- The creations and cancellations of one application over its Docker host. -/
def docker : System DockerState DockerRequest DockerOp DockerRes String ShellResult DockerChoice
    DockerMove where
  handler := DockerRequest.handler
  exec := DockerState.exec
  env := fun move s => move.apply s

/-- The application has just started; these containers and volumes are there. -/
def launched (containers volumes : List String) : DockerWorld :=
  .init { cancelRequested := false
          created := fun _ => false
          objects := fun
            | .container => containers.map (·, 0)
            | .volume => volumes.map (·, 0)
          nextNumber := 1 }

end JustRun.Containers
