import JustRun.Machine.Delimited
import JustRun.Machine.Lines

/-!
# The device list

`services/device.rs`: every listed ADB serial has a row, for which a container is looked up by
three textual criteria, and the Redroid containers that no row shows yet get one of their own.
-/
namespace JustRun.Devices
open Machine

/-- A line of `adb devices -l`; the serial is a word of it. -/
structure AdbDevice where
  serial : String
  state : String
  product : String
  model : String
  isWord : serial ≠ ""

/-- A row of `docker ps -a`. -/
structure DockerContainer where
  id : String
  name : String
  image : String
  status : String
  ports : String
  created : String
  deriving DecidableEq

def DockerContainer.isRedroid (c : DockerContainer) : Bool :=
  containsText c.name "redroid" || containsText c.image "redroid" ||
    "rdc-".toList.isPrefixOf c.name.toList

/-- Docker gives every container an id of its own. -/
structure DockerListing where
  containers : List DockerContainer
  ids : (containers.map DockerContainer.id).Nodup
  named : ∀ c ∈ containers, c.id ≠ ""

structure DeviceInfo where
  id : String
  name : String
  serial : String
  online : Bool
  adbStatus : String
  dockerStatus : String
  ip : String
  containerId : String
  image : String
  startedAt : String
  adbPort : UInt16
  dataVolume : String
  spoofedModel : Option String
  deriving DecidableEq

/-! ### Texts -/

def dropSign : List Char → List Char
  | '+' :: rest => rest
  | chars => chars

/-- `str::parse::<u16>`: a sign may precede the digits. -/
def parseU16 (s : String) : Option UInt16 :=
  let digits := dropSign s.toList
  if digits ≠ [] ∧ digits.all Char.isDigit ∧ Nat.ofDigitChars 10 digits 0 < 2 ^ 16 then
    some (.ofNat (Nat.ofDigitChars 10 digits 0))
  else none

/-- `s.split("->").next()`. -/
def beforeArrow : List Char → List Char
  | '-' :: '>' :: _ => []
  | [] => []
  | c :: rest => c :: beforeArrow rest

def extractHostFromSerial (serial : String) : String := (splitOn ':' serial).headD ""

def parsePortFromSerial (serial : String) : Option UInt16 := (splitOn ':' serial)[1]?.bind parseU16

/-- The host port of one mapping. -/
def partPort (part : String) : Option UInt16 :=
  (splitOn ':' (.ofList (beforeArrow part.toList))).getLast?.bind fun s => parseU16 (trim s)

def portMatch (serial ports : String) : Bool :=
  match parsePortFromSerial serial with
  | some port => (splitOn ',' ports).any (partPort · == some port)
  | none => false

/-- `0.0.0.0:5555->5555/tcp` has the host port 5555. -/
def extractHostPort (ports : String) : Option UInt16 := (splitOn ',' ports).findSome? partPort

def dropSlashes (s : String) : String := .ofList (s.toList.dropWhile (· == '/'))

def displayInstanceName (containerName : String) : String :=
  let n := dropSlashes containerName
  (stripPrefix? "rdc-" n).getD n

def dataVolumeOf (containerName : String) : String :=
  let n := dropSlashes containerName
  if n = "" then ""
  else if "-data".toList.isSuffixOf n.toList then n
  else n ++ "-data"

def looksUnspoofedModel (model : String) : Bool :=
  let model := (trim model).toLower
  model == "" || model == "unknown" || "redroid".toList.isPrefixOf model.toList ||
    ["generic_x86_64", "generic_arm64", "generic_x86", "generic_arm"].contains model

/-! ### Rows -/

def AdbDevice.isListed (d : AdbDevice) : Bool :=
  d.state == "device" || d.state == "offline" || d.state == "unauthorized"

/-- The criteria by which a container is looked up for a serial. -/
def criteria (serial : String) (c : DockerContainer) : Bool :=
  containsText c.ports serial || containsText serial c.name || portMatch serial c.ports

def matched (containers : List DockerContainer) (serial : String) : Option DockerContainer :=
  containers.find? (criteria serial)

def AdbDevice.title (d : AdbDevice) : String :=
  if d.model ≠ "" then d.model else if d.product ≠ "" then d.product else d.serial

/-- The row of a listed serial. -/
def adbRow (containers : List DockerContainer) (d : AdbDevice) : DeviceInfo :=
  match matched containers d.serial with
  | some c =>
    { id := d.serial
      name := displayInstanceName c.name
      serial := d.serial
      online := d.state == "device"
      adbStatus := d.state
      dockerStatus := c.status
      ip := extractHostFromSerial d.serial
      containerId := c.id
      image := c.image
      startedAt := c.created
      adbPort := ((extractHostPort c.ports).or (parsePortFromSerial d.serial)).getD 5555
      dataVolume := dataVolumeOf c.name
      spoofedModel := if looksUnspoofedModel d.model then none else some d.model }
  | none =>
    { id := d.serial
      name := d.title
      serial := d.serial
      online := d.state == "device"
      adbStatus := d.state
      dockerStatus := "n/a"
      ip := extractHostFromSerial d.serial
      containerId := ""
      image := ""
      startedAt := ""
      adbPort := (parsePortFromSerial d.serial).getD 5555
      dataVolume := ""
      spoofedModel := none }

/-- The serial under which a container without a row is shown. -/
def ownSerial (c : DockerContainer) : String :=
  match extractHostPort c.ports with
  | some port => "127.0.0.1:" ++ toString port
  | none => ""

def containerRow (c : DockerContainer) : DeviceInfo where
  id := c.id
  name := displayInstanceName c.name
  serial := ownSerial c
  online := false
  adbStatus := "disconnected"
  dockerStatus := c.status
  ip := "127.0.0.1"
  containerId := c.id
  image := c.image
  startedAt := c.created
  adbPort := (extractHostPort c.ports).getD 0
  dataVolume := dataVolumeOf c.name
  spoofedModel := none

/-- A row shows the container already. -/
def isShown (devices : List DeviceInfo) (c : DockerContainer) : Bool :=
  devices.any fun d => d.containerId == c.id || portMatch d.serial c.ports

def addContainer (devices : List DeviceInfo) (c : DockerContainer) : List DeviceInfo :=
  if isShown devices c then devices else devices ++ [containerRow c]

def listDevices (adbDevices : List AdbDevice) (containers : List DockerContainer) :
    List DeviceInfo :=
  (containers.filter (·.isRedroid)).foldl addContainer
    ((adbDevices.filter AdbDevice.isListed).map (adbRow containers))

/-- The row that `stop_device`, `restart_device` and `docker exec` act on. -/
def findDeviceLight (rows : List DeviceInfo) (id : String) : Option DeviceInfo :=
  rows.find? fun d => d.id == id || d.serial == id || d.containerId == id

def containerIdFor (rows : List DeviceInfo) (serial : String) : Option String :=
  ((findDeviceLight rows serial).map DeviceInfo.containerId).filter (· != "")

end JustRun.Devices
