import JustRun.Concurrency.Interleaving
import JustRun.Qemu.Redroid
import JustRun.Runtime.Scheduler

/-!
# The commands of the runtime

`commands/mod.rs`: the handlers that start, mark, release and hibernate instances, as programs
over their sections. What a handler does while it holds the lock of the scheduler is one call;
between two calls the probes, the other handlers and the nodes do as they like.
-/
namespace JustRun.Runtime
open Machine Concurrency

/-! ### Pure decisions -/

def shouldBlockRuntimeStart (pressure : MemoryPressure) (otherStartInFlight : Bool) : Bool :=
  pressure == .critical || (pressure == .unknown && otherStartInFlight)

def shouldAttemptCriticalGuestReclaim (pressure : MemoryPressure)
    (otherStartInFlight autoReleaseIdleOnCritical : Bool) : Bool :=
  autoReleaseIdleOnCritical && pressure == .critical && !otherStartInFlight

/-- What a listing tells of an instance. -/
structure ListedInstance where
  instanceName : String
  status : String
  deriving DecidableEq

def isRunningStatus (status : String) : Bool :=
  let normalized := (trim status).toLower
  normalized == "running" || "up ".toList.isPrefixOf normalized.toList || normalized == "up"

def selectIdleReclaimCandidate (rows : List ListedInstance) (reclaimable : List String)
    (targetInstance : String) : Option String :=
  reclaimable.findSome? fun candidate =>
    if candidate = targetInstance then none
    else match rows.find? (·.instanceName == candidate) with
      | none => none
      | some row => if isRunningStatus row.status then some row.instanceName else none

def shouldStopVmAfterIdleRelease (keepVmWarm : Bool) (rows : Option (List ListedInstance))
    (releasedInstance : String) : Bool :=
  if keepVmWarm then false
  else match rows with
    | none => false
    | some rows => (rows.filter (·.instanceName != releasedInstance)).all fun row =>
      let status := trim row.status
      status != "" && status.toLower != "unknown" && !isRunningStatus status

def keepVmWarmForPressure (keepVmWarm : Bool) (pressure : MemoryPressure) : Bool :=
  keepVmWarm && pressure != .critical

def parseActivityKind (value : String) : Except String ActivityKind :=
  match (trim value).toLower with
  | "user_window" | "userwindow" => .ok .userWindow
  | "adb" => .ok .adb
  | "stream" => .ok .stream
  | "recording" => .ok .recording
  | "transfer" => .ok .transfer
  | "automation" => .ok .automation
  | other => .error ("unknown runtime activity kind: " ++ other.quote)

def isValidAndroidPackage (package : String) : Bool :=
  let package := trim package
  package != "" && (splitOn '.' package).all fun part =>
    part != "" && part.toList.all fun c => c.isAlphanum || c == '_'

/-! ### Calls -/

/-- An instance on a node; `clear_instance` and `mark_activity` get the name alone. -/
abbrev Placed := StartRequest

structure CliOutput where
  success : Bool
  stderr : String
  deriving DecidableEq

inductive RuntimeOp where
  /-- `SystemTime::now()`. -/
  | clock
  /-- `read_runtime_resource_snapshot` and `classify_memory_pressure`. -/
  | probe
  /-- The first section of `runtime_request_start`. -/
  | gate (request : StartRequest) (pressure : MemoryPressure)
  /-- Its section after an attempt to free memory. -/
  | regate (request : StartRequest) (pressure : MemoryPressure)
  /-- Its wait for a turn; the turn of the loop that ends it. -/
  | awaitTurn (request : StartRequest) (deadline : ℕ)
  /-- Its section on critical pressure after the wait. -/
  | abandon (request : StartRequest)
  /-- `redroid_start`. -/
  | start (request : StartRequest)
  /-- Its last section. -/
  | settle (request : StartRequest) (result : Except String CliOutput)
  /-- `vm_memory_reclaim`. -/
  | reclaimGuest (vm : String)
  /-- The first section of `try_auto_release_idle_instance`. -/
  | beginReclaim (vm : String) (now : SystemTime)
  /-- Its last section. -/
  | endReclaim (released : Option Placed)
  /-- `redroid_list_basic`. -/
  | list (vm : String)
  /-- `redroid_stop`. -/
  | stop (container : Placed)
  /-- The section of `runtime_release_idle` and `runtime_hibernate_app`. -/
  | checkIdle (container : Placed) (now : SystemTime)
  /-- `vm_stop`. -/
  | stopVm (vm : String)
  /-- The last section of `runtime_release_idle`. -/
  | clear (container : Placed)
  /-- The section of `runtime_mark_activity`. -/
  | mark (container : Placed) (kind : ActivityKind)
  /-- The device side of `runtime_hibernate_app`. -/
  | closeApp (container : Placed) (serial package : String)
  deriving DecidableEq

inductive GateReply where
  | blocked (otherStartInFlight autoRelease : Bool)
  | decided (decision : StartDecision) (deadline : ℕ)
  deriving DecidableEq

inductive TurnReply where
  | starting
  | cancelled
  | timedOut
  deriving DecidableEq

inductive IdleReply where
  | idle (keepVmWarm : Bool)
  | kept (isProtected : Bool)
  deriving DecidableEq

abbrev RuntimeRes : RuntimeOp → Type
  | .clock => SystemTime
  | .probe => MemoryPressure
  | .gate _ _ | .regate _ _ => GateReply
  | .awaitTurn _ _ => TurnReply
  | .settle _ _ => StartDecision
  | .start _ | .stop _ | .stopVm _ => Except String CliOutput
  | .reclaimGuest _ => Bool
  | .beginReclaim _ _ => Option (List String)
  | .list _ => Option (List ListedInstance)
  | .checkIdle _ _ => IdleReply
  | .closeApp _ _ _ => Bool × String
  | .abandon _ | .endReclaim _ | .clear _ | .mark _ _ => Unit

abbrev RuntimeProg (α : Type) := Prog RuntimeOp RuntimeRes String α

abbrev act (op : RuntimeOp) : RuntimeProg (RuntimeRes op) := .call op .ret

/-! ### Handlers -/

inductive RuntimeAnswer where
  | decision (decision : StartDecision)
  | release (instanceName : String) (released : Bool) (reason : String)
  | hibernate (instanceName : String) (released : Bool) (reason : String)
  | marked
  deriving DecidableEq

def stopCandidate (vm : String) : Option String → RuntimeProg (Option Placed)
  | none => return none
  | some candidate => do
    match ← act (.stop ⟨vm, candidate⟩) with
    | .error _ => return none
    | .ok output => return if output.success then some ⟨vm, candidate⟩ else none

def releaseCandidate (vm targetInstance : String) (candidates : List String) :
    RuntimeProg (Option Placed) := do
  match ← act (.list vm) with
  | none => return none
  | some rows => stopCandidate vm (selectIdleReclaimCandidate rows candidates targetInstance)

def tryAutoReleaseIdleInstance (vm targetInstance : String) (now : SystemTime) :
    RuntimeProg Bool := do
  match ← act (.beginReclaim vm now) with
  | none => return false
  | some candidates =>
    let released ← releaseCandidate vm targetInstance candidates
    act (.endReclaim released)
    return released.isSome

/-- The pressure after an attempt to shrink the guest. -/
def reprobeAfterGuestReclaim (vm : String) (pressure : MemoryPressure) (other auto : Bool) :
    RuntimeProg MemoryPressure :=
  if shouldAttemptCriticalGuestReclaim pressure other auto then do
    match ← act (.reclaimGuest vm) with
    | true => act .probe
    | false => return pressure
  else return pressure

/-- The pressure after an attempt to release an idle instance. -/
def reprobeAfterIdleRelease (request : StartRequest) (pressure : MemoryPressure)
    (other auto : Bool) : RuntimeProg MemoryPressure :=
  if pressure == .critical && !other && auto then do
    let now ← act .clock
    match ← tryAutoReleaseIdleInstance request.vm request.instanceName now with
    | true => act .probe
    | false => return pressure
  else return pressure

/-- The turn has come: the pressure is probed once more. -/
def launch (request : StartRequest) : RuntimeProg RuntimeAnswer := do
  let pressure ← act .probe
  if pressure == .critical then do
    act (.abandon request)
    return .decision (.blocked pressure)
  else do
    let result ← act (.start request)
    let decision ← act (.settle request result)
    return .decision decision

def runTurn (request : StartRequest) (decision : StartDecision) (deadline : ℕ) :
    RuntimeProg RuntimeAnswer :=
  match decision with
  | .starting => launch request
  | .queued => do
    match ← act (.awaitTurn request deadline) with
    | .starting => launch request
    | .cancelled => return .decision (.failed "start queue entry was cancelled")
    | .timedOut => return .decision (.failed "start queue timed out")
  | decision => return .decision decision

def runtimeRequestStart (request : StartRequest) : RuntimeProg RuntimeAnswer := do
  let pressure ← act .probe
  match ← act (.gate request pressure) with
  | .decided decision deadline => runTurn request decision deadline
  | .blocked other auto =>
    let pressure ← reprobeAfterGuestReclaim request.vm pressure other auto
    let pressure ← reprobeAfterIdleRelease request pressure other auto
    match ← act (.regate request pressure) with
    | .decided decision deadline => runTurn request decision deadline
    | .blocked _ _ => return .decision (.blocked pressure)

def reprobeWarm (keepVmWarm : Bool) : RuntimeProg Bool :=
  if keepVmWarm then do
    let pressure ← act .probe
    return keepVmWarmForPressure true pressure
  else return false

/-- The node is stopped where the listing shows nothing at work; the answer is what went wrong. -/
def stopEmptyVm (container : Placed) (remaining : Option (List ListedInstance)) :
    RuntimeProg (Option String) :=
  if shouldStopVmAfterIdleRelease false remaining container.instanceName then do
    match ← act (.stopVm container.vm) with
    | .ok output =>
      return if output.success then none else some ("node_stop_failed: " ++ trim output.stderr)
    | .error error => return some ("node_stop_failed: " ++ error)
  else return none

def stopVmAfterRelease (container : Placed) (keepVmWarm : Bool) : RuntimeProg (Option String) :=
  if keepVmWarm then return none
  else do
    let remaining ← act (.list container.vm)
    stopEmptyVm container remaining

def finishRelease (container : Placed) (keepVmWarm : Bool) : RuntimeProg RuntimeAnswer := do
  match ← stopVmAfterRelease container keepVmWarm with
  | some reason => return .release container.instanceName false reason
  | none => do
    act (.clear container)
    return .release container.instanceName true "idle"

def stopIdle (container : Placed) (keepVmWarm : Bool) : RuntimeProg RuntimeAnswer := do
  match ← act (.stop container) with
  | .error error => return .release container.instanceName false ("stop_failed: " ++ error)
  | .ok output =>
    if output.success then finishRelease container keepVmWarm
    else return .release container.instanceName false ("stop_failed: " ++ trim output.stderr)

def keptReason (isProtected : Bool) : String :=
  if isProtected then "protected" else "active_or_unknown"

def runtimeReleaseIdle (container : Placed) : RuntimeProg RuntimeAnswer := do
  let now ← act .clock
  match ← act (.checkIdle container now) with
  | .kept isProtected => return .release container.instanceName false (keptReason isProtected)
  | .idle keepVmWarmPreference =>
    let keepVmWarm ← reprobeWarm keepVmWarmPreference
    stopIdle container keepVmWarm

def runtimeMarkActivity (container : Placed) (kind : String) : RuntimeProg RuntimeAnswer := do
  let kind ← Prog.ofExcept (parseActivityKind kind)
  act (.mark container kind)
  return .marked

def runtimeHibernateApp (container : Placed) (serial package : String) :
    RuntimeProg RuntimeAnswer :=
  if !isValidAndroidPackage package then
    return .hibernate container.instanceName false "invalid_package"
  else do
    let now ← act .clock
    match ← act (.checkIdle container now) with
    | .kept isProtected => return .hibernate container.instanceName false (keptReason isProtected)
    | .idle _ =>
      let (released, reason) ← act (.closeApp container serial (trim package))
      return .hibernate container.instanceName released reason

inductive RuntimeRequest where
  | requestStart (request : StartRequest)
  | releaseIdle (container : Placed)
  | markActivity (container : Placed) (kind : String)
  | hibernateApp (container : Placed) (serial package : String)
  deriving DecidableEq

def RuntimeRequest.handler : RuntimeRequest → RuntimeProg RuntimeAnswer
  | .requestStart request => runtimeRequestStart request
  | .releaseIdle container => runtimeReleaseIdle container
  | .markActivity container kind => runtimeMarkActivity container kind
  | .hibernateApp container serial package => runtimeHibernateApp container serial package

/-! ### Sections -/

/-- The scheduler and what surrounds it: the stored settings, the two clocks, and on each node
the instances with an assigned port and the containers with their status. -/
structure RuntimeState where
  scheduler : SchedulerState
  settings : LifecyclePolicy
  now : SystemTime
  uptime : ℕ
  assignments : String → List String
  containers : String → List (String × Qemu.ContainerStatus)

/-- `RUNTIME_START_QUEUE_TIMEOUT`. -/
def startQueueTimeout : ℕ := 15 * 60 * 10 ^ 9

/-- How a status comes out of a listing: the guest may not answer, or leave it out. -/
inductive StatusShown where
  | text
  | blank
  | unknown

/-- What is outside decides what a probe shows and how a command ends. -/
structure RuntimeChoice where
  pressure : MemoryPressure
  result : Except String CliOutput
  shown : String → StatusShown

namespace RuntimeState

/-- `runtime_policy`. -/
def runtimePolicy (s : RuntimeState) : LifecyclePolicy := s.settings.withStart

/-- `scheduler.update_policy(runtime_policy())`. -/
def refreshed (s : RuntimeState) : SchedulerState := s.scheduler.updatePolicy s.runtimePolicy

def withScheduler (s : RuntimeState) (scheduler : SchedulerState) : RuntimeState :=
  { s with scheduler := scheduler }

def status? (s : RuntimeState) (vm name : String) : Option Qemu.ContainerStatus :=
  (s.containers vm).lookup name

/-- The row of an instance in a listing of its node. -/
def row (s : RuntimeState) (vm : String) (shown : String → StatusShown) (name : String) :
    ListedInstance :=
  ⟨name, match s.status? vm name, shown name with
    | some status, .text => status.text
    | some _, .blank => ""
    | _, _ => "unknown"⟩

def listing (s : RuntimeState) (vm : String) (choice : RuntimeChoice) :
    Option (List ListedInstance) :=
  match choice.result with
  | .ok _ => some ((s.assignments vm).map (s.row vm choice.shown))
  | .error _ => none

def gate (s : RuntimeState) (scheduler : SchedulerState) (request : StartRequest)
    (pressure : MemoryPressure) : GateReply × SchedulerState :=
  let other := scheduler.hasOtherStart request
  if shouldBlockRuntimeStart pressure other then
    (.blocked other scheduler.policy.autoReleaseIdleOnCritical, scheduler)
  else
    let (decision, scheduler) := scheduler.requestStart request
    (.decided decision (s.uptime + startQueueTimeout), scheduler)

/-- `finish_start` and `promote_next_start`. -/
def finishAndPromote (scheduler : SchedulerState) (request : StartRequest) (success : Bool) :
    StartDecision × SchedulerState :=
  let (decision, scheduler) := scheduler.finishStart request success
  (decision, scheduler.promoteNextStart.2)

def settle (s : RuntimeState) (request : StartRequest) :
    Except String CliOutput → StartDecision × SchedulerState
  | .ok output =>
    if output.success then
      finishAndPromote (s.scheduler.markActivity request.instanceName .userWindow s.now) request true
    else (.failed (trim output.stderr), (finishAndPromote s.scheduler request false).2)
  | .error error => (.failed error, (finishAndPromote s.scheduler request false).2)

def beginReclaim (scheduler : SchedulerState) (now : SystemTime) :
    Option (List String) × SchedulerState :=
  if !scheduler.policy.autoReleaseIdleOnCritical then (none, scheduler)
  else match scheduler.beginReclaim with
    | (false, scheduler) => (none, scheduler)
    | (true, scheduler) => (some (scheduler.reclaimableInstances now), scheduler)

def endReclaim (scheduler : SchedulerState) : Option Placed → SchedulerState
  | some container => scheduler.finishReclaim.clearInstance container.instanceName
  | none => scheduler.finishReclaim

def checkIdle (scheduler : SchedulerState) (instanceName : String) (now : SystemTime) : IdleReply :=
  if scheduler.isReclaimable instanceName now then .idle scheduler.policy.keepVmWarm
  else .kept (scheduler.policy.protectedInstanceIds.contains instanceName)

def awaitTurn (s : RuntimeState) (request : StartRequest) (deadline : ℕ) :
    Option (TurnReply × SchedulerState) :=
  if s.scheduler.isStarting request then some (.starting, s.scheduler)
  else if !s.scheduler.isQueued request then some (.cancelled, s.scheduler)
  else if deadline ≤ s.uptime then some (.timedOut, (s.scheduler.cancelQueuedStart request).2)
  else none

def exec (choice : RuntimeChoice) (s : RuntimeState) :
    (op : RuntimeOp) → Option (RuntimeRes op × RuntimeState)
  | .clock => some (s.now, s)
  | .probe => some (choice.pressure, s)
  | .gate request pressure => some ((s.gate s.refreshed request pressure).map id s.withScheduler)
  | .regate request pressure => some ((s.gate s.scheduler request pressure).map id s.withScheduler)
  | .awaitTurn request deadline => (s.awaitTurn request deadline).map (Prod.map id s.withScheduler)
  | .abandon request =>
    some ((), s.withScheduler (finishAndPromote s.scheduler request false).2)
  | .start _ | .stop _ | .stopVm _ => some (choice.result, s)
  | .settle request result => some ((s.settle request result).map id s.withScheduler)
  | .reclaimGuest _ => some (match choice.result with
    | .ok output => output.success
    | .error _ => false, s)
  | .beginReclaim _ now => some ((beginReclaim s.refreshed now).map id s.withScheduler)
  | .endReclaim released => some ((), s.withScheduler (endReclaim s.scheduler released))
  | .list vm => some (s.listing vm choice, s)
  | .checkIdle container now => some (checkIdle s.refreshed container.instanceName now,
    s.withScheduler s.refreshed)
  | .clear container =>
    some ((), s.withScheduler (s.scheduler.clearInstance container.instanceName))
  | .mark container kind =>
    some ((), s.withScheduler (s.refreshed.markActivity container.instanceName kind s.now))
  | .closeApp _ _ _ => some (match choice.result with
    | .ok output => (output.success, output.stderr)
    | .error error => (false, error), s)

end RuntimeState

/-- What is not a handler: the settings are saved, time passes and the wall clock is set, and
the nodes change. -/
inductive RuntimeMove where
  | saveSettings (settings : LifecyclePolicy)
  | setClock (now : SystemTime)
  | wait (duration : ℕ)
  | assign (vm : String) (names : List String)
  | turn (vm name : String) (status : Option Qemu.ContainerStatus)

/-- A container turns to this status, or is gone. -/
def turnContainer (containers : List (String × Qemu.ContainerStatus)) (name : String) :
    Option Qemu.ContainerStatus → List (String × Qemu.ContainerStatus)
  | some status => (name, status) :: containers.filter (·.1 != name)
  | none => containers.filter (·.1 != name)

def RuntimeMove.apply (s : RuntimeState) : RuntimeMove → RuntimeState
  | saveSettings settings => { s with settings := settings }
  | setClock now => { s with now := now }
  | wait duration => { s with uptime := s.uptime + duration }
  | assign vm names => { s with assignments := Function.update s.assignments vm names }
  | turn vm name status => { s with
      containers := Function.update s.containers vm (turnContainer (s.containers vm) name status) }

abbrev RuntimeAction := Action RuntimeRequest RuntimeChoice RuntimeMove

abbrev RuntimeWorld := World RuntimeState RuntimeRequest RuntimeOp RuntimeRes String RuntimeAnswer

/-- The handlers of the runtime with what surrounds them. -/
def runtime : System RuntimeState RuntimeRequest RuntimeOp RuntimeRes String RuntimeAnswer
    RuntimeChoice RuntimeMove where
  handler := RuntimeRequest.handler
  exec := RuntimeState.exec
  env := fun move s => move.apply s

/-- The application has just started, with these settings. -/
def launched (settings : LifecyclePolicy) (now : SystemTime) (uptime : ℕ) : RuntimeWorld :=
  .init { scheduler := .withPolicy .default
          settings := settings
          now := now
          uptime := uptime
          assignments := fun _ => []
          containers := fun _ => [] }

/-- Memory is free, commands succeed and listings are complete. -/
def smooth : RuntimeChoice where
  pressure := .normal
  result := .ok ⟨true, ""⟩
  shown := fun _ => .text

/-- A handler starts and makes this many calls. -/
def serve (pid : ℕ) (request : RuntimeRequest) (calls : ℕ) : List RuntimeAction :=
  .spawn pid request :: List.replicate calls (.exec pid smooth)

end JustRun.Runtime
