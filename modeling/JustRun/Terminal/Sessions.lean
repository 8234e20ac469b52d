import JustRun.Concurrency.Standing
import JustRun.Concurrency.Once
import JustRun.Machine.Text

/-!
# Terminal sessions

`services/terminal_session.rs`: `start`, `stop`, `stop_all` and `write` as programs over one
registry. A start that has registered its session goes on as the reader thread of that session,
up to the end of the child.
-/
namespace JustRun.Terminal
open Machine Concurrency Concurrency.Prog

def maxTerminalSessions : ℕ := 16
def maxTerminalInputBytes : ℕ := 64 * 1024
def maxTerminalOutputBytes : ℕ := 8 * 1024 * 1024
def maxStoppedIds : ℕ := 256

structure TerminalStartRequest where
  kind : String
  serial : String
  shell : String
  deriving DecidableEq

structure TerminalSessionInfo where
  id : String
  kind : String
  title : String
  status : String
  deriving DecidableEq

structure TerminalOutputEvent where
  sessionId : String
  kind : String
  data : String
  status : Option String
  exitCode : Option ℤ
  deriving DecidableEq

structure CommandSpec where
  program : String
  args : List String
  deriving DecidableEq

/-- What the build and the settings decide. -/
structure TerminalHost where
  windows : Bool
  adbBin : String

def validateInput (data : String) : Except String Unit :=
  if maxTerminalInputBytes < byteLength data then
    .error ("terminal input exceeds " ++ toString maxTerminalInputBytes ++ " bytes")
  else .ok ()

def validateRequest (request : TerminalStartRequest) : Except String Unit :=
  match trim request.kind with
  | "device" => if isBlank request.serial then .error "device serial is required" else .ok ()
  | "local" =>
    if trim request.shell = "powershell" ∨ trim request.shell = "cmd" then .ok ()
    else .error "local shell must be powershell or cmd"
  | _ => .error "terminal kind must be device or local"

def localCommand (host : TerminalHost) (shell : String) : Except String CommandSpec :=
  match trim shell with
  | "powershell" =>
    .ok ⟨if host.windows then "powershell.exe" else "pwsh", ["-NoLogo", "-NoProfile"]⟩
  | "cmd" => .ok (if host.windows then ⟨"cmd.exe", ["/Q"]⟩ else ⟨"sh", []⟩)
  | _ => .error "local shell must be powershell or cmd"

/-- The command, the kind of the session and its title. -/
def commandForRequest (host : TerminalHost) (request : TerminalStartRequest) :
    Except String (CommandSpec × String × String) := do
  validateRequest request
  match trim request.kind with
  | "device" =>
    let serial := trim request.serial
    .ok (⟨host.adbBin, ["-s", serial, "shell"]⟩, "device", "ADB Shell · " ++ serial)
  | "local" => do
    let shell := trim request.shell
    let spec ← localCommand host shell
    .ok (spec, "local", if shell = "powershell" then "PowerShell" else "CMD")
  | _ => .error "terminal kind must be device or local"

/-! ### Calls -/

/-- An entry of the registry; writer, killer and flag are those of its child. -/
structure TerminalEntry where
  info : TerminalSessionInfo
  child : ℕ
  deriving DecidableEq

/-- The reads of a session up to its end: their sizes, and the error that ended them, if any. -/
structure Output where
  sizes : List ℕ
  error : Option String
  deriving DecidableEq

inductive TerminalOp where
  /-- `try_reserve_session` and `fetch_sub` on the active counter. -/
  | reserve
  | release
  | newId
  | openPty
  | spawnCommand (spec : CommandSpec)
  | cloneReader (child : ℕ)
  | takeWriter (child : ℕ)
  | kill (child : ℕ)
  | register (id : String) (entry : TerminalEntry)
  /-- The blocking reads of the reader thread. -/
  | read (child : ℕ)
  | wait (child : ℕ)
  | wasFlagged (child : ℕ)
  | flag (child : ℕ)
  | emit (event : TerminalOutputEvent)
  /-- `entries.lock().remove(id)`. -/
  | unregister (id : String)
  | lookup (id : String)
  | writeAll (child : ℕ) (data : String)
  | rememberStopped (id : String)
  | wasStopped (id : String)
  | sessionIds
  deriving DecidableEq

abbrev TerminalRes : TerminalOp → Type
  | .reserve | .wasFlagged _ | .wasStopped _ => Bool
  | .release | .register .. | .flag _ | .emit _ | .rememberStopped _ => Unit
  | .newId => String
  | .openPty | .cloneReader _ | .takeWriter _ | .kill _ | .writeAll .. => Except String Unit
  | .spawnCommand _ => Except String ℕ
  | .read _ => Output
  | .wait _ => Except String ℤ
  | .unregister _ | .lookup _ => Option TerminalEntry
  | .sessionIds => List String

structure TerminalCommandResult where
  success : Bool
  error : String
  deriving DecidableEq

inductive TerminalAnswer where
  | started (info : TerminalSessionInfo)
  | result (result : TerminalCommandResult)
  | done
  deriving DecidableEq

abbrev TerminalProg := Prog TerminalOp TerminalRes String

/-! ### Starting -/

/-- The sizes are added up, and the first read past the bound ends the loop with an error. -/
def overruns : ℕ → List ℕ → Bool
  | _, [] => false
  | used, size :: sizes => maxTerminalOutputBytes - size < used || overruns (used + size) sizes

def exitStatus (stopped : Bool) (readError : Option String) (exit : Except String ℤ) : String :=
  if stopped then "stopped"
  else if readError.isSome || !exit.isOk then "failed"
  else "exited"

/-- The end of the reader thread. -/
def reap (id : String) (child : ℕ) (readError : Option String) : TerminalProg Unit :=
  .call (.wait child) fun exit =>
    .call (.wasFlagged child) fun stopped =>
      .call (.emit ⟨id, "exit", readError.getD "", some (exitStatus stopped readError exit),
          exit.toOption⟩) fun _ =>
        .call (.unregister id) fun _ => .call .release fun _ => .ret ()

def spawnReader (id : String) (child : ℕ) : TerminalProg Unit :=
  .call (.read child) fun output =>
    if overruns 0 output.sizes then
      .call (.kill child) fun _ => reap id child
        (some ("terminal output exceeded " ++ toString maxTerminalOutputBytes ++ " bytes"))
    else reap id child output.error

/-- `active.fetch_sub(1)`, and the error is returned. -/
def failReleasing {α : Type} (error : String) : TerminalProg α := .call .release fun _ => .fail error

def killReleasing {α : Type} (child : ℕ) (error : String) : TerminalProg α :=
  .call (.kill child) fun _ => failReleasing error

def runSession (info : TerminalSessionInfo) (child : ℕ) : TerminalProg TerminalAnswer := do
  .call (.register info.id ⟨info, child⟩) fun _ => spawnReader info.id child
  pure (.started info)

def connect (info : TerminalSessionInfo) (child : ℕ) : TerminalProg TerminalAnswer :=
  .call (.cloneReader child) fun
    | .error error => killReleasing child ("failed to open terminal output: " ++ error)
    | .ok () => .call (.takeWriter child) fun
      | .error error => killReleasing child ("failed to open terminal input: " ++ error)
      | .ok () => runSession info child

def openTerminal (spec : CommandSpec) (kind title : String) : TerminalProg TerminalAnswer :=
  .call .newId fun id => .call .openPty fun
    | .error error => failReleasing ("failed to create terminal: " ++ error)
    | .ok () => .call (.spawnCommand spec) fun
      | .error error => failReleasing ("failed to start terminal: " ++ error)
      | .ok child => connect ⟨id, kind, title, "running"⟩ child

def reserveAndOpen (spec : CommandSpec) (kind title : String) : TerminalProg TerminalAnswer :=
  .call .reserve fun reserved =>
    if reserved then openTerminal spec kind title
    else .fail ("terminal session limit reached (" ++ toString maxTerminalSessions ++ ")")

def start (host : TerminalHost) (request : TerminalStartRequest) : TerminalProg TerminalAnswer := do
  let command ← ofExcept (commandForRequest host request)
  reserveAndOpen command.1 command.2.1 command.2.2

/-! ### Stopping and writing -/

def succeeded : TerminalCommandResult := ⟨true, ""⟩

def notFound : TerminalCommandResult := ⟨false, "terminal session not found"⟩

def stop (id : String) : TerminalProg TerminalCommandResult :=
  .call (.unregister id) fun
    | none => .call (.wasStopped id) fun stopped => .ret (if stopped then succeeded else notFound)
    | some entry => .call (.flag entry.child) fun _ => .call (.kill entry.child) fun
      | .ok () => .call (.rememberStopped id) fun _ => .ret succeeded
      | .error error => .ret ⟨false, error⟩

def stopEach : List String → TerminalProg Unit
  | [] => .ret ()
  | id :: ids => do
    let _ ← stop id
    stopEach ids

def stopAll : TerminalProg Unit := .call .sessionIds fun ids => stopEach ids

def write (id data : String) : TerminalProg TerminalCommandResult :=
  match validateInput data with
  | .error error => .ret ⟨false, error⟩
  | .ok () => .call (.lookup id) fun
    | none => .ret notFound
    | some entry => .call (.writeAll entry.child data) fun
      | .ok () => .ret succeeded
      | .error error => .ret ⟨false, error⟩

inductive TerminalRequest where
  | start (request : TerminalStartRequest)
  | stop (id : String)
  | stopAll
  | write (id data : String)
  deriving DecidableEq

def handler (host : TerminalHost) : TerminalRequest → TerminalProg TerminalAnswer
  | .start request => start host request
  | .stop id => .result <$> stop id
  | .stopAll => (fun _ => .done) <$> stopAll
  | .write id data => .result <$> write id data

/-! ### The registry -/

/-- `children` is the number of children spawned so far, `ended` those of them that have ended. -/
structure TerminalRegistry where
  entries : List (String × TerminalEntry)
  stopped : List String
  active : UInt64
  flags : List ℕ
  children : ℕ
  ended : List (ℕ × ℤ)
  events : List TerminalOutputEvent
  deriving DecidableEq

/-- Whether a call fails, what is drawn and what is read. -/
structure TerminalChoice where
  fault : Option String
  id : String
  output : Output

/-- `remember_stopped`. -/
def rememberStopped (stopped : List String) (id : String) : List String :=
  let kept := stopped.filter (· ≠ id) ++ [id]
  kept.drop (kept.length - maxStoppedIds)

namespace TerminalRegistry
variable (s : TerminalRegistry)

def attempt (choice : TerminalChoice) : Except String Unit :=
  match choice.fault with
  | some error => .error error
  | none => .ok ()

/-- A wait returns when the child has ended, or fails. -/
def awaitEnd (choice : TerminalChoice) (child : ℕ) : Option (Except String ℤ) :=
  match choice.fault with
  | some error => some (.error error)
  | none => (s.ended.lookup child).map .ok

def exec (choice : TerminalChoice) : (op : TerminalOp) → Option (TerminalRes op × TerminalRegistry)
  | .reserve => some (if s.active.toNat < maxTerminalSessions
      then (true, { s with active := s.active + 1 }) else (false, s))
  | .release => some ((), { s with active := s.active - 1 })
  | .newId => some (choice.id, s)
  | .openPty | .cloneReader _ | .takeWriter _ | .kill _ | .writeAll .. => some (attempt choice, s)
  | .spawnCommand _ => some (match choice.fault with
    | some error => (.error error, s)
    | none => (.ok s.children, { s with children := s.children + 1 }))
  | .register id entry =>
    some ((), { s with entries := s.entries.filter (·.1 ≠ id) ++ [(id, entry)] })
  | .read _ => some (choice.output, s)
  | .wait child => (s.awaitEnd choice child).map fun exit => (exit, s)
  | .wasFlagged child => some (decide (child ∈ s.flags), s)
  | .flag child => some ((), { s with flags := child :: s.flags })
  | .emit event => some ((), { s with events := s.events ++ [event] })
  | .unregister id =>
    some (s.entries.lookup id, { s with entries := s.entries.filter (·.1 ≠ id) })
  | .lookup id => some (s.entries.lookup id, s)
  | .rememberStopped id => some ((), { s with stopped := Terminal.rememberStopped s.stopped id })
  | .wasStopped id => some (decide (id ∈ s.stopped), s)
  | .sessionIds => some (s.entries.map Prod.fst, s)

end TerminalRegistry

/-- A child ends by itself or because it was killed. -/
structure ChildExit where
  child : ℕ
  code : ℤ

def ChildExit.apply (e : ChildExit) (s : TerminalRegistry) : TerminalRegistry :=
  { s with ended := (e.child, e.code) :: s.ended }

/-- All calls on one registry, with the reader threads they leave behind. -/
def terminals (host : TerminalHost) : System TerminalRegistry TerminalRequest TerminalOp TerminalRes
    String TerminalAnswer TerminalChoice ChildExit where
  handler := handler host
  exec choice s op := s.exec choice op
  env e s := e.apply s

abbrev TerminalWorld :=
  World TerminalRegistry TerminalRequest TerminalOp TerminalRes String TerminalAnswer

abbrev TerminalAction := Action TerminalRequest TerminalChoice ChildExit

/-- `TerminalRegistry::default()`. -/
def fresh : TerminalWorld := .init ⟨[], [], 0, [], 0, [], []⟩

end JustRun.Terminal
