import JustRun.Desktop.Leases
import JustRun.Concurrency.Interleaving

/-!
# The process-wide active session

Acquisitions, heartbeats and local revocations share `ACTIVE_SESSION`. The lock is
held for one read or one write at a time, never during an exchange with the server,
so a run interleaves the calls of any number of them.
-/
namespace JustRun.Desktop
open Machine Authorization Concurrency Concurrency.Prog

/-- `configured_runtime_client`: the store or the transport may not open. -/
def configuredRuntimeClient (deployment : AuthorizationClient) : ClientProg AuthorizationClient := do
  ask .configure
  pure { deployment with session := none }

def runtimeAcquireCapabilities (deployment : AuthorizationClient)
    (capabilities : List ProtectedCapability) : ClientProg AuthorizationSession := do
  let client ← configuredRuntimeClient deployment
  let session ← client.acquireSession capabilities
  ask (.writeActive session)
  pure session

/-- The session covers these capabilities at `now`. -/
def AuthorizationSession.covers (session : AuthorizationSession) (now : ℤ)
    (capabilities : List ProtectedCapability) : Bool :=
  session.lease.claims.exp > now && capabilities.all session.lease.claims.capabilities.contains

def runtimeEnsureCapabilities (deployment : AuthorizationClient)
    (capabilities : List ProtectedCapability) : ClientProg AuthorizationSession := do
  let active ← ask .readActive
  match active with
  | none => runtimeAcquireCapabilities deployment capabilities
  | some session =>
    let now ← session.leaseClock.now
    if session.covers now capabilities then pure session
    else runtimeAcquireCapabilities deployment capabilities

def runtimeHeartbeat (deployment : AuthorizationClient) : ClientProg AuthorizationSession := do
  let active ← ask .readActive
  let current ← orReject active .leaseExpired
  let client ← configuredRuntimeClient deployment
  let session ← { client with session := some current }.heartbeat
  ask (.writeActive session)
  pure session

def runtimeRevokeLocal : ClientProg Unit := ask .takeActive

inductive RuntimeRequest where
  | acquire (capabilities : List ProtectedCapability)
  | ensure (capabilities : List ProtectedCapability)
  | heartbeat
  | revokeLocal
  deriving DecidableEq

/-- A completed request of this kind may install a session of its own. -/
def RuntimeRequest.acquires : RuntimeRequest → Bool
  | acquire _ | ensure _ => true
  | heartbeat | revokeLocal => false

def RuntimeRequest.program (deployment : AuthorizationClient) :
    RuntimeRequest → ClientProg (Option AuthorizationSession)
  | acquire capabilities => do return some (← runtimeAcquireCapabilities deployment capabilities)
  | ensure capabilities => do return some (← runtimeEnsureCapabilities deployment capabilities)
  | heartbeat => do return some (← runtimeHeartbeat deployment)
  | revokeLocal => do
    runtimeRevokeLocal
    return none

/-- The requests of one process. -/
def runtime (deployment : AuthorizationClient) :
    System State RuntimeRequest Call Result AuthorizationError (Option AuthorizationSession) Choice
      Empty where
  handler := RuntimeRequest.program deployment
  exec choice s call := s.exec choice call
  env move := nomatch move

abbrev RuntimeWorld :=
  World State RuntimeRequest Call Result AuthorizationError (Option AuthorizationSession)

abbrev RuntimeAction := Action RuntimeRequest Choice Empty

/-- The process starts without a session. -/
def started (files : FilePath → Option (List UInt8)) : RuntimeWorld := .init ⟨none, files⟩

/-- What the calls of a request are preceded by. -/
def RuntimeAllowed (request : RuntimeRequest) (h : History) : Call → Prop
  | .takeActive => request = .revokeLocal
  | .writeActive _ => request.acquires = true ∨
    request = .heartbeat ∧ ∃ current, Answered h .readActive (some current)
  | _ => True

theorem runtimeAllowed_of_unchanged {request : RuntimeRequest} {h : History} {call : Call}
    (hc : call.changes = false) : RuntimeAllowed request h call := by
  cases call with
  | writeActive | takeActive => cases hc
  | _ => trivial

section Requests
variable {request : RuntimeRequest} {deployment : AuthorizationClient}

theorem runtimeAcquireCapabilities_meets (ha : request.acquires = true)
    (capabilities : List ProtectedCapability) (h : History) :
    (runtimeAcquireCapabilities deployment capabilities).Meets (RuntimeAllowed request)
      (fun _ _ => True) h := by
  have he : ∀ (_ : History) (_ : AuthorizationError), True := fun _ _ => trivial
  simp only [runtimeAcquireCapabilities, configuredRuntimeClient, bind_assoc, pure_bind]
  refine meets_ask he trivial fun _ _ => ?_
  have hacquire : (AuthorizationClient.acquireSession { deployment with session := none }
      capabilities).Meets (RuntimeAllowed request) (fun _ _ => True) (h ++ [⟨.configure, .ok ()⟩]) :=
    (acquireSession_meets { deployment with session := none } capabilities _).mono
    (fun _ _ _ hc => runtimeAllowed_of_unchanged hc) (fun _ _ _ _ => trivial)
  refine hacquire.bind (fun h' session _ _ => ?_) (fun _ _ _ _ => trivial)
  exact meets_ask he (.inl ha) fun _ _ => trivial

theorem runtimeEnsureCapabilities_meets (ha : request.acquires = true)
    (capabilities : List ProtectedCapability) (h : History) :
    (runtimeEnsureCapabilities deployment capabilities).Meets (RuntimeAllowed request)
      (fun _ _ => True) h := by
  have he : ∀ (_ : History) (_ : AuthorizationError), True := fun _ _ => trivial
  refine meets_ask he trivial fun active _ => ?_
  cases active with
  | none => exact runtimeAcquireCapabilities_meets ha capabilities _
  | some session =>
    simp only [LeaseClock.now, bind_assoc]
    refine meets_ask he trivial fun instant _ => meets_check he fun now _ => ?_
    split
    · trivial
    · exact runtimeAcquireCapabilities_meets ha capabilities _

theorem runtimeHeartbeat_meets :
    (runtimeHeartbeat deployment).Meets (RuntimeAllowed .heartbeat) (fun _ _ => True) [] := by
  have he : ∀ (_ : History) (_ : AuthorizationError), True := fun _ _ => trivial
  simp only [runtimeHeartbeat, configuredRuntimeClient, bind_assoc, pure_bind]
  refine meets_ask he trivial fun active hactive => meets_present he fun current hcurrent => ?_
  subst hcurrent
  refine meets_ask he trivial fun _ _ => ?_
  have hheartbeat : (AuthorizationClient.heartbeat { deployment with session := some current }).Meets
      (RuntimeAllowed .heartbeat) (fun _ _ => True)
      ([] ++ [⟨.readActive, .ok (some current)⟩] ++ [⟨.configure, .ok ()⟩]) :=
    (heartbeat_meets { deployment with session := some current } _).mono
    (fun _ _ _ hc => runtimeAllowed_of_unchanged hc) (fun _ _ _ _ => trivial)
  refine hheartbeat.bind (fun h' session hh _ => ?_) (fun _ _ _ _ => trivial)
  have hread : Answered h' .readActive (some current) :=
    hactive.mono ((List.prefix_append _ _).trans hh)
  exact meets_ask he (.inr ⟨rfl, current, hread⟩) fun _ _ => trivial

theorem runtime_meets (deployment : AuthorizationClient) (request : RuntimeRequest) :
    ((runtime deployment).handler request).Meets (RuntimeAllowed request) (fun _ _ => True) [] := by
  have he : ∀ (_ : History) (_ : AuthorizationError), True := fun _ _ => trivial
  cases request with
  | acquire capabilities =>
    exact (runtimeAcquireCapabilities_meets rfl capabilities []).bind (fun _ _ _ _ => trivial)
      (fun _ _ _ _ => trivial)
  | ensure capabilities =>
    exact (runtimeEnsureCapabilities_meets rfl capabilities []).bind (fun _ _ _ _ => trivial)
      (fun _ _ _ _ => trivial)
  | heartbeat => exact runtimeHeartbeat_meets.bind (fun _ _ _ _ => trivial) (fun _ _ _ _ => trivial)
  | revokeLocal => exact meets_ask he rfl fun _ _ => trivial

end Requests
end JustRun.Desktop
