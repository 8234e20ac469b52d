import JustRun.Machine.Transcript

/-!
# The start scheduler

`runtime_scheduler.rs`: starts are admitted up to a limit and one for each VM at a time,
the others wait in a queue. The scheduler also keeps when an instance was last active.
-/
namespace JustRun.Runtime
open Machine

structure LifecyclePolicy where
  idleTimeoutMinutes : UInt32
  keepVmWarm : Bool
  maxParallelStarts : UInt32
  protectedInstanceIds : List String
  autoReleaseIdleOnCritical : Bool
  deriving DecidableEq

def LifecyclePolicy.default : LifecyclePolicy where
  idleTimeoutMinutes := 30
  keepVmWarm := false
  maxParallelStarts := 1
  protectedInstanceIds := []
  autoReleaseIdleOnCritical := true

/-- `policy.max_parallel_starts = policy.max_parallel_starts.max(1)`. -/
def LifecyclePolicy.withStart (policy : LifecyclePolicy) : LifecyclePolicy :=
  { policy with maxParallelStarts := max policy.maxParallelStarts 1 }

inductive MemoryPressure where
  | normal
  | caution
  | critical
  | unknown
  deriving DecidableEq

inductive ActivityKind where
  | userWindow
  | adb
  | stream
  | recording
  | transfer
  | automation
  deriving DecidableEq

inductive StartDecision where
  | starting
  | ready
  | queued
  | blocked (pressure : MemoryPressure)
  | failed (reason : String)
  deriving DecidableEq

/-- Nanoseconds since the epoch. -/
abbrev SystemTime := ℕ

structure ActivityRecord where
  instanceName : String
  kind : ActivityKind
  time : SystemTime
  deriving DecidableEq

structure StartRequest where
  vm : String
  instanceName : String
  deriving DecidableEq

def r13 : StartRequest := ⟨"node1", "r13"⟩

def r1 : StartRequest := ⟨"node2", "r1"⟩

def r2 : StartRequest := ⟨"node3", "r2"⟩

structure SchedulerState where
  policy : LifecyclePolicy
  startsInFlight : UInt32
  starting : List StartRequest
  queuedStarts : List StartRequest
  activities : List ActivityRecord
  reclaimInFlight : Bool
  deriving DecidableEq

/-- `u32::saturating_sub(1)`. -/
def saturatingPred (n : UInt32) : UInt32 := if n = 0 then 0 else n - 1

namespace SchedulerState

def withPolicy (policy : LifecyclePolicy) : SchedulerState where
  policy := policy.withStart
  startsInFlight := 0
  starting := []
  queuedStarts := []
  activities := []
  reclaimInFlight := false

variable (s : SchedulerState)

def updatePolicy (policy : LifecyclePolicy) : SchedulerState := { s with policy := policy.withStart }

/-- `starting.iter().any(|request| request.vm == vm)`. -/
def vmStarting (vm : String) : Bool := s.starting.any (·.vm == vm)

/-- A slot is free, and no start of the VM is in flight. -/
def Admissible (vm : String) : Prop :=
  s.startsInFlight < s.policy.maxParallelStarts ∧ s.vmStarting vm = false

instance (vm : String) : Decidable (s.Admissible vm) := inferInstanceAs (Decidable (_ ∧ _))

/-- A request takes its turn. -/
def beginStart (request : StartRequest) : SchedulerState :=
  { s with startsInFlight := s.startsInFlight + 1, starting := s.starting ++ [request] }

def requestStart (request : StartRequest) : StartDecision × SchedulerState :=
  if request ∈ s.starting ∨ request ∈ s.queuedStarts then
    (.failed ("start already tracked for VM " ++ request.vm ++ " instance " ++
      request.instanceName), s)
  else if s.startsInFlight ≥ s.policy.maxParallelStarts ∨ s.vmStarting request.vm then
    (.queued, { s with queuedStarts := s.queuedStarts ++ [request] })
  else (.starting, s.beginStart request)

def finishStart (request : StartRequest) (success : Bool) : StartDecision × SchedulerState :=
  if request ∈ s.starting then
    (if success then .ready else .failed ("start failed for VM " ++ request.vm),
      { s with startsInFlight := saturatingPred s.startsInFlight
               starting := s.starting.erase request })
  else
    (.failed ("start was not tracked for VM " ++ request.vm ++ " instance " ++
      request.instanceName), s)

def promoteNextStart : Option StartRequest × SchedulerState :=
  if s.startsInFlight ≥ s.policy.maxParallelStarts then (none, s)
  else match s.queuedStarts with
    | [] => (none, s)
    | request :: rest =>
      if s.vmStarting request.vm then (none, s)
      else (some request, { s with queuedStarts := rest }.beginStart request)

def isStarting (request : StartRequest) : Bool := decide (request ∈ s.starting)

def isQueued (request : StartRequest) : Bool := decide (request ∈ s.queuedStarts)

def hasOtherStart (request : StartRequest) : Bool :=
  (s.starting ++ s.queuedStarts).any (· != request)

def cancelQueuedStart (request : StartRequest) : Bool × SchedulerState :=
  if request ∈ s.queuedStarts then
    (true, { s with queuedStarts := s.queuedStarts.erase request })
  else (false, s)

def markActivity (instanceName : String) (kind : ActivityKind) (time : SystemTime) :
    SchedulerState :=
  let others := s.activities.filter fun item =>
    item.instanceName != instanceName || item.kind != kind
  { s with activities := others ++ [⟨instanceName, kind, time⟩] }

def clearInstance (instanceName : String) : SchedulerState :=
  { s with activities := s.activities.filter (·.instanceName != instanceName) }

def idleTimeout : ℕ := (max s.policy.idleTimeoutMinutes 1).toNat * 60 * 10 ^ 9

/-- A record of the future has the age zero. -/
def isReclaimable (instanceName : String) (now : SystemTime) : Bool :=
  let records := s.activities.filter (·.instanceName == instanceName)
  !(s.policy.protectedInstanceIds.contains instanceName) && !records.isEmpty &&
    records.all fun item => decide (now - item.time ≥ s.idleTimeout)

def reclaimableInstances (now : SystemTime) : List String :=
  s.activities.foldl (fun candidates item =>
    if item.instanceName ∈ candidates then candidates
    else if s.isReclaimable item.instanceName now then candidates ++ [item.instanceName]
    else candidates) []

def beginReclaim : Bool × SchedulerState :=
  if s.reclaimInFlight then (false, s) else (true, { s with reclaimInFlight := true })

def finishReclaim : SchedulerState := { s with reclaimInFlight := false }

end SchedulerState

/-! ### Runs -/

inductive SchedulerCall where
  | requestStart (request : StartRequest)
  | finishStart (request : StartRequest) (success : Bool)
  | promoteNextStart
  | cancelQueuedStart (request : StartRequest)
  | updatePolicy (policy : LifecyclePolicy)
  | markActivity (instanceName : String) (kind : ActivityKind) (time : SystemTime)
  | clearInstance (instanceName : String)
  | beginReclaim
  | finishReclaim
  deriving DecidableEq

inductive SchedulerReply where
  | decision (decision : StartDecision)
  | promoted (request : Option StartRequest)
  | flag (value : Bool)
  | done
  deriving DecidableEq

def SchedulerState.perform (s : SchedulerState) : SchedulerCall → SchedulerReply × SchedulerState
  | .requestStart request => (s.requestStart request).map .decision id
  | .finishStart request success => (s.finishStart request success).map .decision id
  | .promoteNextStart => s.promoteNextStart.map .promoted id
  | .cancelQueuedStart request => (s.cancelQueuedStart request).map .flag id
  | .updatePolicy policy => (.done, s.updatePolicy policy)
  | .markActivity instanceName kind time => (.done, s.markActivity instanceName kind time)
  | .clearInstance instanceName => (.done, s.clearInstance instanceName)
  | .beginReclaim => s.beginReclaim.map .flag id
  | .finishReclaim => (.done, s.finishReclaim)

/-- What becomes of a request. -/
inductive StartEvent where
  | queued (request : StartRequest)
  | admitted (request : StartRequest)
  | promoted (request : StartRequest)
  | cancelled (request : StartRequest)
  deriving DecidableEq

/-- The event that a call and its answer tell of. -/
def startEvent : SchedulerCall × SchedulerReply → Option StartEvent
  | (.requestStart request, .decision .queued) => some (.queued request)
  | (.requestStart request, .decision .starting) => some (.admitted request)
  | (.promoteNextStart, .promoted (some request)) => some (.promoted request)
  | (.cancelQueuedStart request, .flag true) => some (.cancelled request)
  | _ => none

def StartEvent.made? : StartEvent → Option StartRequest
  | .queued request | .admitted request => some request
  | _ => none

def StartEvent.served? : StartEvent → Option StartRequest
  | .admitted request | .promoted request => some request
  | _ => none

/-- The request that a call has made: it waits from then on, or is served at once. -/
def made? (entry : SchedulerCall × SchedulerReply) : Option StartRequest :=
  (startEvent entry).bind StartEvent.made?

/-- The request that a call has given a slot. -/
def served? (entry : SchedulerCall × SchedulerReply) : Option StartRequest :=
  (startEvent entry).bind StartEvent.served?

namespace SchedulerState

/-- All that a call can do to the starts. -/
inductive StartEffect (s : SchedulerState) : Option StartEvent → SchedulerState → Prop
  | queued (request : StartRequest) (hnew : request ∉ s.starting ++ s.queuedStarts)
    (hturn : ¬ s.Admissible request.vm) :
    StartEffect s (some (.queued request)) { s with queuedStarts := s.queuedStarts ++ [request] }
  | admitted (request : StartRequest) (hnew : request ∉ s.starting ++ s.queuedStarts)
    (hturn : s.Admissible request.vm) :
    StartEffect s (some (.admitted request)) (s.beginStart request)
  | promoted (request : StartRequest) (rest : List StartRequest)
    (hfront : s.queuedStarts = request :: rest) (hturn : s.Admissible request.vm) :
    StartEffect s (some (.promoted request)) ({ s with queuedStarts := rest }.beginStart request)
  | cancelled (request : StartRequest) (hqueued : request ∈ s.queuedStarts) :
    StartEffect s (some (.cancelled request))
      { s with queuedStarts := s.queuedStarts.erase request }
  | finished (request : StartRequest) (hstarting : request ∈ s.starting) :
    StartEffect s none { s with startsInFlight := saturatingPred s.startsInFlight
                                starting := s.starting.erase request }
  | beside (policy : LifecyclePolicy) (activities : List ActivityRecord) (reclaimInFlight : Bool) :
    StartEffect s none { s with policy := policy, activities := activities,
                                reclaimInFlight := reclaimInFlight }

theorem requestStart_of_admissible {s : SchedulerState} {request : StartRequest}
    (hnew : request ∉ s.starting ++ s.queuedStarts) (hturn : s.Admissible request.vm) :
    s.requestStart request = (.starting, s.beginStart request) := by
  have htracked : ¬ (request ∈ s.starting ∨ request ∈ s.queuedStarts) := by simpa using hnew
  have hfull : ¬ (s.startsInFlight ≥ s.policy.maxParallelStarts ∨ s.vmStarting request.vm) := by
    rw [not_or]
    exact ⟨UInt32.not_le.mpr hturn.1, by simp [hturn.2]⟩
  simp only [requestStart, if_neg htracked, if_neg hfull]

/-- A call that leaves everything as it is. -/
theorem StartEffect.unchanged (s : SchedulerState) : StartEffect s none s :=
  .beside s.policy s.activities s.reclaimInFlight

theorem perform_effect (s : SchedulerState) (call : SchedulerCall) :
    StartEffect s (startEvent (call, (s.perform call).1)) (s.perform call).2 := by
  cases call with
  | requestStart request =>
    by_cases htracked : request ∈ s.starting ∨ request ∈ s.queuedStarts
    · simp only [perform, requestStart, if_pos htracked]
      exact .unchanged s
    · have hnew : request ∉ s.starting ++ s.queuedStarts := by simpa using htracked
      by_cases hfull : s.startsInFlight ≥ s.policy.maxParallelStarts ∨ s.vmStarting request.vm
      · simp only [perform, requestStart, if_neg htracked, if_pos hfull]
        apply StartEffect.queued request hnew
        rintro ⟨hroom, hvm⟩
        rcases hfull with hfull | hfull
        · exact absurd hroom (UInt32.not_lt.mpr hfull)
        · exact Bool.noConfusion (hvm.symm.trans hfull)
      · simp only [perform, requestStart, if_neg htracked, if_neg hfull]
        apply StartEffect.admitted request hnew
        rw [not_or, Bool.not_eq_true] at hfull
        exact ⟨UInt32.not_le.mp hfull.1, hfull.2⟩
  | finishStart request success =>
    by_cases hstarting : request ∈ s.starting
    · cases success
      · simp only [perform, finishStart, if_pos hstarting]
        exact .finished request hstarting
      · simp only [perform, finishStart, if_pos hstarting]
        exact .finished request hstarting
    · simp only [perform, finishStart, if_neg hstarting]
      exact .unchanged s
  | promoteNextStart =>
    by_cases hfull : s.startsInFlight ≥ s.policy.maxParallelStarts
    · simp only [perform, promoteNextStart, if_pos hfull]
      exact .unchanged s
    · cases hfront : s.queuedStarts with
      | nil =>
        simp only [perform, promoteNextStart, if_neg hfull, hfront]
        exact .unchanged s
      | cons request rest =>
        by_cases hvm : s.vmStarting request.vm = true
        · simp only [perform, promoteNextStart, if_neg hfull, hfront, if_pos hvm]
          exact .unchanged s
        · simp only [perform, promoteNextStart, if_neg hfull, hfront, if_neg hvm]
          exact .promoted request rest hfront ⟨UInt32.not_le.mp hfull, by simpa using hvm⟩
  | cancelQueuedStart request =>
    by_cases hqueued : request ∈ s.queuedStarts
    · simp only [perform, cancelQueuedStart, if_pos hqueued]
      exact .cancelled request hqueued
    · simp only [perform, cancelQueuedStart, if_neg hqueued]
      exact .unchanged s
  | updatePolicy policy => exact .beside policy.withStart s.activities s.reclaimInFlight
  | markActivity instanceName kind time => exact .beside s.policy _ s.reclaimInFlight
  | clearInstance instanceName => exact .beside s.policy _ s.reclaimInFlight
  | beginReclaim =>
    cases hflag : s.reclaimInFlight with
    | true =>
      simp only [perform, beginReclaim, hflag, if_true]
      exact .unchanged s
    | false =>
      simp only [perform, beginReclaim, hflag, Bool.false_eq_true, if_false]
      exact .beside s.policy s.activities true
  | finishReclaim => exact .beside s.policy s.activities false

theorem call_of_made {call : SchedulerCall} {reply : SchedulerReply} {request : StartRequest}
    (h : startEvent (call, reply) = some (.queued request) ∨
      startEvent (call, reply) = some (.admitted request)) : call = .requestStart request := by
  unfold startEvent at h
  rcases h with h | h
  all_goals
    split at h <;> cases h
    next hentry =>
      cases hentry
      rfl

end SchedulerState
end JustRun.Runtime
