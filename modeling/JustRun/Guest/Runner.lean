import JustRun.Concurrency.Once
import JustRun.Concurrency.Recovery
import JustRun.Guest.Grants

/-!
# Runners on one node

`main` of `services/qemu_guest.py` up to the protected work, as a program over the clock, the
consume service and the file system of the node. Runners of any number of requests share these.
-/
namespace JustRun.Guest
open Machine Concurrency

/-- Files have numbers, as the file system identifies them; the runner never looks at these. -/
inductive RunnerOp where
  | clock
  | consume (grant : Members)
  | createMarker (path : String)
  | writeMarker (file : ℕ) (receipt : Members)
  /-- `chown` and `chmod`. -/
  | secureMarker (path : String)
  | discardMarker (path : String)
  | readMarker (path : String)
  | unlinkMarker (path : String)
  | lock (name : String)
  /-- The protected work, with the grant it runs under and the marker that let it through. -/
  | execute (action : GuestAction) (claims : Members) (marker : Option ℕ)

abbrev RunnerOp.Val : RunnerOp → Type
  | clock => ℤ
  | consume _ => Members
  | createMarker _ | unlinkMarker _ => ℕ
  | readMarker _ => ℕ × Option Members
  | _ => Unit

abbrev RunnerRes (op : RunnerOp) : Type := Except String op.Val

abbrev Main (α : Type) := Prog RunnerOp RunnerRes String α

/-- A call of the system or of the service; its error is the error of the runner. -/
abbrev syscall (op : RunnerOp) : Main op.Val := request op

/-! ### The program -/

def consumeExecutionGrant (request : RunnerRequest) : Main Members := do
  let grant ← Prog.orReject request.executionGrant "A signed execution grant is required"
  syscall (.consume grant)

def writeExecutionAuthorizationMarker (art : Artifact) (request : RunnerRequest)
    (claims receipt : Members) : Main Unit := do
  let now ← syscall .clock
  let _ ← Prog.ofExcept (verifyReceipt art now receipt claims)
  let path ← Prog.ofExcept (executionAuthorizationMarker request)
  let file ← syscall (.createMarker path)
  let secured : Main Unit := do
    syscall (.writeMarker file receipt)
    syscall (.secureMarker path)
  secured.tryThen fun
    | .ok () => .ret ()
    | .error _ => .call (.discardMarker path) fun _ =>
      .fail "Execution authorization marker cannot be secured"

/-- The marker that was read is the answer, for what is said about it. -/
def requireExecutionAuthorizationMarker (art : Artifact) (request : RunnerRequest)
    (claims : Members) : Main ℕ := do
  let path ← Prog.ofExcept (executionAuthorizationMarker request)
  let marker ← syscall (.readMarker path)
  let receipt ← Prog.orReject marker.2 "Execution authorization marker is not a signed receipt"
  let now ← syscall .clock
  let _ ← Prog.ofExcept (verifyReceipt art now receipt claims)
  return marker.1

/-- Everything but `details` runs under the lock of the instance. -/
def protectedWork (action : GuestAction) (request : RunnerRequest) (claims : Members)
    (marker : Option ℕ) : Main Unit :=
  if action = .details then syscall (.execute action claims marker)
  else do
    syscall (.lock (if request.body.name = "" then "images" else request.body.name))
    syscall (.execute action claims marker)

/-- The action the request is authorized for, and the claims of its grant. -/
def authorizedAction (art : Artifact) (request : RunnerRequest) : Main (GuestAction × Members) := do
  let action ← Prog.ofExcept (validateRunnerRequest request)
  Prog.rejectIf (request.body.name ≠ "" && !isInstanceName request.body.name) "Invalid instance name"
  let now ← syscall .clock
  let claims ← Prog.ofExcept (verifyExecutionGrant art now request.executionGrant action.workflow
    request.vm (request.executionInstance.getD request.body.name))
  return (action, claims)

def main (art : Artifact) (request : RunnerRequest) : Main Unit := do
  let (action, claims) ← authorizedAction art request
  match action with
  | .authorize => do
    let receipt ← consumeExecutionGrant request
    writeExecutionAuthorizationMarker art request claims receipt
  | .activate => do
    let marker ← requireExecutionAuthorizationMarker art request claims
    let path ← Prog.ofExcept (executionAuthorizationMarker request)
    let _ ← syscall (.unlinkMarker path)
    protectedWork .activate request claims (some marker)
  | action => do
    let _ ← consumeExecutionGrant request
    protectedWork action request claims none

/-! ### The node -/

structure Node where
  /-- The identifiers that the service has accepted. -/
  consumed : List Field
  /-- The file at each place, and what stands in it; an empty file is no receipt. -/
  dir : ℕ → Option ℕ
  content : ℕ → Option Members
  next : ℕ

def Node.empty : Node := ⟨[], fun _ => none, fun _ => none, 0⟩

inductive RunnerChoice where
  | time (now : ℤ)
  /-- The call fails without effect. -/
  | fault (text : String)
  /-- The service accepts, but its answer is lost. -/
  | lost
  | receipt (members : Members)
  | works

section System
variable (art : Artifact) (locate : String → ℕ)

def Node.exec : RunnerChoice → Node → (op : RunnerOp) → Option (RunnerRes op × Node)
  | .fault text, s, _ => some (.error text, s)
  | .time now, s, .clock => some (.ok now, s)
  | .lost, s, .consume grant => some (.error "Execution grant consume service is unavailable",
      { s with consumed := (grantJti art grant).toList ++ s.consumed })
  | .receipt members, s, .consume grant => match grantJti art grant with
    | none => some (.error "Execution grant consume request was rejected", s)
    | some jti =>
      if jti ∈ s.consumed then some (.error "Execution grant has already been consumed", s)
      else some (.ok members, { s with consumed := jti :: s.consumed })
  | .works, s, .createMarker path => match s.dir (locate path) with
    | some _ => some (.error "Execution authorization marker already exists", s)
    | none => some (.ok s.next, { s with
        dir := Function.update s.dir (locate path) (some s.next)
        content := Function.update s.content s.next none
        next := s.next + 1 })
  | .works, s, .writeMarker file receipt =>
    some (.ok (), { s with content := Function.update s.content file (some receipt) })
  | .works, s, .discardMarker path => some (.ok (), { s with
      dir := Function.update s.dir (locate path) none })
  | .works, s, .readMarker path => match s.dir (locate path) with
    | none => some (.error "Execution authorization marker is missing", s)
    | some file => some (.ok (file, s.content file), s)
  | .works, s, .unlinkMarker path => match s.dir (locate path) with
    | none => some (.error "No such file or directory", s)
    | some file => some (.ok file, { s with dir := Function.update s.dir (locate path) none })
  | .works, s, .secureMarker _ | .works, s, .lock _ | .works, s, .execute _ _ _ => some (.ok (), s)
  | _, _, _ => none

/-- Runners on one node; the host may clear a place. `locate` resolves the paths. -/
def runners : System Node RunnerRequest RunnerOp RunnerRes String Unit RunnerChoice ℕ where
  handler := main art
  exec := Node.exec art locate
  env place s := { s with dir := Function.update s.dir place none }

end System

abbrev RunnerEntry := LogEntry Node RunnerOp RunnerRes

/-- The grant that an entry of the log executes. -/
def executedGrant (e : RunnerEntry) : Option Field :=
  match e.op with
  | .execute _ claims _ => claims.lookup "jti"
  | _ => none

/-- The marker that enabled the activate of an entry. -/
def enablingMarker (e : RunnerEntry) : Option ℕ :=
  match e.op with
  | .execute _ _ marker => marker
  | _ => none

end JustRun.Guest
