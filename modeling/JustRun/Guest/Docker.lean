import JustRun.Concurrency.Recovery
import JustRun.Guest.Inspect

/-!
# Docker in the guest

The calls of `services/qemu_guest.py` on Docker and the file system of the guest. A step
works or fails without taking effect; Docker itself refuses what its state does not allow.
-/
namespace JustRun.Guest
open Machine Concurrency

/-- An exception of the runner: of a step that failed, or raised by a refusal or a check. -/
inductive GuestError where
  | fault (text : String)
  | raised (text : String)
  deriving DecidableEq

/-- `str(error)`. -/
def GuestError.text : GuestError → String
  | fault text | raised text => text

/-- The block a call stands in: the work, or its `except`. -/
inductive Phase where
  | forward
  | recovery
  deriving DecidableEq

/-- What `docker update --restart` is given; `on-failure:n` is a name and a count. -/
structure RestartSetting where
  name : String
  count : ℕ
  deriving DecidableEq

structure VolumeInfo where
  driver : String
  hasOptions : Bool
  mountpoint : String
  deriving DecidableEq

/-- A command that changes one container in its place. -/
inductive Change where
  | stop
  | start
  | restart
  | updateRestart (setting : RestartSetting)
  deriving DecidableEq

inductive DockerOp where
  | isPresent (name : String)
  | inspect (name : String)
  | change (name : String) (what : Change)
  | rename (old new : String)
  | create (name : String) (body : CreateBody)
  | remove (name : String)
  | volumeInspect (name : String)
  /-- Any other command or file step; it leaves the containers as they are. -/
  | run (words : List String)
  /-- A question to the file system or the clock. -/
  | ask (words : List String)

abbrev DockerOp.Val : DockerOp → Type
  | isPresent _ | ask _ => Bool
  | inspect _ => Inspected
  | volumeInspect _ => VolumeInfo
  | run _ => String
  | _ => Unit

structure Call where
  phase : Phase
  op : DockerOp

abbrev Runner (α : Type) := Prog Call (fun c => Except GuestError c.op.Val) GuestError α

/-- The containers by their names. -/
abbrev Containers := String → Option Inspected

/-- What a step that works answers, as far as the containers do not say it. -/
structure Answer where
  text : String
  yes : Bool
  volume : VolumeInfo
  mounts : List MountPoint

inductive Choice where
  | fault (text : String)
  | answer (a : Answer)

def Inspected.setRestart (c : Inspected) (setting : RestartSetting) : Inspected :=
  { c with hostConfig := { c.hostConfig with
    restartPolicy := some ⟨some setting.name, setting.count⟩ } }

def Change.apply (c : Inspected) : Change → Inspected
  | stop => { c with running := false }
  | start | restart => { c with running := true }
  | updateRestart setting => c.setRestart setting

def perform (a : Answer) (d : Containers) : (op : DockerOp) → Except GuestError op.Val × Containers
  | .isPresent name => (.ok (d name).isSome, d)
  | .inspect name => (match d name with
      | some c => .ok c
      | none => .error (.raised ("No such object: " ++ name)), d)
  | .change name what => match d name with
    | some c => (.ok (), Function.update d name (some (what.apply c)))
    | none => (.error (.raised ("No such container: " ++ name)), d)
  | .rename old new => match d old, d new with
    | some c, none => (.ok (), Function.update (Function.update d old none) new (some c))
    | none, _ => (.error (.raised ("No such container: " ++ old)), d)
    | _, some _ => (.error (.raised ("The container name is already in use: " ++ new)), d)
  | .create name body => match d name with
    | none => (.ok (), Function.update d name (some ⟨body.config, body.hostConfig, a.mounts, false⟩))
    | some _ => (.error (.raised ("The container name is already in use: " ++ name)), d)
  | .remove name => match d name with
    | some _ => (.ok (), Function.update d name none)
    | none => (.error (.raised ("No such container: " ++ name)), d)
  | .volumeInspect _ => (.ok a.volume, d)
  | .run _ => (.ok a.text, d)
  | .ask _ => (.ok a.yes, d)

def exec : Choice → Containers → (c : Call) → Option (Except GuestError c.op.Val × Containers)
  | .fault text, d, _ => some (.error (.fault text), d)
  | .answer a, d, c => some (perform a d c.op)

/-! ### The class `Docker` -/

section Calls
variable (phase : Phase)

/-- `docker inspect` that fails says that there is no such container. -/
def isPresent (name : String) : Runner Bool :=
  .call (Call.mk phase (.isPresent name)) fun
    | .ok b => .ret b
    | .error _ => .ret false

def inspect (name : String) : Runner Inspected := request (Call.mk phase (.inspect name))
def stop (name : String) : Runner Unit := request (Call.mk phase (.change name .stop))
def start (name : String) : Runner Unit := request (Call.mk phase (.change name .start))
def restart (name : String) : Runner Unit := request (Call.mk phase (.change name .restart))
def rename (old new : String) : Runner Unit := request (Call.mk phase (.rename old new))
def create (name : String) (body : CreateBody) : Runner Unit := request (Call.mk phase (.create name body))
def remove (name : String) : Runner Unit := request (Call.mk phase (.remove name))
def volumeInspect (name : String) : Runner VolumeInfo := request (Call.mk phase (.volumeInspect name))
def run (words : List String) : Runner String := request (Call.mk phase (.run words))
def ask (words : List String) : Runner Bool := request (Call.mk phase (.ask words))

/-- `policy.get("Name") or "no"`. -/
def policyName (policy : RestartPolicy) : String :=
  if policy.name.getD "" = "" then "no" else policy.name.getD ""

def restartSetting (policy : RestartPolicy) : RestartSetting :=
  ⟨policyName policy, if policyName policy = "on-failure" then policy.maximumRetryCount else 0⟩

def updateRestart (name : String) (policy : RestartPolicy) : Runner Unit :=
  request (Call.mk phase (.change name (.updateRestart (restartSetting policy))))

end Calls

def shell (name script : String) : Runner String :=
  run .forward ["docker", "exec", name, "/system/bin/sh", "-c", script]

def raise {α : Type} (text : String) : Runner α := .fail (.raised text)

def onlyIf (c : Bool) (p : Runner Unit) : Runner Unit := if c then p else .ret ()

/-- A text that is asked for in some cases only. -/
def textIf (c : Bool) (p : Runner String) : Runner String := if c then p else .ret ""

def forEach {α : Type} (l : List α) (p : α → Runner Unit) : Runner Unit :=
  match l with
  | [] => .ret ()
  | x :: rest => do
    p x
    forEach rest p

/-- A check of the runner on its data. -/
def checked {α : Type} (x : Except String α) : Runner α := Prog.ofExcept (x.mapError .raised)

def noPolicy : RestartPolicy := ⟨some "no", 0⟩

/-- `inspected["HostConfig"].get("RestartPolicy") or {"Name": "no"}`. -/
def Inspected.policy (c : Inspected) : RestartPolicy := c.hostConfig.restartPolicy.getD noPolicy

/-- The policy as Docker follows it. -/
def Inspected.setting (c : Inspected) : RestartSetting := restartSetting c.policy

theorem policyName_ne (policy : RestartPolicy) : policyName policy ≠ "" := by
  unfold policyName
  split
  · decide
  · next h => exact h

/-- A setting read from a policy is the setting of the policy it makes. -/
theorem setting_setRestart (c : Inspected) (policy : RestartPolicy) :
    (c.setRestart (restartSetting policy)).setting = restartSetting policy := by
  have hname : policyName ⟨some (restartSetting policy).name, (restartSetting policy).count⟩ =
      policyName policy := if_neg (policyName_ne policy)
  simp only [Inspected.setting, Inspected.policy, Inspected.setRestart, Option.getD_some]
  rw [restartSetting, hname]
  simp only [restartSetting]
  split <;> rfl

end JustRun.Guest
