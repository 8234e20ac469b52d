import Mathlib.Tactic

/-!
# Who owns a disk

`qemu-center/src/vm.rs`: what a probe of the QMP port says about the QEMU process,
and what each command may do with the disk at that liveness.
-/
namespace JustRun.Qemu

inductive QmpProbe where
  | answered
  | refused
  | timedOut
  deriving DecidableEq

inductive VmLiveness where
  | running
  | stopped
  | unknown
  deriving DecidableEq

def vmLivenessFromQmpProbe : QmpProbe → VmLiveness
  | .answered => .running
  | .refused => .stopped
  | .timedOut => .unknown

def vmLivenessFromQmpProbeWithHostProcessCheck (probe : QmpProbe)
    (hostHasQemuProcess : Option Bool) : VmLiveness :=
  match probe, hostHasQemuProcess with
  | .timedOut, some false => .stopped
  | probe, _ => vmLivenessFromQmpProbe probe

/-- What the host answers to `probe_vm_liveness`; the processes are looked at only after a timeout. -/
structure LivenessProbe where
  qmp : QmpProbe
  hostHasQemuProcess : Except String Bool

def probeVmLiveness (host : LivenessProbe) : VmLiveness :=
  vmLivenessFromQmpProbeWithHostProcessCheck host.qmp
    (if host.qmp = .timedOut then host.hostHasQemuProcess.toOption else none)

def clonePlan : VmLiveness → Except String Unit
  | .stopped => .ok ()
  | .running => .error "cannot clone a VM while QEMU is running"
  | .unknown => .error "cannot clone a VM while QEMU state is unknown"

def deletePlan : VmLiveness → Except String Unit
  | .stopped => .ok ()
  | .running => .error "cannot delete a VM while QEMU is running"
  | .unknown => .error "cannot delete a VM while QEMU state is unknown"

def deletePlanWithShutdownProof (liveness : VmLiveness) (recordedPid : Bool)
    (processAlive : Option Bool) (qmpPortFree : Bool) : Except String Unit :=
  if liveness ≠ .unknown then deletePlan liveness
  else if recordedPid && processAlive == some false && qmpPortFree then .ok ()
  else .error "cannot delete a VM while QEMU state is unknown"

/-- A timeout alone never proves that a VM is stopped. -/
theorem probeVmLiveness_eq_stopped (host : LivenessProbe) :
    probeVmLiveness host = .stopped ↔
      host.qmp = .refused ∨ host.qmp = .timedOut ∧ host.hostHasQemuProcess = .ok false := by
  rcases host with ⟨qmp, process⟩
  cases qmp with
  | answered =>
    simp [probeVmLiveness, vmLivenessFromQmpProbeWithHostProcessCheck, vmLivenessFromQmpProbe]
  | refused =>
    simp [probeVmLiveness, vmLivenessFromQmpProbeWithHostProcessCheck, vmLivenessFromQmpProbe]
  | timedOut =>
    rcases process with e | (_ | _) <;>
      simp [probeVmLiveness, vmLivenessFromQmpProbeWithHostProcessCheck, vmLivenessFromQmpProbe,
        Except.toOption]

theorem clonePlan_eq_ok {liveness : VmLiveness} : clonePlan liveness = .ok () ↔ liveness = .stopped := by
  cases liveness <;> simp [clonePlan]

theorem deletePlan_eq_ok {liveness : VmLiveness} :
    deletePlan liveness = .ok () ↔ liveness = .stopped := by
  cases liveness <;> simp [deletePlan]

end JustRun.Qemu
