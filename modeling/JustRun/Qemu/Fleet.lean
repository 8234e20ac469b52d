import JustRun.Qemu.Registry

/-!
# The ports of a fleet

Over every sequence of `vm create`, `vm clone` and `vm delete` no port has two
owners. A block is the one asked for unless the search runs into an end of the
16 bit range.
-/
namespace JustRun.Qemu
open Machine

/-- The registry, with the number of ADB ports asked for each VM; no command reads the latter. -/
structure Fleet where
  registry : Registry
  requested : String → ℕ

def Fleet.empty : Fleet := ⟨⟨[]⟩, fun _ => 0⟩

inductive FleetCommand where
  | create (host : CreateHost) (args : CreateArgs)
  | clone (host : CloneHost) (name newName : String)
  | delete (host : DeleteHost) (name : String)

/-- A clone is asked to have as many ADB ports as its source. -/
def Fleet.step (stateDir : Path) (fleet : Fleet) : FleetCommand → Except String Fleet
  | .create host args => do
    let registry ← cmdVmCreate stateDir host args fleet.registry
    return ⟨registry, Function.update fleet.requested args.name args.adbPortCount.toNat⟩
  | .clone host name newName => do
    let registry ← cmdVmClone stateDir host name newName fleet.registry
    return ⟨registry, Function.update fleet.requested newName (fleet.requested name)⟩
  | .delete host name => do
    let registry ← cmdVmDelete host name fleet.registry
    return ⟨registry, fleet.requested⟩

structure Fleet.PortsSound (fleet : Fleet) : Prop where
  distinct : fleet.registry.ports.Nodup
  unreserved : ∀ p ∈ fleet.registry.ports, portIsReserved p = false
  blocks : ∀ v ∈ fleet.registry.vms, IsBlock v.adbPorts (fleet.requested v.name)

/-- The ports taken when the ADB block is searched. -/
def portsBeforeBlock (used : Finset UInt16) (ssh : Option UInt16) : Finset UInt16 :=
  match ssh <|> nextFreePort used defaultSshPortBase with
  | none => used
  | some sshPort => match nextFreePort (insert sshPort used) defaultQmpPortBase with
    | none => insert sshPort used
    | some qmpPort => insert qmpPort (insert sshPort used)

/-- The search for the block of this command stays away from both ends. -/
def AvoidsEnds (fleet : Fleet) : FleetCommand → Prop
  | .create _ args => BlockAvoidsEnds
      (portsBeforeBlock fleet.registry.usedPorts args.sshHostPort) args.adbPortBase args.adbPortCount
  | .clone _ name _ => BlockAvoidsEnds (portsBeforeBlock fleet.registry.usedPorts none)
      defaultAdbPortBase (.ofNat (fleet.requested name))
  | .delete _ _ => True

/-- Each name is registered once, with a number of ports that a request can name. -/
structure Fleet.Named (fleet : Fleet) : Prop where
  names : (fleet.registry.vms.map VmEntry.name).Nodup
  requested : ∀ v ∈ fleet.registry.vms, 0 < fleet.requested v.name ∧ fleet.requested v.name ≤ 65535

section Choice
variable {used : Finset UInt16} {ssh : Option UInt16} {base count : UInt16} {ports : NodePorts}

theorem chooseSshPort_ok {p : UInt16} (h : chooseSshPort used ssh = .ok p) :
    available used p = true ∧ (ssh <|> nextFreePort used defaultSshPortBase) = some p := by
  cases ssh with
  | none =>
    rw [chooseSshPort, orFail_eq_ok] at h
    exact ⟨nextFreePort_available h, by simpa using h⟩
  | some q =>
    simp only [chooseSshPort] at h
    split at h
    · next hfree =>
      cases h
      exact ⟨available_iff.mpr hfree, by simp⟩
    · cases h

theorem chooseAdbPorts_ok {block : List UInt16} (h : chooseAdbPorts used base count = .ok block) :
    allocatePortBlock used base count = .ok block := by
  unfold chooseAdbPorts at h
  cases hblock : allocatePortBlock used base count with
  | error e => simp [hblock, Except.mapError] at h
  | ok block' =>
    rw [hblock] at h
    cases h
    rfl

/-- What the ports of a new node are. -/
structure FreshPorts (used : Finset UInt16) (ports : NodePorts) : Prop where
  nodup : ports.all.Nodup
  unused : ∀ p ∈ ports.all, p ∉ used
  unreserved : ∀ p ∈ ports.all, portIsReserved p = false

theorem chooseNodePorts_ok (h : chooseNodePorts used ssh base count = .ok ports) :
    FreshPorts used ports ∧
      (IsBlock ports.adb count.toNat ↔ BlockAvoidsEnds (portsBeforeBlock used ssh) base count) := by
  simp only [chooseNodePorts, bind_eq_ok] at h
  obtain ⟨sshPort, hssh, qmpPort, hqmp, block, hblock, h⟩ := h
  cases h
  obtain ⟨hsshfree, hchoice⟩ := chooseSshPort_ok hssh
  rw [chooseQmpPort, orFail_eq_ok] at hqmp
  have hblock := chooseAdbPorts_ok hblock
  have hbefore : portsBeforeBlock used ssh = insert qmpPort (insert sshPort used) := by
    rw [portsBeforeBlock, hchoice]
    simp only [hqmp]
  have hsshfree := available_iff.mp hsshfree
  have hqmpfree := available_iff.mp (nextFreePort_available hqmp)
  have hblockfree := allocatePortBlock_available hblock
  simp only [Finset.mem_insert, not_or] at hqmpfree hblockfree
  refine ⟨⟨?_, ?_, ?_⟩, by rw [hbefore, allocatePortBlock_isBlock hblock]⟩
  · simp only [NodePorts.all, List.nodup_cons, List.mem_cons, not_or]
    exact ⟨⟨fun h => hqmpfree.1.1 h.symm, fun h => (hblockfree _ h).1.2.1 rfl⟩,
      fun h => (hblockfree _ h).1.1 rfl, allocatePortBlock_nodup hblock⟩
  · simp only [NodePorts.all, List.forall_mem_cons]
    exact ⟨hsshfree.1, hqmpfree.1.2, fun p hp => (hblockfree p hp).1.2.2⟩
  · simp only [NodePorts.all, List.forall_mem_cons]
    exact ⟨hsshfree.2, hqmpfree.2, fun p hp => (hblockfree p hp).2⟩

end Choice

section Steps
variable {stateDir : Path} {registry registry' : Registry} {name newName : String}

theorem not_mem_names (h : registry.contains name = false) :
    name ∉ registry.vms.map VmEntry.name := by
  rw [Registry.contains, Registry.get, Option.isSome_eq_false_iff, Option.isNone_iff_eq_none,
    List.find?_eq_none] at h
  rintro hmem
  obtain ⟨v, hv, rfl⟩ := List.mem_map.mp hmem
  simpa using h v hv

theorem get_mem {v : VmEntry} (h : registry.get name = some v) : v ∈ registry.vms ∧ v.name = name :=
  ⟨List.mem_of_find?_eq_some h, by simpa using List.find?_some h⟩

/-- A successful `vm create` adds one entry, under a new name and with fresh ports. -/
theorem cmdVmCreate_ok {host : CreateHost} {args : CreateArgs}
    (h : cmdVmCreate stateDir host args registry = .ok registry') :
    registry.contains args.name = false ∧ 0 < args.adbPortCount.toNat ∧ ∃ ports v,
      chooseNodePorts registry.usedPorts args.sshHostPort args.adbPortBase args.adbPortCount =
        .ok ports ∧ v.name = args.name ∧ v.ports = ports.all ∧ v.adbPorts = ports.adb ∧
      registry' = ⟨registry.vms ++ [v]⟩ := by
  simp only [cmdVmCreate, bind_eq_ok, failIf_eq_ok, beq_eq_false_iff_ne, ne_eq] at h
  obtain ⟨_, -, _, -, accel, -, _, -, _, hcount, _, -, _, -, _, hnew, ports, hports, _, -, _, -,
    _, -, _, -, _, -, h⟩ := h
  cases h
  exact ⟨hnew, count_pos hcount, ports, _, hports, rfl, rfl, rfl, rfl⟩

theorem cmdVmClone_ok {host : CloneHost}
    (h : cmdVmClone stateDir host name newName registry = .ok registry') :
    registry.contains newName = false ∧ ∃ src ports v, registry.get name = some src ∧
      chooseNodePorts registry.usedPorts none defaultAdbPortBase (cloneBlockSize src) = .ok ports ∧
      v.name = newName ∧ v.ports = ports.all ∧ v.adbPorts = ports.adb ∧
      registry' = ⟨registry.vms ++ [v]⟩ := by
  simp only [cmdVmClone, bind_eq_ok, failIf_eq_ok, orFail_eq_ok] at h
  obtain ⟨_, -, _, -, _, hnew, src, hsrc, _, -, _, -, _, -, _, -, _, -, _, -, ports, hports, _, -,
    h⟩ := h
  cases h
  exact ⟨hnew, src, ports, _, hsrc, hports, rfl, rfl, rfl, rfl⟩

theorem cmdVmDelete_ok {host : DeleteHost} (h : cmdVmDelete host name registry = .ok registry') :
    registry' = ⟨registry.vms.filter (·.name ≠ name)⟩ := by
  simp only [cmdVmDelete, bind_eq_ok] at h
  obtain ⟨_, -, _, -, _, -, _, -, h⟩ := h
  cases h
  rfl

end Steps

section Invariants
variable {stateDir : Path} {fleet fleet' : Fleet} {v : VmEntry} {ports : NodePorts} {n : ℕ}

/-- The fleet with one more VM, for which `n` ADB ports were asked. -/
def Fleet.add (fleet : Fleet) (v : VmEntry) (n : ℕ) : Fleet :=
  ⟨⟨fleet.registry.vms ++ [v]⟩, Function.update fleet.requested v.name n⟩

@[simp] theorem Fleet.requested_add_self : (fleet.add v n).requested v.name = n := by
  simp [Fleet.add]

theorem Fleet.requested_add (hv : v.name ∉ fleet.registry.vms.map VmEntry.name) {u : VmEntry}
    (hu : u ∈ fleet.registry.vms) : (fleet.add v n).requested u.name = fleet.requested u.name := by
  have hne : u.name ≠ v.name := fun h => hv (h ▸ List.mem_map_of_mem hu)
  simp [Fleet.add, hne]

theorem Fleet.Named.add (hnamed : fleet.Named) (hv : v.name ∉ fleet.registry.vms.map VmEntry.name)
    (hpos : 0 < n) (hle : n ≤ 65535) : (fleet.add v n).Named where
  names := by
    simp only [Fleet.add, List.map_append, List.map_cons, List.map_nil]
    exact List.nodup_append.mpr ⟨hnamed.names, List.nodup_singleton _, fun x hx y hy hxy =>
      hv (by rwa [hxy, List.mem_singleton.mp hy] at hx)⟩
  requested := by
    intro u hu
    rcases List.mem_append.mp hu with hu | hu
    · rw [Fleet.requested_add hv hu]
      exact hnamed.requested u hu
    · obtain rfl := List.mem_singleton.mp hu
      rw [Fleet.requested_add_self]
      exact ⟨hpos, hle⟩

/-- A new VM with fresh ports leaves the rest sound, and is sound when its block is. -/
theorem Fleet.portsSound_add (hsound : fleet.PortsSound)
    (hv : v.name ∉ fleet.registry.vms.map VmEntry.name) (hports : v.ports = ports.all)
    (hfresh : FreshPorts fleet.registry.usedPorts ports) :
    (fleet.add v n).PortsSound ↔ IsBlock v.adbPorts n := by
  have hall : (fleet.add v n).registry.ports = fleet.registry.ports ++ ports.all := by
    simp [Fleet.add, Registry.ports, hports]
  constructor
  · intro h
    have hblock := h.blocks v (by simp [Fleet.add])
    rwa [Fleet.requested_add_self] at hblock
  · intro hblock
    refine ⟨?_, ?_, ?_⟩
    · rw [hall, List.nodup_append]
      refine ⟨hsound.distinct, hfresh.nodup, ?_⟩
      rintro p hp q hq rfl
      exact hfresh.unused p hq (List.mem_toFinset.mpr hp)
    · intro p hp
      rw [hall, List.mem_append] at hp
      exact hp.elim (hsound.unreserved p) (hfresh.unreserved p)
    · intro u hu
      rcases List.mem_append.mp hu with hu | hu
      · rw [Fleet.requested_add hv hu]
        exact hsound.blocks u hu
      · obtain rfl := List.mem_singleton.mp hu
        rwa [Fleet.requested_add_self]

/-- Fewer VMs are as sound. -/
theorem Fleet.PortsSound.sublist (hsound : fleet.PortsSound) {vms : List VmEntry}
    (hsub : vms.Sublist fleet.registry.vms) : (Fleet.mk ⟨vms⟩ fleet.requested).PortsSound where
  distinct := hsound.distinct.sublist (hsub.flatMap VmEntry.ports)
  unreserved p hp := hsound.unreserved p ((hsub.flatMap VmEntry.ports).subset hp)
  blocks v hv := hsound.blocks v (hsub.subset hv)

theorem Fleet.Named.sublist (hnamed : fleet.Named) {vms : List VmEntry}
    (hsub : vms.Sublist fleet.registry.vms) : (Fleet.mk ⟨vms⟩ fleet.requested).Named where
  names := hnamed.names.sublist (hsub.map VmEntry.name)
  requested v hv := hnamed.requested v (hsub.subset hv)

theorem requested_ne_zero (hnamed : fleet.Named) {src : VmEntry} {name : String}
    (hsrc : fleet.registry.get name = some src) :
    0 < fleet.requested name ∧ fleet.requested name ≤ 65535 := by
  obtain ⟨hmem, rfl⟩ := get_mem hsrc
  exact hnamed.requested src hmem

/-- A clone of a VM with the block asked for is asked for a block of the same size. -/
theorem cloneBlockSize_eq (hnamed : fleet.Named) (hsound : fleet.PortsSound) {src : VmEntry}
    {name : String} (hsrc : fleet.registry.get name = some src) :
    cloneBlockSize src = .ofNat (fleet.requested name) ∧
      (cloneBlockSize src).toNat = fleet.requested name := by
  have hrange := requested_ne_zero hnamed hsrc
  obtain ⟨hmem, rfl⟩ := get_mem hsrc
  obtain ⟨start, -, -, hports⟩ := hsound.blocks src hmem
  have hlen : src.adbPorts.length = fleet.requested src.name := by
    simpa using congrArg List.length hports
  have hmax : max src.adbPorts.length 1 = fleet.requested src.name := by omega
  rw [cloneBlockSize, hmax]
  refine ⟨rfl, ?_⟩
  rw [UInt16.toNat_ofNat']
  omega

/-- What one command does to the fleet: it adds one VM with fresh ports, or takes VMs away. -/
theorem Fleet.step_cases {c : FleetCommand} (h : fleet.step stateDir c = .ok fleet') :
    (∃ v n ports ssh base count, fleet' = fleet.add v n ∧
      v.name ∉ fleet.registry.vms.map VmEntry.name ∧ v.ports = ports.all ∧
      v.adbPorts = ports.adb ∧ FreshPorts fleet.registry.usedPorts ports ∧
      (IsBlock ports.adb count.toNat ↔
        BlockAvoidsEnds (portsBeforeBlock fleet.registry.usedPorts ssh) base count) ∧
      ((∃ host args, c = .create host args ∧ n = count.toNat ∧ 0 < n ∧ ssh = args.sshHostPort ∧
          base = args.adbPortBase ∧ count = args.adbPortCount) ∨
        ∃ host name newName src, c = .clone host name newName ∧ n = fleet.requested name ∧
          fleet.registry.get name = some src ∧ ssh = none ∧ base = defaultAdbPortBase ∧
          count = cloneBlockSize src)) ∨
    ∃ host name, c = .delete host name ∧
      fleet' = ⟨⟨fleet.registry.vms.filter (·.name ≠ name)⟩, fleet.requested⟩ := by
  cases c with
  | create host args =>
    simp only [Fleet.step, bind_eq_ok] at h
    obtain ⟨registry', hcmd, h⟩ := h
    obtain ⟨hnew, hpos, ports, v, hports, hname, hall, hadb, rfl⟩ := cmdVmCreate_ok hcmd
    obtain ⟨hfresh, hblock⟩ := chooseNodePorts_ok hports
    cases h
    refine .inl ⟨v, _, ports, _, _, _, ?_, ?_, hall, hadb, hfresh, hblock,
      .inl ⟨host, args, rfl, rfl, hpos, rfl, rfl, rfl⟩⟩
    · rw [Fleet.add, hname]
    · rw [hname]
      exact not_mem_names hnew
  | clone host name newName =>
    simp only [Fleet.step, bind_eq_ok] at h
    obtain ⟨registry', hcmd, h⟩ := h
    obtain ⟨hnew, src, ports, v, hsrc, hports, hname, hall, hadb, rfl⟩ := cmdVmClone_ok hcmd
    obtain ⟨hfresh, hblock⟩ := chooseNodePorts_ok hports
    cases h
    refine .inl ⟨v, _, ports, _, _, _, ?_, ?_, hall, hadb, hfresh, hblock,
      .inr ⟨host, name, newName, src, rfl, rfl, hsrc, rfl, rfl, rfl⟩⟩
    · rw [Fleet.add, hname]
    · rw [hname]
      exact not_mem_names hnew
  | delete host name =>
    simp only [Fleet.step, bind_eq_ok] at h
    obtain ⟨registry', hcmd, h⟩ := h
    cases h
    exact .inr ⟨host, name, rfl, by rw [cmdVmDelete_ok hcmd]⟩

theorem Fleet.Named.step (hnamed : fleet.Named) {c : FleetCommand}
    (h : fleet.step stateDir c = .ok fleet') : fleet'.Named := by
  obtain ⟨v, n, ports, ssh, base, count, rfl, hv, -, -, -, -, hwhich⟩ | ⟨host, name, -, rfl⟩ :=
    Fleet.step_cases h
  · rcases hwhich with ⟨host, args, -, rfl, hpos, -, -, rfl⟩ | ⟨host, name, newName, src, -, rfl, hsrc, -⟩
    · refine hnamed.add hv hpos ?_
      have hlt := args.adbPortCount.toNat_lt
      omega
    · obtain ⟨hpos, hle⟩ := requested_ne_zero hnamed hsrc
      exact hnamed.add hv hpos hle
  · exact hnamed.sublist List.filter_sublist

/-- One command keeps the ports sound exactly when its search avoids the ends. -/
theorem Fleet.step_sound_iff (hnamed : fleet.Named) (hsound : fleet.PortsSound) {c : FleetCommand}
    (h : fleet.step stateDir c = .ok fleet') : fleet'.PortsSound ↔ AvoidsEnds fleet c := by
  obtain ⟨v, n, ports, ssh, base, count, rfl, hv, hall, hadb, hfresh, hblock, hwhich⟩ |
    ⟨host, name, rfl, rfl⟩ := Fleet.step_cases h
  · rw [Fleet.portsSound_add hsound hv hall hfresh, hadb]
    rcases hwhich with ⟨host, args, rfl, rfl, -, rfl, rfl, rfl⟩ |
      ⟨host, name, newName, src, rfl, rfl, hsrc, rfl, rfl, rfl⟩
    · exact hblock
    · obtain ⟨hcount, hsize⟩ := cloneBlockSize_eq hnamed hsound hsrc
      rw [hsize, hcount] at hblock
      exact hblock
  · exact iff_of_true (hsound.sublist List.filter_sublist) trivial

end Invariants

theorem Fleet.empty_named : Fleet.empty.Named := by
  constructor <;> simp [Fleet.empty]

theorem Fleet.empty_portsSound : Fleet.empty.PortsSound := by
  constructor <;> simp [Fleet.empty, Registry.ports]

/-- The ports are sound in every state exactly when every search for a block avoids the ends. -/
theorem registry_ports_sound_iff (stateDir : Path) (commands : List FleetCommand) :
    EachState (Fleet.step stateDir) Fleet.PortsSound Fleet.empty commands ↔
      EachSuccess (Fleet.step stateDir) AvoidsEnds Fleet.empty commands := by
  have hnamed : EachState (Fleet.step stateDir) Fleet.Named Fleet.empty commands :=
    eachState_of_step Fleet.empty_named fun _ _ _ hnamed h => hnamed.step h
  exact eachState_iff hnamed Fleet.empty_portsSound fun _ _ _ hnamed hsound h =>
    Fleet.step_sound_iff hnamed hsound h

/-! ### The last port -/

def lastPortArgs : CreateArgs where
  name := "node1"
  baseImage := ["noble.img"]
  cpus := 2
  mem := 4096
  accel := "tcg"
  sshHostPort := none
  adbPortBase := 65535
  adbPortCount := 1

/-- A VM asked to have the ADB port 65535 is registered without any. -/
theorem last_port_yields_no_block :
    ¬ ∀ (stateDir : Path) (commands : List FleetCommand),
      EachState (Fleet.step stateDir) Fleet.PortsSound Fleet.empty commands := by
  intro hclaim
  have hsound := hclaim ["state"] [.create .ready lastPortArgs] _ (List.prefix_refl _)
  have hnone : ∃ v ∈ (afterAll (Fleet.step ["state"]) Fleet.empty
      [.create .ready lastPortArgs]).registry.vms, v.adbPorts = [] ∧
      (afterAll (Fleet.step ["state"]) Fleet.empty
        [.create .ready lastPortArgs]).requested v.name = 1 := by
    decide +kernel
  obtain ⟨v, hv, hports, hone⟩ := hnone
  obtain ⟨start, -, -, hblock⟩ := hsound.blocks v hv
  rw [hports, hone] at hblock
  cases hblock

end JustRun.Qemu
