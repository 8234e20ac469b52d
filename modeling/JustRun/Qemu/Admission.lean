import JustRun.Qemu.Redroid

/-!
# The memory budget of a node

`redroid create` compares the size of the new instance, times the number of running
ones, with the memory of the node. The sum of the limits stays within the budget as
long as the running instances are, on average, no larger than the new one.
-/
namespace JustRun.Qemu
open Machine

inductive NodeCommand where
  | create (host : RedroidCreateHost) (args : RedroidCreateArgs)
  /-- A container is started, is stopped or ends. -/
  | settle (name : String) (status : ContainerStatus) (ports : Column)
  | remove (name : String)

def Container.settle (name : String) (status : ContainerStatus) (ports : Column) (c : Container) :
    Container :=
  if c.name = name then { c with status, ports } else c

def Node.step (node : Node) : NodeCommand → Except String Node
  | .create host args => cmdRedroidCreate host args node
  | .settle name status ports =>
    .ok { node with containers := node.containers.map (Container.settle name status ports) }
  | .remove name => .ok { node with containers := node.containers.filter (·.name ≠ name) }

/-- A VM on which no instance has been created. -/
def Node.fresh (name : String) (vcpus : UInt16) (memMib : UInt32) (adbPorts : List UInt16) : Node :=
  ⟨name, vcpus, memMib, adbPorts, [], []⟩

def Node.running (node : Node) : List Container := node.containers.filter Container.isRunning

def Node.runningMemory (node : Node) : ℕ := (node.running.map Container.memoryMib).sum

/-- The memory limit that `redroid create` gives the new instance. -/
def Node.newMemory (node : Node) (args : RedroidCreateArgs) : Except String ℕ := do
  let profile ← ResourceProfile.parse args.profile
  let resources ← resolveInstanceResources profile node.vcpus.toNat node.memMib.toNat args.cpus
    args.memory
  return resources.2

/-- The limits of the running instances and of the new one leave the reserve of the node free. -/
def BudgetKept (node : Node) : NodeCommand → Prop
  | .create _ args => ∀ memory, node.newMemory args = .ok memory →
      node.runningMemory + memory + reserveMib node.memMib.toNat ≤ node.memMib.toNat
  | _ => True

/-- The running instances are on average no larger than the new one. -/
def RunningNoLarger (node : Node) : NodeCommand → Prop
  | .create _ args => ∀ memory, node.newMemory args = .ok memory →
      node.runningMemory ≤ node.running.length * memory
  | _ => True

/-- Every container belongs to a registered instance, and each port to one instance. -/
structure Node.Registered (node : Node) : Prop where
  names : (node.containers.map Container.name).Nodup
  valid : ∀ c ∈ node.containers, ∃ inst ∈ node.registered,
    c.name = containerName inst ∧ validateInstanceName inst = .ok ()
  ports : (node.adbAssignments.map Prod.snd).Nodup

section Rows
variable {containers : List Container} {missing : String → Bool} {c : Container} {inst : String}

theorem containerName_chars (h : validateInstanceName inst = .ok ()) :
    ∀ c ∈ (containerName inst).toList, isWhitespace c = false := by
  simp only [validateInstanceName, bind_eq_ok, failIf_eq_ok, Bool.not_eq_false',
    List.all_eq_true] at h
  obtain ⟨-, -, -, hchars, -⟩ := h
  intro c hc
  rw [containerName, String.toList_append, List.mem_append] at hc
  rcases hc with hc | hc
  · have hprefix : c = 'q' ∨ c = 'c' ∨ c = '-' := by simpa using hc
    rcases hprefix with rfl | rfl | rfl <;> simp [isWhitespace]
  · have hchar := hchars c hc
    have hlower : c.isLower = (decide (c.val ≥ 97) && decide (c.val ≤ 122)) := rfl
    simp only [vmNameChar, hlower, Char.isDigit, Bool.or_eq_true, beq_iff_eq, Bool.and_eq_true,
      decide_eq_true_eq, ge_iff_le, UInt32.le_iff_toNat_le] at hchar
    rcases hchar with (⟨hlo, hhi⟩ | ⟨hlo, hhi⟩) | rfl
    · simp at hlo hhi
      simp [isWhitespace]
      omega
    · simp at hlo hhi
      simp [isWhitespace]
      omega
    · decide

theorem statusIsRunning_false {status : String} (hr : ¬ ['r', 'u'] <+: status.toLower.toList)
    (hu : ¬ ['u', 'p'] <+: status.toLower.toList) : statusIsRunning status = false := by
  rw [statusIsRunning]
  simp only [Bool.or_eq_false_iff, beq_eq_false_iff_ne, ne_eq]
  refine ⟨⟨?_, ?_⟩, ?_⟩
  · intro h
    rw [h] at hr
    exact hr (by decide)
  · intro h
    rw [h] at hu
    exact hu (by decide)
  · rw [Bool.eq_false_iff, ne_eq, List.isPrefixOf_iff_prefix]
    exact fun h => hu (List.IsPrefix.trans (by decide) h)

theorem toLower_eq (text : String) : text.toLower = text.map Char.toLower := rfl

theorem statusIsRunning_text (status : ContainerStatus) :
    statusIsRunning status.text = status.isRunning := by
  cases status with
  | up detail =>
    simp [ContainerStatus.text, ContainerStatus.isRunning, statusIsRunning, toLower_eq]
  | restarting detail =>
    apply statusIsRunning_false <;> simp [ContainerStatus.text, toLower_eq]
  | exited detail =>
    apply statusIsRunning_false <;> simp [ContainerStatus.text, toLower_eq]
  | created => decide +kernel
  | removing => decide +kernel
  | dead => decide +kernel

/-- The text of a status is one column. -/
theorem ContainerStatus.text_column (status : ContainerStatus) :
    '\t' ∉ status.text.toList ∧ '\n' ∉ status.text.toList ∧ Trimmed status.text ∧
      status.text ≠ "" := by
  cases status with
  | up detail | restarting detail | exited detail =>
    obtain ⟨htab, hnewline⟩ := detail.oneColumn
    exact ⟨by simp [text, htab], by simp [text, hnewline],
      trimmed_append (by decide) detail.nonempty (by simp [isWhitespace]) detail.trimmed.2,
      by simp [text]⟩
  | created => decide +kernel
  | removing => decide +kernel
  | dead => decide +kernel

theorem not_mem_of_isWhitespace {l : List Char} {c : Char} (h : ∀ x ∈ l, isWhitespace x = false)
    (hc : isWhitespace c = true) : c ∉ l := by
  intro hmem
  rw [h c hmem] at hc
  cases hc

theorem trimmed_of_chars {s : String} (h : ∀ c ∈ s.toList, isWhitespace c = false) : Trimmed s :=
  ⟨fun c hc => h c (List.mem_of_mem_head? hc), fun c hc => h c (List.mem_of_mem_getLast? hc)⟩

/-- The columns of a container's row are read back. -/
theorem parseDockerPsLine_row (hname : c.name = containerName inst)
    (hvalid : validateInstanceName inst = .ok ()) :
    parseDockerPsLine (c.row missing) =
      some (c.name, if missing c.name then "" else c.status.text, c.ports.text) := by
  have hchars := hname ▸ containerName_chars hvalid
  obtain ⟨htab, -, htrim, -⟩ := c.status.text_column
  have hcolumns : splitOn '\t' (c.row missing) =
      [c.name, if missing c.name then "" else c.status.text, c.ports.text] := by
    refine splitOn_joinWith (by simp) ?_
    simp only [List.forall_mem_cons]
    refine ⟨not_mem_of_isWhitespace hchars (by decide), ?_, c.ports.oneColumn.1, by simp⟩
    split
    · simp
    · exact htab
  have hstatus : trim (if missing c.name then "" else c.status.text) =
      if missing c.name then "" else c.status.text := by
    split
    · rfl
    · exact trim_of_trimmed htrim
  have hprefix : "qc-".toList.isPrefixOf c.name.toList = true := by
    rw [List.isPrefixOf_iff_prefix, hname, containerName, String.toList_append]
    exact List.prefix_append _ _
  simp only [parseDockerPsLine, hcolumns, List.headD_cons, List.getD_cons_succ, List.getD_cons_zero,
    trim_of_trimmed (trimmed_of_chars hchars), trim_of_trimmed c.ports.trimmed, hstatus, hprefix,
    Bool.not_true, Bool.false_eq_true, if_false]

theorem row_toList : (c.row missing).toList = c.name.toList ++ '\t' ::
    ((if missing c.name then "" else c.status.text).toList ++ '\t' :: c.ports.text.toList) := by
  simp [Container.row, joinWith, List.intercalate]

theorem row_oneLine (hname : c.name = containerName inst)
    (hvalid : validateInstanceName inst = .ok ()) :
    '\n' ∉ (c.row missing).toList ∧ (c.row missing).toList.getLast? ≠ some '\r' := by
  have hchars := hname ▸ containerName_chars hvalid
  have hnewline := c.status.text_column.2.1
  rw [row_toList]
  constructor
  · simp only [List.mem_append, List.mem_cons, not_or]
    refine ⟨not_mem_of_isWhitespace hchars (by decide), by decide, ?_, by decide, c.ports.oneColumn.2⟩
    split
    · simp
    · exact hnewline
  · have hsplit : ∀ l : List Char, c.name.toList ++ '\t' :: (l ++ '\t' :: c.ports.text.toList) =
        (c.name.toList ++ '\t' :: l) ++ '\t' :: c.ports.text.toList := by simp
    rw [hsplit, List.getLast?_append_cons]
    intro hlast
    by_cases hports : c.ports.text.toList = []
    · simp [hports] at hlast
    · rw [List.getLast?_cons_of_ne_nil hports] at hlast
      have hwhite := c.ports.trimmed.2 _ hlast
      revert hwhite
      decide

theorem collectRunning_cons {running : Finset String} {line name status ports : String}
    (hline : parseDockerPsLine line = some (name, status, ports)) (rest : List String) :
    collectRunning running (line :: rest) =
      if status.isEmpty then .error ("docker ps row has no status for " ++ name)
      else if statusIsRunning status then collectRunning (insert name running) rest
      else collectRunning running rest := by
  conv_lhs => unfold collectRunning
  simp only [hline]

/-- What is collected from the rows is what runs. -/
theorem collectRunning_rows (hvalid : ∀ c ∈ containers, ∃ inst, c.name = containerName inst ∧
      validateInstanceName inst = .ok ()) {running names : Finset String}
    (h : collectRunning running (containers.map (·.row missing)) = .ok names) :
    names = running ∪ ((containers.filter Container.isRunning).map Container.name).toFinset := by
  induction containers generalizing running with
  | nil =>
    cases h
    simp
  | cons c containers ih =>
    rw [List.forall_mem_cons] at hvalid
    obtain ⟨⟨inst, hname, hinst⟩, hrest⟩ := hvalid
    rw [List.map_cons, collectRunning_cons (parseDockerPsLine_row hname hinst)] at h
    by_cases hmissing : missing c.name
    · simp [hmissing] at h
    · have hnonempty : c.status.text.isEmpty = false := by simpa using c.status.text_column.2.2.2
      simp only [hmissing, Bool.false_eq_true, if_false, hnonempty, statusIsRunning_text] at h
      by_cases hrun : c.isRunning = true
      · rw [if_pos (show c.status.isRunning = true from hrun)] at h
        rw [ih hrest h, List.filter_cons_of_pos hrun, List.map_cons, List.toFinset_cons,
          Finset.insert_union, Finset.union_insert]
      · rw [if_neg (show ¬ c.status.isRunning = true from hrun)] at h
        rw [ih hrest h, List.filter_cons_of_neg hrun]

theorem row_not_blank (hname : c.name = containerName inst) : isBlank (c.row missing) = false := by
  rw [isBlank, row_toList, hname, containerName, String.toList_append]
  simp [isWhitespace]

/-- Where the count can be read from `docker ps`, it is the number of running containers. -/
theorem parseRunningRedroidCount_rows (hnames : (containers.map Container.name).Nodup)
    (hvalid : ∀ c ∈ containers, ∃ inst, c.name = containerName inst ∧
      validateInstanceName inst = .ok ()) {n : ℕ}
    (h : parseRunningRedroidCount (unlines (containers.map (·.row missing))) = .ok n) :
    n = (containers.filter Container.isRunning).length := by
  have hlines : lines (unlines (containers.map (·.row missing))) =
      containers.map (·.row missing) := by
    apply lines_unlines
    rw [List.forall_mem_map]
    intro c hc
    obtain ⟨inst, hname, hinst⟩ := hvalid c hc
    exact row_oneLine hname hinst
  have hfull : (containers.map (·.row missing)).filter (fun line => !isBlank line) =
      containers.map (·.row missing) := by
    rw [List.filter_eq_self, List.forall_mem_map]
    intro c hc
    obtain ⟨inst, hname, -⟩ := hvalid c hc
    simp [row_not_blank hname]
  simp only [parseRunningRedroidCount, hlines, hfull, bind_eq_ok, failIf_eq_ok] at h
  obtain ⟨names, hnamesok, _, -, h⟩ := h
  cases h
  rw [collectRunning_rows hvalid hnamesok, Finset.empty_union, List.toFinset_card_of_nodup,
    List.length_map]
  exact hnames.sublist (List.filter_sublist.map Container.name)

end Rows

section Nodes
variable {node node' : Node} {name : String}

/-- There are no more containers than registered instances, and no more of these than ports. -/
theorem Node.Registered.containers_le (hreg : node.Registered) :
    node.containers.length ≤ node.adbAssignments.length ∧ node.adbAssignments.length ≤ 65536 := by
  constructor
  · have hsub : node.containers.map Container.name ⊆ node.registered.map containerName := by
      intro n hn
      obtain ⟨c, hc, rfl⟩ := List.mem_map.mp hn
      obtain ⟨inst, hinst, hname, -⟩ := hreg.valid c hc
      exact hname ▸ List.mem_map_of_mem hinst
    have hle := (List.subperm_of_subset hreg.names hsub).length_le
    simpa [Node.registered] using hle
  · have hinj : ((node.adbAssignments.map Prod.snd).map UInt16.toNat).Nodup :=
      hreg.ports.map fun p q h => UInt16.toNat_inj.mp h
    have hsub : (node.adbAssignments.map Prod.snd).map UInt16.toNat ⊆ List.range 65536 := by
      intro n hn
      obtain ⟨p, -, rfl⟩ := List.mem_map.mp hn
      exact List.mem_range.mpr p.toNat_lt
    have hle := (List.subperm_of_subset hinj hsub).length_le
    simpa using hle

/-- No running instance is left out of the count. -/
theorem Node.running_le (hreg : node.Registered) (ps : PsReply) :
    node.running.length ≤ node.runningInstances ps := by
  obtain ⟨hcontainers, hassignments⟩ := hreg.containers_le
  have hrunning : node.running.length ≤ node.containers.length := List.length_filter_le _ _
  have hregistered : node.running.length ≤ node.adbAssignments.length % 2 ^ 32 := by omega
  cases ps with
  | failed => exact hregistered
  | rows missing =>
    simp only [Node.runningInstances, PsReply.stdout]
    cases hparse : parseRunningRedroidCount (unlines (node.containers.map (·.row missing))) with
    | error e => exact hregistered
    | ok n =>
      have hvalid : ∀ c ∈ node.containers, ∃ inst, c.name = containerName inst ∧
          validateInstanceName inst = .ok () := fun c hc => by
        obtain ⟨inst, -, hinst⟩ := hreg.valid c hc
        exact ⟨inst, hinst⟩
      exact (parseRunningRedroidCount_rows hreg.names hvalid hparse).ge

theorem Node.fresh_registered (vcpus : UInt16) (memMib : UInt32) (adbPorts : List UInt16) :
    (Node.fresh name vcpus memMib adbPorts).Registered := by
  constructor <;> simp [Node.fresh]

/-- What a successful `redroid create` does. -/
theorem cmdRedroidCreate_ok {host : RedroidCreateHost} {args : RedroidCreateArgs}
    (h : cmdRedroidCreate host args node = .ok node') :
    ∃ memory port container, node.newMemory args = .ok memory ∧
      validateInstanceName args.inst = .ok () ∧
      validateResourceBudget node.memMib.toNat memory
        (min (node.runningInstances host.ps + 1) (2 ^ 32 - 1)) = .ok () ∧
      node.nextFreeAdbPort = some port ∧ container.name = containerName args.inst ∧
      container.name ∉ node.containers.map Container.name ∧
      node' = { node with containers := node.containers ++ [container],
                          adbAssignments := node.adbAssignments ++ [(args.inst, port)] } := by
  simp only [cmdRedroidCreate, bind_eq_ok, failIf_eq_ok, orFail_eq_ok, mapError_eq_ok] at h
  obtain ⟨_, -, _, -, _, -, _, hname, gpu, -, profile, hprofile, _, -, _, -, ⟨cpus, memory⟩,
    hresources, _, hnew, _, hbudget, port, hport, _, -, docker, hdocker, _, -, _, -, h⟩ := h
  simp only [Node.dockerRun, bind_eq_ok, failIf_eq_ok] at hdocker
  obtain ⟨_, hfresh, hdocker⟩ := hdocker
  cases hdocker
  cases h
  refine ⟨memory, port, _, ?_, hname, hbudget, hport, rfl, ?_, rfl⟩
  · simp only [Node.newMemory, bind_eq_ok]
    exact ⟨profile, hprofile, (cpus, memory), hresources, rfl⟩
  · simpa using hfresh

theorem Node.Registered.create (hreg : node.Registered) {host : RedroidCreateHost}
    {args : RedroidCreateArgs} (h : cmdRedroidCreate host args node = .ok node') :
    node'.Registered := by
  obtain ⟨memory, port, container, -, hinst, -, hport, hname, hfresh, rfl⟩ := cmdRedroidCreate_ok h
  constructor
  · simp only [List.map_append, List.map_cons, List.map_nil]
    exact List.nodup_append.mpr ⟨hreg.names, List.nodup_singleton _, fun x hx y hy hxy =>
      hfresh (by rwa [hxy, List.mem_singleton.mp hy] at hx)⟩
  · intro c hc
    rcases List.mem_append.mp hc with hc | hc
    · obtain ⟨inst, hmem, hvalid⟩ := hreg.valid c hc
      refine ⟨inst, ?_, hvalid⟩
      rw [Node.registered, List.map_append]
      exact List.mem_append_left _ hmem
    · obtain rfl := List.mem_singleton.mp hc
      exact ⟨args.inst, by simp [Node.registered], hname, hinst⟩
  · simp only [List.map_append, List.map_cons, List.map_nil]
    have hunused := List.find?_some hport
    refine List.nodup_append.mpr ⟨hreg.ports, List.nodup_singleton _, fun x hx y hy hxy => ?_⟩
    rw [hxy, List.mem_singleton.mp hy] at hx
    simp [hx] at hunused

theorem Container.settle_name {status : ContainerStatus} {ports : Column} (c : Container) :
    (c.settle name status ports).name = c.name := by
  unfold Container.settle
  split <;> rfl

theorem Node.Registered.step (hreg : node.Registered) {c : NodeCommand}
    (h : node.step c = .ok node') : node'.Registered := by
  cases c with
  | create host args => exact hreg.create h
  | settle name status ports =>
    cases h
    have hnames : (node.containers.map (Container.settle name status ports)).map Container.name =
        node.containers.map Container.name := by
      rw [List.map_map]
      exact List.map_congr_left fun c _ => c.settle_name
    refine ⟨?_, ?_, hreg.ports⟩
    · rw [hnames]
      exact hreg.names
    · rw [List.forall_mem_map]
      intro c hc
      obtain ⟨inst, hmem, hvalid⟩ := hreg.valid c hc
      exact ⟨inst, hmem, by rwa [c.settle_name]⟩
  | remove name =>
    cases h
    refine ⟨hreg.names.sublist (List.filter_sublist.map Container.name), ?_, hreg.ports⟩
    exact fun c hc => hreg.valid c (List.mem_of_mem_filter hc)

/-- An admitted instance keeps the budget when the running ones are no larger on average. -/
theorem Node.create_keeps_budget (hreg : node.Registered) {c : NodeCommand}
    (h : node.step c = .ok node') (hsizes : RunningNoLarger node c) : BudgetKept node c := by
  cases c with
  | settle name status ports | remove name => trivial
  | create host args =>
    obtain ⟨memory, -, -, hmemory, -, hbudget, -⟩ := cmdRedroidCreate_ok h
    intro memory' hmemory'
    obtain rfl : memory = memory' := Except.ok.inj (hmemory.symm.trans hmemory')
    have hcount := node.running_le hreg host.ps
    obtain ⟨hcontainers, hassignments⟩ := hreg.containers_le
    have hrunning : node.running.length ≤ node.containers.length := List.length_filter_le _ _
    have hfits := validateResourceBudget_ok node.memMib.toNat_lt (by omega) hbudget
    have hcharged : node.running.length + 1 ≤
        min (node.runningInstances host.ps + 1) (2 ^ 32 - 1) := by omega
    calc node.runningMemory + memory + reserveMib node.memMib.toNat
        ≤ node.running.length * memory + memory + reserveMib node.memMib.toNat := by
          have hle := hsizes memory hmemory
          omega
      _ = memory * (node.running.length + 1) + reserveMib node.memMib.toNat := by ring
      _ ≤ memory * min (node.runningInstances host.ps + 1) (2 ^ 32 - 1) +
          reserveMib node.memMib.toNat := by gcongr
      _ ≤ node.memMib.toNat := hfits

end Nodes

def readyRedroidHost : RedroidCreateHost where
  grantFile := .ok ()
  authorizationPath := .ok ()
  loaded := .ok ()
  authorized := .ok ()
  ps := .rows fun _ => false
  volumeCreated := .ok ()
  dockerRun := .ok ()
  saved := .ok ()

def sizedArgs (inst : String) (memory : UInt32) : RedroidCreateArgs where
  inst := inst
  profile := "standard"
  cpus := none
  memory := some memory
  width := 720
  height := 1280
  dpi := 320
  gpuMode := "guest"
  image := some
    "redroid@sha256:0123456789abcdef0123456789abcdef0123456789abcdef0123456789abcdef"
  binds := []

def largeInstanceNode : Node where
  name := "node1"
  vcpus := 4
  memMib := 6144
  adbPorts := [24500, 24501]
  adbAssignments := [("a", 24500)]
  containers := [⟨"qc-a", 4000, .up justStarted, noPorts⟩]

theorem large_instance_admitted : afterAll Node.step (.fresh "node1" 4 6144 [24500, 24501])
    [.create readyRedroidHost (sizedArgs "a" 4000)] = largeInstanceNode := by
  decide +kernel

end JustRun.Qemu
