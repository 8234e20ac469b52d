import JustRun.Qemu.Admission
import JustRun.Runtime.IdleRelease
import JustRun.Runtime.Pressure

/-!
# Stopping a node

After a release the containers of the node are listed, and the node is stopped where none of the
others is shown at work. A container that restarts is not shown so, and the queue of starts is
not asked.
-/
namespace JustRun.Runtime
open Machine Concurrency SchedulerState RuntimeState

/-- Docker runs the container, holds it paused or is about to run it again. -/
def atWork : Qemu.ContainerStatus → Bool
  | .up _ | .restarting _ => true
  | _ => false

def isRestarting : Qemu.ContainerStatus → Bool
  | .restarting _ => true
  | _ => false

namespace RuntimeState

/-- The names of the other containers of its node. -/
def others (s : RuntimeState) (container : Placed) : List String :=
  ((s.containers container.vm).map Prod.fst).filter (· ≠ container.instanceName)

/-- Nothing else is at work on the node of the container or about to start there. -/
structure NodeEmpty (s : RuntimeState) (container : Placed) : Prop where
  idle : ∀ name ∈ s.others container, ∀ status ∈ s.status? container.vm name, atWork status = false
  noStart : ∀ request ∈ s.scheduler.tracked, request.vm ≠ container.vm

end RuntimeState

/-! ### The condition -/

/-- A row that keeps the node: its instance is up, or the row does not tell. -/
def ListedInstance.keepsNode (row : ListedInstance) : Bool :=
  let status := trim row.status
  status == "" || status.toLower == "unknown" || isRunningStatus status

/-- The listing fails or keeps the node, or the other containers at work are in it and none of
them is restarting, and no start on the node is tracked. -/
def RuntimeState.ListsAll (s : RuntimeState) (choice : RuntimeChoice) (container : Placed) : Prop :=
  ∀ rows ∈ s.listing container.vm choice,
    (∃ row ∈ rows, row.instanceName ≠ container.instanceName ∧ row.keepsNode = true) ∨
    (∀ name ∈ s.others container, ∀ status ∈ s.status? container.vm name, atWork status = true →
      name ∈ s.assignments container.vm ∧ isRestarting status = false) ∧
    ∀ request ∈ s.scheduler.tracked, request.vm ≠ container.vm

instance (s : RuntimeState) (choice : RuntimeChoice) (container : Placed) :
    Decidable (s.ListsAll choice container) :=
  inferInstanceAs (Decidable (∀ rows ∈ s.listing container.vm choice, _))

/-- The container for whose release the handler is about to list a node. -/
def listsFor (w : RuntimeWorld) (pid : ℕ) : Option Placed :=
  match w.request? pid, w.pending? pid with
  | some (.releaseIdle container), some (.list _) => some container
  | _, _ => none

/-- The container after whose release the handler is about to stop a node. -/
def stopsNodeOf (w : RuntimeWorld) (pid : ℕ) : Option Placed :=
  match w.request? pid, w.pending? pid with
  | some (.releaseIdle container), some (.stopVm _) => some container
  | _, _ => none

/-- The section requests no start on the node. -/
def RuntimeState.RequestsNoneOn (s : RuntimeState) (vm : String) (op : RuntimeOp) : Prop :=
  ∀ call ∈ s.sectionCalls op, ∀ request ∈ requested? call, request.vm ≠ vm

instance (s : RuntimeState) (vm : String) (op : RuntimeOp) : Decidable (s.RequestsNoneOn vm op) :=
  inferInstanceAs (Decidable (∀ call ∈ s.sectionCalls op, _))

/-- Every listing for a release shows what is at work, and while a handler is about to stop a
node no start is requested there and no other container of it goes to work. -/
def LeavesNode (w : RuntimeWorld) : RuntimeAction → Prop
  | .exec pid choice => (∀ container ∈ listsFor w pid, w.state.ListsAll choice container) ∧
    ∀ op ∈ w.pending? pid, ∀ e ∈ w.log, ∀ container ∈ stopsNodeOf w e.pid,
      w.state.RequestsNoneOn container.vm op
  | .env (.turn vm name (some status)) => ∀ e ∈ w.log, ∀ container ∈ stopsNodeOf w e.pid,
    container.vm = vm → name ≠ container.instanceName → atWork status = false
  | _ => True

instance (w : RuntimeWorld) (a : RuntimeAction) : Decidable (LeavesNode w a) :=
  match a with
  | .exec _ _ => instDecidableAnd
  | .env (.turn _ _ (some _)) => inferInstanceAs (Decidable (∀ e ∈ w.log, _))
  | .spawn _ _ | .env (.turn _ _ none) | .env (.saveSettings _) | .env (.setClock _)
  | .env (.wait _) | .env (.assign _ _) => .isTrue trivial

/-! ### Statuses in a listing -/

theorem isRunningStatus_text (status : Qemu.ContainerStatus) :
    isRunningStatus status.text = status.isRunning := by
  obtain ⟨-, -, htrimmed, -⟩ := status.text_column
  rw [← Qemu.statusIsRunning_text, isRunningStatus, trim_of_trimmed htrimmed, Qemu.statusIsRunning]
  simp only [Bool.or_assoc]
  rw [Bool.or_comm (List.isPrefixOf _ _)]

theorem ListedInstance.keepsNode_of_running {name : String} {status : Qemu.ContainerStatus}
    (h : status.isRunning = true) : (⟨name, status.text⟩ : ListedInstance).keepsNode = true := by
  obtain ⟨-, -, htrimmed, -⟩ := status.text_column
  simp [keepsNode, trim_of_trimmed htrimmed, isRunningStatus_text, h]

theorem ListedInstance.keepsNode_of_silent (name : String) {status : String}
    (h : status = "" ∨ status = "unknown") : (⟨name, status⟩ : ListedInstance).keepsNode = true := by
  rcases h with rfl | rfl
  · rfl
  · have hsame : (trim "unknown").toLower = "unknown" := by decide +kernel
    simp [keepsNode, hsame]

theorem shouldStop_iff {rows : List ListedInstance} {name : String} :
    shouldStopVmAfterIdleRelease false (some rows) name = true ↔
      ∀ row ∈ rows, row.instanceName ≠ name → row.keepsNode = false := by
  simp [shouldStopVmAfterIdleRelease, ListedInstance.keepsNode, and_assoc, or_iff_not_imp_left]

theorem lookup_turnContainer (containers : List (String × Qemu.ContainerStatus)) (name : String)
    (status : Option Qemu.ContainerStatus) (other : String) :
    (turnContainer containers name status).lookup other =
      if other = name then status else containers.lookup other := by
  have hothers : (containers.filter (·.1 != name)).lookup other =
      if other = name then none else containers.lookup other := by
    induction containers with
    | nil => simp
    | cons head rest ih =>
      by_cases hhead : head.1 = name
      · rw [List.filter_cons_of_neg (by simpa using hhead), ih]
        split
        · rfl
        · next hne => rw [List.lookup_cons, beq_false_of_ne (by rwa [hhead])]
      · rw [List.filter_cons_of_pos (by simpa using hhead), List.lookup_cons, List.lookup_cons, ih]
        split
        · next heq => 
          have hne : other ≠ name := by
            rw [beq_iff_eq.mp heq]
            exact hhead
          rw [if_neg hne]
        · rfl
  cases status with
  | none => exact hothers
  | some status =>
    rw [turnContainer, List.lookup_cons, hothers]
    by_cases hother : other = name
    · simp [hother]
    · simp [hother, beq_false_of_ne hother]

namespace RuntimeState
variable {s : RuntimeState} {container : Placed}

theorem row_keepsNode {vm name : String} {status : Qemu.ContainerStatus}
    (hstatus : s.status? vm name = some status) (h : status.isRunning = true)
    (shown : String → StatusShown) : (s.row vm shown name).keepsNode = true := by
  unfold row
  rw [hstatus]
  cases shown name with
  | text => exact ListedInstance.keepsNode_of_running h
  | blank => exact ListedInstance.keepsNode_of_silent name (.inl rfl)
  | unknown => exact ListedInstance.keepsNode_of_silent name (.inr rfl)

theorem mem_others {name : String} {status : Qemu.ContainerStatus}
    (hname : name ≠ container.instanceName) (h : s.status? container.vm name = some status) :
    name ∈ s.others container := by
  obtain ⟨before, after, hsplit, -⟩ := List.lookup_eq_some_iff.mp h
  simp [others, hsplit, hname]

theorem ne_of_mem_others {name : String} (h : name ∈ s.others container) :
    name ≠ container.instanceName := by
  simpa using List.of_mem_filter h

/-- A listing that keeps nothing of the node back shows that it is empty. -/
theorem ListsAll.nodeEmpty {choice : RuntimeChoice} {rows : List ListedInstance}
    (h : s.ListsAll choice container) (hrows : s.listing container.vm choice = some rows)
    (hstop : shouldStopVmAfterIdleRelease false (some rows) container.instanceName = true) :
    s.NodeEmpty container := by
  rw [shouldStop_iff] at hstop
  rcases h rows hrows with ⟨row, hrow, hother, hkeeps⟩ | ⟨hwork, hstart⟩
  · rw [hstop row hrow hother] at hkeeps
    cases hkeeps
  · refine ⟨fun name hname status hstatus => ?_, hstart⟩
    by_contra hbusy
    rw [Bool.not_eq_false] at hbusy
    obtain ⟨hassigned, hnot⟩ := hwork name hname status hstatus hbusy
    have hrunning : status.isRunning = true := by
      cases status with
      | up detail => rfl
      | restarting detail => cases hnot
      | created | exited | removing | dead => cases hbusy
    -- So the container has a row, and the row keeps the node.
    have hrow : s.row container.vm choice.shown name ∈ rows := by
      unfold listing at hrows
      split at hrows
      · cases hrows
        exact List.mem_map_of_mem hassigned
      · cases hrows
    have hkept := hstop _ hrow (ne_of_mem_others hname)
    rw [row_keepsNode hstatus hrunning] at hkept
    cases hkept

theorem NodeEmpty.section_keeps {scheduler : SchedulerState} {op : RuntimeOp}
    (h : s.NodeEmpty container) (hnone : s.RequestsNoneOn container.vm op)
    (hscheduler : scheduler = final perform s.scheduler (s.sectionCalls op)) :
    (s.withScheduler scheduler).NodeEmpty container := by
  refine ⟨h.idle, fun request hrequest => ?_⟩
  rw [withScheduler_scheduler, hscheduler] at hrequest
  rcases mem_tracked_final hrequest with hrequest | hcall
  · exact h.noStart request hrequest
  · exact hnone _ hcall request rfl

theorem NodeEmpty.turn {vm name : String} {status : Option Qemu.ContainerStatus}
    (h : s.NodeEmpty container) (hturn : ∀ st ∈ status, container.vm = vm →
      name ≠ container.instanceName → atWork st = false) :
    ((RuntimeMove.turn vm name status).apply s).NodeEmpty container := by
  refine ⟨fun other hother st hst => ?_, h.noStart⟩
  have hne := ne_of_mem_others hother
  by_cases hvm : container.vm = vm
  · subst hvm
    have hlookup : (if other = name then status else s.status? container.vm other) = some st := by
      rw [← hst, RuntimeState.status?, RuntimeState.status?, ← lookup_turnContainer]
      simp [RuntimeMove.apply]
    split at hlookup
    · next hsame => exact hturn st hlookup rfl (hsame ▸ hne)
    · exact h.idle other (mem_others hne hlookup) st hlookup
  · have hlookup : s.status? container.vm other = some st := by
      rw [← hst]
      simp [RuntimeState.status?, RuntimeMove.apply, Function.update_of_ne hvm]
    exact h.idle other (mem_others hne hlookup) st hlookup

end RuntimeState

/-! ### Runs -/

/-- The node that the handler is about to stop is empty. -/
def StopsEmpty (r : RuntimeRequest) (_ : List RuntimeEntry) (p : RuntimeProg RuntimeAnswer)
    (s : RuntimeState) : Prop :=
  ∀ container vm next, r = .releaseIdle container → p = .call (.stopVm vm) next → s.NodeEmpty container

theorem stopsNodeOf_eq {w : RuntimeWorld} {pid : ℕ} {container : Placed} {vm : String}
    {next : RuntimeRes (.stopVm vm) → RuntimeProg RuntimeAnswer}
    (ht : w.threads pid = some ⟨.releaseIdle container, .call (.stopVm vm) next⟩) :
    stopsNodeOf w pid = some container := by
  simp [stopsNodeOf, World.request?_eq ht, World.pending?_eq ht]

theorem listsFor_eq {w : RuntimeWorld} {pid : ℕ} {container : Placed} {vm : String}
    {next : RuntimeRes (.list vm) → RuntimeProg RuntimeAnswer}
    (ht : w.threads pid = some ⟨.releaseIdle container, .call (.list vm) next⟩) :
    listsFor w pid = some container := by
  simp [listsFor, World.request?_eq ht, World.pending?_eq ht]

variable {settings : LifecyclePolicy} {now : SystemTime} {uptime : ℕ} {acts : List RuntimeAction}

/-- A handler about to stop a node has an entry in the log. -/
theorem exists_entry_of_stopVm {w : RuntimeWorld}
    (hw : runtime.Reaches (launched settings now uptime) w) {pid : ℕ} {r : RuntimeRequest}
    {vm : String} {next : RuntimeRes (.stopVm vm) → RuntimeProg RuntimeAnswer}
    (ht : w.threads pid = some ⟨r, .call (.stopVm vm) next⟩) : ∃ e ∈ w.log, e.pid = pid := by
  obtain ⟨⟨container, h, rows, -, -, hhistory, -⟩, -⟩ := hw.meets handler_follows ht
  apply World.exists_entry
  rw [hhistory]
  simp

theorem stopsEmpty_run {w : RuntimeWorld}
    (h : runtime.ReachedAlong LeavesNode (launched settings now uptime) w) : w.Each StopsEmpty := by
  refine h.each StopsEmpty ?_ ?_ ?_ ?_
  · intro v pid request _ _ container vm next _ hp
    have hspec := handler_follows request
    rw [Follows, show request.handler = .call (.stopVm vm) next from hp] at hspec
    obtain ⟨⟨_, h', rows, -, -, hnil, -⟩, -⟩ := hspec
    simp at hnil
  · rintro v pid choice request op next reply s' hv hc ht hx - container vm next' rfl hp
    have hspec := (hv.reaches.meets handler_follows ht).2 reply
    rw [hp] at hspec
    obtain ⟨⟨other, h', rows, hother, rfl, hhistory, hstop⟩, -⟩ := hspec
    obtain rfl : container = other := RuntimeRequest.releaseIdle.inj hother
    -- The last call is the listing.
    obtain ⟨rfl, hreply⟩ :=
      Sigma.mk.inj_iff.mp (List.singleton_inj.mp (List.append_inj' hhistory rfl).2)
    obtain rfl := eq_of_heq hreply
    obtain ⟨hrows, rfl⟩ : v.state.listing container.vm choice = some rows ∧ v.state = s' := by
      simpa [runtime, RuntimeState.exec] using hx
    exact (hc.1 container (listsFor_eq ht)).nodeEmpty hrows hstop
  · intro v pid choice request op next reply s' q t hv hc ht hx hqp hq hK container vm next' hr hp
    obtain ⟨request', rest⟩ := t
    obtain rfl : request' = _ := hr
    obtain rfl : rest = _ := hp
    obtain ⟨e, he, rfl⟩ := exists_entry_of_stopVm hv.reaches hq
    rw [exec_scheduler hx]
    exact (hK container vm next' rfl rfl).section_keeps
      (hc.2 op (World.pending?_eq ht) e he container (stopsNodeOf_eq hq)) rfl
  · intro v move q t hv hc hq hK container vm next hr hp
    obtain ⟨request', rest⟩ := t
    obtain rfl : request' = _ := hr
    obtain rfl : rest = _ := hp
    have hempty := hK container vm next rfl rfl
    cases move with
    | saveSettings | setClock | wait | assign => exact ⟨hempty.idle, hempty.noStart⟩
    | turn node name status =>
      apply hempty.turn
      rintro st hst rfl hne
      obtain rfl : status = some st := hst
      obtain ⟨e, he, rfl⟩ := exists_entry_of_stopVm hv.reaches hq
      exact hc e he container (stopsNodeOf_eq hq) rfl hne

/-- Where every listing shows what is at work and nothing goes to work after it, a node is stopped
only when no other container of it is at work and no start on it is tracked. -/
theorem only_empty_nodes_are_stopped
    (h : runtime.Along LeavesNode (launched settings now uptime) acts) (acts' : List RuntimeAction)
    (pid : ℕ) (choice : RuntimeChoice) (hpre : acts' ++ [.exec pid choice] <+: acts) (vm : String) :
    let w := runtime.run (launched settings now uptime) acts'
    w.pending? pid = some (.stopVm vm) → ∃ container, w.request? pid = some (.releaseIdle container) ∧
      container.vm = vm ∧ w.state.NodeEmpty container := by
  intro w hpending
  have hw : runtime.Reaches (launched settings now uptime) w := .run runtime _ acts'
  obtain ⟨r, next, ht⟩ := World.pending?_eq_some hpending
  obtain ⟨⟨container, -, -, rfl, rfl, -, -⟩, -⟩ := hw.meets handler_follows ht
  exact ⟨container, World.request?_eq ht, rfl,
    stopsEmpty_run (h.before hpre) pid _ ht container _ next rfl rfl⟩

/-- The detail of a container that ended 3 seconds ago with this exit code. -/
def endedLately : Qemu.Detail where
  text := "1) 3 seconds ago"
  nonempty := by decide
  oneColumn := by decide +kernel
  trimmed := by decide +kernel

/-- `r13` is released beside `r1`, whose container has this status. -/
def nodeRun (status : Qemu.ContainerStatus) : List RuntimeAction :=
  .env (.assign "node1" ["r13", "r1"]) :: .env (.turn "node1" "r1" (some status)) ::
    releaseRun r13 r13 ++ List.replicate 2 (.exec 2 smooth)

theorem only_empty_nodes_are_stopped_exited :
    let w := runtime.run (launched .default 0 0) (nodeRun (.exited endedLately))
    ∃ container, w.request? 2 = some (.releaseIdle container) ∧ container.vm = "node1" ∧
      w.state.NodeEmpty container := by
  have hleaves : runtime.Along LeavesNode (launched .default 0 0)
      (nodeRun (.exited endedLately) ++ [.exec 2 smooth]) := by decide +kernel
  exact only_empty_nodes_are_stopped hleaves (nodeRun (.exited endedLately)) 2 smooth
    (List.prefix_refl _) "node1" (by decide +kernel)

theorem node_is_stopped_under_a_restarting_container :
    ¬ ∀ (settings : LifecyclePolicy) (now : SystemTime) (uptime : ℕ) (acts acts' : List RuntimeAction)
      (pid : ℕ) (choice : RuntimeChoice), acts' ++ [.exec pid choice] <+: acts → ∀ vm : String,
        let w := runtime.run (launched settings now uptime) acts'
        w.pending? pid = some (.stopVm vm) → ∃ container,
          w.request? pid = some (.releaseIdle container) ∧ container.vm = vm ∧
            w.state.NodeEmpty container := by
  intro h
  have hrequest : (runtime.run (launched .default 0 0)
      (nodeRun (.restarting endedLately))).request? 2 = some (.releaseIdle r13) := by decide +kernel
  obtain ⟨container, hcontainer, -, hempty⟩ := h .default 0 0
    (nodeRun (.restarting endedLately) ++ [.exec 2 smooth]) (nodeRun (.restarting endedLately)) 2
    smooth (List.prefix_refl _) "node1" (by decide +kernel)
  rw [hrequest, Option.some.injEq, RuntimeRequest.releaseIdle.injEq] at hcontainer
  subst hcontainer
  have hidle := hempty.idle "r1" (by decide +kernel) (.restarting endedLately) (by decide +kernel)
  cases hidle

end JustRun.Runtime
