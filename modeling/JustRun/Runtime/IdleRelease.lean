import JustRun.Concurrency.Standing
import JustRun.Runtime.Specification

/-!
# Releasing idle instances

A section finds an instance idle, and its container is stopped after the lock is free again.
The scheduler knows an instance by its name; whose activity a record is, only the caller of the
mark could tell. The marks of the containers themselves are kept here beside the log.
-/
namespace JustRun.Runtime
open Machine Concurrency SchedulerState RuntimeState

/-! ### The marks of the containers -/

structure ContainerMark where
  vm : String
  record : ActivityRecord
  deriving DecidableEq

def ContainerMark.container (m : ContainerMark) : Placed := ⟨m.vm, m.record.instanceName⟩

abbrev RuntimeLog := List (LogEntry RuntimeState RuntimeOp RuntimeRes)

def markContainer (marks : List ContainerMark) (container : Placed) (kind : ActivityKind)
    (time : SystemTime) : List ContainerMark :=
  marks.filter (fun m => m.container != container || m.record.kind != kind) ++
    [⟨container.vm, container.instanceName, kind, time⟩]

def forgetContainer (marks : List ContainerMark) (container : Placed) : List ContainerMark :=
  marks.filter (·.container != container)

/-- What a call says about the container it is about. -/
def remember (marks : List ContainerMark) (e : LogEntry RuntimeState RuntimeOp RuntimeRes) :
    List ContainerMark :=
  match e.op with
  | .mark container kind => markContainer marks container kind e.before.now
  | .settle request (.ok output) =>
    if output.success then markContainer marks request .userWindow e.before.now else marks
  | .clear container | .endReclaim (some container) => forgetContainer marks container
  | _ => marks

/-- The activity of each container, the last of every kind, since it was last released. -/
def marksOf (log : RuntimeLog) : List ContainerMark := log.foldl remember []

/-- The container itself was active, all of it long ago; it is neither protected nor starting. -/
structure ReallyIdle (marks : List ContainerMark) (s : RuntimeState) (container : Placed) : Prop where
  active : ∃ m ∈ marks, m.container = container
  longAgo : ∀ m ∈ marks, m.container = container → s.scheduler.idleTimeout ≤ s.now - m.record.time
  unprotected : container.instanceName ∉ s.scheduler.policy.protectedInstanceIds
  notStarting : container ∉ s.scheduler.starting

/-! ### The condition -/

def RuntimeRequest.container : RuntimeRequest → Placed
  | requestStart request => request
  | releaseIdle container | markActivity container _ | hibernateApp container _ _ => container

/-- The handler may go on to stop a container. -/
def RuntimeRequest.mayStop : RuntimeRequest → Bool
  | hibernateApp _ _ _ => false
  | _ => true

/-- The containers that the handler has found idle and may still stop. -/
def standing (w : RuntimeWorld) (pid : ℕ) : List Placed :=
  match w.request? pid with
  | some request => if request.mayStop then chosen (w.history pid) else []
  | none => []

/-- A call that neither gives the container a turn, nor marks or clears its name, nor brings a
policy under which it is not idle any more. -/
def SchedulerState.LeavesIdle (now : SystemTime) (container : Placed) (s : SchedulerState)
    (call : SchedulerCall) : Prop :=
  served? (call, (s.perform call).1) ≠ some container ∧ match call with
    | .updatePolicy policy => (s.updatePolicy policy).isReclaimable container.instanceName now = true
    | .markActivity name _ _ | .clearInstance name => name ≠ container.instanceName
    | _ => True

instance (now : SystemTime) (container : Placed) (s : SchedulerState) (call : SchedulerCall) :
    Decidable (s.LeavesIdle now container call) := by
  cases call <;> exact instDecidableAnd

/-- The containers that the section is about to find idle are not starting. -/
def RuntimeState.FindsAtRest (s : RuntimeState) : RuntimeOp → Prop
  | .checkIdle container _ => container ∉ s.scheduler.starting
  | .beginReclaim vm now => ∀ name ∈ s.refreshed.reclaimableInstances now,
    (⟨vm, name⟩ : Placed) ∉ s.scheduler.starting
  | _ => True

instance (s : RuntimeState) (op : RuntimeOp) : Decidable (s.FindsAtRest op) := by
  cases op <;> unfold RuntimeState.FindsAtRest <;> infer_instance

/-- Every name belongs to one VM, the wall clock is not set back, a container found idle is not
starting then, and no section disturbs a container that a handler is about to stop. -/
def Undisturbed (owner : String → String) (w : RuntimeWorld) : RuntimeAction → Prop
  | .spawn _ request => owner request.container.instanceName = request.container.vm
  | .exec pid _ => ∀ op ∈ w.pending? pid,
    ((∀ request ∈ w.request? pid, request.mayStop = true) → w.state.FindsAtRest op) ∧
    ∀ e ∈ w.log, ∀ container ∈ standing w e.pid,
      owner container.instanceName = container.vm →
      Throughout perform (LeavesIdle w.state.now container) w.state.scheduler
        (w.state.sectionCalls op)
  | .env (.setClock now) => w.state.now ≤ now
  | .env (.assign vm names) => ∀ name ∈ names, owner name = vm
  | .env _ => True

instance (owner : String → String) (w : RuntimeWorld) (a : RuntimeAction) :
    Decidable (Undisturbed owner w a) :=
  match a with
  | .spawn _ _ => inferInstanceAs (Decidable (_ = _))
  | .exec pid _ => inferInstanceAs (Decidable (∀ op ∈ w.pending? pid, _))
  | .env (.setClock _) => inferInstanceAs (Decidable (_ ≤ _))
  | .env (.assign _ names) => inferInstanceAs (Decidable (∀ name ∈ names, _))
  | .env (.saveSettings _) | .env (.wait _) | .env (.turn _ _ _) => .isTrue trivial

/-! ### One call -/

namespace SchedulerState
variable {s s' : SchedulerState} {name : String} {now : SystemTime} {container : Placed}

theorem isReclaimable_iff : s.isReclaimable name now = true ↔
    name ∉ s.policy.protectedInstanceIds ∧ (∃ item ∈ s.activities, item.instanceName = name) ∧
      ∀ item ∈ s.activities, item.instanceName = name → s.idleTimeout ≤ now - item.time := by
  simp only [isReclaimable, Bool.and_eq_true, Bool.not_eq_true', List.contains_eq_mem,
    decide_eq_false_iff_not, List.isEmpty_eq_false_iff, ne_eq, List.filter_eq_nil_iff, beq_iff_eq,
    not_forall, not_not, List.all_eq_true, List.mem_filter, ge_iff_le, decide_eq_true_eq, and_imp,
    exists_prop, and_assoc]

/-- An instance only grows older. -/
theorem isReclaimable_later {later : SystemTime} (hle : now ≤ later)
    (h : s.isReclaimable name now = true) : s.isReclaimable name later = true := by
  rw [isReclaimable_iff] at h ⊢
  refine ⟨h.1, h.2.1, fun item hitem hname => (h.2.2 item hitem hname).trans ?_⟩
  exact Nat.sub_le_sub_right hle item.time

theorem isReclaimable_of_mem_reclaimable (h : name ∈ s.reclaimableInstances now) :
    s.isReclaimable name now = true := by
  unfold reclaimableInstances at h
  suffices hI : ∀ (items : List ActivityRecord) (found : List String),
      (∀ n ∈ found, s.isReclaimable n now = true) → ∀ n ∈ items.foldl (fun candidates item =>
        if item.instanceName ∈ candidates then candidates
        else if s.isReclaimable item.instanceName now then candidates ++ [item.instanceName]
        else candidates) found, s.isReclaimable n now = true from
    hI s.activities [] (by simp) name h
  intro items
  induction items with
  | nil => exact fun found h => h
  | cons item items ih =>
    intro found hfound
    apply ih
    dsimp only
    split
    · exact hfound
    · split
      · next hidle =>
        intro n hn
        rcases List.mem_append.mp hn with hn | hn
        · exact hfound n hn
        · rw [List.mem_singleton.mp hn]
          exact hidle
      · exact hfound

theorem isReclaimable_congr (hpolicy : s'.policy = s.policy)
    (hsame : ∀ item : ActivityRecord, item.instanceName = name →
      (item ∈ s'.activities ↔ item ∈ s.activities)) :
    s'.isReclaimable name now = true ↔ s.isReclaimable name now = true := by
  simp only [isReclaimable_iff, idleTimeout, hpolicy]
  refine and_congr_right fun _ => and_congr (exists_congr fun item => ?_)
    (forall_congr' fun item => ?_)
  · exact and_congr_left fun hname => hsame item hname
  · constructor
    · exact fun h hitem hname => h ((hsame item hname).mpr hitem) hname
    · exact fun h hitem hname => h ((hsame item hname).mp hitem) hname

theorem perform_activities (s : SchedulerState) (call : SchedulerCall) :
    (s.perform call).2.activities = match call with
      | .markActivity name kind time => (s.markActivity name kind time).activities
      | .clearInstance name => (s.clearInstance name).activities
      | _ => s.activities := by
  cases call with
  | requestStart request =>
    simp only [perform, requestStart]
    split
    · rfl
    · split <;> rfl
  | finishStart request success =>
    simp only [perform, finishStart]
    split <;> rfl
  | promoteNextStart =>
    simp only [perform, promoteNextStart]
    split
    · rfl
    · split
      · rfl
      · split <;> rfl
  | cancelQueuedStart request =>
    simp only [perform, cancelQueuedStart]
    split <;> rfl
  | beginReclaim =>
    simp only [perform, SchedulerState.beginReclaim]
    split <;> rfl
  | _ => rfl

theorem perform_policy (s : SchedulerState) (call : SchedulerCall) :
    (s.perform call).2.policy = match call with
      | .updatePolicy policy => policy.withStart
      | _ => s.policy := by
  cases call with
  | requestStart request =>
    simp only [perform, requestStart]
    split
    · rfl
    · split <;> rfl
  | finishStart request success =>
    simp only [perform, finishStart]
    split <;> rfl
  | promoteNextStart =>
    simp only [perform, promoteNextStart]
    split
    · rfl
    · split
      · rfl
      · split <;> rfl
  | cancelQueuedStart request =>
    simp only [perform, cancelQueuedStart]
    split <;> rfl
  | beginReclaim =>
    simp only [perform, SchedulerState.beginReclaim]
    split <;> rfl
  | _ => rfl

theorem mem_starting_effect {event : Option StartEvent} (he : StartEffect s event s')
    (h : container ∈ s'.starting) :
    container ∈ s.starting ∨ event.bind StartEvent.served? = some container := by
  cases he with
  | queued | cancelled | beside => exact .inl h
  | finished => exact .inl (List.mem_of_mem_erase h)
  | admitted request _ _ | promoted request _ _ _ =>
    rcases List.mem_append.mp h with h | h
    · exact .inl h
    · exact .inr (by rw [List.mem_singleton.mp h]; rfl)

/-- The scheduler holds the container for idle. -/
def HoldsIdle (now : SystemTime) (container : Placed) (s : SchedulerState) : Prop :=
  s.isReclaimable container.instanceName now = true ∧ container ∉ s.starting

theorem LeavesIdle.keeps {call : SchedulerCall} (hleaves : s.LeavesIdle now container call)
    (h : HoldsIdle now container s) : HoldsIdle now container (s.perform call).2 := by
  obtain ⟨hturn, hcall⟩ := hleaves
  constructor
  · cases call with
    | updatePolicy policy => exact hcall
    | markActivity name kind time =>
      refine (isReclaimable_congr (perform_policy s _) fun item hitem => ?_).mpr h.1
      have hother : item.instanceName ≠ name := fun hsame => hcall (hsame.symm.trans hitem)
      have hnew : item ≠ ⟨name, kind, time⟩ := fun hsame => hother (by rw [hsame])
      simp [perform, markActivity, hother, hnew]
    | clearInstance name =>
      refine (isReclaimable_congr (perform_policy s _) fun item hitem => ?_).mpr h.1
      have hother : item.instanceName ≠ name := fun hsame => hcall (hsame.symm.trans hitem)
      simp [perform, clearInstance, hother]
    | requestStart | finishStart | promoteNextStart | cancelQueuedStart | beginReclaim
    | finishReclaim =>
      refine (isReclaimable_congr (perform_policy s _) fun item _ => ?_).mpr h.1
      rw [perform_activities]
  · intro hin
    rcases mem_starting_effect (s.perform_effect call) hin with hin | hserved
    · exact h.2 hin
    · exact hturn hserved

end SchedulerState

/-! ### Marks and records -/

/-- The records of the scheduler are the marks of the containers without their VMs. -/
structure Recorded (owner : String → String) (marks : List ContainerMark)
    (activities : List ActivityRecord) : Prop where
  same : activities = marks.map ContainerMark.record
  owned : ∀ m ∈ marks, owner m.record.instanceName = m.vm

section Recorded
variable {owner : String → String} {marks : List ContainerMark} {container : Placed}
  {s s' : RuntimeState}

/-- Where every name belongs to one VM, it says which container is meant. -/
theorem container_eq_iff {m : ContainerMark} (hm : owner m.record.instanceName = m.vm)
    (hc : owner container.instanceName = container.vm) :
    m.container = container ↔ m.record.instanceName = container.instanceName := by
  constructor
  · rintro rfl
    rfl
  · intro hname
    have hvm : m.vm = container.vm := by rw [← hm, ← hc, hname]
    simp [ContainerMark.container, hvm, hname]

theorem container_bne {m : ContainerMark} (hm : owner m.record.instanceName = m.vm)
    (hc : owner container.instanceName = container.vm) :
    (m.container != container) = (m.record.instanceName != container.instanceName) := by
  rw [Bool.eq_iff_iff, bne_iff_ne, bne_iff_ne, ne_eq, ne_eq, container_eq_iff hm hc]

theorem Recorded.mark {scheduler : SchedulerState} (h : Recorded owner marks scheduler.activities)
    (hc : owner container.instanceName = container.vm) (kind : ActivityKind) (time : SystemTime) :
    Recorded owner (markContainer marks container kind time)
      (scheduler.markActivity container.instanceName kind time).activities := by
  constructor
  · simp only [markActivity, markContainer, h.same, List.map_append, List.map_cons, List.map_nil,
      List.filter_map]
    congr 2
    apply List.filter_congr
    intro m hm
    rw [container_bne (h.owned m hm) hc]
    rfl
  · intro m hm
    rcases List.mem_append.mp hm with hm | hm
    · exact h.owned m (List.mem_of_mem_filter hm)
    · rw [List.mem_singleton.mp hm]
      exact hc

theorem Recorded.forget {scheduler : SchedulerState} (h : Recorded owner marks scheduler.activities)
    (hc : owner container.instanceName = container.vm) :
    Recorded owner (forgetContainer marks container)
      (scheduler.clearInstance container.instanceName).activities := by
  constructor
  · simp only [clearInstance, forgetContainer, h.same, List.filter_map]
    congr 1
    apply List.filter_congr
    intro m hm
    rw [container_bne (h.owned m hm) hc]
    rfl
  · exact fun m hm => h.owned m (List.mem_of_mem_filter hm)

/-- The call neither marks nor clears an instance. -/
def SchedulerCall.quiet : SchedulerCall → Bool
  | markActivity _ _ _ | clearInstance _ => false
  | _ => true

theorem final_activities {scheduler : SchedulerState} {calls : List SchedulerCall}
    (h : ∀ call ∈ calls, call.quiet = true) :
    (final perform scheduler calls).activities = scheduler.activities := by
  induction calls generalizing scheduler with
  | nil => rfl
  | cons call calls ih =>
    have hquiet := h call List.mem_cons_self
    have hfirst : (scheduler.perform call).2.activities = scheduler.activities := by
      rw [perform_activities]
      cases call with
      | markActivity | clearInstance => cases hquiet
      | _ => rfl
    exact (ih fun call hcall => h call (List.mem_cons_of_mem _ hcall)).trans hfirst

/-- The container whose records a call changes. -/
def RuntimeOp.recorded? : RuntimeOp → Option Placed
  | mark container _ | clear container => some container
  | settle request _ => some request
  | endReclaim released => released
  | _ => none

theorem sectionCalls_quiet {op : RuntimeOp} (h : op.recorded? = none) :
    ∀ call ∈ s.sectionCalls op, call.quiet = true := by
  cases op with
  | mark | clear | settle => cases h
  | endReclaim released =>
    cases h
    simp [sectionCalls, SchedulerCall.quiet]
  | gate request pressure =>
    simp only [sectionCalls, gateCalls]
    split <;> simp [SchedulerCall.quiet]
  | regate request pressure =>
    simp only [sectionCalls, gateCalls]
    split <;> simp [SchedulerCall.quiet]
  | awaitTurn request deadline =>
    simp only [sectionCalls]
    split <;> simp [SchedulerCall.quiet]
  | beginReclaim vm now =>
    simp only [sectionCalls]
    split <;> simp [SchedulerCall.quiet]
  | _ => simp [sectionCalls, SchedulerCall.quiet]

theorem Recorded.exec {choice : RuntimeChoice} {op : RuntimeOp} {r : RuntimeRes op} {pid : ℕ}
    (h : Recorded owner marks s.scheduler.activities)
    (hplace : ∀ container ∈ op.recorded?, owner container.instanceName = container.vm)
    (hx : s.exec choice op = some (r, s')) :
    Recorded owner (remember marks ⟨pid, s, op, r⟩) s'.scheduler.activities := by
  rw [exec_scheduler hx, withScheduler_scheduler]
  by_cases hnone : op.recorded? = none
  · have hsame : remember marks ⟨pid, s, op, r⟩ = marks := by
      cases op with
      | mark | clear | settle => cases hnone
      | endReclaim released =>
        cases hnone
        rfl
      | _ => rfl
    rw [hsame, final_activities (sectionCalls_quiet hnone)]
    exact h
  · cases op with
    | mark container kind =>
      have hrecorded : Recorded owner marks s.refreshed.activities := h
      exact hrecorded.mark (hplace _ rfl) kind s.now
    | clear container => exact h.forget (hplace _ rfl)
    | endReclaim released =>
      cases released with
      | none => exact absurd rfl hnone
      | some container =>
        have hrecorded : Recorded owner marks s.scheduler.finishReclaim.activities := h
        exact hrecorded.forget (hplace _ rfl)
    | settle request result =>
      cases result with
      | error error =>
        rw [final_activities (by simp [sectionCalls, settleCalls, SchedulerCall.quiet])]
        exact h
      | ok output =>
        cases hsuccess : output.success with
        | false =>
          rw [final_activities (by simp [sectionCalls, settleCalls, hsuccess, SchedulerCall.quiet])]
          simpa [remember, hsuccess] using h
        | true =>
          have hcalls : s.sectionCalls (.settle request (.ok output)) =
              .markActivity request.instanceName .userWindow s.now ::
                [.finishStart request true, .promoteNextStart] := by
            simp [sectionCalls, settleCalls, hsuccess]
          have hquiet : ∀ call ∈ [SchedulerCall.finishStart request true, .promoteNextStart],
              call.quiet = true := by simp [SchedulerCall.quiet]
          have hrest : (final perform
              (s.scheduler.markActivity request.instanceName .userWindow s.now) _).activities = _ :=
            final_activities hquiet
          have hremember : remember marks ⟨pid, s, .settle request (.ok output), r⟩ =
              markContainer marks request .userWindow s.now := by
            simp [remember, hsuccess]
          have hmark := h.mark (hplace request rfl) .userWindow s.now
          rw [← hrest] at hmark
          rw [hcalls, hremember]
          exact hmark
    | _ => exact absurd rfl hnone

end Recorded

/-! ### Runs -/

section Runs
variable {owner : String → String} {settings : LifecyclePolicy} {now : SystemTime} {uptime : ℕ}
  {w v : RuntimeWorld} {pid : ℕ} {choice : RuntimeChoice} {op : RuntimeOp}
  {reply : RuntimeRes op} {s' : RuntimeState} {container : Placed}

theorem assignments_owned
    (h : runtime.ReachedAlong (Undisturbed owner) (launched settings now uptime) w) :
    ∀ vm, ∀ name ∈ w.state.assignments vm, owner name = vm := by
  refine h.keeps (fun w => ∀ vm, ∀ name ∈ w.state.assignments vm, owner name = vm) ?_ ?_
  · intro vm name hname
    cases hname
  · intro v a _ hc ih
    rcases runtime.step_cases v a with hs | ⟨q, request, rfl, -, hs⟩ |
      ⟨q, choice, request, op, next, r, s', rfl, -, hx, hs⟩ | ⟨move, rfl, hs⟩
    · rwa [hs]
    · rwa [hs]
    · rw [hs, World.afterCall_state, exec_scheduler hx]
      exact ih
    · rw [hs]
      cases move with
      | assign vm names =>
        intro vm' name hname
        by_cases hvm : vm' = vm
        · subst hvm
          simp only [runtime, RuntimeMove.apply, Function.update_self] at hname
          exact hc name hname
        · simp only [runtime, RuntimeMove.apply, Function.update_of_ne hvm] at hname
          exact ih vm' name hname
      | _ => exact ih

/-- What is known of a handler in flight. -/
structure Stands (owner : String → String) (r : RuntimeRequest) (h : List RuntimeEntry)
    (s : RuntimeState) : Prop where
  placed : owner r.container.instanceName = r.container.vm
  read : ∀ t, (⟨.clock, t⟩ : RuntimeEntry) ∈ h → t ≤ s.now
  listed : ∀ container, Listed h container → owner container.instanceName = container.vm
  idle : r.mayStop = true → ∀ container ∈ chosen h,
    owner container.instanceName = container.vm → HoldsIdle s.now container s.scheduler

theorem mem_choose {held : List Placed} {entry : RuntimeEntry} (h : container ∈ choose held entry) :
    container ∈ held ∨ (∃ now warm, entry = ⟨.checkIdle container now, .idle warm⟩) ∨
      ∃ now candidates, entry = ⟨.beginReclaim container.vm now, some candidates⟩ ∧
        container.instanceName ∈ candidates := by
  unfold choose at h
  split at h
  · rw [List.mem_singleton] at h
    exact .inr (.inl ⟨_, _, by rw [h]⟩)
  · obtain ⟨name, hname, rfl⟩ := List.mem_map.mp h
    exact .inr (.inr ⟨_, _, rfl, hname⟩)
  · cases h
  · cases h
  · cases h
  · cases h
  · exact .inl h

/-- The sections leave a container idle that a handler is about to stop. -/
theorem leaves_standing {r : RuntimeRequest} {next : RuntimeRes op → RuntimeProg RuntimeAnswer}
    {q : ℕ} {t : Thread RuntimeRequest RuntimeOp RuntimeRes String RuntimeAnswer}
    (hc : Undisturbed owner v (.exec pid choice)) (ht : v.threads pid = some ⟨r, .call op next⟩)
    (hx : v.state.exec choice op = some (reply, s')) (hq : v.threads q = some t)
    (hmay : t.request.mayStop = true) (hmem : container ∈ chosen (v.history q))
    (hplace : owner container.instanceName = container.vm)
    (hidle : HoldsIdle v.state.now container v.state.scheduler) :
    HoldsIdle s'.now container s'.scheduler := by
  have hne : v.history q ≠ [] := by
    intro hnil
    rw [hnil] at hmem
    cases hmem
  obtain ⟨e, he, rfl⟩ := World.exists_entry hne
  have hstanding : container ∈ standing v e.pid := by
    simp only [standing, World.request?_eq hq, hmay, if_true]
    exact hmem
  have hleaves := (hc op (World.pending?_eq ht)).2 e he container hstanding hplace
  rw [exec_scheduler hx]
  exact hleaves.keeps hidle fun _ _ hcall h => hcall.keeps h

theorem foundIdle_checkIdle (choice : RuntimeChoice) {s : RuntimeState} {t : SystemTime} {warm : Bool}
    (hx : s.exec choice (.checkIdle container t) = some (.idle warm, s')) (hread : t ≤ s.now)
    (hrest : s.FindsAtRest (.checkIdle container t)) :
    HoldsIdle s'.now container s'.scheduler := by
  obtain ⟨hreply, rfl⟩ : checkIdle s.refreshed container.instanceName t = .idle warm ∧
      s.withScheduler s.refreshed = s' := by
    simpa [RuntimeState.exec] using hx
  unfold checkIdle at hreply
  split at hreply
  · next hidle => exact ⟨isReclaimable_later hread hidle, hrest⟩
  · cases hreply

theorem foundIdle_beginReclaim (choice : RuntimeChoice) {s : RuntimeState} {t : SystemTime} {candidates : List String}
    (hx : s.exec choice (.beginReclaim container.vm t) = some (some candidates, s'))
    (hread : t ≤ s.now) (hrest : s.FindsAtRest (.beginReclaim container.vm t))
    (hname : container.instanceName ∈ candidates) : HoldsIdle s'.now container s'.scheduler := by
  obtain ⟨hreply, rfl⟩ : (RuntimeState.beginReclaim s.refreshed t).1 = some candidates ∧
      s.withScheduler (RuntimeState.beginReclaim s.refreshed t).2 = s' := by
    simpa [RuntimeState.exec, Prod.ext_iff] using hx
  unfold RuntimeState.beginReclaim at hreply ⊢
  cases hauto : s.refreshed.policy.autoReleaseIdleOnCritical with
  | false => simp [hauto] at hreply
  | true =>
    cases hflag : s.refreshed.reclaimInFlight with
    | true => simp [hauto, SchedulerState.beginReclaim, hflag] at hreply
    | false =>
      simp only [hauto, Bool.not_true, Bool.false_eq_true, if_false, SchedulerState.beginReclaim,
        hflag, Option.some.injEq] at hreply ⊢
      have hfound : container.instanceName ∈ s.refreshed.reclaimableInstances t := by
        rw [← hreply] at hname
        exact hname
      exact ⟨isReclaimable_later hread (isReclaimable_of_mem_reclaimable hfound),
        hrest container.instanceName hfound⟩

theorem stands_run (h : runtime.ReachedAlong (Undisturbed owner) (launched settings now uptime) w) :
    w.Each fun r h _ s => Stands owner r h s := by
  refine h.each (fun r h _ s => Stands owner r h s) ?_ ?_ ?_ ?_
  · intro v pid request _ hc
    refine ⟨hc, by simp, ?_, ?_⟩
    · rintro container ⟨rows, hmem, -⟩
      cases hmem
    · intro _ container hmem
      cases hmem
  · intro v pid choice r op next reply s' hv hc ht hx hK
    have hnow : s'.now = v.state.now := by rw [exec_scheduler hx]; rfl
    refine ⟨hK.placed, ?_, ?_, ?_⟩
    · intro t hmem
      rw [hnow]
      rcases List.mem_append.mp hmem with hmem | hmem
      · exact hK.read t hmem
      · obtain ⟨rfl, ht'⟩ := Sigma.mk.inj_iff.mp (List.mem_singleton.mp hmem)
        obtain rfl := eq_of_heq ht'
        cases hx
        exact le_refl _
    · rintro container ⟨rows, hmem, row, hrow, hname⟩
      rcases List.mem_append.mp hmem with hmem | hmem
      · exact hK.listed container ⟨rows, hmem, row, hrow, hname⟩
      · -- The rows of a listing are the instances assigned to the node.
        obtain ⟨rfl, hrows⟩ := Sigma.mk.inj_iff.mp (List.mem_singleton.mp hmem)
        obtain rfl := eq_of_heq hrows
        have hlisting : v.state.listing container.vm choice = some rows := by
          have := congrArg (Option.map Prod.fst) hx
          simpa [runtime, RuntimeState.exec] using this
        unfold listing at hlisting
        split at hlisting
        · cases hlisting
          obtain ⟨name, hassigned, rfl⟩ := List.mem_map.mp hrow
          rw [← hname]
          exact assignments_owned hv container.vm name hassigned
        · cases hlisting
    · intro hmay container hmem hplace
      rw [chosen_snoc] at hmem
      rcases mem_choose hmem with hmem | ⟨t, warm, hentry⟩ | ⟨t, candidates, hentry, hname⟩
      · exact leaves_standing hc ht hx ht hmay hmem hplace (hK.idle hmay container hmem hplace)
      all_goals
        obtain ⟨rfl, hreply⟩ := Sigma.mk.inj_iff.mp hentry
        obtain rfl := eq_of_heq hreply
        have hallowed := (hv.reaches.meets handler_follows ht).1
        have hrest := (hc _ (World.pending?_eq ht)).1 fun request hrequest => by
          rw [World.request?_eq ht, Option.mem_some_iff] at hrequest
          rwa [← hrequest]
        have hread := hK.read t hallowed.2
      · exact foundIdle_checkIdle choice hx hread hrest
      · exact foundIdle_beginReclaim choice hx hread hrest hname
  · intro v pid choice r op next reply s' q t hv hc ht hx _ hq hK
    have hnow : s'.now = v.state.now := by rw [exec_scheduler hx]; rfl
    refine ⟨hK.placed, fun t ht => hnow ▸ hK.read t ht, hK.listed, ?_⟩
    intro hmay container hmem hplace
    exact leaves_standing hc ht hx hq hmay hmem hplace (hK.idle hmay container hmem hplace)
  · intro v move q t hv hc hq hK
    have hlater : v.state.now ≤ (move.apply v.state).now := by
      cases move with
      | setClock now => exact hc
      | _ => exact le_refl _
    refine ⟨hK.placed, fun t ht => (hK.read t ht).trans hlater, hK.listed, ?_⟩
    intro hmay container hmem hplace
    obtain ⟨hidle, hrest⟩ := hK.idle hmay container hmem hplace
    show HoldsIdle (move.apply v.state).now container (move.apply v.state).scheduler
    rw [apply_scheduler]
    exact ⟨isReclaimable_later hlater hidle, hrest⟩

theorem recorded_owned {r : RuntimeRequest} {h : List RuntimeEntry} {s : RuntimeState}
    (hK : Stands owner r h s) (hallowed : Allowed r h op) (hop : container ∈ op.recorded?) :
    owner container.instanceName = container.vm := by
  cases op with
  | mark c kind =>
    cases hop
    obtain ⟨kind, rfl⟩ := hallowed
    exact hK.placed
  | clear c =>
    cases hop
    obtain rfl : r = .releaseIdle container := hallowed
    exact hK.placed
  | settle request result =>
    cases hop
    obtain rfl : r = .requestStart container := hallowed
    exact hK.placed
  | endReclaim released => exact hK.listed container (hallowed container hop)
  | _ => cases hop

theorem marks_run (h : runtime.ReachedAlong (Undisturbed owner) (launched settings now uptime) w) :
    Recorded owner (marksOf w.log) w.state.scheduler.activities := by
  refine h.keeps (fun w => Recorded owner (marksOf w.log) w.state.scheduler.activities)
    ⟨rfl, fun _ hm => by cases hm⟩ ?_
  intro v a hv hc ih
  rcases runtime.step_cases v a with hs | ⟨q, request, rfl, -, hs⟩ |
    ⟨q, choice, request, op, next, r, s', rfl, ht, hx, hs⟩ | ⟨move, rfl, hs⟩
  · rwa [hs]
  · rwa [hs]
  · have hallowed := (hv.reaches.meets handler_follows ht).1
    have hstands := stands_run hv q _ ht
    have hsnoc : marksOf (v.log ++ [⟨q, v.state, op, r⟩]) =
        remember (marksOf v.log) ⟨q, v.state, op, r⟩ := by simp [marksOf]
    rw [hs, World.afterCall_log, World.afterCall_state, hsnoc]
    exact ih.exec (fun container hop => recorded_owned hstands hallowed hop) hx
  · rw [hs]
    show Recorded owner (marksOf v.log) (move.apply v.state).scheduler.activities
    rw [apply_scheduler]
    exact ih

end Runs

/-- The container of this mark is active once, and that one is released 31 minutes later. -/
def releaseRun (marked released : Placed) : List RuntimeAction :=
  serve 1 (.markActivity marked "stream") 1 ++ .env (.setClock (31 * 60 * 10 ^ 9)) ::
    serve 2 (.releaseIdle released) 2

/-- An instance of the same name on another node. -/
def namesake : Placed := ⟨"node2", "r13"⟩

end JustRun.Runtime
