import JustRun.Runtime.Sections

/-!
# The head of the queue

A freed slot is handed on in the section that frees it, once. Where the limit rises, the head
gives up, or one start frees its VM for two requests, the next in the queue is left beside a
free slot until another start ends.
-/
namespace JustRun.Runtime
open Machine Concurrency

namespace SchedulerState
variable (s : SchedulerState) (request : StartRequest)

/-- The head of the queue could not be admitted. -/
def HeadWaits : Prop := ∀ q ∈ s.queuedStarts.head?, ¬ s.Admissible q.vm

instance : Decidable s.HeadWaits :=
  decidable_of_iff ((s.queuedStarts.head?.all fun q => decide ¬ s.Admissible q.vm) = true)
    (by simp [HeadWaits, Option.all_eq_true])

/-- The request is admitted, and with it the last slot is used or the VM of the head. -/
def TakesTurnOfHead : Prop :=
  request ∉ s.starting ++ s.queuedStarts ∧ s.Admissible request.vm ∧
    ∀ q ∈ s.queuedStarts.head?, s.policy.maxParallelStarts ≤ s.startsInFlight + 1 ∨
      q.vm = request.vm

/-- Where the request is the head of the queue, the one behind it could not be admitted either. -/
def NextWaits : Prop :=
  ∀ rest, s.queuedStarts = request :: rest → ∀ q ∈ rest.head?, ¬ s.Admissible q.vm

/-- Where the head waits only for the VM of this start, the one behind it waits for its own VM. -/
def NextWaitsForVm : Prop :=
  request ∈ s.starting → s.startsInFlight < s.policy.maxParallelStarts →
    ∀ head next rest, s.queuedStarts = head :: next :: rest → head.vm = request.vm →
      s.vmStarting next.vm = true

variable {s request}

theorem headWaits_nil (h : s.queuedStarts = []) : s.HeadWaits := by
  simp [HeadWaits, h]

theorem headWaits_cons {q : StartRequest} {rest : List StartRequest}
    (h : s.queuedStarts = q :: rest) : s.HeadWaits ↔ ¬ s.Admissible q.vm := by
  simp [HeadWaits, h]

theorem not_admissible_of_full {vm : String} (h : s.policy.maxParallelStarts ≤ s.startsInFlight) :
    ¬ s.Admissible vm :=
  fun hturn => UInt32.not_le.mpr hturn.1 h

theorem not_admissible_of_starting {vm : String} (h : s.vmStarting vm = true) :
    ¬ s.Admissible vm :=
  fun hturn => Bool.noConfusion (hturn.2.symm.trans h)

theorem vmStarting_beginStart (vm : String) :
    (s.beginStart request).vmStarting vm = (s.vmStarting vm || request.vm == vm) := by
  simp [vmStarting, beginStart]

/-- After an admission another request finds one slot less and one VM less. -/
theorem admissible_beginStart (vm : String) : (s.beginStart request).Admissible vm ↔
    s.startsInFlight + 1 < s.policy.maxParallelStarts ∧ s.vmStarting vm = false ∧
      request.vm ≠ vm := by
  simp only [Admissible, vmStarting_beginStart, Bool.or_eq_false_iff, beq_eq_false_iff_ne]
  rfl

/-! ### One section -/

theorem headWaits_requestStart :
    (s.requestStart request).2.HeadWaits ↔ s.HeadWaits ∨ s.TakesTurnOfHead request := by
  by_cases htracked : request ∈ s.starting ∨ request ∈ s.queuedStarts
  · have hnot : ¬ s.TakesTurnOfHead request := fun h => h.1 (by simpa using htracked)
    simp only [requestStart, if_pos htracked, hnot, or_false]
  · by_cases hfull : s.startsInFlight ≥ s.policy.maxParallelStarts ∨ s.vmStarting request.vm
    · have hturn : ¬ s.Admissible request.vm :=
        hfull.elim not_admissible_of_full not_admissible_of_starting
      have hnot : ¬ s.TakesTurnOfHead request := fun h => hturn h.2.1
      simp only [requestStart, if_neg htracked, if_pos hfull, hnot, or_false]
      cases hq : s.queuedStarts with
      | nil => 
        simp only [HeadWaits, hq, List.nil_append, List.head?_cons, List.head?_nil]
        simpa [Admissible, vmStarting] using hturn
      | cons q rest => simp [HeadWaits, hq, Admissible, vmStarting]
    · rw [not_or, Bool.not_eq_true] at hfull
      have hturn : s.Admissible request.vm := ⟨UInt32.not_le.mp hfull.1, hfull.2⟩
      have hnew : request ∉ s.starting ++ s.queuedStarts := by simpa using htracked
      rw [requestStart_of_admissible hnew hturn]
      cases hq : s.queuedStarts with
      | nil => simp only [headWaits_nil (s := s.beginStart request) hq, headWaits_nil hq, true_or]
      | cons q rest =>
        have hslot : s.startsInFlight + 1 < s.policy.maxParallelStarts ↔
            ¬ s.policy.maxParallelStarts ≤ s.startsInFlight + 1 := UInt32.not_le.symm
        rw [headWaits_cons (s := s.beginStart request) hq, headWaits_cons hq, admissible_beginStart, hslot]
        simp only [TakesTurnOfHead, hq, List.head?_cons, Option.mem_def, Option.some.injEq,
          forall_eq', Admissible, hturn.1, hturn.2, true_and]
        have hnew' : request ∉ s.starting ++ q :: rest := hq ▸ hnew
        rw [eq_comm (a := q.vm)]
        simp only [hnew', not_false_eq_true, true_and]
        tauto

theorem headWaits_cancelQueuedStart (h : s.HeadWaits) :
    (s.cancelQueuedStart request).2.HeadWaits ↔ s.NextWaits request := by
  unfold cancelQueuedStart
  by_cases hqueued : request ∈ s.queuedStarts
  · rw [if_pos hqueued]
    cases hq : s.queuedStarts with
    | nil => simp [hq] at hqueued
    | cons q rest =>
      by_cases hr : q = request
      · subst hr
        simp [HeadWaits, NextWaits, hq, Admissible, vmStarting]
      · have hkept : (q :: rest).erase request = q :: rest.erase request := by simp [hr]
        have hhead : ¬ s.Admissible q.vm := (headWaits_cons hq).mp h
        constructor
        · intro _ rest' hsame
          exact absurd (List.head_eq_of_cons_eq (hq.symm.trans hsame)) hr
        · intro _
          rw [hkept]
          simpa [HeadWaits, Admissible, vmStarting] using hhead
  · rw [if_neg hqueued]
    refine ⟨fun _ rest hq => absurd ?_ hqueued, fun _ => h⟩
    rw [hq]
    exact List.mem_cons_self

/-- The scheduler after the start has ended, before the next one is promoted. -/
def ended (s : SchedulerState) (request : StartRequest) : SchedulerState :=
  { s with startsInFlight := saturatingPred s.startsInFlight
           starting := s.starting.erase request }

/-- A start that ends frees its VM and no other. -/
theorem vmStarting_ended (hs : s.Sound) (hin : request ∈ s.starting) (vm : String) :
    (s.ended request).vmStarting vm = (s.vmStarting vm && request.vm != vm) := by
  rw [Bool.eq_iff_iff]
  simp only [vmStarting, ended, List.any_eq_true, beq_iff_eq, Bool.and_eq_true, bne_iff_ne, ne_eq]
  have honce := hs.oneForEachVm
  have hperm : s.starting.Perm (request :: s.starting.erase request) := List.perm_cons_erase hin
  rw [(hperm.map StartRequest.vm).nodup_iff, List.map_cons, List.nodup_cons] at honce
  constructor
  · rintro ⟨r, hr, rfl⟩
    refine ⟨⟨r, List.mem_of_mem_erase hr, rfl⟩, fun hvm => honce.1 ?_⟩
    rw [hvm]
    exact List.mem_map_of_mem hr
  · rintro ⟨⟨r, hr, rfl⟩, hvm⟩
    have hne : r ≠ request := fun h => hvm (by rw [h])
    exact ⟨r, (List.mem_erase_of_ne hne).mpr hr, rfl⟩

theorem promoteNextStart_of_waits (h : s.HeadWaits) : s.promoteNextStart = (none, s) := by
  unfold promoteNextStart
  by_cases hfull : s.startsInFlight ≥ s.policy.maxParallelStarts
  · rw [if_pos hfull]
  · rw [if_neg hfull]
    cases hq : s.queuedStarts with
    | nil => rfl
    | cons q rest =>
      have hvm : s.vmStarting q.vm = true := by
        by_contra hfree
        exact (headWaits_cons hq).mp h ⟨UInt32.not_le.mp hfull, by simpa using hfree⟩
      simp only [hvm, if_true]

theorem promoteNextStart_of_admissible {q : StartRequest} {rest : List StartRequest}
    (hq : s.queuedStarts = q :: rest) (h : s.Admissible q.vm) :
    s.promoteNextStart = (some q, { s with queuedStarts := rest }.beginStart q) := by
  have hfull : ¬ s.startsInFlight ≥ s.policy.maxParallelStarts := UInt32.not_le.mpr h.1
  simp only [promoteNextStart, if_neg hfull, hq, h.2, Bool.false_eq_true, if_false]

/-- Where the head is promoted, the slot and the VM that were free before are so again. -/
theorem headWaits_promoted (hs : s.Sound) (hin : request ∈ s.starting) (h : s.HeadWaits)
    {q : StartRequest} {rest : List StartRequest} (hq : s.queuedStarts = q :: rest)
    (hturn : (s.ended request).Admissible q.vm) :
    ({ s.ended request with queuedStarts := rest }.beginStart q).HeadWaits ↔
      s.NextWaitsForVm request := by
  have hpos : 0 < s.starting.length := List.length_pos_of_mem hin
  have hcount : (saturatingPred s.startsInFlight + 1).toNat = s.startsInFlight.toNat := by
    have hsucc : (saturatingPred s.startsInFlight + 1).toNat =
        (saturatingPred s.startsInFlight).toNat + 1 := toNat_succ hturn.1
    rw [hsucc, toNat_saturatingPred, hs.counted]
    omega
  have hslot : saturatingPred s.startsInFlight + 1 = s.startsInFlight := UInt32.toNat_inj.mp hcount
  -- The head was waiting for the slot, or for the VM that the start has freed.
  have hwhy : s.startsInFlight < s.policy.maxParallelStarts → q.vm = request.vm := by
    intro hroom
    by_contra hvm
    refine (headWaits_cons hq).mp h ⟨hroom, ?_⟩
    have hfree := hturn.2
    rw [vmStarting_ended hs hin] at hfree
    simpa [Ne.symm hvm] using hfree
  have hnext : ∀ next : StartRequest, q.vm = request.vm →
      (({ s.ended request with queuedStarts := rest }.beginStart q).Admissible next.vm ↔
        s.startsInFlight < s.policy.maxParallelStarts ∧ s.vmStarting next.vm = false) := by
    intro next hvm
    have hfree : ({ s.ended request with queuedStarts := rest } : SchedulerState).vmStarting next.vm =
        (s.vmStarting next.vm && request.vm != next.vm) := vmStarting_ended hs hin next.vm
    have hroom : ({ s.ended request with queuedStarts := rest } : SchedulerState).startsInFlight + 1 =
        s.startsInFlight := hslot
    rw [admissible_beginStart, hfree, hroom, hvm]
    have hself : s.vmStarting request.vm = true :=
      List.any_eq_true.mpr ⟨request, hin, by simp⟩
    by_cases hsame : request.vm = next.vm
    · simp [← hsame, hself]
    · simp [hsame, ended]
  constructor
  · intro hafter _ hroom head next rest' hqueue hvm
    obtain ⟨rfl, rfl⟩ : q = head ∧ rest = next :: rest' := by simpa [hq] using hqueue
    have hblocked : ¬ _ := hafter next rfl
    rw [hnext next hvm, not_and, Bool.not_eq_false] at hblocked
    exact hblocked hroom
  · intro hlate next hhead hadmissible
    obtain ⟨rest', rfl⟩ : ∃ rest', rest = next :: rest' := by
      cases rest with
      | nil => cases hhead
      | cons g rest' =>
        cases hhead
        exact ⟨rest', rfl⟩
    have hroom : s.startsInFlight < s.policy.maxParallelStarts := by
      have hlt := ((admissible_beginStart next.vm).mp hadmissible).1
      rw [← hslot]
      exact hlt
    have hvm := hwhy hroom
    have hstarting := hlate hin hroom q next rest' hq hvm
    exact Bool.noConfusion (((hnext next hvm).mp hadmissible).2.symm.trans hstarting)

theorem headWaits_finishAndPromote (hs : s.Sound) (h : s.HeadWaits) (success : Bool) :
    (s.finishStart request success).2.promoteNextStart.2.HeadWaits ↔
      s.NextWaitsForVm request := by
  by_cases hin : request ∈ s.starting
  · have hfinish : (s.finishStart request success).2 = s.ended request := by
      simp only [finishStart, if_pos hin]
      rfl
    rw [hfinish]
    by_cases hwaits : (s.ended request).HeadWaits
    · rw [promoteNextStart_of_waits hwaits]
      refine ⟨fun _ _ hroom head next rest hq hvm => ?_, fun _ => hwaits⟩
      -- The head can only have waited for the VM of this start, which is free now.
      have hq' : (s.ended request).queuedStarts = head :: next :: rest := hq
      refine absurd ?_ ((headWaits_cons hq').mp hwaits)
      have hfree : (s.ended request).vmStarting head.vm = false := by
        rw [vmStarting_ended hs hin, hvm, bne_self_eq_false, Bool.and_false]
      refine ⟨?_, hfree⟩
      rw [UInt32.lt_iff_toNat_lt] at hroom ⊢
      have hpred := toNat_saturatingPred s.startsInFlight
      simp only [ended]
      omega
    · unfold HeadWaits at hwaits
      push Not at hwaits
      obtain ⟨q, hhead, hturn⟩ := hwaits
      obtain ⟨rest, hq⟩ : ∃ rest, s.queuedStarts = q :: rest := by
        cases hqueue : s.queuedStarts with
        | nil => simp [ended, hqueue] at hhead
        | cons g rest =>
          simp only [ended, hqueue, List.head?_cons, Option.mem_def, Option.some.injEq] at hhead
          exact ⟨rest, by rw [hhead]⟩
      rw [promoteNextStart_of_admissible (s := s.ended request) hq hturn]
      exact headWaits_promoted hs hin h hq hturn
  · have hfinish : (s.finishStart request success).2 = s := by
      simp only [finishStart, if_neg hin]
    rw [hfinish, promoteNextStart_of_waits h]
    exact ⟨fun _ hmem => absurd hmem hin, fun _ => h⟩

end SchedulerState

open SchedulerState RuntimeState

/-! ### Runs -/

/-- What a section must find for the head of the queue not to be left beside a free slot. -/
def RuntimeState.HandsOn (s : RuntimeState) : RuntimeOp → Prop
  | .gate request pressure => s.refreshed.HeadWaits ∨
    (shouldBlockRuntimeStart pressure (s.refreshed.hasOtherStart request) = false ∧
      s.refreshed.TakesTurnOfHead request)
  | .beginReclaim _ _ | .checkIdle _ _ | .mark _ _ => s.refreshed.HeadWaits
  | .awaitTurn request deadline => deadline ≤ s.uptime → s.scheduler.NextWaits request
  | .abandon request | .settle request _ => s.scheduler.NextWaitsForVm request
  | _ => True

theorem headWaits_gate (s : RuntimeState) (scheduler : SchedulerState) (request : StartRequest)
    (pressure : MemoryPressure) : (s.gate scheduler request pressure).2.HeadWaits ↔
      scheduler.HeadWaits ∨ (shouldBlockRuntimeStart pressure (scheduler.hasOtherStart request) = false ∧
        scheduler.TakesTurnOfHead request) := by
  unfold gate
  cases hblock : shouldBlockRuntimeStart pressure (scheduler.hasOtherStart request) with
  | true => simp [hblock]
  | false =>
    simp only [hblock, Bool.false_eq_true, if_false, true_and]
    exact headWaits_requestStart

theorem headWaits_settle {s : RuntimeState} (hs : s.scheduler.Sound) (h : s.scheduler.HeadWaits)
    (request : StartRequest) (result : Except String CliOutput) :
    (s.settle request result).2.HeadWaits ↔ s.scheduler.NextWaitsForVm request := by
  cases result with
  | error error => exact headWaits_finishAndPromote hs h false
  | ok output =>
    cases hsuccess : output.success with
    | false =>
      simp only [settle, hsuccess, Bool.false_eq_true, if_false]
      exact headWaits_finishAndPromote hs h false
    | true =>
      simp only [settle, hsuccess, if_true]
      -- The mark of the activity touches neither the starts nor the queue.
      have hs' : (s.scheduler.markActivity request.instanceName .userWindow s.now).Sound :=
        ⟨hs.counted, hs.oneForEachVm, hs.trackedOnce⟩
      exact headWaits_finishAndPromote hs' h true

theorem headWaits_awaitTurn {s : RuntimeState} (hs : s.scheduler.Sound)
    (h : s.scheduler.HeadWaits) {request : StartRequest} {deadline : ℕ} {reply : TurnReply}
    {scheduler : SchedulerState} (hturn : s.awaitTurn request deadline = some (reply, scheduler)) :
    scheduler.HeadWaits ↔ (deadline ≤ s.uptime → s.scheduler.NextWaits request) := by
  unfold awaitTurn at hturn
  have hvacuous : request ∉ s.scheduler.queuedStarts → s.scheduler.NextWaits request := by
    intro hnot rest hq
    exact absurd (hq ▸ List.mem_cons_self) hnot
  split at hturn
  · next hstarting =>
    cases hturn
    have hnot : request ∉ s.scheduler.queuedStarts := by
      have hdisjoint := List.disjoint_of_nodup_append hs.trackedOnce
      exact fun hq => hdisjoint (by simpa [isStarting] using hstarting) hq
    exact ⟨fun _ _ => hvacuous hnot, fun _ => h⟩
  · split at hturn
    · next hqueued =>
      cases hturn
      have hnot : request ∉ s.scheduler.queuedStarts := by simpa [isQueued] using hqueued
      exact ⟨fun _ _ => hvacuous hnot, fun _ => h⟩
    · split at hturn
      · next hlate =>
        cases hturn
        rw [headWaits_cancelQueuedStart h]
        exact ⟨fun hnext _ => hnext, fun hnext => hnext hlate⟩
      · cases hturn

/-- The step lemma. -/
theorem headWaits_exec {choice : RuntimeChoice} {s s' : RuntimeState} {op : RuntimeOp}
    {r : RuntimeRes op} (hs : s.scheduler.Sound) (h : s.scheduler.HeadWaits)
    (hx : s.exec choice op = some (r, s')) : s'.scheduler.HeadWaits ↔ s.HandsOn op := by
  cases op with
  | clock | probe | start | stop | stopVm | reclaimGuest | list | closeApp =>
    cases hx
    exact iff_of_true h trivial
  | checkIdle | mark =>
    cases hx
    rfl
  | clear =>
    cases hx
    exact iff_of_true h trivial
  | endReclaim released =>
    cases hx
    cases released <;> exact iff_of_true h trivial
  | gate request pressure =>
    cases hx
    exact headWaits_gate s s.refreshed request pressure
  | regate request pressure =>
    cases hx
    exact iff_of_true ((headWaits_gate s s.scheduler request pressure).mpr (.inl h)) trivial
  | abandon request =>
    cases hx
    exact headWaits_finishAndPromote hs h false
  | settle request result =>
    cases hx
    exact headWaits_settle hs h request result
  | beginReclaim vm now =>
    cases hx
    have hsame : (beginReclaim s.refreshed now).2.HeadWaits ↔ s.refreshed.HeadWaits := by
      rw [beginReclaim_scheduler]
      cases s.refreshed.policy.autoReleaseIdleOnCritical with
      | false => rfl
      | true =>
        simp only [if_true, final, List.foldl_cons, List.foldl_nil, SchedulerState.perform,
          SchedulerState.beginReclaim]
        cases s.refreshed.reclaimInFlight <;> rfl
    exact hsame
  | awaitTurn request deadline =>
    simp only [exec, Option.map_eq_some_iff] at hx
    obtain ⟨⟨reply, scheduler⟩, hturn, heq⟩ := hx
    cases heq
    exact headWaits_awaitTurn hs h hturn

/-- A wait that is not over has not reached its deadline. -/
theorem handsOn_of_blocked {choice : RuntimeChoice} {s : RuntimeState} {op : RuntimeOp}
    (hx : s.exec choice op = none) : s.HandsOn op := by
  cases op with
  | awaitTurn request deadline =>
    intro hlate
    simp only [exec, Option.map_eq_none_iff, awaitTurn, hlate, if_true] at hx
    split at hx
    · cases hx
    · split at hx <;> cases hx
  | _ => cases hx

/-- The next call of the handler that moves finds what it must find. -/
def HandsOn (w : RuntimeWorld) : RuntimeAction → Prop
  | .exec pid _ => ∀ op, w.pending? pid = some op → w.state.HandsOn op
  | _ => True

/-- In a run of the handlers the head of the queue is never left beside a free slot exactly when
every section that reads the policy, gives up or ends a start finds a queue it can leave so. -/
theorem head_never_waits_beside_a_slot (settings : LifecyclePolicy) (now : SystemTime)
    (uptime : ℕ) (acts : List RuntimeAction) :
    (∀ acts', acts' <+: acts →
      (runtime.run (launched settings now uptime) acts').state.scheduler.HeadWaits) ↔
    runtime.Along HandsOn (launched settings now uptime) acts := by
  apply System.visited_iff_along (P := fun w : RuntimeWorld => w.state.scheduler.HeadWaits)
  · exact headWaits_nil rfl
  · intro v a hv h
    cases a with
    | spawn pid request =>
      have hstate : (runtime.step v (.spawn pid request)).state = v.state := by
        simp only [System.step]
        split <;> rfl
      rw [hstate]
      exact iff_of_true h trivial
    | env move =>
      have hstate : (runtime.step v (.env move)).state.scheduler = v.state.scheduler :=
        apply_scheduler move v.state
      rw [hstate]
      exact iff_of_true h trivial
    | exec pid choice =>
      cases hop : v.pending? pid with
      | none =>
        rw [System.step_exec_idle hop]
        exact iff_of_true h fun op hop' => by simp [hop] at hop'
      | some op =>
        obtain ⟨request, next, ht⟩ := World.pending?_eq_some hop
        have hcond : HandsOn v (.exec pid choice) ↔ v.state.HandsOn op := by
          simp [HandsOn, hop]
        rw [hcond]
        cases hx : runtime.exec choice v.state op with
        | none =>
          have hstay : runtime.step v (.exec pid choice) = v := by simp [System.step, ht, hx]
          rw [hstay]
          exact iff_of_true h (handsOn_of_blocked hx)
        | some out =>
          rw [System.step_exec ht hx]
          exact headWaits_exec (reachable_sound hv) h hx

/-- While `r1` waits for a slot, the limit is raised, and the next section reads it. -/
def raisedLimitRun : List RuntimeAction :=
  serve 1 (.requestStart r13) 2 ++ serve 2 (.requestStart r1) 2 ++
    .env (.saveSettings { LifecyclePolicy.default with maxParallelStarts := 2 }) ::
    serve 3 (.markActivity r13 "adb") 1

theorem raised_limit_leaves_the_head :
    ¬ ∀ (settings : LifecyclePolicy) (now : SystemTime) (uptime : ℕ) (acts : List RuntimeAction)
      (acts' : List RuntimeAction), acts' <+: acts →
        (runtime.run (launched settings now uptime) acts').state.scheduler.HeadWaits := by
  intro h
  exact absurd (h .default 0 0 raisedLimitRun raisedLimitRun (List.prefix_refl _))
    (by decide +kernel)

end JustRun.Runtime
