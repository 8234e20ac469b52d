import JustRun.Runtime.Accounting
import JustRun.Runtime.Handlers

/-!
# Sections as runs of the scheduler

What a handler does under the lock is a short run of scheduler calls, and nothing else changes
what surrounds the scheduler. So every reachable scheduler is one that such calls reach.
-/
namespace JustRun.Runtime
open Machine Concurrency SchedulerState

namespace RuntimeState

def gateCalls (scheduler : SchedulerState) (request : StartRequest) (pressure : MemoryPressure) :
    List SchedulerCall :=
  if shouldBlockRuntimeStart pressure (scheduler.hasOtherStart request) then []
  else [.requestStart request]

def settleCalls (s : RuntimeState) (request : StartRequest) : Except String CliOutput → List SchedulerCall
  | .ok output =>
    if output.success then
      [.markActivity request.instanceName .userWindow s.now, .finishStart request true,
        .promoteNextStart]
    else [.finishStart request false, .promoteNextStart]
  | .error _ => [.finishStart request false, .promoteNextStart]

/-- The calls of a section. -/
def sectionCalls (s : RuntimeState) : RuntimeOp → List SchedulerCall
  | .gate request pressure =>
    .updatePolicy s.runtimePolicy :: gateCalls s.refreshed request pressure
  | .regate request pressure => gateCalls s.scheduler request pressure
  | .awaitTurn request deadline =>
    if !s.scheduler.isStarting request && s.scheduler.isQueued request &&
      decide (deadline ≤ s.uptime) then [.cancelQueuedStart request] else []
  | .abandon request => [.finishStart request false, .promoteNextStart]
  | .settle request result => s.settleCalls request result
  | .beginReclaim _ _ => .updatePolicy s.runtimePolicy ::
    if s.refreshed.policy.autoReleaseIdleOnCritical then [.beginReclaim] else []
  | .endReclaim (some container) => [.finishReclaim, .clearInstance container.instanceName]
  | .endReclaim none => [.finishReclaim]
  | .checkIdle _ _ => [.updatePolicy s.runtimePolicy]
  | .clear container => [.clearInstance container.instanceName]
  | .mark container kind =>
    [.updatePolicy s.runtimePolicy, .markActivity container.instanceName kind s.now]
  | _ => []

@[simp] theorem withScheduler_self (s : RuntimeState) : s.withScheduler s.scheduler = s := rfl

@[simp] theorem withScheduler_scheduler (s : RuntimeState) (scheduler : SchedulerState) :
    (s.withScheduler scheduler).scheduler = scheduler := rfl

theorem gate_scheduler (s : RuntimeState) (scheduler : SchedulerState) (request : StartRequest)
    (pressure : MemoryPressure) : (s.gate scheduler request pressure).2 =
      final perform scheduler (gateCalls scheduler request pressure) := by
  cases hblock : shouldBlockRuntimeStart pressure (scheduler.hasOtherStart request) with
  | true => simp only [gate, gateCalls, hblock, if_true, final, List.foldl_nil]
  | false =>
    simp only [gate, gateCalls, hblock, Bool.false_eq_true, if_false]
    rfl

theorem settle_scheduler (s : RuntimeState) (request : StartRequest)
    (result : Except String CliOutput) : (s.settle request result).2 =
      final perform s.scheduler (s.settleCalls request result) := by
  cases result with
  | error error => rfl
  | ok output =>
    simp only [settle, settleCalls]
    split <;> rfl

theorem beginReclaim_scheduler (scheduler : SchedulerState) (now : SystemTime) :
    (beginReclaim scheduler now).2 = final perform scheduler
      (if scheduler.policy.autoReleaseIdleOnCritical then [.beginReclaim] else []) := by
  unfold beginReclaim
  cases hauto : scheduler.policy.autoReleaseIdleOnCritical with
  | false => rfl
  | true =>
    simp only [Bool.not_true, Bool.false_eq_true, if_false, if_true]
    cases hflag : scheduler.reclaimInFlight <;>
      simp [final, SchedulerState.perform, SchedulerState.beginReclaim, hflag]

theorem awaitTurn_scheduler {s : RuntimeState} {request : StartRequest} {deadline : ℕ}
    {reply : TurnReply} {scheduler : SchedulerState}
    (h : s.awaitTurn request deadline = some (reply, scheduler)) :
    scheduler = final perform s.scheduler (s.sectionCalls (.awaitTurn request deadline)) := by
  unfold awaitTurn at h
  unfold sectionCalls
  cases hstarting : s.scheduler.isStarting request <;>
    cases hqueued : s.scheduler.isQueued request <;>
    by_cases hlate : deadline ≤ s.uptime
  all_goals
    simp only [hstarting, hqueued, hlate, Bool.not_true, Bool.not_false, Bool.false_eq_true,
      if_true, if_false, Option.some.injEq, Prod.mk.injEq, reduceCtorEq] at h
  all_goals
    obtain ⟨-, rfl⟩ := h
    simp [hstarting, hqueued, hlate, final, SchedulerState.perform]

/-- A call runs the calls of its section, and changes nothing else. -/
theorem exec_scheduler {choice : RuntimeChoice} {s s' : RuntimeState} {op : RuntimeOp}
    {r : RuntimeRes op} (h : s.exec choice op = some (r, s')) :
    s' = s.withScheduler (final perform s.scheduler (s.sectionCalls op)) := by
  cases op with
  | clock | probe | start | stop | stopVm | reclaimGuest | list | closeApp =>
    cases h
    rfl
  | abandon | checkIdle | clear | mark =>
    cases h
    rfl
  | gate request pressure =>
    cases h
    exact congrArg s.withScheduler (s.gate_scheduler s.refreshed request pressure)
  | regate request pressure =>
    cases h
    exact congrArg s.withScheduler (s.gate_scheduler s.scheduler request pressure)
  | settle request result =>
    cases h
    exact congrArg s.withScheduler (s.settle_scheduler request result)
  | beginReclaim vm now =>
    cases h
    exact congrArg s.withScheduler (beginReclaim_scheduler s.refreshed now)
  | endReclaim released =>
    cases h
    cases released <;> rfl
  | awaitTurn request deadline =>
    simp only [exec, Option.map_eq_some_iff] at h
    obtain ⟨⟨reply, scheduler⟩, hturn, heq⟩ := h
    cases heq
    exact congrArg s.withScheduler (awaitTurn_scheduler hturn)

theorem apply_scheduler (move : RuntimeMove) (s : RuntimeState) :
    (move.apply s).scheduler = s.scheduler := by
  cases move <;> rfl

end RuntimeState

open RuntimeState

/-- A property that every scheduler call keeps holds of every reachable scheduler. -/
theorem reachable_scheduler {I : SchedulerState → Prop} (h0 : I (.withPolicy .default))
    (hstep : ∀ s call, I s → I (s.perform call).2) {settings : LifecyclePolicy}
    {now : SystemTime} {uptime : ℕ} {w : RuntimeWorld}
    (hw : runtime.Reaches (launched settings now uptime) w) : I w.state.scheduler := by
  apply hw.keeps (J := fun s => I s.scheduler) h0
  · intro v pid request op next choice r s' _ _ hx hI
    rw [exec_scheduler hx]
    exact run_induct (I := fun _ => I) hI (fun _ s call h => hstep s call h) _
  · intro move s hI
    exact (apply_scheduler move s).symm ▸ hI

theorem reachable_sound {settings : LifecyclePolicy} {now : SystemTime} {uptime : ℕ}
    {w : RuntimeWorld} (hw : runtime.Reaches (launched settings now uptime) w) :
    w.state.scheduler.Sound :=
  reachable_scheduler (sound_withPolicy _) (fun s call h => h.effect (s.perform_effect call)) hw

end JustRun.Runtime
