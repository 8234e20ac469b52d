import JustRun.Runtime.Scheduler

/-!
# Every start is accounted for

The counter, the list and the queue of the scheduler agree after every run of its calls, and
no request is lost or served twice on the way.
-/
namespace JustRun.Runtime
open Machine

namespace SchedulerState

/-! ### The invariant -/

theorem toNat_succ {n limit : UInt32} (h : n < limit) : (n + 1).toNat = n.toNat + 1 := by
  have hlt := UInt32.lt_iff_toNat_lt.mp h
  have hlimit := limit.toNat_lt
  have hone : (1 : UInt32).toNat = 1 := rfl
  rw [UInt32.toNat_add, hone]
  omega

theorem toNat_saturatingPred (n : UInt32) : (saturatingPred n).toNat = n.toNat - 1 := by
  unfold saturatingPred
  split
  · next h => simp [h]
  · next h =>
    have hpos : (1 : UInt32) ≤ n := by
      rw [UInt32.le_iff_toNat_le]
      have hne : n.toNat ≠ 0 := fun h0 => h (UInt32.toNat_inj.mp h0)
      have hone : (1 : UInt32).toNat = 1 := rfl
      omega
    rw [UInt32.toNat_sub_of_le _ _ hpos]
    rfl

structure Sound (s : SchedulerState) : Prop where
  counted : s.startsInFlight.toNat = s.starting.length
  oneForEachVm : (s.starting.map StartRequest.vm).Nodup
  trackedOnce : (s.starting ++ s.queuedStarts).Nodup

theorem sound_withPolicy (policy : LifecyclePolicy) : (withPolicy policy).Sound where
  counted := rfl
  oneForEachVm := List.nodup_nil
  trackedOnce := List.nodup_nil

variable {s s' : SchedulerState} {request : StartRequest}

theorem not_mem_vms (h : s.vmStarting request.vm = false) :
    request.vm ∉ s.starting.map StartRequest.vm := by
  intro hmem
  obtain ⟨r, hr, hvm⟩ := List.mem_map.mp hmem
  have hany : s.vmStarting request.vm = true :=
    List.any_eq_true.mpr ⟨r, hr, by simp [hvm]⟩
  exact Bool.noConfusion (h.symm.trans hany)

/-- The request that takes its turn is counted, on a VM of its own. -/
theorem Sound.beginStart (h : s.Sound) (hturn : s.Admissible request.vm) :
    (s.beginStart request).startsInFlight.toNat = (s.beginStart request).starting.length ∧
      ((s.beginStart request).starting.map StartRequest.vm).Nodup := by
  constructor
  · have hcount : (s.beginStart request).startsInFlight.toNat = s.startsInFlight.toNat + 1 :=
      toNat_succ hturn.1
    rw [hcount, h.counted]
    simp [SchedulerState.beginStart]
  · have hvm := not_mem_vms hturn.2
    simp only [SchedulerState.beginStart, List.map_append, List.map_cons, List.map_nil]
    rw [List.nodup_append_comm]
    exact List.nodup_cons.mpr ⟨hvm, h.oneForEachVm⟩

theorem Sound.effect {event : Option StartEvent} (h : s.Sound) (he : StartEffect s event s') :
    s'.Sound := by
  cases he with
  | queued request hnew _ =>
    refine ⟨h.counted, h.oneForEachVm, ?_⟩
    rw [← List.append_assoc, List.nodup_append_comm]
    exact List.nodup_cons.mpr ⟨hnew, h.trackedOnce⟩
  | admitted request hnew hturn =>
    refine ⟨(h.beginStart hturn).1, (h.beginStart hturn).2, ?_⟩
    have hperm : (s.starting ++ [request] ++ s.queuedStarts).Perm
        (request :: (s.starting ++ s.queuedStarts)) := by
      rw [List.append_assoc]
      exact List.perm_middle
    exact hperm.nodup_iff.mpr (List.nodup_cons.mpr ⟨hnew, h.trackedOnce⟩)
  | promoted request rest hfront hturn =>
    have hrest : Sound { s with queuedStarts := rest } := by
      refine ⟨h.counted, h.oneForEachVm, h.trackedOnce.sublist ?_⟩
      rw [hfront]
      exact (List.Sublist.refl _).append (List.sublist_cons_self request rest)
    refine ⟨(hrest.beginStart hturn).1, (hrest.beginStart hturn).2, ?_⟩
    have hwhole := h.trackedOnce
    rw [hfront] at hwhole
    simpa [SchedulerState.beginStart] using hwhole
  | cancelled request _ =>
    refine ⟨h.counted, h.oneForEachVm, h.trackedOnce.sublist ?_⟩
    exact (List.Sublist.refl _).append List.erase_sublist
  | finished request hstarting =>
    refine ⟨?_, h.oneForEachVm.sublist (List.erase_sublist.map _),
      h.trackedOnce.sublist (List.erase_sublist.append (List.Sublist.refl _))⟩
    rw [toNat_saturatingPred, h.counted, List.length_erase_of_mem hstarting]
  | beside policy activities reclaimInFlight => exact ⟨h.counted, h.oneForEachVm, h.trackedOnce⟩

/-- Only a call that has found a free slot adds to the starts in flight. -/
theorem StartEffect.admits {event : Option StartEvent} (he : StartEffect s event s')
    (hnew : request ∉ s.starting) (hin : request ∈ s'.starting) :
    s.startsInFlight < s.policy.maxParallelStarts := by
  cases he with
  | queued | cancelled | beside => exact absurd hin hnew
  | finished => exact absurd (List.mem_of_mem_erase hin) hnew
  | admitted _ _ hturn => exact hturn.1
  | promoted _ _ _ hturn => exact hturn.1

/-! ### What becomes of the queue -/

/-- The events of a transcript. -/
def eventsOf (log : List (SchedulerCall × SchedulerReply)) : List StartEvent :=
  log.filterMap startEvent

@[simp] theorem eventsOf_snoc (log : List (SchedulerCall × SchedulerReply))
    (entry : SchedulerCall × SchedulerReply) :
    eventsOf (log ++ [entry]) = eventsOf log ++ (startEvent entry).toList := by
  unfold eventsOf
  rw [List.filterMap_append]
  cases h : startEvent entry with
  | none => simp [h]
  | some event => simp [h]

/-- Each time it was queued, a request is still in the queue, or was promoted, or was cancelled. -/
def Conserved (events : List StartEvent) (s : SchedulerState) : Prop :=
  ∀ request, events.count (.queued request) = events.count (.promoted request) +
    events.count (.cancelled request) + s.queuedStarts.count request

theorem Conserved.effect {events : List StartEvent} {event : Option StartEvent}
    (h : Conserved events s) (he : StartEffect s event s') :
    Conserved (events ++ event.toList) s' := by
  intro request
  have hbefore := h request
  simp only [List.count_append]
  cases he with
  | queued r _ _ =>
    by_cases hr : r = request
    · subst hr
      simp [hbefore]
      omega
    · simp [hbefore, hr]
  | admitted r _ _ => simpa [SchedulerState.beginStart] using hbefore
  | promoted r rest hfront _ =>
    rw [hfront] at hbefore
    by_cases hr : r = request
    · subst hr
      simp [SchedulerState.beginStart, hbefore]
      omega
    · simp [SchedulerState.beginStart, hbefore, hr]
  | cancelled r hqueued =>
    by_cases hr : r = request
    · subst hr
      have hpos := List.count_pos_iff.mpr hqueued
      simp [hbefore, List.count_erase_self]
      omega
    · have hne : request ≠ r := fun h => hr h.symm
      simp [hbefore, hr, List.count_erase_of_ne hne]
  | finished r _ => simpa using hbefore
  | beside policy activities reclaimInFlight => simpa using hbefore

/-- A request leaves the queue by its promotion or its cancellation. -/
theorem StartEffect.leaves {event : Option StartEvent} (he : StartEffect s event s')
    (hin : request ∈ s.queuedStarts) (hout : request ∉ s'.queuedStarts) :
    event = some (.promoted request) ∨ event = some (.cancelled request) := by
  cases he with
  | queued => exact absurd (List.mem_append_left _ hin) hout
  | admitted | finished | beside => exact absurd hin hout
  | promoted r rest hfront _ =>
    left
    rw [hfront, List.mem_cons] at hin
    rw [hin.resolve_right hout]
  | cancelled r _ =>
    right
    by_cases hr : request = r
    · rw [hr]
    · exact absurd ((List.mem_erase_of_ne hr).mpr hin) hout

/-! ### Runs -/

theorem sound_run (policy : LifecyclePolicy) (calls : List SchedulerCall) :
    (final perform (withPolicy policy) calls).Sound :=
  run_induct (I := fun _ => Sound) (sound_withPolicy policy)
    (fun _ s call h => h.effect (s.perform_effect call)) calls

theorem conserved_run (policy : LifecyclePolicy) (calls : List SchedulerCall) :
    Conserved (eventsOf (transcript perform (withPolicy policy) calls))
      (final perform (withPolicy policy) calls) := by
  apply run_induct (I := fun log s => Conserved (eventsOf log) s) (fun _ => rfl)
  intro log s call h
  rw [eventsOf_snoc]
  exact h.effect (s.perform_effect call)

/-- After every run the scheduler is sound, the next call admits nothing above the limit, and
each queueing of a request has ended in one promotion or one cancellation or lasts. -/
theorem starts_are_accounted (policy : LifecyclePolicy) (calls : List SchedulerCall) :
    let s := final perform (withPolicy policy) calls
    let events := eventsOf (transcript perform (withPolicy policy) calls)
    s.Sound ∧
    (∀ call request, request ∉ s.starting → request ∈ (s.perform call).2.starting →
      s.startsInFlight < s.policy.maxParallelStarts) ∧
    (∀ call request, request ∈ s.queuedStarts → request ∉ (s.perform call).2.queuedStarts →
      startEvent (call, (s.perform call).1) = some (.promoted request) ∨
        startEvent (call, (s.perform call).1) = some (.cancelled request)) ∧
    ∀ request, s.queuedStarts.count request ≤ 1 ∧
      events.count (.queued request) = events.count (.promoted request) +
        events.count (.cancelled request) + s.queuedStarts.count request := by
  intro s events
  have hsound : s.Sound := sound_run policy calls
  refine ⟨hsound, ?_, ?_, ?_⟩
  · intro call request hnew hin
    exact (s.perform_effect call).admits hnew hin
  · intro call request hin hout
    exact (s.perform_effect call).leaves hin hout
  · intro request
    have honce : s.queuedStarts.Nodup := hsound.trackedOnce.of_append_right
    exact ⟨List.nodup_iff_count_le_one.mp honce request, conserved_run policy calls request⟩

end SchedulerState
end JustRun.Runtime
