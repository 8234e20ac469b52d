import JustRun.Concurrency.Standing
import JustRun.Runtime.Specification

/-!
# Starting under memory pressure

Every start is preceded by a probe in the turn of its request, and a critical one ends the
turn. An unknown one does not, although another start may be tracked by then.
-/
namespace JustRun.Runtime
open Machine Concurrency SchedulerState RuntimeState

/-- The starts that the scheduler knows of. -/
def SchedulerState.tracked (s : SchedulerState) : List StartRequest := s.starting ++ s.queuedStarts

/-- The answer of the last probe. -/
def lastProbe (h : List RuntimeEntry) : Option MemoryPressure :=
  h.foldl (fun last entry => match entry with
    | ⟨.probe, pressure⟩ => some pressure
    | _ => last) none

/-- The handler is about to start a container after a probe that told nothing. -/
def startsBlindly (w : RuntimeWorld) (pid : ℕ) : Option StartRequest :=
  match w.pending? pid, (w.history pid).getLast? with
  | some (.start request), some ⟨.probe, .unknown⟩ => some request
  | _, _ => none

def requested? : SchedulerCall → Option StartRequest
  | .requestStart request => some request
  | _ => none

/-- The section requests no start but one that is tracked already. -/
def RuntimeState.TracksNothingNew (s : RuntimeState) (op : RuntimeOp) : Prop :=
  ∀ call ∈ s.sectionCalls op, ∀ request ∈ requested? call, request ∈ s.scheduler.tracked

instance (s : RuntimeState) (op : RuntimeOp) : Decidable (s.TracksNothingNew op) :=
  inferInstanceAs (Decidable (∀ call ∈ s.sectionCalls op, _))

/-- The request whose turn has just come. -/
def turnOf (w : RuntimeWorld) (pid : ℕ) : Option StartRequest :=
  match w.request? pid, (w.history pid).getLast? with
  | some (.requestStart request), some entry =>
    if grantsTurn request entry then some request else none
  | _, _ => none

def RuntimeOp.isProbe : RuntimeOp → Bool
  | probe => true
  | _ => false

/-- The probe in the turn of a request tells nothing only while no other start is tracked, and
none is tracked anew before the container is started. -/
def ProbesAlone (w : RuntimeWorld) : RuntimeAction → Prop
  | .exec pid choice => ∀ op ∈ w.pending? pid,
    (op.isProbe = true → choice.pressure = .unknown → ∀ request ∈ turnOf w pid,
      w.state.scheduler.hasOtherStart request = false) ∧
    ∀ e ∈ w.log, startsBlindly w e.pid ≠ none → w.state.TracksNothingNew op
  | _ => True

instance (w : RuntimeWorld) (a : RuntimeAction) : Decidable (ProbesAlone w a) :=
  match a with
  | .exec pid _ => inferInstanceAs (Decidable (∀ op ∈ w.pending? pid, _))
  | .spawn _ _ | .env _ => .isTrue trivial

namespace SchedulerState

theorem mem_tracked_effect {s s' : SchedulerState} {event : Option StartEvent}
    (he : StartEffect s event s') {request : StartRequest} (h : request ∈ s'.tracked) :
    request ∈ s.tracked ∨ event = some (.queued request) ∨ event = some (.admitted request) := by
  unfold tracked at h ⊢
  cases he with
  | queued r _ _ =>
    simp only [List.mem_append, List.mem_singleton] at h ⊢
    rcases h with h | h | rfl
    · exact .inl (.inl h)
    · exact .inl (.inr h)
    · exact .inr (.inl rfl)
  | admitted r _ _ =>
    simp only [beginStart, List.mem_append, List.mem_singleton] at h ⊢
    rcases h with (h | rfl) | h
    · exact .inl (.inl h)
    · exact .inr (.inr rfl)
    · exact .inl (.inr h)
  | promoted r rest hfront _ =>
    left
    rw [hfront]
    simpa [beginStart] using h
  | cancelled r _ =>
    left
    simp only [List.mem_append] at h ⊢
    exact h.imp_right List.mem_of_mem_erase
  | finished r _ =>
    left
    simp only [List.mem_append] at h ⊢
    exact h.imp_left List.mem_of_mem_erase
  | beside => exact .inl h

/-- A start that is tracked after some calls was so before, or one of them requests it. -/
theorem mem_tracked_final {s : SchedulerState} {calls : List SchedulerCall} {request : StartRequest}
    (h : request ∈ (final perform s calls).tracked) :
    request ∈ s.tracked ∨ .requestStart request ∈ calls := by
  induction calls using List.reverseRecOn with
  | nil => exact .inl h
  | append_singleton calls call ih =>
    rw [final_snoc] at h
    rw [List.mem_append, List.mem_singleton]
    rcases mem_tracked_effect (perform_effect _ call) h with h | h
    · exact (ih h).imp_right .inl
    · exact .inr (.inr (call_of_made h).symm)

theorem hasOtherStart_eq_false {s : SchedulerState} {request : StartRequest} :
    s.hasOtherStart request = false ↔ ∀ r ∈ s.tracked, r = request := by
  simp [hasOtherStart, tracked, or_imp, forall_and]

end SchedulerState

/-- The handler starts blindly only where no other start is tracked. -/
def Unaccompanied (_ : RuntimeRequest) (h : List RuntimeEntry) (p : RuntimeProg RuntimeAnswer)
    (s : RuntimeState) : Prop :=
  ∀ request next, p = .call (.start request) next → h.getLast? = some ⟨.probe, .unknown⟩ →
    s.scheduler.hasOtherStart request = false

theorem lastProbe_snoc (h : List RuntimeEntry) (pressure : MemoryPressure) :
    lastProbe (h ++ [⟨.probe, pressure⟩]) = some pressure := by
  simp [lastProbe]

theorem startsBlindly_eq {w : RuntimeWorld} {pid : ℕ} {r : RuntimeRequest} {request : StartRequest}
    {next : RuntimeRes (.start request) → RuntimeProg RuntimeAnswer}
    (ht : w.threads pid = some ⟨r, .call (.start request) next⟩)
    (hlast : (w.history pid).getLast? = some ⟨.probe, .unknown⟩) :
    startsBlindly w pid = some request := by
  simp [startsBlindly, World.pending?_eq ht, hlast]

variable {settings : LifecyclePolicy} {now : SystemTime} {uptime : ℕ} {acts : List RuntimeAction}

theorem unaccompanied_run {w : RuntimeWorld}
    (h : runtime.ReachedAlong ProbesAlone (launched settings now uptime) w) :
    w.Each Unaccompanied := by
  refine h.each Unaccompanied ?_ ?_ ?_ ?_
  · intro v pid request _ _ r next _ hlast
    cases hlast
  · intro v pid choice request op next reply s' hv hc ht hx _ r next' hp hlast
    -- The last call is the probe that has told nothing.
    rw [List.getLast?_append, List.getLast?_singleton, Option.some_or, Option.some.injEq] at hlast
    obtain ⟨rfl, hreply⟩ := Sigma.mk.inj_iff.mp hlast
    obtain rfl := eq_of_heq hreply
    obtain ⟨hpressure, rfl⟩ : choice.pressure = .unknown ∧ v.state = s' := by
      simpa [runtime, RuntimeState.exec] using hx
    have hstep := System.step_exec ht hx
    have hv' : runtime.Reaches (launched settings now uptime) (runtime.step v (.exec pid choice)) :=
      hv.reaches.trans runtime (.step runtime v _)
    rw [hstep] at hv'
    have hspec := hv'.meets handler_follows (v.afterCall_threads_self pid request _ next _ v.state)
    rw [hp, v.history_afterCall_self] at hspec
    obtain ⟨⟨rfl, h', entry, pressure, hhistory, hturn, -⟩, -⟩ := hspec
    have hbefore : v.history pid = h' ++ [entry] := by
      have hsplit : h' ++ [entry, ⟨.probe, pressure⟩] = (h' ++ [entry]) ++ [⟨.probe, pressure⟩] := by
        simp
      rw [hsplit] at hhistory
      exact (List.append_inj' hhistory rfl).1
    apply (hc .probe (World.pending?_eq ht)).1 rfl hpressure r
    simp [turnOf, World.request?_eq ht, hbefore, hturn]
  · intro v pid choice request op next reply s' q t hv hc ht hx hqp hq hK r next' hp hlast
    have halone := hasOtherStart_eq_false.mp (hK r next' hp hlast)
    have hq' : v.threads q = some ⟨t.request, .call (.start r) next'⟩ := by rw [hq, ← hp]
    have hne : v.history q ≠ [] := by
      intro hnil
      rw [hnil] at hlast
      cases hlast
    obtain ⟨e, he, rfl⟩ := World.exists_entry hne
    have hblind : startsBlindly v e.pid ≠ none := by simp [startsBlindly_eq hq' hlast]
    have hnothing := (hc op (World.pending?_eq ht)).2 e he hblind
    rw [exec_scheduler hx, hasOtherStart_eq_false]
    intro other hother
    rcases mem_tracked_final hother with hother | hcall
    · exact halone other hother
    · exact halone other (hnothing _ hcall other rfl)
  · intro v move q t _ _ _ hK r next hp hlast
    show SchedulerState.hasOtherStart (move.apply v.state).scheduler r = false
    rw [apply_scheduler]
    exact hK r next hp hlast

/-- Whenever a handler invokes `redroid_start`, its last probe was not critical; where each probe
that tells nothing is alone, no other start is tracked after one. -/
theorem starts_only_without_pressure
    (h : runtime.Along ProbesAlone (launched settings now uptime) acts) (acts' : List RuntimeAction)
    (pid : ℕ) (choice : RuntimeChoice) (hpre : acts' ++ [.exec pid choice] <+: acts)
    (request : StartRequest) :
    let w := runtime.run (launched settings now uptime) acts'
    w.pending? pid = some (.start request) → ∃ pressure,
      lastProbe (w.history pid) = some pressure ∧ pressure ≠ .critical ∧
        (pressure = .unknown → ∀ r ∈ w.state.scheduler.tracked, r = request) := by
  intro w hpending
  have hw : runtime.Reaches (launched settings now uptime) w := .run runtime _ acts'
  obtain ⟨r, next, ht⟩ := World.pending?_eq_some hpending
  obtain ⟨⟨rfl, h', entry, pressure, hhistory, -, hcritical⟩, -⟩ := hw.meets handler_follows ht
  refine ⟨pressure, ?_, hcritical, ?_⟩
  · rw [hhistory, List.append_cons, lastProbe_snoc]
  · rintro rfl
    have heach := unaccompanied_run (h.before hpre) pid _ ht
    have hlast : (w.history pid).getLast? = some ⟨.probe, .unknown⟩ := by simp [hhistory]
    exact hasOtherStart_eq_false.mp (heach request next rfl hlast)

/-- The probe tells nothing, and `r13` starts alone. -/
def aloneRun : List RuntimeAction :=
  serve 1 (.requestStart r13) 2 ++ [.exec 1 { smooth with pressure := .unknown }]

theorem starts_only_without_pressure_alone :
    ∃ pressure, lastProbe ((runtime.run (launched .default 0 0) aloneRun).history 1) = some pressure ∧
      pressure ≠ .critical ∧ (pressure = .unknown → ∀ r ∈
        (runtime.run (launched .default 0 0) aloneRun).state.scheduler.tracked, r = r13) := by
  have haccompanied : runtime.Along ProbesAlone (launched .default 0 0) (aloneRun ++ [.exec 1 smooth]) := by
    decide +kernel
  exact starts_only_without_pressure haccompanied aloneRun 1 smooth (List.prefix_refl _) r13
    (by decide +kernel)

def twoAtOnce : LifecyclePolicy := { LifecyclePolicy.default with maxParallelStarts := 2 }

/-- `r13` is starting when the probe in the turn of `r1` tells nothing. -/
def blindRun : List RuntimeAction :=
  serve 1 (.requestStart r13) 2 ++ serve 2 (.requestStart r1) 2 ++
    [.exec 2 { smooth with pressure := .unknown }]

theorem unknown_pressure_starts_beside_another :
    ¬ ∀ (settings : LifecyclePolicy) (now : SystemTime) (uptime : ℕ) (acts acts' : List RuntimeAction)
      (pid : ℕ) (choice : RuntimeChoice), acts' ++ [.exec pid choice] <+: acts →
      ∀ request : StartRequest, let w := runtime.run (launched settings now uptime) acts'
        w.pending? pid = some (.start request) → ∃ pressure,
          lastProbe (w.history pid) = some pressure ∧ pressure ≠ .critical ∧
            (pressure = .unknown → ∀ r ∈ w.state.scheduler.tracked, r = request) := by
  intro h
  have hlast : lastProbe ((runtime.run (launched twoAtOnce 0 0) blindRun).history 2) =
      some .unknown := by decide +kernel
  obtain ⟨pressure, hpressure, -, halone⟩ := h twoAtOnce 0 0 (blindRun ++ [.exec 2 smooth]) blindRun
    2 smooth (List.prefix_refl _) r1 (by decide +kernel)
  rw [hlast, Option.some.injEq] at hpressure
  exact absurd (halone hpressure.symm r13 (by decide +kernel)) (by decide)

end JustRun.Runtime
