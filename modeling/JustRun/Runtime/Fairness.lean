import JustRun.Runtime.Scheduler

/-!
# Who is served first

The queue keeps the order in which its requests were made, and a promotion takes the oldest
of them. A request that finds a free slot is admitted at once, whoever waits.
-/
namespace JustRun.Runtime
open Machine

abbrev SchedulerLog := List (SchedulerCall × SchedulerReply)

/-- When the request was last made. -/
def madeAt (request : StartRequest) (log : SchedulerLog) : Option ℕ :=
  lastIndex (fun entry => decide (made? entry = some request)) log

def MadeBefore (log : SchedulerLog) (q r : StartRequest) : Prop :=
  ∃ i j, madeAt q log = some i ∧ madeAt r log = some j ∧ i < j

namespace SchedulerState

/-- The call serves `r`, made after `q`, while `q` waits and could be served. -/
structure Overtakes (log : SchedulerLog) (s : SchedulerState) (call : SchedulerCall)
    (q r : StartRequest) : Prop where
  waiting : q ∈ s.queuedStarts
  admissible : s.Admissible q.vm
  served : served? (call, (s.perform call).1) = some r
  later : MadeBefore (log ++ [(call, (s.perform call).1)]) q r

/-- A request that is about to be served at once finds nobody in the queue who could be. -/
def RespectsQueue (s : SchedulerState) : SchedulerCall → Prop
  | .requestStart request => request ∈ s.starting ∨ request ∈ s.queuedStarts ∨
    ¬ s.Admissible request.vm ∨ ∀ q ∈ s.queuedStarts, ¬ s.Admissible q.vm
  | _ => True

/-! ### The order of the queue -/

theorem madeAt_snoc (request : StartRequest) (log : SchedulerLog)
    (entry : SchedulerCall × SchedulerReply) : madeAt request (log ++ [entry]) =
      if made? entry = some request then some log.length else madeAt request log := by
  simp [madeAt]

theorem madeBefore_snoc {log : SchedulerLog} {entry : SchedulerCall × SchedulerReply}
    {q r : StartRequest} (hq : made? entry ≠ some q) (hr : made? entry ≠ some r) :
    MadeBefore (log ++ [entry]) q r ↔ MadeBefore log q r := by
  simp only [MadeBefore, madeAt_snoc, if_neg hq, if_neg hr]

theorem madeBefore_newest {log : SchedulerLog} {entry : SchedulerCall × SchedulerReply}
    {q r : StartRequest} {i : ℕ} (hq : made? entry ≠ some q) (hi : madeAt q log = some i)
    (hr : made? entry = some r) : MadeBefore (log ++ [entry]) q r := by
  refine ⟨i, log.length, ?_, ?_, lastIndex_lt hi⟩
  · rw [madeAt_snoc, if_neg hq, hi]
  · rw [madeAt_snoc, if_pos hr]

theorem madeBefore_asymm {log : SchedulerLog} {q r : StartRequest} (h : MadeBefore log q r) :
    ¬ MadeBefore log r q := by
  rintro ⟨j', i', hj', hi', hlt'⟩
  obtain ⟨i, j, hi, hj, hlt⟩ := h
  rw [hi, Option.some.injEq] at hi'
  rw [hj, Option.some.injEq] at hj'
  omega

/-- The queue is in the order of its requests, and every one of them has been made. -/
structure Ordered (log : SchedulerLog) (s : SchedulerState) : Prop where
  oldestFirst : s.queuedStarts.Pairwise (MadeBefore log)
  made : ∀ q ∈ s.queuedStarts, ∃ i, madeAt q log = some i

/-- Where a call makes none of the requests that stay in the queue, their order stays too. -/
theorem Ordered.sublist {log : SchedulerLog} {entry : SchedulerCall × SchedulerReply}
    {s s' : SchedulerState} (h : Ordered log s) (hsub : s'.queuedStarts.Sublist s.queuedStarts)
    (hold : ∀ q ∈ s'.queuedStarts, made? entry ≠ some q) : Ordered (log ++ [entry]) s' where
  oldestFirst := by
    apply (h.oldestFirst.sublist hsub).imp_of_mem
    intro q r hq hr hbefore
    exact (madeBefore_snoc (hold q hq) (hold r hr)).mpr hbefore
  made := by
    intro q hq
    rw [madeAt_snoc, if_neg (hold q hq)]
    exact h.made q (hsub.subset hq)

theorem Ordered.perform {log : SchedulerLog} {s : SchedulerState} (h : Ordered log s)
    (call : SchedulerCall) :
    Ordered (log ++ [(call, (s.perform call).1)]) (s.perform call).2 := by
  have he := s.perform_effect call
  generalize (call, (s.perform call).1) = entry at he
  generalize (s.perform call).2 = s' at he
  generalize hevent : startEvent entry = event at he
  have hmade : made? entry = event.bind StartEvent.made? := by rw [made?, hevent]
  cases he with
  | queued request hnew _ =>
    have hmade : made? entry = some request := hmade
    have hold : ∀ q ∈ s.queuedStarts, made? entry ≠ some q := by
      intro q hq hsame
      rw [hmade] at hsame
      cases hsame
      exact hnew (List.mem_append_right _ hq)
    have hbefore : Ordered (log ++ [entry]) s := h.sublist (List.Sublist.refl _) hold
    constructor
    · rw [List.pairwise_append]
      refine ⟨hbefore.oldestFirst, List.pairwise_singleton _ _, ?_⟩
      intro q hq r hr
      rw [List.mem_singleton.mp hr]
      obtain ⟨i, hi⟩ := h.made q hq
      exact madeBefore_newest (hold q hq) hi hmade
    · intro q hq
      rcases List.mem_append.mp hq with hq | hq
      · exact hbefore.made q hq
      · rw [List.mem_singleton.mp hq, madeAt_snoc, if_pos hmade]
        exact ⟨_, rfl⟩
  | admitted request hnew _ =>
    have hmade : made? entry = some request := hmade
    refine h.sublist (List.Sublist.refl s.queuedStarts) ?_
    intro q hq hsame
    rw [hmade] at hsame
    cases hsame
    exact hnew (List.mem_append_right _ hq)
  | promoted request rest hfront _ =>
    refine h.sublist ?_ (fun q _ hsame => by cases hmade.symm.trans hsame)
    rw [hfront]
    exact List.sublist_cons_self request rest
  | cancelled request _ =>
    exact h.sublist List.erase_sublist (fun q _ hsame => by cases hmade.symm.trans hsame)
  | finished | beside =>
    exact h.sublist (List.Sublist.refl s.queuedStarts)
      (fun q _ hsame => by cases hmade.symm.trans hsame)

theorem ordered_run (policy : LifecyclePolicy) (calls : List SchedulerCall) :
    Ordered (transcript perform (withPolicy policy) calls)
      (final perform (withPolicy policy) calls) :=
  run_induct (I := Ordered) ⟨List.Pairwise.nil, fun _ h => by cases h⟩
    (fun _ _ call h => h.perform call) calls

/-! ### Overtaking -/

/-- A promotion takes the oldest request, so it overtakes nobody. -/
theorem not_overtakes_of_promoted {log : SchedulerLog} {s : SchedulerState} (h : Ordered log s)
    {entry : SchedulerCall × SchedulerReply} {q r : StartRequest} {rest : List StartRequest}
    (hfront : s.queuedStarts = r :: rest) (hmade : made? entry = none) (hq : q ∈ s.queuedStarts) :
    ¬ MadeBefore (log ++ [entry]) q r := by
  rw [madeBefore_snoc (by simp [hmade]) (by simp [hmade])]
  intro hbefore
  have horder := h.oldestFirst
  rw [hfront, List.pairwise_cons] at horder
  rw [hfront, List.mem_cons] at hq
  rcases hq with rfl | hq
  · exact madeBefore_asymm hbefore hbefore
  · exact madeBefore_asymm hbefore (horder.1 q hq)

/-- Only a request served at once overtakes, and it overtakes all that could be served. -/
theorem overtakes_iff {log : SchedulerLog} {s : SchedulerState} (h : Ordered log s)
    (call : SchedulerCall) : (∀ q r, ¬ Overtakes log s call q r) ↔ s.RespectsQueue call := by
  constructor
  · intro hnone
    cases call with
    | requestStart request =>
      by_contra hnot
      simp only [RespectsQueue, not_or, not_not, not_forall] at hnot
      obtain ⟨hstarting, hqueued, hturn, q, hq, hadmissible⟩ := hnot
      have hnew : request ∉ s.starting ++ s.queuedStarts := by simp [hstarting, hqueued]
      have hreply : (s.perform (.requestStart request)).1 = .decision .starting := by
        rw [perform, requestStart_of_admissible hnew hturn]
        rfl
      obtain ⟨i, hi⟩ := h.made q hq
      have hold : made? (.requestStart request, .decision .starting) ≠ some q := by
        intro hsame
        cases hsame
        exact hqueued hq
      apply hnone q request
      refine ⟨hq, hadmissible, ?_, ?_⟩
      · rw [hreply]
        rfl
      · rw [hreply]
        exact madeBefore_newest hold hi rfl
    | _ => trivial
  · rintro hrespects q r ⟨hq, hadmissible, hserved, hlater⟩
    have he := s.perform_effect call
    generalize hevent : startEvent (call, (s.perform call).1) = event at he
    rw [served?, hevent] at hserved
    have hmade : made? (call, (s.perform call).1) = event.bind StartEvent.made? := by
      rw [made?, hevent]
    generalize (s.perform call).2 = s' at he
    cases he with
    | admitted request hnew hturn =>
      rw [call_of_made (.inr hevent)] at hrespects
      rw [List.mem_append, not_or] at hnew
      rcases hrespects with hin | hin | hno | hno
      · exact hnew.1 hin
      · exact hnew.2 hin
      · exact hno hturn
      · exact hno q hq hadmissible
    | promoted request rest hfront hturn =>
      cases hserved
      exact not_overtakes_of_promoted h hfront hmade hq hlater
    | queued | cancelled | finished | beside => cases hserved

/-- In a run no request is served ahead of an older one that could be served exactly when
every request served at once finds a queue of which nobody could be. -/
theorem overtaken_by_direct_starts_only (policy : LifecyclePolicy) (calls : List SchedulerCall) :
    EachCall perform (fun log s call => ∀ q r, ¬ Overtakes log s call q r) (withPolicy policy) calls ↔
      EachCall perform (fun _ s call => s.RespectsQueue call) (withPolicy policy) calls :=
  eachCall_congr (ordered_run policy) (fun _ _ call h => overtakes_iff h call)

/-- The limit is raised while `r1` waits for a slot, and `r2` is requested next. -/
def raisedLimit : List SchedulerCall :=
  [.requestStart r13, .requestStart r1,
    .updatePolicy { LifecyclePolicy.default with maxParallelStarts := 2 }]

theorem raised_limit_is_taken_by_the_newest :
    ¬ ∀ (policy : LifecyclePolicy) (calls : List SchedulerCall),
      EachCall perform (fun log s call => ∀ q r, ¬ Overtakes log s call q r)
        (withPolicy policy) calls := by
  intro h
  apply h .default (raisedLimit ++ [.requestStart r2]) raisedLimit (.requestStart r2)
    (List.prefix_refl _) r1 r2
  exact ⟨by decide +kernel, by decide +kernel, by decide +kernel,
    1, 3, by decide +kernel, by decide +kernel, by decide⟩

end SchedulerState
end JustRun.Runtime
