import JustRun.Concurrency.Interleaving

/-!
# Where the handlers stand

An invariant about every handler in flight, the calls it has made and the state it stands in.
A handler brings it about by its own calls; the calls of the others and the environment must
keep it, and a condition of the run may say that they do.
-/
namespace JustRun.Concurrency
variable {σ Request Op : Type} {Res : Op → Type} {ε α Choice Env : Type}

/-- `K` holds of every handler: its request, its calls, what is left of it, and the state. -/
def World.Each (K : Request → List (Entry Op Res) → Prog Op Res ε α → σ → Prop)
    (w : World σ Request Op Res ε α) : Prop :=
  ∀ pid t, w.threads pid = some t → K t.request (w.history pid) t.rest w.state

namespace System
variable {S : System σ Request Op Res ε α Choice Env}

variable (S) in
/-- `v` is reached from `w` by a run whose steps meet `C`. -/
def ReachedAlong (C : World σ Request Op Res ε α → Action Request Choice Env → Prop)
    (w v : World σ Request Op Res ε α) : Prop := ∃ acts, S.Along C w acts ∧ S.run w acts = v

variable {C : World σ Request Op Res ε α → Action Request Choice Env → Prop}
  {w v : World σ Request Op Res ε α}

theorem ReachedAlong.reaches (h : S.ReachedAlong C w v) : S.Reaches w v := by
  obtain ⟨acts, -, rfl⟩ := h
  exact .run S w acts

theorem ReachedAlong.step (h : S.ReachedAlong C w v) {a : Action Request Choice Env} (hc : C v a) :
    S.ReachedAlong C w (S.step v a) := by
  obtain ⟨acts, ha, rfl⟩ := h
  refine ⟨acts ++ [a], along_append.mpr ⟨ha, hc, trivial⟩, ?_⟩
  rw [run_append, run_cons, run_nil]

/-- The run rule: a step may use all that is known of worlds reached so. -/
theorem ReachedAlong.keeps (I : World σ Request Op Res ε α → Prop) (h : S.ReachedAlong C w v)
    (h0 : I w) (hs : ∀ v a, S.ReachedAlong C w v → C v a → I v → I (S.step v a)) : I v := by
  obtain ⟨acts, ha, rfl⟩ := h
  suffices hI : ∀ v acts, S.ReachedAlong C w v → S.Along C v acts → I v → I (S.run v acts) from
    hI w acts ⟨[], trivial, rfl⟩ ha h0
  intro v acts
  induction acts generalizing v with
  | nil => exact fun _ _ hv => hv
  | cons a acts ih =>
    rintro hr ⟨hc, ha⟩ hv
    exact ih _ (hr.step hc) ha (hs v a hr hc hv)

/-- The run rule for what holds of every handler. -/
theorem ReachedAlong.each (K : Request → List (Entry Op Res) → Prog Op Res ε α → σ → Prop) {s₀ : σ}
    (h : S.ReachedAlong C (.init s₀) v)
    (hspawn : ∀ v pid request, S.ReachedAlong C (.init s₀) v → C v (.spawn pid request) →
      K request [] (S.handler request) v.state)
    (hown : ∀ v pid choice request op next r s', S.ReachedAlong C (.init s₀) v →
      C v (.exec pid choice) → v.threads pid = some ⟨request, .call op next⟩ →
      S.exec choice v.state op = some (r, s') → K request (v.history pid) (.call op next) v.state →
      K request (v.history pid ++ [⟨op, r⟩]) (next r) s')
    (hother : ∀ v pid choice request op next r s' q t, S.ReachedAlong C (.init s₀) v →
      C v (.exec pid choice) → v.threads pid = some ⟨request, .call op next⟩ →
      S.exec choice v.state op = some (r, s') → q ≠ pid → v.threads q = some t →
      K t.request (v.history q) t.rest v.state → K t.request (v.history q) t.rest s')
    (henv : ∀ v move q t, S.ReachedAlong C (.init s₀) v → C v (.env move) → v.threads q = some t →
      K t.request (v.history q) t.rest v.state →
      K t.request (v.history q) t.rest (S.env move v.state)) : v.Each K := by
  suffices hI : (∀ pid, v.threads pid = none → v.history pid = []) ∧ v.Each K from hI.2
  refine h.keeps (fun w => (∀ pid, w.threads pid = none → w.history pid = []) ∧ w.Each K)
    ⟨fun _ _ => rfl, fun _ _ ht => by simp [World.init] at ht⟩ ?_
  rintro v a hv hc ⟨hnone, heach⟩
  rcases S.step_cases v a with hs | ⟨pid, request, rfl, hp, hs⟩ |
    ⟨pid, choice, request, op, next, r, s', rfl, hp, hx, hs⟩ | ⟨move, rfl, hs⟩
  · rw [hs]
    exact ⟨hnone, heach⟩
  · rw [hs]
    refine ⟨fun q hq => hnone q ?_, fun q t hq => ?_⟩
    · by_cases hqp : q = pid
      · simpa [hqp] using hp
      · simpa [Function.update_of_ne hqp] using hq
    · by_cases hqp : q = pid
      · subst hqp
        obtain rfl : _ = t := by simpa using hq
        have hh : historyOf q v.log = [] := hnone q hp
        simpa [World.history, hh] using hspawn v q request hv hc
      · exact heach q t (by simpa [Function.update_of_ne hqp] using hq)
  · rw [hs]
    refine ⟨fun q hq => ?_, fun q t hq => ?_⟩
    · by_cases hqp : q = pid
      · subst hqp
        simp at hq
      · rw [v.history_afterCall_ne _ _ _ _ _ hqp]
        exact hnone q (by simpa [v.afterCall_threads_ne _ _ _ _ _ hqp] using hq)
    · by_cases hqp : q = pid
      · subst hqp
        obtain rfl : _ = t := by simpa using hq
        rw [v.history_afterCall_self]
        exact hown v q choice request op next r s' hv hc hp hx (heach q _ hp)
      · rw [v.afterCall_threads_ne _ _ _ _ _ hqp] at hq
        rw [v.history_afterCall_ne _ _ _ _ _ hqp]
        exact hother v pid choice request op next r s' q t hv hc hp hx hqp hq (heach q t hq)
  · rw [hs]
    exact ⟨hnone, fun q t hq => henv v move q t hv hc hq (heach q t hq)⟩

/-- The part of a run before one of its actions meets the condition too. -/
theorem Along.before {acts acts' : List (Action Request Choice Env)} {a : Action Request Choice Env}
    (h : S.Along C w acts) (hpre : acts' ++ [a] <+: acts) : S.ReachedAlong C w (S.run w acts') := by
  obtain ⟨rest, rfl⟩ := hpre
  exact ⟨acts', (along_append.mp (along_append.mp h).1).1, rfl⟩

end System

/-- A handler with a history has an entry in the log. -/
theorem World.exists_entry {w : World σ Request Op Res ε α} {pid : ℕ} (h : w.history pid ≠ []) :
    ∃ e ∈ w.log, e.pid = pid := by
  obtain ⟨x, hx⟩ := List.exists_mem_of_ne_nil _ h
  obtain ⟨e, he, hpid, -⟩ := mem_historyOf.mp hx
  exact ⟨e, he, hpid⟩

end JustRun.Concurrency
