import JustRun.Concurrency.Interleaving

/-!
# What happens once

A call that leaves a mark in the state, and is impossible where the mark is, happens once
in every run. The mark is a predicate that every other call keeps.
-/
namespace JustRun.Concurrency.System
variable {σ Request Op : Type} {Res : Op → Type} {ε α Choice Env β : Type}
  {S : System σ Request Op Res ε α Choice Env} {s₀ : σ}

/-- Between two such calls the mark of the first one stands. -/
theorem Reaches.once (f : LogEntry σ Op Res → Option β) (J : β → σ → Prop)
    (hmark : ∀ v pid request op next choice r s' b, S.Reaches (.init s₀) v →
      v.threads pid = some ⟨request, .call op next⟩ → S.exec choice v.state op = some (r, s') →
      f ⟨pid, v.state, op, r⟩ = some b → ¬ J b v.state ∧ J b s')
    (hkeep : ∀ v pid request op next choice r s' b, S.Reaches (.init s₀) v →
      v.threads pid = some ⟨request, .call op next⟩ → S.exec choice v.state op = some (r, s') →
      J b v.state → J b s')
    (henv : ∀ move s b, J b s → J b (S.env move s)) {w : World σ Request Op Res ε α}
    (hw : S.Reaches (.init s₀) w) (l : List (LogEntry σ Op Res)) (e : LogEntry σ Op Res)
    (l' : List (LogEntry σ Op Res)) (hl : w.log = l ++ e :: l') :
    ∀ e' ∈ l', ∀ b, f e = some b → f e' ≠ some b := by
  intro e' he' b hb hb'
  obtain ⟨l₁, l₂, rfl⟩ := List.append_of_mem he'
  have hlog : w.log = (l ++ e :: l₁) ++ e' :: l₂ := by rw [hl]; simp
  obtain ⟨v, choice, request, next, s', hv, hvlog, hstate, ht, hx, -⟩ := hw.point (l := l ++ e :: l₁) hlog
  have hvlog : v.log = l ++ e :: l₁ := hvlog
  obtain ⟨u, choice', request', next', s'', hu, -, hstate', ht', hx', -⟩ := hw.point (l := l) hl
  rw [← hstate] at hx
  rw [← hstate'] at hx'
  have hafter : J b v.state := by
    refine hv.holds_since (J := J b) (fun _ => True) hvlog (fun _ _ => trivial) ?_ ?_ (henv · · b)
    · intro choice s' hx
      rw [← hstate'] at hx
      refine (hmark u e.pid request' e.op next' choice e.res s' b hu ht' hx ?_).2
      rw [hstate']
      exact hb
    · exact fun v pid request op next choice r s' hv ht hx _ =>
        hkeep v pid request op next choice r s' b hv ht hx
  refine (hmark v e'.pid request e'.op next choice e'.res s' b hv ht hx ?_).1 hafter
  rw [hstate]
  exact hb'

/-- What each handler calls at most once, by its specification, the log has at most once for it. -/
theorem Reaches.once_each {P : Request → List (Entry Op Res) → Op → Prop}
    {Q : Request → List (Entry Op Res) → Except ε α → Prop}
    (hspec : ∀ r, (S.handler r).Meets (P r) (Q r) []) (sel : Op → Bool)
    (hsel : ∀ r h op, P r h op → sel op = true → ∀ x ∈ h, sel x.1 = false)
    {w : World σ Request Op Res ε α} (hw : S.Reaches (.init s₀) w) {e e' : LogEntry σ Op Res}
    (he : e ∈ w.log) (he' : e' ∈ w.log) (hsame : e.pid = e'.pid) (h : sel e.op = true)
    (h' : sel e'.op = true) : e = e' := by
  refine eq_of_once (fun e => if sel e.op then some e.pid else none) ?_ he he' (b := e.pid)
    (by simp [h]) (by simp [h', hsame])
  intro l x l' hl x' hx' pid hpid hpid'
  obtain ⟨l₁, l₂, rfl⟩ := List.append_of_mem hx'
  obtain ⟨t, -, hP⟩ := hw.logged hspec
    (show w.log = (l ++ x :: l₁) ++ x' :: l₂ by rw [hl]; simp)
  simp only [Option.ite_none_right_eq_some, Option.some.injEq] at hpid hpid'
  have hmem : x.entry ∈ historyOf x'.pid (l ++ x :: l₁) :=
    mem_historyOf.mpr ⟨x, by simp, hpid.2.trans hpid'.2.symm, rfl⟩
  exact Bool.noConfusion (hpid.1.symm.trans (hsel _ _ _ hP hpid'.1 _ hmem))

/-- As a list: what happens once is there without repetition. -/
theorem nodup_filterMap_of_once {f : LogEntry σ Op Res → Option β} {log : List (LogEntry σ Op Res)}
    (once : ∀ l e l', log = l ++ e :: l' → ∀ e' ∈ l', ∀ b, f e = some b → f e' ≠ some b) :
    (log.filterMap f).Nodup := by
  induction log with
  | nil => exact List.nodup_nil
  | cons e log ih =>
    have hrest : (log.filterMap f).Nodup :=
      ih fun l x l' hl => once (e :: l) x l' (by rw [hl, List.cons_append])
    cases he : f e with
    | none => rwa [List.filterMap_cons_none he]
    | some b =>
      rw [List.filterMap_cons_some he, List.nodup_cons]
      refine ⟨fun hmem => ?_, hrest⟩
      obtain ⟨e', he', hb⟩ := List.mem_filterMap.mp hmem
      exact once [] e log rfl e' he' b he hb

end JustRun.Concurrency.System
