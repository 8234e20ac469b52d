import JustRun.Desktop.Runtime

/-!
# Local revocations and the writes that follow them

`runtime_heartbeat` and `runtime_acquire_capabilities` write their session back
whatever has happened to `ACTIVE_SESSION` during the exchange. A revocation stands,
and a newer acquisition is not undone, as long as no write follows a revocation or,
for a heartbeat, an acquisition that came after the writer's first call.
-/
namespace JustRun.Desktop
open Machine Authorization Concurrency

abbrev RuntimeEntry := LogEntry State Call Result

/-- The log from the handler's first call on. -/
def sinceStart (pid : ℕ) (log : List RuntimeEntry) : List RuntimeEntry :=
  log.dropWhile (fun e => e.pid ≠ pid)

def Call.writesActive : Call → Bool
  | writeActive _ => true
  | _ => false

/-- The entry is the write with which an acquisition completes. -/
def installs (w : RuntimeWorld) (e : RuntimeEntry) : Bool :=
  e.op.writesActive && (w.request? e.pid).any RuntimeRequest.acquires

/-- A write of the active session that no revocation has overtaken, and, for a heartbeat,
no acquisition. -/
def Uncontested (w : RuntimeWorld) : RuntimeAction → Prop
  | .exec pid _ => match w.pending? pid with
    | some (.writeActive _) => ∀ e ∈ sinceStart pid w.log, e.op ≠ .takeActive ∧
        (w.request? pid = some .heartbeat → installs w e = false)
    | _ => True
  | _ => True

instance (w : RuntimeWorld) (a : RuntimeAction) : Decidable (Uncontested w a) := by
  unfold Uncontested
  split
  · split <;> infer_instance
  · infer_instance

/-- An acquisition that had made no call in `w₁` has completed in `w₂`. -/
def AcquiredSince (w₁ w₂ : RuntimeWorld) : Prop :=
  ∃ e ∈ w₂.log, w₁.history e.pid = [] ∧ installs w₂ e = true

/-- No heartbeat that was under way in `w₁` has written its session by `w₂`. -/
def HeartbeatsGivenUp (w₁ w₂ : RuntimeWorld) : Prop :=
  ∀ l, w₂.log = w₁.log ++ l → ∀ e ∈ l, w₁.request? e.pid = some .heartbeat →
    w₁.history e.pid ≠ [] → e.op.writesActive = false

theorem mem_sinceStart {pid : ℕ} {l l' : List RuntimeEntry} {e : RuntimeEntry}
    (h : ∃ x ∈ l ++ [e], x.pid = pid) : e ∈ sinceStart pid (l ++ [e] ++ l') := by
  induction l with
  | nil =>
    obtain ⟨x, hx, hpid⟩ := h
    obtain rfl := List.mem_singleton.mp hx
    simp [sinceStart, hpid]
  | cons y l ih =>
    by_cases hy : y.pid = pid
    · simp [sinceStart, hy]
    · obtain ⟨x, hx, hpid⟩ := h
      have hrest : x ∈ l ++ [e] := by
        rcases List.mem_cons.mp hx with rfl | hx
        · exact absurd hpid hy
        · exact hx
      have hmem := ih ⟨x, hrest, hpid⟩
      simpa [sinceStart, hy] using hmem

variable {deployment : AuthorizationClient}

theorem history_ne_nil {w : RuntimeWorld} {pid : ℕ} (h : w.history pid ≠ []) :
    ∃ x ∈ w.log, x.pid = pid := by
  obtain ⟨x, hx⟩ := List.exists_mem_of_ne_nil _ h
  obtain ⟨e, he, hpid, -⟩ := mem_historyOf.mp hx
  exact ⟨e, he, hpid⟩

theorem installs_mono {w w' : RuntimeWorld} (h : (runtime deployment).Reaches w w')
    {e : RuntimeEntry} (he : installs w e = true) : installs w' e = true := by
  simp only [installs, Bool.and_eq_true, Option.any_eq_true] at he ⊢
  obtain ⟨hop, request, hrequest, hacquires⟩ := he
  exact ⟨hop, request, h.request? hrequest, hacquires⟩

theorem AcquiredSince.mono {w₁ w w' : RuntimeWorld} (h : (runtime deployment).Reaches w w')
    (ha : AcquiredSince w₁ w) : AcquiredSince w₁ w' := by
  obtain ⟨e, he, hnew, hinstalls⟩ := ha
  exact ⟨e, h.log_prefix.subset he, hnew, installs_mono h hinstalls⟩

/-- Only a write fills the active session. -/
theorem exec_active {s s' : State} {choice : Choice} {call : Call} {r : Result call}
    (h : s.exec choice call = some (r, s')) (hw : call.writesActive = false) :
    s'.active = s.active ∨ s'.active = none := by
  cases call with
  | writeActive session => cases hw
  | takeActive =>
    cases h
    exact .inr rfl
  | isDir path | pathExists path =>
    simp only [State.exec] at h
    split at h <;> cases h
    exact .inl rfl
  | createNew path | writeAll path data | rename source target | removeFile path =>
    simp only [State.exec] at h
    split at h <;> cases h <;> exact .inl rfl
  | _ =>
    cases h
    exact .inl rfl

/-- The call a handler makes is one its request may make. -/
theorem runtime_call_allowed {s : State} {w : RuntimeWorld}
    (hw : (runtime deployment).Reaches (.init s) w) {pid : ℕ} {request : RuntimeRequest} {op : Call}
    {next : Result op → ClientProg (Option AuthorizationSession)}
    (ht : w.threads pid = some ⟨request, .call op next⟩) :
    RuntimeAllowed request (w.history pid) op :=
  (hw.meets (runtime_meets deployment) ht).1

section Step
variable {w₁ v : RuntimeWorld} {l : List RuntimeEntry} {e : RuntimeEntry} {s : State} {pid : ℕ}
  {choice : Choice} {request : RuntimeRequest} {op : Call}
  {next : Result op → ClientProg (Option AuthorizationSession)}

/-- An uncontested write is by a handler that has started after the last revocation. -/
theorem Uncontested.started_since (hlast : w₁.log = l ++ [e]) (he : e.op = .takeActive)
    (hv : (runtime deployment).Reaches w₁ v) (hc : Uncontested v (.exec pid choice))
    (ht : v.threads pid = some ⟨request, .call op next⟩) (hop : op.writesActive = true) :
    w₁.history pid = [] := by
  by_contra hne
  cases op with
  | writeActive session =>
    simp only [Uncontested, World.pending?_eq ht] at hc
    obtain ⟨l', hl'⟩ := hv.log_prefix
    have hmem : e ∈ sinceStart pid v.log := by
      rw [← hl', hlast]
      exact mem_sinceStart (hlast ▸ history_ne_nil hne)
    exact (hc e hmem).1 he
  | _ => cases hop

/-- An uncontested write of a heartbeat is by one that has started after the last acquisition. -/
theorem Uncontested.refreshed_since (hlast : w₁.log = l ++ [e]) (he : installs w₁ e = true)
    (hv : (runtime deployment).Reaches w₁ v) (hc : Uncontested v (.exec pid choice))
    (ht : v.threads pid = some ⟨.heartbeat, .call op next⟩) (hop : op.writesActive = true) :
    w₁.history pid = [] := by
  by_contra hne
  cases op with
  | writeActive session =>
    simp only [Uncontested, World.pending?_eq ht, World.request?_eq ht] at hc
    obtain ⟨l', hl'⟩ := hv.log_prefix
    have hmem : e ∈ sinceStart pid v.log := by
      rw [← hl', hlast]
      exact mem_sinceStart (hlast ▸ history_ne_nil hne)
    have hnot := (hc e hmem).2 trivial
    rw [installs_mono hv he] at hnot
    cases hnot
  | _ => cases hop

end Step

/-- Since `w₁` no handler has read a session, and there is none. -/
structure NoneSince (w₁ w : RuntimeWorld) : Prop where
  active : w.state.active = none
  unread : ∀ l, w.log = w₁.log ++ l → ∀ e ∈ l, ∀ session,
    e.entry ≠ ⟨.readActive, .ok (some session)⟩

theorem revocation_lasts {s : State} {w₁ : RuntimeWorld} {l : List RuntimeEntry} {e : RuntimeEntry}
    (hw₁ : (runtime deployment).Reaches (.init s) w₁) (hlast : w₁.log = l ++ [e])
    (he : e.op = .takeActive) (hnone : w₁.state.active = none) {acts : List RuntimeAction}
    (hacts : (runtime deployment).Along Uncontested w₁ acts) :
    AcquiredSince w₁ ((runtime deployment).run w₁ acts) ∨
      NoneSince w₁ ((runtime deployment).run w₁ acts) := by
  refine hacts.keeps (fun w => AcquiredSince w₁ w ∨ NoneSince w₁ w) (.inr ⟨hnone, ?_⟩) ?_
  · intro l hl e he
    rw [List.self_eq_append_right.mp hl] at he
    cases he
  intro v a hv hc hI
  rcases hI with hdone | ⟨hactive, hunread⟩
  · exact .inl (hdone.mono (.step _ v a))
  rcases (runtime deployment).step_cases v a with h | ⟨q, request, rfl, hq, h⟩ |
    ⟨pid, choice, request, op, next, r, s', rfl, ht, hx, h⟩ | ⟨move, -, -⟩
  · rw [h]
    exact .inr ⟨hactive, hunread⟩
  · rw [h]
    exact .inr ⟨hactive, hunread⟩
  · have hallowed := runtime_call_allowed (hw₁.trans _ hv) ht
    obtain ⟨l₀, hl₀⟩ := hv.log_prefix
    by_cases hop : op.writesActive = true
    · -- The writer has started after the revocation; a heartbeat would have read a session.
      left
      have hnew := hc.started_since hlast he hv ht hop
      have hacquires : request.acquires = true := by
        cases op with
        | writeActive session =>
          refine hallowed.resolve_right ?_
          rintro ⟨-, current, hread⟩
          obtain ⟨x, hx, hpid, hentry⟩ := mem_historyOf.mp hread
          rw [← hl₀, List.mem_append] at hx
          rcases hx with hx | hx
          · have hmem : x.entry ∈ w₁.history pid := mem_historyOf.mpr ⟨x, hx, hpid, rfl⟩
            rw [hnew] at hmem
            cases hmem
          · exact hunread l₀ hl₀.symm x hx current hentry
        | _ => cases hop
      refine ⟨⟨pid, v.state, op, r⟩, ?_, hnew, ?_⟩
      · rw [h]
        simp
      · rw [h]
        simp [installs, hop, hacquires, World.request?]
    · right
      rw [h]
      constructor
      · rcases exec_active hx (by simpa using hop) with hs | hs
        · rw [World.afterCall_state, hs, hactive]
        · rw [World.afterCall_state, hs]
      · intro l' hl' x hx' session hentry
        rw [World.afterCall_log, ← hl₀, List.append_assoc] at hl'
        rw [← List.append_cancel_left hl', List.mem_append] at hx'
        rcases hx' with hx' | hx'
        · exact hunread l₀ hl₀.symm x hx' session hentry
        · obtain rfl := List.mem_singleton.mp hx'
          simp only [LogEntry.entry, Sigma.mk.injEq] at hentry
          obtain ⟨rfl, hr⟩ := hentry
          obtain rfl := eq_of_heq hr
          have hread : v.state.active = some session := by
            have hx₀ : some ((Except.ok v.state.active : Result .readActive), v.state) =
              some (.ok (some session), s') := hx
            injection hx₀ with hx₀
            injection hx₀ with hx₀
            injection hx₀
          rw [hactive] at hread
          cases hread
  · exact move.elim

theorem heartbeats_given_up {w₁ : RuntimeWorld} {l : List RuntimeEntry} {e : RuntimeEntry}
    (hlast : w₁.log = l ++ [e]) (he : installs w₁ e = true) {acts : List RuntimeAction}
    (hacts : (runtime deployment).Along Uncontested w₁ acts) :
    HeartbeatsGivenUp w₁ ((runtime deployment).run w₁ acts) := by
  refine hacts.keeps (HeartbeatsGivenUp w₁) ?_ ?_
  · intro l' hl' x hx
    rw [List.self_eq_append_right.mp hl'] at hx
    cases hx
  intro v a hv hc ih
  rcases (runtime deployment).step_cases v a with h | ⟨q, request, rfl, hq, h⟩ |
    ⟨pid, choice, request, op, next, r, s', rfl, ht, hx, h⟩ | ⟨move, -, -⟩
  · rw [h]
    exact ih
  · rw [h]
    exact ih
  · rw [h]
    intro l' hl' x hx' hheartbeat hunderway
    obtain ⟨l₀, hl₀⟩ := hv.log_prefix
    rw [World.afterCall_log, ← hl₀, List.append_assoc] at hl'
    rw [← List.append_cancel_left hl', List.mem_append] at hx'
    rcases hx' with hx' | hx'
    · exact ih l₀ hl₀.symm x hx' hheartbeat hunderway
    · obtain rfl := List.mem_singleton.mp hx'
      have hrequest := hv.request? hheartbeat
      rw [World.request?_eq ht] at hrequest
      cases hrequest
      by_contra hop
      exact hunderway (hc.refreshed_since hlast he hv ht (by simpa using hop))
  · exact move.elim

theorem exec_takeActive {s s' : State} {choice : Choice} {call : Call} {r : Result call}
    (h : s.exec choice call = some (r, s')) (hcall : call = .takeActive) : s'.active = none := by
  subst hcall
  cases h
  rfl

/-- A revocation leaves no session. -/
theorem active_none_of_last {s : State} {w : RuntimeWorld}
    (hw : (runtime deployment).Reaches (.init s) w) {l : List RuntimeEntry} {e : RuntimeEntry}
    (hlast : w.log = l ++ [e]) (he : e.op = .takeActive) : w.state.active = none := by
  refine hw.holds_since (J := fun s => s.active = none) (fun _ => False) (l := l) hlast
    (fun _ h => nomatch h) (fun _ _ hx => exec_takeActive hx he)
    (fun _ _ _ _ _ _ _ _ _ _ _ hB => hB.elim) (fun move => move.elim)

theorem local_revocation_wins (deployment : AuthorizationClient)
    (files : FilePath → Option (List UInt8)) (acts acts' : List RuntimeAction)
    (hacts : (runtime deployment).Along Uncontested (started files) (acts ++ acts'))
    (l : List RuntimeEntry) (e : RuntimeEntry)
    (hlast : ((runtime deployment).run (started files) acts).log = l ++ [e]) :
    (e.op = .takeActive →
      ((runtime deployment).run (started files) (acts ++ acts')).state.active = none ∨
        AcquiredSince ((runtime deployment).run (started files) acts)
          ((runtime deployment).run (started files) (acts ++ acts'))) ∧
    (installs ((runtime deployment).run (started files) acts) e = true →
      HeartbeatsGivenUp ((runtime deployment).run (started files) acts)
        ((runtime deployment).run (started files) (acts ++ acts'))) := by
  obtain ⟨-, hafter⟩ := System.along_append.mp hacts
  have hw : (runtime deployment).Reaches (started files)
      ((runtime deployment).run (started files) acts) := .run _ _ acts
  rw [System.run_append]
  constructor
  · intro he
    have hnone := active_none_of_last hw hlast he
    rcases revocation_lasts hw hlast he hnone hafter with hdone | hkept
    · exact .inr hdone
    · exact .inl hkept.active
  · intro he
    exact heartbeats_given_up hlast he hafter

/-! ### Runs on fixed inputs -/

/-- The machine answers, and the server grants every request a lease of this session. -/
def granting (sessionId : String) : (call : Call) → Result call
  | .acquireSession .. | .heartbeat .. =>
    .ok ⟨⟨"key-1", sampleLeaseClaims "account" "client" sessionId "nonce", "signature"⟩, 1000⟩
  | other => offline other

/-- `n` calls of one handler. -/
def advance (pid n : ℕ) (answer : (call : Call) → Result call) : List RuntimeAction :=
  List.replicate n (.exec pid ⟨answer, 0⟩)

def acquireAs (pid : ℕ) (sessionId : String) : List RuntimeAction :=
  .spawn pid (.acquire [.protectedArtifact]) :: advance pid 11 (granting sessionId)

def revokeLocally (pid : ℕ) : List RuntimeAction :=
  [.spawn pid .revokeLocal, .exec pid ⟨offline, 0⟩]

/-- A session is acquired, a heartbeat has had its answer, and the session is revoked. -/
def revokedInFlight : List RuntimeAction :=
  acquireAs 0 "session" ++ .spawn 1 .heartbeat :: advance 1 12 (granting "session") ++
    revokeLocally 2

theorem exists_last {w : RuntimeWorld} {call : Call} (h : w.log.getLast?.map (·.op) = some call) :
    ∃ l e, w.log = l ++ [e] ∧ e.op = call := by
  obtain ⟨e, he, hop⟩ := Option.map_eq_some_iff.mp h
  obtain ⟨l, hl⟩ := List.getLast?_eq_some_iff.mp he
  exact ⟨l, e, hl, hop⟩

/-- The heartbeat brings back the session that was revoked while it waited. -/
theorem heartbeat_restores_revoked_session :
    ¬ ∀ (deployment : AuthorizationClient) (files : FilePath → Option (List UInt8))
      (acts acts' : List RuntimeAction) (l : List RuntimeEntry) (e : RuntimeEntry),
    ((runtime deployment).run (started files) acts).log = l ++ [e] → e.op = .takeActive →
      ((runtime deployment).run (started files) (acts ++ acts')).state.active = none ∨
        AcquiredSince ((runtime deployment).run (started files) acts)
          ((runtime deployment).run (started files) (acts ++ acts')) := by
  intro hclaim
  let w₁ := (runtime sampleClient).run (started fun _ => none) revokedInFlight
  let w₂ := (runtime sampleClient).run (started fun _ => none)
    (revokedInFlight ++ advance 1 1 (granting "session"))
  have hrevoked : w₁.log.getLast?.map (·.op) = some .takeActive := by decide +kernel
  obtain ⟨l, e, hlast, he⟩ := exists_last hrevoked
  rcases hclaim sampleClient _ _ (advance 1 1 (granting "session")) l e hlast he with
    hnone | ⟨x, hx, hnew, hinstalls⟩
  · have hactive : w₂.state.active.isNone = false := by decide +kernel
    rw [Option.isNone_eq_false_iff] at hactive
    simp [w₂, hnone] at hactive
  · have hold : ∀ x ∈ w₂.log, installs w₂ x = true → (w₁.history x.pid).isEmpty = false := by
      decide +kernel
    have hstarted := hold x hx hinstalls
    rw [hnew] at hstarted
    cases hstarted

/-- A heartbeat completes, the session is revoked, and another is acquired. -/
def revokedInTime : List RuntimeAction :=
  acquireAs 0 "session" ++ .spawn 1 .heartbeat :: advance 1 13 (granting "session") ++
    revokeLocally 2

theorem local_revocation_wins_reacquired :
    ∃ l e, ((runtime sampleClient).run (started fun _ => none) revokedInTime).log = l ++ [e] ∧
      (((runtime sampleClient).run (started fun _ => none)
          (revokedInTime ++ acquireAs 3 "session-2")).state.active = none ∨
        AcquiredSince ((runtime sampleClient).run (started fun _ => none) revokedInTime)
          ((runtime sampleClient).run (started fun _ => none)
            (revokedInTime ++ acquireAs 3 "session-2"))) := by
  have hacts : (runtime sampleClient).Along Uncontested (started fun _ => none)
      (revokedInTime ++ acquireAs 3 "session-2") := by
    decide +kernel
  have hrevoked : ((runtime sampleClient).run (started fun _ => none) revokedInTime).log.getLast?.map
      (·.op) = some .takeActive := by
    decide +kernel
  obtain ⟨l, e, hlast, he⟩ := exists_last hrevoked
  exact ⟨l, e, hlast, (local_revocation_wins sampleClient _ _ _ hacts l e hlast).1 he⟩

end JustRun.Desktop
