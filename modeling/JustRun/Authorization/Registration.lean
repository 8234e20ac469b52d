import JustRun.Authorization.Revocation

/-!
# Registration proofs

A pending challenge was drawn and stored by one registration and is taken at most
once. An update of a client's registration follows the taking of its challenge in
a step of its own; what a failing completion leaves behind is the taken challenge,
when the store has failed in the update.
-/
namespace JustRun.Authorization
open Machine Relational Concurrency Concurrency.Prog

/-- The pending challenge that a logged call has stored. -/
def stored? : ServiceEntry → Option RegistrationChallenge
  | ⟨_, _, .setRegistrationChallenge clientId challenge version expiresAt, some ()⟩ =>
    some ⟨clientId, challenge, version, expiresAt⟩
  | _ => none

/-- The challenge that a logged call has taken. -/
def took? : ServiceEntry → Option String
  | ⟨_, _, .takeRegistrationChallenge _ challenge _, some (some _)⟩ => some challenge
  | _ => none

theorem stored?_eq_some {e : ServiceEntry} {p : RegistrationChallenge} :
    stored? e = some p ↔ e = ⟨e.pid, e.before, .setRegistrationChallenge p.clientId p.challenge
      p.requestedClientVersion p.expiresAt, some ()⟩ := by
  obtain ⟨pid, s, op, res⟩ := e
  constructor
  · intro h
    unfold stored? at h
    split at h
    · next heq => cases heq; cases h; rfl
    · cases h
  · intro h
    rw [h]
    rfl

theorem took?_eq_some {e : ServiceEntry} {challenge : String} :
    took? e = some challenge ↔ ∃ clientId now version,
      e = ⟨e.pid, e.before, .takeRegistrationChallenge clientId challenge now, some (some version)⟩ := by
  obtain ⟨pid, s, op, res⟩ := e
  constructor
  · intro h
    unfold took? at h
    split at h
    · next heq => cases heq; cases h; exact ⟨_, _, _, rfl⟩
    · cases h
  · rintro ⟨clientId, now, version, h⟩
    rw [h]
    rfl

variable {cfg : Config}

/-- A pending challenge was there before the call, or the call has stored it. -/
theorem exec_pending {s s' : State} {choice : Choice} {call : Call} {r : Option call.Val}
    (h : s.exec cfg choice call = some (r, s')) {p : RegistrationChallenge} (pid : ℕ)
    (hp : p ∈ s'.registrationChallenges) :
    p ∈ s.registrationChallenges ∨ stored? ⟨pid, s, call, r⟩ = some p := by
  rcases State.exec_cases h with ⟨-, rfl | ⟨nonce, now, -, rfl⟩⟩ | ⟨draw, v, rfl, heff, -⟩
  · exact .inl hp
  · exact .inl hp
  · cases call with
    | setRegistrationChallenge clientId challenge version expiresAt =>
      simp only [State.effect, State.setRegistrationChallenge] at heff
      split at heff
      · cases heff
      · cases heff
        rcases Table.mem_upsert.mp hp with ⟨hp, -⟩ | rfl
        · exact .inl hp
        · exact .inr rfl
    | takeRegistrationChallenge clientId challenge now =>
      simp only [State.effect, State.takeRegistrationChallenge] at heff
      split at heff
      · cases heff
        exact .inl (Table.mem_deleteWhere.mp hp).1
      · cases heff
        exact .inl hp
    | _ =>
      rw [(effect_frame heff).registrationChallenges rfl] at hp
      exact .inl hp

/-- A taken challenge was pending and unexpired, and its client has none pending after it. -/
theorem exec_take {s s' : State} {choice : Choice} {clientId challenge version : String} {now : ℤ}
    (h : s.exec cfg choice (.takeRegistrationChallenge clientId challenge now) =
      some (some (some version), s')) :
    (∃ expiresAt, (⟨clientId, challenge, version, expiresAt⟩ : RegistrationChallenge) ∈
      s.registrationChallenges ∧ now < expiresAt) ∧
    ∀ p ∈ s'.registrationChallenges, p ∈ s.registrationChallenges ∧ p.clientId ≠ clientId := by
  rcases State.exec_cases h with ⟨hnone, -⟩ | ⟨draw, v, hv, heff, -⟩
  · cases hnone
  cases hv
  simp only [State.effect, State.takeRegistrationChallenge] at heff
  split at heff
  · next requested hpending =>
    cases heff
    simp only [State.registrationChallenge, Option.map_eq_some_iff, Option.filter_eq_some_iff] at hpending
    obtain ⟨⟨id, text, requested, expiresAt⟩, ⟨hfind, hmatch⟩, rfl⟩ := hpending
    obtain ⟨hmem, rfl⟩ := Table.find?_eq_some.mp hfind
    simp only [Bool.and_eq_true, decide_eq_true_eq] at hmatch
    obtain ⟨rfl, hlive⟩ := hmatch
    refine ⟨⟨expiresAt, hmem, hlive⟩, fun p hp => ?_⟩
    obtain ⟨hp, hne⟩ := Table.mem_deleteWhere.mp hp
    exact ⟨hp, by simpa using hne⟩
  · cases heff

variable {w : ServiceWorld}

/-- Every pending challenge was stored by a logged call. -/
theorem Reachable.pending_stored (hw : Reachable cfg w) {p : RegistrationChallenge}
    (hp : p ∈ w.state.registrationChallenges) : ∃ x ∈ w.log, stored? x = some p := by
  obtain ⟨clock, canonical, files, hw⟩ := hw
  refine hw.induct (fun w => ∀ p ∈ w.state.registrationChallenges, ∃ x ∈ w.log, stored? x = some p)
    ?_ ?_ p hp
  · exact fun p hp => absurd hp (Table.not_mem_empty p)
  · intro v a _ ih p hp
    rcases service_step_cases cfg v a with h | ⟨pid, request, -, -, h⟩ |
      ⟨pid, choice, request, call, next, r, s, -, -, hx, h⟩ | ⟨move, -, h⟩
    · rw [h] at hp ⊢
      exact ih p hp
    · rw [h] at hp ⊢
      exact ih p hp
    · rw [h] at hp ⊢
      rcases exec_pending hx pid hp with hp | hp
      · obtain ⟨x, hx, hstored⟩ := ih p hp
        exact ⟨x, by simp [hx], hstored⟩
      · exact ⟨_, by simp, hp⟩
    · rw [h] at hp ⊢
      exact ih p (by simpa using hp)

/-- A challenge is stored once: only the handler that drew it stores it, and stores nothing else. -/
theorem Reachable.stored_once (hw : Reachable cfg w) {l l' : List ServiceEntry} {x y : ServiceEntry}
    (hl : w.log = l ++ x :: l') (hy : y ∈ l') {p q : RegistrationChallenge}
    (hp : stored? x = some p) (hq : stored? y = some q) : q.challenge ≠ p.challenge := by
  intro hsame
  refine hw.once_of_draw (fun e => (stored? e).map (·.challenge)) ?_ hl hy (congrArg _ hp)
    ((congrArg _ hq).trans (congrArg some hsame))
  intro l x l' challenge hl hx
  obtain ⟨p, hp, rfl⟩ := Option.map_eq_some_iff.mp hx
  obtain ⟨t, -, hg⟩ := hw.guarded hl
  rw [stored?_eq_some.mp hp] at hg
  obtain ⟨_, _, -, -, hdrawn, -, -, -, -, hfirst⟩ := hg
  refine ⟨drawn_of_answered hdrawn fun _ => rfl, fun y hy hpid => ?_⟩
  cases hq : stored? y with
  | none => rfl
  | some q =>
    have hsets := hfirst _ (mem_historyOf.mpr ⟨y, hy, hpid, rfl⟩)
    rw [stored?_eq_some.mp hq] at hsets
    exact Bool.noConfusion hsets

theorem Reachable.stored_unique (hw : Reachable cfg w) {x y : ServiceEntry} (hx : x ∈ w.log)
    (hy : y ∈ w.log) {p q : RegistrationChallenge} (hp : stored? x = some p)
    (hq : stored? y = some q) (hsame : p.challenge = q.challenge) : x = y := by
  refine eq_of_once (fun e => (stored? e).map (·.challenge)) (fun l x l' hl y hy c hx hy' => ?_) hx hy
    (congrArg _ hp) ((congrArg _ hq).trans (congrArg some hsame.symm))
  obtain ⟨p, hp, rfl⟩ := Option.map_eq_some_iff.mp hx
  obtain ⟨q, hq, hsame⟩ := Option.map_eq_some_iff.mp hy'
  exact hw.stored_once hl hy hp hq hsame

/-- A challenge is taken once. -/
theorem Reachable.taken_once (hw : Reachable cfg w) {l l' : List ServiceEntry} {k k' : ServiceEntry}
    (hl : w.log = l ++ k :: l') (hk' : k' ∈ l') {challenge : String}
    (ht : took? k = some challenge) : took? k' ≠ some challenge := by
  intro ht'
  obtain ⟨l₁, l₂, rfl⟩ := List.append_of_mem hk'
  obtain ⟨u, request, next, choice, s', hu, hr, hulog, hus, -, hx⟩ := hw.point hl
  obtain ⟨u', request', next', choice', s'', hu', hr', hulog', hus', -, hx'⟩ :=
    hw.point (show w.log = (l ++ k :: l₁) ++ k' :: l₂ by simp [hl])
  obtain ⟨clientId, now, version, hk⟩ := took?_eq_some.mp ht
  obtain ⟨clientId', now', version', hk'⟩ := took?_eq_some.mp ht'
  rw [hk] at hx
  rw [hk'] at hx'
  obtain ⟨⟨expiresAt, hmem, -⟩, -⟩ := exec_take hx
  obtain ⟨⟨expiresAt', hmem', -⟩, -⟩ := exec_take hx'
  -- Both rows were stored by the same call, so before the first taking and for its client.
  obtain ⟨x, hxl, hstored⟩ := hu.pending_stored (hus ▸ hmem)
  obtain ⟨x', hxl', hstored'⟩ := hu'.pending_stored (hus' ▸ hmem')
  rw [hulog] at hxl
  obtain rfl : x = x' := hu'.stored_unique (by rw [hulog']; simp [hxl]) hxl' hstored hstored' rfl
  cases hstored.symm.trans hstored'
  have hlater : ∀ y ∈ l₁, ∀ q, stored? y = some q → q.challenge ≠ challenge := by
    intro y hy q hq
    obtain ⟨a, b, rfl⟩ := List.append_of_mem hxl
    exact hu'.stored_once (show u'.log = a ++ x :: (b ++ k :: l₁) by simp [hulog']) (by simp [hy])
      hstored hq
  -- So after the taking no row of that client carries the challenge.
  have hgone := hu'.holds_since
    (fun s => ∀ p ∈ s.registrationChallenges, p.clientId = clientId → p.challenge ≠ challenge)
    (fun y => ∀ q, stored? y = some q → q.challenge ≠ challenge) hulog' hlater ?_ ?_ ?_
  · exact hgone _ (hus' ▸ hmem') rfl rfl
  · intro choice s' hx p hp hid
    rw [hk] at hx
    exact absurd hid ((exec_take hx).2 p hp).2
  · intro v pid request call next choice r s' _ _ hx hB hJ p hp hid
    rcases exec_pending hx pid hp with hp | hp
    · exact hJ p hp hid
    · exact hB p hp
  · intro move s hJ p hp
    rw [State.move_registrationChallenges] at hp
    exact hJ p hp

/-- The row keeps the key that the client has registered with. -/
def ClientRecord.SameKey (row row' : ClientRecord) : Prop :=
  row'.devicePublicKey = row.devicePublicKey ∧ row'.clientKeyAlgorithm = row.clientKeyAlgorithm

/-- The key and the version stay, or the call updates the registration of the client. -/
def RegistrationStep (call : Call) (row row' : ClientRecord) : Prop :=
  (row.SameKey row' ∧ row'.clientVersion = row.clientVersion) ∨
    call = .updateClientRegistration row.clientId row'.devicePublicKey row'.clientKeyAlgorithm
      row'.clientVersion

theorem RegistrationStep.refl (call : Call) (row : ClientRecord) : RegistrationStep call row row :=
  .inl ⟨⟨rfl, rfl⟩, rfl⟩

theorem effect_registration {s s' : State} {draw : Draw} {call : Call} {v : call.Val}
    (h : s.effect cfg draw call = some (v, s')) {clientId : String} {row : ClientRecord}
    (hrow : s.client clientId = some row) :
    ∃ row', s'.client clientId = some row' ∧ RegistrationStep call row row' := by
  cases call with
  | createPendingClient newId accountId deviceId key algorithm version =>
    simp only [State.effect, State.createPendingClient, Option.map_map, Option.map_eq_some_iff] at h
    obtain ⟨t, ht, hs'⟩ := h
    cases hs'
    refine ⟨row, ?_, .refl _ row⟩
    have hne : newId ≠ clientId := by
      rintro rfl
      exact absurd ((Table.insert?_eq_some ht).1.symm.trans hrow) (by simp)
    exact (Table.find?_insert ht clientId).trans ((if_neg hne).trans hrow)
  | updateClientRegistration target key algorithm version =>
    cases h
    refine Table.find?_updateWhere_rel hrow (.refl _ row) rfl (fun _ => rfl) fun hp => .inr ?_
    simp only [Bool.and_eq_true, decide_eq_true_eq] at hp
    rw [hp.1]
  | approveClient target =>
    cases h
    exact Table.find?_updateWhere_rel hrow (.refl _ row) rfl (fun _ => rfl) fun _ =>
      .inl ⟨⟨rfl, rfl⟩, rfl⟩
  | approveClientForAccount target accountId =>
    cases h
    exact Table.find?_updateWhere_rel hrow (.refl _ row) rfl (fun _ => rfl) fun _ =>
      .inl ⟨⟨rfl, rfl⟩, rfl⟩
  | revokeClientRow target =>
    cases h
    exact Table.find?_updateWhere_rel hrow (.refl _ row) rfl (fun _ => rfl) fun _ =>
      .inl ⟨⟨rfl, rfl⟩, rfl⟩
  | _ =>
    refine ⟨row, ?_, .refl _ row⟩
    rw [State.client, (effect_frame h).clients rfl]
    exact hrow

/-- A failing call changes no client and no session. -/
theorem exec_none {s s' : State} {choice : Choice} {call : Call}
    (h : s.exec cfg choice call = some (none, s')) :
    s'.clients = s.clients ∧ s'.sessions = s.sessions ∧
      s'.registrationChallenges = s.registrationChallenges := by
  rcases State.exec_cases h with ⟨-, rfl | ⟨nonce, now, -, rfl⟩⟩ | ⟨draw, v, hv, -⟩
  · exact ⟨rfl, rfl, rfl⟩
  · exact ⟨rfl, rfl, rfl⟩
  · cases hv

theorem exec_registration {s s' : State} {choice : Choice} {call : Call} {r : Option call.Val}
    (h : s.exec cfg choice call = some (r, s')) {clientId : String} {row : ClientRecord}
    (hrow : s.client clientId = some row) :
    ∃ row', s'.client clientId = some row' ∧ RegistrationStep call row row' := by
  rcases State.exec_cases h with ⟨-, rfl | ⟨nonce, now, -, rfl⟩⟩ | ⟨draw, v, -, heff, -⟩
  · exact ⟨row, hrow, .refl _ row⟩
  · exact ⟨row, hrow, .refl _ row⟩
  · exact effect_registration heff hrow

/-- The key of a client never changes: an update writes back the key that its handler has read. -/
theorem Reachable.key_read (hw : Reachable cfg w) {pid : ℕ} {clientId : String} {row : ClientRecord}
    (hread : Answered (w.history pid) (.client clientId) (some row)) :
    ∃ row', w.state.client clientId = some row' ∧ row.SameKey row' := by
  obtain ⟨clock, canonical, files, hw⟩ := hw
  refine hw.induct (fun w => ∀ pid clientId row, Answered (w.history pid) (.client clientId) (some row) →
    ∃ row', w.state.client clientId = some row' ∧ row.SameKey row') ?_ ?_ pid clientId row hread
  · exact fun pid clientId row hread => absurd hread List.not_mem_nil
  intro v a hv ih
  have hreach : Reachable cfg v := ⟨clock, canonical, files, hv⟩
  rcases service_step_cases cfg v a with h | ⟨q, request, -, -, h⟩ |
    ⟨q, choice, request, call, next, r, s, -, ht, hx, h⟩ | ⟨move, -, h⟩
  · rw [h]
    exact ih
  · rw [h]
    exact ih
  · rw [h]
    intro pid clientId row hread
    -- The row was read before this call, or by it.
    have hrow : ∃ row', v.state.client clientId = some row' ∧ row.SameKey row' := by
      obtain ⟨s₀, he⟩ := answered_iff.mp hread
      rw [World.afterCall_log, List.mem_append, List.mem_singleton] at he
      rcases he with he | he
      · exact ih pid clientId row (answered_iff.mpr ⟨s₀, he⟩)
      · cases he
        rcases State.exec_cases hx with ⟨hnone, -⟩ | ⟨draw, val, hval, heff, -⟩
        · cases hnone
        · cases hval
          exact ⟨row, congrArg Prod.fst (Option.some.inj heff), rfl, rfl⟩
    obtain ⟨row', hrow', hsame⟩ := hrow
    obtain ⟨row'', hrow'', ⟨hkey, -⟩ | rfl⟩ := exec_registration hx hrow'
    · exact ⟨row'', hrow'', hkey.1.trans hsame.1, hkey.2.trans hsame.2⟩
    · obtain ⟨req, t, client, requested, -, hchecked, hid, hkey, halg, -⟩ := (hreach.meets ht).1
      obtain ⟨current, hcurrent, hcsame⟩ := ih q req.clientId client hchecked.read
      have hreq : req.clientId = clientId := by
        rw [← hreach.client_id hchecked.read, ← hid, Table.find?_key hrow']
      rw [hreq] at hcurrent
      obtain rfl := Option.some.inj (hrow'.symm.trans hcurrent)
      exact ⟨row'', hrow'', hkey.trans (hcsame.1.symm.trans hsame.1),
        halg.trans (hcsame.2.symm.trans hsame.2)⟩
  · rw [h]
    simp only [State.client, State.move_clients]
    exact ih

/-- The handler of `e` updates the registration of its client: after the calls `l` it has
taken the challenge that was pending for the client, unexpired at its reading and stored by a
registration with the version it writes, and its signature of that challenge verifies under
the key of the client's row. -/
structure ProvenUpdate (cfg : Config) (w : ServiceWorld) (l : List ServiceEntry) (e : ServiceEntry)
    (request : CompleteRegistrationRequest) (row : ClientRecord) (pending : RegistrationChallenge)
    (t : Reading) : Prop where
  serves : w.request? e.pid = some (.completeRegistration request)
  update : e.op = .updateClientRegistration request.clientId row.devicePublicKey
    row.clientKeyAlgorithm pending.requestedClientVersion
  stored_row : e.before.client request.clientId = some row
  signature : cfg.crypto.verifyClientSignature row.clientKeyAlgorithm row.devicePublicKey
    (.registration ⟨request.clientId, request.challenge⟩) request.signature = true
  named : pending.clientId = request.clientId ∧ pending.challenge = request.challenge
  taken : ∃ l₁ k l₂, l = l₁ ++ k :: l₂ ∧ k.pid = e.pid ∧ took? k = some request.challenge ∧
    pending ∈ k.before.registrationChallenges ∧ Answered (historyOf e.pid l₁) .now t
  unexpired : t.val < pending.expiresAt
  issued : ∃ x ∈ l, stored? x = some pending ∧ ∃ r : RegisterRequest,
    w.request? x.pid = some (.register r) ∧ r.clientVersion = pending.requestedClientVersion

/-- What a stored challenge says about the handler that has stored it. -/
theorem Reachable.stored_by (hw : Reachable cfg w) {x : ServiceEntry} (hx : x ∈ w.log)
    {p : RegistrationChallenge} (hp : stored? x = some p) :
    ∃ r : RegisterRequest, w.request? x.pid = some (.register r) ∧
      r.clientVersion = p.requestedClientVersion ∧ isBlank r.clientVersion = false := by
  obtain ⟨l, l', hl⟩ := List.append_of_mem hx
  obtain ⟨t, ht, hguard⟩ := hw.guarded hl
  rw [stored?_eq_some.mp hp] at hguard
  obtain ⟨r, _, hreq, -, -, hversion, hblank, -⟩ := hguard
  exact ⟨r, (World.request?_eq ht).trans (congrArg some hreq), hversion.symm, hblank⟩

/-- What a taken challenge says: the row that was pending, and the reading it was live at. -/
theorem Reachable.taken_row (hw : Reachable cfg w) {l l' : List ServiceEntry} {k : ServiceEntry}
    (hl : w.log = l ++ k :: l') {clientId challenge version : String} {now : ℤ}
    (hk : k = ⟨k.pid, k.before, .takeRegistrationChallenge clientId challenge now,
      some (some version)⟩) :
    ∃ expiresAt, (⟨clientId, challenge, version, expiresAt⟩ : RegistrationChallenge) ∈
        k.before.registrationChallenges ∧ now < expiresAt ∧
      ∃ x ∈ l, stored? x = some ⟨clientId, challenge, version, expiresAt⟩ := by
  obtain ⟨u, request, next, choice, s', hu, -, hulog, hus, -, hx⟩ := hw.point hl
  rw [hk] at hx
  obtain ⟨⟨expiresAt, hmem, hlive⟩, -⟩ := exec_take hx
  obtain ⟨x, hxl, hstored⟩ := hu.pending_stored (hus ▸ hmem)
  exact ⟨expiresAt, hmem, hlive, x, hulog ▸ hxl, hstored⟩

theorem Reachable.update_proven (hw : Reachable cfg w) {l l' : List ServiceEntry} {e : ServiceEntry}
    (hl : w.log = l ++ e :: l') {clientId key version : String} {algorithm : ClientKeyAlgorithm}
    (hop : e.op = .updateClientRegistration clientId key algorithm version) :
    ∃ request row pending t, request.clientId = clientId ∧
      ProvenUpdate cfg w l e request row pending t := by
  obtain ⟨u, ureq, next, choice, s', hu, -, hulog, hus, -, -⟩ := hw.point hl
  obtain ⟨thread, hthread, hguard⟩ := hw.guarded hl
  rw [hop] at hguard
  obtain ⟨request, t, client, requested, hserves, hchecked, hid, rfl, rfl, htaken, hversion, -⟩ := hguard
  have hhist : historyOf e.pid l = u.history e.pid := by rw [World.history, hulog]
  have hread := hchecked.read
  rw [hhist] at hread
  have hclient : client.clientId = request.clientId := hu.client_id hread
  obtain ⟨row, hrow, hkey, halg⟩ := hu.key_read hread
  -- The taking of the challenge, and the registration that stored it.
  obtain ⟨k, hkl, hkpid, hkentry⟩ := mem_historyOf.mp htaken
  obtain ⟨l₁, l₂, rfl⟩ := List.append_of_mem hkl
  have hk : k = ⟨k.pid, k.before, .takeRegistrationChallenge request.clientId request.challenge t.val,
      some (some requested)⟩ := by
    obtain ⟨pid, s, op, res⟩ := k
    cases hkentry
    rfl
  have hlk : w.log = l₁ ++ k :: (l₂ ++ e :: l') := by simp [hl]
  obtain ⟨expiresAt, hmem, hlive, x, hxl, hstored⟩ := hw.taken_row hlk hk
  obtain ⟨r, hr, hrversion, hblank⟩ := hw.stored_by (by simp [hl, hxl]) hstored
  obtain ⟨tk, -, hkguard⟩ := hw.guarded hlk
  rw [hk] at hkguard
  obtain ⟨_, t', _, -, -, -, hnow, hkchecked⟩ := hkguard
  have hnonblank : ¬ isBlank requested = true := by
    rw [← show r.clientVersion = requested from hrversion, hblank]
    exact Bool.noConfusion
  refine ⟨request, row, ⟨request.clientId, request.challenge, requested, expiresAt⟩, t',
    hclient.symm.trans hid.symm, ?_⟩
  exact {
    serves := (World.request?_eq hthread).trans (congrArg some hserves)
    update := by
      rw [hop, hversion, if_neg hnonblank, hid, hclient, hkey, halg]
    stored_row := hus ▸ hrow
    signature := by
      rw [hkey, halg]
      exact hchecked.signature
    named := ⟨rfl, rfl⟩
    taken := ⟨l₁, k, l₂, rfl, hkpid, took?_eq_some.mpr ⟨_, _, _, hk⟩, hmem, hkpid ▸ hkchecked.reading⟩
    unexpired := hnow ▸ hlive
    issued := ⟨x, by simp [hxl], hstored, r, hr, hrversion⟩ }

/-- A handler that updates a registration has taken its challenge. -/
theorem Reachable.update_took (hw : Reachable cfg w) {l l' : List ServiceEntry} {e : ServiceEntry}
    (hl : w.log = l ++ e :: l') (hup : e.op.updatesRegistration = true)
    {request : CompleteRegistrationRequest}
    (hs : w.request? e.pid = some (.completeRegistration request)) :
    ∃ k ∈ w.log, k.pid = e.pid ∧ took? k = some request.challenge := by
  obtain ⟨pid, s, op, res⟩ := e
  cases op with
  | updateClientRegistration clientId key algorithm version =>
    obtain ⟨request', row, pending, t, -, h⟩ := hw.update_proven hl rfl
    cases hs.symm.trans h.serves
    obtain ⟨a, k, b, rfl, hpid, htook, -⟩ := h.taken
    exact ⟨k, by simp [hl], hpid, htook⟩
  | _ => cases hup

/-- A challenge updates a registration once. -/
theorem Reachable.updated_once (hw : Reachable cfg w) {l l' : List ServiceEntry}
    {e e' : ServiceEntry} (hl : w.log = l ++ e :: l') (he' : e' ∈ l')
    {request request' : CompleteRegistrationRequest}
    (hup : e.op.updatesRegistration = true) (hup' : e'.op.updatesRegistration = true)
    (hs : w.request? e.pid = some (.completeRegistration request))
    (hs' : w.request? e'.pid = some (.completeRegistration request')) :
    request.challenge ≠ request'.challenge := by
  intro hsame
  obtain ⟨l₁, l₂, rfl⟩ := List.append_of_mem he'
  have hl' : w.log = (l ++ e :: l₁) ++ e' :: l₂ := by simp [hl]
  obtain ⟨k, hk, hkpid, hktook⟩ := hw.update_took hl hup hs
  obtain ⟨k', hk', hkpid', hktook'⟩ := hw.update_took hl' hup' hs'
  obtain rfl : k = k' := eq_of_once took?
    (fun l k l' hl k' hk' c hc => hw.taken_once hl hk' hc) hk hk' hktook (hsame ▸ hktook')
  -- The handler of both has updated before, which its own specification excludes.
  obtain ⟨t, -, hguard⟩ := hw.guarded hl'
  have hmem : e.entry ∈ historyOf e'.pid (l ++ e :: l₁) :=
    mem_historyOf.mpr ⟨e, by simp, hkpid.symm.trans hkpid', rfl⟩
  obtain ⟨pid', s', op', res'⟩ := e'
  cases op' with
  | updateClientRegistration clientId key algorithm version =>
    obtain ⟨-, -, -, -, -, -, -, -, -, -, -, hfirst⟩ := hguard
    exact absurd hup (Bool.eq_false_iff.mp (hfirst _ hmem))
  | _ => cases hup'

/-- The call of `e` changes the version of the client, or is made for a registration and
revokes a session of the client. -/
def Rewrites (cfg : Config) (w : ServiceWorld) (e : ServiceEntry) (clientId : String) : Prop :=
  ∃ choice s', e.before.exec cfg choice e.op = some (e.res, s') ∧
    ((∃ row row', e.before.client clientId = some row ∧ s'.client clientId = some row' ∧
      row'.clientVersion ≠ row.clientVersion) ∨
    ((w.request? e.pid).any Request.registers = true ∧ ∃ sessionId row row',
      e.before.session sessionId = some row ∧ s'.session sessionId = some row' ∧
      row.clientId = clientId ∧ row.revoked = false ∧ row'.revoked = true))

/-- A registration revokes a session only by updating the registration of its client. -/
theorem exec_revokes {s s' : State} {choice : Choice} {call : Call} {r : Option call.Val}
    (h : s.exec cfg choice call = some (r, s')) {request : Request} {history : History}
    (hguard : Guard cfg request history call) (hreg : request.registers = true) {sessionId : String}
    {row row' : SessionRecord} (hrow : s.session sessionId = some row)
    (hrow' : s'.session sessionId = some row') (hlive : row.revoked = false)
    (hrevoked : row'.revoked = true) :
    ∃ key algorithm version, call = .updateClientRegistration row.clientId key algorithm version := by
  have hdiffer : s'.sessions ≠ s.sessions := by
    intro hsame
    rw [State.session, hsame] at hrow'
    obtain rfl := Option.some.inj (hrow.symm.trans hrow')
    exact absurd hrevoked (by simp [hlive])
  rcases State.exec_cases h with ⟨-, rfl | ⟨nonce, now, -, rfl⟩⟩ | ⟨draw, v, -, heff, -⟩
  · exact absurd rfl hdiffer
  · exact absurd rfl hdiffer
  cases call with
  | updateClientRegistration clientId key algorithm version =>
    cases heff
    by_cases hp : (row.clientId = clientId && !row.revoked) = true
    · simp only [Bool.and_eq_true, decide_eq_true_eq] at hp
      exact ⟨key, algorithm, version, by rw [hp.1]⟩
    · have hfind := Table.find?_updateWhere s.sessions
        (fun r => r.clientId = clientId && !r.revoked) (fun r => { r with revoked := true })
        (fun _ => rfl) sessionId
      rw [show s.sessions.find? sessionId = some row from hrow, Option.map_some, if_neg hp] at hfind
      obtain rfl := Option.some.inj (hrow'.symm.trans hfind)
      exact absurd hrevoked (by simp [hlive])
  | createSession sessionId client capabilities jti exp =>
    obtain ⟨_, _, rfl, -⟩ := hguard
    cases hreg
  | revokeActiveSessionsForClient clientId now =>
    obtain ⟨_, _, _, rfl, -⟩ := hguard
    cases hreg
  | refreshSession sessionId capabilities jti exp =>
    obtain ⟨_, _, _, rfl, -⟩ := hguard
    cases hreg
  | revokeSession sessionId => exact absurd (hreg.symm.trans hguard) Bool.noConfusion
  | revokeClientSessions clientId =>
    obtain ⟨_, rfl⟩ := hguard
    cases hreg
  | _ => exact absurd ((effect_frame heff).sessions rfl) hdiffer

theorem Reachable.rewrite_proven (hw : Reachable cfg w) {l l' : List ServiceEntry}
    {e : ServiceEntry} (hl : w.log = l ++ e :: l') {clientId : String}
    (h : Rewrites cfg w e clientId) :
    ∃ request row pending t, request.clientId = clientId ∧
      ProvenUpdate cfg w l e request row pending t := by
  obtain ⟨choice, s', hx, ⟨row, row', hrow, hrow', hne⟩ | ⟨hreg, sessionId, row, row', hrow, hrow',
    rfl, hlive, hrevoked⟩⟩ := h
  · obtain ⟨x, hx', ⟨-, hversion⟩ | hop⟩ := exec_registration hx hrow
    · obtain rfl := Option.some.inj (hrow'.symm.trans hx')
      exact absurd hversion hne
    · rw [Table.find?_key hrow] at hop
      exact hw.update_proven hl hop
  · obtain ⟨t, ht, hguard⟩ := hw.guarded hl
    rw [World.request?_eq ht] at hreg
    obtain ⟨key, algorithm, version, hop⟩ := exec_revokes hx hguard hreg hrow hrow' hlive hrevoked
    exact hw.update_proven hl hop

/-- What a completion that fails has done: no update, and a challenge is taken only when
the store then fails. -/
structure FailsCleanly (h : History) (error : Failure) : Prop where
  updates : ∀ clientId key algorithm version changed,
    ¬ Answered h (.updateClientRegistration clientId key algorithm version) changed
  takes : ∀ clientId challenge now version,
    Answered h (.takeRegistrationChallenge clientId challenge now) (some version) →
      error = .api .internal

def CompletionOutcome : Request → History → Except Failure Response → Prop
  | .completeRegistration _, h, .error error => FailsCleanly h error
  | _, _, _ => True

theorem completeRegistration_fails (cfg : Config) (request : CompleteRegistrationRequest) :
    (handler cfg (.completeRegistration request)).Meets (fun _ _ => True)
      (CompletionOutcome (.completeRegistration request)) [] := by
  simp only [handler, completeRegistration, bind_assoc]
  refine (meets_perform_bind _ _ _).mpr ⟨trivial, ⟨by simp [Answered], by simp [Answered]⟩,
    fun row => ?_⟩
  refine (meets_orReject_bind _ _ _).mpr ⟨fun _ => ⟨by simp [Answered], by simp [Answered]⟩,
    fun client _ => ?_⟩
  refine (meets_perform_bind _ _ _).mpr ⟨trivial, ⟨by simp [Answered], by simp [Answered]⟩,
    fun now => ?_⟩
  refine (meets_perform_bind _ _ _).mpr ⟨trivial, ⟨by simp [Answered], by simp [Answered]⟩,
    fun pending => ?_⟩
  refine (meets_rejectIf_bind _ _ _).mpr ⟨fun _ => ⟨by simp [Answered], by simp [Answered]⟩,
    fun _ => ?_⟩
  refine (meets_rejectIf_bind _ _ _).mpr ⟨fun _ => ⟨by simp [Answered], by simp [Answered]⟩,
    fun _ => ?_⟩
  refine (meets_perform_bind _ _ _).mpr ⟨trivial, ⟨by simp [Answered], by simp [Answered]⟩,
    fun taken => ?_⟩
  refine (meets_orReject_bind _ _ _).mpr
    ⟨fun hnone => ⟨by simp [Answered], by simp [Answered, hnone]⟩, fun requested _ => ?_⟩
  -- From here on only the store can fail.
  exact (meets_perform_bind _ _ _).mpr
    ⟨trivial, ⟨by simp [Answered], fun _ _ _ _ _ => rfl⟩, fun _ => trivial⟩

theorem Reachable.failed (hw : Reachable cfg w) {pid : ℕ} {request : CompleteRegistrationRequest}
    {error : Failure} (h : w.Failed pid (.completeRegistration request) error) :
    FailsCleanly (w.history pid) error := by
  obtain ⟨clock, canonical, files, hw⟩ := hw
  have hspec : ∀ request, (handler cfg request).Meets (fun _ _ => True)
      (CompletionOutcome request) [] := by
    intro request
    cases request with
    | completeRegistration request => exact completeRegistration_fails cfg request
    | _ => exact (handler_meets cfg _).mono (fun _ _ _ _ => trivial) (fun _ r _ _ => by cases r <;> trivial)
  exact hw.meets hspec h

/-- A call of a completion leaves everything but the nonces as it was, unless it is the
update or takes the challenge. -/
theorem exec_completion {s s' : State} {choice : Choice} {call : Call} {r : Option call.Val}
    (h : s.exec cfg choice call = some (r, s')) {request : CompleteRegistrationRequest}
    {history : History} (hguard : Guard cfg (.completeRegistration request) history call) (pid : ℕ) :
    (∃ clientId key algorithm version changed,
      (⟨call, r⟩ : Entry Call Result) = ⟨.updateClientRegistration clientId key algorithm version,
        some changed⟩) ∨
    s'.clients = s.clients ∧ s'.sessions = s.sessions ∧
      (s'.registrationChallenges = s.registrationChallenges ∨
        took? ⟨pid, s, call, r⟩ = some request.challenge) := by
  rcases State.exec_cases h with ⟨rfl, -⟩ | ⟨draw, v, rfl, heff, -⟩
  · obtain ⟨hclients, hsessions, hpending⟩ := exec_none h
    exact .inr ⟨hclients, hsessions, .inl hpending⟩
  cases call with
  | updateClientRegistration clientId key algorithm version =>
    exact .inl ⟨clientId, key, algorithm, version, v, rfl⟩
  | takeRegistrationChallenge clientId challenge now =>
    obtain ⟨request', _, _, hreq, -, rfl, -⟩ := hguard
    cases hreq
    refine .inr ⟨(effect_frame heff).clients rfl, (effect_frame heff).sessions rfl, ?_⟩
    cases v with
    | some version => exact .inr rfl
    | none =>
      simp only [State.effect, State.takeRegistrationChallenge] at heff
      split at heff <;> cases heff
      exact .inl rfl
  | createPendingClient =>
    obtain ⟨_, hreq, -⟩ := hguard
    cases hreq
  | setRegistrationChallenge =>
    obtain ⟨_, _, hreq, -⟩ := hguard
    cases hreq
  | createSession =>
    obtain ⟨_, _, hreq, -⟩ := hguard
    cases hreq
  | revokeActiveSessionsForClient =>
    obtain ⟨_, _, _, hreq, -⟩ := hguard
    cases hreq
  | refreshSession =>
    obtain ⟨_, _, _, hreq, -⟩ := hguard
    cases hreq
  | revokeSession => cases hguard
  | approveClient | approveClientForAccount | revokeClientRow | revokeClientSessions =>
    obtain ⟨_, hreq⟩ := hguard
    cases hreq
  | _ => exact .inr ⟨(effect_frame heff).clients rfl, (effect_frame heff).sessions rfl,
      .inl ((effect_frame heff).registrationChallenges rfl)⟩

/-- A completion that fails has changed no client and no session; it has taken its pending
challenge only when the store has failed after that. -/
theorem Reachable.failed_unchanged (hw : Reachable cfg w) {pid : ℕ}
    {request : CompleteRegistrationRequest} {error : Failure}
    (h : w.Failed pid (.completeRegistration request) error) {e : ServiceEntry} (he : e ∈ w.log)
    (hpid : e.pid = pid) {choice : Choice} {s' : State}
    (hx : e.before.exec cfg choice e.op = some (e.res, s')) :
    s'.clients = e.before.clients ∧ s'.sessions = e.before.sessions ∧
      (s'.registrationChallenges = e.before.registrationChallenges ∨
        took? e = some request.challenge ∧ error = .api .internal) := by
  subst hpid
  obtain ⟨l, l', hl⟩ := List.append_of_mem he
  obtain ⟨t, ht, hguard⟩ := hw.guarded hl
  obtain rfl := Option.some.inj (ht.symm.trans h)
  have hclean := hw.failed h
  have hentry : e.entry ∈ w.history e.pid := mem_historyOf.mpr ⟨e, he, rfl, rfl⟩
  rcases exec_completion hx hguard e.pid with
    ⟨clientId, key, algorithm, version, changed, hupdate⟩ | ⟨hclients, hsessions, hsame | htook⟩
  · rw [LogEntry.entry, hupdate] at hentry
    exact absurd hentry (hclean.updates clientId key algorithm version changed)
  · exact ⟨hclients, hsessions, .inl hsame⟩
  · have htook : took? e = some request.challenge := htook
    obtain ⟨clientId, now, version, hk⟩ := took?_eq_some.mp htook
    rw [hk] at hentry
    exact ⟨hclients, hsessions, .inr ⟨htook, hclean.takes clientId _ now version hentry⟩⟩

/-- The version of a client changes, and a registration revokes its sessions, only in an update
that rests on a proof over the challenge it has taken; a challenge is taken and updates at most
once; a completion that fails changes nothing, unless the store fails after the taking. -/
theorem registration_is_proven (hw : Reachable cfg w) :
    (∀ l e l' clientId, w.log = l ++ e :: l' → Rewrites cfg w e clientId →
      ∃ request row pending t, request.clientId = clientId ∧
        ProvenUpdate cfg w l e request row pending t) ∧
    (∀ l k l' challenge, w.log = l ++ k :: l' → took? k = some challenge →
      ∀ k' ∈ l', took? k' ≠ some challenge) ∧
    (∀ l (e : ServiceEntry) l' request request', w.log = l ++ e :: l' →
      e.op.updatesRegistration = true → w.request? e.pid = some (.completeRegistration request) →
      ∀ e' ∈ l', e'.op.updatesRegistration = true →
        w.request? e'.pid = some (.completeRegistration request') →
        request.challenge ≠ request'.challenge) ∧
    ∀ pid request error, w.Failed pid (.completeRegistration request) error →
      ∀ e ∈ w.log, e.pid = pid → ∀ choice s', e.before.exec cfg choice e.op = some (e.res, s') →
        s'.clients = e.before.clients ∧ s'.sessions = e.before.sessions ∧
          (s'.registrationChallenges = e.before.registrationChallenges ∨
            took? e = some request.challenge ∧ error = .api .internal) := by
  refine ⟨?_, ?_, ?_, ?_⟩
  · intro l e l' clientId hl h
    exact hw.rewrite_proven hl h
  · intro l k l' challenge hl hk k' hk'
    exact hw.taken_once hl hk' hk
  · intro l e l' request request' hl hup hs e' he' hup' hs'
    exact hw.updated_once hl he' hup hup' hs hs'
  · intro pid request error hfailed e he hpid choice s' hx
    exact hw.failed_unchanged hfailed he hpid hx

/-- A registered client asks for a new version. -/
def upgradeRun : List ServiceAction :=
  sampleEnroll 0 "client" "device" ++
    serve 2 (.register ⟨"install", "device", "2", "windows", sampleKey, .ed25519DpapiV1, "rdc"⟩)
      ["", "", "second", ""]

/-- Its completion stalls after it has found the challenge pending, and takes it after its expiry. -/
def stalledCompletion : List ServiceAction :=
  serve 3 (.completeRegistration ⟨"client", "second", "signature"⟩) ["", "", ""] ++
    [.env (.tick ⟨2000, by decide⟩), .exec 3 (.run { text := "" })]

/-- The store fails in its update. -/
def faultyCompletion : List ServiceAction :=
  serve 3 (.completeRegistration ⟨"client", "second", "signature"⟩) ["", "", "", ""] ++
    [.exec 3 (.fault false)]

/-- The update that follows changes the version when no challenge is pending and every stored one
has expired; the completion whose update fails has lost its pending challenge. -/
theorem completion_is_not_one_step :
    let w := (service sampleConfig).run sampleStart upgradeRun
    let taken := (service sampleConfig).run w stalledCompletion
    let updated := (service sampleConfig).step taken (.exec 3 (.run { text := "" }))
    let failed := (service sampleConfig).run w faultyCompletion
    ((taken.state.client "client").map (·.clientVersion) = some "1" ∧
      (updated.state.client "client").map (·.clientVersion) = some "2" ∧
      taken.state.registrationChallenges.rows = [] ∧
      ∀ e ∈ taken.log, ∀ p ∈ stored? e, p.expiresAt < taken.state.clock.val) ∧
    (failed.Failed 3 (.completeRegistration ⟨"client", "second", "signature"⟩) (.api .internal) ∧
      w.state.registrationChallenges.rows ≠ [] ∧ failed.state.registrationChallenges.rows = []) := by
  refine ⟨by decide +kernel, World.failed_iff.mpr (by decide +kernel), by decide +kernel⟩

/-- The store has failed in the update: no call of that handler has touched the client. -/
theorem registration_is_proven_faulty :
    let w := (service sampleConfig).run sampleStart (upgradeRun ++ faultyCompletion)
    w.error? 3 = some (.api .internal) ∧ ∀ e ∈ w.log, e.pid = 3 → ∀ choice s',
      e.before.exec sampleConfig choice e.op = some (e.res, s') → s'.clients = e.before.clients := by
  refine ⟨by decide +kernel, fun e he hpid choice s' hx => ?_⟩
  exact ((registration_is_proven (reachable_run sampleConfig _ _ _
    (upgradeRun ++ faultyCompletion))).2.2.2 3 ⟨"client", "second", "signature"⟩ (.api .internal)
    (World.failed_iff.mpr (by decide +kernel)) e he hpid choice s' hx).1

end JustRun.Authorization
