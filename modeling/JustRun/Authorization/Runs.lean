import JustRun.Authorization.Effects

/-!
# Runs of the service

What a logged call and a finished handler say about the states of a run.
-/
namespace JustRun.Authorization
open Machine Relational Concurrency

abbrev ServiceEntry := LogEntry State Call Result

variable {cfg : Config} {w w' : ServiceWorld}

theorem Reachable.trans (hw : Reachable cfg w) (h : (service cfg).Reaches w w') :
    Reachable cfg w' := by
  obtain ⟨clock, canonical, files, hw⟩ := hw
  exact ⟨clock, canonical, files, hw.trans _ h⟩

theorem reachable_run (cfg : Config) (clock : Reading) (canonical : String → Option Path)
    (files : Path → Option (List UInt8)) (acts : List ServiceAction) :
    Reachable cfg ((service cfg).run (start clock canonical files) acts) :=
  ⟨clock, canonical, files, .run _ _ acts⟩

theorem answered_iff {pid : ℕ} {call : Call} {v : call.Val} :
    Answered (w.history pid) call v ↔ ∃ s, (⟨pid, s, call, some v⟩ : ServiceEntry) ∈ w.log := by
  simp only [Answered, World.history, mem_historyOf]
  constructor
  · rintro ⟨⟨pid, s, op, r⟩, he, rfl, heq⟩
    simp only [LogEntry.entry, Sigma.mk.injEq] at heq
    obtain ⟨rfl, hr⟩ := heq
    obtain rfl := eq_of_heq hr
    exact ⟨s, he⟩
  · rintro ⟨s, he⟩
    exact ⟨_, he, rfl, rfl⟩

/-- A handler in flight meets the rest of its specification. -/
theorem Reachable.meets (hw : Reachable cfg w) {pid : ℕ} {t : Thread Request Call Result Failure Response}
    (ht : w.threads pid = some t) :
    t.rest.Meets (Guard cfg t.request) (Outcome cfg t.request) (w.history pid) := by
  obtain ⟨_, _, _, hw⟩ := hw
  exact hw.meets (handler_meets cfg) ht

theorem Reachable.issued (hw : Reachable cfg w) {pid : ℕ} {request : Request} {response : Response}
    (h : w.Finished pid request response) : Issued cfg (w.history pid) request response :=
  hw.meets h

theorem Reachable.guarded (hw : Reachable cfg w) {l l' : List ServiceEntry} {e : ServiceEntry}
    (hl : w.log = l ++ e :: l') :
    ∃ t, w.threads e.pid = some t ∧ Guard cfg t.request (historyOf e.pid l) e.op := by
  obtain ⟨_, _, _, hw⟩ := hw
  exact hw.logged (handler_meets cfg) hl

/-- A logged call marks the world it was made in. -/
theorem Reachable.point (hw : Reachable cfg w) {l l' : List ServiceEntry} {e : ServiceEntry}
    (hl : w.log = l ++ e :: l') :
    ∃ u request next choice s', Reachable cfg u ∧ (service cfg).Reaches u w ∧ u.log = l ∧
      u.state = e.before ∧ u.threads e.pid = some ⟨request, .call e.op next⟩ ∧
      e.before.exec cfg choice e.op = some (e.res, s') := by
  obtain ⟨clock, canonical, files, hw⟩ := hw
  obtain ⟨u, choice, request, next, s', hu, hlog, hs, ht, hx, hr⟩ :=
    hw.point (l := l) hl
  refine ⟨u, request, next, choice, s', ⟨clock, canonical, files, hu⟩, ?_, hlog, hs, ht, hx⟩
  refine (System.Reaches.step _ u (.exec e.pid choice)).trans _ ?_
  have hx' : (service cfg).exec choice e.before e.op = some (e.res, s') := hx
  simpa [System.step, ht, hs, hx'] using hr

/-- What a logged call has brought about lasts while the later calls satisfy `B`. -/
theorem Reachable.holds_since (hw : Reachable cfg w) (J : State → Prop) (B : ServiceEntry → Prop)
    {l l' : List ServiceEntry} {e : ServiceEntry} (hl : w.log = l ++ e :: l')
    (hB : ∀ x ∈ l', B x)
    (hstart : ∀ choice s', e.before.exec cfg choice e.op = some (e.res, s') → J s')
    (hexec : ∀ (v : ServiceWorld) pid request call next choice r s', Reachable cfg v →
      v.threads pid = some ⟨request, .call call next⟩ →
      v.state.exec cfg choice call = some (r, s') → B ⟨pid, v.state, call, r⟩ → J v.state → J s')
    (hmove : ∀ move s, J s → J (State.move s move)) : J w.state := by
  obtain ⟨clock, canonical, files, hw⟩ := hw
  exact hw.holds_since B hl hB hstart
    (fun v pid request call next choice r s' hv => hexec v pid request call next choice r s'
      ⟨clock, canonical, files, hv⟩) hmove

/-- A logged call was executed in the state it names, by a reachable world. -/
theorem Reachable.executed (hw : Reachable cfg w) {e : ServiceEntry} (he : e ∈ w.log) :
    ∃ u choice s', Reachable cfg u ∧ u.state = e.before ∧ (service cfg).Reaches u w ∧
      e.before.exec cfg choice e.op = some (e.res, s') := by
  obtain ⟨l, l', hl⟩ := List.append_of_mem he
  obtain ⟨u, request, next, choice, s', hu, hr, -, hs, -, hx⟩ := hw.point hl
  exact ⟨u, choice, s', hu, hs, hr, hx⟩

/-- The handler of a logged call was started before. -/
theorem Reachable.logged_request (hw : Reachable cfg w) (h : (service cfg).Reaches w w')
    {e : ServiceEntry} (he : e ∈ w.log) : w'.request? e.pid = w.request? e.pid := by
  obtain ⟨l, l', hl⟩ := List.append_of_mem he
  obtain ⟨t, ht, -⟩ := hw.guarded hl
  rw [World.request?_eq ht]
  exact h.request? (World.request?_eq ht)

/-- The answer of a call was computed by its effect on a state of the run. -/
theorem Reachable.answered (hw : Reachable cfg w) {pid : ℕ} {call : Call} {v : call.Val}
    (h : Answered (w.history pid) call v) :
    ∃ u draw s', Reachable cfg u ∧ (service cfg).Reaches u w ∧
      (⟨pid, u.state, call, some v⟩ : ServiceEntry) ∈ w.log ∧
      u.state.effect cfg draw call = some (v, s') := by
  obtain ⟨s, he⟩ := answered_iff.mp h
  obtain ⟨u, choice, s', hu, rfl, hr, hx⟩ := hw.executed he
  rcases State.exec_cases hx with ⟨h, -⟩ | ⟨draw, v', hv, heff, -⟩
  · cases h
  · cases hv
    exact ⟨u, draw, s', hu, hr, he, heff⟩

/-- A handler started after `w` computes with states reached from `w`. -/
theorem Reachable.answered_since (hw : Reachable cfg w) (h : (service cfg).Reaches w w') {pid : ℕ}
    (hp : w.threads pid = none) {call : Call} {v : call.Val}
    (ha : Answered (w'.history pid) call v) :
    ∃ u draw s', (service cfg).Reaches w u ∧ u.state.effect cfg draw call = some (v, s') := by
  obtain ⟨s, he⟩ := answered_iff.mp ha
  obtain ⟨clock, canonical, files, hw⟩ := hw
  obtain ⟨l, l', hl⟩ := hw.entry_since h hp he rfl
  obtain ⟨u, choice, request, next, s', hu, -, rfl, -, hx, -⟩ := h.point hl
  rcases State.exec_cases hx with ⟨h, -⟩ | ⟨draw, v', hv, heff, -⟩
  · cases h
  · cases hv
    exact ⟨u, draw, s', hu, heff⟩

theorem Reaches.clock_le (h : (service cfg).Reaches w w') :
    w.state.clock.val ≤ w'.state.clock.val := by
  refine h.keeps (J := fun s => w.state.clock.val ≤ s.clock.val) le_rfl ?_ ?_
  · intro v pid request op next choice r s' _ _ hx hle
    exact (exec_frame hx).clock ▸ hle
  · intro move s hle
    exact hle.trans (s.clock_le_move move)

/-- A handler's clock reading is a clock value of the run, so never ahead of the clock. -/
theorem Reachable.reading_le (hw : Reachable cfg w) {pid : ℕ} {t : Reading}
    (h : Answered (w.history pid) .now t) : t.val ≤ w.state.clock.val := by
  obtain ⟨u, draw, s', -, hr, -, heff⟩ := hw.answered h
  obtain rfl : u.state.clock = t := congrArg Prod.fst (Option.some.inj heff)
  exact Reaches.clock_le hr

theorem Reachable.client_read (hw : Reachable cfg w) {pid : ℕ} {clientId : String}
    {row : ClientRecord} (h : Answered (w.history pid) (.client clientId) (some row)) :
    ∃ u, Reachable cfg u ∧ (service cfg).Reaches u w ∧
      (⟨pid, u.state, .client clientId, some (some row)⟩ : ServiceEntry) ∈ w.log ∧
      u.state.client clientId = some row := by
  obtain ⟨u, draw, s', hu, hr, he, heff⟩ := hw.answered h
  exact ⟨u, hu, hr, he, congrArg Prod.fst (Option.some.inj heff)⟩

theorem Reachable.session_read (hw : Reachable cfg w) {pid : ℕ} {sessionId : String}
    {row : SessionRecord} (h : Answered (w.history pid) (.session sessionId) (some row)) :
    ∃ u, Reachable cfg u ∧ (service cfg).Reaches u w ∧
      (⟨pid, u.state, .session sessionId, some (some row)⟩ : ServiceEntry) ∈ w.log ∧
      u.state.session sessionId = some row := by
  obtain ⟨u, draw, s', hu, hr, he, heff⟩ := hw.answered h
  exact ⟨u, hu, hr, he, congrArg Prod.fst (Option.some.inj heff)⟩

theorem Reachable.entitlement_read (hw : Reachable cfg w) {pid : ℕ} {accountId : String}
    {capability : ProtectedCapability}
    (h : Answered (w.history pid) (.hasEntitlement accountId capability) true) :
    ∃ u, Reachable cfg u ∧ (service cfg).Reaches u w ∧
      (⟨pid, u.state, .hasEntitlement accountId capability, some true⟩ : ServiceEntry) ∈ w.log ∧
      u.state.hasEntitlement accountId capability = true := by
  obtain ⟨u, draw, s', hu, hr, he, heff⟩ := hw.answered h
  exact ⟨u, hu, hr, he, congrArg Prod.fst (Option.some.inj heff)⟩

/-- The row a handler has read under a client id carries that id. -/
theorem Reachable.client_id (hw : Reachable cfg w) {pid : ℕ} {clientId : String}
    {row : ClientRecord} (h : Answered (w.history pid) (.client clientId) (some row)) :
    row.clientId = clientId := by
  obtain ⟨u, -, -, -, hrow⟩ := hw.client_read h
  exact Table.find?_key hrow

theorem Reachable.session_id (hw : Reachable cfg w) {pid : ℕ} {sessionId : String}
    {row : SessionRecord} (h : Answered (w.history pid) (.session sessionId) (some row)) :
    row.sessionId = sessionId := by
  obtain ⟨u, -, -, -, hrow⟩ := hw.session_read h
  exact Table.find?_key hrow

/-! Random values never repeat over a run. -/
section Draws

/-- The random value that a logged call has drawn. -/
def drawn? : ServiceEntry → Option String
  | ⟨_, _, .uuid, some text⟩ => some text
  | ⟨_, _, .randomNonce, some text⟩ => some text
  | ⟨_, _, .randomX25519Keypair, some keypair⟩ => some keypair.2
  | ⟨_, _, .randomNoncePrefix, some text⟩ => some text
  | _ => none

theorem exec_draws {s s' : State} {choice : Choice} {call : Call} {r : Option call.Val}
    (h : s.exec cfg choice call = some (r, s')) {pid : ℕ} {text : String}
    (hd : drawn? ⟨pid, s, call, r⟩ = some text) : text ∉ s.drawn ∧ text ∈ s'.drawn := by
  rcases State.exec_cases h with ⟨rfl, -⟩ | ⟨draw, v, rfl, heff, hfresh⟩
  · cases call <;> cases hd
  · cases call with
    | uuid | randomNonce | randomX25519Keypair | randomNoncePrefix =>
      cases heff
      cases hd
      exact ⟨hfresh rfl, List.mem_cons_self⟩
    | _ => cases hd

/-- What has been drawn in a run is remembered. -/
theorem Reachable.drawn_mem (hw : Reachable cfg w) {e : ServiceEntry} (he : e ∈ w.log)
    {text : String} (hd : drawn? e = some text) : text ∈ w.state.drawn := by
  obtain ⟨l, l', hl⟩ := List.append_of_mem he
  refine hw.holds_since (fun s => text ∈ s.drawn) (fun _ => True) hl (fun _ _ => trivial) ?_ ?_ ?_
  · intro choice s' hx
    exact (exec_draws hx hd).2
  · intro v pid request call next choice r s' _ _ hx _ hmem
    exact (exec_frame hx).drawn hmem
  · intro move s hmem
    rw [State.move_drawn]
    exact hmem

/-- A random value names the call that drew it. -/
theorem Reachable.draw_unique (hw : Reachable cfg w) {e e' : ServiceEntry} (he : e ∈ w.log)
    (he' : e' ∈ w.log) {text : String} (hd : drawn? e = some text) (hd' : drawn? e' = some text) :
    e = e' := by
  refine eq_of_once drawn? (fun l x l' hl y hy text hx hy' => ?_) he he' hd hd'
  obtain ⟨l₁, l₂, rfl⟩ := List.append_of_mem hy
  obtain ⟨u, request, next, choice, s', hu, -, hlog, hs, -, hexec⟩ :=
    hw.point (show w.log = (l ++ x :: l₁) ++ y :: l₂ by simp [hl])
  have hmem := hu.drawn_mem (show x ∈ u.log by simp [hlog]) hx
  rw [hs] at hmem
  exact (exec_draws hexec hy').1 hmem

/-- A call that carries a random value its own handler has drawn, and that the handler makes
once, is made once. -/
theorem Reachable.once_of_draw (hw : Reachable cfg w) (f : ServiceEntry → Option String)
    (hdraw : ∀ l x l' text, w.log = l ++ x :: l' → f x = some text →
      (∃ d ∈ l, d.pid = x.pid ∧ drawn? d = some text) ∧ ∀ y ∈ l, y.pid = x.pid → f y = none)
    {l l' : List ServiceEntry} {x y : ServiceEntry} (hl : w.log = l ++ x :: l') (hy : y ∈ l')
    {text : String} (hx : f x = some text) : f y ≠ some text := by
  intro hfy
  obtain ⟨l₁, l₂, rfl⟩ := List.append_of_mem hy
  have hl' : w.log = (l ++ x :: l₁) ++ y :: l₂ := by simp [hl]
  obtain ⟨⟨d, hd, hpid, hdrawn⟩, -⟩ := hdraw _ _ _ _ hl hx
  obtain ⟨⟨d', hd', hpid', hdrawn'⟩, hfirst⟩ := hdraw _ _ _ _ hl' hfy
  obtain rfl : d = d' := hw.draw_unique (by simp [hl, hd])
    (by rw [hl']; exact List.mem_append_left _ hd') hdrawn hdrawn'
  have hnone : f x = none := hfirst x (by simp) (hpid.symm.trans hpid')
  cases hnone.symm.trans hx

theorem drawn_of_answered {pid : ℕ} {l : List ServiceEntry} {call : Call} {v : call.Val}
    (h : Answered (historyOf pid l) call v) {text : String}
    (hd : ∀ s, drawn? ⟨pid, s, call, some v⟩ = some text) :
    ∃ e ∈ l, e.pid = pid ∧ drawn? e = some text := by
  obtain ⟨⟨q, s, op, r⟩, he, rfl, heq⟩ := mem_historyOf.mp h
  simp only [LogEntry.entry, Sigma.mk.injEq] at heq
  obtain ⟨rfl, hr⟩ := heq
  obtain rfl := eq_of_heq hr
  exact ⟨_, he, rfl, hd s⟩

end Draws

/-! A small deployment, for runs on fixed inputs: one device key and signature
text verify, and one artifact is published. -/
section Sample

def sampleKey : String := "AAAAAAAAAAAAAAAAAAAAAAAAAAAAAAAAAAAAAAAAAAA"

def sampleSha256 : String := "6e340b9cffb37a989ca544e6bb780a2c78901d3fb33738768511a30617afa01d"

def sampleCrypto : Crypto where
  base64Encode _ := "AA"
  base64Decode text := some (List.replicate (if text = sampleKey then 32 else 64) 0)
  ed25519Key key := key.length = 32
  ed25519Verify _ _ signature := signature.length = 64
  p256Key _ := false
  p256Verify _ _ _ := false
  authoritySign _ := "authority"
  authorityVerify _ signature := signature = "authority"
  parseGrant _ := none
  sha256 _ := sampleSha256
  x25519 secret _ := some secret
  hkdfSha256 _ secret _ := some secret
  chacha20Poly1305 _ _ _ plaintext := some plaintext

def sampleConfig : Config := ⟨sampleCrypto, "key-1", "artifacts", 4⟩

def samplePath (text : String) : Option Path :=
  some (if text = "artifacts" then [text] else ["artifacts", text])

def sampleFiles (_ : Path) : Option (List UInt8) := some [0]

def sampleStart : ServiceWorld := start ⟨1000, by decide⟩ samplePath sampleFiles

/-- A handler starts and makes as many calls as there are random values. -/
def serve (pid : ℕ) (request : Request) (draws : List String) : List ServiceAction :=
  .spawn pid request :: draws.map fun text => .exec pid (.run { text })

/-- The device registers as this client, and an administrator approves it. -/
def sampleEnroll (pid : ℕ) (clientId deviceId : String) : List ServiceAction :=
  serve pid (.register ⟨"install", deviceId, "1", "windows", sampleKey, .ed25519DpapiV1, "rdc"⟩)
    ["", "", clientId, "", clientId ++ "-challenge", ""] ++
  serve (pid + 1) (.admin (.clientApproveForAccount clientId "account")) [""]

/-- The account of sample clients is entitled to both capabilities. -/
def sampleEntitle (pid : ℕ) (accountId : String) : List ServiceAction :=
  serve pid (.admin (.entitlementGrant accountId .protectedPreset)) [""] ++
    serve (pid + 1) (.admin (.entitlementGrant accountId .protectedArtifact)) [""]

def sampleSession (clientId deviceId nonce : String) (iat : ℤ) : SessionRequest :=
  ⟨clientId, deviceId, "1", nonce, iat, [.protectedPreset, .protectedArtifact], "signature"⟩

end Sample
end JustRun.Authorization
