import JustRun.Authorization.Runs

/-!
# What stands behind a lease, a grant, a receipt and a manifest

Every fact that a handler relies on held in the state in which it read it. The
reads of one handler are separate calls: no single state need show them all.
-/
namespace JustRun.Authorization
open Machine Relational Concurrency

/-- The handler `pid` made a call in a state of the run with `P`. -/
def Saw (cfg : Config) (w : ServiceWorld) (pid : ℕ) (P : State → Prop) : Prop :=
  ∃ u, Reachable cfg u ∧ (service cfg).Reaches u w ∧
    (∃ e ∈ w.log, e.pid = pid ∧ e.before = u.state) ∧ P u.state

/-- The client was approved, unrevoked and bound to the device when the handler read its
row, and each capability was entitled to the account of that row. -/
def SawClient (cfg : Config) (w : ServiceWorld) (pid : ℕ) (clientId deviceId : String)
    (capabilities : List ProtectedCapability) : Prop :=
  ∃ row : ClientRecord, Saw cfg w pid (fun s => s.client clientId = some row) ∧
    row.approved = true ∧ row.revoked = false ∧ row.deviceId = deviceId ∧
    ∀ capability ∈ capabilities, Saw cfg w pid (fun s => s.hasEntitlement row.accountId capability = true)

/-- The session was unrevoked when the handler read its row, and unexpired at `now`. -/
def SawSession (cfg : Config) (w : ServiceWorld) (pid : ℕ) (now : ℤ) (row : SessionRecord) :
    Prop :=
  Saw cfg w pid (fun s => s.session row.sessionId = some row) ∧ row.revoked = false ∧ now < row.exp

def SawClock (cfg : Config) (w : ServiceWorld) (pid : ℕ) (now : ℤ) : Prop :=
  Saw cfg w pid (fun s => s.clock.val = now)

variable {cfg : Config} {w : ServiceWorld} {pid : ℕ}

theorem Reachable.saw (hw : Reachable cfg w) {call : Call} {v : call.Val}
    (h : Answered (w.history pid) call v) {P : State → Prop}
    (hP : ∀ s draw s', s.effect cfg draw call = some (v, s') → P s) : Saw cfg w pid P := by
  obtain ⟨u, draw, s', hu, hr, he, heff⟩ := hw.answered h
  exact ⟨u, hu, hr, ⟨_, he, rfl, rfl⟩, hP _ _ _ heff⟩

theorem Reachable.sawClock (hw : Reachable cfg w) {t : Reading}
    (h : Answered (w.history pid) .now t) : SawClock cfg w pid t.val :=
  hw.saw h fun s draw s' heff => by
    obtain rfl : s.clock = t := congrArg Prod.fst (Option.some.inj heff)
    rfl

theorem Reachable.sawClient (hw : Reachable cfg w) {clientId deviceId : String}
    {row : ClientRecord} (hc : ClientChecked (w.history pid) clientId deviceId row)
    {capabilities : List ProtectedCapability}
    (he : EntitlementsChecked (w.history pid) row.accountId capabilities) :
    SawClient cfg w pid clientId deviceId capabilities := by
  refine ⟨row, ?_, hc.approved, hc.unrevoked, hc.bound, fun capability hm => ?_⟩
  · exact hw.saw hc.read fun s draw s' heff => congrArg Prod.fst (Option.some.inj heff)
  · exact hw.saw (he capability hm) fun s draw s' heff => congrArg Prod.fst (Option.some.inj heff)

theorem Reachable.sawSession (hw : Reachable cfg w) {token : String} {now : ℤ}
    {row : SessionRecord} (hs : SessionChecked (w.history pid) token now row) :
    SawSession cfg w pid now row := by
  refine ⟨?_, hs.unrevoked, hs.live⟩
  rw [hw.session_id hs.read]
  exact hw.saw hs.read fun s draw s' heff => congrArg Prod.fst (Option.some.inj heff)

/-- What was checked for a response, kind by kind. -/
def Sound (cfg : Config) (w : ServiceWorld) (pid : ℕ) : Request → Response → Prop
  | .createSession request, .session response =>
    let claims := response.lease.claims
    SawClock cfg w pid claims.iat ∧ claims.deviceId = request.deviceId ∧
      SawClient cfg w pid claims.clientId claims.deviceId claims.capabilities ∧
      claims.iat ≤ claims.exp ∧ claims.exp = claims.iat + leaseMaxSecs
  | .heartbeat sessionId request, .session response =>
    let claims := response.lease.claims
    SawClock cfg w pid claims.iat ∧ claims.sessionId = sessionId ∧
      claims.deviceId = request.deviceId ∧
      SawClient cfg w pid claims.clientId claims.deviceId claims.capabilities ∧
      claims.iat ≤ claims.exp ∧ claims.exp = claims.iat + leaseMaxSecs ∧
      ∃ session, SawSession cfg w pid claims.iat session ∧ session.sessionId = sessionId ∧
        session.clientId = claims.clientId ∧ session.capabilities = claims.capabilities
  | .issueExecutionGrant _ _, .grant grant => ∃ claims session, grant.payload = .json claims ∧
      SawClock cfg w pid claims.iat ∧ SawSession cfg w pid claims.iat session ∧
      session.sessionId = claims.sessionId ∧ mayExecute session = true ∧
      SawClient cfg w pid claims.clientId claims.deviceId session.capabilities ∧
      claims.exp ≤ min session.exp (claims.iat + executionGrantTtlSecs) ∧ claims.iat ≤ claims.exp
  | .consumeExecutionGrant grant, .receipt receipt => ∃ granted claims session,
      cfg.verifyExecutionGrant grant = some granted ∧ receipt.payload = .json claims ∧
      SawClock cfg w pid claims.iat ∧ SawSession cfg w pid claims.iat session ∧
      session.sessionId = claims.sessionId ∧ mayExecute session = true ∧
      SawClient cfg w pid claims.clientId claims.deviceId session.capabilities ∧
      claims.exp ≤ granted.exp ∧ claims.iat ≤ claims.exp
  | .prepareArtifact _ _ request, .manifest response => ∃ now session,
      SawClock cfg w pid now ∧ SawSession cfg w pid now session ∧
      session.sessionId = response.manifest.sessionId ∧
      response.manifest.deviceId = request.deviceId ∧
      SawClient cfg w pid session.clientId response.manifest.deviceId session.capabilities ∧
      session.capabilities.contains .protectedArtifact = true ∧
      response.manifest.expiresAt ≤ session.exp
  | _, _ => True

theorem receiptOf_exp {claims : ExecutionGrantClaims} {t : Reading}
    (h : grantClaimsValid claims t.val = true) :
    (receiptOf claims t.val).iat ≤ (receiptOf claims t.val).exp := by
  have hlive : t.val < claims.exp := by
    simp only [grantClaimsValid, Bool.not_eq_true', Bool.or_eq_false_iff] at h
    simpa using h.1.1.1.2
  simp only [receiptOf]
  rw [t.saturatingAdd_eq (by decide) (by decide)]
  exact le_min hlive.le (by simp [executionGrantTtlSecs])

theorem lease_times (t : Reading) :
    t.val ≤ saturatingAdd t.val leaseMaxSecs ∧ saturatingAdd t.val leaseMaxSecs = t.val + leaseMaxSecs := by
  rw [t.saturatingAdd_eq (by decide) (by decide)]
  exact ⟨by simp [leaseMaxSecs], rfl⟩

/-- Every issuing handler has found what it relies on, and the expiries are ordered. -/
theorem issuance_is_sound (hw : Reachable cfg w) (request : Request) (response : Response)
    (h : w.Finished pid request response) : Sound cfg w pid request response := by
  cases hw.issued h with
  | registered | completed | capabilities | closed | release | chunk | done => trivial
  | lease reading checked _ _ _ entitled =>
    have hid := hw.client_id checked.read
    refine ⟨hw.sawClock reading, checked.bound, ?_, lease_times _⟩
    have hsaw := hw.sawClient checked entitled
    rw [← hid, ← checked.bound] at hsaw
    exact hsaw
  | renewal reading row binding checked _ _ entitled =>
    have hid := hw.client_id checked.read
    refine ⟨hw.sawClock reading, rfl, checked.bound, ?_, (lease_times _).1, (lease_times _).2, _,
      hw.sawSession row, hw.session_id row.read, hid.symm, rfl⟩
    have hsaw := hw.sawClient checked entitled
    rw [← hid, ← checked.bound] at hsaw
    exact hsaw
  | @grant _ _ t session client _ _ _ _ reading checked capable client_read _ _ _ alive =>
    obtain ⟨token, -, hs⟩ := checked.row
    obtain ⟨row, hc, he⟩ := checked.client
    refine ⟨_, session, rfl, hw.sawClock reading, hw.sawSession hs, rfl, capable, ?_, ?_, alive.le⟩
    · rw [hw.client_id client_read]
      exact hw.sawClient hc he
    · rw [t.saturatingAdd_eq (by decide) (by decide)]
  | receipt reading checked =>
    obtain ⟨session, hs, hclient, hdevice, hmay, row, hc, -, he, -⟩ := checked.session
    refine ⟨_, _, session, checked.verified, rfl, hw.sawClock reading, hw.sawSession hs,
      hw.session_id hs.read, hmay, ?_, min_le_left _ _, ?_⟩
    · rw [hclient, hdevice] at hc
      exact hw.sawClient hc he
    · exact receiptOf_exp checked.valid
  | manifest reading bearer binding capable _ named expires _ =>
    obtain ⟨token, -, hs⟩ := bearer.row
    obtain ⟨row, hc, he⟩ := bearer.client
    refine ⟨_, _, hw.sawClock reading, hw.sawSession hs, named.1.symm, named.2.trans binding, ?_,
      capable, ?_⟩
    · have hsaw := hw.sawClient hc he
      rw [← named.2] at hsaw
      exact hsaw
    · exact expires.trans_le (min_le_left _ _)

def sampleLease : SessionResponse :=
  ⟨makeLease sampleConfig ⟨"client", "account", "device", sampleKey, .ed25519DpapiV1, "1", true, false⟩
    "session" [.protectedPreset, .protectedArtifact] "n" "jti" 1000 1900, 1000⟩

/-- A session is asked for and issued. -/
def leaseRun : List ServiceAction :=
  sampleEnroll 0 "client" "device" ++ sampleEntitle 2 "account" ++
    serve 4 (.createSession (sampleSession "client" "device" "n" 1000))
      ["", "", "", "", "", "", "session", "jti", ""]

theorem issuance_is_sound_lease :
    Sound sampleConfig ((service sampleConfig).run sampleStart leaseRun) 4
      (.createSession (sampleSession "client" "device" "n" 1000)) (.session sampleLease) :=
  issuance_is_sound (reachable_run sampleConfig _ _ _ leaseRun) _ _
    (World.finished_iff.mpr (by decide +kernel))

/-- All that the lease relies on, in one state. -/
def backed (s : State) (claims : LeaseClaims) : Bool :=
  (s.client claims.clientId).any fun row => row.approved && !row.revoked &&
    row.deviceId = claims.deviceId &&
    claims.capabilities.all (fun capability => s.hasEntitlement row.accountId capability)

/-- The client is bound to another account after its row is read, and only then is the
first account entitled. -/
def reboundRun : List ServiceAction :=
  sampleEnroll 0 "client" "device" ++
    serve 4 (.createSession (sampleSession "client" "device" "n" 1000)) ["", "", ""] ++
    serve 5 (.admin (.clientApproveForAccount "client" "other")) [""] ++ sampleEntitle 6 "account" ++
    ["", "", "", "session", "jti", ""].map fun text => .exec 4 (.run { text })

theorem lease_without_entitlement :
    ¬ ∀ (cfg : Config) (clock : Reading) (canonical : String → Option Path)
      (files : Path → Option (List UInt8)) (acts : List ServiceAction) (pid : ℕ)
      (request : SessionRequest) (response : SessionResponse),
      ((service cfg).run (start clock canonical files) acts).Finished pid
        (.createSession request) (.session response) →
      ∃ n ≤ acts.length,
        backed ((service cfg).run (start clock canonical files) (acts.take n)).state
          response.lease.claims = true := by
  intro h
  obtain ⟨n, hn, hb⟩ := h sampleConfig ⟨1000, by decide⟩ samplePath sampleFiles
    reboundRun 4 (sampleSession "client" "device" "n" 1000) sampleLease
    (World.finished_iff.mpr (by decide +kernel))
  have hnone : ∀ n ≤ reboundRun.length, backed ((service sampleConfig).run sampleStart
      (reboundRun.take n)).state sampleLease.lease.claims = false := by decide +kernel
  exact absurd hb (by simpa [sampleStart] using hnone n hn)

end JustRun.Authorization
