import JustRun.Desktop.Client

/-!
# Which leases the client accepts

`acquire_session` and `heartbeat` share `verify_lease`: a signature under a trusted
key, the static checks at a time no earlier than either clock, the device, the
client version and the capabilities. What a lease says beyond that is not compared.
-/
namespace JustRun.Desktop
open Machine Authorization Concurrency Concurrency.Prog

variable {client : AuthorizationClient}

/-- What `verify_lease` has checked when it answers a clock. -/
structure LeaseVerified (client : AuthorizationClient) (h : History) (lease : SignedLease)
    (serverTime : ℤ) (identity : DeviceIdentity) (requested : List ProtectedCapability)
    (minimumNow : Option ℤ) (clock : LeaseClock) : Prop where
  key : ∃ key ∈ client.trustedKeys, key.keyId = lease.keyId ∧
    client.crates.SignedUnder (.lease lease.claims) lease.signature key.publicKeyBase64url
  claims : ClaimsValid lease.claims clock.anchorUnix
  time : ∃ localTime, Answered h .unixTime localTime ∧
    clock.anchorUnix = leaseValidationNow serverTime localTime minimumNow
  device : lease.claims.deviceId = identity.deviceId
  version : lease.claims.clientVersion = client.clientVersion
  capabilities : lease.claims.capabilities = requested

theorem LeaseVerified.mono {h h' : History} {lease : SignedLease} {serverTime : ℤ}
    {identity : DeviceIdentity} {requested : List ProtectedCapability} {minimumNow : Option ℤ}
    {clock : LeaseClock}
    (hv : LeaseVerified client h lease serverTime identity requested minimumNow clock)
    (hh : h <+: h') :
    LeaseVerified client h' lease serverTime identity requested minimumNow clock := by
  obtain ⟨localTime, ht, hanchor⟩ := hv.time
  exact { hv with time := ⟨localTime, ht.mono hh, hanchor⟩ }

theorem trustedKey_eq_ok {keyId : String} {key : TrustedAuthorizationKey}
    (h : client.trustedKey keyId = .ok key) : key ∈ client.trustedKeys ∧ key.keyId = keyId := by
  unfold AuthorizationClient.trustedKey at h
  split at h
  · next found hfound =>
    cases h
    exact ⟨List.mem_of_find?_eq_some hfound, by simpa using List.find?_some hfound⟩
  · cases h

section Parts
variable {P : History → Call → Prop} {β : Type} {R : History → Except AuthorizationError β → Prop}
  {h : History}

theorem meets_verifyLease (he : ∀ h e, R h (.error e)) (htime : ∀ h, P h .unixTime)
    (hinstant : ∀ h, P h .instant) {lease : SignedLease} {serverTime : ℤ} {identity : DeviceIdentity}
    {requested : List ProtectedCapability} {minimumNow : Option ℤ} {f : LeaseClock → ClientProg β}
    (hf : ∀ l clock, LeaseVerified client (h ++ l) lease serverTime identity requested minimumNow
      clock → (f clock).Meets P R (h ++ l)) :
    (client.verifyLease lease serverTime identity requested minimumNow >>= f).Meets P R h := by
  simp only [AuthorizationClient.verifyLease, LeaseClock.new, bind_assoc, pure_bind]
  refine meets_check he fun key hkey => meets_ask he (htime _) fun localTime hlocal =>
    meets_check he fun _ hsigned => meets_refuse he fun hbinding => meets_ask he (hinstant _)
    fun instant _ => ?_
  simp only [Bool.or_eq_false_iff, decide_eq_false_iff_not, not_not] at hbinding
  obtain ⟨hmem, hid⟩ := trustedKey_eq_ok hkey
  obtain ⟨hsignature, hclaims⟩ := Crates.verifySignedLease_ok hsigned
  have hverified : LeaseVerified client
      (h ++ [⟨.unixTime, .ok localTime⟩] ++ [⟨.instant, .ok instant⟩]) lease serverTime identity
      requested minimumNow ⟨leaseValidationNow serverTime localTime minimumNow, instant⟩ :=
    ⟨⟨key, hmem, hid, hsignature⟩, hclaims, ⟨localTime, hlocal.mono (by simp), rfl⟩, hbinding.1.1,
      hbinding.1.2, hbinding.2⟩
  rw [List.append_assoc] at hverified ⊢
  exact hf _ _ hverified

end Parts

/-- An accepted session holds the lease of the response, which was verified for this device. -/
structure SessionAccepted (client : AuthorizationClient) (h : History) (response : SessionResponse)
    (requested : List ProtectedCapability) (minimumNow : Option ℤ)
    (session : AuthorizationSession) : Prop where
  lease : session.lease = response.lease
  serverTime : session.serverTime = response.serverTime
  verified : ∃ material, Answered h .material material ∧ LeaseVerified client h response.lease
    response.serverTime material.identity requested minimumNow session.leaseClock

/-- `acquire_session` sent one request, under a nonce drawn for it, and accepted its response. -/
def Acquired (client : AuthorizationClient) (capabilities : List ProtectedCapability) (h : History)
    (session : AuthorizationSession) : Prop :=
  ∃ request response, Answered h (.acquireSession request) response ∧
    Answered h .uuid request.nonce ∧ request.capabilities = capabilities ∧
    SessionAccepted client h response capabilities none session

/-- `heartbeat` sent one request for the session it has and accepted its response, at a time no
earlier than the clock of that session. -/
def Refreshed (client : AuthorizationClient) (h : History) (session : AuthorizationSession) : Prop :=
  ∃ current request response instant now, client.session = some current ∧
    Answered h (.heartbeat current.lease.claims.sessionId request) response ∧
    Answered h .uuid request.nonce ∧ Answered h .instant instant ∧
    current.leaseClock.nowAt instant = .ok now ∧
    SessionAccepted client h response current.lease.claims.capabilities (some now) session

theorem acquireSession_meets (client : AuthorizationClient)
    (capabilities : List ProtectedCapability) (h : History) :
    (client.acquireSession capabilities).Meets (fun _ call => call.changes = false)
      (fun h r => ∀ session, r = .ok session → Acquired client capabilities h session) h := by
  have he : ∀ (h : History) (e : AuthorizationError) (session : AuthorizationSession),
      Except.error e = .ok session → Acquired client capabilities h session :=
    fun _ _ _ h => nomatch h
  simp only [AuthorizationClient.acquireSession, AuthorizationClient.identity,
    AuthorizationClient.signer, bind_assoc, pure_bind]
  refine meets_ask he rfl fun material hmaterial => meets_ask he rfl fun material' _ =>
    meets_check he fun _ _ => meets_ask he rfl fun stored _ => meets_present he
    fun registration _ => meets_check he fun _ _ => meets_ask he rfl fun iat _ =>
    meets_ask he rfl fun nonce hnonce => meets_ask he rfl fun signature _ =>
    meets_ask he rfl fun response hresponse => ?_
  refine meets_verifyLease (P := fun _ call => call.changes = false) he (fun _ => rfl) (fun _ => rfl)
    fun l clock hverified session hsession => ?_
  cases hsession
  exact ⟨_, response, hresponse.mono (by simp), hnonce.mono (by simp), rfl, rfl, rfl, material,
    hmaterial.mono (by simp), hverified⟩

theorem heartbeat_meets (client : AuthorizationClient) (h : History) :
    client.heartbeat.Meets (fun _ call => call.changes = false)
      (fun h r => ∀ session, r = .ok session → Refreshed client h session) h := by
  have he : ∀ (h : History) (e : AuthorizationError) (session : AuthorizationSession),
      Except.error e = .ok session → Refreshed client h session :=
    fun _ _ _ h => nomatch h
  simp only [AuthorizationClient.heartbeat, AuthorizationClient.identity,
    AuthorizationClient.signer, LeaseClock.now, bind_assoc, pure_bind]
  refine meets_present he fun current hcurrent => meets_ask he rfl fun material hmaterial =>
    meets_ask he rfl fun material' _ => meets_check he fun _ _ => meets_ask he rfl
    fun stored _ => meets_present he fun registration _ => meets_check he fun _ _ =>
    meets_ask he rfl fun iat _ => meets_ask he rfl fun nonce hnonce => meets_ask he rfl
    fun signature _ => meets_ask he rfl fun response hresponse => meets_ask he rfl
    fun instant hinstant => meets_check he fun now hnow => ?_
  refine meets_verifyLease (P := fun _ call => call.changes = false) he (fun _ => rfl) (fun _ => rfl)
    fun l clock hverified session hsession => ?_
  cases hsession
  exact ⟨current, _, response, instant, now, hcurrent, hresponse.mono (by simp),
    hnonce.mono (by simp), hinstant.mono (by simp), hnow, rfl, rfl, material,
    hmaterial.mono (by simp), hverified⟩

/-- An execution answers only what its program allows. -/
theorem answered_of_meets {α : Type} {p : ClientProg α} {P : History → Call → Prop}
    {Q : History → α → Prop} (hp : p.Meets P (fun h r => ∀ a, r = .ok a → Q h a) []) {s s' : State}
    {cs : List Choice} {h : History} {a : α}
    (ha : p.alone execute [] s cs = some (h, .ok a, s')) : Q h a := by
  have hensures : p.Ensures execute (fun h r _ => (∀ a, r = .ok a → Q h a) ∧ True) [] s :=
    hp.ensures (fun _ => True) (fun _ _ _ _ _ _ _ _ _ => trivial) trivial
  exact (hensures.alone ha).1 a rfl

theorem accepted_leases_are_verified :
    (∀ (client : AuthorizationClient) (capabilities : List ProtectedCapability) (s s' : State)
      (cs : List Choice) (h : History) (session : AuthorizationSession),
      (client.acquireSession capabilities).alone execute [] s cs = some (h, .ok session, s') →
        Acquired client capabilities h session) ∧
    ∀ (client : AuthorizationClient) (s s' : State) (cs : List Choice) (h : History)
      (session : AuthorizationSession),
      client.heartbeat.alone execute [] s cs = some (h, .ok session, s') →
        Refreshed client h session :=
  ⟨fun client capabilities _ _ _ _ _ => answered_of_meets (acquireSession_meets client capabilities []),
    fun client _ _ _ _ _ => answered_of_meets (heartbeat_meets client [])⟩

/-! ### Replayed leases -/

/-- The nonce a request of the client carries. -/
def sentNonce? : Entry Call Result → Option String
  | ⟨.acquireSession request, _⟩ => some request.nonce
  | ⟨.heartbeat _ request, _⟩ => some request.nonce
  | _ => none

def sentNonces (h : History) : List String := h.filterMap sentNonce?

/-- The nonces sent and the session accepted. -/
def accepted? :
    Option (History × Except AuthorizationError AuthorizationSession × State) →
      Option (List String × AuthorizationSession)
  | some (h, .ok session, _) => some (sentNonces h, session)
  | _ => none

theorem accepted?_eq_some
    {o : Option (History × Except AuthorizationError AuthorizationSession × State)}
    {nonces : List String} {session : AuthorizationSession}
    (h : accepted? o = some (nonces, session)) :
    ∃ l s', o = some (l, .ok session, s') ∧ sentNonces l = nonces := by
  match o, h with
  | some (l, .ok _, s'), h =>
    cases h
    exact ⟨l, s', rfl, rfl⟩

/-- The authority has signed one lease. -/
def signedOnly (claims : LeaseClaims) : Crates :=
  { sampleCrates with ed25519Verify := fun _ message _ => message = .lease claims }

/-- The server answers every request with this lease. -/
def replaying (claims : LeaseClaims) : (call : Call) → Result call
  | .acquireSession .. | .heartbeat .. => .ok ⟨⟨"key-1", claims, "signature"⟩, 1000⟩
  | other => offline other

def replayClient (claims : LeaseClaims) : AuthorizationClient :=
  { sampleClient with crates := signedOnly claims }

def replayed (claims : LeaseClaims) (instant : Instant) : AuthorizationSession :=
  ⟨⟨"key-1", claims, "signature"⟩, 1000, ⟨1000, instant⟩⟩

/-- Both calls accept a lease of another session of the device. -/
theorem replayed_leases_are_accepted :
    (¬ ∀ (client : AuthorizationClient) (capabilities : List ProtectedCapability) (s s' : State)
      (cs : List Choice) (h : History) (session : AuthorizationSession),
      (client.acquireSession capabilities).alone execute [] s cs = some (h, .ok session, s') →
        session.lease.claims.nonce ∈ sentNonces h) ∧
    ¬ ∀ (client : AuthorizationClient) (s s' : State) (cs : List Choice) (h : History)
      (session : AuthorizationSession),
      client.heartbeat.alone execute [] s cs = some (h, .ok session, s') →
        session.lease.claims.nonce ∈ sentNonces h ∧ ∃ current, client.session = some current ∧
          session.lease.claims.sessionId = current.lease.claims.sessionId ∧
          session.lease.claims.clientId = current.lease.claims.clientId ∧
          session.lease.claims.sub = current.lease.claims.sub := by
  let claims := sampleLeaseClaims "account-2" "client-2" "session-2" "nonce-2"
  constructor
  · intro hclaim
    have hrun : accepted? (((replayClient claims).acquireSession [.protectedArtifact]).alone execute
        [] ⟨none, fun _ => none⟩ (List.replicate 9 ⟨replaying claims, 0⟩)) =
        some (["uuid"], replayed claims 0) := by
      decide +kernel
    obtain ⟨h, s', halone, hsent⟩ := accepted?_eq_some hrun
    have hnonce := hclaim _ _ _ _ _ _ _ halone
    rw [hsent] at hnonce
    exact absurd hnonce (by decide)
  · intro hclaim
    have hrun : accepted? ((replayClient claims).heartbeat.alone execute [] ⟨none, fun _ => none⟩
        (List.replicate 10 ⟨replaying claims, 0⟩)) = some (["uuid"], replayed claims 0) := by
      decide +kernel
    obtain ⟨h, s', halone, -⟩ := accepted?_eq_some hrun
    obtain ⟨-, current, hcurrent, hsession, -⟩ := hclaim _ _ _ _ _ _ halone
    cases hcurrent
    exact absurd hsession (by decide)

theorem accepted_leases_are_verified_echoed :
    (∃ h session, Acquired sampleClient [.protectedArtifact] h session) ∧
      ∃ h session, Refreshed sampleClient h session := by
  let claims := sampleLeaseClaims "account" "client" "session" "uuid"
  constructor
  · have hrun : accepted? ((sampleClient.acquireSession [.protectedArtifact]).alone execute []
        ⟨none, fun _ => none⟩ (List.replicate 9 ⟨replaying claims, 0⟩)) =
        some (["uuid"], replayed claims 0) := by
      decide +kernel
    obtain ⟨h, s', halone, -⟩ := accepted?_eq_some hrun
    exact ⟨h, _, accepted_leases_are_verified.1 _ _ _ _ _ _ _ halone⟩
  · have hrun : accepted? (sampleClient.heartbeat.alone execute [] ⟨none, fun _ => none⟩
        (List.replicate 10 ⟨replaying claims, 0⟩)) = some (["uuid"], replayed claims 0) := by
      decide +kernel
    obtain ⟨h, s', halone, -⟩ := accepted?_eq_some hrun
    exact ⟨h, _, accepted_leases_are_verified.2 _ _ _ _ _ _ halone⟩

end JustRun.Desktop
