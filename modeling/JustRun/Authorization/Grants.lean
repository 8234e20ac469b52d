import JustRun.Authorization.Replay

/-!
# Execution grants: single use, and bound to what they were issued for

A grant is consumed under the marker of its JTI in the nonce table. Signatures
are taken as unforged: a payload that verifies has been issued by the service.
-/
namespace JustRun.Authorization
open Machine Relational Concurrency

/-- The JTI of the grant that a request consumes. -/
def consumedJti? (cfg : Config) : Request → Option String
  | .consumeExecutionGrant grant => (cfg.verifyExecutionGrant grant).map (·.jti)
  | _ => none

def consumesGrant (cfg : Config) (jti : String) (request : Request) : Bool :=
  consumedJti? cfg request = some jti

def issuedPayload? : Response → Option (Encoded ExecutionGrantClaims)
  | .grant grant => some grant.payload
  | _ => none

/-- A grant that verifies is sent to be consumed only after the service has issued its payload. -/
def Unforged (cfg : Config) (w : ServiceWorld) : ServiceAction → Prop
  | .spawn _ (.consumeExecutionGrant grant) =>
    cfg.crypto.authorityVerify grant.payload grant.signature = true →
      ∃ e ∈ w.log, (w.answer? e.pid).bind issuedPayload? = some grant.payload
  | _ => True

instance (cfg : Config) (w : ServiceWorld) (a : ServiceAction) : Decidable (Unforged cfg w a) := by
  unfold Unforged
  split <;> infer_instance

/-- A step of a run in which no handler stalls while its grant's marker is pruned. -/
def PromptGrants (cfg : Config) (w : ServiceWorld) : ServiceAction → Prop
  | .exec pid choice => ∀ jti ∈ (w.request? pid).bind (consumedJti? cfg),
      Prompt (consumesGrant cfg jti) w (.exec pid choice)
  | _ => True

instance (cfg : Config) (w : ServiceWorld) (a : ServiceAction) :
    Decidable (PromptGrants cfg w a) :=
  match a with
  | .exec pid choice => inferInstanceAs (Decidable
      (∀ jti ∈ (w.request? pid).bind (consumedJti? cfg),
        Prompt (consumesGrant cfg jti) w (.exec pid choice)))
  | .spawn .. | .env _ => isTrue trivial

variable {cfg : Config}

theorem PromptGrants.prompt {w : ServiceWorld} {a : ServiceAction} (h : PromptGrants cfg w a)
    (jti : String) : Prompt (consumesGrant cfg jti) w a := by
  cases a with
  | spawn pid request => trivial
  | env move => trivial
  | exec pid choice =>
    intro hs
    obtain ⟨r, hr, hj⟩ := (Option.any_eq_true _ _).mp hs
    exact h jti (Option.bind_eq_some_iff.mpr ⟨r, hr, by simpa [consumesGrant] using hj⟩) hs

theorem verifyExecutionGrant_eq_some {grant : SignedExecutionGrant} {claims : ExecutionGrantClaims}
    (h : cfg.verifyExecutionGrant grant = some claims) :
    cfg.crypto.authorityVerify grant.payload grant.signature = true ∧
      cfg.crypto.decodeExecutionGrantPayload grant.payload = some claims := by
  unfold Config.verifyExecutionGrant at h
  split at h
  · cases h
  · split at h
    · next hv => exact ⟨hv, h⟩
    · cases h

/-- The grants a run has issued, with the call that drew their JTI. -/
theorem Reachable.grant_issued {w : ServiceWorld} (hw : Reachable cfg w) {q : ℕ}
    {request : Request} {grant : SignedExecutionGrant} (h : w.Finished q request (.grant grant)) :
    ∃ claims s, grant.payload = .json claims ∧
      (⟨q, s, .uuid, some claims.jti⟩ : ServiceEntry) ∈ w.log := by
  cases hw.issued h with
  | grant _ _ _ _ _ _ _ _ drawn =>
    obtain ⟨s, he⟩ := answered_iff.mp drawn
    exact ⟨_, s, rfl, he⟩

section Unforged
variable {clock : Reading} {canonical : String → Option Path} {files : Path → Option (List UInt8)}
  {acts : List ServiceAction}

/-- In a run without forgeries, every grant that verifies was issued. -/
theorem unforged_issued
    (h : System.Along (service cfg) (Unforged cfg) (start clock canonical files) acts) {p : ℕ}
    {grant : SignedExecutionGrant}
    (hp : ((service cfg).run (start clock canonical files) acts).request? p =
      some (.consumeExecutionGrant grant))
    (hv : cfg.crypto.authorityVerify grant.payload grant.signature = true) :
    ∃ q request issued, ((service cfg).run (start clock canonical files) acts).Finished q request
      (.grant issued) ∧ issued.payload = grant.payload := by
  refine h.keeps (fun w => ∀ p grant, w.request? p = some (.consumeExecutionGrant grant) →
    cfg.crypto.authorityVerify grant.payload grant.signature = true →
    ∃ q request issued, w.Finished q request (.grant issued) ∧ issued.payload = grant.payload)
    ?_ ?_ p grant hp hv
  · intro p grant hp
    cases hp
  clear hp hv p grant
  intro v a _ hun ih p grant hp hv
  have hstep : (service cfg).Reaches v ((service cfg).step v a) := .step _ v a
  rw [System.step_request?] at hp
  cases hold : v.request? p with
  | some r =>
    rw [hold, Option.some_or] at hp
    obtain ⟨q, request, issued, hfin, hpay⟩ := ih p grant (hold.trans hp) hv
    exact ⟨q, request, issued, hstep.finished hfin, hpay⟩
  | none =>
    rw [hold, Option.none_or] at hp
    cases a with
    | spawn q r =>
      obtain rfl : r = .consumeExecutionGrant grant := by
        by_cases hq : q = p <;> simp_all [spawned?]
      obtain ⟨e, -, he⟩ := hun hv
      obtain ⟨response, hans, hpay⟩ := Option.bind_eq_some_iff.mp he
      obtain ⟨request, hfin⟩ := World.finished_of_answer? hans
      cases response with
      | grant issued => exact ⟨e.pid, request, issued, hstep.finished hfin, Option.some.inj hpay⟩
      | _ => cases hpay
    | exec q choice => cases hp
    | env move => cases hp

/-- One JTI stands for one set of claims. -/
theorem same_jti_same_claims
    (h : System.Along (service cfg) (Unforged cfg) (start clock canonical files) acts) {p p' : ℕ}
    {grant grant' : SignedExecutionGrant} {claims claims' : ExecutionGrantClaims}
    (hp : ((service cfg).run (start clock canonical files) acts).request? p =
      some (.consumeExecutionGrant grant))
    (hp' : ((service cfg).run (start clock canonical files) acts).request? p' =
      some (.consumeExecutionGrant grant'))
    (hv : cfg.verifyExecutionGrant grant = some claims)
    (hv' : cfg.verifyExecutionGrant grant' = some claims') (hjti : claims.jti = claims'.jti) :
    claims = claims' := by
  have hw := reachable_run cfg clock canonical files acts
  obtain ⟨hauth, hdecode⟩ := verifyExecutionGrant_eq_some hv
  obtain ⟨hauth', hdecode'⟩ := verifyExecutionGrant_eq_some hv'
  obtain ⟨q, request, issued, hfin, hpay⟩ := unforged_issued h hp hauth
  obtain ⟨q', request', issued', hfin', hpay'⟩ := unforged_issued h hp' hauth'
  obtain ⟨c, s, hc, he⟩ := hw.grant_issued hfin
  obtain ⟨c', s', hc', he'⟩ := hw.grant_issued hfin'
  -- Both payloads decode to the claims they were issued with.
  rw [← hpay, hc] at hdecode
  rw [← hpay', hc'] at hdecode'
  obtain rfl : c = claims := Option.some.inj hdecode
  obtain rfl : c' = claims' := Option.some.inj hdecode'
  have hcall := hw.draw_unique he he' rfl (congrArg some hjti.symm)
  obtain rfl : q = q' := congrArg LogEntry.pid hcall
  obtain ⟨-, hgrant⟩ : request = request' ∧ issued = issued' := by
    simpa using hfin.symm.trans hfin'
  rw [hgrant, hc'] at hc
  cases hc
  rfl

/-- The receipt of a handler repeats the grant it was given, whose device proof verified
under the key of the grant's own client and device. -/
def BoundToGrant (cfg : Config) (w : ServiceWorld) (pid : ℕ) (request : Request)
    (receipt : SignedExecutionAuthorizationReceipt) : Prop :=
  ∃ grant claims proof row now, request = .consumeExecutionGrant grant ∧
    cfg.verifyExecutionGrant grant = some claims ∧
    receipt.payload = .json (receiptOf claims now) ∧
    (∃ s, (⟨pid, s, .client claims.clientId, some (some row)⟩ : ServiceEntry) ∈ w.log) ∧
    row.clientId = claims.clientId ∧ row.deviceId = claims.deviceId ∧
    grant.deviceProof = some proof ∧ cfg.crypto.verifyClientSignature row.clientKeyAlgorithm
      row.devicePublicKey (.grantPayload grant.payload) proof = true

theorem Reachable.receipt_bound {w : ServiceWorld} (hw : Reachable cfg w) {pid : ℕ}
    {request : Request} {receipt : SignedExecutionAuthorizationReceipt}
    (h : w.Finished pid request (.receipt receipt)) : BoundToGrant cfg w pid request receipt := by
  cases hw.issued h with
  | receipt reading checked reserved =>
    obtain ⟨session, -, hclient, hdevice, -, row, hc, -, -, proof, hproof, hsig⟩ := checked.session
    rw [hclient, hdevice] at hc
    obtain ⟨s, he⟩ := answered_iff.mp hc.read
    exact ⟨_, _, proof, row, _, rfl, checked.verified, rfl, ⟨s, he⟩, hw.client_id hc.read, hc.bound,
      hproof, hsig⟩

/-- The handler of a receipt has got past the reservation of its grant's marker. -/
theorem Reachable.receipt_passed {w : ServiceWorld} (hw : Reachable cfg w) {pid : ℕ}
    {request : Request} {receipt : SignedExecutionAuthorizationReceipt}
    (h : w.Finished pid request (.receipt receipt)) {same : Request → Bool}
    (hsame : same request = true) : Passed same w pid := by
  cases hw.issued h with
  | receipt reading checked reserved =>
    obtain ⟨s, he⟩ := answered_iff.mp reserved
    refine ⟨_, he, rfl, ?_⟩
    simp [passes, World.request?_eq h, hsame, reservation?]

/-- A release makes no attempt on the nonce table. -/
theorem Reachable.release_consumes_nothing {w : ServiceWorld} (hw : Reachable cfg w) {pid : ℕ}
    {grant : SignedExecutionGrant} (h : w.request? pid = some (.releaseExecutionGrant grant))
    {e : ServiceEntry} (he : e ∈ w.log) (hpid : e.pid = pid) : attemptedAt? e = none := by
  obtain ⟨l, l', hl⟩ := List.append_of_mem he
  obtain ⟨t, ht, hguard⟩ := hw.guarded hl
  have hreq : t.request = .releaseExecutionGrant grant := by
    rw [hpid] at ht
    exact Option.some.inj ((World.request?_eq ht).symm.trans h)
  obtain ⟨pid', s, op, res⟩ := e
  cases op with
  | consumeNonce key now =>
    obtain ⟨_, stamp, -, -, hstamp, -⟩ := hguard
    rw [hreq] at hstamp
    cases hstamp
  | _ => rfl

end Unforged

def sampleGrantClaims : ExecutionGrantClaims :=
  ⟨"rdc-auth", "rdc-guest-runner", "client", "device", "session", "1", "qemu-guest-script",
    sampleSha256, "preset_apply", "vm", "instance", 1000, 1120, "grant-jti", "g"⟩

/-- The grant as the device sends it, with its proof. -/
def sampleGrant : SignedExecutionGrant :=
  { sampleConfig.signExecutionGrant sampleGrantClaims with deviceProof := some "proof" }

/-- A session is opened, and a grant is issued under it. -/
def grantRun : List ServiceAction :=
  sampleEnroll 0 "client" "device" ++ sampleEntitle 2 "account" ++
    serve 4 (.admin (.artifactPublish "qemu-guest-script" "1" "abi" "android" "script")) [""] ++
    serve 5 (.createSession (sampleSession "client" "device" "n" 1000))
      ["", "", "", "", "", "", "session", "jti", ""] ++
    serve 6 (.issueExecutionGrant (some "Bearer session") ⟨"qemu-guest-script", "", "preset_apply",
      "vm", "instance", "g", 1000, "signature"⟩)
      ["", "", "", "", "", "", "", "", "", "", "", "grant-jti"]

/-- The grant is consumed, and sent a second time. -/
def consumeRun : List ServiceAction :=
  grantRun ++ serve 7 (.consumeExecutionGrant sampleGrant) (List.replicate 10 "") ++
    serve 8 (.consumeExecutionGrant sampleGrant) (List.replicate 10 "")

/-- The second handler reads the clock 100 seconds after the first, and stalls until a
request with a reading 601 seconds after it has pruned the marker. -/
def stalledConsumeRun : List ServiceAction :=
  grantRun ++ serve 7 (.consumeExecutionGrant sampleGrant) (List.replicate 10 "") ++
    .env (.tick ⟨1100, by decide⟩) ::
    serve 8 (.consumeExecutionGrant sampleGrant) (List.replicate 9 "") ++
    .env (.tick sampleLapse) ::
    serve 9 (.createSession (sampleSession "client" "device" "m" 1601)) ["", "", ""] ++
    [.exec 8 (.run ⟨"", []⟩)]

end JustRun.Authorization
