import JustRun.Authorization.Service

/-!
# Every handler meets its specification

One lemma for each part that several handlers share, one for each handler, and
what follows for the logged calls and the responses of a run.
-/
namespace JustRun.Authorization
open Machine Relational Concurrency Concurrency.Prog

theorem answered_snoc (h : History) (call : Call) (v : call.Val) :
    Answered (h ++ [⟨call, some v⟩]) call v := by simp [Answered]

theorem grantClaimsValid_time {claims : ExecutionGrantClaims} {now : ℤ}
    (h : grantClaimsValid claims now = true) : validateRequestTime claims.iat now = true := by
  simp only [grantClaimsValid, Bool.not_eq_true', Bool.or_eq_false_iff] at h
  simp only [validateRequestTime, Bool.not_eq_true', Bool.or_eq_false_iff]
  exact ⟨h.1.1.2, h.1.2⟩

section Parts
variable {P : History → Call → Prop} {β : Type} {R : History → Except Failure β → Prop}
  {h : History}

-- Errors say nothing in this specification: every line may end the handler.
variable (he : ∀ h e, R h (.error e))

include he

theorem meets_ask {call : Call} {f : call.Val → Handler β} (hP : P h call)
    (hf : ∀ v, Answered (h ++ [⟨call, some v⟩]) call v → (f v).Meets P R (h ++ [⟨call, some v⟩])) :
    (ask call >>= f).Meets P R h :=
  (meets_perform_bind _ _ _).mpr ⟨hP, he _ _, fun v => hf v (answered_snoc h call v)⟩

theorem meets_askAdmin {call : Call} {f : call.Val → Handler β} (hP : P h call)
    (hf : ∀ v, (f v).Meets P R (h ++ [⟨call, some v⟩])) : (askAdmin call >>= f).Meets P R h :=
  (meets_perform_bind _ _ _).mpr ⟨hP, he _ _, hf⟩

theorem meets_rejectIf {c : Bool} {e : Failure} {f : Unit → Handler β}
    (hf : c = false → (f ()).Meets P R h) : (rejectIf c e >>= f).Meets P R h :=
  (meets_rejectIf_bind _ _ _).mpr ⟨fun _ => he _ _, hf⟩

theorem meets_orReject {α : Type} {o : Option α} {e : Failure} {f : α → Handler β}
    (hf : ∀ a, o = some a → (f a).Meets P R h) : (orReject o e >>= f).Meets P R h :=
  (meets_orReject_bind _ _ _).mpr ⟨fun _ => he _ _, hf⟩

theorem meets_ensureClientUsable {client : ClientRecord} {clientId deviceId : String}
    {f : Unit → Handler β} (hread : Answered h (.client clientId) (some client))
    (hf : ClientChecked h clientId deviceId client → (f ()).Meets P R h) :
    (ensureClientUsable client deviceId >>= f).Meets P R h := by
  simp only [ensureClientUsable, bind_assoc]
  refine meets_rejectIf he fun hr => meets_rejectIf he fun ha => meets_rejectIf he fun hd => ?_
  exact hf ⟨hread, by simpa using ha, hr, by simpa using hd⟩

theorem meets_requireEntitlements {accountId : String} {missing : Handler Unit}
    (capabilities : List ProtectedCapability) {f : Unit → Handler β}
    (hP : ∀ h a c, P h (.hasEntitlement a c))
    (hmissing : ∀ h', (missing >>= f).Meets P R h')
    (hf : ∀ l, EntitlementsChecked (h ++ l) accountId capabilities → Unregistered l →
      (f ()).Meets P R (h ++ l)) :
    (requireEntitlements accountId missing capabilities >>= f).Meets P R h := by
  induction capabilities generalizing h with
  | nil =>
    have hnil := hf [] (by simp [EntitlementsChecked]) unregistered_nil
    rw [List.append_nil] at hnil
    exact hnil
  | cons capability rest ih =>
    simp only [requireEntitlements, bind_assoc]
    refine meets_ask he (hP _ _ _) fun entitled hent => ?_
    cases entitled with
    | false => exact hmissing _
    | true =>
      refine ih fun l hrest hl => ?_
      rw [List.append_assoc] at hrest ⊢
      refine hf _ (fun c hc => ?_) (by simp [hl])
      rcases List.mem_cons.mp hc with rfl | hc
      · exact hent.mono (by simp)
      · exact hrest c hc

theorem meets_revokeAndReject {sessionId : String} {error : ApiError} {f : Unit → Handler β}
    (hP : ∀ h, P h (.revokeSession sessionId)) :
    (revokeAndReject sessionId error >>= f).Meets P R h := by
  simp only [revokeAndReject, bind_assoc]
  exact meets_ask he (hP h) fun _ _ => he _ _

end Parts

section Guarded
variable {cfg : Config} {request : Request} {β : Type} {R : History → Except Failure β → Prop}
  {h : History} (he : ∀ h e, R h (.error e)) (hreq : request.registers = false)

include he

theorem meets_safeArtifactPath {artifact : ArtifactRecord} {f : Path → Handler β}
    (hf : ∀ l path, Answered (h ++ l) (.canonicalize artifact.path) path → Unregistered l →
      (f path).Meets (Guard cfg request) R (h ++ l)) :
    (safeArtifactPath cfg artifact >>= f).Meets (Guard cfg request) R h := by
  simp only [safeArtifactPath, bind_assoc]
  refine meets_ask he trivial fun root _ => meets_ask he trivial fun path hpath =>
    meets_rejectIf he fun _ => ?_
  rw [List.append_assoc] at hpath ⊢
  exact hf _ path hpath (by simp)

include hreq

theorem meets_sessionFromHeaders {authorization : Option String} {now : ℤ}
    {f : SessionRecord → Handler β}
    (hf : ∀ l session, BearerChecked (h ++ l) authorization now session → Unregistered l →
      (f session).Meets (Guard cfg request) R (h ++ l)) :
    (sessionFromHeaders authorization now >>= f).Meets (Guard cfg request) R h := by
  simp only [sessionFromHeaders, bearerToken, bind_assoc]
  refine meets_orReject he fun value hvalue => meets_orReject he fun token htoken =>
    meets_ask he trivial fun row hsession => meets_orReject he fun session hrow =>
    meets_rejectIf he fun hrevoked => meets_rejectIf he fun hexp =>
    meets_ask he trivial fun crow hclient => meets_orReject he fun client hcrow => ?_
  subst hrow hcrow
  refine meets_ensureClientUsable he hclient fun hchecked => ?_
  refine meets_requireEntitlements he session.capabilities (fun _ _ _ => trivial)
    (fun _ => meets_revokeAndReject he fun _ => hreq) fun l hent hl => ?_
  have htok : authorization.bind (stripPrefix? "Bearer ") = some token := by
    rw [hvalue]
    exact (Option.filter_eq_some_iff.mp htoken).1
  have hbearer : BearerChecked _ authorization now session :=
    ⟨⟨token, htok, hsession.mono (by simp), hrevoked, by simpa using hexp⟩,
      client, hchecked.mono (by simp), hent⟩
  simp only [pure_bind, List.append_assoc] at hbearer ⊢
  exact hf _ session hbearer (by simp [hl])

theorem meets_validateExecutionGrantForArtifact {grant : SignedExecutionGrant} {now : ℤ}
    {f : ExecutionGrantClaims × ArtifactRecord × Path → Handler β}
    (hf : ∀ l claims artifact path, GrantChecked cfg (h ++ l) now grant claims →
      (f (claims, artifact, path)).Meets (Guard cfg request) R (h ++ l)) :
    (validateExecutionGrantForArtifact cfg grant now >>= f).Meets (Guard cfg request) R h := by
  simp only [validateExecutionGrantForArtifact, bind_assoc]
  refine meets_orReject he fun claims hverified => meets_rejectIf he fun hvalid =>
    meets_rejectIf he fun hworkflow => meets_ask he trivial fun row hsession =>
    meets_orReject he fun session hrow => meets_rejectIf he fun husable =>
    meets_ask he trivial fun crow hclient => meets_orReject he fun client hcrow => ?_
  subst hrow hcrow
  simp only [Bool.or_eq_false_iff, Bool.not_eq_eq_eq_not, Bool.not_false, decide_eq_false_iff_not,
    not_not, not_le] at husable
  obtain ⟨⟨⟨⟨hrevoked, hlive⟩, hclientId⟩, hdevice⟩, hmay⟩ := husable
  refine meets_ensureClientUsable he hclient fun hchecked => meets_orReject he fun proof hproof =>
    meets_rejectIf he fun hsig => meets_rejectIf he fun hversion => ?_
  refine meets_requireEntitlements he session.capabilities (fun _ _ _ => trivial)
    (fun _ => meets_revokeAndReject he fun _ => hreq) fun l hent _ => ?_
  refine meets_ask he trivial fun arow hart => meets_orReject he fun artifact harow => ?_
  subst harow
  refine meets_safeArtifactPath he fun l' path hpath _ => meets_ask he trivial fun hashed hhash =>
    meets_rejectIf he fun hsha => ?_
  obtain ⟨size, sha⟩ := hashed
  obtain rfl : sha = claims.artifactSha256 := by simpa using hsha
  have hgrant : GrantChecked cfg _ now grant claims := {
    verified := hverified
    valid := by simpa using hvalid
    workflow := by simpa using hworkflow
    session := ⟨session, ⟨hsession.mono (by simp), hrevoked, hlive⟩, hclientId, hdevice, hmay,
      client, hchecked.mono (by simp), by simpa using hversion, hent.mono (by simp), proof,
      (Option.filter_eq_some_iff.mp hproof).1, by simpa using hsig⟩
    artifact := ⟨artifact, path, size, hart.mono (by simp), hpath.mono (by simp), hhash⟩ }
  simp only [pure_bind, List.append_assoc] at hgrant ⊢
  exact hf _ claims artifact path hgrant

end Guarded

section Endpoints
variable (cfg : Config)

/-- Errors carry no outcome. -/
theorem outcome_error (request : Request) (h : History) (e : Failure) :
    Outcome cfg request h (.error e) := trivial

theorem registrationClientId_meets (request : RegisterRequest) {R : History → Except Failure Response → Prop}
    {h : History} (he : ∀ h e, R h (.error e)) {known : Option ClientRecord}
    (hknown : Answered h (.clientByDevice request.deviceId) known) {f : String → Handler Response}
    (hf : ∀ l clientId, RegistrationClient (h ++ l) request clientId →
      (∀ x ∈ l, x.1.setsChallenge = false) →
      (f clientId).Meets (Guard cfg (.register request)) R (h ++ l)) :
    (registrationClientId request known >>= f).Meets (Guard cfg (.register request)) R h := by
  cases known with
  | some client =>
    simp only [registrationClientId, bind_assoc]
    refine meets_rejectIf he fun hr => meets_rejectIf he fun hk => meets_rejectIf he fun ha => ?_
    have hclient : RegistrationClient h request client.clientId :=
      .inl ⟨client, hknown, hr, by simpa using hk, by simpa using ha, rfl⟩
    have hnil := hf [] client.clientId (by rwa [List.append_nil]) (by simp)
    rw [List.append_nil] at hnil
    exact hnil
  | none =>
    simp only [registrationClientId, bind_assoc]
    refine meets_ask he trivial fun clientId hid => ?_
    refine meets_ask he ⟨request, rfl, hid, rfl, rfl, rfl, rfl, rfl⟩ fun _ hcreated => ?_
    have hclient : RegistrationClient _ request clientId := .inr hcreated
    simp only [pure_bind, List.append_assoc] at hclient ⊢
    exact hf _ clientId hclient (by simp [Call.setsChallenge])

theorem register_meets (request : RegisterRequest) :
    (handler cfg (.register request)).Meets (Guard cfg (.register request))
      (Outcome cfg (.register request)) [] := by
  have he := outcome_error cfg (.register request)
  simp only [handler, registerClient, bind_assoc]
  refine meets_rejectIf he fun hfields => meets_rejectIf he fun _ => meets_ask he trivial
    fun t ht => meets_ask he trivial fun known hknown => ?_
  simp only [Bool.or_eq_false_iff] at hfields
  refine registrationClientId_meets cfg request he hknown fun l clientId hclient hl => ?_
  refine meets_ask he trivial fun challenge hchallenge => meets_ask he ?_ fun _ hset => ?_
  · refine ⟨request, t, rfl, ht.mono (by simp), hchallenge, rfl, hfields.1.1.2, rfl,
      hclient.mono (by simp), fun x hx => ?_⟩
    simp only [List.mem_append, List.mem_singleton, List.nil_append] at hx
    rcases hx with ((rfl | rfl) | hx) | rfl
    · rfl
    · rfl
    · exact hl x hx
    · rfl
  · exact .registered (ht.mono (by simp)) (hclient.mono (by simp)) hset

theorem completeRegistration_meets (request : CompleteRegistrationRequest) :
    (handler cfg (.completeRegistration request)).Meets (Guard cfg (.completeRegistration request))
      (Outcome cfg (.completeRegistration request)) [] := by
  have he := outcome_error cfg (.completeRegistration request)
  simp only [handler, completeRegistration, bind_assoc]
  refine meets_ask he trivial fun row hrow => meets_orReject he fun client hclient =>
    meets_ask he trivial fun t ht => meets_ask he trivial fun pending hpending =>
    meets_rejectIf he fun hsome => meets_rejectIf he fun hsig => ?_
  subst hclient
  obtain ⟨version, rfl⟩ := Option.isSome_iff_exists.mp (by simpa using hsome)
  have hchecked : RegistrationChecked cfg _ request t client :=
    ⟨ht.mono (by simp), hrow.mono (by simp), ⟨version, hpending⟩, by simpa using hsig⟩
  refine meets_ask he ⟨request, t, client, rfl, rfl, rfl, rfl, hchecked⟩ fun taken htaken =>
    meets_orReject he fun requested hrequested => ?_
  subst hrequested
  refine meets_ask he ?_ fun changed hupdated => ?_
  · exact ⟨request, t, client, requested, rfl, hchecked.mono (by simp), rfl, rfl, rfl, htaken, rfl,
      by simp [Call.updatesRegistration]⟩
  · exact .completed (hchecked.mono (by simp)) (htaken.mono (by simp)) hupdated

theorem createSession_meets (request : SessionRequest) :
    (handler cfg (.createSession request)).Meets (Guard cfg (.createSession request))
      (Outcome cfg (.createSession request)) [] := by
  have he := outcome_error cfg (.createSession request)
  simp only [handler, createSession, bind_assoc]
  refine meets_ask he trivial fun t ht => meets_rejectIf he fun hfields =>
    meets_ask he trivial fun row hrow => meets_orReject he fun client hclient => ?_
  subst hclient
  simp only [Bool.or_eq_false_iff, Bool.not_eq_eq_eq_not, Bool.not_false] at hfields
  have htime : validateRequestTime request.iat t.val = true := hfields.1.2
  refine meets_ensureClientUsable he hrow fun hchecked => meets_rejectIf he fun hversion =>
    meets_rejectIf he fun hsig => ?_
  refine meets_ask he ⟨t, ⟨request.nonce, request.iat⟩, rfl, ht.mono (by simp), rfl, rfl, htime⟩
    fun reserved hreserved => meets_rejectIf he fun hres => ?_
  obtain rfl : reserved = true := by simpa using hres
  refine meets_requireEntitlements he request.capabilities (fun _ _ _ => trivial)
    (fun _ => he _ _) fun l hent _ => ?_
  refine meets_ask he ⟨request, t, client, rfl, rfl, ht.mono (by simp), rfl, hchecked.mono (by simp)⟩
    fun _ hrevoked => meets_ask he trivial fun sessionId hsid => meets_ask he trivial
    fun jti hjti => meets_ask he ?_ fun _ hstored => ?_
  · exact ⟨request, t, rfl, ht.mono (by simp), hchecked.mono (by simp), rfl, rfl,
      hsid.mono (by simp), hjti, hrevoked.mono (by simp)⟩
  · exact .lease (ht.mono (by simp)) (hchecked.mono (by simp)) (by simpa using hversion)
      (by simpa using hsig) (hreserved.mono (by simp)) (hent.mono (by simp)) hstored

theorem capabilities_meets (authorization : Option String) :
    (handler cfg (.capabilities authorization)).Meets (Guard cfg (.capabilities authorization))
      (Outcome cfg (.capabilities authorization)) [] := by
  have he := outcome_error cfg (.capabilities authorization)
  simp only [handler, capabilities, bind_assoc]
  refine meets_ask he trivial fun t ht => meets_sessionFromHeaders he rfl fun l session hs _ => ?_
  exact .capabilities (ht.mono (by simp)) hs

theorem heartbeat_meets (sessionId : String) (request : HeartbeatRequest) :
    (handler cfg (.heartbeat sessionId request)).Meets (Guard cfg (.heartbeat sessionId request))
      (Outcome cfg (.heartbeat sessionId request)) [] := by
  have he := outcome_error cfg (.heartbeat sessionId request)
  simp only [handler, heartbeat, bind_assoc]
  refine meets_ask he trivial fun t ht => meets_ask he trivial fun row hrow =>
    meets_orReject he fun session hsession => meets_rejectIf he fun husable =>
    meets_rejectIf he fun hbinding => meets_rejectIf he fun hfields =>
    meets_ask he trivial fun crow hcrow => meets_orReject he fun client hclient => ?_
  subst hsession hclient
  simp only [Bool.or_eq_false_iff, Bool.not_eq_eq_eq_not, Bool.not_false, decide_eq_false_iff_not,
    not_not, not_le] at husable hbinding hfields
  refine meets_ensureClientUsable he hcrow fun hchecked => meets_rejectIf he fun hsig => ?_
  refine meets_ask he ⟨t, ⟨request.nonce, request.iat⟩, rfl, ht.mono (by simp), rfl, rfl, hfields.2⟩
    fun reserved hreserved => meets_rejectIf he fun hres => ?_
  obtain rfl : reserved = true := by simpa using hres
  have hrow' : SessionChecked _ sessionId t.val session := ⟨hrow, husable.1, husable.2⟩
  refine meets_requireEntitlements he session.capabilities (fun _ _ _ => trivial)
    (fun _ => meets_revokeAndReject he fun _ => rfl) fun l hent _ => ?_
  refine meets_ask he trivial fun jti hjti => meets_ask he ?_ fun refreshed hstored =>
    meets_rejectIf he fun href => ?_
  · exact ⟨request, t, session, rfl, ht.mono (by simp), hrow'.mono (by simp), rfl, rfl, hjti⟩
  · obtain rfl : refreshed = true := by simpa using href
    exact .renewal (ht.mono (by simp)) (hrow'.mono (by simp)) hbinding (hchecked.mono (by simp))
      (by simpa using hsig) (hreserved.mono (by simp)) (hent.mono (by simp)) hstored

theorem closeSession_meets (sessionId : String) (authorization : Option String) :
    (handler cfg (.closeSession sessionId authorization)).Meets
      (Guard cfg (.closeSession sessionId authorization))
      (Outcome cfg (.closeSession sessionId authorization)) [] := by
  have he := outcome_error cfg (.closeSession sessionId authorization)
  simp only [handler, closeSession, bind_assoc]
  refine meets_ask he trivial fun t ht => meets_sessionFromHeaders he rfl fun l session hs _ =>
    meets_rejectIf he fun hid => meets_ask he rfl fun _ _ => ?_
  exact .closed (ht.mono (by simp)) (hs.mono (by simp)) (by simpa using hid)

theorem issueExecutionGrant_meets (authorization : Option String)
    (request : ExecutionGrantRequest) :
    (handler cfg (.issueExecutionGrant authorization request)).Meets
      (Guard cfg (.issueExecutionGrant authorization request))
      (Outcome cfg (.issueExecutionGrant authorization request)) [] := by
  have he := outcome_error cfg (.issueExecutionGrant authorization request)
  simp only [handler, issueExecutionGrant, bind_assoc]
  refine meets_ask he trivial fun t ht => meets_sessionFromHeaders he rfl fun l session hs _ =>
    meets_rejectIf he fun hmay => meets_ask he trivial fun crow hcrow =>
    meets_orReject he fun client hclient => meets_rejectIf he fun hfields =>
    meets_rejectIf he fun hsig => meets_ask he trivial fun arow _ =>
    meets_orReject he fun artifact _ => meets_rejectIf he fun _ => ?_
  subst hclient
  simp only [Bool.or_eq_false_iff, Bool.not_eq_eq_eq_not, Bool.not_false] at hfields
  have htime : validateRequestTime request.iat t.val = true := hfields.1.2
  refine meets_safeArtifactPath he fun l' path _ _ => meets_ask he trivial fun hashed hhash =>
    meets_rejectIf he fun _ => ?_
  refine meets_ask he ⟨t, ⟨request.nonce, request.iat⟩, rfl, ht.mono (by simp), rfl, rfl, htime⟩
    fun reserved hreserved => meets_rejectIf he fun hres => meets_rejectIf he fun hexp =>
    meets_ask he trivial fun jti hjti => ?_
  obtain rfl : reserved = true := by simpa using hres
  obtain ⟨size, sha256⟩ := hashed
  exact .grant (ht.mono (by simp)) (hs.mono (by simp)) (by simpa using hmay) (hcrow.mono (by simp))
    (by simpa using hsig) (hhash.mono (by simp)) (hreserved.mono (by simp)) (by simpa using hexp)
    hjti

theorem releaseExecutionGrant_meets (grant : SignedExecutionGrant) :
    (handler cfg (.releaseExecutionGrant grant)).Meets (Guard cfg (.releaseExecutionGrant grant))
      (Outcome cfg (.releaseExecutionGrant grant)) [] := by
  have he := outcome_error cfg (.releaseExecutionGrant grant)
  simp only [handler, releaseExecutionGrant, bind_assoc]
  refine meets_ask he trivial fun t ht => meets_validateExecutionGrantForArtifact he rfl
    fun l claims artifact path hg => ?_
  refine meets_ask he trivial fun size _ => meets_rejectIf he fun _ => meets_ask he trivial
    fun content _ => meets_rejectIf he fun _ => ?_
  exact .release (ht.mono (by simp)) (hg.mono (by simp)) rfl

theorem consumeExecutionGrant_meets (grant : SignedExecutionGrant) :
    (handler cfg (.consumeExecutionGrant grant)).Meets (Guard cfg (.consumeExecutionGrant grant))
      (Outcome cfg (.consumeExecutionGrant grant)) [] := by
  have he := outcome_error cfg (.consumeExecutionGrant grant)
  simp only [handler, consumeExecutionGrant, bind_assoc]
  refine meets_ask he trivial fun t ht => meets_validateExecutionGrantForArtifact he rfl
    fun l claims artifact path hg => ?_
  have hstamp : (Request.consumeExecutionGrant grant).stamp? cfg =
      some ⟨grantReservation claims.jti, claims.iat⟩ := by
    simp [Request.stamp?, hg.verified]
  refine meets_ask he ⟨t, _, rfl, ht.mono (by simp), hstamp, rfl, ?_⟩ fun reserved hreserved =>
    meets_rejectIf he fun hres => ?_
  · exact grantClaimsValid_time hg.valid
  · obtain rfl : reserved = true := by simpa using hres
    exact .receipt (ht.mono (by simp)) (hg.mono (by simp)) hreserved

theorem prepareArtifact_meets (artifactId : String) (authorization : Option String)
    (request : ArtifactPrepareRequest) :
    (handler cfg (.prepareArtifact artifactId authorization request)).Meets
      (Guard cfg (.prepareArtifact artifactId authorization request))
      (Outcome cfg (.prepareArtifact artifactId authorization request)) [] := by
  have he := outcome_error cfg (.prepareArtifact artifactId authorization request)
  simp only [handler, prepareArtifact, bind_assoc]
  refine meets_ask he trivial fun t ht => meets_sessionFromHeaders he rfl fun l session hs hl =>
    meets_rejectIf he fun hdevice => meets_rejectIf he fun hcap => meets_rejectIf he fun _ =>
    meets_ask he trivial fun now hnow => meets_ask he trivial fun row _ =>
    meets_orReject he fun artifact _ => meets_rejectIf he fun _ => meets_ask he trivial
    fun keypair _ => meets_orReject he fun secret _ => ?_
  refine meets_safeArtifactPath he fun l' path _ hl' => meets_ask he trivial fun hashed hhash =>
    meets_rejectIf he fun hcount => meets_ask he trivial fun transferId hid => meets_ask he trivial
    fun noncePrefix _ => meets_ask he ?_ fun registered hregistered => meets_rejectIf he fun hroom => ?_
  · exact ⟨⟨now, rfl, hnow.mono (by simp)⟩, hid.mono (by simp), rfl, hhash.mono (by simp), rfl, rfl,
      by simpa using hcount, by simp [hl, hl']⟩
  · obtain rfl : registered = true := by simpa using hroom
    exact .manifest (ht.mono (by simp)) (hs.mono (by simp)) (by simpa using hdevice)
      (by simpa using hcap) (hnow.mono (by simp)) ⟨rfl, rfl⟩ rfl ⟨_, rfl, hregistered⟩

theorem artifactChunk_meets (artifactId transferId : String) (index : UInt32)
    (authorization : Option String) :
    (handler cfg (.artifactChunk artifactId transferId index authorization)).Meets
      (Guard cfg (.artifactChunk artifactId transferId index authorization))
      (Outcome cfg (.artifactChunk artifactId transferId index authorization)) [] := by
  have he := outcome_error cfg (.artifactChunk artifactId transferId index authorization)
  simp only [handler, artifactChunk, bind_assoc]
  refine meets_ask he trivial fun t ht => meets_sessionFromHeaders he rfl fun l session hs _ =>
    meets_ask he trivial fun found hfound => meets_orReject he fun transfer htransfer =>
    meets_rejectIf he fun hbinding => meets_rejectIf he fun hindex => meets_rejectIf he fun _ =>
    meets_ask he trivial fun plaintext hread => meets_orReject he fun key hkey =>
    meets_orReject he fun ciphertext hciphertext => ?_
  subst htransfer
  simp only [Bool.or_eq_false_iff, decide_eq_false_iff_not, not_not] at hbinding
  obtain ⟨⟨hartifact, hsession⟩, hdevice⟩ := hbinding
  exact .chunk (ht.mono (by simp)) (hs.mono (by simp)) (hfound.mono (by simp))
    ⟨hartifact, hsession, hdevice⟩ (by simpa using hindex) hread hkey hciphertext

theorem admin_meets (command : AdminCommand) :
    (handler cfg (.admin command)).Meets (Guard cfg (.admin command))
      (Outcome cfg (.admin command)) [] := by
  have he := outcome_error cfg (.admin command)
  cases command with
  | clientApproveForAccount clientId accountId =>
    simp only [handler, runAdmin, bind_assoc]
    exact meets_askAdmin he ⟨_, rfl⟩ fun _ => meets_rejectIf he fun _ => .done
  | clientApprove clientId =>
    simp only [handler, runAdmin, bind_assoc]
    exact meets_askAdmin he ⟨_, rfl⟩ fun _ => meets_rejectIf he fun _ => .done
  | clientRevoke clientId =>
    simp only [handler, runAdmin, bind_assoc]
    exact meets_askAdmin he ⟨_, rfl⟩ fun _ => meets_askAdmin he ⟨_, rfl⟩ fun _ =>
      meets_rejectIf he fun _ => .done
  | entitlementGrant accountId capability =>
    simp only [handler, runAdmin, bind_assoc]
    exact meets_askAdmin he ⟨_, rfl⟩ fun _ => .done
  | entitlementRevoke accountId capability =>
    simp only [handler, runAdmin, bind_assoc]
    exact meets_askAdmin he ⟨_, rfl⟩ fun _ => meets_rejectIf he fun _ => .done
  | artifactPublish artifactId version targetAbi targetAndroid path =>
    simp only [handler, runAdmin, bind_assoc]
    exact meets_askAdmin he ⟨_, rfl⟩ fun _ => .done

/-- Every handler makes its calls and gives its answers as specified. -/
theorem handler_meets (request : Request) :
    (handler cfg request).Meets (Guard cfg request) (Outcome cfg request) [] := by
  cases request with
  | register request => exact register_meets cfg request
  | completeRegistration request => exact completeRegistration_meets cfg request
  | createSession request => exact createSession_meets cfg request
  | capabilities authorization => exact capabilities_meets cfg authorization
  | heartbeat sessionId request => exact heartbeat_meets cfg sessionId request
  | closeSession sessionId authorization => exact closeSession_meets cfg sessionId authorization
  | issueExecutionGrant authorization request =>
    exact issueExecutionGrant_meets cfg authorization request
  | releaseExecutionGrant grant => exact releaseExecutionGrant_meets cfg grant
  | consumeExecutionGrant grant => exact consumeExecutionGrant_meets cfg grant
  | prepareArtifact artifactId authorization request =>
    exact prepareArtifact_meets cfg artifactId authorization request
  | artifactChunk artifactId transferId index authorization =>
    exact artifactChunk_meets cfg artifactId transferId index authorization
  | admin command => exact admin_meets cfg command

end Endpoints
end JustRun.Authorization
