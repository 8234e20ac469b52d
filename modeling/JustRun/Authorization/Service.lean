import JustRun.Authorization.Routes

/-!
# The service as a system, and what its handlers establish

The step relation of the service, and the specification of every handler
against the answers it has received: what holds when it makes a call that
writes, and what a successful response says.
-/
namespace JustRun.Authorization
open Machine Relational Concurrency Concurrency.Prog

/-- The clock moves forward; the artifact files may change at any time. -/
inductive Env where
  | tick (reading : Reading)
  | writeFile (path : Path) (content : Option (List UInt8))
  | link (path : String) (target : Option Path)

def State.move (s : State) : Env → State
  | .tick reading => if s.clock.val ≤ reading.val then { s with clock := reading } else s
  | .writeFile path content => { s with files := Function.update s.files path content }
  | .link path target => { s with canonical := Function.update s.canonical path target }

abbrev Result (call : Call) : Type := Option call.Val

def service (cfg : Config) :
    System State Request Call Result Failure Response Choice Env where
  handler := handler cfg
  exec choice s call := s.exec cfg choice call
  env move s := s.move move

abbrev ServiceWorld := World State Request Call Result Failure Response

abbrev ServiceAction := Action Request Choice Env

def start (clock : Reading) (canonical : String → Option Path)
    (files : Path → Option (List UInt8)) : ServiceWorld := .init (.initial clock canonical files)

/-- Some run from a fresh database leads to `w`. -/
def Reachable (cfg : Config) (w : ServiceWorld) : Prop :=
  ∃ clock canonical files, (service cfg).Reaches (start clock canonical files) w

/-- What one action does to the service. -/
theorem service_step_cases (cfg : Config) (w : ServiceWorld) (a : ServiceAction) :
    (service cfg).step w a = w ∨
    (∃ pid request, a = .spawn pid request ∧ w.threads pid = none ∧ (service cfg).step w a =
      { w with threads := Function.update w.threads pid (some ⟨request, handler cfg request⟩) }) ∨
    (∃ pid choice request call next r s, a = .exec pid choice ∧
      w.threads pid = some ⟨request, .call call next⟩ ∧
      w.state.exec cfg choice call = some (r, s) ∧
      (service cfg).step w a = w.afterCall pid request call next r s) ∨
    ∃ move, a = .env move ∧ (service cfg).step w a = { w with state := w.state.move move } :=
  (service cfg).step_cases w a

abbrev History := List (Entry Call Result)

/-- One of the calls in the history was answered `v`. -/
def Answered (h : History) (call : Call) (v : call.Val) : Prop :=
  (⟨call, some v⟩ : Entry Call Result) ∈ h

theorem Answered.mono {h h' : History} {call : Call} {v : call.Val} (ha : Answered h call v)
    (hh : h <+: h') : Answered h' call v := hh.subset ha

/-- The key under which a request reserves itself, and the time it was signed for. -/
structure Stamp where
  key : String
  iat : ℤ
  deriving DecidableEq

def Request.stamp? (cfg : Config) : Request → Option Stamp
  | .createSession request => some ⟨request.nonce, request.iat⟩
  | .heartbeat _ request => some ⟨request.nonce, request.iat⟩
  | .issueExecutionGrant _ request => some ⟨request.nonce, request.iat⟩
  | .consumeExecutionGrant grant =>
    (cfg.verifyExecutionGrant grant).map (fun claims => ⟨grantReservation claims.jti, claims.iat⟩)
  | _ => none

/-- A client row was read and found usable for the device. -/
structure ClientChecked (h : History) (clientId deviceId : String) (client : ClientRecord) :
    Prop where
  read : Answered h (.client clientId) (some client)
  approved : client.approved = true
  unrevoked : client.revoked = false
  bound : client.deviceId = deviceId

/-- Every capability was found entitled to the account. -/
def EntitlementsChecked (h : History) (accountId : String)
    (capabilities : List ProtectedCapability) : Prop :=
  ∀ capability ∈ capabilities, Answered h (.hasEntitlement accountId capability) true

/-- A session row was read and found usable at `now`. -/
structure SessionChecked (h : History) (token : String) (now : ℤ) (session : SessionRecord) :
    Prop where
  read : Answered h (.session token) (some session)
  unrevoked : session.revoked = false
  live : now < session.exp

theorem ClientChecked.mono {h h' : History} {clientId deviceId : String} {client : ClientRecord}
    (hc : ClientChecked h clientId deviceId client) (hh : h <+: h') :
    ClientChecked h' clientId deviceId client :=
  { hc with read := hc.read.mono hh }

theorem EntitlementsChecked.mono {h h' : History} {accountId : String}
    {capabilities : List ProtectedCapability} (hc : EntitlementsChecked h accountId capabilities)
    (hh : h <+: h') : EntitlementsChecked h' accountId capabilities :=
  fun capability hm => (hc capability hm).mono hh

theorem SessionChecked.mono {h h' : History} {token : String} {now : ℤ} {session : SessionRecord}
    (hc : SessionChecked h token now session) (hh : h <+: h') :
    SessionChecked h' token now session :=
  { hc with read := hc.read.mono hh }

/-- What `session_from_headers` has checked before it answers `session`. -/
structure BearerChecked (h : History) (authorization : Option String) (now : ℤ)
    (session : SessionRecord) : Prop where
  row : ∃ token, authorization.bind (stripPrefix? "Bearer ") = some token ∧
    SessionChecked h token now session
  client : ∃ client, ClientChecked h session.clientId session.deviceId client ∧
    EntitlementsChecked h client.accountId session.capabilities

/-- What `validate_execution_grant_for_artifact` has checked. -/
structure GrantChecked (cfg : Config) (h : History) (now : ℤ) (grant : SignedExecutionGrant)
    (claims : ExecutionGrantClaims) : Prop where
  verified : cfg.verifyExecutionGrant grant = some claims
  valid : grantClaimsValid claims now = true
  workflow : artifactAllowsExecutionAction claims.artifactId claims.action = true
  session : ∃ session, SessionChecked h claims.sessionId now session ∧
    session.clientId = claims.clientId ∧ session.deviceId = claims.deviceId ∧
    mayExecute session = true ∧
    ∃ client, ClientChecked h session.clientId session.deviceId client ∧
      client.clientVersion = claims.clientVersion ∧
      EntitlementsChecked h client.accountId session.capabilities ∧
      ∃ proof, grant.deviceProof = some proof ∧ cfg.crypto.verifyClientSignature
        client.clientKeyAlgorithm client.devicePublicKey (.grantPayload grant.payload) proof = true
  artifact : ∃ artifact path size, Answered h (.artifact claims.artifactId) (some artifact) ∧
    Answered h (.canonicalize artifact.path) path ∧
    Answered h (.sha256File path) (size, claims.artifactSha256)

theorem BearerChecked.mono {h h' : History} {authorization : Option String} {now : ℤ}
    {session : SessionRecord} (hc : BearerChecked h authorization now session) (hh : h <+: h') :
    BearerChecked h' authorization now session := by
  obtain ⟨token, ht, hs⟩ := hc.row
  obtain ⟨client, hc, he⟩ := hc.client
  exact ⟨⟨token, ht, hs.mono hh⟩, client, hc.mono hh, he.mono hh⟩

theorem GrantChecked.mono {cfg : Config} {h h' : History} {now : ℤ} {grant : SignedExecutionGrant}
    {claims : ExecutionGrantClaims} (hg : GrantChecked cfg h now grant claims) (hh : h <+: h') :
    GrantChecked cfg h' now grant claims := by
  obtain ⟨session, hs, hcl, hd, hm, client, hc, hv, he, hp⟩ := hg.session
  obtain ⟨artifact, path, size, ha, hcan, hsha⟩ := hg.artifact
  exact { hg with
    session := ⟨session, hs.mono hh, hcl, hd, hm, client, hc.mono hh, hv, he.mono hh, hp⟩
    artifact := ⟨artifact, path, size, ha.mono hh, hcan.mono hh, hsha.mono hh⟩ }

/-- The client a registration is for: the known one with this very key, or the one created. -/
def RegistrationClient (h : History) (request : RegisterRequest) (clientId : String) : Prop :=
  (∃ client, Answered h (.clientByDevice request.deviceId) (some client) ∧
    client.revoked = false ∧ client.devicePublicKey = request.devicePublicKey ∧
    client.clientKeyAlgorithm = request.clientKeyAlgorithm ∧ clientId = client.clientId) ∨
  Answered h (.createPendingClient clientId ("pending:" ++ clientId) request.deviceId
    request.devicePublicKey request.clientKeyAlgorithm request.clientVersion) ()

/-- What `complete_registration` has checked before it takes the challenge. -/
structure RegistrationChecked (cfg : Config) (h : History) (request : CompleteRegistrationRequest)
    (t : Reading) (client : ClientRecord) : Prop where
  reading : Answered h .now t
  read : Answered h (.client request.clientId) (some client)
  pending : ∃ version,
    Answered h (.registrationChallenge request.clientId request.challenge t.val) (some version)
  signature : cfg.crypto.verifyClientSignature client.clientKeyAlgorithm client.devicePublicKey
    (.registration ⟨request.clientId, request.challenge⟩) request.signature = true

theorem RegistrationClient.mono {h h' : History} {request : RegisterRequest} {clientId : String}
    (hc : RegistrationClient h request clientId) (hh : h <+: h') :
    RegistrationClient h' request clientId := by
  rcases hc with ⟨client, hr, hc⟩ | hc
  · exact .inl ⟨client, hr.mono hh, hc⟩
  · exact .inr (hc.mono hh)

theorem RegistrationChecked.mono {cfg : Config} {h h' : History}
    {request : CompleteRegistrationRequest} {t : Reading} {client : ClientRecord}
    (hc : RegistrationChecked cfg h request t client) (hh : h <+: h') :
    RegistrationChecked cfg h' request t client := by
  obtain ⟨version, hp⟩ := hc.pending
  exact ⟨hc.reading.mono hh, hc.read.mono hh, ⟨version, hp.mono hh⟩, hc.signature⟩

def Call.setsChallenge : Call → Bool
  | setRegistrationChallenge .. => true
  | _ => false

def Call.updatesRegistration : Call → Bool
  | updateClientRegistration .. => true
  | _ => false

@[simp] def Call.registersTransfer : Call → Bool
  | registerTransfer .. => true
  | _ => false

/-- No transfer has been registered. -/
def Unregistered (h : History) : Prop := ∀ x ∈ h, x.1.registersTransfer = false

@[simp] theorem unregistered_nil : Unregistered [] := fun _ hx => absurd hx List.not_mem_nil

@[simp] theorem unregistered_cons (x : Entry Call Result) (h : History) :
    Unregistered (x :: h) ↔ x.1.registersTransfer = false ∧ Unregistered h := List.forall_mem_cons

@[simp] theorem unregistered_append (h h' : History) :
    Unregistered (h ++ h') ↔ Unregistered h ∧ Unregistered h' := List.forall_mem_append

/-- Where a chunk of the artifact starts. -/
def ArtifactManifest.chunkOffset (manifest : ArtifactManifest) (index : ℕ) : ℕ :=
  index * manifest.chunkSizeBytes

/-- How many bytes of the artifact a chunk has. -/
def ArtifactManifest.chunkLength (manifest : ArtifactManifest) (index : ℕ) : ℕ :=
  min (manifest.sizeBytes - manifest.chunkOffset index) manifest.chunkSizeBytes

/-- The transfer that `prepare_artifact` registers: under a fresh id, with the size and the
hash of the file it will be read from. -/
structure TransferPrepared (h : History) (transferId : String) (transfer : ArtifactTransfer) :
    Prop where
  drawn : Answered h .uuid transferId
  named : transfer.manifest.transferId = transferId
  hashed : Answered h (.sha256File transfer.path) (transfer.manifest.sizeBytes, transfer.manifest.sha256)
  chunkSize : transfer.manifest.chunkSizeBytes = artifactChunkSize
  chunkCount : transfer.manifest.chunkCount =
    (transfer.manifest.sizeBytes + (artifactChunkSize - 1)) / artifactChunkSize
  countable : transfer.manifest.chunkCount ≤ u32Max
  first : Unregistered h

/-- The two endpoints of a registration. -/
def Request.registers : Request → Bool
  | .register _ | .completeRegistration _ => true
  | _ => false

/-- What a handler has established when it makes a call that writes. -/
def Guard (cfg : Config) (request : Request) (h : History) : Call → Prop
  | .consumeNonce key now => ∃ (t : Reading) (stamp : Stamp), now = t.val ∧ Answered h .now t ∧
      request.stamp? cfg = some stamp ∧ stamp.key = key ∧ validateRequestTime stamp.iat t.val = true
  | .createSession sessionId client capabilities jti exp => ∃ (req : SessionRequest) (t : Reading),
      request = .createSession req ∧ Answered h .now t ∧
      ClientChecked h req.clientId req.deviceId client ∧ capabilities = req.capabilities ∧
      exp = saturatingAdd t.val leaseMaxSecs ∧ Answered h .uuid sessionId ∧ Answered h .uuid jti ∧
      Answered h (.revokeActiveSessionsForClient client.clientId t.val) ()
  | .revokeActiveSessionsForClient clientId now => ∃ (req : SessionRequest) (t : Reading) (client : _),
      request = .createSession req ∧ now = t.val ∧ Answered h .now t ∧
      clientId = client.clientId ∧ ClientChecked h req.clientId req.deviceId client
  | .refreshSession sessionId capabilities jti exp => ∃ (req : HeartbeatRequest) (t : Reading)
      (session : SessionRecord), request = .heartbeat sessionId req ∧ Answered h .now t ∧
      SessionChecked h sessionId t.val session ∧ capabilities = session.capabilities ∧
      exp = saturatingAdd t.val leaseMaxSecs ∧ Answered h .uuid jti
  | .revokeSession _ => request.registers = false
  | .createPendingClient clientId accountId deviceId devicePublicKey algorithm version =>
    ∃ req : RegisterRequest, request = .register req ∧ Answered h .uuid clientId ∧
      accountId = "pending:" ++ clientId ∧ deviceId = req.deviceId ∧
      devicePublicKey = req.devicePublicKey ∧ algorithm = req.clientKeyAlgorithm ∧
      version = req.clientVersion
  | .setRegistrationChallenge clientId challenge version expiresAt =>
    ∃ (req : RegisterRequest) (t : Reading), request = .register req ∧ Answered h .now t ∧
      Answered h .randomNonce challenge ∧ version = req.clientVersion ∧
      isBlank req.clientVersion = false ∧ expiresAt = saturatingAdd t.val challengeTtlSecs ∧
      RegistrationClient h req clientId ∧ ∀ x ∈ h, x.1.setsChallenge = false
  | .takeRegistrationChallenge clientId challenge now =>
    ∃ (req : CompleteRegistrationRequest) (t : Reading) (client : ClientRecord),
      request = .completeRegistration req ∧ clientId = req.clientId ∧ challenge = req.challenge ∧
      now = t.val ∧ RegistrationChecked cfg h req t client
  | .updateClientRegistration clientId devicePublicKey algorithm version =>
    ∃ (req : CompleteRegistrationRequest) (t : Reading) (client : ClientRecord) (requested : String),
      request = .completeRegistration req ∧ RegistrationChecked cfg h req t client ∧
      clientId = client.clientId ∧ devicePublicKey = client.devicePublicKey ∧
      algorithm = client.clientKeyAlgorithm ∧
      Answered h (.takeRegistrationChallenge req.clientId req.challenge t.val) (some requested) ∧
      version = (if isBlank requested then client.clientVersion else requested) ∧
      ∀ x ∈ h, x.1.updatesRegistration = false
  | .approveClient .. | .approveClientForAccount .. | .revokeClientRow .. | .revokeClientSessions ..
  | .grantEntitlement .. | .revokeEntitlement .. | .publishArtifact .. =>
    ∃ command, request = .admin command
  | .registerTransfer now transferId transfer =>
    (∃ t : Reading, now = t.val ∧ Answered h .now t) ∧ TransferPrepared h transferId transfer
  | _ => True

/-- What a successful response says about the calls of its handler. -/
inductive Issued (cfg : Config) (h : History) : Request → Response → Prop
  | registered {request : RegisterRequest} {t : Reading} {clientId challenge : String}
      (reading : Answered h .now t) (client : RegistrationClient h request clientId)
      (stored : Answered h (.setRegistrationChallenge clientId challenge request.clientVersion
        (saturatingAdd t.val challengeTtlSecs)) ()) :
      Issued cfg h (.register request)
        (.registered ⟨clientId, request.deviceId, challenge, cfg.keyId, "pending"⟩)
  | completed {request : CompleteRegistrationRequest} {t : Reading} {client : ClientRecord}
      {requested : String} {changed : Bool} (checked : RegistrationChecked cfg h request t client)
      (taken : Answered h (.takeRegistrationChallenge request.clientId request.challenge t.val)
        (some requested))
      (updated : Answered h (.updateClientRegistration client.clientId client.devicePublicKey
        client.clientKeyAlgorithm (if isBlank requested then client.clientVersion else requested))
        changed) :
      Issued cfg h (.completeRegistration request) (.completed ⟨client.clientId, client.deviceId,
        if client.approved then "approved" else "pending"⟩)
  | lease {request : SessionRequest} {t : Reading} {client : ClientRecord} {sessionId jti : String}
      (reading : Answered h .now t)
      (checked : ClientChecked h request.clientId request.deviceId client)
      (version : client.clientVersion = request.clientVersion)
      (signature : cfg.crypto.verifyClientSignature client.clientKeyAlgorithm
        client.devicePublicKey (.session ⟨request.clientId, request.deviceId, request.clientVersion,
          request.nonce, request.iat, request.capabilities⟩) request.signature = true)
      (reserved : Answered h (.consumeNonce request.nonce t.val) true)
      (entitled : EntitlementsChecked h client.accountId request.capabilities)
      (stored : Answered h (.createSession sessionId client request.capabilities jti
        (saturatingAdd t.val leaseMaxSecs)) ()) :
      Issued cfg h (.createSession request) (.session ⟨makeLease cfg client sessionId
        request.capabilities request.nonce jti t.val (saturatingAdd t.val leaseMaxSecs), t.val⟩)
  | renewal {sessionId : String} {request : HeartbeatRequest} {t : Reading} {client : ClientRecord}
      {session : SessionRecord} {jti : String} (reading : Answered h .now t)
      (row : SessionChecked h sessionId t.val session)
      (binding : session.clientId = request.clientId ∧ session.deviceId = request.deviceId)
      (checked : ClientChecked h session.clientId request.deviceId client)
      (signature : cfg.crypto.verifyClientSignature client.clientKeyAlgorithm
        client.devicePublicKey (.heartbeat ⟨sessionId, request.clientId, request.deviceId,
          request.nonce, request.iat⟩) request.signature = true)
      (reserved : Answered h (.consumeNonce request.nonce t.val) true)
      (entitled : EntitlementsChecked h client.accountId session.capabilities)
      (stored : Answered h (.refreshSession sessionId session.capabilities jti
        (saturatingAdd t.val leaseMaxSecs)) true) :
      Issued cfg h (.heartbeat sessionId request) (.session ⟨makeLease cfg client sessionId
        session.capabilities request.nonce jti t.val (saturatingAdd t.val leaseMaxSecs), t.val⟩)
  | capabilities {authorization : Option String} {t : Reading} {session : SessionRecord}
      (reading : Answered h .now t) (checked : BearerChecked h authorization t.val session) :
      Issued cfg h (.capabilities authorization)
        (.capabilities ⟨session.sessionId, session.capabilities, session.exp⟩)
  | closed {sessionId : String} {authorization : Option String} {t : Reading}
      {session : SessionRecord} (reading : Answered h .now t)
      (checked : BearerChecked h authorization t.val session)
      (binding : session.sessionId = sessionId) :
      Issued cfg h (.closeSession sessionId authorization) .noContent
  | grant {authorization : Option String} {request : ExecutionGrantRequest} {t : Reading}
      {session : SessionRecord} {client : ClientRecord} {size : ℕ} {sha256 : String} {path : Path}
      {jti : String} (reading : Answered h .now t)
      (checked : BearerChecked h authorization t.val session)
      (capable : mayExecute session = true)
      (client_read : Answered h (.client session.clientId) (some client))
      (signature : cfg.crypto.verifyClientSignature client.clientKeyAlgorithm
        client.devicePublicKey (.executionGrant ⟨request.artifactId, request.artifactSha256,
          request.action, request.vm, request.instance_, request.nonce, request.iat⟩)
        request.signature = true)
      (hashed : Answered h (.sha256File path) (size, sha256))
      (reserved : Answered h (.consumeNonce request.nonce t.val) true)
      (alive : t.val < min session.exp (saturatingAdd t.val executionGrantTtlSecs))
      (drawn : Answered h .uuid jti) :
      Issued cfg h (.issueExecutionGrant authorization request) (.grant (cfg.signExecutionGrant
        { iss := "rdc-auth", aud := "rdc-guest-runner", clientId := client.clientId,
          deviceId := session.deviceId, sessionId := session.sessionId,
          clientVersion := client.clientVersion, artifactId := request.artifactId,
          artifactSha256 := sha256, action := request.action, vm := request.vm,
          instance_ := request.instance_, iat := t.val,
          exp := min session.exp (saturatingAdd t.val executionGrantTtlSecs), jti,
          nonce := request.nonce }))
  | release {grant : SignedExecutionGrant} {t : Reading} {claims : ExecutionGrantClaims}
      {response : ArtifactReleaseResponse} (reading : Answered h .now t)
      (checked : GrantChecked cfg h t.val grant claims)
      (content : response.artifactSha256 = claims.artifactSha256) :
      Issued cfg h (.releaseExecutionGrant grant) (.release response)
  | receipt {grant : SignedExecutionGrant} {t : Reading} {claims : ExecutionGrantClaims}
      (reading : Answered h .now t) (checked : GrantChecked cfg h t.val grant claims)
      (reserved : Answered h (.consumeNonce (grantReservation claims.jti) t.val) true) :
      Issued cfg h (.consumeExecutionGrant grant)
        (.receipt (cfg.signExecutionAuthorizationReceipt (receiptOf claims t.val)))
  | manifest {artifactId : String} {authorization : Option String}
      {request : ArtifactPrepareRequest} {checked now : Reading} {session : SessionRecord}
      {manifest : ArtifactManifest} (reading : Answered h .now checked)
      (bearer : BearerChecked h authorization checked.val session)
      (binding : session.deviceId = request.deviceId)
      (capable : session.capabilities.contains .protectedArtifact = true)
      (second : Answered h .now now)
      (named : manifest.sessionId = session.sessionId ∧ manifest.deviceId = session.deviceId)
      (expires : manifest.expiresAt = min session.exp (saturatingAdd now.val artifactTtlSecs))
      (registered : ∃ transfer : ArtifactTransfer, transfer.manifest = manifest ∧
        Answered h (.registerTransfer now.val manifest.transferId transfer) true) :
      Issued cfg h (.prepareArtifact artifactId authorization request)
        (.manifest (cfg.signManifest manifest))
  | chunk {artifactId transferId : String} {index : UInt32} {authorization : Option String}
      {t : Reading} {session : SessionRecord} {transfer : ArtifactTransfer}
      {plaintext key ciphertext : List UInt8} (reading : Answered h .now t)
      (checked : BearerChecked h authorization t.val session)
      (found : Answered h (.lookupTransfer t.val transferId) (some transfer))
      (binding : transfer.artifactId = artifactId ∧ transfer.sessionId = session.sessionId ∧
        transfer.deviceId = session.deviceId)
      (inRange : index.toNat < transfer.manifest.chunkCount)
      (read : Answered h (.readChunk transfer.path (transfer.manifest.chunkOffset index.toNat)
        (transfer.manifest.chunkLength index.toNat)) plaintext)
      (derived : cfg.crypto.deriveArtifactKey transfer.sharedSecret transfer.manifest = some key)
      (encrypted : cfg.crypto.encryptArtifactChunk key transfer.manifest index plaintext =
        some ciphertext) :
      Issued cfg h (.artifactChunk artifactId transferId index authorization)
        (.chunk ⟨index, cfg.crypto.base64Encode ciphertext⟩)
  | done {command : AdminCommand} {message : String} :
      Issued cfg h (.admin command) (.done message)

def Outcome (cfg : Config) (request : Request) (h : History) : Except Failure Response → Prop
  | .ok response => Issued cfg h request response
  | .error _ => True

end JustRun.Authorization
