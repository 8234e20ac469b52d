import JustRun.Authorization.Calls

/-!
# The handlers of the authorization service

`routes.rs`, one program per endpoint, and the commands of `rdc-auth-admin`,
which work on the same database from a process of their own. Every line of a
handler that may answer early is a `rejectIf`, an `orReject` or a call.
-/
namespace JustRun.Authorization
open Machine Concurrency Concurrency.Prog

def challengeTtlSecs : ℤ := 5 * 60

def artifactTtlSecs : ℤ := 5 * 60

def executionGrantTtlSecs : ℤ := 2 * 60

def maxExecutionReleaseBytes : ℕ := 512 * 1024

structure ApiError where
  status : ℕ
  code : String
  message : String
  deriving DecidableEq

namespace ApiError

def badRequest (message : String) : ApiError := ⟨400, "bad_request", message⟩

def unauthorized (message : String) : ApiError := ⟨401, "unauthorized", message⟩

def forbidden (code message : String) : ApiError := ⟨403, code, message⟩

def notFound (message : String) : ApiError := ⟨404, "not_found", message⟩

def conflict (message : String) : ApiError := ⟨409, "replay", message⟩

def payloadTooLarge (code message : String) : ApiError := ⟨413, code, message⟩

def serviceUnavailable (code message : String) : ApiError := ⟨503, code, message⟩

def internal : ApiError := ⟨500, "internal_error", "authorization service failed"⟩

end ApiError

/-- An error response, or an error of the administration tool. -/
inductive Failure where
  | api (error : ApiError)
  | admin (message : String)
  deriving DecidableEq

abbrev Handler := Prog Call (fun call => Option call.Val) Failure

/-- A call of the service: its failure is the internal error. -/
def ask (call : Call) : Handler call.Val := perform (.api .internal) call

def reject (error : ApiError) : Failure := .api error

structure RegisterRequest where
  installId : String
  deviceId : String
  clientVersion : String
  platform : String
  devicePublicKey : String
  clientKeyAlgorithm : ClientKeyAlgorithm
  requestedProduct : String
  deriving DecidableEq

structure RegisterResponse where
  clientId : String
  deviceId : String
  challenge : String
  keyId : String
  status : String
  deriving DecidableEq

/-- The client of the device: the registered one with this very key, or a new pending one. -/
def registrationClientId (request : RegisterRequest) : Option ClientRecord → Handler String
  | some client => do
    rejectIf client.revoked (reject (.forbidden "revoked" "client has been revoked"))
    rejectIf (client.devicePublicKey ≠ request.devicePublicKey) (reject (.forbidden
      "binding_mismatch" "device key is already registered to another identity"))
    rejectIf (client.clientKeyAlgorithm ≠ request.clientKeyAlgorithm) (reject (.forbidden
      "binding_mismatch" "device key algorithm is already registered to another identity"))
    pure client.clientId
  | none => do
    let clientId ← ask .uuid
    ask (.createPendingClient clientId ("pending:" ++ clientId) request.deviceId
      request.devicePublicKey request.clientKeyAlgorithm request.clientVersion)
    pure clientId

def registerClient (cfg : Config) (request : RegisterRequest) : Handler RegisterResponse := do
  rejectIf (isBlank request.installId || isBlank request.deviceId ||
      isBlank request.clientVersion || isBlank request.platform || isBlank request.requestedProduct)
    (reject (.badRequest "registration fields are required"))
  rejectIf (!cfg.crypto.validatePublicKeyBase64url request.clientKeyAlgorithm
      request.devicePublicKey)
    (reject (.badRequest "device public key is invalid"))
  let now ← ask .now
  let known ← ask (.clientByDevice request.deviceId)
  let clientId ← registrationClientId request known
  let challenge ← ask .randomNonce
  ask (.setRegistrationChallenge clientId challenge request.clientVersion
    (saturatingAdd now.val challengeTtlSecs))
  pure { clientId, deviceId := request.deviceId, challenge, keyId := cfg.keyId, status := "pending" }

structure CompleteRegistrationRequest where
  clientId : String
  challenge : String
  signature : String
  deriving DecidableEq

structure CompleteRegistrationResponse where
  clientId : String
  deviceId : String
  status : String
  deriving DecidableEq

def completeRegistration (cfg : Config) (request : CompleteRegistrationRequest) :
    Handler CompleteRegistrationResponse := do
  let row ← ask (.client request.clientId)
  let client ← orReject row (reject (.unauthorized "registration client is unknown"))
  let now ← ask .now
  let pending ← ask (.registrationChallenge request.clientId request.challenge now.val)
  rejectIf pending.isNone (reject (.unauthorized "registration challenge is invalid"))
  rejectIf (!cfg.crypto.verifyClientSignature client.clientKeyAlgorithm client.devicePublicKey
      (.registration ⟨request.clientId, request.challenge⟩) request.signature)
    (reject (.unauthorized "registration signature is invalid"))
  let taken ← ask (.takeRegistrationChallenge request.clientId request.challenge now.val)
  let requested ← orReject taken (reject (.unauthorized "registration challenge is invalid"))
  let version := if isBlank requested then client.clientVersion else requested
  let _ ← ask (.updateClientRegistration client.clientId client.devicePublicKey
    client.clientKeyAlgorithm version)
  pure { clientId := client.clientId, deviceId := client.deviceId,
         status := if client.approved then "approved" else "pending" }

structure SessionRequest where
  clientId : String
  deviceId : String
  clientVersion : String
  nonce : String
  iat : ℤ
  capabilities : List ProtectedCapability
  signature : String
  deriving DecidableEq

structure SessionResponse where
  lease : SignedLease
  serverTime : ℤ
  deriving DecidableEq

def ensureClientUsable (client : ClientRecord) (deviceId : String) : Handler Unit := do
  rejectIf client.revoked (reject (.forbidden "revoked" "client has been revoked"))
  rejectIf (!client.approved) (reject (.forbidden "authentication_required"
    "client registration is pending approval"))
  rejectIf (client.deviceId ≠ deviceId) (reject (.forbidden "binding_mismatch"
    "device binding does not match"))

def makeLease (cfg : Config) (client : ClientRecord) (sessionId : String)
    (capabilities : List ProtectedCapability) (nonce jti : String) (iat exp : ℤ) : SignedLease :=
  cfg.signClaims
    { iss := "rdc-auth", aud := "rdc-client", sub := client.accountId, clientId := client.clientId,
      deviceId := client.deviceId, sessionId, capabilities, clientVersion := client.clientVersion,
      iat, exp, jti, nonce }

/-- The loop over capabilities: the first one the account lacks ends in `missing`. -/
def requireEntitlements (accountId : String) (missing : Handler Unit) :
    List ProtectedCapability → Handler Unit
  | [] => pure ()
  | capability :: rest => do
    let entitled ← ask (.hasEntitlement accountId capability)
    if entitled then requireEntitlements accountId missing rest else missing

/-- A lost capability revokes the session before the error is answered. -/
def revokeAndReject (sessionId : String) (error : ApiError) : Handler Unit := do
  let _ ← ask (.revokeSession sessionId)
  .fail (reject error)

def createSession (cfg : Config) (request : SessionRequest) : Handler SessionResponse := do
  let now ← ask .now
  rejectIf (isBlank request.clientId || isBlank request.deviceId || isBlank request.clientVersion ||
      !validateNonce request.nonce || !validateRequestTime request.iat now.val ||
      request.capabilities.isEmpty)
    (reject (.badRequest "session fields are required"))
  let row ← ask (.client request.clientId)
  let client ← orReject row (reject (.unauthorized "client is unknown"))
  ensureClientUsable client request.deviceId
  rejectIf (client.clientVersion ≠ request.clientVersion) (reject (.forbidden "client_outdated"
    "client version does not match the registered version"))
  rejectIf (!cfg.crypto.verifyClientSignature client.clientKeyAlgorithm client.devicePublicKey
      (.session ⟨request.clientId, request.deviceId, request.clientVersion, request.nonce,
        request.iat, request.capabilities⟩) request.signature)
    (reject (.unauthorized "session signature is invalid"))
  let reserved ← ask (.consumeNonce request.nonce now.val)
  rejectIf (!reserved) (reject (.conflict "session nonce has already been used"))
  requireEntitlements client.accountId (.fail (reject (.forbidden "capability_not_entitled"
    "requested capability is not entitled"))) request.capabilities
  ask (.revokeActiveSessionsForClient client.clientId now.val)
  let sessionId ← ask .uuid
  let jti ← ask .uuid
  let exp := saturatingAdd now.val leaseMaxSecs
  let lease := makeLease cfg client sessionId request.capabilities request.nonce jti now.val exp
  ask (.createSession sessionId client request.capabilities jti exp)
  pure { lease, serverTime := now.val }

/-- The bearer token of the `Authorization` header; `none` is a missing or unreadable header. -/
def bearerToken (authorization : Option String) : Handler String := do
  let value ← orReject authorization (reject (.unauthorized "session authorization is required"))
  orReject ((stripPrefix? "Bearer " value).filter (fun token => !isBlank token))
    (reject (.unauthorized "session authorization is invalid"))

def sessionFromHeaders (authorization : Option String) (now : ℤ) : Handler SessionRecord := do
  let sessionId ← bearerToken authorization
  let row ← ask (.session sessionId)
  let session ← orReject row (reject (.unauthorized "session is unknown"))
  rejectIf session.revoked (reject (.forbidden "revoked" "session has been revoked"))
  rejectIf (session.exp ≤ now) (reject (.unauthorized "session lease has expired"))
  let row ← ask (.client session.clientId)
  let client ← orReject row (reject (.unauthorized "client is unknown"))
  ensureClientUsable client session.deviceId
  requireEntitlements client.accountId (revokeAndReject session.sessionId (.forbidden "revoked"
    "a session capability has been revoked")) session.capabilities
  pure session

structure CapabilitiesResponse where
  sessionId : String
  capabilities : List ProtectedCapability
  expiresAt : ℤ
  deriving DecidableEq

def capabilities (authorization : Option String) : Handler CapabilitiesResponse := do
  let now ← ask .now
  let session ← sessionFromHeaders authorization now.val
  pure { sessionId := session.sessionId, capabilities := session.capabilities,
         expiresAt := session.exp }

structure HeartbeatRequest where
  clientId : String
  deviceId : String
  nonce : String
  iat : ℤ
  signature : String
  deriving DecidableEq

def heartbeat (cfg : Config) (sessionId : String) (request : HeartbeatRequest) :
    Handler SessionResponse := do
  let now ← ask .now
  let row ← ask (.session sessionId)
  let session ← orReject row (reject (.unauthorized "session is unknown"))
  rejectIf (session.revoked || session.exp ≤ now.val) (reject (.forbidden
    (if session.revoked then "revoked" else "lease_expired") "session cannot be renewed"))
  rejectIf (session.clientId ≠ request.clientId || session.deviceId ≠ request.deviceId)
    (reject (.forbidden "binding_mismatch" "heartbeat binding does not match"))
  rejectIf (!validateNonce request.nonce || !validateRequestTime request.iat now.val)
    (reject (.badRequest "heartbeat nonce or timestamp is invalid"))
  let row ← ask (.client session.clientId)
  let client ← orReject row (reject (.unauthorized "client is unknown"))
  ensureClientUsable client request.deviceId
  rejectIf (!cfg.crypto.verifyClientSignature client.clientKeyAlgorithm client.devicePublicKey
      (.heartbeat ⟨sessionId, request.clientId, request.deviceId, request.nonce, request.iat⟩)
      request.signature)
    (reject (.unauthorized "heartbeat signature is invalid"))
  let reserved ← ask (.consumeNonce request.nonce now.val)
  rejectIf (!reserved) (reject (.conflict "heartbeat nonce has already been used"))
  requireEntitlements client.accountId (revokeAndReject sessionId (.forbidden "revoked"
    "a session capability has been revoked")) session.capabilities
  let jti ← ask .uuid
  let exp := saturatingAdd now.val leaseMaxSecs
  let lease := makeLease cfg client sessionId session.capabilities request.nonce jti now.val exp
  let refreshed ← ask (.refreshSession sessionId session.capabilities jti exp)
  rejectIf (!refreshed) (reject (.forbidden "revoked" "session has been revoked"))
  pure { lease, serverTime := now.val }

def closeSession (sessionId : String) (authorization : Option String) : Handler Unit := do
  let now ← ask .now
  let session ← sessionFromHeaders authorization now.val
  rejectIf (session.sessionId ≠ sessionId) (reject (.forbidden "binding_mismatch"
    "session binding does not match"))
  let _ ← ask (.revokeSession sessionId)
  pure ()

structure ExecutionGrantRequest where
  artifactId : String
  artifactSha256 : String
  action : String
  vm : String
  instance_ : String
  nonce : String
  iat : ℤ
  signature : String
  deriving DecidableEq

def validExecutionAction (action : String) : Bool :=
  action = "preset_apply" || action = "preset_restore" || action = "preset_details"

def artifactAllowsExecutionAction (artifactId action : String) : Bool :=
  (artifactId = "qemu-guest-script" && action = "preset_apply") ||
    (artifactId = "qemu-guest-script-universal" &&
      (action = "preset_restore" || action = "preset_details"))

def safeArtifactPath (cfg : Config) (artifact : ArtifactRecord) : Handler Path := do
  let root ← ask (.canonicalize cfg.artifactRoot)
  let path ← ask (.canonicalize artifact.path)
  rejectIf (!root.isPrefixOf path) (reject (.forbidden "artifact_path_invalid"
    "artifact is outside the configured artifact root"))
  pure path

/-- Both capabilities a protected execution needs. -/
def mayExecute (session : SessionRecord) : Bool :=
  session.capabilities.contains .protectedPreset && session.capabilities.contains .protectedArtifact

/-- The static checks of an execution grant at a clock reading. -/
def grantClaimsValid (claims : ExecutionGrantClaims) (now : ℤ) : Bool :=
  !(claims.iss ≠ "rdc-auth" || claims.aud ≠ "rdc-guest-runner" || isBlank claims.clientId ||
    isBlank claims.deviceId || isBlank claims.sessionId || isBlank claims.clientVersion ||
    isBlank claims.artifactId || byteLength claims.artifactSha256 ≠ 64 ||
    !isAsciiHex claims.artifactSha256 || !validExecutionAction claims.action || isBlank claims.vm ||
    isBlank claims.instance_ || isBlank claims.jti || byteLength claims.jti > maxNonceBytes ||
    !validateNonce claims.nonce || claims.exp ≤ now ||
    claims.iat < saturatingSub now requestMaxAgeSecs || claims.iat > saturatingAdd now 300 ||
    claims.exp ≤ claims.iat)

def validateExecutionGrantForArtifact (cfg : Config) (grant : SignedExecutionGrant) (now : ℤ) :
    Handler (ExecutionGrantClaims × ArtifactRecord × Path) := do
  let claims ← orReject (cfg.verifyExecutionGrant grant) (reject (.forbidden "invalid_grant"
    "execution grant signature is invalid"))
  rejectIf (!grantClaimsValid claims now) (reject (.forbidden "invalid_grant"
    "execution grant claims are invalid or expired"))
  rejectIf (!artifactAllowsExecutionAction claims.artifactId claims.action) (reject (.forbidden
    "artifact_workflow_mismatch" "execution artifact is not approved for this workflow"))
  let row ← ask (.session claims.sessionId)
  let session ← orReject row (reject (.forbidden "revoked" "execution grant session is unknown"))
  rejectIf (session.revoked || session.exp ≤ now || session.clientId ≠ claims.clientId ||
      session.deviceId ≠ claims.deviceId || !mayExecute session)
    (reject (.forbidden "revoked" "execution grant session is no longer usable"))
  let row ← ask (.client session.clientId)
  let client ← orReject row (reject (.forbidden "revoked" "execution grant client is unknown"))
  ensureClientUsable client session.deviceId
  let deviceProof ← orReject (grant.deviceProof.filter (fun proof => !isBlank proof))
    (reject (.forbidden "device_proof_required" "execution grant is missing device proof"))
  rejectIf (!cfg.crypto.verifyClientSignature client.clientKeyAlgorithm client.devicePublicKey
      (.grantPayload grant.payload) deviceProof)
    (reject (.forbidden "device_proof_invalid" "execution grant device proof is invalid"))
  rejectIf (client.clientVersion ≠ claims.clientVersion) (reject (.forbidden "client_outdated"
    "execution grant client version does not match"))
  requireEntitlements client.accountId (revokeAndReject session.sessionId (.forbidden "revoked"
    "execution grant entitlement has been revoked")) session.capabilities
  let row ← ask (.artifact claims.artifactId)
  let artifact ← orReject row (reject (.forbidden "artifact_integrity"
    "execution artifact is unavailable"))
  let path ← safeArtifactPath cfg artifact
  let hashed ← ask (.sha256File path)
  rejectIf (hashed.2 ≠ claims.artifactSha256) (reject (.forbidden "artifact_integrity"
    "execution artifact hash no longer matches"))
  pure (claims, artifact, path)

structure ArtifactReleaseResponse where
  artifactId : String
  artifactSha256 : String
  artifactSizeBytes : ℕ
  contentBase64 : String
  deriving DecidableEq

def releaseExecutionGrant (cfg : Config) (grant : SignedExecutionGrant) :
    Handler ArtifactReleaseResponse := do
  let now ← ask .now
  let (claims, artifact, path) ← validateExecutionGrantForArtifact cfg grant now.val
  let size ← ask (.fileSize path)
  rejectIf (size > maxExecutionReleaseBytes) (reject (.payloadTooLarge "artifact_too_large"
    "execution artifact exceeds the guest release size limit"))
  let content ← ask (.readFile path)
  rejectIf (content.length ≠ size || content.length > maxExecutionReleaseBytes ||
      cfg.crypto.sha256 content ≠ claims.artifactSha256)
    (reject (.forbidden "artifact_integrity" "execution artifact changed during release"))
  pure { artifactId := artifact.artifactId, artifactSha256 := claims.artifactSha256,
         artifactSizeBytes := content.length, contentBase64 := cfg.crypto.base64Encode content }

def issueExecutionGrant (cfg : Config) (authorization : Option String)
    (request : ExecutionGrantRequest) : Handler SignedExecutionGrant := do
  let now ← ask .now
  let session ← sessionFromHeaders authorization now.val
  rejectIf (!mayExecute session) (reject (.forbidden "missing_capability"
    "preset capability is not present"))
  let row ← ask (.client session.clientId)
  let client ← orReject row (reject (.unauthorized "client is unknown"))
  rejectIf (isBlank request.artifactId ||
      (!request.artifactSha256.isEmpty && (byteLength request.artifactSha256 ≠ 64 ||
        !isAsciiHex request.artifactSha256)) ||
      isBlank request.action || !validExecutionAction request.action || isBlank request.vm ||
      isBlank request.instance_ || !validateNonce request.nonce ||
      !validateRequestTime request.iat now.val || isBlank request.signature)
    (reject (.badRequest "execution grant fields are invalid"))
  rejectIf (!cfg.crypto.verifyClientSignature client.clientKeyAlgorithm client.devicePublicKey
      (.executionGrant ⟨request.artifactId, request.artifactSha256, request.action, request.vm,
        request.instance_, request.nonce, request.iat⟩) request.signature)
    (reject (.unauthorized "execution grant signature is invalid"))
  let row ← ask (.artifact request.artifactId)
  let artifact ← orReject row (reject (.notFound "artifact is unknown"))
  rejectIf (!artifactAllowsExecutionAction artifact.artifactId request.action) (reject (.forbidden
    "artifact_workflow_mismatch" "execution artifact is not approved for this workflow"))
  let path ← safeArtifactPath cfg artifact
  let hashed ← ask (.sha256File path)
  rejectIf (!request.artifactSha256.isEmpty && hashed.2 ≠ request.artifactSha256)
    (reject (.forbidden "artifact_integrity"
      "execution artifact hash does not match the published artifact"))
  let reserved ← ask (.consumeNonce request.nonce now.val)
  rejectIf (!reserved) (reject (.conflict "execution grant nonce has already been used"))
  let exp := min session.exp (saturatingAdd now.val executionGrantTtlSecs)
  rejectIf (exp ≤ now.val) (reject (.unauthorized "session lease has expired"))
  let jti ← ask .uuid
  pure (cfg.signExecutionGrant
    { iss := "rdc-auth", aud := "rdc-guest-runner", clientId := client.clientId,
      deviceId := session.deviceId, sessionId := session.sessionId,
      clientVersion := client.clientVersion, artifactId := request.artifactId,
      artifactSha256 := hashed.2, action := request.action, vm := request.vm,
      instance_ := request.instance_, iat := now.val, exp, jti, nonce := request.nonce })

/-- The key under which a grant is reserved in the nonce table. -/
def grantReservation (jti : String) : String := "execution-grant-jti:" ++ jti

def receiptOf (claims : ExecutionGrantClaims) (now : ℤ) : ExecutionAuthorizationReceiptClaims :=
  { iss := "rdc-auth", aud := "rdc-qemu-center", clientId := claims.clientId,
    deviceId := claims.deviceId, sessionId := claims.sessionId,
    clientVersion := claims.clientVersion, artifactId := claims.artifactId,
    artifactSha256 := claims.artifactSha256, action := claims.action, vm := claims.vm,
    instance_ := claims.instance_, grantJti := claims.jti, iat := now,
    exp := min claims.exp (saturatingAdd now executionGrantTtlSecs) }

def consumeExecutionGrant (cfg : Config) (grant : SignedExecutionGrant) :
    Handler SignedExecutionAuthorizationReceipt := do
  let now ← ask .now
  let (claims, _, _) ← validateExecutionGrantForArtifact cfg grant now.val
  let reserved ← ask (.consumeNonce (grantReservation claims.jti) now.val)
  rejectIf (!reserved) (reject (.conflict "execution grant has already been consumed"))
  pure (cfg.signExecutionAuthorizationReceipt (receiptOf claims now.val))

structure ArtifactPrepareRequest where
  deviceId : String
  targetAbi : String
  targetAndroid : String
  ephemeralPublicKey : String
  deriving DecidableEq

def u32Max : ℕ := 2 ^ 32 - 1

def prepareArtifact (cfg : Config) (artifactId : String) (authorization : Option String)
    (request : ArtifactPrepareRequest) : Handler SignedArtifactManifest := do
  let checked ← ask .now
  let session ← sessionFromHeaders authorization checked.val
  rejectIf (session.deviceId ≠ request.deviceId) (reject (.forbidden "binding_mismatch"
    "artifact device binding does not match"))
  rejectIf (!session.capabilities.contains .protectedArtifact) (reject (.forbidden
    "missing_capability" "artifact capability is not present"))
  rejectIf (isBlank request.ephemeralPublicKey) (reject (.badRequest
    "ephemeral artifact key is required"))
  let now ← ask .now
  let row ← ask (.artifact artifactId)
  let artifact ← orReject row (reject (.notFound "artifact is unknown"))
  rejectIf (artifact.targetAbi ≠ request.targetAbi || artifact.targetAndroid ≠ request.targetAndroid)
    (reject (.forbidden "target_mismatch" "artifact target does not match the request"))
  let keypair ← ask .randomX25519Keypair
  let sharedSecret ← orReject (cfg.crypto.x25519 keypair.1 request.ephemeralPublicKey)
    (reject (.badRequest "ephemeral artifact key is invalid"))
  let path ← safeArtifactPath cfg artifact
  let hashed ← ask (.sha256File path)
  let chunkCount := (hashed.1 + (artifactChunkSize - 1)) / artifactChunkSize
  rejectIf (chunkCount > u32Max) (reject .internal)
  let transferId ← ask .uuid
  let noncePrefix ← ask .randomNoncePrefix
  let manifest : ArtifactManifest :=
    { artifactId := artifact.artifactId, version := artifact.version,
      targetAbi := artifact.targetAbi, targetAndroid := artifact.targetAndroid,
      sessionId := session.sessionId, deviceId := session.deviceId, sizeBytes := hashed.1,
      sha256 := hashed.2, expiresAt := min session.exp (saturatingAdd now.val artifactTtlSecs),
      keyId := cfg.keyId, transferId, serverEphemeralPublicKey := keypair.2,
      chunkSizeBytes := artifactChunkSize, chunkCount, noncePrefix }
  let registered ← ask (.registerTransfer now.val transferId
    { artifactId := artifact.artifactId, sessionId := session.sessionId,
      deviceId := session.deviceId, path, manifest, sharedSecret })
  rejectIf (!registered) (reject (.serviceUnavailable "transfer_capacity_exhausted"
    "artifact transfer capacity is exhausted"))
  pure (cfg.signManifest manifest)

structure ArtifactChunkResponse where
  index : UInt32
  ciphertext : String
  deriving DecidableEq

def artifactChunk (cfg : Config) (artifactId transferId : String) (index : UInt32)
    (authorization : Option String) : Handler ArtifactChunkResponse := do
  let now ← ask .now
  let session ← sessionFromHeaders authorization now.val
  let found ← ask (.lookupTransfer now.val transferId)
  let transfer ← orReject found (reject (.notFound "artifact transfer is unknown"))
  rejectIf (transfer.artifactId ≠ artifactId || transfer.sessionId ≠ session.sessionId ||
      transfer.deviceId ≠ session.deviceId)
    (reject (.forbidden "binding_mismatch" "artifact transfer binding does not match"))
  let manifest := transfer.manifest
  rejectIf (index.toNat ≥ manifest.chunkCount) (reject (.badRequest
    "artifact chunk index is invalid"))
  let offset := index.toNat * manifest.chunkSizeBytes
  let length := min (manifest.sizeBytes - offset) manifest.chunkSizeBytes
  rejectIf (length = 0) (reject (.badRequest "artifact chunk is empty"))
  let plaintext ← ask (.readChunk transfer.path offset length)
  let key ← orReject (cfg.crypto.deriveArtifactKey transfer.sharedSecret manifest)
    (reject .internal)
  let ciphertext ← orReject (cfg.crypto.encryptArtifactChunk key manifest index plaintext)
    (reject .internal)
  pure { index, ciphertext := cfg.crypto.base64Encode ciphertext }

/-- The commands of `rdc-auth-admin` that change the database. -/
inductive AdminCommand where
  | clientApproveForAccount (clientId accountId : String)
  | clientApprove (clientId : String)
  | clientRevoke (clientId : String)
  | entitlementGrant (accountId : String) (capability : ProtectedCapability)
  | entitlementRevoke (accountId : String) (capability : ProtectedCapability)
  | artifactPublish (artifactId version targetAbi targetAndroid path : String)
  deriving DecidableEq

/-- A call of the tool: its failure is the store error. -/
def askAdmin (call : Call) : Handler call.Val := perform (.admin "authorization store failed") call

def runAdmin : AdminCommand → Handler String
  | .clientApproveForAccount clientId accountId => do
    let changed ← askAdmin (.approveClientForAccount clientId accountId)
    rejectIf (!changed) (.admin "client was not found")
    pure "client approved"
  | .clientApprove clientId => do
    let changed ← askAdmin (.approveClient clientId)
    rejectIf (!changed) (.admin "client was not found")
    pure "client approved"
  | .clientRevoke clientId => do
    let changed ← askAdmin (.revokeClientRow clientId)
    askAdmin (.revokeClientSessions clientId)
    rejectIf (!changed) (.admin "client was not found")
    pure "client revoked"
  | .entitlementGrant accountId capability => do
    askAdmin (.grantEntitlement accountId capability)
    pure "entitlement granted"
  | .entitlementRevoke accountId capability => do
    let changed ← askAdmin (.revokeEntitlement accountId capability)
    rejectIf (!changed) (.admin "entitlement was not enabled")
    pure "entitlement revoked"
  | .artifactPublish artifactId version targetAbi targetAndroid path => do
    askAdmin (.publishArtifact artifactId version targetAbi targetAndroid path)
    pure "artifact published"

inductive Request where
  | register (request : RegisterRequest)
  | completeRegistration (request : CompleteRegistrationRequest)
  | createSession (request : SessionRequest)
  | capabilities (authorization : Option String)
  | heartbeat (sessionId : String) (request : HeartbeatRequest)
  | closeSession (sessionId : String) (authorization : Option String)
  | issueExecutionGrant (authorization : Option String) (request : ExecutionGrantRequest)
  | releaseExecutionGrant (grant : SignedExecutionGrant)
  | consumeExecutionGrant (grant : SignedExecutionGrant)
  | prepareArtifact (artifactId : String) (authorization : Option String)
      (request : ArtifactPrepareRequest)
  | artifactChunk (artifactId transferId : String) (index : UInt32) (authorization : Option String)
  | admin (command : AdminCommand)
  deriving DecidableEq

inductive Response where
  | registered (response : RegisterResponse)
  | completed (response : CompleteRegistrationResponse)
  | session (response : SessionResponse)
  | capabilities (response : CapabilitiesResponse)
  | noContent
  | grant (grant : SignedExecutionGrant)
  | release (response : ArtifactReleaseResponse)
  | receipt (receipt : SignedExecutionAuthorizationReceipt)
  | manifest (manifest : SignedArtifactManifest)
  | chunk (response : ArtifactChunkResponse)
  | done (message : String)
  deriving DecidableEq

def handler (cfg : Config) : Request → Handler Response
  | .register request => do return .registered (← registerClient cfg request)
  | .completeRegistration request => do return .completed (← completeRegistration cfg request)
  | .createSession request => do return .session (← createSession cfg request)
  | .capabilities authorization => do
    return .capabilities (← Authorization.capabilities authorization)
  | .heartbeat sessionId request => do return .session (← heartbeat cfg sessionId request)
  | .closeSession sessionId authorization => do
    closeSession sessionId authorization
    return .noContent
  | .issueExecutionGrant authorization request => do
    return .grant (← issueExecutionGrant cfg authorization request)
  | .releaseExecutionGrant grant => do return .release (← releaseExecutionGrant cfg grant)
  | .consumeExecutionGrant grant => do return .receipt (← consumeExecutionGrant cfg grant)
  | .prepareArtifact artifactId authorization request => do
    return .manifest (← prepareArtifact cfg artifactId authorization request)
  | .artifactChunk artifactId transferId index authorization => do
    return .chunk (← artifactChunk cfg artifactId transferId index authorization)
  | .admin command => do return .done (← runAdmin command)

end JustRun.Authorization
