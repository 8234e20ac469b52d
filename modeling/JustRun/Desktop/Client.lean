import JustRun.Desktop.Contracts
import JustRun.Authorization.Routes
import JustRun.Concurrency.Sequential

/-!
# The authorization client of the desktop

`services/authorization_client.rs` as programs over its calls: the key material,
the clocks, the transport, the process-wide active session and the file system.
What the environment answers is an oracle; the active session and the files are
the state.
-/
namespace JustRun.Desktop
open Machine Authorization Concurrency Concurrency.Prog

structure DeviceIdentity where
  installId : String
  deviceId : String
  publicKey : String
  deriving DecidableEq

structure DeviceSigner where
  algorithm : ClientKeyAlgorithm
  publicKey : String
  deriving DecidableEq

inductive DeviceSecurityLevel where
  | hardwareBacked
  | cngSoftwareProvider
  | dpapiSoftwareFallback
  deriving DecidableEq

structure DeviceAuthMaterial where
  identity : DeviceIdentity
  signer : DeviceSigner
  securityLevel : DeviceSecurityLevel
  deriving DecidableEq

structure RegistrationRecord where
  clientId : String
  deviceId : String
  deriving DecidableEq

/-- `Instant`, in nanoseconds. -/
abbrev Instant := ℕ

structure LeaseClock where
  anchorUnix : ℤ
  anchorInstant : Instant
  deriving DecidableEq

structure AuthorizationSession where
  lease : SignedLease
  serverTime : ℤ
  leaseClock : LeaseClock
  deriving DecidableEq

structure TrustedAuthorizationKey where
  keyId : String
  publicKeyBase64url : String
  deriving DecidableEq

/-- A path by its parent directory and its file name, where it has one. -/
structure FilePath where
  parent : String
  fileName : Option String
  deriving DecidableEq

inductive Call where
  | configure
  | material
  | registration
  | unixTime
  | instant
  | uuid
  | x25519Keypair
  | sign (signer : DeviceSigner) (message : ClientMessage)
  | acquireSession (request : SessionRequest)
  | heartbeat (sessionId : String) (request : HeartbeatRequest)
  | prepareArtifact (sessionId artifactId : String) (request : ArtifactPrepareRequest)
  | fetchArtifactChunk (sessionId artifactId transferId : String) (index : UInt32)
  | readActive
  | writeActive (session : AuthorizationSession)
  | takeActive
  | isDir (path : String)
  | pathExists (path : FilePath)
  | createNew (path : FilePath)
  | writeAll (path : FilePath) (data : List UInt8)
  | syncAll (path : FilePath)
  | rename (source target : FilePath)
  | removeFile (path : FilePath)
  deriving DecidableEq

namespace Call

abbrev Val : Call → Type
  | material => DeviceAuthMaterial
  | registration => Option RegistrationRecord
  | unixTime => ℤ
  | instant => Instant
  | uuid => String
  | x25519Keypair => List UInt8 × String
  | sign .. => String
  | acquireSession .. | heartbeat .. => SessionResponse
  | prepareArtifact .. => SignedArtifactManifest
  | fetchArtifactChunk .. => ArtifactChunkResponse
  | readActive => Option AuthorizationSession
  | isDir .. | pathExists .. => Bool
  | configure | writeActive .. | takeActive | createNew .. | writeAll .. | syncAll .. | rename ..
  | removeFile .. => Unit

end Call

abbrev Result (call : Call) : Type := Except AuthorizationError call.Val

abbrev ClientProg := Prog Call Result AuthorizationError

abbrev History := List (Entry Call Result)

/-- One of the calls in the history was answered `v`. -/
def Answered (h : History) (call : Call) (v : call.Val) : Prop :=
  (⟨call, .ok v⟩ : Entry Call Result) ∈ h

theorem Answered.mono {h h' : History} {call : Call} {v : call.Val} (ha : Answered h call v)
    (hh : h <+: h') : Answered h' call v := hh.subset ha

structure State where
  active : Option AuthorizationSession
  files : FilePath → Option (List UInt8)

/-- How a call turns out: what the environment answers it, and how much of a failing write has
reached the file. -/
structure Choice where
  answer : (call : Call) → Result call
  written : ℕ := 0

namespace State
variable (s : State)

def put (path : FilePath) (content : Option (List UInt8)) : State :=
  { s with files := Function.update s.files path content }

/-- One call; `none` when it cannot turn out so. -/
def exec (choice : Choice) : (call : Call) → Option (Result call × State)
  | .readActive => some (.ok s.active, s)
  | .writeActive session => some (.ok (), { s with active := some session })
  | .takeActive => some (.ok (), { s with active := none })
  | .pathExists path => match choice.answer (.pathExists path) with
    | .ok other => some (.ok ((s.files path).isSome || other), s)
    | .error _ => none
  | .isDir path => match choice.answer (.isDir path) with
    | .ok answer => some (.ok answer, s)
    | .error _ => none
  | .createNew path => match choice.answer (.createNew path), s.files path with
    | .ok (), none => some (.ok (), s.put path (some []))
    | .ok (), some _ => none
    | .error e, _ => some (.error e, s)
  | .writeAll path data => match choice.answer (.writeAll path data), s.files path with
    | .ok (), some content => some (.ok (), s.put path (some (content ++ data)))
    | .error e, some content =>
      some (.error e, s.put path (some (content ++ data.take choice.written)))
    | _, none => none
  | .rename source target => match choice.answer (.rename source target), s.files source with
    | .ok (), some content => some (.ok (), (s.put target (some content)).put source none)
    | .ok (), none => none
    | .error e, _ => some (.error e, s)
  | .removeFile path => match choice.answer (.removeFile path), s.files path with
    | .ok (), some _ => some (.ok (), s.put path none)
    | .ok (), none => none
    | .error e, _ => some (.error e, s)
  | other => some (choice.answer other, s)

end State

/-- The calls of a client as the effects of a sequential program. -/
def execute (choice : Choice) (s : State) (call : Call) : Option (Result call × State) :=
  s.exec choice call

/-- Calls that may change the active session or a file. -/
def Call.changes : Call → Bool
  | writeActive .. | takeActive | createNew .. | writeAll .. | rename .. | removeFile .. => true
  | _ => false

theorem execute_unchanged {s s' : State} {choice : Choice} {call : Call} {r : Result call}
    (h : execute choice s call = some (r, s')) (hc : call.changes = false) : s' = s := by
  cases call with
  | writeActive | takeActive | createNew | writeAll | rename | removeFile => cases hc
  | isDir path | pathExists path =>
    simp only [execute, State.exec] at h
    split at h
    · cases h; rfl
    · cases h
  | _ => cases h; rfl

/-- A client: its deployment, and the session it has. -/
structure AuthorizationClient where
  crates : Crates
  trustedKeys : List TrustedAuthorizationKey
  clientVersion : String
  session : Option AuthorizationSession

/-- `call(..)?`. -/
def ask (call : Call) : ClientProg call.Val := request call

def i64Max : ℤ := 2 ^ 63 - 1

theorem meets_ask {β : Type} {P : History → Call → Prop}
    {R : History → Except AuthorizationError β → Prop} {h : History} (he : ∀ h e, R h (.error e))
    {call : Call} {f : call.Val → ClientProg β} (hP : P h call)
    (hf : ∀ v, Answered (h ++ [⟨call, .ok v⟩]) call v → (f v).Meets P R (h ++ [⟨call, .ok v⟩])) :
    (ask call >>= f).Meets P R h :=
  meets_request he hP fun v => hf v (by simp [Answered])

namespace LeaseClock

/-- `now_at`; `duration_since` is zero for an earlier instant. -/
def nowAt (clock : LeaseClock) (instant : Instant) : Except AuthorizationError ℤ :=
  let elapsed : ℤ := ((instant - clock.anchorInstant) / 10 ^ 9 : ℕ)
  if elapsed > i64Max || clock.anchorUnix + elapsed > i64Max then
    .error (.malformed "lease clock overflow")
  else .ok (clock.anchorUnix + elapsed)

def now (clock : LeaseClock) : ClientProg ℤ := do
  let instant ← ask .instant
  ofExcept (clock.nowAt instant)

def new (anchorUnix : ℤ) : ClientProg LeaseClock := do
  let instant ← ask .instant
  pure ⟨anchorUnix, instant⟩

end LeaseClock

def leaseValidationNow (serverTime localTime : ℤ) (minimumNow : Option ℤ) : ℤ :=
  match minimumNow with
  | none => max serverTime localTime
  | some minimum => max (max serverTime localTime) minimum

def ensureRegistrationMatches (registration : RegistrationRecord) (identity : DeviceIdentity) :
    Except AuthorizationError Unit :=
  if registration.deviceId = identity.deviceId then .ok () else .error .bindingMismatch

def ensureSignerMatchesIdentity (identity : DeviceIdentity) (signer : DeviceSigner) :
    Except AuthorizationError Unit :=
  if identity.publicKey = signer.publicKey then .ok () else .error .bindingMismatch

namespace AuthorizationClient
variable (client : AuthorizationClient)

def identity : ClientProg DeviceIdentity := do return (← ask .material).identity

def signer : ClientProg DeviceSigner := do return (← ask .material).signer

def trustedKey (keyId : String) : Except AuthorizationError TrustedAuthorizationKey :=
  match client.trustedKeys.find? (fun key => key.keyId = keyId) with
  | some key => .ok key
  | none => .error .unknownKey

def verifyLease (lease : SignedLease) (serverTime : ℤ) (identity : DeviceIdentity)
    (requested : List ProtectedCapability) (minimumNow : Option ℤ) : ClientProg LeaseClock := do
  let key ← ofExcept (client.trustedKey lease.keyId)
  let localTime ← ask .unixTime
  let now := leaseValidationNow serverTime localTime minimumNow
  ofExcept (client.crates.verifySignedLease lease key.publicKeyBase64url now)
  rejectIf (lease.claims.deviceId ≠ identity.deviceId ||
      lease.claims.clientVersion ≠ client.clientVersion || lease.claims.capabilities ≠ requested)
    .bindingMismatch
  LeaseClock.new now

/-- The new session is also the client's session afterwards. -/
def acquireSession (capabilities : List ProtectedCapability) : ClientProg AuthorizationSession := do
  let identity ← identity
  let signer ← signer
  ofExcept (ensureSignerMatchesIdentity identity signer)
  let stored ← ask .registration
  let registration ← orReject stored .notRegistered
  ofExcept (ensureRegistrationMatches registration identity)
  let iat ← ask .unixTime
  let nonce ← ask .uuid
  let signature ← ask (.sign signer (.session ⟨registration.clientId, identity.deviceId,
    client.clientVersion, nonce, iat, capabilities⟩))
  let response ← ask (.acquireSession ⟨registration.clientId, identity.deviceId,
    client.clientVersion, nonce, iat, capabilities, signature⟩)
  let leaseClock ← client.verifyLease response.lease response.serverTime identity capabilities none
  pure ⟨response.lease, response.serverTime, leaseClock⟩

/-- The new session is also the client's session afterwards. -/
def heartbeat : ClientProg AuthorizationSession := do
  let current ← orReject client.session .notRegistered
  let identity ← identity
  let signer ← signer
  ofExcept (ensureSignerMatchesIdentity identity signer)
  let stored ← ask .registration
  let registration ← orReject stored .notRegistered
  ofExcept (ensureRegistrationMatches registration identity)
  let iat ← ask .unixTime
  let nonce ← ask .uuid
  let signature ← ask (.sign signer (.heartbeat ⟨current.lease.claims.sessionId,
    registration.clientId, identity.deviceId, nonce, iat⟩))
  let response ← ask (.heartbeat current.lease.claims.sessionId ⟨registration.clientId,
    identity.deviceId, nonce, iat, signature⟩)
  let previousNow ← current.leaseClock.now
  let leaseClock ← client.verifyLease response.lease response.serverTime identity
    current.lease.claims.capabilities (some previousNow)
  pure ⟨response.lease, response.serverTime, leaseClock⟩

def prepareArtifact (artifactId targetAbi targetAndroid ephemeralPublicKey : String) :
    ClientProg SignedArtifactManifest := do
  let session ← orReject client.session .notRegistered
  let claims := session.lease.claims
  let identity ← identity
  ofExcept (validateSessionBinding claims identity.deviceId claims.sessionId)
  ofExcept (requireCapability claims .protectedArtifact)
  let now ← session.leaseClock.now
  rejectIf (claims.exp ≤ now) .leaseExpired
  let response ← ask (.prepareArtifact claims.sessionId artifactId
    ⟨identity.deviceId, targetAbi, targetAndroid, ephemeralPublicKey⟩)
  rejectIf (response.manifest.keyId ≠ response.keyId) .unknownKey
  let key ← ofExcept (client.trustedKey response.keyId)
  let now ← session.leaseClock.now
  ofExcept (client.crates.verifySignedArtifactManifest response.manifest response.signature
    key.publicKeyBase64url now)
  rejectIf (response.manifest.artifactId ≠ artifactId || response.manifest.targetAbi ≠ targetAbi ||
    response.manifest.targetAndroid ≠ targetAndroid) .targetMismatch
  ofExcept (validateArtifactManifest response.manifest claims identity.deviceId claims.sessionId now)
  pure response

end AuthorizationClient

/-! A sample client, for runs on fixed inputs: every signature verifies. -/
section Sample

def sampleCrates : Crates where
  base64Encode _ := "AA"
  base64Decode _ := .ok (List.replicate 32 0)
  ed25519Key _ := .ok ()
  ed25519Signature _ := .ok ()
  ed25519Verify _ _ _ := true
  x25519 _ _ := []
  hkdfSha256 _ _ _ := some []
  chacha20Poly1305Open _ _ _ ciphertext := some ciphertext
  sha256 _ := "6e340b9cffb37a989ca544e6bb780a2c78901d3fb33738768511a30617afa01d"

def sampleLeaseClaims (accountId clientId sessionId nonce : String) : LeaseClaims :=
  ⟨"rdc-auth", "rdc-client", accountId, clientId, "device", sessionId, [.protectedArtifact], "1",
    1000, 1900, "jti", nonce⟩

def sampleSession : AuthorizationSession :=
  ⟨⟨"key-1", sampleLeaseClaims "account" "client" "session" "nonce", "signature"⟩, 1000, ⟨1000, 0⟩⟩

def sampleClient : AuthorizationClient :=
  ⟨sampleCrates, [⟨"key-1", "public"⟩], "1", some sampleSession⟩

/-- The machine answers, and the server is unreachable. -/
def offline : (call : Call) → Result call
  | .material => .ok ⟨⟨"install", "device", "key"⟩, ⟨.ed25519DpapiV1, "key"⟩,
    .dpapiSoftwareFallback⟩
  | .registration => .ok (some ⟨"client", "device"⟩)
  | .unixTime => .ok 1000
  | .instant => .ok 0
  | .uuid => .ok "uuid"
  | .x25519Keypair => .ok ([], "ephemeral")
  | .sign .. => .ok "signature"
  | .isDir _ => .ok true
  | .pathExists _ => .ok false
  | .acquireSession .. | .heartbeat .. | .prepareArtifact .. | .fetchArtifactChunk .. =>
    .error .serverUnreachable
  | .readActive => .ok none
  | .configure | .writeActive .. | .takeActive | .createNew .. | .writeAll .. | .syncAll ..
  | .rename .. | .removeFile .. => .ok ()

end Sample
end JustRun.Desktop
