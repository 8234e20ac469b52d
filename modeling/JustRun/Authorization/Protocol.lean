import JustRun.Machine.Clock
import JustRun.Machine.Text

/-!
# Protocol values of the authorization service

The claims, proofs and manifests of `crypto.rs` with their checks. Curves,
hashes, ciphers and the encodings of third-party crates are the fields of
`Crypto`; a signed message is the value that its canonical JSON encodes.
-/
namespace JustRun.Authorization
open Machine

def leaseMaxSecs : ℤ := 15 * 60

def requestMaxAgeSecs : ℤ := 5 * 60

def maxClockSkewSecs : ℤ := 5 * 60

def maxNonceBytes : ℕ := 256

def artifactChunkSize : ℕ := 256 * 1024

inductive ClientKeyAlgorithm where
  | ed25519DpapiV1
  | ecdsaP256CngV1
  deriving DecidableEq

inductive ProtectedCapability where
  | protectedPreset
  | protectedArtifact
  | protectedAlgorithm
  deriving DecidableEq

structure LeaseClaims where
  iss : String
  aud : String
  sub : String
  clientId : String
  deviceId : String
  sessionId : String
  capabilities : List ProtectedCapability
  clientVersion : String
  iat : ℤ
  exp : ℤ
  jti : String
  nonce : String
  deriving DecidableEq

structure SignedLease where
  keyId : String
  claims : LeaseClaims
  signature : String
  deriving DecidableEq

structure ArtifactManifest where
  artifactId : String
  version : String
  targetAbi : String
  targetAndroid : String
  sessionId : String
  deviceId : String
  sizeBytes : ℕ
  sha256 : String
  expiresAt : ℤ
  keyId : String
  transferId : String
  serverEphemeralPublicKey : String
  chunkSizeBytes : ℕ
  chunkCount : ℕ
  noncePrefix : String
  deriving DecidableEq

structure SignedArtifactManifest where
  keyId : String
  manifest : ArtifactManifest
  signature : String
  deriving DecidableEq

structure ExecutionGrantClaims where
  iss : String
  aud : String
  clientId : String
  deviceId : String
  sessionId : String
  clientVersion : String
  artifactId : String
  artifactSha256 : String
  action : String
  vm : String
  instance_ : String
  iat : ℤ
  exp : ℤ
  jti : String
  nonce : String
  deriving DecidableEq

structure ExecutionAuthorizationReceiptClaims where
  iss : String
  aud : String
  clientId : String
  deviceId : String
  sessionId : String
  clientVersion : String
  artifactId : String
  artifactSha256 : String
  action : String
  vm : String
  instance_ : String
  grantJti : String
  iat : ℤ
  exp : ℤ
  deriving DecidableEq

/-- A base64url text: the canonical JSON of `value`, or any other text. -/
inductive Encoded (α : Type) where
  | json (value : α)
  | text (raw : String)
  deriving DecidableEq

structure SignedExecutionGrant where
  keyId : String
  payload : Encoded ExecutionGrantClaims
  signature : String
  deviceProof : Option String
  deriving DecidableEq

structure SignedExecutionAuthorizationReceipt where
  keyId : String
  payload : Encoded ExecutionAuthorizationReceiptClaims
  signature : String
  deriving DecidableEq

structure RegistrationProof where
  clientId : String
  challenge : String
  deriving DecidableEq

structure SessionProof where
  clientId : String
  deviceId : String
  clientVersion : String
  nonce : String
  iat : ℤ
  capabilities : List ProtectedCapability
  deriving DecidableEq

structure HeartbeatProof where
  sessionId : String
  clientId : String
  deviceId : String
  nonce : String
  iat : ℤ
  deriving DecidableEq

structure ExecutionGrantProof where
  artifactId : String
  artifactSha256 : String
  action : String
  vm : String
  instance_ : String
  nonce : String
  iat : ℤ
  deriving DecidableEq

/-- What a device signs: the canonical JSON of a proof, or the encoded payload
of a grant it received. -/
inductive ClientMessage where
  | registration (proof : RegistrationProof)
  | session (proof : SessionProof)
  | heartbeat (proof : HeartbeatProof)
  | executionGrant (proof : ExecutionGrantProof)
  | grantPayload (payload : Encoded ExecutionGrantClaims)
  deriving DecidableEq

/-- What the service signs. -/
inductive AuthorityMessage where
  | lease (claims : LeaseClaims)
  | manifest (manifest : ArtifactManifest)
  | grant (claims : ExecutionGrantClaims)
  | receipt (claims : ExecutionAuthorizationReceiptClaims)
  deriving DecidableEq

/-- The operations of the cryptographic and encoding crates. -/
structure Crypto where
  base64Encode : List UInt8 → String
  base64Decode : String → Option (List UInt8)
  ed25519Key : List UInt8 → Bool
  ed25519Verify : List UInt8 → ClientMessage → List UInt8 → Bool
  p256Key : List UInt8 → Bool
  p256Verify : List UInt8 → ClientMessage → List UInt8 → Bool
  authoritySign : AuthorityMessage → String
  authorityVerify : Encoded ExecutionGrantClaims → String → Bool
  parseGrant : String → Option ExecutionGrantClaims
  sha256 : List UInt8 → String
  x25519 : List UInt8 → String → Option (List UInt8)
  hkdfSha256 : List UInt8 → List UInt8 → List UInt8 → Option (List UInt8)
  chacha20Poly1305 : List UInt8 → List UInt8 → List UInt8 → List UInt8 → Option (List UInt8)

/-- The deployment: the crates, the signing authority and the service limits. -/
structure Config where
  crypto : Crypto
  keyId : String
  artifactRoot : String
  maxActiveTransfers : ℕ

def validateRequestTime (iat now : ℤ) : Bool :=
  !(iat < saturatingSub now requestMaxAgeSecs || iat > saturatingAdd now maxClockSkewSecs)

def validateNonce (nonce : String) : Bool :=
  !(isBlank nonce || byteLength nonce > maxNonceBytes)

theorem validateRequestTime_iff (iat : ℤ) (now : Reading) :
    validateRequestTime iat now = true ↔
      now - requestMaxAgeSecs ≤ iat ∧ iat ≤ now + maxClockSkewSecs := by
  rw [validateRequestTime, now.saturatingSub_eq (by decide) (by decide),
    now.saturatingAdd_eq (by decide) (by decide)]
  simp

namespace Crypto
variable (c : Crypto)

def validatePublicKeyBase64url (algorithm : ClientKeyAlgorithm) (value : String) : Bool :=
  match c.base64Decode value with
  | none => false
  | some bytes => match algorithm with
    | .ed25519DpapiV1 => bytes.length = 32 && c.ed25519Key bytes
    | .ecdsaP256CngV1 => bytes.length = 65 && bytes.head? = some 4 && c.p256Key bytes

def verifyClientSignature (algorithm : ClientKeyAlgorithm) (publicKey : String)
    (payload : ClientMessage) (signature : String) : Bool :=
  match c.base64Decode publicKey, c.base64Decode signature with
  | some key, some sig => match algorithm with
    | .ed25519DpapiV1 => key.length = 32 && c.ed25519Key key && c.ed25519Verify key payload sig
    | .ecdsaP256CngV1 =>
      key.length = 65 && key.head? = some 4 && c.p256Key key && c.p256Verify key payload sig
  | _, _ => false

def decodeExecutionGrantPayload : Encoded ExecutionGrantClaims → Option ExecutionGrantClaims
  | .json claims => some claims
  | .text raw => c.parseGrant raw

/-- The context of `derive_artifact_key`: every field is closed by a zero byte. -/
def artifactKeyContext (manifest : ArtifactManifest) : List UInt8 :=
  bytes "rdc-artifact-key-v1" ++ [0] ++
    [manifest.transferId, manifest.artifactId, manifest.version, manifest.sessionId,
      manifest.deviceId, manifest.sha256].flatMap (fun value => bytes value ++ [0])

def deriveArtifactKey (sharedSecret : List UInt8) (manifest : ArtifactManifest) :
    Option (List UInt8) :=
  c.hkdfSha256 (bytes "rdc-artifact-v1") sharedSecret (artifactKeyContext manifest)

def artifactNonce (manifest : ArtifactManifest) (index : UInt32) : Option (List UInt8) :=
  match c.base64Decode manifest.noncePrefix with
  | some lead => if lead.length = 8 then
      some (lead ++ [(index >>> 24).toUInt8, (index >>> 16).toUInt8, (index >>> 8).toUInt8,
        index.toUInt8])
    else none
  | none => none

def artifactAad (manifest : ArtifactManifest) (index : UInt32) : List UInt8 :=
  bytes ("rdc-artifact-chunk-v1\n" ++ manifest.transferId ++ "\n" ++ manifest.artifactId ++ "\n" ++
    manifest.version ++ "\n" ++ manifest.sessionId ++ "\n" ++ manifest.deviceId ++ "\n" ++
    toString index)

def encryptArtifactChunk (key : List UInt8) (manifest : ArtifactManifest) (index : UInt32)
    (plaintext : List UInt8) : Option (List UInt8) := do
  let nonce ← c.artifactNonce manifest index
  c.chacha20Poly1305 key nonce (artifactAad manifest index) plaintext

end Crypto

namespace Config
variable (cfg : Config)

def signClaims (claims : LeaseClaims) : SignedLease :=
  ⟨cfg.keyId, claims, cfg.crypto.authoritySign (.lease claims)⟩

def signManifest (manifest : ArtifactManifest) : SignedArtifactManifest :=
  ⟨cfg.keyId, manifest, cfg.crypto.authoritySign (.manifest manifest)⟩

def signExecutionGrant (claims : ExecutionGrantClaims) : SignedExecutionGrant :=
  ⟨cfg.keyId, .json claims, cfg.crypto.authoritySign (.grant claims), none⟩

def signExecutionAuthorizationReceipt (claims : ExecutionAuthorizationReceiptClaims) :
    SignedExecutionAuthorizationReceipt :=
  ⟨cfg.keyId, .json claims, cfg.crypto.authoritySign (.receipt claims)⟩

def verifyExecutionGrant (grant : SignedExecutionGrant) : Option ExecutionGrantClaims :=
  if grant.keyId ≠ cfg.keyId then none
  else if cfg.crypto.authorityVerify grant.payload grant.signature then
    cfg.crypto.decodeExecutionGrantPayload grant.payload
  else none

end Config
end JustRun.Authorization
