import JustRun.Authorization.Store
import JustRun.Machine.Fallible

/-!
# The contracts of the desktop client

`services/authorization.rs`: the local verification of what the service answers.
The values on the wire are those of the service; the functions here are written
from the client's own source. Its crates are the fields of `Crates`.
-/
namespace JustRun.Desktop
open Machine Authorization

inductive AuthorizationError where
  | malformed (detail : String)
  | invalidSignature
  | invalidIssuer
  | invalidAudience
  | leaseExpired
  | leaseNotYetValid
  | bindingMismatch
  | missingCapability
  | artifactIntegrityFailed
  | notRegistered
  | serverUnreachable
  | revoked
  | unknownKey
  | replay
  | targetMismatch
  | transport (detail : String)
  | secureStore (detail : String)
  | authenticationRequired
  deriving DecidableEq

/-- What the cryptographic and encoding crates answer; an error carries their text. -/
structure Crates where
  base64Encode : List UInt8 → String
  base64Decode : String → Except String (List UInt8)
  ed25519Key : List UInt8 → Except String Unit
  ed25519Signature : List UInt8 → Except String Unit
  ed25519Verify : List UInt8 → AuthorityMessage → List UInt8 → Bool
  x25519 : List UInt8 → List UInt8 → List UInt8
  hkdfSha256 : List UInt8 → List UInt8 → List UInt8 → Option (List UInt8)
  chacha20Poly1305Open : List UInt8 → List UInt8 → List UInt8 → List UInt8 → Option (List UInt8)
  sha256 : List UInt8 → String

/-- `if c { return Err(e) }`. -/
def refuseIf (c : Bool) (e : AuthorizationError) : Except AuthorizationError Unit :=
  if c then .error e else .ok ()

@[simp] theorem refuseIf_false (e : AuthorizationError) : refuseIf false e = .ok () := rfl

@[simp] theorem ok_bind {ε α β : Type} (a : α) (f : α → Except ε β) : (Except.ok a >>= f) = f a := rfl

@[simp] theorem mapError_ok {ε ε' α : Type} (f : ε → ε') (a : α) :
    (Except.ok a : Except ε α).mapError f = .ok a := rfl

theorem refuseIf_eq_ok {c : Bool} {e : AuthorizationError} :
    refuseIf c e = .ok () ↔ c = false := by
  cases c <;> simp [refuseIf]

theorem refuseIf_bind_eq_ok {β : Type} {c : Bool} {e : AuthorizationError}
    {f : Unit → Except AuthorizationError β} {b : β} :
    (refuseIf c e >>= f) = .ok b ↔ c = false ∧ f () = .ok b := by
  cases c <;> simp [refuseIf, Bind.bind, Except.bind]

def validateClaims (claims : LeaseClaims) (now : ℤ) : Except AuthorizationError Unit := do
  refuseIf (claims.iss ≠ "rdc-auth") .invalidIssuer
  refuseIf (claims.aud ≠ "rdc-client") .invalidAudience
  refuseIf (claims.sub.isEmpty || claims.clientId.isEmpty || claims.deviceId.isEmpty ||
      claims.sessionId.isEmpty || claims.jti.isEmpty || claims.nonce.isEmpty ||
      claims.capabilities.isEmpty)
    (.malformed "lease contains an empty required field")
  refuseIf (claims.exp ≤ now) .leaseExpired
  refuseIf (claims.iat > saturatingAdd now maxClockSkewSecs) .leaseNotYetValid
  refuseIf (claims.exp ≤ claims.iat) (.malformed "lease expiry must be after issue time")

/-- What `validate_claims` lets through. -/
structure ClaimsValid (claims : LeaseClaims) (now : ℤ) : Prop where
  issuer : claims.iss = "rdc-auth"
  audience : claims.aud = "rdc-client"
  complete : claims.sub ≠ "" ∧ claims.clientId ≠ "" ∧ claims.deviceId ≠ "" ∧ claims.sessionId ≠ "" ∧
    claims.jti ≠ "" ∧ claims.nonce ≠ "" ∧ claims.capabilities ≠ []
  live : now < claims.exp
  issued : claims.iat ≤ saturatingAdd now maxClockSkewSecs
  ordered : claims.iat < claims.exp

theorem validateClaims_eq_ok {claims : LeaseClaims} {now : ℤ} :
    validateClaims claims now = .ok () ↔ ClaimsValid claims now := by
  simp only [validateClaims, refuseIf_bind_eq_ok, refuseIf_eq_ok, decide_eq_false_iff_not, not_not,
    Bool.or_eq_false_iff, String.isEmpty_eq_false_iff, List.isEmpty_eq_false_iff, not_le,
    not_lt]
  constructor
  · rintro ⟨hiss, haud, ⟨⟨⟨⟨⟨⟨h1, h2⟩, h3⟩, h4⟩, h5⟩, h6⟩, h7⟩, hlive, hissued, hordered⟩
    exact ⟨hiss, haud, ⟨h1, h2, h3, h4, h5, h6, h7⟩, hlive, hissued, hordered⟩
  · rintro ⟨hiss, haud, ⟨h1, h2, h3, h4, h5, h6, h7⟩, hlive, hissued, hordered⟩
    exact ⟨hiss, haud, ⟨⟨⟨⟨⟨⟨h1, h2⟩, h3⟩, h4⟩, h5⟩, h6⟩, h7⟩, hlive, hissued, hordered⟩

def validateDeviceBinding (claims : LeaseClaims) (deviceId : String) :
    Except AuthorizationError Unit :=
  if claims.deviceId = deviceId then .ok () else .error .bindingMismatch

def validateSessionBinding (claims : LeaseClaims) (deviceId sessionId : String) :
    Except AuthorizationError Unit := do
  validateDeviceBinding claims deviceId
  if claims.sessionId = sessionId then .ok () else .error .bindingMismatch

def requireCapability (claims : LeaseClaims) (capability : ProtectedCapability) :
    Except AuthorizationError Unit :=
  if claims.capabilities.contains capability then .ok () else .error .missingCapability

/-- The check of an Ed25519 signature that leases and manifests share. -/
def Crates.verifySigned (c : Crates) (label : String) (message : AuthorityMessage)
    (signature publicKeyBase64url : String) : Except AuthorizationError Unit := do
  let keyBytes ← (c.base64Decode publicKeyBase64url).mapError
    (fun e => .malformed ("invalid authorization public key: " ++ e))
  refuseIf (keyBytes.length ≠ 32) (.malformed "authorization public key must be 32 bytes")
  (c.ed25519Key keyBytes).mapError (fun e => .malformed ("invalid authorization public key: " ++ e))
  let signatureBytes ← (c.base64Decode signature).mapError
    (fun e => .malformed ("invalid " ++ label ++ " signature: " ++ e))
  (c.ed25519Signature signatureBytes).mapError
    (fun e => .malformed ("invalid " ++ label ++ " signature: " ++ e))
  refuseIf (!c.ed25519Verify keyBytes message signatureBytes) .invalidSignature

/-- The signature decodes and verifies under the key. -/
def Crates.SignedUnder (c : Crates) (message : AuthorityMessage)
    (signature publicKeyBase64url : String) : Prop :=
  ∃ keyBytes signatureBytes, c.base64Decode publicKeyBase64url = .ok keyBytes ∧
    c.base64Decode signature = .ok signatureBytes ∧
    c.ed25519Verify keyBytes message signatureBytes = true

theorem Crates.verifySigned_ok {c : Crates} {label : String} {message : AuthorityMessage}
    {signature publicKeyBase64url : String}
    (h : c.verifySigned label message signature publicKeyBase64url = .ok ()) :
    c.SignedUnder message signature publicKeyBase64url := by
  simp only [verifySigned, bind_eq_ok, mapError_eq_ok, refuseIf_eq_ok, Bool.not_eq_false'] at h
  obtain ⟨keyBytes, hkey, -, -, -, -, signatureBytes, hsignature, -, -, hverify⟩ := h
  exact ⟨keyBytes, signatureBytes, hkey, hsignature, hverify⟩

def Crates.verifySignedLease (c : Crates) (lease : SignedLease) (publicKeyBase64url : String)
    (now : ℤ) : Except AuthorizationError Unit := do
  c.verifySigned "authorization" (.lease lease.claims) lease.signature publicKeyBase64url
  validateClaims lease.claims now

theorem Crates.verifySignedLease_ok {c : Crates} {lease : SignedLease} {publicKeyBase64url : String}
    {now : ℤ} (h : c.verifySignedLease lease publicKeyBase64url now = .ok ()) :
    c.SignedUnder (.lease lease.claims) lease.signature publicKeyBase64url ∧
      ClaimsValid lease.claims now := by
  obtain ⟨_, hsigned, hclaims⟩ := bind_eq_ok.mp h
  exact ⟨verifySigned_ok hsigned, validateClaims_eq_ok.mp hclaims⟩

def Crates.verifySignedArtifactManifest (c : Crates) (manifest : ArtifactManifest)
    (signature publicKeyBase64url : String) (now : ℤ) : Except AuthorizationError Unit := do
  c.verifySigned "artifact" (.manifest manifest) signature publicKeyBase64url
  refuseIf (manifest.expiresAt ≤ now) .leaseExpired

def u64Max : ℕ := 2 ^ 64 - 1

def validateArtifactManifest (manifest : ArtifactManifest) (claims : LeaseClaims)
    (deviceId sessionId : String) (now : ℤ) : Except AuthorizationError Unit := do
  validateClaims claims now
  validateSessionBinding claims deviceId sessionId
  refuseIf (manifest.deviceId ≠ deviceId || manifest.sessionId ≠ sessionId ||
      manifest.expiresAt ≤ now || manifest.expiresAt > claims.exp || manifest.sizeBytes = 0 ||
      byteLength manifest.sha256 ≠ 64 || !isAsciiHex manifest.sha256 ||
      manifest.transferId.isEmpty || manifest.serverEphemeralPublicKey.isEmpty ||
      manifest.chunkSizeBytes ≠ artifactChunkSize || manifest.chunkCount = 0 ||
      manifest.chunkCount ≠
        min (manifest.sizeBytes + (artifactChunkSize - 1)) u64Max / artifactChunkSize ||
      manifest.noncePrefix.isEmpty)
    .artifactIntegrityFailed
  requireCapability claims .protectedArtifact

def Crates.deriveX25519SharedSecret (c : Crates) (secret : List UInt8)
    (peerPublicBase64url : String) : Except AuthorizationError (List UInt8) := do
  let peer ← (c.base64Decode peerPublicBase64url).mapError .malformed
  refuseIf (peer.length ≠ 32) (.malformed "ephemeral public key must be 32 bytes")
  pure (c.x25519 secret peer)

def artifactKeyContext (manifest : ArtifactManifest) : List UInt8 :=
  bytes "rdc-artifact-key-v1" ++ [0] ++
    [manifest.transferId, manifest.artifactId, manifest.version, manifest.sessionId,
      manifest.deviceId, manifest.sha256].flatMap (fun value => bytes value ++ [0])

def Crates.deriveArtifactKey (c : Crates) (sharedSecret : List UInt8) (manifest : ArtifactManifest) :
    Except AuthorizationError (List UInt8) :=
  match c.hkdfSha256 (bytes "rdc-artifact-v1") sharedSecret (artifactKeyContext manifest) with
  | some key => .ok key
  | none => .error (.malformed "artifact key derivation failed")

def Crates.artifactNonce (c : Crates) (manifest : ArtifactManifest) (index : UInt32) :
    Except AuthorizationError (List UInt8) := do
  let lead ← (c.base64Decode manifest.noncePrefix).mapError .malformed
  refuseIf (lead.length ≠ 8) (.malformed "artifact nonce prefix must be 8 bytes")
  pure (lead ++ [(index >>> 24).toUInt8, (index >>> 16).toUInt8, (index >>> 8).toUInt8,
    index.toUInt8])

def artifactAad (manifest : ArtifactManifest) (index : UInt32) : List UInt8 :=
  bytes ("rdc-artifact-chunk-v1\n" ++ manifest.transferId ++ "\n" ++ manifest.artifactId ++ "\n" ++
    manifest.version ++ "\n" ++ manifest.sessionId ++ "\n" ++ manifest.deviceId ++ "\n" ++
    toString index)

def Crates.decryptArtifactChunk (c : Crates) (key : List UInt8) (manifest : ArtifactManifest)
    (index : UInt32) (ciphertext : List UInt8) : Except AuthorizationError (List UInt8) := do
  let nonce ← c.artifactNonce manifest index
  match c.chacha20Poly1305Open key nonce (artifactAad manifest index) ciphertext with
  | some plaintext => .ok plaintext
  | none => .error .artifactIntegrityFailed

end JustRun.Desktop
