import JustRun.Authorization.Store
import JustRun.Concurrency.Interleaving

/-!
# The atomic calls of a handler

Every method of the store, critical section of the transfer registry, file
operation, clock reading and random draw is one call. A fallible call may fail
without an effect; `consume_nonce` may fail after its deletion has committed.
Random values are chosen by the environment and never repeat.
-/
namespace JustRun.Authorization
open Machine Relational

inductive Call where
  | now
  | uuid
  | randomNonce
  | randomX25519Keypair
  | randomNoncePrefix
  | createPendingClient (clientId accountId deviceId devicePublicKey : String)
      (clientKeyAlgorithm : ClientKeyAlgorithm) (clientVersion : String)
  | setRegistrationChallenge (clientId challenge requestedClientVersion : String) (expiresAt : ℤ)
  | registrationChallenge (clientId challenge : String) (now : ℤ)
  | takeRegistrationChallenge (clientId challenge : String) (now : ℤ)
  | client (clientId : String)
  | clientByDevice (deviceId : String)
  | updateClientRegistration (clientId devicePublicKey : String)
      (clientKeyAlgorithm : ClientKeyAlgorithm) (clientVersion : String)
  | approveClient (clientId : String)
  | approveClientForAccount (clientId accountId : String)
  | revokeClientRow (clientId : String)
  | revokeClientSessions (clientId : String)
  | grantEntitlement (accountId : String) (capability : ProtectedCapability)
  | revokeEntitlement (accountId : String) (capability : ProtectedCapability)
  | hasEntitlement (accountId : String) (capability : ProtectedCapability)
  | consumeNonce (nonce : String) (now : ℤ)
  | createSession (sessionId : String) (client : ClientRecord)
      (capabilities : List ProtectedCapability) (jti : String) (exp : ℤ)
  | revokeActiveSessionsForClient (clientId : String) (now : ℤ)
  | session (sessionId : String)
  | refreshSession (sessionId : String) (capabilities : List ProtectedCapability) (jti : String)
      (exp : ℤ)
  | revokeSession (sessionId : String)
  | publishArtifact (artifactId version targetAbi targetAndroid path : String)
  | artifact (artifactId : String)
  | canonicalize (path : String)
  | sha256File (path : Path)
  | fileSize (path : Path)
  | readFile (path : Path)
  | readChunk (path : Path) (offset length : ℕ)
  | registerTransfer (now : ℤ) (transferId : String) (transfer : ArtifactTransfer)
  | lookupTransfer (now : ℤ) (transferId : String)

namespace Call

/-- What the call answers when it does not fail. -/
abbrev Val : Call → Type
  | now => Reading
  | uuid | randomNonce | randomNoncePrefix => String
  | randomX25519Keypair => List UInt8 × String
  | createPendingClient .. | setRegistrationChallenge .. | revokeClientSessions .. => Unit
  | registrationChallenge .. | takeRegistrationChallenge .. => Option String
  | client .. | clientByDevice .. => Option ClientRecord
  | updateClientRegistration .. | approveClient .. | approveClientForAccount .. => Bool
  | revokeClientRow .. | revokeEntitlement .. | hasEntitlement .. | consumeNonce .. => Bool
  | grantEntitlement .. | createSession .. | revokeActiveSessionsForClient .. => Unit
  | session .. => Option SessionRecord
  | refreshSession .. | revokeSession .. => Bool
  | publishArtifact .. => Unit
  | artifact .. => Option ArtifactRecord
  | canonicalize .. => Path
  | sha256File .. => ℕ × String
  | fileSize .. => ℕ
  | readFile .. | readChunk .. => List UInt8
  | registerTransfer .. => Bool
  | lookupTransfer .. => Option ArtifactTransfer

/-- Calls that draw a random value. -/
def draws : Call → Bool
  | uuid | randomNonce | randomX25519Keypair | randomNoncePrefix => true
  | _ => false

/-- Draws and the transfer registry never fail. -/
def infallible : Call → Bool
  | registerTransfer .. | lookupTransfer .. => true
  | call => call.draws

end Call

/-- A random value: its text, and the secret behind it where there is one. -/
structure Draw where
  text : String
  secret : List UInt8 := []

inductive Choice where
  | run (draw : Draw)
  /-- The call fails, after its first statement when `late`. -/
  | fault (late : Bool)

namespace State
variable (cfg : Config) (s : State)

/-- The effect of a call; `none` is a violated constraint or an unreadable file. -/
def effect (draw : Draw) : (call : Call) → Option (call.Val × State)
  | .now => some (s.clock, s)
  | .uuid => some (draw.text, { s with drawn := draw.text :: s.drawn })
  | .randomNonce => some (draw.text, { s with drawn := draw.text :: s.drawn })
  | .randomX25519Keypair =>
    some ((draw.secret, draw.text), { s with drawn := draw.text :: s.drawn })
  | .randomNoncePrefix => some (draw.text, { s with drawn := draw.text :: s.drawn })
  | .createPendingClient clientId accountId deviceId devicePublicKey algorithm version =>
    (s.createPendingClient clientId accountId deviceId devicePublicKey algorithm version).map
      (((), ·))
  | .setRegistrationChallenge clientId challenge version expiresAt =>
    (s.setRegistrationChallenge clientId challenge version expiresAt).map (((), ·))
  | .registrationChallenge clientId challenge now =>
    some (s.registrationChallenge clientId challenge now, s)
  | .takeRegistrationChallenge clientId challenge now =>
    some (s.takeRegistrationChallenge clientId challenge now)
  | .client clientId => some (s.client clientId, s)
  | .clientByDevice deviceId => some (s.clientByDevice deviceId, s)
  | .updateClientRegistration clientId devicePublicKey algorithm version =>
    some (s.updateClientRegistration clientId devicePublicKey algorithm version)
  | .approveClient clientId => some (s.approveClient clientId)
  | .approveClientForAccount clientId accountId => some (s.approveClientForAccount clientId accountId)
  | .revokeClientRow clientId => some (s.revokeClientRow clientId)
  | .revokeClientSessions clientId => some ((), s.revokeClientSessions clientId)
  | .grantEntitlement accountId capability => some ((), s.grantEntitlement accountId capability)
  | .revokeEntitlement accountId capability => some (s.revokeEntitlement accountId capability)
  | .hasEntitlement accountId capability => some (s.hasEntitlement accountId capability, s)
  | .consumeNonce nonce now => some (s.consumeNonce nonce now)
  | .createSession sessionId client capabilities jti exp =>
    (s.createSession sessionId client capabilities jti exp).map (((), ·))
  | .revokeActiveSessionsForClient clientId now =>
    some ((), s.revokeActiveSessionsForClient clientId now)
  | .session sessionId => some (s.session sessionId, s)
  | .refreshSession sessionId capabilities jti exp => s.refreshSession sessionId capabilities jti exp
  | .revokeSession sessionId => some (s.revokeSession sessionId)
  | .publishArtifact artifactId version abi android path =>
    some ((), s.publishArtifact artifactId version abi android path)
  | .artifact artifactId => some (s.artifact artifactId, s)
  | .canonicalize path => (s.canonical path).map (·, s)
  | .sha256File path => (s.files path).map (fun content =>
      ((content.length, cfg.crypto.sha256 content), s))
  | .fileSize path => (s.files path).map (fun content => (content.length, s))
  | .readFile path => (s.files path).map (·, s)
  | .readChunk path offset length => (s.files path).bind (fun content =>
      if offset + length ≤ content.length then some ((content.drop offset).take length, s) else none)
  | .registerTransfer now transferId transfer =>
    some (s.registerTransfer (max 1 cfg.maxActiveTransfers) now transferId transfer)
  | .lookupTransfer now transferId => some (s.lookupTransfer now transferId)

/-- What a call that fails may leave behind. -/
def afterFault (late : Bool) : Call → State
  | .consumeNonce _ now => if late then s.pruneNonces now else s
  | _ => s

/-- One atomic call; `none` when the choice is no possible outcome of it. -/
def exec (choice : Choice) (call : Call) : Option (Option call.Val × State) :=
  match choice with
  | .run draw =>
    if call.draws && s.drawn.contains draw.text then none
    else match s.effect cfg draw call with
      | some (v, s') => some (some v, s')
      | none => some (none, s)
  | .fault late => if call.infallible then none else some (none, s.afterFault late call)

end State

/-- What a call can do: fail, leaving at most a pruned nonce table, or take effect. -/
theorem State.exec_cases {cfg : Config} {s s' : State} {choice : Choice} {call : Call}
    {r : Option call.Val} (h : s.exec cfg choice call = some (r, s')) :
    (r = none ∧ (s' = s ∨ ∃ nonce now, call = .consumeNonce nonce now ∧ s' = s.pruneNonces now)) ∨
    ∃ draw v, r = some v ∧ s.effect cfg draw call = some (v, s') ∧
      (call.draws = true → draw.text ∉ s.drawn) := by
  unfold State.exec at h
  cases choice with
  | run draw =>
    simp only at h
    split at h
    · cases h
    · next hd =>
      split at h
      · next v s'' he =>
        cases h
        exact .inr ⟨draw, v, rfl, he, fun hc hm => hd (by simpa [hc] using hm)⟩
      · cases h; exact .inl ⟨rfl, .inl rfl⟩
  | fault late =>
    simp only at h
    split at h
    · cases h
    · cases h
      refine .inl ⟨rfl, ?_⟩
      cases call with
      | consumeNonce nonce now =>
        cases late
        · exact .inl rfl
        · exact .inr ⟨nonce, now, rfl, rfl⟩
      | _ => exact .inl rfl

/-- A predicate of the state survives every call when the failing and the
effective calls keep it. -/
theorem State.exec_preserves {cfg : Config} {I : State → Prop} {s s' : State} {choice : Choice}
    {call : Call} {r : Option call.Val} (h : s.exec cfg choice call = some (r, s')) (hs : I s)
    (hprune : ∀ now, I (s.pruneNonces now))
    (heffect : ∀ draw v, s.effect cfg draw call = some (v, s') → I s') : I s' := by
  rcases State.exec_cases h with ⟨-, rfl | ⟨nonce, now, -, rfl⟩⟩ | ⟨draw, v, -, he, -⟩
  · exact hs
  · exact hprune now
  · exact heffect draw v he

end JustRun.Authorization
