import JustRun.Authorization.Protocol
import JustRun.Relational.ReplayCache

/-!
# The authorization store

The tables of `store.rs` and its methods. A method is one critical section of
the connection mutex; `none` is a violated constraint, which leaves the tables
as they were. With the tables stand the transfer registry of `AppState`, the
system clock, the artifact files and the random values drawn so far.
-/
namespace JustRun.Authorization
open Machine Relational

def nonceRetentionSecs : ℤ := requestMaxAgeSecs + maxClockSkewSecs

structure ClientRecord where
  clientId : String
  accountId : String
  deviceId : String
  devicePublicKey : String
  clientKeyAlgorithm : ClientKeyAlgorithm
  clientVersion : String
  approved : Bool
  revoked : Bool
  deriving DecidableEq

structure RegistrationChallenge where
  clientId : String
  challenge : String
  requestedClientVersion : String
  expiresAt : ℤ
  deriving DecidableEq

/-- A row of `sessions`; `SessionRecord` is the row without its `jti`. -/
structure SessionRecord where
  sessionId : String
  clientId : String
  accountId : String
  deviceId : String
  capabilities : List ProtectedCapability
  jti : String
  exp : ℤ
  revoked : Bool
  deriving DecidableEq

structure Entitlement where
  accountId : String
  capability : ProtectedCapability
  enabled : Bool
  deriving DecidableEq

def Entitlement.key (e : Entitlement) : String × ProtectedCapability := (e.accountId, e.capability)

structure ArtifactRecord where
  artifactId : String
  version : String
  targetAbi : String
  targetAndroid : String
  path : String
  enabled : Bool
  deriving DecidableEq

/-- A canonical path, component by component. -/
abbrev Path := List String

structure ArtifactTransfer where
  artifactId : String
  sessionId : String
  deviceId : String
  path : Path
  manifest : ArtifactManifest
  sharedSecret : List UInt8
  deriving DecidableEq

structure State where
  clients : Table ClientRecord.clientId
  registrationChallenges : Table RegistrationChallenge.clientId
  usedNonces : ReplayCache String
  sessions : Table SessionRecord.sessionId
  entitlements : Table Entitlement.key
  artifacts : Table ArtifactRecord.artifactId
  transfers : Table (Prod.fst : String × ArtifactTransfer → String)
  clock : Reading
  drawn : List String
  canonical : String → Option Path
  files : Path → Option (List UInt8)

/-- A fresh database and process, at any time, over any artifact files. -/
def State.initial (clock : Reading) (canonical : String → Option Path)
    (files : Path → Option (List UInt8)) : State where
  clients := .empty
  registrationChallenges := .empty
  usedNonces := .empty
  sessions := .empty
  entitlements := .empty
  artifacts := .empty
  transfers := .empty
  clock := clock
  drawn := []
  canonical := canonical
  files := files

namespace State
variable (s : State)

def createPendingClient (clientId accountId deviceId devicePublicKey : String)
    (clientKeyAlgorithm : ClientKeyAlgorithm) (clientVersion : String) : Option State :=
  (s.clients.insert? (fun r => r.deviceId = deviceId)
    { clientId, accountId, deviceId, devicePublicKey, clientKeyAlgorithm, clientVersion,
      approved := false, revoked := false }).map (fun t => { s with clients := t })

/-- The row references its client. -/
def setRegistrationChallenge (clientId challenge requestedClientVersion : String)
    (expiresAt : ℤ) : Option State :=
  match s.clients.find? clientId with
  | none => none
  | some _ => some { s with
      registrationChallenges := s.registrationChallenges.upsert
        { clientId, challenge, requestedClientVersion, expiresAt } }

def registrationChallenge (clientId challenge : String) (now : ℤ) : Option String :=
  ((s.registrationChallenges.find? clientId).filter
    (fun r => r.challenge = challenge && r.expiresAt > now)).map (·.requestedClientVersion)

def takeRegistrationChallenge (clientId challenge : String) (now : ℤ) : Option String × State :=
  match s.registrationChallenge clientId challenge now with
  | some version => (some version, { s with
      registrationChallenges :=
        s.registrationChallenges.deleteWhere (fun r => r.clientId = clientId) })
  | none => (none, s)

def client (clientId : String) : Option ClientRecord := s.clients.find? clientId

def clientByDevice (deviceId : String) : Option ClientRecord :=
  s.clients.rows.find? (fun r => r.deviceId = deviceId)

def updateClientRegistration (clientId devicePublicKey : String)
    (clientKeyAlgorithm : ClientKeyAlgorithm) (clientVersion : String) : Bool × State :=
  (s.clients.anyRow (fun r => r.clientId = clientId && !r.revoked),
    { s with
      sessions := s.sessions.updateWhere (fun r => r.clientId = clientId && !r.revoked)
        (fun r => { r with revoked := true }) (fun _ => rfl)
      clients := s.clients.updateWhere (fun r => r.clientId = clientId && !r.revoked)
        (fun r => { r with devicePublicKey, clientKeyAlgorithm, clientVersion }) (fun _ => rfl) })

def approveClient (clientId : String) : Bool × State :=
  (s.clients.anyRow (fun r => r.clientId = clientId),
    { s with
      clients := s.clients.updateWhere (fun r => r.clientId = clientId)
        (fun r => { r with approved := true }) (fun _ => rfl) })

def approveClientForAccount (clientId accountId : String) : Bool × State :=
  (s.clients.anyRow (fun r => r.clientId = clientId),
    { s with
      clients := s.clients.updateWhere (fun r => r.clientId = clientId)
        (fun r => { r with accountId, approved := true }) (fun _ => rfl) })

/-- The first statement of `revoke_client`. -/
def revokeClientRow (clientId : String) : Bool × State :=
  (s.clients.anyRow (fun r => r.clientId = clientId),
    { s with
      clients := s.clients.updateWhere (fun r => r.clientId = clientId)
        (fun r => { r with revoked := true }) (fun _ => rfl) })

/-- The second statement of `revoke_client`. -/
def revokeClientSessions (clientId : String) : State :=
  { s with
      sessions := s.sessions.updateWhere (fun r => r.clientId = clientId)
        (fun r => { r with revoked := true }) (fun _ => rfl) }

def grantEntitlement (accountId : String) (capability : ProtectedCapability) : State :=
  { s with
      entitlements := s.entitlements.upsert ⟨accountId, capability, true⟩ }

def revokeEntitlement (accountId : String) (capability : ProtectedCapability) : Bool × State :=
  (s.entitlements.anyRow (fun r => r.key = (accountId, capability) && r.enabled),
    { s with
      entitlements := s.entitlements.updateWhere
        (fun r => r.key = (accountId, capability) && r.enabled)
        (fun r => { r with enabled := false }) (fun _ => rfl) })

def hasEntitlement (accountId : String) (capability : ProtectedCapability) : Bool :=
  match s.entitlements.find? (accountId, capability) with
  | some r => r.enabled
  | none => false

def consumeNonce (nonce : String) (now : ℤ) : Bool × State :=
  let r := s.usedNonces.reserve (saturatingSub now nonceRetentionSecs) nonce now
  (r.1, { s with usedNonces := r.2 })

/-- The deletion of `consume_nonce` alone, when its insertion fails. -/
def pruneNonces (now : ℤ) : State :=
  { s with usedNonces := s.usedNonces.prune (saturatingSub now nonceRetentionSecs) }

/-- The row references its client, and its `jti` is unique. -/
def createSession (sessionId : String) (client : ClientRecord)
    (capabilities : List ProtectedCapability) (jti : String) (exp : ℤ) : Option State :=
  match s.clients.find? client.clientId with
  | none => none
  | some _ => (s.sessions.insert? (fun r => r.jti = jti)
      { sessionId, clientId := client.clientId, accountId := client.accountId,
        deviceId := client.deviceId, capabilities, jti, exp, revoked := false }).map
      (fun t => { s with sessions := t })

def revokeActiveSessionsForClient (clientId : String) (now : ℤ) : State :=
  { s with
      sessions := s.sessions.updateWhere
        (fun r => r.clientId = clientId && !r.revoked && r.exp > now)
        (fun r => { r with revoked := true }) (fun _ => rfl) }

def session (sessionId : String) : Option SessionRecord := s.sessions.find? sessionId

def refreshSession (sessionId : String) (capabilities : List ProtectedCapability) (jti : String)
    (exp : ℤ) : Option (Bool × State) :=
  let selected := fun r : SessionRecord => r.sessionId = sessionId && !r.revoked
  if s.sessions.anyRow selected && s.sessions.anyRow (fun r => r.sessionId ≠ sessionId && r.jti = jti)
  then none
  else some (s.sessions.anyRow selected, { s with
      sessions := s.sessions.updateWhere selected
        (fun r => { r with capabilities, jti, exp }) (fun _ => rfl) })

def revokeSession (sessionId : String) : Bool × State :=
  (s.sessions.anyRow (fun r => r.sessionId = sessionId),
    { s with
      sessions := s.sessions.updateWhere (fun r => r.sessionId = sessionId)
        (fun r => { r with revoked := true }) (fun _ => rfl) })

def publishArtifact (artifactId version targetAbi targetAndroid path : String) : State :=
  { s with
      artifacts := s.artifacts.upsert
        { artifactId, version, targetAbi, targetAndroid, path, enabled := true } }

def artifact (artifactId : String) : Option ArtifactRecord :=
  (s.artifacts.find? artifactId).filter (·.enabled)

/-- `transfers.retain(..)`. -/
def retainTransfers (now : ℤ) : State :=
  { s with transfers := s.transfers.deleteWhere (fun t => !(t.2.manifest.expiresAt > now)) }

/-- The critical section of `prepare_artifact`; `false` when the capacity is exhausted. -/
def registerTransfer (limit : ℕ) (now : ℤ) (transferId : String) (transfer : ArtifactTransfer) :
    Bool × State :=
  let kept := s.retainTransfers now
  if kept.transfers.rows.length ≥ limit then (false, kept)
  else (true, { kept with transfers := kept.transfers.upsert (transferId, transfer) })

/-- The critical section of `artifact_chunk`. -/
def lookupTransfer (now : ℤ) (transferId : String) : Option ArtifactTransfer × State :=
  let kept := s.retainTransfers now
  ((kept.transfers.find? transferId).map Prod.snd, kept)

end State
end JustRun.Authorization
