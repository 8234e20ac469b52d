import JustRun.Authorization.Handlers

/-!
# What a call can change

Each relation of the store is written by a few calls only. The frame is proved
once for all calls; after it, a lemma about a relation looks at its writers.
-/
namespace JustRun.Authorization
open Machine Relational Concurrency

inductive Relation where
  | clients
  | registrationChallenges
  | usedNonces
  | sessions
  | entitlements
  | artifacts
  | transfers
  deriving DecidableEq

def Call.writes : Call → Relation → Bool
  | createPendingClient .., r => r = .clients
  | setRegistrationChallenge .., r => r = .registrationChallenges
  | takeRegistrationChallenge .., r => r = .registrationChallenges
  | updateClientRegistration .., r => r = .clients || r = .sessions
  | approveClient .., r | approveClientForAccount .., r | revokeClientRow .., r => r = .clients
  | revokeClientSessions .., r => r = .sessions
  | grantEntitlement .., r | revokeEntitlement .., r => r = .entitlements
  | consumeNonce .., r => r = .usedNonces
  | createSession .., r | revokeActiveSessionsForClient .., r => r = .sessions
  | refreshSession .., r | revokeSession .., r => r = .sessions
  | publishArtifact .., r => r = .artifacts
  | registerTransfer .., r | lookupTransfer .., r => r = .transfers
  | _, _ => false

/-- What a call leaves as it was. -/
structure Frame (s s' : State) (call : Call) : Prop where
  clients : call.writes .clients = false → s'.clients = s.clients
  registrationChallenges : call.writes .registrationChallenges = false →
    s'.registrationChallenges = s.registrationChallenges
  usedNonces : call.writes .usedNonces = false → s'.usedNonces = s.usedNonces
  sessions : call.writes .sessions = false → s'.sessions = s.sessions
  entitlements : call.writes .entitlements = false → s'.entitlements = s.entitlements
  artifacts : call.writes .artifacts = false → s'.artifacts = s.artifacts
  transfers : call.writes .transfers = false → s'.transfers = s.transfers
  clock : s'.clock = s.clock
  drawn : s.drawn ⊆ s'.drawn
  files : s'.files = s.files

theorem Frame.refl (s : State) (call : Call) : Frame s s call := by
  constructor <;> simp

variable {cfg : Config} {s s' : State} {draw : Draw} {call : Call} {v : call.Val}

theorem effect_frame (h : s.effect cfg draw call = some (v, s')) : Frame s s' call := by
  cases call with
  | createPendingClient clientId accountId deviceId key algorithm version =>
    simp only [State.effect, State.createPendingClient, Option.map_map, Option.map_eq_some_iff] at h
    obtain ⟨t, -, ht⟩ := h
    cases ht
    constructor <;> simp [Call.writes]
  | setRegistrationChallenge clientId challenge version expiresAt =>
    simp only [State.effect, State.setRegistrationChallenge] at h
    split at h
    · cases h
    · cases h; constructor <;> simp [Call.writes]
  | takeRegistrationChallenge clientId challenge now =>
    simp only [State.effect, State.takeRegistrationChallenge] at h
    split at h
    all_goals cases h; constructor <;> simp [Call.writes]
  | createSession sessionId client capabilities jti exp =>
    simp only [State.effect, State.createSession] at h
    split at h
    · cases h
    · simp only [Option.map_map, Option.map_eq_some_iff] at h
      obtain ⟨t, -, ht⟩ := h
      cases ht
      constructor <;> simp [Call.writes]
  | refreshSession sessionId capabilities jti exp =>
    simp only [State.effect, State.refreshSession] at h
    split at h
    · cases h
    · cases h; constructor <;> simp [Call.writes]
  | registerTransfer now transferId transfer =>
    obtain rfl : (s.registerTransfer (max 1 cfg.maxActiveTransfers) now transferId transfer).2 = s' :=
      congrArg Prod.snd (Option.some.inj h)
    simp only [State.registerTransfer]
    split
    all_goals constructor <;> simp [Call.writes, State.retainTransfers]
  | canonicalize path | sha256File path | fileSize path | readFile path =>
    simp only [State.effect, Option.map_eq_some_iff] at h
    obtain ⟨t, -, ht⟩ := h
    cases ht
    exact .refl s _
  | readChunk path offset length =>
    simp only [State.effect, Option.bind_eq_some_iff] at h
    obtain ⟨t, -, ht⟩ := h
    split at ht
    · cases ht; exact .refl s _
    · cases ht
  | _ => cases h; constructor <;> simp [Call.writes, State.revokeClientSessions,
      State.grantEntitlement, State.revokeActiveSessionsForClient, State.publishArtifact,
      State.retainTransfers]

theorem exec_frame {choice : Choice} {r : Option call.Val}
    (h : s.exec cfg choice call = some (r, s')) : Frame s s' call := by
  rcases State.exec_cases h with ⟨-, rfl | ⟨nonce, now, rfl, rfl⟩⟩ | ⟨draw, v, -, he, -⟩
  · exact .refl s' call
  · constructor <;> simp [Call.writes, State.pruneNonces]
  · exact effect_frame he

/-! The environment moves no relation. -/
section Moves
variable (move : Env)

@[simp] theorem State.move_clients : (s.move move).clients = s.clients := by
  cases move <;> simp only [State.move]
  split <;> rfl

@[simp] theorem State.move_registrationChallenges :
    (s.move move).registrationChallenges = s.registrationChallenges := by
  cases move <;> simp only [State.move]
  split <;> rfl

@[simp] theorem State.move_usedNonces : (s.move move).usedNonces = s.usedNonces := by
  cases move <;> simp only [State.move]
  split <;> rfl

@[simp] theorem State.move_sessions : (s.move move).sessions = s.sessions := by
  cases move <;> simp only [State.move]
  split <;> rfl

@[simp] theorem State.move_transfers : (s.move move).transfers = s.transfers := by
  cases move <;> simp only [State.move]
  split <;> rfl

@[simp] theorem State.move_drawn : (s.move move).drawn = s.drawn := by
  cases move <;> simp only [State.move]
  split <;> rfl

theorem State.clock_le_move : s.clock.val ≤ (s.move move).clock.val := by
  cases move with
  | tick reading =>
    simp only [State.move]
    split
    · assumption
    · rfl
  | writeFile path content => rfl
  | link path target => rfl

end Moves
end JustRun.Authorization
