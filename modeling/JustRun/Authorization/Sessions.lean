import JustRun.Authorization.Runs

/-!
# One live session for each client

`create_session` revokes the client's sessions and inserts the new one in two
critical sections, and a heartbeat renews the session it checked before. The
client keeps a single live session as long as no insertion or renewal of another
handler comes in between.
-/
namespace JustRun.Authorization
open Machine Relational Concurrency

/-- Unrevoked and unexpired at the current clock. -/
def State.live (s : State) (row : SessionRecord) : Bool :=
  !row.revoked && s.clock.val < row.exp

def SingleSession (s : State) : Prop :=
  ∀ row ∈ s.sessions, ∀ row' ∈ s.sessions, row.clientId = row'.clientId →
    s.live row = true → s.live row' = true → row = row'

/-- The session that a logged call has inserted or renewed. -/
def touched? : ServiceEntry → Option String
  | ⟨_, _, .createSession sessionId _ _ _ _, some _⟩ => some sessionId
  | ⟨_, _, .refreshSession sessionId _ _ _, some true⟩ => some sessionId
  | _ => none

def revokesActive (pid : ℕ) (e : ServiceEntry) : Bool :=
  e.pid = pid && match e.op with
    | .revokeActiveSessionsForClient .. => true
    | _ => false

/-- The log from the handler's own revocation of the client's sessions on. -/
def sinceRevocation (pid : ℕ) (log : List ServiceEntry) : List ServiceEntry :=
  log.dropWhile (fun e => !revokesActive pid e)

/-- A step that keeps sessions apart. An insertion finds no live session that another
handler has inserted or renewed since this handler's own revocation, and the renewal of
an expired session finds no other live one. -/
def Serialised (w : ServiceWorld) : ServiceAction → Prop
  | .exec pid _ => match w.pending? pid with
    | some (.createSession _ client _ _ _) => ∀ x ∈ sinceRevocation pid w.log,
        ∀ sessionId ∈ touched? x, ∀ row ∈ w.state.session sessionId,
          row.clientId = client.clientId → w.state.live row = false
    | some (.refreshSession sessionId _ _ _) => ∀ row ∈ w.state.session sessionId,
        row.revoked = false → row.exp ≤ w.state.clock.val →
          ∀ row' ∈ w.state.sessions.rows, row'.clientId = row.clientId → w.state.live row' = false
    | _ => True
  | _ => True

instance (w : ServiceWorld) (a : ServiceAction) : Decidable (Serialised w a) := by
  unfold Serialised
  split
  · split <;> infer_instance
  · infer_instance

variable {cfg : Config} {s s' : State}

/-- Where a row of `sessions` comes from: it was there, perhaps unrevoked, or the call
has inserted it or renewed it. -/
inductive SessionOrigin (s : State) (call : Call) (res : Option call.Val) (row : SessionRecord) :
    Prop
  | same (old : row ∈ s.sessions)
  | revoked (old : SessionRecord) (h : old ∈ s.sessions) (eq : row = { old with revoked := true })
  | inserted (client : ClientRecord) (capabilities : List ProtectedCapability) (jti : String)
      (exp : ℤ) (hcall : call = .createSession row.sessionId client capabilities jti exp)
      (id : row.clientId = client.clientId)
      (touched : ∀ pid, touched? ⟨pid, s, call, res⟩ = some row.sessionId)
  | renewed (old : SessionRecord) (h : old ∈ s.sessions) (live : old.revoked = false)
      (capabilities : List ProtectedCapability) (jti : String) (exp : ℤ)
      (hcall : call = .refreshSession row.sessionId capabilities jti exp)
      (eq : row = { old with capabilities, jti, exp })
      (touched : ∀ pid, touched? ⟨pid, s, call, res⟩ = some row.sessionId)

theorem SessionOrigin.of_revokeWhere {call : Call} {res : Option call.Val} {row : SessionRecord}
    {p : SessionRecord → Bool}
    (h : row ∈ s.sessions.updateWhere p (fun r => { r with revoked := true }) (fun _ => rfl)) :
    SessionOrigin s call res row := by
  obtain ⟨old, hold, hrow⟩ := Table.mem_updateWhere.mp h
  split at hrow
  · exact .revoked old hold hrow.symm
  · exact .same (hrow ▸ hold)

theorem exec_session_origin {choice : Choice} {call : Call} {res : Option call.Val}
    (h : s.exec cfg choice call = some (res, s')) {row : SessionRecord} (hrow : row ∈ s'.sessions) :
    SessionOrigin s call res row := by
  rcases State.exec_cases h with ⟨-, rfl | ⟨nonce, now, rfl, rfl⟩⟩ | ⟨draw, v, rfl, heff, -⟩
  · exact .same hrow
  · exact .same hrow
  cases call with
  | updateClientRegistration target key algorithm version =>
    cases heff
    exact .of_revokeWhere hrow
  | revokeClientSessions target => cases heff; exact .of_revokeWhere hrow
  | revokeActiveSessionsForClient target now => cases heff; exact .of_revokeWhere hrow
  | revokeSession target => cases heff; exact .of_revokeWhere hrow
  | createSession sessionId client capabilities jti exp =>
    simp only [State.effect, State.createSession] at heff
    split at heff
    · cases heff
    · simp only [Option.map_map, Option.map_eq_some_iff] at heff
      obtain ⟨t, ht, hs'⟩ := heff
      cases hs'
      rcases (Table.mem_insert ht).mp hrow with hold | rfl
      · exact .same hold
      · exact .inserted client capabilities jti exp rfl rfl fun _ => rfl
  | refreshSession sessionId capabilities jti exp =>
    simp only [State.effect, State.refreshSession] at heff
    split at heff
    · cases heff
    · cases heff
      obtain ⟨old, hold, hnew⟩ := List.mem_map.mp hrow
      split at hnew
      · next hsel =>
        have hany : s.sessions.anyRow (fun r => r.sessionId = sessionId && !r.revoked) = true :=
          Table.anyRow_iff.mpr ⟨old, hold, hsel⟩
        simp only [Bool.and_eq_true, decide_eq_true_eq, Bool.not_eq_true'] at hsel
        obtain ⟨rfl, hlive⟩ := hsel
        subst hnew
        refine .renewed old hold hlive capabilities jti exp rfl rfl fun pid => ?_
        rw [hany]
        rfl
      · exact .same (hnew ▸ hold)
  | _ =>
    rw [(effect_frame heff).sessions rfl] at hrow
    exact .same hrow

theorem mem_dropWhile_of_split {α : Type} {p : α → Bool} {l l' : List α} {e : α} (he : p e = false)
    {x : α} (hx : x ∈ l') : x ∈ (l ++ e :: l').dropWhile p := by
  induction l with
  | nil => simp [he, hx]
  | cons a l ih =>
    rw [List.cons_append, List.dropWhile_cons]
    split
    · exact ih
    · simp [hx]

/-- What the revocation of a handler has ended stays ended until it is inserted or renewed. -/
theorem Reachable.ended_until_touched {w : ServiceWorld} (hw : Reachable cfg w)
    {l l' : List ServiceEntry} {pid : ℕ} {before : State} {clientId : String} {now : ℤ}
    (hl : w.log = l ++ ⟨pid, before, .revokeActiveSessionsForClient clientId now, some ()⟩ :: l')
    {sessionId : String} (huntouched : ∀ x ∈ l', touched? x ≠ some sessionId)
    {row : SessionRecord} (hrow : row ∈ w.state.sessions) (hid : row.sessionId = sessionId)
    (hclient : row.clientId = clientId) : row.revoked = true ∨ row.exp ≤ now := by
  refine hw.holds_since (fun s => ∀ row ∈ s.sessions, row.sessionId = sessionId →
      row.clientId = clientId → row.revoked = true ∨ row.exp ≤ now)
    (fun x => touched? x ≠ some sessionId) hl huntouched ?_ ?_ ?_ row hrow hid hclient
  · intro choice s' hx row hrow _ hclient
    rcases State.exec_cases hx with ⟨hnone, -⟩ | ⟨draw, v, -, heff, -⟩
    · cases hnone
    · cases heff
      obtain ⟨old, hold, hnew⟩ := List.mem_map.mp hrow
      split at hnew
      · rw [← hnew]
        exact .inl rfl
      · next hsel =>
        subst hnew
        simp only [hclient, decide_true, Bool.true_and, Bool.and_eq_true, Bool.not_eq_true',
          decide_eq_true_eq, not_and, gt_iff_lt, not_lt] at hsel
        by_cases hr : old.revoked = true
        · exact .inl hr
        · exact .inr (hsel (by simpa using hr))
  · intro v q request op next choice res s' hv ht hx hun ih row hrow hid hclient
    cases exec_session_origin hx hrow with
    | same old => exact ih row old hid hclient
    | revoked old h eq => exact .inl (by rw [eq])
    | inserted client capabilities jti exp hcall id touched =>
      exact absurd (hid ▸ touched q) hun
    | renewed old h live capabilities jti exp hcall eq touched =>
      exact absurd (hid ▸ touched q) hun
  · intro move s ih row hrow
    rw [State.move_sessions] at hrow
    exact ih row hrow

theorem live_iff {row : SessionRecord} :
    s.live row = true ↔ row.revoked = false ∧ s.clock.val < row.exp := by
  simp [State.live]

/-- When a handler is about to insert, each live session of its client has been inserted
or renewed since the handler's own revocation. -/
theorem Reachable.live_touched {w : ServiceWorld} (hw : Reachable cfg w) {pid : ℕ}
    {request : Request} {sessionId : String} {client : ClientRecord}
    {capabilities : List ProtectedCapability} {jti : String} {exp : ℤ}
    {next : Option Unit → Handler Response}
    (ht : w.threads pid =
      some ⟨request, .call (.createSession sessionId client capabilities jti exp) next⟩)
    {row : SessionRecord} (hrow : row ∈ w.state.sessions) (hclient : row.clientId = client.clientId)
    (hlive : w.state.live row = true) :
    ∃ x ∈ sinceRevocation pid w.log, touched? x = some row.sessionId := by
  obtain ⟨req, t, -, hnow, -, -, -, -, -, hrevoked⟩ := (hw.meets ht).1
  obtain ⟨before, he⟩ := answered_iff.mp hrevoked
  obtain ⟨l, l', hl⟩ := List.append_of_mem he
  by_contra hnone
  have huntouched : ∀ x ∈ l', touched? x ≠ some row.sessionId := by
    intro x hx htouched
    refine hnone ⟨x, ?_, htouched⟩
    rw [sinceRevocation, hl]
    exact mem_dropWhile_of_split (by simp [revokesActive]) hx
  have hle := hw.reading_le hnow
  obtain ⟨hr, hexp⟩ := live_iff.mp hlive
  rcases hw.ended_until_touched hl huntouched hrow rfl hclient with h | h
  · simp [hr] at h
  · omega

/-- A row that was not there, unchanged and live, before a call is one that the call has
inserted or renewed; then no other session of the client is live. -/
theorem alone_of_new {w : ServiceWorld} (hw : Reachable cfg w) (hsingle : SingleSession w.state)
    {pid : ℕ} {choice : Choice} {request : Request} {call : Call}
    {next : Option call.Val → Handler Response} {res : Option call.Val} {s' : State}
    (ht : w.threads pid = some ⟨request, .call call next⟩)
    (hx : w.state.exec cfg choice call = some (res, s')) (hserial : Serialised w (.exec pid choice))
    {row : SessionRecord} (hrow : row ∈ s'.sessions) (hlive : s'.live row = true)
    (hnew : ¬ row ∈ w.state.sessions) {row' : SessionRecord} (hrow' : row' ∈ w.state.sessions)
    (hclient : row'.clientId = row.clientId) (hlive' : w.state.live row' = true) :
    row'.sessionId = row.sessionId := by
  have hpending := World.pending?_eq ht
  cases exec_session_origin hx hrow with
  | same old => exact absurd old hnew
  | revoked old h eq => simp [State.live, eq] at hlive
  | inserted client capabilities jti exp hcall id touched =>
    subst hcall
    obtain ⟨x, hxs, hxt⟩ := hw.live_touched ht hrow' (hclient.trans id) hlive'
    simp only [Serialised, hpending] at hserial
    have hdead := hserial x hxs row'.sessionId hxt row'
      (Table.find?_eq_some.mpr ⟨hrow', rfl⟩) (hclient.trans id)
    rw [hdead] at hlive'
    cases hlive'
  | renewed old h live capabilities jti exp hcall eq touched =>
    subst hcall
    have hid : row.sessionId = old.sessionId := by rw [eq]
    have hown : row.clientId = old.clientId := by rw [eq]
    by_cases hold : w.state.live old = true
    · rw [hid, hsingle row' hrow' old h (hclient.trans hown) hlive' hold]
    · simp only [Serialised, hpending] at hserial
      have hexpired : old.exp ≤ w.state.clock.val := by
        by_contra hlt
        exact hold (live_iff.mpr ⟨live, by omega⟩)
      have hdead := hserial old (Table.find?_eq_some.mpr ⟨h, hid.symm⟩) live hexpired row' hrow'
        (hclient.trans hown)
      rw [hdead] at hlive'
      cases hlive'

theorem touched_of_new {choice : Choice} {call : Call} {res : Option call.Val}
    (hx : s.exec cfg choice call = some (res, s')) {row : SessionRecord} (hrow : row ∈ s'.sessions)
    (hlive : s'.live row = true) (hnew : ¬ row ∈ s.sessions) (pid : ℕ) :
    touched? ⟨pid, s, call, res⟩ = some row.sessionId := by
  cases exec_session_origin hx hrow with
  | same old => exact absurd old hnew
  | revoked old h eq => simp [State.live, eq] at hlive
  | inserted _ _ _ _ _ _ touched => exact touched pid
  | renewed _ _ _ _ _ _ _ _ touched => exact touched pid

theorem singleSession_exec {w : ServiceWorld} (hw : Reachable cfg w)
    (hsingle : SingleSession w.state) {pid : ℕ} {choice : Choice} {request : Request} {call : Call}
    {next : Option call.Val → Handler Response} {res : Option call.Val} {s' : State}
    (ht : w.threads pid = some ⟨request, .call call next⟩)
    (hx : w.state.exec cfg choice call = some (res, s'))
    (hserial : Serialised w (.exec pid choice)) : SingleSession s' := by
  intro row hrow row' hrow' hclient hlive hlive'
  have hclock : ∀ r, w.state.live r = s'.live r := fun r => by
    rw [State.live, State.live, (exec_frame hx).clock]
  by_cases hold : row ∈ w.state.sessions <;> by_cases hold' : row' ∈ w.state.sessions
  · exact hsingle row hold row' hold' hclient (hclock row ▸ hlive) (hclock row' ▸ hlive')
  · have hid := alone_of_new hw hsingle ht hx hserial hrow' hlive' hold' hold hclient
      (hclock row ▸ hlive)
    exact Table.eq_of_key hrow hrow' hid
  · have hid := alone_of_new hw hsingle ht hx hserial hrow hlive hold hold' hclient.symm
      (hclock row' ▸ hlive')
    exact Table.eq_of_key hrow hrow' hid.symm
  · -- One call inserts or renews one session only.
    have hid := (touched_of_new hx hrow hlive hold pid).symm.trans
      (touched_of_new hx hrow' hlive' hold' pid)
    exact Table.eq_of_key hrow hrow' (Option.some.inj hid)

theorem singleSession_move (hsingle : SingleSession s) (move : Env) :
    SingleSession (s.move move) := by
  have hlive : ∀ r, (s.move move).live r = true → s.live r = true := by
    intro r hr
    obtain ⟨hrev, hexp⟩ := live_iff.mp hr
    exact live_iff.mpr ⟨hrev, (s.clock_le_move move).trans_lt hexp⟩
  intro row hrow row' hrow' hclient h h'
  rw [State.move_sessions] at hrow hrow'
  exact hsingle row hrow row' hrow' hclient (hlive row h) (hlive row' h')

/-- Each client has at most one live session in every run that keeps the insertions and
renewals of its handlers apart. -/
theorem at_most_one_live_session (clock : Reading) (canonical : String → Option Path)
    (files : Path → Option (List UInt8)) (acts : List ServiceAction)
    (h : System.Along (service cfg) Serialised (start clock canonical files) acts) :
    SingleSession ((service cfg).run (start clock canonical files) acts).state := by
  refine h.keeps (fun w => SingleSession w.state) ?_ fun v a hv hserial ih => ?_
  · intro row hrow
    exact absurd hrow (Table.not_mem_empty row)
  · have hvr : Reachable cfg v := ⟨clock, canonical, files, hv⟩
    rcases service_step_cases cfg v a with h | ⟨q, request, -, -, h⟩ |
      ⟨pid, choice, request, call, next, res, s', rfl, ht, hx, h⟩ | ⟨move, -, h⟩
    · rw [h]
      exact ih
    · rw [h]
      exact ih
    · rw [h]
      exact singleSession_exec hvr ih ht hx hserial
    · rw [h]
      exact singleSession_move ih move

/-- Two session requests, one after the other: the second replaces the session. -/
def replacedRun : List ServiceAction :=
  sampleEnroll 0 "client" "device" ++ sampleEntitle 2 "account" ++
    serve 4 (.createSession (sampleSession "client" "device" "n" 1000))
      ["", "", "", "", "", "", "session", "jti", ""] ++
    serve 5 (.createSession (sampleSession "client" "device" "m" 1000))
      ["", "", "", "", "", "", "session-2", "jti-2", ""]

theorem at_most_one_live_session_replaced :
    SingleSession ((service sampleConfig).run sampleStart replacedRun).state :=
  at_most_one_live_session _ _ _ replacedRun (by decide +kernel)

/-- The same requests, each revoking before the other inserts. -/
def overlappingRun : List ServiceAction :=
  sampleEnroll 0 "client" "device" ++ sampleEntitle 2 "account" ++
    serve 4 (.createSession (sampleSession "client" "device" "n" 1000))
      ["", "", "", "", "", "", "session", "jti"] ++
    serve 5 (.createSession (sampleSession "client" "device" "m" 1000))
      ["", "", "", "", "", "", "session-2", "jti-2", ""] ++ [.exec 4 (.run ⟨"", []⟩)]

instance (s : State) : Decidable (SingleSession s) :=
  inferInstanceAs (Decidable (∀ row ∈ s.sessions.rows, ∀ row' ∈ s.sessions.rows,
    row.clientId = row'.clientId → s.live row = true → s.live row' = true → row = row'))

theorem two_live_sessions :
    ¬ ∀ (cfg : Config) (clock : Reading) (canonical : String → Option Path)
      (files : Path → Option (List UInt8)) (acts : List ServiceAction),
      SingleSession ((service cfg).run (start clock canonical files) acts).state := by
  intro h
  have htwo := h sampleConfig ⟨1000, by decide⟩ samplePath sampleFiles overlappingRun
  exact absurd htwo (by decide +kernel)

end JustRun.Authorization
