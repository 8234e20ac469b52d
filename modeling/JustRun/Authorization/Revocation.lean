import JustRun.Authorization.Runs

/-!
# Rows that stay: clients and sessions over a run, and the finality of revocation

Neither table loses a row or moves it to another device, and no statement of the
store clears a flag of revocation. Every endpoint that issues something reads the
client row after it has started.
-/
namespace JustRun.Authorization
open Machine Relational Concurrency

/-- How the row of a client may change. -/
structure ClientRecord.Evolves (row row' : ClientRecord) : Prop where
  clientId : row'.clientId = row.clientId
  deviceId : row'.deviceId = row.deviceId
  approved : row.approved = true → row'.approved = true
  revoked : row.revoked = true → row'.revoked = true

/-- How the row of a session may change. -/
structure SessionRecord.Evolves (row row' : SessionRecord) : Prop where
  sessionId : row'.sessionId = row.sessionId
  clientId : row'.clientId = row.clientId
  deviceId : row'.deviceId = row.deviceId
  accountId : row'.accountId = row.accountId
  revoked : row.revoked = true → row'.revoked = true

theorem ClientRecord.Evolves.refl (row : ClientRecord) : row.Evolves row := ⟨rfl, rfl, id, id⟩

theorem ClientRecord.Evolves.trans {row row' row'' : ClientRecord} (h : row.Evolves row')
    (h' : row'.Evolves row'') : row.Evolves row'' :=
  ⟨h'.clientId.trans h.clientId, h'.deviceId.trans h.deviceId, fun a => h'.approved (h.approved a),
    fun a => h'.revoked (h.revoked a)⟩

theorem SessionRecord.Evolves.refl (row : SessionRecord) : row.Evolves row :=
  ⟨rfl, rfl, rfl, rfl, id⟩

theorem SessionRecord.Evolves.trans {row row' row'' : SessionRecord} (h : row.Evolves row')
    (h' : row'.Evolves row'') : row.Evolves row'' :=
  ⟨h'.sessionId.trans h.sessionId, h'.clientId.trans h.clientId, h'.deviceId.trans h.deviceId,
    h'.accountId.trans h.accountId, fun a => h'.revoked (h.revoked a)⟩

variable {cfg : Config} {s s' : State} {draw : Draw} {call : Call} {v : call.Val}

theorem effect_client (h : s.effect cfg draw call = some (v, s')) {clientId : String}
    {row : ClientRecord} (hrow : s.client clientId = some row) :
    ∃ row', s'.client clientId = some row' ∧ row.Evolves row' := by
  cases call with
  | createPendingClient newId accountId deviceId key algorithm version =>
    simp only [State.effect, State.createPendingClient, Option.map_map, Option.map_eq_some_iff] at h
    obtain ⟨t, ht, hs'⟩ := h
    cases hs'
    refine ⟨row, ?_, .refl row⟩
    have hfree := (Table.insert?_eq_some ht).1
    have hne : newId ≠ clientId := by
      rintro rfl
      exact absurd (hfree.symm.trans hrow) (by simp)
    exact (Table.find?_insert ht clientId).trans ((if_neg hne).trans hrow)
  | updateClientRegistration target key algorithm version =>
    cases h
    exact Table.find?_updateWhere_rel hrow (.refl row) rfl (fun _ => rfl) fun _ => ⟨rfl, rfl, id, id⟩
  | approveClient target =>
    cases h
    exact Table.find?_updateWhere_rel hrow (.refl row) rfl (fun _ => rfl) fun _ => ⟨rfl, rfl, fun _ => rfl, id⟩
  | approveClientForAccount target accountId =>
    cases h
    exact Table.find?_updateWhere_rel hrow (.refl row) rfl (fun _ => rfl) fun _ => ⟨rfl, rfl, fun _ => rfl, id⟩
  | revokeClientRow target =>
    cases h
    exact Table.find?_updateWhere_rel hrow (.refl row) rfl (fun _ => rfl) fun _ => ⟨rfl, rfl, id, fun _ => rfl⟩
  | _ =>
    refine ⟨row, ?_, .refl row⟩
    rw [State.client, (effect_frame h).clients rfl]
    exact hrow

theorem exec_client {choice : Choice} {r : Option call.Val}
    (h : s.exec cfg choice call = some (r, s')) {clientId : String} {row : ClientRecord}
    (hrow : s.client clientId = some row) :
    ∃ row', s'.client clientId = some row' ∧ row.Evolves row' := by
  rcases State.exec_cases h with ⟨-, rfl | ⟨nonce, now, -, rfl⟩⟩ | ⟨draw, v, -, he, -⟩
  · exact ⟨row, hrow, .refl row⟩
  · exact ⟨row, hrow, .refl row⟩
  · exact effect_client he hrow

theorem effect_session (h : s.effect cfg draw call = some (v, s')) {sessionId : String}
    {row : SessionRecord} (hrow : s.session sessionId = some row) :
    ∃ row', s'.session sessionId = some row' ∧ row.Evolves row' := by
  cases call with
  | createSession newId client capabilities jti exp =>
    simp only [State.effect, State.createSession] at h
    split at h
    · cases h
    · simp only [Option.map_map, Option.map_eq_some_iff] at h
      obtain ⟨t, ht, hs'⟩ := h
      cases hs'
      refine ⟨row, ?_, .refl row⟩
      have hfree := (Table.insert?_eq_some ht).1
      have hne : newId ≠ sessionId := by
        rintro rfl
        exact absurd (hfree.symm.trans hrow) (by simp)
      exact (Table.find?_insert ht sessionId).trans ((if_neg hne).trans hrow)
  | refreshSession target capabilities jti exp =>
    simp only [State.effect, State.refreshSession] at h
    split at h
    · cases h
    · cases h
      exact Table.find?_updateWhere_rel hrow (.refl row) rfl (fun _ => rfl) fun _ => ⟨rfl, rfl, rfl, rfl, id⟩
  | updateClientRegistration target key algorithm version =>
    cases h
    exact Table.find?_updateWhere_rel hrow (.refl row) rfl (fun _ => rfl) fun _ => ⟨rfl, rfl, rfl, rfl, fun _ => rfl⟩
  | revokeClientSessions target =>
    cases h
    exact Table.find?_updateWhere_rel hrow (.refl row) rfl (fun _ => rfl) fun _ => ⟨rfl, rfl, rfl, rfl, fun _ => rfl⟩
  | revokeActiveSessionsForClient target now =>
    cases h
    exact Table.find?_updateWhere_rel hrow (.refl row) rfl (fun _ => rfl) fun _ => ⟨rfl, rfl, rfl, rfl, fun _ => rfl⟩
  | revokeSession target =>
    cases h
    exact Table.find?_updateWhere_rel hrow (.refl row) rfl (fun _ => rfl) fun _ => ⟨rfl, rfl, rfl, rfl, fun _ => rfl⟩
  | _ =>
    refine ⟨row, ?_, .refl row⟩
    rw [State.session, (effect_frame h).sessions rfl]
    exact hrow

variable {w w' : ServiceWorld}

/-- What relates a row to its successor over one call relates it over a run. -/
theorem Reaches.row_evolves {ρ : Type} (read : State → Option ρ) {R : ρ → ρ → Prop}
    (hrefl : ∀ r, R r r) (htrans : ∀ r r' r'', R r r' → R r' r'' → R r r'')
    (heffect : ∀ s s' draw (call : Call) (v : call.Val) row,
      s.effect cfg draw call = some (v, s') → read s = some row → ∃ row', read s' = some row' ∧ R row row')
    (hprune : ∀ s now, read (s.pruneNonces now) = read s)
    (hmove : ∀ s move, read (s.move move) = read s) (h : (service cfg).Reaches w w') {row : ρ}
    (hrow : read w.state = some row) : ∃ row', read w'.state = some row' ∧ R row row' := by
  refine h.keeps (J := fun s => ∃ row', read s = some row' ∧ R row row') ⟨row, hrow, hrefl row⟩ ?_ ?_
  · rintro v pid request op next choice r s' - - hx ⟨row', hrow', hev⟩
    rcases State.exec_cases hx with ⟨-, rfl | ⟨nonce, now, rfl, rfl⟩⟩ | ⟨draw, v, -, heff, -⟩
    · exact ⟨row', hrow', hev⟩
    · exact ⟨row', (hprune _ now).trans hrow', hev⟩
    · obtain ⟨row'', hrow'', hev'⟩ := heffect _ _ draw op v row' heff hrow'
      exact ⟨row'', hrow'', htrans _ _ _ hev hev'⟩
  · rintro move s ⟨row', hrow', hev⟩
    exact ⟨row', (hmove s move).trans hrow', hev⟩

theorem Reaches.client_evolves (h : (service cfg).Reaches w w') {clientId : String}
    {row : ClientRecord} (hrow : w.state.client clientId = some row) :
    ∃ row', w'.state.client clientId = some row' ∧ row.Evolves row' :=
  Reaches.row_evolves (fun s => s.client clientId) .refl (fun _ _ _ => .trans)
    (fun _ _ _ _ _ _ he hr => effect_client he hr) (fun _ _ => rfl) (fun s move => by simp [State.client]) h hrow

theorem Reaches.session_evolves (h : (service cfg).Reaches w w') {sessionId : String}
    {row : SessionRecord} (hrow : w.state.session sessionId = some row) :
    ∃ row', w'.state.session sessionId = some row' ∧ row.Evolves row' :=
  Reaches.row_evolves (fun s => s.session sessionId) .refl (fun _ _ _ => .trans)
    (fun _ _ _ _ _ _ he hr => effect_session he hr) (fun _ _ => rfl) (fun s move => by simp [State.session]) h
    hrow

def State.Revoked (s : State) (clientId : String) : Prop :=
  ∃ row, s.client clientId = some row ∧ row.revoked = true

instance (s : State) (clientId : String) : Decidable (s.Revoked clientId) :=
  decidable_of_iff ((s.client clientId).any (·.revoked) = true) (by
    simp [State.Revoked, Option.any_eq_true])

theorem Reaches.revoked (h : (service cfg).Reaches w w') {clientId : String}
    (hr : w.state.Revoked clientId) : w'.state.Revoked clientId := by
  obtain ⟨row, hrow, hrevoked⟩ := hr
  obtain ⟨row', hrow', hev⟩ := Reaches.client_evolves h hrow
  exact ⟨row', hrow', hev.revoked hrevoked⟩

/-- The client that a lease, grant, receipt, manifest, chunk or release is returned to:
the one it names, or the one of the session that the request authorizes itself with. -/
def ReturnsTo (cfg : Config) (s : State) : Request → Response → String → Prop
  | _, .session response, clientId => response.lease.claims.clientId = clientId
  | _, .grant grant, clientId => ∃ claims, grant.payload = .json claims ∧ claims.clientId = clientId
  | _, .receipt receipt, clientId =>
    ∃ claims, receipt.payload = .json claims ∧ claims.clientId = clientId
  | .releaseExecutionGrant grant, .release _, clientId =>
    ∃ claims, cfg.verifyExecutionGrant grant = some claims ∧ claims.clientId = clientId
  | .prepareArtifact _ authorization _, .manifest _, clientId
  | .artifactChunk _ _ _ authorization, .chunk _, clientId =>
    ∃ token row, authorization.bind (stripPrefix? "Bearer ") = some token ∧
      s.session token = some row ∧ row.clientId = clientId
  | _, _, _ => False

/-- A handler that starts when a client is revoked finds it so. -/
theorem not_checked_since_revoked (hw : Reachable cfg w) (h : (service cfg).Reaches w w')
    {pid : ℕ} (hp : w.threads pid = none) {clientId deviceId : String}
    (hr : w.state.Revoked clientId) {row : ClientRecord} :
    ¬ ClientChecked (w'.history pid) clientId deviceId row := by
  intro hc
  obtain ⟨u, draw, s', hu, heff⟩ := hw.answered_since h hp hc.read
  obtain ⟨row', hrow', hrevoked⟩ := Reaches.revoked hu hr
  have hread : u.state.client clientId = some row := congrArg Prod.fst (Option.some.inj heff)
  obtain rfl : row' = row := Option.some.inj (hrow'.symm.trans hread)
  simp [hc.unrevoked] at hrevoked

/-- The session row that a request authorizes itself with still names the client that
the handler has checked. -/
theorem BearerChecked.clientId_eq (hw : Reachable cfg w) {pid : ℕ} {authorization : Option String}
    {now : ℤ} {session row : SessionRecord} {token : String}
    (hb : BearerChecked (w.history pid) authorization now session)
    (htoken : authorization.bind (stripPrefix? "Bearer ") = some token)
    (hrow : w.state.session token = some row) : row.clientId = session.clientId := by
  obtain ⟨token', htoken', hs⟩ := hb.row
  obtain rfl := Option.some.inj (htoken'.symm.trans htoken)
  obtain ⟨u, -, hr, -, hread⟩ := hw.session_read hs.read
  obtain ⟨row', hrow', hev⟩ := Reaches.session_evolves hr hread
  obtain rfl := Option.some.inj (hrow'.symm.trans hrow)
  exact hev.clientId

/-- A revoked client stays revoked, and no handler that starts when it is revoked
returns anything to it. -/
theorem revocation_is_final (clientId : String) (hw : Reachable cfg w)
    (hr : w.state.Revoked clientId) (h : (service cfg).Reaches w w') :
    w'.state.Revoked clientId ∧ ∀ pid request response, w.threads pid = none →
      w'.Finished pid request response → ¬ ReturnsTo cfg w'.state request response clientId := by
  refine ⟨Reaches.revoked h hr, fun pid request response hp hfin hto => ?_⟩
  have hw' : Reachable cfg w' := hw.trans h
  have hnot : ∀ deviceId row, ¬ ClientChecked (w'.history pid) clientId deviceId row :=
    fun deviceId row => not_checked_since_revoked hw h hp hr
  cases hw'.issued hfin with
  | registered | completed | capabilities | closed | done => exact hto
  | lease _ checked =>
    obtain rfl := (hw'.client_id checked.read).symm.trans hto
    exact hnot _ _ checked
  | renewal _ row binding checked =>
    obtain rfl := (hw'.client_id checked.read).symm.trans hto
    exact hnot _ _ checked
  | grant _ checked _ client_read =>
    obtain ⟨claims, hclaims, rfl⟩ := hto
    cases hclaims
    obtain ⟨client, hc, -⟩ := checked.client
    rw [hw'.client_id client_read] at hnot
    exact hnot _ _ hc
  | receipt _ checked =>
    obtain ⟨claims, hclaims, rfl⟩ := hto
    cases hclaims
    obtain ⟨session, -, hid, -, -, client, hc, -⟩ := checked.session
    exact hnot _ _ (hid ▸ hc)
  | release _ checked =>
    obtain ⟨claims, hclaims, rfl⟩ := hto
    obtain rfl := Option.some.inj (checked.verified.symm.trans hclaims)
    obtain ⟨session, -, hid, -, -, client, hc, -⟩ := checked.session
    exact hnot _ _ (hid ▸ hc)
  | manifest _ bearer =>
    obtain ⟨token, row, htoken, hrow, rfl⟩ := hto
    obtain ⟨client, hc, -⟩ := bearer.client
    exact hnot _ _ (bearer.clientId_eq hw' htoken hrow ▸ hc)
  | chunk _ checked =>
    obtain ⟨token, row, htoken, hrow, rfl⟩ := hto
    obtain ⟨client, hc, -⟩ := checked.client
    exact hnot _ _ (checked.clientId_eq hw' htoken hrow ▸ hc)

/-- The client is enrolled and revoked. -/
def revokedRun : List ServiceAction :=
  sampleEnroll 0 "client" "device" ++ serve 2 (.admin (.clientRevoke "client")) ["", ""]

/-- It is approved again, and asks for a session. -/
def afterRevocation : List ServiceAction :=
  serve 3 (.admin (.clientApprove "client")) [""] ++
    serve 4 (.createSession (sampleSession "client" "device" "n" 1000)) ["", ""]

theorem revocation_is_final_approved :
    ((service sampleConfig).run ((service sampleConfig).run sampleStart revokedRun)
      afterRevocation).state.Revoked "client" :=
  (revocation_is_final "client" (reachable_run sampleConfig _ _ _ revokedRun) (by decide +kernel)
    (.run _ _ afterRevocation)).1

end JustRun.Authorization
