import JustRun.Authorization.Revocation

/-!
# The status of a registration and the gate of later requests

A completion reports the approval flag that it has read at its start, and never looks
at the flag of revocation; `ensure_client_usable` looks at both. They agree as long as
the client has not been revoked.
-/
namespace JustRun.Authorization
open Machine Relational Concurrency Concurrency.Prog

/-- The client that a logged call has revoked. -/
def revoked? : ServiceEntry → Option String
  | ⟨_, _, .revokeClientRow clientId, some true⟩ => some clientId
  | _ => none

variable {cfg : Config} {w : ServiceWorld}

theorem revoked?_eq_some {e : ServiceEntry} {clientId : String} (h : revoked? e = some clientId) :
    e = ⟨e.pid, e.before, .revokeClientRow clientId, some true⟩ := by
  obtain ⟨pid, s, op, res⟩ := e
  unfold revoked? at h
  split at h
  · next heq => cases heq; cases h; rfl
  · cases h

/-- A call revokes a client only as `revoke_client` does. -/
theorem exec_revoked {s s' : State} {choice : Choice} {call : Call} {r : Option call.Val}
    (h : s.exec cfg choice call = some (r, s')) {clientId : String} (pid : ℕ)
    (hr : s'.Revoked clientId) : s.Revoked clientId ∨ revoked? ⟨pid, s, call, r⟩ = some clientId := by
  obtain ⟨row, hrow, hrevoked⟩ := hr
  rcases State.exec_cases h with ⟨-, rfl | ⟨nonce, now, -, rfl⟩⟩ | ⟨draw, v, rfl, heff, -⟩
  · exact .inl ⟨row, hrow, hrevoked⟩
  · exact .inl ⟨row, hrow, hrevoked⟩
  have hmem : row ∈ s'.clients := (Table.find?_eq_some.mp hrow).1
  have hid : row.clientId = clientId := Table.find?_key hrow
  have hback : ∀ row' ∈ s.clients, row'.clientId = clientId → row'.revoked = true →
      s.Revoked clientId := fun row' hmem' hid' hrev =>
    ⟨row', Table.find?_eq_some.mpr ⟨hmem', hid'⟩, hrev⟩
  cases call with
  | createPendingClient newId accountId deviceId key algorithm version =>
    simp only [State.effect, State.createPendingClient, Option.map_map, Option.map_eq_some_iff] at heff
    obtain ⟨t, ht, hs'⟩ := heff
    cases hs'
    rcases (Table.mem_insert ht).mp hmem with hmem | rfl
    · exact .inl (hback row hmem hid hrevoked)
    · cases hrevoked
  | updateClientRegistration target key algorithm version =>
    cases heff
    obtain ⟨row', hmem', rfl⟩ := List.mem_map.mp hmem
    refine .inl (hback row' hmem' ?_ ?_)
    · rw [← hid]
      split <;> rfl
    · split at hrevoked <;> exact hrevoked
  | approveClient target =>
    cases heff
    obtain ⟨row', hmem', rfl⟩ := List.mem_map.mp hmem
    refine .inl (hback row' hmem' ?_ ?_)
    · rw [← hid]
      split <;> rfl
    · split at hrevoked <;> exact hrevoked
  | approveClientForAccount target accountId =>
    cases heff
    obtain ⟨row', hmem', rfl⟩ := List.mem_map.mp hmem
    refine .inl (hback row' hmem' ?_ ?_)
    · rw [← hid]
      split <;> rfl
    · split at hrevoked <;> exact hrevoked
  | revokeClientRow target =>
    cases heff
    obtain ⟨row', hmem', rfl⟩ := List.mem_map.mp hmem
    by_cases htarget : row'.clientId = target
    · obtain rfl : target = clientId := by
        rw [← htarget, ← hid]
        split <;> rfl
      have hany : s.clients.anyRow (fun r => r.clientId = target) = true :=
        Table.anyRow_iff.mpr ⟨row', hmem', decide_eq_true htarget⟩
      exact .inr (by simp [revoked?, hany])
    · rw [if_neg (by simpa using htarget)] at hid hrevoked
      exact .inl (hback row' hmem' hid hrevoked)
  | _ =>
    rw [State.client, (effect_frame heff).clients rfl] at hrow
    exact .inl ⟨row, hrow, hrevoked⟩

/-- A client is revoked exactly when some logged call has revoked it. -/
theorem Reachable.revoked_iff (hw : Reachable cfg w) (clientId : String) :
    w.state.Revoked clientId ↔ ∃ x ∈ w.log, revoked? x = some clientId := by
  constructor
  · obtain ⟨clock, canonical, files, hw⟩ := hw
    refine hw.induct (fun w => w.state.Revoked clientId → ∃ x ∈ w.log, revoked? x = some clientId)
      ?_ ?_
    · rintro ⟨row, hrow, -⟩
      cases hrow
    · intro v a _ ih hr
      rcases service_step_cases cfg v a with h | ⟨pid, request, -, -, h⟩ |
        ⟨pid, choice, request, call, next, r, s, -, -, hx, h⟩ | ⟨move, -, h⟩
      · rw [h] at hr ⊢
        exact ih hr
      · rw [h] at hr ⊢
        exact ih hr
      · rw [h] at hr ⊢
        rcases exec_revoked hx pid hr with hr | hr
        · obtain ⟨x, hx, hrevoked⟩ := ih hr
          exact ⟨x, by simp [hx], hrevoked⟩
        · exact ⟨_, by simp, hr⟩
      · rw [h] at hr ⊢
        exact ih (by simpa [State.Revoked, State.client] using hr)
  · rintro ⟨x, hx, hrevoked⟩
    obtain ⟨l, l', hl⟩ := List.append_of_mem hx
    have hmade := revoked?_eq_some hrevoked
    refine hw.holds_since (fun s => s.Revoked clientId) (fun _ => True) hl (fun _ _ => trivial) ?_ ?_ ?_
    · intro choice s' hexec
      rw [hmade] at hexec
      rcases State.exec_cases hexec with ⟨hnone, -⟩ | ⟨draw, v, hv, heff, -⟩
      · cases hnone
      · cases hv
        have hfound : x.before.clients.anyRow (fun r => r.clientId = clientId) = true :=
          congrArg Prod.fst (Option.some.inj heff)
        obtain ⟨row, hmem, hid⟩ := Table.anyRow_iff.mp hfound
        have hrow : x.before.clients.find? clientId = some row :=
          Table.find?_eq_some.mpr ⟨hmem, of_decide_eq_true hid⟩
        obtain rfl : (x.before.revokeClientRow clientId).2 = s' :=
          congrArg Prod.snd (Option.some.inj heff)
        refine ⟨{ row with revoked := true }, ?_, rfl⟩
        simp [State.client, State.revokeClientRow, Table.find?_updateWhere, hrow,
          of_decide_eq_true hid]
    · rintro v pid request call next choice r s' - - hexec - ⟨row, hrow, hrevoked⟩
      obtain ⟨row', hrow', hev⟩ := exec_client hexec hrow
      exact ⟨row', hrow', hev.revoked hrevoked⟩
    · intro move s hr
      simpa [State.Revoked, State.client] using hr

/-- `ensure_client_usable` accepts what is approved, unrevoked and bound to the device. -/
theorem ensureClientUsable_eq_ret {client : ClientRecord} {deviceId : String} :
    ensureClientUsable client deviceId = .ret () ↔
      client.revoked = false ∧ client.approved = true ∧ client.deviceId = deviceId := by
  unfold ensureClientUsable
  cases client.revoked <;> cases client.approved <;> by_cases client.deviceId = deviceId <;>
    simp_all [rejectIf, Bind.bind, Prog.bind]

/-- From its last store step on, a completion that reports the client as approved agrees with
the gate of later requests exactly when nobody has revoked the client. -/
theorem approved_status_iff_unrevoked (hw : Reachable cfg w) (pid : ℕ)
    (request : CompleteRegistrationRequest) (response : CompleteRegistrationResponse)
    (hfin : w.Finished pid (.completeRegistration request) (.completed response))
    (happroved : response.status = "approved") :
    (∃ row, w.state.client response.clientId = some row ∧ row.approved = true ∧
      row.revoked = false ∧ ensureClientUsable row response.deviceId = .ret ()) ↔
    ∀ x ∈ w.log, revoked? x ≠ some response.clientId := by
  have hrevoked := hw.revoked_iff response.clientId
  constructor
  · rintro ⟨row, hrow, -, hunrevoked, -⟩ x hx hr
    obtain ⟨row', hrow', hrev⟩ := hrevoked.mpr ⟨x, hx, hr⟩
    obtain rfl := Option.some.inj (hrow.symm.trans hrow')
    simp [hunrevoked] at hrev
  · intro hnone
    cases hw.issued hfin with
    | @completed _ t client _ _ checked =>
      obtain ⟨u, -, hr, -, hread⟩ := hw.client_read checked.read
      rw [← hw.client_id checked.read] at hread
      obtain ⟨row, hrow, hev⟩ := Reaches.client_evolves hr hread
      have hclient : client.approved = true := by
        by_contra hpending
        rw [if_neg hpending] at happroved
        exact absurd happroved (show ¬ "pending" = "approved" by decide)
      have hunrevoked : row.revoked = false := by
        by_contra hrev
        obtain ⟨x, hx, hr⟩ := hrevoked.mp ⟨row, hrow, by simpa using hrev⟩
        exact hnone x hx hr
      exact ⟨row, hrow, hev.approved hclient, hunrevoked,
        ensureClientUsable_eq_ret.mpr ⟨hunrevoked, hev.approved hclient, hev.deviceId⟩⟩

/-- The client answers the challenge it has obtained before. -/
def enrolledCompletion (pid : ℕ) : List ServiceAction :=
  serve pid (.completeRegistration ⟨"client", "client-challenge", "signature"⟩) ["", "", "", "", ""]

theorem approved_status_iff_unrevoked_enrolled :
    ∃ row, ((service sampleConfig).run sampleStart
        (sampleEnroll 0 "client" "device" ++ enrolledCompletion 2)).state.client "client" = some row ∧
      row.approved = true ∧ row.revoked = false ∧ ensureClientUsable row "device" = .ret () :=
  (approved_status_iff_unrevoked (reachable_run sampleConfig _ _ _
    (sampleEnroll 0 "client" "device" ++ enrolledCompletion 2)) 2
    ⟨"client", "client-challenge", "signature"⟩ ⟨"client", "device", "approved"⟩
    (World.finished_iff.mpr (by decide +kernel)) rfl).mpr (by decide +kernel)

/-- A client that is revoked before it answers is still reported as approved. -/
theorem revoked_client_reported_approved :
    let w := (service sampleConfig).run sampleStart (revokedRun ++ enrolledCompletion 3)
    w.Finished 3 (.completeRegistration ⟨"client", "client-challenge", "signature"⟩)
        (.completed ⟨"client", "device", "approved"⟩) ∧
      ¬ ∃ row, w.state.client "client" = some row ∧ row.approved = true ∧ row.revoked = false := by
  refine ⟨World.finished_iff.mpr (by decide +kernel), ?_⟩
  rintro ⟨row, hrow, -, hunrevoked⟩
  have hr : ((service sampleConfig).run sampleStart
      (revokedRun ++ enrolledCompletion 3)).state.Revoked "client" := by decide +kernel
  obtain ⟨row', hrow', hrevoked⟩ := hr
  obtain rfl := Option.some.inj (hrow.symm.trans hrow')
  simp [hunrevoked] at hrevoked

end JustRun.Authorization
