import JustRun.Authorization.Registration

/-!
# A pending registration proof beside other registrations

A client is seen through its own row, its pending challenge and the clock. No handler
of another client changes that view; a registration for its device, which needs no
proof, replaces its pending challenge.
-/
namespace JustRun.Authorization
open Machine Relational Concurrency Concurrency.Prog

/-- What the registration of one client depends on. -/
structure View where
  clock : Reading
  client : Option ClientRecord
  pending : Option RegistrationChallenge

def State.view (s : State) (clientId : String) : View :=
  ⟨s.clock, s.client clientId, s.registrationChallenges.find? clientId⟩

namespace Call
variable (clientId deviceId : String)

/-- The call may change the row of the client or its pending challenge. -/
def touches : Call → Bool
  | setRegistrationChallenge id .. | takeRegistrationChallenge id .. => id = clientId
  | updateClientRegistration id .. | approveClient id | approveClientForAccount id _ => id = clientId
  | revokeClientRow id => id = clientId
  | _ => false

/-- What the call answers is a matter of the view of the client. -/
def concerns : Call → Bool
  | now | uuid | randomNonce | revokeClientSessions _ => true
  | createPendingClient _ _ device .. | clientByDevice device => device = deviceId
  | client id | registrationChallenge id .. => id = clientId
  | other => other.touches clientId

end Call

/-- The row of the client is the one of its device, and stays so. -/
structure State.Enrolled (s : State) (clientId deviceId : String) : Prop where
  row : ∃ row, s.client clientId = some row ∧ row.deviceId = deviceId
  devices : (s.clients.rows.map ClientRecord.deviceId).Nodup

theorem State.Enrolled.byDevice {s : State} {clientId deviceId : String}
    (h : s.Enrolled clientId deviceId) : s.clientByDevice deviceId = s.client clientId := by
  obtain ⟨row, hrow, rfl⟩ := h.row
  have hmem : row ∈ s.clients.rows := (Table.find?_eq_some.mp hrow).1
  have hsome : (s.clientByDevice row.deviceId).isSome := by
    rw [State.clientByDevice, List.find?_isSome]
    exact ⟨row, hmem, by simp⟩
  obtain ⟨other, hother⟩ := Option.isSome_iff_exists.mp hsome
  have hdevice : other.deviceId = row.deviceId := by simpa using List.find?_some hother
  rw [hother, hrow, List.inj_on_of_nodup_map h.devices (List.mem_of_find?_eq_some hother) hmem hdevice]

variable {cfg : Config} {s s' : State} {clientId deviceId : String}

/-- A call that does not touch the client leaves its view as it was. -/
theorem effect_view {draw : Draw} {call : Call} {v : call.Val}
    (h : s.effect cfg draw call = some (v, s')) (hrow : ∃ row, s.client clientId = some row)
    (htouch : call.touches clientId = false) : s'.view clientId = s.view clientId := by
  have hclock : s'.clock = s.clock := (effect_frame h).clock
  suffices hsame : s'.client clientId = s.client clientId ∧
      s'.registrationChallenges.find? clientId = s.registrationChallenges.find? clientId by
    rw [State.view, State.view, hclock, hsame.1, hsame.2]
  cases call with
  | createPendingClient newId accountId device key algorithm version =>
    refine ⟨?_, by rw [(effect_frame h).registrationChallenges rfl]⟩
    simp only [State.effect, State.createPendingClient, Option.map_map, Option.map_eq_some_iff] at h
    obtain ⟨t, ht, hs'⟩ := h
    cases hs'
    obtain ⟨row, hrow⟩ := hrow
    have hne : newId ≠ clientId := by
      rintro rfl
      exact absurd ((Table.insert?_eq_some ht).1.symm.trans hrow) (by simp)
    exact (Table.find?_insert ht clientId).trans (if_neg hne)
  | setRegistrationChallenge id challenge version expiresAt =>
    refine ⟨congrArg (Table.find? · clientId) ((effect_frame h).clients rfl), ?_⟩
    have hne : id ≠ clientId := by simpa [Call.touches] using htouch
    simp only [State.effect, State.setRegistrationChallenge] at h
    split at h
    · cases h
    · cases h
      exact (Table.find?_upsert _ _ _).trans (if_neg hne)
  | takeRegistrationChallenge id challenge now =>
    refine ⟨congrArg (Table.find? · clientId) ((effect_frame h).clients rfl), ?_⟩
    have hne : id ≠ clientId := by simpa [Call.touches] using htouch
    simp only [State.effect, State.takeRegistrationChallenge] at h
    split at h
    · cases h
      refine (Table.find?_deleteWhere _ _ _).trans ?_
      cases hfind : s.registrationChallenges.find? clientId with
      | none => rfl
      | some p => simp [Option.filter, Table.find?_key hfind, Ne.symm hne]
    · cases h
      rfl
  | updateClientRegistration id key algorithm version =>
    have hne : id ≠ clientId := by simpa [Call.touches] using htouch
    obtain ⟨row, hrow⟩ := hrow
    suffices hkept : ∃ row', s'.client clientId = some row' ∧ row = row' by
      obtain ⟨row', hrow', rfl⟩ := hkept
      exact ⟨hrow'.trans hrow.symm, by rw [(effect_frame h).registrationChallenges rfl]⟩
    cases h
    refine Table.find?_updateWhere_rel hrow rfl rfl (fun _ => rfl) fun hp => ?_
    simp only [Bool.and_eq_true, decide_eq_true_eq] at hp
    exact absurd (hp.1.symm.trans (Table.find?_key hrow)) hne
  | approveClient id | approveClientForAccount id accountId | revokeClientRow id =>
    have hne : id ≠ clientId := by simpa [Call.touches] using htouch
    obtain ⟨row, hrow⟩ := hrow
    suffices hkept : ∃ row', s'.client clientId = some row' ∧ row = row' by
      obtain ⟨row', hrow', rfl⟩ := hkept
      exact ⟨hrow'.trans hrow.symm, by rw [(effect_frame h).registrationChallenges rfl]⟩
    cases h
    refine Table.find?_updateWhere_rel hrow rfl rfl (fun _ => rfl) fun hp => ?_
    exact absurd ((of_decide_eq_true hp).symm.trans (Table.find?_key hrow)) hne
  | _ => exact ⟨congrArg (Table.find? · clientId) ((effect_frame h).clients rfl),
      by rw [(effect_frame h).registrationChallenges rfl]⟩

theorem exec_view {choice : Choice} {call : Call} {r : Option call.Val}
    (h : s.exec cfg choice call = some (r, s')) (hrow : ∃ row, s.client clientId = some row)
    (htouch : call.touches clientId = false) : s'.view clientId = s.view clientId := by
  rcases State.exec_cases h with ⟨-, rfl | ⟨nonce, now, -, rfl⟩⟩ | ⟨draw, v, -, heff, -⟩
  · rfl
  · rfl
  · exact effect_view heff hrow htouch

/-- What one sees of an effect: the answer, and the view after it. -/
def State.observe (cfg : Config) (s : State) (clientId : String) (draw : Draw) (call : Call) :
    Option (call.Val × View) :=
  (s.effect cfg draw call).map fun p => (p.1, p.2.view clientId)

theorem view_ext {s t : State} (h : s.view clientId = t.view clientId) :
    s.clock = t.clock ∧ s.client clientId = t.client clientId ∧
      s.registrationChallenges.find? clientId = t.registrationChallenges.find? clientId := by
  rw [State.view, State.view, View.mk.injEq] at h
  exact h

theorem observe_create {id accountId key version : String} {algorithm : ClientKeyAlgorithm}
    {draw : Draw} (h : s.Enrolled clientId deviceId) :
    s.observe cfg clientId draw (.createPendingClient id accountId deviceId key algorithm version) =
      none := by
  obtain ⟨row, hrow, hdevice⟩ := h.row
  have hconflict : s.clients.anyRow (fun r => r.deviceId = deviceId) = true :=
    Table.anyRow_iff.mpr ⟨row, (Table.find?_eq_some.mp hrow).1, by simpa using hdevice⟩
  simp [State.observe, State.effect, State.createPendingClient, Table.insert?, hconflict]

/-- Calls that concern the client answer by its view, and change it by its view. -/
theorem observe_concerned {s t : State} (hview : s.view clientId = t.view clientId)
    (hs : s.Enrolled clientId deviceId) (ht : t.Enrolled clientId deviceId) {call : Call}
    (hcall : call.concerns clientId deviceId = true) (draw : Draw) :
    s.observe cfg clientId draw call = t.observe cfg clientId draw call := by
  obtain ⟨hclock, hclient, hpending⟩ := view_ext hview
  have hfind : s.clients.find? clientId = t.clients.find? clientId := hclient
  cases call with
  | now => simp [State.observe, State.effect, hclock, hview]
  | uuid | randomNonce =>
    simp [State.observe, State.effect, State.view, State.client, hclock, hfind, hpending]
  | revokeClientSessions id =>
    simp [State.observe, State.effect, State.revokeClientSessions, State.view, State.client, hclock,
      hfind, hpending]
  | createPendingClient id accountId device key algorithm version =>
    obtain rfl : device = deviceId := by simpa [Call.concerns] using hcall
    rw [observe_create hs, observe_create ht]
  | clientByDevice device =>
    obtain rfl : device = deviceId := by simpa [Call.concerns] using hcall
    simp [State.observe, State.effect, hs.byDevice, ht.byDevice, hclient, hview]
  | client id =>
    obtain rfl : id = clientId := by simpa [Call.concerns] using hcall
    simp [State.observe, State.effect, hclient, hview]
  | registrationChallenge id challenge now =>
    obtain rfl : id = clientId := by simpa [Call.concerns] using hcall
    simp [State.observe, State.effect, State.registrationChallenge, hpending, hview]
  | setRegistrationChallenge id challenge version expiresAt =>
    obtain rfl : id = clientId := by simpa [Call.concerns, Call.touches] using hcall
    simp only [State.observe, State.effect, State.setRegistrationChallenge, hfind]
    cases t.clients.find? id with
    | none => rfl
    | some row => simp [State.view, State.client, hclock, hfind, Table.find?_upsert]
  | takeRegistrationChallenge id challenge now =>
    obtain rfl : id = clientId := by simpa [Call.concerns, Call.touches] using hcall
    simp only [State.observe, State.effect, State.takeRegistrationChallenge,
      State.registrationChallenge, hpending]
    split <;>
      simp [State.view, State.client, hclock, hfind, hpending, Table.find?_deleteWhere]
  | updateClientRegistration id key algorithm version =>
    obtain rfl : id = clientId := by simpa [Call.concerns, Call.touches] using hcall
    simp [State.observe, State.effect, State.updateClientRegistration, State.view, State.client,
      Table.find?_updateWhere, Table.anyRow_key, hclock, hfind, hpending]
  | approveClient id | revokeClientRow id | approveClientForAccount id accountId =>
    obtain rfl : id = clientId := by simpa [Call.concerns, Call.touches] using hcall
    have hany := fun u : State => Table.anyRow_key u.clients id (fun _ => true)
    simp only [Bool.and_true] at hany
    simp [State.observe, State.effect, State.approveClient, State.revokeClientRow,
      State.approveClientForAccount, State.view, State.client, Table.find?_updateWhere, hany, hclock,
      hfind, hpending]
  | _ => cases hcall

theorem exec_concerned {s t s' t' : State} (hview : s.view clientId = t.view clientId)
    (hs : s.Enrolled clientId deviceId) (ht : t.Enrolled clientId deviceId) {call : Call}
    (hcall : call.concerns clientId deviceId = true) {choice : Choice} {r r' : Option call.Val}
    (h : s.exec cfg choice call = some (r, s')) (h' : t.exec cfg choice call = some (r', t')) :
    r = r' ∧ s'.view clientId = t'.view clientId := by
  cases choice with
  | run draw =>
    have hobs : s.observe cfg clientId draw call = t.observe cfg clientId draw call :=
      observe_concerned hview hs ht hcall draw
    simp only [State.observe] at hobs
    simp only [State.exec] at h h'
    split at h
    · cases h
    split at h'
    · cases h'
    cases he : s.effect cfg draw call with
    | none =>
      rw [he, Option.map_none, eq_comm, Option.map_eq_none_iff] at hobs
      rw [he] at h
      rw [hobs] at h'
      cases h
      cases h'
      exact ⟨rfl, hview⟩
    | some p =>
      obtain ⟨q, hq⟩ : ∃ q, t.effect cfg draw call = some q := by
        rw [he, Option.map_some] at hobs
        obtain ⟨q, hq, -⟩ := Option.map_eq_some_iff.mp hobs.symm
        exact ⟨q, hq⟩
      rw [he, hq, Option.map_some, Option.map_some, Option.some.injEq, Prod.mk.injEq] at hobs
      rw [he] at h
      rw [hq] at h'
      cases h
      cases h'
      exact ⟨congrArg some hobs.1, hobs.2⟩
  | fault late =>
    have hafter : ∀ u : State, u.afterFault late call = u := by
      intro u
      cases call with
      | consumeNonce nonce now => cases hcall
      | _ => rfl
    simp only [State.exec, hafter] at h h'
    split at h
    · cases h
    · next hfallible =>
      rw [if_neg hfallible] at h'
      cases h
      cases h'
      exact ⟨rfl, hview⟩

section Rows
variable {w w' : ServiceWorld}

/-- No two clients have one device. -/
theorem Reachable.devices (hw : Reachable cfg w) :
    (w.state.clients.rows.map ClientRecord.deviceId).Nodup := by
  obtain ⟨clock, canonical, files, hw⟩ := hw
  refine hw.keeps (J := fun s => (s.clients.rows.map ClientRecord.deviceId).Nodup) List.nodup_nil ?_ ?_
  · intro v pid request call next choice r s' _ _ hx hJ
    rcases State.exec_cases hx with ⟨-, rfl | ⟨nonce, now, -, rfl⟩⟩ | ⟨draw, val, -, heff, -⟩
    · exact hJ
    · exact hJ
    cases call with
    | createPendingClient id accountId device key algorithm version =>
      simp only [State.effect, State.createPendingClient, Option.map_map, Option.map_eq_some_iff] at heff
      obtain ⟨t, ht, hs'⟩ := heff
      cases hs'
      obtain ⟨-, hfree, hrows⟩ := Table.insert?_eq_some ht
      have hnew : ∀ x ∈ v.state.clients.rows, x.deviceId ≠ device := by
        simpa [Table.anyRow] using hfree
      simpa [hrows, List.nodup_append, hJ] using hnew
    | updateClientRegistration id key algorithm version =>
      have hsame : s'.clients.rows.map ClientRecord.deviceId =
          v.state.clients.rows.map ClientRecord.deviceId := by
        cases heff
        refine Table.map_update rfl ?_
        exact fun _ => rfl
      exact hsame ▸ hJ
    | approveClient id | approveClientForAccount id accountId | revokeClientRow id =>
      have hsame : s'.clients.rows.map ClientRecord.deviceId =
          v.state.clients.rows.map ClientRecord.deviceId := by
        cases heff
        refine Table.map_update rfl ?_
        exact fun _ => rfl
      exact hsame ▸ hJ
    | _ => exact (effect_frame heff).clients rfl ▸ hJ
  · intro move s hJ
    exact (s.move_clients move).symm ▸ hJ

theorem Reachable.enrolled (hw : Reachable cfg w) {row : ClientRecord}
    (hrow : w.state.client clientId = some row) (h : (service cfg).Reaches w w') :
    w'.state.Enrolled clientId row.deviceId := by
  obtain ⟨row', hrow', hev⟩ := Reaches.client_evolves h hrow
  exact ⟨⟨row', hrow', hev.deviceId⟩, (hw.trans h).devices⟩

end Rows

/-- The requests whose handlers work on the client. -/
def Request.concerns (clientId deviceId : String) : Request → Bool
  | .register request => request.deviceId = deviceId
  | .completeRegistration request => request.clientId = clientId
  | .admin (.clientApprove id) | .admin (.clientApproveForAccount id _)
  | .admin (.clientRevoke id) => id = clientId
  | _ => false

/-- A handler that works on the client makes calls that concern it; whom a challenge is
stored for, and whose registration is updated, its answers decide. An administrator
touches the client of the command only. -/
structure Within (clientId deviceId : String) (request : Request) (call : Call) : Prop where
  concerns : request.concerns clientId deviceId = true →
    call.concerns clientId deviceId = true ∨ call.setsChallenge = true ∨
      call.updatesRegistration = true
  touches : request.registers = false → call.touches clientId = true →
    request.concerns clientId deviceId = true

theorem register_within (request : RegisterRequest) :
    (handler cfg (.register request)).Meets
      (fun _ => Within clientId deviceId (.register request)) (fun _ _ => True) [] := by
  have he : ∀ (h : History) (e : Failure), True := fun _ _ => trivial
  have hwithin : ∀ call : Call, (request.deviceId = deviceId → call.concerns clientId deviceId = true ∨
      call.setsChallenge = true ∨ call.updatesRegistration = true) →
      Within clientId deviceId (.register request) call :=
    fun call h => ⟨fun hd => h (of_decide_eq_true hd), fun hr => Bool.noConfusion hr⟩
  simp only [handler, registerClient, bind_assoc]
  refine meets_rejectIf he fun _ => meets_rejectIf he fun _ => meets_ask he ?_ fun t _ =>
    meets_ask he ?_ fun known _ => ?_
  · exact hwithin _ fun _ => .inl rfl
  · exact hwithin _ fun hd => .inl (decide_eq_true hd)
  have hrest : ∀ id (h : History), (do
      let challenge ← ask .randomNonce
      ask (.setRegistrationChallenge id challenge request.clientVersion
        (saturatingAdd t.val challengeTtlSecs))
      pure (Response.registered ⟨id, request.deviceId, challenge, cfg.keyId, "pending"⟩)).Meets
        (fun _ => Within clientId deviceId (.register request)) (fun _ _ => True) h := by
    intro id h
    refine meets_ask he ?_ fun challenge _ => meets_ask he ?_ fun _ _ => trivial
    · exact hwithin _ fun _ => .inl rfl
    · exact hwithin _ fun _ => .inr (.inl rfl)
  cases known with
  | some client =>
    simp only [registrationClientId, bind_assoc]
    exact meets_rejectIf he fun _ => meets_rejectIf he fun _ => meets_rejectIf he fun _ => hrest _ _
  | none =>
    simp only [registrationClientId, bind_assoc]
    refine meets_ask he ?_ fun id _ => meets_ask he ?_ fun _ _ => hrest _ _
    · exact hwithin _ fun _ => .inl rfl
    · exact hwithin _ fun hd => .inl (decide_eq_true hd)

theorem completeRegistration_within (request : CompleteRegistrationRequest) :
    (handler cfg (.completeRegistration request)).Meets
      (fun _ => Within clientId deviceId (.completeRegistration request)) (fun _ _ => True) [] := by
  have he : ∀ (h : History) (e : Failure), True := fun _ _ => trivial
  have hwithin : ∀ call : Call, (request.clientId = clientId → call.concerns clientId deviceId = true ∨
      call.setsChallenge = true ∨ call.updatesRegistration = true) →
      Within clientId deviceId (.completeRegistration request) call :=
    fun call h => ⟨fun hd => h (of_decide_eq_true hd), fun hr => Bool.noConfusion hr⟩
  simp only [handler, completeRegistration, bind_assoc]
  refine meets_ask he ?_ fun row _ => meets_orReject he fun client _ => meets_ask he ?_
    fun t _ => meets_ask he ?_ fun pending _ => meets_rejectIf he fun _ => meets_rejectIf he
    fun _ => meets_ask he ?_ fun taken _ => meets_orReject he fun requested _ => meets_ask he ?_
    fun _ _ => trivial
  · exact hwithin _ fun hid => .inl (decide_eq_true hid)
  · exact hwithin _ fun _ => .inl rfl
  · exact hwithin _ fun hid => .inl (decide_eq_true hid)
  · exact hwithin _ fun hid => .inl (decide_eq_true hid)
  · exact hwithin _ fun _ => .inr (.inr rfl)

theorem admin_within (command : AdminCommand) :
    (handler cfg (.admin command)).Meets
      (fun _ => Within clientId deviceId (.admin command)) (fun _ _ => True) [] := by
  have he : ∀ (h : History) (e : Failure), True := fun _ _ => trivial
  cases command with
  | clientApproveForAccount id accountId =>
    simp only [handler, runAdmin, bind_assoc]
    exact meets_askAdmin he ⟨fun h => .inl h, fun _ h => h⟩ fun _ =>
      meets_rejectIf he fun _ => trivial
  | clientApprove id =>
    simp only [handler, runAdmin, bind_assoc]
    exact meets_askAdmin he ⟨fun h => .inl h, fun _ h => h⟩ fun _ =>
      meets_rejectIf he fun _ => trivial
  | clientRevoke id =>
    simp only [handler, runAdmin, bind_assoc]
    exact meets_askAdmin he ⟨fun h => .inl h, fun _ h => h⟩ fun _ =>
      meets_askAdmin he ⟨fun _ => .inl rfl, fun _ h => Bool.noConfusion h⟩ fun _ =>
      meets_rejectIf he fun _ => trivial
  | entitlementGrant accountId capability =>
    simp only [handler, runAdmin, bind_assoc]
    exact meets_askAdmin he ⟨fun h => Bool.noConfusion h, fun _ h => Bool.noConfusion h⟩ fun _ => trivial
  | entitlementRevoke accountId capability =>
    simp only [handler, runAdmin, bind_assoc]
    exact meets_askAdmin he ⟨fun h => Bool.noConfusion h, fun _ h => Bool.noConfusion h⟩ fun _ =>
      meets_rejectIf he fun _ => trivial
  | artifactPublish artifactId version targetAbi targetAndroid path =>
    simp only [handler, runAdmin, bind_assoc]
    exact meets_askAdmin he ⟨fun h => Bool.noConfusion h, fun _ h => Bool.noConfusion h⟩ fun _ => trivial

theorem handler_within (request : Request) :
    (handler cfg request).Meets (fun _ => Within clientId deviceId request) (fun _ _ => True) [] := by
  cases request with
  | register request => exact register_within request
  | completeRegistration request => exact completeRegistration_within request
  | admin command => exact admin_within command
  | _ =>
    refine (handler_meets cfg _).mono (fun h call _ hguard => ⟨fun hc => Bool.noConfusion hc, ?_⟩)
      (fun _ _ _ _ => trivial)
    intro _ htouch
    cases call with
    | setRegistrationChallenge =>
      obtain ⟨_, _, hreq, -⟩ := hguard
      cases hreq
    | takeRegistrationChallenge =>
      obtain ⟨_, _, _, hreq, -⟩ := hguard
      cases hreq
    | updateClientRegistration =>
      obtain ⟨_, _, _, _, hreq, -⟩ := hguard
      cases hreq
    | approveClient | approveClientForAccount | revokeClientRow =>
      obtain ⟨_, hreq⟩ := hguard
      cases hreq
    | _ => cases htouch

section Handlers
variable {v : ServiceWorld} {pid : ℕ} {request : Request} {call : Call}
  {next : Result call → Handler Response}

theorem Reachable.within (hv : Reachable cfg v)
    (ht : v.threads pid = some ⟨request, .call call next⟩) (clientId deviceId : String) :
    Within clientId deviceId request call := by
  obtain ⟨clock, canonical, files, hv⟩ := hv
  have hwithin : ∀ request, (handler cfg request).Meets (fun _ => Within clientId deviceId request)
      (fun _ _ => True) [] := fun request => handler_within request
  exact (hv.meets hwithin ht).1

/-- The client that a registration is for has the device of the registration. -/
theorem Reachable.registration_row (hv : Reachable cfg v) {req : RegisterRequest} {id : String}
    (h : RegistrationClient (v.history pid) req id) :
    ∃ row, v.state.client id = some row ∧ row.deviceId = req.deviceId := by
  rcases h with ⟨client, hread, -, -, -, rfl⟩ | hcreated
  · obtain ⟨u, draw, s', hu, hr, -, heff⟩ := hv.answered hread
    have hfound : u.state.clientByDevice req.deviceId = some client :=
      congrArg Prod.fst (Option.some.inj heff)
    have hrow : u.state.client client.clientId = some client :=
      Table.find?_eq_some.mpr ⟨List.mem_of_find?_eq_some hfound, rfl⟩
    obtain ⟨row, hrow', hev⟩ := Reaches.client_evolves hr hrow
    exact ⟨row, hrow', hev.deviceId.trans (by simpa using List.find?_some hfound)⟩
  · obtain ⟨s, he⟩ := answered_iff.mp hcreated
    obtain ⟨l, l', hl⟩ := List.append_of_mem he
    refine hv.holds_since
      (fun s => ∃ row, s.client id = some row ∧ row.deviceId = req.deviceId) (fun _ => True) hl
      (fun _ _ => trivial) ?_ ?_ ?_
    · intro choice s' hx
      rcases State.exec_cases hx with ⟨hnone, -⟩ | ⟨draw, val, hval, heff, -⟩
      · cases hnone
      · simp only [State.effect, State.createPendingClient, Option.map_map,
          Option.map_eq_some_iff] at heff
        obtain ⟨t, ht, hs'⟩ := heff
        cases hs'
        exact ⟨_, (Table.find?_insert ht id).trans (if_pos rfl), rfl⟩
    · rintro v pid request call next choice r s' - - hx - ⟨row, hrow, hdevice⟩
      obtain ⟨row', hrow', hev⟩ := exec_client hx hrow
      exact ⟨row', hrow', hev.deviceId.trans hdevice⟩
    · rintro move s ⟨row, hrow, hdevice⟩
      exact ⟨row, by simpa [State.client] using hrow, hdevice⟩

/-- A registration is for the client exactly when it is for its device. -/
theorem Reachable.registration_id (hv : Reachable cfg v)
    (henr : v.state.Enrolled clientId deviceId) {req : RegisterRequest} {id : String}
    (h : RegistrationClient (v.history pid) req id) :
    id = clientId ↔ req.deviceId = deviceId := by
  obtain ⟨row, hrow, hdevice⟩ := hv.registration_row h
  obtain ⟨row', hrow', rfl⟩ := henr.row
  constructor
  · rintro rfl
    obtain rfl := Option.some.inj (hrow.symm.trans hrow')
    exact hdevice.symm
  · intro hsame
    have hmem := (Table.find?_eq_some.mp hrow).1
    have hmem' := (Table.find?_eq_some.mp hrow').1
    obtain rfl : row = row' :=
      List.inj_on_of_nodup_map henr.devices hmem hmem' (hdevice.trans hsame)
    exact (Table.find?_key hrow).symm.trans (Table.find?_key hrow')

theorem Reachable.updates_own (hv : Reachable cfg v)
    (ht : v.threads pid = some ⟨request, .call call next⟩) (hup : call.updatesRegistration = true) :
    ∃ req : CompleteRegistrationRequest, request = .completeRegistration req ∧
      ∃ key algorithm version, call = .updateClientRegistration req.clientId key algorithm version := by
  cases call with
  | updateClientRegistration id key algorithm version =>
    obtain ⟨req, _, _, _, rfl, hchecked, rfl, -⟩ := (hv.meets ht).1
    exact ⟨req, rfl, key, algorithm, version, by rw [hv.client_id hchecked.read]⟩
  | _ => cases hup

theorem Reachable.sets_own (hv : Reachable cfg v)
    (ht : v.threads pid = some ⟨request, .call call next⟩) (hset : call.setsChallenge = true) :
    ∃ (req : RegisterRequest) (id challenge version : String) (expiresAt : ℤ),
      request = .register req ∧ call = .setRegistrationChallenge id challenge version expiresAt ∧
      RegistrationClient (v.history pid) req id := by
  cases call with
  | setRegistrationChallenge id challenge version expiresAt =>
    obtain ⟨req, _, rfl, -, -, -, -, -, hclient, -⟩ := (hv.meets ht).1
    exact ⟨req, id, challenge, version, expiresAt, rfl, rfl, hclient⟩
  | _ => cases hset

/-- A handler that works on the client makes calls that concern it. -/
theorem Reachable.call_concerns (hv : Reachable cfg v) (henr : v.state.Enrolled clientId deviceId)
    (ht : v.threads pid = some ⟨request, .call call next⟩)
    (hreq : request.concerns clientId deviceId = true) : call.concerns clientId deviceId = true := by
  rcases (hv.within ht clientId deviceId).concerns hreq with h | hset | hup
  · exact h
  · obtain ⟨req, id, challenge, version, expiresAt, rfl, rfl, hclient⟩ := hv.sets_own ht hset
    exact decide_eq_true ((hv.registration_id henr hclient).mpr (of_decide_eq_true hreq))
  · obtain ⟨req, rfl, key, algorithm, version, rfl⟩ := hv.updates_own ht hup
    exact hreq

/-- Any other handler does not touch it. -/
theorem Reachable.call_leaves (hv : Reachable cfg v) (henr : v.state.Enrolled clientId deviceId)
    (ht : v.threads pid = some ⟨request, .call call next⟩)
    (hreq : request.concerns clientId deviceId = false) : call.touches clientId = false := by
  by_contra htouch
  rw [Bool.not_eq_false] at htouch
  have hadmin := (hv.within ht clientId deviceId).touches
  have hguard := (hv.meets ht).1
  refine absurd ?_ (Bool.eq_false_iff.mp hreq)
  cases call with
  | setRegistrationChallenge id challenge version expiresAt =>
    obtain ⟨req, _, _, _, _, rfl, hcall, hclient⟩ := hv.sets_own ht rfl
    cases hcall
    exact decide_eq_true ((hv.registration_id henr hclient).mp (of_decide_eq_true htouch))
  | takeRegistrationChallenge id challenge now =>
    obtain ⟨req, _, _, rfl, rfl, -⟩ := hguard
    exact htouch
  | updateClientRegistration id key algorithm version =>
    obtain ⟨req, rfl, _, _, _, hcall⟩ := hv.updates_own ht rfl
    cases hcall
    exact htouch
  | approveClient | approveClientForAccount | revokeClientRow =>
    obtain ⟨command, rfl⟩ := hguard
    exact hadmin rfl htouch
  | _ => cases htouch

/-- A registration touches the client only by storing a challenge for it. -/
theorem Reachable.register_touches (hv : Reachable cfg v) {req : RegisterRequest}
    (ht : v.threads pid = some ⟨.register req, .call call next⟩)
    (htouch : call.touches clientId = true) : call.setsChallenge = true := by
  have hguard := (hv.meets ht).1
  cases call with
  | setRegistrationChallenge => rfl
  | takeRegistrationChallenge =>
    obtain ⟨_, _, _, hreq, -⟩ := hguard
    cases hreq
  | updateClientRegistration =>
    obtain ⟨_, _, _, _, hreq, -⟩ := hguard
    cases hreq
  | approveClient | approveClientForAccount | revokeClientRow =>
    obtain ⟨_, hreq⟩ := hguard
    cases hreq
  | _ => cases htouch

end Handlers

/-- The handler of a completion has not taken its challenge yet. -/
def awaitsChallenge (w : ServiceWorld) (p : ℕ) : Bool :=
  match w.threads p with
  | none => true
  | some ⟨_, .call op _⟩ => !op.updatesRegistration
  | some _ => false

/-- The call of a handler can happen so: a random value is fresh, a fault possible. -/
def Happens (cfg : Config) (w : ServiceWorld) : ServiceAction → Prop
  | .exec pid choice => ∀ call ∈ w.pending? pid, (w.state.exec cfg choice call).isSome
  | _ => True

/-- No handler in `Q` stores a challenge for the client while `p` awaits its own. -/
def Undisturbed (Q : ℕ → Bool) (p : ℕ) (clientId : String) (w : ServiceWorld) : ServiceAction → Prop
  | .exec q _ => Q q = true → ∀ call ∈ w.pending? q, call.setsChallenge = true →
      call.touches clientId = true → awaitsChallenge w p = false
  | _ => True

instance (cfg : Config) (w : ServiceWorld) (a : ServiceAction) : Decidable (Happens cfg w a) :=
  match a with
  | .exec pid choice => inferInstanceAs (Decidable (∀ call ∈ w.pending? pid,
      (w.state.exec cfg choice call).isSome))
  | .spawn .. | .env _ => .isTrue trivial

instance (Q : ℕ → Bool) (p : ℕ) (clientId : String) (w : ServiceWorld) (a : ServiceAction) :
    Decidable (Undisturbed Q p clientId w a) :=
  match a with
  | .exec q _ => inferInstanceAs (Decidable (Q q = true → ∀ call ∈ w.pending? q,
      call.setsChallenge = true → call.touches clientId = true → awaitsChallenge w p = false))
  | .spawn .. | .env _ => .isTrue trivial

/-- Two worlds that show the same of the client: its view, and its handlers outside `Q`. -/
structure Alike (clientId deviceId : String) (Q : ℕ → Bool) (v v' : ServiceWorld) : Prop where
  view : v.state.view clientId = v'.state.view clientId
  threads : ∀ pid request, Q pid = false → v.request? pid = some request →
    request.concerns clientId deviceId = true → v.threads pid = v'.threads pid

variable {v v' : ServiceWorld} {Q : ℕ → Bool}

theorem view_move (move : Env) (h : s.view clientId = s'.view clientId) :
    (s.move move).view clientId = (s'.move move).view clientId := by
  obtain ⟨hclock, hclient, hpending⟩ := view_ext h
  have hfind : s.clients.find? clientId = s'.clients.find? clientId := hclient
  have hmoved : (s.move move).clock = (s'.move move).clock := by
    cases move with
    | tick reading =>
      simp only [State.move, hclock]
      split <;> simp [hclock]
    | _ => exact hclock
  simp [State.view, State.client, hmoved, hfind, hpending]

/-- The step of a handler that does not touch the client leaves its view as it was. -/
theorem step_view (henr : v.state.Enrolled clientId deviceId) {pid : ℕ} {a : ServiceAction}
    (ha : a.pid? = some pid) (hleaves : ∀ choice, a = .exec pid choice → ∀ call ∈ v.pending? pid,
      call.touches clientId = false) :
    ((service cfg).step v a).state.view clientId = v.state.view clientId := by
  obtain ⟨row, hrow, -⟩ := henr.row
  rcases service_step_cases cfg v a with h | ⟨q, request, -, -, h⟩ |
    ⟨q, choice, request, call, next, r, s, rfl, ht, hx, h⟩ | ⟨move, rfl, -⟩
  · rw [h]
  · rw [h]
  · obtain rfl : q = pid := by simpa [Action.pid?] using ha
    rw [h]
    exact exec_view hx ⟨row, hrow⟩ (hleaves choice rfl call (World.pending?_eq ht))
  · cases ha

/-- One action in two alike worlds leads to alike worlds. -/
theorem Alike.step (h : Alike clientId deviceId Q v v') (hv : Reachable cfg v)
    (hv' : Reachable cfg v') (henr : v.state.Enrolled clientId deviceId)
    (henr' : v'.state.Enrolled clientId deviceId)
    (hreq : ∀ pid, Q pid = false → v.request? pid = v'.request? pid) {a : ServiceAction}
    (ha : a.pid?.any Q = false) (hx : Happens cfg v a) (hx' : Happens cfg v' a) :
    Alike clientId deviceId Q ((service cfg).step v a) ((service cfg).step v' a) := by
  cases a with
  | env move =>
    exact ⟨view_move move h.view, h.threads⟩
  | spawn q request =>
    have hq : Q q = false := ha
    cases hstarted : v.request? q with
    | some r =>
      rw [System.step_spawn_started hstarted, System.step_spawn_started ((hreq q hq).symm.trans hstarted)]
      exact h
    | none =>
      have hnone : v.threads q = none := by simpa [World.request?] using hstarted
      have hnone' : v'.threads q = none := by
        simpa [World.request?] using (hreq q hq).symm.trans hstarted
      rw [System.step_spawn hnone, System.step_spawn hnone']
      refine ⟨h.view, fun pid r hQ hr hc => ?_⟩
      by_cases hpid : pid = q
      · subst hpid
        simp
      · simp only [Function.update_of_ne hpid]
        exact h.threads pid r hQ (by simpa [World.request?, Function.update_of_ne hpid] using hr) hc
  | exec q choice =>
    have hq : Q q = false := ha
    have hothers : ∀ pid r, Q pid = false → pid ≠ q →
        ((service cfg).step v (.exec q choice)).request? pid = some r →
        r.concerns clientId deviceId = true →
        ((service cfg).step v (.exec q choice)).threads pid =
          ((service cfg).step v' (.exec q choice)).threads pid := by
      intro pid r hQ hne hr hc
      have hpid : (Action.exec q choice : ServiceAction).pid? ≠ some pid :=
        fun hp => hne (Option.some.inj hp).symm
      rw [System.step_threads_ne _ hpid, System.step_threads_ne _ hpid]
      refine h.threads pid r hQ ?_ hc
      rw [World.request?, System.step_threads_ne _ hpid] at hr
      exact hr
    cases hreqq : v.request? q with
    | none =>
      have hnone : v.pending? q = none := by
        have ht : v.threads q = none := by simpa [World.request?] using hreqq
        simp [World.pending?, ht]
      have hnone' : v'.pending? q = none := by
        have ht : v'.threads q = none := by
          simpa [World.request?] using (hreq q hq).symm.trans hreqq
        simp [World.pending?, ht]
      rw [System.step_exec_idle hnone, System.step_exec_idle hnone']
      exact h
    | some request =>
      cases hc : request.concerns clientId deviceId with
      | false =>
        -- Neither run touches the client, and the handler is none of its own.
        have hleaves : ∀ (u : ServiceWorld), Reachable cfg u → u.state.Enrolled clientId deviceId →
            u.request? q = some request → ∀ call ∈ u.pending? q, call.touches clientId = false := by
          intro u hu hue hur call hcall
          obtain ⟨r, next, ht⟩ := World.pending?_eq_some hcall
          obtain rfl : r = request := Option.some.inj ((World.request?_eq ht).symm.trans hur)
          exact hu.call_leaves hue ht hc
        have hreqq' : v'.request? q = some request := (hreq q hq).symm.trans hreqq
        refine ⟨?_, fun pid r hQ hr hrc => ?_⟩
        · rw [step_view henr rfl fun _ _ => hleaves v hv henr hreqq,
            step_view henr' rfl fun _ _ => hleaves v' hv' henr' hreqq']
          exact h.view
        · by_cases hpid : pid = q
          · subst hpid
            obtain rfl : r = request := by
              have hkept := (System.Reaches.step (service cfg) v (.exec pid choice)).request? hreqq
              exact Option.some.inj (hr.symm.trans hkept)
            exact absurd (hrc.symm.trans hc) (by simp)
          · exact hothers pid r hQ hpid hr hrc
      | true =>
        have hsame : v.threads q = v'.threads q := h.threads q request hq hreqq hc
        cases hpending : v.pending? q with
        | none =>
          have hpending' : v'.pending? q = none := by
            rw [World.pending?, ← hsame]
            exact hpending
          rw [System.step_exec_idle hpending, System.step_exec_idle hpending']
          exact h
        | some call =>
          obtain ⟨r, next, ht⟩ := World.pending?_eq_some hpending
          obtain rfl : r = request := Option.some.inj ((World.request?_eq ht).symm.trans hreqq)
          have ht' : v'.threads q = some ⟨r, .call call next⟩ := hsame ▸ ht
          obtain ⟨⟨res, s⟩, hexec⟩ := Option.isSome_iff_exists.mp (hx call (World.pending?_eq ht))
          obtain ⟨⟨res', s'⟩, hexec'⟩ := Option.isSome_iff_exists.mp (hx' call (World.pending?_eq ht'))
          obtain ⟨rfl, hview⟩ := exec_concerned h.view henr henr' (hv.call_concerns henr ht hc)
            hexec hexec'
          refine ⟨?_, fun pid r' hQ hr hrc => ?_⟩
          · rw [System.step_exec ht hexec, System.step_exec ht' hexec']
            exact hview
          · by_cases hpid : pid = q
            · subst hpid
              rw [System.step_exec ht hexec, System.step_exec ht' hexec']
              simp
            · exact hothers pid r' hQ hpid hr hrc

theorem Alike.step_missing (h : Alike clientId deviceId Q v v')
    (henr : v.state.Enrolled clientId deviceId) {q : ℕ} {a : ServiceAction} (ha : a.pid? = some q)
    (hQ : Q q = true) (hleaves : ∀ choice, a = .exec q choice → ∀ call ∈ v.pending? q,
      call.touches clientId = false) :
    Alike clientId deviceId Q ((service cfg).step v a) v' := by
  refine ⟨(step_view henr ha hleaves).trans h.view, fun pid request hpid hr hc => ?_⟩
  have hne : a.pid? ≠ some pid := by
    rintro hsame
    obtain rfl : q = pid := Option.some.inj (ha.symm.trans hsame)
    simp [hQ] at hpid
  rw [World.request?, System.step_threads_ne _ hne] at hr
  rw [System.step_threads_ne _ hne]
  exact h.threads pid request hpid hr hc

/-- What follows an update does not depend on its answer. -/
def Settles (call : Call) (next : Result call → Handler Response) : Prop :=
  call.updatesRegistration = true →
    ∃ response error, (∀ v, next (some v) = .ret response) ∧ next none = .fail error

theorem handler_settles (request : Request) : (handler cfg request).Everywhere Settles := by
  cases request with
  | completeRegistration request =>
    simp only [handler, completeRegistration, ask, bind_assoc, everywhere_perform_bind,
      everywhere_orReject_bind, everywhere_rejectIf_bind]
    refine ⟨Bool.noConfusion, fun row client _ => ⟨Bool.noConfusion, fun t => ⟨Bool.noConfusion,
      fun pending _ _ => ⟨Bool.noConfusion, fun taken requested _ => ⟨?_, fun _ => trivial⟩⟩⟩⟩⟩
    exact fun _ => ⟨_, _, fun _ => rfl, rfl⟩
  | _ =>
    refine (handler_meets cfg _).everywhere fun h call next hguard hup => ?_
    cases call with
    | updateClientRegistration =>
      obtain ⟨_, _, _, _, hreq, -⟩ := hguard
      cases hreq
    | _ => cases hup

/-- The two runs, seen from the completion `p`: alike while it awaits its challenge, and
after that at one point of its program. -/
structure Beside (cfg : Config) (w : ServiceWorld) (clientId deviceId : String) (Q : ℕ → Bool)
    (p : ℕ) (v v' : ServiceWorld) : Prop where
  reached : (service cfg).Reaches w v
  reached' : (service cfg).Reaches w v'
  requests : ∀ pid, Q pid = false → v.request? pid = v'.request? pid
  thread : v.threads p = v'.threads p
  alike : awaitsChallenge v p = true → Alike clientId deviceId Q v v'

section Beside
variable {w : ServiceWorld} {p : ℕ} {row : ClientRecord}

theorem Beside.step_missing (h : Beside cfg w clientId row.deviceId Q p v v')
    (hw : Reachable cfg w) (hrow : w.state.client clientId = some row) {a : ServiceAction}
    (ha : a.pid?.any Q = true) (hp : Q p = false) (hu : Undisturbed Q p clientId v a)
    (hreg : ∀ q, Q q = true → ∀ r ∈ v.request? q, ∃ reg, r = .register reg) :
    Beside cfg w clientId row.deviceId Q p ((service cfg).step v a) v' := by
  obtain ⟨q, hq, hQ⟩ := (Option.any_eq_true _ _).mp ha
  have hqa : a.pid? = some q := hq
  have hother : ∀ pid, Q pid = false → a.pid? ≠ some pid := by
    rintro pid hpid hsame
    obtain rfl : q = pid := Option.some.inj (hqa.symm.trans hsame)
    simp [hQ] at hpid
  have hsame : ∀ pid, Q pid = false → ((service cfg).step v a).threads pid = v.threads pid :=
    fun pid hpid => System.step_threads_ne _ (hother pid hpid)
  have hv : Reachable cfg v := hw.trans h.reached
  have henr : v.state.Enrolled clientId row.deviceId := hw.enrolled hrow h.reached
  refine ⟨h.reached.trans _ (.step _ v a), h.reached', fun pid hpid => ?_, ?_, fun hawaits => ?_⟩
  · rw [← h.requests pid hpid, World.request?, World.request?, hsame pid hpid]
  · rw [hsame p hp]
    exact h.thread
  · rw [awaitsChallenge, hsame p hp] at hawaits
    have hawaits : awaitsChallenge v p = true := hawaits
    refine (h.alike hawaits).step_missing henr hqa hQ fun choice hexec call hcall => ?_
    subst hexec
    -- A registration touches the client only by storing a challenge.
    by_contra htouch
    rw [Bool.not_eq_false] at htouch
    obtain ⟨r, next, ht⟩ := World.pending?_eq_some hcall
    obtain ⟨reg, rfl⟩ := hreg q hQ r (World.request?_eq ht)
    have hset := hv.register_touches ht htouch
    exact absurd (hu hQ call hcall hset htouch) (by simp [hawaits])

/-- Whether an update fails is decided by the environment alone. -/
theorem exec_update {t t' : State} {choice : Choice} {call : Call} {r r' : Option call.Val}
    (hup : call.updatesRegistration = true) (h : s.exec cfg choice call = some (r, s'))
    (h' : t.exec cfg choice call = some (r', t')) : r = none ↔ r' = none := by
  cases call with
  | updateClientRegistration id key algorithm version =>
    cases choice with
    | run draw => cases h; cases h'; simp
    | fault late => cases h; cases h'; simp
  | _ => cases hup

/-- Past its challenge, a completion goes on the same in both runs. -/
theorem step_settled (hv : Reachable cfg v) (hthread : v.threads p = v'.threads p)
    (hpast : awaitsChallenge v p = false) {a : ServiceAction} (hx : Happens cfg v a)
    (hx' : Happens cfg v' a) :
    ((service cfg).step v a).threads p = ((service cfg).step v' a).threads p ∧
      awaitsChallenge ((service cfg).step v a) p = false := by
  by_cases ha : a.pid? = some p
  · obtain ⟨⟨request, rest⟩, ht⟩ : ∃ t, v.threads p = some t := by
      cases ht : v.threads p with
      | none => simp [awaitsChallenge, ht] at hpast
      | some t => exact ⟨t, rfl⟩
    have ht' : v'.threads p = some ⟨request, rest⟩ := hthread ▸ ht
    have hidle : (service cfg).step v a = v → (service cfg).step v' a = v' →
        ((service cfg).step v a).threads p = ((service cfg).step v' a).threads p ∧
          awaitsChallenge ((service cfg).step v a) p = false := by
      intro h h'
      rw [h, h']
      exact ⟨hthread, hpast⟩
    cases a with
    | env move => cases ha
    | spawn q other =>
      obtain rfl : q = p := Option.some.inj ha
      exact hidle (System.step_spawn_started (World.request?_eq ht))
        (System.step_spawn_started (World.request?_eq ht'))
    | exec q choice =>
      obtain rfl : q = p := Option.some.inj ha
      cases rest with
      | ret response =>
        exact hidle (System.step_exec_idle (by simp [World.pending?, ht]))
          (System.step_exec_idle (by simp [World.pending?, ht']))
      | fail error =>
        exact hidle (System.step_exec_idle (by simp [World.pending?, ht]))
          (System.step_exec_idle (by simp [World.pending?, ht']))
      | call op next =>
        have hup : op.updatesRegistration = true := by simpa [awaitsChallenge, ht] using hpast
        obtain ⟨⟨r, t⟩, hexec⟩ := Option.isSome_iff_exists.mp (hx op (World.pending?_eq ht))
        obtain ⟨⟨r', t'⟩, hexec'⟩ := Option.isSome_iff_exists.mp (hx' op (World.pending?_eq ht'))
        obtain ⟨clock, canonical, files, hreach⟩ := hv
        obtain ⟨response, error, hsome, hnone⟩ := (hreach.everywhere handler_settles ht).1 hup
        have hnext : next r = next r' ∧ ((∃ response, next r = .ret response) ∨
            ∃ error, next r = .fail error) := by
          have hiff := exec_update hup hexec hexec'
          cases r with
          | none =>
            rw [hiff.mp rfl]
            exact ⟨rfl, .inr ⟨error, hnone⟩⟩
          | some b =>
            obtain ⟨b', rfl⟩ : ∃ b', r' = some b' :=
              Option.ne_none_iff_exists'.mp fun h => by simpa using hiff.mpr h
            exact ⟨(hsome b).trans (hsome b').symm, .inl ⟨response, hsome b⟩⟩
        rw [System.step_exec ht hexec, System.step_exec ht' hexec', World.afterCall_threads_self,
          World.afterCall_threads_self, awaitsChallenge, World.afterCall_threads_self, hnext.1]
        refine ⟨rfl, ?_⟩
        rcases hnext.2 with ⟨response, h⟩ | ⟨error, h⟩
        · simp [← hnext.1, h]
        · simp [← hnext.1, h]
  · have hkept := System.step_threads_ne (S := service cfg) v ha
    refine ⟨by rw [hkept, System.step_threads_ne _ ha, hthread], ?_⟩
    rw [awaitsChallenge, hkept]
    exact hpast

theorem Beside.step_kept (h : Beside cfg w clientId row.deviceId Q p v v') (hw : Reachable cfg w)
    (hrow : w.state.client clientId = some row) {a : ServiceAction}
    (ha : a.pid?.any Q = false) (hp : Q p = false) (hx : Happens cfg v a) (hx' : Happens cfg v' a)
    (hreq : ∀ r ∈ ((service cfg).step v a).request? p, r.concerns clientId row.deviceId = true) :
    Beside cfg w clientId row.deviceId Q p ((service cfg).step v a) ((service cfg).step v' a) := by
  have hv : Reachable cfg v := hw.trans h.reached
  have hreached := h.reached.trans _ (.step (service cfg) v a)
  have hreached' := h.reached'.trans _ (.step (service cfg) v' a)
  have hrequests : ∀ pid, Q pid = false →
      ((service cfg).step v a).request? pid = ((service cfg).step v' a).request? pid := by
    intro pid hpid
    rw [System.step_request?, System.step_request?, h.requests pid hpid]
  cases hawaits : awaitsChallenge v p with
  | false =>
    obtain ⟨hthread, hpast⟩ := step_settled hv h.thread hawaits hx hx'
    exact ⟨hreached, hreached', hrequests, hthread, fun hstill => by simp [hpast] at hstill⟩
  | true =>
    have halike := (h.alike hawaits).step hv (hw.trans h.reached') (hw.enrolled hrow h.reached)
      (hw.enrolled hrow h.reached') h.requests ha hx hx'
    refine ⟨hreached, hreached', hrequests, ?_, fun _ => halike⟩
    cases hr : ((service cfg).step v a).request? p with
    | some r => exact halike.threads p r hp hr (hreq r hr)
    | none =>
      have hnone : ∀ u : ServiceWorld, u.request? p = none → u.threads p = none := by
        intro u hu
        simpa [World.request?] using hu
      rw [hnone _ hr, hnone _ ((hrequests p hp).symm.trans hr)]

end Beside

/-- While no other registration stores a challenge for the client, deleting any set of
registrations from the run changes nothing for the completion of the client. -/
theorem undisturbed_completion (clientId : String) (row : ClientRecord) (w : ServiceWorld)
    (hw : Reachable cfg w) (hrow : w.state.client clientId = some row) (acts : List ServiceAction)
    (Q : ℕ → Bool) (p : ℕ) (request : CompleteRegistrationRequest)
    (hQ : ∀ q, Q q = true → ∀ r ∈ ((service cfg).run w acts).request? q, ∃ reg, r = .register reg)
    (hp : Q p = false)
    (hserves : ((service cfg).run w acts).request? p = some (.completeRegistration request))
    (hclient : request.clientId = clientId)
    (hrun : (service cfg).Along (fun v a => Happens cfg v a ∧ Undisturbed Q p clientId v a) w acts)
    (hrun' : (service cfg).Along (Happens cfg) w (without Q acts)) :
    ((service cfg).run w acts).threads p = ((service cfg).run w (without Q acts)).threads p := by
  have hconcerns : (Request.completeRegistration request).concerns clientId row.deviceId = true :=
    decide_eq_true hclient
  have hstart : Beside cfg w clientId row.deviceId Q p w w :=
    ⟨.refl _ w, .refl _ w, fun _ _ => rfl, rfl, fun _ => ⟨rfl, fun _ _ _ _ _ => rfl⟩⟩
  refine (hrun.keeps_without (Beside cfg w clientId row.deviceId Q p) Q hrun' rfl hstart ?_ ?_).thread
  · intro v v' a hfinal ha hC h
    refine h.step_missing hw hrow ha hp hC.2 fun q hq r hr => ?_
    exact hQ q hq r (((System.Reaches.step _ v a).trans _ hfinal).request? hr)
  · intro v v' a hfinal ha hC hD h
    refine h.step_kept hw hrow ha hp hC.1 hD fun r hr => ?_
    obtain rfl := Option.some.inj ((hfinal.request? hr).symm.trans hserves)
    exact hconcerns

/-- The client has obtained a challenge. -/
def pendingWorld : ServiceWorld :=
  (service sampleConfig).run sampleStart (serve 0 (.register
    ⟨"install", "device", "1", "windows", sampleKey, .ed25519DpapiV1, "rdc"⟩)
    ["", "", "client", "", "client-challenge", ""])

/-- A registration with the public key of the client, as anyone can send it. -/
def rivalRegistration : List ServiceAction :=
  serve 1 (.register ⟨"other", "device", "1", "windows", sampleKey, .ed25519DpapiV1, "rdc"⟩)
    ["", "", "rival-challenge", ""]

/-- The client answers its challenge. -/
def pendingCompletion : List ServiceAction :=
  serve 2 (.completeRegistration ⟨"client", "client-challenge", "signature"⟩) ["", "", "", "", ""]

/-- With the rival registration before it the valid completion fails; without it, it succeeds. -/
theorem rival_registration_disturbs :
    let acts := rivalRegistration ++ pendingCompletion
    ((service sampleConfig).run pendingWorld acts).error? 2 =
        some (reject (.unauthorized "registration challenge is invalid")) ∧
      ((service sampleConfig).run pendingWorld (without (· = 1) acts)).answer? 2 =
        some (.completed ⟨"client", "device", "pending"⟩) := by
  decide +kernel

/-- The rival registration comes after the client has taken its challenge. -/
theorem undisturbed_completion_late :
    ((service sampleConfig).run pendingWorld (pendingCompletion ++ rivalRegistration)).threads 2 =
      ((service sampleConfig).run pendingWorld
        (without (· = 1) (pendingCompletion ++ rivalRegistration))).threads 2 := by
  refine undisturbed_completion "client" ⟨"client", "pending:client", "device", sampleKey,
    .ed25519DpapiV1, "1", false, false⟩ pendingWorld (reachable_run sampleConfig _ _ _ _)
    (by decide +kernel) (pendingCompletion ++ rivalRegistration) (· = 1) 2
    ⟨"client", "client-challenge", "signature"⟩ ?_ (by decide) (by decide +kernel) rfl
    (by decide +kernel) (by decide +kernel)
  intro q hq r hr
  obtain rfl : q = 1 := of_decide_eq_true hq
  have hserved : ((service sampleConfig).run pendingWorld
      (pendingCompletion ++ rivalRegistration)).request? 1 = some (.register
        ⟨"other", "device", "1", "windows", sampleKey, .ed25519DpapiV1, "rdc"⟩) := by decide +kernel
  obtain rfl := Option.some.inj (hserved.symm.trans hr)
  exact ⟨_, rfl⟩

end JustRun.Authorization
