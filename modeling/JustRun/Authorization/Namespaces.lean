import JustRun.Authorization.Replay

/-!
# One nonce table for every client

Request nonces of all clients and the markers of consumed grants share one
table. A key that no other handler carries is never found taken; a key that
another client's request carries is.
-/
namespace JustRun.Authorization
open Machine Relational Concurrency

/-- The answer of a completed `consume_nonce`. -/
def consumed? : ServiceEntry → Option Bool
  | ⟨_, _, .consumeNonce _ _, some accepted⟩ => some accepted
  | _ => none

/-- What `consume_nonce` has answered to the handler `pid`: `false` is a replay. -/
def verdict? (w : ServiceWorld) (pid : ℕ) : Option Bool :=
  w.log.findSome? (fun e => if e.pid = pid then consumed? e else none)

theorem consumed?_eq_some {e : ServiceEntry} {accepted : Bool} (h : consumed? e = some accepted) :
    ∃ key now, e = ⟨e.pid, e.before, .consumeNonce key now, some accepted⟩ := by
  obtain ⟨pid, s, op, res⟩ := e
  unfold consumed? at h
  split at h
  · next key now accepted' heq => cases heq; cases h; exact ⟨key, now, rfl⟩
  · cases h

variable {cfg : Config}

/-- Nothing but a reservation fills the nonce table. -/
theorem Reachable.reserved_by {w : ServiceWorld} (hw : Reachable cfg w) {r : Reservation String}
    (hr : r ∈ w.state.usedNonces) : ∃ e ∈ w.log, reservation? e = some r := by
  obtain ⟨clock, canonical, files, hw⟩ := hw
  refine hw.induct (fun w => ∀ r ∈ w.state.usedNonces, ∃ e ∈ w.log, reservation? e = some r)
    ?_ ?_ r hr
  · intro r hr
    exact absurd hr (Table.not_mem_empty r)
  clear hr r
  rintro v a - ih r hr
  rcases service_step_cases cfg v a with h | ⟨q, request, -, -, h⟩ |
    ⟨pid, choice, request, op, next, res, s', -, -, hx, h⟩ | ⟨move, -, h⟩
  · rw [h] at hr ⊢
    exact ih r hr
  · rw [h] at hr ⊢
    exact ih r hr
  · rw [h] at hr ⊢
    rw [World.afterCall_state] at hr
    simp only [World.afterCall_log, List.mem_append, List.mem_singleton]
    -- A reservation that was there before is logged before.
    have hold : r ∈ v.state.usedNonces → ∃ e, (e ∈ v.log ∨ e = ⟨pid, v.state, op, res⟩) ∧
        reservation? e = some r := by
      intro hm
      obtain ⟨e, he, her⟩ := ih r hm
      exact ⟨e, .inl he, her⟩
    cases op with
    | consumeNonce key now =>
      cases res with
      | some accepted =>
        obtain ⟨hacc, hs'⟩ := exec_consumeNonce hx
        rw [hs'] at hr
        rcases ReplayCache.reserve_mem hr with hr | ⟨hnew, rfl⟩
        · exact hold hr
        · obtain rfl : accepted = true := hacc.symm.trans hnew
          exact ⟨_, .inr rfl, rfl⟩
      | none =>
        rcases State.exec_cases hx with ⟨-, rfl | ⟨nonce, now', hcall, rfl⟩⟩ | ⟨_, _, hv, -⟩
        · exact hold hr
        · exact hold (ReplayCache.mem_prune.mp hr).1
        · cases hv
    | _ => exact hold ((exec_frame hx).usedNonces rfl ▸ hr)
  · rw [h] at hr ⊢
    exact ih r (v.state.move_usedNonces move ▸ hr)

/-- A key that no other handler of the run carries is never found taken. -/
theorem unshared_key_never_replayed {w : ServiceWorld} (hw : Reachable cfg w) {p : ℕ}
    {request : Request} (hp : w.request? p = some request) {stamp : Stamp}
    (hstamp : request.stamp? cfg = some stamp)
    (hunshared : ∀ q r s, q ≠ p → w.request? q = some r → r.stamp? cfg = some s →
      s.key ≠ stamp.key) : verdict? w p ≠ some false := by
  intro h
  obtain ⟨l, ⟨pid, s, op, res⟩, l', hl, he, hfirst⟩ := List.findSome?_eq_some_iff.mp h
  obtain rfl : pid = p := by
    by_contra hne
    simp [hne] at he
  obtain ⟨key, now, hcall⟩ := consumed?_eq_some (by simpa using he)
  cases hcall
  obtain ⟨u, first, next, choice, s', hu, hr, rfl, rfl, ht, hx⟩ := hw.point hl
  obtain ⟨-, stamp', -, hstamp', rfl, -⟩ := hu.attempt ht
  obtain rfl : first = request := by
    have hsame := hr.request? (World.request?_eq ht)
    exact Option.some.inj (hsame.symm.trans hp)
  obtain rfl : stamp' = stamp := Option.some.inj (hstamp'.symm.trans hstamp)
  -- The table held the key already, so some handler had reserved it.
  have htaken : ∃ r ∈ u.state.usedNonces, r.key = stamp'.key := by
    by_contra hfree
    have hacc := (exec_consumeNonce hx).1
    rw [Bool.eq_false_iff, ne_eq, ReplayCache.reserve_accepts_iff] at hacc
    exact hacc fun r hr hk => absurd ⟨r, hr, hk⟩ hfree
  obtain ⟨r, hmem, hkey⟩ := htaken
  obtain ⟨e', he', hres⟩ := hu.reserved_by hmem
  have hmade := reservation?_eq_some.mp hres
  by_cases hpid : e'.pid = pid
  · have hnone := hfirst e' he'
    rw [hmade] at hnone
    simp [hpid, consumed?] at hnone
  · obtain ⟨l, l', hl'⟩ := List.append_of_mem he'
    obtain ⟨t, hthread, hguard⟩ := hu.guarded hl'
    rw [hmade] at hguard
    obtain ⟨-, other, -, -, hother, hotherKey, -⟩ := hguard
    have hreq := hr.request? (World.request?_eq hthread)
    exact hunshared e'.pid t.request other hpid hreq hother (hotherKey.trans hkey)

/-- The client that a stamped request names. -/
def Request.claimant? (cfg : Config) : Request → Option String
  | .createSession request => some request.clientId
  | .heartbeat _ request => some request.clientId
  | .consumeExecutionGrant grant => (cfg.verifyExecutionGrant grant).map (·.clientId)
  | _ => none

/-- No handler that the run starts beside `p`, and whose request satisfies `among`,
reserves `key`. -/
def Unshared (cfg : Config) (among : Request → Bool) (acts : List ServiceAction) (p : ℕ)
    (key : String) : Prop :=
  ∀ q ∈ acts.filterMap Action.pid?, q ≠ p → ∀ r ∈ spawned? q acts, among r = true →
    ∀ s ∈ r.stamp? cfg, s.key ≠ key

instance (cfg : Config) (among : Request → Bool) (acts : List ServiceAction) (p : ℕ)
    (key : String) : Decidable (Unshared cfg among acts p key) :=
  inferInstanceAs (Decidable (∀ q ∈ acts.filterMap Action.pid?, q ≠ p → ∀ r ∈ spawned? q acts,
    among r = true → ∀ s ∈ r.stamp? cfg, s.key ≠ key))

/-- Another client is served first, with this nonce; then the client, with nonce `n`. -/
def otherNonceRun (nonce : String) : List ServiceAction :=
  sampleEnroll 0 "client" "device" ++ sampleEnroll 2 "other" "device-2" ++
    serve 4 (.createSession (sampleSession "other" "device-2" nonce 1000)) ["", "", ""] ++
    serve 5 (.createSession (sampleSession "client" "device" "n" 1000)) ["", "", ""]

end JustRun.Authorization
