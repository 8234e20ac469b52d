import JustRun.Authorization.Transfers

/-!
# The registry of transfers

Expired transfers are dropped when one is registered or looked up, by the clock reading that the
request has made, and the capacity is checked in the same section. What expires while a request
hashes the artifact still counts against it.
-/
namespace JustRun.Authorization
open Machine Relational Concurrency

/-- The maximum the service runs with. -/
def Config.transferLimit (cfg : Config) : ℕ := max 1 cfg.maxActiveTransfers

/-- The registered transfers that have not expired at this time. -/
def State.unexpired (s : State) (now : ℤ) : List (String × ArtifactTransfer) :=
  s.transfers.rows.filter fun p => p.2.manifest.expiresAt > now

variable {cfg : Config} {w : ServiceWorld} {s s' : State}

theorem State.retainTransfers_rows (s : State) (now : ℤ) :
    (s.retainTransfers now).transfers.rows = s.unexpired now := by
  simp [retainTransfers, Table.deleteWhere, unexpired]

theorem State.registerTransfer_fst (s : State) (limit : ℕ) (now : ℤ) (transferId : String)
    (transfer : ArtifactTransfer) :
    (s.registerTransfer limit now transferId transfer).1 = true ↔
      (s.unexpired now).length < limit := by
  rw [registerTransfer, retainTransfers_rows]
  split <;> simp <;> omega

/-- No call takes the registry over its limit. -/
theorem exec_bounded {choice : Choice} {call : Call} {r : Option call.Val}
    (h : s.exec cfg choice call = some (r, s'))
    (hs : s.transfers.rows.length ≤ cfg.transferLimit) :
    s'.transfers.rows.length ≤ cfg.transferLimit := by
  have hkept : ∀ now, (s.retainTransfers now).transfers.rows.length ≤ cfg.transferLimit := by
    intro now
    rw [s.retainTransfers_rows]
    exact (List.length_filter_le _ _).trans hs
  rcases State.exec_cases h with ⟨-, rfl | ⟨nonce, now, -, rfl⟩⟩ | ⟨draw, v, rfl, heff, -⟩
  · exact hs
  · exact hs
  · cases call with
    | registerTransfer now transferId transfer =>
      obtain rfl : (s.registerTransfer cfg.transferLimit now transferId transfer).2 = s' :=
        congrArg Prod.snd (Option.some.inj heff)
      simp only [State.registerTransfer]
      split
      · exact hkept now
      · next hroom =>
        apply (Table.length_upsert_le _ _).trans
        omega
    | lookupTransfer now transferId =>
      obtain rfl : (s.lookupTransfer now transferId).2 = s' :=
        congrArg Prod.snd (Option.some.inj heff)
      exact hkept now
    | _ =>
      rw [(effect_frame heff).transfers rfl]
      exact hs

theorem Reachable.transfers_bounded (hw : Reachable cfg w) :
    w.state.transfers.rows.length ≤ cfg.transferLimit := by
  obtain ⟨clock, canonical, files, hw⟩ := hw
  apply hw.keeps (J := fun s => s.transfers.rows.length ≤ cfg.transferLimit)
  · exact Nat.zero_le _
  · intro v pid request call next choice r s' _ _ hx hs
    exact exec_bounded hx hs
  · intro move s hs
    rwa [show (service cfg).env move s = s.move move from rfl, State.move_transfers]

/-- The call has refused to register a transfer. -/
def refused : ServiceEntry → Bool
  | ⟨_, _, .registerTransfer _ _ _, some false⟩ => true
  | _ => false

/-- The transfer that a logged call has found. -/
def found? : ServiceEntry → Option (String × ArtifactTransfer)
  | ⟨_, _, .lookupTransfer _ transferId, some (some transfer)⟩ => some (transferId, transfer)
  | _ => none

/-- A chunk of the transfer is due to the session. -/
structure ChunkDue (session : SessionRecord) (artifactId : String) (index : UInt32)
    (transfer : ArtifactTransfer) : Prop where
  sameArtifact : transfer.artifactId = artifactId
  sameSession : transfer.sessionId = session.sessionId
  sameDevice : transfer.deviceId = session.deviceId
  inRange : index.toNat < transfer.manifest.chunkCount

/-- The registry keeps its limit, only transfers that have not expired take room, and chunks are
served only from those, where `time` says by which clock readings a call is judged. -/
structure RegistrySafe (cfg : Config) (time : ServiceEntry → ℤ → Prop) (w : ServiceWorld) : Prop where
  bounded : w.state.transfers.rows.length ≤ cfg.transferLimit
  unblocked : ∀ e ∈ w.log, refused e = true → ∃ now, time e now ∧
    cfg.transferLimit ≤ (e.before.unexpired now).length
  served : ∀ pid artifactId transferId index authorization response,
    w.Finished pid (.artifactChunk artifactId transferId index authorization) (.chunk response) →
      ∃ session transfer now checked, ∃ e ∈ w.log, ∃ x ∈ w.log,
        BearerChecked (w.history pid) authorization checked session ∧
        registered? x = some (transferId, transfer) ∧
        e.pid = pid ∧ found? e = some (transferId, transfer) ∧
        (transferId, transfer) ∈ e.before.unexpired now ∧ time e now ∧
        ChunkDue session artifactId index transfer

/-- The request of the call has made this clock reading. -/
def ReadBy (w : ServiceWorld) (e : ServiceEntry) (now : ℤ) : Prop :=
  ∃ t : Reading, now = t.val ∧ Answered (w.history e.pid) .now t

theorem Reachable.refused_full (hw : Reachable cfg w) {e : ServiceEntry} (he : e ∈ w.log)
    (hr : refused e = true) : ∃ now, ReadBy w e now ∧
      cfg.transferLimit ≤ (e.before.unexpired now).length := by
  obtain ⟨pid, s, call, res⟩ := e
  unfold refused at hr
  split at hr
  · next now transferId transfer heq =>
    cases heq
    obtain ⟨l, l', hl⟩ := List.append_of_mem he
    obtain ⟨t, -, ⟨reading, rfl, hreading⟩, -⟩ := hw.guarded hl
    have hprefix : historyOf pid l <+: w.history pid := by
      rw [World.history, hl, historyOf_append]
      exact List.prefix_append _ _
    obtain ⟨u, choice, s', -, rfl, -, hx⟩ := hw.executed he
    have hfalse : (u.state.registerTransfer cfg.transferLimit reading transferId transfer).1 = false := by
      rcases State.exec_cases hx with ⟨hnone, -⟩ | ⟨draw, v, hv, heff, -⟩
      · cases hnone
      · cases hv
        exact congrArg Prod.fst (Option.some.inj heff)
    refine ⟨reading, ⟨reading, rfl, hreading.mono hprefix⟩, ?_⟩
    by_contra hroom
    rw [not_le, ← State.registerTransfer_fst u.state _ _ transferId transfer, hfalse] at hroom
    cases hroom
  · cases hr

theorem Reachable.chunk_due (hw : Reachable cfg w) {pid : ℕ} {artifactId transferId : String}
    {index : UInt32} {authorization : Option String} {response : ArtifactChunkResponse}
    (h : w.Finished pid (.artifactChunk artifactId transferId index authorization)
      (.chunk response)) :
    ∃ session transfer now checked, ∃ e ∈ w.log, ∃ x ∈ w.log,
      BearerChecked (w.history pid) authorization checked session ∧
      registered? x = some (transferId, transfer) ∧ e.pid = pid ∧
      found? e = some (transferId, transfer) ∧ (transferId, transfer) ∈ e.before.unexpired now ∧
      ReadBy w e now ∧ ChunkDue session artifactId index transfer := by
  obtain hissued := hw.issued h
  generalize hresponse : Response.chunk response = answer at hissued
  cases hissued with
  | @chunk _ _ _ _ t session transfer plaintext key ciphertext reading checked found binding inRange =>
    obtain ⟨x, hx, hregistered⟩ := hw.lookup_registered found
    obtain ⟨u, draw, s', hu, hr, he, heff⟩ := hw.answered found
    have hfound : (u.state.lookupTransfer t.val transferId).1 = some transfer :=
      congrArg Prod.fst (Option.some.inj heff)
    obtain ⟨⟨id, _⟩, hfind, rfl⟩ := Option.map_eq_some_iff.mp hfound
    obtain ⟨hmem, rfl⟩ := Table.find?_eq_some.mp hfind
    rw [← Table.mem_rows, u.state.retainTransfers_rows] at hmem
    exact ⟨session, _, t.val, t.val, _, he, x, hx, checked, hregistered, rfl, rfl, hmem,
      ⟨t, rfl, reading⟩, binding.1, binding.2.1, binding.2.2, inRange⟩

/-- At every point of a run the registry is safe by the readings that the requests have made. -/
theorem registry_safe_by_readings (cfg : Config) (clock : Reading) (canonical : String → Option Path)
    (files : Path → Option (List UInt8)) (acts : List ServiceAction) :
    let w := (service cfg).run (start clock canonical files) acts
    RegistrySafe cfg (ReadBy w) w := by
  intro w
  have hw : Reachable cfg w := reachable_run cfg clock canonical files acts
  exact ⟨hw.transfers_bounded, fun e he hr => hw.refused_full he hr,
    fun pid artifactId transferId index authorization response h => hw.chunk_due h⟩

/-- A service for a single transfer. -/
def singleConfig : Config := { transferConfig with maxActiveTransfers := 1 }

/-- The registered transfer expires while a second request hashes the artifact. -/
def expiringRun : List ServiceAction :=
  sampleTransfer ++
    serve 9 (.prepareArtifact "runner" (some "Bearer session") ⟨"device", "x86_64", "13", "key"⟩)
      ["", "", "", "", "", "", "", "other-key", "", "", "", "other", "other-prefix"] ++
    [.env (.tick ⟨3000, by decide⟩), .exec 9 (.run { text := "" })]

theorem expired_transfer_blocks :
    ¬ ∀ (cfg : Config) (clock : Reading) (canonical : String → Option Path)
      (files : Path → Option (List UInt8)) (acts : List ServiceAction),
      RegistrySafe cfg (fun e now => now = e.before.clock.val)
        ((service cfg).run (start clock canonical files) acts) := by
  intro h
  obtain ⟨-, hunblocked, -⟩ := h singleConfig ⟨1000, by decide⟩ samplePath sampleFiles expiringRun
  have hrefused : ∃ e ∈ ((service singleConfig).run (start ⟨1000, by decide⟩ samplePath sampleFiles)
      expiringRun).log, refused e = true ∧ e.before.unexpired e.before.clock.val = [] := by
    decide +kernel
  obtain ⟨e, he, hr, hexpired⟩ := hrefused
  obtain ⟨now, rfl, hfull⟩ := hunblocked e he hr
  rw [hexpired] at hfull
  exact absurd hfull (by decide)

end JustRun.Authorization
