import JustRun.Authorization.Registration

/-!
# Artifact transfers

A transfer keeps the manifest it was registered with, so the key and the nonce of
a chunk never change. The chunk itself is read from the artifact file for every
request: two responses for one chunk encrypt the same bytes as long as nobody
writes other bytes over a chunk that has been read.
-/
namespace JustRun.Authorization
open Machine Relational Concurrency Concurrency.Prog

/-- The transfer that a logged call has registered. -/
def registered? : ServiceEntry → Option (String × ArtifactTransfer)
  | ⟨_, _, .registerTransfer _ transferId transfer, some true⟩ => some (transferId, transfer)
  | _ => none

theorem registered?_eq_some {e : ServiceEntry} {p : String × ArtifactTransfer} :
    registered? e = some p ↔ ∃ now, e = ⟨e.pid, e.before, .registerTransfer now p.1 p.2, some true⟩ := by
  obtain ⟨pid, s, op, res⟩ := e
  constructor
  · intro h
    unfold registered? at h
    split at h
    · next heq => cases heq; cases h; exact ⟨_, rfl⟩
    · cases h
  · rintro ⟨now, h⟩
    rw [h]
    rfl

variable {cfg : Config}

/-- A transfer was there before the call, or the call has registered it. -/
theorem exec_transfers {s s' : State} {choice : Choice} {call : Call} {r : Option call.Val}
    (h : s.exec cfg choice call = some (r, s')) {p : String × ArtifactTransfer} (pid : ℕ)
    (hp : p ∈ s'.transfers) : p ∈ s.transfers ∨ registered? ⟨pid, s, call, r⟩ = some p := by
  rcases State.exec_cases h with ⟨-, rfl | ⟨nonce, now, -, rfl⟩⟩ | ⟨draw, v, rfl, heff, -⟩
  · exact .inl hp
  · exact .inl hp
  · cases call with
    | registerTransfer now transferId transfer =>
      obtain ⟨rfl, rfl⟩ : (s.registerTransfer (max 1 cfg.maxActiveTransfers) now transferId
          transfer).1 = v ∧ (s.registerTransfer (max 1 cfg.maxActiveTransfers) now transferId
          transfer).2 = s' :=
        ⟨congrArg Prod.fst (Option.some.inj heff), congrArg Prod.snd (Option.some.inj heff)⟩
      simp only [State.registerTransfer] at hp ⊢
      split at hp
      · exact .inl (Table.mem_deleteWhere.mp hp).1
      · next hroom =>
        rcases Table.mem_upsert.mp hp with ⟨hp, -⟩ | rfl
        · exact .inl (Table.mem_deleteWhere.mp hp).1
        · rw [if_neg hroom]
          exact .inr rfl
    | lookupTransfer now transferId =>
      obtain rfl : (s.lookupTransfer now transferId).2 = s' :=
        congrArg Prod.snd (Option.some.inj heff)
      exact .inl (Table.mem_deleteWhere.mp hp).1
    | _ =>
      rw [(effect_frame heff).transfers rfl] at hp
      exact .inl hp

variable {w : ServiceWorld}

/-- Every transfer in the registry was registered by a logged call. -/
theorem Reachable.transfer_registered (hw : Reachable cfg w) {p : String × ArtifactTransfer}
    (hp : p ∈ w.state.transfers) : ∃ x ∈ w.log, registered? x = some p := by
  obtain ⟨clock, canonical, files, hw⟩ := hw
  refine hw.induct (fun w => ∀ p ∈ w.state.transfers, ∃ x ∈ w.log, registered? x = some p)
    ?_ ?_ p hp
  · exact fun p hp => absurd hp (Table.not_mem_empty p)
  · intro v a _ ih p hp
    rcases service_step_cases cfg v a with h | ⟨pid, request, -, -, h⟩ |
      ⟨pid, choice, request, call, next, r, s, -, -, hx, h⟩ | ⟨move, -, h⟩
    · rw [h] at hp ⊢
      exact ih p hp
    · rw [h] at hp ⊢
      exact ih p hp
    · rw [h] at hp ⊢
      rcases exec_transfers hx pid hp with hp | hp
      · obtain ⟨x, hx, hregistered⟩ := ih p hp
        exact ⟨x, by simp [hx], hregistered⟩
      · exact ⟨_, by simp, hp⟩
    · rw [h] at hp ⊢
      exact ih p (by simpa using hp)

theorem Reachable.registered_prepared (hw : Reachable cfg w) {l l' : List ServiceEntry}
    {x : ServiceEntry} (hl : w.log = l ++ x :: l') {p : String × ArtifactTransfer}
    (hp : registered? x = some p) : TransferPrepared (historyOf x.pid l) p.1 p.2 := by
  obtain ⟨now, hx⟩ := registered?_eq_some.mp hp
  obtain ⟨t, -, hg⟩ := hw.guarded hl
  rw [hx] at hg
  exact hg.2

/-- A transfer id names one transfer: the handler that drew the id registers it once. -/
theorem Reachable.registered_unique (hw : Reachable cfg w) {x y : ServiceEntry} (hx : x ∈ w.log)
    (hy : y ∈ w.log) {p q : String × ArtifactTransfer} (hp : registered? x = some p)
    (hq : registered? y = some q) (hsame : p.1 = q.1) : x = y := by
  refine eq_of_once (fun e => (registered? e).map Prod.fst) (fun l x l' hl y hy id hx => ?_) hx hy
    (congrArg _ hp) ((congrArg _ hq).trans (congrArg some hsame.symm))
  refine hw.once_of_draw (fun e => (registered? e).map Prod.fst) ?_ hl hy hx
  intro l x l' id hl hx
  obtain ⟨p, hp, rfl⟩ := Option.map_eq_some_iff.mp hx
  have hprepared := hw.registered_prepared hl hp
  refine ⟨drawn_of_answered hprepared.drawn fun _ => rfl, fun y hy hpid => ?_⟩
  cases hq : registered? y with
  | none => rfl
  | some q =>
    obtain ⟨now, hy'⟩ := registered?_eq_some.mp hq
    have hregisters := hprepared.first _ (mem_historyOf.mpr ⟨y, hy, hpid, rfl⟩)
    rw [hy'] at hregisters
    exact Bool.noConfusion hregisters

/-- A transfer that a handler has looked up was registered under that id. -/
theorem Reachable.lookup_registered (hw : Reachable cfg w) {pid : ℕ} {now : ℤ} {transferId : String}
    {transfer : ArtifactTransfer}
    (h : Answered (w.history pid) (.lookupTransfer now transferId) (some transfer)) :
    ∃ x ∈ w.log, registered? x = some (transferId, transfer) := by
  obtain ⟨u, draw, s', hu, hr, -, heff⟩ := hw.answered h
  have hfound : (u.state.lookupTransfer now transferId).1 = some transfer :=
    congrArg Prod.fst (Option.some.inj heff)
  obtain ⟨⟨id, _⟩, hfind, rfl⟩ := Option.map_eq_some_iff.mp hfound
  obtain ⟨hmem, rfl⟩ := Table.find?_eq_some.mp hfind
  obtain ⟨x, hx, hregistered⟩ := hu.transfer_registered (Table.mem_deleteWhere.mp hmem).1
  exact ⟨x, hr.log_prefix.subset hx, hregistered⟩

/-- All handlers find the same transfer under one id. -/
theorem Reachable.transfer_unique (hw : Reachable cfg w) {p q : ℕ} {t t' : ℤ} {transferId : String}
    {transfer transfer' : ArtifactTransfer}
    (hp : Answered (w.history p) (.lookupTransfer t transferId) (some transfer))
    (hq : Answered (w.history q) (.lookupTransfer t' transferId) (some transfer')) :
    transfer = transfer' := by
  obtain ⟨x, hx, hregistered⟩ := hw.lookup_registered hp
  obtain ⟨y, hy, hregistered'⟩ := hw.lookup_registered hq
  obtain rfl := hw.registered_unique hx hy hregistered hregistered' rfl
  exact congrArg Prod.snd (Option.some.inj (hregistered.symm.trans hregistered'))

/-- A chunk of a file as a logged call has read it. -/
structure ChunkRead where
  path : Path
  offset : ℕ
  length : ℕ
  plaintext : List UInt8
  deriving DecidableEq

/-- Where the content has these bytes at all, they are the ones that were read. -/
def ChunkRead.Kept (c : ChunkRead) (content : Option (List UInt8)) : Prop :=
  match content with
  | none => True
  | some content => c.offset + c.length ≤ content.length →
      (content.drop c.offset).take c.length = c.plaintext

instance (c : ChunkRead) (content : Option (List UInt8)) : Decidable (c.Kept content) := by
  unfold ChunkRead.Kept
  split <;> infer_instance

def chunkRead? : ServiceEntry → Option ChunkRead
  | ⟨_, _, .readChunk path offset length, some plaintext⟩ => some ⟨path, offset, length, plaintext⟩
  | _ => none

theorem chunkRead?_eq_some {e : ServiceEntry} {c : ChunkRead} :
    chunkRead? e = some c ↔
      e = ⟨e.pid, e.before, .readChunk c.path c.offset c.length, some c.plaintext⟩ := by
  obtain ⟨pid, s, op, res⟩ := e
  constructor
  · intro h
    unfold chunkRead? at h
    split at h
    · next heq => cases heq; cases h; rfl
    · cases h
  · intro h
    rw [h]
    rfl

/-- Nobody writes other bytes over a chunk that has been read. -/
def ChunksKept (w : ServiceWorld) : ServiceAction → Prop
  | .env (.writeFile path content) =>
    ∀ c ∈ w.log.filterMap chunkRead?, c.path = path → c.Kept content
  | _ => True

instance (w : ServiceWorld) (a : ServiceAction) : Decidable (ChunksKept w a) := by
  unfold ChunksKept
  split <;> infer_instance

/-- A chunk is read from the file as it is. -/
theorem exec_chunkRead {s s' : State} {choice : Choice} {call : Call} {r : Option call.Val}
    (h : s.exec cfg choice call = some (r, s')) {pid : ℕ} {c : ChunkRead}
    (hc : chunkRead? ⟨pid, s, call, r⟩ = some c) :
    ∃ content, s.files c.path = some content ∧ c.offset + c.length ≤ content.length ∧
      (content.drop c.offset).take c.length = c.plaintext := by
  rcases State.exec_cases h with ⟨rfl, -⟩ | ⟨draw, v, rfl, heff, -⟩
  · cases call <;> cases hc
  · cases call with
    | readChunk path offset length =>
      cases hc
      simp only [State.effect, Option.bind_eq_some_iff] at heff
      obtain ⟨content, hcontent, heff⟩ := heff
      split at heff
      · next hle =>
        cases heff
        exact ⟨content, hcontent, hle, rfl⟩
      · cases heff
    | _ => cases hc

/-- All chunks read so far are still in the files, and two readings of one chunk agree. -/
structure ReadsKept (w : ServiceWorld) : Prop where
  kept : ∀ c ∈ w.log.filterMap chunkRead?, c.Kept (w.state.files c.path)
  agree : ∀ c ∈ w.log.filterMap chunkRead?, ∀ c' ∈ w.log.filterMap chunkRead?,
    c.path = c'.path → c.offset = c'.offset → c.length = c'.length → c.plaintext = c'.plaintext

theorem ReadsKept.step {v : ServiceWorld} {a : ServiceAction} (hv : ReadsKept v)
    (ha : ChunksKept v a) : ReadsKept ((service cfg).step v a) := by
  rcases service_step_cases cfg v a with h | ⟨pid, request, -, -, h⟩ |
    ⟨pid, choice, request, call, next, r, s, -, -, hx, h⟩ | ⟨move, rfl, h⟩
  · rw [h]
    exact hv
  · rw [h]
    exact ⟨hv.kept, hv.agree⟩
  · have hfiles : s.files = v.state.files := (exec_frame hx).files
    rw [h]
    -- The new reading is of the files in which the old ones are kept.
    have hnew : ∀ c, chunkRead? ⟨pid, v.state, call, r⟩ = some c →
        ∃ content, v.state.files c.path = some content ∧ c.offset + c.length ≤ content.length ∧
          (content.drop c.offset).take c.length = c.plaintext := fun c hc => exec_chunkRead hx hc
    have hold : ∀ c ∈ v.log.filterMap chunkRead?, ∀ c', chunkRead? ⟨pid, v.state, call, r⟩ = some c' →
        c.path = c'.path → c.offset = c'.offset → c.length = c'.length →
        c.plaintext = c'.plaintext := by
      intro c hc c' hc' hpath hoffset hlength
      obtain ⟨content, hcontent, hle, hbytes⟩ := hnew c' hc'
      have hkept := hv.kept c hc
      rw [hpath, hcontent] at hkept
      rw [← hbytes, ← hoffset, ← hlength]
      exact (hkept (by rw [hoffset, hlength]; exact hle)).symm
    have hsplit : ∀ c, c ∈ (v.afterCall pid request call next r s).log.filterMap chunkRead? →
        c ∈ v.log.filterMap chunkRead? ∨ chunkRead? ⟨pid, v.state, call, r⟩ = some c := by
      intro c hc
      rw [World.afterCall_log, List.filterMap_append, List.mem_append] at hc
      exact hc.imp id fun hc => by simpa using hc
    constructor
    · intro c hc
      rw [World.afterCall_state, hfiles]
      rcases hsplit c hc with hc | hc
      · exact hv.kept c hc
      · obtain ⟨content, hcontent, -, hbytes⟩ := hnew c hc
        rw [hcontent]
        exact fun _ => hbytes
    · intro c hc c' hc' hpath hoffset hlength
      rcases hsplit c hc with hc | hc
      · rcases hsplit c' hc' with hc' | hc'
        · exact hv.agree c hc c' hc' hpath hoffset hlength
        · exact hold c hc c' hc' hpath hoffset hlength
      · rcases hsplit c' hc' with hc' | hc'
        · exact (hold c' hc' c hc hpath.symm hoffset.symm hlength.symm).symm
        · exact congrArg ChunkRead.plaintext (Option.some.inj (hc.symm.trans hc'))
  · rw [h]
    refine ⟨fun c hc => ?_, hv.agree⟩
    cases move with
    | tick reading =>
      have hfiles : (v.state.move (.tick reading)).files = v.state.files := by
        simp only [State.move]
        split <;> rfl
      rw [hfiles]
      exact hv.kept c hc
    | link path target => exact hv.kept c hc
    | writeFile path content =>
      by_cases hpath : c.path = path
      · have hfile : (v.state.move (.writeFile path content)).files c.path = content := by
          simp [State.move, hpath]
        rw [hfile]
        exact ha c hc hpath
      · have hfile : (v.state.move (.writeFile path content)).files c.path = v.state.files c.path := by
          simp [State.move, Function.update_of_ne hpath]
        rw [hfile]
        exact hv.kept c hc

theorem readsKept_run {clock : Reading} {canonical : String → Option Path}
    {files : Path → Option (List UInt8)} {acts : List ServiceAction}
    (hrun : (service cfg).Along ChunksKept (start clock canonical files) acts) :
    ReadsKept ((service cfg).run (start clock canonical files) acts) :=
  hrun.keeps ReadsKept ⟨fun _ hc => absurd hc List.not_mem_nil, fun _ hc => absurd hc List.not_mem_nil⟩
    fun _ _ _ ha hv => hv.step ha

/-- A handler has answered a chunk of the transfer: it has read `plaintext` from the file of
the transfer and encrypted it under the key and the nonce of the chunk. -/
structure ChunkServed (cfg : Config) (h : History) (transferId : String) (index : UInt32)
    (transfer : ArtifactTransfer) (key nonce plaintext : List UInt8)
    (response : ArtifactChunkResponse) : Prop where
  found : ∃ t : Reading, Answered h (.lookupTransfer t.val transferId) (some transfer)
  derived : cfg.crypto.deriveArtifactKey transfer.sharedSecret transfer.manifest = some key
  counted : cfg.crypto.artifactNonce transfer.manifest index = some nonce
  read : Answered h (.readChunk transfer.path (transfer.manifest.chunkOffset index.toNat)
    (transfer.manifest.chunkLength index.toNat)) plaintext
  encrypted : ∃ ciphertext, cfg.crypto.chacha20Poly1305 key nonce
    (Crypto.artifactAad transfer.manifest index) plaintext = some ciphertext ∧
    response = ⟨index, cfg.crypto.base64Encode ciphertext⟩

theorem Reachable.chunk_served (hw : Reachable cfg w) {pid : ℕ} {artifactId transferId : String}
    {index : UInt32} {authorization : Option String} {response : ArtifactChunkResponse}
    (h : w.Finished pid (.artifactChunk artifactId transferId index authorization)
      (.chunk response)) :
    ∃ transfer key nonce plaintext,
      ChunkServed cfg (w.history pid) transferId index transfer key nonce plaintext response := by
  obtain hissued := hw.issued h
  generalize hresponse : Response.chunk response = answer at hissued
  cases hissued with
  | @chunk _ _ _ _ t session transfer plaintext key ciphertext _ _ found _ _ read derived encrypted =>
    cases hresponse
    obtain ⟨nonce, hnonce, hcipher⟩ := Option.bind_eq_some_iff.mp encrypted
    exact ⟨transfer, key, nonce, plaintext, ⟨t, found⟩, derived, hnonce, read, ciphertext, hcipher, rfl⟩

theorem chunkRead?_of_answered {pid : ℕ} {c : ChunkRead}
    (h : Answered (w.history pid) (.readChunk c.path c.offset c.length) c.plaintext) :
    c ∈ w.log.filterMap chunkRead? := by
  obtain ⟨s, he⟩ := answered_iff.mp h
  exact List.mem_filterMap.mpr ⟨_, he, rfl⟩

/-- As long as no chunk that has been read is overwritten, two responses for one chunk of a
transfer are the encryption of one plaintext under the key and the nonce of the chunk. -/
theorem chunk_plaintexts_agree {clock : Reading} {canonical : String → Option Path}
    {files : Path → Option (List UInt8)} {acts : List ServiceAction}
    (hrun : (service cfg).Along ChunksKept (start clock canonical files) acts) {p q : ℕ}
    {transferId : String} {index : UInt32} {artifactId artifactId' : String}
    {authorization authorization' : Option String} {r r' : ArtifactChunkResponse}
    (hp : ((service cfg).run (start clock canonical files) acts).Finished p
      (.artifactChunk artifactId transferId index authorization) (.chunk r))
    (hq : ((service cfg).run (start clock canonical files) acts).Finished q
      (.artifactChunk artifactId' transferId index authorization') (.chunk r')) :
    ∃ transfer key nonce plaintext,
      ChunkServed cfg (((service cfg).run (start clock canonical files) acts).history p) transferId
        index transfer key nonce plaintext r ∧
      ChunkServed cfg (((service cfg).run (start clock canonical files) acts).history q) transferId
        index transfer key nonce plaintext r' := by
  have hw := reachable_run cfg clock canonical files acts
  have hkept := readsKept_run hrun
  obtain ⟨transfer, key, nonce, plaintext, hserved⟩ := hw.chunk_served hp
  obtain ⟨transfer', key', nonce', plaintext', hserved'⟩ := hw.chunk_served hq
  obtain ⟨t, hfound⟩ := hserved.found
  obtain ⟨t', hfound'⟩ := hserved'.found
  obtain rfl := hw.transfer_unique hfound hfound'
  obtain rfl := Option.some.inj (hserved.derived.symm.trans hserved'.derived)
  obtain rfl := Option.some.inj (hserved.counted.symm.trans hserved'.counted)
  obtain rfl : plaintext = plaintext' := hkept.agree
    ⟨_, _, _, plaintext⟩ (chunkRead?_of_answered hserved.read)
    ⟨_, _, _, plaintext'⟩ (chunkRead?_of_answered hserved'.read) rfl rfl rfl
  exact ⟨transfer, key, nonce, plaintext, hserved, hserved'⟩

/-- A deployment whose nonce prefixes have eight bytes, and which encodes what the sample
artifacts contain. -/
def transferCrypto : Crypto :=
  { sampleCrypto with
    base64Encode := fun data => if data = [0] then "AA" else "AQ"
    base64Decode := fun text => some (List.replicate
      (if text = sampleKey then 32 else if text = "prefix" then 8 else 64) 0) }

def transferConfig : Config := { sampleConfig with crypto := transferCrypto }

def sampleChunk : Request := .artifactChunk "runner" "transfer" 0 (some "Bearer session")

/-- A client prepares a transfer of the published artifact. -/
def sampleTransfer : List ServiceAction :=
  sampleEnroll 0 "client" "device" ++ sampleEntitle 2 "account" ++
    serve 4 (.admin (.artifactPublish "runner" "1" "x86_64" "13" "runner")) [""] ++
    serve 5 (.createSession (sampleSession "client" "device" "n" 1000))
      ["", "", "", "", "", "", "session", "jti", ""] ++
    serve 6 (.prepareArtifact "runner" (some "Bearer session") ⟨"device", "x86_64", "13", "key"⟩)
      ["", "", "", "", "", "", "", "server-key", "", "", "", "transfer", "prefix", ""]

/-- The artifact is replaced between two requests for its first chunk. -/
def rewrittenRun (content : List UInt8) : List ServiceAction :=
  sampleTransfer ++ serve 7 sampleChunk (List.replicate 7 "") ++
    [.env (.writeFile ["artifacts", "runner"] (some content))] ++
    serve 8 sampleChunk (List.replicate 7 "")

theorem chunk_plaintexts_agree_rewritten :
    (service transferConfig).Along ChunksKept sampleStart (rewrittenRun [0]) ∧
    ∃ transfer key nonce plaintext,
      ChunkServed transferConfig
        (((service transferConfig).run sampleStart (rewrittenRun [0])).history 7) "transfer" 0
        transfer key nonce plaintext ⟨0, "AA"⟩ ∧
      ChunkServed transferConfig
        (((service transferConfig).run sampleStart (rewrittenRun [0])).history 8) "transfer" 0
        transfer key nonce plaintext ⟨0, "AA"⟩ := by
  have hrun : (service transferConfig).Along ChunksKept sampleStart (rewrittenRun [0]) := by
    decide +kernel
  have h7 : ((service transferConfig).run sampleStart (rewrittenRun [0])).Finished 7 sampleChunk
      (.chunk ⟨0, "AA"⟩) := World.finished_iff.mpr (by decide +kernel)
  have h8 : ((service transferConfig).run sampleStart (rewrittenRun [0])).Finished 8 sampleChunk
      (.chunk ⟨0, "AA"⟩) := World.finished_iff.mpr (by decide +kernel)
  exact ⟨hrun, chunk_plaintexts_agree hrun h7 h8⟩

/-- With other content the two responses carry two plaintexts under one key and nonce. -/
theorem replaced_artifact_reuses_nonce :
    ¬ ∀ (cfg : Config) (clock : Reading) (canonical : String → Option Path)
      (files : Path → Option (List UInt8)) (acts : List ServiceAction) (p q : ℕ)
      (transferId : String) (index : UInt32) (artifactId artifactId' : String)
      (authorization authorization' : Option String) (r r' : ArtifactChunkResponse),
      ((service cfg).run (start clock canonical files) acts).Finished p
        (.artifactChunk artifactId transferId index authorization) (.chunk r) →
      ((service cfg).run (start clock canonical files) acts).Finished q
        (.artifactChunk artifactId' transferId index authorization') (.chunk r') →
      ∃ transfer key nonce plaintext,
        ChunkServed cfg (((service cfg).run (start clock canonical files) acts).history p)
          transferId index transfer key nonce plaintext r ∧
        ChunkServed cfg (((service cfg).run (start clock canonical files) acts).history q)
          transferId index transfer key nonce plaintext r' := by
  intro h
  obtain ⟨transfer, key, nonce, plaintext, hserved, hserved'⟩ := h transferConfig ⟨1000, by decide⟩
    samplePath sampleFiles (rewrittenRun [1]) 7 8 "transfer" 0 "runner" "runner"
    (some "Bearer session") (some "Bearer session") ⟨0, "AA"⟩ ⟨0, "AQ"⟩
    (World.finished_iff.mpr (by decide +kernel)) (World.finished_iff.mpr (by decide +kernel))
  obtain ⟨ciphertext, hcipher, hresponse⟩ := hserved.encrypted
  obtain ⟨ciphertext', hcipher', hresponse'⟩ := hserved'.encrypted
  obtain rfl := Option.some.inj (hcipher.symm.trans hcipher')
  exact absurd (hresponse.trans hresponse'.symm) (by decide)

end JustRun.Authorization
