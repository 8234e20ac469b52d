import JustRun.Authorization.Transfers
import JustRun.Desktop.Download

/-!
# From the service to the client

The service cuts an artifact into chunks and encrypts each; the client decrypts
and joins them. Both sides are written apart: they agree on the ranges, the key,
the nonce and the associated data when their crates are the same algorithms.
-/
namespace JustRun.Desktop
open Machine Relational Authorization Concurrency Concurrency.Prog

/-- The crates of both sides are the same algorithms: the client decodes and decrypts what the
service has encoded and encrypted. -/
structure Compatible (crypto : Crypto) (crates : Crates) : Prop where
  decodeEncoded : ∀ data, crates.base64Decode (crypto.base64Encode data) = .ok data
  decode : ∀ text, (crates.base64Decode text).toOption = crypto.base64Decode text
  hkdf : crates.hkdfSha256 = crypto.hkdfSha256
  opens : ∀ key nonce aad plaintext ciphertext,
    crypto.chacha20Poly1305 key nonce aad plaintext = some ciphertext →
    crates.chacha20Poly1305Open key nonce aad ciphertext = some plaintext

/-- The file of the artifact keeps this content. -/
def FileKept (path : Path) (content : List UInt8) (_ : ServiceWorld) : ServiceAction → Prop
  | .env (.writeFile other replaced) => other = path → replaced = some content
  | _ => True

instance (path : Path) (content : List UInt8) (w : ServiceWorld) (a : ServiceAction) :
    Decidable (FileKept path content w a) :=
  match a with
  | .env (.writeFile other replaced) =>
    inferInstanceAs (Decidable (other = path → replaced = some content))
  | .env (.tick _) | .env (.link ..) | .spawn .. | .exec .. => isTrue trivial

section Service
variable {cfg : Config} {clock : Reading} {canonical : String → Option Path}
  {files : Path → Option (List UInt8)} {acts : List ServiceAction} {path : Path}
  {content : List UInt8}

/-- Every call of the run was made while the file had this content. -/
theorem file_of_logged (hfile : files path = some content)
    (hrun : (service cfg).Along (FileKept path content) (start clock canonical files) acts)
    {e : ServiceEntry} (he : e ∈ ((service cfg).run (start clock canonical files) acts).log) :
    e.before.files path = some content := by
  refine (hrun.keeps (fun w => w.state.files path = some content ∧
    ∀ e ∈ w.log, e.before.files path = some content) ⟨hfile, fun _ h => absurd h List.not_mem_nil⟩
    ?_).2 e he
  rintro v a - ha ⟨hstate, hlog⟩
  rcases service_step_cases cfg v a with h | ⟨pid, request, -, -, h⟩ |
    ⟨pid, choice, request, call, next, r, s, -, -, hx, h⟩ | ⟨move, rfl, h⟩
  · rw [h]
    exact ⟨hstate, hlog⟩
  · rw [h]
    exact ⟨hstate, hlog⟩
  · rw [h]
    refine ⟨?_, fun e he => ?_⟩
    · rw [World.afterCall_state, (exec_frame hx).files]
      exact hstate
    · rw [World.afterCall_log, List.mem_append, List.mem_singleton] at he
      rcases he with he | rfl
      · exact hlog e he
      · exact hstate
  · rw [h]
    refine ⟨?_, hlog⟩
    cases move with
    | tick reading =>
      have hfiles : (v.state.move (.tick reading)).files = v.state.files := by
        simp only [Authorization.State.move]
        split <;> rfl
      rw [hfiles]
      exact hstate
    | link text target => exact hstate
    | writeFile other replaced =>
      by_cases hpath : path = other
      · subst hpath
        rw [ha rfl]
        simp [Authorization.State.move]
      · simp only [Authorization.State.move, Function.update_of_ne hpath]
        exact hstate

/-- A transfer of the file carries its size and hash. -/
theorem registered_of_file (hfile : files path = some content)
    (hrun : (service cfg).Along (FileKept path content) (start clock canonical files) acts)
    {x : ServiceEntry} (hx : x ∈ ((service cfg).run (start clock canonical files) acts).log)
    {p : String × ArtifactTransfer} (hp : registered? x = some p) (hpath : p.2.path = path) :
    p.2.manifest.sizeBytes = content.length ∧ p.2.manifest.sha256 = cfg.crypto.sha256 content ∧
      p.2.manifest.chunkSizeBytes = artifactChunkSize ∧
      p.2.manifest.chunkCount = chunkCount content.length artifactChunkSize ∧
      p.2.manifest.chunkCount ≤ u32Max := by
  have hw := reachable_run cfg clock canonical files acts
  obtain ⟨l, l', hl⟩ := List.append_of_mem hx
  have hprepared := hw.registered_prepared hl hp
  obtain ⟨s, he⟩ : ∃ s, (⟨x.pid, s, .sha256File p.2.path,
      some (p.2.manifest.sizeBytes, p.2.manifest.sha256)⟩ : ServiceEntry) ∈ l := by
    obtain ⟨⟨q, s, op, r⟩, he, rfl, heq⟩ := mem_historyOf.mp hprepared.hashed
    simp only [LogEntry.entry, Sigma.mk.injEq] at heq
    obtain ⟨rfl, hr⟩ := heq
    obtain rfl := eq_of_heq hr
    exact ⟨s, he⟩
  have hlogged : (⟨x.pid, s, .sha256File p.2.path,
      some (p.2.manifest.sizeBytes, p.2.manifest.sha256)⟩ : ServiceEntry) ∈
      ((service cfg).run (start clock canonical files) acts).log := by
    rw [hl]
    exact List.mem_append_left _ he
  have hcontent : s.files path = some content := file_of_logged hfile hrun hlogged
  obtain ⟨_, choice, s', -, -, -, hexec⟩ := hw.executed hlogged
  rcases State.exec_cases hexec with ⟨hnone, -⟩ | ⟨draw, v, hv, heff, -⟩
  · cases hnone
  cases hv
  simp only [Authorization.State.effect, hpath, hcontent, Option.map_some, Option.some.injEq,
    Prod.mk.injEq] at heff
  obtain ⟨⟨hsize, hsha⟩, -⟩ := heff
  refine ⟨hsize.symm, hsha.symm, hprepared.chunkSize, ?_, hprepared.countable⟩
  rw [hprepared.chunkCount, ← hsize]
  rfl

/-- A response of the service is the encryption of the chunk of the file. -/
theorem response_of_file (hfile : files path = some content)
    (hrun : (service cfg).Along (FileKept path content) (start clock canonical files) acts)
    {x : ServiceEntry} (hx : x ∈ ((service cfg).run (start clock canonical files) acts).log)
    {transferId : String} {transfer : ArtifactTransfer}
    (hp : registered? x = some (transferId, transfer)) (hpath : transfer.path = path) {pid : ℕ}
    {artifactId : String} {index : UInt32} {authorization : Option String}
    {response : ArtifactChunkResponse}
    (h : ((service cfg).run (start clock canonical files) acts).Finished pid
      (.artifactChunk artifactId transferId index authorization) (.chunk response)) :
    ∃ key nonce ciphertext,
      cfg.crypto.deriveArtifactKey transfer.sharedSecret transfer.manifest = some key ∧
      cfg.crypto.artifactNonce transfer.manifest index = some nonce ∧
      cfg.crypto.chacha20Poly1305 key nonce (Crypto.artifactAad transfer.manifest index)
        (chunk content artifactChunkSize index.toNat) = some ciphertext ∧
      response = ⟨index, cfg.crypto.base64Encode ciphertext⟩ := by
  have hw := reachable_run cfg clock canonical files acts
  obtain ⟨hsize, -, hwidth, -⟩ : transfer.manifest.sizeBytes = content.length ∧ _ ∧
    transfer.manifest.chunkSizeBytes = artifactChunkSize ∧ _ :=
    registered_of_file hfile hrun hx hp hpath
  obtain ⟨found, key, nonce, plaintext, hserved⟩ := hw.chunk_served h
  obtain ⟨t, hfound⟩ := hserved.found
  obtain ⟨y, hy, hregistered⟩ := hw.lookup_registered hfound
  obtain rfl := hw.registered_unique hx hy hp hregistered rfl
  obtain rfl : transfer = found :=
    congrArg Prod.snd (Option.some.inj (hp.symm.trans hregistered))
  obtain ⟨ciphertext, hcipher, hresponse⟩ := hserved.encrypted
  refine ⟨key, nonce, ciphertext, hserved.derived, hserved.counted, ?_, hresponse⟩
  obtain ⟨s, he⟩ := answered_iff.mp hserved.read
  have hcontent : s.files path = some content := file_of_logged hfile hrun he
  obtain ⟨_, choice, s', -, -, -, hexec⟩ := hw.executed he
  obtain ⟨bytes, hbytes, -, hplain⟩ := exec_chunkRead hexec
    (show chunkRead? ⟨pid, s, _, _⟩ = some ⟨_, _, _, plaintext⟩ from rfl)
  rw [hpath, hcontent] at hbytes
  obtain rfl := Option.some.inj hbytes
  have hchunk : chunk content artifactChunkSize index.toNat = plaintext := by
    have hread : (content.drop (transfer.manifest.chunkOffset index.toNat)).take
        (transfer.manifest.chunkLength index.toNat) = plaintext := hplain
    rw [← hread, chunk, chunkLength, ArtifactManifest.chunkLength, ArtifactManifest.chunkOffset,
      hwidth, hsize]
  rw [hchunk]
  exact hcipher

end Service

variable {crypto : Crypto} {crates : Crates}

theorem Compatible.artifactNonce (hc : Compatible crypto crates) {manifest : ArtifactManifest}
    {index : UInt32} {nonce : List UInt8} (h : crypto.artifactNonce manifest index = some nonce) :
    crates.artifactNonce manifest index = .ok nonce := by
  unfold Crypto.artifactNonce at h
  have hdecode := hc.decode manifest.noncePrefix
  cases hlead : crates.base64Decode manifest.noncePrefix with
  | error e =>
    rw [hlead] at hdecode
    simp only [← hdecode, Except.toOption] at h
    cases h
  | ok lead =>
    rw [hlead] at hdecode
    simp only [← hdecode, Except.toOption] at h
    split at h
    · next hlength =>
      cases h
      have hlong : decide (lead.length ≠ 8) = false := by simp [hlength]
      simp only [Crates.artifactNonce, hlead, mapError_ok, ok_bind, hlong, refuseIf_false]
      rfl
    · cases h

/-- The client opens the service's response to the chunk of the file. -/
theorem Compatible.openChunk (hc : Compatible crypto crates) {key nonce ciphertext plaintext : List UInt8}
    {manifest : ArtifactManifest} {index : UInt32} {written : ℕ}
    (hnonce : crypto.artifactNonce manifest index = some nonce)
    (hcipher : crypto.chacha20Poly1305 key nonce (Crypto.artifactAad manifest index) plaintext =
      some ciphertext)
    (hpositive : 0 < min (manifest.sizeBytes - written) manifest.chunkSizeBytes)
    (hlength : plaintext.length = min (manifest.sizeBytes - written) manifest.chunkSizeBytes) :
    crates.openChunk key manifest index ⟨index, crypto.base64Encode ciphertext⟩ written =
      .ok plaintext := by
  have hopen : crates.chacha20Poly1305Open key nonce (artifactAad manifest index) ciphertext =
      some plaintext := hc.opens _ _ _ _ _ hcipher
  have hdecrypt : crates.decryptArtifactChunk key manifest index ciphertext = .ok plaintext := by
    simp only [Crates.decryptArtifactChunk, hc.artifactNonce hnonce, ok_bind, hopen]
  have hrefuse : (decide (min (manifest.sizeBytes - written) manifest.chunkSizeBytes = 0) ||
      decide (plaintext.length ≠ min (manifest.sizeBytes - written) manifest.chunkSizeBytes)) = false := by
    simp [hlength, hpositive.ne']
  have hindex : decide (index ≠ index) = false := by simp
  simp only [Crates.openChunk, hindex, refuseIf_false, ok_bind, hc.decodeEncoded, mapError_ok, hdecrypt,
    hrefuse]
  rfl

/-- The ranges of a transfer of a file that is not empty: they start at its beginning, each is
of one byte at least and of the chunk size at most, each ends where the next one starts and the
last one at the end, and every byte lies in exactly one. -/
structure Partitioned (m : ArtifactManifest) : Prop where
  first : m.chunkOffset 0 = 0
  size : ∀ i < m.chunkCount, 0 < m.chunkLength i ∧ m.chunkLength i ≤ m.chunkSizeBytes
  next : ∀ i < m.chunkCount, m.chunkOffset i + m.chunkLength i =
    if i + 1 < m.chunkCount then m.chunkOffset (i + 1) else m.sizeBytes
  cover : ∀ b < m.sizeBytes, ∃! i, i < m.chunkCount ∧ m.chunkOffset i ≤ b ∧
    b < m.chunkOffset i + m.chunkLength i

theorem partitioned_of_count {m : ArtifactManifest} (hwidth : 0 < m.chunkSizeBytes)
    (hcount : m.chunkCount = chunkCount m.sizeBytes m.chunkSizeBytes) : Partitioned m := by
  refine ⟨Nat.zero_mul _, fun i hi => ?_, fun i hi => ?_, fun b hb => ?_⟩
  · rw [hcount] at hi
    exact ⟨chunkLength_pos hwidth hi, chunkLength_le⟩
  · rw [hcount] at hi ⊢
    exact chunk_end hwidth hi
  · rw [hcount]
    exact chunk_of_position hwidth hb

/-- Artifact transfers are lossless and all or nothing. The service cuts every artifact into
consecutive ranges. While the file keeps its content, the client's loop assembles just this
content from the service's responses. And whatever the transport answers, a download that
succeeds has the manifest's size and hash at the destination, while one that fails leaves the
files as they were, but for a temporary file that the operating system refuses to remove. -/
theorem artifact_transfer_is_lossless :
    (∀ (cfg : Config) (w : ServiceWorld), Reachable cfg w → ∀ x ∈ w.log, ∀ transferId transfer,
      registered? x = some (transferId, transfer) → 1 ≤ transfer.manifest.sizeBytes →
      transfer.manifest.chunkCount ≤ u32Max ∧ Partitioned transfer.manifest) ∧
    (∀ (cfg : Config) (crates : Crates), Compatible cfg.crypto crates →
      ∀ (clock : Reading) (canonical : String → Option Path) (files : Path → Option (List UInt8))
        (acts : List ServiceAction) (path : Path) (content : List UInt8),
      files path = some content → 1 ≤ content.length →
      (service cfg).Along (FileKept path content) (start clock canonical files) acts →
      ∀ x ∈ ((service cfg).run (start clock canonical files) acts).log, ∀ transferId transfer,
      registered? x = some (transferId, transfer) → transfer.path = path →
      ∀ responses : UInt32 → ArtifactChunkResponse,
      (∀ i < transfer.manifest.chunkCount, ∃ pid artifactId authorization,
        ((service cfg).run (start clock canonical files) acts).Finished pid
          (.artifactChunk artifactId transferId (.ofNat i) authorization)
          (.chunk (responses (.ofNat i)))) →
      ∀ secret shared key, shared = transfer.sharedSecret →
      crates.deriveX25519SharedSecret secret transfer.manifest.serverEphemeralPublicKey = .ok shared →
      crates.deriveArtifactKey shared transfer.manifest = .ok key →
      ∀ (artifactId : String) (temporary : FilePath) (s s' : State) (cs : List Choice) (h : History)
        (r : Except AuthorizationError (List UInt8)),
      (downloadChunks crates key transfer.manifest artifactId temporary
        (List.range transfer.manifest.chunkCount) []).alone execute [] s cs = some (h, r, s') →
      Served responses h → r = .ok content) ∧
    ∀ (client : AuthorizationClient) (artifactId targetAbi targetAndroid : String)
      (destination : FilePath) (s s' : State) (cs : List Choice) (h : History)
      (r : Except AuthorizationError ArtifactManifest),
    (downloadArtifactTo client artifactId targetAbi targetAndroid destination).alone execute [] s cs =
      some (h, r, s') →
    FreshNames destination s h → AllOrNothing client.crates destination s h r s' := by
  refine ⟨?_, ?_, ?_⟩
  · intro cfg w hw x hx transferId transfer hregistered _
    obtain ⟨l, l', hl⟩ := List.append_of_mem hx
    have hprepared := hw.registered_prepared hl hregistered
    refine ⟨hprepared.countable, partitioned_of_count ?_ ?_⟩
    · rw [hprepared.chunkSize]
      decide
    · rw [hprepared.chunkCount, hprepared.chunkSize]
      rfl
  · rintro cfg crates hc clock canonical files acts path content hfile - hrun x hx transferId transfer
      hregistered hpath responses hresponses secret shared key rfl - hkey artifactId temporary s s'
      cs h r halone hserved
    obtain ⟨hsize, -, hwidth, hcount, hcountable⟩ : transfer.manifest.sizeBytes = content.length ∧
      transfer.manifest.sha256 = cfg.crypto.sha256 content ∧
      transfer.manifest.chunkSizeBytes = artifactChunkSize ∧
      transfer.manifest.chunkCount = chunkCount content.length artifactChunkSize ∧
      transfer.manifest.chunkCount ≤ u32Max := registered_of_file hfile hrun hx hregistered hpath
    have hpositive : 0 < artifactChunkSize := by decide
    rw [List.range_eq_range', hcount] at halone
    have hopen : ∀ i < chunkCount content.length artifactChunkSize,
        crates.openChunk key transfer.manifest (.ofNat i) (responses (.ofNat i))
          (i * artifactChunkSize) = .ok (chunk content artifactChunkSize i) := by
      intro i hi
      have hindex : (UInt32.ofNat i).toNat = i := by
        have hsmall : i < 2 ^ 32 := by
          have hmax : u32Max < 2 ^ 32 := by decide
          omega
        exact UInt32.toNat_ofNat_of_lt' hsmall
      obtain ⟨pid, artifactId', authorization, hfinished⟩ := hresponses i (hcount ▸ hi)
      obtain ⟨key', nonce, ciphertext, hderived, hnonce, hcipher, hresponse⟩ :=
        response_of_file hfile hrun hx hregistered hpath hfinished
      have hsame : key' = key := by
        have hmine : crates.hkdfSha256 (bytes "rdc-artifact-v1") transfer.sharedSecret
            (artifactKeyContext transfer.manifest) = some key' := by
          rw [hc.hkdf]
          exact hderived
        simp only [Crates.deriveArtifactKey, hmine, Except.ok.injEq] at hkey
        exact hkey
      subst hsame
      rw [hindex] at hcipher
      rw [hresponse]
      have hlength := chunkLength_pos hpositive hi
      refine hc.openChunk hnonce hcipher ?_ ?_
      · rw [hwidth, hsize]
        exact hlength
      · rw [hwidth, hsize]
        exact length_chunk content artifactChunkSize i
    exact (downloadChunks_assembles hpositive hopen _ 0 (Nat.zero_add _)).alone
      (by simpa using halone) hserved
  · intro client artifactId targetAbi targetAndroid destination s s' cs h r halone
    exact (downloadArtifactTo_ensures client artifactId targetAbi targetAndroid destination s).alone
      halone

/-! A deployment whose encoding is one character for each byte, and whose cipher is plain. -/
section Plain

def latin (data : List UInt8) : String := String.ofList (data.map fun b => Char.ofNat b.toNat)

def unlatin (text : String) : List UInt8 := text.toList.map fun c => UInt8.ofNat c.toNat

theorem unlatin_latin (data : List UInt8) : unlatin (latin data) = data := by
  have hchar : ∀ b : UInt8, UInt8.ofNat (Char.ofNat b.toNat).toNat = b := by
    intro b
    have hvalid : b.toNat.isValidChar := .inl (b.toNat_lt.trans (by decide))
    have hchar : (Char.ofNat b.toNat).toNat = b.toNat := by
      rw [Char.ofNat, dif_pos hvalid]
      rfl
    rw [hchar, UInt8.ofNat_toNat]
  rw [unlatin, latin, String.toList_ofList, List.map_map]
  exact (List.map_congr_left fun b _ => hchar b).trans (List.map_id data)

def plainConfig : Config :=
  { sampleConfig with crypto := { sampleCrypto with
      base64Encode := latin
      base64Decode := fun text => some (unlatin text) } }

def plainCrates : Crates :=
  { sampleCrates with
      base64Decode := fun text => .ok (unlatin text)
      hkdfSha256 := fun _ secret _ => some secret }

theorem plain_compatible : Compatible plainConfig.crypto plainCrates where
  decodeEncoded data := congrArg Except.ok (unlatin_latin data)
  decode _ := rfl
  hkdf := rfl
  opens _ _ _ _ _ h := h.symm

def wideText (c : Char) (width : ℕ) : String := String.ofList (List.replicate width c)

/-- A client prepares a transfer and fetches its only chunk. -/
def plainRun : List ServiceAction :=
  serve 0 (.register ⟨"install", "device", "1", "windows", wideText 'k' 32, .ed25519DpapiV1, "rdc"⟩)
    ["", "", "client", "", "challenge", ""] ++
  serve 1 (.admin (.clientApproveForAccount "client" "account")) [""] ++
  sampleEntitle 2 "account" ++
  serve 4 (.admin (.artifactPublish "runner" "1" "x86_64" "13" "runner")) [""] ++
  serve 5 (.createSession ⟨"client", "device", "1", "n", 1000, [.protectedPreset, .protectedArtifact],
    wideText 's' 64⟩) ["", "", "", "", "", "", "session", "jti", ""] ++
  serve 6 (.prepareArtifact "runner" (some "Bearer session") ⟨"device", "x86_64", "13", "key"⟩)
    ["", "", "", "", "", "", "", wideText 'e' 32, "", "", "", "transfer", wideText 'p' 8, ""] ++
  serve 7 sampleChunk (List.replicate 7 "")

def plainManifest : ArtifactManifest :=
  ⟨"runner", "1", "x86_64", "13", "session", "device", 1, sampleSha256, 1300, "key-1", "transfer",
    wideText 'e' 32, artifactChunkSize, 1, wideText 'p' 8⟩

theorem artifact_transfer_is_lossless_plain :
    ((service plainConfig).run sampleStart plainRun).Finished 7 sampleChunk
      (.chunk ⟨0, latin [0]⟩) ∧
    ∀ (s s' : State) (cs : List Choice) (h : History) (r : Except AuthorizationError (List UInt8)),
      (downloadChunks plainCrates [] plainManifest "runner" ⟨"downloads", some "part"⟩
        (List.range 1) []).alone execute [] s cs = some (h, r, s') →
      Served (fun index => ⟨index, latin [0]⟩) h → r = .ok [0] := by
  have hfinished : ((service plainConfig).run sampleStart plainRun).Finished 7 sampleChunk
      (.chunk ⟨0, latin [0]⟩) := World.finished_iff.mpr (by decide +kernel)
  refine ⟨hfinished, fun s s' cs h r => ?_⟩
  have hregistered : (((service plainConfig).run sampleStart plainRun).log.filterMap registered?) =
      [("transfer", ⟨"runner", "session", "device", ["artifacts", "runner"], plainManifest, []⟩)] := by
    decide +kernel
  obtain ⟨x, hx, hp⟩ := List.mem_filterMap.mp (hregistered ▸ List.mem_singleton_self _)
  refine artifact_transfer_is_lossless.2.1 plainConfig plainCrates plain_compatible _ _ _ plainRun
    ["artifacts", "runner"] [0] rfl (by decide) (by decide +kernel) x hx _ _ hp rfl _ ?_ [] []
    [] rfl (by decide +kernel) (by decide +kernel) "runner" _ s s' cs h r
  intro i hi
  obtain rfl : i = 0 := Nat.lt_one_iff.mp hi
  exact ⟨7, "runner", some "Bearer session", hfinished⟩

end Plain

def sampleManifest : SignedArtifactManifest :=
  ⟨"key-1", ⟨"runner", "1", "x86_64", "13", "session", "device", 1,
    "6e340b9cffb37a989ca544e6bb780a2c78901d3fb33738768511a30617afa01d", 1300, "key-1", "transfer",
    "server-key", artifactChunkSize, 1, "prefix"⟩, "signature"⟩

/-- A transfer is prepared and its first chunk is not answered; the file cannot be removed. -/
def refusing : (call : Call) → Result call
  | .prepareArtifact .. => .ok sampleManifest
  | .removeFile _ => .error (.secureStore "access denied")
  | other => offline other

def sampleDestination : FilePath := ⟨"downloads", some "runner.sh"⟩

/-- The removal of the temporary file is one attempt: when it fails, the file stays. -/
theorem failed_download_may_leave_temporary :
    ¬ ∀ (client : AuthorizationClient) (artifactId targetAbi targetAndroid : String)
      (destination : FilePath) (s s' : State) (cs : List Choice) (h : History)
      (e : AuthorizationError),
    (downloadArtifactTo client artifactId targetAbi targetAndroid destination).alone execute [] s cs =
      some (h, .error e, s') →
    FreshNames destination s h → s'.files = s.files := by
  intro hclaim
  have hrun : ((downloadArtifactTo sampleClient "runner" "x86_64" "13" sampleDestination).alone
      execute [] ⟨none, fun _ => none⟩ (List.replicate 11 ⟨refusing, 0⟩)).map
        (fun outcome => (match outcome.2.1 with
          | .error e => some e
          | .ok _ => none, outcome.2.2.files (temporaryPath sampleDestination "runner.sh" "uuid"))) =
      some (some .serverUnreachable, some []) := by
    decide +kernel
  obtain ⟨⟨h, r, s'⟩, halone, houtcome⟩ := Option.map_eq_some_iff.mp hrun
  obtain ⟨hr, hfile⟩ := Prod.ext_iff.mp houtcome
  cases r with
  | ok manifest => cases hr
  | error e =>
    have hsame := hclaim _ _ _ _ _ _ _ _ _ _ halone fun _ _ _ => rfl
    rw [hsame] at hfile
    cases hfile

end JustRun.Desktop
