import JustRun.Authorization.Sessions
import JustRun.Authorization.Transfers
import JustRun.Desktop.Contracts
import JustRun.Machine.Delimited

/-!
# What the encodings of a chunk bind

The associated data of a chunk joins its fields by line feeds, the context of the
transfer key closes each of its fields by a zero byte. Both are read back from the
left while the fields before the device id lack the separator, and the rest from
the right, so the device id may be any text.
-/
namespace JustRun.Authorization
open Machine Relational Concurrency Concurrency.Prog

/-- The hyphenated text of a UUID. -/
def isUuidText (s : String) : Bool :=
  s.toList.length = 36 &&
    s.toList.all (fun c => c.isDigit || ('a' ≤ c && c ≤ 'f') || c = '-')

theorem not_mem_of_uuidText {s : String} (h : isUuidText s = true) {c : Char}
    (hc : (c.isDigit || ('a' ≤ c && c ≤ 'f') || c = '-') = false) : c ∉ s.toList := by
  intro hm
  simp only [isUuidText, Bool.and_eq_true] at h
  have hall := List.all_eq_true.mp h.2 c hm
  exact Bool.noConfusion (hc.symm.trans hall)

theorem not_mem_of_asciiHex {s : String} (h : isAsciiHex s = true) {c : Char}
    (hc : (c.isDigit || ('a' ≤ c && c ≤ 'f') || ('A' ≤ c && c ≤ 'F')) = false) : c ∉ s.toList := by
  intro hm
  have hall := List.all_eq_true.mp h c hm
  exact Bool.noConfusion (hc.symm.trans hall)

/-- The fields that the service lets into a manifest: ids that it has drawn, a hash that it has
computed, and an artifact id and a version that were arguments of the administration tool, so
have no zero character. The device id is any text. -/
structure Admitted (m : ArtifactManifest) : Prop where
  transferId : isUuidText m.transferId = true
  sessionId : isUuidText m.sessionId = true
  sha256 : isAsciiHex m.sha256 = true
  artifactId : '\x00' ∉ m.artifactId.toList
  version : '\x00' ∉ m.version.toList

/-- The fields that the associated data binds. -/
def SameBinding (m m' : ArtifactManifest) : Prop :=
  m.transferId = m'.transferId ∧ m.artifactId = m'.artifactId ∧ m.version = m'.version ∧
    m.sessionId = m'.sessionId ∧ m.deviceId = m'.deviceId

/-- The artifact id and the version are one line each. -/
def OneLine (m : ArtifactManifest) : Prop :=
  '\n' ∉ m.artifactId.toList ∧ '\n' ∉ m.version.toList

namespace Crypto

theorem artifactKeyContext_eq (m : ArtifactManifest) :
    artifactKeyContext m = bytes (String.ofList ("rdc-artifact-key-v1\x00".toList ++
      (m.transferId.toList ++ '\x00' :: (m.artifactId.toList ++ '\x00' :: (m.version.toList ++
        '\x00' :: (m.sessionId.toList ++ '\x00' :: (m.deviceId.toList ++ '\x00' ::
          (m.sha256.toList ++ ['\x00'])))))))) := by
  have hzero : ([0] : List UInt8) = bytes (String.ofList ['\x00']) := by decide
  have hcons : ∀ l : List Char, bytes (String.ofList ('\x00' :: l)) = [0] ++ bytes (String.ofList l) := by
    intro l
    rw [hzero, ← bytes_append, ← String.ofList_append]
    rfl
  have htext : ∀ (s : String) (l : List Char),
      bytes (String.ofList (s.toList ++ l)) = bytes s ++ bytes (String.ofList l) := by
    intro s l
    rw [String.ofList_append, String.ofList_toList, bytes_append]
  have hlead : bytes "rdc-artifact-key-v1\x00" = bytes "rdc-artifact-key-v1" ++ [0] := by decide
  have hnil : bytes (String.ofList []) = [] := by decide
  simp only [htext, hcons, hlead, hnil, artifactKeyContext, List.flatMap_cons, List.flatMap_nil,
    List.append_assoc, List.append_nil]

theorem artifactAad_eq (m : ArtifactManifest) (index : UInt32) :
    artifactAad m index = bytes (String.ofList ("rdc-artifact-chunk-v1\n".toList ++
      (m.transferId.toList ++ '\n' :: (m.artifactId.toList ++ '\n' :: (m.version.toList ++
        '\n' :: (m.sessionId.toList ++ '\n' :: (m.deviceId.toList ++ '\n' ::
          (toString index.toNat).toList))))))) := by
  refine congrArg bytes (String.toList_injective ?_)
  have hline : "\n".toList = ['\n'] := by decide
  simp only [String.toList_append, String.toList_ofList, List.append_assoc, hline,
    List.cons_append, List.nil_append]
  rfl

end Crypto

/-- Equal key contexts bind the same fields. -/
theorem artifactKeyContext_inj {m m' : ArtifactManifest} (hm : Admitted m) (hm' : Admitted m')
    (h : Crypto.artifactKeyContext m = Crypto.artifactKeyContext m') :
    SameBinding m m' ∧ m.sha256 = m'.sha256 := by
  rw [Crypto.artifactKeyContext_eq, Crypto.artifactKeyContext_eq, bytes_inj, String.ofList_inj,
    List.append_cancel_left_eq] at h
  have hzero : ∀ {n : ArtifactManifest}, Admitted n → '\x00' ∉ n.transferId.toList ∧
      '\x00' ∉ n.sessionId.toList ∧ '\x00' ∉ n.sha256.toList := fun hn =>
    ⟨not_mem_of_uuidText hn.transferId (by decide), not_mem_of_uuidText hn.sessionId (by decide),
      not_mem_of_asciiHex hn.sha256 (by decide)⟩
  obtain ⟨ht, hs, hh⟩ := hzero hm
  obtain ⟨ht', hs', hh'⟩ := hzero hm'
  obtain ⟨htransfer, h⟩ := (append_cons_inj_left ht ht').mp h
  obtain ⟨hartifact, h⟩ := (append_cons_inj_left hm.artifactId hm'.artifactId).mp h
  obtain ⟨hversion, h⟩ := (append_cons_inj_left hm.version hm'.version).mp h
  obtain ⟨hsession, h⟩ := (append_cons_inj_left hs hs').mp h
  -- The device id may contain the separator: the hash is read from the right.
  have hlast : ∀ d x : List Char, d ++ '\x00' :: (x ++ ['\x00']) = (d ++ '\x00' :: x) ++ ['\x00'] := by
    intro d x
    simp
  rw [hlast, hlast] at h
  obtain ⟨hdevice, hsha⟩ := (append_cons_inj_right hh hh').mp (List.append_cancel_right h)
  exact ⟨⟨String.toList_injective htransfer, String.toList_injective hartifact,
    String.toList_injective hversion, String.toList_injective hsession,
    String.toList_injective hdevice⟩, String.toList_injective hsha⟩

/-- Equal associated data name the same transfer and the same chunk. -/
theorem artifactAad_transfer {m m' : ArtifactManifest} (hm : isUuidText m.transferId = true)
    (hm' : isUuidText m'.transferId = true) {i i' : UInt32}
    (h : Crypto.artifactAad m i = Crypto.artifactAad m' i') :
    m.transferId = m'.transferId ∧ i = i' := by
  rw [Crypto.artifactAad_eq, Crypto.artifactAad_eq, bytes_inj, String.ofList_inj,
    List.append_cancel_left_eq] at h
  obtain ⟨htransfer, h⟩ := (append_cons_inj_left (not_mem_of_uuidText hm (by decide))
    (not_mem_of_uuidText hm' (by decide))).mp h
  -- The index has digits only: it starts after the last line feed.
  have hlast : ∀ a v s d x : List Char, a ++ '\n' :: (v ++ '\n' :: (s ++ '\n' :: (d ++ '\n' :: x))) =
      (a ++ '\n' :: (v ++ '\n' :: (s ++ '\n' :: d))) ++ '\n' :: x := by
    intro a v s d x
    simp
  rw [hlast, hlast] at h
  obtain ⟨-, hindex⟩ := (append_cons_inj_right (not_mem_repr (by decide) i.toNat)
    (not_mem_repr (by decide) i'.toNat)).mp h
  exact ⟨String.toList_injective htransfer,
    UInt32.toNat_inj.mp (numeral_inj hindex)⟩

/-- Equal associated data bind the same fields, when artifact id and version are one line each. -/
theorem artifactAad_inj {m m' : ArtifactManifest} (hm : Admitted m) (hm' : Admitted m')
    (hl : OneLine m) (hl' : OneLine m') {i i' : UInt32}
    (h : Crypto.artifactAad m i = Crypto.artifactAad m' i') : SameBinding m m' ∧ i = i' := by
  obtain ⟨htransfer, rfl⟩ := artifactAad_transfer hm.transferId hm'.transferId h
  rw [Crypto.artifactAad_eq, Crypto.artifactAad_eq, bytes_inj, String.ofList_inj,
    List.append_cancel_left_eq, htransfer, List.append_cancel_left_eq, List.cons_inj_right] at h
  obtain ⟨hartifact, h⟩ := (append_cons_inj_left hl.1 hl'.1).mp h
  obtain ⟨hversion, h⟩ := (append_cons_inj_left hl.2 hl'.2).mp h
  obtain ⟨hsession, h⟩ := (append_cons_inj_left (not_mem_of_uuidText hm.sessionId (by decide))
    (not_mem_of_uuidText hm'.sessionId (by decide))).mp h
  obtain ⟨hdevice, -⟩ := (append_cons_inj_right (not_mem_repr (by decide) i.toNat)
    (not_mem_repr (by decide) i.toNat)).mp h
  exact ⟨⟨htransfer, String.toList_injective hartifact, String.toList_injective hversion,
    String.toList_injective hsession, String.toList_injective hdevice⟩, rfl⟩

variable {cfg : Config} {w : ServiceWorld}

/-- The UUID that a logged call has drawn. -/
def uuid? : ServiceEntry → Option String
  | ⟨_, _, .uuid, some text⟩ => some text
  | _ => none

/-- What the run has drawn as UUIDs are texts of UUIDs. -/
def UuidDraws (w : ServiceWorld) : Prop := ∀ text ∈ w.log.filterMap uuid?, isUuidText text = true

instance (w : ServiceWorld) : Decidable (UuidDraws w) := by
  unfold UuidDraws
  infer_instance

theorem uuid_of_answered {pid : ℕ} {l : List ServiceEntry} {text : String}
    (h : Answered (historyOf pid l) .uuid text) : text ∈ l.filterMap uuid? := by
  obtain ⟨⟨q, s, op, r⟩, he, rfl, heq⟩ := mem_historyOf.mp h
  simp only [LogEntry.entry, Sigma.mk.injEq] at heq
  obtain ⟨rfl, hr⟩ := heq
  obtain rfl := eq_of_heq hr
  exact List.mem_filterMap.mpr ⟨_, he, rfl⟩

/-- The id of every session was drawn as a UUID. -/
theorem Reachable.session_uuid (hw : Reachable cfg w) {row : SessionRecord}
    (hrow : row ∈ w.state.sessions) : row.sessionId ∈ w.log.filterMap uuid? := by
  obtain ⟨clock, canonical, files, hw⟩ := hw
  refine hw.induct (fun w => ∀ row ∈ w.state.sessions, row.sessionId ∈ w.log.filterMap uuid?)
    ?_ ?_ row hrow
  · exact fun row hrow => absurd hrow (Table.not_mem_empty row)
  · intro v a hv ih row hrow
    have hreach : Reachable cfg v := ⟨clock, canonical, files, hv⟩
    rcases service_step_cases cfg v a with h | ⟨pid, request, -, -, h⟩ |
      ⟨pid, choice, request, call, next, r, s, -, ht, hx, h⟩ | ⟨move, -, h⟩
    · rw [h] at hrow ⊢
      exact ih row hrow
    · rw [h] at hrow ⊢
      exact ih row hrow
    · rw [h] at hrow ⊢
      have hgrow : ∀ {text}, text ∈ v.log.filterMap uuid? →
          text ∈ (v.afterCall pid request call next r s).log.filterMap uuid? := by
        intro text htext
        rw [World.afterCall_log, List.filterMap_append]
        exact List.mem_append_left _ htext
      cases exec_session_origin hx hrow with
      | same old => exact hgrow (ih row old)
      | revoked old hold eq =>
        subst eq
        exact hgrow (ih old hold)
      | inserted client capabilities jti exp hcall =>
        subst hcall
        obtain ⟨_, _, -, -, -, -, -, hdrawn, -⟩ := (hreach.meets ht).1
        exact hgrow (uuid_of_answered hdrawn)
      | renewed old hold live capabilities jti exp hcall eq =>
        subst eq
        exact hgrow (ih old hold)
    · rw [h] at hrow ⊢
      exact ih row (by simpa using hrow)

/-- The manifest of a response is the one of a registered transfer. -/
theorem Reachable.manifest_registered (hw : Reachable cfg w) {pid : ℕ} {artifactId : String}
    {authorization : Option String} {request : ArtifactPrepareRequest}
    {signed : SignedArtifactManifest}
    (h : w.Finished pid (.prepareArtifact artifactId authorization request) (.manifest signed)) :
    ∃ x ∈ w.log, ∃ transfer, registered? x = some (signed.manifest.transferId, transfer) ∧
      transfer.manifest = signed.manifest := by
  have hissued := hw.issued h
  generalize hresponse : Response.manifest signed = answer at hissued
  cases hissued with
  | manifest _ _ _ _ _ _ _ registered =>
    cases hresponse
    obtain ⟨transfer, hmanifest, hanswered⟩ := registered
    obtain ⟨s, he⟩ := answered_iff.mp hanswered
    exact ⟨_, he, transfer, rfl, hmanifest⟩

/-- The service admits what it signs: its ids are drawn and its hash is computed. -/
theorem Reachable.manifest_admitted (hw : Reachable cfg w) (huuid : UuidDraws w)
    (hsha : ∀ content, isAsciiHex (cfg.crypto.sha256 content) = true) {pid : ℕ}
    {artifactId : String} {authorization : Option String} {request : ArtifactPrepareRequest}
    {signed : SignedArtifactManifest}
    (h : w.Finished pid (.prepareArtifact artifactId authorization request) (.manifest signed))
    (hartifact : '\x00' ∉ signed.manifest.artifactId.toList)
    (hversion : '\x00' ∉ signed.manifest.version.toList) : Admitted signed.manifest := by
  obtain ⟨x, hx, transfer, hregistered, hmanifest⟩ := hw.manifest_registered h
  obtain ⟨l, l', hl⟩ := List.append_of_mem hx
  have hprepared := hw.registered_prepared hl hregistered
  have hhashed : Answered (w.history x.pid) (.sha256File transfer.path)
      (transfer.manifest.sizeBytes, transfer.manifest.sha256) := by
    refine hprepared.hashed.mono ?_
    rw [World.history, hl, historyOf_append]
    exact List.prefix_append _ _
  have hdrawn : signed.manifest.transferId ∈ w.log.filterMap uuid? := by
    rw [hl, List.filterMap_append]
    exact List.mem_append_left _ (uuid_of_answered hprepared.drawn)
  have hsession : signed.manifest.sessionId ∈ w.log.filterMap uuid? := by
    have hissued := hw.issued h
    generalize hresponse : Response.manifest signed = answer at hissued
    cases hissued with
    | manifest _ bearer _ _ _ named =>
      cases hresponse
      obtain ⟨token, -, hs⟩ := bearer.row
      obtain ⟨u, hu, hr, -, hread⟩ := hw.session_read hs.read
      obtain ⟨e, he, htext⟩ := List.mem_filterMap.mp (hu.session_uuid (Table.find?_eq_some.mp hread).1)
      have hid : (cfg.signManifest _).manifest.sessionId = _ := named.1
      rw [hid]
      exact List.mem_filterMap.mpr ⟨e, hr.log_prefix.subset he, htext⟩
  refine ⟨huuid _ hdrawn, huuid _ hsession, ?_, hartifact, hversion⟩
  obtain ⟨u, draw, s', -, -, -, heff⟩ := hw.answered hhashed
  simp only [State.effect, Option.map_eq_some_iff] at heff
  obtain ⟨content, -, heq⟩ := heff
  have hsha256 : cfg.crypto.sha256 content = transfer.manifest.sha256 :=
    congrArg (fun v => v.1.2) heq
  rw [← hmanifest, ← hsha256]
  exact hsha content

/-- In one run of the service a transfer id names one manifest. -/
theorem Reachable.manifest_unique (hw : Reachable cfg w) {p q : ℕ} {artifactId artifactId' : String}
    {authorization authorization' : Option String} {request request' : ArtifactPrepareRequest}
    {signed signed' : SignedArtifactManifest}
    (hp : w.Finished p (.prepareArtifact artifactId authorization request) (.manifest signed))
    (hq : w.Finished q (.prepareArtifact artifactId' authorization' request') (.manifest signed'))
    (hid : signed.manifest.transferId = signed'.manifest.transferId) :
    signed.manifest = signed'.manifest := by
  obtain ⟨x, hx, transfer, hregistered, hmanifest⟩ := hw.manifest_registered hp
  obtain ⟨y, hy, transfer', hregistered', hmanifest'⟩ := hw.manifest_registered hq
  obtain rfl := hw.registered_unique hx hy hregistered hregistered' hid
  have hsame : (signed.manifest.transferId, transfer) = (signed'.manifest.transferId, transfer') :=
    Option.some.inj (hregistered.symm.trans hregistered')
  rw [← hmanifest, ← hmanifest']
  exact congrArg (fun p => p.2.manifest) hsame

/-- What the encodings bind. Admitted manifests with equal key contexts agree in every field of
it; with equal associated data they are of one transfer and one chunk, and agree in every field
of it when their artifact ids and versions are one line each, or when one run of the service has
issued both. The client's encoders produce the service's bytes. -/
theorem artifact_bindings_are_injective :
    (∀ m m' : ArtifactManifest, Admitted m → Admitted m' →
      (Crypto.artifactKeyContext m = Crypto.artifactKeyContext m' →
        SameBinding m m' ∧ m.sha256 = m'.sha256) ∧
      ∀ i i' : UInt32, Crypto.artifactAad m i = Crypto.artifactAad m' i' →
        m.transferId = m'.transferId ∧ i = i' ∧ (OneLine m → OneLine m' → SameBinding m m')) ∧
    (∀ (cfg : Config) (w : ServiceWorld), Reachable cfg w → UuidDraws w →
      ∀ (p q : ℕ) (artifactId artifactId' : String) (authorization authorization' : Option String)
        (request request' : ArtifactPrepareRequest) (signed signed' : SignedArtifactManifest)
        (i i' : UInt32),
      w.Finished p (.prepareArtifact artifactId authorization request) (.manifest signed) →
      w.Finished q (.prepareArtifact artifactId' authorization' request') (.manifest signed') →
      Crypto.artifactAad signed.manifest i = Crypto.artifactAad signed'.manifest i' →
      signed.manifest = signed'.manifest ∧ i = i') ∧
    ∀ (m : ArtifactManifest) (i : UInt32), Desktop.artifactAad m i = Crypto.artifactAad m i ∧
      Desktop.artifactKeyContext m = Crypto.artifactKeyContext m := by
  refine ⟨fun m m' hm hm' => ⟨artifactKeyContext_inj hm hm', fun i i' h => ?_⟩, ?_,
    fun m i => ⟨rfl, rfl⟩⟩
  · obtain ⟨htransfer, hindex⟩ := artifactAad_transfer hm.transferId hm'.transferId h
    exact ⟨htransfer, hindex, fun hl hl' => (artifactAad_inj hm hm' hl hl' h).1⟩
  · intro cfg w hw huuid p q artifactId artifactId' authorization authorization' request request'
      signed signed' i i' hp hq h
    have hdrawn : ∀ {pid artifactId authorization request} {s : SignedArtifactManifest},
        w.Finished pid (.prepareArtifact artifactId authorization request) (.manifest s) →
        isUuidText s.manifest.transferId = true := by
      intro pid artifactId authorization request s hs
      obtain ⟨x, hx, transfer, hregistered, -⟩ := hw.manifest_registered hs
      obtain ⟨l, l', hl⟩ := List.append_of_mem hx
      refine huuid _ ?_
      rw [hl, List.filterMap_append]
      exact List.mem_append_left _ (uuid_of_answered (hw.registered_prepared hl hregistered).drawn)
    obtain ⟨htransfer, hindex⟩ := artifactAad_transfer (hdrawn hp) (hdrawn hq) h
    exact ⟨hw.manifest_unique hp hq htransfer, hindex⟩

def sampleUuid (c : Char) : String := String.ofList (List.replicate 36 c)

/-- A client prepares a transfer of an artifact published under this id and version. -/
def publishedRun (artifactId version : String) : List ServiceAction :=
  serve 0 (.register ⟨"install", "device", "1", "windows", sampleKey, .ed25519DpapiV1, "rdc"⟩)
    ["", "", sampleUuid '0', "", "challenge", ""] ++
  serve 1 (.admin (.clientApproveForAccount (sampleUuid '0') "account")) [""] ++
  sampleEntitle 2 "account" ++
  serve 4 (.admin (.artifactPublish artifactId version "x86_64" "13" "runner")) [""] ++
  serve 5 (.createSession (sampleSession (sampleUuid '0') "device" "n" 1000))
    ["", "", "", "", "", "", sampleUuid '1', sampleUuid '2', ""] ++
  serve 6 (.prepareArtifact artifactId (some ("Bearer " ++ sampleUuid '1'))
    ⟨"device", "x86_64", "13", "key"⟩)
    ["", "", "", "", "", "", "", "server-key", "", "", "", sampleUuid '3', "prefix", ""]

def publishedManifest (artifactId version : String) : SignedArtifactManifest :=
  sampleConfig.signManifest
    { artifactId, version, targetAbi := "x86_64", targetAndroid := "13",
      sessionId := sampleUuid '1', deviceId := "device", sizeBytes := 1, sha256 := sampleSha256,
      expiresAt := 1300, keyId := "key-1", transferId := sampleUuid '3',
      serverEphemeralPublicKey := "server-key", chunkSizeBytes := artifactChunkSize,
      chunkCount := 1, noncePrefix := "prefix" }

/-- A line feed may stand in the artifact id or in the version: two manifests that the service
issues have the same associated data and differ in both fields. -/
theorem artifact_aad_is_ambiguous :
    ¬ ∀ (cfg : Config) (w w' : ServiceWorld), Reachable cfg w → Reachable cfg w' →
      UuidDraws w → UuidDraws w' →
      ∀ (p q : ℕ) (artifactId artifactId' : String) (authorization authorization' : Option String)
        (request request' : ArtifactPrepareRequest) (signed signed' : SignedArtifactManifest)
        (i i' : UInt32),
      w.Finished p (.prepareArtifact artifactId authorization request) (.manifest signed) →
      w'.Finished q (.prepareArtifact artifactId' authorization' request') (.manifest signed') →
      Admitted signed.manifest → Admitted signed'.manifest →
      Crypto.artifactAad signed.manifest i = Crypto.artifactAad signed'.manifest i' →
      SameBinding signed.manifest signed'.manifest ∧ i = i' := by
  intro h
  have hrun : ∀ artifactId version, Reachable sampleConfig
      ((service sampleConfig).run sampleStart (publishedRun artifactId version)) :=
    fun artifactId version => reachable_run sampleConfig _ _ _ (publishedRun artifactId version)
  have hp : ((service sampleConfig).run sampleStart (publishedRun "a\nb" "c")).Finished 6
      (.prepareArtifact "a\nb" (some ("Bearer " ++ sampleUuid '1')) ⟨"device", "x86_64", "13", "key"⟩)
      (.manifest (publishedManifest "a\nb" "c")) := World.finished_iff.mpr (by decide +kernel)
  have hq : ((service sampleConfig).run sampleStart (publishedRun "a" "b\nc")).Finished 6
      (.prepareArtifact "a" (some ("Bearer " ++ sampleUuid '1')) ⟨"device", "x86_64", "13", "key"⟩)
      (.manifest (publishedManifest "a" "b\nc")) := World.finished_iff.mpr (by decide +kernel)
  have hsame := h sampleConfig _ _ (hrun "a\nb" "c") (hrun "a" "b\nc") (by decide +kernel)
    (by decide +kernel) 6 6 _ _ _ _ _ _ _ _ 0 0 hp hq
    ⟨by decide +kernel, by decide +kernel, by decide +kernel, by decide +kernel, by decide +kernel⟩
    ⟨by decide +kernel, by decide +kernel, by decide +kernel, by decide +kernel, by decide +kernel⟩
    (by decide +kernel)
  exact absurd hsame.1.2.1 (by decide +kernel)

end JustRun.Authorization
