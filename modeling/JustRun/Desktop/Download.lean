import JustRun.Desktop.Client
import JustRun.Machine.Chunks

/-!
# Artifact downloads of the desktop client

`download_artifact_to` writes the decrypted chunks to a temporary file beside the
destination, compares size and hash with the manifest and renames the file, or
removes it again. The loop is followed with the content of the temporary file.
-/
namespace JustRun.Desktop
open Machine Authorization Concurrency Concurrency.Prog

/-- The part of a loop step that computes: the chunk of this index, decrypted. -/
def Crates.openChunk (c : Crates) (key : List UInt8) (manifest : ArtifactManifest) (index : UInt32)
    (chunk : ArtifactChunkResponse) (written : ℕ) : Except AuthorizationError (List UInt8) := do
  refuseIf (chunk.index ≠ index) .artifactIntegrityFailed
  let ciphertext ← (c.base64Decode chunk.ciphertext).mapError (fun _ => .artifactIntegrityFailed)
  let plaintext ← c.decryptArtifactChunk key manifest index ciphertext
  let expected := min (manifest.sizeBytes - written) manifest.chunkSizeBytes
  refuseIf (expected = 0 || plaintext.length ≠ expected) .artifactIntegrityFailed
  pure plaintext

/-- The loop over the chunk indices; it answers the bytes that went to the file and to the
hasher. The sum of their lengths stays within `size_bytes`, so it never saturates. -/
def downloadChunks (c : Crates) (key : List UInt8) (manifest : ArtifactManifest)
    (artifactId : String) (temporary : FilePath) :
    List ℕ → List UInt8 → ClientProg (List UInt8)
  | [], hashed => pure hashed
  | index :: rest, hashed => do
    let chunk ← ask (.fetchArtifactChunk manifest.sessionId artifactId manifest.transferId
      (.ofNat index))
    let plaintext ← ofExcept (c.openChunk key manifest (.ofNat index) chunk hashed.length)
    ask (.writeAll temporary plaintext)
    downloadChunks c key manifest artifactId temporary rest (hashed ++ plaintext)

/-- The `async` block of the download. -/
def writeTemporary (c : Crates) (key : List UInt8) (manifest : ArtifactManifest)
    (artifactId : String) (temporary destination : FilePath) : ClientProg Unit := do
  ask (.createNew temporary)
  let hashed ← downloadChunks c key manifest artifactId temporary
    (List.range manifest.chunkCount) []
  rejectIf (hashed.length ≠ manifest.sizeBytes || c.sha256 hashed ≠ manifest.sha256)
    .artifactIntegrityFailed
  ask (.syncAll temporary)
  ask (.rename temporary destination)

/-- `.{name}.part-{uuid}` beside the destination. -/
def temporaryPath (destination : FilePath) (name uuid : String) : FilePath :=
  ⟨destination.parent, some ("." ++ name ++ ".part-" ++ uuid)⟩

/-- `let _ = fs::remove_file(..)` when the result is an error. -/
def cleanUp (temporary : FilePath) : Except AuthorizationError Unit → ClientProg Unit
  | .ok () => pure ()
  | .error e => do
    let _ ← attempt (ask (.removeFile temporary))
    .fail e

def downloadArtifactTo (client : AuthorizationClient) (artifactId targetAbi targetAndroid : String)
    (destination : FilePath) : ClientProg ArtifactManifest := do
  let ephemeral ← ask .x25519Keypair
  let signed ← client.prepareArtifact artifactId targetAbi targetAndroid ephemeral.2
  let manifest := signed.manifest
  let shared ← ofExcept (client.crates.deriveX25519SharedSecret ephemeral.1
    manifest.serverEphemeralPublicKey)
  let key ← ofExcept (client.crates.deriveArtifactKey shared manifest)
  let directory ← ask (.isDir destination.parent)
  rejectIf (!directory) .artifactIntegrityFailed
  let taken ← ask (.pathExists destination)
  rejectIf taken .artifactIntegrityFailed
  let name ← orReject destination.fileName (.malformed "artifact destination is invalid")
  let uuid ← ask .uuid
  let temporary := temporaryPath destination name uuid
  let result ← attempt (writeTemporary client.crates key manifest artifactId temporary destination)
  cleanUp temporary result
  pure manifest

theorem temporaryPath_ne {destination : FilePath} {name : String}
    (h : destination.fileName = some name) (uuid : String) :
    temporaryPath destination name uuid ≠ destination := by
  intro heq
  have hname : "." ++ name ++ ".part-" ++ uuid = name :=
    Option.some.inj ((congrArg FilePath.fileName heq).trans h)
  have hlength := congrArg String.length hname
  simp only [String.length_append] at hlength
  have hdot : ".".length = 1 := rfl
  omega

/-- Preparing a download changes nothing on the machine. -/
theorem prepareArtifact_ensures (client : AuthorizationClient)
    (artifactId targetAbi targetAndroid ephemeralPublicKey : String) (h : History) (s : State) :
    (client.prepareArtifact artifactId targetAbi targetAndroid ephemeralPublicKey).Ensures execute
      (fun _ _ s' => s' = s) h s := by
  have hmeets : (client.prepareArtifact artifactId targetAbi targetAndroid
      ephemeralPublicKey).Meets (fun _ call => call.changes = false) (fun _ _ => True) h := by
    have he : ∀ (_ : History) (_ : AuthorizationError), True := fun _ _ => trivial
    simp only [AuthorizationClient.prepareArtifact, AuthorizationClient.identity, LeaseClock.now,
      bind_assoc]
    refine meets_present he fun session _ => meets_ask he rfl fun material _ => ?_
    refine meets_check he fun _ _ => meets_check he fun _ _ => meets_ask he rfl fun instant _ =>
      meets_check he fun now _ => meets_refuse he fun _ => meets_ask he rfl fun response _ => ?_
    exact meets_refuse he fun _ => meets_check he fun key _ => meets_ask he rfl fun instant _ =>
      meets_check he fun now _ => meets_check he fun _ _ => meets_refuse he fun _ =>
      meets_check he fun _ _ => trivial
  refine (hmeets.ensures (fun s' => s' = s) (fun _ call c s r s' hc hx hs => ?_) rfl).mono
    fun _ _ _ _ hq => hq.2
  exact (execute_unchanged hx hc).trans hs

section Files
variable {c : Crates} {key : List UInt8} {manifest : ArtifactManifest} {artifactId : String}
  {temporary destination : FilePath} {h : History} {s : State}

theorem State.put_self (s : State) (path : FilePath) (content : Option (List UInt8)) :
    (s.put path content).files path = content := by
  simp [State.put]

theorem State.put_of_ne (s : State) {path other : FilePath} (content : Option (List UInt8))
    (hne : other ≠ path) : (s.put path content).files other = s.files other := by
  simp [State.put, hne]

/-- Whatever the chunks are, the loop writes to the temporary file only, and the file holds the
bytes that went to the hasher when the loop comes to its end. -/
theorem downloadChunks_ensures (indices : List ℕ) {hashed : List UInt8}
    (hfile : s.files temporary = some hashed) :
    (downloadChunks c key manifest artifactId temporary indices hashed).Ensures execute
      (fun _ r s' => (∀ path, path ≠ temporary → s'.files path = s.files path) ∧
        (s'.files temporary).isSome ∧ ∀ hashed', r = .ok hashed' →
          s'.files temporary = some hashed') h s := by
  induction indices generalizing hashed h s with
  | nil => exact ⟨fun _ _ => rfl, by rw [hfile]; rfl, fun _ hr => by cases hr; exact hfile⟩
  | cons index rest ih =>
    have herror : ∀ e : AuthorizationError, (∀ path, path ≠ temporary → s.files path = s.files path) ∧
        (s.files temporary).isSome ∧ ∀ hashed', Except.error e = .ok hashed' →
          s.files temporary = some hashed' :=
      fun e => ⟨fun _ _ => rfl, by rw [hfile]; rfl, fun _ hr => nomatch hr⟩
    refine (ensures_request_bind _ _).mpr ⟨fun _ e s' hx => ?_, fun _ chunk s' hx => ?_⟩
    · obtain rfl := execute_unchanged hx rfl
      exact herror e
    obtain rfl := execute_unchanged hx rfl
    refine (ensures_ofExcept_bind _ _).mpr ⟨fun e _ => herror e, fun plaintext _ => ?_⟩
    refine (ensures_request_bind _ _).mpr ⟨fun choice e t hx => ?_, fun choice _ t hx => ?_⟩
    · simp only [execute, State.exec, hfile] at hx
      split at hx
      · cases hx
      · cases hx
        exact ⟨fun path hne => s'.put_of_ne _ hne, by rw [State.put_self]; rfl, fun _ hr => nomatch hr⟩
      · cases hx
    · simp only [execute, State.exec, hfile] at hx
      split at hx
      · next hcontent =>
        cases hcontent
        cases hx
        refine Ensures.mono (ih (s'.put_self temporary (some (hashed ++ plaintext)))) ?_
        rintro _ r t - ⟨hothers, hrest⟩
        exact ⟨fun path hne => (hothers path hne).trans (s'.put_of_ne _ hne), hrest⟩
      · cases hx
      · cases hx

/-- Every chunk was answered by this response, and the disk took every write. -/
def Served (responses : UInt32 → ArtifactChunkResponse) (h : History) : Prop :=
  (∀ sessionId artifactId transferId index r,
    (⟨.fetchArtifactChunk sessionId artifactId transferId index, r⟩ : Entry Call Result) ∈ h →
      r = .ok (responses index)) ∧
  ∀ path data e, (⟨.writeAll path data, .error e⟩ : Entry Call Result) ∉ h

/-- When the responses open to the chunks of a file, the loop assembles the file. -/
theorem downloadChunks_assembles {responses : UInt32 → ArtifactChunkResponse} {content : List UInt8}
    {width : ℕ} (hwidth : 0 < width)
    (hopen : ∀ i < chunkCount content.length width, c.openChunk key manifest (.ofNat i)
      (responses (.ofNat i)) (i * width) = .ok (chunk content width i)) (n k : ℕ)
    (hk : k + n = chunkCount content.length width) :
    (downloadChunks c key manifest artifactId temporary (List.range' k n)
      (content.take (k * width))).Ensures execute
      (fun h' r _ => Served responses h' → r = .ok content) h s := by
  induction n generalizing k h s with
  | zero =>
    rw [Nat.add_zero] at hk
    intro _
    rw [hk, take_chunkCount hwidth]
  | succ n ih =>
    have hin : k < chunkCount content.length width := by omega
    have hlength : (content.take (k * width)).length = k * width := by
      have hstart := (lt_chunkCount_iff hwidth).mp hin
      rw [List.length_take]
      omega
    rw [List.range'_succ]
    refine (ensures_request_bind _ _).mpr ⟨fun _ e t _ hserved => ?_, fun _ response t _ => ?_⟩
    · have hr := hserved.1 _ _ _ _ _ (List.mem_append_right h List.mem_cons_self)
      cases hr
    by_cases hresponse : response = responses (.ofNat k)
    swap
    · refine (ensures_history _).mono fun h' r y _ hh hserved => ?_
      have hr := hserved.1 _ _ _ _ _ (hh.subset (List.mem_append_right h List.mem_cons_self))
      exact absurd (Except.ok.inj hr) hresponse
    subst hresponse
    rw [hlength, hopen k hin]
    refine (ensures_request_bind _ _).mpr ⟨fun _ e u _ hserved => ?_, fun _ _ u _ => ?_⟩
    · exact absurd (List.mem_append_right _ List.mem_cons_self) (hserved.2 _ _ e)
    · rw [take_append_chunk]
      exact ih (k + 1) (by omega)

/-- A finished download is at the destination with size and hash as in the manifest; an
unfinished one is in the temporary file only. -/
theorem writeTemporary_ensures (hne : temporary ≠ destination) (hfree : s.files temporary = none) :
    (writeTemporary c key manifest artifactId temporary destination).Ensures execute
      (fun _ r s' => (∀ path, path ≠ temporary → path ≠ destination → s'.files path = s.files path) ∧
        match r with
        | .ok () => s'.files temporary = none ∧ ∃ content, s'.files destination = some content ∧
            content.length = manifest.sizeBytes ∧ c.sha256 content = manifest.sha256
        | .error _ => s'.files destination = s.files destination) h s := by
  refine (ensures_request_bind _ _).mpr ⟨fun choice e t hx => ?_, fun choice _ t hx => ?_⟩
  · simp only [execute, State.exec, hfree] at hx
    split at hx
    · cases hx
    · cases hx
    · cases hx
      exact ⟨fun _ _ _ => rfl, rfl⟩
  simp only [execute, State.exec, hfree] at hx
  split at hx
  · cases hx
    refine Ensures.bind (downloadChunks_ensures _ (s.put_self temporary (some []))) ?_ ?_
    · rintro h' hashed t - ⟨hothers, -, hfile⟩
      have hkept : ∀ path, path ≠ temporary → t.files path = s.files path :=
        fun path hp => (hothers path hp).trans (s.put_of_ne _ hp)
      refine (ensures_rejectIf_bind _ _ _).mpr ⟨fun _ => ?_, fun hchecked => ?_⟩
      · exact ⟨fun path hp _ => hkept path hp, hkept destination hne.symm⟩
      simp only [Bool.or_eq_false_iff, decide_eq_false_iff_not, not_not] at hchecked
      refine (ensures_request_bind _ _).mpr ⟨fun _ e t' hx => ?_, fun _ _ t' hx => ?_⟩
      · obtain rfl := execute_unchanged hx rfl
        exact ⟨fun path hp _ => hkept path hp, hkept destination hne.symm⟩
      obtain rfl := execute_unchanged hx rfl
      have hcontent : t'.files temporary = some hashed := hfile hashed rfl
      intro choice r u hx
      simp only [execute, State.exec, hcontent] at hx
      split at hx
      · next hsome =>
        cases hsome
        cases hx
        refine ⟨fun path hp hd => ?_, State.put_self _ _ _, hashed, ?_, hchecked⟩
        · rw [State.put_of_ne _ _ hp, State.put_of_ne _ _ hd]
          exact hkept path hp
        · rw [State.put_of_ne _ _ hne.symm, State.put_self]
      · cases hx
      · cases hx
        exact ⟨fun path hp _ => hkept path hp, hkept destination hne.symm⟩
    · rintro h' e t - ⟨hothers, -, -⟩
      have hkept : ∀ path, path ≠ temporary → t.files path = s.files path :=
        fun path hp => (hothers path hp).trans (s.put_of_ne _ hp)
      exact ⟨fun path hp _ => hkept path hp, hkept destination hne.symm⟩
  · cases hx
  · cases hx

/-- A failure leaves the files as they were, unless the temporary file cannot be removed. -/
theorem cleanUp_error_ensures {s₀ : State}
    (hothers : ∀ path, path ≠ temporary → s.files path = s₀.files path) (e : AuthorizationError) :
    (cleanUp temporary (.error e)).Ensures execute (fun h' r s' => r = .error e ∧
      (∀ path, path ≠ temporary → s'.files path = s₀.files path) ∧
      (s'.files temporary = none ∨ ∃ e', (⟨.removeFile temporary, .error e'⟩ : Entry Call Result) ∈ h'))
      h s := by
  rw [cleanUp, ensures_bind, ensures_attempt]
  intro choice r t hx
  simp only [execute, State.exec] at hx
  split at hx
  · cases hx
    refine ⟨rfl, fun path hp => (s.put_of_ne _ hp).trans (hothers path hp), .inl (s.put_self _ _)⟩
  · cases hx
  · cases hx
    next answered _ =>
      exact ⟨rfl, hothers, .inr ⟨answered, List.mem_append_right h List.mem_cons_self⟩⟩

end Files

/-- A download that succeeds has put a file of the manifest's size and hash at the destination
and has changed nothing else; one that fails has changed nothing, unless the operating system has
refused to remove the temporary file, which then is all that is left. -/
def AllOrNothing (crates : Crates) (destination : FilePath) (s : State) (h : History) :
    Except AuthorizationError ArtifactManifest → State → Prop
  | .ok manifest, s' => (∃ content, s'.files destination = some content ∧
      content.length = manifest.sizeBytes ∧ crates.sha256 content = manifest.sha256) ∧
      ∀ path, path ≠ destination → s'.files path = s.files path
  | .error _, s' => s'.files = s.files ∨ ∃ temporary e, temporary ≠ destination ∧
      (⟨.removeFile temporary, .error e⟩ : Entry Call Result) ∈ h ∧
      ∀ path, path ≠ temporary → s'.files path = s.files path

/-- The temporary names that the client draws are new. -/
def FreshNames (destination : FilePath) (s : State) (h : History) : Prop :=
  ∀ name uuid, Answered h .uuid uuid → s.files (temporaryPath destination name uuid) = none

theorem downloadArtifactTo_ensures (client : AuthorizationClient)
    (artifactId targetAbi targetAndroid : String) (destination : FilePath) (s : State) :
    (downloadArtifactTo client artifactId targetAbi targetAndroid destination).Ensures execute
      (fun h r s' => FreshNames destination s h →
        AllOrNothing client.crates destination s h r s') [] s := by
  have herror : ∀ (h : History) (e : AuthorizationError), FreshNames destination s h →
      AllOrNothing client.crates destination s h (.error e) s := fun _ _ _ => .inl rfl
  refine (ensures_request_bind _ _).mpr ⟨fun _ e t hx => ?_, fun _ ephemeral t hx => ?_⟩
  · obtain rfl := execute_unchanged hx rfl
    exact herror _ e
  obtain rfl := execute_unchanged hx rfl
  refine Ensures.bind (prepareArtifact_ensures client artifactId targetAbi targetAndroid ephemeral.2
    _ t) ?_ ?_
  swap
  · rintro h e t' - rfl
    exact herror h e
  rintro h signed t' - rfl
  refine (ensures_ofExcept_bind _ _).mpr ⟨fun e _ => herror h e, fun shared _ => ?_⟩
  refine (ensures_ofExcept_bind _ _).mpr ⟨fun e _ => herror h e, fun key _ => ?_⟩
  refine (ensures_request_bind _ _).mpr ⟨fun _ e u hx => ?_, fun _ directory u hx => ?_⟩
  · obtain rfl := execute_unchanged hx rfl
    exact herror _ e
  obtain rfl := execute_unchanged hx rfl
  refine (ensures_rejectIf_bind _ _ _).mpr ⟨fun _ => herror _ _, fun _ => ?_⟩
  refine (ensures_request_bind _ _).mpr ⟨fun _ e v hx => ?_, fun _ taken v hx => ?_⟩
  · obtain rfl := execute_unchanged hx rfl
    exact herror _ e
  obtain rfl := execute_unchanged hx rfl
  refine (ensures_rejectIf_bind _ _ _).mpr ⟨fun _ => herror _ _, fun _ => ?_⟩
  refine (ensures_orReject_bind _ _ _).mpr ⟨fun _ => herror _ _, fun name hname => ?_⟩
  refine (ensures_request_bind _ _).mpr ⟨fun _ e x hx => ?_, fun _ uuid x hx => ?_⟩
  · obtain rfl := execute_unchanged hx rfl
    exact herror _ e
  obtain rfl := execute_unchanged hx rfl
  have hne : temporaryPath destination name uuid ≠ destination := temporaryPath_ne hname uuid
  by_cases hfree : x.files (temporaryPath destination name uuid) = none
  · refine (ensures_bind _ _).mpr ((ensures_attempt _).mpr ?_)
    refine (writeTemporary_ensures hne hfree).mono ?_
    rintro h' (e | ⟨⟩) y - ⟨hothers, hresult⟩
    · have hkept : ∀ path, path ≠ temporaryPath destination name uuid → y.files path = x.files path := by
        intro path hp
        by_cases hd : path = destination
        · rw [hd]
          exact hresult
        · exact hothers path hp hd
      refine Ensures.bind (cleanUp_error_ensures hkept e) ?_ ?_
      · rintro _ _ _ - ⟨hr, -⟩
        cases hr
      · rintro h'' e' z - ⟨hr, hkept', hgone⟩ -
        cases hr
        rcases hgone with hgone | ⟨e', he'⟩
        · refine .inl (funext fun path => ?_)
          by_cases hp : path = temporaryPath destination name uuid
          · rw [hp, hgone, hfree]
          · exact hkept' path hp
        · exact .inr ⟨_, e', hne, he', hkept'⟩
    · obtain ⟨htemporary, hcontent⟩ := hresult
      refine (ensures_pure _).mpr fun _ => ⟨hcontent, fun path hd => ?_⟩
      by_cases hp : path = temporaryPath destination name uuid
      · rw [hp, htemporary, hfree]
      · exact hothers path hp hd
  · -- The drawn name is in use, against the freshness of names.
    refine (ensures_history _).mono fun h' r y _ hh hfresh => ?_
    exact absurd (hfresh name uuid (hh.subset (by simp))) hfree

end JustRun.Desktop
