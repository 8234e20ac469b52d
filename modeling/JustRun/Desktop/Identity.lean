import JustRun.Desktop.SecureStore

/-!
# One device identity

`ensure_device_identity_with` looks for both records and then saves them one after the
other. All calls agree on the identity, and none leaves half of it behind, as long as a
key is saved only where there is still no record, the undo of a failed metadata save
succeeds, and no call is stopped between the key and what follows it.
-/
namespace JustRun.Desktop
open Machine Authorization Concurrency Concurrency.Prog

variable {c : IdentityCrates}

/-- A metadata record made of two drawn identifiers. -/
structure MetadataOf (c : IdentityCrates) (value : List UInt8) (installId deviceId : String) : Prop where
  nonempty : value ≠ []
  decoded : c.decode value = .ok ⟨installId, deviceId, none, none, none⟩

/-- What the operations of a call are preceded by. -/
def StoreAllowed (c : IdentityCrates) (h : StoreHistory) : StoreOp → Prop
  | .save .privateKey value =>
    ⟨.generateKey, .ok value⟩ ∈ h ∧ ⟨.load .privateKey, .ok none⟩ ∈ h
  | .save .identityMetadata value => (∃ installId deviceId, ⟨.newUuid, .ok installId⟩ ∈ h ∧
      ⟨.newUuid, .ok deviceId⟩ ∈ h ∧ MetadataOf c value installId deviceId) ∧
    ∃ key, h.getLast? = some ⟨.save .privateKey key, .ok ()⟩
  | .delete key => key = .privateKey ∧
    ∃ value e, h.getLast? = some ⟨.save .identityMetadata value, .error e⟩
  | _ => True

/-- The call has loaded or saved this metadata record. -/
def SawMetadata (h : StoreHistory) (value : List UInt8) : Prop :=
  ⟨.load .identityMetadata, .ok (some value)⟩ ∈ h ∨ ⟨.save .identityMetadata value, .ok ()⟩ ∈ h

/-- The identity is the one of a metadata record the call has seen, and of the key that it
has loaded last. -/
def MaterialStored (c : IdentityCrates) (h : StoreHistory) (material : DeviceAuthMaterial) : Prop :=
  ∃ key value metadata, h.getLast? = some ⟨.load .privateKey, .ok (some key)⟩ ∧
    SawMetadata h value ∧ c.decode value = .ok metadata ∧
    material.identity = ⟨metadata.installId, metadata.deviceId, c.publicKey key⟩

theorem SawMetadata.mono {h h' : StoreHistory} {value : List UInt8} (hs : SawMetadata h value)
    (hh : h <+: h') : SawMetadata h' value :=
  hs.imp (fun hm => hh.subset hm) (fun hm => hh.subset hm)

section Specification
variable {P : StoreHistory → StoreOp → Prop} {β : Type}
  {R : StoreHistory → Except SecureStoreError β → Prop} {h : StoreHistory}

theorem privateKeyFrom_eq_ok {value key : List UInt8} (h : privateKeyFrom value = .ok key) :
    key = value := by
  unfold privateKeyFrom at h
  split at h <;> cases h
  rfl

theorem buildIdentity_eq_ok {metadata : IdentityMetadata} {key : List UInt8}
    {identity : DeviceIdentity} (hb : buildIdentity c metadata key = .ok identity) :
    identity.installId = metadata.installId ∧ identity.deviceId = metadata.deviceId := by
  unfold buildIdentity at hb
  obtain ⟨keyBytes, -, hb⟩ := bind_eq_ok.mp hb
  split at hb
  · cases hb
  · cases hb
    exact ⟨rfl, rfl⟩

/-- What `ensure_device_identity_with` answers, the rest may use. -/
theorem meets_ensureDeviceIdentityWith (hc : c.RoundTrip) (he : ∀ h e, R h (.error e))
    {f : DeviceIdentity → StoreProg β}
    (hf : ∀ l identity value metadata, SawMetadata (h ++ l) value →
      c.decode value = .ok metadata → identity.installId = metadata.installId →
      identity.deviceId = metadata.deviceId → (f identity).Meets (StoreAllowed c) R (h ++ l)) :
    (ensureDeviceIdentityWith c >>= f).Meets (StoreAllowed c) R h := by
  simp only [ensureDeviceIdentityWith, bind_assoc]
  refine meets_request he trivial fun privateKey => meets_request he trivial fun stored => ?_
  match privateKey, stored with
  | none, none =>
    simp only [createDeviceIdentity, saveMetadataOrUndo, bind_assoc]
    refine meets_request he trivial fun key => meets_request he trivial fun installId =>
      meets_request he trivial fun deviceId => meets_check he fun value hvalue => ?_
    obtain ⟨value', hencode, hne, hdecode⟩ := hc installId deviceId
    obtain rfl : value' = value := by
      rw [mapError_eq_ok, hencode] at hvalue
      exact Except.ok.inj hvalue
    refine meets_request he ⟨by simp, by simp⟩ fun _ => ?_
    refine ⟨⟨⟨installId, deviceId, by simp, by simp, hne, hdecode⟩, key, by simp⟩, fun r => ?_⟩
    cases r with
    | error e =>
      refine ⟨⟨rfl, value', e, by simp⟩, fun _ => ?_⟩
      exact he _ _
    | ok _ =>
      refine meets_check he fun identity hidentity => ?_
      obtain ⟨hinstall, hdevice⟩ := buildIdentity_eq_ok hidentity
      simp only [List.append_assoc]
      refine hf _ identity value' _ (.inr (by simp)) hdecode hinstall hdevice
  | some key, some value =>
    simp only [bind_assoc]
    refine meets_check he fun metadata hmetadata => meets_refuse he fun _ =>
      meets_check he fun identity hidentity => ?_
    obtain ⟨hinstall, hdevice⟩ := buildIdentity_eq_ok hidentity
    simp only [List.append_assoc]
    refine hf _ identity value metadata (.inl (by simp)) (mapError_eq_ok.mp hmetadata) hinstall hdevice
  | some _, none | none, some _ => exact he _ _

theorem secureStore_meets (hc : c.RoundTrip) (policy : DeviceSecurityPolicy) :
    ((secureStore c).handler policy).Meets (StoreAllowed c)
      (fun h r => ∀ material, r = .ok material → MaterialStored c h material) [] := by
  have he : ∀ (h : StoreHistory) (e : SecureStoreError) (material : DeviceAuthMaterial),
      Except.error e = .ok material → MaterialStored c h material := fun _ _ _ h => nomatch h
  simp only [secureStore, loadOrCreateDeviceMaterialWith]
  refine meets_request he trivial fun privateKey => meets_request he trivial fun stored =>
    meets_check he fun metadata _ => ?_
  split
  · refine meets_refuse he fun _ => ?_
    exact he _ _
  refine meets_refuse he fun _ => meets_ensureDeviceIdentityWith hc he
    fun l identity value metadata hsaw hdecode hinstall hdevice => ?_
  simp only [loadSigningKeyWith, bind_assoc]
  refine meets_request he trivial fun stored => meets_present he fun key hkey =>
    meets_check he fun key' hkey' => meets_check he fun _ _ => meets_refuse he fun hpublic => ?_
  rintro material hmaterial
  cases hmaterial
  subst hkey
  have hsame : c.publicKey key = identity.publicKey := by
    rw [← privateKeyFrom_eq_ok hkey']
    simpa using hpublic
  refine ⟨key, value, metadata, List.getLast?_concat, hsaw.mono (List.prefix_append _ _), hdecode, ?_⟩
  rw [hsame, ← hinstall, ← hdevice]

/-- The metadata save follows a saved key, and the undo a failed metadata save. -/
def Followed : (op : StoreOp) → (StoreResult op → StoreProg DeviceAuthMaterial) → Prop
  | .save .privateKey _, next =>
    ∃ value next', next (.ok ()) = .call (.save .identityMetadata value) next'
  | .save .identityMetadata _, next => ∀ e, ∃ next', next (.error e) = .call (.delete .privateKey) next'
  | _, _ => True

theorem secureStore_followed (policy : DeviceSecurityPolicy) :
    ((secureStore c).handler policy).Everywhere Followed := by
  simp only [secureStore, loadOrCreateDeviceMaterialWith]
  refine (everywhere_request_bind _ _).mpr ⟨trivial, fun privateKey => ?_⟩
  refine (everywhere_request_bind _ _).mpr ⟨trivial, fun stored => ?_⟩
  refine (everywhere_ofExcept_bind _ _).mpr fun metadata _ => ?_
  split
  · exact (everywhere_rejectIf_bind _ _ _).mpr fun _ => trivial
  refine (everywhere_rejectIf_bind _ _ _).mpr fun _ => ?_
  simp only [legacyDeviceMaterial, ensureDeviceIdentityWith, bind_assoc]
  have hrest : ∀ identity : DeviceIdentity, (do
      let signingKey ← loadSigningKeyWith
      let signer : DeviceSigner := ⟨.ed25519DpapiV1, c.publicKey signingKey⟩
      ofExcept (enforceSecurityPolicy policy .dpapiSoftwareFallback)
      rejectIf (signer.publicKey ≠ identity.publicKey)
        (.corrupt "device signer does not match the stored identity")
      pure (⟨identity, signer, .dpapiSoftwareFallback⟩ : DeviceAuthMaterial)).Everywhere
        Followed := by
    intro identity
    simp only [loadSigningKeyWith, bind_assoc]
    refine (everywhere_request_bind _ _).mpr ⟨trivial, fun stored => ?_⟩
    simp only [everywhere_orReject_bind, everywhere_ofExcept_bind, everywhere_rejectIf_bind]
    exact fun _ _ _ _ _ _ _ => trivial
  refine (everywhere_request_bind _ _).mpr ⟨trivial, fun privateKey => ?_⟩
  refine (everywhere_request_bind _ _).mpr ⟨trivial, fun stored => ?_⟩
  cases privateKey with
  | none =>
    cases stored with
    | some value => trivial
    | none =>
      simp only [createDeviceIdentity, saveMetadataOrUndo, bind_assoc]
      refine (everywhere_request_bind _ _).mpr ⟨trivial, fun key => ?_⟩
      refine (everywhere_request_bind _ _).mpr ⟨trivial, fun installId => ?_⟩
      refine (everywhere_request_bind _ _).mpr ⟨trivial, fun deviceId => ?_⟩
      refine (everywhere_ofExcept_bind _ _).mpr fun value _ => ?_
      refine (everywhere_request_bind _ _).mpr ⟨⟨value, _, rfl⟩, fun _ => ?_⟩
      refine ⟨fun e => ⟨_, rfl⟩, fun r => ?_⟩
      cases r with
      | error e => exact ⟨trivial, fun _ => trivial⟩
      | ok _ => exact (everywhere_ofExcept_bind _ _).mpr fun identity _ => hrest identity
  | some key =>
    cases stored with
    | none => trivial
    | some value =>
      simp only [bind_assoc, everywhere_ofExcept_bind, everywhere_rejectIf_bind]
      exact fun _ _ _ identity _ => hrest identity

end Specification
/-! ### Runs -/

theorem Records.exec_load {s s' : Records} {choice : StoreChoice} {key : StoreKey}
    {value : Option (List UInt8)} (h : s.exec choice (.load key) = some (.ok value, s')) :
    s key = value := by
  simp only [exec] at h
  split at h
  · cases h
  · cases h
    rfl

/-- The operation ends what the save of a key began. -/
def StoreOp.closes : StoreOp → Bool
  | save .identityMetadata _ | delete _ => true
  | _ => false

/-- The call has saved its key, and neither its metadata nor the undo yet. -/
def HalfWay (w : StoreWorld) (pid : ℕ) : Prop := (w.pending? pid).any StoreOp.closes = true

/-- A key is saved only while there is no record, and an undo succeeds. -/
def Exclusive (w : StoreWorld) : StoreAction → Prop
  | .exec pid choice => match w.pending? pid with
    | some (.save .privateKey _) => choice.fault = none →
        w.state .privateKey = none ∧ w.state .identityMetadata = none
    | some (.delete _) => choice.fault = none
    | _ => True
  | _ => True

instance (w : StoreWorld) (a : StoreAction) : Decidable (Exclusive w a) := by
  unfold Exclusive
  split
  · split <;> infer_instance
  · infer_instance

/-- The records are empty, a key alone, or a complete identity. -/
structure Records.Sound (c : IdentityCrates) (s : Records) : Prop where
  key : ∀ key, s .privateKey = some key → key.length = 32
  metadata : ∀ value, s .identityMetadata = some value → (s .privateKey).isSome ∧
    ∃ installId deviceId, isBlank installId = false ∧ isBlank deviceId = false ∧
      MetadataOf c value installId deviceId

/-- What holds in every world of a run of exclusive steps: a key alone is owed to the one
call that is half way, and a metadata record that was seen is there to stay. -/
structure Orderly (c : IdentityCrates) (w : StoreWorld) : Prop where
  sound : w.state.Sound c
  halfWay : ∀ pid, HalfWay w pid → (w.state .privateKey).isSome ∧ w.state .identityMetadata = none
  unique : ∀ pid pid', HalfWay w pid → HalfWay w pid' → pid = pid'
  owed : (w.state .privateKey).isSome → w.state .identityMetadata = none → ∃ pid, HalfWay w pid
  seen : ∀ e ∈ w.log, ∀ value, SawMetadata [e.entry] value → w.state .identityMetadata = some value

/-- What an operation does: nothing to the records, or one record is saved or deleted. -/
theorem Records.exec_cases {s s' : Records} {choice : StoreChoice} {op : StoreOp}
    {r : StoreResult op} (h : s.exec choice op = some (r, s')) :
    (s' = s ∧ (∀ key value, (⟨op, r⟩ : Entry StoreOp StoreResult) ≠ ⟨.save key value, .ok ()⟩) ∧
      ∀ key, op = .delete key → choice.fault ≠ none) ∨
    (∃ key value, (⟨op, r⟩ : Entry StoreOp StoreResult) = ⟨.save key value, .ok ()⟩ ∧
      choice.fault = none ∧ s' = Function.update s key (some value)) ∨
    ∃ key, op = .delete key ∧ s' = Function.update s key none := by
  cases op with
  | load key | generateKey | newUuid =>
    left
    simp only [exec] at h
    split at h
    all_goals cases h
    all_goals exact ⟨rfl, fun _ _ h => (nomatch h), fun _ h => nomatch h⟩
  | save key value =>
    simp only [exec] at h
    split at h
    · cases h
      exact .inl ⟨rfl, fun _ _ h => (nomatch h), fun _ h => nomatch h⟩
    · next hfault =>
      split at h
      · cases h
        exact .inl ⟨rfl, fun _ _ h => (nomatch h), fun _ h => nomatch h⟩
      · cases h
        exact .inr (.inl ⟨key, value, rfl, hfault, rfl⟩)
  | delete key =>
    simp only [exec] at h
    split at h
    · next e hfault =>
      cases h
      exact .inl ⟨rfl, fun _ _ h => (nomatch h), fun _ _ => by simp [hfault]⟩
    · cases h
      exact .inr (.inr ⟨key, rfl, rfl⟩)

section Run
variable {w : StoreWorld} {pid : ℕ} {policy : DeviceSecurityPolicy} {op : StoreOp}
  {next : StoreResult op → StoreProg DeviceAuthMaterial} {choice : StoreChoice} {r : StoreResult op}
  {s : Records}

/-- The operation a call executes is one it may. -/
theorem storeOp_allowed (hc : c.RoundTrip) (hw : (secureStore c).Reaches emptyStore w)
    (ht : w.threads pid = some ⟨policy, .call op next⟩) : StoreAllowed c (w.history pid) op :=
  (hw.meets (secureStore_meets hc) ht).1

theorem halfWay_iff (ht : w.threads pid = some ⟨policy, .call op next⟩) :
    HalfWay w pid ↔ op.closes = true := by
  simp [HalfWay, World.pending?_eq ht]

/-- A call is half way right after the save of its key or a failed save of its metadata. -/
theorem HalfWay.last (hc : c.RoundTrip) (hw : (secureStore c).Reaches emptyStore w)
    (h : HalfWay w pid) : (∃ key, (w.history pid).getLast? = some ⟨.save .privateKey key, .ok ()⟩) ∨
      ∃ value e, (w.history pid).getLast? = some ⟨.save .identityMetadata value, .error e⟩ := by
  obtain ⟨op, hop, hcloses⟩ := (Option.any_eq_true _ _).mp h
  obtain ⟨policy, next, ht⟩ := World.pending?_eq_some hop
  have hallowed := storeOp_allowed hc hw ht
  match op, hcloses, hallowed with
  | .save .identityMetadata _, _, ⟨_, key, hlast⟩ => exact .inl ⟨key, hlast⟩
  | .delete _, _, ⟨_, value, e, hlast⟩ => exact .inr ⟨value, e, hlast⟩

theorem halfWay_afterCall_ne {q : ℕ} (hq : q ≠ pid) :
    HalfWay (w.afterCall pid policy op next r s) q ↔ HalfWay w q := by
  simp [HalfWay, World.pending?, World.afterCall_threads_ne _ _ _ _ _ _ hq]

/-- Right after another operation than these two a call is not half way. -/
theorem not_halfWay_afterCall (hc : c.RoundTrip)
    (hw : (secureStore c).Reaches emptyStore (w.afterCall pid policy op next r s))
    (hkey : ∀ key, (⟨op, r⟩ : Entry StoreOp StoreResult) ≠ ⟨.save .privateKey key, .ok ()⟩)
    (hmetadata : ∀ value e, (⟨op, r⟩ : Entry StoreOp StoreResult) ≠
      ⟨.save .identityMetadata value, .error e⟩) :
    ¬ HalfWay (w.afterCall pid policy op next r s) pid := by
  intro h
  have hlast := h.last hc hw
  rw [World.history_afterCall_self, List.getLast?_concat] at hlast
  rcases hlast with ⟨key, hlast⟩ | ⟨value, e, hlast⟩
  · exact hkey key (Option.some.inj hlast)
  · exact hmetadata value e (Option.some.inj hlast)

theorem sawMetadata_singleton {x : Entry StoreOp StoreResult} {value : List UInt8} :
    SawMetadata [x] value ↔ x = ⟨.load .identityMetadata, .ok (some value)⟩ ∨
      x = ⟨.save .identityMetadata value, .ok ()⟩ := by
  simp [SawMetadata, eq_comm]

/-- An operation that leaves the records as they are. -/
theorem Orderly.idle (hc : c.RoundTrip) (hv : (secureStore c).Reaches emptyStore w)
    (hw : (secureStore c).Reaches emptyStore (w.afterCall pid policy op next r w.state))
    (ht : w.threads pid = some ⟨policy, .call op next⟩)
    (hx : w.state.exec choice op = some (r, w.state))
    (hsave : ∀ key value, (⟨op, r⟩ : Entry StoreOp StoreResult) ≠ ⟨.save key value, .ok ()⟩)
    (hdelete : ∀ key, op ≠ .delete key) (ho : Orderly c w) :
    Orderly c (w.afterCall pid policy op next r w.state) := by
  -- Nobody's position changes.
  have hsame : ∀ q, HalfWay (w.afterCall pid policy op next r w.state) q ↔ HalfWay w q := by
    intro q
    by_cases hq : q = pid
    · subst hq
      rw [halfWay_iff ht]
      by_cases hcloses : op.closes = true
      · refine iff_of_true ?_ hcloses
        have hfollowed := (hv.everywhere secureStore_followed ht).1
        cases op with
        | load key | generateKey | newUuid => cases hcloses
        | delete key => exact absurd rfl (hdelete key)
        | save key value =>
          cases key with
          | privateKey => cases hcloses
          | identityMetadata =>
            cases r with
            | ok _ => exact absurd rfl (hsave .identityMetadata value)
            | error e =>
              obtain ⟨next', hnext⟩ := hfollowed e
              simp [HalfWay, World.pending?, hnext, StoreOp.closes]
      · refine iff_of_false (not_halfWay_afterCall hc hw (fun key => hsave .privateKey key) ?_) hcloses
        intro value e heq
        cases heq
        exact hcloses rfl
    · exact halfWay_afterCall_ne hq
  refine ⟨ho.sound, fun q hq => ho.halfWay q ((hsame q).mp hq), ?_, ?_, ?_⟩
  · intro q q' hq hq'
    exact ho.unique q q' ((hsame q).mp hq) ((hsame q').mp hq')
  · intro hkey hmetadata
    obtain ⟨q, hq⟩ := ho.owed hkey hmetadata
    exact ⟨q, (hsame q).mpr hq⟩
  · intro e he value hsaw
    rw [World.afterCall_log, List.mem_append] at he
    rcases he with he | he
    · exact ho.seen e he value hsaw
    · obtain rfl := List.mem_singleton.mp he
      rcases sawMetadata_singleton.mp hsaw with hload | hsaved
      · simp only [LogEntry.entry, Sigma.mk.injEq] at hload
        obtain ⟨rfl, hr⟩ := hload
        obtain rfl := eq_of_heq hr
        exact Records.exec_load hx
      · exact absurd hsaved (hsave _ _)

/-- An answer in the history is one the operation gave. -/
theorem exec_of_history (hw : (secureStore c).Reaches emptyStore w) {x : Entry StoreOp StoreResult}
    (hx : x ∈ w.history pid) : ∃ choice s s', Records.exec s choice x.1 = some (x.2, s') := by
  obtain ⟨e, he, -, rfl⟩ := mem_historyOf.mp hx
  obtain ⟨l, l', hl⟩ := List.append_of_mem he
  obtain ⟨v, choice, policy, next, s', -, -, -, -, hexec, -⟩ := hw.point (l := l) hl
  exact ⟨choice, e.before, s', hexec⟩

theorem length_of_generated (hw : (secureStore c).Reaches emptyStore w) {key : List UInt8}
    (hx : ⟨.generateKey, .ok key⟩ ∈ w.history pid) : key.length = 32 := by
  obtain ⟨choice, s, s', hexec⟩ := exec_of_history hw hx
  simp only [Records.exec] at hexec
  split at hexec
  · next hlength =>
    cases hexec
    exact hlength
  · cases hexec

theorem isBlank_of_drawn (hw : (secureStore c).Reaches emptyStore w) {text : String}
    (hx : ⟨.newUuid, .ok text⟩ ∈ w.history pid) : isBlank text = false := by
  obtain ⟨choice, s, s', hexec⟩ := exec_of_history hw hx
  simp only [Records.exec] at hexec
  split at hexec
  · cases hexec
  · next hblank =>
    cases hexec
    simpa using hblank

/-- While there is no metadata record, none has been seen. -/
theorem Orderly.unseen (ho : Orderly c w) (hnone : w.state .identityMetadata = none)
    {e : LogEntry Records StoreOp StoreResult} (he : e ∈ w.log) (value : List UInt8) :
    ¬ SawMetadata [e.entry] value := by
  intro hsaw
  rw [ho.seen e he value hsaw] at hnone
  cases hnone

theorem Orderly.savedKey {value : List UInt8}
    {next : StoreResult (.save .privateKey value) → StoreProg DeviceAuthMaterial}
    (hc : c.RoundTrip) (hv : (secureStore c).Reaches emptyStore w)
    (ht : w.threads pid = some ⟨policy, .call (.save .privateKey value) next⟩)
    (hnone : w.state .privateKey = none ∧ w.state .identityMetadata = none) (ho : Orderly c w) :
    Orderly c (w.afterCall pid policy (.save .privateKey value) next (.ok ())
      (Function.update w.state .privateKey (some value))) := by
  have hlength := length_of_generated hv (storeOp_allowed hc hv ht).1
  have hnobody : ∀ q, ¬ HalfWay w q := by
    intro q hq
    have hkey := (ho.halfWay q hq).1
    simp [hnone.1] at hkey
  obtain ⟨value', next', hnext⟩ := (hv.everywhere secureStore_followed ht).1
  have honly : ∀ q, HalfWay (w.afterCall pid policy (.save .privateKey value) next (.ok ())
      (Function.update w.state .privateKey (some value))) q ↔ q = pid := by
    intro q
    by_cases hq : q = pid
    · subst hq
      simp [HalfWay, World.pending?, hnext, StoreOp.closes]
    · exact iff_of_false (fun h => hnobody q ((halfWay_afterCall_ne hq).mp h)) hq
  constructor
  · exact ⟨by simp [hlength], by simp [hnone.2]⟩
  · intro q _
    simp [hnone.2]
  · intro q q' hq hq'
    rw [(honly q).mp hq, (honly q').mp hq']
  · intro _ _
    exact ⟨pid, (honly pid).mpr rfl⟩
  · intro e he value' hsaw
    rw [World.afterCall_log, List.mem_append] at he
    rcases he with he | he
    · exact absurd hsaw (ho.unseen hnone.2 he value')
    · obtain rfl := List.mem_singleton.mp he
      rcases sawMetadata_singleton.mp hsaw with h | h <;> cases h

theorem Orderly.savedMetadata {value : List UInt8}
    {next : StoreResult (.save .identityMetadata value) → StoreProg DeviceAuthMaterial}
    (hc : c.RoundTrip) (hv : (secureStore c).Reaches emptyStore w)
    (hw : (secureStore c).Reaches emptyStore (w.afterCall pid policy (.save .identityMetadata value)
      next (.ok ()) (Function.update w.state .identityMetadata (some value))))
    (ht : w.threads pid = some ⟨policy, .call (.save .identityMetadata value) next⟩)
    (ho : Orderly c w) :
    Orderly c (w.afterCall pid policy (.save .identityMetadata value) next (.ok ())
      (Function.update w.state .identityMetadata (some value))) := by
  have hhalf : HalfWay w pid := (halfWay_iff ht).mpr rfl
  obtain ⟨hkey, hnone⟩ := ho.halfWay pid hhalf
  obtain ⟨⟨installId, deviceId, hinstall, hdevice, hmetadata⟩, -⟩ := storeOp_allowed hc hv ht
  have hnobody : ∀ q, ¬ HalfWay (w.afterCall pid policy (.save .identityMetadata value) next (.ok ())
      (Function.update w.state .identityMetadata (some value))) q := by
    intro q hq
    by_cases hqp : q = pid
    · subst hqp
      exact not_halfWay_afterCall hc hw (fun _ h => nomatch h) (fun _ _ h => nomatch h) hq
    · exact hqp (ho.unique q pid ((halfWay_afterCall_ne hqp).mp hq) hhalf)
  constructor
  · refine ⟨fun key h => ho.sound.key key (by simpa using h), fun value' h => ⟨by simpa using hkey, ?_⟩⟩
    obtain rfl : value = value' := by simpa using h
    exact ⟨installId, deviceId, isBlank_of_drawn hv hinstall, isBlank_of_drawn hv hdevice, hmetadata⟩
  · intro q hq
    exact absurd hq (hnobody q)
  · intro q _ hq
    exact absurd hq (hnobody q)
  · intro _ h
    simp at h
  · intro e he value' hsaw
    rw [World.afterCall_log, List.mem_append] at he
    rcases he with he | he
    · exact absurd hsaw (ho.unseen hnone he value')
    · obtain rfl := List.mem_singleton.mp he
      rcases sawMetadata_singleton.mp hsaw with h | h
      · cases h
      · cases h
        simp

theorem Orderly.undone {next : StoreResult (.delete .privateKey) → StoreProg DeviceAuthMaterial}
    {r : StoreResult (.delete .privateKey)} (hc : c.RoundTrip)
    (hw : (secureStore c).Reaches emptyStore (w.afterCall pid policy (.delete .privateKey) next r
      (Function.update w.state .privateKey none)))
    (ht : w.threads pid = some ⟨policy, .call (.delete .privateKey) next⟩) (ho : Orderly c w) :
    Orderly c (w.afterCall pid policy (.delete .privateKey) next r
      (Function.update w.state .privateKey none)) := by
  have hhalf : HalfWay w pid := (halfWay_iff ht).mpr rfl
  obtain ⟨-, hnone⟩ := ho.halfWay pid hhalf
  have hnobody : ∀ q, ¬ HalfWay (w.afterCall pid policy (.delete .privateKey) next r
      (Function.update w.state .privateKey none)) q := by
    intro q hq
    by_cases hqp : q = pid
    · subst hqp
      exact not_halfWay_afterCall hc hw (fun _ h => nomatch h) (fun _ _ h => nomatch h) hq
    · exact hqp (ho.unique q pid ((halfWay_afterCall_ne hqp).mp hq) hhalf)
  constructor
  · exact ⟨by simp, by simp [hnone]⟩
  · intro q hq
    exact absurd hq (hnobody q)
  · intro q _ hq
    exact absurd hq (hnobody q)
  · intro h
    simp at h
  · intro e he value' hsaw
    rw [World.afterCall_log, List.mem_append] at he
    rcases he with he | he
    · exact absurd hsaw (ho.unseen hnone he value')
    · obtain rfl := List.mem_singleton.mp he
      rcases sawMetadata_singleton.mp hsaw with h | h <;> cases h

/-- A step of a call that is exclusive leaves the records, or saves a key where there is no
record, or ends what a key has begun. -/
theorem exec_exclusive (hc : c.RoundTrip) (hv : (secureStore c).Reaches emptyStore w)
    (ht : w.threads pid = some ⟨policy, .call op next⟩) (hx : w.state.exec choice op = some (r, s))
    (hexclusive : Exclusive w (.exec pid choice)) :
    (s = w.state ∧ (∀ key value, (⟨op, r⟩ : Entry StoreOp StoreResult) ≠ ⟨.save key value, .ok ()⟩) ∧
      ∀ key, op ≠ .delete key) ∨
    (∃ value, (⟨op, r⟩ : Entry StoreOp StoreResult) = ⟨.save .privateKey value, .ok ()⟩ ∧
      (w.state .privateKey = none ∧ w.state .identityMetadata = none) ∧
      s = Function.update w.state .privateKey (some value)) ∨
    (∃ value, (⟨op, r⟩ : Entry StoreOp StoreResult) = ⟨.save .identityMetadata value, .ok ()⟩ ∧
      s = Function.update w.state .identityMetadata (some value)) ∨
    op = .delete .privateKey ∧ s = Function.update w.state .privateKey none := by
  simp only [Exclusive, World.pending?_eq ht] at hexclusive
  rcases Records.exec_cases hx with ⟨hs, hsave, hdelete⟩ | ⟨key, value, heq, hfault, hs⟩ |
    ⟨key, rfl, hs⟩
  · refine .inl ⟨hs, hsave, fun key hop => ?_⟩
    subst hop
    exact hdelete key rfl hexclusive
  · obtain ⟨rfl, -⟩ := Sigma.mk.inj heq
    cases key with
    | privateKey => exact .inr (.inl ⟨value, heq, hexclusive hfault, hs⟩)
    | identityMetadata => exact .inr (.inr (.inl ⟨value, heq, hs⟩))
  · obtain ⟨rfl, -⟩ := storeOp_allowed hc hv ht
    exact .inr (.inr (.inr ⟨rfl, hs⟩))

theorem Orderly.afterCall (hc : c.RoundTrip) (hv : (secureStore c).Reaches emptyStore w)
    (hw : (secureStore c).Reaches emptyStore (w.afterCall pid policy op next r s))
    (ht : w.threads pid = some ⟨policy, .call op next⟩) (hx : w.state.exec choice op = some (r, s))
    (hexclusive : Exclusive w (.exec pid choice)) (ho : Orderly c w) :
    Orderly c (w.afterCall pid policy op next r s) := by
  rcases exec_exclusive hc hv ht hx hexclusive with ⟨rfl, hsave, hdelete⟩ |
    ⟨value, heq, hnone, rfl⟩ | ⟨value, heq, rfl⟩ | ⟨rfl, rfl⟩
  · exact ho.idle hc hv hw ht hx hsave hdelete
  · obtain ⟨rfl, hr⟩ := Sigma.mk.inj heq
    obtain rfl := eq_of_heq hr
    exact ho.savedKey hc hv ht hnone
  · obtain ⟨rfl, hr⟩ := Sigma.mk.inj heq
    obtain rfl := eq_of_heq hr
    exact ho.savedMetadata hc hv hw ht
  · exact ho.undone hc hw ht

theorem secureStore_starts (policy : DeviceSecurityPolicy) :
    ∃ next, (secureStore c).handler policy = .call (.load .privateKey) next := ⟨_, rfl⟩

theorem Orderly.init : Orderly c emptyStore := by
  have hnobody : ∀ pid, ¬ HalfWay emptyStore pid := fun pid h => nomatch h
  exact ⟨⟨fun _ h => (nomatch h), fun _ h => nomatch h⟩, fun pid h => absurd h (hnobody pid),
    fun pid _ h => absurd h (hnobody pid), fun h => (nomatch h), fun _ h => nomatch h⟩

theorem Orderly.step (hc : c.RoundTrip) {v : StoreWorld} {a : StoreAction}
    (hv : (secureStore c).Reaches emptyStore v) (hexclusive : Exclusive v a) (ho : Orderly c v) :
    Orderly c ((secureStore c).step v a) := by
  have hw := hv.trans _ (.step _ v a)
  rcases (secureStore c).step_cases v a with h | ⟨pid, policy, rfl, hp, h⟩ |
    ⟨pid, choice, policy, op, next, r, s', rfl, ht, hx, h⟩ | ⟨move, -, -⟩
  · rw [h]
    exact ho
  · -- A call that starts is not half way.
    have hsame : ∀ q, HalfWay ((secureStore c).step v (.spawn pid policy)) q ↔ HalfWay v q := by
      intro q
      rw [h]
      by_cases hq : q = pid
      · subst hq
        obtain ⟨next, hnext⟩ := secureStore_starts (c := c) policy
        simp [HalfWay, World.pending?, hp, hnext, StoreOp.closes]
      · simp [HalfWay, World.pending?, hq]
    have hstate : ((secureStore c).step v (.spawn pid policy)).state = v.state := by rw [h]
    have hlog : ((secureStore c).step v (.spawn pid policy)).log = v.log := by rw [h]
    constructor
    · rw [hstate]
      exact ho.sound
    · intro q hq
      rw [hstate]
      exact ho.halfWay q ((hsame q).mp hq)
    · intro q q' hq hq'
      exact ho.unique q q' ((hsame q).mp hq) ((hsame q').mp hq')
    · intro hkey hmetadata
      rw [hstate] at hkey hmetadata
      obtain ⟨q, hq⟩ := ho.owed hkey hmetadata
      exact ⟨q, (hsame q).mpr hq⟩
    · intro e he
      rw [hstate]
      exact ho.seen e (hlog ▸ he)
  · rw [h] at hw ⊢
    exact ho.afterCall hc hv hw ht hx hexclusive
  · exact move.elim

theorem orderly_run (hc : c.RoundTrip) {acts : List StoreAction}
    (hacts : (secureStore c).Along Exclusive emptyStore acts) :
    Orderly c ((secureStore c).run emptyStore acts) :=
  hacts.keeps (Orderly c) .init fun _ _ hv hexclusive ho => ho.step hc hv hexclusive

/-- The records are complete and name this identity. -/
def StoredAs (c : IdentityCrates) (s : Records) (identity : DeviceIdentity) : Prop :=
  ∃ key value metadata, s .privateKey = some key ∧ s .identityMetadata = some value ∧
    c.decode value = .ok metadata ∧
    identity = ⟨metadata.installId, metadata.deviceId, c.publicKey key⟩

theorem StoredAs.eq {s : Records} {identity identity' : DeviceIdentity} (h : StoredAs c s identity)
    (h' : StoredAs c s identity') : identity = identity' := by
  obtain ⟨key, value, metadata, hkey, hvalue, hdecode, rfl⟩ := h
  obtain ⟨key', value', metadata', hkey', hvalue', hdecode', rfl⟩ := h'
  obtain rfl : key = key' := Option.some.inj (hkey.symm.trans hkey')
  obtain rfl : value = value' := Option.some.inj (hvalue.symm.trans hvalue')
  obtain rfl : metadata = metadata' := Except.ok.inj (hdecode.symm.trans hdecode')
  rfl

/-- Complete records are there to stay. -/
theorem Orderly.keeps_complete (hc : c.RoundTrip) (hv : (secureStore c).Reaches emptyStore w)
    (ht : w.threads pid = some ⟨policy, .call op next⟩) (hx : w.state.exec choice op = some (r, s))
    (hexclusive : Exclusive w (.exec pid choice)) (ho : Orderly c w)
    (hcomplete : w.state .identityMetadata ≠ none) : s = w.state := by
  rcases exec_exclusive hc hv ht hx hexclusive with ⟨hs, -, -⟩ | ⟨value, -, hnone, -⟩ |
    ⟨value, heq, -⟩ | ⟨rfl, -⟩
  · exact hs
  · exact absurd hnone.2 hcomplete
  · obtain ⟨rfl, -⟩ := Sigma.mk.inj heq
    exact absurd (ho.halfWay pid ((halfWay_iff ht).mpr rfl)).2 hcomplete
  · exact absurd (ho.halfWay pid ((halfWay_iff ht).mpr rfl)).2 hcomplete

/-- The step with which a call answers is the load of the key, and the records name its answer. -/
theorem Orderly.answered (hc : c.RoundTrip)
    (hw : (secureStore c).Reaches emptyStore (w.afterCall pid policy op next r s))
    (hx : w.state.exec choice op = some (r, s)) (ho : Orderly c (w.afterCall pid policy op next r s))
    {material : DeviceAuthMaterial} (hanswer : next r = .ret material) :
    StoredAs c s material.identity := by
  have hspec := hw.meets (secureStore_meets hc)
    (World.afterCall_threads_self w pid policy op next r s)
  simp only [hanswer, meets_ret] at hspec
  obtain ⟨key, value, metadata, hlast, hsaw, hdecode, hidentity⟩ := hspec material rfl
  have hvalue : s .identityMetadata = some value := by
    rcases hsaw with hload | hsave
    · obtain ⟨e, he, -, hentry⟩ := mem_historyOf.mp hload
      exact ho.seen e he value (sawMetadata_singleton.mpr (.inl hentry))
    · obtain ⟨e, he, -, hentry⟩ := mem_historyOf.mp hsave
      exact ho.seen e he value (sawMetadata_singleton.mpr (.inr hentry))
  rw [World.history_afterCall_self, List.getLast?_concat] at hlast
  obtain ⟨rfl, hr⟩ := Sigma.mk.inj (Option.some.inj hlast)
  obtain rfl := eq_of_heq hr
  rcases Records.exec_cases hx with ⟨rfl, -⟩ | ⟨_, _, heq, -⟩ | ⟨_, hop, -⟩
  · exact ⟨key, value, metadata, Records.exec_load hx, hvalue, hdecode, hidentity⟩
  · cases heq
  · cases hop

/-- Every call answers the identity that the records name. -/
theorem finished_stored (hc : c.RoundTrip) {acts : List StoreAction}
    (hacts : (secureStore c).Along Exclusive emptyStore acts) {material : DeviceAuthMaterial}
    (hf : ((secureStore c).run emptyStore acts).Finished pid policy material) :
    StoredAs c ((secureStore c).run emptyStore acts).state material.identity := by
  suffices hI : Orderly c ((secureStore c).run emptyStore acts) ∧ ∀ pid policy material,
      ((secureStore c).run emptyStore acts).Finished pid policy material →
        StoredAs c ((secureStore c).run emptyStore acts).state material.identity from
    hI.2 pid policy material hf
  refine hacts.keeps (fun w => Orderly c w ∧ ∀ pid policy material,
    w.Finished pid policy material → StoredAs c w.state material.identity)
    ⟨.init, fun _ _ _ h => nomatch h⟩ ?_
  rintro v a hv hexclusive ⟨ho, hanswers⟩
  have ho' := ho.step hc hv hexclusive
  refine ⟨ho', fun q policy' material hf => ?_⟩
  have hw := hv.trans _ (.step _ v a)
  rcases (secureStore c).step_cases v a with h | ⟨pid, policy, rfl, hp, h⟩ |
    ⟨pid, choice, policy, op, next, r, s', rfl, ht, hx, h⟩ | ⟨move, -, -⟩
  · rw [h] at hf ⊢
    exact hanswers q policy' material hf
  · rw [h] at hf ⊢
    by_cases hq : q = pid
    · subst hq
      obtain ⟨next, hnext⟩ := secureStore_starts (c := c) policy
      simp [World.Finished, hnext] at hf
    · exact hanswers q policy' material (by simpa [World.Finished, hq] using hf)
  · rw [h] at hf ho' hw ⊢
    by_cases hq : q = pid
    · subst hq
      rw [World.Finished, World.afterCall_threads_self] at hf
      injection hf with hf
      injection hf with _ hanswer
      exact Orderly.answered hc hw hx ho' hanswer
    · rw [World.Finished, World.afterCall_threads_ne _ _ _ _ _ _ hq] at hf
      have hstored := hanswers q policy' material hf
      obtain ⟨key, value, metadata, -, hvalue, -⟩ := id hstored
      have hsame := ho.keeps_complete hc hv ht hx hexclusive (by simp [hvalue])
      rw [World.afterCall_state, hsame]
      exact hstored
  · exact move.elim

/-- The records are empty or complete. -/
def Records.Ready (c : IdentityCrates) (s : Records) : Prop :=
  s.Sound c ∧ ((s .privateKey).isSome → s .identityMetadata ≠ none)

/-- Choices under which no operation fails. -/
def drawing : StoreChoice := ⟨none, List.replicate 32 0, "0"⟩

theorem buildIdentity_ok {installId deviceId : String} (hinstall : isBlank installId = false)
    (hdevice : isBlank deviceId = false) {key : List UInt8} (hkey : key.length = 32) :
    buildIdentity c ⟨installId, deviceId, none, none, none⟩ key =
      .ok ⟨installId, deviceId, c.publicKey key⟩ := by
  simp [buildIdentity, privateKeyFrom, hkey, hinstall, hdevice]

/-- The rest of a call, once it has the identity of the stored key. -/
theorem mayReturn_signer {s : Records} {key : List UInt8} (hkey : s .privateKey = some key)
    (hlength : key.length = 32) (hp : policy.requireHardwareBacked = false)
    {installId deviceId : String} :
    (do
      let signingKey ← loadSigningKeyWith
      let signer : DeviceSigner := ⟨.ed25519DpapiV1, c.publicKey signingKey⟩
      ofExcept (enforceSecurityPolicy policy .dpapiSoftwareFallback)
      rejectIf (signer.publicKey ≠ c.publicKey key)
        (.corrupt "device signer does not match the stored identity")
      pure (⟨⟨installId, deviceId, c.publicKey key⟩, signer, .dpapiSoftwareFallback⟩ :
        DeviceAuthMaterial)).MayReturn (secureStore c).exec s := by
  simp only [loadSigningKeyWith, bind_assoc]
  refine mayReturn_request_bind (c := drawing) rfl ?_
  refine mayReturn_orReject_bind hkey (mayReturn_ofExcept_bind (a := key) ?_ ?_)
  · simp [privateKeyFrom, hlength]
  · refine mayReturn_ofExcept_bind (a := ()) (by simp [enforceSecurityPolicy, hp]) ?_
    exact mayReturn_rejectIf_bind (by simp) trivial

theorem Records.Ready.mayReturn (hc : c.RoundTrip) {s : Records} (hs : s.Ready c)
    (hp : policy.requireHardwareBacked = false) :
    ((secureStore c).handler policy).MayReturn (secureStore c).exec s := by
  simp only [secureStore, loadOrCreateDeviceMaterialWith]
  refine mayReturn_request_bind (c := drawing) rfl (mayReturn_request_bind (c := drawing) rfl ?_)
  obtain ⟨⟨hkey, hmetadata⟩, hcomplete⟩ := hs
  cases hv : s .identityMetadata with
  | none =>
    have hnone : s .privateKey = none := by
      by_contra hsome
      exact hcomplete (Option.isSome_iff_ne_none.mpr hsome) hv
    refine mayReturn_ofExcept_bind (a := none) rfl ?_
    rw [if_neg (by simp)]
    refine mayReturn_rejectIf_bind (by simp [hp]) ?_
    simp only [legacyDeviceMaterial, ensureDeviceIdentityWith, bind_assoc]
    refine mayReturn_request_bind (c := drawing) rfl (mayReturn_request_bind (c := drawing) rfl ?_)
    rw [hv, hnone]
    simp only [createDeviceIdentity, saveMetadataOrUndo, bind_assoc]
    obtain ⟨value, hencode, hne, hdecode⟩ := hc "0" "0"
    refine mayReturn_request_bind (c := drawing) rfl (mayReturn_request_bind (c := drawing) rfl
      (mayReturn_request_bind (c := drawing) rfl ?_))
    refine mayReturn_ofExcept_bind (mapError_eq_ok.mpr hencode) ?_
    refine mayReturn_request_bind (c := drawing) rfl ?_
    refine ⟨drawing, .ok (), Function.update (Function.update s .privateKey (some drawing.key))
      .identityMetadata (some value), by simp [Records.exec, drawing, hne], ?_⟩
    refine mayReturn_ofExcept_bind (buildIdentity_ok (by decide) (by decide) (by decide)) ?_
    exact mayReturn_signer (by simp) (by decide) hp
  | some value =>
    obtain ⟨hsome, installId, deviceId, hinstall, hdevice, -, hdecode⟩ := hmetadata value hv
    obtain ⟨key, hk⟩ := Option.isSome_iff_exists.mp hsome
    refine mayReturn_ofExcept_bind (a := some ⟨installId, deviceId, none, none, none⟩) ?_ ?_
    · simp [parseMetadata, hdecode, Except.mapError]
    rw [if_neg (by simp)]
    refine mayReturn_rejectIf_bind (by simp) ?_
    simp only [legacyDeviceMaterial, ensureDeviceIdentityWith, bind_assoc]
    refine mayReturn_request_bind (c := drawing) rfl (mayReturn_request_bind (c := drawing) rfl ?_)
    rw [hv, hk]
    simp only [bind_assoc]
    refine mayReturn_ofExcept_bind (mapError_eq_ok.mpr hdecode) ?_
    refine mayReturn_rejectIf_bind (by simp) ?_
    refine mayReturn_ofExcept_bind (buildIdentity_ok hinstall hdevice (hkey key hk)) ?_
    exact mayReturn_signer hk (hkey key hk) hp

/-- One step of the call that is half way, if there is one, makes the records ready. -/
theorem Orderly.ready (hc : c.RoundTrip) (hw : (secureStore c).Reaches emptyStore w)
    (ho : Orderly c w) {stopped : ℕ → Prop} (hstopped : ∀ q, stopped q → ¬ HalfWay w q)
    (hnew : w.threads pid = none) :
    ∃ acts : List StoreAction, (∀ a ∈ acts, ∀ q, a.pid? = some q → ¬ stopped q) ∧
      ((secureStore c).run w acts).state.Ready c ∧ ((secureStore c).run w acts).threads pid = none := by
  by_cases halone : (w.state .privateKey).isSome ∧ w.state .identityMetadata = none
  swap
  · exact ⟨[], by simp, ⟨ho.sound, fun hkey hnone => halone ⟨hkey, hnone⟩⟩, hnew⟩
  obtain ⟨q, hhalf⟩ := ho.owed halone.1 halone.2
  have hrunning : ∀ a ∈ [(.exec q drawing : StoreAction)], ∀ q', a.pid? = some q' → ¬ stopped q' := by
    intro a ha q' hq' hstop
    obtain rfl := List.mem_singleton.mp ha
    obtain rfl : q = q' := Option.some.inj hq'
    exact hstopped q hstop hhalf
  obtain ⟨op, hop, hcloses⟩ := (Option.any_eq_true _ _).mp hhalf
  obtain ⟨policy, next, ht⟩ := World.pending?_eq_some hop
  have hne : pid ≠ q := by
    rintro rfl
    rw [hnew] at ht
    cases ht
  have hallowed := storeOp_allowed hc hw ht
  have hexclusive : Exclusive w (.exec q drawing) := by
    simp only [Exclusive, hop]
    split
    · next heq =>
      cases heq
      cases hcloses
    · rfl
    · trivial
  have ho' := ho.step hc hw hexclusive
  refine ⟨[.exec q drawing], hrunning, ?_⟩
  cases op with
  | load key | generateKey | newUuid => cases hcloses
  | save key value =>
    cases key with
    | privateKey => cases hcloses
    | identityMetadata =>
      obtain ⟨⟨installId, deviceId, -, -, hmetadata⟩, -⟩ := hallowed
      have hx : (secureStore c).exec drawing w.state (.save .identityMetadata value) =
          some (.ok (), Function.update w.state .identityMetadata (some value)) := by
        simp [secureStore, Records.exec, drawing, hmetadata.nonempty]
      rw [System.run_cons, System.run_nil, System.step_exec ht hx]
      rw [System.step_exec ht hx] at ho'
      refine ⟨⟨ho'.sound, by simp⟩, ?_⟩
      rw [World.afterCall_threads_ne _ _ _ _ _ _ hne]
      exact hnew
  | delete key =>
    obtain ⟨rfl, -⟩ := hallowed
    have hx : (secureStore c).exec drawing w.state (.delete .privateKey) =
        some (.ok (), Function.update w.state .privateKey none) := rfl
    rw [System.run_cons, System.run_nil, System.step_exec ht hx]
    rw [System.step_exec ht hx] at ho'
    refine ⟨⟨ho'.sound, by simp⟩, ?_⟩
    rw [World.afterCall_threads_ne _ _ _ _ _ _ hne]
    exact hnew

/-- A call that starts where the records are ready may return. -/
theorem returns_of_ready (hc : c.RoundTrip) (hs : w.state.Ready c) (hnew : w.threads pid = none)
    (hp : policy.requireHardwareBacked = false) : ∃ (choices : List StoreChoice) (material : DeviceAuthMaterial),
      ((secureStore c).run w (.spawn pid policy :: choices.map (.exec pid))).Finished pid policy
        material := by
  obtain ⟨choices, h', material, s', halone⟩ := (hs.mayReturn hc hp).alone (h := [])
  refine ⟨choices, material, ?_⟩
  rw [System.run_cons, System.step_spawn hnew]
  exact System.run_alone (by simp) halone

/-- From every world of such a run some later call returns, whichever calls are stopped that
are not half way. -/
theorem later_call_returns (hc : c.RoundTrip) {acts : List StoreAction}
    (hacts : (secureStore c).Along Exclusive emptyStore acts) {stopped : ℕ → Prop}
    (hstopped : ∀ q, stopped q → ¬ HalfWay ((secureStore c).run emptyStore acts) q)
    (hnew : ((secureStore c).run emptyStore acts).threads pid = none) (hpid : ¬ stopped pid)
    (hp : policy.requireHardwareBacked = false) :
    ∃ acts' material, (∀ a ∈ acts', ∀ q, a.pid? = some q → ¬ stopped q) ∧
      ((secureStore c).run emptyStore (acts ++ acts')).Finished pid policy material := by
  have hw : (secureStore c).Reaches emptyStore ((secureStore c).run emptyStore acts) := .run _ _ acts
  obtain ⟨acts', hrunning, hready, hnew'⟩ := (orderly_run hc hacts).ready hc hw hstopped hnew
  obtain ⟨choices, material, hf⟩ := returns_of_ready hc hready hnew' hp
  refine ⟨acts' ++ .spawn pid policy :: choices.map (.exec pid), material, ?_, ?_⟩
  · intro a ha q hq
    rcases List.mem_append.mp ha with ha | ha
    · exact hrunning a ha q hq
    · have hself : q = pid := by
        rcases List.mem_cons.mp ha with rfl | ha
        · exact (Option.some.inj hq).symm
        · obtain ⟨choice, -, rfl⟩ := List.mem_map.mp ha
          exact (Option.some.inj hq).symm
      exact hself ▸ hpid
  · rw [System.run_append, System.run_append]
    exact hf

end Run

theorem device_identity_is_stable (c : IdentityCrates) (hc : c.RoundTrip) (acts : List StoreAction)
    (hacts : (secureStore c).Along Exclusive emptyStore acts) :
    (∀ pid pid' policy policy' material material',
      ((secureStore c).run emptyStore acts).Finished pid policy material →
      ((secureStore c).run emptyStore acts).Finished pid' policy' material' →
      material.identity = material'.identity) ∧
    ∀ (stopped : ℕ → Prop) (pid : ℕ) (policy : DeviceSecurityPolicy),
      (∀ q, stopped q → ¬ HalfWay ((secureStore c).run emptyStore acts) q) →
      ((secureStore c).run emptyStore acts).threads pid = none → ¬ stopped pid →
      policy.requireHardwareBacked = false →
      ∃ acts' material, (∀ a ∈ acts', ∀ q, a.pid? = some q → ¬ stopped q) ∧
        ((secureStore c).run emptyStore (acts ++ acts')).Finished pid policy material := by
  constructor
  · intro pid pid' policy policy' material material' hf hf'
    exact (finished_stored hc hacts hf).eq (finished_stored hc hacts hf')
  · intro stopped pid policy hstopped hnew hpid hp
    exact later_call_returns hc hacts hstopped hnew hpid hp

/-! ### A stopped creation -/

/-- The records hold a key alone, and no call but the stopped one has seen anything else. -/
structure Stuck (stopped : ℕ) (w : StoreWorld) : Prop where
  key : (w.state .privateKey).isSome
  metadata : w.state .identityMetadata = none
  others : ∀ e ∈ w.log, e.pid ≠ stopped → (∀ key value, e.op ≠ .save key value) ∧
    e.entry ≠ ⟨.load .privateKey, .ok none⟩ ∧ ∀ value, e.entry ≠ ⟨.load .identityMetadata, .ok (some value)⟩

theorem Stuck.unsaved {stopped pid : ℕ} {w : StoreWorld} (h : Stuck stopped w) (hpid : pid ≠ stopped)
    {key : StoreKey} {value : List UInt8} {r : StoreResult (.save key value)} :
    ⟨.save key value, r⟩ ∉ w.history pid := by
  intro hm
  obtain ⟨e, he, rfl, hentry⟩ := mem_historyOf.mp hm
  exact (h.others e he hpid).1 key value (congrArg Sigma.fst hentry)

theorem Stuck.step (hc : c.RoundTrip) {stopped : ℕ} {v : StoreWorld} {a : StoreAction}
    (hv : (secureStore c).Reaches emptyStore v) (ha : a.pid? ≠ some stopped) (h : Stuck stopped v) :
    Stuck stopped ((secureStore c).step v a) := by
  rcases (secureStore c).step_cases v a with heq | ⟨pid, policy, rfl, -, heq⟩ |
    ⟨pid, choice, policy, op, next, r, s', rfl, ht, hx, heq⟩ | ⟨move, -, -⟩
  · rw [heq]
    exact h
  · rw [heq]
    exact ⟨h.key, h.metadata, h.others⟩
  · have hpid : pid ≠ stopped := fun h => ha (congrArg some h)
    have hallowed := storeOp_allowed hc hv ht
    -- Only a call that has seen no key, or has saved one, writes.
    have hsave : ∀ key value, op ≠ .save key value := by
      rintro key value rfl
      cases key with
      | privateKey =>
        obtain ⟨e, he, rfl, hentry⟩ := mem_historyOf.mp hallowed.2
        exact (h.others e he hpid).2.1 hentry
      | identityMetadata =>
        obtain ⟨-, key, hlast⟩ := hallowed
        exact h.unsaved hpid (List.mem_of_getLast? hlast)
    have hdelete : ∀ key, op ≠ .delete key := by
      rintro key rfl
      obtain ⟨-, value, e, hlast⟩ := hallowed
      exact h.unsaved hpid (List.mem_of_getLast? hlast)
    obtain rfl : s' = v.state := by
      rcases Records.exec_cases hx with ⟨hs, -⟩ | ⟨key, value, hop, -⟩ | ⟨key, hop, -⟩
      · exact hs
      · exact absurd (congrArg Sigma.fst hop) (hsave key value)
      · exact absurd hop (hdelete key)
    rw [heq]
    refine ⟨h.key, h.metadata, fun e he hne => ?_⟩
    rw [World.afterCall_log, List.mem_append] at he
    rcases he with he | he
    · exact h.others e he hne
    · obtain rfl := List.mem_singleton.mp he
      refine ⟨hsave, fun hload => ?_, fun value hload => ?_⟩
      · obtain ⟨rfl, hr⟩ := Sigma.mk.inj hload
        obtain rfl := eq_of_heq hr
        have hkey := h.key
        rw [Records.exec_load hx] at hkey
        cases hkey
      · obtain ⟨rfl, hr⟩ := Sigma.mk.inj hload
        obtain rfl := eq_of_heq hr
        have hmetadata := h.metadata
        rw [Records.exec_load hx] at hmetadata
        cases hmetadata
  · exact move.elim

/-- Once a creation is stopped after its key, no other call returns. -/
theorem Stuck.never_returns (hc : c.RoundTrip) {stopped : ℕ} {w : StoreWorld}
    (hw : (secureStore c).Reaches emptyStore w) (h : Stuck stopped w) {acts : List StoreAction}
    (hacts : ∀ a ∈ acts, a.pid? ≠ some stopped) {pid : ℕ} (hpid : pid ≠ stopped)
    {policy : DeviceSecurityPolicy} {material : DeviceAuthMaterial} :
    ¬ ((secureStore c).run w acts).Finished pid policy material := by
  have halong : (secureStore c).Along (fun _ a => a.pid? ≠ some stopped) w acts := System.along_of_forall hacts
  have hstuck : Stuck stopped ((secureStore c).run w acts) :=
    halong.keeps (Stuck stopped) h fun v a hv ha hI => hI.step hc (hw.trans _ hv) ha
  intro hf
  have hspec := (hw.trans _ (.run _ w acts)).meets (secureStore_meets hc) hf
  obtain ⟨key, value, metadata, -, hsaw, -⟩ := hspec material rfl
  rcases hsaw with hload | hsave
  · obtain ⟨e, he, rfl, hentry⟩ := mem_historyOf.mp hload
    exact (hstuck.others e he hpid).2.2 value hentry
  · exact hstuck.unsaved hpid hsave

/-! ### Runs on fixed inputs -/

/-- A sample codec: numbers in unary, each ended by a zero. -/
def codeNumbers : List ℕ → List UInt8
  | [] => []
  | n :: l => List.replicate n 1 ++ 0 :: codeNumbers l

def readNumbers (n : ℕ) : List UInt8 → List ℕ
  | [] => []
  | b :: l => if b = 0 then n :: readNumbers 0 l else readNumbers (n + 1) l

theorem readNumbers_ones (n m : ℕ) (l : List UInt8) :
    readNumbers n (List.replicate m 1 ++ 0 :: l) = (n + m) :: readNumbers 0 l := by
  induction m generalizing n with
  | zero => simp [readNumbers]
  | succ m ih => simp [List.replicate_succ, readNumbers, ih, Nat.add_assoc, Nat.add_comm 1 m]

theorem readNumbers_codeNumbers (l : List ℕ) : readNumbers 0 (codeNumbers l) = l := by
  induction l with
  | nil => rfl
  | cons n l ih => simp [codeNumbers, readNumbers_ones, ih]

def sampleIdentityCrates : IdentityCrates where
  encode metadata := .ok (codeNumbers (metadata.installId.length ::
    (metadata.installId.toList ++ metadata.deviceId.toList).map Char.toNat))
  decode value := match readNumbers 0 value with
    | [] => .error "EOF while parsing a value"
    | n :: l => .ok ⟨String.ofList ((l.take n).map Char.ofNat),
        String.ofList ((l.drop n).map Char.ofNat), none, none, none⟩
  publicKey key := String.ofList (key.map fun b => Char.ofNat b.toNat)

theorem sampleIdentityCrates_roundTrip : sampleIdentityCrates.RoundTrip := by
  intro installId deviceId
  refine ⟨_, rfl, by simp [codeNumbers], ?_⟩
  have hchars : ∀ l : List Char, (l.map Char.toNat).map Char.ofNat = l := by
    intro l
    simp [Function.comp_def, Char.ofNat_toNat]
  simp only [sampleIdentityCrates, readNumbers_codeNumbers, ← List.map_take, ← List.map_drop, hchars,
    ← String.length_toList, List.take_left', List.drop_left', String.ofList_toList]

def launch (pid : ℕ) : StoreAction := .spawn pid ⟨false, false⟩

/-- `n` operations of one call, drawing this key and this identifier. -/
def operate (pid n : ℕ) (key : UInt8) (uuid : String) : List StoreAction :=
  List.replicate n (.exec pid ⟨none, List.replicate 32 key, uuid⟩)

/-- Two first launches have looked for the records before either has saved one. -/
def overlappingLaunches : List StoreAction :=
  launch 0 :: operate 0 4 65 "A" ++ launch 1 :: operate 1 4 66 "B" ++ operate 0 6 65 "A" ++
    operate 1 6 66 "B"

/-- A first launch has saved its key. -/
def interruptedLaunch : List StoreAction := launch 0 :: operate 0 8 65 "A"

theorem first_launches_break_identity :
    (¬ ∀ (c : IdentityCrates), c.RoundTrip → ∀ (acts : List StoreAction) (pid pid' : ℕ)
      (policy policy' : DeviceSecurityPolicy) (material material' : DeviceAuthMaterial),
      ((secureStore c).run emptyStore acts).Finished pid policy material →
      ((secureStore c).run emptyStore acts).Finished pid' policy' material' →
      material.identity = material'.identity) ∧
    ¬ ∀ (c : IdentityCrates), c.RoundTrip → ∀ (acts : List StoreAction) (stopped : ℕ → Prop)
      (pid : ℕ) (policy : DeviceSecurityPolicy),
      ((secureStore c).run emptyStore acts).threads pid = none → ¬ stopped pid →
      policy.requireHardwareBacked = false →
      ∃ acts' material, (∀ a ∈ acts', ∀ q, a.pid? = some q → ¬ stopped q) ∧
        ((secureStore c).run emptyStore (acts ++ acts')).Finished pid policy material := by
  constructor
  · intro hclaim
    have hfirst : (((secureStore sampleIdentityCrates).run emptyStore overlappingLaunches).answer?
        0).map (·.identity.deviceId) = some "A" := by
      decide +kernel
    have hsecond : (((secureStore sampleIdentityCrates).run emptyStore overlappingLaunches).answer?
        1).map (·.identity.deviceId) = some "B" := by
      decide +kernel
    obtain ⟨material, hm, hdevice⟩ := Option.map_eq_some_iff.mp hfirst
    obtain ⟨material', hm', hdevice'⟩ := Option.map_eq_some_iff.mp hsecond
    obtain ⟨policy, hf⟩ := World.finished_of_answer? hm
    obtain ⟨policy', hf'⟩ := World.finished_of_answer? hm'
    have hsame := hclaim _ sampleIdentityCrates_roundTrip _ _ _ _ _ _ _ hf hf'
    rw [hsame, hdevice'] at hdevice
    exact absurd hdevice (by decide)
  · intro hclaim
    let w := (secureStore sampleIdentityCrates).run emptyStore interruptedLaunch
    have hstuck : Stuck 0 w := by
      have hkey : (w.state .privateKey).isSome = true := by decide +kernel
      have hmetadata : w.state .identityMetadata = none := by decide +kernel
      have halone : ∀ e ∈ w.log, e.pid = 0 := by decide +kernel
      exact ⟨hkey, hmetadata, fun e he hne => absurd (halone e he) hne⟩
    have hnew : (w.threads 1).isNone = true := by decide +kernel
    obtain ⟨acts', material, hothers, hf⟩ := hclaim _ sampleIdentityCrates_roundTrip interruptedLaunch
      (fun q => q = 0) 1 ⟨false, false⟩ (Option.isNone_iff_eq_none.mp hnew) (by decide) rfl
    rw [System.run_append] at hf
    exact hstuck.never_returns sampleIdentityCrates_roundTrip (.run _ _ _)
      (fun a ha heq => hothers a ha 0 heq rfl) (by decide) hf

/-- One launch after the other. -/
def successiveLaunches : List StoreAction :=
  launch 0 :: operate 0 10 65 "A" ++ launch 1 :: operate 1 5 66 "B"

theorem device_identity_is_stable_relaunched :
    ∃ material material', ((secureStore sampleIdentityCrates).run emptyStore
        successiveLaunches).Finished 0 ⟨false, false⟩ material ∧
      ((secureStore sampleIdentityCrates).run emptyStore successiveLaunches).Finished 1
        ⟨false, false⟩ material' ∧ material.identity = material'.identity := by
  have hacts : (secureStore sampleIdentityCrates).Along Exclusive emptyStore successiveLaunches := by
    decide +kernel
  have hfirst : (((secureStore sampleIdentityCrates).run emptyStore successiveLaunches).answer?
      0).isSome = true := by
    decide +kernel
  have hsecond : (((secureStore sampleIdentityCrates).run emptyStore successiveLaunches).answer?
      1).isSome = true := by
    decide +kernel
  obtain ⟨material, hm⟩ := Option.isSome_iff_exists.mp hfirst
  obtain ⟨material', hm'⟩ := Option.isSome_iff_exists.mp hsecond
  have hf : ((secureStore sampleIdentityCrates).run emptyStore successiveLaunches).Finished 0
      ⟨false, false⟩ material := World.finished_iff.mpr ⟨by decide +kernel, hm⟩
  have hf' : ((secureStore sampleIdentityCrates).run emptyStore successiveLaunches).Finished 1
      ⟨false, false⟩ material' := World.finished_iff.mpr ⟨by decide +kernel, hm'⟩
  exact ⟨material, material', hf, hf', (device_identity_is_stable _ sampleIdentityCrates_roundTrip _
    hacts).1 _ _ _ _ _ _ hf hf'⟩

end JustRun.Desktop
