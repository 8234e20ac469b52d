import JustRun.Desktop.Client
import JustRun.Concurrency.Interleaving

/-!
# The device identity in the secure store

`services/secure_store.rs` on the portable path: the identity is a private key and a
metadata record, loaded and saved one at a time. Calls of any number of launches
share the store. A store operation may fail, and then leaves the record as it was; a
call that is stopped makes no further step.
-/
namespace JustRun.Desktop
open Machine Authorization Concurrency Concurrency.Prog

inductive SecureStoreError where
  | invalidKey
  | emptyValue
  | io (detail : String)
  | protection (detail : String)
  | unprotection (detail : String)
  | corrupt (detail : String)
  | unsupported
  deriving DecidableEq

structure IdentityMetadata where
  installId : String
  deviceId : String
  clientKeyAlgorithm : Option ClientKeyAlgorithm
  publicKey : Option String
  cngKeyName : Option String
  deriving DecidableEq

structure DeviceSecurityPolicy where
  preferCng : Bool
  requireHardwareBacked : Bool
  deriving DecidableEq

/-- `PRIVATE_KEY_KEY` and `IDENTITY_METADATA_KEY`. -/
inductive StoreKey where
  | privateKey
  | identityMetadata
  deriving DecidableEq

/-- What `serde_json` and the key pair crate answer. -/
structure IdentityCrates where
  encode : IdentityMetadata → Except String (List UInt8)
  decode : List UInt8 → Except String IdentityMetadata
  publicKey : List UInt8 → String

/-- JSON of a new metadata record is not empty and reads back. -/
def IdentityCrates.RoundTrip (c : IdentityCrates) : Prop :=
  ∀ installId deviceId, ∃ bytes, c.encode ⟨installId, deviceId, none, none, none⟩ = .ok bytes ∧
    bytes ≠ [] ∧ c.decode bytes = .ok ⟨installId, deviceId, none, none, none⟩

inductive StoreOp where
  | load (key : StoreKey)
  | save (key : StoreKey) (value : List UInt8)
  | delete (key : StoreKey)
  | generateKey
  | newUuid
  deriving DecidableEq

abbrev StoreOp.Val : StoreOp → Type
  | load _ => Option (List UInt8)
  | save .. | delete _ => Unit
  | generateKey => List UInt8
  | newUuid => String

abbrev StoreResult (op : StoreOp) : Type := Except SecureStoreError op.Val

abbrev StoreProg := Prog StoreOp StoreResult SecureStoreError

abbrev StoreHistory := List (Entry StoreOp StoreResult)

abbrev Records := StoreKey → Option (List UInt8)

/-- Whether a store operation fails, and what is drawn. -/
structure StoreChoice where
  fault : Option SecureStoreError := none
  key : List UInt8 := []
  uuid : String := ""

namespace Records
variable (s : Records)

/-- One operation; a signing key has 32 bytes and the text of a UUID is not blank. -/
def exec (choice : StoreChoice) : (op : StoreOp) → Option (StoreResult op × Records)
  | .load key => match choice.fault with
    | some e => some (.error e, s)
    | none => some (.ok (s key), s)
  | .save key value => match choice.fault with
    | some e => some (.error e, s)
    | none => if value = [] then some (.error .emptyValue, s)
      else some (.ok (), Function.update s key (some value))
  | .delete key => match choice.fault with
    | some e => some (.error e, s)
    | none => some (.ok (), Function.update s key none)
  | .generateKey => if choice.key.length = 32 then some (.ok choice.key, s) else none
  | .newUuid => if isBlank choice.uuid then none else some (.ok choice.uuid, s)

end Records

/-- `store.op(..)?`. -/
def onStore (op : StoreOp) : StoreProg op.Val := request op

def privateKeyFrom (value : List UInt8) : Except SecureStoreError (List UInt8) :=
  if value.length = 32 then .ok value
  else .error (.corrupt "device private key must be exactly 32 bytes")

section Programs
variable (c : IdentityCrates)

def buildIdentity (metadata : IdentityMetadata) (privateKey : List UInt8) :
    Except SecureStoreError DeviceIdentity := do
  let keyBytes ← privateKeyFrom privateKey
  if isBlank metadata.installId || isBlank metadata.deviceId then
    .error (.corrupt "device identity metadata contains an empty ID")
  else .ok ⟨metadata.installId, metadata.deviceId, c.publicKey keyBytes⟩

def parseMetadata (value : List UInt8) : Except SecureStoreError IdentityMetadata :=
  (c.decode value).mapError .corrupt

/-- The undo of a failed save is attempted once. -/
def saveMetadataOrUndo (value : List UInt8) : StoreProg Unit :=
  .call (.save .identityMetadata value) fun
    | .ok () => pure ()
    | .error e => .call (.delete .privateKey) fun _ => .fail e

def createDeviceIdentity : StoreProg DeviceIdentity := do
  let signingKey ← onStore .generateKey
  let installId ← onStore .newUuid
  let deviceId ← onStore .newUuid
  let metadata : IdentityMetadata := ⟨installId, deviceId, none, none, none⟩
  let metadataBytes ← ofExcept ((c.encode metadata).mapError .corrupt)
  onStore (.save .privateKey signingKey)
  saveMetadataOrUndo metadataBytes
  ofExcept (buildIdentity c metadata signingKey)

def ensureDeviceIdentityWith : StoreProg DeviceIdentity := do
  let privateKey ← onStore (.load .privateKey)
  let metadata ← onStore (.load .identityMetadata)
  match privateKey, metadata with
  | none, none => createDeviceIdentity c
  | some privateKey, some metadata => do
    let metadata ← ofExcept (parseMetadata c metadata)
    rejectIf (metadata.clientKeyAlgorithm = some .ecdsaP256CngV1)
      (.corrupt "CNG identity cannot be loaded through the DPAPI compatibility path")
    ofExcept (buildIdentity c metadata privateKey)
  | some _, none | none, some _ => .fail (.corrupt "device key and identity metadata are incomplete")

def loadSigningKeyWith : StoreProg (List UInt8) := do
  let stored ← onStore (.load .privateKey)
  let privateKey ← orReject stored (.corrupt "device private key is missing")
  ofExcept (privateKeyFrom privateKey)

def enforceSecurityPolicy (policy : DeviceSecurityPolicy) (level : DeviceSecurityLevel) :
    Except SecureStoreError Unit :=
  if policy.requireHardwareBacked && level ≠ .hardwareBacked then .error .unsupported else .ok ()

def legacyDeviceMaterial (policy : DeviceSecurityPolicy) : StoreProg DeviceAuthMaterial := do
  let identity ← ensureDeviceIdentityWith c
  let signingKey ← loadSigningKeyWith
  let signer : DeviceSigner := ⟨.ed25519DpapiV1, c.publicKey signingKey⟩
  ofExcept (enforceSecurityPolicy policy .dpapiSoftwareFallback)
  rejectIf (signer.publicKey ≠ identity.publicKey)
    (.corrupt "device signer does not match the stored identity")
  pure ⟨identity, signer, .dpapiSoftwareFallback⟩

/-- Without a CNG provider. -/
def loadOrCreateDeviceMaterialWith (policy : DeviceSecurityPolicy) : StoreProg DeviceAuthMaterial := do
  let privateKey ← onStore (.load .privateKey)
  let stored ← onStore (.load .identityMetadata)
  let metadata ← ofExcept (stored.mapM (parseMetadata c))
  if metadata.bind (·.clientKeyAlgorithm) = some .ecdsaP256CngV1 then do
    rejectIf privateKey.isSome
      (.corrupt "CNG identity unexpectedly contains a DPAPI private key")
    .fail .unsupported
  else do
    rejectIf (privateKey.isNone && metadata.isNone && policy.preferCng && policy.requireHardwareBacked)
      .unsupported
    legacyDeviceMaterial c policy

end Programs

/-- The calls of all launches. Nobody else touches the records. -/
def secureStore (c : IdentityCrates) :
    System Records DeviceSecurityPolicy StoreOp StoreResult SecureStoreError DeviceAuthMaterial
      StoreChoice Empty where
  handler := loadOrCreateDeviceMaterialWith c
  exec choice s op := s.exec choice op
  env move := nomatch move

abbrev StoreWorld :=
  World Records DeviceSecurityPolicy StoreOp StoreResult SecureStoreError DeviceAuthMaterial

abbrev StoreAction := Action DeviceSecurityPolicy StoreChoice Empty

/-- The first launch finds no record. -/
def emptyStore : StoreWorld := .init fun _ => none

end JustRun.Desktop
