import JustRun.Guest.Upgrade

/-!
# Execution grants in the guest

`services/qemu_guest.py`: the checks of a request, of its signed grant and of the signed
receipt that stands in a marker. What is built into the artifact and what the tools of the
node answer are the fields of `Artifact`.
-/
namespace JustRun.Guest
open Machine

/-- A member of a JSON object, as far as the checks look at it. -/
inductive Field where
  | text (value : String)
  | int (value : ℤ)
  | other (truthy : Bool)
  deriving DecidableEq

abbrev Members := List (String × Field)

/-- `bool(value)`. -/
def Field.truthy : Field → Bool
  | text value => value ≠ ""
  | int value => value ≠ 0
  | other truthy => truthy

/-- A `value` with `isinstance(value, str)`. -/
def Field.asText : Field → Option String
  | text value => some value
  | _ => none

def Field.isText (value : Field) : Bool := value.asText.isSome

/-- `len(value)` of a string. -/
def Field.length : Field → ℕ
  | text value => value.length
  | _ => 0

/-- `parse` answers no object with `some none`, no JSON with `none`. -/
structure Artifact where
  keyId : String
  sha256 : String
  decodeBase64 : String → Option (List UInt8)
  verifies : (payload signature : List UInt8) → Bool
  parse : List UInt8 → Option (Option Members)

def executionGrantIssuer : String := "rdc-auth"
def executionGrantAudience : String := "rdc-guest-runner"
def executionAuthorizationAudience : String := "rdc-qemu-center"
def executionGrantClockSkewSecs : ℤ := 300
def executionGrantMaxRequestAgeSecs : ℤ := 300
def maxExecutionGrantFieldBytes : ℕ := 256
def maxExecutionGrantPayloadBytes : ℕ := 64 * 1024

/-- `_decode_urlsafe_base64`. -/
def decodeUrlsafeBase64 (art : Artifact) (value : Option Field) (label : String) (maxBytes : ℕ) :
    Except String (List UInt8) := do
  let value ← orFail (value.bind Field.asText) ("Invalid execution grant " ++ label)
  failIf (value = "") ("Invalid execution grant " ++ label)
  failIf ((maxBytes + 2) / 3 * 4 + 4 < value.length) ("Execution grant " ++ label ++ " is too large")
  let decoded ← orFail (art.decodeBase64 value) ("Invalid execution grant " ++ label)
  failIf (maxBytes < decoded.length) ("Execution grant " ++ label ++ " is too large")
  return decoded

/-- The payload of a signed document, and the texts of its refusals. -/
def signedPayload (art : Artifact) (document : Members)
    (payloadLabel signatureLabel badLength badSignature : String) : Except String (List UInt8) := do
  let payload ← decodeUrlsafeBase64 art (document.lookup "payload") payloadLabel
    maxExecutionGrantPayloadBytes
  let signature ← decodeUrlsafeBase64 art (document.lookup "signature") signatureLabel 64
  failIf (signature.length ≠ 64) badLength
  failIf (!art.verifies payload signature) badSignature
  return payload

/-- `any(not claims.get(field) for field in required)`. -/
def incomplete (members : Members) (required : List String) : Bool :=
  required.any fun field => !(members.lookup field).any Field.truthy

def intMember (members : Members) (field : String) (error : String) : Except String ℤ :=
  match members.lookup field with
  | some (.int value) => .ok value
  | _ => .error error

def grantStringFields : List String :=
  ["iss", "aud", "client_id", "device_id", "session_id", "client_version", "artifact_id",
    "artifact_sha256", "action", "vm", "instance", "jti", "nonce"]

def grantLimitedFields : List String :=
  ["client_id", "device_id", "session_id", "client_version", "artifact_id", "action", "vm",
    "instance", "jti", "nonce"]

def verifyExecutionGrant (art : Artifact) (now : ℤ) (grant : Option Members)
    (expectedWorkflow expectedVm expectedInstance : String) : Except String Members := do
  let grant ← orFail grant "A signed execution grant is required"
  failIf (!(grant.lookup "device_proof").any fun proof => proof.isText && proof.truthy)
    "Execution grant device proof is required"
  failIf (grant.lookup "key_id" ≠ some (.text art.keyId)) "Execution grant key is not trusted"
  let payload ← signedPayload art grant "payload" "signature" "Invalid execution grant signature"
    "Execution grant signature is invalid"
  let document ← orFail (art.parse payload) "Execution grant payload is invalid"
  let claims ← orFail document "Execution grant payload is not an object"
  failIf (incomplete claims ("iat" :: "exp" :: grantStringFields)) "Execution grant payload is incomplete"
  failIf (grantStringFields.any fun field => !(claims.lookup field).any Field.isText)
    "Execution grant payload is incomplete"
  failIf (grantLimitedFields.any fun field =>
      (claims.lookup field).any fun value => maxExecutionGrantFieldBytes < value.length)
    "Execution grant payload field is too large"
  failIf (claims.lookup "iss" ≠ some (.text executionGrantIssuer) ||
      claims.lookup "aud" ≠ some (.text executionGrantAudience))
    "Execution grant issuer or audience is invalid"
  let iat ← intMember claims "iat" "Execution grant timestamps are invalid"
  let exp ← intMember claims "exp" "Execution grant timestamps are invalid"
  failIf (exp ≤ now || iat < now - executionGrantMaxRequestAgeSecs ||
      now + executionGrantClockSkewSecs < iat) "Execution grant is expired or not yet valid"
  failIf (exp ≤ iat) "Execution grant expiry is invalid"
  failIf (claims.lookup "action" ≠ some (.text expectedWorkflow) ||
      claims.lookup "vm" ≠ some (.text expectedVm) ||
      claims.lookup "instance" ≠ some (.text expectedInstance))
    "Execution grant is bound to another operation"
  failIf (((claims.lookup "artifact_sha256").any fun value => value.length ≠ 64) ||
      claims.lookup "artifact_sha256" ≠ some (.text art.sha256))
    "Execution grant is bound to another core artifact"
  return claims

def receiptRequiredFields : List String :=
  ["iss", "aud", "client_id", "device_id", "session_id", "client_version", "artifact_id",
    "artifact_sha256", "action", "vm", "instance", "grant_jti", "iat", "exp"]

/-- The fields that a receipt shares with its grant. -/
def receiptSharedFields : List String :=
  ["client_id", "device_id", "session_id", "client_version", "artifact_id", "artifact_sha256",
    "action", "vm", "instance"]

/-- `_verify_execution_authorization_receipt`. -/
def verifyReceipt (art : Artifact) (now : ℤ) (receipt claims : Members) : Except String Members := do
  failIf (receipt.lookup "key_id" ≠ some (.text art.keyId))
    "Execution authorization receipt key is not trusted"
  let payload ← signedPayload art receipt "authorization receipt payload"
    "authorization receipt signature" "Invalid execution authorization receipt signature"
    "Execution authorization receipt signature is invalid"
  let document ← orFail (art.parse payload) "Execution authorization receipt payload is invalid"
  let receiptClaims ← orFail document "Execution authorization receipt payload is incomplete"
  failIf (incomplete receiptClaims receiptRequiredFields)
    "Execution authorization receipt payload is incomplete"
  failIf (receiptClaims.lookup "iss" ≠ some (.text executionGrantIssuer) ||
      receiptClaims.lookup "aud" ≠ some (.text executionAuthorizationAudience))
    "Execution authorization receipt issuer or audience is invalid"
  let iat ← intMember receiptClaims "iat" "Execution authorization receipt timestamps are invalid"
  let exp ← intMember receiptClaims "exp" "Execution authorization receipt timestamps are invalid"
  failIf (exp ≤ now || now + executionGrantClockSkewSecs < iat || exp ≤ iat)
    "Execution authorization receipt is expired or not yet valid"
  failIf (receiptSharedFields.any fun field => receiptClaims.lookup field ≠ claims.lookup field)
    "Execution authorization receipt is bound to another operation"
  failIf (receiptClaims.lookup "grant_jti" ≠ claims.lookup "jti")
    "Execution authorization receipt is bound to another grant"
  return receiptClaims

/-- What a signed document says. -/
def signedDocument (art : Artifact) (document : Members) : Option Members :=
  ((((document.lookup "payload").bind Field.asText).bind art.decodeBase64).bind art.parse).join

/-- The identifier a grant is consumed under. -/
def grantJti (art : Artifact) (grant : Members) : Option Field :=
  (signedDocument art grant).bind fun claims => claims.lookup "jti"

theorem signedPayload_ok {art : Artifact} {document : Members} {label label' text text' : String}
    {payload : List UInt8} (h : signedPayload art document label label' text text' = .ok payload) :
    ((document.lookup "payload").bind Field.asText).bind art.decodeBase64 = some payload := by
  simp only [signedPayload, bind_eq_ok, decodeUrlsafeBase64, failIf_eq_ok, orFail_eq_ok] at h
  obtain ⟨payload', ⟨value, hvalue, -, -, -, -, decoded, hdecoded, -, -, hpayload⟩, -, -, -, -, -, -,
    hret⟩ := h
  cases hret
  cases hpayload
  rw [hvalue, Option.bind_some, hdecoded]

theorem signedDocument_eq {art : Artifact} {document claims : Members} {payload : List UInt8}
    (hpayload : ((document.lookup "payload").bind Field.asText).bind art.decodeBase64 = some payload)
    (hparse : art.parse payload = some (some claims)) : signedDocument art document = some claims := by
  rw [signedDocument, hpayload, Option.bind_some, hparse, Option.join_some]

/-- A verified grant says its claims, and has an identifier. -/
theorem verifyExecutionGrant_ok {art : Artifact} {now : ℤ} {grant : Option Members}
    {workflow vm inst : String} {claims : Members}
    (h : verifyExecutionGrant art now grant workflow vm inst = .ok claims) :
    ∃ g, grant = some g ∧ signedDocument art g = some claims ∧
      ∃ jti, claims.lookup "jti" = some jti := by
  simp only [verifyExecutionGrant, bind_eq_ok, failIf_eq_ok, orFail_eq_ok] at h
  obtain ⟨g, hg, -, -, -, -, payload, hpayload, document, hparse, claims', rfl, -, hcomplete, -, -,
    -, -, -, -, iat, -, exp, -, -, -, -, -, -, -, -, -, hret⟩ := h
  cases hret
  refine ⟨g, hg, signedDocument_eq (signedPayload_ok hpayload) hparse, ?_⟩
  rw [incomplete, List.any_eq_false] at hcomplete
  have hjti := hcomplete "jti" (by simp [grantStringFields])
  cases hlookup : List.lookup "jti" claims with
  | none => simp [hlookup] at hjti
  | some jti => exact ⟨jti, rfl⟩

/-- A verified receipt agrees with the claims it was verified for. -/
theorem verifyReceipt_ok {art : Artifact} {now : ℤ} {receipt claims receiptClaims : Members}
    (h : verifyReceipt art now receipt claims = .ok receiptClaims) :
    signedDocument art receipt = some receiptClaims ∧
      (∀ field ∈ receiptSharedFields, receiptClaims.lookup field = claims.lookup field) ∧
      receiptClaims.lookup "grant_jti" = claims.lookup "jti" := by
  simp only [verifyReceipt, bind_eq_ok, failIf_eq_ok, orFail_eq_ok] at h
  obtain ⟨-, -, payload, hpayload, document, hparse, receiptClaims', rfl, -, -, -, -, iat, -, exp, -, -,
    -, -, hshared, -, hjti, hret⟩ := h
  cases hret
  refine ⟨signedDocument_eq (signedPayload_ok hpayload) hparse, fun field hfield => ?_, by simpa using hjti⟩
  rw [List.any_eq_false] at hshared
  simpa using hshared field hfield

/-! ### The request -/

inductive GuestAction where
  | authorize
  | activate
  | build
  | seed
  | upgrade
  | restore
  | details
  deriving DecidableEq

def GuestAction.ofText : String → Option GuestAction
  | "authorize" => some authorize
  | "activate" => some activate
  | "build" => some build
  | "seed" => some seed
  | "upgrade" => some upgrade
  | "restore" => some restore
  | "details" => some details
  | _ => none

/-- The action that the grant has to name. -/
def GuestAction.workflow : GuestAction → String
  | details => "preset_details"
  | restore => "preset_restore"
  | _ => "preset_apply"

/-- A path as it is written and as the node resolves it. -/
structure ContextPath where
  raw : String
  resolved : List String

structure RunnerRequest where
  action : String
  body : Request
  vm : String
  executionInstance : Option String
  executionGrant : Option Members
  executionAuthorizationPath : Option String
  context : Option ContextPath
  /-- The resolved directory of the request file. -/
  directory : List String
  baseImage : Option String

/-- `re.fullmatch` of a class of characters with bounds on their number. -/
def matchesClass (p : Char → Bool) (least most : ℕ) (s : String) : Bool :=
  s.toList.all p && decide (least ≤ s.length) && decide (s.length ≤ most)

def isAsciiAlnum (c : Char) : Bool := ('a' ≤ c && c ≤ 'z') || ('A' ≤ c && c ≤ 'Z') || ('0' ≤ c && c ≤ '9')

def executionAuthorizationRoot : List String := ["run", "rdc-presets"]

/-- `image.partition("@sha256:")`, the first occurrence. -/
def partitionDigest (image : String) : Option (String × String) :=
  let mark := "@sha256:".toList
  ((List.range (image.length + 1)).find? fun i => mark.isPrefixOf (image.toList.drop i)).map fun i =>
    (String.ofList (image.toList.take i), String.ofList (image.toList.drop (i + mark.length)))

def validateImmutableImageRef (image : Option String) : Except String Unit := do
  let image ← orFail image "Protected image must use a complete SHA-256 digest"
  let parts ← orFail (partitionDigest image) "Protected image must use a complete SHA-256 digest"
  failIf (!(parts.1.toList.head?.any isAsciiAlnum && parts.1.toList.all fun c =>
      isAsciiAlnum c || "._/:~-".toList.contains c)) "Protected image must use a complete SHA-256 digest"
  failIf (!(isAsciiHex parts.2 && parts.2.length = 64)) "Protected image must use a complete SHA-256 digest"

def validateContext (request : RunnerRequest) : Except String Unit :=
  match request.context with
  | none => .ok ()
  | some context => do
    failIf (512 < context.raw.length || context.raw.toList.head? ≠ some '/') "Build context path is invalid"
    failIf (!executionAuthorizationRoot.isPrefixOf context.resolved)
      "Build context path is outside the protected root"
    failIf (context.resolved ≠ request.directory) "Build context path does not match the request directory"

def validateBaseImage (request : RunnerRequest) (action : GuestAction) : Except String Unit :=
  if action = .build then validateImmutableImageRef request.baseImage else .ok ()

def validateRunnerRequest (request : RunnerRequest) : Except String GuestAction := do
  let action ← orFail (GuestAction.ofText request.action) "Unknown guest action"
  failIf (64 < request.body.moduleIds.length || request.body.moduleIds.any fun value =>
      !matchesClass (fun c => isAsciiAlnum c || "_.-".toList.contains c) 1 100 value)
    "Invalid module id list"
  failIf (64 < request.body.expectedProps.length || request.body.expectedProps.any fun prop =>
      !matchesClass (fun c => isAsciiAlnum c || "_.-".toList.contains c) 1 128 prop.1 ||
        decide (512 < prop.2.length)) "Invalid expected property map"
  failIf (128 < request.body.hidePackages.length || request.body.hidePackages.any fun value =>
      !matchesClass (fun c => isAsciiAlnum c || "._$".toList.contains c) 1 128 value)
    "Invalid hidden package list"
  validateContext request
  validateBaseImage request action
  return action

/-- `re.fullmatch(r"[a-z0-9][a-z0-9-]{0,23}", name)`. -/
def isInstanceName (name : String) : Bool :=
  let ok := fun c : Char => ('a' ≤ c && c ≤ 'z') || ('0' ≤ c && c ≤ '9')
  name.toList.head?.any ok && (name.toList.all fun c => ok c || c = '-') && decide (name.length ≤ 24)

/-- `Path(raw).name`. -/
def pathName (raw : String) : Option String :=
  ((splitOn '/' raw).filter fun part => part ≠ "" && part ≠ ".").getLast?

/-- `_execution_authorization_marker`. -/
def executionAuthorizationMarker (request : RunnerRequest) : Except String String := do
  let raw ← orFail request.executionAuthorizationPath "Execution authorization marker is required"
  failIf (isBlank raw) "Execution authorization marker is required"
  let normalized := raw.toList.map fun c => if c = '\\' then '/' else c
  failIf (!"/run/rdc-presets/".toList.isPrefixOf normalized ||
      decide ("/../".toList <:+: normalized) || "/..".toList.isSuffixOf normalized)
    "Execution authorization marker path is invalid"
  failIf (pathName raw ≠ some "execution-authorized") "Execution authorization marker name is invalid"
  return raw

end JustRun.Guest
