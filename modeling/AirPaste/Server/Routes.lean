/-
# Server.Routes — the HTTP surface of the device and pairing tables

A request passes `require_auth`, which admits it with the device whose signature
it verified or with none, and is then dispatched to its handler.  Handlers that
take a `TrustedDevice` fail without a verified device.  A request is served
alone.

`Crates` collects what the handlers call outside the repository: the hash, the
base64 and RFC 3339 decoders, Ed25519, percent-decoding of path parameters, and
the extraction of JSON bodies.
-/
import AirPaste.Protocol.Api
import AirPaste.Protocol.Http
import AirPaste.Server.NonceCache
import AirPaste.Server.Store
import AirPaste.Theory.Check

namespace AirPaste.Server

open AirPaste.Core
open AirPaste.Protocol
open AirPaste.Theory

set_option autoImplicit false

structure ApiError where
  status : Nat
  message : String
  deriving DecidableEq, Repr

namespace ApiError

def badRequest (message : String) : ApiError := ⟨400, message⟩
def unauthorized (message : String) : ApiError := ⟨401, message⟩
def forbidden (message : String) : ApiError := ⟨403, message⟩
def notFound (message : String) : ApiError := ⟨404, message⟩

def fromStore : StoreError → ApiError
  | .notFound => .notFound "not found"

end ApiError

abbrev ApiResult (α : Type) := Except ApiError α

structure HttpRequest where
  method : String
  path : String
  query : Option String
  headers : HeaderMap
  /-- `none` when the body breaks off. -/
  body : Option (List UInt8)
  deriving DecidableEq

def HttpRequest.pathAndQuery (request : HttpRequest) : String :=
  match request.query with
  | none => request.path
  | some query => request.path ++ "?" ++ query

/-- The external functions the handlers call. -/
structure Crates where
  sha256 : List UInt8 → List UInt8
  /-- `STANDARD.decode`. -/
  base64Decode : String → Option (List UInt8)
  /-- `VerifyingKey::from_bytes` succeeds. -/
  isVerifyingKey : List UInt8 → Bool
  /-- `verify`, of a key, a message and a signature. -/
  ed25519Verify : List UInt8 → String → List UInt8 → Bool
  /-- `DateTime::parse_from_rfc3339`. -/
  parseFromRfc3339 : String → Option Timestamp
  /-- The `Path` extractor, of the matched segment. -/
  pathParam : String → ApiResult String
  /-- The `Json` extractors. -/
  registerDeviceBody : HttpRequest → ApiResult RegisterDeviceRequest
  renameDeviceBody : HttpRequest → ApiResult RenameDeviceRequest
  startPairingBody : HttpRequest → ApiResult StartPairingRequest
  confirmPairingBody : HttpRequest → ApiResult ConfirmPairingRequest

def maxSignedBodyBytes : Nat := 8 * 1024 * 1024
def maxRestSignatureSkew : Int := seconds 300
def maxDeviceNameChars : Nat := 64

/-- `AppState`, less the event hub, the relay hub and the simple-device inbox. -/
structure AppState where
  store : Db
  authToken : Option String
  simpleToken : Option String
  nonceCache : NonceCache

def AppState.new (store : Db) (authToken simpleToken : Option String) : AppState :=
  ⟨store, authToken, simpleToken, NonceCache.new (seconds 300)⟩

/-! ## Headers -/

def headerValue (headers : HeaderMap) (name : String) : ApiResult String :=
  okOr (((headerGet headers name).bind headerToStr |>.map Text.trim).filter (· ≠ ""))
    (.unauthorized ("missing " ++ name ++ " header"))

def deviceIdFromHeaders (headers : HeaderMap) : ApiResult DeviceId :=
  match headerValue headers airpasteDeviceIdHeader with
  | .ok value => .ok ⟨value⟩
  | .error _ => .error (.unauthorized "missing Air Paste device id header")

structure SignedRequestHeaders where
  deviceId : DeviceId
  timestamp : String
  nonce : String
  bodySha256 : String
  signature : String
  deriving DecidableEq

def SignedRequestHeaders.fromHeaders (headers : HeaderMap) :
    ApiResult SignedRequestHeaders := do
  let signatureAlg ← headerValue headers airpasteSignatureAlgHeader
  ensure (signatureAlg == airpasteRestSignatureAlg)
    (.unauthorized "missing or unsupported request signature algorithm")
  return {
    deviceId := ← deviceIdFromHeaders headers
    timestamp := ← headerValue headers airpasteTimestampHeader
    nonce := ← headerValue headers airpasteNonceHeader
    bodySha256 := ← headerValue headers airpasteBodySha256Header
    signature := ← headerValue headers airpasteSignatureHeader }

/-! ## Signed requests -/

section Signed

variable (x : Crates)

def validateTrustedDevice (state : AppState) (deviceId : DeviceId) : ApiResult Device := do
  let device ← okOr (state.store.devices.get deviceId.asStr)
    (.unauthorized "device is not registered")
  ensure device.trusted (.forbidden "device is not trusted")
  ensure (Text.trim device.publicKey ≠ "") (.unauthorized "device public key is missing")
  return device

def validateTimestamp (now : Timestamp) (value : String) : ApiResult Unit := do
  let timestamp ← okOr (x.parseFromRfc3339 value) (.unauthorized "invalid request timestamp")
  let skew := if timestamp > now then timestamp - now else now - timestamp
  ensure (decide (skew ≤ maxRestSignatureSkew)) (.unauthorized "request timestamp is stale")

def verifyRestSignature (device : Device) (method pathAndQuery : String)
    (headers : SignedRequestHeaders) : ApiResult Unit := do
  let publicKey ← okOr (x.base64Decode (Text.trim device.publicKey))
    (.unauthorized "invalid device public key")
  ensure (publicKey.length == 32) (.unauthorized "invalid device public key")
  ensure (x.isVerifyingKey publicKey) (.unauthorized "invalid device public key")
  let signature ← okOr (x.base64Decode headers.signature)
    (.unauthorized "invalid request signature")
  ensure (signature.length == 64) (.unauthorized "invalid request signature")
  let message := restSigningMessage method pathAndQuery headers.deviceId headers.timestamp
    headers.nonce headers.bodySha256
  ensure (x.ed25519Verify publicKey message signature) (.unauthorized "invalid request signature")

/-- `to_bytes`. -/
def readBody (request : HttpRequest) : ApiResult (List UInt8) :=
  okOr (request.body.filter fun body => decide (body.length ≤ maxSignedBodyBytes))
    (.badRequest "failed to read request body")

/-- `verify_signed_request` up to its nonce: the signing device and its headers. -/
def signedDevice (state : AppState) (now : Timestamp) (request : HttpRequest) :
    ApiResult (Device × SignedRequestHeaders) := do
  let body ← readBody request
  let headers ← SignedRequestHeaders.fromHeaders request.headers
  ensure (restBodySha256Base64url x.sha256 body == headers.bodySha256)
    (.unauthorized "request body hash mismatch")
  let device ← validateTrustedDevice state headers.deviceId
  validateTimestamp x now headers.timestamp
  verifyRestSignature x device request.method request.pathAndQuery headers
  return (device, headers)

def verifySignedRequest (state : AppState) (now : Timestamp) (request : HttpRequest) :
    ApiResult Device × AppState :=
  match signedDevice x state now request with
  | .error error => (.error error, state)
  | .ok (device, headers) =>
      let (fresh, nonceCache) := state.nonceCache.record now headers.deviceId headers.nonce
      let state := { state with nonceCache := nonceCache }
      if fresh then (.ok device, state)
      else (.error (.unauthorized "request nonce was already used"), state)

/-! ## The authentication layer -/

def constantTimeEq (left right : List UInt8) : Bool :=
  if left.length ≠ right.length then false
  else (left.zip right).foldl (fun diff pair => diff ||| (pair.1 ^^^ pair.2)) 0 == 0

/-- The bearer token of the request is the expected one. -/
def bearerAuthorized (headers : HeaderMap) (expected : String) : Bool :=
  match ((headerGet headers "authorization").bind headerToStr).bind
      fun value => Text.stripPrefix value "Bearer " with
  | none => false
  | some actual => constantTimeEq actual.toUTF8.toList expected.toUTF8.toList

def requiresDeviceSignature (method path : String) : Bool :=
  !(method == "POST" && (path == "/v1/devices" || path == "/v1/pair/confirm"))

/-- The device a request is admitted with, if it is admitted. -/
def requireAuth (state : AppState) (now : Timestamp) (request : HttpRequest) :
    ApiResult (Option Device) × AppState :=
  if request.path == "/health" || request.path == "/v1/health" then (.ok none, state)
  else if Text.startsWith request.path "/v1/simple/" then
    match state.simpleToken with
    | none => (.error (.notFound "simple access is not enabled"), state)
    | some expected =>
        if bearerAuthorized request.headers expected then (.ok none, state)
        else (.error (.unauthorized "missing or invalid simple token"), state)
  else if !state.authToken.all fun expected => bearerAuthorized request.headers expected then
    (.error (.unauthorized "missing or invalid bearer token"), state)
  else if !requiresDeviceSignature request.method request.path then (.ok none, state)
  else
    let (verified, state) := verifySignedRequest x state now request
    (verified.map some, state)

/-! ## Handlers -/

/-- The response bodies of the device and pairing endpoints. -/
inductive Reply where
  | device (device : Device)
  | pairing (response : StartPairingResponse)
  /-- An endpoint that leaves the device and pairing tables alone. -/
  | elsewhere
  deriving DecidableEq

/-- The `TrustedDevice` extractor. -/
def trustedDevice (verified : Option Device) : ApiResult Device :=
  okOr verified (.unauthorized "missing verified device signature")

/-- A handler whose extractors and checks come first: it stops at the first that fails. -/
def afterChecks {α : Type} (checks : ApiResult α) (operation : α → StoreM (ApiResult Reply)) :
    StoreM (ApiResult Reply) :=
  match checks with
  | .error error => return .error error
  | .ok a => operation a

/-- The device, or the error this endpoint maps a missing device to. -/
def deviceReply (missing : StoreError → ApiError) : Except StoreError Device → ApiResult Reply
  | .error error => .error (missing error)
  | .ok device => .ok (.device device)

def deviceNotFound : StoreError → ApiError
  | .notFound => .notFound "device not found"

def registerDevice (ulid : String) (now : Timestamp) (request : HttpRequest) :
    StoreM (ApiResult Reply) :=
  afterChecks (x.registerDeviceBody request) fun body => do
    return .ok (.device
      (← Store.registerDevice ulid now body.name body.publicKey body.encryptionPublicKey))

def trustDevice (verified : Option Device) (param : String) : StoreM (ApiResult Reply) :=
  afterChecks (do
    let _requestDevice ← trustedDevice verified
    x.pathParam param) fun deviceId => do
      return deviceReply deviceNotFound (← Store.trustDevice ⟨deviceId⟩)

def renameDevice (verified : Option Device) (param : String) (request : HttpRequest) :
    StoreM (ApiResult Reply) :=
  afterChecks (do
    let _requestDevice ← trustedDevice verified
    let deviceId ← x.pathParam param
    let body ← x.renameDeviceBody request
    let name := Text.trim body.name
    ensure (name ≠ "") (.badRequest "device name must not be empty")
    ensure (decide (name.length ≤ maxDeviceNameChars)) (.badRequest "device name too long")
    return (deviceId, name)) fun (deviceId, name) => do
      return deviceReply deviceNotFound (← Store.renameDevice ⟨deviceId⟩ name)

def startPairing (ulid : Nat) (now : Timestamp) (verified : Option Device)
    (request : HttpRequest) : StoreM (ApiResult Reply) :=
  afterChecks (do
    let requestDevice ← trustedDevice verified
    let body ← x.startPairingBody request
    ensure (body.createdBy.all fun createdBy => createdBy == requestDevice.deviceId)
      (.forbidden "pairing creator must match request device")
    return (requestDevice, body)) fun (requestDevice, body) => do
      let session ← Store.startPairing ulid now (some requestDevice.deviceId) body.ttlSeconds
      return .ok (.pairing ⟨session.code, session.expiresAt⟩)

def confirmPairing (now : Timestamp) (request : HttpRequest) : StoreM (ApiResult Reply) :=
  afterChecks (x.confirmPairingBody request) fun body => do
    return deviceReply .fromStore (← Store.confirmPairing now body.code body.deviceId)

/-! ## The router -/

inductive Route where
  | registerDevice
  | trustDevice (param : String)
  | renameDevice (param : String)
  | startPairing
  | confirmPairing
  | elsewhere
  deriving DecidableEq

/-- The segments of a path below a device: its id and the action. -/
def deviceAction (path : String) : Option (String × String) :=
  match (Text.stripPrefix path "/v1/devices/").map
      fun rest => Text.splitChars (· == '/') rest.toList with
  | some [param, action] =>
      if param.isEmpty then none else some (String.ofList param, String.ofList action)
  | _ => none

def route (method path : String) : Route :=
  if method ≠ "POST" then .elsewhere
  else if path = "/v1/devices" then .registerDevice
  else if path = "/v1/pair/start" then .startPairing
  else if path = "/v1/pair/confirm" then .confirmPairing
  else
    match deviceAction path with
    | some (param, "trust") => .trustDevice param
    | some (param, "rename") => .renameDevice param
    | _ => .elsewhere

/-- What reaches the server: a request, with the ULIDs drawn while it is served, or a
message on the event socket of a device. -/
inductive Arrival where
  | http (now : Timestamp) (deviceUlid : String) (pairingUlid : Nat) (request : HttpRequest)
  | touch (now : Timestamp) (deviceId : DeviceId)
  deriving DecidableEq

def Arrival.now : Arrival → Timestamp
  | .http now _ _ _ => now
  | .touch now _ => now

def dispatch (now : Timestamp) (deviceUlid : String) (pairingUlid : Nat)
    (verified : Option Device) (request : HttpRequest) : StoreM (ApiResult Reply) :=
  match route request.method request.path with
  | .registerDevice => registerDevice x deviceUlid now request
  | .trustDevice param => trustDevice x verified param
  | .renameDevice param => renameDevice x verified param request
  | .startPairing => startPairing x pairingUlid now verified request
  | .confirmPairing => confirmPairing x now request
  | .elsewhere => return .ok .elsewhere

def serve (state : AppState) (arrival : Arrival) : ApiResult Reply × AppState :=
  match arrival with
  | .http now deviceUlid pairingUlid request =>
      match requireAuth x state now request with
      | (.error error, state) => (.error error, state)
      | (.ok verified, state) =>
          let (reply, store) :=
            (dispatch x now deviceUlid pairingUlid verified request).run state.store
          (reply, { state with store := store })
  | .touch now deviceId =>
      (.ok .elsewhere, { state with store := ((Store.touchDevice now deviceId).run state.store).2 })

/-- The state after the arrivals. -/
def servedState (state : AppState) (arrivals : List Arrival) : AppState :=
  runFrom (fun state arrival => (serve x state arrival).2) state arrivals

theorem servedState_append (state : AppState) (arrivals : List Arrival) (arrival : Arrival) :
    servedState x state (arrivals ++ [arrival]) =
      (serve x (servedState x state arrivals) arrival).2 :=
  runFrom_append _ state arrivals [arrival]

/-! ## What the checks admit -/

variable {x} {state : AppState} {now : Timestamp} {request : HttpRequest}

theorem validateTrustedDevice_ok_iff {deviceId : DeviceId} {device : Device} :
    validateTrustedDevice state deviceId = .ok device ↔
      state.store.devices.get deviceId.asStr = some device ∧ device.trusted = true ∧
        Text.trim device.publicKey ≠ "" := by
  simp only [validateTrustedDevice, bind_ok_iff, okOr_ok_iff, ensure_ok_iff, decide_eq_true_eq]
  constructor
  · rintro ⟨found, stored, -, trusted, -, key, same⟩
    cases same
    exact ⟨stored, trusted, key⟩
  · rintro ⟨stored, trusted, key⟩
    exact ⟨device, stored, (), trusted, (), key, rfl⟩

theorem validateTimestamp_ok_iff {value : String} :
    validateTimestamp x now value = .ok () ↔
      ∃ timestamp, x.parseFromRfc3339 value = some timestamp ∧
        timestamp - now ≤ maxRestSignatureSkew ∧ now - timestamp ≤ maxRestSignatureSkew := by
  have wide : 0 ≤ maxRestSignatureSkew := by decide
  simp only [validateTimestamp, bind_ok_iff, okOr_ok_iff, ensure_ok_iff, decide_eq_true_eq]
  refine exists_congr fun timestamp => and_congr_right fun _ => ?_
  unfold Timestamp at *
  split <;> omega

theorem signedDevice_ok_iff {device : Device} {headers : SignedRequestHeaders} :
    signedDevice x state now request = .ok (device, headers) ↔
      ∃ body, readBody request = .ok body ∧
        SignedRequestHeaders.fromHeaders request.headers = .ok headers ∧
        restBodySha256Base64url x.sha256 body = headers.bodySha256 ∧
        validateTrustedDevice state headers.deviceId = .ok device ∧
        validateTimestamp x now headers.timestamp = .ok () ∧
        verifyRestSignature x device request.method request.pathAndQuery headers = .ok () := by
  simp only [signedDevice, bind_ok_iff, ensure_ok_iff, beq_iff_eq]
  constructor
  · rintro ⟨body, read, parsed, carried, ⟨⟩, hash, found, known, ⟨⟩, recent, ⟨⟩, signed, same⟩
    cases same
    exact ⟨body, read, carried, hash, known, recent, signed⟩
  · rintro ⟨body, read, carried, hash, known, recent, signed⟩
    exact ⟨body, read, headers, carried, (), hash, device, known, (), recent, (), signed, rfl⟩

/-- An accepted request passed every check, and its nonce was fresh. -/
theorem verifySignedRequest_ok_iff {device : Device} :
    (verifySignedRequest x state now request).1 = .ok device ↔
      ∃ headers, signedDevice x state now request = .ok (device, headers) ∧
        (state.nonceCache.record now headers.deviceId headers.nonce).1 = true := by
  unfold verifySignedRequest
  cases signed : signedDevice x state now request with
  | error error => exact ⟨nofun, fun ⟨_, impossible, _⟩ => nomatch impossible⟩
  | ok pair =>
      obtain ⟨signer, headers⟩ := pair
      simp only
      constructor
      · intro accepted
        split at accepted
        · rename_i fresh
          cases accepted
          exact ⟨headers, rfl, fresh⟩
        · cases accepted
      · rintro ⟨found, same, fresh⟩
        cases same
        rw [if_pos fresh]

/-- Verification touches the nonces and nothing else. -/
theorem verifySignedRequest_state (x : Crates) (state : AppState) (now : Timestamp)
    (request : HttpRequest) :
    (verifySignedRequest x state now request).2 = state ∨
      ∃ device headers, signedDevice x state now request = .ok (device, headers) ∧
        (verifySignedRequest x state now request).2 =
          { state with
            nonceCache := (state.nonceCache.record now headers.deviceId headers.nonce).2 } := by
  unfold verifySignedRequest
  cases signed : signedDevice x state now request with
  | error error => exact Or.inl rfl
  | ok pair =>
      obtain ⟨device, headers⟩ := pair
      refine Or.inr ⟨device, headers, rfl, ?_⟩
      simp only
      split <;> rfl

/-- The request is one that `require_auth` hands to `verify_signed_request`. -/
def reachesVerification (authToken : Option String) (request : HttpRequest) : Bool :=
  !(request.path == "/health" || request.path == "/v1/health") &&
    !Text.startsWith request.path "/v1/simple/" &&
    (authToken.all fun expected => bearerAuthorized request.headers expected) &&
    requiresDeviceSignature request.method request.path

theorem requireAuth_reaches (reaches : reachesVerification state.authToken request = true) :
    requireAuth x state now request =
      ((verifySignedRequest x state now request).1.map some,
        (verifySignedRequest x state now request).2) := by
  simp only [reachesVerification, Bool.and_eq_true, Bool.not_eq_true'] at reaches
  obtain ⟨⟨⟨health, simple⟩, bearer⟩, signed⟩ := reaches
  simp only [requireAuth, health, simple, bearer, signed, Bool.not_true, Bool.false_eq_true,
    if_false]

theorem requireAuth_bypasses (x : Crates) (now : Timestamp)
    (reaches : reachesVerification state.authToken request = false) :
    (∃ error, requireAuth x state now request = (.error error, state)) ∨
      requireAuth x state now request = (.ok none, state) := by
  unfold requireAuth
  split
  · exact Or.inr rfl
  · rename_i health
    split
    · cases state.simpleToken with
      | none => exact Or.inl ⟨_, rfl⟩
      | some expected =>
          simp only
          split
          · exact Or.inr rfl
          · exact Or.inl ⟨_, rfl⟩
    · rename_i simple
      split
      · exact Or.inl ⟨_, rfl⟩
      · rename_i bearer
        split
        · exact Or.inr rfl
        · rename_i signed
          rw [Bool.not_eq_true, Bool.not_eq_false'] at bearer signed
          rw [Bool.not_eq_true] at health simple
          simp only [reachesVerification, health, simple, bearer, signed] at reaches
          cases reaches

/-- A request is admitted with a device exactly when its signature is verified. -/
theorem requireAuth_verified_iff {device : Device} :
    (requireAuth x state now request).1 = .ok (some device) ↔
      reachesVerification state.authToken request = true ∧
        (verifySignedRequest x state now request).1 = .ok device := by
  cases reaches : reachesVerification state.authToken request with
  | true =>
      rw [requireAuth_reaches reaches, and_iff_right rfl]
      cases (verifySignedRequest x state now request).1 with
      | error error => exact ⟨nofun, nofun⟩
      | ok found =>
          constructor
          · intro same
            exact congrArg _ (Option.some.inj (Except.ok.inj same))
          · intro same
            exact congrArg _ (congrArg some (Except.ok.inj same))
  | false =>
      refine ⟨fun verified => ?_, fun impossible => nomatch impossible.1⟩
      rcases requireAuth_bypasses x now reaches with ⟨error, same⟩ | same
      · rw [same] at verified
        cases verified
      · rw [same] at verified
        cases verified

/-- The state beyond authentication differs in the nonces only. -/
theorem requireAuth_state (x : Crates) (state : AppState) (now : Timestamp)
    (request : HttpRequest) :
    (requireAuth x state now request).2 = state ∨
      ∃ headers : SignedRequestHeaders, (requireAuth x state now request).2 =
        { state with
          nonceCache := (state.nonceCache.record now headers.deviceId headers.nonce).2 } := by
  cases reaches : reachesVerification state.authToken request with
  | true =>
      rw [requireAuth_reaches reaches]
      rcases verifySignedRequest_state x state now request
        with same | ⟨device, headers, -, recorded⟩
      · exact Or.inl same
      · exact Or.inr ⟨headers, recorded⟩
  | false =>
      rcases requireAuth_bypasses x now reaches with ⟨error, same⟩ | same
      · exact Or.inl (by rw [same])
      · exact Or.inl (by rw [same])

/-- The device a request is admitted with is registered and trusted at that moment. -/
theorem trusted_of_requireAuth {device : Device}
    (verified : (requireAuth x state now request).1 = .ok (some device)) :
    state.store.devices.get device.deviceId.asStr = some device ∧ device.trusted = true := by
  obtain ⟨-, accepted⟩ := requireAuth_verified_iff.mp verified
  obtain ⟨headers, signed, -⟩ := verifySignedRequest_ok_iff.mp accepted
  obtain ⟨body, -, -, -, known, -, -⟩ := signedDevice_ok_iff.mp signed
  obtain ⟨stored, trusted, -⟩ := validateTrustedDevice_ok_iff.mp known
  rw [Db.deviceId_of_get stored]
  exact ⟨stored, trusted⟩

end Signed

/-! ## A laptop and a phone

Two requests signed by one laptop, with the values of the external functions on them. -/

namespace Sample

def ascii (s : String) : List UInt8 := s.toList.map fun c => UInt8.ofNat c.toNat

def laptopKey : String := "11qYAYKxCrfVS/7TyWQHOg7hcvPapiMlrwIaaPcHURo="

def laptopKeyBytes : List UInt8 :=
  [215, 90, 152, 1, 130, 177, 10, 183, 213, 75, 254, 211, 201, 100, 7, 58, 14, 225, 114, 243, 218,
   166, 35, 37, 175, 2, 26, 104, 247, 7, 81, 26]

/-- The SHA-256 digest of the empty body. -/
def emptyDigest : List UInt8 :=
  [227, 176, 196, 66, 152, 252, 28, 20, 154, 251, 244, 200, 153, 111, 185, 36, 39, 174, 65, 228,
   100, 155, 147, 76, 164, 149, 153, 27, 120, 82, 184, 85]

def emptyBodySha256 : String := "47DEQpj8HBSa-_TImW-5JCeuQeRkm5NMpJWZG3hSuFU"

/-- The device list, signed. -/
def listSignature : String :=
  "32zX4vhBUrRpoChgaQCQU6RIWFda3a7mnWXXBNFLtPbJYQ7uxzyHMT96MJnYgDbutVn0Yl44cVmoXzW8pQ9tDA=="

def listSignatureBytes : List UInt8 :=
  [223, 108, 215, 226, 248, 65, 82, 180, 105, 160, 40, 96, 105, 0, 144, 83, 164, 72, 88, 87, 90,
   221, 174, 230, 157, 101, 215, 4, 209, 75, 180, 246, 201, 97, 14, 238, 199, 60, 135, 49, 63,
   122, 48, 153, 216, 128, 54, 238, 181, 89, 244, 98, 94, 56, 113, 89, 168, 95, 53, 188, 165, 15,
   109, 12]

/-- The trust of the phone, signed. -/
def trustSignature : String :=
  "RGDdrXWFh2Sey/8Fy9p/hGt7JMXk8kv1oV/OvKV5TfEZiAvmv92DC+Z1LXOefEhtKB4i28Cv5L3zcNvuhYdjDg=="

def trustSignatureBytes : List UInt8 :=
  [68, 96, 221, 173, 117, 133, 135, 100, 158, 203, 255, 5, 203, 218, 127, 132, 107, 123, 36, 197,
   228, 242, 75, 245, 161, 95, 206, 188, 165, 121, 77, 241, 25, 136, 11, 230, 191, 221, 131, 11,
   230, 117, 45, 115, 158, 124, 72, 109, 40, 30, 34, 219, 192, 175, 228, 189, 243, 112, 219, 238,
   133, 135, 99, 14]

def signedAt : String := "2026-01-01T00:02:00Z"

/-- The instant of `signedAt`. -/
def signedInstant : Timestamp := seconds 1767225720

def signedHeaders (nonce signature : String) : HeaderMap :=
  [(airpasteDeviceIdHeader, ascii "dev_laptop"),
   (airpasteSignatureAlgHeader, ascii airpasteRestSignatureAlg),
   (airpasteTimestampHeader, ascii signedAt),
   (airpasteNonceHeader, ascii nonce),
   (airpasteBodySha256Header, ascii emptyBodySha256),
   (airpasteSignatureHeader, ascii signature)]

def listRequest : HttpRequest :=
  ⟨"GET", "/v1/devices", none, signedHeaders "n1" listSignature, some []⟩

def trustRequest : HttpRequest :=
  ⟨"POST", "/v1/devices/dev_phone/trust", none, signedHeaders "n2" trustSignature, some []⟩

def laptopBody : List UInt8 :=
  ascii "\x7b\"name\":\"Laptop\",\"public_key\":\"11qYAYKxCrfVS/7TyWQHOg7hcvPapiMlrwIaaPcHURo=\"\x7d"

def phoneBody : List UInt8 := ascii "\x7b\"name\":\"Phone\",\"public_key\":\"\"\x7d"

def registerRequest (body : List UInt8) : HttpRequest :=
  ⟨"POST", "/v1/devices", none, [("content-type", ascii "application/json")], some body⟩

def crates : Crates where
  sha256 := fun body => if body = [] then emptyDigest else []
  base64Decode := fun encoded =>
    if encoded = laptopKey then some laptopKeyBytes
    else if encoded = listSignature then some listSignatureBytes
    else if encoded = trustSignature then some trustSignatureBytes
    else none
  isVerifyingKey := fun key => key == laptopKeyBytes
  ed25519Verify := fun key message signature =>
    key == laptopKeyBytes &&
      ((message == restSigningMessage "GET" "/v1/devices" ⟨"dev_laptop"⟩ signedAt "n1"
          emptyBodySha256 && signature == listSignatureBytes) ||
        (message == restSigningMessage "POST" "/v1/devices/dev_phone/trust" ⟨"dev_laptop"⟩
          signedAt "n2" emptyBodySha256 && signature == trustSignatureBytes))
  parseFromRfc3339 := fun value => if value = signedAt then some signedInstant else none
  pathParam := fun segment => .ok segment
  registerDeviceBody := fun request =>
    if request.body = some laptopBody then .ok ⟨"Laptop", laptopKey, ""⟩
    else if request.body = some phoneBody then .ok ⟨"Phone", "", ""⟩
    else .error (.badRequest "Failed to parse the request body as JSON")
  renameDeviceBody := fun _ => .error (.badRequest "Failed to parse the request body as JSON")
  startPairingBody := fun _ => .error (.badRequest "Failed to parse the request body as JSON")
  confirmPairingBody := fun _ => .error (.badRequest "Failed to parse the request body as JSON")

end Sample

end AirPaste.Server
