/-
# Agent.SignedRequest — an honest request is accepted, whatever others do

The client signs a request with a fresh nonce and its clock, and sends the signed values as
headers; the server trims the headers, reads the target and the body again, and signs
nothing itself.  `honest_accepted` says that the two agree: where the clocks are close and
no accepted request has used the nonce, the request passes, in every state that requests of
anyone can reach.  What was rejected before never counts, since only an accepted request
leaves its nonce behind (`accepted_of_known`).
-/
import AirPaste.Server.Replay
import AirPaste.Server.TrustChain
import AirPaste.Theory.Base64

namespace AirPaste.Agent

open AirPaste.Core
open AirPaste.Protocol
open AirPaste.Server
open AirPaste.Theory

set_option autoImplicit false

/-! ## The client -/

/-- The key of the device, as `SigningKey::sign`. -/
abbrev SigningKey := String → List UInt8

/-- `STANDARD.encode`. -/
def base64Encode (bytes : List UInt8) : String :=
  String.ofList (Alphabet.standard.encodePadded bytes)

def signRestRequest (key : SigningKey) (method pathAndQuery : String) (deviceId : DeviceId)
    (timestamp nonce bodySha256 : String) : String :=
  base64Encode (key (restSigningMessage method pathAndQuery deviceId timestamp nonce bodySha256))

def nonceHex : List Char :=
  ['0', '1', '2', '3', '4', '5', '6', '7', '8', '9', 'a', 'b', 'c', 'd', 'e', 'f']

/-- The nonce of sixteen drawn bytes. -/
def randomNonce (bytes : Bytes 16) : String :=
  String.ofList (bytes.toList.flatMap fun byte =>
    [nonceHex.getD (byte.toNat / 16) '0', nonceHex.getD (byte.toNat % 16) '0'])

/-- `rest_signature_headers`, for the client's clock as RFC 3339 has it and a drawn nonce. -/
def restSignatureHeaders (sha256 : List UInt8 → List UInt8) (timestamp : String)
    (draw : Bytes 16) (method pathAndQuery : String) (deviceId : DeviceId) (key : SigningKey)
    (body : List UInt8) : List (String × String) :=
  let nonce := randomNonce draw
  let bodySha256 := restBodySha256Base64url sha256 body
  let signature := signRestRequest key method pathAndQuery deviceId timestamp nonce bodySha256
  [(airpasteSignatureAlgHeader, airpasteRestSignatureAlg),
   (airpasteTimestampHeader, timestamp),
   (airpasteNonceHeader, nonce),
   (airpasteBodySha256Header, bodySha256),
   (airpasteSignatureHeader, signature)]

/-- A request as the client hands it over. -/
structure SignedRequest where
  method : String
  pathAndQuery : String
  headers : List (String × String)
  body : List UInt8

section Client

variable (sha256 : List UInt8 → List UInt8) (timestamp : String) (draw : Bytes 16)
  (deviceId : DeviceId) (key : SigningKey)

/-- What `signed_request` hands over, and for a GET without a body `signed_ws_request`. -/
def sign (method pathAndQuery : String) (body : List UInt8) : SignedRequest where
  method := method
  pathAndQuery := pathAndQuery
  headers := (airpasteDeviceIdHeader, deviceId.asStr) ::
    restSignatureHeaders sha256 timestamp draw method pathAndQuery deviceId key body
  body := body

end Client

/-- The request at the server: the same method, target and body, and the client's headers
among those it carries. -/
structure Receives (sent : SignedRequest) (received : HttpRequest) : Prop where
  method : received.method = sent.method
  pathAndQuery : received.pathAndQuery = sent.pathAndQuery
  headers : ∀ header ∈ sent.headers,
    headerGet received.headers header.1 = some (headerBytes header.2)
  body : received.body = some sent.body

/-! ## Values that survive as headers -/

/-- A text of visible characters, and at least one of them. -/
def Visible (value : String) : Prop :=
  value.toList ≠ [] ∧ ∀ c ∈ value.toList, 33 ≤ c.toNat ∧ c.toNat ≤ 126

theorem headerToStr_headerBytes {value : String} (visible : Visible value) :
    headerToStr (headerBytes value) = some value := by
  have code : ∀ c ∈ value.toList, (UInt8.ofNat c.toNat).toNat = c.toNat := by
    intro c member
    have bounds := visible.2 c member
    rw [UInt8.toNat_ofNat']
    exact Nat.mod_eq_of_lt (by omega)
  have shown : (headerBytes value).all (fun b => (32 ≤ b && b < 127) || b == 9) = true := by
    simp only [headerBytes, List.all_map, List.all_eq_true, Function.comp_apply]
    intro c member
    have bounds := visible.2 c member
    have above : (32 : UInt8) ≤ UInt8.ofNat c.toNat := by
      rw [UInt8.le_iff_toNat_le, code c member]
      show 32 ≤ c.toNat
      omega
    have below : UInt8.ofNat c.toNat < 127 := by
      rw [UInt8.lt_iff_toNat_lt, code c member]
      show c.toNat < 127
      omega
    simp [above, below]
  have back : (headerBytes value).map (fun b => Char.ofNat b.toNat) = value.toList := by
    simp only [headerBytes, List.map_map]
    refine (List.map_congr_left fun c member => ?_).trans (List.map_id _)
    simp only [Function.comp_apply, code c member, Char.ofNat_toNat, id_eq]
  rw [headerToStr, if_pos shown, back, String.ofList_toList]

theorem isWhitespace_eq_false {c : Char} (above : 33 ≤ c.toNat) (below : c.toNat ≤ 126) :
    Text.isWhitespace c = false := by
  simp only [Text.isWhitespace, Bool.or_eq_false_iff, Bool.and_eq_false_iff,
    decide_eq_false_iff_not, beq_eq_false_iff_ne]
  omega

theorem trim_visible {value : String} (visible : Visible value) : Text.trim value = value := by
  rw [Text.trim, Text.trimChars_of_none, String.ofList_toList]
  intro c member
  exact isWhitespace_eq_false (visible.2 c member).1 (visible.2 c member).2

/-- The server reads a visible value back as it was sent. -/
theorem headerValue_visible {headers : HeaderMap} {name value : String} (visible : Visible value)
    (carried : headerGet headers name = some (headerBytes value)) :
    Server.headerValue headers name = .ok value := by
  have nonempty : value ≠ "" := fun empty => visible.1 (by rw [empty]; rfl)
  rw [Server.headerValue, okOr_ok_iff, carried, Option.bind_some, headerToStr_headerBytes visible,
    Option.map_some, trim_visible visible]
  exact Option.filter_some_pos (decide_eq_true nonempty)

/-- A character that a header value may begin or end with. -/
def VisibleChar (c : Char) : Prop := 33 ≤ c.toNat ∧ c.toNat ≤ 126

instance (c : Char) : Decidable (VisibleChar c) := inferInstanceAs (Decidable (_ ∧ _))

theorem visibleChar_of_all {chars : List Char}
    (all : (chars.all fun c => decide (VisibleChar c)) = true) : ∀ c ∈ chars, VisibleChar c :=
  fun c member => of_decide_eq_true (List.all_eq_true.mp all c member)

theorem visible_ofList {chars : List Char} (nonempty : chars ≠ [])
    (all : ∀ c ∈ chars, VisibleChar c) : Visible (String.ofList chars) := by
  unfold Visible
  rw [String.toList_ofList]
  exact ⟨nonempty, all⟩

theorem visible_base64Encode {bytes : List UInt8} (nonempty : bytes ≠ []) :
    Visible (base64Encode bytes) := by
  have digits : ∀ c ∈ Alphabet.standard.chars, VisibleChar c :=
    visibleChar_of_all (by decide +kernel)
  apply visible_ofList
  · intro empty
    have body := (List.append_eq_nil_iff.mp empty).1
    have decoded : Alphabet.standard.decode (Alphabet.standard.encode bytes) = some bytes :=
      Alphabet.decode_encode bytes
    rw [body] at decoded
    exact nonempty (Option.some.inj decoded).symm
  · intro c member
    rcases List.mem_append.mp member with member | padding
    · exact digits c (Alphabet.mem_encode member)
    · rw [List.eq_of_mem_replicate padding]
      decide

theorem visible_base64urlChar (n : Nat) : VisibleChar (base64urlChar n) := by
  have digits : ∀ i < 64, VisibleChar (base64urlAlphabet.getD i 'A') := by decide +kernel
  exact digits (n % 64) (Nat.mod_lt n (by decide))

theorem visible_base64url {bytes : List UInt8} (nonempty : bytes ≠ []) :
    Visible (String.ofList (base64urlNoPad bytes)) := by
  apply visible_ofList
  · cases bytes with
    | nil => exact absurd rfl nonempty
    | cons a rest =>
        cases rest with
        | nil => exact List.cons_ne_nil _ _
        | cons b rest =>
            cases rest with
            | nil => exact List.cons_ne_nil _ _
            | cons c rest => exact List.cons_ne_nil _ _
  · clear nonempty
    induction bytes using base64urlNoPad.induct with
    | case1 a b c rest ih =>
        simp only [base64urlNoPad, List.forall_mem_cons]
        exact ⟨visible_base64urlChar _, visible_base64urlChar _, visible_base64urlChar _,
          visible_base64urlChar _, ih⟩
    | case2 a b =>
        simp only [base64urlNoPad, List.forall_mem_cons]
        exact ⟨visible_base64urlChar _, visible_base64urlChar _, visible_base64urlChar _, nofun⟩
    | case3 a =>
        simp only [base64urlNoPad, List.forall_mem_cons]
        exact ⟨visible_base64urlChar _, visible_base64urlChar _, nofun⟩
    | case4 => exact nofun

theorem visible_randomNonce (draw : Bytes 16) : Visible (randomNonce draw) := by
  have digits : ∀ i, VisibleChar (nonceHex.getD i '0') := by
    intro i
    by_cases within : i < 16
    · have all : ∀ i < 16, VisibleChar (nonceHex.getD i '0') := by decide
      exact all i within
    · rw [List.getD_eq_default nonceHex '0' (Nat.le_of_not_lt within)]
      decide
  obtain ⟨bytes, length⟩ := draw
  apply visible_ofList
  · cases bytes with
    | nil => cases length
    | cons byte rest => exact List.cons_ne_nil _ _
  · intro c member
    obtain ⟨byte, -, member⟩ := List.mem_flatMap.mp member
    rcases List.mem_pair.mp member with rfl | rfl
    · exact digits _
    · exact digits _

/-- Crockford's base 32. -/
def ulidAlphabet : List Char :=
  ['0', '1', '2', '3', '4', '5', '6', '7', '8', '9', 'A', 'B', 'C', 'D', 'E', 'F', 'G', 'H',
   'J', 'K', 'M', 'N', 'P', 'Q', 'R', 'S', 'T', 'V', 'W', 'X', 'Y', 'Z']

/-- The text of a ULID. -/
def IsUlid (ulid : String) : Prop := ulid.length = 26 ∧ ∀ c ∈ ulid.toList, c ∈ ulidAlphabet

theorem visible_deviceId {ulid : String} (drawn : IsUlid ulid) :
    Visible (DeviceId.new ulid).asStr := by
  have digits : ∀ c ∈ ulidAlphabet, VisibleChar c := visibleChar_of_all (by decide)
  have pre : ∀ c ∈ "dev_".toList, VisibleChar c := visibleChar_of_all (by decide)
  unfold Visible DeviceId.new
  rw [String.toList_append]
  refine ⟨fun empty => ?_, fun c member => ?_⟩
  · exact absurd (List.append_eq_nil_iff.mp empty).1 (by decide)
  · rcases List.mem_append.mp member with member | member
    · exact pre c member
    · exact digits c (drawn.2 c member)

/-! ## The server accepts -/

/-- The primitives on this device's key: what it signs verifies, base64 decodes to what was
encoded, and the two lengths are those of the algorithms. -/
structure Honest (x : Crates) (publicKey : List UInt8) (key : SigningKey) : Prop where
  verifies : ∀ message, x.ed25519Verify publicKey message (key message) = true
  signature : ∀ message, (key message).length = 64
  decodes : ∀ bytes, x.base64Decode (base64Encode bytes) = some bytes
  digest : ∀ body, (x.sha256 body).length = 32

/-- The device is stored and trusted, with this public key, and the key is valid. -/
structure StoredKey (x : Crates) (state : AppState) (device : Device)
    (publicKey : List UInt8) : Prop where
  stored : state.store.devices.get device.deviceId.asStr = some device
  trusted : device.trusted = true
  decodes : x.base64Decode (Text.trim device.publicKey) = some publicKey
  length : publicKey.length = 32
  valid : x.isVerifyingKey publicKey = true

section Accepted

variable {x : Crates} {publicKey : List UInt8} {key : SigningKey} {timestamp : String}
  {draw : Bytes 16} {method pathAndQuery : String} {deviceId : DeviceId} {body : List UInt8}
  {received : HttpRequest} {state : AppState} {device : Device}

/-- The headers the server reads from an honest request. -/
def sentHeaders (x : Crates) (timestamp : String) (draw : Bytes 16)
    (method pathAndQuery : String) (deviceId : DeviceId) (key : SigningKey) (body : List UInt8) :
    SignedRequestHeaders where
  deviceId := deviceId
  timestamp := timestamp
  nonce := randomNonce draw
  bodySha256 := restBodySha256Base64url x.sha256 body
  signature := signRestRequest key method pathAndQuery deviceId timestamp (randomNonce draw)
    (restBodySha256Base64url x.sha256 body)

theorem fromHeaders_sent (honest : Honest x publicKey key) (named : Visible deviceId.asStr)
    (clock : Visible timestamp)
    (receives : Receives (sign x.sha256 timestamp draw deviceId key method pathAndQuery body)
      received) :
    SignedRequestHeaders.fromHeaders received.headers =
      .ok (sentHeaders x timestamp draw method pathAndQuery deviceId key body) := by
  have digest : x.sha256 body ≠ [] := by
    intro empty
    have length := honest.digest body
    rw [empty] at length
    cases length
  have signature : ∀ message, key message ≠ [] := by
    intro message empty
    have length := honest.signature message
    rw [empty] at length
    cases length
  have carried := receives.headers
  simp only [sign, restSignatureHeaders, List.forall_mem_cons] at carried
  obtain ⟨hasDevice, hasAlg, hasTimestamp, hasNonce, hasBody, hasSignature, -⟩ := carried
  have alg : Visible airpasteRestSignatureAlg := ⟨by decide, visibleChar_of_all (by decide)⟩
  have deviceHeader : deviceIdFromHeaders received.headers = .ok deviceId := by
    rw [deviceIdFromHeaders, headerValue_visible named hasDevice]
  unfold SignedRequestHeaders.fromHeaders
  rw [headerValue_visible alg hasAlg, deviceHeader, headerValue_visible clock hasTimestamp,
    headerValue_visible (visible_randomNonce draw) hasNonce,
    headerValue_visible (visible_base64url digest) hasBody,
    headerValue_visible (visible_base64Encode (signature _)) hasSignature]
  rfl

theorem verifyRestSignature_sent (honest : Honest x publicKey key)
    (known : StoredKey x state device publicKey) :
    verifyRestSignature x device method pathAndQuery
      (sentHeaders x timestamp draw method pathAndQuery deviceId key body) = .ok () := by
  simp only [verifyRestSignature, bind_ok_iff, okOr_ok_iff, ensure_ok_iff, beq_iff_eq]
  refine ⟨publicKey, known.decodes, (), known.length, (), known.valid, _, honest.decodes _, (),
    honest.signature _, honest.verifies _⟩

/-- An honest request passes every check but the nonce's. -/
theorem signedDevice_sent (honest : Honest x publicKey key)
    (known : StoredKey x state device publicKey) (named : Visible device.deviceId.asStr)
    (clock : Visible timestamp) {signedAt now : Timestamp}
    (read : x.parseFromRfc3339 timestamp = some signedAt)
    (near : signedAt - now ≤ seconds 300 ∧ now - signedAt ≤ seconds 300)
    (small : body.length ≤ maxSignedBodyBytes)
    (receives : Receives (sign x.sha256 timestamp draw device.deviceId key method pathAndQuery body)
      received) :
    signedDevice x state now received =
      .ok (device, sentHeaders x timestamp draw method pathAndQuery device.deviceId key body) := by
  have keyed : Text.trim device.publicKey ≠ "" := by
    intro empty
    have decoded := known.decodes
    have nothing : base64Encode [] = "" := rfl
    rw [empty, ← nothing, honest.decodes] at decoded
    have length := known.length
    rw [← Option.some.inj decoded] at length
    cases length
  refine signedDevice_ok_iff.mpr ⟨body, ?_, fromHeaders_sent honest named clock receives, rfl, ?_,
    ?_, ?_⟩
  · rw [readBody, okOr_ok_iff, receives.body]
    exact Option.filter_some_pos (decide_eq_true small)
  · exact validateTrustedDevice_ok_iff.mpr ⟨known.stored, known.trusted, keyed⟩
  · exact validateTimestamp_ok_iff.mpr ⟨signedAt, read, near⟩
  · rw [receives.method, receives.pathAndQuery]
    exact verifyRestSignature_sent honest known

end Accepted

/-! ## Only accepted requests leave a nonce behind -/

section Nonces

variable {x : Crates} {deviceId : DeviceId} {nonce : String}

/-- The nonce is in the cache. -/
def Known (deviceId : DeviceId) (nonce : String) (state : AppState) : Prop :=
  state.nonceCache.entries.get (NonceEntry.keyOf deviceId nonce) ≠ none

theorem keyOf_inj {a b : DeviceId} {m n : String}
    (same : NonceEntry.keyOf a m = NonceEntry.keyOf b n) : a = b ∧ m = n := by
  have parts := Prod.mk.inj (toLex.injective same)
  exact ⟨DeviceId.asStr_injective parts.1, parts.2⟩

/-- A nonce that a step puts in the cache is one of a request the step accepts. -/
theorem accepts_of_newly_known {state : AppState} {arrival : Server.Arrival}
    (unknown : ¬ Known deviceId nonce state)
    (known : Known deviceId nonce (serve x state arrival).2) :
    ∃ headers, Accepts x state arrival headers ∧ headers.deviceId = deviceId ∧
      headers.nonce = nonce := by
  cases arrival with
  | touch now touched => exact absurd known unknown
  | http now deviceUlid pairingUlid request =>
      obtain ⟨store, served, -⟩ := serve_http (x := x) state now deviceUlid pairingUlid request
      rw [served] at known
      have known : Known deviceId nonce (requireAuth x state now request).2 := known
      cases reaches : reachesVerification state.authToken request with
      | false =>
          rcases requireAuth_bypasses x now reaches with ⟨error, same⟩ | same
          · rw [same] at known
            exact absurd known unknown
          · rw [same] at known
            exact absurd known unknown
      | true =>
          rw [requireAuth_reaches reaches] at known
          cases signed : signedDevice x state now request with
          | error error =>
              simp only [verifySignedRequest, signed] at known
              exact absurd known unknown
          | ok pair =>
              obtain ⟨device, headers⟩ := pair
              have recorded : (state.nonceCache.record now headers.deviceId
                  headers.nonce).2.entries.get (NonceEntry.keyOf deviceId nonce) ≠ none := by
                unfold Known verifySignedRequest at known
                rw [signed] at known
                simp only at known
                split at known
                · exact known
                · exact known
              rcases NonceCache.record_known recorded with before | ⟨own, fresh⟩
              · exact absurd before unknown
              · obtain ⟨sameDevice, sameNonce⟩ := keyOf_inj own
                obtain ⟨body, -, parsed, -⟩ := signedDevice_ok_iff.mp signed
                refine ⟨headers, ⟨⟨device, ?_⟩, parsed⟩, sameDevice.symm, sameNonce.symm⟩
                exact requireAuth_verified_iff.mpr
                  ⟨reaches, verifySignedRequest_ok_iff.mpr ⟨headers, signed, fresh⟩⟩

/-- No request that was accepted carried the pair. -/
def NeverAccepted (x : Crates) (authToken simpleToken : Option String)
    (arrivals : List Server.Arrival) (deviceId : DeviceId) (nonce : String) : Prop :=
  ∀ before arrival later headers, arrivals = before ++ arrival :: later →
    Accepts x (reached x authToken simpleToken before) arrival headers →
    headers.deviceId = deviceId → headers.nonce ≠ nonce

/-- A nonce in the cache was put there by an accepted request. -/
theorem accepted_of_known {authToken simpleToken : Option String} {arrivals : List Server.Arrival}
    (never : NeverAccepted x authToken simpleToken arrivals deviceId nonce) :
    ¬ Known deviceId nonce (reached x authToken simpleToken arrivals) := by
  intro known
  have initially : ¬ Known deviceId nonce (AppState.new Db.empty authToken simpleToken) :=
    fun absent => absent rfl
  obtain ⟨before, arrival, later, split, unknown, known⟩ :=
    run_origin (Known deviceId nonce) initially known
  obtain ⟨headers, accepted, device, same⟩ := accepts_of_newly_known unknown known
  exact never before arrival later headers split accepted device same

end Nonces

/-- **An honest request is accepted whatever was served before it.** -/
theorem honest_accepted (x : Crates) {authToken simpleToken : Option String}
    {arrivals : List Server.Arrival} {publicKey : List UInt8} {key : SigningKey} {device : Device}
    {timestamp : String} {signedAt now : Timestamp} {draw : Bytes 16}
    {method pathAndQuery : String} {body : List UInt8} {received : HttpRequest}
    (ulids : ∀ ulid ∈ arrivals.filterMap Server.Arrival.drawnUlid, IsUlid ulid)
    (honest : Honest x publicKey key)
    (known : StoredKey x (reached x authToken simpleToken arrivals) device publicKey)
    (read : x.parseFromRfc3339 timestamp = some signedAt) (clock : Visible timestamp)
    (near : signedAt - now ≤ seconds 300 ∧ now - signedAt ≤ seconds 300)
    (small : body.length ≤ maxSignedBodyBytes)
    (unused : NeverAccepted x authToken simpleToken arrivals device.deviceId (randomNonce draw))
    (receives : Receives (sign x.sha256 timestamp draw device.deviceId key method pathAndQuery body)
      received) :
    (verifySignedRequest x (reached x authToken simpleToken arrivals) now received).1 =
      .ok device := by
  obtain ⟨ulid, drawn, named⟩ := allDrawn_reached arrivals device.deviceId device known.stored
  have visible : Visible device.deviceId.asStr := by
    rw [named]
    exact visible_deviceId (ulids ulid drawn)
  have signed := signedDevice_sent honest known visible clock read near small receives
  refine verifySignedRequest_ok_iff.mpr ⟨_, signed, NonceCache.record_accepts_new ?_⟩
  exact not_not.mp (accepted_of_known unused)

/-! ## The laptop lists the devices -/

namespace LaptopLists

open Server.Sample

def ulid : String := "01KDVD30207ZK3D9Q1W5M8R2TX"

/-- The laptop registers. -/
def arrivals : List Server.Arrival :=
  [.http (seconds 1767225000) ulid 0 (registerRequest laptopBody)]

def laptop : Device := ⟨DeviceId.new ulid, "Laptop", laptopKey, "", true, seconds 1767225000, none⟩

def timestamp : String := "2026-01-01T00:02:00+00:00"

def draw : Bytes 16 :=
  ⟨[143, 60, 1, 210, 166, 185, 126, 69, 12, 31, 136, 226, 212, 83, 154, 123], rfl⟩

/-- The text the laptop signs. -/
def message : String :=
  restSigningMessage "GET" "/v1/devices" laptop.deviceId timestamp
    "8f3c01d2a6b97e450c1f88e2d4539a7b" emptyBodySha256

def signature : List UInt8 :=
  [249, 190, 122, 33, 30, 11, 148, 101, 10, 38, 97, 129, 74, 253, 160, 143, 34, 124, 138, 128, 87,
   191, 116, 29, 49, 61, 26, 144, 230, 189, 104, 245, 162, 242, 197, 168, 73, 23, 136, 246, 234,
   211, 57, 42, 226, 165, 216, 229, 186, 244, 68, 59, 212, 193, 236, 218, 13, 141, 161, 123, 88,
   102, 36, 11]

def key : SigningKey := fun text =>
  if text = message then signature else List.replicate 64 0

def crates : Crates :=
  { Sample.crates with
    sha256 := fun body => if body = [] then emptyDigest else List.replicate 32 0
    base64Decode := fun encoded => Alphabet.standard.decodePadded encoded.toList
    ed25519Verify := fun publicKey text signed => publicKey == laptopKeyBytes && signed == key text
    parseFromRfc3339 := fun value => if value = timestamp then some signedInstant else none }

def sent : SignedRequest :=
  sign crates.sha256 timestamp draw laptop.deviceId key "GET" "/v1/devices" []

def received : HttpRequest where
  method := "GET"
  path := "/v1/devices"
  query := none
  headers := sent.headers.map fun header => (header.1, headerBytes header.2)
  body := some []

theorem honest : Honest crates laptopKeyBytes key where
  verifies := fun text => by simp [crates]
  signature := by
    intro text
    unfold key
    split
    · rfl
    · exact List.length_replicate
  decodes := by
    intro bytes
    show Alphabet.standard.decodePadded (base64Encode bytes).toList = some bytes
    rw [base64Encode, String.toList_ofList]
    exact Alphabet.decodePadded_encodePadded bytes
  digest := by
    intro body
    show (if body = [] then emptyDigest else List.replicate 32 0).length = 32
    split
    · rfl
    · exact List.length_replicate

theorem known : StoredKey crates (reached crates none none arrivals) laptop laptopKeyBytes where
  stored := by decide +kernel
  trusted := rfl
  decodes := by decide +kernel
  length := rfl
  valid := rfl

theorem receives : Receives sent received :=
  ⟨rfl, by decide +kernel, by decide +kernel, rfl⟩

/-- The registration carries no signature. -/
theorem unused : NeverAccepted crates none none arrivals laptop.deviceId (randomNonce draw) := by
  rintro before arrival later headers split accepted - -
  obtain ⟨rfl, rfl, -⟩ := (List.singleton_eq_append_iff.mp split).elim (fun h => by simpa using h)
    fun h => by simp at h
  exact nomatch accepted.2

/-- Satisfiable pole: the laptop's device list is answered ten seconds after it was signed. -/
theorem list_honest :
    (verifySignedRequest crates (reached crates none none arrivals) (seconds 1767225730)
      received).1 = .ok laptop := by
  have ulids : ∀ drawn ∈ arrivals.filterMap Server.Arrival.drawnUlid, IsUlid drawn := by
    intro drawn member
    cases List.mem_singleton.mp member
    refine ⟨by decide, fun c member => List.elem_iff.mp ?_⟩
    have all : (ulid.toList.all fun c => ulidAlphabet.elem c) = true := by decide
    exact List.all_eq_true.mp all c member
  have clock : Visible timestamp := ⟨by decide, visibleChar_of_all (by decide)⟩
  exact honest_accepted crates ulids honest known rfl clock (by decide) (by decide) unused receives

end LaptopLists

end AirPaste.Agent
