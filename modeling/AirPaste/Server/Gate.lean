/-
# Server.Gate — which requests reach which handler

The router with all its handlers, behind `require_auth`.  `gate` is what becomes of a
request before a handler runs: it is rejected, it matches no handler, or it reaches one,
with the device that a `TrustedDevice` extractor hands to it.  `gate_reached` says what a
request that reaches a handler has shown.
-/
import AirPaste.Server.Routes

namespace AirPaste.Server

open AirPaste.Core
open AirPaste.Protocol
open AirPaste.Theory

set_option autoImplicit false

inductive Handler where
  | health
  | registerDevice
  | listDevices
  | trustDevice (deviceId : String)
  | renameDevice (deviceId : String)
  | startPairing
  | confirmPairing
  | createClip
  | latestClip
  | clipHistory
  | getClip (clipId : String)
  | deleteClip (clipId : String)
  | createRelaySession
  | relayWsUpgrade (sessionId : String)
  | wsUpgrade
  | simpleCreateClip
  | simpleLatestClip
  deriving DecidableEq

/-- What a handler asks of its caller. -/
inductive Access where
  | health
  /-- A handler without a `TrustedDevice`, outside `/v1/simple/`. -/
  | unsigned
  | simple
  | trustedDevice
  deriving DecidableEq

def Handler.access : Handler → Access
  | .health => .health
  | .registerDevice => .unsigned
  | .confirmPairing => .unsigned
  | .simpleCreateClip => .simple
  | .simpleLatestClip => .simple
  | .listDevices => .trustedDevice
  | .trustDevice _ => .trustedDevice
  | .renameDevice _ => .trustedDevice
  | .startPairing => .trustedDevice
  | .createClip => .trustedDevice
  | .latestClip => .trustedDevice
  | .clipHistory => .trustedDevice
  | .getClip _ => .trustedDevice
  | .deleteClip _ => .trustedDevice
  | .createRelaySession => .trustedDevice
  | .relayWsUpgrade _ => .trustedDevice
  | .wsUpgrade => .trustedDevice

/-! ## The router -/

/-- The handlers of a path, by method. -/
abbrev MethodRouter := List (String × Handler)

/-- `get`, which answers `HEAD` too. -/
def get (handler : Handler) : MethodRouter := [("GET", handler), ("HEAD", handler)]

def post (handler : Handler) : MethodRouter := [("POST", handler)]

def delete (handler : Handler) : MethodRouter := [("DELETE", handler)]

/-- The paths without a parameter. -/
def fixedRoutes : List (String × MethodRouter) :=
  [("/health", get .health),
   ("/v1/health", get .health),
   ("/v1/devices", get .listDevices ++ post .registerDevice),
   ("/v1/pair/start", post .startPairing),
   ("/v1/pair/confirm", post .confirmPairing),
   ("/v1/clips", post .createClip),
   ("/v1/clips/latest", get .latestClip),
   ("/v1/clips/history", get .clipHistory),
   ("/v1/relay/sessions", post .createRelaySession),
   ("/v1/ws", get .wsUpgrade),
   ("/v1/simple/clips", post .simpleCreateClip),
   ("/v1/simple/clips/latest", get .simpleLatestClip)]

/-- The segments of a path below a base. -/
def segmentsBelow (base path : String) : List (List Char) :=
  match Text.stripPrefix path base with
  | none => []
  | some rest => Text.splitChars (· == '/') rest.toList

/-- The paths with a parameter, which is a segment that is not empty. -/
def parameterRoutes (path : String) : MethodRouter :=
  match deviceAction path with
  | some (deviceId, "trust") => post (.trustDevice deviceId)
  | some (deviceId, "rename") => post (.renameDevice deviceId)
  | _ =>
      match segmentsBelow "/v1/clips/" path with
      | [clipId] =>
          if clipId.isEmpty then []
          else get (.getClip (String.ofList clipId)) ++ delete (.deleteClip (String.ofList clipId))
      | _ =>
          match segmentsBelow "/v1/relay/" path with
          | [sessionId, ['w', 's']] =>
              if sessionId.isEmpty then [] else get (.relayWsUpgrade (String.ofList sessionId))
          | _ => []

/-- The handler of a request; a path without a parameter goes before one with. -/
def handlerOf (method path : String) : Option Handler :=
  ((fixedRoutes.lookup path).getD (parameterRoutes path)).lookup method

inductive GateOutcome where
  | rejected (error : ApiError)
  | unmatched
  /-- The request reaches a handler, with the device its `TrustedDevice` holds. -/
  | reached (handler : Handler) (device : Option Device)
  deriving DecidableEq

/-- The middleware, the router and the `TrustedDevice` extractor. -/
def gate (x : Crates) (state : AppState) (now : Timestamp) (request : HttpRequest) :
    GateOutcome × AppState :=
  match requireAuth x state now request with
  | (.error error, state) => (.rejected error, state)
  | (.ok verified, state) =>
      match handlerOf request.method request.path with
      | none => (.unmatched, state)
      | some handler =>
          if handler.access = .trustedDevice then
            match trustedDevice verified with
            | .error error => (.rejected error, state)
            | .ok device => (.reached handler (some device), state)
          else (.reached handler none, state)

/-! ## The two routers agree -/

/-- The handlers of the device and pairing tables are those of the smaller router. -/
def Handler.route : Handler → Route
  | .registerDevice => .registerDevice
  | .trustDevice deviceId => .trustDevice deviceId
  | .renameDevice deviceId => .renameDevice deviceId
  | .startPairing => .startPairing
  | .confirmPairing => .confirmPairing
  | _ => .elsewhere

section Router

variable {method path : String} {handler : Handler}

theorem mem_of_lookup {α β : Type} [DecidableEq α] {table : List (α × β)} {key : α} {value : β}
    (found : table.lookup key = some value) : (key, value) ∈ table := by
  obtain ⟨before, after, split, -⟩ := List.lookup_eq_some_iff.mp found
  rw [split]
  exact List.mem_append_right _ List.mem_cons_self

/-- Behind a parameter there are only handlers that take a `TrustedDevice`. -/
theorem parameterRoutes_access {answer : String × Handler}
    (member : answer ∈ parameterRoutes path) : answer.2.access = .trustedDevice := by
  unfold parameterRoutes at member
  split at member
  · cases List.mem_singleton.mp member
    rfl
  · cases List.mem_singleton.mp member
    rfl
  · split at member
    · split at member
      · cases member
      · simp only [get, delete, List.cons_append, List.nil_append, List.mem_cons,
          List.not_mem_nil, or_false] at member
        rcases member with rfl | rfl | rfl <;> rfl
    · split at member
      · split at member
        · cases member
        · simp only [get, List.mem_cons, List.not_mem_nil, or_false] at member
          rcases member with rfl | rfl <;> rfl
      · cases member

/-- A handler is found among those of its path, or behind a parameter. -/
theorem handlerOf_cases (matched : handlerOf method path = some handler) :
    (∃ answers, (path, answers) ∈ fixedRoutes ∧ (method, handler) ∈ answers) ∨
      (method, handler) ∈ parameterRoutes path := by
  unfold handlerOf at matched
  cases fixed : fixedRoutes.lookup path with
  | some answers =>
      rw [fixed] at matched
      exact .inl ⟨answers, mem_of_lookup fixed, mem_of_lookup matched⟩
  | none =>
      rw [fixed] at matched
      exact .inr (mem_of_lookup matched)

/-- The paths without a parameter, each with the access its handlers ask for. -/
theorem fixedRoutes_access : ∀ fixed ∈ fixedRoutes, ∀ answer ∈ fixed.2,
    (answer.2.access = .simple ↔ Text.startsWith fixed.1 "/v1/simple/" = true) ∧
    (answer.2.access = .health ↔ fixed.1 = "/health" ∨ fixed.1 = "/v1/health") := by
  decide +kernel

/-- On the paths without a parameter, the smaller router gives the same handlers. -/
theorem fixedRoutes_route : ∀ fixed ∈ fixedRoutes,
    route "POST" fixed.1 = ((fixed.2.lookup "POST").map Handler.route).getD .elsewhere ∧
    ∀ answer ∈ fixed.2, answer.1 ≠ "POST" → answer.2.route = .elsewhere := by
  decide +kernel

theorem parameterRoutes_route (path : String) :
    (∀ answer ∈ parameterRoutes path, answer.1 ≠ "POST" → answer.2.route = .elsewhere) ∧
    (match deviceAction path with
      | some (deviceId, "trust") => Route.trustDevice deviceId
      | some (deviceId, "rename") => .renameDevice deviceId
      | _ => .elsewhere) =
      (((parameterRoutes path).lookup "POST").map Handler.route).getD .elsewhere := by
  unfold parameterRoutes
  split
  · exact ⟨fun answer member other => by simp_all [post], rfl⟩
  · exact ⟨fun answer member other => by simp_all [post], rfl⟩
  · split
    · split
      · exact ⟨nofun, rfl⟩
      · refine ⟨fun answer member _ => ?_, rfl⟩
        simp only [get, delete, List.cons_append, List.nil_append, List.mem_cons,
          List.not_mem_nil, or_false] at member
        rcases member with rfl | rfl | rfl <;> rfl
    · split
      · split
        · exact ⟨nofun, rfl⟩
        · refine ⟨fun answer member _ => ?_, rfl⟩
          simp only [get, List.mem_cons, List.not_mem_nil, or_false] at member
          rcases member with rfl | rfl <;> rfl
      · exact ⟨nofun, rfl⟩

/-- The router of the device and pairing tables is the whole router, seen from them. -/
theorem route_eq_handlerOf (method path : String) :
    route method path = ((handlerOf method path).map Handler.route).getD .elsewhere := by
  have others : ∀ answers : MethodRouter,
      (∀ answer ∈ answers, answer.1 ≠ "POST" → answer.2.route = .elsewhere) → method ≠ "POST" →
      ((answers.lookup method).map Handler.route).getD .elsewhere = .elsewhere := by
    intro answers silent other
    cases found : answers.lookup method with
    | none => rfl
    | some handler => exact silent _ (mem_of_lookup found) other
  unfold handlerOf
  cases fixed : fixedRoutes.lookup path with
  | some answers =>
      obtain ⟨posted, silent⟩ := fixedRoutes_route _ (mem_of_lookup fixed)
      rw [Option.getD_some]
      by_cases isPost : method = "POST"
      · rw [isPost]
        exact posted
      · rw [others answers silent isPost]
        exact if_pos isPost
  | none =>
      obtain ⟨silent, posted⟩ := parameterRoutes_route path
      rw [Option.getD_none]
      by_cases isPost : method = "POST"
      · have absent := List.lookup_eq_none_iff.mp fixed
        rw [isPost, ← posted]
        have noDevices : path ≠ "/v1/devices" := by
          simpa using absent _ (List.mem_of_getElem? (i := 2) rfl)
        have noStart : path ≠ "/v1/pair/start" := by
          simpa using absent _ (List.mem_of_getElem? (i := 3) rfl)
        have noConfirm : path ≠ "/v1/pair/confirm" := by
          simpa using absent _ (List.mem_of_getElem? (i := 4) rfl)
        exact (if_neg (not_not_intro rfl)).trans ((if_neg noDevices).trans
          ((if_neg noStart).trans (if_neg noConfirm)))
      · rw [others _ silent isPost]
        exact if_pos isPost

end Router

/-! ## The bearer token -/

/-- The token after `Bearer ` in the authorization header. -/
def bearer (headers : HeaderMap) : Option String :=
  ((headerGet headers "authorization").bind headerToStr).bind fun value =>
    Text.stripPrefix value "Bearer "

/-- The loop of the comparison: the difference stays zero over equal pairs only. -/
theorem constantTimeEq_loop (pairs : List (UInt8 × UInt8)) (diff : UInt8) :
    pairs.foldl (fun diff pair => diff ||| (pair.1 ^^^ pair.2)) diff = 0 ↔
      diff = 0 ∧ ∀ pair ∈ pairs, pair.1 = pair.2 := by
  induction pairs generalizing diff with
  | nil => simp
  | cons pair rest ih =>
      rw [List.foldl_cons, ih, UInt8.or_eq_zero_iff, UInt8.xor_eq_zero_iff, List.forall_mem_cons,
        and_assoc]

theorem constantTimeEq_iff {left right : List UInt8} :
    constantTimeEq left right = true ↔ left = right := by
  unfold constantTimeEq
  split
  next other =>
      refine ⟨nofun, fun same => absurd (congrArg List.length same) other⟩
  next length =>
      rw [ne_eq, Decidable.not_not] at length
      rw [beq_iff_eq, constantTimeEq_loop, and_iff_right rfl]
      constructor
      · intro equal
        apply List.ext_getElem length
        intro i leftBound rightBound
        have member : (left[i], right[i]) ∈ left.zip right := by
          rw [← List.getElem_zip (h := by simp; omega)]
          exact List.getElem_mem _
        exact equal _ member
      · rintro rfl pair member
        obtain ⟨i, bound, rfl⟩ := List.getElem_of_mem member
        simp

theorem bearerAuthorized_iff {headers : HeaderMap} {expected : String} :
    bearerAuthorized headers expected = true ↔ bearer headers = some expected := by
  unfold bearerAuthorized bearer
  cases ((headerGet headers "authorization").bind headerToStr).bind fun value =>
      Text.stripPrefix value "Bearer " with
  | none => exact ⟨nofun, nofun⟩
  | some actual => rw [constantTimeEq_iff, Text.toUTF8_toList_inj, Option.some.injEq]

/-! ## What a request has shown -/

section Gate

variable {x : Crates} {state : AppState} {now : Timestamp} {request : HttpRequest}
  {handler : Handler} {device : Option Device}

/-- The signature of a request, by what its headers carry. -/
structure Signed (x : Crates) (state : AppState) (now : Timestamp) (request : HttpRequest)
    (device : Device) (signed : SignedRequestHeaders) : Prop where
  named : headerValue request.headers airpasteDeviceIdHeader = .ok signed.deviceId.asStr
  carried : SignedRequestHeaders.fromHeaders request.headers = .ok signed
  stored : state.store.devices.get signed.deviceId.asStr = some device
  trusted : device.trusted = true
  key : Text.trim device.publicKey ≠ ""
  body : ∃ body, request.body = some body ∧
    restBodySha256Base64url x.sha256 body = signed.bodySha256
  recent : ∃ timestamp, x.parseFromRfc3339 signed.timestamp = some timestamp ∧
    timestamp - now ≤ seconds 300 ∧ now - timestamp ≤ seconds 300
  verified : ∃ publicKey signature,
    x.base64Decode (Text.trim device.publicKey) = some publicKey ∧
    x.base64Decode signed.signature = some signature ∧
    x.ed25519Verify publicKey
      (restSigningMessage request.method request.pathAndQuery signed.deviceId signed.timestamp
        signed.nonce signed.bodySha256) signature = true
  /-- The nonce was not in the cache, or its entry had expired. -/
  fresh : ∀ entry, state.nonceCache.entries.get
    (NonceEntry.keyOf signed.deviceId signed.nonce) = some entry → entry.expiresAt ≤ now

/-- What holds of a request that reaches a handler. -/
structure Admitted (x : Crates) (state : AppState) (now : Timestamp) (request : HttpRequest)
    (handler : Handler) (device : Option Device) : Prop where
  /-- A handler below `/v1/simple/` asks for the simple token. -/
  simple : handler.access = .simple →
    ∃ token, state.simpleToken = some token ∧ bearer request.headers = some token
  /-- Every other handler but the health check asks for the main token, when one is set. -/
  main : handler.access ≠ .simple → handler.access ≠ .health →
    ∀ token, state.authToken = some token → bearer request.headers = some token
  /-- A handler that takes a `TrustedDevice` asks for a signature, and is given the signer. -/
  trusted : handler.access = .trustedDevice →
    ∃ signer signed, device = some signer ∧ Signed x state now request signer signed
  /-- The main token by itself opens nothing below `/v1/simple/`. -/
  mainAlone : ∀ token, bearer request.headers = some token → state.authToken = some token →
    state.simpleToken ≠ some token → handler.access ≠ .simple
  /-- The simple token by itself opens nothing elsewhere. -/
  simpleAlone : ∀ token expected, bearer request.headers = some token →
    state.simpleToken = some token → state.authToken = some expected → expected ≠ token →
    handler.access = .simple ∨ handler.access = .health

theorem carried_named {headers : HeaderMap} {signed : SignedRequestHeaders}
    (carried : SignedRequestHeaders.fromHeaders headers = .ok signed) :
    headerValue headers airpasteDeviceIdHeader = .ok signed.deviceId.asStr := by
  simp only [SignedRequestHeaders.fromHeaders, bind_ok_iff] at carried
  obtain ⟨alg, -, -, -, deviceId, named, timestamp, -, nonce, -, bodySha256, -, signature, -,
    same⟩ := carried
  cases same
  unfold deviceIdFromHeaders at named
  split at named
  next value found =>
      cases named
      exact found
  next => cases named

theorem verifyRestSignature_ok {device : Device} {method pathAndQuery : String}
    {signed : SignedRequestHeaders}
    (verified : verifyRestSignature x device method pathAndQuery signed = .ok ()) :
    ∃ publicKey signature, x.base64Decode (Text.trim device.publicKey) = some publicKey ∧
      x.base64Decode signed.signature = some signature ∧
      x.ed25519Verify publicKey
        (restSigningMessage method pathAndQuery signed.deviceId signed.timestamp signed.nonce
          signed.bodySha256) signature = true := by
  simp only [verifyRestSignature, bind_ok_iff, okOr_ok_iff, ensure_ok_iff] at verified
  obtain ⟨publicKey, decoded, -, -, -, -, signature, signatureDecoded, -, -, valid⟩ := verified
  exact ⟨publicKey, signature, decoded, signatureDecoded, valid⟩

/-- A verified request has shown everything that `Signed` lists. -/
theorem signed_of_verified {signer : Device}
    (verified : (verifySignedRequest x state now request).1 = .ok signer) :
    ∃ signed, Signed x state now request signer signed := by
  obtain ⟨signed, accepted, fresh⟩ := verifySignedRequest_ok_iff.mp verified
  obtain ⟨body, read, carried, hash, known, recent, signature⟩ := signedDevice_ok_iff.mp accepted
  obtain ⟨stored, trusted, key⟩ := validateTrustedDevice_ok_iff.mp known
  have arrived : request.body = some body := by
    simp only [readBody, okOr_ok_iff] at read
    exact (Option.filter_eq_some_iff.mp read).1
  exact ⟨signed, {
    named := carried_named carried
    carried := carried
    stored := stored
    trusted := trusted
    key := key
    body := ⟨body, arrived, hash⟩
    recent := validateTimestamp_ok_iff.mp recent
    verified := verifyRestSignature_ok signature
    fresh := NonceCache.record_accepts_iff.mp fresh }⟩

/-- What `require_auth` lets pass outside the health check. -/
theorem requireAuth_bearer {verified : Option Device}
    (passed : (requireAuth x state now request).1 = .ok verified)
    (health : ¬ (request.path = "/health" ∨ request.path = "/v1/health")) :
    if Text.startsWith request.path "/v1/simple/" then
      ∃ token, state.simpleToken = some token ∧ bearer request.headers = some token
    else ∀ token, state.authToken = some token → bearer request.headers = some token := by
  simp only [requireAuth, Bool.or_eq_true, beq_iff_eq, if_neg health] at passed
  split
  next simple =>
      rw [if_pos simple] at passed
      cases expected : state.simpleToken with
      | none =>
          simp only [expected] at passed
          cases passed
      | some token =>
          simp only [expected] at passed
          split at passed
          next authorized => exact ⟨token, rfl, bearerAuthorized_iff.mp authorized⟩
          next => cases passed
  next elsewhere =>
      rw [if_neg elsewhere] at passed
      intro token expected
      split at passed
      · cases passed
      next authorized =>
          rw [expected] at authorized
          simpa [bearerAuthorized_iff] using authorized

/-- A request that reaches a handler was let pass, to a handler of its path. -/
theorem gate_passed (reached : (gate x state now request).1 = .reached handler device) :
    ∃ verified, (requireAuth x state now request).1 = .ok verified ∧
      handlerOf request.method request.path = some handler ∧
      (handler.access = .trustedDevice → verified = device ∧ device.isSome = true) := by
  unfold gate at reached
  generalize requireAuth x state now request = result at reached
  obtain ⟨outcome, after⟩ := result
  cases outcome with
  | error error => cases reached
  | ok verified =>
      refine ⟨verified, rfl, ?_⟩
      simp only at reached
      cases matched : handlerOf request.method request.path with
      | none =>
          rw [matched] at reached
          cases reached
      | some found =>
          rw [matched] at reached
          simp only at reached
          split at reached
          next access =>
              cases verified with
              | none => cases reached
              | some signer =>
                  cases reached
                  exact ⟨rfl, fun _ => ⟨rfl, rfl⟩⟩
          next other =>
              cases reached
              exact ⟨rfl, fun access => absurd access other⟩

/-- The access that a handler asks for is a matter of its path. -/
theorem access_of_handlerOf (matched : handlerOf request.method request.path = some handler) :
    (handler.access = .simple → Text.startsWith request.path "/v1/simple/" = true ∧
      ¬ (request.path = "/health" ∨ request.path = "/v1/health")) ∧
    (handler.access = .unsigned → Text.startsWith request.path "/v1/simple/" = false ∧
      ¬ (request.path = "/health" ∨ request.path = "/v1/health")) := by
  rcases handlerOf_cases matched with ⟨answers, listed, answer⟩ | member
  · obtain ⟨simple, health⟩ := fixedRoutes_access _ listed _ answer
    constructor
    · intro access
      refine ⟨simple.mp access, fun path => ?_⟩
      rw [health.mpr path] at access
      cases access
    · intro access
      constructor
      · rw [← Bool.not_eq_true, ← simple, access]
        nofun
      · rw [← health, access]
        nofun
  · have access : handler.access = .trustedDevice := parameterRoutes_access member
    rw [access]
    exact ⟨nofun, nofun⟩

/-- A request that reaches a handler has shown what the handler asks for. -/
theorem gate_reached (reached : (gate x state now request).1 = .reached handler device) :
    Admitted x state now request handler device := by
  obtain ⟨verified, passed, matched, extracted⟩ := gate_passed reached
  obtain ⟨simplePath, unsignedPath⟩ := access_of_handlerOf matched
  have simple : handler.access = .simple →
      ∃ token, state.simpleToken = some token ∧ bearer request.headers = some token := by
    intro access
    have shown := requireAuth_bearer passed (simplePath access).2
    rw [if_pos (simplePath access).1] at shown
    exact shown
  have signed : handler.access = .trustedDevice → ∃ signer, device = some signer ∧
      reachesVerification state.authToken request = true ∧
      (verifySignedRequest x state now request).1 = .ok signer := by
    intro access
    obtain ⟨rfl, present⟩ := extracted access
    obtain ⟨signer, rfl⟩ := Option.isSome_iff_exists.mp present
    exact ⟨signer, rfl, requireAuth_verified_iff.mp passed⟩
  have main : handler.access ≠ .simple → handler.access ≠ .health →
      ∀ token, state.authToken = some token → bearer request.headers = some token := by
    intro notSimple notHealth token expected
    cases access : handler.access with
    | simple => exact absurd access notSimple
    | health => exact absurd access notHealth
    | unsigned =>
        have shown := requireAuth_bearer passed (unsignedPath access).2
        rw [if_neg (by rw [(unsignedPath access).1]; exact Bool.false_ne_true)] at shown
        exact shown token expected
    | trustedDevice =>
        obtain ⟨signer, -, reaches, -⟩ := signed access
        simp only [reachesVerification, expected, Option.all_some, Bool.and_eq_true,
          bearerAuthorized_iff] at reaches
        exact reaches.1.2
  refine ⟨simple, main, ?_, ?_, ?_⟩
  · intro access
    obtain ⟨signer, same, -, accepted⟩ := signed access
    obtain ⟨headers, shown⟩ := signed_of_verified accepted
    exact ⟨signer, headers, same, shown⟩
  · intro token carried _ other access
    obtain ⟨expected, known, same⟩ := simple access
    exact other (known.trans (same.symm.trans carried))
  · intro token expected carried _ known other
    by_contra elsewhere
    obtain ⟨notSimple, notHealth⟩ := not_or.mp elsewhere
    exact other (Option.some.inj ((main notSimple notHealth expected known).symm.trans carried))

end Gate

namespace Forgotten

open Sample

def laptop : Device :=
  ⟨⟨"dev_laptop"⟩, "Laptop", laptopKey, "", true, signedInstant - seconds 86400, none⟩

/-- The nonce of the request, remembered until just before it arrives. -/
def entry : NonceEntry := ⟨⟨"dev_laptop"⟩, "n1", signedInstant - seconds 1⟩

def state : AppState where
  store := { Db.empty with devices := Db.empty.devices.put laptop }
  authToken := none
  simpleToken := some "inbox"
  nonceCache := ⟨seconds 300, KeyedTable.empty.put entry⟩

theorem list_reached :
    (gate crates state signedInstant listRequest).1 = .reached .listDevices (some laptop) := by
  decide +kernel

/-- The pair of the request is in the cache, and the request reaches its handler. -/
theorem forgotten_reached :
    (gate crates state signedInstant listRequest).1 = .reached .listDevices (some laptop) ∧
      state.nonceCache.entries.get (NonceEntry.keyOf ⟨"dev_laptop"⟩ "n1") = some entry :=
  ⟨list_reached, by decide +kernel⟩

theorem laptop_admitted :
    Admitted crates state signedInstant listRequest .listDevices (some laptop) :=
  gate_reached list_reached

end Forgotten

end AirPaste.Server
