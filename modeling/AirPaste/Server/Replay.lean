/-
# Server.Replay — when a signed request can be replayed

Two windows guard against replay.  The nonce cache remembers an accepted nonce for
300 seconds from acceptance; the skew check refuses a timestamp more than 300
seconds away from the server clock, in either direction.  The second window is
counted from the signed timestamp, so it ends before the first exactly when that
timestamp lies strictly before the server clock at acceptance.
`replayRejected_iff` is that comparison, in every run of the server.
-/
import AirPaste.Server.Effects

namespace AirPaste.Server

open AirPaste.Core
open AirPaste.Protocol
open AirPaste.Theory

set_option autoImplicit false

/-- The arrivals come at nondecreasing times. -/
def InOrder (arrivals : List Arrival) : Prop :=
  arrivals.Pairwise fun earlier later => earlier.now ≤ later.now

instance (arrivals : List Arrival) : Decidable (InOrder arrivals) :=
  inferInstanceAs (Decidable (List.Pairwise _ arrivals))

/-- The same device id, nonce, timestamp and signature. -/
def SameCredentials (a b : SignedRequestHeaders) : Prop :=
  a.deviceId = b.deviceId ∧ a.nonce = b.nonce ∧ a.timestamp = b.timestamp ∧
    a.signature = b.signature

section Replay

variable (x : Crates)

/-- `verify_signed_request` accepts the arrival, and these are its signed headers. -/
def Accepts (state : AppState) (arrival : Arrival) (headers : SignedRequestHeaders) : Prop :=
  match arrival with
  | .http now _ _ request =>
      (∃ device, (requireAuth x state now request).1 = .ok (some device)) ∧
        SignedRequestHeaders.fromHeaders request.headers = .ok headers
  | .touch _ _ => False

/-- The signed timestamp lies strictly before the server clock at arrival. -/
def SignedBefore (arrival : Arrival) (headers : SignedRequestHeaders) : Prop :=
  ∃ timestamp, x.parseFromRfc3339 headers.timestamp = some timestamp ∧ timestamp < arrival.now

/-- Nothing that follows `arrival` replays it: later requests with its credentials are
rejected, whatever is served in between. -/
def NeverReplayed (start : AppState) (before : List Arrival) (arrival : Arrival)
    (headers : SignedRequestHeaders) : Prop :=
  ∀ middle replay replayed, InOrder (before ++ arrival :: (middle ++ [replay])) →
    SameCredentials headers replayed →
      ¬ Accepts x (servedState x start (before ++ arrival :: middle)) replay replayed

variable {x} {state : AppState} {arrival : Arrival} {headers : SignedRequestHeaders}

/-- What an acceptance says about the clocks and the nonce cache. -/
theorem accepts_inv (accepted : Accepts x state arrival headers) :
    ∃ timestamp, x.parseFromRfc3339 headers.timestamp = some timestamp ∧
      timestamp - arrival.now ≤ maxRestSignatureSkew ∧
      arrival.now - timestamp ≤ maxRestSignatureSkew ∧
      (state.nonceCache.record arrival.now headers.deviceId headers.nonce).1 = true ∧
      (serve x state arrival).2.nonceCache =
        (state.nonceCache.record arrival.now headers.deviceId headers.nonce).2 := by
  cases arrival with
  | touch now deviceId => exact accepted.elim
  | http now deviceUlid pairingUlid request =>
      obtain ⟨⟨device, verified⟩, carried⟩ := accepted
      obtain ⟨reaches, accepted⟩ := requireAuth_verified_iff.mp verified
      obtain ⟨found, signed, fresh⟩ := verifySignedRequest_ok_iff.mp accepted
      have checks := signedDevice_ok_iff.mp signed
      obtain ⟨body, -, parsed, -, -, recent, -⟩ := checks
      have same : found = headers := Except.ok.inj (parsed.symm.trans carried)
      subst same
      obtain ⟨timestamp, read, ahead, behind⟩ := validateTimestamp_ok_iff.mp recent
      refine ⟨timestamp, read, ahead, behind, fresh, ?_⟩
      obtain ⟨store, served, -⟩ := serve_http (x := x) state now deviceUlid pairingUlid request
      rw [served, requireAuth_reaches reaches]
      simp only [verifySignedRequest, signed]
      split <;> rfl

/-! ## The nonce cache over a run -/

/-- The server remembers a nonce until this instant. -/
def ServerRemembers (state : AppState) (deviceId : DeviceId) (nonce : String)
    (expiresAt : Timestamp) : Prop :=
  state.nonceCache.Remembers deviceId nonce expiresAt

/-- Serving an arrival records at most one nonce. -/
theorem serve_nonceCache (x : Crates) (state : AppState) (arrival : Arrival) :
    (serve x state arrival).2.nonceCache = state.nonceCache ∨
      ∃ deviceId nonce, (serve x state arrival).2.nonceCache =
        (state.nonceCache.record arrival.now deviceId nonce).2 := by
  cases arrival with
  | touch now deviceId => exact Or.inl rfl
  | http now deviceUlid pairingUlid request =>
      obtain ⟨store, served, -⟩ := serve_http (x := x) state now deviceUlid pairingUlid request
      rw [served]
      rcases requireAuth_state x state now request with same | ⟨headers, recorded⟩
      · exact Or.inl (by rw [same])
      · exact Or.inr ⟨headers.deviceId, headers.nonce, by rw [recorded]; rfl⟩

theorem serve_ttl (x : Crates) (state : AppState) (arrival : Arrival) :
    (serve x state arrival).2.nonceCache.ttl = state.nonceCache.ttl := by
  rcases serve_nonceCache x state arrival with same | ⟨deviceId, nonce, recorded⟩
  · rw [same]
  · rw [recorded, NonceCache.record_ttl]

theorem remembers_serve {deviceId : DeviceId} {nonce : String} {expiresAt : Timestamp}
    (known : ServerRemembers state deviceId nonce expiresAt) (live : arrival.now < expiresAt) :
    ServerRemembers (serve x state arrival).2 deviceId nonce expiresAt := by
  unfold ServerRemembers
  rcases serve_nonceCache x state arrival with same | ⟨otherId, other, recorded⟩
  · rw [same]
    exact known
  · rw [recorded]
    exact NonceCache.record_keeps known live otherId other

theorem remembers_served {deviceId : DeviceId} {nonce : String} {expiresAt : Timestamp}
    {arrivals : List Arrival} (known : ServerRemembers state deviceId nonce expiresAt)
    (live : ∀ arrival ∈ arrivals, arrival.now < expiresAt) :
    ServerRemembers (servedState x state arrivals) deviceId nonce expiresAt := by
  have keeps : ∀ (state : AppState) (arrival : Arrival), arrival.now < expiresAt →
      ServerRemembers state deviceId nonce expiresAt →
        ServerRemembers (serve x state arrival).2 deviceId nonce expiresAt :=
    fun _ _ live known => remembers_serve known live
  exact run_keeps _ keeps live known

theorem ttl_served (x : Crates) (state : AppState) (arrivals : List Arrival) :
    (servedState x state arrivals).nonceCache.ttl = state.nonceCache.ttl := by
  have keeps : ∀ (reached : AppState) (arrival : Arrival),
      reached.nonceCache.ttl = state.nonceCache.ttl →
        (serve x reached arrival).2.nonceCache.ttl = state.nonceCache.ttl :=
    fun reached arrival same => (serve_ttl x reached arrival).trans same
  exact run_preserves keeps rfl arrivals

/-! ## A timestamp behind the server clock -/

/-- The nonce of an accepted request is remembered for 300 seconds. -/
theorem remembers_of_accepts (ttl : state.nonceCache.ttl = seconds 300)
    (accepted : Accepts x state arrival headers) :
    ServerRemembers (serve x state arrival).2 headers.deviceId headers.nonce
      (arrival.now + seconds 300) := by
  obtain ⟨timestamp, -, -, -, fresh, recorded⟩ := accepts_inv accepted
  simp only [ServerRemembers]
  rw [recorded, ← ttl]
  exact NonceCache.remembers_of_record fresh

/-- A replay is refused while the nonce is remembered. -/
theorem not_accepts_remembered {expiresAt : Timestamp} {replayed : SignedRequestHeaders}
    (same : SameCredentials headers replayed)
    (known : ServerRemembers state headers.deviceId headers.nonce expiresAt)
    (live : arrival.now < expiresAt) : ¬ Accepts x state arrival replayed := by
  intro accepted
  obtain ⟨timestamp, -, -, -, fresh, -⟩ := accepts_inv accepted
  obtain ⟨device, nonce, -, -⟩ := same
  rw [← device, ← nonce, NonceCache.record_refuses known live] at fresh
  cases fresh

/-- A replay is refused once its timestamp is stale. -/
theorem not_accepts_stale {timestamp : Timestamp} {replayed : SignedRequestHeaders}
    (same : SameCredentials headers replayed)
    (read : x.parseFromRfc3339 headers.timestamp = some timestamp)
    (stale : maxRestSignatureSkew < arrival.now - timestamp) :
    ¬ Accepts x state arrival replayed := by
  intro accepted
  obtain ⟨found, readAgain, -, behind, -, -⟩ := accepts_inv accepted
  obtain ⟨-, -, sameTimestamp, -⟩ := same
  rw [← sameTimestamp, read] at readAgain
  cases readAgain
  exact absurd stale (not_lt.mpr behind)

theorem neverReplayed_of_signedBefore {start : AppState} {before : List Arrival}
    (ttl : start.nonceCache.ttl = seconds 300)
    (accepted : Accepts x (servedState x start before) arrival headers)
    (early : SignedBefore x arrival headers) : NeverReplayed x start before arrival headers := by
  intro middle replay replayed ordered same
  have reachedTtl : (servedState x start before).nonceCache.ttl = seconds 300 :=
    (ttl_served x start before).trans ttl
  have known := remembers_of_accepts reachedTtl accepted
  have split : servedState x start (before ++ arrival :: middle) =
      servedState x (serve x (servedState x start before) arrival).2 middle :=
    runFrom_append _ start before (arrival :: middle)
  rw [split]
  -- before the nonce expires it is remembered; from then on the timestamp is stale
  by_cases late : replay.now < arrival.now + seconds 300
  · refine not_accepts_remembered same (remembers_served known fun other member => ?_) late
    have order := (List.pairwise_append.mp ordered).2.1
    have order := (List.pairwise_cons.mp order).2
    have last := (List.pairwise_append.mp order).2.2 other member replay (List.mem_singleton_self _)
    exact lt_of_le_of_lt last late
  · obtain ⟨timestamp, read, earlier⟩ := early
    apply not_accepts_stale same read
    simp only [maxRestSignatureSkew, Timestamp] at *
    omega

/-! ## A timestamp at or ahead of the server clock -/

/-- A signature check depends on the key of the device only. -/
theorem verifyRestSignature_congr {device other : Device}
    (key : other.publicKey = device.publicKey) (method pathAndQuery : String)
    (headers : SignedRequestHeaders) :
    verifyRestSignature x other method pathAndQuery headers =
      verifyRestSignature x device method pathAndQuery headers := by
  simp only [verifyRestSignature]
  rw [key]

/-- An accepted request passes every check but the nonce's again, 300 seconds later. -/
theorem signedDevice_again (deviceUlid : String) (pairingUlid : Nat) {now timestamp : Timestamp}
    {request : HttpRequest} {device : Device}
    (verified : (requireAuth x state now request).1 = .ok (some device))
    (signed : signedDevice x state now request = .ok (device, headers))
    (read : x.parseFromRfc3339 headers.timestamp = some timestamp) (ahead : now ≤ timestamp) :
    ∃ kept, signedDevice x (serve x state (.http now deviceUlid pairingUlid request)).2
      (now + seconds 300) request = .ok (kept, headers) := by
  obtain ⟨body, bytes, carried, hash, known, recent, signature⟩ := signedDevice_ok_iff.mp signed
  obtain ⟨stored, trusted, key⟩ := validateTrustedDevice_ok_iff.mp known
  have keeps : KeptDevice headers.deviceId state.store
      (serve x state (.http now deviceUlid pairingUlid request)).2.store :=
    keptDevice_serve fun ulid at' body registers =>
      absurd registers (not_registers_of_verified verified ulid at' body)
  obtain ⟨kept, there, sameKey, stays⟩ := keeps device stored
  refine ⟨kept, signedDevice_ok_iff.mpr ⟨body, bytes, carried, hash, ?_, ?_, ?_⟩⟩
  · refine validateTrustedDevice_ok_iff.mpr ⟨there, stays trusted, ?_⟩
    rw [sameKey]
    exact key
  · obtain ⟨same, readAgain, close, -⟩ := validateTimestamp_ok_iff.mp recent
    rw [read] at readAgain
    cases readAgain
    refine validateTimestamp_ok_iff.mpr ⟨timestamp, read, ?_, ?_⟩ <;>
      simp only [maxRestSignatureSkew, seconds, Timestamp] at * <;> omega
  · rw [verifyRestSignature_congr sameKey]
    exact signature

/-- Sent again as its nonce is forgotten, the request is accepted again. -/
theorem accepts_again {now timestamp : Timestamp} {deviceUlid : String} {pairingUlid : Nat}
    {request : HttpRequest} (ttl : state.nonceCache.ttl = seconds 300)
    (accepted : Accepts x state (.http now deviceUlid pairingUlid request) headers)
    (read : x.parseFromRfc3339 headers.timestamp = some timestamp) (ahead : now ≤ timestamp) :
    Accepts x (serve x state (.http now deviceUlid pairingUlid request)).2
      (.http (now + seconds 300) deviceUlid pairingUlid request) headers := by
  have known := remembers_of_accepts ttl accepted
  obtain ⟨⟨device, verified⟩, carried⟩ := accepted
  obtain ⟨reaches, verifies⟩ := requireAuth_verified_iff.mp verified
  obtain ⟨found, signed, -⟩ := verifySignedRequest_ok_iff.mp verifies
  obtain ⟨body, -, parsed, -⟩ := signedDevice_ok_iff.mp signed
  have same : found = headers := Except.ok.inj (parsed.symm.trans carried)
  subst same
  obtain ⟨kept, signedAgain⟩ := signedDevice_again deviceUlid pairingUlid verified signed read
    ahead
  refine ⟨⟨kept, requireAuth_verified_iff.mpr ⟨?_, ?_⟩⟩, carried⟩
  · rw [serve_authToken]
    exact reaches
  · refine verifySignedRequest_ok_iff.mpr ⟨found, signedAgain, ?_⟩
    exact NonceCache.record_accepts known le_rfl

variable (x) in
/-- **A request is safe from replay exactly when it was signed before the server's
clock at acceptance.** -/
theorem replayRejected_iff {store : Db} {authToken simpleToken : Option String}
    {before : List Arrival} {arrival : Arrival} {headers : SignedRequestHeaders}
    (ordered : InOrder (before ++ [arrival]))
    (accepted : Accepts x (servedState x (AppState.new store authToken simpleToken) before)
      arrival headers) :
    NeverReplayed x (AppState.new store authToken simpleToken) before arrival headers ↔
      SignedBefore x arrival headers := by
  refine ⟨fun never => ?_, neverReplayed_of_signedBefore rfl accepted⟩
  obtain ⟨timestamp, read, -, -, -, -⟩ := accepts_inv accepted
  by_contra late
  have ahead : arrival.now ≤ timestamp := by
    by_contra earlier
    exact late ⟨timestamp, read, not_le.mp earlier⟩
  cases arrival with
  | touch now deviceId => exact accepted.elim
  | http now deviceUlid pairingUlid request =>
      have ttl := ttl_served x (AppState.new store authToken simpleToken) before
      have again := accepts_again ttl accepted read ahead
      rw [← servedState_append] at again
      refine never [] (.http (now + seconds 300) deviceUlid pairingUlid request) headers ?_
        ⟨rfl, rfl, rfl, rfl⟩ again
      have later : InOrder ((before ++ [.http now deviceUlid pairingUlid request]) ++
          [.http (now + seconds 300) deviceUlid pairingUlid request]) := by
        refine List.pairwise_append.mpr ⟨ordered, List.pairwise_singleton _ _, ?_⟩
        intro earlier member last same
        obtain rfl := List.mem_singleton.mp same
        have upTo : earlier.now ≤ now := by
          rcases List.mem_append.mp member with first | own
          · exact (List.pairwise_append.mp ordered).2.2 earlier first _ (List.mem_singleton_self _)
          · obtain rfl := List.mem_singleton.mp own
            exact le_rfl
        show earlier.now ≤ now + seconds 300
        simp only [seconds, Timestamp] at *
        omega
      rw [List.append_assoc] at later
      exact later

end Replay

/-! ## One signature at two server clocks -/

namespace ClockAhead

open Sample

/-- The laptop registers. -/
def before : List Arrival := [.http (seconds 1767225000) "laptop" 0 (registerRequest laptopBody)]

/-- The signed device list, arriving this many seconds into the year. -/
def listAt (n : Int) : Arrival := .http (seconds (1767225600 + n)) "" 0 listRequest

def headers : SignedRequestHeaders :=
  ⟨⟨"dev_laptop"⟩, signedAt, "n1", emptyBodySha256, listSignature⟩

def laptop : Device :=
  ⟨⟨"dev_laptop"⟩, "Laptop", laptopKey, "", true, seconds 1767225000, none⟩

def start : AppState := AppState.new Db.empty none none

/-- Where the laptop is registered, the signed list passes while its time is near. -/
theorem list_accepted {n : Int} (near : validateTimestamp crates (seconds (1767225600 + n))
    signedAt = .ok ()) : Accepts crates (servedState crates start before) (listAt n) headers := by
  have carried : SignedRequestHeaders.fromHeaders listRequest.headers = .ok headers := by
    decide +kernel
  have known : validateTrustedDevice (servedState crates start before) ⟨"dev_laptop"⟩ =
      .ok laptop := by decide +kernel
  have signature : verifyRestSignature crates laptop "GET" "/v1/devices" headers = .ok () := by
    decide +kernel
  have hash : restBodySha256Base64url crates.sha256 [] = headers.bodySha256 := by decide +kernel
  have signed : signedDevice crates (servedState crates start before) (seconds (1767225600 + n))
      listRequest = .ok (laptop, headers) :=
    signedDevice_ok_iff.mpr ⟨[], rfl, carried, hash, known, near, signature⟩
  have reaches : reachesVerification (servedState crates start before).authToken listRequest =
      true := by decide +kernel
  have fresh : ((servedState crates start before).nonceCache.record
      (seconds (1767225600 + n)) headers.deviceId headers.nonce).1 = true := rfl
  exact ⟨⟨laptop, requireAuth_verified_iff.mpr ⟨reaches,
    verifySignedRequest_ok_iff.mpr ⟨headers, signed, fresh⟩⟩⟩, carried⟩

/-- Satisfiable pole: accepted ten seconds after it was signed, it is never replayed. -/
theorem behind_neverReplayed : NeverReplayed crates start before (listAt 130) headers := by
  have early : SignedBefore crates (listAt 130) headers := ⟨signedInstant, rfl, by decide⟩
  exact (replayRejected_iff crates (by decide) (list_accepted (by decide))).mpr early

/-- Refuting pole: accepted two minutes before the time it is signed for, it is
accepted once more five minutes later. -/
theorem ahead_replayed :
    ¬ ∀ (x : Crates) (store : Db) (authToken simpleToken : Option String)
      (before : List Arrival) (arrival : Arrival) (headers : SignedRequestHeaders),
      InOrder (before ++ [arrival]) →
      Accepts x (servedState x (AppState.new store authToken simpleToken) before) arrival headers →
      NeverReplayed x (AppState.new store authToken simpleToken) before arrival headers := by
  intro never
  have accepted := list_accepted (n := 0) (by decide)
  have again := accepts_again (ttl_served crates start before) accepted rfl
    (by decide : seconds (1767225600 + 0) ≤ signedInstant)
  rw [← listAt, ← servedState_append] at again
  exact never crates Db.empty none none before (listAt 0) headers (by decide) accepted []
    (listAt 300) headers (by decide) ⟨rfl, rfl, rfl, rfl⟩ again

end ClockAhead

end AirPaste.Server
