/-
# Server.Effects — what one arrival does to the store

`serve_effect` says once what serving an arrival can leave in the store: nothing
new, or the outcome of exactly one store operation whose conditions (the route
taken, the device verified, the body decoded) are those of the constructor.
-/
import AirPaste.Server.Routes

namespace AirPaste.Server

open AirPaste.Core
open AirPaste.Protocol
open AirPaste.Theory

set_option autoImplicit false

section Effects

variable (x : Crates)

/-- The arrival registers a device under this id, with the fields of its body. -/
def Registers (arrival : Arrival) (ulid : String) (now : Timestamp)
    (body : RegisterDeviceRequest) : Prop :=
  ∃ pairingUlid request, arrival = .http now ulid pairingUlid request ∧
    route request.method request.path = .registerDevice ∧ x.registerDeviceBody request = .ok body

/-- The arrival is a trust request for `deviceId`, authenticated as `requestDevice`. -/
def TrustsDevice (state : AppState) (arrival : Arrival) (requestDevice : Device)
    (deviceId : DeviceId) : Prop :=
  ∃ now deviceUlid pairingUlid request param,
    arrival = .http now deviceUlid pairingUlid request ∧
    route request.method request.path = .trustDevice param ∧
    (requireAuth x state now request).1 = .ok (some requestDevice) ∧
    x.pathParam param = .ok deviceId.asStr

/-- The arrival starts a pairing, authenticated as `requestDevice`. -/
def StartsPairing (state : AppState) (arrival : Arrival) (requestDevice : Device) (ulid : Nat)
    (now : Timestamp) (ttlSeconds : Option Int) : Prop :=
  ∃ deviceUlid request body, arrival = .http now deviceUlid ulid request ∧
    route request.method request.path = .startPairing ∧
    (requireAuth x state now request).1 = .ok (some requestDevice) ∧
    x.startPairingBody request = .ok body ∧
    (body.createdBy.all fun createdBy => createdBy == requestDevice.deviceId) = true ∧
    ttlSeconds = body.ttlSeconds

/-- The arrival confirms a code for `deviceId`. -/
def ConfirmsPairing (arrival : Arrival) (now : Timestamp) (code : PairingCode)
    (deviceId : DeviceId) : Prop :=
  ∃ deviceUlid pairingUlid request, arrival = .http now deviceUlid pairingUlid request ∧
    route request.method request.path = .confirmPairing ∧
    x.confirmPairingBody request = .ok ⟨code, deviceId⟩

/-- Everything one arrival can leave in the store. -/
inductive StoreEffect (state : AppState) (arrival : Arrival) : Db → Prop where
  | same : StoreEffect state arrival state.store
  | register (ulid : String) (now : Timestamp) (body : RegisterDeviceRequest)
      (registers : Registers x arrival ulid now body) :
      StoreEffect state arrival ((Store.registerDevice ulid now body.name body.publicKey
        body.encryptionPublicKey).run state.store).2
  | trust (requestDevice : Device) (deviceId : DeviceId)
      (trusts : TrustsDevice x state arrival requestDevice deviceId) :
      StoreEffect state arrival ((Store.trustDevice deviceId).run state.store).2
  | rename (deviceId : DeviceId) (name : String) :
      StoreEffect state arrival ((Store.renameDevice deviceId name).run state.store).2
  | start (requestDevice : Device) (ulid : Nat) (now : Timestamp) (ttlSeconds : Option Int)
      (starts : StartsPairing x state arrival requestDevice ulid now ttlSeconds) :
      StoreEffect state arrival ((Store.startPairing ulid now (some requestDevice.deviceId)
        ttlSeconds).run state.store).2
  | confirm (now : Timestamp) (code : PairingCode) (deviceId : DeviceId)
      (confirms : ConfirmsPairing x arrival now code deviceId) :
      StoreEffect state arrival ((Store.confirmPairing now code deviceId).run state.store).2
  | touch (now : Timestamp) (deviceId : DeviceId) :
      StoreEffect state arrival ((Store.touchDevice now deviceId).run state.store).2

variable {x} {db : Db}

/-! ## The handlers, run alone -/

/-- A handler changes the store only when its checks pass. -/
theorem run_afterChecks {α : Type} {checks : ApiResult α}
    {operation : α → StoreM (ApiResult Reply)} {Left : Db → Prop} (same : Left db)
    (passed : ∀ a, checks = .ok a → Left ((operation a).run db).2) :
    Left ((afterChecks checks operation).run db).2 := by
  cases checks with
  | error error => exact same
  | ok a => exact passed a rfl

theorem trustedDevice_ok_iff {verified : Option Device} {device : Device} :
    trustedDevice verified = .ok device ↔ verified = some device :=
  okOr_ok_iff

/-- Where the dispatch of a request leaves the store, by its route. -/
theorem dispatch_effect {state : AppState} {now : Timestamp} {deviceUlid : String}
    {pairingUlid : Nat} {request : HttpRequest} {verified : Option Device}
    (admitted : (requireAuth x state now request).1 = .ok verified) :
    StoreEffect x state (.http now deviceUlid pairingUlid request)
      ((dispatch x now deviceUlid pairingUlid verified request).run state.store).2 := by
  unfold dispatch
  cases routed : route request.method request.path with
  | registerDevice =>
      apply run_afterChecks .same
      intro body decoded
      exact .register deviceUlid now body ⟨pairingUlid, request, rfl, routed, decoded⟩
  | trustDevice param =>
      apply run_afterChecks .same
      intro deviceId checks
      obtain ⟨requestDevice, trusted, decoded⟩ := bind_ok_iff.mp checks
      rw [trustedDevice_ok_iff.mp trusted] at admitted
      simp only [Prog.run_bind]
      exact .trust requestDevice ⟨deviceId⟩
        ⟨now, deviceUlid, pairingUlid, request, param, rfl, routed, admitted, decoded⟩
  | renameDevice param =>
      apply run_afterChecks .same
      intro renamed _
      simp only [Prog.run_bind]
      exact .rename ⟨renamed.1⟩ renamed.2
  | startPairing =>
      apply run_afterChecks .same
      intro started checks
      simp only [bind_ok_iff, ensure_ok_iff] at checks
      obtain ⟨requestDevice, trusted, body, decoded, ⟨⟩, creator, same⟩ := checks
      cases same
      rw [trustedDevice_ok_iff.mp trusted] at admitted
      exact .start requestDevice pairingUlid now body.ttlSeconds
        ⟨deviceUlid, request, body, rfl, routed, admitted, decoded, creator, rfl⟩
  | confirmPairing =>
      apply run_afterChecks .same
      intro body decoded
      simp only [Prog.run_bind]
      exact .confirm now body.code body.deviceId
        ⟨deviceUlid, pairingUlid, request, rfl, routed, decoded⟩
  | elsewhere => exact .same

theorem requireAuth_store (state : AppState) (now : Timestamp) (request : HttpRequest) :
    (requireAuth x state now request).2.store = state.store := by
  rcases requireAuth_state x state now request
    with same | ⟨headers, recorded⟩
  · rw [same]
  · rw [recorded]

theorem requireAuth_authToken (state : AppState) (now : Timestamp) (request : HttpRequest) :
    (requireAuth x state now request).2.authToken = state.authToken := by
  rcases requireAuth_state x state now request
    with same | ⟨headers, recorded⟩
  · rw [same]
  · rw [recorded]

/-- A request is served in the state its authentication leaves. -/
theorem serve_http (state : AppState) (now : Timestamp) (deviceUlid : String) (pairingUlid : Nat)
    (request : HttpRequest) :
    ∃ store, (serve x state (.http now deviceUlid pairingUlid request)).2 =
        { (requireAuth x state now request).2 with store := store } ∧
      StoreEffect x state (.http now deviceUlid pairingUlid request) store := by
  have kept := requireAuth_store (x := x) state now request
  cases admitted : requireAuth x state now request with
  | mk outcome after =>
      rw [admitted] at kept
      simp only at kept
      simp only [serve, admitted]
      cases outcome with
      | error error => exact ⟨state.store, by rw [← kept], .same⟩
      | ok verified =>
          refine ⟨_, rfl, ?_⟩
          rw [kept]
          exact dispatch_effect (by rw [admitted])

/-- What serving an arrival leaves in the store. -/
theorem serve_effect (x : Crates) (state : AppState) (arrival : Arrival) :
    StoreEffect x state arrival (serve x state arrival).2.store := by
  cases arrival with
  | touch now deviceId => exact .touch now deviceId
  | http now deviceUlid pairingUlid request =>
      obtain ⟨store, served, effect⟩ := serve_http (x := x) state now deviceUlid pairingUlid request
      rw [served]
      exact effect

theorem serve_authToken (state : AppState) (arrival : Arrival) :
    (serve x state arrival).2.authToken = state.authToken := by
  cases arrival with
  | touch now deviceId => rfl
  | http now deviceUlid pairingUlid request =>
      obtain ⟨store, served, -⟩ := serve_http (x := x) state now deviceUlid pairingUlid request
      rw [served]
      exact requireAuth_authToken state now request

/-! ## What happens to one stored device -/

/-- A device record keeps its key, and its trust if it is trusted. -/
def KeptDevice (deviceId : DeviceId) (before after : Db) : Prop :=
  ∀ device, before.devices.get deviceId.asStr = some device →
    ∃ kept, after.devices.get deviceId.asStr = some kept ∧ kept.publicKey = device.publicKey ∧
      (device.trusted = true → kept.trusted = true)

theorem keptDevice_refl (deviceId : DeviceId) (db : Db) : KeptDevice deviceId db db :=
  fun device stored => ⟨device, stored, rfl, id⟩

/-- Putting back a stored record with its key and its trust keeps every record. -/
theorem keptDevice_put {deviceId put : DeviceId} {db : Db} {found : Device} (row : Device)
    (stored : db.devices.get put.asStr = some found)
    (same : row.deviceId = found.deviceId) (key : row.publicKey = found.publicKey)
    (trust : found.trusted = true → row.trusted = true) :
    KeptDevice deviceId db { db with devices := db.devices.put row } := by
  intro device here
  by_cases own : row.deviceId = deviceId
  · subst own
    rw [same, Db.deviceId_of_get stored, stored] at here
    cases here
    exact ⟨row, KeyedTable.get_put_self db.devices row, key, trust⟩
  · have other : row.deviceId.asStr ≠ deviceId.asStr := fun eq => own (DeviceId.asStr_injective eq)
    exact ⟨device, (KeyedTable.get_put_ne db.devices other).trans here, rfl, id⟩

theorem keptDevice_trustDevice (deviceId : DeviceId) (db : Db) (trusted : DeviceId) :
    KeptDevice deviceId db ((Store.trustDevice trusted).run db).2 := by
  rw [Store.run_trustDevice]
  cases stored : db.devices.get trusted.asStr with
  | none => exact keptDevice_refl deviceId db
  | some found =>
      exact keptDevice_put { found with trusted := true } stored rfl rfl fun _ => rfl

theorem keptDevice_renameDevice (deviceId : DeviceId) (db : Db) (renamed : DeviceId)
    (name : String) : KeptDevice deviceId db ((Store.renameDevice renamed name).run db).2 := by
  rw [Store.run_renameDevice]
  cases stored : db.devices.get renamed.asStr with
  | none => exact keptDevice_refl deviceId db
  | some found =>
      exact keptDevice_put { found with name := name } stored rfl rfl id

theorem keptDevice_touchDevice (deviceId : DeviceId) (db : Db) (now : Timestamp)
    (touched : DeviceId) : KeptDevice deviceId db ((Store.touchDevice now touched).run db).2 := by
  rw [Store.run_touchDevice]
  cases stored : db.devices.get touched.asStr with
  | none => exact keptDevice_refl deviceId db
  | some found =>
      exact keptDevice_put { found with lastSeenAt := some now } stored rfl rfl id

theorem keptDevice_confirmPairing (deviceId : DeviceId) (db : Db) (now : Timestamp)
    (code : PairingCode) (confirmed : DeviceId) :
    KeptDevice deviceId db ((Store.confirmPairing now code confirmed).run db).2 := by
  rw [Store.run_confirmPairing]
  cases db.pairings.get code.asStr with
  | none => exact keptDevice_refl deviceId db
  | some session =>
      simp only
      split
      · exact keptDevice_refl deviceId db
      · exact keptDevice_trustDevice deviceId
          { db with pairings := db.pairings.put (Store.confirmedSession session confirmed) }
          confirmed

theorem keptDevice_registerDevice {deviceId : DeviceId} {ulid : String}
    (fresh : DeviceId.new ulid ≠ deviceId) (db : Db) (now : Timestamp)
    (name publicKey encryptionPublicKey : String) :
    KeptDevice deviceId db
      ((Store.registerDevice ulid now name publicKey encryptionPublicKey).run db).2 := by
  intro device stored
  rw [Store.run_registerDevice]
  have other : (DeviceId.new ulid).asStr ≠ deviceId.asStr := fun eq =>
    fresh (DeviceId.asStr_injective eq)
  exact ⟨device, (KeyedTable.get_put_ne db.devices other).trans stored, rfl, id⟩

/-- No arrival takes the key or the trust of a device, but a registration under its id. -/
theorem keptDevice_serve {state : AppState} {arrival : Arrival} {deviceId : DeviceId}
    (fresh : ∀ ulid now body, Registers x arrival ulid now body → DeviceId.new ulid ≠ deviceId) :
    KeptDevice deviceId state.store (serve x state arrival).2.store := by
  have effect := serve_effect x state arrival
  generalize (serve x state arrival).2.store = after at effect ⊢
  cases effect with
  | same => exact keptDevice_refl deviceId state.store
  | register ulid now body registers =>
      exact keptDevice_registerDevice (fresh ulid now body registers) _ _ _ _ _
  | trust requestDevice trusted trusts => exact keptDevice_trustDevice deviceId _ trusted
  | rename renamed name => exact keptDevice_renameDevice deviceId _ renamed name
  | start requestDevice ulid now ttlSeconds starts => exact keptDevice_refl deviceId state.store
  | confirm now code confirmed confirms =>
      exact keptDevice_confirmPairing deviceId _ now code confirmed
  | touch now touched => exact keptDevice_touchDevice deviceId _ now touched

/-- A request admitted with a verified device is no registration. -/
theorem not_registers_of_verified {state : AppState} {now : Timestamp} {deviceUlid : String}
    {pairingUlid : Nat} {request : HttpRequest} {device : Device}
    (verified : (requireAuth x state now request).1 = .ok (some device)) (ulid : String)
    (at' : Timestamp) (body : RegisterDeviceRequest) :
    ¬ Registers x (.http now deviceUlid pairingUlid request) ulid at' body := by
  rintro ⟨_, _, same, routed, -⟩
  cases same
  obtain ⟨reaches, -⟩ := requireAuth_verified_iff.mp verified
  have place : request.method = "POST" ∧ request.path = "/v1/devices" := by
    unfold route at routed
    split at routed
    · cases routed
    · rename_i post
      split at routed
      · rename_i path
        exact ⟨not_not.mp post, path⟩
      · split at routed
        · cases routed
        · split at routed
          · cases routed
          · split at routed <;> cases routed
  simp only [reachesVerification, requiresDeviceSignature, place.1, place.2,
    Bool.and_eq_true] at reaches
  exact absurd reaches.2 (by decide)

end Effects

end AirPaste.Server
