/-
# Server.DeviceRows — what one arrival does to the device table

An arrival leaves the device table alone, files the row of a registration, or replaces one
stored row by another of the same device: the id, both public keys and the time of the
registration stay, and trust is not taken away (`serve_devices`).  The keys that a device was
registered with are therefore its keys for good (`hasKeys_reached_append`), as long as no two
registrations draw the same ULID.
-/
import AirPaste.Server.TrustChain

namespace AirPaste.Server

open AirPaste.Core
open AirPaste.Protocol
open AirPaste.Theory

set_option autoImplicit false

/-- The row that a registration files. -/
def registeredRow (devices : Devices) (ulid : String) (now : Timestamp)
    (body : RegisterDeviceRequest) : Device :=
  ⟨DeviceId.new ulid, body.name, body.publicKey, body.encryptionPublicKey, devices.isEmpty, now,
    none⟩

/-- A later row of a device. -/
structure LaterRow (found row : Device) : Prop where
  deviceId : row.deviceId = found.deviceId
  publicKey : row.publicKey = found.publicKey
  encryptionPublicKey : row.encryptionPublicKey = found.encryptionPublicKey
  createdAt : row.createdAt = found.createdAt
  trusted : found.trusted = true → row.trusted = true

/-- What one arrival does to the device table. -/
inductive DeviceChange (x : Crates) (arrival : Arrival) (before : Devices) : Devices → Prop where
  | same : DeviceChange x arrival before before
  | register (ulid : String) (now : Timestamp) (body : RegisterDeviceRequest)
      (registers : Registers x arrival ulid now body) :
      DeviceChange x arrival before (before.put (registeredRow before ulid now body))
  | update (found row : Device) (stored : before.get found.deviceId.asStr = some found)
      (later : LaterRow found row) : DeviceChange x arrival before (before.put row)

section Change

variable {x : Crates} {arrival : Arrival}

theorem deviceChange_update {db : Db} {put : DeviceId} {found : Device} (row : Device)
    (stored : db.devices.get put.asStr = some found) (later : LaterRow found row) :
    DeviceChange x arrival db.devices (db.devices.put row) := by
  have own := Db.deviceId_of_get stored
  exact .update found row (by rw [own, stored]) later

theorem deviceChange_trustDevice (db : Db) (trusted : DeviceId) :
    DeviceChange x arrival db.devices ((Store.trustDevice trusted).run db).2.devices := by
  rw [Store.run_trustDevice]
  cases stored : db.devices.get trusted.asStr with
  | none => exact .same
  | some found => exact deviceChange_update _ stored ⟨rfl, rfl, rfl, rfl, fun _ => rfl⟩

theorem serve_devices (x : Crates) (state : AppState) (arrival : Arrival) :
    DeviceChange x arrival state.store.devices (serve x state arrival).2.store.devices := by
  have effect := serve_effect x state arrival
  generalize (serve x state arrival).2.store = after at effect ⊢
  cases effect with
  | same => exact .same
  | register ulid now body registers => exact .register ulid now body registers
  | trust requestDevice trusted trusts => exact deviceChange_trustDevice _ trusted
  | rename renamed name =>
      rw [Store.run_renameDevice]
      cases stored : state.store.devices.get renamed.asStr with
      | none => exact .same
      | some found => exact deviceChange_update _ stored ⟨rfl, rfl, rfl, rfl, id⟩
  | start requestDevice ulid now ttlSeconds starts => exact .same
  | confirm now code confirmed confirms =>
      rw [Store.run_confirmPairing]
      cases state.store.pairings.get code.asStr with
      | none => exact .same
      | some session =>
          simp only
          split
          · exact .same
          · exact deviceChange_trustDevice
              { state.store with
                pairings := state.store.pairings.put (Store.confirmedSession session confirmed) }
              confirmed
  | touch now touched =>
      rw [Store.run_touchDevice]
      cases stored : state.store.devices.get touched.asStr with
      | none => exact .same
      | some found => exact deviceChange_update _ stored ⟨rfl, rfl, rfl, rfl, id⟩

end Change

/-! ## The keys of a device -/

/-- The device is registered with these public keys. -/
def HasKeys (devices : Devices) (deviceId : DeviceId) (publicKey encryptionPublicKey : String) :
    Prop :=
  ∃ device, devices.get deviceId.asStr = some device ∧ device.publicKey = publicKey ∧
    device.encryptionPublicKey = encryptionPublicKey

section Keys

variable {x : Crates} {authToken simpleToken : Option String} {deviceId : DeviceId}
  {publicKey encryptionPublicKey : String}

theorem hasKeys_serve {state : AppState} {arrival : Arrival}
    (fresh : ∀ ulid now body, Registers x arrival ulid now body → DeviceId.new ulid ≠ deviceId)
    (keys : HasKeys state.store.devices deviceId publicKey encryptionPublicKey) :
    HasKeys (serve x state arrival).2.store.devices deviceId publicKey encryptionPublicKey := by
  obtain ⟨device, stored, signing, encrypting⟩ := keys
  have change := serve_devices x state arrival
  generalize (serve x state arrival).2.store.devices = after at change ⊢
  cases change with
  | same => exact ⟨device, stored, signing, encrypting⟩
  | register ulid now body registers =>
      have other : (registeredRow state.store.devices ulid now body).deviceId.asStr ≠
          deviceId.asStr := fun eq =>
        fresh ulid now body registers (DeviceId.asStr_injective eq)
      exact ⟨device, (KeyedTable.get_put_ne state.store.devices other).trans stored, signing,
        encrypting⟩
  | update found row here later =>
      by_cases own : row.deviceId = deviceId
      · have same : found = device := by
          rw [← own, later.deviceId, here] at stored
          exact Option.some.inj stored
        subst own same
        exact ⟨row, KeyedTable.get_put_self _ row, later.publicKey.trans signing,
          later.encryptionPublicKey.trans encrypting⟩
      · have other : row.deviceId.asStr ≠ deviceId.asStr := fun eq =>
          own (DeviceId.asStr_injective eq)
        exact ⟨device, (KeyedTable.get_put_ne state.store.devices other).trans stored, signing,
          encrypting⟩

/-- No arrival changes the keys that a device was registered with. -/
theorem hasKeys_reached_append {arrivals : List Arrival} {arrival : Arrival}
    (distinct : DistinctUlids (arrivals ++ [arrival]))
    (keys : HasKeys (reached x authToken simpleToken arrivals).store.devices deviceId publicKey
      encryptionPublicKey) :
    HasKeys (reached x authToken simpleToken (arrivals ++ [arrival])).store.devices deviceId
      publicKey encryptionPublicKey := by
  have known := keys
  obtain ⟨device, stored, -⟩ := known
  obtain ⟨drawn, member, same⟩ := allDrawn_reached arrivals deviceId device stored
  rw [reached_append]
  refine hasKeys_serve (fun ulid now body registers clash => ?_) keys
  have again : drawn = ulid := DeviceId.new_injective (same.symm.trans clash.symm)
  simp only [DistinctUlids] at distinct
  rw [List.filterMap_append, List.filterMap_cons_some (drawn_of_registers registers)] at distinct
  exact List.disjoint_of_nodup_append distinct (again ▸ member) List.mem_cons_self

/-- A registration that is answered has filed the row that it answers with. -/
theorem serve_registered {state : AppState} {now : Timestamp} {ulid : String} {pairingUlid : Nat}
    {request : HttpRequest} {device : Device}
    (routed : route request.method request.path = .registerDevice)
    (answered : (serve x state (.http now ulid pairingUlid request)).1 = .ok (.device device)) :
    ∃ body, x.registerDeviceBody request = .ok body ∧
      device = registeredRow state.store.devices ulid now body ∧
      (serve x state (.http now ulid pairingUlid request)).2.store.devices.get
        device.deviceId.asStr = some device := by
  have kept := requireAuth_store (x := x) state now request
  cases admitted : requireAuth x state now request with
  | mk outcome after =>
      rw [admitted] at kept
      simp only [serve, admitted] at answered ⊢
      cases outcome with
      | error error => cases answered
      | ok verified =>
          simp only [dispatch, routed, registerDevice] at answered ⊢
          cases decoded : x.registerDeviceBody request with
          | error error =>
              simp only [decoded, afterChecks] at answered
              cases answered
          | ok body =>
              simp only at kept
              simp only [decoded, afterChecks, Prog.run_bind, Store.run_registerDevice, kept]
                at answered ⊢
              cases answered
              exact ⟨body, rfl, rfl, KeyedTable.get_put_self _ _⟩

end Keys

end AirPaste.Server
