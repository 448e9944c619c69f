/-
# Server.Store — the device and pairing tables and the operations on them

Every `get`, `put` and `list` of the source opens and closes one redb
transaction, so an operation is a program of such transactions (`StoreM`), not
one step: `trust_device` reads in one transaction and writes in another.  Rows
are filed under the identifier they carry.  Clock readings and drawn ULIDs are
arguments.
-/
import AirPaste.Core.Model
import AirPaste.Theory.KeyedTable
import AirPaste.Theory.Transaction

namespace AirPaste.Server

open AirPaste.Core
open AirPaste.Theory

set_option autoImplicit false

/-- The redb database. -/
structure Db where
  devices : KeyedTable fun device : Device => device.deviceId.asStr
  pairings : KeyedTable fun session : PairingSession => session.code.asStr

namespace Db

def empty : Db := ⟨.empty, .empty⟩

variable {db : Db}

/-- A device row is filed under its own id. -/
theorem deviceId_of_get {deviceId : DeviceId} {device : Device}
    (stored : db.devices.get deviceId.asStr = some device) : device.deviceId = deviceId := by
  have same := KeyedTable.key_of_get stored
  exact DeviceId.asStr_injective same

/-- A pairing row is filed under its own code. -/
theorem code_of_get {code : PairingCode} {session : PairingSession}
    (stored : db.pairings.get code.asStr = some session) : session.code = code := by
  have same := KeyedTable.key_of_get stored
  exact PairingCode.asStr_injective same

end Db

inductive StoreError where
  | notFound
  deriving DecidableEq, Repr

/-- One redb transaction. -/
inductive Txn where
  | getDevice (key : String)
  | putDevice (value : Device)
  | listDevices
  | getPairing (key : String)
  | putPairing (value : PairingSession)

def Txn.Res : Txn → Type
  | .getDevice _ => Option Device
  | .putDevice _ => Unit
  | .listDevices => List Device
  | .getPairing _ => Option PairingSession
  | .putPairing _ => Unit

def Txn.exec : (txn : Txn) → Db → txn.Res × Db
  | .getDevice key, db => (db.devices.get key, db)
  | .putDevice value, db => ((), { db with devices := db.devices.put value })
  | .listDevices, db => (db.devices.rows, db)
  | .getPairing key, db => (db.pairings.get key, db)
  | .putPairing value, db => ((), { db with pairings := db.pairings.put value })

abbrev redb : Transactions Db := ⟨Txn, Txn.Res, Txn.exec⟩

theorem exec_getDevice (key : String) (db : Db) :
    (redb.exec (.getDevice key) db).1 = db.devices.get key := rfl

theorem exec_getPairing (key : String) (db : Db) :
    (redb.exec (.getPairing key) db).1 = db.pairings.get key := rfl

abbrev StoreM (α : Type) := Prog redb α

namespace Store

def getDevice (key : String) : StoreM (Option Device) := Prog.perform (T := redb) (.getDevice key)

def putDevice (value : Device) : StoreM Unit := Prog.perform (T := redb) (.putDevice value)

def listDevices : StoreM (List Device) := Prog.perform (T := redb) .listDevices

def getPairing (key : String) : StoreM (Option PairingSession) :=
  Prog.perform (T := redb) (.getPairing key)

def putPairing (value : PairingSession) : StoreM Unit :=
  Prog.perform (T := redb) (.putPairing value)

def registerDevice (ulid : String) (now : Timestamp)
    (name publicKey encryptionPublicKey : String) : StoreM Device := do
  let trusted := (← listDevices).isEmpty
  let device : Device :=
    { deviceId := DeviceId.new ulid
      name := name
      publicKey := publicKey
      encryptionPublicKey := encryptionPublicKey
      trusted := trusted
      createdAt := now
      lastSeenAt := none }
  putDevice device
  return device

def trustDevice (deviceId : DeviceId) : StoreM (Except StoreError Device) := do
  match ← getDevice deviceId.asStr with
  | none => return .error .notFound
  | some device =>
      let device := { device with trusted := true }
      putDevice device
      return .ok device

def renameDevice (deviceId : DeviceId) (name : String) : StoreM (Except StoreError Device) := do
  match ← getDevice deviceId.asStr with
  | none => return .error .notFound
  | some device =>
      let device := { device with name := name }
      putDevice device
      return .ok device

def touchDevice (now : Timestamp) (deviceId : DeviceId) : StoreM (Option Device) := do
  match ← getDevice deviceId.asStr with
  | none => return none
  | some device =>
      let device := { device with lastSeenAt := some now }
      putDevice device
      return some device

/-- The lifetime of a pairing session: ten minutes unless asked, one minute to one hour. -/
def pairingTtl (ttlSeconds : Option Int) : Int :=
  min (max (ttlSeconds.getD 600) 60) 3600

def startPairing (ulid : Nat) (now : Timestamp) (createdBy : Option DeviceId)
    (ttlSeconds : Option Int) : StoreM PairingSession := do
  let session : PairingSession :=
    { code := PairingCode.new ulid
      createdBy := createdBy
      candidateDeviceId := none
      expiresAt := now + seconds (pairingTtl ttlSeconds)
      confirmed := false }
  putPairing session
  return session

def confirmPairing (now : Timestamp) (code : PairingCode) (deviceId : DeviceId) :
    StoreM (Except StoreError Device) := do
  match ← getPairing code.asStr with
  | none => return .error .notFound
  | some session =>
      if session.expiresAt < now then
        return .error .notFound
      else
        putPairing { session with confirmed := true, candidateDeviceId := some deviceId }
        trustDevice deviceId

/-! ## The operations run alone -/

section Alone

variable (db : Db)

@[simp] theorem run_getDevice (key : String) : (getDevice key).run db = (db.devices.get key, db) :=
  rfl

@[simp] theorem run_putDevice (value : Device) :
    (putDevice value).run db = ((), { db with devices := db.devices.put value }) := rfl

@[simp] theorem run_getPairing (key : String) :
    (getPairing key).run db = (db.pairings.get key, db) := rfl

@[simp] theorem run_putPairing (value : PairingSession) :
    (putPairing value).run db = ((), { db with pairings := db.pairings.put value }) := rfl

theorem run_registerDevice (ulid : String) (now : Timestamp)
    (name publicKey encryptionPublicKey : String) :
    (registerDevice ulid now name publicKey encryptionPublicKey).run db =
      let device : Device :=
        ⟨DeviceId.new ulid, name, publicKey, encryptionPublicKey, db.devices.isEmpty, now, none⟩
      (device, { db with devices := db.devices.put device }) := rfl

theorem run_trustDevice (deviceId : DeviceId) :
    (trustDevice deviceId).run db =
      match db.devices.get deviceId.asStr with
      | none => (.error .notFound, db)
      | some device =>
          (.ok { device with trusted := true },
            { db with devices := db.devices.put { device with trusted := true } }) := by
  simp only [trustDevice, Prog.run_bind, run_getDevice]
  cases db.devices.get deviceId.asStr <;> rfl

theorem run_renameDevice (deviceId : DeviceId) (name : String) :
    (renameDevice deviceId name).run db =
      match db.devices.get deviceId.asStr with
      | none => (.error .notFound, db)
      | some device =>
          (.ok { device with name := name },
            { db with devices := db.devices.put { device with name := name } }) := by
  simp only [renameDevice, Prog.run_bind, run_getDevice]
  cases db.devices.get deviceId.asStr <;> rfl

theorem run_touchDevice (now : Timestamp) (deviceId : DeviceId) :
    (touchDevice now deviceId).run db =
      match db.devices.get deviceId.asStr with
      | none => (none, db)
      | some device =>
          (some { device with lastSeenAt := some now },
            { db with devices := db.devices.put { device with lastSeenAt := some now } }) := by
  simp only [touchDevice, Prog.run_bind, run_getDevice]
  cases db.devices.get deviceId.asStr <;> rfl

/-- The session `start_pairing` mints. -/
def mintedSession (ulid : Nat) (now : Timestamp) (createdBy : Option DeviceId)
    (ttlSeconds : Option Int) : PairingSession :=
  ⟨PairingCode.new ulid, createdBy, none, now + seconds (pairingTtl ttlSeconds), false⟩

theorem run_startPairing (ulid : Nat) (now : Timestamp) (createdBy : Option DeviceId)
    (ttlSeconds : Option Int) :
    (startPairing ulid now createdBy ttlSeconds).run db =
      (mintedSession ulid now createdBy ttlSeconds,
        { db with
          pairings := db.pairings.put (mintedSession ulid now createdBy ttlSeconds) }) := rfl

/-- The session as `confirm_pairing` leaves it. -/
def confirmedSession (session : PairingSession) (deviceId : DeviceId) : PairingSession :=
  { session with confirmed := true, candidateDeviceId := some deviceId }

theorem run_confirmPairing (now : Timestamp) (code : PairingCode) (deviceId : DeviceId) :
    (confirmPairing now code deviceId).run db =
      match db.pairings.get code.asStr with
      | none => (.error .notFound, db)
      | some session =>
          if session.expiresAt < now then (.error .notFound, db)
          else (trustDevice deviceId).run
            { db with pairings := db.pairings.put (confirmedSession session deviceId) } := by
  simp only [confirmPairing, Prog.run_bind, run_getPairing]
  cases db.pairings.get code.asStr with
  | none => rfl
  | some session =>
      simp only
      split <;> rfl

theorem trustDevice_pairings (deviceId : DeviceId) :
    ((trustDevice deviceId).run db).2.pairings = db.pairings := by
  rw [run_trustDevice]
  cases db.devices.get deviceId.asStr <;> rfl

theorem confirmPairing_pairings (now : Timestamp) (code : PairingCode)
    (deviceId : DeviceId) :
    ((confirmPairing now code deviceId).run db).2.pairings = db.pairings ∨
      ∃ session, db.pairings.get code.asStr = some session ∧
        ((confirmPairing now code deviceId).run db).2.pairings =
          db.pairings.put (confirmedSession session deviceId) := by
  rw [run_confirmPairing]
  cases stored : db.pairings.get code.asStr with
  | none => exact Or.inl rfl
  | some session =>
      simp only
      split
      · exact Or.inl rfl
      · exact Or.inr ⟨session, rfl, by rw [trustDevice_pairings]⟩

theorem renameDevice_pairings (deviceId : DeviceId) (name : String) :
    ((renameDevice deviceId name).run db).2.pairings = db.pairings := by
  rw [run_renameDevice]
  cases db.devices.get deviceId.asStr <;> rfl

theorem touchDevice_pairings (now : Timestamp) (deviceId : DeviceId) :
    ((touchDevice now deviceId).run db).2.pairings = db.pairings := by
  rw [run_touchDevice]
  cases db.devices.get deviceId.asStr <;> rfl

end Alone

end Store

end AirPaste.Server
