/-
# Server.Pairing — what one pairing code can do

A pairing code is handed out once and meant to be used once: the tray's
configuration calls it one-shot, and the session row has `confirmed` and
`candidate_device_id` to record its use.  `confirm_pairing` writes both fields and
reads neither.

Runs here are sequences of registrations, trusts, started and confirmed pairings,
each executed alone.  A code may be drawn again, so a session is the stretch from
one `start_pairing` to the next that draws the same code; `SecondUse` is a
confirmation of a session that has already been confirmed for another device.
`oneShot_iff` says for which runs the session is one-shot all the same: those in
which no second registered device presents the code before the session expires.

`confirm_pairing` also writes the session before it looks the device up.
`confirmPairing_atomic_iff` says when a confirmation that is refused leaves the store as it
was; in `Unregistered.refused_recorded` the session is left confirmed.
-/
import AirPaste.Server.DeviceUpdates

namespace AirPaste.Server

open AirPaste.Core
open AirPaste.Theory

set_option autoImplicit false

/-- A request of the pairing flow, with the ULIDs it draws. -/
inductive PairingRequest where
  | register (ulid : String) (name publicKey encryptionPublicKey : String)
  | trust (deviceId : DeviceId)
  | start (ulid : Nat) (createdBy : Option DeviceId) (ttlSeconds : Option Int)
  | confirm (code : PairingCode) (deviceId : DeviceId)
  deriving DecidableEq

/-- A request and the clock reading of the server that executes it. -/
structure PairingEvent where
  now : Timestamp
  request : PairingRequest
  deriving DecidableEq

/-- The events come at nondecreasing times. -/
def Nondecreasing (events : List PairingEvent) : Prop :=
  events.Pairwise fun earlier later => earlier.now ≤ later.now

instance (events : List PairingEvent) : Decidable (Nondecreasing events) :=
  inferInstanceAs (Decidable (List.Pairwise _ events))

def PairingEvent.serve (db : Db) (event : PairingEvent) : Db :=
  match event.request with
  | .register ulid name publicKey encryptionPublicKey =>
      ((Store.registerDevice ulid event.now name publicKey encryptionPublicKey).run db).2
  | .trust deviceId => ((Store.trustDevice deviceId).run db).2
  | .start ulid createdBy ttlSeconds =>
      ((Store.startPairing ulid event.now createdBy ttlSeconds).run db).2
  | .confirm code deviceId => ((Store.confirmPairing event.now code deviceId).run db).2

/-- The event mints a session under this code. -/
def PairingEvent.mints (code : PairingCode) (event : PairingEvent) : Prop :=
  ∃ ulid createdBy ttlSeconds,
    event.request = .start ulid createdBy ttlSeconds ∧ PairingCode.new ulid = code

/-- The database after the events. -/
def served (db : Db) (events : List PairingEvent) : Db := runFrom PairingEvent.serve db events

/-- Two confirmations of one session in a run, for two devices. -/
structure SecondUse (events : List PairingEvent) where
  before : List PairingEvent
  minted : Timestamp
  ulid : Nat
  createdBy : Option DeviceId
  ttlSeconds : Option Int
  between : List PairingEvent
  first : Timestamp
  deviceId : DeviceId
  middle : List PairingEvent
  second : Timestamp
  otherId : DeviceId
  after : List PairingEvent
  split : events =
    before ++ ⟨minted, .start ulid createdBy ttlSeconds⟩ :: (between ++
      ⟨first, .confirm (PairingCode.new ulid) deviceId⟩ :: (middle ++
        ⟨second, .confirm (PairingCode.new ulid) otherId⟩ :: after))
  same : ∀ event ∈ between ++ middle, ¬ event.mints (PairingCode.new ulid)
  other : otherId ≠ deviceId

namespace SecondUse

variable {events : List PairingEvent} (use : SecondUse events) (db : Db)

def code : PairingCode := PairingCode.new use.ulid

/-- What the first confirmation finds. -/
def atFirst : Db :=
  served db (use.before ++ ⟨use.minted, .start use.ulid use.createdBy use.ttlSeconds⟩ ::
    use.between)

/-- What the second confirmation finds. -/
def atSecond : Db :=
  served (PairingEvent.serve (use.atFirst db) ⟨use.first, .confirm use.code use.deviceId⟩)
    use.middle

def expiresAt : Timestamp := use.minted + seconds (Store.pairingTtl use.ttlSeconds)

/-- The first confirmation and its answer. -/
def confirmedFirst : Except StoreError Device × Db :=
  (Store.confirmPairing use.first use.code use.deviceId).run (use.atFirst db)

/-- The second confirmation and its answer. -/
def confirmedSecond : Except StoreError Device × Db :=
  (Store.confirmPairing use.second use.code use.otherId).run (use.atSecond db)

end SecondUse

/-- Each session minted in the run turns at most one device trusted. -/
def OneShot (db : Db) (events : List PairingEvent) : Prop :=
  ∀ use : SecondUse events, (use.confirmedFirst db).1.isOk = true →
    (use.confirmedSecond db).1.isOk = false ∧
      (TrustedIn (use.confirmedSecond db).2.devices use.otherId →
        TrustedIn (use.atSecond db).devices use.otherId)

/-- The device is registered, and the session has not expired. -/
def presentable (db : Db) (now expiresAt : Timestamp) (deviceId : DeviceId) : Bool :=
  decide (now ≤ expiresAt) && (db.devices.get deviceId.asStr).isSome

/-- No session's code is presented by a second registered device before it expires. -/
def PresentedOnce (db : Db) (events : List PairingEvent) : Prop :=
  ∀ use : SecondUse events,
    presentable (use.atFirst db) use.first use.expiresAt use.deviceId = true →
      presentable (use.atSecond db) use.second use.expiresAt use.otherId = false

/-! ## The life of a session -/

/-- A session under this code, with this expiry, is stored. -/
def SessionUntil (code : PairingCode) (expiresAt : Timestamp) (db : Db) : Prop :=
  ∃ session, db.pairings.get code.asStr = some session ∧ session.expiresAt = expiresAt

theorem sessionUntil_minted (db : Db) (ulid : Nat) (now : Timestamp)
    (createdBy : Option DeviceId) (ttlSeconds : Option Int) :
    SessionUntil (PairingCode.new ulid) (now + seconds (Store.pairingTtl ttlSeconds))
      (PairingEvent.serve db ⟨now, .start ulid createdBy ttlSeconds⟩) :=
  ⟨Store.mintedSession ulid now createdBy ttlSeconds, KeyedTable.get_put_self _ _, rfl⟩

/-- Confirming a session marks it and keeps its expiry. -/
theorem sessionUntil_confirm {code : PairingCode} {expiresAt : Timestamp} {db : Db}
    (stored : SessionUntil code expiresAt db) (now : Timestamp) (confirmed : PairingCode)
    (deviceId : DeviceId) :
    SessionUntil code expiresAt ((Store.confirmPairing now confirmed deviceId).run db).2 := by
  obtain ⟨session, found, expiry⟩ := stored
  rcases Store.confirmPairing_pairings db now confirmed deviceId with same | ⟨marked, here, put⟩
  · exact ⟨session, by rw [same, found], expiry⟩
  · by_cases own : confirmed = code
    · subst own
      rw [here] at found
      obtain rfl : marked = session := Option.some.inj found
      refine ⟨Store.confirmedSession marked deviceId, ?_, expiry⟩
      rw [put, ← PairingCode.asStr_inj.mpr (Db.code_of_get here)]
      exact KeyedTable.get_put_self _ (Store.confirmedSession marked deviceId)
    · refine ⟨session, ?_, expiry⟩
      have key : (Store.confirmedSession marked deviceId).code.asStr ≠ code.asStr := fun eq =>
        own ((Db.code_of_get here).symm.trans (PairingCode.asStr_injective eq))
      rw [put]
      exact (KeyedTable.get_put_ne db.pairings key).trans found

/-- A session outlives every event that does not mint its code again. -/
theorem sessionUntil_serve {code : PairingCode} {expiresAt : Timestamp} {db : Db}
    {event : PairingEvent} (same : ¬ event.mints code) (stored : SessionUntil code expiresAt db) :
    SessionUntil code expiresAt (PairingEvent.serve db event) := by
  obtain ⟨now, request⟩ := event
  cases request with
  | register ulid name publicKey encryptionPublicKey => exact stored
  | trust deviceId =>
      obtain ⟨session, found, expiry⟩ := stored
      refine ⟨session, ?_, expiry⟩
      show ((Store.trustDevice deviceId).run db).2.pairings.get code.asStr = some session
      rw [Store.trustDevice_pairings, found]
  | start ulid createdBy ttlSeconds =>
      obtain ⟨session, found, expiry⟩ := stored
      have other : (Store.mintedSession ulid now createdBy ttlSeconds).code.asStr ≠ code.asStr :=
        fun eq => same ⟨ulid, createdBy, ttlSeconds, rfl, PairingCode.asStr_injective eq⟩
      exact ⟨session, (KeyedTable.get_put_ne db.pairings other).trans found, expiry⟩
  | confirm confirmed deviceId => exact sessionUntil_confirm stored now confirmed deviceId

theorem sessionUntil_served {code : PairingCode} {expiresAt : Timestamp} {db : Db}
    {events : List PairingEvent} (same : ∀ event ∈ events, ¬ event.mints code)
    (stored : SessionUntil code expiresAt db) : SessionUntil code expiresAt (served db events) :=
  run_keeps (fun event => ¬ event.mints code)
    (fun _ _ other stored => sessionUntil_serve other stored) same stored

theorem trustDevice_isOk (db : Db) (deviceId : DeviceId) :
    ((Store.trustDevice deviceId).run db).1.isOk = (db.devices.get deviceId.asStr).isSome := by
  rw [Store.run_trustDevice]
  cases db.devices.get deviceId.asStr <;> rfl

/-- `confirm_pairing` answers `Ok` to every presentable device. -/
theorem confirmPairing_isOk {code : PairingCode} {expiresAt : Timestamp} {db : Db}
    (stored : SessionUntil code expiresAt db) (now : Timestamp) (deviceId : DeviceId) :
    ((Store.confirmPairing now code deviceId).run db).1.isOk =
      presentable db now expiresAt deviceId := by
  obtain ⟨session, found, expiry⟩ := stored
  subst expiry
  rw [Store.run_confirmPairing, found]
  simp only [presentable]
  split
  · rename_i expired
    rw [decide_eq_false (not_le.mpr expired)]
    rfl
  · rename_i live
    rw [decide_eq_true (not_lt.mp live), trustDevice_isOk, Bool.true_and]

/-- A refused confirmation leaves the device table as it was. -/
theorem confirmPairing_refused {db : Db} {now : Timestamp} {code : PairingCode}
    {deviceId : DeviceId}
    (refused : ((Store.confirmPairing now code deviceId).run db).1.isOk = false) :
    ((Store.confirmPairing now code deviceId).run db).2.devices = db.devices := by
  rw [Store.run_confirmPairing] at refused ⊢
  cases found : db.pairings.get code.asStr with
  | none => rfl
  | some session =>
      rw [found] at refused
      simp only at refused ⊢
      split
      · rfl
      · rename_i live
        rw [if_neg live, trustDevice_isOk] at refused
        rw [Store.run_trustDevice]
        have absent := Option.isSome_eq_false_iff.mp refused
        rw [Option.isNone_iff_eq_none] at absent
        rw [absent]

namespace SecondUse

variable {events : List PairingEvent} (use : SecondUse events) (db : Db)

theorem sessionUntil_atFirst : SessionUntil use.code use.expiresAt (use.atFirst db) := by
  simp only [atFirst, served]
  rw [runFrom_append, runFrom_cons]
  exact sessionUntil_served (fun event member => use.same event (List.mem_append_left _ member))
    (sessionUntil_minted _ use.ulid use.minted use.createdBy use.ttlSeconds)

theorem sessionUntil_atSecond : SessionUntil use.code use.expiresAt (use.atSecond db) :=
  sessionUntil_served (fun event member => use.same event (List.mem_append_right _ member))
    (sessionUntil_confirm (use.sessionUntil_atFirst db) use.first use.code use.deviceId)

theorem confirmedFirst_isOk : (use.confirmedFirst db).1.isOk =
    presentable (use.atFirst db) use.first use.expiresAt use.deviceId :=
  confirmPairing_isOk (use.sessionUntil_atFirst db) use.first use.deviceId

theorem confirmedSecond_isOk : (use.confirmedSecond db).1.isOk =
    presentable (use.atSecond db) use.second use.expiresAt use.otherId :=
  confirmPairing_isOk (use.sessionUntil_atSecond db) use.second use.otherId

end SecondUse

/-- **A pairing code is one-shot exactly when it is presented once.** -/
theorem oneShot_iff (db : Db) (events : List PairingEvent) :
    OneShot db events ↔ PresentedOnce db events := by
  constructor
  · intro oneShot use first
    rw [← use.confirmedFirst_isOk] at first
    rw [← use.confirmedSecond_isOk]
    exact (oneShot use first).1
  · intro once use first
    rw [use.confirmedFirst_isOk] at first
    have refused : (use.confirmedSecond db).1.isOk = false := by
      rw [use.confirmedSecond_isOk]
      exact once use first
    refine ⟨refused, fun trusted => ?_⟩
    have devices : (use.confirmedSecond db).2.devices = (use.atSecond db).devices :=
      confirmPairing_refused refused
    rwa [devices] at trusted

/-! ## One code, two phones -/

namespace SharedCode

def code : PairingCode := PairingCode.new 123456

def phone : DeviceId := DeviceId.new "phone"

def tablet : DeviceId := DeviceId.new "tablet"

/-- The laptop mints a code; the phone confirms it, and so does the tablet. -/
def events : List PairingEvent :=
  [⟨seconds 0, .register "laptop" "Laptop" "pk_laptop" ""⟩,
   ⟨seconds 1, .register "phone" "Phone" "pk_phone" ""⟩,
   ⟨seconds 2, .register "tablet" "Tablet" "pk_tablet" ""⟩,
   ⟨seconds 3, .start 123456 (some (DeviceId.new "laptop")) none⟩,
   ⟨seconds 4, .confirm code phone⟩,
   ⟨seconds 5, .confirm code tablet⟩]

def use : SecondUse events where
  before := events.take 3
  minted := seconds 3
  ulid := 123456
  createdBy := some (DeviceId.new "laptop")
  ttlSeconds := none
  between := []
  first := seconds 4
  deviceId := phone
  middle := []
  second := seconds 5
  otherId := tablet
  after := []
  split := rfl
  same := nofun
  other := by decide

/-- Refuting pole: both confirmations return `Ok`, and both devices are trusted. -/
theorem shared_code_not_oneShot :
    ¬ ∀ db events, Nondecreasing events → OneShot db events := by
  intro oneShot
  have ordered : Nondecreasing events := by decide
  have first : (use.confirmedFirst Db.empty).1.isOk = true := by decide
  have second : (use.confirmedSecond Db.empty).1.isOk = true := by decide
  rw [(oneShot Db.empty events ordered use first).1] at second
  cases second

end SharedCode

/-! ## A confirmation that is refused -/

section Refused

variable (db : Db) (now : Timestamp) (code : PairingCode) (deviceId : DeviceId)

/-- A confirmation that is refused leaves every table as it was. -/
def RefusedUnchanged : Prop :=
  ∀ error, ((Store.confirmPairing now code deviceId).run db).1 = .error error →
    ((Store.confirmPairing now code deviceId).run db).2 = db

/-- A session that the call confirms for a device is one for a device that is now trusted. -/
def RecordsTrusted : Prop :=
  ∀ session candidate,
    ((Store.confirmPairing now code deviceId).run db).2.pairings.get session.code.asStr =
      some session →
    session.confirmed = true → session.candidateDeviceId = some candidate →
    db.pairings.get session.code.asStr = some session ∨
      TrustedIn ((Store.confirmPairing now code deviceId).run db).2.devices candidate

/-- The device is registered, or the code has no live session that is not yet recorded as
confirmed for this device. -/
def ConfirmsKnown : Prop :=
  (db.devices.get deviceId.asStr).isSome = true ∨
    ∀ session, db.pairings.get code.asStr = some session → now ≤ session.expiresAt →
      session.confirmed = true ∧ session.candidateDeviceId = some deviceId

variable {db now code deviceId}

theorem confirmedSession_eq_iff {session : PairingSession} :
    Store.confirmedSession session deviceId = session ↔
      session.confirmed = true ∧ session.candidateDeviceId = some deviceId := by
  obtain ⟨code, createdBy, candidateDeviceId, expiresAt, confirmed⟩ := session
  simp only [Store.confirmedSession, PairingSession.mk.injEq, true_and]
  exact ⟨fun ⟨candidate, marked⟩ => ⟨marked.symm, candidate.symm⟩,
    fun ⟨marked, candidate⟩ => ⟨candidate.symm, marked.symm⟩⟩

/-- The session is written before the device is looked up. -/
theorem confirmPairing_unregistered {session : PairingSession}
    (found : db.pairings.get code.asStr = some session) (live : now ≤ session.expiresAt)
    (absent : db.devices.get deviceId.asStr = none) :
    (Store.confirmPairing now code deviceId).run db =
      (.error .notFound,
        { db with pairings := db.pairings.put (Store.confirmedSession session deviceId) }) := by
  rw [Store.run_confirmPairing, found]
  simp only [if_neg (not_lt.mpr live), Store.run_trustDevice, absent]

/-- A confirmation that finds no live session changes nothing. -/
theorem confirmPairing_noSession
    (missing : ∀ session, db.pairings.get code.asStr = some session → ¬ now ≤ session.expiresAt) :
    (Store.confirmPairing now code deviceId).run db = (.error .notFound, db) := by
  rw [Store.run_confirmPairing]
  cases found : db.pairings.get code.asStr with
  | none => rfl
  | some session => exact if_pos (not_le.mp (missing session found))

theorem confirmPairing_registered {session : PairingSession} {device : Device}
    (found : db.pairings.get code.asStr = some session) (live : now ≤ session.expiresAt)
    (registered : db.devices.get deviceId.asStr = some device) :
    (Store.confirmPairing now code deviceId).run db =
      (.ok { device with trusted := true },
        { devices := db.devices.put { device with trusted := true }
          pairings := db.pairings.put (Store.confirmedSession session deviceId) }) := by
  rw [Store.run_confirmPairing, found]
  simp only [if_neg (not_lt.mpr live), Store.run_trustDevice, registered]

/-- A row of a table after an upsert is the row put there, or a row of before. -/
theorem get_put_cases {session put : PairingSession}
    (stored : (db.pairings.put put).get session.code.asStr = some session) :
    session = put ∨ db.pairings.get session.code.asStr = some session := by
  rw [KeyedTable.get_put] at stored
  split at stored
  · exact Or.inl (Option.some.inj stored).symm
  · exact Or.inr stored

/-- A confirmation without a live session is refused, and changes nothing. -/
theorem atomic_of_noSession
    (missing : ∀ session, db.pairings.get code.asStr = some session → ¬ now ≤ session.expiresAt) :
    RefusedUnchanged db now code deviceId ∧ RecordsTrusted db now code deviceId := by
  unfold RefusedUnchanged RecordsTrusted
  rw [confirmPairing_noSession missing]
  exact ⟨fun _ _ => rfl, fun _ _ stored _ _ => Or.inl stored⟩

/-- A confirmation of a registered device with a live session succeeds, and trusts it. -/
theorem atomic_of_registered {session : PairingSession} {device : Device}
    (found : db.pairings.get code.asStr = some session) (live : now ≤ session.expiresAt)
    (registered : db.devices.get deviceId.asStr = some device) :
    RefusedUnchanged db now code deviceId ∧ RecordsTrusted db now code deviceId := by
  unfold RefusedUnchanged RecordsTrusted
  rw [confirmPairing_registered found live registered]
  refine ⟨nofun, fun recorded candidate stored _ named => ?_⟩
  rcases get_put_cases stored with rfl | before
  · right
    obtain rfl : deviceId = candidate := Option.some.inj named
    have own := congrArg DeviceId.asStr (Db.deviceId_of_get registered)
    refine ⟨{ device with trusted := true }, ?_, rfl⟩
    rw [← own]
    exact KeyedTable.get_put_self db.devices { device with trusted := true }
  · exact Or.inl before

/-- With a live session and an unregistered device, the session must not change. -/
theorem atomic_iff_of_unregistered {session : PairingSession}
    (found : db.pairings.get code.asStr = some session) (live : now ≤ session.expiresAt)
    (absent : db.devices.get deviceId.asStr = none) :
    (RefusedUnchanged db now code deviceId ↔ Store.confirmedSession session deviceId = session) ∧
      (RecordsTrusted db now code deviceId ↔
        Store.confirmedSession session deviceId = session) := by
  have filed := congrArg PairingCode.asStr (Db.code_of_get found)
  have unchanged : Store.confirmedSession session deviceId = session →
      db.pairings.put (Store.confirmedSession session deviceId) = db.pairings := by
    intro same
    rw [same]
    exact KeyedTable.put_eq_self (filed ▸ found)
  have after : (db.pairings.put (Store.confirmedSession session deviceId)).get
      session.code.asStr = some (Store.confirmedSession session deviceId) :=
    KeyedTable.get_put_self db.pairings (Store.confirmedSession session deviceId)
  unfold RefusedUnchanged RecordsTrusted
  rw [confirmPairing_unregistered found live absent]
  refine ⟨⟨fun same => ?_, fun same _ _ => ?_⟩, fun only => ?_, fun same _ _ stored _ _ => ?_⟩
  · have pairings : db.pairings.put (Store.confirmedSession session deviceId) = db.pairings :=
      congrArg Db.pairings (same .notFound rfl)
    rw [pairings, filed, found] at after
    exact (Option.some.inj after).symm
  · rw [unchanged same]
  · rcases only (Store.confirmedSession session deviceId) deviceId after rfl rfl
      with before | ⟨device, stored, -⟩
    · have before : db.pairings.get session.code.asStr =
          some (Store.confirmedSession session deviceId) := before
      rw [filed, found] at before
      exact (Option.some.inj before).symm
    · rw [absent] at stored
      cases stored
  · rw [unchanged same] at stored
    exact Or.inl stored

/-- **A confirmation that is refused changes nothing exactly when the device is known.** -/
theorem confirmPairing_atomic_iff (db : Db) (now : Timestamp) (code : PairingCode)
    (deviceId : DeviceId) :
    (RefusedUnchanged db now code deviceId ↔ ConfirmsKnown db now code deviceId) ∧
      (RecordsTrusted db now code deviceId ↔ ConfirmsKnown db now code deviceId) := by
  by_cases live : ∃ session, db.pairings.get code.asStr = some session ∧ now ≤ session.expiresAt
  · obtain ⟨session, found, live⟩ := live
    cases registered : db.devices.get deviceId.asStr with
    | some device =>
        have known : ConfirmsKnown db now code deviceId := Or.inl (by rw [registered]; rfl)
        obtain ⟨unchanged, recorded⟩ := atomic_of_registered found live registered
        exact ⟨iff_of_true unchanged known, iff_of_true recorded known⟩
    | none =>
        have known : ConfirmsKnown db now code deviceId ↔
            Store.confirmedSession session deviceId = session := by
          rw [confirmedSession_eq_iff, ConfirmsKnown, registered]
          constructor
          · rintro (impossible | confirmed)
            · cases impossible
            · exact confirmed session found live
          · intro confirmed
            right
            intro other stored _
            rw [found] at stored
            cases stored
            exact confirmed
        rw [known]
        exact atomic_iff_of_unregistered found live registered
  · have missing : ∀ session, db.pairings.get code.asStr = some session →
        ¬ now ≤ session.expiresAt :=
      fun session found within => live ⟨session, found, within⟩
    have known : ConfirmsKnown db now code deviceId :=
      Or.inr fun session found within => absurd within (missing session found)
    obtain ⟨unchanged, recorded⟩ := atomic_of_noSession missing
    exact ⟨iff_of_true unchanged known, iff_of_true recorded known⟩

end Refused

/-! ## A phone that is not registered -/

namespace Unregistered

/-- A store with one fresh session. -/
def db : Db :=
  ((Store.startPairing 123456 (seconds 0) (some (DeviceId.new "laptop")) none).run Db.empty).2

def phone : DeviceId := DeviceId.new "phone"

/-- Refuting pole: the phone is refused, and the session is confirmed for it. -/
theorem refused_recorded :
    ¬ ((∀ db now code deviceId, RefusedUnchanged db now code deviceId) ∧
      ∀ db now code deviceId, RecordsTrusted db now code deviceId) := by
  rintro ⟨atomic, -⟩
  have same := atomic db (seconds 1) (PairingCode.new 123456) phone .notFound (by rfl)
  have confirmed := congrArg (fun db : Db =>
    (db.pairings.get (PairingCode.new 123456).asStr).map PairingSession.confirmed) same
  revert confirmed
  decide

end Unregistered

end AirPaste.Server
