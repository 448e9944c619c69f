/-
# Server.DeviceUpdates — concurrent updates of device records

`trust_device`, `confirm_pairing`, `rename_device` and `touch_device` all read a
whole device record in one redb transaction and put a whole record back in
another.  Here any number of them run over one database, a schedule choosing
whose transaction comes next.

A put is *current* (`putsCurrent`) when what it writes is the update of the record
stored at that moment; a put that is not current writes back a field another
operation has changed since the read.  `NoLostUpdate` is what a client relies
on, and `currentPuts_noLostUpdate` that a schedule of current puts delivers it:
the operations then take effect in the order of their puts.  `lostTrust_schedule`
is the schedule of one rename around one trust in which the trust bit is lost.
-/
import AirPaste.Server.Store

namespace AirPaste.Server

open AirPaste.Core
open AirPaste.Theory

set_option autoImplicit false

/-- An update of one device record, with the clock reading it makes. -/
inductive DeviceOp where
  | trust (deviceId : DeviceId)
  | confirm (now : Timestamp) (code : PairingCode) (deviceId : DeviceId)
  | rename (deviceId : DeviceId) (name : String)
  | touch (now : Timestamp) (deviceId : DeviceId)
  deriving DecidableEq

/-- What an operation returns: `touch_device` may find no device and succeed. -/
abbrev DeviceResult := Except StoreError (Option Device)

def DeviceResult.isOk : DeviceResult → Bool
  | .ok _ => true
  | .error _ => false

abbrev Devices := KeyedTable fun device : Device => device.deviceId.asStr

namespace DeviceOp

def target : DeviceOp → DeviceId
  | .trust deviceId => deviceId
  | .confirm _ _ deviceId => deviceId
  | .rename deviceId _ => deviceId
  | .touch _ deviceId => deviceId

/-- The field assignment between the read and the put. -/
def update : DeviceOp → Device → Device
  | .trust _, device => { device with trusted := true }
  | .confirm _ _ _, device => { device with trusted := true }
  | .rename _ name, device => { device with name := name }
  | .touch now _, device => { device with lastSeenAt := some now }

/-- The operations that grant trust. -/
def grants : DeviceOp → Bool
  | .trust _ => true
  | .confirm _ _ _ => true
  | .rename _ _ => false
  | .touch _ _ => false

def renames : DeviceOp → Bool
  | .rename _ _ => true
  | _ => false

def program : DeviceOp → StoreM DeviceResult
  | .trust deviceId => do return (← Store.trustDevice deviceId).map some
  | .confirm now code deviceId => do return (← Store.confirmPairing now code deviceId).map some
  | .rename deviceId name => do return (← Store.renameDevice deviceId name).map some
  | .touch now deviceId => do return .ok (← Store.touchDevice now deviceId)

@[simp] theorem update_deviceId (op : DeviceOp) (device : Device) :
    (op.update device).deviceId = device.deviceId := by
  cases op <;> rfl

theorem update_trusted {op : DeviceOp} {device : Device} (trusted : device.trusted = true) :
    (op.update device).trusted = true := by
  cases op <;> first | rfl | exact trusted

theorem update_grants {op : DeviceOp} (grants : op.grants = true) (device : Device) :
    (op.update device).trusted = true := by
  cases op <;> first | rfl | cases grants

theorem update_trusted_eq {op : DeviceOp} (other : op.grants = false) (device : Device) :
    (op.update device).trusted = device.trusted := by
  cases op <;> first | rfl | cases other

theorem update_name {op : DeviceOp} (other : op.renames = false) (device : Device) :
    (op.update device).name = device.name := by
  cases op <;> first | rfl | cases other

/-! ## The programs, transaction by transaction -/

/-- The answer when the device is not registered. -/
def missing : DeviceOp → DeviceResult
  | .touch _ _ => .ok none
  | _ => .error .notFound

/-- About to put the update of the record it has read. -/
def writing (op : DeviceOp) (device : Device) : StoreM DeviceResult :=
  .call (T := redb) (.putDevice (op.update device)) fun _ => .done (.ok (some (op.update device)))

/-- About to read the record. -/
def reading (op : DeviceOp) : StoreM DeviceResult :=
  .call (T := redb) (.getDevice op.target.asStr) fun found =>
    match found with
    | none => .done op.missing
    | some device => op.writing device

/-- `confirm_pairing` about to mark the session it has read. -/
def marking (op : DeviceOp) (session : PairingSession) : StoreM DeviceResult :=
  .call (T := redb) (.putPairing (Store.confirmedSession session op.target)) fun _ => op.reading

/-- `confirm_pairing` about to read the session. -/
def opening (op : DeviceOp) (now : Timestamp) (code : PairingCode) : StoreM DeviceResult :=
  .call (T := redb) (.getPairing code.asStr) fun found =>
    match found with
    | none => .done (.error .notFound)
    | some session =>
        if session.expiresAt < now then .done (.error .notFound) else op.marking session

theorem advance_reading (op : DeviceOp) (db : Db) :
    (op.reading.advance db).1 =
      match db.devices.get op.target.asStr with
      | none => .done op.missing
      | some device => op.writing device := by
  rw [reading, Prog.advance_call, exec_getDevice]
  cases db.devices.get op.target.asStr <;> rfl

theorem advance_opening (op : DeviceOp) (now : Timestamp) (code : PairingCode) (db : Db) :
    ((op.opening now code).advance db).1 =
      match db.pairings.get code.asStr with
      | none => .done (.error .notFound)
      | some session =>
          if session.expiresAt < now then .done (.error .notFound) else op.marking session := by
  rw [opening, Prog.advance_call, exec_getPairing]
  cases db.pairings.get code.asStr <;> rfl

theorem program_eq (op : DeviceOp) :
    op.program =
      match op with
      | .confirm now code _ => op.opening now code
      | _ => op.reading := by
  cases op with
  | trust deviceId =>
      refine congrArg (Prog.call _) (funext fun found => ?_)
      cases found <;> rfl
  | rename deviceId name =>
      refine congrArg (Prog.call _) (funext fun found => ?_)
      cases found <;> rfl
  | touch now deviceId =>
      refine congrArg (Prog.call _) (funext fun found => ?_)
      cases found <;> rfl
  | confirm now code deviceId =>
      refine congrArg (Prog.call _) (funext fun found => ?_)
      cases found with
      | none => rfl
      | some session =>
          show Prog.bind (if session.expiresAt < now then
              (Prog.done (.error .notFound) : StoreM (Except StoreError Device)) else _) _ =
            if session.expiresAt < now then _ else _
          split
          · rfl
          · refine congrArg (Prog.call _) (funext fun _ => congrArg (Prog.call _) ?_)
            funext found
            cases found <;> rfl

end DeviceOp

/-! ## Interleavings -/

section Interleaving

variable {ι : Type} [DecidableEq ι] (ops : ι → DeviceOp)

abbrev DevicePool (ι : Type) := Pool redb ι DeviceResult

/-- Every operation about to start. -/
def startOps (db : Db) : DevicePool ι := ⟨db, fun i => (ops i).program⟩

/-- The next transaction of `i`, if it puts a device record, puts the update of
the record stored now. -/
def putsCurrent (p : DevicePool ι) (i : ι) : Bool :=
  match p.threads i with
  | .call (.putDevice row) _ =>
      decide ((p.state.devices.get row.deviceId.asStr).map (ops i).update = some row)
  | _ => true

/-- `i` has returned `Ok`. -/
abbrev Returned (p : DevicePool ι) (i : ι) : Prop := p.Succeeded DeviceResult.isOk i

/-- The moving thread returns when its program does. -/
theorem returned_step {p : DevicePool ι} {i : ι} :
    Returned (p.step i) i ↔ ((p.threads i).advance p.state).1.Succeeded DeviceResult.isOk :=
  Pool.step_succeeded _

/-- The operations of a list, each run alone, one after the other. -/
def serialRun (order : List ι) (db : Db) : Db :=
  order.foldl (fun db i => ((ops i).program.run db).2) db

/-- What clients of the device table rely on after a schedule. -/
structure NoLostUpdate (db : Db) (schedule : List ι) : Prop where
  /-- The table is what the successful operations leave in some sequential order. -/
  serial : ∃ order : List ι, order.Nodup ∧
    (∀ i, i ∈ order ↔ Returned ((startOps ops db).run schedule) i) ∧
    (serialRun ops order db).devices = ((startOps ops db).run schedule).state.devices
  /-- A device whose trust has been granted is trusted from then on. -/
  trusted : ∀ before after i, schedule = before ++ after → (ops i).grants = true →
    Returned ((startOps ops db).run before) i →
      ∃ device, ((startOps ops db).run schedule).state.devices.get (ops i).target.asStr =
        some device ∧ device.trusted = true
  /-- The name set by the last rename to complete stays. -/
  renamed : ∀ before after i deviceId name, schedule = before ++ i :: after →
    ops i = .rename deviceId name →
    ¬ Returned ((startOps ops db).run before) i →
    Returned ((startOps ops db).run (before ++ [i])) i →
    (∀ j, (ops j).renames = true → (ops j).target = deviceId →
      Returned ((startOps ops db).run schedule) j →
        Returned ((startOps ops db).run (before ++ [i])) j) →
      ∃ device, ((startOps ops db).run schedule).state.devices.get deviceId.asStr =
        some device ∧ device.name = name

end Interleaving

/-! ## Where a thread can be

`db₀` is the database the schedule starts from.  Pairing rows change in these
runs, but no row appears, disappears or changes its expiry (`SameSessions`), so
a session found unexpired in an interleaving is found unexpired in every
sequential run too (`Live`). -/

def SameSessions (db₀ db : Db) : Prop :=
  ∀ code, (db.pairings.get code).map PairingSession.expiresAt =
    (db₀.pairings.get code).map PairingSession.expiresAt

/-- The operation passes `confirm_pairing`'s session check, if it makes one. -/
def DeviceOp.Live (db₀ : Db) : DeviceOp → Prop
  | .confirm now code _ =>
      ∃ expiresAt, (db₀.pairings.get code.asStr).map PairingSession.expiresAt = some expiresAt ∧
        ¬ expiresAt < now
  | _ => True

/-- The states of a thread running `op`. -/
inductive Stage (db₀ : Db) (op : DeviceOp) : StoreM DeviceResult → Prop where
  | opening (now : Timestamp) (code : PairingCode) (deviceId : DeviceId)
      (same : op = .confirm now code deviceId) : Stage db₀ op (op.opening now code)
  | marking (session : PairingSession) (live : op.Live db₀)
      (kept : (db₀.pairings.get session.code.asStr).map PairingSession.expiresAt =
        some session.expiresAt) : Stage db₀ op (op.marking session)
  | reading (live : op.Live db₀) : Stage db₀ op op.reading
  | writing (device : Device) (live : op.Live db₀) (found : device.deviceId = op.target) :
      Stage db₀ op (op.writing device)
  | finished (result : DeviceResult) (live : result.isOk = true → op.Live db₀) :
      Stage db₀ op (.done result)

theorem stage_program (db₀ : Db) (op : DeviceOp) : Stage db₀ op op.program := by
  rw [DeviceOp.program_eq]
  cases op with
  | confirm now code deviceId => exact .opening now code deviceId rfl
  | trust deviceId => exact .reading trivial
  | rename deviceId name => exact .reading trivial
  | touch now deviceId => exact .reading trivial

theorem sameSessions_mark {db₀ db : Db} (same : SameSessions db₀ db) (session : PairingSession)
    (deviceId : DeviceId)
    (kept : (db₀.pairings.get session.code.asStr).map PairingSession.expiresAt =
      some session.expiresAt) :
    SameSessions db₀
      { db with pairings := db.pairings.put (Store.confirmedSession session deviceId) } := by
  intro code
  rw [KeyedTable.get_put]
  split
  · rename_i here
    rw [← here]
    exact kept.symm
  · exact same code

/-- Everything the next transaction of a thread running `op` can do. -/
inductive Move (op : DeviceOp) (t : StoreM DeviceResult) (db : Db) : Prop where
  /-- Nothing happens to the device table, and the thread does not return `Ok`. -/
  | silent (devices : (t.advance db).2.devices = db.devices)
      (running : (t.advance db).1.Succeeded DeviceResult.isOk → t.Succeeded DeviceResult.isOk)
  /-- `touch_device` finds no device and returns. -/
  | absent (devices : (t.advance db).2.devices = db.devices)
      (none : db.devices.get op.target.asStr = none)
      (touch : op.grants = false ∧ op.renames = false)
      (running : ¬ t.Succeeded DeviceResult.isOk)
      (returned : (t.advance db).1.Succeeded DeviceResult.isOk)
  /-- The put: the record last read, updated, replaces whatever is stored. -/
  | put (device : Device) (found : device.deviceId = op.target)
      (thread : t = op.writing device)
      (devices : (t.advance db).2.devices = db.devices.put (op.update device))
      (running : ¬ t.Succeeded DeviceResult.isOk)
      (returned : (t.advance db).1.Succeeded DeviceResult.isOk)

theorem not_ok_error {error : StoreError} :
    ¬ (Prog.done (.error error) : StoreM DeviceResult).Succeeded DeviceResult.isOk := by
  rw [Prog.succeeded_done]
  exact Bool.false_ne_true

/-- One transaction, from the stage of its thread: the next stage and the move. -/
theorem stage_advance {db₀ db : Db} {op : DeviceOp} {t : StoreM DeviceResult}
    (sessions : SameSessions db₀ db) (stage : Stage db₀ op t) :
    SameSessions db₀ (t.advance db).2 ∧ Stage db₀ op (t.advance db).1 ∧ Move op t db := by
  cases stage with
  | opening now code deviceId same =>
      have found := sessions code.asStr
      refine ⟨sessions, ?_⟩
      have silent : ∀ next, (((op.opening now code).advance db).1 = next) →
          ¬ next.Succeeded DeviceResult.isOk → Move op (op.opening now code) db :=
        fun next eq failed => .silent rfl fun returned => absurd (eq ▸ returned) failed
      cases lookup : db.pairings.get code.asStr with
      | none =>
          have next : ((op.opening now code).advance db).1 = .done (.error .notFound) := by
            simp only [DeviceOp.advance_opening, lookup]
          exact ⟨next ▸ .finished _ nofun, silent _ next not_ok_error⟩
      | some session =>
          rw [lookup] at found
          by_cases expired : session.expiresAt < now
          · have next : ((op.opening now code).advance db).1 = .done (.error .notFound) := by
              simp only [DeviceOp.advance_opening, lookup, if_pos expired]
            exact ⟨next ▸ .finished _ nofun, silent _ next not_ok_error⟩
          · have next : ((op.opening now code).advance db).1 = op.marking session := by
              simp only [DeviceOp.advance_opening, lookup, if_neg expired]
            have live : op.Live db₀ := by
              rw [same]
              exact ⟨session.expiresAt, found.symm, expired⟩
            refine ⟨next ▸ .marking session live ?_, silent _ next Prog.not_succeeded_call⟩
            rw [Db.code_of_get lookup]
            exact found.symm
  | marking session live kept =>
      exact ⟨sameSessions_mark sessions session op.target kept, .reading live,
        .silent rfl fun returned => absurd returned Prog.not_succeeded_call⟩
  | reading live =>
      refine ⟨sessions, ?_⟩
      cases lookup : db.devices.get op.target.asStr with
      | none =>
          have next : (op.reading.advance db).1 = .done op.missing := by
            simp only [DeviceOp.advance_reading, lookup]
          refine ⟨next ▸ .finished _ fun _ => live, ?_⟩
          cases op with
          | touch now deviceId =>
              exact .absent rfl lookup ⟨rfl, rfl⟩ Prog.not_succeeded_call
                (next ▸ Prog.succeeded_done.mpr rfl)
          | _ => exact .silent rfl fun returned => absurd (next ▸ returned) not_ok_error
      | some device =>
          have next : (op.reading.advance db).1 = op.writing device := by
            simp only [DeviceOp.advance_reading, lookup]
          exact ⟨next ▸ .writing device live (Db.deviceId_of_get lookup),
            .silent rfl fun returned => absurd returned (next ▸ Prog.not_succeeded_call)⟩
  | writing device live found =>
      exact ⟨sessions, .finished _ fun _ => live,
        .put device found rfl rfl Prog.not_succeeded_call (Prog.succeeded_done.mpr rfl)⟩
  | finished result live =>
      exact ⟨sessions, .finished result live, .silent rfl id⟩

section Runs

variable {ι : Type} [DecidableEq ι] (ops : ι → DeviceOp) (db₀ : Db)

/-- Every thread is at a stage of its operation. -/
structure Staged (p : DevicePool ι) : Prop where
  sessions : SameSessions db₀ p.state
  stage : ∀ i, Stage db₀ (ops i) (p.threads i)

omit [DecidableEq ι] in
theorem staged_start : Staged ops db₀ (startOps ops db₀) :=
  ⟨fun _ => rfl, fun i => stage_program db₀ (ops i)⟩

theorem staged_step {p : DevicePool ι} (staged : Staged ops db₀ p) (i : ι) :
    Staged ops db₀ (p.step i) := by
  obtain ⟨sessions, stage, -⟩ := stage_advance staged.sessions (staged.stage i)
  exact ⟨sessions, Pool.step_forall staged.stage stage⟩

omit [DecidableEq ι] in
theorem move_of_staged {p : DevicePool ι} (staged : Staged ops db₀ p) (i : ι) :
    Move (ops i) (p.threads i) p.state :=
  (stage_advance staged.sessions (staged.stage i)).2.2

/-! ## Current puts take effect in order -/

/-- The operation as one step on the device table. -/
def DeviceOp.apply (op : DeviceOp) (devices : Devices) : Devices :=
  match devices.get op.target.asStr with
  | none => devices
  | some device => devices.put (op.update device)

theorem get_apply_target {op : DeviceOp} {devices : Devices} {device : Device}
    (stored : devices.get op.target.asStr = some device) :
    (op.apply devices).get op.target.asStr = some (op.update device) := by
  have key := KeyedTable.key_of_get stored
  rw [DeviceOp.apply, stored]
  simp only [KeyedTable.get_put, DeviceOp.update_deviceId]
  exact if_pos key

theorem get_apply_ne {op : DeviceOp} {devices : Devices} {deviceId : DeviceId}
    (ne : op.target ≠ deviceId) :
    (op.apply devices).get deviceId.asStr = devices.get deviceId.asStr := by
  unfold DeviceOp.apply
  cases stored : devices.get op.target.asStr with
  | none => rfl
  | some device =>
      have key := KeyedTable.key_of_get stored
      simp only [KeyedTable.get_put, DeviceOp.update_deviceId]
      refine if_neg fun same => ne ?_
      exact DeviceId.asStr_injective (key.symm.trans same)

/-- Under a current put, every move of an operation is its one-step reading. -/
theorem current_atomic {p : DevicePool ι} {i : ι} (current : putsCurrent ops p i = true)
    (staged : Staged ops db₀ p) :
    ((p.step i).state.devices = p.state.devices ∧ (Returned (p.step i) i → Returned p i)) ∨
    ((p.step i).state.devices = (ops i).apply p.state.devices ∧
      ¬ Returned p i ∧ Returned (p.step i) i) := by
  rw [returned_step, Pool.step_state]
  cases move_of_staged ops db₀ staged i with
  | silent devices running => exact Or.inl ⟨devices, running⟩
  | absent devices none touch running returned =>
      refine Or.inr ⟨?_, running, returned⟩
      rw [devices, DeviceOp.apply, none]
  | put device found thread devices running returned =>
      refine Or.inr ⟨?_, running, returned⟩
      simp only [putsCurrent, thread, DeviceOp.writing, decide_eq_true_eq,
        DeviceOp.update_deviceId, found] at current
      cases stored : p.state.devices.get (ops i).target.asStr with
      | none =>
          rw [stored] at current
          cases current
      | some now =>
          rw [stored] at current
          rw [devices, DeviceOp.apply, stored]
          exact congrArg _ (Option.some.inj current).symm

/-- The operations of a list applied to the device table, one after the other. -/
def applyAll (order : List ι) (devices : Devices) : Devices :=
  order.foldl (fun devices i => (ops i).apply devices) devices

/-- Run alone, an operation is its one-step reading. -/
theorem run_program {db : Db} (same : SameSessions db₀ db) {op : DeviceOp} (live : op.Live db₀) :
    (op.program.run db).2.devices = op.apply db.devices ∧
      SameSessions db₀ (op.program.run db).2 := by
  have reading : ∀ db, SameSessions db₀ db →
      (op.reading.run db).2.devices = op.apply db.devices ∧
        SameSessions db₀ (op.reading.run db).2 := by
    intro db same
    simp only [DeviceOp.reading, DeviceOp.apply]
    rw [Prog.run_call, exec_getDevice]
    cases stored : db.devices.get op.target.asStr with
    | none => exact ⟨rfl, same⟩
    | some device => exact ⟨rfl, same⟩
  rw [DeviceOp.program_eq]
  cases op with
  | trust deviceId => exact reading db same
  | rename deviceId name => exact reading db same
  | touch now deviceId => exact reading db same
  | confirm now code deviceId =>
      obtain ⟨expiresAt, known, unexpired⟩ := live
      have found := same code.asStr
      rw [known] at found
      simp only [DeviceOp.opening]
      rw [Prog.run_call, exec_getPairing]
      cases lookup : db.pairings.get code.asStr with
      | none =>
          rw [lookup] at found
          cases found
      | some session =>
          rw [lookup] at found
          have expiry : session.expiresAt = expiresAt := Option.some.inj found
          have key := Db.code_of_get lookup
          simp only [expiry, if_neg unexpired]
          refine reading _ (sameSessions_mark same session deviceId ?_)
          rw [key, known, expiry]

omit [DecidableEq ι] in
theorem serialRun_devices {order : List ι} (live : ∀ i ∈ order, (ops i).Live db₀) {db : Db}
    (same : SameSessions db₀ db) :
    (serialRun ops order db).devices = applyAll ops order db.devices := by
  induction order generalizing db with
  | nil => rfl
  | cons i rest ih =>
      obtain ⟨devices, same⟩ := run_program db₀ same (live i List.mem_cons_self)
      have tail := ih (fun j member => live j (List.mem_cons_of_mem i member)) same
      simp only [serialRun, applyAll, List.foldl_cons] at tail ⊢
      rw [tail, devices]

/-! ## What current puts preserve -/

/-- The device is stored, and trusted. -/
def TrustedIn (devices : Devices) (deviceId : DeviceId) : Prop :=
  ∃ device, devices.get deviceId.asStr = some device ∧ device.trusted = true

def NamedIn (devices : Devices) (deviceId : DeviceId) (name : String) : Prop :=
  ∃ device, devices.get deviceId.asStr = some device ∧ device.name = name

theorem trustedIn_put {devices : Devices} {row : Device} {deviceId : DeviceId}
    (trusted : TrustedIn (devices.put row) deviceId) :
    (row.deviceId = deviceId ∧ row.trusted = true) ∨ TrustedIn devices deviceId := by
  obtain ⟨device, stored, bit⟩ := trusted
  rw [KeyedTable.get_put] at stored
  split at stored
  · rename_i same
    cases stored
    exact Or.inl ⟨DeviceId.asStr_injective same, bit⟩
  · exact Or.inr ⟨device, stored, bit⟩

theorem trustedIn_put_ne {devices : Devices} {row : Device} {deviceId : DeviceId}
    (trusted : TrustedIn devices deviceId) (ne : row.deviceId ≠ deviceId) :
    TrustedIn (devices.put row) deviceId := by
  obtain ⟨device, stored, bit⟩ := trusted
  have other : row.deviceId.asStr ≠ deviceId.asStr := fun same => ne (DeviceId.asStr_injective same)
  exact ⟨device, (KeyedTable.get_put_ne devices other).trans stored, bit⟩

theorem trustedIn_put_self (devices : Devices) {row : Device} (bit : row.trusted = true) :
    TrustedIn (devices.put row) row.deviceId :=
  ⟨row, KeyedTable.get_put_self _ row, bit⟩

theorem trustedIn_apply {devices : Devices} {deviceId : DeviceId}
    (trusted : TrustedIn devices deviceId) (op : DeviceOp) :
    TrustedIn (op.apply devices) deviceId := by
  obtain ⟨device, stored, bit⟩ := trusted
  by_cases here : op.target = deviceId
  · subst here
    exact ⟨op.update device, get_apply_target stored, DeviceOp.update_trusted bit⟩
  · exact ⟨device, (get_apply_ne here).trans stored, bit⟩

theorem namedIn_apply {devices : Devices} {deviceId : DeviceId} {name : String}
    (named : NamedIn devices deviceId name) {op : DeviceOp}
    (other : op.target = deviceId → op.renames = false) :
    NamedIn (op.apply devices) deviceId name := by
  obtain ⟨device, stored, kept⟩ := named
  by_cases here : op.target = deviceId
  · have notRename := other here
    subst here
    exact ⟨op.update device, get_apply_target stored,
      (DeviceOp.update_name notRename device).trans kept⟩
  · exact ⟨device, (get_apply_ne here).trans stored, kept⟩

/-- What a put leaves at its own device. -/
theorem get_put_update {devices : Devices} {op : DeviceOp} {device : Device}
    (found : device.deviceId = op.target) :
    (devices.put (op.update device)).get op.target.asStr = some (op.update device) := by
  rw [KeyedTable.get_put, DeviceOp.update_deviceId, found]
  exact if_pos rfl

/-- Every operation that has granted trust left its device trusted. -/
def GrantsKept (p : DevicePool ι) : Prop :=
  ∀ j, (ops j).grants = true → Returned p j → TrustedIn p.state.devices (ops j).target

theorem grantsKept_step {p : DevicePool ι} {i : ι} (current : putsCurrent ops p i = true)
    (staged : Staged ops db₀ p) (kept : GrantsKept ops p) : GrantsKept ops (p.step i) := by
  intro j grants returned
  by_cases already : Returned p j
  · have trusted := kept j grants already
    rcases current_atomic ops db₀ current staged with ⟨devices, -⟩ | ⟨devices, -, -⟩
    · rwa [devices]
    · rw [devices]
      exact trustedIn_apply trusted (ops i)
  · have here : j = i := by
      by_contra ne
      exact already ((Pool.step_succeeded_ne _ ne).mp returned)
    subst here
    rw [returned_step] at returned
    rw [Pool.step_state]
    cases move_of_staged ops db₀ staged j with
    | silent devices running => exact absurd (running returned) already
    | absent devices none touch _ _ =>
        rw [touch.1] at grants
        cases grants
    | put device found thread devices _ _ =>
        rw [devices]
        exact ⟨_, get_put_update found, DeviceOp.update_grants grants device⟩

/-- A name outlives every current put that is not a rename of the same device. -/
theorem namedIn_run {deviceId : DeviceId} {name : String} {p : DevicePool ι} {schedule : List ι}
    (along : p.Along (fun p i => putsCurrent ops p i = true ∧ Staged ops db₀ p) schedule)
    (last : ∀ j, (ops j).renames = true → (ops j).target = deviceId →
      Returned (p.run schedule) j → Returned p j)
    (named : NamedIn p.state.devices deviceId name) :
    NamedIn (p.run schedule).state.devices deviceId name := by
  induction schedule generalizing p with
  | nil => exact named
  | cons i rest ih =>
      obtain ⟨⟨current, staged⟩, along⟩ := along
      have later : ∀ j, (ops j).renames = true → (ops j).target = deviceId →
          Returned ((p.step i).run rest) j → Returned (p.step i) j := fun j rename target done =>
        Pool.step_keeps_succeeded _ (last j rename target done) i
      apply ih along later
      rcases current_atomic ops db₀ current staged with ⟨devices, -⟩ | ⟨devices, running, returned⟩
      · rwa [devices]
      · rw [devices]
        apply namedIn_apply named
        intro target
        by_contra rename
        rw [Bool.not_eq_false] at rename
        exact running (last i rename target (Pool.run_keeps_succeeded _ returned rest))

omit [DecidableEq ι] in
theorem start_not_returned (db : Db) (i : ι) : ¬ Returned (startOps ops db) i := by
  show ¬ ((ops i).program).Succeeded DeviceResult.isOk
  rw [DeviceOp.program_eq]
  cases ops i <;> exact Prog.not_succeeded_call

/-- **Current puts lose nothing.** -/
theorem currentPuts_noLostUpdate {db : Db} {schedule : List ι}
    (current : (startOps ops db).Along (fun p i => putsCurrent ops p i = true) schedule) :
    NoLostUpdate ops db schedule := by
  have along : (startOps ops db).Along
      (fun p i => putsCurrent ops p i = true ∧ Staged ops db p) schedule :=
    along_invariant (fun p i staged => staged_step ops db staged i) current
      (staged_start ops db)
  refine ⟨?_, ?_, ?_⟩
  · -- the order of the puts, with the calls that found no device where they read
    refine ⟨Pool.finishing DeviceResult.isOk (startOps ops db) schedule,
      Pool.finishing_nodup _ _ _, fun i => ?_, ?_⟩
    · rw [Pool.mem_finishing]
      exact and_iff_right (start_not_returned ops db i)
    · have staged : Staged ops db ((startOps ops db).run schedule) :=
        run_preserves (fun p i (staged : Staged ops db p) => staged_step ops db staged i)
          (staged_start ops db) schedule
      have live : ∀ i ∈ Pool.finishing DeviceResult.isOk (startOps ops db) schedule,
          (ops i).Live db := by
        intro i member
        obtain ⟨result, finished, ok⟩ := ((Pool.mem_finishing _).mp member).2
        have stage := staged.stage i
        rw [finished] at stage
        cases stage with
        | finished _ live => exact live ok
      rw [serialRun_devices ops db live fun _ => rfl]
      exact (Pool.view_run DeviceResult.isOk Db.devices (fun i => (ops i).apply)
        (fun p i step => current_atomic ops db step.1 step.2) along).symm
  · intro before after i split grants returned
    subst split
    have first := (along_append.mp along).1
    have second := (along_append.mp along).2
    rw [Pool.run_append]
    have kept : GrantsKept ops ((startOps ops db).run before) :=
      run_invariant (fun p i kept step => grantsKept_step ops db step.1 step.2 kept) first
        fun j _ returned => absurd returned (start_not_returned ops db j)
    exact run_invariant (fun p i kept step => grantsKept_step ops db step.1 step.2 kept)
      second kept i grants (Pool.run_keeps_succeeded _ returned after)
  · intro before after i deviceId name split rename running returned last
    subst split
    simp only [Pool.run_append, Pool.run_cons, Pool.run_nil] at last returned ⊢
    obtain ⟨⟨-, (staged : Staged ops db ((startOps ops db).run before))⟩, rest⟩ :=
      (along_append.mp along).2
    refine namedIn_run ops db rest last ?_
    rw [returned_step] at returned
    rw [Pool.step_state]
    cases move_of_staged ops db staged i with
    | silent devices silent => exact absurd (silent returned) running
    | absent devices none touch _ _ =>
        rw [rename] at touch
        cases touch.2
    | put device found thread devices _ _ =>
        rw [rename] at found devices
        rw [devices]
        exact ⟨_, get_put_update found, rfl⟩

end Runs

/-! ## One rename around one trust -/

namespace LostTrust

def phone : Device :=
  { deviceId := ⟨"dev_phone"⟩
    name := "Phone"
    publicKey := "pk"
    encryptionPublicKey := ""
    trusted := false
    createdAt := 0
    lastSeenAt := none }

def db : Db := { Db.empty with devices := Db.empty.devices.put phone }

/-- `true` trusts the phone, `false` renames it. -/
def ops : Bool → DeviceOp
  | true => .trust phone.deviceId
  | false => .rename phone.deviceId "Desk phone"

/-- Satisfiable pole: one after the other, every put is current. -/
theorem sequential_noLostUpdate : NoLostUpdate ops db [true, true, false, false] :=
  currentPuts_noLostUpdate ops (by refine ⟨rfl, ?_, rfl, ?_, trivial⟩ <;> decide)

/-- Refuting pole: the rename reads, the trust reads and puts and returns `Ok`, and
the rename puts back the record it read: the phone is untrusted again. -/
theorem lostTrust_schedule : ¬ NoLostUpdate ops db [false, true, true, false] := by
  intro noLoss
  obtain ⟨device, stored, trusted⟩ :=
    noLoss.trusted [false, true, true] [false] true rfl rfl ⟨_, rfl, rfl⟩
  have final : (((startOps ops db).run [false, true, true, false]).state.devices.get
      "dev_phone").map Device.trusted = some false := by decide
  rw [show (ops true).target.asStr = "dev_phone" from rfl] at stored
  rw [stored] at final
  rw [Option.map_some, trusted] at final
  cases final

end LostTrust

end AirPaste.Server
