/-
# Server.Bootstrap — concurrent registrations over an empty device table

`register_device` lists the device table in one redb transaction and puts its
record in another, trusted when the list was empty.  Here any number of
registrations and record updates run over one database, a schedule choosing whose
transaction comes next.

A registration's put is *first* (`bootstrapsFirst`) when it stores a trusted
record only into a table that is still empty.  From an empty table, a schedule of
first puts trusts at most one device by registration, ever
(`bootstrapsFirst_unique`); among registrations alone it is also necessary
(`registrations_unique_iff`).  `twoRoots_schedule` is the pair of registrations
that both list the empty table.
-/
import AirPaste.Server.DeviceUpdates

namespace AirPaste.Server

open AirPaste.Core
open AirPaste.Theory

set_option autoImplicit false

/-- A request on the device table: a registration, with the ULID it draws and the
clock reading it makes, or the update of one record. -/
inductive RegistryOp where
  | register (ulid : String) (now : Timestamp) (name publicKey encryptionPublicKey : String)
  | update (op : DeviceOp)
  deriving DecidableEq

namespace RegistryOp

def program : RegistryOp → StoreM DeviceResult
  | .register ulid now name publicKey encryptionPublicKey => do
      return .ok (some (← Store.registerDevice ulid now name publicKey encryptionPublicKey))
  | .update op => op.program

def isRegistration : RegistryOp → Bool
  | .register .. => true
  | .update _ => false

/-- The device an operation registers or updates. -/
def deviceId : RegistryOp → DeviceId
  | .register ulid .. => DeviceId.new ulid
  | .update op => op.target

/-- The record a registration is about to file, trusted or not. -/
def record (trusted : Bool) : RegistryOp → Option Device
  | .register ulid now name publicKey encryptionPublicKey =>
      some ⟨DeviceId.new ulid, name, publicKey, encryptionPublicKey, trusted, now, none⟩
  | .update _ => none

end RegistryOp

/-- About to put the record of a registration. -/
def filing (device : Device) : StoreM DeviceResult :=
  .call (T := redb) (.putDevice device) fun _ => .done (.ok (some device))

section Registry

variable {ι : Type} [DecidableEq ι] (ops : ι → RegistryOp)

/-- Every request about to start. -/
def startRegistry (db : Db) : DevicePool ι := ⟨db, fun i => (ops i).program⟩

/-- A trust or a confirmed pairing has been performed for the device. -/
def Granted (p : DevicePool ι) (deviceId : DeviceId) : Prop :=
  ∃ i op, ops i = .update op ∧ op.grants = true ∧ op.target = deviceId ∧ Returned p i

/-- Stored trusted, though nobody has performed a trust for it. -/
def TrustedUngranted (p : DevicePool ι) (deviceId : DeviceId) : Prop :=
  TrustedIn p.state.devices deviceId ∧ ¬ Granted ops p deviceId

/-- At most one device is ever stored trusted without a trust performed for it. -/
def UniqueBootstrap (db : Db) (schedule : List ι) : Prop :=
  ∀ first second, first <+: schedule → second <+: schedule → ∀ a b,
    TrustedUngranted ops ((startRegistry ops db).run first) a →
    TrustedUngranted ops ((startRegistry ops db).run second) b → a = b

/-- The next transaction of `i`, if it is a registration filing a trusted record,
finds the device table still empty. -/
def bootstrapsFirst (p : DevicePool ι) (i : ι) : Bool :=
  match ops i, p.threads i with
  | .register .., .call (.putDevice row) _ => !row.trusted || p.state.devices.isEmpty
  | _, _ => true

/-! ## The stages of a registration -/

/-- The states of a thread running a request. -/
inductive RegistryStage (db₀ : Db) : RegistryOp → StoreM DeviceResult → Prop where
  | listing {op : RegistryOp} (registration : op.isRegistration = true) :
      RegistryStage db₀ op op.program
  | filing {op : RegistryOp} {trusted : Bool} {device : Device}
      (row : op.record trusted = some device) : RegistryStage db₀ op (filing device)
  | finished {op : RegistryOp} (registration : op.isRegistration = true)
      (result : DeviceResult) : RegistryStage db₀ op (.done result)
  | update {op : DeviceOp} {t : StoreM DeviceResult} (stage : Stage db₀ op t) :
      RegistryStage db₀ (.update op) t

theorem registryStage_program (db₀ : Db) (op : RegistryOp) : RegistryStage db₀ op op.program := by
  cases op with
  | register ulid now name publicKey encryptionPublicKey => exact .listing rfl
  | update op => exact .update (stage_program db₀ op)

theorem record_registers {op : RegistryOp} {trusted : Bool} {device : Device}
    (row : op.record trusted = some device) :
    op.isRegistration = true ∧ device.deviceId = op.deviceId ∧ device.trusted = trusted := by
  cases op with
  | register ulid now name publicKey encryptionPublicKey =>
      cases row
      exact ⟨rfl, rfl, rfl⟩
  | update op => cases row

/-- The list transaction decides the trust of the record to file. -/
theorem advance_listing {op : RegistryOp} (registration : op.isRegistration = true) (db : Db) :
    ∃ device, op.record db.devices.isEmpty = some device ∧
      op.program.advance db = (filing device, db) := by
  cases op with
  | register ulid now name publicKey encryptionPublicKey => exact ⟨_, rfl, rfl⟩
  | update op => cases registration

theorem advance_filing (device : Device) (db : Db) :
    (filing device).advance db =
      (.done (.ok (some device)), { db with devices := db.devices.put device }) := rfl

/-- A thread that has come to a put has read the record it updates. -/
theorem advance_writing {db₀ db : Db} {op : DeviceOp} {t : StoreM DeviceResult} {device : Device}
    (stage : Stage db₀ op t) (next : (t.advance db).1 = op.writing device) :
    ∃ found, db.devices.get op.target.asStr = some found ∧ op.update found = op.update device := by
  cases stage with
  | opening now code deviceId same =>
      rw [DeviceOp.advance_opening] at next
      split at next
      · cases next
      · split at next
        · cases next
        · exact absurd (Prog.call.inj next).1 nofun
  | marking session live kept =>
      have here : op.reading = op.writing device := next
      exact absurd (Prog.call.inj here).1 nofun
  | reading live =>
      rw [DeviceOp.advance_reading] at next
      split at next
      · cases next
      · rename_i found lookup
        exact ⟨found, lookup, Txn.putDevice.inj (Prog.call.inj next).1⟩
  | writing found live here => cases next
  | finished result live => cases next

/-- Every thread is at a stage of its request. -/
structure RegistryStaged (db₀ : Db) (p : DevicePool ι) : Prop where
  sessions : SameSessions db₀ p.state
  stage : ∀ i, RegistryStage db₀ (ops i) (p.threads i)

variable {ops} {db₀ : Db}

omit [DecidableEq ι] in
theorem registryStaged_start : RegistryStaged ops db₀ (startRegistry ops db₀) :=
  ⟨fun _ => rfl, fun i => registryStage_program db₀ (ops i)⟩

theorem registryStage_advance {db : Db} {op : RegistryOp} {t : StoreM DeviceResult}
    (sessions : SameSessions db₀ db) (stage : RegistryStage db₀ op t) :
    SameSessions db₀ (t.advance db).2 ∧ RegistryStage db₀ op (t.advance db).1 := by
  cases stage with
  | listing registration =>
      obtain ⟨device, row, next⟩ := advance_listing registration db
      rw [next]
      exact ⟨sessions, .filing row⟩
  | filing row =>
      rw [advance_filing]
      exact ⟨sessions, .finished (record_registers row).1 _⟩
  | finished registration result => exact ⟨sessions, .finished registration result⟩
  | update stage =>
      obtain ⟨sessions, next, -⟩ := stage_advance sessions stage
      exact ⟨sessions, .update next⟩

theorem registryStaged_step {p : DevicePool ι} (staged : RegistryStaged ops db₀ p) (i : ι) :
    RegistryStaged ops db₀ (p.step i) := by
  obtain ⟨sessions, stage⟩ := registryStage_advance staged.sessions (staged.stage i)
  exact ⟨sessions, Pool.step_forall staged.stage stage⟩

/-- Everything one transaction can do to the device table. -/
inductive RegistryMove (ops : ι → RegistryOp) (p : DevicePool ι) (i : ι) : Prop where
  /-- Nothing; a thread that comes to a put has read the record it updates. -/
  | silent (devices : (p.step i).state.devices = p.state.devices)
      (read : ∀ op device, ops i = .update op → (p.step i).threads i = op.writing device →
        ∃ found, p.state.devices.get op.target.asStr = some found ∧
          op.update found = op.update device)
  /-- A registration files its record. -/
  | file (trusted : Bool) (device : Device) (row : (ops i).record trusted = some device)
      (thread : p.threads i = filing device)
      (devices : (p.step i).state.devices = p.state.devices.put device)
      (finished : ∃ result, (p.step i).threads i = .done result)
  /-- An update replaces the record it has read. -/
  | put (op : DeviceOp) (device : Device) (here : ops i = .update op)
      (found : device.deviceId = op.target) (thread : p.threads i = op.writing device)
      (devices : (p.step i).state.devices = p.state.devices.put (op.update device))
      (returned : Returned (p.step i) i)

theorem registry_move {p : DevicePool ι} (staged : RegistryStaged ops db₀ p) (i : ι) :
    RegistryMove ops p i := by
  have stage := staged.stage i
  generalize request : ops i = op at stage
  generalize thread : p.threads i = t at stage
  have state : (p.step i).state = (t.advance p.state).2 := by rw [Pool.step_state, thread]
  have after : (p.step i).threads i = (t.advance p.state).1 := by rw [Pool.step_thread, thread]
  cases stage with
  | listing registration =>
      obtain ⟨device, row, next⟩ := advance_listing registration p.state
      refine .silent (by rw [state, next]) fun update device here => ?_
      rw [request] at here
      subst here
      cases registration
  | filing row =>
      exact .file _ _ (request ▸ row) thread (by rw [state, advance_filing])
        ⟨_, by rw [after, advance_filing]⟩
  | finished registration result =>
      refine .silent (by rw [state, Prog.advance_done]) fun update device here => ?_
      rw [request] at here
      subst here
      cases registration
  | @update op t stage =>
      have read : ∀ update device, ops i = .update update →
          (p.step i).threads i = update.writing device →
          ∃ found, p.state.devices.get update.target.asStr = some found ∧
            update.update found = update.update device := by
        intro update device here next
        obtain rfl : op = update := RegistryOp.update.inj (request.symm.trans here)
        exact advance_writing stage (after.symm.trans next)
      cases (stage_advance staged.sessions stage).2.2 with
      | silent devices running => exact .silent (by rw [state, devices]) read
      | absent devices none touch running returned => exact .silent (by rw [state, devices]) read
      | put device found writing devices running returned =>
          refine .put op device request found (thread.trans writing) (by rw [state, devices]) ?_
          rw [returned_step, thread]
          exact returned

/-! ## The root of trust

While the table is empty no update is pending.  The first record filed makes its
device the root: from then on the table is not empty, so under the condition no
registration files a trusted record, and a trusted record is the root's or the
record of a device a trust was performed for. -/

/-- No device is stored, and no update of a record is pending. -/
structure Unrooted (ops : ι → RegistryOp) (p : DevicePool ι) : Prop where
  empty : p.state.devices.isEmpty = true
  pending : ∀ i op device, ops i = .update op → p.threads i ≠ op.writing device

/-- Only `root` is trusted, or about to be, without a trust performed for it. -/
structure Rooted (ops : ι → RegistryOp) (root : DeviceId) (p : DevicePool ι) : Prop where
  occupied : p.state.devices.isEmpty = false
  stored : ∀ deviceId, TrustedIn p.state.devices deviceId →
    deviceId = root ∨ Granted ops p deviceId
  pending : ∀ i op device, ops i = .update op → op.grants = false →
    p.threads i = op.writing device → device.trusted = true →
      op.target = root ∨ Granted ops p op.target

theorem granted_step {p : DevicePool ι} {deviceId : DeviceId} (granted : Granted ops p deviceId)
    (i : ι) : Granted ops (p.step i) deviceId := by
  obtain ⟨j, op, here, grants, target, returned⟩ := granted
  exact ⟨j, op, here, grants, target, Pool.step_keeps_succeeded _ returned i⟩

/-- A table with a record in it is never emptied. -/
theorem occupied_step {p : DevicePool ι} (staged : RegistryStaged ops db₀ p) (i : ι)
    (occupied : p.state.devices.isEmpty = false) : (p.step i).state.devices.isEmpty = false := by
  cases registry_move staged i with
  | silent devices read => rw [devices, occupied]
  | file trusted device row thread devices finished => rw [devices, KeyedTable.put_isEmpty]
  | put op device here found thread devices returned => rw [devices, KeyedTable.put_isEmpty]

/-- An update pending after the step of another thread was pending before it. -/
theorem pending_step {p : DevicePool ι} {i j : ι} {op : DeviceOp} {device : Device}
    (ne : j ≠ i) (pending : (p.step i).threads j = op.writing device) :
    p.threads j = op.writing device :=
  (Pool.step_threads_ne p ne).symm.trans pending

omit [DecidableEq ι] in
theorem not_returned_writing {p : DevicePool ι} {i : ι} {op : DeviceOp} {device : Device}
    (pending : p.threads i = op.writing device) : ¬ Returned p i := by
  show ¬ (p.threads i).Succeeded DeviceResult.isOk
  rw [pending]
  exact Prog.not_succeeded_call

theorem rooted_step {root : DeviceId} {p : DevicePool ι} {i : ι}
    (staged : RegistryStaged ops db₀ p) (first : bootstrapsFirst ops p i = true)
    (rooted : Rooted ops root p) : Rooted ops root (p.step i) := by
  have keep : ∀ deviceId, deviceId = root ∨ Granted ops p deviceId →
      deviceId = root ∨ Granted ops (p.step i) deviceId :=
    fun deviceId before => before.imp_right fun granted => granted_step granted i
  have others : ∀ j op device, j ≠ i → ops j = .update op → op.grants = false →
      (p.step i).threads j = op.writing device → device.trusted = true →
        op.target = root ∨ Granted ops (p.step i) op.target :=
    fun j op device ne here grants pending trusted =>
      keep _ (rooted.pending j op device here grants (pending_step ne pending) trusted)
  refine ⟨occupied_step staged i rooted.occupied, ?_, ?_⟩
  · intro deviceId trusted
    cases registry_move staged i with
    | silent devices read =>
        rw [devices] at trusted
        exact keep _ (rooted.stored deviceId trusted)
    | file bit device row thread devices finished =>
        rw [devices] at trusted
        rcases trustedIn_put trusted with ⟨-, filed⟩ | before
        · exfalso
          obtain ⟨registration, -, -⟩ := record_registers row
          cases request : ops i with
          | register ulid now name publicKey encryptionPublicKey =>
              simp [bootstrapsFirst, request, thread, filing, filed, rooted.occupied] at first
          | update op =>
              rw [request] at registration
              cases registration
        · exact keep _ (rooted.stored deviceId before)
    | put op device here found thread devices returned =>
        rw [devices] at trusted
        rcases trustedIn_put trusted with ⟨same, bit⟩ | before
        · rw [DeviceOp.update_deviceId, found] at same
          subst same
          cases grants : op.grants with
          | true => exact Or.inr ⟨i, op, here, grants, rfl, returned⟩
          | false =>
              rw [DeviceOp.update_trusted_eq grants] at bit
              exact keep _ (rooted.pending i op device here grants thread bit)
        · exact keep _ (rooted.stored deviceId before)
  · intro j op device here grants pending trusted
    by_cases moved : j = i
    · subst moved
      cases registry_move staged j with
      | silent devices read =>
          obtain ⟨found, stored, same⟩ := read op device here pending
          have bit : found.trusted = true := by
            rw [← DeviceOp.update_trusted_eq grants, same, DeviceOp.update_trusted_eq grants,
              trusted]
          exact keep _ (rooted.stored _ ⟨found, stored, bit⟩)
      | file bit row record thread devices finished =>
          rw [here] at record
          cases record
      | put _ _ _ _ _ _ returned => exact absurd returned (not_returned_writing pending)
    · exact others j op device moved here grants pending trusted

/-- A step from the unrooted state leaves it unrooted, or gives it its root. -/
theorem unrooted_step {p : DevicePool ι} {i : ι} (staged : RegistryStaged ops db₀ p)
    (unrooted : Unrooted ops p) :
    Unrooted ops (p.step i) ∨ ∃ root, Rooted ops root (p.step i) := by
  have none : ∀ deviceId, p.state.devices.get deviceId = none :=
    KeyedTable.isEmpty_iff.mp unrooted.empty
  cases registry_move staged i with
  | silent devices read =>
      refine Or.inl ⟨by rw [devices, unrooted.empty], ?_⟩
      intro j op device here pending
      by_cases moved : j = i
      · subst moved
        obtain ⟨found, stored, -⟩ := read op device here pending
        rw [none] at stored
        cases stored
      · exact unrooted.pending j op device here (pending_step moved pending)
  | file bit device row thread devices finished =>
      refine Or.inr ⟨device.deviceId, by rw [devices, KeyedTable.put_isEmpty], ?_, ?_⟩
      · intro deviceId trusted
        rw [devices] at trusted
        rcases trustedIn_put trusted with ⟨same, -⟩ | ⟨found, stored, -⟩
        · exact Or.inl same.symm
        · rw [none] at stored
          cases stored
      · intro j op found here grants pending trusted
        by_cases moved : j = i
        · subst moved
          rw [here] at row
          cases row
        · exact absurd (pending_step moved pending) (unrooted.pending j op found here)
  | put op device here found thread devices returned =>
      exact absurd thread (unrooted.pending i op device here)

/-- The condition and the stages, at every step. -/
def FirstAlong (ops : ι → RegistryOp) (db₀ : Db) (p : DevicePool ι) (schedule : List ι) : Prop :=
  p.Along (fun p i => bootstrapsFirst ops p i = true ∧ RegistryStaged ops db₀ p) schedule

theorem rooted_run {root : DeviceId} {p : DevicePool ι} {schedule : List ι}
    (along : FirstAlong ops db₀ p schedule) (rooted : Rooted ops root p) :
    Rooted ops root (p.run schedule) :=
  run_invariant (fun _ _ rooted step => rooted_step step.2 step.1 rooted) along rooted

theorem firstAlong_initial {p : DevicePool ι} {first schedule : List ι}
    (along : FirstAlong ops db₀ p schedule) (before : first <+: schedule) :
    FirstAlong ops db₀ p first := by
  obtain ⟨rest, rfl⟩ := before
  exact (along_append.mp along).1

/-- One device is the only candidate in every state of the schedule. -/
theorem unrooted_run {p : DevicePool ι} {schedule : List ι}
    (along : FirstAlong ops db₀ p schedule) (unrooted : Unrooted ops p) :
    ∃ root, ∀ first, first <+: schedule → ∀ deviceId,
      TrustedUngranted ops (p.run first) deviceId → deviceId = root := by
  induction schedule generalizing p with
  | nil =>
      refine ⟨⟨""⟩, fun first before deviceId trusted => ?_⟩
      obtain rfl := List.prefix_nil.mp before
      obtain ⟨⟨device, stored, -⟩, -⟩ := trusted
      rw [Pool.run_nil, KeyedTable.isEmpty_iff.mp unrooted.empty] at stored
      cases stored
  | cons i rest ih =>
      -- the root, if the first step does not give it, comes from the rest
      have tail : ∃ root, ∀ first, first <+: rest → ∀ deviceId,
          TrustedUngranted ops ((p.step i).run first) deviceId → deviceId = root := by
        rcases unrooted_step along.1.2 unrooted (i := i) with unrooted | ⟨root, rooted⟩
        · exact ih along.2 unrooted
        · refine ⟨root, fun first before deviceId trusted => ?_⟩
          have there := rooted_run (firstAlong_initial along.2 before) rooted
          exact (there.stored deviceId trusted.1).resolve_right trusted.2
      obtain ⟨root, unique⟩ := tail
      refine ⟨root, fun first before deviceId trusted => ?_⟩
      cases first with
      | nil =>
          obtain ⟨⟨device, stored, -⟩, -⟩ := trusted
          rw [Pool.run_nil, KeyedTable.isEmpty_iff.mp unrooted.empty] at stored
          cases stored
      | cons j first =>
          obtain ⟨rfl, later⟩ := List.cons_prefix_cons.mp before
          exact unique first later deviceId trusted

omit [DecidableEq ι] in
theorem unrooted_start {db : Db} (empty : db.devices.isEmpty = true) :
    Unrooted ops (startRegistry ops db) := by
  refine ⟨empty, fun i op device here pending => ?_⟩
  have program : op.program = op.writing device := by
    have thread : (ops i).program = op.writing device := pending
    rw [here] at thread
    exact thread
  rw [DeviceOp.program_eq] at program
  cases op <;> exact absurd (Prog.call.inj program).1 nofun

variable (ops) in
/-- **First puts give one root of trust.** -/
theorem bootstrapsFirst_unique {db : Db} {schedule : List ι} (empty : db.devices.isEmpty = true)
    (first : (startRegistry ops db).Along (fun p i => bootstrapsFirst ops p i = true) schedule) :
    UniqueBootstrap ops db schedule := by
  have along : FirstAlong ops db (startRegistry ops db) schedule :=
    along_invariant (fun p i (staged : RegistryStaged ops db p) => registryStaged_step staged i)
      first registryStaged_start
  obtain ⟨root, unique⟩ := unrooted_run along (unrooted_start empty)
  intro early late earlyPrefix latePrefix a b trustedA trustedB
  rw [unique early earlyPrefix a trustedA, unique late latePrefix b trustedB]

/-! ## Registrations alone

Among registrations with distinct ULIDs the condition is also necessary: once a
record is stored, some registered device is trusted for good, and a second
trusted record is a second root. -/

/-- While the table is empty every record about to be filed is trusted; once it is
not, the device of a finished registration is trusted. -/
structure Founded (ops : ι → RegistryOp) (p : DevicePool ι) : Prop where
  filing : ∀ i device, p.threads i = filing device → device.trusted = false →
    p.state.devices.isEmpty = false
  founder : p.state.devices.isEmpty = false →
    ∃ i result, p.threads i = .done result ∧ TrustedIn p.state.devices (ops i).deviceId

/-- A registration that has come to its put has listed the table. -/
theorem advance_filed {db : Db} {op : RegistryOp} {t : StoreM DeviceResult} {device : Device}
    (registration : op.isRegistration = true) (stage : RegistryStage db₀ op t)
    (next : (t.advance db).1 = filing device) : device.trusted = db.devices.isEmpty := by
  cases stage with
  | listing _ =>
      obtain ⟨row, here, advanced⟩ := advance_listing registration db
      rw [advanced] at next
      obtain rfl : row = device := Txn.putDevice.inj (Prog.call.inj next).1
      exact (record_registers here).2.2
  | filing row => cases next
  | finished _ result => cases next
  | update stage => cases registration

theorem founded_step {p : DevicePool ι} (registrations : ∀ i, (ops i).isRegistration = true)
    (distinct : Function.Injective fun i => (ops i).deviceId)
    (staged : RegistryStaged ops db₀ p) (founded : Founded ops p) (i : ι) :
    Founded ops (p.step i) := by
  cases registry_move staged i with
  | silent devices read =>
      refine ⟨fun j device pending bit => ?_, fun occupied => ?_⟩
      · rw [devices]
        by_cases moved : j = i
        · subst moved
          rw [Pool.step_thread] at pending
          rw [← advance_filed (registrations j) (staged.stage j) pending, bit]
        · exact founded.filing j device ((Pool.step_threads_ne p moved).symm.trans pending) bit
      · rw [devices] at occupied ⊢
        obtain ⟨j, result, finished, trusted⟩ := founded.founder occupied
        exact ⟨j, result, Pool.step_keeps_done finished i, trusted⟩
  | file bit device row thread devices finished =>
      obtain ⟨-, own, -⟩ := record_registers row
      refine ⟨fun _ _ _ _ => by rw [devices, KeyedTable.put_isEmpty], fun _ => ?_⟩
      rw [devices]
      cases empty : p.state.devices.isEmpty with
      | true =>
          -- the first record filed: its device is the founder
          obtain ⟨result, finished⟩ := finished
          refine ⟨i, result, finished, own ▸ trustedIn_put_self _ ?_⟩
          by_contra untrusted
          rw [founded.filing i device thread (Bool.eq_false_iff.mpr untrusted)] at empty
          cases empty
      | false =>
          obtain ⟨j, result, done, trusted⟩ := founded.founder empty
          refine ⟨j, result, Pool.step_keeps_done done i, trustedIn_put_ne trusted fun same => ?_⟩
          have here : i = j := distinct (own.symm.trans same)
          subst here
          rw [thread] at done
          cases done
  | put op device here found thread devices returned =>
      have registration := registrations i
      rw [here] at registration
      cases registration

omit [DecidableEq ι] in
theorem founded_start {db : Db} (empty : db.devices.isEmpty = true)
    (registrations : ∀ i, (ops i).isRegistration = true) :
    Founded ops (startRegistry ops db) := by
  refine ⟨fun i device pending _ => ?_, fun occupied => ?_⟩
  · have program : (ops i).program = filing device := pending
    have registration := registrations i
    cases request : ops i with
    | register ulid now name publicKey encryptionPublicKey =>
        rw [request] at program
        exact absurd (Prog.call.inj program).1 nofun
    | update op =>
        rw [request] at registration
        cases registration
  · have empty' : (startRegistry ops db).state.devices.isEmpty = true := empty
    rw [empty'] at occupied
    cases occupied

omit [DecidableEq ι] in
/-- A step that is not first is a registration about to file a trusted record. -/
theorem late_files {p : DevicePool ι} {i : ι} (stage : RegistryStage db₀ (ops i) (p.threads i))
    (late : bootstrapsFirst ops p i = false) :
    ∃ device, (ops i).record true = some device ∧ p.threads i = filing device ∧
      p.state.devices.isEmpty = false := by
  unfold bootstrapsFirst at late
  generalize ops i = op at stage late ⊢
  generalize p.threads i = t at stage late ⊢
  cases stage with
  | listing registration =>
      cases op with
      | register ulid now name publicKey encryptionPublicKey => cases late
      | update op => cases registration
  | @filing _ trusted device row =>
      cases op with
      | register ulid now name publicKey encryptionPublicKey =>
          have bit := (record_registers row).2.2
          simp only [Server.filing, Bool.or_eq_false_iff, Bool.not_eq_false'] at late
          rw [← bit, late.1] at row
          exact ⟨device, row, rfl, late.2⟩
      | update op => cases row
  | finished registration result =>
      cases op with
      | register ulid now name publicKey encryptionPublicKey => cases late
      | update op => cases registration
  | update stage => cases late

/-- Registrations of distinct devices have one root exactly when their trusted
records are filed into an empty table. -/
theorem registrations_unique_iff {db : Db} {schedule : List ι}
    (empty : db.devices.isEmpty = true) (registrations : ∀ i, (ops i).isRegistration = true)
    (distinct : Function.Injective fun i => (ops i).deviceId) :
    UniqueBootstrap ops db schedule ↔
      (startRegistry ops db).Along (fun p i => bootstrapsFirst ops p i = true) schedule := by
  refine ⟨fun unique => along_iff.mpr ?_, bootstrapsFirst_unique ops empty⟩
  rintro before i after rfl
  by_contra notFirst
  have late : bootstrapsFirst ops ((startRegistry ops db).run before) i = false :=
    Bool.eq_false_iff.mpr notFirst
  generalize here : (startRegistry ops db).run before = p at late
  obtain ⟨staged, founded⟩ : RegistryStaged ops db p ∧ Founded ops p := by
    rw [← here]
    have keeps : ∀ (p : DevicePool ι) i, RegistryStaged ops db p ∧ Founded ops p →
        RegistryStaged ops db (p.step i) ∧ Founded ops (p.step i) := fun p i holds =>
      ⟨registryStaged_step holds.1 i, founded_step registrations distinct holds.1 holds.2 i⟩
    exact run_preserves keeps ⟨registryStaged_start, founded_start empty registrations⟩ before
  obtain ⟨device, row, thread, occupied⟩ := late_files (staged.stage i) late
  obtain ⟨-, own, bit⟩ := record_registers row
  obtain ⟨j, result, done, trusted⟩ := founded.founder occupied
  have other : device.deviceId ≠ (ops j).deviceId := by
    intro same
    have here : i = j := distinct (own.symm.trans same)
    subst here
    rw [thread] at done
    cases done
  have devices : (p.step i).state.devices = p.state.devices.put device := by
    rw [Pool.step_state, thread, advance_filing]
  have reached : (startRegistry ops db).run (before ++ [i]) = p.step i := by
    rw [Pool.run_append, here, Pool.run_cons, Pool.run_nil]
  have within : before ++ [i] <+: before ++ i :: after :=
    ⟨after, by rw [List.append_assoc, List.singleton_append]⟩
  have stays : ∀ deviceId, TrustedIn (p.step i).state.devices deviceId →
      TrustedUngranted ops ((startRegistry ops db).run (before ++ [i])) deviceId := by
    intro deviceId trusted
    rw [reached]
    refine ⟨trusted, ?_⟩
    rintro ⟨k, op, request, -⟩
    have registration := registrations k
    rw [request] at registration
    cases registration
  refine other (unique _ _ within within _ _ (stays _ ?_) (stays _ ?_))
  · rw [devices]
    exact trustedIn_put_self _ bit
  · rw [devices]
    exact trustedIn_put_ne trusted other

end Registry


/-! ## Two registrations over one empty table -/

namespace TwoRoots

/-- The phone and the laptop register. -/
def ops : Bool → RegistryOp
  | true => .register "phone" 0 "Phone" "pk_phone" ""
  | false => .register "laptop" 0 "Laptop" "pk_laptop" ""

/-- Satisfiable pole: one after the other, the phone is the root. -/
theorem sequential_unique : UniqueBootstrap ops Db.empty [true, true, false, false] :=
  bootstrapsFirst_unique ops rfl (by refine ⟨rfl, ?_, rfl, ?_, trivial⟩ <;> decide)

theorem not_granted (p : DevicePool Bool) (deviceId : DeviceId) : ¬ Granted ops p deviceId := by
  rintro ⟨i, op, here, -⟩
  cases i <;> cases here

/-- Refuting pole: both list the empty table before either puts. -/
theorem twoRoots_schedule : ¬ UniqueBootstrap ops Db.empty [true, false, true, false] := by
  intro unique
  have trusted : ∀ i, TrustedUngranted ops
      ((startRegistry ops Db.empty).run [true, false, true, false]) (ops i).deviceId := by
    intro i
    refine ⟨?_, not_granted _ _⟩
    cases i
    · exact ⟨⟨⟨"dev_laptop"⟩, "Laptop", "pk_laptop", "", true, 0, none⟩, by decide, rfl⟩
    · exact ⟨⟨⟨"dev_phone"⟩, "Phone", "pk_phone", "", true, 0, none⟩, by decide, rfl⟩
  have same := unique _ _ List.prefix_rfl List.prefix_rfl _ _ (trusted true) (trusted false)
  exact absurd same (by decide)

end TwoRoots

end AirPaste.Server
