/-
# Server.Presence — when the server has last heard of a device

`ws_handler` touches the record of its device when it has taken the hello, at every tick of
an interval of its own, and at every heartbeat or further hello of the client.
`touch_device` gets the record in one transaction, reads the clock, and puts the record
back in another.  Other handlers and the requests that register, trust, rename and pair
devices perform their transactions in between, and time passes between any two steps.

A `Socket` is a handler with what matters to `last_seen_at`; what it publishes and sends is
in `Server.EventHub`.  The clock of the records and the timer of the interval run at one
speed, and a tick that is late leaves the times of the later ones as they are.

`told_run`: in any interleaving, a `last_seen_at` is a time at which a socket of that very
device was open, or was in the database when the server started.  How old it may be is in
`Server.Recency`.
-/
import AirPaste.Server.Store
import AirPaste.Theory.Obeys
import AirPaste.Theory.Run

namespace AirPaste.Server

open AirPaste.Core
open AirPaste.Theory

set_option autoImplicit false

/-- `Duration::from_secs(30)` of the handler's interval. -/
def heartbeatPeriod : Int := seconds 30

/-- What a call of `touch_device` does next. -/
inductive TouchStage where
  | reading
  /-- The record is read, the clock is not. -/
  | stamping (row : Device)
  | writing (row : Device)
  deriving DecidableEq

/-- A call of `touch_device`; nothing reads when it was made. -/
structure Touch where
  started : Timestamp
  stage : TouchStage
  deriving DecidableEq

/-- The record that a call has read, stamped or not. -/
def TouchStage.row? : TouchStage → Option Device
  | .reading => none
  | .stamping row => some row
  | .writing row => some row

inductive SocketPhase where
  /-- The hello is accepted. -/
  | greeting (touch : Touch)
  /-- From the announcement to the subscriptions. -/
  | announcing
  /-- In the `select!`, with the time of the next tick. -/
  | looping (due : Timestamp)
  | touching (due : Timestamp) (touch : Touch)
  | done
  deriving DecidableEq

namespace SocketPhase

def touch? : SocketPhase → Option Touch
  | .greeting touch => some touch
  | .touching _ touch => some touch
  | _ => none

/-- The call goes on to its next stage. -/
def withStage (stage : TouchStage) : SocketPhase → SocketPhase
  | .greeting touch => .greeting { touch with stage := stage }
  | .touching due touch => .touching due { touch with stage := stage }
  | phase => phase

/-- The call returns. -/
def touched : SocketPhase → SocketPhase
  | .greeting _ => .announcing
  | .touching due _ => .looping due
  | phase => phase

/-- The stage of the call under way. -/
def stage? (phase : SocketPhase) : Option TouchStage := phase.touch?.map Touch.stage

def row? (phase : SocketPhase) : Option Device := phase.stage?.bind TouchStage.row?

variable {phase : SocketPhase} {stage next : TouchStage}

theorem row?_of_stage (calling : phase.stage? = some stage) : phase.row? = stage.row? := by
  rw [row?, calling, Option.bind_some]

theorem stage?_withStage (calling : phase.stage? = some stage) :
    (phase.withStage next).stage? = some next := by
  cases phase with
  | greeting touch => rfl
  | touching due touch => rfl
  | _ => cases calling

theorem row?_withStage (calling : phase.stage? = some stage) :
    (phase.withStage next).row? = next.row? := row?_of_stage (stage?_withStage calling)

@[simp] theorem row?_touched (phase : SocketPhase) : phase.touched.row? = none := by
  cases phase <;> rfl

theorem ne_done_of_calling (calling : phase.stage? = some stage) : phase ≠ .done := by
  rintro rfl
  cases calling

theorem withStage_ne_done (calling : phase.stage? = some stage) :
    phase.withStage next ≠ .done := ne_done_of_calling (stage?_withStage calling)

theorem touched_ne_done (calling : phase.stage? = some stage) : phase.touched ≠ .done := by
  cases phase with
  | greeting touch => exact nofun
  | touching due touch => exact nofun
  | _ => cases calling

end SocketPhase

structure Socket where
  deviceId : DeviceId
  phase : SocketPhase
  deriving DecidableEq

/-- The hello is taken and the handler has not ended. -/
def Socket.isOpen (socket : Socket) : Bool := decide (socket.phase ≠ .done)

/-- The requests that write the device table, with the clock readings they make. -/
inductive DeviceRequest where
  | registers (ulid : String) (now : Timestamp) (name publicKey encryptionPublicKey : String)
  | trusts (deviceId : DeviceId)
  | renames (deviceId : DeviceId) (name : String)
  | startsPairing (ulid : Nat) (now : Timestamp) (createdBy : Option DeviceId)
      (ttlSeconds : Option Int)
  | confirms (now : Timestamp) (code : PairingCode) (deviceId : DeviceId)

/-- What a request does with the store; its answer is of no matter here. -/
def DeviceRequest.program : DeviceRequest → StoreM Unit
  | .registers ulid now name publicKey encryptionPublicKey => do
      let _ ← Store.registerDevice ulid now name publicKey encryptionPublicKey
      return ()
  | .trusts deviceId => do
      let _ ← Store.trustDevice deviceId
      return ()
  | .renames deviceId name => do
      let _ ← Store.renameDevice deviceId name
      return ()
  | .startsPairing ulid now createdBy ttlSeconds => do
      let _ ← Store.startPairing ulid now createdBy ttlSeconds
      return ()
  | .confirms now code deviceId => do
      let _ ← Store.confirmPairing now code deviceId
      return ()

/-- The server's clock and database, its handlers, and the requests it is serving. -/
structure Presence where
  now : Timestamp
  db : Db
  sockets : List Socket
  requests : List (StoreM Unit)

inductive PresenceEvent where
  | passes (duration : Nat)
  /-- A hello for the device of the request arrives. -/
  | connects (deviceId : DeviceId)
  | reads (h : Nat)
  | stamps (h : Nat)
  | writes (h : Nat)
  /-- The interval is made; its first tick is due at once. -/
  | loops (h : Nat)
  | ticks (h : Nat)
  /-- A heartbeat of the client, or another hello. -/
  | hears (h : Nat)
  | closes (h : Nat)
  | requests (request : DeviceRequest)
  /-- A request performs its next transaction. -/
  | advances (r : Nat)

namespace Presence

def start (now : Timestamp) (db : Db) : Presence := ⟨now, db, [], []⟩

def setPhase (s : Presence) (h : Nat) (socket : Socket) (phase : SocketPhase) : Presence :=
  { s with sockets := s.sockets.set h { socket with phase := phase } }

/-- `get_device`; without a record the call returns. -/
def reads (s : Presence) (h : Nat) (socket : Socket) : Presence :=
  match socket.phase.stage? with
  | some .reading =>
      match s.db.devices.get socket.deviceId.asStr with
      | none => s.setPhase h socket socket.phase.touched
      | some row => s.setPhase h socket (socket.phase.withStage (.stamping row))
  | _ => s

def stamps (s : Presence) (h : Nat) (socket : Socket) : Presence :=
  match socket.phase.stage? with
  | some (.stamping row) =>
      s.setPhase h socket
        (socket.phase.withStage (.writing { row with lastSeenAt := some s.now }))
  | _ => s

/-- A call puts its record and returns. -/
def putRow (s : Presence) (h : Nat) (socket : Socket) (row : Device) : Presence :=
  { s.setPhase h socket socket.phase.touched with
    db := { s.db with devices := s.db.devices.put row } }

def writes (s : Presence) (h : Nat) (socket : Socket) : Presence :=
  match socket.phase.stage? with
  | some (.writing row) => s.putRow h socket row
  | _ => s

def loops (s : Presence) (h : Nat) (socket : Socket) : Presence :=
  match socket.phase with
  | .announcing => s.setPhase h socket (.looping s.now)
  | _ => s

def ticks (s : Presence) (h : Nat) (socket : Socket) : Presence :=
  match socket.phase with
  | .looping due =>
      if due ≤ s.now then
        s.setPhase h socket (.touching (due + heartbeatPeriod) ⟨s.now, .reading⟩)
      else s
  | _ => s

def hears (s : Presence) (h : Nat) (socket : Socket) : Presence :=
  match socket.phase with
  | .looping due => s.setPhase h socket (.touching due ⟨s.now, .reading⟩)
  | _ => s

/-- A handler ends where it waits: when it cannot send, or when the socket closes. -/
def closes (s : Presence) (h : Nat) (socket : Socket) : Presence :=
  match socket.phase with
  | .announcing => s.setPhase h socket .done
  | .looping _ => s.setPhase h socket .done
  | _ => s

def advances (s : Presence) (r : Nat) : Presence :=
  match s.requests[r]? with
  | none => s
  | some request =>
      { s with
        db := (request.advance s.db).2
        requests := s.requests.set r (request.advance s.db).1 }

/-- The step of a handler, if there is one of that number. -/
def handler (s : Presence) (h : Nat) (act : Presence → Nat → Socket → Presence) : Presence :=
  match s.sockets[h]? with
  | none => s
  | some socket => act s h socket

def step (s : Presence) : PresenceEvent → Presence
  | .passes duration => { s with now := s.now + duration }
  | .connects deviceId =>
      { s with sockets := s.sockets ++ [⟨deviceId, .greeting ⟨s.now, .reading⟩⟩] }
  | .reads h => s.handler h reads
  | .stamps h => s.handler h stamps
  | .writes h => s.handler h writes
  | .loops h => s.handler h loops
  | .ticks h => s.handler h ticks
  | .hears h => s.handler h hears
  | .closes h => s.handler h closes
  | .requests request => { s with requests := s.requests ++ [request.program] }
  | .advances r => s.advances r

def after (s : Presence) (events : List PresenceEvent) : Presence := runFrom step s events

/-! ## What a step can do -/

/-- The moves of a handler that leave the database alone. -/
inductive Turn (s : Presence) (socket : Socket) : SocketPhase → Prop
  | read (row : Device) (reading : socket.phase.stage? = some .reading)
      (found : s.db.devices.get socket.deviceId.asStr = some row) :
      Turn s socket (socket.phase.withStage (.stamping row))
  | missing (reading : socket.phase.stage? = some .reading)
      (nothing : s.db.devices.get socket.deviceId.asStr = none) :
      Turn s socket socket.phase.touched
  | stamped (row : Device) (stamping : socket.phase.stage? = some (.stamping row)) :
      Turn s socket
        (socket.phase.withStage (.writing { row with lastSeenAt := some s.now }))
  | looped (announcing : socket.phase = .announcing) : Turn s socket (.looping s.now)
  | ticked (due : Timestamp) (looping : socket.phase = .looping due) (late : due ≤ s.now) :
      Turn s socket (.touching (due + heartbeatPeriod) ⟨s.now, .reading⟩)
  | heard (due : Timestamp) (looping : socket.phase = .looping due) :
      Turn s socket (.touching due ⟨s.now, .reading⟩)
  | closed (waiting : socket.phase.touch? = none) : Turn s socket .done

inductive Move (s : Presence) : PresenceEvent → Presence → Prop
  | idle (e : PresenceEvent) : Move s e s
  | passed (duration : Nat) : Move s (.passes duration) { s with now := s.now + duration }
  | connected (deviceId : DeviceId) :
      Move s (.connects deviceId)
        { s with sockets := s.sockets ++ [⟨deviceId, .greeting ⟨s.now, .reading⟩⟩] }
  | turned {e : PresenceEvent} {h : Nat} {socket : Socket} {phase : SocketPhase}
      (found : s.sockets[h]? = some socket) (turn : Turn s socket phase)
      (closing : phase = .done → e = .closes h) : Move s e (s.setPhase h socket phase)
  | wrote {h : Nat} {socket : Socket} {row : Device} (found : s.sockets[h]? = some socket)
      (writing : socket.phase.stage? = some (.writing row)) :
      Move s (.writes h) (s.putRow h socket row)
  | requested (request : DeviceRequest) :
      Move s (.requests request) { s with requests := s.requests ++ [request.program] }
  | advanced {r : Nat} {request : StoreM Unit} (found : s.requests[r]? = some request) :
      Move s (.advances r)
        { s with
          db := (request.advance s.db).2
          requests := s.requests.set r (request.advance s.db).1 }

section Step

variable {s : Presence} {h : Nat} {socket : Socket}

theorem handler_of (found : s.sockets[h]? = some socket)
    (act : Presence → Nat → Socket → Presence) : s.handler h act = act s h socket := by
  unfold handler
  rw [found]

theorem setPhase_at (found : s.sockets[h]? = some socket) (phase : SocketPhase) :
    (s.setPhase h socket phase).sockets[h]? = some { socket with phase := phase } :=
  List.getElem?_set_self (List.getElem?_eq_some_iff.mp found).1

theorem handler_move {e : PresenceEvent} {act : Presence → Nat → Socket → Presence}
    (moves : ∀ socket, s.sockets[h]? = some socket → Move s e (act s h socket)) :
    Move s e (s.handler h act) := by
  unfold handler
  cases found : s.sockets[h]? with
  | none => exact .idle e
  | some socket => exact moves socket found

theorem step_move (s : Presence) (e : PresenceEvent) : Move s e (s.step e) := by
  cases e with
  | passes duration => exact .passed duration
  | connects deviceId => exact .connected deviceId
  | reads h =>
      refine handler_move fun socket found => ?_
      unfold reads
      split
      · rename_i reading
        split
        · rename_i nothing
          exact .turned found (.missing reading nothing) fun ends =>
            absurd ends (SocketPhase.touched_ne_done reading)
        · rename_i row stored
          exact .turned found (.read row reading stored) fun ends =>
            absurd ends (SocketPhase.withStage_ne_done reading)
      · exact .idle _
  | stamps h =>
      refine handler_move fun socket found => ?_
      unfold stamps
      split
      · rename_i row stamping
        exact .turned found (.stamped row stamping) fun ends =>
          absurd ends (SocketPhase.withStage_ne_done stamping)
      · exact .idle _
  | writes h =>
      refine handler_move fun socket found => ?_
      unfold writes
      split
      · rename_i row writing
        exact .wrote found writing
      · exact .idle _
  | loops h =>
      refine handler_move fun socket found => ?_
      unfold loops
      split
      · rename_i announcing
        exact .turned found (.looped announcing) fun ends => by cases ends
      · exact .idle _
  | ticks h =>
      refine handler_move fun socket found => ?_
      unfold ticks
      split
      · rename_i due looping
        split
        · rename_i late
          exact .turned found (.ticked due looping late) fun ends => by cases ends
        · exact .idle _
      · exact .idle _
  | hears h =>
      refine handler_move fun socket found => ?_
      unfold hears
      split
      · rename_i due looping
        exact .turned found (.heard due looping) fun ends => by cases ends
      · exact .idle _
  | closes h =>
      refine handler_move fun socket found => ?_
      unfold closes
      split
      · rename_i announcing
        exact .turned found (.closed (by rw [announcing]; rfl)) fun _ => rfl
      · rename_i due looping
        exact .turned found (.closed (by rw [looping]; rfl)) fun _ => rfl
      · exact .idle _
  | requests request => exact .requested request
  | advances r =>
      show Move s _ (s.advances r)
      unfold advances
      split
      · exact .idle _
      · rename_i request found
        exact .advanced found

/-- The three stages of a call with nothing in between are `touch_device`. -/
theorem touch_alone {due started : Timestamp} (found : s.sockets[h]? = some socket)
    (calling : socket.phase = .touching due ⟨started, .reading⟩) :
    (s.after [.reads h, .stamps h, .writes h]).db =
      ((Store.touchDevice s.now socket.deviceId).run s.db).2 := by
  obtain ⟨deviceId, phase⟩ := socket
  cases calling
  rw [Store.run_touchDevice]
  show (((s.handler h reads).handler h stamps).handler h writes).db = _
  rw [handler_of found]
  cases lookup : s.db.devices.get deviceId.asStr with
  | none =>
      have read : s.reads h ⟨deviceId, .touching due ⟨started, .reading⟩⟩ =
          s.setPhase h ⟨deviceId, .touching due ⟨started, .reading⟩⟩ (.looping due) := by
        simp only [reads, SocketPhase.stage?, SocketPhase.touch?, Option.map_some, lookup,
          SocketPhase.touched]
      have waiting := setPhase_at found (.looping due)
      have stamped := handler_of waiting stamps
      have written := handler_of waiting writes
      simp only [stamps, writes, SocketPhase.stage?, SocketPhase.touch?, Option.map_none]
        at stamped written
      rw [read, stamped, written]
      rfl
  | some row =>
      have read : s.reads h ⟨deviceId, .touching due ⟨started, .reading⟩⟩ =
          s.setPhase h ⟨deviceId, .touching due ⟨started, .reading⟩⟩
            (.touching due ⟨started, .stamping row⟩) := by
        simp only [reads, SocketPhase.stage?, SocketPhase.touch?, Option.map_some, lookup,
          SocketPhase.withStage]
      have stamping := setPhase_at found (.touching due ⟨started, .stamping row⟩)
      rw [read, handler_of stamping]
      exact congrArg Presence.db (handler_of (setPhase_at stamping _) writes)

end Step

/-- What holds of the other sockets and of the changed one holds of all. -/
theorem sockets_setPhase {s : Presence} {h : Nat} {socket : Socket} {phase : SocketPhase}
    {P : Socket → Prop} (all : ∀ other ∈ s.sockets, P other)
    (changed : P { socket with phase := phase }) :
    ∀ other ∈ (s.setPhase h socket phase).sockets, P other := by
  intro other member
  rcases List.mem_or_eq_of_mem_set member with old | rfl
  · exact all other old
  · exact changed

/-! ## Where a time comes from -/

section Told

variable (Heard : DeviceId → Timestamp → Prop)

/-- The time in a row is one at which its device was heard. -/
def ToldRow (row : Device) : Prop := ∀ seen, row.lastSeenAt = some seen → Heard row.deviceId seen

/-- All rows have such times, and nobody puts another one. -/
def rowContract : Contract redb where
  holds db := ∀ row ∈ db.devices.rows, ToldRow Heard row
  allowed
    | .putDevice row => ToldRow Heard row
    | _ => True
  promised
    | .getDevice _ => fun (found : Option Device) => ∀ row, found = some row → ToldRow Heard row
    | .listDevices => fun (rows : List Device) => ∀ row ∈ rows, ToldRow Heard row
    | _ => fun _ => True
  answers
    | .getDevice _, _, holds => fun row found => holds row (KeyedTable.mem_of_get found)
    | .listDevices, _, holds => holds
    | .putDevice _, _, _ => trivial
    | .getPairing _, _, _ => trivial
    | .putPairing _, _, _ => trivial
  keeps
    | .putDevice row, db, holds, told => fun other member => by
        rcases KeyedTable.mem_insertRow member with rfl | old
        · exact told
        · exact holds other old
    | .getDevice _, _, holds, _ => holds
    | .listDevices, _, holds, _ => holds
    | .getPairing _, _, holds, _ => holds
    | .putPairing _, _, holds, _ => holds

variable {Heard}

theorem trustDevice_obeys (deviceId : DeviceId) :
    (Store.trustDevice deviceId).Obeys (rowContract Heard) := by
  refine ⟨trivial, fun found told => ?_⟩
  cases found with
  | none => exact trivial
  | some row => exact ⟨told row rfl, fun _ _ => trivial⟩

/-- None of the requests makes up a time. -/
theorem request_obeys (request : DeviceRequest) :
    request.program.Obeys (rowContract Heard) := by
  cases request with
  | registers ulid now name publicKey encryptionPublicKey =>
      exact ⟨trivial, fun rows told => ⟨fun seen made => (nomatch made), fun _ _ => trivial⟩⟩
  | trusts deviceId => exact (trustDevice_obeys deviceId).map fun _ => ()
  | renames deviceId name =>
      refine Prog.Obeys.map (p := Store.renameDevice deviceId name) ?_ fun _ => ()
      refine ⟨trivial, fun found told => ?_⟩
      cases found with
      | none => exact trivial
      | some row => exact ⟨told row rfl, fun _ _ => trivial⟩
  | startsPairing ulid now createdBy ttlSeconds => exact ⟨trivial, fun _ _ => trivial⟩
  | confirms now code deviceId =>
      refine Prog.Obeys.map (p := Store.confirmPairing now code deviceId) ?_ fun _ => ()
      refine ⟨trivial, fun found told => ?_⟩
      cases found with
      | none => exact trivial
      | some session =>
          show Prog.Obeys _ (if session.expiresAt < now then _ else _)
          split
          · exact trivial
          · exact ⟨trivial, fun _ _ => trustDevice_obeys deviceId⟩

/-- The rows, the records that calls have read, and what the requests still do. -/
structure Told (Heard : DeviceId → Timestamp → Prop) (s : Presence) : Prop where
  rows : (rowContract Heard).holds s.db
  reads : ∀ socket ∈ s.sockets, ∀ row, socket.phase.row? = some row →
    row.deviceId = socket.deviceId ∧ ToldRow Heard row
  requests : ∀ request ∈ s.requests, request.Obeys (rowContract Heard)

/-- Every device that has an open socket is heard now. -/
def Hearing (Heard : DeviceId → Timestamp → Prop) (s : Presence) : Prop :=
  ∀ socket ∈ s.sockets, socket.isOpen = true → Heard socket.deviceId s.now

variable {s : Presence}

theorem told_turn (told : Told Heard s) (hearing : Hearing Heard s) {socket : Socket}
    {phase : SocketPhase} (member : socket ∈ s.sockets) (turn : Turn s socket phase) :
    ∀ row, phase.row? = some row → row.deviceId = socket.deviceId ∧ ToldRow Heard row := by
  intro row held
  cases turn with
  | read stored reading found =>
      rw [SocketPhase.row?_withStage reading] at held
      cases held
      exact ⟨Db.deviceId_of_get found, told.rows row (KeyedTable.mem_of_get found)⟩
  | missing reading nothing =>
      rw [SocketPhase.row?_touched] at held
      cases held
  | stamped before stamping =>
      rw [SocketPhase.row?_withStage stamping] at held
      cases held
      have read : socket.phase.row? = some before := SocketPhase.row?_of_stage stamping
      obtain ⟨own, -⟩ := told.reads socket member before read
      refine ⟨own, fun seen now => ?_⟩
      cases now
      show Heard before.deviceId s.now
      rw [own]
      exact hearing socket member (decide_eq_true (SocketPhase.ne_done_of_calling stamping))
  | looped announcing => cases held
  | ticked due looping late => cases held
  | heard due looping => cases held
  | closed waiting => cases held

theorem told_step (s : Presence) (e : PresenceEvent) (told : Told Heard s)
    (hearing : Hearing Heard s) : Told Heard (s.step e) := by
  obtain ⟨rows, reads, requests⟩ := told
  have move := step_move s e
  generalize s.step e = next at move ⊢
  cases move with
  | idle => exact ⟨rows, reads, requests⟩
  | passed duration => exact ⟨rows, reads, requests⟩
  | connected deviceId =>
      refine ⟨rows, fun socket member => ?_, requests⟩
      rcases List.mem_append.mp member with old | new
      · exact reads socket old
      · cases List.mem_singleton.mp new
        exact fun row held => nomatch held
  | turned found turn closing =>
      have own := told_turn ⟨rows, reads, requests⟩ hearing (List.mem_of_getElem? found) turn
      exact ⟨rows, sockets_setPhase reads own, requests⟩
  | wrote found writing =>
      rename_i socket row
      have held : socket.phase.row? = some row := SocketPhase.row?_of_stage writing
      obtain ⟨-, told⟩ := reads socket (List.mem_of_getElem? found) row held
      refine ⟨(rowContract Heard).keeps (.putDevice row) s.db rows told,
        sockets_setPhase reads fun other none => ?_, requests⟩
      rw [SocketPhase.row?_touched] at none
      cases none
  | requested request =>
      refine ⟨rows, reads, fun other member => ?_⟩
      rcases List.mem_append.mp member with old | new
      · exact requests other old
      · cases List.mem_singleton.mp new
        exact request_obeys request
  | advanced found =>
      rename_i request
      obtain ⟨obeys, holds⟩ := (requests request (List.mem_of_getElem? found)).advance rows
      refine ⟨holds, reads, fun other member => ?_⟩
      rcases List.mem_or_eq_of_mem_set member with old | rfl
      · exact requests other old
      · exact obeys

/-- The time that the database has for a device. -/
def LastSeen (db : Db) (deviceId : DeviceId) (seen : Timestamp) : Prop :=
  ∃ row, db.devices.get deviceId.asStr = some row ∧ row.lastSeenAt = some seen

end Told

end Presence

end AirPaste.Server
