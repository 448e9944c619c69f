/-
# Server.RelayHub — relay sessions, rooms and who may join them

A relay session is a row of the `RELAYS` table.  `relay_ws_upgrade` looks it up and admits
its source and its recipient device, each in its own role.  The handler of an admitted
connection joins the session's room in the hub, which creates it at the first join with one
channel in each direction and gives each role's receiver away once; a handler that ends
removes the session's room.

A room is told apart from later rooms of the same session by the number it was created
with, and its two channels by the role that receives from them.
-/
import AirPaste.Server.Routes
import AirPaste.Theory.Channel
import AirPaste.Theory.Text

namespace AirPaste.Server

open AirPaste.Core
open AirPaste.Theory

set_option autoImplicit false

/-! ## Sessions -/

/-- The `RELAYS` table. -/
abbrev RelayTable := KeyedTable fun relay : RelaySession => relay.sessionId.asStr

namespace RelayTable

/-- A session for a drawn ULID; the clock is read for the expiry first. -/
def createRelaySession (ulid : String) (expiring created : Timestamp) (clipId : ClipId)
    (sourceDeviceId recipientDeviceId : DeviceId) (maxBytes : Option Nat)
    (ttlSeconds : Option Int) (relays : RelayTable) : RelaySession × RelayTable :=
  let ttl := max 60 (min 3600 (ttlSeconds.getD 1800))
  let relay : RelaySession :=
    { sessionId := SessionId.new ulid
      clipId := clipId
      sourceDeviceId := sourceDeviceId
      recipientDeviceId := recipientDeviceId
      maxBytes := maxBytes.getD (2 * 1024 * 1024 * 1024)
      expiresAt := expiring + seconds ttl
      createdAt := created }
  (relay, relays.put relay)

def getRelaySession (sessionId : SessionId) (relays : RelayTable) : Option RelaySession :=
  relays.get sessionId.asStr

end RelayTable

/-! ## Admission -/

inductive RelayRole where
  | source
  | recipient
  deriving DecidableEq

namespace RelayRole

def opposite : RelayRole → RelayRole
  | .source => .recipient
  | .recipient => .source

@[simp] theorem opposite_opposite (role : RelayRole) : role.opposite.opposite = role := by
  cases role <;> rfl

end RelayRole

/-- The device of a session that has the role. -/
def party (relay : RelaySession) : RelayRole → DeviceId
  | .source => relay.sourceDeviceId
  | .recipient => relay.recipientDeviceId

/-- What an admitted connection is driven with. -/
structure Admission where
  sessionId : SessionId
  role : RelayRole
  maxBytes : Nat
  /-- The lifetime of the connection in seconds. -/
  ttl : Nat
  deriving DecidableEq

/-- `GET /v1/relay/sessions/{session_id}`, up to the upgrade of the connection. -/
def relayWsUpgrade (relays : RelayTable) (now : Timestamp) (requestDevice : DeviceId)
    (sessionId : SessionId) : ApiResult Admission :=
  match relays.getRelaySession sessionId with
  | none => .error (.notFound "relay session not found")
  | some session =>
      if session.expiresAt ≤ now then .error ⟨410, "relay session expired"⟩
      else
        let ttl := (max 0 ((session.expiresAt - now) / seconds 1)).toNat
        if requestDevice = session.sourceDeviceId then
          .ok ⟨sessionId, .source, session.maxBytes, ttl⟩
        else if requestDevice = session.recipientDeviceId then
          .ok ⟨sessionId, .recipient, session.maxBytes, ttl⟩
        else .error (.forbidden "device is not a party to this relay session")

/-- An admitted connection is one of the session's own device, in that device's role. -/
theorem relayWsUpgrade_ok {relays : RelayTable} {now : Timestamp} {requestDevice : DeviceId}
    {sessionId : SessionId} {admission : Admission}
    (admitted : relayWsUpgrade relays now requestDevice sessionId = .ok admission) :
    admission.sessionId = sessionId ∧ ∃ relay, relays.getRelaySession sessionId = some relay ∧
      now < relay.expiresAt ∧ requestDevice = party relay admission.role ∧
      admission.maxBytes = relay.maxBytes := by
  unfold relayWsUpgrade at admitted
  split at admitted
  · cases admitted
  next relay stored =>
      split at admitted
      · cases admitted
      next live =>
          have unexpired : now < relay.expiresAt := Int.not_le.mp live
          split at admitted
          next own =>
              cases admitted
              exact ⟨rfl, relay, stored, unexpired, own, rfl⟩
          · split at admitted
            next own =>
                cases admitted
                exact ⟨rfl, relay, stored, unexpired, own, rfl⟩
            · cases admitted

/-! ## Rooms -/

def relayQueueCapacity : Nat := 64

inductive RelayFrame where
  | text (text : String)
  | binary (bytes : List UInt8)
  deriving DecidableEq

/-- The payload bytes of a frame. -/
def RelayFrame.len : RelayFrame → Nat
  | .text content => Text.byteLen content.toList
  | .binary bytes => bytes.length

/-- A channel of a room, by the role that receives from it. -/
structure ChannelId where
  room : Nat
  receiver : RelayRole
  deriving DecidableEq

structure RelayEnds where
  outboundRx : ChannelId
  peerTx : ChannelId
  deriving DecidableEq

/-- The ends of a room's channels that belong to a role. -/
def endsOf (room : Nat) (role : RelayRole) : RelayEnds := ⟨⟨room, role⟩, ⟨room, role.opposite⟩⟩

theorem endsOf_room {room room' : Nat} {role role' : RelayRole}
    (same : endsOf room role = endsOf room' role') : room = room' :=
  congrArg (fun ends : RelayEnds => ends.outboundRx.room) same

/-- A room holds the senders of both channels, and each receiver until it is taken. -/
structure RelayRoom where
  room : Nat
  sourceRx : Bool
  recipientRx : Bool
  deriving DecidableEq

namespace RelayRoom

def new (room : Nat) : RelayRoom := ⟨room, true, true⟩

/-- The role's receiver is still there. -/
def rx (room : RelayRoom) : RelayRole → Bool
  | .source => room.sourceRx
  | .recipient => room.recipientRx

def takeRx (room : RelayRoom) : RelayRole → RelayRoom
  | .source => { room with sourceRx := false }
  | .recipient => { room with recipientRx := false }

@[simp] theorem takeRx_room (room : RelayRoom) (role : RelayRole) :
    (room.takeRx role).room = room.room := by cases role <;> rfl

@[simp] theorem takeRx_self (room : RelayRoom) (role : RelayRole) :
    (room.takeRx role).rx role = false := by cases role <;> rfl

theorem takeRx_rx {room : RelayRoom} {role other : RelayRole} (taken : room.rx other = false) :
    (room.takeRx role).rx other = false := by
  cases role <;> cases other <;> simp_all [takeRx, rx]

theorem rx_of_takeRx {room : RelayRoom} {role other : RelayRole} (ne : role ≠ other)
    (taken : (room.takeRx role).rx other = false) : room.rx other = false := by
  cases role <;> cases other <;> simp_all [takeRx, rx]

@[simp] theorem new_rx (room : Nat) (role : RelayRole) : (new room).rx role = true := by
  cases role <;> rfl

end RelayRoom

structure RelayHub where
  rooms : SessionId → Option RelayRoom
  nextRoom : Nat

namespace RelayHub

def new : RelayHub := ⟨fun _ => none, 0⟩

/-- The room of a session, created if there is none. -/
def roomOf (hub : RelayHub) (sessionId : SessionId) : RelayRoom :=
  (hub.rooms sessionId).getD (.new hub.nextRoom)

def insert (hub : RelayHub) (sessionId : SessionId) (room : RelayRoom) : RelayHub where
  rooms other := if other = sessionId then some room else hub.rooms other
  nextRoom := if (hub.rooms sessionId).isSome then hub.nextRoom else hub.nextRoom + 1

/-- Join a session; `none` when the role's receiver is gone from the session's room. -/
def join (hub : RelayHub) (sessionId : SessionId) (role : RelayRole) :
    Option RelayEnds × RelayHub :=
  let room := hub.roomOf sessionId
  if room.rx role then
    (some (endsOf room.room role), hub.insert sessionId (room.takeRx role))
  else (none, hub.insert sessionId room)

/-- Remove the room of a session. -/
def leave (hub : RelayHub) (sessionId : SessionId) : RelayHub :=
  { hub with rooms := fun other => if other = sessionId then none else hub.rooms other }

variable {hub : RelayHub} {sessionId other : SessionId}

@[simp] theorem insert_self (room : RelayRoom) :
    (hub.insert sessionId room).rooms sessionId = some room := if_pos rfl

theorem insert_other {room : RelayRoom} (ne : other ≠ sessionId) :
    (hub.insert sessionId room).rooms other = hub.rooms other := if_neg ne

@[simp] theorem leave_self : (hub.leave sessionId).rooms sessionId = none := if_pos rfl

theorem leave_other (ne : other ≠ sessionId) :
    (hub.leave sessionId).rooms other = hub.rooms other := if_neg ne

/-- Inserting the room that is there changes nothing. -/
theorem insert_roomOf (there : hub.rooms sessionId ≠ none) :
    hub.insert sessionId (hub.roomOf sessionId) = hub := by
  obtain ⟨room, found⟩ := Option.ne_none_iff_exists'.mp there
  have rooms : (hub.insert sessionId (hub.roomOf sessionId)).rooms = hub.rooms := by
    funext other
    by_cases same : other = sessionId
    · subst same
      rw [insert_self, roomOf, found, Option.getD_some]
    · exact insert_other same
  have next : (hub.insert sessionId (hub.roomOf sessionId)).nextRoom = hub.nextRoom := by
    simp only [insert, found, Option.isSome_some, if_true]
  cases hub
  simp only [insert] at rooms next ⊢
  rw [rooms, next]

theorem nextRoom_le_insert (room : RelayRoom) :
    hub.nextRoom ≤ (hub.insert sessionId room).nextRoom := by
  unfold insert
  show hub.nextRoom ≤ if _ then _ else _
  split
  · exact Nat.le_refl _
  · exact Nat.le_succ _

theorem roomOf_lt
    (known : ∀ sessionId room, hub.rooms sessionId = some room → room.room < hub.nextRoom)
    (room : RelayRoom) :
    (hub.roomOf sessionId).room < (hub.insert sessionId room).nextRoom := by
  cases found : hub.rooms sessionId with
  | none => simp [roomOf, insert, found, RelayRoom.new]
  | some there =>
      simp only [roomOf, insert, found, Option.getD_some, Option.isSome_some,
        if_true]
      exact known sessionId there found

end RelayHub

end AirPaste.Server
