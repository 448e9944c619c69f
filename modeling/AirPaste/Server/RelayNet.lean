/-
# Server.RelayNet — the relay connections at work

`relay_ws_handler` joins its session's room and then runs three parties: a reader that
counts the payload bytes of its socket and hands the frames to the peer's channel, a writer
that sends the frames of its own channel to the socket, and a `select!` that waits for
either of them or for the session's deadline, aborts both and leaves the room.

`RelayEvent` are the steps of any number of connections, of their clients and of the
creation of sessions; each takes one lock, one item of a queue or one item of a socket.  An
abort takes effect at some later step, and a task drops its end of its channel when it ends.
The logs of a connection, and the number of the sender beside each frame, are read by no
step.
-/
import Mathlib.Algebra.Order.Group.Nat
import AirPaste.Server.RelayHub

namespace AirPaste.Server

open AirPaste.Core
open AirPaste.Theory

set_option autoImplicit false

inductive WsMessage where
  | text (text : String)
  | binary (bytes : List UInt8)
  | ping
  | pong
  | close
  deriving DecidableEq

namespace WsMessage

/-- The frame of a message that is relayed. -/
def frame : WsMessage → Option RelayFrame
  | .text content => some (.text content)
  | .binary bytes => some (.binary bytes)
  | _ => none

end WsMessage

def RelayFrame.message : RelayFrame → WsMessage
  | .text content => .text content
  | .binary bytes => .binary bytes

/-- The frames among the messages. -/
def payload (messages : List WsMessage) : List RelayFrame := messages.filterMap WsMessage.frame

/-- What a socket yields: a message, or that it has failed or ended. -/
inductive Incoming where
  | message (content : WsMessage)
  | failed
  deriving DecidableEq

def Incoming.toMessage : Incoming → Option WsMessage
  | .message content => some content
  | .failed => none

inductive Reader where
  | reading
  /-- Waits for room in the peer's channel. -/
  | sending (frame : RelayFrame)
  | ended
  deriving DecidableEq

inductive Writer where
  | receiving
  | sending (frame : Nat × RelayFrame)
  | ended
  deriving DecidableEq

/-- The frame in the reader's hand. -/
def Reader.hand : Reader → List RelayFrame
  | .sending frame => [frame]
  | _ => []

/-- The frame in the writer's hand. -/
def Writer.hand : Writer → List (Nat × RelayFrame)
  | .sending frame => [frame]
  | _ => []

@[simp] theorem Reader.hand_sending (frame : RelayFrame) : (sending frame).hand = [frame] := rfl
@[simp] theorem Reader.hand_reading : reading.hand = [] := rfl
@[simp] theorem Reader.hand_ended : ended.hand = [] := rfl

@[simp] theorem Writer.hand_sending (item : Nat × RelayFrame) : (sending item).hand = [item] := rfl
@[simp] theorem Writer.hand_receiving : receiving.hand = [] := rfl
@[simp] theorem Writer.hand_ended : ended.hand = [] := rfl

inductive RelayStage where
  | selecting
  | leaving
  | left
  deriving DecidableEq

/-- A handler that has joined its room. -/
structure Pump where
  ends : RelayEnds
  stage : RelayStage
  reader : Reader
  writer : Writer
  /-- The payload bytes the reader has counted. -/
  forwarded : Nat
  /-- The frames the reader has taken from the socket, and those it has handed on. -/
  received : List RelayFrame
  handed : List RelayFrame
  /-- What the writer has sent to the socket, with the number of the sender. -/
  delivered : List (Nat × WsMessage)
  deriving DecidableEq

namespace Pump

def new (ends : RelayEnds) : Pump := ⟨ends, .selecting, .reading, .receiving, 0, [], [], []⟩

/-- The reader counts a frame and hands it on while the budget lasts. -/
def counts (maxBytes : Nat) (pump : Pump) (frame : RelayFrame) : Pump :=
  let forwarded := pump.forwarded + frame.len
  if maxBytes < forwarded then
    { pump with
      reader := .ended
      forwarded := forwarded
      received := pump.received ++ [frame] }
  else
    { pump with
      reader := .sending frame
      forwarded := forwarded
      received := pump.received ++ [frame]
      handed := pump.handed ++ [frame] }

/-- One turn of the reader's loop, up to the send. -/
def takes (maxBytes : Nat) (pump : Pump) : Incoming → Pump
  | .message (.text content) => pump.counts maxBytes (.text content)
  | .message (.binary bytes) => pump.counts maxBytes (.binary bytes)
  | .message .close => { pump with reader := .ended }
  | .message _ => pump
  | .failed => { pump with reader := .ended }

end Pump

inductive RelayHandler where
  | upgraded
  /-- The role was already connected. -/
  | refused
  | joined (pump : Pump)
  deriving DecidableEq

structure Connection where
  device : DeviceId
  admission : Admission
  handler : RelayHandler
  /-- What the socket yields and the reader has not taken yet. -/
  stream : List Incoming
  /-- What the client has sent. -/
  sent : List WsMessage
  deriving DecidableEq

namespace Connection

def new (device : DeviceId) (admission : Admission) : Connection :=
  ⟨device, admission, .upgraded, [], []⟩

def sessionId (connection : Connection) : SessionId := connection.admission.sessionId
def role (connection : Connection) : RelayRole := connection.admission.role
def maxBytes (connection : Connection) : Nat := connection.admission.maxBytes

/-- Frames that the socket has not yielded yet. -/
def waiting (connection : Connection) : List RelayFrame :=
  payload (connection.stream.filterMap Incoming.toMessage)

/-- What has been delivered to the client. -/
def delivered (connection : Connection) : List (Nat × WsMessage) :=
  match connection.handler with
  | .joined pump => pump.delivered
  | _ => []

end Connection

structure RelayNet where
  relays : RelayTable
  hub : RelayHub
  channels : ChannelId → Channel (Nat × RelayFrame) relayQueueCapacity
  connections : List Connection

inductive RelayEvent where
  | creates (ulid : String) (expiring created : Timestamp) (clipId : ClipId)
      (sourceDeviceId recipientDeviceId : DeviceId) (maxBytes : Option Nat)
      (ttlSeconds : Option Int)
  | upgrades (now : Timestamp) (requestDevice : DeviceId) (sessionId : SessionId)
  | joins (c : Nat)
  /-- The client's side of the socket. -/
  | sends (c : Nat) (incoming : Incoming)
  | reads (c : Nat)
  | forwards (c : Nat)
  | receives (c : Nat)
  | delivers (c : Nat) (ok : Bool)
  | selects (c : Nat) (ttl : Bool)
  | abortsReader (c : Nat)
  | abortsWriter (c : Nat)
  | leaves (c : Nat)

namespace RelayNet

def new : RelayNet := ⟨.empty, .new, fun _ => .empty, []⟩

def setConnection (s : RelayNet) (c : Nat) (connection : Connection) : RelayNet :=
  { s with connections := s.connections.set c connection }

def setPump (s : RelayNet) (c : Nat) (connection : Connection) (pump : Pump) : RelayNet :=
  s.setConnection c { connection with handler := .joined pump }

def setChannel (s : RelayNet) (id : ChannelId)
    (channel : Channel (Nat × RelayFrame) relayQueueCapacity) : RelayNet :=
  { s with channels := fun other => if other = id then channel else s.channels other }

/-- Whether a pump satisfies the test. -/
def anyPump (s : RelayNet) (test : Pump → Bool) : Bool :=
  s.connections.any fun connection =>
    match connection.handler with
    | .joined pump => test pump
    | _ => false

/-- A receiver lives in the session's room until it is taken, and then in the writer. -/
def receiverAlive (s : RelayNet) (sessionId : SessionId) (id : ChannelId) : Bool :=
  ((s.hub.rooms sessionId).any fun room => room.room = id.room && room.rx id.receiver) ||
    s.anyPump fun pump => pump.ends.outboundRx = id && decide (pump.writer ≠ .ended)

/-- A channel has a sender in the session's room, and one in each reader that feeds it. -/
def senderAlive (s : RelayNet) (sessionId : SessionId) (id : ChannelId) : Bool :=
  ((s.hub.rooms sessionId).any fun room => room.room = id.room) ||
    s.anyPump fun pump => pump.ends.peerTx = id && decide (pump.reader ≠ .ended)

/-- A step of a handler that has joined its room. -/
def withPump (s : RelayNet) (c : Nat) (act : Connection → Pump → RelayNet) : RelayNet :=
  match s.connections[c]? with
  | none => s
  | some connection =>
      match connection.handler with
      | .joined pump => act connection pump
      | _ => s

/-- A ULID that is drawn is new. -/
def creates (s : RelayNet) (ulid : String) (expiring created : Timestamp) (clipId : ClipId)
    (sourceDeviceId recipientDeviceId : DeviceId) (maxBytes : Option Nat)
    (ttlSeconds : Option Int) : RelayNet :=
  match s.relays.getRelaySession (SessionId.new ulid) with
  | some _ => s
  | none =>
      { s with
        relays := (s.relays.createRelaySession ulid expiring created clipId sourceDeviceId
          recipientDeviceId maxBytes ttlSeconds).2 }

def upgrades (s : RelayNet) (now : Timestamp) (requestDevice : DeviceId)
    (sessionId : SessionId) : RelayNet :=
  match relayWsUpgrade s.relays now requestDevice sessionId with
  | .error _ => s
  | .ok admission =>
      { s with connections := s.connections ++ [.new requestDevice admission] }

def joins (s : RelayNet) (c : Nat) : RelayNet :=
  match s.connections[c]? with
  | none => s
  | some connection =>
      match connection.handler with
      | .upgraded =>
          let (ends, hub) := s.hub.join connection.sessionId connection.role
          match ends with
          | some ends => { s with hub := hub }.setPump c connection (.new ends)
          | none => { s with hub := hub }.setConnection c { connection with handler := .refused }
      | _ => s

def sends (s : RelayNet) (c : Nat) (incoming : Incoming) : RelayNet :=
  match s.connections[c]? with
  | none => s
  | some connection =>
      s.setConnection c { connection with
        stream := connection.stream ++ [incoming]
        sent := connection.sent ++ incoming.toMessage.toList }

def reads (s : RelayNet) (c : Nat) : RelayNet :=
  s.withPump c fun connection pump =>
    match pump.reader, connection.stream with
    | .reading, incoming :: rest =>
        s.setPump c { connection with stream := rest } (pump.takes connection.maxBytes incoming)
    | _, _ => s

/-- `peer_tx.send`: fails when the receiver is gone, waits while the channel is full. -/
def forwards (s : RelayNet) (c : Nat) : RelayNet :=
  s.withPump c fun connection pump =>
    match pump.reader with
    | .sending frame =>
        if s.receiverAlive connection.sessionId pump.ends.peerTx then
          match (s.channels pump.ends.peerTx).push (c, frame) with
          | none => s
          | some channel =>
              (s.setChannel pump.ends.peerTx channel).setPump c connection
                { pump with reader := .reading }
        else s.setPump c connection { pump with reader := .ended }
    | _ => s

/-- `outbound_rx.recv`: ends when all senders are gone, waits while the channel is empty. -/
def receives (s : RelayNet) (c : Nat) : RelayNet :=
  s.withPump c fun connection pump =>
    match pump.writer with
    | .receiving =>
        match (s.channels pump.ends.outboundRx).pop with
        | some (frame, channel) =>
            (s.setChannel pump.ends.outboundRx channel).setPump c connection
              { pump with writer := .sending frame }
        | none =>
            if s.senderAlive connection.sessionId pump.ends.outboundRx then s
            else s.setPump c connection { pump with writer := .ended }
    | _ => s

/-- `sink.send`. -/
def delivers (s : RelayNet) (c : Nat) (ok : Bool) : RelayNet :=
  s.withPump c fun connection pump =>
    match pump.writer with
    | .sending frame =>
        if ok then
          s.setPump c connection { pump with
            writer := .receiving
            delivered := pump.delivered ++ [(frame.1, frame.2.message)] }
        else s.setPump c connection { pump with writer := .ended }
    | _ => s

/-- The `select!` returns when a task has ended or the deadline is reached. -/
def selects (s : RelayNet) (c : Nat) (ttl : Bool) : RelayNet :=
  s.withPump c fun connection pump =>
    if pump.stage = .selecting ∧ (pump.reader = .ended ∨ pump.writer = .ended ∨ ttl = true) then
      s.setPump c connection { pump with stage := .leaving }
    else s

def abortsReader (s : RelayNet) (c : Nat) : RelayNet :=
  s.withPump c fun connection pump =>
    if pump.stage = .selecting then s
    else s.setPump c connection { pump with reader := .ended }

def abortsWriter (s : RelayNet) (c : Nat) : RelayNet :=
  s.withPump c fun connection pump =>
    if pump.stage = .selecting then s
    else s.setPump c connection { pump with writer := .ended }

def leaves (s : RelayNet) (c : Nat) : RelayNet :=
  s.withPump c fun connection pump =>
    if pump.stage = .leaving then
      { s with hub := s.hub.leave connection.sessionId }.setPump c connection
        { pump with stage := .left }
    else s

def step (s : RelayNet) : RelayEvent → RelayNet
  | .creates ulid expiring created clipId source recipient maxBytes ttlSeconds =>
      s.creates ulid expiring created clipId source recipient maxBytes ttlSeconds
  | .upgrades now requestDevice sessionId => s.upgrades now requestDevice sessionId
  | .joins c => s.joins c
  | .sends c incoming => s.sends c incoming
  | .reads c => s.reads c
  | .forwards c => s.forwards c
  | .receives c => s.receives c
  | .delivers c ok => s.delivers c ok
  | .selects c ttl => s.selects c ttl
  | .abortsReader c => s.abortsReader c
  | .abortsWriter c => s.abortsWriter c
  | .leaves c => s.leaves c

end RelayNet

end AirPaste.Server
