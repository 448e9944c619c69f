/-
# System.RelayedTransfer — a relay download over the server's relay

`download_via_relay` and `serve_relay_session`, as Agent.RelaySession has them, each on a
connection of its own to the relay of Server.RelayNet, next to any other connections and
sessions there.  What one party sends goes to the server's socket; what it reads is what the
server has delivered to it.  Either side may fail: a connection is refused or lost, a receive
or the idle wait times out, a send fails.

A party sees of the other one only what is delivered to it, so its turn is the step of
Agent.RelaySession on its own state and at most one delivered frame.  Control messages travel
as JSON, which is the parameter `ControlJson`.  A device connects once for a session: others
cannot sign in its name, and the agent does not connect again.
-/
import AirPaste.Agent.RelayDelivery
import AirPaste.Server.RelayLines

namespace AirPaste.System

open AirPaste.Agent
open AirPaste.Core
open AirPaste.Server
open AirPaste.Theory

set_option autoImplicit false

/-! ## Frames on the wire -/

/-- `serde_json` on the control messages of the relay. -/
structure ControlJson where
  toString : RelayControl → String
  fromStr : String → Except String RelayControl

namespace ControlJson

variable (json : ControlJson)

/-- What is written is read back. -/
def Faithful : Prop := ∀ control, json.fromStr (json.toString control) = .ok control

def read : Server.WsMessage → Message
  | .text text => .text (json.fromStr text)
  | .binary bytes => .binary bytes
  | .close => .close
  | .ping => .other
  | .pong => .other

/-- The message of a frame that a party sends; it sends control messages and chunks. -/
def written : Message → Option Server.WsMessage
  | .text (.ok control) => some (.text (json.toString control))
  | .binary bytes => some (.binary bytes)
  | _ => none

end ControlJson

/-! ## The relay at one connection -/

/-- What the server has delivered on a connection. -/
def deliveredOn (net : RelayNet) (c : Nat) : List Server.WsMessage :=
  match net.connections[c]? with
  | none => []
  | some connection => connection.delivered.map Prod.snd

/-- The frames that the client of a connection has sent. -/
def sentOn (net : RelayNet) (c : Nat) : List Server.WsMessage :=
  match net.connections[c]? with
  | none => []
  | some connection => payloadMessages connection.sent

/-- The client of a connection sends these messages. -/
def sendAll (net : RelayNet) (c : Nat) (messages : List Server.WsMessage) : RelayNet :=
  runFrom RelayNet.step net (messages.map fun message => .sends c (.message message))

/-! ## The transfer -/

deriving instance DecidableEq for SourcePhase, RecipientPhase

/-- The connection of a party, and how many of the messages delivered on it were read. -/
structure RelayLink where
  connection : Nat
  read : Nat
  deriving DecidableEq

structure Relayed (PathBuf : Type) where
  net : RelayNet
  session : Option SessionId
  source : SourcePhase PathBuf
  served : SourceBooks PathBuf
  sourceLink : Option RelayLink
  recipient : RecipientPhase
  got : RecipientBooks
  recipientLink : Option RelayLink

inductive RelayedEvent where
  /-- A step of the relay, of other clients, or of a party's socket beside its frames. -/
  | world (event : RelayEvent)
  | recipientCreates (ulid : String) (expiring created : Timestamp)
  | sourceConnects (now : Timestamp)
  | recipientConnects (now : Timestamp)
  | sourceTurn
  | recipientTurn
  | sourceFails
  | recipientFails (failure : Failure)

namespace Relayed

section Step

variable {Key PathBuf : Type} (e : RelayExchange Key PathBuf) (json : ControlJson)

/-- The next message that a party finds on its connection. -/
def next (t : Relayed PathBuf) (link : RelayLink) : List Message :=
  ((deliveredOn t.net link.connection)[link.read]?).toList.map json.read

def owns (t : Relayed PathBuf) (c : Nat) : Bool :=
  t.sourceLink.map RelayLink.connection = some c ||
    t.recipientLink.map RelayLink.connection = some c

/-- The step is nobody's who is a party: no frame is sent in a party's name, and no connection
to the session is opened in it. -/
def foreign (t : Relayed PathBuf) : RelayEvent → Bool
  | .sends c incoming => incoming.frames.isEmpty || !t.owns c
  | .upgrades _ device sessionId =>
      !(t.session = some sessionId &&
        (device = e.sourceDeviceId || device = e.requesterDeviceId))
  | _ => true

def world (t : Relayed PathBuf) (event : RelayEvent) : Relayed PathBuf :=
  if t.foreign e event then { t with net := t.net.step event } else t

/-- `create_relay_session`, with a ULID that is new. -/
def recipientCreates (t : Relayed PathBuf) (ulid : String) (expiring created : Timestamp) :
    Relayed PathBuf :=
  match t.session, t.recipient with
  | none, .requesting _ =>
      match t.net.relays.getRelaySession (SessionId.new ulid) with
      | some _ => t
      | none =>
          { t with
            net := t.net.creates ulid expiring created e.clipId e.sourceDeviceId
              e.requesterDeviceId none none
            session := some (SessionId.new ulid) }
  | _, _ => t

/-- `connect_relay` on the source, which is told of the session. -/
def sourceConnects (t : Relayed PathBuf) (now : Timestamp) : Relayed PathBuf :=
  match t.session, t.sourceLink, t.source with
  | some sessionId, none, .waiting =>
      match relayWsUpgrade t.net.relays now e.sourceDeviceId sessionId with
      | .error _ => { t with source := .stopped }
      | .ok _ =>
          { t with
            net := t.net.upgrades now e.sourceDeviceId sessionId
            sourceLink := some ⟨t.net.connections.length, 0⟩ }
  | _, _, _ => t

/-- `connect_relay` on the recipient, and the way to its loop. -/
def recipientConnects (t : Relayed PathBuf) (now : Timestamp) : Relayed PathBuf :=
  match t.session, t.recipientLink, t.recipient with
  | some sessionId, none, .requesting _ =>
      match relayWsUpgrade t.net.relays now e.requesterDeviceId sessionId with
      | .error _ =>
          { t with
            recipient :=
              .ended (.error (.text "failed to connect relay websocket as recipient")) }
      | .ok _ =>
          let (entered, receiving) := e.prepareDownload t.got.receiving
          { t with
            net := t.net.upgrades now e.requesterDeviceId sessionId
            recipientLink := some ⟨t.net.connections.length, 0⟩
            recipient :=
              match entered with
              | .error outcome => .ended outcome
              | .ok missing => .requesting missing
            got := ⟨receiving, []⟩ }
  | _, _, _ => t

/-- The source on its own: of the recipient it sees what is delivered. -/
def sourceView (t : Relayed PathBuf) (inbox : List Message) : Relay PathBuf :=
  ⟨t.source, t.served, .requesting [], t.got, inbox, []⟩

/-- The recipient on its own: of the source it sees what is delivered. -/
def recipientView (t : Relayed PathBuf) (inbox : List Message) : Relay PathBuf :=
  ⟨.waiting, t.served, t.recipient, t.got, [], inbox⟩

def sourceTurn (t : Relayed PathBuf) : Relayed PathBuf :=
  match t.sourceLink with
  | none => t
  | some link =>
      let inbox := t.next json link
      let turned := e.sourceStep (t.sourceView inbox)
      { t with
        net := sendAll t.net link.connection (turned.toRecipient.filterMap json.written)
        source := turned.source
        served := turned.served
        sourceLink := some ⟨link.connection, link.read + (inbox.length - turned.toSource.length)⟩ }

def recipientTurn (t : Relayed PathBuf) : Relayed PathBuf :=
  match t.recipientLink with
  | none => t
  | some link =>
      let inbox := t.next json link
      let turned := e.recipientStep (t.recipientView inbox)
      { t with
        net := sendAll t.net link.connection (turned.toSource.filterMap json.written)
        recipient := turned.recipient
        got := turned.got
        recipientLink :=
          some ⟨link.connection, link.read + (inbox.length - turned.toRecipient.length)⟩ }

/-- The idle wait is over, the connection is lost, or a send fails. -/
def sourceFails (t : Relayed PathBuf) : Relayed PathBuf :=
  match t.source with
  | .waiting => { t with source := .stopped }
  | .sending token index (_ :: _) =>
      { t with
        source := .stopped
        served := { t.served with registry := t.served.registry.release token index } }
  | .refusing _ => { t with source := .stopped }
  -- nothing is received or sent here
  | _ => t

/-- The session is not created, the connection is lost, a receive times out or a send fails. -/
def recipientFails (t : Relayed PathBuf) (failure : Failure) : Relayed PathBuf :=
  match t.recipient with
  | .requesting (_ :: _) => { t with recipient := .ended (.error failure) }
  | .awaitingHeader _ _ _ => { t with recipient := .ended (.error failure) }
  | .awaitingBody _ _ _ _ _ _ => { t with recipient := .ended (.error failure) }
  | _ => t

def step (t : Relayed PathBuf) : RelayedEvent → Relayed PathBuf
  | .world event => t.world e event
  | .recipientCreates ulid expiring created => t.recipientCreates e ulid expiring created
  | .sourceConnects now => t.sourceConnects e now
  | .recipientConnects now => t.recipientConnects e now
  | .sourceTurn => t.sourceTurn e json
  | .recipientTurn => t.recipientTurn e json
  | .sourceFails => t.sourceFails
  | .recipientFails failure => t.recipientFails failure

/-- A transfer about to begin, at a relay that has been running. -/
def start (net : RelayNet) (registry : PeerFileRegistry PathBuf) (receiving : Receiving) :
    Relayed PathBuf where
  net := net
  session := none
  source := .waiting
  served := ⟨registry, 0, [], []⟩
  sourceLink := none
  recipient :=
    match missingFiles e.fileClip receiving.downloaded with
    | [] => .ended (.ok ())
    | missing => .requesting missing
  got := ⟨receiving, []⟩
  recipientLink := none

/-- The transfer after these events, begun at a relay where those took place. -/
def after (earlier : List RelayEvent) (registry : PeerFileRegistry PathBuf)
    (receiving : Receiving) (events : List RelayedEvent) : Relayed PathBuf :=
  runFrom (step e json) (start e (runFrom RelayNet.step .new earlier) registry receiving) events

end Step

end Relayed

end AirPaste.System
