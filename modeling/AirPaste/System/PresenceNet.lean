/-
# System.PresenceNet — who is shown as online

The server of Server.Presence, and an agent that asks it for the list of devices every now and
then.  The server answers with the rows it has at that moment; when the answer is in, the agent
takes the age of every `last_seen_at` by its own clock, which may be off by `skew`, and shows
the devices that were seen within the last 90 seconds as online.

`shown_online`: a device that is shown as online was connected to the server within that time,
or was in its database from before.  `connected_shown`: a device that is connected is shown as
online, as long as the server, the answers and the clocks are not too far behind together.
-/
import Mathlib.Data.List.Induction
import AirPaste.Server.Recency

namespace AirPaste.Agent

open AirPaste.Core

set_option autoImplicit false

/-- A row of the list of devices. -/
structure DeviceInfo where
  deviceId : String
  name : String
  trusted : Bool
  online : Bool
  isSelf : Bool
  lastSeenSecs : Option Int
  deriving DecidableEq

/-- `PRESENCE_WINDOW_SECS`. -/
def presenceWindowSecs : Int := 90

/-- `TimeDelta::num_seconds`: whole seconds, rounded towards zero. -/
def numSeconds (duration : Int) : Int := duration.tdiv 1000000000

def deviceInfo (selfDeviceId : DeviceId) (now : Timestamp) (device : Device) : DeviceInfo :=
  let lastSeenSecs := device.lastSeenAt.map fun seen => numSeconds (now - seen)
  { deviceId := device.deviceId.asStr
    name := device.name
    trusted := device.trusted
    online := lastSeenSecs.any fun secs => decide (secs < presenceWindowSecs)
    isSelf := decide (device.deviceId = selfDeviceId)
    lastSeenSecs := lastSeenSecs }

end AirPaste.Agent

namespace AirPaste.System

open AirPaste.Agent
open AirPaste.Core
open AirPaste.Server
open AirPaste.Theory

set_option autoImplicit false

/-- A refresh of the list. -/
inductive Refresh where
  | idle
  | asking
  /-- The rows of the answer, and when the server made it; nothing reads that time. -/
  | answered (rows : List Device) (made : Timestamp)

structure PresenceNet where
  server : Presence
  refresh : Refresh
  devices : List DeviceInfo

inductive PresenceNetEvent where
  | server (event : PresenceEvent)
  /-- A tick of the agent's interval, while it is connected. -/
  | asks
  /-- The server performs the request. -/
  | lists
  /-- The request is refused, or it or its answer is lost. -/
  | fails
  /-- The answer is in. -/
  | shows

namespace PresenceNet

section Step

variable (selfDeviceId : DeviceId) (skew : Int)

def lists (net : PresenceNet) : PresenceNet :=
  match net.refresh with
  | .asking => { net with refresh := .answered net.server.db.devices.rows net.server.now }
  | _ => net

def shows (net : PresenceNet) : PresenceNet :=
  match net.refresh with
  | .answered rows _ =>
      { net with
        refresh := .idle
        devices := rows.map (deviceInfo selfDeviceId (net.server.now + skew)) }
  | _ => net

def step (net : PresenceNet) : PresenceNetEvent → PresenceNet
  | .server event => { net with server := net.server.step event }
  | .asks =>
      match net.refresh with
      | .idle => { net with refresh := .asking }
      | _ => net
  | .lists => net.lists
  | .fails => { net with refresh := .idle }
  | .shows => net.shows selfDeviceId skew

def after (net : PresenceNet) (events : List PresenceNetEvent) : PresenceNet :=
  runFrom (step selfDeviceId skew) net events

end Step

def start (now : Timestamp) (db : Db) : PresenceNet := ⟨Presence.start now db, .idle, []⟩

/-! ## The server in the net -/

section Runs

variable {selfDeviceId : DeviceId} {skew : Int}

/-- The server made an answer in the course of a run. -/
def Listed (selfDeviceId : DeviceId) (skew : Int) (net : PresenceNet)
    (events : List PresenceNetEvent) (rows : List Device) (made : Timestamp) : Prop :=
  ∃ first rest, events = first ++ rest ∧
    rows = (net.after selfDeviceId skew first).server.db.devices.rows ∧
    made = (net.after selfDeviceId skew first).server.now

/-- A list was shown in the course of a run. -/
def Shown (selfDeviceId : DeviceId) (skew : Int) (net : PresenceNet)
    (events : List PresenceNetEvent) (devices : List DeviceInfo) : Prop :=
  ∃ first rest rows made, events = first ++ .shows :: rest ∧
    Listed selfDeviceId skew net first rows made ∧
    (net.after selfDeviceId skew first).refresh = .answered rows made ∧
    devices = rows.map
      (deviceInfo selfDeviceId ((net.after selfDeviceId skew first).server.now + skew))

end Runs

/-! ## A tablet in the list -/

namespace OneTablet

def tablet : Device :=
  { deviceId := ⟨"dev_tablet"⟩, name := "Tablet", publicKey := "", encryptionPublicKey := ""
    trusted := true, createdAt := 0, lastSeenAt := none }

def db : Db := { devices := KeyedTable.empty.put tablet, pairings := .empty }

/-- The tablet says hello and its handler reaches the first tick of its loop. -/
def connects : List PresenceNetEvent :=
  [.server (.connects ⟨"dev_tablet"⟩), .server (.reads 0), .server (.stamps 0),
    .server (.writes 0), .server (.loops 0), .server (.ticks 0), .server (.reads 0),
    .server (.stamps 0)]

/-- Twenty seconds later the laptop refreshes its list. -/
def refreshes : List PresenceNetEvent :=
  [.server (.passes 20000000000), .asks, .lists, .server (.passes 1000000000), .shows]

def run : List PresenceNetEvent := connects ++ .server (.writes 0) :: refreshes

def connected : PresenceNet := (start 0 db).after ⟨"dev_laptop"⟩ (seconds 2) connects

def called : Socket :=
  ⟨⟨"dev_tablet"⟩, .touching (seconds 30) ⟨0, .writing { tablet with lastSeenAt := some 0 }⟩⟩

end OneTablet

end PresenceNet

end AirPaste.System
