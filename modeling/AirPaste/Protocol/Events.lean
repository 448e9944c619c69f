/-
# Protocol.Events — the events on a control connection

What an agent says to the server over its websocket, and what the server tells the agents.
The payload of a transfer message is JSON that the server passes on; it stands as text.
-/
import AirPaste.Core.Ids

namespace AirPaste.Protocol

open AirPaste.Core

set_option autoImplicit false

inductive ClientEvent where
  | hello (deviceId : DeviceId)
  | heartbeat
  | transferOffer (toDeviceId : DeviceId) (payload : String)
  | transferAnswer (toDeviceId : DeviceId) (payload : String)
  | transferCandidate (toDeviceId : DeviceId) (payload : String)
  | transferCancelled (toDeviceId : DeviceId) (sessionId : Option SessionId)
      (reason : Option String)
  deriving DecidableEq

inductive ServerEvent where
  | helloAck (deviceId : DeviceId)
  | deviceOnline (deviceId : DeviceId)
  | deviceOffline (deviceId : DeviceId)
  | clipCreated (clipId : ClipId) (sourceDeviceId : DeviceId) (kind : String)
  | transferOffer (fromDeviceId : DeviceId) (payload : String)
  | transferAnswer (fromDeviceId : DeviceId) (payload : String)
  | transferCandidate (fromDeviceId : DeviceId) (payload : String)
  | transferCancelled (fromDeviceId : DeviceId) (sessionId : Option SessionId)
      (reason : Option String)
  | transferRelayReady (sessionId : SessionId) (clipId : ClipId)
      (sourceDeviceId recipientDeviceId : DeviceId)
  | error (message : String)
  deriving DecidableEq

end AirPaste.Protocol
