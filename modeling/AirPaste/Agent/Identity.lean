/-
# Agent.Identity — signed peer file requests
-/
import AirPaste.Theory.Check

namespace AirPaste.Agent

open AirPaste.Theory

set_option autoImplicit false

/-- The external functions a signature check calls. -/
structure SignatureCrates where
  /-- `STANDARD.decode`. -/
  base64Decode : String → Option (List UInt8)
  /-- `VerifyingKey::from_bytes` succeeds. -/
  isVerifyingKey : List UInt8 → Bool
  /-- `verify`, of a key, a message and a signature. -/
  ed25519Verify : List UInt8 → String → List UInt8 → Bool

def peerFileSignatureAlg : String := "ed25519-v1"

def peerFileSigningMessage (clipId sourceDeviceId requesterDeviceId transferToken : String)
    (index : Nat) : String :=
  "airpaste-peer-file-v1\nclip_id:" ++ clipId ++ "\nsource_device_id:" ++ sourceDeviceId ++
    "\nrequester_device_id:" ++ requesterDeviceId ++ "\ntransfer_token:" ++ transferToken ++
    "\nindex:" ++ toString index ++ "\n"

/-- Why a signature is refused. -/
inductive SignatureError where
  | publicKeyEncoding
  | publicKeyLength
  | publicKey
  | signatureEncoding
  | signatureLength
  | signature
  deriving DecidableEq

def verifyPeerFileRequest (x : SignatureCrates) (publicKeyBase64 signatureBase64 clipId
    sourceDeviceId requesterDeviceId transferToken : String) (index : Nat) :
    Except SignatureError Unit := do
  let publicKey ← okOr (x.base64Decode publicKeyBase64) .publicKeyEncoding
  ensure (publicKey.length == 32) .publicKeyLength
  ensure (x.isVerifyingKey publicKey) .publicKey
  let signature ← okOr (x.base64Decode signatureBase64) .signatureEncoding
  ensure (signature.length == 64) .signatureLength
  let message :=
    peerFileSigningMessage clipId sourceDeviceId requesterDeviceId transferToken index
  ensure (x.ed25519Verify publicKey message signature) .signature

end AirPaste.Agent
