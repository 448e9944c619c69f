/-
# Protocol.Api — the signed-request protocol and the REST payloads

The header names and the message a device signs, and the request and response
bodies of the device, pairing and clip endpoints.
-/
import AirPaste.Core.Model

namespace AirPaste.Protocol

open AirPaste.Core

set_option autoImplicit false

def airpasteDeviceIdHeader : String := "x-airpaste-device-id"
def airpasteSignatureAlgHeader : String := "x-airpaste-signature-alg"
def airpasteSignatureHeader : String := "x-airpaste-signature"
def airpasteTimestampHeader : String := "x-airpaste-timestamp"
def airpasteNonceHeader : String := "x-airpaste-nonce"
def airpasteBodySha256Header : String := "x-airpaste-body-sha256"
def airpasteRestSignatureAlg : String := "ed25519-rest-v1"

def base64urlAlphabet : List Char :=
  "ABCDEFGHIJKLMNOPQRSTUVWXYZabcdefghijklmnopqrstuvwxyz0123456789-_".toList

/-- The alphabet character of the low six bits. -/
def base64urlChar (value : Nat) : Char := base64urlAlphabet.getD (value % 64) 'A'

def base64urlNoPad : List UInt8 → List Char
  | a :: b :: c :: rest =>
      let value := a.toNat * 65536 + b.toNat * 256 + c.toNat
      base64urlChar (value / 262144) :: base64urlChar (value / 4096) ::
        base64urlChar (value / 64) :: base64urlChar value :: base64urlNoPad rest
  | [a, b] =>
      let value := a.toNat * 65536 + b.toNat * 256
      [base64urlChar (value / 262144), base64urlChar (value / 4096), base64urlChar (value / 64)]
  | [a] =>
      let value := a.toNat * 65536
      [base64urlChar (value / 262144), base64urlChar (value / 4096)]
  | [] => []

/-- `rest_body_sha256_base64url`, for the hash function `sha256`. -/
def restBodySha256Base64url (sha256 : List UInt8 → List UInt8) (body : List UInt8) : String :=
  String.ofList (base64urlNoPad (sha256 body))

def restSigningMessage (method pathAndQuery : String) (deviceId : DeviceId)
    (timestamp nonce bodySha256 : String) : String :=
  "airpaste-rest-v1\nmethod:" ++ String.ofList (method.toList.map Char.toUpper) ++
    "\npath:" ++ pathAndQuery ++ "\ndevice_id:" ++ deviceId.asStr ++
    "\ntimestamp:" ++ timestamp ++ "\nnonce:" ++ nonce ++
    "\nbody_sha256:" ++ bodySha256 ++ "\n"

structure RegisterDeviceRequest where
  name : String
  publicKey : String
  encryptionPublicKey : String
  deriving DecidableEq, Repr

structure StartPairingRequest where
  createdBy : Option DeviceId
  ttlSeconds : Option Int
  deriving DecidableEq, Repr

structure ConfirmPairingRequest where
  code : PairingCode
  deviceId : DeviceId
  deriving DecidableEq, Repr

structure RenameDeviceRequest where
  name : String
  deriving DecidableEq, Repr

structure StartPairingResponse where
  code : PairingCode
  expiresAt : Timestamp
  deriving DecidableEq, Repr

structure CreateClipRequest where
  sourceDeviceId : DeviceId
  expiresAt : Option Timestamp
  kind : ClipKind
  encryption : EncryptionInfo
  /-- A plaintext copy for the simple-device inbox. -/
  simpleMirrorText : Option String
  deriving DecidableEq, Repr

structure CreateClipResponse where
  clipId : ClipId
  createdAt : Timestamp
  deriving DecidableEq, Repr

structure SimpleClipUpload where
  text : String
  deviceName : Option String
  deriving DecidableEq, Repr

structure HealthResponse where
  status : String
  version : String
  now : Timestamp
  deriving DecidableEq, Repr

structure ClipSummary where
  clipId : ClipId
  sourceDeviceId : DeviceId
  createdAt : Timestamp
  expiresAt : Option Timestamp
  kind : String
  deriving DecidableEq, Repr

structure CreateRelaySessionRequest where
  clipId : ClipId
  sourceDeviceId : DeviceId
  recipientDeviceId : DeviceId
  maxBytes : Option Nat
  ttlSeconds : Option Int
  deriving DecidableEq, Repr

end AirPaste.Protocol
