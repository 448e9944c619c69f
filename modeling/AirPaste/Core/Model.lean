/-
# Core.Model — the records the server stores and the agents exchange
-/
import AirPaste.Core.Ids

namespace AirPaste.Core

set_option autoImplicit false

structure Device where
  deviceId : DeviceId
  name : String
  publicKey : String
  encryptionPublicKey : String
  trusted : Bool
  createdAt : Timestamp
  lastSeenAt : Option Timestamp
  deriving DecidableEq, Repr

structure PairingSession where
  code : PairingCode
  createdBy : Option DeviceId
  candidateDeviceId : Option DeviceId
  expiresAt : Timestamp
  confirmed : Bool
  deriving DecidableEq, Repr

structure RelaySession where
  sessionId : SessionId
  clipId : ClipId
  sourceDeviceId : DeviceId
  recipientDeviceId : DeviceId
  maxBytes : Nat
  expiresAt : Timestamp
  createdAt : Timestamp
  deriving DecidableEq, Repr

inductive FileEntryKind where
  | file
  | directory
  | symlink
  | macAppBundle
  deriving DecidableEq, Repr

structure FileEntry where
  relativePath : String
  displayName : String
  size : Nat
  modifiedAt : Option Timestamp
  sha256 : Option String
  kind : FileEntryKind
  deriving DecidableEq, Repr

structure FileClip where
  files : List FileEntry
  totalSize : Nat
  transferToken : TransferToken
  sourcePeerUrl : Option String
  transferExpiresAt : Option Timestamp
  deriving DecidableEq, Repr

/-- A content key of a clip, sealed to one recipient device; the strings are base64. -/
structure WrappedKey where
  deviceId : DeviceId
  ephemeralPublicKey : String
  nonce : String
  ciphertext : String
  deriving DecidableEq, Repr

structure EncryptionInfo where
  scheme : String
  keyWrappedFor : List DeviceId
  wrappedKeys : List WrappedKey
  bodyNonce : Option String
  deriving DecidableEq, Repr

structure BlobRef where
  id : String
  byteLen : Nat
  deriving DecidableEq, Repr

inductive PayloadRef where
  | serverBlob (blob : BlobRef)
  | remoteManifest
  deriving DecidableEq, Repr

structure TextClip where
  utf8Len : Nat
  preview : Option String
  encryptedBodyRef : BlobRef
  encryptedInlineBody : Option String
  deriving DecidableEq, Repr

structure ImageClip where
  width : Nat
  height : Nat
  mime : String
  byteLen : Nat
  payloadRef : PayloadRef
  deriving DecidableEq, Repr

inductive ClipKind where
  | text (clip : TextClip)
  | image (clip : ImageClip)
  | files (clip : FileClip)
  deriving DecidableEq, Repr

def ClipKind.name : ClipKind → String
  | .text _ => "text"
  | .image _ => "image"
  | .files _ => "files"

structure ClipRecord where
  clipId : ClipId
  sourceDeviceId : DeviceId
  createdAt : Timestamp
  expiresAt : Option Timestamp
  kind : ClipKind
  encryption : EncryptionInfo
  deriving DecidableEq, Repr

end AirPaste.Core
