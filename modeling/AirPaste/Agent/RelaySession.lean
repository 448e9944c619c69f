/-
# Agent.RelaySession — the two sides of a relay session

The recipient asks for one missing file after the other; the source claims each from its
registry, seals it to the recipient and sends a header, the ciphertext in chunks and an end
marker, or an error.  `sourceStep` and `recipientStep` are the steps of
`serve_relay_session` and `download_via_relay`: each receives or sends at most one frame.
Frames travel in two queues, one for each direction; timeouts do not occur.

Next to what the code keeps, the source notes the indexes it sent in full and the requests
it refused, and the recipient the files it received and decrypted; no step reads these notes.

`serially` is what a session comes to: one file after the other, served and taken at once.
-/
import AirPaste.Agent.Download
import AirPaste.Agent.Peer
import AirPaste.Crypto.Sealing
import AirPaste.Theory.Schedule

namespace AirPaste.Agent

open AirPaste.Core
open AirPaste.Crypto
open AirPaste.Theory

set_option autoImplicit false

def relayChunkBytes : Nat := 256 * 1024

/-- `slice::chunks`, of as many bytes at most. -/
def chunksOf (size : Nat) : Nat → List UInt8 → List (List UInt8)
  | 0, _ => []
  | atMost + 1, bytes =>
      if bytes = [] then [] else bytes.take size :: chunksOf size atMost (bytes.drop size)

def chunks (size : Nat) (bytes : List UInt8) : List (List UInt8) := chunksOf size bytes.length bytes

inductive RelayControl where
  | request (clipId sourceDeviceId requesterDeviceId signatureAlg signature token : String)
      (index : Nat)
  | fileHeader (index size : Nat) (bodyNonce : String) (wrappedKeys : List WrappedKey)
  | fileEnd (index : Nat)
  | error (message : String)
  deriving DecidableEq

/-- A frame of the websocket. -/
inductive Message where
  /-- A text, and what it is parsed to. -/
  | text (parsed : Except String RelayControl)
  | binary (bytes : List UInt8)
  | close
  /-- Pings, pongs and raw frames. -/
  | other
  deriving DecidableEq

def Message.control (control : RelayControl) : Message := .text (.ok control)

/-- What the two sides are called with, and what they ask of the outside. -/
structure RelayExchange (Key PathBuf : Type) where
  surroundings : Surroundings
  primitives : Primitives Key
  signatureCrates : SignatureCrates
  /-- The clock readings of a claim, by the number of claims before it. -/
  clock : Nat → Timestamp × Timestamp
  /-- What the sealing after so many claims draws. -/
  draws : Nat → SealDraws
  /-- `tokio::fs::read` on the source. -/
  contents : PathBuf → Except String (List UInt8)
  /-- The recipient as the source knows it. -/
  recipient : Recipient
  encryption : EncryptionIdentity
  /-- `sign_peer_file_request`, for an index. -/
  signPeerFileRequest : Nat → String
  clipId : ClipId
  sourceDeviceId : DeviceId
  requesterDeviceId : DeviceId
  fileClip : FileClip
  cacheDir : LexPath String

/-- Where `serve_relay_session` stands. -/
inductive SourcePhase (PathBuf : Type) where
  | waiting
  /-- The index is reserved; its file is to be read and sealed. -/
  | preparing (token : String) (index : Nat) (path : PathBuf)
  /-- The frames still to be sent; none when the index is to be committed. -/
  | sending (token : String) (index : Nat) (frames : List Message)
  | refusing (reason : String)
  | stopped

/-- Where `download_via_relay` stands. -/
inductive RecipientPhase where
  | requesting (missing : List (FileEntry × Nat))
  | awaitingHeader (entry : FileEntry) (index : Nat) (rest : List (FileEntry × Nat))
  | awaitingBody (entry : FileEntry) (index : Nat) (rest : List (FileEntry × Nat))
      (bodyNonce : String) (wrappedKeys : List WrappedKey) (ciphertext : List UInt8)
  | storing (entry : FileEntry) (index : Nat) (rest : List (FileEntry × Nat))
      (bodyNonce : String) (wrappedKeys : List WrappedKey) (ciphertext : List UInt8)
  | ended (outcome : Except Failure Unit)

/-- What the source keeps over the session. -/
structure SourceBooks (PathBuf : Type) where
  registry : PeerFileRegistry PathBuf
  /-- The number of claims made. -/
  claims : Nat
  /-- The indexes sent in full. -/
  sent : List Nat
  /-- The indexes refused, each with the reason given. -/
  refused : List (Nat × String)

/-- What the recipient keeps over the session. -/
structure RecipientBooks where
  receiving : Receiving
  /-- The files received and decrypted, by their index. -/
  obtained : List (Nat × List UInt8)

structure Relay (PathBuf : Type) where
  source : SourcePhase PathBuf
  served : SourceBooks PathBuf
  recipient : RecipientPhase
  got : RecipientBooks
  toSource : List Message
  toRecipient : List Message

inductive RelayParty where
  | source
  | recipient
  deriving DecidableEq

namespace RelayExchange

variable {Key PathBuf : Type} (e : RelayExchange Key PathBuf)

/-! ## The source -/

def prepareRelayFile (claims : Nat) (path : PathBuf) (index : Nat) :
    Except String (RelayControl × List UInt8) := do
  let bytes ← (e.contents path).mapError fun error => "failed to read file: " ++ error
  let sealed ← (sealBytes e.primitives (e.draws claims) bytes [e.recipient]).mapError
    fun error => "failed to encrypt file: " ++ error.message
  return (
    .fileHeader index bytes.length (e.primitives.base64.encode sealed.bodyNonce.toList)
      sealed.wrappedKeys,
    sealed.bodyCiphertext)

/-- The frames of a file: its header, its chunks and the end marker. -/
def relayFrames (header : RelayControl) (ciphertext : List UInt8) (index : Nat) : List Message :=
  .control header ::
    ((chunks relayChunkBytes ciphertext).map Message.binary ++ [.control (.fileEnd index)])

/-- The claim of a request. -/
def claimRequested (served : SourceBooks PathBuf)
    (clipId sourceDeviceId requesterDeviceId signatureAlg signature token : String) (index : Nat) :
    Except String PathBuf × SourceBooks PathBuf :=
  let (now, later) := e.clock served.claims
  match served.registry.claimRelayFile e.signatureCrates now later token index clipId
      sourceDeviceId requesterDeviceId signatureAlg signature with
  | (.ok path, registry) =>
      (.ok path, { served with registry := registry, claims := served.claims + 1 })
  | (.error reason, registry) =>
      (.error reason,
        { served with
          registry := registry
          claims := served.claims + 1
          refused := served.refused ++ [(index, reason)] })

/-- A file that was claimed cannot be prepared. -/
def giveUp (token : String) (index : Nat) (reason : String) (served : SourceBooks PathBuf) :
    SourceBooks PathBuf :=
  { served with
    registry := served.registry.release token index
    refused := served.refused ++ [(index, reason)] }

/-- The bytes of a file are delivered. -/
def commit (token : String) (index : Nat) (served : SourceBooks PathBuf) : SourceBooks PathBuf :=
  { served with registry := served.registry.commitServed token index }

/-- The last frame of a file is sent. -/
def noteSent (index : Nat) (served : SourceBooks PathBuf) : SourceBooks PathBuf :=
  { served with sent := served.sent ++ [index] }

def sourceStep (s : Relay PathBuf) : Relay PathBuf :=
  match s.source with
  | .waiting =>
      match s.toSource with
      | [] =>
          match s.recipient with
          -- the recipient has closed its end
          | .ended _ => { s with source := .stopped }
          | _ => s
      | message :: rest =>
          let s := { s with toSource := rest }
          match message with
          | .text (.ok (.request clipId sourceDeviceId requesterDeviceId signatureAlg signature
              token index)) =>
              match e.claimRequested s.served clipId sourceDeviceId requesterDeviceId signatureAlg
                  signature token index with
              | (.ok path, served) =>
                  { s with source := .preparing token index path, served := served }
              | (.error reason, served) =>
                  { s with source := .refusing reason, served := served }
          | _ => s
  | .preparing token index path =>
      match e.prepareRelayFile s.served.claims path index with
      | .ok (header, ciphertext) =>
          { s with source := .sending token index (relayFrames header ciphertext index) }
      | .error reason =>
          { s with source := .refusing reason, served := giveUp token index reason s.served }
  | .sending token index [] => { s with source := .waiting, served := commit token index s.served }
  | .sending token index (frame :: rest) =>
      { s with
        source := .sending token index rest
        served := if rest = [] then noteSent index s.served else s.served
        toRecipient := s.toRecipient ++ [frame] }
  | .refusing reason =>
      { s with
        source := .waiting
        toRecipient := s.toRecipient ++ [.control (.error reason)] }
  | .stopped => s

/-! ## The recipient -/

def requestMessage (index : Nat) : Message :=
  .control (.request e.clipId.asStr e.sourceDeviceId.asStr e.requesterDeviceId.asStr
    peerFileSignatureAlg (e.signPeerFileRequest index) e.fileClip.transferToken.asStr index)

/-- One frame of `recv_file_header`: the header, or nothing yet. -/
def recvFileHeader (index : Nat) : Message → Except Failure (Option (String × List WrappedKey))
  | .text (.ok (.fileHeader headerIndex _ bodyNonce wrappedKeys)) =>
      if headerIndex = index then .ok (some (bodyNonce, wrappedKeys)) else .ok none
  | .text (.ok (.error message)) => .error (.text ("relay source error: " ++ message))
  | .text (.ok _) => .ok none
  | .text (.error error) => .error (.text error)
  | .close => .error (.text "relay closed before file header")
  | .binary _ => .ok none
  | .other => .ok none

/-- One frame of `recv_file_body`: the ciphertext so far, and whether it is complete. -/
def recvFileBody (ciphertext : List UInt8) : Message → Except Failure (List UInt8 × Bool)
  | .binary bytes => .ok (ciphertext ++ bytes, false)
  | .text (.ok (.fileEnd _)) => .ok (ciphertext, true)
  | .text (.ok (.error message)) => .error (.text ("relay source error: " ++ message))
  | .text (.ok _) => .ok (ciphertext, false)
  | .text (.error error) => .error (.text error)
  | .close => .error (.text "relay closed before file end")
  | .other => .ok (ciphertext, false)

def openRelayed (bodyNonce : String) (wrappedKeys : List WrappedKey) (ciphertext : List UInt8) :
    Except String (List UInt8) := do
  let nonce ← e.primitives.base64.decode bodyNonce
  (openBytes e.primitives ciphertext nonce wrappedKeys e.requesterDeviceId e.encryption).mapError
    fun error => "failed to decrypt relayed file: " ++ error.message

/-- Check a file received, write it to the cache and record it. -/
def takeFile (entry : FileEntry) (index : Nat) (plaintext : List UInt8) (got : RecipientBooks) :
    Except Failure Unit × RecipientBooks :=
  let obtained := got.obtained ++ [(index, plaintext)]
  let destination := safeCachePath (clipCacheDir e.cacheDir e.fileClip) entry.relativePath
    entry.displayName
  match fetchRelayed { e.surroundings with relayed := fun _ => some plaintext }
      got.receiving.machine entry index destination with
  | (.error failure, machine) =>
      (.error failure, ⟨{ got.receiving with machine := machine }, obtained⟩)
  | (.ok (), machine) =>
      (.ok (),
        ⟨⟨machine, Function.update got.receiving.downloaded index (some destination)⟩, obtained⟩)

def recipientStep (s : Relay PathBuf) : Relay PathBuf :=
  match s.recipient with
  | .requesting [] => { s with recipient := .ended (.ok ()) }
  | .requesting ((entry, index) :: rest) =>
      { s with
        recipient := .awaitingHeader entry index rest
        toSource := s.toSource ++ [e.requestMessage index] }
  | .awaitingHeader entry index rest =>
      match s.toRecipient with
      | [] =>
          match s.source with
          | .stopped => { s with recipient := .ended (.error (.text "relay connection closed")) }
          | _ => s
      | message :: later =>
          let s := { s with toRecipient := later }
          match recvFileHeader index message with
          | .error failure => { s with recipient := .ended (.error failure) }
          | .ok none => s
          | .ok (some (bodyNonce, wrappedKeys)) =>
              { s with recipient := .awaitingBody entry index rest bodyNonce wrappedKeys [] }
  | .awaitingBody entry index rest bodyNonce wrappedKeys ciphertext =>
      match s.toRecipient with
      | [] =>
          match s.source with
          | .stopped => { s with recipient := .ended (.error (.text "relay connection closed")) }
          | _ => s
      | message :: later =>
          let s := { s with toRecipient := later }
          match recvFileBody ciphertext message with
          | .error failure => { s with recipient := .ended (.error failure) }
          | .ok (ciphertext, false) =>
              { s with
                recipient := .awaitingBody entry index rest bodyNonce wrappedKeys ciphertext }
          | .ok (ciphertext, true) =>
              { s with recipient := .storing entry index rest bodyNonce wrappedKeys ciphertext }
  | .storing entry index rest bodyNonce wrappedKeys ciphertext =>
      match e.openRelayed bodyNonce wrappedKeys ciphertext with
      | .error message => { s with recipient := .ended (.error (.text message)) }
      | .ok plaintext =>
          match e.takeFile entry index plaintext s.got with
          | (.error failure, got) => { s with recipient := .ended (.error failure), got := got }
          | (.ok (), got) => { s with recipient := .requesting rest, got := got }
  | .ended _ => s

/-! ## The session -/

def step (s : Relay PathBuf) : RelayParty → Relay PathBuf
  | .source => e.sourceStep s
  | .recipient => e.recipientStep s

/-- What `download_via_relay` does before its loop: it is done, or goes on to the loop. -/
def prepareDownload (receiving : Receiving) :
    Except (Except Failure Unit) (List (FileEntry × Nat)) × Receiving :=
  let missing := missingFiles e.fileClip receiving.downloaded
  if missing.isEmpty then (.error (.ok ()), receiving)
  else
    match receiving.machine.createDirAll e.surroundings.fault none
        (clipCacheDir e.cacheDir e.fileClip) with
    | (false, machine) => (.error (.error .io), { receiving with machine := machine })
    | (true, machine) => (.ok missing, { receiving with machine := machine })

/-- Both sides are connected, and the recipient stands before its loop. -/
def start (registry : PeerFileRegistry PathBuf) (receiving : Receiving) : Relay PathBuf :=
  let (next, receiving) := e.prepareDownload receiving
  { source := .waiting
    served := ⟨registry, 0, [], []⟩
    recipient :=
      match next with
      | .error outcome => .ended outcome
      | .ok missing => .requesting missing
    got := ⟨receiving, []⟩
    toSource := []
    toRecipient := [] }

/-! ## One file after the other -/

/-- The source's answer once the claim has passed: the file, or why it is not served. -/
def servePrepared (path : PathBuf) (index : Nat) (served : SourceBooks PathBuf) :
    Except String (List UInt8) × SourceBooks PathBuf :=
  let token := e.fileClip.transferToken.asStr
  match e.prepareRelayFile served.claims path index with
  | .error reason => (.error reason, giveUp token index reason served)
  | .ok _ => (e.contents path, commit token index (noteSent index served))

/-- The source's answer to the request for an index. -/
def serveFile (index : Nat) (served : SourceBooks PathBuf) :
    Except String (List UInt8) × SourceBooks PathBuf :=
  match e.claimRequested served e.clipId.asStr e.sourceDeviceId.asStr e.requesterDeviceId.asStr
      peerFileSignatureAlg (e.signPeerFileRequest index) e.fileClip.transferToken.asStr index with
  | (.error reason, served) => (.error reason, served)
  | (.ok path, served) => e.servePrepared path index served

/-- What a session comes to: the recipient's outcome, and what both sides keep. -/
abbrev SessionResult (PathBuf : Type) :=
  Except Failure Unit × SourceBooks PathBuf × RecipientBooks

/-- Take the source's answer, and go on when that succeeds. -/
def takeServed (entry : FileEntry) (index : Nat)
    (goOn : SourceBooks PathBuf → RecipientBooks → SessionResult PathBuf) :
    Except String (List UInt8) × SourceBooks PathBuf → RecipientBooks → SessionResult PathBuf
  | (.error reason, served), got => (.error (.text ("relay source error: " ++ reason)), served, got)
  | (.ok bytes, served), got =>
      match e.takeFile entry index bytes got with
      | (.error failure, got) => (.error failure, served, got)
      | (.ok (), got) => goOn served got

/-- The missing files served and taken one after the other, up to the first failure. -/
def serially : List (FileEntry × Nat) → SourceBooks PathBuf → RecipientBooks →
    SessionResult PathBuf
  | [], served, got => (.ok (), served, got)
  | (entry, index) :: rest, served, got =>
      e.takeServed entry index (serially rest) (e.serveFile index served) got

/-- The whole session. -/
def session (registry : PeerFileRegistry PathBuf) (receiving : Receiving) :
    SessionResult PathBuf :=
  match e.prepareDownload receiving with
  | (.error outcome, receiving) => (outcome, ⟨registry, 0, [], []⟩, ⟨receiving, []⟩)
  | (.ok missing, receiving) => e.serially missing ⟨registry, 0, [], []⟩ ⟨receiving, []⟩

end RelayExchange

end AirPaste.Agent
