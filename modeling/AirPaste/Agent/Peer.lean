/-
# Agent.Peer — the peer file registry and the direct download

A transfer token stands for a grant: the paths of one clip, the devices that may
fetch them and the instant it expires.  A claim reserves one index of a grant; it
is settled by `commit_served`, which consumes the index for good, or by `release`,
which makes it claimable again.  The registry lock makes each operation atomic;
the operations that read the clock take the readings they make.
-/
import Mathlib.Data.Finset.Basic
import AirPaste.Agent.Identity
import AirPaste.Core.Model

namespace AirPaste.Agent

open AirPaste.Core
open AirPaste.Theory

set_option autoImplicit false

/-- What a grant is registered with, and the clip it is bound to. -/
structure GrantTerms (PathBuf : Type) where
  clipId : Option ClipId
  sourceDeviceId : DeviceId
  authorizedPublicKeys : DeviceId → Option String
  paths : List PathBuf
  expiresAt : Timestamp

structure PeerFileGrant (PathBuf : Type) extends GrantTerms PathBuf where
  /-- Indexes whose bytes were delivered. -/
  servedIndexes : Finset Nat
  /-- Indexes reserved and not yet settled. -/
  inFlight : Finset Nat

structure PeerFileRequest where
  clipId : String
  sourceDeviceId : String
  requesterDeviceId : String
  signatureAlg : String
  signature : String
  deriving DecidableEq

inductive PeerFileClaim (PathBuf : Type) where
  | available (path : PathBuf)
  | notFound
  | expired
  | alreadyServed
  | unauthorized (reason : String)
  deriving DecidableEq

/-- The grants by token. -/
abbrev PeerFileRegistry (PathBuf : Type) := String → Option (PeerFileGrant PathBuf)

variable {PathBuf : Type}

/-- Keep the grants that have not expired. -/
def cleanupExpired (now : Timestamp) (entries : PeerFileRegistry PathBuf) :
    PeerFileRegistry PathBuf :=
  fun token => (entries token).filter fun grant => decide (now < grant.expiresAt)

namespace PeerFileRegistry

def empty : PeerFileRegistry PathBuf := fun _ => none

/-- Apply a change to the grant of a token, if there is one. -/
def modify (registry : PeerFileRegistry PathBuf) (token : String)
    (change : PeerFileGrant PathBuf → PeerFileGrant PathBuf) : PeerFileRegistry PathBuf :=
  Function.update registry token ((registry token).map change)

def register (registry : PeerFileRegistry PathBuf) (now later : Timestamp)
    (token : TransferToken) (clipId : Option ClipId) (sourceDeviceId : DeviceId)
    (authorizedPublicKeys : DeviceId → Option String) (paths : List PathBuf) (ttl : Int) :
    PeerFileRegistry PathBuf :=
  Function.update (cleanupExpired now registry) token.asStr (some
    { clipId := clipId
      sourceDeviceId := sourceDeviceId
      authorizedPublicKeys := authorizedPublicKeys
      paths := paths
      expiresAt := later + ttl
      servedIndexes := ∅
      inFlight := ∅ })

def bindClipId (registry : PeerFileRegistry PathBuf) (token : TransferToken) (clipId : ClipId) :
    PeerFileRegistry PathBuf :=
  registry.modify token.asStr fun grant => { grant with clipId := some clipId }

/-- The checks of `claim` on who asks for what. -/
def authorize (x : SignatureCrates) (grant : GrantTerms PathBuf) (token : String)
    (index : Nat) (request : PeerFileRequest) : Except String Unit := do
  ensure (grant.clipId.all fun clipId => request.clipId == clipId.asStr) "clip mismatch"
  ensure (request.sourceDeviceId == grant.sourceDeviceId.asStr) "source device mismatch"
  ensure (!(request.requesterDeviceId == "" ||
    request.requesterDeviceId == grant.sourceDeviceId.asStr)) "invalid requester device"
  ensure (request.signatureAlg == peerFileSignatureAlg) "unsupported signature algorithm"
  let publicKey ← okOr (grant.authorizedPublicKeys ⟨request.requesterDeviceId⟩)
    "requester device is not trusted"
  ensure (verifyPeerFileRequest x publicKey request.signature request.clipId
    grant.sourceDeviceId.asStr request.requesterDeviceId token index).isOk
    "invalid requester signature"

def claim (x : SignatureCrates) (registry : PeerFileRegistry PathBuf) (now later : Timestamp)
    (token : String) (index : Nat) (request : PeerFileRequest) :
    PeerFileClaim PathBuf × PeerFileRegistry PathBuf :=
  let registry := cleanupExpired now registry
  match registry token with
  | none => (.notFound, registry)
  | some grant =>
      if grant.expiresAt < later then (.expired, Function.update registry token none)
      else
        match authorize x grant.toGrantTerms token index request with
        | .error reason => (.unauthorized reason, registry)
        | .ok () =>
            if index ∈ grant.servedIndexes ∨ index ∈ grant.inFlight then
              (.alreadyServed, registry)
            else
              match grant.paths[index]? with
              | none => (.notFound, registry)
              | some path =>
                  (.available path, Function.update registry token
                    (some { grant with inFlight := insert index grant.inFlight }))

/-- The answer of a claim for relay delivery. -/
def relayAnswer : PeerFileClaim PathBuf → Except String PathBuf
  | .available path => .ok path
  | .notFound => .error "file not found"
  | .expired => .error "transfer token expired"
  | .alreadyServed => .error "file already downloaded"
  | .unauthorized reason => .error reason

def claimRelayFile (x : SignatureCrates) (registry : PeerFileRegistry PathBuf)
    (now later : Timestamp) (token : String) (index : Nat)
    (clipId sourceDeviceId requesterDeviceId signatureAlg signature : String) :
    Except String PathBuf × PeerFileRegistry PathBuf :=
  let (answer, registry) := registry.claim x now later token index
    ⟨clipId, sourceDeviceId, requesterDeviceId, signatureAlg, signature⟩
  (relayAnswer answer, registry)

def commitServed (registry : PeerFileRegistry PathBuf) (token : String) (index : Nat) :
    PeerFileRegistry PathBuf :=
  registry.modify token fun grant =>
    { grant with
      inFlight := grant.inFlight.erase index
      servedIndexes := insert index grant.servedIndexes }

def release (registry : PeerFileRegistry PathBuf) (token : String) (index : Nat) :
    PeerFileRegistry PathBuf :=
  registry.modify token fun grant => { grant with inFlight := grant.inFlight.erase index }

end PeerFileRegistry

/-! ## The streamed body -/

/-- `GrantStream`, less the file it reads: what is left of the length announced. -/
structure GrantStream where
  token : String
  index : Nat
  remaining : Nat
  settled : Bool
  deriving DecidableEq

/-- One poll of the file that does not end the stream. -/
inductive FilePoll where
  | chunk (bytes : Nat)
  | readError
  | pending
  deriving DecidableEq

namespace GrantStream

def settle (stream : GrantStream) (registry : PeerFileRegistry PathBuf) :
    GrantStream × PeerFileRegistry PathBuf :=
  if stream.settled then (stream, registry)
  else
    ({ stream with settled := true },
      if stream.remaining = 0 then registry.commitServed stream.token stream.index
      else registry.release stream.token stream.index)

/-- `poll_next` on a file that yields something, fails or has to wait. -/
def pollNext (stream : GrantStream) : FilePoll → GrantStream
  | .chunk bytes => { stream with remaining := stream.remaining - bytes }
  | .readError => stream
  | .pending => stream

end GrantStream

theorem update_eq_some_iff {α β : Type} [DecidableEq α] {f : α → Option β} {a b : α} {v w : β} :
    Function.update f a (some v) b = some w ↔ (b = a ∧ w = v) ∨ (b ≠ a ∧ f b = some w) := by
  by_cases here : b = a
  · subst here
    simp only [Function.update_self, Option.some.injEq, ne_eq, not_true, false_and, or_false,
      true_and]
    exact eq_comm
  · simp only [Function.update_of_ne here, here, false_and, false_or, ne_eq, not_false_eq_true,
      true_and]

theorem modify_eq_some_iff {registry : PeerFileRegistry PathBuf} {token other : String}
    {change : PeerFileGrant PathBuf → PeerFileGrant PathBuf} {grant : PeerFileGrant PathBuf} :
    registry.modify token change other = some grant ↔
      ∃ before, registry other = some before ∧
        grant = if other = token then change before else before := by
  simp only [PeerFileRegistry.modify]
  by_cases here : other = token
  · subst here
    simp only [Function.update_self, Option.map_eq_some_iff, if_true]
    exact exists_congr fun before => and_congr_right fun _ => eq_comm
  · simp only [Function.update_of_ne here, if_neg here]
    constructor
    · exact fun stored => ⟨grant, stored, rfl⟩
    · rintro ⟨before, stored, rfl⟩
      exact stored

/-! ## The grant checks of a claim -/

/-- The request is signed by an authorised device for exactly this file of the grant. -/
structure Authorized (x : SignatureCrates) (grant : GrantTerms PathBuf) (token : String)
    (index : Nat) (request : PeerFileRequest) : Prop where
  clip : ∀ clipId, grant.clipId = some clipId → request.clipId = clipId.asStr
  source : request.sourceDeviceId = grant.sourceDeviceId.asStr
  named : request.requesterDeviceId ≠ ""
  other : request.requesterDeviceId ≠ request.sourceDeviceId
  algorithm : request.signatureAlg = peerFileSignatureAlg
  signed : ∃ publicKey, grant.authorizedPublicKeys ⟨request.requesterDeviceId⟩ = some publicKey ∧
    (verifyPeerFileRequest x publicKey request.signature request.clipId request.sourceDeviceId
      request.requesterDeviceId token index).isOk = true

section Claims

variable {x : SignatureCrates} {registry : PeerFileRegistry PathBuf} {now later : Timestamp}
  {token : String} {index : Nat} {request : PeerFileRequest} {grant : PeerFileGrant PathBuf}

theorem cleanupExpired_eq_some_iff :
    cleanupExpired now registry token = some grant ↔
      registry token = some grant ∧ now < grant.expiresAt := by
  simp only [cleanupExpired]
  rw [Option.filter_eq_some_iff, decide_eq_true_eq]

theorem cleanupExpired_none (absent : registry token = none) (now : Timestamp) :
    cleanupExpired now registry token = none := by
  simp only [cleanupExpired]
  rw [absent]
  rfl

theorem cleanupExpired_some (stored : registry token = some grant) (now : Timestamp) :
    cleanupExpired now registry token = if now < grant.expiresAt then some grant else none := by
  simp only [cleanupExpired]
  rw [stored, Option.filter_some]
  simp only [decide_eq_true_eq]

theorem authorize_ok_iff {terms : GrantTerms PathBuf} :
    PeerFileRegistry.authorize x terms token index request = .ok () ↔
      Authorized x terms token index request := by
  simp only [PeerFileRegistry.authorize, bind_ok_iff, ensure_ok_iff, okOr_ok_iff, beq_iff_eq,
    Bool.not_eq_true', Bool.or_eq_false_iff, beq_eq_false_iff_ne]
  constructor
  · rintro ⟨⟨⟩, clip, ⟨⟩, source, ⟨⟩, ⟨named, other⟩, ⟨⟩, algorithm, publicKey, known, signed⟩
    refine ⟨fun clipId bound => ?_, source, named, source ▸ other, algorithm, publicKey, known,
      source ▸ signed⟩
    rw [bound] at clip
    exact beq_iff_eq.mp clip
  · rintro ⟨clip, source, named, other, algorithm, publicKey, known, signed⟩
    refine ⟨(), ?_, (), source, (), ⟨named, source ▸ other⟩, (), algorithm, publicKey, known,
      source ▸ signed⟩
    cases bound : terms.clipId with
    | none => rfl
    | some clipId => exact beq_iff_eq.mpr (clip clipId bound)

/-- A claim for this index of the grant passes every check, and yields this path. -/
structure Claimable (x : SignatureCrates) (registry : PeerFileRegistry PathBuf)
    (now later : Timestamp) (token : String) (index : Nat) (request : PeerFileRequest)
    (grant : PeerFileGrant PathBuf) (path : PathBuf) : Prop where
  stored : registry token = some grant
  live : now < grant.expiresAt
  unexpired : later ≤ grant.expiresAt
  authorized : Authorized x grant.toGrantTerms token index request
  notServed : index ∉ grant.servedIndexes
  notInFlight : index ∉ grant.inFlight
  file : grant.paths[index]? = some path

/-- Everything a claim can answer and leave behind. -/
inductive ClaimOutcome (x : SignatureCrates) (registry : PeerFileRegistry PathBuf)
    (now later : Timestamp) (token : String) (index : Nat) (request : PeerFileRequest) :
    PeerFileClaim PathBuf × PeerFileRegistry PathBuf → Prop where
  /-- The index is reserved. -/
  | available (grant : PeerFileGrant PathBuf) (path : PathBuf)
      (claimable : Claimable x registry now later token index request grant path) :
      ClaimOutcome x registry now later token index request
        (.available path, Function.update (cleanupExpired now registry) token
          (some { grant with inFlight := insert index grant.inFlight }))
  /-- Nothing beyond the cleanup. -/
  | refused (answer : PeerFileClaim PathBuf) (refuses : ∀ path, answer ≠ .available path)
      (inTime : ∀ grant, registry token = some grant → now < grant.expiresAt →
        later ≤ grant.expiresAt) :
      ClaimOutcome x registry now later token index request
        (answer, cleanupExpired now registry)
  /-- The grant expired between the two clock readings and is removed. -/
  | expired (grant : PeerFileGrant PathBuf) (stored : registry token = some grant)
      (live : now < grant.expiresAt) (late : grant.expiresAt < later) :
      ClaimOutcome x registry now later token index request
        (.expired, Function.update (cleanupExpired now registry) token none)

theorem claim_outcome (x : SignatureCrates) (registry : PeerFileRegistry PathBuf)
    (now later : Timestamp) (token : String) (index : Nat) (request : PeerFileRequest) :
    ClaimOutcome x registry now later token index request
      (registry.claim x now later token index request) := by
  unfold PeerFileRegistry.claim
  cases found : cleanupExpired now registry token with
  | none =>
      simp only [found]
      refine .refused .notFound nofun fun grant stored live => ?_
      have kept := cleanupExpired_eq_some_iff.mpr ⟨stored, live⟩
      rw [found] at kept
      cases kept
  | some grant =>
      obtain ⟨stored, live⟩ := cleanupExpired_eq_some_iff.mp found
      simp only [found]
      split
      · rename_i late
        exact .expired grant stored live late
      · rename_i unexpired
        have inTime : ∀ other, registry token = some other → now < other.expiresAt →
            later ≤ other.expiresAt := by
          intro other also _
          cases Option.some.inj (stored.symm.trans also)
          exact not_lt.mp unexpired
        cases checks : PeerFileRegistry.authorize x grant.toGrantTerms token index request with
        | error reason => exact .refused (.unauthorized reason) nofun inTime
        | ok u =>
            simp only
            split
            · exact .refused .alreadyServed nofun inTime
            · rename_i free
              obtain ⟨notServed, notInFlight⟩ := not_or.mp free
              cases file : grant.paths[index]? with
              | none => exact .refused .notFound nofun inTime
              | some path =>
                  exact .available grant path ⟨stored, live, not_lt.mp unexpired,
                    authorize_ok_iff.mp checks, notServed, notInFlight, file⟩

/-- A claimable index is answered with its path. -/
theorem claim_available {path : PathBuf}
    (claimable : Claimable x registry now later token index request grant path) :
    (registry.claim x now later token index request).1 = .available path := by
  have found : cleanupExpired now registry token = some grant :=
    cleanupExpired_eq_some_iff.mpr ⟨claimable.stored, claimable.live⟩
  have free : ¬ (index ∈ grant.servedIndexes ∨ index ∈ grant.inFlight) :=
    not_or.mpr ⟨claimable.notServed, claimable.notInFlight⟩
  simp only [PeerFileRegistry.claim, found, if_neg (not_lt.mpr claimable.unexpired),
    authorize_ok_iff.mpr claimable.authorized, if_neg free, claimable.file]

/-- **When a claim is answered with a path.** -/
theorem claim_available_iff {path : PathBuf} :
    (registry.claim x now later token index request).1 = .available path ↔
      ∃ grant, Claimable x registry now later token index request grant path := by
  refine ⟨fun answered => ?_, fun ⟨_, claimable⟩ => claim_available claimable⟩
  have outcome := claim_outcome x registry now later token index request
  generalize registry.claim x now later token index request = result at outcome answered
  cases outcome with
  | available grant other claimable =>
      cases answered
      exact ⟨grant, claimable⟩
  | refused answer refuses inTime => exact absurd answered (refuses path)
  | expired grant stored live late => cases answered

/-- The relay answers with a path exactly when the claim does. -/
theorem relayAnswer_ok_iff {answer : PeerFileClaim PathBuf} {path : PathBuf} :
    PeerFileRegistry.relayAnswer answer = .ok path ↔ answer = .available path := by
  cases answer with
  | available found =>
      constructor
      · intro same
        exact congrArg _ (Except.ok.inj same)
      · intro same
        cases same
        rfl
  | _ => exact ⟨nofun, nofun⟩

end Claims

/-! ## One signed claim

A claim of the first file of a clip, with the values of the external functions on it. -/

namespace Sample

def requesterKey : String := "11qYAYKxCrfVS/7TyWQHOg7hcvPapiMlrwIaaPcHURo="

def requesterKeyBytes : List UInt8 :=
  [215, 90, 152, 1, 130, 177, 10, 183, 213, 75, 254, 211, 201, 100, 7, 58, 14, 225, 114, 243, 218,
   166, 35, 37, 175, 2, 26, 104, 247, 7, 81, 26]

def claimSignature : String :=
  "V8xWwBXn7BkFtkqR+w9BS3cmW2TgrrTucbVNXG8LcCGJFKjAVkxoSR3ULX6j/dilk1YpuOeK8t6AsccBN2KJAw=="

def claimSignatureBytes : List UInt8 :=
  [87, 204, 86, 192, 21, 231, 236, 25, 5, 182, 74, 145, 251, 15, 65, 75, 119, 38, 91, 100, 224,
   174, 180, 238, 113, 181, 77, 92, 111, 11, 112, 33, 137, 20, 168, 192, 86, 76, 104, 73, 29, 212,
   45, 126, 163, 253, 216, 165, 147, 86, 41, 184, 231, 138, 242, 222, 128, 177, 199, 1, 55, 98,
   137, 3]

def token : TransferToken := ⟨"tt_1"⟩

def source : DeviceId := ⟨"dev_source"⟩

def keys : DeviceId → Option String := fun deviceId =>
  if deviceId = ⟨"dev_requester"⟩ then some requesterKey else none

def request : PeerFileRequest :=
  ⟨"clip_1", "dev_source", "dev_requester", peerFileSignatureAlg, claimSignature⟩

def signatureCrates : SignatureCrates where
  base64Decode := fun encoded =>
    if encoded = requesterKey then some requesterKeyBytes
    else if encoded = claimSignature then some claimSignatureBytes
    else none
  isVerifyingKey := fun key => key == requesterKeyBytes
  ed25519Verify := fun key message signature =>
    key == requesterKeyBytes && signature == claimSignatureBytes &&
      message == peerFileSigningMessage "clip_1" "dev_source" "dev_requester" "tt_1" 0

/-- The grant of one file, before anything is claimed. -/
def grant : PeerFileGrant String :=
  ⟨⟨some ⟨"clip_1"⟩, source, keys, ["/tmp/a.txt"], seconds 600⟩, ∅, ∅⟩

theorem request_authorized : Authorized signatureCrates grant.toGrantTerms "tt_1" 0 request :=
  authorize_ok_iff.mp (by decide +kernel)

end Sample

end AirPaste.Agent
