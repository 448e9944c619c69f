/-
# Agent.PeerDownload — a direct download and its reservation

`download_file_inner` claims an index, examines the file, and hands the reservation
to a `GrantStream` as the last thing it does; the stream settles it when it ends or
is dropped.  While a request waits for the file system or its connection, others
may operate on the registry, but only its own stream settles its reservation.

`settles_iff` says when the reservation of a request is settled once it is over: when
the file's metadata can be read, it is a regular file and it can be opened, or when the
grant itself has expired and been removed.  The three early exits before the stream
exists leave the index reserved.
-/
import AirPaste.Agent.Peer
import AirPaste.Protocol.Http

namespace AirPaste.Agent

open AirPaste.Core
open AirPaste.Protocol
open AirPaste.Theory

set_option autoImplicit false

variable {PathBuf : Type}

/-- An operation on the registry, by anyone. -/
inductive PeerOp (PathBuf : Type) where
  | register (now later : Timestamp) (token : TransferToken) (clipId : Option ClipId)
      (sourceDeviceId : DeviceId) (authorizedPublicKeys : DeviceId → Option String)
      (paths : List PathBuf) (ttl : Int)
  | bindClipId (token : TransferToken) (clipId : ClipId)
  | claim (now later : Timestamp) (token : String) (index : Nat) (request : PeerFileRequest)
  | commitServed (token : String) (index : Nat)
  | release (token : String) (index : Nat)

namespace PeerOp

def perform (x : SignatureCrates) (registry : PeerFileRegistry PathBuf) :
    PeerOp PathBuf → PeerFileRegistry PathBuf
  | .register now later token clipId sourceDeviceId authorizedPublicKeys paths ttl =>
      registry.register now later token clipId sourceDeviceId authorizedPublicKeys paths ttl
  | .bindClipId token clipId => registry.bindClipId token clipId
  | .claim now later token index request => (registry.claim x now later token index request).2
  | .commitServed token index => registry.commitServed token index
  | .release token index => registry.release token index

/-- The operation reads the clock late enough to remove a grant of this token. -/
def Removes (token : String) (expiresAt : Timestamp) : PeerOp PathBuf → Prop
  | .register now _ _ _ _ _ _ _ => expiresAt ≤ now
  | .bindClipId _ _ => False
  | .claim now later claimed _ _ => expiresAt ≤ now ∨ (claimed = token ∧ expiresAt < later)
  | .commitServed _ _ => False
  | .release _ _ => False

/-- The operation neither registers this token again nor settles this index of it. -/
def Foreign (token : String) (index : Nat) : PeerOp PathBuf → Prop
  | .register _ _ registered _ _ _ _ _ => registered.asStr ≠ token
  | .bindClipId _ _ => True
  | .claim _ _ _ _ _ => True
  | .commitServed other i => (other, i) ≠ (token, index)
  | .release other i => (other, i) ≠ (token, index)

end PeerOp

def headerValue (headers : HeaderMap) (name : String) : Option String :=
  (((headerGet headers name).bind headerToStr).map Text.trim).filter (· ≠ "")

def peerFileRequestFromHeaders (headers : HeaderMap) : Option PeerFileRequest := do
  return {
    clipId := ← headerValue headers "x-airpaste-clip-id"
    sourceDeviceId := ← headerValue headers "x-airpaste-source-device-id"
    requesterDeviceId := ← headerValue headers "x-airpaste-requester-device-id"
    signatureAlg := ← headerValue headers "x-airpaste-signature-alg"
    signature := ← headerValue headers "x-airpaste-signature" }

/-- What the file system answers about a path, and whether the response can be built. -/
structure FileAnswers (PathBuf : Type) where
  /-- Whether the path is a regular file, and its length. -/
  metadata : PathBuf → Option (Bool × Nat)
  opens : PathBuf → Bool
  responseBuilds : PathBuf → Nat → Bool

/-- What `download_file_inner` hands back: an error, a response with a text, or the
response that streams the file. -/
inductive Download where
  | failed
  | text (status : Nat) (text : String)
  | body (stream : GrantStream)
  deriving DecidableEq

def downloadFileInner (x : SignatureCrates) (files : FileAnswers PathBuf)
    (others : List (PeerOp PathBuf)) (registry : PeerFileRegistry PathBuf)
    (now later : Timestamp) (headers : HeaderMap) (token : String) (index : Nat) :
    Download × PeerFileRegistry PathBuf :=
  match peerFileRequestFromHeaders headers with
  | none => (.text 401 "missing peer transfer headers", registry)
  | some request =>
      match registry.claim x now later token index request with
      | (.notFound, registry) => (.text 404 "file not found", registry)
      | (.expired, registry) => (.text 410 "transfer token expired", registry)
      | (.alreadyServed, registry) => (.text 410 "file already downloaded", registry)
      | (.unauthorized reason, registry) => (.text 401 reason, registry)
      | (.available path, registry) =>
          let registry := others.foldl (PeerOp.perform x) registry
          match files.metadata path with
          | none => (.failed, registry)
          | some (isFile, length) =>
              if !isFile then (.text 400 "directories are not transferable yet", registry)
              else if !files.opens path then (.failed, registry)
              else
                let stream : GrantStream := ⟨token, index, length, false⟩
                if files.responseBuilds path length then (.body stream, registry)
                else (.failed, (stream.settle registry).2)

/-! ## The life of the stream -/

/-- While a body is sent: the connection polls it, or someone operates on the registry. -/
inductive BodyEvent (PathBuf : Type) where
  | poll (poll : FilePoll)
  | other (op : PeerOp PathBuf)

def bodyStep (x : SignatureCrates) (state : GrantStream × PeerFileRegistry PathBuf) :
    BodyEvent PathBuf → GrantStream × PeerFileRegistry PathBuf
  | .poll poll => (state.1.pollNext poll, state.2)
  | .other op => (state.1, op.perform x state.2)

/-- The end of a body: the file ends and the stream is dropped, or it is dropped before. -/
def endBody (finished : Bool) (stream : GrantStream) (registry : PeerFileRegistry PathBuf) :
    PeerFileRegistry PathBuf :=
  let (stream, registry) := if finished then stream.settle registry else (stream, registry)
  (stream.settle registry).2

/-- The bytes the polls yielded. -/
def yielded : List (BodyEvent PathBuf) → Nat
  | [] => 0
  | .poll (.chunk bytes) :: rest => bytes + yielded rest
  | .poll _ :: rest => yielded rest
  | .other _ :: rest => yielded rest

/-- The operations others make in between. -/
def operations : List (BodyEvent PathBuf) → List (PeerOp PathBuf)
  | [] => []
  | .poll _ :: rest => operations rest
  | .other op :: rest => op :: operations rest

/-- The registry when the request is over. -/
def afterRequest (x : SignatureCrates) (events : List (BodyEvent PathBuf)) (finished : Bool) :
    Download × PeerFileRegistry PathBuf → PeerFileRegistry PathBuf
  | (.body stream, registry) =>
      let (stream, registry) := events.foldl (bodyStep x) (stream, registry)
      endBody finished stream registry
  | (_, registry) => registry

/-- The bytes the stream has yielded when the request is over. -/
def streamed (events : List (BodyEvent PathBuf)) :
    Download × PeerFileRegistry PathBuf → Nat
  | (.body _, _) => yielded events
  | _ => 0

/-- At least the length of the metadata has been yielded. -/
def Delivered (files : FileAnswers PathBuf) (path : PathBuf) (bytes : Nat) : Prop :=
  ∃ isFile length, files.metadata path = some (isFile, length) ∧ length ≤ bytes

/-- The index is no longer reserved: it is served if the file was delivered, and
claimable again if not. -/
def Settled (x : SignatureCrates) (registry : PeerFileRegistry PathBuf) (token : String)
    (index : Nat) (delivered : Prop) : Prop :=
  ∀ grant, registry token = some grant →
    index ∉ grant.inFlight ∧ (delivered → index ∈ grant.servedIndexes) ∧
    (¬ delivered → ∀ now later request, now < grant.expiresAt → later ≤ grant.expiresAt →
      Authorized x grant.toGrantTerms token index request →
        ∃ path, (registry.claim x now later token index request).1 = .available path)

/-! ## A reservation while others operate -/

section Reservation

variable {x : SignatureCrates} {registry : PeerFileRegistry PathBuf} {token : String}
  {index : Nat} {expiresAt : Timestamp} {grant : PeerFileGrant PathBuf}

/-- The index of the grant is reserved, and the grant expires at this instant. -/
structure Reserved (index : Nat) (expiresAt : Timestamp) (grant : PeerFileGrant PathBuf) :
    Prop where
  inFlight : index ∈ grant.inFlight
  notServed : index ∉ grant.servedIndexes
  inRange : index < grant.paths.length
  expires : grant.expiresAt = expiresAt

/-- The token has a grant whose index is reserved. -/
def Holds (registry : PeerFileRegistry PathBuf) (token : String) (index : Nat)
    (expiresAt : Timestamp) : Prop :=
  ∃ grant, registry token = some grant ∧ Reserved index expiresAt grant

/-- A cleanup keeps the reservation exactly when the grant has not expired. -/
theorem holds_cleanup (stored : registry token = some grant)
    (reserved : Reserved index expiresAt grant) (now : Timestamp) :
    (expiresAt ≤ now ∧ cleanupExpired now registry token = none) ∨
      (¬ expiresAt ≤ now ∧ Holds (cleanupExpired now registry) token index expiresAt) := by
  have cleaned := cleanupExpired_some stored now
  rw [reserved.expires] at cleaned
  rcases lt_or_ge now expiresAt with live | expired
  · exact .inr ⟨not_le.mpr live, grant, cleaned.trans (if_pos live), reserved⟩
  · exact .inl ⟨expired, cleaned.trans (if_neg (not_lt.mpr expired))⟩

/-- Reserving another index keeps the reservation. -/
theorem reserved_claim (reserved : Reserved index expiresAt grant) (other : Nat) :
    Reserved index expiresAt { grant with inFlight := insert other grant.inFlight } where
  inFlight := Finset.mem_insert_of_mem reserved.inFlight
  notServed := reserved.notServed
  inRange := reserved.inRange
  expires := reserved.expires

/-- Settling other indexes of the grant keeps the reservation. -/
theorem reserved_commit (reserved : Reserved index expiresAt grant) {other : Nat}
    (different : other ≠ index) :
    Reserved index expiresAt
      { grant with
        inFlight := grant.inFlight.erase other
        servedIndexes := insert other grant.servedIndexes } where
  inFlight := Finset.mem_erase.mpr ⟨different.symm, reserved.inFlight⟩
  notServed := by
    intro member
    rcases Finset.mem_insert.mp member with same | before
    · exact different same.symm
    · exact reserved.notServed before
  inRange := reserved.inRange
  expires := reserved.expires

theorem reserved_release (reserved : Reserved index expiresAt grant) {other : Nat}
    (different : other ≠ index) :
    Reserved index expiresAt { grant with inFlight := grant.inFlight.erase other } where
  inFlight := Finset.mem_erase.mpr ⟨different.symm, reserved.inFlight⟩
  notServed := reserved.notServed
  inRange := reserved.inRange
  expires := reserved.expires

/-- A change of grants that keeps the reservation keeps it in the registry. -/
theorem holds_modify (stored : registry token = some grant)
    (reserved : Reserved index expiresAt grant) (other : String)
    (change : PeerFileGrant PathBuf → PeerFileGrant PathBuf)
    (keeps : other = token → Reserved index expiresAt (change grant)) :
    Holds (registry.modify other change) token index expiresAt := by
  simp only [Holds]
  by_cases here : other = token
  · refine ⟨change grant, modify_eq_some_iff.mpr ⟨grant, stored, ?_⟩, keeps here⟩
    rw [if_pos here.symm]
  · refine ⟨grant, modify_eq_some_iff.mpr ⟨grant, stored, ?_⟩, reserved⟩
    rw [if_neg (Ne.symm here)]

/-- **What one operation of someone else does to a reservation.** -/
theorem perform_reserved (stored : registry token = some grant)
    (reserved : Reserved index expiresAt grant) {op : PeerOp PathBuf}
    (foreign : op.Foreign token index) :
    (op.Removes token expiresAt ∧ op.perform x registry token = none) ∨
      (¬ op.Removes token expiresAt ∧ Holds (op.perform x registry) token index expiresAt) := by
  cases op with
  | register now later registered clipId sourceDeviceId authorizedPublicKeys paths ttl =>
      have elsewhere : token ≠ registered.asStr := Ne.symm foreign
      simp only [PeerOp.Removes, PeerOp.perform, PeerFileRegistry.register, Holds,
        Function.update_of_ne elsewhere]
      exact holds_cleanup stored reserved now
  | bindClipId bound clipId =>
      refine .inr ⟨id, holds_modify stored reserved _ _ fun _ => ?_⟩
      exact ⟨reserved.inFlight, reserved.notServed, reserved.inRange, reserved.expires⟩
  | claim now later claimed other request =>
      have outcome := claim_outcome x registry now later claimed other request
      simp only [PeerOp.Removes, PeerOp.perform]
      generalize registry.claim x now later claimed other request = result at outcome ⊢
      cases outcome with
      | available found path claimable =>
          by_cases here : claimed = token
          · subst here
            cases Option.some.inj (stored.symm.trans claimable.stored)
            have live := claimable.live
            have unexpired := claimable.unexpired
            rw [reserved.expires] at live unexpired
            refine .inr ⟨?_, _, Function.update_self .., reserved_claim reserved other⟩
            rintro (expired | ⟨_, late⟩)
            · exact absurd live (not_lt.mpr expired)
            · exact absurd late (not_lt.mpr unexpired)
          · simp only [here, false_and, or_false, Holds, Function.update_of_ne (Ne.symm here)]
            exact holds_cleanup stored reserved now
      | refused answer refuses inTime =>
          rcases holds_cleanup stored reserved now with ⟨expired, gone⟩ | ⟨live, kept⟩
          · exact .inl ⟨.inl expired, gone⟩
          · refine .inr ⟨?_, kept⟩
            rintro (expired | ⟨rfl, late⟩)
            · exact live expired
            · have unexpired := inTime grant stored (reserved.expires.symm ▸ not_le.mp live)
              rw [reserved.expires] at unexpired
              exact absurd late (not_lt.mpr unexpired)
      | expired found present live late =>
          by_cases here : claimed = token
          · subst here
            cases Option.some.inj (stored.symm.trans present)
            exact .inl ⟨.inr ⟨rfl, reserved.expires ▸ late⟩, Function.update_self ..⟩
          · simp only [here, false_and, or_false, Holds, Function.update_of_ne (Ne.symm here)]
            exact holds_cleanup stored reserved now
  | commitServed other i =>
      refine .inr ⟨id, holds_modify stored reserved _ _ fun here => ?_⟩
      exact reserved_commit reserved fun same => foreign (Prod.ext here same)
  | release other i =>
      refine .inr ⟨id, holds_modify stored reserved _ _ fun here => ?_⟩
      exact reserved_release reserved fun same => foreign (Prod.ext here same)

/-- Nobody but a registration brings a removed grant back. -/
theorem perform_none (absent : registry token = none) {op : PeerOp PathBuf}
    (foreign : op.Foreign token index) : op.perform x registry token = none := by
  have modified : ∀ (other : String) (change : PeerFileGrant PathBuf → PeerFileGrant PathBuf),
      registry.modify other change token = none := by
    intro other change
    rw [Option.eq_none_iff_forall_ne_some]
    intro grant stored
    obtain ⟨before, present, -⟩ := modify_eq_some_iff.mp stored
    rw [absent] at present
    cases present
  cases op with
  | register now later registered clipId sourceDeviceId authorizedPublicKeys paths ttl =>
      have elsewhere : token ≠ registered.asStr := Ne.symm foreign
      simp only [PeerOp.perform, PeerFileRegistry.register, Function.update_of_ne elsewhere]
      exact cleanupExpired_none absent now
  | bindClipId bound clipId => exact modified _ _
  | claim now later claimed other request =>
      have outcome := claim_outcome x registry now later claimed other request
      simp only [PeerOp.perform]
      generalize registry.claim x now later claimed other request = result at outcome ⊢
      cases outcome with
      | available found path claimable =>
          have elsewhere : token ≠ claimed := by
            rintro rfl
            exact nomatch absent.symm.trans claimable.stored
          exact (Function.update_of_ne elsewhere ..).trans (cleanupExpired_none absent now)
      | refused answer refuses inTime => exact cleanupExpired_none absent now
      | expired found present live late =>
          have elsewhere : token ≠ claimed := by
            rintro rfl
            exact nomatch absent.symm.trans present
          exact (Function.update_of_ne elsewhere ..).trans (cleanupExpired_none absent now)
  | commitServed other i => exact modified _ _
  | release other i => exact modified _ _

/-- The token has no grant, or one whose index is still reserved. -/
def Kept (registry : PeerFileRegistry PathBuf) (token : String) (index : Nat)
    (expiresAt : Timestamp) : Prop :=
  registry token = none ∨ Holds registry token index expiresAt

theorem performs_none {ops : List (PeerOp PathBuf)}
    (foreign : ∀ op ∈ ops, op.Foreign token index) (absent : registry token = none) :
    ops.foldl (PeerOp.perform x) registry token = none := by
  induction ops generalizing registry with
  | nil => exact absent
  | cons op rest ih =>
      have next := perform_none (x := x) absent (foreign op List.mem_cons_self)
      exact ih (fun other member => foreign other (List.mem_cons_of_mem _ member)) next

/-- **What operations of others do to a reservation**: it stands until one of them
removes the expired grant. -/
theorem performs_reserved {ops : List (PeerOp PathBuf)}
    (foreign : ∀ op ∈ ops, op.Foreign token index)
    (holds : Holds registry token index expiresAt) :
    ((∃ op ∈ ops, op.Removes token expiresAt) ∧
        ops.foldl (PeerOp.perform x) registry token = none) ∨
      ((¬ ∃ op ∈ ops, op.Removes token expiresAt) ∧
        Holds (ops.foldl (PeerOp.perform x) registry) token index expiresAt) := by
  induction ops generalizing registry with
  | nil => exact .inr ⟨fun ⟨_, member, _⟩ => absurd member List.not_mem_nil, holds⟩
  | cons op rest ih =>
      have others : ∀ other ∈ rest, other.Foreign token index := fun other member =>
        foreign other (List.mem_cons_of_mem _ member)
      obtain ⟨grant, stored, reserved⟩ := holds
      rcases perform_reserved (x := x) stored reserved (foreign op List.mem_cons_self) with
        ⟨removes, gone⟩ | ⟨keeps, still⟩
      · have absent := performs_none (x := x) others gone
        exact .inl ⟨⟨op, List.mem_cons_self, removes⟩, absent⟩
      · simp only [List.mem_cons, exists_eq_or_imp, keeps, false_or]
        exact ih others still

theorem performs_kept {ops : List (PeerOp PathBuf)}
    (foreign : ∀ op ∈ ops, op.Foreign token index)
    (kept : Kept registry token index expiresAt) :
    Kept (ops.foldl (PeerOp.perform x) registry) token index expiresAt := by
  rcases kept with absent | holds
  · exact .inl (performs_none foreign absent)
  · rcases performs_reserved foreign holds with ⟨-, gone⟩ | ⟨-, still⟩
    · exact .inl gone
    · exact .inr still

end Reservation

/-! ## The end of the stream -/

section Body

variable {x : SignatureCrates} {registry : PeerFileRegistry PathBuf} {token : String}
  {index : Nat} {expiresAt : Timestamp}

/-- A stream counts down what it yields, and the registry sees only the others. -/
theorem body_run (events : List (BodyEvent PathBuf)) (stream : GrantStream)
    (registry : PeerFileRegistry PathBuf) :
    events.foldl (bodyStep x) (stream, registry) =
      ({ stream with remaining := stream.remaining - yielded events },
        (operations events).foldl (PeerOp.perform x) registry) := by
  induction events generalizing stream registry with
  | nil => rfl
  | cons event rest ih =>
      rw [List.foldl_cons, bodyStep.eq_def]
      cases event with
      | poll poll =>
          cases poll with
          | chunk bytes =>
              simp only [GrantStream.pollNext, ih, yielded, operations, Nat.sub_add_eq]
          | readError => simp only [GrantStream.pollNext, ih, yielded, operations]
          | pending => simp only [GrantStream.pollNext, ih, yielded, operations]
      | other op => simp only [ih, yielded, operations, List.foldl_cons]

/-- However a body ends, its stream is settled once. -/
theorem endBody_eq (finished : Bool) (stream : GrantStream)
    (registry : PeerFileRegistry PathBuf) :
    endBody finished stream registry = (stream.settle registry).2 := by
  cases finished with
  | false => rfl
  | true =>
      have once : ∀ settled : GrantStream, settled.settled = true →
          ∀ registry : PeerFileRegistry PathBuf, settled.settle registry = (settled, registry) := by
        intro settled done registry
        rw [GrantStream.settle, if_pos done]
      simp only [endBody, if_true]
      rw [once]
      unfold GrantStream.settle
      split
      · assumption
      · rfl

/-- Settling a stream settles its reservation. -/
theorem settle_settled (kept : Kept registry token index expiresAt) {remaining : Nat}
    {delivered : Prop} (counted : delivered ↔ remaining = 0) :
    Settled x ((GrantStream.mk token index remaining false).settle registry).2 token index
      delivered := by
  intro grant stored
  simp only [GrantStream.settle, Bool.false_eq_true, if_false] at stored
  have held : ∀ before, registry token = some before → Reserved index expiresAt before := by
    intro before present
    rcases kept with absent | ⟨found, also, reserved⟩
    · exact nomatch absent.symm.trans present
    · cases Option.some.inj (also.symm.trans present)
      exact reserved
  by_cases whole : remaining = 0
  · rw [if_pos whole] at stored
    obtain ⟨before, present, rfl⟩ := modify_eq_some_iff.mp stored
    rw [if_pos rfl] at *
    refine ⟨Finset.notMem_erase _ _, fun _ => Finset.mem_insert_self _ _, fun missing => ?_⟩
    exact absurd (counted.mpr whole) missing
  · rw [if_neg whole] at stored
    have leaves := stored
    obtain ⟨before, present, rfl⟩ := modify_eq_some_iff.mp stored
    have reserved := held before present
    rw [if_pos rfl] at *
    refine ⟨Finset.notMem_erase _ _, fun done => absurd (counted.mp done) whole, ?_⟩
    intro _ now later request live unexpired authorized
    have claimable : Claimable x (registry.release token index) now later token index request
        { before with inFlight := before.inFlight.erase index }
        (before.paths.get ⟨index, reserved.inRange⟩) :=
      { stored := leaves
        live := live
        unexpired := unexpired
        authorized := authorized
        notServed := reserved.notServed
        notInFlight := Finset.notMem_erase _ _
        file := List.getElem?_eq_getElem reserved.inRange }
    simp only [GrantStream.settle, Bool.false_eq_true, if_false, if_neg whole]
    exact ⟨_, claim_available claimable⟩

end Body

/-! ## When a request settles its reservation -/

section Request

variable {x : SignatureCrates} {files : FileAnswers PathBuf} {others : List (PeerOp PathBuf)}
  {registry : PeerFileRegistry PathBuf} {now later : Timestamp} {headers : HeaderMap}
  {token : String} {index : Nat} {request : PeerFileRequest} {path : PathBuf}
  {events : List (BodyEvent PathBuf)} {grant : PeerFileGrant PathBuf}

/-- The registry an available claim leaves, once the others have operated on it. -/
def waited (x : SignatureCrates) (others : List (PeerOp PathBuf))
    (registry : PeerFileRegistry PathBuf) (now later : Timestamp) (token : String) (index : Nat)
    (request : PeerFileRequest) : PeerFileRegistry PathBuf :=
  others.foldl (PeerOp.perform x) (registry.claim x now later token index request).2

/-- What `download_file_inner` does once its claim is available. -/
theorem download_available (parsed : peerFileRequestFromHeaders headers = some request)
    (answered : (registry.claim x now later token index request).1 = .available path) :
    downloadFileInner x files others registry now later headers token index =
      match files.metadata path with
      | none => (.failed, waited x others registry now later token index request)
      | some (isFile, length) =>
          if isFile = true ∧ files.opens path = true then
            if files.responseBuilds path length then
              (.body ⟨token, index, length, false⟩,
                waited x others registry now later token index request)
            else
              (.failed, ((GrantStream.mk token index length false).settle
                (waited x others registry now later token index request)).2)
          else
            (if isFile then .failed else .text 400 "directories are not transferable yet",
              waited x others registry now later token index request) := by
  simp only [downloadFileInner, waited]
  simp only [parsed]
  generalize registry.claim x now later token index request = result at answered ⊢
  obtain ⟨answer, after⟩ := result
  obtain rfl : answer = .available path := answered
  dsimp only
  cases files.metadata path with
  | none => rfl
  | some found =>
      obtain ⟨isFile, length⟩ := found
      cases isFile <;> cases files.opens path <;> rfl

/-- An available claim reserves its index. -/
theorem claim_holds (stored : registry token = some grant)
    (answered : (registry.claim x now later token index request).1 = .available path) :
    Holds (registry.claim x now later token index request).2 token index grant.expiresAt := by
  have outcome := claim_outcome x registry now later token index request
  generalize registry.claim x now later token index request = result at outcome answered ⊢
  cases outcome with
  | available found other claimable =>
      cases Option.some.inj (stored.symm.trans claimable.stored)
      obtain ⟨inRange, -⟩ := List.getElem?_eq_some_iff.mp claimable.file
      exact ⟨_, Function.update_self .., Finset.mem_insert_self _ _, claimable.notServed,
        inRange, rfl⟩
  | refused answer refuses inTime => exact absurd answered (refuses path)
  | expired found present live late => cases answered

/-- **When a download settles its reservation.**  The file can be read and opened, or
the grant expires and is removed while the request waits for the file system. -/
theorem settles_iff (stored : registry token = some grant)
    (parsed : peerFileRequestFromHeaders headers = some request)
    (answered : (registry.claim x now later token index request).1 = .available path)
    (waiting : ∀ op ∈ others, op.Foreign token index)
    (sending : ∀ op ∈ operations events, op.Foreign token index) (finished : Bool) :
    Settled x
        (afterRequest x events finished
          (downloadFileInner x files others registry now later headers token index))
        token index
        (Delivered files path (streamed events
          (downloadFileInner x files others registry now later headers token index))) ↔
      ((∃ length, files.metadata path = some (true, length)) ∧ files.opens path = true) ∨
        ∃ op ∈ others, op.Removes token grant.expiresAt := by
  have held := performs_reserved (x := x) waiting (claim_holds stored answered)
  rw [download_available parsed answered]
  unfold waited
  generalize others.foldl (PeerOp.perform x)
    (registry.claim x now later token index request).2 = after at held ⊢
  -- An early exit leaves the reservation as it is: it is settled only if the grant is gone.
  have leaked : ∀ delivered : Prop, Settled x after token index delivered ↔
      ∃ op ∈ others, op.Removes token grant.expiresAt := by
    intro delivered
    rcases held with ⟨removed, gone⟩ | ⟨stays, found, present, reserved⟩
    · exact iff_of_true (fun _ present => nomatch gone.symm.trans present) removed
    · exact iff_of_false (fun settled => (settled found present).1 reserved.inFlight) stays
  have kept : Kept after token index grant.expiresAt := held.imp And.right And.right
  cases metadata : files.metadata path with
  | none =>
      have unreadable : ¬ ((∃ length, (none : Option (Bool × Nat)) = some (true, length)) ∧
          files.opens path = true) := nofun
      rw [or_iff_right unreadable]
      exact leaked _
  | some found =>
      obtain ⟨isFile, length⟩ := found
      by_cases opened : isFile = true ∧ files.opens path = true
      · have counted : ∀ bytes, Delivered files path bytes ↔ length - bytes = 0 := by
          intro bytes
          rw [Nat.sub_eq_zero_iff_le]
          constructor
          · rintro ⟨_, _, same, yielded⟩
            cases metadata.symm.trans same
            exact yielded
          · exact fun yielded => ⟨isFile, length, metadata, yielded⟩
        refine iff_of_true ?_ (.inl ⟨⟨length, by rw [opened.1]⟩, opened.2⟩)
        simp only [if_pos opened]
        split
        · simp only [afterRequest, streamed, body_run, endBody_eq]
          exact settle_settled (performs_kept sending kept) (counted _)
        · exact settle_settled kept (counted 0)
      · have unreadable : ¬ ((∃ other, some (isFile, length) = some (true, other)) ∧
            files.opens path = true) := by
          rintro ⟨⟨_, same⟩, opens⟩
          cases same
          exact opened ⟨rfl, opens⟩
        rw [or_iff_right unreadable]
        simp only [if_neg opened]
        cases isFile with
        | false => exact leaked _
        | true => exact leaked _

end Request

/-! ## A file that is gone -/

namespace Deleted

open Sample

def registry : PeerFileRegistry String :=
  fun token => if token = "tt_1" then some grant else none

def headers : HeaderMap :=
  [("x-airpaste-clip-id", "clip_1".toUTF8.toList),
   ("x-airpaste-source-device-id", "dev_source".toUTF8.toList),
   ("x-airpaste-requester-device-id", "dev_requester".toUTF8.toList),
   ("x-airpaste-signature-alg", "ed25519-v1".toUTF8.toList),
   ("x-airpaste-signature", claimSignature.toUTF8.toList)]

/-- The file was deleted after it was copied. -/
def gone : FileAnswers String := ⟨fun _ => none, fun _ => false, fun _ _ => true⟩

/-- The file is still there, with three bytes. -/
def present : FileAnswers String := ⟨fun _ => some (true, 3), fun _ => true, fun _ _ => true⟩

theorem headers_parsed : peerFileRequestFromHeaders headers = some request := by
  decide +kernel

theorem claim_answered :
    (registry.claim signatureCrates 1 1 "tt_1" 0 request).1 = .available "/tmp/a.txt" :=
  claim_available ⟨rfl, by decide, by decide, request_authorized, Finset.notMem_empty _,
    Finset.notMem_empty _, rfl⟩

/-- Satisfiable pole: the file is sent in two chunks, and its index is settled. -/
theorem present_settled :
    Settled signatureCrates
      (afterRequest signatureCrates [.poll (.chunk 2), .poll .pending, .poll (.chunk 1)] true
        (downloadFileInner signatureCrates present [] registry 1 1 headers "tt_1" 0)) "tt_1" 0
      (Delivered present "/tmp/a.txt"
        (streamed [.poll (.chunk 2), .poll .pending, .poll (.chunk 1)]
          (downloadFileInner signatureCrates present [] registry 1 1 headers "tt_1" 0))) := by
  have stored : registry "tt_1" = some grant := rfl
  refine (settles_iff stored headers_parsed claim_answered ?_ ?_ true).mpr
    (.inl ⟨⟨3, rfl⟩, rfl⟩)
  · exact fun _ member => absurd member List.not_mem_nil
  · exact fun _ member => absurd member List.not_mem_nil

/-- Refuting pole: the file is gone, the request fails, and its index stays reserved. -/
theorem gone_leaks :
    ¬ ∀ (x : SignatureCrates) (files : FileAnswers String) (others : List (PeerOp String))
      (registry : PeerFileRegistry String) (now later : Timestamp) (headers : HeaderMap)
      (token : String) (index : Nat) (request : PeerFileRequest) (path : String)
      (events : List (BodyEvent String)) (finished : Bool),
      peerFileRequestFromHeaders headers = some request →
      (registry.claim x now later token index request).1 = .available path →
      (∀ op ∈ others, op.Foreign token index) →
      (∀ op ∈ operations events, op.Foreign token index) →
      Settled x
        (afterRequest x events finished
          (downloadFileInner x files others registry now later headers token index))
        token index
        (Delivered files path (streamed events
          (downloadFileInner x files others registry now later headers token index))) := by
  intro settles
  have settled := settles signatureCrates gone [] registry 1 1 headers "tt_1" 0 request
    "/tmp/a.txt" [] false headers_parsed claim_answered
    (fun _ member => absurd member List.not_mem_nil)
    (fun _ member => absurd member List.not_mem_nil)
  rw [download_available headers_parsed claim_answered] at settled
  obtain ⟨grant, stored, reserved⟩ := claim_holds rfl claim_answered
  exact (settled grant stored).1 reserved.inFlight

end Deleted

end AirPaste.Agent
