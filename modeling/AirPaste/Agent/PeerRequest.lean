/-
# Agent.PeerRequest — a file asked of a peer, from the manifest to the grant

The receiver finds the source's address, writes the URL of one file, reads the token and the
index back from it to sign them, and sends the request; the source's router cuts the path up
again.  `downloadFileRoute_sent`: the two ends read the same token and index.

A grant is free at an index while nobody was given it (`FreeAt`).  `honest_download`: whatever
others do to the registry, as long as they are not given this file and the grant has not expired,
a trusted recipient's request is answered with the file that the manifest describes there.
-/
import AirPaste.Agent.Delivery
import AirPaste.Agent.PeerClaims
import AirPaste.Agent.PublishFailure
import AirPaste.Agent.SignedRequest
import AirPaste.Server.Gate
import AirPaste.Theory.Pieces

namespace AirPaste.Agent

open AirPaste.Core
open AirPaste.Protocol
open AirPaste.Server
open AirPaste.Theory

set_option autoImplicit false

/-! ## The receiver -/

/-- `usize::MAX`, of 64 bits. -/
def usizeMax : Nat := 2 ^ 64 - 1

/-- The loop of `usize::from_str`: each step is checked. -/
def parseUsizeDigits : Nat → List Char → Option Nat
  | n, [] => some n
  | n, c :: rest =>
      if Text.isAsciiDigit c then
        let next := n * 10 + (c.toNat - '0'.toNat)
        if n * 10 ≤ usizeMax ∧ next ≤ usizeMax then parseUsizeDigits next rest else none
      else none

/-- `usize::from_str`. -/
def parseUsize : List Char → Option Nat
  | [] => none
  | ['+'] => none
  | '+' :: digits => parseUsizeDigits 0 digits
  | digits => parseUsizeDigits 0 digits

/-- The URL that `download_remote_files` asks for. -/
def peerFileUrl (peerBaseUrl : String) (token : TransferToken) (index : Nat) : String :=
  String.ofList (Text.dropEnd (· == '/') peerBaseUrl.toList) ++ "/v1/files/" ++ token.asStr ++
    "/" ++ toString index

def peerFileUrlParts (url : String) : Except String (TransferToken × Nat) :=
  match (Text.splitChars (· == '/') (Text.dropEnd (· == '/') url.toList)).reverse with
  | [] => .error "peer file URL missing index"
  | index :: parts => do
      let index ← okOr (parseUsize index) "peer file URL index must be a number"
      match parts with
      | [] => .error "peer file URL missing transfer token"
      | transferToken :: _ => return (⟨String.ofList transferToken⟩, index)

/-- `DeviceIdentity::sign_peer_file_request`. -/
def signPeerFileRequest (key : SigningKey) (clipId : ClipId) (sourceDeviceId : DeviceId)
    (requesterDeviceId : DeviceId) (transferToken : TransferToken) (index : Nat) : String :=
  base64Encode (key (peerFileSigningMessage clipId.asStr sourceDeviceId.asStr
    requesterDeviceId.asStr transferToken.asStr index))

/-- A `GET` of a file, as the client hands it over. -/
structure PeerFileGet where
  url : String
  headers : List (String × String)
  deriving DecidableEq

def openPeerFileDownload (url : String) (clipId : ClipId) (sourceDeviceId : DeviceId)
    (requesterDeviceId : DeviceId) (key : SigningKey) : Except String PeerFileGet := do
  let (transferToken, index) ← peerFileUrlParts url
  let signature :=
    signPeerFileRequest key clipId sourceDeviceId requesterDeviceId transferToken index
  return ⟨url,
    [("x-airpaste-clip-id", clipId.asStr),
     ("x-airpaste-source-device-id", sourceDeviceId.asStr),
     ("x-airpaste-requester-device-id", requesterDeviceId.asStr),
     ("x-airpaste-signature-alg", peerFileSignatureAlg),
     ("x-airpaste-signature", signature)]⟩

/-- The request for one file of a clip, at this base URL. -/
def requestPeerFile (peerBaseUrl : String) (pending : PendingFileClip) (index : Nat)
    (requesterDeviceId : DeviceId) (key : SigningKey) : Except String PeerFileGet :=
  openPeerFileDownload (peerFileUrl peerBaseUrl pending.fileClip.transferToken index)
    pending.clipId pending.sourceDeviceId requesterDeviceId key

/-! ## The source -/

/-- The route `/v1/files/:token/:index` with its `Path` extractor, which decodes the segments. -/
def downloadFileRoute (pathParam : String → Option String) (received : HttpRequest) :
    Option (String × Nat) :=
  if received.method ≠ "GET" ∧ received.method ≠ "HEAD" then none
  else
    match segmentsBelow "/v1/files/" received.path with
    | [token, index] =>
        if token.isEmpty || index.isEmpty then none
        else do
          let token ← pathParam (String.ofList token)
          let index ← pathParam (String.ofList index)
          let index ← parseUsize index.toList
          return (token, index)
    | _ => none

/-- `download_file`, for the requests that reach it. -/
def downloadFile {PathBuf : Type} (x : SignatureCrates) (pathParam : String → Option String)
    (files : FileAnswers PathBuf) (others : List (PeerOp PathBuf))
    (registry : PeerFileRegistry PathBuf) (now later : Timestamp) (received : HttpRequest) :
    Option (Download × PeerFileRegistry PathBuf) :=
  (downloadFileRoute pathParam received).map fun (token, index) =>
    downloadFileInner x files others registry now later received.headers token index

/-- What a client takes for the path of an `http` URL: from the first slash of what follows the
scheme. -/
def urlPath (url : String) : String :=
  match Text.stripPrefix url "http://" with
  | none => ""
  | some rest => String.ofList (rest.toList.dropWhile (· ≠ '/'))

/-- The request at the peer: the path of its URL, and the client's headers among those it
carries. -/
structure PeerReceives (sent : PeerFileGet) (received : HttpRequest) : Prop where
  method : received.method = "GET"
  path : received.path = urlPath sent.url
  headers : ∀ header ∈ sent.headers,
    headerGet received.headers header.1 = some (headerBytes header.2)

/-- An `http` URL of an authority alone, and possibly slashes. -/
def IsPeerBase (url : String) : Prop :=
  ∃ authority, Text.dropEnd (· == '/') url.toList = "http://".toList ++ authority ∧
    '/' ∉ authority

/-! ## The two ends read the same URL -/

theorem isAsciiDigit_of_mem_toString {n : Nat} {c : Char} (member : c ∈ (toString n).toList) :
    Text.isAsciiDigit c = true := by
  rw [Nat.toString_eq_ofList_toDigits, String.toList_ofList] at member
  have digit := Nat.isDigit_of_mem_toDigits (by decide) (by decide) member
  simp only [Char.isDigit, Bool.and_eq_true, decide_eq_true_eq] at digit
  simp only [Text.isAsciiDigit, Bool.and_eq_true, decide_eq_true_eq]
  exact digit

theorem toString_ne_nil (n : Nat) : (toString n).toList ≠ [] := by
  rw [Nat.toString_eq_ofList_toDigits, String.toList_ofList]
  exact Nat.toDigits_ne_nil

/-- A number grows with each of its digits. -/
theorem le_ofDigitChars (chars : List Char) (n : Nat) : n ≤ Nat.ofDigitChars 10 chars n := by
  induction chars generalizing n with
  | nil => rw [Nat.ofDigitChars_nil]
  | cons c rest ih =>
      rw [Nat.ofDigitChars_cons]
      refine Nat.le_trans ?_ (ih _)
      omega

theorem parseUsizeDigits_eq {chars : List Char} (digits : ∀ c ∈ chars, Text.isAsciiDigit c = true)
    {n : Nat} (fits : Nat.ofDigitChars 10 chars n ≤ usizeMax) :
    parseUsizeDigits n chars = some (Nat.ofDigitChars 10 chars n) := by
  induction chars generalizing n with
  | nil => rw [Nat.ofDigitChars_nil, parseUsizeDigits]
  | cons c rest ih =>
      rw [Nat.ofDigitChars_cons, Nat.mul_comm] at *
      have next : n * 10 + (c.toNat - '0'.toNat) ≤ usizeMax := (le_ofDigitChars rest _).trans fits
      rw [parseUsizeDigits, if_pos (digits c List.mem_cons_self)]
      dsimp only
      rw [if_pos ⟨(Nat.le_add_right _ _).trans next, next⟩]
      exact ih (fun d member => digits d (List.mem_cons_of_mem _ member)) fits

/-- An index is read back from the digits it was written in. -/
theorem parseUsize_toString {n : Nat} (fits : n ≤ usizeMax) :
    parseUsize (toString n).toList = some n := by
  have digits : ∀ c ∈ (toString n).toList, Text.isAsciiDigit c = true :=
    fun c member => isAsciiDigit_of_mem_toString member
  have value : Nat.ofDigitChars 10 (toString n).toList 0 = n := by
    rw [Nat.toString_eq_ofList_toDigits, String.toList_ofList]
    exact Nat.ofDigitChars_ten_toDigits
  have read := parseUsizeDigits_eq digits (n := 0) (value.symm ▸ fits)
  rw [value] at read
  unfold parseUsize
  split
  · rename_i empty
    exact absurd empty (toString_ne_nil n)
  · rename_i plus
    exact absurd (digits '+' (plus ▸ List.mem_cons_self)) (by decide)
  · rename_i plus
    exact absurd (digits '+' (plus ▸ List.mem_cons_self)) (by decide)
  · exact read

section Url

variable {base : String} {token : TransferToken} {index : Nat}

/-- The path of a file's URL. -/
def peerFilePath (token : TransferToken) (index : Nat) : String :=
  "/v1/files/" ++ token.asStr ++ "/" ++ toString index

theorem slash_toString (n : Nat) : ∀ c ∈ (toString n).toList, (c == '/') = false := by
  intro c member
  refine beq_eq_false_iff_ne.mpr ?_
  rintro rfl
  exact absurd (isAsciiDigit_of_mem_toString member) (by decide)

/-- The client signs for the token and the index that the URL was built from. -/
theorem peerFileUrlParts_peerFileUrl (base : String) (plain : '/' ∉ token.asStr.toList)
    (fits : index ≤ usizeMax) :
    peerFileUrlParts (peerFileUrl base token index) = .ok (token, index) := by
  have noSlash : ∀ c ∈ token.asStr.toList, (c == '/') = false := fun c member =>
    beq_eq_false_iff_ne.mpr fun same => plain (same ▸ member)
  have url : (peerFileUrl base token index).toList =
      (Text.dropEnd (· == '/') base.toList ++ "/v1/files".toList) ++ '/' ::
        (token.asStr.toList ++ '/' :: (toString index).toList) := by
    have files : "/v1/files/".toList = "/v1/files".toList ++ ['/'] := by decide
    have slash : "/".toList = ['/'] := by decide
    simp only [peerFileUrl, String.toList_append, String.toList_ofList, files, slash,
      List.append_assoc, List.cons_append, List.nil_append]
  have kept : Text.dropEnd (· == '/') (peerFileUrl base token index).toList =
      (peerFileUrl base token index).toList := by
    obtain ⟨digits, last, same⟩ := List.eq_nil_or_concat (toString index).toList |>.resolve_left
      (toString_ne_nil index)
    have lastKept := slash_toString index last (by rw [same]; simp)
    rw [url, same, List.concat_eq_append, ← List.cons_append, ← List.append_assoc,
      ← List.cons_append, ← List.append_assoc]
    rw [Text.dropEnd_concat, lastKept, if_neg Bool.false_ne_true]
  rw [peerFileUrlParts, kept, url, Text.splitChars_sep (by rfl), Text.splitChars_sep (by rfl),
    Text.splitChars_single noSlash, Text.splitChars_single (slash_toString index),
    List.reverse_append, List.reverse_append]
  simp only [List.reverse_cons, List.reverse_nil, List.nil_append, List.cons_append,
    parseUsize_toString fits, String.ofList_toList]
  rfl

/-- What the peer receives is the path of the file. -/
theorem urlPath_peerFileUrl (atBase : IsPeerBase base) :
    urlPath (peerFileUrl base token index) = peerFilePath token index := by
  obtain ⟨authority, same, plain⟩ := atBase
  have url : peerFileUrl base token index =
      "http://" ++ (String.ofList authority ++ peerFilePath token index) := by
    apply String.toList_injective
    simp only [peerFileUrl, peerFilePath, same, String.toList_append, String.toList_ofList,
      List.append_assoc]
  have path : (peerFilePath token index).toList =
      '/' :: ("v1/files/" ++ token.asStr ++ "/" ++ toString index).toList := by
    have files : "/v1/files/".toList = '/' :: "v1/files/".toList := by decide
    simp only [peerFilePath, String.toList_append, files, List.cons_append]
  have before : authority.dropWhile (fun c => decide (c ≠ '/')) = [] := by
    refine List.dropWhile_eq_nil_iff.mpr fun c member => decide_eq_true ?_
    rintro rfl
    exact plain member
  rw [urlPath, url, Text.stripPrefix_append]
  dsimp only
  rw [String.toList_append, String.toList_ofList, path, List.dropWhile_append, before,
    List.isEmpty_nil, if_pos rfl, List.dropWhile_cons_of_neg (by simp), ← path,
    String.ofList_toList]

/-- A text that percent-decoding leaves as it is. -/
def PlainSegment (text : String) : Prop :=
  text ≠ "" ∧ ∀ c ∈ text.toList, Text.isAsciiAlphanumeric c = true ∨ c = '_'

theorem PlainSegment.slash {text : String} (plain : PlainSegment text) : '/' ∉ text.toList := by
  intro member
  rcases plain.2 '/' member with wrong | wrong
  · exact absurd wrong (by decide)
  · exact absurd wrong (by decide)

theorem plain_toString (n : Nat) : PlainSegment (toString n) := by
  refine ⟨fun empty => toString_ne_nil n (by rw [empty]; rfl), fun c member => .inl ?_⟩
  rw [Text.isAsciiAlphanumeric, isAsciiDigit_of_mem_toString member]
  rfl

theorem plain_token {ulid : String} (drawn : IsUlid ulid) :
    PlainSegment (TransferToken.new ulid).asStr := by
  have digits : ulidAlphabet.all Text.isAsciiAlphanumeric = true := by decide +kernel
  have pre : ∀ c ∈ ['t', 't', '_'], Text.isAsciiAlphanumeric c = true ∨ c = '_' := by
    simp only [List.mem_cons, List.not_mem_nil, or_false]
    rintro c (rfl | rfl | rfl)
    · exact .inl rfl
    · exact .inl rfl
    · exact .inr rfl
  unfold PlainSegment TransferToken.new
  refine ⟨fun empty => ?_, fun c member => ?_⟩
  · have chars := congrArg String.toList empty
    rw [String.toList_append] at chars
    exact absurd (List.append_eq_nil_iff.mp chars).1 (by decide)
  · rw [String.toList_append] at member
    rcases List.mem_append.mp member with member | member
    · exact pre c member
    · exact .inl (List.all_eq_true.mp digits c (drawn.2 c member))

/-- The source reads the token and the index that the client asked for. -/
theorem downloadFileRoute_sent {pathParam : String → Option String}
    (decodes : ∀ text, PlainSegment text → pathParam text = some text)
    (plain : PlainSegment token.asStr) (fits : index ≤ usizeMax) {received : HttpRequest}
    (method : received.method = "GET") (path : received.path = peerFilePath token index) :
    downloadFileRoute pathParam received = some (token.asStr, index) := by
  have noSlash : ∀ c ∈ token.asStr.toList, (c == '/') = false := fun c member =>
    beq_eq_false_iff_ne.mpr fun same => plain.slash (same ▸ member)
  have below : segmentsBelow "/v1/files/" received.path =
      [token.asStr.toList, (toString index).toList] := by
    have slash : "/".toList = ['/'] := by decide
    rw [path, peerFilePath, String.append_assoc, String.append_assoc, segmentsBelow,
      Text.stripPrefix_append]
    dsimp only
    rw [String.toList_append, String.toList_append, slash, List.singleton_append,
      Text.splitChars_sep (by rfl), Text.splitChars_single noSlash,
      Text.splitChars_single (slash_toString index)]
    rfl
  have named : token.asStr.toList.isEmpty = false := by
    rw [List.isEmpty_eq_false_iff]
    exact fun empty => plain.1 (String.toList_injective empty)
  have numbered : (toString index).toList.isEmpty = false := by
    rw [List.isEmpty_eq_false_iff]
    exact toString_ne_nil index
  rw [downloadFileRoute, if_neg fun wrong => wrong.1 method, below]
  dsimp only
  rw [named, numbered, String.ofList_toList, String.ofList_toList, decodes _ plain,
    decodes _ (plain_toString index)]
  dsimp only [Option.bind_eq_bind, Option.bind_some]
  rw [parseUsize_toString fits]
  rfl

end Url

/-! ## A grant that nobody was given -/

section Free

variable {PathBuf : Type} {x : SignatureCrates} {token : String} {index : Nat}
  {terms : GrantTerms PathBuf} {clipId : ClipId} {timed : TimedRegistry PathBuf}

/-- Until it expires, the token has a grant on these terms, whose index nobody was given. -/
def FreeAt (terms : GrantTerms PathBuf) (token : String) (index : Nat)
    (timed : TimedRegistry PathBuf) : Prop :=
  timed.clock < terms.expiresAt → ∃ grant, timed.registry token = some grant ∧
    grant.toGrantTerms = terms ∧ index ∉ grant.servedIndexes ∧ index ∉ grant.inFlight

/-- The operation leaves the token to its publisher, and is not given the file. -/
def Spares (x : SignatureCrates) (clipId : ClipId) (token : String) (index : Nat)
    (timed : TimedRegistry PathBuf) : PeerOp PathBuf → Prop
  | .register _ _ registered _ _ _ _ _ => registered.asStr ≠ token
  | .bindClipId bound other => bound.asStr = token → other = clipId
  | .claim now later claimed i request => (claimed, i) = (token, index) →
      ∀ path, (timed.registry.claim x now later claimed i request).1 ≠ .available path
  | .commitServed other i => (other, i) ≠ (token, index)
  | .release other i => (other, i) ≠ (token, index)

/-- A cleanup before the expiry leaves the grant. -/
theorem free_cleanup {registry : PeerFileRegistry PathBuf} {clock now : Timestamp}
    (free : FreeAt terms token index ⟨clock, registry⟩) (inOrder : clock ≤ now)
    (live : now < terms.expiresAt) :
    ∃ grant, cleanupExpired now registry token = some grant ∧ grant.toGrantTerms = terms ∧
      index ∉ grant.servedIndexes ∧ index ∉ grant.inFlight := by
  obtain ⟨grant, stored, same, unserved, unheld⟩ := free (lt_of_le_of_lt inOrder live)
  exact ⟨grant, cleanupExpired_eq_some_iff.mpr ⟨stored, same ▸ live⟩, same, unserved, unheld⟩

/-- A change of one grant that keeps the terms and gives the index to nobody. -/
theorem free_modify (free : FreeAt terms token index timed) {other : String}
    {change : PeerFileGrant PathBuf → PeerFileGrant PathBuf}
    (keeps : other = token → ∀ grant, grant.toGrantTerms = terms → index ∉ grant.servedIndexes →
      index ∉ grant.inFlight → (change grant).toGrantTerms = terms ∧
        index ∉ (change grant).servedIndexes ∧ index ∉ (change grant).inFlight) :
    FreeAt terms token index ⟨timed.clock, timed.registry.modify other change⟩ := by
  intro live
  obtain ⟨grant, stored, same, unserved, unheld⟩ := free live
  by_cases here : token = other
  · refine ⟨change grant, modify_eq_some_iff.mpr ⟨grant, stored, (if_pos here).symm⟩, ?_⟩
    exact keeps here.symm grant same unserved unheld
  · exact ⟨grant, modify_eq_some_iff.mpr ⟨grant, stored, (if_neg here).symm⟩, same, unserved,
      unheld⟩

/-- **An operation that spares the file leaves it free.** -/
theorem free_step (bound : terms.clipId = some clipId) (free : FreeAt terms token index timed)
    (op : PeerOp PathBuf) (inOrder : timed.InOrder op)
    (spares : Spares x clipId token index timed op) :
    FreeAt terms token index (timed.step x op) := by
  cases op with
  | register now later registered _ _ _ _ _ =>
      intro live
      obtain ⟨grant, stored, kept⟩ :=
        free_cleanup free inOrder.1 (lt_of_le_of_lt inOrder.2 live)
      exact ⟨grant, update_eq_some_iff.mpr (.inr ⟨Ne.symm spares, stored⟩), kept⟩
  | bindClipId given other =>
      refine free_modify free fun here grant same unserved unheld => ⟨?_, unserved, unheld⟩
      rw [spares here, ← bound, ← same]
  | commitServed other i =>
      refine free_modify free fun here grant same unserved unheld => ⟨same, ?_, ?_⟩
      · intro member
        rcases Finset.mem_insert.mp member with wrong | served
        · exact spares (Prod.ext here wrong.symm)
        · exact unserved served
      · exact fun member => unheld (Finset.mem_of_mem_erase member)
  | release other i =>
      refine free_modify free fun here grant same unserved unheld => ⟨same, unserved, ?_⟩
      exact fun member => unheld (Finset.mem_of_mem_erase member)
  | claim now later claimed i request =>
      intro live
      obtain ⟨grant, stored, same, unserved, unheld⟩ :=
        free_cleanup free inOrder.1 (lt_of_le_of_lt inOrder.2 live)
      have outcome := claim_outcome x timed.registry now later claimed i request
      have given := spares
      simp only [TimedRegistry.step, PeerOp.perform, Spares] at live given ⊢
      generalize timed.registry.claim x now later claimed i request = result at outcome given ⊢
      cases outcome with
      | available reserved path claimable =>
          by_cases here : token = claimed
          · subst here
            have kept := cleanupExpired_eq_some_iff.mpr ⟨claimable.stored, claimable.live⟩
            cases kept.symm.trans stored
            refine ⟨_, update_eq_some_iff.mpr (.inl ⟨rfl, rfl⟩), same, unserved, ?_⟩
            intro member
            rcases Finset.mem_insert.mp member with rfl | held
            · exact given rfl path rfl
            · exact unheld held
          · exact ⟨grant, update_eq_some_iff.mpr (.inr ⟨here, stored⟩), same, unserved, unheld⟩
      | refused answer refuses inTime => exact ⟨grant, stored, same, unserved, unheld⟩
      | expired gone also alive late =>
          by_cases here : token = claimed
          · subst here
            have kept := cleanupExpired_eq_some_iff.mpr ⟨also, alive⟩
            cases kept.symm.trans stored
            rw [← same] at live
            exact absurd live (not_lt.mpr (le_of_lt late))
          · exact ⟨grant, (Function.update_of_ne here _ _).trans stored, same, unserved, unheld⟩

theorem free_run {ops : List (PeerOp PathBuf)} (bound : terms.clipId = some clipId)
    (free : FreeAt terms token index timed)
    (inOrder : Along (TimedRegistry.step x) TimedRegistry.InOrder timed ops)
    (spares : Along (TimedRegistry.step x) (Spares x clipId token index) timed ops) :
    FreeAt terms token index (runFrom (TimedRegistry.step x) timed ops) := by
  induction ops generalizing timed with
  | nil => exact free
  | cons op rest ih =>
      exact ih (free_step bound free op inOrder.1 spares.1) inOrder.2 spares.2

end Free

/-! ## An honest download -/

/-- The device is trusted under a key that is its own: what it signs verifies, and its signatures
and their encoding are those of the algorithms. -/
structure TrustedPeer (x : SignatureCrates) (keys : DeviceId → Option String)
    (deviceId : DeviceId) (key : SigningKey) : Prop where
  publicKey : ∃ encoded publicKey, keys deviceId = some encoded ∧
    x.base64Decode encoded = some publicKey ∧ publicKey.length = 32 ∧
    x.isVerifyingKey publicKey = true ∧
    ∀ message, x.ed25519Verify publicKey message (key message) = true
  signature : ∀ message, (key message).length = 64
  decodes : ∀ bytes, x.base64Decode (base64Encode bytes) = some bytes

/-- The entry is of the file collected, with the digest of its bytes. -/
def Describes {N : Type} (source : SourceFiles N) (sha256 : List UInt8 → List UInt8)
    (entry : FileEntry) (file : Collected N) : Prop :=
  ∃ bytes, source.contents file.2 = some bytes ∧ entry.sha256 = some (hexLower (sha256 bytes))

section Manifest

variable {N : Type} {source : SourceFiles N} {sha256 : List UInt8 → List UInt8}
  {filePolicy : FileTransferPolicy} {url : String} {answers : PublishAnswers}
  {paths : List (LexPath N)}

theorem manifestEntries_describe {collected : List (Collected N)} {start total : Nat}
    {entries : List FileEntry}
    (listed : manifestEntries source sha256 filePolicy collected start = .ok (entries, total)) :
    List.Forall₂ (Describes source sha256) entries collected := by
  induction collected generalizing start total entries with
  | nil =>
      cases listed
      exact .nil
  | cons file rest ih =>
      obtain ⟨relativePath, sourcePath⟩ := file
      simp only [manifestEntries, bind_ok_iff] at listed
      obtain ⟨_, _, _, _, bytes, read, ⟨later, total'⟩, listedRest, same⟩ := listed
      cases same
      exact .cons ⟨bytes, okOr_ok_iff.mp read, rfl⟩ (ih listedRest)

theorem fileManifest_describes {servedPaths : List (LexPath N)} {fileClip : FileClip}
    (listed : fileManifest source sha256 filePolicy url answers paths =
      .ok (some (fileClip, servedPaths))) {index : Nat} (within : index < fileClip.files.length) :
    ∃ path bytes, servedPaths[index]? = some path ∧ source.contents path = some bytes ∧
      fileClip.files[index].sha256 = some (hexLower (sha256 bytes)) := by
  unfold fileManifest at listed
  obtain ⟨collected, -, listed⟩ := bind_ok_iff.mp listed
  split at listed
  · cases listed
  · obtain ⟨_, _, listed⟩ := bind_ok_iff.mp listed
    obtain ⟨⟨entries, total⟩, entriesListed, same⟩ := bind_ok_iff.mp listed
    cases same
    have described := manifestEntries_describe entriesListed
    have also : index < collected.length := described.length_eq ▸ within
    obtain ⟨bytes, read, digest⟩ := described.get within also
    refine ⟨collected[index].2, bytes, ?_, read, digest⟩
    rw [List.getElem?_map, List.getElem?_eq_getElem also]
    rfl

/-- What a publication that succeeds leaves in the registry: a grant that is free everywhere. -/
theorem publishFileManifest_free {deviceId : DeviceId}
    {registry after : PeerFileRegistry (LexPath N)} {fileClip : FileClip} {clipId : ClipId}
    {keys : DeviceId → Option String}
    (published : publishFileManifest source sha256 deviceId registry filePolicy url answers paths =
      (.ok (some fileClip), after))
    (created : answers.createClip fileClip = some clipId) (listed : answers.trustedKeys = some keys)
    (index : Nat) :
    ∃ servedPaths,
      fileManifest source sha256 filePolicy url answers paths = .ok (some (fileClip, servedPaths)) ∧
        FreeAt ⟨some clipId, deviceId, keys, servedPaths,
            answers.registerLater + filePolicy.transferTokenTtl⟩
          answers.transferToken.asStr index ⟨answers.registerLater, after⟩ := by
  unfold publishFileManifest at published
  cases manifest : fileManifest source sha256 filePolicy url answers paths with
  | error message =>
      rw [manifest] at published
      cases published
  | ok result =>
      rw [manifest] at published
      rcases result with _ | ⟨made, servedPaths⟩
      · cases published
      · rw [listed] at published
        dsimp only at published
        cases made' : answers.createClip made with
        | none =>
            rw [made'] at published
            cases published
        | some other =>
            rw [made'] at published
            cases published
            cases made'.symm.trans created
            refine ⟨servedPaths, rfl, fun live => ?_⟩
            let grant : PeerFileGrant (LexPath N) :=
              ⟨⟨some clipId, deviceId, keys, servedPaths,
                answers.registerLater + filePolicy.transferTokenTtl⟩, ∅, ∅⟩
            refine ⟨grant, ?_, rfl, Finset.notMem_empty index, Finset.notMem_empty index⟩
            rw [fileManifest_token manifest]
            exact modify_eq_some_iff.mpr
              ⟨_, update_eq_some_iff.mpr (.inl ⟨rfl, rfl⟩), (if_pos rfl).symm⟩

end Manifest

section Honest

variable {x : SignatureCrates} {keys : DeviceId → Option String} {requesterDeviceId : DeviceId}
  {key : SigningKey} {pending : PendingFileClip} {base : String} {index : Nat}

/-- The claim that an honest request makes. -/
def honestClaim (key : SigningKey) (pending : PendingFileClip) (requesterDeviceId : DeviceId)
    (index : Nat) : PeerFileRequest where
  clipId := pending.clipId.asStr
  sourceDeviceId := pending.sourceDeviceId.asStr
  requesterDeviceId := requesterDeviceId.asStr
  signatureAlg := peerFileSignatureAlg
  signature := signPeerFileRequest key pending.clipId pending.sourceDeviceId requesterDeviceId
    pending.fileClip.transferToken index

theorem headerValue_sent {headers : HeaderMap} {name value : String} (visible : Visible value)
    (carried : headerGet headers name = some (headerBytes value)) :
    headerValue headers name = some value := by
  have read := headerValue_visible visible carried
  rw [Server.headerValue, okOr_ok_iff] at read
  exact read

/-- The client builds the request that its signature is for. -/
theorem requestPeerFile_ok (base : String) (pending : PendingFileClip)
    (requesterDeviceId : DeviceId) (key : SigningKey)
    (plain : '/' ∉ pending.fileClip.transferToken.asStr.toList)
    (fits : index ≤ usizeMax) :
    ∃ sent, requestPeerFile base pending index requesterDeviceId key = .ok sent ∧
      sent.url = peerFileUrl base pending.fileClip.transferToken index ∧
      sent.headers =
        [("x-airpaste-clip-id", pending.clipId.asStr),
         ("x-airpaste-source-device-id", pending.sourceDeviceId.asStr),
         ("x-airpaste-requester-device-id", requesterDeviceId.asStr),
         ("x-airpaste-signature-alg", peerFileSignatureAlg),
         ("x-airpaste-signature",
          (honestClaim key pending requesterDeviceId index).signature)] := by
  unfold requestPeerFile openPeerFileDownload
  rw [peerFileUrlParts_peerFileUrl base plain fits]
  exact ⟨_, rfl, rfl, rfl⟩

/-- The source reads the honest claim from the headers. -/
theorem peerFileRequestFromHeaders_sent (trusted : TrustedPeer x keys requesterDeviceId key)
    (clip : Visible pending.clipId.asStr) (source : Visible pending.sourceDeviceId.asStr)
    (requester : Visible requesterDeviceId.asStr) {sent : PeerFileGet} {received : HttpRequest}
    (made : requestPeerFile base pending index requesterDeviceId key = .ok sent)
    (plain : '/' ∉ pending.fileClip.transferToken.asStr.toList) (fits : index ≤ usizeMax)
    (receives : PeerReceives sent received) :
    peerFileRequestFromHeaders received.headers =
      some (honestClaim key pending requesterDeviceId index) := by
  obtain ⟨_, same, -, headers⟩ :=
    requestPeerFile_ok base pending requesterDeviceId key plain fits
  cases made.symm.trans same
  have carried := receives.headers
  rw [headers] at carried
  simp only [List.forall_mem_cons] at carried
  obtain ⟨hasClip, hasSource, hasRequester, hasAlg, hasSignature, -⟩ := carried
  have alg : Visible peerFileSignatureAlg := ⟨by decide, visibleChar_of_all (by decide)⟩
  have signed : Visible (honestClaim key pending requesterDeviceId index).signature := by
    refine visible_base64Encode fun empty => ?_
    have length := trusted.signature (peerFileSigningMessage pending.clipId.asStr
      pending.sourceDeviceId.asStr requesterDeviceId.asStr pending.fileClip.transferToken.asStr
      index)
    rw [empty] at length
    cases length
  unfold peerFileRequestFromHeaders
  rw [headerValue_sent clip hasClip, headerValue_sent source hasSource,
    headerValue_sent requester hasRequester, headerValue_sent alg hasAlg,
    headerValue_sent signed hasSignature]
  rfl

/-- It passes every check of a grant for the clip. -/
theorem authorized_honest {PathBuf : Type} {grant : GrantTerms PathBuf}
    (trusted : TrustedPeer x keys requesterDeviceId key) (known : grant.authorizedPublicKeys = keys)
    (bound : grant.clipId = some pending.clipId)
    (sourced : grant.sourceDeviceId = pending.sourceDeviceId)
    (named : requesterDeviceId.asStr ≠ "") (other : requesterDeviceId ≠ pending.sourceDeviceId) :
    Authorized x grant pending.fileClip.transferToken.asStr index
      (honestClaim key pending requesterDeviceId index) := by
  obtain ⟨encoded, publicKey, listed, decoded, length, valid, verifies⟩ := trusted.publicKey
  refine ⟨?_, ?_, named, ?_, rfl, encoded, ?_, ?_⟩
  · intro clipId same
    cases bound.symm.trans same
    rfl
  · rw [sourced]
    rfl
  · exact fun same => other (DeviceId.asStr_injective same)
  · rw [known]
    exact listed
  · have opened : verifyPeerFileRequest x encoded
        (honestClaim key pending requesterDeviceId index).signature pending.clipId.asStr
        pending.sourceDeviceId.asStr requesterDeviceId.asStr
        pending.fileClip.transferToken.asStr index = .ok () := by
      simp only [verifyPeerFileRequest, bind_ok_iff, ensure_ok_iff, okOr_ok_iff]
      refine ⟨publicKey, decoded, (), beq_iff_eq.mpr length, (), valid, _, trusted.decodes _, (),
        beq_iff_eq.mpr (trusted.signature _), verifies _⟩
    exact congrArg Except.isOk opened

/-- An honest request finds the file of a grant that is free at its index. -/
theorem claim_honest {PathBuf : Type} (pending : PendingFileClip) {terms : GrantTerms PathBuf}
    {timed : TimedRegistry PathBuf}
    (trusted : TrustedPeer x terms.authorizedPublicKeys requesterDeviceId key)
    (bound : terms.clipId = some pending.clipId)
    (sourced : terms.sourceDeviceId = pending.sourceDeviceId)
    (named : requesterDeviceId.asStr ≠ "") (other : requesterDeviceId ≠ pending.sourceDeviceId)
    (free : FreeAt terms pending.fileClip.transferToken.asStr index timed) {now later : Timestamp}
    (reads : timed.clock ≤ now) (live : now < terms.expiresAt) (unexpired : later ≤ terms.expiresAt)
    {path : PathBuf} (file : terms.paths[index]? = some path) :
    (timed.registry.claim x now later pending.fileClip.transferToken.asStr index
      (honestClaim key pending requesterDeviceId index)).1 = .available path := by
  obtain ⟨grant, stored, rfl, unserved, unheld⟩ := free (lt_of_le_of_lt reads live)
  exact claim_available ⟨stored, live, unexpired,
    authorized_honest trusted rfl bound sourced named other, unserved, unheld, file⟩

/-- The file system finds the file, and the response can be built. -/
structure Readable {PathBuf : Type} (files : FileAnswers PathBuf) (path : PathBuf)
    (length : Nat) : Prop where
  metadata : files.metadata path = some (true, length)
  opens : files.opens path = true
  builds : files.responseBuilds path length = true

/-- A claim that is given its file is answered with the file's bytes. -/
theorem downloadFileInner_body {PathBuf : Type} {files : FileAnswers PathBuf}
    {others : List (PeerOp PathBuf)} {registry : PeerFileRegistry PathBuf} {now later : Timestamp}
    {headers : HeaderMap} {token : String} {request : PeerFileRequest} {path : PathBuf}
    {length : Nat} (read : peerFileRequestFromHeaders headers = some request)
    (given : (registry.claim x now later token index request).1 = .available path)
    (readable : Readable files path length) :
    (downloadFileInner x files others registry now later headers token index).1 =
      .body ⟨token, index, length, false⟩ := by
  unfold downloadFileInner
  rw [read]
  dsimp only
  generalize registry.claim x now later token index request = result at given ⊢
  obtain ⟨answer, after⟩ := result
  cases given
  dsimp only
  rw [readable.metadata]
  dsimp only
  rw [readable.opens, readable.builds]
  rfl

end Honest

section Download

variable {N : Type} {source : SourceFiles N} {sha256 : List UInt8 → List UInt8}
  {filePolicy : FileTransferPolicy} {url : String} {answers : PublishAnswers}
  {paths : List (LexPath N)} {x : SignatureCrates} {pathParam : String → Option String}
  {deviceId requesterDeviceId : DeviceId} {registry after : PeerFileRegistry (LexPath N)}
  {fileClip : FileClip} {clipId : ClipId} {keys : DeviceId → Option String} {ulid : String}
  {key : SigningKey} {ops : List (PeerOp (LexPath N))} {index : Nat} {now later : Timestamp}
  {base : String}

/-- **Whatever others do, an honest recipient gets the file.**  Devices publish and are trusted;
others operate on the registry as they like, as long as they are not given this file. -/
theorem honest_download
    (decodes : ∀ text, PlainSegment text → pathParam text = some text)
    (published : publishFileManifest source sha256 deviceId registry filePolicy url answers paths =
      (.ok (some fileClip), after))
    (created : answers.createClip fileClip = some clipId)
    (listed : answers.trustedKeys = some keys)
    (drawn : IsUlid ulid) (token : answers.transferToken = TransferToken.new ulid)
    (trusted : TrustedPeer x keys requesterDeviceId key) (other : requesterDeviceId ≠ deviceId)
    (clip : Visible clipId.asStr) (sourceId : Visible deviceId.asStr)
    (requesterId : Visible requesterDeviceId.asStr)
    (inOrder : Along (TimedRegistry.step x) TimedRegistry.InOrder ⟨answers.registerLater, after⟩
      ops)
    (spares : Along (TimedRegistry.step x)
      (Spares x clipId answers.transferToken.asStr index) ⟨answers.registerLater, after⟩ ops)
    (within : index < fileClip.files.length) (fits : index ≤ usizeMax)
    (reads : (runFrom (TimedRegistry.step x) ⟨answers.registerLater, after⟩ ops).clock ≤ now)
    (live : now < answers.registerLater + filePolicy.transferTokenTtl)
    (unexpired : later ≤ answers.registerLater + filePolicy.transferTokenTtl)
    (atBase : IsPeerBase base) :
    ∃ path bytes sent, source.contents path = some bytes ∧
      fileClip.files[index].sha256 = some (hexLower (sha256 bytes)) ∧
      requestPeerFile base ⟨clipId, deviceId, fileClip⟩ index requesterDeviceId key = .ok sent ∧
      ∀ received files others length, PeerReceives sent received → Readable files path length →
        (downloadFile x pathParam files others
          (runFrom (TimedRegistry.step x) ⟨answers.registerLater, after⟩ ops).registry now later
          received).map Prod.fst =
            some (.body ⟨answers.transferToken.asStr, index, length, false⟩) := by
  obtain ⟨servedPaths, manifest, free⟩ := publishFileManifest_free published created listed index
  obtain ⟨path, bytes, served, contents, digest⟩ := fileManifest_describes manifest within
  have same : fileClip.transferToken = answers.transferToken := fileManifest_token manifest
  have plain : PlainSegment fileClip.transferToken.asStr := by
    rw [same, token]
    exact plain_token drawn
  obtain ⟨sent, made, sentUrl, -⟩ := requestPeerFile_ok base ⟨clipId, deviceId, fileClip⟩
    requesterDeviceId key plain.slash fits
  refine ⟨path, bytes, sent, contents, digest, made, ?_⟩
  intro received files others length receives readable
  have route : downloadFileRoute pathParam received =
      some (answers.transferToken.asStr, index) := by
    rw [← same]
    refine downloadFileRoute_sent decodes plain fits receives.method ?_
    rw [receives.path, sentUrl]
    exact urlPath_peerFileUrl atBase
  have still := free_run rfl free inOrder spares
  rw [← same] at still
  have given := claim_honest ⟨clipId, deviceId, fileClip⟩ trusted rfl rfl
    (fun empty => requesterId.1 (by rw [empty]; rfl)) other still reads live unexpired served
  have read := peerFileRequestFromHeaders_sent trusted clip sourceId requesterId made plain.slash
    fits receives
  rw [downloadFile, route, Option.map_some, Option.map_some, ← same]
  exact congrArg some (downloadFileInner_body read given readable)

end Download

/-! ## The requester fetches the notes -/

namespace NotesFetched

open Sample
open Unreachable (digest path policy)

def ulid : String := "01KDVD30207ZK3D9Q1W5M8R2TX"

def requester : DeviceId := ⟨"dev_requester"⟩

/-- The publication is answered with a clip. -/
def answers : PublishAnswers :=
  ⟨TransferToken.new ulid, 0, 0, 0, some keys, fun _ => some ⟨"clip_1"⟩⟩

def published : Except Failure (Option FileClip) × PeerFileRegistry (LexPath String) :=
  publishFileManifest Unreachable.source (fun _ => digest) Sample.source PeerFileRegistry.empty
    policy "http://192.168.1.5:8788" answers [path]

def fileClip : FileClip where
  files := [⟨"notes.txt", "notes.txt", 1, none, some (hexLower digest), .file⟩]
  totalSize := 1
  transferToken := TransferToken.new ulid
  sourcePeerUrl := some "http://192.168.1.5:8788"
  transferExpiresAt := some (seconds 600)

/-- The text that is signed for the first file. -/
def message : String :=
  peerFileSigningMessage "clip_1" "dev_source" "dev_requester" (TransferToken.new ulid).asStr 0

def signature : List UInt8 :=
  [83, 89, 70, 174, 157, 54, 61, 226, 177, 189, 95, 72, 218, 166, 9, 130, 26, 162, 123, 13, 152,
   99, 23, 183, 226, 188, 150, 110, 102, 120, 14, 154, 18, 177, 205, 112, 175, 214, 203, 6, 54, 27,
   55, 97, 157, 50, 107, 100, 30, 100, 152, 212, 189, 98, 220, 232, 233, 58, 156, 161, 4, 125, 108,
   13]

def key : SigningKey := fun text =>
  if text = message then signature else List.replicate 64 0

def crates : SignatureCrates where
  base64Decode := fun encoded => Alphabet.standard.decodePadded encoded.toList
  isVerifyingKey := fun publicKey => publicKey == requesterKeyBytes
  ed25519Verify := fun publicKey text signed => publicKey == requesterKeyBytes && signed == key text

/-- Someone else claims the file without a signature, and publishes something. -/
def ops : List (PeerOp (LexPath String)) :=
  [.claim (seconds 1) (seconds 1) (TransferToken.new ulid).asStr 0
      ⟨"clip_1", "dev_source", "dev_requester", peerFileSignatureAlg, "AAAA"⟩,
    .register (seconds 2) (seconds 2) ⟨"tt_2"⟩ none Sample.source keys [path] (seconds 600)]

theorem trusted : TrustedPeer crates keys requester key where
  publicKey := by
    refine ⟨requesterKey, requesterKeyBytes, rfl, by decide +kernel, rfl, by decide, ?_⟩
    intro text
    simp [crates]
  signature := by
    intro text
    unfold key
    split
    · rfl
    · exact List.length_replicate
  decodes := by
    intro bytes
    show Alphabet.standard.decodePadded (base64Encode bytes).toList = some bytes
    rw [base64Encode, String.toList_ofList]
    exact Alphabet.decodePadded_encodePadded bytes

theorem published_eq : published = (.ok (some fileClip), published.2) := by
  have first : published.1 = .ok (some fileClip) := by decide +kernel
  exact Prod.ext first rfl

/-- The registry when the notes are asked for. -/
def reached : TimedRegistry (LexPath String) :=
  runFrom (TimedRegistry.step crates) ⟨0, published.2⟩ ops

theorem refused : (published.2.claim crates (seconds 1) (seconds 1) (TransferToken.new ulid).asStr 0
    ⟨"clip_1", "dev_source", "dev_requester", peerFileSignatureAlg, "AAAA"⟩).1 =
      .unauthorized "invalid requester signature" := by
  decide +kernel

/-- Satisfiable pole: whatever happened before, the notes are fetched five seconds later. -/
theorem notes_fetched :
    ∃ path bytes sent, Unreachable.source.contents path = some bytes ∧
      requestPeerFile "http://192.168.1.5:8788/" ⟨⟨"clip_1"⟩, Sample.source, fileClip⟩ 0 requester
        key = .ok sent ∧
      ∀ received files others length, PeerReceives sent received → Readable files path length →
        (downloadFile crates some files others reached.registry (seconds 5) (seconds 5)
          received).map Prod.fst =
            some (.body ⟨(TransferToken.new ulid).asStr, 0, length, false⟩) := by
  have visible : ∀ {text : String}, text.toList ≠ [] →
      (text.toList.all fun c => decide (33 ≤ c.toNat ∧ c.toNat ≤ 126)) = true → Visible text :=
    fun nonempty all => ⟨nonempty, fun c member =>
      of_decide_eq_true (List.all_eq_true.mp all c member)⟩
  have drawn : IsUlid ulid := by
    refine ⟨by decide, fun c member => List.elem_iff.mp ?_⟩
    have all : (ulid.toList.all fun c => ulidAlphabet.elem c) = true := by decide
    exact List.all_eq_true.mp all c member
  have base : IsPeerBase "http://192.168.1.5:8788/" :=
    ⟨"192.168.1.5:8788".toList, by decide, by decide⟩
  have inOrder : Along (TimedRegistry.step crates) TimedRegistry.InOrder
      ⟨answers.registerLater, published.2⟩ ops :=
    ⟨⟨by decide, le_rfl⟩, ⟨by decide, le_rfl⟩, trivial⟩
  have spares : Along (TimedRegistry.step crates)
      (Spares crates ⟨"clip_1"⟩ answers.transferToken.asStr 0) ⟨answers.registerLater, published.2⟩
      ops := by
    refine ⟨fun _ given found => ?_, ?_, trivial⟩
    · cases refused.symm.trans found
    · show (⟨"tt_2"⟩ : TransferToken).asStr ≠ (TransferToken.new ulid).asStr
      decide
  have within : 0 < fileClip.files.length := by decide
  have fits : 0 ≤ usizeMax := Nat.zero_le _
  have reads : (runFrom (TimedRegistry.step crates) ⟨answers.registerLater, published.2⟩
      ops).clock ≤ seconds 5 := by decide
  have live : seconds 5 < answers.registerLater + policy.transferTokenTtl := by decide
  obtain ⟨path, bytes, sent, contents, -, made, answered⟩ :=
    honest_download (fun _ _ => rfl) published_eq rfl rfl drawn rfl trusted (by decide)
      (visible (by decide) (by decide)) (visible (by decide) (by decide))
      (visible (by decide) (by decide)) inOrder spares within fits reads live (le_of_lt live) base
  exact ⟨path, bytes, sent, contents, made, answered⟩

end NotesFetched

end AirPaste.Agent
