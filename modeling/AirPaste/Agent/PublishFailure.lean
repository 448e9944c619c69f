/-
# Agent.PublishFailure — what a failed publication leaves in the registry

`publish_file_manifest` registers the grant before it creates the clip, and binds the clip
to it afterwards.  Where it fails before the registration, every later claim on its token is
answered with not found, whatever others do with the registry (`Gone`).  Where the creation
of the clip fails, the grant stays, unbound, until it expires: `failedPublish_iff`.
-/
import AirPaste.Agent.PeerClaims
import AirPaste.Agent.Publish

namespace AirPaste.Agent

open AirPaste.Core
open AirPaste.Theory

set_option autoImplicit false

/-- The operation registers a grant under this token. -/
def PeerOp.Registers {PathBuf : Type} (token : String) : PeerOp PathBuf → Prop
  | .register _ _ registered _ _ _ _ _ => registered.asStr = token
  | _ => False

namespace TimedRegistry

variable {PathBuf : Type} (x : SignatureCrates)

/-- Whatever is done later, short of registering the token again, every claim on it is
answered with not found. -/
def GrantsNothing (timed : TimedRegistry PathBuf) (token : String) : Prop :=
  ∀ ops : List (PeerOp PathBuf), Along (TimedRegistry.step x) TimedRegistry.InOrder timed ops →
    (∀ op ∈ ops, ¬ op.Registers token) →
      ∀ (now later : Timestamp) (index : Nat) (request : PeerFileRequest),
        (runFrom (TimedRegistry.step x) timed ops).clock ≤ now → now ≤ later →
          ((runFrom (TimedRegistry.step x) timed ops).registry.claim x now later token index
            request).1 = .notFound

/-- No grant of the token is alive. -/
def Gone (token : String) (timed : TimedRegistry PathBuf) : Prop :=
  ∀ grant, timed.registry token = some grant → grant.expiresAt ≤ timed.clock

variable {x} {timed : TimedRegistry PathBuf} {token : String}

theorem cleaned_of_gone (gone : timed.Gone token) {now : Timestamp} (reads : timed.clock ≤ now) :
    cleanupExpired now timed.registry token = none := by
  rw [Option.eq_none_iff_forall_ne_some]
  intro grant kept
  obtain ⟨stored, live⟩ := cleanupExpired_eq_some_iff.mp kept
  exact absurd (lt_of_lt_of_le live ((gone grant stored).trans reads)) (lt_irrefl _)

theorem claim_of_gone (gone : timed.Gone token) {now : Timestamp} (reads : timed.clock ≤ now)
    (later : Timestamp) (index : Nat) (request : PeerFileRequest) :
    (timed.registry.claim x now later token index request).1 = .notFound := by
  simp only [PeerFileRegistry.claim, cleaned_of_gone gone reads]

/-- A change that keeps the expiry of the grant it is made to keeps the token gone. -/
theorem gone_modify (gone : timed.Gone token) (other : String)
    (change : PeerFileGrant PathBuf → PeerFileGrant PathBuf)
    (keeps : ∀ grant, (change grant).expiresAt = grant.expiresAt) :
    Gone token ⟨timed.clock, timed.registry.modify other change⟩ := by
  intro grant found
  obtain ⟨before, stored, rfl⟩ := modify_eq_some_iff.mp found
  have expired := gone before stored
  split
  · exact (keeps before).trans_le expired
  · exact expired

theorem gone_claim (gone : timed.Gone token) {now : Timestamp} (reads : timed.clock ≤ now)
    (later : Timestamp) (claimed : String) (index : Nat) (request : PeerFileRequest) :
    Gone token ⟨later, (timed.registry.claim x now later claimed index request).2⟩ := by
  have cleaned := cleaned_of_gone gone reads
  have outcome := claim_outcome x timed.registry now later claimed index request
  generalize timed.registry.claim x now later claimed index request = result at outcome
  intro grant found
  cases outcome with
  | available held path claimable =>
      -- The grant answered with is alive, so it is one of another token.
      have other : token ≠ claimed := by
        rintro rfl
        exact nomatch cleaned.symm.trans
          (cleanupExpired_eq_some_iff.mpr ⟨claimable.stored, claimable.live⟩)
      simp only [Function.update_of_ne other] at found
      exact nomatch cleaned.symm.trans found
  | refused answer refuses inTime => exact nomatch cleaned.symm.trans found
  | expired held stored live late =>
      have other : token ≠ claimed := by
        rintro rfl
        exact nomatch cleaned.symm.trans (cleanupExpired_eq_some_iff.mpr ⟨stored, live⟩)
      simp only [Function.update_of_ne other] at found
      exact nomatch cleaned.symm.trans found

theorem gone_step {op : PeerOp PathBuf} (gone : timed.Gone token) (inOrder : timed.InOrder op)
    (others : ¬ op.Registers token) : (timed.step x op).Gone token := by
  cases op with
  | register now later registered clipId sourceDeviceId authorizedPublicKeys paths ttl =>
      intro grant found
      have other : token ≠ registered.asStr := fun same => others same.symm
      simp only [TimedRegistry.step, PeerOp.perform, PeerFileRegistry.register,
        Function.update_of_ne other] at found
      rw [cleaned_of_gone gone inOrder.1] at found
      cases found
  | bindClipId bound clipId => exact gone_modify gone _ _ fun _ => rfl
  | claim now later claimed index request =>
      exact gone_claim gone inOrder.1 later claimed index request
  | commitServed served index => exact gone_modify gone _ _ fun _ => rfl
  | release released index => exact gone_modify gone _ _ fun _ => rfl

/-- A grant just registered is gone when its lifetime is over. -/
theorem gone_register_iff {registry : PeerFileRegistry PathBuf} {clock now later : Timestamp}
    {registered : TransferToken} {clipId : Option ClipId} {sourceDeviceId : DeviceId}
    {authorizedPublicKeys : DeviceId → Option String} {paths : List PathBuf} {ttl : Int} :
    Gone registered.asStr ⟨clock, registry.register now later registered clipId sourceDeviceId
      authorizedPublicKeys paths ttl⟩ ↔ later + ttl ≤ clock := by
  simp only [Gone, PeerFileRegistry.register, Function.update_self, Option.some.injEq]
  exact ⟨fun gone => gone _ rfl, fun expired grant same => same ▸ expired⟩

/-- **A token grants nothing exactly when no grant of it is alive.** -/
theorem grantsNothing_iff : timed.GrantsNothing x token ↔ timed.Gone token := by
  constructor
  · intro nothing grant stored
    by_contra live
    have live : timed.clock < grant.expiresAt := lt_of_not_ge live
    -- A request without a requester is refused, but the grant is found.
    have answer := nothing [] trivial (fun _ member => absurd member List.not_mem_nil) timed.clock
      timed.clock 0 ⟨"", "", "", "", ""⟩ le_rfl le_rfl
    have found : cleanupExpired timed.clock timed.registry token = some grant :=
      cleanupExpired_eq_some_iff.mpr ⟨stored, live⟩
    simp only [runFrom_nil, PeerFileRegistry.claim, found, if_neg (not_lt.mpr (le_of_lt live))]
      at answer
    cases checks : PeerFileRegistry.authorize x grant.toGrantTerms token 0 ⟨"", "", "", "", ""⟩ with
    | ok u => exact (authorize_ok_iff.mp checks).named rfl
    | error reason =>
        rw [checks] at answer
        cases answer
  · intro gone ops inOrder others now later index request reads _
    have keeps : ∀ (timed : TimedRegistry PathBuf) (op : PeerOp PathBuf), timed.Gone token →
        timed.InOrder op ∧ ¬ op.Registers token → (timed.step x op).Gone token :=
      fun _ _ gone allowed => gone_step gone allowed.1 allowed.2
    exact claim_of_gone (run_invariant keeps (along_and inOrder others) gone) reads later index
      request

end TimedRegistry

/-! ## A failed publication -/

section Publish

variable {N : Type} {source : SourceFiles N} {sha256 : List UInt8 → List UInt8}
  {deviceId : DeviceId} {registry : PeerFileRegistry (LexPath N)}
  {filePolicy : FileTransferPolicy} {url : String} {answers : PublishAnswers}
  {paths : List (LexPath N)}

theorem fileManifest_token {fileClip : FileClip} {servedPaths : List (LexPath N)}
    (listed : fileManifest source sha256 filePolicy url answers paths =
      .ok (some (fileClip, servedPaths))) : fileClip.transferToken = answers.transferToken := by
  unfold fileManifest at listed
  obtain ⟨collected, -, listed⟩ := bind_ok_iff.mp listed
  split at listed
  · cases listed
  · obtain ⟨_, _, listed⟩ := bind_ok_iff.mp listed
    obtain ⟨⟨entries, total⟩, -, same⟩ := bind_ok_iff.mp listed
    cases same
    rfl

variable (source sha256 filePolicy url answers paths) in
/-- The grant is registered, the clip cannot be created, and by then the grant has not
expired. -/
def FailsRegistered (returned : Timestamp) : Prop :=
  ∃ fileClip servedPaths keys,
    fileManifest source sha256 filePolicy url answers paths = .ok (some (fileClip, servedPaths)) ∧
      answers.trustedKeys = some keys ∧ answers.createClip fileClip = none ∧
      returned < answers.registerLater + filePolicy.transferTokenTtl

variable (source sha256 deviceId registry filePolicy url answers paths) in
/-- The registry when the publication returns. -/
def publishedAt (returned : Timestamp) : TimedRegistry (LexPath N) :=
  ⟨returned, (publishFileManifest source sha256 deviceId registry filePolicy url answers paths).2⟩

/-- **A failed publication leaves no grant, unless the creation of the clip is what failed.** -/
theorem failedPublish_iff (x : SignatureCrates) (returned : Timestamp)
    (fresh : registry answers.transferToken.asStr = none) :
    ((∃ failure, (publishFileManifest source sha256 deviceId registry filePolicy url answers
        paths).1 = .error failure) →
      (publishedAt source sha256 deviceId registry filePolicy url answers paths
        returned).GrantsNothing x answers.transferToken.asStr) ↔
      ¬ FailsRegistered source sha256 filePolicy url answers paths returned := by
  rw [TimedRegistry.grantsNothing_iff]
  have unregistered : TimedRegistry.Gone answers.transferToken.asStr ⟨returned, registry⟩ :=
    fun grant stored => nomatch fresh.symm.trans stored
  simp only [publishedAt, publishFileManifest]
  cases manifest : fileManifest source sha256 filePolicy url answers paths with
  | error message =>
      refine iff_of_true (fun _ => unregistered) ?_
      rintro ⟨_, _, _, listed, -⟩
      exact nomatch manifest.symm.trans listed
  | ok result =>
      rcases result with _ | ⟨fileClip, servedPaths⟩
      · refine iff_of_true (fun _ => unregistered) ?_
        rintro ⟨_, _, _, listed, -⟩
        exact nomatch manifest.symm.trans listed
      · have token := fileManifest_token manifest
        cases trusted : answers.trustedKeys with
        | none =>
            refine iff_of_true (fun _ => unregistered) ?_
            rintro ⟨_, _, _, -, known, -⟩
            exact nomatch trusted.symm.trans known
        | some keys =>
            cases created : answers.createClip fileClip with
            | some clipId =>
                simp only [created]
                refine iff_of_true (fun ⟨failure, failed⟩ => nomatch failed) ?_
                rintro ⟨_, _, _, listed, -, fails, -⟩
                cases manifest.symm.trans listed
                exact nomatch created.symm.trans fails
            | none =>
                simp only [created, token]
                constructor
                · rintro gone ⟨_, _, _, -, -, -, live⟩
                  have expired := TimedRegistry.gone_register_iff.mp (gone ⟨_, rfl⟩)
                  exact absurd live (not_lt.mpr expired)
                · intro fails _
                  refine TimedRegistry.gone_register_iff.mpr (not_lt.mp fun live => fails ?_)
                  exact ⟨fileClip, servedPaths, keys, manifest, trusted, created, live⟩

end Publish

/-! ## The server is out of reach -/

namespace Unreachable

open Sample

def path : LexPath String := LexPath.parse "/home/u/notes.txt"

/-- One file of one byte. -/
def source : SourceFiles String where
  found := fun _ => .file
  size := fun _ => some 1
  contents := fun _ => some [97]
  toStringLossy := id
  display := fun _ => "/home/u/notes.txt"
  le := fun _ _ => true

/-- The SHA-256 digest of that byte. -/
def digest : List UInt8 :=
  [202, 151, 129, 18, 202, 27, 189, 202, 250, 194, 49, 179, 154, 35, 220, 77, 167, 134, 239, 248,
   20, 124, 78, 114, 185, 128, 119, 133, 175, 238, 72, 187]

def policy : FileTransferPolicy := ⟨100, 1000000, 1000000, seconds 600, 600⟩

/-- The devices are listed, or not, and then the server goes away. -/
def answers (trustedKeys : Option (DeviceId → Option String)) : PublishAnswers :=
  ⟨token, 0, 0, 0, trustedKeys, fun _ => none⟩

/-- The publication. -/
def published (trustedKeys : Option (DeviceId → Option String)) :
    Except Failure (Option FileClip) × PeerFileRegistry (LexPath String) :=
  publishFileManifest source (fun _ => digest) Sample.source PeerFileRegistry.empty policy
    "http://192.168.1.5:8788" (answers trustedKeys) [path]

/-- Satisfiable pole: where the devices cannot be listed, nothing is granted. -/
theorem unlisted_nothing : (published none).1 = .error .network ∧
    TimedRegistry.GrantsNothing signatureCrates ⟨seconds 5, (published none).2⟩ "tt_1" := by
  have failed : (published none).1 = .error .network := by decide +kernel
  refine ⟨failed, (failedPublish_iff signatureCrates (seconds 5) rfl).mpr ?_ ⟨_, failed⟩⟩
  rintro ⟨_, _, _, -, listed, -⟩
  cases listed

/-- Refuting pole: the clip cannot be created, and the file is handed out five seconds later. -/
theorem refused_grants : ¬ ∀ {source : SourceFiles String} {sha256 : List UInt8 → List UInt8}
    {deviceId : DeviceId} {registry : PeerFileRegistry (LexPath String)}
    {filePolicy : FileTransferPolicy} {url : String} {answers : PublishAnswers}
    {paths : List (LexPath String)} (x : SignatureCrates) (returned : Timestamp),
    registry answers.transferToken.asStr = none →
      (∃ failure, (publishFileManifest source sha256 deviceId registry filePolicy url answers
        paths).1 = .error failure) →
      (publishedAt source sha256 deviceId registry filePolicy url answers paths
        returned).GrantsNothing x answers.transferToken.asStr := by
  intro nothing
  have failed : (published (some keys)).1 = .error .network := by decide +kernel
  have answer : ((published (some keys)).2.claim signatureCrates (seconds 5) (seconds 5) "tt_1" 0
      request).1 = .available path := by decide +kernel
  have refused := nothing signatureCrates (seconds 5) rfl ⟨_, failed⟩ [] trivial
    (fun _ member => absurd member List.not_mem_nil) (seconds 5) (seconds 5) 0 request le_rfl le_rfl
  exact nomatch answer.symm.trans refused

end Unreachable

end AirPaste.Agent
