/-
# Agent.Lifetimes — how long clips, manifests and grants are meant to live

The lifetimes an agent is configured with reach three computations of an expiry, in types
with limits of their own: `TimeDelta::seconds` takes at most `i64::MAX / 1000` seconds, a
`DateTime` has a last date and an `Instant` a counter of seconds.  Past a limit they panic.
`TimeLimits` has those limits that depend on the library and the platform; a panic is `none`.

The clamp to `i64::MAX` before the first limit does not keep it.  `noPanic_iff` says which
lifetimes do; where nothing panics, the values are those of the clip, the manifest and the
grant (`textClipExpiry_eq`, `transferExpiry_eq`, `grantExpiry_eq`).
-/
import AirPaste.Agent.Publish
import AirPaste.Agent.TextClip

namespace AirPaste.Agent

open AirPaste.Core
open AirPaste.Theory

set_option autoImplicit false

structure TimeLimits where
  /-- `DateTime::<Utc>::MAX_UTC`. -/
  maxDateTime : Timestamp
  /-- The greatest value of the counter of seconds in an `Instant`. -/
  maxInstantSecs : Int

/-- `TimeDelta::seconds`. -/
def timeDeltaSeconds (secs : Int) : Option Int :=
  if secs.natAbs ≤ i64Max / 1000 then some (seconds secs) else none

/-- `DateTime + TimeDelta`. -/
def dateTimeAdd (limits : TimeLimits) (time : Timestamp) (delta : Int) : Option Timestamp :=
  if time + delta ≤ limits.maxDateTime then some (time + delta) else none

/-- `Instant + Duration::from_secs`. -/
def instantAdd (limits : TimeLimits) (instant : Timestamp) (secs : Nat) : Option Timestamp :=
  if instant / 1000000000 + secs ≤ limits.maxInstantSecs then some (instant + seconds secs)
  else none

/-- What `Args` says about transfers. -/
structure TransferArgs where
  maxFileCount : Nat
  maxTotalFileBytes : Nat
  maxSingleFileBytes : Nat
  transferTokenTtlSecs : UInt64

/-- The policy that `run` makes of them. -/
def runFilePolicy (args : TransferArgs) : FileTransferPolicy :=
  let transferTokenTtlSecs := max args.transferTokenTtlSecs.toNat 1
  { maxFileCount := args.maxFileCount
    maxTotalFileBytes := args.maxTotalFileBytes
    maxSingleFileBytes := args.maxSingleFileBytes
    transferTokenTtl := seconds transferTokenTtlSecs
    transferTokenTtlSecs := transferTokenTtlSecs }

section Limits

variable (limits : TimeLimits)

/-- `now() + ChronoDuration::seconds(secs.min(i64::MAX as u64) as i64)`. -/
def dateAfter (now : Timestamp) (secs : Nat) : Option Timestamp :=
  (timeDeltaSeconds (min secs i64Max : Nat)).bind fun delta => dateTimeAdd limits now delta

/-- `text_clip_expires_at`. -/
def textClipExpiry (now : Timestamp) (ttlSecs : UInt64) : Option (Option Timestamp) :=
  if ttlSecs = 0 then some none else (dateAfter limits now ttlSecs.toNat).map some

/-- The `transfer_expires_at` of `publish_file_manifest`. -/
def transferExpiry (now : Timestamp) (filePolicy : FileTransferPolicy) : Option Timestamp :=
  dateAfter limits now filePolicy.transferTokenTtlSecs

/-- The `expires_at` of `PeerFileRegistry::register`. -/
def grantExpiry (later : Timestamp) (filePolicy : FileTransferPolicy) : Option Timestamp :=
  instantAdd limits later filePolicy.transferTokenTtlSecs

/-- None of the three computations panics. -/
def NoPanic (now later : Timestamp) (textClipTtlSecs : UInt64) (args : TransferArgs) : Prop :=
  (textClipExpiry limits now textClipTtlSecs).isSome = true ∧
    (transferExpiry limits now (runFilePolicy args)).isSome = true ∧
    (grantExpiry limits later (runFilePolicy args)).isSome = true

/-- So many seconds can be added to the time, in both types. -/
def Addable (now : Timestamp) (secs : Nat) : Prop :=
  secs ≤ i64Max / 1000 ∧ now + seconds secs ≤ limits.maxDateTime

variable {limits}

/-! ## What can be added -/

/-- Clamping to `i64::MAX` does not change a number of seconds that is taken. -/
theorem timeDeltaSeconds_clamped {secs : Nat} {delta : Int} :
    timeDeltaSeconds (min secs i64Max : Nat) = some delta ↔
      secs ≤ i64Max / 1000 ∧ delta = seconds secs := by
  have clamp : min secs i64Max ≤ i64Max / 1000 ↔ secs ≤ i64Max / 1000 := by
    have smaller : i64Max / 1000 < i64Max := by decide
    omega
  rw [timeDeltaSeconds, Int.natAbs_natCast, Option.ite_none_right_eq_some, clamp,
    Option.some.injEq]
  refine and_congr_right fun small => ?_
  rw [Nat.min_eq_left (small.trans (Nat.div_le_self _ _))]
  exact eq_comm

/-- The clamped sum is the sum, where there is one. -/
theorem dateAfter_eq_some_iff {now expiry : Timestamp} {secs : Nat} :
    dateAfter limits now secs = some expiry ↔
      Addable limits now secs ∧ expiry = now + seconds secs := by
  simp only [dateAfter, Option.bind_eq_some_iff, timeDeltaSeconds_clamped, dateTimeAdd,
    Option.ite_none_right_eq_some, Option.some.injEq]
  constructor
  · rintro ⟨_, ⟨small, rfl⟩, inside, same⟩
    exact ⟨⟨small, inside⟩, same.symm⟩
  · rintro ⟨⟨small, inside⟩, same⟩
    exact ⟨_, ⟨small, rfl⟩, inside, same.symm⟩

theorem dateAfter_isSome_iff {now : Timestamp} {secs : Nat} :
    (dateAfter limits now secs).isSome = true ↔ Addable limits now secs := by
  simp only [Option.isSome_iff_exists, dateAfter_eq_some_iff, exists_and_left, exists_eq, and_true]

theorem grantExpiry_eq_some_iff {later expiry : Timestamp} {filePolicy : FileTransferPolicy} :
    grantExpiry limits later filePolicy = some expiry ↔
      later / 1000000000 + filePolicy.transferTokenTtlSecs ≤ limits.maxInstantSecs ∧
        expiry = later + seconds filePolicy.transferTokenTtlSecs := by
  rw [grantExpiry, instantAdd, Option.ite_none_right_eq_some, Option.some.injEq]
  exact and_congr_right fun _ => eq_comm

/-! ## The values without a panic -/

/-- The expiry of a text clip is the one it is published with. -/
theorem textClipExpiry_eq {now : Timestamp} {ttlSecs : UInt64} {expiresAt : Option Timestamp}
    (computed : textClipExpiry limits now ttlSecs = some expiresAt) :
    expiresAt = textClipExpiresAt now ttlSecs.toNat := by
  unfold textClipExpiry at computed
  unfold textClipExpiresAt
  split at computed
  · rename_i zero
    cases computed
    rw [zero]
    rfl
  · rename_i positive
    obtain ⟨expiry, added, rfl⟩ := Option.map_eq_some_iff.mp computed
    obtain ⟨⟨small, -⟩, rfl⟩ := dateAfter_eq_some_iff.mp added
    have nonzero : ttlSecs.toNat ≠ 0 := fun zero => positive (UInt64.toNat_inj.mp zero)
    rw [if_neg nonzero, Nat.min_eq_left (small.trans (Nat.div_le_self _ _))]

section Manifest

variable {N : Type} {source : SourceFiles N} {sha256 : List UInt8 → List UInt8}
  {filePolicy : FileTransferPolicy} {peerPublicUrl : String} {answers : PublishAnswers}

/-- The expiry of a manifest is the one it is published with. -/
theorem transferExpiry_eq {paths served : List (LexPath N)} {fileClip : FileClip}
    {expiry : Timestamp}
    (computed : transferExpiry limits answers.now filePolicy = some expiry)
    (made : fileManifest source sha256 filePolicy peerPublicUrl answers paths =
      .ok (some (fileClip, served))) : fileClip.transferExpiresAt = some expiry := by
  obtain ⟨⟨small, -⟩, rfl⟩ := dateAfter_eq_some_iff.mp computed
  unfold fileManifest at made
  obtain ⟨collected, -, made⟩ := bind_ok_iff.mp made
  split at made
  · cases made
  · obtain ⟨_, _, made⟩ := bind_ok_iff.mp made
    obtain ⟨⟨entries, total⟩, -, same⟩ := bind_ok_iff.mp made
    cases same
    show some (answers.now + seconds (min filePolicy.transferTokenTtlSecs i64Max : Nat)) = _
    rw [Nat.min_eq_left (small.trans (Nat.div_le_self _ _))]

/-- The expiry of a grant is the one it is registered with. -/
theorem grantExpiry_eq {args : TransferArgs} {later expiry now : Timestamp}
    (computed : grantExpiry limits later (runFilePolicy args) = some expiry)
    (registry : PeerFileRegistry (LexPath N)) (token : TransferToken) (deviceId : DeviceId)
    (keys : DeviceId → Option String) (served : List (LexPath N)) :
    ((registry.register now later token none deviceId keys served
        (runFilePolicy args).transferTokenTtl) token.asStr).map
      (fun grant => grant.expiresAt) = some expiry := by
  obtain ⟨-, rfl⟩ := grantExpiry_eq_some_iff.mp computed
  rw [PeerFileRegistry.register, Function.update_self]
  rfl

end Manifest

/-- **Which lifetimes never overflow**: a text clip without an expiry, or with one that the
library's seconds and dates reach; a transfer, of a second at least, whose end is a date and an
instant. -/
theorem noPanic_iff (limits : TimeLimits) (now later : Timestamp) (textClipTtlSecs : UInt64)
    (args : TransferArgs) :
    NoPanic limits now later textClipTtlSecs args ↔
      (textClipTtlSecs = 0 ∨ Addable limits now textClipTtlSecs.toNat) ∧
        Addable limits now (max args.transferTokenTtlSecs.toNat 1) ∧
        later / 1000000000 + (max args.transferTokenTtlSecs.toNat 1 : Nat) ≤
          limits.maxInstantSecs := by
  refine and_congr ?_ (and_congr dateAfter_isSome_iff ?_)
  · unfold textClipExpiry
    split
    · rename_i zero
      exact iff_of_true rfl (.inl zero)
    · rename_i positive
      rw [Option.isSome_map, dateAfter_isSome_iff]
      exact (or_iff_right positive).symm
  · simp only [Option.isSome_iff_exists, grantExpiry_eq_some_iff, exists_and_left, exists_eq,
      and_true]
    rfl

end Limits

namespace LongestLifetime

/-- The limits of the library and of a 64-bit platform. -/
def limits : TimeLimits := ⟨seconds 8210266876799 + 999999999, i64Max⟩

def args : TransferArgs := ⟨1000, 10737418240, 10737418240, 600⟩

/-- Refuting pole: the greatest lifetime of a text clip is clamped to more than the seconds that
can be added. -/
theorem panics : ¬ ∀ (limits : TimeLimits) (now later : Timestamp) (textClipTtlSecs : UInt64)
    (args : TransferArgs), now ≤ limits.maxDateTime →
      later / 1000000000 ≤ limits.maxInstantSecs →
      NoPanic limits now later textClipTtlSecs args := by
  intro never
  obtain ⟨fine, -⟩ := never limits 0 0 0xFFFFFFFFFFFFFFFF args (by decide) (by decide)
  rw [textClipExpiry, if_neg (by decide), Option.isSome_map, dateAfter_isSome_iff] at fine
  exact absurd fine.1 (by decide)

end LongestLifetime

end AirPaste.Agent
