/-
# Server.LatestClip — the latest clip and the head of the history

`latest_clip` takes a maximum by creation time over the rows in the order of their keys, and
of several maxima the last one; `clip_history` sorts the rows by descending creation time,
stably, so that the first one stands at the head.  `latest_agrees_iff`: the two name the same
clip exactly when no two unexpired clips share the latest creation time.
-/
import AirPaste.Server.ClipStore

namespace AirPaste.Server

open AirPaste.Core
open AirPaste.Theory

set_option autoImplicit false

/-- A row that has not expired, created as late as any other such row. -/
def NewestAt (now : Timestamp) (clips : ClipTable) (clip : ClipRecord) : Prop :=
  clip ∈ clips.rows ∧ clipIsExpired now clip = false ∧
    ∀ other ∈ clips.rows, clipIsExpired now other = false → other.createdAt ≤ clip.createdAt

/-- `latest_clip` has nothing when the history has nothing, and otherwise its head. -/
structure LatestAgrees (now : Timestamp) (limit : Nat) (clips : ClipTable) : Prop where
  nothing : (clips.latestClip now).1 = none ↔ (clips.clipHistory now limit).1 = []
  head : ∀ clip, (clips.latestClip now).1 = some clip →
    (clips.clipHistory now limit).1.head? = some clip

theorem mem_cleanupExpiredClips {now : Timestamp} {clips : ClipTable} {clip : ClipRecord} :
    clip ∈ (clips.cleanupExpiredClips now).rows ↔
      clip ∈ clips.rows ∧ clipIsExpired now clip = false := by
  rw [ClipTable.cleanupExpiredClips, KeyedTable.retain, List.mem_filter, Bool.not_eq_true']

theorem newestAt_iff {now : Timestamp} {clips : ClipTable} {clip : ClipRecord} :
    NewestAt now clips clip ↔
      Greatest ClipRecord.createdAt (clips.cleanupExpiredClips now).rows clip := by
  simp only [NewestAt, Greatest, mem_cleanupExpiredClips, and_imp, and_assoc]

theorem rows_nodup (clips : ClipTable) : clips.rows.Nodup :=
  clips.sorted.imp fun below same =>
    absurd (congrArg (fun clip : ClipRecord => clip.clipId.asStr) same) below.ne

/-- The limit leaves the head of a history where it is. -/
theorem clipHistory_head? {limit : Nat} (positive : 1 ≤ limit) (now : Timestamp)
    (clips : ClipTable) :
    (clips.clipHistory now limit).1.head? =
      (sortByReverseKey ClipRecord.createdAt (clips.cleanupExpiredClips now).rows).head? := by
  obtain ⟨rest, rfl⟩ := Nat.exists_eq_add_of_le' positive
  simp only [ClipTable.clipHistory]
  rw [List.head?_take, if_neg (Nat.succ_ne_zero rest)]

theorem latestAgrees_iff_head? {now : Timestamp} {limit : Nat} (positive : 1 ≤ limit)
    (clips : ClipTable) :
    LatestAgrees now limit clips ↔
      maxByKey ClipRecord.createdAt (clips.cleanupExpiredClips now).rows =
        (sortByReverseKey ClipRecord.createdAt (clips.cleanupExpiredClips now).rows).head? := by
  have head := clipHistory_head? positive now clips
  have latest : (clips.latestClip now).1 =
      maxByKey ClipRecord.createdAt (clips.cleanupExpiredClips now).rows := rfl
  rw [← head, ← latest]
  constructor
  · intro agrees
    cases found : (clips.latestClip now).1 with
    | none => rw [agrees.nothing.mp found, List.head?_nil]
    | some clip => exact (agrees.head clip found).symm
  · intro same
    refine ⟨?_, fun clip found => same.symm.trans found⟩
    rw [same, List.head?_eq_none_iff]

/-- **The latest clip is the head of the history exactly when it is the only one of its
time.** -/
theorem latest_agrees_iff (now : Timestamp) {limit : Nat} (positive : 1 ≤ limit)
    (clips : ClipTable) :
    LatestAgrees now limit clips ↔
      ∀ clip other, NewestAt now clips clip → NewestAt now clips other → clip = other := by
  rw [latestAgrees_iff_head? positive, maxByKey_eq_head?_iff (rows_nodup _)]
  simp only [newestAt_iff]

/-! ## Two clips of one instant -/

namespace SameInstant

open ClipStore.Lingering

/-- A memo, and a note of the second after it. -/
def apart : ClipTable :=
  (KeyedTable.empty.put (clip "clip_memo" (seconds 1) none)).put
    (clip "clip_note" (seconds 2) none)

/-- The same two, of one second. -/
def together : ClipTable :=
  (KeyedTable.empty.put (clip "clip_memo" (seconds 2) none)).put
    (clip "clip_note" (seconds 2) none)

/-- Satisfiable pole: the note is the latest clip, and the first in the history. -/
theorem apart_agrees : LatestAgrees (seconds 3) 5 apart := by
  refine (latest_agrees_iff (seconds 3) (by decide) apart).mpr ?_
  have newest : ∀ found, NewestAt (seconds 3) apart found →
      found = clip "clip_note" (seconds 2) none := by
    rintro found ⟨member, -, all⟩
    have later := all (clip "clip_note" (seconds 2) none) (by decide) (by decide)
    rcases List.mem_pair.mp member with rfl | rfl
    · exact absurd later (by decide)
    · rfl
  exact fun found other first second => (newest found first).trans (newest other second).symm

/-- Refuting pole: the note is the latest clip, and the memo the first in the history. -/
theorem together_disagree : ¬ ∀ (now : Timestamp) (limit : Nat) (clips : ClipTable),
    1 ≤ limit → LatestAgrees now limit clips := by
  intro always
  have agrees := always (seconds 3) 5 together (by decide)
  have head := agrees.head (clip "clip_note" (seconds 2) none) (by decide)
  exact absurd head (by decide)

end SameInstant

end AirPaste.Server
