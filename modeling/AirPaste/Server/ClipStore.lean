/-
# Server.ClipStore — the clip table as a timed map

An expired clip stays in the `CLIPS` table until some operation prunes it: `create_clip`,
`latest_clip` and `clip_history` drop every expired row, `get_clip` the one it finds, and
`delete_clip` the one it is asked for, expired or not.

`ClipStore.Live` is the timed map this is meant to be, in terms of the calls alone: a clip
that was created, was not deleted since, and has not expired.  `ClipStore.answers_timed`
says that over every run of calls at nondecreasing times the answers are those of the timed
map, and `ClipStore.Timed.kept` that no call drops a live clip it was not asked to delete.
-/
import AirPaste.Server.Clips
import AirPaste.Theory.LazyTable
import AirPaste.Theory.Newest
import Mathlib.Data.List.Induction

namespace AirPaste.Server

open AirPaste.Core
open AirPaste.Theory

set_option autoImplicit false

namespace ClipTable

def latestClip (now : Timestamp) (clips : ClipTable) : Option ClipRecord × ClipTable :=
  let clips := clips.cleanupExpiredClips now
  (maxByKey ClipRecord.createdAt clips.rows, clips)

def clipHistory (now : Timestamp) (limit : Nat) (clips : ClipTable) :
    List ClipRecord × ClipTable :=
  let clips := clips.cleanupExpiredClips now
  ((sortByReverseKey ClipRecord.createdAt clips.rows).take limit, clips)

/-- `delete_clip` with its answer: whether there was a row to remove. -/
def removeClip (clipId : ClipId) (clips : ClipTable) : Bool × ClipTable :=
  ((clips.get clipId.asStr).isSome, clips.deleteClip clipId)

/-- The clip under the id it is filed with. -/
def named (ulid : String) (clip : ClipRecord) : ClipRecord :=
  if clip.clipId.asStr = "" then { clip with clipId := ClipId.new ulid } else clip

theorem createClip_eq (ulid : String) (now : Timestamp) (clip : ClipRecord)
    (clips : ClipTable) :
    clips.createClip ulid now clip =
      (named ulid clip, (clips.live clipIsExpired now).put (named ulid clip)) := rfl

end ClipTable

namespace ClipStore

/-! ## Runs of calls -/

inductive Call where
  | createClip (ulid : String) (clip : ClipRecord)
  | getClip (clipId : ClipId)
  | latestClip
  | clipHistory (limit : Nat)
  | deleteClip (clipId : ClipId)
  deriving DecidableEq

inductive Answer where
  | created (clip : ClipRecord)
  | clip (clip : Option ClipRecord)
  | clips (clips : List ClipRecord)
  | removed (removed : Bool)
  deriving DecidableEq

/-- A call and its reading of the clock. -/
structure Event where
  now : Timestamp
  call : Call
  deriving DecidableEq

def Event.answer (event : Event) (clips : ClipTable) : Answer × ClipTable :=
  match event.call with
  | .createClip ulid clip => (clips.createClip ulid event.now clip).map .created id
  | .getClip clipId => (clips.getClip event.now clipId).map .clip id
  | .latestClip => (clips.latestClip event.now).map .clip id
  | .clipHistory limit => (clips.clipHistory event.now limit).map .clips id
  | .deleteClip clipId => (clips.removeClip clipId).map .removed id

def step (clips : ClipTable) (event : Event) : ClipTable := (event.answer clips).2

/-- The table after the calls. -/
def clipsAfter (events : List Event) : ClipTable := runFrom step .empty events

/-- The clip the call creates. -/
def Event.creates (event : Event) : Option ClipRecord :=
  match event.call with
  | .createClip ulid clip => some (ClipTable.named ulid clip)
  | _ => none

/-- Every clip is created under an id of its own. -/
def FreshIds (events : List Event) : Prop :=
  ((events.filterMap Event.creates).map ClipRecord.clipId).Nodup

def Nondecreasing (events : List Event) : Prop :=
  events.Pairwise fun earlier later => earlier.now ≤ later.now

instance (events : List Event) : Decidable (FreshIds events) :=
  inferInstanceAs (Decidable (List.Nodup _))

instance (events : List Event) : Decidable (Nondecreasing events) :=
  inferInstanceAs (Decidable (List.Pairwise _ events))

/-! ## The timed map -/

/-- The clip was created by one of the calls, and not deleted since. -/
def Stored (events : List Event) (clip : ClipRecord) : Prop :=
  ∃ before event later, events = before ++ event :: later ∧ event.creates = some clip ∧
    ∀ other ∈ later, other.call ≠ .deleteClip clip.clipId

/-- And its expiry is absent or later than now. -/
def Live (events : List Event) (now : Timestamp) (clip : ClipRecord) : Prop :=
  Stored events clip ∧ ∀ expiresAt, clip.expiresAt = some expiresAt → now < expiresAt

/-- The answer of a call at this time, after the calls before it. -/
def Answers (before : List Event) (now : Timestamp) : Call → Answer → Prop
  | .getClip clipId, .clip answer =>
      ∀ clip, answer = some clip ↔ Live before now clip ∧ clip.clipId = clipId
  | .latestClip, .clip answer =>
      (answer = none ↔ ∀ clip, ¬ Live before now clip) ∧
        ∀ clip, answer = some clip → Live before now clip ∧
          ∀ other, Live before now other → other.createdAt ≤ clip.createdAt
  | .clipHistory limit, .clips answer =>
      ∃ all : List ClipRecord, (∀ clip, clip ∈ all ↔ Live before now clip) ∧ all.Nodup ∧
        (all.Pairwise fun newer older => older.createdAt ≤ newer.createdAt) ∧
        answer = all.take limit
  | .createClip ulid clip, .created answer => answer = ClipTable.named ulid clip
  | .deleteClip _, .removed _ => True
  | _, _ => False

/-- What holds of one call of a run. -/
structure Timed (before : List Event) (event : Event) : Prop where
  answers : Answers before event.now event.call (event.answer (clipsAfter before)).1
  kept : ∀ clip ∈ (clipsAfter before).rows,
    (∀ expiresAt, clip.expiresAt = some expiresAt → event.now < expiresAt) →
    event.call ≠ .deleteClip clip.clipId → clip ∈ (clipsAfter (before ++ [event])).rows

/-! ## Expiry -/

theorem clipIsExpired_eq_false_iff {now : Timestamp} {clip : ClipRecord} :
    clipIsExpired now clip = false ↔
      ∀ expiresAt, clip.expiresAt = some expiresAt → now < expiresAt := by
  cases due : clip.expiresAt with
  | none => simp [clipIsExpired, due]
  | some expiresAt => simp [clipIsExpired, due]

theorem clipIsExpired_later {now later : Timestamp} (le : now ≤ later) (clip : ClipRecord)
    (expired : clipIsExpired now clip = true) : clipIsExpired later clip = true := by
  rw [← Bool.not_eq_false, clipIsExpired_eq_false_iff] at expired ⊢
  exact fun fresh => expired fun expiresAt due => le.trans_lt (fresh expiresAt due)

/-! ## The table that nothing is pruned from -/

/-- The calls as they would be if nothing expired. -/
def file (clips : ClipTable) (event : Event) : ClipTable :=
  match event.call with
  | .createClip ulid clip => clips.put (ClipTable.named ulid clip)
  | .deleteClip clipId => clips.deleteClip clipId
  | _ => clips

def filed (events : List Event) : ClipTable := runFrom file .empty events

abbrev ClipLags (now : Timestamp) (clips full : ClipTable) : Prop :=
  Lags clipIsExpired now clips full

/-- Every call keeps the table behind the one that nothing is pruned from. -/
theorem lags_step {clips full : ClipTable} {event : Event}
    (lags : ClipLags event.now clips full) :
    ClipLags event.now (step clips event) (file full event) := by
  obtain ⟨now, call⟩ := event
  cases call with
  | createClip ulid clip => exact lags.prune.put (ClipTable.named ulid clip)
  | getClip clipId =>
      simp only [step, Event.answer, file, ClipTable.getClip, Prod.map_snd, id_eq]
      split
      · exact lags
      · rename_i clip found
        split
        · rename_i expired
          exact lags.drop found expired
        · exact lags
  | latestClip => exact lags.prune
  | clipHistory limit => exact lags.prune
  | deleteClip clipId => exact lags.remove clipId.asStr

theorem lags_later {now later : Timestamp} (le : now ≤ later) {clips full : ClipTable}
    (lags : ClipLags now clips full) : ClipLags later clips full :=
  lags.later (clipIsExpired_later le)

theorem lags_run {start finish : Timestamp} {clips full : ClipTable} {events : List Event}
    (lags : ClipLags start clips full) (ordered : Nondecreasing events)
    (within : ∀ event ∈ events, start ≤ event.now ∧ event.now ≤ finish) (le : start ≤ finish) :
    ClipLags finish (runFrom step clips events) (runFrom file full events) := by
  induction events generalizing start clips full with
  | nil => exact lags_later le lags
  | cons event rest ih =>
      obtain ⟨⟨started, bounded⟩, within⟩ := List.forall_mem_cons.mp within
      obtain ⟨first, ordered⟩ := List.pairwise_cons.mp ordered
      refine ih (lags_step (lags_later started lags)) ordered (fun later member => ?_) bounded
      exact ⟨first later member, (within later member).2⟩

/-- After any calls up to now, the table has the live rows of the one that nothing is pruned
from. -/
theorem lags_filed {events : List Event} {now : Timestamp} (ordered : Nondecreasing events)
    (past : ∀ event ∈ events, event.now ≤ now) :
    ClipLags now (clipsAfter events) (filed events) := by
  cases events with
  | nil => exact .refl now .empty
  | cons first rest =>
      obtain ⟨earliest, -⟩ := List.pairwise_cons.mp ordered
      refine lags_run (.refl first.now .empty) ordered (fun event member => ?_)
        (past first List.mem_cons_self)
      refine ⟨?_, past event member⟩
      rcases List.mem_cons.mp member with rfl | member
      · exact le_refl _
      · exact earliest event member

/-! ## What is filed is what was created and not deleted -/

theorem filed_append (events : List Event) (event : Event) :
    filed (events ++ [event]) = file (filed events) event := runFrom_append _ _ events [event]

theorem stored_append {events : List Event} {event : Event} {clip : ClipRecord} :
    Stored (events ++ [event]) clip ↔
      event.creates = some clip ∨ Stored events clip ∧ event.call ≠ .deleteClip clip.clipId := by
  constructor
  · rintro ⟨before, creation, later, split, creates, undeleted⟩
    rcases List.eq_nil_or_concat later with rfl | ⟨later, last, rfl⟩
    · obtain ⟨-, same⟩ := List.append_inj' split rfl
      cases same
      exact Or.inl creates
    · rw [List.concat_eq_append, ← List.cons_append, ← List.append_assoc] at split
      obtain ⟨front, same⟩ := List.append_inj' split rfl
      cases same
      simp only [List.concat_eq_append, List.mem_append, List.mem_singleton] at undeleted
      exact Or.inr ⟨⟨before, creation, later, front, creates,
        fun other member => undeleted other (Or.inl member)⟩, undeleted event (Or.inr rfl)⟩
  · rintro (creates | ⟨⟨before, creation, later, rfl, creates, undeleted⟩, kept⟩)
    · exact ⟨events, event, [], rfl, creates, fun _ member => absurd member List.not_mem_nil⟩
    · refine ⟨before, creation, later ++ [event], by simp, creates, fun other member => ?_⟩
      rcases List.mem_append.mp member with member | member
      · exact undeleted other member
      · rw [List.mem_singleton.mp member]
        exact kept

/-- The ids of the clips that are stored were given out by the calls. -/
theorem Stored.created {events : List Event} {clip : ClipRecord} (stored : Stored events clip) :
    clip.clipId ∈ (events.filterMap Event.creates).map ClipRecord.clipId := by
  obtain ⟨before, event, later, rfl, creates, -⟩ := stored
  refine List.mem_map_of_mem (List.mem_filterMap.mpr ⟨event, ?_, creates⟩)
  exact List.mem_append_right _ List.mem_cons_self

theorem FreshIds.front {events : List Event} {event : Event}
    (fresh : FreshIds (events ++ [event])) :
    FreshIds events := by
  unfold FreshIds at *
  rw [List.filterMap_append, List.map_append] at fresh
  exact (List.nodup_append.mp fresh).1

/-- A created clip has an id that no stored clip has. -/
theorem FreshIds.ne {events : List Event} {event : Event} {clip created : ClipRecord}
    (fresh : FreshIds (events ++ [event])) (stored : Stored events clip)
    (creates : event.creates = some created) : clip.clipId ≠ created.clipId := by
  unfold FreshIds at fresh
  rw [List.filterMap_append, List.map_append, List.filterMap_cons_some creates] at fresh
  exact (List.nodup_append.mp fresh).2.2 _ stored.created _ List.mem_cons_self

theorem asStr_inj {a b : ClipId} : a.asStr = b.asStr ↔ a = b := by
  cases a
  cases b
  simp

theorem mem_filed {events : List Event} (fresh : FreshIds events) {clip : ClipRecord} :
    clip ∈ (filed events).rows ↔ Stored events clip := by
  induction events using List.reverseRecOn with
  | nil =>
      refine iff_of_false (List.not_mem_nil) ?_
      rintro ⟨before, event, later, split, -⟩
      cases before <;> cases split
  | append_singleton events event ih =>
      have ih := ih fresh.front
      rw [stored_append, filed_append]
      obtain ⟨now, call⟩ := event
      cases call with
      | createClip ulid created =>
          have other : Stored events clip →
              clip.clipId ≠ (ClipTable.named ulid created).clipId :=
            fun stored => fresh.ne stored rfl
          simp only [file, KeyedTable.mem_put, ih, Event.creates, Option.some.injEq, asStr_inj,
            ne_eq, reduceCtorEq, not_false_eq_true, and_true]
          rw [eq_comm]
          exact or_congr_right (and_iff_left_of_imp other)
      | deleteClip clipId =>
          simp only [file, ClipTable.deleteClip, KeyedTable.mem_remove, ih, Event.creates,
            reduceCtorEq, false_or, asStr_inj, ne_eq, Call.deleteClip.injEq, eq_comm]
      | getClip clipId => simp [file, ih, Event.creates]
      | latestClip => simp [file, ih, Event.creates]
      | clipHistory limit => simp [file, ih, Event.creates]

/-! ## The answers -/

/-- The rows a cleanup leaves are the live clips. -/
theorem mem_cleanup {before : List Event} {now : Timestamp} (fresh : FreshIds before)
    (ordered : Nondecreasing before) (past : ∀ event ∈ before, event.now ≤ now)
    (clip : ClipRecord) :
    clip ∈ ((clipsAfter before).cleanupExpiredClips now).rows ↔ Live before now clip := by
  have live : (clipsAfter before).cleanupExpiredClips now =
      (filed before).live clipIsExpired now := (lags_filed ordered past).live_eq
  rw [live, KeyedTable.mem_live, mem_filed fresh, clipIsExpired_eq_false_iff]
  rfl

/-- `get_clip` finds the row a cleanup would leave under the id. -/
theorem getClip_some_iff {clips : ClipTable} {now : Timestamp} {clipId : ClipId}
    {clip : ClipRecord} :
    (clips.getClip now clipId).1 = some clip ↔
      clip ∈ (clips.cleanupExpiredClips now).rows ∧ clip.clipId = clipId := by
  have row : clip ∈ (clips.cleanupExpiredClips now).rows ↔
      clips.get clip.clipId.asStr = some clip ∧ clipIsExpired now clip = false := by
    rw [← KeyedTable.mem_rows_iff]
    exact KeyedTable.mem_live
  rw [row, ClipTable.getClip]
  constructor
  · intro answer
    split at answer
    · cases answer
    · rename_i found stored
      split at answer
      · cases answer
      · rename_i unexpired
        cases answer
        have filedAs := KeyedTable.key_of_get stored
        have own : clip.clipId = clipId := asStr_inj.mp filedAs
        exact ⟨⟨own ▸ stored, Bool.eq_false_iff.mpr unexpired⟩, own⟩
  · rintro ⟨⟨stored, unexpired⟩, rfl⟩
    simp [stored, unexpired]

theorem latestClip_answers {before : List Event} {now : Timestamp} {clips : ClipTable}
    (rows : ∀ clip, clip ∈ (clips.cleanupExpiredClips now).rows ↔ Live before now clip) :
    Answers before now .latestClip (.clip (clips.latestClip now).1) := by
  refine ⟨?_, fun clip newest => ?_⟩
  · rw [ClipTable.latestClip, maxByKey_eq_none_iff, List.eq_nil_iff_forall_not_mem]
    exact forall_congr' fun clip => not_congr (rows clip)
  · obtain ⟨member, all⟩ := maxByKey_some newest
    exact ⟨(rows clip).mp member, fun other live => all other ((rows other).mpr live)⟩

theorem clipHistory_answers {before : List Event} {now : Timestamp} {clips : ClipTable}
    (rows : ∀ clip, clip ∈ (clips.cleanupExpiredClips now).rows ↔ Live before now clip)
    (limit : Nat) :
    Answers before now (.clipHistory limit) (.clips (clips.clipHistory now limit).1) := by
  have perm := sortByReverseKey_perm ClipRecord.createdAt
    (clips.cleanupExpiredClips now).rows
  refine ⟨_, fun clip => ?_, ?_, sortByReverseKey_pairwise _ _, rfl⟩
  · rw [perm.mem_iff, rows]
  · rw [perm.nodup_iff]
    exact (clips.cleanupExpiredClips now).sorted.imp fun below same =>
      absurd (congrArg (fun clip : ClipRecord => clip.clipId.asStr) same) below.ne

/-- No call drops a live clip that it is not asked to delete. -/
theorem step_keeps {before : List Event} {event : Event} (fresh : FreshIds (before ++ [event]))
    (lags : ClipLags event.now (clipsAfter before) (filed before)) {clip : ClipRecord}
    (member : clip ∈ (clipsAfter before).rows) (unexpired : clipIsExpired event.now clip = false)
    (undeleted : event.call ≠ .deleteClip clip.clipId) :
    clip ∈ (step (clipsAfter before) event).rows := by
  have stored : Stored before clip := by
    rw [← mem_filed fresh.front, KeyedTable.mem_rows_iff]
    exact lags.sub _ _ (KeyedTable.get_of_mem member)
  have still : clip ∈ (file (filed before) event).rows := by
    have kept : Stored (before ++ [event]) clip := stored_append.mpr (Or.inr ⟨stored, undeleted⟩)
    rwa [← filed_append, mem_filed fresh]
  rw [KeyedTable.mem_rows_iff] at still ⊢
  exact (lags_step lags).live _ _ still unexpired

/-- **The clip table answers as if expired clips vanished at once.** -/
theorem answers_timed {events : List Event} (fresh : FreshIds events)
    (ordered : Nondecreasing events) :
    ∀ before event later, events = before ++ event :: later → Timed before event := by
  rintro before event later rfl
  have freshNow : FreshIds (before ++ [event]) := by
    unfold FreshIds at *
    rw [List.append_cons, List.filterMap_append, List.map_append] at fresh
    exact (List.nodup_append.mp fresh).1
  obtain ⟨orderedBefore, -, across⟩ := List.pairwise_append.mp ordered
  have past : ∀ earlier ∈ before, earlier.now ≤ event.now :=
    fun earlier member => across earlier member event List.mem_cons_self
  have rows := mem_cleanup freshNow.front orderedBefore past
  constructor
  · obtain ⟨now, call⟩ := event
    cases call with
    | createClip ulid clip =>
        exact congrArg Prod.fst (ClipTable.createClip_eq ulid now clip (clipsAfter before))
    | getClip clipId => exact fun clip => getClip_some_iff.trans (and_congr_left' (rows clip))
    | latestClip => exact latestClip_answers rows
    | clipHistory limit => exact clipHistory_answers rows limit
    | deleteClip clipId => trivial
  · intro clip member unexpired undeleted
    rw [clipsAfter, runFrom_append]
    exact step_keeps freshNow (lags_filed orderedBefore past) member
      (clipIsExpired_eq_false_iff.mpr unexpired) undeleted

/-! ## A note that lingers -/

namespace Lingering

def clip (name : String) (createdAt : Timestamp) (expiresAt : Option Timestamp) : ClipRecord where
  clipId := ⟨name⟩
  sourceDeviceId := ⟨"dev_laptop"⟩
  createdAt := createdAt
  expiresAt := expiresAt
  kind := .text ⟨5, none, ⟨"inline", 5⟩, none⟩
  encryption := ⟨"plaintext", [], [], none⟩

/-- A note of ten seconds and a memo without an expiry; at 20 s the note is still a row. -/
def events : List Event :=
  [⟨seconds 1, .createClip "a" (clip "clip_note" (seconds 1) (some (seconds 10)))⟩,
   ⟨seconds 2, .createClip "b" (clip "clip_memo" (seconds 2) none)⟩,
   ⟨seconds 20, .getClip ⟨"clip_note"⟩⟩,
   ⟨seconds 21, .clipHistory 5⟩]

/-- Admitting pole: the lingering note is not answered, the memo is listed. -/
theorem note_gone :
    (events.take 2).map Event.creates = [some (clip "clip_note" (seconds 1) (some (seconds 10))),
      some (clip "clip_memo" (seconds 2) none)] ∧
    (clipsAfter (events.take 2)).rows.length = 2 ∧
    Timed (events.take 2) ⟨seconds 20, .getClip ⟨"clip_note"⟩⟩ ∧
    Timed (events.take 3) ⟨seconds 21, .clipHistory 5⟩ := by
  have fresh : FreshIds events := by decide
  have ordered : Nondecreasing events := by decide
  refine ⟨by decide, by decide, ?_, ?_⟩
  · exact answers_timed fresh ordered _ _ [⟨seconds 21, .clipHistory 5⟩] rfl
  · exact answers_timed fresh ordered _ _ [] rfl

end Lingering

end ClipStore

end AirPaste.Server
