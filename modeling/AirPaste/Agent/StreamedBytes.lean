/-
# Agent.StreamedBytes — what a stream has written before its size is checked

`download_peer_file_to_cache` writes every chunk as it arrives and counts the bytes, but
compares the count with the declared size only when the stream has ended.  `streamedTo` is
the receiver after the first chunks of a stream, and `WithinDeclared` the property that none
of these states has more in the temporary file than the declared size and the chunk written
last.  `withinDeclared_iff`: the property holds exactly when the chunks before the last one
do not exceed the declared size.
-/
import AirPaste.Agent.EntryDownload

namespace AirPaste.Agent

open AirPaste.Core
open AirPaste.Theory
open AirPaste.Theory.Machine

set_option autoImplicit false

section Stream

variable (x : Surroundings) (machine : Receiver) (index : Nat) (destination : LexPath String)
  (entry : FileEntry) (chunks : List (List UInt8))

/-- The loop over these chunks, from the temporary file just created on. -/
def received : Option (List UInt8) × Receiver :=
  receiveChunks x index (temporaryPath destination) chunks []
    (openedTemporary x machine index destination)

/-- The receiver after the first `n` chunks. -/
def streamedTo (n : Nat) : Receiver := (received x machine index destination (chunks.take n)).2

/-- The first `n` chunks have been written. -/
def WrittenTo (n : Nat) : Prop :=
  (received x machine index destination (chunks.take n)).1.isSome = true

/-- Whenever a chunk has been handed to the file, there is no more in it than the declared size
and that chunk. -/
def WithinDeclared : Prop :=
  CanOpen x machine index destination → ∀ n chunk, chunks[n]? = some chunk →
    WrittenTo x machine index destination chunks n →
    ∀ bytes, (streamedTo x machine index destination chunks (n + 1)).disk
        (temporaryPath destination).locate = some (.file bytes) →
      bytes.length ≤ entry.size + chunk.length

/-- The temporary file can be created, and no write of these chunks fails. -/
structure WritesAll : Prop where
  can : CanOpen x machine index destination
  works : ∀ n < chunks.length,
    x.fault ((openedTemporary x machine index destination).calls + n) = none

variable {x machine index destination entry chunks}

/-- The loop goes through the states of its beginnings. -/
theorem receiveChunks_append {temporary : LexPath String} {first : List (List UInt8)}
    (second : List (List UInt8)) {got more : List UInt8} {machine after : Receiver}
    (written : receiveChunks x index temporary first got machine = (some more, after)) :
    receiveChunks x index temporary (first ++ second) got machine =
      receiveChunks x index temporary second more after := by
  induction first generalizing got machine with
  | nil =>
      cases written
      rfl
  | cons chunk rest ih =>
      unfold receiveChunks at written
      rw [List.cons_append, receiveChunks]
      generalize machine.writeAll x.fault (some index) temporary chunk = result at written ⊢
      obtain ⟨works, next⟩ := result
      cases works with
      | true => exact ih written
      | false => cases written

theorem openedTemporary_content (can : CanOpen x machine index destination) :
    (openedTemporary x machine index destination).disk (temporaryPath destination).locate =
      some (.file []) := by
  obtain ⟨made, -, -, -, disk⟩ := openedTemporary_spec can
  rw [disk, Disk.set_self]

/-- After chunks that were written, the temporary file has them. -/
theorem received_written (can : CanOpen x machine index destination) {more : List UInt8}
    {after : Receiver}
    (written : received x machine index destination chunks = (some more, after)) :
    more = chunks.flatten ∧
      after.disk (temporaryPath destination).locate = some (.file chunks.flatten) ∧
      after.calls = (openedTemporary x machine index destination).calls + chunks.length := by
  rcases receiveChunks_cases x index chunks (openedTemporary_content can) with
    ⟨last, all, disk, calls, -⟩ | ⟨last, part, stopped, -⟩
  · rw [List.nil_append] at all disk
    cases written.symm.trans all
    refine ⟨rfl, ?_, calls⟩
    rw [disk, Disk.set_self]
  · cases written.symm.trans stopped

/-- One more chunk adds its bytes, or some of them when its write fails. -/
theorem received_concat (can : CanOpen x machine index destination) (chunk : List UInt8)
    (written : (received x machine index destination chunks).1.isSome = true) :
    ∃ added, (added = chunk ∨ added.length ≤ chunk.length ∧
        x.fault ((openedTemporary x machine index destination).calls + chunks.length) ≠ none) ∧
      (received x machine index destination (chunks ++ [chunk])).2.disk
        (temporaryPath destination).locate = some (.file (chunks.flatten ++ added)) := by
  cases loop : received x machine index destination chunks with
  | mk result after =>
    rw [loop] at written
    obtain ⟨more, rfl⟩ := Option.isSome_iff_exists.mp written
    obtain ⟨rfl, content, calls⟩ := received_written can loop
    have next := receiveChunks_append [chunk] loop
    rw [received, next, receiveChunks, ← calls]
    obtain ⟨last, -, ⟨-, result, disk⟩ | ⟨n, fails, result, disk⟩⟩ :=
      writeAll_cases x.fault after (some index) (temporaryPath destination) chunk
    · rw [result]
      refine ⟨chunk, .inl rfl, ?_⟩
      change last.disk _ = _
      rw [disk, Disk.append_file content]
    · rw [result]
      refine ⟨chunk.take n, .inr ⟨List.length_take_le' n chunk, ?_⟩, ?_⟩
      · rw [fails]
        exact nofun
      · rw [disk, Disk.append_file content]

theorem writtenTo_of_writesAll (writes : WritesAll x machine index destination chunks) (n : Nat) :
    WrittenTo x machine index destination chunks n := by
  unfold WrittenTo received
  rcases receiveChunks_cases x index (chunks.take n) (openedTemporary_content writes.can) with
    ⟨last, all, -⟩ | ⟨last, part, -, -, m, within, failed⟩
  · rw [all]
    rfl
  · rw [List.length_take] at within
    exact absurd (writes.works m (by omega)) failed

/-- The chunks before the last one are the most that is written before a chunk. -/
theorem flatten_take_le {n : Nat} (within : n < chunks.length) :
    (chunks.take n).flatten.length ≤ chunks.dropLast.flatten.length := by
  have initial : chunks.take n = chunks.dropLast.take n := by
    rw [List.dropLast_eq_take, List.take_take, Nat.min_eq_left (by omega)]
  calc (chunks.take n).flatten.length
      ≤ ((chunks.dropLast.take n).flatten ++ (chunks.dropLast.drop n).flatten).length := by
        rw [initial, List.length_append]
        exact Nat.le_add_right _ _
    _ = chunks.dropLast.flatten.length := by
        rw [← List.flatten_append, List.take_append_drop]

/-- A stream that keeps to the declared size up to its last chunk keeps the bound, whatever
fails. -/
theorem withinDeclared_of_le (declared : chunks.dropLast.flatten.length ≤ entry.size) :
    WithinDeclared x machine index destination entry chunks := by
  intro can n chunk here written bytes content
  obtain ⟨within, rfl⟩ := List.getElem?_eq_some_iff.mp here
  obtain ⟨added, amount, disk⟩ := received_concat can chunks[n] written
  rw [streamedTo, List.take_add_one, here, Option.toList_some, disk] at content
  cases content
  have before := flatten_take_le within
  rw [List.length_append]
  rcases amount with rfl | ⟨part, -⟩
  · omega
  · omega

/-- Where nothing fails, the last chunk shows what was written before it. -/
theorem le_of_withinDeclared (writes : WritesAll x machine index destination chunks)
    (bounded : WithinDeclared x machine index destination entry chunks) :
    chunks.dropLast.flatten.length ≤ entry.size := by
  rcases List.eq_nil_or_concat' chunks with rfl | ⟨before, last, rfl⟩
  · exact Nat.zero_le _
  · rw [List.dropLast_concat]
    have here : (before ++ [last])[before.length]? = some last := List.getElem?_concat_length
    have written := writtenTo_of_writesAll writes before.length
    have loop := written
    rw [WrittenTo, List.take_left' rfl] at loop
    obtain ⟨added, amount, disk⟩ := received_concat writes.can last loop
    have whole : added = last := by
      rcases amount with same | ⟨-, failed⟩
      · exact same
      · refine absurd (writes.works before.length ?_) failed
        rw [List.length_append, List.length_singleton]
        exact Nat.lt_succ_self _
    subst whole
    have bound := bounded writes.can before.length added here written
      (before.flatten ++ added) (by
        rw [streamedTo, List.take_of_length_le (by simp)]
        exact disk)
    rw [List.length_append] at bound
    omega

end Stream

/-! ## One declared byte, and three -/

namespace OneByte

theorem writes (chunks : List (List UInt8)) :
    WritesAll surroundings blank 0 (clipDir.child "notes.txt") chunks where
  can := by
    unfold CanOpen
    decide +kernel
  works := fun _ _ => rfl

end OneByte

/-- **The bound on what a peer can make the receiver write** holds in every surroundings
exactly for the streams that do not exceed the declared size before their last chunk; and a
run in which every write succeeds tells by itself. -/
theorem withinDeclared_iff (entry : FileEntry) (chunks : List (List UInt8)) :
    ((∀ (x : Surroundings) (machine : Receiver) (index : Nat) (destination : LexPath String),
        WithinDeclared x machine index destination entry chunks) ↔
      chunks.dropLast.flatten.length ≤ entry.size) ∧
    ∀ (x : Surroundings) (machine : Receiver) (index : Nat) (destination : LexPath String),
      WritesAll x machine index destination chunks →
      (WithinDeclared x machine index destination entry chunks ↔
        chunks.dropLast.flatten.length ≤ entry.size) := by
  refine ⟨⟨fun always => ?_, fun declared x machine index destination =>
    withinDeclared_of_le declared⟩, fun x machine index destination writes =>
      ⟨le_of_withinDeclared writes, withinDeclared_of_le⟩⟩
  exact le_of_withinDeclared (OneByte.writes chunks)
    (always OneByte.surroundings OneByte.blank 0 (OneByte.clipDir.child "notes.txt"))

namespace OneByte

/-- A clip of the notes, of one byte. -/
def notesClip : FileClip where
  files := [notes lower]
  totalSize := 1
  transferToken := ⟨"tt_1"⟩
  sourcePeerUrl := none
  transferExpiresAt := none

def onePolicy : FileTransferPolicy := ⟨1, 1, 1, seconds 600, 600⟩

/-- Refuting pole: the manifest of one byte is accepted, and a peer that streams three has them
all in the temporary file. -/
theorem three_written : ¬ ∀ (x : Surroundings) (fileClip : FileClip)
    (filePolicy : FileTransferPolicy) (entry : FileEntry),
    validateFileClip x fileClip filePolicy = .ok () → entry ∈ fileClip.files →
      ∀ (machine : Receiver) (index : Nat) (destination : LexPath String)
        (chunks : List (List UInt8)),
        WithinDeclared x machine index destination entry chunks := by
  intro always
  have bounded := always surroundings notesClip onePolicy (notes lower) (by rfl)
    List.mem_cons_self blank 0 (clipDir.child "notes.txt") [[97], [97], [97]]
  exact absurd (le_of_withinDeclared (writes [[97], [97], [97]]) bounded) (by decide)

end OneByte

end AirPaste.Agent
