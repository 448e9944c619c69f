/-
# Agent.BorrowedClipboard — the clipboard that a paste borrows

The hotkey pastes a text of the inbox through the system clipboard: it saves what is there,
puts the text there, synthesizes the paste and writes back what it saved.  The clipboard holds
a text, a file list and a bitmap, or some of them; only the text is saved, and a write leaves
nothing but a text.

`givesBack_iff`: a paste that succeeds leaves the clipboard as it was exactly when that held a
text alone, which the paste read and wrote back unchanged (or, with nothing written back, the
very text that was pasted).  On Windows a text survives this when it is well-formed UTF-16
(`wide_survives_iff`).
-/
import AirPaste.Agent.InboxDesk
import AirPaste.Theory.Utf16

namespace AirPaste.Agent

open AirPaste.Core
open AirPaste.Theory

set_option autoImplicit false

/-! ## How a platform keeps a text -/

structure TextFormat (T : Type) where
  /-- The text that `get_text` makes of what is kept. -/
  read : T → String
  /-- What `set_text` leaves. -/
  write : String → T

/-- What reading and writing back leaves unchanged. -/
def TextFormat.Survives {T : Type} (format : TextFormat T) (kept : T) : Prop :=
  format.write (format.read kept) = kept

/-- The pasteboard of macOS keeps the text itself. -/
def plainText : TextFormat String := ⟨id, id⟩

/-- The units of `CF_UNICODETEXT` before the one that ends the text. -/
structure WideText where
  units : List UInt16
  ended : 0 ∉ units

/-- What a reader finds in a block of units. -/
def WideText.ofBlock (block : List UInt16) : WideText where
  units := block.takeWhile (· != 0)
  ended := fun member => absurd (List.mem_takeWhile_imp member) (by simp)

/-- The clipboard of Windows keeps UTF-16, and is read with `from_utf16_lossy`. -/
def wideText : TextFormat WideText where
  read := fun kept => String.ofList (Utf16.lossy kept.units)
  write := fun text => .ofBlock (Utf16.encode text.toList)

theorem plain_survives (text : String) : plainText.Survives text := rfl

theorem wide_survives_iff (kept : WideText) :
    wideText.Survives kept ↔ Utf16.WellFormed kept.units := by
  have free := Utf16.zero_not_mem_encode_lossy kept.ended
  have whole : (Utf16.encode (Utf16.lossy kept.units)).takeWhile (· != 0) =
      Utf16.encode (Utf16.lossy kept.units) :=
    List.takeWhile_eq_self_iff.mpr fun u member => by
      rw [bne_iff_ne]
      rintro rfl
      exact free member
  rw [← Utf16.encode_lossy_iff]
  obtain ⟨units, ended⟩ := kept
  simp only [TextFormat.Survives, wideText, WideText.ofBlock, String.toList_ofList, whole,
    WideText.mk.injEq]

/-! ## The clipboard -/

structure ClipboardImage where
  width : Nat
  height : Nat
  rgba : List UInt8

/-- What the clipboard holds of each kind. -/
structure ClipboardContent (T P : Type) where
  text : Option T
  files : Option (List P)
  image : Option ClipboardImage

inductive ReadAnswer where
  | reads
  /-- `GetClipboardData` has no text to give. -/
  | misses
  | fails
  deriving DecidableEq

inductive WriteAnswer where
  | written
  | refused
  /-- The clipboard was emptied before the write failed. -/
  | emptied
  deriving DecidableEq

/-- How the calls of one paste end. -/
structure BorrowAnswers where
  reading : ReadAnswer
  sets : WriteAnswer
  pastes : Bool
  restores : WriteAnswer

/-- The clipboard, and the texts that `set_text` was called with. -/
structure Borrow (T P : Type) where
  content : ClipboardContent T P
  writes : List String

def pastedToast : Toast := .info "已粘贴"

def leftToast : Toast := .error "自动粘贴失败,内容已留在剪贴板,可手动 Cmd+V"

namespace Borrow

variable {T P : Type} (format : TextFormat T) (answers : BorrowAnswers)

def getText (s : Borrow T P) : ReadAnswer → Except Failure (Option String)
  | .reads => .ok (s.content.text.map format.read)
  | .misses => .ok none
  | .fails => .error .io

def setText (s : Borrow T P) (text : String) : WriteAnswer → Except Failure Unit × Borrow T P
  | .written => (.ok (), ⟨⟨some (format.write text), none, none⟩, s.writes ++ [text]⟩)
  | .refused => (.error .io, ⟨s.content, s.writes ++ [text]⟩)
  | .emptied => (.error .io, ⟨⟨none, none, none⟩, s.writes ++ [text]⟩)

/-- What was saved is written back; how that ends is ignored. -/
def restore (s : Borrow T P) : Option String → Borrow T P
  | none => s
  | some previous => (s.setText format previous answers.restores).2

def pasteInboxText (inbox : List InboxItem) (s : Borrow T P) :
    Except Failure (Option Toast) × Borrow T P :=
  match newestText inbox with
  | none => (.ok none, s)
  | some text =>
      let saved := (s.getText format answers.reading).toOption.join
      match s.setText format text answers.sets with
      | (.error failure, after) => (.error failure, after)
      | (.ok (), after) =>
          if answers.pastes then
            (.ok (some pastedToast), after.restore format answers saved)
          -- The text is left for a manual paste.
          else (.ok (some leftToast), after)

variable {format answers} {inbox : List InboxItem} {text : String}

theorem pasteInboxText_none (empty : newestText inbox = none) (s : Borrow T P) :
    s.pasteInboxText format answers inbox = (.ok none, s) := by
  unfold pasteInboxText
  rw [empty]

theorem pasteInboxText_pasted (newest : newestText inbox = some text)
    (sets : answers.sets = .written) (pastes : answers.pastes = true) (s : Borrow T P) :
    s.pasteInboxText format answers inbox =
      (.ok (some pastedToast),
        (s.setText format text .written).2.restore format answers
          (s.getText format answers.reading).toOption.join) := by
  unfold pasteInboxText
  rw [newest, sets]
  simp only [setText, pastes, if_true]

/-- The paste succeeds only with a text, when that was put on the clipboard. -/
theorem pasted_iff (s : Borrow T P) :
    (s.pasteInboxText format answers inbox).1 = .ok (some pastedToast) ↔
      (newestText inbox).isSome = true ∧ answers.sets = .written ∧ answers.pastes = true := by
  cases newest : newestText inbox with
  | none => simp [pasteInboxText_none newest]
  | some text =>
      unfold pasteInboxText
      rw [newest]
      rcases sets : answers.sets with - | - | -
      · cases pastes : answers.pastes
        · simp [setText, pastedToast, leftToast, Toast.info, Toast.error]
        · simp [setText]
      · simp [setText]
      · simp [setText]

/-- The desk's account of a paste is this one, without the clipboard. -/
theorem pasteInboxText_desk (surroundings : Surroundings) (machine : Receiver)
    (s : Borrow T P) :
    (s.pasteInboxText format answers inbox).1 =
      (Agent.pasteInboxText
          ⟨surroundings, machine, decide (answers.sets = .written), answers.pastes⟩ inbox).elim
        (.ok none) fun pasted => pasted.2.map some := by
  unfold Agent.pasteInboxText
  cases newest : newestText inbox with
  | none => rw [pasteInboxText_none newest, Option.map_none, Option.elim_none]
  | some text =>
      unfold pasteInboxText pasteText
      rw [newest]
      rcases answers.sets with - | - | -
      · cases answers.pastes <;> rfl
      · rfl
      · rfl

/-! ## What is given back -/

/-- A paste that succeeds leaves the content as it was, and without a text in the inbox nothing
is written. -/
def GivesBack (format : TextFormat T) (answers : BorrowAnswers) (inbox : List InboxItem)
    (before : ClipboardContent T P) : Prop :=
  let outcome := pasteInboxText format answers inbox ⟨before, []⟩
  (outcome.1 = .ok (some pastedToast) → outcome.2.content = before) ∧
    (newestText inbox = none → outcome.2.writes = [])

/-- The content is a text alone, and the one that the paste leaves: it was read and written
back, or it is the pasted text where nothing is written back. -/
def Restorable (format : TextFormat T) (answers : BorrowAnswers) (text : String)
    (before : ClipboardContent T P) : Prop :=
  ∃ kept, before = ⟨some kept, none, none⟩ ∧
    (answers.reading = .reads ∧ answers.restores = .written ∧ format.Survives kept ∨
      (answers.reading ≠ .reads ∨ answers.restores = .refused) ∧ kept = format.write text)

theorem restored_content_iff (before : ClipboardContent T P) :
    ((setText format ⟨before, []⟩ text .written).2.restore format answers
        (getText format ⟨before, []⟩ answers.reading).toOption.join).content = before ↔
      Restorable format answers text before := by
  rw [eq_comm]
  obtain ⟨reading, sets, pastes, restores⟩ := answers
  obtain ⟨held, files, image⟩ := before
  unfold Restorable TextFormat.Survives
  cases reading with
  | reads =>
      cases held with
      | none => simp [getText, restore, setText, Except.toOption]
      | some kept =>
          cases restores with
          | written =>
              simp only [getText, restore, setText, Except.toOption, Option.map_some,
                Option.join_some, ClipboardContent.mk.injEq, Option.some.injEq]
              constructor
              · rintro ⟨same, rfl, rfl⟩
                exact ⟨kept, ⟨rfl, rfl, rfl⟩, .inl ⟨trivial, trivial, same.symm⟩⟩
              · rintro ⟨_, ⟨rfl, rfl, rfl⟩, ⟨-, -, survives⟩ | ⟨wrong | wrong, -⟩⟩
                · exact ⟨survives.symm, rfl, rfl⟩
                · exact absurd rfl wrong
                · cases wrong
          | refused => simp [getText, restore, setText, Except.toOption, and_comm]
          | emptied => simp [getText, restore, setText, Except.toOption]
  | misses => simp [getText, restore, setText, Except.toOption, and_comm]
  | fails => simp [getText, restore, setText, Except.toOption, and_comm]

/-- **When the clipboard is given back**: no text is pasted, or the clipboard held a text alone
that the paste leaves there. -/
theorem givesBack_iff (format : TextFormat T) (answers : BorrowAnswers)
    (inbox : List InboxItem) (before : ClipboardContent T P) :
    GivesBack format answers inbox before ↔
      ∀ text, newestText inbox = some text → answers.sets = .written → answers.pastes = true →
        Restorable format answers text before := by
  unfold GivesBack
  dsimp only
  rw [pasted_iff]
  cases newest : newestText inbox with
  | none => simp [pasteInboxText_none newest]
  | some pasted =>
      constructor
      · rintro ⟨back, -⟩ text same sets pastes
        cases same
        have content := back ⟨rfl, sets, pastes⟩
        rw [pasteInboxText_pasted newest sets pastes] at content
        exact (restored_content_iff before).mp content
      · intro restorable
        refine ⟨?_, fun wrong => by cases wrong⟩
        rintro ⟨-, sets, pastes⟩
        rw [pasteInboxText_pasted newest sets pastes]
        exact (restored_content_iff before).mpr (restorable pasted rfl sets pastes)

end Borrow

namespace CopiedImage

/-- A screenshot is on the clipboard. -/
def copied : ClipboardContent WideText String := ⟨none, none, some ⟨1, 1, [200, 200, 200, 255]⟩⟩

def inbox : List InboxItem := [⟨1, .text "hello"⟩]

/-- Every call succeeds. -/
def answers : BorrowAnswers := ⟨.reads, .written, true, .written⟩

/-- Refuting pole: nothing was saved, and the pasted text stays. -/
theorem copied_lost : ¬ ∀ (answers : BorrowAnswers) (inbox : List InboxItem)
    (before : ClipboardContent WideText String),
    Borrow.GivesBack wideText answers inbox before := by
  intro always
  have back := (always answers inbox copied).1 rfl
  exact absurd (congrArg ClipboardContent.image back) (fun same => by cases same)

end CopiedImage

end AirPaste.Agent
