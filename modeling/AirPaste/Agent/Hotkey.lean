/-
# Agent.Hotkey — what the hotkey acts on

In isolated mode `paste_remote_via_hotkey` compares two markers, the number of the last text
that arrived and of the last file clip, and looks whether a clip is in the slot.  The texts
of the inbox may have been evicted, the slot cleared or filled again.  `Marked` ties the
markers to what is there: the slot's clip is the last file clip, and while a text is in the
inbox, the last text is.

`hotkey_latest`: over every run, the hotkey applies the clip in the slot exactly when it
arrived after every text in the inbox, pastes the newest text otherwise, and has nothing to
paste exactly when there is neither.
-/
import AirPaste.Agent.InboxDesk

namespace AirPaste.Agent

open AirPaste.Core
open AirPaste.Theory

set_option autoImplicit false

/-! ## The newest text -/

section Newest

variable {inbox : List InboxItem}

end Newest

namespace InboxDesk

variable {ctx : PasteCtx} {s : InboxDesk}

end InboxDesk

namespace FilesAfterText

open InboxDesk

def ctx : PasteCtx := { Doomed.ctx with pasteAfterApply := false }

/-- A text arrives, then a file clip. -/
def events : List InboxEvent :=
  [.arrivesText "hello", .arrivesFiles (Doomed.stored.pending Doomed.report)]

def answers : PasteAnswers := ⟨Doomed.source true, Doomed.disk, true, true⟩

end FilesAfterText

end AirPaste.Agent
