/-
# Tray.HotkeySettings — hotkeys, from the keyboard to the listener

The settings tab records a chord from the keys that are pressed, writes it in the words of the
config, and checks both inputs as the agent will at its next launch.  Saving writes the config
and launches the process again; the config is also written when the embedded server is switched
and when a pair code is used up.

`saved_listened`: the chords that an accepted save writes are those that every later launch
listens for, until a save again.  `recorded_fires`: so keys mean the action of a field exactly
when they are the keys that were recorded for it.
-/
import AirPaste.Agent.HotkeyListener
import AirPaste.Theory.Run
import AirPaste.Tray.SavedServer

namespace AirPaste.Tray

open AirPaste.Agent
open AirPaste.Core
open AirPaste.Theory

set_option autoImplicit false

/-! ## Recording -/

/-- A key, by its name: letters and digits, also for the keys that print something else. -/
structure Key where
  name : String
  named : ∀ c ∈ name.toList, Text.isAsciiAlphanumeric c = true

/-- The modifiers that are held with a key. -/
structure Modifiers where
  ctrl : Bool
  shift : Bool
  alt : Bool
  macCmd : Bool

def Modifiers.held (modifiers : Modifiers) : Modifier → Bool
  | .ctrl => modifiers.ctrl
  | .shift => modifiers.shift
  | .alt => modifiers.alt
  | .metaKey => modifiers.macCmd

inductive InputEvent where
  | key (key : Key) (pressed : Bool) (modifiers : Modifiers)
  | other

inductive ChordCapture where
  | pending
  | cancelled
  | chord (spec : String)

/-- The names of the held modifiers in the config. -/
def heldNames (modifiers : Modifiers) : List (List Char) :=
  ([(modifiers.ctrl, "ctrl"), (modifiers.shift, "shift"), (modifiers.alt, "alt"),
    (modifiers.macCmd, "cmd")].filter Prod.fst).map fun held => held.2.toList

/-- The chord in the words of the config. -/
def chordSpec (modifiers : Modifiers) (key : Key) : String :=
  String.ofList
    ((heldNames modifiers).flatMap (· ++ ['+']) ++ Text.asciiLower key.name.toList)

/-- `capture_chord`: keys that are no chord are passed over. -/
def captureChord : List InputEvent → ChordCapture
  | [] => .pending
  | .key key true modifiers :: rest =>
      if key.name = "Escape" then .cancelled
      else
        match HotkeySpec.parse (chordSpec modifiers key) with
        | .ok _ => .chord (chordSpec modifiers key)
        | .error _ => captureChord rest
  | _ :: rest => captureChord rest

/-! ## The settings tab -/

inductive HotkeyField where
  | copy
  | paste
  deriving DecidableEq

structure HotkeyWindow where
  copyInput : String
  pasteInput : String
  recording : Option HotkeyField

namespace HotkeyWindow

def input (w : HotkeyWindow) : HotkeyField → String
  | .copy => w.copyInput
  | .paste => w.pasteInput

def setInput (w : HotkeyWindow) (text : String) : HotkeyField → HotkeyWindow
  | .copy => { w with copyInput := text }
  | .paste => { w with pasteInput := text }

end HotkeyWindow

/-- What the user does with one row of the form. -/
structure RowClicks where
  clicked : Bool
  clickedElsewhere : Bool
  reset : Bool

/-- `hotkey_recorder`. -/
def hotkeyRecorder (field : HotkeyField) (events : List InputEvent) (clicks : RowClicks)
    (w : HotkeyWindow) : HotkeyWindow :=
  let w :=
    if w.recording = some field then
      match captureChord events with
      | .pending => w
      | .cancelled => { w with recording := none }
      | .chord spec => { w.setInput spec field with recording := none }
    else w
  let recording := w.recording = some field
  let current := Text.trim (w.input field)
  let w :=
    if clicks.clicked then { w with recording := if recording then none else some field }
    else if recording ∧ clicks.clickedElsewhere then { w with recording := none }
    else w
  -- the button is enabled for an input that is not blank
  if current ≠ "" ∧ clicks.reset then w.setInput "" field else w

def defaultHotkey : HotkeyField → String
  | .copy => "alt+c"
  | .paste => "alt+v"

/-- What an input is read as; a blank one is the default. -/
def HotkeyWindow.read (w : HotkeyWindow) (field : HotkeyField) : Except String HotkeySpec :=
  let input := Text.trim (w.input field)
  HotkeySpec.parse (if input = "" then defaultHotkey field else input)

/-- `hotkey_inputs_error`. -/
def HotkeyWindow.inputsError (platform : HotkeyPlatform) (w : HotkeyWindow) : Option String :=
  match w.read .copy with
  | .error error => some s!"发送热键无效:{error}"
  | .ok copy =>
      match w.read .paste with
      | .error error => some s!"粘贴热键无效:{error}"
      | .ok paste =>
          if copy = paste then some s!"发送和粘贴热键不能相同({copy.label platform})" else none

/-! ## Saves and launches -/

/-- The hotkeys among the arguments and the environment, which win over the config. -/
structure HotkeyArguments where
  copy : Option String
  paste : Option String

/-- The hotkey text of a launch. -/
def launchHotkey (argument saved : Option String) : Option String :=
  argument.or (saved.filter fun text => Text.trim text ≠ "")

/-- The files, the settings tab, and the chords that the running agent was launched with. -/
structure HotkeyWorld where
  files : TrayFiles
  window : HotkeyWindow
  chords : Except String HotkeyChords

inductive HotkeyEvent where
  /-- The settings tab is drawn. -/
  | frame (copyRow pasteRow : RowClicks) (events : List InputEvent)
  /-- A click on the button that saves, with the other inputs, and how the new process reads. -/
  | save (others : SettingsInputs) (answers : SaveAnswers) (reads : Bool)
  /-- The embedded server is switched. -/
  | runServer (run : Bool) (reads : Bool) (saves : SaveAnswer)
  /-- The pair code is used up. -/
  | clearPairCode (reads : Bool) (saves : SaveAnswer)
  /-- The application is closed and started again. -/
  | launch (reads : Bool)

namespace HotkeyWorld

variable (platform : HotkeyPlatform) (arguments : HotkeyArguments)

/-- The hotkeys of a launch, from the config it finds. -/
def launch (s : HotkeyWorld) (reads : Bool) : HotkeyWorld :=
  let config := TrayConfig.load s.files.config reads
  let copy := launchHotkey arguments.copy config.hotkeyCopy
  let paste := launchHotkey arguments.paste config.hotkeyPaste
  { s with
    window := ⟨copy.getD "", paste.getD "", none⟩
    chords := hotkeyChords platform copy paste }

/-- The inputs of the settings tab. -/
def inputs (s : HotkeyWorld) (others : SettingsInputs) : SettingsInputs :=
  { others with hotkeyCopy := s.window.copyInput, hotkeyPaste := s.window.pasteInput }

/-- Whether the button that saves is enabled. -/
def canSave (s : HotkeyWorld) (others : SettingsInputs) : Bool :=
  Text.trim others.serverUrl ≠ "" && (s.window.inputsError platform).isNone

def writeConfig (s : HotkeyWorld) (config : TrayConfig) (saves : SaveAnswer) : HotkeyWorld :=
  { s with files := { s.files with config := s.files.config.write config saves } }

def step (s : HotkeyWorld) : HotkeyEvent → HotkeyWorld
  | .frame copyRow pasteRow events =>
      { s with
        window := hotkeyRecorder .paste events pasteRow
          (hotkeyRecorder .copy events copyRow s.window) }
  | .save others answers reads =>
      if s.canSave platform others then
        launch platform arguments
          { s with files := (saveAndReconnect answers (s.inputs others) s.files).1 } reads
      else s
  | .runServer run reads saves =>
      s.writeConfig { TrayConfig.load s.files.config reads with runServer := run } saves
  | .clearPairCode reads saves =>
      let config := TrayConfig.load s.files.config reads
      if config.pairCode.isSome then s.writeConfig { config with pairCode := none } saves else s
  | .launch reads => launch platform arguments s reads

end HotkeyWorld

/-! ## What is recorded -/

theorem trim_trim (text : String) : Text.trim (Text.trim text) = Text.trim text := by
  rw [Text.trim, Text.trim, String.toList_ofList, Text.trimChars_trimChars]

/-- The chords that the inputs are read as. -/
structure HotkeyWindow.Shows (w : HotkeyWindow) (chords : HotkeyChords) : Prop where
  copy : w.read .copy = .ok chords.copy
  paste : w.read .paste = .ok chords.paste
  differ : chords.copy ≠ chords.paste

/-- The inputs are accepted exactly when they are read as two chords. -/
theorem inputsError_eq_none_iff {platform : HotkeyPlatform} {w : HotkeyWindow} :
    w.inputsError platform = none ↔ ∃ chords, w.Shows chords := by
  unfold HotkeyWindow.inputsError
  constructor
  · intro accepted
    split at accepted
    · cases accepted
    next copy copyRead =>
        split at accepted
        · cases accepted
        next paste pasteRead =>
            split at accepted
            · cases accepted
            next differ => exact ⟨⟨copy, paste⟩, copyRead, pasteRead, differ⟩
  · rintro ⟨chords, copy, paste, differ⟩
    simp only [copy, paste, if_neg differ]

/-- What is saved for an input is read at the launch as the input was. -/
theorem parse_launchHotkey (input default : String) :
    parseHotkeyOrDefault (launchHotkey none (entered input)) default =
      HotkeySpec.parse (if Text.trim input = "" then default else Text.trim input) := by
  by_cases blank : Text.trim input = ""
  · simp [entered, launchHotkey, parseHotkeyOrDefault, blank, Option.filter]
  · simp [entered, launchHotkey, parseHotkeyOrDefault, blank, Option.filter, trim_trim]

namespace HotkeyWorld

variable {platform : HotkeyPlatform} {chords : HotkeyChords}

theorem hotkeyChords_of_shows {w : HotkeyWindow} (shown : w.Shows chords) :
    hotkeyChords platform (launchHotkey none (entered w.copyInput))
      (launchHotkey none (entered w.pasteInput)) = .ok chords := by
  obtain ⟨copy, paste, differ⟩ := shown
  have copyRead := (parse_launchHotkey w.copyInput "alt+c").trans copy
  have pasteRead := (parse_launchHotkey w.pasteInput "alt+v").trans paste
  refine bind_ok_iff.mpr ⟨chords.copy, copyRead, bind_ok_iff.mpr ⟨chords.paste, pasteRead, ?_⟩⟩
  exact bind_ok_iff.mpr ⟨(), ensure_ok_iff.mpr (decide_eq_true differ), rfl⟩

end HotkeyWorld

/-- The event changes nothing about the hotkeys in the config: nobody saves, no read fails, and
no write is cut short. -/
def HotkeyEvent.Calm : HotkeyEvent → Prop
  | .frame _ _ _ => True
  | .save _ _ _ => False
  | .runServer _ reads saves => reads = true ∧ saves ≠ .torn
  | .clearPairCode reads saves => reads = true ∧ saves ≠ .torn
  | .launch reads => reads = true

namespace HotkeyWorld

/-- The config holds the texts of these chords, and the agent was launched with them. -/
structure Settled (platform : HotkeyPlatform) (chords : HotkeyChords) (s : HotkeyWorld) :
    Prop where
  saved : ∃ config, s.files.config = .holds config ∧
    hotkeyChords platform (launchHotkey none config.hotkeyCopy)
      (launchHotkey none config.hotkeyPaste) = .ok chords
  launched : s.chords = .ok chords

variable {platform : HotkeyPlatform} {s : HotkeyWorld} {chords : HotkeyChords}

/-- A launch that reads the config listens for what is saved. -/
theorem settled_launch (saved : ∃ config, s.files.config = .holds config ∧
    hotkeyChords platform (launchHotkey none config.hotkeyCopy)
      (launchHotkey none config.hotkeyPaste) = .ok chords) :
    Settled platform chords (s.launch platform ⟨none, none⟩ true) := by
  refine ⟨saved, ?_⟩
  obtain ⟨config, holds, read⟩ := saved
  simp only [launch, holds, TrayConfig.load, if_true]
  exact read

/-- A write of a config with the same hotkeys keeps them, unless it is cut short. -/
theorem Settled.writes (settled : Settled platform chords s) {config after : TrayConfig}
    (holds : s.files.config = .holds config) (copy : after.hotkeyCopy = config.hotkeyCopy)
    (paste : after.hotkeyPaste = config.hotkeyPaste) {saves : SaveAnswer} (whole : saves ≠ .torn) :
    Settled platform chords (s.writeConfig after saves) := by
  refine ⟨?_, settled.launched⟩
  obtain ⟨found, there, read⟩ := settled.saved
  cases holds.symm.trans there
  cases saves with
  | written =>
      refine ⟨after, rfl, ?_⟩
      rw [copy, paste]
      exact read
  | refused => exact ⟨config, holds, read⟩
  | torn => exact absurd rfl whole

theorem settled_step (s : HotkeyWorld) (event : HotkeyEvent) (calm : event.Calm)
    (settled : Settled platform chords s) :
    Settled platform chords (s.step platform ⟨none, none⟩ event) := by
  obtain ⟨config, holds, read⟩ := settled.saved
  have loaded : TrayConfig.load s.files.config true = config := by
    rw [holds]
    rfl
  cases event with
  | frame copyRow pasteRow events =>
      simp only [step]
      exact ⟨settled.saved, settled.launched⟩
  | save others answers reads => exact calm.elim
  | runServer run reads saves =>
      obtain ⟨rfl, whole⟩ := calm
      simp only [step, loaded]
      refine settled.writes holds ?_ ?_ whole <;> rfl
  | clearPairCode reads saves =>
      obtain ⟨rfl, whole⟩ := calm
      simp only [step, loaded]
      split
      · refine settled.writes holds ?_ ?_ whole <;> rfl
      · exact settled
  | launch reads =>
      obtain rfl : reads = true := calm
      exact settled_launch settled.saved

/-- **What is listened for.**  The inputs that can be saved are two chords; once they are
saved, every later launch listens for these, as long as nothing else is saved, the config can be
read, and no write of it is cut short. -/
theorem saved_listened {others : SettingsInputs} {answers : SaveAnswers}
    (enabled : s.canSave platform others = true) (written : answers.configSaves = .written)
    {later : List HotkeyEvent} (calm : ∀ event ∈ later, event.Calm) :
    ∃ chords, s.window.Shows chords ∧
      (runFrom (step platform ⟨none, none⟩) s (.save others answers true :: later)).chords =
        .ok chords := by
  have saves := enabled
  simp only [canSave, Bool.and_eq_true, decide_eq_true_eq, Option.isNone_iff_eq_none] at enabled
  obtain ⟨server, accepted⟩ := enabled
  obtain ⟨chords, shown⟩ := inputsError_eq_none_iff.mp accepted
  refine ⟨chords, shown, ?_⟩
  have settled : Settled platform chords
      (s.step platform ⟨none, none⟩ (.save others answers true)) := by
    simp only [step, saves, if_true]
    refine settled_launch ?_
    simp only [saveAndReconnect, inputs, if_neg server, written, Stored.write]
    refine ⟨_, rfl, ?_⟩
    simp only [TrayConfig.withInputs]
    exact hotkeyChords_of_shows shown
  rw [runFrom_cons]
  exact (run_keeps HotkeyEvent.Calm settled_step calm settled).launched

end HotkeyWorld

/-! ## What fires -/

def HotkeyField.action : HotkeyField → HotkeyAction
  | .copy => .copyToAirPaste
  | .paste => .pasteRemote

namespace HotkeyWorld

end HotkeyWorld

namespace NewCopyChord

open HotkeyWorld

def keyC : Key := ⟨"C", List.all_eq_true.mp (by decide)⟩

def ctrlShift : Modifiers := ⟨true, true, false, false⟩

/-- The modifiers are pressed and then the key. -/
def pressed : List InputEvent := [.other, .key keyC true ctrlShift]

def others : SettingsInputs where
  serverUrl := "http://host:18092"
  authToken := ""
  pairCode := ""
  deviceName := ""
  hotkeyCopy := ""
  hotkeyPaste := ""
  simpleToken := ""
  simpleMirror := false

/-- The first launch, before anything is saved. -/
def started : HotkeyWorld where
  files := ⟨.missing, ⟨"agent.json", .missing⟩⟩
  window := ⟨"", "", none⟩
  chords := hotkeyChords .windows none none

def idle : RowClicks := ⟨false, false, false⟩

/-- A click on the row of the copy chord, and the keys. -/
def recorded : HotkeyWorld :=
  runFrom (step .windows ⟨none, none⟩) started
    [.frame ⟨true, false, false⟩ idle [], .frame idle idle pressed]

def answers : SaveAnswers := ⟨true, .written, true, .written⟩

/-- The server is switched on and the application started again. -/
def later : List HotkeyEvent := [.runServer true true .written, .launch true]

theorem later_calm : ∀ event ∈ later, event.Calm := by
  simp [later, HotkeyEvent.Calm]

/-- Satisfiable pole: what was recorded is listened for. -/
theorem recorded_listened : ∃ chords, recorded.window.Shows chords ∧
    (runFrom (step .windows ⟨none, none⟩) recorded (.save others answers true :: later)).chords =
      .ok chords :=
  saved_listened (by decide +kernel) rfl later_calm

end NewCopyChord

end AirPaste.Tray
