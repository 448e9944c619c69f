/-
# Tray.SavedServer — saving the settings, and the device id

Saving the settings writes the entered server to the config of the tray and launches it again.
The device id of the state file is cleared unless the entered text is the very text of the last
save: that text alone is compared, while a client drops the slashes at the end of its URL.

`keepsIdentity_iff` says which saves keep the id for the server it belongs to and clear it, but
not the keys, for another one.  A config that was never saved remembers no server, so the first
save clears the id whatever is entered (`first_save_clears`), also for the server that the
agent runs on (`FirstSave.sameServer_forgotten`).
-/
import AirPaste.Agent.AgentState

namespace AirPaste.Tray

open AirPaste.Agent
open AirPaste.Core
open AirPaste.Theory

set_option autoImplicit false

structure TrayConfig where
  serverUrl : Option String
  authToken : Option String
  pairCode : Option String
  /-- The server of the last save. -/
  lastServerUrl : Option String
  runServer : Bool
  simpleToken : Option String
  simpleMirror : Bool
  deviceName : Option String
  hotkeyCopy : Option String
  hotkeyPaste : Option String
  deriving DecidableEq

namespace TrayConfig

/-- `TrayConfig::default`. -/
def empty : TrayConfig :=
  ⟨none, none, none, none, false, none, false, none, none, none⟩

/-- A config that is missing, unreadable or malformed is the default. -/
def load (file : Stored TrayConfig) (reads : Bool) : TrayConfig :=
  match file with
  | .holds config => if reads then config else .empty
  | _ => .empty

end TrayConfig

/-- The server of a launch: an argument other than the default wins over the config. -/
def launchServerUrl (argument : String) (config : TrayConfig) : String :=
  if argument = defaultServerUrl then
    (config.serverUrl.filter fun url => Text.trim url ≠ "").getD argument
  else argument

/-- What stands in the settings tab. -/
structure SettingsInputs where
  serverUrl : String
  authToken : String
  pairCode : String
  deviceName : String
  hotkeyCopy : String
  hotkeyPaste : String
  simpleToken : String
  simpleMirror : Bool

/-- A field that is left blank is not set. -/
def entered (input : String) : Option String := (some (Text.trim input)).filter (· ≠ "")

/-- How the calls on the two files end. -/
structure SaveAnswers where
  configReads : Bool
  configSaves : SaveAnswer
  stateReads : Bool
  stateSaves : SaveAnswer

structure TrayFiles where
  config : Stored TrayConfig
  state : StateFile

def clearDeviceId (file : StateFile) (reads : Bool) (saves : SaveAnswer) : StateFile :=
  match file.load reads with
  | .ok state =>
      if state.deviceId.isSome then (file.save { state with deviceId := none } saves).2 else file
  | .error _ => file

/-- The config that is saved for the inputs. -/
def TrayConfig.withInputs (config : TrayConfig) (inputs : SettingsInputs) (serverUrl : String) :
    TrayConfig :=
  { config with
    serverUrl := some serverUrl
    authToken := entered inputs.authToken
    pairCode := entered inputs.pairCode
    deviceName := entered inputs.deviceName
    hotkeyCopy := entered inputs.hotkeyCopy
    hotkeyPaste := entered inputs.hotkeyPaste
    simpleToken := entered inputs.simpleToken
    simpleMirror := inputs.simpleMirror
    lastServerUrl := some serverUrl }

/-- The files after `save_and_reconnect`, and whether the process is launched again. -/
def saveAndReconnect (answers : SaveAnswers) (inputs : SettingsInputs) (files : TrayFiles) :
    TrayFiles × Bool :=
  let serverUrl := Text.trim inputs.serverUrl
  if serverUrl = "" then (files, false)
  else
    let config := TrayConfig.load files.config answers.configReads
    let serverChanged : Bool := config.lastServerUrl ≠ some serverUrl
    let config := config.withInputs inputs serverUrl
    ({ config := files.config.write config answers.configSaves
       state :=
        if serverChanged then clearDeviceId files.state answers.stateReads answers.stateSaves
        else files.state }, true)

/-! ## What becomes of the identity -/

section Identity

variable {answers : SaveAnswers} {inputs : SettingsInputs} {files : TrayFiles}

/-- The server that is remembered. -/
def lastServerUrl (answers : SaveAnswers) (files : TrayFiles) : Option String :=
  (TrayConfig.load files.config answers.configReads).lastServerUrl

/-- For the server that the running agent is registered with the id stays; for another one it
is cleared and the keys stay. -/
def KeepsIdentity (answers : SaveAnswers) (inputs : SettingsInputs) (files : TrayFiles)
    (running : ServerClient) : Prop :=
  let after := (saveAndReconnect answers inputs files).1.state
  ∀ client, ServerClient.new (Text.trim inputs.serverUrl) (entered inputs.authToken) = .ok client →
    (client.baseUrl = running.baseUrl → after.deviceId = files.state.deviceId) ∧
      (client.baseUrl ≠ running.baseUrl →
        after.deviceId = none ∧ after.keys = files.state.keys)

section Clear

variable {file : StateFile} {state : AgentState} {device : DeviceId} (path : String)
  (reads : Bool) (saves : SaveAnswer)

theorem clearDeviceId_uncached (uncached : file.deviceId = none) :
    clearDeviceId file reads saves = file := by
  obtain ⟨path, stored⟩ := file
  unfold clearDeviceId
  cases stored with
  | missing => rfl
  | garbled => cases reads <;> rfl
  | holds state =>
      have none : state.deviceId = none := uncached
      cases reads with
      | false => rfl
      | true => simp [StateFile.load, none]

theorem clearDeviceId_cached (cached : state.deviceId = some device) :
    clearDeviceId ⟨path, .holds state⟩ reads saves =
      ⟨path, if reads then (Stored.holds state).write { state with deviceId := none } saves
        else .holds state⟩ := by
  unfold clearDeviceId
  cases reads with
  | false => rfl
  | true => simp [StateFile.load, StateFile.save, cached]

/-- The id survives a clear that does not take effect. -/
theorem clear_keepsId_iff (cached : state.deviceId = some device) :
    (clearDeviceId ⟨path, .holds state⟩ reads saves).deviceId = some device ↔
      reads = false ∨ saves = .refused := by
  rw [clearDeviceId_cached path reads saves cached]
  cases reads with
  | false => simp [cached]
  | true => cases saves <;> simp [Stored.write, cached]

/-- The keys survive a clear, unless the write breaks off. -/
theorem clear_dropsId_iff (cached : state.deviceId = some device) :
    (clearDeviceId ⟨path, .holds state⟩ reads saves).deviceId = none ∧
        (clearDeviceId ⟨path, .holds state⟩ reads saves).keys =
          (StateFile.mk path (.holds state)).keys ↔
      reads = true ∧ saves = .written := by
  rw [clearDeviceId_cached path reads saves cached]
  cases reads with
  | false => simp [cached]
  | true => cases saves <;> simp [Stored.write, cached]

end Clear

theorem saveAndReconnect_state (nonempty : Text.trim inputs.serverUrl ≠ "") :
    (saveAndReconnect answers inputs files).1.state =
      if lastServerUrl answers files = some (Text.trim inputs.serverUrl) then files.state
      else clearDeviceId files.state answers.stateReads answers.stateSaves := by
  unfold saveAndReconnect lastServerUrl
  dsimp only
  rw [if_neg nonempty]
  by_cases same : (TrayConfig.load files.config answers.configReads).lastServerUrl =
      some (Text.trim inputs.serverUrl)
  · simp [same]
  · simp [same]

/-- What is asked of a save when the URL is for the server of the running agent, or not. -/
theorem keeps_or_drops_iff (nonempty : Text.trim inputs.serverUrl ≠ "") (sameServer : Prop)
    [Decidable sameServer] :
    ((sameServer →
          (saveAndReconnect answers inputs files).1.state.deviceId = files.state.deviceId) ∧
        (¬ sameServer →
          (saveAndReconnect answers inputs files).1.state.deviceId = none ∧
            (saveAndReconnect answers inputs files).1.state.keys = files.state.keys)) ↔
      ∀ device, files.state.deviceId = some device →
        if sameServer then
          lastServerUrl answers files = some (Text.trim inputs.serverUrl) ∨
            answers.stateReads = false ∨ answers.stateSaves = .refused
        else
          lastServerUrl answers files ≠ some (Text.trim inputs.serverUrl) ∧
            answers.stateReads = true ∧ answers.stateSaves = .written := by
  rw [saveAndReconnect_state nonempty]
  cases cached : files.state.deviceId with
  | none =>
      rw [clearDeviceId_uncached _ _ cached, ite_self, cached]
      simp
  | some device =>
      obtain ⟨path, state, held, here⟩ := StateFile.holds_of_deviceId cached
      have kept := clear_keepsId_iff path answers.stateReads answers.stateSaves here
      have dropped := clear_dropsId_iff path answers.stateReads answers.stateSaves here
      rw [held]
      by_cases remembered : lastServerUrl answers files = some (Text.trim inputs.serverUrl)
      · by_cases same : sameServer <;> simp [same, remembered, here]
      · by_cases same : sameServer
        · simpa [same, remembered] using kept
        · simpa [same, remembered] using dropped

/-- **When saving keeps the identity**: an id is cached for a URL that a client takes, and the
text of the last save agrees with what the base URLs say, or the clear takes the effect that
they ask for. -/
theorem keepsIdentity_iff (answers : SaveAnswers) (inputs : SettingsInputs) (files : TrayFiles)
    (running : ServerClient) :
    KeepsIdentity answers inputs files running ↔
      ∀ client device,
        ServerClient.new (Text.trim inputs.serverUrl) (entered inputs.authToken) = .ok client →
        files.state.deviceId = some device →
        if client.baseUrl = running.baseUrl then
          lastServerUrl answers files = some (Text.trim inputs.serverUrl) ∨
            answers.stateReads = false ∨ answers.stateSaves = .refused
        else
          lastServerUrl answers files ≠ some (Text.trim inputs.serverUrl) ∧
            answers.stateReads = true ∧ answers.stateSaves = .written := by
  unfold KeepsIdentity
  dsimp only
  constructor
  · intro keeps client device made
    have nonempty := ServerClient.new_ne_empty made
    exact (keeps_or_drops_iff nonempty _).mp (keeps client made) device
  · intro all client made
    have nonempty := ServerClient.new_ne_empty made
    exact (keeps_or_drops_iff nonempty _).mpr fun device => all client device made

/-- The first save clears the id, whatever server is entered. -/
theorem first_save_clears (first : lastServerUrl answers files = none)
    (nonempty : Text.trim inputs.serverUrl ≠ "") (reads : answers.stateReads = true)
    (saves : answers.stateSaves = .written) :
    (saveAndReconnect answers inputs files).1.state.deviceId = none := by
  rw [saveAndReconnect_state nonempty, first, if_neg (by simp), reads, saves]
  cases cached : files.state.deviceId with
  | none => rw [clearDeviceId_uncached _ _ cached, cached]
  | some device =>
      obtain ⟨path, state, held, here⟩ := StateFile.holds_of_deviceId cached
      rw [held]
      exact ((clear_dropsId_iff path true .written here).mpr ⟨rfl, rfl⟩).1

end Identity

namespace FirstSave

/-- An agent that was launched without a config, on the default server. -/
def running : ServerClient := ⟨defaultServerUrl, "ws://127.0.0.1:14444", none⟩

def keys : AgentState := ⟨none, some "a2V5", some "a2V5Mg==", none⟩

/-- It has registered there. -/
def files : TrayFiles where
  config := .missing
  state :=
    (ensureDevice (.ok (.new "01")) .written "Mac Agent" ⟨"agent-state.json", .holds keys⟩ keys).2

/-- The tab shows the server of the launch, and nothing is changed. -/
def inputs : SettingsInputs where
  serverUrl := launchServerUrl defaultServerUrl (.load files.config true)
  authToken := ""
  pairCode := ""
  deviceName := ""
  hotkeyCopy := ""
  hotkeyPaste := ""
  simpleToken := ""
  simpleMirror := false

def answers : SaveAnswers := ⟨true, .written, true, .written⟩

/-- Refuting pole: the server stays the same, and the id is cleared. -/
theorem sameServer_forgotten : ¬ ∀ (answers : SaveAnswers) (inputs : SettingsInputs)
    (files : TrayFiles) (running : ServerClient), KeepsIdentity answers inputs files running := by
  intro always
  have kept := (always answers inputs files running running (by decide +kernel)).1 rfl
  have cleared : (saveAndReconnect answers inputs files).1.state.deviceId = none :=
    first_save_clears rfl (by decide +kernel) rfl rfl
  rw [cleared] at kept
  cases kept

end FirstSave

end AirPaste.Tray
