/-
# Agent.AgentState — what an agent keeps of itself, and the server it is known to

The state file holds the keys of the device and the id that the server gave it.  The id is
asked for once: `ensureDevice` registers only an agent that has none, whichever server it
talks to.  A client's base URL is the configured one without the slashes at its end.
-/
import AirPaste.Agent.Download
import AirPaste.Core.Ids

namespace AirPaste.Agent

open AirPaste.Core
open AirPaste.Theory

set_option autoImplicit false

/-! ## Files that are written as a whole -/

inductive Stored (α : Type) where
  | missing
  /-- What is there does not parse. -/
  | garbled
  | holds (value : α)

inductive SaveAnswer where
  | written
  | refused
  /-- The file was truncated before the write failed. -/
  | torn
  deriving DecidableEq

namespace Stored

variable {α : Type}

/-- `fs::write`. -/
def write (file : Stored α) (value : α) : SaveAnswer → Stored α
  | .written => .holds value
  | .refused => file
  | .torn => .garbled

end Stored

/-! ## The state file -/

structure AgentState where
  deviceId : Option DeviceId
  devicePrivateKey : Option String
  deviceEncryptionPrivateKey : Option String
  /-- The name that was last given to the server. -/
  deviceName : Option String
  deriving DecidableEq

/-- `AgentState::default`. -/
def AgentState.empty : AgentState := ⟨none, none, none, none⟩

structure StateFile where
  path : String
  stored : Stored AgentState

namespace StateFile

def load (file : StateFile) (reads : Bool) : Except Failure AgentState :=
  match file.stored with
  | .missing => .ok .empty
  | stored =>
      if !reads then .error (.context ("failed to read " ++ file.path) .io)
      else
        match stored with
        | .holds state => .ok state
        | _ => .error (.context ("failed to parse " ++ file.path) .io)

def save (file : StateFile) (state : AgentState) (saves : SaveAnswer) :
    Except Failure Unit × StateFile :=
  (if saves = .written then .ok () else .error .io,
    { file with stored := file.stored.write state saves })

/-- What a later start finds in the file. -/
def contents (file : StateFile) : Option AgentState := (file.load true).toOption

/-- The id that is cached. -/
def deviceId (file : StateFile) : Option DeviceId := file.contents.bind AgentState.deviceId

/-- Both private keys. -/
def keys (file : StateFile) : Option (Option String × Option String) :=
  file.contents.map fun state => (state.devicePrivateKey, state.deviceEncryptionPrivateKey)

section Found

variable (path : String) (state : AgentState)

@[simp] theorem deviceId_holds : (StateFile.mk path (.holds state)).deviceId = state.deviceId := rfl

@[simp] theorem deviceId_garbled : (StateFile.mk path .garbled).deviceId = none := rfl

@[simp] theorem keys_holds : (StateFile.mk path (.holds state)).keys =
    some (state.devicePrivateKey, state.deviceEncryptionPrivateKey) := rfl

@[simp] theorem keys_garbled : (StateFile.mk path .garbled).keys = none := rfl

end Found

/-- A cached id is that of a state in the file. -/
theorem holds_of_deviceId {file : StateFile} {device : DeviceId}
    (cached : file.deviceId = some device) :
    ∃ path state, file = ⟨path, .holds state⟩ ∧ state.deviceId = some device := by
  obtain ⟨path, stored⟩ := file
  cases stored with
  | missing => cases cached
  | garbled => cases cached
  | holds state => exact ⟨path, state, rfl, cached⟩

end StateFile

/-! ## The client -/

def defaultServerUrl : String := "http://127.0.0.1:14444"

structure ServerClient where
  baseUrl : String
  wsOrigin : String
  authToken : Option String
  deriving DecidableEq

/-- `trim_end_matches('/')`. -/
def withoutSlashes (url : String) : String :=
  String.ofList (Text.dropEnd (· == '/') url.toList)

namespace ServerClient

def new (baseUrl : String) (authToken : Option String) : Except Failure ServerClient :=
  let baseUrl := withoutSlashes baseUrl
  match Text.stripPrefix baseUrl "https://" with
  | some rest => .ok ⟨baseUrl, "wss://" ++ rest, authToken⟩
  | none =>
      match Text.stripPrefix baseUrl "http://" with
      | some rest => .ok ⟨baseUrl, "ws://" ++ rest, authToken⟩
      | none => .error (.text "server URL must start with http:// or https://")

theorem new_baseUrl {url : String} {authToken : Option String} {client : ServerClient}
    (made : new url authToken = .ok client) : client.baseUrl = withoutSlashes url := by
  unfold new at made
  dsimp only at made
  split at made
  · cases made
    rfl
  · split at made
    · cases made
      rfl
    · cases made

theorem new_ne_empty {url : String} {authToken : Option String} {client : ServerClient}
    (made : new url authToken = .ok client) : url ≠ "" := by
  rintro rfl
  have refused : new "" authToken =
      .error (.text "server URL must start with http:// or https://") := rfl
  rw [refused] at made
  cases made

/-- Slashes at the end of a URL make no difference. -/
theorem new_slashes (url : String) (n : Nat) (authToken : Option String) :
    new (url ++ String.ofList (List.replicate n '/')) authToken = new url authToken := by
  have same : withoutSlashes (url ++ String.ofList (List.replicate n '/')) =
      withoutSlashes url := by
    unfold withoutSlashes
    rw [String.toList_append, String.toList_ofList, Text.dropEnd_append_replicate rfl]
  unfold new
  rw [same]

end ServerClient

/-- `ensure_device`, with what the server answers to a registration. -/
def ensureDevice (registers : Except Failure DeviceId) (saves : SaveAnswer) (name : String)
    (file : StateFile) (state : AgentState) :
    Except Failure (DeviceId × AgentState) × StateFile :=
  match state.deviceId with
  | some deviceId => (.ok (deviceId, state), file)
  | none =>
      match registers with
      | .error failure => (.error (.context "failed to register device" failure), file)
      | .ok deviceId =>
          let state := { state with deviceId := some deviceId, deviceName := some name }
          let (saved, file) := file.save state saves
          (saved.map fun _ => (deviceId, state), file)

end AirPaste.Agent
