/-
# Agent.Launch — an agent comes up

An agent loads its state file, makes sure of its two keys, and asks the server for a device id
if it has none.  Each key is drawn once and written to the file before anything is done with
it; a drawn key drops the cached id, since the id stands for the keys it was registered with.

The launch ends where the agent holds an id.  What it does with the id later, pairing and
renaming, are requests like any other.
-/
import AirPaste.Agent.AgentState
import AirPaste.Agent.SignedRequest
import AirPaste.Crypto.Sealing
import AirPaste.Server.DeviceRows

/-! ## The keys -/

namespace AirPaste.Crypto.EncryptionIdentity

open AirPaste.Theory

set_option autoImplicit false

variable {Key : Type} (p : Primitives Key)

def fromPrivateKeyBase64 (value : String) : Except CryptoError EncryptionIdentity :=
  (decodeArray p 32 value).map fun secret => ⟨secret⟩

def privateKeyBase64 (identity : EncryptionIdentity) : String :=
  p.base64.encode identity.secret.toList

variable {p}

/-- A stored key is read back. -/
theorem fromPrivateKey_privateKey (decodes : p.base64.RoundTrips) (identity : EncryptionIdentity) :
    fromPrivateKeyBase64 p (identity.privateKeyBase64 p) = .ok identity := by
  simp only [fromPrivateKeyBase64, privateKeyBase64, decodeArray, decodeBase64, decodes _]
  simp only [Except.mapError, bind, Except.bind, Bytes.ofList?_toList, okOr]
  rfl

end AirPaste.Crypto.EncryptionIdentity

namespace AirPaste.Agent

open AirPaste.Core
open AirPaste.Crypto
open AirPaste.Protocol
open AirPaste.Server
open AirPaste.Theory

set_option autoImplicit false

/-- What the agent takes from the signature crate and the JSON crate. -/
structure AgentCrates where
  verifyingKey : Bytes 32 → Bytes 32
  /-- `SigningKey::sign`. -/
  sign : Bytes 32 → SigningKey
  /-- `serde_json::to_vec` of a registration. -/
  registerBody : RegisterDeviceRequest → List UInt8

structure DeviceIdentity where
  signingKey : Bytes 32
  deriving DecidableEq

namespace DeviceIdentity

def fromPrivateKeyBase64 (value : String) : Except Failure DeviceIdentity :=
  match Alphabet.standard.codec.decode value with
  | .error error => .error (.context "failed to decode device private key" (.text error))
  | .ok bytes =>
      match Bytes.ofList? 32 bytes with
      | none => .error (.text "device private key must be 32 bytes")
      | some signingKey => .ok ⟨signingKey⟩

def privateKeyBase64 (identity : DeviceIdentity) : String := base64Encode identity.signingKey.toList

def publicKeyBase64 (a : AgentCrates) (identity : DeviceIdentity) : String :=
  base64Encode (a.verifyingKey identity.signingKey).toList

theorem fromPrivateKey_privateKey (identity : DeviceIdentity) :
    fromPrivateKeyBase64 identity.privateKeyBase64 = .ok identity := by
  have decoded : Alphabet.standard.codec.decode (base64Encode identity.signingKey.toList) =
      .ok identity.signingKey.toList := Alphabet.codec_roundTrips _
  simp only [fromPrivateKeyBase64, privateKeyBase64, decoded, Bytes.ofList?_toList]

end DeviceIdentity

/-- `ensure_identity`, with the key that is drawn. -/
def ensureIdentity (drawn : Bytes 32) (saves : SaveAnswer) (file : StateFile) (state : AgentState) :
    Except Failure (DeviceIdentity × AgentState) × StateFile :=
  match state.devicePrivateKey with
  | some privateKey =>
      ((DeviceIdentity.fromPrivateKeyBase64 privateKey).map fun identity => (identity, state), file)
  | none =>
      let identity : DeviceIdentity := ⟨drawn⟩
      let state :=
        { state with devicePrivateKey := some identity.privateKeyBase64, deviceId := none }
      let (saved, file) := file.save state saves
      (saved.map fun _ => (identity, state), file)

section Ensure

variable {Key : Type} (p : Primitives Key)

/-- `ensure_encryption_identity`. -/
def ensureEncryptionIdentity (drawn : Bytes 32) (saves : SaveAnswer) (file : StateFile)
    (state : AgentState) : Except Failure (EncryptionIdentity × AgentState) × StateFile :=
  match state.deviceEncryptionPrivateKey with
  | some privateKey =>
      (match EncryptionIdentity.fromPrivateKeyBase64 p privateKey with
        | .error error => .error (.text error.message)
        | .ok identity => .ok (identity, state), file)
  | none =>
      let identity : EncryptionIdentity := ⟨drawn⟩
      let state :=
        { state with
          deviceEncryptionPrivateKey := some (identity.privateKeyBase64 p), deviceId := none }
      let (saved, file) := file.save state saves
      (saved.map fun _ => (identity, state), file)

end Ensure

/-! ## The registration -/

/-- What becomes of a request: it may be lost on the way, or its answer may. -/
structure Exchange where
  arrives : Bool
  returns : Bool
  now : Timestamp
  deviceUlid : String
  pairingUlid : Nat

/-- The request of `register_device`, as the server receives it. -/
def registrationRequest (a : AgentCrates) (client : ServerClient) (body : RegisterDeviceRequest) :
    HttpRequest where
  method := "POST"
  path := "/v1/devices"
  query := none
  headers :=
    (client.authToken.map fun token => ("authorization", headerBytes ("Bearer " ++ token))).toList
      ++ [("content-type", headerBytes "application/json")]
  body := some (a.registerBody body)

section Register

variable (x : Crates) (a : AgentCrates)

/-- `ServerClient::register_device`: the id, and what reaches the server. -/
def ServerClient.registerDevice (client : ServerClient) (exchange : Exchange) (server : AppState)
    (body : RegisterDeviceRequest) : Except Failure DeviceId × Option Server.Arrival :=
  let arrival := Server.Arrival.http exchange.now exchange.deviceUlid exchange.pairingUlid
    (registrationRequest a client body)
  if !exchange.arrives then (.error .network, none)
  else if !exchange.returns then (.error .network, some arrival)
  else
    (match (serve x server arrival).1 with
      | .ok (.device device) => .ok device.deviceId
      | .ok _ => .error (.text "error decoding response body")
      | .error error => .error (.text error.message), some arrival)

/-! ## The launch -/

structure AgentConfig where
  serverUrl : String
  authToken : Option String
  deviceName : String

/-- What a launch is answered: by the disk, by the random source and by the server. -/
structure LaunchAnswers where
  reads : Bool
  signingKey : Bytes 32
  identitySaves : SaveAnswer
  secret : Bytes 32
  encryptionSaves : SaveAnswer
  registration : Exchange
  deviceSaves : SaveAnswer

/-- An agent that has come up. -/
structure RunningAgent where
  client : ServerClient
  deviceId : DeviceId
  identity : DeviceIdentity
  encryption : EncryptionIdentity
  /-- The name it was configured with. -/
  deviceName : String
  /-- Its copy of the state. -/
  state : AgentState

/-- What is known of a launch when it ends. -/
structure Launched where
  outcome : Except Failure RunningAgent
  file : StateFile
  /-- What reached the server. -/
  arrival : Option Server.Arrival

variable {Key : Type} (p : Primitives Key) (config : AgentConfig)

/-- The answer to the registration that `ensure_device` asks for, and what reaches the server:
nothing when an id is cached. -/
def askForDevice (answers : LaunchAnswers) (server : AppState) (state : AgentState)
    (client : ServerClient) (identity : DeviceIdentity) (encryption : EncryptionIdentity) :
    Except Failure DeviceId × Option Server.Arrival :=
  if state.deviceId.isSome then (.error .network, none)
  else client.registerDevice x a answers.registration server
    ⟨config.deviceName, identity.publicKeyBase64 a, encryption.publicKeyBase64 p⟩

/-- `run`, from the keys to the device id. -/
def launchDevice (answers : LaunchAnswers) (server : AppState) (file : StateFile)
    (state : AgentState) (identity : DeviceIdentity) (encryption : EncryptionIdentity) : Launched :=
  match ServerClient.new config.serverUrl (config.authToken.filter (· ≠ "")) with
  | .error failure => ⟨.error failure, file, none⟩
  | .ok client =>
      let asked := askForDevice x a p config answers server state client identity encryption
      let ensured := ensureDevice asked.1 answers.deviceSaves config.deviceName file state
      { outcome := ensured.1.map fun (deviceId, state) =>
          ⟨client, deviceId, identity, encryption, config.deviceName, state⟩
        file := ensured.2
        arrival := asked.2 }

/-- `run`, up to the device id. -/
def launch (answers : LaunchAnswers) (server : AppState) (file : StateFile) : Launched :=
  match file.load answers.reads with
  | .error failure => ⟨.error failure, file, none⟩
  | .ok state =>
      let identified := ensureIdentity answers.signingKey answers.identitySaves file state
      match identified.1 with
      | .error failure => ⟨.error failure, identified.2, none⟩
      | .ok (identity, state) =>
          let encrypted := ensureEncryptionIdentity p answers.secret answers.encryptionSaves
            identified.2 state
          match encrypted.1 with
          | .error failure => ⟨.error failure, encrypted.2, none⟩
          | .ok (encryption, state) =>
              launchDevice x a p config answers server encrypted.2 state identity encryption

end Register

/-- A registration is read as it was written, if it is read at all. -/
def ReadsBack (x : Crates) (a : AgentCrates) : Prop :=
  ∀ client body read, x.registerDeviceBody (registrationRequest a client body) = .ok read →
    read = body

/-- An id that is answered is one that the server has filed with the keys of the request. -/
theorem registerDevice_ok {x : Crates} {a : AgentCrates} {client : ServerClient}
    {exchange : Exchange} {server : AppState} {body : RegisterDeviceRequest} {deviceId : DeviceId}
    {arrival : Option Server.Arrival} (readsBack : ReadsBack x a)
    (done : client.registerDevice x a exchange server body = (.ok deviceId, arrival)) :
    ∃ received, arrival = some received ∧
      HasKeys (serve x server received).2.store.devices deviceId body.publicKey
        body.encryptionPublicKey := by
  unfold ServerClient.registerDevice at done
  dsimp only at done
  split at done
  · cases done
  · split at done
    · cases done
    · obtain ⟨answer, sent⟩ := Prod.mk.inj done
      refine ⟨_, sent.symm, ?_⟩
      split at answer
      · rename_i device answered
        obtain ⟨read, decoded, row, stored⟩ := serve_registered (by rfl) answered
        cases readsBack client body read decoded
        cases answer
        exact ⟨device, stored, by rw [row]; rfl, by rw [row]; rfl⟩
      · cases answer
      · cases answer

/-! ## What a launch leaves -/

section Left

variable {Key : Type} {p : Primitives Key} {a : AgentCrates} {file : StateFile}
  {state : AgentState}

namespace StateFile

theorem contents_of_load {reads : Bool} (loaded : file.load reads = .ok state) :
    file.contents = some state := by
  obtain ⟨path, stored⟩ := file
  cases stored with
  | missing => exact congrArg some (Except.ok.inj loaded)
  | garbled => cases reads <;> cases loaded
  | holds held =>
      cases reads with
      | false => cases loaded
      | true => exact congrArg some (Except.ok.inj loaded)

/-- After a save the file holds what it held, or nothing that parses, or the state. -/
theorem contents_save {saves : SaveAnswer} {found : AgentState}
    (after : (file.save state saves).2.contents = some found) :
    file.contents = some found ∨ found = state := by
  cases saves with
  | written => exact Or.inr (Option.some.inj after).symm
  | refused => exact Or.inl after
  | torn => cases after

theorem contents_of_saved {saves : SaveAnswer} (saved : (file.save state saves).1 = .ok ()) :
    saves = .written ∧ (file.save state saves).2.contents = some state := by
  cases saves with
  | written => exact ⟨rfl, rfl⟩
  | refused => cases saved
  | torn => cases saved

end StateFile

/-- The state holds these keys. -/
structure Keyed (p : Primitives Key) (state : AgentState) (identity : DeviceIdentity)
    (encryption : EncryptionIdentity) : Prop where
  signing : ∃ privateKey, state.devicePrivateKey = some privateKey ∧
    DeviceIdentity.fromPrivateKeyBase64 privateKey = .ok identity
  encrypting : ∃ privateKey, state.deviceEncryptionPrivateKey = some privateKey ∧
    EncryptionIdentity.fromPrivateKeyBase64 p privateKey = .ok encryption

/-- The states that a launch may write over a state: a missing key is drawn, which drops the
id, and a missing id is filled in. -/
structure Closed (p : Primitives Key) (Registered : AgentState → DeviceId → Prop)
    (P : AgentState → Prop) : Prop where
  drawsIdentity : ∀ state (identity : DeviceIdentity), P state → state.devicePrivateKey = none →
    P { state with devicePrivateKey := some identity.privateKeyBase64, deviceId := none }
  drawsEncryption : ∀ state (encryption : EncryptionIdentity), P state →
    state.deviceEncryptionPrivateKey = none →
    P { state with
        deviceEncryptionPrivateKey := some (encryption.privateKeyBase64 p), deviceId := none }
  registers : ∀ state deviceId name, P state → state.deviceId = none → Registered state deviceId →
    P { state with deviceId := some deviceId, deviceName := some name }

/-- Whatever the file holds satisfies `P`. -/
def FileHolds (P : AgentState → Prop) (file : StateFile) : Prop :=
  ∀ state, file.contents = some state → P state

variable {P : AgentState → Prop} {Registered : AgentState → DeviceId → Prop} {drawn : Bytes 32}
  {saves : SaveAnswer}

theorem holds_save (holds : FileHolds P file) (new : P state) :
    FileHolds P (file.save state saves).2 := by
  intro found after
  rcases StateFile.contents_save after with before | rfl
  · exact holds found before
  · exact new

theorem ensureIdentity_holds (closed : Closed p Registered P) (held : file.contents = some state)
    (holds : FileHolds P file) : FileHolds P (ensureIdentity drawn saves file state).2 := by
  unfold ensureIdentity
  cases missing : state.devicePrivateKey with
  | some privateKey => exact holds
  | none => exact holds_save holds (closed.drawsIdentity state ⟨drawn⟩ (holds state held) missing)

theorem ensureIdentity_ok {identity : DeviceIdentity} {after : AgentState}
    (held : file.contents = some state)
    (done : (ensureIdentity drawn saves file state).1 = .ok (identity, after)) :
    (ensureIdentity drawn saves file state).2.contents = some after ∧
      ∃ privateKey, after.devicePrivateKey = some privateKey ∧
        DeviceIdentity.fromPrivateKeyBase64 privateKey = .ok identity := by
  unfold ensureIdentity at done ⊢
  cases missing : state.devicePrivateKey with
  | some privateKey =>
      simp only [missing] at done ⊢
      cases read : DeviceIdentity.fromPrivateKeyBase64 privateKey with
      | error failure =>
          rw [read] at done
          cases done
      | ok found =>
          rw [read] at done
          cases done
          exact ⟨held, privateKey, missing, read⟩
  | none =>
      simp only [missing] at done ⊢
      obtain ⟨⟨⟩, saved, same⟩ := map_ok_iff.mp done
      cases same
      exact ⟨(StateFile.contents_of_saved saved).2, _, rfl,
        DeviceIdentity.fromPrivateKey_privateKey _⟩

theorem ensureEncryptionIdentity_holds (closed : Closed p Registered P)
    (held : file.contents = some state) (holds : FileHolds P file) :
    FileHolds P (ensureEncryptionIdentity p drawn saves file state).2 := by
  unfold ensureEncryptionIdentity
  cases missing : state.deviceEncryptionPrivateKey with
  | some privateKey => exact holds
  | none => exact holds_save holds (closed.drawsEncryption state ⟨drawn⟩ (holds state held) missing)

theorem ensureEncryptionIdentity_ok {encryption : EncryptionIdentity} {after : AgentState}
    (decodes : p.base64.RoundTrips) (held : file.contents = some state)
    (done : (ensureEncryptionIdentity p drawn saves file state).1 = .ok (encryption, after)) :
    (ensureEncryptionIdentity p drawn saves file state).2.contents = some after ∧
      after.devicePrivateKey = state.devicePrivateKey ∧
      ∃ privateKey, after.deviceEncryptionPrivateKey = some privateKey ∧
        EncryptionIdentity.fromPrivateKeyBase64 p privateKey = .ok encryption := by
  unfold ensureEncryptionIdentity at done ⊢
  cases missing : state.deviceEncryptionPrivateKey with
  | some privateKey =>
      simp only [missing] at done ⊢
      cases read : EncryptionIdentity.fromPrivateKeyBase64 p privateKey with
      | error error =>
          rw [read] at done
          cases done
      | ok found =>
          rw [read] at done
          cases done
          exact ⟨held, rfl, privateKey, missing, read⟩
  | none =>
      simp only [missing] at done ⊢
      obtain ⟨⟨⟩, saved, same⟩ := map_ok_iff.mp done
      cases same
      exact ⟨(StateFile.contents_of_saved saved).2, rfl, _, rfl,
        EncryptionIdentity.fromPrivateKey_privateKey decodes _⟩

section Launch

variable {x : Crates} {config : AgentConfig} {answers : LaunchAnswers} {server : AppState}

/-- The registration of the state's public keys is answered with this id. -/
def Answered (x : Crates) (a : AgentCrates) (p : Primitives Key) (config : AgentConfig)
    (answers : LaunchAnswers) (server : AppState) (arrival : Option Server.Arrival)
    (state : AgentState) (deviceId : DeviceId) : Prop :=
  ∃ (client : ServerClient) (identity : DeviceIdentity) (encryption : EncryptionIdentity),
    Keyed p state identity encryption ∧
      client.registerDevice x a answers.registration server
        ⟨config.deviceName, identity.publicKeyBase64 a, encryption.publicKeyBase64 p⟩ =
        (.ok deviceId, arrival)

theorem ensureDevice_holds {registers : Except Failure DeviceId} {name : String}
    (closed : Closed p Registered P) (held : file.contents = some state) (holds : FileHolds P file)
    (registered : ∀ deviceId, registers = .ok deviceId → Registered state deviceId) :
    FileHolds P (ensureDevice registers saves name file state).2 := by
  unfold ensureDevice
  cases cached : state.deviceId with
  | some deviceId => exact holds
  | none =>
      cases registers with
      | error failure => exact holds
      | ok deviceId =>
          exact holds_save holds
            (closed.registers state deviceId name (holds state held) cached (registered _ rfl))

theorem ensureDevice_ok {registers : Except Failure DeviceId} {name : String} {deviceId : DeviceId}
    {after : AgentState} (held : file.contents = some state)
    (done : (ensureDevice registers saves name file state).1 = .ok (deviceId, after)) :
    (ensureDevice registers saves name file state).2.contents = some after ∧
      after.deviceId = some deviceId ∧ after.devicePrivateKey = state.devicePrivateKey ∧
      after.deviceEncryptionPrivateKey = state.deviceEncryptionPrivateKey := by
  unfold ensureDevice at done ⊢
  cases cached : state.deviceId with
  | some found =>
      simp only [cached] at done ⊢
      cases done
      exact ⟨held, cached, rfl, rfl⟩
  | none =>
      simp only [cached] at done ⊢
      cases registers with
      | error failure => cases done
      | ok found =>
          obtain ⟨⟨⟩, saved, same⟩ := map_ok_iff.mp done
          cases same
          exact ⟨(StateFile.contents_of_saved saved).2, rfl, rfl, rfl⟩

section Device

variable {identity : DeviceIdentity} {encryption : EncryptionIdentity}

variable {launched : Launched}

theorem launchDevice_holds
    (is : launchDevice x a p config answers server file state identity encryption = launched)
    (closed : Closed p (Answered x a p config answers server launched.arrival) P)
    (held : file.contents = some state) (holds : FileHolds P file)
    (keyed : Keyed p state identity encryption) : FileHolds P launched.file := by
  unfold launchDevice at is
  split at is
  · subst is
    exact holds
  · rename_i client made
    subst is
    refine ensureDevice_holds closed held holds fun deviceId asked => ?_
    refine ⟨client, identity, encryption, keyed, ?_⟩
    dsimp only
    unfold askForDevice at asked ⊢
    split at asked
    · cases asked
    · rename_i uncached
      rw [if_neg uncached]
      exact Prod.ext asked rfl

theorem launchDevice_ok {running : RunningAgent}
    (is : launchDevice x a p config answers server file state identity encryption = launched)
    (up : launched.outcome = .ok running) (held : file.contents = some state)
    (keyed : Keyed p state identity encryption) :
    launched.file.contents = some running.state ∧ running.state.deviceId = some running.deviceId ∧
      Keyed p running.state running.identity running.encryption := by
  unfold launchDevice at is
  split at is
  · subst is
    cases up
  · subst is
    obtain ⟨⟨deviceId, after⟩, done, same⟩ := map_ok_iff.mp up
    cases same
    obtain ⟨stored, cached, signing, encrypting⟩ := ensureDevice_ok held done
    exact ⟨stored, cached, signing ▸ keyed.signing, encrypting ▸ keyed.encrypting⟩

/-- Nothing is asked of the server for a cached id. -/
theorem launchDevice_cached
    (is : launchDevice x a p config answers server file state identity encryption = launched)
    (cached : state.deviceId.isSome) : launched.arrival = none := by
  unfold launchDevice at is
  split at is
  · subst is
    rfl
  · rename_i client made
    subst is
    show (askForDevice x a p config answers server state client identity encryption).2 = none
    rw [askForDevice, if_pos cached]

end Device

variable {launched : Launched}

/-- What the file holds after a launch satisfies what the writes of a launch keep. -/
theorem launch_holds (decodes : p.base64.RoundTrips)
    (is : launch x a p config answers server file = launched)
    (closed : Closed p (Answered x a p config answers server launched.arrival) P)
    (holds : FileHolds P file) : FileHolds P launched.file := by
  unfold launch at is
  split at is
  · subst is
    exact holds
  · rename_i state loaded
    have held := StateFile.contents_of_load loaded
    have first : FileHolds P
        (ensureIdentity answers.signingKey answers.identitySaves file state).2 :=
      ensureIdentity_holds closed held holds
    dsimp only at is
    split at is
    · subst is
      exact first
    · rename_i identity state done
      obtain ⟨held, signing⟩ := ensureIdentity_ok held done
      have second : FileHolds P (ensureEncryptionIdentity p answers.secret answers.encryptionSaves
          (ensureIdentity answers.signingKey answers.identitySaves file _).2 state).2 :=
        ensureEncryptionIdentity_holds closed held first
      split at is
      · subst is
        exact second
      · rename_i encryption state done
        obtain ⟨held, same, encrypting⟩ := ensureEncryptionIdentity_ok decodes held done
        exact launchDevice_holds is closed held second ⟨same ▸ signing, encrypting⟩

/-- An agent that has come up holds its keys and its id, and so does the file. -/
theorem launch_ok {running : RunningAgent} (decodes : p.base64.RoundTrips)
    (is : launch x a p config answers server file = launched)
    (up : launched.outcome = .ok running) :
    launched.file.contents = some running.state ∧ running.state.deviceId = some running.deviceId ∧
      Keyed p running.state running.identity running.encryption := by
  unfold launch at is
  split at is
  · subst is
    cases up
  · rename_i state loaded
    have held := StateFile.contents_of_load loaded
    dsimp only at is
    split at is
    · subst is
      cases up
    · rename_i identity state identified
      obtain ⟨held, signing⟩ := ensureIdentity_ok held identified
      split at is
      · subst is
        cases up
      · rename_i encryption state encrypted
        obtain ⟨held, same, encrypting⟩ := ensureEncryptionIdentity_ok decodes held encrypted
        exact launchDevice_ok is up held ⟨same ▸ signing, encrypting⟩

/-- A state file with an id and both keys. -/
structure Complete (state : AgentState) : Prop where
  deviceId : state.deviceId.isSome
  signing : state.devicePrivateKey.isSome
  encrypting : state.deviceEncryptionPrivateKey.isSome

/-- A launch over a file that is complete registers nothing. -/
theorem launch_complete (is : launch x a p config answers server file = launched)
    (complete : FileHolds Complete file) : launched.arrival = none := by
  unfold launch at is
  split at is
  · subst is
    rfl
  · rename_i state loaded
    obtain ⟨cached, signing, encrypting⟩ := complete state (StateFile.contents_of_load loaded)
    obtain ⟨privateKey, here⟩ := Option.isSome_iff_exists.mp signing
    obtain ⟨encryptionKey, there⟩ := Option.isSome_iff_exists.mp encrypting
    simp only [ensureIdentity, here] at is
    split at is
    · subst is
      rfl
    · rename_i identity after identified
      obtain ⟨found, -, same⟩ := map_ok_iff.mp identified
      cases same
      simp only [ensureEncryptionIdentity, there] at is
      split at is
      · subst is
        rfl
      · rename_i encryption after encrypted
        split at encrypted
        · cases encrypted
        · cases encrypted
          exact launchDevice_cached is cached

end Launch

end Left

end AirPaste.Agent
