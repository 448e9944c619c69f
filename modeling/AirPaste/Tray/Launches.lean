/-
# Tray.Launches — one device over many launches

The agent is launched again and again over one state file: it may stop at any point, a save may
be refused or break off, a registration or its answer may be lost, the tray may clear the id
while the agent runs, and the server answers others all the while.

* `cachedId_registered`: an id in the file is one that the server holds with the public keys of
  the very keys in the file;
* `keys_kept`: a key that was written is never replaced, and over a file that broke off every
  launch fails before it draws, saves or sends anything;
* `registrations_le`: the device is registered once, and once more for each time that its id was
  cleared or that a registration was not written down;
* `runningAgent_accepted`: an agent that has come up is one whose requests the server accepts,
  from when it is trusted on.

One server stands behind the URL of the launches, and no two registrations draw one ULID.
-/
import AirPaste.Agent.Launch
import AirPaste.Theory.Cost
import AirPaste.Tray.SavedServer

namespace AirPaste.Tray

open AirPaste.Agent
open AirPaste.Core
open AirPaste.Crypto
open AirPaste.Protocol
open AirPaste.Server
open AirPaste.Theory

set_option autoImplicit false

/-- The settings of one launch. -/
structure LaunchArgs where
  authToken : Option String
  deviceName : String

def LaunchArgs.config (serverUrl : String) (args : LaunchArgs) : AgentConfig :=
  ⟨serverUrl, args.authToken, args.deviceName⟩

/-- The device, its state file, and what has reached the server. -/
structure LaunchWorld where
  file : StateFile
  running : Option RunningAgent
  arrivals : List Server.Arrival

inductive LaunchEvent where
  /-- A launch takes the place of the agent that runs. -/
  | launch (args : LaunchArgs) (answers : LaunchAnswers)
  /-- The rename that a launch asked for is answered. -/
  | nameSynced (saves : SaveAnswer)
  | stop
  /-- Settings for another server are saved. -/
  | clear (reads : Bool) (saves : SaveAnswer)
  /-- A request of anyone, the agent's own among them. -/
  | arrive (arrival : Server.Arrival)

namespace LaunchWorld

section LaunchWorld

variable {Key : Type} (x : Crates) (a : AgentCrates) (p : Primitives Key) (serverUrl : String)
  (authToken simpleToken : Option String)

/-- `run`, when `rename_device` has returned. -/
def syncName (saves : SaveAnswer) (world : LaunchWorld) : LaunchWorld :=
  match world.running with
  | none => world
  | some running =>
      if running.state.deviceName = some running.deviceName then world
      else
        let state := { running.state with deviceName := some running.deviceName }
        let (saved, file) := world.file.save state saves
        { world with
          file := file
          running := saved.toOption.map fun _ => { running with state := state } }

def step (world : LaunchWorld) : LaunchEvent → LaunchWorld
  | .launch args answers =>
      let server := reached x authToken simpleToken world.arrivals
      let launched := launch x a p (args.config serverUrl) answers server world.file
      { file := launched.file
        running := launched.outcome.toOption
        arrivals := world.arrivals ++ launched.arrival.toList }
  | .nameSynced saves => syncName saves world
  | .stop => { world with running := none }
  | .clear reads saves => { world with file := clearDeviceId world.file reads saves }
  | .arrive arrival => { world with arrivals := world.arrivals ++ [arrival] }

/-- The world after the events. -/
def after (world : LaunchWorld) (events : List LaunchEvent) : LaunchWorld :=
  runFrom (step x a p serverUrl authToken simpleToken) world events

/-- Before the first launch. -/
def start (file : StateFile) (arrivals : List Server.Arrival) : LaunchWorld :=
  ⟨file, none, arrivals⟩

end LaunchWorld

/-! ## A laptop

The laptop comes up for the first time, with a key pair of each kind. -/

namespace LaptopLaunches

open Server.Sample

def signingKey : Bytes 32 :=
  ⟨[157, 97, 177, 157, 239, 253, 90, 96, 186, 132, 74, 244, 146, 236, 44, 196, 68, 73, 197, 105,
    123, 50, 105, 25, 112, 59, 172, 3, 28, 174, 127, 96], rfl⟩

def registration : RegisterDeviceRequest :=
  ⟨"Laptop", laptopKey, "pOCSkrZRwni5dyxWn1+puxPZBrRqtoyd+dwrRAn4ogk="⟩

def registrationJson : List UInt8 :=
  ascii ("\x7b\"name\":\"Laptop\"," ++
    "\"public_key\":\"11qYAYKxCrfVS/7TyWQHOg7hcvPapiMlrwIaaPcHURo=\"," ++
    "\"encryption_public_key\":\"pOCSkrZRwni5dyxWn1+puxPZBrRqtoyd+dwrRAn4ogk=\"\x7d")

def crates : Crates :=
  { LaptopLists.crates with
    registerDeviceBody := fun request =>
      if request.body = some registrationJson then .ok registration
      else .error (.badRequest "Failed to parse the request body as JSON") }

def agentCrates : AgentCrates where
  verifyingKey _ := ⟨laptopKeyBytes, rfl⟩
  sign _ := LaptopLists.key
  registerBody body := if body = registration then registrationJson else []

def args : LaunchArgs := ⟨none, "Laptop"⟩

/-- Everything goes well. -/
def answers : LaunchAnswers where
  reads := true
  signingKey := signingKey
  identitySaves := .written
  secret := Bytes.fill 32 1
  encryptionSaves := .written
  registration := ⟨true, true, seconds 1767225000, LaptopLists.ulid, 0⟩
  deviceSaves := .written

def start : LaunchWorld := .start ⟨"agent-state.json", .missing⟩ []

/-- The world after the first launch. -/
def launched : LaunchWorld :=
  after crates agentCrates Crypto.Sample.primitives defaultServerUrl none none start
    [.launch args answers]

/-- The laptop is given another name, which is synced after the id has been cleared and brings
the id back; the id is cleared again, and the agent launched once more. -/
def later : List LaunchEvent :=
  [.launch ⟨none, "Desk laptop"⟩ answers, .clear true .written, .nameSynced .written, .stop,
   .clear true .written,
   .launch ⟨none, "Desk laptop"⟩ { answers with
     registration := ⟨true, true, seconds 1767228600, "01KDVGF2R0M6Q3Y8T1W4Z7B5NC", 0⟩ }]

theorem registrationJson_ne_nil : registrationJson ≠ [] := by decide +kernel

theorem readsBack : ReadsBack crates agentCrates := by
  intro client body read decoded
  simp only [crates, agentCrates, registrationRequest] at decoded
  by_cases own : body = registration
  · rw [if_pos own, if_pos rfl] at decoded
    rw [own]
    exact (Except.ok.inj decoded).symm
  · have other : some [] ≠ some registrationJson := fun same =>
      registrationJson_ne_nil (Option.some.inj same).symm
    rw [if_neg own, if_neg other] at decoded
    cases decoded

theorem decodes : Crypto.Sample.primitives.base64.RoundTrips := Alphabet.codec_roundTrips

theorem launched_eq :
    launched = after crates agentCrates Crypto.Sample.primitives defaultServerUrl none none
      (.start ⟨"agent-state.json", .missing⟩ []) [.launch args answers] := by
  unfold launched start
  rfl

theorem distinct : DistinctUlids launched.arrivals := by
  unfold DistinctUlids
  decide +kernel

end LaptopLaunches

/-! ## What the writes of a step keep -/

section Steps

variable {Key : Type} {x : Crates} {a : AgentCrates} {p : Primitives Key} {serverUrl : String}
  {authToken simpleToken : Option String} {world : LaunchWorld} {P : AgentState → Prop}

theorem clearDeviceId_holds {file : StateFile} {reads : Bool} {saves : SaveAnswer}
    (clears : ∀ state, P state → P { state with deviceId := none }) (holds : FileHolds P file) :
    FileHolds P (clearDeviceId file reads saves) := by
  unfold clearDeviceId
  split
  · rename_i state loaded
    split
    · exact holds_save holds (clears state (holds state (StateFile.contents_of_load loaded)))
    · exact holds
  · exact holds

/-- The copy of a running agent satisfies `P`. -/
def RunningHolds (P : AgentState → Prop) (world : LaunchWorld) : Prop :=
  ∀ running, world.running = some running → P running.state

/-- A name is synced at most once, and then into the file as well. -/
theorem syncName_cases (saves : SaveAnswer) (world : LaunchWorld) :
    syncName saves world = world ∨
      ∃ running state, world.running = some running ∧
        state = { running.state with deviceName := some running.deviceName } ∧
        syncName saves world =
          { world with
            file := (world.file.save state saves).2
            running :=
              if saves = .written then some { running with state := state } else none } := by
  unfold syncName
  split
  · exact Or.inl rfl
  · rename_i running here
    split
    · exact Or.inl rfl
    · exact Or.inr ⟨running, _, here, rfl, by cases saves <;> rfl⟩

theorem syncName_arrivals (saves : SaveAnswer) (world : LaunchWorld) :
    (syncName saves world).arrivals = world.arrivals := by
  rcases syncName_cases saves world with same | ⟨_, _, -, -, same⟩
  · rw [same]
  · rw [same]

theorem syncName_holds (saves : SaveAnswer)
    (renames : ∀ state name, P state → P { state with deviceName := some name })
    (holds : FileHolds P world.file) (running : RunningHolds P world) :
    FileHolds P (syncName saves world).file ∧
      RunningHolds P (syncName saves world) := by
  rcases syncName_cases saves world with same | ⟨agent, state, here, new, same⟩
  · rw [same]
    exact ⟨holds, running⟩
  · have kept : P state := new ▸ renames agent.state _ (running agent here)
    rw [same]
    refine ⟨holds_save holds kept, fun later up => ?_⟩
    dsimp only at up
    split at up
    · cases up
      exact kept
    · cases up

end Steps

/-! ## The agent that runs and its file -/

section Agreement

variable {Key : Type} (x : Crates) (a : AgentCrates) (p : Primitives Key) (serverUrl : String)
  (authToken simpleToken : Option String)

/-- The launch in a world. -/
def launchIn (world : LaunchWorld) (args : LaunchArgs) (answers : LaunchAnswers) : Launched :=
  launch x a p (args.config serverUrl) answers (reached x authToken simpleToken world.arrivals)
    world.file

/-- The agent that runs holds its keys and its id, and the file holds no other keys. -/
structure Settled (world : LaunchWorld) : Prop where
  keyed : ∀ running, world.running = some running →
    running.state.deviceId = some running.deviceId ∧
      Keyed p running.state running.identity running.encryption
  same : ∀ running state, world.running = some running → world.file.contents = some state →
    state.devicePrivateKey = running.state.devicePrivateKey ∧
      state.deviceEncryptionPrivateKey = running.state.deviceEncryptionPrivateKey

variable {x a p serverUrl authToken simpleToken} {world : LaunchWorld}

theorem settled_start (file : StateFile) (arrivals : List Server.Arrival) :
    Settled p (.start file arrivals) where
  keyed := by
    intro running up
    cases up
  same := by
    intro running state up
    cases up

theorem launchIn_running {args : LaunchArgs} {answers : LaunchAnswers}
    {running : RunningAgent}
    (up : (step x a p serverUrl authToken simpleToken world (.launch args answers)).running =
      some running) :
    (launchIn x a p serverUrl authToken simpleToken world args answers).outcome = .ok running := by
  change (launchIn x a p serverUrl authToken simpleToken world args answers).outcome.toOption =
    some running at up
  generalize (launchIn x a p serverUrl authToken simpleToken world args answers).outcome =
    outcome at up
  cases outcome with
  | error failure => cases up
  | ok found =>
      cases up
      rfl

theorem settled_syncName {saves : SaveAnswer} (settled : Settled p world) :
    Settled p (syncName saves world) := by
  rcases syncName_cases saves world with same | ⟨agent, state, here, rfl, same⟩
  · rw [same]
    exact settled
  · obtain ⟨cached, keyed⟩ := settled.keyed agent here
    rw [same]
    constructor
    · intro running up
      dsimp only at up
      split at up
      · cases up
        exact ⟨cached, keyed.signing, keyed.encrypting⟩
      · cases up
    · intro running found up held
      dsimp only at up held
      split at up
      · cases up
        rcases StateFile.contents_save held with before | rfl
        · exact settled.same agent found here before
        · exact ⟨rfl, rfl⟩
      · cases up

theorem settled_clear {reads : Bool} {saves : SaveAnswer} (settled : Settled p world) :
    Settled p { world with file := clearDeviceId world.file reads saves } where
  keyed := settled.keyed
  same := by
    intro running state up held
    have keys : FileHolds (fun state => state.devicePrivateKey = running.state.devicePrivateKey ∧
        state.deviceEncryptionPrivateKey = running.state.deviceEncryptionPrivateKey)
        (clearDeviceId world.file reads saves) :=
      clearDeviceId_holds (fun _ same => same) fun found here => settled.same running found up here
    exact keys state held

theorem settled_step (decodes : p.base64.RoundTrips) (world : LaunchWorld) (event : LaunchEvent)
    (settled : Settled p world) :
    Settled p (step x a p serverUrl authToken simpleToken world event) := by
  cases event with
  | launch args answers =>
      constructor
      · intro running up
        exact (launch_ok decodes rfl (launchIn_running up)).2
      · intro running state up held
        obtain ⟨stored, -⟩ := launch_ok decodes rfl (launchIn_running up)
        cases Option.some.inj (stored.symm.trans held)
        exact ⟨rfl, rfl⟩
  | nameSynced saves => exact settled_syncName settled
  | stop =>
      constructor
      · intro running up
        cases up
      · intro running state up
        cases up
  | clear reads saves => exact settled_clear settled
  | arrive arrival => exact ⟨settled.keyed, settled.same⟩

end Agreement

/-! ## The id that is cached -/

section Cached

variable {Key : Type} {x : Crates} {a : AgentCrates} {p : Primitives Key} {serverUrl : String}
  {authToken simpleToken : Option String}

/-- The id of the state is one that the server holds with the public keys of the state's keys. -/
def Sound (a : AgentCrates) (p : Primitives Key) (devices : Devices) (state : AgentState) : Prop :=
  ∀ deviceId, state.deviceId = some deviceId →
    ∃ identity encryption, Keyed p state identity encryption ∧
      HasKeys devices deviceId (identity.publicKeyBase64 a) (encryption.publicKeyBase64 p)

/-- The device table after the arrivals. -/
def devicesAfter (x : Crates) (authToken simpleToken : Option String)
    (arrivals : List Server.Arrival) : Devices :=
  (reached x authToken simpleToken arrivals).store.devices

/-- Every cached id is sound, in the file and in the agent that runs. -/
structure SoundWorld (x : Crates) (a : AgentCrates) (p : Primitives Key)
    (authToken simpleToken : Option String) (world : LaunchWorld) : Prop where
  file : FileHolds (Sound a p (devicesAfter x authToken simpleToken world.arrivals)) world.file
  running :
    RunningHolds (Sound a p (devicesAfter x authToken simpleToken world.arrivals)) world

theorem sound_append {arrivals later : List Server.Arrival} {state : AgentState}
    (distinct : DistinctUlids (arrivals ++ later))
    (sound : Sound a p (devicesAfter x authToken simpleToken arrivals) state) :
    Sound a p (devicesAfter x authToken simpleToken (arrivals ++ later)) state := by
  induction later using List.reverseRecOn with
  | nil => rwa [List.append_nil]
  | append_singleton later arrival ih =>
      rw [← List.append_assoc] at distinct ⊢
      have shorter : DistinctUlids (arrivals ++ later) := by
        unfold DistinctUlids at distinct ⊢
        rw [List.filterMap_append] at distinct
        exact distinct.of_append_left
      intro deviceId cached
      obtain ⟨identity, encryption, keyed, keys⟩ := ih shorter deviceId cached
      exact ⟨identity, encryption, keyed, hasKeys_reached_append distinct keys⟩

/-- What a launch writes is sound once the server has served it. -/
theorem sound_closed (readsBack : ReadsBack x a) (arrivals : List Server.Arrival)
    (args : LaunchArgs) (answers : LaunchAnswers) (arrival : Option Server.Arrival) :
    Closed p
      (Answered x a p (args.config serverUrl) answers (reached x authToken simpleToken arrivals)
        arrival)
      (Sound a p (devicesAfter x authToken simpleToken (arrivals ++ arrival.toList))) where
  drawsIdentity := by
    intro state identity _ _ deviceId cached
    cases cached
  drawsEncryption := by
    intro state encryption _ _ deviceId cached
    cases cached
  registers := by
    rintro state deviceId name - - ⟨client, identity, encryption, keyed, answered⟩ cached same
    cases same
    obtain ⟨received, rfl, keys⟩ := registerDevice_ok readsBack answered
    refine ⟨identity, encryption, ⟨keyed.signing, keyed.encrypting⟩, ?_⟩
    rw [devicesAfter, Option.toList_some, reached_append]
    exact keys

theorem sound_renamed {devices : Devices} {state : AgentState} {name : Option String}
    (sound : Sound a p devices state) : Sound a p devices { state with deviceName := name } := by
  intro deviceId cached
  obtain ⟨identity, encryption, keyed, keys⟩ := sound deviceId cached
  exact ⟨identity, encryption, ⟨keyed.signing, keyed.encrypting⟩, keys⟩

theorem soundWorld_step (decodes : p.base64.RoundTrips) (readsBack : ReadsBack x a)
    (world : LaunchWorld) (event : LaunchEvent)
    (distinct : DistinctUlids (step x a p serverUrl authToken simpleToken world event).arrivals)
    (sound : SoundWorld x a p authToken simpleToken world) :
    SoundWorld x a p authToken simpleToken
      (step x a p serverUrl authToken simpleToken world event) := by
  cases event with
  | launch args answers =>
      have kept : FileHolds _
          (step x a p serverUrl authToken simpleToken world (.launch args answers)).file :=
        launch_holds decodes rfl (sound_closed readsBack world.arrivals args answers _)
          fun state held => sound_append distinct (sound.file state held)
      refine ⟨kept, fun running up => ?_⟩
      exact kept running.state (launch_ok decodes rfl (launchIn_running up)).1
  | nameSynced saves =>
      have renames : ∀ state name,
          Sound a p (devicesAfter x authToken simpleToken world.arrivals) state →
          Sound a p (devicesAfter x authToken simpleToken world.arrivals)
            { state with deviceName := some name } :=
        fun _ _ sound => sound_renamed sound
      obtain ⟨file, running⟩ := syncName_holds saves renames sound.file sound.running
      rw [← syncName_arrivals saves world] at file running
      exact ⟨file, running⟩
  | stop => exact ⟨sound.file, fun running up => by cases up⟩
  | clear reads saves =>
      refine ⟨clearDeviceId_holds (fun state _ => ?_) sound.file, sound.running⟩
      intro deviceId cached
      cases cached
  | arrive arrival =>
      exact ⟨fun state held => sound_append distinct (sound.file state held),
        fun running up => sound_append distinct (sound.running running up)⟩

theorem arrivals_step (world : LaunchWorld) (event : LaunchEvent) :
    ∃ later, (step x a p serverUrl authToken simpleToken world event).arrivals =
      world.arrivals ++ later := by
  cases event with
  | launch args answers => exact ⟨_, rfl⟩
  | nameSynced saves => exact ⟨[], by rw [List.append_nil]; exact syncName_arrivals ..⟩
  | stop => exact ⟨[], (List.append_nil _).symm⟩
  | clear reads saves => exact ⟨[], (List.append_nil _).symm⟩
  | arrive arrival => exact ⟨[arrival], rfl⟩

/-- Every cached id stays sound. -/
theorem soundWorld_after (decodes : p.base64.RoundTrips) (readsBack : ReadsBack x a)
    {world : LaunchWorld} {events : List LaunchEvent}
    (distinct : DistinctUlids (after x a p serverUrl authToken simpleToken world events).arrivals)
    (sound : SoundWorld x a p authToken simpleToken world) :
    SoundWorld x a p authToken simpleToken
      (after x a p serverUrl authToken simpleToken world events) := by
  have keeps : ∀ world event,
      (DistinctUlids world.arrivals → SoundWorld x a p authToken simpleToken world) →
      DistinctUlids (step x a p serverUrl authToken simpleToken world event).arrivals →
      SoundWorld x a p authToken simpleToken
        (step x a p serverUrl authToken simpleToken world event) := by
    intro world event sound distinct
    refine soundWorld_step decodes readsBack world event distinct (sound ?_)
    obtain ⟨later, same⟩ : ∃ later,
        (step x a p serverUrl authToken simpleToken world event).arrivals =
          world.arrivals ++ later := arrivals_step world event
    unfold DistinctUlids at distinct ⊢
    rw [same, List.filterMap_append] at distinct
    exact distinct.of_append_left
  exact run_preserves keeps (fun _ => sound) events distinct

theorem soundWorld_start {file : StateFile} (uncached : file.deviceId = none)
    (arrivals : List Server.Arrival) :
    SoundWorld x a p authToken simpleToken (.start file arrivals) where
  file := by
    intro state held deviceId cached
    rw [StateFile.deviceId, show file.contents = some state from held] at uncached
    cases uncached.symm.trans cached
  running := by
    intro running up
    cases up

/-- **A cached id belongs to the keys beside it**: the server holds it with their public keys,
whatever became of the launches, the saves and the requests before. -/
theorem cachedId_registered (decodes : p.base64.RoundTrips) (readsBack : ReadsBack x a)
    {file : StateFile} (uncached : file.deviceId = none) {arrivals : List Server.Arrival}
    {events : List LaunchEvent} {world : LaunchWorld}
    (reached : world = after x a p serverUrl authToken simpleToken (.start file arrivals) events)
    (distinct : DistinctUlids world.arrivals) {deviceId : DeviceId}
    (cached : world.file.deviceId = some deviceId) :
    ∃ state identity encryption, world.file.contents = some state ∧
      Keyed p state identity encryption ∧
      HasKeys (devicesAfter x authToken simpleToken world.arrivals) deviceId
        (identity.publicKeyBase64 a) (encryption.publicKeyBase64 p) := by
  subst reached
  have sound := soundWorld_after decodes readsBack distinct (soundWorld_start uncached arrivals)
  obtain ⟨state, held, here⟩ := Option.bind_eq_some_iff.mp cached
  obtain ⟨identity, encryption, keyed, keys⟩ := sound.file state held deviceId here
  exact ⟨state, identity, encryption, held, keyed, keys⟩

end Cached

/-- Satisfiable pole: the laptop's first id is registered with the keys it has drawn. -/
theorem LaptopLaunches.launched_registered :
    ∃ state identity encryption, launched.file.contents = some state ∧
      Keyed Crypto.Sample.primitives state identity encryption ∧
      HasKeys (devicesAfter crates none none launched.arrivals) (DeviceId.new LaptopLists.ulid)
        (identity.publicKeyBase64 agentCrates)
        (encryption.publicKeyBase64 Crypto.Sample.primitives) :=
  cachedId_registered decodes readsBack rfl launched_eq distinct (by decide +kernel)

/-! ## The keys -/

section Keys

variable {Key : Type} {x : Crates} {a : AgentCrates} {p : Primitives Key} {serverUrl : String}
  {authToken simpleToken : Option String}

/-- The state still holds the keys that another held. -/
def StillHolds (before state : AgentState) : Prop :=
  (∀ key, before.devicePrivateKey = some key → state.devicePrivateKey = some key) ∧
    ∀ key, before.deviceEncryptionPrivateKey = some key →
      state.deviceEncryptionPrivateKey = some key

theorem stillHolds_closed (before : AgentState) (Registered : AgentState → DeviceId → Prop) :
    Closed p Registered (StillHolds before) where
  drawsIdentity := by
    rintro state identity ⟨signing, encrypting⟩ missing
    refine ⟨fun key held => ?_, encrypting⟩
    cases missing.symm.trans (signing key held)
  drawsEncryption := by
    rintro state encryption ⟨signing, encrypting⟩ missing
    refine ⟨signing, fun key held => ?_⟩
    cases missing.symm.trans (encrypting key held)
  registers := fun _ _ _ holds _ _ => holds

theorem stillHolds_step (decodes : p.base64.RoundTrips) (before : AgentState) (world : LaunchWorld)
    (event : LaunchEvent)
    (holds : FileHolds (StillHolds before) world.file ∧ RunningHolds (StillHolds before) world) :
    FileHolds (StillHolds before) (step x a p serverUrl authToken simpleToken world event).file ∧
      RunningHolds (StillHolds before)
        (step x a p serverUrl authToken simpleToken world event) := by
  obtain ⟨file, running⟩ := holds
  cases event with
  | launch args answers =>
      have kept : FileHolds (StillHolds before)
          (step x a p serverUrl authToken simpleToken world (.launch args answers)).file :=
        launch_holds decodes rfl (stillHolds_closed before _) file
      exact ⟨kept, fun agent up => kept agent.state (launch_ok decodes rfl (launchIn_running up)).1⟩
  | nameSynced saves => exact syncName_holds saves (fun _ _ holds => holds) file running
  | stop => exact ⟨file, fun agent up => by cases up⟩
  | clear reads saves => exact ⟨clearDeviceId_holds (fun _ holds => holds) file, running⟩
  | arrive arrival => exact ⟨file, running⟩

/-- Nothing that parses is in the file, and no agent runs. -/
def Broken (world : LaunchWorld) : Prop := world.file.contents = none ∧ world.running = none

theorem load_broken {file : StateFile} (broken : file.contents = none) (reads : Bool) :
    ∃ failure, file.load reads = .error failure := by
  obtain ⟨path, stored⟩ := file
  cases stored with
  | missing => cases broken
  | garbled => cases reads <;> exact ⟨_, rfl⟩
  | holds state => cases broken

/-- A launch ends where the file is read: nothing is saved and nothing reaches the server. -/
def LaunchFails (x : Crates) (a : AgentCrates) (p : Primitives Key) (serverUrl : String)
    (authToken simpleToken : Option String) (world : LaunchWorld) : LaunchEvent → Prop
  | .launch args answers => ∃ failure, world.file.load answers.reads = .error failure ∧
      launchIn x a p serverUrl authToken simpleToken world args answers =
        ⟨.error failure, world.file, none⟩
  | _ => True

/-- A broken file stays as it is, and a launch over it fails. -/
theorem step_broken {world : LaunchWorld} (broken : Broken world) (event : LaunchEvent) :
    LaunchFails x a p serverUrl authToken simpleToken world event ∧
      (step x a p serverUrl authToken simpleToken world event).file = world.file ∧
      (step x a p serverUrl authToken simpleToken world event).running = none := by
  obtain ⟨garbled, stopped⟩ := broken
  cases event with
  | launch args answers =>
      obtain ⟨failure, load⟩ := load_broken garbled answers.reads
      have launched : launchIn x a p serverUrl authToken simpleToken world args answers =
          ⟨.error failure, world.file, none⟩ := by
        simp only [launchIn, launch, load]
      refine ⟨⟨failure, load, launched⟩, congrArg Launched.file launched, ?_⟩
      exact congrArg (fun launched => launched.outcome.toOption) launched
  | nameSynced saves => simp only [LaunchFails, step, syncName, stopped, and_self]
  | stop => exact ⟨trivial, rfl, rfl⟩
  | clear reads saves =>
      obtain ⟨failure, load⟩ := load_broken garbled reads
      simp [LaunchFails, step, clearDeviceId, load, stopped]
  | arrive arrival => exact ⟨trivial, rfl, stopped⟩

theorem runningHolds_of_holds {world : LaunchWorld} {held : AgentState} (settled : Settled p world)
    (here : world.file.contents = some held) : RunningHolds (StillHolds held) world := by
  intro running up
  obtain ⟨signing, encrypting⟩ := settled.same running held up here
  exact ⟨fun key found => signing ▸ found, fun key found => encrypting ▸ found⟩

/-- **Keys are kept**: a key that the file holds at some time it holds whenever it can be read
later, and a file that broke off while no agent ran is never written again: every launch from
then on fails. -/
theorem keys_kept (decodes : p.base64.RoundTrips) (file : StateFile)
    (arrivals : List Server.Arrival) (earlier later : List LaunchEvent) {before world : LaunchWorld}
    (first : before = after x a p serverUrl authToken simpleToken (.start file arrivals) earlier)
    (second : world = after x a p serverUrl authToken simpleToken before later) :
    (∀ held state, before.file.contents = some held → world.file.contents = some state →
        StillHolds held state) ∧
      (Broken before → world.file = before.file ∧ world.running = none ∧
        Along (step x a p serverUrl authToken simpleToken)
          (LaunchFails x a p serverUrl authToken simpleToken) before later) := by
  have settled : Settled p before := by
    subst first
    exact run_preserves (settled_step decodes) (settled_start file arrivals) earlier
  subst second
  constructor
  · intro held state here there
    have own : FileHolds (StillHolds held) before.file := by
      intro found same
      cases Option.some.inj (here.symm.trans same)
      exact ⟨fun _ => id, fun _ => id⟩
    exact (run_preserves (stillHolds_step decodes held)
      ⟨own, runningHolds_of_holds settled here⟩ later).1 state there
  · intro broken
    have kept : ∀ world event, world.file = before.file ∧ world.running = none →
        (step x a p serverUrl authToken simpleToken world event).file = before.file ∧
          (step x a p serverUrl authToken simpleToken world event).running = none := by
      rintro world event ⟨same, stopped⟩
      obtain ⟨-, file, running⟩ : LaunchFails x a p serverUrl authToken simpleToken world event ∧
          (step x a p serverUrl authToken simpleToken world event).file = world.file ∧
          (step x a p serverUrl authToken simpleToken world event).running = none :=
        step_broken ⟨same ▸ broken.1, stopped⟩ event
      exact ⟨file.trans same, running⟩
    obtain ⟨file, running⟩ := run_preserves kept ⟨rfl, broken.2⟩ later
    refine ⟨file, running, along_iff.mpr fun first event rest split => ?_⟩
    obtain ⟨same, stopped⟩ := run_preserves kept ⟨rfl, broken.2⟩ first
    exact (step_broken ⟨same ▸ broken.1, stopped⟩ event).1

end Keys

/-- A first launch whose very first save breaks off. -/
def LaptopLaunches.torn : LaunchWorld :=
  after crates agentCrates Crypto.Sample.primitives defaultServerUrl none none start
    [.launch args { answers with identitySaves := .torn }]

/-- Satisfiable pole: the keys of the first launch are there after the later ones; had its first
save broken off, the later launches would all have failed. -/
theorem LaptopLaunches.keys_kept_later :
    (∀ held state, launched.file.contents = some held →
        (after crates agentCrates Crypto.Sample.primitives defaultServerUrl none none launched
          later).file.contents = some state → StillHolds held state) ∧
      (after crates agentCrates Crypto.Sample.primitives defaultServerUrl none none torn
        later).file = torn.file ∧
      Along (step crates agentCrates Crypto.Sample.primitives defaultServerUrl none none)
        (LaunchFails crates agentCrates Crypto.Sample.primitives defaultServerUrl none none)
        torn later := by
  have broken : Broken torn := ⟨rfl, rfl⟩
  obtain ⟨file, -, fails⟩ := (@keys_kept _ crates agentCrates Crypto.Sample.primitives
    defaultServerUrl none none decodes ⟨"agent-state.json", .missing⟩ []
    [.launch args { answers with identitySaves := .torn }] later torn _ rfl rfl).2 broken
  exact ⟨(keys_kept decodes ⟨"agent-state.json", .missing⟩ [] [.launch args answers] later
    launched_eq rfl).1, file, fails⟩

/-! ## How often a device is registered -/

section Registrations

variable {Key : Type} (x : Crates) (a : AgentCrates) (p : Primitives Key) (serverUrl : String)
  (authToken simpleToken : Option String)

/-- A registration of this device reaches the server. -/
def registrations (world : LaunchWorld) : LaunchEvent → Nat
  | .launch args answers =>
      let launched := launchIn x a p serverUrl authToken simpleToken world args answers
      if launched.arrival.isSome then 1 else 0
  | _ => 0

/-- The id is cleared, or a registration has reached the server and its id is not cached. -/
def forgotten (world : LaunchWorld) : LaunchEvent → Nat
  | .launch args answers =>
      let launched := launchIn x a p serverUrl authToken simpleToken world args answers
      if launched.arrival.isSome && !launched.outcome.isOk then 1 else 0
  | .clear true .written => if world.file.deviceId.isSome then 1 else 0
  | _ => 0

variable {x a p serverUrl authToken simpleToken} {world : LaunchWorld}

theorem complete_closed (Registered : AgentState → DeviceId → Prop) :
    Closed p Registered Complete where
  drawsIdentity := by
    rintro state identity complete missing
    cases missing ▸ complete.signing
  drawsEncryption := by
    rintro state encryption complete missing
    cases missing ▸ complete.encrypting
  registers := fun _ _ _ complete _ _ => ⟨rfl, complete.signing, complete.encrypting⟩

theorem complete_of_keyed {state : AgentState} {deviceId : DeviceId} {identity : DeviceIdentity}
    {encryption : EncryptionIdentity} (cached : state.deviceId = some deviceId)
    (keyed : Keyed p state identity encryption) : Complete state := by
  obtain ⟨⟨_, signing, -⟩, ⟨_, encrypting, -⟩⟩ := keyed
  exact ⟨Option.isSome_of_eq_some cached, Option.isSome_of_eq_some signing,
    Option.isSome_of_eq_some encrypting⟩

theorem complete_running (settled : Settled p world) : RunningHolds Complete world := by
  intro running up
  obtain ⟨cached, keyed⟩ := settled.keyed running up
  exact complete_of_keyed cached keyed

open Classical in
/-- One while the file can be read and is not complete. -/
noncomputable def owed (world : LaunchWorld) : Nat := if FileHolds Complete world.file then 0 else 1

theorem owed_le (world : LaunchWorld) : owed world ≤ 1 := by
  unfold owed
  split <;> omega

theorem owed_of_holds (holds : FileHolds Complete world.file) : owed world = 0 := if_pos holds

/-- A step that keeps a complete file complete owes no more than before. -/
theorem owed_le_of_keeps {next : LaunchWorld}
    (keeps : FileHolds Complete world.file → FileHolds Complete next.file) :
    owed next ≤ owed world := by
  by_cases complete : FileHolds Complete world.file
  · rw [owed_of_holds (keeps complete)]
    exact Nat.zero_le _
  · rw [show owed world = 1 from if_neg complete]
    exact owed_le next

theorem registrations_launch (decodes : p.base64.RoundTrips) (world : LaunchWorld)
    (args : LaunchArgs) (answers : LaunchAnswers) :
    registrations x a p serverUrl authToken simpleToken world (.launch args answers) +
        owed (step x a p serverUrl authToken simpleToken world (.launch args answers)) ≤
      owed world +
        forgotten x a p serverUrl authToken simpleToken world (.launch args answers) := by
  have keeps : FileHolds Complete world.file →
      FileHolds Complete
        (step x a p serverUrl authToken simpleToken world (.launch args answers)).file :=
    launch_holds decodes rfl (complete_closed _)
  have bounded := owed_le_of_keeps keeps
  simp only [registrations, forgotten]
  cases sent : (launchIn x a p serverUrl authToken simpleToken world args answers).arrival with
  | none =>
      simp only [Option.isSome_none, Bool.false_and, Bool.false_eq_true, if_false]
      omega
  | some arrival =>
      have incomplete : ¬ FileHolds Complete world.file := fun complete => by
        cases sent.symm.trans (launch_complete rfl complete)
      have before : owed world = 1 := if_neg incomplete
      have later :=
        owed_le (step x a p serverUrl authToken simpleToken world (.launch args answers))
      cases outcome :
          (launchIn x a p serverUrl authToken simpleToken world args answers).outcome with
      | error failure =>
          simp only [Option.isSome_some, Except.isOk, Except.toBool, Bool.not_false, Bool.and_self,
            if_true]
          omega
      | ok running =>
          obtain ⟨stored, cached, keyed⟩ := launch_ok decodes rfl outcome
          have complete : FileHolds Complete
              (step x a p serverUrl authToken simpleToken world (.launch args answers)).file := by
            intro state held
            cases Option.some.inj (stored.symm.trans held)
            exact complete_of_keyed cached keyed
          rw [owed_of_holds complete, before]
          simp only [Option.isSome_some, if_true]
          omega

theorem owed_clear (world : LaunchWorld) (reads : Bool) (saves : SaveAnswer) :
    owed { world with file := clearDeviceId world.file reads saves } ≤
      owed world + forgotten x a p serverUrl authToken simpleToken world (.clear reads saves) := by
  cases cached : world.file.deviceId with
  | none =>
      rw [clearDeviceId_uncached reads saves cached]
      exact Nat.le_add_right _ _
  | some deviceId =>
      by_cases clears : reads = true ∧ saves = .written
      · obtain ⟨rfl, rfl⟩ := clears
        have paid :
            forgotten x a p serverUrl authToken simpleToken world (.clear true .written) = 1 :=
          if_pos (by rw [cached]; rfl)
        rw [paid]
        exact (owed_le _).trans (Nat.le_add_left _ _)
      · refine (owed_le_of_keeps fun complete => ?_).trans (Nat.le_add_right _ _)
        obtain ⟨path, state, held, here⟩ := StateFile.holds_of_deviceId cached
        dsimp only
        rw [held] at complete ⊢
        rw [clearDeviceId_cached path reads saves here]
        split
        · rename_i readable
          cases saves with
          | written => exact absurd ⟨readable, rfl⟩ clears
          | refused => exact complete
          | torn =>
              intro found impossible
              cases impossible
        · exact complete

theorem registrations_pays (decodes : p.base64.RoundTrips) (world : LaunchWorld)
    (event : LaunchEvent) (settled : Settled p world) :
    registrations x a p serverUrl authToken simpleToken world event +
        owed (step x a p serverUrl authToken simpleToken world event) ≤
      owed world + forgotten x a p serverUrl authToken simpleToken world event := by
  cases event with
  | launch args answers => exact registrations_launch decodes world args answers
  | nameSynced saves =>
      have keeps : FileHolds Complete world.file →
          FileHolds Complete (syncName saves world).file := fun complete =>
        (syncName_holds saves (fun _ _ complete => ⟨complete.1, complete.2, complete.3⟩) complete
          (complete_running settled)).1
      have bounded := owed_le_of_keeps keeps
      show 0 + owed (syncName saves world) ≤ owed world + 0
      rwa [Nat.zero_add, Nat.add_zero]
  | stop => exact Nat.le_of_eq (Nat.zero_add _)
  | clear reads saves =>
      simp only [registrations, Nat.zero_add]
      exact owed_clear world reads saves
  | arrive arrival => exact Nat.le_of_eq (Nat.zero_add _)

/-- **How often a device is registered**: once, and once more for each time that its id was
cleared or that a registration was not written down. -/
theorem registrations_le (decodes : p.base64.RoundTrips) (file : StateFile)
    (arrivals : List Server.Arrival) (events : List LaunchEvent) :
    costFrom (step x a p serverUrl authToken simpleToken)
        (registrations x a p serverUrl authToken simpleToken) (.start file arrivals) events ≤
      1 + costFrom (step x a p serverUrl authToken simpleToken)
        (forgotten x a p serverUrl authToken simpleToken) (.start file arrivals) events := by
  have pays : ∀ world event, Settled p world →
      registrations x a p serverUrl authToken simpleToken world event +
          owed (step x a p serverUrl authToken simpleToken world event) ≤
        owed world + forgotten x a p serverUrl authToken simpleToken world event :=
    registrations_pays decodes
  have paid := costFrom_le owed (settled_step decodes) pays (settled_start file arrivals) events
  have first := owed_le (.start file arrivals)
  omega

end Registrations

/-- Satisfiable pole: two registrations, and one clear. -/
theorem LaptopLaunches.registrations_later :
    costFrom (step crates agentCrates Crypto.Sample.primitives defaultServerUrl none none)
        (registrations crates agentCrates Crypto.Sample.primitives defaultServerUrl none none)
        (.start ⟨"agent-state.json", .missing⟩ []) (.launch args answers :: later) ≤
      1 + costFrom (step crates agentCrates Crypto.Sample.primitives defaultServerUrl none none)
        (forgotten crates agentCrates Crypto.Sample.primitives defaultServerUrl none none)
        (.start ⟨"agent-state.json", .missing⟩ []) (.launch args answers :: later) := by
  have bounded := @registrations_le _ crates agentCrates Crypto.Sample.primitives
    defaultServerUrl none none decodes ⟨"agent-state.json", .missing⟩ []
    (.launch args answers :: later)
  exact bounded

/-! ## The agent that runs -/

section Accepted

variable {Key : Type} {x : Crates} {a : AgentCrates} {p : Primitives Key} {serverUrl : String}
  {authToken simpleToken : Option String}

/-- A state holds one pair of keys at most. -/
theorem keyed_unique {state : AgentState} {identity other : DeviceIdentity}
    {encryption another : EncryptionIdentity} (first : Keyed p state identity encryption)
    (second : Keyed p state other another) : identity = other := by
  obtain ⟨⟨privateKey, held, read⟩, -⟩ := first
  obtain ⟨⟨otherKey, heldToo, readToo⟩, -⟩ := second
  cases held.symm.trans heldToo
  exact Except.ok.inj (read.symm.trans readToo)

/-- The primitives on every signing key. -/
structure HonestKeys (x : Crates) (a : AgentCrates) : Prop where
  honest : ∀ key, Honest x (a.verifyingKey key).toList (a.sign key)
  valid : ∀ key, x.isVerifyingKey (a.verifyingKey key).toList = true

/-- The server holds the key that the running agent signs with. -/
theorem storedKey_running (keys : HonestKeys x a) {world : LaunchWorld} {running : RunningAgent}
    (settled : Settled p world) (sound : SoundWorld x a p authToken simpleToken world)
    (up : world.running = some running)
    (trusted : TrustedAfter x authToken simpleToken world.arrivals running.deviceId) :
    ∃ device, device.deviceId = running.deviceId ∧
      StoredKey x (reached x authToken simpleToken world.arrivals) device
        (a.verifyingKey running.identity.signingKey).toList := by
  obtain ⟨cached, own⟩ := settled.keyed running up
  obtain ⟨identity, encryption, keyed, device, stored, publicKey, -⟩ :=
    sound.running running up running.deviceId cached
  cases keyed_unique own keyed
  obtain ⟨row, there, bit⟩ := trusted
  cases stored.symm.trans there
  have named := Db.deviceId_of_get there
  have length := (a.verifyingKey running.identity.signingKey).length_toList
  have nonempty : (a.verifyingKey running.identity.signingKey).toList ≠ [] := by
    intro empty
    rw [empty] at length
    cases length
  refine ⟨device, named, ⟨by rw [named]; exact there, bit, ?_, length, keys.valid _⟩⟩
  rw [publicKey, DeviceIdentity.publicKeyBase64, trim_visible (visible_base64Encode nonempty)]
  exact (keys.honest running.identity.signingKey).decodes _

/-- **An agent that is up is understood**: from when its device is trusted on, the server
accepts what the agent signs with the key it found or drew, whatever happened before. -/
theorem runningAgent_accepted (decodes : p.base64.RoundTrips) (readsBack : ReadsBack x a)
    (keys : HonestKeys x a) {file : StateFile} (uncached : file.deviceId = none)
    {arrivals : List Server.Arrival} {events : List LaunchEvent} {world : LaunchWorld}
    (reaches : world = after x a p serverUrl authToken simpleToken (.start file arrivals) events)
    (distinct : DistinctUlids world.arrivals)
    (ulids : ∀ ulid ∈ world.arrivals.filterMap Server.Arrival.drawnUlid, IsUlid ulid)
    {running : RunningAgent} (up : world.running = some running)
    (trusted : TrustedAfter x authToken simpleToken world.arrivals running.deviceId)
    {timestamp : String} {signedAt now : Timestamp} {draw : Bytes 16}
    {method pathAndQuery : String} {body : List UInt8} {received : HttpRequest}
    (read : x.parseFromRfc3339 timestamp = some signedAt) (clock : Visible timestamp)
    (near : signedAt - now ≤ seconds 300 ∧ now - signedAt ≤ seconds 300)
    (small : body.length ≤ maxSignedBodyBytes)
    (unused : NeverAccepted x authToken simpleToken world.arrivals running.deviceId
      (randomNonce draw))
    (receives : Receives (sign x.sha256 timestamp draw running.deviceId
      (a.sign running.identity.signingKey) method pathAndQuery body) received) :
    ∃ device, device.deviceId = running.deviceId ∧
      (verifySignedRequest x (reached x authToken simpleToken world.arrivals) now received).1 =
        .ok device := by
  have settled : Settled p world := by
    rw [reaches]
    exact run_preserves (settled_step decodes) (settled_start file arrivals) events
  have sound : SoundWorld x a p authToken simpleToken world := by
    subst reaches
    exact soundWorld_after decodes readsBack distinct (soundWorld_start uncached arrivals)
  obtain ⟨device, named, known⟩ := storedKey_running keys settled sound up trusted
  obtain ⟨ulid, drawn, own⟩ := allDrawn_reached world.arrivals device.deviceId device known.stored
  have visible : Visible device.deviceId.asStr := by
    rw [own]
    exact visible_deviceId (ulids ulid drawn)
  rw [← named] at receives unused
  have signed := signedDevice_sent (keys.honest _) known visible clock read near small receives
  refine ⟨device, named, verifySignedRequest_ok_iff.mpr ⟨_, signed, ?_⟩⟩
  exact NonceCache.record_accepts_new (not_not.mp (accepted_of_known unused))

end Accepted

namespace LaptopLaunches

open Server.Sample

theorem keys : HonestKeys crates agentCrates where
  honest _ := ⟨LaptopLists.honest.verifies, LaptopLists.honest.signature,
    LaptopLists.honest.decodes, LaptopLists.honest.digest⟩
  valid _ := rfl

/-- The registration carries no signature. -/
theorem unused : NeverAccepted crates none none launched.arrivals (DeviceId.new LaptopLists.ulid)
    (randomNonce LaptopLists.draw) := by
  rintro before arrival later headers split accepted - -
  obtain ⟨rfl, rfl, -⟩ := (List.singleton_eq_append_iff.mp split).elim (fun h => by simpa using h)
    fun h => by simp at h
  cases accepted.2

def row : Device :=
  ⟨DeviceId.new LaptopLists.ulid, "Laptop", laptopKey, registration.encryptionPublicKey, true,
    seconds 1767225000, none⟩

/-- Satisfiable pole: the device list that the laptop asks for is answered. -/
theorem laptop_accepted :
    ∃ device, device.deviceId = DeviceId.new LaptopLists.ulid ∧
      (verifySignedRequest crates (reached crates none none launched.arrivals)
        (seconds 1767225730) LaptopLists.received).1 = .ok device := by
  have ulids : ∀ drawn ∈ launched.arrivals.filterMap Server.Arrival.drawnUlid, IsUlid drawn := by
    intro drawn member
    cases List.mem_singleton.mp member
    refine ⟨by decide, fun c member => List.elem_iff.mp ?_⟩
    have all : (LaptopLists.ulid.toList.all fun c => ulidAlphabet.elem c) = true := by decide
    exact List.all_eq_true.mp all c member
  have clock : Visible LaptopLists.timestamp :=
    ⟨by decide, visibleChar_of_all (by decide)⟩
  have id : launched.running.map RunningAgent.deviceId = some (DeviceId.new LaptopLists.ulid) := by
    decide +kernel
  obtain ⟨running, up, own⟩ := Option.map_eq_some_iff.mp id
  have trusted : TrustedAfter crates none none launched.arrivals running.deviceId := by
    rw [own]
    exact ⟨row, by decide +kernel, rfl⟩
  have fresh : NeverAccepted crates none none launched.arrivals running.deviceId
      (randomNonce LaptopLists.draw) := by
    rw [own]
    exact unused
  have receives : Receives (sign crates.sha256 LaptopLists.timestamp LaptopLists.draw
      running.deviceId (agentCrates.sign running.identity.signingKey) "GET" "/v1/devices" [])
      LaptopLists.received := by
    rw [own]
    exact LaptopLists.receives
  have near : signedInstant - seconds 1767225730 ≤ seconds 300 ∧
      seconds 1767225730 - signedInstant ≤ seconds 300 := by decide
  have accepted := runningAgent_accepted decodes readsBack keys (by rfl) launched_eq distinct ulids
    up trusted (by rfl) clock near (by decide) fresh receives
  rw [own] at accepted
  exact accepted

end LaptopLaunches

end LaunchWorld

end AirPaste.Tray
