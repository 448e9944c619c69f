/-
# System.RelayedWire — the relay, seen from a transfer

Three views of what lies between the two parties of a transfer.  A turn of a party, taken on
its own state and one delivered frame, is its step in the session of Agent.RelayProtocol
(`sourceStep_view`, `recipientStep_view`).  A frame is read as it was written (`read_written`).
And `Held` is what the relay keeps for the two: they have the only connections of their
session, so what one is delivered, the other has sent (`Held.delivered`).
-/
import AirPaste.System.RelayedTransfer

namespace AirPaste.System

open AirPaste.Agent
open AirPaste.Core
open AirPaste.Server
open AirPaste.Theory

set_option autoImplicit false

/-! ## Frames on the wire -/

namespace ControlJson

variable {json : ControlJson}

/-- A frame that a party sends, and that is read as it was written. -/
def Plain (json : ControlJson) (frame : Message) : Prop :=
  ∃ message, json.written frame = some message ∧ json.read message = frame ∧
    message.frame.isSome

theorem Faithful.control (faithful : json.Faithful) (control : RelayControl) :
    json.Plain (.control control) :=
  ⟨.text (json.toString control), rfl, congrArg Message.text (faithful control), rfl⟩

theorem plain_binary (bytes : List UInt8) : json.Plain (.binary bytes) :=
  ⟨.binary bytes, rfl, rfl, rfl⟩

theorem read_written {frames : List Message} (plain : ∀ frame ∈ frames, json.Plain frame) :
    (frames.filterMap json.written).map json.read = frames := by
  induction frames with
  | nil => rfl
  | cons frame rest ih =>
      obtain ⟨message, written, read, _⟩ := plain frame List.mem_cons_self
      rw [List.filterMap_cons_some written, List.map_cons, read,
        ih fun later member => plain later (List.mem_cons_of_mem _ member)]

theorem written_frames {frames : List Message} :
    ∀ message ∈ frames.filterMap json.written, message.frame.isSome := by
  intro message member
  obtain ⟨frame, _, written⟩ := List.mem_filterMap.mp member
  cases frame with
  | text parsed =>
      cases parsed with
      | ok control =>
          cases written
          rfl
      | error error => cases written
  | binary bytes =>
      cases written
      rfl
  | close => cases written
  | other => cases written

end ControlJson

/-! ## A turn is a step on one's own -/

section Turns

variable {Key PathBuf : Type} {e : RelayExchange Key PathBuf} {a : Relay PathBuf}
  {inbox later : List Message}

/-- A source that waits and finds nothing stays as it is. -/
theorem sourceStep_idle_view {served : SourceBooks PathBuf} {got : RecipientBooks} :
    e.sourceStep ⟨.waiting, served, .requesting [], got, [], []⟩ =
      ⟨.waiting, served, .requesting [], got, [], []⟩ := rfl

/-- The source's step, seen from the source. -/
theorem sourceStep_view (e : RelayExchange Key PathBuf) (got : RecipientBooks)
    (queue : a.toSource = inbox ++ later) (busy : a.source = .waiting → inbox ≠ []) :
    ∃ used, inbox = used ++
        (e.sourceStep ⟨a.source, a.served, .requesting [], got, inbox, []⟩).toSource ∧
      e.sourceStep a =
        { a with
          source := (e.sourceStep ⟨a.source, a.served, .requesting [], got, inbox, []⟩).source
          served := (e.sourceStep ⟨a.source, a.served, .requesting [], got, inbox, []⟩).served
          toSource :=
            (e.sourceStep ⟨a.source, a.served, .requesting [], got, inbox, []⟩).toSource ++ later
          toRecipient := a.toRecipient ++
            (e.sourceStep ⟨a.source, a.served, .requesting [], got, inbox, []⟩).toRecipient } := by
  obtain ⟨source, served, recipient, own, toSource, toRecipient⟩ := a
  dsimp only at queue busy ⊢
  subst queue
  cases source with
  | waiting =>
      cases inbox with
      | nil => exact absurd rfl (busy rfl)
      | cons message rest =>
          refine ⟨[message], ?_⟩
          cases message with
          | text parsed =>
              cases parsed with
              | error error => simp [RelayExchange.sourceStep]
              | ok control =>
                  cases control with
                  | request clipId sourceDeviceId requesterDeviceId signatureAlg signature token
                      index =>
                      simp only [RelayExchange.sourceStep, List.cons_append]
                      generalize e.claimRequested served clipId sourceDeviceId requesterDeviceId
                        signatureAlg signature token index = claimed
                      obtain ⟨answer, after⟩ := claimed
                      cases answer <;> simp
                  | _ => simp [RelayExchange.sourceStep]
          | _ => simp [RelayExchange.sourceStep]
  | preparing token index path =>
      refine ⟨[], ?_⟩
      simp only [RelayExchange.sourceStep]
      cases e.prepareRelayFile served.claims path index <;> simp
  | sending token index frames =>
      refine ⟨[], ?_⟩
      cases frames <;> simp [RelayExchange.sourceStep]
  | refusing reason => exact ⟨[], by simp [RelayExchange.sourceStep]⟩
  | stopped => exact ⟨[], by simp [RelayExchange.sourceStep]⟩

/-- A recipient that waits for a frame. -/
def awaits : RecipientPhase → Bool
  | .awaitingHeader _ _ _ => true
  | .awaitingBody _ _ _ _ _ _ => true
  | _ => false

theorem recipientStep_idle_view {served : SourceBooks PathBuf} {got : RecipientBooks}
    {recipient : RecipientPhase} (waits : awaits recipient = true) :
    e.recipientStep ⟨.waiting, served, recipient, got, [], []⟩ =
      ⟨.waiting, served, recipient, got, [], []⟩ := by
  cases recipient <;> first | rfl | cases waits

/-- The recipient's step, seen from the recipient. -/
theorem recipientStep_view (e : RelayExchange Key PathBuf) (served : SourceBooks PathBuf)
    (queue : a.toRecipient = inbox ++ later) (busy : awaits a.recipient = true → inbox ≠ []) :
    ∃ used, inbox = used ++
        (e.recipientStep ⟨.waiting, served, a.recipient, a.got, [], inbox⟩).toRecipient ∧
      e.recipientStep a =
        { a with
          recipient :=
            (e.recipientStep ⟨.waiting, served, a.recipient, a.got, [], inbox⟩).recipient
          got := (e.recipientStep ⟨.waiting, served, a.recipient, a.got, [], inbox⟩).got
          toSource := a.toSource ++
            (e.recipientStep ⟨.waiting, served, a.recipient, a.got, [], inbox⟩).toSource
          toRecipient :=
            (e.recipientStep ⟨.waiting, served, a.recipient, a.got, [], inbox⟩).toRecipient ++
              later } := by
  obtain ⟨source, booked, recipient, got, toSource, toRecipient⟩ := a
  dsimp only at queue busy ⊢
  subst queue
  cases recipient with
  | requesting missing =>
      refine ⟨[], ?_⟩
      cases missing with
      | nil => simp [RelayExchange.recipientStep]
      | cons file rest =>
          obtain ⟨entry, index⟩ := file
          simp [RelayExchange.recipientStep]
  | awaitingHeader entry index rest =>
      cases inbox with
      | nil => exact absurd rfl (busy rfl)
      | cons message others =>
          refine ⟨[message], ?_⟩
          simp only [RelayExchange.recipientStep, List.cons_append]
          cases RelayExchange.recvFileHeader index message with
          | error failure => simp
          | ok header =>
              cases header <;> simp
  | awaitingBody entry index rest bodyNonce wrappedKeys ciphertext =>
      cases inbox with
      | nil => exact absurd rfl (busy rfl)
      | cons message others =>
          refine ⟨[message], ?_⟩
          simp only [RelayExchange.recipientStep, List.cons_append]
          cases RelayExchange.recvFileBody ciphertext message with
          | error failure => simp
          | ok more =>
              obtain ⟨more, done⟩ := more
              cases done <;> simp
  | storing entry index rest bodyNonce wrappedKeys ciphertext =>
      refine ⟨[], ?_⟩
      simp only [RelayExchange.recipientStep]
      cases e.openRelayed bodyNonce wrappedKeys ciphertext with
      | error message => simp
      | ok plaintext =>
          simp only
          generalize e.takeFile entry index plaintext got = taken
          obtain ⟨outcome, after⟩ := taken
          cases outcome <;> simp
  | ended outcome => exact ⟨[], by simp [RelayExchange.recipientStep]⟩

end Turns

/-- Frames under way are frames that a party sends. -/
theorem inStep_plain {Key PathBuf : Type} {e : RelayExchange Key PathBuf} {json : ControlJson}
    {result : RelayExchange.SessionResult PathBuf} {a : Relay PathBuf} (faithful : json.Faithful)
    (inStep : e.InStep result a) :
    (∀ frame ∈ a.coming, json.Plain frame) ∧ ∀ frame ∈ a.toSource, json.Plain frame := by
  have empty : ∀ {frames : List Message}, frames = [] → ∀ frame ∈ frames, json.Plain frame := by
    rintro frames rfl frame member
    cases member
  have one : ∀ {frames : List Message} {control : RelayControl},
      frames = [.control control] → ∀ frame ∈ frames, json.Plain frame := by
    rintro frames control rfl frame member
    cases List.mem_singleton.mp member
    exact faithful.control control
  have parts : ∀ {frames : List Message} (chunks : List (List UInt8)) (index : Nat),
      frames = chunks.map Message.binary ++ [.control (.fileEnd index)] →
        ∀ frame ∈ frames, json.Plain frame := by
    rintro frames chunks index rfl frame member
    rcases List.mem_append.mp member with chunk | last
    · obtain ⟨bytes, _, rfl⟩ := List.mem_map.mp chunk
      exact ControlJson.plain_binary bytes
    · exact one rfl frame last
  cases inStep with
  | requesting missing here serving quiet coming leads => exact ⟨empty coming, empty quiet⟩
  | asked entry index rest here serving request coming leads => exact ⟨empty coming, one request⟩
  | preparing entry index rest path here source quiet coming leads =>
      refine ⟨empty ?_, empty quiet⟩
      simp only [Relay.coming, coming, source, SourcePhase.framesLeft, List.append_nil]
  | refusing entry index rest reason here source quiet coming leads =>
      refine ⟨empty ?_, empty quiet⟩
      simp only [Relay.coming, coming, source, SourcePhase.framesLeft, List.append_nil]
  | refused entry index rest reason here serving quiet coming leads =>
      exact ⟨one coming, empty quiet⟩
  | header entry index rest size bodyNonce wrappedKeys ciphertext bytes here serving quiet coming
      opens leads =>
      refine ⟨?_, empty quiet⟩
      rw [coming]
      intro frame member
      rcases List.mem_cons.mp member with rfl | later
      · exact faithful.control _
      · exact parts _ _ rfl frame later
  | body entry index rest bodyNonce wrappedKeys ciphertext chunks bytes here serving quiet coming
      opens leads => exact ⟨parts chunks index coming, empty quiet⟩
  | storing entry index rest bodyNonce wrappedKeys ciphertext bytes here serving quiet coming opens
      leads => exact ⟨empty coming, empty quiet⟩
  | ended outcome here serving quiet coming leads => exact ⟨empty coming, empty quiet⟩

/-! ## The relay, seen from the transfer -/

section Net

variable {net : RelayNet} {c d : Nat} {connection : Connection}

theorem payloadMessages_append (first second : List Server.WsMessage) :
    payloadMessages (first ++ second) = payloadMessages first ++ payloadMessages second :=
  List.filter_append ..

theorem sentOn_of (there : net.connections[c]? = some connection) :
    sentOn net c = payloadMessages connection.sent := by
  simp only [sentOn, there]

theorem sentOn_sends (there : net.connections[c]? = some connection) (incoming : Incoming) :
    sentOn (net.sends c incoming) d =
      if d = c then sentOn net c ++ payloadMessages incoming.toMessage.toList
      else sentOn net d := by
  simp only [RelayNet.sends, there]
  rw [sentOn, RelayNet.getElem_setConnection there]
  by_cases same : d = c
  · rw [if_pos same, if_pos same]
    simp only [sentOn_of there, payloadMessages_append]
  · rw [if_neg same, if_neg same]
    rfl

/-- A connection stays, in its session. -/
theorem connection_step (event : RelayEvent) (there : net.connections[c]? = some connection) :
    ∃ after, (net.step event).connections[c]? = some after ∧
      after.sessionId = connection.sessionId := by
  obtain ⟨after, found, same | turn⟩ := (RelayNet.step_stirs net event).getElem there
  · exact ⟨after, found, same ▸ rfl⟩
  · exact ⟨after, found, congrArg Admission.sessionId (RelayNet.turn_admission turn).1⟩

/-- A connection was there, in its session, or has just been admitted. -/
theorem connection_origin (event : RelayEvent) {after : Connection}
    (found : (net.step event).connections[c]? = some after) :
    (∃ before, net.connections[c]? = some before ∧ before.sessionId = after.sessionId) ∨
      ∃ now device sessionId admission, event = .upgrades now device sessionId ∧
        relayWsUpgrade net.relays now device sessionId = .ok admission ∧
        after = .new device admission ∧ c = net.connections.length := by
  have stirs := RelayNet.step_stirs net event
  generalize (net.step event).connections = connections at stirs found
  cases stirs with
  | same => exact .inl ⟨after, found, rfl⟩
  | turns i before later there turn =>
      left
      by_cases same : i = c
      · subst same
        rw [List.getElem?_set_self (List.getElem?_eq_some_iff.mp there).1] at found
        cases found
        exact ⟨before, there, (congrArg Admission.sessionId (RelayNet.turn_admission turn).1).symm⟩
      · rw [List.getElem?_set_ne same] at found
        exact ⟨after, found, rfl⟩
  | enters now device sessionId admission admitted =>
      rcases Nat.lt_or_ge c net.connections.length with within | beyond
      · rw [List.getElem?_append_left within] at found
        exact .inl ⟨after, found, rfl⟩
      · rw [List.getElem?_append_right beyond, List.getElem?_singleton] at found
        split at found
        · cases found
          exact .inr ⟨now, device, sessionId, admission, rfl, admitted, rfl, by omega⟩
        · cases found

/-- A step that sends no frame on the connection leaves what was sent there. -/
theorem sentOn_step (event : RelayEvent) (there : net.connections[d]? = some connection)
    (quiet : ∀ c incoming, event = .sends c incoming → incoming.frames = [] ∨ c ≠ d) :
    sentOn (net.step event) d = sentOn net d := by
  obtain ⟨after, found, same | turn⟩ := (RelayNet.step_stirs net event).getElem there
  · rw [sentOn_of found, sentOn_of there, same]
  · cases turn with
    | sent incoming sends =>
        obtain ⟨c, rfl⟩ := sends
        cases found' : net.connections[c]? with
        | none =>
            show sentOn (net.sends c incoming) d = _
            rw [RelayNet.sends, found']
        | some sender =>
            show sentOn (net.sends c incoming) d = _
            rw [sentOn_sends found']
            split
            next same =>
                rcases quiet c incoming rfl with frameless | other
                · have nothing : payload incoming.toMessage.toList = [] := frameless
                  rw [payloadMessages_eq, nothing, List.map_nil, List.append_nil, same]
                · exact absurd same.symm other
            · rfl
    | _ =>
        rw [sentOn_of found, sentOn_of there]

theorem sentOn_sendAll (there : net.connections[c]? = some connection)
    {messages : List Server.WsMessage} (frames : ∀ message ∈ messages, message.frame.isSome) :
    sentOn (sendAll net c messages) d =
      if d = c then sentOn net c ++ messages else sentOn net d := by
  induction messages generalizing net connection with
  | nil =>
      split
      next same => rw [List.append_nil, same]; rfl
      · rfl
  | cons message rest ih =>
      obtain ⟨after, found, _⟩ := connection_step (.sends c (.message message)) there
      have first : payloadMessages [message] = [message] :=
        List.filter_eq_self.mpr fun other member => by
          rw [List.mem_singleton.mp member]
          exact frames message List.mem_cons_self
      have sends := ih found fun later member => frames later (List.mem_cons_of_mem _ member)
      rw [sendAll, List.map_cons, runFrom_cons]
      refine sends.trans ?_
      show (if d = c then sentOn (net.sends c _) c ++ rest else sentOn (net.sends c _) d) = _
      rw [sentOn_sends there, sentOn_sends there, if_pos rfl]
      split
      · show sentOn net c ++ payloadMessages [message] ++ rest = _
        rw [first, List.append_assoc, List.singleton_append]
      · rfl

/-- What a connection is delivered, the other connection of its session has sent. -/
theorem delivered_sentOn (lined : net.Lined) (there : net.connections[c]? = some connection)
    {mate : Option Nat} (mates : ∀ i other, net.connections[i]? = some other →
      other.sessionId = connection.sessionId → i = c ∨ mate = some i) :
    deliveredOn net c <+: (mate.map (sentOn net)).getD [] := by
  simp only [deliveredOn, there]
  by_cases got : connection.delivered = []
  · rw [got]
    exact List.nil_prefix
  · obtain ⟨j, sender, found, session, role, line, _⟩ := lined.delivered_line there got
    have other : j ≠ c := by
      rintro rfl
      cases there.symm.trans found
      cases opposite : connection.role <;> rw [opposite] at role <;> cases role
    rcases mates j sender found session with same | rfl
    · exact absurd same other
    · have sent := line.map Prod.snd
      rw [List.map_map] at sent
      simpa [sentOn_of found, Function.comp_def] using sent

end Net

/-! ## The two connections of a transfer -/

/-- What holds of the relay and of the connections of the two parties: the session is theirs,
and they have one connection each, the only ones of the session. -/
structure Held {Key PathBuf : Type} (e : RelayExchange Key PathBuf) (net : RelayNet)
    (session : Option SessionId) (source recipient : Option Nat) : Prop where
  lined : net.Lined
  known : ∀ sessionId, session = some sessionId → ∃ relay,
    net.relays.getRelaySession sessionId = some relay ∧ party relay .source = e.sourceDeviceId ∧
      party relay .recipient = e.requesterDeviceId
  mine : ∀ sessionId, session = some sessionId → ∀ i connection,
    net.connections[i]? = some connection → connection.sessionId = sessionId →
      source = some i ∨ recipient = some i
  linked : ∀ i, source = some i ∨ recipient = some i → ∃ sessionId connection,
    session = some sessionId ∧ net.connections[i]? = some connection ∧
      connection.sessionId = sessionId
  apart : ∀ i, source = some i → recipient ≠ some i

section Held

variable {Key PathBuf : Type} {e : RelayExchange Key PathBuf} {net : RelayNet}
  {session : Option SessionId} {source recipient : Option Nat}

/-- The relay takes a step in which nobody connects in a party's name. -/
theorem Held.step (held : Held e net session source recipient) (event : RelayEvent)
    (others : ∀ now device sessionId, event = .upgrades now device sessionId →
      session = some sessionId → device ≠ e.sourceDeviceId ∧ device ≠ e.requesterDeviceId) :
    Held e (net.step event) session source recipient where
  lined := RelayNet.step_lined net event held.lined
  known sessionId here := by
    obtain ⟨relay, stored, parties⟩ := held.known sessionId here
    exact ⟨relay, RelayNet.step_stored event stored, parties⟩
  mine sessionId here i connection found own := by
    rcases connection_origin event found with ⟨before, there, same⟩ |
      ⟨now, device, asked, admission, rfl, admitted, rfl, _⟩
    · exact held.mine sessionId here i before there (same.trans own)
    · obtain ⟨named, relay, stored, _, known, _⟩ := relayWsUpgrade_ok admitted
      have asked_eq : asked = sessionId := named.symm.trans own
      subst asked_eq
      obtain ⟨own, storedToo, sourceIs, recipientIs⟩ := held.known asked here
      cases stored.symm.trans storedToo
      obtain ⟨notSource, notRecipient⟩ := others now device asked rfl here
      cases role : admission.role with
      | source => exact absurd (known.trans (role ▸ sourceIs)) notSource
      | recipient => exact absurd (known.trans (role ▸ recipientIs)) notRecipient
  linked i owned := by
    obtain ⟨sessionId, connection, here, there, own⟩ := held.linked i owned
    obtain ⟨after, found, same⟩ := connection_step event there
    exact ⟨sessionId, after, here, found, same.trans own⟩
  apart := held.apart

theorem Held.sendAll (held : Held e net session source recipient) (c : Nat)
    (messages : List Server.WsMessage) :
    Held e (sendAll net c messages) session source recipient := by
  have keeps : ∀ (net : RelayNet) (event : RelayEvent), (∃ incoming, event = .sends c incoming) →
      Held e net session source recipient → Held e (net.step event) session source recipient := by
    rintro net _ ⟨incoming, rfl⟩ held
    exact held.step _ (by rintro now device sessionId ⟨⟩)
  refine run_keeps _ keeps ?_ held
  intro event member
  obtain ⟨message, _, rfl⟩ := List.mem_map.mp member
  exact ⟨_, rfl⟩

/-- The session is created. -/
theorem Held.creates (held : Held e net none none none) {ulid : String}
    (fresh : net.relays.getRelaySession (SessionId.new ulid) = none)
    (expiring created : Timestamp) :
    Held e (net.creates ulid expiring created e.clipId e.sourceDeviceId e.requesterDeviceId none
      none) (some (SessionId.new ulid)) none none where
  lined := RelayNet.step_lined net (.creates ulid expiring created e.clipId e.sourceDeviceId
    e.requesterDeviceId none none) held.lined
  known sessionId here := by
    cases here
    simp only [RelayNet.creates, fresh]
    exact ⟨_, KeyedTable.get_put_self .., rfl, rfl⟩
  mine sessionId here i connection found own := by
    cases here
    simp only [RelayNet.creates, fresh] at found
    obtain ⟨relay, stored, _⟩ :=
      held.lined.accounted.admitted connection (List.mem_of_getElem? found)
    rw [own, fresh] at stored
    cases stored
  linked i owned := by
    rcases owned with owned | owned <;> cases owned
  apart i owned := by cases owned

theorem upgrades_ok {now : Timestamp} {device : DeviceId} {sessionId : SessionId}
    {admission : Admission}
    (admitted : relayWsUpgrade net.relays now device sessionId = .ok admission) :
    (net.upgrades now device sessionId).connections =
        net.connections ++ [.new device admission] ∧
      (net.upgrades now device sessionId).relays = net.relays := by
  simp only [RelayNet.upgrades, admitted]
  exact ⟨trivial, trivial⟩

/-- A party connects. -/
theorem Held.admits (held : Held e net session source recipient) {now : Timestamp}
    {device : DeviceId} {sessionId : SessionId} (here : session = some sessionId)
    {admission : Admission}
    (admitted : relayWsUpgrade net.relays now device sessionId = .ok admission)
    {source' recipient' : Option Nat}
    (links : ∀ i, (source' = some i ∨ recipient' = some i) ↔
      (source = some i ∨ recipient = some i) ∨ i = net.connections.length)
    (apart : ∀ i, source' = some i → recipient' ≠ some i) :
    Held e (net.upgrades now device sessionId) session source' recipient' := by
  obtain ⟨connections, relays⟩ := upgrades_ok admitted
  refine ⟨RelayNet.step_lined net (.upgrades now device sessionId) held.lined, ?_, ?_, ?_, apart⟩
  · rw [relays]
    exact held.known
  · intro other same i connection found own
    refine (links i).mpr ?_
    rcases connection_origin (.upgrades now device sessionId) found with
      ⟨before, there, named⟩ | ⟨_, _, _, _, _, _, _, last⟩
    · exact .inl (held.mine other same i before there (named.trans own))
    · exact .inr last
  · intro i owned
    rcases (links i).mp owned with old | rfl
    · obtain ⟨own, connection, same, there, named⟩ := held.linked i old
      obtain ⟨after, found, kept⟩ := connection_step (.upgrades now device sessionId) there
      exact ⟨own, after, same, found, kept.trans named⟩
    · refine ⟨sessionId, .new device admission, here, ?_, (relayWsUpgrade_ok admitted).1⟩
      rw [connections, List.getElem?_concat_length]

/-- Links are to connections that are there. -/
theorem Held.below (held : Held e net session source recipient) {i : Nat}
    (owned : source = some i ∨ recipient = some i) : i < net.connections.length := by
  obtain ⟨_, _, _, there, _⟩ := held.linked i owned
  exact (List.getElem?_eq_some_iff.mp there).1

/-- What a party is delivered, the other party has sent. -/
theorem Held.delivered (held : Held e net session source recipient) {own : Nat} :
    (source = some own → deliveredOn net own <+: (recipient.map (sentOn net)).getD []) ∧
      (recipient = some own → deliveredOn net own <+: (source.map (sentOn net)).getD []) := by
  constructor
  · intro linked
    obtain ⟨sessionId, connection, here, there, named⟩ := held.linked own (.inl linked)
    refine delivered_sentOn held.lined there fun i other found same => ?_
    rcases held.mine sessionId here i other found (same.trans named) with first | second
    · exact .inl (Option.some.inj (first.symm.trans linked))
    · exact .inr second
  · intro linked
    obtain ⟨sessionId, connection, here, there, named⟩ := held.linked own (.inr linked)
    refine delivered_sentOn held.lined there fun i other found same => ?_
    rcases held.mine sessionId here i other found (same.trans named) with first | second
    · exact .inr first
    · exact .inl (Option.some.inj (second.symm.trans linked))

end Held

end AirPaste.System
