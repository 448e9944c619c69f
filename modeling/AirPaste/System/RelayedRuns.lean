/-
# System.RelayedRuns — what a relay download comes to, whatever happens on the way

`Shadow` relates a transfer over the server's relay to a session over two reliable queues
(Agent.RelayProtocol): a party that has not failed stands where its shadow stands, and a
queue holds what was sent on one connection and not read on the other, delivered or not.
A turn of a party is a step of its shadow or none, and a party that fails leaves its shadow
where it was (`stands_step`).

`sourceTurn_steps` and `recipientTurn_steps` say when a turn is such a step; `stands_run` is
the shadow of a whole run.
-/
import AirPaste.System.RelayedWire

namespace AirPaste.System

open AirPaste.Agent
open AirPaste.Core
open AirPaste.Server
open AirPaste.Theory

set_option autoImplicit false

variable {Key PathBuf : Type} {e : RelayExchange Key PathBuf} {json : ControlJson}
  {registry : PeerFileRegistry PathBuf} {receiving : Receiving}
  {t t' : Relayed PathBuf} {a : Relay PathBuf}

/-! ## Queues -/

/-- The queue holds what was sent and, so many messages later, not read. -/
def Carries (json : ControlJson) (sent : List Server.WsMessage) (read : Nat)
    (queue : List Message) : Prop :=
  ∃ taken, sent.map json.read = taken ++ queue ∧ taken.length = read

theorem Carries.send {sent : List Server.WsMessage} {read : Nat} {queue frames : List Message}
    (carries : Carries json sent read queue) (plain : ∀ frame ∈ frames, json.Plain frame) :
    Carries json (sent ++ frames.filterMap json.written) read (queue ++ frames) := by
  obtain ⟨taken, log, count⟩ := carries
  refine ⟨taken, ?_, count⟩
  rw [List.map_append, log, ControlJson.read_written plain, List.append_assoc]

theorem Carries.take {sent : List Server.WsMessage} {read : Nat} {used rest : List Message}
    (carries : Carries json sent read (used ++ rest)) :
    Carries json sent (read + used.length) rest := by
  obtain ⟨taken, log, count⟩ := carries
  exact ⟨taken ++ used, by rw [log, List.append_assoc], by rw [List.length_append, count]⟩

/-- What a party finds next is the head of its queue. -/
theorem Carries.next {sent delivered : List Server.WsMessage} {read : Nat} {queue : List Message}
    (carries : Carries json sent read queue) (first : delivered <+: sent) :
    ∃ later, queue = (delivered[read]?).toList.map json.read ++ later := by
  obtain ⟨taken, log, count⟩ := carries
  cases found : delivered[read]? with
  | none => exact ⟨queue, rfl⟩
  | some message =>
      obtain ⟨bound, here⟩ := List.getElem?_eq_some_iff.mp found
      have sentToo : (sent.map json.read)[read]? = some (json.read message) := by
        rw [List.getElem?_map, ← here]
        obtain ⟨more, rfl⟩ := first
        rw [List.getElem?_append_left bound, List.getElem?_eq_getElem bound, Option.map_some]
      rw [log, ← count, List.getElem?_append_right (Nat.le_refl _), Nat.sub_self] at sentToo
      cases queue with
      | nil => cases sentToo
      | cons frame later =>
          cases sentToo
          exact ⟨later, rfl⟩

/-! ## The shadow -/

/-- The connection of a party. -/
def linkOf (link : Option RelayLink) : Option Nat := link.map RelayLink.connection

/-- The messages that a party has read. -/
def readOver (link : Option RelayLink) : Nat := (link.map RelayLink.read).getD 0

/-- The frames that a party has sent. -/
def sentOver (net : RelayNet) (link : Option RelayLink) : List Server.WsMessage :=
  ((linkOf link).map (sentOn net)).getD []

/-- The source stands where its shadow does, or has failed. -/
inductive SourceSide (t : Relayed PathBuf) (a : Relay PathBuf) : Prop
  | goes (source : t.source = a.source) (served : t.served = a.served)
  | broke (stopped : t.source = .stopped) (sent : t.served.sent = a.served.sent)

/-- The recipient is not connected yet, stands where its shadow does, or has failed. -/
inductive RecipientSide (e : RelayExchange Key PathBuf) (registry : PeerFileRegistry PathBuf)
    (receiving : Receiving) (t : Relayed PathBuf) (a : Relay PathBuf) : Prop
  | waits (missing : List (FileEntry × Nat)) (unlinked : t.recipientLink = none)
      (phase : t.recipient = .requesting missing) (got : t.got = ⟨receiving, []⟩)
      (recipient : a.recipient = (e.start registry receiving).recipient)
      (before : a.got = (e.start registry receiving).got)
  | goes (linked : t.recipientLink = none → ∃ outcome, t.recipient = .ended outcome)
      (recipient : t.recipient = a.recipient) (got : t.got = a.got)
  | broke (failure : Failure) (ended : t.recipient = .ended (.error failure))
      (obtained : t.got.obtained = a.got.obtained)

structure Shadow (e : RelayExchange Key PathBuf) (json : ControlJson)
    (registry : PeerFileRegistry PathBuf) (receiving : Receiving) (t : Relayed PathBuf)
    (a : Relay PathBuf) : Prop where
  inStep : e.InStep (e.session registry receiving) a
  runs : a.source ≠ .stopped
  source : SourceSide t a
  recipient : RecipientSide e registry receiving t a
  asked : Carries json (sentOver t.net t.recipientLink) (readOver t.sourceLink) a.toSource
  answered : Carries json (sentOver t.net t.sourceLink) (readOver t.recipientLink) a.toRecipient

/-- What holds in every state. -/
structure Stands (e : RelayExchange Key PathBuf) (json : ControlJson)
    (registry : PeerFileRegistry PathBuf) (receiving : Receiving) (t : Relayed PathBuf) :
    Prop where
  held : Held e t.net t.session (linkOf t.sourceLink) (linkOf t.recipientLink)
  shadow : ∃ a, Shadow e json registry receiving t a

theorem RecipientSide.congr (side : RecipientSide e registry receiving t a)
    {b : Relay PathBuf} (link : t'.recipientLink = t.recipientLink)
    (phase : t'.recipient = t.recipient) (got : t'.got = t.got)
    (recipient : b.recipient = a.recipient) (gotToo : b.got = a.got) :
    RecipientSide e registry receiving t' b := by
  cases side with
  | waits missing unlinked here own waits before =>
      exact .waits missing (link.trans unlinked) (phase.trans here) (got.trans own)
        (recipient.trans waits) (gotToo.trans before)
  | goes linked here own =>
      refine .goes (fun unlinked => ?_) (phase.trans (here.trans recipient.symm))
        (got.trans (own.trans gotToo.symm))
      obtain ⟨outcome, ended⟩ := linked (link.symm.trans unlinked)
      exact ⟨outcome, phase.trans ended⟩
  | broke failure ended obtained =>
      exact .broke failure (phase.trans ended) (by rw [got, obtained, gotToo])

theorem SourceSide.congr (side : SourceSide t a) {b : Relay PathBuf}
    (phase : t'.source = t.source) (served : t'.served = t.served)
    (source : b.source = a.source) (servedToo : b.served = a.served) : SourceSide t' b := by
  cases side with
  | goes here own =>
      exact .goes (phase.trans (here.trans source.symm))
        (served.trans (own.trans servedToo.symm))
  | broke stopped sent => exact .broke (phase.trans stopped) (by rw [served, sent, servedToo])

/-! ## Steps beside the turns -/

theorem owns_iff {c : Nat} :
    t.owns c = true ↔ linkOf t.sourceLink = some c ∨ linkOf t.recipientLink = some c := by
  simp only [Relayed.owns, linkOf, Bool.or_eq_true, decide_eq_true_eq]

theorem sentOver_world (held : Held e t.net t.session (linkOf t.sourceLink)
    (linkOf t.recipientLink)) {event : RelayEvent} (foreign : t.foreign e event = true)
    {link : Option RelayLink} (own : link = t.sourceLink ∨ link = t.recipientLink) :
    sentOver (t.net.step event) link = sentOver t.net link := by
  simp only [sentOver]
  cases connected : linkOf link with
  | none => rfl
  | some i =>
      have owned : linkOf t.sourceLink = some i ∨ linkOf t.recipientLink = some i := by
        rcases own with rfl | rfl
        · exact .inl connected
        · exact .inr connected
      obtain ⟨_, connection, _, there, _⟩ := held.linked i owned
      refine sentOn_step event there ?_
      rintro c incoming rfl
      simp only [Relayed.foreign, Bool.or_eq_true, List.isEmpty_iff, Bool.not_eq_true'] at foreign
      refine foreign.imp_right fun other => ?_
      rintro rfl
      rw [owns_iff.mpr owned] at other
      cases other

theorem Stands.world (stands : Stands e json registry receiving t) (event : RelayEvent) :
    Stands e json registry receiving (t.world e event) := by
  obtain ⟨held, a, shadow⟩ := stands
  unfold Relayed.world
  split
  next foreign =>
      refine ⟨held.step event ?_, a, ?_⟩
      · rintro now device sessionId rfl here
        simp only [Relayed.foreign, here, decide_true, Bool.true_and, Bool.not_eq_true',
          Bool.or_eq_false_iff, decide_eq_false_iff_not] at foreign
        exact foreign
      · refine ⟨shadow.inStep, shadow.runs, shadow.source.congr rfl rfl rfl rfl,
          shadow.recipient.congr rfl rfl rfl rfl rfl, ?_, ?_⟩
        · rw [sentOver_world held foreign (.inr rfl)]
          exact shadow.asked
        · rw [sentOver_world held foreign (.inl rfl)]
          exact shadow.answered
  · exact ⟨held, a, shadow⟩

/-- Before there is a session, nobody is connected. -/
theorem Held.unlinked {net : RelayNet} {source recipient : Option Nat}
    (held : Held e net none source recipient) : source = none ∧ recipient = none := by
  constructor
  · refine Option.eq_none_iff_forall_ne_some.mpr fun i linked => ?_
    obtain ⟨_, _, none, _⟩ := held.linked i (.inl linked)
    cases none
  · refine Option.eq_none_iff_forall_ne_some.mpr fun i linked => ?_
    obtain ⟨_, _, none, _⟩ := held.linked i (.inr linked)
    cases none

theorem Stands.creates (stands : Stands e json registry receiving t) (ulid : String)
    (expiring created : Timestamp) :
    Stands e json registry receiving (t.recipientCreates e ulid expiring created) := by
  unfold Relayed.recipientCreates
  split
  next missing absent here =>
      split
      · exact stands
      next fresh =>
          obtain ⟨held, a, shadow⟩ := stands
          rw [absent] at held
          obtain ⟨source, recipient⟩ := held.unlinked
          refine ⟨?_, a, shadow.inStep, shadow.runs, shadow.source.congr rfl rfl rfl rfl,
            shadow.recipient.congr rfl rfl rfl rfl rfl, ?_, ?_⟩
          · rw [source, recipient] at held ⊢
            exact held.creates fresh expiring created
          · have asked := shadow.asked
            simp only [sentOver, recipient] at asked ⊢
            exact asked
          · have answered := shadow.answered
            simp only [sentOver, source] at answered ⊢
            exact answered
  · exact stands

/-- A connection that was there has sent what it had. -/
theorem sentOver_upgrades {net : RelayNet} {session : Option SessionId}
    {source recipient : Option Nat} (held : Held e net session source recipient)
    {now : Timestamp} {device : DeviceId} {sessionId : SessionId} {link : Option RelayLink}
    (own : linkOf link = source ∨ linkOf link = recipient) :
    sentOver (net.upgrades now device sessionId) link = sentOver net link := by
  simp only [sentOver]
  cases connected : linkOf link with
  | none => rfl
  | some i =>
      rw [connected] at own
      obtain ⟨_, connection, _, there, _⟩ :=
        held.linked i (own.imp Eq.symm Eq.symm)
      exact sentOn_step (.upgrades now device sessionId) there (by rintro c incoming ⟨⟩)

theorem sentOn_admitted {net : RelayNet} {now : Timestamp} {device : DeviceId}
    {sessionId : SessionId} {admission : Admission}
    (admitted : relayWsUpgrade net.relays now device sessionId = .ok admission) :
    sentOn (net.upgrades now device sessionId) net.connections.length = [] := by
  have found : (net.upgrades now device sessionId).connections[net.connections.length]? =
      some (.new device admission) := by
    rw [(upgrades_ok admitted).1, List.getElem?_concat_length]
  rw [sentOn_of found]
  rfl

theorem Stands.sourceConnects (stands : Stands e json registry receiving t) (now : Timestamp) :
    Stands e json registry receiving (t.sourceConnects e now) := by
  unfold Relayed.sourceConnects
  split
  next sessionId here unlinked waiting =>
      obtain ⟨held, a, shadow⟩ := stands
      cases admitted : relayWsUpgrade t.net.relays now e.sourceDeviceId sessionId with
      | error error =>
          refine ⟨held, a, shadow.inStep, shadow.runs, .broke rfl ?_,
            shadow.recipient.congr rfl rfl rfl rfl rfl, shadow.asked, shadow.answered⟩
          cases shadow.source with
          | goes source served => exact congrArg SourceBooks.sent served
          | broke stopped sent => exact sent
      | ok admission =>
          refine ⟨held.admits here admitted (fun i => ?_) (fun i linked own => ?_), a,
            shadow.inStep, shadow.runs, shadow.source.congr rfl rfl rfl rfl,
            shadow.recipient.congr rfl rfl rfl rfl rfl, ?_, ?_⟩
          · simp only [linkOf, unlinked, Option.map_none, Option.map_some, reduceCtorEq, false_or,
              Option.some.injEq]
            rw [or_comm, eq_comm (a := i)]
          · cases linked
            exact absurd (held.below (.inr own)) (Nat.lt_irrefl _)
          · rw [sentOver_upgrades held (.inr rfl)]
            have asked := shadow.asked
            rw [unlinked] at asked
            exact asked
          · have answered := shadow.answered
            rw [unlinked] at answered
            rw [show sentOver _ (some (RelayLink.mk t.net.connections.length 0)) = [] from
              sentOn_admitted admitted]
            exact answered
  · exact stands

/-- The recipient's loop begins where the session of the shadow begins. -/
theorem start_entered :
    (e.start registry receiving).recipient =
        (match (e.prepareDownload receiving).1 with
          | .error outcome => .ended outcome
          | .ok missing => .requesting missing) ∧
      (e.start registry receiving).got = ⟨(e.prepareDownload receiving).2, []⟩ := ⟨rfl, rfl⟩

theorem Stands.recipientConnects (stands : Stands e json registry receiving t)
    (now : Timestamp) : Stands e json registry receiving (t.recipientConnects e now) := by
  unfold Relayed.recipientConnects
  split
  next sessionId missing here unlinked asking =>
      obtain ⟨held, a, shadow⟩ := stands
      cases shadow.recipient with
      | goes linked recipient got =>
          obtain ⟨outcome, ended⟩ := linked unlinked
          cases asking.symm.trans ended
      | broke failure ended obtained => cases asking.symm.trans ended
      | waits _ _ _ got recipient before =>
          cases admitted : relayWsUpgrade t.net.relays now e.requesterDeviceId sessionId with
          | error error =>
              exact ⟨held, a, shadow.inStep, shadow.runs, shadow.source.congr rfl rfl rfl rfl,
                .broke _ rfl (by rw [got, before]; rfl), shadow.asked, shadow.answered⟩
          | ok admission =>
              refine ⟨held.admits here admitted (fun i => ?_) (fun i linked own => ?_), a,
                shadow.inStep, shadow.runs, shadow.source.congr rfl rfl rfl rfl,
                .goes nofun ?_ ?_, ?_, ?_⟩
              · simp only [linkOf, unlinked, Option.map_none, Option.map_some, reduceCtorEq,
                  or_false, Option.some.injEq]
                rw [eq_comm (a := i)]
              · cases own
                exact absurd (held.below (.inl linked)) (Nat.lt_irrefl _)
              · obtain rfl : t.got.receiving = receiving := by rw [got]
                exact (recipient.trans start_entered.1).symm
              · obtain rfl : t.got.receiving = receiving := by rw [got]
                exact (before.trans start_entered.2).symm
              · have asked := shadow.asked
                rw [unlinked] at asked
                rw [show sentOver _ (some (RelayLink.mk t.net.connections.length 0)) = [] from
                  sentOn_admitted admitted]
                exact asked
              · rw [sentOver_upgrades held (.inl rfl)]
                have answered := shadow.answered
                rw [unlinked] at answered
                exact answered
  · exact stands

/-! ## Turns -/

/-- A source that is not stopped does not stop of itself. -/
theorem sourceStep_runs (e : RelayExchange Key PathBuf) {source : SourcePhase PathBuf}
    (served : SourceBooks PathBuf) (got : RecipientBooks) (inbox : List Message)
    (runs : source ≠ .stopped) :
    (e.sourceStep ⟨source, served, .requesting [], got, inbox, []⟩).source ≠ .stopped := by
  cases source with
  | waiting =>
      cases inbox with
      | nil => exact runs
      | cons message rest =>
          cases message with
          | text parsed =>
              cases parsed with
              | error error => simp [RelayExchange.sourceStep]
              | ok control =>
                  cases control with
                  | request clipId sourceDeviceId requesterDeviceId signatureAlg signature token
                      index =>
                      simp only [RelayExchange.sourceStep]
                      generalize e.claimRequested served clipId sourceDeviceId requesterDeviceId
                        signatureAlg signature token index = claimed
                      obtain ⟨answer, after⟩ := claimed
                      cases answer <;> simp
                  | _ => simp [RelayExchange.sourceStep]
          | _ => simp [RelayExchange.sourceStep]
  | preparing token index path =>
      simp only [RelayExchange.sourceStep]
      cases e.prepareRelayFile served.claims path index <;> simp
  | sending token index frames => cases frames <;> simp [RelayExchange.sourceStep]
  | refusing reason => simp [RelayExchange.sourceStep]
  | stopped => exact absurd rfl runs

/-- Where the source's turn does nothing. -/
theorem sourceTurn_idle {link : RelayLink} (linked : t.sourceLink = some link)
    (idle : e.sourceStep (t.sourceView (t.next json link)) = t.sourceView (t.next json link)) :
    t.sourceTurn e json = t := by
  simp only [Relayed.sourceTurn, linked, idle]
  obtain ⟨net, session, source, served, sourceLink, recipient, got, recipientLink⟩ := t
  cases linked
  simp [Relayed.sourceView, sendAll]

theorem recipientTurn_idle {link : RelayLink} (linked : t.recipientLink = some link)
    (idle : e.recipientStep (t.recipientView (t.next json link)) =
      t.recipientView (t.next json link)) : t.recipientTurn e json = t := by
  simp only [Relayed.recipientTurn, linked, idle]
  obtain ⟨net, session, source, served, sourceLink, recipient, got, recipientLink⟩ := t
  cases linked
  simp [Relayed.recipientView, sendAll]

/-- What is left in the inbox of a turn says how much was read. -/
theorem length_used {inbox used rest : List Message} (split : inbox = used ++ rest) :
    inbox.length - rest.length = used.length := by
  rw [split, List.length_append, Nat.add_sub_cancel]

/-- A party's frames are sent on its own connection, and read as they were written. -/
theorem sentOver_sendAll (json : ControlJson) {net : RelayNet} {session : Option SessionId}
    {source recipient : Option Nat} (held : Held e net session source recipient)
    {link other : Option RelayLink} {c : Nat} (own : linkOf link = some c)
    (owned : source = some c ∨ recipient = some c) (apart : linkOf other ≠ some c)
    (frames : List Message) :
    sentOver (sendAll net c (frames.filterMap json.written)) link =
        sentOver net link ++ frames.filterMap json.written ∧
      sentOver (sendAll net c (frames.filterMap json.written)) other = sentOver net other := by
  obtain ⟨_, connection, _, there, _⟩ := held.linked c owned
  have written : ∀ message ∈ frames.filterMap json.written, message.frame.isSome :=
    ControlJson.written_frames
  constructor
  · simp only [sentOver, own, Option.map_some, Option.getD_some]
    rw [sentOn_sendAll there written, if_pos rfl]
  · simp only [sentOver]
    cases connected : linkOf other with
    | none => rfl
    | some d =>
        rw [connected] at apart
        simp only [Option.map_some, Option.getD_some]
        rw [sentOn_sendAll there written, if_neg fun same => apart (congrArg some same)]

theorem sourceTurn_held (held : Held e t.net t.session (linkOf t.sourceLink)
    (linkOf t.recipientLink)) :
    Held e (t.sourceTurn e json).net (t.sourceTurn e json).session
      (linkOf (t.sourceTurn e json).sourceLink) (linkOf (t.sourceTurn e json).recipientLink) := by
  unfold Relayed.sourceTurn
  split
  · exact held
  next link linked =>
      rw [linked] at held
      exact held.sendAll link.connection _

theorem recipientTurn_held (held : Held e t.net t.session (linkOf t.sourceLink)
    (linkOf t.recipientLink)) :
    Held e (t.recipientTurn e json).net (t.recipientTurn e json).session
      (linkOf (t.recipientTurn e json).sourceLink)
      (linkOf (t.recipientTurn e json).recipientLink) := by
  unfold Relayed.recipientTurn
  split
  · exact held
  next link linked =>
      rw [linked] at held
      exact held.sendAll link.connection _

/-- The two sides stand where their shadows do. -/
structure Goes (t : Relayed PathBuf) (a : Relay PathBuf) : Prop where
  source : t.source = a.source
  served : t.served = a.served
  recipient : t.recipient = a.recipient
  got : t.got = a.got

/-- A source that finds a message, or waits for none, takes the step of its shadow. -/
theorem sourceTurn_steps (matched : e.Matched) (faithful : json.Faithful)
    (held : Held e t.net t.session (linkOf t.sourceLink) (linkOf t.recipientLink))
    (shadow : Shadow e json registry receiving t a) {link : RelayLink}
    (linked : t.sourceLink = some link) (source : t.source = a.source)
    (served : t.served = a.served) (busy : a.source = .waiting → t.next json link ≠ []) :
    Shadow e json registry receiving (t.sourceTurn e json) (e.sourceStep a) ∧
      (t.recipient = a.recipient → t.got = a.got →
        Goes (t.sourceTurn e json) (e.sourceStep a)) := by
  have own : linkOf t.sourceLink = some link.connection := by rw [linked]; rfl
  have asked := shadow.asked
  rw [linked] at asked
  obtain ⟨later, found⟩ := asked.next (held.delivered.1 own)
  have queue : a.toSource = t.next json link ++ later := found
  have view := sourceStep_view e t.got queue busy
  rw [← source, ← served] at view
  obtain ⟨used, split, stepped⟩ := view
  have inStep : e.InStep _ (e.sourceStep a) :=
    RelayExchange.inStep_step matched shadow.inStep .source
  have runs := sourceStep_runs e t.served t.got (t.next json link) (source ▸ shadow.runs)
  have plain := (inStep_plain faithful inStep).1
  rw [stepped, Relay.coming] at plain
  have frames := sentOver_sendAll json held own (.inl own) (held.apart _ own)
    (e.sourceStep (t.sourceView (t.next json link))).toRecipient
  simp only [Relayed.sourceTurn, linked]
  refine ⟨⟨inStep, ?_, ?_, ?_, ?_, ?_⟩, fun recipient got => ?_⟩
  · rw [stepped]
    exact runs
  · rw [stepped]
    exact .goes rfl rfl
  · rw [stepped]
    exact shadow.recipient.congr rfl rfl rfl rfl rfl
  · have count : (t.next json link).length -
        (e.sourceStep (t.sourceView (t.next json link))).toSource.length = used.length :=
      length_used split
    rw [stepped, count]
    show Carries json (sentOver (sendAll _ _ _) t.recipientLink) (link.read + _) _
    rw [frames.2]
    rw [queue, split, List.append_assoc] at asked
    exact asked.take
  · rw [stepped]
    show Carries json (sentOver (sendAll _ _ _) (some ⟨link.connection, _⟩)) _ _
    have sent : sentOver (sendAll t.net link.connection _) t.sourceLink = _ := frames.1
    rw [linked] at sent
    refine Eq.mpr (congrArg (Carries json · _ _) sent) ?_
    have answered := shadow.answered
    rw [linked] at answered
    refine answered.send fun frame member => plain frame ?_
    exact List.mem_append_left _ (List.mem_append_right _ member)
  · rw [stepped]
    exact ⟨rfl, rfl, recipient, got⟩

/-- The source's turn does nothing, or is a step of its shadow. -/
theorem shadow_sourceTurn (matched : e.Matched) (faithful : json.Faithful)
    (held : Held e t.net t.session (linkOf t.sourceLink) (linkOf t.recipientLink))
    (shadow : Shadow e json registry receiving t a) :
    t.sourceTurn e json = t ∨
      Shadow e json registry receiving (t.sourceTurn e json) (e.sourceStep a) ∧
        (Goes t a → Goes (t.sourceTurn e json) (e.sourceStep a)) := by
  cases linked : t.sourceLink with
  | none =>
      left
      simp only [Relayed.sourceTurn, linked]
  | some link =>
      cases shadow.source with
      | broke stopped sent =>
          refine .inl (sourceTurn_idle linked ?_)
          simp only [Relayed.sourceView, stopped, RelayExchange.sourceStep]
      | goes source served =>
          by_cases idle : a.source = .waiting ∧ t.next json link = []
          · refine .inl (sourceTurn_idle linked ?_)
            rw [idle.2, Relayed.sourceView, source, idle.1]
            exact sourceStep_idle_view
          · have steps := sourceTurn_steps matched faithful held shadow linked source served
              fun waiting empty => idle ⟨waiting, empty⟩
            exact .inr ⟨steps.1, fun goes => steps.2 goes.recipient goes.got⟩

/-- A recipient that finds a message, or awaits none, takes the step of its shadow. -/
theorem recipientTurn_steps (matched : e.Matched) (faithful : json.Faithful)
    (held : Held e t.net t.session (linkOf t.sourceLink) (linkOf t.recipientLink))
    (shadow : Shadow e json registry receiving t a) {link : RelayLink}
    (linked : t.recipientLink = some link) (recipient : t.recipient = a.recipient)
    (got : t.got = a.got) (busy : awaits a.recipient = true → t.next json link ≠ []) :
    Shadow e json registry receiving (t.recipientTurn e json) (e.recipientStep a) ∧
      (t.source = a.source → t.served = a.served →
        Goes (t.recipientTurn e json) (e.recipientStep a)) := by
  have own : linkOf t.recipientLink = some link.connection := by rw [linked]; rfl
  have answered := shadow.answered
  rw [linked] at answered
  obtain ⟨later, found⟩ := answered.next (held.delivered.2 own)
  have queue : a.toRecipient = t.next json link ++ later := found
  have view := recipientStep_view e t.served queue busy
  rw [← recipient, ← got] at view
  obtain ⟨used, split, stepped⟩ := view
  have inStep : e.InStep _ (e.recipientStep a) :=
    RelayExchange.inStep_step matched shadow.inStep .recipient
  have plain := (inStep_plain faithful inStep).2
  rw [stepped] at plain
  have apart : linkOf t.sourceLink ≠ some link.connection :=
    fun same => held.apart _ same own
  have frames := sentOver_sendAll json held own (.inr own) apart
    (e.recipientStep (t.recipientView (t.next json link))).toSource
  simp only [Relayed.recipientTurn, linked]
  refine ⟨⟨inStep, ?_, ?_, ?_, ?_, ?_⟩, fun source served => ?_⟩
  · rw [stepped]
    exact shadow.runs
  · rw [stepped]
    exact shadow.source.congr rfl rfl rfl rfl
  · rw [stepped]
    exact .goes nofun rfl rfl
  · rw [stepped]
    show Carries json (sentOver (sendAll _ _ _) (some ⟨link.connection, _⟩)) _ _
    have sent : sentOver (sendAll t.net link.connection _) t.recipientLink = _ := frames.1
    rw [linked] at sent
    refine Eq.mpr (congrArg (Carries json · _ _) sent) ?_
    have asked := shadow.asked
    rw [linked] at asked
    exact asked.send fun frame member => plain frame (List.mem_append_right _ member)
  · have count : (t.next json link).length -
        (e.recipientStep (t.recipientView (t.next json link))).toRecipient.length =
          used.length := length_used split
    rw [stepped, count]
    show Carries json (sentOver (sendAll _ _ _) t.sourceLink) (link.read + _) _
    rw [frames.2]
    rw [queue, split, List.append_assoc] at answered
    exact answered.take
  · rw [stepped]
    exact ⟨source, served, rfl, rfl⟩

/-- The recipient's turn does nothing, or is a step of its shadow. -/
theorem shadow_recipientTurn (matched : e.Matched) (faithful : json.Faithful)
    (held : Held e t.net t.session (linkOf t.sourceLink) (linkOf t.recipientLink))
    (shadow : Shadow e json registry receiving t a) :
    t.recipientTurn e json = t ∨
      Shadow e json registry receiving (t.recipientTurn e json) (e.recipientStep a) ∧
        (Goes t a → Goes (t.recipientTurn e json) (e.recipientStep a)) := by
  cases linked : t.recipientLink with
  | none =>
      left
      simp only [Relayed.recipientTurn, linked]
  | some link =>
      cases shadow.recipient with
      | waits missing unlinked phase got recipient before => cases linked.symm.trans unlinked
      | broke failure ended obtained =>
          refine .inl (recipientTurn_idle linked ?_)
          simp only [Relayed.recipientView, ended, RelayExchange.recipientStep]
      | goes _ recipient got =>
          by_cases idle : awaits a.recipient = true ∧ t.next json link = []
          · refine .inl (recipientTurn_idle linked ?_)
            rw [idle.2, Relayed.recipientView, recipient]
            exact recipientStep_idle_view idle.1
          · have steps := recipientTurn_steps matched faithful held shadow linked recipient got
              fun waiting empty => idle ⟨waiting, empty⟩
            exact .inr ⟨steps.1, fun goes => steps.2 goes.source goes.served⟩

/-! ## Runs -/

theorem Stands.sourceFails (stands : Stands e json registry receiving t) :
    Stands e json registry receiving t.sourceFails := by
  obtain ⟨held, a, shadow⟩ := stands
  have sent : t.served.sent = a.served.sent := by
    cases shadow.source with
    | goes source served => exact congrArg SourceBooks.sent served
    | broke stopped sent => exact sent
  unfold Relayed.sourceFails
  split
  · exact ⟨held, a, shadow.inStep, shadow.runs, .broke rfl sent,
      shadow.recipient.congr rfl rfl rfl rfl rfl, shadow.asked, shadow.answered⟩
  · exact ⟨held, a, shadow.inStep, shadow.runs, .broke rfl sent,
      shadow.recipient.congr rfl rfl rfl rfl rfl, shadow.asked, shadow.answered⟩
  · exact ⟨held, a, shadow.inStep, shadow.runs, .broke rfl sent,
      shadow.recipient.congr rfl rfl rfl rfl rfl, shadow.asked, shadow.answered⟩
  · exact ⟨held, a, shadow⟩

theorem Shadow.obtained (shadow : Shadow e json registry receiving t a) :
    t.got.obtained = a.got.obtained := by
  cases shadow.recipient with
  | waits missing unlinked phase got recipient before =>
      rw [got, before]
      rfl
  | goes linked recipient got => rw [got]
  | broke failure ended obtained => exact obtained

theorem Stands.recipientFails (stands : Stands e json registry receiving t) (failure : Failure) :
    Stands e json registry receiving (t.recipientFails failure) := by
  obtain ⟨held, a, shadow⟩ := stands
  have obtained := shadow.obtained
  unfold Relayed.recipientFails
  split
  · exact ⟨held, a, shadow.inStep, shadow.runs, shadow.source.congr rfl rfl rfl rfl,
      .broke failure rfl obtained, shadow.asked, shadow.answered⟩
  · exact ⟨held, a, shadow.inStep, shadow.runs, shadow.source.congr rfl rfl rfl rfl,
      .broke failure rfl obtained, shadow.asked, shadow.answered⟩
  · exact ⟨held, a, shadow.inStep, shadow.runs, shadow.source.congr rfl rfl rfl rfl,
      .broke failure rfl obtained, shadow.asked, shadow.answered⟩
  · exact ⟨held, a, shadow⟩

theorem stands_step (matched : e.Matched) (faithful : json.Faithful) (t : Relayed PathBuf)
    (event : RelayedEvent) (stands : Stands e json registry receiving t) :
    Stands e json registry receiving (t.step e json event) := by
  cases event with
  | world event => exact stands.world event
  | recipientCreates ulid expiring created => exact stands.creates ulid expiring created
  | sourceConnects now => exact stands.sourceConnects now
  | recipientConnects now => exact stands.recipientConnects now
  | sourceTurn =>
      obtain ⟨held, a, shadow⟩ := stands
      refine ⟨sourceTurn_held held, ?_⟩
      rcases shadow_sourceTurn matched faithful held shadow with same | stepped
      · refine ⟨a, ?_⟩
        rw [show t.step e json .sourceTurn = t from same]
        exact shadow
      · exact ⟨_, stepped.1⟩
  | recipientTurn =>
      obtain ⟨held, a, shadow⟩ := stands
      refine ⟨recipientTurn_held held, ?_⟩
      rcases shadow_recipientTurn matched faithful held shadow with same | stepped
      · refine ⟨a, ?_⟩
        rw [show t.step e json .recipientTurn = t from same]
        exact shadow
      · exact ⟨_, stepped.1⟩
  | sourceFails => exact stands.sourceFails
  | recipientFails failure => exact stands.recipientFails failure

theorem stands_start (e : RelayExchange Key PathBuf) (json : ControlJson) {net : RelayNet}
    (lined : net.Lined) (registry : PeerFileRegistry PathBuf) (receiving : Receiving) :
    Stands e json registry receiving (Relayed.start e net registry receiving) := by
  refine ⟨⟨lined, nofun, nofun, ?_, nofun⟩, e.start registry receiving,
    RelayExchange.inStep_start e registry receiving, nofun, .goes rfl rfl, ?_, ⟨[], rfl, rfl⟩,
    ⟨[], rfl, rfl⟩⟩
  · rintro i (owned | owned) <;> cases owned
  · cases missing : missingFiles e.fileClip receiving.downloaded with
    | nil =>
        have recipient : (e.start registry receiving).recipient = .ended (.ok ()) := by
          simp only [RelayExchange.start, RelayExchange.prepareDownload, missing,
            List.isEmpty_nil, if_true]
        have got : (e.start registry receiving).got = ⟨receiving, []⟩ := by
          simp only [RelayExchange.start, RelayExchange.prepareDownload, missing,
            List.isEmpty_nil, if_true]
        refine .goes (fun _ => ⟨.ok (), ?_⟩) ?_ ?_
        · simp only [Relayed.start, missing]
        · simp only [Relayed.start, missing, recipient]
        · simp only [Relayed.start, got]
    | cons file rest =>
        refine .waits (file :: rest) rfl ?_ rfl rfl rfl
        simp only [Relayed.start, missing]

theorem stands_run (matched : e.Matched) (faithful : json.Faithful) {net : RelayNet}
    (lined : net.Lined) (registry : PeerFileRegistry PathBuf) (receiving : Receiving)
    (events : List RelayedEvent) :
    Stands e json registry receiving
      (runFrom (Relayed.step e json) (Relayed.start e net registry receiving) events) :=
  run_preserves (stands_step matched faithful) (stands_start e json lined registry receiving)
    events

end AirPaste.System
