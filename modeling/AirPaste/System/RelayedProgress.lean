/-
# System.RelayedProgress — how a relay download goes on

Once both parties are connected, `Relayed.pending` is what lies before them: where each stands,
and what the other one has sent it that it has not read, delivered or not.  It is the shadow of
System.RelayedRuns (`Shadow.pending`), so the measure of Agent.RelayProtocol applies: whatever
happens, short of a failure, leaves it or lowers it, and as long as nothing is on its way one of
the two has a turn that lowers it (`relayed_progress`).  So the parties never wait for each other.
-/
import AirPaste.System.RelayedFiles

namespace AirPaste.System

open AirPaste.Agent
open AirPaste.Core
open AirPaste.Server
open AirPaste.Theory

set_option autoImplicit false

/-- What a party has before it: the messages sent over one connection, less those it read. -/
def unread (json : ControlJson) (net : RelayNet) (sender reader : Option RelayLink) :
    List Message :=
  ((sentOver net sender).map json.read).drop (readOver reader)

/-- What the server has delivered to a party. -/
def deliveredOver (net : RelayNet) (link : Option RelayLink) : List Server.WsMessage :=
  ((linkOf link).map (deliveredOn net)).getD []

namespace Relayed

variable {PathBuf : Type}

/-- Where the two stand, and what is between them. -/
def pending (json : ControlJson) (t : Relayed PathBuf) : Relay PathBuf where
  source := t.source
  served := t.served
  recipient := t.recipient
  got := t.got
  toSource := unread json t.net t.recipientLink t.sourceLink
  toRecipient := unread json t.net t.sourceLink t.recipientLink

/-- Both parties are connected and at work. -/
structure Running (t : Relayed PathBuf) : Prop where
  sourceLinked : t.sourceLink ≠ none
  recipientLinked : t.recipientLink ≠ none
  source : t.source ≠ .stopped
  recipient : ∀ outcome, t.recipient ≠ .ended outcome

/-- Nothing is on its way: what one party has sent is delivered to the other. -/
structure Drained (t : Relayed PathBuf) : Prop where
  toSource : deliveredOver t.net t.sourceLink = sentOver t.net t.recipientLink
  toRecipient : deliveredOver t.net t.recipientLink = sentOver t.net t.sourceLink

end Relayed

/-- The event is the failure of a party. -/
def RelayedEvent.fails : RelayedEvent → Bool
  | .sourceFails => true
  | .recipientFails _ => true
  | _ => false

section Progress

variable {Key PathBuf : Type} {e : RelayExchange Key PathBuf} {json : ControlJson}
  {registry : PeerFileRegistry PathBuf} {receiving : Receiving}
  {t : Relayed PathBuf} {a : Relay PathBuf}

theorem Carries.unread {net : RelayNet} {sender reader : Option RelayLink}
    {queue : List Message} (carries : Carries json (sentOver net sender) (readOver reader) queue) :
    unread json net sender reader = queue := by
  obtain ⟨taken, log, count⟩ := carries
  rw [System.unread, log, ← count, List.drop_left]

/-- What is pending is the shadow. -/
theorem Shadow.pending (shadow : Shadow e json registry receiving t a) (goes : Goes t a) :
    t.pending json = a := by
  obtain ⟨source, served, recipient, got⟩ := goes
  simp only [Relayed.pending, source, served, recipient, got, shadow.asked.unread,
    shadow.answered.unread]

theorem Shadow.goes (shadow : Shadow e json registry receiving t a) (running : t.Running) :
    Goes t a := by
  cases shadow.source with
  | broke stopped sent => exact absurd stopped running.source
  | goes source served =>
      cases shadow.recipient with
      | waits missing unlinked phase got recipient before =>
          exact absurd unlinked running.recipientLinked
      | broke failure ended obtained => exact absurd ended (running.recipient _)
      | goes linked recipient got => exact ⟨source, served, recipient, got⟩

/-! ## No event leads back -/

/-- A turn that does nothing, or is the step of a party in the shadow. -/
theorem turn_onward (matched : e.Matched) {t' : Relayed PathBuf} (party : RelayParty)
    (shadow : Shadow e json registry receiving t a) (goes : Goes t a)
    (turn : t' = t ∨ Shadow e json registry receiving t' (e.step a party) ∧
      (Goes t a → Goes t' (e.step a party))) :
    t'.pending json = t.pending json ∨
      Below (t'.pending json).measure (t.pending json).measure := by
  rcases turn with same | ⟨stepped, stays⟩
  · exact .inl (congrArg _ same)
  · rw [stepped.pending (stays goes), shadow.pending goes]
    exact (RelayExchange.step_moves matched shadow.inStep party).imp_right
      RelayExchange.Moves.below

theorem world_pending (held : Held e t.net t.session (linkOf t.sourceLink)
    (linkOf t.recipientLink)) (event : RelayEvent) :
    (t.world e event).pending json = t.pending json := by
  unfold Relayed.world
  split
  next foreign =>
      simp only [Relayed.pending, unread, sentOver_world held foreign (.inl rfl),
        sentOver_world held foreign (.inr rfl)]
  · rfl

/-- Connected parties have their session, and do not connect again. -/
theorem Relayed.Running.linked (running : t.Running)
    (held : Held e t.net t.session (linkOf t.sourceLink) (linkOf t.recipientLink)) :
    ∃ sessionId source recipient, t.session = some sessionId ∧ t.sourceLink = some source ∧
      t.recipientLink = some recipient := by
  obtain ⟨source, sourceLinked⟩ := Option.ne_none_iff_exists'.mp running.sourceLinked
  obtain ⟨recipient, recipientLinked⟩ := Option.ne_none_iff_exists'.mp running.recipientLinked
  obtain ⟨sessionId, _, here, _, _⟩ :=
    held.linked source.connection (.inl (by rw [sourceLinked]; rfl))
  exact ⟨sessionId, source, recipient, here, sourceLinked, recipientLinked⟩

theorem running_onward (matched : e.Matched) (faithful : json.Faithful) (running : t.Running)
    (held : Held e t.net t.session (linkOf t.sourceLink) (linkOf t.recipientLink))
    (shadow : Shadow e json registry receiving t a) (event : RelayedEvent)
    (works : event.fails = false) :
    (t.step e json event).pending json = t.pending json ∨
      Below ((t.step e json event).pending json).measure (t.pending json).measure := by
  obtain ⟨sessionId, source, recipient, here, sourceLinked, recipientLinked⟩ :=
    running.linked held
  cases event with
  | world event => exact .inl (world_pending held event)
  | recipientCreates ulid expiring created =>
      simp only [Relayed.step, Relayed.recipientCreates, here, true_or]
  | sourceConnects now =>
      simp only [Relayed.step, Relayed.sourceConnects, here, sourceLinked, true_or]
  | recipientConnects now =>
      simp only [Relayed.step, Relayed.recipientConnects, here, recipientLinked, true_or]
  | sourceTurn =>
      exact turn_onward matched .source shadow (shadow.goes running)
        (shadow_sourceTurn matched faithful held shadow)
  | recipientTurn =>
      exact turn_onward matched .recipient shadow (shadow.goes running)
        (shadow_recipientTurn matched faithful held shadow)
  | sourceFails => cases works
  | recipientFails failure => cases works

/-! ## Somebody goes on -/

/-- A party to which all is delivered, and that finds nothing, has nothing before it. -/
theorem unread_nil {link : RelayLink} {sender : Option RelayLink}
    (all : deliveredOver t.net (some link) = sentOver t.net sender)
    (nothing : t.next json link = []) : unread json t.net sender (some link) = [] := by
  have past : (sentOver t.net sender)[link.read]? = none := by
    rw [← all]
    exact Option.toList_eq_nil_iff.mp (List.map_eq_nil_iff.mp nothing)
  rw [unread, ← List.map_drop, show readOver (some link) = link.read from rfl,
    List.drop_eq_nil_of_le (List.getElem?_eq_none_iff.mp past), List.map_nil]

theorem not_below_self {s : Relay PathBuf} : ¬ Below s.measure s.measure :=
  below_wf.irrefl.irrefl _

/-- The source takes the step of its shadow when that leads on and all is delivered. -/
theorem sourceTurn_below (matched : e.Matched) (faithful : json.Faithful) (running : t.Running)
    (held : Held e t.net t.session (linkOf t.sourceLink) (linkOf t.recipientLink))
    (shadow : Shadow e json registry receiving t a) (drained : t.Drained)
    (moves : Below (e.sourceStep a).measure a.measure) :
    Below ((t.sourceTurn e json).pending json).measure (t.pending json).measure := by
  obtain ⟨_, link, _, _, linked, _⟩ := running.linked held
  have goes := shadow.goes running
  have before := shadow.pending goes
  have busy : a.source = .waiting → t.next json link ≠ [] := by
    intro waiting nothing
    have quiet : a.toSource = [] := by
      rw [← before, Relayed.pending, linked]
      exact unread_nil (linked ▸ drained.toSource) nothing
    rw [RelayExchange.sourceStep_idle waiting quiet
      fun outcome => goes.recipient ▸ running.recipient outcome] at moves
    exact not_below_self moves
  obtain ⟨stepped, stays⟩ := sourceTurn_steps matched faithful held shadow linked goes.source
    goes.served busy
  rw [stepped.pending (stays goes.recipient goes.got), before]
  exact moves

theorem recipientStep_idle (waits : awaits a.recipient = true) (nothing : a.toRecipient = [])
    (runs : a.source ≠ .stopped) : e.recipientStep a = a := by
  cases here : a.recipient with
  | awaitingHeader entry index rest =>
      exact RelayExchange.recipientStep_noHeader here nothing runs
  | awaitingBody entry index rest bodyNonce wrappedKeys ciphertext =>
      exact RelayExchange.recipientStep_noBody here nothing runs
  | _ =>
      rw [here] at waits
      cases waits

theorem recipientTurn_below (matched : e.Matched) (faithful : json.Faithful)
    (running : t.Running)
    (held : Held e t.net t.session (linkOf t.sourceLink) (linkOf t.recipientLink))
    (shadow : Shadow e json registry receiving t a) (drained : t.Drained)
    (moves : Below (e.recipientStep a).measure a.measure) :
    Below ((t.recipientTurn e json).pending json).measure (t.pending json).measure := by
  obtain ⟨_, _, link, _, _, linked⟩ := running.linked held
  have goes := shadow.goes running
  have before := shadow.pending goes
  have busy : awaits a.recipient = true → t.next json link ≠ [] := by
    intro waiting nothing
    have quiet : a.toRecipient = [] := by
      rw [← before, Relayed.pending, linked]
      exact unread_nil (linked ▸ drained.toRecipient) nothing
    rw [recipientStep_idle waiting quiet shadow.runs] at moves
    exact not_below_self moves
  obtain ⟨stepped, stays⟩ := recipientTurn_steps matched faithful held shadow linked
    goes.recipient goes.got busy
  rw [stepped.pending (stays goes.source goes.served), before]
  exact moves

/-- **No waiting for each other.**  In every run, while both parties are connected and at work,
no event short of a failure leads further from the end; and when nothing is on its way, a turn
of one of them leads nearer to it. -/
theorem relayed_progress (matched : e.Matched) (faithful : json.Faithful)
    (earlier : List RelayEvent) (registry : PeerFileRegistry PathBuf) (receiving : Receiving)
    (events : List RelayedEvent) {t : Relayed PathBuf}
    (reached : Relayed.after e json earlier registry receiving events = t)
    (running : t.Running) :
    (∀ event : RelayedEvent, event.fails = false →
        (t.step e json event).pending json = t.pending json ∨
          Below ((t.step e json event).pending json).measure (t.pending json).measure) ∧
      (t.Drained →
        Below ((t.sourceTurn e json).pending json).measure (t.pending json).measure ∨
          Below ((t.recipientTurn e json).pending json).measure (t.pending json).measure) := by
  obtain ⟨held, a, shadow⟩ :=
    after_stands matched faithful earlier registry receiving events
  rw [reached] at held shadow
  refine ⟨running_onward matched faithful running held shadow, fun drained => ?_⟩
  have unfinished : ¬ a.Finished := fun finished => shadow.runs finished.1
  obtain ⟨party, moves⟩ := RelayExchange.someone_moves matched shadow.inStep unfinished
  cases party with
  | source => exact .inl (sourceTurn_below matched faithful running held shadow drained moves.below)
  | recipient =>
      exact .inr (recipientTurn_below matched faithful running held shadow drained moves.below)

end Progress

namespace OneMissing

open Changed

/-- The request is delivered and not read. -/
def untilAsked : List RelayedEvent := connected ++ .recipientTurn :: carry 1 0

/-- Satisfiable pole: the source goes on, since it has the request. -/
theorem asked_progress :
    ∃ t, Relayed.after (exchange 5) json [] registry receiving untilAsked = t ∧
      t.source = .waiting ∧ t.Drained ∧
      (Below ((t.sourceTurn (exchange 5) json).pending json).measure (t.pending json).measure ∨
        Below ((t.recipientTurn (exchange 5) json).pending json).measure
          (t.pending json).measure) := by
  have reached : (Relayed.after (exchange 5) json [] registry receiving untilAsked).source =
        .waiting ∧
      (Relayed.after (exchange 5) json [] registry receiving untilAsked).recipient =
        .awaitingHeader ⟨"a.txt", "a.txt", 5, none, none, .file⟩ 0 [] ∧
      (Relayed.after (exchange 5) json [] registry receiving untilAsked).sourceLink =
        some ⟨0, 0⟩ ∧
      (Relayed.after (exchange 5) json [] registry receiving untilAsked).recipientLink =
        some ⟨1, 0⟩ := by decide +kernel
  obtain ⟨waiting, awaiting, source, recipient⟩ := reached
  have drained :
      (Relayed.after (exchange 5) json [] registry receiving untilAsked).Drained :=
    ⟨by decide +kernel, by decide +kernel⟩
  have running :
      (Relayed.after (exchange 5) json [] registry receiving untilAsked).Running :=
    ⟨source ▸ nofun, recipient ▸ nofun, waiting ▸ nofun, fun _ => awaiting ▸ nofun⟩
  exact ⟨_, rfl, waiting, drained, (relayed_progress (exchange_matched 5) json_faithful []
    registry receiving untilAsked rfl running).2 drained⟩

end OneMissing

end AirPaste.System
