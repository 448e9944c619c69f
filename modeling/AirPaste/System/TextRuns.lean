/-
# System.TextRuns — what a desk takes up, over whole runs

What a desk has read is what its handlers have sent it (`Read`), and what a handler has sent is a
part of what was broadcast, so the texts a desk takes up are among those announced
(`texts_inOrder`).  From one moment at which desk and handler have caught up to the next on the
same connection nothing is left out (`texts_complete`).  A text that is taken up was encoded, and
for this desk (`texts_published`).
-/
import AirPaste.System.TextNet

namespace AirPaste.System

open AirPaste.Agent
open AirPaste.Core
open AirPaste.Crypto
open AirPaste.Protocol
open AirPaste.Server
open AirPaste.Server.GlobalView
open AirPaste.Theory

set_option autoImplicit false

namespace TextNet

/-! ## What a desk has read -/

/-- What the desk has read is what its handlers have sent; the last one, since the place `k`. -/
def Read (net : TextNet) (desk : TextDesk) : Prop :=
  match desk.link with
  | none => desk.handled.Sublist net.log
  | some (h, read) => ∃ view k old, net.plane.view h = some view ∧
      view.SentSince net.plane.hub.globalTx k ∧ read ≤ view.sent.length ∧
      desk.handled = old ++ view.sent.take read ∧ old.Sublist (net.log.take k)

/-- And the texts it has taken up are among those it was told of. -/
structure DeskSound {Key : Type} (p : Primitives Key) (ctx : AgentCtx) (net : TextNet)
    (desk : TextDesk) : Prop where
  read : net.Read desk
  texts : desk.texts.Sublist (desk.handled.filterMap (textFor p ctx net.created))

/-- Every handler is still there, its view moved on by one step. -/
def ViewsMove (net next : TextNet) : Prop :=
  ∀ h view, net.plane.view h = some view → net.plane.ViewMoves next.plane h view

section Facts

variable {Key : Type} {p : Primitives Key} {ctxs : Nat → AgentCtx} {ctx : AgentCtx}
  {net next : TextNet} {desk : TextDesk}

theorem Read.among (read : net.Read desk) : desk.handled.Sublist net.log := by
  unfold Read at read
  split at read
  · exact read
  · obtain ⟨view, k, old, -, since, -, handled, before⟩ := read
    rw [handled, ← List.take_append_drop k net.log]
    exact before.append ((List.take_sublist _ _).trans since.among)

theorem Read.dropped (read : net.Read desk) : net.Read { desk with link := none } := read.among

theorem Read.moves (read : net.Read desk) (grows : Grows net next)
    (views : ViewsMove net next) : next.Read desk := by
  unfold Read at *
  split at read
  · exact read.trans grows.log.sublist
  · obtain ⟨view, k, old, held, since, bound, handled, before⟩ := read
    obtain ⟨later, holds, moves⟩ := views _ view held
    obtain ⟨more, sent⟩ := sent_prefix moves
    obtain ⟨broadcast, log⟩ := grows.log
    refine ⟨later, k, old, holds, sentSince_step moves since, ?_, ?_, ?_⟩
    · rw [← sent, List.length_append]
      exact Nat.le_add_right_of_le bound
    · rw [← sent, List.take_append_of_le_length bound]
      exact handled
    · have le : k ≤ net.log.length := since.le
      rw [← log, List.take_append_of_le_length le]
      exact before

/-- An announced clip was created, so the text it announces stays what it is. -/
theorem textFor_grows (sound : net.Sound) (grows : Grows net next) {event : ServerEvent}
    (announced : event ∈ net.log) :
    textFor p ctx next.created event = textFor p ctx net.created event := by
  cases event with
  | clipCreated clipId source kind =>
      obtain ⟨clip, held, -⟩ :=
        sound.announced _ (List.mem_append_left _ announced) clipId rfl
      unfold textFor
      dsimp only
      rw [held, grows.created clipId clip held]
  | _ => rfl

theorem filterMap_grows (sound : net.Sound) (grows : Grows net next) {events : List ServerEvent}
    (among : events.Sublist net.log) :
    events.filterMap (textFor p ctx next.created) = events.filterMap (textFor p ctx net.created) :=
  List.filterMap_congr fun _ member => textFor_grows sound grows (among.subset member)

theorem DeskSound.moves (held : DeskSound p ctx net desk) (sound : net.Sound)
    (grows : Grows net next) (views : ViewsMove net next) : DeskSound p ctx next desk := by
  refine ⟨held.read.moves grows views, ?_⟩
  rw [filterMap_grows sound grows held.read.among]
  exact held.texts

theorem viewsMove_same (plane : next.plane = net.plane) : ViewsMove net next := by
  intro h view held
  rw [plane]
  exact ControlPlane.viewMoves_self held

/-- **What a step does to the handlers.** -/
theorem views_step (p : Primitives Key) (ctxs : Nat → AgentCtx) (net : TextNet)
    (e : TextNetEvent) : ViewsMove net (net.step p ctxs e) := by
  cases e with
  | announces k =>
      simp only [step, announces]
      split
      · exact viewsMove_same rfl
      · exact fun h view held => ControlPlane.viewMoves_broadcasts held _
  | socket event => exact fun h view held => ControlPlane.step_view event.1 held
  | dials i =>
      simp only [step, dials]
      split
      · exact viewsMove_same rfl
      · exact fun h view held => ControlPlane.step_view (.connects _ _) held
  | reads i now reaches isolated paste =>
      simp only [step, reads]
      split
      · exact viewsMove_same rfl
      · split <;> exact viewsMove_same rfl
  | hears i event answers =>
      simp only [step, hears]
      split <;> exact viewsMove_same rfl
  | _ => exact viewsMove_same rfl

/-! ## One step of a desk -/

/-- What a step from this net to the next leaves of a desk. -/
inductive DeskStep (p : Primitives Key) (ctx : AgentCtx) (net next : TextNet) (desk : TextDesk) :
    TextDesk → Prop where
  /-- Its texts, its connection and what it has read stay. -/
  | rests (new : TextDesk) (link : new.link = desk.link) (handled : new.handled = desk.handled)
      (texts : new.texts = desk.texts) : DeskStep p ctx net next desk new
  /-- It has a handler of its own. -/
  | dials (unlinked : desk.link = none) (absent : net.plane.view net.plane.handlers.length = none)
      (connected : next.plane.view net.plane.handlers.length = some ⟨.before, []⟩) :
      DeskStep p ctx net next desk { desk with link := some (net.plane.handlers.length, 0) }
  | reads (h read : Nat) (view : GlobalView) (event : ServerEvent) (new : TextDesk)
      (linked : desk.link = some (h, read)) (held : net.plane.view h = some view)
      (sent : view.sent[read]? = some event) (link : new.link = some (h, read + 1))
      (handled : new.handled = desk.handled ++ [event])
      (texts : new.texts = desk.texts ++ (textFor p ctx net.created event).toList) :
      DeskStep p ctx net next desk new
  /-- An event that it cannot handle ends its connection. -/
  | fails (h read : Nat) (view : GlobalView) (event : ServerEvent) (new : TextDesk)
      (linked : desk.link = some (h, read)) (held : net.plane.view h = some view)
      (sent : view.sent[read]? = some event) (link : new.link = none)
      (handled : new.handled = desk.handled ++ [event]) (texts : new.texts = desk.texts) :
      DeskStep p ctx net next desk new
  | drops (new : TextDesk) (link : new.link = none) (handled : new.handled = desk.handled)
      (texts : new.texts = desk.texts) : DeskStep p ctx net next desk new

theorem deskStep_same : DeskStep p ctx net next desk desk := .rests desk rfl rfl rfl

/-- Where a desk is replaced, the others are as they were. -/
theorem deskStep_setDesk {i j : Nat} {new : TextDesk}
    (desks : ∀ k, k ≠ j → next.desks k = net.desks k)
    (own : DeskStep p (ctxs j) net (next.setDesk j new) (net.desks j) new) :
    DeskStep p (ctxs i) net (next.setDesk j new) (net.desks i) ((next.setDesk j new).desks i) := by
  simp only [setDesk]
  by_cases here : i = j
  · subst here
    rw [Function.update_self]
    exact own
  · rw [Function.update_of_ne here, desks i here]
    exact deskStep_same

theorem reads_desk (sound : net.Sound) (i j : Nat) (now : Timestamp) (reaches isolated : Bool)
    (paste : PasteAnswers) :
    DeskStep p (ctxs i) net (net.reads p ctxs j now reaches isolated paste) (net.desks i)
      ((net.reads p ctxs j now reaches isolated paste).desks i) := by
  unfold reads
  cases linked : (net.desks j).link with
  | none => exact deskStep_same
  | some link =>
      obtain ⟨h, read⟩ := link
      dsimp only [nextEvent]
      cases held : net.plane.view h with
      | none => exact deskStep_same
      | some view =>
          dsimp only [Option.bind_some]
          cases sent : view.sent[read]? with
          | none => exact deskStep_same
          | some event =>
              refine deskStep_setDesk (fun _ _ => rfl) ?_
              have fetches : ∀ clipId clip,
                  fetchClip reaches now net.server.clips clipId = .ok clip →
                    net.created clipId = some clip :=
                fun clipId clip fetched => sound.rows clipId clip (fetchClip_ok fetched)
              rcases handle_texts p (ctxs j)
                  ⟨fetchClip reaches now net.server.clips, isolated, paste⟩ net.created event
                  (net.desks j) (h, read + 1) fetches
                with ⟨link, texts⟩ | ⟨link, texts⟩
              · exact .reads h read view event _ linked held sent link rfl texts
              · exact .fails h read view event _ linked held sent link rfl texts

/-- An event of the device's own channel brings no text. -/
theorem hears_desk (i j : Nat) (event : { event : ServerEvent // announcedClip event = none })
    (answers : EventAnswers) :
    DeskStep p (ctxs i) net (net.hears p ctxs j event.1 answers) (net.desks i)
      ((net.hears p ctxs j event.1 answers).desks i) := by
  unfold hears
  cases linked : (net.desks j).link with
  | none => exact deskStep_same
  | some link =>
      refine deskStep_setDesk (fun _ _ => rfl) ?_
      have silent : textFor p (ctxs j) (fun clipId => (answers.getClip clipId).toOption) event.1 =
          none := by
        obtain ⟨event, quiet⟩ := event
        cases event with
        | clipCreated => cases quiet
        | _ => rfl
      have outcome := handle_texts p (ctxs j) answers _ event.1 (net.desks j) link
        fun clipId clip fetched => congrArg Except.toOption fetched
      rw [silent, Option.toList_none, List.append_nil] at outcome
      rcases outcome with ⟨kept, texts⟩ | ⟨lost, texts⟩
      · exact .rests _ (kept.trans linked.symm) rfl texts
      · exact .drops _ lost rfl texts

/-- **What a step does to a desk.** -/
theorem desk_step (sound : net.Sound) (e : TextNetEvent) (i : Nat) :
    DeskStep p (ctxs i) net (net.step p ctxs e) (net.desks i) ((net.step p ctxs e).desks i) := by
  cases e with
  | announces k =>
      simp only [step, announces]
      split <;> exact deskStep_same
  | dials j =>
      simp only [step, dials]
      split
      · exact deskStep_same
      · rename_i unlinked
        refine deskStep_setDesk (fun _ _ => rfl) (.dials unlinked ?_ ?_)
        · rw [ControlPlane.view, List.getElem?_eq_none (Nat.le_refl _), Option.map_none]
        · show ((net.plane.handlers ++ [_])[net.plane.handlers.length]?).map WsHandler.view = _
          rw [List.getElem?_concat_length, Option.map_some]
          dsimp only
          rw [if_pos rfl]
          rfl
  | reads j now reaches isolated paste => exact reads_desk sound i j now reaches isolated paste
  | hears j event answers => exact hears_desk i j event answers
  | works j desk lastLocalWrite => exact deskStep_setDesk (fun _ _ => rfl) (.rests _ rfl rfl rfl)
  | drops j => exact deskStep_setDesk (fun _ _ => rfl) (.drops _ rfl rfl rfl)
  | _ => exact deskStep_same

/-! ## In order -/

theorem filterMap_concat {α β : Type} (f : α → Option β) (items : List α) (item : α) :
    (items ++ [item]).filterMap f = items.filterMap f ++ (f item).toList := by
  rw [List.filterMap_append, List.filterMap_cons]
  cases f item <;> rfl

theorem Read.reads {h read : Nat} {view : GlobalView} {event : ServerEvent} (new : TextDesk)
    (held : net.Read desk) (linked : desk.link = some (h, read))
    (viewed : net.plane.view h = some view) (sent : view.sent[read]? = some event)
    (handled : new.handled = desk.handled ++ [event]) :
    net.Read { new with link := some (h, read + 1) } := by
  unfold Read at held
  rw [linked] at held
  obtain ⟨_, k, old, found, since, -, before, early⟩ := held
  cases viewed.symm.trans found
  refine ⟨view, k, old, viewed, since, (List.getElem?_eq_some_iff.mp sent).1, ?_, early⟩
  rw [List.take_add_one, sent, Option.toList_some, ← List.append_assoc, ← before]
  exact handled

theorem DeskSound.step {new : TextDesk} (held : DeskSound p ctx net desk) (sound : net.Sound)
    (grows : Grows net next) (views : ViewsMove net next)
    (step : DeskStep p ctx net next desk new) : DeskSound p ctx next new := by
  have reread : ∀ other : TextDesk, other.handled = desk.handled → other.link = desk.link →
      net.Read other := by
    intro other handled link
    have read := held.read
    unfold Read at read ⊢
    rw [link, handled]
    exact read
  have dropped : ∀ other : TextDesk, net.Read other → ∀ new : TextDesk,
      new.handled = other.handled → new.link = none → net.Read new := by
    intro other read new handled link
    unfold Read
    rw [link, handled]
    exact read.among
  have stays : ∀ new : TextDesk, net.Read new → new.handled = desk.handled →
      new.texts = desk.texts → DeskSound p ctx next new := by
    intro new read handled texts
    refine DeskSound.moves ⟨read, ?_⟩ sound grows views
    rw [handled, texts]
    exact held.texts
  cases step with
  | rests _ link handled texts => exact stays new (reread new handled link) handled texts
  | drops _ link handled texts =>
      exact stays new (dropped desk held.read new handled link) handled texts
  | dials unlinked absent connected =>
      have among := (held.moves sound grows views).read.among
      refine ⟨⟨_, next.log.length, desk.handled, connected, ⟨Nat.le_refl _, rfl⟩, Nat.le_refl _,
        (List.append_nil _).symm, ?_⟩, (held.moves sound grows views).texts⟩
      rw [List.take_length]
      exact among
  | reads h read view event _ linked viewed sent link handled texts =>
      have read := held.read.reads new linked viewed sent handled
      rw [← link] at read
      refine DeskSound.moves ⟨read, ?_⟩ sound grows views
      rw [texts, handled, filterMap_concat]
      exact held.texts.append (List.Sublist.refl _)
  | fails h read view event _ linked viewed sent link handled texts =>
      have read := held.read.reads new linked viewed sent handled
      refine DeskSound.moves ⟨dropped _ read new rfl link, ?_⟩ sound grows views
      rw [texts, handled, List.filterMap_append]
      exact held.texts.trans (List.sublist_append_left _ _)

/-- What holds in every state. -/
structure Stands (p : Primitives Key) (ctxs : Nat → AgentCtx) (net : TextNet) : Prop where
  sound : net.Sound
  desks : ∀ i, DeskSound p (ctxs i) net (net.desks i)

theorem stands_start (controls : Nat → Control) : Stands p ctxs (start controls) :=
  ⟨sound_start controls, fun _ => ⟨List.nil_sublist _, List.nil_sublist _⟩⟩

theorem stands_step (e : TextNetEvent) (stands : Stands p ctxs net) (fresh : net.Fresh e) :
    Stands p ctxs (net.step p ctxs e) := by
  obtain ⟨sound, grows⟩ := @sound_step _ p ctxs net stands.sound e fresh
  refine ⟨sound, fun i => ?_⟩
  exact (stands.desks i).step stands.sound grows (views_step p ctxs net e)
    (desk_step stands.sound e i)

/-- Nothing is created under another id than the one drawn. -/
theorem created_step (e : TextNetEvent) (clipId : ClipId)
    (other : ∀ ulid, e.clipUlid = some ulid → clipId ≠ ClipId.new ulid) :
    (net.step p ctxs e).created clipId = net.created clipId := by
  cases e with
  | creates request =>
      rcases creates_cases (p := p) net request with ⟨-, created, -⟩ |
        ⟨clip, now, named, -, -, created, -⟩
      · exact congrFun created clipId
      · refine (congrFun created clipId).trans (Function.update_of_ne ?_ _ _)
        rw [named]
        exact other _ rfl
  | announces k =>
      simp only [step, announces]
      split <;> rfl
  | dials i =>
      simp only [step, dials]
      split <;> rfl
  | reads i now reaches isolated paste =>
      simp only [step, reads]
      split
      · rfl
      · split <;> rfl
  | hears i event answers =>
      simp only [step, hears]
      split <;> rfl
  | _ => rfl

/-- In a run whose ULIDs are all different no id is drawn twice. -/
theorem along_fresh (p : Primitives Key) (ctxs : Nat → AgentCtx) {events : List TextNetEvent}
    (fresh : FreshClips events)
    (unused : ∀ ulid ∈ events.filterMap TextNetEvent.clipUlid,
      net.created (ClipId.new ulid) = none) :
    Along (step p ctxs) Fresh net events := by
  induction events generalizing net with
  | nil => trivial
  | cons e rest ih =>
      have first : net.Fresh e := fun ulid drawn =>
        unused ulid (List.mem_filterMap.mpr ⟨e, List.mem_cons_self, drawn⟩)
      cases drawn : e.clipUlid with
      | none =>
          unfold FreshClips at fresh
          rw [List.filterMap_cons_none drawn] at fresh unused
          refine ⟨first, ih fresh fun ulid member => ?_⟩
          rw [created_step e _ fun other same => by cases drawn.symm.trans same]
          exact unused ulid member
      | some own =>
          unfold FreshClips at fresh
          rw [List.filterMap_cons_some drawn] at fresh unused
          obtain ⟨absent, rest⟩ := List.nodup_cons.mp fresh
          refine ⟨first, ih rest fun ulid member => ?_⟩
          rw [created_step]
          · exact unused ulid (List.mem_cons_of_mem _ member)
          · intro other same
            cases drawn.symm.trans same
            intro same
            exact absent (ClipId.new_injective same ▸ member)

theorem stands_after (p : Primitives Key) (ctxs : Nat → AgentCtx) (controls : Nat → Control)
    {events : List TextNetEvent} (fresh : FreshClips events) :
    Stands p ctxs ((start controls).after p ctxs events) :=
  run_invariant (fun _ e stands fresh => stands_step e stands fresh)
    (along_fresh p ctxs fresh fun _ _ => rfl) (stands_start controls)

/-! ## Completely -/

/-- The desk has read everything that was broadcast, on the connection `h`. -/
def CaughtUp (net : TextNet) (i h : Nat) : Prop :=
  ∃ sent, net.plane.view h = some ⟨.at net.log.length, sent⟩ ∧
    (net.desks i).link = some (h, sent.length)

/-- The receiver of the handler has not fallen behind the ring. -/
def KeepsUpAt (h : Nat) (net : TextNet) : Prop :=
  ∀ view, net.plane.view h = some view → view.KeepsUp net.plane.hub.globalTx

/-- Since the handler had sent `sent` and the desk taken up `texts`, the handler sends on from
the place `k` on, and the desk takes up what it announces. -/
structure Follows (p : Primitives Key) (ctx : AgentCtx) (h k : Nat) (sent : List ServerEvent)
    (texts : List String) (net : TextNet) (desk : TextDesk) (view : GlobalView) : Prop where
  held : net.plane.view h = some view
  all : view.SentAll net.plane.hub.globalTx k sent
  desk : ∀ read, desk.link = some (h, read) → ∃ news, read ≤ view.sent.length ∧
    sent ++ news = view.sent.take read ∧
    desk.texts = texts ++ news.filterMap (textFor p ctx net.created)

/-- What a desk reads on a connection was broadcast. -/
theorem Read.sublist {h read : Nat} {view : GlobalView} (held : net.Read desk)
    (linked : desk.link = some (h, read)) (viewed : net.plane.view h = some view) :
    view.sent.Sublist net.log := by
  unfold Read at held
  rw [linked] at held
  obtain ⟨_, k, old, found, since, -⟩ := held
  cases viewed.symm.trans found
  exact since.among.trans (List.drop_sublist _ _)

section Follow

variable {h k : Nat} {sent : List ServerEvent} {texts : List String} {view : GlobalView}

theorem Follows.moves (follows : Follows p ctx h k sent texts net desk view)
    (read : net.Read desk) (sound : net.Sound) (grows : Grows net next)
    (views : ViewsMove net next) (keepsUp : net.KeepsUpAt h) :
    ∃ later, Follows p ctx h k sent texts next desk later := by
  obtain ⟨later, held, moves⟩ := views h view follows.held
  refine ⟨later, held, sentAll_step moves (keepsUp view follows.held) follows.all, ?_⟩
  intro place linked
  obtain ⟨news, bound, same, taken⟩ := follows.desk place linked
  obtain ⟨more, longer⟩ := sent_prefix moves
  have among : news.Sublist net.log := by
    refine List.Sublist.trans ?_ (read.sublist linked follows.held)
    refine (List.sublist_append_right sent news).trans ?_
    rw [same]
    exact List.take_sublist _ _
  refine ⟨news, ?_, ?_, ?_⟩
  · rw [← longer, List.length_append]
    exact Nat.le_add_right_of_le bound
  · rw [← longer, List.take_append_of_le_length bound]
    exact same
  · rw [filterMap_grows sound grows among]
    exact taken

theorem Follows.step {new : TextDesk} (follows : Follows p ctx h k sent texts net desk view)
    (stands : DeskSound p ctx net desk) (sound : net.Sound) (grows : Grows net next)
    (views : ViewsMove net next) (keepsUp : net.KeepsUpAt h)
    (step : DeskStep p ctx net next desk new) :
    ∃ later, Follows p ctx h k sent texts next new later := by
  have unlinked : (∀ read, new.link ≠ some (h, read)) →
      ∃ later, Follows p ctx h k sent texts next new later := by
    intro lost
    obtain ⟨later, held, moves⟩ := views h view follows.held
    exact ⟨later, held, sentAll_step moves (keepsUp view follows.held) follows.all,
      fun read linked => absurd linked (lost read)⟩
  cases step with
  | rests _ link handled taken =>
      obtain ⟨later, held, all, reads⟩ :=
        follows.moves stands.read sound grows views keepsUp
      refine ⟨later, held, all, ?_⟩
      rw [link, taken]
      exact reads
  | drops _ link handled taken =>
      refine unlinked fun read linked => ?_
      cases link.symm.trans linked
  | fails h' read view event _ linked viewed sent link handled taken =>
      refine unlinked fun read linked => ?_
      cases link.symm.trans linked
  | dials none absent connected =>
      refine unlinked fun read linked => ?_
      cases linked
      cases absent.symm.trans follows.held
  | reads h' read view' event _ linked viewed sent' link handled taken =>
      by_cases here : h' = h
      · subst here
        cases viewed.symm.trans follows.held
        have reread := stands.read.reads new linked viewed sent' handled
        refine Follows.moves ⟨viewed, follows.all, ?_⟩ (link ▸ reread :) sound grows views keepsUp
        intro place same
        cases link.symm.trans same
        obtain ⟨news, bound, before, texts⟩ := follows.desk read linked
        refine ⟨news ++ [event], (List.getElem?_eq_some_iff.mp sent').1, ?_, ?_⟩
        · rw [List.take_add_one, sent', Option.toList_some, ← before, List.append_assoc]
        · rw [taken, texts, filterMap_concat, List.append_assoc]
      · refine unlinked fun other same => here ?_
        cases link.symm.trans same
        rfl

theorem follows_run {i : Nat} {events : List TextNetEvent} (stands : Stands p ctxs net)
    (fresh : Along (step p ctxs) Fresh net events)
    (keepsUp : Along (step p ctxs) (fun net _ => net.KeepsUpAt h) net events)
    (follows : ∃ view, Follows p (ctxs i) h k sent texts net (net.desks i) view) :
    let later := runFrom (step p ctxs) net events
    Stands p ctxs later ∧ ∃ view, Follows p (ctxs i) h k sent texts later (later.desks i) view := by
  have both : Along (step p ctxs) (fun net e => net.Fresh e ∧ net.KeepsUpAt h) net events :=
    along_iff.mpr fun before e after split =>
      ⟨along_iff.mp fresh before e after split, along_iff.mp keepsUp before e after split⟩
  have keeps : ∀ net e,
      (Stands p ctxs net ∧ ∃ view, Follows p (ctxs i) h k sent texts net (net.desks i) view) →
      (net.Fresh e ∧ net.KeepsUpAt h) →
      Stands p ctxs (net.step p ctxs e) ∧ ∃ view,
        Follows p (ctxs i) h k sent texts (net.step p ctxs e) ((net.step p ctxs e).desks i)
          view := by
    rintro net e ⟨stands, view, follows⟩ ⟨fresh, keepsUp⟩
    have grows := (@sound_step _ p ctxs net stands.sound e fresh).2
    exact ⟨stands_step e stands fresh, follows.step (stands.desks i) stands.sound grows
      (views_step p ctxs net e) keepsUp (desk_step stands.sound e i)⟩
  exact run_invariant keeps both ⟨stands, follows⟩

end Follow

/-! ## Whose texts -/

/-- An agent encodes what it asks for as `publish_text_clip` does. -/
def Honest (p : Primitives Key) : ClipRequest → Prop
  | .agent _ _ _ request => ∀ textClip, request.kind = .text textClip →
      ∃ devices text, (devices.map Device.deviceId).Nodup ∧
        EncodedAs p devices text request.kind request.encryption
  | .simple _ _ _ _ => True

/-- The text was encoded for the devices registered, and this one may read it. -/
def PublishedTo (p : Primitives Key) (ctx : AgentCtx) (text : String) (clip : ClipRecord) : Prop :=
  ∃ devices, EncodedAs p devices text clip.kind clip.encryption ∧
    (TrustedRecipient p devices ctx.deviceId ctx.encryption ∨ simpleRecipients devices = [])

theorem devices_distinct (db : Db) : (db.devices.rows.map Device.deviceId).Nodup := by
  refine List.pairwise_map.mpr (db.devices.sorted.imp fun below same => ?_)
  exact absurd (congrArg DeviceId.asStr same) below.ne

/-- A clip that was honestly made, if it is a text, is one for the devices of a database. -/
theorem Made.encoded {request : ClipRequest} {clip : ClipRecord} {textClip : TextClip}
    (made : Made p request clip) (honest : Honest p request) (kind : clip.kind = .text textClip) :
    ∃ devices text, (devices.map Device.deviceId).Nodup ∧
      EncodedAs p devices text clip.kind clip.encryption := by
  cases request with
  | agent app mint requestDevice request =>
      obtain ⟨-, sameKind, sameEncryption⟩ := made
      rw [sameKind, sameEncryption]
      exact honest textClip (sameKind ▸ kind)
  | simple draws app mint request =>
      exact ⟨_, request.text, devices_distinct app.store, made⟩

/-- Who can read a clip reads the text that was encoded, and it was encoded for him. -/
theorem published_of_read (ideal : p.Ideal) {devices : List Device} {text read : String}
    {clip : ClipRecord} {textClip : TextClip} (kind : clip.kind = .text textClip)
    (distinct : (devices.map Device.deviceId).Nodup)
    (encoded : EncodedAs p devices text clip.kind clip.encryption)
    (reads : decryptRemoteText p textClip clip.encryption ctx.deviceId ctx.encryption =
      .ok (some read)) : PublishedTo p ctx read clip := by
  rcases encoded.cases with ⟨-, draws, sealed, held, made, carries⟩ |
    ⟨none, scheme, held, same, body⟩
  · cases carries.kind.symm.trans kind
    obtain ⟨same, sealedTo⟩ := (carries.decryptRemoteText_ok_iff ideal
      (simpleRecipients_distinct distinct) made).mp reads
    cases same
    exact ⟨devices, encoded, .inl (sealedTo_simpleRecipients_iff.mp sealedTo)⟩
  · cases same.symm.trans kind
    have unsealed : clip.encryption.scheme ≠ textEncryptionScheme := by
      rw [scheme]
      decide +kernel
    rw [decryptRemoteText, if_neg unsealed, body] at reads
    cases reads
    exact ⟨devices, encoded, .inr none⟩

/-- Every clip created was made for one of these requests. -/
def AllMade (p : Primitives Key) (events : List TextNetEvent) (net : TextNet) : Prop :=
  ∀ clipId clip, net.created clipId = some clip →
    ∃ request, .creates request ∈ events ∧ Made p request clip

theorem allMade_step {events : List TextNetEvent} (e : TextNetEvent) (member : e ∈ events)
    (all : AllMade p events net) : AllMade p events (net.step p ctxs e) := by
  intro clipId clip created
  cases drawn : e.clipUlid with
  | none =>
      rw [created_step e clipId fun ulid same => by cases drawn.symm.trans same] at created
      exact all clipId clip created
  | some ulid =>
      cases e with
      | creates request =>
          rcases creates_cases (p := p) net request with ⟨-, same, -⟩ |
            ⟨new, now, named, made, -, same, -⟩
          · exact all clipId clip ((congrFun same clipId).symm.trans created)
          · have here := (congrFun same clipId).symm.trans created
            by_cases own : clipId = new.clipId
            · subst own
              rw [Function.update_self] at here
              cases here
              exact ⟨request, member, made⟩
            · rw [Function.update_of_ne own] at here
              exact all clipId clip here
      | _ => cases drawn

theorem allMade_after (p : Primitives Key) (ctxs : Nat → AgentCtx) (controls : Nat → Control)
    (events : List TextNetEvent) : AllMade p events ((start controls).after p ctxs events) := by
  refine run_keeps (· ∈ events) (fun net e member all => allMade_step e member all)
    (fun _ member => member) ?_
  intro _ _ created
  cases created

end Facts

section Runs

variable {Key : Type} (p : Primitives Key) (ctxs : Nat → AgentCtx) (controls : Nat → Control)

/-- A desk takes up texts in the order in which they were announced, and none of them twice:
what it has taken up is a part of what was announced to it, and no clip is announced again. -/
theorem texts_inOrder (events : List TextNetEvent) (fresh : FreshClips events) (i : Nat) :
    let net := (start controls).after p ctxs events
    (net.desks i).texts.Sublist (net.log.filterMap (textFor p (ctxs i) net.created)) ∧
      (net.log.filterMap announcedClip).Nodup := by
  intro net
  have stands : Stands p ctxs net := stands_after p ctxs controls fresh
  constructor
  · exact (stands.desks i).texts.trans ((stands.desks i).read.among.filterMap _)
  · have once := stands.sound.once
    rw [List.filterMap_append] at once
    exact (List.nodup_append.mp once).1

/-- From one moment at which a desk has read everything to the next on the same connection it
takes up, in order, every text announced in between that it can read, as long as its receiver
does not fall behind the ring. -/
theorem texts_complete (events later : List TextNetEvent) (fresh : FreshClips (events ++ later))
    (i h : Nat) (caughtUp : ((start controls).after p ctxs events).CaughtUp i h)
    (keepsUp : Along (step p ctxs) (fun net _ => net.KeepsUpAt h)
      ((start controls).after p ctxs events) later)
    (again : ((start controls).after p ctxs (events ++ later)).CaughtUp i h) :
    let before := (start controls).after p ctxs events
    let net := (start controls).after p ctxs (events ++ later)
    (net.desks i).texts = (before.desks i).texts ++
      (net.log.drop before.log.length).filterMap (textFor p (ctxs i) net.created) := by
  intro before net
  have first : FreshClips events := by
    unfold FreshClips at *
    rw [List.filterMap_append] at fresh
    exact (List.nodup_append.mp fresh).1
  have along : Along (step p ctxs) Fresh (start controls) (events ++ later) :=
    along_fresh p ctxs fresh fun _ _ => rfl
  obtain ⟨-, drawn⟩ := along_append.mp along
  obtain ⟨sent, viewed, linked⟩ := caughtUp
  have start : Follows p (ctxs i) h before.log.length sent (before.desks i).texts before
      (before.desks i) ⟨.at before.log.length, sent⟩ := by
    refine ⟨viewed, ⟨[], (List.append_nil _).symm, Nat.le_refl _, Nat.le_refl _, ?_⟩, ?_⟩
    · exact (List.drop_take_self).symm
    · intro read same
      cases linked.symm.trans same
      exact ⟨[], Nat.le_refl _, by rw [List.append_nil, List.take_length],
        (List.append_nil _).symm⟩
  obtain ⟨-, view, follows⟩ :=
    follows_run (stands_after p ctxs controls first) drawn keepsUp ⟨_, start⟩
  have reached : runFrom (step p ctxs) before later = net :=
    (runFrom_append (step p ctxs) (TextNet.start controls) events later).symm
  rw [reached] at follows
  obtain ⟨last, viewedAgain, linkedAgain⟩ := again
  cases follows.held.symm.trans viewedAgain
  obtain ⟨since, rest, received⟩ := follows.all
  obtain ⟨news, -, among, texts⟩ := follows.desk _ linkedAgain
  have all : since = net.log.drop before.log.length := by
    have whole : since = (net.log.take net.log.length).drop before.log.length := received.all
    rwa [List.take_length] at whole
  rw [List.take_length] at among
  rw [← all, ← List.append_cancel_left (among.trans rest)]
  exact texts

/-- With ideal primitives and honest agents, every text that a desk takes up was created by
another device and encoded for this one, or for everyone when no device had a key. -/
theorem texts_published (ideal : p.Ideal) (events : List TextNetEvent) (fresh : FreshClips events)
    (honest : ∀ request, .creates request ∈ events → Honest p request) (i : Nat) (text : String)
    (taken : text ∈ (((start controls).after p ctxs events).desks i).texts) :
    ∃ request clip, .creates request ∈ events ∧ Made p request clip ∧
      clip.sourceDeviceId ≠ (ctxs i).deviceId ∧ PublishedTo p (ctxs i) text clip := by
  have stands : Stands p ctxs ((start controls).after p ctxs events) :=
    stands_after p ctxs controls fresh
  obtain ⟨event, read, brings⟩ := List.mem_filterMap.mp ((stands.desks i).texts.subset taken)
  have announced := (stands.desks i).read.among.subset read
  cases event with
  | clipCreated clipId source kind =>
      obtain ⟨clip, created, same⟩ :=
        stands.sound.announced _ (List.mem_append_left _ announced) clipId rfl
      cases same
      unfold textFor at brings
      dsimp only at brings
      split at brings
      · rename_i applies
        simp only [Bool.and_eq_true, decide_eq_true_eq] at applies
        rw [created, Option.bind_some] at brings
        split at brings
        · rename_i textClip kind
          split at brings
          · rename_i reads
            obtain ⟨request, member, made⟩ :=
              allMade_after p ctxs controls events clipId clip created
            obtain ⟨devices, encoded, distinct, encodes⟩ :=
              made.encoded (honest request member) kind
            subst brings
            exact ⟨request, clip, member, made, applies.1.2,
              published_of_read ideal kind distinct encodes reads⟩
          · cases brings
        · cases brings
      · cases brings
  | _ => cases brings

end Runs

/-! ## A text to the laptop -/

namespace OneText

open AirPaste.Crypto.Sample

def app : AppState := AppState.new Db.empty none none

/-- Every desk is the laptop's. -/
def ctxs : Nat → AgentCtx := fun _ => Expired.ctx

def controls : Nat → Control := fun _ => Expired.start

def quiet (event : WsEvent) (none : ∀ sent, event ≠ .broadcasts sent) : TextNetEvent :=
  .socket ⟨event, fun sent same => absurd same (none sent)⟩

/-- The laptop connects, and its handler subscribes. -/
def connects : List TextNetEvent :=
  [.dials 0, quiet (.announces 0) (by simp), quiet (.acknowledges 0 true) (by simp),
    quiet (.subscribesGlobal 0) (by simp), quiet (.subscribesDevice 0) (by simp)]

/-- The tablet publishes a text, which the laptop is told of and fetches. -/
def publishes : List TextNetEvent :=
  [.creates (.agent app ⟨"01HELLO", "", 0, 0, 0⟩ Hello.tablet Hello.request), .announces 0,
    quiet (.relaysGlobal 0 true) (by simp), .reads 0 0 true true Expired.answers.paste]

theorem fresh : FreshClips (connects ++ publishes) := by
  unfold FreshClips
  decide

/-- A log that fits the ring leaves no receiver behind. -/
theorem keepsUpAt_short {net : TextNet} {h : Nat} (short : net.log.length ≤ globalCapacity) :
    net.KeepsUpAt h :=
  fun _ _ _ _ => Nat.le_trans short (Nat.le_add_left _ _)

theorem hello_taken :
    ((((start controls).after primitives ctxs (connects ++ publishes)).desks 0).texts) =
      ["hello"] := by
  decide +kernel

/-- Satisfiable pole: the laptop takes up the one text announced. -/
theorem hello_inOrder :
    let net := (start controls).after primitives ctxs (connects ++ publishes)
    (net.desks 0).texts = ["hello"] ∧
      (net.desks 0).texts.Sublist (net.log.filterMap (textFor primitives (ctxs 0) net.created)) ∧
      (net.log.filterMap announcedClip).Nodup :=
  ⟨hello_taken, texts_inOrder primitives ctxs controls _ fresh 0⟩

/-- Satisfiable pole: what the laptop takes up while it is connected is all that is announced. -/
theorem hello_complete :
    let before := (start controls).after primitives ctxs connects
    let net := (start controls).after primitives ctxs (connects ++ publishes)
    (net.desks 0).texts = (before.desks 0).texts ++
      (net.log.drop before.log.length).filterMap
        (textFor primitives (ctxs 0) net.created) := by
  refine texts_complete primitives ctxs controls connects publishes fresh 0 0 ?_ ?_ ?_
  · exact ⟨[], by decide +kernel, by decide +kernel⟩
  · refine ⟨?_, ?_, ?_, ?_, trivial⟩
    all_goals exact keepsUpAt_short (by decide +kernel)
  · exact ⟨[.clipCreated (ClipId.new "01HELLO") ⟨"dev_tablet"⟩ "text"], by decide +kernel,
      by decide +kernel⟩

/-- Satisfiable pole: the text was created by the tablet, for the laptop. -/
theorem hello_published :
    ∃ request clip, TextNetEvent.creates request ∈ connects ++ publishes ∧
      Made primitives request clip ∧ clip.sourceDeviceId ≠ (ctxs 0).deviceId ∧
      PublishedTo primitives (ctxs 0) "hello" clip := by
  refine texts_published primitives ctxs controls primitives_ideal _ fresh ?_ 0 "hello" ?_
  · intro request member
    simp [connects, publishes, quiet] at member
    subst member
    intro textClip kind
    exact ⟨[Hello.laptop, Hello.tablet], "hello", by decide,
      .published draws 0 ⟨"dev_tablet"⟩ 0 false Hello.request Hello.request_made⟩
  · rw [hello_taken]
    exact List.mem_singleton_self _

end OneText

end TextNet

end AirPaste.System
