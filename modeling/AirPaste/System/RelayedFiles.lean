/-
# System.RelayedFiles — which files a relay download leaves where

What the shadow of a transfer comes to (System.RelayedRuns), and what the source keeps
whatever it is sent (Agent.RelayBooks), say for every run of the transfer itself:

* `relayed_obtained`: the recipient has obtained files of the source, each as the source holds
  it, in the order of the missing indexes, and all of them if the download succeeds.
* `relayed_lost`: the source has consumed at most one index that the recipient did not obtain,
  and once it has stopped, however it did, it has reserved none.
-/
import AirPaste.Agent.RelayBooks
import AirPaste.System.RelayedRuns
import Mathlib.Logic.Equiv.List
import Mathlib.Tactic.DeriveCountable

namespace AirPaste.System

open AirPaste.Agent
open AirPaste.Core
open AirPaste.Server
open AirPaste.Theory

set_option autoImplicit false

section Transfer

variable {Key PathBuf : Type} {e : RelayExchange Key PathBuf} {json : ControlJson}
  {registry : PeerFileRegistry PathBuf} {receiving : Receiving}
  {t : Relayed PathBuf} {a : Relay PathBuf}

/-! ## Sent and obtained -/

/-- Both sides go on by the same files. -/
def Further (served : SourceBooks PathBuf) (got : RecipientBooks)
    (result : RelayExchange.SessionResult PathBuf) : Prop :=
  ∃ more, result.2.1.sent = served.sent ++ more.map Prod.fst ∧
    result.2.2.obtained = got.obtained ++ more

/-- What the source sends for one request. -/
def answered (index : Nat) : Except String (List UInt8) → List (Nat × List UInt8)
  | .ok bytes => [(index, bytes)]
  | .error _ => []

theorem servePrepared_sent (path : PathBuf) (index : Nat) (served : SourceBooks PathBuf) :
    (e.servePrepared path index served).2.sent =
      served.sent ++ (answered index (e.servePrepared path index served).1).map Prod.fst := by
  simp only [RelayExchange.servePrepared]
  cases prepared : e.prepareRelayFile served.claims path index with
  | error reason => exact (List.append_nil _).symm
  | ok made =>
      obtain ⟨bytes, read⟩ := RelayExchange.prepareRelayFile_read prepared
      simp only [read]
      rfl

theorem serveFile_sent (index : Nat) (served : SourceBooks PathBuf) :
    (e.serveFile index served).2.sent =
      served.sent ++ (answered index (e.serveFile index served).1).map Prod.fst := by
  have claimed : ∀ clipId sourceDeviceId requesterDeviceId signatureAlg signature token index,
      (e.claimRequested served clipId sourceDeviceId requesterDeviceId signatureAlg signature
        token index).2.sent = served.sent := by
    intro clipId sourceDeviceId requesterDeviceId signatureAlg signature token index
    simp only [RelayExchange.claimRequested]
    split <;> rfl
  have same := claimed e.clipId.asStr e.sourceDeviceId.asStr e.requesterDeviceId.asStr
    peerFileSignatureAlg (e.signPeerFileRequest index) e.fileClip.transferToken.asStr index
  simp only [RelayExchange.serveFile]
  generalize e.claimRequested served e.clipId.asStr e.sourceDeviceId.asStr
    e.requesterDeviceId.asStr peerFileSignatureAlg (e.signPeerFileRequest index)
    e.fileClip.transferToken.asStr index = outcome at same ⊢
  obtain ⟨answer, after⟩ := outcome
  cases answer with
  | error reason => exact same.trans (List.append_nil _).symm
  | ok path =>
      have sent := servePrepared_sent (e := e) path index after
      rw [show after.sent = served.sent from same] at sent
      exact sent

/-- What comes of an answer: the file is obtained, and both sides go on. -/
theorem takeServed_further (e : RelayExchange Key PathBuf) (entry : FileEntry) (index : Nat)
    {goOn : SourceBooks PathBuf → RecipientBooks → RelayExchange.SessionResult PathBuf}
    (goesOn : ∀ served got, Further served got (goOn served got))
    (answer : Except String (List UInt8) × SourceBooks PathBuf) (got : RecipientBooks) :
    Further answer.2 { got with obtained := got.obtained ++ answered index answer.1 }
      (e.takeServed entry index goOn answer got) := by
  obtain ⟨answer, after⟩ := answer
  cases answer with
  | error reason =>
      exact ⟨[], (List.append_nil _).symm,
        ((List.append_nil _).trans (List.append_nil _)).symm⟩
  | ok bytes =>
      have obtained := RelayExchange.takeFile_obtained (e := e) entry index bytes got
      simp only [RelayExchange.takeServed]
      generalize e.takeFile entry index bytes got = taken at obtained ⊢
      obtain ⟨outcome, later⟩ := taken
      cases outcome with
      | error failure =>
          exact ⟨[], (List.append_nil _).symm, obtained.trans (List.append_nil _).symm⟩
      | ok done =>
          obtain ⟨more, sent, gained⟩ := goesOn after later
          exact ⟨more, sent, by rw [gained]; exact congrArg (· ++ more) obtained⟩

theorem serially_further (e : RelayExchange Key PathBuf) (missing : List (FileEntry × Nat)) :
    ∀ (served : SourceBooks PathBuf) (got : RecipientBooks),
      Further served got (e.serially missing served got) := by
  induction missing with
  | nil => exact fun _ _ => ⟨[], (List.append_nil _).symm, (List.append_nil _).symm⟩
  | cons file rest ih =>
      obtain ⟨entry, index⟩ := file
      intro served got
      obtain ⟨more, sent, gained⟩ :=
        takeServed_further e entry index ih (e.serveFile index served) got
      refine ⟨answered index (e.serveFile index served).1 ++ more, ?_, ?_⟩
      · rw [List.map_append, ← List.append_assoc, ← serveFile_sent]
        exact sent
      · rw [← List.append_assoc]
        exact gained

/-- What was sent of what will have been sent, with so much of it obtained. -/
theorem further_tally {served : SourceBooks PathBuf} {got : RecipientBooks}
    {result : RelayExchange.SessionResult PathBuf} (further : Further served got result)
    (balanced : result.2.1.sent = result.2.2.obtained.map Prod.fst) :
    served.sent = got.obtained.map Prod.fst ∧ got.obtained <+: result.2.2.obtained := by
  obtain ⟨more, sent, obtained⟩ := further
  rw [sent, obtained, List.map_append] at balanced
  exact ⟨List.append_cancel_right balanced, obtained ▸ List.prefix_append _ _⟩

theorem settled_sent (source : SourcePhase PathBuf) (served : SourceBooks PathBuf) :
    served.sent <+: (source.settled served).sent := by
  unfold SourcePhase.settled
  split
  · exact List.prefix_rfl
  · exact List.prefix_append _ _
  · exact List.prefix_rfl

/-- An answer that is taken carries the one file that is sent and not obtained. -/
theorem onward_tally {entry : FileEntry} {index : Nat} {rest : List (FileEntry × Nat)}
    {answer : Except String (List UInt8) × SourceBooks PathBuf} {got : RecipientBooks}
    {result : RelayExchange.SessionResult PathBuf}
    (leads : e.onward entry index rest answer got = result)
    (balanced : result.2.1.sent = result.2.2.obtained.map Prod.fst) :
    answer.2.sent = got.obtained.map Prod.fst ++ (answered index answer.1).map Prod.fst ∧
      got.obtained <+: result.2.2.obtained := by
  have further := takeServed_further e entry index (serially_further e rest) answer got
  rw [show e.takeServed entry index (e.serially rest) answer got = result from leads] at further
  obtain ⟨sent, obtained⟩ := further_tally further balanced
  exact ⟨sent.trans (List.map_append ..), (List.prefix_append _ _).trans obtained⟩

theorem answered_start (index : Nat) (answer : Except String (List UInt8)) :
    (answered index answer).map Prod.fst <+: [index] := by
  cases answer with
  | ok bytes => exact List.prefix_rfl
  | error reason => exact List.nil_prefix

/-- While the two are in step, at most one file is sent and not obtained. -/
theorem inStep_tally {result : RelayExchange.SessionResult PathBuf} (inStep : e.InStep result a)
    (balanced : result.2.1.sent = result.2.2.obtained.map Prod.fst) :
    a.got.obtained <+: result.2.2.obtained ∧
      ∃ index, a.served.sent <+: a.got.obtained.map Prod.fst ++ [index] := by
  have settled : a.served.sent <+: a.settled.sent := settled_sent a.source a.served
  -- where the answer is known, what is sent is obtained but for the file of the answer
  have known : ∀ {entry : FileEntry} {index : Nat} {rest : List (FileEntry × Nat)}
      {answer : Except String (List UInt8)},
      e.onward entry index rest (answer, a.settled) a.got = result →
        a.got.obtained <+: result.2.2.obtained ∧
          ∃ index, a.served.sent <+: a.got.obtained.map Prod.fst ++ [index] := by
    intro entry index rest answer leads
    obtain ⟨sent, obtained⟩ := onward_tally leads balanced
    refine ⟨obtained, index, settled.trans ?_⟩
    rw [show a.settled.sent = _ from sent]
    exact List.prefix_append_right_inj _ |>.mpr (answered_start index answer)
  cases inStep with
  | requesting missing here serving quiet coming leads =>
      have further := serially_further e missing a.settled a.got
      rw [leads] at further
      obtain ⟨sent, obtained⟩ := further_tally further balanced
      exact ⟨obtained, 0, settled.trans (sent ▸ List.prefix_append _ _)⟩
  | asked entry index rest here serving request coming leads =>
      obtain ⟨sent, obtained⟩ := onward_tally leads balanced
      have before := List.append_cancel_right ((serveFile_sent index a.settled).symm.trans sent)
      exact ⟨obtained, index, settled.trans (before ▸ List.prefix_append _ _)⟩
  | preparing entry index rest path here source quiet coming leads =>
      obtain ⟨sent, obtained⟩ := onward_tally leads balanced
      have before := List.append_cancel_right
        ((servePrepared_sent path index a.served).symm.trans sent)
      exact ⟨obtained, index, before ▸ List.prefix_append _ _⟩
  | refusing entry index rest reason here source quiet coming leads =>
      rw [← show a.settled = a.served by simp only [Relay.settled, source, SourcePhase.settled]]
        at leads
      exact known leads
  | refused entry index rest reason here serving quiet coming leads => exact known leads
  | header entry index rest size bodyNonce wrappedKeys ciphertext bytes here serving quiet coming
      opens leads => exact known leads
  | body entry index rest bodyNonce wrappedKeys ciphertext parts bytes here serving quiet coming
      opens leads => exact known leads
  | storing entry index rest bodyNonce wrappedKeys ciphertext bytes here serving quiet coming opens
      leads => exact known leads
  | ended outcome here serving quiet coming leads =>
      subst leads
      have sent : a.settled.sent = a.got.obtained.map Prod.fst := balanced
      exact ⟨List.prefix_rfl, 0, settled.trans (sent ▸ List.prefix_append _ _)⟩

/-! ## The source's registry -/

theorem thrifty_step (e : RelayExchange Key PathBuf) (json : ControlJson)
    (t : Relayed PathBuf) (event : RelayedEvent)
    (thrifty : Thrifty registry t.source t.served) :
    Thrifty registry (t.step e json event).source (t.step e json event).served := by
  cases event with
  | world event =>
      simp only [Relayed.step, Relayed.world]
      split <;> exact thrifty
  | recipientCreates ulid expiring created =>
      simp only [Relayed.step, Relayed.recipientCreates]
      split
      · split <;> exact thrifty
      · exact thrifty
  | sourceConnects now =>
      simp only [Relayed.step, Relayed.sourceConnects]
      split
      next here unlinked waiting =>
          rw [waiting] at thrifty
          split
          · exact thrifty.goes (fun _ => rfl) nofun
          · exact waiting ▸ thrifty
      · exact thrifty
  | recipientConnects now =>
      simp only [Relayed.step, Relayed.recipientConnects]
      split
      · split <;> exact thrifty
      · exact thrifty
  | sourceTurn =>
      simp only [Relayed.step, Relayed.sourceTurn]
      split
      · exact thrifty
      next link linked => exact sourceStep_thrifty e (t.sourceView (t.next json link)) thrifty
  | recipientTurn =>
      simp only [Relayed.step, Relayed.recipientTurn]
      split <;> exact thrifty
  | sourceFails =>
      simp only [Relayed.step, Relayed.sourceFails]
      split
      next waiting =>
          rw [waiting] at thrifty
          exact thrifty.goes (fun _ => rfl) nofun
      next token index frame later sending =>
          rw [sending] at thrifty
          exact thrifty.settled (fun _ => rfl) (fun _ => rfl) rfl rfl (fun _ => rfl)
            (fun _ => rfl) fun _ _ member => .inl member
      next reason refusing =>
          rw [refusing] at thrifty
          exact thrifty.goes (fun _ => rfl) nofun
      · exact thrifty
  | recipientFails failure =>
      simp only [Relayed.step, Relayed.recipientFails]
      split <;> exact thrifty

/-! ## What the transfer comes to -/

theorem delivered_missing {delivered rest : List (FileEntry × Nat)}
    {outcome : Except Failure Unit} {last : List Nat} {refused : List (Nat × String)}
    (ending : e.RelayEnding registry receiving delivered rest outcome last refused) :
    delivered.map Prod.snd ++ last <+: (delivered ++ rest).map Prod.snd := by
  rw [List.map_append, List.prefix_append_right_inj]
  cases ending with
  | unfit delivered entry index rest bytes message file fails =>
      exact ⟨rest.map Prod.snd, rfl⟩
  | unwritten delivered entry index rest bytes machine file blocked =>
      exact ⟨rest.map Prod.snd, rfl⟩
  | _ => exact List.nil_prefix

/-- A download over the relay that is done has the whole result. -/
theorem Shadow.done (shadow : Shadow e json registry receiving t a)
    (done : t.recipient = .ended (.ok ())) :
    (e.session registry receiving).1 = .ok () ∧ t.got = (e.session registry receiving).2.2 := by
  cases shadow.recipient with
  | waits missing unlinked phase got recipient before => cases phase.symm.trans done
  | broke failure ended obtained => cases ended.symm.trans done
  | goes linked recipient got =>
      have ended : a.recipient = .ended (.ok ()) := recipient.symm.trans done
      cases shadow.inStep with
      | ended outcome here serving quiet coming leads =>
          cases ended.symm.trans here
          rw [← leads, got]
          exact ⟨rfl, rfl⟩
      | _ => simp_all

/-- What both sides keep at every point of a transfer. -/
theorem after_stands (matched : e.Matched) (faithful : json.Faithful)
    (earlier : List RelayEvent) (registry : PeerFileRegistry PathBuf) (receiving : Receiving)
    (events : List RelayedEvent) :
    Stands e json registry receiving (Relayed.after e json earlier registry receiving events) :=
  stands_run matched faithful (RelayNet.runs_lined earlier) registry receiving events

theorem after_thrifty (e : RelayExchange Key PathBuf) (json : ControlJson)
    (earlier : List RelayEvent) (registry : PeerFileRegistry PathBuf) (receiving : Receiving)
    (events : List RelayedEvent) :
    Thrifty registry (Relayed.after e json earlier registry receiving events).source
      (Relayed.after e json earlier registry receiving events).served :=
  run_preserves (thrifty_step e json) (thrifty_start registry) events

/-- **What is obtained.**  In every run of a relay download, among any other clients of the
server and with any failures, the recipient has obtained the first of the files it misses, in
order, each as the source holds it; a download that succeeds has obtained and recorded all. -/
theorem relayed_obtained (matched : e.Matched) (faithful : json.Faithful)
    (earlier : List RelayEvent) (registry : PeerFileRegistry PathBuf) (receiving : Receiving)
    (events : List RelayedEvent) {t : Relayed PathBuf}
    (reached : Relayed.after e json earlier registry receiving events = t) :
    t.got.obtained.map Prod.fst <+:
        (missingFiles e.fileClip receiving.downloaded).map Prod.snd ∧
      (∀ index bytes, (index, bytes) ∈ t.got.obtained → e.SourceFile registry index bytes) ∧
      (t.recipient = .ended (.ok ()) →
        t.got.obtained.map Prod.fst =
            (missingFiles e.fileClip receiving.downloaded).map Prod.snd ∧
          ∀ entry index, (entry, index) ∈ missingFiles e.fileClip receiving.downloaded →
            t.got.receiving.downloaded index = some (e.destination entry)) := by
  obtain ⟨_, a, shadow⟩ :=
    after_stands matched faithful earlier registry receiving events
  rw [reached] at shadow
  obtain ⟨delivered, rest, last, refused, missing, ending, books⟩ :=
    RelayExchange.session_books e registry receiving
  obtain ⟨first, _⟩ := inStep_tally shadow.inStep books.sent
  rw [← shadow.obtained] at first
  refine ⟨?_, fun index bytes member => books.files index bytes (first.subset member), ?_⟩
  · rw [missing]
    refine (first.map Prod.fst).trans ?_
    rw [books.indexes]
    exact delivered_missing ending
  · intro done
    obtain ⟨completed, got⟩ := shadow.done done
    rw [completed] at ending
    cases ending with
    | complete delivered =>
        rw [missing, got, List.append_nil]
        exact ⟨books.indexes.trans (List.append_nil _), books.recorded⟩

/-- **What is lost.**  In every run of a relay download, a grant of the source differs from
what it was by the files that the recipient has obtained and at most one more, and the one that
is being served; a source that has stopped, however it did, has nothing reserved. -/
theorem relayed_lost (matched : e.Matched) (faithful : json.Faithful)
    (earlier : List RelayEvent) (registry : PeerFileRegistry PathBuf) (receiving : Receiving)
    (events : List RelayedEvent) {t : Relayed PathBuf}
    (reached : Relayed.after e json earlier registry receiving events = t) :
    ∃ lost, ∀ token grant, t.served.registry token = some grant →
      ∃ before, registry token = some before ∧ grant.toGrantTerms = before.toGrantTerms ∧
        (∀ index ∈ grant.servedIndexes, index ∈ before.servedIndexes ∨
          index ∈ t.got.obtained.map Prod.fst ∨ index = lost) ∧
        grant.inFlight = before.inFlight ∪ t.source.reserved token ∧
        (t.source = .stopped → grant.inFlight = before.inFlight) := by
  obtain ⟨_, a, shadow⟩ :=
    after_stands matched faithful earlier registry receiving events
  have thrifty := after_thrifty e json earlier registry receiving events
  rw [reached] at shadow thrifty
  obtain ⟨_, _, _, _, _, _, books⟩ := RelayExchange.session_books e registry receiving
  obtain ⟨_, lost, tally⟩ := inStep_tally shadow.inStep books.sent
  have sent : t.served.sent = a.served.sent := by
    cases shadow.source with
    | goes source served => rw [served]
    | broke stopped sent => exact sent
  rw [← sent, ← shadow.obtained] at tally
  refine ⟨lost, fun token grant stored => ?_⟩
  obtain ⟨before, found, terms, consumed, inFlight, _⟩ := thrifty.grants token grant stored
  refine ⟨before, found, terms, fun index member => (consumed index member).imp_right ?_,
    inFlight, fun stopped => ?_⟩
  · intro known
    exact (List.mem_append.mp (tally.subset known)).imp_right List.mem_singleton.mp
  · rw [inFlight, stopped]
    exact Finset.union_empty _

end Transfer

/-! ## One of two files -/

namespace OneMissing

open Changed

/-- A control message of this type, with these fields. -/
def tagged (type fields : String) : String :=
  "\x7b\"type\":\"" ++ type ++ "\"," ++ fields ++ "\x7d"

def requestText : String :=
  tagged "request" ("\"clip_id\":\"clip_1\",\"source_device_id\":\"dev_source\"," ++
    "\"requester_device_id\":\"dev_requester\",\"signature_alg\":\"ed25519-v1\"," ++
    "\"signature\":\"" ++ Agent.Sample.claimSignature ++ "\",\"token\":\"tt_1\",\"index\":0")

/-- The key of the file, wrapped for the recipient. -/
def wrappedKey : WrappedKey where
  deviceId := ⟨"dev_requester"⟩
  ephemeralPublicKey := "zo060cy2M+x7cMF4FKXHbs0CloUFDTRHRboFhw5YfVk="
  nonce := "BQUFBQUFBQUFBQUFBQUFBQUFBQUFBQUF"
  ciphertext := "kPGvy8++iPfqy+c9XvASZGSK9CIoMSPjUzKG6L7UJiB5dcyB6vMKEVcO1e46PPvD"

def headerText : String :=
  tagged "file_header" ("\"index\":0,\"size\":5," ++
    "\"body_nonce\":\"BAQEBAQEBAQEBAQEBAQEBAQEBAQEBAQE\"," ++
    "\"wrapped_keys\":[\x7b\"device_id\":\"dev_requester\",\"ephemeral_public_key\":\"" ++
    wrappedKey.ephemeralPublicKey ++ "\",\"nonce\":\"" ++ wrappedKey.nonce ++
    "\",\"ciphertext\":\"" ++ wrappedKey.ciphertext ++ "\"\x7d]")

def endText : String := tagged "file_end" "\"index\":0"

def request : RelayControl :=
  .request "clip_1" "dev_source" "dev_requester" "ed25519-v1" Agent.Sample.claimSignature "tt_1" 0

def fileHeader : RelayControl :=
  .fileHeader 0 5 "BAQEBAQEBAQEBAQEBAQEBAQEBAQEBAQE" [wrappedKey]

/-- The control messages of the transfer, as they are written. -/
def texts : List (RelayControl × String) :=
  [(request, requestText), (fileHeader, headerText), (.fileEnd 0, endText)]

instance charCountable : Countable Char :=
  Function.Injective.countable (f := Char.toNat) fun _ _ => Char.toNat_inj.mp

instance stringCountable : Countable String :=
  Function.Injective.countable (f := String.toList) fun _ _ => String.toList_injective

deriving instance Countable for DeviceId, WrappedKey, RelayControl

/-- Any other message stands as a row of strokes. -/
noncomputable def strokes (control : RelayControl) : String :=
  String.ofList ('#' :: List.replicate
    ((Countable.exists_injective_nat RelayControl).choose control) '1')

theorem strokes_injective : Function.Injective strokes := by
  intro first second same
  have lists := (List.cons.inj (String.ofList_injective same)).2
  have lengths := congrArg List.length lists
  rw [List.length_replicate, List.length_replicate] at lengths
  exact (Countable.exists_injective_nat RelayControl).choose_spec lengths

open Classical in
noncomputable def json : ControlJson where
  toString control :=
    match texts.find? (fun pair => decide (pair.1 = control)) with
    | some pair => pair.2
    | none => strokes control
  fromStr text :=
    match texts.find? (fun pair => pair.2 == text) with
    | some pair => .ok pair.1
    | none =>
        if written : ∃ control, strokes control = text then .ok written.choose
        else .error "expected value"

theorem tagged_apart {type other fields others : String} {n : Nat}
    (here : n < type.toList.length) (there : n < other.toList.length)
    (apart : type.toList[n] ≠ other.toList[n]) : tagged type fields ≠ tagged other others := by
  intro same
  have lists := congrArg String.toList same
  simp only [tagged, String.toList_append, List.append_assoc, List.append_cancel_left_eq] at lists
  have chars := congrArg (fun list => list[n]?) lists
  simp only [List.getElem?_append_left here, List.getElem?_append_left there,
    List.getElem?_eq_getElem here, List.getElem?_eq_getElem there, Option.some.injEq] at chars
  exact apart chars

theorem texts_apart :
    requestText ≠ headerText ∧ requestText ≠ endText ∧ headerText ≠ endText :=
  ⟨tagged_apart (n := 0) (by decide) (by decide) (by decide),
    tagged_apart (n := 0) (by decide) (by decide) (by decide),
    tagged_apart (n := 5) (by decide) (by decide) (by decide)⟩

theorem texts_read : ∀ pair ∈ texts,
    texts.find? (fun other => other.2 == pair.2) = some pair := by
  obtain ⟨first, second, third⟩ := texts_apart
  simp only [texts, List.mem_cons, List.not_mem_nil, or_false, forall_eq_or_imp, forall_eq,
    List.find?_cons, beq_self_eq_true, beq_eq_false_iff_ne.mpr first,
    beq_eq_false_iff_ne.mpr second, beq_eq_false_iff_ne.mpr third, and_self]

theorem tagged_ne_strokes {type fields : String} {control : RelayControl} :
    tagged type fields ≠ strokes control := by
  intro same
  have first := congrArg (fun text => text.toList.head?) same
  simp only [tagged, strokes, String.toList_append, String.toList_ofList, List.head?_append,
    List.head?_cons] at first
  cases first

theorem json_faithful : json.Faithful := by
  intro control
  simp only [json]
  cases found : texts.find? (fun pair => decide (pair.1 = control)) with
  | some pair =>
      have same : pair.1 = control := by simpa using List.find?_some found
      simp only [texts_read pair (List.mem_of_find?_eq_some found)]
      exact congrArg Except.ok same
  | none =>
      have other : texts.find? (fun pair => pair.2 == strokes control) = none := by
        simp only [texts, List.find?_cons, List.find?_nil, requestText, headerText, endText,
          beq_eq_false_iff_ne.mpr tagged_ne_strokes]
      have written : ∃ written, strokes written = strokes control := ⟨control, rfl⟩
      simp only [other, dif_pos written]
      exact congrArg Except.ok (strokes_injective written.choose_spec)

/-- A frame goes from one connection over the relay to the other. -/
def carry (c d : Nat) : List RelayedEvent :=
  [.world (.reads c), .world (.forwards c), .world (.receives d), .world (.delivers d true)]

def connected : List RelayedEvent :=
  [.recipientCreates "01RELAY" 1000 0, .sourceConnects 0, .world (.joins 0),
    .recipientConnects 0, .world (.joins 1)]

/-- The request arrives; the source claims, prepares and sends the file, and commits it. -/
def served : List RelayedEvent :=
  connected ++ .recipientTurn :: carry 1 0 ++ List.replicate 6 .sourceTurn

def untilDone : List RelayedEvent :=
  served ++ carry 0 1 ++ carry 0 1 ++ carry 0 1 ++ List.replicate 5 .recipientTurn

/-- The second file of the clip is in the cache. -/
def receiving : Receiving :=
  { Changed.receiving with
    downloaded := fun index => if index = 1 then some (LexPath.parse "/home/u/b.txt") else none }

/-- Satisfiable pole: the first file arrives. -/
theorem first_obtained :
    ∃ t, Relayed.after (exchange 5) json [] registry receiving untilDone = t ∧
      t.recipient = .ended (.ok ()) ∧ t.got.obtained.map Prod.fst = [0] ∧
      t.got.receiving.downloaded 0 =
        some ((exchange 5).destination ⟨"a.txt", "a.txt", 5, none, none, .file⟩) := by
  have done : (Relayed.after (exchange 5) json [] registry receiving untilDone).recipient =
      .ended (.ok ()) := by decide +kernel
  have missing : missingFiles (exchange 5).fileClip receiving.downloaded =
      [(⟨"a.txt", "a.txt", 5, none, none, .file⟩, 0)] := by decide +kernel
  obtain ⟨_, _, all⟩ :=
    relayed_obtained (exchange_matched 5) json_faithful [] registry receiving untilDone rfl
  obtain ⟨obtained, recorded⟩ := all done
  rw [missing] at obtained
  refine ⟨_, rfl, done, obtained, recorded _ 0 ?_⟩
  rw [missing]
  exact List.mem_singleton_self _

/-- The connection of the recipient is lost before it gets the file, and the source stops. -/
def untilLost : List RelayedEvent :=
  served ++ [.recipientFails (.text "relay connection closed"), .sourceFails]

/-- Satisfiable pole: the file that was sent and not obtained is the one that is lost. -/
theorem first_lost :
    ∃ t, Relayed.after (exchange 5) json [] registry receiving untilLost = t ∧
      t.got.obtained = [] ∧ t.source = .stopped ∧
      ∃ grant before, t.served.registry "tt_1" = some grant ∧ registry "tt_1" = some before ∧
        grant.servedIndexes = {0} ∧ before.servedIndexes = ∅ ∧
        grant.inFlight = before.inFlight := by
  have reached : ((Relayed.after (exchange 5) json [] registry receiving
      untilLost).served.registry "tt_1").map (fun grant => grant.servedIndexes) = some {0} ∧
      (Relayed.after (exchange 5) json [] registry receiving untilLost).source = .stopped ∧
      (Relayed.after (exchange 5) json [] registry receiving untilLost).got.obtained = [] := by
    decide +kernel
  have unserved : (registry "tt_1").map (fun grant => grant.servedIndexes) = some ∅ := by
    decide +kernel
  obtain ⟨served, stopped, nothing⟩ := reached
  obtain ⟨grant, stored, consumed⟩ := Option.map_eq_some_iff.mp served
  obtain ⟨_, keeps⟩ :=
    relayed_lost (exchange_matched 5) json_faithful [] registry receiving untilLost rfl
  obtain ⟨before, found, _, _, _, inFlight⟩ := keeps "tt_1" grant stored
  rw [found, Option.map_some, Option.some.injEq] at unserved
  exact ⟨_, rfl, nothing, stopped, grant, before, stored, found, consumed, unserved,
    inFlight stopped⟩

end OneMissing

end AirPaste.System
