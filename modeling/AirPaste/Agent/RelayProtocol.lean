/-
# Agent.RelayProtocol — a relay session, whatever the order of steps

The two sides of a relay session step in any order, and each may run ahead of the other as
far as the queues let it.  `InStep` is what holds at every point: which frames may be under
way is told by where the recipient stands, and from there the session comes to the same
result.  The source is looked at with what it still has to send (`coming`) and to commit
(`settled`), so its steps while it sends change nothing that `InStep` looks at.

`finished_result`: a session that has ended has come to its serial result.  `finishes`:
under a fair schedule it ends.
-/
import AirPaste.Agent.RelaySession

namespace AirPaste.Agent

open AirPaste.Core
open AirPaste.Crypto
open AirPaste.Theory

set_option autoImplicit false

/-! ## Chunks -/

theorem flatten_chunksOf {size atMost : Nat} {bytes : List UInt8} (positive : 0 < size)
    (within : bytes.length ≤ atMost) : (chunksOf size atMost bytes).flatten = bytes := by
  induction atMost generalizing bytes with
  | zero =>
      rw [List.length_eq_zero_iff.mp (Nat.le_zero.mp within)]
      rfl
  | succ atMost ih =>
      simp only [chunksOf]
      split
      · rename_i empty
        rw [empty]
        rfl
      · rename_i present
        have shorter : (bytes.drop size).length ≤ atMost := by
          rw [List.length_drop]
          omega
        rw [List.flatten_cons, ih shorter, List.take_append_drop]

theorem flatten_chunks (bytes : List UInt8) : (chunks relayChunkBytes bytes).flatten = bytes :=
  flatten_chunksOf (by decide) (Nat.le_refl _)

/-! ## The source between two requests -/

namespace SourcePhase

variable {PathBuf : Type}

/-- The source waits for a request or sends a file. -/
def Serving : SourcePhase PathBuf → Prop
  | .waiting => True
  | .sending _ _ _ => True
  | .preparing _ _ _ => False
  | .refusing _ => False
  | .stopped => False

def framesLeft : SourcePhase PathBuf → List Message
  | .sending _ _ frames => frames
  | _ => []

/-- What the source keeps once the file it sends is sent and committed. -/
def settled : SourcePhase PathBuf → SourceBooks PathBuf → SourceBooks PathBuf
  | .sending token index [], served => RelayExchange.commit token index served
  | .sending token index (_ :: _), served =>
      RelayExchange.commit token index (RelayExchange.noteSent index served)
  | _, served => served

/-- How much a source that sends has before it. -/
def load : SourcePhase PathBuf → Nat
  | .sending _ _ frames => 2 * frames.length + 1
  | _ => 0

end SourcePhase

namespace Relay

variable {PathBuf : Type}

/-- The frames the recipient has still to receive of what the source sends now. -/
def coming (s : Relay PathBuf) : List Message := s.toRecipient ++ s.source.framesLeft

def settled (s : Relay PathBuf) : SourceBooks PathBuf := s.source.settled s.served

/-- Both sides have returned. -/
def Finished (s : Relay PathBuf) : Prop :=
  s.source = .stopped ∧ ∃ outcome, s.recipient = .ended outcome

/-- How far the session has to go: for the recipient in the files that are missing, and
within a file by what it waits for. -/
def stage (s : Relay PathBuf) : Nat :=
  match s.recipient with
  | .requesting missing => 10 * missing.length + 9
  | .awaitingHeader _ _ rest =>
      10 * rest.length + 10 +
        if s.toSource ≠ [] then 8
        else
          match s.source with
          | .preparing _ _ _ => 7
          | .refusing _ => 6
          | _ => 5
  | .awaitingBody _ _ rest _ _ _ => 10 * rest.length + 14
  | .storing _ _ rest _ _ _ => 10 * rest.length + 13
  | .ended _ =>
      match s.source with
      | .stopped => 0
      | _ => 1

/-- The frames to be sent, each worth a step to send it and one to receive it, and those
to be received. -/
def frames (s : Relay PathBuf) : Nat := s.source.load + s.toRecipient.length

def measure (s : Relay PathBuf) : Nat × Nat := (s.stage, s.frames)

end Relay

abbrev Below : Nat × Nat → Nat × Nat → Prop := Prod.Lex (· < ·) (· < ·)

theorem below_wf : WellFounded Below := (Prod.lex Nat.lt_wfRel Nat.lt_wfRel).wf

namespace RelayExchange

variable {Key PathBuf : Type} (e : RelayExchange Key PathBuf)

/-- Ideal primitives, and the source knows the recipient by its id and its registered key. -/
structure Matched : Prop where
  ideal : e.primitives.Ideal
  device : e.recipient.deviceId = e.requesterDeviceId
  key : decodePublicKey e.primitives e.recipient.publicKeyBase64 =
    .ok (e.encryption.publicKey e.primitives)

/-- What the session comes to once the source has answered the request for an index. -/
def onward (entry : FileEntry) (index : Nat) (rest : List (FileEntry × Nat))
    (answer : Except String (List UInt8) × SourceBooks PathBuf) (got : RecipientBooks) :
    SessionResult PathBuf :=
  e.takeServed entry index (e.serially rest) answer got

/-- The two sides are in step, and the session comes to this result. -/
inductive InStep (result : SessionResult PathBuf) (s : Relay PathBuf) : Prop where
  | requesting (missing : List (FileEntry × Nat)) (here : s.recipient = .requesting missing)
      (serving : s.source.Serving) (quiet : s.toSource = []) (coming : s.coming = [])
      (leads : e.serially missing s.settled s.got = result)
  | asked (entry : FileEntry) (index : Nat) (rest : List (FileEntry × Nat))
      (here : s.recipient = .awaitingHeader entry index rest)
      (serving : s.source.Serving) (request : s.toSource = [e.requestMessage index])
      (coming : s.coming = [])
      (leads : e.onward entry index rest (e.serveFile index s.settled) s.got = result)
  | preparing (entry : FileEntry) (index : Nat) (rest : List (FileEntry × Nat)) (path : PathBuf)
      (here : s.recipient = .awaitingHeader entry index rest)
      (source : s.source = .preparing e.fileClip.transferToken.asStr index path)
      (quiet : s.toSource = []) (coming : s.toRecipient = [])
      (leads : e.onward entry index rest (e.servePrepared path index s.served) s.got = result)
  | refusing (entry : FileEntry) (index : Nat) (rest : List (FileEntry × Nat)) (reason : String)
      (here : s.recipient = .awaitingHeader entry index rest)
      (source : s.source = .refusing reason) (quiet : s.toSource = []) (coming : s.toRecipient = [])
      (leads : e.onward entry index rest (.error reason, s.served) s.got = result)
  | refused (entry : FileEntry) (index : Nat) (rest : List (FileEntry × Nat)) (reason : String)
      (here : s.recipient = .awaitingHeader entry index rest)
      (serving : s.source.Serving) (quiet : s.toSource = [])
      (coming : s.coming = [.control (.error reason)])
      (leads : e.onward entry index rest (.error reason, s.settled) s.got = result)
  | header (entry : FileEntry) (index : Nat) (rest : List (FileEntry × Nat)) (size : Nat)
      (bodyNonce : String) (wrappedKeys : List WrappedKey) (ciphertext bytes : List UInt8)
      (here : s.recipient = .awaitingHeader entry index rest)
      (serving : s.source.Serving) (quiet : s.toSource = [])
      (coming : s.coming =
        relayFrames (.fileHeader index size bodyNonce wrappedKeys) ciphertext index)
      (opens : e.openRelayed bodyNonce wrappedKeys ciphertext = .ok bytes)
      (leads : e.onward entry index rest (.ok bytes, s.settled) s.got = result)
  | body (entry : FileEntry) (index : Nat) (rest : List (FileEntry × Nat))
      (bodyNonce : String) (wrappedKeys : List WrappedKey) (ciphertext : List UInt8)
      (parts : List (List UInt8)) (bytes : List UInt8)
      (here : s.recipient = .awaitingBody entry index rest bodyNonce wrappedKeys ciphertext)
      (serving : s.source.Serving) (quiet : s.toSource = [])
      (coming : s.coming = parts.map Message.binary ++ [.control (.fileEnd index)])
      (opens : e.openRelayed bodyNonce wrappedKeys (ciphertext ++ parts.flatten) = .ok bytes)
      (leads : e.onward entry index rest (.ok bytes, s.settled) s.got = result)
  | storing (entry : FileEntry) (index : Nat) (rest : List (FileEntry × Nat))
      (bodyNonce : String) (wrappedKeys : List WrappedKey) (ciphertext bytes : List UInt8)
      (here : s.recipient = .storing entry index rest bodyNonce wrappedKeys ciphertext)
      (serving : s.source.Serving) (quiet : s.toSource = []) (coming : s.coming = [])
      (opens : e.openRelayed bodyNonce wrappedKeys ciphertext = .ok bytes)
      (leads : e.onward entry index rest (.ok bytes, s.settled) s.got = result)
  | ended (outcome : Except Failure Unit) (here : s.recipient = .ended outcome)
      (serving : s.source.Serving ∨ s.source = .stopped) (quiet : s.toSource = [])
      (coming : s.coming = []) (leads : (outcome, s.settled, s.got) = result)

variable {e} {result : SessionResult PathBuf} {s : Relay PathBuf}

/-! ## Sealed and opened -/

/-- A file that is prepared is one the source read, sealed so that the recipient opens it. -/
theorem prepareRelayFile_ok (matched : e.Matched) {claims : Nat} {path : PathBuf} {index : Nat}
    {header : RelayControl} {ciphertext : List UInt8}
    (prepared : e.prepareRelayFile claims path index = .ok (header, ciphertext)) :
    ∃ bytes bodyNonce wrappedKeys, e.contents path = .ok bytes ∧
      header = .fileHeader index bytes.length bodyNonce wrappedKeys ∧
      e.openRelayed bodyNonce wrappedKeys ciphertext = .ok bytes := by
  simp only [prepareRelayFile, bind_ok_iff, mapError_ok_iff] at prepared
  obtain ⟨bytes, read, sealed, sealedBytes, built⟩ := prepared
  cases built
  refine ⟨bytes, _, _, read, rfl, ?_⟩
  have distinct : ([e.recipient].map Recipient.deviceId).Nodup := List.nodup_singleton _
  have sealedTo : SealedTo e.primitives [e.recipient] e.requesterDeviceId e.encryption :=
    ⟨e.recipient, List.mem_singleton_self _, matched.device, matched.key⟩
  simp only [openRelayed, bind_ok_iff, mapError_ok_iff, matched.ideal.decodes _, Except.ok.injEq,
    exists_eq_left']
  exact (openBytes_sealBytes matched.ideal distinct sealedBytes).mpr ⟨rfl, sealedTo⟩

/-! ## One step -/

/-- The step leads on: the two sides stay in step, and the session is nearer its end. -/
structure Moves (e : RelayExchange Key PathBuf) (result : SessionResult PathBuf)
    (s s' : Relay PathBuf) : Prop where
  inStep : e.InStep result s'
  below : Below s'.measure s.measure

theorem below_of_stage {s s' : Relay PathBuf} (less : s'.stage < s.stage) :
    Below s'.measure s.measure :=
  Prod.Lex.left _ _ less

theorem below_of_frames {s s' : Relay PathBuf} (same : s'.stage = s.stage)
    (less : s'.frames < s.frames) : Below s'.measure s.measure := by
  unfold Relay.measure
  rw [same]
  exact Prod.Lex.right _ less

/-- The states look the same to the recipient, now and when the source is done sending. -/
structure SameView (s s' : Relay PathBuf) : Prop where
  recipient : s'.recipient = s.recipient
  got : s'.got = s.got
  toSource : s'.toSource = s.toSource
  coming : s'.coming = s.coming
  settled : s'.settled = s.settled
  serving : s'.source.Serving

theorem InStep.of_sameView {s s' : Relay PathBuf} (inStep : e.InStep result s)
    (serving : s.source.Serving) (view : SameView s s') : e.InStep result s' := by
  obtain ⟨recipient, got, toSource, coming, settled, serves⟩ := view
  cases inStep with
  | requesting missing here _ quiet nothing leads =>
      exact .requesting missing (recipient.trans here) serves (toSource.trans quiet)
        (coming.trans nothing) (by rw [settled, got, leads])
  | asked entry index rest here _ request nothing leads =>
      exact .asked entry index rest (recipient.trans here) serves (toSource.trans request)
        (coming.trans nothing) (by rw [settled, got, leads])
  | preparing entry index rest path here source quiet nothing leads =>
      rw [source] at serving
      exact serving.elim
  | refusing entry index rest reason here source quiet nothing leads =>
      rw [source] at serving
      exact serving.elim
  | refused entry index rest reason here _ quiet frame leads =>
      exact .refused entry index rest reason (recipient.trans here) serves (toSource.trans quiet)
        (coming.trans frame) (by rw [settled, got, leads])
  | header entry index rest size bodyNonce wrappedKeys ciphertext bytes here _ quiet frames opens
      leads =>
      exact .header entry index rest size bodyNonce wrappedKeys ciphertext bytes
        (recipient.trans here) serves (toSource.trans quiet) (coming.trans frames) opens
        (by rw [settled, got, leads])
  | body entry index rest bodyNonce wrappedKeys ciphertext parts bytes here _ quiet frames opens
      leads =>
      exact .body entry index rest bodyNonce wrappedKeys ciphertext parts bytes
        (recipient.trans here) serves (toSource.trans quiet) (coming.trans frames) opens
        (by rw [settled, got, leads])
  | storing entry index rest bodyNonce wrappedKeys ciphertext bytes here _ quiet nothing opens
      leads =>
      exact .storing entry index rest bodyNonce wrappedKeys ciphertext bytes
        (recipient.trans here) serves (toSource.trans quiet) (coming.trans nothing) opens
        (by rw [settled, got, leads])
  | ended outcome here _ quiet nothing leads =>
      exact .ended outcome (recipient.trans here) (Or.inl serves) (toSource.trans quiet)
        (coming.trans nothing) (by rw [settled, got, leads])

/-! ### The source -/

/-- A source that sends changes nothing in what is to come. -/
theorem sending_sameView {token : String} {index : Nat} {frames : List Message}
    (sending : s.source = .sending token index frames) : SameView s (e.sourceStep s) := by
  cases frames with
  | nil =>
      simp only [sourceStep, sending]
      refine ⟨rfl, rfl, rfl, ?_, ?_, trivial⟩
      · simp only [Relay.coming, sending, SourcePhase.framesLeft]
      · simp only [Relay.settled, sending, SourcePhase.settled]
  | cons frame rest =>
      simp only [sourceStep, sending]
      refine ⟨rfl, rfl, rfl, ?_, ?_, trivial⟩
      · simp only [Relay.coming, sending, SourcePhase.framesLeft, List.append_assoc,
          List.singleton_append]
      · cases rest with
        | nil => simp only [Relay.settled, sending, SourcePhase.settled, if_true]
        | cons next later =>
            simp only [Relay.settled, sending, SourcePhase.settled, reduceCtorEq, if_false]

theorem sending_below {token : String} {index : Nat} {frames : List Message}
    (sending : s.source = .sending token index frames) :
    Below (e.sourceStep s).measure s.measure := by
  apply below_of_frames
  · cases frames with
    | nil =>
        simp only [sourceStep, sending, Relay.stage]
    | cons frame rest =>
        simp only [sourceStep, sending, Relay.stage]
  · cases frames with
    | nil => simp [sourceStep, sending, Relay.frames, SourcePhase.load]
    | cons frame rest =>
        simp only [sourceStep, sending, Relay.frames, SourcePhase.load, List.length_append,
          List.length_cons, List.length_nil]
        omega

theorem sourceStep_idle (waits : s.source = .waiting) (quiet : s.toSource = [])
    (open_ : ∀ outcome, s.recipient ≠ .ended outcome) : e.sourceStep s = s := by
  cases here : s.recipient with
  | ended outcome => exact absurd here (open_ outcome)
  | _ => simp only [sourceStep, waits, quiet, here]

/-- The claim of the request for an index, as the source makes it. -/
theorem sourceStep_request (waits : s.source = .waiting) {index : Nat}
    (request : s.toSource = [e.requestMessage index]) {answer : Except String PathBuf}
    {served : SourceBooks PathBuf}
    (claimed : e.claimRequested s.served e.clipId.asStr e.sourceDeviceId.asStr
      e.requesterDeviceId.asStr peerFileSignatureAlg (e.signPeerFileRequest index)
      e.fileClip.transferToken.asStr index = (answer, served)) :
    e.sourceStep s =
      { s with
        source :=
          match answer with
          | .ok path => .preparing e.fileClip.transferToken.asStr index path
          | .error reason => .refusing reason
        served := served
        toSource := [] } := by
  cases answer with
  | ok path => simp only [sourceStep, waits, request, requestMessage, Message.control, claimed]
  | error reason => simp only [sourceStep, waits, request, requestMessage, Message.control, claimed]

theorem settled_waiting (waits : s.source = .waiting) : s.settled = s.served := by
  simp only [Relay.settled, waits, SourcePhase.settled]

theorem coming_waiting (waits : s.source = .waiting) : s.coming = s.toRecipient := by
  simp only [Relay.coming, waits, SourcePhase.framesLeft, List.append_nil]

/-- A source that waits takes the request for an index. -/
theorem asked_moves {entry : FileEntry} {index : Nat} {rest : List (FileEntry × Nat)}
    (here : s.recipient = .awaitingHeader entry index rest) (waits : s.source = .waiting)
    (request : s.toSource = [e.requestMessage index]) (coming : s.coming = [])
    (leads : e.onward entry index rest (e.serveFile index s.settled) s.got = result) :
    Moves e result s (e.sourceStep s) := by
  have quiet : s.toRecipient = [] := coming_waiting waits ▸ coming
  rw [settled_waiting waits] at leads
  simp only [serveFile] at leads
  cases claimed : e.claimRequested s.served e.clipId.asStr e.sourceDeviceId.asStr
    e.requesterDeviceId.asStr peerFileSignatureAlg (e.signPeerFileRequest index)
    e.fileClip.transferToken.asStr index with
  | mk answer served =>
      rw [claimed] at leads
      rw [sourceStep_request waits request claimed]
      cases answer with
      | ok path =>
          refine ⟨.preparing entry index rest path here rfl rfl quiet leads, ?_⟩
          apply below_of_stage
          simp [Relay.stage, here, request]
      | error reason =>
          refine ⟨.refusing entry index rest reason here rfl rfl quiet leads, ?_⟩
          apply below_of_stage
          simp [Relay.stage, here, request]

/-- A source that waits returns when the recipient has. -/
theorem ended_moves {outcome : Except Failure Unit} (here : s.recipient = .ended outcome)
    (waits : s.source = .waiting) (quiet : s.toSource = []) (coming : s.coming = [])
    (leads : (outcome, s.settled, s.got) = result) : Moves e result s (e.sourceStep s) := by
  have stops : e.sourceStep s = { s with source := .stopped } := by
    simp only [sourceStep, waits, quiet, here]
  rw [stops]
  refine ⟨.ended outcome here (Or.inr rfl) quiet ?_ ?_, ?_⟩
  · rw [coming_waiting waits] at coming
    simp only [Relay.coming, coming, SourcePhase.framesLeft, List.append_nil]
  · rw [← leads, settled_waiting waits]
    rfl
  · apply below_of_stage
    simp [Relay.stage, here, waits]

/-- A source that waits is in step when a request is all it waits for. -/
theorem waiting_moves (inStep : e.InStep result s) (waits : s.source = .waiting) :
    e.sourceStep s = s ∨ Moves e result s (e.sourceStep s) := by
  cases inStep with
  | asked entry index rest here serving request coming leads =>
      exact Or.inr (asked_moves here waits request coming leads)
  | ended outcome here serving quiet coming leads =>
      exact Or.inr (ended_moves here waits quiet coming leads)
  | requesting missing here serving quiet coming leads =>
      exact Or.inl (sourceStep_idle waits quiet (by simp [here]))
  | refused entry index rest reason here serving quiet coming leads =>
      exact Or.inl (sourceStep_idle waits quiet (by simp [here]))
  | header entry index rest size bodyNonce wrappedKeys ciphertext bytes here serving quiet coming
      opens leads =>
      exact Or.inl (sourceStep_idle waits quiet (by simp [here]))
  | body entry index rest bodyNonce wrappedKeys ciphertext parts bytes here serving quiet coming
      opens leads =>
      exact Or.inl (sourceStep_idle waits quiet (by simp [here]))
  | storing entry index rest bodyNonce wrappedKeys ciphertext bytes here serving quiet coming
      opens leads =>
      exact Or.inl (sourceStep_idle waits quiet (by simp [here]))
  | preparing entry index rest path here source quiet nothing leads =>
      rw [waits] at source
      cases source
  | refusing entry index rest reason here source quiet nothing leads =>
      rw [waits] at source
      cases source

/-- A source that prepares a file comes to send it or to refuse it. -/
theorem preparing_moves (matched : e.Matched) (inStep : e.InStep result s) {token : String}
    {index : Nat} {path : PathBuf} (prepares : s.source = .preparing token index path) :
    Moves e result s (e.sourceStep s) := by
  cases inStep with
  | preparing entry index rest path here source quiet nothing leads =>
      simp only [sourceStep, source]
      simp only [servePrepared] at leads
      cases prepared : e.prepareRelayFile s.served.claims path index with
      | error reason =>
          simp only [prepared] at leads ⊢
          refine ⟨.refusing entry index rest reason here rfl quiet nothing leads, ?_⟩
          apply below_of_stage
          simp [Relay.stage, here, quiet, source]
      | ok made =>
          obtain ⟨header, ciphertext⟩ := made
          obtain ⟨bytes, bodyNonce, wrappedKeys, read, rfl, opens⟩ :=
            prepareRelayFile_ok matched prepared
          simp only [prepared, read] at leads ⊢
          refine ⟨.header entry index rest bytes.length bodyNonce wrappedKeys ciphertext bytes here
            trivial quiet ?_ opens leads, ?_⟩
          · simp only [Relay.coming, nothing, SourcePhase.framesLeft, List.nil_append]
          · apply below_of_stage
            simp [Relay.stage, here, quiet, source]
  | _ => simp_all [SourcePhase.Serving]

/-- A source that refuses a request waits for the next one. -/
theorem refusing_moves (inStep : e.InStep result s) {reason : String}
    (refuses : s.source = .refusing reason) : Moves e result s (e.sourceStep s) := by
  cases inStep with
  | refusing entry index rest given here source quiet nothing leads =>
      cases refuses.symm.trans source
      simp only [sourceStep, source]
      refine ⟨.refused entry index rest reason here trivial quiet ?_ leads, ?_⟩
      · simp only [Relay.coming, nothing, SourcePhase.framesLeft, List.nil_append, List.append_nil]
      · apply below_of_stage
        simp [Relay.stage, here, quiet, source]
  | _ => simp_all [SourcePhase.Serving]

theorem sending_moves (inStep : e.InStep result s) {token : String} {index : Nat}
    {frames : List Message} (sending : s.source = .sending token index frames) :
    Moves e result s (e.sourceStep s) := by
  have serving : s.source.Serving := by
    rw [sending]
    trivial
  exact ⟨inStep.of_sameView serving (sending_sameView sending), sending_below sending⟩

/-- The source's step, while the two sides are in step. -/
theorem source_moves (matched : e.Matched) (inStep : e.InStep result s) :
    e.sourceStep s = s ∨ Moves e result s (e.sourceStep s) := by
  cases source : s.source with
  | waiting => exact waiting_moves inStep source
  | preparing token index path => exact Or.inr (preparing_moves matched inStep source)
  | sending token index frames => exact Or.inr (sending_moves inStep source)
  | refusing reason => exact Or.inr (refusing_moves inStep source)
  | stopped =>
      left
      simp only [sourceStep, source]

/-! ### The recipient -/

theorem serving_ne_stopped (serving : s.source.Serving) : s.source ≠ .stopped := by
  intro stopped
  rw [stopped] at serving
  exact serving

/-- The frame at the front of the queue is the next of those to come. -/
theorem next_coming {message frame : Message} {later frames : List Message}
    (queue : s.toRecipient = message :: later) (coming : s.coming = frame :: frames) :
    message = frame ∧ later ++ s.source.framesLeft = frames := by
  rw [Relay.coming, queue, List.cons_append] at coming
  exact List.cons.inj coming

theorem recipientStep_noHeader {entry : FileEntry} {index : Nat} {rest : List (FileEntry × Nat)}
    (here : s.recipient = .awaitingHeader entry index rest) (nothing : s.toRecipient = [])
    (runs : s.source ≠ .stopped) : e.recipientStep s = s := by
  cases source : s.source with
  | stopped => exact absurd source runs
  | _ => simp only [recipientStep, here, nothing, source]

theorem recipientStep_noBody {entry : FileEntry} {index : Nat} {rest : List (FileEntry × Nat)}
    {bodyNonce : String} {wrappedKeys : List WrappedKey} {ciphertext : List UInt8}
    (here : s.recipient = .awaitingBody entry index rest bodyNonce wrappedKeys ciphertext)
    (nothing : s.toRecipient = []) (runs : s.source ≠ .stopped) : e.recipientStep s = s := by
  cases source : s.source with
  | stopped => exact absurd source runs
  | _ => simp only [recipientStep, here, nothing, source]

theorem toRecipient_nil (coming : s.coming = []) : s.toRecipient = [] :=
  (List.append_eq_nil_iff.mp coming).1

/-- A recipient with its missing files before it asks for the next one, or is done. -/
theorem requesting_moves {missing : List (FileEntry × Nat)}
    (here : s.recipient = .requesting missing) (serving : s.source.Serving)
    (quiet : s.toSource = []) (coming : s.coming = [])
    (leads : e.serially missing s.settled s.got = result) :
    Moves e result s (e.recipientStep s) := by
  cases missing with
  | nil =>
      simp only [recipientStep, here]
      refine ⟨.ended (.ok ()) rfl (Or.inl serving) quiet coming leads, ?_⟩
      apply below_of_stage
      simp only [Relay.stage, here, List.length_nil]
      split <;> omega
  | cons file rest =>
      obtain ⟨entry, index⟩ := file
      simp only [recipientStep, here]
      refine ⟨.asked entry index rest rfl serving ?_ coming leads, ?_⟩
      · simp only [quiet, List.nil_append]
      · apply below_of_stage
        simp only [Relay.stage, here, quiet, List.nil_append, List.length_cons, ne_eq,
          reduceCtorEq, not_false_eq_true, if_true]
        omega

/-- A recipient that waits for a header and is refused the file. -/
theorem refused_moves {entry : FileEntry} {index : Nat} {rest : List (FileEntry × Nat)}
    {reason : String} (here : s.recipient = .awaitingHeader entry index rest)
    (serving : s.source.Serving) (quiet : s.toSource = [])
    (coming : s.coming = [.control (.error reason)])
    (leads : e.onward entry index rest (.error reason, s.settled) s.got = result)
    {message : Message} {later : List Message} (queue : s.toRecipient = message :: later) :
    Moves e result s (e.recipientStep s) := by
  obtain ⟨rfl, following⟩ := next_coming queue coming
  simp only [recipientStep, here, queue, Message.control, recvFileHeader]
  refine ⟨.ended _ rfl (Or.inl serving) quiet following leads, ?_⟩
  apply below_of_stage
  simp only [Relay.stage, here]
  split <;> omega

/-- A recipient that waits for a header and finds a frame. -/
theorem header_moves {entry : FileEntry} {index : Nat} {rest : List (FileEntry × Nat)}
    {size : Nat} {bodyNonce : String} {wrappedKeys : List WrappedKey}
    {ciphertext bytes : List UInt8} (here : s.recipient = .awaitingHeader entry index rest)
    (serving : s.source.Serving) (quiet : s.toSource = [])
    (coming : s.coming =
      relayFrames (.fileHeader index size bodyNonce wrappedKeys) ciphertext index)
    (opens : e.openRelayed bodyNonce wrappedKeys ciphertext = .ok bytes)
    (leads : e.onward entry index rest (.ok bytes, s.settled) s.got = result)
    {message : Message} {later : List Message} (queue : s.toRecipient = message :: later) :
    Moves e result s (e.recipientStep s) := by
  obtain ⟨rfl, following⟩ := next_coming queue coming
  simp only [recipientStep, here, queue, Message.control, recvFileHeader, if_true]
  refine ⟨.body entry index rest bodyNonce wrappedKeys [] (chunks relayChunkBytes ciphertext)
    bytes rfl serving quiet following ?_ leads, ?_⟩
  · rw [flatten_chunks, List.nil_append]
    exact opens
  · apply below_of_stage
    simp only [Relay.stage, here, quiet, ne_eq, not_true, if_false]
    split <;> omega

/-- A recipient that waits for the rest of a body and finds a frame. -/
theorem body_moves {entry : FileEntry} {index : Nat} {rest : List (FileEntry × Nat)}
    {bodyNonce : String} {wrappedKeys : List WrappedKey} {ciphertext : List UInt8}
    {parts : List (List UInt8)} {bytes : List UInt8}
    (here : s.recipient = .awaitingBody entry index rest bodyNonce wrappedKeys ciphertext)
    (serving : s.source.Serving) (quiet : s.toSource = [])
    (coming : s.coming = parts.map Message.binary ++ [.control (.fileEnd index)])
    (opens : e.openRelayed bodyNonce wrappedKeys (ciphertext ++ parts.flatten) = .ok bytes)
    (leads : e.onward entry index rest (.ok bytes, s.settled) s.got = result)
    {message : Message} {later : List Message} (queue : s.toRecipient = message :: later) :
    Moves e result s (e.recipientStep s) := by
  cases parts with
  | nil =>
      obtain ⟨rfl, following⟩ := next_coming queue coming
      rw [List.flatten_nil, List.append_nil] at opens
      simp only [recipientStep, here, queue, Message.control, recvFileBody]
      refine ⟨.storing entry index rest bodyNonce wrappedKeys ciphertext bytes rfl serving quiet
        following opens leads, ?_⟩
      apply below_of_stage
      simp only [Relay.stage, here]
      omega
  | cons part parts =>
      obtain ⟨rfl, following⟩ := next_coming queue coming
      simp only [recipientStep, here, queue, recvFileBody]
      refine ⟨.body entry index rest bodyNonce wrappedKeys (ciphertext ++ part) parts bytes rfl
        serving quiet following ?_ leads, ?_⟩
      · rw [List.append_assoc]
        exact opens
      · apply below_of_frames
        · simp only [Relay.stage, here]
        · simp only [Relay.frames, queue, List.length_cons]
          omega

/-- A recipient that has a file goes on to the next, or stops. -/
theorem storing_moves {entry : FileEntry} {index : Nat} {rest : List (FileEntry × Nat)}
    {bodyNonce : String} {wrappedKeys : List WrappedKey} {ciphertext bytes : List UInt8}
    (here : s.recipient = .storing entry index rest bodyNonce wrappedKeys ciphertext)
    (serving : s.source.Serving) (quiet : s.toSource = []) (coming : s.coming = [])
    (opens : e.openRelayed bodyNonce wrappedKeys ciphertext = .ok bytes)
    (leads : e.onward entry index rest (.ok bytes, s.settled) s.got = result) :
    Moves e result s (e.recipientStep s) := by
  simp only [recipientStep, here, opens]
  simp only [onward, takeServed] at leads
  generalize e.takeFile entry index bytes s.got = taken at leads ⊢
  obtain ⟨outcome, got⟩ := taken
  cases outcome with
  | error failure =>
      refine ⟨.ended (.error failure) rfl (Or.inl serving) quiet coming leads, ?_⟩
      apply below_of_stage
      simp only [Relay.stage, here]
      split <;> omega
  | ok done =>
      refine ⟨.requesting rest rfl serving quiet coming leads, ?_⟩
      apply below_of_stage
      simp only [Relay.stage, here]
      omega

/-- The recipient's step, while the two sides are in step. -/
theorem recipient_moves (inStep : e.InStep result s) :
    e.recipientStep s = s ∨ Moves e result s (e.recipientStep s) := by
  cases inStep with
  | requesting missing here serving quiet coming leads =>
      exact Or.inr (requesting_moves here serving quiet coming leads)
  | asked entry index rest here serving request coming leads =>
      exact Or.inl (recipientStep_noHeader here (toRecipient_nil coming)
        (serving_ne_stopped serving))
  | preparing entry index rest path here source quiet nothing leads =>
      exact Or.inl (recipientStep_noHeader here nothing (by rw [source]; nofun))
  | refusing entry index rest reason here source quiet nothing leads =>
      exact Or.inl (recipientStep_noHeader here nothing (by rw [source]; nofun))
  | refused entry index rest reason here serving quiet coming leads =>
      cases queue : s.toRecipient with
      | nil => exact Or.inl (recipientStep_noHeader here queue (serving_ne_stopped serving))
      | cons message later =>
          exact Or.inr (refused_moves here serving quiet coming leads queue)
  | header entry index rest size bodyNonce wrappedKeys ciphertext bytes here serving quiet coming
      opens leads =>
      cases queue : s.toRecipient with
      | nil => exact Or.inl (recipientStep_noHeader here queue (serving_ne_stopped serving))
      | cons message later =>
          exact Or.inr (header_moves here serving quiet coming opens leads queue)
  | body entry index rest bodyNonce wrappedKeys ciphertext parts bytes here serving quiet coming
      opens leads =>
      cases queue : s.toRecipient with
      | nil => exact Or.inl (recipientStep_noBody here queue (serving_ne_stopped serving))
      | cons message later =>
          exact Or.inr (body_moves here serving quiet coming opens leads queue)
  | storing entry index rest bodyNonce wrappedKeys ciphertext bytes here serving quiet coming
      opens leads =>
      exact Or.inr (storing_moves here serving quiet coming opens leads)
  | ended outcome here serving quiet coming leads =>
      left
      simp only [recipientStep, here]

/-! ### Both sides -/

theorem step_moves (matched : e.Matched) (inStep : e.InStep result s) (party : RelayParty) :
    e.step s party = s ∨ Moves e result s (e.step s party) := by
  cases party with
  | source => exact source_moves matched inStep
  | recipient => exact recipient_moves inStep

/-- While the source waits, either side has a step to take. -/
theorem someone_moves_waiting (inStep : e.InStep result s) (waits : s.source = .waiting) :
    ∃ party, Moves e result s (e.step s party) := by
  have all : s.coming = s.toRecipient := coming_waiting waits
  cases inStep with
  | requesting missing here serving quiet coming leads =>
      exact ⟨.recipient, requesting_moves here serving quiet coming leads⟩
  | asked entry index rest here serving request coming leads =>
      exact ⟨.source, asked_moves here waits request coming leads⟩
  | refused entry index rest reason here serving quiet coming leads =>
      exact ⟨.recipient, refused_moves here serving quiet coming leads (all ▸ coming)⟩
  | header entry index rest size bodyNonce wrappedKeys ciphertext bytes here serving quiet coming
      opens leads =>
      exact ⟨.recipient, header_moves here serving quiet coming opens leads (all ▸ coming)⟩
  | body entry index rest bodyNonce wrappedKeys ciphertext parts bytes here serving quiet coming
      opens leads =>
      cases queue : s.toRecipient with
      | nil => simp [all, queue] at coming
      | cons message later =>
          exact ⟨.recipient, body_moves here serving quiet coming opens leads queue⟩
  | storing entry index rest bodyNonce wrappedKeys ciphertext bytes here serving quiet coming
      opens leads =>
      exact ⟨.recipient, storing_moves here serving quiet coming opens leads⟩
  | ended outcome here serving quiet coming leads =>
      exact ⟨.source, ended_moves here waits quiet coming leads⟩
  | preparing entry index rest path here source quiet nothing leads =>
      rw [waits] at source
      cases source
  | refusing entry index rest reason here source quiet nothing leads =>
      rw [waits] at source
      cases source

theorem finished_of_stopped (inStep : e.InStep result s) (stopped : s.source = .stopped) :
    s.Finished := by
  cases inStep with
  | ended outcome here serving quiet coming leads => exact ⟨stopped, outcome, here⟩
  | _ => simp_all [SourcePhase.Serving]

/-- Nobody waits for ever. -/
theorem someone_moves (matched : e.Matched) (inStep : e.InStep result s)
    (unfinished : ¬ s.Finished) : ∃ party, Moves e result s (e.step s party) := by
  cases source : s.source with
  | waiting => exact someone_moves_waiting inStep source
  | preparing token index path => exact ⟨.source, preparing_moves matched inStep source⟩
  | sending token index frames => exact ⟨.source, sending_moves inStep source⟩
  | refusing reason => exact ⟨.source, refusing_moves inStep source⟩
  | stopped => exact absurd (finished_of_stopped inStep source) unfinished

/-! ## Whole sessions -/

theorem inStep_start (e : RelayExchange Key PathBuf) (registry : PeerFileRegistry PathBuf)
    (receiving : Receiving) :
    e.InStep (e.session registry receiving) (e.start registry receiving) := by
  simp only [session, start]
  generalize e.prepareDownload receiving = prepared
  obtain ⟨next, receiving⟩ := prepared
  cases next with
  | error outcome => exact .ended outcome rfl (Or.inl trivial) rfl rfl rfl
  | ok missing => exact .requesting missing rfl trivial rfl rfl rfl

theorem inStep_step (matched : e.Matched) (inStep : e.InStep result s) (party : RelayParty) :
    e.InStep result (e.step s party) := by
  rcases step_moves matched inStep party with waits | moves
  · rw [waits]
    exact inStep
  · exact moves.inStep

/-- Under a fair schedule both sides return. -/
theorem finishes (matched : e.Matched) (inStep : e.InStep result s)
    {schedule : Nat → RelayParty} (fair : Fair schedule) :
    ∃ n, (scheduled e.step s schedule n).Finished := by
  have down : ∀ s party, e.InStep result s →
      e.step s party = s ∨ Below (e.step s party).measure s.measure := by
    intro s party inStep
    exact (step_moves matched inStep party).imp_right Moves.below
  have progress : ∀ s, e.InStep result s → ¬ s.Finished → ∃ party, e.step s party ≠ s := by
    intro s inStep unfinished
    obtain ⟨party, moves⟩ := someone_moves matched inStep unfinished
    refine ⟨party, fun waits => below_wf.irrefl.irrefl s.measure ?_⟩
    have below := moves.below
    rw [waits] at below
    exact below
  exact fair_ends below_wf down (fun _ party inStep => inStep_step matched inStep party) progress
    fair inStep

end RelayExchange

end AirPaste.Agent
