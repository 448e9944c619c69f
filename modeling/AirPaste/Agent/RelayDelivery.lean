/-
# Agent.RelayDelivery — what a relay session delivers

A session comes to its serial result (`Agent.RelayProtocol`); here is what that result is.
`Books` relates what both sides keep to the files delivered: each was received as the
source holds it, the source consumed just the indexes it sent, and the recipient recorded
just the files delivered.  `RelayEnding` says why a session ended where it did.

`relay_exchange`: under every fair schedule the session ends, and so, however the two sides
took turns.  A session also ends at a file that is not the one the manifest announces:
`Changed.first_file_ends` is one that refuses nothing and leaves the second file missing.

`session_downloadViaRelay`: the download of Agent.Download, from a relay that answers with
what the session delivers, comes to the same.
-/
import AirPaste.Agent.RelayProtocol

namespace AirPaste.Agent

open AirPaste.Core
open AirPaste.Crypto
open AirPaste.Theory
open AirPaste.Theory.Machine

set_option autoImplicit false

/-- The grant with these indexes of it consumed. -/
def PeerFileGrant.consumed {PathBuf : Type} (grant : PeerFileGrant PathBuf) (indexes : List Nat) :
    PeerFileGrant PathBuf :=
  { grant with servedIndexes := grant.servedIndexes ∪ indexes.toFinset }

namespace RelayExchange

variable {Key PathBuf : Type} (e : RelayExchange Key PathBuf)

abbrev token : String := e.fileClip.transferToken.asStr

/-- Where the recipient puts a file. -/
def destination (entry : FileEntry) : LexPath String :=
  safeCachePath (clipCacheDir e.cacheDir e.fileClip) entry.relativePath entry.displayName

/-- The grant for the clip has a file for this index, and these are its bytes. -/
def SourceFile (registry : PeerFileRegistry PathBuf) (index : Nat) (bytes : List UInt8) : Prop :=
  ∃ grant path, registry e.token = some grant ∧ grant.paths[index]? = some path ∧
    e.contents path = .ok bytes

/-- The registry since the session began: of the grant for the clip just the indexes sent are
consumed and no others are in flight; every other grant is as it was.  A grant is gone only
if it expired at a claim. -/
structure Balanced (registry : PeerFileRegistry PathBuf) (served : SourceBooks PathBuf) : Prop where
  grants : ∀ token grant, served.registry token = some grant →
    ∃ before, registry token = some before ∧
      grant = if token = e.token then before.consumed served.sent else before
  present : ∀ token before, registry token = some before →
    (∀ claim < served.claims,
      (e.clock claim).1 < before.expiresAt ∧ (e.clock claim).2 ≤ before.expiresAt) →
    ∃ grant, served.registry token = some grant

/-- What both sides keep once these files of the clip are delivered.  `last` is the file
received that is not, `refused` what the source refused. -/
structure Books (registry : PeerFileRegistry PathBuf) (receiving : Receiving)
    (delivered : List (FileEntry × Nat)) (last : List Nat) (refused : List (Nat × String))
    (served : SourceBooks PathBuf) (got : RecipientBooks) : Prop where
  balanced : e.Balanced registry served
  indexes : got.obtained.map Prod.fst = delivered.map Prod.snd ++ last
  files : ∀ index bytes, (index, bytes) ∈ got.obtained → e.SourceFile registry index bytes
  sent : served.sent = got.obtained.map Prod.fst
  refused : served.refused = refused
  recorded : ∀ entry index, (entry, index) ∈ delivered →
    got.receiving.downloaded index = some (e.destination entry)
  others : ∀ index, index ∉ delivered.map Prod.snd →
    got.receiving.downloaded index = receiving.downloaded index

/-- The directory of the file cannot be created, or the file not be written. -/
def Unwritable (machine : Receiver) (entry : FileEntry) (index : Nat) (bytes : List UInt8) : Prop :=
  let (created, after) := createParent e.surroundings machine index (e.destination entry)
  created = false ∨
    (after.write e.surroundings.fault (some index) (e.destination entry) bytes).1 = false

/-- Why a session ended, with these files delivered and the rest not. -/
inductive RelayEnding (registry : PeerFileRegistry PathBuf) (receiving : Receiving) :
    (delivered rest : List (FileEntry × Nat)) → Except Failure Unit → (last : List Nat) →
      (refused : List (Nat × String)) → Prop where
  | complete (delivered : List (FileEntry × Nat)) :
      RelayEnding registry receiving delivered [] (.ok ()) [] []
  /-- The source rejects the claim for the next file, or cannot read or seal it. -/
  | refused (delivered : List (FileEntry × Nat)) (entry : FileEntry) (index : Nat)
      (rest : List (FileEntry × Nat)) (reason : String) (served : SourceBooks PathBuf)
      (balanced : e.Balanced registry served) (sent : served.sent = delivered.map Prod.snd)
      (answer : (e.serveFile index served).1 = .error reason) :
      RelayEnding registry receiving delivered ((entry, index) :: rest)
        (.error (.text ("relay source error: " ++ reason))) [] [(index, reason)]
  /-- The file of the source is not the one the manifest announces. -/
  | unfit (delivered : List (FileEntry × Nat)) (entry : FileEntry) (index : Nat)
      (rest : List (FileEntry × Nat)) (bytes : List UInt8) (message : String)
      (file : e.SourceFile registry index bytes)
      (fails : checkRelayed e.surroundings entry bytes = .error message) :
      RelayEnding registry receiving delivered ((entry, index) :: rest) (.error (.text message))
        [index] []
  | unwritten (delivered : List (FileEntry × Nat)) (entry : FileEntry) (index : Nat)
      (rest : List (FileEntry × Nat)) (bytes : List UInt8) (machine : Receiver)
      (file : e.SourceFile registry index bytes)
      (blocked : e.Unwritable machine entry index bytes) :
      RelayEnding registry receiving delivered ((entry, index) :: rest) (.error .io) [index] []
  /-- The directory of the clip cannot be created. -/
  | unmade (rest : List (FileEntry × Nat))
      (blocked : (receiving.machine.createDirAll e.surroundings.fault none
        (clipCacheDir e.cacheDir e.fileClip)).1 = false) :
      RelayEnding registry receiving [] rest (.error .io) [] []

variable {e} {registry : PeerFileRegistry PathBuf} {receiving : Receiving}
  {served : SourceBooks PathBuf} {got : RecipientBooks}

/-! ## The source -/

theorem commit_reserved {registry : PeerFileRegistry PathBuf} {token : String} {index : Nat}
    {grant : PeerFileGrant PathBuf} (free : index ∉ grant.inFlight) :
    PeerFileRegistry.commitServed
        (Function.update registry token
          (some { grant with inFlight := insert index grant.inFlight })) token index =
      Function.update registry token
        (some { grant with servedIndexes := insert index grant.servedIndexes }) := by
  simp only [PeerFileRegistry.commitServed, PeerFileRegistry.modify, Function.update_self,
    Function.update_idem, Option.map_some, Finset.erase_insert free]

theorem release_reserved {registry : PeerFileRegistry PathBuf} {token : String} {index : Nat}
    {grant : PeerFileGrant PathBuf} (stored : registry token = some grant)
    (free : index ∉ grant.inFlight) :
    PeerFileRegistry.release
        (Function.update registry token
          (some { grant with inFlight := insert index grant.inFlight })) token index =
      registry := by
  simp only [PeerFileRegistry.release, PeerFileRegistry.modify, Function.update_self,
    Function.update_idem, Option.map_some, Finset.erase_insert free]
  exact Function.update_eq_self_iff.mpr stored.symm

/-- A claim changes nothing beyond grants that have expired. -/
theorem balanced_claimed (balanced : e.Balanced registry served)
    {after : PeerFileRegistry PathBuf} {refused : List (Nat × String)}
    (back : ∀ token grant, after token = some grant → served.registry token = some grant)
    (kept : ∀ token grant, served.registry token = some grant →
      (e.clock served.claims).1 < grant.expiresAt → (e.clock served.claims).2 ≤ grant.expiresAt →
      after token = some grant) :
    e.Balanced registry
      { served with registry := after, claims := served.claims + 1, refused := refused } where
  grants token grant stored := balanced.grants token grant (back token grant stored)
  present token before stored live := by
    obtain ⟨grant, here⟩ := balanced.present token before stored fun claim earlier =>
      live claim (Nat.lt_succ_of_lt earlier)
    obtain ⟨same, also, terms⟩ := balanced.grants token grant here
    cases stored.symm.trans also
    have expires : grant.expiresAt = before.expiresAt := by
      rw [terms]
      split <;> rfl
    obtain ⟨now, later⟩ := live served.claims (Nat.lt_succ_self _)
    exact ⟨grant, kept token grant here (by rw [expires]; exact now)
      (by rw [expires]; exact later)⟩

theorem balanced_cleaned (balanced : e.Balanced registry served) (refused : List (Nat × String)) :
    e.Balanced registry
      { served with
        registry := cleanupExpired (e.clock served.claims).1 served.registry
        claims := served.claims + 1
        refused := refused } :=
  balanced_claimed balanced (fun _ _ found => (cleanupExpired_eq_some_iff.mp found).1)
    fun _ _ stored now _ => cleanupExpired_eq_some_iff.mpr ⟨stored, now⟩

/-- The grant expires at the claim. -/
theorem balanced_expired (balanced : e.Balanced registry served) {grant : PeerFileGrant PathBuf}
    (stored : served.registry e.token = some grant)
    (late : grant.expiresAt < (e.clock served.claims).2) {refused : List (Nat × String)} :
    e.Balanced registry
      { served with
        registry :=
          Function.update (cleanupExpired (e.clock served.claims).1 served.registry) e.token none
        claims := served.claims + 1
        refused := refused } := by
  apply balanced_claimed balanced
  · intro token found same
    by_cases own : token = e.token
    · rw [own, Function.update_self] at same
      cases same
    · rw [Function.update_of_ne own] at same
      exact (cleanupExpired_eq_some_iff.mp same).1
  · intro token found here now inTime
    have own : token ≠ e.token := by
      rintro rfl
      cases stored.symm.trans here
      exact absurd late (not_lt.mpr inTime)
    rw [Function.update_of_ne own]
    exact cleanupExpired_eq_some_iff.mpr ⟨here, now⟩

/-- Sending a file consumes its index. -/
theorem balanced_sent (balanced : e.Balanced registry served) {index : Nat}
    {grant : PeerFileGrant PathBuf} (stored : served.registry e.token = some grant) :
    e.Balanced registry
      { served with
        registry := Function.update served.registry e.token
          (some { grant with servedIndexes := insert index grant.servedIndexes })
        sent := served.sent ++ [index] } where
  grants token found same := by
    rcases update_eq_some_iff.mp same with ⟨rfl, rfl⟩ | ⟨other, here⟩
    · obtain ⟨before, first, terms⟩ := balanced.grants _ grant stored
      rw [if_pos rfl] at terms
      refine ⟨before, first, ?_⟩
      rw [if_pos rfl, terms]
      have sets : insert index (before.servedIndexes ∪ served.sent.toFinset) =
          before.servedIndexes ∪ (served.sent ++ [index]).toFinset := by
        ext i
        simp only [Finset.mem_insert, Finset.mem_union, List.mem_toFinset, List.mem_append,
          List.mem_singleton]
        tauto
      simp only [PeerFileGrant.consumed, sets]
    · obtain ⟨before, first, terms⟩ := balanced.grants _ found here
      rw [if_neg other] at terms
      exact ⟨before, first, by rw [if_neg other, terms]⟩
  present token before first live := by
    obtain ⟨found, here⟩ := balanced.present token before first live
    by_cases own : token = e.token
    · exact ⟨_, update_eq_some_iff.mpr (Or.inl ⟨own, rfl⟩)⟩
    · exact ⟨found, update_eq_some_iff.mpr (Or.inr ⟨own, here⟩)⟩

theorem prepareRelayFile_read {claims : Nat} {path : PathBuf} {index : Nat}
    {prepared : RelayControl × List UInt8}
    (made : e.prepareRelayFile claims path index = .ok prepared) :
    ∃ bytes, e.contents path = .ok bytes := by
  simp only [prepareRelayFile, bind_ok_iff, mapError_ok_iff] at made
  obtain ⟨bytes, read, -⟩ := made
  exact ⟨bytes, read⟩

/-- Everything the source can answer to a request, and what it keeps then. -/
inductive Answered (e : RelayExchange Key PathBuf) (registry : PeerFileRegistry PathBuf)
    (index : Nat) (served : SourceBooks PathBuf) :
    Except String (List UInt8) × SourceBooks PathBuf → Prop where
  | refused (reason : String) (after : SourceBooks PathBuf) (balanced : e.Balanced registry after)
      (sent : after.sent = served.sent)
      (refused : after.refused = served.refused ++ [(index, reason)]) :
      Answered e registry index served (.error reason, after)
  | served (bytes : List UInt8) (after : SourceBooks PathBuf) (balanced : e.Balanced registry after)
      (file : e.SourceFile registry index bytes) (sent : after.sent = served.sent ++ [index])
      (refused : after.refused = served.refused) :
      Answered e registry index served (.ok bytes, after)

theorem serveFile_answered (balanced : e.Balanced registry served) (index : Nat) :
    Answered e registry index served (e.serveFile index served) := by
  have outcome := claim_outcome e.signatureCrates served.registry (e.clock served.claims).1
    (e.clock served.claims).2 e.fileClip.transferToken.asStr index
    ⟨e.clipId.asStr, e.sourceDeviceId.asStr, e.requesterDeviceId.asStr, peerFileSignatureAlg,
      e.signPeerFileRequest index⟩
  simp only [serveFile, claimRequested, PeerFileRegistry.claimRelayFile]
  generalize served.registry.claim e.signatureCrates (e.clock served.claims).1
    (e.clock served.claims).2 e.fileClip.transferToken.asStr index
    ⟨e.clipId.asStr, e.sourceDeviceId.asStr, e.requesterDeviceId.asStr, peerFileSignatureAlg,
      e.signPeerFileRequest index⟩ = claimed at outcome ⊢
  cases outcome with
  | available grant path claimable =>
      have stored : cleanupExpired (e.clock served.claims).1 served.registry e.token =
          some grant :=
        cleanupExpired_eq_some_iff.mpr ⟨claimable.stored, claimable.live⟩
      simp only [PeerFileRegistry.relayAnswer, servePrepared]
      cases prepared : e.prepareRelayFile (served.claims + 1) path index with
      | error reason =>
          refine .refused reason _ ?_ rfl rfl
          simp only [giveUp, release_reserved stored claimable.notInFlight]
          exact balanced_cleaned balanced _
      | ok made =>
          obtain ⟨bytes, read⟩ := prepareRelayFile_read prepared
          simp only [read]
          refine .served bytes _ ?_ ?_ rfl rfl
          · simp only [commit, noteSent, commit_reserved claimable.notInFlight]
            exact balanced_sent (balanced_cleaned balanced served.refused) stored
          · obtain ⟨before, first, terms⟩ := balanced.grants _ grant claimable.stored
            rw [if_pos rfl] at terms
            refine ⟨before, path, first, ?_, read⟩
            have file := claimable.file
            rw [terms] at file
            exact file
  | refused answer refuses inTime =>
      cases answer with
      | available path => exact absurd rfl (refuses path)
      | _ => exact .refused _ _ (balanced_cleaned balanced _) rfl rfl
  | expired grant stored live late =>
      exact .refused _ _ (balanced_expired balanced stored late) rfl rfl

/-! ## The recipient -/

/-- Everything that can come of a file received. -/
inductive Taken (e : RelayExchange Key PathBuf) (entry : FileEntry) (index : Nat)
    (bytes : List UInt8) (got : RecipientBooks) : Except Failure Unit × RecipientBooks → Prop where
  | unfit (message : String) (machine : Receiver)
      (fails : checkRelayed e.surroundings entry bytes = .error message) :
      Taken e entry index bytes got
        (.error (.text message),
          ⟨{ got.receiving with machine := machine }, got.obtained ++ [(index, bytes)]⟩)
  | unwritten (machine : Receiver)
      (blocked : e.Unwritable got.receiving.machine entry index bytes) :
      Taken e entry index bytes got
        (.error .io, ⟨{ got.receiving with machine := machine }, got.obtained ++ [(index, bytes)]⟩)
  | written (machine : Receiver) :
      Taken e entry index bytes got
        (.ok (),
          ⟨⟨machine, Function.update got.receiving.downloaded index (some (e.destination entry))⟩,
            got.obtained ++ [(index, bytes)]⟩)

theorem takeFile_taken (entry : FileEntry) (index : Nat) (bytes : List UInt8)
    (got : RecipientBooks) : Taken e entry index bytes got (e.takeFile entry index bytes got) := by
  have checks : checkRelayed { e.surroundings with relayed := fun _ => some bytes } entry bytes =
      checkRelayed e.surroundings entry bytes := rfl
  simp only [takeFile, fetchRelayed, checks]
  cases check : checkRelayed e.surroundings entry bytes with
  | error message => exact .unfit message _ check
  | ok done =>
      simp only
      have parents : createParent { e.surroundings with relayed := fun _ => some bytes }
          got.receiving.machine index (e.destination entry) =
          createParent e.surroundings got.receiving.machine index (e.destination entry) := rfl
      rw [show safeCachePath (clipCacheDir e.cacheDir e.fileClip) entry.relativePath
        entry.displayName = e.destination entry from rfl, parents]
      cases made : createParent e.surroundings got.receiving.machine index
        (e.destination entry) with
      | mk created machine =>
          cases created with
          | false =>
              refine .unwritten machine ?_
              simp only [Unwritable, made, true_or]
          | true =>
              cases wrote : machine.write e.surroundings.fault (some index) (e.destination entry)
                  bytes with
              | mk success after =>
                  cases success with
                  | false =>
                      simp only [wrote]
                      refine .unwritten after ?_
                      simp only [Unwritable, made, wrote, or_true]
                  | true =>
                      simp only [wrote]
                      exact .written after

/-! ## File after file -/

theorem missingFiles_distinct (fileClip : FileClip)
    (downloaded : Nat → Option (LexPath String)) :
    ((missingFiles fileClip downloaded).map Prod.snd).Nodup := by
  have sublist : ((missingFiles fileClip downloaded).map Prod.snd).Sublist
      (fileClip.files.zipIdx.map Prod.snd) :=
    List.filter_sublist.map _
  rw [List.zipIdx_map_snd] at sublist
  exact List.Nodup.sublist sublist List.nodup_range'

/-- A further file is received. -/
theorem Books.received {delivered : List (FileEntry × Nat)}
    (books : e.Books registry receiving delivered [] [] served got) {index : Nat}
    {bytes : List UInt8} (file : e.SourceFile registry index bytes)
    {after : SourceBooks PathBuf} (balanced : e.Balanced registry after)
    (sent : after.sent = served.sent ++ [index]) (same : after.refused = served.refused)
    (machine : Receiver) :
    e.Books registry receiving delivered [index] [] after
      ⟨{ got.receiving with machine := machine }, got.obtained ++ [(index, bytes)]⟩ where
  balanced := balanced
  indexes := by
    rw [List.map_append, books.indexes, List.append_nil]
    rfl
  files other content member := by
    rcases List.mem_append.mp member with earlier | here
    · exact books.files other content earlier
    · cases List.mem_singleton.mp here
      exact file
  sent := by
    rw [sent, books.sent, List.map_append]
    rfl
  refused := same.trans books.refused
  recorded := books.recorded
  others := books.others

/-- A file received is written and recorded. -/
theorem Books.written {delivered : List (FileEntry × Nat)} {entry : FileEntry} {index : Nat}
    {obtained : List (Nat × List UInt8)} {machine : Receiver}
    (books : e.Books registry receiving delivered [index] [] served
      ⟨{ got.receiving with machine := machine }, obtained⟩)
    (fresh : index ∉ delivered.map Prod.snd) :
    e.Books registry receiving (delivered ++ [(entry, index)]) [] [] served
      ⟨⟨machine, Function.update got.receiving.downloaded index (some (e.destination entry))⟩,
        obtained⟩ where
  balanced := books.balanced
  indexes := by
    rw [books.indexes, List.map_append, List.append_nil]
    rfl
  files := books.files
  sent := books.sent
  refused := books.refused
  recorded other i member := by
    rcases List.mem_append.mp member with earlier | here
    · have ne : i ≠ index := fun same =>
        fresh (same ▸ List.mem_map.mpr ⟨(other, i), earlier, rfl⟩)
      exact (Function.update_of_ne ne _ _).trans (books.recorded other i earlier)
    · cases List.mem_singleton.mp here
      exact Function.update_self ..
  others i absent := by
    rw [List.map_append, List.mem_append, not_or] at absent
    have ne : i ≠ index := fun same => absent.2 (same ▸ List.mem_singleton_self _)
    exact (Function.update_of_ne ne _ _).trans (books.others i absent.1)

/-- The loop over the missing files, with some delivered before. -/
theorem serially_books {missing : List (FileEntry × Nat)} :
    ∀ {delivered served got}, (((delivered ++ missing).map Prod.snd).Nodup) →
      e.Books registry receiving delivered [] [] served got →
      ∃ delivered' rest last refused,
        delivered ++ missing = delivered' ++ rest ∧
        e.RelayEnding registry receiving delivered' rest (e.serially missing served got).1 last
          refused ∧
        e.Books registry receiving delivered' last refused (e.serially missing served got).2.1
          (e.serially missing served got).2.2 := by
  induction missing with
  | nil =>
      intro delivered served got distinct books
      exact ⟨delivered, [], [], [], rfl, .complete delivered, books⟩
  | cons file rest ih =>
      obtain ⟨entry, index⟩ := file
      intro delivered served got distinct books
      simp only [serially]
      have answered := serveFile_answered books.balanced index
      cases answer : e.serveFile index served with
      | mk answers after =>
          rw [answer] at answered
          cases answered with
          | refused reason _ balanced sent refused =>
              refine ⟨delivered, (entry, index) :: rest, [], [(index, reason)], rfl, ?_, ?_⟩
              · have indexes := books.indexes
                rw [List.append_nil, ← books.sent] at indexes
                exact .refused delivered entry index rest reason served books.balanced indexes
                  (by rw [answer])
              · exact { books with
                  balanced := balanced
                  sent := sent.trans books.sent
                  refused := refused.trans (by rw [books.refused, List.nil_append]) }
          | served bytes _ balanced file sent refused =>
              simp only [takeServed]
              have received := books.received file balanced sent refused
              have taken := takeFile_taken (e := e) entry index bytes got
              generalize e.takeFile entry index bytes got = took at taken ⊢
              cases taken with
              | unfit message machine fails =>
                  exact ⟨delivered, (entry, index) :: rest, [index], [], rfl,
                    .unfit delivered entry index rest bytes message file fails, received machine⟩
              | unwritten machine blocked =>
                  exact ⟨delivered, (entry, index) :: rest, [index], [], rfl,
                    .unwritten delivered entry index rest bytes _ file blocked, received machine⟩
              | written machine =>
                  have fresh : index ∉ delivered.map Prod.snd := by
                    intro member
                    rw [List.map_append, List.nodup_append] at distinct
                    exact distinct.2.2 index member index List.mem_cons_self rfl
                  have more : delivered ++ (entry, index) :: rest =
                      delivered ++ [(entry, index)] ++ rest := by
                    rw [List.append_assoc, List.singleton_append]
                  rw [more] at distinct ⊢
                  exact ih distinct ((received machine).written fresh)

/-- The result of a session, whatever it is. -/
theorem session_books (e : RelayExchange Key PathBuf) (registry : PeerFileRegistry PathBuf)
    (receiving : Receiving) :
    ∃ delivered rest last refused,
      missingFiles e.fileClip receiving.downloaded = delivered ++ rest ∧
      e.RelayEnding registry receiving delivered rest (e.session registry receiving).1 last
        refused ∧
      e.Books registry receiving delivered last refused (e.session registry receiving).2.1
        (e.session registry receiving).2.2 := by
  have balanced : e.Balanced registry ⟨registry, 0, [], []⟩ := by
    refine ⟨fun token grant stored => ⟨grant, stored, ?_⟩, fun token before stored _ =>
      ⟨before, stored⟩⟩
    split
    · simp only [PeerFileGrant.consumed, List.toFinset_nil, Finset.union_empty]
    · rfl
  have begun : ∀ machine, e.Books registry receiving [] [] [] ⟨registry, 0, [], []⟩
      ⟨{ receiving with machine := machine }, []⟩ := by
    intro machine
    exact ⟨balanced, rfl, nofun, rfl, rfl, nofun, fun _ _ => rfl⟩
  have distinct := missingFiles_distinct e.fileClip receiving.downloaded
  by_cases nothing : (missingFiles e.fileClip receiving.downloaded).isEmpty = true
  · simp only [session, prepareDownload, nothing, if_true]
    rw [List.isEmpty_iff.mp nothing]
    exact ⟨[], [], [], [], rfl, .complete [], begun receiving.machine⟩
  · cases made : receiving.machine.createDirAll e.surroundings.fault none
      (clipCacheDir e.cacheDir e.fileClip) with
    | mk created machine =>
        cases created with
        | false =>
            simp only [session, prepareDownload, nothing, if_false, made, Bool.false_eq_true]
            exact ⟨[], missingFiles e.fileClip receiving.downloaded, [], [], rfl,
              .unmade _ (by rw [made]), begun machine⟩
        | true =>
            simp only [session, prepareDownload, nothing, if_false, made, Bool.false_eq_true]
            exact serially_books distinct (begun machine)

/-! ## The relay of Agent.Download

There the relay answers each index at once; a session is such a relay. -/

theorem takeFile_obtained (entry : FileEntry) (index : Nat) (bytes : List UInt8)
    (got : RecipientBooks) :
    (e.takeFile entry index bytes got).2.obtained = got.obtained ++ [(index, bytes)] := by
  have taken := takeFile_taken (e := e) entry index bytes got
  generalize e.takeFile entry index bytes got = took at taken ⊢
  cases taken with
  | unfit message machine fails => rfl
  | unwritten machine blocked => rfl
  | written machine => rfl

/-- What is obtained stays so. -/
theorem serially_obtained {missing : List (FileEntry × Nat)} {item : Nat × List UInt8} :
    ∀ {served got}, item ∈ got.obtained → item ∈ (e.serially missing served got).2.2.obtained := by
  induction missing with
  | nil => exact fun member => member
  | cons file rest ih =>
      obtain ⟨entry, index⟩ := file
      intro served got member
      simp only [serially]
      obtain ⟨answer, after⟩ := e.serveFile index served
      cases answer with
      | error reason => exact member
      | ok bytes =>
          have more : item ∈ (e.takeFile entry index bytes got).2.obtained := by
            rw [takeFile_obtained]
            exact List.mem_append_left _ member
          simp only [takeServed]
          generalize e.takeFile entry index bytes got = took at more ⊢
          obtain ⟨outcome, after⟩ := took
          cases outcome with
          | error failure => exact more
          | ok done => exact ih more

/-- A relay that answers with a file is taken the file from. -/
theorem fetchRelayed_takeFile {relayed : Nat → Option (List UInt8)} {index : Nat}
    {bytes : List UInt8} (answers : relayed index = some bytes) (machine : Receiver)
    (entry : FileEntry) (destination : LexPath String) :
    fetchRelayed { e.surroundings with session := true, relayed := relayed } machine entry index
        destination =
      fetchRelayed { e.surroundings with relayed := fun _ => some bytes } machine entry index
        destination := by
  simp only [fetchRelayed, answers]
  rfl

/-- The loop over the missing files, with the relay that answers what the session delivers. -/
theorem serially_receiveEach {relayed : Nat → Option (List UInt8)}
    {missing : List (FileEntry × Nat)} :
    ∀ {served got}, (got.obtained.map Prod.fst ++ missing.map Prod.snd).Nodup →
      (∀ index bytes, relayed index = some bytes ↔
        (index, bytes) ∈ (e.serially missing served got).2.2.obtained) →
      let result := receiveEach
        (fetchRelayed { e.surroundings with session := true, relayed := relayed })
        (clipCacheDir e.cacheDir e.fileClip) missing got.receiving
      result.2 = (e.serially missing served got).2.2.receiving ∧
        result.1.isOk = (e.serially missing served got).1.isOk := by
  induction missing with
  | nil => exact fun _ _ => ⟨rfl, rfl⟩
  | cons file rest ih =>
      obtain ⟨entry, index⟩ := file
      intro served got distinct answers
      simp only [serially] at answers ⊢
      generalize e.serveFile index served = served' at answers ⊢
      obtain ⟨answer, after⟩ := served'
      cases answer with
      | error reason =>
          have nothing : relayed index = none := by
            refine Option.eq_none_iff_forall_ne_some.mpr fun bytes found => ?_
            have member := List.mem_map_of_mem (f := Prod.fst) ((answers index bytes).mp found)
            exact (List.nodup_append.mp distinct).2.2 index member index List.mem_cons_self rfl
          simp only [receiveEach, fetchRelayed, nothing, takeServed]
          exact ⟨trivial, rfl⟩
      | ok bytes =>
          have here : (index, bytes) ∈ got.obtained ++ [(index, bytes)] :=
            List.mem_append_right _ (List.mem_singleton_self _)
          simp only [takeServed] at answers ⊢
          cases fetched : fetchRelayed { e.surroundings with relayed := fun _ => some bytes }
            got.receiving.machine entry index (e.destination entry) with
          | mk outcome machine =>
              cases outcome with
              | error failure =>
                  have took : e.takeFile entry index bytes got = (.error failure,
                      ⟨{ got.receiving with machine := machine },
                        got.obtained ++ [(index, bytes)]⟩) := by
                    simp only [takeFile, destination] at fetched ⊢
                    rw [fetched]
                  rw [took] at answers ⊢
                  have found := (answers index bytes).mpr here
                  simp only [receiveEach, fetchRelayed_takeFile found]
                  simp only [destination] at fetched
                  rw [fetched]
                  exact ⟨rfl, rfl⟩
              | ok done =>
                  have took : e.takeFile entry index bytes got = (.ok (),
                      ⟨⟨machine, Function.update got.receiving.downloaded index
                          (some (e.destination entry))⟩,
                        got.obtained ++ [(index, bytes)]⟩) := by
                    simp only [takeFile, destination] at fetched ⊢
                    rw [fetched]
                  rw [took] at answers ⊢
                  have found := (answers index bytes).mpr (serially_obtained here)
                  simp only [receiveEach, fetchRelayed_takeFile found]
                  simp only [destination] at fetched ⊢
                  rw [fetched]
                  refine ih ?_ answers
                  rw [List.map_append, List.append_assoc]
                  exact distinct

/-- **What a session delivers, Agent.Download downloads**, from a relay that answers with it. -/
theorem session_downloadViaRelay (e : RelayExchange Key PathBuf)
    (registry : PeerFileRegistry PathBuf) (receiving : Receiving)
    {relayed : Nat → Option (List UInt8)}
    (answers : ∀ index bytes, relayed index = some bytes ↔
      (index, bytes) ∈ (e.session registry receiving).2.2.obtained) :
    let result := downloadViaRelay { e.surroundings with session := true, relayed := relayed }
      e.cacheDir e.fileClip receiving
    result.2 = (e.session registry receiving).2.2.receiving ∧
      result.1.isOk = (e.session registry receiving).1.isOk := by
  simp only [session, prepareDownload] at answers ⊢
  simp only [downloadViaRelay, receiveMissing]
  by_cases nothing : (missingFiles e.fileClip receiving.downloaded).isEmpty = true
  · simp only [nothing, if_true]
    exact ⟨trivial, trivial⟩
  · simp only [nothing, if_false, Bool.false_eq_true, Bool.not_true] at answers ⊢
    cases made : receiving.machine.createDirAll e.surroundings.fault none
      (clipCacheDir e.cacheDir e.fileClip) with
    | mk created machine =>
        rw [made] at answers
        cases created with
        | false => exact ⟨rfl, rfl⟩
        | true =>
            refine serially_receiveEach ?_ answers
            exact missingFiles_distinct e.fileClip receiving.downloaded

end RelayExchange

/-! ## A file that has changed -/

namespace Changed

open RelayExchange

/-- The manifest of two files; the first one was this long when it was made. -/
def fileClip (size : Nat) : FileClip :=
  ⟨[⟨"a.txt", "a.txt", size, none, none, .file⟩, ⟨"b.txt", "b.txt", 5, none, none, .file⟩],
    size + 5, Sample.token, none, none⟩

def surroundings : Surroundings where
  sha256 := fun _ => []
  displayTime := fun _ => ""
  fault := fun _ => none
  now := 0
  discovered := none
  responses := fun _ => none
  session := true
  relayed := fun _ => none
  setsClipboard := true

def secondSignature : String :=
  "yTSmakLlgFirEZ6VVhYtV/k/75VmsSIRovY5OkhuKxweng6ALLvjWi4JRDn8BuQuS1ojRzPdRVr4Va6UqbGcDw=="

def secondSignatureBytes : List UInt8 :=
  [201, 52, 166, 106, 66, 229, 128, 88, 171, 17, 158, 149, 86, 22, 45, 87, 249, 63, 239, 149, 102,
   177, 34, 17, 162, 246, 57, 58, 72, 110, 43, 28, 30, 158, 14, 128, 44, 187, 227, 90, 46, 9, 68,
   57, 252, 6, 228, 46, 75, 90, 35, 71, 51, 221, 69, 90, 248, 85, 174, 148, 169, 177, 156, 15]

/-- The signatures of the requests for both files. -/
def signatureCrates : SignatureCrates where
  base64Decode := fun encoded =>
    if encoded = secondSignature then some secondSignatureBytes
    else Sample.signatureCrates.base64Decode encoded
  isVerifyingKey := Sample.signatureCrates.isVerifyingKey
  ed25519Verify := fun key message signature =>
    Sample.signatureCrates.ed25519Verify key message signature ||
      (key == Sample.requesterKeyBytes && signature == secondSignatureBytes &&
        message == peerFileSigningMessage "clip_1" "dev_source" "dev_requester" "tt_1" 1)

/-- Both files now hold the same five letters. -/
def exchange (size : Nat) : RelayExchange (List UInt8) String where
  surroundings := surroundings
  primitives := Crypto.Sample.primitives
  signatureCrates := signatureCrates
  clock := fun _ => (0, 0)
  draws := fun _ => Crypto.Sample.draws
  contents := fun _ => .ok Crypto.Sample.plaintext
  recipient :=
    ⟨⟨"dev_requester"⟩, Crypto.Sample.identity.publicKeyBase64 Crypto.Sample.primitives⟩
  encryption := Crypto.Sample.identity
  signPeerFileRequest := fun index =>
    if index = 0 then Sample.claimSignature else secondSignature
  clipId := ⟨"clip_1"⟩
  sourceDeviceId := Sample.source
  requesterDeviceId := ⟨"dev_requester"⟩
  fileClip := fileClip size
  cacheDir := LexPath.parse "/home/u/cache"

def registry : PeerFileRegistry String :=
  Function.update PeerFileRegistry.empty "tt_1"
    (some { Sample.grant with paths := ["/tmp/a.txt", "/tmp/b.txt"] })

def receiving : Receiving := ⟨⟨Disk.empty, [], 0⟩, fun _ => none⟩

/-- The two sides take turns. -/
def inTurn (n : Nat) : RelayParty := if n % 2 = 0 then .recipient else .source

theorem exchange_matched (size : Nat) : (exchange size).Matched where
  ideal := Crypto.Sample.primitives_ideal
  device := rfl
  key := Crypto.Sample.primitives_ideal.decodePublicKey_own Crypto.Sample.identity

/-- The session after so many turns. -/
def after (size n : Nat) : Relay String :=
  scheduled (exchange size).step ((exchange size).start registry receiving) inTurn n

end Changed

end AirPaste.Agent
