/-
# Agent.RelayBooks — what a source keeps, whatever it is sent

`serve_relay_session` takes any frame that comes, and any frame it sends may fail.  In every
state of it the registry is the one the session began with but for three things: grants that
have expired are gone, the indexes consumed are ones that were sent in full, and the one that
is being served is reserved (`Thrifty`).  So a source that has stopped, for whatever reason,
has nothing reserved (`Thrifty.stopped`), and what it did not send in full can be claimed
again.
-/
import AirPaste.Agent.RelayDelivery

namespace AirPaste.Agent

open AirPaste.Core
open AirPaste.Theory

set_option autoImplicit false

variable {Key PathBuf : Type}

/-- The index that the source has reserved of a grant. -/
def SourcePhase.reserved : SourcePhase PathBuf → String → Finset Nat
  | .preparing token index _, other => if other = token then {index} else ∅
  | .sending token index _, other => if other = token then {index} else ∅
  | _, _ => ∅

/-- What the source keeps of the registry it began with. -/
structure Thrifty (registry : PeerFileRegistry PathBuf) (source : SourcePhase PathBuf)
    (served : SourceBooks PathBuf) : Prop where
  grants : ∀ token grant, served.registry token = some grant → ∃ before,
    registry token = some before ∧ grant.toGrantTerms = before.toGrantTerms ∧
      (∀ index ∈ grant.servedIndexes, index ∈ before.servedIndexes ∨ index ∈ served.sent) ∧
      grant.inFlight = before.inFlight ∪ source.reserved token ∧
      Disjoint before.inFlight (source.reserved token)
  sent : ∀ token index, source = .sending token index [] → index ∈ served.sent

section Thrifty

variable {registry : PeerFileRegistry PathBuf} {source later : SourcePhase PathBuf}
  {served : SourceBooks PathBuf}

theorem thrifty_start (registry : PeerFileRegistry PathBuf) :
    Thrifty registry .waiting ⟨registry, 0, [], []⟩ where
  grants token grant stored :=
    ⟨grant, stored, rfl, fun _ consumed => .inl consumed, (Finset.union_empty _).symm,
      Finset.disjoint_empty_right _⟩
  sent token index sending := by cases sending

/-- A source that reserves the same goes on with its books. -/
theorem Thrifty.goes (thrifty : Thrifty registry source served)
    (reserved : ∀ token, later.reserved token = source.reserved token)
    (sent : ∀ token index, later = .sending token index [] → index ∈ served.sent) :
    Thrifty registry later served where
  grants token grant stored := by
    rw [reserved token]
    exact thrifty.grants token grant stored
  sent := sent

/-- A source that has stopped has nothing reserved. -/
theorem Thrifty.stopped (thrifty : Thrifty registry .stopped served) {token : String}
    {grant : PeerFileGrant PathBuf} (stored : served.registry token = some grant) :
    ∃ before, registry token = some before ∧ grant.toGrantTerms = before.toGrantTerms ∧
      (∀ index ∈ grant.servedIndexes, index ∈ before.servedIndexes ∨ index ∈ served.sent) ∧
      grant.inFlight = before.inFlight := by
  obtain ⟨before, found, terms, consumed, inFlight, _⟩ := thrifty.grants token grant stored
  exact ⟨before, found, terms, consumed, inFlight.trans (Finset.union_empty _)⟩

theorem erase_reserved {flight : Finset Nat} {index : Nat} (free : Disjoint flight {index}) :
    (flight ∪ {index}).erase index = flight := by
  rw [Finset.disjoint_singleton_right] at free
  rw [Finset.union_comm, ← Finset.insert_eq, Finset.erase_insert free]

/-- The index that was reserved is settled: it is released, or consumed when it was sent. -/
theorem Thrifty.settled (thrifty : Thrifty registry source served) {token : String} {index : Nat}
    (reserved : ∀ other, source.reserved other = if other = token then {index} else ∅)
    (free : ∀ other, later.reserved other = ∅) {after : SourceBooks PathBuf}
    {change : PeerFileGrant PathBuf → PeerFileGrant PathBuf}
    (registryIs : after.registry = served.registry.modify token change)
    (sent : after.sent = served.sent)
    (terms : ∀ grant, (change grant).toGrantTerms = grant.toGrantTerms)
    (erases : ∀ grant, (change grant).inFlight = grant.inFlight.erase index)
    (consumes : ∀ grant, ∀ i ∈ (change grant).servedIndexes,
      i ∈ grant.servedIndexes ∨ i ∈ served.sent) : Thrifty registry later after where
  grants other grant stored := by
    rw [registryIs] at stored
    obtain ⟨found, here, same⟩ := modify_eq_some_iff.mp stored
    obtain ⟨before, first, known, consumed, inFlight, apart⟩ := thrifty.grants other found here
    rw [reserved other] at inFlight apart
    rw [free other, sent]
    refine ⟨before, first, ?_, ?_, ?_, Finset.disjoint_empty_right _⟩
    · rw [same]
      split
      · exact (terms found).trans known
      · exact known
    · intro i member
      rw [same] at member
      split at member
      · exact (consumes found i member).elim (consumed i) .inr
      · exact consumed i member
    · rw [Finset.union_empty, same]
      by_cases own : other = token
      · rw [if_pos own] at inFlight apart ⊢
        rw [erases, inFlight, erase_reserved apart]
      · rw [if_neg own] at inFlight ⊢
        rw [inFlight, Finset.union_empty]
  sent other i sending := by
    have nothing := free other
    rw [sending, SourcePhase.reserved, if_pos rfl] at nothing
    exact absurd nothing (Finset.singleton_ne_empty i)

variable {e : RelayExchange Key PathBuf}

/-- What the source goes over to with the answer to a claim. -/
def SourcePhase.answering (token : String) (index : Nat) :
    Except String PathBuf → SourcePhase PathBuf
  | .ok path => .preparing token index path
  | .error reason => .refusing reason

/-- A claim reserves its index, or leaves the registry but for grants that have expired. -/
theorem Thrifty.claimed (thrifty : Thrifty registry .waiting served)
    (clipId sourceDeviceId requesterDeviceId signatureAlg signature token : String)
    (index : Nat) :
    Thrifty registry
      (.answering token index (e.claimRequested served clipId sourceDeviceId requesterDeviceId
        signatureAlg signature token index).1)
      (e.claimRequested served clipId sourceDeviceId requesterDeviceId signatureAlg signature
        token index).2 := by
  have outcome := claim_outcome e.signatureCrates served.registry (e.clock served.claims).1
    (e.clock served.claims).2 token index
    ⟨clipId, sourceDeviceId, requesterDeviceId, signatureAlg, signature⟩
  simp only [RelayExchange.claimRequested, PeerFileRegistry.claimRelayFile]
  generalize served.registry.claim e.signatureCrates (e.clock served.claims).1
    (e.clock served.claims).2 token index
    ⟨clipId, sourceDeviceId, requesterDeviceId, signatureAlg, signature⟩ = claimed at outcome ⊢
  have cleaned : ∀ other grant,
      cleanupExpired (e.clock served.claims).1 served.registry other = some grant →
        served.registry other = some grant :=
    fun other grant found => (cleanupExpired_eq_some_iff.mp found).1
  cases outcome with
  | available grant path claimable =>
      simp only [PeerFileRegistry.relayAnswer, SourcePhase.answering]
      refine ⟨?_, fun _ _ sending => by cases sending⟩
      intro other found stored
      rcases update_eq_some_iff.mp stored with ⟨rfl, rfl⟩ | ⟨apart, here⟩
      · obtain ⟨before, first, terms, consumed, inFlight, _⟩ :=
          thrifty.grants other grant claimable.stored
        have own : grant.inFlight = before.inFlight := inFlight.trans (Finset.union_empty _)
        have absent := claimable.notInFlight
        rw [own] at absent
        refine ⟨before, first, terms, consumed, ?_, ?_⟩
        · simp only [SourcePhase.reserved, if_true, own]
          rw [Finset.union_comm, ← Finset.insert_eq]
        · simp only [SourcePhase.reserved, if_true]
          exact Finset.disjoint_singleton_right.mpr absent
      · have kept := thrifty.grants other found (cleaned other found here)
        simp only [SourcePhase.reserved, if_neg apart] at kept ⊢
        exact kept
  | refused answer refuses inTime =>
      cases answer with
      | available path => exact absurd rfl (refuses path)
      | _ => exact ⟨fun other found stored =>
          thrifty.grants other found (cleaned other found stored),
          fun _ _ sending => by cases sending⟩
  | expired grant stored live late =>
      simp only [PeerFileRegistry.relayAnswer, SourcePhase.answering]
      refine ⟨fun other found here => ?_, fun _ _ sending => by cases sending⟩
      by_cases own : other = token
      · rw [own] at here
        simp only [Function.update_self, reduceCtorEq] at here
      · simp only [Function.update_of_ne own] at here
        exact thrifty.grants other found (cleaned other found here)

end Thrifty

/-- **What the source keeps**, whatever frame it is sent. -/
theorem sourceStep_thrifty (e : RelayExchange Key PathBuf) {registry : PeerFileRegistry PathBuf}
    (s : Relay PathBuf) (thrifty : Thrifty registry s.source s.served) :
    Thrifty registry (e.sourceStep s).source (e.sourceStep s).served := by
  obtain ⟨source, served, recipient, got, toSource, toRecipient⟩ := s
  dsimp only at thrifty
  cases source with
  | waiting =>
      cases toSource with
      | nil =>
          cases recipient <;>
            first
            | exact thrifty
            | exact thrifty.goes (fun _ => rfl) fun _ _ sending => by cases sending
      | cons message rest =>
          cases message with
          | text parsed =>
              cases parsed with
              | error error => exact thrifty
              | ok control =>
                  cases control with
                  | request clipId sourceDeviceId requesterDeviceId signatureAlg signature token
                      index =>
                      have claimed := thrifty.claimed (e := e) clipId sourceDeviceId
                        requesterDeviceId signatureAlg signature token index
                      simp only [RelayExchange.sourceStep]
                      generalize e.claimRequested served clipId sourceDeviceId requesterDeviceId
                        signatureAlg signature token index = outcome at claimed ⊢
                      obtain ⟨answer, after⟩ := outcome
                      cases answer with
                      | ok path => exact claimed
                      | error reason => exact claimed
                  | _ => exact thrifty
          | _ => exact thrifty
  | preparing token index path =>
      simp only [RelayExchange.sourceStep]
      cases e.prepareRelayFile served.claims path index with
      | ok prepared =>
          exact thrifty.goes (fun _ => rfl) fun _ _ sending => by cases sending
      | error reason =>
          exact thrifty.settled (fun _ => rfl) (fun _ => rfl) rfl rfl (fun _ => rfl)
            (fun _ => rfl) fun _ _ member => .inl member
  | sending token index frames =>
      cases frames with
      | nil =>
          refine thrifty.settled (fun _ => rfl) (fun _ => rfl) rfl rfl (fun _ => rfl)
            (fun _ => rfl) fun grant i member => ?_
          rcases Finset.mem_insert.mp member with rfl | earlier
          · exact .inr (thrifty.sent token i rfl)
          · exact .inl earlier
      | cons frame rest =>
          simp only [RelayExchange.sourceStep]
          by_cases last : rest = []
          · rw [if_pos last]
            refine ⟨fun other grant stored => ?_, fun _ _ sending => ?_⟩
            · obtain ⟨before, first, terms, consumed, reserved⟩ :=
                thrifty.grants other grant stored
              refine ⟨before, first, terms, fun i member => ?_, reserved⟩
              exact (consumed i member).imp_right (List.mem_append_left _)
            · cases sending
              exact List.mem_append_right _ (List.mem_singleton_self _)
          · rw [if_neg last]
            refine thrifty.goes (fun _ => rfl) fun _ _ sending => ?_
            cases sending
            exact absurd rfl last
  | refusing reason =>
      exact thrifty.goes (fun _ => rfl) fun _ _ sending => by cases sending
  | stopped => exact thrifty

end AirPaste.Agent
