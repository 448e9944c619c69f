/-
# Agent.PeerClaims — what a claim checks, and what a rejected claim leaves behind

An available claim has passed every check on the grant and the request.  A claim
that is not available removes expired grants and nothing else.  Two runs, one with
and one without some of its rejected claims, therefore agree on every grant that
has not expired at the last clock reading (`Agree`), and answer every later claim
alike.
-/
import AirPaste.Agent.PeerDownload
import AirPaste.Theory.Run

namespace AirPaste.Agent

open AirPaste.Core
open AirPaste.Theory

set_option autoImplicit false

variable {PathBuf : Type}

/-- A registry and the last clock reading made on it. -/
structure TimedRegistry (PathBuf : Type) where
  clock : Timestamp
  registry : PeerFileRegistry PathBuf

namespace TimedRegistry

variable (x : SignatureCrates)

/-- Whoever operates reads the clock as the operation does. -/
def step (timed : TimedRegistry PathBuf) (op : PeerOp PathBuf) : TimedRegistry PathBuf where
  clock :=
    match op with
    | .register _ later _ _ _ _ _ _ => later
    | .claim _ later _ _ _ => later
    | _ => timed.clock
  registry := op.perform x timed.registry

/-- Clock readings do not go back. -/
def InOrder (timed : TimedRegistry PathBuf) : PeerOp PathBuf → Prop
  | .register now later _ _ _ _ _ _ => timed.clock ≤ now ∧ now ≤ later
  | .claim now later _ _ _ => timed.clock ≤ now ∧ now ≤ later
  | _ => True

/-- The operation is a claim that is not answered with a path. -/
def Rejected (timed : TimedRegistry PathBuf) : PeerOp PathBuf → Prop
  | .claim now later token index request =>
      ∀ path, (timed.registry.claim x now later token index request).1 ≠ .available path
  | _ => False

/-- The same grants, but for those that have expired by the later clock. -/
def Agree (timed other : TimedRegistry PathBuf) : Prop :=
  cleanupExpired timed.clock timed.registry = cleanupExpired timed.clock other.registry

end TimedRegistry

/-- What the checks of a claim guarantee. -/
structure ClaimAuthorisation (PathBuf : Type) (x : SignatureCrates) : Prop where
  /-- An available claim is authorised by an unexpired grant. -/
  authorised : ∀ (registry : PeerFileRegistry PathBuf) (now later : Timestamp) (token : String)
    (index : Nat) (request : PeerFileRequest) (path : PathBuf),
    (registry.claim x now later token index request).1 = .available path →
      ∃ grant, registry token = some grant ∧ now < grant.expiresAt ∧ later ≤ grant.expiresAt ∧
        Authorized x grant.toGrantTerms token index request
  /-- A claim that is not available only removes grants that have expired. -/
  inert : ∀ (registry : PeerFileRegistry PathBuf) (now later : Timestamp) (token : String)
    (index : Nat) (request : PeerFileRequest),
    (∀ path, (registry.claim x now later token index request).1 ≠ .available path) →
      ∀ other, (registry.claim x now later token index request).2 other = registry other ∨
        ∃ grant, registry other = some grant ∧
          (grant.expiresAt ≤ now ∨ grant.expiresAt < later) ∧
          (registry.claim x now later token index request).2 other = none
  /-- Leaving rejected claims out of a run changes the answer of no later claim. -/
  undisturbed : ∀ (start : TimedRegistry PathBuf) (ops fewer : List (PeerOp PathBuf)),
    Along (TimedRegistry.step x) TimedRegistry.InOrder start ops →
    Thinned (TimedRegistry.step x) (TimedRegistry.Rejected x) start ops fewer →
      ∀ (now later : Timestamp) (token : String) (index : Nat) (request : PeerFileRequest),
        (runFrom (TimedRegistry.step x) start ops).clock ≤ now →
          ((runFrom (TimedRegistry.step x) start ops).registry.claim x now later token index
            request).1 =
          ((runFrom (TimedRegistry.step x) start fewer).registry.claim x now later token index
            request).1
  /-- A claim for relay delivery is the same claim. -/
  relayed : ∀ (registry : PeerFileRegistry PathBuf) (now later : Timestamp) (token : String)
    (index : Nat) (request : PeerFileRequest),
    (registry.claimRelayFile x now later token index request.clipId request.sourceDeviceId
        request.requesterDeviceId request.signatureAlg request.signature).2 =
      (registry.claim x now later token index request).2 ∧
    ∀ path, (registry.claimRelayFile x now later token index request.clipId
        request.sourceDeviceId request.requesterDeviceId request.signatureAlg
        request.signature).1 = .ok path ↔
      (registry.claim x now later token index request).1 = .available path

/-! ## Cleanup -/

section Cleanup

variable {registry other : PeerFileRegistry PathBuf} {now later : Timestamp}

/-- A later cleanup makes an earlier one redundant. -/
theorem cleanup_cleanup (inOrder : now ≤ later) (registry : PeerFileRegistry PathBuf) :
    cleanupExpired later (cleanupExpired now registry) = cleanupExpired later registry := by
  funext token
  apply Option.ext
  intro grant
  rw [cleanupExpired_eq_some_iff, cleanupExpired_eq_some_iff, cleanupExpired_eq_some_iff]
  constructor
  · rintro ⟨⟨stored, -⟩, live⟩
    exact ⟨stored, live⟩
  · rintro ⟨stored, live⟩
    exact ⟨⟨stored, lt_of_le_of_lt inOrder live⟩, live⟩

/-- Registries that agree at one instant agree at every later one. -/
theorem agree_later (inOrder : now ≤ later)
    (same : cleanupExpired now registry = cleanupExpired now other) :
    cleanupExpired later registry = cleanupExpired later other := by
  rw [← cleanup_cleanup inOrder registry, same, cleanup_cleanup inOrder]

/-- A change that keeps the expiry of a grant commutes with a cleanup. -/
theorem cleanup_modify (token : String) (change : PeerFileGrant PathBuf → PeerFileGrant PathBuf)
    (keeps : ∀ grant, (change grant).expiresAt = grant.expiresAt)
    (registry : PeerFileRegistry PathBuf) :
    cleanupExpired now (registry.modify token change) =
      (cleanupExpired now registry).modify token change := by
  funext other
  apply Option.ext
  intro grant
  rw [cleanupExpired_eq_some_iff, modify_eq_some_iff, modify_eq_some_iff]
  constructor
  · rintro ⟨⟨before, stored, rfl⟩, live⟩
    refine ⟨before, cleanupExpired_eq_some_iff.mpr ⟨stored, ?_⟩, rfl⟩
    split at live
    · rw [← keeps before]
      exact live
    · exact live
  · rintro ⟨before, stored, rfl⟩
    obtain ⟨stored, live⟩ := cleanupExpired_eq_some_iff.mp stored
    refine ⟨⟨before, stored, rfl⟩, ?_⟩
    split
    · rw [keeps before]
      exact live
    · exact live

theorem agree_modify (same : cleanupExpired now registry = cleanupExpired now other)
    (token : String) (change : PeerFileGrant PathBuf → PeerFileGrant PathBuf)
    (keeps : ∀ grant, (change grant).expiresAt = grant.expiresAt) :
    cleanupExpired now (registry.modify token change) =
      cleanupExpired now (other.modify token change) := by
  rw [cleanup_modify token change keeps, cleanup_modify token change keeps, same]

/-- What a cleanup does to one token. -/
theorem cleanup_inert (now : Timestamp) (registry : PeerFileRegistry PathBuf) (token : String) :
    cleanupExpired now registry token = registry token ∨
      ∃ grant, registry token = some grant ∧ grant.expiresAt ≤ now ∧
        cleanupExpired now registry token = none := by
  cases stored : registry token with
  | none => exact .inl (cleanupExpired_none stored now)
  | some grant =>
      have cleaned := cleanupExpired_some stored now
      rcases lt_or_ge now grant.expiresAt with live | expired
      · exact .inl (cleaned.trans (if_pos live))
      · exact .inr ⟨grant, rfl, expired, cleaned.trans (if_neg (not_lt.mpr expired))⟩

/-- Removing a grant that has expired is part of a later cleanup. -/
theorem cleanup_remove {token : String} {grant : PeerFileGrant PathBuf}
    (stored : registry token = some grant) (late : grant.expiresAt ≤ now) :
    cleanupExpired now (Function.update registry token none) = cleanupExpired now registry := by
  funext other
  apply Option.ext
  intro found
  rw [cleanupExpired_eq_some_iff, cleanupExpired_eq_some_iff]
  by_cases here : other = token
  · subst here
    rw [Function.update_self]
    refine iff_of_false (fun ⟨absent, _⟩ => nomatch absent) ?_
    rintro ⟨present, live⟩
    cases Option.some.inj (stored.symm.trans present)
    exact absurd live (not_lt.mpr late)
  · rw [Function.update_of_ne here]

end Cleanup

/-! ## Two runs -/

section Runs

variable {x : SignatureCrates} {timed other : TimedRegistry PathBuf}

/-- A claim sees the grants that its own cleanup keeps. -/
theorem claim_congr {registry others : PeerFileRegistry PathBuf} {now : Timestamp}
    (same : cleanupExpired now registry = cleanupExpired now others) (later : Timestamp)
    (token : String) (index : Nat) (request : PeerFileRequest) :
    registry.claim x now later token index request =
      others.claim x now later token index request := by
  simp only [PeerFileRegistry.claim]
  rw [same]

/-- The same operation keeps the agreement. -/
theorem agree_step {op : PeerOp PathBuf} (inOrder : timed.InOrder op)
    (agree : timed.Agree other) : (timed.step x op).Agree (other.step x op) := by
  unfold TimedRegistry.Agree at agree
  cases op with
  | register now later token clipId sourceDeviceId authorizedPublicKeys paths ttl =>
      obtain ⟨reads, -⟩ := inOrder
      simp only [TimedRegistry.Agree, TimedRegistry.step, PeerOp.perform,
        PeerFileRegistry.register, agree_later reads agree]
  | bindClipId token clipId =>
      exact agree_modify agree _ _ fun _ => rfl
  | claim now later token index request =>
      obtain ⟨reads, -⟩ := inOrder
      simp only [TimedRegistry.Agree, TimedRegistry.step, PeerOp.perform,
        claim_congr (agree_later reads agree)]
  | commitServed token index =>
      exact agree_modify agree _ _ fun _ => rfl
  | release token index =>
      exact agree_modify agree _ _ fun _ => rfl

/-- So does a rejected claim made in one of the runs only. -/
theorem agree_rejected {op : PeerOp PathBuf} (inOrder : timed.InOrder op)
    (rejected : timed.Rejected x op) (agree : timed.Agree other) :
    (timed.step x op).Agree other := by
  cases op with
  | claim now later token index request =>
      obtain ⟨reads, passes⟩ := inOrder
      have outcome := claim_outcome x timed.registry now later token index request
      simp only [TimedRegistry.Rejected] at rejected
      simp only [TimedRegistry.Agree, TimedRegistry.step, PeerOp.perform]
      rw [← agree_later (reads.trans passes) agree]
      generalize timed.registry.claim x now later token index request = result
        at outcome rejected ⊢
      cases outcome with
      | available grant path claimable => exact absurd rfl (rejected path)
      | refused answer refuses inTime => exact cleanup_cleanup passes _
      | expired grant stored live late =>
          have cleaned := cleanupExpired_eq_some_iff.mpr ⟨stored, live⟩
          rw [cleanup_remove cleaned (le_of_lt late), cleanup_cleanup passes]
  | _ => exact absurd rejected id

end Runs

/-- **Claim authorisation.** -/
theorem claimAuthorisation (x : SignatureCrates) : ClaimAuthorisation PathBuf x where
  authorised := by
    intro registry now later token index request path answered
    obtain ⟨grant, claimable⟩ := claim_available_iff.mp answered
    exact ⟨grant, claimable.stored, claimable.live, claimable.unexpired, claimable.authorized⟩
  inert := by
    intro registry now later token index request rejected other
    have outcome := claim_outcome x registry now later token index request
    have cleaned := cleanup_inert now registry other
    generalize registry.claim x now later token index request = result at outcome rejected ⊢
    cases outcome with
    | available grant path claimable => exact absurd rfl (rejected path)
    | refused answer refuses inTime =>
        exact cleaned.imp_right fun ⟨grant, stored, expired, gone⟩ =>
          ⟨grant, stored, .inl expired, gone⟩
    | expired grant stored live late =>
        by_cases here : other = token
        · subst here
          exact .inr ⟨grant, stored, .inr late, Function.update_self ..⟩
        · simp only [Function.update_of_ne here]
          exact cleaned.imp_right fun ⟨grant, stored, expired, gone⟩ =>
            ⟨grant, stored, .inl expired, gone⟩
  undisturbed := by
    intro start ops fewer inOrder thinned now later token index request after
    have keeps : ∀ (timed other : TimedRegistry PathBuf) (op : PeerOp PathBuf),
        timed.InOrder op → timed.Agree other → (timed.step x op).Agree (other.step x op) :=
      fun _ _ _ legal agree => agree_step legal agree
    have drops : ∀ (timed other : TimedRegistry PathBuf) (op : PeerOp PathBuf),
        timed.InOrder op → timed.Rejected x op → timed.Agree other →
          (timed.step x op).Agree other :=
      fun _ _ _ legal rejected agree => agree_rejected legal rejected agree
    have agree := thinned_related keeps drops thinned inOrder (rfl : start.Agree start)
    exact congrArg Prod.fst (claim_congr (agree_later after agree) later token index request)
  relayed := by
    intro registry now later token index request
    exact ⟨rfl, fun path => relayAnswer_ok_iff⟩

end AirPaste.Agent
