/-
# Agent.PeerGrants — a grant is used once per index

Runs of one registry: grants are registered under fresh tokens and bound to their
clip, anyone claims anything, and the holder of an available claim settles it at
most once, by `commit_served` or by `release`.  Beside the registry a run carries
what the registry forgets: the terms of every grant ever issued, the claims still
outstanding with the index each reserves, and the indexes committed.

`Tied` is the invariant: in every grant the registry still has, the reserved
indexes are the outstanding ones and the served indexes the committed ones.  It
turns the answer of a claim into a statement about the run alone
(`claim_available_of_tied`), from which `oneTimeGrant` follows.
-/
import Mathlib.Data.Finset.Insert
import Mathlib.Data.List.Induction
import AirPaste.Agent.Peer
import AirPaste.Theory.Run

namespace AirPaste.Agent

open AirPaste.Core
open AirPaste.Theory

set_option autoImplicit false

variable {PathBuf : Type}

/-- An operation on the registry.  A claim is settled by its number. -/
inductive GrantEvent (PathBuf : Type) where
  | register (now later : Timestamp) (token : TransferToken) (clipId : Option ClipId)
      (sourceDeviceId : DeviceId) (authorizedPublicKeys : DeviceId → Option String)
      (paths : List PathBuf) (ttl : Int)
  | bindClipId (token : TransferToken) (clipId : ClipId)
  | claim (now later : Timestamp) (token : String) (index : Nat) (request : PeerFileRequest)
  | commitServed (holder : Nat)
  | release (holder : Nat)

/-- The event claims this index of this token. -/
def GrantEvent.Claims (token : String) (index : Nat) : GrantEvent PathBuf → Prop
  | .claim _ _ claimed at' _ => claimed = token ∧ at' = index
  | _ => False

/-- The event registers these paths under this token. -/
def GrantEvent.Registers (token : String) (paths : List PathBuf) : GrantEvent PathBuf → Prop
  | .register _ _ registered _ _ _ given _ => registered.asStr = token ∧ given = paths
  | _ => False

/-- A registry and what has happened to it. -/
structure GrantRun (PathBuf : Type) where
  registry : PeerFileRegistry PathBuf
  /-- The last clock reading. -/
  clock : Timestamp
  /-- The terms of each grant ever registered. -/
  issued : String → Option (GrantTerms PathBuf)
  /-- How many claims have been made. -/
  claims : Nat
  /-- The available claims not settled yet, and the index each reserves. -/
  holders : Nat → Option (String × Nat)
  committed : Finset (String × Nat)

namespace GrantRun

variable (x : SignatureCrates)

def start (clock : Timestamp) : GrantRun PathBuf :=
  ⟨PeerFileRegistry.empty, clock, fun _ => none, 0, fun _ => none, ∅⟩

/-- The answer of a claim. -/
def answer (run : GrantRun PathBuf) (now later : Timestamp) (token : String) (index : Nat)
    (request : PeerFileRequest) : PeerFileClaim PathBuf :=
  (run.registry.claim x now later token index request).1

/-- The holder of an outstanding claim settles it; anyone else has nothing to settle. -/
def settle (run : GrantRun PathBuf) (holder : Nat) (commits : Bool) : GrantRun PathBuf :=
  match run.holders holder with
  | none => run
  | some key =>
      { run with
        registry :=
          if commits then run.registry.commitServed key.1 key.2
          else run.registry.release key.1 key.2
        holders := Function.update run.holders holder none
        committed := if commits then insert key run.committed else run.committed }

def step (run : GrantRun PathBuf) : GrantEvent PathBuf → GrantRun PathBuf
  | .register now later token clipId sourceDeviceId authorizedPublicKeys paths ttl =>
      { run with
        registry := run.registry.register now later token clipId sourceDeviceId
          authorizedPublicKeys paths ttl
        clock := later
        issued := Function.update run.issued token.asStr
          (some ⟨clipId, sourceDeviceId, authorizedPublicKeys, paths, later + ttl⟩) }
  | .bindClipId token clipId =>
      { run with
        registry := run.registry.bindClipId token clipId
        issued := Function.update run.issued token.asStr
          ((run.issued token.asStr).map fun terms => { terms with clipId := some clipId }) }
  | .claim now later token index request =>
      { run with
        registry := (run.registry.claim x now later token index request).2
        clock := later
        claims := run.claims + 1
        holders :=
          match run.answer x now later token index request with
          | .available _ => Function.update run.holders run.claims (some (token, index))
          | _ => run.holders }
  | .commitServed holder => run.settle holder true
  | .release holder => run.settle holder false

/-- Clock readings do not go back, and a grant is registered under a fresh token. -/
def Legal (run : GrantRun PathBuf) : GrantEvent PathBuf → Prop
  | .register now later token _ _ _ _ _ =>
      run.clock ≤ now ∧ now ≤ later ∧ run.issued token.asStr = none
  | .claim now later _ _ _ => run.clock ≤ now ∧ now ≤ later
  | _ => True

/-- The run after the events. -/
def after (clock : Timestamp) (events : List (GrantEvent PathBuf)) : GrantRun PathBuf :=
  runFrom (step x) (start clock) events

/-- Every event is legal where it happens. -/
def LegalRun (clock : Timestamp) (events : List (GrantEvent PathBuf)) : Prop :=
  Along (step x) Legal (start clock) events

end GrantRun

/-- What a grant promises over a run. -/
structure OneTimeGrant (x : SignatureCrates) (clock : Timestamp)
    (events : List (GrantEvent PathBuf)) : Prop where
  /-- At most one available claim of an index is outstanding at any time. -/
  exclusive : ∀ before rest, events = before ++ rest → ∀ first second key,
    (GrantRun.after x clock before).holders first = some key →
      (GrantRun.after x clock before).holders second = some key → first = second
  /-- After a commit no later claim of that index is available. -/
  consumed : ∀ before holder middle now later token index request rest,
    events = before ++ .commitServed holder ::
      (middle ++ .claim now later token index request :: rest) →
    (GrantRun.after x clock before).holders holder = some (token, index) →
    ∀ path, (GrantRun.after x clock (before ++ .commitServed holder :: middle)).answer x now later
      token index request ≠ .available path
  /-- After a release, and before any other claim of that index, an authorised claim on the
  unexpired grant is available again. -/
  reopened : ∀ before holder middle now later token index request rest,
    events = before ++ .release holder ::
      (middle ++ .claim now later token index request :: rest) →
    (GrantRun.after x clock before).holders holder = some (token, index) →
    (∀ event ∈ middle, ¬ event.Claims token index) →
    ∀ terms,
      (GrantRun.after x clock (before ++ .release holder :: middle)).issued token = some terms →
      now < terms.expiresAt → later ≤ terms.expiresAt → Authorized x terms token index request →
    ∃ path, (GrantRun.after x clock (before ++ .release holder :: middle)).answer x now later
      token index request = .available path
  /-- An available path is the one registered at that index. -/
  registered : ∀ before now later token index request rest path,
    events = before ++ .claim now later token index request :: rest →
    (GrantRun.after x clock before).answer x now later token index request = .available path →
    ∃ event ∈ before, ∃ paths, event.Registers token paths ∧ paths[index]? = some path

/-! ## The invariant -/

/-- The registry agrees with the run, for the grants it still has. -/
structure Tied (run : GrantRun PathBuf) : Prop where
  terms : ∀ token grant, run.registry token = some grant →
    run.issued token = some grant.toGrantTerms
  present : ∀ token terms, run.issued token = some terms → run.clock < terms.expiresAt →
    ∃ grant, run.registry token = some grant
  reserved : ∀ token grant index, run.registry token = some grant →
    (index ∈ grant.inFlight ↔ ∃ holder, run.holders holder = some (token, index))
  served : ∀ token grant index, run.registry token = some grant →
    (index ∈ grant.servedIndexes ↔ (token, index) ∈ run.committed)
  exclusive : ∀ first second key, run.holders first = some key → run.holders second = some key →
    first = second
  uncommitted : ∀ holder key, run.holders holder = some key → key ∉ run.committed
  heldIssued : ∀ holder token index, run.holders holder = some (token, index) →
    ∃ terms, run.issued token = some terms ∧ index < terms.paths.length
  committedIssued : ∀ token index, (token, index) ∈ run.committed → run.issued token ≠ none
  numbered : ∀ holder key, run.holders holder = some key → holder < run.claims

theorem tied_start (clock : Timestamp) : Tied (GrantRun.start clock : GrantRun PathBuf) where
  terms := nofun
  present := nofun
  reserved := nofun
  served := nofun
  exclusive := nofun
  uncommitted := nofun
  heldIssued := nofun
  committedIssued := fun _ _ member => absurd member (Finset.notMem_empty _)
  numbered := nofun

section Steps

variable {x : SignatureCrates} {run : GrantRun PathBuf}

/-- After a registration a grant is the new one, which nothing was claimed of, or was there
before. -/
theorem register_cases {registry : PeerFileRegistry PathBuf} {now later : Timestamp}
    {token : TransferToken} {clipId : Option ClipId} {sourceDeviceId : DeviceId}
    {authorizedPublicKeys : DeviceId → Option String} {paths : List PathBuf} {ttl : Int}
    {other : String} {grant : PeerFileGrant PathBuf}
    (found : (registry.register now later token clipId sourceDeviceId authorizedPublicKeys paths
      ttl) other = some grant) :
    (other = token.asStr ∧ grant.toGrantTerms =
        ⟨clipId, sourceDeviceId, authorizedPublicKeys, paths, later + ttl⟩ ∧
        grant.servedIndexes = ∅ ∧ grant.inFlight = ∅) ∨
      (other ≠ token.asStr ∧ registry other = some grant) := by
  rcases update_eq_some_iff.mp found with ⟨here, rfl⟩ | ⟨here, kept⟩
  · exact .inl ⟨here, rfl, rfl, rfl⟩
  · exact .inr ⟨here, (cleanupExpired_eq_some_iff.mp kept).1⟩

theorem tied_register (tied : Tied run) {now later : Timestamp} {token : TransferToken}
    {clipId : Option ClipId} {sourceDeviceId : DeviceId}
    {authorizedPublicKeys : DeviceId → Option String} {paths : List PathBuf} {ttl : Int}
    (legal : run.Legal (.register now later token clipId sourceDeviceId authorizedPublicKeys
      paths ttl)) :
    Tied (run.step x (.register now later token clipId sourceDeviceId authorizedPublicKeys
      paths ttl)) := by
  obtain ⟨inTime, passes, fresh⟩ := legal
  have notHeld : ∀ holder index, run.holders holder ≠ some (token.asStr, index) := by
    intro holder index held
    obtain ⟨terms, issued, -⟩ := tied.heldIssued holder token.asStr index held
    rw [fresh] at issued
    cases issued
  have notCommitted : ∀ index, (token.asStr, index) ∉ run.committed :=
    fun index member => tied.committedIssued token.asStr index member fresh
  refine { tied with terms := ?_, present := ?_, reserved := ?_, served := ?_, heldIssued := ?_,
                     committedIssued := ?_ }
  · intro other grant found
    rcases register_cases found with ⟨rfl, terms, -⟩ | ⟨here, before⟩
    · rw [terms]
      exact Function.update_self _ _ _
    · exact (Function.update_of_ne here _ _).trans (tied.terms other grant before)
  · intro other terms issued live
    by_cases here : other = token.asStr
    · subst here
      exact ⟨_, Function.update_self _ _ _⟩
    · simp only [GrantRun.step, PeerFileRegistry.register, Function.update_of_ne here]
        at issued live ⊢
      obtain ⟨grant, stored⟩ := tied.present other terms issued
        ((inTime.trans passes).trans_lt live)
      have same := tied.terms other grant stored
      rw [issued] at same
      cases same
      exact ⟨grant, cleanupExpired_eq_some_iff.mpr ⟨stored, passes.trans_lt live⟩⟩
  · intro other grant index found
    rcases register_cases found with ⟨rfl, -, -, none⟩ | ⟨-, before⟩
    · rw [none]
      exact ⟨fun member => absurd member (Finset.notMem_empty _),
        fun ⟨holder, held⟩ => absurd held (notHeld holder index)⟩
    · exact tied.reserved other grant index before
  · intro other grant index found
    rcases register_cases found with ⟨rfl, -, none, -⟩ | ⟨-, before⟩
    · rw [none]
      exact ⟨fun member => absurd member (Finset.notMem_empty _),
        fun member => absurd member (notCommitted index)⟩
    · exact tied.served other grant index before
  · intro holder other index held
    obtain ⟨terms, issued, within⟩ := tied.heldIssued holder other index held
    have here : other ≠ token.asStr := fun same => notHeld holder index (same ▸ held)
    exact ⟨terms, (Function.update_of_ne here _ _).trans issued, within⟩
  · intro other index member
    have here : other ≠ token.asStr := fun same => notCommitted index (same ▸ member)
    simp only [GrantRun.step, Function.update_of_ne here]
    exact tied.committedIssued other index member

theorem tied_bindClipId (tied : Tied run) (token : TransferToken) (clipId : ClipId) :
    Tied (run.step x (.bindClipId token clipId)) := by
  have grants : ∀ other grant, (run.registry.bindClipId token clipId) other = some grant →
      ∃ before, run.registry other = some before ∧
        before.servedIndexes = grant.servedIndexes ∧ before.inFlight = grant.inFlight := by
    intro other grant found
    obtain ⟨before, stored, rfl⟩ := modify_eq_some_iff.mp found
    refine ⟨before, stored, ?_⟩
    split <;> exact ⟨rfl, rfl⟩
  refine { tied with terms := ?_, present := ?_, reserved := ?_, served := ?_, heldIssued := ?_,
                     committedIssued := ?_ }
  · intro other grant found
    obtain ⟨before, stored, rfl⟩ := modify_eq_some_iff.mp found
    have issued := tied.terms other before stored
    by_cases here : other = token.asStr
    · subst here
      simp only [GrantRun.step, Function.update_self, issued, if_true, Option.map_some]
    · simp only [GrantRun.step, Function.update_of_ne here, issued, if_neg here]
  · intro other terms issued live
    have known : ∃ terms', run.issued other = some terms' ∧ terms'.expiresAt = terms.expiresAt := by
      by_cases here : other = token.asStr
      · subst here
        simp only [GrantRun.step, Function.update_self, Option.map_eq_some_iff] at issued
        obtain ⟨before, stored, rfl⟩ := issued
        exact ⟨before, stored, rfl⟩
      · simp only [GrantRun.step, Function.update_of_ne here] at issued
        exact ⟨terms, issued, rfl⟩
    obtain ⟨before, stored, expiry⟩ := known
    obtain ⟨grant, found⟩ := tied.present other before stored (expiry ▸ live)
    exact ⟨_, modify_eq_some_iff.mpr ⟨grant, found, rfl⟩⟩
  · intro other grant index found
    obtain ⟨before, stored, -, same⟩ := grants other grant found
    rw [← same]
    exact tied.reserved other before index stored
  · intro other grant index found
    obtain ⟨before, stored, same, -⟩ := grants other grant found
    rw [← same]
    exact tied.served other before index stored
  · intro holder other index held
    obtain ⟨terms, issued, within⟩ := tied.heldIssued holder other index held
    by_cases here : other = token.asStr
    · subst here
      refine ⟨{ terms with clipId := some clipId }, ?_, within⟩
      simp only [GrantRun.step, Function.update_self, issued, Option.map_some]
    · exact ⟨terms, (Function.update_of_ne here _ _).trans issued, within⟩
  · intro other index member
    have issued := tied.committedIssued other index member
    by_cases here : other = token.asStr
    · subst here
      simp only [GrantRun.step, Function.update_self]
      exact fun absent => issued (Option.map_eq_none_iff.mp absent)
    · simp only [GrantRun.step, Function.update_of_ne here]
      exact issued

/-- The holder of the next claim is new. -/
theorem next_unheld (tied : Tied run) : run.holders run.claims = none := by
  cases held : run.holders run.claims with
  | none => rfl
  | some key => exact absurd (tied.numbered run.claims key held) (lt_irrefl _)

/-- Once a holder has settled, every other key has the holders it had. -/
theorem held_settled (tied : Tied run) {holder : Nat} {key other : String × Nat}
    (held : run.holders holder = some key) :
    (∃ h, Function.update run.holders holder none h = some other) ↔
      other ≠ key ∧ ∃ h, run.holders h = some other := by
  constructor
  · rintro ⟨h, found⟩
    by_cases own : h = holder
    · subst own
      rw [Function.update_self] at found
      cases found
    · rw [Function.update_of_ne own] at found
      refine ⟨fun same => own ?_, h, found⟩
      subst same
      exact tied.exclusive h holder other found held
  · rintro ⟨ne, h, found⟩
    have own : h ≠ holder := by
      rintro rfl
      exact ne (Option.some.inj (found.symm.trans held))
    exact ⟨h, (Function.update_of_ne own _ _).trans found⟩

theorem settled_registry (registry : PeerFileRegistry PathBuf) (token : String) (index : Nat)
    (commits : Bool) :
    (if commits then registry.commitServed token index else registry.release token index) =
      registry.modify token fun grant =>
        { grant with
          inFlight := grant.inFlight.erase index
          servedIndexes :=
            if commits then insert index grant.servedIndexes else grant.servedIndexes } := by
  cases commits <;> rfl

/-- Who still holds a reservation held it before, and it is not the settled one. -/
theorem held_of_settled (tied : Tied run) {holder h : Nat} {key other : String × Nat}
    (held : run.holders holder = some key)
    (found : Function.update run.holders holder none h = some other) :
    run.holders h = some other ∧ other ≠ key := by
  have own : h ≠ holder := by
    rintro rfl
    rw [Function.update_self] at found
    cases found
  refine ⟨(Function.update_of_ne own _ _).symm.trans found, ?_⟩
  exact ((held_settled tied held).mp ⟨h, found⟩).1

theorem tied_settle (tied : Tied run) (holder : Nat) (commits : Bool) :
    Tied (run.settle holder commits) := by
  unfold GrantRun.settle
  cases held : run.holders holder with
  | none => exact tied
  | some key =>
      obtain ⟨token, index⟩ := key
      have kept : ∀ h other, Function.update run.holders holder none h = some other →
          run.holders h = some other ∧ other ≠ (token, index) :=
        fun h other found => held_of_settled tied held found
      simp only [settled_registry]
      refine { terms := ?_, present := ?_, reserved := ?_, served := ?_, exclusive := ?_,
               uncommitted := ?_, heldIssued := ?_, committedIssued := ?_, numbered := ?_ }
      · intro other grant found
        obtain ⟨before, stored, rfl⟩ := modify_eq_some_iff.mp found
        rw [tied.terms other before stored]
        split <;> rfl
      · intro other terms issued live
        obtain ⟨grant, stored⟩ := tied.present other terms issued live
        exact ⟨_, modify_eq_some_iff.mpr ⟨grant, stored, rfl⟩⟩
      · intro other grant i found
        obtain ⟨before, stored, rfl⟩ := modify_eq_some_iff.mp found
        rw [held_settled tied held, ← tied.reserved other before i stored]
        by_cases here : other = token
        · subst here
          simp only [if_true, Finset.mem_erase, ne_eq, Prod.mk.injEq, true_and]
        · have ne : (other, i) ≠ (token, index) := fun same => here (congrArg Prod.fst same)
          simp only [if_neg here, ne_eq, ne, not_false_eq_true, true_and]
      · intro other grant i found
        obtain ⟨before, stored, rfl⟩ := modify_eq_some_iff.mp found
        have old := tied.served other before i stored
        cases commits with
        | false =>
            simp only [Bool.false_eq_true, if_false, ← old]
            split <;> rfl
        | true =>
            simp only [if_true, Finset.mem_insert, ← old]
            by_cases here : other = token
            · subst here
              simp only [if_true, Finset.mem_insert, Prod.mk.injEq, true_and]
            · have ne : (other, i) ≠ (token, index) := fun same => here (congrArg Prod.fst same)
              simp only [if_neg here, ne, false_or]
      · intro first second other one two
        exact tied.exclusive first second other (kept first other one).1 (kept second other two).1
      · intro h other found
        obtain ⟨before, ne⟩ := kept h other found
        have old := tied.uncommitted h other before
        cases commits with
        | false => exact old
        | true => exact fun member => (Finset.mem_insert.mp member).elim ne old
      · intro h other i found
        exact tied.heldIssued h other i (kept h _ found).1
      · intro other i member
        cases commits with
        | false => exact tied.committedIssued other i member
        | true =>
            rcases Finset.mem_insert.mp member with same | member
            · cases same
              obtain ⟨terms, issued, -⟩ := tied.heldIssued holder token index held
              rw [issued]
              exact Option.some_ne_none terms
            · exact tied.committedIssued other i member
      · intro h other found
        exact tied.numbered h other (kept h other found).1

/-- Removing only grants that have expired by `clock` keeps the agreement. -/
theorem tied_cleaned (tied : Tied run) {registry : PeerFileRegistry PathBuf} {clock : Timestamp}
    (passes : run.clock ≤ clock)
    (kept : ∀ token grant, registry token = some grant → run.registry token = some grant)
    (live : ∀ token grant, run.registry token = some grant → clock < grant.expiresAt →
      registry token = some grant) : Tied { run with registry := registry, clock := clock } := by
  refine { tied with terms := ?_, present := ?_, reserved := ?_, served := ?_ }
  · exact fun token grant found => tied.terms token grant (kept token grant found)
  · intro token terms issued unexpired
    obtain ⟨grant, stored⟩ := tied.present token terms issued (passes.trans_lt unexpired)
    have same := tied.terms token grant stored
    rw [issued] at same
    cases same
    exact ⟨grant, live token grant stored unexpired⟩
  · exact fun token grant index found => tied.reserved token grant index (kept token grant found)
  · exact fun token grant index found => tied.served token grant index (kept token grant found)

/-- An unanswered claim only counts. -/
theorem tied_counted (tied : Tied run) : Tied { run with claims := run.claims + 1 } :=
  { tied with
    numbered := fun holder key held =>
      (tied.numbered holder key held).trans (Nat.lt_succ_self _) }

/-- Reserving a free index hands it to the next holder. -/
theorem tied_reserved (tied : Tied run) {token : String} {index : Nat}
    {grant : PeerFileGrant PathBuf} (stored : run.registry token = some grant)
    (notServed : index ∉ grant.servedIndexes) (notInFlight : index ∉ grant.inFlight)
    (within : index < grant.paths.length) :
    Tied { run with
      registry := Function.update run.registry token
        (some { grant with inFlight := insert index grant.inFlight })
      claims := run.claims + 1
      holders := Function.update run.holders run.claims (some (token, index)) } := by
  have issued := tied.terms token grant stored
  have unheld : ∀ holder, run.holders holder ≠ some (token, index) := fun holder held =>
    notInFlight ((tied.reserved token grant index stored).mpr ⟨holder, held⟩)
  have heldIff : ∀ key,
      (∃ holder, Function.update run.holders run.claims (some (token, index)) holder = some key) ↔
        key = (token, index) ∨ ∃ holder, run.holders holder = some key := by
    intro key
    simp only [update_eq_some_iff]
    constructor
    · rintro ⟨holder, ⟨-, same⟩ | ⟨-, held⟩⟩
      · exact Or.inl same
      · exact Or.inr ⟨holder, held⟩
    · rintro (same | ⟨holder, held⟩)
      · exact ⟨run.claims, Or.inl ⟨rfl, same⟩⟩
      · refine ⟨holder, Or.inr ⟨fun next => ?_, held⟩⟩
        rw [next, next_unheld tied] at held
        cases held
  refine { tied with terms := ?_, present := ?_, reserved := ?_, served := ?_, exclusive := ?_,
                     uncommitted := ?_, heldIssued := ?_, numbered := ?_ }
  · intro other found same
    rcases update_eq_some_iff.mp same with ⟨rfl, rfl⟩ | ⟨-, before⟩
    · exact issued
    · exact tied.terms other found before
  · intro other terms known live
    by_cases here : other = token
    · exact ⟨_, update_eq_some_iff.mpr (Or.inl ⟨here, rfl⟩)⟩
    · obtain ⟨found, before⟩ := tied.present other terms known live
      exact ⟨found, update_eq_some_iff.mpr (Or.inr ⟨here, before⟩)⟩
  · intro other found i same
    rw [heldIff]
    rcases update_eq_some_iff.mp same with ⟨rfl, rfl⟩ | ⟨ne, before⟩
    · rw [Finset.mem_insert, tied.reserved other grant i stored, Prod.mk.injEq,
        and_iff_right rfl]
    · have ne : (other, i) ≠ (token, index) := fun eq => ne (congrArg Prod.fst eq)
      rw [tied.reserved other found i before, or_iff_right ne]
  · intro other found i same
    rcases update_eq_some_iff.mp same with ⟨rfl, rfl⟩ | ⟨-, before⟩
    · exact tied.served other grant i stored
    · exact tied.served other found i before
  · intro first second key one two
    rcases update_eq_some_iff.mp one with ⟨rfl, rfl⟩ | ⟨-, one⟩
    · rcases update_eq_some_iff.mp two with ⟨rfl, -⟩ | ⟨-, two⟩
      · rfl
      · exact absurd two (unheld second)
    · rcases update_eq_some_iff.mp two with ⟨-, rfl⟩ | ⟨-, two⟩
      · exact absurd one (unheld first)
      · exact tied.exclusive first second key one two
  · intro holder key held
    rcases update_eq_some_iff.mp held with ⟨-, rfl⟩ | ⟨-, before⟩
    · exact fun member => notServed ((tied.served token grant index stored).mpr member)
    · exact tied.uncommitted holder key before
  · intro holder other i held
    rcases update_eq_some_iff.mp held with ⟨-, same⟩ | ⟨-, before⟩
    · cases same
      exact ⟨grant.toGrantTerms, issued, within⟩
    · exact tied.heldIssued holder other i before
  · intro holder key held
    rcases update_eq_some_iff.mp held with ⟨rfl, -⟩ | ⟨-, before⟩
    · exact Nat.lt_succ_self _
    · exact (tied.numbered holder key before).trans (Nat.lt_succ_self _)

theorem tied_claim (tied : Tied run) {now later : Timestamp} {token : String} {index : Nat}
    {request : PeerFileRequest}
    (legal : run.Legal (.claim now later token index request)) :
    Tied (run.step x (.claim now later token index request)) := by
  obtain ⟨inTime, passes⟩ := legal
  have clean : Tied { run with registry := cleanupExpired now run.registry, clock := later } :=
    tied_cleaned tied (inTime.trans passes)
      (fun token grant found => (cleanupExpired_eq_some_iff.mp found).1)
      (fun token grant stored live =>
        cleanupExpired_eq_some_iff.mpr ⟨stored, passes.trans_lt live⟩)
  have outcome := claim_outcome x run.registry now later token index request
  simp only [GrantRun.step, GrantRun.answer]
  generalize run.registry.claim x now later token index request = result at outcome ⊢
  cases outcome with
  | available grant path claimable =>
      have found : cleanupExpired now run.registry token = some grant :=
        cleanupExpired_eq_some_iff.mpr ⟨claimable.stored, claimable.live⟩
      have within : index < grant.paths.length := by
        obtain ⟨within, -⟩ := List.getElem?_eq_some_iff.mp claimable.file
        exact within
      exact tied_reserved clean found claimable.notServed claimable.notInFlight within
  | refused answer refuses inTime =>
      cases answer with
      | available path => exact absurd rfl (refuses path)
      | _ => exact tied_counted clean
  | expired grant stored unexpired late =>
      have removed : Tied { run with
          registry := Function.update (cleanupExpired now run.registry) token none
          clock := later } := by
        apply tied_cleaned tied (inTime.trans passes)
        · intro other found same
          by_cases here : other = token
          · subst here
            rw [Function.update_self] at same
            cases same
          · rw [Function.update_of_ne here] at same
            exact (cleanupExpired_eq_some_iff.mp same).1
        · intro other found before live
          have here : other ≠ token := by
            rintro rfl
            obtain rfl : found = grant := Option.some.inj (before.symm.trans stored)
            exact lt_asymm late live
          rw [Function.update_of_ne here]
          exact cleanupExpired_eq_some_iff.mpr ⟨before, passes.trans_lt live⟩
      exact tied_counted removed

theorem tied_step (tied : Tied run) {event : GrantEvent PathBuf} (legal : run.Legal event) :
    Tied (run.step x event) := by
  cases event with
  | register now later token clipId sourceDeviceId authorizedPublicKeys paths ttl =>
      exact tied_register tied legal
  | bindClipId token clipId => exact tied_bindClipId tied token clipId
  | claim now later token index request => exact tied_claim tied legal
  | commitServed holder => exact tied_settle tied holder true
  | release holder => exact tied_settle tied holder false

theorem tied_after {clock : Timestamp} {events : List (GrantEvent PathBuf)}
    (legal : GrantRun.LegalRun x clock events) : Tied (GrantRun.after x clock events) :=
  run_invariant (fun _ _ tied legal => tied_step tied legal) legal (tied_start clock)

/-! ## What a claim is answered -/

/-- **The answer of a claim, from the run alone.** -/
theorem claim_available_of_tied (tied : Tied run) {now later : Timestamp} (inTime : run.clock ≤ now)
    {token : String} {index : Nat} {request : PeerFileRequest} {path : PathBuf} :
    run.answer x now later token index request = .available path ↔
      ∃ terms, run.issued token = some terms ∧ now < terms.expiresAt ∧
        later ≤ terms.expiresAt ∧ Authorized x terms token index request ∧
        (token, index) ∉ run.committed ∧
        (∀ holder, run.holders holder ≠ some (token, index)) ∧
        terms.paths[index]? = some path := by
  simp only [GrantRun.answer]
  rw [claim_available_iff]
  constructor
  · rintro ⟨grant, stored, live, unexpired, authorized, notServed, notInFlight, file⟩
    refine ⟨grant.toGrantTerms, tied.terms token grant stored, live, unexpired, authorized,
      fun member => notServed ((tied.served token grant index stored).mpr member), ?_, file⟩
    exact fun holder held =>
      notInFlight ((tied.reserved token grant index stored).mpr ⟨holder, held⟩)
  · rintro ⟨terms, issued, live, unexpired, authorized, uncommitted, unheld, file⟩
    obtain ⟨grant, stored⟩ := tied.present token terms issued (inTime.trans_lt live)
    obtain rfl : grant.toGrantTerms = terms :=
      Option.some.inj ((tied.terms token grant stored).symm.trans issued)
    refine ⟨grant, stored, live, unexpired, authorized,
      fun member => uncommitted ((tied.served token grant index stored).mp member), ?_, file⟩
    intro member
    obtain ⟨holder, held⟩ := (tied.reserved token grant index stored).mp member
    exact unheld holder held

/-- What is committed stays committed. -/
theorem committed_step {key : String × Nat} (member : key ∈ run.committed)
    (event : GrantEvent PathBuf) : key ∈ (run.step x event).committed := by
  have settle : ∀ holder commits, key ∈ (run.settle holder commits).committed := by
    intro holder commits
    unfold GrantRun.settle
    cases run.holders holder with
    | none => exact member
    | some other =>
        cases commits with
        | false => exact member
        | true => exact Finset.mem_insert_of_mem member
  cases event with
  | commitServed holder => exact settle holder true
  | release holder => exact settle holder false
  | _ => exact member

/-- The key is issued, within range, and neither reserved nor committed. -/
def FreeKey (token : String) (index : Nat) (run : GrantRun PathBuf) : Prop :=
  (∃ terms, run.issued token = some terms ∧ index < terms.paths.length) ∧
    (token, index) ∉ run.committed ∧ ∀ holder, run.holders holder ≠ some (token, index)

theorem issued_settle (holder : Nat) (commits : Bool) :
    (run.settle holder commits).issued = run.issued := by
  unfold GrantRun.settle
  cases run.holders holder <;> rfl

/-- The terms issued for a token keep their paths. -/
theorem issued_step {token : String} {terms : GrantTerms PathBuf}
    (issued : run.issued token = some terms) {event : GrantEvent PathBuf}
    (legal : run.Legal event) :
    ∃ kept, (run.step x event).issued token = some kept ∧ kept.paths = terms.paths := by
  cases event with
  | register now later other clipId sourceDeviceId authorizedPublicKeys paths ttl =>
      obtain ⟨-, -, fresh⟩ := legal
      have ne : token ≠ other.asStr := by
        rintro rfl
        rw [fresh] at issued
        cases issued
      exact ⟨terms, (Function.update_of_ne ne _ _).trans issued, rfl⟩
  | bindClipId other clipId =>
      by_cases here : token = other.asStr
      · subst here
        refine ⟨{ terms with clipId := some clipId }, ?_, rfl⟩
        simp only [GrantRun.step, Function.update_self, issued, Option.map_some]
      · exact ⟨terms, (Function.update_of_ne here _ _).trans issued, rfl⟩
  | claim now later other i request => exact ⟨terms, issued, rfl⟩
  | commitServed holder =>
      exact ⟨terms, (congrFun (issued_settle holder true) token).trans issued, rfl⟩
  | release holder =>
      exact ⟨terms, (congrFun (issued_settle holder false) token).trans issued, rfl⟩

/-- A free key stays free until it is claimed. -/
theorem freeKey_step {token : String} {index : Nat} (free : FreeKey token index run)
    {event : GrantEvent PathBuf} (legal : run.Legal event) (other : ¬ event.Claims token index) :
    FreeKey token index (run.step x event) := by
  obtain ⟨⟨terms, issued, within⟩, uncommitted, unheld⟩ := free
  have known : ∃ terms, (run.step x event).issued token = some terms ∧
      index < terms.paths.length := by
    obtain ⟨kept, same, paths⟩ := issued_step (x := x) issued legal
    exact ⟨kept, same, paths ▸ within⟩
  have settle : ∀ holder commits, (token, index) ∉ (run.settle holder commits).committed ∧
      ∀ h, (run.settle holder commits).holders h ≠ some (token, index) := by
    intro holder commits
    unfold GrantRun.settle
    cases held : run.holders holder with
    | none => exact ⟨uncommitted, unheld⟩
    | some key =>
        have ne : (token, index) ≠ key := fun same => unheld holder (same ▸ held)
        refine ⟨?_, fun h found => ?_⟩
        · cases commits with
          | false => exact uncommitted
          | true => exact fun member => (Finset.mem_insert.mp member).elim ne uncommitted
        · by_cases own : h = holder
          · subst own
            simp only [Function.update_self] at found
            cases found
          · simp only [Function.update_of_ne own] at found
            exact unheld h found
  cases event with
  | register now later registered clipId sourceDeviceId authorizedPublicKeys paths ttl =>
      exact ⟨known, uncommitted, unheld⟩
  | bindClipId bound clipId => exact ⟨known, uncommitted, unheld⟩
  | claim now later claimed i request =>
      refine ⟨known, uncommitted, fun holder held => ?_⟩
      simp only [GrantRun.step] at held
      generalize run.answer x now later claimed i request = answer at held
      cases answer with
      | available path =>
          rcases update_eq_some_iff.mp held with ⟨-, same⟩ | ⟨-, before⟩
          · cases same
            exact other ⟨rfl, rfl⟩
          · exact unheld holder before
      | _ => exact unheld holder held
  | commitServed holder => exact ⟨known, settle holder true⟩
  | release holder => exact ⟨known, settle holder false⟩

/-- Terms that were not there before, up to the clip they are bound to, are registered. -/
theorem registers_of_issued_step {event : GrantEvent PathBuf} {token : String}
    {terms : GrantTerms PathBuf} (issued : (run.step x event).issued token = some terms) :
    event.Registers token terms.paths ∨
      ∃ before, run.issued token = some before ∧ before.paths = terms.paths := by
  cases event with
  | register now later other clipId sourceDeviceId authorizedPublicKeys paths ttl =>
      rcases update_eq_some_iff.mp issued with ⟨rfl, rfl⟩ | ⟨-, before⟩
      · exact Or.inl ⟨rfl, rfl⟩
      · exact Or.inr ⟨terms, before, rfl⟩
  | bindClipId other clipId =>
      right
      by_cases here : token = other.asStr
      · subst here
        simp only [GrantRun.step, Function.update_self, Option.map_eq_some_iff] at issued
        obtain ⟨before, stored, rfl⟩ := issued
        exact ⟨before, stored, rfl⟩
      · simp only [GrantRun.step, Function.update_of_ne here] at issued
        exact ⟨terms, issued, rfl⟩
  | claim now later other i request => exact Or.inr ⟨terms, issued, rfl⟩
  | commitServed holder =>
      exact Or.inr ⟨terms, (congrFun (issued_settle holder true) token).symm.trans issued, rfl⟩
  | release holder =>
      exact Or.inr ⟨terms, (congrFun (issued_settle holder false) token).symm.trans issued, rfl⟩

theorem registered_of_issued {clock : Timestamp} (events : List (GrantEvent PathBuf)) :
    ∀ token terms, (GrantRun.after x clock events).issued token = some terms →
      ∃ event ∈ events, event.Registers token terms.paths := by
  induction events using List.reverseRecOn with
  | nil => exact fun token terms issued => nomatch issued
  | append_singleton events event ih =>
      intro token terms issued
      have last : GrantRun.after x clock (events ++ [event]) =
          (GrantRun.after x clock events).step x event := runFrom_append _ _ events [event]
      rw [last] at issued
      rcases registers_of_issued_step issued with registers | ⟨before, stored, paths⟩
      · exact ⟨event, List.mem_append_right _ List.mem_cons_self, registers⟩
      · obtain ⟨earlier, member, registers⟩ := ih token before stored
        exact ⟨earlier, List.mem_append_left _ member, paths ▸ registers⟩

end Steps

/-! ## The promise -/

section Promise

variable (x : SignatureCrates) {clock : Timestamp} {events : List (GrantEvent PathBuf)}

theorem after_append (clock : Timestamp) (before : List (GrantEvent PathBuf))
    (event : GrantEvent PathBuf) (middle : List (GrantEvent PathBuf)) :
    GrantRun.after x clock (before ++ event :: middle) =
      runFrom (GrantRun.step x) ((GrantRun.after x clock before).step x event) middle :=
  runFrom_append _ _ before (event :: middle)

/-- A legal run, cut at one of its claims. -/
theorem legal_at_claim {before middle rest : List (GrantEvent PathBuf)}
    {event : GrantEvent PathBuf} {now later : Timestamp} {token : String} {index : Nat}
    {request : PeerFileRequest}
    (legal : GrantRun.LegalRun x clock (before ++ event ::
      (middle ++ .claim now later token index request :: rest))) :
    GrantRun.LegalRun x clock (before ++ event :: middle) ∧
      (GrantRun.after x clock (before ++ event :: middle)).clock ≤ now := by
  have split : before ++ event :: (middle ++ .claim now later token index request :: rest) =
      (before ++ event :: middle) ++ .claim now later token index request :: rest := by
    rw [List.append_assoc, List.cons_append]
  simp only [GrantRun.LegalRun] at legal
  rw [split] at legal
  obtain ⟨first, ⟨inTime, -⟩, -⟩ := along_append.mp legal
  exact ⟨first, inTime⟩

/-- **Every legal run keeps the promise of a one-time grant.** -/
theorem oneTimeGrant (legal : GrantRun.LegalRun x clock events) : OneTimeGrant x clock events := by
  constructor
  · rintro before rest rfl first second key one two
    exact (tied_after (along_append.mp legal).1).exclusive first second key one two
  · rintro before holder middle now later token index request rest rfl held path answered
    obtain ⟨first, inTime⟩ := legal_at_claim x legal
    obtain ⟨-, -, -, -, -, uncommitted, -, -⟩ :=
      (claim_available_of_tied (tied_after first) inTime).mp answered
    have member : (token, index) ∈
        ((GrantRun.after x clock before).step x (.commitServed holder)).committed := by
      simp only [GrantRun.step, GrantRun.settle, held, if_true]
      exact Finset.mem_insert_self _ _
    have keeps : ∀ (run : GrantRun PathBuf) event, (token, index) ∈ run.committed →
        (token, index) ∈ (run.step x event).committed :=
      fun _ event member => committed_step member event
    rw [after_append] at uncommitted
    exact uncommitted (run_preserves keeps member middle)
  · rintro before holder middle now later token index request rest rfl held others terms issued
      live unexpired authorized
    obtain ⟨first, inTime⟩ := legal_at_claim x legal
    have start := tied_after (along_append.mp first).1
    have released : FreeKey token index
        ((GrantRun.after x clock before).step x (.release holder)) := by
      have settled : (GrantRun.after x clock before).step x (.release holder) =
          (GrantRun.after x clock before).settle holder false := rfl
      rw [settled]
      refine ⟨?_, ?_, fun h found => ?_⟩
      · rw [issued_settle]
        exact start.heldIssued holder token index held
      · simp only [GrantRun.settle, held]
        exact start.uncommitted holder _ held
      · simp only [GrantRun.settle, held] at found
        exact ((held_settled start held).mp ⟨h, found⟩).1 rfl
    obtain ⟨-, -, along⟩ := along_append.mp first
    have keeps : ∀ (run : GrantRun PathBuf) event, FreeKey token index run →
        run.Legal event ∧ ¬ event.Claims token index → FreeKey token index (run.step x event) :=
      fun _ _ free allowed => freeKey_step free allowed.1 allowed.2
    have free : FreeKey token index
        (GrantRun.after x clock (before ++ .release holder :: middle)) := by
      rw [after_append]
      exact run_invariant keeps (along_and along others) released
    obtain ⟨⟨known, same, within⟩, uncommitted, unheld⟩ := free
    rw [issued] at same
    cases same
    exact ⟨terms.paths[index], (claim_available_of_tied (tied_after first) inTime).mpr
      ⟨terms, issued, live, unexpired, authorized, uncommitted, unheld,
        List.getElem?_eq_getElem within⟩⟩
  · rintro before now later token index request rest path rfl answered
    obtain ⟨first, ⟨⟨inTime, -⟩, -⟩⟩ := along_append.mp legal
    obtain ⟨terms, issued, -, -, -, -, -, file⟩ :=
      (claim_available_of_tied (tied_after first) inTime).mp answered
    obtain ⟨event, member, registers⟩ := registered_of_issued before token terms issued
    exact ⟨event, member, terms.paths, registers, file⟩

end Promise

/-! ## A retried transfer -/

namespace Retry

open Sample

/-- The file is claimed, released, claimed again and committed; a third claim follows. -/
def events : List (GrantEvent String) :=
  [.register 0 0 token none source keys ["/tmp/a.txt"] (seconds 600),
   .bindClipId token ⟨"clip_1"⟩,
   .claim 1 1 "tt_1" 0 request,
   .release 0,
   .claim 2 2 "tt_1" 0 request,
   .commitServed 1,
   .claim 3 3 "tt_1" 0 request]

/-- Satisfiable pole: the second claim is answered with the file, and the run keeps the
promise of a one-time grant. -/
theorem retry_oneTimeGrant :
    (GrantRun.after signatureCrates 0 (events.take 4)).answer signatureCrates 2 2 "tt_1" 0
      request = .available "/tmp/a.txt" ∧ OneTimeGrant signatureCrates 0 events := by
  have legal : GrantRun.LegalRun signatureCrates 0 events := by
    refine ⟨⟨?_, ?_, rfl⟩, trivial, ⟨?_, ?_⟩, trivial, ⟨?_, ?_⟩, trivial, ⟨?_, ?_⟩, trivial⟩ <;>
      decide +kernel
  exact ⟨by decide +kernel, oneTimeGrant signatureCrates legal⟩

end Retry

end AirPaste.Agent
