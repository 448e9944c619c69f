/-
# Server.SimpleInbox — the plaintext slot for simple devices

`AppState` keeps one plaintext entry for simple devices.  `set_simple_inbox` overwrites
it; `simple_inbox` clones it under the read lock, looks at the clock, and clears the slot
under the write lock when the clone has expired.  `simpleInbox` is that function run on its
own; `SlotStep` are the steps of many calls, each of which takes one lock or one clock
reading, and `wholeCall_returns` connects the two.

A call clears the slot whatever it holds by then.  `survives_iff` says in which runs a
fresh entry survives; in `Overwritten.fresh_cleared` one does not.
-/
import AirPaste.Theory.Run
import AirPaste.Server.Clips

namespace AirPaste.Server

open AirPaste.Core
open AirPaste.Theory

set_option autoImplicit false

def SimpleInboxEntry.isExpired (now : Timestamp) (entry : SimpleInboxEntry) : Bool :=
  entry.expiresAt.any fun expiresAt => decide (expiresAt ≤ now)

/-- An entry that has expired stays expired. -/
theorem SimpleInboxEntry.isExpired_later {entry : SimpleInboxEntry} {now later : Timestamp}
    (expired : entry.isExpired now = true) (le : now ≤ later) : entry.isExpired later = true := by
  unfold isExpired at *
  cases due : entry.expiresAt with
  | none => simp [due] at expired
  | some expiresAt =>
      simp only [due, Option.any_some, decide_eq_true_eq] at expired ⊢
      exact Int.le_trans expired le

theorem SimpleInboxEntry.isExpired_earlier {entry : SimpleInboxEntry} {now later : Timestamp}
    (fresh : entry.isExpired later = false) (le : now ≤ later) : entry.isExpired now = false := by
  cases expired : entry.isExpired now with
  | false => rfl
  | true =>
      rw [isExpired_later expired le] at fresh
      cases fresh

/-- `AppState::simple_inbox`, run on its own: what it returns and the slot it leaves. -/
def simpleInbox (now : Timestamp) (slot : Option SimpleInboxEntry) :
    Option SimpleInboxEntry × Option SimpleInboxEntry :=
  match slot with
  | none => (none, none)
  | some entry => if entry.isExpired now then (none, none) else (some entry, some entry)

theorem simpleInbox_some_iff {now : Timestamp} {slot : Option SimpleInboxEntry}
    {entry : SimpleInboxEntry} :
    (simpleInbox now slot).1 = some entry ↔ slot = some entry ∧ entry.isExpired now = false := by
  cases slot with
  | none => simp [simpleInbox]
  | some held =>
      cases expired : held.isExpired now with
      | true =>
          simp only [simpleInbox, expired, if_true, Option.some.injEq]
          constructor
          · intro nothing
            cases nothing
          · rintro ⟨rfl, fresh⟩
            cases expired.symm.trans fresh
      | false =>
          simp only [simpleInbox, expired, Bool.false_eq_true, if_false, Option.some.injEq]
          constructor
          · rintro rfl
            exact ⟨rfl, expired⟩
          · exact And.left

/-! ## Calls that overlap -/

/-- Where a call of `simple_inbox` stands.  `since` is how many entries had been set when
the call started. -/
inductive InboxPhase where
  | idle
  | reading (since : Nat)
  /-- The entry is cloned, the clock is not read yet. -/
  | checking (since : Nat) (entry : SimpleInboxEntry)
  /-- The clone has expired, the slot is not cleared yet. -/
  | clearing (since : Nat)

/-- What a call returned, and when: how many entries had been set when it started and when
it returned, and the last of them. -/
structure InboxReturn where
  since : Nat
  sets : Nat
  last : Option SimpleInboxEntry
  clock : Timestamp
  entry : Option SimpleInboxEntry

/-- A call that started after the last set, and returned before that entry expired,
returned the entry. -/
def InboxReturn.Survived (call : InboxReturn) : Prop :=
  call.since = call.sets → ∀ entry, call.last = some entry →
    entry.isExpired call.clock = false → call.entry = some entry

/-- The slot with the calls at work.  `sets`, `last` and `returned` record what was set and
returned; no step reads them. -/
structure SimpleSlot where
  slot : Option SimpleInboxEntry
  clock : Timestamp
  calls : Nat → InboxPhase
  sets : Nat
  last : Option SimpleInboxEntry
  returned : List InboxReturn

inductive SlotStep where
  | passes (elapsed : Nat)
  | sets (entry : SimpleInboxEntry)
  | starts (call : Nat)
  | reads (call : Nat)
  | checks (call : Nat)
  | clears (call : Nat)

namespace SimpleSlot

def new (clock : Timestamp) : SimpleSlot where
  slot := none
  clock := clock
  calls := fun _ => .idle
  sets := 0
  last := none
  returned := []

def setPhase (s : SimpleSlot) (call : Nat) (phase : InboxPhase) : SimpleSlot :=
  { s with calls := fun other => if other = call then phase else s.calls other }

def returns (s : SimpleSlot) (call since : Nat) (entry : Option SimpleInboxEntry) : SimpleSlot :=
  { s.setPhase call .idle with
    returned := ⟨since, s.sets, s.last, s.clock, entry⟩ :: s.returned }

def setSimpleInbox (s : SimpleSlot) (entry : SimpleInboxEntry) : SimpleSlot :=
  { s with slot := some entry, sets := s.sets + 1, last := some entry }

def starts (s : SimpleSlot) (call : Nat) : SimpleSlot :=
  match s.calls call with
  | .idle => s.setPhase call (.reading s.sets)
  | _ => s

def reads (s : SimpleSlot) (call : Nat) : SimpleSlot :=
  match s.calls call with
  | .reading since =>
      match s.slot with
      | none => s.returns call since none
      | some entry => s.setPhase call (.checking since entry)
  | _ => s

def checks (s : SimpleSlot) (call : Nat) : SimpleSlot :=
  match s.calls call with
  | .checking since entry =>
      if entry.isExpired s.clock then s.setPhase call (.clearing since)
      else s.returns call since (some entry)
  | _ => s

def clears (s : SimpleSlot) (call : Nat) : SimpleSlot :=
  match s.calls call with
  | .clearing since => { s.returns call since none with slot := none }
  | _ => s

def step (s : SimpleSlot) : SlotStep → SimpleSlot
  | .passes elapsed => { s with clock := s.clock + elapsed }
  | .sets entry => s.setSimpleInbox entry
  | .starts call => s.starts call
  | .reads call => s.reads call
  | .checks call => s.checks call
  | .clears call => s.clears call

/-- Every call returned what the last set left there, and so would a call made now. -/
structure Survives (s : SimpleSlot) : Prop where
  returned : ∀ call ∈ s.returned, call.Survived
  now : ∀ entry, s.last = some entry → entry.isExpired s.clock = false →
    (simpleInbox s.clock s.slot).1 = some entry

/-- A call that clears the slot finds it empty, or holding an entry that has expired. -/
def ClearsExpired (s : SimpleSlot) (event : SlotStep) : Prop :=
  ∀ call since entry, event = .clears call → s.calls call = .clearing since →
    s.slot = some entry → entry.isExpired s.clock = true

/-- What the slot and the calls at work know about the last entry. -/
structure Sound (s : SimpleSlot) : Prop where
  latest : ∀ entry, s.slot = some entry → s.last = some entry
  reading : ∀ call since, s.calls call = .reading since → since ≤ s.sets
  checking : ∀ call since entry, s.calls call = .checking since entry →
    since ≤ s.sets ∧ (since = s.sets → s.last = some entry)
  clearing : ∀ call since, s.calls call = .clearing since →
    since ≤ s.sets ∧ (since = s.sets → ∀ entry, s.last = some entry →
      entry.isExpired s.clock = true)

variable {s : SimpleSlot}

@[simp] theorem setPhase_self (call : Nat) (phase : InboxPhase) :
    (s.setPhase call phase).calls call = phase := if_pos rfl

theorem setPhase_cases {call other : Nat} {phase found : InboxPhase}
    (here : (s.setPhase call phase).calls other = found) :
    (other = call ∧ found = phase) ∨ s.calls other = found := by
  by_cases same : other = call
  · subst same
    exact .inl ⟨rfl, here.symm.trans (setPhase_self other phase)⟩
  · exact .inr ((if_neg same).symm.trans here)

/-- What a call in the phase knows about the last entry. -/
def Fits (s : SimpleSlot) : InboxPhase → Prop
  | .idle => True
  | .reading since => since ≤ s.sets
  | .checking since entry => since ≤ s.sets ∧ (since = s.sets → s.last = some entry)
  | .clearing since => since ≤ s.sets ∧ (since = s.sets → ∀ entry, s.last = some entry →
      entry.isExpired s.clock = true)

/-- A call may move on to a phase that fits. -/
theorem Sound.setPhase (sound : s.Sound) (call : Nat) {phase : InboxPhase}
    (fits : s.Fits phase) : (s.setPhase call phase).Sound where
  latest := sound.latest
  reading other since here := by
    rcases setPhase_cases here with ⟨_, rfl⟩ | old
    · exact fits
    · exact sound.reading other since old
  checking other since entry here := by
    rcases setPhase_cases here with ⟨_, rfl⟩ | old
    · exact fits
    · exact sound.checking other since entry old
  clearing other since here := by
    rcases setPhase_cases here with ⟨_, rfl⟩ | old
    · exact fits
    · exact sound.clearing other since old

theorem Sound.returns (sound : s.Sound) (call since : Nat) (entry : Option SimpleInboxEntry) :
    (s.returns call since entry).Sound := by
  have idle := sound.setPhase call (show s.Fits .idle from trivial)
  exact ⟨idle.latest, idle.reading, idle.checking, idle.clearing⟩

theorem Sound.setSimpleInbox (sound : s.Sound) (entry : SimpleInboxEntry) :
    (s.setSimpleInbox entry).Sound where
  latest _ same := same
  reading call since here := Nat.le_succ_of_le (sound.reading call since here)
  checking call since entry here := by
    have before := (sound.checking call since entry here).1
    refine ⟨Nat.le_succ_of_le before, fun same => ?_⟩
    simp only [SimpleSlot.setSimpleInbox] at same
    omega
  clearing call since here := by
    have before := (sound.clearing call since here).1
    refine ⟨Nat.le_succ_of_le before, fun same => ?_⟩
    simp only [SimpleSlot.setSimpleInbox] at same
    omega

theorem step_sound (s : SimpleSlot) (event : SlotStep) (sound : s.Sound) :
    (s.step event).Sound := by
  cases event with
  | passes elapsed =>
      refine ⟨sound.latest, sound.reading, sound.checking, fun call since here => ?_⟩
      obtain ⟨before, expired⟩ := sound.clearing call since here
      refine ⟨before, fun same entry last => ?_⟩
      have later : s.clock ≤ s.clock + (elapsed : Int) := Int.le_add_of_nonneg_right (by omega)
      exact SimpleInboxEntry.isExpired_later (expired same entry last) later
  | sets entry => exact sound.setSimpleInbox entry
  | starts call =>
      simp only [step, starts]
      split
      · exact sound.setPhase call (Nat.le_refl s.sets)
      · exact sound
  | reads call =>
      simp only [step, reads]
      split
      next since phase =>
          split
          · exact sound.returns call since none
          next entry held =>
              have known : s.Fits (.checking since entry) :=
                ⟨sound.reading call since phase, fun _ => sound.latest entry held⟩
              exact sound.setPhase call known
      next => exact sound
  | checks call =>
      simp only [step, checks]
      split
      next since entry phase =>
          obtain ⟨before, last⟩ := sound.checking call since entry phase
          split
          next expired =>
              have known : s.Fits (.clearing since) := by
                refine ⟨before, fun now held known => ?_⟩
                cases (last now).symm.trans known
                exact expired
              exact sound.setPhase call known
          next => exact sound.returns call since (some entry)
      next => exact sound
  | clears call =>
      simp only [step, clears]
      split
      next since phase =>
          have returned := sound.returns call since none
          refine ⟨?_, returned.reading, returned.checking, returned.clearing⟩
          intro entry held
          cases held
      next => exact sound

theorem new_sound (clock : Timestamp) : (new clock).Sound := by
  refine ⟨?_, ?_, ?_, ?_⟩
  · intro entry held
    cases held
  · intro call since here
    cases here
  · intro call since entry here
    cases here
  · intro call since here
    cases here

theorem Survives.returns (survives : s.Survives) (call since : Nat)
    (entry : Option SimpleInboxEntry)
    (right : since = s.sets → ∀ last, s.last = some last → last.isExpired s.clock = false →
      entry = some last) : (s.returns call since entry).Survives where
  returned := by
    intro done member
    rcases List.mem_cons.mp member with rfl | earlier
    · exact right
    · exact survives.returned done earlier
  now := survives.now

/-- Where a call clears the slot, a fresh entry survives exactly when there was none. -/
theorem clears_survives (sound : s.Sound) (survives : s.Survives) (call : Nat) :
    (s.clears call).Survives ↔ s.ClearsExpired (.clears call) := by
  unfold clears
  split
  next since phase =>
      constructor
      · intro after call' since' entry same clearing held
        have last := sound.latest entry held
        cases fresh : entry.isExpired s.clock with
        | true => rfl
        | false => cases (simpleInbox_some_iff.mp (after.now entry last fresh)).1
      · intro expired
        have idle := survives.returns call since none fun now last known fresh => by
          have due := (sound.clearing call since phase).2 now last known
          cases fresh.symm.trans due
        refine ⟨idle.returned, fun entry last fresh => ?_⟩
        have held := (simpleInbox_some_iff.mp (survives.now entry last fresh)).1
        have due := expired call since entry rfl phase held
        cases fresh.symm.trans due
  next other =>
      refine iff_of_true survives fun call' since' entry same clearing _ => ?_
      cases same
      exact absurd clearing (other since')

theorem step_survives (s : SimpleSlot) (event : SlotStep) (sound : s.Sound)
    (survives : s.Survives) : (s.step event).Survives ↔ s.ClearsExpired event := by
  have quietly : (∀ call, event ≠ .clears call) → (s.step event).Survives →
      ((s.step event).Survives ↔ s.ClearsExpired event) := by
    intro other after
    exact iff_of_true after fun call since entry same _ _ => absurd same (other call)
  cases event with
  | passes elapsed =>
      refine quietly (by simp) ⟨survives.returned, fun entry last fresh => ?_⟩
      have later : s.clock ≤ s.clock + (elapsed : Int) := Int.le_add_of_nonneg_right (by omega)
      have held := survives.now entry last (SimpleInboxEntry.isExpired_earlier fresh later)
      exact simpleInbox_some_iff.mpr ⟨(simpleInbox_some_iff.mp held).1, fresh⟩
  | sets entry =>
      refine quietly (by simp) ⟨survives.returned, fun last same fresh => ?_⟩
      exact simpleInbox_some_iff.mpr ⟨same, fresh⟩
  | starts call =>
      refine quietly (by simp) ?_
      simp only [step, starts]
      split
      · exact ⟨survives.returned, survives.now⟩
      · exact survives
  | reads call =>
      refine quietly (by simp) ?_
      simp only [step, reads]
      split
      next since phase =>
          split
          next empty =>
              refine survives.returns call since none fun _ last known fresh => ?_
              have held := (simpleInbox_some_iff.mp (survives.now last known fresh)).1
              cases empty.symm.trans held
          next => exact ⟨survives.returned, survives.now⟩
      next => exact survives
  | checks call =>
      refine quietly (by simp) ?_
      simp only [step, checks]
      split
      next since entry phase =>
          split
          · exact ⟨survives.returned, survives.now⟩
          · refine survives.returns call since (some entry) fun now last known _ => ?_
            exact ((sound.checking call since entry phase).2 now).symm.trans known
      next => exact survives
  | clears call => exact clears_survives sound survives call

theorem new_survives (clock : Timestamp) : (new clock).Survives := by
  refine ⟨?_, ?_⟩
  · intro call member
    cases member
  · intro entry last
    cases last

/-- A fresh entry survives throughout a run exactly when no call clears one that has not
expired. -/
theorem survives_iff (clock : Timestamp) (events : List SlotStep) :
    Throughout step Survives (new clock) events ↔ Along step ClearsExpired (new clock) events :=
  throughout_iff step_sound step_survives (new_sound clock) (new_survives clock)

/-- The steps of a call that nothing interrupts. -/
def wholeCall (call : Nat) : List SlotStep :=
  [.starts call, .reads call, .checks call, .clears call]

/-- A call that nothing interrupts does what `simpleInbox` says. -/
theorem wholeCall_returns (call : Nat) (idle : s.calls call = .idle) :
    (runFrom step s (wholeCall call)).slot = (simpleInbox s.clock s.slot).2 ∧
      (runFrom step s (wholeCall call)).returned =
        ⟨s.sets, s.sets, s.last, s.clock, (simpleInbox s.clock s.slot).1⟩ :: s.returned := by
  cases held : s.slot with
  | none =>
      simp [wholeCall, step, starts, reads, checks, clears, returns, setPhase, idle, held,
        simpleInbox]
  | some entry =>
      cases expired : entry.isExpired s.clock with
      | true =>
          simp [wholeCall, step, starts, reads, checks, clears, returns, setPhase, idle, held,
            simpleInbox, expired]
      | false =>
          simp [wholeCall, step, starts, reads, checks, clears, returns, setPhase, idle, held,
            simpleInbox, expired]

end SimpleSlot

namespace Overwritten

open SimpleSlot

def stale : SimpleInboxEntry := ⟨"old", "phone", 0, some (seconds 600)⟩
def fresh : SimpleInboxEntry := ⟨"new", "laptop", seconds 600, some (seconds 1200)⟩

/-- The first call finds the stale entry expired; the fresh one is set before it clears the
slot, and the second call starts after that. -/
def events : List SlotStep :=
  [.sets stale, .passes 600000000000, .starts 0, .reads 0, .checks 0, .sets fresh, .clears 0,
    .starts 1, .reads 1]

theorem fresh_cleared : ¬ ∀ call ∈ (runFrom step (new 0) events).returned, call.Survived := by
  intro all
  have second : ⟨2, 2, some fresh, seconds 600, none⟩ ∈ (runFrom step (new 0) events).returned := by
    simp [events, step, setSimpleInbox, starts, reads, checks, clears, returns, setPhase, new,
      SimpleInboxEntry.isExpired, stale, fresh, seconds]
  cases all _ second rfl fresh rfl (by decide)

end Overwritten

end AirPaste.Server
