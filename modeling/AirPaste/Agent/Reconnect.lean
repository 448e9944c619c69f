/-
# Agent.Reconnect — the delay before the next connection

`run_ws` opens the control connection again and again and sleeps in between.  The delay is the
base after a session that ended well, and doubles from failure to failure up to a maximum; the
loop sees an error or none, not whether it had been connected.  `WsLoop` is the loop over the
outcomes, which are also recorded; `WsRun` is the loop over the sessions themselves, and sleeps
as long (`runWs_wsLoop`).

`BackoffLaw` asks for the base after every session that had been connected, and for doubling
over connections that never came about.  `backoffLaw_iff`: it holds exactly where no two
failures in a row have one among them that had been connected.
-/
import AirPaste.Agent.ServerEvents
import AirPaste.Theory.Run
import Mathlib.Data.List.Chain

namespace AirPaste.Agent

open AirPaste.Crypto
open AirPaste.Theory

set_option autoImplicit false

/-- `WS_RECONNECT_BASE`, in seconds. -/
def wsReconnectBase : Nat := 2

/-- `WS_RECONNECT_MAX`, in seconds. -/
def wsReconnectMax : Nat := 30

/-- How a call of `run_ws_once` ended. -/
inductive WsOutcome where
  | neverConnected
  | endedCleanly
  | endedInError
  deriving DecidableEq

/-- `outcome.is_ok()`. -/
def WsOutcome.isOk : WsOutcome → Bool
  | .endedCleanly => true
  | _ => false

/-- The loop of `run_ws`; `outcomes` records how the sessions ended, newest first. -/
structure WsLoop where
  backoff : Nat
  /-- What the loop slept last. -/
  delay : Nat
  outcomes : List WsOutcome

namespace WsLoop

def new : WsLoop := ⟨wsReconnectBase, 0, []⟩

/-- What follows a session: the delay, and what is kept for the next one. -/
def turn (s : WsLoop) (outcome : WsOutcome) : WsLoop :=
  let backoff := if outcome.isOk then wsReconnectBase else s.backoff
  { backoff := if outcome.isOk then backoff else min (backoff * 2) wsReconnectMax
    delay := backoff
    outcomes := outcome :: s.outcomes }

/-- The loop after a history of outcomes. -/
def after (outcomes : List WsOutcome) : WsLoop := runFrom turn new outcomes

/-! ## The law -/

/-- Doubled so many times, up to the maximum. -/
def doubled (k : Nat) : Nat := min (wsReconnectBase * 2 ^ k) wsReconnectMax

/-- How many connections in a row did not come about. -/
def outage (outcomes : List WsOutcome) : Nat :=
  (outcomes.takeWhile fun outcome => outcome == .neverConnected).length

/-- The delay that is due after these outcomes, newest first. -/
def due : List WsOutcome → Nat
  | [] => 0
  | .neverConnected :: earlier => doubled (outage earlier)
  | _ => wsReconnectBase

def Lawful (s : WsLoop) : Prop := s.delay = due s.outcomes

/-- The delays of a history are those that are due, within their bounds, and no shorter from one
connection that did not come about to the next. -/
structure BackoffLaw (history : List WsOutcome) : Prop where
  lawful : Throughout turn Lawful new history
  bounded : ∀ before outcome later, history = before ++ outcome :: later →
    wsReconnectBase ≤ (after (before ++ [outcome])).delay ∧
      (after (before ++ [outcome])).delay ≤ wsReconnectMax
  grows : ∀ before later, history = before ++ .neverConnected :: .neverConnected :: later →
    (after (before ++ [.neverConnected])).delay ≤
      (after (before ++ [.neverConnected, .neverConnected])).delay

/-- Of two failures in a row both are of connections that did not come about. -/
def Unconnected (first second : WsOutcome) : Prop :=
  first.isOk = false → second.isOk = false →
    first = .neverConnected ∧ second = .neverConnected

instance (first second : WsOutcome) : Decidable (Unconnected first second) :=
  inferInstanceAs (Decidable (first.isOk = false → second.isOk = false →
    first = .neverConnected ∧ second = .neverConnected))

/-! ## Doubling -/

theorem doubled_succ (k : Nat) : doubled (k + 1) = min (doubled k * 2) wsReconnectMax := by
  simp only [doubled, wsReconnectBase, wsReconnectMax, Nat.pow_succ]
  omega

theorem doubled_bounds (k : Nat) : wsReconnectBase ≤ doubled k ∧ doubled k ≤ wsReconnectMax := by
  have positive := Nat.two_pow_pos k
  simp only [doubled, wsReconnectBase, wsReconnectMax]
  omega

theorem doubled_succ_ne (k : Nat) : doubled (k + 1) ≠ wsReconnectBase := by
  have bounds := doubled_bounds k
  rw [doubled_succ]
  simp only [wsReconnectBase, wsReconnectMax] at bounds ⊢
  omega

theorem doubled_le_succ (k : Nat) : doubled k ≤ doubled (k + 1) := by
  have bounds := doubled_bounds k
  rw [doubled_succ]
  simp only [wsReconnectMax] at bounds ⊢
  omega

/-! ## What the loop does -/

/-- How many failures there were in a row, connected or not. -/
def failures (outcomes : List WsOutcome) : Nat :=
  (outcomes.takeWhile fun outcome => !outcome.isOk).length

@[simp] theorem failures_nil : failures [] = 0 := rfl

@[simp] theorem failures_cons (outcome : WsOutcome) (earlier : List WsOutcome) :
    failures (outcome :: earlier) = if outcome.isOk then 0 else failures earlier + 1 := by
  cases outcome <;> rfl

/-- What the loop sleeps after these outcomes. -/
def slept : List WsOutcome → Nat
  | [] => 0
  | outcome :: earlier => if outcome.isOk then wsReconnectBase else doubled (failures earlier)

/-- The loop counts failures, whatever they are. -/
structure Counted (s : WsLoop) : Prop where
  backoff : s.backoff = doubled (failures s.outcomes)
  delay : s.delay = slept s.outcomes

theorem new_counted : new.Counted := ⟨rfl, rfl⟩

theorem turn_counted (s : WsLoop) (outcome : WsOutcome) (counted : s.Counted) :
    (s.turn outcome).Counted := by
  cases ok : outcome.isOk with
  | true =>
      refine ⟨?_, ?_⟩
      · simp [turn, ok]
        rfl
      · simp [turn, slept, ok]
  | false =>
      refine ⟨?_, ?_⟩
      · simp [turn, ok, counted.backoff, doubled_succ]
      · simp [turn, slept, ok, counted.backoff]

theorem after_counted (outcomes : List WsOutcome) : (after outcomes).Counted :=
  run_preserves turn_counted new_counted outcomes

theorem runFrom_outcomes (s : WsLoop) (outcomes : List WsOutcome) :
    (runFrom turn s outcomes).outcomes = outcomes.reverse ++ s.outcomes := by
  induction outcomes generalizing s with
  | nil => rfl
  | cons outcome rest ih => simp [ih, turn]

theorem after_concat_delay (before : List WsOutcome) (outcome : WsOutcome) :
    (after (before ++ [outcome])).delay = slept (outcome :: before.reverse) := by
  rw [(after_counted _).delay, after, runFrom_outcomes]
  simp [new]

theorem slept_bounds (outcome : WsOutcome) (earlier : List WsOutcome) :
    wsReconnectBase ≤ slept (outcome :: earlier) ∧ slept (outcome :: earlier) ≤ wsReconnectMax := by
  rw [slept]
  split
  · decide
  · exact doubled_bounds _

/-! ## Where the law is kept -/

/-- After a delay that was due, the next one is due exactly where no session that had been
connected is one of two failures in a row. -/
theorem slept_eq_due_iff {outcomes : List WsOutcome} (lawful : slept outcomes = due outcomes)
    (outcome : WsOutcome) :
    slept (outcome :: outcomes) = due (outcome :: outcomes) ↔
      ∀ last ∈ outcomes.head?, Unconnected last outcome := by
  cases outcomes with
  | nil =>
      refine iff_of_true ?_ (by simp)
      cases outcome <;> rfl
  | cons last earlier =>
      simp only [List.head?_cons, Option.mem_some_iff, forall_eq']
      cases outcome with
      | endedCleanly => exact iff_of_true rfl fun _ failed => by cases failed
      | endedInError =>
          cases last with
          | endedCleanly => exact iff_of_true rfl fun failed => by cases failed
          | neverConnected =>
              refine iff_of_false (doubled_succ_ne _) fun apart => ?_
              cases (apart rfl rfl).2
          | endedInError =>
              refine iff_of_false (doubled_succ_ne _) fun apart => ?_
              cases (apart rfl rfl).2
      | neverConnected =>
          cases last with
          | endedCleanly => exact iff_of_true rfl fun failed => by cases failed
          | endedInError =>
              refine iff_of_false (doubled_succ_ne _) fun apart => ?_
              cases (apart rfl rfl).1
          | neverConnected =>
              -- doubled so often as was due, it is doubled once more
              have before : doubled (failures earlier) = doubled (outage earlier) := lawful
              refine iff_of_true ?_ fun _ _ => ⟨rfl, rfl⟩
              show doubled (failures earlier + 1) = doubled (outage earlier + 1)
              rw [doubled_succ, doubled_succ, before]

theorem turn_lawful_iff (s : WsLoop) (outcome : WsOutcome) (counted : s.Counted)
    (lawful : s.Lawful) :
    (s.turn outcome).Lawful ↔ ∀ last ∈ s.outcomes.head?, Unconnected last outcome := by
  have here : slept s.outcomes = due s.outcomes := counted.delay.symm.trans lawful
  rw [← slept_eq_due_iff here outcome, Lawful, (turn_counted s outcome counted).delay]
  rfl

/-- A condition on an outcome and the one before it, over a whole run. -/
theorem along_iff_isChain {s : WsLoop} {history : List WsOutcome} :
    Along turn (fun s outcome => ∀ last ∈ s.outcomes.head?, Unconnected last outcome) s history ↔
      (∀ last ∈ s.outcomes.head?, ∀ first ∈ history.head?, Unconnected last first) ∧
        history.IsChain Unconnected := by
  induction history generalizing s with
  | nil => simp [Along]
  | cons outcome rest ih =>
      rw [Along, ih, List.isChain_cons]
      simp [turn]

/-- **Where the backoff law is kept**: in the histories in which failures follow each other only
while no connection comes about. -/
theorem backoffLaw_iff (history : List WsOutcome) :
    BackoffLaw history ↔ history.IsChain Unconnected := by
  have lawful : Throughout turn Lawful new history ↔ history.IsChain Unconnected := by
    rw [throughout_iff turn_counted turn_lawful_iff new_counted rfl, along_iff_isChain]
    simp [new]
  constructor
  · intro law
    exact lawful.mp law.lawful
  · intro chain
    refine ⟨lawful.mpr chain, fun before outcome later _ => ?_, fun before later _ => ?_⟩
    · rw [after_concat_delay]
      exact slept_bounds outcome before.reverse
    · have split : before ++ [WsOutcome.neverConnected, .neverConnected] =
          (before ++ [.neverConnected]) ++ [.neverConnected] := by simp
      rw [split, after_concat_delay, after_concat_delay, List.reverse_append]
      exact doubled_le_succ _

/-- Refuting pole: a session that follows a failed attempt and is cut waits for twice the base. -/
theorem cut_waits : ¬ ∀ history : List WsOutcome, BackoffLaw history := by
  intro always
  have late := (always [.neverConnected, .endedInError]).lawful _ [] (List.append_nil _).symm
  cases (show (4 : Nat) = 2 from late)

end WsLoop

/-! ## The sessions themselves -/

section Sessions

variable {Key : Type} (p : Primitives Key) (ctx : AgentCtx)

/-- What a call of `run_ws_once` finds: a connection, or not, and its messages. -/
structure WsSession where
  opened : Except Failure Unit
  arrivals : List Arrival

/-- The outcome of a session in the agent it finds. -/
def wsOutcome (session : WsSession) (s : Control) : WsOutcome :=
  match session.opened, (runWsOnce p ctx session.opened session.arrivals s).1 with
  | .error _, _ => .neverConnected
  | .ok (), .ok () => .endedCleanly
  | .ok (), .error _ => .endedInError

/-- The loop of `run_ws` with the agent it runs for. -/
structure WsRun where
  control : Control
  backoff : Nat
  delay : Nat

def WsRun.turn (s : WsRun) (session : WsSession) : WsRun :=
  let (outcome, control) := runWsOnce p ctx session.opened session.arrivals s.control
  let backoff := if outcome.isOk then wsReconnectBase else s.backoff
  { control := control
    backoff := if outcome.isOk then backoff else min (backoff * 2) wsReconnectMax
    delay := backoff }

/-- The outcomes of sessions, one after the other. -/
def wsOutcomes : List WsSession → Control → List WsOutcome
  | [], _ => []
  | session :: rest, s =>
      wsOutcome p ctx session s ::
        wsOutcomes rest (runWsOnce p ctx session.opened session.arrivals s).2

/-- A session that never connected did not end well either. -/
theorem isOk_wsOutcome (session : WsSession) (s : Control) :
    (wsOutcome p ctx session s).isOk =
      (runWsOnce p ctx session.opened session.arrivals s).1.isOk := by
  obtain ⟨opened, arrivals⟩ := session
  unfold wsOutcome
  cases opened with
  | error failure => rfl
  | ok done =>
      dsimp only
      cases (runWsOnce p ctx (.ok done) arrivals s).1 <;> rfl

/-- The loop over sessions sleeps as the loop over their outcomes. -/
theorem runWs_wsLoop (sessions : List WsSession) (run : WsRun) (loop : WsLoop)
    (backoff : run.backoff = loop.backoff) (delay : run.delay = loop.delay) :
    (runFrom (WsRun.turn p ctx) run sessions).delay =
      (runFrom WsLoop.turn loop (wsOutcomes p ctx sessions run.control)).delay := by
  induction sessions generalizing run loop with
  | nil => exact delay
  | cons session rest ih =>
      rw [runFrom_cons, wsOutcomes, runFrom_cons]
      have ok := isOk_wsOutcome p ctx session run.control
      refine ih (run.turn p ctx session) (loop.turn (wsOutcome p ctx session run.control)) ?_ ?_
      · simp only [WsRun.turn, WsLoop.turn, ok, backoff]
      · simp only [WsRun.turn, WsLoop.turn, ok, backoff]

end Sessions

end AirPaste.Agent
