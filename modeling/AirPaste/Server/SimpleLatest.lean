/-
# Server.SimpleLatest — how long the plaintext of a clip can be read

Two endpoints fill the simple inbox: `create_clip` copies the expiry that the client chose,
`simple_create_clip` adds ten minutes to a clock reading of its own.  A third,
`simple_latest_clip`, drops the entry when it has expired.  `ServiceEvent` are the requests
to the three, one after the other, and the passage of time; a request says how much time
passes before each of its clock readings.

`lapses_iff` says in which runs no entry is returned more than ten minutes after it was
created; `Mirrored.still_readable` is a mirrored clip without an expiry.
-/
import AirPaste.Theory.Run
import AirPaste.Server.SimpleInbox

namespace AirPaste.Server

open AirPaste.Core
open AirPaste.Crypto
open AirPaste.Protocol
open AirPaste.Theory

set_option autoImplicit false

structure SimpleClipLatest where
  text : String
  source : String
  createdAt : Timestamp
  deriving DecidableEq

/-- `GET /v1/simple/clips/latest`. -/
def simpleLatestClip (now : Timestamp) (state : ClipState) :
    Option SimpleClipLatest × ClipState :=
  ((simpleInbox now state.simpleInbox).1.map fun entry =>
      ⟨entry.text, entry.source, entry.createdAt⟩,
    { state with simpleInbox := (simpleInbox now state.simpleInbox).2 })

/-- The ULIDs a request draws, and the time that passes before it reads the clock for
`created_at`, then until it reads it for a lifetime, and then for the cleanup. -/
structure Pace where
  clipUlid : String
  spareUlid : String
  toCreated : Nat
  toExpiring : Nat
  toCleaning : Nat

def Pace.mint (pace : Pace) (clock : Timestamp) : Minting where
  clipUlid := pace.clipUlid
  spareUlid := pace.spareUlid
  createdAt := clock + pace.toCreated
  expiring := clock + pace.toCreated + pace.toExpiring
  cleaning := clock + pace.toCreated + pace.toExpiring + pace.toCleaning

/-- The clip state and the clock. -/
structure SimpleService where
  state : ClipState
  clock : Timestamp

inductive ServiceEvent (Key : Type) where
  | passes (elapsed : Nat)
  | createClip (app : AppState) (pace : Pace) (requestDevice : Device)
      (request : CreateClipRequest)
  | simpleCreateClip (draws : SealDraws) (app : AppState) (pace : Pace)
      (request : SimpleClipUpload)
  | simpleLatestClip

/-- The text that `create_clip` copies to the simple inbox. -/
def mirrored (app : AppState) (requestDevice : Device) (request : CreateClipRequest) :
    Option String :=
  if request.sourceDeviceId = requestDevice.deviceId then
    request.simpleMirrorText.filter fun text =>
      app.simpleToken.isSome && Text.byteLen text.toList ≤ maxSimpleTextBytes
  else none

/-- An entry with this expiry is not returned more than ten minutes after it was created:
it has expired at the first tick of the clock after them, or with the request. -/
def LapsesInTime (mint : Minting) (expiresAt : Option Timestamp) : Prop :=
  ∃ due, expiresAt = some due ∧
    (due ≤ mint.createdAt + seconds simpleClipTtlSecs + 1 ∨ due ≤ mint.cleaning)

/-- An upload of a simple device that is accepted. -/
def Uploads {Key : Type} (p : Primitives Key) (draws : SealDraws) (app : AppState)
    (request : SimpleClipUpload) : Prop :=
  Text.trim request.text ≠ "" ∧ Text.byteLen request.text.toList ≤ maxSimpleTextBytes ∧
    ∃ body, simpleBody p draws (simpleRecipients app.store.devices.rows) request.text = .ok body

/-! ## What the endpoints leave in the slot -/

section Slot

variable (mint : Minting) (state : ClipState) {app : AppState}

/-- `create_clip` overwrites the slot with the text it mirrors, if any. -/
theorem createClip_simpleInbox (app : AppState) (requestDevice : Device)
    (request : CreateClipRequest) :
    (createClip app mint requestDevice request state).2.simpleInbox =
      ((mirrored app requestDevice request).map fun text =>
        ⟨text, requestDevice.name, mint.createdAt, request.expiresAt⟩).or state.simpleInbox := by
  have filed := publish_new state mint
    ⟨ClipId.new mint.clipUlid, request.sourceDeviceId, mint.createdAt, request.expiresAt,
      request.kind, request.encryption⟩ mint.clipUlid rfl
  simp only [createClip, mirrored]
  by_cases own : request.sourceDeviceId = requestDevice.deviceId
  · rw [if_neg (not_not.mpr own), if_pos own]
    simp only [filed.1]
    cases copy : request.simpleMirrorText with
    | none => rfl
    | some text =>
        simp only [Option.filter_some]
        split
        · rfl
        · rfl
  · rw [if_pos own, if_neg own]
    rfl

/-- An upload that is accepted overwrites the slot. -/
theorem simpleCreateClip_fills {Key : Type} {p : Primitives Key} {draws : SealDraws}
    {request : SimpleClipUpload} (uploads : Uploads p draws app request) :
    ∃ source, (simpleCreateClip p draws app mint request state).2.simpleInbox =
      some ⟨request.text, source, mint.createdAt,
        some (mint.expiring + seconds simpleClipTtlSecs)⟩ := by
  obtain ⟨nonempty, small, ⟨kind, encryption⟩, body⟩ := uploads
  have filed := fun sourceDeviceId expiresAt => publish_new state mint
    ⟨ClipId.new mint.clipUlid, sourceDeviceId, mint.createdAt, expiresAt, kind, encryption⟩
    mint.clipUlid rfl
  simp only [simpleCreateClip, if_neg nonempty, if_neg (Nat.not_lt.mpr small), body]
  simp only [filed _ _ |>.1]
  exact ⟨_, rfl⟩

/-- An upload that is refused leaves everything as it was. -/
theorem simpleCreateClip_refused {Key : Type} {p : Primitives Key} {draws : SealDraws}
    {request : SimpleClipUpload} (refused : ¬ Uploads p draws app request) :
    (simpleCreateClip p draws app mint request state).2 = state := by
  simp only [simpleCreateClip]
  by_cases empty : Text.trim request.text = ""
  · rw [if_pos empty]
  · rw [if_neg empty]
    by_cases large : maxSimpleTextBytes < Text.byteLen request.text.toList
    · rw [if_pos large]
    · rw [if_neg large]
      cases body :
          simpleBody p draws (simpleRecipients app.store.devices.rows) request.text with
      | error error => rfl
      | ok sealed => exact absurd ⟨empty, Nat.not_lt.mp large, sealed, body⟩ refused

end Slot

namespace SimpleService

section Runs

variable {Key : Type} (p : Primitives Key)

def step (s : SimpleService) : ServiceEvent Key → SimpleService
  | .passes elapsed => { s with clock := s.clock + elapsed }
  | .createClip app pace requestDevice request =>
      let mint := pace.mint s.clock
      ⟨(Server.createClip app mint requestDevice request s.state).2, mint.cleaning⟩
  | .simpleCreateClip draws app pace request =>
      let mint := pace.mint s.clock
      ⟨(Server.simpleCreateClip p draws app mint request s.state).2, mint.cleaning⟩
  | .simpleLatestClip => { s with state := (Server.simpleLatestClip s.clock s.state).2 }

/-- Now or later, no entry is returned more than ten minutes after it was created. -/
def Lapses (s : SimpleService) : Prop :=
  ∀ (elapsed : Nat) reply, (Server.simpleLatestClip (s.clock + elapsed) s.state).1 = some reply →
    s.clock + elapsed - reply.createdAt ≤ seconds simpleClipTtlSecs

/-- A clip that is mirrored, or uploaded by a simple device, comes with an expiry in time. -/
def Bounded (s : SimpleService) : ServiceEvent Key → Prop
  | .createClip app pace requestDevice request =>
      (mirrored app requestDevice request).isSome →
        LapsesInTime (pace.mint s.clock) request.expiresAt
  | .simpleCreateClip draws app pace request =>
      Uploads p draws app request → LapsesInTime (pace.mint s.clock)
        (some ((pace.mint s.clock).expiring + seconds simpleClipTtlSecs))
  | _ => True

variable {p} {s : SimpleService}

/-- What is returned is the entry in the slot, while it has not expired. -/
theorem simpleLatestClip_some_iff {now : Timestamp} {state : ClipState}
    {reply : SimpleClipLatest} :
    (Server.simpleLatestClip now state).1 = some reply ↔
      ∃ entry, state.simpleInbox = some entry ∧ entry.isExpired now = false ∧
        reply = ⟨entry.text, entry.source, entry.createdAt⟩ := by
  simp only [Server.simpleLatestClip, Option.map_eq_some_iff, simpleInbox_some_iff]
  constructor
  · rintro ⟨entry, ⟨held, fresh⟩, same⟩
    exact ⟨entry, held, fresh, same.symm⟩
  · rintro ⟨entry, held, fresh, same⟩
    exact ⟨entry, ⟨held, fresh⟩, same.symm⟩

theorem lapses_iff_slot :
    s.Lapses ↔ ∀ entry, s.state.simpleInbox = some entry → ∀ elapsed : Nat,
      entry.isExpired (s.clock + elapsed) = false →
        s.clock + elapsed - entry.createdAt ≤ seconds simpleClipTtlSecs := by
  constructor
  · intro lapses entry held elapsed fresh
    exact lapses elapsed ⟨entry.text, entry.source, entry.createdAt⟩
      (simpleLatestClip_some_iff.mpr ⟨entry, held, fresh, rfl⟩)
  · intro all elapsed reply returned
    obtain ⟨entry, held, fresh, rfl⟩ := simpleLatestClip_some_iff.mp returned
    exact all entry held elapsed fresh

/-- The first moment after a request that is later than a lifetime after `created`. -/
theorem late_moment (created cleaning ttl : Int) :
    ∃ elapsed : Nat, ttl < cleaning + elapsed - created ∧
      ∀ due, cleaning < due → created + ttl + 1 < due → cleaning + elapsed < due := by
  refine ⟨(created + ttl + 1 - cleaning).toNat, ?_, ?_⟩
  · omega
  · intro due afterRequest afterTtl
    omega

theorem age_le {clock created ttl due : Int} (live : clock < due)
    (early : due ≤ created + ttl + 1) : clock - created ≤ ttl := by
  omega

/-- An entry that a request has just left lapses exactly when its expiry is in time. -/
theorem filled_lapses_iff {mint : Minting} {entry : SimpleInboxEntry}
    (clock : s.clock = mint.cleaning) (held : s.state.simpleInbox = some entry)
    (created : entry.createdAt = mint.createdAt) :
    s.Lapses ↔ LapsesInTime mint entry.expiresAt := by
  rw [lapses_iff_slot, clock]
  constructor
  · intro lapses
    obtain ⟨elapsed, tooLate, before⟩ :=
      late_moment mint.createdAt mint.cleaning (seconds simpleClipTtlSecs)
    by_contra lives
    have fresh : entry.isExpired (mint.cleaning + elapsed) = false := by
      cases due : entry.expiresAt with
      | none => simp [SimpleInboxEntry.isExpired, due]
      | some expiresAt =>
          rw [due] at lives
          have afterTtl : ¬ expiresAt ≤ mint.createdAt + seconds simpleClipTtlSecs + 1 :=
            fun le => lives ⟨expiresAt, rfl, .inl le⟩
          have afterRequest : ¬ expiresAt ≤ mint.cleaning :=
            fun le => lives ⟨expiresAt, rfl, .inr le⟩
          have live := before expiresAt (Int.not_le.mp afterRequest) (Int.not_le.mp afterTtl)
          simp only [SimpleInboxEntry.isExpired, due, Option.any_some, decide_eq_false_iff_not]
          exact Int.not_le.mpr live
    have age := lapses entry held elapsed fresh
    rw [created] at age
    exact absurd tooLate (Int.not_lt.mpr age)
  · rintro ⟨due, expires, inTime⟩ other same elapsed fresh
    cases held.symm.trans same
    simp only [SimpleInboxEntry.isExpired, expires, Option.any_some,
      decide_eq_false_iff_not] at fresh
    rw [created]
    have live : (mint.cleaning + elapsed : Int) < due := Int.not_le.mp fresh
    rcases inTime with early | early
    · exact age_le live early
    · exact absurd (Int.le_add_of_nonneg_right (Int.natCast_nonneg elapsed))
        (Int.not_le.mpr (Int.lt_of_lt_of_le live early))

/-- A slot that is left alone, or emptied, goes on lapsing as time passes. -/
theorem Lapses.later {after : SimpleService} (lapses : s.Lapses) (elapsed : Nat)
    (clock : after.clock = s.clock + elapsed)
    (slot : ∀ entry, after.state.simpleInbox = some entry → s.state.simpleInbox = some entry) :
    after.Lapses := by
  rw [lapses_iff_slot] at lapses ⊢
  intro entry held more fresh
  have sum : after.clock + (more : Int) = s.clock + ((elapsed + more : Nat) : Int) := by
    rw [clock, Int.natCast_add, Int.add_assoc]
  rw [sum] at fresh ⊢
  exact lapses entry (slot entry held) (elapsed + more) fresh

theorem cleaning_eq (pace : Pace) (clock : Timestamp) :
    (pace.mint clock).cleaning =
      clock + ((pace.toCreated + pace.toExpiring + pace.toCleaning : Nat) : Int) := by
  simp only [Pace.mint, Int.natCast_add, Int.add_assoc]

theorem step_lapses (s : SimpleService) (event : ServiceEvent Key) (lapses : s.Lapses) :
    (s.step p event).Lapses ↔ s.Bounded p event := by
  cases event with
  | passes elapsed => exact iff_of_true (lapses.later elapsed rfl fun _ held => held) trivial
  | createClip app pace requestDevice request =>
      have slot := createClip_simpleInbox (pace.mint s.clock) s.state app requestDevice request
      cases copy : mirrored app requestDevice request with
      | none =>
          rw [copy] at slot
          have kept : (s.step p (.createClip app pace requestDevice request)).Lapses :=
            lapses.later _ (cleaning_eq pace s.clock) fun entry held => slot.symm.trans held
          exact iff_of_true kept fun some => by simp [copy] at some
      | some text =>
          rw [copy] at slot
          simp only [Bounded, copy, Option.isSome_some, true_implies]
          exact filled_lapses_iff (s := s.step p (.createClip app pace requestDevice request))
            rfl slot rfl
  | simpleCreateClip draws app pace request =>
      by_cases uploads : Uploads p draws app request
      · obtain ⟨source, slot⟩ := simpleCreateClip_fills (pace.mint s.clock) s.state uploads
        simp only [Bounded, uploads, true_implies]
        exact filled_lapses_iff (s := s.step p (.simpleCreateClip draws app pace request))
          rfl slot rfl
      · have kept : (s.step p (.simpleCreateClip draws app pace request)).Lapses := by
          refine lapses.later _ (cleaning_eq pace s.clock) fun entry held => ?_
          simp only [step, simpleCreateClip_refused (pace.mint s.clock) s.state uploads] at held
          exact held
        exact iff_of_true kept fun accepted => absurd accepted uploads
  | simpleLatestClip =>
      refine iff_of_true (lapses.later 0 (by simp [step]) fun entry held => ?_) trivial
      simp only [step, Server.simpleLatestClip, simpleInbox] at held
      split at held
      · cases held
      next inbox =>
          split at held
          · cases held
          · exact inbox.trans held

/-- No entry is returned more than ten minutes after it was created, in any state of a run,
exactly when every entry that a request leaves comes with an expiry in time. -/
theorem lapses_iff (clips : ClipTable) (broadcast : List ClipCreated) (clock : Timestamp)
    (events : List (ServiceEvent Key)) :
    Throughout (step p) Lapses ⟨⟨clips, none, broadcast⟩, clock⟩ events ↔
      Along (step p) (Bounded p) ⟨⟨clips, none, broadcast⟩, clock⟩ events := by
  refine throughout_iff (fun _ _ (_ : True) => trivial) (fun s event _ => step_lapses s event)
    trivial ?_
  rw [lapses_iff_slot]
  intro entry held
  cases held

end Runs

end SimpleService

namespace Mirrored

open SimpleService

def app : AppState := AppState.new Db.empty none (some "shortcut-token")

def laptop : Device where
  deviceId := ⟨"dev_laptop"⟩
  name := "laptop"
  publicKey := "pk"
  encryptionPublicKey := ""
  trusted := true
  createdAt := 0
  lastSeenAt := none

/-- A text that the laptop mirrors without an expiry. -/
def request : CreateClipRequest where
  sourceDeviceId := ⟨"dev_laptop"⟩
  expiresAt := none
  kind := .text ⟨6, none, ⟨"x25519", 6⟩, none⟩
  encryption := ⟨"x25519", [], [], none⟩
  simpleMirrorText := some "secret"

def pace : Pace := ⟨"01J", "01K", 0, 0, 0⟩

def service : SimpleService := ⟨⟨KeyedTable.empty, none, []⟩, 0⟩

/-- Eleven minutes after the request the text is still there. -/
theorem still_readable :
    ¬ Throughout (step Sample.primitives) Lapses service
      [.createClip app pace laptop request] := by
  intro lapses
  have age := lapses [.createClip app pace laptop request] [] rfl 660000000000
    ⟨"secret", "laptop", 0⟩ (by decide +kernel)
  exact absurd age (by decide +kernel)

end Mirrored

end AirPaste.Server
