/-
# Server.TrustChain — where trust comes from

Trust in the device table starts with the device registered while the table was
empty and spreads by approval: a trusted device signs a trust request, or mints
a pairing code that the newcomer confirms in time.  `chainOfTrust` says that in
every run of the server over an empty database each trusted device has such an
origin in the run, and that no arrival takes trust away.

A registration draws a ULID, and no two registrations draw the same one
(`DistinctUlids`); a registration under a drawn id would replace the record.
-/
import Mathlib.Data.List.Induction
import AirPaste.Server.DeviceUpdates
import AirPaste.Server.Effects

namespace AirPaste.Server

open AirPaste.Core
open AirPaste.Protocol
open AirPaste.Theory

set_option autoImplicit false

/-- The ULID a registration request draws for its device. -/
def Arrival.drawnUlid : Arrival → Option String
  | .http _ deviceUlid _ request =>
      if route request.method request.path = .registerDevice then some deviceUlid else none
  | .touch _ _ => none

/-- No two registrations draw the same ULID. -/
def DistinctUlids (arrivals : List Arrival) : Prop :=
  (arrivals.filterMap Arrival.drawnUlid).Nodup

section Chain

variable (x : Crates) (authToken simpleToken : Option String)

/-- The state of a server started on an empty database, after the arrivals. -/
def reached (arrivals : List Arrival) : AppState :=
  servedState x (AppState.new Db.empty authToken simpleToken) arrivals

/-- The device is stored trusted in the state reached. -/
def TrustedAfter (arrivals : List Arrival) (deviceId : DeviceId) : Prop :=
  TrustedIn (reached x authToken simpleToken arrivals).store.devices deviceId

/-- A device trusted at that moment minted a session under this code, with this
expiry, and the code has not been minted again since. -/
def MintedByTrusted (arrivals : List Arrival) (code : PairingCode) (expiresAt : Timestamp) :
    Prop :=
  ∃ before mint since requestDevice ulid now ttlSeconds,
    arrivals = before ++ mint :: since ∧
    StartsPairing x (reached x authToken simpleToken before) mint requestDevice ulid now
      ttlSeconds ∧
    TrustedAfter x authToken simpleToken before requestDevice.deviceId ∧
    code = PairingCode.new ulid ∧ expiresAt = now + seconds (Store.pairingTtl ttlSeconds) ∧
    ∀ first again rest, since = first ++ again :: rest →
      ∀ otherDevice otherUlid otherNow otherTtl,
        StartsPairing x (reached x authToken simpleToken (before ++ mint :: first)) again
          otherDevice otherUlid otherNow otherTtl → PairingCode.new otherUlid ≠ code

/-- How an arrival may make a device trusted. -/
inductive Approved (before : List Arrival) (arrival : Arrival) (deviceId : DeviceId) : Prop where
  /-- It is registered while the table is empty. -/
  | bootstrap (ulid : String) (now : Timestamp) (body : RegisterDeviceRequest)
      (registers : Registers x arrival ulid now body) (same : deviceId = DeviceId.new ulid)
      (empty : (reached x authToken simpleToken before).store.devices.isEmpty = true)
  /-- A trust request authenticated as a device trusted at that moment. -/
  | trust (requestDevice : Device)
      (trusts : TrustsDevice x (reached x authToken simpleToken before) arrival requestDevice
        deviceId)
      (approver : TrustedAfter x authToken simpleToken before requestDevice.deviceId)
  /-- A code minted by a device trusted at mint time is confirmed before it expires. -/
  | pairing (now : Timestamp) (code : PairingCode) (expiresAt : Timestamp)
      (confirms : ConfirmsPairing x arrival now code deviceId)
      (minted : MintedByTrusted x authToken simpleToken before code expiresAt)
      (unexpired : now ≤ expiresAt)

/-- The chain of trust of a run. -/
structure ChainOfTrust (arrivals : List Arrival) : Prop where
  /-- Each trusted device became trusted by an approved arrival of the run. -/
  origin : ∀ deviceId, TrustedAfter x authToken simpleToken arrivals deviceId →
    ∃ before arrival after, arrivals = before ++ arrival :: after ∧
      ¬ TrustedAfter x authToken simpleToken before deviceId ∧
      Approved x authToken simpleToken before arrival deviceId
  /-- No arrival makes a trusted device untrusted. -/
  kept : ∀ before arrival after deviceId, arrivals = before ++ arrival :: after →
    TrustedAfter x authToken simpleToken before deviceId →
      TrustedAfter x authToken simpleToken (before ++ [arrival]) deviceId

variable {x authToken simpleToken} {arrivals : List Arrival} {arrival : Arrival}

theorem reached_append (arrivals : List Arrival) (arrival : Arrival) :
    reached x authToken simpleToken (arrivals ++ [arrival]) =
      (serve x (reached x authToken simpleToken arrivals) arrival).2 :=
  servedState_append x _ arrivals arrival

/-! ## Trust is never lost -/

/-- Every stored id was drawn by a registration of the run. -/
def AllDrawn (arrivals : List Arrival) (devices : Devices) : Prop :=
  ∀ deviceId device, devices.get deviceId.asStr = some device →
    ∃ ulid ∈ arrivals.filterMap Arrival.drawnUlid, deviceId = DeviceId.new ulid

theorem drawn_of_registers {ulid : String} {now : Timestamp} {body : RegisterDeviceRequest}
    (registers : Registers x arrival ulid now body) : arrival.drawnUlid = some ulid := by
  obtain ⟨pairingUlid, request, rfl, routed, -⟩ := registers
  exact if_pos routed

/-- A put under the id of a stored record stores nothing new. -/
theorem allDrawn_put {devices : Devices} {put : DeviceId} {found row : Device}
    (drawn : AllDrawn arrivals devices) (stored : devices.get put.asStr = some found)
    (same : row.deviceId = put) : AllDrawn arrivals (devices.put row) := by
  intro deviceId device here
  by_cases own : row.deviceId = deviceId
  · rw [← own, same]
    exact drawn put found stored
  · have other : row.deviceId.asStr ≠ deviceId.asStr := fun eq => own (DeviceId.asStr_injective eq)
    rw [KeyedTable.get_put_ne devices other] at here
    exact drawn deviceId device here

theorem allDrawn_trustDevice {db : Db} (drawn : AllDrawn arrivals db.devices)
    (trusted : DeviceId) : AllDrawn arrivals ((Store.trustDevice trusted).run db).2.devices := by
  rw [Store.run_trustDevice]
  cases stored : db.devices.get trusted.asStr with
  | none => exact drawn
  | some found =>
      have own := Db.deviceId_of_get stored
      exact allDrawn_put drawn stored own

theorem allDrawn_serve {state : AppState} (drawn : AllDrawn arrivals state.store.devices) :
    AllDrawn (arrivals ++ [arrival]) (serve x state arrival).2.store.devices := by
  have more : ∀ devices, AllDrawn arrivals devices → AllDrawn (arrivals ++ [arrival]) devices := by
    intro devices drawn deviceId device stored
    obtain ⟨ulid, member, same⟩ := drawn deviceId device stored
    refine ⟨ulid, ?_, same⟩
    rw [List.filterMap_append]
    exact List.mem_append_left _ member
  have effect := serve_effect x state arrival
  generalize (serve x state arrival).2.store = after at effect ⊢
  cases effect with
  | same => exact more _ drawn
  | register ulid now body registers =>
      intro deviceId device stored
      rw [Store.run_registerDevice] at stored
      by_cases own : DeviceId.new ulid = deviceId
      · refine ⟨ulid, ?_, own.symm⟩
        rw [List.filterMap_append, List.mem_append]
        right
        rw [List.filterMap_cons_some (drawn_of_registers registers)]
        exact List.mem_cons_self
      · have other : (DeviceId.new ulid).asStr ≠ deviceId.asStr := fun eq =>
          own (DeviceId.asStr_injective eq)
        exact more _ drawn deviceId device
          ((KeyedTable.get_put_ne state.store.devices other).symm.trans stored)
  | trust requestDevice trusted trusts => exact more _ (allDrawn_trustDevice drawn trusted)
  | rename renamed name =>
      apply more _
      rw [Store.run_renameDevice]
      cases stored : state.store.devices.get renamed.asStr with
      | none => exact drawn
      | some found =>
          have own := Db.deviceId_of_get stored
          exact allDrawn_put drawn stored own
  | start requestDevice ulid now ttlSeconds starts => exact more _ drawn
  | confirm now code confirmed confirms =>
      apply more _
      rw [Store.run_confirmPairing]
      cases state.store.pairings.get code.asStr with
      | none => exact drawn
      | some session =>
          simp only
          split
          · exact drawn
          · apply allDrawn_trustDevice
            exact drawn
  | touch now touched =>
      apply more _
      rw [Store.run_touchDevice]
      cases stored : state.store.devices.get touched.asStr with
      | none => exact drawn
      | some found =>
          have own := Db.deviceId_of_get stored
          exact allDrawn_put drawn stored own

theorem allDrawn_reached (arrivals : List Arrival) :
    AllDrawn arrivals (reached x authToken simpleToken arrivals).store.devices := by
  induction arrivals using List.reverseRecOn with
  | nil => exact fun deviceId device stored => nomatch stored
  | append_singleton arrivals arrival ih =>
      rw [reached_append]
      exact allDrawn_serve ih

theorem trustedIn_of_kept {deviceId : DeviceId} {before after : Db}
    (kept : KeptDevice deviceId before after) (trusted : TrustedIn before.devices deviceId) :
    TrustedIn after.devices deviceId := by
  obtain ⟨device, stored, bit⟩ := trusted
  obtain ⟨now, found, -, keeps⟩ := kept device stored
  exact ⟨now, found, keeps bit⟩

theorem trustedAfter_append (distinct : DistinctUlids (arrivals ++ [arrival]))
    {deviceId : DeviceId} (trusted : TrustedAfter x authToken simpleToken arrivals deviceId) :
    TrustedAfter x authToken simpleToken (arrivals ++ [arrival]) deviceId := by
  have known := trusted
  obtain ⟨device, stored, -⟩ := known
  obtain ⟨drawn, member, same⟩ := allDrawn_reached arrivals deviceId device stored
  simp only [TrustedAfter]
  rw [reached_append]
  refine trustedIn_of_kept (keptDevice_serve fun ulid now body registers clash => ?_) trusted
  have again : drawn = ulid := DeviceId.new_injective (same.symm.trans clash.symm)
  simp only [DistinctUlids] at distinct
  rw [List.filterMap_append, List.filterMap_cons_some (drawn_of_registers registers)] at distinct
  exact List.disjoint_of_nodup_append distinct (again ▸ member) List.mem_cons_self

/-! ## Sessions are minted by trusted devices -/

/-- Starting a pairing files the minted session. -/
theorem serve_startsPairing {state : AppState} {requestDevice : Device} {ulid : Nat}
    {now : Timestamp} {ttlSeconds : Option Int}
    (starts : StartsPairing x state arrival requestDevice ulid now ttlSeconds) :
    (serve x state arrival).2.store.pairings = state.store.pairings.put
      (Store.mintedSession ulid now (some requestDevice.deviceId) ttlSeconds) := by
  obtain ⟨deviceUlid, request, body, rfl, routed, verified, decoded, creator, rfl⟩ := starts
  have kept := requireAuth_store (x := x) state now request
  cases admitted : requireAuth x state now request with
  | mk outcome after =>
      rw [admitted] at verified kept
      simp only at verified kept
      subst verified
      have checks : (do
          let requestDevice ← trustedDevice (some requestDevice)
          let body ← x.startPairingBody request
          ensure (body.createdBy.all fun createdBy => createdBy == requestDevice.deviceId)
            (.forbidden "pairing creator must match request device")
          return (requestDevice, body)) = (.ok (requestDevice, body) : ApiResult _) := by
        simp only [bind_ok_iff, ensure_ok_iff]
        exact ⟨requestDevice, rfl, body, decoded, (), creator, rfl⟩
      simp only [serve, admitted, dispatch, routed, startPairing, checks, afterChecks, kept]
      rfl

/-- A session that was not just minted was there before, with its expiry. -/
theorem sessionBefore_serve {state : AppState} {code : PairingCode} {session : PairingSession}
    (stored : (serve x state arrival).2.store.pairings.get code.asStr = some session)
    (notMinted : ∀ requestDevice ulid now ttlSeconds,
      StartsPairing x state arrival requestDevice ulid now ttlSeconds →
        PairingCode.new ulid ≠ code) :
    ∃ before, state.store.pairings.get code.asStr = some before ∧
      before.expiresAt = session.expiresAt := by
  have effect := serve_effect x state arrival
  generalize (serve x state arrival).2.store = after at effect stored
  cases effect with
  | same => exact ⟨session, stored, rfl⟩
  | register ulid now body registers => exact ⟨session, stored, rfl⟩
  | trust requestDevice trusted trusts =>
      rw [Store.trustDevice_pairings] at stored
      exact ⟨session, stored, rfl⟩
  | rename renamed name =>
      rw [Store.renameDevice_pairings] at stored
      exact ⟨session, stored, rfl⟩
  | touch now touched =>
      rw [Store.touchDevice_pairings] at stored
      exact ⟨session, stored, rfl⟩
  | start requestDevice ulid now ttlSeconds starts =>
      rw [Store.run_startPairing] at stored
      have other : (Store.mintedSession ulid now (some requestDevice.deviceId)
          ttlSeconds).code.asStr ≠ code.asStr := fun eq =>
        notMinted _ _ _ _ starts (PairingCode.asStr_injective eq)
      exact ⟨session, (KeyedTable.get_put_ne state.store.pairings other).symm.trans stored, rfl⟩
  | confirm now confirmed deviceId confirms =>
      rcases Store.confirmPairing_pairings state.store now confirmed deviceId
        with same | ⟨found, here, put⟩
      · rw [same] at stored
        exact ⟨session, stored, rfl⟩
      · rw [put] at stored
        have own := Db.code_of_get here
        by_cases this : confirmed = code
        · subst this
          have row : (Store.confirmedSession found deviceId).code.asStr = confirmed.asStr :=
            congrArg PairingCode.asStr own
          rw [← row, KeyedTable.get_put_self] at stored
          cases stored
          exact ⟨found, here, rfl⟩
        · have other : (Store.confirmedSession found deviceId).code.asStr ≠ code.asStr := fun eq =>
            this (own.symm.trans (PairingCode.asStr_injective eq))
          exact ⟨session, (KeyedTable.get_put_ne state.store.pairings other).symm.trans stored, rfl⟩

theorem mintedByTrusted_append {code : PairingCode} {expiresAt : Timestamp}
    (minted : MintedByTrusted x authToken simpleToken arrivals code expiresAt)
    (notMinted : ∀ requestDevice ulid now ttlSeconds,
      StartsPairing x (reached x authToken simpleToken arrivals) arrival requestDevice ulid now
        ttlSeconds → PairingCode.new ulid ≠ code) :
    MintedByTrusted x authToken simpleToken (arrivals ++ [arrival]) code expiresAt := by
  obtain ⟨before, mint, since, requestDevice, ulid, now, ttlSeconds, rfl, starts, trusted,
    rfl, rfl, unminted⟩ := minted
  refine ⟨before, mint, since ++ [arrival], requestDevice, ulid, now, ttlSeconds, ?_, starts,
    trusted, rfl, rfl, ?_⟩
  · rw [List.append_assoc, List.cons_append]
  · intro first again rest split
    rcases List.eq_nil_or_concat' rest with rfl | ⟨shorter, last, rfl⟩
    · obtain ⟨rfl, same⟩ := List.append_inj' split rfl
      cases same
      exact notMinted
    · have split : since ++ [arrival] = (first ++ again :: shorter) ++ [last] := by
        rw [split, List.append_assoc, List.cons_append]
      obtain ⟨earlier, -⟩ := List.append_inj' split rfl
      exact unminted first again shorter earlier

/-- Every stored session was minted by a device trusted at mint time. -/
theorem sessions_mintedByTrusted (arrivals : List Arrival) :
    ∀ code session,
      (reached x authToken simpleToken arrivals).store.pairings.get code.asStr = some session →
        MintedByTrusted x authToken simpleToken arrivals code session.expiresAt := by
  induction arrivals using List.reverseRecOn with
  | nil => exact fun code session stored => nomatch stored
  | append_singleton arrivals arrival ih =>
      intro code session stored
      rw [reached_append] at stored
      by_cases minted : ∃ requestDevice ulid now ttlSeconds,
          StartsPairing x (reached x authToken simpleToken arrivals) arrival requestDevice ulid now
            ttlSeconds ∧ PairingCode.new ulid = code
      · obtain ⟨requestDevice, ulid, now, ttlSeconds, starts, rfl⟩ := minted
        rw [serve_startsPairing starts] at stored
        have row := KeyedTable.get_put_self
          (reached x authToken simpleToken arrivals).store.pairings
          (Store.mintedSession ulid now (some requestDevice.deviceId) ttlSeconds)
        have same : session = Store.mintedSession ulid now (some requestDevice.deviceId)
            ttlSeconds := Option.some.inj (stored.symm.trans row)
        have approver : TrustedAfter x authToken simpleToken arrivals requestDevice.deviceId := by
          have known := starts
          obtain ⟨_, request, _, _, _, verified, -⟩ := known
          obtain ⟨here, bit⟩ := trusted_of_requireAuth verified
          exact ⟨requestDevice, here, bit⟩
        rw [same]
        refine ⟨arrivals, arrival, [], requestDevice, ulid, now, ttlSeconds, rfl, starts,
          approver, rfl, rfl, ?_⟩
        intro first again rest split
        cases first <;> cases split
      · have notMinted : ∀ requestDevice ulid now ttlSeconds,
            StartsPairing x (reached x authToken simpleToken arrivals) arrival requestDevice ulid
              now ttlSeconds → PairingCode.new ulid ≠ code :=
          fun requestDevice ulid now ttlSeconds starts same =>
            minted ⟨requestDevice, ulid, now, ttlSeconds, starts, same⟩
        obtain ⟨before, here, expiry⟩ := sessionBefore_serve stored notMinted
        rw [← expiry]
        exact mintedByTrusted_append (ih code before here) notMinted

/-! ## Trust has an origin -/

/-- Putting back a stored record with the trust it has trusts nobody new. -/
theorem trustedIn_of_put_same {devices : Devices} {put deviceId : DeviceId} {found row : Device}
    (trusted : TrustedIn (devices.put row) deviceId) (stored : devices.get put.asStr = some found)
    (same : row.deviceId = put) (bit : row.trusted = found.trusted) :
    TrustedIn devices deviceId := by
  rcases trustedIn_put trusted with ⟨own, granted⟩ | before
  · rw [← own, same]
    exact ⟨found, stored, bit.symm.trans granted⟩
  · exact before

theorem trustedIn_renameDevice {db : Db} {deviceId renamed : DeviceId} {name : String}
    (trusted : TrustedIn ((Store.renameDevice renamed name).run db).2.devices deviceId) :
    TrustedIn db.devices deviceId := by
  rw [Store.run_renameDevice] at trusted
  cases stored : db.devices.get renamed.asStr with
  | none =>
      rw [stored] at trusted
      exact trusted
  | some found =>
      rw [stored] at trusted
      have own := Db.deviceId_of_get stored
      exact trustedIn_of_put_same trusted stored own rfl

theorem trustedIn_touchDevice {db : Db} {deviceId touched : DeviceId} {now : Timestamp}
    (trusted : TrustedIn ((Store.touchDevice now touched).run db).2.devices deviceId) :
    TrustedIn db.devices deviceId := by
  rw [Store.run_touchDevice] at trusted
  cases stored : db.devices.get touched.asStr with
  | none =>
      rw [stored] at trusted
      exact trusted
  | some found =>
      rw [stored] at trusted
      have own := Db.deviceId_of_get stored
      exact trustedIn_of_put_same trusted stored own rfl

/-- `trust_device` trusts its own device and no other. -/
theorem trustedIn_trustDevice {db : Db} {deviceId granted : DeviceId}
    (trusted : TrustedIn ((Store.trustDevice granted).run db).2.devices deviceId) :
    deviceId = granted ∨ TrustedIn db.devices deviceId := by
  rw [Store.run_trustDevice] at trusted
  cases stored : db.devices.get granted.asStr with
  | none =>
      rw [stored] at trusted
      exact Or.inr trusted
  | some found =>
      rw [stored] at trusted
      have own := Db.deviceId_of_get stored
      rcases trustedIn_put trusted with ⟨same, -⟩ | before
      · exact Or.inl (same.symm.trans own)
      · exact Or.inr before

/-- `confirm_pairing` trusts its own device, and only on an unexpired session. -/
theorem trustedIn_confirmPairing {db : Db} {deviceId confirmed : DeviceId} {now : Timestamp}
    {code : PairingCode}
    (trusted : TrustedIn ((Store.confirmPairing now code confirmed).run db).2.devices deviceId) :
    (deviceId = confirmed ∧ ∃ session, db.pairings.get code.asStr = some session ∧
      now ≤ session.expiresAt) ∨ TrustedIn db.devices deviceId := by
  rw [Store.run_confirmPairing] at trusted
  cases stored : db.pairings.get code.asStr with
  | none =>
      rw [stored] at trusted
      exact Or.inr trusted
  | some session =>
      rw [stored] at trusted
      simp only at trusted
      split at trusted
      · exact Or.inr trusted
      · rename_i live
        rcases trustedIn_trustDevice trusted with same | before
        · exact Or.inl ⟨same, session, rfl, not_lt.mp live⟩
        · exact Or.inr before

/-- An arrival that makes a device trusted is approved. -/
theorem approved_of_trusted {deviceId : DeviceId}
    (before : ¬ TrustedAfter x authToken simpleToken arrivals deviceId)
    (after : TrustedIn (serve x (reached x authToken simpleToken arrivals) arrival).2.store.devices
      deviceId) : Approved x authToken simpleToken arrivals arrival deviceId := by
  have effect := serve_effect x (reached x authToken simpleToken arrivals) arrival
  generalize (serve x (reached x authToken simpleToken arrivals) arrival).2.store = left
    at effect after
  cases effect with
  | same => exact absurd after before
  | register ulid now body registers =>
      rcases trustedIn_put after with ⟨own, bit⟩ | already
      · exact .bootstrap ulid now body registers own.symm bit
      · exact absurd already before
  | trust requestDevice trusted trusts =>
      rcases trustedIn_trustDevice after with same | already
      · subst same
        have approver : TrustedAfter x authToken simpleToken arrivals requestDevice.deviceId := by
          have known := trusts
          obtain ⟨_, _, _, request, _, _, _, verified, -⟩ := known
          obtain ⟨here, bit⟩ := trusted_of_requireAuth verified
          exact ⟨requestDevice, here, bit⟩
        exact .trust requestDevice trusts approver
      · exact absurd already before
  | rename renamed name => exact absurd (trustedIn_renameDevice after) before
  | start requestDevice ulid now ttlSeconds starts => exact absurd after before
  | confirm now code confirmed confirms =>
      rcases trustedIn_confirmPairing after with ⟨same, session, stored, live⟩ | already
      · subst same
        exact .pairing now code session.expiresAt confirms
          (sessions_mintedByTrusted arrivals code session stored) live
      · exact absurd already before
  | touch now touched => exact absurd (trustedIn_touchDevice after) before

theorem distinctUlids_of_append {before after : List Arrival}
    (distinct : DistinctUlids (before ++ arrival :: after)) :
    DistinctUlids (before ++ [arrival]) := by
  have split : before ++ arrival :: after = (before ++ [arrival]) ++ after := by
    rw [List.append_assoc, List.singleton_append]
  simp only [DistinctUlids] at distinct ⊢
  rw [split, List.filterMap_append] at distinct
  exact distinct.of_append_left

variable (x authToken simpleToken) in
/-- **Every trusted device has an approved origin, and stays trusted.** -/
theorem chainOfTrust (arrivals : List Arrival) (distinct : DistinctUlids arrivals) :
    ChainOfTrust x authToken simpleToken arrivals := by
  constructor
  · intro deviceId trusted
    have initially : ¬ TrustedIn Db.empty.devices deviceId := fun ⟨device, stored, _⟩ =>
      nomatch stored
    obtain ⟨before, arrival, after, split, missing, there⟩ :=
      run_origin (fun state : AppState => TrustedIn state.store.devices deviceId) initially trusted
    exact ⟨before, arrival, after, split, missing, approved_of_trusted missing there⟩
  · rintro before arrival after deviceId rfl trusted
    exact trustedAfter_append (distinctUlids_of_append distinct) trusted

end Chain

/-! ## The laptop trusts the phone -/

namespace LaptopTrustsPhone

open Sample

/-- The laptop registers first, the phone after it, and the laptop trusts the phone. -/
def arrivals : List Arrival :=
  [.http (seconds 1767225000) "laptop" 0 (registerRequest laptopBody),
   .http (seconds 1767225100) "phone" 0 (registerRequest phoneBody),
   .http (seconds 1767225730) "" 0 trustRequest]

/-- Satisfiable pole: the phone is trusted, and its trust has an origin. -/
theorem phone_trusted : TrustedAfter crates none none arrivals ⟨"dev_phone"⟩ ∧
    ChainOfTrust crates none none arrivals := by
  refine ⟨⟨⟨⟨"dev_phone"⟩, "Phone", "", "", true, seconds 1767225100, none⟩, ?_, rfl⟩, ?_⟩
  · decide +kernel
  · exact chainOfTrust crates none none arrivals (by unfold DistinctUlids; decide)

end LaptopTrustsPhone

end AirPaste.Server
