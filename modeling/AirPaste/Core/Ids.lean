/-
# Core.Ids — identifiers and the clock

The identifiers of `airpaste-core` are transparent string wrappers.  A fresh one
is a prefix and a ULID; the ULID is a draw from outside, so every function that
mints an identifier takes the drawn value.  Timestamps, and the instants of the
monotonic clock, count nanoseconds.
-/
import Mathlib.Data.String.Basic

namespace AirPaste.Core

set_option autoImplicit false

structure ClipId where
  asStr : String
  deriving DecidableEq, Repr

structure DeviceId where
  asStr : String
  deriving DecidableEq, Repr

structure SessionId where
  asStr : String
  deriving DecidableEq, Repr

structure TransferToken where
  asStr : String
  deriving DecidableEq, Repr

structure PairingCode where
  asStr : String
  deriving DecidableEq, Repr

namespace ClipId

/-- `ClipId::new()` for the drawn ULID. -/
def new (ulid : String) : ClipId := ⟨"clip_" ++ ulid⟩

theorem new_asStr_ne_empty (ulid : String) : (new ulid).asStr ≠ "" := by
  intro empty
  have chars := congrArg String.toList empty
  simp only [new, String.toList_append] at chars
  cases chars

theorem new_injective {a b : String} (same : new a = new b) : a = b := by
  have chars := congrArg (fun clipId : ClipId => clipId.asStr.toList) same
  simp only [new, String.toList_append] at chars
  exact String.toList_injective (List.append_cancel_left chars)

end ClipId

namespace DeviceId

/-- `DeviceId::new()` for the drawn ULID. -/
def new (ulid : String) : DeviceId := ⟨"dev_" ++ ulid⟩

theorem asStr_injective {a b : DeviceId} (same : a.asStr = b.asStr) : a = b := by
  cases a
  cases b
  cases same
  rfl

theorem new_injective {a b : String} (same : new a = new b) : a = b := by
  have chars := congrArg (fun deviceId : DeviceId => deviceId.asStr.toList) same
  simp only [new, String.toList_append] at chars
  exact String.toList_injective (List.append_cancel_left chars)

@[simp] theorem asStr_inj {a b : DeviceId} : a.asStr = b.asStr ↔ a = b :=
  ⟨asStr_injective, congrArg asStr⟩

end DeviceId

namespace SessionId

/-- `SessionId::new()` for the drawn ULID. -/
def new (ulid : String) : SessionId := ⟨"sess_" ++ ulid⟩

theorem asStr_injective {a b : SessionId} (same : a.asStr = b.asStr) : a = b := by
  cases a
  cases b
  cases same
  rfl

end SessionId

namespace TransferToken

/-- `TransferToken::new()` for the drawn ULID. -/
def new (ulid : String) : TransferToken := ⟨"tt_" ++ ulid⟩

end TransferToken

namespace PairingCode

/-- `PairingCode::new()`: six decimal digits from the low bits of a drawn ULID. -/
def new (ulid : Nat) : PairingCode :=
  let digits := toString (ulid % 1000000)
  ⟨String.ofList (List.replicate (6 - digits.length) '0') ++ digits⟩

theorem asStr_injective {a b : PairingCode} (same : a.asStr = b.asStr) : a = b := by
  cases a
  cases b
  cases same
  rfl

@[simp] theorem asStr_inj {a b : PairingCode} : a.asStr = b.asStr ↔ a = b :=
  ⟨asStr_injective, congrArg asStr⟩

end PairingCode

/-- Nanoseconds since the Unix epoch. -/
abbrev Timestamp := Int

/-- `Duration::seconds`. -/
def seconds (n : Int) : Int := n * 1000000000

end AirPaste.Core
