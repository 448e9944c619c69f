/-
# Agent.HotkeySpec — the texts that name a chord

`HotkeySpec::parse` goes through the parts of a text between the plus signs: an alias presses
its modifier, anything else must be the one key.  `KeyToken` says which parts name which key.
`parse_eq_ok_iff` is the whole grammar: the accepted texts and what they are read as.  A chord
that was read has a code on both platforms, and its label is read as the same chord.
-/
import AirPaste.Core.Model
import AirPaste.Theory.Check
import AirPaste.Theory.Pieces

namespace AirPaste.Agent

open AirPaste.Core
open AirPaste.Theory

set_option autoImplicit false

/-- A key by its byte, in upper case, or a function key by its number. -/
inductive HotkeyKey where
  | char (c : UInt8)
  | f (n : UInt8)
  deriving DecidableEq

/-- A chord.  `metaKey` is the source's `meta`: Cmd on macOS, Win on Windows. -/
structure HotkeySpec where
  alt : Bool
  ctrl : Bool
  shift : Bool
  metaKey : Bool
  key : HotkeyKey
  deriving DecidableEq

inductive Modifier where
  | alt
  | ctrl
  | shift
  | metaKey
  deriving DecidableEq

namespace HotkeySpec

def pressed (parsed : HotkeySpec) : Modifier → Bool
  | .alt => parsed.alt
  | .ctrl => parsed.ctrl
  | .shift => parsed.shift
  | .metaKey => parsed.metaKey

/-- The chord with this modifier pressed. -/
def press (parsed : HotkeySpec) : Modifier → HotkeySpec
  | .alt => { parsed with alt := true }
  | .ctrl => { parsed with ctrl := true }
  | .shift => { parsed with shift := true }
  | .metaKey => { parsed with metaKey := true }

end HotkeySpec

/-- The modifier that this part, in lower case, is an alias of. -/
def modifierOf (part : List Char) : Option Modifier :=
  if String.ofList part ∈ ["alt", "option", "opt"] then some .alt
  else if String.ofList part ∈ ["ctrl", "control"] then some .ctrl
  else if String.ofList part ∈ ["shift"] then some .shift
  else if String.ofList part ∈ ["cmd", "command", "meta", "super", "win"] then some .metaKey
  else none

/-- `char::to_ascii_uppercase`. -/
def asciiUpperChar (c : Char) : Char :=
  if 'a' ≤ c && c ≤ 'z' then Char.ofNat (c.toNat - 32) else c

/-- The loop of `u8::from_str`: each step is checked. -/
def parseU8Digits : Nat → List Char → Option Nat
  | n, [] => some n
  | n, c :: rest =>
      if Text.isAsciiDigit c then
        let next := n * 10 + (c.toNat - '0'.toNat)
        if n * 10 ≤ 255 ∧ next ≤ 255 then parseU8Digits next rest else none
      else none

/-- `u8::from_str`. -/
def parseU8 : List Char → Option Nat
  | [] => none
  | ['+'] => none
  | '+' :: digits => parseU8Digits 0 digits
  | digits => parseU8Digits 0 digits

def parseKey (spec : String) (part : List Char) : Except String HotkeyKey :=
  let unsupported : Except String HotkeyKey := .error
    s!"hotkey \"{spec}\": unsupported key \"{String.ofList part}\" (use a letter, digit, or f1-f12)"
  match part with
  | [c] =>
      if Text.isAsciiAlphanumeric c then .ok (.char (asciiUpperChar c).toUInt8) else unsupported
  | 'f' :: digits =>
      match (parseU8 digits).filter (fun n => 1 ≤ n && n ≤ 12) with
      | some n => .ok (.f (UInt8.ofNat n))
      | none => .error s!"hotkey \"{spec}\": function keys go from f1 to f12"
  | _ => unsupported

/-- One turn of the loop over the parts: what was pressed, and the key. -/
def parsePart (spec : String) (state : HotkeySpec × Option HotkeyKey) (part : List Char) :
    Except String (HotkeySpec × Option HotkeyKey) :=
  let part := Text.asciiLower (Text.trimChars part)
  match modifierOf part with
  | some modifier => .ok (state.1.press modifier, state.2)
  | none => do
      ensure (part ≠ []) s!"hotkey \"{spec}\" has an empty part"
      ensure state.2.isNone s!"hotkey \"{spec}\" has more than one non-modifier key"
      let key ← parseKey spec part
      return (state.1, some key)

def HotkeySpec.parse (spec : String) : Except String HotkeySpec := do
  let (parsed, key) ← (Text.splitChars (· == '+') spec.toList).foldlM (parsePart spec)
    (⟨false, false, false, false, .char 0⟩, none)
  match key with
  | none => .error s!"hotkey \"{spec}\" is missing a key (e.g. alt+c)"
  | some key =>
      ensure (parsed.alt || parsed.ctrl || parsed.shift || parsed.metaKey)
        s!"hotkey \"{spec}\" needs at least one modifier (alt/ctrl/shift/cmd)"
      return { parsed with key := key }

inductive HotkeyPlatform where
  | macos
  | windows
  deriving DecidableEq

def HotkeyKey.label : HotkeyKey → List Char
  | .char c => [Char.ofUInt8 c]
  | .f n => 'F' :: (toString n.toNat).toList

/-- What the platform calls a modifier. -/
def modifierLabel : HotkeyPlatform → Modifier → List Char
  | _, .ctrl => "Ctrl".toList
  | _, .shift => "Shift".toList
  | .macos, .alt => "Option".toList
  | .windows, .alt => "Alt".toList
  | .macos, .metaKey => "Cmd".toList
  | .windows, .metaKey => "Win".toList

/-- The names of the pressed modifiers, in the order of the label. -/
def HotkeySpec.modifierLabels (platform : HotkeyPlatform) (spec : HotkeySpec) :
    List (List Char) :=
  ([.ctrl, .shift, .alt, .metaKey].filter spec.pressed).map (modifierLabel platform)

def HotkeySpec.label (platform : HotkeyPlatform) (spec : HotkeySpec) : String :=
  let label := List.intercalate ['+'] (spec.modifierLabels platform)
  String.ofList ((if label = [] then label else label ++ ['+']) ++ spec.key.label)

structure HotkeyChords where
  copy : HotkeySpec
  paste : HotkeySpec

def parseHotkeyOrDefault (value : Option String) (default : String) : Except String HotkeySpec :=
  HotkeySpec.parse (((value.map Text.trim).filter fun value => value ≠ "").getD default)

/-- `Args::hotkey_chords`, of the two configured texts. -/
def hotkeyChords (platform : HotkeyPlatform) (hotkeyCopy hotkeyPaste : Option String) :
    Except String HotkeyChords := do
  let copy ← parseHotkeyOrDefault hotkeyCopy "alt+c"
  let paste ← parseHotkeyOrDefault hotkeyPaste "alt+v"
  ensure (copy ≠ paste)
    s!"copy and paste hotkeys are both {copy.label platform}; they must differ"
  return ⟨copy, paste⟩

/-- `carbon_key_code`; an unreachable arm has no value. -/
def carbonKeyCode : HotkeyKey → Option Nat
  | .char c =>
      match Char.ofUInt8 c with
      | 'A' => some 0 | 'S' => some 1 | 'D' => some 2 | 'F' => some 3 | 'H' => some 4
      | 'G' => some 5 | 'Z' => some 6 | 'X' => some 7 | 'C' => some 8 | 'V' => some 9
      | 'B' => some 11 | 'Q' => some 12 | 'W' => some 13 | 'E' => some 14 | 'R' => some 15
      | 'Y' => some 16 | 'T' => some 17 | '1' => some 18 | '2' => some 19 | '3' => some 20
      | '4' => some 21 | '6' => some 22 | '5' => some 23 | '9' => some 25 | '7' => some 26
      | '8' => some 28 | '0' => some 29 | 'O' => some 31 | 'U' => some 32 | 'I' => some 34
      | 'P' => some 35 | 'L' => some 37 | 'J' => some 38 | 'K' => some 40 | 'N' => some 45
      | 'M' => some 46
      | _ => none
  | .f n =>
      match n.toNat with
      | 1 => some 122 | 2 => some 120 | 3 => some 99 | 4 => some 118 | 5 => some 96
      | 6 => some 97 | 7 => some 98 | 8 => some 100 | 9 => some 101 | 10 => some 109
      | 11 => some 103 | 12 => some 111
      | _ => none

/-- `vk_code`: letters and digits have their own code. -/
def vkCode : HotkeyKey → Nat
  | .char c => c.toNat
  | .f n => 0x70 + n.toNat - 1

/-! ## Key tokens -/

/-- The number that digits denote, after `n`. -/
def decimalFrom (n : Nat) (digits : List Char) : Nat :=
  digits.foldl (fun n c => n * 10 + (c.toNat - '0'.toNat)) n

/-- The parts, in lower case, that name a key. -/
inductive KeyToken : List Char → HotkeyKey → Prop
  | char {c : Char} (alnum : Text.isAsciiAlphanumeric c = true) :
      KeyToken [c] (.char (asciiUpperChar c).toUInt8)
  | f {digits : List Char} (nonempty : digits ≠ [])
      (digit : ∀ c ∈ digits, Text.isAsciiDigit c = true)
      (positive : 1 ≤ decimalFrom 0 digits) (most : decimalFrom 0 digits ≤ 12) :
      KeyToken ('f' :: digits) (.f (UInt8.ofNat (decimalFrom 0 digits)))

theorem le_decimalFrom (n : Nat) (digits : List Char) : n ≤ decimalFrom n digits := by
  induction digits generalizing n with
  | nil => exact Nat.le_refl n
  | cons c rest ih =>
      have next := ih (n * 10 + (c.toNat - '0'.toNat))
      simp only [decimalFrom, List.foldl_cons] at next ⊢
      omega

/-- The checked loop reads the number of its digits, when that fits. -/
theorem parseU8Digits_eq_some_iff {n m : Nat} {digits : List Char} (fits : n ≤ 255) :
    parseU8Digits n digits = some m ↔
      (∀ c ∈ digits, Text.isAsciiDigit c = true) ∧ m = decimalFrom n digits ∧ m ≤ 255 := by
  induction digits generalizing n with
  | nil =>
      simp only [parseU8Digits, decimalFrom, List.foldl_nil, Option.some.injEq]
      constructor
      · rintro rfl
        exact ⟨fun c member => (by cases member), rfl, fits⟩
      · rintro ⟨-, same, -⟩
        exact same.symm
  | cons c rest ih =>
      have grows := le_decimalFrom (n * 10 + (c.toNat - '0'.toNat)) rest
      have whole : decimalFrom n (c :: rest) =
          decimalFrom (n * 10 + (c.toNat - '0'.toNat)) rest := rfl
      rw [parseU8Digits, List.forall_mem_cons, whole]
      cases digit : Text.isAsciiDigit c with
      | false => simp
      | true =>
          simp only [if_true, true_and]
          split
          · rename_i inside
            exact ih inside.2
          · rename_i outside
            refine iff_of_false (fun some => by cases some) ?_
            rintro ⟨-, rfl, within⟩
            omega

/-- `u8::from_str` on a text without a plus sign. -/
theorem parseU8_eq_some_iff {m : Nat} {digits : List Char} (plain : '+' ∉ digits) :
    parseU8 digits = some m ↔ digits ≠ [] ∧ (∀ c ∈ digits, Text.isAsciiDigit c = true) ∧
      m = decimalFrom 0 digits ∧ m ≤ 255 := by
  unfold parseU8
  split
  · simp
  · exact absurd List.mem_cons_self plain
  · exact absurd List.mem_cons_self plain
  · rename_i nonempty _ _
    rw [parseU8Digits_eq_some_iff (Nat.zero_le _)]
    exact (and_iff_right nonempty).symm

theorem parseKey_eq_ok_iff {spec : String} {part : List Char} {key : HotkeyKey}
    (plain : '+' ∉ part) : parseKey spec part = .ok key ↔ KeyToken part key := by
  unfold parseKey
  split
  · rename_i c
    constructor
    · intro read
      split at read
      · rename_i alnum
        cases read
        exact .char alnum
      · cases read
    · intro token
      cases token with
      | char alnum => rw [if_pos alnum]
      | f nonempty => exact absurd rfl nonempty
  · rename_i digits several
    have plainDigits : '+' ∉ digits := fun inside => plain (List.mem_cons_of_mem _ inside)
    constructor
    · intro read
      split at read
      · rename_i n found
        cases read
        obtain ⟨number, range⟩ := Option.filter_eq_some_iff.mp found
        obtain ⟨nonempty, digit, rfl, -⟩ := (parseU8_eq_some_iff plainDigits).mp number
        rw [Bool.and_eq_true, decide_eq_true_eq, decide_eq_true_eq] at range
        exact .f nonempty digit range.1 range.2
      · cases read
    · intro token
      cases token with
      | char alnum => exact absurd rfl several
      | f nonempty digit positive most =>
          have number : parseU8 digits = some (decimalFrom 0 digits) :=
            (parseU8_eq_some_iff plainDigits).mpr ⟨nonempty, digit, rfl, by omega⟩
          rw [number, Option.filter_some, if_pos (by simp [positive, most])]
  · rename_i single function
    refine iff_of_false (fun read => by cases read) fun token => ?_
    cases token with
    | char alnum => exact single _ rfl
    | f nonempty => exact function _ rfl

def modifierAliases : List String :=
  ["alt", "option", "opt", "ctrl", "control", "shift", "cmd", "command", "meta", "super", "win"]

theorem mem_modifierAliases {part : List Char} {modifier : Modifier}
    (found : modifierOf part = some modifier) : String.ofList part ∈ modifierAliases := by
  unfold modifierOf at found
  split_ifs at found with alt ctrl shift metaKey
  · exact List.mem_append_left _ alt
  · exact List.mem_append_right ["alt", "option", "opt"] (List.mem_append_left _ ctrl)
  · exact List.mem_append_right ["alt", "option", "opt", "ctrl", "control"]
      (List.mem_append_left _ shift)
  · exact List.mem_append_right ["alt", "option", "opt", "ctrl", "control", "shift"] metaKey

/-- Aliases are longer than a character, and none begins as a function key does. -/
theorem modifierAliases_shape : ∀ name ∈ modifierAliases,
    2 ≤ name.toList.length ∧ name.toList.head? ≠ some 'f' := by decide

/-- No key token is an alias of a modifier. -/
theorem KeyToken.modifierOf_eq_none {part : List Char} {key : HotkeyKey}
    (token : KeyToken part key) : modifierOf part = none := by
  cases found : modifierOf part with
  | none => rfl
  | some modifier =>
      obtain ⟨long, start⟩ := modifierAliases_shape _ (mem_modifierAliases found)
      rw [String.toList_ofList] at long start
      cases token with
      | char => exact absurd long (by simp)
      | f => exact absurd rfl start

/-- A part names one key. -/
theorem KeyToken.unique {part : List Char} {first second : HotkeyKey}
    (one : KeyToken part first) (other : KeyToken part second) : first = second := by
  cases one with
  | char alnum =>
      cases other with
      | char => rfl
      | f nonempty => exact absurd rfl nonempty
  | f nonempty =>
      cases other with
      | char => exact absurd rfl nonempty
      | f => rfl

/-! ## The loop -/

/-- A piece between plus signs, trimmed and in lower case. -/
def partOf (piece : List Char) : List Char := Text.asciiLower (Text.trimChars piece)

def chordParts (spec : String) : List (List Char) :=
  (Text.splitChars (· == '+') spec.toList).map partOf

/-- The chord with the modifiers of these parts pressed. -/
def pressAll (parsed : HotkeySpec) (parts : List (List Char)) : HotkeySpec :=
  parts.foldl (fun parsed part => (modifierOf part).elim parsed parsed.press) parsed

/-- What the parts make of the key read so far. -/
inductive KeyRead : Option HotkeyKey → List (List Char) → Option HotkeyKey → Prop
  | done {key : Option HotkeyKey} : KeyRead key [] key
  | pressed {key last : Option HotkeyKey} {part : List Char} {rest : List (List Char)}
      (modifier : modifierOf part ≠ none) (later : KeyRead key rest last) :
      KeyRead key (part :: rest) last
  | token {key : HotkeyKey} {last : Option HotkeyKey} {part : List Char}
      {rest : List (List Char)} (token : KeyToken part key) (later : KeyRead (some key) rest last) :
      KeyRead none (part :: rest) last

theorem parsePart_eq_ok_iff {spec : String} {state next : HotkeySpec × Option HotkeyKey}
    {piece : List Char} (plain : '+' ∉ partOf piece) :
    parsePart spec state piece = .ok next ↔
      (∃ modifier, modifierOf (partOf piece) = some modifier ∧
        next = (state.1.press modifier, state.2)) ∨
      ∃ key, KeyToken (partOf piece) key ∧ state.2 = none ∧ next = (state.1, some key) := by
  simp only [parsePart]
  rw [show Text.asciiLower (Text.trimChars piece) = partOf piece from rfl]
  cases found : modifierOf (partOf piece) with
  | some modifier =>
      simp only [Except.ok.injEq, Option.some.injEq, exists_eq_left']
      constructor
      · intro same
        exact .inl same.symm
      · rintro (same | ⟨key, token, -⟩)
        · exact same.symm
        · rw [token.modifierOf_eq_none] at found
          cases found
  | none =>
      simp only [bind_ok_iff, ensure_ok_iff, parseKey_eq_ok_iff plain]
      constructor
      · rintro ⟨-, -, -, free, key, token, same⟩
        cases same
        exact .inr ⟨key, token, Option.isNone_iff_eq_none.mp free, rfl⟩
      · rintro (⟨modifier, impossible, -⟩ | ⟨key, token, free, rfl⟩)
        · cases impossible
        · have nonempty : partOf piece ≠ [] := by
            intro empty
            rw [empty] at token
            cases token
          exact ⟨(), decide_eq_true nonempty, (), Option.isNone_iff_eq_none.mpr free, key, token,
            rfl⟩

/-- The loop presses every modifier and reads the key, or fails. -/
theorem foldlM_parsePart_eq_ok_iff {spec : String} {pieces : List (List Char)}
    {state final : HotkeySpec × Option HotkeyKey}
    (plain : ∀ piece ∈ pieces, '+' ∉ partOf piece) :
    pieces.foldlM (parsePart spec) state = .ok final ↔
      final.1 = pressAll state.1 (pieces.map partOf) ∧
        KeyRead state.2 (pieces.map partOf) final.2 := by
  induction pieces generalizing state with
  | nil =>
      obtain ⟨parsed, before⟩ := state
      obtain ⟨last, key⟩ := final
      constructor
      · intro same
        cases same
        exact ⟨rfl, .done⟩
      · rintro ⟨same, read⟩
        cases read
        cases same
        rfl
  | cons piece rest ih =>
      have inner (next : HotkeySpec × Option HotkeyKey) :
          rest.foldlM (parsePart spec) next = .ok final ↔
            final.1 = pressAll next.1 (rest.map partOf) ∧
              KeyRead next.2 (rest.map partOf) final.2 :=
        ih fun other member => plain other (List.mem_cons_of_mem _ member)
      obtain ⟨parsed, before⟩ := state
      rw [List.foldlM_cons, bind_ok_iff]
      simp only [parsePart_eq_ok_iff (plain piece List.mem_cons_self), inner, List.map_cons]
      constructor
      · rintro ⟨next, ⟨modifier, found, rfl⟩ | ⟨key, token, free, rfl⟩, same, read⟩
        · refine ⟨?_, .pressed (by rw [found]; exact Option.some_ne_none _) read⟩
          rw [same, pressAll, pressAll, List.foldl_cons, found]
          rfl
        · obtain rfl : before = none := free
          refine ⟨?_, .token token read⟩
          rw [same, pressAll, pressAll, List.foldl_cons, token.modifierOf_eq_none]
          rfl
      · rintro ⟨same, read⟩
        rw [pressAll, List.foldl_cons] at same
        cases read with
        | pressed modifier later =>
            obtain ⟨modifier, found⟩ := Option.ne_none_iff_exists'.mp modifier
            rw [found] at same
            exact ⟨_, .inl ⟨modifier, found, rfl⟩, same, later⟩
        | token token later =>
            rw [token.modifierOf_eq_none] at same
            exact ⟨_, .inr ⟨_, token, rfl, rfl⟩, same, later⟩

theorem keyRead_some_iff {parts : List (List Char)} {key : HotkeyKey} {last : Option HotkeyKey} :
    KeyRead (some key) parts last ↔ last = some key ∧ ∀ part ∈ parts, modifierOf part ≠ none := by
  induction parts with
  | nil =>
      constructor
      · intro read
        cases read
        exact ⟨rfl, fun part member => by cases member⟩
      · rintro ⟨rfl, -⟩
        exact .done
  | cons part rest ih =>
      rw [List.forall_mem_cons]
      constructor
      · intro read
        cases read with
        | pressed modifier later =>
            obtain ⟨same, aliases⟩ := ih.mp later
            exact ⟨same, modifier, aliases⟩
      · rintro ⟨same, modifier, aliases⟩
        exact .pressed modifier (ih.mpr ⟨same, aliases⟩)

/-- A key was read exactly where one part is its token and the others are aliases. -/
theorem keyRead_none_iff {parts : List (List Char)} {key : HotkeyKey} :
    KeyRead none parts (some key) ↔ ∃ front part back, parts = front ++ part :: back ∧
      KeyToken part key ∧ ∀ other ∈ front ++ back, modifierOf other ≠ none := by
  induction parts with
  | nil =>
      refine iff_of_false (fun read => by cases read) ?_
      rintro ⟨front, part, back, split, -⟩
      exact List.append_ne_nil_of_right_ne_nil front (List.cons_ne_nil _ _) split.symm
  | cons part rest ih =>
      constructor
      · intro read
        cases read with
        | pressed modifier later =>
            obtain ⟨front, token, back, rfl, reads, aliases⟩ := ih.mp later
            refine ⟨part :: front, token, back, rfl, reads, ?_⟩
            exact List.forall_mem_cons.mpr ⟨modifier, aliases⟩
        | token token later =>
            obtain ⟨same, aliases⟩ := keyRead_some_iff.mp later
            cases same
            exact ⟨[], part, rest, rfl, token, aliases⟩
      · rintro ⟨front, token, back, split, reads, aliases⟩
        cases front with
        | nil =>
            cases split
            exact .token reads (keyRead_some_iff.mpr ⟨rfl, aliases⟩)
        | cons first front =>
            cases split
            obtain ⟨modifier, others⟩ := List.forall_mem_cons.mp aliases
            exact .pressed modifier (ih.mpr ⟨front, token, back, rfl, reads, others⟩)

/-! ## The grammar -/

/-- A part stands in the middle or beside it. -/
theorem mem_middle_iff {front back : List (List Char)} {part other : List Char} :
    other ∈ front ++ part :: back ↔ other = part ∨ other ∈ front ++ back := by
  rw [List.mem_append, List.mem_cons, List.mem_append]
  exact or_left_comm

namespace HotkeySpec

theorem pressed_press (parsed : HotkeySpec) (modifier other : Modifier) :
    (parsed.press modifier).pressed other = (parsed.pressed other || modifier == other) := by
  cases modifier <;> cases other <;> simp [press, pressed]

theorem eq_of_pressed {first second : HotkeySpec}
    (same : ∀ modifier, first.pressed modifier = second.pressed modifier)
    (key : first.key = second.key) : first = second := by
  obtain ⟨alt, ctrl, shift, metaKey, k⟩ := first
  have a := same .alt
  have c := same .ctrl
  have s := same .shift
  have m := same .metaKey
  simp only [pressed] at a c s m key
  rw [a, c, s, m, key]

theorem any_pressed_iff (parsed : HotkeySpec) :
    (parsed.alt || parsed.ctrl || parsed.shift || parsed.metaKey) = true ↔
      ∃ modifier, parsed.pressed modifier = true := by
  simp only [Bool.or_eq_true]
  constructor
  · rintro (((alt | ctrl) | shift) | metaKey)
    · exact ⟨.alt, alt⟩
    · exact ⟨.ctrl, ctrl⟩
    · exact ⟨.shift, shift⟩
    · exact ⟨.metaKey, metaKey⟩
  · rintro ⟨modifier, down⟩
    cases modifier with
    | alt => exact .inl (.inl (.inl down))
    | ctrl => exact .inl (.inl (.inr down))
    | shift => exact .inl (.inr down)
    | metaKey => exact .inr down

/-- What is pressed after the parts was, or one of them is its alias. -/
theorem pressed_pressAll (parsed : HotkeySpec) (parts : List (List Char)) (modifier : Modifier) :
    (pressAll parsed parts).pressed modifier = true ↔
      parsed.pressed modifier = true ∨ ∃ part ∈ parts, modifierOf part = some modifier := by
  induction parts generalizing parsed with
  | nil => simp [pressAll]
  | cons part rest ih =>
      have step := ih ((modifierOf part).elim parsed parsed.press)
      rw [pressAll, List.foldl_cons]
      rw [pressAll] at step
      rw [step, List.exists_mem_cons_iff]
      cases modifierOf part with
      | none => simp
      | some other =>
          rw [Option.elim_some, pressed_press, Bool.or_eq_true, beq_iff_eq, or_assoc,
            Option.some.injEq]

/-- No part between plus signs has one. -/
theorem plus_not_mem_part {text piece : List Char}
    (member : piece ∈ Text.splitChars (· == '+') text) : '+' ∉ partOf piece := by
  intro inside
  rcases Text.mem_asciiLower inside with here | letter
  · have other := Text.sep_of_mem_splitChars member '+' (Text.mem_of_mem_trimChars here)
    cases other
  · exact absurd letter.1 (by decide)

theorem loop_eq_ok_iff {spec : String} {final : HotkeySpec × Option HotkeyKey} :
    (Text.splitChars (· == '+') spec.toList).foldlM (parsePart spec)
        (⟨false, false, false, false, .char 0⟩, none) = .ok final ↔
      final.1 = pressAll ⟨false, false, false, false, .char 0⟩ (chordParts spec) ∧
        KeyRead none (chordParts spec) final.2 :=
  foldlM_parsePart_eq_ok_iff fun _ member => plus_not_mem_part member

/-- What the parts of a text press. -/
theorem pressed_chordParts {spec : String} {modifier : Modifier} :
    (pressAll ⟨false, false, false, false, .char 0⟩ (chordParts spec)).pressed modifier = true ↔
      ∃ part ∈ chordParts spec, modifierOf part = some modifier := by
  rw [pressed_pressAll]
  cases modifier <;> simp [pressed]

/-- A modifier is pressed exactly where a part beside the key is an alias. -/
theorem exists_pressed_iff {front back : List (List Char)} {part : List Char} {key : HotkeyKey}
    (token : KeyToken part key) (aliases : ∀ other ∈ front ++ back, modifierOf other ≠ none) :
    (∃ modifier, ∃ other ∈ front ++ part :: back, modifierOf other = some modifier) ↔
      front ++ back ≠ [] := by
  constructor
  · rintro ⟨modifier, other, member, found⟩ empty
    obtain ⟨rfl, rfl⟩ := List.append_eq_nil_iff.mp empty
    rw [List.mem_singleton.mp member, token.modifierOf_eq_none] at found
    cases found
  · intro nonempty
    obtain ⟨other, member⟩ := List.exists_mem_of_ne_nil _ nonempty
    obtain ⟨modifier, found⟩ := Option.ne_none_iff_exists'.mp (aliases other member)
    exact ⟨modifier, other, mem_middle_iff.mpr (.inr member), found⟩

/-- **The grammar of chords**: the accepted texts, and the chord each is read as. -/
theorem parse_eq_ok_iff {spec : String} {chord : HotkeySpec} :
    parse spec = .ok chord ↔
      ∃ front part back, chordParts spec = front ++ part :: back ∧ KeyToken part chord.key ∧
        (∀ other ∈ front ++ back, modifierOf other ≠ none) ∧ front ++ back ≠ [] ∧
        ∀ modifier, chord.pressed modifier = true ↔
          ∃ other ∈ chordParts spec, modifierOf other = some modifier := by
  rw [parse, bind_ok_iff]
  constructor
  · rintro ⟨⟨parsed, key⟩, ran, rest⟩
    obtain ⟨rfl, reads⟩ := loop_eq_ok_iff.mp ran
    cases key with
    | none => cases rest
    | some key =>
        obtain ⟨_, enough, same⟩ := bind_ok_iff.mp rest
        cases same
        obtain ⟨modifier, down⟩ := (any_pressed_iff _).mp (ensure_ok_iff.mp enough)
        obtain ⟨front, part, back, split, token, aliases⟩ := keyRead_none_iff.mp reads
        refine ⟨front, part, back, split, token, aliases, ?_, fun modifier => ?_⟩
        · rw [pressed_chordParts, split] at down
          exact (exists_pressed_iff token aliases).mp ⟨modifier, down⟩
        · rw [← pressed_chordParts]
          cases modifier <;> rfl
  · rintro ⟨front, part, back, split, token, aliases, nonempty, presses⟩
    refine ⟨(pressAll ⟨false, false, false, false, .char 0⟩ (chordParts spec), some chord.key),
      loop_eq_ok_iff.mpr ⟨rfl, ?_⟩, ?_⟩
    · exact keyRead_none_iff.mpr ⟨front, part, back, split, token, aliases⟩
    · have down : ∃ modifier, (pressAll ⟨false, false, false, false, .char 0⟩
          (chordParts spec)).pressed modifier = true := by
        simp only [pressed_chordParts]
        rw [split]
        exact (exists_pressed_iff token aliases).mpr nonempty
      refine bind_ok_iff.mpr ⟨(), ensure_ok_iff.mpr ((any_pressed_iff _).mpr down), ?_⟩
      refine congrArg Except.ok (eq_of_pressed (fun modifier => ?_) rfl)
      rw [Bool.eq_iff_iff, presses, ← pressed_chordParts]
      cases modifier <;> rfl

end HotkeySpec

/-! ## Keys that are read -/

/-- The keys that a token can name. -/
def hotkeyKeys : List HotkeyKey :=
  "0123456789ABCDEFGHIJKLMNOPQRSTUVWXYZ".toList.map (fun c => .char c.toUInt8) ++
    (List.range 12).map fun n => .f (UInt8.ofNat (n + 1))

theorem upper_mem_of_alnum {c : Char} (alnum : Text.isAsciiAlphanumeric c = true) :
    asciiUpperChar c ∈ "0123456789ABCDEFGHIJKLMNOPQRSTUVWXYZ".toList := by
  have ascii : ∀ n < 128, Text.isAsciiAlphanumeric (Char.ofNat n) = true →
      asciiUpperChar (Char.ofNat n) ∈ "0123456789ABCDEFGHIJKLMNOPQRSTUVWXYZ".toList := by
    decide +kernel
  have small : c.toNat < 128 := by
    have range := Text.alphanumeric_range alnum
    omega
  have found := ascii c.toNat small
  rw [Char.ofNat_toNat] at found
  exact found alnum

theorem KeyToken.mem_hotkeyKeys {part : List Char} {key : HotkeyKey} (token : KeyToken part key) :
    key ∈ hotkeyKeys := by
  cases token with
  | char alnum => exact List.mem_append_left _ (List.mem_map_of_mem (upper_mem_of_alnum alnum))
  | @f digits nonempty digit positive most =>
      have inside : decimalFrom 0 digits - 1 < 12 := by omega
      refine List.mem_append_right _ (List.mem_map.mpr ⟨_, List.mem_range.mpr inside, ?_⟩)
      rw [Nat.sub_add_cancel positive]

/-- Every key has a code on both platforms. -/
theorem hotkeyKeys_mapped : ∀ key ∈ hotkeyKeys, (carbonKeyCode key).isSome = true ∧
    (0x30 ≤ vkCode key ∧ vkCode key ≤ 0x39 ∨ 0x41 ≤ vkCode key ∧ vkCode key ≤ 0x5A ∨
      0x70 ≤ vkCode key ∧ vkCode key ≤ 0x7B) := by
  decide +kernel

/-- The label of a key is a token of it, without a plus sign. -/
theorem hotkeyKeys_label : ∀ key ∈ hotkeyKeys, key.label.any (· == '+') = false ∧
    '+' ∉ partOf key.label ∧ (parseKey "" (partOf key.label)).toOption = some key := by
  decide +kernel

/-! ## Labels -/

theorem modifierLabel_alias (platform : HotkeyPlatform) (modifier : Modifier) :
    modifierOf (partOf (modifierLabel platform modifier)) = some modifier := by
  cases platform <;> cases modifier <;> decide +kernel

theorem modifierLabel_plain (platform : HotkeyPlatform) (modifier : Modifier) :
    (modifierLabel platform modifier).any (· == '+') = false := by
  cases platform <;> cases modifier <;> decide +kernel

namespace HotkeySpec

/-- The parts of a label that are aliases press what is pressed. -/
theorem exists_labelled_iff (platform : HotkeyPlatform) {spec : HotkeySpec}
    {modifier : Modifier} :
    (∃ part ∈ (spec.modifierLabels platform).map partOf, modifierOf part = some modifier) ↔
      spec.pressed modifier = true := by
  rw [modifierLabels, List.map_map]
  constructor
  · rintro ⟨part, member, found⟩
    obtain ⟨other, down, rfl⟩ := List.mem_map.mp member
    have same := (modifierLabel_alias platform other).symm.trans found
    cases same
    exact (List.mem_filter.mp down).2
  · intro down
    refine ⟨_, List.mem_map_of_mem (List.mem_filter.mpr ⟨?_, down⟩),
      modifierLabel_alias platform modifier⟩
    cases modifier <;> decide

theorem labelled_alias {platform : HotkeyPlatform} {spec : HotkeySpec} {part : List Char}
    (member : part ∈ (spec.modifierLabels platform).map partOf) : modifierOf part ≠ none := by
  rw [modifierLabels, List.map_map] at member
  obtain ⟨modifier, -, rfl⟩ := List.mem_map.mp member
  rw [Function.comp_apply, modifierLabel_alias]
  exact Option.some_ne_none modifier

/-- The label is its names, joined. -/
theorem splitChars_label (platform : HotkeyPlatform) (spec : HotkeySpec)
    (plain : ∀ c ∈ spec.key.label, (c == '+') = false) :
    Text.splitChars (· == '+') (spec.label platform).toList =
      spec.modifierLabels platform ++ [spec.key.label] := by
  have names : ∀ name ∈ spec.modifierLabels platform,
      name ≠ [] ∧ ∀ c ∈ name, (c == '+') = false := by
    intro name member
    obtain ⟨modifier, -, rfl⟩ := List.mem_map.mp member
    refine ⟨?_, Text.none_of_any (modifierLabel_plain platform modifier)⟩
    cases platform <;> cases modifier <;> decide +kernel
  have alone := Text.splitChars_single plain
  simp only [label, String.toList_ofList]
  generalize spec.modifierLabels platform = labels at names
  cases labels with
  | nil => exact alone
  | cons first rest =>
      have cuts : Text.splitChars (· == '+') (List.intercalate ['+'] (first :: rest)) =
          first :: rest :=
        Text.splitChars_intercalate rfl (List.cons_ne_nil first rest)
          fun name member => (names name member).2
      have filled : List.intercalate ['+'] (first :: rest) ≠ [] := by
        intro empty
        rw [empty] at cuts
        exact (names first List.mem_cons_self).1 (List.cons.inj cuts).1.symm
      rw [if_neg filled, List.append_assoc, List.singleton_append, Text.splitChars_sep rfl, cuts,
        alone]

/-- A chord that was read is read again from its label. -/
theorem parse_label {platform : HotkeyPlatform} {text : String} {spec : HotkeySpec}
    (read : parse text = .ok spec) : parse (spec.label platform) = .ok spec := by
  obtain ⟨front, part, back, split, token, aliases, nonempty, presses⟩ := parse_eq_ok_iff.mp read
  obtain ⟨plain, plainPart, reads⟩ := hotkeyKeys_label spec.key token.mem_hotkeyKeys
  have named : parseKey "" (partOf spec.key.label) = .ok spec.key := by
    cases result : parseKey "" (partOf spec.key.label) with
    | error error =>
        rw [result] at reads
        cases reads
    | ok key =>
        rw [result] at reads
        rw [Option.some.inj reads]
  have again := (parseKey_eq_ok_iff plainPart).mp named
  have parts : chordParts (spec.label platform) =
      (spec.modifierLabels platform).map partOf ++ [partOf spec.key.label] := by
    rw [chordParts, splitChars_label platform spec (Text.none_of_any plain), List.map_append,
      List.map_singleton]
  have same (modifier : Modifier) : spec.pressed modifier = true ↔
      ∃ other ∈ chordParts (spec.label platform), modifierOf other = some modifier := by
    rw [parts, ← exists_labelled_iff platform]
    simp only [List.mem_append, List.mem_singleton, or_and_right, exists_or, exists_eq_left,
      again.modifierOf_eq_none, reduceCtorEq, or_false]
  refine parse_eq_ok_iff.mpr ⟨_, _, [], parts, again, ?_, ?_, same⟩
  · intro other member
    rw [List.append_nil] at member
    exact labelled_alias member
  · have down : ∃ modifier, spec.pressed modifier = true := by
      simp only [presses, split]
      exact (exists_pressed_iff token aliases).mpr nonempty
    obtain ⟨modifier, down⟩ := down
    obtain ⟨other, member, -⟩ := (exists_labelled_iff platform).mpr down
    rw [List.append_nil]
    exact List.ne_nil_of_mem member

/-- The parts are an alias or a key token each, one of them is a key token, and one at least an
alias. -/
structure WellFormed (spec : String) : Prop where
  each : ∀ part ∈ chordParts spec, modifierOf part ≠ none ∨ ∃ key, KeyToken part key
  one : ∃ front part back, chordParts spec = front ++ part :: back ∧
    (∃ key, KeyToken part key) ∧ ∀ other ∈ front ++ back, ¬ ∃ key, KeyToken other key
  modifier : ∃ part ∈ chordParts spec, modifierOf part ≠ none

theorem wellFormed_of_parse {text : String} {spec : HotkeySpec} (read : parse text = .ok spec) :
    WellFormed text := by
  obtain ⟨front, part, back, split, token, aliases, nonempty, -⟩ := parse_eq_ok_iff.mp read
  obtain ⟨other, member⟩ := List.exists_mem_of_ne_nil _ nonempty
  constructor
  · intro other inside
    rw [split] at inside
    rcases mem_middle_iff.mp inside with rfl | beside
    · exact .inr ⟨_, token⟩
    · exact .inl (aliases other beside)
  · refine ⟨front, part, back, split, ⟨_, token⟩, fun other beside => ?_⟩
    rintro ⟨key, second⟩
    exact aliases other beside second.modifierOf_eq_none
  · refine ⟨other, ?_, aliases other member⟩
    rw [split]
    exact mem_middle_iff.mpr (.inr member)

theorem parse_of_wellFormed {text : String} (formed : WellFormed text) :
    ∃ spec, parse text = .ok spec := by
  obtain ⟨front, part, back, split, ⟨key, token⟩, others⟩ := formed.one
  have aliases : ∀ other ∈ front ++ back, modifierOf other ≠ none := by
    intro other beside
    have inside : other ∈ chordParts text := by
      rw [split]
      exact mem_middle_iff.mpr (.inr beside)
    exact (formed.each other inside).resolve_right (others other beside)
  refine ⟨{ pressAll ⟨false, false, false, false, .char 0⟩ (chordParts text) with key := key },
    parse_eq_ok_iff.mpr ⟨front, part, back, split, token, aliases, ?_, fun modifier => ?_⟩⟩
  · obtain ⟨other, inside, found⟩ := formed.modifier
    obtain ⟨modifier, found⟩ := Option.ne_none_iff_exists'.mp found
    rw [split] at inside
    exact (exists_pressed_iff token aliases).mp ⟨modifier, other, inside, found⟩
  · rw [← pressed_chordParts]
    cases modifier <;> rfl

/-- The key that was read is the only one that a part names. -/
theorem key_of_parse {text : String} {spec : HotkeySpec} (read : parse text = .ok spec)
    (key : HotkeyKey) : key = spec.key ↔ ∃ part ∈ chordParts text, KeyToken part key := by
  obtain ⟨front, part, back, split, token, aliases, -⟩ := parse_eq_ok_iff.mp read
  rw [split]
  constructor
  · rintro rfl
    exact ⟨part, mem_middle_iff.mpr (.inl rfl), token⟩
  · rintro ⟨other, inside, names⟩
    rcases mem_middle_iff.mp inside with rfl | beside
    · exact names.unique token
    · exact absurd names.modifierOf_eq_none (aliases other beside)

/-- The two chords that are listened for differ in a modifier or in the key, however their
texts are written. -/
theorem hotkeyChords_differ {platform : HotkeyPlatform} {copyText pasteText : Option String}
    {chords : HotkeyChords} (read : hotkeyChords platform copyText pasteText = .ok chords) :
    (∃ modifier, chords.copy.pressed modifier ≠ chords.paste.pressed modifier) ∨
      chords.copy.key ≠ chords.paste.key := by
  obtain ⟨copy, -, read⟩ := bind_ok_iff.mp read
  obtain ⟨paste, -, read⟩ := bind_ok_iff.mp read
  obtain ⟨_, different, same⟩ := bind_ok_iff.mp read
  cases same
  by_contra alike
  rw [not_or, not_exists] at alike
  exact of_decide_eq_true (ensure_ok_iff.mp different)
    (eq_of_pressed (fun modifier => not_not.mp (alike.1 modifier)) (not_not.mp alike.2))

/-- **The grammar of hotkeys.**  A text is accepted exactly when it is well formed; it is read
as the modifiers and the key that its parts name, and as nothing else; the key has a code on
both platforms, and the label is read as the same chord. -/
theorem hotkey_grammar (text : String) :
    ((∃ spec, parse text = .ok spec) ↔ WellFormed text) ∧
      ∀ spec, parse text = .ok spec →
        (∀ modifier, spec.pressed modifier = true ↔
          ∃ part ∈ chordParts text, modifierOf part = some modifier) ∧
        (∀ key, key = spec.key ↔ ∃ part ∈ chordParts text, KeyToken part key) ∧
        (∀ other, WellFormed other →
          (∀ modifier, (∃ part ∈ chordParts text, modifierOf part = some modifier) ↔
            ∃ part ∈ chordParts other, modifierOf part = some modifier) →
          (∀ key, (∃ part ∈ chordParts text, KeyToken part key) ↔
            ∃ part ∈ chordParts other, KeyToken part key) →
          parse other = .ok spec) ∧
        (carbonKeyCode spec.key).isSome = true ∧
        (0x30 ≤ vkCode spec.key ∧ vkCode spec.key ≤ 0x39 ∨
          0x41 ≤ vkCode spec.key ∧ vkCode spec.key ≤ 0x5A ∨
          0x70 ≤ vkCode spec.key ∧ vkCode spec.key ≤ 0x7B) ∧
        ∀ platform, parse (spec.label platform) = .ok spec := by
  refine ⟨⟨fun ⟨_, read⟩ => wellFormed_of_parse read, parse_of_wellFormed⟩, fun spec read => ?_⟩
  obtain ⟨front, part, back, split, token, aliases, -, presses⟩ := parse_eq_ok_iff.mp read
  obtain ⟨carbon, vk⟩ := hotkeyKeys_mapped spec.key token.mem_hotkeyKeys
  refine ⟨presses, key_of_parse read, fun other formed modifiers keys => ?_, carbon, vk,
    fun platform => parse_label read⟩
  obtain ⟨again, readAgain⟩ := parse_of_wellFormed formed
  obtain ⟨-, -, -, -, -, -, -, pressesAgain⟩ := parse_eq_ok_iff.mp readAgain
  rw [readAgain]
  refine congrArg Except.ok (eq_of_pressed (fun modifier => ?_) ?_)
  · rw [Bool.eq_iff_iff, pressesAgain, presses, modifiers]
  · rw [key_of_parse read, keys, ← key_of_parse readAgain]

end HotkeySpec

end AirPaste.Agent
