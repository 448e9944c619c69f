/-
# Theory.Cipher — cryptographic primitives and what makes them ideal

Byte strings of a fixed length, and the primitives an encryption to several recipients is
built from: an authenticated cipher, a key agreement, a key derivation and a byte codec.
Each comes with the law that makes it ideal.  The keys of the cipher are of any type: a
derivation into byte strings of a fixed length could not be injective.

`Aead.framed` is an ideal cipher that evaluates: it writes key, nonce and associated data
in front of the message.
-/
import Mathlib.Data.List.Nodup

namespace AirPaste.Theory

set_option autoImplicit false

/-- Byte strings of length `n`. -/
structure Bytes (n : Nat) where
  toList : List UInt8
  length_toList : toList.length = n
  deriving DecidableEq

namespace Bytes

variable {n : Nat}

/-- `<[u8; n]>::try_from` a slice. -/
def ofList? (n : Nat) (bytes : List UInt8) : Option (Bytes n) :=
  if length : bytes.length = n then some ⟨bytes, length⟩ else none

theorem toList_injective {a b : Bytes n} (same : a.toList = b.toList) : a = b := by
  cases a
  cases b
  cases same
  rfl

theorem ofList?_eq_some_iff {bytes : List UInt8} {b : Bytes n} :
    ofList? n bytes = some b ↔ b.toList = bytes := by
  unfold ofList?
  split
  · rename_i length
    rw [Option.some.injEq]
    constructor
    · rintro rfl
      rfl
    · exact fun same => toList_injective same.symm
  · rename_i other
    constructor
    · nofun
    · rintro rfl
      exact absurd b.length_toList other

@[simp] theorem ofList?_toList (b : Bytes n) : ofList? n b.toList = some b :=
  ofList?_eq_some_iff.mpr rfl

/-- `n` times the same byte. -/
def fill (n : Nat) (byte : UInt8) : Bytes n := ⟨List.replicate n byte, List.length_replicate⟩

end Bytes

/-! ## Authenticated encryption -/

/-- An authenticated cipher; encryption may refuse a message. -/
structure Aead (Key Nonce : Type) where
  encrypt : Key → Nonce → (associated message : List UInt8) → Option (List UInt8)
  decrypt : Key → Nonce → (associated ciphertext : List UInt8) → Option (List UInt8)

namespace Aead

variable {Key Nonce : Type} {aead : Aead Key Nonce}

/-- Decryption succeeds exactly on the key, nonce and associated data of the encryption. -/
structure Ideal (aead : Aead Key Nonce) : Prop where
  opens : ∀ {key nonce associated message ciphertext},
    aead.encrypt key nonce associated message = some ciphertext →
      aead.decrypt key nonce associated ciphertext = some message
  exact : ∀ {key nonce associated message ciphertext key' nonce' associated' message'},
    aead.encrypt key nonce associated message = some ciphertext →
      aead.decrypt key' nonce' associated' ciphertext = some message' →
        key' = key ∧ nonce' = nonce ∧ associated' = associated

theorem Ideal.decrypt_iff (ideal : aead.Ideal) {key key' : Key} {nonce nonce' : Nonce}
    {associated associated' message message' ciphertext : List UInt8}
    (encrypted : aead.encrypt key nonce associated message = some ciphertext) :
    aead.decrypt key' nonce' associated' ciphertext = some message' ↔
      key' = key ∧ nonce' = nonce ∧ associated' = associated ∧ message' = message := by
  constructor
  · intro decrypted
    obtain ⟨rfl, rfl, rfl⟩ := ideal.exact encrypted decrypted
    rw [ideal.opens encrypted] at decrypted
    exact ⟨rfl, rfl, rfl, (Option.some.inj decrypted).symm⟩
  · rintro ⟨rfl, rfl, rfl, rfl⟩
    exact ideal.opens encrypted

/-- A byte string that tells where it ends. -/
def frame : List UInt8 → List UInt8
  | [] => [0]
  | byte :: rest => 1 :: byte :: frame rest

theorem frame_append_inj {xs ys xs' ys' : List UInt8} (same : frame xs ++ xs' = frame ys ++ ys') :
    xs = ys ∧ xs' = ys' := by
  induction xs generalizing ys with
  | nil =>
      cases ys with
      | nil => exact ⟨rfl, (List.cons.inj same).2⟩
      | cons y ys => exact absurd (List.cons.inj same).1 (by decide)
  | cons x xs ih =>
      cases ys with
      | nil => exact absurd (List.cons.inj same).1 (by decide)
      | cons y ys =>
          obtain ⟨-, tails⟩ := List.cons.inj same
          obtain ⟨rfl, rest⟩ := List.cons.inj tails
          obtain ⟨rfl, rfl⟩ := ih rest
          exact ⟨rfl, rfl⟩

/-- Key, nonce and associated data, each framed. -/
def label {n : Nat} (key : List UInt8) (nonce : Bytes n) (associated : List UInt8) : List UInt8 :=
  frame key ++ (frame nonce.toList ++ frame associated)

theorem label_append_inj {n : Nat} {key key' associated associated' rest rest' : List UInt8}
    {nonce nonce' : Bytes n}
    (same : label key nonce associated ++ rest = label key' nonce' associated' ++ rest') :
    key = key' ∧ nonce = nonce' ∧ associated = associated' ∧ rest = rest' := by
  simp only [label, List.append_assoc] at same
  obtain ⟨keys, afterKey⟩ := frame_append_inj same
  obtain ⟨nonces, afterNonce⟩ := frame_append_inj afterKey
  obtain ⟨associateds, rests⟩ := frame_append_inj afterNonce
  exact ⟨keys, Bytes.toList_injective nonces, associateds, rests⟩

/-- The cipher that writes the label in front of the message. -/
def framed (n : Nat) : Aead (List UInt8) (Bytes n) where
  encrypt key nonce associated message := some (label key nonce associated ++ message)
  decrypt key nonce associated ciphertext :=
    let label := label key nonce associated
    if label.isPrefixOf ciphertext then some (ciphertext.drop label.length) else none

theorem framed_ideal (n : Nat) : (framed n).Ideal where
  opens := by
    intro key nonce associated message ciphertext encrypted
    cases encrypted
    simp only [framed]
    rw [if_pos (List.isPrefixOf_iff_prefix.mpr ⟨message, rfl⟩), List.drop_left]
  exact := by
    intro key nonce associated message ciphertext key' nonce' associated' message' encrypted opened
    cases encrypted
    simp only [framed] at opened
    split at opened
    · rename_i labelled
      obtain ⟨rest, same⟩ := List.isPrefixOf_iff_prefix.mp labelled
      obtain ⟨rfl, rfl, rfl, -⟩ := label_append_inj same
      exact ⟨rfl, rfl, rfl⟩
    · cases opened

/-! ### Recorded ciphertexts -/

/-- An encryption that was recorded. -/
structure Recorded (Key Nonce : Type) where
  key : Key
  nonce : Nonce
  associated : List UInt8
  message : List UInt8
  ciphertext : List UInt8

section Recorded

variable [DecidableEq Key] [DecidableEq Nonce]

/-- A cipher that gives the recorded ciphertexts, and is another one elsewhere. -/
def recorded (records : List (Recorded Key Nonce)) (elsewhere : Aead Key Nonce) :
    Aead Key Nonce where
  encrypt key nonce associated message :=
    match records.find? fun r =>
      r.key = key ∧ r.nonce = nonce ∧ r.associated = associated ∧ r.message = message with
    | some r => some r.ciphertext
    | none => elsewhere.encrypt key nonce associated message
  decrypt key nonce associated ciphertext :=
    match records.find? fun r => r.ciphertext = ciphertext with
    | some r =>
        if r.key = key ∧ r.nonce = nonce ∧ r.associated = associated then some r.message else none
    | none => elsewhere.decrypt key nonce associated ciphertext

variable {records : List (Recorded Key Nonce)} {elsewhere : Aead Key Nonce}

omit [DecidableEq Key] [DecidableEq Nonce] in
/-- A record is found by its ciphertext. -/
theorem find_ciphertext {r : Recorded Key Nonce} (member : r ∈ records)
    (distinct : (records.map Recorded.ciphertext).Nodup) :
    records.find? (fun s => s.ciphertext = r.ciphertext) = some r := by
  cases found : records.find? fun s => s.ciphertext = r.ciphertext with
  | none =>
      have absent := List.find?_eq_none.mp found r member
      simp at absent
  | some s =>
      have same : s.ciphertext = r.ciphertext := by simpa using List.find?_some found
      rw [List.inj_on_of_nodup_map distinct (List.mem_of_find?_eq_some found) member same]

/-- A ciphertext is a record's, which decryption finds, or one of the other cipher. -/
theorem recorded_encrypt {key : Key} {nonce : Nonce} {associated message ciphertext : List UInt8}
    (distinct : (records.map Recorded.ciphertext).Nodup)
    (encrypted : (recorded records elsewhere).encrypt key nonce associated message =
      some ciphertext) :
    records.find? (fun s => s.ciphertext = ciphertext) =
        some ⟨key, nonce, associated, message, ciphertext⟩ ∨
      elsewhere.encrypt key nonce associated message = some ciphertext := by
  simp only [recorded] at encrypted
  split at encrypted
  · rename_i r found
    have same : r.key = key ∧ r.nonce = nonce ∧ r.associated = associated ∧
        r.message = message := by
      simpa using List.find?_some found
    obtain ⟨rfl, rfl, rfl, rfl⟩ := same
    cases encrypted
    exact Or.inl (find_ciphertext (List.mem_of_find?_eq_some found) distinct)
  · exact Or.inr encrypted

/-- Records keep a cipher ideal when their ciphertexts are new to it. -/
theorem recorded_ideal (ideal : elsewhere.Ideal)
    (distinct : (records.map Recorded.ciphertext).Nodup)
    (new : ∀ r ∈ records, ∀ key nonce associated message,
      elsewhere.encrypt key nonce associated message ≠ some r.ciphertext) :
    (recorded records elsewhere).Ideal := by
  have unrecorded : ∀ {key nonce associated message ciphertext},
      elsewhere.encrypt key nonce associated message = some ciphertext →
        records.find? (fun r => r.ciphertext = ciphertext) = none := by
    intro key nonce associated message ciphertext encrypted
    refine List.find?_eq_none.mpr fun r member same => ?_
    rw [← of_decide_eq_true same] at encrypted
    exact new r member key nonce associated message encrypted
  constructor
  · intro key nonce associated message ciphertext encrypted
    rcases recorded_encrypt distinct encrypted with found | other
    · simp [recorded, found]
    · simp only [recorded, unrecorded other]
      exact ideal.opens other
  · intro key nonce associated message ciphertext key' nonce' associated' message' encrypted opened
    rcases recorded_encrypt distinct encrypted with found | other
    · simp only [recorded, found] at opened
      split at opened
      · rename_i same
        exact ⟨same.1.symm, same.2.1.symm, same.2.2.symm⟩
      · cases opened
    · simp only [recorded, unrecorded other] at opened
      exact ideal.exact other opened

end Recorded

/-- A framed ciphertext starts with one of two bytes. -/
theorem framed_head {n : Nat} {key associated message ciphertext : List UInt8} {nonce : Bytes n}
    (encrypted : (framed n).encrypt key nonce associated message = some ciphertext) :
    ciphertext.head? = some 0 ∨ ciphertext.head? = some 1 := by
  cases encrypted
  cases key with
  | nil => exact Or.inl rfl
  | cons byte rest => exact Or.inr rfl

end Aead

/-! ## Key agreement, key derivation and encoding -/

/-- Public keys of secrets, and what a secret agrees on with a public key. -/
structure Agreement (Secret Public Shared : Type) where
  publicKey : Secret → Public
  diffieHellman : Secret → Public → Shared

/-- Both sides agree. -/
def Agreement.Commutes {Secret Public Shared : Type}
    (agreement : Agreement Secret Public Shared) : Prop :=
  ∀ a b, agreement.diffieHellman a (agreement.publicKey b) =
    agreement.diffieHellman b (agreement.publicKey a)

/-- A derivation of keys from a secret and an info string gives no key twice. -/
def DerivesInjectively {Secret Key : Type} (derive : Secret → List UInt8 → Option Key) : Prop :=
  ∀ {secret secret' info info' key}, derive secret info = some key →
    derive secret' info' = some key → secret = secret' ∧ info = info'

/-- A textual form of byte strings; `Except.error` holds the decoder's own message. -/
structure Codec where
  encode : List UInt8 → String
  decode : String → Except String (List UInt8)

/-- The codec decodes what it encodes. -/
def Codec.RoundTrips (codec : Codec) : Prop :=
  ∀ bytes, codec.decode (codec.encode bytes) = .ok bytes

end AirPaste.Theory
