/-
# Server.NonceCache — the nonces of accepted requests

A nonce is remembered for `ttl` from the moment its request was accepted; every
`record` first drops the entries whose time has come.
-/
import Mathlib.Data.Prod.Lex
import AirPaste.Core.Ids
import AirPaste.Theory.KeyedTable

namespace AirPaste.Server

open AirPaste.Core
open AirPaste.Theory

set_option autoImplicit false

/-- A remembered nonce and the instant it is forgotten. -/
structure NonceEntry where
  deviceId : DeviceId
  nonce : String
  expiresAt : Timestamp
  deriving DecidableEq

namespace NonceEntry

def keyOf (deviceId : DeviceId) (nonce : String) : String ×ₗ String := toLex (deviceId.asStr, nonce)

def key (entry : NonceEntry) : String ×ₗ String := keyOf entry.deviceId entry.nonce

end NonceEntry

structure NonceCache where
  ttl : Int
  entries : KeyedTable NonceEntry.key

namespace NonceCache

def new (ttl : Int) : NonceCache := ⟨ttl, .empty⟩

/-- Keep the entries that have not expired. -/
def retained (cache : NonceCache) (now : Timestamp) : KeyedTable NonceEntry.key :=
  cache.entries.retain fun entry => decide (now < entry.expiresAt)

def record (cache : NonceCache) (now : Timestamp) (deviceId : DeviceId) (nonce : String) :
    Bool × NonceCache :=
  let entries := cache.retained now
  if (entries.get (NonceEntry.keyOf deviceId nonce)).isSome then
    (false, { cache with entries := entries })
  else
    (true, { cache with entries := entries.put ⟨deviceId, nonce, now + cache.ttl⟩ })

/-- The nonce is remembered until this instant. -/
def Remembers (cache : NonceCache) (deviceId : DeviceId) (nonce : String)
    (expiresAt : Timestamp) : Prop :=
  cache.entries.get (NonceEntry.keyOf deviceId nonce) = some ⟨deviceId, nonce, expiresAt⟩

variable {cache : NonceCache} {deviceId : DeviceId} {nonce : String} {now expiresAt : Timestamp}

@[simp] theorem record_ttl (now : Timestamp) (deviceId : DeviceId) (nonce : String) :
    (cache.record now deviceId nonce).2.ttl = cache.ttl := by
  simp only [record]
  split <;> rfl

theorem retained_get (key : String ×ₗ String) :
    (cache.retained now).get key =
      (cache.entries.get key).filter fun entry => decide (now < entry.expiresAt) :=
  KeyedTable.get_retain _ _ _

theorem retained_of_remembers (known : cache.Remembers deviceId nonce expiresAt)
    (live : now < expiresAt) :
    (cache.retained now).get (NonceEntry.keyOf deviceId nonce) =
      some ⟨deviceId, nonce, expiresAt⟩ := by
  rw [retained_get, known]
  exact Option.filter_some_pos (decide_eq_true live)

/-- A nonce still remembered is refused. -/
theorem record_refuses (known : cache.Remembers deviceId nonce expiresAt)
    (live : now < expiresAt) : (cache.record now deviceId nonce).1 = false := by
  simp only [record]
  simp only [retained_of_remembers known live, Option.isSome_some, if_true]

/-- An accepted nonce is remembered for the lifetime from now on. -/
theorem remembers_of_record (accepted : (cache.record now deviceId nonce).1 = true) :
    (cache.record now deviceId nonce).2.Remembers deviceId nonce (now + cache.ttl) := by
  simp only [record] at accepted ⊢
  split
  · rename_i present
    rw [if_pos present] at accepted
    cases accepted
  · exact KeyedTable.get_put_self _ (⟨deviceId, nonce, now + cache.ttl⟩ : NonceEntry)

/-- Recording anything keeps what is remembered beyond now. -/
theorem record_keeps (known : cache.Remembers deviceId nonce expiresAt) (live : now < expiresAt)
    (otherId : DeviceId) (other : String) :
    (cache.record now otherId other).2.Remembers deviceId nonce expiresAt := by
  have kept := retained_of_remembers known live
  simp only [record]
  split
  · exact kept
  · rename_i absent
    refine (KeyedTable.get_put_ne (cache.retained now) fun same => absent ?_).trans kept
    have same : NonceEntry.keyOf otherId other = NonceEntry.keyOf deviceId nonce := same
    rw [same, kept]
    rfl

/-- A nonce whose time has come is accepted again. -/
theorem record_accepts (known : cache.Remembers deviceId nonce expiresAt)
    (expired : expiresAt ≤ now) : (cache.record now deviceId nonce).1 = true := by
  have gone : (cache.retained now).get (NonceEntry.keyOf deviceId nonce) = none := by
    rw [retained_get, known, Option.filter_some_neg]
    exact decide_eq_false (not_lt.mpr expired)
  simp only [record]
  simp only [gone, Option.isSome_none]
  rfl

/-- A nonce that was never seen is accepted. -/
theorem record_accepts_new
    (absent : cache.entries.get (NonceEntry.keyOf deviceId nonce) = none) :
    (cache.record now deviceId nonce).1 = true := by
  have gone : (cache.retained now).get (NonceEntry.keyOf deviceId nonce) = none := by
    rw [retained_get, absent]
    rfl
  simp only [record]
  simp only [gone, Option.isSome_none]
  rfl

/-- A nonce is accepted exactly when no entry of it is still live. -/
theorem record_accepts_iff : (cache.record now deviceId nonce).1 = true ↔
    ∀ entry, cache.entries.get (NonceEntry.keyOf deviceId nonce) = some entry →
      entry.expiresAt ≤ now := by
  cases known : cache.entries.get (NonceEntry.keyOf deviceId nonce) with
  | none => exact iff_of_true (record_accepts_new known) nofun
  | some entry =>
      have remembered : cache.Remembers deviceId nonce entry.expiresAt := by
        have key : entry.key = NonceEntry.keyOf deviceId nonce := KeyedTable.key_of_get known
        obtain ⟨⟨entryId⟩, entryNonce, expiresAt⟩ := entry
        cases deviceId
        cases key
        exact known
      by_cases live : now < entry.expiresAt
      · refine iff_of_false ?_ fun expired => absurd (expired entry rfl) (not_le.mpr live)
        rw [record_refuses remembered live]
        exact Bool.false_ne_true
      · refine iff_of_true (record_accepts remembered (not_lt.mp live)) ?_
        rintro found ⟨⟩
        exact not_lt.mp live

/-- A recorded request puts its own nonce in the cache when it is accepted, and no other. -/
theorem record_known {key : String ×ₗ String}
    (known : (cache.record now deviceId nonce).2.entries.get key ≠ none) :
    cache.entries.get key ≠ none ∨
      key = NonceEntry.keyOf deviceId nonce ∧ (cache.record now deviceId nonce).1 = true := by
  have before : (cache.retained now).get key ≠ none → cache.entries.get key ≠ none := by
    intro kept absent
    rw [retained_get, absent] at kept
    exact kept rfl
  simp only [record] at known ⊢
  split at known
  · exact Or.inl (before known)
  · rename_i fresh
    by_cases own : NonceEntry.keyOf deviceId nonce = key
    · exact Or.inr ⟨own.symm, by rw [if_neg fresh]⟩
    · have other : NonceEntry.key ⟨deviceId, nonce, now + cache.ttl⟩ ≠ key := own
      rw [KeyedTable.get_put_ne _ other] at known
      exact Or.inl (before known)

end NonceCache

end AirPaste.Server
