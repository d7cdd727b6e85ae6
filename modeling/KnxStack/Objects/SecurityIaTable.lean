import Mathlib.Logic.Function.Basic
import KnxStack.Lib.Octets

/-!
# The Security Individual Address Table

`objects/security_individual_address_table.hpp`: for each communication partner its individual
address and the last sequence number accepted from it, as one octet string that a management client
downloads. The Security Interface Object keeps the same numbers in a live map.

`Durable` says that the table covers the live number of a partner. `synced_sync` is what
`syncSequencesFromAddressTable` does: no number falls, and every partner in the table is durable.
-/

set_option autoImplicit false

namespace KnxStack.Objects

open KnxStack.Lib.Octets

namespace SecurityIaTable

/-! ## Entries -/

/-- `entryCount`: two octets of address and six of sequence number each. -/
def entryCount (blob : List UInt8) : Nat := blob.length / 8

/-- `addressAt`. -/
def addressAt (blob : List UInt8) (index : Nat) : UInt16 :=
  UInt16.ofNat (ofOctets (slice blob (index * 8) 2))

/-- `sequenceAt`. -/
def sequenceAt (blob : List UInt8) (index : Nat) : Nat :=
  ofOctets (slice blob (index * 8 + 2) 6)

/-- `indexOf`: the first entry of an address. -/
def indexOf (blob : List UInt8) (address : UInt16) : Option Nat :=
  (List.range (entryCount blob)).find? fun index => addressAt blob index = address

/-- `setSequenceFor`: overwrites the number of the first entry of an address, if it has one. -/
def setSequenceFor (blob : List UInt8) (address : UInt16) (sequence : Nat) : List UInt8 :=
  match indexOf blob address with
  | none => blob
  | some index => overwrite blob (index * 8 + 2) (toOctets 6 sequence)

/-- The loop body of `syncSequencesFromAddressTable`: of the live number and the stored one the
higher is kept on both sides. -/
def syncEntry (state : (UInt16 → Nat) × List UInt8) (index : Nat) : (UInt16 → Nat) × List UInt8 :=
  let address := addressAt state.2 index
  let stored := sequenceAt state.2 index
  let live := state.1 address
  if live < stored then (Function.update state.1 address stored, state.2)
  else if stored < live then (state.1, setSequenceFor state.2 address live)
  else state

/-- An address has an entry. -/
def Listed (blob : List UInt8) (address : UInt16) : Prop :=
  ∃ index < entryCount blob, addressAt blob index = address

instance (blob : List UInt8) (address : UInt16) : Decidable (Listed blob address) :=
  inferInstanceAs (Decidable (∃ index < entryCount blob, addressAt blob index = address))

/-- Some entry of an address has at least the live number. -/
def Durable (live : UInt16 → Nat) (blob : List UInt8) (address : UInt16) : Prop :=
  ∃ index < entryCount blob, addressAt blob index = address ∧ live address ≤ sequenceAt blob index

theorem indexOf_eq_some {blob : List UInt8} {address : UInt16} {index : Nat}
    (h : indexOf blob address = some index) :
    index < entryCount blob ∧ addressAt blob index = address := by
  obtain ⟨haddress, hmem, -⟩ := List.find?_range_eq_some.mp h
  exact ⟨List.mem_range.mp hmem, by simpa using haddress⟩

/-- `indexOf` finds the first entry. -/
theorem indexOf_le {blob : List UInt8} {address : UInt16} {index index' : Nat}
    (h : indexOf blob address = some index) (haddress : addressAt blob index' = address) :
    index ≤ index' := by
  by_contra hlt
  have hfirst := (List.find?_range_eq_some.mp h).2.2 index' (Nat.lt_of_not_le hlt)
  simp [haddress] at hfirst

theorem indexOf_isSome {blob : List UInt8} {address : UInt16} (h : Listed blob address) :
    ∃ index, indexOf blob address = some index := by
  obtain ⟨index, hlt, haddress⟩ := h
  apply Option.isSome_iff_exists.mp
  rw [indexOf, List.find?_isSome]
  exact ⟨index, List.mem_range.mpr hlt, by simpa using haddress⟩

section Overwritten

variable {blob : List UInt8} {index : Nat}

theorem entry_in_bounds (h : index < entryCount blob) (sequence : Nat) :
    index * 8 + 2 + (toOctets 6 sequence).length ≤ blob.length := by
  rw [length_toOctets]
  rw [entryCount] at h
  omega

theorem addressAt_overwrite (h : index < entryCount blob) (sequence index' : Nat) :
    addressAt (overwrite blob (index * 8 + 2) (toOctets 6 sequence)) index'
      = addressAt blob index' := by
  rw [addressAt, slice_overwrite_of_disjoint (entry_in_bounds h sequence), addressAt]
  rw [length_toOctets]
  omega

theorem sequenceAt_overwrite_self (h : index < entryCount blob) {sequence : Nat}
    (hsequence : sequence < 256 ^ 6) :
    sequenceAt (overwrite blob (index * 8 + 2) (toOctets 6 sequence)) index = sequence := by
  have hslice := slice_overwrite_self (entry_in_bounds h sequence)
  rw [length_toOctets] at hslice
  rw [sequenceAt, hslice, ofOctets_toOctets, Nat.mod_eq_of_lt hsequence]

theorem sequenceAt_overwrite_of_ne (h : index < entryCount blob) (sequence : Nat) {index' : Nat}
    (hne : index' ≠ index) :
    sequenceAt (overwrite blob (index * 8 + 2) (toOctets 6 sequence)) index'
      = sequenceAt blob index' := by
  rw [sequenceAt, slice_overwrite_of_disjoint (entry_in_bounds h sequence), sequenceAt]
  rw [length_toOctets]
  omega

end Overwritten

/-- Six octets hold less than `2 ^ 48`. -/
theorem sequenceAt_lt (blob : List UInt8) (index : Nat) : sequenceAt blob index < 256 ^ 6 := by
  have hlt := ofOctets_lt (slice blob (index * 8 + 2) 6)
  have hle : (slice blob (index * 8 + 2) 6).length ≤ 6 := by
    rw [slice, List.length_take]
    omega
  exact lt_of_lt_of_le hlt (Nat.pow_le_pow_right (by decide) hle)

theorem entries_setSequenceFor (blob : List UInt8) (address : UInt16) (sequence : Nat) :
    (setSequenceFor blob address sequence).length = blob.length
      ∧ ∀ index, addressAt (setSequenceFor blob address sequence) index = addressAt blob index := by
  rw [setSequenceFor]
  cases hindex : indexOf blob address with
  | none => exact ⟨rfl, fun _ => rfl⟩
  | some index =>
    have hlt := (indexOf_eq_some hindex).1
    exact ⟨length_overwrite (entry_in_bounds hlt sequence), addressAt_overwrite hlt sequence⟩

theorem entryCount_setSequenceFor (blob : List UInt8) (address : UInt16) (sequence : Nat) :
    entryCount (setSequenceFor blob address sequence) = entryCount blob := by
  rw [entryCount, (entries_setSequenceFor blob address sequence).1, entryCount]

theorem listed_setSequenceFor_iff (blob : List UInt8) (address : UInt16) (sequence : Nat)
    {other : UInt16} : Listed (setSequenceFor blob address sequence) other ↔ Listed blob other := by
  simp only [Listed, entryCount_setSequenceFor, (entries_setSequenceFor blob address sequence).2]

theorem sequenceAt_setSequenceFor_of_ne {blob : List UInt8} {address : UInt16} (sequence : Nat)
    {index : Nat} (hne : addressAt blob index ≠ address) :
    sequenceAt (setSequenceFor blob address sequence) index = sequenceAt blob index := by
  rw [setSequenceFor]
  cases hindex : indexOf blob address with
  | none => rfl
  | some index' =>
    obtain ⟨hlt, haddress⟩ := indexOf_eq_some hindex
    apply sequenceAt_overwrite_of_ne hlt
    rintro rfl
    exact hne haddress

theorem exists_sequenceAt_setSequenceFor {blob : List UInt8} {address : UInt16} {sequence : Nat}
    (hlisted : Listed blob address) (hsequence : sequence < 256 ^ 6) :
    ∃ index < entryCount (setSequenceFor blob address sequence),
      addressAt (setSequenceFor blob address sequence) index = address
        ∧ sequenceAt (setSequenceFor blob address sequence) index = sequence := by
  obtain ⟨index, hindex⟩ := indexOf_isSome hlisted
  obtain ⟨hlt, haddress⟩ := indexOf_eq_some hindex
  refine ⟨index, ?_, ?_, ?_⟩
  · rw [entryCount_setSequenceFor]
    exact hlt
  · rw [(entries_setSequenceFor blob address sequence).2, haddress]
  · rw [setSequenceFor, hindex]
    exact sequenceAt_overwrite_self hlt hsequence

theorem Durable.setSequenceFor_of_ne {live : UInt16 → Nat} {blob : List UInt8}
    {address other : UInt16} (h : Durable live blob other) (hne : other ≠ address) (sequence : Nat) :
    Durable live (setSequenceFor blob address sequence) other := by
  obtain ⟨index, hlt, haddress, hle⟩ := h
  refine ⟨index, ?_, ?_, ?_⟩
  · rw [entryCount_setSequenceFor]
    exact hlt
  · rw [(entries_setSequenceFor blob address sequence).2, haddress]
  · rw [sequenceAt_setSequenceFor_of_ne sequence (by rw [haddress]; exact hne)]
    exact hle

theorem Durable.congr {live live' : UInt16 → Nat} {blob : List UInt8} {address : UInt16}
    (h : Durable live blob address) (heq : live' address = live address) :
    Durable live' blob address := by
  obtain ⟨index, hlt, haddress, hle⟩ := h
  exact ⟨index, hlt, haddress, heq ▸ hle⟩

/-! ## Reconciling the live numbers with a table -/

/-- What the loop has achieved when it has passed the first `k` entries. -/
structure Synced (live : UInt16 → Nat) (blob : List UInt8) (live' : UInt16 → Nat)
    (blob' : List UInt8) (k : Nat) : Prop where
  length : blob'.length = blob.length
  addresses : ∀ index, addressAt blob' index = addressAt blob index
  untouched : ∀ index, k ≤ index → sequenceAt blob' index = sequenceAt blob index
  raised : ∀ address, live address ≤ live' address
  bounded : ∀ address, live' address < 256 ^ 6
  covered : ∀ index < k, sequenceAt blob index ≤ live' (addressAt blob index)
  durable : ∀ index < k, Durable live' blob' (addressAt blob index)
  origin : ∀ address, live' address = live address
    ∨ ∃ index < SecurityIaTable.entryCount blob, addressAt blob index = address
      ∧ sequenceAt blob index = live' address

section Synced

variable {live live' : UInt16 → Nat} {blob blob' : List UInt8} {k : Nat}

theorem Synced.entryCount (h : Synced live blob live' blob' k) :
    entryCount blob' = entryCount blob := by
  rw [SecurityIaTable.entryCount, h.length, SecurityIaTable.entryCount]

theorem Synced.raise (h : Synced live blob live' blob' k)
    (hk : k < SecurityIaTable.entryCount blob) (hraise : live' (addressAt blob' k) < sequenceAt blob' k) :
    Synced live blob (Function.update live' (addressAt blob' k) (sequenceAt blob' k)) blob' (k + 1) := by
  have hle : ∀ address, live' address
      ≤ Function.update live' (addressAt blob' k) (sequenceAt blob' k) address := by
    intro address
    by_cases heq : address = addressAt blob' k
    · rw [heq, Function.update_self]
      exact Nat.le_of_lt hraise
    · rw [Function.update_of_ne heq]
  have hhere : Durable (Function.update live' (addressAt blob' k) (sequenceAt blob' k)) blob'
      (addressAt blob' k) := by
    refine ⟨k, h.entryCount ▸ hk, rfl, ?_⟩
    rw [Function.update_self]
  refine ⟨h.length, h.addresses, fun index hindex => h.untouched index (by omega),
    fun address => Nat.le_trans (h.raised address) (hle address), ?_, ?_, ?_, ?_⟩
  · intro address
    by_cases heq : address = addressAt blob' k
    · rw [heq, Function.update_self]
      exact sequenceAt_lt blob' k
    · rw [Function.update_of_ne heq]
      exact h.bounded address
  · intro index hindex
    rcases Nat.lt_succ_iff_lt_or_eq.mp hindex with hlt | rfl
    · exact Nat.le_trans (h.covered index hlt) (hle _)
    · rw [← h.addresses index, Function.update_self, h.untouched index (Nat.le_refl index)]
  · intro index hindex
    by_cases heq : addressAt blob index = addressAt blob' k
    · rw [heq]
      exact hhere
    · rcases Nat.lt_succ_iff_lt_or_eq.mp hindex with hlt | rfl
      · exact (h.durable index hlt).congr (Function.update_of_ne heq _ _)
      · exact absurd (h.addresses index).symm heq
  · intro address
    by_cases heq : address = addressAt blob' k
    · right
      rw [heq, Function.update_self]
      exact ⟨k, hk, (h.addresses k).symm, (h.untouched k (Nat.le_refl k)).symm⟩
    · rw [Function.update_of_ne heq]
      exact h.origin address

theorem Synced.lower (h : Synced live blob live' blob' k)
    (hk : k < SecurityIaTable.entryCount blob) (hlower : sequenceAt blob' k < live' (addressAt blob' k)) :
    Synced live blob live' (setSequenceFor blob' (addressAt blob' k) (live' (addressAt blob' k)))
      (k + 1) := by
  have hlisted : Listed blob' (addressAt blob' k) := ⟨k, h.entryCount ▸ hk, rfl⟩
  have hkept := entries_setSequenceFor blob' (addressAt blob' k) (live' (addressAt blob' k))
  refine ⟨hkept.1.trans h.length, fun index => (hkept.2 index).trans (h.addresses index), ?_,
    h.raised, h.bounded, ?_, ?_, h.origin⟩
  · -- the first entry of the address is not a later one
    intro index hindex
    rw [← h.untouched index (by omega), setSequenceFor]
    cases hfound : indexOf blob' (addressAt blob' k) with
    | none => rfl
    | some first =>
      have hfirst : first ≤ k := indexOf_le hfound rfl
      exact sequenceAt_overwrite_of_ne (indexOf_eq_some hfound).1 _ (by omega)
  · intro index hindex
    rcases Nat.lt_succ_iff_lt_or_eq.mp hindex with hlt | rfl
    · exact h.covered index hlt
    · rw [← h.addresses index, ← h.untouched index (Nat.le_refl index)]
      exact Nat.le_of_lt hlower
  · intro index hindex
    by_cases heq : addressAt blob index = addressAt blob' k
    · rw [heq]
      obtain ⟨first, hlt, hfirst, hnumber⟩ :=
        exists_sequenceAt_setSequenceFor hlisted (h.bounded (addressAt blob' k))
      exact ⟨first, hlt, hfirst, hnumber.ge⟩
    · rcases Nat.lt_succ_iff_lt_or_eq.mp hindex with hlt | rfl
      · exact (h.durable index hlt).setSequenceFor_of_ne heq _
      · exact absurd (h.addresses index).symm heq

theorem Synced.agree (h : Synced live blob live' blob' k)
    (hk : k < SecurityIaTable.entryCount blob) (hequal : live' (addressAt blob' k) = sequenceAt blob' k) :
    Synced live blob live' blob' (k + 1) := by
  refine ⟨h.length, h.addresses, fun index hindex => h.untouched index (by omega), h.raised,
    h.bounded, ?_, ?_, h.origin⟩
  · intro index hindex
    rcases Nat.lt_succ_iff_lt_or_eq.mp hindex with hlt | rfl
    · exact h.covered index hlt
    · rw [← h.addresses index, hequal, h.untouched index (Nat.le_refl index)]
  · intro index hindex
    rcases Nat.lt_succ_iff_lt_or_eq.mp hindex with hlt | rfl
    · exact h.durable index hlt
    · rw [← h.addresses index]
      exact ⟨index, h.entryCount ▸ hk, rfl, hequal.le⟩

theorem Synced.syncEntry (h : Synced live blob live' blob' k)
    (hk : k < SecurityIaTable.entryCount blob) :
    Synced live blob (syncEntry (live', blob') k).1 (syncEntry (live', blob') k).2 (k + 1) := by
  simp only [SecurityIaTable.syncEntry]
  by_cases hraise : live' (addressAt blob' k) < sequenceAt blob' k
  · rw [if_pos hraise]
    exact h.raise hk hraise
  · rw [if_neg hraise]
    by_cases hlower : sequenceAt blob' k < live' (addressAt blob' k)
    · rw [if_pos hlower]
      exact h.lower hk hlower
    · rw [if_neg hlower]
      exact h.agree hk (by omega)

end Synced

/-- `syncSequencesFromAddressTable` on a live map and a table. -/
def sync (live : UInt16 → Nat) (blob : List UInt8) : (UInt16 → Nat) × List UInt8 :=
  (List.range (entryCount blob)).foldl syncEntry (live, blob)

/-- Reconciling: no number falls, every stored number is covered by the live one, and the table
covers the live number of every address in it. -/
theorem synced_sync {live : UInt16 → Nat} (hlive : ∀ address, live address < 256 ^ 6)
    (blob : List UInt8) :
    Synced live blob (sync live blob).1 (sync live blob).2 (entryCount blob) := by
  have hloop : ∀ k, k ≤ entryCount blob →
      Synced live blob ((List.range k).foldl syncEntry (live, blob)).1
        ((List.range k).foldl syncEntry (live, blob)).2 k := by
    intro k
    induction k with
    | zero =>
      intro _
      exact ⟨rfl, fun _ => rfl, fun _ _ => rfl, fun _ => Nat.le_refl _, hlive,
        fun _ h => absurd h (Nat.not_lt_zero _), fun _ h => absurd h (Nat.not_lt_zero _),
        fun _ => .inl rfl⟩
    | succ k ih =>
      intro hk
      rw [List.range_succ, List.foldl_append]
      exact (ih (by omega)).syncEntry hk
  exact hloop _ (Nat.le_refl _)

end SecurityIaTable

end KnxStack.Objects
