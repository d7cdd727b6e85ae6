import Mathlib.Data.List.Basic

/-!
# Words as sets of bits

The bits of a 64-bit word under the operations that a bitmap is kept with: a union, a shift by less
than the width, and the test of one bit by a mask.
-/

set_option autoImplicit false

namespace KnxStack.Lib.Bitmap

/-- The bit `i` of a word. -/
def bit (word : UInt64) (i : Nat) : Bool := word.toBitVec.getLsbD i

theorem bit_one (i : Nat) : bit 1 i = decide (i = 0) := by
  change (1#64).getLsbD i = _
  rw [BitVec.getLsbD_one]
  simp

theorem bit_or (a b : UInt64) (i : Nat) : bit (a ||| b) i = (bit a i || bit b i) := by
  rw [bit, UInt64.toBitVec_or, BitVec.getLsbD_or]
  rfl

theorem bit_shiftLeft (word : UInt64) {distance : UInt64} (h : distance < 64) {i : Nat} (hi : i < 64) :
    bit (word <<< distance) i
      = (decide (distance.toNat ≤ i) && bit word (i - distance.toNat)) := by
  have hdistance : distance.toNat < 64 := UInt64.lt_iff_toNat_lt.mp h
  have hmod : (distance.toBitVec % 64).toNat = distance.toNat := by
    rw [BitVec.toNat_umod]
    exact Nat.mod_eq_of_lt hdistance
  rw [bit, UInt64.toBitVec_shiftLeft, BitVec.getLsbD_shiftLeft', hmod]
  by_cases hle : distance.toNat ≤ i
  · simp [hi, hle, Nat.not_lt.mpr hle, bit]
  · simp [hle, Nat.lt_of_not_le hle]

theorem bit_one_shiftLeft {distance : UInt64} (h : distance < 64) {i : Nat} (hi : i < 64) :
    bit (1 <<< distance) i = decide (i = distance.toNat) := by
  rw [bit_shiftLeft 1 h hi, bit_one]
  by_cases hle : distance.toNat ≤ i
  · simp only [hle, decide_true, Bool.true_and, decide_eq_decide]
    omega
  · simp only [hle, decide_false, Bool.false_and]
    symm
    rw [decide_eq_false_iff_not]
    omega

theorem and_one_shiftLeft_eq_zero_iff (word : UInt64) {distance : UInt64} (h : distance < 64) :
    word &&& (1 <<< distance) = 0 ↔ bit word distance.toNat = false := by
  have hdistance : distance.toNat < 64 := UInt64.lt_iff_toNat_lt.mp h
  have hbits : ∀ i < 64, (word &&& (1 <<< distance)).toBitVec.getLsbD i
      = (bit word i && decide (i = distance.toNat)) := by
    intro i hi
    rw [UInt64.toBitVec_and, BitVec.getLsbD_and, ← bit_one_shiftLeft h hi]
    rfl
  constructor
  · intro hzero
    have hat := hbits distance.toNat hdistance
    rw [hzero] at hat
    simpa using hat.symm
  · intro hclear
    apply UInt64.toBitVec_inj.mp
    apply BitVec.eq_of_getLsbD_eq
    intro i hi
    rw [hbits i hi]
    by_cases hsame : i = distance.toNat
    · rw [hsame, hclear]
      simp
    · simp [hsame]

end KnxStack.Lib.Bitmap
