import Mathlib.Data.Nat.Bitwise
import Mathlib.Tactic.IntervalCases

/-!
# Fixed-width words

Octets, 16-bit words and a free-running 32-bit millisecond clock, as the machine types of the
standard library. The lemmas here turn masks, shifts and wrapping subtraction into arithmetic on
natural numbers, where `omega` finishes.

- Low-nibble masks: `toNat_and_fifteen`, and the counter modulo sixteen built from it
  (`toNat_succ_and_fifteen`).
- Splitting a word into two octets and joining them again: `joinBytes_highByte_lowByte`.
- Elapsed time on a wrapping clock: `toNat_sub_of_le` and `elapsed_le_of_modEq`.
-/

set_option autoImplicit false

namespace KnxStack.Lib.Words

/-! ## Four-bit counters -/

/-- Masking with `0x0F` is the remainder modulo sixteen. -/
theorem toNat_and_fifteen (x : UInt8) : (x &&& 0x0F).toNat = x.toNat % 16 := by
  rw [UInt8.toNat_and]
  exact Nat.and_two_pow_sub_one_eq_mod x.toNat 4

theorem toNat_succ_and_fifteen (x : UInt8) : ((x + 1) &&& 0x0F).toNat = (x.toNat + 1) % 16 := by
  rw [toNat_and_fifteen, UInt8.toNat_add]
  have h1 : (1 : UInt8).toNat = 1 := rfl
  rw [h1]
  omega

theorem and_fifteen_lt (x : UInt8) : (x &&& 0x0F).toNat < 16 := by
  rw [toNat_and_fifteen]
  omega

@[simp] theorem and_fifteen_idem (x : UInt8) : (x &&& 0x0F) &&& 0x0F = x &&& 0x0F := by
  apply UInt8.toNat_inj.mp
  rw [toNat_and_fifteen, toNat_and_fifteen]
  omega

theorem and_fifteen_of_lt {x : UInt8} (h : x.toNat < 16) : x &&& 0x0F = x := by
  apply UInt8.toNat_inj.mp
  rw [toNat_and_fifteen]
  omega

/-! ## Words and their octets -/

/-- High octet of a 16-bit word. -/
def highByte (w : UInt16) : UInt8 := ((w >>> 8) &&& 0xFF).toUInt8

/-- Low octet of a 16-bit word. -/
def lowByte (w : UInt16) : UInt8 := (w &&& 0xFF).toUInt8

/-- The word with the given high and low octets. -/
def joinBytes (hi lo : UInt8) : UInt16 := (hi.toUInt16 <<< 8) ||| lo.toUInt16

theorem toNat_highByte (w : UInt16) : (highByte w).toNat = w.toNat / 256 := by
  have hw : w.toNat < 65536 := w.toNat_lt
  have h255 : (0xFF : UInt16).toNat = 2 ^ 8 - 1 := rfl
  have h8 : (8 : UInt16).toNat % 16 = 8 := rfl
  simp only [highByte, UInt16.toNat_toUInt8, UInt16.toNat_and, UInt16.toNat_shiftRight, h255, h8,
    Nat.and_two_pow_sub_one_eq_mod, Nat.shiftRight_eq_div_pow]
  omega

theorem toNat_lowByte (w : UInt16) : (lowByte w).toNat = w.toNat % 256 := by
  have h255 : (0xFF : UInt16).toNat = 2 ^ 8 - 1 := rfl
  simp only [lowByte, UInt16.toNat_toUInt8, UInt16.toNat_and, h255, Nat.and_two_pow_sub_one_eq_mod]
  omega

theorem toNat_joinBytes (hi lo : UInt8) :
    (joinBytes hi lo).toNat = hi.toNat * 256 + lo.toNat := by
  have hhi : hi.toNat < 256 := hi.toNat_lt
  have hlo : lo.toNat < 256 := lo.toNat_lt
  have h8 : (8 : UInt16).toNat % 16 = 8 := rfl
  simp only [joinBytes, UInt16.toNat_or, UInt16.toNat_shiftLeft, UInt8.toNat_toUInt16, h8]
  have hmod : hi.toNat <<< 8 % 2 ^ 16 = hi.toNat <<< 8 := by
    rw [Nat.shiftLeft_eq]
    omega
  rw [hmod, ← Nat.shiftLeft_add_eq_or_of_lt (i := 8) hlo, Nat.shiftLeft_eq]

@[simp] theorem joinBytes_highByte_lowByte (w : UInt16) :
    joinBytes (highByte w) (lowByte w) = w := by
  apply UInt16.toNat_inj.mp
  rw [toNat_joinBytes, toNat_highByte, toNat_lowByte]
  omega

@[simp] theorem highByte_joinBytes (hi lo : UInt8) : highByte (joinBytes hi lo) = hi := by
  have hlo : lo.toNat < 256 := lo.toNat_lt
  apply UInt8.toNat_inj.mp
  rw [toNat_highByte, toNat_joinBytes]
  omega

@[simp] theorem lowByte_joinBytes (hi lo : UInt8) : lowByte (joinBytes hi lo) = lo := by
  have hlo : lo.toNat < 256 := lo.toNat_lt
  apply UInt8.toNat_inj.mp
  rw [toNat_lowByte, toNat_joinBytes]
  omega

/-! ## A wrapping millisecond clock -/

theorem toNat_sub_of_le {a b : UInt32} (h : a.toNat ≤ b.toNat) :
    (b - a).toNat = b.toNat - a.toNat := by
  have ha : a.toNat < 4294967296 := a.toNat_lt
  have hb : b.toNat < 4294967296 := b.toNat_lt
  rw [UInt32.toNat_sub]
  omega

/-- What a wrapping clock shows as elapsed never exceeds the time that really passed: if the two
readings were taken at the real times `A ≤ T`, then at least the displayed time lies between. -/
theorem elapsed_le_of_modEq {A T : Nat} (h : A ≤ T) :
    (UInt32.ofNat T - UInt32.ofNat A).toNat ≤ T - A := by
  rw [UInt32.toNat_sub, UInt32.toNat_ofNat', UInt32.toNat_ofNat']
  omega

theorem le_elapsed_iff {a t : Nat} (hnow : a ≤ t ∧ t < a + 2 ^ 32) (limit : UInt32) :
    limit ≤ UInt32.ofNat t - UInt32.ofNat a ↔ a + limit.toNat ≤ t := by
  rw [UInt32.le_iff_toNat_le, UInt32.toNat_sub, UInt32.toNat_ofNat', UInt32.toNat_ofNat']
  omega

theorem toNat_sub_add_sub {a b c : UInt32}
    (h : (b - a).toNat + (c - b).toNat < 4294967296) :
    (c - a).toNat = (b - a).toNat + (c - b).toNat := by
  have ha : a.toNat < 4294967296 := a.toNat_lt
  have hb : b.toNat < 4294967296 := b.toNat_lt
  have hc : c.toNat < 4294967296 := c.toNat_lt
  rw [UInt32.toNat_sub, UInt32.toNat_sub] at h
  rw [UInt32.toNat_sub, UInt32.toNat_sub, UInt32.toNat_sub]
  omega

end KnxStack.Lib.Words
