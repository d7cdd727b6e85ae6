import Mathlib.Data.Nat.Bitwise

/-!
# Fields of an octet

An octet packed from two fields: the high one shifted left by the width of the low one. Each field
is read back as long as it fits its own width (`field_low`, `field_high`). A statement about one
octet alone is settled by its 256 values (`octet_cases`).
-/

set_option autoImplicit false

namespace KnxStack.Lib.BitFields

theorem octet_cases {p : UInt8 → Prop} (h : ∀ n : Fin 256, p (UInt8.ofNat n.val)) (x : UInt8) : p x := by
  have hx := h ⟨x.toNat, x.toNat_lt⟩
  rwa [UInt8.ofNat_toNat] at hx

section Fields

variable {hi lo k mask x : UInt8} (n : Nat)

theorem and_ones_of_lt (hmask : mask.toNat = 2 ^ n - 1) (hx : x.toNat < 2 ^ n) : x &&& mask = x := by
  apply UInt8.toNat_inj.mp
  rw [UInt8.toNat_and, hmask, Nat.and_two_pow_sub_one_eq_mod, Nat.mod_eq_of_lt hx]

theorem toNat_field (hk : k.toNat = n) (hn : n < 8) (hlo : lo.toNat < 2 ^ n)
    (hhi : hi.toNat * 2 ^ n < 256) : ((hi <<< k) ||| lo).toNat = 2 ^ n * hi.toNat + lo.toNat := by
  rw [UInt8.toNat_or, UInt8.toNat_shiftLeft, hk, Nat.mod_eq_of_lt hn, Nat.shiftLeft_eq,
    Nat.mod_eq_of_lt hhi, Nat.mul_comm, Nat.two_pow_add_eq_or_of_lt hlo]

theorem field_low (m : Nat) (hk : k.toNat = n) (hn : n < 8) (hmask : mask.toNat = 2 ^ m - 1)
    (hm : m ≤ n) (hlo : lo.toNat < 2 ^ m) (hhi : hi.toNat * 2 ^ n < 256) :
    ((hi <<< k) ||| lo) &&& mask = lo := by
  have hlo' : lo.toNat < 2 ^ n := lt_of_lt_of_le hlo (Nat.pow_le_pow_right (by decide) hm)
  obtain ⟨d, rfl⟩ := Nat.exists_eq_add_of_le hm
  apply UInt8.toNat_inj.mp
  rw [UInt8.toNat_and, toNat_field _ hk hn hlo' hhi, hmask, Nat.and_two_pow_sub_one_eq_mod,
    Nat.pow_add, Nat.mul_assoc, Nat.mul_add_mod, Nat.mod_eq_of_lt hlo]

theorem field_high (hk : k.toNat = n) (hn : n < 8) (hlo : lo.toNat < 2 ^ n)
    (hhi : hi.toNat * 2 ^ n < 256) : ((hi <<< k) ||| lo) >>> k = hi := by
  apply UInt8.toNat_inj.mp
  rw [UInt8.toNat_shiftRight, toNat_field n hk hn hlo hhi, hk, Nat.mod_eq_of_lt hn,
    Nat.shiftRight_eq_div_pow, Nat.mul_add_div (Nat.two_pow_pos _), Nat.div_eq_of_lt hlo,
    Nat.add_zero]

end Fields

end KnxStack.Lib.BitFields
