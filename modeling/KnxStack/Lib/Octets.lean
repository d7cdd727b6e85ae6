import Mathlib.Data.List.Induction
import Mathlib.Algebra.Order.Ring.Nat

/-!
# Octet sequences

Numbers written as octets, the most significant first, and sequences of octets of which a part is
overwritten.

- `ofOctets_toOctets`, `toOctets_ofOctets`, `ofOctets_lt`: a number of `n` octets and back.
- `getElem?_overwrite`: what is read after a part has been overwritten, from which
  `slice_overwrite_self` and `slice_overwrite_of_disjoint` follow.
- `slice_append_left`, `slice_append_right`, `slice_slice`, `slice_replicate`: parts of sequences put
  together and of parts.
-/

set_option autoImplicit false

namespace KnxStack.Lib.Octets

/-! ## Big-endian numbers -/

/-- The number written by a sequence of octets. -/
def ofOctets (octets : List UInt8) : Nat :=
  octets.foldl (fun value octet => value * 256 + octet.toNat) 0

/-- The low `n` octets of a number. -/
def toOctets : Nat → Nat → List UInt8
  | 0, _ => []
  | n + 1, value => toOctets n (value / 256) ++ [UInt8.ofNat value]

@[simp] theorem length_toOctets (n : Nat) : ∀ value, (toOctets n value).length = n := by
  induction n with
  | zero =>
    intro value
    rfl
  | succ n ih =>
    intro value
    rw [toOctets, List.length_append, ih]
    rfl

theorem ofOctets_append_singleton (octets : List UInt8) (octet : UInt8) :
    ofOctets (octets ++ [octet]) = ofOctets octets * 256 + octet.toNat := by
  rw [ofOctets, List.foldl_append]
  rfl

theorem ofOctets_lt (octets : List UInt8) : ofOctets octets < 256 ^ octets.length := by
  induction octets using List.reverseRecOn with
  | nil => decide
  | append_singleton octets octet ih =>
    have hoctet := octet.toNat_lt
    rw [ofOctets_append_singleton, List.length_append, List.length_singleton, Nat.pow_succ]
    omega

/-- Writing a number as `n` octets keeps it modulo `256 ^ n`. -/
theorem ofOctets_toOctets (n : Nat) : ∀ value, ofOctets (toOctets n value) = value % 256 ^ n := by
  induction n with
  | zero =>
    intro value
    simp [toOctets, ofOctets, Nat.mod_one]
  | succ n ih =>
    intro value
    have hlow : (UInt8.ofNat value).toNat = value % 256 := UInt8.toNat_ofNat'
    rw [toOctets, ofOctets_append_singleton, ih, hlow, Nat.pow_succ, Nat.mul_comm (256 ^ n) 256,
      Nat.mod_mul]
    omega

theorem toOctets_ofOctets (octets : List UInt8) : toOctets octets.length (ofOctets octets) = octets := by
  induction octets using List.reverseRecOn with
  | nil => rfl
  | append_singleton octets octet ih =>
    have hoctet := octet.toNat_lt
    have hdiv : (ofOctets octets * 256 + octet.toNat) / 256 = ofOctets octets := by omega
    have hlow : UInt8.ofNat (ofOctets octets * 256 + octet.toNat) = octet := by
      apply UInt8.toNat_inj.mp
      rw [UInt8.toNat_ofNat']
      omega
    rw [List.length_append, List.length_singleton, toOctets, ofOctets_append_singleton, hdiv, ih, hlow]

/-! ## Overwriting -/

/-- A sequence with a part overwritten from an offset on. -/
def overwrite (octets : List UInt8) (offset : Nat) (part : List UInt8) : List UInt8 :=
  octets.take offset ++ part ++ octets.drop (offset + part.length)

/-- A part of a sequence. -/
def slice (octets : List UInt8) (offset length : Nat) : List UInt8 :=
  (octets.drop offset).take length

theorem length_overwrite {octets part : List UInt8} {offset : Nat}
    (h : offset + part.length ≤ octets.length) :
    (overwrite octets offset part).length = octets.length := by
  simp only [overwrite, List.length_append, List.length_take, List.length_drop]
  omega

theorem getElem?_overwrite {octets part : List UInt8} {offset : Nat}
    (h : offset + part.length ≤ octets.length) (i : Nat) :
    (overwrite octets offset part)[i]?
      = if offset ≤ i ∧ i < offset + part.length then part[i - offset]? else octets[i]? := by
  have htake : (octets.take offset).length = offset := by
    rw [List.length_take]
    omega
  rw [overwrite, List.append_assoc]
  by_cases hbefore : i < offset
  · rw [if_neg (by omega), List.getElem?_append_left (by omega), List.getElem?_take_of_lt hbefore]
  · rw [List.getElem?_append_right (by omega), htake]
    by_cases hinside : i < offset + part.length
    · rw [if_pos (by omega), List.getElem?_append_left (by omega)]
    · rw [if_neg (by omega), List.getElem?_append_right (by omega), List.getElem?_drop]
      congr 1
      omega

theorem getElem?_slice (octets : List UInt8) (offset length i : Nat) :
    (slice octets offset length)[i]? = if i < length then octets[offset + i]? else none := by
  rw [slice, List.getElem?_take, List.getElem?_drop]

theorem slice_overwrite_inside {octets part : List UInt8} {offset : Nat}
    (h : offset + part.length ≤ octets.length) {i length : Nat} (hinside : i + length ≤ part.length) :
    slice (overwrite octets offset part) (offset + i) length = slice part i length := by
  apply List.ext_getElem?
  intro j
  rw [getElem?_slice, getElem?_slice, getElem?_overwrite h]
  by_cases hj : j < length
  · rw [if_pos hj, if_pos hj, if_pos (by omega)]
    congr 1
    omega
  · rw [if_neg hj, if_neg hj]

theorem slice_overwrite_self {octets part : List UInt8} {offset : Nat}
    (h : offset + part.length ≤ octets.length) :
    slice (overwrite octets offset part) offset part.length = part := by
  have hinside := slice_overwrite_inside h (i := 0) (Nat.le_of_eq (Nat.zero_add part.length))
  rw [Nat.add_zero] at hinside
  rw [hinside, slice, List.drop_zero, List.take_length]

theorem slice_overwrite_of_disjoint {octets part : List UInt8} {offset : Nat}
    (h : offset + part.length ≤ octets.length) {offset' length : Nat}
    (hdisjoint : offset' + length ≤ offset ∨ offset + part.length ≤ offset') :
    slice (overwrite octets offset part) offset' length = slice octets offset' length := by
  apply List.ext_getElem?
  intro i
  rw [getElem?_slice, getElem?_slice, getElem?_overwrite h]
  by_cases hi : i < length
  · rw [if_pos hi, if_pos hi, if_neg (by omega)]
  · rw [if_neg hi, if_neg hi]

/-! ## Parts of parts -/

theorem slice_append_left {octets more : List UInt8} {offset length : Nat}
    (h : offset + length ≤ octets.length) :
    slice (octets ++ more) offset length = slice octets offset length := by
  rw [slice, slice, List.drop_append_of_le_length (by omega),
    List.take_append_of_le_length (by rw [List.length_drop]; omega)]

theorem slice_append_right {octets more : List UInt8} {offset length : Nat}
    (h : octets.length ≤ offset) :
    slice (octets ++ more) offset length = slice more (offset - octets.length) length := by
  rw [slice, slice, List.drop_append, List.drop_of_length_le h, List.nil_append]

theorem slice_replicate {n offset length : Nat} (octet : UInt8) (h : offset + length ≤ n) :
    slice (List.replicate n octet) offset length = List.replicate length octet := by
  rw [slice, List.drop_replicate, List.take_replicate, Nat.min_eq_left (by omega)]

theorem slice_slice {octets : List UInt8} {offset length offset' length' : Nat}
    (h : offset' + length' ≤ length) :
    slice (slice octets offset length) offset' length' = slice octets (offset + offset') length' := by
  rw [slice, slice, slice, List.drop_take, List.drop_drop, List.take_take,
    Nat.min_eq_left (by omega)]

theorem slice_eq_zeros {octets : List UInt8} {offset length n : Nat}
    (hzero : ∀ octet ∈ octets.take n, octet = 0) (hn : offset + length ≤ n)
    (hlength : offset + length ≤ octets.length) :
    slice octets offset length = List.replicate length 0 := by
  apply List.eq_replicate_iff.mpr
  constructor
  · rw [slice, List.length_take, List.length_drop]
    omega
  · intro octet hoctet
    apply hzero
    have htake : slice (octets.take n) offset length = slice octets offset length := by
      rw [slice, slice, List.drop_take, List.take_take, Nat.min_eq_left (by omega)]
    rw [← htake] at hoctet
    exact List.mem_of_mem_drop (List.mem_of_mem_take hoctet)

end KnxStack.Lib.Octets
