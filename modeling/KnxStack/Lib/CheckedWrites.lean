import KnxStack.Lib.Checked
import KnxStack.Lib.Octets

/-!
# Writes with a bounds check on every index

The counterpart of the reads of `Checked`: a write at an index that the buffer does not have ends the
computation as `outOfBounds`. `writeAll` writes octets one after the other.

- `writeAll_of_le`: octets that fit overwrite a part of the buffer.
- `writeAll_append`: the same for a buffer that is put together at the place.
-/

set_option autoImplicit false

namespace KnxStack.Lib

open Octets

universe u

variable {ε : Type u}

/-- Write one octet. -/
def writeAt (buffer : List UInt8) (i : Nat) (octet : UInt8) : Checked ε (List UInt8) :=
  if i < buffer.length then .done (buffer.set i octet) else .outOfBounds i

/-- Write octets from an index on. -/
def writeAll (buffer : List UInt8) (i : Nat) : List UInt8 → Checked ε (List UInt8)
  | [] => .done buffer
  | octet :: octets => do
      let buffer ← writeAt buffer i octet
      writeAll buffer (i + 1) octets

theorem writeAll_cons (buffer : List UInt8) (i : Nat) (octet : UInt8) (octets : List UInt8) :
    (writeAll buffer i (octet :: octets) : Checked ε (List UInt8))
      = writeAt buffer i octet >>= fun buffer => writeAll buffer (i + 1) octets := rfl

theorem writeAll_of_le (octets : List UInt8) :
    ∀ (buffer : List UInt8) (i : Nat), i + octets.length ≤ buffer.length →
      (writeAll buffer i octets : Checked ε (List UInt8)) = .done (overwrite buffer i octets) := by
  induction octets with
  | nil =>
    intro buffer i _
    simp [writeAll, overwrite]
  | cons octet octets ih =>
    intro buffer i hroom
    rw [List.length_cons] at hroom
    rw [writeAll_cons, writeAt, if_pos (by omega), Checked.done_bind,
      ih _ _ (by rw [List.length_set]; omega)]
    congr 1
    -- The octet just written is the last one in front of the others.
    rw [overwrite, overwrite, List.take_succ_eq_append_getElem (by rw [List.length_set]; omega),
      List.getElem_set_self, List.take_set_of_le (Nat.le_refl i), List.drop_set_of_lt (by omega),
      List.length_cons, List.append_assoc, List.append_assoc, List.append_assoc, Nat.add_assoc,
      Nat.add_comm 1]
    rfl

/-- Octets over the part behind `front`. -/
theorem writeAll_append (front part back octets : List UInt8) (h : part.length = octets.length) :
    (writeAll (front ++ part ++ back) front.length octets : Checked ε (List UInt8))
      = .done (front ++ octets ++ back) := by
  have hfront : (front ++ part ++ back).take front.length = front := by
    rw [List.append_assoc, List.take_left]
  have hback : (front ++ part ++ back).drop (front.length + octets.length) = back := by
    rw [← h, ← List.length_append, List.drop_left]
  rw [writeAll_of_le _ _ _ (by rw [List.length_append, List.length_append]; omega), overwrite,
    hfront, hback]

end KnxStack.Lib
