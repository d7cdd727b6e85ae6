import KnxStack.Lib.Blocks
import KnxStack.Lib.Checked
import KnxStack.Protocol.Tpdu

/-!
# TPDUs built in place

`buildTpduInPlace` (`protocol/tpdu_codec.hpp`) for a `FixedVector` of any capacity. It asks the vector
for the needed size, which the vector clamps to its capacity (`util/fixed_vector.hpp`), and hands
`buildTpdu` a span of the needed size all the same; the length check in there compares with the size of
that span and so always passes.

- `buildTpduInPlace_of_le`: what the vector holds where the TPDU fits.
- `buildTpduInPlace_of_gt`: where it does not fit, the first cell behind the vector is written.
-/

set_option autoImplicit false

namespace KnxStack.Protocol.TpduInPlace

open KnxStack.Lib KnxStack.Lib.Blocks

variable {capacity : Nat}

/-- `FixedVector<uint8_t, N>`, with its cells. -/
structure CellVector (capacity : Nat) where
  cells : Vector UInt8 capacity
  size : Nat
  size_le : size ≤ capacity

namespace CellVector

/-- The elements. -/
def toList (v : CellVector capacity) : List UInt8 := v.cells.toList.take v.size

/-- `FixedVector::clear`. -/
def clear (v : CellVector capacity) : CellVector capacity where
  cells := v.cells
  size := 0
  size_le := Nat.zero_le _

/-- `FixedVector::resize`. -/
def resize (v : CellVector capacity) (newSize : Nat) : CellVector capacity where
  cells := Vector.ofFn fun i => if v.size ≤ i.val ∧ i.val < newSize then 0 else v.cells[i]
  size := min newSize capacity
  size_le := Nat.min_le_right _ _

end CellVector

/-- A write into the cells through a pointer; `outOfBounds` names the cell where there is none. -/
def writeAt (cells : Vector UInt8 capacity) (i : Nat) (value : UInt8) :
    Checked ErrorCode (Vector UInt8 capacity) :=
  if h : i < capacity then .done (cells.set i value) else .outOfBounds i

/-- Writes of successive octets. -/
def writeFrom (cells : Vector UInt8 capacity) (i : Nat) :
    List UInt8 → Checked ErrorCode (Vector UInt8 capacity)
  | [] => .done cells
  | value :: values => do
      let cells ← writeAt cells i value
      writeFrom cells (i + 1) values

/-- `buildTpdu` into a span of `spanSize` octets that begins at the first cell. -/
def buildTpdu (t : TPCIField) (a : APCIField) (payload : List UInt8) (cells : Vector UInt8 capacity)
    (spanSize : Nat) : Checked ErrorCode (Nat × Vector UInt8 capacity) :=
  let totalLength := tpduLengthFromTpci t payload.length
  if spanSize < totalLength then .fail .bufferTooSmall
  else if totalLength = 1 then do
    let cells ← writeAt cells 0 t.raw
    return (totalLength, cells)
  else do
    let cells ← writeAt cells 0 (packTpduHeader t a).1
    let cells ← writeAt cells 1 (packTpduHeader t a).2
    let cells ← writeFrom cells 2 payload
    return (totalLength, cells)

/-- `buildTpduInPlace`: what is returned, and the vector. -/
def buildTpduInPlace (t : TPCIField) (a : APCIField) (payload : List UInt8)
    (out : CellVector capacity) : Checked ErrorCode (Result Unit × CellVector capacity) :=
  let needed := tpduLengthFromTpci t payload.length
  let out := out.resize needed
  match buildTpdu t a payload out.cells needed with
  | .done (_, cells) => .done (.ok (), { out with cells := cells })
  | .fail e => .done (.error e, out.clear)
  | .outOfBounds i => .outOfBounds i

/-- The call keeps to the cells of the vector and leaves either the TPDU or, with an error, nothing. -/
def Delivers (t : TPCIField) (a : APCIField) (payload : List UInt8) (out : CellVector capacity) :
    Prop :=
  ∃ result out', buildTpduInPlace t a payload out = .done (result, out') ∧
    (result = .ok () ∧ out'.toList = Protocol.buildTpdu t a payload ∨
      (∃ e, result = .error e) ∧ out'.size = 0)

/-! ## Writing through the span -/

theorem writeFrom_cons (cells : Vector UInt8 capacity) (i : Nat) (value : UInt8)
    (values : List UInt8) :
    writeFrom cells i (value :: values) = writeAt cells i value >>= fun cells =>
      writeFrom cells (i + 1) values := rfl

/-- Octets that fit: they stand from the first place on, and what is in front of them stays. -/
theorem writeFrom_of_le (values : List UInt8) :
    ∀ (cells : Vector UInt8 capacity) (i : Nat), i + values.length ≤ capacity →
      ∃ cells', writeFrom cells i values = .done cells' ∧
        cells'.toList.take (i + values.length) = cells.toList.take i ++ values := by
  induction values with
  | nil =>
    intro cells i _
    exact ⟨cells, rfl, by simp⟩
  | cons value values ih =>
    intro cells i hroom
    rw [List.length_cons] at hroom
    have hi : i < capacity := by omega
    obtain ⟨cells', hothers, htake⟩ := ih (cells.set i value) (i + 1) (by omega)
    refine ⟨cells', ?_, ?_⟩
    · rw [writeFrom_cons, writeAt, dif_pos hi]
      exact hothers
    · have hset : (cells.set i value).toList.take (i + 1) = cells.toList.take i ++ [value] := by
        rw [Vector.toList_set, take_set_succ (by rw [Vector.length_toList]; exact hi)]
      have hlength : i + (value :: values).length = i + 1 + values.length := by
        rw [List.length_cons]
        omega
      rw [hlength, htake, hset, List.append_assoc]
      rfl

theorem writeFrom_of_gt (values : List UInt8) :
    ∀ (cells : Vector UInt8 capacity) (i : Nat), i ≤ capacity → capacity < i + values.length →
      writeFrom cells i values = .outOfBounds capacity := by
  induction values with
  | nil =>
    intro cells i hi hover
    simp only [List.length_nil] at hover
    omega
  | cons value values ih =>
    intro cells i hi hover
    rw [List.length_cons] at hover
    rw [writeFrom_cons, writeAt]
    by_cases hlast : i < capacity
    · rw [dif_pos hlast, Checked.done_bind]
      exact ih _ (i + 1) (by omega) (by omega)
    · have hend : i = capacity := by omega
      rw [dif_neg hlast, hend]
      rfl

theorem buildTpdu_eq (t : TPCIField) (a : APCIField) (payload : List UInt8)
    (cells : Vector UInt8 capacity) {spanSize : Nat}
    (h : tpduLengthFromTpci t payload.length ≤ spanSize) :
    buildTpdu t a payload cells spanSize
      = writeFrom cells 0 (Protocol.buildTpdu t a payload) >>= fun cells =>
          .done (tpduLengthFromTpci t payload.length, cells) := by
  rw [buildTpdu, if_neg (Nat.not_lt.mpr h), Protocol.buildTpdu]
  by_cases hcontrol : tpduLengthFromTpci t payload.length = 1
  · rw [if_pos hcontrol, if_pos hcontrol, writeFrom_cons]
    cases writeAt cells 0 t.raw <;> rfl
  · rw [if_neg hcontrol, if_neg hcontrol, writeFrom_cons]
    cases writeAt cells 0 (packTpduHeader t a).1 with
    | fail e => rfl
    | outOfBounds i => rfl
    | done cells =>
      rw [Checked.done_bind, Checked.done_bind, writeFrom_cons]
      cases writeAt cells 1 (packTpduHeader t a).2 <;> rfl

/-! ## In place -/

theorem buildTpduInPlace_of_le (t : TPCIField) (a : APCIField) (payload : List UInt8)
    (out : CellVector capacity) (h : tpduLengthFromTpci t payload.length ≤ capacity) :
    ∃ out', buildTpduInPlace t a payload out = .done (.ok (), out') ∧
      out'.toList = (Protocol.buildTpduInPlace t a payload h).data := by
  have hlength := length_buildTpdu t a payload
  obtain ⟨cells, hwrite, htake⟩ := writeFrom_of_le (Protocol.buildTpdu t a payload)
    (out.resize (tpduLengthFromTpci t payload.length)).cells 0 (by omega)
  refine ⟨{ out.resize (tpduLengthFromTpci t payload.length) with cells := cells }, ?_, ?_⟩
  · rw [buildTpduInPlace, buildTpdu_eq t a payload _ (Nat.le_refl _), hwrite]
    rfl
  · have hsize : (out.resize (tpduLengthFromTpci t payload.length)).size
        = 0 + (Protocol.buildTpdu t a payload).length := by
      rw [hlength, Nat.zero_add]
      exact Nat.min_eq_left h
    rw [CellVector.toList, hsize, htake]
    rfl

theorem buildTpduInPlace_of_gt (t : TPCIField) (a : APCIField) (payload : List UInt8)
    (out : CellVector capacity) (h : capacity < tpduLengthFromTpci t payload.length) :
    buildTpduInPlace t a payload out = .outOfBounds capacity := by
  have hlength := length_buildTpdu t a payload
  rw [buildTpduInPlace, buildTpdu_eq t a payload _ (Nat.le_refl _),
    writeFrom_of_gt _ _ 0 (Nat.zero_le _) (by omega)]
  rfl

/-- The call does what it says exactly where the TPDU fits. -/
theorem delivers_iff (t : TPCIField) (a : APCIField) (payload : List UInt8)
    (out : CellVector capacity) :
    Delivers t a payload out ↔ tpduLengthFromTpci t payload.length ≤ capacity := by
  constructor
  · rintro ⟨result, out', hdone, -⟩
    by_contra hover
    rw [buildTpduInPlace_of_gt t a payload out (Nat.not_le.mp hover)] at hdone
    cases hdone
  · intro hfits
    obtain ⟨out', hdone, hoctets⟩ := buildTpduInPlace_of_le t a payload out hfits
    exact ⟨.ok (), out', hdone, Or.inl ⟨rfl, hoctets⟩⟩

/-- A vector of two octets, and a data TPDU with one octet behind its header. -/
theorem not_delivers :
    ¬ ∀ (capacity : Nat) (t : TPCIField) (a : APCIField) (payload : List UInt8)
        (out : CellVector capacity), Delivers t a payload out := by
  intro h
  obtain ⟨result, out', hdone, -⟩ := h 2 ⟨0⟩ ⟨0⟩ [1] ⟨Vector.replicate 2 0, 0, Nat.zero_le 2⟩
  rw [buildTpduInPlace_of_gt _ _ _ _ (by decide)] at hdone
  cases hdone

end KnxStack.Protocol.TpduInPlace
