import KnxStack.Ets.ParameterCatalogue

/-!
# The parameter block

`ParameterState::applyFromBytes` and `toBytes` (`product/commissioned_product.hpp`): the values of a schema
in declaration order, each with the width of its kind, and the conversions of `byte_io`. An enumeration is
written by way of its underlying type and read by the size of it, and those are two separate case
distinctions; here with underlying types of every width. Floating-point kinds are left out.

- `applyFromBytesAt_ofCatalogue`: on the types of the catalogue the decoder is the one that is compared
  with the exporter.
- `fromBigEndianBytes_written_iff`: which values survive being written and read.
- `applyFromBytes_toBytes`: the block of a state, taken by a fresh one.
- `appliesLayout_iff`: when a block of any length sets what its length covers and nothing else.
-/

set_option autoImplicit false

namespace KnxStack.Ets.ParameterBlock

open KnxStack.Lib.Octets KnxStack.Lib.Words

/-! ## Types and values -/

/-- Underlying types of an enumeration. A plain `char` is left out: it is a type of its own, which the
writer has no branch for. -/
inductive UnderlyingType where
  | bool
  | int8
  | uint8
  | int16
  | uint16
  | int32
  | uint32
  | int64
  | uint64
  deriving DecidableEq, Repr

/-- Values of an enumeration. -/
def UnderlyingType.Value : UnderlyingType → Type
  | .bool => Bool
  | .int8 => Int8
  | .uint8 => UInt8
  | .int16 => Int16
  | .uint16 => UInt16
  | .int32 => Int32
  | .uint32 => UInt32
  | .int64 => Int64
  | .uint64 => UInt64

/-- Types of a parameter; `other` stands for the types without a kind. -/
inductive ValueType where
  | bool
  | uint8
  | uint16
  | int16
  | enum (underlying : UnderlyingType)
  | text
  | other
  deriving DecidableEq, Repr

/-- Values of a parameter. -/
def ValueType.Value : ValueType → Type
  | .bool => Bool
  | .uint8 => UInt8
  | .uint16 => UInt16
  | .int16 => Int16
  | .enum underlying => underlying.Value
  | .text => String
  | .other => Int

/-- `exportParameterValueKind`. -/
def ValueType.kind : ValueType → ExportParameterValueKind
  | .bool => .boolean
  | .uint8 => .unsigned8
  | .uint16 => .unsigned16
  | .int16 => .signed16
  | .enum _ => .enum
  | .text => .text
  | .other => .none

/-- Octets that a parameter of the type takes in the block. -/
def ValueType.width (type : ValueType) : Nat := exportParameterValueByteWidth type.kind

/-! ## Octets of a value -/

/-- The branch of `fromBigEndianBytes` for enumerations: one octet, or else two, whatever the size. -/
def UnderlyingType.fromBigEndianBytes : (underlying : UnderlyingType) → List UInt8 → underlying.Value
  | .bool, bytes => bytes.getD 0 0 != 0
  | .int8, bytes => (bytes.getD 0 0).toInt8
  | .uint8, bytes => bytes.getD 0 0
  | .int16, bytes => (joinBytes (bytes.getD 0 0) (bytes.getD 1 0)).toInt16
  | .uint16, bytes => joinBytes (bytes.getD 0 0) (bytes.getD 1 0)
  | .int32, bytes => (joinBytes (bytes.getD 0 0) (bytes.getD 1 0)).toUInt32.toInt32
  | .uint32, bytes => (joinBytes (bytes.getD 0 0) (bytes.getD 1 0)).toUInt32
  | .int64, bytes => (joinBytes (bytes.getD 0 0) (bytes.getD 1 0)).toUInt64.toInt64
  | .uint64, bytes => (joinBytes (bytes.getD 0 0) (bytes.getD 1 0)).toUInt64

/-- `byte_io::fromBigEndianBytes`. -/
def fromBigEndianBytes : (type : ValueType) → List UInt8 → type.Value
  | .bool, bytes => bytes.getD 0 0 != 0
  | .uint8, bytes => bytes.getD 0 0
  | .uint16, bytes => joinBytes (bytes.getD 0 0) (bytes.getD 1 0)
  | .int16, bytes => (joinBytes (bytes.getD 0 0) (bytes.getD 1 0)).toInt16
  | .enum underlying, bytes => underlying.fromBigEndianBytes bytes
  | .text, _ => ""
  | .other, _ => (0 : Int)

/-- The octet of a truth value. -/
def truthOctet (value : Bool) : UInt8 := if value then 0x01 else 0x00

/-- A word at the front of some octets. -/
def putWord (value : UInt16) (out : List UInt8) : List UInt8 :=
  (out.set 0 (highByte value)).set 1 (lowByte value)

/-- `toBigEndianBytes` at the underlying type of an enumeration, which has no branch for most of them. -/
def UnderlyingType.toBigEndianBytes : (underlying : UnderlyingType) → underlying.Value → List UInt8 →
    List UInt8
  | .bool, value, out => out.set 0 (truthOctet value)
  | .uint8, value, out => out.set 0 value
  | .uint16, value, out => putWord value out
  | .int16, value, out => putWord (Int16.toUInt16 value) out
  | .int8, _, out => out
  | .int32, _, out => out
  | .uint32, _, out => out
  | .int64, _, out => out
  | .uint64, _, out => out

/-- `byte_io::toBigEndianBytes`, over the octets that stand there. -/
def toBigEndianBytes : (type : ValueType) → type.Value → List UInt8 → List UInt8
  | .bool, value, out => out.set 0 (truthOctet value)
  | .uint8, value, out => out.set 0 value
  | .uint16, value, out => putWord value out
  | .int16, value, out => putWord (Int16.toUInt16 value) out
  | .enum underlying, value, out => underlying.toBigEndianBytes value out
  | .text, _, out => out
  | .other, _, out => out

/-! ## The state -/

/-- A parameter of a schema with its entry of `ParameterState::_values`. -/
structure Parameter where
  type : ValueType
  defaultValue : type.Value
  override : Option type.Value

/-- Octets of the parameter in the block. -/
def Parameter.width (p : Parameter) : Nat := p.type.width

/-- `ParameterState::get`, with the type of the parameter. -/
def Parameter.get (p : Parameter) : (type : ValueType) × type.Value :=
  ⟨p.type, p.override.getD p.defaultValue⟩

/-- A parameter of a fresh state. -/
def Parameter.fresh (p : Parameter) : Parameter := { p with override := none }

/-- A parameter behind `applyFromBytes`, and whether its value was set and its callback called. -/
structure Applied where
  parameter : Parameter
  assigned : Bool

/-- The parameter as it was. -/
def Parameter.kept (p : Parameter) : Applied := { parameter := p, assigned := false }

/-- The parameter with the value of some octets. -/
def Parameter.taken (p : Parameter) (bytes : List UInt8) : Applied where
  parameter := { p with override := some (fromBigEndianBytes p.type bytes) }
  assigned := true

/-- `ParameterState::applyFromBytesAt`: the offset moves on only behind a parameter that was read. -/
def applyFromBytesAt (data : List UInt8) (offset : Nat) : List Parameter → List Applied
  | [] => []
  | p :: ps =>
    if 0 < p.width then
      if offset + p.width ≤ data.length then
        p.taken (slice data offset p.width) :: applyFromBytesAt data (offset + p.width) ps
      else p.kept :: applyFromBytesAt data offset ps
    else p.kept :: applyFromBytesAt data offset ps

/-- `ParameterState::applyFromBytes`. -/
def applyFromBytes (ps : List Parameter) (data : List UInt8) : List Applied :=
  applyFromBytesAt data 0 ps

/-- The octets of one parameter in the block. -/
def Parameter.octets (p : Parameter) : List UInt8 :=
  toBigEndianBytes p.type (p.override.getD p.defaultValue) (List.replicate p.width 0)

/-- `ParameterState::appendBytesAt`. -/
def appendBytesAt (out : List UInt8) : List Parameter → List UInt8
  | [] => out
  | p :: ps => if 0 < p.width then appendBytesAt (out ++ p.octets) ps else appendBytesAt out ps

/-- `ParameterState::toBytes`. -/
def toBytes (ps : List Parameter) : List UInt8 := appendBytesAt [] ps

/-! ## The types of the catalogue -/

/-- The underlying types of the catalogue are among those here. -/
def UnderlyingType.ofCatalogue : Ets.UnderlyingType → UnderlyingType
  | .bool => .bool
  | .int8 => .int8
  | .uint8 => .uint8
  | .int16 => .int16
  | .uint16 => .uint16

def UnderlyingType.value : (underlying : Ets.UnderlyingType) → underlying.Value →
    (ofCatalogue underlying).Value
  | .bool, value => value
  | .int8, value => value
  | .uint8, value => value
  | .int16, value => value
  | .uint16, value => value

/-- So are its types but for `float`. -/
def ValueType.ofCatalogue : Ets.ValueType → ValueType
  | .bool => .bool
  | .uint8 => .uint8
  | .uint16 => .uint16
  | .int16 => .int16
  | .enum underlying => .enum (.ofCatalogue underlying)
  | .text => .text
  | .float => .other

def ValueType.value : (type : Ets.ValueType) → type.Value → (ofCatalogue type).Value
  | .bool, value => value
  | .uint8, value => value
  | .uint16, value => value
  | .int16, value => value
  | .enum underlying, value => UnderlyingType.value underlying value
  | .text, value => value
  | .float, value => (UInt32.toNat value : Int)

/-- A parameter with an entry of the catalogue's state. -/
def Parameter.ofCatalogue (entry : Ets.ParameterValue) : Parameter where
  type := .ofCatalogue entry.1
  defaultValue := fromBigEndianBytes _ []
  override := entry.2.map (ValueType.value entry.1)

theorem width_ofCatalogue {entry : Ets.ParameterValue} (h : entry.1 ≠ .float) :
    (Parameter.ofCatalogue entry).width = entry.1.width := by
  obtain ⟨type, current⟩ := entry
  cases type with
  | float => exact absurd rfl h
  | _ => rfl

theorem taken_ofCatalogue {entry : Ets.ParameterValue} (h : entry.1 ≠ .float) (bytes : List UInt8) :
    ((Parameter.ofCatalogue entry).taken bytes).parameter
      = .ofCatalogue ⟨entry.1, some (Ets.fromBigEndianBytes entry.1 bytes)⟩ := by
  obtain ⟨type, current⟩ := entry
  cases type with
  | enum underlying => cases underlying <;> rfl
  | float => exact absurd rfl h
  | _ => rfl

/-- One block, read with either decoder. -/
theorem applyFromBytesAt_ofCatalogue (data : List UInt8) {entries : List Ets.ParameterValue}
    (h : ∀ entry ∈ entries, entry.1 ≠ .float) :
    ∀ offset, (applyFromBytesAt data offset (entries.map .ofCatalogue)).map Applied.parameter
      = (Ets.applyFromBytesAt data offset entries).map .ofCatalogue := by
  induction entries with
  | nil =>
    intro offset
    rfl
  | cons entry entries ih =>
    intro offset
    have hentry := h entry List.mem_cons_self
    have hwidth := width_ofCatalogue hentry
    have hrest := ih fun later hlater => h later (List.mem_cons_of_mem entry hlater)
    rw [List.map_cons, applyFromBytesAt, Ets.applyFromBytesAt, hwidth]
    by_cases hpos : 0 < entry.1.width
    · by_cases hfits : offset + entry.1.width ≤ data.length
      · rw [if_pos hpos, if_pos hfits, if_pos ⟨hpos, hfits⟩, List.map_cons, List.map_cons, hrest,
          taken_ofCatalogue hentry]
      · rw [if_pos hpos, if_neg hfits, if_neg fun hboth => hfits hboth.2, List.map_cons,
          List.map_cons, hrest]
        rfl
    · rw [if_neg hpos, if_neg fun hboth => hpos hboth.1, List.map_cons, List.map_cons, hrest]
      rfl

/-! ## One value -/

/-- The writer has no branch for the underlying type, and its octets stay zero. -/
def UnderlyingType.Unwritten : UnderlyingType → Prop
  | .bool | .uint8 | .int16 | .uint16 => False
  | .int8 | .int32 | .uint32 | .int64 | .uint64 => True

/-- Zero, as a value of an enumeration. -/
def UnderlyingType.zero : (underlying : UnderlyingType) → underlying.Value
  | .bool => false
  | .int8 => (0 : Int8)
  | .uint8 => (0 : UInt8)
  | .int16 => (0 : Int16)
  | .uint16 => (0 : UInt16)
  | .int32 => (0 : Int32)
  | .uint32 => (0 : UInt32)
  | .int64 => (0 : Int64)
  | .uint64 => (0 : UInt64)

/-- A value that the writer writes: an enumeration over a type that it has no branch for is zero. -/
def Written : (type : ValueType) → type.Value → Prop
  | .enum underlying, value => underlying.Unwritten → value = underlying.zero
  | _, _ => True

@[simp] theorem length_putWord (value : UInt16) (out : List UInt8) :
    (putWord value out).length = out.length := by
  simp [putWord]

theorem length_toBigEndianBytes (type : ValueType) (value : type.Value) (out : List UInt8) :
    (toBigEndianBytes type value out).length = out.length := by
  cases type with
  | bool => exact List.length_set
  | uint8 => exact List.length_set
  | uint16 => exact length_putWord value out
  | int16 => exact length_putWord _ out
  | enum underlying =>
    cases underlying with
    | bool => exact List.length_set
    | uint8 => exact List.length_set
    | uint16 => exact length_putWord value out
    | int16 => exact length_putWord _ out
    | _ => rfl
  | text => rfl
  | other => rfl

theorem joinBytes_putWord (value : UInt16) :
    joinBytes ((putWord value (List.replicate 2 0)).getD 0 0)
      ((putWord value (List.replicate 2 0)).getD 1 0) = value :=
  joinBytes_highByte_lowByte value

theorem truthOctet_ne_zero (value : Bool) : (truthOctet value != 0) = value := by
  cases value <;> rfl

theorem fromBigEndianBytes_zeros (underlying : UnderlyingType) :
    underlying.fromBigEndianBytes (List.replicate 2 0) = underlying.zero := by
  have hzero : joinBytes 0 0 = 0 := by decide
  cases underlying with
  | bool => rfl
  | int8 => rfl
  | uint8 => rfl
  | int16 => exact congrArg UInt16.toInt16 hzero
  | uint16 => exact hzero
  | int32 => exact congrArg (fun w : UInt16 => w.toUInt32.toInt32) hzero
  | uint32 => exact congrArg UInt16.toUInt32 hzero
  | int64 => exact congrArg (fun w : UInt16 => w.toUInt64.toInt64) hzero
  | uint64 => exact congrArg UInt16.toUInt64 hzero

theorem toBigEndianBytes_unwritten {underlying : UnderlyingType} (h : underlying.Unwritten)
    (value : underlying.Value) (out : List UInt8) : underlying.toBigEndianBytes value out = out := by
  cases underlying with
  | bool => exact h.elim
  | uint8 => exact h.elim
  | int16 => exact h.elim
  | uint16 => exact h.elim
  | _ => rfl

theorem unwritten_iff {underlying : UnderlyingType} (h : underlying.Unwritten)
    (value : underlying.Value) :
    underlying.fromBigEndianBytes (underlying.toBigEndianBytes value (List.replicate 2 0)) = value ↔
      (underlying.Unwritten → value = underlying.zero) := by
  rw [toBigEndianBytes_unwritten h, fromBigEndianBytes_zeros]
  constructor
  · intro hvalue _
    exact hvalue.symm
  · intro hvalue
    exact (hvalue h).symm

theorem fromBigEndianBytes_written_iff (type : ValueType) (hwidth : 0 < type.width)
    (value : type.Value) :
    fromBigEndianBytes type (toBigEndianBytes type value (List.replicate type.width 0)) = value ↔
      Written type value := by
  cases type with
  | bool => exact iff_of_true (truthOctet_ne_zero value) trivial
  | uint8 => exact iff_of_true rfl trivial
  | uint16 => exact iff_of_true (joinBytes_putWord value) trivial
  | int16 =>
    refine iff_of_true ?_ trivial
    exact (congrArg UInt16.toInt16 (joinBytes_putWord (Int16.toUInt16 value))).trans
      (Int16.toInt16_toUInt16 value)
  | enum underlying =>
    by_cases hunwritten : underlying.Unwritten
    · exact unwritten_iff hunwritten value
    · refine iff_of_true ?_ fun h => absurd h hunwritten
      cases underlying with
      | bool => exact truthOctet_ne_zero value
      | uint8 => rfl
      | uint16 => exact joinBytes_putWord value
      | int16 =>
        exact (congrArg UInt16.toInt16 (joinBytes_putWord (Int16.toUInt16 value))).trans
          (Int16.toInt16_toUInt16 value)
      | _ => exact absurd trivial hunwritten
  | text => exact absurd hwidth (by decide)
  | other => exact absurd hwidth (by decide)

/-! ## The layout -/

/-- Octets that a schema takes in the block. -/
def totalWidth (ps : List Parameter) : Nat := (ps.map Parameter.width).sum

@[simp] theorem totalWidth_cons (p : Parameter) (ps : List Parameter) :
    totalWidth (p :: ps) = p.width + totalWidth ps := by
  simp [totalWidth]

theorem width_cases (p : Parameter) : p.width = 0 ∨ p.width = 1 ∨ p.width = 2 := by
  unfold Parameter.width ValueType.width
  cases p.type with
  | enum underlying => exact Or.inr (Or.inr rfl)
  | _ => decide

/-- The layout in declaration order: the place of a parameter is behind all those before it, and it is
taken where the block has all of its octets. -/
def layoutAt (data : List UInt8) (offset : Nat) : List Parameter → List Applied
  | [] => []
  | p :: ps =>
    (if 0 < p.width ∧ offset + p.width ≤ data.length then p.taken (slice data offset p.width)
      else p.kept) :: layoutAt data (offset + p.width) ps

/-- A block sets the parameters that lie inside it, each from its own octets, and no other. -/
def AppliesLayout (ps : List Parameter) (data : List UInt8) : Prop :=
  applyFromBytes ps data = layoutAt data 0 ps

/-- The block ends in the middle of a parameter of two octets, and one of a single octet comes later. -/
def Straddles (length offset : Nat) (ps : List Parameter) : Prop :=
  ∃ before p later, ps = before ++ p :: later ∧ offset + totalWidth before + 1 = length ∧
    p.width = 2 ∧ ∃ q ∈ later, q.width = 1

theorem applyFromBytesAt_of_fits {data : List UInt8} {offset : Nat} {p : Parameter}
    (hwidth : 0 < p.width) (hfits : offset + p.width ≤ data.length) (ps : List Parameter) :
    applyFromBytesAt data offset (p :: ps)
      = p.taken (slice data offset p.width) :: applyFromBytesAt data (offset + p.width) ps := by
  rw [applyFromBytesAt, if_pos hwidth, if_pos hfits]

theorem applyFromBytesAt_of_not {data : List UInt8} {offset : Nat} {p : Parameter}
    (h : ¬(0 < p.width ∧ offset + p.width ≤ data.length)) (ps : List Parameter) :
    applyFromBytesAt data offset (p :: ps) = p.kept :: applyFromBytesAt data offset ps := by
  rw [applyFromBytesAt]
  by_cases hwidth : 0 < p.width
  · rw [if_pos hwidth, if_neg fun hfits => h ⟨hwidth, hfits⟩]
  · rw [if_neg hwidth]

theorem layoutAt_of_le {data : List UInt8} (ps : List Parameter) :
    ∀ {offset : Nat}, data.length ≤ offset → layoutAt data offset ps = ps.map Parameter.kept := by
  induction ps with
  | nil =>
    intro offset _
    rfl
  | cons p ps ih =>
    intro offset hover
    rw [layoutAt, if_neg (by omega), ih (by omega)]
    rfl

theorem applyFromBytesAt_of_wide {data : List UInt8} {offset : Nat} (ps : List Parameter)
    (hwide : ∀ q ∈ ps, 0 < q.width → data.length < offset + q.width) :
    applyFromBytesAt data offset ps = ps.map Parameter.kept := by
  induction ps with
  | nil => rfl
  | cons p ps ih =>
    have hp := hwide p List.mem_cons_self
    rw [applyFromBytesAt_of_not (by omega), ih fun q hq => hwide q (List.mem_cons_of_mem p hq)]
    rfl

theorem exists_assigned {data : List UInt8} {offset : Nat} (hleft : offset + 1 = data.length)
    {ps : List Parameter} (hsingle : ∃ q ∈ ps, q.width = 1) :
    applyFromBytesAt data offset ps ≠ ps.map Parameter.kept := by
  induction ps with
  | nil =>
    obtain ⟨q, hq, -⟩ := hsingle
    cases hq
  | cons p ps ih =>
    by_cases hp : p.width = 1
    · rw [applyFromBytesAt_of_fits (by omega) (by omega)]
      intro hsame
      have hassigned := congrArg Applied.assigned (List.cons.inj hsame).1
      cases hassigned
    · have hmore : ∃ q ∈ ps, q.width = 1 := by
        obtain ⟨q, hq, hwidth⟩ := hsingle
        rcases List.mem_cons.mp hq with rfl | hq
        · exact absurd hwidth hp
        · exact ⟨q, hq, hwidth⟩
      have hwidths := width_cases p
      rw [applyFromBytesAt_of_not (by omega)]
      intro hsame
      exact ih hmore (List.cons.inj hsame).2

theorem straddles_cons_iff (length offset : Nat) (p : Parameter) (ps : List Parameter) :
    Straddles length offset (p :: ps) ↔
      (offset + 1 = length ∧ p.width = 2 ∧ ∃ q ∈ ps, q.width = 1) ∨
        Straddles length (offset + p.width) ps := by
  constructor
  · rintro ⟨before, split, later, hps, hlength, hwidth, hsingle⟩
    cases before with
    | nil =>
      obtain ⟨rfl, rfl⟩ := List.cons.inj hps
      exact Or.inl ⟨hlength, hwidth, hsingle⟩
    | cons first before =>
      obtain ⟨rfl, rfl⟩ := List.cons.inj hps
      refine Or.inr ⟨before, split, later, rfl, ?_, hwidth, hsingle⟩
      rw [totalWidth_cons] at hlength
      omega
  · rintro (⟨hlength, hwidth, hsingle⟩ | ⟨before, split, later, rfl, hlength, hwidth, hsingle⟩)
    · exact ⟨[], p, ps, rfl, hlength, hwidth, hsingle⟩
    · refine ⟨p :: before, split, later, rfl, ?_, hwidth, hsingle⟩
      rw [totalWidth_cons]
      omega

theorem applyFromBytesAt_eq_layoutAt_iff (data : List UInt8) (ps : List Parameter) :
    ∀ offset, applyFromBytesAt data offset ps = layoutAt data offset ps ↔
      ¬Straddles data.length offset ps := by
  induction ps with
  | nil =>
    intro offset
    refine iff_of_true rfl ?_
    rintro ⟨before, p, later, hps, -⟩
    simp at hps
  | cons p ps ih =>
    intro offset
    rw [straddles_cons_iff, not_or]
    have hwidths := width_cases p
    by_cases hfits : 0 < p.width ∧ offset + p.width ≤ data.length
    · rw [applyFromBytesAt_of_fits hfits.1 hfits.2, layoutAt, if_pos hfits, List.cons_inj_right, ih]
      constructor
      · intro hlater
        exact ⟨by omega, hlater⟩
      · exact fun h => h.2
    · rw [applyFromBytesAt_of_not hfits, layoutAt, if_neg hfits, List.cons_inj_right]
      by_cases hnone : p.width = 0
      · rw [hnone, Nat.add_zero, ih]
        constructor
        · intro hlater
          exact ⟨by omega, hlater⟩
        · exact fun h => h.2
      · -- The block ends before the end of this parameter, so nothing later lies inside it.
        have hover : data.length ≤ offset + p.width := by omega
        have hlater : ¬Straddles data.length (offset + p.width) ps := by
          rintro ⟨before, split, later, -, hlength, -⟩
          omega
        rw [layoutAt_of_le ps hover]
        by_cases hleft : offset + 1 = data.length
        · constructor
          · intro hkept
            refine ⟨?_, hlater⟩
            rintro ⟨-, -, hsingle⟩
            exact exists_assigned hleft hsingle hkept
          · rintro ⟨hnot, -⟩
            apply applyFromBytesAt_of_wide
            intro q hq hwidth
            have hq' := width_cases q
            by_contra hroom
            exact hnot ⟨hleft, by omega, q, hq, by omega⟩
        · refine iff_of_true ?_ ⟨fun h => hleft h.1, hlater⟩
          apply applyFromBytesAt_of_wide
          intro q _ hwidth
          omega

theorem appliesLayout_iff (ps : List Parameter) (data : List UInt8) :
    AppliesLayout ps data ↔ ¬Straddles data.length 0 ps :=
  applyFromBytesAt_eq_layoutAt_iff data ps 0

/-! ## The round trip -/

theorem length_octets (p : Parameter) : p.octets.length = p.width := by
  rw [Parameter.octets, length_toBigEndianBytes, List.length_replicate]

theorem appendBytesAt_eq (ps : List Parameter) :
    ∀ out, appendBytesAt out ps = out ++ ps.flatMap Parameter.octets := by
  induction ps with
  | nil =>
    intro out
    exact (List.append_nil out).symm
  | cons p ps ih =>
    intro out
    rw [appendBytesAt, List.flatMap_cons]
    by_cases hwidth : 0 < p.width
    · rw [if_pos hwidth, ih, List.append_assoc]
    · have hempty : p.octets = [] := by
        apply List.eq_nil_of_length_eq_zero
        rw [length_octets]
        omega
      rw [if_neg hwidth, ih, hempty, List.nil_append]

/-- What a fresh state makes of a parameter in the block of another one. -/
def Parameter.received (p : Parameter) : Applied :=
  if 0 < p.width then p.fresh.taken p.octets else p.fresh.kept

theorem applyFromBytesAt_flatMap (ps : List Parameter) :
    ∀ front, applyFromBytesAt (front ++ ps.flatMap Parameter.octets) front.length
        (ps.map Parameter.fresh) = ps.map Parameter.received := by
  induction ps with
  | nil =>
    intro front
    rfl
  | cons p ps ih =>
    intro front
    have hlength := length_octets p
    have hfresh : p.fresh.width = p.width := rfl
    have hdata : front ++ (p :: ps).flatMap Parameter.octets
        = (front ++ p.octets) ++ ps.flatMap Parameter.octets := by
      rw [List.flatMap_cons, List.append_assoc]
    rw [List.map_cons, List.map_cons, Parameter.received]
    by_cases hwidth : 0 < p.width
    · have hslice : slice (front ++ (p :: ps).flatMap Parameter.octets) front.length p.width
          = p.octets := by
        rw [slice, List.drop_left, List.flatMap_cons, ← hlength, List.take_left]
      have hroom : front.length + p.width
          ≤ (front ++ (p :: ps).flatMap Parameter.octets).length := by
        rw [hdata, List.length_append, List.length_append]
        omega
      have hnext : front.length + p.width = (front ++ p.octets).length := by
        rw [List.length_append, hlength]
      rw [applyFromBytesAt_of_fits (by rw [hfresh]; exact hwidth) (by rw [hfresh]; exact hroom), hfresh,
        hslice, if_pos hwidth, hnext, hdata, ih]
    · have hempty : p.octets = [] := by
        apply List.eq_nil_of_length_eq_zero
        omega
      rw [hempty, List.append_nil] at hdata
      rw [applyFromBytesAt_of_not fun h => hwidth (by rw [← hfresh]; exact h.1), if_neg hwidth, hdata,
        ih]

theorem applyFromBytes_toBytes (ps : List Parameter) :
    applyFromBytes (ps.map Parameter.fresh) (toBytes ps) = ps.map Parameter.received := by
  rw [applyFromBytes, toBytes, appendBytesAt_eq]
  exact applyFromBytesAt_flatMap ps []

/-- Every serialisable parameter of a fresh state gets the value that it has in the other one. -/
def RoundTrip (ps : List Parameter) : Prop :=
  ∀ (i : Nat) (p : Parameter), ps[i]? = some p → 0 < p.width →
    ∃ applied, (applyFromBytes (ps.map Parameter.fresh) (toBytes ps))[i]? = some applied ∧
      applied.parameter.get = p.get

theorem received_get_iff {p : Parameter} (hwidth : 0 < p.width) :
    p.received.parameter.get = p.get ↔ Written p.type (p.override.getD p.defaultValue) := by
  rw [Parameter.received, if_pos hwidth, ← fromBigEndianBytes_written_iff p.type hwidth]
  constructor
  · intro hsame
    exact eq_of_heq (Sigma.mk.inj hsame).2
  · intro hsame
    exact Sigma.ext rfl (heq_of_eq hsame)

theorem written_of_width_zero {p : Parameter} (hwidth : ¬0 < p.width) (value : p.type.Value) :
    Written p.type value := by
  obtain ⟨type, defaultValue, override⟩ := p
  cases type with
  | enum underlying => exact absurd (by decide : 0 < 2) hwidth
  | _ => trivial

theorem roundTrip_iff (ps : List Parameter) :
    RoundTrip ps ↔ ∀ p ∈ ps, Written p.type (p.override.getD p.defaultValue) := by
  unfold RoundTrip
  rw [applyFromBytes_toBytes]
  constructor
  · intro h p hp
    by_cases hwidth : 0 < p.width
    · obtain ⟨i, hi⟩ := List.mem_iff_getElem?.mp hp
      obtain ⟨applied, happlied, hget⟩ := h i p hi hwidth
      rw [List.getElem?_map, hi, Option.map_some, Option.some.injEq] at happlied
      rw [← happlied] at hget
      exact (received_get_iff hwidth).mp hget
    · exact written_of_width_zero hwidth _
  · intro h i p hi hwidth
    refine ⟨p.received, ?_, (received_get_iff hwidth).mpr (h p (List.mem_of_getElem? hi))⟩
    rw [List.getElem?_map, hi, Option.map_some]

/-- The round trip, and blocks of any length. -/
theorem parameterBlock_iff (ps : List Parameter) (data : List UInt8) :
    (RoundTrip ps ∧ AppliesLayout ps data) ↔
      (∀ p ∈ ps, Written p.type (p.override.getD p.defaultValue)) ∧
        ¬Straddles data.length 0 ps := by
  rw [roundTrip_iff, appliesLayout_iff]

/-- A word and an octet, in front of a block of one octet: the octet of the word is taken for the other
parameter. -/
theorem not_parameterBlock :
    ¬ ∀ (ps : List Parameter) (data : List UInt8), RoundTrip ps ∧ AppliesLayout ps data := by
  intro h
  have happlies := (h [⟨.uint16, (0 : UInt16), none⟩, ⟨.uint8, (0 : UInt8), none⟩] [7]).2
  rw [appliesLayout_iff] at happlies
  exact happlies ⟨[], _, _, rfl, rfl, rfl, _, List.mem_singleton_self _, rfl⟩

end KnxStack.Ets.ParameterBlock
