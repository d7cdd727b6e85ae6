import KnxStack.Lib.Octets
import KnxStack.Lib.Words

/-!
# Parameters in the catalogue and in the firmware

The exporter gives every parameter of a product a place in the memory of the application program
(`_emit_parameters`, `tools/knxprod_exporter/exporter.py`), a tool writes the values there, and the
device takes them out again (`ParameterState::applyFromBytes`, `product/commissioned_product.hpp`).
The layout is written down three times: as a table of widths in the exporter, as
`exportParameterValueByteWidth`, and in `fromBigEndianBytes`.

- `paramKindWidth_eq`: the two tables agree.
- `fromBigEndianBytes_toolOctets_iff`: the decoder inverts the tool, but for enumerations over an
  octet: they are written as two octets and read from the first.
- `parameters_agree_iff`: when the catalogue and the firmware agree on a whole schema.
-/

set_option autoImplicit false

namespace KnxStack.Ets

open KnxStack.Lib.Octets KnxStack.Lib.Words

/-! ## Types and values -/

/-- Underlying types of an enumeration, of sixteen bits at most. -/
inductive UnderlyingType where
  | bool
  | int8
  | uint8
  | int16
  | uint16
  deriving DecidableEq, Repr

/-- Values of an enumeration. -/
def UnderlyingType.Value : UnderlyingType → Type
  | .bool => Bool
  | .int8 => Int8
  | .uint8 => UInt8
  | .int16 => Int16
  | .uint16 => UInt16

/-- `sizeof`. -/
def UnderlyingType.size : UnderlyingType → Nat
  | .bool => 1
  | .int8 => 1
  | .uint8 => 1
  | .int16 => 2
  | .uint16 => 2

/-- Types of a parameter (`value_type` of a descriptor). -/
inductive ValueType where
  | bool
  | uint8
  | uint16
  | int16
  | enum (underlying : UnderlyingType)
  | float
  | text
  deriving DecidableEq, Repr

/-- Values of a parameter; a `float` is its IEEE 754 pattern. -/
def ValueType.Value : ValueType → Type
  | .bool => Bool
  | .uint8 => UInt8
  | .uint16 => UInt16
  | .int16 => Int16
  | .enum underlying => underlying.Value
  | .float => UInt32
  | .text => String

/-- `ExportParameterValueKind`. -/
inductive ExportParameterValueKind where
  | none
  | boolean
  | unsigned8
  | unsigned16
  | signed16
  | enum
  | text
  | float
  | floatDpt9
  deriving DecidableEq, Repr

/-- `exportParameterValueKind`. -/
def exportParameterValueKind : ValueType → ExportParameterValueKind
  | .bool => .boolean
  | .uint8 => .unsigned8
  | .uint16 => .unsigned16
  | .int16 => .signed16
  | .enum _ => .enum
  | .text => .text
  | .float => .float

/-- `exportParameterValueByteWidth`. -/
def exportParameterValueByteWidth : ExportParameterValueKind → Nat
  | .boolean => 1
  | .unsigned8 => 1
  | .unsigned16 => 2
  | .signed16 => 2
  | .enum => 2
  | .float => 4
  | .floatDpt9 => 2
  | .text => 0
  | .none => 0

/-- Octets that a parameter of the type takes in the program data. -/
def ValueType.width (type : ValueType) : Nat :=
  exportParameterValueByteWidth (exportParameterValueKind type)

/-! ## The exporter -/

/-- `_PARAM_KIND_WIDTH`, a dictionary without the kinds that are not serialisable. -/
def paramKindWidth : ExportParameterValueKind → Option Nat
  | .boolean => some 1
  | .unsigned8 => some 1
  | .unsigned16 => some 2
  | .signed16 => some 2
  | .enum => some 2
  | .float => some 4
  | .floatDpt9 => some 2
  | .none => none
  | .text => none

/-- `SizeInBit` of `_param_type_for_kind`; the two encodings of `TypeFloat` imply theirs. -/
def paramTypeSizeInBit : ExportParameterValueKind → Nat
  | .floatDpt9 => 16
  | .float => 32
  | .boolean => 8
  | .unsigned8 => 8
  | .signed16 => 16
  | .unsigned16 => 16
  | .enum => 16
  | .none => 16
  | .text => 16

/-- A parameter of a schema: its type, whether it lists options, the value assigned to it in the
tool, and the value the device holds. -/
structure Parameter where
  type : ValueType
  hasOptions : Bool
  assigned : type.Value
  current : Option type.Value

/-- Octets of the parameter in the program data. -/
def Parameter.width (p : Parameter) : Nat := p.type.width

/-- An exported parameter with its `Memory` element and the `SizeInBit` of its type. -/
structure ExportedParameter where
  parameter : Parameter
  offset : Nat
  sizeInBit : Nat

/-- The loop of `_emit_parameters` over the parameters, with the offset it has come to: the exported
parameters and the offset at the end. -/
def emitLoop (offset : Nat) : List Parameter → List ExportedParameter × Nat
  | [] => ([], offset)
  | p :: ps =>
    match paramKindWidth (exportParameterValueKind p.type) with
    | none => emitLoop offset ps
    | some width =>
      let sizeInBit :=
        if p.hasOptions then width * 8 else paramTypeSizeInBit (exportParameterValueKind p.type)
      let rest := emitLoop (offset + width) ps
      (⟨p, offset, sizeInBit⟩ :: rest.1, rest.2)

/-- `_emit_parameters`. -/
def emitParameters (ps : List Parameter) : List ExportedParameter × Nat :=
  emitLoop 0 (ps.filter fun p => (paramKindWidth (exportParameterValueKind p.type)).isSome)

/-- `Size` of the exported `RelativeSegment`. -/
def relativeSegmentSize : Nat := 256

/-! ## The tool -/

/-- The number that a value of an enumeration is. -/
def UnderlyingType.number : (underlying : UnderlyingType) → underlying.Value → Int
  | .bool, value => (Bool.toNat value : Int)
  | .int8, value => Int8.toInt value
  | .uint8, value => (UInt8.toNat value : Int)
  | .int16, value => Int16.toInt value
  | .uint16, value => (UInt16.toNat value : Int)

/-- The number that a value is for the tool. -/
def ValueType.number : (type : ValueType) → type.Value → Int
  | .bool, value => (Bool.toNat value : Int)
  | .uint8, value => (UInt8.toNat value : Int)
  | .uint16, value => (UInt16.toNat value : Int)
  | .int16, value => Int16.toInt value
  | .enum underlying, value => underlying.number value
  | .float, value => (UInt32.toNat value : Int)
  | .text, _ => 0

/-- A number in a field of some bits, big-endian and in two's complement. -/
def toolOctets (sizeInBit : Nat) (number : Int) : List UInt8 :=
  toOctets (sizeInBit / 8) (number % 2 ^ sizeInBit).toNat

/-- The value of an exported parameter as the tool writes it. -/
def ExportedParameter.octets (e : ExportedParameter) : List UInt8 :=
  toolOctets e.sizeInBit (e.parameter.type.number e.parameter.assigned)

/-- The segment after the tool has written each parameter at its offset. -/
def writeParameters (segment : List UInt8) (exported : List ExportedParameter) : List UInt8 :=
  exported.foldl (fun segment e => overwrite segment e.offset e.octets) segment

/-! ## The firmware -/

/-- The branch of `fromBigEndianBytes` for enumerations. -/
def UnderlyingType.fromBigEndianBytes : (underlying : UnderlyingType) → List UInt8 →
    underlying.Value
  | .bool, bytes => bytes.getD 0 0 != 0
  | .int8, bytes => (bytes.getD 0 0).toInt8
  | .uint8, bytes => bytes.getD 0 0
  | .int16, bytes => (joinBytes (bytes.getD 0 0) (bytes.getD 1 0)).toInt16
  | .uint16, bytes => joinBytes (bytes.getD 0 0) (bytes.getD 1 0)

/-- `byte_io::fromBigEndianBytes`. -/
def fromBigEndianBytes : (type : ValueType) → List UInt8 → type.Value
  | .bool, bytes => bytes.getD 0 0 != 0
  | .uint8, bytes => bytes.getD 0 0
  | .uint16, bytes => joinBytes (bytes.getD 0 0) (bytes.getD 1 0)
  | .int16, bytes => (joinBytes (bytes.getD 0 0) (bytes.getD 1 0)).toInt16
  | .enum underlying, bytes => underlying.fromBigEndianBytes bytes
  | .float, bytes => UInt32.ofNat (ofOctets (bytes.take 4))
  | .text, _ => ""

/-- An entry of `ParameterState::_values`. -/
abbrev ParameterValue : Type := (type : ValueType) × Option type.Value

/-- `ParameterState::applyFromBytesAt`. A parameter that the block does not reach keeps its value,
and the offset stays. -/
def applyFromBytesAt (data : List UInt8) (offset : Nat) : List ParameterValue → List ParameterValue
  | [] => []
  | ⟨type, current⟩ :: values =>
    if 0 < type.width ∧ offset + type.width ≤ data.length then
      ⟨type, some (fromBigEndianBytes type (slice data offset type.width))⟩
        :: applyFromBytesAt data (offset + type.width) values
    else ⟨type, current⟩ :: applyFromBytesAt data offset values

/-- `ParameterState::applyFromBytes`. -/
def applyFromBytes (values : List ParameterValue) (data : List UInt8) : List ParameterValue :=
  applyFromBytesAt data 0 values

/-- The state of the device before a download. -/
def parameterState (ps : List Parameter) : List ParameterValue :=
  ps.map fun p => ⟨p.type, p.current⟩

/-! ## One parameter -/

theorem paramKindWidth_eq (kind : ExportParameterValueKind) :
    paramKindWidth kind = if 0 < exportParameterValueByteWidth kind then
      some (exportParameterValueByteWidth kind) else none := by
  cases kind <;> rfl

theorem paramTypeSizeInBit_eq {kind : ExportParameterValueKind} {width : Nat}
    (h : paramKindWidth kind = some width) : paramTypeSizeInBit kind = width * 8 := by
  cases kind <;> cases h <;> rfl

theorem toolOctets_natCast {n bits : Nat} (h : n < 2 ^ bits) :
    toolOctets bits (n : Int) = toOctets (bits / 8) n := by
  have hlt : (n : Int) < 2 ^ bits := by exact_mod_cast h
  rw [toolOctets, Int.emod_eq_of_lt (Int.natCast_nonneg n) hlt]
  rfl

theorem octet_toolOctets (v : UInt8) : (toolOctets 8 v.toNat).getD 0 0 = v := by
  rw [toolOctets_natCast v.toNat_lt]
  exact UInt8.ofNat_toNat

theorem joinBytes_toolOctets (v : UInt16) :
    joinBytes ((toolOctets 16 v.toNat).getD 0 0) ((toolOctets 16 v.toNat).getD 1 0) = v := by
  have hlt := v.toNat_lt
  rw [toolOctets_natCast hlt]
  apply UInt16.toNat_inj.mp
  rw [toNat_joinBytes]
  simp [toOctets]
  omega

theorem joinBytes_toolOctets_toInt (v : Int16) :
    (joinBytes ((toolOctets 16 v.toInt).getD 0 0) ((toolOctets 16 v.toInt).getD 1 0)).toInt16
      = v := by
  have hsigned := BitVec.toInt_eq_toNat_cond v.toBitVec
  have hint : v.toInt = v.toBitVec.toInt := rfl
  have hnat : v.toUInt16.toNat = v.toBitVec.toNat := rfl
  have hlt := v.toBitVec.isLt
  have hsame : toolOctets 16 v.toInt = toolOctets 16 v.toUInt16.toNat := by
    unfold toolOctets
    rw [hnat, hint, hsigned]
    congr 1
    split <;> omega
  rw [hsame, joinBytes_toolOctets]
  exact Int16.toInt16_toUInt16 v

theorem ofOctets_toolOctets (v : UInt32) :
    UInt32.ofNat (ofOctets ((toolOctets 32 v.toNat).take 4)) = v := by
  have hlt : v.toNat < 256 ^ 4 := v.toNat_lt
  rw [toolOctets_natCast v.toNat_lt,
    List.take_of_length_le (Nat.le_of_eq (length_toOctets 4 v.toNat)), ofOctets_toOctets,
    Nat.mod_eq_of_lt hlt]
  exact UInt32.ofNat_toNat

theorem first_octet_of_lt {n : Nat} (h : n < 256) : (toolOctets 16 n).getD 0 0 = 0 := by
  have hhigh : n / 256 = 0 := Nat.div_eq_of_lt h
  rw [toolOctets_natCast (Nat.lt_trans h (by decide))]
  simp only [toOctets, Nat.reduceDiv, List.nil_append, List.cons_append, List.getD_cons_zero, hhigh]
  rfl

theorem first_octet_toInt (v : Int8) :
    (toolOctets 16 v.toInt).getD 0 0 = if v.toInt < 0 then 255 else 0 := by
  have hsigned := BitVec.toInt_eq_toNat_cond v.toBitVec
  have hint : v.toInt = v.toBitVec.toInt := rfl
  have hlt := v.toBitVec.isLt
  have hhigh : (v.toInt % 2 ^ 16).toNat / 256 = if v.toInt < 0 then 255 else 0 := by
    rw [hint, hsigned]
    split <;> split <;> omega
  simp only [toolOctets, toOctets, Nat.reduceDiv, List.nil_append, List.cons_append,
    List.getD_cons_zero, hhigh]
  split <;> rfl

/-- An enumeration over an octet is assigned a value that the octet of its sign stands for. -/
def ValueType.SurvivesWidening : (type : ValueType) → type.Value → Prop
  | .enum underlying, value => underlying.size = 1 →
    underlying.number value = 0 ∨ underlying.number value = -1
  | _, _ => True

theorem int8_of_sign_iff (v : Int8) :
    (if v.toInt < 0 then (255 : UInt8) else 0).toInt8 = v ↔ v.toInt = 0 ∨ v.toInt = -1 := by
  constructor
  · intro h
    rw [← h]
    split
    · exact .inr rfl
    · exact .inl rfl
  · intro h
    apply Int8.toInt_inj.mp
    rcases h with hzero | hminus
    · rw [hzero, if_neg (by decide)]
      rfl
    · rw [hminus, if_pos (by decide)]
      rfl

/-- Sixteen bits hold an enumeration, of which the decoder takes the first `sizeof` octets. -/
theorem enum_fromBigEndianBytes_iff (underlying : UnderlyingType) (value : underlying.Value) :
    underlying.fromBigEndianBytes (toolOctets 16 (underlying.number value)) = value ↔
      (underlying.size = 1 → underlying.number value = 0 ∨ underlying.number value = -1) := by
  cases underlying with
  | bool =>
    have hlt : Bool.toNat value < 256 := Nat.lt_of_le_of_lt (Bool.toNat_le value) (by decide)
    have hfirst := first_octet_of_lt hlt
    simp only [UnderlyingType.fromBigEndianBytes, UnderlyingType.number, hfirst,
      UnderlyingType.size, forall_const]
    cases value with
    | false => exact iff_of_true rfl (.inl rfl)
    | true => exact iff_of_false (fun h => Bool.noConfusion h) (by rintro (h | h) <;> cases h)
  | int8 =>
    have hfirst := first_octet_toInt value
    simp only [UnderlyingType.fromBigEndianBytes, UnderlyingType.number, hfirst,
      UnderlyingType.size, forall_const]
    exact int8_of_sign_iff value
  | uint8 =>
    have hfirst := first_octet_of_lt (UInt8.toNat_lt value)
    simp only [UnderlyingType.fromBigEndianBytes, UnderlyingType.number, hfirst,
      UnderlyingType.size, forall_const]
    constructor
    · intro h
      rw [← h]
      exact .inl rfl
    · intro h
      apply UInt8.toNat_inj.mp
      have hzero : UInt8.toNat value = 0 := by
        rcases h with h | h <;> omega
      rw [hzero]
      rfl
  | int16 =>
    exact iff_of_true (joinBytes_toolOctets_toInt value) (fun h => absurd h (by decide))
  | uint16 =>
    exact iff_of_true (joinBytes_toolOctets value) (fun h => absurd h (by decide))

/-- The decoder inverts the tool exactly when the value survives the width it is exported with. -/
theorem fromBigEndianBytes_toolOctets_iff {type : ValueType} (h : 0 < type.width)
    (value : type.Value) :
    fromBigEndianBytes type (toolOctets (type.width * 8) (type.number value)) = value ↔
      type.SurvivesWidening value := by
  cases type with
  | bool =>
    refine iff_of_true ?_ trivial
    cases value with
    | false => rfl
    | true => rfl
  | uint8 => exact iff_of_true (octet_toolOctets value) trivial
  | uint16 => exact iff_of_true (joinBytes_toolOctets value) trivial
  | int16 => exact iff_of_true (joinBytes_toolOctets_toInt value) trivial
  | enum underlying => exact enum_fromBigEndianBytes_iff underlying value
  | float => exact iff_of_true (ofOctets_toolOctets value) trivial
  | text => exact absurd h (by decide)

/-! ## The layout of a schema -/

/-- Octets of the program data that a schema takes. -/
def totalWidth (ps : List Parameter) : Nat := (ps.map Parameter.width).sum

@[simp] theorem totalWidth_nil : totalWidth [] = 0 := rfl

@[simp] theorem totalWidth_cons (p : Parameter) (ps : List Parameter) :
    totalWidth (p :: ps) = p.width + totalWidth ps := by
  simp [totalWidth]

theorem emitLoop_cons_of_zero {p : Parameter} (h : p.width = 0) (offset : Nat)
    (ps : List Parameter) : emitLoop offset (p :: ps) = emitLoop offset ps := by
  have hkind : paramKindWidth (exportParameterValueKind p.type) = none := by
    rw [paramKindWidth_eq]
    exact if_neg (by rw [show exportParameterValueByteWidth _ = 0 from h]; decide)
  rw [emitLoop, hkind]

theorem emitLoop_cons_of_pos {p : Parameter} (h : 0 < p.width) (offset : Nat)
    (ps : List Parameter) :
    emitLoop offset (p :: ps) = (⟨p, offset, p.width * 8⟩ :: (emitLoop (offset + p.width) ps).1,
      (emitLoop (offset + p.width) ps).2) := by
  have hkind : paramKindWidth (exportParameterValueKind p.type) = some p.width := by
    rw [paramKindWidth_eq]
    exact if_pos h
  rw [emitLoop, hkind]
  simp only [paramTypeSizeInBit_eq hkind, ite_self]

theorem emitParameters_eq (ps : List Parameter) : emitParameters ps = emitLoop 0 ps := by
  have hfilter : ∀ (ps : List Parameter) (offset : Nat), emitLoop offset
      (ps.filter fun p => (paramKindWidth (exportParameterValueKind p.type)).isSome)
        = emitLoop offset ps := by
    intro ps
    induction ps with
    | nil =>
      intro offset
      rfl
    | cons p ps ih =>
      intro offset
      cases hkind : paramKindWidth (exportParameterValueKind p.type) with
      | none =>
        rw [List.filter_cons_of_neg (by simp [hkind]), ih, emitLoop, hkind]
      | some width =>
        rw [List.filter_cons_of_pos (by simp [hkind]), emitLoop, emitLoop, hkind]
        simp only [ih]
  exact hfilter ps 0

/-- An exported parameter has its width, and lies behind the offset the loop started from and
before the one it ends at. -/
theorem mem_emitLoop {ps : List Parameter} :
    ∀ {offset : Nat} {e : ExportedParameter}, e ∈ (emitLoop offset ps).1 →
      e.sizeInBit = e.parameter.width * 8 ∧ offset ≤ e.offset
        ∧ e.offset + e.parameter.width ≤ offset + totalWidth ps := by
  induction ps with
  | nil =>
    intro offset e h
    cases h
  | cons p ps ih =>
    intro offset e h
    rcases Nat.eq_zero_or_pos p.width with hzero | hpos
    · rw [emitLoop_cons_of_zero hzero] at h
      obtain ⟨hsize, hfrom, hto⟩ := ih h
      refine ⟨hsize, hfrom, ?_⟩
      rw [totalWidth_cons]
      omega
    · rw [emitLoop_cons_of_pos hpos] at h
      rw [totalWidth_cons]
      rcases List.mem_cons.mp h with rfl | hrest
      · exact ⟨rfl, Nat.le_refl _, by dsimp only; omega⟩
      · obtain ⟨hsize, hfrom, hto⟩ := ih hrest
        exact ⟨hsize, by omega, by omega⟩

theorem pairwise_emitLoop (ps : List Parameter) : ∀ offset,
    (emitLoop offset ps).1.Pairwise fun e e' => e.offset + e.parameter.width ≤ e'.offset := by
  induction ps with
  | nil =>
    intro offset
    exact List.Pairwise.nil
  | cons p ps ih =>
    intro offset
    rcases Nat.eq_zero_or_pos p.width with hzero | hpos
    · rw [emitLoop_cons_of_zero hzero]
      exact ih offset
    · rw [emitLoop_cons_of_pos hpos]
      refine List.Pairwise.cons ?_ (ih _)
      intro e he
      exact (mem_emitLoop he).2.1

theorem exists_last_emitLoop {ps : List Parameter} : ∀ {offset : Nat}, 0 < totalWidth ps →
    ∃ e ∈ (emitLoop offset ps).1, e.offset + e.parameter.width = offset + totalWidth ps := by
  induction ps with
  | nil =>
    intro offset h
    exact absurd h (Nat.lt_irrefl 0)
  | cons p ps ih =>
    intro offset h
    rw [totalWidth_cons] at h ⊢
    rcases Nat.eq_zero_or_pos p.width with hzero | hpos
    · rw [emitLoop_cons_of_zero hzero, hzero, Nat.zero_add]
      exact ih (by omega)
    · rw [emitLoop_cons_of_pos hpos]
      rcases Nat.eq_zero_or_pos (totalWidth ps) with hlast | hmore
      · refine ⟨_, List.mem_cons_self, ?_⟩
        dsimp only
        omega
      · obtain ⟨e, he, hend⟩ := @ih (offset + p.width) hmore
        exact ⟨e, List.mem_cons_of_mem _ he, by omega⟩

/-! ## Writing and applying -/

theorem length_octets {e : ExportedParameter} (h : e.sizeInBit = e.parameter.width * 8) :
    e.octets.length = e.parameter.width := by
  rw [ExportedParameter.octets, toolOctets, length_toOctets, h, Nat.mul_div_cancel _ (by decide)]

theorem slice_writeParameters {exported : List ExportedParameter} {offset length : Nat} :
    ∀ {segment : List UInt8},
      (∀ e ∈ exported, offset + length ≤ e.offset
        ∧ e.offset + e.octets.length ≤ segment.length) →
      slice (writeParameters segment exported) offset length = slice segment offset length := by
  induction exported with
  | nil =>
    intro segment _
    rfl
  | cons e exported ih =>
    intro segment h
    obtain ⟨hbehind, hfits⟩ := h e List.mem_cons_self
    have hkept := slice_overwrite_of_disjoint hfits (.inl hbehind)
    rw [← hkept]
    apply ih
    intro e' he'
    rw [length_overwrite hfits]
    exact h e' (List.mem_cons_of_mem e he')

theorem length_writeParameters {exported : List ExportedParameter} :
    ∀ {segment : List UInt8}, (∀ e ∈ exported, e.offset + e.octets.length ≤ segment.length) →
      (writeParameters segment exported).length = segment.length := by
  induction exported with
  | nil =>
    intro segment _
    rfl
  | cons e exported ih =>
    intro segment h
    have hlength := length_overwrite (h e List.mem_cons_self)
    rw [← hlength]
    apply ih
    intro e' he'
    rw [hlength]
    exact h e' (List.mem_cons_of_mem e he')

/-- The value that the device takes for a parameter. -/
def Parameter.applied (p : Parameter) : ParameterValue :=
  if 0 < p.width then
    ⟨p.type, some (fromBigEndianBytes p.type
      (toolOctets (p.width * 8) (p.type.number p.assigned)))⟩
  else ⟨p.type, p.current⟩

theorem applyFromBytesAt_writeParameters (ps : List Parameter) :
    ∀ (offset : Nat) (segment : List UInt8), offset + totalWidth ps ≤ segment.length →
      applyFromBytesAt (writeParameters segment (emitLoop offset ps).1) offset (parameterState ps)
        = ps.map Parameter.applied := by
  induction ps with
  | nil =>
    intro offset segment _
    rfl
  | cons p ps ih =>
    intro offset segment h
    rw [totalWidth_cons] at h
    rcases Nat.eq_zero_or_pos p.width with hzero | hpos
    · have hnot : ¬ 0 < p.width := by omega
      rw [emitLoop_cons_of_zero hzero, parameterState, List.map_cons, List.map_cons,
        applyFromBytesAt, if_neg (fun hboth => hnot hboth.1), Parameter.applied, if_neg hnot]
      exact congrArg _ (ih offset segment (by omega))
    · rw [emitLoop_cons_of_pos hpos]
      let e : ExportedParameter := ⟨p, offset, p.width * 8⟩
      have hlength : e.octets.length = p.width := length_octets rfl
      have hwhole : (overwrite segment offset e.octets).length = segment.length :=
        length_overwrite (by omega)
      -- Everything else is written behind this parameter and inside the segment.
      have hrest : ∀ e' ∈ (emitLoop (offset + p.width) ps).1, offset + p.width ≤ e'.offset
          ∧ e'.offset + e'.octets.length ≤ (overwrite segment offset e.octets).length := by
        intro e' he'
        obtain ⟨hsize, hfrom, hto⟩ := mem_emitLoop he'
        rw [length_octets hsize, hwhole]
        exact ⟨hfrom, by omega⟩
      have hslice : slice (writeParameters segment (e :: (emitLoop (offset + p.width) ps).1)) offset
          p.width = e.octets := by
        refine (slice_writeParameters hrest).trans ?_
        have hfits : offset + e.octets.length ≤ segment.length := by omega
        have hself := slice_overwrite_self hfits
        rw [hlength] at hself
        exact hself
      have hcovered : offset + p.width ≤
          (writeParameters segment (e :: (emitLoop (offset + p.width) ps).1)).length := by
        have hall := length_writeParameters fun e' he' => (hrest e' he').2
        refine Nat.le_trans ?_ (Nat.le_of_eq hall.symm)
        omega
      rw [parameterState, List.map_cons, List.map_cons, applyFromBytesAt,
        if_pos ⟨hpos, hcovered⟩, Parameter.applied, if_pos hpos]
      refine congrArg₂ _ ?_ (ih (offset + p.width) (overwrite segment offset e.octets) (by omega))
      exact congrArg (fun octets => (⟨p.type, some (fromBigEndianBytes p.type octets)⟩ :
        ParameterValue)) hslice

/-! ## When the catalogue and the firmware agree -/

/-- Every exported parameter lies inside the exported segment, no two of them overlap, and the
block that the tool has written gives every serialisable parameter the value assigned to it. -/
structure ParametersAgree (ps : List Parameter) (segment : List UInt8) : Prop where
  inside : ∀ e ∈ (emitParameters ps).1, e.offset * 8 + e.sizeInBit ≤ relativeSegmentSize * 8
  disjoint : (emitParameters ps).1.Pairwise fun e e' =>
    e.offset * 8 + e.sizeInBit ≤ e'.offset * 8 ∨ e'.offset * 8 + e'.sizeInBit ≤ e.offset * 8
  applied : ∀ (i : Nat) (p : Parameter), ps[i]? = some p → 0 < p.width →
    (applyFromBytes (parameterState ps) (writeParameters segment (emitParameters ps).1))[i]?
      = some ⟨p.type, some p.assigned⟩

/-- The parameters lie in the segment exactly when their widths add up to its size at most. -/
theorem inside_iff (ps : List Parameter) :
    (∀ e ∈ (emitParameters ps).1, e.offset * 8 + e.sizeInBit ≤ relativeSegmentSize * 8) ↔
      totalWidth ps ≤ relativeSegmentSize := by
  rw [emitParameters_eq]
  constructor
  · intro h
    rcases Nat.eq_zero_or_pos (totalWidth ps) with hzero | hpos
    · rw [hzero]
      exact Nat.zero_le _
    · obtain ⟨e, he, hend⟩ := @exists_last_emitLoop ps 0 hpos
      have hinside := h e he
      rw [(mem_emitLoop he).1] at hinside
      omega
  · intro h e he
    obtain ⟨hsize, -, hto⟩ := mem_emitLoop he
    rw [hsize]
    omega

theorem applied_eq_iff {p : Parameter} (h : 0 < p.width) :
    p.applied = ⟨p.type, some p.assigned⟩ ↔ p.type.SurvivesWidening p.assigned := by
  rw [Parameter.applied, if_pos h, ← fromBigEndianBytes_toolOctets_iff h p.assigned]
  constructor
  · intro heq
    have hvalue : fromBigEndianBytes p.type (toolOctets (p.width * 8) (p.type.number p.assigned))
        = p.assigned := by simpa using heq
    exact hvalue
  · intro heq
    exact congrArg (fun value => (⟨p.type, some value⟩ : ParameterValue)) heq

theorem survivesWidening_of_zero {p : Parameter} (h : ¬ 0 < p.width) :
    p.type.SurvivesWidening p.assigned := by
  obtain ⟨type, hasOptions, assigned, current⟩ := p
  cases type with
  | text => trivial
  | bool => exact absurd (by decide : 0 < ValueType.bool.width) h
  | uint8 => exact absurd (by decide : 0 < ValueType.uint8.width) h
  | uint16 => exact absurd (by decide : 0 < ValueType.uint16.width) h
  | int16 => exact absurd (by decide : 0 < ValueType.int16.width) h
  | enum underlying => exact absurd (by decide : 0 < 2) h
  | float => exact absurd (by decide : 0 < ValueType.float.width) h

/-- For every schema, every assignment and every earlier content of the segment. -/
theorem parameters_agree_iff (ps : List Parameter) (before : Fin relativeSegmentSize → UInt8) :
    ParametersAgree ps (List.ofFn before) ↔
      totalWidth ps ≤ relativeSegmentSize ∧ ∀ p ∈ ps, p.type.SurvivesWidening p.assigned := by
  have hblock : totalWidth ps ≤ relativeSegmentSize →
      applyFromBytes (parameterState ps)
        (writeParameters (List.ofFn before) (emitParameters ps).1) = ps.map Parameter.applied := by
    intro hfits
    rw [emitParameters_eq]
    refine applyFromBytesAt_writeParameters ps 0 (List.ofFn before) ?_
    rw [List.length_ofFn, Nat.zero_add]
    exact hfits
  constructor
  · intro h
    have hfits := (inside_iff ps).mp h.inside
    refine ⟨hfits, ?_⟩
    intro p hp
    by_cases hwidth : 0 < p.width
    · obtain ⟨i, hi⟩ := List.mem_iff_getElem?.mp hp
      have happlied := h.applied i p hi hwidth
      rw [hblock hfits, List.getElem?_map, hi] at happlied
      exact (applied_eq_iff hwidth).mp (Option.some.inj happlied)
    · exact survivesWidening_of_zero hwidth
  · rintro ⟨hfits, hsurvive⟩
    refine ⟨(inside_iff ps).mpr hfits, ?_, ?_⟩
    · rw [emitParameters_eq]
      refine List.Pairwise.imp_of_mem ?_ (pairwise_emitLoop ps 0)
      intro e e' he _ hle
      rw [(mem_emitLoop he).1]
      exact .inl (by omega)
    · intro i p hi hwidth
      rw [hblock hfits, List.getElem?_map, hi]
      exact congrArg some ((applied_eq_iff hwidth).mpr (hsurvive p (List.mem_of_getElem? hi)))

/-- A selector over `uint8_t` with four choices, set to the third. -/
def selectorParameter : Parameter := ⟨.enum .uint8, true, (3 : UInt8), none⟩

/-- A setpoint, at zero. -/
def setpointParameter : Parameter := ⟨.float, false, (0 : UInt32), none⟩

/-- The device does not read the third choice as the third, and sixty-five setpoints do not fit the
segment that is exported for them. -/
theorem selector_not_applied :
    ¬ ParametersAgree [selectorParameter] (List.ofFn fun _ : Fin relativeSegmentSize => 0)
    ∧ ¬ ParametersAgree (List.replicate 65 setpointParameter)
      (List.ofFn fun _ : Fin relativeSegmentSize => 0) := by
  constructor
  · intro h
    have hwidth : 0 < selectorParameter.width := by decide
    have hblock := applyFromBytesAt_writeParameters [selectorParameter] 0
      (List.ofFn fun _ : Fin relativeSegmentSize => 0) (by rw [List.length_ofFn]; decide)
    have happlied := h.applied 0 selectorParameter rfl hwidth
    rw [emitParameters_eq, applyFromBytes, hblock] at happlied
    have hsurvives := (applied_eq_iff hwidth).mp (Option.some.inj happlied) rfl
    revert hsurvives
    decide
  · intro h
    have hfits := (inside_iff _).mp h.inside
    revert hfits
    decide

end KnxStack.Ets
