import KnxStack.Lib.Blocks
import KnxStack.Lib.Octets
import KnxStack.Lib.BitFields
import KnxStack.Application.Dpt
import KnxStack.Objects.CoreObjects

/-!
# The descriptors of the Group Object Table

`readTableData` and `writeTableData` (`objects/group_object_table_object.cpp`) on the list of group
objects, with its null slots: the reading walks the list octet by octet with a number of octets to skip,
the writing maps offsets to the n-th object that is there.

- `readTableData_eq`: reading yields a slice of the octets of the table.
- `writeTableData_cases`: writing sets the flags of the descriptors that it covers, or is refused.
- `descriptors_exact`: the two together, for every list of group objects.
-/

set_option autoImplicit false

namespace KnxStack.Objects

open KnxStack.Lib KnxStack.Lib.Octets KnxStack.Lib.Words KnxStack.Application

/-! ## Group objects -/

/-- `dptPayloadBits`. -/
def dptPayloadBits (id : DptId) : Nat :=
  let main := id.main
  if main = .boolean then 1
  else if main = .controlled1Bit then 2
  else if main = .controlled3Bit then 4
  else if main ∈ [.character, .unsigned8, .signed8, .sceneNumber, .sceneControl, .hvacMode,
      .bitfield8] then 8
  else if main ∈ [.unsigned16, .signed16, .float2Byte, .bitfield16] then 16
  else if main ∈ [.timeOfDay, .date] then 24
  else if main ∈ [.unsigned32, .signed32, .float4Byte, .accessControl] then 32
  else if main = .rgbColor then 24
  else if main = .string then 112
  else if main = .dateTime then 64
  else if main = .xyYColor then 48
  else if main = .hsvColor then 24
  else if main = .colorTransition then 48
  else 0

/-- `valueFieldTypeForOctets`. -/
def valueFieldTypeForOctets (octets : Nat) : UInt8 :=
  match octets with
  | 1 => 7
  | 2 => 8
  | 3 => 9
  | 4 => 10
  | 5 => 15
  | 6 => 11
  | 7 => 16
  | 8 => 12
  | 9 => 17
  | 10 => 13
  | 11 => 18
  | 12 => 19
  | 13 => 20
  | 14 => 14
  | 15 => 21
  | 16 => 22
  | octets =>
    if 17 ≤ octets ∧ octets ≤ 248 then UInt8.ofNat (octets + 6)
    else if octets = 252 then 255
    else 0xFF

/-- `valueFieldTypeForBits`. -/
def valueFieldTypeForBits (bits : Nat) : UInt8 :=
  if 1 ≤ bits ∧ bits ≤ 7 then UInt8.ofNat (bits - 1) else 0xFF

/-- `GroupObjectFlags`. -/
structure GroupObjectFlags where
  communication : Bool := true
  read : Bool := false
  write : Bool := false
  transmit : Bool := false
  update : Bool := false
  readOnInit : Bool := false
  priority : Priority := .low
  deriving DecidableEq, Repr

/-- What the table reads of a `GroupObject`. -/
structure GroupObject where
  dpt : DptId
  flags : GroupObjectFlags := {}
  rawValue : List UInt8 := []
  deriving DecidableEq

namespace GroupObject

def valueFieldType (object : GroupObject) : UInt8 :=
  let bits := dptPayloadBits object.dpt
  if bits = 0 then
    let octets := object.rawValue.length
    if octets = 0 then valueFieldTypeForOctets 1 else valueFieldTypeForOctets octets
  else if bits < 8 then valueFieldTypeForBits bits
  else valueFieldTypeForOctets (bits / 8)

def setFlags (object : GroupObject) (flags : GroupObjectFlags) : GroupObject :=
  { object with flags }

@[simp] theorem valueFieldType_setFlags (object : GroupObject) (flags : GroupObjectFlags) :
    (object.setFlags flags).valueFieldType = object.valueFieldType := rfl

end GroupObject

/-- A bit of a descriptor. -/
def descriptorBit (flag : Bool) (mask : UInt16) : UInt16 := if flag then mask else 0

/-- `encodeGroupObjectDescriptor`. -/
def encodeGroupObjectDescriptor (flags : GroupObjectFlags) (valueFieldType : UInt8) : UInt16 :=
  descriptorBit flags.update 0x8000 ||| descriptorBit flags.transmit 0x4000
    ||| descriptorBit flags.readOnInit 0x2000 ||| descriptorBit flags.write 0x1000
    ||| descriptorBit flags.read 0x0800 ||| descriptorBit flags.communication 0x0400
    ||| ((flags.priority.toBits &&& 0x03).toUInt16 <<< 8) ||| valueFieldType.toUInt16

/-- `decodeGroupObjectDescriptor`: the flags, and the value field type. -/
def decodeGroupObjectDescriptor (descriptor : UInt16) : GroupObjectFlags × UInt8 :=
  ({ update := descriptor &&& 0x8000 != 0
     transmit := descriptor &&& 0x4000 != 0
     readOnInit := descriptor &&& 0x2000 != 0
     write := descriptor &&& 0x1000 != 0
     read := descriptor &&& 0x0800 != 0
     communication := descriptor &&& 0x0400 != 0
     priority := .ofBits ((descriptor >>> 8) &&& 0x03).toUInt8 },
    (descriptor &&& 0x00FF).toUInt8)

def GroupObject.descriptor (object : GroupObject) : UInt16 :=
  encodeGroupObjectDescriptor object.flags object.valueFieldType

/-! ## Octets of a descriptor -/

theorem highByte_or (a b : UInt16) : highByte (a ||| b) = highByte a ||| highByte b := by
  apply UInt8.toNat_inj.mp
  have h := Nat.shiftRight_or_distrib (i := 8) (a := a.toNat) (b := b.toNat)
  simp only [Nat.shiftRight_eq_div_pow] at h
  rw [toNat_highByte, UInt8.toNat_or, toNat_highByte, toNat_highByte, UInt16.toNat_or]
  exact h

theorem highByte_and (a b : UInt16) : highByte (a &&& b) = highByte a &&& highByte b := by
  apply UInt8.toNat_inj.mp
  have h := Nat.shiftRight_and_distrib (i := 8) (a := a.toNat) (b := b.toNat)
  simp only [Nat.shiftRight_eq_div_pow] at h
  rw [toNat_highByte, UInt8.toNat_and, toNat_highByte, toNat_highByte, UInt16.toNat_and]
  exact h

theorem lowByte_or (a b : UInt16) : lowByte (a ||| b) = lowByte a ||| lowByte b := by
  apply UInt8.toNat_inj.mp
  rw [toNat_lowByte, UInt8.toNat_or, toNat_lowByte, toNat_lowByte, UInt16.toNat_or]
  exact Nat.or_mod_two_pow (n := 8)

theorem highByte_toUInt16 (octet : UInt8) : highByte octet.toUInt16 = 0 := by
  apply UInt8.toNat_inj.mp
  have hlt := octet.toNat_lt
  rw [toNat_highByte, UInt8.toNat_toUInt16]
  exact Nat.div_eq_of_lt hlt

theorem lowByte_toUInt16 (octet : UInt8) : lowByte octet.toUInt16 = octet := by
  apply UInt8.toNat_inj.mp
  have hlt := octet.toNat_lt
  rw [toNat_lowByte, UInt8.toNat_toUInt16]
  exact Nat.mod_eq_of_lt hlt

theorem shiftLeft_eq_joinBytes (octet : UInt8) : octet.toUInt16 <<< 8 = joinBytes octet 0 := by
  simp [joinBytes]

theorem descriptorBit_and {mask : UInt16} {k : Nat} (hmask : mask.toNat = 2 ^ k) (w : UInt16) :
    descriptorBit (w &&& mask != 0) mask = w &&& mask := by
  have hand : (w &&& mask).toNat = (w.toNat.testBit k).toNat * 2 ^ k := by
    rw [UInt16.toNat_and, hmask, Nat.and_two_pow]
  cases hbit : w.toNat.testBit k with
  | false =>
    have hzero : w &&& mask = 0 := by
      apply UInt16.toNat_inj.mp
      rw [hand, hbit]
      simp
    simp [descriptorBit, hzero]
  | true =>
    have hall : w &&& mask = mask := by
      apply UInt16.toNat_inj.mp
      rw [hand, hbit, hmask]
      simp
    have hne : mask ≠ 0 := by
      rintro rfl
      exact absurd hmask.symm (Nat.pos_iff_ne_zero.mp (Nat.two_pow_pos k))
    simp [descriptorBit, hall, hne]

theorem lowByte_encode (flags : GroupObjectFlags) (valueFieldType : UInt8) :
    lowByte (encodeGroupObjectDescriptor flags valueFieldType) = valueFieldType := by
  have hbit : ∀ (flag : Bool) (mask : UInt16), lowByte mask = 0 →
      lowByte (descriptorBit flag mask) = 0 := by
    intro flag mask hmask
    cases flag
    · show lowByte 0 = 0
      decide
    · exact hmask
  rw [encodeGroupObjectDescriptor, shiftLeft_eq_joinBytes]
  simp only [lowByte_or, lowByte_joinBytes, lowByte_toUInt16]
  rw [hbit _ _ rfl, hbit _ _ rfl, hbit _ _ rfl, hbit _ _ rfl, hbit _ _ rfl, hbit _ _ rfl]
  simp

theorem octet_fields (x : UInt8) :
    (x &&& 0x80) ||| (x &&& 0x40) ||| (x &&& 0x20) ||| (x &&& 0x10) ||| (x &&& 0x08)
      ||| (x &&& 0x04) ||| (x &&& 0x03) = x := by
  apply BitFields.octet_cases (p := fun x => (x &&& 0x80) ||| (x &&& 0x40) ||| (x &&& 0x20)
    ||| (x &&& 0x10) ||| (x &&& 0x08) ||| (x &&& 0x04) ||| (x &&& 0x03) = x)
  decide +kernel

theorem toBits_ofBits_and_three (x : UInt8) : (Priority.ofBits (x &&& 0x03)).toBits = x &&& 0x03 := by
  apply BitFields.octet_cases
    (p := fun x => (Priority.ofBits (x &&& 0x03)).toBits = x &&& 0x03)
  decide +kernel

theorem highByte_encode_decode (w : UInt16) (valueFieldType : UInt8) :
    highByte (encodeGroupObjectDescriptor (decodeGroupObjectDescriptor w).1 valueFieldType)
      = highByte w := by
  have hpriority : ((w >>> 8) &&& 0x03).toUInt8 = highByte w &&& 0x03 := by
    apply UInt8.toNat_inj.mp
    rw [UInt8.toNat_and, toNat_highByte, UInt16.toNat_toUInt8, UInt16.toNat_and,
      UInt16.toNat_shiftRight]
    have hthree : w.toNat / 2 ^ 8 &&& 3 < 2 ^ 8 := Nat.lt_of_le_of_lt Nat.and_le_right (by decide)
    exact (congrArg (fun n => (n &&& 3) % 2 ^ 8) (Nat.shiftRight_eq_div_pow _ 8)).trans
      (Nat.mod_eq_of_lt hthree)
  unfold encodeGroupObjectDescriptor decodeGroupObjectDescriptor
  rw [descriptorBit_and (k := 15) rfl, descriptorBit_and (k := 14) rfl,
    descriptorBit_and (k := 13) rfl, descriptorBit_and (k := 12) rfl,
    descriptorBit_and (k := 11) rfl, descriptorBit_and (k := 10) rfl, hpriority,
    toBits_ofBits_and_three, shiftLeft_eq_joinBytes]
  simp only [highByte_or, highByte_and, highByte_joinBytes, highByte_toUInt16]
  have hmask : highByte w &&& 0x03 &&& 0x03 = highByte w &&& 0x03 := by
    rw [UInt8.and_assoc]
    rfl
  rw [hmask, UInt8.or_zero]
  exact octet_fields (highByte w)

/-! ## The list of group objects -/

/-- `GroupObjectTableDomain::kMaxObjects`. -/
def kMaxObjects : Nat := 256

/-- `GroupObjectTableDomain`, as far as PID_TABLE reads and writes it; a null slot is `none`. -/
structure GroupObjectTableDomain where
  objects : FixedVector (Option GroupObject) kMaxObjects

/-- `objectAt`: the n-th object that is there, from the front. -/
def objectAt : List (Option GroupObject) → Nat → Option GroupObject
  | [], _ => none
  | none :: rest, slot => objectAt rest slot
  | some object :: _, 0 => some object
  | some _ :: rest, slot + 1 => objectAt rest slot

/-- `setFlags` through the pointer that `objectAt` answers. -/
def setFlagsAt (flags : GroupObjectFlags) : List (Option GroupObject) → Nat → List (Option GroupObject)
  | [], _ => []
  | none :: rest, slot => none :: setFlagsAt flags rest slot
  | some object :: rest, 0 => some (object.setFlags flags) :: rest
  | some object :: rest, slot + 1 => some object :: setFlagsAt flags rest slot

@[simp] theorem length_setFlagsAt (flags : GroupObjectFlags) (objects : List (Option GroupObject))
    (slot : Nat) : (setFlagsAt flags objects slot).length = objects.length := by
  induction objects, slot using setFlagsAt.induct with
  | case1 slot => rfl
  | case2 rest slot ih => simp [setFlagsAt, ih]
  | case3 object rest => rfl
  | case4 object rest slot ih => simp [setFlagsAt, ih]

theorem isSome_setFlagsAt (flags : GroupObjectFlags) (objects : List (Option GroupObject))
    (slot : Nat) : (setFlagsAt flags objects slot).map Option.isSome = objects.map Option.isSome := by
  induction objects, slot using setFlagsAt.induct with
  | case1 slot => rfl
  | case2 rest slot ih => simp [setFlagsAt, ih]
  | case3 object rest => rfl
  | case4 object rest slot ih => simp [setFlagsAt, ih]

theorem objectAt_setFlagsAt (flags : GroupObjectFlags) (objects : List (Option GroupObject))
    (slot : Nat) : ∀ slot', objectAt (setFlagsAt flags objects slot) slot' =
      if slot' = slot then (objectAt objects slot').map (·.setFlags flags)
      else objectAt objects slot' := by
  induction objects, slot using setFlagsAt.induct with
  | case1 slot => simp [setFlagsAt, objectAt]
  | case2 rest slot ih =>
    intro slot'
    exact ih slot'
  | case3 object rest =>
    intro slot'
    cases slot' <;> rfl
  | case4 object rest slot ih =>
    intro slot'
    cases slot' with
    | zero => simp [setFlagsAt, objectAt]
    | succ slot' => simp [setFlagsAt, objectAt, ih slot']

/-- The objects that are there, in table order. -/
def populated (objects : List (Option GroupObject)) : List GroupObject := objects.filterMap id

theorem objectAt_eq (objects : List (Option GroupObject)) (slot : Nat) :
    objectAt objects slot = (populated objects)[slot]? := by
  induction objects, slot using objectAt.induct with
  | case1 slot => rfl
  | case2 rest slot ih => exact ih
  | case3 object rest => rfl
  | case4 object rest slot ih => exact ih

theorem length_populated_le (objects : List (Option GroupObject)) :
    (populated objects).length ≤ objects.length := List.length_filterMap_le _ _

namespace GroupObjectTableDomain

/-- `descriptorCount`. -/
def descriptorCount (domain : GroupObjectTableDomain) : Nat :=
  (domain.objects.data.filter Option.isSome).length

def setFlagsAt (domain : GroupObjectTableDomain) (slot : Nat) (flags : GroupObjectFlags) :
    GroupObjectTableDomain :=
  ⟨⟨Objects.setFlagsAt flags domain.objects.data slot, by
    rw [length_setFlagsAt]
    exact domain.objects.size_le⟩⟩

theorem descriptorCount_eq (domain : GroupObjectTableDomain) :
    domain.descriptorCount = (populated domain.objects.data).length := by
  unfold descriptorCount populated
  induction domain.objects.data with
  | nil => rfl
  | cons object rest ih =>
    cases object with
    | none => simpa using ih
    | some object => simpa using ih

theorem descriptorCount_le (domain : GroupObjectTableDomain) : domain.descriptorCount ≤ 256 := by
  rw [descriptorCount_eq]
  exact Nat.le_trans (length_populated_le _) domain.objects.size_le

end GroupObjectTableDomain

/-! ## Reading -/

/-- `ByteWriter`: what was written, and for how many octets there is room. -/
structure ByteWriter where
  written : List UInt8 := []
  remaining : Nat

def ByteWriter.u8 (out : ByteWriter) (value : UInt8) : Result ByteWriter :=
  if out.remaining < 1 then .error .bufferTooSmall
  else .ok ⟨out.written ++ [value], out.remaining - 1⟩

/-- The writer behind some octets. -/
def ByteWriter.append (out : ByteWriter) (octets : List UInt8) : ByteWriter :=
  ⟨out.written ++ octets, out.remaining - octets.length⟩

/-- What the lambdas of `readTableData` share: octets still to emit and to skip, and the writer. -/
structure Emission where
  remaining : Nat
  skip : Nat
  out : ByteWriter

def emitByte (e : Emission) (value : UInt8) : Result Emission :=
  if e.remaining = 0 then .ok e
  else if 0 < e.skip then .ok { e with skip := e.skip - 1 }
  else
    match e.out.u8 value with
    | .error error => .error error
    | .ok out => .ok { e with out, remaining := e.remaining - 1 }

def emitWord (e : Emission) (value : UInt16) : Result Emission :=
  match emitByte e (highByte value) with
  | .error error => .error error
  | .ok e => emitByte e (lowByte value)

/-- The loop over the objects. -/
def emitObjects : Emission → List (Option GroupObject) → Result Emission
  | e, [] => .ok e
  | e, none :: rest => emitObjects e rest
  | e, some object :: rest =>
    if e.remaining = 0 then .ok e
    else
      match emitWord e object.descriptor with
      | .error error => .error error
      | .ok e => emitObjects e rest

/-- `readTableData`. -/
def readTableData (domain : GroupObjectTableDomain) (startIndex elementCount : UInt16)
    (out : ByteWriter) : Result ByteWriter :=
  let count := domain.descriptorCount
  if 0xFFFF < count then .error .invalidParameter
  else
    let totalSize := 2 + count * 2
    if totalSize < startIndex.toNat + elementCount.toNat then .error .outOfRange
    else
      match emitWord ⟨elementCount.toNat, startIndex.toNat, out⟩ (UInt16.ofNat count) with
      | .error error => .error error
      | .ok e => (emitObjects e domain.objects.data).map Emission.out

/-- Octets of one descriptor. -/
def descriptorOctets (object : GroupObject) : List UInt8 :=
  [highByte object.descriptor, lowByte object.descriptor]

/-- The table as octets: the number of objects that are there, and their descriptors. -/
def tableOctets (objects : List (Option GroupObject)) : List UInt8 :=
  let count := UInt16.ofNat (populated objects).length
  [highByte count, lowByte count] ++ (populated objects).flatMap descriptorOctets

/-- Emitting octets one after another. -/
def emitBytes (e : Emission) : List UInt8 → Result Emission
  | [] => .ok e
  | value :: rest =>
    match emitByte e value with
    | .error error => .error error
    | .ok e => emitBytes e rest

theorem emitBytes_append (e : Emission) (values more : List UInt8) :
    emitBytes e (values ++ more) =
      match emitBytes e values with
      | .error error => .error error
      | .ok e => emitBytes e more := by
  induction values generalizing e with
  | nil => rfl
  | cons value values ih =>
    simp only [List.cons_append, emitBytes]
    cases emitByte e value with
    | error error => rfl
    | ok e => exact ih e

theorem emitWord_eq (e : Emission) (value : UInt16) :
    emitWord e value = emitBytes e [highByte value, lowByte value] := by
  simp only [emitWord, emitBytes]
  cases emitByte e (highByte value) with
  | error error => rfl
  | ok e => cases h : emitByte e (lowByte value) <;> simp [h]

theorem emitBytes_done {e : Emission} (h : e.remaining = 0) (values : List UInt8) :
    emitBytes e values = .ok e := by
  induction values with
  | nil => rfl
  | cons value values ih => simp [emitBytes, emitByte, h, ih]

theorem flatMap_populated_cons (object : GroupObject) (rest : List (Option GroupObject)) :
    (populated (some object :: rest)).flatMap descriptorOctets
      = descriptorOctets object ++ (populated rest).flatMap descriptorOctets := rfl

/-- The loop emits the descriptors of the objects that are there; the early end changes nothing. -/
theorem emitObjects_eq (objects : List (Option GroupObject)) (e : Emission) :
    emitObjects e objects = emitBytes e ((populated objects).flatMap descriptorOctets) := by
  induction e, objects using emitObjects.induct with
  | case1 e => rfl
  | case2 e rest ih => exact ih
  | case3 e object rest hdone => rw [emitBytes_done hdone, emitObjects, if_pos hdone]
  | case4 e object rest hmore error herror =>
    rw [emitObjects, if_neg hmore, flatMap_populated_cons, emitBytes_append]
    rw [emitWord_eq] at herror
    rw [emitWord_eq, descriptorOctets, herror]
  | case5 e object rest hmore e' hok ih =>
    rw [emitObjects, if_neg hmore, flatMap_populated_cons, emitBytes_append]
    rw [emitWord_eq] at hok
    rw [emitWord_eq, descriptorOctets, hok]
    exact ih

theorem slice_cons_zero (value : UInt8) (values : List UInt8) (length : Nat) :
    slice (value :: values) 0 (length + 1) = value :: slice values 0 length := rfl

theorem emitBytes_out (values : List UInt8) (e : Emission) :
    (emitBytes e values).map Emission.out =
      if e.out.remaining < (slice values e.skip e.remaining).length then .error .bufferTooSmall
      else .ok (e.out.append (slice values e.skip e.remaining)) := by
  -- On the octets; what is left to emit and to skip changes with each of them.
  induction values generalizing e with
  | nil => simp [emitBytes, slice, ByteWriter.append, Except.map]
  | cons value values ih =>
    rcases e with ⟨remaining, skip, out⟩
    cases remaining with
    | zero =>
      rw [emitBytes_done rfl]
      simp [slice, ByteWriter.append, Except.map]
    | succ remaining =>
      cases skip with
      | succ skip =>
        have hskip : emitByte ⟨remaining + 1, skip + 1, out⟩ value = .ok ⟨remaining + 1, skip, out⟩ :=
          rfl
        rw [emitBytes, hskip]
        exact ih ⟨remaining + 1, skip, out⟩
      | zero =>
        rw [slice_cons_zero]
        by_cases hfull : out.remaining < 1
        · have hu8 : emitByte ⟨remaining + 1, 0, out⟩ value = .error .bufferTooSmall := by
            simp [emitByte, ByteWriter.u8, hfull]
          rw [emitBytes, hu8, if_pos (by simp only [List.length_cons]; omega)]
          rfl
        · have hu8 : emitByte ⟨remaining + 1, 0, out⟩ value =
              .ok ⟨remaining, 0, ⟨out.written ++ [value], out.remaining - 1⟩⟩ := by
            simp [emitByte, ByteWriter.u8, hfull]
          rw [emitBytes, hu8]
          refine (ih ⟨remaining, 0, ⟨out.written ++ [value], out.remaining - 1⟩⟩).trans ?_
          have hroom : out.remaining - 1 < (slice values 0 remaining).length
              ↔ out.remaining < (value :: slice values 0 remaining).length := by
            rw [List.length_cons]
            omega
          have happend : ByteWriter.append ⟨out.written ++ [value], out.remaining - 1⟩
              (slice values 0 remaining) = out.append (value :: slice values 0 remaining) := by
            simp only [ByteWriter.append, List.append_assoc, List.singleton_append,
              List.length_cons]
            congr 1
            omega
          rw [happend]
          simp only [hroom]

theorem length_tableOctets (objects : List (Option GroupObject)) :
    (tableOctets objects).length = 2 + (populated objects).length * 2 := by
  rw [tableOctets, List.length_append,
    Blocks.length_flatMap (n := 2) (fun _ => rfl)]
  rfl

theorem readTableData_eq (domain : GroupObjectTableDomain) (startIndex elementCount : UInt16)
    (out : ByteWriter) :
    readTableData domain startIndex elementCount out =
      if (tableOctets domain.objects.data).length < startIndex.toNat + elementCount.toNat then
        .error .outOfRange
      else if out.remaining < elementCount.toNat then .error .bufferTooSmall
      else .ok (out.append
        (slice (tableOctets domain.objects.data) startIndex.toNat elementCount.toNat)) := by
  have hfew := domain.descriptorCount_le
  unfold readTableData
  dsimp only
  rw [if_neg (by omega), length_tableOctets, ← domain.descriptorCount_eq]
  by_cases hrange : 2 + domain.descriptorCount * 2 < startIndex.toNat + elementCount.toNat
  · rw [if_pos hrange, if_pos hrange]
  · rw [if_neg hrange, if_neg hrange]
    have hlength : (slice (tableOctets domain.objects.data) startIndex.toNat
        elementCount.toNat).length = elementCount.toNat := by
      rw [slice, List.length_take, List.length_drop, length_tableOctets,
        ← domain.descriptorCount_eq]
      omega
    have hemit := emitBytes_out (tableOctets domain.objects.data)
      ⟨elementCount.toNat, startIndex.toNat, out⟩
    rw [hlength] at hemit
    rw [← hemit, tableOctets, emitBytes_append, emitWord_eq, ← domain.descriptorCount_eq]
    cases emitBytes ⟨elementCount.toNat, startIndex.toNat, out⟩
        [highByte (UInt16.ofNat domain.descriptorCount),
          lowByte (UInt16.ofNat domain.descriptorCount)] with
    | error error => rfl
    | ok e =>
      dsimp only
      rw [emitObjects_eq]

/-! ## Writing -/

/-- The loop that skips the length field; what is left to read, the place and what was consumed. -/
def skipLengthField (elementCount : Nat) : List UInt8 → Nat → Nat → Result (List UInt8 × Nat × Nat)
  | [], absolute, consumed =>
    if absolute < 2 ∧ consumed < elementCount then .error .bufferTooSmall
    else .ok ([], absolute, consumed)
  | octet :: rest, absolute, consumed =>
    if absolute < 2 ∧ consumed < elementCount then
      skipLengthField elementCount rest (absolute + 1) (consumed + 1)
    else .ok (octet :: rest, absolute, consumed)

/-- The loop over the descriptors. It is entered behind the length field only. -/
def writeDescriptors (elementCount : Nat) : List UInt8 → Nat → Nat → GroupObjectTableDomain →
    Result Unit × GroupObjectTableDomain
  | hi :: lo :: rest, absolute, consumed, domain =>
    if consumed + 2 ≤ elementCount then
      let slot := (absolute - 2) / 2
      match objectAt domain.objects.data slot with
      | none => writeDescriptors elementCount rest (absolute + 2) (consumed + 2) domain
      | some _ =>
        let flags := (decodeGroupObjectDescriptor (joinBytes hi lo)).1
        writeDescriptors elementCount rest (absolute + 2) (consumed + 2)
          (domain.setFlagsAt slot flags)
    else (.ok (), domain)
  | _, _, consumed, domain =>
    if consumed + 2 ≤ elementCount then (.error .bufferTooSmall, domain) else (.ok (), domain)

/-- `absolute - kTableLengthFieldBytes`, in `size_t`. -/
def sizeMinusTwo (absolute : Nat) : Nat := (absolute + (2 ^ 64 - 2)) % 2 ^ 64

/-- `writeTableData`. -/
def writeTableData (domain : GroupObjectTableDomain) (startIndex elementCount : UInt16)
    (octets : List UInt8) : Result Unit × GroupObjectTableDomain :=
  if octets.length < elementCount.toNat then (.error .bufferTooSmall, domain)
  else
    match skipLengthField elementCount.toNat octets startIndex.toNat 0 with
    | .error error => (.error error, domain)
    | .ok (rest, absolute, consumed) =>
      if sizeMinusTwo absolute % 2 ≠ 0 then (.error .invalidParameter, domain)
      else if (elementCount.toNat - consumed) % 2 ≠ 0 then (.error .invalidParameter, domain)
      else writeDescriptors elementCount.toNat rest absolute consumed domain

theorem skipLengthField_eq (elementCount : Nat) (octets : List UInt8) :
    ∀ absolute consumed, elementCount - consumed ≤ octets.length →
      skipLengthField elementCount octets absolute consumed =
        .ok (octets.drop (min (2 - absolute) (elementCount - consumed)),
          absolute + min (2 - absolute) (elementCount - consumed),
          consumed + min (2 - absolute) (elementCount - consumed)) := by
  induction octets with
  | nil =>
    intro absolute consumed hlength
    have hnone : elementCount - consumed = 0 := Nat.le_zero.mp hlength
    rw [skipLengthField, if_neg (by omega), hnone]
    simp
  | cons octet rest ih =>
    intro absolute consumed hlength
    rw [List.length_cons] at hlength
    by_cases hskip : absolute < 2 ∧ consumed < elementCount
    · have hmin : min (2 - absolute) (elementCount - consumed) =
          min (2 - (absolute + 1)) (elementCount - (consumed + 1)) + 1 := by omega
      rw [skipLengthField, if_pos hskip, ih _ _ (by omega), hmin, List.drop_succ_cons]
      congr 3 <;> omega
    · have hmin : min (2 - absolute) (elementCount - consumed) = 0 := by omega
      rw [skipLengthField, if_neg hskip, hmin]
      rfl

/-- A word of the data. -/
def descriptorWordAt (octets : List UInt8) (i : Nat) : UInt16 :=
  joinBytes (octets.getD i 0) (octets.getD (i + 1) 0)

/-- The policy that a word stands for. -/
def policyOf (word : UInt16) : GroupObjectFlags := (decodeGroupObjectDescriptor word).1

theorem highByte_descriptor_setFlags (object : GroupObject) (word : UInt16) :
    highByte (object.setFlags (policyOf word)).descriptor = highByte word :=
  highByte_encode_decode word _

/-- The loop: `count` descriptors from a slot on. -/
theorem writeDescriptors_eq (count : Nat) : ∀ (octets : List UInt8) (slot consumed : Nat)
    (domain : GroupObjectTableDomain), 2 * count ≤ octets.length →
    ∃ domain', writeDescriptors (consumed + 2 * count) octets (2 + 2 * slot) consumed domain
        = (.ok (), domain')
      ∧ domain'.objects.data.map Option.isSome = domain.objects.data.map Option.isSome
      ∧ ∀ slot', objectAt domain'.objects.data slot' =
          if slot ≤ slot' ∧ slot' < slot + count then
            (objectAt domain.objects.data slot').map
              (·.setFlags (policyOf (descriptorWordAt octets (2 * (slot' - slot)))))
          else objectAt domain.objects.data slot' := by
  induction count with
  | zero =>
    intro octets slot consumed domain _
    refine ⟨domain, ?_, rfl, ?_⟩
    · match octets with
      | [] => simp [writeDescriptors]
      | [_] => simp [writeDescriptors]
      | _ :: _ :: _ => simp [writeDescriptors]
    · intro slot'
      rw [if_neg (by omega)]
  | succ count ih =>
    intro octets slot consumed domain hlength
    match octets, hlength with
    | hi :: lo :: rest, hlength =>
      rw [List.length_cons, List.length_cons] at hlength
      have hslot : (2 + 2 * slot - 2) / 2 = slot := by omega
      have hplace : 2 + 2 * slot + 2 = 2 + 2 * (slot + 1) := by omega
      have hcount : consumed + 2 * (count + 1) = consumed + 2 + 2 * count := by omega
      -- The first word goes to `slot`, whether an object is there or not.
      obtain ⟨first, hfirst, hfirstNull, hfirstAt⟩ : ∃ first,
          writeDescriptors (consumed + 2 * (count + 1)) (hi :: lo :: rest) (2 + 2 * slot) consumed
              domain
            = writeDescriptors (consumed + 2 + 2 * count) rest (2 + 2 * (slot + 1)) (consumed + 2)
                first
          ∧ first.objects.data.map Option.isSome = domain.objects.data.map Option.isSome
          ∧ ∀ slot', objectAt first.objects.data slot' =
              if slot' = slot then
                (objectAt domain.objects.data slot').map (·.setFlags (policyOf (joinBytes hi lo)))
              else objectAt domain.objects.data slot' := by
        rw [writeDescriptors, if_pos (by omega), hslot, hplace, hcount]
        dsimp only
        cases hobject : objectAt domain.objects.data slot with
        | none =>
          refine ⟨domain, rfl, rfl, ?_⟩
          intro slot'
          split
          · rename_i hsame
            rw [hsame, hobject]
            rfl
          · rfl
        | some object =>
          refine ⟨domain.setFlagsAt slot (policyOf (joinBytes hi lo)), rfl, ?_, ?_⟩
          · exact isSome_setFlagsAt _ _ _
          · exact objectAt_setFlagsAt _ _ _
      obtain ⟨domain', hrun, hnull, hat⟩ := ih rest (slot + 1) (consumed + 2) first (by omega)
      refine ⟨domain', hfirst.trans hrun, hnull.trans hfirstNull, ?_⟩
      intro slot'
      rw [hat, hfirstAt]
      by_cases hsame : slot' = slot
      · rw [if_neg (by omega), if_pos hsame, if_pos (by omega), hsame, Nat.sub_self]
        rfl
      · rw [if_neg hsame]
        by_cases hin : slot + 1 ≤ slot' ∧ slot' < slot + 1 + count
        · have hword : descriptorWordAt rest (2 * (slot' - (slot + 1)))
              = descriptorWordAt (hi :: lo :: rest) (2 * (slot' - slot)) := by
            have hindex : 2 * (slot' - slot) = 2 * (slot' - (slot + 1)) + 2 := by omega
            rw [hindex]
            rfl
          rw [if_pos hin, if_pos (by omega), hword]
        · rw [if_neg hin, if_neg (by omega)]

/-- The write covers the descriptor of a slot. -/
def Covers (startIndex elementCount : UInt16) (slot : Nat) : Prop :=
  startIndex.toNat ≤ 2 + 2 * slot ∧ 2 + 2 * slot + 2 ≤ startIndex.toNat + elementCount.toNat

instance (startIndex elementCount : UInt16) (slot : Nat) :
    Decidable (Covers startIndex elementCount slot) := inferInstanceAs (Decidable (_ ∧ _))

/-- A write that is not refused: the data is there, the write ends behind a whole word of the table, and
begins in front of one or inside the length field. -/
def Writable (startIndex elementCount : UInt16) (octets : List UInt8) : Prop :=
  elementCount.toNat ≤ octets.length
    ∧ (startIndex.toNat + elementCount.toNat) % 2 = 0
    ∧ (startIndex.toNat % 2 = 0 ∨ startIndex.toNat = 1)

theorem writeTableData_cases (domain : GroupObjectTableDomain) (startIndex elementCount : UInt16)
    (octets : List UInt8) :
    (¬ Writable startIndex elementCount octets
      ∧ ∃ error, writeTableData domain startIndex elementCount octets = (.error error, domain)) ∨
      Writable startIndex elementCount octets
        ∧ ∃ domain', writeTableData domain startIndex elementCount octets = (.ok (), domain')
        ∧ domain'.objects.data.map Option.isSome = domain.objects.data.map Option.isSome
        ∧ ∀ slot, objectAt domain'.objects.data slot =
            if Covers startIndex elementCount slot then
              (objectAt domain.objects.data slot).map
                (·.setFlags (policyOf (descriptorWordAt octets (2 + 2 * slot - startIndex.toNat))))
            else objectAt domain.objects.data slot := by
  have hstart := startIndex.toNat_lt
  have hcount := elementCount.toNat_lt
  unfold writeTableData Writable
  by_cases hshort : octets.length < elementCount.toNat
  · exact .inl ⟨by omega, _, if_pos hshort⟩
  · rw [if_neg hshort, skipLengthField_eq elementCount.toNat octets startIndex.toNat 0 (by omega)]
    simp only [Nat.sub_zero, Nat.zero_add]
    generalize hskipped : min (2 - startIndex.toNat) elementCount.toNat = skipped
    by_cases hplace : sizeMinusTwo (startIndex.toNat + skipped) % 2 ≠ 0
    · refine .inl ⟨?_, _, if_pos hplace⟩
      unfold sizeMinusTwo at hplace
      omega
    · by_cases hwhole : (elementCount.toNat - skipped) % 2 ≠ 0
      · rw [if_neg hplace]
        refine .inl ⟨?_, _, if_pos hwhole⟩
        unfold sizeMinusTwo at hplace
        omega
      · rw [if_neg hplace, if_neg hwhole]
        right
        obtain ⟨count, hsize⟩ : ∃ count, elementCount.toNat = skipped + 2 * count :=
          ⟨(elementCount.toNat - skipped) / 2, by omega⟩
        unfold sizeMinusTwo at hplace
        rcases Nat.lt_or_ge (startIndex.toNat + skipped) 2 with hfield | hbehind
        · -- The write ends inside the length field: nothing is left of it.
          have hnothing : count = 0 := by omega
          subst hnothing
          refine ⟨by omega, domain, ?_, rfl, ?_⟩
          · rw [hsize]
            match octets.drop skipped with
            | [] => simp [writeDescriptors]
            | [_] => simp [writeDescriptors]
            | _ :: _ :: _ => simp [writeDescriptors]
          · intro slot
            rw [if_neg]
            rintro ⟨-, hend⟩
            omega
        · obtain ⟨slot, hslot⟩ : ∃ slot, startIndex.toNat + skipped = 2 + 2 * slot :=
            ⟨(startIndex.toNat + skipped - 2) / 2, by omega⟩
          obtain ⟨domain', hrun, hnull, hat⟩ := writeDescriptors_eq count (octets.drop skipped) slot
            skipped domain (by rw [List.length_drop]; omega)
          refine ⟨by omega, domain', ?_, hnull, ?_⟩
          · rw [hsize, hslot]
            exact hrun
          · intro slot'
            rw [hat]
            have hcovers : (slot ≤ slot' ∧ slot' < slot + count)
                ↔ Covers startIndex elementCount slot' := by
              unfold Covers
              omega
            by_cases hin : slot ≤ slot' ∧ slot' < slot + count
            · have hword : descriptorWordAt (octets.drop skipped) (2 * (slot' - slot))
                  = descriptorWordAt octets (2 + 2 * slot' - startIndex.toNat) := by
                have hindex : 2 + 2 * slot' - startIndex.toNat = skipped + 2 * (slot' - slot) := by
                  omega
                simp only [descriptorWordAt, List.getD_eq_getElem?_getD, List.getElem?_drop, hindex,
                  Nat.add_assoc]
              rw [if_pos hin, if_pos (hcovers.mp hin), hword]
            · rw [if_neg hin, if_neg (fun h => hin (hcovers.mpr h))]

/-! ## Reading back -/

theorem slice_descriptor {objects : List (Option GroupObject)} {slot : Nat} {object : GroupObject}
    (hobject : objectAt objects slot = some object) :
    slice (tableOctets objects) (2 + 2 * slot) 2 = descriptorOctets object := by
  rw [objectAt_eq] at hobject
  have hbehind : slice (tableOctets objects) (2 + 2 * slot) 2
      = slice ((populated objects).flatMap descriptorOctets) (2 * slot) 2 := by
    rw [tableOctets, slice_append_right (Nat.le_add_right 2 (2 * slot))]
    congr 1
    exact Nat.add_sub_cancel_left 2 (2 * slot)
  rw [hbehind]
  apply List.ext_getElem?
  intro k
  rw [getElem?_slice]
  by_cases hk : k < 2
  · rw [if_pos hk, Blocks.getElem?_flatMap (n := 2) (fun _ => rfl) _ _ hk, hobject]
    rfl
  · rw [if_neg hk]
    exact (List.getElem?_eq_none (Nat.not_lt.mp hk)).symm

theorem slot_lt {domain : GroupObjectTableDomain} {slot : Nat} {object : GroupObject}
    (hobject : objectAt domain.objects.data slot = some object) :
    slot < (populated domain.objects.data).length ∧ slot < 256 := by
  rw [objectAt_eq] at hobject
  obtain ⟨hlt, -⟩ := List.getElem?_eq_some_iff.mp hobject
  have hcount := domain.descriptorCount_le
  rw [domain.descriptorCount_eq] at hcount
  exact ⟨hlt, by omega⟩

theorem readTableData_descriptor {domain : GroupObjectTableDomain} {slot : Nat}
    {object : GroupObject} (hobject : objectAt domain.objects.data slot = some object)
    {out : ByteWriter} (hroom : 2 ≤ out.remaining) :
    readTableData domain (UInt16.ofNat (2 + 2 * slot)) 2 out
      = .ok (out.append [highByte object.descriptor, object.valueFieldType]) := by
  obtain ⟨hlt, hslot⟩ := slot_lt hobject
  have hstart : (UInt16.ofNat (2 + 2 * slot)).toNat = 2 + 2 * slot :=
    UInt16.toNat_ofNat_of_lt' (by rw [UInt16.size]; omega)
  have htwo : (2 : UInt16).toNat = 2 := rfl
  rw [readTableData_eq, hstart, htwo, if_neg (by rw [length_tableOctets]; omega),
    if_neg (by omega), slice_descriptor hobject, descriptorOctets]
  rw [GroupObject.descriptor, lowByte_encode]

/-- The Group Object Table, for every list of group objects. -/
theorem descriptors_exact (domain : GroupObjectTableDomain) (startIndex elementCount : UInt16) :
    (∀ out, readTableData domain startIndex elementCount out =
      if (tableOctets domain.objects.data).length < startIndex.toNat + elementCount.toNat then
        .error .outOfRange
      else if out.remaining < elementCount.toNat then .error .bufferTooSmall
      else .ok (out.append
        (slice (tableOctets domain.objects.data) startIndex.toNat elementCount.toNat)))
    ∧ ∀ octets,
      (¬ Writable startIndex elementCount octets
        ∧ ∃ error, writeTableData domain startIndex elementCount octets = (.error error, domain)) ∨
      Writable startIndex elementCount octets
        ∧ ∃ domain', writeTableData domain startIndex elementCount octets = (.ok (), domain')
        ∧ domain'.objects.data.map Option.isSome = domain.objects.data.map Option.isSome
        ∧ ∀ slot object, objectAt domain.objects.data slot = some object →
          ∃ object', objectAt domain'.objects.data slot = some object'
            ∧ object'.valueFieldType = object.valueFieldType
            ∧ (Covers startIndex elementCount slot → ∀ out : ByteWriter, 2 ≤ out.remaining →
                readTableData domain' (UInt16.ofNat (2 + 2 * slot)) 2 out = .ok (out.append
                  [octets.getD (2 + 2 * slot - startIndex.toNat) 0, object.valueFieldType]))
            ∧ (¬ Covers startIndex elementCount slot → object' = object) := by
  refine ⟨fun out => readTableData_eq domain startIndex elementCount out, ?_⟩
  intro octets
  rcases writeTableData_cases domain startIndex elementCount octets with
    hrefused | ⟨hwritable, domain', hwrite, hnull, hat⟩
  · exact .inl hrefused
  · refine .inr ⟨hwritable, domain', hwrite, hnull, ?_⟩
    intro slot object hobject
    have hslot := hat slot
    rw [hobject] at hslot
    by_cases hcovers : Covers startIndex elementCount slot
    · rw [if_pos hcovers] at hslot
      refine ⟨_, hslot, rfl, ?_, fun hnot => absurd hcovers hnot⟩
      intro _ out hroom
      rw [readTableData_descriptor hslot hroom, GroupObject.valueFieldType_setFlags,
        highByte_descriptor_setFlags, descriptorWordAt, highByte_joinBytes]
    · rw [if_neg hcovers] at hslot
      exact ⟨object, hslot, rfl, fun h => absurd h hcovers, fun _ => rfl⟩

end KnxStack.Objects
