import KnxStack.Lib.Blocks
import KnxStack.Lib.CheckedWrites
import KnxStack.Application.DptRoundTrip
import KnxStack.Ets.ConfigTables

/-!
# Saving an ETS configuration

`saveToBuffer` and the writers of the sections (`ets/ets_config_loader.cpp`). A section is written behind
the one before it, each after its own check of what is left of the buffer, and the header with its two
checksums comes last. Every write is a checked one.

- `saveToBuffer_of_eq`: a buffer of the required size holds `fileOctets` in the end.
- `saveToBuffer_of_lt`: a smaller one is refused by the first writer that finds no room.
- `validateFull_fileOctets`, `readSections_fileOctets`: the validator and the parsers on that file.
- `save_round_trip`: saving and loading again.
-/

set_option autoImplicit false

namespace KnxStack.Ets

open KnxStack.Lib KnxStack.Lib.Words KnxStack.Lib.Octets KnxStack.Lib.Blocks KnxStack.Application

/-! ## The source -/

/-- `calculateRequiredSize`. -/
def EtsConfigLoader.calculateRequiredSize (s : EtsConfigLoader) : UInt32 :=
  20 + 10 + (2 + UInt32.ofNat (s.addressTable.length * 2))
    + (2 + UInt32.ofNat (s.associationTable.length * 2))
    + (2 + UInt32.ofNat (s.groupObjects.length * 5))

/-- A buffer, and the offset up to which it is written. -/
structure Writing where
  buffer : List UInt8
  offset : Nat

/-- The size of a buffer, as the writers narrow it. -/
def Writing.maxSize (w : Writing) : Nat := w.buffer.length % 2 ^ 32

/-- Octets at the offset, and the offset behind them. -/
def Writing.emit (w : Writing) (octets : List UInt8) : Checked ErrorCode Writing := do
  let buffer ← writeAll w.buffer w.offset octets
  return { buffer := buffer, offset := w.offset + octets.length }

/-- The octets of a device configuration. -/
def deviceOctets (device : DeviceConfig) : List UInt8 :=
  [highByte device.individualAddress.raw, lowByte device.individualAddress.raw,
    highByte device.manufacturerId, lowByte device.manufacturerId,
    getByte device.serialNumber 3, getByte device.serialNumber 2, getByte device.serialNumber 1,
    getByte device.serialNumber 0, device.appVersion, device.configured]

/-- `_writeDeviceConfig`. -/
def writeDeviceConfig (s : EtsConfigLoader) (w : Writing) : Checked ErrorCode Writing :=
  if w.maxSize < w.offset + 10 then .fail .bufferTooSmall else w.emit (deviceOctets s.deviceConfig)

/-- The octets of a table: the number of its entries, narrowed to 16 bits, and the entries. -/
def tableOctets {α : Type} (entryOctets : α → List UInt8) (entries : List α) : List UInt8 :=
  [highByte (UInt16.ofNat entries.length), lowByte (UInt16.ofNat entries.length)]
    ++ entries.flatMap entryOctets

/-- A table, after the check for as many entries as the count says. -/
def writeTable {α : Type} (entrySize : Nat) (entryOctets : α → List UInt8) (entries : List α)
    (w : Writing) : Checked ErrorCode Writing :=
  if w.maxSize < w.offset + 2 + (UInt16.ofNat entries.length).toNat * entrySize then
    .fail .bufferTooSmall
  else w.emit (tableOctets entryOctets entries)

def addressOctets (entry : AddressTableEntry) : List UInt8 :=
  [highByte entry.groupAddress.raw, lowByte entry.groupAddress.raw]

theorem length_addressOctets (entry : AddressTableEntry) : (addressOctets entry).length = 2 := rfl

/-- `_writeAddressTable`. -/
def writeAddressTable (s : EtsConfigLoader) : Writing → Checked ErrorCode Writing :=
  writeTable 2 addressOctets s.addressTable

def associationOctets (entry : AssociationTableEntry) : List UInt8 :=
  [lowByte entry.groupObjectIndex, entry.priority]

theorem length_associationOctets (entry : AssociationTableEntry) :
    (associationOctets entry).length = 2 := rfl

/-- `_writeAssociationTable`. -/
def writeAssociationTable (s : EtsConfigLoader) : Writing → Checked ErrorCode Writing :=
  writeTable 2 associationOctets s.associationTable

def groupObjectOctets (entry : GroupObjectConfig) : List UInt8 :=
  [highByte entry.dpt, lowByte entry.dpt, entry.flags, highByte entry.initialValue,
    lowByte entry.initialValue]

theorem length_groupObjectOctets (entry : GroupObjectConfig) : (groupObjectOctets entry).length = 5 :=
  rfl

/-- `_writeGroupObjectTable`. -/
def writeGroupObjectTable (s : EtsConfigLoader) : Writing → Checked ErrorCode Writing :=
  writeTable 5 groupObjectOctets s.groupObjects

/-- The size of a section as the header has it, unless it is too large for that. -/
def sectionSize (before after : Writing) : Checked ErrorCode UInt16 :=
  if 65535 < after.offset - before.offset then .fail .invalidFrameSize
  else .done (UInt16.ofNat (after.offset - before.offset))

/-- The first octets of the header, which have a checksum of their own. -/
def headerStart : List UInt8 := [0xAE, 0xDD, 1, 0, 0, 0]

/-- The rest of the header. -/
def headerRest (headerCrc : UInt16) (payloadCrc : UInt32)
    (deviceSize addressSize associationSize objectSize : UInt16) : List UInt8 :=
  [highByte headerCrc, lowByte headerCrc, getByte payloadCrc 3, getByte payloadCrc 2,
    getByte payloadCrc 1, getByte payloadCrc 0, highByte deviceSize, lowByte deviceSize,
    highByte addressSize, lowByte addressSize, highByte associationSize, lowByte associationSize,
    highByte objectSize, lowByte objectSize]

/-- `_writeVersion1Format`. -/
def writeVersion1Format (s : EtsConfigLoader) (buffer : List UInt8) :
    Checked ErrorCode Writing :=
  let start : Writing := { buffer := buffer, offset := 20 }
  if start.maxSize < 20 then .fail .bufferTooSmall
  else do
    let device ← writeDeviceConfig s start
    let deviceSize ← sectionSize start device
    let addresses ← writeAddressTable s device
    let addressSize ← sectionSize device addresses
    let associations ← writeAssociationTable s addresses
    let associationSize ← sectionSize addresses associations
    let objects ← writeGroupObjectTable s associations
    let objectSize ← sectionSize associations objects
    let payloadCrc := crc32 (slice objects.buffer 20 (objects.offset - 20))
    let buffer ← writeAll objects.buffer 0 headerStart
    let headerCrc := crc16Ccitt (slice buffer 0 6)
    let buffer ← writeAll buffer 6
      (headerRest headerCrc payloadCrc deviceSize addressSize associationSize objectSize)
    return { buffer := buffer, offset := objects.offset }

/-- `saveToBuffer`: the buffer, and how much of it was written. -/
def saveToBuffer (s : EtsConfigLoader) (buffer : List UInt8) : Checked ErrorCode Writing :=
  if buffer = [] then .fail .invalidParameter
  else if s.isValid = false then .fail .notInitialized
  else writeVersion1Format s buffer

/-! ## One section -/

/-- The tables each serialise to at most 65535 octets. -/
structure Serialisable (s : EtsConfigLoader) : Prop where
  addresses : 2 + s.addressTable.length * 2 ≤ 65535
  associations : 2 + s.associationTable.length * 2 ≤ 65535
  objects : 2 + s.groupObjects.length * 5 ≤ 65535

@[simp] theorem length_deviceOctets (device : DeviceConfig) : (deviceOctets device).length = 10 := rfl

@[simp] theorem length_headerRest (headerCrc : UInt16) (payloadCrc : UInt32)
    (deviceSize addressSize associationSize objectSize : UInt16) :
    (headerRest headerCrc payloadCrc deviceSize addressSize associationSize objectSize).length = 14 :=
  rfl

theorem length_tableOctets {α : Type} {entryOctets : α → List UInt8} {entrySize : Nat}
    (h : ∀ entry, (entryOctets entry).length = entrySize) (entries : List α) :
    (tableOctets entryOctets entries).length = 2 + entries.length * entrySize := by
  rw [tableOctets, List.length_append, length_flatMap h]
  rfl

theorem toNat_requiredSize {s : EtsConfigLoader} (h : Serialisable s) :
    s.calculateRequiredSize.toNat = 20 + 10 + (2 + s.addressTable.length * 2)
      + (2 + s.associationTable.length * 2) + (2 + s.groupObjects.length * 5) := by
  have haddresses := h.addresses
  have hassociations := h.associations
  have hobjects := h.objects
  have htwo : (2 : UInt32).toNat = 2 := rfl
  have hconst : (20 + 10 : UInt32).toNat = 30 := rfl
  simp only [EtsConfigLoader.calculateRequiredSize, UInt32.toNat_add, UInt32.toNat_ofNat', htwo,
    hconst]
  omega

theorem emit_eq (front part back octets : List UInt8) (h : part.length = octets.length) :
    Writing.emit { buffer := front ++ part ++ back, offset := front.length } octets
      = .done { buffer := front ++ octets ++ back, offset := (front ++ octets).length } := by
  rw [Writing.emit, writeAll_append front part back octets h, Checked.done_bind, List.length_append]
  rfl

theorem emit_of_le {front left octets : List UInt8} (h : octets.length ≤ left.length) :
    Writing.emit { buffer := front ++ left, offset := front.length } octets
      = .done { buffer := front ++ octets ++ left.drop octets.length
                offset := (front ++ octets).length } := by
  have hpart : (left.take octets.length).length = octets.length := by
    rw [List.length_take]
    omega
  have hemit := emit_eq front (left.take octets.length) (left.drop octets.length) octets hpart
  rw [List.append_assoc, List.take_append_drop] at hemit
  exact hemit

theorem guarded_emit_eq {front left octets : List UInt8} {needed : Nat}
    (hsize : (front ++ left).length < 2 ^ 32) (hneeded : needed = octets.length) :
    (if Writing.maxSize { buffer := front ++ left, offset := front.length } < front.length + needed then
        (.fail .bufferTooSmall : Checked ErrorCode Writing)
      else Writing.emit { buffer := front ++ left, offset := front.length } octets)
      = if left.length < octets.length then .fail .bufferTooSmall
        else .done { buffer := front ++ octets ++ left.drop octets.length
                     offset := (front ++ octets).length } := by
  have hmax : Writing.maxSize { buffer := front ++ left, offset := front.length }
      = front.length + left.length := by
    rw [Writing.maxSize, Nat.mod_eq_of_lt hsize, List.length_append]
  rw [hmax]
  by_cases hroom : left.length < octets.length
  · rw [if_pos hroom, if_pos (by omega)]
  · rw [if_neg hroom, if_neg (by omega), emit_of_le (Nat.le_of_not_lt hroom)]

theorem writeDeviceConfig_eq (s : EtsConfigLoader) {front left : List UInt8}
    (hsize : (front ++ left).length < 2 ^ 32) :
    writeDeviceConfig s { buffer := front ++ left, offset := front.length }
      = if left.length < (deviceOctets s.deviceConfig).length then .fail .bufferTooSmall
        else .done { buffer := front ++ deviceOctets s.deviceConfig
                       ++ left.drop (deviceOctets s.deviceConfig).length
                     offset := (front ++ deviceOctets s.deviceConfig).length } :=
  guarded_emit_eq hsize rfl

theorem writeTable_eq {α : Type} {entrySize : Nat} {entryOctets : α → List UInt8} {entries : List α}
    (hentry : ∀ entry, (entryOctets entry).length = entrySize) (hcount : entries.length < 2 ^ 16)
    {front left : List UInt8} (hsize : (front ++ left).length < 2 ^ 32) :
    writeTable entrySize entryOctets entries { buffer := front ++ left, offset := front.length }
      = if left.length < (tableOctets entryOctets entries).length then .fail .bufferTooSmall
        else .done { buffer := front ++ tableOctets entryOctets entries
                       ++ left.drop (tableOctets entryOctets entries).length
                     offset := (front ++ tableOctets entryOctets entries).length } := by
  have hnarrowed : (UInt16.ofNat entries.length).toNat = entries.length := by
    rw [UInt16.toNat_ofNat']
    exact Nat.mod_eq_of_lt hcount
  rw [writeTable, hnarrowed, Nat.add_assoc]
  exact guarded_emit_eq hsize (length_tableOctets hentry entries).symm

theorem sectionSize_eq {front octets buffer buffer' : List UInt8} (h : octets.length ≤ 65535) :
    sectionSize { buffer := buffer, offset := front.length }
        { buffer := buffer', offset := (front ++ octets).length }
      = .done (UInt16.ofNat octets.length) := by
  have hdifference : (front ++ octets).length - front.length = octets.length := by
    rw [List.length_append, Nat.add_sub_cancel_left]
  rw [sectionSize, hdifference, if_neg (by omega)]

theorem section_step {writer : Writing → Checked ErrorCode Writing} {front left octets : List UInt8}
    (hwriter : writer { buffer := front ++ left, offset := front.length }
      = if left.length < octets.length then .fail .bufferTooSmall
        else .done { buffer := front ++ octets ++ left.drop octets.length
                     offset := (front ++ octets).length })
    (h : octets.length ≤ 65535) (next : Writing → UInt16 → Checked ErrorCode Writing) :
    (writer { buffer := front ++ left, offset := front.length } >>= fun after =>
        sectionSize { buffer := front ++ left, offset := front.length } after >>= fun size =>
          next after size)
      = if left.length < octets.length then .fail .bufferTooSmall
        else next { buffer := front ++ octets ++ left.drop octets.length
                    offset := (front ++ octets).length } (UInt16.ofNat octets.length) := by
  rw [hwriter]
  by_cases hroom : left.length < octets.length
  · rw [if_pos hroom, if_pos hroom, Checked.fail_bind]
  · rw [if_neg hroom, if_neg hroom, Checked.done_bind, sectionSize_eq h, Checked.done_bind]

/-! ## The file -/

section File

variable (s : EtsConfigLoader)

/-- The address table of a file. -/
def addressPart : List UInt8 := tableOctets addressOctets s.addressTable

/-- The association table of a file. -/
def associationPart : List UInt8 := tableOctets associationOctets s.associationTable

/-- The group object table of a file. -/
def objectPart : List UInt8 := tableOctets groupObjectOctets s.groupObjects

/-- What stands behind the header. -/
def payloadOctets : List UInt8 :=
  deviceOctets s.deviceConfig ++ addressPart s ++ associationPart s ++ objectPart s

/-- The header of a file. -/
def headerOctets : List UInt8 :=
  headerStart ++ headerRest (crc16Ccitt headerStart) (crc32 (payloadOctets s)) (UInt16.ofNat 10)
    (UInt16.ofNat (addressPart s).length) (UInt16.ofNat (associationPart s).length)
    (UInt16.ofNat (objectPart s).length)

/-- A file. -/
def fileOctets : List UInt8 := headerOctets s ++ payloadOctets s

end File

variable {s : EtsConfigLoader}

theorem length_addressPart (s : EtsConfigLoader) :
    (addressPart s).length = 2 + s.addressTable.length * 2 :=
  length_tableOctets length_addressOctets s.addressTable

theorem length_associationPart (s : EtsConfigLoader) :
    (associationPart s).length = 2 + s.associationTable.length * 2 :=
  length_tableOctets length_associationOctets s.associationTable

theorem length_objectPart (s : EtsConfigLoader) :
    (objectPart s).length = 2 + s.groupObjects.length * 5 :=
  length_tableOctets length_groupObjectOctets s.groupObjects

theorem length_fileOctets (h : Serialisable s) :
    (fileOctets s).length = s.calculateRequiredSize.toNat := by
  rw [toNat_requiredSize h, fileOctets, payloadOctets, List.length_append, List.length_append,
    List.length_append, List.length_append, length_addressPart, length_associationPart,
    length_objectPart]
  simp only [headerOctets, headerStart, List.length_append, length_headerRest, length_deviceOctets,
    List.length_cons, List.length_nil]
  omega

theorem writeHeader_eq (s : EtsConfigLoader) {front : List UInt8} (hfront : front.length = 20) :
    (writeAll (front ++ payloadOctets s) 0 headerStart >>= fun buffer =>
        writeAll buffer 6
          (headerRest (crc16Ccitt (slice buffer 0 6))
            (crc32 (slice (front ++ payloadOctets s) 20 ((front ++ payloadOctets s).length - 20)))
            (UInt16.ofNat (deviceOctets s.deviceConfig).length) (UInt16.ofNat (addressPart s).length)
            (UInt16.ofNat (associationPart s).length) (UInt16.ofNat (objectPart s).length)) >>=
          fun buffer => (.done { buffer := buffer, offset := (front ++ payloadOctets s).length } :
            Checked ErrorCode Writing))
      = .done { buffer := fileOctets s, offset := (fileOctets s).length } := by
  have hslice : slice (front ++ payloadOctets s) 20 ((front ++ payloadOctets s).length - 20)
      = payloadOctets s := by
    rw [slice, ← hfront, List.drop_left, List.length_append, Nat.add_sub_cancel_left,
      List.take_length]
  have hsix : (front.take 6).length = headerStart.length := by
    rw [List.length_take, hfront]
    rfl
  have hfourteen : (front.drop 6).length = 14 := by
    rw [List.length_drop, hfront]
  have hcut : front ++ payloadOctets s = [] ++ front.take 6 ++ (front.drop 6 ++ payloadOctets s) := by
    rw [List.nil_append, ← List.append_assoc, List.take_append_drop]
  have hstart : (writeAll (front ++ payloadOctets s) 0 headerStart : Checked ErrorCode (List UInt8))
      = .done (headerStart ++ front.drop 6 ++ payloadOctets s) := by
    rw [hcut, ← List.length_nil, writeAll_append [] (front.take 6) _ headerStart hsix,
      List.nil_append, List.append_assoc]
  have hchecked : slice (headerStart ++ front.drop 6 ++ payloadOctets s) 0 6 = headerStart := by
    rw [slice, List.append_assoc]
    rfl
  rw [hstart, Checked.done_bind, hchecked, hslice]
  have hrest : (writeAll (headerStart ++ front.drop 6 ++ payloadOctets s) 6
      (headerRest (crc16Ccitt headerStart) (crc32 (payloadOctets s))
        (UInt16.ofNat (deviceOctets s.deviceConfig).length) (UInt16.ofNat (addressPart s).length)
        (UInt16.ofNat (associationPart s).length) (UInt16.ofNat (objectPart s).length)) :
          Checked ErrorCode (List UInt8)) = .done (fileOctets s) :=
    writeAll_append headerStart (front.drop 6) (payloadOctets s) _ hfourteen
  have hlength : (front ++ payloadOctets s).length = (fileOctets s).length := by
    rw [fileOctets, headerOctets, List.length_append, List.length_append, List.length_append,
      length_headerRest, hfront]
    rfl
  rw [hlength, hrest]
  rfl

theorem writeVersion1Format_eq (h : Serialisable s) {front left : List UInt8}
    (hfront : front.length = 20) (hleft : left.length ≤ (payloadOctets s).length) :
    writeVersion1Format s (front ++ left)
      = if left.length < (payloadOctets s).length then .fail .bufferTooSmall
        else .done { buffer := fileOctets s, offset := (fileOctets s).length } := by
  have haddresses := h.addresses
  have hassociations := h.associations
  have hobjects := h.objects
  have hlength : (payloadOctets s).length = 10 + (addressPart s).length + (associationPart s).length
      + (objectPart s).length := by
    rw [payloadOctets, List.length_append, List.length_append, List.length_append]
    rfl
  have haddressPart := length_addressPart s
  have hassociationPart := length_associationPart s
  have hobjectPart := length_objectPart s
  have hsize : (front ++ left).length < 2 ^ 32 := by
    rw [List.length_append]
    omega
  have hstart : ¬ Writing.maxSize { buffer := front ++ left, offset := 20 } < 20 := by
    rw [Writing.maxSize, Nat.mod_eq_of_lt hsize, List.length_append]
    omega
  have hbegin : ({ buffer := front ++ left, offset := 20 } : Writing)
      = { buffer := front ++ left, offset := front.length } := by rw [hfront]
  -- One section after the other; the first one without room ends it.
  rw [List.length_append] at hsize
  have hdevice := writeDeviceConfig_eq s (by rw [List.length_append]; exact hsize)
  rw [writeVersion1Format]
  simp only
  rw [if_neg hstart, hbegin, section_step hdevice (by simp)]
  by_cases hroom₁ : left.length < (deviceOctets s.deviceConfig).length
  · rw [if_pos hroom₁, if_pos (by rw [length_deviceOctets] at hroom₁; omega)]
  rw [if_neg hroom₁]
  rw [length_deviceOctets] at hroom₁
  have haddress : writeAddressTable s _ = _ := writeTable_eq length_addressOctets (by omega)
    (show (front ++ deviceOctets s.deviceConfig
        ++ left.drop (deviceOctets s.deviceConfig).length).length < 2 ^ 32 by
      simp only [List.length_append, List.length_drop, length_deviceOctets]
      omega)
  rw [← addressPart] at haddress
  rw [section_step haddress (by omega)]
  by_cases hroom₂ : (left.drop (deviceOctets s.deviceConfig).length).length < (addressPart s).length
  · rw [if_pos hroom₂, if_pos (by rw [List.length_drop, length_deviceOctets] at hroom₂; omega)]
  rw [if_neg hroom₂]
  rw [List.length_drop, length_deviceOctets] at hroom₂
  have hassociation : writeAssociationTable s _ = _ :=
    writeTable_eq length_associationOctets (by omega)
      (show (front ++ deviceOctets s.deviceConfig ++ addressPart s
          ++ (left.drop (deviceOctets s.deviceConfig).length).drop (addressPart s).length).length
            < 2 ^ 32 by
        simp only [List.length_append, List.length_drop, length_deviceOctets]
        omega)
  rw [← associationPart] at hassociation
  rw [section_step hassociation (by omega)]
  by_cases hroom₃ : ((left.drop (deviceOctets s.deviceConfig).length).drop
      (addressPart s).length).length < (associationPart s).length
  · rw [if_pos hroom₃,
      if_pos (by rw [List.length_drop, List.length_drop, length_deviceOctets] at hroom₃; omega)]
  rw [if_neg hroom₃]
  rw [List.length_drop, List.length_drop, length_deviceOctets] at hroom₃
  have hobject : writeGroupObjectTable s _ = _ :=
    writeTable_eq length_groupObjectOctets (by omega)
      (show (front ++ deviceOctets s.deviceConfig ++ addressPart s ++ associationPart s
          ++ ((left.drop (deviceOctets s.deviceConfig).length).drop (addressPart s).length).drop
              (associationPart s).length).length < 2 ^ 32 by
        simp only [List.length_append, List.length_drop, length_deviceOctets]
        omega)
  rw [← objectPart] at hobject
  rw [section_step hobject (by omega)]
  by_cases hroom₄ : (((left.drop (deviceOctets s.deviceConfig).length).drop
      (addressPart s).length).drop (associationPart s).length).length < (objectPart s).length
  · rw [if_pos hroom₄, if_pos (by
      simp only [List.length_drop, length_deviceOctets] at hroom₄
      omega)]
  rw [if_neg hroom₄]
  simp only [List.length_drop, length_deviceOctets] at hroom₄
  -- All sections are there, and nothing is left of the buffer.
  have hnothing : (((left.drop (deviceOctets s.deviceConfig).length).drop
      (addressPart s).length).drop (associationPart s).length).drop (objectPart s).length = [] := by
    apply List.eq_nil_of_length_eq_zero
    simp only [List.length_drop, length_deviceOctets]
    omega
  have hpayload : front ++ deviceOctets s.deviceConfig ++ addressPart s ++ associationPart s
      ++ objectPart s = front ++ payloadOctets s := by
    simp only [payloadOctets, List.append_assoc]
  rw [hnothing, List.append_nil, hpayload, if_neg (by omega)]
  exact writeHeader_eq s hfront

theorem length_fileOctets_eq (s : EtsConfigLoader) :
    (fileOctets s).length = 20 + (payloadOctets s).length := by
  rw [fileOctets, headerOctets, List.length_append, List.length_append, length_headerRest]
  rfl

theorem saveToBuffer_valid (hvalid : s.isValid = true) {buffer : List UInt8} (hbuffer : buffer ≠ []) :
    saveToBuffer s buffer = writeVersion1Format s buffer := by
  rw [saveToBuffer, if_neg hbuffer, if_neg (by rw [hvalid]; simp)]

theorem saveToBuffer_of_eq (h : Serialisable s) (hvalid : s.isValid = true) {buffer : List UInt8}
    (hsize : buffer.length = s.calculateRequiredSize.toNat) :
    saveToBuffer s buffer = .done { buffer := fileOctets s, offset := (fileOctets s).length } := by
  have hrequired := length_fileOctets h
  have hheader := length_fileOctets_eq s
  have hfront : (buffer.take 20).length = 20 := by
    rw [List.length_take]
    omega
  have hleft : (buffer.drop 20).length = (payloadOctets s).length := by
    rw [List.length_drop]
    omega
  have hwritten := writeVersion1Format_eq h hfront (Nat.le_of_eq hleft)
  rw [List.take_append_drop, if_neg (by omega)] at hwritten
  rw [saveToBuffer_valid hvalid (List.length_pos_iff.mp (by omega)), hwritten]

theorem saveToBuffer_of_lt (h : Serialisable s) (hvalid : s.isValid = true) {buffer : List UInt8}
    (hsize : buffer.length < s.calculateRequiredSize.toNat) :
    ∃ e, saveToBuffer s buffer = .fail e := by
  have hrequired := length_fileOctets h
  have hheader := length_fileOctets_eq s
  by_cases hempty : buffer = []
  · rw [hempty]
    exact ⟨.invalidParameter, rfl⟩
  rw [saveToBuffer_valid hvalid hempty]
  refine ⟨.bufferTooSmall, ?_⟩
  by_cases hshort : buffer.length < 20
  · have hmax : Writing.maxSize { buffer := buffer, offset := 20 } < 20 :=
      Nat.lt_of_le_of_lt (Nat.mod_le _ _) hshort
    rw [writeVersion1Format]
    dsimp only
    rw [if_pos hmax]
  · have hfront : (buffer.take 20).length = 20 := by
      rw [List.length_take]
      omega
    have hleft : (buffer.drop 20).length < (payloadOctets s).length := by
      rw [List.length_drop]
      omega
    have hwritten := writeVersion1Format_eq h hfront (Nat.le_of_lt hleft)
    rw [List.take_append_drop, if_pos hleft] at hwritten
    exact hwritten

/-! ## Reading the file -/

theorem detectFormatVersion_fileOctets (s : EtsConfigLoader) :
    detectFormatVersion (fileOctets s) = 1 := by
  have hlength := length_fileOctets_eq s
  have hmagic : wordAt (fileOctets s) 0 = joinBytes 0xAE 0xDD := rfl
  rw [detectFormatVersion, if_neg (by omega), hmagic, if_neg (by decide)]
  rfl

theorem validateFull_fileOctets (s : EtsConfigLoader) : validateFull (fileOctets s) = true := by
  have hlength := length_fileOctets_eq s
  have hmagic : wordAt (fileOctets s) 0 = 0xAEDD := by
    have hwritten : wordAt (fileOctets s) 0 = joinBytes 0xAE 0xDD := rfl
    rw [hwritten]
    decide
  have hversion := detectFormatVersion_fileOctets s
  have hheader : wordAt (fileOctets s) 6 = crc16Ccitt ((fileOctets s).take 6) :=
    joinBytes_highByte_lowByte (crc16Ccitt headerStart)
  have hpayload : dwordAt (fileOctets s) 8 = crc32 ((fileOctets s).drop 20) :=
    makeDword_getByte (crc32 (payloadOctets s))
  rw [validateFull, hmagic, hversion, if_neg (by simp; omega), if_neg (by decide),
    if_neg (not_not_intro hheader), if_neg (fun h => h.2 hpayload)]

theorem octetAt_tableOctets {α : Type} {entryOctets : α → List UInt8} {entrySize : Nat}
    (hentry : ∀ entry, (entryOctets entry).length = entrySize) {entries : List α}
    (front back : List UInt8) {i k : Nat} {entry : α} (hi : entries[i]? = some entry)
    (hk : k < entrySize) :
    octetAt (front ++ tableOctets entryOctets entries ++ back)
        (front.length + 2 + i * entrySize + k)
      = (entryOctets entry).getD k 0 := by
  have hblock := getElem?_flatMap hentry entries i hk
  rw [hi, Option.bind_some] at hblock
  have hlt : entrySize * i + k < (entries.flatMap entryOctets).length := by
    rw [length_flatMap hentry]
    have hle := Nat.mul_le_mul_right entrySize (Nat.succ_le_of_lt (List.getElem?_eq_some_iff.mp hi).1)
    rw [Nat.succ_mul] at hle
    rw [Nat.mul_comm]
    omega
  have hplace : front.length + 2 + i * entrySize + k - front.length = entrySize * i + k + 2 := by
    rw [Nat.mul_comm]
    omega
  rw [octetAt, List.getD_eq_getElem?_getD, List.getD_eq_getElem?_getD, List.append_assoc,
    List.getElem?_append_right (by omega), hplace, tableOctets, List.append_assoc, List.cons_append,
    List.cons_append, List.nil_append, List.getElem?_cons_succ, List.getElem?_cons_succ,
    List.getElem?_append_left hlt, hblock]

theorem parseTable_tableOctets {α : Type} {entryOctets : α → List UInt8} {entrySize : Nat}
    (hentry : ∀ entry, (entryOctets entry).length = entrySize) {entries : List α}
    (hcount : entries.length < 2 ^ 16) (front back : List UInt8) {parse : Nat → Nat → α}
    (hparse : ∀ i entry, entries[i]? = some entry →
      parse i (front.length + 2 + i * entrySize) = entry) :
    parseTable entrySize parse (front ++ tableOctets entryOctets entries ++ back) front.length
      = some entries := by
  have hsecond : front.length + 1 - front.length = 1 :=
    Nat.add_sub_cancel_left front.length 1
  have hword : wordAt (front ++ tableOctets entryOctets entries ++ back) front.length
      = UInt16.ofNat entries.length := by
    rw [wordAt, octetAt, octetAt, List.getD_eq_getElem?_getD, List.getD_eq_getElem?_getD,
      List.append_assoc, List.getElem?_append_right (Nat.le_refl _),
      List.getElem?_append_right (Nat.le_add_right _ 1), Nat.sub_self, hsecond]
    exact joinBytes_highByte_lowByte (UInt16.ofNat entries.length)
  have hnumber : (UInt16.ofNat entries.length).toNat = entries.length := by
    rw [UInt16.toNat_ofNat']
    exact Nat.mod_eq_of_lt hcount
  rw [parseTable_eq_some_iff, hword, hnumber]
  constructor
  · rw [List.length_append, List.length_append, length_tableOctets hentry]
    omega
  · apply List.ext_getElem?
    intro i
    rw [List.getElem?_map]
    cases hi : entries[i]? with
    | none =>
      rw [List.getElem?_eq_none (by rw [List.length_range]; exact List.getElem?_eq_none_iff.mp hi)]
      rfl
    | some entry =>
      rw [List.getElem?_range (List.getElem?_eq_some_iff.mp hi).1, Option.map_some, hparse i entry hi]

theorem wordAt_eq {buffer : List UInt8} {place : Nat} {w : UInt16}
    (hhigh : octetAt buffer place = highByte w) (hlow : octetAt buffer (place + 1) = lowByte w) :
    wordAt buffer place = w := by
  rw [wordAt, hhigh, hlow, joinBytes_highByte_lowByte]

section Sections

variable (front back : List UInt8)

theorem parseAddressTable_addressPart (hnumbered : Numbered s) (h : Serialisable s) :
    parseAddressTable (front ++ addressPart s ++ back) front.length = some s.addressTable := by
  have hcount := h.addresses
  refine parseTable_tableOctets length_addressOctets (by omega) front back ?_
  intro i entry hi
  have hoctet := fun k hk => octetAt_tableOctets length_addressOctets front back hi (k := k) hk
  have hword : wordAt (front ++ addressPart s ++ back) (front.length + 2 + i * 2)
      = entry.groupAddress.raw := wordAt_eq (hoctet 0 (by decide)) (hoctet 1 (by decide))
  rw [hword, ← hnumbered.addresses i entry hi]

theorem parseAssociationTable_associationPart (hnumbered : Numbered s) (h : Serialisable s) :
    parseAssociationTable (front ++ associationPart s ++ back) front.length
      = some s.associationTable := by
  have hcount := h.associations
  refine parseTable_tableOctets length_associationOctets (by omega) front back ?_
  intro i entry hi
  obtain ⟨hasap, hobject⟩ := hnumbered.associations i entry hi
  have hoctet := fun k hk => octetAt_tableOctets length_associationOctets front back hi (k := k) hk
  have hindex : octetAt (front ++ associationPart s ++ back) (front.length + 2 + i * 2)
      = lowByte entry.groupObjectIndex := hoctet 0 (by decide)
  have hpriority : octetAt (front ++ associationPart s ++ back) (front.length + 2 + i * 2 + 1)
      = entry.priority := hoctet 1 (by decide)
  -- The object is one octet, as every association of a loader has it.
  have hsame : (lowByte entry.groupObjectIndex).toUInt16 = entry.groupObjectIndex := by
    apply UInt16.toNat_inj.mp
    rw [UInt8.toNat_toUInt16, toNat_lowByte, Nat.mod_eq_of_lt hobject]
  rw [hindex, hpriority, hsame, ← hasap]

theorem parseGroupObjectTable_objectPart (hnumbered : Numbered s) (h : Serialisable s) :
    parseGroupObjectTable (front ++ objectPart s ++ back) front.length = some s.groupObjects := by
  have hcount := h.objects
  refine parseTable_tableOctets length_groupObjectOctets (by omega) front back ?_
  intro i entry hi
  have hoctet := fun k hk => octetAt_tableOctets length_groupObjectOctets front back hi (k := k) hk
  have hdpt : wordAt (front ++ objectPart s ++ back) (front.length + 2 + i * 5) = entry.dpt :=
    wordAt_eq (hoctet 0 (by decide)) (hoctet 1 (by decide))
  have hflags : octetAt (front ++ objectPart s ++ back) (front.length + 2 + i * 5 + 2)
      = entry.flags := hoctet 2 (by decide)
  have hinitial : wordAt (front ++ objectPart s ++ back) (front.length + 2 + i * 5 + 3)
      = entry.initialValue := wordAt_eq (hoctet 3 (by decide)) (hoctet 4 (by decide))
  rw [hdpt, hflags, hinitial, ← hnumbered.objects i entry hi]

end Sections

theorem parseDeviceConfig_fileOctets (s : EtsConfigLoader) :
    parseDeviceConfig (fileOctets s) 20 = some s.deviceConfig := by
  have hlength := length_fileOctets_eq s
  have hpayload : 10 ≤ (payloadOctets s).length := by
    rw [payloadOctets, List.append_assoc, List.append_assoc, List.length_append, length_deviceOctets]
    omega
  have haddress : wordAt (fileOctets s) 20 = s.deviceConfig.individualAddress.raw :=
    joinBytes_highByte_lowByte _
  have hmanufacturer : wordAt (fileOctets s) 22 = s.deviceConfig.manufacturerId :=
    joinBytes_highByte_lowByte _
  have hserial : dwordAt (fileOctets s) 24 = s.deviceConfig.serialNumber := makeDword_getByte _
  rw [parseDeviceConfig, if_neg (by omega), haddress, hmanufacturer, hserial]
  rfl

theorem wordAt_sizes (h : Serialisable s) :
    (wordAt (fileOctets s) 12).toNat = 10 ∧
      (wordAt (fileOctets s) 14).toNat = (addressPart s).length ∧
      (wordAt (fileOctets s) 16).toNat = (associationPart s).length ∧
      (wordAt (fileOctets s) 18).toNat = (objectPart s).length := by
  have hwords : wordAt (fileOctets s) 12 = UInt16.ofNat 10 ∧
      wordAt (fileOctets s) 14 = UInt16.ofNat (addressPart s).length ∧
      wordAt (fileOctets s) 16 = UInt16.ofNat (associationPart s).length ∧
      wordAt (fileOctets s) 18 = UInt16.ofNat (objectPart s).length :=
    ⟨joinBytes_highByte_lowByte _, joinBytes_highByte_lowByte _, joinBytes_highByte_lowByte _,
      joinBytes_highByte_lowByte _⟩
  have haddresses := h.addresses
  have hassociations := h.associations
  have hobjects := h.objects
  obtain ⟨hdevice, haddress, hassociation, hobject⟩ := hwords
  rw [hdevice, haddress, hassociation, hobject, length_addressPart, length_associationPart,
    length_objectPart]
  refine ⟨rfl, ?_, ?_, ?_⟩
  all_goals
    rw [UInt16.toNat_ofNat']
    exact Nat.mod_eq_of_lt (by omega)

theorem readSections_fileOctets (hnumbered : Numbered s) (h : Serialisable s) :
    readSections (fileOctets s)
      = { device := .read s.deviceConfig, addresses := .read s.addressTable
          associations := .read s.associationTable, objects := .read s.groupObjects } := by
  obtain ⟨hdeviceSize, haddressSize, hassociationSize, hobjectSize⟩ := wordAt_sizes h
  have haddressPart := length_addressPart s
  have hassociationPart := length_associationPart s
  have hobjectPart := length_objectPart s
  have hfile := length_fileOctets_eq s
  have hpayload : (payloadOctets s).length = 10 + (addressPart s).length + (associationPart s).length
      + (objectPart s).length := by
    rw [payloadOctets, List.length_append, List.length_append, List.length_append]
    rfl
  -- Nothing that is declared is skipped, so every parser begins where its section does.
  have hdevice : devicePresent (fileOctets s) = true := by
    rw [devicePresent_iff, addressStart]
    omega
  have haddressOffset : addressOffset (fileOctets s)
      = (headerOctets s ++ deviceOctets s.deviceConfig).length := by
    rw [addressOffset_eq fun _ => hdevice, addressStart, hdeviceSize]
    rfl
  have hfront : (headerOctets s ++ deviceOctets s.deviceConfig).length = 30 := rfl
  have haddress : addressPresent (fileOctets s) = true := by
    rw [addressPresent, tablePresent_iff]
    omega
  have hassociationOffset : associationOffset (fileOctets s)
      = (headerOctets s ++ deviceOctets s.deviceConfig ++ addressPart s).length := by
    rw [associationOffset, haddress, if_pos rfl, haddressOffset, haddressSize]
    exact List.length_append.symm
  have hassociation : associationPresent (fileOctets s) = true := by
    rw [associationPresent, tablePresent_iff, hassociationOffset, List.length_append]
    omega
  have hobjectOffset : groupObjectOffset (fileOctets s)
      = (headerOctets s ++ deviceOctets s.deviceConfig ++ addressPart s
          ++ associationPart s).length := by
    rw [groupObjectOffset, hassociation, if_pos rfl, hassociationOffset,
      hassociationSize]
    exact List.length_append.symm
  have hobject : groupObjectPresent (fileOctets s) = true := by
    rw [groupObjectPresent, tablePresent_iff, hobjectOffset, List.length_append, List.length_append]
    omega
  have haddresses : parseAddressTable (fileOctets s) (addressOffset (fileOctets s))
      = some s.addressTable := by
    have hparsed := parseAddressTable_addressPart (headerOctets s ++ deviceOctets s.deviceConfig)
      (associationPart s ++ objectPart s) hnumbered h
    rw [haddressOffset, ← hparsed]
    simp only [fileOctets, payloadOctets, List.append_assoc]
  have hassociations : parseAssociationTable (fileOctets s) (associationOffset (fileOctets s))
      = some s.associationTable := by
    have hparsed := parseAssociationTable_associationPart
      (headerOctets s ++ deviceOctets s.deviceConfig ++ addressPart s) (objectPart s) hnumbered h
    rw [hassociationOffset, ← hparsed]
    simp only [fileOctets, payloadOctets, List.append_assoc]
  have hobjects : parseGroupObjectTable (fileOctets s) (groupObjectOffset (fileOctets s))
      = some s.groupObjects := by
    have hparsed := parseGroupObjectTable_objectPart
      (headerOctets s ++ deviceOctets s.deviceConfig ++ addressPart s ++ associationPart s) []
      hnumbered h
    rw [hobjectOffset, ← hparsed]
    simp only [fileOctets, payloadOctets, List.append_assoc, List.append_nil]
  rw [readSections, if_neg (by omega), hdevice, haddress, hassociation, hobject,
    parseDeviceConfig_fileOctets, haddresses, hassociations, hobjects]
  rfl

/-! ## Saving and loading -/

/-- The round trip. A loader after any files, as long as it is valid and each of its tables fits in a
section: a buffer of the required size takes the file, which validates and loads as the same configuration;
every smaller buffer is refused, and no write is outside of it. -/
theorem save_round_trip {files : List (List UInt8 × ValidationLevel)}
    (hvalid : (loadFiles files).isValid = true) (h : Serialisable (loadFiles files)) :
    (∀ buffer : List UInt8, buffer.length = (loadFiles files).calculateRequiredSize.toNat →
      ∃ file, saveToBuffer (loadFiles files) buffer
          = .done { buffer := file
                    offset := (loadFiles files).calculateRequiredSize.toNat } ∧
        file.length = (loadFiles files).calculateRequiredSize.toNat ∧ validateFull file = true ∧
        (loadFromBuffer {} file .full).2 = none ∧
        (loadFromBuffer {} file .full).1.configuration = (loadFiles files).configuration) ∧
      ∀ buffer : List UInt8, buffer.length < (loadFiles files).calculateRequiredSize.toNat →
        ∃ e, saveToBuffer (loadFiles files) buffer = .fail e := by
  have hnumbered := numbered_loadFiles files
  have hsections := readSections_fileOctets hnumbered h
  have hlength := length_fileOctets h
  have hvalidated := validateFull_fileOctets (loadFiles files)
  have hparsed : ¬Refused (fileOctets (loadFiles files)) .full := by
    have hversion := detectFormatVersion_fileOctets (loadFiles files)
    simp only [Refused, validateFormat, hvalidated, hversion]
    simp [fileOctets, headerOctets, headerStart]
  obtain ⟨hconfiguration, hloaded, -⟩ := loadFromBuffer_parsed hparsed {}
  rw [hsections] at hconfiguration hloaded
  constructor
  · intro buffer hsize
    refine ⟨fileOctets (loadFiles files), ?_, hlength, hvalidated, ?_, hconfiguration⟩
    · rw [← hlength]
      exact saveToBuffer_of_eq h hvalid hsize
    · exact hloaded.mpr ⟨rfl, hnumbered.nonempty hvalid⟩
  · intro buffer hsize
    exact saveToBuffer_of_lt h hvalid hsize

/-- One group object, and no group address. -/
theorem save_round_trip_objectFile :
    (∀ buffer : List UInt8,
        buffer.length = (loadFiles [(objectFile, .full)]).calculateRequiredSize.toNat →
      ∃ file, saveToBuffer (loadFiles [(objectFile, .full)]) buffer
          = .done { buffer := file
                    offset := (loadFiles [(objectFile, .full)]).calculateRequiredSize.toNat } ∧
        file.length = (loadFiles [(objectFile, .full)]).calculateRequiredSize.toNat ∧
        validateFull file = true ∧ (loadFromBuffer {} file .full).2 = none ∧
        (loadFromBuffer {} file .full).1.configuration
          = (loadFiles [(objectFile, .full)]).configuration) ∧
      ∀ buffer : List UInt8,
        buffer.length < (loadFiles [(objectFile, .full)]).calculateRequiredSize.toNat →
          ∃ e, saveToBuffer (loadFiles [(objectFile, .full)]) buffer = .fail e :=
  save_round_trip (by decide +kernel)
    ⟨by decide +kernel, by decide +kernel, by decide +kernel⟩

end KnxStack.Ets
