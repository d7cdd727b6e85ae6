import KnxStack.Application.Apci
import KnxStack.Lib.Octets

/-!
# Memory services

`AddressSpace` and `MemoryService` (`application/address_space.cpp`,
`application/memory_service.cpp`) over the segments that `registerMemoryRegion` has bound to storage.
A segment carries the fact that its storage covers its region, so no access that the region contains
leaves the storage.

The services see the segments and nothing else of the device.
-/

set_option autoImplicit false

namespace KnxStack.Application

open KnxStack.Lib.Octets

/-! ## The address space -/

/-- `MemoryAccessMode`. -/
inductive MemoryAccessMode where
  | readOnly
  | writeOnly
  | readWrite
  | noAccess
  deriving DecidableEq, Repr

/-- `MemoryRegion`. -/
structure MemoryRegion where
  startAddress : UInt16
  size : Nat
  accessMode : MemoryAccessMode
  deriving DecidableEq, Repr

namespace MemoryRegion

/-- `contains`. -/
def contains (region : MemoryRegion) (address : UInt16) : Bool :=
  region.startAddress.toNat ≤ address.toNat
    && address.toNat < region.startAddress.toNat + region.size

/-- `containsRange`. -/
def containsRange (region : MemoryRegion) (address : UInt16) (length : Nat) : Bool :=
  length != 0 && region.contains address
    && address.toNat + length ≤ region.startAddress.toNat + region.size

/-- Where an address lies in the storage of a region. -/
def offset (region : MemoryRegion) (address : UInt16) : Nat :=
  address.toNat - region.startAddress.toNat

theorem offset_add_le {region : MemoryRegion} {address : UInt16} {length : Nat}
    (h : region.containsRange address length = true) :
    region.offset address + length ≤ region.size := by
  simp only [containsRange, contains, Bool.and_eq_true, decide_eq_true_eq] at h
  rw [offset]
  omega

end MemoryRegion

/-- A region with its storage (`MemorySegmentBinding`). -/
structure MemorySegment where
  region : MemoryRegion
  storage : List UInt8
  covers : region.size ≤ storage.length
  written : Bool := false

/-- The registered segments. -/
abbrev Memory : Type := List MemorySegment

/-- `findRegion`. -/
def findRegion (memory : Memory) (address : UInt16) : Option MemoryRegion :=
  (memory.map MemorySegment.region).find? fun region => region.contains address

/-- `getAccessMode`. -/
def getAccessMode (memory : Memory) (address : UInt16) (length : UInt8) : MemoryAccessMode :=
  if length = 0 then .noAccess
  else
    match findRegion memory address with
    | none => .noAccess
    | some region =>
        if region.containsRange address length.toNat then region.accessMode else .noAccess

/-- `canRead` and `canWrite`: the range lies in the region of its first address, and the region
admits the direction. -/
def canAccess (memory : Memory) (accessType : AccessType) (address : UInt16) (length : UInt8) :
    Bool :=
  match getAccessMode memory address length, accessType with
  | .readWrite, _ => true
  | .readOnly, .read => true
  | .writeOnly, .write => true
  | _, _ => false

/-- The read callback of `registerMemoryRegion`. -/
def readMemory (memory : Memory) (address : UInt16) (length : Nat) : Option (List UInt8) :=
  (memory.find? fun segment => segment.region.containsRange address length).map fun segment =>
    slice segment.storage (segment.region.offset address) length

/-- A segment with octets written into its storage. -/
def MemorySegment.write (segment : MemorySegment) (address : UInt16) (data : List UInt8)
    (h : segment.region.containsRange address data.length = true) : MemorySegment :=
  { segment with
    storage := overwrite segment.storage (segment.region.offset address) data
    covers := by
      have hoffset := MemoryRegion.offset_add_le h
      have hcovers := segment.covers
      rw [length_overwrite (by omega)]
      exact hcovers
    written := true }

/-- The write callback of `registerMemoryRegion`: the first segment that contains the range. -/
def writeMemory (address : UInt16) (data : List UInt8) : Memory → Option Memory
  | [] => none
  | segment :: rest =>
      if h : segment.region.containsRange address data.length = true then
        some (segment.write address data h :: rest)
      else (writeMemory address data rest).map (segment :: ·)

/-! ## The services -/

/-- `MemoryAccessResult`. -/
inductive MemoryAccessResult where
  | success
  | regionNotFound
  | invalidLength
  | accessDenied
  deriving DecidableEq, Repr

/-- `validateAccess`. -/
def validateAccess (memory : Memory) (address : UInt16) (length : UInt8) (accessType : AccessType)
    (maxLength : Nat) : MemoryAccessResult :=
  if length = 0 ∨ maxLength < length.toNat then .invalidLength
  else if (findRegion memory address).isNone then .regionNotFound
  else if !canAccess memory accessType address length then .accessDenied
  else .success

/-- `MAX_MEMORY_BYTES`. -/
def maxMemoryBytes : Nat := 63

/-- `kMaxExtendedMemoryBytes`. -/
def maxExtendedMemoryBytes : Nat := min (Protocol.maxApduLength - 6) 250

/-- `handleReadRequest`: the octets that are answered, if the request is answered. -/
def handleMemoryReadRequest (memory : Memory) (count : UInt8) (address : UInt16) :
    Option (List UInt8) :=
  if validateAccess memory address count .read maxMemoryBytes = .success then
    readMemory memory address count.toNat
  else none

/-- `handleWriteRequest`: the octets that are answered are read back after the write. -/
def handleMemoryWriteRequest (memory : Memory) (count : UInt8) (address : UInt16)
    (data : List UInt8) : Memory × Option (List UInt8) :=
  if validateAccess memory address count .write maxMemoryBytes ≠ .success then (memory, none)
  else if data.length ≠ count.toNat then (memory, none)
  else
    match writeMemory address data memory with
    | none => (memory, none)
    | some memory' => (memory', readMemory memory' address count.toNat)

/-- `checkExtendedAccess`. The address has 24 bits, and a region 16. -/
def checkExtendedAccess (memory : Memory) (address : Nat) (count : UInt8) (accessType : AccessType) :
    KnxReturnCode :=
  if count = 0 ∨ maxExtendedMemoryBytes < count.toNat then .exceedsMaxApduLength
  else if 0xFFFF < address then .addressVoid
  else if 0x10000 < address + count.toNat then .addressVoid
  else
    let narrow := UInt16.ofNat address
    match validateAccess memory narrow count accessType maxExtendedMemoryBytes with
    | .success => .success
    | .invalidLength => .exceedsMaxApduLength
    | .regionNotFound => .addressVoid
    | .accessDenied =>
        match accessType, getAccessMode memory narrow count with
        | .read, .writeOnly => .accessWriteOnly
        | .write, .readOnly => .accessReadOnly
        | _, _ => .accessDenied

/-- `handleExtendedReadRequest`: the return code and the octets. -/
def handleExtendedReadRequest (memory : Memory) (count : UInt8) (address : Nat) :
    KnxReturnCode × List UInt8 :=
  match checkExtendedAccess memory address count .read with
  | .success =>
      match readMemory memory (UInt16.ofNat address) count.toNat with
      | none => (.memoryError, [])
      | some data => (.success, data)
  | code => (code, [])

/-- `handleExtendedWriteRequest`: the return code. -/
def handleExtendedWriteRequest (memory : Memory) (count : UInt8) (address : Nat)
    (data : List UInt8) : Memory × KnxReturnCode :=
  match checkExtendedAccess memory address count .write with
  | .success =>
      if data.length < count.toNat then (memory, .exceedsMaxApduLength)
      else
        match writeMemory (UInt16.ofNat address) (data.take count.toNat) memory with
        | none => (memory, .memoryError)
        | some memory' => (memory', .success)
  | code => (memory, code)

end KnxStack.Application
