import KnxStack.Application.MemoryService

/-!
# Registered memory regions

`registerMemoryRegion` enters a region in the address space and binds it to storage
(`application/application_layer.cpp`, `application/address_space.cpp`); the memory services
(`application/memory_service.cpp`) then look a request up twice, in the address space by its first
address for the permission and among the bound segments by its whole range for the storage. Sizes are
32-bit numbers, so the end of a region may wrap; such a region contains no address. The address space
takes more regions than there are bindings, so a region may also be known and have no storage.

The services over a map all of whose regions are bound are those of the managed device
(`handleMemoryReadRequest_toMemory` and the three like it).
-/

set_option autoImplicit false

namespace KnxStack.Application

open KnxStack.Lib.Octets

/-! ## Regions -/

/-- `MemoryRegion` with its 32-bit size. -/
structure RegionDescriptor where
  startAddress : UInt16
  size : UInt32
  accessMode : MemoryAccessMode
  deriving DecidableEq, Repr

namespace RegionDescriptor

/-- The first address after the region, as the source computes it. -/
def limit (r : RegionDescriptor) : Nat := (r.startAddress.toNat + r.size.toNat) % 2 ^ 32

/-- The last address of the region, as the source computes it. -/
def lastAddress (r : RegionDescriptor) : Nat :=
  (r.startAddress.toNat + r.size.toNat + (2 ^ 32 - 1)) % 2 ^ 32

/-- `contains`. -/
def contains (r : RegionDescriptor) (address : UInt16) : Bool :=
  decide (r.startAddress.toNat ≤ address.toNat) && decide (address.toNat < r.limit)

/-- `containsRange`. -/
def containsRange (r : RegionDescriptor) (address : UInt16) (length : UInt8) : Bool :=
  let endAddress := address.toNat + length.toNat - 1
  length != 0 && r.contains address && decide (r.startAddress.toNat ≤ endAddress)
    && decide (endAddress ≤ r.lastAddress)

/-- `overlaps`. -/
def overlaps (r other : RegionDescriptor) : Bool :=
  decide (r.startAddress.toNat ≤ other.lastAddress)
    && decide (other.startAddress.toNat ≤ r.lastAddress)

/-- The access mode admits the direction. -/
def permits (r : RegionDescriptor) (accessType : AccessType) : Bool :=
  match r.accessMode, accessType with
  | .readWrite, _ => true
  | .readOnly, .read => true
  | .writeOnly, .write => true
  | _, _ => false

/-- Where an address lies in the storage of a region. -/
def offset (r : RegionDescriptor) (address : UInt16) : Nat :=
  address.toNat - r.startAddress.toNat

/-- The region holds an address: it lies between the ends, and the end did not wrap. -/
def Holds (r : RegionDescriptor) (b : Nat) : Prop :=
  r.startAddress.toNat ≤ b ∧ b < r.startAddress.toNat + r.size.toNat ∧
    r.startAddress.toNat + r.size.toNat < 2 ^ 32

instance (r : RegionDescriptor) (b : Nat) : Decidable (r.Holds b) :=
  inferInstanceAs (Decidable (_ ∧ _ ∧ _))

theorem limit_of_fits {r : RegionDescriptor} (h : r.startAddress.toNat + r.size.toNat < 2 ^ 32) :
    r.limit = r.startAddress.toNat + r.size.toNat :=
  Nat.mod_eq_of_lt h

theorem limit_lt_of_wraps {r : RegionDescriptor}
    (h : ¬ r.startAddress.toNat + r.size.toNat < 2 ^ 32) : r.limit < r.startAddress.toNat := by
  have hsize := r.size.toNat_lt
  have hstart := r.startAddress.toNat_lt
  have hwrap : r.startAddress.toNat + r.size.toNat
      = (r.startAddress.toNat + r.size.toNat - 2 ^ 32) + 2 ^ 32 := by omega
  rw [limit, hwrap, Nat.add_mod_right, Nat.mod_eq_of_lt (by omega)]
  omega

theorem lastAddress_of_holds {r : RegionDescriptor} {b : Nat} (h : r.Holds b) :
    r.lastAddress = r.startAddress.toNat + r.size.toNat - 1 := by
  obtain ⟨hlow, hhigh, hfits⟩ := h
  have hwrap : r.startAddress.toNat + r.size.toNat + (2 ^ 32 - 1)
      = (r.startAddress.toNat + r.size.toNat - 1) + 2 ^ 32 := by omega
  rw [lastAddress, hwrap, Nat.add_mod_right, Nat.mod_eq_of_lt (by omega)]

theorem contains_iff (r : RegionDescriptor) (address : UInt16) :
    r.contains address = true ↔ r.Holds address.toNat := by
  simp only [contains, Holds, Bool.and_eq_true, decide_eq_true_eq]
  by_cases hfits : r.startAddress.toNat + r.size.toNat < 2 ^ 32
  · rw [limit_of_fits hfits]
    exact ⟨fun h => ⟨h.1, h.2, hfits⟩, fun h => ⟨h.1, h.2.1⟩⟩
  · have hlimit := limit_lt_of_wraps hfits
    constructor
    · rintro ⟨hlow, hhigh⟩
      omega
    · rintro ⟨-, -, hfits'⟩
      exact absurd hfits' hfits

/-- A range is contained when it is not empty and the region holds its first and last address. -/
theorem containsRange_iff (r : RegionDescriptor) (address : UInt16) (length : UInt8) :
    r.containsRange address length = true ↔
      0 < length.toNat ∧ r.Holds address.toNat ∧ r.Holds (address.toNat + length.toNat - 1) := by
  have hzero : length ≠ 0 ↔ 0 < length.toNat := by
    rw [Nat.pos_iff_ne_zero, ne_eq, ne_eq, ← UInt8.toNat_inj]
    rfl
  simp only [containsRange, Bool.and_eq_true, bne_iff_ne, contains_iff, decide_eq_true_eq, hzero]
  constructor
  · rintro ⟨⟨⟨hpos, hfirst⟩, hlow⟩, hhigh⟩
    rw [lastAddress_of_holds hfirst] at hhigh
    obtain ⟨-, hsize, hfits⟩ := id hfirst
    exact ⟨hpos, hfirst, hlow, by omega, hfits⟩
  · rintro ⟨hpos, hfirst, hlast⟩
    rw [lastAddress_of_holds hfirst]
    obtain ⟨hlow, hhigh, -⟩ := hlast
    exact ⟨⟨⟨hpos, hfirst⟩, hlow⟩, by omega⟩

theorem holds_of_containsRange {r : RegionDescriptor} {address : UInt16} {length : UInt8}
    (h : r.containsRange address length = true) {b : Nat} (hlow : address.toNat ≤ b)
    (hhigh : b < address.toNat + length.toNat) : r.Holds b := by
  obtain ⟨hpos, hfirst, hlast⟩ := (containsRange_iff r address length).mp h
  unfold Holds at *
  omega

theorem offset_add_le {r : RegionDescriptor} {address : UInt16} {length : UInt8}
    (h : r.containsRange address length = true) :
    r.offset address + length.toNat ≤ r.size.toNat := by
  obtain ⟨hpos, hfirst, hlast⟩ := (containsRange_iff r address length).mp h
  unfold Holds at hfirst hlast
  rw [offset]
  omega

theorem not_holds_both {r other : RegionDescriptor} (h : r.overlaps other = false) {b : Nat}
    (hr : r.Holds b) : ¬ other.Holds b := by
  intro hother
  rw [overlaps, lastAddress_of_holds hr, lastAddress_of_holds hother, Bool.and_eq_false_iff, decide_eq_false_iff_not,
    decide_eq_false_iff_not] at h
  unfold Holds at hr hother
  omega

end RegionDescriptor

/-! ## Registration -/

/-- `MemorySegmentBinding`: a region and storage of its own that covers it. -/
structure MemoryBinding where
  region : RegionDescriptor
  storage : List UInt8
  covers : region.size.toNat ≤ storage.length
  written : Bool := false

/-- The address space and the bindings of the application layer. The storage callbacks are wired by
the first registration; before it the address space is empty and no request comes to them. -/
structure MemoryMap where
  regions : List RegionDescriptor := []
  segments : List MemoryBinding := []

/-- `MAX_REGIONS`. -/
def maxRegions : Nat := 16

/-- `kMaxMemorySegments`. -/
def maxMemorySegments : Nat := 8

namespace MemoryMap

/-- `AddressSpace::addRegion`. -/
def addRegion (m : MemoryMap) (region : RegionDescriptor) : Result Unit × MemoryMap :=
  if maxRegions ≤ m.regions.length then (.error .resourceUnavailable, m)
  else if region.size = 0 then (.error .invalidParameter, m)
  else if m.regions.any fun r => r.overlaps region then (.error .operationFailed, m)
  else (.ok (), { m with regions := m.regions ++ [region] })

/-- `registerMemoryRegion`. A region that finds the bindings full stays in the address space. -/
def registerMemoryRegion (m : MemoryMap) (region : RegionDescriptor) (storage : List UInt8) :
    Result Unit × MemoryMap :=
  if h : region.size.toNat ≤ storage.length then
    match m.addRegion region with
    | (.error e, m) => (.error e, m)
    | (.ok (), m) =>
        if maxMemorySegments ≤ m.segments.length then (.error .resourceUnavailable, m)
        else (.ok (), { m with segments := m.segments ++ [⟨region, storage, h, false⟩] })
  else (.error .invalidParameter, m)

/-- The registrations a device makes, one after the other. -/
def registered (registrations : List (RegionDescriptor × List UInt8)) : MemoryMap :=
  registrations.foldl (fun m r => (m.registerMemoryRegion r.1 r.2).2) {}

/-! ## Lookups -/

/-- `findRegion`. -/
def findRegion (m : MemoryMap) (address : UInt16) : Option RegionDescriptor :=
  m.regions.find? fun r => r.contains address

/-- `getAccessMode`. -/
def getAccessMode (m : MemoryMap) (address : UInt16) (length : UInt8) : MemoryAccessMode :=
  if length = 0 then .noAccess
  else
    match m.findRegion address with
    | none => .noAccess
    | some r => if r.containsRange address length then r.accessMode else .noAccess

/-- `canRead` and `canWrite`. -/
def canAccess (m : MemoryMap) (accessType : AccessType) (address : UInt16) (length : UInt8) : Bool :=
  if length = 0 then false
  else
    match m.findRegion address with
    | none => false
    | some r => r.containsRange address length && r.permits accessType

/-- `validateAccess`. -/
def validateAccess (m : MemoryMap) (address : UInt16) (length : UInt8) (accessType : AccessType)
    (maxLength : Nat) : MemoryAccessResult :=
  if length = 0 ∨ maxLength < length.toNat then .invalidLength
  else if (m.findRegion address).isNone then .regionNotFound
  else if !m.canAccess accessType address length then .accessDenied
  else .success

/-- An access to the storage of a binding. -/
structure StorageAccess where
  direction : AccessType
  region : RegionDescriptor
  offset : Nat
  length : Nat
  deriving DecidableEq

/-- The read callback: the octets, and the access it makes. -/
def readStorage (m : MemoryMap) (address : UInt16) (length : UInt8) :
    Option (List UInt8 × StorageAccess) :=
  (m.segments.find? fun s => s.region.containsRange address length).map fun s =>
    (slice s.storage (s.region.offset address) length.toNat,
      ⟨.read, s.region, s.region.offset address, length.toNat⟩)

end MemoryMap

/-- A binding with octets written into its storage. -/
def MemoryBinding.write (s : MemoryBinding) (address : UInt16) (data : List UInt8)
    (h : s.region.offset address + data.length ≤ s.region.size.toNat) : MemoryBinding :=
  { s with
    storage := overwrite s.storage (s.region.offset address) data
    covers := by
      have hcovers := s.covers
      rw [length_overwrite (by omega)]
      exact hcovers
    written := true }

namespace MemoryMap

/-- The write callback: the first binding that contains the range. The length is given as an octet;
a request never has more data than one can count. -/
def writeSegments (address : UInt16) (data : List UInt8) (hlength : data.length < 256) :
    List MemoryBinding → Option (List MemoryBinding × StorageAccess)
  | [] => none
  | s :: rest =>
      if h : s.region.containsRange address (UInt8.ofNat data.length) = true then
        have hfits : s.region.offset address + data.length ≤ s.region.size.toNat := by
          have hle := RegionDescriptor.offset_add_le h
          rwa [UInt8.toNat_ofNat_of_lt' hlength] at hle
        some (s.write address data hfits :: rest,
          ⟨.write, s.region, s.region.offset address, data.length⟩)
      else (writeSegments address data hlength rest).map fun r => (s :: r.1, r.2)

end MemoryMap

/-! ## The services -/

/-- What the services send back. -/
inductive MemoryReply where
  | response (count : UInt8) (address : UInt16) (data : List UInt8)
  | extended (kind : AccessType) (returnCode : KnxReturnCode) (address : Nat) (data : List UInt8)
  deriving DecidableEq

/-- The octets of a reply. -/
def MemoryReply.data : MemoryReply → List UInt8
  | response _ _ data => data
  | extended _ _ _ data => data

/-- Outcome of a request: the result, the memory after it, what was sent and the accesses made. -/
structure Served where
  result : Result Unit
  map : MemoryMap
  replies : List MemoryReply := []
  accesses : List MemoryMap.StorageAccess := []

/-- `toErrorCode`. -/
def MemoryAccessResult.toErrorCode : MemoryAccessResult → Result Unit
  | .success => .ok ()
  | .regionNotFound => .error .invalidAddress
  | .invalidLength => .error .invalidParameter
  | .accessDenied => .error .operationNotSupported

namespace MemoryMap

/-- `handleReadRequest`. -/
def handleReadRequest (m : MemoryMap) (count : UInt8) (address : UInt16) : Served :=
  match m.validateAccess address count .read maxMemoryBytes with
  | .success =>
      match m.readStorage address count with
      | none => { result := .error .invalidAddress, map := m }
      | some (data, access) =>
          { result := .ok (), map := m, replies := [.response count address data]
            accesses := [access] }
  | denied => { result := denied.toErrorCode, map := m }

/-- `handleWriteRequest`: the answer is what is read back, from the region whatever its mode. -/
def handleWriteRequest (m : MemoryMap) (count : UInt8) (address : UInt16) (data : List UInt8) :
    Served :=
  match m.validateAccess address count .write maxMemoryBytes with
  | .success =>
      if h : data.length = count.toNat then
        match writeSegments address data (h ▸ count.toNat_lt) m.segments with
        | none => { result := .error .invalidAddress, map := m }
        | some (segments, access) =>
            let m' := { m with segments := segments }
            match m'.readStorage address count with
            | none => { result := .error .invalidAddress, map := m', accesses := [access] }
            | some (data', access') =>
                { result := .ok (), map := m', replies := [.response count address data']
                  accesses := [access, access'] }
      else { result := .error .invalidParameter, map := m }
  | denied => { result := denied.toErrorCode, map := m }

/-- `checkExtendedAccess`. -/
def checkExtendedAccess (m : MemoryMap) (address : Nat) (count : UInt8) (accessType : AccessType) :
    KnxReturnCode :=
  if count = 0 ∨ maxExtendedMemoryBytes < count.toNat then .exceedsMaxApduLength
  else if 0xFFFF < address then .addressVoid
  else if 0x10000 < address + count.toNat then .addressVoid
  else
    let narrow := UInt16.ofNat address
    match m.validateAccess narrow count accessType maxExtendedMemoryBytes with
    | .success => .success
    | .invalidLength => .exceedsMaxApduLength
    | .regionNotFound => .addressVoid
    | .accessDenied =>
        match accessType, m.getAccessMode narrow count with
        | .read, .writeOnly => .accessWriteOnly
        | .write, .readOnly => .accessReadOnly
        | _, _ => .accessDenied

/-- `handleExtendedReadRequest`. -/
def handleExtendedReadRequest (m : MemoryMap) (count : UInt8) (address : Nat) : Served :=
  match m.checkExtendedAccess address count .read with
  | .success =>
      match m.readStorage (UInt16.ofNat address) count with
      | none =>
          { result := .error .invalidAddress, map := m
            replies := [.extended .read .memoryError address []] }
      | some (data, access) =>
          { result := .ok (), map := m, replies := [.extended .read .success address data]
            accesses := [access] }
  | code =>
      { result := .error .invalidAddress, map := m, replies := [.extended .read code address []] }

/-- `handleExtendedWriteRequest`. -/
def handleExtendedWriteRequest (m : MemoryMap) (count : UInt8) (address : Nat)
    (data : List UInt8) : Served :=
  match m.checkExtendedAccess address count .write with
  | .success =>
      if data.length < count.toNat then
        { result := .error .invalidAddress, map := m
          replies := [.extended .write .exceedsMaxApduLength address []] }
      else
        match writeSegments (UInt16.ofNat address) (data.take count.toNat)
            (Nat.lt_of_le_of_lt (List.length_take_le _ _) count.toNat_lt) m.segments with
        | none =>
            { result := .error .invalidAddress, map := m
              replies := [.extended .write .memoryError address []] }
        | some (segments, access) =>
            { result := .ok (), map := { m with segments := segments }
              replies := [.extended .write .success address []], accesses := [access] }
  | code =>
      { result := .error .invalidAddress, map := m, replies := [.extended .write code address []] }

end MemoryMap

/-- The memory requests, with the count and the address the application layer reads from the frame. -/
inductive MemoryRequest where
  | read (count : UInt8) (address : UInt16)
  | write (count : UInt8) (address : UInt16) (data : List UInt8)
  | extendedRead (count : UInt8) (address : Nat)
  | extendedWrite (count : UInt8) (address : Nat) (data : List UInt8)

namespace MemoryRequest

/-- The octets a request asks for. -/
def count : MemoryRequest → UInt8
  | read count _ => count
  | write count _ _ => count
  | extendedRead count _ => count
  | extendedWrite count _ _ => count

/-- The first address of a request. -/
def first : MemoryRequest → Nat
  | read _ address => address.toNat
  | write _ address _ => address.toNat
  | extendedRead _ address => address
  | extendedWrite _ address _ => address

/-- The octets a request writes: as many as it counts. -/
def octets : MemoryRequest → List UInt8
  | write count _ data => data.take count.toNat
  | extendedWrite count _ data => data.take count.toNat
  | _ => []

/-- The direction of a request. -/
def direction : MemoryRequest → AccessType
  | read _ _ => .read
  | write _ _ _ => .write
  | extendedRead _ _ => .read
  | extendedWrite _ _ _ => .write

/-- One of the two extended services. -/
def isExtended : MemoryRequest → Bool
  | extendedRead _ _ => true
  | extendedWrite _ _ _ => true
  | _ => false

/-- The longest request of the service. -/
def maxLength (request : MemoryRequest) : Nat :=
  if request.isExtended then maxExtendedMemoryBytes else maxMemoryBytes

/-- An address of the request's range. -/
def Covers (request : MemoryRequest) (b : Nat) : Prop :=
  request.first ≤ b ∧ b < request.first + request.count.toNat

instance (request : MemoryRequest) (b : Nat) : Decidable (request.Covers b) :=
  inferInstanceAs (Decidable (_ ∧ _))

end MemoryRequest

namespace MemoryMap

/-- Serve a request. -/
def serve (m : MemoryMap) : MemoryRequest → Served
  | .read count address => m.handleReadRequest count address
  | .write count address data => m.handleWriteRequest count address data
  | .extendedRead count address => m.handleExtendedReadRequest count address
  | .extendedWrite count address data => m.handleExtendedWriteRequest count address data

/-- The memory after a sequence of requests. -/
def after (m : MemoryMap) (requests : List MemoryRequest) : MemoryMap :=
  requests.foldl (fun m request => (m.serve request).map) m

/-- The octet at an address. -/
def octetAt (m : MemoryMap) (b : Nat) : Option UInt8 :=
  (m.segments.find? fun s => decide (s.region.Holds b)).bind fun s =>
    s.storage[b - s.region.startAddress.toNat]?

end MemoryMap

/-! ## The services of a managed device

`MemoryService` over segments whose sizes do not wrap is what these services are once every region of
the address space is bound. -/

/-- The addresses of a region; a region whose end wraps has none. -/
def RegionDescriptor.toRegion (r : RegionDescriptor) : MemoryRegion where
  startAddress := r.startAddress
  size := if r.startAddress.toNat + r.size.toNat < 2 ^ 32 then r.size.toNat else 0
  accessMode := r.accessMode

theorem RegionDescriptor.contains_toRegion (r : RegionDescriptor) (address : UInt16) :
    r.toRegion.contains address = r.contains address := by
  rw [Bool.eq_iff_iff, contains_iff, MemoryRegion.contains, Bool.and_eq_true, decide_eq_true_iff,
    decide_eq_true_iff, toRegion, Holds]
  dsimp only
  split <;> omega

theorem RegionDescriptor.containsRange_toRegion (r : RegionDescriptor) (address : UInt16)
    (length : UInt8) :
    r.toRegion.containsRange address length.toNat = r.containsRange address length := by
  rw [Bool.eq_iff_iff, containsRange_iff, MemoryRegion.containsRange, contains_toRegion,
    Bool.and_eq_true, Bool.and_eq_true, bne_iff_ne, contains_iff, decide_eq_true_iff, toRegion]
  dsimp only
  unfold Holds
  split <;> omega

/-- A binding as a segment of the device. -/
def MemoryBinding.toSegment (s : MemoryBinding) : MemorySegment where
  region := s.region.toRegion
  storage := s.storage
  covers := by
    have hcovers := s.covers
    rw [RegionDescriptor.toRegion]
    dsimp only
    split <;> omega
  written := s.written

namespace MemoryMap

/-- The memory of the device. -/
def toMemory (m : MemoryMap) : Memory := m.segments.map MemoryBinding.toSegment

section Device

variable {m : MemoryMap}

theorem findRegion_toMemory (hbound : m.regions = m.segments.map MemoryBinding.region)
    (address : UInt16) :
    Application.findRegion m.toMemory address
      = (m.findRegion address).map RegionDescriptor.toRegion := by
  have hregions : m.toMemory.map MemorySegment.region
      = m.regions.map RegionDescriptor.toRegion := by
    rw [toMemory, hbound, List.map_map, List.map_map]
    rfl
  rw [Application.findRegion, hregions, List.find?_map, findRegion]
  congr 2
  funext r
  exact r.contains_toRegion address

theorem getAccessMode_toMemory (hbound : m.regions = m.segments.map MemoryBinding.region)
    (address : UInt16) (length : UInt8) :
    Application.getAccessMode m.toMemory address length = m.getAccessMode address length := by
  rw [Application.getAccessMode, getAccessMode, findRegion_toMemory hbound]
  cases m.findRegion address with
  | none => rfl
  | some r =>
    simp only [Option.map_some, RegionDescriptor.containsRange_toRegion]
    rfl

theorem canAccess_toMemory (hbound : m.regions = m.segments.map MemoryBinding.region)
    (accessType : AccessType) (address : UInt16) (length : UInt8) :
    Application.canAccess m.toMemory accessType address length
      = m.canAccess accessType address length := by
  unfold Application.canAccess canAccess
  rw [getAccessMode_toMemory hbound, getAccessMode]
  split_ifs with hzero
  · rfl
  · cases m.findRegion address with
    | none => rfl
    | some r =>
      dsimp only
      by_cases hrange : r.containsRange address length = true
      · rw [if_pos hrange, hrange, Bool.true_and]
        unfold RegionDescriptor.permits
        cases r.accessMode <;> cases accessType <;> rfl
      · rw [if_neg hrange, Bool.eq_false_iff.mpr hrange, Bool.false_and]

theorem validateAccess_toMemory (hbound : m.regions = m.segments.map MemoryBinding.region)
    (address : UInt16) (length : UInt8) (accessType : AccessType) (maxLength : Nat) :
    Application.validateAccess m.toMemory address length accessType maxLength
      = m.validateAccess address length accessType maxLength := by
  rw [Application.validateAccess, validateAccess, findRegion_toMemory hbound,
    canAccess_toMemory hbound, Option.isNone_map]

theorem readMemory_toMemory (m : MemoryMap) (address : UInt16) (length : UInt8) :
    readMemory m.toMemory address length.toNat = (m.readStorage address length).map Prod.fst := by
  have hsame : (fun s : MemoryBinding => s.toSegment.region.containsRange address length.toNat)
      = fun s => s.region.containsRange address length := by
    funext s
    exact s.region.containsRange_toRegion address length
  rw [readMemory, toMemory, List.find?_map, readStorage, Option.map_map, Option.map_map]
  change (m.segments.find? fun s : MemoryBinding =>
    s.toSegment.region.containsRange address length.toNat).map _ = _
  rw [hsame]
  rfl

theorem writeMemory_toMemory (address : UInt16) (data : List UInt8) (hlength : data.length < 256)
    (segments : List MemoryBinding) :
    writeMemory address data (segments.map MemoryBinding.toSegment)
      = (writeSegments address data hlength segments).map fun r =>
          r.1.map MemoryBinding.toSegment := by
  induction segments with
  | nil => rfl
  | cons s rest ih =>
    have hsame : s.toSegment.region.containsRange address data.length
        = s.region.containsRange address (UInt8.ofNat data.length) := by
      rw [← s.region.containsRange_toRegion, UInt8.toNat_ofNat_of_lt' hlength]
      rfl
    rw [List.map_cons, writeMemory, writeSegments]
    by_cases hrange : s.region.containsRange address (UInt8.ofNat data.length) = true
    · rw [dif_pos (hsame.trans hrange), dif_pos hrange]
      rfl
    · rw [dif_neg (fun h => hrange (hsame.symm.trans h)), dif_neg hrange, ih, Option.map_map,
        Option.map_map]
      rfl

theorem checkExtendedAccess_toMemory (hbound : m.regions = m.segments.map MemoryBinding.region)
    (address : Nat) (count : UInt8) (accessType : AccessType) :
    Application.checkExtendedAccess m.toMemory address count accessType
      = m.checkExtendedAccess address count accessType := by
  unfold Application.checkExtendedAccess
  simp only [validateAccess_toMemory hbound, getAccessMode_toMemory hbound]
  rfl

/-- A_Memory_Read of a device: the answer is that of `serve`. -/
theorem handleMemoryReadRequest_toMemory
    (hbound : m.regions = m.segments.map MemoryBinding.region) (count : UInt8) (address : UInt16) :
    handleMemoryReadRequest m.toMemory count address
      = ((m.serve (.read count address)).replies.map (·.data)).head? := by
  rw [handleMemoryReadRequest, validateAccess_toMemory hbound, readMemory_toMemory, serve,
    handleReadRequest]
  cases m.validateAccess address count .read maxMemoryBytes with
  | success =>
    rcases m.readStorage address count with _ | ⟨data, access⟩ <;> rfl
  | regionNotFound => rfl
  | invalidLength => rfl
  | accessDenied => rfl

theorem handleMemoryWriteRequest_toMemory
    (hbound : m.regions = m.segments.map MemoryBinding.region) (count : UInt8) (address : UInt16)
    (data : List UInt8) :
    handleMemoryWriteRequest m.toMemory count address data
      = ((m.serve (.write count address data)).map.toMemory,
          ((m.serve (.write count address data)).replies.map (·.data)).head?) := by
  rw [handleMemoryWriteRequest, validateAccess_toMemory hbound, serve, handleWriteRequest]
  cases m.validateAccess address count .write maxMemoryBytes with
  | success =>
    rw [if_neg (by simp)]
    by_cases hlength : data.length = count.toNat
    · have hshort : data.length < 256 := hlength ▸ count.toNat_lt
      rw [if_neg (by simp [hlength]), toMemory, writeMemory_toMemory address data hshort]
      simp only [hlength, dite_true]
      rcases hwrite : writeSegments address data hshort m.segments with _ | ⟨segments, access⟩
      · rfl
      · have hread := readMemory_toMemory { m with segments := segments } address count
        dsimp only [Option.map_some]
        change (_, readMemory (toMemory { m with segments := segments }) address count.toNat) = _
        rw [hread]
        rcases readStorage { m with segments := segments } address count with _ | ⟨data', access'⟩
          <;> rfl
    · rw [if_pos hlength]
      simp [hlength]
  | regionNotFound => rfl
  | invalidLength => rfl
  | accessDenied => rfl

theorem replies_extendedRead_toMemory
    (hbound : m.regions = m.segments.map MemoryBinding.region) (count : UInt8) (address : Nat) :
    (m.serve (.extendedRead count address)).replies
      = [.extended .read (Application.handleExtendedReadRequest m.toMemory count address).1 address
          (Application.handleExtendedReadRequest m.toMemory count address).2] := by
  rw [Application.handleExtendedReadRequest, checkExtendedAccess_toMemory hbound,
    readMemory_toMemory, serve, handleExtendedReadRequest]
  cases m.checkExtendedAccess address count .read with
  | success => rcases m.readStorage (UInt16.ofNat address) count with _ | ⟨data, access⟩ <;> rfl
  | _ => rfl

theorem serve_extendedWrite_toMemory
    (hbound : m.regions = m.segments.map MemoryBinding.region) (count : UInt8) (address : Nat)
    (data : List UInt8) :
    (m.serve (.extendedWrite count address data)).map.toMemory
        = (Application.handleExtendedWriteRequest m.toMemory count address data).1 ∧
      (m.serve (.extendedWrite count address data)).replies
        = [.extended .write
            (Application.handleExtendedWriteRequest m.toMemory count address data).2 address []] := by
  have hshort : (data.take count.toNat).length < 256 :=
    Nat.lt_of_le_of_lt (List.length_take_le _ _) count.toNat_lt
  have hwrite := writeMemory_toMemory (UInt16.ofNat address) (data.take count.toNat) hshort
    m.segments
  rw [Application.handleExtendedWriteRequest, checkExtendedAccess_toMemory hbound, serve,
    handleExtendedWriteRequest]
  cases m.checkExtendedAccess address count .write with
  | success =>
    dsimp only
    by_cases henough : data.length < count.toNat
    · rw [if_pos henough, if_pos henough]
      exact ⟨rfl, rfl⟩
    · rw [if_neg henough, if_neg henough]
      simp only [toMemory, hwrite]
      rcases writeSegments (UInt16.ofNat address) (data.take count.toNat) hshort m.segments
        with _ | ⟨segments, access⟩
      · exact ⟨rfl, rfl⟩
      · exact ⟨rfl, rfl⟩
  | _ => exact ⟨rfl, rfl⟩

end Device

end MemoryMap

end KnxStack.Application
