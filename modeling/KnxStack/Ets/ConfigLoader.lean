import KnxStack.Types
import KnxStack.Lib.Runs
import KnxStack.Lib.Words

/-!
# Loading an ETS configuration

`EtsConfigLoader` (`ets/ets_config_loader.cpp`) parses a configuration file into a device
configuration and three tables, and `FormatValidator` (`ets/ets_format_validator.cpp`) checks its header
and checksums before. A loader is used for one file after another.

What the sections of a file hold is a function of the file (`readSections`, `parseVersionedFormat_eq`).
A section that is missing leaves what was there before, and one that is broken leaves what the sections
before it have replaced.

- `load_lawful_iff`: when loading gives what a fresh loader gets, or else leaves everything as it was.
-/

set_option autoImplicit false

namespace KnxStack.Ets

open KnxStack.Lib KnxStack.Lib.Words

/-! ## The format -/

/-- The octet at an index. -/
def octetAt (buffer : List UInt8) (index : Nat) : UInt8 := buffer.getD index 0

/-- The big-endian word at an index. -/
def wordAt (buffer : List UInt8) (index : Nat) : UInt16 :=
  joinBytes (octetAt buffer index) (octetAt buffer (index + 1))

/-- The big-endian double word at an index. -/
def dwordAt (buffer : List UInt8) (index : Nat) : UInt32 :=
  ((octetAt buffer index).toUInt32 <<< 24) ||| ((octetAt buffer (index + 1)).toUInt32 <<< 16)
    ||| ((octetAt buffer (index + 2)).toUInt32 <<< 8) ||| (octetAt buffer (index + 3)).toUInt32

/-- One bit of CRC-16-CCITT. -/
def crc16Shift (crc : UInt16) : UInt16 :=
  if crc &&& 0x8000 ≠ 0 then (crc <<< 1) ^^^ 0x1021 else crc <<< 1

/-- `crc16_table`: the entries of polynomial 0x1021. -/
def crc16Table (index : UInt8) : UInt16 := crc16Shift^[8] (index.toUInt16 <<< 8)

/-- `crc16_ccitt`. -/
def crc16Ccitt (data : List UInt8) : UInt16 :=
  data.foldl (fun crc octet => (crc <<< 8) ^^^ crc16Table ((crc >>> 8).toUInt8 ^^^ octet)) 0xFFFF

/-- One bit of CRC-32. -/
def crc32Shift (crc : UInt32) : UInt32 :=
  if crc &&& 1 ≠ 0 then (crc >>> 1) ^^^ 0xEDB88320 else crc >>> 1

/-- `crc32_table`: the entries of polynomial 0x04C11DB7, reflected. -/
def crc32Table (index : UInt8) : UInt32 := crc32Shift^[8] index.toUInt32

/-- `crc32`. -/
def crc32 (data : List UInt8) : UInt32 :=
  ~~~ data.foldl (fun crc octet => (crc >>> 8) ^^^ crc32Table (crc ^^^ octet.toUInt32).toUInt8)
    0xFFFFFFFF

/-- `detectFormatVersion`. -/
def detectFormatVersion (buffer : List UInt8) : UInt8 :=
  if buffer.length < 3 then 0 else if wordAt buffer 0 ≠ 0xAEDD then 0 else octetAt buffer 2

/-- `validateFull`, where `valid` and `checksumValid` are the same. -/
def validateFull (buffer : List UInt8) : Bool :=
  if buffer.length < 20 ∨ wordAt buffer 0 ≠ 0xAEDD then false
  else if detectFormatVersion buffer = 0 ∨ 1 < detectFormatVersion buffer then false
  else if wordAt buffer 6 ≠ crc16Ccitt (buffer.take 6) then false
  else if 20 < buffer.length ∧ dwordAt buffer 8 ≠ crc32 (buffer.drop 20) then false
  else true

/-! ## The loader -/

/-- `EtsConfigLoader::ValidationLevel`. -/
inductive ValidationLevel where
  | noValidation
  | checksumOnly
  | full
  deriving DecidableEq, Repr

/-- `util::ErrorCode`, as far as loading returns it. -/
inductive LoadError where
  | invalidParameter
  | invalidFrameSize
  | checksumError
  | decodeFailed
  | operationNotSupported
  deriving DecidableEq, Repr

/-- `EtsConfigLoader::DeviceConfig`. -/
structure DeviceConfig where
  individualAddress : IndividualAddress := ⟨0⟩
  manufacturerId : UInt16 := 0
  serialNumber : UInt32 := 0
  appVersion : UInt8 := 0
  configured : UInt8 := 0
  deriving DecidableEq, Repr

/-- `EtsConfigLoader::AddressTableEntry`. -/
structure AddressTableEntry where
  groupAddress : GroupAddress
  asap : UInt8
  deriving DecidableEq, Repr

/-- `EtsConfigLoader::AssociationTableEntry`. -/
structure AssociationTableEntry where
  asap : UInt8
  groupObjectIndex : UInt16
  priority : UInt8
  deriving DecidableEq, Repr

/-- `EtsConfigLoader::GroupObjectConfig`. -/
structure GroupObjectConfig where
  index : UInt16
  dpt : UInt16
  flags : UInt8
  initialValue : UInt16
  deriving DecidableEq, Repr

/-- `EtsConfigLoader`. -/
structure EtsConfigLoader where
  deviceConfig : DeviceConfig := {}
  groupObjects : List GroupObjectConfig := []
  addressTable : List AddressTableEntry := []
  associationTable : List AssociationTableEntry := []
  isValid : Bool := false
  detectedFormatVersion : UInt8 := 0
  deriving DecidableEq, Repr

/-- `_validateFormat`. -/
def validateFormat (buffer : List UInt8) : ValidationLevel → Option LoadError
  | .full => if validateFull buffer then none else some .decodeFailed
  | .checksumOnly =>
      if detectFormatVersion buffer = 1 then
        if validateFull buffer then none else some .checksumError
      else some .operationNotSupported
  | .noValidation => none

/-- `_parseDeviceConfig`, up to the assignment. -/
def parseDeviceConfig (buffer : List UInt8) (offset : Nat) : Option DeviceConfig :=
  if buffer.length < offset + 10 then none
  else
    some
      { individualAddress := ⟨wordAt buffer offset⟩
        manufacturerId := wordAt buffer (offset + 2)
        serialNumber := dwordAt buffer (offset + 4)
        appVersion := octetAt buffer (offset + 8)
        configured := octetAt buffer (offset + 9) }

/-- A table: the number of its entries, and the entries of some size behind it. -/
def parseTable {α : Type} (entrySize : Nat) (entry : Nat → Nat → α) (buffer : List UInt8)
    (offset : Nat) : Option (List α) :=
  if buffer.length < offset + 2 then none
  else
    let count := (wordAt buffer offset).toNat
    if buffer.length < offset + 2 + count * entrySize then none
    else some ((List.range count).map fun i => entry i (offset + 2 + i * entrySize))

/-- `_parseAddressTable`, up to the assignment. -/
def parseAddressTable (buffer : List UInt8) (offset : Nat) : Option (List AddressTableEntry) :=
  parseTable 2 (fun i place => ⟨⟨wordAt buffer place⟩, UInt8.ofNat i⟩) buffer offset

/-- `_parseAssociationTable`, up to the assignment. -/
def parseAssociationTable (buffer : List UInt8) (offset : Nat) :
    Option (List AssociationTableEntry) :=
  parseTable 2 (fun i place => ⟨UInt8.ofNat i, (octetAt buffer place).toUInt16, octetAt buffer (place + 1)⟩)
    buffer offset

/-- `_parseGroupObjectTable`, up to the assignment. -/
def parseGroupObjectTable (buffer : List UInt8) (offset : Nat) : Option (List GroupObjectConfig) :=
  parseTable 5
    (fun i place => ⟨UInt16.ofNat i, wordAt buffer place, octetAt buffer (place + 2), wordAt buffer (place + 3)⟩)
    buffer offset

/-- A section of a file. -/
inductive Section (α : Type) where
  | missing
  | broken
  | read (value : α)
  deriving DecidableEq, Repr

/-- A section that is parsed if it is there. -/
def Section.of {α : Type} (present : Bool) (parsed : Option α) : Section α :=
  if !present then .missing
  else
    match parsed with
    | none => .broken
    | some value => .read value

/-- What a member is after its section. -/
def Section.replace {α : Type} (old : α) : Section α → α
  | .read value => value
  | .missing => old
  | .broken => old

/-- The device configuration is there if the file has all of its octets. -/
def devicePresent (buffer : List UInt8) : Bool :=
  0 < wordAt buffer 12 && 20 + (wordAt buffer 12).toNat ≤ buffer.length

/-- The place behind the device configuration. -/
def addressOffset (buffer : List UInt8) : Nat :=
  if devicePresent buffer then 20 + (wordAt buffer 12).toNat else 20

/-- A table is there if the file does not end before it. -/
def addressPresent (buffer : List UInt8) : Bool :=
  0 < wordAt buffer 14 && addressOffset buffer < buffer.length

/-- The place behind the address table. -/
def associationOffset (buffer : List UInt8) : Nat :=
  if addressPresent buffer then addressOffset buffer + (wordAt buffer 14).toNat
  else addressOffset buffer

def associationPresent (buffer : List UInt8) : Bool :=
  0 < wordAt buffer 16 && associationOffset buffer < buffer.length

/-- The place behind the association table. -/
def groupObjectOffset (buffer : List UInt8) : Nat :=
  if associationPresent buffer then associationOffset buffer + (wordAt buffer 16).toNat
  else associationOffset buffer

def groupObjectPresent (buffer : List UInt8) : Bool :=
  0 < wordAt buffer 18 && groupObjectOffset buffer < buffer.length

/-- `_parseVersionedFormat`: each section is assigned before the next one is parsed. -/
def parseVersionedFormat (s : EtsConfigLoader) (buffer : List UInt8) :
    EtsConfigLoader × Option LoadError :=
  if buffer.length < 20 then (s, some .invalidFrameSize)
  else
    match Section.of (devicePresent buffer) (parseDeviceConfig buffer 20) with
    | .broken => (s, some .invalidFrameSize)
    | device =>
        let s := { s with deviceConfig := device.replace s.deviceConfig }
        match Section.of (addressPresent buffer)
            (parseAddressTable buffer (addressOffset buffer)) with
        | .broken => (s, some .invalidFrameSize)
        | addresses =>
            let s := { s with addressTable := addresses.replace s.addressTable }
            match Section.of (associationPresent buffer)
                (parseAssociationTable buffer (associationOffset buffer)) with
            | .broken => (s, some .invalidFrameSize)
            | associations =>
                let s := { s with associationTable := associations.replace s.associationTable }
                match Section.of (groupObjectPresent buffer)
                    (parseGroupObjectTable buffer (groupObjectOffset buffer)) with
                | .broken => (s, some .invalidFrameSize)
                | objects =>
                    let s := { s with groupObjects := objects.replace s.groupObjects }
                    if s.groupObjects = [] ∧ s.addressTable = [] then (s, some .decodeFailed)
                    else (s, none)

/-- `loadWithDiagnostics`: the loader, and whether it succeeded. -/
def loadWithDiagnostics (s : EtsConfigLoader) (buffer : List UInt8) (level : ValidationLevel) :
    EtsConfigLoader × Bool :=
  if (validateFormat buffer level).isSome then (s, false)
  else
    let s := { s with detectedFormatVersion := detectFormatVersion buffer }
    if s.detectedFormatVersion ≠ 1 then (s, false)
    else
      let parsed := parseVersionedFormat s buffer
      ({ parsed.1 with isValid := parsed.2.isNone }, parsed.2.isNone)

/-- The format version in the result of `loadWithDiagnostics`. -/
def diagnosedVersion (buffer : List UInt8) (level : ValidationLevel) : UInt8 :=
  if (validateFormat buffer level).isSome then 0 else detectFormatVersion buffer

/-- `loadFromBuffer`. -/
def loadFromBuffer (s : EtsConfigLoader) (buffer : List UInt8) (level : ValidationLevel) :
    EtsConfigLoader × Option LoadError :=
  if buffer = [] then (s, some .invalidParameter)
  else
    let loaded := loadWithDiagnostics s buffer level
    (loaded.1,
      if loaded.2 then none
      else if diagnosedVersion buffer level ≠ 0 ∧ diagnosedVersion buffer level ≠ 1 then
        some .operationNotSupported
      else some .decodeFailed)

/-! ## What a file holds -/

/-- What the sections of a file hold, up to one that is broken. -/
structure Sections where
  device : Section DeviceConfig := .missing
  addresses : Section (List AddressTableEntry) := .missing
  associations : Section (List AssociationTableEntry) := .missing
  objects : Section (List GroupObjectConfig) := .missing
  broken : Bool := false
  deriving DecidableEq, Repr

/-- The sections of a file. -/
def readSections (buffer : List UInt8) : Sections :=
  if buffer.length < 20 then { broken := true }
  else
    match Section.of (devicePresent buffer) (parseDeviceConfig buffer 20) with
    | .broken => { broken := true }
    | device =>
        match Section.of (addressPresent buffer)
            (parseAddressTable buffer (addressOffset buffer)) with
        | .broken => { device := device, broken := true }
        | addresses =>
            match Section.of (associationPresent buffer)
                (parseAssociationTable buffer (associationOffset buffer)) with
            | .broken => { device := device, addresses := addresses, broken := true }
            | associations =>
                match Section.of (groupObjectPresent buffer)
                    (parseGroupObjectTable buffer (groupObjectOffset buffer)) with
                | .broken =>
                    { device := device, addresses := addresses, associations := associations,
                      broken := true }
                | objects =>
                    { device := device, addresses := addresses, associations := associations,
                      objects := objects }

/-- The loader with the sections of a file. -/
def EtsConfigLoader.replace (s : EtsConfigLoader) (file : Sections) : EtsConfigLoader :=
  { s with
    deviceConfig := file.device.replace s.deviceConfig
    addressTable := file.addresses.replace s.addressTable
    associationTable := file.associations.replace s.associationTable
    groupObjects := file.objects.replace s.groupObjects }

/-- A file makes a configuration: no section is broken, and there are group objects or addresses. -/
def Complete (s : EtsConfigLoader) (file : Sections) : Prop :=
  file.broken = false ∧ ¬((s.replace file).groupObjects = [] ∧ (s.replace file).addressTable = [])

instance (s : EtsConfigLoader) (file : Sections) : Decidable (Complete s file) :=
  inferInstanceAs (Decidable (_ ∧ _))

theorem parseVersionedFormat_eq (s : EtsConfigLoader) (buffer : List UInt8) :
    (parseVersionedFormat s buffer).1 = s.replace (readSections buffer)
      ∧ ((parseVersionedFormat s buffer).2 = none ↔ Complete s (readSections buffer)) := by
  rw [parseVersionedFormat, readSections]
  split
  · exact ⟨rfl, by simp [Complete]⟩
  · cases Section.of (devicePresent buffer) (parseDeviceConfig buffer 20) with
    | broken => exact ⟨rfl, by simp [Complete]⟩
    | _ =>
      cases Section.of (addressPresent buffer)
          (parseAddressTable buffer (addressOffset buffer)) with
      | broken => exact ⟨rfl, by simp [Complete]⟩
      | _ =>
        cases Section.of (associationPresent buffer)
            (parseAssociationTable buffer (associationOffset buffer)) with
        | broken => exact ⟨rfl, by simp [Complete]⟩
        | _ =>
          cases Section.of (groupObjectPresent buffer)
              (parseGroupObjectTable buffer (groupObjectOffset buffer)) with
          | broken => exact ⟨rfl, by simp [Complete]⟩
          | _ =>
            dsimp only
            split
            next hempty =>
              refine ⟨rfl, ?_⟩
              simp only [reduceCtorEq, false_iff]
              intro hcomplete
              exact hcomplete.2 hempty
            next hsome =>
              refine ⟨rfl, ?_⟩
              simp only [true_iff]
              exact ⟨rfl, hsome⟩

/-! ## Loading one file after another -/

/-- The configuration in a loader. -/
def EtsConfigLoader.configuration (s : EtsConfigLoader) :
    DeviceConfig × List AddressTableEntry × List AssociationTableEntry × List GroupObjectConfig :=
  (s.deviceConfig, s.addressTable, s.associationTable, s.groupObjects)

/-- Loading is a function of the file: it gives what a fresh loader gets, or else changes
nothing. -/
structure Lawful (s : EtsConfigLoader) (buffer : List UInt8) (level : ValidationLevel) : Prop where
  loaded : (loadFromBuffer s buffer level).2 = none →
    (loadFromBuffer s buffer level).1.configuration
      = (loadFromBuffer {} buffer level).1.configuration
  failed : (loadFromBuffer s buffer level).2 ≠ none →
    (loadFromBuffer s buffer level).1.configuration = s.configuration
      ∧ (loadFromBuffer s buffer level).1.isValid = s.isValid

/-- A file that is not parsed: it is empty, does not validate or has another format version. -/
def Refused (buffer : List UInt8) (level : ValidationLevel) : Prop :=
  buffer = [] ∨ validateFormat buffer level ≠ none ∨ detectFormatVersion buffer ≠ 1

instance (buffer : List UInt8) (level : ValidationLevel) : Decidable (Refused buffer level) :=
  inferInstanceAs (Decidable (_ ∨ _ ∨ _))

/-- What the file has no section for is blank. -/
structure Blank (s : EtsConfigLoader) (file : Sections) : Prop where
  device : file.device = .missing → s.deviceConfig = {}
  addresses : file.addresses = .missing → s.addressTable = []
  associations : file.associations = .missing → s.associationTable = []
  objects : file.objects = .missing → s.groupObjects = []

/-- What the file has sections for is there already. -/
structure Holds (s : EtsConfigLoader) (file : Sections) : Prop where
  device : ∀ value, file.device = .read value → s.deviceConfig = value
  addresses : ∀ value, file.addresses = .read value → s.addressTable = value
  associations : ∀ value, file.associations = .read value → s.associationTable = value
  objects : ∀ value, file.objects = .read value → s.groupObjects = value

theorem loadFromBuffer_refused {buffer : List UInt8} {level : ValidationLevel}
    (h : Refused buffer level) (s : EtsConfigLoader) :
    (loadFromBuffer s buffer level).2 ≠ none
      ∧ (loadFromBuffer s buffer level).1.configuration = s.configuration
      ∧ (loadFromBuffer s buffer level).1.isValid = s.isValid := by
  rw [loadFromBuffer]
  by_cases hempty : buffer = []
  · rw [if_pos hempty]
    exact ⟨by simp, rfl, rfl⟩
  · rw [if_neg hempty, loadWithDiagnostics]
    dsimp only
    by_cases hvalid : (validateFormat buffer level).isSome = true
    · rw [if_pos hvalid]
      refine ⟨?_, rfl, rfl⟩
      dsimp only
      split_ifs <;> simp_all
    · rw [if_neg hvalid]
      have hnone : validateFormat buffer level = none := by simpa using hvalid
      have hversion : detectFormatVersion buffer ≠ 1 := by
        rcases h with h | h | h
        · exact absurd h hempty
        · exact absurd hnone h
        · exact h
      rw [if_pos hversion]
      refine ⟨?_, rfl, rfl⟩
      dsimp only
      split_ifs <;> simp_all

theorem loadFromBuffer_parsed {buffer : List UInt8} {level : ValidationLevel}
    (h : ¬Refused buffer level) (s : EtsConfigLoader) :
    (loadFromBuffer s buffer level).1.configuration
        = (s.replace (readSections buffer)).configuration
      ∧ ((loadFromBuffer s buffer level).2 = none ↔ Complete s (readSections buffer))
      ∧ ((loadFromBuffer s buffer level).1.isValid = true ↔ Complete s (readSections buffer)) := by
  simp only [Refused, not_or, not_not] at h
  obtain ⟨hsome, hvalid, hversion⟩ := h
  obtain ⟨hparsed, hcomplete⟩ := parseVersionedFormat_eq
    { s with detectedFormatVersion := detectFormatVersion buffer } buffer
  have hsame : Complete { s with detectedFormatVersion := detectFormatVersion buffer }
      (readSections buffer) ↔ Complete s (readSections buffer) := Iff.rfl
  rw [hsame] at hcomplete
  rw [loadFromBuffer, if_neg hsome, loadWithDiagnostics, hvalid]
  simp only [Option.isSome_none, Bool.false_eq_true, if_false, hversion, ne_eq, not_true]
  rw [hversion] at hparsed hcomplete
  refine ⟨?_, ?_, ?_⟩
  · have hconfiguration := congrArg EtsConfigLoader.configuration hparsed
    exact hconfiguration
  · rw [← hcomplete]
    cases (parseVersionedFormat { s with detectedFormatVersion := 1 } buffer).2 with
    | none => simp
    | some error =>
      simp only [Option.isNone_some, Bool.false_eq_true, if_false, reduceCtorEq, iff_false]
      split_ifs <;> simp
  · rw [← hcomplete]
    cases (parseVersionedFormat { s with detectedFormatVersion := 1 } buffer).2 with
    | none => simp
    | some error => simp

/-- The sections of a file are read or missing. -/
structure Sections.Whole (file : Sections) : Prop where
  device : file.device ≠ .broken
  addresses : file.addresses ≠ .broken
  associations : file.associations ≠ .broken
  objects : file.objects ≠ .broken

theorem whole_readSections (buffer : List UInt8) : (readSections buffer).Whole := by
  rw [readSections]
  repeat' split
  all_goals
    refine ⟨?_, ?_, ?_, ?_⟩
    all_goals first | assumption | simp

theorem replace_eq_replace_iff {α : Type} {part : Section α} (hwhole : part ≠ .broken)
    (old blank : α) : part.replace old = part.replace blank ↔ (part = .missing → old = blank) := by
  cases part with
  | missing => simp [Section.replace]
  | broken => exact absurd rfl hwhole
  | read value => simp [Section.replace]

theorem replace_eq_self_iff {α : Type} {part : Section α} (hwhole : part ≠ .broken) (old : α) :
    part.replace old = old ↔ ∀ value, part = .read value → old = value := by
  cases part with
  | missing => simp [Section.replace]
  | broken => exact absurd rfl hwhole
  | read value =>
    simp only [Section.replace, Section.read.injEq, forall_eq']
    exact eq_comm

theorem configuration_replace_blank_iff {file : Sections} (h : file.Whole) (s : EtsConfigLoader) :
    (s.replace file).configuration = (EtsConfigLoader.replace {} file).configuration
      ↔ Blank s file := by
  simp only [EtsConfigLoader.configuration, EtsConfigLoader.replace, Prod.mk.injEq,
    replace_eq_replace_iff h.device, replace_eq_replace_iff h.addresses,
    replace_eq_replace_iff h.associations, replace_eq_replace_iff h.objects]
  constructor
  · rintro ⟨hdevice, haddresses, hassociations, hobjects⟩
    exact ⟨hdevice, haddresses, hassociations, hobjects⟩
  · rintro ⟨hdevice, haddresses, hassociations, hobjects⟩
    exact ⟨hdevice, haddresses, hassociations, hobjects⟩

theorem configuration_replace_self_iff {file : Sections} (h : file.Whole) (s : EtsConfigLoader) :
    (s.replace file).configuration = s.configuration ↔ Holds s file := by
  simp only [EtsConfigLoader.configuration, EtsConfigLoader.replace, Prod.mk.injEq,
    replace_eq_self_iff h.device, replace_eq_self_iff h.addresses,
    replace_eq_self_iff h.associations, replace_eq_self_iff h.objects]
  constructor
  · rintro ⟨hdevice, haddresses, hassociations, hobjects⟩
    exact ⟨hdevice, haddresses, hassociations, hobjects⟩
  · rintro ⟨hdevice, haddresses, hassociations, hobjects⟩
    exact ⟨hdevice, haddresses, hassociations, hobjects⟩

/-- Loading is a function of the file exactly where the file is refused before it is parsed, or
makes a configuration and has a section for all that is not blank, or makes none, and the loader holds
no valid configuration and already all that is read. -/
theorem load_lawful_iff (s : EtsConfigLoader) (buffer : List UInt8) (level : ValidationLevel) :
    Lawful s buffer level
      ↔ Refused buffer level
        ∨ (Complete s (readSections buffer) ∧ Blank s (readSections buffer))
        ∨ (¬Complete s (readSections buffer) ∧ s.isValid = false ∧ Holds s (readSections buffer)) := by
  by_cases hrefused : Refused buffer level
  · obtain ⟨hfailed, hsame, hvalid⟩ := loadFromBuffer_refused hrefused s
    refine iff_of_true ⟨?_, ?_⟩ (.inl hrefused)
    · intro hloaded
      exact absurd hloaded hfailed
    · intro _
      exact ⟨hsame, hvalid⟩
  · obtain ⟨hconfiguration, hloaded, hvalid⟩ := loadFromBuffer_parsed hrefused s
    have hwhole := whole_readSections buffer
    simp only [hrefused, false_or]
    by_cases hcomplete : Complete s (readSections buffer)
    · simp only [hcomplete, true_and, not_true, false_and, or_false]
      rw [← configuration_replace_blank_iff hwhole]
      have hfresh := (loadFromBuffer_parsed hrefused {}).1
      constructor
      · intro h
        rw [← hconfiguration, ← hfresh]
        exact h.loaded (hloaded.mpr hcomplete)
      · intro h
        refine ⟨?_, ?_⟩
        · intro _
          rw [hconfiguration, hfresh, h]
        · intro hfailed
          exact absurd (hloaded.mpr hcomplete) hfailed
    · simp only [hcomplete, false_and, false_or, not_false_iff, true_and]
      rw [← configuration_replace_self_iff hwhole]
      have hfailed : (loadFromBuffer s buffer level).2 ≠ none := fun h => hcomplete (hloaded.mp h)
      have hinvalid : (loadFromBuffer s buffer level).1.isValid = false := by
        rw [← Bool.not_eq_true]
        exact fun h => hcomplete (hvalid.mp h)
      constructor
      · intro h
        obtain ⟨hsame, hflag⟩ := h.failed hfailed
        exact ⟨hflag.symm.trans hinvalid, hconfiguration.symm.trans hsame⟩
      · rintro ⟨hflag, hsame⟩
        refine ⟨?_, ?_⟩
        · intro hsuccess
          exact absurd hsuccess hfailed
        · intro _
          exact ⟨hconfiguration.trans hsame, hinvalid.trans hflag.symm⟩

/-- The loader after some files. -/
def loadAll (level : ValidationLevel) (files : List (List UInt8)) : EtsConfigLoader :=
  run (fun s buffer => (loadFromBuffer s buffer level).1) {} files

/-- A configuration of 1.1.1 with the group address 1/1/1. -/
def addressFile : List UInt8 :=
  [0xAE, 0xDD, 0x01, 0x00, 0x00, 0x00, 0x0F, 0xB7, 0x6B, 0xB0, 0x52, 0xF9, 0x00, 0x0A, 0x00, 0x04,
   0x00, 0x00, 0x00, 0x00, 0x11, 0x01, 0x00, 0xFA, 0x00, 0x00, 0x00, 0x01, 0x01, 0x01, 0x00, 0x01,
   0x09, 0x01]

/-- A configuration of 1.1.1 with one group object and no group address. -/
def objectFile : List UInt8 :=
  [0xAE, 0xDD, 0x01, 0x00, 0x00, 0x00, 0x0F, 0xB7, 0x00, 0xF4, 0x38, 0x30, 0x00, 0x0A, 0x00, 0x00,
   0x00, 0x00, 0x00, 0x07, 0x11, 0x01, 0x00, 0xFA, 0x00, 0x00, 0x00, 0x01, 0x01, 0x01, 0x00, 0x01,
   0x00, 0x01, 0x0F, 0x00, 0x00]

/-- A missing section leaves the table of an earlier file: the group address of the first file is
there after the second one, which has none. -/
theorem address_of_earlier_file_kept :
    ¬ ∀ (earlier : List (List UInt8)) (buffer : List UInt8),
      Lawful (loadAll .full earlier) buffer .full := by
  intro hlawful
  have hloaded := (hlawful [addressFile] objectFile).loaded (by decide +kernel)
  revert hloaded
  decide +kernel

end KnxStack.Ets
