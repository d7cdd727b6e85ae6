import KnxStack.Objects.LoadableTables

/-!
# The interface objects of a device

The Device Object, the loadable tables, the Application Program Object, the Group Object Table and the
reference objects (`objects/device_object.cpp`, `objects/application_program_object.cpp`,
`objects/group_object_table_object.cpp`, `objects/generic_interface_object.cpp`), with the handlers of
their properties, and `InterfaceObjectManager` over them (`objects/interface_object_manager.cpp`,
`objects/object_property_manifest.cpp`). The Security Interface Object has a module of its own.

An `ObjectProperty` names one property of one object, and `ObjectProperty.handler` is its handler on
all the objects together, so that one kernel reads and writes them all.
-/

set_option autoImplicit false

namespace KnxStack.Objects

open KnxStack.Application KnxStack.Lib.Octets KnxStack.Lib.Words

/-! ## The Device Object -/

/-- `DeviceObject`. The load state and the run state are octets, since a write may set any. -/
structure DeviceObject where
  manufacturerId : UInt16 := 0
  hardwareType : List UInt8 := []
  firmwareRevision : UInt8 := 0
  serialNumber : List UInt8 := List.replicate 6 0
  orderInfo : List UInt8 := []
  version : UInt16 := 0
  individualAddress : IndividualAddress := ⟨0⟩
  maxApduLength : UInt16 := 254
  loadState : UInt8 := 0
  runState : UInt8 := 0
  progMode : Bool := false
  routingCount : UInt8 := 6
  maxRetryCount : UInt8 := 3
  errorFlags : UInt8 := 0
  progVersion : UInt8 := 0
  deviceControl : UInt8 := 0

/-- The properties that the Device Object declares (`DeviceProperty`). -/
inductive DeviceProperty where
  | serialNumber
  | hardwareType
  | orderInfo
  | version
  | objectType
  | firmwareRevision
  | manufacturerId
  | progMode
  | maxApduLength
  | subnetAddress
  | deviceAddress
  | routingCount
  | maxRetryCount
  | errorFlags
  | programVersion
  | deviceControl
  | loadStateControl
  | runStateControl
  deriving DecidableEq, Repr

namespace DeviceObject

/-- `applyIndividualAddress` with one octet of the address replaced: the subnet. -/
def setSubnetAddress (o : DeviceObject) (octet : UInt8) : DeviceObject :=
  { o with individualAddress := ⟨joinBytes octet (lowByte o.individualAddress.raw)⟩ }

/-- The same for the device. -/
def setDeviceAddress (o : DeviceObject) (octet : UInt8) : DeviceObject :=
  { o with individualAddress := ⟨joinBytes (highByte o.individualAddress.raw) octet⟩ }

/-- `writeIndividualAddress`, the management service: only in programming mode. -/
def writeIndividualAddress (o : DeviceObject) (address : IndividualAddress) : Option DeviceObject :=
  if o.progMode then some { o with individualAddress := address } else none

/-- A value of one element, padded with zeros or cut to its size. -/
def padded (octets : List UInt8) (size : Nat) : List UInt8 :=
  octets.take size ++ List.replicate (size - octets.length) 0

/-- A scalar of one octet that is written as it is. -/
def octet (id type : UInt8) (get : DeviceObject → UInt8)
    (set : DeviceObject → UInt8 → DeviceObject) : Handler DeviceObject :=
  .scalar id type .readWrite 1 (fun o => (get o).toNat) fun o value =>
    some (set o (UInt8.ofNat value))

/-- A scalar that is only read. -/
def fixed (id type : UInt8) (width : Nat) (get : DeviceObject → Nat) : Handler DeviceObject :=
  .scalar id type .readOnly width get fun _ _ => none

/-- `kDeviceHandlers`. Of the programming mode only bit 0 is taken. -/
def handler : DeviceProperty → Handler DeviceObject
  | .serialNumber => .block 11 0x16 fun o => o.serialNumber
  | .hardwareType => .block 78 0x16 fun o => padded o.hardwareType 6
  | .orderInfo => .block 15 0x1A fun o => padded o.orderInfo 10
  | .version => fixed 25 0x04 2 fun o => o.version.toNat
  | .objectType => fixed 1 0x04 2 fun _ => 0
  | .firmwareRevision => fixed 9 0x02 1 fun o => o.firmwareRevision.toNat
  | .manufacturerId => fixed 12 0x04 2 fun o => o.manufacturerId.toNat
  | .progMode =>
      octet 54 0x33 (fun o => if o.progMode then 1 else 0) fun o value =>
        { o with progMode := value &&& 0x01 ≠ 0 }
  | .maxApduLength => fixed 56 0x04 2 fun o => o.maxApduLength.toNat
  | .subnetAddress => octet 57 0x02 (fun o => highByte o.individualAddress.raw) setSubnetAddress
  | .deviceAddress => octet 58 0x02 (fun o => lowByte o.individualAddress.raw) setDeviceAddress
  | .routingCount => octet 51 0x02 (fun o => o.routingCount) fun o v => { o with routingCount := v }
  | .maxRetryCount =>
      octet 52 0x02 (fun o => o.maxRetryCount) fun o v => { o with maxRetryCount := v }
  | .errorFlags => octet 53 0x02 (fun o => o.errorFlags) fun o v => { o with errorFlags := v }
  | .programVersion => octet 13 0x02 (fun o => o.progVersion) fun o v => { o with progVersion := v }
  | .deviceControl =>
      octet 14 0x02 (fun o => o.deviceControl) fun o v => { o with deviceControl := v }
  | .loadStateControl => fixed 5 0x02 1 fun o => o.loadState.toNat
  | .runStateControl => octet 6 0x02 (fun o => o.runState) fun o v => { o with runState := v }

end DeviceObject

/-! ## The Application Program Object -/

theorem length_blankVersion : (List.replicate 5 (0 : UInt8)).length = 5 := rfl

/-- `ApplicationProgramObject`. -/
structure ApplicationProgram where
  programVersion : { octets : List UInt8 // octets.length = 5 } :=
    ⟨List.replicate 5 0, length_blankVersion⟩
  applicationId : UInt16 := 0
  applicationVersion : UInt8 := 0
  applicationNumber : UInt16 := 0
  applicationArea : UInt8 := 0
  applicationManufacturer : UInt16 := 0
  programState : UInt8 := 0
  parameterStart : UInt16 := 0
  parameterEnd : UInt16 := 0
  programName : List UInt8 := []
  programDescription : List UInt8 := []
  programData : List UInt8 := []
  loadState : UInt8 := 1

/-- `AppProgramProperty`. -/
inductive AppProgramProperty where
  | objectType
  | loadState
  | tableReference
  | programVersion
  | applicationId
  | applicationVersion
  | applicationNumber
  | applicationArea
  | applicationManufacturer
  | programState
  | programControl
  | parameterStart
  | parameterEnd
  | programData
  | programName
  | programDescription
  deriving DecidableEq, Repr

namespace ApplicationProgram

/-- `executeProgramControl`: start, stop, reset and reload; anything else does nothing. -/
def executeProgramControl (o : ApplicationProgram) (control : UInt8) : Option ApplicationProgram :=
  if control = 1 then if o.programState = 0 then some { o with programState := 1 } else none
  else if control = 2 then if o.programState = 1 then some { o with programState := 0 } else none
  else if control = 3 then some { o with programState := 0 }
  else if control = 4 then if o.programState ≠ 2 then some o else none
  else some o

/-- A load event keeps the program. -/
def loadable : Loadable ApplicationProgram where
  loadState := fun o => o.loadState
  setLoadState := fun o state => { o with loadState := state }
  loadControlReset := fun o => o

/-- A scalar of one octet. -/
def octet (id : UInt8) (get : ApplicationProgram → UInt8)
    (set : ApplicationProgram → UInt8 → ApplicationProgram) : Handler ApplicationProgram :=
  .scalar id 0x02 .readWrite 1 (fun o => (get o).toNat) fun o value =>
    some (set o (UInt8.ofNat value))

/-- A scalar of two octets. -/
def word (id : UInt8) (get : ApplicationProgram → UInt16)
    (set : ApplicationProgram → UInt16 → ApplicationProgram) : Handler ApplicationProgram :=
  .scalar id 0x04 .readWrite 2 (fun o => (get o).toNat) fun o value =>
    some (set o (UInt16.ofNat value))

/-- `kAppProgramHandlers`. -/
def handler : AppProgramProperty → Handler ApplicationProgram
  | .objectType => .scalar 1 0x04 .readOnly 2 (fun _ => 3) fun _ _ => none
  | .loadState => loadable.handler 5
  | .tableReference => .scalar 7 0x09 .readOnly 4 (fun _ => 0x0100) fun _ _ => none
  | .programVersion =>
      { id := 13
        type := 0x15
        capability := .readWrite
        maxElements := 1
        read := fun o _ elementCount =>
          if elementCount ≠ 1 then none else some o.programVersion.val
        write := fun o _ elementCount value =>
          if elementCount ≠ 1 then none
          else if h : (value.take 5).length = 5 then
            some { o with programVersion := ⟨value.take 5, h⟩ }
          else none }
  | .applicationId => word 14 (fun o => o.applicationId) fun o v => { o with applicationId := v }
  | .applicationVersion =>
      octet 15 (fun o => o.applicationVersion) fun o v => { o with applicationVersion := v }
  | .applicationNumber =>
      word 16 (fun o => o.applicationNumber) fun o v => { o with applicationNumber := v }
  | .applicationArea =>
      octet 17 (fun o => o.applicationArea) fun o v => { o with applicationArea := v }
  | .applicationManufacturer =>
      word 25 (fun o => o.applicationManufacturer) fun o v => { o with applicationManufacturer := v }
  | .programState => octet 21 (fun o => o.programState) fun o v => { o with programState := v }
  | .programControl =>
      .scalar 20 0x00 .writeOnly 1 (fun _ => 0) fun o value =>
        o.executeProgramControl (UInt8.ofNat value)
  | .parameterStart => word 18 (fun o => o.parameterStart) fun o v => { o with parameterStart := v }
  | .parameterEnd => word 19 (fun o => o.parameterEnd) fun o v => { o with parameterEnd := v }
  | .programData => .octetString 22 (fun o => o.programData) fun o v => { o with programData := v }
  | .programName => .octetString 23 (fun o => o.programName) fun o v => { o with programName := v }
  | .programDescription =>
      .octetString 24 (fun o => o.programDescription) fun o v => { o with programDescription := v }

end ApplicationProgram

/-! ## The Group Object Table -/

/-- What the table holds of a group object: the octet of its flags and priority, and the type of its
value. -/
structure GroupObjectDescriptor where
  flags : UInt8 := 0
  valueFieldType : UInt8 := 0
  deriving DecidableEq, Repr

/-- `GroupObjectTableDomain`. The group objects are those of the firmware; a download changes their
flags at most. -/
structure GroupObjectTable where
  objects : List GroupObjectDescriptor := []
  loadState : UInt8 := 1

/-- `GroupObjectTableProperty`, as far as it is declared. -/
inductive GroupObjectTableProperty where
  | objectType
  | loadStateControl
  | tableReference
  | tableData
  | goDiagnostics
  deriving DecidableEq, Repr

namespace GroupObjectTable

/-- A load event keeps the group objects. -/
def loadable : Loadable GroupObjectTable where
  loadState := fun t => t.loadState
  setLoadState := fun t state => { t with loadState := state }
  loadControlReset := fun t => t

/-- The table as octets: its length, and the descriptors. -/
def octets (t : GroupObjectTable) : List UInt8 :=
  [highByte (UInt16.ofNat t.objects.length), lowByte (UInt16.ofNat t.objects.length)]
    ++ t.objects.flatMap fun object => [object.flags, object.valueFieldType]

/-- `writeTableData`: the length is skipped, and of every descriptor the flags are taken. -/
def writeTableData (t : GroupObjectTable) (start elementCount : Nat) (value : List UInt8) :
    Option GroupObjectTable :=
  let consumed := min (2 - start) elementCount
  let absolute := start + consumed
  if absolute < 2 ∨ (absolute - 2) % 2 ≠ 0 ∨ (elementCount - consumed) % 2 ≠ 0 then none
  else
    let first := (absolute - 2) / 2
    let count := (elementCount - consumed) / 2
    some
      { t with
        objects := t.objects.mapIdx fun slot object =>
          if first ≤ slot ∧ slot < first + count then
            { object with flags := value.getD (consumed + 2 * (slot - first)) 0 }
          else object }

/-- `kGroupObjectTableHandlers`. -/
def handler : GroupObjectTableProperty → Handler GroupObjectTable
  | .objectType => .scalar 1 0x04 .readOnly 2 (fun _ => 9) fun _ _ => none
  | .loadStateControl => loadable.handler 5
  | .tableReference => .scalar 7 0x09 .readOnly 4 (fun _ => 0x5000) fun _ _ => none
  | .tableData =>
      { id := 9
        type := 0x11
        capability := .readWrite
        maxElements := 0xFFFF
        elementSizeOverride := 1
        read := fun t start elementCount =>
          if t.octets.length < start + elementCount then none
          else some (slice t.octets start elementCount)
        write := writeTableData }
  | .goDiagnostics => .function 66

end GroupObjectTable

/-! ## Reference objects -/

/-- The capability of a registered property. -/
def PropertyCapability.ofAccess : PropertyAccess → PropertyCapability
  | .readOnly => .readOnly
  | .readWrite => .readWrite
  | .writeOnly => .writeOnly

/-- The handlers of `GenericInterfaceObject`, over the values of one object by property. The object
type is answered by itself. -/
def referenceHandler (objectType : UInt16) (descriptor : PropertyDescriptor) :
    Handler (UInt8 → List UInt8) :=
  if descriptor.id = 1 then .scalar 1 0x04 .readOnly 2 (fun _ => objectType.toNat) fun _ _ => none
  else
    let size :=
      if propertyElementSize descriptor.type = 0 then 1 else propertyElementSize descriptor.type
    { id := descriptor.id
      type := descriptor.type
      capability := .ofAccess descriptor.access
      maxElements := descriptor.maxElements.toNat
      elementSizeOverride := if propertyElementSize descriptor.type = 0 then 1 else 0
      -- readGeneric
      read := fun values start elementCount =>
        let data := values descriptor.id
        if elementCount = 0 ∨ descriptor.maxElements.toNat < start + elementCount then none
        else if data.length < start * size + elementCount * size then none
        else some (slice data (start * size) (elementCount * size))
      -- writeGeneric: it appends, but leaves no gap
      write := fun values start elementCount value =>
        let data := values descriptor.id
        if elementCount = 0 ∨ descriptor.maxElements.toNat < start + elementCount then none
        else if value.length < elementCount * size ∨ data.length < start * size then none
        else
          some (Function.update values descriptor.id
            (SecurityInterfaceObject.writeBlob data (start * size)
              (value.take (elementCount * size)))) }

/-! ## All objects -/

/-- The interface objects beside the Security Interface Object. The values of a reference object stand
under its type. -/
structure CoreObjects where
  deviceObject : DeviceObject := {}
  addressTable : AddressTable := {}
  associationTable : AssociationTable := {}
  applicationProgram : ApplicationProgram := {}
  groupObjectTable : GroupObjectTable := {}
  referenceValues : UInt16 → UInt8 → List UInt8 := fun _ _ => []

/-- A property of one of the objects. -/
inductive ObjectProperty where
  | device (p : DeviceProperty)
  | addressTable (p : LoadableTable.Property)
  | associationTable (p : LoadableTable.Property)
  | applicationProgram (p : AppProgramProperty)
  | groupObjectTable (p : GroupObjectTableProperty)
  | reference (objectType : UInt16) (descriptor : PropertyDescriptor)
  deriving DecidableEq, Repr

namespace ObjectProperty

/-- The type of the object that a property belongs to. -/
def objectType : ObjectProperty → UInt16
  | .device _ => 0
  | .addressTable _ => 1
  | .associationTable _ => 2
  | .applicationProgram _ => 3
  | .groupObjectTable _ => 9
  | .reference type _ => type

/-- The handler of a property, on all objects. -/
def handler : ObjectProperty → Handler CoreObjects
  | .device p =>
      (DeviceObject.handler p).lift (fun o => o.deviceObject) fun o d => { o with deviceObject := d }
  | .addressTable p =>
      (LoadableTable.handler 1 0x04 0x4000 p).lift (fun o => o.addressTable)
        fun o t => { o with addressTable := t }
  | .associationTable p =>
      (LoadableTable.handler 2 0x14 0x4400 p).lift (fun o => o.associationTable)
        fun o t => { o with associationTable := t }
  | .applicationProgram p =>
      (ApplicationProgram.handler p).lift (fun o => o.applicationProgram)
        fun o a => { o with applicationProgram := a }
  | .groupObjectTable p =>
      (GroupObjectTable.handler p).lift (fun o => o.groupObjectTable)
        fun o t => { o with groupObjectTable := t }
  | .reference type descriptor =>
      (referenceHandler type descriptor).lift (fun o => o.referenceValues type)
        fun o values => { o with referenceValues := Function.update o.referenceValues type values }

/-- The access that the manifest declares. The table of the group objects is declared as read-only,
and its handler writes it. -/
def access : ObjectProperty → PropertyAccess
  | .groupObjectTable .tableData => .readOnly
  | .reference _ descriptor => descriptor.access
  | p =>
      match p.handler.capability with
      | .readOnly => .readOnly
      | .readWrite => .readWrite
      | .writeOnly => .writeOnly

/-- The descriptor that a property registers. -/
def descriptor : ObjectProperty → PropertyDescriptor
  | .reference _ descriptor => descriptor
  | p =>
      { id := p.handler.id
        type := p.handler.type
        access := p.access
        maxElements := UInt16.ofNat p.handler.maxElements }

end ObjectProperty

/-- The properties that each type of reference object registers. -/
abbrev ReferenceSchema : Type := UInt16 → List PropertyDescriptor

/-- The handler tables, in their order. -/
def objectHandlers (schema : ReferenceSchema) (objectType : UInt16) : List ObjectProperty :=
  if objectType = 0 then
    [.serialNumber, .hardwareType, .orderInfo, .version, .objectType, .firmwareRevision,
      .manufacturerId, .progMode, .maxApduLength, .subnetAddress, .deviceAddress, .routingCount,
      .maxRetryCount, .errorFlags, .programVersion, .deviceControl, .loadStateControl,
      .runStateControl].map .device
  else if objectType = 1 then
    [.objectType, .loadState, .tableReference, .tableData].map .addressTable
  else if objectType = 2 then
    [.objectType, .loadState, .tableReference, .tableData].map .associationTable
  else if objectType = 3 then
    [.objectType, .loadState, .tableReference, .programVersion, .applicationId, .applicationVersion,
      .applicationNumber, .applicationArea, .applicationManufacturer, .programState,
      .programControl, .parameterStart, .parameterEnd, .programData, .programName,
      .programDescription].map .applicationProgram
  else if objectType = 9 then
    [.objectType, .loadStateControl, .tableReference, .tableData, .goDiagnostics].map
      .groupObjectTable
  else (schema objectType).map (.reference objectType)

/-- `findHandler`. Manifest and handler table of an object declare the same properties. -/
def findProperty (schema : ReferenceSchema) (objectType : UInt16) (propertyId : UInt8) :
    Option ObjectProperty :=
  (objectHandlers schema objectType).find? fun p => p.handler.id == propertyId

theorem objectType_of_mem_objectHandlers (schema : ReferenceSchema) {objectType : UInt16}
    {p : ObjectProperty} (h : p ∈ objectHandlers schema objectType) : p.objectType = objectType := by
  rw [objectHandlers] at h
  repeat' split at h
  all_goals
    obtain ⟨q, -, rfl⟩ := List.mem_map.mp h
  all_goals first | exact Eq.symm ‹_› | rfl

theorem objectType_of_findProperty (schema : ReferenceSchema) {objectType : UInt16}
    {propertyId : UInt8} {p : ObjectProperty}
    (h : findProperty schema objectType propertyId = some p) : p.objectType = objectType :=
  objectType_of_mem_objectHandlers schema (List.mem_of_find?_eq_some h)

namespace CoreObjects

variable (schema : ReferenceSchema)

/-- `InterfaceObjectManager::readProperty`, into a buffer of `MAX_APDU_LENGTH`. Element zero is the
current number of elements. -/
def readProperty (o : CoreObjects) (objectType : UInt16) (propertyId : UInt8)
    (startIndex elementCount : Nat) : Option (List UInt8) :=
  if elementCount = 0 then none
  else
    match findProperty schema objectType propertyId with
    | none => none
    | some p =>
        if startIndex = 0 then (p.handler.propertyElementCount o).map (toOctets 2)
        else p.handler.readProperty (some 254) o startIndex elementCount

/-- `InterfaceObjectManager::writeProperty`. The two halves of the individual address are written
past the kernel, from the first octet of the value; no other property here admits a write to its
number of elements. -/
def writeProperty (o : CoreObjects) (objectType : UInt16) (propertyId : UInt8) (startIndex : Nat)
    (value : List UInt8) : Option CoreObjects :=
  match findProperty schema objectType propertyId with
  | none => none
  | some (.device .subnetAddress) =>
      if startIndex ≠ 1 then none
      else value.head?.map fun octet =>
        { o with deviceObject := o.deviceObject.setSubnetAddress octet }
  | some (.device .deviceAddress) =>
      if startIndex ≠ 1 then none
      else value.head?.map fun octet =>
        { o with deviceObject := o.deviceObject.setDeviceAddress octet }
  | some p => if startIndex = 0 then none else p.handler.writeProperty o startIndex value

/-- A write goes to the object of its type: past the kernel for the two halves of the individual
address, and by the handler of the property for everything else. -/
theorem writeProperty_cases {o o' : CoreObjects} {objectType : UInt16} {propertyId : UInt8}
    {startIndex : Nat} {value : List UInt8}
    (h : o.writeProperty schema objectType propertyId startIndex value = some o') :
    ∃ p, findProperty schema objectType propertyId = some p
      ∧ ((∃ octet, p = .device .subnetAddress ∧ startIndex = 1 ∧ value.head? = some octet
          ∧ o' = { o with deviceObject := o.deviceObject.setSubnetAddress octet })
        ∨ (∃ octet, p = .device .deviceAddress ∧ startIndex = 1 ∧ value.head? = some octet
          ∧ o' = { o with deviceObject := o.deviceObject.setDeviceAddress octet })
        ∨ (p ≠ .device .subnetAddress ∧ p ≠ .device .deviceAddress
          ∧ p.handler.writeProperty o startIndex value = some o')) := by
  rw [writeProperty] at h
  split at h
  · cases h
  · rename_i hp
    split at h
    · cases h
    · rename_i hfirst
      obtain ⟨octet, hoctet, rfl⟩ := Option.map_eq_some_iff.mp h
      exact ⟨_, hp, .inl ⟨octet, rfl, by omega, hoctet, rfl⟩⟩
  · rename_i hp
    split at h
    · cases h
    · rename_i hfirst
      obtain ⟨octet, hoctet, rfl⟩ := Option.map_eq_some_iff.mp h
      exact ⟨_, hp, .inr (.inl ⟨octet, rfl, by omega, hoctet, rfl⟩)⟩
  · rename_i p hsubnet hdevice hp
    split at h
    · cases h
    · exact ⟨p, hp, .inr (.inr ⟨hsubnet, hdevice, h⟩)⟩

/-- The object of each type that is not written is the same. -/
structure KeepsOthers (objectType : UInt16) (o o' : CoreObjects) : Prop where
  deviceObject : objectType ≠ 0 → o'.deviceObject = o.deviceObject
  addressTable : objectType ≠ 1 → o'.addressTable = o.addressTable
  associationTable : objectType ≠ 2 → o'.associationTable = o.associationTable
  applicationProgram : objectType ≠ 3 → o'.applicationProgram = o.applicationProgram
  groupObjectTable : objectType ≠ 9 → o'.groupObjectTable = o.groupObjectTable

theorem keepsOthers_writeProperty {o o' : CoreObjects} {objectType : UInt16} {propertyId : UInt8}
    {startIndex : Nat} {value : List UInt8}
    (h : o.writeProperty schema objectType propertyId startIndex value = some o') :
    KeepsOthers objectType o o' := by
  obtain ⟨p, hp, ⟨octet, rfl, -, -, rfl⟩ | ⟨octet, rfl, -, -, rfl⟩ | ⟨-, -, hwritten⟩⟩ :=
    writeProperty_cases schema h
  · have htype := objectType_of_findProperty schema hp
    exact ⟨fun hne => absurd htype.symm hne, fun _ => rfl, fun _ => rfl, fun _ => rfl, fun _ => rfl⟩
  · have htype := objectType_of_findProperty schema hp
    exact ⟨fun hne => absurd htype.symm hne, fun _ => rfl, fun _ => rfl, fun _ => rfl, fun _ => rfl⟩
  · have htype := objectType_of_findProperty schema hp
    cases p with
    | device p =>
      rw [ObjectProperty.handler, Handler.writeProperty_lift] at hwritten
      obtain ⟨d, -, rfl⟩ := Option.map_eq_some_iff.mp hwritten
      exact ⟨fun hne => absurd htype.symm hne, fun _ => rfl, fun _ => rfl, fun _ => rfl, fun _ => rfl⟩
    | addressTable p =>
      rw [ObjectProperty.handler, Handler.writeProperty_lift] at hwritten
      obtain ⟨d, -, rfl⟩ := Option.map_eq_some_iff.mp hwritten
      exact ⟨fun _ => rfl, fun hne => absurd htype.symm hne, fun _ => rfl, fun _ => rfl, fun _ => rfl⟩
    | associationTable p =>
      rw [ObjectProperty.handler, Handler.writeProperty_lift] at hwritten
      obtain ⟨d, -, rfl⟩ := Option.map_eq_some_iff.mp hwritten
      exact ⟨fun _ => rfl, fun _ => rfl, fun hne => absurd htype.symm hne, fun _ => rfl, fun _ => rfl⟩
    | applicationProgram p =>
      rw [ObjectProperty.handler, Handler.writeProperty_lift] at hwritten
      obtain ⟨d, -, rfl⟩ := Option.map_eq_some_iff.mp hwritten
      exact ⟨fun _ => rfl, fun _ => rfl, fun _ => rfl, fun hne => absurd htype.symm hne, fun _ => rfl⟩
    | groupObjectTable p =>
      rw [ObjectProperty.handler, Handler.writeProperty_lift] at hwritten
      obtain ⟨d, -, rfl⟩ := Option.map_eq_some_iff.mp hwritten
      exact ⟨fun _ => rfl, fun _ => rfl, fun _ => rfl, fun _ => rfl, fun hne => absurd htype.symm hne⟩
    | reference type descriptor =>
      rw [ObjectProperty.handler, Handler.writeProperty_lift] at hwritten
      obtain ⟨d, -, rfl⟩ := Option.map_eq_some_iff.mp hwritten
      exact ⟨fun _ => rfl, fun _ => rfl, fun _ => rfl, fun _ => rfl, fun _ => rfl⟩

/-- `applyLoadedTableSegment`, with the content of the segment of an object. The group objects are
those of the firmware. -/
def applySegment (o : CoreObjects) (objectType : UInt16) (segment : List UInt8) : CoreObjects :=
  if objectType = 1 then { o with addressTable := o.addressTable.applySegment segment }
  else if objectType = 2 then { o with associationTable := o.associationTable.applySegment segment }
  else if objectType = 3 then
    { o with applicationProgram := { o.applicationProgram with programData := segment } }
  else o

/-- `InterfaceObjectManager::describeProperty`: by identifier, or by position in the handler table.
Asked for by identifier, the table of the group objects has one element. -/
def describeProperty (objectType : UInt16) (propertyId propertyIndex : UInt8) :
    Option PropertyDescription :=
  (if propertyIndex = 0 then findProperty schema objectType propertyId
    else (objectHandlers schema objectType)[propertyIndex.toNat - 1]?).map fun p =>
      { propertyId := p.handler.id
        type := p.handler.type
        maxElements :=
          if p = .groupObjectTable .tableData ∧ propertyIndex = 0 then 1
          else UInt16.ofNat p.handler.maxElements
        writeAllowed := p.handler.capability.canWrite }

end CoreObjects

end KnxStack.Objects
