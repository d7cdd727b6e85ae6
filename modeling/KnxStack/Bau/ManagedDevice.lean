import KnxStack.Application.AccessPolicy
import KnxStack.Application.MemoryService
import KnxStack.Application.Property
import KnxStack.Bau.SecurityPersistence
import KnxStack.Network.RoutingTableControl
import KnxStack.Transport.Layer

/-!
# A device behind its management services

What `PropertyAccessBridge::bind` and `BusAccessUnit::wireManagementServices` (`bau/bau.cpp`,
`bau/bau_management.cpp`, `bau/bau_go_diagnostics.cpp`) put behind the application layer: the index
under which each interface object is addressed, the providers that read, write and describe
properties, and the handlers of the function properties.

The Security Interface Object, the memory segments and the filter table are modelled. The other
interface objects, the group objects and the authorization service are a `Backend` over a state of
their own: none of their handlers is given the Security Interface Object.
-/

set_option autoImplicit false

namespace KnxStack.Bau

open KnxStack.Application KnxStack.Lib.Octets KnxStack.Lib.Words KnxStack.Objects
open KnxStack.Transport (TDataFrame)

/-! ## The other parts of the device -/

/-- What the diagnostics read of a group object. -/
structure GroupObject where
  descriptor : UInt16 := 0
  valueFieldType : UInt8 := 0
  dptMain : UInt16 := 0
  dptSub : UInt16 := 0
  payloadBits : Nat := 0
  transmit : Bool := false
  rawValue : List UInt8 := []

/-- The parts of a device that hold no key, over their state `σ`. A frame that a part puts on the bus
is returned beside the new state. -/
structure Backend (σ : Type) where
  /-- The registered properties of an object type, in the order of their identifiers. -/
  propertyDescriptors : UInt16 → List PropertyDescriptor := fun _ => []
  /-- `InterfaceObjectManager::readProperty`. -/
  readProperty : σ → (objectType : UInt16) → (propertyId : UInt8) → (startIndex elementCount : Nat) →
    Option (List UInt8) := fun _ _ _ _ _ => none
  /-- `InterfaceObjectManager::writeProperty`. -/
  writeProperty : σ → (objectType : UInt16) → (propertyId : UInt8) → (startIndex : Nat) →
    (value : List UInt8) → Option σ := fun _ _ _ _ _ => none
  /-- `InterfaceObjectManager::describeProperty`. -/
  describeProperty : (objectType : UInt16) → (propertyId propertyIndex : UInt8) →
    Option PropertyDescription := fun _ _ _ => none
  /-- The group address table. -/
  addressTable : σ → List UInt16 := fun _ => []
  /-- `applyLoadedTableSegment`. -/
  applyLoadedTableSegment : σ → (objectType : UInt16) → Memory → σ := fun s _ _ => s
  /-- `getGroupObject`. -/
  getGroupObject : σ → UInt16 → Option GroupObject := fun _ _ => none
  /-- `isGroupObjectLinked`. -/
  isGroupObjectLinked : σ → UInt16 → Bool := fun _ _ => false
  /-- `receiveValue`, with the value taken as written from the bus. -/
  receiveValue : σ → UInt16 → List UInt8 → Option σ := fun _ _ _ => none
  /-- `sendGroupValue`. -/
  sendGroupValue : σ → UInt16 → List UInt8 → σ × Result (List TDataFrame) :=
    fun s _ _ => (s, .error .operationFailed)
  /-- `emitGroupValueForObject`. -/
  emitGroupValueForObject : σ → UInt16 → List UInt8 → σ × Result (List TDataFrame) :=
    fun s _ _ => (s, .error .operationFailed)
  /-- `requestGroupValue`. -/
  requestGroupValue : σ → UInt16 → σ × Result (List TDataFrame) :=
    fun s _ => (s, .error .operationFailed)
  /-- `handleApplicationFrame`: a group event is queued and answered later. -/
  handleApplicationFrame : σ → (destination : UInt16) → APCIService → List UInt8 → AddressType → σ :=
    fun s _ _ _ _ => s
  /-- `getProgMode`. -/
  programmingModeEnabled : σ → Bool := fun _ => false
  /-- `readIndividualAddress`. -/
  individualAddress : σ → IndividualAddress := fun _ => ⟨0xFFFF⟩
  /-- `DeviceObject::writeIndividualAddress`. -/
  writeIndividualAddress : σ → IndividualAddress → Option σ := fun _ _ => none
  /-- The part of `InterfaceObjectManager::saveToPersistence` for these objects. -/
  saveObjects : σ → Store → Store := fun _ store => store
  /-- The AD converter of the application. -/
  adcReadProvider : σ → (channel readCount : UInt8) → Option UInt16 := fun _ _ _ => none
  /-- The handlers of network parameters, if the application has installed any. -/
  networkParameterRead : σ → (objectType : UInt16) → (propertyId : UInt8) → List UInt8 →
    Option (List UInt8) := fun _ _ _ _ => none
  networkParameterWrite : σ → (objectType : UInt16) → (propertyId : UInt8) → List UInt8 → σ :=
    fun s _ _ _ => s
  /-- `AuthorizationService::handleRequest`, with the level as it is answered. -/
  authorize : σ → IndividualAddress → List UInt8 → σ × UInt8 := fun s _ _ => (s, 15)
  /-- The encoded device descriptors of type 0 and type 2. -/
  descriptorType0 : List UInt8 := [0x07, 0xB0]
  descriptorType2 : List UInt8 := List.replicate 14 0
  /-- The serial number and domain address of the commissioning services. -/
  serialNumber : List UInt8 := List.replicate 6 0
  domainAddress : UInt16 := 0

/-- `RestartType`. -/
inductive RestartType where
  | basic
  | masterReset
  deriving DecidableEq, Repr

/-- A device behind its management services. `objectTypes` lists the interface objects by index, and
`restarting` is set once the platform is told to restart. Three layers keep an individual address of
their own here, and the application layer keeps the programming mode; `groupAddresses` is the filter
of the data link layer. -/
structure ManagedDevice (σ : Type) where
  device : Device := {}
  objectTypes : List UInt16 := [0, 1, 2, 9, 3, 17]
  others : σ
  memory : Memory := []
  routerFilterTable : Option Network.FilterTable := none
  ownAddress : IndividualAddress := ⟨0xFFFF⟩
  transportAddress : IndividualAddress := ⟨0xFFFF⟩
  dataLinkAddress : IndividualAddress := ⟨0xFFFF⟩
  programmingModeEnabled : Bool := false
  groupAddresses : List UInt16 := []
  restarting : Option RestartType := none

variable {σ : Type} (backend : Backend σ)

namespace ManagedDevice

/-- The Security Interface Object. -/
def security (d : ManagedDevice σ) : SecurityInterfaceObject := d.device.security

/-- `resolveObjectType`, and `objectTypeForIndex` of the application layer: both maps are filled by
the same registration. -/
def resolveObjectType (d : ManagedDevice σ) (objectIndex : UInt8) : Option UInt16 :=
  d.objectTypes[objectIndex.toNat]?

/-- `resolveObject`: instances count from one, among the objects of a type. -/
def resolveObject (d : ManagedDevice σ) (objectType objectInstance : UInt16) : Option UInt8 :=
  if objectInstance = 0 ∨ 32 < d.objectTypes.length then none
  else
    let indices := (List.range d.objectTypes.length).filter fun index =>
      d.objectTypes[index]? == some objectType
    indices[objectInstance.toNat - 1]?.map UInt8.ofNat

/-! ## Persistence -/

/-- `saveToPersistence`. -/
def saveToPersistence (d : ManagedDevice σ) : ManagedDevice σ :=
  let device := d.device.saveToPersistence
  { d with device := { device with store := backend.saveObjects d.others device.store } }

/-- `pumpPersistence`; a save of the pump has all objects. -/
def pumpPersistence (d : ManagedDevice σ) (nowMs : UInt32) : ManagedDevice σ :=
  let device := d.device.pumpPersistence nowMs
  if d.device.persistenceDirty && !device.persistenceDirty then d.saveToPersistence backend
  else { d with device := device }

/-- The persistence part of `BusAccessUnit::loop`. -/
def loop (d : ManagedDevice σ) (nowMs : UInt32) : ManagedDevice σ :=
  let d := d.pumpPersistence backend nowMs
  { d with device := d.device.pumpSecuritySequenceCheckpoint nowMs }

/-- `flushPersistenceIfDirty`. -/
def flushPersistenceIfDirty (d : ManagedDevice σ) : ManagedDevice σ :=
  let d := if d.device.persistenceDirty then d.saveToPersistence backend else d
  { d with device := d.device.checkpointSecuritySequenceState }

/-! ## Addresses -/

/-- `StackPort::setOwnAddress`: the data link layer, the transport layer, the application layer and
the secure application layer. -/
def setOwnAddress (d : ManagedDevice σ) (address : IndividualAddress) : ManagedDevice σ :=
  { d with
    dataLinkAddress := address
    transportAddress := address
    ownAddress := address
    device := { d.device with secureAl := { d.device.secureAl with ownAddress := address } } }

/-- The callbacks of the Device Object, when the other objects change: for the programming mode and
for the individual address. -/
def deviceObjectCallbacks (d : ManagedDevice σ) (others : σ) : ManagedDevice σ :=
  let changed :=
    { d with
      others := others
      programmingModeEnabled :=
        if backend.programmingModeEnabled others = backend.programmingModeEnabled d.others then
          d.programmingModeEnabled
        else backend.programmingModeEnabled others }
  if backend.individualAddress others = backend.individualAddress d.others then changed
  else (changed.setOwnAddress (backend.individualAddress others)).saveToPersistence backend

/-- `Tp1DataLinkLayer::addGroupAddress`, with the capacity of its filter; the list of subscriptions
above it has the same capacity and the same content. -/
def addGroupAddress (groupAddresses : List UInt16) (address : UInt16) : List UInt16 :=
  if address ∈ groupAddresses ∨ 256 ≤ groupAddresses.length then groupAddresses
  else groupAddresses ++ [address]

/-- `resubscribeGroupAddresses`. -/
def resubscribeGroupAddresses (d : ManagedDevice σ) : ManagedDevice σ :=
  { d with
    groupAddresses :=
      ((backend.addressTable d.others).filter fun address => address ≠ 0).foldl addGroupAddress
        d.groupAddresses }

/-! ## Properties -/

/-- The properties that an object type registers. -/
def propertyDescriptors (objectType : UInt16) : List PropertyDescriptor :=
  if objectType = securityInterfaceObjectType then securityManifest.map SecurityProperty.descriptor
  else backend.propertyDescriptors objectType

/-- `getDescriptor`. -/
def getDescriptor (objectType : UInt16) (propertyId : UInt8) : Option PropertyDescriptor :=
  (propertyDescriptors backend objectType).find? fun descriptor => descriptor.id == propertyId

/-- `InterfaceObjectManager::describeProperty`. -/
def describeProperty (objectType : UInt16) (propertyId propertyIndex : UInt8) :
    Option PropertyDescription :=
  if objectType = securityInterfaceObjectType then describeSecurityProperty propertyId propertyIndex
  else backend.describeProperty objectType propertyId propertyIndex

/-- `InterfaceObjectManager::readProperty`. -/
def readProperty (d : ManagedDevice σ) (objectType : UInt16) (propertyId : UInt8)
    (startIndex elementCount : Nat) : Option (List UInt8) :=
  if objectType = securityInterfaceObjectType then
    match SecurityProperty.ofPid propertyId with
    | none => none
    | some p => d.security.readProperty p startIndex elementCount
  else backend.readProperty d.others objectType propertyId startIndex elementCount

/-- The property read provider. -/
def readProvider (d : ManagedDevice σ) (objectIndex propertyId : UInt8)
    (startIndex elementCount : Nat) : Option (List UInt8) :=
  match d.resolveObjectType objectIndex with
  | none => none
  | some objectType => d.readProperty backend objectType propertyId startIndex elementCount

/-- The group address table, the association table, the group object table and the application
program. -/
def isTableObject (objectType : UInt16) : Bool := objectType ∈ ([1, 2, 9, 3] : List UInt16)

/-- A write of PID_LOAD_STATE_CONTROL to a table. -/
def isLoadControlWrite (objectType : UInt16) (propertyId : UInt8) (value : List UInt8) : Bool :=
  isTableObject objectType && propertyId == 5 && !value.isEmpty

/-- A write that completes the load of a table. -/
def isLoadCompleted (objectType : UInt16) (propertyId : UInt8) (value : List UInt8) : Bool :=
  isLoadControlWrite objectType propertyId value && value.head? == some 2

/-- A write to a table that is to be persisted. Load events that do not complete the load are not. -/
def marksTable (objectType : UInt16) (propertyId : UInt8) (value : List UInt8) : Bool :=
  isTableObject objectType
    && (!isLoadControlWrite objectType propertyId value || isLoadCompleted objectType propertyId value)

/-- What follows a successful write to one of the other objects. A load that completes applies the
segment that was streamed before it. -/
def afterOtherWrite (d : ManagedDevice σ) (objectType : UInt16) (propertyId : UInt8)
    (value : List UInt8) (others : σ) : ManagedDevice σ :=
  let d := d.deviceObjectCallbacks backend others
  let d :=
    if isLoadCompleted objectType propertyId value then
      { d with others := backend.applyLoadedTableSegment d.others objectType d.memory }
    else d
  let marked := marksTable objectType propertyId value
  if objectType = 1 then
    let d := if marked then d.resubscribeGroupAddresses backend else d
    { d with device := d.device.writeAddressTable (backend.addressTable d.others) marked }
  else if marked then { d with device := d.device.markPersistenceDirty }
  else d

/-- The property write provider. -/
def writeProvider (d : ManagedDevice σ) (objectIndex propertyId : UInt8) (startIndex : Nat)
    (value : List UInt8) : Option (ManagedDevice σ) :=
  match d.resolveObjectType objectIndex with
  | none => none
  | some objectType =>
      if objectType = securityInterfaceObjectType then
        match SecurityProperty.ofPid propertyId with
        | none => none
        | some p =>
            if (d.security.writeProperty p startIndex value).isNone then none
            else some { d with device := d.device.writeSecurityProperty p startIndex value }
      else
        (backend.writeProperty d.others objectType propertyId startIndex value).map
          (d.afterOtherWrite backend objectType propertyId value)

end ManagedDevice

/-! ## Function properties -/

/-- `FunctionPropertyReturnCode`. -/
inductive FunctionPropertyReturnCode where
  | success
  | invalidProperty
  | invalidCommand
  | accessDenied
  | gdConfig
  | gdGoStatusValue
  | gdGoVoid
  | gdConfigFlags
  | gdGoSizeMismatch
  | commandInvalid
  | commandImpossible
  | dataVoid
  | error
  deriving DecidableEq, Repr

/-- The octet of a return code. -/
def FunctionPropertyReturnCode.code : FunctionPropertyReturnCode → UInt8
  | success => 0x00
  | invalidProperty => 0x01
  | invalidCommand => 0x02
  | accessDenied => 0x03
  | gdConfig => 0x20
  | gdGoStatusValue => 0x21
  | gdGoVoid => 0xA1
  | gdConfigFlags => 0xA2
  | gdGoSizeMismatch => 0xA3
  | commandInvalid => 0xF2
  | commandImpossible => 0xF3
  | dataVoid => 0xF8
  | error => 0xFF

/-- `translateFunctionPropertyReturnCode`. -/
def translateFunctionPropertyReturnCode : FunctionPropertyReturnCode → KnxReturnCode
  | .success => .success
  | .invalidProperty => .dataTypeConflict
  | .invalidCommand => .dataVoid
  | .accessDenied => .accessDenied
  | code => .other code.code

/-- `FunctionPropertyRequest`, without the index that selects its handler. -/
structure FunctionPropertyRequest where
  propertyId : UInt8
  invocation : Network.FunctionPropertyInvocation
  data : List UInt8
  security : RequestSecurity

/-- `FunctionPropertyResult`. -/
structure FunctionPropertyResult where
  returnCode : FunctionPropertyReturnCode
  data : List UInt8 := []
  deriving DecidableEq, Repr

/-- `kMaxFunctionPropertyDataBytes`. -/
def maxFunctionPropertyDataBytes : Nat := 32

/-- `handleSecurityFunctionProperty`; no result where the property is not a function property of the
object. -/
def handleSecurityFunctionProperty (o : SecurityInterfaceObject) (source : IndividualAddress)
    (request : FunctionPropertyRequest) : SecurityInterfaceObject × Option FunctionPropertyResult :=
  if (request.propertyId = SecurityProperty.loadStateControl.pid
        ∨ request.propertyId = SecurityProperty.securityMode.pid)
      ∧ request.invocation = .command ∧ request.security.toolSecured = false then
    (o.logSecurityFailure .invalidSender source.raw, some { returnCode := .accessDenied })
  else if request.propertyId = SecurityProperty.loadStateControl.pid then
    match request.invocation, request.data with
    | .command, [] => (o, some { returnCode := .invalidCommand })
    | .command, event :: _ =>
        let o := o.applyLoadControlEvent event
        (o, some { returnCode := .success, data := [o.loadState] })
    | .stateRead, _ => (o, some { returnCode := .success, data := [o.loadState] })
  else if request.propertyId ≠ SecurityProperty.securityMode.pid then (o, none)
  else
    -- Reserved, ServiceID and ServiceInfo, in both directions
    match request.data with
    | reserved :: serviceId :: serviceInfo =>
        if reserved ≠ 0 ∨ serviceId ≠ 0 then (o, some { returnCode := .invalidCommand })
        else
          match request.invocation, serviceInfo with
          | .stateRead, _ =>
              (o, some { returnCode := .success, data := [0, if o.isSecurityEnabled then 1 else 0] })
          | .command, [] => (o, some { returnCode := .invalidCommand })
          | .command, requested :: _ =>
              if 1 < requested then (o, some { returnCode := .invalidCommand })
              else
                ({ o with securityMode := requested }, some { returnCode := .success, data := [0] })
    | _ => (o, some { returnCode := .invalidCommand })

/-- `handleRouterFunctionProperty`: PID_ROUTETABLE_CONTROL of a device with the role of a router. -/
def handleRouterFunctionProperty (filterTable : Option Network.FilterTable)
    (request : FunctionPropertyRequest) :
    Option Network.FilterTable × Option FunctionPropertyResult :=
  match filterTable with
  | none => (none, none)
  | some table =>
      if request.propertyId ≠ 56 then (some table, none)
      else
        let invoked := Network.RoutingTableControl.invoke { filterTable := table }
          ⟨request.invocation, request.data⟩
        (some invoked.1.filterTable,
          match invoked.2 with
          | .error _ => none
          | .ok result =>
              some
                { returnCode := if result.returnCode = .success then .success else .error
                  data := result.data })

namespace ManagedDevice

/-! ## Group object diagnostics -/

/-- The number of a group object and the object, as the ServiceInfo names it. -/
def resolveGroupObject (d : ManagedDevice σ) (serviceInfo : List UInt8) :
    Option (UInt16 × GroupObject) :=
  match serviceInfo with
  | high :: low :: _ => (backend.getGroupObject d.others (joinBytes high low)).map (joinBytes high low, ·)
  | _ => none

/-- `answerStatusValue`: a value that does not fit the answer is an error. -/
def answerStatusValue (serviceId : UInt8) (goNumber : UInt16) (transmissionStatus : UInt8)
    (object : GroupObject) : FunctionPropertyResult :=
  let data := serviceId :: highByte goNumber :: lowByte goNumber :: transmissionStatus :: object.rawValue
  if data.length ≤ maxFunctionPropertyDataBytes then { returnCode := .gdGoStatusValue, data := data }
  else { returnCode := .error, data := [serviceId] }

/-- `expectedValueOctets`. -/
def expectedValueOctets (object : GroupObject) : Nat :=
  if object.payloadBits = 0 then object.rawValue.length
  else if object.payloadBits < 8 then 1
  else object.payloadBits / 8

/-- The GO Config of a group object: the high octet of its descriptor, its security flags and whether
a group address is linked to it. -/
def groupObjectConfig (d : ManagedDevice σ) (goNumber : UInt16) (object : GroupObject) : UInt16 :=
  let flags := (((d.security.extraProperties .goSecurityFlags).getD [])[goNumber.toNat]?).getD 0
  (object.descriptor >>> 8)
    ||| (if flags &&& 0x01 ≠ 0 then 0x0100 else 0)
    ||| (if flags &&& 0x02 ≠ 0 then 0x0200 else 0)
    ||| (if backend.isGroupObjectLinked d.others goNumber then 0x0400 else 0)

/-- `handleGroupObjectDiagnostics`, State_Read. -/
def readGroupObjectDiagnostics (d : ManagedDevice σ) (serviceId : UInt8) (serviceInfo : List UInt8) :
    FunctionPropertyResult :=
  if serviceId = 0x00 then
    match d.resolveGroupObject backend serviceInfo with
    | none => { returnCode := .gdGoVoid, data := [serviceId] }
    | some (goNumber, object) =>
        let config := d.groupObjectConfig backend goNumber object
        { returnCode := .gdConfig
          data := [serviceId, highByte goNumber, lowByte goNumber, highByte config, lowByte config,
            object.valueFieldType, highByte object.dptMain, lowByte object.dptMain,
            highByte object.dptSub, lowByte object.dptSub] }
  else if serviceId = 0x01 then
    match d.resolveGroupObject backend serviceInfo with
    | none => { returnCode := .gdGoVoid, data := [serviceId] }
    | some (goNumber, object) => answerStatusValue serviceId goNumber 0x00 object
  else { returnCode := .commandInvalid, data := [serviceId] }

/-- `validateGroupDiagnosticsFlags`. -/
def validateGroupDiagnosticsFlags (d : ManagedDevice σ) (flags : UInt8) (destination : UInt16)
    (allowSelector : Bool) : FunctionPropertyReturnCode :=
  let allowed : UInt8 := 0x03 ||| (if allowSelector then 0x80 else 0)
  if flags &&& ~~~allowed ≠ 0 then .dataVoid
  else if destination = 0 ∨ destination ∉ d.device.addressTable then .dataVoid
  else if flags &&& 0x03 ≠ 0 ∧ d.security.groupKeys destination = none then .dataVoid
  else .success

/-- A group service that is sent and then given to the device itself. -/
def sendAndIndicate (d : ManagedDevice σ) (serviceId : UInt8) (destination : UInt16)
    (service : APCIService) (value : List UInt8) (sent : σ × Result (List TDataFrame)) :
    ManagedDevice σ × FunctionPropertyResult × List TDataFrame :=
  match sent.2 with
  | .error _ => ({ d with others := sent.1 }, { returnCode := .error, data := [serviceId] }, [])
  | .ok frames =>
      ({ d with
        others := backend.handleApplicationFrame sent.1 destination service value .group },
        { returnCode := .success, data := [serviceId] }, frames)

/-- `handleGroupObjectDiagnostics`, Command. -/
def commandGroupObjectDiagnostics (d : ManagedDevice σ) (serviceId : UInt8)
    (serviceInfo : List UInt8) : ManagedDevice σ × FunctionPropertyResult × List TDataFrame :=
  if serviceId = 0x00 then
    match d.resolveGroupObject backend serviceInfo with
    | none => (d, { returnCode := .gdGoVoid, data := [serviceId] }, [])
    | some (goNumber, object) =>
        let value := serviceInfo.drop 2
        if value = [] ∨ value.length ≠ expectedValueOctets object then
          (d, { returnCode := .gdGoSizeMismatch, data := [serviceId] }, [])
        else
          match backend.receiveValue d.others goNumber value with
          | none => (d, { returnCode := .gdConfigFlags, data := [serviceId] }, [])
          | some others =>
              let object := (backend.getGroupObject others goNumber).getD object
              ({ d with others := others }, answerStatusValue serviceId goNumber 0x00 object, [])
  else if serviceId = 0x01 then
    match serviceInfo with
    | flags :: high :: low :: octet :: rest =>
        let destination := joinBytes high low
        match d.validateGroupDiagnosticsFlags flags destination true with
        | .success =>
            d.sendAndIndicate backend serviceId destination .groupValueWrite (octet :: rest)
              (backend.sendGroupValue d.others destination (octet :: rest))
        | code => (d, { returnCode := code, data := [serviceId] }, [])
    | _ => (d, { returnCode := .dataVoid, data := [serviceId] }, [])
  else if serviceId = 0x02 then
    match d.resolveGroupObject backend serviceInfo with
    | none => (d, { returnCode := .gdGoVoid, data := [serviceId] }, [])
    | some (goNumber, object) =>
        if !object.transmit then (d, { returnCode := .gdConfigFlags, data := [serviceId] }, [])
        else
          let emitted := backend.emitGroupValueForObject d.others goNumber object.rawValue
          let d := { d with others := emitted.1 }
          match emitted.2 with
          | .error _ => (d, answerStatusValue serviceId goNumber 0x01 object, [])
          | .ok frames => (d, answerStatusValue serviceId goNumber 0x00 object, frames)
  else if serviceId = 0x03 then
    match serviceInfo with
    | flags :: high :: low :: _ =>
        let destination := joinBytes high low
        match d.validateGroupDiagnosticsFlags flags destination false with
        | .success =>
            d.sendAndIndicate backend serviceId destination .groupValueRead []
              (backend.requestGroupValue d.others destination)
        | code => (d, { returnCode := code, data := [serviceId] }, [])
    | _ => (d, { returnCode := .dataVoid, data := [serviceId] }, [])
  else if serviceId = 0x04 then (d, { returnCode := .commandImpossible, data := [serviceId] }, [])
  else (d, { returnCode := .commandInvalid, data := [serviceId] }, [])

/-- `handleGroupObjectDiagnostics`: PID_GO_DIAGNOSTICS of the Group Object Table. -/
def handleGroupObjectDiagnostics (d : ManagedDevice σ) (request : FunctionPropertyRequest) :
    ManagedDevice σ × Option FunctionPropertyResult × List TDataFrame :=
  if request.propertyId ≠ 66 then (d, none, [])
  else
    match request.data with
    | _ :: serviceId :: serviceInfo =>
        match request.invocation with
        | .stateRead => (d, some (d.readGroupObjectDiagnostics backend serviceId serviceInfo), [])
        | .command =>
            let commanded := d.commandGroupObjectDiagnostics backend serviceId serviceInfo
            (commanded.1, some commanded.2.1, commanded.2.2)
    | _ => (d, some { returnCode := .commandInvalid }, [])

/-- The handler of the function properties of an object type. -/
def handleFunctionProperty (d : ManagedDevice σ) (source : IndividualAddress) (objectType : UInt16)
    (request : FunctionPropertyRequest) :
    ManagedDevice σ × Option FunctionPropertyResult × List TDataFrame :=
  if objectType = securityInterfaceObjectType then
    let handled := handleSecurityFunctionProperty d.security source request
    ({ d with device := { d.device with security := handled.1 } }, handled.2, [])
  else if objectType = 6 then
    let handled := handleRouterFunctionProperty d.routerFilterTable request
    ({ d with routerFilterTable := handled.1 }, handled.2, [])
  else if objectType = 9 then d.handleGroupObjectDiagnostics backend request
  else (d, none, [])

end ManagedDevice

end KnxStack.Bau
