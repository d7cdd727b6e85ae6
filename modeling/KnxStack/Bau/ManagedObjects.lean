import Mathlib.Data.List.Sort
import KnxStack.Bau.ManagementOperations
import KnxStack.Bau.ObjectRoundTrip

/-!
# A device with its interface objects

`BusAccessUnit` with the interface objects behind its management services (`bau/bau.cpp`): the
`Backend` that they make together with a `Runtime` for everything else, `init` on a store, and the
events of a device in use.

The Runtime reads the interface objects and changes only its own state. So a frame changes the
interface objects through the property services and through the address services alone, and the
lemmas here say for every operation which of them it can change.
-/

set_option autoImplicit false

namespace KnxStack.Objects

open KnxStack.Application

/-! ## Load segments -/

/-- The memory segments that `bind` registers, at start-up: `table_segments.hpp`. -/
def tableSegments : Memory :=
  [{ region := ⟨0x4000, 514, .readWrite⟩
     storage := List.replicate 514 0
     covers := Nat.le_of_eq (List.length_replicate).symm },
   { region := ⟨0x4400, 2050, .readWrite⟩
     storage := List.replicate 2050 0
     covers := Nat.le_of_eq (List.length_replicate).symm },
   { region := ⟨0x5000, 514, .readWrite⟩
     storage := List.replicate 514 0
     covers := Nat.le_of_eq (List.length_replicate).symm },
   { region := ⟨0x0100, 0x100, .readWrite⟩
     storage := List.replicate 0x100 0
     covers := Nat.le_of_eq (List.length_replicate).symm }]

/-- The segment that starts at an address. -/
def segmentAt (memory : Memory) (startAddress : UInt16) : Option MemorySegment :=
  memory.find? fun segment => segment.region.startAddress == startAddress

/-- Where the segment of a table starts. -/
def tableSegmentBase (objectType : UInt16) : UInt16 :=
  if objectType = 1 then 0x4000
  else if objectType = 2 then 0x4400
  else if objectType = 9 then 0x5000
  else 0x0100

/-- `applyLoadedTableSegment`. A parameter segment that was never written is not applied. -/
def CoreObjects.applyLoadedTableSegment (o : CoreObjects) (objectType : UInt16) (memory : Memory) :
    CoreObjects :=
  match segmentAt memory (tableSegmentBase objectType) with
  | none => o
  | some segment =>
      if objectType = 3 ∧ segment.written = false then o
      else o.applySegment objectType segment.storage

end KnxStack.Objects

namespace KnxStack.Bau

open KnxStack.Application KnxStack.Lib KnxStack.Lib.Octets KnxStack.Lib.Words KnxStack.Objects
open KnxStack.Transport (TDataFrame)

/-! ## The device behind the services -/

/-- The parts of a device beside the interface objects: group objects, authorization and what the
application installs. They read the interface objects and change their own state `τ`. -/
structure Runtime (τ : Type) where
  getGroupObject : CoreObjects → τ → UInt16 → Option GroupObject := fun _ _ _ => none
  isGroupObjectLinked : CoreObjects → τ → UInt16 → Bool := fun _ _ _ => false
  receiveValue : CoreObjects → τ → UInt16 → List UInt8 → Option τ := fun _ _ _ _ => none
  sendGroupValue : CoreObjects → τ → UInt16 → List UInt8 → τ × Result (List TDataFrame) :=
    fun _ t _ _ => (t, .error .operationFailed)
  emitGroupValueForObject : CoreObjects → τ → UInt16 → List UInt8 → τ × Result (List TDataFrame) :=
    fun _ t _ _ => (t, .error .operationFailed)
  requestGroupValue : CoreObjects → τ → UInt16 → τ × Result (List TDataFrame) :=
    fun _ t _ => (t, .error .operationFailed)
  handleApplicationFrame : CoreObjects → τ → (destination : UInt16) → APCIService → List UInt8 →
    AddressType → τ := fun _ t _ _ _ _ => t
  adcReadProvider : CoreObjects → τ → (channel readCount : UInt8) → Option UInt16 :=
    fun _ _ _ _ => none
  networkParameterRead : CoreObjects → τ → (objectType : UInt16) → (propertyId : UInt8) →
    List UInt8 → Option (List UInt8) := fun _ _ _ _ _ => none
  networkParameterWrite : CoreObjects → τ → (objectType : UInt16) → (propertyId : UInt8) →
    List UInt8 → τ := fun _ t _ _ _ => t
  authorize : CoreObjects → τ → IndividualAddress → List UInt8 → τ × UInt8 := fun _ t _ _ => (t, 15)
  descriptorType0 : List UInt8 := [0x07, 0xB0]
  descriptorType2 : List UInt8 := List.replicate 14 0
  serialNumber : List UInt8 := List.replicate 6 0
  domainAddress : UInt16 := 0

variable {τ : Type}

/-- The interface objects and a Runtime as the backend of the services. -/
def coreBackend (runtime : Runtime τ) (schema : ReferenceSchema) : Backend (CoreObjects × τ) where
  propertyDescriptors := fun objectType =>
    ((objectHandlers schema objectType).map ObjectProperty.descriptor).insertionSort
      fun a b => a.id ≤ b.id
  readProperty := fun s objectType propertyId startIndex elementCount =>
    s.1.readProperty schema objectType propertyId startIndex elementCount
  writeProperty := fun s objectType propertyId startIndex value =>
    (s.1.writeProperty schema objectType propertyId startIndex value).map (·, s.2)
  describeProperty := CoreObjects.describeProperty schema
  addressTable := fun s => s.1.addressTable.entries
  applyLoadedTableSegment := fun s objectType memory =>
    (s.1.applyLoadedTableSegment objectType memory, s.2)
  getGroupObject := fun s => runtime.getGroupObject s.1 s.2
  isGroupObjectLinked := fun s => runtime.isGroupObjectLinked s.1 s.2
  receiveValue := fun s goNumber value => (runtime.receiveValue s.1 s.2 goNumber value).map (s.1, ·)
  sendGroupValue := fun s address value =>
    let sent := runtime.sendGroupValue s.1 s.2 address value
    ((s.1, sent.1), sent.2)
  emitGroupValueForObject := fun s goNumber value =>
    let sent := runtime.emitGroupValueForObject s.1 s.2 goNumber value
    ((s.1, sent.1), sent.2)
  requestGroupValue := fun s address =>
    let sent := runtime.requestGroupValue s.1 s.2 address
    ((s.1, sent.1), sent.2)
  handleApplicationFrame := fun s destination service data destinationType =>
    (s.1, runtime.handleApplicationFrame s.1 s.2 destination service data destinationType)
  programmingModeEnabled := fun s => s.1.deviceObject.progMode
  individualAddress := fun s => s.1.deviceObject.individualAddress
  writeIndividualAddress := fun s address =>
    (s.1.deviceObject.writeIndividualAddress address).map fun deviceObject =>
      ({ s.1 with deviceObject := deviceObject }, s.2)
  saveObjects := fun s store => store.saveObjects schema s.1
  adcReadProvider := fun s => runtime.adcReadProvider s.1 s.2
  networkParameterRead := fun s => runtime.networkParameterRead s.1 s.2
  networkParameterWrite := fun s objectType propertyId value =>
    (s.1, runtime.networkParameterWrite s.1 s.2 objectType propertyId value)
  authorize := fun s source key =>
    let authorized := runtime.authorize s.1 s.2 source key
    ((s.1, authorized.1), authorized.2)
  descriptorType0 := runtime.descriptorType0
  descriptorType2 := runtime.descriptorType2
  serialNumber := runtime.serialNumber
  domainAddress := runtime.domainAddress

/-- What a device is built with. -/
structure Configuration (τ : Type) where
  identity : Identity := {}
  ownAddress : IndividualAddress := ⟨0xFFFF⟩
  deviceObject : DeviceObject := {}
  groupObjectTable : GroupObjectTable := {}
  referenceTypes : List UInt16 := []
  schema : ReferenceSchema := fun _ => []
  referenceValues : UInt16 → UInt8 → List UInt8 := fun _ _ => []
  routerFilterTable : Option Network.FilterTable := none
  runtime : Runtime τ := {}
  state : τ

namespace Configuration

variable (config : Configuration τ)

/-- The backend of the services. -/
def backend : Backend (CoreObjects × τ) := coreBackend config.runtime config.schema

/-- The interface objects before anything is restored: `init` sets the address first. -/
def fresh : CoreObjects :=
  { deviceObject := { config.deviceObject with individualAddress := config.ownAddress }
    groupObjectTable := config.groupObjectTable
    referenceValues := config.referenceValues }

/-- `BusAccessUnit::init` of a fresh device on a store. The address comes to the layers when all of it
is restored; a device that is up is loaded and running. -/
def boot (store : Store) : ManagedDevice (CoreObjects × τ) :=
  let store := store.enforcePersistenceSchemaVersion config.identity.schemaVersion
  let restored := config.fresh.load config.schema store
  let address := restored.deviceObject.individualAddress
  let security := loadSecuritySequenceState store
    (applySecurityKeyTables (restoredSecurity store) restored.addressTable.entries)
  let device : ManagedDevice (CoreObjects × τ) :=
    { device :=
        { security := security
          secureAl := { ownAddress := address, serialNumber := config.identity.serialNumber }
          addressTable := restored.addressTable.entries
          store := store }
      objectTypes := [0, 1, 2, 9, 3, 17] ++ config.referenceTypes
      others :=
        ({ restored with
            deviceObject := { restored.deviceObject with loadState := 2, runState := 1 } },
          config.state)
      memory := tableSegments
      routerFilterTable := config.routerFilterTable
      ownAddress := address
      transportAddress := address
      dataLinkAddress := address
      programmingModeEnabled := restored.deviceObject.progMode }
  device.resubscribeGroupAddresses config.backend

end Configuration

/-! ## Events -/

/-- What happens to a device in use. -/
inductive ManagedEvent (τ : Type) where
  /-- A frame comes to the application layer. -/
  | frame (frame : TDataFrame)
  /-- The main loop comes to `pumpPersistence`. -/
  | loop (nowMs : UInt32)
  /-- `flushPersistenceIfDirty`. -/
  | flush
  /-- The programming button, or the end of its time. -/
  | setProgMode (enable : Bool)
  /-- The group objects and the application go on. -/
  | runtime (state : τ)
  /-- The device starts again on what is stored. -/
  | reboot

/-- One event. -/
def managedStep (config : Configuration τ) (d : ManagedDevice (CoreObjects × τ)) :
    ManagedEvent τ → ManagedDevice (CoreObjects × τ)
  | .frame frame => (d.handleTransportRx config.backend frame).1
  | .loop nowMs => d.loop config.backend nowMs
  | .flush => d.flushPersistenceIfDirty config.backend
  | .setProgMode enable =>
      d.deviceObjectCallbacks config.backend
        ({ d.others.1 with deviceObject := { d.others.1.deviceObject with progMode := enable } },
          d.others.2)
  | .runtime state => { d with others := (d.others.1, state) }
  | .reboot => config.boot d.device.store

/-! ## What operations change -/

namespace ManagedDevice

variable (config : Configuration τ) (d : ManagedDevice (CoreObjects × τ))

/-- The interface objects beside the Security Interface Object. -/
def core (d : ManagedDevice (CoreObjects × τ)) : CoreObjects := d.others.1

/-- A device as it was, but for the state of the Runtime and the filter table of a router. -/
def elsewhere (d : ManagedDevice (CoreObjects × τ)) (state : τ)
    (routerFilterTable : Option Network.FilterTable) : ManagedDevice (CoreObjects × τ) :=
  { d with others := (d.others.1, state), routerFilterTable := routerFilterTable }

theorem serveRuntime_eq (frame : ADataFrame) :
    ∃ state, d.serveRuntime config.backend frame = d.elsewhere state d.routerFilterTable := by
  rw [serveRuntime]
  split
  · rw [handleAuthorizeRequest]
    split
    · exact ⟨_, rfl⟩
    · exact ⟨_, rfl⟩
  · rw [handleNetworkParameterWrite]
    split
    · exact ⟨_, rfl⟩
    · exact ⟨_, rfl⟩
  · exact ⟨_, rfl⟩

theorem sendAndIndicate_eq (serviceId : UInt8) (destination : UInt16) (service : APCIService)
    (value : List UInt8) (sent : τ × Result (List TDataFrame)) :
    ∃ state, (d.sendAndIndicate config.backend serviceId destination service value
      ((d.others.1, sent.1), sent.2)).1 = d.elsewhere state d.routerFilterTable := by
  rw [sendAndIndicate]
  split
  · exact ⟨_, rfl⟩
  · exact ⟨_, rfl⟩

theorem commandGroupObjectDiagnostics_eq (serviceId : UInt8) (serviceInfo : List UInt8) :
    ∃ state, (d.commandGroupObjectDiagnostics config.backend serviceId serviceInfo).1
      = d.elsewhere state d.routerFilterTable := by
  rw [commandGroupObjectDiagnostics.eq_def]
  split
  · -- a value set in the group object
    split
    · exact ⟨_, rfl⟩
    · dsimp only
      split
      · exact ⟨_, rfl⟩
      · split
        · exact ⟨_, rfl⟩
        · rename_i others hreceived
          obtain ⟨state, -, rfl⟩ := Option.map_eq_some_iff.mp hreceived
          exact ⟨state, rfl⟩
  · split
    · split
      · dsimp only
        split
        · exact sendAndIndicate_eq config d _ _ _ _ _
        · exact ⟨_, rfl⟩
      · exact ⟨_, rfl⟩
    · split
      · split
        · exact ⟨_, rfl⟩
        · split
          · exact ⟨_, rfl⟩
          · dsimp only
            split
            · exact ⟨_, rfl⟩
            · exact ⟨_, rfl⟩
      · split
        · split
          · dsimp only
            split
            · exact sendAndIndicate_eq config d _ _ _ _ _
            · exact ⟨_, rfl⟩
          · exact ⟨_, rfl⟩
        · split
          · exact ⟨_, rfl⟩
          · exact ⟨_, rfl⟩

/-- A function property reaches the Security Interface Object, or neither it nor the others. -/
theorem handleFunctionProperty_cases (source : IndividualAddress) (objectType : UInt16)
    (request : FunctionPropertyRequest) :
    (objectType = securityInterfaceObjectType
        ∧ (d.handleFunctionProperty config.backend source objectType request).1
          = { d with device := { d.device with
              security := (handleSecurityFunctionProperty d.security source request).1 } })
      ∨ ∃ state table, (d.handleFunctionProperty config.backend source objectType request).1
          = d.elsewhere state table := by
  rw [handleFunctionProperty]
  split
  · rename_i hsecurity
    exact .inl ⟨hsecurity, rfl⟩
  · right
    split
    · exact ⟨d.others.2, _, rfl⟩
    · split
      · rw [handleGroupObjectDiagnostics]
        split
        · exact ⟨_, _, rfl⟩
        · split
          · split
            · exact ⟨_, _, rfl⟩
            · obtain ⟨state, hstate⟩ := commandGroupObjectDiagnostics_eq config d _ _
              exact ⟨state, _, hstate⟩
          · exact ⟨_, _, rfl⟩
      · exact ⟨_, _, rfl⟩

theorem writeProvider_cases {objectIndex propertyId : UInt8} {startIndex : Nat}
    {value : List UInt8} {d d' : ManagedDevice (CoreObjects × τ)}
    (h : d.writeProvider config.backend objectIndex propertyId startIndex value = some d') :
    (∃ p, d.resolveObjectType objectIndex = some securityInterfaceObjectType
        ∧ SecurityProperty.ofPid propertyId = some p
        ∧ (d.security.writeProperty p startIndex value).isSome
        ∧ d' = { d with device := d.device.writeSecurityProperty p startIndex value })
      ∨ ∃ objectType core, d.resolveObjectType objectIndex = some objectType
        ∧ objectType ≠ securityInterfaceObjectType
        ∧ d.core.writeProperty config.schema objectType propertyId startIndex value = some core
        ∧ d' = d.afterOtherWrite config.backend objectType propertyId value (core, d.others.2) := by
  rw [writeProvider] at h
  cases hindex : d.resolveObjectType objectIndex with
  | none =>
    rw [hindex] at h
    cases h
  | some objectType =>
    rw [hindex] at h
    dsimp only at h
    by_cases hsecurity : objectType = securityInterfaceObjectType
    · rw [if_pos hsecurity] at h
      subst hsecurity
      cases hpid : SecurityProperty.ofPid propertyId with
      | none =>
        rw [hpid] at h
        cases h
      | some p =>
        rw [hpid] at h
        dsimp only at h
        split at h
        · cases h
        · rename_i hsome
          cases h
          exact .inl ⟨p, rfl, rfl, Option.isSome_iff_ne_none.mpr (by simpa using hsome), rfl⟩
    · rw [if_neg hsecurity] at h
      obtain ⟨others, hothers, rfl⟩ := Option.map_eq_some_iff.mp h
      obtain ⟨core, hcore, rfl⟩ := Option.map_eq_some_iff.mp hothers
      exact .inr ⟨objectType, core, rfl, hsecurity, hcore, rfl⟩

theorem deviceObjectCallbacks_same {core : CoreObjects} (state : τ)
    (h : core.deviceObject = d.core.deviceObject) :
    d.deviceObjectCallbacks config.backend (core, state) = { d with others := (core, state) } := by
  have haddress : config.backend.individualAddress (core, state)
      = config.backend.individualAddress d.others := congrArg DeviceObject.individualAddress h
  have hmode : config.backend.programmingModeEnabled (core, state)
      = config.backend.programmingModeEnabled d.others := congrArg DeviceObject.progMode h
  simp only [deviceObjectCallbacks, if_pos haddress, if_pos hmode]

/-- The interface objects after a successful write: a load that completes applies the segment. -/
def afterLoad (d : ManagedDevice (CoreObjects × τ)) (objectType : UInt16) (propertyId : UInt8)
    (value : List UInt8) (core : CoreObjects) : CoreObjects :=
  if isLoadCompleted objectType propertyId value then
    core.applyLoadedTableSegment objectType d.memory
  else core

theorem afterOtherWrite_deviceObject (propertyId : UInt8) (value : List UInt8)
    (others : CoreObjects × τ) :
    d.afterOtherWrite config.backend 0 propertyId value others
      = d.deviceObjectCallbacks config.backend others := rfl

/-- What a write to an object other than the Device Object leaves: the new objects, and of the device
its mark, its keys and its filter. -/
structure TableWritten (objectType : UInt16) (propertyId : UInt8) (value : List UInt8)
    (core : CoreObjects) (d d' : ManagedDevice (CoreObjects × τ)) : Prop where
  core : d'.core = d.afterLoad objectType propertyId value core
  memory : d'.memory = d.memory
  objectTypes : d'.objectTypes = d.objectTypes
  ownAddress : d'.ownAddress = d.ownAddress
  transportAddress : d'.transportAddress = d.transportAddress
  dataLinkAddress : d'.dataLinkAddress = d.dataLinkAddress
  programmingModeEnabled : d'.programmingModeEnabled = d.programmingModeEnabled
  device : d'.device
    = if objectType = 1 then
        d.device.writeAddressTable d'.core.addressTable.entries (marksTable objectType propertyId value)
      else if marksTable objectType propertyId value then d.device.markPersistenceDirty
      else d.device
  groupAddresses : d'.groupAddresses
    = if objectType = 1 ∧ marksTable objectType propertyId value = true then
        (d'.core.addressTable.entries.filter fun address => address ≠ 0).foldl addGroupAddress
          d.groupAddresses
      else d.groupAddresses

theorem afterOtherWrite_cases {objectType : UInt16} {propertyId : UInt8} {value : List UInt8}
    {core : CoreObjects} (hcore : core.deviceObject = d.core.deviceObject) :
    TableWritten objectType propertyId value core d
      (d.afterOtherWrite config.backend objectType propertyId value (core, d.others.2)) := by
  rw [afterOtherWrite, deviceObjectCallbacks_same config d _ hcore]
  dsimp only
  -- the segment is applied or not, the table is the address table or not, the write marks or not
  cases hcompleted : isLoadCompleted objectType propertyId value
  all_goals
    by_cases htable : objectType = 1
    · subst htable
      cases hmarked : marksTable 1 propertyId value
      all_goals
        constructor
        all_goals
          simp [ManagedDevice.core, afterLoad, hcompleted, hmarked, resubscribeGroupAddresses,
            Configuration.backend, coreBackend]
    · rw [if_neg htable]
      cases hmarked : marksTable objectType propertyId value
      all_goals
        constructor
        all_goals
          simp [ManagedDevice.core, afterLoad, hcompleted, hmarked, htable, Configuration.backend,
            coreBackend]

/-- What an operation can do to a device. -/
inductive Effect : Operation → ManagedDevice (CoreObjects × τ) → Prop
  /-- Nothing, also where the operation is refused. -/
  | refused (operation : Operation) : Effect operation d
  /-- A part beside the interface objects changes. -/
  | elsewhere (operation : Operation) (state : τ) (table : Option Network.FilterTable) :
      Effect operation (d.elsewhere state table)
  /-- Memory is written. -/
  | memory (address : UInt16) (data : List UInt8) :
      Effect (.writeMemory address data)
        { d with memory := (writeMemory address data d.memory).getD d.memory }
  /-- A function property of the Security Interface Object is invoked. -/
  | securityFunction (source : IndividualAddress) (request : FunctionPropertyRequest) :
      Effect (.functionProperty source securityInterfaceObjectType request)
        { d with device := { d.device with
            security := (handleSecurityFunctionProperty d.security source request).1 } }
  /-- A property of the Security Interface Object is written. -/
  | securityWrite (objectIndex propertyId : UInt8) (startIndex : Nat) (value : List UInt8)
      (p : SecurityProperty) (hpid : SecurityProperty.ofPid propertyId = some p)
      (hwritten : (d.security.writeProperty p startIndex value).isSome)
      (hindex : d.resolveObjectType objectIndex = some securityInterfaceObjectType) :
      Effect (.writeProperty objectIndex propertyId startIndex value)
        { d with device := d.device.writeSecurityProperty p startIndex value }
  /-- A property of the Device Object is written. -/
  | deviceWrite (objectIndex propertyId : UInt8) (startIndex : Nat) (value : List UInt8)
      (core : CoreObjects)
      (hwritten : d.core.writeProperty config.schema 0 propertyId startIndex value = some core)
      (hindex : d.resolveObjectType objectIndex = some 0) :
      Effect (.writeProperty objectIndex propertyId startIndex value)
        (d.deviceObjectCallbacks config.backend (core, d.others.2))
  /-- A property of another object is written. -/
  | tableWrite (objectIndex propertyId : UInt8) (startIndex : Nat) (value : List UInt8)
      (objectType : UInt16) (core : CoreObjects) (d' : ManagedDevice (CoreObjects × τ))
      (hdevice : objectType ≠ 0) (hsecurity : objectType ≠ securityInterfaceObjectType)
      (hwritten : d.core.writeProperty config.schema objectType propertyId startIndex value = some core)
      (hindex : d.resolveObjectType objectIndex = some objectType)
      (htable : TableWritten objectType propertyId value core d d') :
      Effect (.writeProperty objectIndex propertyId startIndex value) d'
  /-- The Device Object refuses an address that the application layer has taken. -/
  | addressRefused (address : IndividualAddress) (hmode : d.core.deviceObject.progMode = false) :
      Effect (.assignAddress address) { d with ownAddress := address }
  /-- The Device Object takes an address. -/
  | addressTaken (address : IndividualAddress) (hmode : d.core.deviceObject.progMode = true) :
      Effect (.assignAddress address)
        (({ d with ownAddress := address } : ManagedDevice (CoreObjects × τ)).deviceObjectCallbacks
          config.backend
          ({ d.core with
              deviceObject := { d.core.deviceObject with individualAddress := address } },
            d.others.2))
  /-- Everything is flushed, and the platform is told to restart. -/
  | flushed (type : RestartType) :
      Effect (.restart type)
        { d.flushPersistenceIfDirty config.backend with restarting := some type }

theorem effect_apply (operation : Operation) :
    Effect config d operation (d.apply config.backend operation) := by
  cases operation with
  | nothing => exact .refused _
  | writeProperty objectIndex propertyId startIndex value =>
    rw [apply]
    cases hwrite : d.writeProvider config.backend objectIndex propertyId startIndex value with
    | none => exact .refused _
    | some d' =>
      rw [Option.getD_some]
      rcases writeProvider_cases config hwrite with
        ⟨p, hindex, hpid, hwritten, rfl⟩ | ⟨objectType, core, hindex, hsecurity, hwritten, rfl⟩
      · exact .securityWrite objectIndex propertyId startIndex value p hpid hwritten hindex
      · by_cases hdevice : objectType = 0
        · subst hdevice
          rw [afterOtherWrite_deviceObject]
          exact .deviceWrite objectIndex propertyId startIndex value core hwritten hindex
        · have hkept := (CoreObjects.keepsOthers_writeProperty config.schema hwritten).deviceObject hdevice
          exact .tableWrite objectIndex propertyId startIndex value objectType core _ hdevice hsecurity
            hwritten hindex (afterOtherWrite_cases config d hkept)
  | functionProperty source objectType request =>
    rw [apply]
    rcases handleFunctionProperty_cases config d source objectType request with
      ⟨rfl, hchanged⟩ | ⟨state, table, hchanged⟩
    · rw [hchanged]
      exact .securityFunction source request
    · rw [hchanged]
      exact .elsewhere _ state table
  | writeMemory address data => exact .memory address data
  | assignAddress address =>
    rw [apply, updateIndividualAddress]
    dsimp only [Configuration.backend, coreBackend]
    rw [DeviceObject.writeIndividualAddress]
    split
    · rename_i hrefused
      split at hrefused
      · cases hrefused
      · rename_i hmode
        exact .addressRefused address (Bool.eq_false_iff.mpr hmode)
    · rename_i others htaken
      split at htaken
      · rename_i hmode
        cases htaken
        exact .addressTaken address hmode
      · cases htaken
  | restart type => exact .flushed type
  | runtime frame =>
    obtain ⟨state, hstate⟩ := serveRuntime_eq config d frame
    rw [apply, hstate]
    exact .elsewhere _ state d.routerFilterTable

end ManagedDevice

end KnxStack.Bau
