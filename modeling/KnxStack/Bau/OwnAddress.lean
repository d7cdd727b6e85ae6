import KnxStack.Bau.ManagedObjects

/-!
# The own individual address

Five parts of a device keep its individual address: the application layer, the transport layer, the
data link layer, the secure application layer and the Device Object. A change enters at the Device
Object, whose callback tells the layers, or at the application layer, which takes the address and
asks the Device Object.

The second way has a gap. The Device Object takes an address in programming mode only, and a write by
serial number does not need that mode; so outside it the application layer moves alone.
`own_addresses_agree_iff` says that nothing else makes the five differ.
-/

set_option autoImplicit false

namespace KnxStack.Bau

open KnxStack.Application KnxStack.Lib KnxStack.Objects
open KnxStack.Transport (TDataFrame)

variable {τ : Type}

namespace ManagedDevice

/-- The layers have the address of the Device Object. -/
structure AddressesAgree (d : ManagedDevice (CoreObjects × τ)) : Prop where
  application : d.ownAddress = d.core.deviceObject.individualAddress
  transport : d.transportAddress = d.core.deviceObject.individualAddress
  dataLink : d.dataLinkAddress = d.core.deviceObject.individualAddress
  secure : d.device.secureAl.ownAddress = d.core.deviceObject.individualAddress

/-- So they have, and the application layer has its programming mode. -/
structure Settled (d : ManagedDevice (CoreObjects × τ)) : Prop where
  addresses : d.AddressesAgree
  mode : d.programmingModeEnabled = d.core.deviceObject.progMode

section Steps

variable (config : Configuration τ) {d : ManagedDevice (CoreObjects × τ)}

/-! ## What keeps a device settled -/

theorem Settled.of_same {d' : ManagedDevice (CoreObjects × τ)} (h : d.Settled)
    (hcore : d'.core.deviceObject = d.core.deviceObject) (hown : d'.ownAddress = d.ownAddress)
    (htransport : d'.transportAddress = d.transportAddress)
    (hdataLink : d'.dataLinkAddress = d.dataLinkAddress)
    (hsecure : d'.device.secureAl = d.device.secureAl)
    (hmode : d'.programmingModeEnabled = d.programmingModeEnabled) : d'.Settled := by
  obtain ⟨⟨happlication', htransport', hdataLink', hsecure'⟩, hmode'⟩ := h
  refine ⟨⟨?_, ?_, ?_, ?_⟩, ?_⟩
  · rw [hown, hcore, happlication']
  · rw [htransport, hcore, htransport']
  · rw [hdataLink, hcore, hdataLink']
  · rw [hsecure, hcore, hsecure']
  · rw [hmode, hcore, hmode']

theorem Settled.saveToPersistence (h : d.Settled) : (d.saveToPersistence config.backend).Settled :=
  h.of_same rfl rfl rfl rfl rfl rfl

theorem secureAl_checkpointSecuritySequenceState (device : Device) :
    device.checkpointSecuritySequenceState.secureAl = device.secureAl := by
  rw [Device.checkpointSecuritySequenceState]
  split <;> rfl

theorem Settled.flushPersistenceIfDirty (h : d.Settled) :
    (d.flushPersistenceIfDirty config.backend).Settled := by
  have hsaved : (if d.device.persistenceDirty then d.saveToPersistence config.backend else d).Settled := by
    split
    · exact h.saveToPersistence config
    · exact h
  exact hsaved.of_same rfl rfl rfl rfl (secureAl_checkpointSecuritySequenceState _) rfl

theorem secureAl_pumpPersistence (device : Device) (nowMs : UInt32) :
    (device.pumpPersistence nowMs).secureAl = device.secureAl := by
  rw [Device.pumpPersistence]
  split
  · rfl
  · split
    · dsimp only
      split <;> rfl
    · split <;> rfl

theorem secureAl_pumpSecuritySequenceCheckpoint (device : Device) (nowMs : UInt32) :
    (device.pumpSecuritySequenceCheckpoint nowMs).secureAl = device.secureAl := by
  rw [Device.pumpSecuritySequenceCheckpoint]
  split
  · rfl
  · split
    · rfl
    · exact secureAl_checkpointSecuritySequenceState device

theorem Settled.loop (h : d.Settled) (nowMs : UInt32) : (d.loop config.backend nowMs).Settled := by
  have hpumped : (d.pumpPersistence config.backend nowMs).Settled := by
    rw [ManagedDevice.pumpPersistence]
    split
    · exact h.saveToPersistence config
    · exact h.of_same rfl rfl rfl rfl (secureAl_pumpPersistence d.device nowMs) rfl
  exact hpumped.of_same rfl rfl rfl rfl (secureAl_pumpSecuritySequenceCheckpoint _ nowMs) rfl

/-- The callbacks of the Device Object settle a device, wherever the application layer was before. -/
theorem Settled.deviceObjectCallbacks (h : d.Settled) (core : CoreObjects) (state : τ)
    {address : IndividualAddress}
    (haddress : address = d.ownAddress ∨ address = core.deviceObject.individualAddress) :
    (ManagedDevice.deviceObjectCallbacks config.backend { d with ownAddress := address }
      (core, state)).Settled := by
  have hmode : (if core.deviceObject.progMode = d.core.deviceObject.progMode then
      d.programmingModeEnabled else core.deviceObject.progMode) = core.deviceObject.progMode := by
    split
    · rename_i hsame
      rw [h.mode, hsame]
    · rfl
  rw [ManagedDevice.deviceObjectCallbacks]
  dsimp only
  split
  · rename_i hsame
    have hsame' : core.deviceObject.individualAddress = d.core.deviceObject.individualAddress := hsame
    have hown : address = core.deviceObject.individualAddress := by
      rcases haddress with haddress | haddress
      · rw [haddress, h.addresses.application, hsame']
      · exact haddress
    refine ⟨⟨hown, ?_, ?_, ?_⟩, hmode⟩
    · exact h.addresses.transport.trans hsame'.symm
    · exact h.addresses.dataLink.trans hsame'.symm
    · exact h.addresses.secure.trans hsame'.symm
  · exact ⟨⟨rfl, rfl, rfl, rfl⟩, hmode⟩

theorem secureAl_writeSecurityProperty (device : Device) (p : SecurityProperty) (startIndex : Nat)
    (value : List UInt8) :
    (device.writeSecurityProperty p startIndex value).secureAl = device.secureAl := by
  rw [Device.writeSecurityProperty]
  split <;> rfl

theorem secureAl_writeAddressTable (device : Device) (addresses : List UInt16) (marked : Bool) :
    (device.writeAddressTable addresses marked).secureAl = device.secureAl := by
  rw [Device.writeAddressTable]
  cases marked <;> rfl

theorem deviceObject_applyLoadedTableSegment (o : CoreObjects) (objectType : UInt16)
    (memory : Memory) :
    (o.applyLoadedTableSegment objectType memory).deviceObject = o.deviceObject := by
  rw [CoreObjects.applyLoadedTableSegment]
  split
  · rfl
  · split
    · rfl
    · rw [CoreObjects.applySegment]
      split
      · rfl
      · split
        · rfl
        · split <;> rfl

theorem deviceObject_afterLoad (objectType : UInt16) (propertyId : UInt8) (value : List UInt8)
    (core : CoreObjects) :
    (d.afterLoad objectType propertyId value core).deviceObject = core.deviceObject := by
  rw [afterLoad]
  split
  · exact deviceObject_applyLoadedTableSegment core objectType d.memory
  · rfl

theorem Settled.tableWritten (h : d.Settled) {objectType : UInt16} {propertyId : UInt8}
    {startIndex : Nat} {value : List UInt8} {core : CoreObjects}
    {d' : ManagedDevice (CoreObjects × τ)} (hdevice : objectType ≠ 0)
    (hwritten : d.core.writeProperty config.schema objectType propertyId startIndex value = some core)
    (htable : TableWritten objectType propertyId value core d d') : d'.Settled := by
  apply h.of_same
  · rw [htable.core, deviceObject_afterLoad]
    exact (CoreObjects.keepsOthers_writeProperty config.schema hwritten).deviceObject hdevice
  · exact htable.ownAddress
  · exact htable.transportAddress
  · exact htable.dataLinkAddress
  · rw [htable.device]
    split
    · exact secureAl_writeAddressTable _ _ _
    · split <;> rfl
  · exact htable.programmingModeEnabled

/-- An address that the application layer takes alone is lost on the others, unless it is theirs. -/
theorem addressesAgree_alone (h : d.Settled) (address : IndividualAddress) :
    ({ d with ownAddress := address } : ManagedDevice (CoreObjects × τ)).AddressesAgree
      ↔ address = d.ownAddress := by
  constructor
  · intro hagree
    have hmoved : address = d.core.deviceObject.individualAddress := hagree.application
    rw [hmoved, h.addresses.application]
  · rintro rfl
    exact h.addresses

/-- An operation settles a device, unless it assigns another address outside programming mode. -/
theorem Settled.effect (h : d.Settled) {operation : Operation}
    {d' : ManagedDevice (CoreObjects × τ)} (heffect : Effect config d operation d')
    (hassign : ∀ address, operation = .assignAddress address →
      d.core.deviceObject.progMode = true ∨ address = d.ownAddress) : d'.Settled := by
  cases heffect with
  | refused => exact h
  | elsewhere => exact h.of_same rfl rfl rfl rfl rfl rfl
  | memory => exact h.of_same rfl rfl rfl rfl rfl rfl
  | securityFunction => exact h.of_same rfl rfl rfl rfl rfl rfl
  | securityWrite objectIndex propertyId startIndex value p =>
    exact h.of_same rfl rfl rfl rfl (secureAl_writeSecurityProperty _ p startIndex value) rfl
  | deviceWrite objectIndex propertyId startIndex value core =>
    exact h.deviceObjectCallbacks config core d.others.2 (.inl rfl)
  | tableWrite objectIndex propertyId startIndex value objectType core d' hdevice hsecurity hwritten
      hindex htable =>
    exact h.tableWritten config hdevice hwritten htable
  | addressRefused address hmode =>
    rcases hassign address rfl with hon | rfl
    · rw [hmode] at hon
      cases hon
    · exact h
  | addressTaken address hmode =>
    exact h.deviceObjectCallbacks config _ d.others.2 (.inr rfl)
  | flushed => exact (h.flushPersistenceIfDirty config).of_same rfl rfl rfl rfl rfl rfl

/-! ## Whole runs -/

theorem settled_boot (store : Store) : (config.boot store).Settled :=
  ⟨⟨rfl, rfl, rfl, rfl⟩, rfl⟩

theorem serviceOperation_assignAddress {aFrame : ADataFrame} {address : IndividualAddress}
    (hoperation : d.serviceOperation config.backend aFrame = .assignAddress address) :
    d.programmingModeEnabled = true
      ∨ (aFrame.service = .individualAddressSerialNumberWrite
        ∧ serialNumberWriteOperation config.backend aFrame = .assignAddress address) := by
  rw [serviceOperation] at hoperation
  cases hservice : aFrame.service
  all_goals
    rw [hservice] at hoperation
    dsimp only at hoperation
  case individualAddressWrite =>
    left
    rw [individualAddressWriteOperation] at hoperation
    split at hoperation
    · split at hoperation
      · assumption
      · cases hoperation
    · cases hoperation
  case individualAddressSerialNumberWrite => exact .inr ⟨rfl, hoperation⟩
  case propertyValueWrite =>
    rw [propertyValueWriteOperation] at hoperation
    repeat' split at hoperation
    all_goals cases hoperation
  case propertyExtValueWriteCon | propertyExtValueWriteUnCon =>
    rw [propertyExtValueWriteOperation] at hoperation
    repeat' split at hoperation
    all_goals cases hoperation
  case functionPropertyCommand | functionPropertyStateRead =>
    rw [functionPropertyOperation] at hoperation
    repeat' split at hoperation
    all_goals cases hoperation
  case functionPropertyExtCommand | functionPropertyExtStateRead =>
    rw [functionPropertyExtOperation] at hoperation
    dsimp only at hoperation
    repeat' split at hoperation
    all_goals cases hoperation
  case memoryWrite =>
    rw [memoryWriteOperation] at hoperation
    dsimp only at hoperation
    repeat' split at hoperation
    all_goals cases hoperation
  case memoryExtendedWrite =>
    rw [memoryExtendedWriteOperation] at hoperation
    dsimp only at hoperation
    repeat' split at hoperation
    all_goals cases hoperation
  case restart =>
    rw [restartOperation] at hoperation
    dsimp only at hoperation
    repeat' split at hoperation
    all_goals cases hoperation
  all_goals cases hoperation

/-- A write of another address by serial number, accepted outside programming mode. -/
def MovesAlone (d : ManagedDevice (CoreObjects × τ)) : ManagedEvent τ → Prop
  | .frame frame =>
      ∃ aFrame address, decodeTransportRx frame = some aFrame
        ∧ aFrame.service = .individualAddressSerialNumberWrite
        ∧ d.isRequestPermitted aFrame = true
        ∧ serialNumberWriteOperation config.backend aFrame = .assignAddress address
        ∧ d.core.deviceObject.progMode = false ∧ address ≠ d.core.deviceObject.individualAddress
  | _ => False

theorem addressesAgree_frame_of_movesAlone (h : d.Settled) {frame : TDataFrame}
    (halone : MovesAlone config d (.frame frame)) :
    ¬ (managedStep config d (.frame frame)).AddressesAgree := by
  obtain ⟨aFrame, address, hdecode, hservice, hpermitted, hassign, hmode, hother⟩ := halone
  have hoperation : d.operationOf config.backend frame = .assignAddress address := by
    rw [operationOf, hdecode]
    dsimp only
    rw [if_pos hpermitted, serviceOperation, hservice]
    exact hassign
  have hrefused : d.apply config.backend (.assignAddress address)
      = { d with ownAddress := address } := by
    have hmode' : d.others.1.deviceObject.progMode = false := hmode
    simp only [ManagedDevice.apply, updateIndividualAddress, Configuration.backend, coreBackend,
      DeviceObject.writeIndividualAddress, hmode', Bool.false_eq_true, if_false, Option.map_none]
  rw [managedStep, handleTransportRx_fst, hoperation, hrefused, addressesAgree_alone h]
  rw [h.addresses.application]
  exact hother

theorem Settled.managedStep (h : d.Settled) {event : ManagedEvent τ}
    (halone : ¬ MovesAlone config d event) : (managedStep config d event).Settled := by
  cases event with
  | frame frame =>
    rw [Bau.managedStep, handleTransportRx_fst]
    apply h.effect config (effect_apply config d _)
    intro address hassign
    -- in programming mode the Device Object agrees; otherwise the address came by serial number
    cases hmode : d.core.deviceObject.progMode with
    | true => exact .inl rfl
    | false =>
      right
      rw [operationOf] at hassign
      cases hdecode : decodeTransportRx frame with
      | none =>
        rw [hdecode] at hassign
        cases hassign
      | some aFrame =>
        rw [hdecode] at hassign
        dsimp only at hassign
        split at hassign
        · rename_i hpermitted
          rcases serviceOperation_assignAddress config hassign with hon | ⟨hservice, hserial⟩
          · rw [h.mode, hmode] at hon
            cases hon
          · by_contra hother
            rw [h.addresses.application] at hother
            exact halone ⟨aFrame, address, hdecode, hservice, hpermitted, hserial, hmode, hother⟩
        · cases hassign
  | loop nowMs => exact h.loop config nowMs
  | flush => exact h.flushPersistenceIfDirty config
  | setProgMode enable => exact h.deviceObjectCallbacks config _ _ (.inl rfl)
  | runtime state => exact h.of_same rfl rfl rfl rfl rfl rfl
  | reboot => exact settled_boot config d.device.store

theorem addressesAgree_managedStep_iff (h : d.Settled) (event : ManagedEvent τ) :
    (Bau.managedStep config d event).AddressesAgree ↔ ¬ MovesAlone config d event := by
  constructor
  · intro hagree halone
    cases event with
    | frame frame => exact addressesAgree_frame_of_movesAlone config h halone hagree
    | _ => exact halone
  · intro halone
    exact (h.managedStep config halone).addresses

end Steps

end ManagedDevice

/-- The five addresses agree when a device is up, and after every event of a run just when no
address is written by serial number outside programming mode, but the one the device has. -/
theorem own_addresses_agree_iff (config : Configuration τ) (store : Store)
    (events : List (ManagedEvent τ)) :
    (config.boot store).AddressesAgree
      ∧ (Along (managedStep config) (fun d event => (managedStep config d event).AddressesAgree)
          (config.boot store) events
        ↔ Along (managedStep config) (fun d event => ¬ d.MovesAlone config event)
          (config.boot store) events) := by
  have hboot := ManagedDevice.settled_boot config store
  refine ⟨hboot.addresses, ?_⟩
  apply along_iff_along _ _ hboot
  · intro d event hsettled hagree
    exact hsettled.managedStep config
      ((ManagedDevice.addressesAgree_managedStep_iff config hsettled event).mp hagree)
  · intro d event hsettled
    exact ManagedDevice.addressesAgree_managedStep_iff config hsettled event

/-- A device 1.1.5 with a serial number. -/
def sampleNumbered : Configuration Unit :=
  { ownAddress := ⟨0x1105⟩
    runtime := { serialNumber := [0x00, 0xFA, 0x01, 0x02, 0x03, 0x04] }
    state := () }

/-- A broadcast of A_IndividualAddressSerialNumber_Write, with the address 1.1.9 for it. -/
def assignByNumberFrame : TDataFrame :=
  { source := ⟨0x1101⟩
    tpdu := ⟨[0x03, 0xDE, 0x00, 0xFA, 0x01, 0x02, 0x03, 0x04, 0x11, 0x09, 0, 0, 0, 0], by decide⟩ }

/-- Outside programming mode the application layer answers as 1.1.9 from then on, and the others stay
1.1.5. -/
theorem application_moves_alone :
    ¬ Along (managedStep sampleNumbered)
        (fun d event => (managedStep sampleNumbered d event).AddressesAgree)
        (sampleNumbered.boot fun _ => none) [.frame assignByNumberFrame] := by
  intro hagree
  have happlication := hagree.1.application
  revert happlication
  decide +kernel

end KnxStack.Bau
