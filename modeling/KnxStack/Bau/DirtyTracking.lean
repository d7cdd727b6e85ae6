import KnxStack.Bau.TableWrites

/-!
# Dirty tracking

What a device changes in use is saved when its main loop finds the dirty mark. So the mark has to be
set by every change of a persisted property, each in its own place: the property write provider, the
handlers of the function properties, the callbacks of the Device Object.

Three places miss it: the parameters of the Device Object, the load events that clear a table, and
the commands to the Security Interface Object. `tracked_iff` says that a device which starts on
what was saved loses track of its store by these only.
-/

set_option autoImplicit false

namespace KnxStack.Objects.SecurityIaTable

/-- Two tables with the same addresses, whatever their sequence numbers are. -/
structure SameAddresses (blob blob' : List UInt8) : Prop where
  length : blob'.length = blob.length
  addresses : ∀ index, addressAt blob' index = addressAt blob index

theorem SameAddresses.refl (blob : List UInt8) : SameAddresses blob blob := ⟨rfl, fun _ => rfl⟩

theorem SameAddresses.trans {a b c : List UInt8} (h : SameAddresses a b) (h' : SameAddresses b c) :
    SameAddresses a c :=
  ⟨h'.length.trans h.length, fun index => (h'.addresses index).trans (h.addresses index)⟩

theorem SameAddresses.eq_nil_iff {blob blob' : List UInt8} (h : SameAddresses blob blob') :
    blob' = [] ↔ blob = [] := by
  rw [← List.length_eq_zero_iff, h.length, List.length_eq_zero_iff]

theorem sameAddresses_sync (live : UInt16 → Nat) (blob : List UInt8) :
    SameAddresses blob (sync live blob).2 := by
  have hentry : ∀ state index, SameAddresses state.2 (syncEntry state index).2 := by
    intro state index
    rw [syncEntry]
    split
    · exact .refl _
    · split
      · have hset := entries_setSequenceFor state.2 (addressAt state.2 index)
          (state.1 (addressAt state.2 index))
        exact ⟨hset.1, hset.2⟩
      · exact .refl _
  have hloop : ∀ (indices : List Nat) (state : (UInt16 → Nat) × List UInt8),
      SameAddresses state.2 (indices.foldl syncEntry state).2 := by
    intro indices
    induction indices with
    | nil => exact fun state => .refl _
    | cons index indices ih => exact fun state => (hentry state index).trans (ih _)
  exact hloop _ (live, blob)

end KnxStack.Objects.SecurityIaTable

namespace KnxStack.Bau

open KnxStack.Application KnxStack.Lib KnxStack.Lib.Octets KnxStack.Lib.Words KnxStack.Objects
open KnxStack.Objects.SecurityIaTable (SameAddresses)
open KnxStack.Transport (TDataFrame)

variable {τ : Type}

/-! ## A store that is current -/

/-- The persisted properties that hold no sequence number. -/
def keyProperties : List SecurityProperty :=
  [.securityMode, .p2pKeyTable, .groupKeyTable, .toolKey, .zoneKeyTable, .goSecurityFlags]

theorem mem_persistedProperties : ∀ p ∈ keyProperties, p ∈ persistedProperties := by decide

/-- A store that holds the Security Interface Object, but for the sequence numbers: those of its
partners, and the own one, which the secure layer counts on. -/
structure HoldsKeys (store : Store) (o : SecurityInterfaceObject) : Prop where
  records : ∀ p ∈ keyProperties, store (securityKeyId p) = recordOf (securityRecord o p)
  partners : SameAddresses ((store (securityKeyId .securityIndividualAddressTable)).getD [])
    (o.iaTable.getD [])

theorem getD_recordOf (data : List UInt8) : (recordOf data).getD [] = data := by
  rw [recordOf]
  split
  · rename_i hempty
    exact hempty.symm
  · rfl

theorem HoldsSecurity.holdsKeys {store : Store} {o : SecurityInterfaceObject}
    (h : HoldsSecurity store o) : HoldsKeys store o := by
  refine ⟨fun p hp => h p (mem_persistedProperties p hp), ?_⟩
  rw [h .securityIndividualAddressTable (by decide), getD_recordOf]
  exact .refl _

theorem holdsSecurity_saveObjects (schema : ReferenceSchema) {store : Store}
    {o : SecurityInterfaceObject} (h : HoldsSecurity store o) (core : CoreObjects) :
    HoldsSecurity (store.saveObjects schema core) o := by
  intro p hp
  rw [Store.saveObjects, foldl_saveProp_of_ne persistenceKeyId (persistedObjectValue schema core) store]
  · exact h p hp
  · intro q hq
    exact (persistenceKeyId_ne_securityKeyId q hq p hp).symm

/-- The parameters of the Device Object that are persisted. -/
def unmarkedParameters : List DeviceProperty :=
  [.routingCount, .maxRetryCount, .errorFlags, .programVersion, .deviceControl, .runStateControl]

namespace ManagedDevice

/-- The store has the value of every persisted property, replay numbers apart. -/
structure StoreCurrent (d : ManagedDevice (CoreObjects × τ)) : Prop where
  objects : HoldsObjects d.device.store d.core
  keys : HoldsKeys d.device.store d.security

/-- Unless the device is dirty, its store is current. -/
def Tracked (d : ManagedDevice (CoreObjects × τ)) : Prop :=
  d.device.persistenceDirty = false → d.StoreCurrent

/-- What a save needs: the strings are no longer than an index reaches, nor are the load segments. -/
structure Sized (d : ManagedDevice (CoreObjects × τ)) : Prop where
  core : d.core.Bounded
  memory : ∀ segment ∈ d.memory, segment.storage.length ≤ 0xFFFF

section Saving

variable (config : Configuration τ) {d : ManagedDevice (CoreObjects × τ)}

theorem storeCurrent_saveToPersistence (h : d.core.Bounded) :
    (d.saveToPersistence config.backend).StoreCurrent :=
  ⟨holdsObjects_saveObjects config.schema _ h,
    (holdsSecurity_saveObjects config.schema (holdsSecurity_saveSecurity _ _) _).holdsKeys⟩

theorem StoreCurrent.of_same {d' : ManagedDevice (CoreObjects × τ)} (h : d.StoreCurrent)
    (hstore : d'.device.store = d.device.store)
    (hcore : ∀ p ∈ persistedObjectProperties, objectRecord d'.core p = objectRecord d.core p)
    (hsecurity : ∀ p ∈ persistedProperties, securityRecord d'.security p = securityRecord d.security p) :
    d'.StoreCurrent := by
  refine ⟨?_, ?_, ?_⟩
  · intro p hp
    rw [hstore, hcore p hp]
    exact h.objects p hp
  · intro p hp
    rw [hstore, hsecurity p (mem_persistedProperties p hp)]
    exact h.keys.records p hp
  · have hpartners : d'.security.iaTable.getD [] = d.security.iaTable.getD [] :=
      hsecurity .securityIndividualAddressTable (by decide)
    rw [hstore, hpartners]
    exact h.keys.partners

theorem Tracked.of_same {d' : ManagedDevice (CoreObjects × τ)} (h : d.Tracked)
    (hdirty : d'.device.persistenceDirty = d.device.persistenceDirty)
    (hstore : d'.device.store = d.device.store) (hcore : d'.core = d.core)
    (hsecurity : d'.security = d.security) : d'.Tracked := by
  intro hclean
  rw [hdirty] at hclean
  apply (h hclean).of_same hstore
  · intro p _
    rw [hcore]
  · intro p _
    rw [hsecurity]

theorem StoreCurrent.checkpointSecuritySequenceState (h : d.StoreCurrent) :
    ({ d with device := d.device.checkpointSecuritySequenceState } :
      ManagedDevice (CoreObjects × τ)).StoreCurrent := by
  have htool : ∀ p ∈ persistedObjectProperties, persistenceKeyId p ≠ toolAccessSequenceKeyId := by
    decide
  have hpartners : ∀ p ∈ persistedObjectProperties,
      persistenceKeyId p ≠ securityKeyId .securityIndividualAddressTable := by decide
  have htool' : ∀ p ∈ keyProperties, securityKeyId p ≠ toolAccessSequenceKeyId := by decide
  have hpartners' : ∀ p ∈ keyProperties,
      securityKeyId p ≠ securityKeyId .securityIndividualAddressTable := by decide
  rw [Device.checkpointSecuritySequenceState]
  split
  · exact h
  · obtain ⟨-, htable, hother⟩ := store_saveSecuritySequenceState d.device
    refine ⟨?_, ?_, ?_⟩
    · intro p hp
      exact (hother _ (htool p hp) (hpartners p hp)).trans (h.objects p hp)
    · intro p hp
      exact (hother _ (htool' p hp) (hpartners' p hp)).trans (h.keys.records p hp)
    · have hrecord : SameAddresses ((d.device.saveSecuritySequenceState.store
          (securityKeyId .securityIndividualAddressTable)).getD []) (d.security.iaTable.getD []) := by
        rw [htable]
        split
        · exact h.keys.partners
        · exact .refl _
      exact hrecord

theorem Tracked.checkpointSecuritySequenceState (h : d.Tracked) :
    ({ d with device := d.device.checkpointSecuritySequenceState } :
      ManagedDevice (CoreObjects × τ)).Tracked := by
  intro hclean
  apply StoreCurrent.checkpointSecuritySequenceState
  apply h
  revert hclean
  rw [Device.checkpointSecuritySequenceState]
  split <;> exact id

theorem tracked_saveToPersistence (h : d.core.Bounded) : (d.saveToPersistence config.backend).Tracked :=
  fun _ => storeCurrent_saveToPersistence config h

theorem Tracked.flushPersistenceIfDirty (h : d.Tracked) (hsized : d.Sized) :
    (d.flushPersistenceIfDirty config.backend).Tracked := by
  rw [ManagedDevice.flushPersistenceIfDirty]
  apply Tracked.checkpointSecuritySequenceState
  split
  · exact tracked_saveToPersistence config hsized.core
  · exact h

theorem Tracked.loop (h : d.Tracked) (hsized : d.Sized) (nowMs : UInt32) :
    (d.loop config.backend nowMs).Tracked := by
  have hpumped : (d.pumpPersistence config.backend nowMs).Tracked := by
    rw [ManagedDevice.pumpPersistence]
    split
    · exact tracked_saveToPersistence config hsized.core
    · rename_i hsaved
      intro hclean
      have hclean' : (d.device.pumpPersistence nowMs).persistenceDirty = false := hclean
      -- the pump alone makes nothing clean, so nothing was to be saved
      have hbefore : d.device.persistenceDirty = false := by
        rw [hclean'] at hsaved
        simpa using hsaved
      have hsame : d.device.pumpPersistence nowMs = d.device := by
        simp [Device.pumpPersistence, hbefore]
      rw [hsame]
      exact h hbefore
  rw [ManagedDevice.loop]
  generalize d.pumpPersistence config.backend nowMs = pumped at hpumped
  obtain ⟨due, hdue⟩ : ∃ due, nowMs + 60000 = due := ⟨_, rfl⟩
  rw [Device.pumpSecuritySequenceCheckpoint, hdue]
  split
  · exact hpumped.of_same rfl rfl rfl rfl
  · split
    · exact hpumped
    · exact hpumped.checkpointSecuritySequenceState.of_same rfl rfl rfl rfl

end Saving

/-! ## What leaves the records as they are -/

theorem objectRecord_congr {o o' : CoreObjects}
    (haddress : o'.deviceObject.individualAddress = o.deviceObject.individualAddress)
    (hparameters : ∀ p ∈ unmarkedParameters,
      objectRecord o' (.device p) = objectRecord o (.device p))
    (haddresses : o'.addressTable.entries = o.addressTable.entries)
    (hassociations : o'.associationTable.entries = o.associationTable.entries)
    (hprogram : { o'.applicationProgram with loadState := o.applicationProgram.loadState }
      = o.applicationProgram) :
    ∀ p ∈ persistedObjectProperties, objectRecord o' p = objectRecord o p := by
  intro p hp
  cases p with
  | device p =>
    by_cases hparameter : p ∈ unmarkedParameters
    · exact hparameters p hparameter
    · cases p with
      | subnetAddress =>
        exact congrArg (fun address : IndividualAddress => toOctets 1 (highByte address.raw).toNat)
          haddress
      | deviceAddress =>
        exact congrArg (fun address : IndividualAddress => toOctets 1 (lowByte address.raw).toNat)
          haddress
      | _ => first | exact absurd hp (by decide) | exact absurd (by decide) hparameter
  | addressTable p =>
    cases p with
    | tableData => exact congrArg groupAddressFormat.encodeEntries haddresses
    | _ => exact absurd hp (by decide)
  | associationTable p =>
    cases p with
    | tableData => exact congrArg associationFormat.encodeEntries hassociations
    | _ => exact absurd hp (by decide)
  | applicationProgram p =>
    have hloadState : objectRecord o' (.applicationProgram p)
        = objectRecord { o with applicationProgram := { o'.applicationProgram with
            loadState := o.applicationProgram.loadState } } (.applicationProgram p) := by
      cases p <;> first | rfl | exact absurd hp (by decide)
    rw [hloadState, hprogram]
  | groupObjectTable p => cases p <;> exact absurd hp (by decide)
  | reference type descriptor => exact absurd hp (not_persisted_reference type descriptor)

theorem writeProperty_octet {id type : UInt8} {get : DeviceObject → UInt8}
    {set : DeviceObject → UInt8 → DeviceObject} (htype : type ≠ 0) {o o' : DeviceObject}
    {startIndex : Nat} {value : List UInt8}
    (h : (DeviceObject.octet id type get set).writeProperty o startIndex value = some o') :
    ∃ octet, value.take 1 = [octet] ∧ o' = set o octet := by
  obtain ⟨-, -, hne, ⟨htype', -⟩ | ⟨-, -, -, -, hwritten⟩⟩ := Handler.writeProperty_cases h
  · exact absurd htype' htype
  · obtain ⟨octet, rest, rfl⟩ := List.exists_cons_of_ne_nil hne
    rw [DeviceObject.octet, Handler.scalar] at hwritten
    dsimp only at hwritten
    split at hwritten
    · cases hwritten
    · cases hwritten
      refine ⟨octet, rfl, ?_⟩
      rw [show (octet :: rest).take 1 = toOctets 1 octet.toNat from (toOctets_one octet).symm,
        uint8_ofNat_ofOctets]

/-- What a write does to the Device Object: it moves the address, sets the programming mode, or sets
one of the parameters. -/
inductive DeviceWritten (value : List UInt8) (o : DeviceObject) : DeviceProperty → DeviceObject → Prop
  | address (p : DeviceProperty) (address : IndividualAddress) (hp : p ∉ unmarkedParameters) :
      DeviceWritten value o p { o with individualAddress := address }
  | mode (p : DeviceProperty) (enable : Bool) (hp : p ∉ unmarkedParameters) :
      DeviceWritten value o p { o with progMode := enable }
  | parameter (p : DeviceProperty) (o' : DeviceObject) (hp : p ∈ unmarkedParameters)
      (haddress : o'.individualAddress = o.individualAddress)
      (hvalue : ∀ core : CoreObjects, objectRecord { core with deviceObject := o' } (.device p)
        = value.take 1)
      (hothers : ∀ core : CoreObjects, ∀ q ∈ unmarkedParameters, q ≠ p →
        objectRecord { core with deviceObject := o' } (.device q)
          = objectRecord { core with deviceObject := o } (.device q)) :
      DeviceWritten value o p o'

theorem deviceWritten_handler {p : DeviceProperty} {o o' : DeviceObject} {startIndex : Nat}
    {value : List UInt8} (h : (DeviceObject.handler p).writeProperty o startIndex value = some o') :
    DeviceWritten value o p o' := by
  cases p with
  | progMode =>
    obtain ⟨octet, -, rfl⟩ := writeProperty_octet (by decide) h
    exact .mode _ _ (by decide)
  | subnetAddress =>
    obtain ⟨octet, -, rfl⟩ := writeProperty_octet (by decide) h
    exact .address _ _ (by decide)
  | deviceAddress =>
    obtain ⟨octet, -, rfl⟩ := writeProperty_octet (by decide) h
    exact .address _ _ (by decide)
  | routingCount | maxRetryCount | errorFlags | programVersion | deviceControl | runStateControl =>
    obtain ⟨octet, hoctet, rfl⟩ := writeProperty_octet (by decide) h
    refine .parameter _ _ (by decide) rfl ?_ ?_
    · intro core
      rw [hoctet]
      exact toOctets_one octet
    · intro core q hq hne
      cases q <;> first | rfl | exact absurd rfl hne
  | _ =>
    obtain ⟨-, hcan, -⟩ := Handler.writeProperty_cases h
    exact absurd hcan (by decide)

theorem deviceWritten_of_write (schema : ReferenceSchema) {o o' : CoreObjects} {propertyId : UInt8}
    {startIndex : Nat} {value : List UInt8}
    (h : o.writeProperty schema 0 propertyId startIndex value = some o') :
    ∃ p, findProperty schema 0 propertyId = some (.device p)
      ∧ DeviceWritten value o.deviceObject p o'.deviceObject
      ∧ o' = { o with deviceObject := o'.deviceObject } := by
  obtain ⟨p, hp, ⟨octet, rfl, -, -, rfl⟩ | ⟨octet, rfl, -, -, rfl⟩ | ⟨-, -, hwritten⟩⟩ :=
    CoreObjects.writeProperty_cases schema h
  · exact ⟨_, hp, .address _ _ (by decide), rfl⟩
  · exact ⟨_, hp, .address _ _ (by decide), rfl⟩
  · have hmem : p ∈ objectHandlers schema 0 := List.mem_of_find?_eq_some hp
    obtain ⟨q, -, rfl⟩ := List.mem_map.mp hmem
    rw [ObjectProperty.handler, Handler.writeProperty_lift] at hwritten
    obtain ⟨written, hdevice, rfl⟩ := Option.map_eq_some_iff.mp hwritten
    exact ⟨q, hp, deviceWritten_handler hdevice, rfl⟩

/-! ## Changes that set no mark -/

/-- A write that changes a parameter of the Device Object, or clears a table that has entries. -/
def UnmarkedWrite (schema : ReferenceSchema) (o : CoreObjects) (objectType : UInt16)
    (propertyId : UInt8) (startIndex : Nat) (value : List UInt8) : Prop :=
  (o.writeProperty schema objectType propertyId startIndex value).isSome = true
    ∧ ((objectType = 0 ∧ ∃ p ∈ unmarkedParameters, findProperty schema 0 propertyId = some (.device p)
          ∧ value.take 1 ≠ objectRecord o (.device p))
      ∨ (objectType = 1 ∧ propertyId = 5 ∧ Clears value ∧ o.addressTable.entries ≠ [])
      ∨ (objectType = 2 ∧ propertyId = 5 ∧ Clears value ∧ o.associationTable.entries ≠ []))

/-- The arrays that a load event of the Security Interface Object clears. -/
def securityArrays : List SecurityProperty :=
  [.p2pKeyTable, .groupKeyTable, .securityIndividualAddressTable, .zoneKeyTable, .goSecurityFlags]

/-- A command of the tool that clears the arrays, if one has elements, or changes the mode. -/
def UnmarkedCommand (o : SecurityInterfaceObject) (request : FunctionPropertyRequest) : Prop :=
  request.invocation = .command ∧ request.security.toolSecured = true
    ∧ ((request.propertyId = SecurityProperty.loadStateControl.pid ∧ Clears request.data
          ∧ ∃ p ∈ securityArrays, (o.extraProperties p).getD [] ≠ [])
      ∨ (request.propertyId = SecurityProperty.securityMode.pid
        ∧ ∃ mode rest, request.data = 0 :: 0 :: mode :: rest ∧ ¬ 1 < mode ∧ mode ≠ o.securityMode))

/-- An operation that changes a persisted value and sets no mark. -/
def UnmarkedOperation (config : Configuration τ) (d : ManagedDevice (CoreObjects × τ)) :
    Operation → Prop
  | .writeProperty objectIndex propertyId startIndex value =>
      ∃ objectType, d.resolveObjectType objectIndex = some objectType
        ∧ UnmarkedWrite config.schema d.core objectType propertyId startIndex value
  | .functionProperty _ objectType request =>
      objectType = securityInterfaceObjectType ∧ UnmarkedCommand d.security request
  | _ => False

/-- Such a change, of a device that is not dirty. -/
def Untracked (config : Configuration τ) (d : ManagedDevice (CoreObjects × τ)) :
    ManagedEvent τ → Prop
  | .frame frame =>
      d.device.persistenceDirty = false
        ∧ UnmarkedOperation config d (d.operationOf config.backend frame)
  | _ => False

/-! ## The Security Interface Object -/

theorem securityFunction_cases (o : SecurityInterfaceObject) (source : IndividualAddress)
    (request : FunctionPropertyRequest) :
    (∀ p, securityRecord (handleSecurityFunctionProperty o source request).1 p = securityRecord o p)
      ∨ (request.invocation = .command ∧ request.security.toolSecured = true
        ∧ ((request.propertyId = SecurityProperty.loadStateControl.pid
            ∧ ∃ event rest, request.data = event :: rest
              ∧ (handleSecurityFunctionProperty o source request).1 = o.applyLoadControlEvent event)
          ∨ (request.propertyId = SecurityProperty.securityMode.pid
            ∧ ∃ mode rest, request.data = 0 :: 0 :: mode :: rest ∧ ¬ 1 < mode
              ∧ (handleSecurityFunctionProperty o source request).1
                = { o with securityMode := mode }))) := by
  rw [handleSecurityFunctionProperty]
  split
  · left
    intro p
    cases p <;> rfl
  · rename_i hdenied
    split
    · rename_i hload
      split
      · exact .inl fun _ => rfl
      · rename_i event rest hcommand hdata
        have htool : request.security.toolSecured = true := by
          by_contra hplain
          exact hdenied ⟨.inl hload, hcommand, Bool.eq_false_iff.mpr hplain⟩
        exact .inr ⟨hcommand, htool, .inl ⟨hload, event, rest, hdata, rfl⟩⟩
      · exact .inl fun _ => rfl
    · split
      · exact .inl fun _ => rfl
      · rename_i hmode
        rw [not_not] at hmode
        split
        · rename_i reserved serviceId serviceInfo hdata
          split
          · exact .inl fun _ => rfl
          · rename_i hzero
            split
            · exact .inl fun _ => rfl
            · exact .inl fun _ => rfl
            · rename_i requested rest hcommand
              split
              · exact .inl fun _ => rfl
              · rename_i hrange
                have htool : request.security.toolSecured = true := by
                  by_contra hplain
                  exact hdenied ⟨.inr hmode, hcommand, Bool.eq_false_iff.mpr hplain⟩
                have hreserved : reserved = 0 ∧ serviceId = 0 := by
                  simpa only [not_or, not_not] using hzero
                rw [hreserved.1, hreserved.2] at hdata
                exact .inr ⟨hcommand, htool, .inr ⟨hmode, requested, rest, hdata, hrange, rfl⟩⟩
        · exact .inl fun _ => rfl

theorem securityRecord_applyLoadControlEvent (o : SecurityInterfaceObject) (event : UInt8)
    {p : SecurityProperty} (hp : p ∈ persistedProperties) :
    securityRecord (o.applyLoadControlEvent event) p
      = if (event = 1 ∨ event = 4) ∧ p ∈ securityArrays then [] else securityRecord o p := by
  have hreset : securityRecord o.loadControlReset p
      = if p ∈ securityArrays then [] else securityRecord o p := by
    cases p <;> rfl
  have hloadState : ∀ (o' : SecurityInterfaceObject) (state : UInt8),
      securityRecord { o' with loadState := state } p = securityRecord o' p := by
    intro o' state
    cases p <;> rfl
  rw [SecurityInterfaceObject.applyLoadControlEvent]
  by_cases hstart : event = 1
  · subst hstart
    simp only [show (1 : UInt8) ≠ 0 by decide, if_false, if_true, hloadState, hreset, true_or, true_and]
  · by_cases hunload : event = 4
    · subst hunload
      simp only [show (4 : UInt8) ≠ 0 by decide, show (4 : UInt8) ≠ 1 by decide,
        show (4 : UInt8) ≠ 2 by decide, show (4 : UInt8) ≠ 3 by decide, if_false, if_true,
        hloadState, hreset, or_true, true_and]
    · simp only [hstart, hunload, or_self, false_and, if_false]
      repeat' split
      all_goals rfl

theorem securityRecord_command {o : SecurityInterfaceObject} (source : IndividualAddress)
    {request : FunctionPropertyRequest} (h : ¬ UnmarkedCommand o request) :
    ∀ p ∈ persistedProperties,
      securityRecord (handleSecurityFunctionProperty o source request).1 p = securityRecord o p := by
  intro p hp
  rcases securityFunction_cases o source request with
    hsame | ⟨hcommand, htool, ⟨hload, event, rest, hdata, hdone⟩ |
      ⟨hmode, mode, rest, hdata, hrange, hdone⟩⟩
  · exact hsame p
  · rw [hdone, securityRecord_applyLoadControlEvent o event hp]
    split
    · rename_i hcleared
      -- what is cleared was empty
      by_contra hfull
      have hclears : Clears request.data := by
        rw [Clears, hdata, List.head?_cons, Option.some.injEq, Option.some.injEq]
        exact hcleared.1
      have harray : securityRecord o p = (o.extraProperties p).getD [] := by
        cases p <;> first | rfl | exact absurd hcleared.2 (by decide)
      rw [harray] at hfull
      exact h ⟨hcommand, htool, .inl ⟨hload, hclears, p, hcleared.2, Ne.symm hfull⟩⟩
    · rfl
  · have hsame : mode = o.securityMode := by
      by_contra hother
      exact h ⟨hcommand, htool, .inr ⟨hmode, mode, rest, hdata, hrange, hother⟩⟩
    rw [hdone, hsame]

theorem recordOf_injective {data data' : List UInt8} (h : recordOf data = recordOf data') :
    data = data' := by
  rw [← getD_recordOf data, h, getD_recordOf]

/-- A store is not current for two devices of which one has switched the mode, or has cleared an
array. -/
theorem StoreCurrent.securityRecord_eq {d d' : ManagedDevice (CoreObjects × τ)} (h : d.StoreCurrent)
    (h' : d'.StoreCurrent) (hstore : d'.device.store = d.device.store) {p : SecurityProperty}
    (hp : p ∈ keyProperties) : securityRecord d'.security p = securityRecord d.security p := by
  apply recordOf_injective
  rw [← h.keys.records p hp, ← h'.keys.records p hp, hstore]

theorem StoreCurrent.securityRecord_eq_nil_iff {d d' : ManagedDevice (CoreObjects × τ)}
    (h : d.StoreCurrent) (h' : d'.StoreCurrent) (hstore : d'.device.store = d.device.store)
    {p : SecurityProperty} (hp : p ∈ securityArrays) :
    securityRecord d'.security p = [] ↔ securityRecord d.security p = [] := by
  have harrays : ∀ p ∈ securityArrays, p = .securityIndividualAddressTable ∨ p ∈ keyProperties := by
    decide
  rcases harrays p hp with rfl | hkey
  · have hpartners := h'.keys.partners
    rw [hstore] at hpartners
    exact hpartners.eq_nil_iff.trans h.keys.partners.eq_nil_iff.symm
  · rw [h.securityRecord_eq h' hstore hkey]

theorem not_storeCurrent_command {d : ManagedDevice (CoreObjects × τ)} (h : d.StoreCurrent)
    (source : IndividualAddress) {request : FunctionPropertyRequest}
    (hunmarked : UnmarkedCommand d.security request) :
    ¬ ({ d with device := { d.device with
          security := (handleSecurityFunctionProperty d.security source request).1 } } :
        ManagedDevice (CoreObjects × τ)).StoreCurrent := by
  intro h'
  obtain ⟨hcommand, htool, ⟨hload, hclears, p, hp, hfull⟩ |
    ⟨hmode, mode, rest, hdata, hrange, hother⟩⟩ := hunmarked
  · obtain ⟨event, rest, hdata⟩ : ∃ event rest, request.data = event :: rest := by
      rcases hdata : request.data with _ | ⟨event, rest⟩
      · rcases hclears with hclears | hclears <;> simp [hdata] at hclears
      · exact ⟨event, rest, rfl⟩
    have hdone : (handleSecurityFunctionProperty d.security source request).1
        = d.security.applyLoadControlEvent event := by
      rw [handleSecurityFunctionProperty, if_neg, if_pos hload]
      · simp only [hcommand, hdata]
      · simp [htool]
    have hpersisted : p ∈ persistedProperties := (by decide : ∀ p ∈ securityArrays, _) p hp
    have harray : securityRecord d.security p = (d.security.extraProperties p).getD [] := by
      cases p <;> first | rfl | exact absurd hp (by decide)
    have hevent : event = 1 ∨ event = 4 := by
      rw [Clears, hdata, List.head?_cons, Option.some.injEq, Option.some.injEq] at hclears
      exact hclears
    have hempty := (h.securityRecord_eq_nil_iff h' rfl hp).mp (by
      change securityRecord (handleSecurityFunctionProperty d.security source request).1 p = []
      rw [hdone, securityRecord_applyLoadControlEvent _ _ hpersisted, if_pos ⟨hevent, hp⟩])
    exact hfull (harray ▸ hempty)
  · have hdone : (handleSecurityFunctionProperty d.security source request).1
        = { d.security with securityMode := mode } := by
      rw [handleSecurityFunctionProperty, if_neg, if_neg, if_neg]
      · simp [hdata, hcommand, hrange]
      · exact not_not.mpr hmode
      · rw [hmode]
        decide
      · simp [htool]
    have hmode' : securityRecord (handleSecurityFunctionProperty d.security source request).1 .securityMode
        = securityRecord d.security .securityMode :=
      h.securityRecord_eq h' rfl (by decide)
    rw [hdone] at hmode'
    exact hother (List.cons.inj hmode').1

/-! ## The tables -/

theorem objectRecord_write (schema : ReferenceSchema) {o o' : CoreObjects} {objectType : UInt16}
    {propertyId : UInt8} {startIndex : Nat} {value : List UInt8} (hdevice : objectType ≠ 0)
    (hwritten : o.writeProperty schema objectType propertyId startIndex value = some o')
    (hmarked : marksTable objectType propertyId value = false)
    (h : ¬ UnmarkedWrite schema o objectType propertyId startIndex value) :
    ∀ p ∈ persistedObjectProperties, objectRecord o' p = objectRecord o p := by
  have hkept := CoreObjects.keepsOthers_writeProperty schema hwritten
  have hsome : (o.writeProperty schema objectType propertyId startIndex value).isSome = true := by
    rw [hwritten]
    rfl
  have hparameters : ∀ p ∈ unmarkedParameters,
      objectRecord o' (.device p) = objectRecord o (.device p) := by
    intro p hp
    have hrecord : ∀ core : CoreObjects, objectRecord core (.device p)
        = objectRecord { o with deviceObject := core.deviceObject } (.device p) := by
      intro core
      cases p <;> rfl
    rw [hrecord o', hkept.deviceObject hdevice]
  apply objectRecord_congr
  · rw [hkept.deviceObject hdevice]
  · exact hparameters
  · by_cases htype : objectType = 1
    · subst htype
      obtain ⟨rfl, -⟩ := control_of_unmarked rfl hmarked
      obtain ⟨event, hevent, rfl⟩ := writeProperty_addressControl schema hwritten
      rw [entries_applyLoadControlEvent]
      split
      · rename_i hclears
        -- what is cleared was empty
        by_contra hfull
        have hclears' : Clears value := by
          rw [Clears, hevent, Option.some.injEq, Option.some.injEq]
          exact hclears
        exact h ⟨hsome, .inr (.inl ⟨rfl, rfl, hclears', Ne.symm hfull⟩)⟩
      · rfl
    · rw [hkept.addressTable htype]
  · by_cases htype : objectType = 2
    · subst htype
      obtain ⟨rfl, -⟩ := control_of_unmarked rfl hmarked
      obtain ⟨event, hevent, rfl⟩ := writeProperty_associationControl schema hwritten
      rw [entries_applyLoadControlEvent]
      split
      · rename_i hclears
        by_contra hfull
        have hclears' : Clears value := by
          rw [Clears, hevent, Option.some.injEq, Option.some.injEq]
          exact hclears
        exact h ⟨hsome, .inr (.inr ⟨rfl, rfl, hclears', Ne.symm hfull⟩)⟩
      · rfl
    · rw [hkept.associationTable htype]
  · by_cases htype : objectType = 3
    · subst htype
      obtain ⟨rfl, -⟩ := control_of_unmarked rfl hmarked
      obtain ⟨event, -, rfl⟩ := writeProperty_programControl schema hwritten
      exact loadState_applyLoadControlEvent o.applicationProgram event
    · rw [hkept.applicationProgram htype]

/-! ## One event -/

section Events

variable (config : Configuration τ) {d : ManagedDevice (CoreObjects × τ)}

theorem Sized.afterLoad (h : d.Sized) {objectType : UInt16} {propertyId : UInt8}
    {startIndex : Nat} {value : List UInt8} {core : CoreObjects}
    (hwritten : d.core.writeProperty config.schema objectType propertyId startIndex value = some core) :
    (d.afterLoad objectType propertyId value core).Bounded := by
  have hcore := bounded_writeProperty config.schema h.core hwritten
  rw [ManagedDevice.afterLoad]
  split
  · rw [CoreObjects.applyLoadedTableSegment]
    split
    · exact hcore
    · rename_i segment hsegment
      split
      · exact hcore
      · exact bounded_applySegment hcore objectType
          (h.memory segment (List.mem_of_find?_eq_some hsegment))
  · exact hcore

theorem Sized.deviceObjectCallbacks (h : d.Sized) {core : CoreObjects} (state : τ)
    (hcore : core.Bounded) : (d.deviceObjectCallbacks config.backend (core, state)).Sized := by
  rw [ManagedDevice.deviceObjectCallbacks]
  split
  · exact ⟨hcore, h.memory⟩
  · exact ⟨hcore, h.memory⟩

theorem Sized.flushPersistenceIfDirty (h : d.Sized) :
    (d.flushPersistenceIfDirty config.backend).Sized := by
  rw [ManagedDevice.flushPersistenceIfDirty]
  split
  · exact ⟨h.core, h.memory⟩
  · exact ⟨h.core, h.memory⟩

theorem Sized.effect (h : d.Sized) {operation : Operation} {d' : ManagedDevice (CoreObjects × τ)}
    (heffect : Effect config d operation d') : d'.Sized := by
  cases heffect with
  | refused => exact h
  | elsewhere => exact ⟨h.core, h.memory⟩
  | memory address data =>
    refine ⟨h.core, ?_⟩
    cases hwritten : writeMemory address data d.memory with
    | none => exact h.memory
    | some memory =>
      intro segment hsegment
      have hlayout : layout segment ∈ memory.map layout := List.mem_map_of_mem hsegment
      rw [layout_writeMemory hwritten] at hlayout
      obtain ⟨before, hbefore, hsame⟩ := List.mem_map.mp hlayout
      rw [← show before.storage.length = segment.storage.length from congrArg Prod.snd hsame]
      exact h.memory before hbefore
  | securityFunction => exact ⟨h.core, h.memory⟩
  | securityWrite => exact ⟨h.core, h.memory⟩
  | deviceWrite objectIndex propertyId startIndex value core hwritten =>
    exact h.deviceObjectCallbacks config _ (bounded_writeProperty config.schema h.core hwritten)
  | tableWrite objectIndex propertyId startIndex value objectType core d' hdevice hsecurity hwritten
      hindex htable =>
    refine ⟨?_, ?_⟩
    · rw [htable.core]
      exact h.afterLoad config hwritten
    · rw [htable.memory]
      exact h.memory
  | addressRefused => exact ⟨h.core, h.memory⟩
  | addressTaken address =>
    have hcore : ({ d.core with
        deviceObject := { d.core.deviceObject with individualAddress := address } } :
        CoreObjects).Bounded := ⟨h.core.programName, h.core.programDescription, h.core.programData⟩
    have htaken : ({ d with ownAddress := address } : ManagedDevice (CoreObjects × τ)).Sized :=
      ⟨h.core, h.memory⟩
    exact htaken.deviceObjectCallbacks config _ hcore
  | flushed =>
    have hflushed := h.flushPersistenceIfDirty config
    exact ⟨hflushed.core, hflushed.memory⟩

theorem Tracked.deviceObjectCallbacks (h : d.Tracked) {core : CoreObjects} (state : τ)
    (hcore : core.Bounded)
    (hsame : core.deviceObject.individualAddress = d.core.deviceObject.individualAddress →
      d.device.persistenceDirty = false →
      ∀ p ∈ persistedObjectProperties, objectRecord core p = objectRecord d.core p) :
    (d.deviceObjectCallbacks config.backend (core, state)).Tracked := by
  rw [ManagedDevice.deviceObjectCallbacks]
  split
  · rename_i haddress
    intro hclean
    exact (h hclean).of_same rfl (hsame haddress hclean) fun _ _ => rfl
  · exact tracked_saveToPersistence config hcore

theorem Tracked.effect (h : d.Tracked) (hsized : d.Sized) {operation : Operation}
    {d' : ManagedDevice (CoreObjects × τ)} (heffect : Effect config d operation d')
    (hmarked : d.device.persistenceDirty = false → ¬ UnmarkedOperation config d operation) :
    d'.Tracked := by
  cases heffect with
  | refused => exact h
  | elsewhere => exact h.of_same rfl rfl rfl rfl
  | memory => exact h.of_same rfl rfl rfl rfl
  | securityFunction source request =>
    intro hclean
    have hcommand : ¬ UnmarkedCommand d.security request :=
      fun hunmarked => hmarked hclean ⟨rfl, hunmarked⟩
    exact (h hclean).of_same rfl (fun _ _ => rfl) (securityRecord_command source hcommand)
  | securityWrite objectIndex propertyId startIndex value p hpid hwritten =>
    intro hclean
    obtain ⟨o, ho⟩ := Option.isSome_iff_exists.mp hwritten
    have hwritten' : d.device.security.writeProperty p startIndex value = some o := ho
    have hdirty : (d.device.writeSecurityProperty p startIndex value).persistenceDirty = true := by
      rw [Device.writeSecurityProperty, hwritten']
      rfl
    have hclean' : (d.device.writeSecurityProperty p startIndex value).persistenceDirty = false :=
      hclean
    rw [hdirty] at hclean'
    cases hclean'
  | deviceWrite objectIndex propertyId startIndex value core hwritten hindex =>
    apply h.deviceObjectCallbacks config _ (bounded_writeProperty config.schema hsized.core hwritten)
    intro haddress hclean
    obtain ⟨p, hp, hdevice, hcore⟩ := deviceWritten_of_write config.schema hwritten
    rw [hcore] at haddress ⊢
    apply objectRecord_congr haddress
    · intro q hq
      generalize core.deviceObject = written at hdevice
      cases hdevice with
      | address => cases q <;> first | rfl | exact absurd hq (by decide)
      | mode => cases q <;> first | rfl | exact absurd hq (by decide)
      | parameter _ hparameter _ hvalue hothers =>
        by_cases hqp : q = p
        · subst hqp
          rw [hvalue]
          by_contra hchanged
          have hsome : (d.core.writeProperty config.schema 0 propertyId startIndex value).isSome
              = true := by
            rw [hwritten]
            rfl
          exact hmarked hclean ⟨0, hindex, hsome, .inl ⟨rfl, q, hparameter, hp, hchanged⟩⟩
        · exact hothers d.core q hq hqp
    · rfl
    · rfl
    · rfl
  | tableWrite objectIndex propertyId startIndex value objectType core d' hdevice hsecurity hwritten
      hindex htable =>
    cases hmarks : marksTable objectType propertyId value with
    | true =>
      intro hclean
      have hdirty : d'.device.persistenceDirty = true := by
        rw [htable.device, hmarks]
        split <;> rfl
      rw [hdirty] at hclean
      cases hclean
    | false =>
      have hdevice' : d'.device
          = { d.device with addressTable := d'.device.addressTable } := by
        rw [htable.device, hmarks]
        split <;> rfl
      intro hclean
      rw [hdevice'] at hclean
      have hnotCompleted : isLoadCompleted objectType propertyId value = false := by
        by_contra hcompleted
        rw [Bool.not_eq_false] at hcompleted
        rw [marksTable, hcompleted, Bool.or_true, Bool.and_true] at hmarks
        rw [isLoadCompleted, isLoadControlWrite, hmarks] at hcompleted
        cases hcompleted
      have hcore : d'.core = core := by
        rw [htable.core, ManagedDevice.afterLoad, hnotCompleted]
        rfl
      apply (h hclean).of_same
      · rw [hdevice']
      · rw [hcore]
        apply objectRecord_write config.schema hdevice hwritten hmarks
        intro hunmarked
        exact hmarked hclean ⟨objectType, hindex, hunmarked⟩
      · intro p _
        have hsame : d'.security = d.security := by
          rw [ManagedDevice.security, hdevice', ManagedDevice.security]
        rw [hsame]
  | addressRefused => exact h.of_same rfl rfl rfl rfl
  | addressTaken address =>
    have htaken : ({ d with ownAddress := address } : ManagedDevice (CoreObjects × τ)).Tracked :=
      h.of_same rfl rfl rfl rfl
    have hcore : ({ d.core with
        deviceObject := { d.core.deviceObject with individualAddress := address } } :
        CoreObjects).Bounded :=
      ⟨hsized.core.programName, hsized.core.programDescription, hsized.core.programData⟩
    apply htaken.deviceObjectCallbacks config _ hcore
    intro haddress _
    apply objectRecord_congr haddress
    · intro q hq
      cases q <;> first | rfl | exact absurd hq (by decide)
    · rfl
    · rfl
    · rfl
  | flushed => exact (h.flushPersistenceIfDirty config hsized).of_same rfl rfl rfl rfl

/-! ## What is lost -/

theorem StoreCurrent.objectRecord_eq {d' : ManagedDevice (CoreObjects × τ)} (h : d.StoreCurrent)
    (h' : d'.StoreCurrent) (hstore : d'.device.store = d.device.store) {p : ObjectProperty}
    (hp : p ∈ persistedObjectProperties) : objectRecord d'.core p = objectRecord d.core p := by
  apply recordOf_injective
  rw [← h.objects p hp, ← h'.objects p hp, hstore]

theorem not_tracked_clear (h : d.StoreCurrent) (hclean : d.device.persistenceDirty = false)
    {objectType : UInt16} {value : List UInt8} {core : CoreObjects}
    (htable : isTableObject objectType = true) (hclears : Clears value)
    (hdevice : core.deviceObject = d.core.deviceObject) {p : ObjectProperty}
    (hp : p ∈ persistedObjectProperties) (hempty : objectRecord core p = [])
    (hfull : objectRecord d.core p ≠ []) :
    ¬ (d.afterOtherWrite config.backend objectType 5 value (core, d.others.2)).Tracked := by
  obtain ⟨hmarks, hcompleted⟩ := marksTable_of_clears htable hclears
  have hwritten : TableWritten objectType 5 value core d
      (d.afterOtherWrite config.backend objectType 5 value (core, d.others.2)) :=
    afterOtherWrite_cases config d hdevice
  generalize d.afterOtherWrite config.backend objectType 5 value (core, d.others.2) = d' at hwritten
  intro htracked
  have hdevice' : d'.device = { d.device with addressTable := d'.device.addressTable } := by
    rw [hwritten.device, hmarks]
    split <;> rfl
  have hcore : d'.core = core := by
    rw [hwritten.core, ManagedDevice.afterLoad, hcompleted]
    rfl
  have hclean' : d'.device.persistenceDirty = false := by
    rw [hdevice']
    exact hclean
  have hrecord := h.objectRecord_eq (htracked hclean') (by rw [hdevice']) hp
  rw [hcore, hempty] at hrecord
  exact hfull hrecord.symm

theorem not_tracked_apply (h : d.StoreCurrent) (hclean : d.device.persistenceDirty = false)
    {operation : Operation} (hunmarked : UnmarkedOperation config d operation) :
    ¬ (d.apply config.backend operation).Tracked := by
  cases operation with
  | writeProperty objectIndex propertyId startIndex value =>
    obtain ⟨objectType, hindex, hsome, hcases⟩ := hunmarked
    obtain ⟨core, hwritten⟩ := Option.isSome_iff_exists.mp hsome
    rcases hcases with ⟨rfl, p, hparameter, hp, hchanged⟩ | ⟨rfl, rfl, hclears, hfull⟩ |
      ⟨rfl, rfl, hclears, hfull⟩
    · rw [apply_writeProperty config hindex (by decide) hwritten, afterOtherWrite_deviceObject]
      obtain ⟨q, hq, hdevice, hcore⟩ := deviceWritten_of_write config.schema hwritten
      rw [hp, Option.some.injEq, ObjectProperty.device.injEq] at hq
      subst hq
      intro htracked
      generalize core.deviceObject = written at hdevice hcore
      cases hdevice with
      | address _ hnot => exact hnot hparameter
      | mode _ hnot => exact hnot hparameter
      | parameter _ _ haddress hvalue _ =>
        subst hcore
        have hsame : config.backend.individualAddress
            ({ d.core with deviceObject := written }, d.others.2)
              = config.backend.individualAddress d.others := haddress
        rw [ManagedDevice.deviceObjectCallbacks, if_pos hsame] at htracked
        have hpersisted : ObjectProperty.device p ∈ persistedObjectProperties :=
          (by decide : ∀ p ∈ unmarkedParameters, ObjectProperty.device p ∈ persistedObjectProperties)
            p hparameter
        have hrecord : objectRecord { d.core with deviceObject := written } (.device p)
            = objectRecord d.core (.device p) := h.objectRecord_eq (htracked hclean) rfl hpersisted
        rw [hvalue] at hrecord
        exact hchanged hrecord
    · rw [apply_writeProperty config hindex (by decide) hwritten]
      have hkept := CoreObjects.keepsOthers_writeProperty config.schema hwritten
      obtain ⟨event, hevent, rfl⟩ := writeProperty_addressControl config.schema hwritten
      apply not_tracked_clear config h hclean rfl hclears (hkept.deviceObject (by decide))
        (p := .addressTable .tableData) (by decide)
      · rw [Clears, hevent, Option.some.injEq, Option.some.injEq] at hclears
        rw [objectRecord, entries_applyLoadControlEvent, if_pos hclears]
        rfl
      · exact groupAddressFormat.encodeEntries_ne_nil hfull
    · rw [apply_writeProperty config hindex (by decide) hwritten]
      have hkept := CoreObjects.keepsOthers_writeProperty config.schema hwritten
      obtain ⟨event, hevent, rfl⟩ := writeProperty_associationControl config.schema hwritten
      apply not_tracked_clear config h hclean rfl hclears (hkept.deviceObject (by decide))
        (p := .associationTable .tableData) (by decide)
      · rw [Clears, hevent, Option.some.injEq, Option.some.injEq] at hclears
        rw [objectRecord, entries_applyLoadControlEvent, if_pos hclears]
        rfl
      · exact associationFormat.encodeEntries_ne_nil hfull
  | functionProperty source objectType request =>
    obtain ⟨rfl, hcommand⟩ := hunmarked
    intro htracked
    exact not_storeCurrent_command h source hcommand (htracked hclean)
  | nothing | writeMemory | assignAddress | restart | runtime => exact absurd hunmarked id

end Events

/-! ## Starting on what was saved -/

section Boot

variable (config : Configuration τ)

/-- A store that a save has left, of a device that was running and had valid tables. -/
def Saved (store : Store) : Prop :=
  ∃ (o : CoreObjects) (s : SecurityInterfaceObject),
    HoldsObjects store o ∧ HoldsSecurity store s ∧ CurrentSchema config.identity store
      ∧ o.Bounded ∧ s.Persistable ∧ o.addressTable.isValid = true
      ∧ o.associationTable.isValid = true ∧ o.deviceObject.runState = 1

theorem securityRecord_securityRestored (s : SecurityInterfaceObject) {p : SecurityProperty}
    (hp : p ∈ persistedProperties) : securityRecord (securityRestored s) p = securityRecord s p := by
  obtain ⟨hmode, hkey, hsending⟩ := scalars_securityRestored s
  have harray : ∀ {q : SecurityProperty} {size : Nat}, q.handler = some (.array size) →
      ((securityRestored s).extraProperties q).getD [] = (s.extraProperties q).getD [] := by
    intro q size hhandler
    rw [extraProperties_securityRestored s hhandler, getD_recordOf]
  cases p with
  | securityMode => exact congrArg (fun mode => [mode]) hmode
  | toolKey => exact hkey
  | sequenceNumberSending => exact congrArg (toOctets 6) hsending
  | p2pKeyTable => exact harray rfl
  | groupKeyTable => exact harray rfl
  | securityIndividualAddressTable => exact harray rfl
  | zoneKeyTable => exact harray rfl
  | goSecurityFlags => exact harray rfl
  | _ => exact absurd hp (by decide)

theorem securityRecord_loadSecuritySequenceState (store : Store) (o : SecurityInterfaceObject)
    (p : SecurityProperty) :
    securityRecord (loadSecuritySequenceState store o) p = securityRecord o p := by
  have hset : ∀ sequence, securityRecord (o.setToolAccessSequence sequence) p = securityRecord o p := by
    intro sequence
    rw [SecurityInterfaceObject.setToolAccessSequence]
    split
    · rfl
    · cases p <;> rfl
  rw [loadSecuritySequenceState]
  split
  · rfl
  · split
    · rfl
    · have hclean : ∀ o' : SecurityInterfaceObject,
          securityRecord { o' with sequenceStateDirty := false } p = securityRecord o' p := by
        intro o'
        cases p <;> rfl
      dsimp only
      rw [hclean]
      split
      · exact hset _
      · rfl

/-- Keys and sequence numbers are derived; of the tables only the numbers of the partners change. -/
theorem securityRecord_applySecurityKeyTables (o : SecurityInterfaceObject)
    (addresses : List UInt16) :
    (∀ p, p ≠ .securityIndividualAddressTable →
        securityRecord (applySecurityKeyTables o addresses) p = securityRecord o p)
      ∧ SameAddresses (o.iaTable.getD []) ((applySecurityKeyTables o addresses).iaTable.getD []) := by
  rw [applySecurityKeyTables]
  rw [SecurityInterfaceObject.syncSequencesFromAddressTable]
  split
  · refine ⟨?_, ?_⟩
    · intro p _
      cases p <;> rfl
    · exact .refl _
  · rename_i blob htable
    have htable' : o.iaTable = some blob := htable
    refine ⟨?_, ?_⟩
    · intro p hne
      cases p <;> first | rfl | exact absurd rfl hne
    · rw [htable']
      exact SecurityIaTable.sameAddresses_sync _ _

/-- What is restored from a store is what the store has, before and after the keys are derived. -/
theorem holdsKeys_restored {store : Store} {s : SecurityInterfaceObject} (h : HoldsSecurity store s)
    (addresses : List UInt16) :
    HoldsKeys store (loadSecuritySequenceState store
      (applySecurityKeyTables (securityRestored s) addresses)) := by
  obtain ⟨hrecords, hpartners⟩ :=
    securityRecord_applySecurityKeyTables (securityRestored s) addresses
  refine ⟨?_, ?_⟩
  · have hnot : ∀ p ∈ keyProperties, p ≠ .securityIndividualAddressTable := by decide
    intro p hp
    rw [securityRecord_loadSecuritySequenceState, hrecords p (hnot p hp),
      securityRecord_securityRestored s (mem_persistedProperties p hp)]
    exact h p (mem_persistedProperties p hp)
  · have hloaded := securityRecord_loadSecuritySequenceState store
      (applySecurityKeyTables (securityRestored s) addresses) .securityIndividualAddressTable
    have hsaved := securityRecord_securityRestored s
      (p := .securityIndividualAddressTable) (by decide)
    have hstored : (store (securityKeyId .securityIndividualAddressTable)).getD []
        = (securityRestored s).iaTable.getD [] := by
      rw [h _ (by decide), getD_recordOf]
      exact hsaved.symm
    rw [hstored]
    change SameAddresses _ (securityRecord _ .securityIndividualAddressTable)
    rw [hloaded]
    exact hpartners

theorem objectRecord_restored {fresh o : CoreObjects} (haddress : o.addressTable.isValid = true)
    (hassociation : o.associationTable.isValid = true) (hrunning : o.deviceObject.runState = 1)
    (loadState : UInt8) :
    ∀ p ∈ persistedObjectProperties,
      objectRecord { CoreObjects.restored fresh o with
          deviceObject := { (CoreObjects.restored fresh o).deviceObject with
            loadState := loadState, runState := 1 } } p
        = objectRecord o p := by
  apply objectRecord_congr
  · rfl
  · intro p hp
    cases p with
    | runStateControl => exact congrArg (fun state : UInt8 => toOctets 1 state.toNat) hrunning.symm
    | _ => first | rfl | exact absurd hp (by decide)
  · rw [CoreObjects.restored]
    dsimp only
    rw [if_pos haddress]
  · rw [CoreObjects.restored]
    dsimp only
    rw [if_pos hassociation]
  · rfl

theorem storeCurrent_boot {store : Store} (h : Saved config store) :
    (config.boot store).StoreCurrent ∧ (config.boot store).Sized := by
  obtain ⟨o, s, hobjects, hsecurity, hschema, hbounded, hpersistable, haddress, hassociation,
    hrunning⟩ := h
  have hstore : store.enforcePersistenceSchemaVersion config.identity.schemaVersion = store := by
    rw [Store.enforcePersistenceSchemaVersion]
    exact if_pos hschema
  have hload : config.fresh.load config.schema store = CoreObjects.restored config.fresh o :=
    load_of_holds config.schema ⟨rfl, rfl, rfl, rfl, rfl⟩ hbounded hobjects
  have hrestored := restoredSecurity_of_holds hpersistable hsecurity
  rw [Configuration.boot]
  simp only [hstore, hload, hrestored]
  refine ⟨⟨?_, ?_⟩, ?_, ?_⟩
  · intro p hp
    refine (hobjects p hp).trans (congrArg recordOf ?_)
    exact (objectRecord_restored haddress hassociation hrunning 2 p hp).symm
  · exact holdsKeys_restored hsecurity _
  · exact ⟨hbounded.programName, hbounded.programDescription, hbounded.programData⟩
  · intro segment hsegment
    have hlengths : (tableSegments.map fun segment => segment.storage.length)
        = [514, 2050, 514, 0x100] := by
      simp only [tableSegments, List.map_cons, List.map_nil, List.length_replicate]
    have hlength : segment.storage.length
        ∈ tableSegments.map fun segment => segment.storage.length := List.mem_map_of_mem hsegment
    rw [hlengths] at hlength
    simp only [List.mem_cons, List.not_mem_nil, or_false] at hlength
    omega

end Boot

/-! ## Whole runs -/

/-- A device in use: it is tracked, and can be saved. -/
structure Followed (d : ManagedDevice (CoreObjects × τ)) : Prop where
  tracked : d.Tracked
  sized : d.Sized

section Runs

variable (config : Configuration τ) {d : ManagedDevice (CoreObjects × τ)}

theorem Sized.loop (h : d.Sized) (nowMs : UInt32) : (d.loop config.backend nowMs).Sized := by
  have hpumped : (d.pumpPersistence config.backend nowMs).Sized := by
    rw [ManagedDevice.pumpPersistence]
    split
    · exact ⟨h.core, h.memory⟩
    · exact ⟨h.core, h.memory⟩
  exact ⟨hpumped.core, hpumped.memory⟩

theorem Sized.setProgMode (h : d.Sized) (enable : Bool) :
    ({ d.core with deviceObject := { d.core.deviceObject with progMode := enable } } :
      CoreObjects).Bounded :=
  ⟨h.core.programName, h.core.programDescription, h.core.programData⟩

theorem Sized.managedStep (h : d.Sized) {event : ManagedEvent τ} (hup : event ≠ .reboot) :
    (managedStep config d event).Sized := by
  cases event with
  | frame frame =>
    rw [Bau.managedStep, handleTransportRx_fst]
    exact h.effect config (effect_apply config d _)
  | loop nowMs => exact h.loop config nowMs
  | flush => exact h.flushPersistenceIfDirty config
  | setProgMode enable => exact h.deviceObjectCallbacks config _ (h.setProgMode enable)
  | runtime state => exact ⟨h.core, h.memory⟩
  | reboot => exact absurd rfl hup

theorem tracked_managedStep_iff (h : d.Tracked) (hsized : d.Sized) {event : ManagedEvent τ}
    (hup : event ≠ .reboot) :
    (managedStep config d event).Tracked ↔ ¬ Untracked config d event := by
  cases event with
  | frame frame =>
    rw [Bau.managedStep, handleTransportRx_fst]
    constructor
    · rintro htracked ⟨hclean, hunmarked⟩
      exact not_tracked_apply config (h hclean) hclean hunmarked htracked
    · intro hmarked
      apply h.effect config hsized (effect_apply config d _)
      intro hclean hunmarked
      exact hmarked ⟨hclean, hunmarked⟩
  | loop nowMs => exact iff_of_true (h.loop config hsized nowMs) id
  | flush => exact iff_of_true (h.flushPersistenceIfDirty config hsized) id
  | setProgMode enable =>
    refine iff_of_true ?_ id
    apply h.deviceObjectCallbacks config _ (hsized.setProgMode enable)
    intro _ _
    apply objectRecord_congr
    · rfl
    · intro q hq
      cases q <;> first | rfl | exact absurd hq (by decide)
    · rfl
    · rfl
    · rfl
  | runtime state => exact iff_of_true (h.of_same rfl rfl rfl rfl) id
  | reboot => exact absurd rfl hup

end Runs

end ManagedDevice

/-- What happens while a device is up. -/
abbrev UpEvent (τ : Type) : Type := { event : ManagedEvent τ // event ≠ .reboot }

/-- One such event. -/
def upStep (config : Configuration τ) (d : ManagedDevice (CoreObjects × τ)) (event : UpEvent τ) :
    ManagedDevice (CoreObjects × τ) := managedStep config d event.val

/-- The store is current unless the device is dirty: when it starts on what was saved, and after
every event of a run just when no change goes unmarked. -/
theorem tracked_iff (config : Configuration τ) {store : Store}
    (hsaved : ManagedDevice.Saved config store) (events : List (UpEvent τ)) :
    (config.boot store).Tracked
      ∧ (Along (upStep config) (fun d event => (upStep config d event).Tracked) (config.boot store)
          events
        ↔ Along (upStep config) (fun d event => ¬ d.Untracked config event.val) (config.boot store)
          events) := by
  obtain ⟨hcurrent, hsized⟩ := ManagedDevice.storeCurrent_boot config hsaved
  have hfollowed : (config.boot store).Followed := ⟨fun _ => hcurrent, hsized⟩
  refine ⟨hfollowed.tracked, ?_⟩
  apply along_iff_along _ _ hfollowed
  · intro d event hd htracked
    exact ⟨htracked, hd.sized.managedStep config event.property⟩
  · intro d event hd
    exact ManagedDevice.tracked_managedStep_iff config hd.tracked hd.sized event.property

/-- A device without a serial number. -/
def sampleDevice : Configuration Unit := { ownAddress := ⟨0x1105⟩, state := () }

/-- The interface objects of a device that runs, as they are first saved: two group addresses, with an
association each. -/
def sampleRunning : CoreObjects :=
  { deviceObject := { individualAddress := ⟨0x1105⟩, runState := 1 }
    addressTable := { entries := [0x0801, 0x0802], bounded := by decide }
    associationTable := { entries := [⟨1, 1⟩, ⟨2, 2⟩], bounded := by decide } }

/-- The store that their save leaves. -/
def savedStore : Store :=
  ((Store.saveById (fun _ => none) persistenceSchemaVersionKeyId [0, 1]).saveSecurity {}).saveObjects
    (fun _ => []) sampleRunning

theorem saved_savedStore : ManagedDevice.Saved sampleDevice savedStore := by
  have hbounded : sampleRunning.Bounded := ⟨Nat.zero_le _, Nat.zero_le _, Nat.zero_le _⟩
  refine ⟨sampleRunning, {}, ?_, ?_, ?_, hbounded, SecurityInterfaceObject.persistable_default, rfl,
    rfl, rfl⟩
  · exact holdsObjects_saveObjects _ _ hbounded
  · exact holdsSecurity_saveObjects _ (holdsSecurity_saveSecurity _ _) _
  · rw [CurrentSchema]
    decide +kernel

/-- A_PropertyValue_Write of the second group address. -/
def writeGroupAddressFrame : TDataFrame :=
  { service := .individual
    source := ⟨0x1101⟩
    destination := ⟨0x1105⟩
    destinationType := .individual
    tpdu := ⟨[0x03, 0xD7, 1, 23, 0x10, 0x02, 0x08, 0x03], by decide⟩ }

theorem groupAddress_marked :
    ¬ (sampleDevice.boot savedStore).Untracked sampleDevice (.frame writeGroupAddressFrame) := by
  have hoperation : (sampleDevice.boot savedStore).operationOf sampleDevice.backend
      writeGroupAddressFrame = .writeProperty 1 23 2 [0x08, 0x03] := by
    rfl
  rintro ⟨-, hunmarked⟩
  rw [hoperation] at hunmarked
  obtain ⟨objectType, htype, -, hwrite⟩ := hunmarked
  obtain rfl : (1 : UInt16) = objectType := Option.some.inj htype
  rcases hwrite with ⟨himpossible, -⟩ | ⟨-, himpossible, -⟩ | ⟨himpossible, -⟩
  · exact absurd himpossible (by decide)
  · exact absurd himpossible (by decide)
  · exact absurd himpossible (by decide)

/-- Started on that store, a device stays tracked through a write to a table, a flush and the
programming button. -/
theorem tracked_through_button :
    Along (upStep sampleDevice) (fun d event => (upStep sampleDevice d event).Tracked)
      (sampleDevice.boot savedStore)
      [⟨.frame writeGroupAddressFrame, nofun⟩, ⟨.flush, nofun⟩, ⟨.setProgMode true, nofun⟩,
        ⟨.loop 1000, nofun⟩] :=
  (tracked_iff sampleDevice saved_savedStore _).2.mpr ⟨groupAddress_marked, id, id, id, trivial⟩

/-- A_PropertyValue_Write of the routing count of the Device Object. -/
def writeRoutingCountFrame : TDataFrame :=
  { service := .individual
    source := ⟨0x1101⟩
    destination := ⟨0x1105⟩
    destinationType := .individual
    tpdu := ⟨[0x03, 0xD7, 0, 51, 0x10, 0x01, 3], by decide⟩ }

/-- The new routing count is not in the store, and the device is not dirty. -/
theorem routingCount_untracked :
    ¬ (managedStep sampleDevice (sampleDevice.boot savedStore) (.frame writeRoutingCountFrame)).Tracked := by
  intro htracked
  have hclean : (managedStep sampleDevice (sampleDevice.boot savedStore)
      (.frame writeRoutingCountFrame)).device.persistenceDirty = false := by decide +kernel
  have hrecord := (htracked hclean).objects (.device .routingCount) (by decide)
  revert hrecord
  decide +kernel

end KnxStack.Bau
