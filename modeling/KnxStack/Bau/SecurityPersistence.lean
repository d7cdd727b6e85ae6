import KnxStack.Lib.Runs
import KnxStack.Security.SecureApplicationLayer

/-!
# Keeping the security state across restarts

The part of `BusAccessUnit` (`bau/bau.cpp`, `bau/bau_management.cpp`) and of `InterfaceObjectManager`
(`objects/interface_object_manager.cpp`) that stores the Security Interface Object and brings it back:
the full save with its mark `persistenceDirty`, the checkpoint of the sequence numbers with its mark
`sequenceStateDirty`, the pumps in `loop`, the flush before a restart and the restore in `init`.

A `History` is a device with what it has unwrapped and what it has sent so far; `step` is one event,
and a run of events may contain any number of restarts. Of the other interface objects only the group
address table matters, because group keys are found through it: an event that writes it may leave any
content, and an event that writes one of the others only marks the state as dirty.
-/

set_option autoImplicit false

namespace KnxStack.Bau

open KnxStack.Lib KnxStack.Lib.Octets KnxStack.Lib.Words KnxStack.Objects KnxStack.Security

/-! ## The store -/

/-- The non-volatile store; every write to it succeeds. -/
abbrev Store : Type := UInt16 → Option (List UInt8)

/-- `saveById`. -/
def Store.saveById (store : Store) (keyId : UInt16) (data : List UInt8) : Store :=
  Function.update store keyId (some data)

/-- `eraseById`. -/
def Store.eraseById (store : Store) (keyId : UInt16) : Store := Function.update store keyId none

/-- `makePersistenceKeyId` for a property of the Security Interface Object, of type 17. -/
def securityKeyId (p : SecurityProperty) : UInt16 := 0x1100 ||| p.pid.toUInt16

/-- The key of the group address table: type 1, `PID_TABLE`. -/
def addressTableKeyId : UInt16 := 0x0117

/-- `kToolAccessSequenceKeyId`. -/
def toolAccessSequenceKeyId : UInt16 := 0x11F0

/-- `kPersistenceSchemaVersionKeyId`. -/
def persistenceSchemaVersionKeyId : UInt16 := 0xFFFF

/-- The persisted properties of the Security Interface Object, in the order of its manifest. -/
def persistedProperties : List SecurityProperty :=
  [.securityMode, .p2pKeyTable, .groupKeyTable, .securityIndividualAddressTable, .toolKey,
    .sequenceNumberSending, .zoneKeyTable, .goSecurityFlags]

/-- `saveProp`: an empty value is erased rather than stored. -/
def Store.saveProp (store : Store) (keyId : UInt16) (value : Option (List UInt8)) : Store :=
  match value with
  | none => store
  | some [] => store.eraseById keyId
  | some data => store.saveById keyId data

/-- The value under which a property is saved: an array as a whole, a scalar as its one element. -/
def persistedValue (o : SecurityInterfaceObject) (p : SecurityProperty) : Option (List UInt8) :=
  match p with
  | .p2pKeyTable | .groupKeyTable | .securityIndividualAddressTable | .zoneKeyTable
  | .goSecurityFlags => some ((o.extraProperties p).getD [])
  | _ => o.readProperty p 1 1

/-- The security part of `InterfaceObjectManager::saveToPersistence`. -/
def Store.saveSecurity (store : Store) (o : SecurityInterfaceObject) : Store :=
  persistedProperties.foldl (fun store p => store.saveProp (securityKeyId p) (persistedValue o p))
    store

/-! ## The device -/

/-- The part of a device that this module is about. -/
structure Device where
  security : SecurityInterfaceObject := {}
  secureAl : SecureApplicationLayer := {}
  addressTable : List UInt16 := []
  store : Store := fun _ => none
  persistenceDirty : Bool := false
  persistenceBurstActive : Bool := false
  persistenceMarkSeq : UInt32 := 0
  persistenceSeenSeq : UInt32 := 0
  persistenceQuietStartMs : UInt32 := 0
  persistenceBurstStartMs : UInt32 := 0
  sequenceCheckpointDueMs : UInt32 := 60000

/-- `AddressTableObject::getAddress`: one-based, zero when there is no such entry. -/
def getAddress (addressTable : List UInt16) (index : Nat) : UInt16 :=
  if index = 0 ∨ 256 < index then 0 else addressTable.getD (index - 1) 0

/-- The entries of an array of elements of the given size. -/
def tableEntries (blob : List UInt8) (size : Nat) : List (List UInt8) :=
  (List.range (blob.length / size)).map fun i => slice blob (i * size) size

/-- The group keys of `applySecurityKeyTables`: each entry names its group address by index. -/
def groupKeysOf (o : SecurityInterfaceObject) (addressTable : List UInt16) : UInt16 → Option Key :=
  (tableEntries ((o.extraProperties .groupKeyTable).getD []) 18).foldl
    (fun keys entry =>
      let address := getAddress addressTable (ofOctets (slice entry 0 2))
      if address = 0 then keys else Function.update keys address (some (slice entry 2 16)))
    fun _ => none

/-- The device keys of `applySecurityKeyTables`: each entry names its partner by index. -/
def deviceKeysOf (o : SecurityInterfaceObject) : UInt16 → Option Key :=
  let table := o.iaTable.getD []
  (tableEntries ((o.extraProperties .p2pKeyTable).getD []) 20).foldl
    (fun keys entry =>
      let index := ofOctets (slice entry 0 2)
      if index = 0 ∨ SecurityIaTable.entryCount table < index then keys
      else
        Function.update keys (SecurityIaTable.addressAt table (index - 1)) (some (slice entry 2 16)))
    fun _ => none

/-- `applySecurityKeyTables`. -/
def applySecurityKeyTables (o : SecurityInterfaceObject) (addressTable : List UInt16) :
    SecurityInterfaceObject :=
  let o := { o with groupKeys := groupKeysOf o addressTable }
  let o := o.syncSequencesFromAddressTable
  { o with deviceKeys := deviceKeysOf o }

namespace Device

/-- `syncSecurityKeyTables`. -/
def syncSecurityKeyTables (d : Device) : Device :=
  { d with security := applySecurityKeyTables d.security d.addressTable }

/-- `markPersistenceDirty`. -/
def markPersistenceDirty (d : Device) : Device :=
  { d with persistenceDirty := true, persistenceMarkSeq := d.persistenceMarkSeq + 1 }

/-- `saveToPersistence`. -/
def saveToPersistence (d : Device) : Device :=
  { d with
    persistenceDirty := false
    persistenceBurstActive := false
    persistenceSeenSeq := d.persistenceMarkSeq
    store := (d.store.saveProp addressTableKeyId
        (some (d.addressTable.flatMap fun address => toOctets 2 address.toNat))).saveSecurity
      d.security }

/-- `saveSecuritySequenceState`: the address table, if it is not empty, and the number for tool
access. -/
def saveSecuritySequenceState (d : Device) : Device :=
  let store := match d.security.iaTable with
    | none => d.store
    | some [] => d.store
    | some blob => d.store.saveById (securityKeyId .securityIndividualAddressTable) blob
  { d with
    store := store.saveById toolAccessSequenceKeyId (toOctets 6 d.security.toolAccessSequence)
    security := { d.security with sequenceStateDirty := false } }

/-- `checkpointSecuritySequenceState`. -/
def checkpointSecuritySequenceState (d : Device) : Device :=
  if !d.security.sequenceStateDirty then d else d.saveSecuritySequenceState

/-- `pumpSecuritySequenceCheckpoint`; the difference is read as a signed number. -/
def pumpSecuritySequenceCheckpoint (d : Device) (nowMs : UInt32) : Device :=
  if !d.security.sequenceStateDirty then { d with sequenceCheckpointDueMs := nowMs + 60000 }
  else if 2 ^ 31 ≤ (nowMs - d.sequenceCheckpointDueMs).toNat then d
  else { d.checkpointSecuritySequenceState with sequenceCheckpointDueMs := nowMs + 60000 }

/-- `pumpPersistence`. -/
def pumpPersistence (d : Device) (nowMs : UInt32) : Device :=
  if !d.persistenceDirty then d
  else if d.persistenceMarkSeq ≠ d.persistenceSeenSeq then
    let d := { d with
      persistenceSeenSeq := d.persistenceMarkSeq, persistenceQuietStartMs := nowMs }
    if !d.persistenceBurstActive then
      { d with persistenceBurstActive := true, persistenceBurstStartMs := nowMs }
    else d
  else if 400 ≤ nowMs - d.persistenceQuietStartMs ∨ 5000 ≤ nowMs - d.persistenceBurstStartMs then
    d.saveToPersistence
  else d

/-- The persistence part of `BusAccessUnit::loop`. -/
def loop (d : Device) (nowMs : UInt32) : Device :=
  (d.pumpPersistence nowMs).pumpSecuritySequenceCheckpoint nowMs

/-- `flushPersistenceIfDirty`. -/
def flushPersistenceIfDirty (d : Device) : Device :=
  let d := if d.persistenceDirty then d.saveToPersistence else d
  d.checkpointSecuritySequenceState

end Device

/-! ## Starting up -/

/-- `enforcePersistenceSchemaVersion`: what was stored under another version is discarded. -/
def Store.enforcePersistenceSchemaVersion (store : Store) (schemaVersion : UInt16) : Store :=
  let current := toOctets 2 schemaVersion.toNat
  if store persistenceSchemaVersionKeyId = some current then store
  else Store.saveById (fun _ => none) persistenceSchemaVersionKeyId current

/-- The write of a restored group address table: whole entries, and only valid addresses. -/
def restoreAddressTable (data : Option (List UInt8)) : List UInt16 :=
  match data with
  | none => []
  | some octets =>
      let addresses := (tableEntries octets 2).map fun entry => UInt16.ofNat (ofOctets entry)
      if octets = [] ∨ octets.length % 2 ≠ 0 ∨ 256 < octets.length / 2 ∨ addresses.any (· == 0) then []
      else addresses

/-- `loadProp` on the Security Interface Object. -/
def loadProp (store : Store) (o : SecurityInterfaceObject) (p : SecurityProperty) :
    SecurityInterfaceObject :=
  match store (securityKeyId p) with
  | none => o
  | some data => (o.writeProperty p 1 data).getD o

/-- `loadSecuritySequenceState`. -/
def loadSecuritySequenceState (store : Store) (o : SecurityInterfaceObject) :
    SecurityInterfaceObject :=
  match store toolAccessSequenceKeyId with
  | none => o
  | some stored =>
      if stored.length ≠ 6 then o
      else
        let sequence := ofOctets stored
        let o := if o.toolAccessSequence < sequence then o.setToolAccessSequence sequence else o
        { o with sequenceStateDirty := false }

/-- What a device is built with: its identity and the version of its persisted layout. -/
structure Identity where
  serialNumber : List UInt8 := List.replicate 6 0
  schemaVersion : UInt16 := 1

/-- `BusAccessUnit::init` of a fresh device on a store. -/
def init (identity : Identity) (ownAddress : IndividualAddress) (store : Store) : Device :=
  let store := store.enforcePersistenceSchemaVersion identity.schemaVersion
  let addressTable := restoreAddressTable (store addressTableKeyId)
  let restored := persistedProperties.foldl (loadProp store) {}
  let security := loadSecuritySequenceState store (applySecurityKeyTables restored addressTable)
  { security := security
    secureAl := { ownAddress := ownAddress, serialNumber := identity.serialNumber }
    addressTable := addressTable
    store := store }

/-! ## Runs -/

/-- What can happen to a device. -/
inductive Event where
  /-- A frame arrives at the secure application layer. -/
  | receive (around : Surroundings) (info : SecureFrameInfo) (tpdu : List UInt8)
  /-- A frame is handed down to be sent. -/
  | send (info : SecureFrameInfo) (plainTpdu : List UInt8)
  /-- A management client writes a property of the Security Interface Object. -/
  | writeSecurityProperty (p : SecurityProperty) (startIndex : Nat) (value : List UInt8)
  /-- The tool drives the load state of the Security Interface Object by a function property. -/
  | loadControlCommand (event : UInt8)
  /-- The tool switches the security mode by a function property. -/
  | securityModeCommand (mode : UInt8)
  /-- A management client changes the group address table. Load events that do not complete the load
  are not marked. -/
  | writeAddressTable (addresses : List UInt16) (marked : Bool)
  /-- A management client writes one of the other tables. -/
  | writeOtherTable
  /-- The device gets a new individual address. -/
  | assignAddress (address : IndividualAddress)
  /-- The main loop. -/
  | loop (nowMs : UInt32)
  /-- An orderly restart. -/
  | restart
  deriving DecidableEq

/-- A device and what it has done so far: the frames it has unwrapped and the secured frames it has
sent. -/
structure History where
  device : Device
  unwrapped : List (SecureFrameInfo × List UInt8) := []
  sent : List (List UInt8) := []

namespace Device

/-- The write provider of the property services, for the Security Interface Object. -/
def writeSecurityProperty (d : Device) (p : SecurityProperty) (startIndex : Nat)
    (value : List UInt8) : Device :=
  match d.security.writeProperty p startIndex value with
  | none => d
  | some o => ({ d with security := o } : Device).markPersistenceDirty.syncSecurityKeyTables

/-- The write provider of the property services, for the group address table. -/
def writeAddressTable (d : Device) (addresses : List UInt16) (marked : Bool) : Device :=
  let d := { d with addressTable := addresses }
  if marked then d.markPersistenceDirty.syncSecurityKeyTables else d

/-- A restart: the handler flushes, and a fresh device starts on the same store. -/
def restart (identity : Identity) (d : Device) : Device :=
  init identity d.secureAl.ownAddress d.flushPersistenceIfDirty.store

end Device

/-- One event. -/
def step (aes : BlockCipher) (identity : Identity) (h : History) : Event → History
  | .receive around info tpdu =>
      let received := h.device.secureAl.processIncoming aes h.device.security around info tpdu
      { h with
        device := { h.device with secureAl := received.1, security := received.2.1 }
        unwrapped :=
          if received.2.2.disposition = .unwrapped then (info, tpdu) :: h.unwrapped
          else h.unwrapped }
  | .send info plainTpdu =>
      let sent := h.device.secureAl.processOutgoing aes h.device.security info plainTpdu
      { h with
        device := { h.device with security := sent.1 }
        sent := match sent.2 with
          | .secured tpdu => tpdu :: h.sent
          | _ => h.sent }
  | .writeSecurityProperty p startIndex value =>
      { h with device := h.device.writeSecurityProperty p startIndex value }
  | .loadControlCommand event =>
      { h with device :=
          { h.device with security := h.device.security.applyLoadControlEvent event } }
  | .securityModeCommand mode =>
      { h with device :=
          { h.device with security := { h.device.security with securityMode := mode } } }
  | .writeAddressTable addresses marked =>
      { h with device := h.device.writeAddressTable addresses marked }
  | .writeOtherTable => { h with device := h.device.markPersistenceDirty }
  | .assignAddress address =>
      let d := { h.device with secureAl := { h.device.secureAl with ownAddress := address } }
      { h with device := d.saveToPersistence }
  | .loop nowMs => { h with device := h.device.loop nowMs }
  | .restart => { h with device := h.device.restart identity }

/-- The first start of a device, on an empty store. -/
def firstStart (identity : Identity) (ownAddress : IndividualAddress) : History :=
  { device := init identity ownAddress fun _ => none }

/-! ## What is stored -/

/-- What a record holds after a save: an empty value erases it. -/
def savedRecord (old value : Option (List UInt8)) : Option (List UInt8) :=
  match value with
  | none => old
  | some [] => none
  | some data => some data

theorem saveProp_self (store : Store) (keyId : UInt16) (value : Option (List UInt8)) :
    store.saveProp keyId value keyId = savedRecord (store keyId) value := by
  rcases value with _ | _ | ⟨octet, data⟩
  · rfl
  · exact Function.update_self _ _ _
  · exact Function.update_self _ _ _

theorem savedRecord_of_ne_nil (old : Option (List UInt8)) {data : List UInt8} (hne : data ≠ []) :
    savedRecord old (some data) = some data := by
  cases data with
  | nil => exact absurd rfl hne
  | cons octet rest => rfl

theorem saveProp_of_ne (store : Store) {keyId other : UInt16} (hne : other ≠ keyId)
    (value : Option (List UInt8)) : store.saveProp keyId value other = store other := by
  rcases value with _ | _ | ⟨octet, data⟩
  · rfl
  · exact Function.update_of_ne hne _ _
  · exact Function.update_of_ne hne _ _

section SaveFold

variable {P : Type} (key : P → UInt16) (value : P → Option (List UInt8))

theorem foldl_saveProp_of_ne {properties : List P} (store : Store) {keyId : UInt16}
    (hne : ∀ p ∈ properties, keyId ≠ key p) :
    properties.foldl (fun store p => store.saveProp (key p) (value p)) store keyId
      = store keyId := by
  induction properties generalizing store with
  | nil => rfl
  | cons p properties ih =>
    rw [List.foldl_cons, ih _ fun q hq => hne q (List.mem_cons_of_mem p hq)]
    exact saveProp_of_ne store (hne p List.mem_cons_self) _

theorem foldl_saveProp_of_mem {properties : List P} (store : Store)
    (hkeys : (properties.map key).Nodup) {p : P} (hp : p ∈ properties) :
    properties.foldl (fun store p => store.saveProp (key p) (value p)) store (key p)
      = savedRecord (store (key p)) (value p) := by
  induction properties generalizing store with
  | nil => cases hp
  | cons q properties ih =>
    rw [List.map_cons, List.nodup_cons] at hkeys
    rw [List.foldl_cons]
    by_cases hlater : p ∈ properties
    · have hne : key p ≠ key q := by
        intro heq
        exact hkeys.1 (heq ▸ List.mem_map_of_mem hlater)
      rw [ih _ hkeys.2 hlater, saveProp_of_ne store hne]
    · have heq : p = q := by
        rcases List.mem_cons.mp hp with heq | hmem
        · exact heq
        · exact absurd hmem hlater
      subst heq
      rw [foldl_saveProp_of_ne, saveProp_self]
      intro r hr heq
      exact hkeys.1 (heq ▸ List.mem_map_of_mem hr)

end SaveFold

theorem nodup_persistedKeys : (persistedProperties.map securityKeyId).Nodup := by decide

theorem store_saveToPersistence (d : Device) {p : SecurityProperty} (hp : p ∈ persistedProperties) :
    d.saveToPersistence.store (securityKeyId p)
      = savedRecord (d.store (securityKeyId p)) (persistedValue d.security p) := by
  have hne : securityKeyId p ≠ addressTableKeyId := by
    cases p <;> decide
  have hmem := foldl_saveProp_of_mem securityKeyId (persistedValue d.security)
    (d.store.saveProp addressTableKeyId
      (some (d.addressTable.flatMap fun address => toOctets 2 address.toNat)))
    nodup_persistedKeys hp
  rw [saveProp_of_ne d.store hne] at hmem
  exact hmem

theorem store_saveToPersistence_of_ne (d : Device) {keyId : UInt16}
    (haddress : keyId ≠ addressTableKeyId)
    (hne : ∀ p ∈ persistedProperties, keyId ≠ securityKeyId p) :
    d.saveToPersistence.store keyId = d.store keyId := by
  have hfold := foldl_saveProp_of_ne securityKeyId (persistedValue d.security)
    (d.store.saveProp addressTableKeyId
      (some (d.addressTable.flatMap fun address => toOctets 2 address.toNat))) hne
  rw [saveProp_of_ne d.store haddress] at hfold
  exact hfold

theorem store_saveToPersistence_toolAccessSequence (d : Device) :
    d.saveToPersistence.store toolAccessSequenceKeyId = d.store toolAccessSequenceKeyId :=
  store_saveToPersistence_of_ne d (by decide) (by decide)

theorem store_saveToPersistence_schemaVersion (d : Device) :
    d.saveToPersistence.store persistenceSchemaVersionKeyId
      = d.store persistenceSchemaVersionKeyId :=
  store_saveToPersistence_of_ne d (by decide) (by decide)

theorem store_saveSecuritySequenceState (d : Device) :
    d.saveSecuritySequenceState.store toolAccessSequenceKeyId
        = some (toOctets 6 d.security.toolAccessSequence)
      ∧ d.saveSecuritySequenceState.store (securityKeyId .securityIndividualAddressTable)
        = (if d.security.iaTable.getD [] = [] then
            d.store (securityKeyId .securityIndividualAddressTable)
          else some (d.security.iaTable.getD []))
      ∧ ∀ keyId, keyId ≠ toolAccessSequenceKeyId →
        keyId ≠ securityKeyId .securityIndividualAddressTable →
        d.saveSecuritySequenceState.store keyId = d.store keyId := by
  have hkeys : securityKeyId .securityIndividualAddressTable ≠ toolAccessSequenceKeyId := by decide
  refine ⟨?_, ?_, ?_⟩
  · simp only [Device.saveSecuritySequenceState, Store.saveById, Function.update_self]
  · simp only [Device.saveSecuritySequenceState, Store.saveById, Function.update_of_ne hkeys]
    rcases d.security.iaTable with _ | _ | ⟨octet, rest⟩
    · rfl
    · rfl
    · exact Function.update_self _ _ _
  · intro keyId htool htable
    simp only [Device.saveSecuritySequenceState, Store.saveById, Function.update_of_ne htool]
    rcases d.security.iaTable with _ | _ | ⟨octet, rest⟩
    · rfl
    · rfl
    · exact Function.update_of_ne htable _ _

/-! ## What is restored -/

theorem written_loadProp (store : Store) (o : SecurityInterfaceObject) (p : SecurityProperty) :
    loadProp store o p = o ∨ SecurityInterfaceObject.Written o p (loadProp store o p) := by
  rw [loadProp]
  cases hstored : store (securityKeyId p) with
  | none => exact .inl rfl
  | some data =>
    cases hwritten : o.writeProperty p 1 data with
    | none => exact .inl (by simp only [hwritten, Option.getD_none])
    | some o' =>
      right
      simp only [hwritten, Option.getD_some]
      exact SecurityInterfaceObject.written_writeProperty hwritten

theorem iaTable_foldl_loadProp (store : Store) {properties : List SecurityProperty}
    (hother : ∀ p ∈ properties, p ≠ .securityIndividualAddressTable ∧ p ≠ .loadStateControl)
    (o : SecurityInterfaceObject) :
    (properties.foldl (loadProp store) o).iaTable = o.iaTable := by
  induction properties generalizing o with
  | nil => rfl
  | cons p properties ih =>
    rw [List.foldl_cons, ih fun q hq => hother q (List.mem_cons_of_mem p hq)]
    obtain ⟨hp, hload⟩ := hother p List.mem_cons_self
    rcases written_loadProp store o p with hsame | hwritten
    · rw [hsame]
    · exact hwritten.iaTable_of_ne hp hload

theorem sendingSequence_foldl_loadProp (store : Store) {properties : List SecurityProperty}
    (hother : SecurityProperty.sequenceNumberSending ∉ properties) (o : SecurityInterfaceObject) :
    (properties.foldl (loadProp store) o).sendingSequence = o.sendingSequence := by
  induction properties generalizing o with
  | nil => rfl
  | cons p properties ih =>
    rw [List.mem_cons, not_or] at hother
    rw [List.foldl_cons, ih hother.2]
    rcases written_loadProp store o p with hsame | hwritten
    · rw [hsame]
    · exact hwritten.keeps.2.2 (Ne.symm hother.1)

/-- What `loadFromPersistence` makes of a fresh Security Interface Object. -/
def restoredSecurity (store : Store) : SecurityInterfaceObject :=
  persistedProperties.foldl (loadProp store) {}

theorem restoredSecurity_fresh (store : Store) :
    SecurityInterfaceObject.SameNumbers {} (restoredSecurity store)
      ∧ (restoredSecurity store).TableWhole := by
  rw [restoredSecurity]
  refine List.foldlRecOn
    (motive := fun o => SecurityInterfaceObject.SameNumbers {} o ∧ o.TableWhole)
    persistedProperties (loadProp store) ?_ ?_
  · exact ⟨⟨rfl, rfl, rfl⟩, SecurityInterfaceObject.wholeEntries_nil⟩
  · intro o ho p _
    rcases written_loadProp store o p with hsame | hwritten
    · rw [hsame]
      exact ho
    · obtain ⟨hsame, hwhole, -⟩ := hwritten.keeps
      refine ⟨⟨?_, ?_, ?_⟩, hwhole ho.2⟩
      · exact hsame.toolAccessSequence.trans ho.1.toolAccessSequence
      · exact hsame.peerSequences.trans ho.1.peerSequences
      · exact hsame.sequenceStateDirty.trans ho.1.sequenceStateDirty

theorem iaTable_restoredSecurity_eq (store : Store) :
    ∃ o : SecurityInterfaceObject, o.iaTable = none
      ∧ (restoredSecurity store).iaTable
        = (loadProp store o .securityIndividualAddressTable).iaTable := by
  have hsplit : persistedProperties
      = [SecurityProperty.securityMode, .p2pKeyTable, .groupKeyTable]
        ++ SecurityProperty.securityIndividualAddressTable ::
          [.toolKey, .sequenceNumberSending, .zoneKeyTable, .goSecurityFlags] := rfl
  refine ⟨[.securityMode, .p2pKeyTable, .groupKeyTable].foldl (loadProp store) {}, ?_, ?_⟩
  · rw [iaTable_foldl_loadProp store (by decide)]
    rfl
  · rw [restoredSecurity, hsplit, List.foldl_append, List.foldl_cons,
      iaTable_foldl_loadProp store (by decide)]

theorem iaTable_restoredSecurity {store : Store} {stored : List UInt8}
    (hstored : store (securityKeyId .securityIndividualAddressTable) = some stored)
    (hwhole : SecurityInterfaceObject.WholeEntries stored) (hne : stored ≠ []) :
    (restoredSecurity store).iaTable = some stored := by
  obtain ⟨o, ho, htable⟩ := iaTable_restoredSecurity_eq store
  rw [htable, loadProp, hstored]
  simp only [SecurityInterfaceObject.writeProperty_iaTable ho hwhole hne, Option.getD_some]
  exact SecurityInterfaceObject.iaTable_setExtraProperty_self o stored

theorem iaTable_restoredSecurity_none {store : Store}
    (hstored : (store (securityKeyId .securityIndividualAddressTable)).getD [] = []) :
    (restoredSecurity store).iaTable = none := by
  obtain ⟨o, ho, htable⟩ := iaTable_restoredSecurity_eq store
  rw [htable, loadProp]
  cases hrecord : store (securityKeyId .securityIndividualAddressTable) with
  | none => exact ho
  | some stored =>
    rw [hrecord, Option.getD_some] at hstored
    subst hstored
    exact ho

/-! ## Starting up again -/

/-- The stored layout is the current one. -/
def CurrentSchema (identity : Identity) (store : Store) : Prop :=
  store persistenceSchemaVersionKeyId = some (toOctets 2 identity.schemaVersion.toNat)

/-- No last valid number is lower. -/
def NoLower (o o' : SecurityInterfaceObject) : Prop :=
  ∀ source toolAccess, lastValid o source toolAccess ≤ lastValid o' source toolAccess

theorem noLower_of_sameNumbers {o o' : SecurityInterfaceObject}
    (h : SecurityInterfaceObject.SameNumbers o o') : NoLower o o' := by
  intro source toolAccess
  rw [lastValid, lastValid, h.toolAccessSequence, h.peerSequences]

section Starting

variable {identity : Identity} {store : Store}

theorem enforcePersistenceSchemaVersion_of_current (h : CurrentSchema identity store) :
    store.enforcePersistenceSchemaVersion identity.schemaVersion = store := by
  rw [Store.enforcePersistenceSchemaVersion]
  exact if_pos h

theorem currentSchema_enforcePersistenceSchemaVersion :
    CurrentSchema identity (store.enforcePersistenceSchemaVersion identity.schemaVersion) := by
  rw [CurrentSchema, Store.enforcePersistenceSchemaVersion]
  split
  · assumption
  · exact Function.update_self _ _ _

/-- The store after the first start. -/
def initialStore (identity : Identity) : Store :=
  Store.enforcePersistenceSchemaVersion (fun _ => none) identity.schemaVersion

theorem currentSchema_initialStore (identity : Identity) :
    CurrentSchema identity (initialStore identity) :=
  currentSchema_enforcePersistenceSchemaVersion

theorem firstStart_device (identity : Identity) (ownAddress : IndividualAddress) :
    (firstStart identity ownAddress).device
      = init identity ownAddress (initialStore identity) := by
  rw [firstStart, init, init,
    enforcePersistenceSchemaVersion_of_current (currentSchema_initialStore identity)]
  rfl

theorem wellFormed_restoredSecurity (store : Store) : (restoredSecurity store).WellFormed := by
  obtain ⟨hsame, hwhole⟩ := restoredSecurity_fresh store
  refine ⟨hwhole, ?_, ?_⟩
  · rw [hsame.peerSequences]
    intro _
    exact Nat.pow_pos (by decide)
  · rw [hsame.toolAccessSequence]
    exact Nat.pow_pos (by decide)

theorem wellFormed_groupKeys {o : SecurityInterfaceObject} (h : o.WellFormed)
    (keys : UInt16 → Option Key) :
    SecurityInterfaceObject.WellFormed { o with groupKeys := keys } :=
  ⟨h.whole, h.peer, h.tool⟩

theorem applySecurityKeyTables_numbers {o : SecurityInterfaceObject} (h : o.WellFormed)
    (addressTable : List UInt16) :
    (applySecurityKeyTables o addressTable).WellFormed
      ∧ (applySecurityKeyTables o addressTable).Covered
      ∧ NoLower o (applySecurityKeyTables o addressTable)
      ∧ (applySecurityKeyTables o addressTable).toolAccessSequence = o.toolAccessSequence
      ∧ (applySecurityKeyTables o addressTable).sequenceStateDirty = o.sequenceStateDirty
      ∧ (applySecurityKeyTables o addressTable).sendingSequence = o.sendingSequence := by
  have hkeys := wellFormed_groupKeys h (groupKeysOf o addressTable)
  obtain ⟨hformed, hcovered, hraised, -⟩ := hkeys.syncSequencesFromAddressTable
  obtain ⟨htool, hdirty, hsending⟩ := SecurityInterfaceObject.syncSequencesFromAddressTable_keeps
    { o with groupKeys := groupKeysOf o addressTable }
  refine ⟨⟨hformed.whole, hformed.peer, hformed.tool⟩, hcovered, ?_, htool, hdirty, hsending⟩
  intro source toolAccess
  cases toolAccess with
  | true => exact Nat.le_of_eq htool.symm
  | false => exact hraised source.raw

/-- The number for tool access that a store has. -/
def storedToolAccess (store : Store) : Nat :=
  match store toolAccessSequenceKeyId with
  | none => 0
  | some stored => if stored.length = 6 then ofOctets stored else 0

theorem storedToolAccess_lt (store : Store) : storedToolAccess store < 256 ^ 6 := by
  have hpos : 0 < 256 ^ 6 := Nat.pow_pos (by decide)
  rw [storedToolAccess]
  split
  · exact hpos
  · split
    · rename_i stored _ hlength
      have hlt := ofOctets_lt stored
      rw [hlength] at hlt
      exact hlt
    · exact hpos

theorem loadSecuritySequenceState_eq (store : Store) {o : SecurityInterfaceObject}
    (hzero : o.toolAccessSequence = 0) (hclean : o.sequenceStateDirty = false) :
    loadSecuritySequenceState store o = { o with toolAccessSequence := storedToolAccess store } := by
  obtain ⟨securityMode, toolKey, deviceKeys, groupKeys, sendingSequence, toolAccessSequence,
    peerSequences, sequenceStateDirty⟩ := o
  cases hzero
  cases hclean
  rw [loadSecuritySequenceState, storedToolAccess]
  cases store toolAccessSequenceKeyId with
  | none => rfl
  | some stored =>
    dsimp only
    by_cases hlength : stored.length = 6
    · rw [if_neg (not_not.mpr hlength), if_pos hlength]
      by_cases hraise : 0 < ofOctets stored
      · simp only [if_pos hraise, SecurityInterfaceObject.setToolAccessSequence,
          if_neg (Nat.ne_of_gt hraise)]
      · have hnone : ofOctets stored = 0 := by omega
        rw [if_neg hraise, hnone]
    · rw [if_pos hlength, if_neg hlength]

/-- What `init` leaves of the stored numbers. -/
theorem init_security (identity : Identity) (ownAddress : IndividualAddress)
    (hschema : CurrentSchema identity store) :
    (init identity ownAddress store).security
      = { applySecurityKeyTables (restoredSecurity store)
            (restoreAddressTable (store addressTableKeyId)) with
          toolAccessSequence := storedToolAccess store } := by
  obtain ⟨hsame, -⟩ := restoredSecurity_fresh store
  obtain ⟨-, -, -, htool, hdirty, -⟩ :=
    applySecurityKeyTables_numbers (wellFormed_restoredSecurity store)
      (restoreAddressTable (store addressTableKeyId))
  rw [hsame.toolAccessSequence] at htool
  rw [hsame.sequenceStateDirty] at hdirty
  rw [← loadSecuritySequenceState_eq store htool hdirty]
  simp only [init, enforcePersistenceSchemaVersion_of_current hschema]
  rfl

end Starting

/-! ## A device with one group key -/

/-- The key `00 01 … 0F`. -/
def sampleKey : Key := (List.range 16).map UInt8.ofNat

/-- AES-128 under `sampleKey`, on the blocks of a group frame with number 1 from 1.1.5, and of two
with the numbers 1 and 2 from 1.1.1. -/
def sampleBlocks : List (List UInt8 × List UInt8) :=
  [([0x00, 0x00, 0x00, 0x00, 0x00, 0x01, 0x11, 0x05, 0x09, 0x01, 0x00, 0x80, 0x03, 0xF1, 0x00, 0x02],
    [0x52, 0x3A, 0x11, 0x3E, 0xB9, 0xEE, 0x62, 0xC7, 0x75, 0xCC, 0x08, 0xED, 0xD6, 0x97, 0x37, 0x55]),
   ([0x52, 0x3B, 0x01, 0x3E, 0x38, 0xEE, 0x62, 0xC7, 0x75, 0xCC, 0x08, 0xED, 0xD6, 0x97, 0x37, 0x55],
    [0x63, 0x9D, 0x52, 0xD2, 0xDB, 0x89, 0xD5, 0x95, 0x83, 0xBE, 0xA7, 0xCE, 0x29, 0x61, 0xF0, 0x00]),
   ([0x00, 0x00, 0x00, 0x00, 0x00, 0x01, 0x11, 0x05, 0x09, 0x01, 0x00, 0x00, 0x00, 0x00, 0x01, 0x00],
    [0xD0, 0xA4, 0x09, 0x62, 0xC7, 0x04, 0xC5, 0xB4, 0x0A, 0x0A, 0x2C, 0x57, 0x0C, 0x72, 0x94, 0x58]),
   ([0x00, 0x00, 0x00, 0x00, 0x00, 0x01, 0x11, 0x01, 0x09, 0x01, 0x00, 0x80, 0x03, 0xF1, 0x00, 0x02],
    [0x78, 0xB4, 0xEF, 0x9D, 0x82, 0x8F, 0x30, 0x8B, 0x1D, 0x00, 0x3C, 0x9E, 0x2D, 0xA1, 0x3F, 0x38]),
   ([0x78, 0xB5, 0xFF, 0x9D, 0x03, 0x8F, 0x30, 0x8B, 0x1D, 0x00, 0x3C, 0x9E, 0x2D, 0xA1, 0x3F, 0x38],
    [0xEC, 0xC6, 0x82, 0xFF, 0x4B, 0x2F, 0x7A, 0x4A, 0x44, 0x98, 0xCE, 0x6B, 0xE8, 0x84, 0x5A, 0x9B]),
   ([0x00, 0x00, 0x00, 0x00, 0x00, 0x01, 0x11, 0x01, 0x09, 0x01, 0x00, 0x00, 0x00, 0x00, 0x01, 0x00],
    [0x53, 0x0D, 0x17, 0x9F, 0x3C, 0xB0, 0x8C, 0xCF, 0xA8, 0xAD, 0xE8, 0xBF, 0xDF, 0x1A, 0x39, 0x35]),
   ([0x00, 0x00, 0x00, 0x00, 0x00, 0x02, 0x11, 0x01, 0x09, 0x01, 0x00, 0x80, 0x03, 0xF1, 0x00, 0x02],
    [0x98, 0x9A, 0x75, 0x60, 0xFB, 0xAF, 0xB5, 0xB4, 0xE2, 0xFD, 0x38, 0x2F, 0x5A, 0x8B, 0x9C, 0xD4]),
   ([0x98, 0x9B, 0x65, 0x60, 0x7A, 0xAF, 0xB5, 0xB4, 0xE2, 0xFD, 0x38, 0x2F, 0x5A, 0x8B, 0x9C, 0xD4],
    [0x52, 0xF2, 0x4D, 0xE5, 0x7E, 0xF7, 0x71, 0x23, 0x86, 0x21, 0x5D, 0xC8, 0xAD, 0x72, 0x3C, 0xFA]),
   ([0x00, 0x00, 0x00, 0x00, 0x00, 0x02, 0x11, 0x01, 0x09, 0x01, 0x00, 0x00, 0x00, 0x00, 0x01, 0x00],
    [0x39, 0x11, 0xDB, 0x34, 0xF3, 0x1C, 0x6D, 0xCB, 0xF0, 0x50, 0x01, 0xBF, 0x90, 0x01, 0xB3, 0x10])]

/-- AES-128 as far as it is tabulated. -/
def sampleAes : BlockCipher :=
  ⟨fun key block => if key = sampleKey then sampleBlocks.lookup block else none⟩

/-- The download of the key for the group address 1/1/1. -/
def sampleDownload : List Event :=
  [.securityModeCommand 1, .writeSecurityProperty .groupKeyTable 1 ([0, 1] ++ sampleKey),
    .writeAddressTable [0x0901] true]

end KnxStack.Bau
