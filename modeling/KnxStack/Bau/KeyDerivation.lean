import KnxStack.Bau.GroupSubscription
import KnxStack.Bau.GroupRuntime
import KnxStack.Lib.Keyed

/-!
# Keys derived from the tables

The secure application layer finds a key by address. The key tables of the Security Interface Object
name an address by its index, in the group address table or in the Security Individual Address Table,
and `applySecurityKeyTables` resolves the indices whenever a table changes.

Two things come between a table and the keys. The start of a load and an unload empty the address table
and resolve nothing; and where two entries of a key table come to one address, the later one stays.

- `Synced`: the keys are those that the tables of the moment resolve to.
- `keysDerived_iff`: keys that are resolved are the right ones for tables that settle every address.
- `keys_derived_iff`: the runs through which a device has the right keys.
-/

set_option autoImplicit false

namespace KnxStack.Bau

open KnxStack.Application KnxStack.Lib KnxStack.Lib.Octets KnxStack.Objects KnxStack.Security
open KnxStack.Transport (TDataFrame)

variable {τ : Type}

/-! ## Entries of the key tables -/

/-- The index of an entry. -/
def entryIndex (entry : List UInt8) : Nat := ofOctets (slice entry 0 2)

/-- The key of an entry. -/
def entryKey (entry : List UInt8) : Key := slice entry 2 16

namespace SecurityKeys

variable (o : SecurityInterfaceObject)

/-- The entries of the group key table. -/
def groupEntries : List (List UInt8) := tableEntries ((o.extraProperties .groupKeyTable).getD []) 18

/-- The entries of the P2P key table. -/
def deviceEntries : List (List UInt8) := tableEntries ((o.extraProperties .p2pKeyTable).getD []) 20

/-- The key of the first entry with an index of the address table; the index zero stands for none. -/
def keyOfIndex (index : UInt16) : Option Key :=
  if index = 0 then none
  else ((groupEntries o).find? fun entry => entryIndex entry = index.toNat).map entryKey

/-- The index of an entry refers to a partner in the Security Individual Address Table. -/
def Names (entry : List UInt8) (partner : UInt16) : Prop :=
  let table := o.iaTable.getD []
  ¬ (entryIndex entry = 0 ∨ SecurityIaTable.entryCount table < entryIndex entry)
    ∧ SecurityIaTable.addressAt table (entryIndex entry - 1) = partner

instance (entry : List UInt8) (partner : UInt16) : Decidable (Names o entry partner) :=
  inferInstanceAs (Decidable (_ ∧ _))

/-- The entries whose index holds a group address. -/
def resolving (addressTable : List UInt16) (address : UInt16) : List (List UInt8) :=
  (groupEntries o).filter fun entry => getAddress addressTable (entryIndex entry) = address

theorem groupKeysOf_apply (addressTable : List UInt16) (address : UInt16) :
    groupKeysOf o addressTable address
      = if address = 0 then none
        else (resolving o addressTable address).getLast?.map entryKey := by
  have hlast := foldl_update_eq_getLast?
    (fun entry => getAddress addressTable (entryIndex entry) = 0)
    (fun entry => getAddress addressTable (entryIndex entry)) entryKey (groupEntries o) address
  have hkeys : groupKeysOf o addressTable address = _ := hlast
  rw [hkeys]
  split
  · rename_i hzero
    subst hzero
    have hnone : ((groupEntries o).filter fun entry =>
        ¬ getAddress addressTable (entryIndex entry) = 0
          ∧ getAddress addressTable (entryIndex entry) = 0) = [] :=
      List.filter_eq_nil_iff.mpr (by simp)
    rw [hnone]
    rfl
  · rename_i hnonzero
    rw [resolving]
    congr 2
    apply List.filter_congr
    intro entry _
    by_cases haddress : getAddress addressTable (entryIndex entry) = address
    · simp [haddress, hnonzero]
    · simp [haddress]

theorem deviceKeysOf_apply (partner : UInt16) :
    deviceKeysOf o partner
      = ((deviceEntries o).filter fun entry => Names o entry partner).getLast?.map entryKey :=
  foldl_update_eq_getLast?
    (fun entry => entryIndex entry = 0
      ∨ SecurityIaTable.entryCount (o.iaTable.getD []) < entryIndex entry)
    (fun entry => SecurityIaTable.addressAt (o.iaTable.getD []) (entryIndex entry - 1)) entryKey
    (deviceEntries o) partner

variable {o}

theorem groupKeysOf_of_none (hnone : o.extraProperties .groupKeyTable = none)
    (addressTable : List UInt16) : groupKeysOf o addressTable = fun _ => none := by
  rw [groupKeysOf, hnone]
  rfl

theorem deviceKeysOf_of_none (hnone : o.extraProperties .p2pKeyTable = none) :
    deviceKeysOf o = fun _ => none := by
  rw [deviceKeysOf, hnone]
  rfl

end SecurityKeys

namespace ManagedDevice

open SecurityKeys

/-! ## Derived keys -/

/-- The keys are those of the tables. A group address has the key of the first entry with its index,
and a partner the key of the entries that refer to it. The address zero is no group address. -/
structure KeysDerived (d : ManagedDevice (CoreObjects × τ)) : Prop where
  group : ∀ address, address ≠ 0 →
    d.security.groupKeys address = keyOfIndex d.security (d.core.addressTable.findIndex address)
  zero : d.security.groupKeys 0 = none
  device : ∀ partner key, d.security.deviceKeys partner = some key ↔
    ∃ entry ∈ deviceEntries d.security, Names d.security entry partner ∧ entryKey entry = key

/-- The tables settle every address. Of the entries whose index holds a group address, the last one
has the key of the first one with its own index; and all entries that refer to a partner have one
key. -/
structure KeysSettled (d : ManagedDevice (CoreObjects × τ)) : Prop where
  group : ∀ address, address ≠ 0 →
    (resolving d.security d.core.addressTable.entries address).getLast?.map entryKey
      = keyOfIndex d.security (d.core.addressTable.findIndex address)
  device : ∀ partner, ∀ first ∈ deviceEntries d.security, ∀ second ∈ deviceEntries d.security,
    Names d.security first partner → Names d.security second partner →
      entryKey first = entryKey second

/-- The keys are what the tables of the moment resolve to. -/
structure Synced (d : ManagedDevice (CoreObjects × τ)) : Prop where
  mirror : d.device.addressTable = d.core.addressTable.entries
  group : d.security.groupKeys = groupKeysOf d.security d.core.addressTable.entries
  device : d.security.deviceKeys = deviceKeysOf d.security

variable {d : ManagedDevice (CoreObjects × τ)}

theorem keysDerived_iff (h : d.Synced) : d.KeysDerived ↔ d.KeysSettled := by
  have hgroup : ∀ address, address ≠ 0 → d.security.groupKeys address
      = (resolving d.security d.core.addressTable.entries address).getLast?.map entryKey := by
    intro address hnonzero
    rw [h.group, groupKeysOf_apply, if_neg hnonzero]
  have hdevice : ∀ partner, d.security.deviceKeys partner
      = ((deviceEntries d.security).filter fun entry =>
          Names d.security entry partner).getLast?.map entryKey := by
    intro partner
    rw [h.device, deviceKeysOf_apply]
  constructor
  · intro hderived
    refine ⟨?_, ?_⟩
    · intro address hnonzero
      rw [← hgroup address hnonzero]
      exact hderived.group address hnonzero
    · intro partner first hfirst second hsecond hnamesFirst hnamesSecond
      have hone := (hderived.device partner (entryKey first)).mpr ⟨first, hfirst, hnamesFirst, rfl⟩
      have htwo := (hderived.device partner (entryKey second)).mpr ⟨second, hsecond, hnamesSecond, rfl⟩
      exact Option.some.inj (hone.symm.trans htwo)
  · intro hsettled
    refine ⟨?_, ?_, ?_⟩
    · intro address hnonzero
      rw [hgroup address hnonzero]
      exact hsettled.group address hnonzero
    · rw [h.group, groupKeysOf_apply, if_pos rfl]
    · intro partner key
      rw [hdevice partner, Option.map_eq_some_iff]
      constructor
      · rintro ⟨entry, hlast, rfl⟩
        have hmem := List.mem_filter.mp (List.mem_of_getLast? hlast)
        exact ⟨entry, hmem.1, of_decide_eq_true hmem.2, rfl⟩
      · rintro ⟨entry, hmem, hnames, rfl⟩
        have hkept : entry ∈ (deviceEntries d.security).filter fun entry =>
            Names d.security entry partner :=
          List.mem_filter.mpr ⟨hmem, decide_eq_true hnames⟩
        obtain ⟨last, hlast⟩ := Option.isSome_iff_exists.mp
          (List.getLast?_isSome.mpr (List.ne_nil_of_mem hkept))
        have hlastMem := List.mem_filter.mp (List.mem_of_getLast? hlast)
        exact ⟨last, hlast,
          hsettled.device partner last hlastMem.1 entry hmem (of_decide_eq_true hlastMem.2) hnames⟩

/-! ## Steps -/

theorem resolved_applySecurityKeyTables (o : SecurityInterfaceObject) (addressTable : List UInt16) :
    (applySecurityKeyTables o addressTable).groupKeys
        = groupKeysOf (applySecurityKeyTables o addressTable) addressTable
      ∧ (applySecurityKeyTables o addressTable).deviceKeys
        = deviceKeysOf (applySecurityKeyTables o addressTable) := by
  refine ⟨?_, rfl⟩
  have hother : SecurityProperty.groupKeyTable ≠ .securityIndividualAddressTable := by decide
  have hkept : (applySecurityKeyTables o addressTable).extraProperties .groupKeyTable
      = o.extraProperties .groupKeyTable := by
    rw [applySecurityKeyTables, SecurityInterfaceObject.syncSequencesFromAddressTable]
    split
    · rfl
    · dsimp only
      rw [Function.update_of_ne hother]
  have hkeys : (applySecurityKeyTables o addressTable).groupKeys = groupKeysOf o addressTable := by
    rw [applySecurityKeyTables, SecurityInterfaceObject.syncSequencesFromAddressTable]
    split <;> rfl
  rw [hkeys, groupKeysOf, groupKeysOf, hkept]

/-- Tables and keys are as they were. -/
structure SameKeys (d d' : ManagedDevice (CoreObjects × τ)) : Prop where
  addressTable : d'.core.addressTable.entries = d.core.addressTable.entries
  mirror : d'.device.addressTable = d.device.addressTable
  groupKeys : d'.security.groupKeys = d.security.groupKeys
  deviceKeys : d'.security.deviceKeys = d.security.deviceKeys
  extraProperties : d'.security.extraProperties = d.security.extraProperties

theorem Synced.same (h : d.Synced) {d' : ManagedDevice (CoreObjects × τ)} (hsame : SameKeys d d') :
    d'.Synced := by
  obtain ⟨htable, hmirror, hgroup, hdevice, hextra⟩ := hsame
  refine ⟨?_, ?_, ?_⟩
  · rw [hmirror, htable, h.mirror]
  · rw [hgroup, h.group, htable, groupKeysOf, groupKeysOf, hextra]
  · rw [hdevice, h.device, deviceKeysOf, deviceKeysOf, SecurityInterfaceObject.iaTable,
      SecurityInterfaceObject.iaTable, hextra]

section Steps

variable (config : Configuration τ)

theorem sameKeys_deviceObjectCallbacks {core : CoreObjects} (address : IndividualAddress)
    (state : τ) (hcore : core.addressTable.entries = d.core.addressTable.entries) :
    SameKeys d
      (ManagedDevice.deviceObjectCallbacks config.backend { d with ownAddress := address }
        (core, state)) := by
  rw [deviceObjectCallbacks]
  split
  · exact ⟨hcore, rfl, rfl, rfl, rfl⟩
  · exact ⟨hcore, rfl, rfl, rfl, rfl⟩

theorem sameKeys_checkpoint (d : ManagedDevice (CoreObjects × τ)) :
    SameKeys d { d with device := d.device.checkpointSecuritySequenceState } := by
  have hfields : d.device.checkpointSecuritySequenceState.addressTable = d.device.addressTable
      ∧ d.device.checkpointSecuritySequenceState.security.groupKeys = d.device.security.groupKeys
      ∧ d.device.checkpointSecuritySequenceState.security.deviceKeys = d.device.security.deviceKeys
      ∧ d.device.checkpointSecuritySequenceState.security.extraProperties
          = d.device.security.extraProperties := by
    rw [Device.checkpointSecuritySequenceState]
    split
    · exact ⟨rfl, rfl, rfl, rfl⟩
    · exact ⟨rfl, rfl, rfl, rfl⟩
  exact ⟨rfl, hfields.1, hfields.2.1, hfields.2.2.1, hfields.2.2.2⟩

theorem sameKeys_pumpPersistence (d : ManagedDevice (CoreObjects × τ)) (nowMs : UInt32) :
    SameKeys d { d with device := d.device.pumpPersistence nowMs } := by
  have hfields : (d.device.pumpPersistence nowMs).addressTable = d.device.addressTable
      ∧ (d.device.pumpPersistence nowMs).security = d.device.security := by
    rw [Device.pumpPersistence]
    split
    · exact ⟨rfl, rfl⟩
    · split
      · dsimp only
        split
        · exact ⟨rfl, rfl⟩
        · exact ⟨rfl, rfl⟩
      · split
        · exact ⟨rfl, rfl⟩
        · exact ⟨rfl, rfl⟩
  obtain ⟨htable, hsecurity⟩ := hfields
  exact ⟨rfl, htable, congrArg (·.groupKeys) hsecurity, congrArg (·.deviceKeys) hsecurity,
    congrArg (·.extraProperties) hsecurity⟩

theorem sameKeys_pumpCheckpoint (d : ManagedDevice (CoreObjects × τ)) (nowMs : UInt32) :
    SameKeys d { d with device := d.device.pumpSecuritySequenceCheckpoint nowMs } := by
  obtain ⟨due, hdue⟩ : ∃ due, nowMs + 60000 = due := ⟨_, rfl⟩
  obtain ⟨-, htable, hgroup, hdevice, hextra⟩ := sameKeys_checkpoint d
  rw [Device.pumpSecuritySequenceCheckpoint, hdue]
  split
  · exact ⟨rfl, rfl, rfl, rfl, rfl⟩
  · split
    · exact ⟨rfl, rfl, rfl, rfl, rfl⟩
    · exact ⟨rfl, htable, hgroup, hdevice, hextra⟩

theorem Synced.flushPersistenceIfDirty (h : d.Synced) :
    (d.flushPersistenceIfDirty config.backend).Synced := by
  have hsaved : (if d.device.persistenceDirty then d.saveToPersistence config.backend else d).Synced := by
    split
    · exact h.same ⟨rfl, rfl, rfl, rfl, rfl⟩
    · exact h
  exact hsaved.same (sameKeys_checkpoint _)

theorem Synced.loop (h : d.Synced) (nowMs : UInt32) : (d.loop config.backend nowMs).Synced := by
  have hpumped : (d.pumpPersistence config.backend nowMs).Synced := by
    rw [ManagedDevice.pumpPersistence]
    split
    · exact h.same ⟨rfl, rfl, rfl, rfl, rfl⟩
    · exact h.same (sameKeys_pumpPersistence d nowMs)
  rw [ManagedDevice.loop]
  exact hpumped.same (sameKeys_pumpCheckpoint _ nowMs)

theorem handleSecurityFunctionProperty_cases (o : SecurityInterfaceObject)
    (source : IndividualAddress) (request : FunctionPropertyRequest) :
    let o' := (handleSecurityFunctionProperty o source request).1
    (o'.groupKeys = o.groupKeys ∧ o'.deviceKeys = o.deviceKeys
        ∧ o'.extraProperties = o.extraProperties)
      ∨ (o'.groupKeys = (fun _ => none) ∧ o'.deviceKeys = (fun _ => none)
        ∧ o'.extraProperties .p2pKeyTable = none ∧ o'.extraProperties .groupKeyTable = none) := by
  have hevent : ∀ event, (o.applyLoadControlEvent event).groupKeys = o.groupKeys
        ∧ (o.applyLoadControlEvent event).deviceKeys = o.deviceKeys
        ∧ (o.applyLoadControlEvent event).extraProperties = o.extraProperties
      ∨ (o.applyLoadControlEvent event).groupKeys = (fun _ => none)
        ∧ (o.applyLoadControlEvent event).deviceKeys = (fun _ => none)
        ∧ (o.applyLoadControlEvent event).extraProperties .p2pKeyTable = none
        ∧ (o.applyLoadControlEvent event).extraProperties .groupKeyTable = none := by
    intro event
    rw [SecurityInterfaceObject.applyLoadControlEvent]
    repeat' split
    all_goals first | exact .inl ⟨rfl, rfl, rfl⟩ | exact .inr ⟨rfl, rfl, rfl, rfl⟩
  rw [Bau.handleSecurityFunctionProperty.eq_def]
  split
  · exact .inl ⟨rfl, rfl, rfl⟩
  · split
    · split
      · exact .inl ⟨rfl, rfl, rfl⟩
      · exact hevent _
      · exact .inl ⟨rfl, rfl, rfl⟩
    · repeat' split
      all_goals exact .inl ⟨rfl, rfl, rfl⟩

theorem Synced.handleSecurityFunctionProperty (h : d.Synced) (source : IndividualAddress)
    (request : FunctionPropertyRequest) :
    ({ d with device := { d.device with
        security := (handleSecurityFunctionProperty d.security source request).1 } } :
      ManagedDevice (CoreObjects × τ)).Synced := by
  rcases handleSecurityFunctionProperty_cases d.security source request with
    ⟨hgroup, hdevice, hextra⟩ | ⟨hgroup, hdevice, hp2p, hkeys⟩
  · exact h.same ⟨rfl, rfl, hgroup, hdevice, hextra⟩
  · exact ⟨h.mirror, hgroup.trans (groupKeysOf_of_none hkeys _).symm,
      hdevice.trans (deviceKeysOf_of_none hp2p).symm⟩

/-- A key of the group key table is in use: its index holds a group address. -/
def KeysUsed (d : ManagedDevice (CoreObjects × τ)) : Prop :=
  ∃ entry ∈ groupEntries d.security,
    getAddress d.core.addressTable.entries (entryIndex entry) ≠ 0

/-- A load event that empties the address table under keys in use: its unload, or the start of its
load. -/
def DropsKeyed (d : ManagedDevice (CoreObjects × τ)) : Operation → Prop
  | .writeProperty objectIndex propertyId startIndex value =>
      d.resolveObjectType objectIndex = some 1 ∧ propertyId = 5 ∧ Clears value
        ∧ (d.core.writeProperty config.schema 1 5 startIndex value).isSome ∧ d.KeysUsed
  | _ => False

theorem groupKeysOf_unused (hunused : ¬ d.KeysUsed) :
    groupKeysOf d.security d.core.addressTable.entries = fun _ => none := by
  funext address
  rw [groupKeysOf_apply]
  split
  · rfl
  · rename_i hnonzero
    have hnone : resolving d.security d.core.addressTable.entries address = [] := by
      rw [resolving, List.filter_eq_nil_iff]
      intro entry hmem hholds
      rw [decide_eq_true_iff] at hholds
      exact hunused ⟨entry, hmem, hholds ▸ hnonzero⟩
    rw [hnone]
    rfl

theorem groupKeysOf_empty (o : SecurityInterfaceObject) : groupKeysOf o [] = fun _ => none := by
  funext address
  have hnone : ∀ index, getAddress [] index = 0 := by
    intro index
    rw [getAddress]
    split
    · rfl
    · exact List.getD_nil
  rw [groupKeysOf_apply]
  split
  · rfl
  · rename_i hnonzero
    rw [resolving, List.filter_eq_nil_iff.mpr]
    · rfl
    · intro entry _
      rw [hnone, decide_eq_true_iff]
      exact Ne.symm hnonzero

theorem entries_of_loadEvent {startIndex : Nat} {value : List UInt8} {core : CoreObjects}
    {d' : ManagedDevice (CoreObjects × τ)}
    (hwrite : d.core.writeProperty config.schema 1 5 startIndex value = some core)
    (hwritten : TableWritten 1 5 value core d d') (hunmarked : marksTable 1 5 value = false) :
    (Clears value ∧ d'.core.addressTable.entries = [])
      ∨ (¬ Clears value ∧ d'.core.addressTable.entries = d.core.addressTable.entries) := by
  have hcompleted : isLoadCompleted 1 5 value = false := by
    rw [marksTable, Bool.and_eq_false_iff] at hunmarked
    rcases hunmarked with hunmarked | hunmarked
    · cases hunmarked
    · exact (Bool.or_eq_false_iff.mp hunmarked).2
  obtain ⟨event, hevent, rfl⟩ := writeProperty_addressControl config.schema hwrite
  have hclears : Clears value ↔ event = 1 ∨ event = 4 := by
    rw [Clears, hevent, Option.some.injEq, Option.some.injEq]
  rw [hwritten.core, afterLoad, if_neg (by rw [hcompleted]; exact Bool.false_ne_true)]
  dsimp only
  rw [entries_applyLoadControlEvent, hclears]
  split
  · rename_i hyes
    exact .inl ⟨hyes, rfl⟩
  · rename_i hno
    exact .inr ⟨hno, rfl⟩

theorem device_of_unmarked {propertyId : UInt8} {value : List UInt8} {core : CoreObjects}
    {d' : ManagedDevice (CoreObjects × τ)} (hwritten : TableWritten 1 propertyId value core d d')
    (hunmarked : marksTable 1 propertyId value = false) :
    d'.device = { d.device with addressTable := d'.core.addressTable.entries } := by
  rw [hwritten.device, if_pos rfl, hunmarked]
  rfl

theorem Synced.addressWritten (h : d.Synced) {propertyId : UInt8} {startIndex : Nat}
    {value : List UInt8} {core : CoreObjects} {d' : ManagedDevice (CoreObjects × τ)}
    (hwrite : d.core.writeProperty config.schema 1 propertyId startIndex value = some core)
    (hwritten : TableWritten 1 propertyId value core d d')
    (hkeeps : ¬ (propertyId = 5 ∧ Clears value ∧ d.KeysUsed)) : d'.Synced := by
  cases hmarked : marksTable 1 propertyId value
  · obtain ⟨rfl, -⟩ := control_of_unmarked (by rfl) hmarked
    have hdevice := device_of_unmarked hwritten hmarked
    have hsecurity : d'.security = d.security := by
      rw [ManagedDevice.security, hdevice]
      rfl
    have hmirror : d'.device.addressTable = d'.core.addressTable.entries :=
      congrArg Device.addressTable hdevice
    rcases entries_of_loadEvent config hwrite hwritten hmarked with
      ⟨hclears, hentries⟩ | ⟨-, hentries⟩
    · have hunused : ¬ d.KeysUsed := fun hused => hkeeps ⟨rfl, hclears, hused⟩
      refine ⟨hmirror, ?_, ?_⟩
      · rw [hsecurity, hentries, groupKeysOf_empty, h.group, groupKeysOf_unused hunused]
      · rw [hsecurity, h.device]
    · refine h.same ⟨hentries, ?_, ?_, ?_, ?_⟩
      · rw [hmirror, hentries, h.mirror]
      all_goals rw [hsecurity]
  · have hdevice := hwritten.device
    rw [if_pos rfl, hmarked] at hdevice
    have hresolved := resolved_applySecurityKeyTables d.security d'.core.addressTable.entries
    have hsecurity : d'.security
        = applySecurityKeyTables d.security d'.core.addressTable.entries :=
      congrArg Device.security hdevice
    refine ⟨congrArg Device.addressTable hdevice, ?_, ?_⟩
    · rw [hsecurity]
      exact hresolved.1
    · rw [hsecurity]
      exact hresolved.2

/-- A load event that empties the table under keys in use leaves them bound to addresses that are
gone. -/
theorem not_keysDerived_of_dropsKeyed (h : d.Synced) {operation : Operation}
    (hdrops : DropsKeyed config d operation) :
    ¬ (d.apply config.backend operation).KeysDerived := by
  cases operation with
  | writeProperty objectIndex propertyId startIndex value =>
    obtain ⟨hindex, rfl, hclears, hsome, entry, hmem, hholds⟩ := hdrops
    obtain ⟨core, hwrite⟩ := Option.isSome_iff_exists.mp hsome
    have hdevice := (CoreObjects.keepsOthers_writeProperty config.schema hwrite).deviceObject
      (by decide)
    have hwritten : TableWritten 1 5 value core d
        (d.afterOtherWrite config.backend 1 5 value (core, d.others.2)) :=
      afterOtherWrite_cases config d hdevice
    rw [← apply_writeProperty config hindex (by decide) hwrite] at hwritten
    have hunmarked : marksTable 1 5 value = false := (marksTable_of_clears (by rfl) hclears).1
    intro hderived
    -- the address that the entry resolved to has no index any more, and still has a key
    have hkey := hderived.group _ hholds
    have hsecurity := congrArg Device.security (device_of_unmarked hwritten hunmarked)
    have hnone : (d.apply config.backend
        (.writeProperty objectIndex 5 startIndex value)).core.addressTable.findIndex
          (getAddress d.core.addressTable.entries (entryIndex entry)) = 0 := by
      rcases entries_of_loadEvent config hwrite hwritten hunmarked with ⟨-, hentries⟩ | ⟨hnot, -⟩
      · rw [AddressTable.findIndex, hentries]
        rfl
      · exact absurd hclears hnot
    rw [hnone, keyOfIndex, if_pos rfl, ManagedDevice.security, hsecurity] at hkey
    have hlost : d.security.groupKeys _ = none := hkey
    rw [h.group, groupKeysOf_apply, if_neg hholds, Option.map_eq_none_iff,
      List.getLast?_eq_none_iff, resolving, List.filter_eq_nil_iff] at hlost
    exact hlost entry hmem (decide_eq_true rfl)
  | _ => exact hdrops.elim

theorem Synced.effect (h : d.Synced) {operation : Operation}
    {d' : ManagedDevice (CoreObjects × τ)} (heffect : Effect config d operation d')
    (hkeeps : ¬ DropsKeyed config d operation) : d'.Synced := by
  cases heffect with
  | refused => exact h
  | elsewhere => exact h.same ⟨rfl, rfl, rfl, rfl, rfl⟩
  | memory => exact h.same ⟨rfl, rfl, rfl, rfl, rfl⟩
  | securityFunction source request => exact h.handleSecurityFunctionProperty source request
  | securityWrite objectIndex propertyId startIndex value p hpid hwritten hindex =>
    obtain ⟨o, ho⟩ := Option.isSome_iff_exists.mp hwritten
    have ho' : d.device.security.writeProperty p startIndex value = some o := ho
    have hresolved := resolved_applySecurityKeyTables o d.core.addressTable.entries
    have hsecurity : (d.device.writeSecurityProperty p startIndex value).security
        = applySecurityKeyTables o d.core.addressTable.entries := by
      rw [Device.writeSecurityProperty, ho', ← h.mirror]
      rfl
    have hmirror : (d.device.writeSecurityProperty p startIndex value).addressTable
        = d.core.addressTable.entries := by
      rw [Device.writeSecurityProperty, ho', ← h.mirror]
      rfl
    refine ⟨hmirror, ?_, ?_⟩
    · rw [ManagedDevice.security, hsecurity]
      exact hresolved.1
    · rw [ManagedDevice.security, hsecurity]
      exact hresolved.2
  | deviceWrite objectIndex propertyId startIndex value core hwritten =>
    have hkept := (CoreObjects.keepsOthers_writeProperty config.schema hwritten).addressTable
      (by decide)
    exact h.same (sameKeys_deviceObjectCallbacks config d.ownAddress d.others.2
      (congrArg LoadableTable.entries hkept))
  | tableWrite objectIndex propertyId startIndex value objectType core d' hdevice hsecurity hwritten
      hindex htable =>
    by_cases haddress : objectType = 1
    · subst haddress
      apply h.addressWritten config hwritten htable
      rintro ⟨rfl, hclears, hused⟩
      exact hkeeps ⟨hindex, rfl, hclears, Option.isSome_iff_exists.mpr ⟨core, hwritten⟩, hused⟩
    · have hkept :=
        (CoreObjects.keepsOthers_writeProperty config.schema hwritten).addressTable haddress
      have htables : d'.core.addressTable = d.core.addressTable := by
        rw [htable.core, addressTable_afterLoad haddress, hkept]
      have hmarks := htable.device
      rw [if_neg haddress] at hmarks
      apply h.same
      refine ⟨congrArg LoadableTable.entries htables, ?_, ?_, ?_, ?_⟩
      all_goals
        first | rw [hmarks] | rw [ManagedDevice.security, hmarks]
        split <;> rfl
  | addressRefused => exact h.same ⟨rfl, rfl, rfl, rfl, rfl⟩
  | addressTaken address =>
    apply h.same
    apply sameKeys_deviceObjectCallbacks
    rfl
  | flushed =>
    exact (h.flushPersistenceIfDirty config).same ⟨rfl, rfl, rfl, rfl, rfl⟩

/-! ## Runs -/

theorem keys_loadSecuritySequenceState (store : Store) (o : SecurityInterfaceObject) :
    (loadSecuritySequenceState store o).groupKeys = o.groupKeys
      ∧ (loadSecuritySequenceState store o).deviceKeys = o.deviceKeys
      ∧ (loadSecuritySequenceState store o).extraProperties = o.extraProperties := by
  rw [loadSecuritySequenceState]
  split
  · exact ⟨rfl, rfl, rfl⟩
  · split
    · exact ⟨rfl, rfl, rfl⟩
    · dsimp only
      split
      · rw [SecurityInterfaceObject.setToolAccessSequence]
        split
        · exact ⟨rfl, rfl, rfl⟩
        · exact ⟨rfl, rfl, rfl⟩
      · exact ⟨rfl, rfl, rfl⟩

theorem synced_boot (store : Store) : (config.boot store).Synced := by
  obtain ⟨store', restored, hsecurity⟩ : ∃ store' restored, (config.boot store).security
      = loadSecuritySequenceState store'
          (applySecurityKeyTables restored (config.boot store).core.addressTable.entries) :=
    ⟨_, _, rfl⟩
  obtain ⟨hgroup, hdevice⟩ :=
    resolved_applySecurityKeyTables restored (config.boot store).core.addressTable.entries
  have hresolved : ({ config.boot store with device := { (config.boot store).device with
      security := applySecurityKeyTables restored
        (config.boot store).core.addressTable.entries } } :
      ManagedDevice (CoreObjects × τ)).Synced :=
    ⟨rfl, hgroup, hdevice⟩
  obtain ⟨hgroupKept, hdeviceKept, hextraKept⟩ := keys_loadSecuritySequenceState store'
    (applySecurityKeyTables restored (config.boot store).core.addressTable.entries)
  apply hresolved.same
  refine ⟨rfl, rfl, ?_, ?_, ?_⟩
  · rw [hsecurity, hgroupKept]
    rfl
  · rw [hsecurity, hdeviceKept]
    rfl
  · rw [hsecurity, hextraKept]
    rfl

/-- A frame that empties the address table under keys in use. -/
def StrandsKeys (d : ManagedDevice (CoreObjects × τ)) : ManagedEvent τ → Prop
  | .frame frame => DropsKeyed config d (d.operationOf config.backend frame)
  | _ => False

theorem Synced.managedStep (h : d.Synced) {event : ManagedEvent τ}
    (hkeeps : ¬ StrandsKeys config d event) : (managedStep config d event).Synced := by
  cases event with
  | frame frame =>
    rw [Bau.managedStep, handleTransportRx_fst]
    exact h.effect config (effect_apply config d _) hkeeps
  | loop nowMs => exact h.loop config nowMs
  | flush => exact h.flushPersistenceIfDirty config
  | setProgMode enable => exact h.same (sameKeys_deviceObjectCallbacks config d.ownAddress _ rfl)
  | runtime state => exact h.same ⟨rfl, rfl, rfl, rfl, rfl⟩
  | reboot => exact synced_boot config d.device.store

theorem keysDerived_managedStep_iff (h : d.Synced) (event : ManagedEvent τ) :
    (managedStep config d event).KeysDerived ↔
      (managedStep config d event).KeysSettled ∧ ¬ StrandsKeys config d event := by
  by_cases hstrands : StrandsKeys config d event
  · refine iff_of_false ?_ (fun hboth => hboth.2 hstrands)
    cases event with
    | frame frame =>
      rw [Bau.managedStep, handleTransportRx_fst]
      exact not_keysDerived_of_dropsKeyed config h hstrands
    | _ => exact hstrands.elim
  · rw [keysDerived_iff (h.managedStep config hstrands)]
    exact (and_iff_left hstrands).symm

end Steps

/-- Derived keys. A device has the keys of its tables through exactly those runs in which its tables
settle every address and no frame empties the address table under keys in use. -/
theorem keys_derived_iff (config : Configuration τ) (store : Store)
    (events : List (ManagedEvent τ)) :
    ((config.boot store).KeysDerived ∧
        Along (Bau.managedStep config) (fun d event => (Bau.managedStep config d event).KeysDerived)
          (config.boot store) events)
      ↔ ((config.boot store).KeysSettled ∧
        Along (Bau.managedStep config)
          (fun d event => (Bau.managedStep config d event).KeysSettled ∧ ¬ StrandsKeys config d event)
          (config.boot store) events) := by
  have hboot := synced_boot config store
  have hstep : ∀ (d : ManagedDevice (CoreObjects × τ)) (event : ManagedEvent τ),
      d.Synced → (Bau.managedStep config d event).KeysDerived → (Bau.managedStep config d event).Synced :=
    fun d event h hderived =>
      h.managedStep config ((keysDerived_managedStep_iff config h event).mp hderived).2
  have hiff : ∀ (d : ManagedDevice (CoreObjects × τ)) (event : ManagedEvent τ), d.Synced →
      ((Bau.managedStep config d event).KeysDerived ↔
        (Bau.managedStep config d event).KeysSettled ∧ ¬ StrandsKeys config d event) :=
    fun d event h => keysDerived_managedStep_iff config h event
  rw [keysDerived_iff hboot, along_iff_along hstep hiff hboot events]

/-- A_PropertyValue_Write of the first entry of the group key table, by the tool. -/
def writeFirstGroupKeyFrame : TDataFrame :=
  { service := .individual
    source := ⟨0x1101⟩
    destinationType := .individual
    security := { secured := true, toolAccess := true, confidentiality := true }
    tpdu := ⟨[0x03, 0xD7, 5, 53, 0x10, 0x01, 0x00, 0x01] ++ List.replicate 16 0xAA, by decide⟩ }

/-- A_PropertyValue_Write of the event Unload to the address table. -/
def unloadAddressTableFrame : TDataFrame :=
  { service := .individual
    source := ⟨0x1101⟩
    destinationType := .individual
    tpdu := ⟨[0x03, 0xD7, 1, 5, 0x10, 0x01, 4], by decide⟩ }

/-- After an unload of the address table a group address that is not in it still has a key. -/
theorem unloaded_address_keyed :
    ¬ Along (Bau.managedStep sampleBlank)
        (fun d event => (Bau.managedStep sampleBlank d event).KeysDerived)
        (sampleBlank.boot fun _ => none)
        [.frame (writeFirstAddressFrame 0x09 0x01), .frame writeFirstGroupKeyFrame,
          .frame unloadAddressTableFrame] := by
  rintro ⟨-, -, hthird, -⟩
  have hkey := hthird.group 0x0901 (by decide)
  exact absurd hkey (by decide +kernel)

end ManagedDevice

end KnxStack.Bau
