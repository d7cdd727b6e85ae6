import KnxStack.Bau.Download
import KnxStack.Datalink.Tp1Receive

/-!
# Group subscription

The data link layer has a list of its own of the group addresses that it receives and acknowledges.
A write to the address table that marks it adds the addresses of the table to this list, and a start
does the same on an empty list. No write takes an address away: what a later table leaves out stays in
the list and in the end fills it.

- `Filtered`: what holds of the list in every state.
- `Effect.addressTable`: an operation leaves table and list alone, or writes the table.
- `subscribed_iff`: table and list agree through exactly those runs in which no address is lost from
  the table while the device is up.
-/

set_option autoImplicit false

namespace KnxStack.Bau

open KnxStack.Application KnxStack.Datalink KnxStack.Lib KnxStack.Lib.Growing KnxStack.Objects
open KnxStack.Transport (TDataFrame)

variable {τ : Type}

namespace ManagedDevice

/-! ## The filter -/

/-- The receive filter of the data link layer. -/
def rxFilter (d : ManagedDevice (CoreObjects × τ)) : RxFilter :=
  { ownAddress := d.dataLinkAddress
    groupAddresses :=
      ⟨(d.groupAddresses.take maxGroupAddresses).map GroupAddress.mk, by
        rw [List.length_map, List.length_take]
        exact Nat.min_le_left _ _⟩ }

/-- The filter accepts the addresses of the table, the broadcast address apart. -/
def Subscribed (d : ManagedDevice (CoreObjects × τ)) : Prop :=
  ∀ address : GroupAddress, address.isBroadcast = false →
    (d.rxFilter.isAddressMatch address .group = true ↔ address.raw ∈ d.core.addressTable.entries)

/-- What holds of the list of the data link layer, whatever the table has. -/
structure Filtered (d : ManagedDevice (CoreObjects × τ)) : Prop where
  nodup : d.groupAddresses.Nodup
  bounded : d.groupAddresses.length ≤ maxGroupAddresses
  nonzero : (0 : UInt16) ∉ d.groupAddresses

theorem isAddressMatch_iff {d : ManagedDevice (CoreObjects × τ)} (h : d.Filtered)
    {address : GroupAddress} (hbroadcast : address.isBroadcast = false) :
    d.rxFilter.isAddressMatch address .group = true ↔ address.raw ∈ d.groupAddresses := by
  rw [RxFilter.isAddressMatch, rxFilter, if_neg Bool.false_ne_true]
  dsimp only
  rw [hbroadcast, Bool.false_or, decide_eq_true_iff, List.take_of_length_le h.bounded, List.mem_map]
  constructor
  · rintro ⟨raw, hraw, rfl⟩
    exact hraw
  · intro hmem
    exact ⟨address.raw, hmem, rfl⟩

theorem subscribed_iff_mem {d : ManagedDevice (CoreObjects × τ)} (h : d.Filtered) :
    d.Subscribed ↔
      ∀ raw : UInt16, raw ≠ 0 → (raw ∈ d.groupAddresses ↔ raw ∈ d.core.addressTable.entries) := by
  constructor
  · intro hsubscribed raw hraw
    have hbroadcast : GroupAddress.isBroadcast ⟨raw⟩ = false := beq_false_of_ne hraw
    rw [← hsubscribed ⟨raw⟩ hbroadcast, isAddressMatch_iff h hbroadcast]
  · intro hsame address hbroadcast
    rw [isAddressMatch_iff h hbroadcast]
    exact hsame address.raw (ne_of_beq_false hbroadcast)

/-! ## The list after a write -/

/-- The addresses of a table that are subscribed. -/
def subscriptions (t : AddressTable) : List UInt16 := t.entries.filter fun address => address ≠ 0

theorem mem_subscriptions {t : AddressTable} {raw : UInt16} :
    raw ∈ subscriptions t ↔ raw ∈ t.entries ∧ raw ≠ 0 := by
  rw [subscriptions, List.mem_filter, decide_eq_true_iff]

theorem length_subscriptions_le (t : AddressTable) :
    (subscriptions t).length ≤ maxGroupAddresses :=
  Nat.le_trans (List.length_filter_le _ _) t.bounded

/-- `addGroupAddress` for every address of a table. -/
theorem Filtered.subscribe {d d' : ManagedDevice (CoreObjects × τ)} (h : d.Filtered)
    (t : AddressTable)
    (hlist : d'.groupAddresses = (subscriptions t).foldl addGroupAddress d.groupAddresses) :
    d'.Filtered := by
  have hadd : (addGroupAddress : List UInt16 → UInt16 → List UInt16)
      = insertBounded maxGroupAddresses := rfl
  rw [hadd] at hlist
  constructor
  · rw [hlist]
    exact nodup_foldl_insertBounded _ h.nodup
  · rw [hlist]
    exact length_foldl_insertBounded_le _ h.bounded
  · rw [hlist]
    intro hzero
    rcases List.mem_append.mp (foldl_insertBounded_subset _ _ hzero) with hzero | hzero
    · exact h.nonzero hzero
    · exact (mem_subscriptions.mp hzero).2 rfl

theorem mem_subscribe_iff {groupAddresses : List UInt16} (hnodup : groupAddresses.Nodup)
    (t : AddressTable) (hsubset : groupAddresses ⊆ subscriptions t) (raw : UInt16) :
    raw ∈ (subscriptions t).foldl addGroupAddress groupAddresses ↔ raw ∈ subscriptions t := by
  have hadd : (addGroupAddress : List UInt16 → UInt16 → List UInt16)
      = insertBounded maxGroupAddresses := rfl
  rw [hadd, foldl_insertBounded_eq (length_subscriptions_le t) _ hnodup hsubset
    (List.Subset.refl _), mem_foldl_insertNew]
  constructor
  · rintro (hold | hnew)
    · exact hsubset hold
    · exact hnew
  · exact Or.inr

/-! ## Operations -/

section Steps

variable (config : Configuration τ) {d : ManagedDevice (CoreObjects × τ)}

/-- Table and list are as they were. -/
structure SameSubscription (d d' : ManagedDevice (CoreObjects × τ)) : Prop where
  table : d'.core.addressTable = d.core.addressTable
  list : d'.groupAddresses = d.groupAddresses

theorem Filtered.same (h : d.Filtered) {d' : ManagedDevice (CoreObjects × τ)}
    (hsame : SameSubscription d d') : d'.Filtered := by
  obtain ⟨-, hlist⟩ := hsame
  exact ⟨hlist ▸ h.nodup, hlist ▸ h.bounded, hlist ▸ h.nonzero⟩

theorem Subscribed.same (h : d.Filtered) (hsubscribed : d.Subscribed)
    {d' : ManagedDevice (CoreObjects × τ)} (hsame : SameSubscription d d') : d'.Subscribed := by
  rw [subscribed_iff_mem (h.same hsame), hsame.list, hsame.table]
  exact (subscribed_iff_mem h).mp hsubscribed

theorem sameSubscription_deviceObjectCallbacks {core : CoreObjects} (address : IndividualAddress)
    (state : τ) (hcore : core.addressTable = d.core.addressTable) :
    SameSubscription d
      (ManagedDevice.deviceObjectCallbacks config.backend { d with ownAddress := address }
        (core, state)) := by
  rw [deviceObjectCallbacks]
  split
  · exact ⟨hcore, rfl⟩
  · exact ⟨hcore, rfl⟩

theorem sameSubscription_flush : SameSubscription d (d.flushPersistenceIfDirty config.backend) := by
  rw [flushPersistenceIfDirty]
  split
  · exact ⟨rfl, rfl⟩
  · exact ⟨rfl, rfl⟩

theorem sameSubscription_loop (nowMs : UInt32) :
    SameSubscription d (d.loop config.backend nowMs) := by
  rw [ManagedDevice.loop, ManagedDevice.pumpPersistence]
  split
  · exact ⟨rfl, rfl⟩
  · exact ⟨rfl, rfl⟩

theorem addressTable_afterLoad {objectType : UInt16} (hother : objectType ≠ 1)
    {propertyId : UInt8} {value : List UInt8} {core : CoreObjects} :
    (d.afterLoad objectType propertyId value core).addressTable = core.addressTable := by
  rw [afterLoad]
  split
  · rw [CoreObjects.applyLoadedTableSegment]
    split
    · rfl
    · split
      · rfl
      · rw [CoreObjects.applySegment, if_neg hother]
        split
        · rfl
        · split <;> rfl
  · rfl

theorem Effect.addressTable {operation : Operation} {d' : ManagedDevice (CoreObjects × τ)}
    (heffect : Effect config d operation d') :
    SameSubscription d d'
      ∨ ∃ objectIndex propertyId startIndex value core,
          operation = .writeProperty objectIndex propertyId startIndex value
            ∧ d.resolveObjectType objectIndex = some 1
            ∧ d.core.writeProperty config.schema 1 propertyId startIndex value = some core
            ∧ TableWritten 1 propertyId value core d d' := by
  cases heffect with
  | refused => exact .inl ⟨rfl, rfl⟩
  | elsewhere => exact .inl ⟨rfl, rfl⟩
  | memory => exact .inl ⟨rfl, rfl⟩
  | securityFunction => exact .inl ⟨rfl, rfl⟩
  | securityWrite => exact .inl ⟨rfl, rfl⟩
  | deviceWrite objectIndex propertyId startIndex value core hwritten =>
    have hkept := (CoreObjects.keepsOthers_writeProperty config.schema hwritten).addressTable
      (by decide)
    exact .inl (sameSubscription_deviceObjectCallbacks config d.ownAddress d.others.2 hkept)
  | tableWrite objectIndex propertyId startIndex value objectType core d' hdevice hsecurity hwritten
      hindex htable =>
    by_cases haddress : objectType = 1
    · subst haddress
      exact .inr ⟨objectIndex, propertyId, startIndex, value, core, rfl, hindex, hwritten, htable⟩
    · refine .inl ⟨?_, ?_⟩
      · have hkept :=
          (CoreObjects.keepsOthers_writeProperty config.schema hwritten).addressTable haddress
        rw [htable.core, addressTable_afterLoad haddress, hkept]
      · rw [htable.groupAddresses, if_neg]
        exact fun h => haddress h.1
  | addressRefused => exact .inl ⟨rfl, rfl⟩
  | addressTaken address =>
    left
    apply sameSubscription_deviceObjectCallbacks
    rfl
  | flushed =>
    obtain ⟨htable, hlist⟩ := sameSubscription_flush config (d := d)
    exact .inl ⟨htable, hlist⟩

/-- A write to the address table after which one of its addresses is missing: an unload or the start of
a load, a load that completes without the address, or an entry written over. -/
def Forgets (d : ManagedDevice (CoreObjects × τ)) : Operation → Prop
  | .writeProperty objectIndex propertyId startIndex value =>
      d.resolveObjectType objectIndex = some 1
        ∧ ∃ core, d.core.writeProperty config.schema 1 propertyId startIndex value = some core
          ∧ ∃ address ∈ subscriptions d.core.addressTable,
              address ∉ (d.afterLoad 1 propertyId value core).addressTable.entries
  | _ => False

theorem Filtered.effect (h : d.Filtered) {operation : Operation}
    {d' : ManagedDevice (CoreObjects × τ)} (heffect : Effect config d operation d') :
    d'.Filtered := by
  rcases heffect.addressTable config with hsame | ⟨_, propertyId, _, value, _, -, -, -, hwritten⟩
  · exact h.same hsame
  · have hlist := hwritten.groupAddresses
    split at hlist
    · exact h.subscribe d'.core.addressTable hlist
    · exact ⟨hlist ▸ h.nodup, hlist ▸ h.bounded, hlist ▸ h.nonzero⟩

theorem entries_of_unmarked {propertyId : UInt8} {startIndex : Nat} {value : List UInt8}
    {core : CoreObjects} {d' : ManagedDevice (CoreObjects × τ)}
    (hwrite : d.core.writeProperty config.schema 1 propertyId startIndex value = some core)
    (hwritten : TableWritten 1 propertyId value core d d')
    (hmarked : marksTable 1 propertyId value = false) :
    d'.core.addressTable.entries ⊆ d.core.addressTable.entries := by
  obtain ⟨rfl, hevent⟩ := control_of_unmarked (by rfl) hmarked
  have hcompleted : isLoadCompleted 1 5 value = false := by
    rw [marksTable, Bool.and_eq_false_iff] at hmarked
    rcases hmarked with hmarked | hmarked
    · cases hmarked
    · exact (Bool.or_eq_false_iff.mp hmarked).2
  obtain ⟨event, -, rfl⟩ := writeProperty_addressControl config.schema hwrite
  rw [hwritten.core, afterLoad, if_neg (by rw [hcompleted]; exact Bool.false_ne_true)]
  dsimp only
  rw [entries_applyLoadControlEvent]
  split
  · exact List.nil_subset _
  · exact List.Subset.refl _

theorem subscribed_tableWritten_iff (h : d.Filtered) (hsubscribed : d.Subscribed)
    {propertyId : UInt8} {startIndex : Nat} {value : List UInt8} {core : CoreObjects}
    {d' : ManagedDevice (CoreObjects × τ)}
    (hwrite : d.core.writeProperty config.schema 1 propertyId startIndex value = some core)
    (hwritten : TableWritten 1 propertyId value core d d') (h' : d'.Filtered) :
    d'.Subscribed ↔
      ∀ address ∈ subscriptions d.core.addressTable, address ∈ d'.core.addressTable.entries := by
  have hold := (subscribed_iff_mem h).mp hsubscribed
  have hlist := hwritten.groupAddresses
  rw [subscribed_iff_mem h']
  constructor
  · -- the list keeps the address, so the table has to keep it as well
    intro hnew address hmem
    obtain ⟨hentry, hnonzero⟩ := mem_subscriptions.mp hmem
    rw [← hnew address hnonzero, hlist]
    have hthere := (hold address hnonzero).mpr hentry
    split
    · exact subset_foldl_insertBounded _ _ hthere
    · exact hthere
  · intro hkeeps raw hnonzero
    have hsubset : d.groupAddresses ⊆ subscriptions d'.core.addressTable := by
      intro address hmem
      have hne : address ≠ 0 := by
        rintro rfl
        exact h.nonzero hmem
      have hentry := mem_subscriptions.mpr ⟨(hold address hne).mp hmem, hne⟩
      exact mem_subscriptions.mpr ⟨hkeeps address hentry, hne⟩
    cases hmarked : marksTable 1 propertyId value
    · -- a load event that marks nothing does not add entries either
      have hmore := entries_of_unmarked config hwrite hwritten hmarked
      rw [hlist, if_neg (fun hboth => Bool.false_ne_true (hmarked ▸ hboth.2))]
      constructor
      · intro hmem
        exact (mem_subscriptions.mp (hsubset hmem)).1
      · intro hentry
        exact (hold raw hnonzero).mpr (hmore hentry)
    · rw [hlist, if_pos ⟨rfl, hmarked⟩]
      have hall := mem_subscribe_iff h.nodup d'.core.addressTable hsubset raw
      exact hall.trans ⟨fun hmem => (mem_subscriptions.mp hmem).1,
        fun hentry => mem_subscriptions.mpr ⟨hentry, hnonzero⟩⟩

theorem subscribed_effect_iff (h : d.Filtered) (hsubscribed : d.Subscribed) {operation : Operation}
    {d' : ManagedDevice (CoreObjects × τ)} (heffect : Effect config d operation d')
    (happly : d' = d.apply config.backend operation) :
    d'.Subscribed ↔ ¬ Forgets config d operation := by
  have h' := h.effect config heffect
  rcases heffect.addressTable config with
    hsame | ⟨objectIndex, propertyId, startIndex, value, core, rfl, hindex, hwrite, hwritten⟩
  · refine iff_of_true (hsubscribed.same h hsame) ?_
    intro hforgets
    cases operation with
    | writeProperty objectIndex propertyId startIndex value =>
      obtain ⟨hindex, core, hwrite, address, hmem, hmissing⟩ := hforgets
      have hdevice := (CoreObjects.keepsOthers_writeProperty config.schema hwrite).deviceObject
        (by decide)
      have hwritten : TableWritten 1 propertyId value core d
          (d.afterOtherWrite config.backend 1 propertyId value (core, d.others.2)) :=
        afterOtherWrite_cases config d hdevice
      rw [← apply_writeProperty config hindex (by decide) hwrite, ← happly] at hwritten
      apply hmissing
      rw [← hwritten.core, hsame.table]
      exact (mem_subscriptions.mp hmem).1
    | _ => exact hforgets
  · rw [subscribed_tableWritten_iff config h hsubscribed hwrite hwritten h', hwritten.core]
    constructor
    · rintro hkeeps ⟨-, core', hwrite', address, hmem, hmissing⟩
      rw [hwrite, Option.some.injEq] at hwrite'
      subst hwrite'
      exact hmissing (hkeeps address hmem)
    · intro hnot address hmem
      by_contra hmissing
      exact hnot ⟨hindex, core, hwrite, address, hmem, hmissing⟩

/-! ## Runs -/

theorem groupAddresses_boot (store : Store) :
    (config.boot store).groupAddresses
      = (subscriptions (config.boot store).core.addressTable).foldl addGroupAddress [] := rfl

theorem filtered_boot (store : Store) : (config.boot store).Filtered := by
  have hnone : ({ config.boot store with groupAddresses := [] } :
      ManagedDevice (CoreObjects × τ)).Filtered :=
    ⟨List.nodup_nil, Nat.zero_le _, List.not_mem_nil⟩
  exact hnone.subscribe (config.boot store).core.addressTable (groupAddresses_boot config store)

theorem subscribed_boot (store : Store) : (config.boot store).Subscribed := by
  rw [subscribed_iff_mem (filtered_boot config store), groupAddresses_boot]
  intro raw hnonzero
  rw [mem_subscribe_iff List.nodup_nil _ (List.nil_subset _), mem_subscriptions]
  exact and_iff_left hnonzero

/-- A frame after which an address of the table is missing from it. -/
def LosesAddress (d : ManagedDevice (CoreObjects × τ)) : ManagedEvent τ → Prop
  | .frame frame => Forgets config d (d.operationOf config.backend frame)
  | _ => False

theorem sameSubscription_setProgMode (enable : Bool) :
    SameSubscription d (managedStep config d (.setProgMode enable)) :=
  sameSubscription_deviceObjectCallbacks config d.ownAddress _ rfl

theorem Filtered.managedStep (h : d.Filtered) (event : ManagedEvent τ) :
    (managedStep config d event).Filtered := by
  cases event with
  | frame frame =>
    rw [Bau.managedStep, handleTransportRx_fst]
    exact h.effect config (effect_apply config d _)
  | loop nowMs => exact h.same (sameSubscription_loop config nowMs)
  | flush => exact h.same (sameSubscription_flush config)
  | setProgMode enable => exact h.same (sameSubscription_setProgMode config enable)
  | runtime state => exact h.same ⟨rfl, rfl⟩
  | reboot => exact filtered_boot config d.device.store

theorem subscribed_managedStep_iff (h : d.Filtered) (hsubscribed : d.Subscribed)
    (event : ManagedEvent τ) :
    (managedStep config d event).Subscribed ↔ ¬ LosesAddress config d event := by
  cases event with
  | frame frame =>
    rw [Bau.managedStep, handleTransportRx_fst]
    exact subscribed_effect_iff config h hsubscribed (effect_apply config d _) rfl
  | loop nowMs => exact iff_of_true (hsubscribed.same h (sameSubscription_loop config nowMs)) id
  | flush => exact iff_of_true (hsubscribed.same h (sameSubscription_flush config)) id
  | setProgMode enable =>
    exact iff_of_true (hsubscribed.same h (sameSubscription_setProgMode config enable)) id
  | runtime state => exact iff_of_true (hsubscribed.same h ⟨rfl, rfl⟩) id
  | reboot => exact iff_of_true (subscribed_boot config d.device.store) id

end Steps

/-- Group subscription. A device starts with a filter that agrees with its address table, and the
two agree through exactly those runs in which no frame takes an address out of the table. -/
theorem subscribed_iff (config : Configuration τ) (store : Store)
    (events : List (ManagedEvent τ)) :
    (config.boot store).Subscribed
      ∧ (Along (managedStep config) (fun d event => (managedStep config d event).Subscribed)
            (config.boot store) events
          ↔ Along (managedStep config) (fun d event => ¬ LosesAddress config d event)
            (config.boot store) events) := by
  refine ⟨subscribed_boot config store, ?_⟩
  have hstep : ∀ (d : ManagedDevice (CoreObjects × τ)) (event : ManagedEvent τ),
      d.Filtered ∧ d.Subscribed → (managedStep config d event).Subscribed →
        (managedStep config d event).Filtered ∧ (managedStep config d event).Subscribed :=
    fun d event h hnext => ⟨h.1.managedStep config event, hnext⟩
  have hiff : ∀ (d : ManagedDevice (CoreObjects × τ)) (event : ManagedEvent τ),
      d.Filtered ∧ d.Subscribed →
        ((managedStep config d event).Subscribed ↔ ¬ LosesAddress config d event) :=
    fun d event h => subscribed_managedStep_iff config h.1 h.2 event
  exact along_iff_along hstep hiff ⟨filtered_boot config store, subscribed_boot config store⟩ events

/-- A_PropertyValue_Write of the first entry of the address table. -/
def writeFirstAddressFrame (high low : UInt8) : TDataFrame :=
  { service := .individual
    source := ⟨0x1101⟩
    destinationType := .individual
    tpdu := ⟨[0x03, 0xD7, 1, 23, 0x10, 0x01, high, low], by exact Nat.le_of_ble_eq_true rfl⟩ }

/-- An address that is written over is still received. -/
theorem replaced_address_received :
    ¬ Along (managedStep sampleBlank) (fun d event => (managedStep sampleBlank d event).Subscribed)
        (sampleBlank.boot fun _ => none)
        [.frame (writeFirstAddressFrame 0x09 0x01), .frame (writeFirstAddressFrame 0x09 0x02)] := by
  rintro ⟨-, hsecond, -⟩
  have hstale := (hsecond ⟨0x0901⟩ rfl).mp (by decide +kernel)
  exact absurd hstale (by decide +kernel)

end ManagedDevice

end KnxStack.Bau
