import KnxStack.Bau.ManagedObjects

/-!
# Group telegrams

Inbound group services (`bau_group_runtime.cpp`): a telegram goes from its group address to an index
of the address table, from there to group object numbers of the association table, and waits with
these in a queue until the next loop offers it to the objects.

- `findIndex`, `findGroupObjects`: the lookups of the two tables.
- `handleApplicationFrame`, `processInboundGroupEvents`: the two ends of the queue.
- `offers_processInboundGroupEvents`: a loop offers what is queued, in order and once.
- `telegram_delivered_iff`: which telegrams reach all of their group objects.
-/

set_option autoImplicit false

namespace KnxStack.Objects

/-- `AddressTableObject::findIndex`: the first entry, counted from one; zero stands for none. -/
def AddressTable.findIndex (t : AddressTable) (address : UInt16) : UInt16 :=
  match t.entries.findIdx? (· == address) with
  | none => 0
  | some i => UInt16.ofNat (i + 1)

/-- `getAddress`, without the invalid address that stands for a missing entry. -/
def AddressTable.entryAt (t : AddressTable) (index : UInt16) : Option UInt16 :=
  if index = 0 then none else t.entries[index.toNat - 1]?

theorem AddressTable.entryAt_findIndex {t : AddressTable} {address : UInt16}
    (hfound : t.findIndex address ≠ 0) : t.entryAt (t.findIndex address) = some address := by
  rw [entryAt, if_neg hfound]
  rw [findIndex] at hfound ⊢
  cases hindex : t.entries.findIdx? (· == address) with
  | none =>
    rw [hindex] at hfound
    exact absurd rfl hfound
  | some i =>
    obtain ⟨hi, heq, -⟩ := List.findIdx?_eq_some_iff_getElem.mp hindex
    have hbounded : t.entries.length ≤ 256 := t.bounded
    have hvalue : (UInt16.ofNat (i + 1)).toNat = i + 1 := by
      apply UInt16.toNat_ofNat_of_lt'
      show i + 1 < 65536
      omega
    dsimp only
    rw [hvalue, Nat.add_sub_cancel, List.getElem?_eq_getElem hi, beq_iff_eq.mp heq]

theorem AddressTable.entryAt_ne_of_findIndex {t : AddressTable} {address : UInt16}
    (hnone : t.findIndex address = 0) (index : UInt16) : t.entryAt index ≠ some address := by
  intro hentry
  rw [entryAt] at hentry
  split at hentry
  · cases hentry
  · have hmem := List.mem_of_getElem? hentry
    rw [findIndex] at hnone
    cases hindex : t.entries.findIdx? (· == address) with
    | none =>
      exact absurd (beq_self_eq_true address) (List.findIdx?_eq_none_iff.mp hindex address hmem ▸
        Bool.false_ne_true)
    | some i =>
      obtain ⟨hi, -⟩ := List.findIdx?_eq_some_iff_getElem.mp hindex
      have hbounded : t.entries.length ≤ 256 := t.bounded
      rw [hindex] at hnone
      have hvalue := congrArg UInt16.toNat hnone
      have hsmall : i + 1 < UInt16.size := by
        show i + 1 < 65536
        omega
      rw [UInt16.toNat_ofNat_of_lt' hsmall] at hvalue
      exact absurd hvalue (Nat.succ_ne_zero i)

/-- `AssociationTableDomain::findGroupObjects` for a buffer of some length. -/
def AssociationTable.findGroupObjects (t : AssociationTable) (addressIndex : UInt16)
    (capacity : Nat) : Result (List UInt16) :=
  let found := (t.entries.filter (·.addressIndex == addressIndex)).map (·.groupObjectNumber)
  if capacity < found.length then .error .bufferTooSmall else .ok found

/-- `GroupObjectTableObject::getGroupObject`. -/
def GroupObjectTable.getGroupObject (t : GroupObjectTable) (index : UInt16) :
    Option GroupObjectDescriptor :=
  if index = 0xFFFF ∨ 256 ≤ index.toNat then none else t.objects[index.toNat]?

namespace GroupObjectDescriptor

/-- `communicationEnabled`. -/
def communication (object : GroupObjectDescriptor) : Bool := object.flags &&& 0x04 != 0

/-- `readable`. -/
def readable (object : GroupObjectDescriptor) : Bool :=
  object.communication && object.flags &&& 0x08 != 0

/-- `writable`. -/
def writable (object : GroupObjectDescriptor) : Bool :=
  object.communication && object.flags &&& 0x10 != 0

/-- `updatable`. -/
def updatable (object : GroupObjectDescriptor) : Bool :=
  object.communication && object.flags &&& 0x80 != 0

end GroupObjectDescriptor

end KnxStack.Objects

namespace KnxStack.Bau

open KnxStack.Application KnxStack.Objects KnxStack.Protocol KnxStack.Transport

/-! ## The runtime -/

/-- `BusAccessUnit::MessageKind`. -/
inductive MessageKind where
  | unknown
  | groupValueWrite
  | groupValueRead
  | groupValueResponse
  deriving DecidableEq, Repr

/-- `toBauMessageKind`. -/
def toBauMessageKind : APCIService → MessageKind
  | .groupValueWrite => .groupValueWrite
  | .groupValueRead => .groupValueRead
  | .groupValueResponse => .groupValueResponse
  | _ => .unknown

/-- `GroupObject::ValueSource`. -/
inductive ValueSource where
  | write
  | response
  deriving DecidableEq, Repr

/-- `kMaxInboundAssociatedGroupObjects`. -/
def maxInboundAssociatedGroupObjects : Nat := 16

/-- `kMaxInboundGroupEventsPerLoop`. -/
def maxInboundGroupEventsPerLoop : Nat := 32

/-- `INBOUND_GROUP_EVENT_QUEUE_CAPACITY`. -/
def inboundGroupEventQueueCapacity : Nat := 8

/-- `MAX_GROUP_OBJECT_PAYLOAD_BYTES`. -/
def maxGroupObjectPayloadBytes : Nat := 16

/-- `PendingInboundGroupEvent`: the fixed buffers bound the objects and the data. -/
structure PendingInboundGroupEvent where
  kind : MessageKind
  destination : UInt16
  associatedObjects : List UInt16
  data : List UInt8
  objects_bounded : associatedObjects.length ≤ maxInboundAssociatedGroupObjects
  data_bounded : data.length ≤ maxApduLength

/-- What the group objects of a device hold between loops: their values, where there is one, and the
events that wait. -/
structure GroupRuntime where
  values : UInt16 → Option (List UInt8) := fun _ => none
  queue : List PendingInboundGroupEvent := []
  queue_bounded : queue.length ≤ inboundGroupEventQueueCapacity := by exact Nat.zero_le _
  droppedInboundGroupEvents : Nat := 0

/-- What happens at the group objects while events are processed. -/
inductive GroupAction where
  /-- `receiveValue` of an object. -/
  | offered (object : UInt16) (source : ValueSource) (data : List UInt8)
  /-- `_groupObjectWriteCallback`. -/
  | written (object : UInt16) (data : List UInt8)
  /-- `_groupObjectReadCallback`. -/
  | readRequested (object : UInt16)
  /-- The automatic response, deferred or at once. -/
  | answered (destination : UInt16) (value : List UInt8)
  deriving DecidableEq, Repr

/-- The offers among some actions. -/
def offers (actions : List GroupAction) : List GroupAction :=
  actions.filter fun
    | .offered _ _ _ => true
    | _ => false

theorem offers_append (first second : List GroupAction) :
    offers (first ++ second) = offers first ++ offers second := List.filter_append ..

namespace GroupRuntime

/-- `GroupObject::receiveValue`: the flags of the object gate the source, and the buffer of the object
the length. -/
def receiveValue (object : GroupObjectDescriptor) (data : List UInt8) (source : ValueSource) :
    Bool :=
  (match source with
    | .write => object.writable
    | .response => object.updatable)
    && data.length ≤ maxGroupObjectPayloadBytes

/-- `enqueueInboundGroupEvent`. -/
def enqueueInboundGroupEvent (r : GroupRuntime) (kind : MessageKind) (destination : UInt16)
    (data : List UInt8) (associatedObjects : List UInt16) : GroupRuntime :=
  if h : associatedObjects.length ≤ maxInboundAssociatedGroupObjects ∧ data.length ≤ maxApduLength then
    if hroom : r.queue.length < inboundGroupEventQueueCapacity then
      { r with
        queue := r.queue ++ [⟨kind, destination, associatedObjects, data, h.1, h.2⟩]
        queue_bounded := by
          rw [List.length_append]
          exact hroom }
    else { r with droppedInboundGroupEvents := r.droppedInboundGroupEvents + 1 }
  else { r with droppedInboundGroupEvents := r.droppedInboundGroupEvents + 1 }

/-- The associated objects that `handleApplicationFrame` gathers: none without an entry, and none when
there are more than the buffer holds. -/
def associatedObjects (core : CoreObjects) (destination : UInt16) : List UInt16 :=
  let addressIndex := core.addressTable.findIndex destination
  if addressIndex = 0 then []
  else
    match core.associationTable.findGroupObjects addressIndex maxInboundAssociatedGroupObjects with
    | .error _ => []
    | .ok found => found

/-- `BusAccessUnit::handleApplicationFrame`. -/
def handleApplicationFrame (core : CoreObjects) (r : GroupRuntime) (destination : UInt16)
    (kind : MessageKind) (data : List UInt8) (destinationType : AddressType) : GroupRuntime :=
  if destinationType ≠ .group then r
  else if associatedObjects core destination = [] then r
  else
    match kind with
    | .unknown => r
    | .groupValueRead =>
        r.enqueueInboundGroupEvent kind destination [] (associatedObjects core destination)
    | .groupValueWrite | .groupValueResponse =>
        r.enqueueInboundGroupEvent kind destination data (associatedObjects core destination)

/-- The objects of a write or a response, one after the other: an index without an object is skipped,
and a value that an object rejects does not reach the firmware. -/
def offerValue (core : CoreObjects) (source : ValueSource) (data : List UInt8) :
    List UInt16 → GroupRuntime → GroupRuntime × List GroupAction
  | [], r => (r, [])
  | index :: rest, r =>
      match core.groupObjectTable.getGroupObject index with
      | none => offerValue core source data rest r
      | some object =>
          if receiveValue object data source then
            let later := offerValue core source data rest
              { r with values := Function.update r.values index (some data) }
            (later.1,
              .offered index source data
                :: (if source = .write then [.written index data] else []) ++ later.2)
          else
            let later := offerValue core source data rest r
            (later.1, .offered index source data :: later.2)

/-- The objects of a read: every readable one is announced, and the first one with a value answers. -/
def answerRead (core : CoreObjects) (r : GroupRuntime) (destination : UInt16)
    (objects : List UInt16) : List GroupAction :=
  let readable := objects.filter fun index =>
    (core.groupObjectTable.getGroupObject index).any GroupObjectDescriptor.readable
  readable.map .readRequested
    ++ ((readable.findSome? r.values).map fun value => .answered destination value).toList

/-- One event of the queue. -/
def dispatch (core : CoreObjects) (r : GroupRuntime) (event : PendingInboundGroupEvent) :
    GroupRuntime × List GroupAction :=
  match event.kind with
  | .unknown => (r, [])
  | .groupValueWrite => offerValue core .write event.data event.associatedObjects r
  | .groupValueResponse => offerValue core .response event.data event.associatedObjects r
  | .groupValueRead => (r, answerRead core r event.destination event.associatedObjects)

/-- The loop of `processInboundGroupEvents`, for some more events. -/
def processEvents (core : CoreObjects) : Nat → GroupRuntime → GroupRuntime × List GroupAction
  | 0, r => (r, [])
  | fuel + 1, r =>
      match r with
      | { values, queue := [], queue_bounded, droppedInboundGroupEvents } =>
          ({ values, queue := [], queue_bounded, droppedInboundGroupEvents }, [])
      | { values, queue := event :: rest, queue_bounded, droppedInboundGroupEvents } =>
          let taken : GroupRuntime :=
            { values, queue := rest
              queue_bounded := Nat.le_of_succ_le queue_bounded
              droppedInboundGroupEvents }
          let dispatched := taken.dispatch core event
          let later := processEvents core fuel dispatched.1
          (later.1, dispatched.2 ++ later.2)

/-- `processInboundGroupEvents`. -/
def processInboundGroupEvents (core : CoreObjects) (r : GroupRuntime) :
    GroupRuntime × List GroupAction :=
  processEvents core maxInboundGroupEventsPerLoop r

end GroupRuntime

/-- The group objects of a device in its Runtime; the rest of it is as given. -/
def Runtime.withGroupObjects (base : Runtime GroupRuntime) : Runtime GroupRuntime :=
  { base with
    handleApplicationFrame := fun core r destination service data destinationType =>
      r.handleApplicationFrame core destination (toBauMessageKind service) data destinationType
    receiveValue := fun core r index data =>
      (core.groupObjectTable.getGroupObject index).bind fun object =>
        if GroupRuntime.receiveValue object data .write then
          some { r with values := Function.update r.values index (some data) }
        else none }

/-! ## What a loop offers -/

/-- `getGroupObject` is not null. -/
def Exists (core : CoreObjects) (index : UInt16) : Bool :=
  (core.groupObjectTable.getGroupObject index).isSome

namespace GroupRuntime

/-- The offers that one event leads to. -/
def eventOffers (core : CoreObjects) (event : PendingInboundGroupEvent) : List GroupAction :=
  let offer := fun source =>
    (event.associatedObjects.filter (Exists core)).map (.offered · source event.data)
  match event.kind with
  | .groupValueWrite => offer .write
  | .groupValueResponse => offer .response
  | .unknown | .groupValueRead => []

variable (core : CoreObjects)

theorem offers_offerValue (source : ValueSource) (data : List UInt8) (objects : List UInt16) :
    ∀ r : GroupRuntime,
      offers (offerValue core source data objects r).2
          = (objects.filter (Exists core)).map (.offered · source data) := by
  induction objects with
  | nil =>
    intro r
    rfl
  | cons index rest ih =>
    intro r
    rw [offerValue]
    cases hobject : core.groupObjectTable.getGroupObject index with
    | none =>
      have hmissing : ¬ Exists core index = true := by
        rw [Exists, hobject]
        exact Bool.false_ne_true
      rw [List.filter_cons_of_neg hmissing]
      exact ih r
    | some object =>
      have hexists : Exists core index = true := by
        rw [Exists, hobject]
        rfl
      rw [List.filter_cons_of_pos hexists, List.map_cons]
      -- the write callback is no offer, so the three branches agree
      by_cases haccepted : receiveValue object data source = true
      · simp only [if_pos haccepted]
        cases source
        all_goals exact congrArg (List.cons _) (ih _)
      · simp only [if_neg haccepted]
        exact congrArg (List.cons _) (ih r)

theorem queue_offerValue (source : ValueSource) (data : List UInt8) (objects : List UInt16) :
    ∀ r : GroupRuntime, (offerValue core source data objects r).1.queue = r.queue := by
  induction objects with
  | nil =>
    intro r
    rfl
  | cons index rest ih =>
    intro r
    rw [offerValue]
    split
    · exact ih r
    · split
      · exact ih _
      · exact ih r

theorem offers_answerRead (r : GroupRuntime) (destination : UInt16) (objects : List UInt16) :
    offers (answerRead core r destination objects) = [] := by
  rw [answerRead, offers_append, offers, offers, List.append_eq_nil_iff]
  constructor
  · rw [List.filter_eq_nil_iff]
    intro action haction
    obtain ⟨index, -, rfl⟩ := List.mem_map.mp haction
    exact Bool.false_ne_true
  · rw [List.filter_eq_nil_iff]
    intro action haction
    obtain ⟨value, -, rfl⟩ := Option.map_eq_some_iff.mp (Option.mem_toList.mp haction)
    exact Bool.false_ne_true

theorem offers_dispatch (r : GroupRuntime) (event : PendingInboundGroupEvent) :
    offers (r.dispatch core event).2 = eventOffers core event := by
  rw [dispatch, eventOffers]
  cases event.kind with
  | unknown => rfl
  | groupValueWrite => exact offers_offerValue core .write event.data event.associatedObjects r
  | groupValueResponse => exact offers_offerValue core .response event.data event.associatedObjects r
  | groupValueRead => exact offers_answerRead core r event.destination event.associatedObjects

theorem queue_dispatch (r : GroupRuntime) (event : PendingInboundGroupEvent) :
    (r.dispatch core event).1.queue = r.queue := by
  rw [dispatch]
  cases event.kind with
  | unknown => rfl
  | groupValueWrite => exact queue_offerValue core .write event.data event.associatedObjects r
  | groupValueResponse => exact queue_offerValue core .response event.data event.associatedObjects r
  | groupValueRead => rfl

theorem offers_processEvents (fuel : Nat) :
    ∀ r : GroupRuntime,
      offers (processEvents core fuel r).2 = (r.queue.take fuel).flatMap (eventOffers core) := by
  induction fuel with
  | zero =>
    intro r
    rfl
  | succ fuel ih =>
    intro r
    obtain ⟨values, queue, hbounded, dropped⟩ := r
    cases queue with
    | nil => rfl
    | cons event rest =>
      rw [processEvents, offers_append, offers_dispatch, ih, queue_dispatch]
      rfl

theorem offers_processInboundGroupEvents (r : GroupRuntime) :
    offers (r.processInboundGroupEvents core).2 = r.queue.flatMap (eventOffers core) := by
  have hbounded := r.queue_bounded
  rw [processInboundGroupEvents, offers_processEvents, List.take_of_length_le]
  exact Nat.le_trans hbounded (by decide)

/-! ## What a telegram adds to the queue -/

theorem length_associatedObjects (destination : UInt16) :
    (associatedObjects core destination).length ≤ maxInboundAssociatedGroupObjects := by
  rw [associatedObjects]
  split
  · exact Nat.zero_le _
  · split
    · exact Nat.zero_le _
    · rename_i found hfound
      rw [AssociationTable.findGroupObjects] at hfound
      split at hfound
      · cases hfound
      · rename_i hfits
        cases hfound
        exact Nat.le_of_not_lt hfits

theorem offers_write (r : GroupRuntime) (destination : UInt16) (data : List UInt8)
    (hdata : data.length ≤ maxApduLength)
    (hroom : r.queue.length < inboundGroupEventQueueCapacity) :
    offers ((r.handleApplicationFrame core destination .groupValueWrite data
          .group).processInboundGroupEvents core).2
      = offers (r.processInboundGroupEvents core).2
        ++ ((associatedObjects core destination).filter (Exists core)).map
            (.offered · .write data) := by
  rw [offers_processInboundGroupEvents, offers_processInboundGroupEvents, handleApplicationFrame,
    if_neg (not_not_intro rfl)]
  by_cases hnone : associatedObjects core destination = []
  · rw [if_pos hnone, hnone]
    exact (List.append_nil _).symm
  · rw [if_neg hnone]
    rw [enqueueInboundGroupEvent, dif_pos ⟨length_associatedObjects core destination, hdata⟩,
      dif_pos hroom, List.flatMap_append, List.flatMap_singleton]
    rfl

/-! ## The lookup -/

/-- The associations that name an entry with an address and an object that exists. -/
def associationsOf (destination : UInt16) : List AssociationEntry :=
  core.associationTable.entries.filter fun association =>
    core.addressTable.entryAt association.addressIndex == some destination
      && Exists core association.groupObjectNumber

/-- The associations of the first entry that has an address. -/
def associationsOfFirst (destination : UInt16) : List AssociationEntry :=
  core.associationTable.entries.filter
    (·.addressIndex == core.addressTable.findIndex destination)

/-- The telegrams that arrive: no association asks for the address, or at most sixteen name its
first entry, with those whose object is missing, and none of the others names a later entry. -/
def Deliverable (destination : UInt16) : Prop :=
  associationsOf core destination = [] ∨
    (associationsOfFirst core destination).length ≤ maxInboundAssociatedGroupObjects ∧
      ∀ association ∈ associationsOf core destination,
        association.addressIndex = core.addressTable.findIndex destination

instance (destination : UInt16) : Decidable (Deliverable core destination) :=
  inferInstanceAs (Decidable (_ ∨ _))

theorem associationsOf_eq_nil {destination : UInt16}
    (hfind : core.addressTable.findIndex destination = 0) : associationsOf core destination = [] := by
  rw [associationsOf, List.filter_eq_nil_iff]
  intro association _ hasked
  rw [Bool.and_eq_true, beq_iff_eq] at hasked
  exact AddressTable.entryAt_ne_of_findIndex hfind association.addressIndex hasked.1

theorem filter_associationsOfFirst {destination : UInt16}
    (hfind : core.addressTable.findIndex destination ≠ 0) :
    (associationsOfFirst core destination).filter (fun a => Exists core a.groupObjectNumber)
      = (associationsOf core destination).filter
          (·.addressIndex == core.addressTable.findIndex destination) := by
  rw [associationsOfFirst, associationsOf, List.filter_filter, List.filter_filter]
  apply List.filter_congr
  intro association _
  rw [Bool.and_comm]
  by_cases hfirst : association.addressIndex = core.addressTable.findIndex destination
  · rw [hfirst, AddressTable.entryAt_findIndex hfind, beq_self_eq_true, beq_self_eq_true,
      Bool.true_and, Bool.true_and]
  · rw [beq_false_of_ne hfirst]
    rfl

theorem filter_associatedObjects {destination : UInt16}
    (hfind : core.addressTable.findIndex destination ≠ 0) :
    (associatedObjects core destination).filter (Exists core)
      = if (associationsOfFirst core destination).length ≤ maxInboundAssociatedGroupObjects then
          ((associationsOf core destination).filter
            (·.addressIndex == core.addressTable.findIndex destination)).map
              (·.groupObjectNumber)
        else [] := by
  rw [associatedObjects, if_neg hfind, AssociationTable.findGroupObjects, ← associationsOfFirst,
    List.length_map]
  by_cases hfits :
      (associationsOfFirst core destination).length ≤ maxInboundAssociatedGroupObjects
  · rw [if_neg (Nat.not_lt.mpr hfits), if_pos hfits, ← filter_associationsOfFirst core hfind]
    exact List.filter_map
  · rw [if_pos (Nat.lt_of_not_le hfits), if_neg hfits]
    rfl

theorem perm_offered_iff (destination : UInt16) (data : List UInt8) :
    (((associatedObjects core destination).filter (Exists core)).map
        (GroupAction.offered · .write data)).Perm
      ((associationsOf core destination).map fun association =>
        .offered association.groupObjectNumber .write data)
      ↔ Deliverable core destination := by
  rw [Deliverable]
  by_cases hfind : core.addressTable.findIndex destination = 0
  · rw [associationsOf_eq_nil core hfind, associatedObjects, if_pos hfind]
    exact iff_of_true (List.Perm.refl _) (Or.inl rfl)
  · rw [filter_associatedObjects core hfind]
    by_cases hfits :
        (associationsOfFirst core destination).length ≤ maxInboundAssociatedGroupObjects
    · rw [if_pos hfits, List.map_map]
      constructor
      · intro hperm
        -- a part of a list that is as long as the list is all of it
        have hlength := hperm.length_eq
        rw [List.length_map, List.length_map, List.length_filter_eq_length_iff] at hlength
        refine Or.inr ⟨hfits, ?_⟩
        intro association hmem
        exact beq_iff_eq.mp (hlength association hmem)
      · rintro (hnone | ⟨-, hfirst⟩)
        · rw [hnone]
          exact List.Perm.refl _
        · rw [List.filter_eq_self.mpr]
          · exact List.Perm.refl _
          · intro association hmem
            exact beq_iff_eq.mpr (hfirst association hmem)
    · rw [if_neg hfits, List.map_nil, List.nil_perm, List.map_eq_nil_iff]
      constructor
      · exact Or.inl
      · rintro (hnone | ⟨hfew, -⟩)
        · exact hnone
        · exact absurd hfew hfits

end GroupRuntime

/-! ## Telegrams to a device -/

theorem length_decodeTransportRx {frame : TDataFrame} {telegram : ADataFrame}
    (hdecode : decodeTransportRx frame = some telegram) : telegram.data.length ≤ maxApduLength := by
  rw [decodeTransportRx] at hdecode
  split at hdecode
  · rw [Option.some.injEq] at hdecode
    subst hdecode
    rename_i octet0 octet1 payload _
    generalize (if (serviceOf (unpackTpduHeader octet0 octet1).apci).usesApciData6 then
      [data6Of (unpackTpduHeader octet0 octet1).apci] else []) ++ payload = octets
    dsimp only
    split
    · rw [List.length_singleton]
      decide
    · rw [List.length_take]
      exact Nat.min_le_left _ _
  · cases hdecode

/-- A device whose group objects take part in its services. -/
abbrev GroupDevice : Type := ManagedDevice (CoreObjects × GroupRuntime)

namespace ManagedDevice

/-- `handleTransportRx` of a device with group objects. -/
def receiveTelegram (base : Runtime GroupRuntime) (schema : ReferenceSchema) (d : GroupDevice)
    (frame : TDataFrame) : GroupDevice :=
  (d.handleTransportRx (coreBackend base.withGroupObjects schema) frame).1

/-- What the group objects are offered when the loop comes to the queue. -/
def offered (d : GroupDevice) : List GroupAction :=
  offers (d.others.2.processInboundGroupEvents d.others.1).2

/-- What the three tables ask for: one offer for each association. -/
def asked (d : GroupDevice) (destination : UInt16) (data : List UInt8) : List GroupAction :=
  (GroupRuntime.associationsOf d.others.1 destination).map fun association =>
    .offered association.groupObjectNumber .write data

theorem offered_receiveTelegram (base : Runtime GroupRuntime) (schema : ReferenceSchema)
    {d : GroupDevice} {frame : TDataFrame} {telegram : ADataFrame}
    (hdecode : decodeTransportRx frame = some telegram)
    (hservice : telegram.service = .groupValueWrite) (hgroup : telegram.destinationType = .group)
    (hroom : d.others.2.queue.length < inboundGroupEventQueueCapacity) :
    (receiveTelegram base schema d frame).offered
      = d.offered
        ++ ((GroupRuntime.associatedObjects d.others.1 telegram.destination.raw).filter
            (Exists d.others.1)).map (.offered · .write telegram.data) := by
  have hpermitted : d.isRequestPermitted telegram = true := by
    rw [isRequestPermitted, hservice]
    rfl
  rw [receiveTelegram, handleTransportRx, hdecode]
  dsimp only
  rw [if_pos hpermitted, dispatchService.eq_def, hservice]
  dsimp only [forwardToUser, coreBackend, Runtime.withGroupObjects, offered]
  rw [hservice, hgroup]
  exact GroupRuntime.offers_write d.others.1 d.others.2 telegram.destination.raw telegram.data
    (length_decodeTransportRx hdecode) hroom

/-- Group delivery. A written value is offered once for every association that names an entry with
its address and an object that exists, and to no other object, exactly for the telegrams that
arrive. -/
theorem telegram_delivered_iff (base : Runtime GroupRuntime) (schema : ReferenceSchema)
    (d : GroupDevice) (frame : TDataFrame) {telegram : ADataFrame}
    (hdecode : decodeTransportRx frame = some telegram)
    (hservice : telegram.service = .groupValueWrite) (hgroup : telegram.destinationType = .group)
    (hroom : d.others.2.queue.length < inboundGroupEventQueueCapacity) :
    (receiveTelegram base schema d frame).offered.Perm
        (d.offered ++ d.asked telegram.destination.raw telegram.data)
      ↔ GroupRuntime.Deliverable d.others.1 telegram.destination.raw := by
  rw [offered_receiveTelegram base schema hdecode hservice hgroup hroom,
    List.perm_append_left_iff]
  exact GroupRuntime.perm_offered_iff d.others.1 telegram.destination.raw telegram.data

/-- A device with writable group objects, one group address for each entry and some associations. -/
def groupSample (addresses : List UInt16) (associations : List AssociationEntry) (objects : Nat)
    (haddresses : addresses.length ≤ 256 := by decide)
    (hassociations : associations.length ≤ 512 := by decide) : GroupDevice :=
  { others :=
      ({ addressTable := { entries := addresses, bounded := haddresses }
         associationTable := { entries := associations, bounded := hassociations }
         groupObjectTable := { objects := List.replicate objects { flags := 0x14 } } }, {}) }

/-- A_GroupValue_Write of the value one to 1/1/1. -/
def switchOnFrame : TDataFrame :=
  { destination := ⟨0x0901⟩, tpdu := ⟨[0x00, 0x81], by decide⟩ }

/-- Two objects on one address are both offered the value. -/
theorem two_objects_delivered :
    (receiveTelegram {} (fun _ => []) (groupSample [0x0901] [⟨1, 0⟩, ⟨1, 1⟩] 2)
        switchOnFrame).offered.Perm
      [.offered 0 .write [1], .offered 1 .write [1]] :=
  (telegram_delivered_iff {} (fun _ => []) (groupSample [0x0901] [⟨1, 0⟩, ⟨1, 1⟩] 2)
    switchOnFrame rfl rfl rfl (by decide)).mpr (by decide +kernel)

/-- Seventeen objects on one address are not offered anything, and an association with the second of
two equal entries is not found. -/
theorem crowded_address_undelivered :
    ¬ (receiveTelegram {} (fun _ => [])
          (groupSample [0x0901] ((List.range 17).map fun i => ⟨1, UInt16.ofNat i⟩) 17)
          switchOnFrame).offered.Perm
        ((groupSample [0x0901] ((List.range 17).map fun i => ⟨1, UInt16.ofNat i⟩) 17).asked
          0x0901 [1])
      ∧ ¬ (receiveTelegram {} (fun _ => []) (groupSample [0x0901, 0x0901] [⟨1, 0⟩, ⟨2, 1⟩] 2)
          switchOnFrame).offered.Perm
        ((groupSample [0x0901, 0x0901] [⟨1, 0⟩, ⟨2, 1⟩] 2).asked 0x0901 [1]) := by
  constructor
  all_goals decide +kernel

end ManagedDevice

end KnxStack.Bau
