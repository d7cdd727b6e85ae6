import KnxStack.Bau.TableWrites

/-!
# Downloading a table

A management client loads a table in a session: a load event that starts it, then content, then the
event that completes it. The content comes by memory writes to the segment of the table, or by writes
of `PID_TABLE`, and the last event applies the segment in both cases.

The segment is applied entry by entry with an insertion that skips what the table has already, and
for associations what is not valid. So entries come as they were sent just when none is skipped, and
what property writes left is kept just when the segment says the same: `download_faithful_iff`.
-/

set_option autoImplicit false

namespace KnxStack.Bau

open KnxStack.Application KnxStack.Lib KnxStack.Lib.Growing KnxStack.Lib.Octets KnxStack.Objects

variable {τ : Type}

/-! ## Sessions -/

/-- What comes between the start and the end of a load. -/
inductive Content where
  /-- A_Memory_Write. -/
  | memory (address : UInt16) (data : List UInt8)
  /-- A write of `PID_TABLE`. -/
  | table (startIndex : Nat) (value : List UInt8)

/-- The operation that content is for the object at an index. -/
def Content.operation (objectIndex : UInt8) : Content → Operation
  | .memory address data => .writeMemory address data
  | .table startIndex value => .writeProperty objectIndex 23 startIndex value

namespace ManagedDevice

/-- A load event: `PID_LOAD_STATE_CONTROL` takes the event and what follows it in its block. -/
def loadEvent (config : Configuration τ) (objectIndex event : UInt8) (block : List UInt8)
    (d : ManagedDevice (CoreObjects × τ)) : ManagedDevice (CoreObjects × τ) :=
  d.apply config.backend (.writeProperty objectIndex 5 1 (event :: block))

/-- A session up to its last event. -/
def loading (config : Configuration τ) (objectIndex : UInt8) (block : List UInt8)
    (contents : List Content) (d : ManagedDevice (CoreObjects × τ)) :
    ManagedDevice (CoreObjects × τ) :=
  contents.foldl (fun d content => d.apply config.backend (content.operation objectIndex))
    (d.loadEvent config objectIndex 1 block)

/-! ## The layout of the memory -/

/-- The segments and the interface objects are those that the device was built with. -/
structure Laid (config : Configuration τ) (d : ManagedDevice (CoreObjects × τ)) : Prop where
  memory : d.memory.map layout = tableSegments.map layout
  objectTypes : d.objectTypes = [0, 1, 2, 9, 3, 17] ++ config.referenceTypes

section Laid

variable (config : Configuration τ) {d : ManagedDevice (CoreObjects × τ)}

theorem laid_boot (store : Store) : (config.boot store).Laid config := ⟨rfl, rfl⟩

theorem Laid.of_same {d' : ManagedDevice (CoreObjects × τ)} (h : d.Laid config)
    (hmemory : d'.memory = d.memory) (htypes : d'.objectTypes = d.objectTypes) : d'.Laid config :=
  ⟨by rw [hmemory, h.memory], by rw [htypes, h.objectTypes]⟩

theorem Laid.deviceObjectCallbacks (h : d.Laid config) (others : CoreObjects × τ) :
    (d.deviceObjectCallbacks config.backend others).Laid config := by
  rw [ManagedDevice.deviceObjectCallbacks]
  split
  · exact h.of_same config rfl rfl
  · exact h.of_same config rfl rfl

theorem Laid.flushPersistenceIfDirty (h : d.Laid config) :
    (d.flushPersistenceIfDirty config.backend).Laid config := by
  rw [ManagedDevice.flushPersistenceIfDirty]
  split
  · exact h.of_same config rfl rfl
  · exact h.of_same config rfl rfl

theorem Laid.loop (h : d.Laid config) (nowMs : UInt32) :
    (d.loop config.backend nowMs).Laid config := by
  rw [ManagedDevice.loop, ManagedDevice.pumpPersistence]
  split
  · exact h.of_same config rfl rfl
  · exact h.of_same config rfl rfl

theorem Laid.effect (h : d.Laid config) {operation : Operation}
    {d' : ManagedDevice (CoreObjects × τ)} (heffect : Effect config d operation d') :
    d'.Laid config := by
  cases heffect with
  | refused => exact h
  | elsewhere => exact h.of_same config rfl rfl
  | memory address data =>
    refine ⟨?_, h.objectTypes⟩
    cases hwritten : writeMemory address data d.memory with
    | none => exact h.memory
    | some memory =>
      rw [Option.getD_some, layout_writeMemory hwritten]
      exact h.memory
  | securityFunction => exact h.of_same config rfl rfl
  | securityWrite => exact h.of_same config rfl rfl
  | deviceWrite => exact h.deviceObjectCallbacks config _
  | tableWrite objectIndex propertyId startIndex value objectType core d' hdevice hsecurity hwritten
      hindex htable =>
    exact h.of_same config htable.memory htable.objectTypes
  | addressRefused => exact h.of_same config rfl rfl
  | addressTaken address =>
    have htaken : ({ d with ownAddress := address } : ManagedDevice (CoreObjects × τ)).Laid config :=
      h.of_same config rfl rfl
    exact htaken.deviceObjectCallbacks config _
  | flushed => exact (h.flushPersistenceIfDirty config).of_same config rfl rfl

theorem Laid.managedStep (h : d.Laid config) (event : ManagedEvent τ) :
    (managedStep config d event).Laid config := by
  cases event with
  | frame frame =>
    rw [Bau.managedStep, handleTransportRx_fst]
    exact h.effect config (effect_apply config d _)
  | loop nowMs => exact h.loop config nowMs
  | flush => exact h.flushPersistenceIfDirty config
  | setProgMode enable => exact h.deviceObjectCallbacks config _
  | runtime state => exact h.of_same config rfl rfl
  | reboot => exact laid_boot config d.device.store

theorem laid_run (store : Store) (events : List (ManagedEvent τ)) :
    (run (Bau.managedStep config) (config.boot store) events).Laid config := by
  have hstep : ∀ (d : ManagedDevice (CoreObjects × τ)) (event : ManagedEvent τ),
      d.Laid config → (Bau.managedStep config d event).Laid config :=
    fun d event h => h.managedStep config event
  exact run_invariant hstep (laid_boot config store) events

end Laid

/-! ## The last event -/

/-- The octets of the segment at an address. -/
def segmentContent (d : ManagedDevice (CoreObjects × τ)) (base : UInt16) : List UInt8 :=
  ((segmentAt d.memory base).map fun segment => segment.storage).getD []

theorem writeProperty_loadEvent (schema : ReferenceSchema) {D : Type} {loadable : Loadable D}
    {get : CoreObjects → D} {set : CoreObjects → D → CoreObjects} {objectType : UInt16}
    {p : ObjectProperty} (hfind : findProperty schema objectType 5 = some p)
    (hp : p.handler = (loadable.handler 5).lift get set) (hdevice : p.objectType ≠ 0)
    (o : CoreObjects) (event : UInt8) {block : List UInt8} (hblock : block.length < 10) :
    o.writeProperty schema objectType 5 1 (event :: block)
      = some (set o (loadable.applyLoadControlEvent (get o) event)) := by
  have hhandler : p.handler.writeProperty o 1 (event :: block)
      = some (set o (loadable.applyLoadControlEvent (get o) event)) := by
    have hrefused : ¬(1 ≠ 1 ∨ event :: block = []
        ∨ Handler.maxControlBlockOctets < (event :: block).length) := by
      rintro (hstart | hempty | hlong)
      · exact hstart rfl
      · cases hempty
      · exact absurd hblock (Nat.not_lt.mpr (Nat.le_of_lt_succ hlong))
    rw [hp, Handler.writeProperty_lift, Handler.writeProperty, if_neg (by decide),
      if_neg (show ¬(!(loadable.handler 5).capability.canWrite) = true from Bool.false_ne_true),
      if_pos (show (loadable.handler 5).type = 0x00 from rfl), if_neg hrefused]
    rfl
  rw [CoreObjects.writeProperty, hfind]
  split
  · rename_i hnone
    cases hnone
  · rename_i hsubnet
    cases hsubnet
    exact absurd rfl hdevice
  · rename_i haddress
    cases haddress
    exact absurd rfl hdevice
  · rename_i q _ _ hq
    cases hq
    rw [if_neg Nat.one_ne_zero]
    exact hhandler

theorem writeProperty_addressEvent (schema : ReferenceSchema) (o : CoreObjects) (event : UInt8)
    {block : List UInt8} (hblock : block.length < 10) :
    o.writeProperty schema 1 5 1 (event :: block)
      = some { o with
        addressTable := LoadableTable.loadable.applyLoadControlEvent o.addressTable event } :=
  writeProperty_loadEvent schema (p := .addressTable .loadState) rfl rfl (by decide) o event hblock

theorem writeProperty_associationEvent (schema : ReferenceSchema) (o : CoreObjects) (event : UInt8)
    {block : List UInt8} (hblock : block.length < 10) :
    o.writeProperty schema 2 5 1 (event :: block)
      = some { o with
        associationTable := LoadableTable.loadable.applyLoadControlEvent o.associationTable event } :=
  writeProperty_loadEvent schema (p := .associationTable .loadState) rfl rfl (by decide) o event
    hblock

section Completed

variable (config : Configuration τ) {d : ManagedDevice (CoreObjects × τ)}

theorem loadEvent_tableWritten {objectIndex event : UInt8} {block : List UInt8}
    {objectType : UInt16} {core : CoreObjects}
    (hindex : d.resolveObjectType objectIndex = some objectType) (hdevice : objectType ≠ 0)
    (hsecurity : objectType ≠ securityInterfaceObjectType)
    (hwritten : d.core.writeProperty config.schema objectType 5 1 (event :: block) = some core) :
    TableWritten objectType 5 (event :: block) core d (d.loadEvent config objectIndex event block) := by
  rw [loadEvent, apply_writeProperty config hindex hsecurity hwritten]
  exact afterOtherWrite_cases config d
    ((CoreObjects.keepsOthers_writeProperty config.schema hwritten).deviceObject hdevice)

theorem Laid.segmentAt (h : d.Laid config) {base : UInt16} {segment : MemorySegment}
    (hbase : Objects.segmentAt tableSegments base = some segment) :
    ∃ segment', Objects.segmentAt d.memory base = some segment' ∧ layout segment' = layout segment := by
  have hfind : ∀ memory : Memory, (Objects.segmentAt memory base).map layout
      = (memory.map layout).find? fun place => place.1.startAddress == base := by
    intro memory
    rw [List.find?_map]
    rfl
  have hsame := hfind d.memory
  rw [h.memory, ← hfind tableSegments, hbase, Option.map_some] at hsame
  exact Option.map_eq_some_iff.mp hsame

theorem addressTable_completed (h : d.Laid config) {block : List UInt8} (hblock : block.length < 10) :
    (d.loadEvent config 1 2 block).core.addressTable.entries
      = (LoadableTable.segmentEntries groupAddressFormat (d.segmentContent 0x4000)).foldl insertNew
          [] := by
  have hindex : d.resolveObjectType 1 = some 1 := by
    rw [resolveObjectType, h.objectTypes]
    rfl
  have hwritten := writeProperty_addressEvent config.schema d.core 2 hblock
  have htable := loadEvent_tableWritten config hindex (by decide) (by decide) hwritten
  obtain ⟨segment, hsegment, -⟩ := h.segmentAt config
    (show Objects.segmentAt tableSegments 0x4000 = some _ from rfl)
  have hcontent : d.segmentContent 0x4000 = segment.storage := by
    rw [segmentContent, hsegment]
    rfl
  rw [htable.core, hcontent, afterLoad, if_pos (by rfl), CoreObjects.applyLoadedTableSegment]
  rw [show tableSegmentBase 1 = 0x4000 from rfl, hsegment]
  exact AddressTable.entries_applySegment _ segment.storage

theorem associationTable_completed (h : d.Laid config) {block : List UInt8}
    (hblock : block.length < 10) :
    (d.loadEvent config 2 2 block).core.associationTable.entries
      = ((LoadableTable.segmentEntries associationFormat (d.segmentContent 0x4400)).filter
          AssociationEntry.isValid).foldl insertNew [] := by
  have hindex : d.resolveObjectType 2 = some 2 := by
    rw [resolveObjectType, h.objectTypes]
    rfl
  have hwritten := writeProperty_associationEvent config.schema d.core 2 hblock
  have htable := loadEvent_tableWritten config hindex (by decide) (by decide) hwritten
  obtain ⟨segment, hsegment, -⟩ := h.segmentAt config
    (show Objects.segmentAt tableSegments 0x4400 = some _ from rfl)
  have hcontent : d.segmentContent 0x4400 = segment.storage := by
    rw [segmentContent, hsegment]
    rfl
  rw [htable.core, hcontent, afterLoad, if_pos (by rfl), CoreObjects.applyLoadedTableSegment]
  rw [show tableSegmentBase 2 = 0x4400 from rfl, hsegment]
  exact AssociationTable.entries_applySegment _ segment.storage

end Completed

/-! ## Content -/

section Content

variable (config : Configuration τ) {d : ManagedDevice (CoreObjects × τ)}

theorem memory_deviceObjectCallbacks (others : CoreObjects × τ) :
    (d.deviceObjectCallbacks config.backend others).memory = d.memory := by
  rw [ManagedDevice.deviceObjectCallbacks]
  split <;> rfl

theorem memory_writeProperty {objectIndex propertyId : UInt8} {startIndex : Nat}
    {value : List UInt8} {d' : ManagedDevice (CoreObjects × τ)}
    (heffect : Effect config d (.writeProperty objectIndex propertyId startIndex value) d') :
    d'.memory = d.memory := by
  cases heffect with
  | refused | elsewhere | securityWrite => rfl
  | deviceWrite => exact memory_deviceObjectCallbacks config _
  | tableWrite _ _ _ _ _ _ _ _ _ _ _ htable => exact htable.memory

theorem Laid.apply (h : d.Laid config) (operation : Operation) :
    (d.apply config.backend operation).Laid config :=
  h.effect config (effect_apply config d operation)

theorem Laid.loading (h : d.Laid config) (objectIndex : UInt8) (block : List UInt8)
    (contents : List Content) : (d.loading config objectIndex block contents).Laid config := by
  have hstep : ∀ (d : ManagedDevice (CoreObjects × τ)) (content : Content), d.Laid config →
      (d.apply config.backend (content.operation objectIndex)).Laid config :=
    fun d content h => h.apply config _
  exact run_invariant hstep (h.apply config _) contents

theorem memory_loading {contents : List Content}
    (hcontents : ∀ content ∈ contents, ∃ startIndex value, content = .table startIndex value)
    (objectIndex : UInt8) (block : List UInt8) :
    (d.loading config objectIndex block contents).memory = d.memory := by
  have hstart : (d.loadEvent config objectIndex 1 block).memory = d.memory :=
    memory_writeProperty config (effect_apply config d _)
  have hstep : ∀ (d' : ManagedDevice (CoreObjects × τ)) (content : Content),
      d'.memory = d.memory → (∃ startIndex value, content = .table startIndex value) →
      (d'.apply config.backend (content.operation objectIndex)).memory = d.memory := by
    rintro d' _ hsame ⟨startIndex, value, rfl⟩
    exact (memory_writeProperty config (effect_apply config d' _)).trans hsame
  exact run_invariant_along hstep hstart (along_of_forall_mem _ hcontents)

end Content

end ManagedDevice

/-! ## Whole sessions -/

/-- What a session of a table shows: the segment before it and at its last event, and the entries
before and after that event. -/
structure Session (α : Type) where
  stale : List UInt8
  segment : List UInt8
  before : List α
  after : List α

/-- A session of the address table. -/
def addressSession (config : Configuration τ) (block : List UInt8) (contents : List Content)
    (block' : List UInt8) (d : ManagedDevice (CoreObjects × τ)) : Session UInt16 :=
  let loading := d.loading config 1 block contents
  { stale := d.segmentContent 0x4000
    segment := loading.segmentContent 0x4000
    before := loading.core.addressTable.entries
    after := (loading.loadEvent config 1 2 block').core.addressTable.entries }

/-- A session of the association table. -/
def associationSession (config : Configuration τ) (block : List UInt8) (contents : List Content)
    (block' : List UInt8) (d : ManagedDevice (CoreObjects × τ)) : Session AssociationEntry :=
  let loading := d.loading config 2 block contents
  { stale := d.segmentContent 0x4400
    segment := loading.segmentContent 0x4400
    before := loading.core.associationTable.entries
    after := (loading.loadEvent config 2 2 block').core.associationTable.entries }

/-- As many entries as the segment announces, and each in its place. -/
def Session.Announced {α : Type} (format : EntryFormat α) (session : Session α) : Prop :=
  session.after.length = (wordAt session.segment 0).toNat
    ∧ ∀ i < (wordAt session.segment 0).toNat, session.after[i]?
      = some (format.decode (slice session.segment (2 + i * format.size) format.size))

/-- The last event leaves the entries. -/
def Session.Kept {α : Type} (session : Session α) : Prop := session.after = session.before

/-- Content that comes by property writes only. -/
def ByProperty (contents : List Content) : Prop :=
  ∀ content ∈ contents, ∃ startIndex value, content = .table startIndex value

/-- The entries that the segment announces, at the last event and before the session. -/
def Session.sent {α : Type} (format : EntryFormat α) (session : Session α) : List α :=
  LoadableTable.segmentEntries format session.segment

def Session.left {α : Type} (format : EntryFormat α) (session : Session α) : List α :=
  LoadableTable.segmentEntries format session.stale

theorem announced_iff {α : Type} {format : EntryFormat α} {session : Session α}
    (hcount : (wordAt session.segment 0).toNat ≤ format.maxEntries) :
    session.Announced format ↔ session.after = session.sent format := by
  have hannounced : LoadableTable.segmentCount format session.segment
      = (wordAt session.segment 0).toNat := Nat.min_eq_left hcount
  constructor
  · rintro ⟨hlength, hentries⟩
    apply List.ext_getElem?
    intro i
    rw [Session.sent, LoadableTable.segmentEntries, EntryFormat.getElem?_decodeEntries, hannounced]
    by_cases hi : i < (wordAt session.segment 0).toNat
    · rw [if_pos hi, hentries i hi]
    · rw [if_neg hi, List.getElem?_eq_none (by omega)]
  · intro hafter
    rw [Session.Announced, hafter, Session.sent, LoadableTable.segmentEntries,
      EntryFormat.length_decodeEntries,
      hannounced]
    refine ⟨rfl, ?_⟩
    intro i hi
    rw [EntryFormat.getElem?_decodeEntries, if_pos hi]

theorem foldl_filter_eq_self_iff {α : Type} [DecidableEq α] (valid : α → Bool) (l : List α) :
    (l.filter valid).foldl insertNew [] = l ↔ (∀ a ∈ l, valid a = true) ∧ l.Nodup := by
  constructor
  · intro hself
    have hlength := length_foldl_insertNew_le (l.filter valid) []
    rw [hself, List.length_nil, Nat.zero_add] at hlength
    have hfilter : l.filter valid = l :=
      List.Sublist.eq_of_length_le List.filter_sublist hlength
    rw [hfilter] at hself
    exact ⟨List.filter_eq_self.mp hfilter, (foldl_insertNew_eq_self_iff l).mp hself⟩
  · rintro ⟨hvalid, hnodup⟩
    rw [List.filter_eq_self.mpr hvalid]
    exact (foldl_insertNew_eq_self_iff l).mpr hnodup

section Sessions

variable (config : Configuration τ) {d : ManagedDevice (CoreObjects × τ)} {block : List UInt8}
  (contents : List Content) {block' : List UInt8}

theorem after_addressSession (h : d.Laid config) (hblock' : block'.length < 10) :
    (addressSession config block contents block' d).after
      = ((addressSession config block contents block' d).sent groupAddressFormat).foldl insertNew
          [] :=
  ManagedDevice.addressTable_completed config (h.loading config 1 block contents) hblock'

theorem after_associationSession (h : d.Laid config) (hblock' : block'.length < 10) :
    (associationSession config block contents block' d).after
      = (((associationSession config block contents block' d).sent associationFormat).filter
          AssociationEntry.isValid).foldl insertNew [] :=
  ManagedDevice.associationTable_completed config (h.loading config 2 block contents) hblock'

variable {contents}

theorem segment_addressSession (hcontents : ByProperty contents) :
    (addressSession config block contents block' d).segment
      = (addressSession config block contents block' d).stale := by
  simp only [addressSession, ManagedDevice.segmentContent]
  rw [ManagedDevice.memory_loading config hcontents]

theorem segment_associationSession (hcontents : ByProperty contents) :
    (associationSession config block contents block' d).segment
      = (associationSession config block contents block' d).stale := by
  simp only [associationSession, ManagedDevice.segmentContent]
  rw [ManagedDevice.memory_loading config hcontents]

end Sessions

/-- A download gives the table that was sent just when no entry of the segment is skipped: the
addresses are distinct, the associations valid and distinct. What property writes made is kept just
when the segment, as older sessions left it, has the same entries. -/
theorem download_faithful_iff (config : Configuration τ) (store : Store)
    (events : List (ManagedEvent τ)) (contents : List Content) (block block' : List UInt8)
    (hblock' : block'.length < 10) {d : ManagedDevice (CoreObjects × τ)}
    (hd : d = run (managedStep config) (config.boot store) events)
    {a : Session UInt16} (ha : a = addressSession config block contents block' d)
    {b : Session AssociationEntry} (hb : b = associationSession config block contents block' d) :
    ((wordAt a.segment 0).toNat ≤ 256 →
        (a.Announced groupAddressFormat ↔ (a.sent groupAddressFormat).Nodup))
      ∧ (ByProperty contents →
        (a.Kept ↔ a.before = (a.left groupAddressFormat).foldl insertNew []))
      ∧ ((wordAt b.segment 0).toNat ≤ 512 →
        (b.Announced associationFormat
          ↔ (∀ entry ∈ b.sent associationFormat, entry.isValid = true)
            ∧ (b.sent associationFormat).Nodup))
      ∧ (ByProperty contents →
        (b.Kept
          ↔ b.before = ((b.left associationFormat).filter AssociationEntry.isValid).foldl insertNew
            [])) := by
  have hlaid : d.Laid config := hd ▸ ManagedDevice.laid_run config store events
  subst ha hb
  refine ⟨?_, ?_, ?_, ?_⟩
  · intro hcount
    rw [announced_iff hcount, after_addressSession config contents hlaid hblock']
    exact foldl_insertNew_eq_self_iff _
  · intro hcontents
    rw [Session.Kept, after_addressSession config contents hlaid hblock', Session.sent,
      segment_addressSession config hcontents]
    exact eq_comm
  · intro hcount
    rw [announced_iff hcount, after_associationSession config contents hlaid hblock']
    exact foldl_filter_eq_self_iff _ _
  · intro hcontents
    rw [Session.Kept, after_associationSession config contents hlaid hblock', Session.sent,
      segment_associationSession config hcontents]
    exact eq_comm

/-- A device as it comes. -/
def sampleBlank : Configuration Unit := { state := () }

/-- Two group addresses, sent to the segment. -/
def twoAddresses : List Content := [.memory 0x4000 [0x00, 0x02, 0x09, 0x01, 0x09, 0x02]]

/-- Two addresses come as they were sent. -/
theorem download_of_two_addresses :
    (addressSession sampleBlank [] twoAddresses [] (sampleBlank.boot fun _ => none)).Announced
      groupAddressFormat := by
  have hfaithful := download_faithful_iff sampleBlank (fun _ => none) [] twoAddresses [] []
    (by decide) rfl rfl rfl
  exact (hfaithful.1 (by decide +kernel)).mpr (by decide +kernel)

/-- Of three addresses the second is sent again: the third comes one place early. And an address that
was written by property is gone. -/
theorem repeated_address_skipped :
    ¬ (addressSession sampleBlank []
        [.memory 0x4000 [0x00, 0x03, 0x09, 0x01, 0x09, 0x01, 0x09, 0x02]] []
        (sampleBlank.boot fun _ => none)).Announced groupAddressFormat
      ∧ ¬ (addressSession sampleBlank [] [.table 1 [0x09, 0x01]] []
        (sampleBlank.boot fun _ => none)).Kept := by
  rw [Session.Announced, Session.Kept]
  decide +kernel

end KnxStack.Bau
