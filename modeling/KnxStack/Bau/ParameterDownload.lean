import KnxStack.Bau.Download

/-!
# Downloading parameters

The parameters of the application lie in a segment that a management client writes in part or as a
whole; the event that completes the load copies the segment to the program data. The segment starts
as zeros at every start of the device and the program data comes from the store, so the two differ
after a restart. `parameters_replaced_iff` says when a session replaces the octets it has written and
no others.
-/

set_option autoImplicit false

namespace KnxStack.Bau

open KnxStack.Application KnxStack.Lib KnxStack.Lib.Octets KnxStack.Objects

variable {τ : Type}

/-- A_Memory_Write into the segment of the parameters. -/
structure ParameterWrite where
  offset : Nat
  octets : List UInt8
  nonempty : octets ≠ []
  fits : offset + octets.length ≤ 0x100

/-- The memory write that it is. -/
def ParameterWrite.content (write : ParameterWrite) : Content :=
  .memory (UInt16.ofNat (0x100 + write.offset)) write.octets

/-- The octet that a block of octets at an offset leaves at an index, over an earlier one. -/
def writtenBy (earlier : Option UInt8) (offset : Nat) (octets : List UInt8) (i : Nat) : Option UInt8 :=
  if offset ≤ i ∧ i < offset + octets.length then octets[i - offset]? else earlier

/-- The octet that some writes leave at an index, if one of them reaches it. -/
def writtenAt (writes : List ParameterWrite) (i : Nat) : Option UInt8 :=
  writes.foldl (fun earlier write => writtenBy earlier write.offset write.octets i) none

/-- The octets that were written are replaced, and no others. -/
def Replaces (writes : List ParameterWrite) (before after : List UInt8) : Prop :=
  ∀ i, after[i]? = (writtenAt writes i).or before[i]?

namespace ManagedDevice

/-- The program data. -/
def programData (d : ManagedDevice (CoreObjects × τ)) : List UInt8 :=
  d.core.applicationProgram.programData

/-- Whether the segment of the parameters was written since the device started. -/
def parametersWritten (d : ManagedDevice (CoreObjects × τ)) : Bool :=
  ((segmentAt d.memory 0x0100).map fun segment => segment.written).getD false

end ManagedDevice

/-- What happens to the parameters of a device. -/
inductive ParameterEvent where
  /-- A session, with the rest of the blocks of its two events. -/
  | session (block block' : { block : List UInt8 // block.length < 10 }) (writes : List ParameterWrite)
  /-- The main loop comes to `pumpPersistence`. -/
  | loop (nowMs : UInt32)
  /-- An orderly restart. -/
  | restart

/-- One event. -/
def parameterStep (config : Configuration τ) (d : ManagedDevice (CoreObjects × τ)) :
    ParameterEvent → ManagedDevice (CoreObjects × τ)
  | .session block block' writes =>
      (d.loading config 4 block.val (writes.map ParameterWrite.content)).loadEvent config 4 2 block'.val
  | .loop nowMs => d.loop config.backend nowMs
  | .restart => config.boot (d.flushPersistenceIfDirty config.backend).device.store

/-! ## The segment -/

namespace ManagedDevice

section Segment

variable (config : Configuration τ) {d : ManagedDevice (CoreObjects × τ)}

theorem Laid.shape (h : d.Laid config) :
    ∃ addresses associations objects parameters : MemorySegment,
      d.memory = [addresses, associations, objects, parameters]
        ∧ addresses.region = ⟨0x4000, 514, .readWrite⟩
        ∧ associations.region = ⟨0x4400, 2050, .readWrite⟩
        ∧ objects.region = ⟨0x5000, 514, .readWrite⟩
        ∧ parameters.region = ⟨0x0100, 0x100, .readWrite⟩ := by
  have hlayout := h.memory
  rw [tableSegments] at hlayout
  simp only [List.map_cons, List.map_nil, layout, List.length_replicate] at hlayout
  obtain ⟨addresses, rest, hmemory, haddresses, hrest⟩ := List.map_eq_cons_iff.mp hlayout
  obtain ⟨associations, rest', rfl, hassociations, hrest'⟩ := List.map_eq_cons_iff.mp hrest
  obtain ⟨objects, rest'', rfl, hobjects, hrest''⟩ := List.map_eq_cons_iff.mp hrest'
  obtain ⟨parameters, rest''', rfl, hparameters, hnil⟩ := List.map_eq_cons_iff.mp hrest''
  rw [List.map_eq_nil_iff] at hnil
  subst hnil
  exact ⟨addresses, associations, objects, parameters, hmemory, congrArg Prod.fst haddresses,
    congrArg Prod.fst hassociations, congrArg Prod.fst hobjects, congrArg Prod.fst hparameters⟩

theorem Laid.length_parameters (h : d.Laid config) : (d.segmentContent 0x0100).length = 0x100 := by
  obtain ⟨segment, hsegment, hlayout⟩ := h.segmentAt config
    (show Objects.segmentAt tableSegments 0x0100 = some _ from rfl)
  have hlength : segment.storage.length = (List.replicate 0x100 (0 : UInt8)).length :=
    congrArg Prod.snd hlayout
  rw [segmentContent, hsegment, Option.map_some, Option.getD_some, hlength, List.length_replicate]

theorem segment_write (h : d.Laid config) (write : ParameterWrite) :
    (d.apply config.backend (write.content.operation 4)).segmentContent 0x0100
        = overwrite (d.segmentContent 0x0100) write.offset write.octets
      ∧ (d.apply config.backend (write.content.operation 4)).parametersWritten = true := by
  obtain ⟨addresses, associations, objects, parameters, hmemory, haddresses, hassociations, hobjects,
    hparameters⟩ := h.shape config
  have hfits := write.fits
  have hpos : write.octets.length ≠ 0 := fun h => write.nonempty (List.length_eq_zero_iff.mp h)
  have haddress : (UInt16.ofNat (0x100 + write.offset)).toNat = 0x100 + write.offset := by
    rw [UInt16.toNat_ofNat']
    exact Nat.mod_eq_of_lt (by omega)
  have houtside : ∀ (base : UInt16) (size : Nat), 0x200 ≤ base.toNat →
      ¬ (MemoryRegion.mk base size .readWrite).containsRange (UInt16.ofNat (0x100 + write.offset))
        write.octets.length = true := by
    intro base size hbase hinside
    simp only [MemoryRegion.containsRange, MemoryRegion.contains, haddress, Bool.and_eq_true,
      decide_eq_true_eq] at hinside
    omega
  have hinside : parameters.region.containsRange (UInt16.ofNat (0x100 + write.offset))
      write.octets.length = true := by
    rw [hparameters]
    simp only [MemoryRegion.containsRange, MemoryRegion.contains, haddress, Bool.and_eq_true,
      decide_eq_true_eq, bne_iff_ne, ne_eq, hpos, not_false_eq_true, true_and,
      show (0x0100 : UInt16).toNat = 0x100 from rfl]
    omega
  have hwritten : writeMemory (UInt16.ofNat (0x100 + write.offset)) write.octets d.memory
      = some [addresses, associations, objects, parameters.write _ write.octets hinside] := by
    rw [hmemory, writeMemory, dif_neg (haddresses ▸ houtside 0x4000 514 (by decide)), writeMemory,
      dif_neg (hassociations ▸ houtside 0x4400 2050 (by decide)), writeMemory,
      dif_neg (hobjects ▸ houtside 0x5000 514 (by decide)), writeMemory, dif_pos hinside]
    rfl
  have hfind : ∀ segment : MemorySegment, segment.region = parameters.region →
      segmentAt [addresses, associations, objects, segment] 0x0100 = some segment := by
    intro segment hregion
    simp [segmentAt, haddresses, hassociations, hobjects, hregion, hparameters]
  have hoffset : parameters.region.offset (UInt16.ofNat (0x100 + write.offset)) = write.offset := by
    rw [MemoryRegion.offset, haddress, hparameters]
    exact Nat.add_sub_cancel_left _ _
  have happlied : (d.apply config.backend (write.content.operation 4)).memory
      = [addresses, associations, objects, parameters.write _ write.octets hinside] := by
    simp only [ParameterWrite.content, Content.operation, ManagedDevice.apply, hwritten,
      Option.getD_some]
  have hold := hfind parameters rfl
  have hnew := hfind (parameters.write _ write.octets hinside) rfl
  refine ⟨?_, ?_⟩
  · rw [segmentContent, segmentContent, happlied, hmemory, hold, hnew]
    exact congrArg (fun offset => overwrite parameters.storage offset write.octets) hoffset
  · rw [parametersWritten, happlied, hnew]
    rfl

theorem segment_writes (initial : List UInt8) (writes : List ParameterWrite) :
    ∀ {d : ManagedDevice (CoreObjects × τ)} (earlier : Nat → Option UInt8), d.Laid config →
      (∀ i, (d.segmentContent 0x0100)[i]? = (earlier i).or initial[i]?) →
      ∀ {d' : ManagedDevice (CoreObjects × τ)},
        d' = (writes.map ParameterWrite.content).foldl
          (fun d content => d.apply config.backend (content.operation 4)) d →
        (∀ i, (d'.segmentContent 0x0100)[i]?
            = (writes.foldl (fun earlier write => writtenBy earlier write.offset write.octets i)
                (earlier i)).or initial[i]?)
          ∧ d'.parametersWritten = (d.parametersWritten || !writes.isEmpty) := by
  induction writes with
  | nil =>
    rintro d earlier - hearlier d' rfl
    refine ⟨hearlier, ?_⟩
    rw [List.isEmpty_nil, Bool.not_true, Bool.or_false]
  | cons write writes ih =>
    intro d earlier hlaid hearlier d' hd'
    obtain ⟨hsegment, hwritten⟩ := segment_write config hlaid write
    have hfits : write.offset + write.octets.length ≤ (d.segmentContent 0x0100).length := by
      rw [hlaid.length_parameters config]
      exact write.fits
    have hstep : ∀ i, ((d.apply config.backend (write.content.operation 4)).segmentContent
        0x0100)[i]? = (writtenBy (earlier i) write.offset write.octets i).or initial[i]? := by
      intro i
      rw [hsegment, getElem?_overwrite hfits, hearlier, writtenBy]
      split
      · rw [List.getElem?_eq_getElem (by omega)]
        rfl
      · rfl
    obtain ⟨hcontent, hflag⟩ := ih _ (hlaid.apply config _) hstep hd'
    refine ⟨hcontent, ?_⟩
    rw [hflag, hwritten, Bool.true_or, List.isEmpty_cons, Bool.not_false, Bool.or_true]

theorem segment_loading (h : d.Laid config) (block : List UInt8) (writes : List ParameterWrite) :
    (∀ i, ((d.loading config 4 block (writes.map ParameterWrite.content)).segmentContent 0x0100)[i]?
        = (writtenAt writes i).or (d.segmentContent 0x0100)[i]?)
      ∧ (d.loading config 4 block (writes.map ParameterWrite.content)).parametersWritten
        = (d.parametersWritten || !writes.isEmpty) := by
  have hstart : (d.loadEvent config 4 1 block).memory = d.memory :=
    memory_writeProperty config (effect_apply config d _)
  have hsame : ∀ i : Nat, ((d.loadEvent config 4 1 block).segmentContent 0x0100)[i]?
      = (none : Option UInt8).or (d.segmentContent 0x0100)[i]? := by
    intro i
    rw [segmentContent, hstart, Option.none_or, segmentContent]
  have hflag : (d.loadEvent config 4 1 block).parametersWritten = d.parametersWritten := by
    rw [parametersWritten, hstart, parametersWritten]
  rw [← hflag]
  exact segment_writes config (d.segmentContent 0x0100) writes (fun _ => none) (h.apply config _)
    hsame rfl

/-! ## The program data -/

theorem writeProperty_programEvent (schema : ReferenceSchema) (o : CoreObjects) (event : UInt8)
    {block : List UInt8} (hblock : block.length < 10) :
    o.writeProperty schema 3 5 1 (event :: block)
      = some { o with applicationProgram :=
        ApplicationProgram.loadable.applyLoadControlEvent o.applicationProgram event } :=
  writeProperty_loadEvent schema (p := .applicationProgram .loadState) rfl rfl (by decide) o event
    hblock

theorem programEvent_written (h : d.Laid config) (event : UInt8) {block : List UInt8}
    (hblock : block.length < 10) :
    TableWritten 3 5 (event :: block)
      { d.core with applicationProgram :=
        ApplicationProgram.loadable.applyLoadControlEvent d.core.applicationProgram event }
      d (d.loadEvent config 4 event block) := by
  have hindex : d.resolveObjectType 4 = some 3 := by
    rw [resolveObjectType, h.objectTypes]
    rfl
  exact loadEvent_tableWritten config hindex (by decide) (by decide)
    (writeProperty_programEvent config.schema d.core event hblock)

theorem loading_keeps (h : d.Laid config) {block : List UInt8} (hblock : block.length < 10)
    (writes : List ParameterWrite) :
    (d.loading config 4 block (writes.map ParameterWrite.content)).core
        = { d.core with applicationProgram := { d.core.applicationProgram with loadState := 2 } }
      ∧ (d.loading config 4 block (writes.map ParameterWrite.content)).device = d.device := by
  have hstart := programEvent_written config h 1 hblock
  have hcore : (d.loadEvent config 4 1 block).core
      = { d.core with applicationProgram := { d.core.applicationProgram with loadState := 2 } } := by
    rw [hstart.core, ManagedDevice.afterLoad]
    rfl
  have hdevice : (d.loadEvent config 4 1 block).device = d.device := hstart.device
  rw [loading]
  -- a memory write reaches neither
  generalize d.loadEvent config 4 1 block = started at hcore hdevice
  induction writes generalizing started with
  | nil => exact ⟨hcore, hdevice⟩
  | cons write writes ih => exact ih _ hcore hdevice

theorem programData_completed (h : d.Laid config) {block : List UInt8} (hblock : block.length < 10) :
    (d.loadEvent config 4 2 block).core
        = { d.core with applicationProgram := { d.core.applicationProgram with
            loadState := 1
            programData :=
              if d.parametersWritten then d.segmentContent 0x0100 else d.programData } }
      ∧ (d.loadEvent config 4 2 block).device = d.device.markPersistenceDirty := by
  have htable := programEvent_written config h 2 hblock
  obtain ⟨segment, hsegment, -⟩ := h.segmentAt config
    (show Objects.segmentAt tableSegments 0x0100 = some _ from rfl)
  have hcontent : d.segmentContent 0x0100 = segment.storage := by
    rw [segmentContent, hsegment]
    rfl
  have hflag : d.parametersWritten = segment.written := by
    rw [parametersWritten, hsegment]
    rfl
  refine ⟨?_, htable.device⟩
  rw [htable.core, ManagedDevice.afterLoad, if_pos (by rfl), CoreObjects.applyLoadedTableSegment,
    show tableSegmentBase 3 = 0x0100 from rfl, hsegment, hcontent, hflag]
  dsimp only
  cases segment.written with
  | false =>
    rw [if_pos ⟨rfl, rfl⟩]
    rfl
  | true =>
    rw [if_neg (fun hnever => Bool.noConfusion hnever.2)]
    rfl

end Segment

/-! ## Restarts -/

/-- A device whose program data survives a restart: unless it is dirty, its store has them. -/
structure Restorable (config : Configuration τ) (d : ManagedDevice (CoreObjects × τ)) : Prop where
  laid : d.Laid config
  bounded : d.core.Bounded
  schema : CurrentSchema config.identity d.device.store
  quiet : d.security.sequenceStateDirty = false
  stored : d.device.persistenceDirty = false →
    (config.boot d.device.store).programData = d.programData

section Restarts

variable (config : Configuration τ) {d : ManagedDevice (CoreObjects × τ)}

theorem currentSchema_boot (store : Store) :
    CurrentSchema config.identity (config.boot store).device.store :=
  currentSchema_enforcePersistenceSchemaVersion

theorem programData_boot_of_holds {store : Store} {o : CoreObjects}
    (hschema : CurrentSchema config.identity store) (hbounded : o.Bounded)
    (hholds : HoldsObjects store o) :
    (config.boot store).programData = o.applicationProgram.programData := by
  have hload : config.fresh.load config.schema store = CoreObjects.restored config.fresh o :=
    load_of_holds config.schema ⟨rfl, rfl, rfl, rfl, rfl⟩ hbounded hholds
  have hboot : (config.boot store).programData
      = (config.fresh.load config.schema
          (store.enforcePersistenceSchemaVersion
            config.identity.schemaVersion)).applicationProgram.programData := rfl
  rw [hboot, enforcePersistenceSchemaVersion_of_current hschema, hload]
  rfl

theorem bounded_boot (store : Store) : (config.boot store).core.Bounded := by
  have hfresh : config.fresh.Bounded := ⟨Nat.zero_le _, Nat.zero_le _, Nat.zero_le _⟩
  have hload : ∀ (properties : List ObjectProperty) (o : CoreObjects), o.Bounded →
      (properties.foldl (loadObjectProp config.schema
        (store.enforcePersistenceSchemaVersion config.identity.schemaVersion)) o).Bounded := by
    intro properties
    induction properties with
    | nil => exact fun _ h => h
    | cons p properties ih =>
      intro o ho
      apply ih
      rw [loadObjectProp]
      split
      · exact ho
      · rename_i data _
        cases hwritten : o.writeProperty config.schema p.objectType p.handler.id 1 data with
        | none => exact ho
        | some o' => exact bounded_writeProperty config.schema ho hwritten
  have hbounded := hload persistedObjectProperties config.fresh hfresh
  exact ⟨hbounded.programName, hbounded.programDescription, hbounded.programData⟩

theorem quiet_boot (store : Store) : (config.boot store).security.sequenceStateDirty = false := by
  obtain ⟨store', hstore'⟩ : ∃ store',
      store.enforcePersistenceSchemaVersion config.identity.schemaVersion = store' := ⟨_, rfl⟩
  obtain ⟨hsame, -⟩ := restoredSecurity_fresh store'
  obtain ⟨-, -, -, htool, hdirty, -⟩ :=
    applySecurityKeyTables_numbers (wellFormed_restoredSecurity store')
      (config.fresh.load config.schema store').addressTable.entries
  rw [hsame.toolAccessSequence] at htool
  rw [hsame.sequenceStateDirty] at hdirty
  have hboot : (config.boot store).security = loadSecuritySequenceState store'
      (applySecurityKeyTables (restoredSecurity store')
        (config.fresh.load config.schema store').addressTable.entries) := by
    rw [← hstore']
    rfl
  rw [hboot, loadSecuritySequenceState_eq store' htool hdirty]
  exact hdirty

theorem restorable_boot (store : Store) : (config.boot store).Restorable config := by
  refine ⟨laid_boot config store, bounded_boot config store, currentSchema_boot config store,
    quiet_boot config store, ?_⟩
  intro _
  have hstore := enforcePersistenceSchemaVersion_of_current (currentSchema_boot config store)
  have hagain : (config.boot (config.boot store).device.store).programData
      = (config.fresh.load config.schema ((config.boot store).device.store.enforcePersistenceSchemaVersion
          config.identity.schemaVersion)).applicationProgram.programData := rfl
  rw [hagain, hstore]
  rfl

theorem checkpoint_quiet {device : Device} (h : device.security.sequenceStateDirty = false) :
    device.checkpointSecuritySequenceState = device := by
  rw [Device.checkpointSecuritySequenceState, h]
  rfl

theorem currentSchema_saved (h : CurrentSchema config.identity d.device.store) :
    CurrentSchema config.identity (d.saveToPersistence config.backend).device.store := by
  have hobjects : ∀ p ∈ persistedObjectProperties,
      persistenceSchemaVersionKeyId ≠ persistenceKeyId p := by decide
  change Store.saveObjects config.schema d.device.saveToPersistence.store d.core
    persistenceSchemaVersionKeyId = _
  rw [Store.saveObjects, foldl_saveProp_of_ne persistenceKeyId _ _ hobjects,
    store_saveToPersistence_schemaVersion]
  exact h

theorem programData_boot_saved (h : d.Restorable config) :
    (config.boot (d.saveToPersistence config.backend).device.store).programData = d.programData :=
  programData_boot_of_holds config (currentSchema_saved config h.schema) h.bounded
    (holdsObjects_saveObjects config.schema _ h.bounded)

theorem programData_restart (h : d.Restorable config) :
    (parameterStep config d .restart).programData = d.programData := by
  rw [parameterStep, ManagedDevice.flushPersistenceIfDirty]
  split
  · have hquiet : (d.saveToPersistence config.backend).device.checkpointSecuritySequenceState
        = (d.saveToPersistence config.backend).device := checkpoint_quiet h.quiet
    dsimp only
    rw [hquiet]
    exact programData_boot_saved config h
  · rename_i hclean
    rw [checkpoint_quiet h.quiet]
    exact h.stored (Bool.eq_false_iff.mpr hclean)

theorem Restorable.saveToPersistence (h : d.Restorable config) :
    (d.saveToPersistence config.backend).Restorable config :=
  ⟨h.laid.of_same config rfl rfl, h.bounded, currentSchema_saved config h.schema, h.quiet,
    fun _ => programData_boot_saved config h⟩

theorem Restorable.of_device (h : d.Restorable config) {device : Device}
    (hstore : device.store = d.device.store) (hsecurity : device.security = d.device.security)
    (hdirty : device.persistenceDirty = d.device.persistenceDirty) :
    ({ d with device := device } : ManagedDevice (CoreObjects × τ)).Restorable config := by
  refine ⟨h.laid.of_same config rfl rfl, h.bounded, ?_, ?_, ?_⟩
  · change CurrentSchema config.identity device.store
    rw [hstore]
    exact h.schema
  · change device.security.sequenceStateDirty = false
    rw [hsecurity]
    exact h.quiet
  · intro hclean
    change (config.boot device.store).programData = d.programData
    rw [hstore]
    exact h.stored (hdirty ▸ hclean)

theorem pumpPersistence_unsaved {device : Device} {nowMs : UInt32}
    (h : (device.persistenceDirty && !(device.pumpPersistence nowMs).persistenceDirty) = false) :
    (device.pumpPersistence nowMs).store = device.store
      ∧ (device.pumpPersistence nowMs).security = device.security
      ∧ (device.pumpPersistence nowMs).persistenceDirty = device.persistenceDirty := by
  rw [Device.pumpPersistence] at h ⊢
  split
  · exact ⟨rfl, rfl, rfl⟩
  · rename_i hdirty
    rw [if_neg hdirty] at h
    split
    · dsimp only
      split <;> exact ⟨rfl, rfl, rfl⟩
    · rename_i hseen
      rw [if_neg hseen] at h
      split
      · rename_i hdue
        rw [if_pos hdue] at h
        rw [Bool.not_eq_true'] at hdirty
        rw [Bool.eq_true_of_not_eq_false hdirty] at h
        cases h
      · exact ⟨rfl, rfl, rfl⟩

theorem Restorable.loop (h : d.Restorable config) (nowMs : UInt32) :
    (d.loop config.backend nowMs).Restorable config
      ∧ (d.loop config.backend nowMs).programData = d.programData := by
  have hpumped : (d.pumpPersistence config.backend nowMs).Restorable config
      ∧ (d.pumpPersistence config.backend nowMs).programData = d.programData := by
    rw [ManagedDevice.pumpPersistence]
    split
    · exact ⟨h.saveToPersistence config, rfl⟩
    · rename_i hunsaved
      obtain ⟨hstore, hsecurity, hdirty⟩ := pumpPersistence_unsaved (Bool.eq_false_iff.mpr hunsaved)
      exact ⟨h.of_device config hstore hsecurity hdirty, rfl⟩
  refine ⟨?_, hpumped.2⟩
  rw [ManagedDevice.loop]
  generalize d.pumpPersistence config.backend nowMs = pumped at hpumped
  obtain ⟨due, hdue⟩ : ∃ due, nowMs + 60000 = due := ⟨_, rfl⟩
  have hquiet : pumped.device.pumpSecuritySequenceCheckpoint nowMs
      = { pumped.device with sequenceCheckpointDueMs := due } := by
    rw [Device.pumpSecuritySequenceCheckpoint, show pumped.device.security.sequenceStateDirty = false
      from hpumped.1.quiet, hdue]
    rfl
  rw [hquiet]
  exact hpumped.1.of_device config rfl rfl rfl

theorem Restorable.session (h : d.Restorable config) {block block' : List UInt8}
    (hblock : block.length < 10) (hblock' : block'.length < 10) (writes : List ParameterWrite) :
    ((d.loading config 4 block (writes.map ParameterWrite.content)).loadEvent config 4 2
      block').Restorable config := by
  have hlaid := h.laid.loading config 4 block (writes.map ParameterWrite.content)
  obtain ⟨hcore, hdevice⟩ := loading_keeps config h.laid hblock writes
  generalize d.loading config 4 block (writes.map ParameterWrite.content) = loaded at *
  obtain ⟨hcore', hdevice'⟩ := programData_completed config hlaid hblock'
  have hlength := hlaid.length_parameters config
  have hprogramData : loaded.programData = d.programData := by
    rw [programData, hcore]
    rfl
  refine ⟨hlaid.apply config _, ?_, ?_, ?_, ?_⟩
  · rw [hcore', hcore]
    refine ⟨h.bounded.programName, h.bounded.programDescription, ?_⟩
    dsimp only
    split
    · omega
    · rw [hprogramData]
      exact h.bounded.programData
  · rw [hdevice', hdevice]
    exact h.schema
  · rw [security, hdevice', hdevice]
    exact h.quiet
  · intro hclean
    rw [hdevice'] at hclean
    cases hclean

end Restarts

/-! ## Sessions -/

section Sessions

variable (config : Configuration τ) {d : ManagedDevice (CoreObjects × τ)}

/-- Nothing was ever written to the segment, or it has the program data wherever the session does not
write. -/
def Agrees (writes : List ParameterWrite) (d : ManagedDevice (CoreObjects × τ)) : Prop :=
  (d.parametersWritten = false ∧ writes = [])
    ∨ ∀ i, writtenAt writes i = none → d.programData[i]? = (d.segmentContent 0x0100)[i]?

theorem replaces_session_iff (h : d.Laid config) {block block' : List UInt8}
    (hblock : block.length < 10) (hblock' : block'.length < 10) (writes : List ParameterWrite) :
    Replaces writes d.programData
        ((d.loading config 4 block (writes.map ParameterWrite.content)).loadEvent config 4 2
          block').programData
      ↔ Agrees writes d := by
  have hlaid := h.loading config 4 block (writes.map ParameterWrite.content)
  obtain ⟨hcore, -⟩ := loading_keeps config h hblock writes
  obtain ⟨hsegment, hflag⟩ := segment_loading config h block writes
  obtain ⟨hcore', -⟩ := programData_completed config hlaid hblock'
  generalize d.loading config 4 block (writes.map ParameterWrite.content) = loaded at *
  have hprogramData : loaded.programData = d.programData := by
    rw [programData, hcore]
    rfl
  have hafter : (loaded.loadEvent config 4 2 block').programData
      = if loaded.parametersWritten then loaded.segmentContent 0x0100 else d.programData := by
    rw [programData, hcore', hprogramData]
  rw [Replaces, Agrees, hafter, hflag]
  by_cases hnever : d.parametersWritten = false ∧ writes = []
  · obtain ⟨hflag', rfl⟩ := hnever
    rw [hflag', List.isEmpty_nil]
    refine iff_of_true ?_ (.inl ⟨rfl, rfl⟩)
    intro i
    rfl
  · have hwritten : (d.parametersWritten || !writes.isEmpty) = true := by
      cases hparameters : d.parametersWritten with
      | true => rfl
      | false =>
        cases writes with
        | nil => exact absurd ⟨hparameters, rfl⟩ hnever
        | cons write writes => rfl
    rw [hwritten, if_pos rfl]
    constructor
    · intro hreplaced
      right
      intro i hi
      have hreplaced' := hreplaced i
      rw [hsegment, hi, Option.none_or, Option.none_or] at hreplaced'
      exact hreplaced'.symm
    · rintro (hnever' | hagrees) i
      · exact absurd hnever' hnever
      · rw [hsegment]
        cases hi : writtenAt writes i with
        | some octet => rfl
        | none => rw [Option.none_or, Option.none_or, hagrees i hi]

end Sessions

end ManagedDevice

/-- What an event does to the program data: a session replaces what it has written, anything
else keeps the program data. -/
def ParametersFollow (d d' : ManagedDevice (CoreObjects × τ)) : ParameterEvent → Prop
  | .session _ _ writes => Replaces writes d.programData d'.programData
  | .loop _ => d'.programData = d.programData
  | .restart => d'.programData = d.programData

/-- The sessions of a run find a segment that agrees with the program data. -/
def SegmentAgrees (d : ManagedDevice (CoreObjects × τ)) : ParameterEvent → Prop
  | .session _ _ writes => d.Agrees writes
  | .loop _ => True
  | .restart => True

/-- A session replaces the octets it has written and no others just when the segment has the
program data wherever it does not write; restarts keep the program data. -/
theorem parameters_replaced_iff (config : Configuration τ) (store : Store)
    (events : List ParameterEvent) :
    Along (parameterStep config)
        (fun d event => ParametersFollow d (parameterStep config d event) event)
        (config.boot store) events
      ↔ Along (parameterStep config) SegmentAgrees (config.boot store) events := by
  apply along_iff_along _ _ (ManagedDevice.restorable_boot config store)
  · intro d event h _
    cases event with
    | session block block' writes => exact h.session config block.property block'.property writes
    | loop nowMs => exact (h.loop config nowMs).1
    | restart => exact ManagedDevice.restorable_boot config _
  · intro d event h
    cases event with
    | session block block' writes =>
      exact ManagedDevice.replaces_session_iff config h.laid block.property block'.property writes
    | loop nowMs => exact iff_of_true (h.loop config nowMs).2 trivial
    | restart => exact iff_of_true (ManagedDevice.programData_restart config h) trivial


/-- Some octets of the same value at an offset. -/
def fill (offset count : Nat) (hcount : 0 < count) (hfits : offset + count ≤ 0x100) (octet : UInt8) :
    ParameterWrite :=
  { offset := offset
    octets := List.replicate count octet
    nonempty := by
      rw [ne_eq, List.replicate_eq_nil_iff]
      omega
    fits := by rwa [List.length_replicate] }

theorem fourOctets_pos : 0 < 4 := by decide

/-- A download of all parameters, in telegrams that memory writes admit. -/
def allParameters : ParameterEvent :=
  .session ⟨[], by decide⟩ ⟨[], by decide⟩
    [fill 0 63 (by decide) (by decide) 7, fill 63 63 (by decide) (by decide) 7,
      fill 126 63 (by decide) (by decide) 7, fill 189 63 (by decide) (by decide) 7,
      fill 252 4 fourOctets_pos (by decide) 7]

/-- A download of one parameter. -/
def oneParameter : ParameterEvent :=
  .session ⟨[], by decide⟩ ⟨[], by decide⟩ [fill 4 1 (by decide) (by decide) 5]

/-- After a restart the session of one parameter sets all others to zero. -/
theorem parameters_lost_after_restart :
    ¬ Along (parameterStep sampleBlank)
        (fun d event => ParametersFollow d (parameterStep sampleBlank d event) event)
        (sampleBlank.boot fun _ => none) [allParameters, .restart, oneParameter] := by
  rintro ⟨-, -, hreplaced, -⟩
  have hfirst := hreplaced 0
  revert hfirst
  decide +kernel

end KnxStack.Bau
