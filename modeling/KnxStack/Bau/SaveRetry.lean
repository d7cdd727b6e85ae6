import KnxStack.Bau.ObjectPersistence
import KnxStack.Lib.Runs

/-!
# Saves that fail

A save of the device is one store operation for each record, and any of them may fail
(`InterfaceObjectManager::saveToPersistence` and `saveSecuritySequenceState`,
`objects/interface_object_manager.cpp`). The results are logged or counted; the marks that a save is owed
(`bau/bau.cpp`) are taken back whatever they are.

`Saving` is a device with what an observer of its store knows: the records whose last attempt failed.

- `store_saveToPersistence`, `marks_pumpPersistence`, `device_pumpSecuritySequenceCheckpoint`: where no
  operation fails, the saves are those of the device.
- `retried_iff`: a failed save stays owed in every state of a run if and only if no operation fails.
-/

set_option autoImplicit false

namespace KnxStack.Bau

open KnxStack.Lib KnxStack.Lib.Octets KnxStack.Objects

/-! ## Records -/

/-- What is to be stored under a key; without a value there is no attempt. -/
abbrev Record : Type := UInt16 × Option (List UInt8)

/-- The records of `saveToPersistence`, in the order of the manifests. -/
def propertyRecords (schema : ReferenceSchema) (o : CoreObjects) (security : SecurityInterfaceObject) :
    List Record :=
  persistedObjectProperties.map (fun p => (persistenceKeyId p, persistedObjectValue schema o p))
    ++ persistedProperties.map fun p => (securityKeyId p, persistedValue security p)

/-- The records of `saveSecuritySequenceState`: the address table, if it is not empty, and the number for
tool access. -/
def sequenceRecords (security : SecurityInterfaceObject) : List Record :=
  [(securityKeyId .securityIndividualAddressTable, security.iaTable.filter fun blob => !blob.isEmpty),
    (toolAccessSequenceKeyId, some (toOctets 6 security.toolAccessSequence))]

/-- The keys that a save attempts. -/
def attempted (records : List Record) : List UInt16 :=
  (records.filter fun record => record.2.isSome).map Prod.fst

/-- A record is stored, or its empty value erased, if the operation does not fail. -/
def Store.attempt (fails : UInt16 → Bool) (store : Store) (record : Record) : Store :=
  if fails record.1 then store else store.saveProp record.1 record.2

/-- The store after a save. -/
def Store.saveRecords (fails : UInt16 → Bool) (store : Store) (records : List Record) : Store :=
  records.foldl (Store.attempt fails) store

theorem saveRecords_propertyRecords (schema : ReferenceSchema) (store : Store) (o : CoreObjects)
    (security : SecurityInterfaceObject) :
    store.saveRecords (fun _ => false) (propertyRecords schema o security)
      = (store.saveObjects schema o).saveSecurity security := by
  change (propertyRecords schema o security).foldl
    (fun store record => store.saveProp record.1 record.2) store = _
  unfold propertyRecords
  rw [List.foldl_append, List.foldl_map, List.foldl_map]
  rfl

/-! ## The device and its store -/

/-- A device, its other objects, and the keys whose last attempt failed: in a save of the properties, and in
one of the sequence state. -/
structure Saving where
  device : Device := {}
  objects : CoreObjects := {}
  propertyFailed : UInt16 → Bool := fun _ => false
  sequenceFailed : UInt16 → Bool := fun _ => false

/-- The failures after some attempts. -/
def lastFailed (fails : UInt16 → Bool) (keys : List UInt16) (earlier : UInt16 → Bool) :
    UInt16 → Bool :=
  fun key => if key ∈ keys then fails key else earlier key

namespace Saving

section Saves

variable (schema : ReferenceSchema) (fails : UInt16 → Bool) (s : Saving)

/-- The keys that a save of the properties attempts. -/
def propertyAttempts : List UInt16 := attempted (propertyRecords schema s.objects s.device.security)

/-- The keys that a save of the sequence state attempts. -/
def sequenceAttempts : List UInt16 := attempted (sequenceRecords s.device.security)

/-- `saveToPersistence`. -/
def saveToPersistence : Saving :=
  { s with
    device := { s.device with
      persistenceDirty := false
      persistenceBurstActive := false
      persistenceSeenSeq := s.device.persistenceMarkSeq
      store := s.device.store.saveRecords fails
        (propertyRecords schema s.objects s.device.security) }
    propertyFailed := lastFailed fails (s.propertyAttempts schema) s.propertyFailed }

/-- `saveSecuritySequenceState`. -/
def saveSecuritySequenceState : Saving :=
  { s with
    device := { s.device with
      security := { s.device.security with sequenceStateDirty := false }
      store := s.device.store.saveRecords fails (sequenceRecords s.device.security) }
    sequenceFailed := lastFailed fails s.sequenceAttempts s.sequenceFailed }

/-- `checkpointSecuritySequenceState`. -/
def checkpointSecuritySequenceState : Saving :=
  if !s.device.security.sequenceStateDirty then s else s.saveSecuritySequenceState fails

/-- `pumpSecuritySequenceCheckpoint`. -/
def pumpSecuritySequenceCheckpoint (nowMs : UInt32) : Saving :=
  if !s.device.security.sequenceStateDirty then
    { s with device := { s.device with sequenceCheckpointDueMs := nowMs + 60000 } }
  else if 2 ^ 31 ≤ (nowMs - s.device.sequenceCheckpointDueMs).toNat then s
  else
    let saved := s.checkpointSecuritySequenceState fails
    { saved with device := { saved.device with sequenceCheckpointDueMs := nowMs + 60000 } }

/-- `pumpPersistence`. -/
def pumpPersistence (nowMs : UInt32) : Saving :=
  if !s.device.persistenceDirty then s
  else if s.device.persistenceMarkSeq ≠ s.device.persistenceSeenSeq then
    { s with device := s.device.pumpPersistence nowMs }
  else if 400 ≤ nowMs - s.device.persistenceQuietStartMs
      ∨ 5000 ≤ nowMs - s.device.persistenceBurstStartMs then
    s.saveToPersistence schema fails
  else s

/-- `flushPersistenceIfDirty`; the second save has outcomes of its own. -/
def flushPersistenceIfDirty (sequenceFails : UInt16 → Bool) : Saving :=
  let flushed := if s.device.persistenceDirty then s.saveToPersistence schema fails else s
  flushed.checkpointSecuritySequenceState sequenceFails

end Saves

end Saving

/-- The calls, with the keys on which the store fails in them. A write of properties and a secured reception
leave other objects behind. -/
inductive SaveCall where
  | markPersistenceDirty (objects : CoreObjects) (security : SecurityInterfaceObject)
  | securedReception (security : SecurityInterfaceObject)
  | pumpPersistence (nowMs : UInt32) (fails : UInt16 → Bool)
  | pumpSecuritySequenceCheckpoint (nowMs : UInt32) (fails : UInt16 → Bool)
  | flushPersistenceIfDirty (fails sequenceFails : UInt16 → Bool)

namespace Saving

variable (schema : ReferenceSchema)

/-- One call. -/
def step (s : Saving) : SaveCall → Saving
  | .markPersistenceDirty objects security =>
    { s with
      objects
      device := { s.device.markPersistenceDirty with
        security := { security with
          sequenceStateDirty := s.device.security.sequenceStateDirty } } }
  | .securedReception security =>
    { s with device := { s.device with security := { security with sequenceStateDirty := true } } }
  | .pumpPersistence nowMs fails => s.pumpPersistence schema fails nowMs
  | .pumpSecuritySequenceCheckpoint nowMs fails => s.pumpSecuritySequenceCheckpoint fails nowMs
  | .flushPersistenceIfDirty fails sequenceFails =>
    s.flushPersistenceIfDirty schema fails sequenceFails

/-- A pump saves: the device is dirty, no mark has come since the last pump, and one of the windows is
over. -/
def PumpSaves (s : Saving) (nowMs : UInt32) : Prop :=
  s.device.persistenceDirty = true ∧ s.device.persistenceMarkSeq = s.device.persistenceSeenSeq
    ∧ (400 ≤ nowMs - s.device.persistenceQuietStartMs
      ∨ 5000 ≤ nowMs - s.device.persistenceBurstStartMs)

/-- A pump makes a checkpoint: one is owed and due. -/
def PumpCheckpoints (s : Saving) (nowMs : UInt32) : Prop :=
  s.device.security.sequenceStateDirty = true
    ∧ ¬ 2 ^ 31 ≤ (nowMs - s.device.sequenceCheckpointDueMs).toNat

/-- A failed save is still owed. -/
structure Retried (s : Saving) : Prop where
  properties : ∀ key, s.propertyFailed key = true → s.device.persistenceDirty = true
  sequence : ∀ key, s.sequenceFailed key = true → s.device.security.sequenceStateDirty = true

/-- No operation that the call attempts fails. -/
def Succeeds (s : Saving) : SaveCall → Prop
  | .markPersistenceDirty _ _ => True
  | .securedReception _ => True
  | .pumpPersistence nowMs fails =>
    s.PumpSaves nowMs → ∀ key ∈ s.propertyAttempts schema, fails key = false
  | .pumpSecuritySequenceCheckpoint nowMs fails =>
    s.PumpCheckpoints nowMs → ∀ key ∈ s.sequenceAttempts, fails key = false
  | .flushPersistenceIfDirty fails sequenceFails =>
    (s.device.persistenceDirty = true → ∀ key ∈ s.propertyAttempts schema, fails key = false)
      ∧ (s.device.security.sequenceStateDirty = true →
        ∀ key ∈ s.sequenceAttempts, sequenceFails key = false)

/-- No attempt has failed last. -/
structure Stored (s : Saving) : Prop where
  properties : ∀ key, s.propertyFailed key = false
  sequence : ∀ key, s.sequenceFailed key = false

variable {schema} {fails : UInt16 → Bool} {s : Saving}

/-! ## Saves that succeed -/

theorem store_saveToPersistence (s : Saving) :
    (s.saveToPersistence schema fun _ => false).device.store
      = (s.device.store.saveObjects schema s.objects).saveSecurity s.device.security :=
  saveRecords_propertyRecords schema s.device.store s.objects s.device.security

theorem marks_pumpPersistence (nowMs : UInt32) (store : Store) :
    { (s.pumpPersistence schema fails nowMs).device with store }
      = { s.device.pumpPersistence nowMs with store } := by
  unfold pumpPersistence
  split
  · rename_i hclean
    unfold Device.pumpPersistence
    rw [if_pos hclean]
  · rename_i hdirty
    split
    · rfl
    · rename_i hseen
      unfold Device.pumpPersistence
      rw [if_neg hdirty, if_neg hseen]
      split
      · rfl
      · rfl

theorem device_saveSecuritySequenceState (s : Saving) :
    (s.saveSecuritySequenceState fun _ => false).device = s.device.saveSecuritySequenceState := by
  unfold saveSecuritySequenceState Device.saveSecuritySequenceState sequenceRecords
  rcases s.device.security.iaTable with _ | _ | ⟨octet, octets⟩
  · rfl
  · rfl
  · rfl

theorem device_checkpointSecuritySequenceState (s : Saving) :
    (s.checkpointSecuritySequenceState fun _ => false).device
      = s.device.checkpointSecuritySequenceState := by
  unfold checkpointSecuritySequenceState Device.checkpointSecuritySequenceState
  split
  · rfl
  · exact device_saveSecuritySequenceState s

theorem device_pumpSecuritySequenceCheckpoint (s : Saving) (nowMs : UInt32) :
    (s.pumpSecuritySequenceCheckpoint (fun _ => false) nowMs).device
      = s.device.pumpSecuritySequenceCheckpoint nowMs := by
  unfold pumpSecuritySequenceCheckpoint Device.pumpSecuritySequenceCheckpoint
  split
  · rfl
  · split
    · rfl
    · have hsaved := device_checkpointSecuritySequenceState s
      exact congrArg (fun d : Device => { d with sequenceCheckpointDueMs := nowMs + 60000 }) hsaved

/-! ## One call -/

theorem lastFailed_eq_false_iff {keys : List UInt16} {earlier : UInt16 → Bool}
    (hearlier : ∀ key, earlier key = false) :
    (∀ key, lastFailed fails keys earlier key = false) ↔ ∀ key ∈ keys, fails key = false := by
  unfold lastFailed
  constructor
  · intro h key hkey
    have hlast := h key
    rwa [if_pos hkey] at hlast
  · intro h key
    split
    · rename_i hkey
      exact h key hkey
    · exact hearlier key

/-- Where the marks that are left have nothing to do with a failure, a failed save is lost. -/
theorem retried_iff_stored (hproperties : s.device.persistenceDirty = true →
      ∀ key, s.propertyFailed key = false)
    (hsequence : s.device.security.sequenceStateDirty = true → ∀ key, s.sequenceFailed key = false) :
    s.Retried ↔ s.Stored := by
  constructor
  · intro h
    constructor
    · intro key
      cases hfailed : s.propertyFailed key with
      | false => rfl
      | true => exact hfailed.symm.trans (hproperties (h.properties key hfailed) key)
    · intro key
      cases hfailed : s.sequenceFailed key with
      | false => rfl
      | true => exact hfailed.symm.trans (hsequence (h.sequence key hfailed) key)
  · intro h
    constructor
    · intro key hfailed
      rw [h.properties key] at hfailed
      cases hfailed
    · intro key hfailed
      rw [h.sequence key] at hfailed
      cases hfailed

theorem Stored.saveToPersistence (h : s.Stored) (schema : ReferenceSchema)
    (fails : UInt16 → Bool) :
    ((s.saveToPersistence schema fails).Stored ↔ ∀ key ∈ s.propertyAttempts schema, fails key = false)
      ∧ ((s.saveToPersistence schema fails).Retried
        ↔ (s.saveToPersistence schema fails).Stored) := by
  constructor
  · rw [← lastFailed_eq_false_iff h.properties]
    exact ⟨fun hstored => hstored.properties, fun hall => ⟨hall, h.sequence⟩⟩
  · apply retried_iff_stored
    · nofun
    · exact fun _ => h.sequence

theorem checkpointed (fails : UInt16 → Bool) (hsequence : ∀ key, s.sequenceFailed key = false)
    (hproperties : s.device.persistenceDirty = true → ∀ key, s.propertyFailed key = false) :
    ((s.checkpointSecuritySequenceState fails).Stored ↔
        (∀ key, s.propertyFailed key = false)
          ∧ (s.device.security.sequenceStateDirty = true →
            ∀ key ∈ s.sequenceAttempts, fails key = false))
      ∧ ((s.checkpointSecuritySequenceState fails).Retried
        ↔ (s.checkpointSecuritySequenceState fails).Stored) := by
  unfold checkpointSecuritySequenceState
  split
  · rename_i hclean
    rw [Bool.not_eq_true'] at hclean
    constructor
    · constructor
      · intro hstored
        refine ⟨hstored.properties, ?_⟩
        rw [hclean]
        nofun
      · intro hall
        exact ⟨hall.1, hsequence⟩
    · exact retried_iff_stored hproperties (fun _ => hsequence)
  · rename_i howed
    have howed : s.device.security.sequenceStateDirty = true := by simpa using howed
    constructor
    · rw [← lastFailed_eq_false_iff hsequence]
      exact ⟨fun hstored => ⟨hstored.properties, fun _ => hstored.sequence⟩,
        fun hall => ⟨hall.1, hall.2 howed⟩⟩
    · apply retried_iff_stored
      · exact hproperties
      · nofun

theorem Stored.step (schema : ReferenceSchema) (h : s.Stored) (call : SaveCall) :
    ((s.step schema call).Stored ↔ s.Succeeds schema call)
      ∧ ((s.step schema call).Retried ↔ (s.step schema call).Stored) := by
  have hkept : ∀ s' : Saving, s'.propertyFailed = s.propertyFailed →
      s'.sequenceFailed = s.sequenceFailed → s'.Stored := by
    intro s' hproperties hsequence
    exact ⟨fun key => hproperties ▸ h.properties key, fun key => hsequence ▸ h.sequence key⟩
  have hquiet : ∀ s' : Saving, s'.Stored → (s'.Retried ↔ s'.Stored) := fun s' hstored =>
    retried_iff_stored (fun _ => hstored.properties) (fun _ => hstored.sequence)
  cases call with
  | markPersistenceDirty objects security =>
    have hstored := hkept (s.step schema (.markPersistenceDirty objects security)) rfl rfl
    exact ⟨iff_of_true hstored trivial, hquiet _ hstored⟩
  | securedReception security =>
    have hstored := hkept (s.step schema (.securedReception security)) rfl rfl
    exact ⟨iff_of_true hstored trivial, hquiet _ hstored⟩
  | pumpPersistence nowMs fails =>
    unfold Succeeds PumpSaves
    change ((s.pumpPersistence schema fails nowMs).Stored ↔ _)
      ∧ ((s.pumpPersistence schema fails nowMs).Retried
        ↔ (s.pumpPersistence schema fails nowMs).Stored)
    unfold pumpPersistence
    split
    · rename_i hclean
      rw [Bool.not_eq_true'] at hclean
      refine ⟨iff_of_true h ?_, hquiet s h⟩
      rw [hclean]
      exact fun hsaves => nomatch hsaves.1
    · rename_i hdirty
      split
      · rename_i hmarked
        -- A new mark only moves the windows.
        have hstored := hkept { s with device := s.device.pumpPersistence nowMs } rfl rfl
        exact ⟨iff_of_true hstored fun hsaves => absurd hsaves.2.1 hmarked, hquiet _ hstored⟩
      · rename_i hseen
        split
        · rename_i hover
          obtain ⟨hstored, hretried⟩ := h.saveToPersistence schema fails
          have hsaves : s.PumpSaves nowMs := ⟨by simpa using hdirty, not_not.mp hseen, hover⟩
          exact ⟨hstored.trans ⟨fun hall _ => hall, fun hall => hall hsaves⟩, hretried⟩
        · rename_i hearly
          exact ⟨iff_of_true h fun hsaves => absurd hsaves.2.2 hearly, hquiet s h⟩
  | pumpSecuritySequenceCheckpoint nowMs fails =>
    unfold Succeeds PumpCheckpoints
    change ((s.pumpSecuritySequenceCheckpoint fails nowMs).Stored ↔ _)
      ∧ ((s.pumpSecuritySequenceCheckpoint fails nowMs).Retried
        ↔ (s.pumpSecuritySequenceCheckpoint fails nowMs).Stored)
    unfold pumpSecuritySequenceCheckpoint
    split
    · rename_i hclean
      rw [Bool.not_eq_true'] at hclean
      have hstored := hkept
        { s with device := { s.device with sequenceCheckpointDueMs := nowMs + 60000 } } rfl rfl
      refine ⟨iff_of_true hstored ?_, hquiet _ hstored⟩
      rw [hclean]
      exact fun howed => nomatch howed.1
    · rename_i howed
      split
      · rename_i hearly
        exact ⟨iff_of_true h fun hdue => absurd hearly hdue.2, hquiet s h⟩
      · rename_i hdue
        have howed : s.device.security.sequenceStateDirty = true := by simpa using howed
        obtain ⟨hstored, hretried⟩ := checkpointed fails h.sequence fun _ => h.properties
        -- The time of the next checkpoint has no part in either.
        constructor
        · refine Iff.trans ⟨fun hs => ⟨hs.properties, hs.sequence⟩,
            fun hs => ⟨hs.properties, hs.sequence⟩⟩ (hstored.trans ?_)
          exact ⟨fun hall _ => hall.2 howed, fun hall => ⟨h.properties, fun _ => hall ⟨howed, hdue⟩⟩⟩
        · refine Iff.trans ⟨fun hr => ⟨hr.properties, hr.sequence⟩,
            fun hr => ⟨hr.properties, hr.sequence⟩⟩ (hretried.trans ?_)
          exact ⟨fun hs => ⟨hs.properties, hs.sequence⟩, fun hs => ⟨hs.properties, hs.sequence⟩⟩
  | flushPersistenceIfDirty fails sequenceFails =>
    change ((s.flushPersistenceIfDirty schema fails sequenceFails).Stored ↔ _)
      ∧ ((s.flushPersistenceIfDirty schema fails sequenceFails).Retried
        ↔ (s.flushPersistenceIfDirty schema fails sequenceFails).Stored)
    unfold flushPersistenceIfDirty Succeeds
    -- The first save leaves the sequence state alone, so the second one attempts what it would have.
    by_cases hdirty : s.device.persistenceDirty = true
    · simp only [if_pos hdirty]
      obtain ⟨hstored, hretried⟩ := checkpointed (s := s.saveToPersistence schema fails)
        sequenceFails h.sequence nofun
      have hlast : (∀ key, (s.saveToPersistence schema fails).propertyFailed key = false)
          ↔ ∀ key ∈ s.propertyAttempts schema, fails key = false :=
        lastFailed_eq_false_iff h.properties
      refine ⟨hstored.trans ?_, hretried⟩
      exact ⟨fun hall => ⟨fun _ => hlast.mp hall.1, hall.2⟩,
        fun hall => ⟨hlast.mpr (hall.1 hdirty), hall.2⟩⟩
    · simp only [if_neg hdirty]
      obtain ⟨hstored, hretried⟩ := checkpointed sequenceFails h.sequence
        fun _ => h.properties
      refine ⟨hstored.trans ?_, hretried⟩
      exact ⟨fun hall => ⟨fun himpossible => absurd himpossible hdirty, hall.2⟩,
        fun hall => ⟨h.properties, hall.2⟩⟩

/-- A failed save is owed in every state of a run if and only if no operation of it fails. -/
theorem retried_iff (schema : ReferenceSchema) (device : Device) (objects : CoreObjects)
    (calls : List SaveCall) :
    Along (step schema) (fun s call => (s.step schema call).Retried)
        { device := device, objects := objects } calls
      ↔ Along (step schema) (Succeeds schema) { device := device, objects := objects } calls := by
  have hinitial : Stored { device := device, objects := objects } := ⟨fun _ => rfl, fun _ => rfl⟩
  have hkept : ∀ s call, Stored s → (s.step schema call).Retried → Stored (s.step schema call) :=
    fun s call h hretried => (h.step schema call).2.mp hretried
  refine along_iff_along hkept ?_ hinitial calls
  intro s call h
  obtain ⟨hstored, hretried⟩ := h.step schema call
  exact hretried.trans hstored

/-- A mark, the pump that finds it, and one that saves 400 ms later, to a store on which everything
fails. -/
def failedSave : List SaveCall :=
  [.markPersistenceDirty {} {}, .pumpPersistence 0 fun _ => true,
    .pumpPersistence 400 fun _ => true]

/-- A secured reception, and its checkpoint. -/
def failedCheckpoint : List SaveCall :=
  [.securedReception {}, .pumpSecuritySequenceCheckpoint 60000 fun _ => true]

/-- Failed saves are not retried: after them neither is owed, though the group keys and the number for
tool access were not stored. -/
theorem failed_saves_lost :
    (¬ Along (step fun _ => []) (fun s call => (s.step (fun _ => []) call).Retried) {} failedSave
      ∧ (run (step fun _ => []) {} failedSave).device.persistenceDirty = false
      ∧ (run (step fun _ => []) {} failedSave).propertyFailed (securityKeyId .groupKeyTable) = true)
    ∧ (¬ Along (step fun _ => []) (fun s call => (s.step (fun _ => []) call).Retried) {}
        failedCheckpoint
      ∧ (run (step fun _ => []) {} failedCheckpoint).device.security.sequenceStateDirty = false
      ∧ (run (step fun _ => []) {} failedCheckpoint).sequenceFailed toolAccessSequenceKeyId = true) := by
  have hproperties : (run (step fun _ => []) {} failedSave).propertyFailed
      (securityKeyId .groupKeyTable) = true := by decide +kernel
  have hsequence : (run (step fun _ => []) {} failedCheckpoint).sequenceFailed
      toolAccessSequenceKeyId = true := by decide +kernel
  refine ⟨⟨?_, rfl, hproperties⟩, ?_, rfl, hsequence⟩
  · rintro ⟨-, -, hretried, -⟩
    exact absurd (hretried.properties _ hproperties) (by decide +kernel)
  · rintro ⟨-, hretried, -⟩
    exact absurd (hretried.sequence _ hsequence) (by decide +kernel)

end Saving

end KnxStack.Bau
