import KnxStack.Application.AccessPolicy
import KnxStack.Bau.ObjectPersistence

/-!
# What the interface objects keep across a restart

`InterfaceObjectManager` over all its objects: reading and writing their properties, and a save
followed by a restore of fresh objects (`objects/interface_object_manager.cpp`).

A property comes back with its elements except in one case. The elements of a table are written
again through the check that a management client meets, and a table with one entry that fails it is
refused as a whole; such entries get there by a write past the end, which fills the gap with blank
ones, and by a download, which does not check addresses. `roundTrips_iff` says that this is the only
case.
-/

set_option autoImplicit false

namespace KnxStack.Objects.SecurityInterfaceObject

open KnxStack.Lib.Octets

/-! ## The Security Interface Object -/

/-- An array of whole elements, no more than an index reaches. -/
def WholeElements (size : Nat) (blob : List UInt8) : Prop :=
  blob.length % size = 0 ∧ blob.length / size ≤ 0xFFFF

/-- What property writes keep of the object. -/
structure Persistable (o : SecurityInterfaceObject) : Prop where
  toolKey : o.toolKey.length = 16
  sending : o.sendingSequence < 256 ^ 6
  arrays : ∀ p handler, p.handler = some handler → handler.resizable = true →
    WholeElements handler.elementSize ((o.extraProperties p).getD [])

theorem persistable_default : Persistable {} := by
  refine ⟨by decide, by decide, ?_⟩
  intro p handler _ _
  exact ⟨Nat.zero_mod _, by simp⟩

section Kept

variable {o o' : SecurityInterfaceObject} {p : SecurityProperty} {handler : PropertyHandler}

theorem elementSize_pos (hhandler : p.handler = some handler) : 0 < handler.elementSize := by
  cases p <;> cases hhandler <;> decide

theorem Persistable.setExtraProperty (h : o.Persistable) (hhandler : p.handler = some handler)
    {blob : List UInt8} (hblob : handler.resizable = true → WholeElements handler.elementSize blob) :
    (o.setExtraProperty p blob).Persistable := by
  refine ⟨h.toolKey, h.sending, ?_⟩
  intro q handler' hhandler' hresizable
  by_cases hq : q = p
  · subst hq
    rw [hhandler] at hhandler'
    cases hhandler'
    simpa [SecurityInterfaceObject.setExtraProperty] using hblob hresizable
  · simpa [SecurityInterfaceObject.setExtraProperty, Function.update_of_ne hq]
      using h.arrays q handler' hhandler' hresizable

theorem wholeElements_writeBlob {size : Nat} {blob value : List UInt8} {start elementCount : Nat}
    (hsize : 0 < size) (h : WholeElements size blob) (hvalue : elementCount * size ≤ value.length)
    (hlast : start + elementCount ≤ 0xFFFF) :
    WholeElements size (writeBlob blob (start * size) (value.take (elementCount * size))) := by
  obtain ⟨hwhole, hcount⟩ := h
  have hblob : blob.length = blob.length / size * size := by
    rw [Nat.div_mul_cancel (Nat.dvd_of_mod_eq_zero hwhole)]
  have hlength : (writeBlob blob (start * size) (value.take (elementCount * size))).length
      = max (blob.length / size) (start + elementCount) * size := by
    rw [length_writeBlob, List.length_take, Nat.min_eq_left hvalue, ← Nat.add_mul,
      ← Nat.mul_max_mul_right, ← hblob]
  rw [WholeElements, hlength, Nat.mul_mod_left, Nat.mul_div_cancel _ hsize]
  exact ⟨rfl, by omega⟩

theorem Persistable.writeElements (h : o.Persistable) {start elementCount : Nat}
    {value : List UInt8} (hhandler : p.handler = some handler)
    (hcount : elementCount * handler.elementSize ≤ value.length)
    (hlast : start + elementCount ≤ handler.maxElements)
    (hwritten : o.writeElements p handler start elementCount value = some o') : o'.Persistable := by
  have hsize := elementSize_pos hhandler
  cases p with
  | objectType | objectName | loadStateControl => cases hwritten
  | securityMode =>
    simp only [SecurityInterfaceObject.writeElements] at hwritten
    split at hwritten
    · cases hwritten
    · obtain ⟨octet, -, rfl⟩ := Option.map_eq_some_iff.mp hwritten
      exact ⟨h.toolKey, h.sending, h.arrays⟩
  | toolKey =>
    cases hhandler
    simp only [SecurityInterfaceObject.writeElements] at hwritten hcount
    split at hwritten
    · cases hwritten
    · cases hwritten
      refine ⟨?_, h.sending, h.arrays⟩
      rw [List.length_take]
      omega
  | sequenceNumberSending =>
    cases hhandler
    simp only [SecurityInterfaceObject.writeElements] at hwritten hcount
    split at hwritten
    · cases hwritten
    · cases hwritten
      have hlength : (value.take (elementCount * 6)).length = 6 := by
        rw [List.length_take]
        omega
      have hlt := ofOctets_lt (value.take (elementCount * 6))
      rw [hlength] at hlt
      exact ⟨h.toolKey, hlt, h.arrays⟩
  | securityFailuresLog =>
    simp only [SecurityInterfaceObject.writeElements] at hwritten
    split at hwritten
    · cases hwritten
    · cases hwritten
      cases hhandler
      exact h.setExtraProperty rfl fun hresizable => by cases hresizable
  | securityReport | securityReportControl =>
    cases hwritten
    cases hhandler
    exact h.setExtraProperty rfl fun hresizable => by cases hresizable
  | p2pKeyTable | groupKeyTable | securityIndividualAddressTable | zoneKeyTable | goSecurityFlags =>
    cases hwritten
    refine h.setExtraProperty hhandler ?_
    intro hresizable
    have hmax : handler.maxElements = 0xFFFF := by
      cases hhandler
      rfl
    rw [hmax] at hlast
    exact wholeElements_writeBlob hsize (h.arrays _ handler hhandler hresizable) hcount hlast

theorem Persistable.resizeProperty (h : o.Persistable) {elementCount : Nat}
    (hhandler : p.handler = some handler)
    (hresized : o.resizeProperty p handler elementCount = some o') : o'.Persistable := by
  rw [SecurityInterfaceObject.resizeProperty] at hresized
  split at hresized
  · cases hresized
  · rename_i hallowed
    cases hresized
    refine h.setExtraProperty hhandler ?_
    intro hresizable
    have hsize := elementSize_pos hhandler
    have hmax : handler.maxElements = 0xFFFF := by
      cases p <;> cases hhandler <;> first | rfl | cases hresizable
    rw [WholeElements, List.length_replicate, Nat.mul_mod_left, Nat.mul_div_cancel _ hsize]
    exact ⟨rfl, by omega⟩

theorem Persistable.applyLoadControlEvent (h : o.Persistable) (event : UInt8) :
    (o.applyLoadControlEvent event).Persistable := by
  have hreset : o.loadControlReset.Persistable := by
    refine ⟨h.toolKey, h.sending, ?_⟩
    intro p handler hhandler hresizable
    simp only [loadControlReset]
    split
    · exact ⟨Nat.zero_mod _, by simp⟩
    · exact h.arrays p handler hhandler hresizable
  rw [SecurityInterfaceObject.applyLoadControlEvent]
  repeat' split
  · exact h
  · exact ⟨hreset.toolKey, hreset.sending, hreset.arrays⟩
  · exact ⟨h.toolKey, h.sending, h.arrays⟩
  · exact h
  · exact ⟨hreset.toolKey, hreset.sending, hreset.arrays⟩
  · exact ⟨h.toolKey, h.sending, h.arrays⟩

theorem Persistable.writeProperty (h : o.Persistable) {startIndex : Nat} {value : List UInt8}
    (hwritten : o.writeProperty p startIndex value = some o') : o'.Persistable := by
  obtain ⟨handler, hhandler, hresized | ⟨-, -, event, -, rfl⟩ | helements⟩ :=
    writeProperty_cases hwritten
  · exact h.resizeProperty hhandler hresized.2
  · exact h.applyLoadControlEvent event
  · obtain ⟨-, -, -, hlast, helements⟩ := helements
    exact h.writeElements hhandler (elementCount_mul_le value _) hlast helements

end Kept

end KnxStack.Objects.SecurityInterfaceObject

namespace KnxStack.Bau

open KnxStack.Application KnxStack.Lib KnxStack.Lib.Octets KnxStack.Lib.Words KnxStack.Objects

/-! ## What a restore makes of the Security Interface Object -/

/-- What is saved of a property. -/
def securityRecord (o : SecurityInterfaceObject) : SecurityProperty → List UInt8
  | .securityMode => [o.securityMode]
  | .toolKey => o.toolKey
  | .sequenceNumberSending => toOctets 6 o.sendingSequence
  | p => (o.extraProperties p).getD []

theorem persistedValue_eq (o : SecurityInterfaceObject) :
    ∀ p ∈ persistedProperties, persistedValue o p = some (securityRecord o p) := by
  intro p hp
  cases p <;> first | rfl | exact absurd hp (by decide)

/-- A store that holds the value of every persisted property. -/
def HoldsSecurity (store : Store) (o : SecurityInterfaceObject) : Prop :=
  ∀ p ∈ persistedProperties, store (securityKeyId p) = recordOf (securityRecord o p)

theorem holdsSecurity_saveSecurity (store : Store) (o : SecurityInterfaceObject) :
    HoldsSecurity (store.saveSecurity o) o := by
  intro p hp
  rw [Store.saveSecurity, foldl_saveProp_of_mem securityKeyId (persistedValue o) store
    nodup_persistedKeys hp, persistedValue_eq o p hp, savedRecord_some]

theorem persistenceKeyId_ne_securityKeyId :
    ∀ p ∈ persistedObjectProperties, ∀ q ∈ persistedProperties,
      persistenceKeyId p ≠ securityKeyId q := by decide

theorem holdsObjects_saveSecurity {store : Store} {core : CoreObjects} (h : HoldsObjects store core)
    (o : SecurityInterfaceObject) : HoldsObjects (store.saveSecurity o) core := by
  intro p hp
  rw [Store.saveSecurity, foldl_saveProp_of_ne securityKeyId (persistedValue o) store
    (persistenceKeyId_ne_securityKeyId p hp)]
  exact h p hp

/-- The object with one property taken from another. -/
def restoreSecurityProp (o s : SecurityInterfaceObject) (p : SecurityProperty) :
    SecurityInterfaceObject :=
  match p with
  | .securityMode => { s with securityMode := o.securityMode }
  | .toolKey => { s with toolKey := o.toolKey }
  | .sequenceNumberSending => { s with sendingSequence := o.sendingSequence }
  | p =>
      if (o.extraProperties p).getD [] = [] then s
      else s.setExtraProperty p ((o.extraProperties p).getD [])

theorem writeProperty_array {s : SecurityInterfaceObject} {p : SecurityProperty} {size : Nat}
    {blob : List UInt8} (hhandler : p.handler = some (.array size))
    (hnone : s.extraProperties p = none)
    (hwhole : SecurityInterfaceObject.WholeElements size blob) (hne : blob ≠ []) :
    s.writeProperty p 1 blob = some (s.setExtraProperty p blob) := by
  obtain ⟨hmod, hcount⟩ := hwhole
  have hsmall : blob.length / size % 2 ^ 16 = blob.length / size := Nat.mod_eq_of_lt (by omega)
  have hall : blob.length / size * size = blob.length :=
    Nat.div_mul_cancel (Nat.dvd_of_mod_eq_zero hmod)
  have hmax : ¬ 0xFFFF < 1 + blob.length / size - 1 := by omega
  have hwritten : SecurityInterfaceObject.writeBlob [] 0 blob = blob := by
    simp [SecurityInterfaceObject.writeBlob, overwrite]
  have helements : s.writeElements p (.array size) 0 (blob.length / size) blob
      = some (s.setExtraProperty p blob) := by
    cases p with
    | p2pKeyTable | groupKeyTable | securityIndividualAddressTable | zoneKeyTable
    | goSecurityFlags =>
      simp only [SecurityInterfaceObject.writeElements, PropertyHandler.array, hnone, hall,
        Nat.zero_mul, List.take_length, Option.getD_none, hwritten]
    | _ => cases hhandler
  simp only [SecurityInterfaceObject.writeProperty, hhandler]
  simp only [PropertyHandler.array, hne, hmod, hsmall, hmax, Nat.one_ne_zero, Nat.sub_self]
  exact helements

theorem loadProp_array {store : Store} {o s : SecurityInterfaceObject} (ho : o.Persistable)
    {p : SecurityProperty} {size : Nat} (hhandler : p.handler = some (.array size))
    (hrecord : securityRecord o p = (o.extraProperties p).getD [])
    (hblank : s.extraProperties p = none)
    (hstore : store (securityKeyId p) = recordOf (securityRecord o p)) :
    loadProp store s p
      = if (o.extraProperties p).getD [] = [] then s
        else s.setExtraProperty p ((o.extraProperties p).getD []) := by
  rw [loadProp, hstore, hrecord, recordOf]
  by_cases hempty : (o.extraProperties p).getD [] = []
  · rw [if_pos hempty, if_pos hempty]
  · have hwhole := ho.arrays p _ hhandler rfl
    rw [if_neg hempty, if_neg hempty]
    dsimp only
    rw [writeProperty_array hhandler hblank hwhole hempty, Option.getD_some]

theorem loadProp_eq {store : Store} {o s : SecurityInterfaceObject} (ho : o.Persistable)
    {p : SecurityProperty} (hp : p ∈ persistedProperties) (hblank : s.extraProperties p = none)
    (hstore : store (securityKeyId p) = recordOf (securityRecord o p)) :
    loadProp store s p = restoreSecurityProp o s p := by
  cases p with
  | securityMode =>
    rw [loadProp, hstore, securityRecord, recordOf, if_neg (List.cons_ne_nil _ _)]
    simp [SecurityInterfaceObject.writeProperty, SecurityProperty.handler,
      SecurityInterfaceObject.writeElements, restoreSecurityProp]
  | toolKey =>
    have hlength := ho.toolKey
    have hne : o.toolKey ≠ [] := by
      intro hnil
      rw [hnil] at hlength
      cases hlength
    have hall : o.toolKey.take 16 = o.toolKey := List.take_of_length_le (Nat.le_of_eq hlength)
    rw [loadProp, hstore, securityRecord, recordOf, if_neg hne]
    simp [SecurityInterfaceObject.writeProperty, SecurityProperty.handler, hne,
      SecurityInterfaceObject.writeElements, hlength, hall, restoreSecurityProp]
  | sequenceNumberSending =>
    have hlength := length_toOctets 6 o.sendingSequence
    have hne : toOctets 6 o.sendingSequence ≠ [] := toOctets_ne_nil (by decide) _
    have hall : (toOctets 6 o.sendingSequence).take 6 = toOctets 6 o.sendingSequence :=
      List.take_of_length_le (Nat.le_of_eq hlength)
    have hnumber : ofOctets (toOctets 6 o.sendingSequence) = o.sendingSequence := by
      rw [ofOctets_toOctets, Nat.mod_eq_of_lt ho.sending]
    rw [loadProp, hstore, securityRecord, recordOf, if_neg hne]
    simp [SecurityInterfaceObject.writeProperty, SecurityProperty.handler, hne,
      SecurityInterfaceObject.writeElements, hlength, hall, restoreSecurityProp, hnumber]
  | p2pKeyTable | groupKeyTable | securityIndividualAddressTable | zoneKeyTable | goSecurityFlags =>
    exact loadProp_array ho rfl rfl hblank hstore
  | objectType | objectName | loadStateControl | securityFailuresLog | securityReport
  | securityReportControl => exact absurd hp (by decide)

theorem extraProperties_restoreSecurityProp (o s : SecurityInterfaceObject) {p q : SecurityProperty}
    (hne : q ≠ p) : (restoreSecurityProp o s p).extraProperties q = s.extraProperties q := by
  cases p with
  | securityMode | toolKey | sequenceNumberSending => rfl
  | _ =>
    simp only [restoreSecurityProp]
    split
    · rfl
    · exact Function.update_of_ne hne _ _

theorem foldl_loadProp {store : Store} {o : SecurityInterfaceObject} (ho : o.Persistable)
    (properties : List SecurityProperty) :
    ∀ s : SecurityInterfaceObject, properties.Nodup → (∀ p ∈ properties, p ∈ persistedProperties) →
      (∀ p ∈ properties, s.extraProperties p = none) →
      (∀ p ∈ properties, store (securityKeyId p) = recordOf (securityRecord o p)) →
      properties.foldl (loadProp store) s = properties.foldl (restoreSecurityProp o) s := by
  induction properties with
  | nil =>
    intro s _ _ _ _
    rfl
  | cons p properties ih =>
    intro s hnodup hpersisted hblank hstore
    rw [List.nodup_cons] at hnodup
    have hp : p ∈ p :: properties := List.mem_cons_self
    rw [List.foldl_cons, List.foldl_cons,
      loadProp_eq ho (hpersisted p hp) (hblank p hp) (hstore p hp)]
    apply ih _ hnodup.2
    · intro q hq
      exact hpersisted q (List.mem_cons_of_mem p hq)
    · intro q hq
      have hne : q ≠ p := by
        rintro rfl
        exact hnodup.1 hq
      rw [extraProperties_restoreSecurityProp o s hne]
      exact hblank q (List.mem_cons_of_mem p hq)
    · intro q hq
      exact hstore q (List.mem_cons_of_mem p hq)

/-- The Security Interface Object that a restore makes of a saved one. -/
def securityRestored (o : SecurityInterfaceObject) : SecurityInterfaceObject :=
  persistedProperties.foldl (restoreSecurityProp o) {}

theorem restoredSecurity_of_holds {store : Store} {o : SecurityInterfaceObject} (ho : o.Persistable)
    (hstore : HoldsSecurity store o) : restoredSecurity store = securityRestored o :=
  foldl_loadProp ho persistedProperties {} (by decide) (fun _ hp => hp) (fun _ _ => rfl) hstore

theorem scalars_restoreSecurityProp (o s : SecurityInterfaceObject) (p : SecurityProperty) :
    (restoreSecurityProp o s p).securityMode
        = (if p = .securityMode then o.securityMode else s.securityMode)
      ∧ (restoreSecurityProp o s p).toolKey = (if p = .toolKey then o.toolKey else s.toolKey)
      ∧ (restoreSecurityProp o s p).sendingSequence
        = (if p = .sequenceNumberSending then o.sendingSequence else s.sendingSequence) := by
  cases p with
  | securityMode | toolKey | sequenceNumberSending => exact ⟨rfl, rfl, rfl⟩
  | _ =>
    simp only [restoreSecurityProp]
    split <;> exact ⟨rfl, rfl, rfl⟩

theorem scalars_securityRestored (o : SecurityInterfaceObject) :
    (securityRestored o).securityMode = o.securityMode ∧ (securityRestored o).toolKey = o.toolKey
      ∧ (securityRestored o).sendingSequence = o.sendingSequence := by
  have hmode := fun s p => (scalars_restoreSecurityProp o s p).1
  have hkey := fun s p => (scalars_restoreSecurityProp o s p).2.1
  have hsending := fun s p => (scalars_restoreSecurityProp o s p).2.2
  simp [securityRestored, persistedProperties, hmode, hkey, hsending]

theorem extraProperties_securityRestored (o : SecurityInterfaceObject) {p : SecurityProperty}
    {size : Nat} (hhandler : p.handler = some (.array size)) :
    (securityRestored o).extraProperties p
      = recordOf ((o.extraProperties p).getD []) := by
  have hself : ∀ s : SecurityInterfaceObject, (restoreSecurityProp o s p).extraProperties p
      = if (o.extraProperties p).getD [] = [] then s.extraProperties p
        else some ((o.extraProperties p).getD []) := by
    intro s
    cases p with
    | p2pKeyTable | groupKeyTable | securityIndividualAddressTable | zoneKeyTable
    | goSecurityFlags =>
      simp only [restoreSecurityProp]
      split
      · rfl
      · simp [SecurityInterfaceObject.setExtraProperty]
    | _ => cases hhandler
  cases p with
  | p2pKeyTable | groupKeyTable | securityIndividualAddressTable | zoneKeyTable
  | goSecurityFlags =>
    simp [securityRestored, persistedProperties, extraProperties_restoreSecurityProp, hself, recordOf]
  | _ => cases hhandler

/-! ## The manager -/

/-- The interface objects of a manager. -/
structure InterfaceObjects where
  core : CoreObjects := {}
  security : SecurityInterfaceObject := {}

/-- Objects as they are built: what the product sets is given, tables and program are empty. -/
def InterfaceObjects.built (deviceObject : DeviceObject) (groupObjectTable : GroupObjectTable)
    (referenceValues : UInt16 → UInt8 → List UInt8) : InterfaceObjects :=
  { core :=
      { deviceObject := deviceObject
        groupObjectTable := groupObjectTable
        referenceValues := referenceValues } }

namespace InterfaceObjects

variable (schema : ReferenceSchema)

/-- `InterfaceObjectManager::readProperty`. -/
def readProperty (o : InterfaceObjects) (objectType : UInt16) (propertyId : UInt8)
    (startIndex elementCount : Nat) : Option (List UInt8) :=
  if objectType = securityInterfaceObjectType then
    (SecurityProperty.ofPid propertyId).bind fun p =>
      o.security.readProperty p startIndex elementCount
  else o.core.readProperty schema objectType propertyId startIndex elementCount

/-- `InterfaceObjectManager::writeProperty`. -/
def writeProperty (o : InterfaceObjects) (objectType : UInt16) (propertyId : UInt8)
    (startIndex : Nat) (value : List UInt8) : Option InterfaceObjects :=
  if objectType = securityInterfaceObjectType then
    ((SecurityProperty.ofPid propertyId).bind fun p =>
      o.security.writeProperty p startIndex value).map fun security => { o with security := security }
  else
    (o.core.writeProperty schema objectType propertyId startIndex value).map fun core =>
      { o with core := core }

/-- `InterfaceObjectManager::saveToPersistence`. -/
def saveToPersistence (o : InterfaceObjects) (store : Store) : Store :=
  (store.saveObjects schema o.core).saveSecurity o.security

/-- `InterfaceObjectManager::loadFromPersistence`. -/
def loadFromPersistence (fresh : InterfaceObjects) (store : Store) : InterfaceObjects :=
  { core := fresh.core.load schema store
    security := persistedProperties.foldl (loadProp store) fresh.security }

end InterfaceObjects

/-- What changes the objects: a property write, a load event by function property, and the end of a
download, with the segment that it applies. -/
inductive ObjectOperation where
  | writeProperty (objectType : UInt16) (propertyId : UInt8) (startIndex : Nat) (value : List UInt8)
  | loadControlCommand (event : UInt8)
  | completeDownload (objectType : UInt16)
      (segment : { octets : List UInt8 // octets.length ≤ 0xFFFF })

/-- One operation; a write that fails changes nothing. -/
def objectStep (schema : ReferenceSchema) (o : InterfaceObjects) :
    ObjectOperation → InterfaceObjects
  | .writeProperty objectType propertyId startIndex value =>
      (o.writeProperty schema objectType propertyId startIndex value).getD o
  | .loadControlCommand event => { o with security := o.security.applyLoadControlEvent event }
  | .completeDownload objectType segment =>
      { o with core := o.core.applySegment objectType segment.val }

/-! ## What operations keep -/

theorem length_octetString_write {D : Type} {id : UInt8} {get : D → List UInt8}
    {set : D → List UInt8 → D} {d d' : D} {start elementCount : Nat} {value : List UInt8}
    (h : (Handler.octetString id get set).write d start elementCount value = some d')
    (hbounded : (get d).length ≤ 0xFFFF) :
    ∃ octets, d' = set d octets ∧ octets.length ≤ 0xFFFF := by
  simp only [Handler.octetString] at h
  split at h
  · cases h
  · cases h
    refine ⟨_, rfl, ?_⟩
    rw [SecurityInterfaceObject.length_writeBlob, List.length_take]
    omega

theorem bounded_programWrite {q : AppProgramProperty} {a a' : ApplicationProgram}
    {start elementCount : Nat} {value : List UInt8}
    (h : (ApplicationProgram.handler q).write a start elementCount value = some a')
    (hname : a.programName.length ≤ 0xFFFF) (hdescription : a.programDescription.length ≤ 0xFFFF)
    (hdata : a.programData.length ≤ 0xFFFF) :
    a'.programName.length ≤ 0xFFFF ∧ a'.programDescription.length ≤ 0xFFFF
      ∧ a'.programData.length ≤ 0xFFFF := by
  cases q with
  | programName =>
    rw [ApplicationProgram.handler] at h
    obtain ⟨octets, rfl, hoctets⟩ := length_octetString_write h hname
    exact ⟨hoctets, hdescription, hdata⟩
  | programDescription =>
    rw [ApplicationProgram.handler] at h
    obtain ⟨octets, rfl, hoctets⟩ := length_octetString_write h hdescription
    exact ⟨hname, hoctets, hdata⟩
  | programData =>
    rw [ApplicationProgram.handler] at h
    obtain ⟨octets, rfl, hoctets⟩ := length_octetString_write h hdata
    exact ⟨hname, hdescription, hoctets⟩
  | objectType | tableReference =>
    simp only [ApplicationProgram.handler, Handler.scalar] at h
    split at h <;> cases h
  | loadState =>
    simp only [ApplicationProgram.handler, Loadable.handler] at h
    split at h
    · cases h
    · obtain ⟨event, -, rfl⟩ := Option.map_eq_some_iff.mp h
      rw [Loadable.applyLoadControlEvent]
      repeat' split
      all_goals exact ⟨hname, hdescription, hdata⟩
  | programControl =>
    simp only [ApplicationProgram.handler, Handler.scalar] at h
    split at h
    · cases h
    · simp only [ApplicationProgram.executeProgramControl] at h
      repeat' split at h
      all_goals
        cases h
      all_goals exact ⟨hname, hdescription, hdata⟩
  | programVersion =>
    simp only [ApplicationProgram.handler] at h
    repeat' split at h
    all_goals
      cases h
    exact ⟨hname, hdescription, hdata⟩
  | applicationId | applicationVersion | applicationNumber | applicationArea
  | applicationManufacturer | programState | parameterStart | parameterEnd =>
    simp only [ApplicationProgram.handler, ApplicationProgram.octet, ApplicationProgram.word,
      Handler.scalar] at h
    split at h
    · cases h
    · cases h
      exact ⟨hname, hdescription, hdata⟩

theorem applicationProgram_of_lift {D : Type} {handler : Handler D} {get : CoreObjects → D}
    {set : CoreObjects → D → CoreObjects} {o o' : CoreObjects} {startIndex : Nat}
    {value : List UInt8} (h : (handler.lift get set).writeProperty o startIndex value = some o')
    (hset : ∀ d, (set o d).applicationProgram = o.applicationProgram) :
    o'.applicationProgram = o.applicationProgram := by
  rw [Handler.writeProperty_lift] at h
  obtain ⟨d, -, rfl⟩ := Option.map_eq_some_iff.mp h
  exact hset d

theorem bounded_writeProperty (schema : ReferenceSchema) {o o' : CoreObjects} (h : o.Bounded)
    {objectType : UInt16} {propertyId : UInt8} {startIndex : Nat} {value : List UInt8}
    (hwritten : o.writeProperty schema objectType propertyId startIndex value = some o') :
    o'.Bounded := by
  have hsame : o'.applicationProgram = o.applicationProgram → o'.Bounded := by
    intro hprogram
    constructor
    all_goals rw [hprogram]
    · exact h.programName
    · exact h.programDescription
    · exact h.programData
  obtain ⟨p, -, ⟨octet, -, -, -, rfl⟩ | ⟨octet, -, -, -, rfl⟩ | ⟨-, -, hwritten⟩⟩ :=
    CoreObjects.writeProperty_cases schema hwritten
  · exact hsame rfl
  · exact hsame rfl
  · cases p with
    | device p => exact hsame (applicationProgram_of_lift hwritten fun _ => rfl)
    | addressTable p => exact hsame (applicationProgram_of_lift hwritten fun _ => rfl)
    | associationTable p => exact hsame (applicationProgram_of_lift hwritten fun _ => rfl)
    | groupObjectTable p => exact hsame (applicationProgram_of_lift hwritten fun _ => rfl)
    | reference type descriptor => exact hsame (applicationProgram_of_lift hwritten fun _ => rfl)
    | applicationProgram p =>
      rw [ObjectProperty.handler, Handler.writeProperty_lift] at hwritten
      obtain ⟨a, ha, rfl⟩ := Option.map_eq_some_iff.mp hwritten
      obtain ⟨-, -, -, ⟨-, -, -, hwrite⟩ | ⟨-, -, -, -, hwrite⟩⟩ := Handler.writeProperty_cases ha
      all_goals
        obtain ⟨hname, hdescription, hdata⟩ := bounded_programWrite hwrite h.programName
          h.programDescription h.programData
        exact ⟨hname, hdescription, hdata⟩

theorem bounded_applySegment {o : CoreObjects} (h : o.Bounded) (objectType : UInt16)
    {segment : List UInt8} (hsegment : segment.length ≤ 0xFFFF) :
    (o.applySegment objectType segment).Bounded := by
  rw [CoreObjects.applySegment]
  repeat' split
  · exact ⟨h.programName, h.programDescription, h.programData⟩
  · exact ⟨h.programName, h.programDescription, h.programData⟩
  · exact ⟨h.programName, h.programDescription, hsegment⟩
  · exact h

/-- What can be saved of the objects as a whole. -/
structure InterfaceObjects.Persistable (o : InterfaceObjects) : Prop where
  core : o.core.Bounded
  security : o.security.Persistable

theorem persistable_objectStep (schema : ReferenceSchema) (o : InterfaceObjects)
    (operation : ObjectOperation) (h : o.Persistable) :
    (objectStep schema o operation).Persistable := by
  cases operation with
  | writeProperty objectType propertyId startIndex value =>
    rw [objectStep]
    cases hwritten : o.writeProperty schema objectType propertyId startIndex value with
    | none => exact h
    | some o' =>
      rw [Option.getD_some]
      rw [InterfaceObjects.writeProperty] at hwritten
      split at hwritten
      · obtain ⟨security, hsecurity, rfl⟩ := Option.map_eq_some_iff.mp hwritten
        obtain ⟨p, -, hp⟩ := Option.bind_eq_some_iff.mp hsecurity
        exact ⟨h.core, h.security.writeProperty hp⟩
      · obtain ⟨core, hcore, rfl⟩ := Option.map_eq_some_iff.mp hwritten
        exact ⟨bounded_writeProperty schema h.core hcore, h.security⟩
  | loadControlCommand event => exact ⟨h.core, h.security.applyLoadControlEvent event⟩
  | completeDownload objectType segment =>
    exact ⟨bounded_applySegment h.core objectType segment.property, h.security⟩

theorem persistable_built (deviceObject : DeviceObject) (groupObjectTable : GroupObjectTable)
    (referenceValues : UInt16 → UInt8 → List UInt8) :
    (InterfaceObjects.built deviceObject groupObjectTable referenceValues).Persistable :=
  ⟨⟨Nat.zero_le _, Nat.zero_le _, Nat.zero_le _⟩, SecurityInterfaceObject.persistable_default⟩

theorem persistable_run (schema : ReferenceSchema) (deviceObject : DeviceObject)
    (groupObjectTable : GroupObjectTable) (referenceValues : UInt16 → UInt8 → List UInt8)
    (operations : List ObjectOperation) :
    (run (objectStep schema) (InterfaceObjects.built deviceObject groupObjectTable referenceValues)
      operations).Persistable :=
  run_invariant (persistable_objectStep schema)
    (persistable_built deviceObject groupObjectTable referenceValues) operations

/-! ## The round trip -/

/-- The properties that are persisted, by object type and identifier. -/
def persistedIds : List (UInt16 × UInt8) :=
  persistedObjectProperties.map (fun p => (p.objectType, p.handler.id))
    ++ persistedProperties.map fun p => (securityInterfaceObjectType, p.pid)

/-- The current number of elements, as element zero has it. -/
def InterfaceObjects.elementCount (schema : ReferenceSchema) (o : InterfaceObjects)
    (id : UInt16 × UInt8) : Nat :=
  ((o.readProperty schema id.1 id.2 0 1).map ofOctets).getD 0

/-- A property has the same number of elements and the same octets in each. -/
structure SameElements (schema : ReferenceSchema) (o o' : InterfaceObjects) (id : UInt16 × UInt8) :
    Prop where
  count : o'.elementCount schema id = o.elementCount schema id
  elements : ∀ index, 1 ≤ index → index ≤ o.elementCount schema id →
    o'.readProperty schema id.1 id.2 index 1 = o.readProperty schema id.1 id.2 index 1

/-- Saved to an empty store, and restored by fresh objects, every persisted property is the same. -/
def RoundTrips (schema : ReferenceSchema) (fresh o : InterfaceObjects) : Prop :=
  ∀ id ∈ persistedIds,
    SameElements schema o
      (fresh.loadFromPersistence schema (o.saveToPersistence schema fun _ => none)) id

theorem readProperty_tableData_congr {α : Type} {format : EntryFormat α} {objectType : UInt16}
    {dataType : UInt8} {base : Nat} {t t' : LoadableTable format} (h : t'.entries = t.entries)
    (capacity : Option Nat) (startIndex elementCount : Nat) :
    (LoadableTable.handler objectType dataType base .tableData).readProperty capacity t' startIndex
        elementCount
      = (LoadableTable.handler objectType dataType base .tableData).readProperty capacity t startIndex
        elementCount := by
  have hget : t'.get = t.get := by
    funext index
    rw [LoadableTable.get, LoadableTable.get, h]
  simp only [Handler.readProperty, LoadableTable.handler, hget]
  rfl

section Restored

variable (schema : ReferenceSchema) (fresh o : CoreObjects)

theorem readProperty_addressTable (o : CoreObjects) (startIndex elementCount : Nat) :
    o.readProperty schema 1 23 startIndex elementCount
      = if elementCount = 0 then none
        else if startIndex = 0 then some (toOctets 2 o.addressTable.entries.length)
        else (LoadableTable.handler 1 0x04 0x4000 .tableData).readProperty (some 254) o.addressTable
          startIndex elementCount := rfl

theorem readProperty_associationTable (o : CoreObjects) (startIndex elementCount : Nat) :
    o.readProperty schema 2 23 startIndex elementCount
      = if elementCount = 0 then none
        else if startIndex = 0 then some (toOctets 2 o.associationTable.entries.length)
        else (LoadableTable.handler 2 0x14 0x4400 .tableData).readProperty (some 254)
          o.associationTable startIndex elementCount := rfl

theorem readProperty_restored (haddress : o.addressTable.isValid = true)
    (hassociation : o.associationTable.isValid = true) :
    ∀ p ∈ persistedObjectProperties, ∀ startIndex elementCount,
      (CoreObjects.restored fresh o).readProperty schema p.objectType p.handler.id startIndex
          elementCount
        = o.readProperty schema p.objectType p.handler.id startIndex elementCount := by
  intro p hp startIndex elementCount
  cases p with
  | device p => cases p <;> first | rfl | exact absurd hp (by decide)
  | addressTable p =>
    cases p with
    | tableData =>
      have hentries : (CoreObjects.restored fresh o).addressTable.entries
          = o.addressTable.entries := by
        simp only [CoreObjects.restored, haddress, if_true]
      have hread := readProperty_addressTable schema
      exact (hread _ _ _).trans (Eq.trans (by
        rw [hentries, readProperty_tableData_congr hentries]) (hread _ _ _).symm)
    | _ => exact absurd hp (by decide)
  | associationTable p =>
    cases p with
    | tableData =>
      have hentries : (CoreObjects.restored fresh o).associationTable.entries
          = o.associationTable.entries := by
        simp only [CoreObjects.restored, hassociation, if_true]
      have hread := readProperty_associationTable schema
      exact (hread _ _ _).trans (Eq.trans (by
        rw [hentries, readProperty_tableData_congr hentries]) (hread _ _ _).symm)
    | _ => exact absurd hp (by decide)
  | applicationProgram p => cases p <;> first | rfl | exact absurd hp (by decide)
  | groupObjectTable p => cases p <;> exact absurd hp (by decide)
  | reference type descriptor => exact absurd hp (not_persisted_reference type descriptor)

end Restored

theorem ofPid_pid {p : SecurityProperty} (hp : p ∈ persistedProperties) :
    SecurityProperty.ofPid p.pid = some p := by
  cases p <;> first | rfl | exact absurd hp (by decide)

theorem readProperty_array_restored (o : SecurityInterfaceObject) {p : SecurityProperty} {size : Nat}
    (hhandler : p.handler = some (.array size)) :
    (securityRestored o).readProperty p 0 1 = o.readProperty p 0 1
      ∧ ((o.extraProperties p).getD [] ≠ [] → ∀ startIndex elementCount,
        (securityRestored o).readProperty p startIndex elementCount
          = o.readProperty p startIndex elementCount) := by
  have hrestored := extraProperties_securityRestored o hhandler
  have hblob : ((securityRestored o).extraProperties p).getD [] = (o.extraProperties p).getD [] := by
    rw [hrestored, recordOf]
    split
    · rename_i hempty
      rw [hempty, Option.getD_none]
    · rw [Option.getD_some]
  constructor
  · simp only [SecurityInterfaceObject.readProperty, hhandler,
      SecurityInterfaceObject.propertyElementCount, hblob]
    rfl
  · intro hne startIndex elementCount
    have hextra : (securityRestored o).extraProperties p = o.extraProperties p := by
      rw [hrestored, recordOf, if_neg hne]
      cases hsome : o.extraProperties p with
      | none =>
        rw [hsome] at hne
        exact absurd rfl hne
      | some blob => rfl
    have helements : ∀ start,
        (securityRestored o).readElements p (.array size) start elementCount
          = o.readElements p (.array size) start elementCount := by
      intro start
      cases p with
      | p2pKeyTable | groupKeyTable | securityIndividualAddressTable | zoneKeyTable
      | goSecurityFlags => simp only [SecurityInterfaceObject.readElements, hextra]
      | _ => cases hhandler
    simp only [SecurityInterfaceObject.readProperty, hhandler,
      SecurityInterfaceObject.propertyElementCount, hextra, helements]

section Securities

variable (schema : ReferenceSchema) {o o' : InterfaceObjects} {p : SecurityProperty}

theorem readProperty_security (o : InterfaceObjects) (hp : p ∈ persistedProperties)
    (startIndex elementCount : Nat) :
    o.readProperty schema securityInterfaceObjectType p.pid startIndex elementCount
      = o.security.readProperty p startIndex elementCount := by
  rw [InterfaceObjects.readProperty, if_pos rfl, ofPid_pid hp]
  rfl

theorem sameElements_array {size : Nat} (hsecurity : o'.security = securityRestored o.security)
    (hp : p ∈ persistedProperties) (hhandler : p.handler = some (.array size)) :
    SameElements schema o o' (securityInterfaceObjectType, p.pid) := by
  obtain ⟨hcount, helements⟩ := readProperty_array_restored o.security hhandler
  constructor
  · rw [InterfaceObjects.elementCount, InterfaceObjects.elementCount,
      readProperty_security schema o' hp, readProperty_security schema o hp, hsecurity, hcount]
  · intro index hfirst hlast
    rw [readProperty_security schema o' hp, readProperty_security schema o hp, hsecurity]
    apply helements
    -- an empty array has no elements
    intro hempty
    have hzero : o.elementCount schema (securityInterfaceObjectType, p.pid) = 0 := by
      rw [InterfaceObjects.elementCount, readProperty_security schema o hp]
      simp only [SecurityInterfaceObject.readProperty, hhandler,
        SecurityInterfaceObject.propertyElementCount, hempty, PropertyHandler.array]
      simp [ofOctets_toOctets]
    omega

theorem sameElements_scalar (hp : p ∈ persistedProperties)
    (hread : ∀ startIndex elementCount, o'.security.readProperty p startIndex elementCount
      = o.security.readProperty p startIndex elementCount) :
    SameElements schema o o' (securityInterfaceObjectType, p.pid) := by
  constructor
  · rw [InterfaceObjects.elementCount, InterfaceObjects.elementCount,
      readProperty_security schema o' hp, readProperty_security schema o hp, hread]
  · intro index _ _
    rw [readProperty_security schema o' hp, readProperty_security schema o hp, hread]

theorem sameElements_security (hsecurity : o'.security = securityRestored o.security)
    (hp : p ∈ persistedProperties) :
    SameElements schema o o' (securityInterfaceObjectType, p.pid) := by
  obtain ⟨hmode, hkey, hsending⟩ := scalars_securityRestored o.security
  rw [← hsecurity] at hmode hkey hsending
  cases p with
  | p2pKeyTable | groupKeyTable | securityIndividualAddressTable | zoneKeyTable | goSecurityFlags =>
    exact sameElements_array schema hsecurity hp rfl
  | securityMode | toolKey | sequenceNumberSending =>
    apply sameElements_scalar schema hp
    intro startIndex elementCount
    simp only [SecurityInterfaceObject.readProperty, SecurityProperty.handler,
      SecurityInterfaceObject.propertyElementCount, SecurityInterfaceObject.readElements, hmode, hkey,
      hsending]
    rfl
  | objectType | objectName | loadStateControl | securityFailuresLog | securityReport
  | securityReportControl => exact absurd hp (by decide)

end Securities

theorem type_ne_security : ∀ p ∈ persistedObjectProperties,
    p.objectType ≠ securityInterfaceObjectType := by decide

theorem readProperty_core (schema : ReferenceSchema) (o : InterfaceObjects) {objectType : UInt16}
    (hne : objectType ≠ securityInterfaceObjectType) (propertyId : UInt8)
    (startIndex elementCount : Nat) :
    o.readProperty schema objectType propertyId startIndex elementCount
      = o.core.readProperty schema objectType propertyId startIndex elementCount := by
  rw [InterfaceObjects.readProperty, if_neg hne]

theorem elementCount_addressTable (schema : ReferenceSchema) (o : InterfaceObjects) :
    o.elementCount schema (1, 23) = ofOctets (toOctets 2 o.core.addressTable.entries.length) := by
  rw [InterfaceObjects.elementCount, readProperty_core schema o (by decide),
    readProperty_addressTable, if_neg Nat.one_ne_zero, if_pos rfl, Option.map_some, Option.getD_some]

theorem elementCount_associationTable (schema : ReferenceSchema) (o : InterfaceObjects) :
    o.elementCount schema (2, 23)
      = ofOctets (toOctets 2 o.core.associationTable.entries.length) := by
  rw [InterfaceObjects.elementCount, readProperty_core schema o (by decide),
    readProperty_associationTable, if_neg Nat.one_ne_zero, if_pos rfl, Option.map_some,
    Option.getD_some]

theorem isValid_of_length_eq {α : Type} {format : EntryFormat α} (hmax : format.maxEntries < 2 ^ 16)
    {t : LoadableTable format} (t' : LoadableTable format) (hempty : t.isValid = false → t'.entries = [])
    (hcount : ofOctets (toOctets 2 t'.entries.length) = ofOctets (toOctets 2 t.entries.length)) :
    t.isValid = true := by
  by_contra hinvalid
  have hbounded := t.bounded
  rw [hempty (by simpa using hinvalid), ofOctets_toOctets, ofOctets_toOctets, List.length_nil,
    Nat.zero_mod, Nat.mod_eq_of_lt (show t.entries.length < 256 ^ 2 by omega)] at hcount
  apply hinvalid
  rw [LoadableTable.isValid, List.length_eq_zero_iff.mp hcount.symm]
  rfl

theorem roundTrips_iff (schema : ReferenceSchema) {fresh o : InterfaceObjects}
    (hfresh : fresh.core.Fresh) (hsecurity : fresh.security = {}) (ho : o.Persistable) :
    RoundTrips schema fresh o
      ↔ o.core.addressTable.isValid = true ∧ o.core.associationTable.isValid = true := by
  have hholds := holdsObjects_saveObjects schema (fun _ => none) ho.core
  generalize hrestored :
    fresh.loadFromPersistence schema (o.saveToPersistence schema fun _ => none) = o'
  have hcore : o'.core = CoreObjects.restored fresh.core o.core := by
    rw [← hrestored]
    exact load_of_holds schema hfresh ho.core (holdsObjects_saveSecurity hholds o.security)
  have hsecurity' : o'.security = securityRestored o.security := by
    rw [← hrestored, InterfaceObjects.loadFromPersistence, hsecurity]
    exact restoredSecurity_of_holds ho.security (holdsSecurity_saveSecurity _ o.security)
  rw [RoundTrips, hrestored]
  constructor
  · intro htrips
    constructor
    · apply isValid_of_length_eq (by decide) o'.core.addressTable
      · intro hinvalid
        rw [hcore, CoreObjects.restored, hinvalid]
        exact hfresh.addressTable
      · have hcount := (htrips (1, 23) (by decide)).count
        rwa [elementCount_addressTable, elementCount_addressTable] at hcount
    · apply isValid_of_length_eq (by decide) o'.core.associationTable
      · intro hinvalid
        rw [hcore, CoreObjects.restored, hinvalid]
        exact hfresh.associationTable
      · have hcount := (htrips (2, 23) (by decide)).count
        rwa [elementCount_associationTable, elementCount_associationTable] at hcount
  · rintro ⟨haddress, hassociation⟩ id hid
    rw [persistedIds, List.mem_append, List.mem_map, List.mem_map] at hid
    rcases hid with ⟨p, hp, rfl⟩ | ⟨p, hp, rfl⟩
    · have hread := readProperty_restored schema fresh.core o.core haddress hassociation p hp
      rw [← hcore] at hread
      have hne := type_ne_security p hp
      constructor
      · rw [InterfaceObjects.elementCount, InterfaceObjects.elementCount,
          readProperty_core schema o' hne, readProperty_core schema o hne, hread]
      · intro index _ _
        rw [readProperty_core schema o' hne, readProperty_core schema o hne, hread]
    · exact sameElements_security schema hsecurity' hp

/-- Objects that come back. In every state that property writes, load events and downloads reach,
a save followed by a restore of freshly built objects gives back every persisted property, unless the
group address table has a zero address or the association table an entry that is not valid; then it
does not. -/
theorem objects_roundTrip_iff (schema : ReferenceSchema)
    (deviceObject deviceObject' : DeviceObject) (groupObjectTable : GroupObjectTable)
    (referenceValues : UInt16 → UInt8 → List UInt8) (operations : List ObjectOperation) :
    let o := run (objectStep schema) (.built deviceObject groupObjectTable referenceValues) operations
    RoundTrips schema (.built deviceObject' groupObjectTable referenceValues) o
      ↔ o.core.addressTable.isValid = true ∧ o.core.associationTable.isValid = true :=
  roundTrips_iff schema ⟨rfl, rfl, rfl, rfl, rfl⟩ rfl
    (persistable_run schema deviceObject groupObjectTable referenceValues operations)

/-- A write to the second entry of an empty group address table leaves a gap before it, and what is
restored has no entry at all. -/
theorem gap_not_restored :
    let o := run (objectStep fun _ => []) {} [.writeProperty 1 23 2 [0x09, 0x01]]
    o.core.addressTable.entries = [0, 0x0901] ∧ ¬ RoundTrips (fun _ => []) {} o := by
  constructor
  · decide
  · intro htrips
    have hcount := (htrips (1, 23) (by decide)).count
    revert hcount
    decide

end KnxStack.Bau
