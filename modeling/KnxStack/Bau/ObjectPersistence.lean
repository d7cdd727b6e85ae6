import KnxStack.Bau.SecurityPersistence
import KnxStack.Objects.CoreObjects

/-!
# Keeping the interface objects across restarts

`InterfaceObjectManager::saveToPersistence` and `loadFromPersistence`
(`objects/interface_object_manager.cpp`) for the objects beside the Security Interface Object: every
property that the manifest marks is saved as one record, and restored by writing that record to the
property.

`load_of_holds` says what comes back: `CoreObjects.restored` has the scalars and the strings as
they were, and of a table all entries or, if one of them is not valid, none.
-/

set_option autoImplicit false

namespace KnxStack.Bau

open KnxStack.Lib.Growing KnxStack.Lib.Octets KnxStack.Lib.Words KnxStack.Objects

/-! ## Records -/

/-- The properties that the manifests mark as persisted, in their order. -/
def persistedObjectProperties : List ObjectProperty :=
  List.map ObjectProperty.device
      [.subnetAddress, .deviceAddress, .routingCount, .maxRetryCount, .errorFlags, .programVersion,
        .deviceControl, .runStateControl]
    ++ [ObjectProperty.addressTable .tableData, ObjectProperty.associationTable .tableData]
    ++ List.map ObjectProperty.applicationProgram
      [.programVersion, .applicationId, .applicationVersion, .applicationNumber, .applicationArea,
        .applicationManufacturer, .programState, .parameterStart, .parameterEnd, .programData,
        .programName, .programDescription]

/-- `makePersistenceKeyId`. -/
def persistenceKeyId (p : ObjectProperty) : UInt16 :=
  (p.objectType <<< 8) ||| p.handler.id.toUInt16

/-- `savePropertyFromKernel`: some elements from the first on; nothing is read of an empty array. -/
def elementsFromKernel (o : CoreObjects) (p : ObjectProperty) (elementCount : Nat) :
    Option (List UInt8) :=
  if elementCount = 0 then some [] else p.handler.readProperty none o 1 elementCount

/-- The value under which a property is saved: a table or a string as a whole, anything else as its
one element. -/
def persistedObjectValue (schema : ReferenceSchema) (o : CoreObjects) (p : ObjectProperty) :
    Option (List UInt8) :=
  match p with
  | .addressTable .tableData => elementsFromKernel o p o.addressTable.entries.length
  | .associationTable .tableData => elementsFromKernel o p o.associationTable.entries.length
  | .applicationProgram .programName =>
      elementsFromKernel o p (o.applicationProgram.programName.length % 2 ^ 16)
  | .applicationProgram .programDescription =>
      elementsFromKernel o p (o.applicationProgram.programDescription.length % 2 ^ 16)
  | .applicationProgram .programData =>
      elementsFromKernel o p (o.applicationProgram.programData.length % 2 ^ 16)
  | _ => o.readProperty schema p.objectType p.handler.id 1 1

/-- The part of `saveToPersistence` for these objects. -/
def Store.saveObjects (schema : ReferenceSchema) (store : Store) (o : CoreObjects) : Store :=
  persistedObjectProperties.foldl
    (fun store p => store.saveProp (persistenceKeyId p) (persistedObjectValue schema o p)) store

/-- `loadProp` on these objects. -/
def loadObjectProp (schema : ReferenceSchema) (store : Store) (o : CoreObjects)
    (p : ObjectProperty) : CoreObjects :=
  match store (persistenceKeyId p) with
  | none => o
  | some data => (o.writeProperty schema p.objectType p.handler.id 1 data).getD o

end KnxStack.Bau

namespace KnxStack.Objects.CoreObjects

open KnxStack.Bau

/-- The part of `loadFromPersistence` for these objects. -/
def load (schema : ReferenceSchema) (store : Store) (fresh : CoreObjects) :
    CoreObjects :=
  persistedObjectProperties.foldl (loadObjectProp schema store) fresh

/-! ## What a restore makes of a save -/

/-- The objects that a restore makes of saved ones, from fresh ones. -/
def restored (fresh o : CoreObjects) : CoreObjects :=
  { fresh with
    deviceObject :=
      { fresh.deviceObject with
        individualAddress := o.deviceObject.individualAddress
        routingCount := o.deviceObject.routingCount
        maxRetryCount := o.deviceObject.maxRetryCount
        errorFlags := o.deviceObject.errorFlags
        progVersion := o.deviceObject.progVersion
        deviceControl := o.deviceObject.deviceControl
        runState := o.deviceObject.runState }
    addressTable :=
      if o.addressTable.isValid then { o.addressTable with loadState := fresh.addressTable.loadState }
      else fresh.addressTable
    associationTable :=
      if o.associationTable.isValid then
        { o.associationTable with loadState := fresh.associationTable.loadState }
      else fresh.associationTable
    applicationProgram := { o.applicationProgram with loadState := fresh.applicationProgram.loadState } }

/-- Tables and strings of a freshly built manager are empty. -/
structure Fresh (fresh : CoreObjects) : Prop where
  addressTable : fresh.addressTable.entries = []
  associationTable : fresh.associationTable.entries = []
  programName : fresh.applicationProgram.programName = []
  programDescription : fresh.applicationProgram.programDescription = []
  programData : fresh.applicationProgram.programData = []

/-- The strings of the application program are no longer than an index reaches. -/
structure Bounded (o : CoreObjects) : Prop where
  programName : o.applicationProgram.programName.length ≤ 0xFFFF
  programDescription : o.applicationProgram.programDescription.length ≤ 0xFFFF
  programData : o.applicationProgram.programData.length ≤ 0xFFFF

end KnxStack.Objects.CoreObjects

namespace KnxStack.Bau

open KnxStack.Lib.Growing KnxStack.Lib.Octets KnxStack.Lib.Words KnxStack.Objects

theorem not_persisted_reference (type : UInt16) (descriptor : Application.PropertyDescriptor) :
    ObjectProperty.reference type descriptor ∉ persistedObjectProperties := by
  simp [persistedObjectProperties]

/-- The record of a value: there is none of an empty one. -/
def recordOf (data : List UInt8) : Option (List UInt8) := if data = [] then none else some data

/-- What is saved of a property. -/
def objectRecord (o : CoreObjects) : ObjectProperty → List UInt8
  | .addressTable .tableData => groupAddressFormat.encodeEntries o.addressTable.entries
  | .associationTable .tableData => associationFormat.encodeEntries o.associationTable.entries
  | .applicationProgram .programName => o.applicationProgram.programName
  | .applicationProgram .programDescription => o.applicationProgram.programDescription
  | .applicationProgram .programData => o.applicationProgram.programData
  | p => (p.handler.read o 0 1).getD []

theorem map_get_range {α : Type} {format : EntryFormat α} (t : LoadableTable format) :
    ((List.range t.entries.length).map fun i => t.get (0 + i)) = t.entries := by
  apply List.ext_getElem?
  intro i
  rw [List.getElem?_map]
  by_cases hi : i < t.entries.length
  · rw [List.getElem?_range hi, Option.map_some, Nat.zero_add, LoadableTable.get,
      List.getD_eq_getElem?_getD, List.getElem?_eq_getElem hi]
    rfl
  · rw [List.getElem?_eq_none (by rw [List.length_range]; omega), List.getElem?_eq_none (by omega)]
    rfl

theorem elementsFromKernel_table {α : Type} {format : EntryFormat α} (o : CoreObjects)
    (t : LoadableTable format) (p : ObjectProperty) {objectType : UInt16} {dataType : UInt8}
    {base : Nat} {get : CoreObjects → LoadableTable format}
    {set : CoreObjects → LoadableTable format → CoreObjects} (hget : get o = t)
    (hp : p.handler = (LoadableTable.handler objectType dataType base .tableData).lift get set)
    (hsize : propertyElementSize dataType = format.size) :
    elementsFromKernel o p t.entries.length = some (format.encodeEntries t.entries) := by
  rw [elementsFromKernel]
  by_cases hempty : t.entries.length = 0
  · rw [if_pos hempty, List.length_eq_zero_iff.mp hempty]
    rfl
  · have hpos := format.size_pos
    have hbounded := t.bounded
    have hmax : ¬ format.maxEntries < 1 + t.entries.length - 1 := by omega
    rw [if_neg hempty, hp]
    simp only [Handler.readProperty, Handler.lift, LoadableTable.handler, Handler.elementSize,
      hget, hsize, hmax, hempty, Nat.sub_self, map_get_range, Option.any_none,
      PropertyCapability.canRead, Nat.one_ne_zero, or_self, if_false, Nat.ne_of_gt hpos]
    simp [EntryFormat.length_encodeEntries]

theorem elementsFromKernel_octetString (o : CoreObjects) (octets : List UInt8) (p : ObjectProperty)
    {id : UInt8} {get : ApplicationProgram → List UInt8}
    {set : ApplicationProgram → List UInt8 → ApplicationProgram}
    (hget : get o.applicationProgram = octets)
    (hp : p.handler = (Handler.octetString id get set).lift (fun o => o.applicationProgram)
      fun o a => { o with applicationProgram := a })
    (hbounded : octets.length ≤ 0xFFFF) :
    elementsFromKernel o p (octets.length % 2 ^ 16) = some octets := by
  have hsmall : octets.length % 2 ^ 16 = octets.length := Nat.mod_eq_of_lt (by omega)
  rw [elementsFromKernel, hsmall]
  by_cases hempty : octets.length = 0
  · rw [if_pos hempty, List.length_eq_zero_iff.mp hempty]
  · have hmax : ¬ 0xFFFF < 1 + octets.length - 1 := by omega
    have hsize : propertyElementSize 0x11 = 1 := by decide
    rw [if_neg hempty, hp]
    simp only [Handler.readProperty, Handler.lift, Handler.octetString, Handler.elementSize, hsize,
      hget, hmax, hempty, Nat.sub_self, Option.any_none, PropertyCapability.canRead,
      Nat.one_ne_zero, or_self, if_false, Nat.zero_add, Nat.lt_irrefl, slice, List.drop_zero,
      List.take_length]
    simp

theorem persistedObjectValue_eq (schema : ReferenceSchema) {o : CoreObjects} (h : o.Bounded) :
    ∀ p ∈ persistedObjectProperties,
      persistedObjectValue schema o p = some (objectRecord o p) := by
  intro p hp
  cases p with
  | device p => cases p <;> first | rfl | exact absurd hp (by decide)
  | addressTable p =>
    cases p with
    | tableData => exact elementsFromKernel_table o o.addressTable _ rfl rfl rfl
    | _ => exact absurd hp (by decide)
  | associationTable p =>
    cases p with
    | tableData => exact elementsFromKernel_table o o.associationTable _ rfl rfl rfl
    | _ => exact absurd hp (by decide)
  | applicationProgram p =>
    cases p with
    | programName => exact elementsFromKernel_octetString o _ _ rfl rfl h.programName
    | programDescription => exact elementsFromKernel_octetString o _ _ rfl rfl h.programDescription
    | programData => exact elementsFromKernel_octetString o _ _ rfl rfl h.programData
    | programVersion =>
      have hlength := o.applicationProgram.programVersion.property
      change Option.filter (fun octets : List UInt8 => decide (octets.length = 1 * 5))
        (some o.applicationProgram.programVersion.val) = some o.applicationProgram.programVersion.val
      rw [Option.filter_some, if_pos (decide_eq_true hlength)]
    | objectType | loadState | tableReference | programControl => exact absurd hp (by decide)
    | _ => rfl
  | groupObjectTable p => cases p <;> exact absurd hp (by decide)
  | reference type descriptor => exact absurd hp (not_persisted_reference type descriptor)

theorem nodup_persistenceKeyIds : (persistedObjectProperties.map persistenceKeyId).Nodup := by decide

/-- A store that holds the value of every persisted property. -/
def HoldsObjects (store : Store) (o : CoreObjects) : Prop :=
  ∀ p ∈ persistedObjectProperties, store (persistenceKeyId p) = recordOf (objectRecord o p)

theorem savedRecord_some (old : Option (List UInt8)) (data : List UInt8) :
    savedRecord old (some data) = recordOf data := by
  cases data with
  | nil => rfl
  | cons octet rest => rfl

theorem holdsObjects_saveObjects (schema : ReferenceSchema) (store : Store) {o : CoreObjects}
    (h : o.Bounded) : HoldsObjects (store.saveObjects schema o) o := by
  intro p hp
  rw [Store.saveObjects, foldl_saveProp_of_mem persistenceKeyId (persistedObjectValue schema o)
    store nodup_persistenceKeyIds hp, persistedObjectValue_eq schema h p hp, savedRecord_some]

/-! ## Restoring a record -/

/-- The objects with one property taken from others. -/
def restoreProp (o s : CoreObjects) : ObjectProperty → CoreObjects
  | .device .subnetAddress =>
      { s with
        deviceObject := s.deviceObject.setSubnetAddress (highByte o.deviceObject.individualAddress.raw) }
  | .device .deviceAddress =>
      { s with
        deviceObject := s.deviceObject.setDeviceAddress (lowByte o.deviceObject.individualAddress.raw) }
  | .device .routingCount =>
      { s with deviceObject := { s.deviceObject with routingCount := o.deviceObject.routingCount } }
  | .device .maxRetryCount =>
      { s with deviceObject := { s.deviceObject with maxRetryCount := o.deviceObject.maxRetryCount } }
  | .device .errorFlags =>
      { s with deviceObject := { s.deviceObject with errorFlags := o.deviceObject.errorFlags } }
  | .device .programVersion =>
      { s with deviceObject := { s.deviceObject with progVersion := o.deviceObject.progVersion } }
  | .device .deviceControl =>
      { s with deviceObject := { s.deviceObject with deviceControl := o.deviceObject.deviceControl } }
  | .device .runStateControl =>
      { s with deviceObject := { s.deviceObject with runState := o.deviceObject.runState } }
  | .addressTable .tableData =>
      { s with
        addressTable :=
          if o.addressTable.isValid then { o.addressTable with loadState := s.addressTable.loadState }
          else s.addressTable }
  | .associationTable .tableData =>
      { s with
        associationTable :=
          if o.associationTable.isValid then
            { o.associationTable with loadState := s.associationTable.loadState }
          else s.associationTable }
  | .applicationProgram p =>
      { s with
        applicationProgram :=
          let program := s.applicationProgram
          match p with
          | .programVersion => { program with programVersion := o.applicationProgram.programVersion }
          | .applicationId => { program with applicationId := o.applicationProgram.applicationId }
          | .applicationVersion =>
              { program with applicationVersion := o.applicationProgram.applicationVersion }
          | .applicationNumber =>
              { program with applicationNumber := o.applicationProgram.applicationNumber }
          | .applicationArea => { program with applicationArea := o.applicationProgram.applicationArea }
          | .applicationManufacturer =>
              { program with
                applicationManufacturer := o.applicationProgram.applicationManufacturer }
          | .programState => { program with programState := o.applicationProgram.programState }
          | .parameterStart => { program with parameterStart := o.applicationProgram.parameterStart }
          | .parameterEnd => { program with parameterEnd := o.applicationProgram.parameterEnd }
          | .programData => { program with programData := o.applicationProgram.programData }
          | .programName => { program with programName := o.applicationProgram.programName }
          | .programDescription =>
              { program with programDescription := o.applicationProgram.programDescription }
          | _ => program }
  | _ => s

/-- Nothing is there yet of a table or a string. -/
def Blank (s : CoreObjects) : ObjectProperty → Prop
  | .addressTable .tableData => s.addressTable.entries = []
  | .associationTable .tableData => s.associationTable.entries = []
  | .applicationProgram .programName => s.applicationProgram.programName = []
  | .applicationProgram .programDescription => s.applicationProgram.programDescription = []
  | .applicationProgram .programData => s.applicationProgram.programData = []
  | _ => True

theorem Blank.congr {s s' : CoreObjects} {p : ObjectProperty}
    (haddress : s'.addressTable = s.addressTable)
    (hassociation : s'.associationTable = s.associationTable)
    (hprogram : s'.applicationProgram = s.applicationProgram) (h : Blank s p) : Blank s' p := by
  rw [Blank.eq_def] at h ⊢
  rw [haddress, hassociation, hprogram]
  exact h

theorem restoreProp_device (o s : CoreObjects) (q : DeviceProperty) :
    (restoreProp o s (.device q)).addressTable = s.addressTable
      ∧ (restoreProp o s (.device q)).associationTable = s.associationTable
      ∧ (restoreProp o s (.device q)).applicationProgram = s.applicationProgram := by
  cases q <;> exact ⟨rfl, rfl, rfl⟩

theorem Blank.restoreProp {o s : CoreObjects} {p q : ObjectProperty} (h : Blank s p) (hne : p ≠ q) :
    Blank (restoreProp o s q) p := by
  cases q with
  | device q =>
    obtain ⟨haddress, hassociation, hprogram⟩ := restoreProp_device o s q
    exact h.congr haddress hassociation hprogram
  | groupObjectTable q | reference type descriptor => exact h
  | addressTable q =>
    cases p with
    | addressTable p => cases p <;> cases q <;> first | exact h | exact absurd rfl hne
    | device p | groupObjectTable p | reference type descriptor => trivial
    | associationTable p => cases p <;> cases q <;> exact h
    | applicationProgram p =>
      cases p with
      | programName | programDescription | programData => cases q <;> exact h
      | _ => trivial
  | associationTable q =>
    cases p with
    | associationTable p => cases p <;> cases q <;> first | exact h | exact absurd rfl hne
    | device p | groupObjectTable p | reference type descriptor => trivial
    | addressTable p => cases p <;> cases q <;> exact h
    | applicationProgram p =>
      cases p with
      | programName | programDescription | programData => cases q <;> exact h
      | _ => trivial
  | applicationProgram q =>
    cases p with
    | applicationProgram p =>
      cases p with
      | programName | programDescription | programData =>
        cases q <;> first | exact h | exact absurd rfl hne
      | _ => trivial
    | device p | groupObjectTable p | reference type descriptor => trivial
    | addressTable p | associationTable p => cases p <;> exact h

/-! ## Restoring all of them -/

theorem uint8_ofNat_ofOctets (x : UInt8) : UInt8.ofNat (ofOctets (toOctets 1 x.toNat)) = x := by
  have hlt : x.toNat < 256 ^ 1 := x.toNat_lt
  rw [ofOctets_toOctets, Nat.mod_eq_of_lt hlt, UInt8.ofNat_toNat]

theorem uint16_ofNat_ofOctets (x : UInt16) : UInt16.ofNat (ofOctets (toOctets 2 x.toNat)) = x := by
  have hlt : x.toNat < 256 ^ 2 := x.toNat_lt
  rw [ofOctets_toOctets, Nat.mod_eq_of_lt hlt, UInt16.ofNat_toNat]

theorem writeProperty_scalar {D : Type} {id type : UInt8} {width : Nat} {get : D → Nat}
    {set : D → Nat → Option D} (htype : type ≠ 0x00) (hsize : propertyElementSize type = width)
    (hwidth : 0 < width) (d : D) {value : List UInt8} (hvalue : value.length = width) :
    (Handler.scalar id type .readWrite width get set).writeProperty d 1 value
      = set d (ofOctets value) := by
  have hne : width ≠ 0 := Nat.ne_of_gt hwidth
  have hvalue' : value ≠ [] := by
    rintro rfl
    exact hne hvalue.symm
  have hone : width / width = 1 := Nat.div_self hwidth
  have hall : value.take width = value := List.take_of_length_le (Nat.le_of_eq hvalue)
  simp [Handler.writeProperty, Handler.scalar, Handler.elementSize, hsize, htype, hvalue', hvalue,
    hone, PropertyCapability.canWrite, hne, hall]

section Records

variable (schema : ReferenceSchema) {store : Store} {o s : CoreObjects} {p : ObjectProperty}

theorem loadObjectProp_of_record {data : List UInt8} {s' : CoreObjects}
    (hstore : store (persistenceKeyId p) = some data)
    (hwrite : s.writeProperty schema p.objectType p.handler.id 1 data = some s') :
    loadObjectProp schema store s p = s' := by
  rw [loadObjectProp, hstore]
  dsimp only
  rw [hwrite, Option.getD_some]

theorem writeProperty_table {α : Type} {format : EntryFormat α} (objectType : UInt16)
    {dataType : UInt8} (base : Nat) (hsize : propertyElementSize dataType = format.size)
    (htype : dataType ≠ 0x00) (hmax : format.maxEntries < 2 ^ 16) (t fresh : LoadableTable format)
    (hfresh : fresh.entries = []) (hne : t.entries ≠ []) :
    (LoadableTable.handler objectType dataType base .tableData).writeProperty fresh 1
        (format.encodeEntries t.entries)
      = if t.isValid then some { t with loadState := fresh.loadState } else none := by
  have hpos := format.size_pos
  have hbounded := t.bounded
  have hlength := format.length_encodeEntries t.entries
  have hsome := format.encodeEntries_ne_nil hne
  have hdiv : t.entries.length * format.size / format.size % 2 ^ 16 = t.entries.length := by
    rw [Nat.mul_div_cancel _ hpos]
    exact Nat.mod_eq_of_lt (by omega)
  have hlast : ¬ format.maxEntries < 1 + t.entries.length - 1 := by omega
  have hzero : ¬ format.size = 0 := Nat.ne_of_gt hpos
  simp only [Handler.writeProperty, LoadableTable.handler, Handler.elementSize, hsize, htype,
    if_neg hzero, hsome, hlength, hdiv, hlast, Nat.mul_mod_left, PropertyCapability.canWrite,
    Nat.one_ne_zero, Nat.sub_self, if_false, ne_eq, not_true_eq_false, or_self,
    LoadableTable.setEntries, EntryFormat.decodeEntries_encodeEntries, LoadableTable.isValid, hfresh,
    writeFrom_nil_zero, EntryFormat.length_decodeEntries, Nat.zero_add, dif_pos hbounded]
  rfl

theorem writeProperty_octetString {D : Type} {id : UInt8} {get : D → List UInt8}
    {set : D → List UInt8 → D} (d : D) {octets : List UInt8} (hblank : get d = [])
    (hbounded : octets.length ≤ 0xFFFF) (hne : octets ≠ []) :
    (Handler.octetString id get set).writeProperty d 1 octets = some (set d octets) := by
  have hsmall : octets.length / 1 % 2 ^ 16 = octets.length := by
    rw [Nat.div_one]
    exact Nat.mod_eq_of_lt (by omega)
  have hlast : ¬ 0xFFFF < 1 + octets.length - 1 := by omega
  have hend : ¬ 0xFFFF < octets.length := by omega
  have hsize : propertyElementSize 0x11 = 1 := by decide
  have hwritten : SecurityInterfaceObject.writeBlob [] 0 octets = octets := by
    simp [SecurityInterfaceObject.writeBlob, overwrite]
  simp only [Handler.writeProperty, Handler.octetString, Handler.elementSize, hsize, hne, hsmall,
    hlast, hend, hblank, hwritten, Nat.mod_one, PropertyCapability.canWrite, Nat.one_ne_zero,
    Nat.sub_self, Nat.zero_add, List.take_length, if_false, ne_eq, not_true_eq_false, or_self]
  rfl

theorem toOctets_one (x : UInt8) : toOctets 1 x.toNat = [x] := by
  rw [toOctets, toOctets, UInt8.ofNat_toNat]
  rfl

theorem stored_of_ne_nil {data : List UInt8} (hrecord : objectRecord o p = data) (hne : data ≠ [])
    (hstore : store (persistenceKeyId p) = recordOf (objectRecord o p)) :
    store (persistenceKeyId p) = some data := by
  rw [hstore, hrecord, recordOf, if_neg hne]

theorem toOctets_ne_nil {width : Nat} (hwidth : 0 < width) (x : Nat) : toOctets width x ≠ [] := by
  intro hnil
  have hlength := length_toOctets width x
  rw [hnil, List.length_nil] at hlength
  omega

theorem loadObjectProp_scalar {D : Type} {id type : UInt8} {width : Nat} {get : D → Nat}
    {set : D → Nat → Option D} {getO : CoreObjects → D} {setO : CoreObjects → D → CoreObjects}
    {s' : CoreObjects}
    (hhandler : p.handler = (Handler.scalar id type .readWrite width get set).lift getO setO)
    (htype : type ≠ 0x00) (hsize : propertyElementSize type = width) (hwidth : 0 < width)
    (hkernel : ∀ value, s.writeProperty schema p.objectType p.handler.id 1 value
      = p.handler.writeProperty s 1 value)
    (hread : objectRecord o p = (p.handler.read o 0 1).getD [])
    (hstore : store (persistenceKeyId p) = recordOf (objectRecord o p))
    (hset : (set (getO s) (ofOctets (toOctets width (get (getO o))))).map (setO s) = some s') :
    loadObjectProp schema store s p = s' := by
  have hrecord : objectRecord o p = toOctets width (get (getO o)) := by
    rw [hread, hhandler]
    rfl
  apply loadObjectProp_of_record schema
    (stored_of_ne_nil hrecord (toOctets_ne_nil hwidth _) hstore)
  rw [hkernel, hhandler, Handler.writeProperty_lift,
    writeProperty_scalar htype hsize hwidth _ (length_toOctets width _), hset]

theorem loadObjectProp_table {α : Type} {format : EntryFormat α} {objectType : UInt16}
    {dataType : UInt8} {base : Nat} {get : CoreObjects → LoadableTable format}
    {set : CoreObjects → LoadableTable format → CoreObjects}
    (hhandler : p.handler
      = (LoadableTable.handler objectType dataType base .tableData).lift get set)
    (hkernel : ∀ value, s.writeProperty schema p.objectType p.handler.id 1 value
      = p.handler.writeProperty s 1 value)
    (hsize : propertyElementSize dataType = format.size) (htype : dataType ≠ 0x00)
    (hmax : format.maxEntries < 2 ^ 16) (hset : set s (get s) = s)
    (hrecord : objectRecord o p = format.encodeEntries (get o).entries)
    (hblank : (get s).entries = [])
    (hstore : store (persistenceKeyId p) = recordOf (objectRecord o p)) :
    loadObjectProp schema store s p
      = set s (if (get o).isValid then { get o with loadState := (get s).loadState } else get s) := by
  by_cases hempty : (get o).entries = []
  · -- an empty table leaves no record
    have hnone : store (persistenceKeyId p) = none := by
      rw [hstore, hrecord, hempty]
      rfl
    have hsame : ({ get o with loadState := (get s).loadState } : LoadableTable format) = get s := by
      cases hs : get s with
      | mk entries bounded loadState =>
        rw [hs] at hblank
        subst hblank
        simp only [hempty]
    rw [loadObjectProp, hnone, hsame, ite_self, hset]
  · have hwritten := writeProperty_table objectType base hsize htype hmax (get o) (get s) hblank hempty
    have hne := format.encodeEntries_ne_nil hempty
    rw [loadObjectProp, stored_of_ne_nil hrecord hne hstore]
    dsimp only
    rw [hkernel, hhandler, Handler.writeProperty_lift, hwritten]
    by_cases hvalid : (get o).isValid = true
    · rw [if_pos hvalid, if_pos hvalid]
      rfl
    · rw [if_neg hvalid, if_neg hvalid, hset]
      rfl

theorem loadObjectProp_octetString {id : UInt8} {get : ApplicationProgram → List UInt8}
    {set : ApplicationProgram → List UInt8 → ApplicationProgram}
    (hhandler : p.handler = (Handler.octetString id get set).lift (fun o => o.applicationProgram)
      fun o a => { o with applicationProgram := a })
    (hkernel : ∀ value, s.writeProperty schema p.objectType p.handler.id 1 value
      = p.handler.writeProperty s 1 value)
    (hset : set s.applicationProgram (get s.applicationProgram) = s.applicationProgram)
    (hrecord : objectRecord o p = get o.applicationProgram)
    (hbounded : (get o.applicationProgram).length ≤ 0xFFFF) (hblank : get s.applicationProgram = [])
    (hstore : store (persistenceKeyId p) = recordOf (objectRecord o p)) :
    loadObjectProp schema store s p
      = { s with applicationProgram := set s.applicationProgram (get o.applicationProgram) } := by
  by_cases hempty : get o.applicationProgram = []
  · have hnone : store (persistenceKeyId p) = none := by
      rw [hstore, hrecord, hempty]
      rfl
    rw [loadObjectProp, hnone, hempty, ← hblank, hset]
  · apply loadObjectProp_of_record schema (stored_of_ne_nil hrecord hempty hstore)
    rw [hkernel, hhandler, Handler.writeProperty_lift, writeProperty_octetString _ hblank hbounded hempty]
    rfl

theorem writeProperty_programVersion (s : CoreObjects)
    (version : { octets : List UInt8 // octets.length = 5 }) :
    s.writeProperty schema 3 13 1 version.val
      = some { s with
          applicationProgram := { s.applicationProgram with programVersion := version } } := by
  obtain ⟨octets, hlength⟩ := version
  have hkernel : s.writeProperty schema 3 13 1 octets
      = (ObjectProperty.applicationProgram .programVersion).handler.writeProperty s 1 octets := rfl
  have hsize : propertyElementSize 0x15 = 5 := by decide
  have hne : octets ≠ [] := by
    rintro rfl
    cases hlength
  have hall : octets.take 5 = octets := List.take_of_length_le (Nat.le_of_eq hlength)
  rw [hkernel, ObjectProperty.handler, Handler.writeProperty_lift]
  simp [Handler.writeProperty, ApplicationProgram.handler, Handler.elementSize, hsize, hne, hlength,
    PropertyCapability.canWrite, hall]

theorem loadObjectProp_eq (hbounded : o.Bounded) (hp : p ∈ persistedObjectProperties)
    (hblank : Blank s p)
    (hstore : store (persistenceKeyId p) = recordOf (objectRecord o p)) :
    loadObjectProp schema store s p = restoreProp o s p := by
  cases p with
  | device p =>
    cases p with
    | subnetAddress =>
      have hrecord := toOctets_one (highByte o.deviceObject.individualAddress.raw)
      exact loadObjectProp_of_record schema
        (stored_of_ne_nil hrecord (List.cons_ne_nil _ _) hstore) rfl
    | deviceAddress =>
      have hrecord := toOctets_one (lowByte o.deviceObject.individualAddress.raw)
      exact loadObjectProp_of_record schema
        (stored_of_ne_nil hrecord (List.cons_ne_nil _ _) hstore) rfl
    | routingCount | maxRetryCount | errorFlags | programVersion | deviceControl
    | runStateControl =>
      refine loadObjectProp_scalar schema
        (by rw [ObjectProperty.handler, DeviceObject.handler, DeviceObject.octet])
        (by decide) (by decide) (by decide) (fun _ => rfl) rfl hstore ?_
      rw [uint8_ofNat_ofOctets]
      rfl
    | _ => exact absurd hp (by decide)
  | addressTable p =>
    cases p with
    | tableData =>
      exact loadObjectProp_table schema rfl (fun _ => rfl) rfl (by decide) (by decide) rfl rfl hblank
        hstore
    | _ => exact absurd hp (by decide)
  | associationTable p =>
    cases p with
    | tableData =>
      exact loadObjectProp_table schema rfl (fun _ => rfl) rfl (by decide) (by decide) rfl rfl hblank
        hstore
    | _ => exact absurd hp (by decide)
  | applicationProgram p =>
    cases p with
    | applicationVersion | applicationArea | programState =>
      refine loadObjectProp_scalar schema
        (by rw [ObjectProperty.handler, ApplicationProgram.handler, ApplicationProgram.octet])
        (by decide) (by decide) (by decide) (fun _ => rfl) rfl hstore ?_
      rw [uint8_ofNat_ofOctets]
      rfl
    | applicationId | applicationNumber | applicationManufacturer | parameterStart | parameterEnd =>
      refine loadObjectProp_scalar schema
        (by rw [ObjectProperty.handler, ApplicationProgram.handler, ApplicationProgram.word])
        (by decide) (by decide) (by decide) (fun _ => rfl) rfl hstore ?_
      rw [uint16_ofNat_ofOctets]
      rfl
    | programVersion =>
      have hrecord : objectRecord o (.applicationProgram .programVersion)
          = o.applicationProgram.programVersion.val := rfl
      have hlength := o.applicationProgram.programVersion.property
      have hne : o.applicationProgram.programVersion.val ≠ [] := by
        intro hnil
        rw [hnil] at hlength
        cases hlength
      apply loadObjectProp_of_record schema (stored_of_ne_nil hrecord hne hstore)
      exact writeProperty_programVersion schema s o.applicationProgram.programVersion
    | programData =>
      exact loadObjectProp_octetString schema rfl (fun _ => rfl) rfl rfl hbounded.programData hblank
        hstore
    | programName =>
      exact loadObjectProp_octetString schema rfl (fun _ => rfl) rfl rfl hbounded.programName hblank
        hstore
    | programDescription =>
      exact loadObjectProp_octetString schema rfl (fun _ => rfl) rfl rfl hbounded.programDescription
        hblank hstore
    | objectType | loadState | tableReference | programControl => exact absurd hp (by decide)
  | groupObjectTable p => cases p <;> exact absurd hp (by decide)
  | reference type descriptor => exact absurd hp (not_persisted_reference type descriptor)

end Records

theorem foldl_loadObjectProp (schema : ReferenceSchema) {store : Store} {o : CoreObjects}
    (hbounded : o.Bounded) (properties : List ObjectProperty) :
    ∀ s : CoreObjects, properties.Nodup → (∀ p ∈ properties, p ∈ persistedObjectProperties) →
      (∀ p ∈ properties, Blank s p) →
      (∀ p ∈ properties, store (persistenceKeyId p) = recordOf (objectRecord o p)) →
      properties.foldl (loadObjectProp schema store) s = properties.foldl (restoreProp o) s := by
  induction properties with
  | nil =>
    intro s _ _ _ _
    rfl
  | cons p properties ih =>
    intro s hnodup hpersisted hblank hstore
    rw [List.nodup_cons] at hnodup
    have hp : p ∈ p :: properties := List.mem_cons_self
    rw [List.foldl_cons, List.foldl_cons,
      loadObjectProp_eq schema hbounded (hpersisted p hp) (hblank p hp) (hstore p hp)]
    apply ih _ hnodup.2
    · intro q hq
      exact hpersisted q (List.mem_cons_of_mem p hq)
    · intro q hq
      have hne : q ≠ p := by
        rintro rfl
        exact hnodup.1 hq
      exact (hblank q (List.mem_cons_of_mem p hq)).restoreProp hne
    · intro q hq
      exact hstore q (List.mem_cons_of_mem p hq)

theorem load_of_holds (schema : ReferenceSchema) {store : Store} {fresh o : CoreObjects}
    (hfresh : fresh.Fresh) (hbounded : o.Bounded) (hstore : HoldsObjects store o) :
    CoreObjects.load schema store fresh = CoreObjects.restored fresh o := by
  have hblank : ∀ p ∈ persistedObjectProperties, Blank fresh p := by
    intro p _
    cases p with
    | device p => trivial
    | addressTable p => cases p <;> first | trivial | exact hfresh.addressTable
    | associationTable p => cases p <;> first | trivial | exact hfresh.associationTable
    | applicationProgram p =>
      cases p <;>
        first
        | trivial
        | exact hfresh.programName
        | exact hfresh.programDescription
        | exact hfresh.programData
    | groupObjectTable p => trivial
    | reference type descriptor => trivial
  rw [CoreObjects.load,
    foldl_loadObjectProp schema hbounded _ fresh (by decide) (fun _ hp => hp) hblank hstore]
  -- the two halves of the address are restored one after the other
  have haddress : joinBytes
      (highByte (joinBytes (highByte o.deviceObject.individualAddress.raw)
        (lowByte fresh.deviceObject.individualAddress.raw)))
      (lowByte o.deviceObject.individualAddress.raw) = o.deviceObject.individualAddress.raw := by
    rw [highByte_joinBytes, joinBytes_highByte_lowByte]
  simp only [persistedObjectProperties, List.map_cons, List.map_nil, List.cons_append,
    List.nil_append, List.foldl_cons, List.foldl_nil, restoreProp, DeviceObject.setSubnetAddress,
    DeviceObject.setDeviceAddress, haddress, CoreObjects.restored]

end KnxStack.Bau
