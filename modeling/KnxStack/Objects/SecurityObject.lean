import KnxStack.Lib.Words
import KnxStack.Objects.SecurityIaTable
import KnxStack.Types

/-!
# The Security Interface Object

`SecurityInterfaceObject` (`objects/security_interface_object.cpp`): keys, sequence numbers and the
tables that a management client downloads, together with its part of the property kernel
(`objects/property_kernel.hpp`, `objects/interface_object_manager.cpp`).

Two accesses to one property are the same function with other parameters: an array property is an
octet string with an element size, and `handler` has the size, the length and the direction of every
property.

`written_writeProperty` says what a property write can do, and `Written.keeps` what it leaves alone.
-/

set_option autoImplicit false

namespace KnxStack.Objects

open KnxStack.Lib.Octets KnxStack.Lib.Words

/-! ## Data -/

/-- `SecurityProperty`. -/
inductive SecurityProperty where
  | objectType
  | objectName
  | loadStateControl
  | securityMode
  | p2pKeyTable
  | groupKeyTable
  | securityIndividualAddressTable
  | securityFailuresLog
  | toolKey
  | securityReport
  | securityReportControl
  | sequenceNumberSending
  | zoneKeyTable
  | goSecurityFlags
  deriving DecidableEq, Repr

/-- The property identifier. -/
def SecurityProperty.pid : SecurityProperty → UInt8
  | .objectType => 1
  | .objectName => 2
  | .loadStateControl => 5
  | .securityMode => 51
  | .p2pKeyTable => 52
  | .groupKeyTable => 53
  | .securityIndividualAddressTable => 54
  | .securityFailuresLog => 55
  | .toolKey => 56
  | .securityReport => 57
  | .securityReportControl => 58
  | .sequenceNumberSending => 59
  | .zoneKeyTable => 60
  | .goSecurityFlags => 61

/-- `SecurityFailure`, in the order of its codes. -/
inductive SecurityFailure where
  | none
  | sequenceNumberInvalid
  | authenticationFailed
  | decryptionFailed
  | unknownKey
  | invalidSender
  deriving DecidableEq, Repr

/-- The code of a failure. -/
def SecurityFailure.code : SecurityFailure → UInt8
  | .none => 0
  | .sequenceNumberInvalid => 1
  | .authenticationFailed => 2
  | .decryptionFailed => 3
  | .unknownKey => 4
  | .invalidSender => 5

/-- A key of sixteen octets. -/
abbrev Key : Type := List UInt8

/-- `SecurityInterfaceObject`. A map without an entry is read as its default, so the sequence number
of an unknown partner is zero. -/
structure SecurityInterfaceObject where
  securityMode : UInt8 := 0
  toolKey : Key := List.replicate 16 0
  deviceKeys : UInt16 → Option Key := fun _ => none
  groupKeys : UInt16 → Option Key := fun _ => none
  sendingSequence : Nat := 0
  toolAccessSequence : Nat := 0
  peerSequences : UInt16 → Nat := fun _ => 0
  sequenceStateDirty : Bool := false
  lastFailure : SecurityFailure := .none
  failureCount : UInt32 := 0
  lastFailureSource : UInt16 := 0
  extraProperties : SecurityProperty → Option (List UInt8) := fun _ => none
  loadState : UInt8 := 0

namespace SecurityInterfaceObject

/-- `isSecurityEnabled`. -/
def isSecurityEnabled (o : SecurityInterfaceObject) : Bool := o.securityMode == 1

/-- `hasToolKey`. -/
def hasToolKey (o : SecurityInterfaceObject) : Bool := o.toolKey.any (· != 0)

/-- The Security Individual Address Table. -/
def iaTable (o : SecurityInterfaceObject) : Option (List UInt8) :=
  o.extraProperties .securityIndividualAddressTable

/-- `upsertExtraProperty`, assigned. -/
def setExtraProperty (o : SecurityInterfaceObject) (p : SecurityProperty) (blob : List UInt8) :
    SecurityInterfaceObject :=
  { o with extraProperties := Function.update o.extraProperties p (some blob) }

/-- `logSecurityFailure`. -/
def logSecurityFailure (o : SecurityInterfaceObject) (failure : SecurityFailure) (source : UInt16) :
    SecurityInterfaceObject :=
  { o with lastFailure := failure, failureCount := o.failureCount + 1, lastFailureSource := source }

/-! ## Sequence numbers -/

/-- `incrementSendingSequence`. -/
def incrementSendingSequence (o : SecurityInterfaceObject) : SecurityInterfaceObject :=
  { o with sendingSequence := (o.sendingSequence + 1) % 2 ^ 64 }

/-- `setToolAccessSequence`. -/
def setToolAccessSequence (o : SecurityInterfaceObject) (seq : Nat) : SecurityInterfaceObject :=
  if seq = o.toolAccessSequence then o
  else { o with toolAccessSequence := seq, sequenceStateDirty := true }

/-- `setPeerSequence`: the number is written through to the table, if the partner has an entry. -/
def setPeerSequence (o : SecurityInterfaceObject) (address : UInt16) (seq : Nat) :
    SecurityInterfaceObject :=
  if o.peerSequences address = seq then o
  else
    { o with
      peerSequences := Function.update o.peerSequences address seq
      sequenceStateDirty := true
      extraProperties :=
        match o.iaTable with
        | none => o.extraProperties
        | some blob =>
            Function.update o.extraProperties .securityIndividualAddressTable
              (some (SecurityIaTable.setSequenceFor blob address seq)) }

/-- `syncSequencesFromAddressTable`. -/
def syncSequencesFromAddressTable (o : SecurityInterfaceObject) : SecurityInterfaceObject :=
  match o.iaTable with
  | none => o
  | some blob =>
      { o with
        peerSequences := (SecurityIaTable.sync o.peerSequences blob).1
        extraProperties := Function.update o.extraProperties .securityIndividualAddressTable
          (some (SecurityIaTable.sync o.peerSequences blob).2) }

/-! ## Load control -/

/-- `loadControlReset`. -/
def loadControlReset (o : SecurityInterfaceObject) : SecurityInterfaceObject :=
  { o with
    deviceKeys := fun _ => none
    groupKeys := fun _ => none
    extraProperties := fun p =>
      if p = .p2pKeyTable ∨ p = .groupKeyTable ∨ p = .securityIndividualAddressTable
          ∨ p = .zoneKeyTable ∨ p = .goSecurityFlags then none
      else o.extraProperties p }

/-- `applyLoadControlEvent`. -/
def applyLoadControlEvent (o : SecurityInterfaceObject) (event : UInt8) : SecurityInterfaceObject :=
  if event = 0 then o
  else if event = 1 then { o.loadControlReset with loadState := 2 }
  else if event = 2 then { o with loadState := 1 }
  else if event = 3 then o
  else if event = 4 then { o.loadControlReset with loadState := 0 }
  else { o with loadState := 3 }

end SecurityInterfaceObject

/-! ## Properties -/

/-- What the kernel reads of a `PropertyHandler`. -/
structure PropertyHandler where
  elementSize : Nat
  maxElements : Nat := 1
  control : Bool := false
  writable : Bool := true
  resizable : Bool := false
  deriving DecidableEq, Repr

/-- A downloadable array. -/
def PropertyHandler.array (elementSize : Nat) : PropertyHandler :=
  { elementSize := elementSize, maxElements := 0xFFFF, resizable := true }

/-- `kSecurityHandlers`. The object's name is declared by no handler. -/
def SecurityProperty.handler : SecurityProperty → Option PropertyHandler
  | .objectType => some { elementSize := 2, writable := false }
  | .objectName => none
  | .loadStateControl => some { elementSize := 1, control := true }
  | .securityMode => some { elementSize := 1 }
  | .p2pKeyTable => some (.array 20)
  | .groupKeyTable => some (.array 18)
  | .securityIndividualAddressTable => some (.array 8)
  | .securityFailuresLog => some { elementSize := 7 }
  | .toolKey => some { elementSize := 16 }
  | .securityReport => some { elementSize := 1 }
  | .securityReportControl => some { elementSize := 1 }
  | .sequenceNumberSending => some { elementSize := 6 }
  | .zoneKeyTable => some (.array 19)
  | .goSecurityFlags => some (.array 1)

namespace SecurityInterfaceObject

/-- `writeBlobProperty`: the string grows with zeros as far as it is written. -/
def writeBlob (blob : List UInt8) (offset : Nat) (chunk : List UInt8) : List UInt8 :=
  overwrite (blob ++ List.replicate (offset + chunk.length - blob.length) 0) offset chunk

/-- The write of some elements of a property, by its handler. -/
def writeElements (o : SecurityInterfaceObject) (p : SecurityProperty) (handler : PropertyHandler)
    (start elementCount : Nat) (value : List UInt8) : Option SecurityInterfaceObject :=
  let chunk := value.take (elementCount * handler.elementSize)
  match p with
  | .objectType => none
  | .objectName => none
  | .loadStateControl => none
  | .securityMode =>
      if elementCount ≠ 1 then none else value.head?.map fun octet => { o with securityMode := octet }
  | .toolKey => if start ≠ 0 ∨ elementCount ≠ 1 then none else some { o with toolKey := chunk }
  | .sequenceNumberSending =>
      if start ≠ 0 ∨ elementCount ≠ 1 then none else some { o with sendingSequence := ofOctets chunk }
  | .securityFailuresLog =>
      if start ≠ 0 ∨ elementCount ≠ 1 then none else some (o.setExtraProperty p chunk)
  | _ =>
      some (o.setExtraProperty p
        (writeBlob ((o.extraProperties p).getD []) (start * handler.elementSize) chunk))

/-- `resizeBlobProperty`. -/
def resizeProperty (o : SecurityInterfaceObject) (p : SecurityProperty) (handler : PropertyHandler)
    (elementCount : Nat) : Option SecurityInterfaceObject :=
  if !handler.writable ∨ !handler.resizable ∨ handler.maxElements < elementCount then none
  else some (o.setExtraProperty p (List.replicate (elementCount * handler.elementSize) 0))

/-- `InterfaceObjectManager::writeProperty` on this object; nothing when it does not succeed. -/
def writeProperty (o : SecurityInterfaceObject) (p : SecurityProperty) (startIndex : Nat)
    (value : List UInt8) : Option SecurityInterfaceObject :=
  match p.handler with
  | none => none
  | some handler =>
      if startIndex = 0 then
        if value.length ≠ 2 then none else o.resizeProperty p handler (ofOctets value)
      else if !handler.writable then none
      else if handler.control then
        if startIndex ≠ 1 ∨ value.length > 10 then none
        else value.head?.map o.applyLoadControlEvent
      else if value = [] ∨ value.length % handler.elementSize ≠ 0 then none
      else
        let elementCount := value.length / handler.elementSize % 2 ^ 16
        if handler.maxElements < startIndex + elementCount - 1 then none
        else o.writeElements p handler (startIndex - 1) elementCount value

/-- The octets of some elements of a property, by its handler. -/
def readElements (o : SecurityInterfaceObject) (p : SecurityProperty) (handler : PropertyHandler)
    (start elementCount : Nat) : Option (List UInt8) :=
  match p with
  | .objectType => if elementCount ≠ 1 then none else some [0, 17]
  | .objectName => none
  | .loadStateControl => some (o.loadState :: List.replicate (elementCount - 1) 0)
  | .securityMode => if elementCount ≠ 1 then none else some [o.securityMode]
  | .toolKey => if start ≠ 0 ∨ elementCount ≠ 1 then none else some o.toolKey
  | .sequenceNumberSending =>
      if start ≠ 0 ∨ elementCount ≠ 1 then none else some (toOctets 6 o.sendingSequence)
  | .securityFailuresLog =>
      if start ≠ 0 ∨ elementCount ≠ 1 then none
      else
        some (o.lastFailure.code :: toOctets 4 o.failureCount.toNat
          ++ [highByte o.lastFailureSource, lowByte o.lastFailureSource])
  | _ =>
      let offset := start * handler.elementSize
      let count := elementCount * handler.elementSize
      match o.extraProperties p with
      | none => some (List.replicate count 0)
      | some blob => if blob.length < offset + count then none else some (slice blob offset count)

/-- `propertyElementCount`: how much of an array is in use. -/
def propertyElementCount (o : SecurityInterfaceObject) (p : SecurityProperty)
    (handler : PropertyHandler) : Nat :=
  if handler.resizable then ((o.extraProperties p).getD []).length / handler.elementSize % 2 ^ 16
  else handler.maxElements

/-- `InterfaceObjectManager::readProperty` on this object, into a buffer of `MAX_APDU_LENGTH`. -/
def readProperty (o : SecurityInterfaceObject) (p : SecurityProperty)
    (startIndex elementCount : Nat) : Option (List UInt8) :=
  if elementCount = 0 then none
  else
    match p.handler with
    | none => none
    | some handler =>
        if startIndex = 0 then some (toOctets 2 (o.propertyElementCount p handler))
        else if handler.maxElements < startIndex + elementCount - 1 then none
        else if 254 < elementCount * handler.elementSize then none
        else o.readElements p handler (startIndex - 1) elementCount

/-! ## What a property write does -/

/-- A table that a property write can make: whole entries, and no more than an index reaches. -/
def WholeEntries (blob : List UInt8) : Prop := blob.length % 8 = 0 ∧ blob.length / 8 ≤ 0xFFFF

theorem length_writeBlob (blob : List UInt8) (offset : Nat) (chunk : List UInt8) :
    (writeBlob blob offset chunk).length = max blob.length (offset + chunk.length) := by
  have hpadded : (blob ++ List.replicate (offset + chunk.length - blob.length) (0 : UInt8)).length
      = max blob.length (offset + chunk.length) := by
    rw [List.length_append, List.length_replicate]
    omega
  rw [writeBlob, length_overwrite (by omega), hpadded]

theorem wholeEntries_writeBlob {blob value : List UInt8} {start elementCount : Nat}
    (h : WholeEntries blob) (hvalue : elementCount * 8 ≤ value.length)
    (hlast : start + elementCount ≤ 0xFFFF) :
    WholeEntries (writeBlob blob (start * 8) (value.take (elementCount * 8))) := by
  obtain ⟨hwhole, hcount⟩ := h
  rw [WholeEntries, length_writeBlob, List.length_take]
  omega

/-- What a property write can do to the object: set one of the octet strings, a scalar, or the
load state. -/
inductive Written (o : SecurityInterfaceObject) (p : SecurityProperty) :
    SecurityInterfaceObject → Prop where
  | blob (blob : List UInt8)
      (whole : p = .securityIndividualAddressTable → WholeEntries (o.iaTable.getD []) →
        WholeEntries blob) : Written o p (o.setExtraProperty p blob)
  | mode (octet : UInt8) : Written o p { o with securityMode := octet }
  | toolKey (key : Key) : Written o p { o with toolKey := key }
  | sending (hp : p = .sequenceNumberSending) (n : Nat) (hn : n < 256 ^ 6) :
      Written o p { o with sendingSequence := n }
  | loadControl (hp : p = .loadStateControl) (event : UInt8) :
      Written o p (o.applyLoadControlEvent event)

theorem written_writeElements {o o' : SecurityInterfaceObject} {p : SecurityProperty}
    {handler : PropertyHandler} {start elementCount : Nat} {value : List UInt8}
    (hhandler : p.handler = some handler)
    (hcount : elementCount * handler.elementSize ≤ value.length)
    (hlast : start + elementCount ≤ handler.maxElements)
    (h : o.writeElements p handler start elementCount value = some o') : Written o p o' := by
  cases p with
  | objectType => cases h
  | objectName => cases h
  | loadStateControl => cases h
  | securityMode =>
    simp only [writeElements] at h
    split at h
    · cases h
    · obtain ⟨octet, -, rfl⟩ := Option.map_eq_some_iff.mp h
      exact .mode octet
  | toolKey =>
    simp only [writeElements] at h
    split at h
    · cases h
    · cases h
      exact .toolKey _
  | sequenceNumberSending =>
    cases hhandler
    simp only [writeElements] at h hcount
    split at h
    · cases h
    · rename_i hone
      cases h
      have hlength : (value.take (elementCount * 6)).length = 6 := by
        rw [List.length_take]
        omega
      have hlt := ofOctets_lt (value.take (elementCount * 6))
      rw [hlength] at hlt
      exact .sending rfl _ hlt
  | securityFailuresLog =>
    simp only [writeElements] at h
    split at h
    · cases h
    · cases h
      exact .blob _ nofun
  | securityIndividualAddressTable =>
    cases hhandler
    cases h
    exact .blob _ fun _ hwhole => wholeEntries_writeBlob hwhole hcount hlast
  | p2pKeyTable | groupKeyTable | securityReport | securityReportControl | zoneKeyTable
    | goSecurityFlags =>
    cases h
    exact .blob _ nofun

theorem written_resizeProperty {o o' : SecurityInterfaceObject} {p : SecurityProperty}
    {handler : PropertyHandler} {elementCount : Nat} (hhandler : p.handler = some handler)
    (h : o.resizeProperty p handler elementCount = some o') : Written o p o' := by
  rw [resizeProperty] at h
  split at h
  · cases h
  · rename_i hallowed
    cases h
    refine .blob _ ?_
    rintro rfl _
    cases hhandler
    simp only [PropertyHandler.array, not_or, Nat.not_lt] at hallowed
    rw [WholeEntries, List.length_replicate]
    simp only [PropertyHandler.array]
    omega

/-- The three ways in which a write succeeds: element zero gives an array a new length, a control
property takes an event, and any other property takes the elements. -/
theorem writeProperty_cases {o o' : SecurityInterfaceObject} {p : SecurityProperty}
    {startIndex : Nat} {value : List UInt8} (h : o.writeProperty p startIndex value = some o') :
    ∃ handler, p.handler = some handler
      ∧ ((startIndex = 0 ∧ o.resizeProperty p handler (ofOctets value) = some o')
        ∨ (startIndex = 1 ∧ handler.control = true
          ∧ ∃ event, value.head? = some event ∧ o' = o.applyLoadControlEvent event)
        ∨ (0 < startIndex ∧ handler.control = false ∧ value.length % handler.elementSize = 0
          ∧ startIndex - 1 + value.length / handler.elementSize % 2 ^ 16 ≤ handler.maxElements
          ∧ o.writeElements p handler (startIndex - 1) (value.length / handler.elementSize % 2 ^ 16)
              value = some o')) := by
  rw [writeProperty] at h
  cases hhandler : p.handler with
  | none =>
    rw [hhandler] at h
    cases h
  | some handler =>
    rw [hhandler] at h
    dsimp only at h
    refine ⟨handler, rfl, ?_⟩
    split at h
    · rename_i hzero
      split at h
      · cases h
      · exact .inl ⟨hzero, h⟩
    · rename_i hzero
      split at h
      · cases h
      · split at h
        · rename_i hcontrol
          split at h
          · cases h
          · rename_i hfirst
            obtain ⟨event, hevent, rfl⟩ := Option.map_eq_some_iff.mp h
            exact .inr (.inl ⟨by omega, hcontrol, event, hevent, rfl⟩)
        · rename_i hcontrol
          split at h
          · cases h
          · rename_i hwhole
            split at h
            · cases h
            · exact .inr (.inr ⟨by omega, by simpa using hcontrol, by omega, by omega, h⟩)

theorem elementCount_mul_le (value : List UInt8) (size : Nat) :
    value.length / size % 2 ^ 16 * size ≤ value.length :=
  Nat.le_trans (Nat.mul_le_mul_right _ (Nat.mod_le _ _)) (Nat.div_mul_le_self _ _)

theorem written_writeProperty {o o' : SecurityInterfaceObject} {p : SecurityProperty}
    {startIndex : Nat} {value : List UInt8} (h : o.writeProperty p startIndex value = some o') :
    Written o p o' := by
  obtain ⟨handler, hhandler, hresized | ⟨-, hcontrol, event, -, rfl⟩ | hwritten⟩ :=
    writeProperty_cases h
  · exact written_resizeProperty hhandler hresized.2
  · refine .loadControl ?_ event
    cases p <;> cases hhandler <;> first | rfl | contradiction
  · obtain ⟨-, -, -, hlast, helements⟩ := hwritten
    exact written_writeElements hhandler (elementCount_mul_le value _) hlast helements

/-! ## What changes leave alone -/

/-- Same sequence numbers, except the one for sending, and the same mark for them. -/
structure SameNumbers (o o' : SecurityInterfaceObject) : Prop where
  toolAccessSequence : o'.toolAccessSequence = o.toolAccessSequence
  peerSequences : o'.peerSequences = o.peerSequences
  sequenceStateDirty : o'.sequenceStateDirty = o.sequenceStateDirty

/-- The table, if there is one, has whole entries. -/
def TableWhole (o : SecurityInterfaceObject) : Prop := WholeEntries (o.iaTable.getD [])

theorem sameNumbers_applyLoadControlEvent (o : SecurityInterfaceObject) (event : UInt8) :
    SameNumbers o (o.applyLoadControlEvent event)
      ∧ (o.applyLoadControlEvent event).sendingSequence = o.sendingSequence
      ∧ ((o.applyLoadControlEvent event).iaTable = o.iaTable
        ∨ (o.applyLoadControlEvent event).iaTable = none) := by
  rw [applyLoadControlEvent]
  repeat' split
  all_goals
    refine ⟨⟨rfl, rfl, rfl⟩, rfl, ?_⟩
    simp [iaTable, loadControlReset]

theorem wholeEntries_nil : WholeEntries [] := by
  rw [WholeEntries]
  exact ⟨rfl, Nat.zero_le _⟩

theorem iaTable_setExtraProperty_of_ne (o : SecurityInterfaceObject) {p : SecurityProperty}
    (hp : p ≠ .securityIndividualAddressTable) (blob : List UInt8) :
    (o.setExtraProperty p blob).iaTable = o.iaTable :=
  Function.update_of_ne hp.symm _ _

theorem iaTable_setExtraProperty_self (o : SecurityInterfaceObject) (blob : List UInt8) :
    (o.setExtraProperty .securityIndividualAddressTable blob).iaTable = some blob := by
  simp [iaTable, setExtraProperty]

/-- A property write keeps the numbers of the partners, and of the table at most its entries. -/
theorem Written.keeps {o o' : SecurityInterfaceObject} {p : SecurityProperty} (h : Written o p o') :
    SameNumbers o o' ∧ (o.TableWhole → o'.TableWhole)
      ∧ (p ≠ .sequenceNumberSending → o'.sendingSequence = o.sendingSequence) := by
  cases h with
  | blob blob whole =>
    refine ⟨⟨rfl, rfl, rfl⟩, ?_, fun _ => rfl⟩
    intro htable
    by_cases hp : p = .securityIndividualAddressTable
    · subst hp
      rw [TableWhole, iaTable_setExtraProperty_self]
      exact whole rfl htable
    · rw [TableWhole, iaTable_setExtraProperty_of_ne o hp]
      exact htable
  | mode octet => exact ⟨⟨rfl, rfl, rfl⟩, id, fun _ => rfl⟩
  | toolKey key => exact ⟨⟨rfl, rfl, rfl⟩, id, fun _ => rfl⟩
  | sending hp n hn => exact ⟨⟨rfl, rfl, rfl⟩, id, fun hne => absurd hp hne⟩
  | loadControl hp event =>
    obtain ⟨hsame, hsending, htable⟩ := sameNumbers_applyLoadControlEvent o event
    refine ⟨hsame, ?_, fun _ => hsending⟩
    intro hwhole
    rcases htable with htable | htable
    · rw [TableWhole, htable]
      exact hwhole
    · rw [TableWhole, htable]
      exact wholeEntries_nil

theorem Written.iaTable_of_ne {o o' : SecurityInterfaceObject} {p : SecurityProperty}
    (h : Written o p o') (hp : p ≠ .securityIndividualAddressTable)
    (hload : p ≠ .loadStateControl) : o'.iaTable = o.iaTable := by
  cases h with
  | blob blob whole => exact iaTable_setExtraProperty_of_ne o hp blob
  | mode octet => rfl
  | toolKey key => rfl
  | sending hsending n hn => rfl
  | loadControl hcontrol event => exact absurd hcontrol hload

theorem writeProperty_iaTable {o : SecurityInterfaceObject} {blob : List UInt8}
    (hnone : o.iaTable = none) (hwhole : WholeEntries blob) (hne : blob ≠ []) :
    o.writeProperty .securityIndividualAddressTable 1 blob
      = some (o.setExtraProperty .securityIndividualAddressTable blob) := by
  obtain ⟨hmod, hcount⟩ := hwhole
  have hsmall : blob.length / 8 % 2 ^ 16 = blob.length / 8 := Nat.mod_eq_of_lt (by omega)
  have hall : blob.length / 8 * 8 = blob.length := by omega
  have hmax : ¬ 0xFFFF < 1 + blob.length / 8 - 1 := by omega
  have hwritten : writeBlob [] 0 blob = blob := by
    simp [writeBlob, overwrite]
  rw [iaTable] at hnone
  simp only [writeProperty, SecurityProperty.handler, PropertyHandler.array, hne, hmod, hsmall, hmax,
    writeElements, hnone, hall, List.take_length, Nat.zero_mul, Nat.sub_self, Option.getD_none,
    hwritten]
  rfl

/-! ## Numbers that the table covers -/

/-- The numbers fit six octets and the table has whole entries. -/
structure WellFormed (o : SecurityInterfaceObject) : Prop where
  whole : o.TableWhole
  peer : ∀ address, o.peerSequences address < 256 ^ 6
  tool : o.toolAccessSequence < 256 ^ 6

/-- The table covers the live number of every partner in it. -/
def Covered (o : SecurityInterfaceObject) : Prop :=
  ∀ blob, o.iaTable = some blob → ∀ address, SecurityIaTable.Listed blob address →
    SecurityIaTable.Durable o.peerSequences blob address

theorem WellFormed.of_sameNumbers {o o' : SecurityInterfaceObject} (h : o.WellFormed)
    (hsame : SameNumbers o o') (hwhole : o'.TableWhole) : o'.WellFormed := by
  refine ⟨hwhole, ?_, ?_⟩
  · rw [hsame.peerSequences]
    exact h.peer
  · rw [hsame.toolAccessSequence]
    exact h.tool

theorem iaTable_setPeerSequence (o : SecurityInterfaceObject) {address : UInt16} {seq : Nat}
    (hne : o.peerSequences address ≠ seq) :
    (o.setPeerSequence address seq).iaTable
      = o.iaTable.map fun blob => SecurityIaTable.setSequenceFor blob address seq := by
  rw [setPeerSequence, if_neg hne]
  cases htable : o.iaTable with
  | none => exact htable
  | some blob => simp [iaTable]

theorem wellFormed_setPeerSequence {o : SecurityInterfaceObject} (h : o.WellFormed)
    (hcovered : o.Covered) (address : UInt16) {seq : Nat} (hseq : seq < 256 ^ 6) :
    (o.setPeerSequence address seq).WellFormed ∧ (o.setPeerSequence address seq).Covered := by
  by_cases hne : o.peerSequences address = seq
  · rw [setPeerSequence, if_pos hne]
    exact ⟨h, hcovered⟩
  · have htable := iaTable_setPeerSequence o hne
    have hpeer : (o.setPeerSequence address seq).peerSequences
        = Function.update o.peerSequences address seq := by
      rw [setPeerSequence, if_neg hne]
    refine ⟨⟨?_, ?_, ?_⟩, ?_⟩
    · rw [TableWhole, htable]
      cases hblob : o.iaTable with
      | none => exact wholeEntries_nil
      | some blob =>
        have hwhole := h.whole
        rw [TableWhole, hblob] at hwhole
        rw [Option.map_some, Option.getD_some, WholeEntries,
          (SecurityIaTable.entries_setSequenceFor blob address seq).1]
        exact hwhole
    · intro other
      rw [hpeer]
      by_cases heq : other = address
      · rw [heq, Function.update_self]
        exact hseq
      · rw [Function.update_of_ne heq]
        exact h.peer other
    · rw [setPeerSequence, if_neg hne]
      exact h.tool
    · intro blob' hblob' other hlisted
      rw [htable] at hblob'
      obtain ⟨blob, hblob, rfl⟩ := Option.map_eq_some_iff.mp hblob'
      have hkept := (SecurityIaTable.listed_setSequenceFor_iff blob address seq).mp hlisted
      rw [hpeer]
      by_cases heq : other = address
      · subst heq
        obtain ⟨index, hlt, haddress, hnumber⟩ :=
          SecurityIaTable.exists_sequenceAt_setSequenceFor hkept hseq
        refine ⟨index, hlt, haddress, ?_⟩
        rw [Function.update_self, hnumber]
      · have hdurable := (hcovered blob hblob other hkept).setSequenceFor_of_ne heq seq
        exact hdurable.congr (Function.update_of_ne heq _ _)

theorem iaTable_syncSequencesFromAddressTable (o : SecurityInterfaceObject) :
    o.syncSequencesFromAddressTable.iaTable
      = o.iaTable.map fun blob => (SecurityIaTable.sync o.peerSequences blob).2 := by
  rw [syncSequencesFromAddressTable]
  cases htable : o.iaTable with
  | none => exact htable
  | some blob => simp [iaTable]

theorem syncSequencesFromAddressTable_keeps (o : SecurityInterfaceObject) :
    o.syncSequencesFromAddressTable.toolAccessSequence = o.toolAccessSequence
      ∧ o.syncSequencesFromAddressTable.sequenceStateDirty = o.sequenceStateDirty
      ∧ o.syncSequencesFromAddressTable.sendingSequence = o.sendingSequence := by
  rw [syncSequencesFromAddressTable]
  split <;> exact ⟨rfl, rfl, rfl⟩

/-- What reconciling does to a well-formed object: it is covered afterwards, no number has fallen,
and the live numbers cover the table. -/
theorem WellFormed.syncSequencesFromAddressTable {o : SecurityInterfaceObject} (h : o.WellFormed) :
    o.syncSequencesFromAddressTable.WellFormed ∧ o.syncSequencesFromAddressTable.Covered
      ∧ (∀ address, o.peerSequences address
          ≤ o.syncSequencesFromAddressTable.peerSequences address)
      ∧ ∀ blob, o.iaTable = some blob → ∀ index < SecurityIaTable.entryCount blob,
          SecurityIaTable.sequenceAt blob index
            ≤ o.syncSequencesFromAddressTable.peerSequences
              (SecurityIaTable.addressAt blob index) := by
  have htable := iaTable_syncSequencesFromAddressTable o
  cases hblob : o.iaTable with
  | none =>
    have hsame : o.syncSequencesFromAddressTable = o := by
      rw [SecurityInterfaceObject.syncSequencesFromAddressTable, hblob]
    rw [hsame]
    refine ⟨h, ?_, fun _ => Nat.le_refl _, nofun⟩
    intro blob hsome
    rw [hblob] at hsome
    cases hsome
  | some blob =>
    have hsynced := SecurityIaTable.synced_sync h.peer blob
    have hpeer : o.syncSequencesFromAddressTable.peerSequences
        = (SecurityIaTable.sync o.peerSequences blob).1 := by
      rw [SecurityInterfaceObject.syncSequencesFromAddressTable, hblob]
    rw [hblob, Option.map_some] at htable
    refine ⟨⟨?_, ?_, ?_⟩, ?_, ?_, ?_⟩
    · have hwhole := h.whole
      rw [TableWhole, hblob] at hwhole
      rw [TableWhole, htable, Option.getD_some, WholeEntries, hsynced.length]
      exact hwhole
    · rw [hpeer]
      exact hsynced.bounded
    · rw [(syncSequencesFromAddressTable_keeps o).1]
      exact h.tool
    · intro blob' hblob' address hlisted
      rw [htable] at hblob'
      cases hblob'
      obtain ⟨index, hlt, haddress⟩ := hlisted
      rw [hsynced.entryCount] at hlt
      rw [hsynced.addresses] at haddress
      rw [hpeer, ← haddress]
      exact hsynced.durable index hlt
    · rw [hpeer]
      exact hsynced.raised
    · intro blob' hblob'
      cases hblob'
      rw [hpeer]
      exact hsynced.covered

theorem listed_of_syncSequencesFromAddressTable {o : SecurityInterfaceObject} (h : o.WellFormed)
    {blob' : List UInt8} (hblob' : o.syncSequencesFromAddressTable.iaTable = some blob')
    {address : UInt16} (hlisted : SecurityIaTable.Listed blob' address) :
    ∃ blob, o.iaTable = some blob ∧ SecurityIaTable.Listed blob address := by
  rw [iaTable_syncSequencesFromAddressTable] at hblob'
  obtain ⟨blob, hblob, rfl⟩ := Option.map_eq_some_iff.mp hblob'
  have hsynced := SecurityIaTable.synced_sync h.peer blob
  obtain ⟨index, hlt, haddress⟩ := hlisted
  rw [hsynced.entryCount] at hlt
  rw [hsynced.addresses] at haddress
  exact ⟨blob, hblob, index, hlt, haddress⟩

theorem durable_syncSequencesFromAddressTable {o : SecurityInterfaceObject} (h : o.WellFormed)
    {blob : List UInt8} (hblob : o.iaTable = some blob) {address : UInt16}
    (hlisted : SecurityIaTable.Listed blob address) (hzero : o.peerSequences address = 0) :
    SecurityIaTable.Durable o.syncSequencesFromAddressTable.peerSequences blob address := by
  have hpeer : o.syncSequencesFromAddressTable.peerSequences
      = (SecurityIaTable.sync o.peerSequences blob).1 := by
    rw [SecurityInterfaceObject.syncSequencesFromAddressTable, hblob]
  rw [hpeer]
  rcases (SecurityIaTable.synced_sync h.peer blob).origin address with horigin | horigin
  · obtain ⟨index, hlt, haddress⟩ := hlisted
    refine ⟨index, hlt, haddress, ?_⟩
    rw [horigin, hzero]
    exact Nat.zero_le _
  · obtain ⟨index, hlt, haddress, hnumber⟩ := horigin
    exact ⟨index, hlt, haddress, hnumber.ge⟩

end SecurityInterfaceObject

end KnxStack.Objects
