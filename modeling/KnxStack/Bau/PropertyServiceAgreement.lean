import KnxStack.Bau.KeyConfidentiality
import KnxStack.Bau.ManagementAnswers

/-!
# Two services for one property

A property value is read by A_PropertyValue_Read, with an object index and eight bits of identifier,
and by A_PropertyExtValue_Read, with the type of the object and twelve bits of identifier. Both come to
the same interface objects: the descriptors that the extended service looks at are those of the
handlers that the provider reads (`getDescriptor_coreBackend`).

An extended response has four octets less for the value, and an identifier over eight bits is cut to
its low octet on its way to the interface objects.

- `services_agree_iff`: the two read alike exactly where the value fits an extended response, and a
  longer identifier reaches a property exactly where the low octet names one.
-/

set_option autoImplicit false

namespace KnxStack.Bau

open KnxStack.Application KnxStack.Lib.Octets KnxStack.Lib.Words KnxStack.Objects KnxStack.Protocol
open KnxStack.Transport (TDataFrame)
open ManagedDevice

/-! ## Descriptors and handlers -/

/-- The first of some descriptors with an identifier stays the first when they are sorted. -/
theorem find?_orderedInsert (x : UInt8) (a : PropertyDescriptor) (l : List PropertyDescriptor) :
    (List.orderedInsert (fun a b : PropertyDescriptor => a.id ≤ b.id) a l).find?
        (fun descriptor => descriptor.id == x)
      = (a :: l).find? fun descriptor => descriptor.id == x := by
  induction l with
  | nil => rfl
  | cons b l ih =>
    rw [List.orderedInsert]
    split
    · rfl
    next hlater =>
      rw [List.find?_cons, ih, List.find?_cons, List.find?_cons]
      -- `b` stands before `a`, and has a smaller identifier
      by_cases ha : a.id = x
      · have hb : (b.id == x) = false := by
          rw [beq_eq_false_iff_ne]
          intro hb
          rw [ha, hb] at hlater
          exact hlater (UInt8.le_refl x)
        rw [hb, ha]
        simp
      · have ha' : (a.id == x) = false := beq_eq_false_iff_ne.mpr ha
        rw [ha']
        simp only [List.find?_cons]

theorem find?_insertionSort (x : UInt8) (l : List PropertyDescriptor) :
    (l.insertionSort fun a b => a.id ≤ b.id).find? (fun descriptor => descriptor.id == x)
      = l.find? fun descriptor => descriptor.id == x := by
  induction l with
  | nil => rfl
  | cons a l ih =>
    rw [List.insertionSort_cons, find?_orderedInsert, List.find?_cons, ih, List.find?_cons]

theorem id_descriptor (p : ObjectProperty) : p.descriptor.id = p.handler.id := by
  cases p with
  | reference type descriptor =>
    change descriptor.id = (referenceHandler type descriptor).id
    rw [referenceHandler]
    by_cases hone : descriptor.id = 1
    · rw [if_pos hone]
      exact hone
    · rw [if_neg hone]
  | _ => rfl

variable {τ : Type} (runtime : Runtime τ) (schema : ReferenceSchema)

theorem getDescriptor_coreBackend {objectType : UInt16}
    (hobject : objectType ≠ securityInterfaceObjectType) (propertyId : UInt8) :
    getDescriptor (coreBackend runtime schema) objectType propertyId
      = (findProperty schema objectType propertyId).map ObjectProperty.descriptor := by
  rw [getDescriptor, propertyDescriptors, if_neg hobject]
  change (((objectHandlers schema objectType).map ObjectProperty.descriptor).insertionSort
    fun a b => a.id ≤ b.id).find? _ = _
  have hsame : (fun descriptor : PropertyDescriptor => descriptor.id == propertyId)
      ∘ ObjectProperty.descriptor = fun p => p.handler.id == propertyId := by
    funext p
    rw [Function.comp_apply, id_descriptor]
  rw [find?_insertionSort, List.find?_map, hsame, findProperty]

/-- The schema of the reference objects declares their type as readable. -/
def TypeReadable : Prop :=
  ∀ objectType, ∀ descriptor ∈ schema objectType, descriptor.id = 1 → descriptor.access ≠ .writeOnly

theorem access_eq_writeOnly_iff (hschema : TypeReadable schema) {objectType : UInt16}
    {p : ObjectProperty} (hp : p ∈ objectHandlers schema objectType) :
    p.descriptor.access = .writeOnly ↔ p.handler.capability.canRead = false := by
  cases p with
  | reference type descriptor =>
    change descriptor.access = .writeOnly
      ↔ (referenceHandler type descriptor).capability.canRead = false
    rw [referenceHandler]
    by_cases hone : descriptor.id = 1
    · rw [if_pos hone]
      have hmem : descriptor ∈ schema objectType := by
        rw [objectHandlers] at hp
        repeat' split at hp
        all_goals simp at hp
        exact hp.1
      refine ⟨fun h => absurd h (hschema objectType descriptor hmem hone), ?_⟩
      intro h
      cases h
    · rw [if_neg hone]
      change descriptor.access = .writeOnly
        ↔ (PropertyCapability.ofAccess descriptor.access).canRead = false
      cases descriptor.access <;> decide
  | groupObjectTable p => cases p <;> decide
  | device p => cases p <;> decide
  | addressTable p => cases p <;> decide
  | associationTable p => cases p <;> decide
  | applicationProgram p => cases p <;> decide

/-! ## What the services read -/

variable (d : ManagedDevice (CoreObjects × τ))

theorem readStore_eq_none (objectIndex propertyId : UInt8) (startIndex : Nat) {elementCount : Nat}
    (hcount : elementCount ≠ 0) :
    d.readStore (coreBackend runtime schema) objectIndex propertyId startIndex elementCount = none := by
  rw [ManagedDevice.readStore]
  split
  · rfl
  · split
    · rfl
    next descriptor _ =>
      split_ifs
      · rfl
      · rw [PropertyDescriptor.readStored]
        dsimp only
        split_ifs with hrange hsize hlength
        · rfl
        · rfl
        · rfl
        next =>
          have hpos : 0 < elementCount * descriptor.getElementSize :=
            Nat.mul_pos (Nat.pos_of_ne_zero hcount) (Nat.pos_of_ne_zero hsize)
          rw [List.length_nil] at hlength
          omega

theorem exists_toOctets_two (value : Nat) : ∃ high low, toOctets 2 value = [high, low] := by
  have hlength := length_toOctets 2 value
  match hoctets : toOctets 2 value with
  | [high, low] => exact ⟨high, low, rfl⟩
  | [] | [_] | _ :: _ :: _ :: _ =>
    rw [hoctets] at hlength
    simp only [List.length_cons, List.length_nil] at hlength
    omega

theorem getDescriptor_security (propertyId : UInt8) :
    getDescriptor (coreBackend runtime schema) securityInterfaceObjectType propertyId
      = (SecurityProperty.ofPid propertyId).map SecurityProperty.descriptor := by
  rw [getDescriptor, propertyDescriptors, if_pos rfl, List.find?_map]
  rfl

theorem handler_of_manifest : ∀ p ∈ securityManifest, p.handler.isSome = true := by decide

section Object

variable {d} {objectIndex propertyId : UInt8} {objectType : UInt16}
  (hobject : d.resolveObjectType objectIndex = some objectType)
include hobject

theorem readProvider_unregistered
    (hdescriptor : getDescriptor (coreBackend runtime schema) objectType propertyId = none)
    (startIndex elementCount : Nat) :
    d.readProvider (coreBackend runtime schema) objectIndex propertyId startIndex elementCount
      = none := by
  rw [ManagedDevice.readProvider, hobject]
  dsimp only
  rw [ManagedDevice.readProperty]
  by_cases hsecurity : objectType = securityInterfaceObjectType
  · subst hsecurity
    rw [getDescriptor_security, Option.map_eq_none_iff] at hdescriptor
    rw [if_pos rfl, hdescriptor]
  · rw [getDescriptor_coreBackend runtime schema hsecurity, Option.map_eq_none_iff] at hdescriptor
    rw [if_neg hsecurity]
    change CoreObjects.readProperty schema d.others.1 objectType propertyId startIndex elementCount
      = none
    rw [CoreObjects.readProperty, hdescriptor, ite_self]

theorem readProvider_writeOnly (hschema : TypeReadable schema) {descriptor : PropertyDescriptor}
    (hdescriptor : getDescriptor (coreBackend runtime schema) objectType propertyId
      = some descriptor) (haccess : descriptor.access = .writeOnly) (startIndex elementCount : Nat) :
    d.readProvider (coreBackend runtime schema) objectIndex propertyId startIndex elementCount
      = none := by
  rw [ManagedDevice.readProvider, hobject]
  dsimp only
  rw [ManagedDevice.readProperty]
  by_cases hsecurity : objectType = securityInterfaceObjectType
  · subst hsecurity
    rw [getDescriptor_security, Option.map_eq_some_iff] at hdescriptor
    obtain ⟨p, -, rfl⟩ := hdescriptor
    exfalso
    cases p <;> cases haccess
  · rw [getDescriptor_coreBackend runtime schema hsecurity, Option.map_eq_some_iff] at hdescriptor
    obtain ⟨p, hp, rfl⟩ := hdescriptor
    have hread := (access_eq_writeOnly_iff schema hschema (List.mem_of_find?_eq_some hp)).mp haccess
    rw [if_neg hsecurity]
    change CoreObjects.readProperty schema d.others.1 objectType propertyId startIndex elementCount
      = none
    rw [CoreObjects.readProperty, hp]
    dsimp only
    rw [Handler.propertyElementCount, Handler.readProperty, hread]
    simp

theorem readProvider_zero (hschema : TypeReadable schema) {descriptor : PropertyDescriptor}
    (hdescriptor : getDescriptor (coreBackend runtime schema) objectType propertyId
      = some descriptor) (haccess : descriptor.access ≠ .writeOnly) :
    ∃ high low, ∀ elementCount, elementCount ≠ 0 →
      d.readProvider (coreBackend runtime schema) objectIndex propertyId 0 elementCount
        = some [high, low] := by
  by_cases hsecurity : objectType = securityInterfaceObjectType
  · subst hsecurity
    rw [getDescriptor_security, Option.map_eq_some_iff] at hdescriptor
    obtain ⟨p, hp, rfl⟩ := hdescriptor
    obtain ⟨handler, hhandler⟩ := Option.isSome_iff_exists.mp
      (handler_of_manifest p (List.mem_of_find?_eq_some hp))
    obtain ⟨high, low, hoctets⟩ :=
      exists_toOctets_two (d.security.propertyElementCount p handler)
    refine ⟨high, low, ?_⟩
    intro elementCount hcount
    rw [ManagedDevice.readProvider, hobject]
    dsimp only
    rw [ManagedDevice.readProperty, if_pos rfl, hp]
    dsimp only
    rw [SecurityInterfaceObject.readProperty, if_neg hcount, hhandler]
    dsimp only
    rw [if_pos rfl, hoctets]
  · rw [getDescriptor_coreBackend runtime schema hsecurity, Option.map_eq_some_iff] at hdescriptor
    obtain ⟨p, hp, rfl⟩ := hdescriptor
    have hread : p.handler.capability.canRead = true := by
      rw [← Bool.not_eq_false]
      intro hnot
      exact haccess
        ((access_eq_writeOnly_iff schema hschema (List.mem_of_find?_eq_some hp)).mpr hnot)
    obtain ⟨number, hnumber⟩ : ∃ number, p.handler.propertyElementCount d.others.1 = some number := by
      rw [Handler.propertyElementCount, hread, if_neg (by decide)]
      cases p.handler.count with
      | none => exact ⟨_, rfl⟩
      | some count => exact ⟨_, rfl⟩
    obtain ⟨high, low, hoctets⟩ := exists_toOctets_two number
    refine ⟨high, low, ?_⟩
    intro elementCount hcount
    rw [ManagedDevice.readProvider, hobject]
    dsimp only
    rw [ManagedDevice.readProperty, if_neg hsecurity]
    change CoreObjects.readProperty schema d.others.1 objectType propertyId 0 elementCount = _
    rw [CoreObjects.readProperty, if_neg hcount, hp]
    dsimp only
    rw [if_pos rfl, hnumber, Option.map_some, hoctets]

end Object

/-! ## What the requester is told -/

/-- The value in a response, where it has elements. -/
def valueAnswer (payload : List UInt8) : Option (List UInt8) :=
  match PropertyValueRequest.decode payload with
  | none => none
  | some response => if response.elementCount = 0 then none else some response.data

/-- The value in an extended response, where it has elements. -/
def extValueAnswer (payload : List UInt8) : Option (List UInt8) :=
  match PropertyExtValueRequest.decode payload with
  | none => none
  | some response => if response.elementCount = 0 then none else some response.data

/-- What a property value read tells the requester. -/
def readAnswers (request : ADataFrame) : List (Option (List UInt8)) :=
  (responses request.source .propertyValueResponse
    (d.dispatchService (coreBackend runtime schema) request).2).map valueAnswer

/-- What an extended property value read tells the requester. -/
def extReadAnswers (request : ADataFrame) : List (Option (List UInt8)) :=
  (responses request.source .propertyExtValueResponse
    (d.dispatchService (coreBackend runtime schema) request).2).map extValueAnswer

theorem packed_count (count high : UInt8) :
    ((((count &&& 0x0F) <<< 4) ||| (high &&& 0x0F)) >>> 4) &&& 0x0F = count &&& 0x0F := by
  apply UInt8.toBitVec_inj.mp
  apply BitVec.eq_of_getLsbD_eq
  intro i hi
  simp only [UInt8.toBitVec_and, UInt8.toBitVec_or, UInt8.toBitVec_shiftLeft,
    UInt8.toBitVec_shiftRight]
  interval_cases i <;> simp

theorem answers_sendPropertyValueResponse {frame : ADataFrame}
    (hframe : frame.service = .propertyValueRead) (request : PropertyValueRequest)
    (elementCount : UInt8) (data : List UInt8) (hdata : data.length ≤ 250) :
    (responses frame.source .propertyValueResponse
        (d.sendPropertyValueResponse frame request elementCount data)).map valueAnswer
      = [if elementCount &&& 0x0F = 0 then none else some data] := by
  have hservice : answerService frame.service = some .propertyValueResponse := by
    rw [hframe]
    rfl
  rw [ManagedDevice.sendPropertyValueResponse, responses_sendToIndividual d hservice]
  · rw [List.map_singleton, valueAnswer]
    simp only [PropertyValueRequest.decode, List.cons_append, List.nil_append, packed_count]
  · rw [maxApduLength, List.length_append]
    simp only [List.length_cons, List.length_nil]
    omega

theorem answers_sendPropertyExtValueResponse {frame : ADataFrame}
    (hframe : frame.service = .propertyExtValueRead) (request : PropertyExtValueRequest)
    (elementCount : UInt8) (data : List UInt8) :
    (responses frame.source .propertyExtValueResponse
        (d.sendPropertyExtValueResponse frame .propertyExtValueResponse request elementCount
          data)).map extValueAnswer
      = if data.length ≤ 246 then [if elementCount = 0 then none else some data] else [] := by
  have hservice : answerService frame.service = some .propertyExtValueResponse := by
    rw [hframe]
    rfl
  have hlength : (request.header.encode ++ [elementCount, highByte request.startIndex,
      lowByte request.startIndex] ++ data).length = 8 + data.length := by
    rw [List.length_append, List.length_append]
    rfl
  rw [ManagedDevice.sendPropertyExtValueResponse]
  by_cases hfits : data.length ≤ 246
  · rw [if_pos hfits, responses_sendToIndividual d hservice]
    · rfl
    · rw [hlength, maxApduLength]
      omega
  · rw [if_neg hfits, ManagedDevice.sendToIndividual, if_pos]
    · rfl
    · rw [hlength, maxApduLength]
      omega

/-! ## The two reads -/

/-- The policy admits a read of the property that a request names. -/
def readPermitted (header : PropertyExtHeader) (security : RequestSecurity) : Bool :=
  isPropertyAccessPermitted header.objectType header.propertyId false security

theorem readAnswers_eq {frame : ADataFrame} (hframe : frame.service = .propertyValueRead)
    {request : PropertyValueRequest} (hdecode : PropertyValueRequest.decode frame.data = some request)
    {objectType : UInt16} (hobject : d.resolveObjectType request.objectIndex = some objectType)
    (hcount : request.elementCount ≠ 0)
    (hfits : ∀ value, d.readProvider (coreBackend runtime schema) request.objectIndex
      request.propertyId request.startIndex.toNat request.elementCount.toNat = some value →
      value.length ≤ 250) :
    readAnswers runtime schema d frame
      = [if isPropertyAccessPermitted objectType request.propertyId.toUInt16 false frame.security then
          d.readProvider (coreBackend runtime schema) request.objectIndex request.propertyId
            request.startIndex.toNat request.elementCount.toNat
        else none] := by
  have hanswer := answers_sendPropertyValueResponse d hframe request
  have hnibble : request.elementCount &&& 0x0F = request.elementCount := by
    rw [PropertyValueRequest.decode.eq_def] at hdecode
    split at hdecode
    · obtain rfl := Option.some.inj hdecode
      exact and_fifteen_idem _
    · cases hdecode
  have hsome : request.elementCount.toNat ≠ 0 := by
    intro h
    exact hcount (UInt8.toNat_inj.mp h)
  have haccess : d.accessCheck frame request.objectIndex request.propertyId false
      = isPropertyAccessPermitted objectType request.propertyId.toUInt16 false frame.security := by
    rw [ManagedDevice.accessCheck, hobject]
  have hdispatch : (d.dispatchService (coreBackend runtime schema) frame).2
      = d.handleValueRead (coreBackend runtime schema) frame request := by
    rw [ManagedDevice.dispatchService.eq_def, hframe]
    dsimp only
    rw [ManagedDevice.handlePropertyValueRead, hdecode]
  rw [readAnswers, hdispatch, ManagedDevice.handleValueRead, haccess]
  cases isPropertyAccessPermitted objectType request.propertyId.toUInt16 false frame.security with
  | false => exact hanswer 0 [] (Nat.zero_le _)
  | true =>
    rw [if_neg (by decide), if_pos rfl,
      readStore_eq_none runtime schema d request.objectIndex request.propertyId _ hsome]
    have hpositive : (if request.startIndex = 0 then (1 : UInt8) else request.elementCount)
        &&& 0x0F ≠ 0 := by
      split_ifs
      · decide
      · rw [hnibble]
        exact hcount
    generalize (if request.startIndex = 0 then (1 : UInt8) else request.elementCount) = count
      at hpositive
    dsimp only
    cases hread : d.readProvider (coreBackend runtime schema) request.objectIndex
        request.propertyId request.startIndex.toNat request.elementCount.toNat with
    | none => exact hanswer 0 [] (Nat.zero_le _)
    | some data =>
      dsimp only
      rw [hanswer count data (hfits data hread), if_neg hpositive]

/-- The elements that an extended request asks for, where it comes to a property: by the eight bits
that are left of its identifier. -/
structure Reached (named : PropertyExtValueRequest) (security : RequestSecurity)
    (objectIndex : UInt8) (descriptor : PropertyDescriptor) : Prop where
  inRange : named.header.fieldsInRange = true
  object : d.resolveObject named.header.objectType named.header.objectInstance = some objectIndex
  permitted : readPermitted named.header security = true
  registered : getDescriptor (coreBackend runtime schema) named.header.objectType
    named.header.narrowPropertyId = some descriptor
  readable : descriptor.access ≠ .writeOnly

section Extended

variable {d} {frame : ADataFrame} (hframe : frame.service = .propertyExtValueRead)
  {named : PropertyExtValueRequest}
  (hdecode : PropertyExtValueRequest.decode frame.data = some named)
include hframe hdecode

theorem dispatch_propertyExtValueRead :
    (d.dispatchService (coreBackend runtime schema) frame).2
      = d.handleExtValueRead (coreBackend runtime schema) frame named := by
  rw [ManagedDevice.dispatchService.eq_def, hframe]
  dsimp only
  rw [ManagedDevice.handlePropertyExtValueRead, hdecode]

theorem extReadAnswers_unreached
    (h : ∀ objectIndex descriptor,
      ¬Reached runtime schema d named frame.security objectIndex descriptor) :
    extReadAnswers runtime schema d frame = [none] := by
  have hfailure : ∀ code, (responses frame.source .propertyExtValueResponse
      (d.sendValueFailure frame .propertyExtValueResponse named code)).map extValueAnswer = [none] :=
    fun code => answers_sendPropertyExtValueResponse d hframe named 0 [code.code]
  rw [extReadAnswers, dispatch_propertyExtValueRead runtime schema hframe hdecode,
    ManagedDevice.handleExtValueRead]
  split
  · exact hfailure _
  next hrange =>
    split
    next => exact hfailure _
    next objectIndex hobject =>
      split
      · exact hfailure _
      next hpermitted =>
        split
        next => exact hfailure _
        next descriptor hdescriptor =>
          rw [ManagedDevice.readExtValue]
          by_cases haccess : descriptor.access = .writeOnly
          · rw [if_pos haccess]
            exact hfailure _
          · exact absurd ⟨by simpa using hrange, hobject, by simpa [readPermitted] using hpermitted,
              hdescriptor, haccess⟩ (h objectIndex descriptor)

/-- An extended request that comes to a property is told its number of elements, or the elements
that it asks for where they fit. -/
theorem extReadAnswers_reached {objectIndex : UInt8} {descriptor : PropertyDescriptor}
    (h : Reached runtime schema d named frame.security objectIndex descriptor) :
    extReadAnswers runtime schema d frame
      = if named.startIndex = 0 then
          [some (d.currentElements (coreBackend runtime schema) objectIndex
            named.header.narrowPropertyId descriptor)]
        else if named.elementCount = 0 then [none]
        else
          match d.readProvider (coreBackend runtime schema) objectIndex named.header.narrowPropertyId
              named.startIndex.toNat named.elementCount.toNat with
          | none => [none]
          | some data => if data.length ≤ 246 then [some data] else [] := by
  have hfailure : ∀ code, (responses frame.source .propertyExtValueResponse
      (d.sendValueFailure frame .propertyExtValueResponse named code)).map extValueAnswer = [none] :=
    fun code => answers_sendPropertyExtValueResponse d hframe named 0 [code.code]
  have hpermitted : isPropertyAccessPermitted named.header.objectType named.header.propertyId false
      frame.security = true := h.permitted
  rw [extReadAnswers, dispatch_propertyExtValueRead runtime schema hframe hdecode,
    ManagedDevice.handleExtValueRead, h.inRange, if_neg (by decide), h.object]
  dsimp only
  rw [hpermitted, if_neg (by decide), h.registered]
  dsimp only
  rw [ManagedDevice.readExtValue, if_neg h.readable]
  by_cases hzero : named.startIndex = 0
  · rw [if_pos hzero, if_pos hzero, answers_sendPropertyExtValueResponse d hframe,
      length_currentElements, if_pos (by decide), if_neg (by decide)]
  · rw [if_neg hzero, if_neg hzero]
    by_cases hcount : named.elementCount = 0
    · rw [if_pos hcount, if_pos hcount]
      exact hfailure _
    · have hsome : named.elementCount.toNat ≠ 0 := by
        intro hnat
        exact hcount (UInt8.toNat_inj.mp hnat)
      rw [if_neg hcount, if_neg hcount, readStore_eq_none runtime schema d _ _ _ hsome]
      cases hread : d.readProvider (coreBackend runtime schema) objectIndex
          named.header.narrowPropertyId named.startIndex.toNat named.elementCount.toNat with
      | none => exact hfailure _
      | some data =>
        dsimp only
        rw [answers_sendPropertyExtValueResponse d hframe, if_neg hcount]

end Extended

theorem fieldsInRange_of_narrow {header : PropertyExtHeader} {propertyId : UInt8}
    (hinstance : header.objectInstance = 1) (hproperty : header.propertyId = propertyId.toUInt16) :
    header.fieldsInRange = true ∧ header.narrowPropertyId = propertyId := by
  constructor
  · rw [PropertyExtHeader.fieldsInRange, hinstance, hproperty, Bool.and_eq_true, decide_eq_true_eq,
      decide_eq_true_eq]
    refine ⟨by decide, ?_⟩
    rw [UInt16.le_iff_toNat_le, UInt8.toNat_toUInt16]
    have hlt := propertyId.toNat_lt
    change propertyId.toNat ≤ 4095
    omega
  · rw [PropertyExtHeader.narrowPropertyId, hproperty, UInt8.toUInt8_toUInt16]

theorem readsAlike_iff (hschema : TypeReadable schema) {classic ext : ADataFrame}
    (hclassic : classic.service = .propertyValueRead) (hext : ext.service = .propertyExtValueRead)
    (hsecurity : ext.security = classic.security) {request : PropertyValueRequest}
    (hrequest : PropertyValueRequest.decode classic.data = some request)
    {named : PropertyExtValueRequest}
    (hnamed : PropertyExtValueRequest.decode ext.data = some named)
    (hinstance : named.header.objectInstance = 1)
    (hobject : d.resolveObject named.header.objectType 1 = some request.objectIndex)
    (hproperty : named.header.propertyId = request.propertyId.toUInt16)
    (hcounts : named.elementCount = request.elementCount) (hcount : request.elementCount ≠ 0)
    (hstart : named.startIndex = request.startIndex)
    (hfits : ∀ value, d.readProvider (coreBackend runtime schema) request.objectIndex
      request.propertyId request.startIndex.toNat request.elementCount.toNat = some value →
      value.length ≤ 250) :
    extReadAnswers runtime schema d ext = readAnswers runtime schema d classic
      ↔ (readPermitted named.header ext.security = true →
        ∀ value, d.readProvider (coreBackend runtime schema) request.objectIndex
          request.propertyId request.startIndex.toNat request.elementCount.toNat = some value →
          value.length ≤ 246) := by
  have htype := resolveObjectType_of_resolveObject hobject
  obtain ⟨hrange, hnarrow⟩ := fieldsInRange_of_narrow hinstance hproperty
  rw [readAnswers_eq runtime schema d hclassic hrequest htype hcount hfits, ← hproperty, ← hsecurity]
  change _ = [if readPermitted named.header ext.security = true then _ else none] ↔ _
  cases hpermitted : readPermitted named.header ext.security with
  | false =>
    have hnone := extReadAnswers_unreached runtime schema hext hnamed
      fun objectIndex descriptor (h : Reached runtime schema d named ext.security objectIndex
        descriptor) => by
        have hpermit := h.permitted
        rw [hpermitted] at hpermit
        cases hpermit
    rw [hnone]
    simp
  | true =>
    rw [if_pos rfl]
    have hunread : ∀ hread : d.readProvider (coreBackend runtime schema) request.objectIndex
          request.propertyId request.startIndex.toNat request.elementCount.toNat = none,
        extReadAnswers runtime schema d ext = [none] →
        (extReadAnswers runtime schema d ext
            = [d.readProvider (coreBackend runtime schema) request.objectIndex request.propertyId
              request.startIndex.toNat request.elementCount.toNat]
          ↔ (true = true → ∀ value, d.readProvider (coreBackend runtime schema)
              request.objectIndex request.propertyId request.startIndex.toNat
              request.elementCount.toNat = some value → value.length ≤ 246)) := by
      intro hread hanswers
      rw [hread, hanswers]
      simp
    cases hdescriptor : getDescriptor (coreBackend runtime schema) named.header.objectType
        request.propertyId with
    | none =>
      apply hunread (readProvider_unregistered runtime schema htype hdescriptor _ _)
      apply extReadAnswers_unreached runtime schema hext hnamed
      intro objectIndex descriptor h
      have hregistered := h.registered
      rw [hnarrow, hdescriptor] at hregistered
      cases hregistered
    | some descriptor =>
      by_cases haccess : descriptor.access = .writeOnly
      · apply hunread (readProvider_writeOnly runtime schema htype hschema hdescriptor haccess _ _)
        apply extReadAnswers_unreached runtime schema hext hnamed
        intro objectIndex descriptor' h
        have hregistered := h.registered
        rw [hnarrow, hdescriptor] at hregistered
        cases hregistered
        exact h.readable haccess
      · have hreached : Reached runtime schema d named ext.security request.objectIndex descriptor :=
          ⟨hrange, by rw [hinstance]; exact hobject, hpermitted, by rw [hnarrow]; exact hdescriptor,
            haccess⟩
        have hsome : request.elementCount.toNat ≠ 0 := by
          intro hnat
          exact hcount (UInt8.toNat_inj.mp hnat)
        rw [extReadAnswers_reached runtime schema hext hnamed hreached, hnarrow, hstart, hcounts]
        by_cases hzero : request.startIndex = 0
        · obtain ⟨high, low, hnumber⟩ :=
            readProvider_zero runtime schema htype hschema hdescriptor haccess
          have hread := hnumber _ hsome
          have hstartNat : request.startIndex.toNat = 0 := by
            rw [hzero]
            rfl
          have hcurrent : d.currentElements (coreBackend runtime schema) request.objectIndex
              request.propertyId descriptor = [high, low] := by
            rw [ManagedDevice.currentElements, hnumber 1 (by decide)]
          rw [if_pos hzero, hstartNat, hread, hcurrent]
          simp
        · rw [if_neg hzero, if_neg hcount]
          cases hread : d.readProvider (coreBackend runtime schema) request.objectIndex
              request.propertyId request.startIndex.toNat request.elementCount.toNat with
          | none => simp
          | some data =>
            dsimp only
            by_cases hshort : data.length ≤ 246
            · rw [if_pos hshort]
              simp [hshort]
            · rw [if_neg hshort]
              simp [hshort]

/-! ## Longer identifiers -/

/-- An extended read comes to a property and to elements of it. -/
def ReadsElements (named : PropertyExtValueRequest) (security : RequestSecurity) : Prop :=
  ∃ objectIndex descriptor, Reached runtime schema d named security objectIndex descriptor
    ∧ (named.startIndex = 0 ∨ named.elementCount ≠ 0
      ∧ (d.readProvider (coreBackend runtime schema) objectIndex named.header.narrowPropertyId
        named.startIndex.toNat named.elementCount.toNat).isSome = true)

/-- An extended write comes to a property that takes it. -/
def WritesElements (named : PropertyExtValueRequest) (security : RequestSecurity) : Prop :=
  named.header.fieldsInRange = true
    ∧ isPropertyAccessPermitted named.header.objectType named.header.propertyId true security = true
    ∧ ∃ objectIndex descriptor,
      d.resolveObject named.header.objectType named.header.objectInstance = some objectIndex
      ∧ getDescriptor (coreBackend runtime schema) named.header.objectType
        named.header.narrowPropertyId = some descriptor
      ∧ extWriteRefusal named descriptor = none
      ∧ (d.writeProvider (coreBackend runtime schema) objectIndex named.header.narrowPropertyId
        named.startIndex.toNat named.data).isSome = true

/-- A request is refused and leaves the device as it is. -/
def Refused (written : ManagedDevice (CoreObjects × τ) × KnxReturnCode) : Prop :=
  written.1 = d ∧ written.2 ≠ .success

theorem extReadAnswers_none_iff {frame : ADataFrame} (hframe : frame.service = .propertyExtValueRead)
    {named : PropertyExtValueRequest}
    (hdecode : PropertyExtValueRequest.decode frame.data = some named) :
    extReadAnswers runtime schema d frame = [none]
      ↔ ¬ReadsElements runtime schema d named frame.security := by
  by_cases h : ∃ objectIndex descriptor,
      Reached runtime schema d named frame.security objectIndex descriptor
  · obtain ⟨objectIndex, descriptor, hreached⟩ := h
    rw [extReadAnswers_reached runtime schema hframe hdecode hreached]
    have helements : ReadsElements runtime schema d named frame.security
        ↔ named.startIndex = 0 ∨ named.elementCount ≠ 0
          ∧ (d.readProvider (coreBackend runtime schema) objectIndex named.header.narrowPropertyId
            named.startIndex.toNat named.elementCount.toNat).isSome = true := by
      constructor
      · rintro ⟨objectIndex', descriptor', hreached', helements⟩
        -- the object is found by its type and instance
        have hsame : some objectIndex' = some objectIndex :=
          hreached'.object.symm.trans hreached.object
        obtain rfl := Option.some.inj hsame
        exact helements
      · intro helements
        exact ⟨objectIndex, descriptor, hreached, helements⟩
    rw [helements]
    by_cases hzero : named.startIndex = 0
    · rw [if_pos hzero]
      simp [hzero]
    · rw [if_neg hzero]
      by_cases hcount : named.elementCount = 0
      · rw [if_pos hcount]
        simp [hzero, hcount]
      · rw [if_neg hcount]
        cases d.readProvider (coreBackend runtime schema) objectIndex
            named.header.narrowPropertyId named.startIndex.toNat named.elementCount.toNat with
        | none => simp [hzero]
        | some data =>
          dsimp only
          split <;> simp [hcount]
  · have hunreached : ∀ objectIndex descriptor,
        ¬Reached runtime schema d named frame.security objectIndex descriptor := by
      intro objectIndex descriptor hreached
      exact h ⟨objectIndex, descriptor, hreached⟩
    rw [extReadAnswers_unreached runtime schema hframe hdecode hunreached]
    refine iff_of_true rfl ?_
    rintro ⟨objectIndex, descriptor, hreached, -⟩
    exact hunreached objectIndex descriptor hreached

theorem refused_writeExtValue_iff (frame : ADataFrame) (named : PropertyExtValueRequest) :
    Refused d (d.writeExtValue (coreBackend runtime schema) frame named)
      ↔ ¬WritesElements runtime schema d named frame.security := by
  rw [ManagedDevice.writeExtValue, WritesElements]
  cases named.header.fieldsInRange with
  | false => simp [Refused]
  | true =>
    cases d.resolveObject named.header.objectType named.header.objectInstance with
    | none => simp [Refused]
    | some objectIndex =>
      cases isPropertyAccessPermitted named.header.objectType named.header.propertyId true
          frame.security with
      | false => simp [Refused]
      | true =>
        cases getDescriptor (coreBackend runtime schema) named.header.objectType
            named.header.narrowPropertyId with
        | none => simp [Refused]
        | some descriptor =>
          cases hrefusal : extWriteRefusal named descriptor with
          | some code =>
            have hcode : code ≠ .success := by
              intro hsuccess
              rw [hsuccess, extWriteRefusal] at hrefusal
              split_ifs at hrefusal <;> cases hrefusal
            simp [Refused, hrefusal, hcode]
          | none =>
            cases hwritten : d.writeProvider (coreBackend runtime schema) objectIndex
                named.header.narrowPropertyId named.startIndex.toNat named.data with
            | none => simp [Refused, hrefusal, hwritten]
            | some written => simp [Refused, hrefusal, hwritten]

/-! ## Agreement -/

/-- A classic and an extended read of the same elements of one property, by the same requester: the
object that the classic request names by its index is the first instance of the type that the extended
one names. -/
structure PairedReads (classic ext : ADataFrame) (request : PropertyValueRequest)
    (named : PropertyExtValueRequest) : Prop where
  classicService : classic.service = .propertyValueRead
  extService : ext.service = .propertyExtValueRead
  security : ext.security = classic.security
  decoded : PropertyValueRequest.decode classic.data = some request
  extDecoded : PropertyExtValueRequest.decode ext.data = some named
  objectInstance : named.header.objectInstance = 1
  object : d.resolveObject named.header.objectType 1 = some request.objectIndex
  propertyId : named.header.propertyId = request.propertyId.toUInt16
  elementCount : named.elementCount = request.elementCount
  countNonzero : request.elementCount ≠ 0
  startIndex : named.startIndex = request.startIndex

/-- The two property services agree where the value fits an extended response too, and a longer
identifier comes to no property where the low octet of it names none. -/
theorem services_agree_iff (hschema : TypeReadable schema) :
    (∀ classic ext request named, PairedReads d classic ext request named →
      (∀ value, d.readProvider (coreBackend runtime schema) request.objectIndex request.propertyId
        request.startIndex.toNat request.elementCount.toNat = some value → value.length ≤ 250) →
      (extReadAnswers runtime schema d ext = readAnswers runtime schema d classic
        ↔ (readPermitted named.header ext.security = true →
          ∀ value, d.readProvider (coreBackend runtime schema) request.objectIndex
            request.propertyId request.startIndex.toNat request.elementCount.toNat = some value →
            value.length ≤ 246)))
      ∧ (∀ frame named, frame.service = .propertyExtValueRead →
        PropertyExtValueRequest.decode frame.data = some named →
        255 < named.header.propertyId.toNat →
        (extReadAnswers runtime schema d frame = [none]
          ↔ ¬ReadsElements runtime schema d named frame.security))
      ∧ ∀ frame named, PropertyExtValueRequest.decode frame.data = some named →
        255 < named.header.propertyId.toNat →
        (Refused d (d.writeExtValue (coreBackend runtime schema) frame named)
          ↔ ¬WritesElements runtime schema d named frame.security) := by
  refine ⟨?_, ?_, ?_⟩
  · intro classic ext request named h hfits
    exact readsAlike_iff runtime schema d hschema h.classicService h.extService h.security h.decoded
      h.extDecoded h.objectInstance h.object h.propertyId h.elementCount h.countNonzero h.startIndex hfits
  · intro frame named hframe hdecode _
    exact extReadAnswers_none_iff runtime schema d hframe hdecode
  · intro frame named _ _
    exact refused_writeExtValue_iff runtime schema d frame named

/-- A request from 1.1.1, not secured. -/
def plainRequest (service : APCIService) (data : List UInt8) : ADataFrame :=
  { source := ⟨0x1101⟩
    destination := ⟨0x1102⟩
    destinationType := .individual
    service := service
    data := data
    apciData := 0
    security := {}
    connected := false }

/-- The type of the Device Object is read alike. -/
theorem object_type_read_alike :
    extReadAnswers {} (fun _ => []) plainDevice
        (plainRequest .propertyExtValueRead [0, 0, 0, 0x10, 0x01, 1, 0, 1])
      = readAnswers {} (fun _ => []) plainDevice
        (plainRequest .propertyValueRead [0, 1, 0x10, 0x01]) := by
  have hschema : TypeReadable fun _ => [] := by
    intro objectType descriptor hmem
    cases hmem
  have hread : plainDevice.readProvider (coreBackend {} (fun _ => [])) 0 1 1 1
      = some [0x00, 0x00] := by
    decide +kernel
  have hlength : ∀ limit, 2 ≤ limit → ∀ value,
      plainDevice.readProvider (coreBackend {} (fun _ => [])) 0 1 1 1 = some value →
        value.length ≤ limit := by
    intro limit hlimit value hvalue
    rw [hread] at hvalue
    cases hvalue
    exact hlimit
  refine ((services_agree_iff {} (fun _ => []) plainDevice hschema).1 _ _
    { objectIndex := 0, propertyId := 1, elementCount := 1, startIndex := 1, data := [] }
    { header := ⟨0, 1, 1⟩, elementCount := 1, startIndex := 1, data := [] } ?_
    (hlength 250 (by decide))).mpr fun _ => hlength 246 (by decide)
  refine ⟨rfl, rfl, rfl, ?_, ?_, rfl, ?_, rfl, rfl, by decide, rfl⟩
  all_goals rfl

/-- A request from 1.1.1 with the Tool Key. -/
def toolRequest (service : APCIService) (data : List UInt8) : ADataFrame :=
  { plainRequest service data with
    security := { secured := true, toolAccess := true, confidentiality := true } }

/-- A device with a zone key table of thirteen entries. -/
def zoneKeyDevice : ManagedDevice (CoreObjects × Unit) :=
  { others := ({}, ())
    device :=
      { security :=
          { extraProperties := fun p =>
              if p = .zoneKeyTable then some (List.replicate 247 0) else none } } }

/-- A longer identifier is cut to its low octet: property 257 of the Device Object is answered with
its type, and a write of property 310 sets the programming mode. Thirteen zone keys are read by the
classic service, and the extended one does not answer. -/
theorem services_differ :
    (∃ named, PropertyExtValueRequest.decode [0, 0, 0, 0x11, 0x01, 1, 0, 1] = some named
        ∧ named.header.propertyId = 257
        ∧ extReadAnswers {} (fun _ => []) plainDevice
          (plainRequest .propertyExtValueRead [0, 0, 0, 0x11, 0x01, 1, 0, 1]) = [some [0, 0]])
      ∧ (∃ named, PropertyExtValueRequest.decode [0, 0, 0, 0x11, 0x36, 1, 0, 1, 1] = some named
        ∧ named.header.propertyId = 310
        ∧ (plainDevice.writeExtValue (coreBackend {} (fun _ => []))
          (plainRequest .propertyExtValueWriteCon [0, 0, 0, 0x11, 0x36, 1, 0, 1, 1])
          named).1.programmingModeEnabled = true)
      ∧ readAnswers {} (fun _ => []) zoneKeyDevice
          (toolRequest .propertyValueRead [5, 60, 0xD0, 0x01]) = [some (List.replicate 247 0)]
      ∧ extReadAnswers {} (fun _ => []) zoneKeyDevice
          (toolRequest .propertyExtValueRead [0, 17, 0, 0x10, 60, 13, 0, 1]) = [] := by
  refine ⟨⟨_, rfl, ?_, ?_⟩, ⟨_, rfl, ?_, ?_⟩, ?_, ?_⟩
  all_goals decide +kernel

end KnxStack.Bau
