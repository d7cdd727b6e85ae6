import Mathlib.Tactic.IntervalCases
import KnxStack.Bau.GroupRuntime

/-!
# The answers to management requests

A tool that gets no answer retries and gives up, and one that gets two takes the second for the answer
to its next request. Here the frames that a request makes the device send are read as the requester
reads them: those to its address, with the service that answers the request (`responses`).

A response repeats the fields by which the request named what it is about (`namedFields`). One of them
differs by design: a description is also read by position, and the answer then tells the identifier
of the property that is found there (`echoedFields`).

- `answered_once`: a request that is complete and permitted is answered exactly once, with the fields
  it named, where the answer fits a response.
-/

set_option autoImplicit false

namespace KnxStack.Bau

open KnxStack.Application KnxStack.Lib.Octets KnxStack.Lib.Words KnxStack.Objects KnxStack.Protocol
open KnxStack.Transport (TDataFrame)
open ManagedDevice

/-! ## Requests and responses -/

/-- The service that answers a request. -/
def answerService : APCIService → Option APCIService
  | .propertyValueRead | .propertyValueWrite => some .propertyValueResponse
  | .propertyDescriptionRead => some .propertyDescriptionResponse
  | .propertyExtValueRead => some .propertyExtValueResponse
  | .propertyExtValueWriteCon => some .propertyExtValueWriteConRes
  | .functionPropertyCommand | .functionPropertyStateRead => some .functionPropertyStateResponse
  | .memoryExtendedRead => some .memoryExtendedReadResponse
  | .memoryExtendedWrite => some .memoryExtendedWriteResponse
  | _ => none

/-- The fields by which a request or a response names what it is about: object, property and index, or
the address. `none` where the header is not complete. -/
def namedFields (service : APCIService) (payload : List UInt8) : Option (List UInt8) :=
  match service, payload with
  | .propertyValueRead, object :: property :: start :: start' :: _
  | .propertyValueWrite, object :: property :: start :: start' :: _ =>
      some [object, property, start &&& 0x0F, start']
  | .propertyDescriptionRead, object :: property :: index :: _ => some [object, property, index]
  | .propertyExtValueRead, type :: type' :: inst :: property :: property' :: _ :: start :: start' :: _
  | .propertyExtValueWriteCon,
      type :: type' :: inst :: property :: property' :: _ :: start :: start' :: _ =>
      some [type, type', inst, property, property', start, start']
  | .functionPropertyCommand, object :: property :: _
  | .functionPropertyStateRead, object :: property :: _ => some [object, property]
  | .memoryExtendedRead, _ :: address :: address' :: address'' :: _
  | .memoryExtendedWrite, _ :: address :: address' :: address'' :: _ =>
      some [address, address', address'']
  | _, _ => none

/-- The fields that a response repeats. A description by position is that of another identifier. -/
def echoedFields (service : APCIService) (payload : List UInt8) : Option (List UInt8) :=
  match service, payload with
  | .propertyDescriptionRead, object :: property :: index :: _ =>
      if index = 0 then some [object, property, index] else some [object, index]
  | _, _ => namedFields service payload

/-- What a frame tells a requester who waits for a service. -/
def responsePayload (requester : IndividualAddress) (service : APCIService) (frame : TDataFrame) :
    Option (List UInt8) :=
  if frame.destinationType = .individual ∧ frame.destination.raw = requester.raw then
    match decodeTransportRx frame with
    | none => none
    | some response => if response.service = service then some response.data else none
  else none

/-- The responses among the frames that are sent. -/
def responses (requester : IndividualAddress) (service : APCIService) (sent : List TDataFrame) :
    List (List UInt8) :=
  sent.filterMap (responsePayload requester service)

/-- A service that is answered exactly once, with the fields that the request named. -/
def AnsweredOnce (request : ADataFrame) (service : APCIService) (sent : List TDataFrame) : Prop :=
  ∃ payload, responses request.source service sent = [payload]
    ∧ echoedFields request.service payload = echoedFields request.service request.data

/-! ## A response on its way -/

theorem serviceOf_response {request service : APCIService} (h : answerService request = some service) :
    encodeServiceData service = (fun data => some (createApci service 0, data))
      ∧ serviceOf (unpackTpduHeader
          (packTpduHeader (.create .unnumberedData 0) (createApci service 0)).1
          (packTpduHeader (.create .unnumberedData 0) (createApci service 0)).2).apci = service
      ∧ service.usesApciData6 = false
      ∧ service ≠ .groupValueWrite ∧ service ≠ .groupValueResponse := by
  rw [answerService.eq_def] at h
  split at h
  all_goals first
    | obtain rfl := Option.some.inj h
      exact ⟨rfl, by decide, rfl, by decide, by decide⟩
    | cases h

theorem decodeTransportRx_plain {frame : TDataFrame} {octet0 octet1 : UInt8} {service : APCIService}
    {payload : List UInt8} (hoctets : frame.tpdu.data = octet0 :: octet1 :: payload)
    (hservice : serviceOf (unpackTpduHeader octet0 octet1).apci = service)
    (hdata6 : service.usesApciData6 = false) (hwrite : service ≠ .groupValueWrite)
    (hresponse : service ≠ .groupValueResponse) (hlength : payload.length ≤ maxApduLength) :
    ∃ response, decodeTransportRx frame = some response ∧ response.service = service
      ∧ response.data = payload := by
  have hgroup : ¬((service = .groupValueWrite ∨ service = .groupValueResponse) ∧ payload = []) := by
    rintro ⟨hw | hr, -⟩
    · exact hwrite hw
    · exact hresponse hr
  rw [decodeTransportRx, hoctets]
  dsimp only
  rw [hservice, hdata6, if_neg Bool.false_ne_true, List.nil_append, List.take_of_length_le hlength,
    if_neg hgroup]
  exact ⟨_, rfl, rfl, rfl⟩

section Answers

variable {σ : Type} (d : ManagedDevice σ) {frame : ADataFrame} {service : APCIService}

theorem sendToIndividual_eq (hservice : answerService frame.service = some service)
    {payload : List UInt8} (hlength : payload.length ≤ maxApduLength) :
    ∃ sent, d.sendToIndividual frame service payload = [sent]
      ∧ sent.destinationType = .individual ∧ sent.destination.raw = frame.source.raw
      ∧ sent.tpdu.data
        = (packTpduHeader (.create .unnumberedData 0) (createApci service 0)).1
          :: (packTpduHeader (.create .unnumberedData 0) (createApci service 0)).2 :: payload := by
  obtain ⟨hencode, -⟩ := serviceOf_response hservice
  have hfits : tpduLengthFromTpci (.create .unnumberedData 0) payload.length
      ≤ Datalink.maxFrameSize := by
    change 2 + payload.length ≤ 256
    rw [maxApduLength] at hlength
    omega
  rw [ManagedDevice.sendToIndividual, if_neg (Nat.not_lt.mpr hlength), buildTransportTxFrame, hencode]
  dsimp only
  rw [dif_pos hfits]
  refine ⟨_, rfl, rfl, rfl, ?_⟩
  change buildTpdu (.create .unnumberedData 0) (createApci service 0) payload = _
  rw [buildTpdu, if_neg]
  change ¬2 + payload.length = 1
  omega

theorem responses_sendToIndividual (hservice : answerService frame.service = some service)
    {payload : List UInt8} (hlength : payload.length ≤ maxApduLength) :
    responses frame.source service (d.sendToIndividual frame service payload) = [payload] := by
  obtain ⟨-, hread, hdata6, hwrite, hresponse⟩ := serviceOf_response hservice
  obtain ⟨sent, hsent, htype, hdestination, hoctets⟩ := sendToIndividual_eq d hservice hlength
  obtain ⟨response, hdecoded, hsame, hdata⟩ :=
    decodeTransportRx_plain hoctets hread hdata6 hwrite hresponse hlength
  have hpayload : responsePayload frame.source service sent = some payload := by
    rw [responsePayload, if_pos ⟨htype, hdestination⟩, hdecoded]
    dsimp only
    rw [if_pos hsame, hdata]
  rw [hsent, responses, List.filterMap_cons, hpayload]
  rfl

theorem answeredOnce_sendToIndividual (hservice : answerService frame.service = some service)
    {payload : List UInt8} (hlength : payload.length ≤ maxApduLength)
    (hechoed : echoedFields frame.service payload = echoedFields frame.service frame.data) :
    AnsweredOnce frame service (d.sendToIndividual frame service payload) :=
  ⟨payload, responses_sendToIndividual d hservice hlength, hechoed⟩

/-! ## Property values -/

theorem packed_start_and_fifteen (count high : UInt8) :
    (((count &&& 0x0F) <<< 4) ||| (high &&& 0x0F)) &&& 0x0F = high &&& 0x0F := by
  apply UInt8.toBitVec_inj.mp
  apply BitVec.eq_of_getLsbD_eq
  intro i hi
  simp only [UInt8.toBitVec_and, UInt8.toBitVec_or, UInt8.toBitVec_shiftLeft]
  interval_cases i <;> simp

theorem answered_propertyValueResponse
    (hframe : frame.service = .propertyValueRead ∨ frame.service = .propertyValueWrite)
    {request : PropertyValueRequest} (hdecode : PropertyValueRequest.decode frame.data = some request)
    (elementCount : UInt8) (data : List UInt8) (hdata : data.length ≤ 250) :
    AnsweredOnce frame .propertyValueResponse
      (d.sendPropertyValueResponse frame request elementCount data) := by
  have hservice : answerService frame.service = some .propertyValueResponse := by
    rcases hframe with h | h
    · rw [h]
      rfl
    · rw [h]
      rfl
  rw [PropertyValueRequest.decode.eq_def] at hdecode
  split at hdecode
  next object property octet2 octet3 value hoctets =>
    obtain rfl := Option.some.inj hdecode
    apply answeredOnce_sendToIndividual d hservice
    · rw [maxApduLength, List.length_append]
      simp only [List.length_cons, List.length_nil]
      omega
    · rw [hoctets]
      rcases hframe with h | h
      all_goals
        rw [h]
        simp only [echoedFields, namedFields, List.cons_append, List.nil_append,
          highByte_joinBytes, lowByte_joinBytes, packed_start_and_fifteen, and_fifteen_idem]
  next => cases hdecode

variable (backend : Backend σ)

/-- The value that a read is answered with. -/
def valueOf (objectIndex propertyId : UInt8) (startIndex elementCount : Nat) : Option (List UInt8) :=
  (d.readProvider backend objectIndex propertyId startIndex elementCount).or
    (d.readStore backend objectIndex propertyId startIndex elementCount)

theorem answered_handleValueRead (hframe : frame.service = .propertyValueRead)
    {request : PropertyValueRequest} (hdecode : PropertyValueRequest.decode frame.data = some request)
    (hfits : ∀ value, valueOf d backend request.objectIndex request.propertyId
      request.startIndex.toNat request.elementCount.toNat = some value → value.length ≤ 250) :
    AnsweredOnce frame .propertyValueResponse (d.handleValueRead backend frame request) := by
  have hanswer := answered_propertyValueResponse d (.inl hframe) hdecode
  rw [ManagedDevice.handleValueRead]
  split
  · exact hanswer 0 [] (Nat.zero_le _)
  · rw [valueOf] at hfits
    generalize (if request.startIndex = 0 then (1 : UInt8) else request.elementCount) = count
    dsimp only
    split
    next data hprovided =>
      apply hanswer
      apply hfits data
      rw [hprovided]
      rfl
    next hprovided =>
      split
      next data hstored =>
        apply hanswer
        apply hfits data
        rw [hprovided, hstored]
        rfl
      next => exact hanswer 0 [] (Nat.zero_le _)

theorem answered_handleValueWrite (hframe : frame.service = .propertyValueWrite)
    {request : PropertyValueRequest} (hdecode : PropertyValueRequest.decode frame.data = some request)
    (hlength : frame.data.length ≤ maxApduLength)
    (hfits : ∀ d', d.writeProvider backend request.objectIndex request.propertyId
        request.startIndex.toNat request.data = some d' →
      ∀ value, valueOf d' backend request.objectIndex request.propertyId request.startIndex.toNat
        request.elementCount.toNat = some value → value.length ≤ 250) :
    AnsweredOnce frame .propertyValueResponse (d.handleValueWrite backend frame request).2 := by
  rw [ManagedDevice.handleValueWrite]
  split
  · exact answered_propertyValueResponse d (.inr hframe) hdecode 0 [] (Nat.zero_le _)
  · split
    next => exact answered_propertyValueResponse d (.inr hframe) hdecode 0 [] (Nat.zero_le _)
    next d' hwritten =>
      apply answered_propertyValueResponse d' (.inr hframe) hdecode
      change ((valueOf d' backend request.objectIndex request.propertyId request.startIndex.toNat
        request.elementCount.toNat).getD request.data).length ≤ 250
      cases hvalue : valueOf d' backend request.objectIndex request.propertyId
        request.startIndex.toNat request.elementCount.toNat with
      | some value => exact hfits d' hwritten value hvalue
      | none =>
        -- the request's own value is shorter than the request
        rw [PropertyValueRequest.decode.eq_def] at hdecode
        split at hdecode
        next object property octet2 octet3 value hoctets =>
          obtain rfl := Option.some.inj hdecode
          rw [hoctets, maxApduLength] at hlength
          simp only [List.length_cons] at hlength
          change value.length ≤ 250
          omega
        next => cases hdecode

/-! ## Extended property values -/

theorem PropertyExtHeader.encode_decode (octet0 octet1 octet2 octet3 octet4 : UInt8) :
    (PropertyExtHeader.decode octet0 octet1 octet2 octet3 octet4).encode
      = [octet0, octet1, octet2, octet3, octet4] := by
  have hinstance : ((((octet2.toUInt16 <<< 4) ||| ((octet3 >>> 4) &&& 0x0F).toUInt16) >>> 4)
      &&& 0xFF).toUInt8 = octet2 := by
    apply UInt8.toBitVec_inj.mp
    apply BitVec.eq_of_getLsbD_eq
    intro i hi
    simp
    interval_cases i <;> simp
  have hnibbles : ((((octet2.toUInt16 <<< 4) ||| ((octet3 >>> 4) &&& 0x0F).toUInt16)
      &&& 0x0F) <<< 4).toUInt8 ||| (octet3 &&& 0x0F) = octet3 := by
    apply UInt8.toBitVec_inj.mp
    apply BitVec.eq_of_getLsbD_eq
    intro i hi
    simp
    interval_cases i <;> simp
  rw [PropertyExtHeader.decode, PropertyExtHeader.encode]
  simp only [highByte_joinBytes, lowByte_joinBytes, and_fifteen_idem, hinstance, hnibbles]

theorem answered_propertyExtValueResponse
    (hservice : frame.service = .propertyExtValueRead ∧ service = .propertyExtValueResponse
      ∨ frame.service = .propertyExtValueWriteCon ∧ service = .propertyExtValueWriteConRes)
    {request : PropertyExtValueRequest}
    (hdecode : PropertyExtValueRequest.decode frame.data = some request) (elementCount : UInt8)
    (trailer : List UInt8) (htrailer : trailer.length ≤ 246) :
    AnsweredOnce frame service
      (d.sendPropertyExtValueResponse frame service request elementCount trailer) := by
  have hanswer : answerService frame.service = some service := by
    rcases hservice with ⟨h, h'⟩ | ⟨h, h'⟩
    · rw [h, h']
      rfl
    · rw [h, h']
      rfl
  rw [PropertyExtValueRequest.decode.eq_def] at hdecode
  split at hdecode
  next octet0 octet1 octet2 octet3 octet4 count octet6 octet7 value hoctets =>
    obtain rfl := Option.some.inj hdecode
    rw [ManagedDevice.sendPropertyExtValueResponse, PropertyExtHeader.encode_decode]
    apply answeredOnce_sendToIndividual d hanswer
    · rw [maxApduLength, List.length_append]
      simp only [List.length_append, List.length_cons, List.length_nil]
      omega
    · rw [hoctets]
      rcases hservice with ⟨h, -⟩ | ⟨h, -⟩
      all_goals
        rw [h]
        simp only [echoedFields, namedFields, List.cons_append, List.nil_append,
          highByte_joinBytes, lowByte_joinBytes]
  next => cases hdecode

theorem length_currentElements (objectIndex propertyId : UInt8) (descriptor : PropertyDescriptor) :
    (d.currentElements backend objectIndex propertyId descriptor).length = 2 := by
  rw [ManagedDevice.currentElements]
  split
  all_goals rfl

theorem answered_handleExtValueRead (hframe : frame.service = .propertyExtValueRead)
    {request : PropertyExtValueRequest}
    (hdecode : PropertyExtValueRequest.decode frame.data = some request)
    (hfits : ∀ objectIndex,
      d.resolveObject request.header.objectType request.header.objectInstance = some objectIndex →
      ∀ value, valueOf d backend objectIndex request.header.narrowPropertyId
        request.startIndex.toNat request.elementCount.toNat = some value → value.length ≤ 246) :
    AnsweredOnce frame .propertyExtValueResponse (d.handleExtValueRead backend frame request) := by
  have hanswer := answered_propertyExtValueResponse d (.inl ⟨hframe, rfl⟩) hdecode
  have hfailure : ∀ code, AnsweredOnce frame .propertyExtValueResponse
      (d.sendValueFailure frame .propertyExtValueResponse request code) :=
    fun code => hanswer 0 [code.code] (show 1 ≤ 246 by decide)
  rw [ManagedDevice.handleExtValueRead]
  split
  · exact hfailure _
  · split
    next => exact hfailure _
    next objectIndex hobject =>
      split
      · exact hfailure _
      · split
        next => exact hfailure _
        next descriptor hdescriptor =>
          have hvalue := hfits objectIndex hobject
          rw [valueOf] at hvalue
          rw [ManagedDevice.readExtValue]
          split_ifs
          · exact hfailure _
          · apply hanswer
            rw [length_currentElements]
            decide
          · exact hfailure _
          · split
            next data hprovided =>
              apply hanswer
              apply hvalue data
              rw [hprovided]
              rfl
            next hprovided =>
              split
              next data hstored =>
                apply hanswer
                apply hvalue data
                rw [hprovided, hstored]
                rfl
              next => exact hfailure _

theorem answered_handleExtValueWrite (hframe : frame.service = .propertyExtValueWriteCon)
    {request : PropertyExtValueRequest}
    (hdecode : PropertyExtValueRequest.decode frame.data = some request) :
    AnsweredOnce frame .propertyExtValueWriteConRes
      (d.handleExtValueWrite backend frame request true).2 := by
  have hanswer := answered_propertyExtValueResponse d (.inr ⟨hframe, rfl⟩) hdecode
  rw [ManagedDevice.handleExtValueWrite]
  dsimp only
  rw [if_neg (by decide)]
  split_ifs
  · exact hanswer request.elementCount [_] (show 1 ≤ 246 by decide)
  · exact hanswer 0 [_] (show 1 ≤ 246 by decide)

/-! ## Memory -/

theorem length_handleExtendedReadRequest (memory : Memory) (count : UInt8) (address : Nat) :
    (handleExtendedReadRequest memory count address).2.length ≤ 248 := by
  rw [handleExtendedReadRequest]
  split
  next hsuccess =>
    have hcount : count.toNat ≤ 248 := by
      rw [checkExtendedAccess] at hsuccess
      split at hsuccess
      · cases hsuccess
      next hbounds =>
        rw [not_or, Nat.not_lt] at hbounds
        exact hbounds.2
    split
    next => exact Nat.zero_le _
    next data hread =>
      rw [readMemory, Option.map_eq_some_iff] at hread
      obtain ⟨segment, -, rfl⟩ := hread
      change (slice segment.storage (segment.region.offset (UInt16.ofNat address))
        count.toNat).length ≤ 248
      rw [slice, List.length_take]
      omega
  next => exact Nat.zero_le _

theorem answered_memoryExtended
    (hservice : frame.service = .memoryExtendedRead ∧ service = .memoryExtendedReadResponse
      ∨ frame.service = .memoryExtendedWrite ∧ service = .memoryExtendedWriteResponse)
    {count octet0 octet1 octet2 : UInt8} {value : List UInt8}
    (hdata : frame.data = count :: octet0 :: octet1 :: octet2 :: value) (code : KnxReturnCode)
    (data : List UInt8) (hlength : data.length ≤ 248) :
    AnsweredOnce frame service
      (d.sendMemoryExtendedResponse frame service code (ofOctets [octet0, octet1, octet2]) data) := by
  have hanswer : answerService frame.service = some service := by
    rcases hservice with ⟨h, h'⟩ | ⟨h, h'⟩
    · rw [h, h']
      rfl
    · rw [h, h']
      rfl
  have haddress : toOctets 3 (ofOctets [octet0, octet1, octet2]) = [octet0, octet1, octet2] :=
    toOctets_ofOctets [octet0, octet1, octet2]
  rw [ManagedDevice.sendMemoryExtendedResponse, haddress]
  apply answeredOnce_sendToIndividual d hanswer
  · rw [maxApduLength]
    simp only [List.length_append, List.length_cons, List.length_nil]
    omega
  · rw [hdata]
    rcases hservice with ⟨h, -⟩ | ⟨h, -⟩
    all_goals
      rw [h]
      rfl

/-! ## Property descriptions -/

/-- A description response is the answer where it names the property, or the request named it by
position. -/
theorem answered_propertyDescriptionResponse (hframe : frame.service = .propertyDescriptionRead)
    {objectIndex propertyId propertyIndex : UInt8} {rest : List UInt8}
    (hdata : frame.data = objectIndex :: propertyId :: propertyIndex :: rest)
    {description : PropertyDescription}
    (hnamed : propertyIndex = 0 → description.propertyId = propertyId) :
    AnsweredOnce frame .propertyDescriptionResponse
      (d.sendPropertyDescriptionResponse frame objectIndex propertyIndex description) := by
  have hanswer : answerService frame.service = some .propertyDescriptionResponse := by
    rw [hframe]
    rfl
  apply answeredOnce_sendToIndividual d hanswer
  · exact (show 7 ≤ 254 by decide)
  · rw [hdata, hframe]
    simp only [echoedFields]
    split_ifs with hindex
    · rw [hnamed hindex]
    · rfl

/-- What a description by identifier names. -/
structure DescribesNamed : Prop where
  named : ∀ objectType propertyId description,
    backend.describeProperty objectType propertyId 0 = some description →
    description.propertyId = propertyId

theorem propertyId_described (hbackend : DescribesNamed backend) (objectType : UInt16)
    {propertyId propertyIndex : UInt8} (hindex : propertyIndex = 0) :
    ((describeProperty backend objectType propertyId propertyIndex).getD
      (describeStored backend objectType propertyId propertyIndex)).propertyId = propertyId := by
  subst hindex
  cases hdescribed : describeProperty backend objectType propertyId 0 with
  | some description =>
    rw [describeProperty] at hdescribed
    split at hdescribed
    · rw [describeSecurityProperty, if_pos rfl, Option.map_eq_some_iff] at hdescribed
      obtain ⟨property, hproperty, rfl⟩ := hdescribed
      rw [SecurityProperty.ofPid] at hproperty
      have hpid := List.find?_some hproperty
      exact eq_of_beq hpid
    · exact hbackend.named objectType propertyId description hdescribed
  | none =>
    change (describeStored backend objectType propertyId 0).propertyId = propertyId
    rw [describeStored, if_pos rfl]
    cases hdescriptor : getDescriptor backend objectType propertyId with
    | none => rfl
    | some descriptor =>
      rw [getDescriptor] at hdescriptor
      have hid := List.find?_some hdescriptor
      exact eq_of_beq hid

theorem answered_handlePropertyDescriptionRead (hbackend : DescribesNamed backend)
    (hframe : frame.service = .propertyDescriptionRead) (hlength : 3 ≤ frame.data.length) :
    AnsweredOnce frame .propertyDescriptionResponse
      (d.handlePropertyDescriptionRead backend frame) := by
  rw [ManagedDevice.handlePropertyDescriptionRead]
  split
  next objectIndex propertyId propertyIndex rest hdata =>
    split
    · exact answered_propertyDescriptionResponse d hframe hdata fun _ => rfl
    · split
      next => exact answered_propertyDescriptionResponse d hframe hdata fun _ => rfl
      next objectType hobject =>
        exact answered_propertyDescriptionResponse d hframe hdata
          (propertyId_described backend hbackend objectType)
  next hshort =>
    match hdata : frame.data with
    | objectIndex :: propertyId :: propertyIndex :: rest =>
      exact absurd hdata (hshort objectIndex propertyId propertyIndex rest)
    | [] | [_] | [_, _] =>
      rw [hdata] at hlength
      simp only [List.length_cons, List.length_nil] at hlength
      omega

/-! ## Function properties -/

/-- The parts of a device that send group values send nothing else. -/
structure SendsToGroups : Prop where
  write : ∀ s address value s' frames, backend.sendGroupValue s address value = (s', .ok frames) →
    ∀ f ∈ frames, f.destinationType = .group
  emit : ∀ s goNumber value s' frames,
    backend.emitGroupValueForObject s goNumber value = (s', .ok frames) →
    ∀ f ∈ frames, f.destinationType = .group
  read : ∀ s address s' frames, backend.requestGroupValue s address = (s', .ok frames) →
    ∀ f ∈ frames, f.destinationType = .group

/-- What a function property gives back: a result that fits, and frames to groups alone. -/
structure Returned (result : FunctionPropertyResult) (frames : List TDataFrame) : Prop where
  length : result.data.length ≤ 32
  groups : ∀ f ∈ frames, f.destinationType = .group

theorem length_answerStatusValue (serviceId : UInt8) (goNumber : UInt16) (status : UInt8)
    (object : GroupObject) :
    (answerStatusValue serviceId goNumber status object).data.length ≤ 32 := by
  rw [answerStatusValue]
  split_ifs with hfits
  · exact hfits
  · exact (show 1 ≤ 32 by decide)

theorem returned_service (code : FunctionPropertyReturnCode) (serviceId : UInt8) :
    Returned { returnCode := code, data := [serviceId] } [] :=
  ⟨show 1 ≤ 32 by decide, fun _ h => absurd h List.not_mem_nil⟩

theorem returned_sendAndIndicate (serviceId : UInt8) (destination : UInt16) (groupService : APCIService)
    (value : List UInt8) {sent : σ × Result (List TDataFrame)}
    (hsent : ∀ frames, sent.2 = .ok frames → ∀ f ∈ frames, f.destinationType = .group) :
    Returned (d.sendAndIndicate backend serviceId destination groupService value sent).2.1
      (d.sendAndIndicate backend serviceId destination groupService value sent).2.2 := by
  rw [ManagedDevice.sendAndIndicate]
  split
  next => exact returned_service _ serviceId
  next frames hframes => exact ⟨show 1 ≤ 32 by decide, hsent frames hframes⟩

theorem returned_commandGroupObjectDiagnostics (hsends : SendsToGroups backend) (serviceId : UInt8)
    (serviceInfo : List UInt8) :
    Returned (d.commandGroupObjectDiagnostics backend serviceId serviceInfo).2.1
      (d.commandGroupObjectDiagnostics backend serviceId serviceInfo).2.2 := by
  rw [ManagedDevice.commandGroupObjectDiagnostics.eq_def]
  split_ifs
  · split
    next => exact returned_service _ serviceId
    next =>
      dsimp only
      split_ifs
      · exact returned_service _ serviceId
      · split
        next => exact returned_service _ serviceId
        next => exact ⟨length_answerStatusValue .., fun _ h => absurd h List.not_mem_nil⟩
  · split
    next octet rest =>
      dsimp only
      split
      next =>
        apply returned_sendAndIndicate
        intro frames hframes
        exact hsends.write _ _ _ _ frames (Prod.ext rfl hframes)
      next => exact returned_service _ serviceId
    next => exact returned_service _ serviceId
  · split
    next => exact returned_service _ serviceId
    next =>
      split_ifs
      · exact returned_service _ serviceId
      · dsimp only
        split
        next => exact ⟨length_answerStatusValue .., fun _ h => absurd h List.not_mem_nil⟩
        next frames hframes =>
          exact ⟨length_answerStatusValue .., hsends.emit _ _ _ _ frames (Prod.ext rfl hframes)⟩
  · split
    next =>
      dsimp only
      split
      next =>
        apply returned_sendAndIndicate
        intro frames hframes
        exact hsends.read _ _ _ frames (Prod.ext rfl hframes)
      next => exact returned_service _ serviceId
    next => exact returned_service _ serviceId
  · exact returned_service _ serviceId
  · exact returned_service _ serviceId

theorem length_handleSecurityFunctionProperty {o : SecurityInterfaceObject}
    {source : IndividualAddress} {request : FunctionPropertyRequest} {result : FunctionPropertyResult}
    (h : (handleSecurityFunctionProperty o source request).2 = some result) :
    result.data.length ≤ 32 := by
  rw [handleSecurityFunctionProperty.eq_def] at h
  repeat' split at h
  all_goals first
    | obtain rfl := Option.some.inj h
      exact Nat.le_of_ble_eq_true rfl
    | cases h

theorem length_handleRouterFunctionProperty {table : Option Network.FilterTable}
    {request : FunctionPropertyRequest} {result : FunctionPropertyResult}
    (h : (handleRouterFunctionProperty table request).2 = some result) :
    result.data.length ≤ 32 := by
  have hanswer : ∀ serviceId outcome,
      (Network.RoutingTableControl.answer serviceId outcome).data.length = 1 := by
    intro serviceId outcome
    cases outcome with
    | ok _ => rfl
    | error _ => rfl
  rw [handleRouterFunctionProperty.eq_def] at h
  split at h
  · cases h
  · split at h
    · cases h
    · dsimp only at h
      split at h
      · cases h
      next invoked hinvoked =>
        obtain rfl := Option.some.inj h
        change invoked.data.length ≤ 32
        have hone : invoked.data.length = 1 := by
          rw [Network.RoutingTableControl.invoke.eq_def] at hinvoked
          repeat' split at hinvoked
          all_goals first
            | obtain rfl := Except.ok.inj hinvoked
              first
                | rfl
                | exact hanswer _ _
            | cases hinvoked
        omega

theorem length_readGroupObjectDiagnostics (serviceId : UInt8) (serviceInfo : List UInt8) :
    (d.readGroupObjectDiagnostics backend serviceId serviceInfo).data.length ≤ 32 := by
  rw [ManagedDevice.readGroupObjectDiagnostics]
  repeat' split
  all_goals first
    | exact length_answerStatusValue ..
    | exact Nat.le_of_ble_eq_true rfl

theorem returned_handleFunctionProperty (hsends : SendsToGroups backend) (source : IndividualAddress)
    (objectType : UInt16) (request : FunctionPropertyRequest) :
    (∀ f ∈ (d.handleFunctionProperty backend source objectType request).2.2,
        f.destinationType = .group)
      ∧ ∀ result, (d.handleFunctionProperty backend source objectType request).2.1 = some result →
        result.data.length ≤ 32 := by
  rw [ManagedDevice.handleFunctionProperty]
  split_ifs
  · refine ⟨fun _ h => absurd h List.not_mem_nil, ?_⟩
    intro result hresult
    exact length_handleSecurityFunctionProperty hresult
  · refine ⟨fun _ h => absurd h List.not_mem_nil, ?_⟩
    intro result hresult
    exact length_handleRouterFunctionProperty hresult
  · rw [ManagedDevice.handleGroupObjectDiagnostics.eq_def]
    split_ifs
    · exact ⟨fun _ h => absurd h List.not_mem_nil, fun _ h => by cases h⟩
    · split
      next reserved serviceId serviceInfo hdata =>
        split
        next =>
          refine ⟨fun _ h => absurd h List.not_mem_nil, ?_⟩
          intro result hresult
          obtain rfl := Option.some.inj hresult
          exact length_readGroupObjectDiagnostics d backend serviceId serviceInfo
        next =>
          have hreturned :=
            returned_commandGroupObjectDiagnostics d backend hsends serviceId serviceInfo
          refine ⟨hreturned.groups, ?_⟩
          intro result hresult
          obtain rfl := Option.some.inj hresult
          exact hreturned.length
      next =>
        refine ⟨fun _ h => absurd h List.not_mem_nil, ?_⟩
        intro result hresult
        obtain rfl := Option.some.inj hresult
        exact Nat.zero_le _
  · exact ⟨fun _ h => absurd h List.not_mem_nil, fun _ h => by cases h⟩

theorem responses_groups (requester : IndividualAddress) {frames : List TDataFrame}
    (hgroups : ∀ f ∈ frames, f.destinationType = .group) :
    responses requester service frames = [] := by
  rw [responses, List.filterMap_eq_nil_iff]
  intro f hf
  rw [responsePayload, if_neg]
  rintro ⟨htype, -⟩
  rw [hgroups f hf] at htype
  cases htype

theorem answered_handleFunctionPropertyService (hsends : SendsToGroups backend)
    (hframe : frame.service = .functionPropertyCommand ∨ frame.service = .functionPropertyStateRead)
    (hheader : 2 ≤ frame.data.length) (hlength : frame.data.length ≤ 34)
    (invocation : Network.FunctionPropertyInvocation) :
    AnsweredOnce frame .functionPropertyStateResponse
      (d.handleFunctionPropertyService backend frame invocation).2 := by
  have hanswer : answerService frame.service = some .functionPropertyStateResponse := by
    rcases hframe with h | h
    · rw [h]
      rfl
    · rw [h]
      rfl
  rw [ManagedDevice.handleFunctionPropertyService]
  split
  next objectIndex propertyId input hdata =>
    have hechoed : ∀ data, echoedFields frame.service (objectIndex :: propertyId :: data)
        = echoedFields frame.service frame.data := by
      intro data
      rw [hdata]
      rcases hframe with h | h
      all_goals
        rw [h]
        rfl
    rw [hdata] at hlength
    simp only [List.length_cons] at hlength
    split
    next hlong =>
      rw [maxFunctionPropertyDataBytes] at hlong
      omega
    next =>
      split
      next =>
        apply answeredOnce_sendToIndividual d hanswer _ (hechoed [])
        exact (show 2 ≤ 254 by decide)
      next objectType hobject =>
        obtain ⟨hgroups, hresult⟩ := returned_handleFunctionProperty d backend hsends frame.source
          objectType ⟨propertyId, invocation, input, frame.security⟩
        dsimp only
        generalize d.handleFunctionProperty backend frame.source objectType
          ⟨propertyId, invocation, input, frame.security⟩ = handled at hgroups hresult
        have hsent : ∀ payload, payload.length ≤ maxApduLength →
            echoedFields frame.service payload = echoedFields frame.service frame.data →
            AnsweredOnce frame .functionPropertyStateResponse
              (handled.2.2 ++ d.sendToIndividual frame .functionPropertyStateResponse payload) := by
          intro payload hfits hfields
          refine ⟨payload, ?_, hfields⟩
          rw [responses, List.filterMap_append, ← responses, responses_groups _ hgroups, ← responses,
            responses_sendToIndividual d hanswer hfits]
          rfl
        split
        next => exact hsent [objectIndex, propertyId] (show 2 ≤ 254 by decide) (hechoed [])
        next result hreturned =>
          have hfits := hresult result hreturned
          apply hsent _ _ (hechoed _)
          change ([objectIndex, propertyId, result.returnCode.code] ++ result.data).length ≤ 254
          rw [List.length_append]
          simp only [List.length_cons, List.length_nil]
          omega
  next hshort =>
    rcases hdata : frame.data with _ | ⟨objectIndex, _ | ⟨propertyId, rest⟩⟩
    · rw [hdata, List.length_nil] at hheader
      omega
    · rw [hdata, List.length_singleton] at hheader
      omega
    · exact absurd hdata (hshort objectIndex propertyId rest)

/-! ## The application layer -/

/-- The octets of a complete header. -/
def headerLength : APCIService → Nat
  | .propertyValueRead | .propertyValueWrite => 4
  | .propertyDescriptionRead => 3
  | .propertyExtValueRead | .propertyExtValueWriteCon => 8
  | .functionPropertyCommand | .functionPropertyStateRead => 2
  | .memoryExtendedRead | .memoryExtendedWrite => 4
  | _ => 0

/-- The answer fits a response: 250 octets of a property value and 246 of an extended one, and 32
octets that a function property is given. -/
def AnswerFits (request : ADataFrame) : Prop :=
  match request.service with
  | .propertyValueRead =>
      ∀ named, PropertyValueRequest.decode request.data = some named →
        ∀ value, valueOf d backend named.objectIndex named.propertyId named.startIndex.toNat
          named.elementCount.toNat = some value → value.length ≤ 250
  | .propertyValueWrite =>
      ∀ named, PropertyValueRequest.decode request.data = some named →
        ∀ d', d.writeProvider backend named.objectIndex named.propertyId named.startIndex.toNat
          named.data = some d' →
        ∀ value, valueOf d' backend named.objectIndex named.propertyId named.startIndex.toNat
          named.elementCount.toNat = some value → value.length ≤ 250
  | .propertyExtValueRead =>
      ∀ named, PropertyExtValueRequest.decode request.data = some named →
        ∀ objectIndex, d.resolveObject named.header.objectType named.header.objectInstance
          = some objectIndex →
        ∀ value, valueOf d backend objectIndex named.header.narrowPropertyId named.startIndex.toNat
          named.elementCount.toNat = some value → value.length ≤ 246
  | .functionPropertyCommand | .functionPropertyStateRead =>
      request.data.length ≤ 2 + maxFunctionPropertyDataBytes
  | _ => True

theorem decode_propertyValue {data : List UInt8} (h : 4 ≤ data.length) :
    ∃ request, PropertyValueRequest.decode data = some request := by
  match data with
  | objectIndex :: propertyId :: octet2 :: octet3 :: value => exact ⟨_, rfl⟩
  | [] | [_] | [_, _] | [_, _, _] =>
    simp only [List.length_cons, List.length_nil] at h
    omega

theorem decode_propertyExtValue {data : List UInt8} (h : 8 ≤ data.length) :
    ∃ request, PropertyExtValueRequest.decode data = some request := by
  match data with
  | _ :: _ :: _ :: _ :: _ :: _ :: _ :: _ :: value => exact ⟨_, rfl⟩
  | [] | [_] | [_, _] | [_, _, _] | [_, _, _, _] | [_, _, _, _, _] | [_, _, _, _, _, _]
  | [_, _, _, _, _, _, _] =>
    simp only [List.length_cons, List.length_nil] at h
    omega

theorem memory_header {data : List UInt8} (h : 4 ≤ data.length) :
    ∃ count octet0 octet1 octet2 value, data = count :: octet0 :: octet1 :: octet2 :: value := by
  match data with
  | count :: octet0 :: octet1 :: octet2 :: value => exact ⟨_, _, _, _, _, rfl⟩
  | [] | [_] | [_, _] | [_, _, _] =>
    simp only [List.length_cons, List.length_nil] at h
    omega

theorem answered_dispatchService (hbackend : DescribesNamed backend) (hsends : SendsToGroups backend)
    (hservice : answerService frame.service = some service)
    (hheader : headerLength frame.service ≤ frame.data.length)
    (hlength : frame.data.length ≤ maxApduLength) (hfits : AnswerFits d backend frame) :
    AnsweredOnce frame service (d.dispatchService backend frame).2 := by
  rw [answerService.eq_def] at hservice
  rw [ManagedDevice.dispatchService.eq_def]
  rw [AnswerFits] at hfits
  split at hservice
  all_goals first
    | obtain rfl := Option.some.inj hservice
    | cases hservice
  next hframe =>
    rw [hframe] at hfits hheader ⊢
    obtain ⟨named, hdecode⟩ := decode_propertyValue hheader
    dsimp only
    rw [ManagedDevice.handlePropertyValueRead, hdecode]
    exact answered_handleValueRead d backend hframe hdecode (hfits named hdecode)
  next hframe =>
    rw [hframe] at hfits hheader ⊢
    obtain ⟨named, hdecode⟩ := decode_propertyValue hheader
    dsimp only
    rw [ManagedDevice.handlePropertyValueWrite, hdecode]
    exact answered_handleValueWrite d backend hframe hdecode hlength (hfits named hdecode)
  next hframe =>
    rw [hframe] at hheader ⊢
    exact answered_handlePropertyDescriptionRead d backend hbackend hframe hheader
  next hframe =>
    rw [hframe] at hfits hheader ⊢
    obtain ⟨named, hdecode⟩ := decode_propertyExtValue hheader
    dsimp only
    rw [ManagedDevice.handlePropertyExtValueRead, hdecode]
    exact answered_handleExtValueRead d backend hframe hdecode (hfits named hdecode)
  next hframe =>
    rw [hframe] at hheader ⊢
    obtain ⟨named, hdecode⟩ := decode_propertyExtValue hheader
    dsimp only
    rw [ManagedDevice.handlePropertyExtValueWrite, hdecode]
    exact answered_handleExtValueWrite d backend hframe hdecode
  next hframe =>
    rw [hframe] at hfits hheader ⊢
    exact answered_handleFunctionPropertyService d backend hsends (.inl hframe) hheader hfits .command
  next hframe =>
    rw [hframe] at hfits hheader ⊢
    exact answered_handleFunctionPropertyService d backend hsends (.inr hframe) hheader hfits
      .stateRead
  next hframe =>
    rw [hframe] at hheader ⊢
    obtain ⟨count, octet0, octet1, octet2, value, hdata⟩ := memory_header hheader
    dsimp only
    rw [ManagedDevice.handleMemoryExtendedRead, hdata]
    exact answered_memoryExtended d (.inl ⟨hframe, rfl⟩) hdata _ _
      (length_handleExtendedReadRequest d.memory count _)
  next hframe =>
    rw [hframe] at hheader ⊢
    obtain ⟨count, octet0, octet1, octet2, value, hdata⟩ := memory_header hheader
    dsimp only
    rw [ManagedDevice.handleMemoryExtendedWrite, hdata]
    exact answered_memoryExtended d (.inr ⟨hframe, rfl⟩) hdata _ [] (Nat.zero_le _)

end Answers

section Device

variable {τ : Type} (runtime : Runtime τ) (schema : ReferenceSchema)

theorem describesNamed_coreBackend : DescribesNamed (coreBackend runtime schema) := by
  refine ⟨?_⟩
  intro objectType propertyId description h
  change CoreObjects.describeProperty schema objectType propertyId 0 = some description at h
  rw [CoreObjects.describeProperty, if_pos rfl, Option.map_eq_some_iff] at h
  obtain ⟨property, hproperty, rfl⟩ := h
  rw [findProperty] at hproperty
  have hid := List.find?_some hproperty
  exact eq_of_beq hid

/-- Every management request is answered exactly once, where its header is complete, it is
permitted and the answer fits a response. -/
theorem answered_once (hsends : SendsToGroups (coreBackend runtime schema))
    (d : ManagedDevice (CoreObjects × τ)) (frame : TDataFrame) (request : ADataFrame)
    (hdecode : decodeTransportRx frame = some request) (service : APCIService)
    (hservice : answerService request.service = some service)
    (hheader : headerLength request.service ≤ request.data.length)
    (hpermitted : d.isRequestPermitted request = true)
    (hfits : AnswerFits d (coreBackend runtime schema) request) :
    AnsweredOnce request service (d.handleTransportRx (coreBackend runtime schema) frame).2 := by
  rw [ManagedDevice.handleTransportRx, hdecode]
  dsimp only
  rw [if_pos hpermitted]
  exact answered_dispatchService d _ (describesNamed_coreBackend runtime schema) hsends hservice
    hheader (length_decodeTransportRx hdecode) hfits

end Device

/-- A device with its interface objects as they are after `init`. -/
def plainDevice : ManagedDevice (CoreObjects × Unit) := { others := ({}, ()) }

/-- A request from 1.1.1 to the device at 1.1.2. -/
def requestFrame (octets : List UInt8) (h : octets.length ≤ Datalink.maxFrameSize := by decide) :
    TDataFrame :=
  { service := .individual
    source := ⟨0x1101⟩
    destination := ⟨0x1102⟩
    destinationType := .individual
    tpdu := ⟨octets, h⟩ }

theorem sendsToGroups_default : SendsToGroups (coreBackend ({} : Runtime Unit) (fun _ => [])) := by
  refine ⟨?_, ?_, ?_⟩
  all_goals
    intros
    rename_i h _ _
    cases h

/-- A_PropertyValue_Read of the type of the Device Object. -/
theorem read_object_type_answered :
    ∃ request, decodeTransportRx (requestFrame [0x03, 0xD5, 0x00, 0x01, 0x10, 0x01]) = some request
      ∧ AnsweredOnce request .propertyValueResponse
        (plainDevice.handleTransportRx (coreBackend {} (fun _ => []))
          (requestFrame [0x03, 0xD5, 0x00, 0x01, 0x10, 0x01])).2 := by
  refine ⟨_, rfl, answered_once {} (fun _ => []) sendsToGroups_default plainDevice _ _ rfl _ rfl
    (by decide) (by decide) ?_⟩
  intro named hnamed value hvalue
  obtain rfl := Option.some.inj hnamed
  have hread : valueOf plainDevice (coreBackend {} (fun _ => [])) 0 1 1 1 = some [0x00, 0x00] := by
    decide +kernel
  have hsame : some value = some [0x00, 0x00] := hvalue.symm.trans hread
  cases hsame
  decide

theorem fullTable_bounded :
    (List.replicate 124 (0x0901 : UInt16)).length ≤ groupAddressFormat.maxEntries := by
  rw [List.length_replicate]
  decide

/-- A device with a group address table of 124 entries. -/
def fullTableDevice : ManagedDevice (CoreObjects × Unit) :=
  { others :=
      ({ addressTable := { entries := List.replicate 124 0x0901, bounded := fullTable_bounded } },
        ()) }

/-- A description by position names the property that is found: the first property of the Device
Object is asked for as property 0 and answered as property 11. An answer that does not fit is not
sent: that to an extended read of 124 group addresses, or to a function property that is given 33
octets. -/
theorem description_by_position_named :
    (∃ payload, responses ⟨0x1101⟩ .propertyDescriptionResponse
          (plainDevice.handleTransportRx (coreBackend {} (fun _ => []))
            (requestFrame [0x03, 0xD8, 0x00, 0x00, 0x01])).2 = [payload]
        ∧ namedFields .propertyDescriptionRead payload
          ≠ namedFields .propertyDescriptionRead [0x00, 0x00, 0x01])
      ∧ responses ⟨0x1101⟩ .propertyExtValueResponse
          (fullTableDevice.handleTransportRx (coreBackend {} (fun _ => []))
            (requestFrame [0x01, 0xCC, 0x00, 0x01, 0x00, 0x10, 0x17, 0x7C, 0x00, 0x01])).2 = []
      ∧ responses ⟨0x1101⟩ .functionPropertyStateResponse
          (plainDevice.handleTransportRx (coreBackend {} (fun _ => []))
            (requestFrame ([0x02, 0xC7, 0x00, 0x01] ++ List.replicate 33 0))).2 = [] := by
  refine ⟨⟨[0, 11, 1, 22, 0, 1, 0], ?_, ?_⟩, ?_, ?_⟩
  all_goals decide +kernel

end KnxStack.Bau
