import KnxStack.Bau.ManagementServices
import Mathlib.Tactic.IntervalCases

/-!
# Services on the wire and back

`buildTransportTxFrame` writes a service and its data into a TPDU, the receive path of
`handleTransportRx` reads them from one (`application/application_layer.cpp`). Services share the ten
bits of the control field (`application/apci_services.hpp`): some leave six of them to data, and
three blocks of ten-bit services lie inside the span of one of these, A_ADC_Response. A_GroupValue_Read
has no data and is sent without any.

`service_codec_round_trip`: apart from these a service comes back with the data it was sent with.
-/

set_option autoImplicit false

namespace KnxStack.Bau

open KnxStack.Application KnxStack.Protocol
open KnxStack.Transport (TDataFrame)

/-! ## The control field -/

/-- The control field that is read from the header of a service. -/
def receivedApci (service : APCIService) (data : UInt8) : APCIField :=
  (unpackTpduHeader
    (packTpduHeader (.create .unnumberedData 0) (createApci service data)).1
    (packTpduHeader (.create .unnumberedData 0) (createApci service data)).2).apci

/-- The services whose control field takes a value of six bits. -/
def valueServices : List APCIService :=
  [.groupValueResponse, .groupValueWrite, .adcRead, .adcResponse, .memoryRead, .memoryResponse,
    .memoryWrite, .deviceDescriptorRead, .deviceDescriptorResponse]

/-- A_ADC_Response with this value has the code of a system network parameter service, an extended
property service or an extended memory service. -/
def sharesCode (value : UInt8) : Bool :=
  8 ≤ value && value ≤ 10 || 12 ≤ value && value ≤ 22 || 59 ≤ value && value ≤ 62

theorem join_apci (raw : UInt16) :
    ((((0 : UInt8) ||| ((raw &&& 0x03FF) >>> 8 &&& 0x03).toUInt8).toUInt16 &&& 0x03) <<< 8)
      ||| ((raw &&& 0x03FF) &&& 0xFF).toUInt8.toUInt16 = raw &&& 0x03FF := by
  apply UInt16.eq_of_toBitVec_eq
  apply BitVec.eq_of_getLsbD_eq
  intro i hi
  interval_cases i <;> simp [-UInt16.toUInt16_toUInt8]

theorem isControlType_firstOctet (raw : UInt16) :
    isControlType ⟨(0 : UInt8) ||| ((raw &&& 0x03FF) >>> 8 &&& 0x03).toUInt8⟩ = false := by
  have hkind : ((0 : UInt8) ||| ((raw &&& 0x03FF) >>> 8 &&& 0x03).toUInt8) &&& 0xC0 = 0 := by
    apply UInt8.eq_of_toBitVec_eq
    apply BitVec.eq_of_getLsbD_eq
    intro i hi
    interval_cases i <;> simp
  simp only [isControlType, hkind]
  decide

theorem receivedApci_eq (service : APCIService) (data : UInt8) :
    receivedApci service data = ⟨(createApci service data).raw &&& 0x03FF⟩ := by
  have hpack : packTpduHeader (.create .unnumberedData 0) (createApci service data)
      = ((0 : UInt8) ||| (((createApci service data).raw &&& 0x03FF) >>> 8 &&& 0x03).toUInt8,
          (((createApci service data).raw &&& 0x03FF) &&& 0xFF).toUInt8) := rfl
  rw [receivedApci, hpack, unpackTpduHeader, isControlType_firstOctet]
  exact congrArg APCIField.mk (join_apci (createApci service data).raw)

/-- The field lies in one of the blocks of ten-bit services. -/
def inTenBitBlock (field : APCIField) : Bool :=
  isFunctionProperty field || isMemoryExtended field || isPropertyExtended field
    || isSystemNetworkParameter field

/-- A value of six bits leaves the code of its service in the other four, and only A_ADC_Response
shares its codes with a block. -/
theorem createApci_values : ∀ i : Fin 64, ∀ service ∈ valueServices,
    (createApci service (UInt8.ofNat i)).raw &&& 0x03FF &&& 0x03C0 = service.code ∧
      data6Of ⟨(createApci service (UInt8.ofNat i)).raw &&& 0x03FF⟩ = UInt8.ofNat i ∧
      ((service = .adcResponse → sharesCode (UInt8.ofNat i) = false) →
        inTenBitBlock ⟨(createApci service (UInt8.ofNat i)).raw &&& 0x03FF⟩ = false) := by
  decide +kernel

theorem ofCode_valueServices : ∀ service ∈ valueServices,
    service.code ≠ APCIService.escape.code ∧ APCIService.ofCode service.code = service := by
  decide +kernel

/-- A value of six bits does not disturb the code of its service, outside the shared codes. -/
theorem receivedApci_value {service : APCIService} {value : UInt8}
    (hservice : service ∈ valueServices) (hvalue : value ≤ 0x3F)
    (hadc : service = .adcResponse → sharesCode value = false) :
    serviceOf (receivedApci service value) = service ∧
      data6Of (receivedApci service value) = value := by
  have hlt : value.toNat < 64 := Nat.lt_succ_of_le (UInt8.le_iff_toNat_le.mp hvalue)
  have hsix := createApci_values ⟨value.toNat, hlt⟩ service hservice
  rw [UInt8.ofNat_toNat] at hsix
  obtain ⟨hcode, hback, hblock⟩ := hsix
  obtain ⟨hescape, hown⟩ := ofCode_valueServices service hservice
  rw [receivedApci_eq]
  refine ⟨?_, hback⟩
  have hplain := hblock hadc
  rw [inTenBitBlock] at hplain
  rw [serviceOf, hcode, if_neg hescape, hplain, if_neg Bool.false_ne_true, hown]

/-- A service that is sent with no value in its control field comes back, A_Restart_Response
excepted. -/
theorem serviceOf_receivedApci_zero : ∀ service ∈ APCIService.named, service ≠ .restartResponse →
    serviceOf (receivedApci service 0) = service := by
  -- the packing is undone first: evaluated in the kernel it would be repeated for every comparison
  simp only [receivedApci_eq]
  decide +kernel

/-! ## The frame -/

/-- What the receive path makes of a header and a payload. -/
def receivedData (apci : APCIField) (payload : List UInt8) : List UInt8 :=
  let data :=
    ((if (serviceOf apci).usesApciData6 then [data6Of apci] else []) ++ payload).take maxApduLength
  if (serviceOf apci = .groupValueWrite ∨ serviceOf apci = .groupValueResponse) ∧ data = [] then
    [data6Of apci]
  else data

section Frames

variable {ownAddress : IndividualAddress} {connected : Bool} {destination : GroupAddress}
  {service : APCIService} {data : List UInt8} {destinationType : AddressType} {frame : TDataFrame}

theorem tpdu_of_built
    (h : buildTransportTxFrame ownAddress connected destination service data destinationType
      = some frame) :
    ∃ apci payload, encodeServiceData service data = some (apci, payload) ∧
      payload.length ≤ maxApduLength ∧
      frame.tpdu.data
        = (packTpduHeader (.create .unnumberedData 0) apci).1
          :: (packTpduHeader (.create .unnumberedData 0) apci).2 :: payload := by
  unfold buildTransportTxFrame at h
  rcases hencode : encodeServiceData service data with _ | ⟨apci, payload⟩
  · rw [hencode] at h
    cases h
  · rw [hencode] at h
    dsimp only at h
    split at h
    · rename_i hfits
      cases h
      have hlength : 2 + payload.length ≤ 256 := hfits
      refine ⟨apci, payload, rfl, ?_, ?_⟩
      · rw [maxApduLength]
        omega
      · change buildTpdu (.create .unnumberedData 0) apci payload = _
        rw [buildTpdu, if_neg]
        change ¬ 2 + payload.length = 1
        omega
    · cases h

theorem built_of_encoded {apci : APCIField} {payload : List UInt8}
    (ownAddress : IndividualAddress) (connected : Bool) (destination : GroupAddress)
    (destinationType : AddressType)
    (hencode : encodeServiceData service data = some (apci, payload))
    (hlength : payload.length ≤ maxApduLength) :
    ∃ frame, buildTransportTxFrame ownAddress connected destination service data destinationType
      = some frame := by
  have hfits : tpduLengthFromTpci (.create .unnumberedData 0) payload.length
      ≤ Datalink.maxFrameSize := by
    change 2 + payload.length ≤ 256
    rw [maxApduLength] at hlength
    omega
  unfold buildTransportTxFrame
  rw [hencode]
  dsimp only
  rw [dif_pos hfits]
  exact ⟨_, rfl⟩

/-- The receive path reads the service from the header and the data from header and payload. -/
theorem decodeTransportRx_of_built {value : UInt8} {payload : List UInt8}
    (hbuild : buildTransportTxFrame ownAddress connected destination service data destinationType
      = some frame)
    (hencode : encodeServiceData service data = some (createApci service value, payload)) :
    ∃ received, decodeTransportRx frame = some received ∧
      received.service = serviceOf (receivedApci service value) ∧
      received.data = receivedData (receivedApci service value) payload := by
  obtain ⟨apci, payload', hencode', -, htpdu⟩ := tpdu_of_built hbuild
  rw [hencode] at hencode'
  cases hencode'
  rw [decodeTransportRx, htpdu]
  exact ⟨_, rfl, rfl, rfl⟩

theorem payload_le_of_built {apci : APCIField} {payload : List UInt8}
    (hbuild : buildTransportTxFrame ownAddress connected destination service data destinationType
      = some frame)
    (hencode : encodeServiceData service data = some (apci, payload)) :
    payload.length ≤ maxApduLength := by
  obtain ⟨apci', payload', hencode', hlength, -⟩ := tpdu_of_built hbuild
  rw [hencode] at hencode'
  cases hencode'
  exact hlength

/-! ## One kind of service at a time -/

/-- The three services of a group value. -/
def isGroupValueService (service : APCIService) : Bool :=
  service == .groupValueRead || service == .groupValueWrite || service == .groupValueResponse

/-- The frame comes back as the service with the data. -/
def ReadBackAs (frame : TDataFrame) (service : APCIService) (data : List UInt8) : Prop :=
  ∃ received, decodeTransportRx frame = some received ∧ received.service = service ∧
    received.data = data

theorem encodeServiceData_data6 (hsix : service.usesApciData6 = true) (value : UInt8)
    (tail : List UInt8) :
    encodeServiceData service (value :: tail) = some (createApci service value, tail) := by
  cases service <;> first | rfl | cases hsix

theorem mem_valueServices_of_data6 (hsix : service.usesApciData6 = true) :
    service ∈ valueServices := by
  cases service <;> first | decide | cases hsix

theorem encodeServiceData_nil_data6 (hsix : service.usesApciData6 = true) :
    encodeServiceData service [] = none := by
  cases service <;> first | rfl | cases hsix

theorem readBack_data6 (hsix : service.usesApciData6 = true)
    (hvalue : ∀ value ∈ data.head?, value ≤ 0x3F) (hlength : data.length ≤ maxApduLength)
    (hadc : service = .adcResponse → ∀ value ∈ data.head?, sharesCode value = false)
    (hbuild : buildTransportTxFrame ownAddress connected destination service data destinationType
      = some frame) :
    ReadBackAs frame service data := by
  cases data with
  | nil =>
    obtain ⟨apci, payload, hencode, -⟩ := tpdu_of_built hbuild
    rw [encodeServiceData_nil_data6 hsix] at hencode
    cases hencode
  | cons value tail =>
    obtain ⟨hservice, hback⟩ := receivedApci_value (mem_valueServices_of_data6 hsix)
      (hvalue value rfl) (fun h => hadc h value rfl)
    obtain ⟨received, hdecode, hreceived, hdata⟩ :=
      decodeTransportRx_of_built hbuild (encodeServiceData_data6 hsix value tail)
    refine ⟨received, hdecode, hreceived.trans hservice, ?_⟩
    rw [hdata, receivedData, hservice, hback, if_pos hsix]
    rw [List.singleton_append, List.take_of_length_le hlength, if_neg]
    simp

theorem readBack_groupValue (hgroup : service = .groupValueWrite ∨ service = .groupValueResponse)
    (hbuild : buildTransportTxFrame ownAddress connected destination service data destinationType
      = some frame) :
    ReadBackAs frame service data := by
  have hvalues : service ∈ valueServices := by
    rcases hgroup with rfl | rfl <;> decide
  have hadc : ∀ value, service = .adcResponse → sharesCode value = false := by
    rintro value rfl
    rcases hgroup with h | h <;> cases h
  have hplain : service.usesApciData6 = false := by
    rcases hgroup with rfl | rfl <;> rfl
  by_cases hshort : ∃ value, data = [value] ∧ value ≤ 0x3F
  · -- the receiver takes the value from the control field because nothing follows it
    obtain ⟨value, rfl, hvalue⟩ := hshort
    have hencode : encodeServiceData service [value] = some (createApci service value, []) := by
      rcases hgroup with rfl | rfl <;> simp [encodeServiceData, hvalue]
    obtain ⟨hservice, hback⟩ := receivedApci_value hvalues hvalue (hadc value)
    obtain ⟨received, hdecode, hreceived, hdata⟩ := decodeTransportRx_of_built hbuild hencode
    refine ⟨received, hdecode, hreceived.trans hservice, ?_⟩
    rw [hdata, receivedData, hservice, hback, hplain]
    simp [hgroup]
  · have hencode : data ≠ [] → encodeServiceData service data = some (createApci service 0, data) := by
      intro hne
      match data with
      | [] => exact absurd rfl hne
      | [value] =>
        have hlong : ¬ value ≤ 0x3F := fun hvalue => hshort ⟨value, rfl, hvalue⟩
        rcases hgroup with rfl | rfl <;> simp [encodeServiceData, hlong]
      | value :: value' :: rest => rcases hgroup with rfl | rfl <;> rfl
    -- a group value without octets is not encoded, so no frame is built for it
    have hne : data ≠ [] := by
      rintro rfl
      obtain ⟨apci, payload, hnone, -⟩ := tpdu_of_built hbuild
      rcases hgroup with rfl | rfl <;> cases hnone
    obtain ⟨hservice, -⟩ := receivedApci_value hvalues (show (0 : UInt8) ≤ 0x3F by decide) (hadc 0)
    obtain ⟨received, hdecode, hreceived, hdata⟩ := decodeTransportRx_of_built hbuild (hencode hne)
    refine ⟨received, hdecode, hreceived.trans hservice, ?_⟩
    rw [hdata, receivedData, hservice, hplain]
    rw [if_neg Bool.false_ne_true, List.nil_append,
      List.take_of_length_le (payload_le_of_built hbuild (hencode hne)), if_neg]
    exact fun h => hne h.2

theorem encodeServiceData_plain (hsix : service.usesApciData6 = false)
    (hgroup : isGroupValueService service = false) :
    encodeServiceData service data = some (createApci service 0, data) := by
  cases service <;> first | rfl | exact absurd hsix (by decide) | exact absurd hgroup (by decide)

theorem readBack_plain (hnamed : service ∈ APCIService.named) (hrestart : service ≠ .restartResponse)
    (hsix : service.usesApciData6 = false) (hgroup : isGroupValueService service = false)
    (hbuild : buildTransportTxFrame ownAddress connected destination service data destinationType
      = some frame) :
    ReadBackAs frame service data := by
  have hencode : encodeServiceData service data = some (createApci service 0, data) :=
    encodeServiceData_plain hsix hgroup
  have hservice := serviceOf_receivedApci_zero service hnamed hrestart
  obtain ⟨received, hdecode, hreceived, hdata⟩ := decodeTransportRx_of_built hbuild hencode
  refine ⟨received, hdecode, hreceived.trans hservice, ?_⟩
  rw [hdata, receivedData, hservice, hsix]
  rw [if_neg Bool.false_ne_true, List.nil_append,
    List.take_of_length_le (payload_le_of_built hbuild hencode), if_neg]
  rintro ⟨rfl | rfl, -⟩ <;> exact absurd hgroup (by decide)

/-- The service codec. A frame that was built comes back as its service with its data;
A_GroupValue_Read comes back without data. -/
theorem service_codec_round_trip (hnamed : service ∈ APCIService.named)
    (hrestart : service ≠ .restartResponse)
    (hvalue : service.usesApciData6 = true → ∀ value ∈ data.head?, value ≤ 0x3F)
    (hlength : service.usesApciData6 = true → data.length ≤ maxApduLength)
    (hadc : service = .adcResponse → ∀ value ∈ data.head?, sharesCode value = false)
    (hbuild : buildTransportTxFrame ownAddress connected destination service data destinationType
      = some frame) :
    ReadBackAs frame service (if service = .groupValueRead then [] else data) := by
  by_cases hsix : service.usesApciData6 = true
  · have hne : service ≠ .groupValueRead := by
      rintro rfl
      cases hsix
    rw [if_neg hne]
    exact readBack_data6 hsix (hvalue hsix) (hlength hsix) hadc hbuild
  · rw [Bool.not_eq_true] at hsix
    by_cases hread : service = .groupValueRead
    · subst hread
      rw [if_pos rfl]
      have hencode : encodeServiceData .groupValueRead data
          = some (createApci .groupValueRead 0, []) := rfl
      obtain ⟨received, hdecode, hreceived, hdata⟩ := decodeTransportRx_of_built hbuild hencode
      exact ⟨received, hdecode, hreceived.trans (by decide), hdata.trans (by decide)⟩
    · rw [if_neg hread]
      by_cases hgroup : service = .groupValueWrite ∨ service = .groupValueResponse
      · exact readBack_groupValue hgroup hbuild
      · have hplain : isGroupValueService service = false := by
          rw [not_or] at hgroup
          simp [isGroupValueService, hread, hgroup.1, hgroup.2]
        exact readBack_plain hnamed hrestart hsix hplain hbuild

end Frames

/-- A_Memory_Response of two octets at 4000h. -/
theorem memoryResponse_round_trip :
    ∃ frame, buildTransportTxFrame ⟨0x1101⟩ false ⟨0x1102⟩ .memoryResponse [2, 0x40, 0, 0xAA, 0xBB]
        .individual = some frame ∧
      ReadBackAs frame .memoryResponse [2, 0x40, 0, 0xAA, 0xBB] :=
  have hencode : encodeServiceData .memoryResponse [2, 0x40, 0, 0xAA, 0xBB]
      = some (createApci .memoryResponse 2, [0x40, 0, 0xAA, 0xBB]) := rfl
  (built_of_encoded ⟨0x1101⟩ false ⟨0x1102⟩ .individual hencode (by decide)).imp fun _ h =>
    ⟨h, service_codec_round_trip (by decide) (by decide)
      (fun _ value hvalue => Option.some.inj hvalue ▸ show (2 : UInt8) ≤ 0x3F by decide)
      (by decide) nofun h⟩

/-- The A_ADC_Response for channel 8 is read as A_SystemNetworkParameter_Read. -/
theorem adcResponse_read_back_as_other :
    ¬ ∀ (ownAddress : IndividualAddress) (connected : Bool) (destination : GroupAddress)
      (service : APCIService) (data : List UInt8) (destinationType : AddressType)
      (frame : TDataFrame), service ∈ APCIService.named → service ≠ .restartResponse →
      (service.usesApciData6 = true → ∀ value ∈ data.head?, value ≤ 0x3F) →
      buildTransportTxFrame ownAddress connected destination service data destinationType
        = some frame →
      ReadBackAs frame service data := by
  intro h
  have hencode : encodeServiceData .adcResponse [8, 0, 0, 0]
      = some (createApci .adcResponse 8, [0, 0, 0]) := rfl
  obtain ⟨frame, hbuild⟩ :=
    built_of_encoded ⟨0x1101⟩ false ⟨0x1102⟩ .individual hencode (by decide)
  obtain ⟨received, hdecode, hservice, -⟩ := decodeTransportRx_of_built hbuild hencode
  obtain ⟨received', hdecode', hservice', -⟩ :=
    h ⟨0x1101⟩ false ⟨0x1102⟩ .adcResponse [8, 0, 0, 0] .individual frame (by decide) (by decide)
      (fun _ value hvalue => Option.some.inj hvalue ▸ show (8 : UInt8) ≤ 0x3F by decide) hbuild
  rw [hdecode] at hdecode'
  cases hdecode'
  rw [hservice] at hservice'
  exact absurd hservice' (by decide)

end KnxStack.Bau
