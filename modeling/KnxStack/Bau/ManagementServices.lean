import KnxStack.Bau.ManagedDevice

/-!
# The management services of the application layer

`ApplicationLayer::handleTransportRx` and what it dispatches to (`application/application_layer.cpp`,
`property_services.cpp`, `property_ext_services.cpp`, `function_property_services.cpp`,
`network_parameter_service.cpp`, `device_descriptor_service.cpp`, `restart_service.cpp`): from an
inbound transport frame to the new device and the frames that are handed to the transport.

A service that only answers is a function from the device to frames; a service that may change the
device returns the new one beside them. Whether the transport accepts a frame, and the retries when
it does not, are left to the transport.
-/

set_option autoImplicit false

namespace KnxStack.Bau

open KnxStack.Application KnxStack.Lib.Octets KnxStack.Lib.Words KnxStack.Objects KnxStack.Protocol
open KnxStack.Transport (TDataFrame)

/-! ## Frames -/

/-- `ADataFrame`, and whether it came in on a connection (`_handlingConnectedRequest`). -/
structure ADataFrame where
  source : IndividualAddress
  destination : GroupAddress
  destinationType : AddressType
  service : APCIService
  data : List UInt8
  apciData : UInt8
  security : RequestSecurity
  connected : Bool

/-- The application frame of a transport frame. Service data are the octets after the header, with the
data bits of the header before them for some services. -/
def decodeTransportRx (frame : TDataFrame) : Option ADataFrame :=
  match frame.tpdu.data with
  | octet0 :: octet1 :: payload =>
      let apci := (unpackTpduHeader octet0 octet1).apci
      let service := serviceOf apci
      let data := ((if service.usesApciData6 then [data6Of apci] else []) ++ payload).take maxApduLength
      some
        { source := frame.source
          destination := frame.destination
          destinationType := frame.destinationType
          service := service
          -- a group value of up to six bits travels in the header
          data :=
            if (service = .groupValueWrite ∨ service = .groupValueResponse) ∧ data = [] then
              [data6Of apci]
            else data
          apciData := data6Of apci
          security := frame.security
          connected := frame.service == .connected }
  | _ => none

/-- The header and payload of a TPDU with the given service data (`buildTransportTxFrame`). -/
def encodeServiceData (service : APCIService) (data : List UInt8) : Option (APCIField × List UInt8) :=
  match service, data with
  | .groupValueRead, _ => some (createApci service 0, [])
  | .groupValueWrite, [] | .groupValueResponse, [] => none
  | .groupValueWrite, [octet] | .groupValueResponse, [octet] =>
      if octet ≤ 0x3F then some (createApci service octet, [])
      else some (createApci service 0, [octet])
  | .groupValueWrite, _ | .groupValueResponse, _ => some (createApci service 0, data)
  | _, _ =>
      if service.usesApciData6 then
        match data with
        | [] => none
        | octet :: tail => some (createApci service octet, tail)
      else some (createApci service 0, data)

/-- `buildTransportTxFrame`, with the priority of service responses. -/
def buildTransportTxFrame (ownAddress : IndividualAddress) (connected : Bool)
    (destination : GroupAddress) (service : APCIService) (data : List UInt8)
    (destinationType : AddressType) : Option TDataFrame :=
  match encodeServiceData service data with
  | none => none
  | some (apci, payload) =>
      if h : tpduLengthFromTpci (.create .unnumberedData 0) payload.length ≤ Datalink.maxFrameSize then
        some
          { service :=
              match destinationType with
              | .individual => if connected then .connected else .individual
              | .group => .group
            source := ownAddress
            destination := destination
            destinationType := destinationType
            priority := .system
            ackRequested := false
            tpdu := buildTpduInPlace (.create .unnumberedData 0) apci payload h }
      else none

namespace ManagedDevice

variable {σ : Type}

/-- A response to the sender of a request; a payload over `MAX_APDU_LENGTH` is dropped. -/
def sendToIndividual (d : ManagedDevice σ) (frame : ADataFrame) (service : APCIService)
    (payload : List UInt8) : List TDataFrame :=
  if maxApduLength < payload.length then []
  else
    (buildTransportTxFrame d.ownAddress frame.connected ⟨frame.source.raw⟩ service payload
      .individual).toList

/-- A response to everyone. -/
def sendBroadcast (d : ManagedDevice σ) (frame : ADataFrame) (service : APCIService)
    (payload : List UInt8) : List TDataFrame :=
  if maxApduLength < payload.length then []
  else (buildTransportTxFrame d.ownAddress frame.connected ⟨0⟩ service payload .group).toList

variable (backend : Backend σ)

/-! ## Device descriptors, addresses and network parameters -/

/-- `handleDeviceDescriptorRead`. -/
def handleDeviceDescriptorRead (d : ManagedDevice σ) (frame : ADataFrame) : List TDataFrame :=
  match frame.data.head? with
  | none => []
  | some descriptorType =>
      if descriptorType = 0 then
        d.sendToIndividual frame .deviceDescriptorResponse (descriptorType :: backend.descriptorType0)
      else if descriptorType = 2 then
        d.sendToIndividual frame .deviceDescriptorResponse (descriptorType :: backend.descriptorType2)
      else []

/-- `handleAdcRead`. -/
def handleAdcRead (d : ManagedDevice σ) (frame : ADataFrame) : List TDataFrame :=
  let channel := frame.apciData &&& 0x3F
  let readCount := frame.data.getD 1 0
  let sum := if readCount = 0 then none else backend.adcReadProvider d.others channel readCount
  d.sendToIndividual frame .adcResponse
    [channel, if sum.isSome then readCount else 0, highByte (sum.getD 0), lowByte (sum.getD 0)]

/-- `handleIndividualAddressRead`. -/
def handleIndividualAddressRead (d : ManagedDevice σ) (frame : ADataFrame) : List TDataFrame :=
  if d.programmingModeEnabled then
    d.sendBroadcast frame .individualAddressResponse
      [highByte d.ownAddress.raw, lowByte d.ownAddress.raw]
  else []

/-- `handleSystemNetworkParameterRead`: the scan for devices in programming mode. -/
def handleSystemNetworkParameterRead (d : ManagedDevice σ) (frame : ADataFrame) : List TDataFrame :=
  match frame.data with
  | octet0 :: octet1 :: octet2 :: octet3 :: testInfo =>
      let objectType := joinBytes octet0 octet1
      let propertyId := (octet2.toUInt16 <<< 4) ||| ((octet3 >>> 4) &&& 0x0F).toUInt16
      if objectType = 0 ∧ propertyId = 11 ∧ testInfo = [0x01]
          ∧ d.programmingModeEnabled then
        d.sendBroadcast frame .systemNetworkParameterResponse
          ([octet0, octet1, octet2, octet3, 0x01] ++ backend.serialNumber)
      else []
  | _ => []

/-- `handleIndividualAddressSerialNumberRead`. -/
def handleIndividualAddressSerialNumberRead (d : ManagedDevice σ) (frame : ADataFrame) :
    List TDataFrame :=
  if frame.data.length < 6 then []
  else if frame.data.take 6 ≠ backend.serialNumber then []
  else
    d.sendBroadcast frame .individualAddressSerialNumberResponse
      (backend.serialNumber ++ [highByte backend.domainAddress, lowByte backend.domainAddress, 0, 0])

/-- `kMaxNetworkParameterValueBytes`. -/
def maxNetworkParameterValueBytes : Nat := 16

/-- `decodeNetworkParameterPayload`. -/
def decodeNetworkParameterPayload (frame : ADataFrame) : Option (UInt16 × UInt8 × List UInt8) :=
  match frame.data with
  | octet0 :: octet1 :: propertyId :: value =>
      if maxNetworkParameterValueBytes < value.length then none
      else some (joinBytes octet0 octet1, propertyId, value)
  | _ => none

/-- `handleNetworkParameterRead`. -/
def handleNetworkParameterRead (d : ManagedDevice σ) (frame : ADataFrame) : List TDataFrame :=
  match decodeNetworkParameterPayload frame with
  | none => []
  | some (objectType, propertyId, value) =>
      match backend.networkParameterRead d.others objectType propertyId value with
      | none => []
      | some answer =>
          d.sendBroadcast frame .networkParameterResponse
            ([highByte objectType, lowByte objectType, propertyId] ++ answer)

/-- `handleNetworkParameterWrite`. -/
def handleNetworkParameterWrite (d : ManagedDevice σ) (frame : ADataFrame) : ManagedDevice σ :=
  match decodeNetworkParameterPayload frame with
  | none => d
  | some (objectType, propertyId, value) =>
      { d with others := backend.networkParameterWrite d.others objectType propertyId value }

/-- A new individual address: the application layer takes it and calls the Device Object, which may
refuse it. -/
def updateIndividualAddress (d : ManagedDevice σ) (address : IndividualAddress) : ManagedDevice σ :=
  let d := { d with ownAddress := address }
  match backend.writeIndividualAddress d.others address with
  | none => d
  | some others => d.deviceObjectCallbacks backend others

/-- `handleIndividualAddressWrite`. -/
def handleIndividualAddressWrite (d : ManagedDevice σ) (frame : ADataFrame) : ManagedDevice σ :=
  if !d.programmingModeEnabled then d
  else
    match frame.data with
    | high :: low :: _ => d.updateIndividualAddress backend ⟨joinBytes high low⟩
    | _ => d

/-- `handleIndividualAddressSerialNumberWrite`. -/
def handleIndividualAddressSerialNumberWrite (d : ManagedDevice σ) (frame : ADataFrame) :
    ManagedDevice σ :=
  match frame.data.drop 6 with
  | high :: low :: _ =>
      let address : IndividualAddress := ⟨joinBytes high low⟩
      if frame.data.take 6 ≠ backend.serialNumber then d
      else if !address.isValid then d
      else d.updateIndividualAddress backend address
  | _ => d

/-! ## Authorization and restart -/

/-- `handleAuthorizeRequest`. -/
def handleAuthorizeRequest (d : ManagedDevice σ) (frame : ADataFrame) :
    ManagedDevice σ × List TDataFrame :=
  if frame.data.length < 4 then (d, [])
  else
    let authorized := backend.authorize d.others frame.source (frame.data.take 4)
    ({ d with others := authorized.1 }, d.sendToIndividual frame .authorizeResponse [authorized.2])

/-- `handleRestart`: a master reset is answered before the device goes down. -/
def handleRestart (d : ManagedDevice σ) (frame : ADataFrame) : ManagedDevice σ × List TDataFrame :=
  if frame.apciData &&& 0x20 ≠ 0 then (d, [])
  else
    let masterReset := frame.apciData &&& 0x01 ≠ 0
    if masterReset ∧ frame.data.length < 2 then (d, [])
    else
      ({ d.flushPersistenceIfDirty backend with
        restarting := some (if masterReset then .masterReset else .basic) },
        if masterReset then d.sendToIndividual frame .restartResponse [0, 0, 0] else [])

/-! ## Memory -/

/-- The response callback of the memory service. -/
def sendMemoryResponse (d : ManagedDevice σ) (frame : ADataFrame) (count : UInt8) (address : UInt16)
    (data : Option (List UInt8)) : List TDataFrame :=
  match data with
  | none => []
  | some data =>
      d.sendToIndividual frame .memoryResponse
        ([count, highByte address, lowByte address] ++ data)

/-- `handleMemoryRead`. -/
def handleMemoryRead (d : ManagedDevice σ) (frame : ADataFrame) : List TDataFrame :=
  match frame.data with
  | count :: high :: low :: _ =>
      let address := joinBytes high low
      d.sendMemoryResponse frame count address (handleMemoryReadRequest d.memory count address)
  | _ => []

/-- `handleMemoryWrite`. -/
def handleMemoryWrite (d : ManagedDevice σ) (frame : ADataFrame) :
    ManagedDevice σ × List TDataFrame :=
  match frame.data with
  | count :: high :: low :: value =>
      let address := joinBytes high low
      let written := handleMemoryWriteRequest d.memory count address value
      ({ d with memory := written.1 }, d.sendMemoryResponse frame count address written.2)
  | _ => (d, [])

/-- The response callback of the extended memory services: the return code, the address of three
octets and the data. -/
def sendMemoryExtendedResponse (d : ManagedDevice σ) (frame : ADataFrame) (service : APCIService)
    (code : KnxReturnCode) (address : Nat) (data : List UInt8) : List TDataFrame :=
  d.sendToIndividual frame service (code.code :: toOctets 3 address ++ data)

/-- `handleMemoryExtendedRead`. -/
def handleMemoryExtendedRead (d : ManagedDevice σ) (frame : ADataFrame) : List TDataFrame :=
  match frame.data with
  | count :: octet0 :: octet1 :: octet2 :: _ =>
      let address := ofOctets [octet0, octet1, octet2]
      let answer := handleExtendedReadRequest d.memory count address
      d.sendMemoryExtendedResponse frame .memoryExtendedReadResponse answer.1 address answer.2
  | _ => []

/-- `handleMemoryExtendedWrite`. -/
def handleMemoryExtendedWrite (d : ManagedDevice σ) (frame : ADataFrame) :
    ManagedDevice σ × List TDataFrame :=
  match frame.data with
  | count :: octet0 :: octet1 :: octet2 :: value =>
      let address := ofOctets [octet0, octet1, octet2]
      let written := handleExtendedWriteRequest d.memory count address value
      ({ d with memory := written.1 },
        d.sendMemoryExtendedResponse frame .memoryExtendedWriteResponse written.2 address [])
  | _ => (d, [])

/-! ## Property services -/

/-- The access check of the property services: a request for an object that does not exist is left to
the service. -/
def accessCheck (d : ManagedDevice σ) (frame : ADataFrame) (objectIndex propertyId : UInt8)
    (write : Bool) : Bool :=
  match d.resolveObjectType objectIndex with
  | none => true
  | some objectType => isPropertyAccessPermitted objectType propertyId.toUInt16 write frame.security

/-- The octets after a property value header: object, property, count and start index. -/
structure PropertyValueRequest where
  objectIndex : UInt8
  propertyId : UInt8
  elementCount : UInt8
  startIndex : UInt16
  data : List UInt8

/-- The decoding in `handlePropertyValueRead` and `handlePropertyValueWrite`. -/
def PropertyValueRequest.decode (data : List UInt8) : Option PropertyValueRequest :=
  match data with
  | objectIndex :: propertyId :: octet2 :: octet3 :: value =>
      some
        { objectIndex := objectIndex
          propertyId := propertyId
          elementCount := (octet2 >>> 4) &&& 0x0F
          startIndex := joinBytes (octet2 &&& 0x0F) octet3
          data := value }
  | _ => none

/-- The value response callback. -/
def sendPropertyValueResponse (d : ManagedDevice σ) (frame : ADataFrame)
    (request : PropertyValueRequest) (elementCount : UInt8) (data : List UInt8) : List TDataFrame :=
  d.sendToIndividual frame .propertyValueResponse
    ([request.objectIndex, request.propertyId,
      ((elementCount &&& 0x0F) <<< 4) ||| (highByte request.startIndex &&& 0x0F),
      lowByte request.startIndex] ++ data)

/-- The read of the property store; live values come from the provider, and what the store holds
itself is empty. -/
def readStore (d : ManagedDevice σ) (objectIndex propertyId : UInt8) (startIndex elementCount : Nat) :
    Option (List UInt8) :=
  match d.resolveObjectType objectIndex with
  | none => none
  | some objectType =>
      match getDescriptor backend objectType propertyId with
      | none => none
      | some descriptor =>
          if maxApduLength < elementCount * descriptor.getElementSize then none
          else descriptor.readStored [] startIndex elementCount

/-- `PropertyServices::handleValueRead`. -/
def handleValueRead (d : ManagedDevice σ) (frame : ADataFrame) (request : PropertyValueRequest) :
    List TDataFrame :=
  let negativeResponse := d.sendPropertyValueResponse frame request 0 []
  if !d.accessCheck frame request.objectIndex request.propertyId false then negativeResponse
  else
    let responseElementCount := if request.startIndex = 0 then 1 else request.elementCount
    match d.readProvider backend request.objectIndex request.propertyId request.startIndex.toNat
        request.elementCount.toNat with
    | some data => d.sendPropertyValueResponse frame request responseElementCount data
    | none =>
        match d.readStore backend request.objectIndex request.propertyId request.startIndex.toNat
            request.elementCount.toNat with
        | some data => d.sendPropertyValueResponse frame request responseElementCount data
        | none => negativeResponse

/-- The confirmation of a write: the value is read back, and the request's is echoed where it cannot
be read. -/
def sendWriteConfirmation (d : ManagedDevice σ) (frame : ADataFrame)
    (request : PropertyValueRequest) : List TDataFrame :=
  let readBack :=
    (d.readProvider backend request.objectIndex request.propertyId request.startIndex.toNat
        request.elementCount.toNat).or
      (d.readStore backend request.objectIndex request.propertyId request.startIndex.toNat
        request.elementCount.toNat)
  d.sendPropertyValueResponse frame request request.elementCount (readBack.getD request.data)

/-- `PropertyServices::handleValueWrite`. -/
def handleValueWrite (d : ManagedDevice σ) (frame : ADataFrame) (request : PropertyValueRequest) :
    ManagedDevice σ × List TDataFrame :=
  if !d.accessCheck frame request.objectIndex request.propertyId true then
    (d, d.sendPropertyValueResponse frame request 0 [])
  else
    match d.writeProvider backend request.objectIndex request.propertyId request.startIndex.toNat
        request.data with
    | none => (d, d.sendPropertyValueResponse frame request 0 [])
    | some d' => (d', d'.sendWriteConfirmation backend frame request)

/-- `handlePropertyValueRead`. -/
def handlePropertyValueRead (d : ManagedDevice σ) (frame : ADataFrame) : List TDataFrame :=
  match PropertyValueRequest.decode frame.data with
  | none => []
  | some request => d.handleValueRead backend frame request

/-- `handlePropertyValueWrite`. -/
def handlePropertyValueWrite (d : ManagedDevice σ) (frame : ADataFrame) :
    ManagedDevice σ × List TDataFrame :=
  match PropertyValueRequest.decode frame.data with
  | none => (d, [])
  | some request => d.handleValueWrite backend frame request

/-- The description response callback. -/
def sendPropertyDescriptionResponse (d : ManagedDevice σ) (frame : ADataFrame)
    (objectIndex propertyIndex : UInt8) (description : PropertyDescription) : List TDataFrame :=
  d.sendToIndividual frame .propertyDescriptionResponse
    [objectIndex, description.propertyId, propertyIndex,
      description.type ||| (if description.writeAllowed then 0x80 else 0),
      highByte description.maxElements, lowByte description.maxElements,
      (description.readLevel <<< 4) ||| (description.writeLevel &&& 0x0F)]

/-- The description that a registered descriptor gives. -/
def descriptionOf (descriptor : PropertyDescriptor) : PropertyDescription :=
  { propertyId := descriptor.id
    type := descriptor.type
    maxElements := descriptor.maxElements
    writeAllowed := descriptor.access ≠ .readOnly
    readLevel := descriptor.readLevel
    writeLevel := descriptor.writeLevel }

/-- The answer for a property that does not exist. -/
def notFound (propertyId : UInt8) : PropertyDescription :=
  { propertyId := propertyId, type := 0, maxElements := 0, writeAllowed := false }

/-- The description from the property store, by identifier or by position. -/
def describeStored (objectType : UInt16) (propertyId propertyIndex : UInt8) : PropertyDescription :=
  if propertyIndex = 0 then
    ((getDescriptor backend objectType propertyId).map descriptionOf).getD (notFound propertyId)
  else
    (((propertyDescriptors backend objectType)[propertyIndex.toNat - 1]?).map descriptionOf).getD
      (notFound propertyId)

/-- `PropertyServices::handleDescriptionRead`. Only a request by identifier is checked. -/
def handlePropertyDescriptionRead (d : ManagedDevice σ) (frame : ADataFrame) : List TDataFrame :=
  match frame.data with
  | objectIndex :: propertyId :: propertyIndex :: _ =>
      if propertyId ≠ 0 ∧ d.accessCheck frame objectIndex propertyId false = false then
        d.sendPropertyDescriptionResponse frame objectIndex propertyIndex
          { propertyId := propertyId, type := 0x11, maxElements := 0, writeAllowed := false }
      else
        match d.resolveObjectType objectIndex with
        | none =>
            d.sendPropertyDescriptionResponse frame objectIndex propertyIndex (notFound propertyId)
        | some objectType =>
            d.sendPropertyDescriptionResponse frame objectIndex propertyIndex
              ((describeProperty backend objectType propertyId propertyIndex).getD
                (describeStored backend objectType propertyId propertyIndex))
  | _ => []

/-! ## Extended property services -/

/-- The octets after an extended header: count, start index and data. -/
structure PropertyExtValueRequest where
  header : PropertyExtHeader
  elementCount : UInt8
  startIndex : UInt16
  data : List UInt8

/-- The decoding in `handlePropertyExtValueRead` and `handlePropertyExtValueWrite`. -/
def PropertyExtValueRequest.decode (data : List UInt8) : Option PropertyExtValueRequest :=
  match data with
  | octet0 :: octet1 :: octet2 :: octet3 :: octet4 :: elementCount :: octet6 :: octet7 :: value =>
      some
        { header := .decode octet0 octet1 octet2 octet3 octet4
          elementCount := elementCount
          startIndex := joinBytes octet6 octet7
          data := value }
  | _ => none

/-- The value response callback of the extended services, up to what trails the header. -/
def sendPropertyExtValueResponse (d : ManagedDevice σ) (frame : ADataFrame) (service : APCIService)
    (request : PropertyExtValueRequest) (elementCount : UInt8) (trailer : List UInt8) :
    List TDataFrame :=
  d.sendToIndividual frame service
    (request.header.encode ++ [elementCount, highByte request.startIndex, lowByte request.startIndex]
      ++ trailer)

/-- `sendValueFailure`: no elements, and the code as the one trailing octet of either response. -/
def sendValueFailure (d : ManagedDevice σ) (frame : ADataFrame) (service : APCIService)
    (request : PropertyExtValueRequest) (code : KnxReturnCode) : List TDataFrame :=
  d.sendPropertyExtValueResponse frame service request 0 [code.code]

/-- The current number of elements: from the interface object, or else from the descriptor. -/
def currentElements (d : ManagedDevice σ) (objectIndex propertyId : UInt8)
    (descriptor : PropertyDescriptor) : List UInt8 :=
  match d.readProvider backend objectIndex propertyId 0 1 with
  | some [high, low] => [high, low]
  | _ => [highByte descriptor.maxElements, lowByte descriptor.maxElements]

/-- `PropertyExtServices::handleValueRead`, once object and property are found. -/
def readExtValue (d : ManagedDevice σ) (frame : ADataFrame) (request : PropertyExtValueRequest)
    (objectIndex : UInt8) (descriptor : PropertyDescriptor) : List TDataFrame :=
  let propertyId := request.header.narrowPropertyId
  if descriptor.access = .writeOnly then
    d.sendValueFailure frame .propertyExtValueResponse request .accessWriteOnly
  else if request.startIndex = 0 then
    d.sendPropertyExtValueResponse frame .propertyExtValueResponse request 1
      (d.currentElements backend objectIndex propertyId descriptor)
  else if request.elementCount = 0 then
    d.sendValueFailure frame .propertyExtValueResponse request .dataVoid
  else
    match d.readProvider backend objectIndex propertyId request.startIndex.toNat
        request.elementCount.toNat with
    | some data =>
        d.sendPropertyExtValueResponse frame .propertyExtValueResponse request request.elementCount
          data
    | none =>
        match d.readStore backend objectIndex propertyId request.startIndex.toNat
            request.elementCount.toNat with
        | some data =>
            d.sendPropertyExtValueResponse frame .propertyExtValueResponse request
              request.elementCount data
        | none => d.sendValueFailure frame .propertyExtValueResponse request .addressVoid

/-- `PropertyExtServices::handleValueRead`. -/
def handleExtValueRead (d : ManagedDevice σ) (frame : ADataFrame)
    (request : PropertyExtValueRequest) : List TDataFrame :=
  if !request.header.fieldsInRange then
    d.sendValueFailure frame .propertyExtValueResponse request .addressVoid
  else
    match d.resolveObject request.header.objectType request.header.objectInstance with
    | none => d.sendValueFailure frame .propertyExtValueResponse request .addressVoid
    | some objectIndex =>
        if !isPropertyAccessPermitted request.header.objectType request.header.propertyId false
            frame.security then
          d.sendValueFailure frame .propertyExtValueResponse request .accessDenied
        else
          match getDescriptor backend request.header.objectType request.header.narrowPropertyId with
          | none => d.sendValueFailure frame .propertyExtValueResponse request .addressVoid
          | some descriptor => d.readExtValue backend frame request objectIndex descriptor

/-- The checks of a write between the descriptor and the provider. -/
def extWriteRefusal (request : PropertyExtValueRequest) (descriptor : PropertyDescriptor) :
    Option KnxReturnCode :=
  if descriptor.access = .readOnly then some .accessReadOnly
  else if request.elementCount = 0 then some .dataVoid
  else if request.startIndex = 0 then
    if request.data.length ≠ 2 then some .dataVoid else none
  else if descriptor.getElementSize ≠ 0
      ∧ request.data.length < descriptor.getElementSize * request.elementCount.toNat then
    some .exceedsMaxApduLength
  else none

/-- `PropertyExtServices::handleValueWrite`: the device and the return code. -/
def writeExtValue (d : ManagedDevice σ) (frame : ADataFrame) (request : PropertyExtValueRequest) :
    ManagedDevice σ × KnxReturnCode :=
  if !request.header.fieldsInRange then (d, .addressVoid)
  else
    match d.resolveObject request.header.objectType request.header.objectInstance with
    | none => (d, .addressVoid)
    | some objectIndex =>
        if !isPropertyAccessPermitted request.header.objectType request.header.propertyId true
            frame.security then (d, .accessDenied)
        else
          match getDescriptor backend request.header.objectType request.header.narrowPropertyId with
          | none => (d, .addressVoid)
          | some descriptor =>
              match extWriteRefusal request descriptor with
              | some code => (d, code)
              | none =>
                  match d.writeProvider backend objectIndex request.header.narrowPropertyId
                      request.startIndex.toNat request.data with
                  | none => (d, .dataVoid)
                  | some d' => (d', .success)

/-- `PropertyExtServices::handleValueWrite`, with its confirmation. -/
def handleExtValueWrite (d : ManagedDevice σ) (frame : ADataFrame)
    (request : PropertyExtValueRequest) (confirmed : Bool) : ManagedDevice σ × List TDataFrame :=
  let written := d.writeExtValue backend frame request
  (written.1,
    if !confirmed then []
    else if written.2 = .success then
      d.sendPropertyExtValueResponse frame .propertyExtValueWriteConRes request request.elementCount
        [KnxReturnCode.success.code]
    else d.sendValueFailure frame .propertyExtValueWriteConRes request written.2)

/-- `handlePropertyExtValueRead`. -/
def handlePropertyExtValueRead (d : ManagedDevice σ) (frame : ADataFrame) : List TDataFrame :=
  match PropertyExtValueRequest.decode frame.data with
  | none => []
  | some request => d.handleExtValueRead backend frame request

/-- `handlePropertyExtValueWrite`. -/
def handlePropertyExtValueWrite (d : ManagedDevice σ) (frame : ADataFrame) (confirmed : Bool) :
    ManagedDevice σ × List TDataFrame :=
  match PropertyExtValueRequest.decode frame.data with
  | none => (d, [])
  | some request => d.handleExtValueWrite backend frame request confirmed

/-- What an extended description read finds; nothing where it is answered with zeros. A zero
identifier selects by position, counted from zero. -/
def describeExt (d : ManagedDevice σ) (frame : ADataFrame) (header : PropertyExtHeader)
    (descriptionType : UInt8) (propertyIndex : UInt16) : Option PropertyDescriptor :=
  if descriptionType ≠ 0 ∨ header.fieldsInRange = false then none
  else
    match d.resolveObject header.objectType header.objectInstance with
    | none => none
    | some _ =>
        if header.propertyId ≠ 0
            ∧ isPropertyAccessPermitted header.objectType header.propertyId false frame.security
              = false then none
        else if header.propertyId = 0 then
          (propertyDescriptors backend header.objectType)[propertyIndex.toNat]?
        else getDescriptor backend header.objectType header.narrowPropertyId

/-- `handlePropertyExtDescriptionRead`. -/
def handlePropertyExtDescriptionRead (d : ManagedDevice σ) (frame : ADataFrame) : List TDataFrame :=
  match frame.data with
  | octet0 :: octet1 :: octet2 :: octet3 :: octet4 :: octet5 :: octet6 :: _ =>
      let header := PropertyExtHeader.decode octet0 octet1 octet2 octet3 octet4
      let descriptionType := (octet5 >>> 4) &&& 0x0F
      let propertyIndex := joinBytes (octet5 &&& 0x0F) octet6
      let leading := [(descriptionType <<< 4) ||| (highByte propertyIndex &&& 0x0F),
        lowByte propertyIndex, 0, 0, 0, 0]
      match d.describeExt backend frame header descriptionType propertyIndex with
      | none =>
          d.sendToIndividual frame .propertyExtDescriptionResponse
            (header.encode ++ leading ++ [0, 0, 0, 0])
      | some descriptor =>
          let header :=
            if header.propertyId = 0 then { header with propertyId := descriptor.id.toUInt16 }
            else header
          d.sendToIndividual frame .propertyExtDescriptionResponse
            (header.encode ++ leading ++
              [(if descriptor.access ≠ .readOnly then 0x80 else 0) ||| (descriptor.type &&& 0x3F),
                highByte descriptor.maxElements, lowByte descriptor.maxElements,
                ((descriptor.readLevel &&& 0x0F) <<< 4) ||| (descriptor.writeLevel &&& 0x0F)])
  | _ => []

/-! ## Function property services -/

/-- `handleFunctionProperty`. A property that is no function property is answered without a return
code. -/
def handleFunctionPropertyService (d : ManagedDevice σ) (frame : ADataFrame)
    (invocation : Network.FunctionPropertyInvocation) : ManagedDevice σ × List TDataFrame :=
  match frame.data with
  | objectIndex :: propertyId :: input =>
      if maxFunctionPropertyDataBytes < input.length then (d, [])
      else
        match d.resolveObjectType objectIndex with
        | none => (d, d.sendToIndividual frame .functionPropertyStateResponse [objectIndex, propertyId])
        | some objectType =>
            let handled := d.handleFunctionProperty backend frame.source objectType
              ⟨propertyId, invocation, input, frame.security⟩
            (handled.1,
              handled.2.2 ++ d.sendToIndividual frame .functionPropertyStateResponse
                (match handled.2.1 with
                | none => [objectIndex, propertyId]
                | some result =>
                    [objectIndex, propertyId, result.returnCode.code] ++ result.data))
  | _ => (d, [])

/-- `handleFunctionPropertyExt`. -/
def handleFunctionPropertyExt (d : ManagedDevice σ) (frame : ADataFrame)
    (invocation : Network.FunctionPropertyInvocation) : ManagedDevice σ × List TDataFrame :=
  match frame.data with
  | octet0 :: octet1 :: octet2 :: octet3 :: octet4 :: input =>
      let header := PropertyExtHeader.decode octet0 octet1 octet2 octet3 octet4
      let respond := fun (code : KnxReturnCode) (data : List UInt8) =>
        d.sendToIndividual frame .functionPropertyExtStateResponse
          (header.encode ++ code.code :: data)
      if !header.fieldsInRange then (d, respond .addressVoid [])
      else
        match d.resolveObject header.objectType header.objectInstance with
        | none => (d, respond .addressVoid [])
        | some _ =>
            if maxFunctionPropertyDataBytes < input.length then
              (d, respond .exceedsMaxApduLength [])
            else
              let handled := d.handleFunctionProperty backend frame.source header.objectType
                ⟨header.narrowPropertyId, invocation, input, frame.security⟩
              (handled.1,
                handled.2.2 ++
                  match handled.2.1 with
                  | none => respond .dataTypeConflict []
                  | some result =>
                      respond (translateFunctionPropertyReturnCode result.returnCode) result.data)
  | _ => (d, [])

/-! ## Dispatch -/

/-- `forwardToUser`: group services go to the group objects. -/
def forwardToUser (d : ManagedDevice σ) (frame : ADataFrame) : ManagedDevice σ :=
  { d with
    others := backend.handleApplicationFrame d.others frame.destination.raw frame.service frame.data
      frame.destinationType }

/-- `isRequestPermitted`; a request that is refused is dropped without an answer. -/
def isRequestPermitted (d : ManagedDevice σ) (frame : ADataFrame) : Bool :=
  managementWritePermitted frame.service d.security.isSecurityEnabled frame.security

/-- `dispatchService`. -/
def dispatchService (d : ManagedDevice σ) (frame : ADataFrame) : ManagedDevice σ × List TDataFrame :=
  match frame.service with
  | .deviceDescriptorRead => (d, d.handleDeviceDescriptorRead backend frame)
  | .propertyValueRead => (d, d.handlePropertyValueRead backend frame)
  | .propertyValueWrite => d.handlePropertyValueWrite backend frame
  | .propertyDescriptionRead => (d, d.handlePropertyDescriptionRead backend frame)
  | .propertyExtValueRead => (d, d.handlePropertyExtValueRead backend frame)
  | .propertyExtValueWriteCon => d.handlePropertyExtValueWrite backend frame true
  | .propertyExtValueWriteUnCon => d.handlePropertyExtValueWrite backend frame false
  | .propertyExtDescriptionRead => (d, d.handlePropertyExtDescriptionRead backend frame)
  | .functionPropertyExtCommand => d.handleFunctionPropertyExt backend frame .command
  | .functionPropertyExtStateRead => d.handleFunctionPropertyExt backend frame .stateRead
  | .memoryExtendedRead => (d, d.handleMemoryExtendedRead frame)
  | .memoryExtendedWrite => d.handleMemoryExtendedWrite frame
  | .memoryRead => (d, d.handleMemoryRead frame)
  | .memoryWrite => d.handleMemoryWrite frame
  | .authorizeRequest => d.handleAuthorizeRequest backend frame
  | .restart => d.handleRestart backend frame
  | .adcRead => (d, d.handleAdcRead backend frame)
  | .individualAddressRead => (d, d.handleIndividualAddressRead frame)
  | .systemNetworkParameterRead => (d, d.handleSystemNetworkParameterRead backend frame)
  | .individualAddressWrite => (d.handleIndividualAddressWrite backend frame, [])
  | .functionPropertyCommand => d.handleFunctionPropertyService backend frame .command
  | .functionPropertyStateRead => d.handleFunctionPropertyService backend frame .stateRead
  | .individualAddressSerialNumberRead =>
      (d, d.handleIndividualAddressSerialNumberRead backend frame)
  | .individualAddressSerialNumberWrite =>
      (d.handleIndividualAddressSerialNumberWrite backend frame, [])
  | .networkParameterRead => (d, d.handleNetworkParameterRead backend frame)
  | .networkParameterWrite => (d.handleNetworkParameterWrite backend frame, [])
  | _ => (d.forwardToUser backend frame, [])

/-- `handleTransportRx`. -/
def handleTransportRx (d : ManagedDevice σ) (frame : TDataFrame) :
    ManagedDevice σ × List TDataFrame :=
  match decodeTransportRx frame with
  | none => (d, [])
  | some aFrame =>
      if d.isRequestPermitted aFrame then d.dispatchService backend aFrame else (d, [])

end ManagedDevice

end KnxStack.Bau
