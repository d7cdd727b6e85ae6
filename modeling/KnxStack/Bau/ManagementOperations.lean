import KnxStack.Bau.ManagementServices

/-!
# Management operations

What the management services do to a device, apart from their answers: each inbound frame asks for one
`Operation`, and `ManagedDevice.apply` carries it out. `handleTransportRx_fst` says that this is all
that a frame does, so what operations keep, frames keep.
-/

set_option autoImplicit false

namespace KnxStack.Bau

open KnxStack.Application KnxStack.Lib.Octets KnxStack.Lib.Words KnxStack.Objects KnxStack.Protocol
open KnxStack.Transport (TDataFrame)

/-- What a frame can ask of a device. -/
inductive Operation where
  /-- The frame is refused, malformed, or only answered. -/
  | nothing
  /-- A call of the property write provider. -/
  | writeProperty (objectIndex propertyId : UInt8) (startIndex : Nat) (value : List UInt8)
  /-- A call of the function property handler of an object type. -/
  | functionProperty (source : IndividualAddress) (objectType : UInt16)
      (request : FunctionPropertyRequest)
  /-- A write to the memory segments. -/
  | writeMemory (address : UInt16) (data : List UInt8)
  /-- A new individual address. -/
  | assignAddress (address : IndividualAddress)
  | restart (type : RestartType)
  /-- An authorization, a network parameter or a group service. -/
  | runtime (frame : ADataFrame)

namespace ManagedDevice

variable {σ : Type} (backend : Backend σ)

/-- The part of a device that authorization, network parameters and group services reach. -/
def serveRuntime (d : ManagedDevice σ) (frame : ADataFrame) : ManagedDevice σ :=
  match frame.service with
  | .authorizeRequest => (d.handleAuthorizeRequest backend frame).1
  | .networkParameterWrite => d.handleNetworkParameterWrite backend frame
  | _ => d.forwardToUser backend frame

/-- Carry out an operation; what is refused changes nothing. -/
def apply (d : ManagedDevice σ) : Operation → ManagedDevice σ
  | .nothing => d
  | .writeProperty objectIndex propertyId startIndex value =>
      (d.writeProvider backend objectIndex propertyId startIndex value).getD d
  | .functionProperty source objectType request =>
      (d.handleFunctionProperty backend source objectType request).1
  | .writeMemory address data => { d with memory := (writeMemory address data d.memory).getD d.memory }
  | .assignAddress address => d.updateIndividualAddress backend address
  | .restart type => { d.flushPersistenceIfDirty backend with restarting := some type }
  | .runtime frame => d.serveRuntime backend frame

/-! ## The operation of a frame -/

/-- A_PropertyValue_Write. -/
def propertyValueWriteOperation (d : ManagedDevice σ) (frame : ADataFrame) : Operation :=
  match PropertyValueRequest.decode frame.data with
  | none => .nothing
  | some request =>
      if d.accessCheck frame request.objectIndex request.propertyId true then
        .writeProperty request.objectIndex request.propertyId request.startIndex.toNat request.data
      else .nothing

/-- A_PropertyExtValue_WriteCon and A_PropertyExtValue_WriteUnCon. -/
def propertyExtValueWriteOperation (d : ManagedDevice σ) (frame : ADataFrame) : Operation :=
  match PropertyExtValueRequest.decode frame.data with
  | none => .nothing
  | some request =>
      if !request.header.fieldsInRange then .nothing
      else
        match d.resolveObject request.header.objectType request.header.objectInstance with
        | none => .nothing
        | some objectIndex =>
            if !isPropertyAccessPermitted request.header.objectType request.header.propertyId true
                frame.security then .nothing
            else
              match getDescriptor backend request.header.objectType
                  request.header.narrowPropertyId with
              | none => .nothing
              | some descriptor =>
                  if (extWriteRefusal request descriptor).isSome then .nothing
                  else
                    .writeProperty objectIndex request.header.narrowPropertyId
                      request.startIndex.toNat request.data

/-- A_FunctionProperty_Command and A_FunctionPropertyState_Read. -/
def functionPropertyOperation (d : ManagedDevice σ) (frame : ADataFrame)
    (invocation : Network.FunctionPropertyInvocation) : Operation :=
  match frame.data with
  | objectIndex :: propertyId :: input =>
      if maxFunctionPropertyDataBytes < input.length then .nothing
      else
        match d.resolveObjectType objectIndex with
        | none => .nothing
        | some objectType =>
            .functionProperty frame.source objectType ⟨propertyId, invocation, input, frame.security⟩
  | _ => .nothing

/-- A_FunctionPropertyExtCommand and A_FunctionPropertyExtState_Read. -/
def functionPropertyExtOperation (d : ManagedDevice σ) (frame : ADataFrame)
    (invocation : Network.FunctionPropertyInvocation) : Operation :=
  match frame.data with
  | octet0 :: octet1 :: octet2 :: octet3 :: octet4 :: input =>
      let header := PropertyExtHeader.decode octet0 octet1 octet2 octet3 octet4
      if !header.fieldsInRange then .nothing
      else if (d.resolveObject header.objectType header.objectInstance).isNone then .nothing
      else if maxFunctionPropertyDataBytes < input.length then .nothing
      else
        .functionProperty frame.source header.objectType
          ⟨header.narrowPropertyId, invocation, input, frame.security⟩
  | _ => .nothing

/-- A_Memory_Write. -/
def memoryWriteOperation (d : ManagedDevice σ) (frame : ADataFrame) : Operation :=
  match frame.data with
  | count :: high :: low :: value =>
      let address := joinBytes high low
      if validateAccess d.memory address count .write maxMemoryBytes = .success
          ∧ value.length = count.toNat then
        .writeMemory address value
      else .nothing
  | _ => .nothing

/-- A_MemoryExtended_Write. -/
def memoryExtendedWriteOperation (d : ManagedDevice σ) (frame : ADataFrame) : Operation :=
  match frame.data with
  | count :: octet0 :: octet1 :: octet2 :: value =>
      let address := ofOctets [octet0, octet1, octet2]
      if checkExtendedAccess d.memory address count .write = .success
          ∧ count.toNat ≤ value.length then
        .writeMemory (UInt16.ofNat address) (value.take count.toNat)
      else .nothing
  | _ => .nothing

/-- A_IndividualAddress_Write: in programming mode. -/
def individualAddressWriteOperation (d : ManagedDevice σ) (frame : ADataFrame) : Operation :=
  match frame.data with
  | high :: low :: _ =>
      if d.programmingModeEnabled then .assignAddress ⟨joinBytes high low⟩ else .nothing
  | _ => .nothing

/-- A_IndividualAddressSerialNumber_Write: to the own serial number. -/
def serialNumberWriteOperation (frame : ADataFrame) : Operation :=
  match frame.data.drop 6 with
  | high :: low :: _ =>
      let address : IndividualAddress := ⟨joinBytes high low⟩
      if frame.data.take 6 = backend.serialNumber ∧ address.isValid then .assignAddress address
      else .nothing
  | _ => .nothing

/-- A_Restart. -/
def restartOperation (frame : ADataFrame) : Operation :=
  if frame.apciData &&& 0x20 ≠ 0 then .nothing
  else
    let masterReset := frame.apciData &&& 0x01 ≠ 0
    if masterReset ∧ frame.data.length < 2 then .nothing
    else .restart (if masterReset then .masterReset else .basic)

/-- What a service asks for. -/
def serviceOperation (d : ManagedDevice σ) (frame : ADataFrame) : Operation :=
  match frame.service with
  | .propertyValueWrite => d.propertyValueWriteOperation frame
  | .propertyExtValueWriteCon | .propertyExtValueWriteUnCon =>
      d.propertyExtValueWriteOperation backend frame
  | .functionPropertyCommand => d.functionPropertyOperation frame .command
  | .functionPropertyStateRead => d.functionPropertyOperation frame .stateRead
  | .functionPropertyExtCommand => d.functionPropertyExtOperation frame .command
  | .functionPropertyExtStateRead => d.functionPropertyExtOperation frame .stateRead
  | .memoryWrite => d.memoryWriteOperation frame
  | .memoryExtendedWrite => d.memoryExtendedWriteOperation frame
  | .individualAddressWrite => d.individualAddressWriteOperation frame
  | .individualAddressSerialNumberWrite => serialNumberWriteOperation backend frame
  | .restart => restartOperation frame
  | .deviceDescriptorRead | .propertyValueRead | .propertyDescriptionRead | .propertyExtValueRead
  | .propertyExtDescriptionRead | .memoryExtendedRead | .memoryRead | .adcRead
  | .individualAddressRead | .systemNetworkParameterRead | .individualAddressSerialNumberRead
  | .networkParameterRead => .nothing
  | _ => .runtime frame

/-- What a frame asks for. -/
def operationOf (d : ManagedDevice σ) (frame : TDataFrame) : Operation :=
  match decodeTransportRx frame with
  | none => .nothing
  | some aFrame =>
      if d.isRequestPermitted aFrame then d.serviceOperation backend aFrame else .nothing

/-! ## A frame does what its operation does -/

section Frames

variable (d : ManagedDevice σ) (frame : ADataFrame)

theorem handlePropertyValueWrite_fst :
    (d.handlePropertyValueWrite backend frame).1
      = d.apply backend (d.propertyValueWriteOperation frame) := by
  rw [handlePropertyValueWrite, propertyValueWriteOperation]
  cases PropertyValueRequest.decode frame.data with
  | none => rfl
  | some request =>
    dsimp only
    rw [handleValueWrite]
    cases d.accessCheck frame request.objectIndex request.propertyId true with
    | false => rfl
    | true =>
      cases hwritten : d.writeProvider backend request.objectIndex request.propertyId
          request.startIndex.toNat request.data with
      | none =>
        simp only [Bool.not_true, Bool.false_eq_true, if_false, if_true, apply, hwritten,
          Option.getD_none]
      | some d' =>
        simp only [Bool.not_true, Bool.false_eq_true, if_false, if_true, apply, hwritten,
          Option.getD_some]

theorem writeExtValue_fst {request : PropertyExtValueRequest}
    (hdecode : PropertyExtValueRequest.decode frame.data = some request) :
    (d.writeExtValue backend frame request).1
      = d.apply backend (d.propertyExtValueWriteOperation backend frame) := by
  rw [propertyExtValueWriteOperation, hdecode]
  dsimp only
  rw [writeExtValue]
  split
  · rfl
  · cases d.resolveObject request.header.objectType request.header.objectInstance with
    | none => rfl
    | some objectIndex =>
      dsimp only
      split
      · rfl
      · cases getDescriptor backend request.header.objectType request.header.narrowPropertyId with
        | none => rfl
        | some descriptor =>
          dsimp only
          cases extWriteRefusal request descriptor with
          | some code => rfl
          | none =>
            cases hwritten : d.writeProvider backend objectIndex request.header.narrowPropertyId
                request.startIndex.toNat request.data with
            | none => simp [apply, hwritten]
            | some d' => simp [apply, hwritten]

theorem handlePropertyExtValueWrite_fst (confirmed : Bool) :
    (d.handlePropertyExtValueWrite backend frame confirmed).1
      = d.apply backend (d.propertyExtValueWriteOperation backend frame) := by
  rw [handlePropertyExtValueWrite]
  cases hdecode : PropertyExtValueRequest.decode frame.data with
  | none =>
    rw [propertyExtValueWriteOperation, hdecode]
    rfl
  | some request => exact writeExtValue_fst backend d frame hdecode

theorem handleFunctionPropertyService_fst (invocation : Network.FunctionPropertyInvocation) :
    (d.handleFunctionPropertyService backend frame invocation).1
      = d.apply backend (d.functionPropertyOperation frame invocation) := by
  rw [handleFunctionPropertyService, functionPropertyOperation]
  rcases frame.data with _ | ⟨objectIndex, _ | ⟨propertyId, input⟩⟩
  · rfl
  · rfl
  · dsimp only
    split
    · rfl
    · cases d.resolveObjectType objectIndex with
      | none => rfl
      | some objectType => rfl

theorem handleFunctionPropertyExt_fst (invocation : Network.FunctionPropertyInvocation) :
    (d.handleFunctionPropertyExt backend frame invocation).1
      = d.apply backend (d.functionPropertyExtOperation frame invocation) := by
  rw [handleFunctionPropertyExt, functionPropertyExtOperation]
  rcases frame.data with _ | ⟨octet0, _ | ⟨octet1, _ | ⟨octet2, _ | ⟨octet3, _ | ⟨octet4, input⟩⟩⟩⟩⟩
  case cons.cons.cons.cons.cons =>
    dsimp only
    split
    · rfl
    · cases d.resolveObject (PropertyExtHeader.decode octet0 octet1 octet2 octet3 octet4).objectType
          (PropertyExtHeader.decode octet0 octet1 octet2 octet3 octet4).objectInstance with
      | none => rfl
      | some objectIndex =>
        simp only [Option.isNone_some, Bool.false_eq_true, if_false]
        split <;> rfl
  all_goals rfl

theorem handleMemoryWrite_fst :
    (d.handleMemoryWrite frame).1 = d.apply backend (d.memoryWriteOperation frame) := by
  rw [handleMemoryWrite, memoryWriteOperation]
  rcases frame.data with _ | ⟨count, _ | ⟨high, _ | ⟨low, value⟩⟩⟩
  case cons.cons.cons =>
    dsimp only
    rw [handleMemoryWriteRequest]
    by_cases hvalid : validateAccess d.memory (joinBytes high low) count .write maxMemoryBytes
        = .success
    · by_cases hlength : value.length = count.toNat
      · rw [if_neg (not_not.mpr hvalid), if_neg (not_not.mpr hlength), if_pos ⟨hvalid, hlength⟩]
        cases hwritten : writeMemory (joinBytes high low) value d.memory with
        | none => simp [apply, hwritten]
        | some memory => simp [apply, hwritten]
      · rw [if_neg (not_not.mpr hvalid), if_pos hlength, if_neg (fun h => hlength h.2)]
        rfl
    · rw [if_pos hvalid, if_neg (fun h => hvalid h.1)]
      rfl
  all_goals rfl

theorem handleMemoryExtendedWrite_fst :
    (d.handleMemoryExtendedWrite frame).1
      = d.apply backend (d.memoryExtendedWriteOperation frame) := by
  rw [handleMemoryExtendedWrite, memoryExtendedWriteOperation]
  rcases frame.data with _ | ⟨count, _ | ⟨octet0, _ | ⟨octet1, _ | ⟨octet2, value⟩⟩⟩⟩
  case cons.cons.cons.cons =>
    dsimp only
    rw [handleExtendedWriteRequest]
    by_cases hvalid : checkExtendedAccess d.memory (ofOctets [octet0, octet1, octet2]) count .write
        = .success
    · by_cases hlength : count.toNat ≤ value.length
      · simp only [hvalid, if_neg (Nat.not_lt.mpr hlength), hlength, and_self, if_true]
        cases hwritten : writeMemory (UInt16.ofNat (ofOctets [octet0, octet1, octet2]))
            (value.take count.toNat) d.memory with
        | none => simp [apply, hwritten]
        | some memory => simp [apply, hwritten]
      · simp only [hvalid, if_pos (Nat.lt_of_not_le hlength), hlength, and_false, if_false]
        rfl
    · simp only [hvalid, false_and, if_false]
      rfl
  all_goals rfl

theorem handleIndividualAddressWrite_eq :
    d.handleIndividualAddressWrite backend frame
      = d.apply backend (d.individualAddressWriteOperation frame) := by
  rw [handleIndividualAddressWrite, individualAddressWriteOperation]
  rcases frame.data with _ | ⟨high, _ | ⟨low, rest⟩⟩
  all_goals cases d.programmingModeEnabled <;> rfl

theorem handleIndividualAddressSerialNumberWrite_eq :
    d.handleIndividualAddressSerialNumberWrite backend frame
      = d.apply backend (serialNumberWriteOperation backend frame) := by
  rw [handleIndividualAddressSerialNumberWrite, serialNumberWriteOperation]
  rcases frame.data.drop 6 with _ | ⟨high, _ | ⟨low, rest⟩⟩
  · rfl
  · rfl
  · dsimp only
    by_cases hserial : frame.data.take 6 = backend.serialNumber
    · rw [if_neg (not_not.mpr hserial)]
      cases IndividualAddress.isValid ⟨joinBytes high low⟩ with
      | false =>
        simp only [Bool.not_false, if_true, Bool.false_eq_true, and_false, if_false]
        rfl
      | true =>
        simp only [Bool.not_true, Bool.false_eq_true, if_false, hserial, and_self, if_true]
        rfl
    · rw [if_pos hserial, if_neg (fun h => hserial h.1)]
      rfl

theorem handleRestart_fst :
    (d.handleRestart backend frame).1 = d.apply backend (restartOperation frame) := by
  rw [handleRestart, restartOperation]
  split
  · rfl
  · dsimp only
    split <;> rfl

theorem dispatchService_fst :
    (d.dispatchService backend frame).1 = d.apply backend (d.serviceOperation backend frame) := by
  have hruntime : d.apply backend (.runtime frame) = d.serveRuntime backend frame := rfl
  rw [dispatchService, serviceOperation]
  cases hservice : frame.service
  case propertyValueWrite => exact handlePropertyValueWrite_fst backend d frame
  case propertyExtValueWriteCon => exact handlePropertyExtValueWrite_fst backend d frame true
  case propertyExtValueWriteUnCon => exact handlePropertyExtValueWrite_fst backend d frame false
  case functionPropertyCommand => exact handleFunctionPropertyService_fst backend d frame .command
  case functionPropertyStateRead =>
    exact handleFunctionPropertyService_fst backend d frame .stateRead
  case functionPropertyExtCommand => exact handleFunctionPropertyExt_fst backend d frame .command
  case functionPropertyExtStateRead =>
    exact handleFunctionPropertyExt_fst backend d frame .stateRead
  case memoryWrite => exact handleMemoryWrite_fst backend d frame
  case memoryExtendedWrite => exact handleMemoryExtendedWrite_fst backend d frame
  case individualAddressWrite => exact handleIndividualAddressWrite_eq backend d frame
  case individualAddressSerialNumberWrite =>
    exact handleIndividualAddressSerialNumberWrite_eq backend d frame
  case restart => exact handleRestart_fst backend d frame
  case deviceDescriptorRead | propertyValueRead | propertyDescriptionRead | propertyExtValueRead
      | propertyExtDescriptionRead | memoryExtendedRead | memoryRead | adcRead
      | individualAddressRead | systemNetworkParameterRead | individualAddressSerialNumberRead
      | networkParameterRead => rfl
  all_goals
    rw [hruntime, serveRuntime, hservice]

theorem handleTransportRx_fst (frame : TDataFrame) :
    (d.handleTransportRx backend frame).1 = d.apply backend (d.operationOf backend frame) := by
  rw [handleTransportRx, operationOf]
  cases decodeTransportRx frame with
  | none => rfl
  | some aFrame =>
    dsimp only
    split
    · exact dispatchService_fst backend d aFrame
    · rfl

end Frames

end ManagedDevice

end KnxStack.Bau
