import KnxStack.Netip.DecoderSafety
import KnxStack.Lib.Runs

/-!
# Device management over KNXnet/IP

The client that reads and writes the properties of a remote device
(`netip/device_management_codec.cpp`, `netip/device_management.cpp`), the runner of plans of such
operations (`device_management_session.hpp`) and the procedure that gives a device its individual
address (`device_management_procedures.hpp`).

What the network and the clock answer in one call is its `Env`: the time, the header of the bound
session, the fate of a frame handed to the socket, and the datagram that waits. A run is a list of
calls with their environments, so every sequence of confirmations a server may send is one.

- `confirmed_iff`: an operation that ends in success was answered about the property asked for
  exactly when the datagram taken as its confirmation names that property.
- `read_back_iff`: the same for the address and the programming mode read back at the end of
  `commissionIndividualAddress`.
-/

set_option autoImplicit false

namespace KnxStack.Netip.DeviceManagement

open KnxStack.Lib KnxStack.Lib.Octets KnxStack.Lib.Words

/-! ## Messages -/

/-- `kConnectionHeaderLength`. -/
def connectionHeaderLength : UInt8 := 0x04

/-- `kPropertyReadRequestCode`. -/
def propertyReadRequestCode : UInt8 := 0xFC

/-- `kPropertyWriteRequestCode`. -/
def propertyWriteRequestCode : UInt8 := 0xF6

/-- `ConnectionHeader`. A channel of zero is no channel. -/
structure ConnectionHeader where
  channelId : UInt8 := 0
  sequenceCounter : UInt8 := 0
  deriving DecidableEq, Repr

/-- `PropertyAccessTarget`. -/
structure PropertyAccessTarget where
  objectType : UInt16 := 0
  objectInstance : UInt8 := 1
  propertyId : UInt8 := 1
  elementCount : UInt8 := 1
  startIndex : UInt16 := 1
  deriving DecidableEq, Repr

/-- `PropertyReadConfirmationView`. -/
structure PropertyReadConfirmationView where
  connection : ConnectionHeader := {}
  target : PropertyAccessTarget := {}
  data : List UInt8 := []
  deriving DecidableEq, Repr

/-- `PropertyWriteConfirmation`. -/
structure PropertyWriteConfirmation where
  connection : ConnectionHeader := {}
  target : PropertyAccessTarget := {}
  deriving DecidableEq, Repr

/-- `validateTarget`. -/
def validateTarget (target : PropertyAccessTarget) : Result Unit :=
  if target.elementCount = 0 ∨ 0x0F < target.elementCount then .error .invalidParameter
  else if 0x0FFF < target.startIndex then .error .invalidParameter
  else .ok ()

/-- `encodeHeader` followed by `encodePropertyFields`: the eleven octets before the data. -/
def encodeProperty (connection : ConnectionHeader) (messageCode : UInt8)
    (target : PropertyAccessTarget) : Result (List UInt8) :=
  match validateTarget target with
  | .error e => .error e
  | .ok () => .ok
      [connectionHeaderLength, connection.channelId, connection.sequenceCounter, 0x00, messageCode,
        highByte target.objectType, lowByte target.objectType, target.objectInstance,
        target.propertyId,
        (target.elementCount <<< 4) ||| (highByte target.startIndex &&& 0x0F),
        lowByte target.startIndex]

/-- `encodePropertyReadRequest` into a buffer of `capacity` octets. -/
def encodePropertyReadRequest (capacity : Nat) (connection : ConnectionHeader)
    (target : PropertyAccessTarget) : Result (List UInt8) :=
  if capacity < 11 then .error .bufferTooSmall
  else encodeProperty connection propertyReadRequestCode target

/-- `encodePropertyWriteRequest` into a buffer of `capacity` octets. -/
def encodePropertyWriteRequest (capacity : Nat) (connection : ConnectionHeader)
    (target : PropertyAccessTarget) (data : List UInt8) : Result (List UInt8) :=
  if capacity < 11 + data.length then .error .bufferTooSmall
  else (encodeProperty connection propertyWriteRequestCode target).map (· ++ data)

/-- `connection` of a decoded confirmation. -/
def PropertyConfirmation.connection (c : PropertyConfirmation) : ConnectionHeader :=
  ⟨c.channelId, c.sequenceCounter⟩

/-- `target` of a decoded confirmation. -/
def PropertyConfirmation.target (c : PropertyConfirmation) : PropertyAccessTarget :=
  ⟨c.objectType, c.objectInstance, c.propertyId, c.elementCount, UInt16.ofNat c.startIndex⟩

/-- What a decoder returns. The decoders read inside their input (`confirmation_safe`). -/
def decoded {α : Type} : Checked ErrorCode α → Result α
  | .done value => .ok value
  | .fail error => .error error
  | .outOfBounds _ => .error .unknownError

/-- The view that `decodePropertyReadConfirmation` returns. -/
def readConfirmation (payload : List UInt8) : Result PropertyReadConfirmationView :=
  (decoded (decodePropertyReadConfirmation payload)).map fun c =>
    ⟨c.1.connection, c.1.target, c.2⟩

/-- The confirmation that `decodePropertyWriteConfirmation` returns. -/
def writeConfirmation (payload : List UInt8) : Result PropertyWriteConfirmation :=
  (decoded (decodePropertyWriteConfirmation payload)).map fun c => ⟨c.connection, c.target⟩

/-- Header, target and further octets of a confirmation with the message code. -/
def decodeConfirmation (messageCode : UInt8) (payload : List UInt8) :
    Result (ConnectionHeader × PropertyAccessTarget × List UInt8) :=
  (decoded (decodeCommon payload messageCode)).map fun c => (c.connection, c.target, payload.drop 11)

theorem readConfirmation_eq (payload : List UInt8) :
    readConfirmation payload
      = (decodeConfirmation propertyReadConfirmationCode payload).map fun c => ⟨c.1, c.2.1, c.2.2⟩ := by
  unfold readConfirmation decodeConfirmation decodePropertyReadConfirmation
  rcases decodeCommon_cases payload propertyReadConfirmationCode with
    ⟨e, he⟩ | ⟨common, hdone, hlong, -⟩
  · rw [he]
    rfl
  · have hcovered : 11 + (payload.length - 11) ≤ payload.length := by omega
    have hall : (payload.drop 11).take (payload.length - 11) = payload.drop 11 := by
      rw [← List.length_drop]
      exact List.take_length
    rw [hdone, Checked.done_bind, readSpan, if_pos hcovered, hall]
    rfl

theorem writeConfirmation_eq (payload : List UInt8) :
    writeConfirmation payload
      = (decodeConfirmation propertyWriteConfirmationCode payload).map fun c => ⟨c.1, c.2.1⟩ := by
  unfold writeConfirmation decodeConfirmation decodePropertyWriteConfirmation
  cases decodeCommon payload propertyWriteConfirmationCode with
  | done common => rfl
  | fail e => rfl
  | outOfBounds i => rfl

/-! ## The client -/

/-- Address and port of a peer. -/
structure Endpoint where
  addr : UInt32
  port : UInt16
  deriving DecidableEq, Repr

/-- A datagram and where it comes from. -/
structure Datagram where
  source : Endpoint
  octets : List UInt8
  deriving DecidableEq, Repr

/-- What surrounds one call: the clock, the bound session, the socket. A secure client hands out
the datagrams its channel has decrypted, and the errors of that channel. -/
structure Env where
  nowMs : UInt32
  acquireHeader : Result ConnectionHeader
  send : List UInt8 → Result Unit
  waiting : Option (Result Datagram)

/-- `DeviceManagementClient::OperationType`. -/
inductive OperationType where
  | none
  | configurationExchange
  | propertyRead
  | propertyWrite
  deriving DecidableEq, Repr

/-- `DeviceManagementClient::Operation`. Of the response buffer the client uses the size. -/
structure Operation where
  active : Bool := false
  kind : OperationType := .none
  startTimeMs : UInt32 := 0
  timeoutMs : Int := 0
  requestConnection : ConnectionHeader := {}
  responseSize : Nat := 0
  deriving DecidableEq, Repr

/-- `DeviceManagementClient`. -/
structure Client where
  isOpen : Bool
  remote : Endpoint
  isSessionBound : Bool
  connection : ConnectionHeader
  bufferSize : Nat
  operation : Operation := {}
  deriving DecidableEq, Repr

namespace Client

/-- `kDeviceConfigurationRequestService`. -/
def deviceConfigurationRequestService : UInt16 := 0x0310

/-- `kDeviceConfigurationAckService`. -/
def deviceConfigurationAckService : UInt16 := 0x0311

/-- `cancelOperation`. -/
def cancelOperation (c : Client) : Client := { c with operation := {} }

/-- `setConnection`. -/
def setConnection (c : Client) (channelId nextSequenceCounter : UInt8) : Client :=
  { c.cancelOperation with connection := ⟨channelId, nextSequenceCounter⟩ }

/-- `makeRequestConnectionHeader`. -/
def makeRequestConnectionHeader (c : Client) (e : Env) : Result ConnectionHeader :=
  if c.isSessionBound then e.acquireHeader
  else if c.connection.channelId = 0 then .error .notInitialized
  else .ok c.connection

/-- `advanceSequenceCounter`, as the polls call it. -/
def advanceSequenceCounter (c : Client) : Client :=
  if c.isSessionBound then c
  else { c with connection.sequenceCounter := c.connection.sequenceCounter + 1 }

/-- `sendConfigurationRequest`. -/
def sendConfigurationRequest (c : Client) (e : Env) (requestPayload : List UInt8) : Result Unit :=
  if c.isOpen = false then .error .notInitialized
  else if 65535 - headerLen < requestPayload.length then .error .invalidFrameSize
  else e.send (encodeHeader deviceConfigurationRequestService requestPayload.length
    ++ requestPayload)

/-- `beginOperation`. -/
def beginOperation (c : Client) (e : Env) (kind : OperationType) (requestPayload : List UInt8)
    (requestConnection : ConnectionHeader) (responseSize : Nat) (timeoutMs : Int) :
    Client × Result Unit :=
  if c.operation.active then (c, .error .busy)
  else if responseSize = 0 then (c, .error .invalidParameter)
  else match c.sendConfigurationRequest e requestPayload with
    | .error error => (c, .error error)
    | .ok () =>
      ({ c with operation := ⟨true, kind, e.nowMs, timeoutMs, requestConnection, responseSize⟩ },
        .ok ())

/-- `beginReadProperty`. -/
def beginReadProperty (c : Client) (e : Env) (target : PropertyAccessTarget) (responseSize : Nat)
    (timeoutMs : Int) : Client × Result Unit :=
  match c.makeRequestConnectionHeader e with
  | .error error => (c, .error error)
  | .ok header =>
    match encodePropertyReadRequest c.bufferSize header target with
    | .error error => (c, .error error)
    | .ok request => c.beginOperation e .propertyRead request header responseSize timeoutMs

/-- `beginWriteProperty`. -/
def beginWriteProperty (c : Client) (e : Env) (target : PropertyAccessTarget) (data : List UInt8)
    (responseSize : Nat) (timeoutMs : Int) : Client × Result Unit :=
  match c.makeRequestConnectionHeader e with
  | .error error => (c, .error error)
  | .ok header =>
    match encodePropertyWriteRequest c.bufferSize header target data with
    | .error error => (c, .error error)
    | .ok request => c.beginOperation e .propertyWrite request header responseSize timeoutMs

/-- `beginConfigurationExchange`. -/
def beginConfigurationExchange (c : Client) (e : Env) (requestPayload : List UInt8)
    (responseSize : Nat) (timeoutMs : Int) : Client × Result Unit :=
  match c.makeRequestConnectionHeader e with
  | .error error => (c, .error error)
  | .ok header =>
    c.beginOperation e .configurationExchange requestPayload header responseSize timeoutMs

/-- `detail::remainingTimeoutMs`. -/
def remainingTimeoutMs (nowMs startMs : UInt32) (timeoutMs : Int) : Int :=
  if timeoutMs ≤ 0 then 0
  else if timeoutMs ≤ ((nowMs - startMs).toNat : Int) then 0
  else timeoutMs - ((nowMs - startMs).toNat : Int)

/-- `receiveConfigurationResponse` on the datagram that waits. -/
def receiveConfigurationResponse (c : Client) (received : Result Datagram) (capacity : Nat) :
    Result (List UInt8) :=
  match received with
  | .error error => .error error
  | .ok datagram =>
    if datagram.source ≠ c.remote then .error .operationFailed
    else match payloadSpan datagram.octets deviceConfigurationAckService with
      | .done response =>
        if capacity < response.length then .error .bufferTooSmall else .ok response
      | .fail error => .error error
      | .outOfBounds _ => .error .unknownError

/-- `pollOperation`: the progress, and the response on success. -/
def pollOperation (c : Client) (e : Env) :
    Client × Result (OperationProgressState × List UInt8) :=
  if c.operation.active = false then (c, .error .operationNotReady)
  else if c.isOpen = false then (c.cancelOperation, .error .notInitialized)
  else match e.waiting with
    | none =>
      if remainingTimeoutMs e.nowMs c.operation.startTimeMs c.operation.timeoutMs ≤ 0 then
        (c.cancelOperation, .ok (.timeout, []))
      else (c, .ok (.pending, []))
    | some received =>
      match c.receiveConfigurationResponse received c.operation.responseSize with
      | .error error => (c.cancelOperation, .error error)
      | .ok response => (c, .ok (.success, response))

/-- `pollReadProperty`: the progress, and the confirmation on success. -/
def pollReadProperty (c : Client) (e : Env) :
    Client × Result (OperationProgressState × PropertyReadConfirmationView) :=
  if c.operation.kind ≠ .propertyRead ∨ c.operation.active = false then
    (c, .error .operationNotReady)
  else match c.pollOperation e with
    | (c, .error error) => (c, .error error)
    | (c, .ok (.success, response)) =>
      match readConfirmation response with
      | .error error => (c.cancelOperation, .error error)
      | .ok confirmation =>
        if confirmation.connection ≠ c.operation.requestConnection then
          (c.cancelOperation, .error .operationFailed)
        else (c.advanceSequenceCounter.cancelOperation, .ok (.success, confirmation))
    | (c, .ok (progress, _)) => (c, .ok (progress, {}))

/-- `pollWriteProperty`. -/
def pollWriteProperty (c : Client) (e : Env) :
    Client × Result (OperationProgressState × PropertyWriteConfirmation) :=
  if c.operation.kind ≠ .propertyWrite ∨ c.operation.active = false then
    (c, .error .operationNotReady)
  else match c.pollOperation e with
    | (c, .error error) => (c, .error error)
    | (c, .ok (.success, response)) =>
      match writeConfirmation response with
      | .error error => (c.cancelOperation, .error error)
      | .ok confirmation =>
        if confirmation.connection ≠ c.operation.requestConnection then
          (c.cancelOperation, .error .operationFailed)
        else (c.advanceSequenceCounter.cancelOperation, .ok (.success, confirmation))
    | (c, .ok (progress, _)) => (c, .ok (progress, {}))

/-- `pollConfigurationExchange`: the progress, and the length of the response on success. -/
def pollConfigurationExchange (c : Client) (e : Env) :
    Client × Result (OperationProgressState × Nat) :=
  if c.operation.kind ≠ .configurationExchange ∨ c.operation.active = false then
    (c, .error .operationNotReady)
  else match c.pollOperation e with
    | (c, .error error) => (c, .error error)
    | (c, .ok (.success, response)) =>
      (c.advanceSequenceCounter.cancelOperation, .ok (.success, response.length))
    | (c, .ok (progress, _)) => (c, .ok (progress, 0))

end Client

/-! ## Plans -/

/-- The confirmations that `ReadIdentityOperation` has room for. -/
inductive IdentityPart where
  | manufacturer
  | subnet
  | device
  | progMode
  deriving DecidableEq, Repr

/-- `ReadIdentityOperation`: the four confirmations. -/
structure ReadIdentityOperation where
  manufacturerConfirmation : PropertyReadConfirmationView := {}
  subnetConfirmation : PropertyReadConfirmationView := {}
  deviceConfirmation : PropertyReadConfirmationView := {}
  progModeConfirmation : PropertyReadConfirmationView := {}
  deriving DecidableEq, Repr

/-- The confirmation a plan step points to is overwritten. -/
def ReadIdentityOperation.store (read : ReadIdentityOperation)
    (confirmation : PropertyReadConfirmationView) : IdentityPart → ReadIdentityOperation
  | .manufacturer => { read with manufacturerConfirmation := confirmation }
  | .subnet => { read with subnetConfirmation := confirmation }
  | .device => { read with deviceConfirmation := confirmation }
  | .progMode => { read with progModeConfirmation := confirmation }

/-- `PlanStep`. A read step names the confirmation it fills; nothing reads those of the writes. -/
inductive PlanStep where
  | read (target : PropertyAccessTarget) (responseSize : Nat) (confirmation : Option IdentityPart)
      (timeoutMs : Int)
  | write (target : PropertyAccessTarget) (data : List UInt8) (responseSize : Nat)
      (timeoutMs : Int)
  | exchange (requestPayload : List UInt8) (responseSize : Nat) (timeoutMs : Int)
  deriving DecidableEq, Repr

/-- `PlanPhase`. -/
inductive PlanPhase where
  | idle
  | running
  | success
  | cancelled
  | failed
  | timeout
  | transmissionFailed
  deriving DecidableEq, Repr

/-- `PlanStatus`, of which the procedures read the flag, the phase and the error
(`none` is `ErrorCode::Success`). -/
structure PlanStatus where
  active : Bool := false
  phase : PlanPhase := .idle
  terminalError : Option ErrorCode := none
  deriving DecidableEq, Repr

/-- `Plan`. -/
structure Plan where
  active : Bool := false
  activeStepIndex : Nat := 0
  steps : List PlanStep := []
  deriving DecidableEq, Repr

/-- `BasicDeviceManagementSession`. -/
structure Session where
  isOpen : Bool
  client : Client
  plan : Plan := {}
  planStatus : PlanStatus := {}
  deriving DecidableEq, Repr

namespace Session

/-- The plan ends in a phase, with the error that goes with it. -/
def endPlan (s : Session) (phase : PlanPhase) (terminalError : Option ErrorCode) : Session :=
  { s with plan := {}, planStatus := ⟨false, phase, terminalError⟩ }

/-- The call of `beginCurrentPlanStep_` for one step. -/
def beginStep (c : Client) (e : Env) : PlanStep → Client × Result Unit
  | .read target responseSize _ timeoutMs => c.beginReadProperty e target responseSize timeoutMs
  | .write target data responseSize timeoutMs =>
    c.beginWriteProperty e target data responseSize timeoutMs
  | .exchange requestPayload responseSize timeoutMs =>
    c.beginConfigurationExchange e requestPayload responseSize timeoutMs

/-- `beginCurrentPlanStep_`. -/
def beginCurrentPlanStep (s : Session) (e : Env) : Session × Result Unit :=
  match s.plan.steps[s.plan.activeStepIndex]? with
  | none => (s, .error .unknownError)
  | some step =>
    let begun := beginStep s.client e step
    ({ s with client := begun.1 }, begun.2)

/-- `beginPlan`. -/
def beginPlan (s : Session) (e : Env) (steps : List PlanStep) : Session × Result Unit :=
  if s.isOpen = false then (s, .error .notInitialized)
  else if steps = [] then (s, .error .invalidParameter)
  else if s.plan.active ∨ s.client.operation.active then (s, .error .busy)
  else
    let started := { s with
      plan := ⟨true, 0, steps⟩
      planStatus := ⟨true, .running, none⟩ }
    match started.beginCurrentPlanStep e with
    | (s, .error error) => (s.endPlan .failed (some error), .error error)
    | (s, .ok ()) => (s, .ok ())

/-- The poll of `pollPlan` for one step. -/
def pollStep (c : Client) (e : Env) (read : ReadIdentityOperation) :
    PlanStep → Client × ReadIdentityOperation × Result OperationProgressState
  | .read _ _ confirmation _ =>
    match c.pollReadProperty e with
    | (c, .error error) => (c, read, .error error)
    | (c, .ok (.success, answer)) =>
      (c, (confirmation.map (read.store answer)).getD read, .ok .success)
    | (c, .ok (progress, _)) => (c, read, .ok progress)
  | .write _ _ _ _ =>
    match c.pollWriteProperty e with
    | (c, .error error) => (c, read, .error error)
    | (c, .ok (progress, _)) => (c, read, .ok progress)
  | .exchange _ _ _ =>
    match c.pollConfigurationExchange e with
    | (c, .error error) => (c, read, .error error)
    | (c, .ok (progress, _)) => (c, read, .ok progress)

/-- `pollPlan` after a step that ended in success: the plan ends, or its next step begins. -/
def nextPlanStep (s : Session) (e : Env) : Session × Result OperationProgressState :=
  if s.plan.steps.length ≤ s.plan.activeStepIndex + 1 then (s.endPlan .success none, .ok .success)
  else
    let s := { s with plan := { s.plan with activeStepIndex := s.plan.activeStepIndex + 1 } }
    match s.beginCurrentPlanStep e with
    | (s, .error error) => (s.endPlan .failed (some error), .error error)
    | (s, .ok ()) =>
      ({ s with planStatus := { s.planStatus with active := true, phase := .running } },
        .ok .pending)

/-- `pollPlan`, with the confirmations its steps point to. -/
def pollPlan (s : Session) (e : Env) (read : ReadIdentityOperation) :
    Session × ReadIdentityOperation × Result OperationProgressState :=
  if s.plan.active = false then (s, read, .error .operationNotReady)
  else match s.plan.steps[s.plan.activeStepIndex]? with
    | none => (s, read, .error .unknownError)
    | some step =>
      match pollStep s.client e read step with
      | (c, read, .error error) =>
        ({ s with client := c }.endPlan .failed (some error), read, .error error)
      | (c, read, .ok .success) =>
        let next := { s with client := c }.nextPlanStep e
        (next.1, read, next.2)
      | (c, read, .ok .timeout) =>
        ({ s with client := c }.endPlan .timeout (some .timeout), read, .ok .timeout)
      | (c, read, .ok .transmissionFailed) =>
        ({ s with client := c }.endPlan .transmissionFailed (some .transmissionFailed), read,
          .ok .transmissionFailed)
      | (c, read, .ok progress) =>
        ({ s with
            client := c
            planStatus := { s.planStatus with active := true, phase := .running } },
          read, .ok progress)

end Session

/-! ## Commissioning an individual address -/

/-- `Toggle`. -/
inductive Toggle where
  | disable
  | enable
  deriving DecidableEq, Repr

/-- `encodeToggleValue_`. -/
def encodeToggleValue : Toggle → UInt8
  | .enable => 0x01
  | .disable => 0x00

/-- `decodeToggleValue_`. -/
def decodeToggleValue (value : UInt8) : Toggle := if value = 0x00 then .disable else .enable

/-- `subnetByte_`. -/
def subnetByte (address : IndividualAddress) : UInt8 := highByte address.raw

/-- `deviceByte_`. -/
def deviceByte (address : IndividualAddress) : UInt8 := lowByte address.raw

/-- `makeIndividualAddress_`. -/
def makeIndividualAddress (subnet device : UInt8) : IndividualAddress := ⟨joinBytes subnet device⟩

/-- `makeDevicePropertyTarget`, on the KNXnet/IP parameter object. -/
def makeDevicePropertyTarget (propertyId : UInt8) : PropertyAccessTarget :=
  ⟨11, 0x01, propertyId, 1, 1⟩

/-- `manufacturerPropertyTarget_`. -/
def manufacturerPropertyTarget : PropertyAccessTarget := makeDevicePropertyTarget 12

/-- `subnetPropertyTarget_`. -/
def subnetPropertyTarget : PropertyAccessTarget := makeDevicePropertyTarget 57

/-- `devicePropertyTarget_`. -/
def devicePropertyTarget : PropertyAccessTarget := makeDevicePropertyTarget 58

/-- `programmingModePropertyTarget_`. -/
def programmingModePropertyTarget : PropertyAccessTarget := makeDevicePropertyTarget 54

/-- `DeviceIdentity`. -/
structure DeviceIdentity where
  manufacturerId : UInt16
  individualAddress : IndividualAddress
  programmingMode : Toggle
  deriving DecidableEq, Repr

/-- `decodeSingleByte_`. -/
def decodeSingleByte : List UInt8 → Result UInt8
  | [value] => .ok value
  | _ => .error .decodeFailed

/-- `decodeManufacturerId_`. -/
def decodeManufacturerId : List UInt8 → Result UInt16
  | [high, low] => .ok (joinBytes high low)
  | _ => .error .decodeFailed

/-- `decodeProgMode_`. -/
def decodeProgMode (data : List UInt8) : Result Toggle :=
  (decodeSingleByte data).map decodeToggleValue

/-- `buildDeviceIdentity_`. -/
def buildDeviceIdentity (read : ReadIdentityOperation) : Result DeviceIdentity := do
  let manufacturer ← decodeManufacturerId read.manufacturerConfirmation.data
  let subnet ← decodeSingleByte read.subnetConfirmation.data
  let device ← decodeSingleByte read.deviceConfirmation.data
  let progMode ← decodeProgMode read.progModeConfirmation.data
  return ⟨manufacturer, makeIndividualAddress subnet device, progMode⟩

/-- Size of every response buffer of the procedures. -/
def responseBufferSize : Nat := 16

/-- `configureReadIdentityPlan_`. -/
def readIdentityPlan (timeoutMs : Int) : List PlanStep :=
  [.read manufacturerPropertyTarget responseBufferSize (some .manufacturer) timeoutMs,
    .read subnetPropertyTarget responseBufferSize (some .subnet) timeoutMs,
    .read devicePropertyTarget responseBufferSize (some .device) timeoutMs,
    .read programmingModePropertyTarget responseBufferSize (some .progMode) timeoutMs]

/-- `ProgrammingModeDisposition`. -/
inductive ProgrammingModeDisposition where
  | restoreOriginal
  | enable
  | disable
  deriving DecidableEq, Repr

/-- `programmingModeDispositionFor_`. -/
def programmingModeDispositionFor : Toggle → ProgrammingModeDisposition
  | .enable => .enable
  | .disable => .disable

/-- `resolveProgrammingModeAfter_`. -/
def resolveProgrammingModeAfter (programmingModeBefore : Toggle) :
    ProgrammingModeDisposition → Toggle
  | .restoreOriginal => programmingModeBefore
  | .enable => .enable
  | .disable => .disable

/-- `buildAssignAddressPlan_`: the steps, and the programming mode they leave behind. -/
def assignAddressPlan (targetAddress : IndividualAddress) (programmingModeBefore : Toggle)
    (disposition : ProgrammingModeDisposition) (timeoutMs : Int) : List PlanStep × Toggle :=
  let after := resolveProgrammingModeAfter programmingModeBefore disposition
  ((if programmingModeBefore = .disable then
      [PlanStep.write programmingModePropertyTarget [encodeToggleValue .enable] responseBufferSize
        timeoutMs]
    else [])
    ++ [PlanStep.write subnetPropertyTarget [subnetByte targetAddress] responseBufferSize timeoutMs,
      PlanStep.write devicePropertyTarget [deviceByte targetAddress] responseBufferSize timeoutMs]
    ++ (if after = .disable then
      [PlanStep.write programmingModePropertyTarget [encodeToggleValue .disable] responseBufferSize
        timeoutMs]
    else []), after)

/-- `CommissionIndividualAddressOptions`. -/
structure CommissionOptions where
  finalProgrammingMode : Toggle := .disable
  verifyAfterWrite : Bool := true
  timeoutMs : Int := 1000
  deriving DecidableEq, Repr

/-- `CommissionIndividualAddressResult`. -/
structure CommissionResult where
  identityBefore : DeviceIdentity
  identityAfter : DeviceIdentity
  addressChanged : Bool
  programmingModeChanged : Bool
  deriving DecidableEq, Repr

/-- `CommissionAddressOperation::Phase`. -/
inductive CommissionPhase where
  | readingIdentityBefore
  | executingAddressPlan
  | readingIdentityAfter
  deriving DecidableEq, Repr

/-- `CommissionAddressOperation`. Of the nested assignment only the resulting mode is read. -/
structure CommissionAddressOperation where
  phase : CommissionPhase := .readingIdentityBefore
  targetAddress : IndividualAddress
  options : CommissionOptions
  identityBefore : DeviceIdentity := ⟨0, ⟨0⟩, .disable⟩
  readBefore : ReadIdentityOperation := {}
  programmingModeAfter : Toggle := .disable
  readAfter : ReadIdentityOperation := {}
  deriving DecidableEq, Repr

/-- `buildCommissionResult_`. -/
def buildCommissionResult (identityBefore identityAfter : DeviceIdentity) : CommissionResult :=
  ⟨identityBefore, identityAfter,
    decide (identityBefore.individualAddress ≠ identityAfter.individualAddress),
    decide (identityBefore.programmingMode ≠ identityAfter.programmingMode)⟩

/-- `DeviceManagementProcedures` around a commissioning: the workflow, the procedure's own status
and the operation, `none` when no procedure is under way. -/
structure Procedures where
  workflow : Session
  status : PlanStatus := {}
  operation : Option CommissionAddressOperation := none
  deriving DecidableEq, Repr

namespace Procedures

/-- The status and the operation after `failBegin_` and `failProgress_`. -/
def fail (p : Procedures) (error : ErrorCode) : Procedures :=
  { p with status := ⟨false, .failed, some error⟩, operation := none }

/-- The status and the operation after a success. -/
def finish (p : Procedures) : Procedures :=
  { p with status := ⟨false, .success, none⟩, operation := none }

/-- `syncStatusFromWorkflow_`, with the operation as it then stands. -/
def sync (p : Procedures) (op : CommissionAddressOperation) : Procedures :=
  { p with status := p.workflow.planStatus, operation := some op }

/-- `beginCommissionIndividualAddress`. -/
def beginCommissionIndividualAddress (p : Procedures) (e : Env) (address : IndividualAddress)
    (options : CommissionOptions) : Procedures × Result Unit :=
  if p.workflow.isOpen = false then (p, .error .notInitialized)
  else if p.status.active ∨ p.workflow.plan.active ∨ p.workflow.client.operation.active then
    (p, .error .busy)
  else if address.isValid = false then (p, .error .invalidParameter)
  else match p.workflow.beginPlan e (readIdentityPlan options.timeoutMs) with
    | (workflow, .error error) => ({ p with workflow := workflow }.fail error, .error error)
    | (workflow, .ok ()) =>
      ({ p with
          workflow := workflow
          status := ⟨true, .running, none⟩
          operation := some { targetAddress := address, options := options } }, .ok ())

/-- The plan of the phase is polled; what follows its success is `next`. -/
def pollPhase (p : Procedures) (e : Env) (read : ReadIdentityOperation)
    (keep : ReadIdentityOperation → CommissionAddressOperation)
    (next : Procedures → ReadIdentityOperation →
      Procedures × Result (OperationProgressState × Option CommissionResult)) :
    Procedures × Result (OperationProgressState × Option CommissionResult) :=
  match p.workflow.pollPlan e read with
  | (workflow, _, .error error) => ({ p with workflow := workflow }.fail error, .error error)
  | (workflow, read, .ok .success) => next { p with workflow := workflow } read
  | (workflow, read, .ok progress) =>
    ({ p with workflow := workflow }.sync (keep read), .ok (progress, none))

/-- `pollCommissionIndividualAddress`: the progress, and the result on success. -/
def pollCommissionIndividualAddress (p : Procedures) (e : Env) :
    Procedures × Result (OperationProgressState × Option CommissionResult) :=
  match p.operation with
  | none => (p, .error .operationNotReady)
  | some op =>
    if p.status.active = false then (p, .error .operationNotReady)
    else match op.phase with
    | .readingIdentityBefore =>
      p.pollPhase e op.readBefore (fun read => { op with readBefore := read }) fun p read =>
        match buildDeviceIdentity read with
        | .error error => (p.fail error, .error error)
        | .ok identity =>
          if identity.individualAddress = op.targetAddress
              ∧ identity.programmingMode = op.options.finalProgrammingMode then
            (p.finish, .ok (.success, some (buildCommissionResult identity identity)))
          else
            let plan := assignAddressPlan op.targetAddress identity.programmingMode
              (programmingModeDispositionFor op.options.finalProgrammingMode) op.options.timeoutMs
            match p.workflow.beginPlan e plan.1 with
            | (workflow, .error error) => ({ p with workflow := workflow }.fail error, .error error)
            | (workflow, .ok ()) =>
              ({ p with workflow := workflow }.sync { op with
                  phase := .executingAddressPlan
                  identityBefore := identity
                  readBefore := read
                  programmingModeAfter := plan.2 },
                .ok (.pending, none))
    | .executingAddressPlan =>
      p.pollPhase e {} (fun _ => op) fun p _ =>
        let identityAfter : DeviceIdentity :=
          ⟨op.identityBefore.manufacturerId, op.targetAddress, op.programmingModeAfter⟩
        if op.options.verifyAfterWrite = false then
          (p.finish, .ok (.success, some (buildCommissionResult op.identityBefore identityAfter)))
        else match p.workflow.beginPlan e (readIdentityPlan op.options.timeoutMs) with
          | (workflow, .error error) => ({ p with workflow := workflow }.fail error, .error error)
          | (workflow, .ok ()) =>
            ({ p with workflow := workflow }.sync { op with phase := .readingIdentityAfter },
              .ok (.pending, none))
    | .readingIdentityAfter =>
      p.pollPhase e op.readAfter (fun read => { op with readAfter := read }) fun p read =>
        match buildDeviceIdentity read with
        | .error error => (p.fail error, .error error)
        | .ok identity =>
          (p.finish,
            .ok (.success, some (buildCommissionResult op.identityBefore identity)))

end Procedures

/-! ## What an operation accepts -/

/-- The confirmation with the message code that waits at the socket: it comes from the server, fits
the response buffer and decodes. -/
def confirmationWaiting (c : Client) (e : Env) (messageCode : UInt8) :
    Option (ConnectionHeader × PropertyAccessTarget × List UInt8) :=
  match e.waiting with
  | some received =>
    match c.receiveConfigurationResponse received c.operation.responseSize with
    | .ok response => (decodeConfirmation messageCode response).toOption
    | .error _ => none
  | none => none

/-- The operation of the kind takes the waiting confirmation: channel and sequence counter are
those of the request. -/
structure Accepts (kind : OperationType) (messageCode : UInt8) (c : Client) (e : Env)
    (target : PropertyAccessTarget) (data : List UInt8) : Prop where
  kind_eq : c.operation.kind = kind
  active : c.operation.active = true
  isOpen : c.isOpen = true
  waiting : confirmationWaiting c e messageCode
    = some (c.operation.requestConnection, target, data)

/-- A read confirmation that the client takes. -/
abbrev AcceptsRead : Client → Env → PropertyAccessTarget → List UInt8 → Prop :=
  Accepts .propertyRead propertyReadConfirmationCode

/-- A write confirmation that the client takes. -/
abbrev AcceptsWrite : Client → Env → PropertyAccessTarget → List UInt8 → Prop :=
  Accepts .propertyWrite propertyWriteConfirmationCode

namespace Client

variable {c : Client} {e : Env}

theorem pollOperation_eq_success {c' : Client} {response : List UInt8} :
    c.pollOperation e = (c', .ok (.success, response)) ↔
      c.operation.active = true ∧ c.isOpen = true ∧ c' = c ∧ ∃ received, e.waiting = some received
        ∧ c.receiveConfigurationResponse received c.operation.responseSize = .ok response := by
  unfold pollOperation
  split
  · rename_i h
    simp [h]
  · rename_i hactive
    split
    · rename_i h
      simp [h]
    · rename_i hopen
      have hactive' : c.operation.active = true := by simpa using hactive
      have hopen' : c.isOpen = true := by simpa using hopen
      cases hwaiting : e.waiting with
      | none =>
        simp only [hactive', hopen', reduceCtorEq, false_and, exists_false, and_false, iff_false]
        split <;> simp
      | some received =>
        cases hreceive : c.receiveConfigurationResponse received c.operation.responseSize with
        | error error => simp [hreceive]
        | ok octets =>
          simp only [hactive', hopen', Option.some.injEq, exists_eq_left', hreceive,
            Prod.mk.injEq, Except.ok.injEq, true_and]
          constructor
          · rintro ⟨hc, hr⟩
            exact ⟨hc.symm, hr⟩
          · rintro ⟨hc, hr⟩
            exact ⟨hc.symm, hr⟩

theorem confirmationWaiting_of_pollOperation {c' : Client} {response : List UInt8}
    (h : c.pollOperation e = (c', .ok (.success, response))) (messageCode : UInt8) :
    confirmationWaiting c e messageCode = (decodeConfirmation messageCode response).toOption := by
  obtain ⟨-, -, -, received, hwaiting, hreceive⟩ := pollOperation_eq_success.mp h
  simp only [confirmationWaiting, hwaiting, hreceive]

theorem pollOperation_of_accepts {kind : OperationType} {messageCode : UInt8}
    {target : PropertyAccessTarget} {data : List UInt8}
    (h : Accepts kind messageCode c e target data) :
    ∃ response, c.pollOperation e = (c, .ok (.success, response))
      ∧ decodeConfirmation messageCode response = .ok (c.operation.requestConnection, target, data) := by
  have hwaiting := h.waiting
  unfold confirmationWaiting at hwaiting
  split at hwaiting
  · rename_i received hreceived
    split at hwaiting
    · rename_i response hresponse
      refine ⟨response, pollOperation_eq_success.mpr
        ⟨h.active, h.isOpen, rfl, received, hreceived, hresponse⟩, ?_⟩
      cases hdecode : decodeConfirmation messageCode response with
      | error error => simp [hdecode, Except.toOption] at hwaiting
      | ok decoded => simpa [hdecode, Except.toOption] using hwaiting
    · cases hwaiting
  · cases hwaiting

theorem accepts_of_pollOperation {c' : Client} {kind : OperationType} {messageCode : UInt8}
    {response : List UInt8} {decoded : ConnectionHeader × PropertyAccessTarget × List UInt8}
    (hpoll : c.pollOperation e = (c', .ok (.success, response)))
    (hkind : c.operation.kind = kind) (hdecode : decodeConfirmation messageCode response = .ok decoded)
    (hheader : decoded.1 = c.operation.requestConnection) :
    Accepts kind messageCode c e decoded.2.1 decoded.2.2 := by
  obtain ⟨hactive, hopen, -, -⟩ := pollOperation_eq_success.mp hpoll
  refine ⟨hkind, hactive, hopen, ?_⟩
  rw [confirmationWaiting_of_pollOperation hpoll, hdecode, ← hheader]
  rfl

theorem pollReadProperty_eq_success {confirmation : PropertyReadConfirmationView} :
    (c.pollReadProperty e).2 = .ok (.success, confirmation) ↔
      confirmation.connection = c.operation.requestConnection
        ∧ AcceptsRead c e confirmation.target confirmation.data := by
  constructor
  · intro h
    unfold pollReadProperty at h
    split at h
    · cases h
    · rename_i hkind
      rw [not_or, not_not, Bool.not_eq_false] at hkind
      split at h
      · cases h
      · rename_i c' response hpoll
        obtain ⟨-, -, rfl, -⟩ := pollOperation_eq_success.mp hpoll
        simp only [readConfirmation_eq] at h
        cases hdecode : decodeConfirmation propertyReadConfirmationCode response with
        | error error => simp [hdecode, Except.map] at h
        | ok decoded =>
          simp only [hdecode, Except.map] at h
          split at h
          · cases h
          · rename_i hheader
            rw [not_not] at hheader
            obtain rfl : _ = confirmation := by simpa using h
            exact ⟨hheader, accepts_of_pollOperation hpoll hkind.1 hdecode hheader⟩
      · rename_i hne _
        simp only [Except.ok.injEq, Prod.mk.injEq] at h
        exact (hne h.1).elim
  · rintro ⟨hconnection, h⟩
    obtain ⟨response, hpoll, hdecode⟩ := pollOperation_of_accepts h
    unfold pollReadProperty
    rw [if_neg (by simp [h.kind_eq, h.active])]
    simp only [hpoll, readConfirmation_eq, hdecode, Except.map, ne_eq, not_true,
      if_false]
    rw [← hconnection]

theorem pollWriteProperty_eq_success {confirmation : PropertyWriteConfirmation} :
    (c.pollWriteProperty e).2 = .ok (.success, confirmation) ↔
      confirmation.connection = c.operation.requestConnection
        ∧ ∃ data, AcceptsWrite c e confirmation.target data := by
  constructor
  · intro h
    unfold pollWriteProperty at h
    split at h
    · cases h
    · rename_i hkind
      rw [not_or, not_not, Bool.not_eq_false] at hkind
      split at h
      · cases h
      · rename_i c' response hpoll
        obtain ⟨-, -, rfl, -⟩ := pollOperation_eq_success.mp hpoll
        simp only [writeConfirmation_eq] at h
        cases hdecode : decodeConfirmation propertyWriteConfirmationCode response with
        | error error => simp [hdecode, Except.map] at h
        | ok decoded =>
          simp only [hdecode, Except.map] at h
          split at h
          · cases h
          · rename_i hheader
            rw [not_not] at hheader
            obtain rfl : _ = confirmation := by simpa using h
            exact ⟨hheader, decoded.2.2,
              accepts_of_pollOperation hpoll hkind.1 hdecode hheader⟩
      · rename_i hne _
        simp only [Except.ok.injEq, Prod.mk.injEq] at h
        exact (hne h.1).elim
  · rintro ⟨hconnection, data, h⟩
    obtain ⟨response, hpoll, hdecode⟩ := pollOperation_of_accepts h
    unfold pollWriteProperty
    rw [if_neg (by simp [h.kind_eq, h.active])]
    simp only [hpoll, writeConfirmation_eq, hdecode, Except.map, ne_eq, not_true,
      if_false]
    rw [← hconnection]

end Client

/-! ## Runs of the client -/

/-- One call on the client. -/
inductive Call where
  | beginReadProperty (target : PropertyAccessTarget) (responseSize : Nat) (timeoutMs : Int)
  | pollReadProperty
  | beginWriteProperty (target : PropertyAccessTarget) (data : List UInt8) (responseSize : Nat)
      (timeoutMs : Int)
  | pollWriteProperty
  | beginConfigurationExchange (requestPayload : List UInt8) (responseSize : Nat)
      (timeoutMs : Int)
  | pollConfigurationExchange
  | cancelOperation
  | setConnection (channelId nextSequenceCounter : UInt8)
  deriving DecidableEq, Repr

/-- A client, and what its last request that went out asked for. The client itself forgets this. -/
structure Asking where
  client : Client
  requested : PropertyAccessTarget := {}
  deriving DecidableEq, Repr

/-- A request that went out is what is asked for now. -/
def Asking.ask (s : Asking) (target : PropertyAccessTarget) : Client × Result Unit → Asking
  | (c, .ok ()) => ⟨c, target⟩
  | (c, .error _) => ⟨c, s.requested⟩

/-- One call, with its environment. -/
def Asking.step (s : Asking) : Call × Env → Asking
  | (.beginReadProperty target responseSize timeoutMs, e) =>
    s.ask target (s.client.beginReadProperty e target responseSize timeoutMs)
  | (.pollReadProperty, e) => { s with client := (s.client.pollReadProperty e).1 }
  | (.beginWriteProperty target data responseSize timeoutMs, e) =>
    s.ask target (s.client.beginWriteProperty e target data responseSize timeoutMs)
  | (.pollWriteProperty, e) => { s with client := (s.client.pollWriteProperty e).1 }
  | (.beginConfigurationExchange requestPayload responseSize timeoutMs, e) =>
    { s with
      client := (s.client.beginConfigurationExchange e requestPayload responseSize timeoutMs).1 }
  | (.pollConfigurationExchange, e) =>
    { s with client := (s.client.pollConfigurationExchange e).1 }
  | (.cancelOperation, _) => { s with client := s.client.cancelOperation }
  | (.setConnection channelId nextSequenceCounter, _) =>
    { s with client := s.client.setConnection channelId nextSequenceCounter }

/-- A poll that reports success hands out a confirmation of the requested object, property, start
index and element count. -/
def Confirmed (s : Asking) : Call × Env → Prop
  | (.pollReadProperty, e) => ∀ confirmation,
    (s.client.pollReadProperty e).2 = .ok (.success, confirmation) →
      confirmation.target = s.requested
  | (.pollWriteProperty, e) => ∀ confirmation,
    (s.client.pollWriteProperty e).2 = .ok (.success, confirmation) →
      confirmation.target = s.requested
  | _ => True

/-- The server answers what it was asked: a confirmation that waits when the client polls, and that
it would take, names the requested object, property, start index and element count. -/
def AnswersRequest (s : Asking) : Call × Env → Prop
  | (.pollReadProperty, e) =>
    ∀ target data, AcceptsRead s.client e target data → target = s.requested
  | (.pollWriteProperty, e) =>
    ∀ target data, AcceptsWrite s.client e target data → target = s.requested
  | _ => True

theorem confirmed_iff (s : Asking) (call : Call × Env) :
    Confirmed s call ↔ AnswersRequest s call := by
  obtain ⟨call, e⟩ := call
  cases call with
  | pollReadProperty =>
    constructor
    · intro h target data haccepts
      exact h ⟨s.client.operation.requestConnection, target, data⟩
        (Client.pollReadProperty_eq_success.mpr ⟨rfl, haccepts⟩)
    · intro h confirmation hsuccess
      exact h _ _ (Client.pollReadProperty_eq_success.mp hsuccess).2
  | pollWriteProperty =>
    constructor
    · intro h target data haccepts
      exact h ⟨s.client.operation.requestConnection, target⟩
        (Client.pollWriteProperty_eq_success.mpr ⟨rfl, data, haccepts⟩)
    · intro h confirmation hsuccess
      obtain ⟨data, haccepts⟩ := (Client.pollWriteProperty_eq_success.mp hsuccess).2
      exact h _ _ haccepts
  | beginReadProperty => exact Iff.rfl
  | beginWriteProperty => exact Iff.rfl
  | beginConfigurationExchange => exact Iff.rfl
  | pollConfigurationExchange => exact Iff.rfl
  | cancelOperation => exact Iff.rfl
  | setConnection => exact Iff.rfl

/-! ## Runs of a commissioning -/

namespace Session

variable {s : Session} {e : Env} {read read' : ReadIdentityOperation}

theorem beginCurrentPlanStep_plan : (s.beginCurrentPlanStep e).1.plan = s.plan := by
  unfold beginCurrentPlanStep
  split <;> rfl

theorem beginPlan_eq_ok {s' : Session} {steps : List PlanStep}
    (h : s.beginPlan e steps = (s', .ok ())) : s'.plan.steps = steps := by
  unfold beginPlan at h
  split at h
  · cases h
  · split at h
    · cases h
    · split at h
      · cases h
      · dsimp only at h
        split at h
        · cases h
        · rename_i hbegin
          cases h
          have hplan := congrArg (fun r => r.1.plan) hbegin
          simp only [beginCurrentPlanStep_plan] at hplan
          rw [← hplan]

theorem nextPlanStep_steps (h : (s.nextPlanStep e).1.plan.active = true) :
    (s.nextPlanStep e).1.plan.steps = s.plan.steps := by
  revert h
  unfold nextPlanStep
  split
  · intro h
    cases h
  · dsimp only
    split
    · intro h
      cases h
    · rename_i hbegin
      intro _
      have hplan := congrArg (fun r => r.1.plan) hbegin
      simp only [beginCurrentPlanStep_plan] at hplan
      simp only [← hplan]

theorem nextPlanStep_eq_success :
    (s.nextPlanStep e).2 = .ok .success ↔ s.plan.steps.length ≤ s.plan.activeStepIndex + 1 := by
  unfold nextPlanStep
  split
  · rename_i h
    simp [h]
  · rename_i h
    simp only [h, iff_false]
    split <;> simp

theorem pollPlan_steps (h : (s.pollPlan e read).1.plan.active = true) :
    s.plan.active = true ∧ (s.pollPlan e read).1.plan.steps = s.plan.steps := by
  revert h
  unfold pollPlan
  split
  · intro h
    exact ⟨h, rfl⟩
  · rename_i hactive
    rw [Bool.not_eq_false] at hactive
    split
    · intro _
      exact ⟨hactive, rfl⟩
    · split
      · intro h
        cases h
      · intro h
        exact ⟨hactive, nextPlanStep_steps h⟩
      · intro h
        cases h
      · intro h
        cases h
      · intro _
        exact ⟨hactive, rfl⟩

theorem pollPlan_eq_success :
    (s.pollPlan e read).2 = (read', .ok .success) ↔
      s.plan.active = true ∧ s.plan.steps.length ≤ s.plan.activeStepIndex + 1
        ∧ ∃ step, s.plan.steps[s.plan.activeStepIndex]? = some step
          ∧ (pollStep s.client e read step).2 = (read', .ok .success) := by
  unfold pollPlan
  split
  · rename_i h
    simp [h]
  · rename_i hactive
    rw [Bool.not_eq_false] at hactive
    split
    · rename_i h
      simp [h]
    · rename_i step hstep
      simp only [hactive, true_and, hstep, Option.some.injEq, exists_eq_left']
      split
      · rename_i hpoll
        simp [hpoll]
      · rename_i hpoll
        simp only [hpoll, Prod.mk.injEq, nextPlanStep_eq_success]
        constructor
        · rintro ⟨rfl, hlength⟩
          exact ⟨hlength, rfl, trivial⟩
        · rintro ⟨hlength, rfl, -⟩
          exact ⟨rfl, hlength⟩
      · rename_i hpoll
        simp [hpoll]
      · rename_i hpoll
        simp [hpoll]
      · rename_i hsuccess _ _ hpoll
        simp only [hpoll, Prod.mk.injEq, Except.ok.injEq]
        constructor
        · rintro ⟨-, rfl⟩
          exact (hsuccess rfl).elim
        · rintro ⟨-, -, rfl⟩
          exact (hsuccess rfl).elim

theorem pollStep_read_eq_success {c : Client} {target : PropertyAccessTarget} {responseSize : Nat}
    {part : IdentityPart} {timeoutMs : Int} :
    (pollStep c e read (.read target responseSize (some part) timeoutMs)).2
        = (read', .ok .success) ↔
      ∃ confirmation, (c.pollReadProperty e).2 = .ok (.success, confirmation)
        ∧ read' = read.store confirmation part := by
  simp only [pollStep]
  split
  · rename_i h
    simp [h]
  · rename_i h
    simp [h, eq_comm]
  · rename_i hne h
    simp only [h, Prod.mk.injEq, Except.ok.injEq]
    constructor
    · rintro ⟨-, rfl⟩
      exact (hne rfl).elim
    · rintro ⟨confirmation, ⟨rfl, -⟩, -⟩
      exact (hne rfl).elim

end Session

theorem buildDeviceIdentity_eq_ok {read : ReadIdentityOperation} {identity : DeviceIdentity} :
    buildDeviceIdentity read = .ok identity ↔
      ∃ high low subnet device mode, read.manufacturerConfirmation.data = [high, low]
        ∧ read.subnetConfirmation.data = [subnet] ∧ read.deviceConfirmation.data = [device]
        ∧ read.progModeConfirmation.data = [mode]
        ∧ identity = ⟨joinBytes high low, makeIndividualAddress subnet device,
          decodeToggleValue mode⟩ := by
  constructor
  · intro h
    simp only [buildDeviceIdentity, bind, Except.bind, pure, Except.pure, decodeProgMode] at h
    split at h
    · cases h
    · rename_i hmanufacturer
      split at h
      · cases h
      · rename_i hsubnet
        split at h
        · cases h
        · rename_i hdevice
          split at h
          · cases h
          · rename_i hmode
            unfold decodeManufacturerId at hmanufacturer
            unfold decodeSingleByte at hsubnet hdevice hmode
            split at hmanufacturer
            · split at hsubnet
              · split at hdevice
                · split at hmode
                  · cases hmanufacturer
                    cases hsubnet
                    cases hdevice
                    cases hmode
                    cases h
                    exact ⟨_, _, _, _, _, ‹_›, ‹_›, ‹_›, ‹_›, rfl⟩
                  · cases hmode
                · cases hdevice
              · cases hsubnet
            · cases hmanufacturer
  · rintro ⟨high, low, subnet, device, mode, hmanufacturer, hsubnet, hdevice, hmode, rfl⟩
    simp [buildDeviceIdentity, hmanufacturer, hsubnet, hdevice, hmode, decodeManufacturerId,
      decodeSingleByte, decodeProgMode, Except.map, bind, Except.bind, pure, Except.pure]

theorem makeIndividualAddress_eq_iff {subnet device : UInt8} {address : IndividualAddress} :
    makeIndividualAddress subnet device = address ↔
      subnet = subnetByte address ∧ device = deviceByte address := by
  obtain ⟨raw⟩ := address
  constructor
  · intro h
    obtain rfl : joinBytes subnet device = raw := congrArg IndividualAddress.raw h
    exact ⟨(highByte_joinBytes subnet device).symm, (lowByte_joinBytes subnet device).symm⟩
  · rintro ⟨rfl, rfl⟩
    exact congrArg IndividualAddress.mk (joinBytes_highByte_lowByte raw)

namespace Procedures

/-- One poll of the commissioning. -/
def step (p : Procedures) (e : Env) : Procedures := (p.pollCommissionIndividualAddress e).1

/-- A poll that reports success hands out the requested address and final mode as the identity of
the device after the procedure. -/
def ReadBack (address : IndividualAddress) (options : CommissionOptions) (p : Procedures)
    (e : Env) : Prop :=
  ∀ result, (p.pollCommissionIndividualAddress e).2 = .ok (.success, some result) →
    result.identityAfter.individualAddress = address
      ∧ result.identityAfter.programmingMode = options.finalProgrammingMode

/-- The poll at which the verification has its last answer: three of the four properties were read
back before, and the confirmation of the programming mode waits. -/
structure Verifies (p : Procedures) (op : CommissionAddressOperation) (e : Env)
    (subnet device mode : UInt8) : Prop where
  operation : p.operation = some op
  active : p.status.active = true
  phase : op.phase = .readingIdentityAfter
  planActive : p.workflow.plan.active = true
  lastStep : p.workflow.plan.activeStepIndex = 3
  manufacturer : op.readAfter.manufacturerConfirmation.data.length = 2
  subnet : op.readAfter.subnetConfirmation.data = [subnet]
  device : op.readAfter.deviceConfirmation.data = [device]
  accepts : ∃ target, AcceptsRead p.workflow.client e target [mode]

/-- The octets received for the subnet, the device and the programming mode are those asked for. -/
def ReadsRequested (address : IndividualAddress) (options : CommissionOptions) (p : Procedures)
    (e : Env) : Prop :=
  ∀ op subnet device mode, Verifies p op e subnet device mode →
    subnet = subnetByte address ∧ device = deviceByte address
      ∧ decodeToggleValue mode = options.finalProgrammingMode

/-- The commissioning under way is the one that was begun, and its verification runs the plan that
reads the identity. -/
def Commissions (address : IndividualAddress) (options : CommissionOptions) (p : Procedures) :
    Prop :=
  ∀ op, p.operation = some op → op.targetAddress = address ∧ op.options = options
    ∧ (op.phase = .readingIdentityAfter → p.workflow.plan.active = true →
      p.workflow.plan.steps = readIdentityPlan options.timeoutMs)

variable {address : IndividualAddress} {options : CommissionOptions} {p p' : Procedures} {e : Env}

theorem commissions_begin
    (h : p.beginCommissionIndividualAddress e address options = (p', .ok ())) :
    Commissions address options p' := by
  unfold beginCommissionIndividualAddress at h
  split at h
  · cases h
  · split at h
    · cases h
    · split at h
      · cases h
      · split at h
        · cases h
        · cases h
          intro op hop
          cases hop
          exact ⟨rfl, rfl, nofun⟩

theorem commissions_of_none (h : p.operation = none) : Commissions address options p := by
  intro op hop
  rw [h] at hop
  cases hop

/-- Step. A phase keeps the commissioning when its own operation does and when what follows
its plan does. -/
theorem commissions_pollPhase {read : ReadIdentityOperation}
    {keep : ReadIdentityOperation → CommissionAddressOperation}
    {next : Procedures → ReadIdentityOperation →
      Procedures × Result (OperationProgressState × Option CommissionResult)}
    (hkeep : ∀ read, (keep read).targetAddress = address ∧ (keep read).options = options
      ∧ ((keep read).phase = .readingIdentityAfter → p.workflow.plan.active = true →
        p.workflow.plan.steps = readIdentityPlan options.timeoutMs))
    (hnext : ∀ p read, Commissions address options (next p read).1) :
    Commissions address options (p.pollPhase e read keep next).1 := by
  unfold pollPhase
  split
  · exact commissions_of_none rfl
  · exact hnext _ _
  · rename_i workflow read' progress hne hpoll
    intro op hop
    obtain ⟨htarget, hoptions, hsteps⟩ := hkeep read'
    cases hop
    refine ⟨htarget, hoptions, ?_⟩
    intro hphase hactive
    have hkept := @Session.pollPlan_steps p.workflow e read
    rw [hpoll] at hkept
    obtain ⟨hbefore, hsame⟩ := hkept hactive
    exact hsame.trans (hsteps hphase hbefore)

theorem commissions_step (h : Commissions address options p) :
    Commissions address options (p.step e) := by
  unfold step pollCommissionIndividualAddress
  split
  · exact h
  · rename_i op hop
    obtain ⟨htarget, hoptions, hsteps⟩ := h op hop
    split
    · exact h
    · split
      · rename_i hphase
        apply commissions_pollPhase
        · intro read
          exact ⟨htarget, hoptions, fun hafter => by simp [hphase] at hafter⟩
        · intro p read
          split
          · exact commissions_of_none rfl
          · split
            · exact commissions_of_none rfl
            · dsimp only
              split
              · exact commissions_of_none rfl
              · intro op' hop'
                cases hop'
                exact ⟨htarget, hoptions, nofun⟩
      · rename_i hphase
        apply commissions_pollPhase
        · intro read
          exact ⟨htarget, hoptions, fun hafter => by simp [hphase] at hafter⟩
        · intro p read
          dsimp only
          split
          · exact commissions_of_none rfl
          · split
            · exact commissions_of_none rfl
            · rename_i hbegin
              intro op' hop'
              cases hop'
              refine ⟨htarget, hoptions, fun _ _ => ?_⟩
              rw [← hoptions]
              exact Session.beginPlan_eq_ok hbegin
      · apply commissions_pollPhase
        · intro read
          exact ⟨htarget, hoptions, hsteps⟩
        · intro p read
          split
          · exact commissions_of_none rfl
          · exact commissions_of_none rfl

theorem pollPhase_eq_success {read : ReadIdentityOperation}
    {keep : ReadIdentityOperation → CommissionAddressOperation}
    {next : Procedures → ReadIdentityOperation →
      Procedures × Result (OperationProgressState × Option CommissionResult)}
    {result : CommissionResult} :
    (p.pollPhase e read keep next).2 = .ok (.success, some result) ↔
      ∃ read', (p.workflow.pollPlan e read).2 = (read', .ok .success)
        ∧ (next { p with workflow := (p.workflow.pollPlan e read).1 } read').2
          = .ok (.success, some result) := by
  unfold pollPhase
  split
  · rename_i hpoll
    simp [hpoll]
  · rename_i hpoll
    simp [hpoll]
  · rename_i hne hpoll
    simp only [hpoll, Prod.mk.injEq, Except.ok.injEq, reduceCtorEq, and_false, false_iff,
      not_exists, not_and]
    rintro read' ⟨-, rfl⟩
    exact (hne rfl).elim

/-- The verification ends in success at the poll that has its last answer, with the identity those
answers make. -/
theorem poll_verification {op : CommissionAddressOperation} {result : CommissionResult}
    (hop : p.operation = some op) (hphase : op.phase = .readingIdentityAfter)
    (hsteps : p.workflow.plan.active = true →
      p.workflow.plan.steps = readIdentityPlan options.timeoutMs) :
    (p.pollCommissionIndividualAddress e).2 = .ok (.success, some result) →
      ∃ subnet device mode, Verifies p op e subnet device mode
        ∧ result.identityAfter.individualAddress = makeIndividualAddress subnet device
        ∧ result.identityAfter.programmingMode = decodeToggleValue mode := by
  intro h
  unfold pollCommissionIndividualAddress at h
  simp only [hop, hphase] at h
  split at h
  · cases h
  · rename_i hactive
    rw [Bool.not_eq_false] at hactive
    obtain ⟨read', hpoll, hnext⟩ := pollPhase_eq_success.mp h
    obtain ⟨hplan, hlength, step, hstep, hsuccess⟩ := Session.pollPlan_eq_success.mp hpoll
    rw [hsteps hplan] at hlength hstep
    -- The plan has four steps, so its last one is the read of the programming mode.
    have hlast : p.workflow.plan.activeStepIndex = 3 := by
      have hlt := (List.getElem?_eq_some_iff.mp hstep).1
      simp only [readIdentityPlan, List.length_cons, List.length_nil] at hlt hlength
      omega
    rw [hlast] at hstep
    obtain rfl : _ = step := by simpa [readIdentityPlan] using hstep
    obtain ⟨confirmation, hread, rfl⟩ := Session.pollStep_read_eq_success.mp hsuccess
    obtain ⟨-, haccepts⟩ := Client.pollReadProperty_eq_success.mp hread
    split at hnext
    · cases hnext
    · rename_i identity hidentity
      obtain ⟨high, low, subnet, device, mode, hmanufacturer, hsubnet, hdevice, hmode, rfl⟩ :=
        buildDeviceIdentity_eq_ok.mp hidentity
      cases hnext
      have hmode' : confirmation.data = [mode] := hmode
      rw [hmode'] at haccepts
      have hlong : op.readAfter.manufacturerConfirmation.data.length = 2 := by
        have hdata : op.readAfter.manufacturerConfirmation.data = [high, low] := hmanufacturer
        rw [hdata]
        rfl
      exact ⟨subnet, device, mode, ⟨hop, hactive, hphase, hplan, hlast, hlong, hsubnet, hdevice,
        _, haccepts⟩, rfl, rfl⟩

theorem poll_of_verifies {op : CommissionAddressOperation} {subnet device mode : UInt8}
    (h : Verifies p op e subnet device mode)
    (hsteps : p.workflow.plan.steps = readIdentityPlan options.timeoutMs) :
    ∃ result, (p.pollCommissionIndividualAddress e).2 = .ok (.success, some result)
      ∧ result.identityAfter.individualAddress = makeIndividualAddress subnet device
      ∧ result.identityAfter.programmingMode = decodeToggleValue mode := by
  obtain ⟨target, haccepts⟩ := h.accepts
  obtain ⟨high, low, hmanufacturer⟩ := List.length_eq_two.mp h.manufacturer
  have hread : (p.workflow.client.pollReadProperty e).2 = .ok (.success,
      ⟨p.workflow.client.operation.requestConnection, target, [mode]⟩) :=
    Client.pollReadProperty_eq_success.mpr ⟨rfl, haccepts⟩
  have hplan : (p.workflow.pollPlan e op.readAfter).2 = (op.readAfter.store
      ⟨p.workflow.client.operation.requestConnection, target, [mode]⟩ .progMode, .ok .success) := by
    apply Session.pollPlan_eq_success.mpr
    refine ⟨h.planActive, ?_, .read programmingModePropertyTarget responseBufferSize
      (some .progMode) options.timeoutMs, ?_,
      Session.pollStep_read_eq_success.mpr ⟨_, hread, rfl⟩⟩
    · rw [hsteps, h.lastStep]
      exact Nat.le_refl 4
    · rw [hsteps, h.lastStep]
      rfl
  have hidentity : buildDeviceIdentity (op.readAfter.store
      ⟨p.workflow.client.operation.requestConnection, target, [mode]⟩ .progMode)
      = .ok ⟨joinBytes high low, makeIndividualAddress subnet device, decodeToggleValue mode⟩ :=
    buildDeviceIdentity_eq_ok.mpr
      ⟨high, low, subnet, device, mode, hmanufacturer, h.subnet, h.device, rfl, rfl⟩
  refine ⟨buildCommissionResult op.identityBefore
    ⟨joinBytes high low, makeIndividualAddress subnet device, decodeToggleValue mode⟩, ?_,
    rfl, rfl⟩
  unfold pollCommissionIndividualAddress
  simp only [h.operation, h.phase, h.active, reduceCtorEq, if_false]
  refine pollPhase_eq_success.mpr ⟨_, hplan, ?_⟩
  simp only [hidentity]

/-- A poll of a verifying commissioning is truthful exactly when the octets it has received are
those asked for. -/
theorem read_back_iff (hverify : options.verifyAfterWrite = true)
    (h : Commissions address options p) :
    ReadBack address options p e ↔ ReadsRequested address options p e := by
  constructor
  · intro hread op subnet device mode hverifies
    obtain ⟨-, -, hsteps⟩ := h op hverifies.operation
    obtain ⟨result, hresult, haddress, hmode⟩ :=
      poll_of_verifies hverifies (hsteps hverifies.phase hverifies.planActive)
    obtain ⟨haddress', hmode'⟩ := hread result hresult
    obtain ⟨hsubnet, hdevice⟩ := makeIndividualAddress_eq_iff.mp (haddress.symm.trans haddress')
    exact ⟨hsubnet, hdevice, hmode.symm.trans hmode'⟩
  · intro hrequested result hresult
    cases hop : p.operation with
    | none =>
      unfold pollCommissionIndividualAddress at hresult
      simp [hop] at hresult
    | some op =>
      obtain ⟨htarget, hoptions, hsteps⟩ := h op hop
      cases hphase : op.phase with
      | readingIdentityAfter =>
        obtain ⟨subnet, device, mode, hverifies, haddress, hmode⟩ :=
          poll_verification hop hphase (hsteps hphase) hresult
        obtain ⟨hsubnet, hdevice, hrequestedMode⟩ := hrequested op subnet device mode hverifies
        exact ⟨haddress.trans (makeIndividualAddress_eq_iff.mpr ⟨hsubnet, hdevice⟩),
          hmode.trans hrequestedMode⟩
      | executingAddressPlan =>
        -- A verifying commissioning goes on to read the identity again.
        unfold pollCommissionIndividualAddress at hresult
        simp only [hop, hphase] at hresult
        split at hresult
        · cases hresult
        · obtain ⟨read', -, hnext⟩ := pollPhase_eq_success.mp hresult
          simp only [hoptions, hverify, Bool.true_eq_false, if_false] at hnext
          split at hnext
          · cases hnext
          · cases hnext
      | readingIdentityBefore =>
        -- Here success means that nothing had to be written.
        unfold pollCommissionIndividualAddress at hresult
        simp only [hop, hphase] at hresult
        split at hresult
        · cases hresult
        · obtain ⟨read', -, hnext⟩ := pollPhase_eq_success.mp hresult
          split at hnext
          · cases hnext
          · split at hnext
            · rename_i hsame
              cases hnext
              rw [htarget, hoptions] at hsame
              exact hsame
            · split at hnext
              · cases hnext
              · cases hnext

end Procedures

/-! ## Success is truthful where the server is -/

/-- Along every run of the client its successes are confirmations of what was requested exactly
when the server answers what it is asked; along every run of a verifying commissioning, success
means that the requested address and mode were read back exactly when they are the ones received. -/
theorem success_truthful_iff (s : Asking) (calls : List (Call × Env)) (p p' : Procedures) (e : Env)
    (address : IndividualAddress) (options : CommissionOptions) (polls : List Env) :
    (Along Asking.step Confirmed s calls ↔ Along Asking.step AnswersRequest s calls)
    ∧ (options.verifyAfterWrite = true →
      p.beginCommissionIndividualAddress e address options = (p', .ok ()) →
      (Along Procedures.step (Procedures.ReadBack address options) p' polls
        ↔ Along Procedures.step (Procedures.ReadsRequested address options) p' polls)) := by
  constructor
  · have hstep : ∀ (s : Asking) (call : Call × Env), True → Confirmed s call → True :=
      fun _ _ _ _ => trivial
    exact along_iff_along hstep (fun s call _ => confirmed_iff s call) trivial calls
  · intro hverify hbegin
    exact along_iff_along (fun _ _ h _ => Procedures.commissions_step h)
      (fun _ _ h => Procedures.read_back_iff hverify h)
      (Procedures.commissions_begin hbegin) polls

/-- A client on channel 7 of a server, at the sequence counter 0. -/
def connectedClient : Client where
  isOpen := true
  remote := ⟨0xC0A80001, 3671⟩
  isSessionBound := false
  connection := ⟨7, 0⟩
  bufferSize := 2048

/-- A commissioning tool over that client. -/
def commissioner : Procedures where
  workflow := { isOpen := true, client := connectedClient }

/-- A confirmation that waits: message code, sequence counter, property, element count with the
start index 1, and data. -/
def confirmationOf (messageCode sequenceCounter propertyId countStart : UInt8) (data : List UInt8) :
    Env where
  nowMs := 0
  acquireHeader := .error .notInitialized
  send := fun _ => .ok ()
  waiting := some (.ok ⟨⟨0xC0A80001, 3671⟩, encodeHeader 0x0311 (11 + data.length)
    ++ [0x04, 7, sequenceCounter, 0, messageCode, 0, 11, 1, propertyId, countStart, 1] ++ data⟩)

/-- A device at 1.1.255 is to become 1.1.7. It refuses the subnet and the device octet with the
negative element count 0, and reads back as 1.1.255. -/
def refusingDevice : List Env :=
  [confirmationOf 0xFB 0 12 0x10 [0x00, 0x01], confirmationOf 0xFB 1 57 0x10 [0x11],
    confirmationOf 0xFB 2 58 0x10 [0xFF], confirmationOf 0xFB 3 54 0x10 [0x01],
    confirmationOf 0xF5 4 57 0x00 [0x07], confirmationOf 0xF5 5 58 0x00 [0x07],
    confirmationOf 0xF5 6 54 0x10 [],
    confirmationOf 0xFB 7 12 0x10 [0x00, 0x01], confirmationOf 0xFB 8 57 0x10 [0x11],
    confirmationOf 0xFB 9 58 0x10 [0xFF]]

/-- A write that the server refuses is reported as a success, and so is the commissioning of an
address that the device does not have afterwards. -/
theorem refusal_reported_as_success :
    (∃ (s : Asking) (call : Call × Env), ¬ Confirmed (s.step
        (.beginWriteProperty devicePropertyTarget [0x07] 16 1000, call.2)) call)
    ∧ ∃ p' : Procedures, commissioner.beginCommissionIndividualAddress
        (confirmationOf 0xFB 0 12 0x10 []) ⟨0x1107⟩ {} = (p', .ok ())
      ∧ ¬ Procedures.ReadBack ⟨0x1107⟩ {} (run Procedures.step p' refusingDevice)
        (confirmationOf 0xFB 10 54 0x10 [0x00]) := by
  constructor
  · refine ⟨⟨connectedClient, {}⟩, (.pollWriteProperty, confirmationOf 0xF5 0 58 0x00 [0x07]), ?_⟩
    intro h
    have hconfirmed := h ⟨⟨7, 0⟩, { devicePropertyTarget with elementCount := 0 }⟩ (by decide)
    revert hconfirmed
    decide
  · refine ⟨_, rfl, ?_⟩
    intro h
    have hread := h ⟨⟨1, ⟨0x11FF⟩, .enable⟩, ⟨1, ⟨0x11FF⟩, .disable⟩, false, true⟩ (by decide)
    revert hread
    decide

/-- The polls of that commissioning: they are truthful exactly when the octets received are. -/
theorem refusing_device_truthful_iff :
    (commissioner.beginCommissionIndividualAddress (confirmationOf 0xFB 0 12 0x10 []) ⟨0x1107⟩
      {}).2 = .ok ()
    ∧ (Along Procedures.step (Procedures.ReadBack ⟨0x1107⟩ {})
        (commissioner.beginCommissionIndividualAddress (confirmationOf 0xFB 0 12 0x10 [])
          ⟨0x1107⟩ {}).1 refusingDevice
      ↔ Along Procedures.step (Procedures.ReadsRequested ⟨0x1107⟩ {})
        (commissioner.beginCommissionIndividualAddress (confirmationOf 0xFB 0 12 0x10 [])
          ⟨0x1107⟩ {}).1 refusingDevice) :=
  ⟨rfl, (success_truthful_iff ⟨connectedClient, {}⟩ [] commissioner _
    (confirmationOf 0xFB 0 12 0x10 []) ⟨0x1107⟩ {} refusingDevice).2 rfl rfl⟩

end KnxStack.Netip.DeviceManagement
