import KnxStack.Bau.ManagementServices
import KnxStack.Lib.Unwinding

/-!
# Keys against traffic that is not the tool's

What a device in Security Mode does with a frame that did not come with Tool Access security: it
leaves the Security Interface Object as it is, and its answer is the same whichever keys are stored.

Two mechanisms carry this. The services that write are refused as a whole, whatever they address.
The services that read ask the access policy first, and the properties that it admits hold no key;
`SameButKeys` is what two objects share when they differ in keys alone, and every such property is
read alike from both.

`Confined` says both things of one service. Each service that is not refused has a lemma of that
form, and the dispatcher collects them.
-/

set_option autoImplicit false

namespace KnxStack.Objects

open KnxStack.Application

/-! ## Objects that differ in their keys -/

/-- The properties whose octets are keys. -/
def SecurityProperty.holdsKeys : SecurityProperty → Bool
  | .p2pKeyTable | .groupKeyTable | .zoneKeyTable | .toolKey => true
  | _ => false

/-- Two objects that are the same but for the keys: the Tool Key, the keys found by address and the
tables that they come from. -/
structure SameButKeys (o o' : SecurityInterfaceObject) : Prop where
  securityMode : o'.securityMode = o.securityMode
  sendingSequence : o'.sendingSequence = o.sendingSequence
  toolAccessSequence : o'.toolAccessSequence = o.toolAccessSequence
  peerSequences : o'.peerSequences = o.peerSequences
  sequenceStateDirty : o'.sequenceStateDirty = o.sequenceStateDirty
  lastFailure : o'.lastFailure = o.lastFailure
  failureCount : o'.failureCount = o.failureCount
  lastFailureSource : o'.lastFailureSource = o.lastFailureSource
  extraProperties : ∀ p, p.holdsKeys = false → o'.extraProperties p = o.extraProperties p
  loadState : o'.loadState = o.loadState

namespace SameButKeys

variable {o o' : SecurityInterfaceObject}

theorem isSecurityEnabled (h : SameButKeys o o') : o'.isSecurityEnabled = o.isSecurityEnabled := by
  rw [SecurityInterfaceObject.isSecurityEnabled, SecurityInterfaceObject.isSecurityEnabled,
    h.securityMode]

theorem readElements (h : SameButKeys o o') {p : SecurityProperty} (hp : p.holdsKeys = false)
    (handler : PropertyHandler) (start elementCount : Nat) :
    o'.readElements p handler start elementCount = o.readElements p handler start elementCount := by
  have hextra := h.extraProperties p hp
  cases p with
  | p2pKeyTable | groupKeyTable | zoneKeyTable | toolKey => cases hp
  | objectType | objectName => rfl
  | loadStateControl => simp only [SecurityInterfaceObject.readElements, h.loadState]
  | securityMode => simp only [SecurityInterfaceObject.readElements, h.securityMode]
  | sequenceNumberSending =>
    simp only [SecurityInterfaceObject.readElements, h.sendingSequence]
  | securityFailuresLog =>
    simp only [SecurityInterfaceObject.readElements, h.lastFailure, h.failureCount,
      h.lastFailureSource]
  | securityIndividualAddressTable | securityReport | securityReportControl | goSecurityFlags =>
    simp only [SecurityInterfaceObject.readElements, hextra]

theorem readProperty (h : SameButKeys o o') {p : SecurityProperty} (hp : p.holdsKeys = false)
    (startIndex elementCount : Nat) :
    o'.readProperty p startIndex elementCount = o.readProperty p startIndex elementCount := by
  simp only [SecurityInterfaceObject.readProperty, SecurityInterfaceObject.propertyElementCount,
    h.extraProperties p hp, h.readElements hp]

end SameButKeys

/-- What the policy lets anyone read holds no key. The identifier of an extended request has twelve
bits, and the property it selects is that of the low eight. -/
theorem not_holdsKeys_of_permitted {propertyId : UInt16} {security : RequestSecurity}
    {p : SecurityProperty} (htool : security.toolSecured = false)
    (hpermitted : securityObjectAccessPermitted propertyId false security = true)
    (hp : SecurityProperty.ofPid propertyId.toUInt8 = some p) : p.holdsKeys = false := by
  simp only [securityObjectAccessPermitted, htool, Bool.false_eq_true, if_false,
    decide_eq_true_eq, List.mem_cons, List.not_mem_nil, or_false] at hpermitted
  rcases hpermitted with rfl | rfl | rfl | rfl | rfl | rfl | rfl
  all_goals
    cases hp
  all_goals rfl

end KnxStack.Objects

namespace KnxStack.Bau

open KnxStack.Application KnxStack.Lib KnxStack.Objects
open KnxStack.Transport (TDataFrame)

variable {σ : Type}

namespace ManagedDevice

/-! ## Devices that differ in their keys -/

/-- The device with another Security Interface Object and another content of the store. -/
def withKeys (d : ManagedDevice σ) (o : SecurityInterfaceObject) (store : Store) : ManagedDevice σ :=
  { d with device := { d.device with security := o, store := store } }

/-- Two devices that are the same but for the keys, which the store holds as well. -/
structure SameButKeys (d d' : ManagedDevice σ) : Prop where
  security : Objects.SameButKeys d.security d'.security
  rest : d' = d.withKeys d'.security d'.device.store

/-- A service that is confined: it leaves what is kept of the device as it is, and where the keys
are others, it does the same and answers with the same octets. -/
structure Confined (service : ManagedDevice σ → ManagedDevice σ × List TDataFrame)
    (d : ManagedDevice σ) : Prop where
  device : (service d).1.device = d.device
  indifferent : ∀ o store, Objects.SameButKeys d.security o →
    service (d.withKeys o store) = ((service d).1.withKeys o store, (service d).2)

theorem confined_of_answer {answer : ManagedDevice σ → List TDataFrame} {d : ManagedDevice σ}
    (h : ∀ o store, Objects.SameButKeys d.security o → answer (d.withKeys o store) = answer d) :
    Confined (fun d => (d, answer d)) d := by
  refine ⟨rfl, ?_⟩
  intro o store hsame
  dsimp only
  rw [h o store hsame]

theorem confined_of_blind {answer : ManagedDevice σ → List TDataFrame} {d : ManagedDevice σ}
    (h : ∀ o store, answer (d.withKeys o store) = answer d) :
    Confined (fun d => (d, answer d)) d :=
  confined_of_answer fun o store _ => h o store

theorem confined_of_withKeys {service : ManagedDevice σ → ManagedDevice σ × List TDataFrame}
    {d : ManagedDevice σ} (answer : List TDataFrame)
    (h : ∀ o store, service (d.withKeys o store) = (d.withKeys o store, answer)) :
    Confined service d := by
  have hself : service d = (d, answer) := h d.security d.device.store
  constructor
  · rw [hself]
  · intro o store _
    rw [h o store, hself]

variable (backend : Backend σ) {d : ManagedDevice σ} {frame : ADataFrame}

/-! ## Reading properties -/

theorem resolveObjectType_of_resolveObject {objectType objectInstance : UInt16} {objectIndex : UInt8}
    (h : d.resolveObject objectType objectInstance = some objectIndex) :
    d.resolveObjectType objectIndex = some objectType := by
  rw [resolveObject] at h
  split at h
  · cases h
  · rename_i hbound
    obtain ⟨index, hindex, rfl⟩ := Option.map_eq_some_iff.mp h
    have hmem := List.mem_of_getElem? hindex
    rw [List.mem_filter, List.mem_range, beq_iff_eq] at hmem
    have hsmall : (UInt8.ofNat index).toNat = index := by
      rw [UInt8.toNat_ofNat']
      omega
    rw [resolveObjectType, hsmall]
    exact hmem.2

theorem readProvider_withKeys (htool : frame.security.toolSecured = false) {objectIndex : UInt8}
    {objectType propertyId : UInt16} (hindex : d.resolveObjectType objectIndex = some objectType)
    (hpermitted : isPropertyAccessPermitted objectType propertyId false frame.security = true)
    {o : SecurityInterfaceObject} (store : Store) (hsame : Objects.SameButKeys d.security o)
    (startIndex elementCount : Nat) :
    (d.withKeys o store).readProvider backend objectIndex propertyId.toUInt8 startIndex elementCount
      = d.readProvider backend objectIndex propertyId.toUInt8 startIndex elementCount := by
  have hindex' : (d.withKeys o store).resolveObjectType objectIndex = some objectType := hindex
  rw [readProvider, readProvider, hindex, hindex']
  dsimp only
  rw [readProperty, readProperty]
  by_cases hobject : objectType = securityInterfaceObjectType
  · rw [if_pos hobject, if_pos hobject]
    rw [isPropertyAccessPermitted, if_pos hobject] at hpermitted
    cases hp : SecurityProperty.ofPid propertyId.toUInt8 with
    | none => rfl
    | some p => exact hsame.readProperty (not_holdsKeys_of_permitted htool hpermitted hp) _ _
  · -- the other objects are no part of what differs
    rw [if_neg hobject, if_neg hobject]
    rfl

theorem readProvider_withKeys_of_accessCheck (htool : frame.security.toolSecured = false)
    {objectIndex propertyId : UInt8}
    (hpermitted : d.accessCheck frame objectIndex propertyId false = true)
    {o : SecurityInterfaceObject} (store : Store) (hsame : Objects.SameButKeys d.security o)
    (startIndex elementCount : Nat) :
    (d.withKeys o store).readProvider backend objectIndex propertyId startIndex elementCount
      = d.readProvider backend objectIndex propertyId startIndex elementCount := by
  rw [accessCheck] at hpermitted
  cases hindex : d.resolveObjectType objectIndex with
  | none =>
    have hindex' : (d.withKeys o store).resolveObjectType objectIndex = none := hindex
    rw [readProvider, readProvider, hindex, hindex']
  | some objectType =>
    rw [hindex] at hpermitted
    have hread := readProvider_withKeys backend htool hindex hpermitted store hsame startIndex
      elementCount
    rwa [UInt8.toUInt8_toUInt16] at hread

theorem handleValueRead_withKeys (htool : frame.security.toolSecured = false)
    (request : PropertyValueRequest) {o : SecurityInterfaceObject} (store : Store)
    (hsame : Objects.SameButKeys d.security o) :
    (d.withKeys o store).handleValueRead backend frame request
      = d.handleValueRead backend frame request := by
  have haccess : (d.withKeys o store).accessCheck frame request.objectIndex request.propertyId false
      = d.accessCheck frame request.objectIndex request.propertyId false := rfl
  rw [handleValueRead, handleValueRead, haccess]
  cases hpermitted : d.accessCheck frame request.objectIndex request.propertyId false with
  | false => rfl
  | true =>
    rw [readProvider_withKeys_of_accessCheck backend htool hpermitted store hsame]
    rfl

theorem confined_handlePropertyValueRead (htool : frame.security.toolSecured = false) :
    Confined (fun d => (d, d.handlePropertyValueRead backend frame)) d := by
  refine confined_of_answer ?_
  intro o store hsame
  rw [handlePropertyValueRead, handlePropertyValueRead]
  cases PropertyValueRequest.decode frame.data with
  | none => rfl
  | some request => exact handleValueRead_withKeys backend htool request store hsame

theorem readExtValue_withKeys (htool : frame.security.toolSecured = false)
    {request : PropertyExtValueRequest} {objectIndex : UInt8}
    (hindex : d.resolveObjectType objectIndex = some request.header.objectType)
    (hpermitted : isPropertyAccessPermitted request.header.objectType request.header.propertyId false
      frame.security = true)
    (descriptor : PropertyDescriptor) {o : SecurityInterfaceObject} (store : Store)
    (hsame : Objects.SameButKeys d.security o) :
    (d.withKeys o store).readExtValue backend frame request objectIndex descriptor
      = d.readExtValue backend frame request objectIndex descriptor := by
  have hread : ∀ startIndex elementCount,
      (d.withKeys o store).readProvider backend objectIndex request.header.narrowPropertyId
          startIndex elementCount
        = d.readProvider backend objectIndex request.header.narrowPropertyId startIndex
          elementCount :=
    readProvider_withKeys backend htool hindex hpermitted store hsame
  simp only [readExtValue, currentElements, hread]
  rfl

theorem confined_handlePropertyExtValueRead (htool : frame.security.toolSecured = false) :
    Confined (fun d => (d, d.handlePropertyExtValueRead backend frame)) d := by
  refine confined_of_answer ?_
  intro o store hsame
  rw [handlePropertyExtValueRead, handlePropertyExtValueRead]
  cases PropertyExtValueRequest.decode frame.data with
  | none => rfl
  | some request =>
    have hresolve : (d.withKeys o store).resolveObject request.header.objectType
        request.header.objectInstance
        = d.resolveObject request.header.objectType request.header.objectInstance := rfl
    dsimp only
    rw [handleExtValueRead, handleExtValueRead, hresolve]
    cases hindex : d.resolveObject request.header.objectType request.header.objectInstance with
    | none => rfl
    | some objectIndex =>
      cases hpermitted : isPropertyAccessPermitted request.header.objectType
          request.header.propertyId false frame.security with
      | false => rfl
      | true =>
        have htype := resolveObjectType_of_resolveObject hindex
        have hread := fun descriptor =>
          readExtValue_withKeys backend htool htype hpermitted descriptor store hsame
        simp only [hread]
        rfl

/-! ## Function properties -/

/-- Reading the state of a function property of the Security Interface Object changes nothing, and
what it reports is its mode or its load state. -/
theorem handleSecurityFunctionProperty_stateRead {request : FunctionPropertyRequest}
    (hread : request.invocation = .stateRead) {o o' : SecurityInterfaceObject}
    (hsame : Objects.SameButKeys o o') (source : IndividualAddress) :
    (handleSecurityFunctionProperty o source request).1 = o
      ∧ handleSecurityFunctionProperty o' source request
        = (o', (handleSecurityFunctionProperty o source request).2) := by
  have hrefused : ¬ ((request.propertyId = SecurityProperty.loadStateControl.pid
        ∨ request.propertyId = SecurityProperty.securityMode.pid)
      ∧ request.invocation = .command ∧ request.security.toolSecured = false) := by
    rw [hread]
    rintro ⟨-, hcommand, -⟩
    cases hcommand
  rw [handleSecurityFunctionProperty, handleSecurityFunctionProperty, if_neg hrefused,
    if_neg hrefused, hread, hsame.loadState]
  split
  · exact ⟨rfl, rfl⟩
  · split
    · exact ⟨rfl, rfl⟩
    · rcases request.data with _ | ⟨reserved, _ | ⟨serviceId, serviceInfo⟩⟩
      · exact ⟨rfl, rfl⟩
      · exact ⟨rfl, rfl⟩
      · dsimp only
        rw [hsame.isSecurityEnabled]
        split
        · exact ⟨rfl, rfl⟩
        · exact ⟨rfl, rfl⟩

/-- The flags of the group objects are no keys, and nothing else of the Security Interface Object is
in a configuration. -/
theorem groupObjectConfig_withKeys {o : SecurityInterfaceObject} (store : Store)
    (hsame : Objects.SameButKeys d.security o) (goNumber : UInt16) (object : GroupObject) :
    (d.withKeys o store).groupObjectConfig backend goNumber object
      = d.groupObjectConfig backend goNumber object := by
  have hflags : (d.withKeys o store).security.extraProperties .goSecurityFlags
      = d.security.extraProperties .goSecurityFlags := hsame.extraProperties .goSecurityFlags rfl
  rw [groupObjectConfig, groupObjectConfig, hflags]
  rfl

theorem readGroupObjectDiagnostics_withKeys {o : SecurityInterfaceObject} (store : Store)
    (hsame : Objects.SameButKeys d.security o) (serviceId : UInt8) (serviceInfo : List UInt8) :
    (d.withKeys o store).readGroupObjectDiagnostics backend serviceId serviceInfo
      = d.readGroupObjectDiagnostics backend serviceId serviceInfo := by
  have hresolve : (d.withKeys o store).resolveGroupObject backend serviceInfo
      = d.resolveGroupObject backend serviceInfo := rfl
  simp only [readGroupObjectDiagnostics, hresolve, groupObjectConfig_withKeys backend store hsame]

theorem handleFunctionProperty_stateRead (source : IndividualAddress) (objectType : UInt16)
    {request : FunctionPropertyRequest} (hread : request.invocation = .stateRead) :
    (d.handleFunctionProperty backend source objectType request).1.device = d.device
      ∧ ∀ o store, Objects.SameButKeys d.security o →
        (d.withKeys o store).handleFunctionProperty backend source objectType request
          = ((d.handleFunctionProperty backend source objectType request).1.withKeys o store,
            (d.handleFunctionProperty backend source objectType request).2) := by
  by_cases hsecurity : objectType = securityInterfaceObjectType
  · -- the Security Interface Object itself
    have hself := handleSecurityFunctionProperty_stateRead hread
      (⟨rfl, rfl, rfl, rfl, rfl, rfl, rfl, rfl, fun _ _ => rfl, rfl⟩ :
        Objects.SameButKeys d.security d.security) source
    constructor
    · rw [handleFunctionProperty, if_pos hsecurity]
      dsimp only
      rw [hself.1]
      rfl
    · intro o store hsame
      have hother := (handleSecurityFunctionProperty_stateRead hread hsame source).2
      rw [handleFunctionProperty, handleFunctionProperty, if_pos hsecurity, if_pos hsecurity]
      have hsecurity' : (d.withKeys o store).security = o := rfl
      rw [hsecurity', hother]
      rfl
  · by_cases hrouter : objectType = 6
    · rw [handleFunctionProperty, if_neg hsecurity, if_pos hrouter]
      refine ⟨rfl, ?_⟩
      intro o store _
      rw [handleFunctionProperty, if_neg hsecurity, if_pos hrouter]
      rfl
    · by_cases hgroup : objectType = 9
      · have hdiagnostics : ∀ d : ManagedDevice σ,
            d.handleFunctionProperty backend source objectType request
              = d.handleGroupObjectDiagnostics backend request := by
          intro d
          rw [handleFunctionProperty, if_neg hsecurity, if_neg hrouter, if_pos hgroup]
        simp only [hdiagnostics, handleGroupObjectDiagnostics, hread]
        split
        · exact ⟨rfl, fun _ _ _ => rfl⟩
        · rcases request.data with _ | ⟨reserved, _ | ⟨serviceId, serviceInfo⟩⟩
          · exact ⟨rfl, fun _ _ _ => rfl⟩
          · exact ⟨rfl, fun _ _ _ => rfl⟩
          · refine ⟨rfl, ?_⟩
            intro o store hsame
            dsimp only
            rw [readGroupObjectDiagnostics_withKeys backend store hsame]
      · rw [handleFunctionProperty, if_neg hsecurity, if_neg hrouter, if_neg hgroup]
        refine ⟨rfl, ?_⟩
        intro o store _
        rw [handleFunctionProperty, if_neg hsecurity, if_neg hrouter, if_neg hgroup]

/-- A service is confined if all it does is to read the state of a function property and to answer
with the result. -/
theorem confined_of_stateRead {service : ManagedDevice σ → ManagedDevice σ × List TDataFrame}
    (source : IndividualAddress) (objectType : UInt16) (request : FunctionPropertyRequest)
    (hread : request.invocation = .stateRead)
    (answer : Option FunctionPropertyResult → List TDataFrame)
    (hservice : ∀ o store, service (d.withKeys o store)
      = (((d.withKeys o store).handleFunctionProperty backend source objectType request).1,
        ((d.withKeys o store).handleFunctionProperty backend source objectType request).2.2
          ++ answer
            ((d.withKeys o store).handleFunctionProperty backend source objectType request).2.1)) :
    Confined service d := by
  obtain ⟨hdevice, hindifferent⟩ :=
    handleFunctionProperty_stateRead (d := d) backend source objectType hread
  have hself : service d
      = ((d.handleFunctionProperty backend source objectType request).1,
        (d.handleFunctionProperty backend source objectType request).2.2
          ++ answer (d.handleFunctionProperty backend source objectType request).2.1) :=
    hservice d.security d.device.store
  constructor
  · rw [hself]
    exact hdevice
  · intro o store hsame
    rw [hservice o store, hself, hindifferent o store hsame]

theorem confined_handleFunctionPropertyService :
    Confined (fun d => d.handleFunctionPropertyService backend frame .stateRead) d := by
  rcases hdata : frame.data with _ | ⟨objectIndex, _ | ⟨propertyId, input⟩⟩
  · simp only [handleFunctionPropertyService, hdata]
    exact confined_of_blind fun _ _ => rfl
  · simp only [handleFunctionPropertyService, hdata]
    exact confined_of_blind fun _ _ => rfl
  · simp only [handleFunctionPropertyService, hdata]
    by_cases hlong : maxFunctionPropertyDataBytes < input.length
    · simp only [if_pos hlong]
      exact confined_of_blind fun _ _ => rfl
    · simp only [if_neg hlong]
      cases hindex : d.resolveObjectType objectIndex with
      | none =>
        have hindex' : ∀ o store, (d.withKeys o store).resolveObjectType objectIndex = none :=
          fun _ _ => hindex
        refine confined_of_withKeys
          (d.sendToIndividual frame .functionPropertyStateResponse [objectIndex, propertyId]) ?_
        intro o store
        rw [hindex' o store]
        rfl
      | some objectType =>
        have hindex' : ∀ o store,
            (d.withKeys o store).resolveObjectType objectIndex = some objectType :=
          fun _ _ => hindex
        refine confined_of_stateRead backend frame.source objectType
          ⟨propertyId, .stateRead, input, frame.security⟩ rfl
          (fun result => d.sendToIndividual frame .functionPropertyStateResponse
            (result.elim [objectIndex, propertyId] fun result =>
              [objectIndex, propertyId, result.returnCode.code] ++ result.data)) ?_
        intro o store
        rw [hindex' o store]
        dsimp only
        generalize handleFunctionProperty backend (d.withKeys o store) frame.source objectType
          ⟨propertyId, .stateRead, input, frame.security⟩ = handled
        obtain ⟨d', _ | result, frames⟩ := handled <;> rfl

theorem confined_handleFunctionPropertyExt :
    Confined (fun d => d.handleFunctionPropertyExt backend frame .stateRead) d := by
  rcases hdata : frame.data with
    _ | ⟨octet0, _ | ⟨octet1, _ | ⟨octet2, _ | ⟨octet3, _ | ⟨octet4, input⟩⟩⟩⟩⟩
  case cons.cons.cons.cons.cons =>
    generalize hheader : PropertyExtHeader.decode octet0 octet1 octet2 octet3 octet4 = header
    simp only [handleFunctionPropertyExt, hdata, hheader]
    cases header.fieldsInRange with
    | false => exact confined_of_blind fun _ _ => rfl
    | true =>
      cases hindex : d.resolveObject header.objectType header.objectInstance with
      | none =>
        have hindex' : ∀ o store,
            (d.withKeys o store).resolveObject header.objectType header.objectInstance = none :=
          fun _ _ => hindex
        refine confined_of_withKeys
          (d.sendToIndividual frame .functionPropertyExtStateResponse
            (header.encode ++ [KnxReturnCode.addressVoid.code])) ?_
        intro o store
        rw [hindex' o store]
        rfl
      | some objectIndex =>
        have hindex' : ∀ o store,
            (d.withKeys o store).resolveObject header.objectType header.objectInstance
              = some objectIndex :=
          fun _ _ => hindex
        by_cases hlong : maxFunctionPropertyDataBytes < input.length
        · refine confined_of_withKeys
            (d.sendToIndividual frame .functionPropertyExtStateResponse
              (header.encode ++ [KnxReturnCode.exceedsMaxApduLength.code])) ?_
          intro o store
          rw [hindex' o store]
          dsimp only
          rw [if_pos hlong]
          rfl
        · refine confined_of_stateRead backend frame.source header.objectType
            ⟨header.narrowPropertyId, .stateRead, input, frame.security⟩ rfl
            (fun result => result.elim
              (d.sendToIndividual frame .functionPropertyExtStateResponse
                (header.encode ++ [KnxReturnCode.dataTypeConflict.code]))
              fun result => d.sendToIndividual frame .functionPropertyExtStateResponse
                (header.encode
                  ++ (translateFunctionPropertyReturnCode result.returnCode).code :: result.data)) ?_
          intro o store
          rw [hindex' o store]
          dsimp only
          rw [if_neg hlong]
          generalize handleFunctionProperty backend (d.withKeys o store) frame.source
            header.objectType ⟨header.narrowPropertyId, .stateRead, input, frame.security⟩ = handled
          obtain ⟨d', _ | result, frames⟩ := handled <;> rfl
  all_goals
    simp only [handleFunctionPropertyExt, hdata]
    exact confined_of_blind fun _ _ => rfl

/-! ## Dispatch -/

theorem confined_forwardToUser : Confined (fun d => (d.forwardToUser backend frame, [])) d :=
  ⟨rfl, fun _ _ _ => rfl⟩

theorem confined_dispatchService (htool : frame.security.toolSecured = false)
    (hwrite : isManagementWriteService frame.service = false) :
    Confined (fun d => d.dispatchService backend frame) d := by
  cases hservice : frame.service
  case propertyValueWrite | propertyExtValueWriteCon | propertyExtValueWriteUnCon
      | functionPropertyCommand | functionPropertyExtCommand | memoryWrite | memoryExtendedWrite
      | individualAddressWrite | individualAddressSerialNumberWrite | networkParameterWrite
      | systemNetworkParameterWrite | authorizeRequest | keyWrite | restart =>
    rw [hservice] at hwrite
    cases hwrite
  all_goals simp only [dispatchService, hservice]
  case propertyValueRead => exact confined_handlePropertyValueRead backend htool
  case propertyExtValueRead => exact confined_handlePropertyExtValueRead backend htool
  case functionPropertyStateRead => exact confined_handleFunctionPropertyService backend
  case functionPropertyExtStateRead => exact confined_handleFunctionPropertyExt backend
  -- these answer from other parts of the device
  case deviceDescriptorRead | propertyDescriptionRead | propertyExtDescriptionRead
      | memoryExtendedRead | memoryRead | adcRead | individualAddressRead
      | systemNetworkParameterRead | individualAddressSerialNumberRead | networkParameterRead =>
    exact confined_of_blind fun _ _ => rfl
  all_goals exact confined_forwardToUser backend

theorem isRequestPermitted_withKeys {o : SecurityInterfaceObject} (store : Store)
    (hsame : Objects.SameButKeys d.security o) :
    (d.withKeys o store).isRequestPermitted frame = d.isRequestPermitted frame := by
  have hsecurity : (d.withKeys o store).security = o := rfl
  rw [isRequestPermitted, isRequestPermitted, hsecurity, hsame.isSecurityEnabled]

theorem security_of_decodeTransportRx {frame : TDataFrame} {aFrame : ADataFrame}
    (h : decodeTransportRx frame = some aFrame) : aFrame.security = frame.security := by
  rw [decodeTransportRx] at h
  split at h
  · cases h
    rfl
  · cases h

theorem confined_handleTransportRx {frame : TDataFrame} (htool : frame.security.toolSecured = false)
    (hmode : d.security.isSecurityEnabled = true) :
    Confined (fun d => d.handleTransportRx backend frame) d := by
  cases hdecode : decodeTransportRx frame with
  | none =>
    simp only [handleTransportRx, hdecode]
    exact confined_of_blind fun _ _ => rfl
  | some aFrame =>
    have htool' : aFrame.security.toolSecured = false := by
      rw [security_of_decodeTransportRx hdecode]
      exact htool
    simp only [handleTransportRx, hdecode]
    cases hpermitted : d.isRequestPermitted aFrame with
    | false =>
      -- refused, whichever keys are stored
      constructor
      · simp only [hpermitted, Bool.false_eq_true, if_false]
      · intro o store hsame
        simp only [isRequestPermitted_withKeys store hsame, hpermitted, Bool.false_eq_true, if_false]
    | true =>
      have hwrite : isManagementWriteService aFrame.service = false := by
        rw [isRequestPermitted, hmode] at hpermitted
        exact not_isManagementWriteService_of_permitted htool' hpermitted
      obtain ⟨hdevice, hindifferent⟩ := confined_dispatchService (d := d) backend htool' hwrite
      constructor
      · simp only [hpermitted, if_true]
        exact hdevice
      · intro o store hsame
        simp only [isRequestPermitted_withKeys store hsame, hpermitted, if_true]
        exact hindifferent o store hsame

theorem security_handleTransportRx {frame : TDataFrame} (htool : frame.security.toolSecured = false)
    (hmode : d.security.isSecurityEnabled = true) :
    (d.handleTransportRx backend frame).1.security = d.security := by
  rw [security, (confined_handleTransportRx backend htool hmode).device]
  rfl

theorem SameButKeys.handleTransportRx {d' : ManagedDevice σ} (hsame : SameButKeys d d')
    {frame : TDataFrame} (htool : frame.security.toolSecured = false)
    (hmode : d.security.isSecurityEnabled = true) :
    d'.handleTransportRx backend frame
      = ((d.handleTransportRx backend frame).1.withKeys d'.security d'.device.store,
        (d.handleTransportRx backend frame).2) := by
  have hanswer := (confined_handleTransportRx backend htool hmode).indifferent d'.security
    d'.device.store hsame.security
  rwa [← hsame.rest] at hanswer

/-! ## What holds of frames that are not the tool's -/

/-- Integrity and confidentiality of keys. A device in Security Mode that receives a frame
without Tool Access security keeps its Security Interface Object, with its key tables, its Tool Key,
its mode, its address table and its load state; and what it answers is what a device would answer
that differs from it in the stored keys alone. -/
theorem keys_kept_and_secret (d d' : ManagedDevice σ) (frame : TDataFrame)
    (hmode : d.security.isSecurityEnabled = true) (htool : frame.security.toolSecured = false)
    (hsame : SameButKeys d d') :
    (d.handleTransportRx backend frame).1.security = d.security
      ∧ (d'.handleTransportRx backend frame).2 = (d.handleTransportRx backend frame).2 := by
  refine ⟨security_handleTransportRx backend htool hmode, ?_⟩
  rw [hsame.handleTransportRx backend htool hmode]

/-- A device in Security Mode with the given Tool Key, and nothing behind it. -/
def sampleSecured (toolKey : Key) : ManagedDevice Unit :=
  { device := { security := { securityMode := 1, toolKey := toolKey } }, others := () }

/-- A plain A_PropertyValue_Read of one element of PID_TOOL_KEY. -/
def readToolKeyFrame : TDataFrame :=
  { service := .individual
    source := ⟨0x1101⟩
    destination := ⟨0x1102⟩
    destinationType := .individual
    tpdu := ⟨[0x03, 0xD5, 5, 56, 0x10, 0x01], by decide⟩ }

/-- A read of the Tool Key in plain is answered without elements, and with the same octets whichever
key is stored. -/
theorem keys_kept_and_secret_of_plain_read :
    ((sampleSecured (List.replicate 16 7)).handleTransportRx {} readToolKeyFrame).1.security.toolKey
        = List.replicate 16 7
      ∧ ((sampleSecured (List.replicate 16 9)).handleTransportRx {} readToolKeyFrame).2
        = ((sampleSecured (List.replicate 16 7)).handleTransportRx {} readToolKeyFrame).2
      ∧ ((sampleSecured (List.replicate 16 7)).handleTransportRx {} readToolKeyFrame).2.map
          (fun frame => frame.tpdu.data) = [[0x03, 0xD6, 5, 56, 0x00, 0x01]] := by
  have hkept := keys_kept_and_secret {} (sampleSecured (List.replicate 16 7))
    (sampleSecured (List.replicate 16 9)) readToolKeyFrame rfl rfl
    ⟨⟨rfl, rfl, rfl, rfl, rfl, rfl, rfl, rfl, fun _ _ => rfl, rfl⟩, rfl⟩
  refine ⟨?_, hkept.2, by decide⟩
  rw [hkept.1]
  rfl

-- The tool itself is answered with the key.
example : ((sampleSecured (List.replicate 16 7)).handleTransportRx {}
      { readToolKeyFrame with security := ⟨true, true, true⟩ }).2.map (fun frame => frame.tpdu.data)
    = [[0x03, 0xD6, 5, 56, 0x10, 0x01] ++ List.replicate 16 7] := by decide

/-! ## Runs -/

/-- Devices in Security Mode that differ in keys alone are not told apart by frames that are not
tool-secured. -/
theorem unwinding_handleTransportRx :
    Unwinding (handleTransportRx backend)
      (fun d d' => SameButKeys d d' ∧ d.security.isSecurityEnabled = true)
      (fun _ frame => frame.security.toolSecured = false) := by
  constructor
  · rintro d d' frame ⟨hsame, hmode⟩ htool
    have hkept := security_handleTransportRx backend htool hmode
    rw [nextState, nextState, hsame.handleTransportRx backend htool hmode]
    refine ⟨⟨?_, rfl⟩, ?_⟩
    · rw [hkept]
      exact hsame.security
    · rw [hkept]
      exact hmode
  · rintro d d' frame ⟨hsame, hmode⟩ htool
    rw [hsame.handleTransportRx backend htool hmode]

/-- Along a whole run of such frames the Security Interface Object is kept, and the answers are
those of a device with other keys. A step begins behind Data Secure and ends with the answer, so that the
sequence numbers that wrapping it takes and unwrapping a frame moves are no part of it. -/
theorem run_keys_kept_and_secret {d' : ManagedDevice σ} (hsame : SameButKeys d d')
    (hmode : d.security.isSecurityEnabled = true) {frames : List TDataFrame}
    (htool : ∀ frame ∈ frames, frame.security.toolSecured = false) :
    (run (nextState (handleTransportRx backend)) d frames).security = d.security
      ∧ outputs (handleTransportRx backend) d' frames
        = outputs (handleTransportRx backend) d frames := by
  have halong : Along (nextState (handleTransportRx backend))
      (fun _ frame => frame.security.toolSecured = false) d frames :=
    along_of_forall_mem d htool
  constructor
  · have hstep : ∀ (s : ManagedDevice σ) (frame : TDataFrame), s.security = d.security →
        frame.security.toolSecured = false →
        (nextState (handleTransportRx backend) s frame).security = d.security := by
      intro s frame hs hframe
      rw [nextState, security_handleTransportRx backend hframe (hs ▸ hmode), hs]
    exact run_invariant_along hstep rfl halong
  · exact ((unwinding_handleTransportRx backend).run ⟨hsame, hmode⟩ halong).2

/-- Two reads of the Tool Key in plain. -/
theorem run_keys_kept_and_secret_of_plain_reads :
    outputs (handleTransportRx {}) (sampleSecured (List.replicate 16 9))
        [readToolKeyFrame, readToolKeyFrame]
      = outputs (handleTransportRx {}) (sampleSecured (List.replicate 16 7))
        [readToolKeyFrame, readToolKeyFrame] := by
  refine (run_keys_kept_and_secret {}
    ⟨⟨rfl, rfl, rfl, rfl, rfl, rfl, rfl, rfl, fun _ _ => rfl, rfl⟩, rfl⟩ rfl ?_).2
  simp [readToolKeyFrame, RequestSecurity.toolSecured]

end ManagedDevice

end KnxStack.Bau
