import KnxStack.Protocol.Tpdu

/-!
# Application services

The service codes of the application control field (`application/apci_services.hpp`). Most services
are named by the four top bits of the field and leave six bits for data; the services of the escape
block and of four further blocks use all ten bits.
-/

set_option autoImplicit false

namespace KnxStack.Application

open KnxStack.Protocol

/-- `APCIService`. A code that the enumeration does not name stays a value of its type. -/
inductive APCIService where
  | groupValueRead
  | groupValueResponse
  | groupValueWrite
  | individualAddressWrite
  | individualAddressRead
  | individualAddressResponse
  | adcRead
  | adcResponse
  | systemNetworkParameterRead
  | systemNetworkParameterResponse
  | systemNetworkParameterWrite
  | propertyExtValueRead
  | propertyExtValueResponse
  | propertyExtValueWriteCon
  | propertyExtValueWriteConRes
  | propertyExtValueWriteUnCon
  | propertyExtValueInfoReport
  | propertyExtDescriptionRead
  | propertyExtDescriptionResponse
  | functionPropertyExtCommand
  | functionPropertyExtStateRead
  | functionPropertyExtStateResponse
  | memoryExtendedWrite
  | memoryExtendedWriteResponse
  | memoryExtendedRead
  | memoryExtendedReadResponse
  | memoryRead
  | memoryResponse
  | memoryWrite
  | functionPropertyCommand
  | functionPropertyStateRead
  | functionPropertyStateResponse
  | deviceDescriptorRead
  | deviceDescriptorResponse
  | restart
  | restartResponse
  | escape
  | authorizeRequest
  | authorizeResponse
  | keyWrite
  | keyResponse
  | propertyValueRead
  | propertyValueResponse
  | propertyValueWrite
  | propertyDescriptionRead
  | propertyDescriptionResponse
  | networkParameterRead
  | networkParameterResponse
  | individualAddressSerialNumberRead
  | individualAddressSerialNumberResponse
  | individualAddressSerialNumberWrite
  | networkParameterWrite
  | other (code : UInt16)
  deriving DecidableEq, Repr

namespace APCIService

/-- The code of a service. -/
def code : APCIService → UInt16
  | groupValueRead => 0x000
  | groupValueResponse => 0x040
  | groupValueWrite => 0x080
  | individualAddressWrite => 0x0C0
  | individualAddressRead => 0x100
  | individualAddressResponse => 0x140
  | adcRead => 0x180
  | adcResponse => 0x1C0
  | systemNetworkParameterRead => 0x1C8
  | systemNetworkParameterResponse => 0x1C9
  | systemNetworkParameterWrite => 0x1CA
  | propertyExtValueRead => 0x1CC
  | propertyExtValueResponse => 0x1CD
  | propertyExtValueWriteCon => 0x1CE
  | propertyExtValueWriteConRes => 0x1CF
  | propertyExtValueWriteUnCon => 0x1D0
  | propertyExtValueInfoReport => 0x1D1
  | propertyExtDescriptionRead => 0x1D2
  | propertyExtDescriptionResponse => 0x1D3
  | functionPropertyExtCommand => 0x1D4
  | functionPropertyExtStateRead => 0x1D5
  | functionPropertyExtStateResponse => 0x1D6
  | memoryExtendedWrite => 0x1FB
  | memoryExtendedWriteResponse => 0x1FC
  | memoryExtendedRead => 0x1FD
  | memoryExtendedReadResponse => 0x1FE
  | memoryRead => 0x200
  | memoryResponse => 0x240
  | memoryWrite => 0x280
  | functionPropertyCommand => 0x2C7
  | functionPropertyStateRead => 0x2C8
  | functionPropertyStateResponse => 0x2C9
  | deviceDescriptorRead => 0x300
  | deviceDescriptorResponse => 0x340
  | restart => 0x380
  | restartResponse => 0x3A1
  | escape => 0x3C0
  | authorizeRequest => 0x3D1
  | authorizeResponse => 0x3D2
  | keyWrite => 0x3D3
  | keyResponse => 0x3D4
  | propertyValueRead => 0x3D5
  | propertyValueResponse => 0x3D6
  | propertyValueWrite => 0x3D7
  | propertyDescriptionRead => 0x3D8
  | propertyDescriptionResponse => 0x3D9
  | networkParameterRead => 0x3DA
  | networkParameterResponse => 0x3DB
  | individualAddressSerialNumberRead => 0x3DC
  | individualAddressSerialNumberResponse => 0x3DD
  | individualAddressSerialNumberWrite => 0x3DE
  | networkParameterWrite => 0x3E4
  | other code => code

/-- The services with a name. -/
def named : List APCIService :=
  [groupValueRead, groupValueResponse, groupValueWrite, individualAddressWrite,
    individualAddressRead, individualAddressResponse, adcRead, adcResponse,
    systemNetworkParameterRead, systemNetworkParameterResponse, systemNetworkParameterWrite,
    propertyExtValueRead, propertyExtValueResponse, propertyExtValueWriteCon,
    propertyExtValueWriteConRes, propertyExtValueWriteUnCon, propertyExtValueInfoReport,
    propertyExtDescriptionRead, propertyExtDescriptionResponse, functionPropertyExtCommand,
    functionPropertyExtStateRead, functionPropertyExtStateResponse, memoryExtendedWrite,
    memoryExtendedWriteResponse, memoryExtendedRead, memoryExtendedReadResponse, memoryRead,
    memoryResponse, memoryWrite, functionPropertyCommand, functionPropertyStateRead,
    functionPropertyStateResponse, deviceDescriptorRead, deviceDescriptorResponse, restart,
    restartResponse, escape, authorizeRequest, authorizeResponse, keyWrite, keyResponse,
    propertyValueRead, propertyValueResponse, propertyValueWrite, propertyDescriptionRead,
    propertyDescriptionResponse, networkParameterRead, networkParameterResponse,
    individualAddressSerialNumberRead, individualAddressSerialNumberResponse,
    individualAddressSerialNumberWrite, networkParameterWrite]

/-- The service of a code. -/
def ofCode (code : UInt16) : APCIService :=
  (named.find? fun service => service.code == code).getD (other code)

/-- `usesApciData6`: services whose first data octet travels in the control field. -/
def usesApciData6 : APCIService → Bool
  | memoryRead | memoryWrite | memoryResponse | deviceDescriptorRead | deviceDescriptorResponse
  | adcRead | adcResponse => true
  | _ => false

end APCIService

/-- `KnxReturnCode`, the codes that the extended services answer with. A code of a function property
that is not among them is passed on unchanged. -/
inductive KnxReturnCode where
  | success
  | memoryError
  | exceedsMaxApduLength
  | dataOverflow
  | dataMin
  | dataMax
  | dataVoid
  | temporarilyNotAvailable
  | accessWriteOnly
  | accessReadOnly
  | accessDenied
  | addressVoid
  | dataTypeConflict
  | genericError
  | other (code : UInt8)
  deriving DecidableEq, Repr

/-- The octet of a return code. -/
def KnxReturnCode.code : KnxReturnCode → UInt8
  | success => 0x00
  | memoryError => 0xF1
  | exceedsMaxApduLength => 0xF4
  | dataOverflow => 0xF5
  | dataMin => 0xF6
  | dataMax => 0xF7
  | dataVoid => 0xF8
  | temporarilyNotAvailable => 0xF9
  | accessWriteOnly => 0xFA
  | accessReadOnly => 0xFB
  | accessDenied => 0xFC
  | addressVoid => 0xFD
  | dataTypeConflict => 0xFE
  | genericError => 0xFF
  | other code => code

/-- `AccessType`. -/
inductive AccessType where
  | read
  | write
  deriving DecidableEq, Repr

/-! ## The control field -/

/-- `isFunctionProperty`. -/
def isFunctionProperty (field : APCIField) : Bool :=
  field.raw &&& 0x03FF == 0x2C7 || field.raw &&& 0x03FF == 0x2C8 || field.raw &&& 0x03FF == 0x2C9

/-- `isMemoryExtended`. -/
def isMemoryExtended (field : APCIField) : Bool :=
  0x1FB ≤ field.raw &&& 0x03FF && field.raw &&& 0x03FF ≤ 0x1FE

/-- `isPropertyExtended`. -/
def isPropertyExtended (field : APCIField) : Bool :=
  0x1CC ≤ field.raw &&& 0x03FF && field.raw &&& 0x03FF ≤ 0x1D6

/-- `isSystemNetworkParameter`. -/
def isSystemNetworkParameter (field : APCIField) : Bool :=
  0x1C8 ≤ field.raw &&& 0x03FF && field.raw &&& 0x03FF ≤ 0x1CA

/-- `APCIField::service`. -/
def serviceOf (field : APCIField) : APCIService :=
  if field.raw &&& 0x03C0 = APCIService.escape.code then .ofCode (field.raw &&& 0x03FF)
  else if isFunctionProperty field || isMemoryExtended field || isPropertyExtended field
      || isSystemNetworkParameter field then .ofCode (field.raw &&& 0x03FF)
  else .ofCode (field.raw &&& 0x03C0)

/-- `APCIField::data6`. -/
def data6Of (field : APCIField) : UInt8 := (field.raw &&& 0x3F).toUInt8

/-- `APCIField::create`. -/
def createApci (service : APCIService) (data : UInt8) : APCIField :=
  ⟨service.code ||| (data &&& 0x3F).toUInt16⟩

end KnxStack.Application
