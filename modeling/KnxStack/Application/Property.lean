import KnxStack.Lib.Octets
import KnxStack.Lib.Words
import KnxStack.Objects.SecurityObject

/-!
# Property metadata

Descriptors of properties, the store that the property services fall back on
(`application/property.hpp`, `application/property_store.cpp`) and the addressing header of the
extended services (`application/apci_services.hpp`), with the descriptors that the Security Interface
Object registers (`objects/object_property_manifest.cpp`).
-/

set_option autoImplicit false

namespace KnxStack.Application

open KnxStack.Lib.Octets

/-! ## Descriptors -/

/-- `PropertyAccess`. -/
inductive PropertyAccess where
  | readOnly
  | readWrite
  | writeOnly
  deriving DecidableEq, Repr

/-- `PropertyDescriptor`; the data type stands as its code. -/
structure PropertyDescriptor where
  id : UInt8
  type : UInt8
  access : PropertyAccess
  maxElements : UInt16
  readLevel : UInt8 := 0
  writeLevel : UInt8 := 0
  deriving DecidableEq, Repr

/-- The catalogue of property data types: code and size of an element, zero for a size that varies.
The generic types are left to `getElementSize`. -/
def pdtCatalog : List (UInt8 × Nat) :=
  [(0x00, 1), (0x01, 1), (0x02, 1), (0x03, 2), (0x04, 2), (0x05, 2), (0x06, 3), (0x07, 3), (0x08, 4),
    (0x09, 4), (0x0A, 4), (0x0B, 8), (0x0C, 10), (0x0D, 3), (0x0E, 5), (0x0F, 8), (0x10, 0),
    (0x2F, 0), (0x30, 2), (0x31, 6), (0x32, 1), (0x33, 1), (0x34, 2), (0x35, 1), (0x36, 1),
    (0x3E, 1), (0x3F, 0)]

/-- `getElementSize`: `PDT_GENERIC_01` to `PDT_GENERIC_20` have their number of octets. -/
def PropertyDescriptor.getElementSize (descriptor : PropertyDescriptor) : Nat :=
  if 0x11 ≤ descriptor.type ∧ descriptor.type ≤ 0x24 then descriptor.type.toNat - 0x10
  else (pdtCatalog.lookup descriptor.type).getD 0

/-- `PropertyStore::readProperty` of a property that holds `value`. -/
def PropertyDescriptor.readStored (descriptor : PropertyDescriptor) (value : List UInt8)
    (startIndex elementCount : Nat) : Option (List UInt8) :=
  let elementSize := descriptor.getElementSize
  if startIndex = 0 ∨ descriptor.maxElements.toNat < startIndex then none
  else if elementSize = 0 then none
  else
    let byteOffset := (startIndex - 1) * elementSize
    let byteCount := elementCount * elementSize
    if value.length < byteOffset + byteCount then none else some (slice value byteOffset byteCount)

/-- What a description names (`PropertyDescriptionInfo`). -/
structure PropertyDescription where
  propertyId : UInt8
  type : UInt8
  maxElements : UInt16
  writeAllowed : Bool
  readLevel : UInt8 := 0
  writeLevel : UInt8 := 0
  deriving DecidableEq, Repr

end KnxStack.Application

namespace KnxStack.Objects

open KnxStack.Application

/-! ## The Security Interface Object -/

/-- The data type of a property. -/
def SecurityProperty.dataType : SecurityProperty → UInt8
  | .objectType => 0x04
  | .objectName => 0x11
  | .loadStateControl => 0x00
  | .securityMode => 0x02
  | .p2pKeyTable => 0x24
  | .groupKeyTable => 0x22
  | .securityIndividualAddressTable => 0x18
  | .securityFailuresLog => 0x17
  | .toolKey => 0x20
  | .securityReport => 0x33
  | .securityReportControl => 0x33
  | .sequenceNumberSending => 0x16
  | .zoneKeyTable => 0x23
  | .goSecurityFlags => 0x11

/-- The properties of `kSecurityHandlers`, in the order of that table. -/
def securityHandlers : List SecurityProperty :=
  [.objectType, .loadStateControl, .securityMode, .toolKey, .sequenceNumberSending,
    .securityFailuresLog, .p2pKeyTable, .groupKeyTable, .securityIndividualAddressTable,
    .securityReport, .securityReportControl, .zoneKeyTable, .goSecurityFlags]

/-- The properties of `kSecurityManifest`, in the order of their identifiers. -/
def securityManifest : List SecurityProperty :=
  [.objectType, .loadStateControl, .securityMode, .p2pKeyTable, .groupKeyTable,
    .securityIndividualAddressTable, .securityFailuresLog, .toolKey, .securityReport,
    .securityReportControl, .sequenceNumberSending, .zoneKeyTable, .goSecurityFlags]

/-- The property of an identifier. -/
def SecurityProperty.ofPid (propertyId : UInt8) : Option SecurityProperty :=
  securityManifest.find? fun p => p.pid == propertyId

/-- The number of elements that a handler admits. -/
def SecurityProperty.maxElements (p : SecurityProperty) : UInt16 :=
  (p.handler.map fun handler => UInt16.ofNat handler.maxElements).getD 0

/-- The entry of a property in the manifest. -/
def SecurityProperty.descriptor (p : SecurityProperty) : PropertyDescriptor :=
  { id := p.pid
    type := p.dataType
    access := if p = .objectType then .readOnly else .readWrite
    maxElements := p.maxElements }

/-- `describeProperty` on the Security Interface Object: by identifier, which the manifest must
declare, or by position among the handlers. -/
def describeSecurityProperty (propertyId propertyIndex : UInt8) : Option PropertyDescription :=
  (if propertyIndex = 0 then SecurityProperty.ofPid propertyId
    else securityHandlers[propertyIndex.toNat - 1]?).map fun p =>
      { propertyId := p.pid
        type := p.dataType
        maxElements := p.maxElements
        writeAllowed := p ≠ .objectType }

end KnxStack.Objects

namespace KnxStack.Application

open KnxStack.Lib.Words

/-! ## Extended addressing -/

/-- `PropertyExtHeader`: object type, instance and property, the last two in twelve bits. -/
structure PropertyExtHeader where
  objectType : UInt16
  objectInstance : UInt16
  propertyId : UInt16
  deriving DecidableEq, Repr

namespace PropertyExtHeader

/-- `fieldsInRange`. -/
def fieldsInRange (header : PropertyExtHeader) : Bool :=
  header.objectInstance ≤ 0x0FFF && header.propertyId ≤ 0x0FFF

/-- `decode`, once the payload is long enough. -/
def decode (octet0 octet1 octet2 octet3 octet4 : UInt8) : PropertyExtHeader :=
  { objectType := joinBytes octet0 octet1
    objectInstance := (octet2.toUInt16 <<< 4) ||| ((octet3 >>> 4) &&& 0x0F).toUInt16
    propertyId := joinBytes (octet3 &&& 0x0F) octet4 }

/-- `encode`. -/
def encode (header : PropertyExtHeader) : List UInt8 :=
  [highByte header.objectType, lowByte header.objectType,
    ((header.objectInstance >>> 4) &&& 0xFF).toUInt8,
    ((header.objectInstance &&& 0x0F) <<< 4).toUInt8 ||| (highByte header.propertyId &&& 0x0F),
    lowByte header.propertyId]

/-- The property identifier of eight bits that the services below address. -/
def narrowPropertyId (header : PropertyExtHeader) : UInt8 := header.propertyId.toUInt8

end PropertyExtHeader

end KnxStack.Application
