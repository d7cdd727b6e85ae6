import KnxStack.Application.Property
import KnxStack.Lib.Growing

/-!
# The property kernel

The functions of `objects/property_kernel.hpp` over the handlers of an object's properties: read,
write, and the current number of elements. A handler says how a property is kept in its domain `D`;
the kernel checks direction, range and size before it calls one.

The handlers that several objects share are here too: scalars, blocks, octet strings, function
properties and load state control.
-/

set_option autoImplicit false

namespace KnxStack.Objects

open KnxStack.Application KnxStack.Lib.Growing KnxStack.Lib.Octets KnxStack.Lib.Words

/-! ## Handlers -/

/-- `PropertyCapability`. -/
inductive PropertyCapability where
  | readOnly
  | writeOnly
  | readWrite
  deriving DecidableEq, Repr

/-- `canRead`. -/
def PropertyCapability.canRead (capability : PropertyCapability) : Bool := capability ≠ .writeOnly

/-- `canWrite`. -/
def PropertyCapability.canWrite (capability : PropertyCapability) : Bool := capability ≠ .readOnly

/-- `propertyElementSize`: the catalogue of sizes, but a function property has none of its own. -/
def propertyElementSize (type : UInt8) : Nat :=
  if type = 0x3E then 0
  else if 0x11 ≤ type ∧ type ≤ 0x24 then type.toNat - 0x10
  else (pdtCatalog.lookup type).getD 0

/-- `PropertyHandler`, over the domain that holds the value. Elements count from zero here, and what
is written comes as the octets of all elements. -/
structure Handler (D : Type) where
  id : UInt8
  type : UInt8
  capability : PropertyCapability
  maxElements : Nat
  elementSizeOverride : Nat := 0
  read : D → (start elementCount : Nat) → Option (List UInt8) := fun _ _ _ => none
  write : D → (start elementCount : Nat) → List UInt8 → Option D := fun _ _ _ _ => none
  count : Option (D → Nat) := none

namespace Handler

variable {D : Type}

/-- The size of an element as the kernel takes it. -/
def elementSize (handler : Handler D) : Nat :=
  if propertyElementSize handler.type = 0 then handler.elementSizeOverride
  else propertyElementSize handler.type

/-- `kMaxControlBlockOctets`. -/
def maxControlBlockOctets : Nat := 10

/-- `readProperty`, once the handler is found; `capacity` is the room for the answer, if it is
limited. -/
def readProperty (handler : Handler D) (capacity : Option Nat) (d : D)
    (startIndex elementCount : Nat) : Option (List UInt8) :=
  let byteCount := elementCount * handler.elementSize
  if startIndex = 0 ∨ elementCount = 0 then none
  else if !handler.capability.canRead then none
  else if handler.maxElements < startIndex + elementCount - 1 then none
  else if handler.elementSize = 0 then none
  else if capacity.any (· < byteCount) then none
  else
    (handler.read d (startIndex - 1) elementCount).filter fun octets => octets.length = byteCount

/-- `writeProperty`, once the handler is found. A control property takes its block as a whole. -/
def writeProperty (handler : Handler D) (d : D) (startIndex : Nat) (value : List UInt8) : Option D :=
  if startIndex = 0 then none
  else if !handler.capability.canWrite then none
  else if handler.type = 0x00 then
    if startIndex ≠ 1 ∨ value = [] ∨ maxControlBlockOctets < value.length then none
    else handler.write d 0 value.length value
  else if handler.elementSize = 0 then none
  else if value = [] ∨ value.length % handler.elementSize ≠ 0 then none
  else
    let elementCount := value.length / handler.elementSize % 2 ^ 16
    if handler.maxElements < startIndex + elementCount - 1 then none
    else handler.write d (startIndex - 1) elementCount value

/-- `propertyElementCount`, once the handler is found. -/
def propertyElementCount (handler : Handler D) (d : D) : Option Nat :=
  if !handler.capability.canRead then none
  else
    match handler.count with
    | none => some handler.maxElements
    | some count => some (count d)

/-- The two ways in which a write succeeds: a control property takes its block, any other property the
elements. -/
theorem writeProperty_cases {handler : Handler D} {d d' : D} {startIndex : Nat} {value : List UInt8}
    (h : handler.writeProperty d startIndex value = some d') :
    0 < startIndex ∧ handler.capability.canWrite = true ∧ value ≠ []
      ∧ ((handler.type = 0x00 ∧ startIndex = 1 ∧ value.length ≤ maxControlBlockOctets
          ∧ handler.write d 0 value.length value = some d')
        ∨ (handler.type ≠ 0x00 ∧ handler.elementSize ≠ 0 ∧ value.length % handler.elementSize = 0
          ∧ startIndex - 1 + value.length / handler.elementSize % 2 ^ 16 ≤ handler.maxElements
          ∧ handler.write d (startIndex - 1) (value.length / handler.elementSize % 2 ^ 16) value
            = some d')) := by
  rw [writeProperty] at h
  split at h
  · cases h
  · rename_i hzero
    split at h
    · cases h
    · rename_i hcapability
      have hcan : handler.capability.canWrite = true := by simpa using hcapability
      split at h
      · rename_i htype
        split at h
        · cases h
        · rename_i hblock
          simp only [not_or, not_not, Nat.not_lt] at hblock
          obtain ⟨hfirst, hne, hlength⟩ := hblock
          exact ⟨by omega, hcan, hne, .inl ⟨htype, hfirst, hlength, h⟩⟩
      · rename_i htype
        split at h
        · cases h
        · rename_i hsize
          split at h
          · cases h
          · rename_i hvalue
            simp only [not_or, not_not] at hvalue
            obtain ⟨hne, hwhole⟩ := hvalue
            dsimp only at h
            split at h
            · cases h
            · exact ⟨by omega, hcan, hne, .inr ⟨htype, hsize, hwhole, by omega, h⟩⟩

/-- The handler on a larger domain that contains the property's. -/
def lift {S : Type} (get : S → D) (set : S → D → S) (handler : Handler D) : Handler S :=
  { id := handler.id
    type := handler.type
    capability := handler.capability
    maxElements := handler.maxElements
    elementSizeOverride := handler.elementSizeOverride
    read := fun s start elementCount => handler.read (get s) start elementCount
    write := fun s start elementCount value =>
      (handler.write (get s) start elementCount value).map (set s)
    count := handler.count.map fun count s => count (get s) }

theorem writeProperty_lift {S : Type} (handler : Handler D) (get : S → D) (set : S → D → S) (s : S)
    (startIndex : Nat) (value : List UInt8) :
    (handler.lift get set).writeProperty s startIndex value
      = (handler.writeProperty (get s) startIndex value).map (set s) := by
  have hsize : (handler.lift get set).elementSize = handler.elementSize := rfl
  simp only [writeProperty, hsize]
  simp only [lift, apply_ite (Option.map (set s)), Option.map_none]
  rfl

/-! ## Shared handlers -/

/-- `ScalarProperty::make`, for a value of the given number of octets. -/
def scalar (id type : UInt8) (capability : PropertyCapability) (width : Nat) (get : D → Nat)
    (set : D → Nat → Option D) : Handler D :=
  { id := id
    type := type
    capability := capability
    maxElements := 1
    read := fun d _ elementCount =>
      if elementCount ≠ 1 then none else some (toOctets width (get d))
    write := fun d _ elementCount value =>
      if elementCount ≠ 1 ∨ value.length < width then none
      else set d (ofOctets (value.take width)) }

/-- A block of octets that is one element, and only read. -/
def block (id type : UInt8) (get : D → List UInt8) : Handler D :=
  { id := id
    type := type
    capability := .readOnly
    maxElements := 1
    read := fun d _ elementCount => if elementCount ≠ 1 then none else some (get d) }

/-- `FunctionProperty::make`: it is declared, and no value can be read or written. -/
def function (id : UInt8) : Handler D :=
  { id := id, type := 0x3E, capability := .readWrite, maxElements := 1, elementSizeOverride := 1 }

/-- An octet string of which every octet is an element; it grows with zeros as far as it is
written. -/
def octetString (id : UInt8) (get : D → List UInt8) (set : D → List UInt8 → D) : Handler D :=
  { id := id
    type := 0x11
    capability := .readWrite
    maxElements := 0xFFFF
    elementSizeOverride := 1
    read := fun d start elementCount =>
      if (get d).length < start + elementCount then none else some (slice (get d) start elementCount)
    write := fun d start elementCount value =>
      if 0xFFFF < start + elementCount then none
      else
        some (set d (SecurityInterfaceObject.writeBlob (get d) start (value.take elementCount))) }

end Handler

/-! ## Load state control -/

/-- What `applyLoadControlEvent` asks of its domain. -/
structure Loadable (D : Type) where
  loadState : D → UInt8
  setLoadState : D → UInt8 → D
  loadControlReset : D → D

namespace Loadable

variable {D : Type} (loadable : Loadable D)

/-- `applyLoadControlEvent`. -/
def applyLoadControlEvent (d : D) (event : UInt8) : D :=
  if event = 0 then d
  else if event = 1 then loadable.setLoadState (loadable.loadControlReset d) 2
  else if event = 2 then loadable.setLoadState d 1
  else if event = 3 then d
  else if event = 4 then loadable.setLoadState (loadable.loadControlReset d) 0
  else loadable.setLoadState d 3

/-- `LoadControlProperty::make`. A read has the state in its first octet. -/
def handler (id : UInt8) : Handler D :=
  { id := id
    type := 0x00
    capability := .readWrite
    maxElements := 1
    read := fun d _ elementCount =>
      if elementCount = 0 then none
      else some (loadable.loadState d :: List.replicate (elementCount - 1) 0)
    write := fun d start _ value =>
      if start ≠ 0 then none else value.head?.map (loadable.applyLoadControlEvent d) }

end Loadable

end KnxStack.Objects
