import Mathlib
import KnxStack.Lib.Words

/-!
# Common types of the stack

The value types every layer shares: error codes, addresses, priorities, the progress of a polled
operation, and `FixedVector`, the bounded sequence the stack uses for payloads. A `FixedVector`
carries the bound as a field, so a sequence that overruns its capacity cannot be written down.
-/

set_option autoImplicit false

namespace KnxStack

universe u

/-- Error codes for stack operations (`util::ErrorCode`). -/
inductive ErrorCode where
  | invalidParameter
  | invalidAddress
  | invalidFrameSize
  | bufferTooSmall
  | outOfRange
  | accessDenied
  | checksumError
  | timeout
  | busy
  | queueFull
  | notInitialized
  | alreadyInitialized
  | transmissionFailed
  | decodeFailed
  | encodeFailed
  | resourceUnavailable
  | operationFailed
  | operationNotReady
  | operationNotSupported
  | frameConsumed
  | unknownError
  deriving DecidableEq, Repr

/-- Result of an operation that returns a value or an error code (`util::Result`). -/
abbrev Result (α : Type u) : Type u := Except ErrorCode α

instance {α : Type u} [DecidableEq α] : DecidableEq (Result α)
  | .ok a, .ok b => decidable_of_iff (a = b) (by simp)
  | .error a, .error b => decidable_of_iff (a = b) (by simp)
  | .ok _, .error _ => isFalse (by simp)
  | .error _, .ok _ => isFalse (by simp)

/-- Progress of a polled operation (`util::OperationProgressState`). -/
inductive OperationProgressState where
  | pending
  | success
  | busy
  | transmissionFailed
  | timeout
  deriving DecidableEq, Repr

/-! ## Bounded sequences -/

/-- A sequence of at most `capacity` elements (`util::FixedVector`). -/
@[ext] structure FixedVector (α : Type u) (capacity : Nat) where
  data : List α
  size_le : data.length ≤ capacity
  deriving DecidableEq

namespace FixedVector

variable {α : Type u} {capacity : Nat}

/-- Number of elements held. -/
def size (v : FixedVector α capacity) : Nat := v.data.length

/-- No element held. -/
def isEmpty (v : FixedVector α capacity) : Bool := v.data.isEmpty

/-- The cleared vector. -/
def clear : FixedVector α capacity := ⟨[], Nat.zero_le _⟩

instance : Inhabited (FixedVector α capacity) := ⟨clear⟩

/-- Replace the contents; a sequence that does not fit leaves the vector as it was. -/
def assign (v : FixedVector α capacity) (values : List α) : Bool × FixedVector α capacity :=
  if h : values.length ≤ capacity then (true, ⟨values, h⟩) else (false, v)

/-- Append one element; a full vector stays as it was. -/
def pushBack (v : FixedVector α capacity) (value : α) : FixedVector α capacity :=
  if h : v.data.length < capacity then ⟨v.data ++ [value], by simp; omega⟩ else v

theorem assign_of_le (v : FixedVector α capacity) {values : List α}
    (h : values.length ≤ capacity) : v.assign values = (true, ⟨values, h⟩) :=
  dif_pos h

@[simp] theorem data_clear : (clear : FixedVector α capacity).data = [] := rfl

@[simp] theorem isEmpty_iff (v : FixedVector α capacity) : v.isEmpty = true ↔ v.data = [] := by
  simp [isEmpty]

@[simp] theorem data_pushBack_clear (h : 0 < capacity) (value : α) :
    ((clear : FixedVector α capacity).pushBack value).data = [value] := by
  unfold pushBack
  rw [dif_pos (by simpa using h)]
  rfl

end FixedVector

/-! ## Addresses -/

/-- Address classification of a destination. -/
inductive AddressType where
  | individual
  | group
  deriving DecidableEq, Repr

/-- `isGroupAddress`. -/
def AddressType.isGroupAddress : AddressType → Bool
  | .group => true
  | .individual => false

/-- Individual address `area.line.device`, 4.4.8 bits. -/
structure IndividualAddress where
  raw : UInt16
  deriving DecidableEq, Repr

namespace IndividualAddress

/-- Operational addresses: neither `0x0000` nor the commissioning marker `0xFFFF`. -/
def isValid (a : IndividualAddress) : Bool := a.raw != 0x0000 && a.raw != 0xFFFF

/-- The address of a device that has not been commissioned yet. -/
def isInitial (a : IndividualAddress) : Bool := a.raw == 0xFFFF

/-- The individual broadcast address. -/
def isBroadcast (a : IndividualAddress) : Bool := a.raw == 0x0000

/-- Area, the high four bits. -/
def area (a : IndividualAddress) : UInt8 := ((a.raw >>> 12) &&& 0x0F).toUInt8

/-- Line, the next four. -/
def line (a : IndividualAddress) : UInt8 := ((a.raw >>> 8) &&& 0x0F).toUInt8

/-- Device, the low octet. -/
def device (a : IndividualAddress) : UInt8 := (a.raw &&& 0xFF).toUInt8

end IndividualAddress

/-- Group address, also the storage of every destination; the address type says how to read it. -/
structure GroupAddress where
  raw : UInt16
  deriving DecidableEq, Repr

namespace GroupAddress

/-- Any address but `0x0000`. -/
def isValid (a : GroupAddress) : Bool := a.raw != 0x0000

/-- The group address `0/0/0` of system broadcasts. -/
def isBroadcast (a : GroupAddress) : Bool := a.raw == 0x0000

end GroupAddress

/-! ## Priority -/

/-- Telegram priority; the constructors stand in the order of the two-bit wire code. -/
inductive Priority where
  | system
  | normal
  | urgent
  | low
  deriving DecidableEq, Repr

namespace Priority

/-- Wire code of a priority. -/
def toBits : Priority → UInt8
  | system => 0
  | normal => 1
  | urgent => 2
  | low => 3

/-- Priority of a two-bit wire code. -/
def ofBits (b : UInt8) : Priority :=
  if b = 0 then system else if b = 1 then normal else if b = 2 then urgent else low

end Priority

/-! ## Protection of a received request -/

/-- How an inbound request was protected (`RequestSecurity`); a plain frame has every flag
clear. -/
structure RequestSecurity where
  secured : Bool := false
  toolAccess : Bool := false
  confidentiality : Bool := false
  deriving DecidableEq, Repr

/-- `toolSecured`: the sender used the Tool Key, with authentication and confidentiality. -/
def RequestSecurity.toolSecured (s : RequestSecurity) : Bool :=
  s.secured && s.toolAccess && s.confidentiality

end KnxStack
