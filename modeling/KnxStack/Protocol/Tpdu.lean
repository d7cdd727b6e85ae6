import KnxStack.Types

/-!
# TPDU headers

The transport control field (TPCI), the application control field (APCI) and the packing of both
into the first octets of a TPDU (`protocol/tpci.hpp`, `protocol/tpdu_codec.hpp`).

A control TPDU (`T_Connect`, `T_Disconnect`, `T_ACK`, `T_NAK`) is one octet and has no APCI. A data
TPDU has two header octets, six bits of TPCI followed by ten bits of APCI, and then the payload.
-/

set_option autoImplicit false

namespace KnxStack.Protocol

open KnxStack.Lib.Words

/-- Maximum APDU payload (`config::MAX_APDU_LENGTH`). -/
def maxApduLength : Nat := 254

/-- Capacity of a TPDU: the two header octets and the largest payload. -/
def maxTpduSize : Nat := 2 + maxApduLength

/-- The four TPDU kinds, told apart by the two top bits of the first octet. -/
inductive TPCI where
  | unnumberedData
  | numberedData
  | unnumberedControl
  | numberedControl
  deriving DecidableEq, Repr

/-- Top bits of a TPDU kind. -/
def TPCI.toBits : TPCI → UInt8
  | .unnumberedData => 0x00
  | .numberedData => 0x40
  | .unnumberedControl => 0x80
  | .numberedControl => 0xC0

/-- Unnumbered control commands. -/
inductive TPCIControl where
  | connect
  | disconnect
  deriving DecidableEq, Repr

/-- Octet of a control command. -/
def TPCIControl.toBits : TPCIControl → UInt8
  | .connect => 0x80
  | .disconnect => 0x81

/-- Raw transport control field. -/
structure TPCIField where
  raw : UInt8
  deriving DecidableEq, Repr

namespace TPCIField

/-- TPDU kind of a field. -/
def type (t : TPCIField) : TPCI :=
  if t.raw &&& 0xC0 = 0x00 then .unnumberedData
  else if t.raw &&& 0xC0 = 0x40 then .numberedData
  else if t.raw &&& 0xC0 = 0x80 then .unnumberedControl
  else .numberedControl

/-- Four-bit sequence number of a field. -/
def seqNum (t : TPCIField) : UInt8 := (t.raw >>> 2) &&& 0x0F

/-- The field is exactly this control command. -/
def isControl (t : TPCIField) (c : TPCIControl) : Bool := t.raw == c.toBits

/-- `T_ACK`, with any sequence number. -/
def isAck (t : TPCIField) : Bool := t.type == .numberedControl && t.raw &&& 0x03 == 0x02

/-- `T_NAK`, with any sequence number. -/
def isNak (t : TPCIField) : Bool := t.type == .numberedControl && t.raw &&& 0x03 == 0x03

/-- Field of a TPDU kind with a sequence number. -/
def create (k : TPCI) (seq : UInt8) : TPCIField := ⟨k.toBits ||| ((seq &&& 0x0F) <<< 2)⟩

/-- Field of a control command. -/
def createControl (c : TPCIControl) : TPCIField := ⟨c.toBits⟩

/-- `T_ACK` with a sequence number. -/
def ack (seq : UInt8) : TPCIField :=
  ⟨TPCI.numberedControl.toBits ||| ((seq &&& 0x0F) <<< 2) ||| (0x02 : UInt8)⟩

/-- `T_NAK` with a sequence number. -/
def nak (seq : UInt8) : TPCIField :=
  ⟨TPCI.numberedControl.toBits ||| ((seq &&& 0x0F) <<< 2) ||| (0x03 : UInt8)⟩

end TPCIField

/-- Raw application control field; ten bits are used. -/
structure APCIField where
  raw : UInt16
  deriving DecidableEq, Repr

/-- The TPDU kinds without an APCI. -/
def isControlType (t : TPCIField) : Bool := t.raw &&& 0xC0 == 0x80 || t.raw &&& 0xC0 == 0xC0

/-- Number of TPDU octets for a payload of the given length. -/
def tpduLengthFromTpci (t : TPCIField) (payloadLength : Nat) : Nat :=
  if isControlType t then 1 else 2 + payloadLength

/-- The two header octets. -/
def packTpduHeader (t : TPCIField) (a : APCIField) : UInt8 × UInt8 :=
  if isControlType t then (t.raw, 0x00)
  else
    let apci10 := a.raw &&& 0x03FF
    ((t.raw &&& (0xFC : UInt8)) ||| ((apci10 >>> 8) &&& 0x03).toUInt8, (apci10 &&& 0xFF).toUInt8)

/-- Control fields read from the first two octets of a TPDU. -/
structure TpduHeader where
  tpci : TPCIField
  apci : APCIField
  deriving DecidableEq, Repr

/-- Inverse of `packTpduHeader`. -/
def unpackTpduHeader (tpdu0 tpdu1 : UInt8) : TpduHeader :=
  if isControlType ⟨tpdu0⟩ then ⟨⟨tpdu0⟩, ⟨0⟩⟩
  else ⟨⟨tpdu0 &&& 0xFC⟩, ⟨((tpdu0.toUInt16 &&& 0x03) <<< 8) ||| tpdu1.toUInt16⟩⟩

/-- Octets of a TPDU. -/
def buildTpdu (t : TPCIField) (a : APCIField) (payload : List UInt8) : List UInt8 :=
  if tpduLengthFromTpci t payload.length = 1 then [t.raw]
  else (packTpduHeader t a).1 :: (packTpduHeader t a).2 :: payload

/-- `tpduPayloadLength`. -/
def tpduPayloadLength (tpdu : List UInt8) : Nat :=
  if 2 ≤ tpdu.length then tpdu.length - 2 else 0

theorem length_buildTpdu (t : TPCIField) (a : APCIField) (payload : List UInt8) :
    (buildTpdu t a payload).length = tpduLengthFromTpci t payload.length := by
  unfold buildTpdu
  split
  · next h => simp [h]
  · next h =>
    unfold tpduLengthFromTpci at *
    split
    · next hc => simp [hc] at h
    · simp only [List.length_cons]
      omega

/-- `buildTpduInPlace`: the TPDU written into a vector that has room for it. The span handed to
`buildTpdu` has exactly the needed size, so the call itself cannot fail; that the vector is large
enough is the caller's obligation and a proof argument here. -/
def buildTpduInPlace {n : Nat} (t : TPCIField) (a : APCIField) (payload : List UInt8)
    (h : tpduLengthFromTpci t payload.length ≤ n) : FixedVector UInt8 n :=
  ⟨buildTpdu t a payload, by rw [length_buildTpdu]; exact h⟩

theorem tpduLengthFromTpci_le (t : TPCIField) {n : Nat} (h : n ≤ maxApduLength) :
    tpduLengthFromTpci t n ≤ maxTpduSize := by
  unfold tpduLengthFromTpci maxTpduSize
  unfold maxApduLength at *
  split <;> omega

end KnxStack.Protocol
