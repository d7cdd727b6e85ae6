import KnxStack.Protocol.Tpdu
import KnxStack.Lib.Checked

/-!
# L_Data frames and the TP1 frame codec

`LDataFrame` is the frame every layer of the stack passes on (`datalink/tp1_data_link_layer.hpp`),
`FrameCodec` its encoding on the TP1 wire (`datalink/frame_codec.cpp`). Two wire formats exist:
standard frames with a four-bit length field, up to sixteen TPDU octets, and extended frames with
a second control octet and an eight-bit length field.

The decoder is written over `Checked`, so that a read outside the received octets is a visible
outcome. What the other codecs need of it is `decodeFrame_accepts`: an accepted frame is valid, its
TPDU has between 1 and 256 octets and its hop count fits three bits.
-/

set_option autoImplicit false

namespace KnxStack.Datalink

open KnxStack.Lib KnxStack.Lib.Words KnxStack.Protocol

/-- Capacity of the TPDU of a data link frame (`LDataFrame::MAX_FRAME_SIZE`). -/
def maxFrameSize : Nat := 256

/-- Maximum APDU payload of a frame (`LDataFrame::MAX_APDU_SIZE`). -/
def maxApduSize : Nat := 254

/-- Octets of the largest frame on the TP1 wire: extended header, TPDU and checksum. -/
def maxTp1FrameSize : Nat := 8 + maxFrameSize

/-- L_Data frame. `repeated` is the meaning of the flag; on the wire the bit is inverted. -/
structure LDataFrame where
  standardFrame : Bool := true
  repeated : Bool := false
  priority : Priority := .low
  ackRequested : Bool := true
  confirmation : Bool := false
  source : IndividualAddress := ⟨0⟩
  destination : GroupAddress := ⟨0⟩
  destinationType : AddressType := .group
  hopCount : UInt8 := 6
  tpdu : FixedVector UInt8 maxFrameSize := .clear
  deriving DecidableEq

namespace LDataFrame

/-- The destination is acceptable for its address type. -/
def destinationIsValid (f : LDataFrame) : Bool :=
  match f.destinationType with
  | .group => f.destination.isValid || f.destination.isBroadcast
  | .individual =>
      let individualDestination : IndividualAddress := ⟨f.destination.raw⟩
      individualDestination.isValid || individualDestination.isInitial
        || individualDestination.isBroadcast

/-- Address and size constraints of a frame. -/
def isValid (f : LDataFrame) : Bool :=
  (f.source.isValid || f.source.isInitial)
    && f.destinationIsValid
    && !f.tpdu.isEmpty
    && decide (tpduPayloadLength f.tpdu.data ≤ maxApduSize)
    && decide (f.hopCount ≤ 7)

end LDataFrame

/-! ## Checksum -/

/-- Inverted XOR over all octets. -/
def calculateChecksum (data : List UInt8) : UInt8 := data.foldl (· ^^^ ·) 0xFF

/-- The last octet is the checksum of the octets before it. -/
def verifyChecksum (data : List UInt8) : Result Unit :=
  if data.length < 1 then .error .invalidFrameSize
  else if calculateChecksum data.dropLast = data.getLastD 0 then .ok ()
  else .error .checksumError

/-! ## Control octets -/

/-- `mask` when the flag is set. -/
def flag (b : Bool) (mask : UInt8) : UInt8 := if b then mask else 0

/-- First octet of a frame. Bits 1 and 0 carry the ack-request and confirm flags. -/
def controlField (extended : Bool) (f : LDataFrame) : UInt8 :=
  flag (!extended) 0x80 ||| flag (!f.repeated) 0x20 ||| (0x10 : UInt8)
    ||| ((f.priority.toBits <<< 2) &&& (0x0C : UInt8))
    ||| flag f.ackRequested 0x02 ||| flag f.confirmation 0x01

/-- Second control octet of an extended frame. -/
def extendedControlField (f : LDataFrame) : UInt8 :=
  ((f.hopCount &&& 0x07) <<< 4) ||| flag f.destinationType.isGroupAddress 0x80

/-- Address type, hop count and length octet of a standard frame. -/
def lengthField (f : LDataFrame) : UInt8 :=
  ((f.hopCount <<< 4) ||| ((UInt8.ofNat (f.tpdu.size - 1)) &&& (0x0F : UInt8)))
    ||| flag f.destinationType.isGroupAddress 0x80

/-! ## Encoding -/

/-- Octets of a frame before the checksum. -/
def frameOctets (f : LDataFrame) : List UInt8 :=
  let extended := decide (16 < f.tpdu.size)
  [controlField extended f]
    ++ (if extended then [extendedControlField f] else [])
    ++ [highByte f.source.raw, lowByte f.source.raw,
        highByte f.destination.raw, lowByte f.destination.raw]
    ++ (if extended then [UInt8.ofNat (f.tpdu.size - 1)] else [lengthField f])
    ++ f.tpdu.data

/-- `FrameCodec::encodeFrame` into a buffer of `bufferSize` octets: the octets written. -/
def encodeFrame (f : LDataFrame) (bufferSize : Nat) : Result (List UInt8) :=
  if !f.isValid then .error .invalidParameter
  else if f.tpdu.size = 0 ∨ 256 < f.tpdu.size then .error .invalidFrameSize
  else if bufferSize < (if 16 < f.tpdu.size then 8 else 7) + f.tpdu.size then
    .error .bufferTooSmall
  else .ok (frameOctets f ++ [calculateChecksum (frameOctets f)])

/-! ## Decoding -/

/-- What the header of a frame says, and where its TPDU starts. -/
structure FrameHeader where
  source : IndividualAddress
  destination : GroupAddress
  destinationType : AddressType
  hopCount : UInt8
  tpduLength : Nat
  tpduStart : Nat

/-- Address type of an octet whose top bit is the group flag. -/
def addressTypeOf (b : UInt8) : AddressType := if b &&& 0x80 = 0 then .individual else .group

/-- Header of an extended frame: CTRLE, addresses, eight-bit length. -/
def readExtendedHeader (buffer : List UInt8) : Checked ErrorCode FrameHeader :=
  if buffer.length < 9 then .fail .invalidFrameSize
  else do
    let ctrle ← readAt buffer 1
    if ctrle &&& 0x0F ≠ 0 then .fail .invalidFrameSize
    else do
      let srcHi ← readAt buffer 2
      let srcLo ← readAt buffer 3
      let dstHi ← readAt buffer 4
      let dstLo ← readAt buffer 5
      let len ← readAt buffer 6
      .done ⟨⟨joinBytes srcHi srcLo⟩, ⟨joinBytes dstHi dstLo⟩, addressTypeOf ctrle,
        (ctrle >>> 4) &&& 0x07, len.toNat + 1, 7⟩

/-- Header of a standard frame: addresses and the combined length octet. -/
def readStandardHeader (buffer : List UInt8) : Checked ErrorCode FrameHeader := do
  let srcHi ← readAt buffer 1
  let srcLo ← readAt buffer 2
  let dstHi ← readAt buffer 3
  let dstLo ← readAt buffer 4
  let len ← readAt buffer 5
  .done ⟨⟨joinBytes srcHi srcLo⟩, ⟨joinBytes dstHi dstLo⟩, addressTypeOf len,
    (len >>> 4) &&& 0x07, (len &&& 0x0F).toNat + 1, 6⟩

/-- Header of the frame format that the control octet names. -/
def readHeader (ctrl : UInt8) (buffer : List UInt8) : Checked ErrorCode FrameHeader :=
  if ctrl &&& 0x80 = 0 then readExtendedHeader buffer else readStandardHeader buffer

/-- The frame a control octet, a header and the TPDU octets stand for. -/
def assembleFrame (ctrl : UInt8) (h : FrameHeader) (octets : List UInt8) : LDataFrame where
  standardFrame := ctrl &&& 0x80 != 0
  repeated := ctrl &&& 0x20 == 0
  priority := .ofBits ((ctrl &&& 0x0C) >>> 2)
  ackRequested := ctrl &&& 0x02 != 0
  confirmation := ctrl &&& 0x01 != 0
  source := h.source
  destination := h.destination
  destinationType := h.destinationType
  hopCount := h.hopCount
  tpdu := (FixedVector.clear.assign octets).2

/-- `FrameCodec::decodeFrame`. -/
def decodeFrame (buffer : List UInt8) : Checked ErrorCode LDataFrame :=
  if buffer.length < 7 then .fail .invalidFrameSize
  else
    match verifyChecksum buffer with
    | .error e => .fail e
    | .ok () => do
        let ctrl ← readAt buffer 0
        if ctrl &&& 0x40 ≠ 0 then .fail .invalidFrameSize
        else do
          let header ← readHeader ctrl buffer
          if buffer.length ≠ header.tpduStart + header.tpduLength + 1 then .fail .invalidFrameSize
          else if header.hopCount > 7 then .fail .invalidFrameSize
          else if header.tpduLength < 1 then .fail .invalidFrameSize
          else do
            let octets ← readSpan buffer header.tpduStart header.tpduLength
            let frame := assembleFrame ctrl header octets
            if frame.isValid then .done frame else .fail .decodeFailed

/-! ## What decoding guarantees -/

/-- What the decoder found in the octets it accepted: the control octet, the header of the format it
names, and a frame assembled from exactly the octets between header and checksum. -/
structure Decoded (buffer : List UInt8) (f : LDataFrame) (ctrl : UInt8) (header : FrameHeader) :
    Prop where
  length : 7 ≤ buffer.length
  checksum : verifyChecksum buffer = .ok ()
  control : (readAt buffer 0 : Checked ErrorCode UInt8) = .done ctrl
  reserved : ctrl &&& 0x40 = 0
  head : readHeader ctrl buffer = .done header
  total : buffer.length = header.tpduStart + header.tpduLength + 1
  hopCount : ¬ header.hopCount > 7
  nonempty : ¬ header.tpduLength < 1
  frame : f = assembleFrame ctrl header ((buffer.drop header.tpduStart).take header.tpduLength)
  valid : f.isValid = true

/-- Acceptance, said once: the decoder returns a frame exactly when every check on the way
passed. -/
theorem decodeFrame_eq_done {buffer : List UInt8} {f : LDataFrame} :
    decodeFrame buffer = .done f ↔ ∃ ctrl header, Decoded buffer f ctrl header := by
  constructor
  · intro hd
    unfold decodeFrame at hd
    obtain ⟨hlength, hd⟩ := Checked.guard_eq_done.mp hd
    cases hc : verifyChecksum buffer with
    | error e =>
      rw [hc] at hd
      cases hd
    | ok u =>
      rw [hc] at hd
      obtain ⟨ctrl, hctrl, hd⟩ := Checked.bind_eq_done.mp hd
      obtain ⟨hreserved, hd⟩ := Checked.guard_eq_done.mp hd
      obtain ⟨header, hheader, hd⟩ := Checked.bind_eq_done.mp hd
      obtain ⟨htotal, hd⟩ := Checked.guard_eq_done.mp hd
      obtain ⟨hhop, hd⟩ := Checked.guard_eq_done.mp hd
      obtain ⟨hnonempty, hd⟩ := Checked.guard_eq_done.mp hd
      obtain ⟨octets, hoctets, hd⟩ := Checked.bind_eq_done.mp hd
      rw [readSpan_of_le (by omega)] at hoctets
      cases hoctets
      by_cases hv : (assembleFrame ctrl header
          ((buffer.drop header.tpduStart).take header.tpduLength)).isValid = true
      · rw [if_pos hv] at hd
        cases hd
        exact ⟨ctrl, header, by omega, hc, hctrl, not_not.mp hreserved, hheader, not_not.mp htotal,
          hhop, hnonempty, rfl, hv⟩
      · rw [if_neg hv] at hd
        cases hd
  · rintro ⟨ctrl, header, d⟩
    have hle : header.tpduStart + header.tpduLength ≤ buffer.length := by
      have htotal := d.total
      omega
    have hspan : (readSpan buffer header.tpduStart header.tpduLength :
        Checked ErrorCode (List UInt8)) = _ := readSpan_of_le hle
    have hvalid := d.valid
    rw [d.frame] at hvalid
    rw [decodeFrame, if_neg (by have := d.length; omega), d.checksum]
    simp only [d.control, Checked.done_bind, d.reserved, ne_eq, not_true_eq_false, if_false, d.head,
      ← d.total, d.hopCount, d.nonempty, hspan, hvalid, if_true, d.frame]

theorem decodeFrame_accepts {buffer : List UInt8} {f : LDataFrame}
    (hd : decodeFrame buffer = .done f) : f.isValid = true ∧ 1 ≤ f.tpdu.size := by
  obtain ⟨ctrl, header, d⟩ := decodeFrame_eq_done.mp hd
  have hvalid := d.valid
  refine ⟨hvalid, ?_⟩
  -- a frame without TPDU octets is not valid
  unfold LDataFrame.isValid at hvalid
  simp only [Bool.and_eq_true, Bool.not_eq_true', decide_eq_true_eq] at hvalid
  obtain ⟨⟨⟨-, hne⟩, -⟩, -⟩ := hvalid
  have hdata : f.tpdu.data ≠ [] := by
    intro h
    rw [(FixedVector.isEmpty_iff f.tpdu).2 h] at hne
    cases hne
  exact List.length_pos_of_ne_nil hdata

theorem isValid_hopCount {f : LDataFrame} (hv : f.isValid = true) : f.hopCount ≤ 7 := by
  unfold LDataFrame.isValid at hv
  simp only [Bool.and_eq_true, decide_eq_true_eq] at hv
  exact hv.2

theorem encodeFrame_ok_of_isValid {f : LDataFrame} {bufferSize : Nat} (hv : f.isValid = true)
    (hne : 1 ≤ f.tpdu.size) (hb : maxTp1FrameSize ≤ bufferSize) :
    encodeFrame f bufferSize = .ok (frameOctets f ++ [calculateChecksum (frameOctets f)]) := by
  have hle : f.tpdu.size ≤ 256 := f.tpdu.size_le
  unfold maxTp1FrameSize maxFrameSize at hb
  unfold encodeFrame
  rw [if_neg (by simp [hv]), if_neg (by omega), if_neg (by split <;> omega)]

end KnxStack.Datalink
