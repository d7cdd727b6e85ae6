import KnxStack.Datalink.FrameCodec
import Mathlib.Data.List.GetD

/-!
# cEMI framing of L_Data

The cEMI form of a data link frame (`netip/cemi.cpp`) and the interface that carries frames between
a TP1 line and KNXnet/IP tunnels (`network/tp1_ip_interface_bridge.cpp`).

A cEMI message is the message code, the length of the additional information and that information,
two control octets, source, destination, the NPDU length and the TPDU. The position of everything
behind the additional information depends on two octets of the message itself.

`decodeCemiLData_fine_iff` says when the decoder stays inside its input, and
`crossesBridge_iff` which TP1 frames survive the way through the interface.
-/

set_option autoImplicit false

namespace KnxStack.Netip

open KnxStack.Lib KnxStack.Lib.Words KnxStack.Datalink

/-- Header octets of a message without additional information. -/
def kCemiLDataHeaderSize : Nat := 9

/-- Largest TPDU of a message. -/
def kMaxCemiTpduSize : Nat := 256

/-- Size of the buffer that holds any message. -/
def kMaxCemiLDataSize : Nat := kCemiLDataHeaderSize + kMaxCemiTpduSize

/-- Number of octets of the message for a TPDU size. -/
def encodedCemiLDataSize (tpduSize : Nat) : Nat := kCemiLDataHeaderSize + tpduSize

/-- `L_Data.req`, `L_Data.ind` and `L_Data.con`. -/
def isSupportedLDataMessageCode (messageCode : UInt8) : Bool :=
  messageCode == 0x11 || messageCode == 0x29 || messageCode == 0x2E

/-! ## Encoding -/

/-- The group destination `0/0/0` travels in the system-broadcast domain. -/
def isSystemBroadcast (f : LDataFrame) : Bool :=
  f.destinationType.isGroupAddress && f.destination.raw == 0x0000

/-- Control field 1. -/
def cemiControlField1 (f : LDataFrame) : UInt8 :=
  flag f.standardFrame 0x80 ||| flag (!f.repeated) 0x20 ||| flag (!isSystemBroadcast f) 0x10
    ||| ((f.priority.toBits <<< 2) &&& (0x0C : UInt8))
    ||| flag f.ackRequested 0x02 ||| flag f.confirmation 0x01

/-- Control field 2: destination type and hop count. -/
def cemiControlField2 (f : LDataFrame) : UInt8 :=
  flag f.destinationType.isGroupAddress 0x80 ||| ((f.hopCount &&& 0x07) <<< 4)

/-- Octets of the message. -/
def cemiOctets (f : LDataFrame) (messageCode : UInt8) : List UInt8 :=
  [messageCode, 0x00, cemiControlField1 f, cemiControlField2 f,
    highByte f.source.raw, lowByte f.source.raw,
    highByte f.destination.raw, lowByte f.destination.raw,
    UInt8.ofNat (f.tpdu.size - 1)] ++ f.tpdu.data

/-- `encodeCemiLData` into a buffer of `outSize` octets: the octets written. -/
def encodeCemiLData (f : LDataFrame) (messageCode : UInt8) (outSize : Nat) :
    Result (List UInt8) :=
  if !isSupportedLDataMessageCode messageCode then .error .invalidParameter
  else if f.tpdu.size < 2 ∨ 256 < f.tpdu.size then .error .invalidParameter
  else if outSize < encodedCemiLDataSize f.tpdu.size then .error .bufferTooSmall
  else .ok (cemiOctets f messageCode)

/-! ## Decoding -/

/-- The frame that two control fields, the addresses and a TPDU stand for. -/
def cemiFrame (cf1 cf2 : UInt8) (source : IndividualAddress) (destination : GroupAddress)
    (tpdu : FixedVector UInt8 maxFrameSize) : LDataFrame where
  standardFrame := cf1 &&& 0x80 != 0
  repeated := cf1 &&& 0x20 == 0
  priority := .ofBits ((cf1 &&& 0x0C) >>> 2)
  ackRequested := cf1 &&& 0x02 != 0
  confirmation := cf1 &&& 0x01 != 0
  source := source
  destination := destination
  destinationType := addressTypeOf cf2
  hopCount := (cf2 &&& 0x70) >>> 4
  tpdu := tpdu

/-- Addresses, NPDU length and TPDU, from position `idx` on, for the given control fields. -/
def decodeCemiBody (buffer : List UInt8) (idx : Nat) (cf1 cf2 : UInt8) :
    Checked ErrorCode LDataFrame := do
  let srcHi ← readAt buffer idx
  let srcLo ← readAt buffer (idx + 1)
  let dstHi ← readAt buffer (idx + 2)
  let dstLo ← readAt buffer (idx + 3)
  let npduLen ← readAt buffer (idx + 4)
  let tpduLen := npduLen.toNat + 1
  if tpduLen < 2 then .fail .decodeFailed
  else if buffer.length < idx + 5 + tpduLen then .fail .invalidFrameSize
  else do
    let octets ← readSpan buffer (idx + 5) tpduLen
    let assigned := (FixedVector.clear : FixedVector UInt8 maxFrameSize).assign octets
    if !assigned.1 then .fail .bufferTooSmall
    -- no trailing octets
    else if idx + 5 + tpduLen ≠ buffer.length then .fail .invalidFrameSize
    else .done (cemiFrame cf1 cf2 ⟨joinBytes srcHi srcLo⟩ ⟨joinBytes dstHi dstLo⟩ assigned.2)

/-- `decodeCemiLData`: the frame and the message code. -/
def decodeCemiLData (buffer : List UInt8) : Checked ErrorCode (LDataFrame × UInt8) :=
  if buffer.length < 11 then .fail .invalidFrameSize
  else do
    let messageCode ← readAt buffer 0
    if !isSupportedLDataMessageCode messageCode then .fail .decodeFailed
    else do
      let addInfoLen ← readAt buffer 1
      if buffer.length < 2 + addInfoLen.toNat + 1 then .fail .invalidFrameSize
      else do
        let idx := 2 + addInfoLen.toNat
        let cf1 ← readAt buffer idx
        let cf2 ← readAt buffer (idx + 1)
        if cf1 &&& 0x80 ≠ 0 ∧ cf2 &&& 0x0F ≠ 0 then .fail .decodeFailed
        else if buffer.length < idx + 2 + 6 then .fail .invalidFrameSize
        else do
          let frame ← decodeCemiBody buffer (idx + 2) cf1 cf2
          .done (frame, messageCode)

/-! ## Reads inside the input -/

/-- Octets the message announces by its own two length octets; a missing length octet counts as
zero, so an incomplete message is always shorter than this. -/
def requiredSize (buffer : List UInt8) : Nat :=
  10 + (buffer.getD 1 0).toNat + (buffer.getD (8 + (buffer.getD 1 0).toNat) 0).toNat

/-- The message ends right behind control field 1: the additional information takes everything up
to the last octet. -/
def EndsAtControlField1 (buffer : List UInt8) : Prop :=
  11 ≤ buffer.length ∧ isSupportedLDataMessageCode (buffer.getD 0 0) = true ∧
    buffer.length = (buffer.getD 1 0).toNat + 3

/-- No stray read, and an error whenever an announced octet is missing. -/
def DecodesSafely (buffer : List UInt8) : Prop :=
  (decodeCemiLData buffer).InBounds ∧
    (buffer.length < requiredSize buffer → ∃ e, decodeCemiLData buffer = .fail e)

theorem decodeCemiBody_inBounds {buffer : List UInt8} {idx : Nat} (cf1 cf2 : UInt8)
    (h : idx + 6 ≤ buffer.length) : (decodeCemiBody buffer idx cf1 cf2).InBounds := by
  unfold decodeCemiBody
  simp only [readAt_of_lt (show idx < buffer.length by omega),
    readAt_of_lt (show idx + 1 < buffer.length by omega),
    readAt_of_lt (show idx + 2 < buffer.length by omega),
    readAt_of_lt (show idx + 3 < buffer.length by omega),
    readAt_of_lt (show idx + 4 < buffer.length by omega), Checked.done_bind]
  split
  · exact Checked.inBounds_fail _
  · split
    · exact Checked.inBounds_fail _
    · next hspan =>
      rw [readSpan_of_le (by omega), Checked.done_bind]
      split
      · exact Checked.inBounds_fail _
      · split
        · exact Checked.inBounds_fail _
        · exact Checked.inBounds_done _

theorem decodeCemiBody_complete {buffer : List UInt8} {idx : Nat} {cf1 cf2 : UInt8}
    {f : LDataFrame} (h : idx + 6 ≤ buffer.length)
    (hd : decodeCemiBody buffer idx cf1 cf2 = .done f) :
    idx + 6 + (buffer.getD (idx + 4) 0).toNat ≤ buffer.length := by
  unfold decodeCemiBody at hd
  simp only [readAt_of_lt (show idx < buffer.length by omega),
    readAt_of_lt (show idx + 1 < buffer.length by omega),
    readAt_of_lt (show idx + 2 < buffer.length by omega),
    readAt_of_lt (show idx + 3 < buffer.length by omega),
    readAt_of_lt (show idx + 4 < buffer.length by omega), Checked.done_bind] at hd
  obtain ⟨-, hd⟩ := Checked.guard_eq_done.mp hd
  obtain ⟨hlen, -⟩ := Checked.guard_eq_done.mp hd
  rw [List.getD_eq_getElem buffer 0 (show idx + 4 < buffer.length by omega)]
  omega

theorem decodeCemiLData_refuses {buffer : List UInt8}
    (h : buffer.length < 11 ∨ isSupportedLDataMessageCode (buffer.getD 0 0) = false ∨
      buffer.length < (buffer.getD 1 0).toNat + 3) :
    ∃ e, decodeCemiLData buffer = .fail e := by
  unfold decodeCemiLData
  by_cases hlen : buffer.length < 11
  · exact ⟨_, if_pos hlen⟩
  · rw [if_neg hlen]
    rw [List.getD_eq_getElem buffer 0 (show 0 < buffer.length by omega),
      List.getD_eq_getElem buffer 0 (show 1 < buffer.length by omega)] at h
    simp only [readAt_of_lt (show 0 < buffer.length by omega),
      readAt_of_lt (show 1 < buffer.length by omega), Checked.done_bind]
    rcases h with h | h | h
    · exact absurd h hlen
    · exact ⟨_, if_pos (by simp [h])⟩
    · split
      · exact ⟨_, rfl⟩
      · exact ⟨_, if_pos (by omega)⟩

theorem decodeCemiLData_of_reaches (buffer : List UInt8) (hlen : 11 ≤ buffer.length)
    (hcode : isSupportedLDataMessageCode (buffer.getD 0 0) = true)
    (hinfo : (buffer.getD 1 0).toNat + 3 ≤ buffer.length) :
    decodeCemiLData buffer = (do
      let cf1 ← readAt buffer ((buffer.getD 1 0).toNat + 2)
      let cf2 ← readAt buffer ((buffer.getD 1 0).toNat + 3)
      if cf1 &&& 0x80 ≠ 0 ∧ cf2 &&& 0x0F ≠ 0 then .fail .decodeFailed
      else if buffer.length < (buffer.getD 1 0).toNat + 10 then .fail .invalidFrameSize
      else do
        let frame ← decodeCemiBody buffer ((buffer.getD 1 0).toNat + 4) cf1 cf2
        .done (frame, buffer.getD 0 0)) := by
  unfold decodeCemiLData
  rw [List.getD_eq_getElem buffer 0 (show 0 < buffer.length by omega)] at *
  rw [List.getD_eq_getElem buffer 0 (show 1 < buffer.length by omega)] at *
  rw [if_neg (by omega)]
  simp only [readAt_of_lt (show 0 < buffer.length by omega),
    readAt_of_lt (show 1 < buffer.length by omega), Checked.done_bind]
  rw [if_neg (by simp [hcode]), if_neg (by omega)]
  have h2 : 2 + buffer[1].toNat = buffer[1].toNat + 2 := by omega
  rw [h2]

/-- Safety of the decoder. The decoder reads inside its input and reports every missing octet,
except on the messages that end right behind control field 1: there the length check lets control
field 2 be read one octet past the end. -/
theorem decodeCemiLData_fine_iff (buffer : List UInt8) :
    DecodesSafely buffer ↔ ¬ EndsAtControlField1 buffer := by
  by_cases hreach : 11 ≤ buffer.length ∧ isSupportedLDataMessageCode (buffer.getD 0 0) = true ∧
      (buffer.getD 1 0).toNat + 3 ≤ buffer.length
  · obtain ⟨hlen, hcode, hinfo⟩ := hreach
    have heq := decodeCemiLData_of_reaches buffer hlen hcode hinfo
    rw [readAt_of_lt (show (buffer.getD 1 0).toNat + 2 < buffer.length by omega),
      Checked.done_bind] at heq
    by_cases hend : buffer.length = (buffer.getD 1 0).toNat + 3
    · -- control field 2 is the octet behind the last one
      rw [readAt_of_le (show buffer.length ≤ (buffer.getD 1 0).toNat + 3 by omega),
        Checked.outOfBounds_bind] at heq
      refine ⟨fun hsafe => ?_, fun hnot => absurd ⟨hlen, hcode, hend⟩ hnot⟩
      exact absurd heq (hsafe.1 _)
    · refine ⟨fun _ hends => hend hends.2.2, fun _ => ?_⟩
      rw [readAt_of_lt (show (buffer.getD 1 0).toNat + 3 < buffer.length by omega),
        Checked.done_bind] at heq
      have hin : (decodeCemiLData buffer).InBounds := by
        rw [heq]
        split
        · exact Checked.inBounds_fail _
        · split
          · exact Checked.inBounds_fail _
          · next hsize =>
            have hbody := decodeCemiBody_inBounds buffer[(buffer.getD 1 0).toNat + 2]
              buffer[(buffer.getD 1 0).toNat + 3]
              (show (buffer.getD 1 0).toNat + 4 + 6 ≤ buffer.length by omega)
            exact hbody.bind fun _ => Checked.inBounds_done _
      refine ⟨hin, fun hmissing => ?_⟩
      cases hd : decodeCemiLData buffer with
      | fail e => exact ⟨e, rfl⟩
      | outOfBounds i => exact absurd hd (hin i)
      | done r =>
        -- an accepted message has every octet it announces
        rw [heq] at hd
        obtain ⟨-, hd⟩ := Checked.guard_eq_done.mp hd
        obtain ⟨hsize, hd⟩ := Checked.guard_eq_done.mp hd
        obtain ⟨f, hbody, -⟩ := Checked.bind_eq_done.mp hd
        have hcomplete := decodeCemiBody_complete (by omega) hbody
        unfold requiredSize at hmissing
        rw [show (buffer.getD 1 0).toNat + 4 + 4 = 8 + (buffer.getD 1 0).toNat by omega]
          at hcomplete
        omega
  · have hrefuse : buffer.length < 11 ∨ isSupportedLDataMessageCode (buffer.getD 0 0) = false ∨
        buffer.length < (buffer.getD 1 0).toNat + 3 := by
      by_contra hno
      push Not at hno
      exact hreach ⟨hno.1, by simpa using hno.2.1, hno.2.2⟩
    obtain ⟨e, he⟩ := decodeCemiLData_refuses hrefuse
    refine ⟨fun _ hends => hreach ⟨hends.1, hends.2.1, hends.2.2.ge⟩, fun _ => ⟨?_, fun _ => ⟨e, he⟩⟩⟩
    rw [he]
    exact Checked.inBounds_fail e

/-- Eight octets of additional information in an eleven-octet message: control field 2 would be
octet 11. -/
theorem decodeCemiLData_reads_past_end :
    ¬ DecodesSafely [0x29, 0x08, 0, 0, 0, 0, 0, 0, 0, 0, 0xBC] := by
  have hread : decodeCemiLData [0x29, 0x08, 0, 0, 0, 0, 0, 0, 0, 0, 0xBC]
      = .outOfBounds 11 := by decide
  rintro ⟨hin, -⟩
  exact hin 11 hread

/-! ## Round trip -/

theorem cemiControlField1_reads_back (f : LDataFrame) :
    (cemiControlField1 f &&& 0x80 != 0) = f.standardFrame ∧
      (cemiControlField1 f &&& 0x20 == 0) = f.repeated ∧
      Priority.ofBits ((cemiControlField1 f &&& 0x0C) >>> 2) = f.priority ∧
      (cemiControlField1 f &&& 0x02 != 0) = f.ackRequested ∧
      (cemiControlField1 f &&& 0x01 != 0) = f.confirmation := by
  unfold cemiControlField1
  generalize isSystemBroadcast f = broadcast
  cases f.priority <;> cases f.standardFrame <;> cases f.repeated <;> cases broadcast <;>
    cases f.ackRequested <;> cases f.confirmation <;> decide

/-- Destination type and hop count are read back from control field 2, whose low nibble is
zero. -/
theorem cemiControlField2_reads_back {f : LDataFrame} (hhop : f.hopCount ≤ 7) :
    cemiControlField2 f &&& 0x0F = 0 ∧ addressTypeOf (cemiControlField2 f) = f.destinationType ∧
      (cemiControlField2 f &&& 0x70) >>> 4 = f.hopCount := by
  unfold cemiControlField2
  have hall : ∀ h : BitVec 8, h.toNat ≤ 7 → ∀ b : Bool,
      (flag b 0x80 ||| ((UInt8.ofBitVec h &&& 0x07) <<< 4)) &&& (0x0F : UInt8) = 0 ∧
      addressTypeOf (flag b 0x80 ||| ((UInt8.ofBitVec h &&& 0x07) <<< 4))
        = (if b then .group else .individual) ∧
      ((flag b 0x80 ||| ((UInt8.ofBitVec h &&& 0x07) <<< 4)) &&& (0x70 : UInt8)) >>> 4
        = UInt8.ofBitVec h := by decide
  have hcase := hall f.hopCount.toBitVec hhop f.destinationType.isGroupAddress
  cases htype : f.destinationType with
  | individual => rw [htype] at hcase; exact hcase
  | group => rw [htype] at hcase; exact hcase

theorem decodeCemiLData_cemiOctets (f : LDataFrame) (messageCode : UInt8)
    (hcode : isSupportedLDataMessageCode messageCode = true) (hhop : f.hopCount ≤ 7)
    (hsize : 2 ≤ f.tpdu.size) :
    decodeCemiLData (cemiOctets f messageCode) = .done (f, messageCode) := by
  have hlen : (cemiOctets f messageCode).length = f.tpdu.size + 9 := by
    simp only [cemiOctets, List.length_append, List.length_cons, List.length_nil]
    exact Nat.add_comm _ _
  have hmax : f.tpdu.size ≤ 256 := f.tpdu.size_le
  have hinfo : ((cemiOctets f messageCode).getD 1 0).toNat = 0 := rfl
  have hnpdu : (UInt8.ofNat (f.tpdu.size - 1)).toNat + 1 = f.tpdu.size := by
    rw [UInt8.toNat_ofNat']
    omega
  obtain ⟨hnibble, htype, hhops⟩ := cemiControlField2_reads_back hhop
  obtain ⟨hstd, hrep, hprio, hack, hconf⟩ := cemiControlField1_reads_back f
  have hbody : decodeCemiBody (cemiOctets f messageCode) 4 (cemiControlField1 f)
      (cemiControlField2 f) = .done f := by
    unfold decodeCemiBody
    have hspan : readSpan (cemiOctets f messageCode) 9 f.tpdu.size
        = (.done f.tpdu.data : Checked ErrorCode (List UInt8)) := by
      rw [readSpan_of_le (by omega)]
      simp [cemiOctets, FixedVector.size]
    have hassign : (FixedVector.clear : FixedVector UInt8 maxFrameSize).assign f.tpdu.data
        = (true, f.tpdu) := FixedVector.assign_of_le _ f.tpdu.size_le
    have hsrcHi : readAt (cemiOctets f messageCode) 4
        = (.done (highByte f.source.raw) : Checked ErrorCode UInt8) := rfl
    have hsrcLo : readAt (cemiOctets f messageCode) 5
        = (.done (lowByte f.source.raw) : Checked ErrorCode UInt8) := rfl
    have hdstHi : readAt (cemiOctets f messageCode) 6
        = (.done (highByte f.destination.raw) : Checked ErrorCode UInt8) := rfl
    have hdstLo : readAt (cemiOctets f messageCode) 7
        = (.done (lowByte f.destination.raw) : Checked ErrorCode UInt8) := rfl
    have hnpduLen : readAt (cemiOctets f messageCode) 8
        = (.done (UInt8.ofNat (f.tpdu.size - 1)) : Checked ErrorCode UInt8) := rfl
    simp only [hsrcHi, hsrcLo, hdstHi, hdstLo, hnpduLen, Checked.done_bind, hnpdu, Nat.reduceAdd]
    rw [if_neg (by omega), if_neg (by omega), hspan, Checked.done_bind, hassign]
    simp only [Bool.not_true, Bool.false_eq_true, if_false, joinBytes_highByte_lowByte]
    rw [if_neg (by omega)]
    simp only [cemiFrame, hstd, hrep, hprio, hack, hconf, htype, hhops]
  rw [decodeCemiLData_of_reaches (cemiOctets f messageCode) (by omega) hcode (by omega), hinfo]
  have hcf1 : readAt (cemiOctets f messageCode) 2
      = (.done (cemiControlField1 f) : Checked ErrorCode UInt8) := rfl
  have hcf2 : readAt (cemiOctets f messageCode) 3
      = (.done (cemiControlField2 f) : Checked ErrorCode UInt8) := rfl
  simp only [Nat.zero_add, hcf1, hcf2, Checked.done_bind]
  rw [if_neg (by rw [hnibble]; simp), if_neg (by omega), hbody, Checked.done_bind]
  rfl

/-! ## The TP1/IP interface -/

/-- Counters of the interface (`Tp1IpInterfaceBridge::Statistics`). -/
structure Statistics where
  tp1ToIpForwarded : Nat := 0
  ipToTp1Forwarded : Nat := 0
  tp1ToIpDropped : Nat := 0
  ipToTp1Dropped : Nat := 0
  deriving DecidableEq

/-- The interface with the two sides it joins: the tunnelling server, which says how many channels
it served, and the TP1 line. -/
structure Tp1IpInterfaceBridge where
  sendCemiToAll : List UInt8 → Result Nat
  sendFrame : LDataFrame → Result Unit
  statistics : Statistics := {}

namespace Tp1IpInterfaceBridge

/-- `onTp1Frame`: a frame from the line goes out as `L_Data.ind` on every tunnel. -/
def onTp1Frame (b : Tp1IpInterfaceBridge) (f : LDataFrame) : Tp1IpInterfaceBridge :=
  match encodeCemiLData f 0x29 kMaxCemiLDataSize with
  | .error _ =>
      { b with statistics.tp1ToIpDropped := b.statistics.tp1ToIpDropped + 1 }
  | .ok cemi =>
      match b.sendCemiToAll cemi with
      | .error _ => { b with statistics.tp1ToIpDropped := b.statistics.tp1ToIpDropped + 1 }
      | .ok n => { b with statistics.tp1ToIpForwarded := b.statistics.tp1ToIpForwarded + n }

/-- `onTunnelingCemi`: a message from a tunnel goes out as a frame on the line. -/
def onTunnelingCemi (b : Tp1IpInterfaceBridge) (cemi : List UInt8) : Tp1IpInterfaceBridge :=
  match decodeCemiLData cemi with
  | .done (f, _) =>
      match b.sendFrame f with
      | .error _ => { b with statistics.ipToTp1Dropped := b.statistics.ipToTp1Dropped + 1 }
      | .ok () => { b with statistics.ipToTp1Forwarded := b.statistics.ipToTp1Forwarded + 1 }
  | _ => { b with statistics.ipToTp1Dropped := b.statistics.ipToTp1Dropped + 1 }

theorem onTunnelingCemi_cemiOctets (b : Tp1IpInterfaceBridge) {f : LDataFrame} {code : UInt8}
    (hcode : isSupportedLDataMessageCode code = true) (hhop : f.hopCount ≤ 7)
    (hsize : 2 ≤ f.tpdu.size) (hsend : b.sendFrame f = .ok ()) :
    b.onTunnelingCemi (cemiOctets f code)
      = { b with statistics.ipToTp1Forwarded := b.statistics.ipToTp1Forwarded + 1 } := by
  unfold onTunnelingCemi
  rw [decodeCemiLData_cemiOctets f code hcode hhop hsize]
  simp only [hsend]

end Tp1IpInterfaceBridge

/-- The frame crosses the interface unchanged: its cEMI form fits the buffer, decodes to the same
frame under the same message code, and the frame is encodable on TP1 again. -/
def CrossesBridge (f : LDataFrame) : Prop :=
  (∃ cemi, encodeCemiLData f 0x29 kMaxCemiLDataSize = .ok cemi ∧
      decodeCemiLData cemi = .done (f, 0x29)) ∧
    ∃ wire, encodeFrame f maxTp1FrameSize = .ok wire

theorem encodeCemiLData_one_octet {f : LDataFrame} (h : f.tpdu.size < 2) :
    encodeCemiLData f 0x29 kMaxCemiLDataSize = .error .invalidParameter := by
  unfold encodeCemiLData
  rw [if_neg (by decide), if_pos (Or.inl h)]

theorem onTp1Frame_one_octet (b : Tp1IpInterfaceBridge) {f : LDataFrame} (h : f.tpdu.size < 2) :
    b.onTp1Frame f
      = { b with statistics.tp1ToIpDropped := b.statistics.tp1ToIpDropped + 1 } := by
  unfold Tp1IpInterfaceBridge.onTp1Frame
  rw [encodeCemiLData_one_octet h]

/-- Transparency of the interface. Of the frames the TP1 decoder accepts exactly those with at
least two TPDU octets cross the interface unchanged. -/
theorem crossesBridge_iff (buffer : List UInt8) {f : LDataFrame}
    (hd : decodeFrame buffer = .done f) : CrossesBridge f ↔ 2 ≤ f.tpdu.size := by
  obtain ⟨hvalid, hne⟩ := decodeFrame_accepts hd
  constructor
  · rintro ⟨⟨cemi, hcemi, -⟩, -⟩
    by_contra hsmall
    rw [encodeCemiLData_one_octet (by omega)] at hcemi
    cases hcemi
  · intro hsize
    have hmax : f.tpdu.size ≤ 256 := f.tpdu.size_le
    have hencode : encodeCemiLData f 0x29 kMaxCemiLDataSize = .ok (cemiOctets f 0x29) := by
      unfold encodeCemiLData
      rw [if_neg (by decide), if_neg (by omega), if_neg]
      unfold kMaxCemiLDataSize encodedCemiLDataSize kMaxCemiTpduSize
      omega
    have hback := decodeCemiLData_cemiOctets f 0x29 (by decide) (isValid_hopCount hvalid) hsize
    exact ⟨⟨_, hencode, hback⟩, _, encodeFrame_ok_of_isValid hvalid hne le_rfl⟩

/-- A `DeviceDescriptor_Read` from 1.1.1 to 1.1.2, as decoded from its TP1 octets, crosses. -/
theorem crossesBridge_deviceDescriptorRead :
    ∃ f, decodeFrame [0xBC, 0x11, 0x01, 0x11, 0x02, 0x61, 0x03, 0x00, 0x22] = .done f ∧
      CrossesBridge f := by
  refine ⟨
    { ackRequested := false
      source := ⟨0x1101⟩
      destination := ⟨0x1102⟩
      destinationType := .individual
      tpdu := ⟨[0x03, 0x00], by decide⟩ }, by decide, ?_⟩
  exact (crossesBridge_iff [0xBC, 0x11, 0x01, 0x11, 0x02, 0x61, 0x03, 0x00, 0x22]
    (by decide)).2 (by decide)

/-- A `T_Connect` from 1.1.1 to 1.1.2 is a valid TP1 frame and does not cross. -/
theorem tConnect_does_not_cross :
    ∃ f, decodeFrame [0xBC, 0x11, 0x01, 0x11, 0x02, 0x60, 0x80, 0xA0] = .done f ∧
      ¬ CrossesBridge f := by
  refine ⟨
    { ackRequested := false
      source := ⟨0x1101⟩
      destination := ⟨0x1102⟩
      destinationType := .individual
      tpdu := ⟨[0x80], by decide⟩ }, by decide, ?_⟩
  rintro ⟨⟨cemi, hcemi, -⟩, -⟩
  rw [encodeCemiLData_one_octet (by decide)] at hcemi
  cases hcemi

end KnxStack.Netip
