import KnxStack.Netip.Cemi
import KnxStack.Netip.ControlPacket
import KnxStack.Datalink.CodecInversion

/-!
# Telegrams that come in over IP

`IpRoutingPhysical` and `IpTunnelingPhysical` (`physical/ip_routing_physical.cpp`,
`physical/ip_tunneling_physical.cpp`) turn a cEMI message into the octets of a TP1 frame for the data
link layer. Both encode the frame into a buffer of 64 octets, in the format that its length calls for.

- `reencode_iff`: the octets stand for the frame of the message if it fits the buffer and announces the
  format of its length.
- `ip_media_deliver_iff`: what that means for the two media; the message in a ROUTING_INDICATION is
  copied into a buffer of its own first.
-/

set_option autoImplicit false

namespace KnxStack.Physical

open KnxStack.Lib KnxStack.Lib.Octets KnxStack.Lib.Words KnxStack.Datalink KnxStack.Netip

/-! ## Inbound -/

/-- Size of the buffer that a frame is encoded into, in both media. -/
def tp1BufferSize : Nat := 64

/-- `decodeCemiLData`, then `FrameCodec::encodeFrame`: the octets for the data link layer. -/
def reencode (cemi : List UInt8) : Option (List UInt8) :=
  match decodeCemiLData cemi with
  | .done (frame, _) =>
    match encodeFrame frame tp1BufferSize with
    | .ok octets => some octets
    | .error _ => none
  | _ => none

/-- `RoutingCodec::ST_ROUTING_INDICATION`. -/
def routingIndication : UInt16 := 0x0530

/-- `RoutingCodec::ST_ROUTING_LOST_MESSAGE`. -/
def routingLostMessage : UInt16 := 0x0531

/-- `RoutingCodec::encodeRoutingIndication`: what a sender puts on the network. -/
def encodeRoutingIndication (cemi : List UInt8) : List UInt8 :=
  encodeHeader routingIndication cemi.length ++ cemi

/-- `RoutingEndpoint::receiveRoutingIndication`, on a datagram of the socket (of the secure channel,
where there is one): the message, into a buffer of `cemiOutSize` octets. The counters of lost messages
are left out. -/
def receiveRoutingIndication (datagram : List UInt8) (cemiOutSize : Nat) : Result (List UInt8) :=
  match decodeHeader datagram with
  | .done header =>
    if header.serviceType = routingIndication then
      match payloadSpan datagram routingIndication with
      | .done cemi => if cemiOutSize < cemi.length then .error .bufferTooSmall else .ok cemi
      | _ => .error .decodeFailed
    else if header.serviceType = routingLostMessage then .error .resourceUnavailable
    else .error .operationNotSupported
  | _ => .error .decodeFailed

/-- What both media keep for `pollReceive`. -/
structure IpReceive where
  rxQueue : List (List UInt8) := []
  lastReceivedFrame : List UInt8 := []
  rxActive : Bool := false
  rxDeadlineMs : UInt64 := 0
  deriving DecidableEq, Repr

/-- The front of the queue, as `pollReceive` takes it. -/
def IpReceive.takeFront (r : IpReceive) : Option (List UInt8) × IpReceive :=
  match r.rxQueue with
  | [] => (none, r)
  | front :: rest => (some front, { r with
      rxQueue := rest, lastReceivedFrame := front, rxActive := false })

/-- `IpRoutingPhysical`. The largest number of frames is never zero; `rxDropped` is a 64-bit count. -/
structure IpRoutingPhysical where
  receive : IpReceive := {}
  maxRxQueueDepth : Nat := 32
  maxRxQueueDepth_pos : 0 < maxRxQueueDepth := by decide
  rxDropped : Nat := 0
  deriving DecidableEq

namespace IpRoutingPhysical

/-- `setMaxRxQueueDepth`. The frames that wait stay. -/
def setMaxRxQueueDepth (p : IpRoutingPhysical) (maxFrames : Nat) : IpRoutingPhysical :=
  if h : maxFrames = 0 then { p with maxRxQueueDepth := 1, maxRxQueueDepth_pos := Nat.one_pos }
  else { p with maxRxQueueDepth := maxFrames, maxRxQueueDepth_pos := Nat.pos_of_ne_zero h }

/-- What `drainInboundOnce` hands up for a datagram. -/
def inbound (datagram : List UInt8) : Option (List UInt8) :=
  match receiveRoutingIndication datagram kMaxCemiLDataSize with
  | .ok cemi => reencode cemi
  | .error _ => none

/-- The queue with a frame at its end; the oldest go when there are more than the largest number. -/
def enqueue (p : IpRoutingPhysical) (octets : List UInt8) : IpRoutingPhysical :=
  let queue := p.receive.rxQueue ++ [octets]
  let dropped := queue.length - p.maxRxQueueDepth
  { p with
    receive := { p.receive with rxQueue := queue.drop dropped }
    rxDropped := p.rxDropped + dropped }

/-- `drainInboundOnce`, on a datagram that is there. -/
def drainInboundOnce (p : IpRoutingPhysical) (datagram : List UInt8) : IpRoutingPhysical :=
  match inbound datagram with
  | some octets => p.enqueue octets
  | none => p

end IpRoutingPhysical

/-- `IpTunnelingPhysical`. -/
structure IpTunnelingPhysical where
  receive : IpReceive := {}
  deriving DecidableEq, Repr

namespace IpTunnelingPhysical

/-- The callback on a message from the tunnel. -/
def receiveCallback (p : IpTunnelingPhysical) (cemi : List UInt8) : IpTunnelingPhysical :=
  match reencode cemi with
  | some octets => { p with receive := { p.receive with rxQueue := p.receive.rxQueue ++ [octets] } }
  | none => p

end IpTunnelingPhysical

/-! ## Which frames arrive -/

/-- The frame announces the format that its length calls for, and fits the buffer. -/
def Reencodes (frame : LDataFrame) : Prop :=
  frame.tpdu.size ≤ 56 ∧ frame.standardFrame = decide (frame.tpdu.size ≤ 16)

instance (frame : LDataFrame) : Decidable (Reencodes frame) := inferInstanceAs (Decidable (_ ∧ _))

theorem isValid_of_encodeFrame {frame : LDataFrame} {bufferSize : Nat} {octets : List UInt8}
    (h : encodeFrame frame bufferSize = .ok octets) :
    frame.isValid = true ∧ 1 ≤ frame.tpdu.size := by
  unfold encodeFrame at h
  split at h
  · cases h
  · rename_i hvalid
    split at h
    · cases h
    · rename_i hsize
      constructor
      · simpa using hvalid
      · omega

theorem encodeFrame_small {frame : LDataFrame} (hvalid : frame.isValid = true)
    (hsize : 1 ≤ frame.tpdu.size) :
    encodeFrame frame tp1BufferSize =
      if frame.tpdu.size ≤ 56 then
        .ok (frameOctets frame ++ [calculateChecksum (frameOctets frame)])
      else .error .bufferTooSmall := by
  have hle : frame.tpdu.size ≤ 256 := frame.tpdu.size_le
  unfold encodeFrame tp1BufferSize
  rw [if_neg (by simp [hvalid]), if_neg (by omega)]
  by_cases hfits : frame.tpdu.size ≤ 56
  · rw [if_pos hfits, if_neg (by split <;> omega)]
  · rw [if_neg hfits, if_pos (by rw [if_pos (show 16 < frame.tpdu.size by omega)]; omega)]

/-- Encoding again: the octets stand for the frame of the message if and only if they fit the buffer
and the message announces the format of its length. -/
theorem reencode_iff {cemi : List UInt8} {frame : LDataFrame} {messageCode : UInt8}
    (hd : decodeCemiLData cemi = .done (frame, messageCode)) {bufferSize : Nat}
    {encoded : List UInt8} (hencodes : encodeFrame frame bufferSize = .ok encoded) :
    (∃ octets, reencode cemi = some octets ∧ decodeFrame octets = .done frame)
      ↔ Reencodes frame := by
  obtain ⟨hvalid, hsize⟩ := isValid_of_encodeFrame hencodes
  have hback := decodeFrame_frameOctets hvalid hsize
  have hreencode : reencode cemi = if frame.tpdu.size ≤ 56 then
      some (frameOctets frame ++ [calculateChecksum (frameOctets frame)]) else none := by
    rw [reencode, hd]
    dsimp only
    rw [encodeFrame_small hvalid hsize]
    by_cases hfits : frame.tpdu.size ≤ 56
    · rw [if_pos hfits, if_pos hfits]
    · rw [if_neg hfits, if_neg hfits]
  unfold Reencodes
  constructor
  · rintro ⟨octets, hoctets, hsame⟩
    rw [hreencode] at hoctets
    split at hoctets
    · rename_i hfits
      cases hoctets
      rw [hback] at hsame
      -- The format of the octets is that of the length.
      have hformat := congrArg LDataFrame.standardFrame (Checked.done.inj hsame)
      exact ⟨hfits, hformat.symm⟩
    · cases hoctets
  · rintro ⟨hfits, hformat⟩
    refine ⟨_, hreencode.trans (if_pos hfits), ?_⟩
    rw [hback, ← hformat]

/-! ## The two media -/

theorem length_of_decodeCemiBody {cemi : List UInt8} {idx : Nat} {cf1 cf2 : UInt8}
    {frame : LDataFrame} (hd : decodeCemiBody cemi idx cf1 cf2 = .done frame) :
    cemi.length ≤ idx + 5 + 256 := by
  unfold decodeCemiBody at hd
  obtain ⟨srcHi, -, hd⟩ := Checked.bind_eq_done.mp hd
  obtain ⟨srcLo, -, hd⟩ := Checked.bind_eq_done.mp hd
  obtain ⟨dstHi, -, hd⟩ := Checked.bind_eq_done.mp hd
  obtain ⟨dstLo, -, hd⟩ := Checked.bind_eq_done.mp hd
  obtain ⟨npduLen, -, hd⟩ := Checked.bind_eq_done.mp hd
  obtain ⟨-, hd⟩ := Checked.guard_eq_done.mp hd
  obtain ⟨-, hd⟩ := Checked.guard_eq_done.mp hd
  obtain ⟨octets, -, hd⟩ := Checked.bind_eq_done.mp hd
  obtain ⟨-, hd⟩ := Checked.guard_eq_done.mp hd
  obtain ⟨hend, -⟩ := Checked.guard_eq_done.mp hd
  have hoctet := npduLen.toNat_lt
  omega

theorem length_of_decodeCemiLData {cemi : List UInt8} {frame : LDataFrame} {messageCode : UInt8}
    (hd : decodeCemiLData cemi = .done (frame, messageCode)) : cemi.length ≤ 520 := by
  unfold decodeCemiLData at hd
  obtain ⟨-, hd⟩ := Checked.guard_eq_done.mp hd
  obtain ⟨code, -, hd⟩ := Checked.bind_eq_done.mp hd
  obtain ⟨-, hd⟩ := Checked.guard_eq_done.mp hd
  obtain ⟨addInfoLen, -, hd⟩ := Checked.bind_eq_done.mp hd
  obtain ⟨-, hd⟩ := Checked.guard_eq_done.mp hd
  obtain ⟨cf1, -, hd⟩ := Checked.bind_eq_done.mp hd
  obtain ⟨cf2, -, hd⟩ := Checked.bind_eq_done.mp hd
  obtain ⟨-, hd⟩ := Checked.guard_eq_done.mp hd
  obtain ⟨-, hd⟩ := Checked.guard_eq_done.mp hd
  obtain ⟨body, hbody, -⟩ := Checked.bind_eq_done.mp hd
  have hlength := length_of_decodeCemiBody hbody
  have hoctet := addInfoLen.toNat_lt
  omega

theorem receiveRoutingIndication_eq {cemi : List UInt8} (h : headerLen + cemi.length < 2 ^ 16)
    (cemiOutSize : Nat) :
    receiveRoutingIndication (encodeRoutingIndication cemi) cemiOutSize =
      if cemiOutSize < cemi.length then .error .bufferTooSmall else .ok cemi := by
  have hheader := decodeHeader_encodeHeader routingIndication h
  have hnat : (UInt16.ofNat (headerLen + cemi.length)).toNat = headerLen + cemi.length :=
    UInt16.toNat_ofNat_of_lt' h
  have hspan : payloadSpan (encodeRoutingIndication cemi) routingIndication = .done cemi := by
    unfold payloadSpan encodeRoutingIndication
    rw [hheader, Checked.done_bind, if_neg (not_not.mpr rfl), hnat, Nat.add_sub_cancel_left,
      readSpan_of_le (by simp [encodeHeader, headerLen]; omega)]
    simp [encodeHeader, headerLen]
  unfold receiveRoutingIndication
  rw [hspan, encodeRoutingIndication, hheader]
  exact if_pos rfl

theorem inbound_encodeRoutingIndication {cemi : List UInt8} (hlength : cemi.length ≤ 520) :
    IpRoutingPhysical.inbound (encodeRoutingIndication cemi)
      = if 265 < cemi.length then none else reencode cemi := by
  have hheader : headerLen + cemi.length < 2 ^ 16 := by
    unfold headerLen
    omega
  have hmax : kMaxCemiLDataSize = 265 := rfl
  rw [IpRoutingPhysical.inbound, receiveRoutingIndication_eq hheader, hmax]
  by_cases hlong : 265 < cemi.length
  · rw [if_pos hlong, if_pos hlong]
  · rw [if_neg hlong, if_neg hlong]

/-- Frames that go when one more comes in. -/
def IpRoutingPhysical.overflow (p : IpRoutingPhysical) : Nat :=
  p.receive.rxQueue.length + 1 - p.maxRxQueueDepth

theorem rxQueue_enqueue (p : IpRoutingPhysical) (octets : List UInt8) :
    (p.enqueue octets).receive.rxQueue = p.receive.rxQueue.drop p.overflow ++ [octets] := by
  have hpos := p.maxRxQueueDepth_pos
  have hkept : p.receive.rxQueue.length + 1 - p.maxRxQueueDepth ≤ p.receive.rxQueue.length := by
    omega
  simp only [IpRoutingPhysical.enqueue, IpRoutingPhysical.overflow, List.length_append,
    List.length_singleton]
  exact List.drop_append_of_le_length hkept

theorem rxDropped_enqueue (p : IpRoutingPhysical) (octets : List UInt8) :
    (p.enqueue octets).rxDropped = p.rxDropped + p.overflow := by
  simp only [IpRoutingPhysical.enqueue, IpRoutingPhysical.overflow, List.length_append,
    List.length_singleton]

theorem exists_enqueued_iff (p : IpRoutingPhysical) (datagram : List UInt8)
    (property : List UInt8 → Prop) :
    (∃ octets, (p.drainInboundOnce datagram).receive.rxQueue
          = p.receive.rxQueue.drop p.overflow ++ [octets]
        ∧ (p.drainInboundOnce datagram).rxDropped = p.rxDropped + p.overflow ∧ property octets)
      ↔ ∃ octets, IpRoutingPhysical.inbound datagram = some octets ∧ property octets := by
  unfold IpRoutingPhysical.drainInboundOnce
  cases hinbound : IpRoutingPhysical.inbound datagram with
  | none =>
    refine iff_of_false ?_ ?_
    · rintro ⟨octets, hqueue, hcount, -⟩
      -- Nothing came in, so nothing was dropped, and the queue is no longer than before.
      have hlength := congrArg List.length hqueue
      rw [List.length_append, List.length_drop, List.length_singleton] at hlength
      dsimp only at hcount hlength
      omega
    · rintro ⟨octets, hnone, -⟩
      cases hnone
  | some inbound =>
    dsimp only
    rw [rxQueue_enqueue, rxDropped_enqueue]
    constructor
    · rintro ⟨octets, hqueue, -, hproperty⟩
      obtain rfl : inbound = octets := List.singleton_inj.mp (List.append_cancel_left hqueue)
      exact ⟨inbound, rfl, hproperty⟩
    · rintro ⟨octets, hoctets, hproperty⟩
      obtain rfl : inbound = octets := Option.some.inj hoctets
      exact ⟨inbound, rfl, rfl, hproperty⟩

theorem exists_appended_iff (p : IpTunnelingPhysical) (cemi : List UInt8)
    (property : List UInt8 → Prop) :
    (∃ octets, (p.receiveCallback cemi).receive.rxQueue = p.receive.rxQueue ++ [octets]
        ∧ property octets)
      ↔ ∃ octets, reencode cemi = some octets ∧ property octets := by
  unfold IpTunnelingPhysical.receiveCallback
  cases reencode cemi with
  | none => simp
  | some octets => simp

/-- IP media. Of an L_Data.ind message whose frame can be encoded, both media hand up octets that stand
for the frame if and only if the frame encodes again; the routing has room for 265 octets of the message
on top. They stand at the end of the receive queue, and in the routing the oldest entries of a queue that
is full go. -/
theorem ip_media_deliver_iff (cemi : List UInt8) (frame : LDataFrame)
    (hd : decodeCemiLData cemi = .done (frame, 0x29)) (bufferSize : Nat) (encoded : List UInt8)
    (hencodes : encodeFrame frame bufferSize = .ok encoded) :
    (∀ p : IpRoutingPhysical,
      ((∃ octets, (p.drainInboundOnce (encodeRoutingIndication cemi)).receive.rxQueue
            = p.receive.rxQueue.drop p.overflow ++ [octets]
          ∧ (p.drainInboundOnce (encodeRoutingIndication cemi)).rxDropped = p.rxDropped + p.overflow
          ∧ decodeFrame octets = .done frame)
        ↔ cemi.length ≤ 265 ∧ Reencodes frame))
    ∧ ∀ p : IpTunnelingPhysical,
      ((∃ octets, (p.receiveCallback cemi).receive.rxQueue = p.receive.rxQueue ++ [octets]
            ∧ decodeFrame octets = .done frame)
        ↔ Reencodes frame) := by
  have hreencode := reencode_iff hd hencodes
  have hlength := length_of_decodeCemiLData hd
  constructor
  · intro p
    rw [exists_enqueued_iff p _ fun octets => decodeFrame octets = .done frame,
      inbound_encodeRoutingIndication hlength]
    by_cases hlong : 265 < cemi.length
    · rw [if_pos hlong]
      constructor
      · rintro ⟨octets, hnone, -⟩
        cases hnone
      · rintro ⟨hshort, -⟩
        omega
    · rw [if_neg hlong, hreencode]
      exact ⟨fun h => ⟨by omega, h⟩, fun h => h.2⟩
  · intro p
    rw [exists_appended_iff p cemi fun octets => decodeFrame octets = .done frame]
    exact hreencode

/-! ## Frames that do not arrive -/

/-- An extended group telegram with a TPDU of 57 octets. -/
def longMessage : List UInt8 :=
  [0x29, 0x00, 0x3C, 0xE0, 0x11, 0x01, 0x08, 0x01, 56] ++ List.replicate 57 0x00

/-- An extended group telegram with a TPDU of two octets. -/
def shortMessage : List UInt8 :=
  [0x29, 0x00, 0x3C, 0xE0, 0x11, 0x01, 0x08, 0x01, 1, 0x00, 0x80]

/-- A standard group telegram with a TPDU of two octets. -/
def groupMessage : List UInt8 :=
  [0x29, 0x00, 0xBC, 0xE0, 0x11, 0x01, 0x08, 0x01, 1, 0x00, 0x80]

/-- Its frame. -/
def groupMessageFrame : LDataFrame :=
  { ackRequested := false, source := ⟨0x1101⟩, destination := ⟨0x0801⟩,
    tpdu := (FixedVector.clear.assign [0x00, 0x80]).2 }

theorem ip_media_deliver_iff_group :
    (∀ p : IpRoutingPhysical,
      ((∃ octets, (p.drainInboundOnce (encodeRoutingIndication groupMessage)).receive.rxQueue
            = p.receive.rxQueue.drop p.overflow ++ [octets]
          ∧ (p.drainInboundOnce (encodeRoutingIndication groupMessage)).rxDropped
            = p.rxDropped + p.overflow
          ∧ decodeFrame octets = .done groupMessageFrame)
        ↔ groupMessage.length ≤ 265 ∧ Reencodes groupMessageFrame))
    ∧ ∀ p : IpTunnelingPhysical,
      ((∃ octets, (p.receiveCallback groupMessage).receive.rxQueue = p.receive.rxQueue ++ [octets]
            ∧ decodeFrame octets = .done groupMessageFrame)
        ↔ Reencodes groupMessageFrame) :=
  ip_media_deliver_iff groupMessage groupMessageFrame (by decide +kernel) 264
    (frameOctets groupMessageFrame ++ [calculateChecksum (frameOctets groupMessageFrame)])
    (by decide +kernel)

/-- The long telegram is dropped by both media, and the short one arrives as another frame. -/
theorem telegrams_lost :
    (∃ frame octets, decodeCemiLData longMessage = .done (frame, 0x29)
      ∧ encodeFrame frame 264 = .ok octets
      ∧ (({} : IpRoutingPhysical).drainInboundOnce (encodeRoutingIndication longMessage)).receive.rxQueue
        = []
      ∧ (({} : IpTunnelingPhysical).receiveCallback longMessage).receive.rxQueue = [])
    ∧ ∃ frame octets, decodeCemiLData shortMessage = .done (frame, 0x29)
      ∧ (({} : IpTunnelingPhysical).receiveCallback shortMessage).receive.rxQueue = [octets]
      ∧ decodeFrame octets ≠ .done frame := by
  refine ⟨⟨_, _, rfl, rfl, ?_, ?_⟩, _, _, rfl, rfl, ?_⟩
  · decide +kernel
  · decide +kernel
  · decide +kernel

end KnxStack.Physical
