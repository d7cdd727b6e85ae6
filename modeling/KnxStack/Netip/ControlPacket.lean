import KnxStack.Lib.Checked
import KnxStack.Lib.Octets
import KnxStack.Types

/-!
# KNXnet/IP headers and control packets

`KnxNetIpCodec` and `control_packet::Codec` (`netip/header_codec.cpp`,
`netip/control_packet_codec.hpp`): the header of every KNXnet/IP frame, the packets that open, keep
and close a tunnel, and those that carry cEMI messages through it.

Decoders read their input with a bounds check on every index. `decodeHeader_eq_done` says what a frame
must be for its header to be accepted, and the lemmas on the other decoders go through it.
-/

set_option autoImplicit false

namespace KnxStack.Netip

open KnxStack.Lib KnxStack.Lib.Octets KnxStack.Lib.Words

/-! ## Headers -/

/-- `KnxNetIpHeader`. -/
structure KnxNetIpHeader where
  serviceType : UInt16
  totalLength : UInt16
  deriving DecidableEq, Repr

/-- `kHeaderLen`. -/
def headerLen : Nat := 6

/-- `KnxNetIpCodec::decodeHeader`. -/
def decodeHeader (data : List UInt8) : Checked ErrorCode KnxNetIpHeader :=
  if data.length < headerLen then .fail .invalidFrameSize
  else do
    let size ← readAt data 0
    let version ← readAt data 1
    if size ≠ 0x06 ∨ version ≠ 0x10 then .fail .decodeFailed
    else do
      let typeHi ← readAt data 2
      let typeLo ← readAt data 3
      let lengthHi ← readAt data 4
      let lengthLo ← readAt data 5
      let totalLength := joinBytes lengthHi lengthLo
      if totalLength.toNat < headerLen then .fail .decodeFailed
      else if data.length < totalLength.toNat then .fail .invalidFrameSize
      else .done ⟨joinBytes typeHi typeLo, totalLength⟩

/-- `KnxNetIpCodec::encodeHeader`. -/
def encodeHeader (serviceType : UInt16) (payloadLength : Nat) : List UInt8 :=
  [0x06, 0x10, highByte serviceType, lowByte serviceType,
    highByte (UInt16.ofNat (headerLen + payloadLength)),
    lowByte (UInt16.ofNat (headerLen + payloadLength))]

/-- `KnxNetIpCodec::payloadSpan`. -/
def payloadSpan (data : List UInt8) (expectedServiceType : UInt16) : Checked ErrorCode (List UInt8) := do
  let header ← decodeHeader data
  if header.serviceType ≠ expectedServiceType then .fail .decodeFailed
  else readSpan data headerLen (header.totalLength.toNat - headerLen)

theorem decodeHeader_cases (data : List UInt8) :
    (∃ e, decodeHeader data = .fail e)
      ∨ ∃ header, decodeHeader data = .done header ∧ headerLen ≤ header.totalLength.toNat
        ∧ header.totalLength.toNat ≤ data.length := by
  rw [decodeHeader]
  split
  · exact .inl ⟨_, rfl⟩
  · rename_i hlength
    have hlong : 6 ≤ data.length := Nat.not_lt.mp hlength
    simp only [readAt_of_lt (show 0 < data.length by omega),
      readAt_of_lt (show 1 < data.length by omega), readAt_of_lt (show 2 < data.length by omega),
      readAt_of_lt (show 3 < data.length by omega), readAt_of_lt (show 4 < data.length by omega),
      readAt_of_lt (show 5 < data.length by omega), Checked.done_bind]
    split
    · exact .inl ⟨_, rfl⟩
    · split
      · exact .inl ⟨_, rfl⟩
      · rename_i hshort
        split
        · exact .inl ⟨_, rfl⟩
        · rename_i hcovered
          exact .inr ⟨_, rfl, Nat.not_lt.mp hshort, Nat.not_lt.mp hcovered⟩

theorem decodeHeader_inBounds (data : List UInt8) : (decodeHeader data).InBounds := by
  rcases decodeHeader_cases data with ⟨e, he⟩ | ⟨header, hdone, -⟩
  · rw [he]
    exact Checked.inBounds_fail e
  · rw [hdone]
    exact Checked.inBounds_done header

theorem decodeHeader_encodeHeader (serviceType : UInt16) {payload : List UInt8}
    (h : headerLen + payload.length < 2 ^ 16) :
    decodeHeader (encodeHeader serviceType payload.length ++ payload)
      = .done ⟨serviceType, UInt16.ofNat (headerLen + payload.length)⟩ := by
  have hnat : (UInt16.ofNat (headerLen + payload.length)).toNat = headerLen + payload.length :=
    UInt16.toNat_ofNat_of_lt' h
  have hlong : ¬ (encodeHeader serviceType payload.length ++ payload).length < headerLen := by
    rw [List.length_append]
    exact Nat.not_lt.mpr (Nat.le_add_right 6 _)
  have htotal : (encodeHeader serviceType payload.length ++ payload).length
      = headerLen + payload.length := by
    rw [List.length_append]
    rfl
  rw [decodeHeader, if_neg hlong]
  have hreads : ∀ i (octet : UInt8), (encodeHeader serviceType payload.length)[i]? = some octet →
      (readAt (encodeHeader serviceType payload.length ++ payload) i : Checked ErrorCode UInt8)
        = .done octet := by
    intro i octet hoctet
    obtain ⟨hi, -⟩ := List.getElem?_eq_some_iff.mp hoctet
    rw [readAt, List.getElem?_append_left hi, hoctet]
  simp only [hreads 0 _ rfl, hreads 1 _ rfl, hreads 2 _ rfl, hreads 3 _ rfl, hreads 4 _ rfl,
    hreads 5 _ rfl, Checked.done_bind, joinBytes_highByte_lowByte, hnat, htotal]
  rw [if_neg (by simp), if_neg (Nat.not_lt.mpr (Nat.le_add_right _ _)), if_neg (Nat.lt_irrefl _)]

/-! ## Control packets -/

/-- The service types of `control_packet`. -/
def connectionRequest : UInt16 := 0x0205
/-- `kServiceConnectionResponse`. -/
def connectionResponse : UInt16 := 0x0206
/-- `kServiceConnectionStateRequest`. -/
def connectionStateRequest : UInt16 := 0x0207
/-- `kServiceConnectionStateResponse`. -/
def connectionStateResponse : UInt16 := 0x0208
/-- `kServiceDisconnectRequest`. -/
def disconnectRequest : UInt16 := 0x0209
/-- `kServiceDisconnectResponse`. -/
def disconnectResponse : UInt16 := 0x020A
/-- `kServiceTunnelingRequest`. -/
def tunnelingRequest : UInt16 := 0x0420
/-- `kServiceTunnelingAck`. -/
def tunnelingAck : UInt16 := 0x0421

/-- `config::kUdpBufferSize`. -/
def udpBufferSize : Nat := 1500

/-- `ChannelStatus`. -/
structure ChannelStatus where
  channelId : UInt8
  status : UInt8
  deriving DecidableEq, Repr

/-- `TunnelingAck`. -/
structure TunnelingAck where
  channelId : UInt8
  sequence : UInt8
  status : UInt8
  deriving DecidableEq, Repr

/-- `TunnelingRequest`. -/
structure TunnelingRequest where
  channelId : UInt8
  sequence : UInt8
  cemi : List UInt8
  deriving DecidableEq, Repr

/-- `decodeChannelStatusResponse`. -/
def decodeChannelStatusResponse (data : List UInt8) (expectedServiceType : UInt16) :
    Checked ErrorCode ChannelStatus :=
  if data.length < 8 then .fail .invalidFrameSize
  else do
    let header ← decodeHeader data
    if header.serviceType ≠ expectedServiceType then .fail .decodeFailed
    else if header.totalLength.toNat < 8 ∨ data.length < header.totalLength.toNat then
      .fail .invalidFrameSize
    else do
      let channelId ← readAt data 6
      let status ← readAt data 7
      .done ⟨channelId, status⟩

/-- `decodeTunnelingControl`: the frame that the header announces, with the tunnelling header in its
place. -/
def decodeTunnelingControl {α : Type} (data : List UInt8) (expectedServiceType : UInt16)
    (builder : List UInt8 → Checked ErrorCode α) : Checked ErrorCode α :=
  if data.length < 10 then .fail .invalidFrameSize
  else do
    let header ← decodeHeader data
    if header.serviceType ≠ expectedServiceType then .fail .decodeFailed
    else if header.totalLength.toNat < 10 ∨ data.length < header.totalLength.toNat then
      .fail .invalidFrameSize
    else do
      let frame ← readSpan data 0 header.totalLength.toNat
      let size ← readAt frame 6
      if size ≠ 0x04 then .fail .decodeFailed else builder frame

/-- `decodeTunnelingAck`. -/
def decodeTunnelingAck (data : List UInt8) : Checked ErrorCode TunnelingAck :=
  decodeTunnelingControl data tunnelingAck fun frame => do
    let channelId ← readAt frame 7
    let sequence ← readAt frame 8
    let status ← readAt frame 9
    .done ⟨channelId, sequence, status⟩

/-- `decodeTunnelingRequest`. -/
def decodeTunnelingRequest (data : List UInt8) : Checked ErrorCode TunnelingRequest :=
  decodeTunnelingControl data tunnelingRequest fun frame => do
    let channelId ← readAt frame 7
    let sequence ← readAt frame 8
    let cemi ← readSpan frame 10 (frame.length - 10)
    .done ⟨channelId, sequence, cemi⟩

/-- A packet: the header of a service type and what follows it. -/
def packet (serviceType : UInt16) (body : List UInt8) : List UInt8 :=
  encodeHeader serviceType body.length ++ body

/-- `encodeTunnelingRequest`, into a buffer of the size of a datagram. -/
def encodeTunnelingRequest (channelId sequence : UInt8) (cemi : List UInt8) : Result (List UInt8) :=
  if udpBufferSize < headerLen + 4 + cemi.length then .error .bufferTooSmall
  else .ok (packet tunnelingRequest ([0x04, channelId, sequence, 0x00] ++ cemi))

/-- `encodeTunnelingAck`. -/
def encodeTunnelingAck (channelId sequence status : UInt8) : List UInt8 :=
  packet tunnelingAck [0x04, channelId, sequence, status]

/-- The packet of a channel status, as `sendChannelStatusResponse` writes it. -/
def encodeChannelStatus (serviceType : UInt16) (channelId status : UInt8) : List UInt8 :=
  packet serviceType [channelId, status]

/-! ## Reads inside the input -/

/-- After the header: an error, or the header with a length between its own size and the input's. -/
theorem inBounds_decodeHeader_bind {α : Type} {data : List UInt8}
    {k : KnxNetIpHeader → Checked ErrorCode α}
    (hk : ∀ header, headerLen ≤ header.totalLength.toNat → header.totalLength.toNat ≤ data.length →
      (k header).InBounds) : (decodeHeader data >>= k).InBounds := by
  rcases decodeHeader_cases data with ⟨e, he⟩ | ⟨header, hdone, hleast, hcovered⟩
  · rw [he]
    exact Checked.inBounds_fail e
  · rw [hdone]
    exact hk header hleast hcovered

theorem payloadSpan_inBounds (data : List UInt8) (expectedServiceType : UInt16) :
    (payloadSpan data expectedServiceType).InBounds := by
  apply inBounds_decodeHeader_bind
  intro header hleast hcovered
  split
  · exact Checked.inBounds_fail _
  · rw [readSpan_of_le (by omega)]
    exact Checked.inBounds_done _

theorem decodeChannelStatusResponse_inBounds (data : List UInt8) (expectedServiceType : UInt16) :
    (decodeChannelStatusResponse data expectedServiceType).InBounds := by
  rw [decodeChannelStatusResponse]
  split
  · exact Checked.inBounds_fail _
  · rename_i hlength
    apply inBounds_decodeHeader_bind
    intro header _ _
    split
    · exact Checked.inBounds_fail _
    · split
      · exact Checked.inBounds_fail _
      · rw [readAt_of_lt (by omega), Checked.done_bind, readAt_of_lt (by omega), Checked.done_bind]
        exact Checked.inBounds_done _

theorem decodeTunnelingControl_inBounds {α : Type} (data : List UInt8) (expectedServiceType : UInt16)
    {builder : List UInt8 → Checked ErrorCode α}
    (hbuilder : ∀ frame, 10 ≤ frame.length → (builder frame).InBounds) :
    (decodeTunnelingControl data expectedServiceType builder).InBounds := by
  rw [decodeTunnelingControl]
  split
  · exact Checked.inBounds_fail _
  · apply inBounds_decodeHeader_bind
    intro header _ hcovered
    split
    · exact Checked.inBounds_fail _
    · split
      · exact Checked.inBounds_fail _
      · rename_i hrange
        have hframe : 10 ≤ ((data.drop 0).take header.totalLength.toNat).length := by
          rw [List.drop_zero, List.length_take]
          omega
        rw [readSpan_of_le (by omega), Checked.done_bind, readAt_of_lt (by omega), Checked.done_bind]
        split
        · exact Checked.inBounds_fail _
        · exact hbuilder _ hframe

theorem decodeTunnelingAck_inBounds (data : List UInt8) : (decodeTunnelingAck data).InBounds := by
  apply decodeTunnelingControl_inBounds
  intro frame hframe
  rw [readAt_of_lt (by omega), Checked.done_bind, readAt_of_lt (by omega), Checked.done_bind,
    readAt_of_lt (by omega), Checked.done_bind]
  exact Checked.inBounds_done _

theorem decodeTunnelingRequest_inBounds (data : List UInt8) :
    (decodeTunnelingRequest data).InBounds := by
  apply decodeTunnelingControl_inBounds
  intro frame hframe
  rw [readAt_of_lt (by omega), Checked.done_bind, readAt_of_lt (by omega), Checked.done_bind,
    readSpan_of_le (by omega), Checked.done_bind]
  exact Checked.inBounds_done _

/-! ## Round trips -/

theorem decodeTunnelingControl_packet {α : Type} (serviceType : UInt16) {body : List UInt8}
    (hbody : headerLen + body.length < 2 ^ 16) (hsize : 4 ≤ body.length) (hhead : body[0]? = some 0x04)
    (builder : List UInt8 → Checked ErrorCode α) :
    decodeTunnelingControl (packet serviceType body) serviceType builder
      = builder (packet serviceType body) := by
  have hlength : (packet serviceType body).length = headerLen + body.length := by
    rw [packet, List.length_append]
    rfl
  have hnat : (UInt16.ofNat (headerLen + body.length)).toNat = headerLen + body.length :=
    UInt16.toNat_ofNat_of_lt' hbody
  have hwhole : ((packet serviceType body).drop 0).take (headerLen + body.length)
      = packet serviceType body := by
    rw [List.drop_zero, ← hlength, List.take_length]
  have hread : (readAt (packet serviceType body) 6 : Checked ErrorCode UInt8) = .done 0x04 := by
    rw [readAt, packet, List.getElem?_append_right (Nat.le_refl 6)]
    have hzero : 6 - (encodeHeader serviceType body.length).length = 0 := rfl
    rw [hzero, hhead]
  have hlong : headerLen + body.length ≥ 10 := by
    rw [headerLen]
    omega
  have hheader : decodeHeader (packet serviceType body)
      = .done ⟨serviceType, UInt16.ofNat (headerLen + body.length)⟩ :=
    decodeHeader_encodeHeader serviceType hbody
  rw [decodeTunnelingControl, if_neg (by omega), hheader, Checked.done_bind]
  dsimp only
  rw [if_neg (by simp), if_neg (by omega), hnat, readSpan_of_le (by omega), Checked.done_bind, hwhole,
    hread, Checked.done_bind, if_neg (by simp)]

theorem decodeTunnelingAck_encodeTunnelingAck (channelId sequence status : UInt8) :
    decodeTunnelingAck (encodeTunnelingAck channelId sequence status)
      = .done ⟨channelId, sequence, status⟩ := by
  rw [decodeTunnelingAck, encodeTunnelingAck,
    decodeTunnelingControl_packet _ (by simp [headerLen]) (by simp) rfl]
  rfl

theorem decodeTunnelingRequest_encodeTunnelingRequest {channelId sequence : UInt8}
    {cemi datagram : List UInt8} (h : encodeTunnelingRequest channelId sequence cemi = .ok datagram) :
    decodeTunnelingRequest datagram = .done ⟨channelId, sequence, cemi⟩ := by
  rw [encodeTunnelingRequest] at h
  split at h
  · cases h
  · rename_i hroom
    cases h
    have hbody : headerLen + ([0x04, channelId, sequence, 0x00] ++ cemi).length < 2 ^ 16 := by
      rw [List.length_append, headerLen]
      rw [headerLen, udpBufferSize] at hroom
      change 6 + (4 + cemi.length) < 2 ^ 16
      omega
    rw [decodeTunnelingRequest, decodeTunnelingControl_packet _ hbody (by simp) rfl]
    have hlength : (packet tunnelingRequest ([0x04, channelId, sequence, 0x00] ++ cemi)).length
        = 10 + cemi.length := by
      rw [packet, List.length_append, List.length_append, ← Nat.add_assoc]
      rfl
    have hspan : (readSpan (packet tunnelingRequest ([0x04, channelId, sequence, 0x00] ++ cemi)) 10
        (10 + cemi.length - 10) : Checked ErrorCode (List UInt8)) = .done cemi := by
      rw [readSpan_of_le (by omega), packet, ← List.append_assoc]
      have hten : (encodeHeader tunnelingRequest ([0x04, channelId, sequence, 0x00] ++ cemi).length
          ++ [0x04, channelId, sequence, 0x00]).length = 10 := rfl
      rw [← hten, List.drop_left, hten, Nat.add_sub_cancel_left, List.take_length]
    rw [hlength, hspan]
    rfl

end KnxStack.Netip
