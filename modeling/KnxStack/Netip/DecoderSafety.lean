import KnxStack.Netip.GatewayDiscovery
import KnxStack.Netip.SecureWrapper

/-!
# Decoders on any input

The confirmations of device management (`netip/device_management_codec.cpp`), and what all decoders of
KNXnet/IP have in common: whatever they are given, they end, they read inside of it, and they refuse an
input that is shorter than its header says.

- `decoders_safe`: the decoders on an arbitrary octet string.
-/

set_option autoImplicit false

namespace KnxStack.Netip

open KnxStack.Lib KnxStack.Lib.Octets KnxStack.Lib.Words KnxStack.Objects KnxStack.Security

/-! ## Property confirmations -/

namespace DeviceManagement

/-- `kPropertyReadConfirmationCode`. -/
def propertyReadConfirmationCode : UInt8 := 0xFB
/-- `kPropertyWriteConfirmationCode`. -/
def propertyWriteConfirmationCode : UInt8 := 0xF5

/-- The header of the connection and the target of the access. -/
structure PropertyConfirmation where
  channelId : UInt8
  sequenceCounter : UInt8
  objectType : UInt16
  objectInstance : UInt8
  propertyId : UInt8
  elementCount : UInt8
  startIndex : Nat
  deriving DecidableEq, Repr

/-- `decodeCommon`. -/
def decodeCommon (payload : List UInt8) (expectedMessageCode : UInt8) :
    Checked ErrorCode PropertyConfirmation :=
  if payload.length < 11 then .fail .invalidFrameSize
  else do
    let size ← readAt payload 0
    if size ≠ 0x04 then .fail .decodeFailed
    else do
      let reserved ← readAt payload 3
      if reserved ≠ 0x00 then .fail .decodeFailed
      else do
        let code ← readAt payload 4
        if code ≠ expectedMessageCode then .fail .decodeFailed
        else do
          let channelId ← readAt payload 1
          let sequenceCounter ← readAt payload 2
          let typeHi ← readAt payload 5
          let typeLo ← readAt payload 6
          let objectInstance ← readAt payload 7
          let propertyId ← readAt payload 8
          let countAndStart ← readAt payload 9
          let startLo ← readAt payload 10
          .done
            { channelId := channelId
              sequenceCounter := sequenceCounter
              objectType := joinBytes typeHi typeLo
              objectInstance := objectInstance
              propertyId := propertyId
              elementCount := countAndStart >>> 4
              startIndex := (countAndStart &&& 0x0F).toNat * 256 + startLo.toNat }

/-- `decodePropertyReadConfirmation`: with the octets of the value. -/
def decodePropertyReadConfirmation (payload : List UInt8) :
    Checked ErrorCode (PropertyConfirmation × List UInt8) := do
  let common ← decodeCommon payload propertyReadConfirmationCode
  let data ← readSpan payload 11 (payload.length - 11)
  .done (common, data)

/-- `decodePropertyWriteConfirmation`. -/
def decodePropertyWriteConfirmation (payload : List UInt8) : Checked ErrorCode PropertyConfirmation :=
  decodeCommon payload propertyWriteConfirmationCode

/-- An error, or a confirmation of eleven octets at least whose header has the length it says. -/
theorem decodeCommon_cases (payload : List UInt8) (expectedMessageCode : UInt8) :
    (∃ e, decodeCommon payload expectedMessageCode = .fail e)
      ∨ ∃ common, decodeCommon payload expectedMessageCode = .done common ∧ 11 ≤ payload.length
        ∧ payload.getD 0 0 = 0x04 := by
  rw [decodeCommon]
  split
  · exact .inl ⟨_, rfl⟩
  · rename_i hlength
    have hlong : 11 ≤ payload.length := Nat.not_lt.mp hlength
    rw [readAt_of_lt (show 0 < payload.length by omega), Checked.done_bind]
    split
    · exact .inl ⟨_, rfl⟩
    · rename_i hsize
      rw [readAt_of_lt (show 3 < payload.length by omega), Checked.done_bind]
      split
      · exact .inl ⟨_, rfl⟩
      · rw [readAt_of_lt (show 4 < payload.length by omega), Checked.done_bind]
        split
        · exact .inl ⟨_, rfl⟩
        · simp only [readAt_of_lt (show 1 < payload.length by omega),
            readAt_of_lt (show 2 < payload.length by omega),
            readAt_of_lt (show 5 < payload.length by omega),
            readAt_of_lt (show 6 < payload.length by omega),
            readAt_of_lt (show 7 < payload.length by omega),
            readAt_of_lt (show 8 < payload.length by omega),
            readAt_of_lt (show 9 < payload.length by omega),
            readAt_of_lt (show 10 < payload.length by omega), Checked.done_bind]
          refine .inr ⟨_, rfl, hlong, ?_⟩
          rw [List.getD_eq_getElem _ _ (by omega)]
          exact not_not.mp hsize

end DeviceManagement

/-! ## Every decoder -/

/-- The length that the header announces. -/
def announcedLength (octets : List UInt8) : Nat :=
  (joinBytes (octets.getD 4 0) (octets.getD 5 0)).toNat

/-- The decoder reads inside the input, and refuses it if the header announces more than there is or
less than `least`. -/
structure Safe {α : Type} (octets : List UInt8) (least : Nat) (x : Checked ErrorCode α) : Prop where
  inBounds : x.InBounds
  refuses : octets.length < announcedLength octets ∨ announcedLength octets < least → ∃ e, x = .fail e

theorem announcedLength_of_decodeHeader {octets : List UInt8} {header : KnxNetIpHeader}
    (h : decodeHeader octets = .done header) : header.totalLength.toNat = announcedLength octets := by
  rw [decodeHeader] at h
  split at h
  · cases h
  · rename_i hlength
    have hlong : 6 ≤ octets.length := Nat.not_lt.mp hlength
    simp only [readAt_of_lt (show 0 < octets.length by omega),
      readAt_of_lt (show 1 < octets.length by omega), readAt_of_lt (show 2 < octets.length by omega),
      readAt_of_lt (show 3 < octets.length by omega), readAt_of_lt (show 4 < octets.length by omega),
      readAt_of_lt (show 5 < octets.length by omega), Checked.done_bind] at h
    obtain ⟨-, h⟩ := Checked.guard_eq_done.mp h
    obtain ⟨-, h⟩ := Checked.guard_eq_done.mp h
    obtain ⟨-, h⟩ := Checked.guard_eq_done.mp h
    cases h
    rw [announcedLength, List.getD_eq_getElem _ _ (by omega), List.getD_eq_getElem _ _ (by omega)]

theorem fail_of_inBounds {α : Type} {x : Checked ErrorCode α} (h : x.InBounds)
    (hnot : ∀ a, x ≠ .done a) : ∃ e, x = .fail e := by
  cases x with
  | done a => exact absurd rfl (hnot a)
  | fail e => exact ⟨e, rfl⟩
  | outOfBounds i => exact absurd rfl (h i)

/-- A decoder that begins with the header is safe if it accepts only what the header covers. -/
theorem safe_of_accepts {α : Type} {octets : List UInt8} {least : Nat} {x : Checked ErrorCode α}
    (hbounds : x.InBounds)
    (haccepts : ∀ a, x = .done a → ∃ header, decodeHeader octets = .done header
      ∧ least ≤ header.totalLength.toNat) : Safe octets least x := by
  refine ⟨hbounds, ?_⟩
  intro hwrong
  apply fail_of_inBounds hbounds
  intro a hdone
  obtain ⟨header, hheader, hleast⟩ := haccepts a hdone
  have hannounced := announcedLength_of_decodeHeader hheader
  rcases decodeHeader_cases octets with ⟨e, he⟩ | ⟨header', hdone', -, hcovered⟩
  · rw [he] at hheader
    cases hheader
  · rw [hheader] at hdone'
    cases hdone'
    omega

section Headers

variable {octets : List UInt8}

theorem headerLen_le_of_decodeHeader {octets : List UInt8} {header : KnxNetIpHeader}
    (h : decodeHeader octets = .done header) : headerLen ≤ header.totalLength.toNat := by
  rcases decodeHeader_cases octets with ⟨e, he⟩ | ⟨header', hdone, hleast, -⟩
  · rw [he] at h
    cases h
  · rw [h] at hdone
    cases hdone
    exact hleast

theorem safe_decodeHeader (octets : List UInt8) : Safe octets headerLen (decodeHeader octets) := by
  apply safe_of_accepts (decodeHeader_inBounds octets)
  intro header hdone
  exact ⟨header, hdone, headerLen_le_of_decodeHeader hdone⟩

theorem safe_payloadSpan (octets : List UInt8) (serviceType : UInt16) :
    Safe octets headerLen (payloadSpan octets serviceType) := by
  apply safe_of_accepts (payloadSpan_inBounds octets serviceType)
  intro payload hdone
  obtain ⟨header, hheader, -⟩ := Checked.bind_eq_done.mp hdone
  exact ⟨header, hheader, headerLen_le_of_decodeHeader hheader⟩

theorem safe_decodeChannelStatusResponse (octets : List UInt8) (serviceType : UInt16) :
    Safe octets 8 (decodeChannelStatusResponse octets serviceType) := by
  apply safe_of_accepts (decodeChannelStatusResponse_inBounds octets serviceType)
  intro status hdone
  rw [decodeChannelStatusResponse] at hdone
  obtain ⟨-, hdone⟩ := Checked.guard_eq_done.mp hdone
  obtain ⟨header, hheader, hdone⟩ := Checked.bind_eq_done.mp hdone
  obtain ⟨-, hdone⟩ := Checked.guard_eq_done.mp hdone
  obtain ⟨hrange, -⟩ := Checked.guard_eq_done.mp hdone
  exact ⟨header, hheader, by omega⟩

theorem safe_decodeTunnelingControl {α : Type} (octets : List UInt8) (serviceType : UInt16)
    {builder : List UInt8 → Checked ErrorCode α}
    (hbounds : (decodeTunnelingControl octets serviceType builder).InBounds) :
    Safe octets 10 (decodeTunnelingControl octets serviceType builder) := by
  apply safe_of_accepts hbounds
  intro value hdone
  rw [decodeTunnelingControl] at hdone
  obtain ⟨-, hdone⟩ := Checked.guard_eq_done.mp hdone
  obtain ⟨header, hheader, hdone⟩ := Checked.bind_eq_done.mp hdone
  obtain ⟨-, hdone⟩ := Checked.guard_eq_done.mp hdone
  obtain ⟨hrange, -⟩ := Checked.guard_eq_done.mp hdone
  exact ⟨header, hheader, by omega⟩

theorem safe_unwrapAndVerify (aes : BlockCipher) (key : Key) (sessionId : UInt16)
    (octets : List UInt8) (capacity : Nat) :
    Safe octets SecureWrapper.overhead
      (SecureWrapper.unwrapAndVerify aes key sessionId octets capacity) := by
  apply safe_of_accepts (SecureWrapper.unwrapAndVerify_inBounds aes key sessionId octets capacity)
  intro inner hdone
  rw [SecureWrapper.unwrapAndVerify] at hdone
  obtain ⟨header, hheader, hdone⟩ := Checked.bind_eq_done.mp hdone
  obtain ⟨-, hdone⟩ := Checked.guard_eq_done.mp hdone
  obtain ⟨-, hdone⟩ := Checked.guard_eq_done.mp hdone
  obtain ⟨hleast, -⟩ := Checked.guard_eq_done.mp hdone
  exact ⟨header, hheader, Nat.not_lt.mp hleast⟩

end Headers

/-- A response ends, is safe, needs a whole endpoint, and takes the blocks up to the first that is not
well formed. -/
structure SafeResponse (octets : List UInt8) (serviceType : UInt16) (info : GatewayInfo)
    (x : Checked ErrorCode GatewayInfo) : Prop where
  ends : GatewayDiscoveryCodec.parseGatewayResponse octets serviceType info = some x
  safe : Safe octets 14 x
  endpoint : octets.getD 6 0 ≠ 0x08 → ∃ e, x = .fail e
  blocks : ∀ parsed, x = .done parsed → ∃ endpoint,
    parsed = (GatewayDiscoveryCodec.dibsFrom (octets.take (announcedLength octets))
      (octets.take (announcedLength octets)).length 14).foldl GatewayDiscoveryCodec.applyDib endpoint

theorem safeResponse_parseGatewayResponse (octets : List UInt8) (serviceType : UInt16)
    (info : GatewayInfo) : ∃ x, SafeResponse octets serviceType info x := by
  rcases GatewayDiscoveryCodec.parseGatewayResponse_cases octets serviceType info with
    ⟨e, he⟩ | ⟨header, endpoint, hheader, height, hleast, -, hdone⟩
  · refine ⟨.fail e, he, ⟨Checked.inBounds_fail e, fun _ => ⟨e, rfl⟩⟩, fun _ => ⟨e, rfl⟩, ?_⟩
    intro parsed hparsed
    cases hparsed
  · rw [announcedLength_of_decodeHeader hheader] at hdone
    refine ⟨_, hdone, ?_, fun hnot => absurd height hnot, ?_⟩
    · exact safe_of_accepts (Checked.inBounds_done _) fun _ _ => ⟨header, hheader, hleast⟩
    · intro parsed hparsed
      cases hparsed
      exact ⟨endpoint, rfl⟩

theorem confirmation_safe (payload : List UInt8) (code : UInt8) :
    (DeviceManagement.decodeCommon payload code).InBounds
      ∧ (payload.length < 11 ∨ payload.getD 0 0 ≠ 0x04 →
        ∃ e, DeviceManagement.decodeCommon payload code = .fail e) := by
  rcases DeviceManagement.decodeCommon_cases payload code with
    ⟨e, he⟩ | ⟨common, hdone, hlong, hsize⟩
  · rw [he]
    exact ⟨Checked.inBounds_fail e, fun _ => ⟨e, rfl⟩⟩
  · refine ⟨?_, ?_⟩
    · rw [hdone]
      exact Checked.inBounds_done common
    · rintro (hshort | hother)
      · omega
      · exact absurd hsize hother

theorem readConfirmation_safe (payload : List UInt8) :
    (DeviceManagement.decodePropertyReadConfirmation payload).InBounds
      ∧ (payload.length < 11 ∨ payload.getD 0 0 ≠ 0x04 →
        ∃ e, DeviceManagement.decodePropertyReadConfirmation payload = .fail e) := by
  rw [DeviceManagement.decodePropertyReadConfirmation]
  rcases DeviceManagement.decodeCommon_cases payload DeviceManagement.propertyReadConfirmationCode with
    ⟨e, he⟩ | ⟨common, hdone, hlong, hsize⟩
  · rw [he]
    exact ⟨Checked.inBounds_fail e, fun _ => ⟨e, rfl⟩⟩
  · rw [hdone, Checked.done_bind, readSpan_of_le (by omega)]
    refine ⟨Checked.inBounds_done _, ?_⟩
    rintro (hshort | hother)
    · omega
    · exact absurd hsize hother

/-- Every decoder on every input ends, reads inside of it, and refuses a length that claims more
than there is; a description block that does so ends the blocks of its response. -/
theorem decoders_safe (octets : List UInt8) (serviceType : UInt16) (info : GatewayInfo)
    (aes : BlockCipher) (key : Key) (sessionId : UInt16) (capacity : Nat) :
    Safe octets headerLen (decodeHeader octets)
      ∧ Safe octets headerLen (payloadSpan octets serviceType)
      ∧ Safe octets 8 (decodeChannelStatusResponse octets serviceType)
      ∧ Safe octets 10 (decodeTunnelingAck octets)
      ∧ Safe octets 10 (decodeTunnelingRequest octets)
      ∧ Safe octets SecureWrapper.overhead
        (SecureWrapper.unwrapAndVerify aes key sessionId octets capacity)
      ∧ (∃ x, SafeResponse octets serviceType info x)
      ∧ ((DeviceManagement.decodePropertyReadConfirmation octets).InBounds
        ∧ (octets.length < 11 ∨ octets.getD 0 0 ≠ 0x04 →
          ∃ e, DeviceManagement.decodePropertyReadConfirmation octets = .fail e))
      ∧ (DeviceManagement.decodePropertyWriteConfirmation octets).InBounds
      ∧ (octets.length < 11 ∨ octets.getD 0 0 ≠ 0x04 →
        ∃ e, DeviceManagement.decodePropertyWriteConfirmation octets = .fail e) :=
  ⟨safe_decodeHeader octets, safe_payloadSpan octets serviceType,
    safe_decodeChannelStatusResponse octets serviceType,
    safe_decodeTunnelingControl octets tunnelingAck (decodeTunnelingAck_inBounds octets),
    safe_decodeTunnelingControl octets tunnelingRequest (decodeTunnelingRequest_inBounds octets),
    safe_unwrapAndVerify aes key sessionId octets capacity,
    safeResponse_parseGatewayResponse octets serviceType info, readConfirmation_safe octets,
    confirmation_safe octets DeviceManagement.propertyWriteConfirmationCode⟩

/-- A search response whose only description block has length zero is accepted. -/
theorem zero_length_block_accepted :
    GatewayDiscoveryCodec.parseGatewayResponse
        (packet searchResponse ([0x08, 0x01, 192, 168, 0, 1, 0x0E, 0x57] ++ [0x00, 0x01]))
        searchResponse {}
      = some (.done { ipAddress := [192, 168, 0, 1], port := 3671 }) := by decide +kernel

end KnxStack.Netip
