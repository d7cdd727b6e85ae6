import KnxStack.Netip.ControlPacket
import KnxStack.Security.SecureApplicationLayer

/-!
# The secure wrapper

`SecureWrapper` (`netip/secure_wrapper.cpp`): a KNXnet/IP frame, encrypted with AES-CTR and
authenticated with AES-CBC-MAC, in a frame of its own. `wrap` writes it and `unwrapAndVerify` reads it;
the buffer that either writes to is given by its size.

- `nonce_of_wrap`: the nonce of what was wrapped, read from its octets.
- `unwrapAndVerify_inBounds`: unwrapping reads inside the wrapper, whatever it contains.
-/

set_option autoImplicit false

namespace KnxStack.Netip

open KnxStack.Lib KnxStack.Lib.Octets KnxStack.Lib.Words KnxStack.Objects KnxStack.Security

namespace SecureWrapper

/-- `kServiceTypeSecureWrapper`. -/
def serviceType : UInt16 := 0x0950
/-- `kOverhead`. -/
def overhead : Nat := 38
/-- `kWrapperBodyOffset`. -/
def bodyOffset : Nat := 22
/-- `kMacLen`. -/
def macLen : Nat := 16

/-- What makes the nonce of a wrapper, with the suffix that its counter ends with. -/
structure Stamp where
  sessionId : UInt16
  seq : List UInt8
  serial : List UInt8
  tag : List UInt8
  counterSuffix : List UInt8
  deriving DecidableEq, Repr

/-- The octets of the nonce: session id, sequence, serial number and tag. -/
def Stamp.nonce (stamp : Stamp) : List UInt8 :=
  [highByte stamp.sessionId, lowByte stamp.sessionId] ++ stamp.seq ++ stamp.serial ++ stamp.tag

/-- `makeAdditionalData`. -/
def makeAdditionalData (header : List UInt8) (sessionId : UInt16) : List UInt8 :=
  header ++ [highByte sessionId, lowByte sessionId]

/-- `makeBlock0`. -/
def makeBlock0 (seq serial tag : List UInt8) (payloadLen : Nat) : List UInt8 :=
  seq ++ serial ++ tag ++ toOctets 2 payloadLen

/-- `makeCounter`. -/
def makeCounter (seq serial suffix : List UInt8) : List UInt8 := seq ++ serial ++ suffix

/-- What the platform's cipher returns. -/
def ofCipher {α : Type} (value : Option α) : Checked ErrorCode α :=
  match value with
  | some a => .done a
  | none => .fail .operationFailed

/-- The encrypted payload; an empty one is not encrypted. -/
def cryptPayload (aes : BlockCipher) (key : Key) (counter payload : List UInt8) :
    Checked ErrorCode (List UInt8) :=
  if payload = [] then .done [] else ofCipher (ctrCrypt aes key (nextCounter counter) payload)

/-- `wrap`, into a buffer of `capacity` octets. The length that is compared with the buffer has sixteen
bits. -/
def wrap (aes : BlockCipher) (key : Key) (stamp : Stamp) (inner : List UInt8) (capacity : Nat) :
    Checked ErrorCode (List UInt8) :=
  let totalLen := UInt16.ofNat (overhead + inner.length)
  if capacity < totalLen.toNat then .fail .bufferTooSmall
  else if capacity < overhead + inner.length then .outOfBounds capacity
  else do
    let header := encodeHeader serviceType (totalLen.toNat - headerLen)
    let macCbc ← ofCipher (cbcMac aes key (makeBlock0 stamp.seq stamp.serial stamp.tag inner.length)
      (makeAdditionalData header stamp.sessionId) inner)
    let ctr0 := makeCounter stamp.seq stamp.serial stamp.counterSuffix
    let encMac ← ofCipher (ctrCrypt aes key ctr0 macCbc)
    let encPayload ← cryptPayload aes key ctr0 inner
    .done (header ++ stamp.nonce ++ encPayload ++ encMac)

/-- The suffix of the counter, as `unwrapAndVerify` chooses it. -/
def suffixOf (sessionId : UInt16) (tag : List UInt8) : List UInt8 :=
  if tag = [0x00, 0x00] ∧ sessionId ≠ 0 then [0x00, 0x00, 0xFF, 0x00] else tag ++ [0xFF, 0x00]

/-- The second half of `unwrapAndVerify`, once the lengths are checked. -/
def decryptAndVerify (aes : BlockCipher) (key : Key) (expectedSessionId : UInt16)
    (wrapper : List UInt8) (innerLen : Nat) : Checked ErrorCode (List UInt8) := do
  let sidHi ← readAt wrapper 6
  let sidLo ← readAt wrapper 7
  let sid := joinBytes sidHi sidLo
  if sid ≠ expectedSessionId then .fail .invalidParameter
  else do
    let seq ← readSpan wrapper 8 6
    let serial ← readSpan wrapper 14 6
    let tag ← readSpan wrapper 20 2
    let ctr0 := makeCounter seq serial (suffixOf sid tag)
    let encMac ← readSpan wrapper (bodyOffset + innerLen) macLen
    let macTr ← ofCipher (ctrCrypt aes key ctr0 encMac)
    let encPayload ← readSpan wrapper bodyOffset innerLen
    let inner ← cryptPayload aes key ctr0 encPayload
    let header ← readSpan wrapper 0 headerLen
    let macCbc ← ofCipher (cbcMac aes key (makeBlock0 seq serial tag innerLen)
      (makeAdditionalData header sid) inner)
    if macCbc ≠ macTr then .fail .decodeFailed else .done inner

/-- `unwrapAndVerify`, into a buffer of `capacity` octets. -/
def unwrapAndVerify (aes : BlockCipher) (key : Key) (expectedSessionId : UInt16)
    (wrapper : List UInt8) (capacity : Nat) : Checked ErrorCode (List UInt8) := do
  let header ← decodeHeader wrapper
  if wrapper.length < header.totalLength.toNat then .fail .invalidFrameSize
  else if header.serviceType ≠ serviceType then .fail .decodeFailed
  else if header.totalLength.toNat < overhead then .fail .decodeFailed
  else if wrapper.length < overhead then .fail .invalidFrameSize
  else if header.totalLength.toNat - bodyOffset < macLen then .fail .decodeFailed
  else if capacity < header.totalLength.toNat - bodyOffset - macLen then .fail .bufferTooSmall
  else
    decryptAndVerify aes key expectedSessionId wrapper
      (header.totalLength.toNat - bodyOffset - macLen)

/-! ## Reads inside the wrapper -/

theorem ofCipher_inBounds {α : Type} (value : Option α) : (ofCipher value).InBounds := by
  cases value with
  | none => exact Checked.inBounds_fail _
  | some a => exact Checked.inBounds_done a

theorem cryptPayload_inBounds (aes : BlockCipher) (key : Key) (counter payload : List UInt8) :
    (cryptPayload aes key counter payload).InBounds := by
  rw [cryptPayload]
  split
  · exact Checked.inBounds_done _
  · exact ofCipher_inBounds _

theorem decryptAndVerify_inBounds (aes : BlockCipher) (key : Key) (expectedSessionId : UInt16)
    {wrapper : List UInt8} {innerLen : Nat} (h : overhead + innerLen ≤ wrapper.length) :
    (decryptAndVerify aes key expectedSessionId wrapper innerLen).InBounds := by
  rw [overhead] at h
  rw [decryptAndVerify, readAt_of_lt (show 6 < wrapper.length by omega),
    readAt_of_lt (show 7 < wrapper.length by omega)]
  simp only [Checked.done_bind]
  split
  · exact Checked.inBounds_fail _
  · rw [readSpan_of_le (show 8 + 6 ≤ wrapper.length by omega),
      readSpan_of_le (show 14 + 6 ≤ wrapper.length by omega),
      readSpan_of_le (show 20 + 2 ≤ wrapper.length by omega),
      readSpan_of_le (show bodyOffset + innerLen + macLen ≤ wrapper.length by
        rw [bodyOffset, macLen]; omega),
      readSpan_of_le (show bodyOffset + innerLen ≤ wrapper.length by rw [bodyOffset]; omega),
      readSpan_of_le (show 0 + headerLen ≤ wrapper.length by rw [headerLen]; omega)]
    simp only [Checked.done_bind]
    apply Checked.InBounds.bind (ofCipher_inBounds _)
    intro macTr
    apply Checked.InBounds.bind (cryptPayload_inBounds _ _ _ _)
    intro inner
    apply Checked.InBounds.bind (ofCipher_inBounds _)
    intro macCbc
    split
    · exact Checked.inBounds_fail _
    · exact Checked.inBounds_done _

theorem unwrapAndVerify_inBounds (aes : BlockCipher) (key : Key) (expectedSessionId : UInt16)
    (wrapper : List UInt8) (capacity : Nat) :
    (unwrapAndVerify aes key expectedSessionId wrapper capacity).InBounds := by
  rw [unwrapAndVerify]
  apply Checked.InBounds.bind (decodeHeader_inBounds wrapper)
  intro header
  split
  · exact Checked.inBounds_fail _
  · rename_i hcovered
    split
    · exact Checked.inBounds_fail _
    · split
      · exact Checked.inBounds_fail _
      · rename_i hlong
        split
        · exact Checked.inBounds_fail _
        · split
          · exact Checked.inBounds_fail _
          · split
            · exact Checked.inBounds_fail _
            · apply decryptAndVerify_inBounds
              rw [overhead] at hlong ⊢
              rw [bodyOffset, macLen]
              omega

/-! ## The nonce -/

/-- The nonce, as it stands in a wrapper. -/
def nonceOf (wrapper : List UInt8) : List UInt8 := slice wrapper headerLen 16

/-- The fields have their lengths. -/
structure Stamp.Sized (stamp : Stamp) : Prop where
  seq : stamp.seq.length = 6
  serial : stamp.serial.length = 6
  tag : stamp.tag.length = 2

theorem nonce_of_wrap {aes : BlockCipher} {key : Key} {stamp : Stamp} (hsized : stamp.Sized)
    {inner : List UInt8} {capacity : Nat} {wrapper : List UInt8}
    (h : wrap aes key stamp inner capacity = .done wrapper) : nonceOf wrapper = stamp.nonce := by
  rw [wrap] at h
  dsimp only at h
  obtain ⟨-, h⟩ := Checked.guard_eq_done.mp h
  split at h
  · cases h
  · obtain ⟨macCbc, -, h⟩ := Checked.bind_eq_done.mp h
    obtain ⟨encMac, -, h⟩ := Checked.bind_eq_done.mp h
    obtain ⟨encPayload, -, h⟩ := Checked.bind_eq_done.mp h
    cases h
    have hnonce : stamp.nonce.length = 16 := by
      simp only [Stamp.nonce, List.length_append, List.length_cons, List.length_nil, hsized.seq,
        hsized.serial, hsized.tag]
    generalize hheader : encodeHeader serviceType _ = header
    have hlength : header.length = headerLen := by
      rw [← hheader]
      rfl
    rw [nonceOf, slice, List.append_assoc, List.append_assoc, ← hlength, List.drop_left, ← hnonce,
      List.take_left]

end SecureWrapper

end KnxStack.Netip
