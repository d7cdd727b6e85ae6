import KnxStack.Netip.SecureWrapper
import KnxStack.Security.DataSecure

/-!
# Wrapping and unwrapping

`SecureWrapper::wrap` with the buffer it writes to, and `unwrapAndVerify` on what was written, for any
function from blocks to blocks in place of AES.

`wrap_round_trip_iff` says for which lengths the two agree: the length of the wrapper is cut to sixteen
bits before it is compared with the buffer, so that an inner frame of 65498 octets and more is
written, with a wrong length or past the end, unless the buffer is too short for what is left of it.
-/

set_option autoImplicit false

namespace KnxStack.Netip.SecureWrapper

open KnxStack.Lib KnxStack.Lib.Octets KnxStack.Lib.Words KnxStack.Objects KnxStack.Security

/-! ## The buffer -/

/-- `wrap` into a buffer: the length that is returned, and the buffer. `encodeHeader` refuses a length
below that of the header and leaves the octets that were there. -/
def wrapInto (aes : BlockCipher) (key : Key) (stamp : Stamp) (inner buffer : List UInt8) :
    Checked ErrorCode (Nat × List UInt8) :=
  let totalLen := (UInt16.ofNat (overhead + inner.length)).toNat
  if buffer.length < totalLen then .fail .bufferTooSmall
  else if buffer.length < overhead + inner.length then .outOfBounds buffer.length
  else do
    let header :=
      if totalLen < headerLen then buffer.take headerLen
      else encodeHeader serviceType (totalLen - headerLen)
    let macCbc ← ofCipher (cbcMac aes key (makeBlock0 stamp.seq stamp.serial stamp.tag inner.length)
      (makeAdditionalData header stamp.sessionId) inner)
    let ctr0 := makeCounter stamp.seq stamp.serial stamp.counterSuffix
    let encMac ← ofCipher (ctrCrypt aes key ctr0 macCbc)
    let encPayload ← cryptPayload aes key ctr0 inner
    .done (totalLen, overwrite buffer 0 (header ++ stamp.nonce ++ encPayload ++ encMac))

/-- Below the limit of sixteen bits this is `wrap`, in the buffer. -/
theorem wrapInto_eq_wrap (aes : BlockCipher) (key : Key) (stamp : Stamp) {inner : List UInt8}
    (buffer : List UInt8) (hfits : overhead + inner.length < 2 ^ 16) :
    wrapInto aes key stamp inner buffer
      = wrap aes key stamp inner buffer.length >>= fun wrapper =>
          .done (overhead + inner.length, overwrite buffer 0 wrapper) := by
  have htotal : (UInt16.ofNat (overhead + inner.length)).toNat = overhead + inner.length :=
    UInt16.toNat_ofNat_of_lt' hfits
  have hheader : ¬ overhead + inner.length < headerLen := by
    rw [overhead, headerLen]
    omega
  rw [wrapInto, wrap]
  simp only [htotal, if_neg hheader]
  split
  · rfl
  · cases ofCipher (cbcMac aes key (makeBlock0 stamp.seq stamp.serial stamp.tag inner.length)
        (makeAdditionalData (encodeHeader serviceType (overhead + inner.length - headerLen))
          stamp.sessionId) inner) with
    | fail e => rfl
    | outOfBounds i => rfl
    | done macCbc =>
      simp only [Checked.done_bind]
      cases ofCipher (ctrCrypt aes key (makeCounter stamp.seq stamp.serial stamp.counterSuffix)
          macCbc) with
      | fail e => rfl
      | outOfBounds i => rfl
      | done encMac =>
        simp only [Checked.done_bind]
        cases cryptPayload aes key (makeCounter stamp.seq stamp.serial stamp.counterSuffix) inner with
        | fail e => rfl
        | outOfBounds i => rfl
        | done encPayload => rfl

/-! ## The payload -/

variable (f : BlockFunction) (key : Key)

theorem cryptPayload_involutive (counter payload : List UInt8) :
    ∃ output, cryptPayload f.cipher key counter payload = .done output
      ∧ output.length = payload.length
      ∧ cryptPayload f.cipher key counter output = .done payload := by
  by_cases hnil : payload = []
  · subst hnil
    exact ⟨[], rfl, rfl, rfl⟩
  · obtain ⟨output, hout, hlength, hback⟩ :=
      ctrCrypt_involutive f key (nextCounter counter) payload
    have hne : output ≠ [] := by
      rintro rfl
      exact hnil (List.length_eq_zero_iff.mp hlength.symm)
    refine ⟨output, ?_, hlength, ?_⟩
    · rw [cryptPayload, if_neg hnil, hout]
      rfl
    · rw [cryptPayload, if_neg hne, hback]
      rfl

/-! ## Reading a wrapper back -/

theorem readSpan_part {ε : Type} {before part after : List UInt8} {offset length : Nat}
    (hoffset : before.length = offset) (hlength : part.length = length) :
    (readSpan (before ++ part ++ after) offset length : Checked ε (List UInt8)) = .done part := by
  rw [readSpan_of_le (by simp only [List.length_append]; omega), List.append_assoc,
    List.drop_left' hoffset, List.take_left' hlength]

theorem readAt_part {ε : Type} {before after : List UInt8} {octet : UInt8} {index : Nat}
    (hindex : before.length = index) :
    (readAt (before ++ octet :: after) index : Checked ε UInt8) = .done octet := by
  subst hindex
  rw [readAt, List.getElem?_append_right (Nat.le_refl _), Nat.sub_self]
  rfl

theorem suffixOf_eq (sessionId : UInt16) (tag : List UInt8) :
    suffixOf sessionId tag = tag ++ [0xFF, 0x00] := by
  rw [suffixOf]
  split
  · rename_i hzero
    rw [hzero.1]
    rfl
  · rfl

variable {f key}

theorem decryptAndVerify_of_parts {stamp : Stamp} (hsized : stamp.Sized)
    (hsuffix : stamp.counterSuffix = stamp.tag ++ [0xFF, 0x00])
    {header inner encPayload encMac mac : List UInt8} (hheader : header.length = headerLen)
    (hmac : cbcMac f.cipher key (makeBlock0 stamp.seq stamp.serial stamp.tag inner.length)
      (makeAdditionalData header stamp.sessionId) inner = some mac)
    (hencMac : encMac.length = macLen)
    (hback : ctrCrypt f.cipher key (makeCounter stamp.seq stamp.serial stamp.counterSuffix) encMac
      = some mac)
    (hencPayload : encPayload.length = inner.length)
    (hpayload : cryptPayload f.cipher key
      (makeCounter stamp.seq stamp.serial stamp.counterSuffix) encPayload = .done inner) :
    decryptAndVerify f.cipher key stamp.sessionId (header ++ stamp.nonce ++ encPayload ++ encMac)
      inner.length = .done inner := by
  obtain ⟨sessionId, seq, serial, tag, suffix⟩ := stamp
  obtain ⟨hseq, hserial, htag⟩ := hsized
  dsimp only at hseq hserial htag hsuffix hmac hback hpayload ⊢
  rw [headerLen] at hheader
  generalize hwrapper : header ++ Stamp.nonce ⟨sessionId, seq, serial, tag, suffix⟩ ++ encPayload
    ++ encMac = wrapper
  rw [Stamp.nonce] at hwrapper
  dsimp only at hwrapper
  -- where each field stands
  have hsidHi : (readAt wrapper 6 : Checked ErrorCode UInt8) = .done (highByte sessionId) := by
    have hshape : wrapper = header ++ highByte sessionId
        :: ([lowByte sessionId] ++ seq ++ serial ++ tag ++ encPayload ++ encMac) := by
      simp [← hwrapper]
    rw [hshape]
    exact readAt_part hheader
  have hsidLo : (readAt wrapper 7 : Checked ErrorCode UInt8) = .done (lowByte sessionId) := by
    have hshape : wrapper = (header ++ [highByte sessionId]) ++ lowByte sessionId
        :: (seq ++ serial ++ tag ++ encPayload ++ encMac) := by
      simp [← hwrapper]
    rw [hshape]
    exact readAt_part (by simp [hheader])
  have hseqRead : (readSpan wrapper 8 6 : Checked ErrorCode (List UInt8)) = .done seq := by
    have hshape : wrapper = (header ++ [highByte sessionId, lowByte sessionId]) ++ seq
        ++ (serial ++ tag ++ encPayload ++ encMac) := by
      simp [← hwrapper]
    rw [hshape]
    exact readSpan_part (by simp [hheader]) hseq
  have hserialRead : (readSpan wrapper 14 6 : Checked ErrorCode (List UInt8)) = .done serial := by
    have hshape : wrapper = (header ++ [highByte sessionId, lowByte sessionId] ++ seq) ++ serial
        ++ (tag ++ encPayload ++ encMac) := by
      simp [← hwrapper]
    rw [hshape]
    exact readSpan_part (by simp [hheader, hseq]) hserial
  have htagRead : (readSpan wrapper 20 2 : Checked ErrorCode (List UInt8)) = .done tag := by
    have hshape : wrapper = (header ++ [highByte sessionId, lowByte sessionId] ++ seq ++ serial)
        ++ tag ++ (encPayload ++ encMac) := by
      simp [← hwrapper]
    rw [hshape]
    exact readSpan_part (by simp [hheader, hseq, hserial]) htag
  have hbody : (header ++ [highByte sessionId, lowByte sessionId] ++ seq ++ serial ++ tag).length
      = bodyOffset := by
    simp [hheader, hseq, hserial, htag, bodyOffset]
  have hmacRead : (readSpan wrapper (bodyOffset + inner.length) macLen :
      Checked ErrorCode (List UInt8)) = .done encMac := by
    have hshape : wrapper = (header ++ [highByte sessionId, lowByte sessionId] ++ seq ++ serial
        ++ tag ++ encPayload) ++ encMac ++ [] := by
      simp [← hwrapper]
    rw [hshape]
    exact readSpan_part (by rw [List.length_append, hbody, hencPayload]) hencMac
  have hpayloadRead : (readSpan wrapper bodyOffset inner.length :
      Checked ErrorCode (List UInt8)) = .done encPayload := by
    have hshape : wrapper = (header ++ [highByte sessionId, lowByte sessionId] ++ seq ++ serial
        ++ tag) ++ encPayload ++ encMac := by
      simp [← hwrapper]
    rw [hshape]
    exact readSpan_part hbody hencPayload
  have hheaderRead : (readSpan wrapper 0 headerLen : Checked ErrorCode (List UInt8))
      = .done header := by
    have hshape : wrapper = [] ++ header ++ ([highByte sessionId, lowByte sessionId] ++ seq
        ++ serial ++ tag ++ encPayload ++ encMac) := by
      simp [← hwrapper]
    rw [hshape]
    exact readSpan_part rfl hheader
  rw [hsuffix] at hback hpayload
  rw [decryptAndVerify]
  simp only [hsidHi, hsidLo, hseqRead, hserialRead, htagRead, hmacRead, hpayloadRead, hheaderRead,
    Checked.done_bind, joinBytes_highByte_lowByte, suffixOf_eq, hback, hpayload, hmac, ofCipher,
    ne_eq, not_true_eq_false, if_false]

theorem unwrapAndVerify_of_header {wrapper payload : List UInt8} {sessionId : UInt16}
    (hwrapper : wrapper = encodeHeader serviceType payload.length ++ payload) {n : Nat}
    (hpayload : payload.length = overhead - headerLen + n) (hfits : overhead + n < 2 ^ 16)
    (capacity : Nat) :
    unwrapAndVerify f.cipher key sessionId wrapper capacity
      = if capacity < n then .fail .bufferTooSmall
        else decryptAndVerify f.cipher key sessionId wrapper n := by
  have hsum : headerLen + payload.length = overhead + n := by
    rw [hpayload, headerLen, overhead]
    omega
  have htotal : (UInt16.ofNat (headerLen + payload.length)).toNat = overhead + n := by
    rw [hsum]
    exact UInt16.toNat_ofNat_of_lt' hfits
  have hlength : wrapper.length = overhead + n := by
    rw [hwrapper, List.length_append, ← hsum]
    rfl
  have hinner : overhead + n - bodyOffset - macLen = n := by
    rw [overhead, bodyOffset, macLen]
    omega
  have hmac : ¬ overhead + n - bodyOffset < macLen := by
    rw [overhead, bodyOffset, macLen]
    omega
  rw [unwrapAndVerify]
  conv_lhs => rw [hwrapper]
  rw [decodeHeader_encodeHeader serviceType (by omega)]
  simp only [Checked.done_bind, htotal]
  rw [← hwrapper, if_neg (by omega), if_neg (by simp), if_neg (by omega), if_neg (by omega),
    if_neg hmac, hinner]

/-! ## The two together -/

/-- The stamp of the fields that a caller gives: a sequence number of six octets, and the suffix of the
counter that goes with the tag. -/
def stampOf (sessionId : UInt16) (seq : Nat) (serial : Vector UInt8 6) (tag : Vector UInt8 2) :
    Stamp where
  sessionId := sessionId
  seq := toOctets 6 seq
  serial := serial.toList
  tag := tag.toList
  counterSuffix := tag.toList ++ [0xFF, 0x00]

theorem sized_stampOf (sessionId : UInt16) (seq : Nat) (serial : Vector UInt8 6)
    (tag : Vector UInt8 2) : (stampOf sessionId seq serial tag).Sized :=
  ⟨length_toOctets 6 seq, Vector.length_toList, Vector.length_toList⟩

/-- Wrapping fails, or writes the wrapper inside the buffer and nothing else, with its length in the
header, and unwrapping returns the inner frame if there is room for it. -/
def RoundTrips (f : BlockFunction) (key : Key) (stamp : Stamp) (inner buffer : List UInt8) : Prop :=
  match wrapInto f.cipher key stamp inner buffer with
  | .fail _ => True
  | .outOfBounds _ => False
  | .done (size, written) =>
      size = overhead + inner.length ∧ size ≤ buffer.length
        ∧ written.length = buffer.length ∧ written.drop size = buffer.drop size
        ∧ (joinBytes (written.getD 4 0) (written.getD 5 0)).toNat = size
        ∧ ∀ capacity, unwrapAndVerify f.cipher key stamp.sessionId (written.take size) capacity
            = if capacity < inner.length then .fail .bufferTooSmall else .done inner

theorem size_of_wrapInto {aes : BlockCipher} {stamp : Stamp} {inner buffer written : List UInt8}
    {size : Nat} (h : wrapInto aes key stamp inner buffer = .done (size, written)) :
    size = (UInt16.ofNat (overhead + inner.length)).toNat := by
  rw [wrapInto] at h
  dsimp only at h
  obtain ⟨-, h⟩ := Checked.guard_eq_done.mp h
  split at h
  · cases h
  · obtain ⟨macCbc, -, h⟩ := Checked.bind_eq_done.mp h
    obtain ⟨encMac, -, h⟩ := Checked.bind_eq_done.mp h
    obtain ⟨encPayload, -, h⟩ := Checked.bind_eq_done.mp h
    cases h
    rfl

theorem wrapInto_ne_fail (f : BlockFunction) (key : Key) (stamp : Stamp) {inner buffer : List UInt8}
    (hroom : ¬ buffer.length < (UInt16.ofNat (overhead + inner.length)).toNat) (e : ErrorCode) :
    wrapInto f.cipher key stamp inner buffer ≠ .fail e := by
  intro h
  rw [wrapInto] at h
  dsimp only at h
  rw [if_neg hroom] at h
  split at h
  · cases h
  · generalize (if (UInt16.ofNat (overhead + inner.length)).toNat < headerLen
      then buffer.take headerLen else _) = header at h
    obtain ⟨mac, hmac, -⟩ := cbcMac_total f key
      (makeBlock0 stamp.seq stamp.serial stamp.tag inner.length)
      (makeAdditionalData header stamp.sessionId) inner
    obtain ⟨encMac, hencMac, -⟩ := ctrCrypt_involutive f key
      (makeCounter stamp.seq stamp.serial stamp.counterSuffix) mac
    obtain ⟨encPayload, hencPayload, -⟩ := cryptPayload_involutive f key
      (makeCounter stamp.seq stamp.serial stamp.counterSuffix) inner
    simp only [hmac, hencMac, hencPayload, ofCipher, Checked.done_bind] at h
    cases h

theorem roundTrips_of_fits (f : BlockFunction) (key : Key) {stamp : Stamp} (hsized : stamp.Sized)
    (hsuffix : stamp.counterSuffix = stamp.tag ++ [0xFF, 0x00]) {inner buffer : List UInt8}
    (hfits : overhead + inner.length < 2 ^ 16) (hroom : overhead + inner.length ≤ buffer.length) :
    RoundTrips f key stamp inner buffer := by
  have htotal : (UInt16.ofNat (overhead + inner.length)).toNat = overhead + inner.length :=
    UInt16.toNat_ofNat_of_lt' hfits
  have hlarge : ¬ overhead + inner.length < headerLen := by
    rw [overhead, headerLen]
    omega
  generalize hheader : encodeHeader serviceType (overhead + inner.length - headerLen) = header
  have hheaderLength : header.length = headerLen := by
    rw [← hheader]
    rfl
  have hnonceLength : stamp.nonce.length = 16 := by
    simp only [Stamp.nonce, List.length_append, List.length_cons, List.length_nil, hsized.seq,
      hsized.serial, hsized.tag]
  -- The parts of the wrapper: the authentication code, itself encrypted, and the encrypted payload.
  obtain ⟨mac, hmac, hmacLength⟩ := cbcMac_total f key
    (makeBlock0 stamp.seq stamp.serial stamp.tag inner.length)
    (makeAdditionalData header stamp.sessionId) inner
  obtain ⟨encMac, hencMac, hencMacLength, hmacBack⟩ := ctrCrypt_involutive f key
    (makeCounter stamp.seq stamp.serial stamp.counterSuffix) mac
  obtain ⟨encPayload, hencPayload, hencLength, hpayloadBack⟩ := cryptPayload_involutive f key
    (makeCounter stamp.seq stamp.serial stamp.counterSuffix) inner
  -- The wrapper, before it is copied to the front of the buffer.
  generalize hwrapper : header ++ stamp.nonce ++ encPayload ++ encMac = wrapper
  have hlength : wrapper.length = overhead + inner.length := by
    rw [← hwrapper]
    simp only [List.length_append, hheaderLength, hnonceLength, hencLength, hencMacLength, hmacLength,
      headerLen, overhead]
    omega
  -- What is written is the wrapper at the front of the buffer.
  have hwritten : wrapInto f.cipher key stamp inner buffer
      = .done (overhead + inner.length, overwrite buffer 0 wrapper) := by
    rw [wrapInto]
    simp only [htotal, if_neg (Nat.not_lt.mpr hroom), if_neg hlarge, hheader, hmac, hencMac,
      hencPayload, ofCipher, Checked.done_bind, hwrapper]
  have hover : overwrite buffer 0 wrapper = wrapper ++ buffer.drop (overhead + inner.length) := by
    rw [overwrite, List.take_zero, List.nil_append, Nat.zero_add, hlength]
  -- Read as a frame: a header, and a body that is as long as the header says.
  have hpayloadShape : wrapper = encodeHeader serviceType (stamp.nonce ++ encPayload ++ encMac).length
      ++ (stamp.nonce ++ encPayload ++ encMac) := by
    have hbody : (stamp.nonce ++ encPayload ++ encMac).length
        = overhead + inner.length - headerLen := by
      simp only [List.length_append, hnonceLength, hencLength, hencMacLength, hmacLength, headerLen,
        overhead]
      omega
    rw [hbody, hheader, ← hwrapper]
    simp only [List.append_assoc]
  have hbodyLength : (stamp.nonce ++ encPayload ++ encMac).length
      = overhead - headerLen + inner.length := by
    simp only [List.length_append, hnonceLength, hencLength, hencMacLength, hmacLength, headerLen,
      overhead]
    omega
  rw [RoundTrips, hwritten]
  dsimp only
  refine ⟨rfl, hroom, length_overwrite (by omega), ?_, ?_, ?_⟩
  · rw [hover, List.drop_left' hlength]
  · -- the total length in the header is the length of the wrapper
    have hfield : ∀ i < headerLen, (overwrite buffer 0 wrapper).getD i 0 = header.getD i 0 := by
      intro i hi
      rw [hover, ← hwrapper, List.append_assoc, List.append_assoc, List.append_assoc,
        List.getD_append _ _ _ _ (by omega)]
    rw [hfield 4 (by decide), hfield 5 (by decide), ← hheader]
    have hsum : headerLen + (overhead + inner.length - headerLen) = overhead + inner.length := by
      omega
    rw [encodeHeader, hsum]
    change (joinBytes (highByte (UInt16.ofNat (overhead + inner.length)))
      (lowByte (UInt16.ofNat (overhead + inner.length)))).toNat = _
    rw [joinBytes_highByte_lowByte, htotal]
  · intro capacity
    rw [hover, List.take_left' hlength,
      unwrapAndVerify_of_header hpayloadShape hbodyLength hfits capacity, ← hwrapper,
      decryptAndVerify_of_parts hsized hsuffix hheaderLength hmac (hencMacLength.trans hmacLength)
        hmacBack hencLength hpayloadBack]

/-- When wrapping and unwrapping agree. -/
theorem wrap_round_trip_iff (f : BlockFunction) (key : Key) (sessionId : UInt16) (seq : Nat)
    (serial : Vector UInt8 6) (tag : Vector UInt8 2) (inner buffer : List UInt8) :
    RoundTrips f key (stampOf sessionId seq serial tag) inner buffer
      ↔ overhead + inner.length < 2 ^ 16
        ∨ buffer.length < (overhead + inner.length) % 2 ^ 16 := by
  have hmod : (UInt16.ofNat (overhead + inner.length)).toNat = (overhead + inner.length) % 2 ^ 16 :=
    UInt16.toNat_ofNat'
  by_cases hshort : buffer.length < (overhead + inner.length) % 2 ^ 16
  · -- the buffer is too short even for the length that is left
    have hfail : wrapInto f.cipher key (stampOf sessionId seq serial tag) inner buffer
        = .fail .bufferTooSmall := by
      rw [← hmod] at hshort
      rw [wrapInto]
      dsimp only
      rw [if_pos hshort]
    rw [RoundTrips, hfail]
    exact ⟨fun _ => .inr hshort, fun _ => trivial⟩
  · by_cases hfits : overhead + inner.length < 2 ^ 16
    · rw [Nat.mod_eq_of_lt hfits] at hshort
      exact ⟨fun _ => .inl hfits, fun _ =>
        roundTrips_of_fits f key (sized_stampOf sessionId seq serial tag) rfl hfits
          (Nat.not_lt.mp hshort)⟩
    · constructor
      · intro h
        rw [RoundTrips] at h
        cases hwritten : wrapInto f.cipher key (stampOf sessionId seq serial tag) inner buffer with
        | fail e =>
          rw [← hmod] at hshort
          exact absurd hwritten (wrapInto_ne_fail f key _ hshort e)
        | outOfBounds i =>
          rw [hwritten] at h
          exact h.elim
        | done result =>
          obtain ⟨size, written⟩ := result
          rw [hwritten] at h
          -- the length that is returned is the one that was cut
          have hsize := size_of_wrapInto hwritten
          have hclaimed : size = overhead + inner.length := h.1
          have hlt := (UInt16.ofNat (overhead + inner.length)).toNat_lt
          omega
      · rintro (h | h)
        · exact absurd h hfits
        · exact absurd h hshort

/-- An inner frame of 65498 octets has a wrapper of length zero for the check of the buffer, and is
written past the end of an empty one. -/
theorem long_frame_past_the_end :
    ¬ RoundTrips DataSecureSession.addingFunction []
      (stampOf 1 0 (Vector.replicate 6 0) (Vector.replicate 2 0)) (List.replicate 65498 0) [] := by
  have hlength : (List.replicate 65498 (0 : UInt8)).length = 65498 := List.length_replicate
  generalize List.replicate 65498 (0 : UInt8) = inner at hlength
  have hpast : wrapInto DataSecureSession.addingFunction.cipher []
      (stampOf 1 0 (Vector.replicate 6 0) (Vector.replicate 2 0)) inner [] = .outOfBounds 0 := by
    rw [wrapInto]
    simp only [hlength]
    rfl
  rw [RoundTrips, hpast]
  exact id

end KnxStack.Netip.SecureWrapper
