import KnxStack.Datalink.FrameCodec

/-!
# The TP1 frame codec is inverted by its decoder, and inverts it

Both directions of the codec, over both wire formats.

- `decodeFrame_frameOctets`: the octets of a valid frame decode to that frame. Only `standardFrame`
  is not carried over: the encoder chooses the format from the TPDU length, and the decoder reports
  the format it met.
- `frameOctets_of_decoded`: the octets of a decoded frame are the octets it was decoded from, when
  these use bit 4 of the control octet and the extended format as the encoder does.

Each direction is put together from facts about single octets: the control octet, the octet with hop
count and address type, the length, and the checksum at the end.
-/

set_option autoImplicit false

namespace KnxStack.Datalink

open KnxStack.Lib KnxStack.Lib.Words KnxStack.Protocol

/-! ## Octets written, then read -/

theorem controlField_read (extended : Bool) (f : LDataFrame) :
    controlField extended f &&& 0x40 = 0
      ∧ (controlField extended f &&& 0x80 != 0) = !extended
      ∧ (controlField extended f &&& 0x20 == 0) = f.repeated
      ∧ Priority.ofBits ((controlField extended f &&& 0x0C) >>> 2) = f.priority
      ∧ (controlField extended f &&& 0x02 != 0) = f.ackRequested
      ∧ (controlField extended f &&& 0x01 != 0) = f.confirmation := by
  rw [controlField]
  generalize f.repeated = r, f.priority = p, f.ackRequested = a, f.confirmation = c
  cases p <;> revert extended r a c <;> decide

/-- The octet that holds hop count and address type in its high nibble and `low` in its low one. -/
theorem hopAndType_read :
    ∀ (h : Fin 8) (low : Fin 16) (group : Bool),
      let octet := ((UInt8.ofNat h <<< 4) ||| (UInt8.ofNat low &&& 0x0F)) ||| flag group 0x80
      (octet &&& 0x80 = 0 ↔ group = false) ∧ (octet >>> 4) &&& 0x07 = UInt8.ofNat h
        ∧ octet &&& 0x0F = UInt8.ofNat low := by
  decide

theorem addressTypeOf_flag {octet : UInt8} {t : AddressType}
    (h : octet &&& 0x80 = 0 ↔ t.isGroupAddress = false) : addressTypeOf octet = t := by
  cases t with
  | individual => exact if_pos (h.mpr rfl)
  | group =>
    refine if_neg ?_
    intro hzero
    cases h.mp hzero

theorem lengthField_read {f : LDataFrame} (hv : f.isValid = true) (hne : 1 ≤ f.tpdu.size)
    (hle : f.tpdu.size ≤ 16) :
    addressTypeOf (lengthField f) = f.destinationType
      ∧ (lengthField f >>> 4) &&& 0x07 = f.hopCount
      ∧ (lengthField f &&& 0x0F).toNat + 1 = f.tpdu.size := by
  have hhop : f.hopCount.toNat < 8 := by
    have h := UInt8.le_iff_toNat_le.mp (isValid_hopCount hv)
    have h7 : (7 : UInt8).toNat = 7 := rfl
    omega
  obtain ⟨htype, hcount, hlow⟩ :=
    hopAndType_read ⟨f.hopCount.toNat, hhop⟩ ⟨f.tpdu.size - 1, by omega⟩
      f.destinationType.isGroupAddress
  simp only [UInt8.ofNat_toNat] at htype hcount hlow
  refine ⟨addressTypeOf_flag htype, hcount, ?_⟩
  rw [lengthField, hlow, UInt8.toNat_ofNat']
  omega

theorem extendedControlField_read {f : LDataFrame} (hv : f.isValid = true) :
    extendedControlField f &&& 0x0F = 0
      ∧ addressTypeOf (extendedControlField f) = f.destinationType
      ∧ (extendedControlField f >>> 4) &&& 0x07 = f.hopCount := by
  have hhop : f.hopCount.toNat < 8 := by
    have h := UInt8.le_iff_toNat_le.mp (isValid_hopCount hv)
    have h7 : (7 : UInt8).toNat = 7 := rfl
    omega
  have hfacts : ∀ (h : Fin 8) (group : Bool),
      let octet := ((UInt8.ofNat h &&& 0x07) <<< 4) ||| flag group 0x80
      octet &&& 0x0F = 0 ∧ (octet &&& 0x80 = 0 ↔ group = false)
        ∧ (octet >>> 4) &&& 0x07 = UInt8.ofNat h := by
    decide
  obtain ⟨hformat, htype, hcount⟩ :=
    hfacts ⟨f.hopCount.toNat, hhop⟩ f.destinationType.isGroupAddress
  simp only [UInt8.ofNat_toNat] at hformat htype hcount
  exact ⟨hformat, addressTypeOf_flag htype, hcount⟩

theorem verifyChecksum_append (octets : List UInt8) :
    verifyChecksum (octets ++ [calculateChecksum octets]) = .ok () := by
  simp [verifyChecksum]

/-! ## Decoding what was encoded -/

/-- The frame the decoder assembles from the control octet, a header and the TPDU of `f`. -/
theorem assembleFrame_controlField {f : LDataFrame} {extended : Bool} {h : FrameHeader}
    (hsource : h.source = f.source) (hdest : h.destination = f.destination)
    (htype : h.destinationType = f.destinationType) (hhop : h.hopCount = f.hopCount) :
    assembleFrame (controlField extended f) h f.tpdu.data
      = { f with standardFrame := !extended } := by
  obtain ⟨-, hformat, hrepeat, hpriority, hack, hconfirm⟩ := controlField_read extended f
  rw [assembleFrame, FixedVector.assign_of_le _ f.tpdu.size_le]
  simp only [hformat, hrepeat, hpriority, hack, hconfirm, hsource, hdest, htype, hhop]

theorem frameOctets_standard {f : LDataFrame} (hle : f.tpdu.size ≤ 16) :
    frameOctets f = controlField false f :: [highByte f.source.raw, lowByte f.source.raw,
      highByte f.destination.raw, lowByte f.destination.raw, lengthField f] ++ f.tpdu.data := by
  have hshort : decide (16 < f.tpdu.size) = false := decide_eq_false (by omega)
  simp [frameOctets, hshort]

theorem frameOctets_extended {f : LDataFrame} (hgt : 16 < f.tpdu.size) :
    frameOctets f = controlField true f :: [extendedControlField f, highByte f.source.raw,
      lowByte f.source.raw, highByte f.destination.raw, lowByte f.destination.raw,
      UInt8.ofNat (f.tpdu.size - 1)] ++ f.tpdu.data := by
  have hlong : decide (16 < f.tpdu.size) = true := decide_eq_true hgt
  simp [frameOctets, hlong]

theorem readHeader_standard {f : LDataFrame} (hv : f.isValid = true) (hne : 1 ≤ f.tpdu.size)
    (hle : f.tpdu.size ≤ 16) (tail : List UInt8) :
    readHeader (controlField false f) (frameOctets f ++ tail)
      = .done ⟨f.source, f.destination, f.destinationType, f.hopCount, f.tpdu.size, 6⟩ := by
  obtain ⟨-, hformat, -⟩ := controlField_read false f
  obtain ⟨htype, hhop, hlength⟩ := lengthField_read hv hne hle
  have hstandard : ¬ controlField false f &&& 0x80 = 0 := by simpa using hformat
  rw [readHeader, if_neg hstandard, frameOctets_standard hle]
  show Checked.done _ = _
  simp only [htype, hhop, hlength, joinBytes_highByte_lowByte]

theorem readHeader_extended {f : LDataFrame} (hv : f.isValid = true) (hgt : 16 < f.tpdu.size)
    (tail : List UInt8) :
    readHeader (controlField true f) (frameOctets f ++ tail)
      = .done ⟨f.source, f.destination, f.destinationType, f.hopCount, f.tpdu.size, 7⟩ := by
  obtain ⟨-, hformat, -⟩ := controlField_read true f
  obtain ⟨hreserved, htype, hhop⟩ := extendedControlField_read hv
  have hsize : f.tpdu.size ≤ 256 := f.tpdu.size_le
  have hextended : controlField true f &&& 0x80 = 0 := by simpa using hformat
  have hlength : (UInt8.ofNat (f.tpdu.size - 1)).toNat + 1 = f.tpdu.size := by
    rw [UInt8.toNat_ofNat']
    omega
  have hlong : ¬ (frameOctets f ++ tail).length < 9 := by
    rw [frameOctets_extended hgt]
    simp only [FixedVector.size] at hgt
    simp
    omega
  rw [readHeader, if_pos hextended, readExtendedHeader, if_neg hlong, frameOctets_extended hgt]
  show (if extendedControlField f &&& 0x0F ≠ 0 then _ else Checked.done _) = _
  rw [if_neg (not_not.mpr hreserved)]
  simp only [htype, hhop, hlength, joinBytes_highByte_lowByte]

/-- Decoding the octets of a valid frame, in either format: all it takes is the header in front of
the TPDU. -/
theorem decodeFrame_of_header {f : LDataFrame} {extended : Bool} {head : List UInt8}
    (hv : f.isValid = true) (hne : 1 ≤ f.tpdu.size)
    (hoctets : frameOctets f = controlField extended f :: head ++ f.tpdu.data)
    (hhead : 5 ≤ head.length)
    (hread : readHeader (controlField extended f)
        (frameOctets f ++ [calculateChecksum (frameOctets f)])
      = .done ⟨f.source, f.destination, f.destinationType, f.hopCount, f.tpdu.size,
          head.length + 1⟩) :
    decodeFrame (frameOctets f ++ [calculateChecksum (frameOctets f)])
      = .done { f with standardFrame := !extended } := by
  have hdata : f.tpdu.data.length = f.tpdu.size := rfl
  have hcontrol : (readAt (frameOctets f ++ [calculateChecksum (frameOctets f)]) 0 :
      Checked ErrorCode UInt8) = .done (controlField extended f) := by
    rw [hoctets]
    rfl
  have htpdu : ((frameOctets f ++ [calculateChecksum (frameOctets f)]).drop (head.length + 1)).take
      f.tpdu.size = f.tpdu.data := by
    rw [hoctets, List.append_assoc, List.drop_left' (by simp), List.take_left' hdata]
  have hlength : (frameOctets f ++ [calculateChecksum (frameOctets f)]).length
      = head.length + 1 + f.tpdu.size + 1 := by
    simp [hoctets, hdata]
    omega
  apply decodeFrame_eq_done.mpr
  refine ⟨_, _, by omega, verifyChecksum_append _, hcontrol, (controlField_read extended f).1,
    hread, hlength, UInt8.not_lt.mpr (isValid_hopCount hv), Nat.not_lt.mpr hne, ?_, hv⟩
  show _ = assembleFrame _ _ _
  rw [htpdu, assembleFrame_controlField rfl rfl rfl rfl]

theorem decodeFrame_frameOctets {f : LDataFrame} (hv : f.isValid = true) (hne : 1 ≤ f.tpdu.size) :
    decodeFrame (frameOctets f ++ [calculateChecksum (frameOctets f)])
      = .done { f with standardFrame := decide (f.tpdu.size ≤ 16) } := by
  rcases Nat.lt_or_ge 16 f.tpdu.size with hgt | hle
  · have hformat : decide (f.tpdu.size ≤ 16) = !true := decide_eq_false (by omega)
    rw [hformat]
    exact decodeFrame_of_header hv hne (frameOctets_extended hgt) (by simp)
      (readHeader_extended hv hgt _)
  · have hformat : decide (f.tpdu.size ≤ 16) = !false := decide_eq_true hle
    rw [hformat]
    exact decodeFrame_of_header hv hne (frameOctets_standard hle) (by simp)
      (readHeader_standard hv hne hle _)

/-! ## Octets read, then written -/

/-- A control octet with bit 4 set and bit 6 clear, written again from what was read of it. -/
theorem controlField_assembleFrame {ctrl : UInt8} (hreserved : ctrl &&& 0x40 = 0)
    (hbit : ctrl &&& 0x10 ≠ 0) (h : FrameHeader) (octets : List UInt8) :
    controlField (ctrl &&& 0x80 == 0) (assembleFrame ctrl h octets) = ctrl := by
  revert hreserved hbit
  show ctrl &&& 0x40 = 0 → ctrl &&& 0x10 ≠ 0 →
    flag (!(ctrl &&& 0x80 == 0)) 0x80 ||| flag (!(ctrl &&& 0x20 == 0)) 0x20 ||| (0x10 : UInt8)
      ||| (((Priority.ofBits ((ctrl &&& 0x0C) >>> 2)).toBits <<< 2) &&& (0x0C : UInt8))
      ||| flag (ctrl &&& 0x02 != 0) 0x02 ||| flag (ctrl &&& 0x01 != 0) 0x01 = ctrl
  obtain ⟨b⟩ := ctrl
  revert b
  decide

theorem lengthField_of_read {f : LDataFrame} {octet : UInt8}
    (htype : f.destinationType = addressTypeOf octet) (hhop : f.hopCount = (octet >>> 4) &&& 0x07)
    (hsize : f.tpdu.size = (octet &&& 0x0F).toNat + 1) : lengthField f = octet := by
  rw [lengthField, htype, hhop, hsize, Nat.add_sub_cancel, UInt8.ofNat_toNat]
  clear htype hhop hsize
  obtain ⟨b⟩ := octet
  revert b
  decide

theorem extendedControlField_of_read {f : LDataFrame} {octet : UInt8}
    (hformat : octet &&& 0x0F = 0) (htype : f.destinationType = addressTypeOf octet)
    (hhop : f.hopCount = (octet >>> 4) &&& 0x07) : extendedControlField f = octet := by
  rw [extendedControlField, htype, hhop]
  clear htype hhop
  obtain ⟨b⟩ := octet
  revert b
  decide

theorem eq_append_checksum {buffer : List UInt8} (hne : buffer ≠ [])
    (hc : verifyChecksum buffer = .ok ()) :
    buffer = buffer.dropLast ++ [calculateChecksum buffer.dropLast] := by
  have hlength : ¬ buffer.length < 1 := Nat.not_lt.mpr (List.length_pos_of_ne_nil hne)
  rw [verifyChecksum, if_neg hlength] at hc
  by_cases heq : calculateChecksum buffer.dropLast = buffer.getLastD 0
  · rw [heq, List.getLastD_eq_getLast?, List.getLast?_eq_some_getLast hne, Option.getD_some,
      List.dropLast_append_getLast]
  · rw [if_neg heq] at hc
    cases hc

/-! ## Encoding what was decoded -/

section Decoded

variable {buffer : List UInt8} {f : LDataFrame} {ctrl : UInt8} {header : FrameHeader}

theorem Decoded.dropLast_eq (d : Decoded buffer f ctrl header) :
    buffer.dropLast = buffer.take header.tpduStart
      ++ (buffer.drop header.tpduStart).take header.tpduLength := by
  rw [List.dropLast_eq_take, d.total, Nat.add_sub_cancel, List.take_add]

theorem Decoded.tpdu_data (d : Decoded buffer f ctrl header) (hle : header.tpduLength ≤ 256) :
    f.tpdu.data = (buffer.drop header.tpduStart).take header.tpduLength
      ∧ f.tpdu.size = header.tpduLength := by
  have htotal := d.total
  have hlength : ((buffer.drop header.tpduStart).take header.tpduLength).length
      = header.tpduLength := by
    simp
    omega
  have hdata : f.tpdu.data = (buffer.drop header.tpduStart).take header.tpduLength := by
    rw [d.frame]
    show (FixedVector.clear.assign _).2.data = _
    rw [FixedVector.assign_of_le]
    rw [hlength]
    exact hle
  refine ⟨hdata, ?_⟩
  rw [FixedVector.size, hdata, hlength]

theorem Decoded.fields (d : Decoded buffer f ctrl header) :
    f.source = header.source ∧ f.destination = header.destination
      ∧ f.destinationType = header.destinationType ∧ f.hopCount = header.hopCount := by
  rw [d.frame]
  exact ⟨rfl, rfl, rfl, rfl⟩

theorem Decoded.frameOctets_standard (d : Decoded buffer f ctrl header)
    (hbit : ctrl &&& 0x10 ≠ 0) (hformat : ctrl &&& 0x80 ≠ 0) : frameOctets f = buffer.dropLast := by
  have hlength := d.length
  obtain ⟨c, a1, a2, a3, a4, a5, rest, rfl⟩ : ∃ c a1 a2 a3 a4 a5 rest,
      buffer = c :: a1 :: a2 :: a3 :: a4 :: a5 :: rest := by
    match buffer, hlength with
    | c :: a1 :: a2 :: a3 :: a4 :: a5 :: rest, _ => exact ⟨c, a1, a2, a3, a4, a5, rest, rfl⟩
  have hctrl : c = ctrl := by simpa using d.control
  subst hctrl
  have hheader : header = ⟨⟨joinBytes a1 a2⟩, ⟨joinBytes a3 a4⟩, addressTypeOf a5,
      (a5 >>> 4) &&& 0x07, (a5 &&& 0x0F).toNat + 1, 6⟩ := by
    have hread := d.head
    rw [readHeader, if_neg hformat] at hread
    exact (Checked.done.inj hread).symm
  have hshort : (a5 &&& 0x0F).toNat < 16 := and_fifteen_lt a5
  obtain ⟨hdata, hsize⟩ := d.tpdu_data (by rw [hheader]; show _ + 1 ≤ 256; omega)
  have hextended : (c &&& 0x80 == 0) = false := by simpa using hformat
  have hcontrol : controlField false f = c := by
    rw [← hextended, d.frame]
    exact controlField_assembleFrame d.reserved hbit _ _
  obtain ⟨hsource, hdest, htype, hhop⟩ := d.fields
  rw [d.dropLast_eq, ← hdata]
  rw [hheader] at hsize hsource hdest htype hhop ⊢
  have hlengthField : lengthField f = a5 := lengthField_of_read htype hhop hsize
  rw [Datalink.frameOctets_standard (by rw [hsize]; show _ + 1 ≤ 16; omega), hcontrol,
    hlengthField, hsource, hdest]
  simp

/-- Octets of an extended frame with a TPDU the standard format has no room for, encoded again. -/
theorem Decoded.frameOctets_extended (d : Decoded buffer f ctrl header)
    (hbit : ctrl &&& 0x10 ≠ 0) (hformat : ctrl &&& 0x80 = 0) (hlong : 16 < f.tpdu.size) :
    frameOctets f = buffer.dropLast := by
  have hread := d.head
  rw [readHeader, if_pos hformat, readExtendedHeader] at hread
  obtain ⟨hlength, hread⟩ := Checked.guard_eq_done.mp hread
  obtain ⟨c, a1, a2, a3, a4, a5, a6, rest, rfl⟩ : ∃ c a1 a2 a3 a4 a5 a6 rest,
      buffer = c :: a1 :: a2 :: a3 :: a4 :: a5 :: a6 :: rest := by
    match buffer, Nat.not_lt.mp hlength with
    | c :: a1 :: a2 :: a3 :: a4 :: a5 :: a6 :: rest, _ =>
        exact ⟨c, a1, a2, a3, a4, a5, a6, rest, rfl⟩
  have hctrl : c = ctrl := by simpa using d.control
  subst hctrl
  obtain ⟨octet, hoctet, hread⟩ := Checked.bind_eq_done.mp hread
  have hctrle : a1 = octet := Checked.done.inj hoctet
  subst hctrle
  obtain ⟨hreserved, hread⟩ := Checked.guard_eq_done.mp hread
  have hheader : header = ⟨⟨joinBytes a2 a3⟩, ⟨joinBytes a4 a5⟩, addressTypeOf a1,
      (a1 >>> 4) &&& 0x07, a6.toNat + 1, 7⟩ := (Checked.done.inj hread).symm
  have hoctet : a6.toNat < 256 := a6.toNat_lt
  obtain ⟨hdata, hsize⟩ := d.tpdu_data (by rw [hheader]; show _ + 1 ≤ 256; omega)
  have hextended : (c &&& 0x80 == 0) = true := by simpa using hformat
  have hcontrol : controlField true f = c := by
    rw [← hextended, d.frame]
    exact controlField_assembleFrame d.reserved hbit _ _
  obtain ⟨hsource, hdest, htype, hhop⟩ := d.fields
  rw [d.dropLast_eq, ← hdata]
  rw [hheader] at hsize hsource hdest htype hhop ⊢
  have hctrle : extendedControlField f = a1 :=
    extendedControlField_of_read (not_not.mp hreserved) htype hhop
  have hlengthOctet : UInt8.ofNat (f.tpdu.size - 1) = a6 := by
    rw [hsize]
    exact UInt8.ofNat_toNat
  rw [Datalink.frameOctets_extended hlong, hcontrol, hctrle, hlengthOctet, hsource, hdest]
  simp

/-- The octets of a decoded frame are the octets it was decoded from, when bit 4 of the control
octet is set and the extended format was used only where the standard one has no room. -/
theorem encodeFrame_of_decoded (d : Decoded buffer f ctrl header) {bufferSize : Nat}
    (hbit : ctrl &&& 0x10 ≠ 0) (hlong : ctrl &&& 0x80 = 0 → 16 < f.tpdu.size)
    (hroom : buffer.length ≤ bufferSize) : encodeFrame f bufferSize = .ok buffer := by
  have hoctets : frameOctets f = buffer.dropLast := by
    by_cases hformat : ctrl &&& 0x80 = 0
    · exact d.frameOctets_extended hbit hformat (hlong hformat)
    · exact d.frameOctets_standard hbit hformat
  have hne : buffer ≠ [] := by
    intro hnil
    have hlength := d.length
    rw [hnil] at hlength
    cases hlength
  have hbuffer := eq_append_checksum hne d.checksum
  have hempty : 1 ≤ f.tpdu.size := (decodeFrame_accepts (decodeFrame_eq_done.mpr ⟨_, _, d⟩)).2
  have hle : f.tpdu.size ≤ 256 := f.tpdu.size_le
  have hsize : (if 16 < f.tpdu.size then 8 else 7) + f.tpdu.size = buffer.length := by
    rw [hbuffer, ← hoctets]
    have hdata : f.tpdu.data.length = f.tpdu.size := rfl
    split
    · rename_i hgt
      simp [Datalink.frameOctets_extended hgt, hdata]
      omega
    · rename_i hgt
      simp [Datalink.frameOctets_standard (Nat.not_lt.mp hgt), hdata]
      omega
  rw [encodeFrame, if_neg (by simp [d.valid]), if_neg (by omega), if_neg (by omega), hoctets,
    ← hbuffer]

end Decoded

/-! ## Inversion -/

/-- Codec inversion. Encoding a valid frame and decoding the octets gives the frame back, in the
format its length calls for; decoding accepted octets and encoding the frame gives the octets back,
provided bit 4 of the control octet is set and the extended format carries more than sixteen TPDU
octets. -/
theorem codec_inversion :
    (∀ (f : LDataFrame) (bufferSize : Nat), f.isValid = true → 1 ≤ f.tpdu.size →
        f.tpdu.size ≤ 256 → 264 ≤ bufferSize →
      ∃ octets, encodeFrame f bufferSize = .ok octets
        ∧ decodeFrame octets = .done { f with standardFrame := decide (f.tpdu.size ≤ 16) })
    ∧ (∀ (b : List UInt8) (f : LDataFrame) (bufferSize : Nat), decodeFrame b = .done f →
        b.headD 0 &&& 0x10 ≠ 0 → (b.headD 0 &&& 0x80 = 0 → 16 < f.tpdu.size) →
        b.length ≤ bufferSize → encodeFrame f bufferSize = .ok b) := by
  constructor
  · intro f bufferSize hv hne _ hroom
    exact ⟨_, encodeFrame_ok_of_isValid hv hne hroom, decodeFrame_frameOctets hv hne⟩
  · intro b f bufferSize hd hbit hlong hroom
    obtain ⟨ctrl, header, d⟩ := decodeFrame_eq_done.mp hd
    have hctrl : b.headD 0 = ctrl := by
      have hcontrol := d.control
      cases b with
      | nil => cases hcontrol
      | cons c rest => exact Checked.done.inj hcontrol
    rw [hctrl] at hbit hlong
    exact encodeFrame_of_decoded d hbit hlong hroom

/-- A group value read, from `1.1.1` to `0/0/1`. -/
def groupReadFrame : LDataFrame :=
  { source := ⟨0x1101⟩, destination := ⟨0x0001⟩, tpdu := ⟨[0x00, 0x00], by decide⟩ }

theorem codec_inversion_groupRead :
    (∃ octets, encodeFrame groupReadFrame 264 = .ok octets
        ∧ decodeFrame octets = .done { groupReadFrame with standardFrame := true })
    ∧ encodeFrame groupReadFrame 264
        = .ok [0xBE, 0x11, 0x01, 0x00, 0x01, 0xE1, 0x00, 0x00, 0xB1] :=
  ⟨codec_inversion.1 groupReadFrame 264 (by decide) (by decide) (by decide) (by decide),
    codec_inversion.2 [0xBE, 0x11, 0x01, 0x00, 0x01, 0xE1, 0x00, 0x00, 0xB1] groupReadFrame 264
      (by decide) (by decide) (by decide) (by decide)⟩

end KnxStack.Datalink
