import KnxStack.Physical.MacOutcome

/-!
# Two ideas of which frames are acknowledged

`Tp1MacPhysical::beginTransmit` decides from the decoded frame whether an acknowledgement is to be waited
for, `txFrameExpectsAck` of the driver from the octets. Both leave out one individual address as the
broadcast address: the MAC `0x0000`, the driver `0xFFFF`.

- `frameExpectsAck_of_decoded`: the decision of the driver in terms of the decoded frame.
- `txAckRequested_beginTransmit`: what the MAC stores.
- `ack_expectations_agree_iff`: they agree on all frames but those to the two addresses that do not ask
  for an acknowledgement themselves.
-/

set_option autoImplicit false

namespace KnxStack.Physical

open KnxStack.Lib KnxStack.Lib.Words KnxStack.Datalink

theorem getD_of_readAt {buffer : List UInt8} {i : Nat} {octet : UInt8}
    (h : (readAt buffer i : Checked ErrorCode UInt8) = .done octet) :
    buffer.getD i 0 = octet := by
  rcases Nat.lt_or_ge i buffer.length with hlt | hge
  · rw [readAt_of_lt hlt] at h
    cases h
    exact (List.getElem_eq_getD 0).symm
  · rw [readAt_of_le hge] at h
    cases h

theorem addressTypeOf_eq_individual {octet : UInt8} :
    addressTypeOf octet = .individual ↔ octet &&& 0x80 = 0 := by
  unfold addressTypeOf
  split <;> simp_all

/-! ## The driver -/

/-- `txFrameExpectsAck`, for a frame that is long enough for its format. -/
theorem frameExpectsAck_eq {frame : List UInt8} (hlength : 7 ≤ frame.length)
    (addressTypePos destHiPos : Nat)
    (hpos : (if (frame.getD 0 0 &&& 0x80 != 0) = true then 5 else 1) = addressTypePos)
    (hdest : (if (frame.getD 0 0 &&& 0x80 != 0) = true then 3 else 4) = destHiPos) :
    frameExpectsAck frame =
      (frame.getD 0 0 &&& 0x02 != 0
        || (addressTypeOf (frame.getD addressTypePos 0) == .individual
          && joinBytes (frame.getD destHiPos 0) (frame.getD (destHiPos + 1) 0) != 0xFFFF)) := by
  have hposBound : addressTypePos ≤ 5 := by
    rw [← hpos]
    split <;> omega
  have hdestBound : destHiPos ≤ 4 := by
    rw [← hdest]
    split <;> omega
  unfold frameExpectsAck Driver.txFrameExpectsAck
  dsimp only
  rw [hpos, hdest, if_neg (by omega)]
  by_cases hack : frame.getD 0 0 &&& 0x02 = 0
  · rw [if_neg (not_not.mpr hack), if_neg (by omega), hack]
    by_cases htype : frame.getD addressTypePos 0 &&& 0x80 = 0
    · rw [if_neg (not_not.mpr htype), addressTypeOf_eq_individual.mpr htype]
      rfl
    · have hgroup : addressTypeOf (frame.getD addressTypePos 0) ≠ .individual :=
        fun h => htype (addressTypeOf_eq_individual.mp h)
      rw [if_pos htype, beq_eq_false_iff_ne.mpr hgroup]
      rfl
  · rw [if_pos hack, bne_iff_ne.mpr hack, Bool.true_or]

theorem frameExpectsAck_of_decoded {frame : List UInt8} {f : LDataFrame}
    (hd : decodeFrame frame = .done f) :
    frameExpectsAck frame =
      (frame.getD 0 0 &&& 0x02 != 0
        || (f.destinationType == .individual && f.destination.raw != 0xFFFF)) := by
  obtain ⟨ctrl, header, d⟩ := decodeFrame_eq_done.mp hd
  have hlength := d.length
  have hcontrol := getD_of_readAt d.control
  have hhead := d.head
  have hframe := d.frame
  unfold readHeader at hhead
  split at hhead
  · rename_i hextended
    -- Extended: the address type is in the second octet.
    have hformat : (frame.getD 0 0 &&& 0x80 != 0) = false := by
      rw [hcontrol, hextended]
      rfl
    rw [frameExpectsAck_eq hlength 1 4 (by rw [hformat]; rfl) (by rw [hformat]; rfl), hframe]
    unfold readExtendedHeader at hhead
    obtain ⟨-, hhead⟩ := Checked.guard_eq_done.mp hhead
    obtain ⟨ctrle, hctrle, hhead⟩ := Checked.bind_eq_done.mp hhead
    obtain ⟨-, hhead⟩ := Checked.guard_eq_done.mp hhead
    obtain ⟨srcHi, -, hhead⟩ := Checked.bind_eq_done.mp hhead
    obtain ⟨srcLo, -, hhead⟩ := Checked.bind_eq_done.mp hhead
    obtain ⟨dstHi, hdstHi, hhead⟩ := Checked.bind_eq_done.mp hhead
    obtain ⟨dstLo, hdstLo, hhead⟩ := Checked.bind_eq_done.mp hhead
    obtain ⟨len, -, hhead⟩ := Checked.bind_eq_done.mp hhead
    cases hhead
    rw [getD_of_readAt hctrle, getD_of_readAt hdstHi, getD_of_readAt hdstLo]
    rfl
  · rename_i hstandard
    -- Standard: it is in the octet behind the addresses.
    have hformat : (frame.getD 0 0 &&& 0x80 != 0) = true := by
      rw [hcontrol]
      exact bne_iff_ne.mpr hstandard
    rw [frameExpectsAck_eq hlength 5 3 (by rw [hformat]; rfl) (by rw [hformat]; rfl), hframe]
    unfold readStandardHeader at hhead
    obtain ⟨srcHi, -, hhead⟩ := Checked.bind_eq_done.mp hhead
    obtain ⟨srcLo, -, hhead⟩ := Checked.bind_eq_done.mp hhead
    obtain ⟨dstHi, hdstHi, hhead⟩ := Checked.bind_eq_done.mp hhead
    obtain ⟨dstLo, hdstLo, hhead⟩ := Checked.bind_eq_done.mp hhead
    obtain ⟨len, hlen, hhead⟩ := Checked.bind_eq_done.mp hhead
    cases hhead
    rw [getD_of_readAt hlen, getD_of_readAt hdstHi, getD_of_readAt hdstLo]
    rfl

/-! ## The MAC -/

namespace Tp1MacPhysical

/-- What `beginTransmit` stores for a frame that it accepts. -/
theorem txAckRequested_beginTransmit {m : Tp1MacPhysical} {frame : List UInt8} {f : LDataFrame}
    (hvalid : m.validateOutgoingFrame frame = .ok f) (nowUs : Nat) :
    (m.beginTransmit frame nowUs).1.txAckRequested =
      (frame.getD 0 0 &&& 0x02 != 0 || individuallyAddressed f) := by
  unfold beginTransmit
  rw [hvalid]
  dsimp only
  split <;> rfl

/-- Outside bus monitor mode and with the link up, the frames that are accepted are those that can be
decoded. -/
theorem validateOutgoingFrame_of_decoded {m : Tp1MacPhysical} (hmonitor : m.busMonitorMode = false)
    (hlink : m.linkGated = false) {frame : List UInt8} {f : LDataFrame}
    (hd : decodeFrame frame = .done f) : m.validateOutgoingFrame frame = .ok f := by
  have hne : frame ≠ [] := by
    rintro rfl
    cases hd
  unfold validateOutgoingFrame
  rw [if_neg hne, hmonitor, hlink, hd]
  rfl

theorem exclusions_agree_iff (requested individual : Bool) (raw : UInt16) :
    (requested || (individual && raw != 0x0000)) = (requested || (individual && raw != 0xFFFF))
      ↔ requested = true ∨ individual = false ∨ raw ≠ 0x0000 ∧ raw ≠ 0xFFFF := by
  cases requested with
  | true => simp
  | false =>
    cases individual with
    | false => simp
    | true =>
      by_cases hzero : raw = 0x0000
      · subst hzero
        decide
      · by_cases hones : raw = 0xFFFF
        · subst hones
          decide
        · simp [hzero, hones, bne_iff_ne.mpr hzero, bne_iff_ne.mpr hones]

/-- MAC and driver agree on a frame if and only if it asks for an acknowledgement itself, goes to a
group address, or to an individual address other than `0x0000` and `0xFFFF`. -/
theorem ack_expectations_agree_iff (m : Tp1MacPhysical) (hmonitor : m.busMonitorMode = false)
    (hlink : m.linkGated = false) (frame : List UInt8) (f : LDataFrame)
    (hd : decodeFrame frame = .done f) (nowUs : Nat) :
    (m.beginTransmit frame nowUs).1.txAckRequested = frameExpectsAck frame
      ↔ f.ackRequested = true ∨ f.destinationType = .group
        ∨ f.destination.raw ≠ 0x0000 ∧ f.destination.raw ≠ 0xFFFF := by
  have hvalid := validateOutgoingFrame_of_decoded hmonitor hlink hd
  have hrequested : f.ackRequested = (frame.getD 0 0 &&& 0x02 != 0) := by
    obtain ⟨ctrl, header, d⟩ := decodeFrame_eq_done.mp hd
    rw [getD_of_readAt d.control, d.frame]
    rfl
  have hgroup : (f.destinationType == .individual) = false ↔ f.destinationType = .group := by
    cases f.destinationType <;> decide
  rw [txAckRequested_beginTransmit hvalid, frameExpectsAck_of_decoded hd, individuallyAddressed,
    exclusions_agree_iff, hgroup, ← hrequested]

/-- A frame to the individual address 1.1.2. -/
def deviceFrame : List UInt8 := [0xBC, 0x11, 0x01, 0x11, 0x02, 0x61, 0x00, 0x80, 0xA1]

theorem ack_expectations_agree_device :
    (exampleMac.beginTransmit deviceFrame 1000).1.txAckRequested = frameExpectsAck deviceFrame
      ↔ false = true ∨ AddressType.individual = .group
        ∨ (0x1102 : UInt16) ≠ 0x0000 ∧ (0x1102 : UInt16) ≠ 0xFFFF :=
  ack_expectations_agree_iff exampleMac rfl rfl deviceFrame
    { priority := .low, ackRequested := false, source := ⟨0x1101⟩, destination := ⟨0x1102⟩,
      destinationType := .individual, tpdu := (FixedVector.clear.assign [0x00, 0x80]).2 }
    (by decide +kernel) 1000

/-- A frame to the individual address `0xFFFF`. -/
def uncommissionedFrame : List UInt8 := [0xBC, 0x11, 0x01, 0xFF, 0xFF, 0x61, 0x00, 0x80, 0xB2]

/-- A frame to the individual address `0x0000`. -/
def unaddressedFrame : List UInt8 := [0xBC, 0x11, 0x01, 0x00, 0x00, 0x61, 0x00, 0x80, 0xB2]

/-- The MAC waits where the driver does not look, and the other way round. -/
theorem ack_expectations_differ :
    (∃ f, decodeFrame uncommissionedFrame = .done f)
      ∧ (exampleMac.beginTransmit uncommissionedFrame 1000).1.txAckRequested = true
      ∧ frameExpectsAck uncommissionedFrame = false
      ∧ (∃ f, decodeFrame unaddressedFrame = .done f)
      ∧ (exampleMac.beginTransmit unaddressedFrame 1000).1.txAckRequested = false
      ∧ frameExpectsAck unaddressedFrame = true := by
  refine ⟨⟨_, by rfl⟩, by decide +kernel, by decide +kernel, ⟨_, by rfl⟩, by decide +kernel,
    by decide +kernel⟩

end Tp1MacPhysical

end KnxStack.Physical
