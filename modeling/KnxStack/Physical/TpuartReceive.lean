import KnxStack.Datalink.CodecInversion

/-!
# Reception from a TPUART

`TpuartPhysical` (`physical/tpuart_physical.cpp`) takes the octets that the chip passes on, in one
stream with its service octets, and queues the frames that it finds in it. An octet with bit 7 set is
taken for a service, the control field keeps four of its bits, and the length that a frame is expected to
have is computed as 7 and the low nibble of the sixth octet.

A frame on the bus has an octet more than that, and a frame without bit 7 anywhere has it in its
checksum.

- `never_transparent`: no frame comes out as it went in.
-/

set_option autoImplicit false

namespace KnxStack.Physical

open KnxStack.Lib KnxStack.Datalink

/-! ## The parser -/

/-- `TpuartPhysical::RxState`. -/
inductive TpuartRxState where
  | idle
  | receivingControl
  | receivingData
  | complete
  deriving DecidableEq, Repr

/-- The receiving side of `TpuartPhysical`. The buffer is kept up to `_rxIndex`. -/
structure TpuartPhysical where
  rxState : TpuartRxState := .idle
  rxBuffer : List UInt8 := []
  rxExpectedLength : Nat := 0
  txPending : Bool := false
  lastTxStatus : UInt8 := 0
  rxQueue : List (List UInt8) := []
  deriving DecidableEq, Repr

namespace TpuartPhysical

/-- `MAX_TP1_FRAME_SIZE` of this class. -/
def maxTp1FrameSize : Nat := 23

/-- The items that the receive queue holds. -/
def rxQueueLength : Nat := 8

/-- `handleServiceByte`. -/
def handleServiceByte (s : TpuartPhysical) (service : UInt8) : TpuartPhysical :=
  if service &&& 0xF0 = 0x90 then
    { s with rxState := .receivingControl, rxBuffer := [service &&& 0x0F], rxExpectedLength := 0 }
  else if service = 0x0B then
    { s with rxState := .receivingData, rxBuffer := [], rxExpectedLength := 1 }
  else s

/-- The end of a frame: it is queued if its checksum is right. -/
def completeFrame (s : TpuartPhysical) : TpuartPhysical :=
  { s with
    rxState := .idle
    rxQueue :=
      if s.rxBuffer.getLastD 0 = calculateChecksum s.rxBuffer.dropLast
          ∧ s.rxQueue.length < rxQueueLength then
        s.rxQueue ++ [s.rxBuffer]
      else s.rxQueue }

/-- The expected length after an octet: the sixth one has the length field. -/
def expectedLength (buffer : List UInt8) (old : Nat) : Nat :=
  if buffer.length = 6 then 6 + (buffer.getLastD 0 &&& 0x0F).toNat + 1 else old

/-- `handleDataByte`. -/
def handleDataByte (s : TpuartPhysical) (byte : UInt8) : TpuartPhysical :=
  if s.rxState = .receivingData ∧ s.rxExpectedLength = 1 then
    { s with rxState := .idle, lastTxStatus := byte, txPending := false }
  else if s.rxState = .receivingControl ∨ s.rxState = .receivingData then
    if maxTp1FrameSize ≤ s.rxBuffer.length then { s with rxState := .idle }
    else
      let buffer := s.rxBuffer ++ [byte]
      let expected := expectedLength buffer s.rxExpectedLength
      let s := { s with rxBuffer := buffer, rxExpectedLength := expected }
      if buffer.length = 6 ∧ maxTp1FrameSize < expected then { s with rxState := .idle }
      else if expected ≤ buffer.length ∧ 0 < expected then s.completeFrame
      else s
  else s

/-- `processRxByte`. -/
def processRxByte (s : TpuartPhysical) (byte : UInt8) : TpuartPhysical :=
  if byte &&& 0x80 ≠ 0 then s.handleServiceByte byte else s.handleDataByte byte

/-- `uartRxCallback`, once for each chunk that the UART has. -/
def uartRx (s : TpuartPhysical) (chunks : List (List UInt8)) : TpuartPhysical :=
  chunks.foldl (fun s chunk => chunk.foldl processRxByte s) s

theorem uartRx_eq (s : TpuartPhysical) (chunks : List (List UInt8)) :
    s.uartRx chunks = chunks.flatten.foldl processRxByte s := by
  rw [uartRx, List.foldl_flatten]

/-! ## What is queued -/

/-- The octets from a start octet on, taken as a frame. -/
def Taken (octets buffer : List UInt8) : Prop :=
  ∃ first rest, octets = first :: rest ∧ first &&& 0xF0 = 0x90
    ∧ buffer = (first &&& 0x0F) :: rest ∧ ∀ byte ∈ rest, byte &&& 0x80 = 0

/-- A buffer that was filled from some octets: it has no more than these, starts with a nibble, and
all of them only where they were taken as they are. -/
structure Filled (octets buffer : List UInt8) : Prop where
  length : buffer.length ≤ octets.length
  nibble : ∃ first rest, buffer = (first &&& 0x0F) :: rest
  taken : buffer.length = octets.length → Taken octets buffer

/-- A frame that was queued. -/
structure Queued (octets frame : List UInt8) : Prop where
  filled : Filled octets frame
  checksum : frame.getLastD 0 = calculateChecksum frame.dropLast

/-- Invariant of the parser after some octets. -/
structure Parsed (octets : List UInt8) (s : TpuartPhysical) : Prop where
  state : s.rxState = .idle ∨ s.rxState = .receivingControl
  filled : s.rxState = .receivingControl → Filled octets s.rxBuffer
  queued : ∀ frame ∈ s.rxQueue, Queued octets frame

theorem Filled.append_octet {octets buffer : List UInt8} (h : Filled octets buffer) {byte : UInt8}
    (hdata : byte &&& 0x80 = 0) : Filled (octets ++ [byte]) (buffer ++ [byte]) := by
  obtain ⟨first, rest, hbuffer⟩ := h.nibble
  refine ⟨?_, ⟨first, rest ++ [byte], ?_⟩, ?_⟩
  · rw [List.length_append, List.length_append]
    exact Nat.add_le_add_right h.length 1
  · rw [hbuffer]
    rfl
  · intro hlength
    rw [List.length_append, List.length_append, Nat.add_right_cancel_iff] at hlength
    obtain ⟨first, rest, hoctets, hstart, htaken, hrest⟩ := h.taken hlength
    refine ⟨first, rest ++ [byte], ?_, hstart, ?_, ?_⟩
    · rw [hoctets]
      rfl
    · rw [htaken]
      rfl
    · intro b hb
      rcases List.mem_append.mp hb with hold | hnew
      · exact hrest b hold
      · rw [List.mem_singleton] at hnew
        rw [hnew]
        exact hdata

theorem Filled.skip {octets buffer : List UInt8} (h : Filled octets buffer) (byte : UInt8) :
    Filled (octets ++ [byte]) buffer := by
  have hlength := h.length
  refine ⟨?_, h.nibble, ?_⟩
  · rw [List.length_append]
    omega
  · intro hall
    rw [List.length_append, List.length_singleton] at hall
    omega

theorem Queued.skip {octets frame : List UInt8} (h : Queued octets frame) (byte : UInt8) :
    Queued (octets ++ [byte]) frame :=
  ⟨h.filled.skip byte, h.checksum⟩

theorem filled_start (octets : List UInt8) {service : UInt8} (hstart : service &&& 0xF0 = 0x90) :
    Filled (octets ++ [service]) [service &&& 0x0F] := by
  refine ⟨?_, ⟨service, [], rfl⟩, ?_⟩
  · rw [List.length_append]
    exact Nat.le_add_left 1 _
  · intro hlength
    have hnil : octets = [] := by
      rw [List.length_append] at hlength
      exact List.eq_nil_of_length_eq_zero (by simpa using hlength)
    rw [hnil]
    exact ⟨service, [], rfl, hstart, rfl, fun _ h => absurd h List.not_mem_nil⟩

theorem Parsed.handleServiceByte {octets : List UInt8} {s : TpuartPhysical} (h : Parsed octets s)
    {byte : UInt8} (hservice : byte &&& 0x80 ≠ 0) :
    Parsed (octets ++ [byte]) (s.handleServiceByte byte) := by
  have hqueued : ∀ frame ∈ s.rxQueue, Queued (octets ++ [byte]) frame :=
    fun frame hframe => (h.queued frame hframe).skip byte
  rw [TpuartPhysical.handleServiceByte]
  split
  next hstart =>
    refine ⟨.inr rfl, ?_, hqueued⟩
    intro _
    exact filled_start octets hstart
  next =>
    split
    next hconfirm =>
      rw [hconfirm] at hservice
      exact absurd rfl hservice
    next =>
      refine ⟨h.state, ?_, hqueued⟩
      intro hreceiving
      exact (h.filled hreceiving).skip byte

theorem parsed_completeFrame {octets : List UInt8} {s : TpuartPhysical}
    (hqueued : ∀ frame ∈ s.rxQueue, Queued octets frame) (hfilled : Filled octets s.rxBuffer) :
    Parsed octets s.completeFrame := by
  refine ⟨.inl rfl, nofun, ?_⟩
  intro frame hframe
  rw [completeFrame] at hframe
  dsimp only at hframe
  split at hframe
  next hright =>
    rcases List.mem_append.mp hframe with hold | hnew
    · exact hqueued frame hold
    · rw [List.mem_singleton] at hnew
      rw [hnew]
      exact ⟨hfilled, hright.1⟩
  next => exact hqueued frame hframe

theorem Parsed.handleDataByte {octets : List UInt8} {s : TpuartPhysical} (h : Parsed octets s)
    {byte : UInt8} (hdata : byte &&& 0x80 = 0) :
    Parsed (octets ++ [byte]) (s.handleDataByte byte) := by
  have hqueued : ∀ frame ∈ s.rxQueue, Queued (octets ++ [byte]) frame :=
    fun frame hframe => (h.queued frame hframe).skip byte
  rw [TpuartPhysical.handleDataByte]
  rcases h.state with hidle | hreceiving
  · rw [if_neg (by rw [hidle]; simp), if_neg (by rw [hidle]; simp)]
    refine ⟨.inl hidle, ?_, hqueued⟩
    intro hreceiving
    rw [hidle] at hreceiving
    cases hreceiving
  · have hfilled := (h.filled hreceiving).append_octet hdata
    rw [if_neg (by rw [hreceiving]; simp), if_pos (.inl hreceiving)]
    split
    · exact ⟨.inl rfl, nofun, hqueued⟩
    · dsimp only
      split
      · exact ⟨.inl rfl, nofun, hqueued⟩
      · split
        · exact parsed_completeFrame hqueued hfilled
        · exact ⟨.inr hreceiving, fun _ => hfilled, hqueued⟩

theorem Parsed.processRxByte {octets : List UInt8} {s : TpuartPhysical} (h : Parsed octets s)
    (byte : UInt8) : Parsed (octets ++ [byte]) (s.processRxByte byte) := by
  rw [TpuartPhysical.processRxByte]
  split
  next hservice => exact h.handleServiceByte hservice
  next hdata => exact h.handleDataByte (not_not.mp hdata)

theorem Parsed.run {octets : List UInt8} {s : TpuartPhysical} (h : Parsed octets s)
    (more : List UInt8) :
    Parsed (octets ++ more) (more.foldl TpuartPhysical.processRxByte s) := by
  induction more generalizing octets s with
  | nil =>
    rw [List.append_nil]
    exact h
  | cons byte more ih =>
    have hnext := ih (h.processRxByte byte)
    rwa [List.append_assoc, List.singleton_append] at hnext

/-! ## What a frame needs -/

theorem length_of_decoded {buffer : List UInt8} {f : LDataFrame} (h : decodeFrame buffer = .done f) :
    ∃ ctrl, buffer.head? = some ctrl
      ∧ buffer.length = f.tpdu.size + if ctrl &&& 0x80 = 0 then 8 else 7 := by
  obtain ⟨ctrl, header, d⟩ := decodeFrame_eq_done.mp h
  have hcontrol : buffer.head? = some ctrl := by
    have hlength := d.length
    have hread := d.control
    rw [readAt_of_lt (by omega)] at hread
    cases hread
    rw [List.head?_eq_getElem?, List.getElem?_eq_getElem]
  have htpdu : ∀ size, header.tpduLength = size → size ≤ 256 → f.tpdu.size = size := by
    intro size hsize hle
    rw [(d.tpdu_data (by omega)).2, hsize]
  refine ⟨ctrl, hcontrol, ?_⟩
  have htotal := d.total
  have hhead := d.head
  rw [readHeader] at hhead
  split at hhead
  next hextended =>
    rw [if_pos hextended]
    rw [readExtendedHeader] at hhead
    obtain ⟨hlength, hhead⟩ := Checked.guard_eq_done.mp hhead
    obtain ⟨ctrle, -, hhead⟩ := Checked.bind_eq_done.mp hhead
    obtain ⟨-, hhead⟩ := Checked.guard_eq_done.mp hhead
    obtain ⟨srcHi, -, hhead⟩ := Checked.bind_eq_done.mp hhead
    obtain ⟨srcLo, -, hhead⟩ := Checked.bind_eq_done.mp hhead
    obtain ⟨dstHi, -, hhead⟩ := Checked.bind_eq_done.mp hhead
    obtain ⟨dstLo, -, hhead⟩ := Checked.bind_eq_done.mp hhead
    obtain ⟨len, -, hhead⟩ := Checked.bind_eq_done.mp hhead
    cases hhead
    have hlen := len.toNat_lt
    rw [htpdu _ rfl (by dsimp only; omega), htotal]
    dsimp only
    omega
  next hstandard =>
    rw [if_neg hstandard]
    rw [readStandardHeader] at hhead
    obtain ⟨srcHi, -, hhead⟩ := Checked.bind_eq_done.mp hhead
    obtain ⟨srcLo, -, hhead⟩ := Checked.bind_eq_done.mp hhead
    obtain ⟨dstHi, -, hhead⟩ := Checked.bind_eq_done.mp hhead
    obtain ⟨dstLo, -, hhead⟩ := Checked.bind_eq_done.mp hhead
    obtain ⟨len, -, hhead⟩ := Checked.bind_eq_done.mp hhead
    cases hhead
    have hlen := (len &&& 0x0F).toNat_lt
    rw [htpdu _ rfl (by dsimp only; omega), htotal]
    dsimp only
    omega

theorem calculateChecksum_cons (first : UInt8) (rest : List UInt8) :
    calculateChecksum (first :: rest) = first ^^^ calculateChecksum rest := by
  have hfold : ∀ (octets : List UInt8) (start : UInt8),
      octets.foldl (· ^^^ ·) (start ^^^ first) = first ^^^ octets.foldl (· ^^^ ·) start := by
    intro octets
    induction octets with
    | nil =>
      intro start
      exact UInt8.xor_comm _ _
    | cons octet octets ih =>
      intro start
      rw [List.foldl_cons, List.foldl_cons, UInt8.xor_assoc, UInt8.xor_comm first octet,
        ← UInt8.xor_assoc]
      exact ih (start ^^^ octet)
  exact hfold rest 0xFF

theorem first_eq_of_checksum {first first' : UInt8} {rest : List UInt8} (hrest : rest ≠ [])
    (h : (first :: rest).getLastD 0 = calculateChecksum (first :: rest).dropLast)
    (h' : (first' :: rest).getLastD 0 = calculateChecksum (first' :: rest).dropLast) :
    first = first' := by
  rw [List.dropLast_cons_of_ne_nil hrest, calculateChecksum_cons] at h h'
  have hlast : (first :: rest).getLastD 0 = (first' :: rest).getLastD 0 := by
    rw [List.getLastD_cons, List.getLastD_cons]
    cases rest with
    | nil => exact absurd rfl hrest
    | cons b rest => rw [List.getLastD_cons, List.getLastD_cons]
  have hsame := h.symm.trans (hlast.trans h')
  exact (UInt8.xor_right_inj _).mp (by rw [UInt8.xor_comm, hsame, UInt8.xor_comm])

/-! ## Which frames come through -/

/-- Frames with the same addresses, priority, repeat flag, hop count and TPDU. -/
structure SameTelegram (f g : LDataFrame) : Prop where
  source : f.source = g.source
  destination : f.destination = g.destination
  priority : f.priority = g.priority
  repeated : f.repeated = g.repeated
  hopCount : f.hopCount = g.hopCount
  tpdu : f.tpdu = g.tpdu

/-- A frame comes through: its indication, in any chunks, queues one frame that decodes to the
same. The indication has the octets of the frame, with one for the control field that the chip
makes. -/
def Transparent (s : TpuartPhysical) (indication : UInt8) (octets : List UInt8) (f : LDataFrame) :
    Prop :=
  ∀ chunks : List (List UInt8), chunks.flatten = indication :: octets.tail →
    ∃ frame g, (s.uartRx chunks).rxQueue = [frame] ∧ decodeFrame frame = .done g ∧ SameTelegram g f

theorem getLastD_of_verifyChecksum {octets : List UInt8} (h : verifyChecksum octets = .ok ()) :
    octets.getLastD 0 = calculateChecksum octets.dropLast := by
  rw [verifyChecksum] at h
  split at h
  · cases h
  · split at h
    next hright => exact hright.symm
    next => cases h

/-- What comes through is taken as it is: a frame that decodes to the same telegram has all octets of
the indication, and the control field is the low nibble of its first one. -/
theorem taken_of_transparent {s : TpuartPhysical} (hidle : s.rxState = .idle)
    (hempty : s.rxQueue = []) {octets : List UInt8} {f : LDataFrame}
    (hdecoded : decodeFrame octets = .done f) {indication : UInt8}
    (h : Transparent s indication octets f) :
    octets.head? = some (indication &&& 0x0F) ∧ ∀ byte ∈ octets.tail, byte &&& 0x80 = 0 := by
  obtain ⟨frame, g, hqueue, hg, hsame⟩ := h [indication :: octets.tail] (by simp)
  have hparsed : Parsed [] s := by
    refine ⟨.inl hidle, ?_, ?_⟩
    · intro hreceiving
      rw [hidle] at hreceiving
      cases hreceiving
    · intro frame hframe
      rw [hempty] at hframe
      cases hframe
  have hrun := hparsed.run (indication :: octets.tail)
  rw [List.nil_append] at hrun
  rw [uartRx_eq, List.flatten_singleton] at hqueue
  have hqueued := hrun.queued frame (by rw [hqueue]; exact List.mem_singleton_self frame)
  -- a queued frame starts with a nibble, so it is decoded as an extended one
  obtain ⟨ctrl, hctrl, hlength⟩ := length_of_decoded hg
  obtain ⟨first, rest, hnibble⟩ := hqueued.filled.nibble
  have hextended : ctrl &&& 0x80 = 0 := by
    rw [hnibble] at hctrl
    cases hctrl
    rw [UInt8.and_assoc]
    exact UInt8.and_zero
  rw [if_pos hextended] at hlength
  obtain ⟨ctrl', hctrl', hlength'⟩ := length_of_decoded hdecoded
  have hsize : g.tpdu.size = f.tpdu.size := by rw [hsame.tpdu]
  obtain ⟨control, tail, rfl⟩ : ∃ control tail, octets = control :: tail := by
    cases octets with
    | nil => cases hctrl'
    | cons control tail => exact ⟨control, tail, rfl⟩
  -- so it has all octets of the indication, and these were taken as they are
  have hle := hqueued.filled.length
  rw [List.tail_cons, List.length_cons] at hle
  rw [List.length_cons] at hlength'
  have hall : frame.length = (indication :: tail).length := by
    rw [List.length_cons]
    split at hlength' <;> omega
  obtain ⟨start, data, hoctets, -, hframe, hdata⟩ := hqueued.filled.taken hall
  obtain ⟨rfl, rfl⟩ := List.cons_eq_cons.mp hoctets
  refine ⟨?_, hdata⟩
  obtain ⟨_, _, d⟩ := decodeFrame_eq_done.mp hdecoded
  have hchecksum := hqueued.checksum
  rw [hframe] at hchecksum
  have hcontrol : indication &&& 0x0F = control := by
    refine first_eq_of_checksum ?_ hchecksum (getLastD_of_verifyChecksum d.checksum)
    intro hnil
    have hlong := d.length
    rw [List.tail_cons] at hnil
    rw [hnil, List.length_singleton] at hlong
    omega
  rw [hcontrol]
  rfl

theorem calculateChecksum_high {octets : List UInt8} (h : ∀ byte ∈ octets, byte &&& 0x80 = 0) :
    calculateChecksum octets &&& 0x80 = 0x80 := by
  induction octets with
  | nil => decide
  | cons byte octets ih =>
    have hsplit : ∀ a b : UInt8, (a ^^^ b) &&& 0x80 = (a &&& 0x80) ^^^ (b &&& 0x80) := by
      intro a b
      apply UInt8.toBitVec_inj.mp
      simp only [UInt8.toBitVec_and, UInt8.toBitVec_xor]
      ext i hi
      simp only [BitVec.getElem_and, BitVec.getElem_xor, Bool.and_xor_distrib_right]
    rw [calculateChecksum_cons, hsplit, h byte List.mem_cons_self,
      ih fun b hb => h b (List.mem_cons_of_mem _ hb)]
    rfl

/-- No frame comes through. Whatever octet the chip makes of the control field, a frame that decodes
is never queued as one that decodes to the same: the octets in it, and the checksum at its end, would all
have to be without bit 7. -/
theorem never_transparent (s : TpuartPhysical) (hidle : s.rxState = .idle) (hempty : s.rxQueue = [])
    (octets : List UInt8) (f : LDataFrame) (hdecoded : decodeFrame octets = .done f)
    (indication : UInt8) : ¬Transparent s indication octets f := by
  intro h
  obtain ⟨hcontrol, hdata⟩ := taken_of_transparent hidle hempty hdecoded h
  obtain ⟨_, _, d⟩ := decodeFrame_eq_done.mp hdecoded
  have hlong := d.length
  have hall : ∀ byte ∈ octets, byte &&& 0x80 = 0 := by
    cases octets with
    | nil => cases hcontrol
    | cons control tail =>
      cases hcontrol
      intro byte hbyte
      rcases List.mem_cons.mp hbyte with rfl | htail
      · rw [UInt8.and_assoc]
        exact UInt8.and_zero
      · exact hdata byte htail
  have hchecksum := eq_append_checksum (by rintro rfl; simp at hlong) d.checksum
  have hhigh : calculateChecksum octets.dropLast &&& 0x80 = 0x80 :=
    calculateChecksum_high fun byte hbyte => hall byte ((List.dropLast_sublist octets).subset hbyte)
  have hlow : calculateChecksum octets.dropLast &&& 0x80 = 0 := by
    apply hall
    rw [hchecksum]
    simp
  rw [hlow] at hhigh
  exact absurd hhigh (by decide)

/-- A group telegram from 1.1.1 to 1/1/1. -/
def groupTelegram : List UInt8 := [0xBC, 0x11, 0x01, 0x09, 0x01, 0xE1, 0x00, 0x81, 0x3B]

/-- A group telegram is not received: nothing is queued. -/
theorem group_telegram_not_transparent :
    ∃ f, decodeFrame groupTelegram = .done f ∧ groupTelegram.length ≤ 23
      ∧ ¬Transparent {} 0xBC groupTelegram f := by
  obtain ⟨f, hf⟩ : ∃ f, decodeFrame groupTelegram = .done f := ⟨_, rfl⟩
  exact ⟨f, hf, by decide, never_transparent {} rfl rfl groupTelegram f hf 0xBC⟩

/-- A group telegram is lost: in one chunk from the idle state it leaves the queue empty. -/
theorem group_telegram_lost :
    (∃ f, decodeFrame groupTelegram = .done f) ∧ groupTelegram.length ≤ 23
      ∧ (uartRx {} [groupTelegram]).rxQueue = []
      ∧ (uartRx {} [0x9C :: groupTelegram.tail]).rxQueue = [] := by
  refine ⟨⟨_, rfl⟩, ?_, ?_, ?_⟩
  all_goals decide +kernel

end TpuartPhysical

end KnxStack.Physical
