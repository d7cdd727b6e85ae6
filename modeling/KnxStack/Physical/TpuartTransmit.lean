import Mathlib.Data.List.Forall2
import Mathlib.Data.List.TakeWhile
import KnxStack.Lib.Runs
import KnxStack.Physical.PolledWaits

/-!
# Transmission over a TPUART

`TpuartPhysical::transmitFrameBlocking` (`physical/tpuart_physical.cpp`) hands a frame to the chip and
waits until the receive parser has seen the confirmation and its status, or the time is over. The octet
of the confirmation service has no bit 7, and the parser looks for services among the octets with bit 7
only.

- `Deaf.foldl_processRxByte`: no octets make the parser see a confirmation, and none make it queue a
  frame.
- `transmit_confirms_iff`: the answer and the queue are right if and only if the chip passes on neither a
  confirmation nor a telegram.
-/

set_option autoImplicit false

namespace KnxStack.Physical

open KnxStack.Lib KnxStack.Datalink

/-! ## The transceiver -/

/-- `PhysicalLayerState`. -/
inductive PhysicalLayerState where
  | idle
  | transmitting
  | receiving
  | error
  deriving DecidableEq, Repr

/-- `TpuartPhysical`, with the octets that the UART took. -/
structure TpuartTransceiver where
  reception : TpuartReception := {}
  initialized : Bool := false
  busMonitorMode : Bool := false
  state : PhysicalLayerState := .idle
  written : List UInt8 := []
  deriving DecidableEq, Repr

namespace TpuartTransceiver

/-- `TPUART_TX_TIMEOUT`. -/
def txTimeout : UInt32 := 50

/-- The octets for the chip: the nibble of the control field as the start service, the last octet as the end
service. -/
def requestOctets (frame : List UInt8) : List UInt8 :=
  (0x80 ||| (frame.headD 0 &&& 0x0F)) :: frame.tail.dropLast
    ++ [0x40 ||| (frame.getLastD 0 &&& 0x3F)]

/-- The end of the wait: the status is decoded, if there is one. -/
def concludeTransmit (t : TpuartTransceiver) (frame : List UInt8) :
    TpuartTransceiver × Result Nat :=
  if t.reception.parser.txPending then
    ({ t with
        state := .idle
        reception := { t.reception with parser := { t.reception.parser with txPending := false } } },
      .error .timeout)
  else
    let status := t.reception.parser.lastTxStatus
    ({ t with state := .idle },
      if status &&& 0x80 ≠ 0 then .ok frame.length
      else if status &&& 0x01 ≠ 0 then .error .busy
      else .error .transmissionFailed)

/-- `uartRxCallback`. -/
def uartRx (t : TpuartTransceiver) (chunks : List (List UInt8)) : TpuartTransceiver :=
  { t with reception := t.reception.uartRx chunks }

/-- The loop that waits for the confirmation, with the octets that came since the last turn and the clock;
`none` while it is still waiting. -/
def waitLoop (frame : List UInt8) (startMs : UInt32) : List (List (List UInt8) × UInt32) →
    TpuartTransceiver → TpuartTransceiver × Option (Result Nat)
  | [], t => (t, none)
  | (chunks, nowMs) :: turns, t =>
    let t := t.uartRx chunks
    if t.reception.parser.txPending ∧ nowMs - startMs < txTimeout then
      waitLoop frame startMs turns t
    else ((t.concludeTransmit frame).1, some (t.concludeTransmit frame).2)

/-- `transmitFrameBlocking`; the UART takes `accepted` octets and no more. -/
def transmitFrameBlocking (t : TpuartTransceiver) (frame : List UInt8) (accepted : Nat)
    (startMs : UInt32) (turns : List (List (List UInt8) × UInt32)) :
    TpuartTransceiver × Option (Result Nat) :=
  if !t.initialized then (t, some (.error .notInitialized))
  else if frame.length < 6 ∨ TpuartPhysical.maxTp1FrameSize < frame.length then
    (t, some (.error .invalidFrameSize))
  else if t.busMonitorMode then (t, some (.error .operationNotSupported))
  else if t.state ≠ .idle then (t, some (.error .resourceUnavailable))
  else
    let parser := { t.reception.parser with lastTxStatus := 0, txPending := true }
    let written := t.written ++ (requestOctets frame).take accepted
    if accepted < frame.length then
      ({ t with
          written
          reception := { t.reception with parser := { parser with txPending := false } } },
        some (.error .transmissionFailed))
    else
      waitLoop frame startMs turns
        { t with state := .transmitting, written, reception := { t.reception with parser } }

/-- `beginReceive`. -/
def beginReceive (t : TpuartTransceiver) (timeoutMs nowMs : UInt32) : TpuartTransceiver :=
  if !t.initialized then t
  else { t with reception := t.reception.beginReceive timeoutMs nowMs, state := .receiving }

/-- `pollReceive`. -/
def pollReceive (t : TpuartTransceiver) (nowMs : UInt32) : TpuartTransceiver :=
  let polled := t.reception.pollReceive nowMs
  { t with
    reception := polled.1
    state := if t.reception.progressRxActive ∧ polled.2 ≠ .ok .pending then .idle else t.state }

/-- `setBusMonitorMode`, where the chip takes the configuration. -/
def setBusMonitorMode (t : TpuartTransceiver) (enable : Bool) : TpuartTransceiver :=
  if !t.initialized then t else { t with busMonitorMode := enable }

end TpuartTransceiver

/-- What happens to the medium. -/
inductive TpuartEvent where
  | uartRx (chunks : List (List UInt8))
  | setBusMonitorMode (enable : Bool)
  | beginReceive (timeoutMs nowMs : UInt32)
  | pollReceive (nowMs : UInt32)
  | transmitFrameBlocking (frame : List UInt8) (accepted : Nat) (startMs : UInt32)
      (turns : List (List (List UInt8) × UInt32))
  deriving DecidableEq, Repr

/-- One event. -/
def TpuartTransceiver.step (t : TpuartTransceiver) : TpuartEvent → TpuartTransceiver
  | .uartRx chunks => t.uartRx chunks
  | .setBusMonitorMode enable => t.setBusMonitorMode enable
  | .beginReceive timeoutMs nowMs => t.beginReceive timeoutMs nowMs
  | .pollReceive nowMs => t.pollReceive nowMs
  | .transmitFrameBlocking frame accepted startMs turns =>
    (t.transmitFrameBlocking frame accepted startMs turns).1

/-! ## What the parser does not see -/

namespace TpuartPhysical

/-- Invariant: no confirmation is awaited by the parser, and no octet of a frame has bit 7. -/
structure Deaf (s : TpuartPhysical) : Prop where
  state : s.rxState = .idle ∨ s.rxState = .receivingControl
  octets : s.rxState = .receivingControl → ∀ byte ∈ s.rxBuffer, byte &&& 0x80 = 0

/-- The queue and what `transmitFrameBlocking` waits for. -/
structure SameAnswers (s s' : TpuartPhysical) : Prop where
  rxQueue : s'.rxQueue = s.rxQueue
  txPending : s'.txPending = s.txPending
  lastTxStatus : s'.lastTxStatus = s.lastTxStatus

theorem SameAnswers.refl (s : TpuartPhysical) : SameAnswers s s := ⟨rfl, rfl, rfl⟩

theorem SameAnswers.trans {a b c : TpuartPhysical} (hab : SameAnswers a b)
    (hbc : SameAnswers b c) : SameAnswers a c :=
  ⟨hbc.rxQueue.trans hab.rxQueue, hbc.txPending.trans hab.txPending,
    hbc.lastTxStatus.trans hab.lastTxStatus⟩

variable {s : TpuartPhysical}

theorem Deaf.handleServiceByte (h : s.Deaf) {byte : UInt8} (hservice : byte &&& 0x80 ≠ 0) :
    (s.handleServiceByte byte).Deaf ∧ SameAnswers s (s.handleServiceByte byte) := by
  unfold TpuartPhysical.handleServiceByte
  split
  · refine ⟨⟨.inr rfl, ?_⟩, ⟨rfl, rfl, rfl⟩⟩
    intro _ octet hoctet
    rw [List.mem_singleton.mp hoctet, UInt8.and_assoc]
    exact UInt8.and_zero
  · split
    · rename_i hconfirm
      -- The confirmation is looked for among the octets with bit 7, and has none.
      rw [hconfirm] at hservice
      exact absurd rfl hservice
    · exact ⟨h, .refl s⟩

theorem completeFrame_rxQueue {buffer : List UInt8} {byte : UInt8}
    (hbuffer : s.rxBuffer = buffer ++ [byte]) (hlow : ∀ b ∈ s.rxBuffer, b &&& 0x80 = 0) :
    s.completeFrame.rxQueue = s.rxQueue := by
  have hbyte : byte &&& 0x80 = 0 := hlow byte (by simp [hbuffer])
  have hhigh : calculateChecksum buffer &&& 0x80 = 0x80 :=
    calculateChecksum_high fun b hb => hlow b (by simp [hbuffer, hb])
  unfold completeFrame
  apply if_neg
  rintro ⟨hchecksum, -⟩
  rw [hbuffer, List.dropLast_concat, List.getLastD_concat] at hchecksum
  rw [← hchecksum, hbyte] at hhigh
  exact absurd hhigh (by decide)

theorem Deaf.handleDataByte (h : s.Deaf) {byte : UInt8} (hdata : byte &&& 0x80 = 0) :
    (s.handleDataByte byte).Deaf ∧ SameAnswers s (s.handleDataByte byte) := by
  unfold TpuartPhysical.handleDataByte
  rcases h.state with hidle | hreceiving
  · -- Outside a frame an octet without bit 7 is dropped, the confirmation too.
    rw [if_neg (by simp [hidle]), if_neg (by simp [hidle])]
    exact ⟨h, .refl s⟩
  · have hlow : ∀ b ∈ s.rxBuffer ++ [byte], b &&& 0x80 = 0 := by
      intro b hb
      rcases List.mem_append.mp hb with hold | hnew
      · exact h.octets hreceiving b hold
      · rw [List.mem_singleton.mp hnew]
        exact hdata
    rw [if_neg (by simp [hreceiving]), if_pos (.inl hreceiving)]
    split
    · exact ⟨⟨.inl rfl, nofun⟩, ⟨rfl, rfl, rfl⟩⟩
    · dsimp only
      split
      · exact ⟨⟨.inl rfl, nofun⟩, ⟨rfl, rfl, rfl⟩⟩
      · split
        · exact ⟨⟨.inl rfl, nofun⟩, ⟨completeFrame_rxQueue rfl hlow, rfl, rfl⟩⟩
        · exact ⟨⟨.inr hreceiving, fun _ => hlow⟩, ⟨rfl, rfl, rfl⟩⟩

theorem Deaf.processRxByte (h : s.Deaf) (byte : UInt8) :
    (s.processRxByte byte).Deaf ∧ SameAnswers s (s.processRxByte byte) := by
  unfold TpuartPhysical.processRxByte
  split
  · rename_i hservice
    exact h.handleServiceByte hservice
  · rename_i hdata
    exact h.handleDataByte (not_not.mp hdata)

theorem Deaf.foldl_processRxByte (h : s.Deaf) (octets : List UInt8) :
    (octets.foldl TpuartPhysical.processRxByte s).Deaf
      ∧ SameAnswers s (octets.foldl TpuartPhysical.processRxByte s) := by
  induction octets generalizing s with
  | nil => exact ⟨h, .refl s⟩
  | cons byte octets ih =>
    obtain ⟨hdeaf, hsame⟩ := h.processRxByte byte
    obtain ⟨hlater, hrest⟩ := ih hdeaf
    exact ⟨hlater, hsame.trans hrest⟩

theorem Deaf.uartRx (h : s.Deaf) (chunks : List (List UInt8)) :
    (s.uartRx chunks).Deaf ∧ SameAnswers s (s.uartRx chunks) := by
  rw [uartRx_eq]
  exact h.foldl_processRxByte chunks.flatten

end TpuartPhysical

namespace TpuartTransceiver

/-- The parser of the medium. -/
abbrev Deaf (t : TpuartTransceiver) : Prop := t.reception.parser.Deaf

variable {t : TpuartTransceiver}

theorem Deaf.concludeTransmit (h : t.Deaf) (frame : List UInt8) :
    (t.concludeTransmit frame).1.Deaf := by
  unfold TpuartTransceiver.concludeTransmit
  split
  · exact ⟨h.state, h.octets⟩
  · exact h

theorem Deaf.waitLoop (h : t.Deaf) (frame : List UInt8) (startMs : UInt32)
    (turns : List (List (List UInt8) × UInt32)) :
    (TpuartTransceiver.waitLoop frame startMs turns t).1.Deaf := by
  induction turns generalizing t with
  | nil => exact h
  | cons turn turns ih =>
    obtain ⟨chunks, nowMs⟩ := turn
    have hnext : (t.uartRx chunks).Deaf := (TpuartPhysical.Deaf.uartRx h chunks).1
    unfold TpuartTransceiver.waitLoop
    dsimp only
    split
    · exact ih hnext
    · exact hnext.concludeTransmit frame

theorem Deaf.pollReceive (h : t.Deaf) (nowMs : UInt32) : (t.pollReceive nowMs).Deaf := by
  change ((t.reception.pollReceive nowMs).1.parser).Deaf
  unfold TpuartReception.pollReceive
  split
  · exact h
  · split
    · dsimp only
      split
      · exact ⟨h.state, h.octets⟩
      · exact ⟨h.state, h.octets⟩
    · split
      · exact h
      · exact h

theorem Deaf.step (h : t.Deaf) (event : TpuartEvent) : (t.step event).Deaf := by
  cases event with
  | uartRx chunks => exact (TpuartPhysical.Deaf.uartRx h chunks).1
  | setBusMonitorMode enable =>
    change (t.setBusMonitorMode enable).Deaf
    unfold TpuartTransceiver.setBusMonitorMode
    split <;> exact h
  | beginReceive timeoutMs nowMs =>
    change (t.beginReceive timeoutMs nowMs).Deaf
    unfold TpuartTransceiver.beginReceive
    split <;> exact h
  | pollReceive nowMs => exact h.pollReceive nowMs
  | transmitFrameBlocking frame accepted startMs turns =>
    change (t.transmitFrameBlocking frame accepted startMs turns).1.Deaf
    unfold TpuartTransceiver.transmitFrameBlocking
    split_ifs
    · exact h
    · exact h
    · exact h
    · exact h
    · exact ⟨h.state, h.octets⟩
    · refine Deaf.waitLoop ?_ frame startMs turns
      exact ⟨h.state, h.octets⟩

/-- A transmission that gets as far as the wait. -/
structure Begins (t : TpuartTransceiver) (frame : List UInt8) (accepted : Nat) : Prop where
  initialized : t.initialized = true
  smallest : 6 ≤ frame.length
  largest : frame.length ≤ TpuartPhysical.maxTp1FrameSize
  busMonitorMode : t.busMonitorMode = false
  state : t.state = .idle
  accepted : frame.length ≤ accepted

/-- The turns of a wait up to its end: the clock is over the timeout in the last one only. -/
structure Waited (startMs : UInt32) (turns : List (List (List UInt8) × UInt32)) : Prop where
  nonempty : turns ≠ []
  early : ∀ turn ∈ turns.dropLast, turn.2 - startMs < txTimeout
  late : ∀ turn ∈ turns.getLast?, ¬ turn.2 - startMs < txTimeout

theorem Deaf.waitLoop_eq (h : t.Deaf) (hpending : t.reception.parser.txPending = true)
    (frame : List UInt8) {startMs : UInt32} {turns : List (List (List UInt8) × UInt32)}
    (hwaited : Waited startMs turns) :
    (TpuartTransceiver.waitLoop frame startMs turns t).2 = some (.error .timeout)
      ∧ (TpuartTransceiver.waitLoop frame startMs turns t).1.reception.parser.rxQueue
        = t.reception.parser.rxQueue := by
  induction turns generalizing t with
  | nil => exact absurd rfl hwaited.nonempty
  | cons turn turns ih =>
    obtain ⟨chunks, nowMs⟩ := turn
    obtain ⟨hnext, hsame⟩ := TpuartPhysical.Deaf.uartRx h chunks
    have hstill : (t.uartRx chunks).reception.parser.txPending = true :=
      hsame.txPending.trans hpending
    unfold TpuartTransceiver.waitLoop
    dsimp only
    -- Nothing ends the wait in a turn but the clock, which is over in the last one only.
    cases turns with
    | nil =>
      have hlate := hwaited.late (chunks, nowMs) rfl
      rw [if_neg (fun hopen => hlate hopen.2)]
      unfold TpuartTransceiver.concludeTransmit
      rw [if_pos hstill]
      exact ⟨rfl, hsame.rxQueue⟩
    | cons next turns =>
      have hearly := hwaited.early (chunks, nowMs) List.mem_cons_self
      rw [if_pos ⟨hstill, hearly⟩]
      have hrest : Waited startMs (next :: turns) := by
        refine ⟨List.cons_ne_nil _ _, ?_, ?_⟩
        · intro turn hturn
          exact hwaited.early turn (List.mem_cons_of_mem _ hturn)
        · intro turn hturn
          exact hwaited.late turn hturn
      obtain ⟨hresult, hqueue⟩ := ih hnext hstill hrest
      exact ⟨hresult, hqueue.trans hsame.rxQueue⟩

theorem Deaf.transmitFrameBlocking_eq (h : t.Deaf) {frame : List UInt8} {accepted : Nat}
    (hbegins : t.Begins frame accepted) {startMs : UInt32}
    {turns : List (List (List UInt8) × UInt32)} (hwaited : Waited startMs turns) :
    (t.transmitFrameBlocking frame accepted startMs turns).2 = some (.error .timeout)
      ∧ (t.transmitFrameBlocking frame accepted startMs turns).1.reception.parser.rxQueue
        = t.reception.parser.rxQueue := by
  have hsmallest := hbegins.smallest
  have hlargest := hbegins.largest
  have haccepted := hbegins.accepted
  unfold TpuartTransceiver.transmitFrameBlocking
  rw [if_neg (by simp [hbegins.initialized]), if_neg (by omega),
    if_neg (by simp [hbegins.busMonitorMode]), if_neg (not_not.mpr hbegins.state)]
  dsimp only
  rw [if_neg (by omega)]
  refine Deaf.waitLoop_eq ?_ rfl frame hwaited
  exact ⟨h.state, h.octets⟩

end TpuartTransceiver

/-! ## What the chip passes on -/

/-- `TpuartService::LDataCon`. -/
def lDataCon : UInt8 := 0x0B

/-- What the chip passes on: a telegram, with an octet of its own for the control field; a confirmation; any
other service octet. -/
inductive ChipItem where
  | telegram (indication : UInt8) (octets : List UInt8) (other : indication ≠ lDataCon)
  | confirmation (status : UInt8)
  | service (octet : UInt8) (other : octet ≠ lDataCon)
  deriving DecidableEq, Repr

namespace ChipItem

/-- The octets of an item. -/
def octets : ChipItem → List UInt8
  | .telegram indication octets _ => indication :: octets.tail
  | .confirmation status => [lDataCon, status]
  | .service octet _ => [octet]

/-- The status of a confirmation. -/
def status? : ChipItem → Option UInt8
  | .confirmation status => some status
  | _ => none

/-- The frame of a telegram. -/
def frame? : ChipItem → Option LDataFrame
  | .telegram _ octets _ =>
    match decodeFrame octets with
    | .done f => some f
    | _ => none
  | _ => none

end ChipItem

/-- Octets as items, and the beginning of one more. -/
def Reads (octets : List UInt8) (items : List ChipItem) : Prop :=
  ∃ rest, octets = items.flatMap ChipItem.octets ++ rest
    ∧ ∃ next : ChipItem, rest.length < next.octets.length ∧ rest <+: next.octets

/-! ## The answer -/

/-- The status of the first confirmation. -/
def firstStatus (items : List ChipItem) : Option UInt8 := items.findSome? ChipItem.status?

/-- The frames of the telegrams before the first confirmation. -/
def telegramsBefore (items : List ChipItem) : List LDataFrame :=
  (items.takeWhile fun item => item.status?.isNone).filterMap ChipItem.frame?

/-- The answer that a confirmation calls for. -/
def Answers (frame : List UInt8) (items : List ChipItem) (result : Result Nat) : Prop :=
  match firstStatus items with
  | none => result = .error .timeout
  | some status =>
    if status &&& 0x80 ≠ 0 then result = .ok frame.length
    else result = .error .busy ∨ result = .error .transmissionFailed

/-- The transmission is confirmed: it returns the answer of the confirmation, and the telegrams before
are queued. -/
def Confirms (frame : List UInt8) (items : List ChipItem) (t : TpuartTransceiver)
    (outcome : TpuartTransceiver × Option (Result Nat)) : Prop :=
  (∃ result, outcome.2 = some result ∧ Answers frame items result)
    ∧ ∃ queued, outcome.1.reception.parser.rxQueue = t.reception.parser.rxQueue ++ queued
      ∧ List.Forall₂ (fun octets f => ∃ g, decodeFrame octets = .done g
          ∧ TpuartPhysical.SameTelegram g f)
        queued (telegramsBefore items)

theorem answers_timeout_iff (frame : List UInt8) (items : List ChipItem) :
    Answers frame items (.error .timeout) ↔ firstStatus items = none := by
  unfold Answers
  cases hfirst : firstStatus items with
  | none => simp
  | some status =>
    by_cases hsuccess : status &&& 0x80 ≠ 0
    · simp [hsuccess]
    · simp [hsuccess]

theorem silent_iff (items : List ChipItem) :
    (firstStatus items = none ∧ telegramsBefore items = [])
      ↔ ∀ item ∈ items, item.status? = none ∧ item.frame? = none := by
  unfold firstStatus telegramsBefore
  rw [List.findSome?_eq_none_iff]
  constructor
  · rintro ⟨hstatus, htelegrams⟩ item hitem
    have hall : items.takeWhile (fun item => item.status?.isNone) = items := by
      rw [List.takeWhile_eq_self_iff]
      intro item hitem
      simp [hstatus item hitem]
    rw [hall, List.filterMap_eq_nil_iff] at htelegrams
    exact ⟨hstatus item hitem, htelegrams item hitem⟩
  · intro hsilent
    refine ⟨fun item hitem => (hsilent item hitem).1, ?_⟩
    rw [List.filterMap_eq_nil_iff]
    intro item hitem
    exact (hsilent item (List.takeWhile_subset _ hitem)).2

open TpuartTransceiver in
/-- Confirmations and telegrams are not seen: in every state that the medium reaches, a transmission
that waits until its timeout is confirmed if and only if the chip passes on neither. -/
theorem transmit_confirms_iff (events : List TpuartEvent) (frame : List UInt8) (accepted : Nat)
    (startMs : UInt32) (turns : List (List (List UInt8) × UInt32)) (items : List ChipItem)
    (hbegins : (run step { initialized := true } events).Begins frame accepted)
    (hwaited : Waited startMs turns)
    (_hreads : Reads (turns.flatMap fun turn => turn.1.flatten) items) :
    Confirms frame items (run step { initialized := true } events)
        ((run step { initialized := true } events).transmitFrameBlocking frame accepted startMs
          turns)
      ↔ ∀ item ∈ items, item.status? = none ∧ item.frame? = none := by
  have hinitial : ({ initialized := true } : TpuartTransceiver).Deaf := ⟨.inl rfl, nofun⟩
  have hstep : ∀ t event, Deaf t → Deaf (step t event) := fun _ event h => h.step event
  have hdeaf : (run step { initialized := true } events).Deaf :=
    run_invariant hstep hinitial events
  obtain ⟨hresult, hqueue⟩ := hdeaf.transmitFrameBlocking_eq hbegins hwaited
  rw [← silent_iff]
  unfold Confirms
  rw [hresult, hqueue]
  constructor
  · rintro ⟨⟨result, hsome, hanswers⟩, queued, hqueued, htelegrams⟩
    cases hsome
    have hnone : queued = [] := List.self_eq_append_right.mp hqueued
    rw [hnone, List.forall₂_nil_left_iff] at htelegrams
    exact ⟨(answers_timeout_iff frame items).mp hanswers, htelegrams⟩
  · rintro ⟨hfirst, htelegrams⟩
    refine ⟨⟨_, rfl, (answers_timeout_iff frame items).mpr hfirst⟩, [], ?_, ?_⟩
    · exact (List.append_nil _).symm
    · rw [htelegrams]
      exact .nil

/-- The chip is silent: the timeout is the answer. -/
theorem silent_confirms :
    Confirms TpuartPhysical.groupTelegram [] { initialized := true }
      (({ initialized := true } : TpuartTransceiver).transmitFrameBlocking
        TpuartPhysical.groupTelegram 9 0 [([], 10), ([], 50)]) := by
  refine (transmit_confirms_iff [] _ _ _ _ [] ?_ ?_ ?_).mpr ?_
  · exact ⟨rfl, by decide, by decide, rfl, rfl, by decide⟩
  · exact ⟨by decide, by decide, by decide⟩
  · exact ⟨[], rfl, .confirmation 0, by decide, List.nil_prefix⟩
  · exact fun item hitem => absurd hitem List.not_mem_nil

/-- A confirmation of success 10 ms after the start: the transmission times out. -/
theorem confirmation_ignored :
    Reads [lDataCon, 0x80] [.confirmation 0x80]
      ∧ (({ initialized := true } : TpuartTransceiver).transmitFrameBlocking
        TpuartPhysical.groupTelegram 9 0 [([[lDataCon, 0x80]], 10), ([], 50)]).2
          = some (.error .timeout)
      ∧ ¬ Confirms TpuartPhysical.groupTelegram [.confirmation 0x80] { initialized := true }
        (({ initialized := true } : TpuartTransceiver).transmitFrameBlocking
          TpuartPhysical.groupTelegram 9 0 [([[lDataCon, 0x80]], 10), ([], 50)]) := by
  have htimeout : (({ initialized := true } : TpuartTransceiver).transmitFrameBlocking
      TpuartPhysical.groupTelegram 9 0 [([[lDataCon, 0x80]], 10), ([], 50)]).2
        = some (.error .timeout) := by decide
  refine ⟨⟨[], rfl, .confirmation 0, by decide, List.nil_prefix⟩, htimeout, ?_⟩
  rintro ⟨⟨result, hresult, hanswers⟩, -⟩
  rw [htimeout] at hresult
  cases hresult
  exact absurd ((answers_timeout_iff _ _).mp hanswers) (by decide)

end KnxStack.Physical
