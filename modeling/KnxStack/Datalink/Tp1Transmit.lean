import KnxStack.Datalink.CodecInversion

/-!
# Transmit operation of the TP1 data link layer

`Tp1DataLinkLayer::beginTransmit`, `pollTransmit`, `markTxFrameAsRepeated` and `finishTxOperation`
(`datalink/tp1_data_link_layer.cpp`). A frame is encoded once into the operation's buffer and handed
to the physical layer; a local busy and a missing acknowledge are retried from two budgets of three,
and a repetition after a missing acknowledge is marked in the encoded octets.

The physical layer is not modelled: every poll receives the answers it would give, so a statement
over every list of answers covers every physical layer. What the layer does to it is recorded in
`port`, in the order it happens, together with the answers.

- `pollTransmit_operation`: one poll of an active operation, said once.
- `transmit_operation`: any number of polls, up to the terminal result.
- `fits_txBuffer_iff`: which valid frames the transmit buffer holds.
-/

set_option autoImplicit false

namespace KnxStack.Datalink

open KnxStack.Lib KnxStack.Protocol

/-! ## State -/

/-- One exchange with the physical layer: octets handed over, the answer to that, or the outcome
polled for a frame it has accepted. -/
inductive PortEvent where
  | handOver (octets : List UInt8)
  | begun (answer : Result UInt32)
  | outcome (answer : Result OperationProgressState)
  deriving DecidableEq

/-- Octets of the transmit buffer (`TxOperationState::buffer`). -/
def txBufferSize : Nat := 263

/-- `MAX_BUSY_RETRIES`. -/
def maxBusyRetries : UInt8 := 3

/-- `MAX_ACK_RETRIES`. -/
def maxAckRetries : UInt8 := 3

/-- `CTRL_REPEAT`, the inverted repeat flag of the control octet. -/
def ctrlRepeat : UInt8 := 0x20

/-- `TxOperationState`. Of the buffer only the filled span is read, so that is what `filled` holds;
its length is the field `length`. -/
structure TxOperationState where
  active : Bool := false
  waitingPhysicalOutcome : Bool := false
  usingPhysicalProgression : Bool := false
  busyAttempt : UInt8 := 0
  repeatAttempt : UInt8 := 0
  physicalOutcomeSequence : UInt32 := 0
  retryNotBeforeMs : UInt64 := 0
  filled : List UInt8 := []
  deriving DecidableEq

/-- Transmit side of the data link layer. `txLocks` and `txUnlocks` count what was done to the TX
mutex; `port` is what went to the physical layer and came back. -/
structure TxLayer where
  initialized : Bool := true
  hasTimingPlatform : Bool := true
  txOperation : TxOperationState := {}
  txFrames : UInt32 := 0
  txRepetitions : UInt32 := 0
  txLocks : Nat := 0
  txUnlocks : Nat := 0
  port : List PortEvent := []
  deriving DecidableEq

/-- What the environment answers during one poll: the clock, the physical layer's answer to a frame
handed over, the clock again (a poll that handed a frame over polls once more), and the outcome. -/
structure PhysicalAnswers where
  now : UInt32
  begun : Result UInt32
  nowAgain : UInt32
  outcome : Result OperationProgressState
  deriving DecidableEq

/-! ## Operations -/

/-- `finishTxOperation`. -/
def finishTxOperation (l : TxLayer) : TxLayer :=
  { l with
    txUnlocks := if l.txOperation.active then l.txUnlocks + 1 else l.txUnlocks
    txOperation := {} }

/-- `beginTransmit`; `lock` is the answer of the TX mutex. -/
def beginTransmit (frame : LDataFrame) (lock : Result Unit) (l : TxLayer) : TxLayer × Result Unit :=
  if !l.initialized then (l, .error .notInitialized)
  else if l.txOperation.active then (l, .error .busy)
  else
    match lock with
    | .error _ => (l, .error .timeout)
    | .ok () =>
        let locked := { l with txLocks := l.txLocks + 1 }
        match encodeFrame frame txBufferSize with
        | .error e => ({ locked with txUnlocks := locked.txUnlocks + 1 }, .error e)
        | .ok octets =>
            ({ locked with
                txOperation :=
                  { l.txOperation with
                    active := true
                    waitingPhysicalOutcome := false
                    usingPhysicalProgression := false
                    busyAttempt := 0
                    repeatAttempt := 0
                    retryNotBeforeMs := 0
                    filled := octets } },
              .ok ())

/-- `markTxFrameAsRepeated` on the filled span: the flag is cleared in the control octet and the
checksum written again. -/
def markTxFrameAsRepeated (filled : List UInt8) : List UInt8 :=
  if filled.length < 2 then filled
  else
    let body := (filled.modifyHead (· &&& ~~~ctrlRepeat)).dropLast
    body ++ [calculateChecksum body]

/-- `nowMs`: zero without a timing platform. -/
def TxLayer.nowMs (l : TxLayer) (millis : UInt32) : UInt64 :=
  if l.hasTimingPlatform then millis.toUInt64 else 0

/-- Time before which a retry is not made; zero without a timing platform. -/
def TxLayer.retryTime (l : TxLayer) (nowMs : UInt64) : UInt64 :=
  if l.hasTimingPlatform then nowMs + 4 else 0

/-- The retry time has been set and not been reached. -/
def TxLayer.waitsForRetry (l : TxLayer) (nowMs : UInt64) : Bool :=
  l.hasTimingPlatform && l.txOperation.retryNotBeforeMs != 0
    && decide (nowMs < l.txOperation.retryNotBeforeMs)

/-- The part of `pollTransmit` that polls the outcome of a frame the physical layer has accepted. -/
def pollPhysicalOutcome (answer : Result OperationProgressState) (nowMs : UInt64) (l : TxLayer) :
    TxLayer × Result OperationProgressState :=
  let l := { l with port := l.port ++ [.outcome answer] }
  match answer with
  | .error e => (finishTxOperation l, .error e)
  | .ok .pending => (l, .ok .pending)
  | .ok .success => (finishTxOperation { l with txFrames := l.txFrames + 1 }, .ok .success)
  | .ok .busy =>
      if l.txOperation.busyAttempt < maxBusyRetries then
        ({ l with
            txOperation :=
              { l.txOperation with
                waitingPhysicalOutcome := false
                busyAttempt := l.txOperation.busyAttempt + 1
                retryNotBeforeMs := l.retryTime nowMs } },
          .ok .pending)
      else (finishTxOperation l, .ok .busy)
  | .ok failed =>
      if l.txOperation.repeatAttempt < maxAckRetries then
        ({ l with
            txOperation :=
              { l.txOperation with
                waitingPhysicalOutcome := false
                repeatAttempt := l.txOperation.repeatAttempt + 1
                retryNotBeforeMs := l.retryTime nowMs
                filled := markTxFrameAsRepeated l.txOperation.filled }
            txRepetitions := l.txRepetitions + 1 },
          .ok .pending)
      else
        (finishTxOperation l,
          .ok (if failed = .timeout then .timeout else .transmissionFailed))

/-- The buffered frame has been handed over and accepted under `sequence`. -/
def acceptHandOver (sequence : UInt32) (l : TxLayer) : TxLayer :=
  { l with
    port := l.port ++ [.handOver l.txOperation.filled, .begun (.ok sequence)]
    txOperation :=
      { l.txOperation with
        waitingPhysicalOutcome := true
        usingPhysicalProgression := true
        physicalOutcomeSequence := sequence
        retryNotBeforeMs := 0 } }

/-- The part of `pollTransmit` that runs when the physical layer refused the frame. -/
def refuseHandOver (error : ErrorCode) (nowMs : UInt64) (l : TxLayer) :
    TxLayer × Result OperationProgressState :=
  let l := { l with port := l.port ++ [.handOver l.txOperation.filled, .begun (.error error)] }
  if error = .busy ∧ l.txOperation.busyAttempt < maxBusyRetries then
    ({ l with
        txOperation :=
          { l.txOperation with
            busyAttempt := l.txOperation.busyAttempt + 1
            retryNotBeforeMs := l.retryTime nowMs } },
      .ok .pending)
  else
    (finishTxOperation l,
      .ok (if error = .busy then .busy else if error = .timeout then .timeout
        else .transmissionFailed))

/-- `pollTransmit`. The source polls again by calling itself once a frame is accepted; that call
finds the operation active, waiting for its outcome and without a retry time, so it goes straight to
the outcome (`pollTransmit_acceptHandOver`). -/
def pollTransmit (a : PhysicalAnswers) (l : TxLayer) : TxLayer × Result OperationProgressState :=
  if !l.initialized then (l, .error .notInitialized)
  else if !l.txOperation.active then (l, .error .operationNotReady)
  else if l.waitsForRetry (l.nowMs a.now) then (l, .ok .pending)
  else if l.txOperation.waitingPhysicalOutcome then
    pollPhysicalOutcome a.outcome (l.nowMs a.now) l
  else
    match a.begun with
    | .ok sequence => pollPhysicalOutcome a.outcome (l.nowMs a.nowAgain) (acceptHandOver sequence l)
    | .error e => refuseHandOver e (l.nowMs a.now) l

/-- Poll until the operation ends or the answers do: what `sendFrame` and the callers of the polled
interface do with an operation. -/
def driveTransmit : List PhysicalAnswers → TxLayer → TxLayer × Result OperationProgressState
  | [], l => (l, .ok .pending)
  | a :: rest, l =>
      match pollTransmit a l with
      | (l', .ok .pending) => driveTransmit rest l'
      | terminal => terminal

theorem pollTransmit_acceptHandOver (a : PhysicalAnswers) (sequence : UInt32) {l : TxLayer}
    (hinit : l.initialized = true) (hactive : l.txOperation.active = true) :
    pollTransmit a (acceptHandOver sequence l)
      = pollPhysicalOutcome a.outcome (l.nowMs a.now) (acceptHandOver sequence l) := by
  have hretry : (acceptHandOver sequence l).waitsForRetry (l.nowMs a.now) = false := by
    simp [TxLayer.waitsForRetry, acceptHandOver]
  rw [pollTransmit]
  simp [acceptHandOver, hinit, hactive, TxLayer.nowMs] at hretry ⊢
  simp [hretry]

theorem port_pollPhysicalOutcome (answer : Result OperationProgressState) (nowMs : UInt64)
    (l : TxLayer) : (pollPhysicalOutcome answer nowMs l).1.port = l.port ++ [.outcome answer] := by
  unfold pollPhysicalOutcome
  dsimp only
  repeat' split
  all_goals rfl

theorem handOver_of_due (a : PhysicalAnswers) {l : TxLayer} (hinit : l.initialized = true)
    (hactive : l.txOperation.active = true) (hidle : l.txOperation.waitingPhysicalOutcome = false)
    (hdue : l.waitsForRetry (l.nowMs a.now) = false) :
    ∃ log, (pollTransmit a l).1.port = l.port ++ .handOver l.txOperation.filled :: log := by
  unfold pollTransmit
  rw [if_neg (by simp [hinit]), if_neg (by simp [hactive]), if_neg (by simp [hdue]),
    if_neg (by simp [hidle])]
  rcases a.begun with error | sequence
  · refine ⟨[.begun (.error error)], ?_⟩
    dsimp only
    unfold refuseHandOver
    dsimp only
    split
    · rfl
    · rfl
  · refine ⟨[.begun (.ok sequence), .outcome a.outcome], ?_⟩
    dsimp only
    rw [port_pollPhysicalOutcome]
    exact List.append_assoc _ _ _

/-! ## Marking a repetition -/

/-- The octets of a frame on the wire, checksum included. -/
def wireOctets (f : LDataFrame) : List UInt8 := frameOctets f ++ [calculateChecksum (frameOctets f)]

theorem encodeFrame_eq_ok {f : LDataFrame} {bufferSize : Nat} {octets : List UInt8}
    (h : encodeFrame f bufferSize = .ok octets) :
    f.isValid = true ∧ 1 ≤ f.tpdu.size ∧ octets = wireOctets f := by
  rw [encodeFrame] at h
  by_cases hvalid : (!f.isValid) = true
  · rw [if_pos hvalid] at h
    cases h
  · rw [if_neg hvalid] at h
    by_cases hsize : f.tpdu.size = 0 ∨ 256 < f.tpdu.size
    · rw [if_pos hsize] at h
      cases h
    · rw [if_neg hsize] at h
      by_cases hroom : bufferSize < (if 16 < f.tpdu.size then 8 else 7) + f.tpdu.size
      · rw [if_pos hroom] at h
        cases h
      · rw [if_neg hroom] at h
        exact ⟨by simpa using hvalid, by omega, (Except.ok.inj h).symm⟩

/-- Clearing the flag in the control octet is encoding the frame with `repeated` set. -/
theorem frameOctets_repeated (f : LDataFrame) :
    (frameOctets f).modifyHead (· &&& ~~~ctrlRepeat) = frameOctets { f with repeated := true } := by
  have hcontrol : ∀ extended, controlField extended f &&& ~~~ctrlRepeat
      = controlField extended { f with repeated := true } := by
    intro extended
    simp only [controlField]
    generalize f.repeated = r, f.priority = p, f.ackRequested = a, f.confirmation = c
    cases p <;> revert extended r a c <;> decide
  simp [frameOctets, hcontrol]
  rfl

/-- The octets rewritten in place are those of the frame with `repeated` set. -/
theorem markTxFrameAsRepeated_wireOctets (f : LDataFrame) :
    markTxFrameAsRepeated (wireOctets f) = wireOctets { f with repeated := true } := by
  have hoctets : frameOctets f ≠ [] := by simp [frameOctets]
  have hlength : ¬ (wireOctets f).length < 2 := by
    have hpos : 0 < (frameOctets f).length := List.length_pos_of_ne_nil hoctets
    simp [wireOctets]
    omega
  have hbody : ((wireOctets f).modifyHead (· &&& ~~~ctrlRepeat)).dropLast
      = frameOctets { f with repeated := true } := by
    rw [← frameOctets_repeated, wireOctets]
    revert hoctets
    cases frameOctets f with
    | nil => intro hne; exact absurd rfl hne
    | cons c rest =>
      intro _
      show ((c &&& ~~~ctrlRepeat) :: rest ++ [_]).dropLast = _
      exact List.dropLast_concat
  rw [markTxFrameAsRepeated, if_neg hlength]
  simp only [hbody]
  rfl

/-! ## What the physical layer has seen -/

namespace PortEvent

/-- Octets were handed over. -/
def isHandOver : PortEvent → Bool
  | .handOver _ => true
  | _ => false

/-- A frame was not acknowledged: a NAK or no acknowledge at all. -/
def isMissingAck : PortEvent → Bool
  | .outcome (.ok .transmissionFailed) => true
  | .outcome (.ok .timeout) => true
  | _ => false

/-- The physical layer was busy, on accepting the frame or on sending it. -/
def isBusy : PortEvent → Bool
  | .outcome (.ok .busy) => true
  | .begun (.error .busy) => true
  | _ => false

end PortEvent

/-- Frames handed over. -/
def handOvers (log : List PortEvent) : Nat := log.countP (·.isHandOver)

/-- Outcomes that call for a repetition. -/
def missingAcks (log : List PortEvent) : Nat := log.countP (·.isMissingAck)

/-- Answers that report local backpressure. -/
def busyAnswers (log : List PortEvent) : Nat := log.countP (·.isBusy)

/-- The frame on the wire after the exchanges `log`: repeated once an acknowledge was missing. -/
def frameAfter (f : LDataFrame) (log : List PortEvent) : LDataFrame :=
  { f with repeated := f.repeated || decide (0 < missingAcks log) }

/-- Every hand-over decodes to `f`, repeated as what came before it demands. -/
def CarriesFrame (f : LDataFrame) (log : List PortEvent) : Prop :=
  ∀ i octets, log[i]? = some (.handOver octets) →
    decodeFrame octets = .done (frameAfter f (log.take i))

theorem CarriesFrame.nil (f : LDataFrame) : CarriesFrame f [] := by
  intro i octets h
  simp at h

theorem CarriesFrame.snoc {f : LDataFrame} {log : List PortEvent} {e : PortEvent}
    (h : CarriesFrame f log)
    (he : ∀ octets, e = .handOver octets → decodeFrame octets = .done (frameAfter f log)) :
    CarriesFrame f (log ++ [e]) := by
  intro i octets hi
  rcases Nat.lt_trichotomy i log.length with hlt | heq | hgt
  · rw [List.getElem?_append_left hlt] at hi
    rw [List.take_append_of_le_length (Nat.le_of_lt hlt)]
    exact h i octets hi
  · subst heq
    rw [List.getElem?_concat_length] at hi
    rw [List.take_left' rfl]
    exact he octets (Option.some.inj hi)
  · rw [List.getElem?_eq_none (by simp; omega)] at hi
    cases hi

theorem CarriesFrame.snoc_answer {f : LDataFrame} {log : List PortEvent} {e : PortEvent}
    (h : CarriesFrame f log) (he : e.isHandOver = false) : CarriesFrame f (log ++ [e]) := by
  apply h.snoc
  rintro octets rfl
  cases he

section Counts

variable (log : List PortEvent) (e : PortEvent)

@[simp] theorem handOvers_snoc :
    handOvers (log ++ [e]) = handOvers log + if e.isHandOver then 1 else 0 := by
  simp [handOvers, List.countP_append, List.countP_cons]

@[simp] theorem missingAcks_snoc :
    missingAcks (log ++ [e]) = missingAcks log + if e.isMissingAck then 1 else 0 := by
  simp [missingAcks, List.countP_append, List.countP_cons]

@[simp] theorem busyAnswers_snoc :
    busyAnswers (log ++ [e]) = busyAnswers log + if e.isBusy then 1 else 0 := by
  simp [busyAnswers, List.countP_append, List.countP_cons]

end Counts

theorem frameAfter_snoc {f : LDataFrame} {log : List PortEvent} {e : PortEvent}
    (he : e.isMissingAck = false) : frameAfter f (log ++ [e]) = frameAfter f log := by
  simp [frameAfter, he]

theorem frameAfter_snoc_missingAck {f : LDataFrame} {log : List PortEvent} {e : PortEvent}
    (he : e.isMissingAck = true) :
    frameAfter f (log ++ [e]) = { frameAfter f log with repeated := true } := by
  simp [frameAfter, he]

/-! ## The operation while it runs -/

/-- `f` in the format the encoder chooses for it. -/
def inWireFormat (f : LDataFrame) : LDataFrame :=
  { f with standardFrame := decide (f.tpdu.size ≤ 16) }

/-- An active operation for the frame `f` on a port that had seen `before`: the buffer holds the
frame, the two budgets count the answers of their own kind and nothing else, and every hand-over but
a pending one has been answered from one of them. -/
structure InOperation (f : LDataFrame) (before log : List PortEvent) (l : TxLayer) : Prop where
  initialized : l.initialized = true
  active : l.txOperation.active = true
  valid : f.isValid = true
  nonempty : 1 ≤ f.tpdu.size
  port : l.port = before ++ log
  filled : l.txOperation.filled = wireOctets (frameAfter f log)
  busy : l.txOperation.busyAttempt.toNat = busyAnswers log
  busyLe : busyAnswers log ≤ 3
  repeats : l.txOperation.repeatAttempt.toNat = missingAcks log
  repeatsLe : missingAcks log ≤ 3
  accounted : handOvers log
    = busyAnswers log + missingAcks log + if l.txOperation.waitingPhysicalOutcome then 1 else 0
  carries : CarriesFrame (inWireFormat f) log

/-- What the exchanges of an operation say about its result. The fourth missing acknowledge ends it
and no earlier one does, whatever the number of busy answers, and the other way round; every retry
from either budget was a hand-over of its own. -/
def BudgetsOf (log : List PortEvent) : Result OperationProgressState → Prop
  | .ok .pending => busyAnswers log ≤ 3 ∧ missingAcks log ≤ 3
  | .ok .success =>
      busyAnswers log ≤ 3 ∧ missingAcks log ≤ 3 ∧ log.getLast? = some (.outcome (.ok .success))
  | .ok .busy =>
      busyAnswers log = 4 ∧ missingAcks log ≤ 3 ∧ handOvers log = busyAnswers log + missingAcks log
  | .ok .timeout =>
      (busyAnswers log ≤ 3 ∧ missingAcks log = 4
          ∧ handOvers log = busyAnswers log + missingAcks log
          ∧ log.getLast? = some (.outcome (.ok .timeout)))
        ∨ (busyAnswers log ≤ 3 ∧ missingAcks log ≤ 3
          ∧ log.getLast? = some (.begun (.error .timeout)))
  | .ok .transmissionFailed =>
      (busyAnswers log ≤ 3 ∧ missingAcks log = 4
          ∧ handOvers log = busyAnswers log + missingAcks log
          ∧ log.getLast? = some (.outcome (.ok .transmissionFailed)))
        ∨ (busyAnswers log ≤ 3 ∧ missingAcks log ≤ 3
          ∧ ∃ e, e ≠ .busy ∧ e ≠ .timeout ∧ log.getLast? = some (.begun (.error e)))
  | .error e => busyAnswers log ≤ 3 ∧ missingAcks log ≤ 3 ∧ log.getLast? = some (.outcome (.error e))

/-- The operation is over: inactive, the mutex released once more than in `l`, and the frame counted
exactly on success. -/
structure Ended (f : LDataFrame) (before log : List PortEvent) (l l' : TxLayer)
    (r : Result OperationProgressState) : Prop where
  terminal : r ≠ .ok .pending
  operation : l'.txOperation = {}
  locks : l'.txLocks = l.txLocks
  unlocks : l'.txUnlocks = l.txUnlocks + 1
  txFrames : l'.txFrames = l.txFrames + if r = .ok .success then 1 else 0
  port : l'.port = before ++ log
  bound : handOvers log ≤ 1 + 3 + 3
  carries : CarriesFrame (inWireFormat f) log
  budgets : BudgetsOf log r

/-- The operation goes on: nothing of the layer outside it has moved. -/
structure Continues (f : LDataFrame) (before log : List PortEvent) (l l' : TxLayer)
    (r : Result OperationProgressState) : Prop where
  pending : r = .ok .pending
  inOperation : InOperation f before log l'
  locks : l'.txLocks = l.txLocks
  unlocks : l'.txUnlocks = l.txUnlocks
  txFrames : l'.txFrames = l.txFrames

section Steps

variable {f : LDataFrame} {before log : List PortEvent} {l : TxLayer}

theorem InOperation.decodeFrame_filled (h : InOperation f before log l) :
    decodeFrame l.txOperation.filled = .done (frameAfter (inWireFormat f) log) := by
  rw [h.filled]
  exact decodeFrame_frameOctets (f := frameAfter f log) h.valid h.nonempty

theorem toNat_succ_of_lt_three {n : UInt8} (h : n < 3) : (n + 1).toNat = n.toNat + 1 := by
  have hlt : n.toNat < 3 := UInt8.lt_iff_toNat_lt.mp h
  rw [UInt8.toNat_add]
  have h1 : (1 : UInt8).toNat = 1 := rfl
  rw [h1]
  omega

theorem eq_three_of_not_lt {n : UInt8} {k : Nat} (hn : n.toNat = k) (hle : k ≤ 3) (h : ¬ n < 3) :
    k = 3 := by
  have hge : 3 ≤ n.toNat := UInt8.le_iff_toNat_le.mp (UInt8.not_lt.mp h)
  omega

/-- Ending an active operation, with the exchange `e` as its last. -/
theorem InOperation.finish (h : InOperation f before log l) {e : PortEvent} {frames : UInt32}
    {r : Result OperationProgressState} (he : e.isHandOver = false) (hterminal : r ≠ .ok .pending)
    (hframes : frames = l.txFrames + if r = .ok .success then 1 else 0)
    (hbound : handOvers log ≤ 7) (hbudgets : BudgetsOf (log ++ [e]) r) :
    Ended f before (log ++ [e]) l
      (finishTxOperation { l with port := l.port ++ [e], txFrames := frames }) r where
  terminal := hterminal
  operation := rfl
  locks := rfl
  unlocks := by simp [finishTxOperation, h.active]
  txFrames := hframes
  port := by
    show l.port ++ [e] = before ++ (log ++ [e])
    rw [h.port, List.append_assoc]
  bound := by simpa [he] using hbound
  carries := h.carries.snoc_answer he
  budgets := hbudgets

/-- A missing acknowledgement `e` while the repetitions last: the frame is marked as repeated,
whatever else the new state `l'` says. -/
theorem InOperation.repeatRetry (h : InOperation f before log l)
    (hwaiting : l.txOperation.waitingPhysicalOutcome = true)
    (hbudget : l.txOperation.repeatAttempt < 3) {e : PortEvent} (hmissing : e.isMissingAck = true)
    (hanswer : e.isHandOver = false) (hnotBusy : e.isBusy = false) {l' : TxLayer}
    (hinit : l'.initialized = l.initialized)
    (hactive : l'.txOperation.active = l.txOperation.active) (hport : l'.port = l.port ++ [e])
    (hfilled : l'.txOperation.filled = markTxFrameAsRepeated l.txOperation.filled)
    (hbusyAttempt : l'.txOperation.busyAttempt = l.txOperation.busyAttempt)
    (hrepeatAttempt : l'.txOperation.repeatAttempt = l.txOperation.repeatAttempt + 1)
    (hanswered : l'.txOperation.waitingPhysicalOutcome = false) :
    InOperation f before (log ++ [e]) l' where
  initialized := hinit.trans h.initialized
  active := hactive.trans h.active
  valid := h.valid
  nonempty := h.nonempty
  port := by rw [hport, h.port, List.append_assoc]
  filled := by
    rw [hfilled, h.filled, markTxFrameAsRepeated_wireOctets, frameAfter_snoc_missingAck hmissing]
  busy := by simpa [hnotBusy, hbusyAttempt] using h.busy
  busyLe := by simpa [hnotBusy] using h.busyLe
  repeats := by
    rw [hrepeatAttempt, toNat_succ_of_lt_three hbudget, h.repeats, missingAcks_snoc, if_pos hmissing]
  repeatsLe := by
    have hlt : missingAcks log < 3 := by
      rw [← h.repeats]
      exact UInt8.lt_iff_toNat_lt.mp hbudget
    rw [missingAcks_snoc, if_pos hmissing]
    omega
  accounted := by
    -- the hand-over that was waiting for its outcome is now one that was not acknowledged
    have haccounted := h.accounted
    rw [if_pos hwaiting] at haccounted
    rw [handOvers_snoc, busyAnswers_snoc, missingAcks_snoc, hanswer, hnotBusy, hanswered,
      if_pos hmissing]
    simp
    omega
  carries := h.carries.snoc_answer hanswer

theorem InOperation.missingAck (h : InOperation f before log l)
    (hwaiting : l.txOperation.waitingPhysicalOutcome = true) {s : OperationProgressState}
    (hs : s = .timeout ∨ s = .transmissionFailed) (nowMs : UInt64) :
    Continues f before (log ++ [PortEvent.outcome (.ok s)]) l
        (pollPhysicalOutcome (.ok s) nowMs l).1 (pollPhysicalOutcome (.ok s) nowMs l).2
      ∨ Ended f before (log ++ [PortEvent.outcome (.ok s)]) l
        (pollPhysicalOutcome (.ok s) nowMs l).1 (pollPhysicalOutcome (.ok s) nowMs l).2 := by
  have hbusy := h.busyLe
  have hrepeats := h.repeatsLe
  have haccounted : handOvers log = busyAnswers log + missingAcks log + 1 := by
    rw [h.accounted, if_pos hwaiting]
  have hmissing : (PortEvent.outcome (.ok s)).isMissingAck = true := by
    rcases hs with rfl | rfl <;> rfl
  have hnotBusy : (PortEvent.outcome (.ok s)).isBusy = false := by
    rcases hs with rfl | rfl <;> rfl
  -- the source has one branch for both outcomes
  have hpoll : pollPhysicalOutcome (.ok s) nowMs l
      = if l.txOperation.repeatAttempt < 3 then
          ({ l with
              port := l.port ++ [PortEvent.outcome (.ok s)]
              txOperation :=
                { l.txOperation with
                  waitingPhysicalOutcome := false
                  repeatAttempt := l.txOperation.repeatAttempt + 1
                  retryNotBeforeMs := l.retryTime nowMs
                  filled := markTxFrameAsRepeated l.txOperation.filled }
              txRepetitions := l.txRepetitions + 1 },
            .ok .pending)
        else
          (finishTxOperation { l with port := l.port ++ [PortEvent.outcome (.ok s)] }, .ok s) := by
    rcases hs with rfl | rfl <;> rfl
  rw [hpoll]
  by_cases hbudget : l.txOperation.repeatAttempt < 3
  · left
    rw [if_pos hbudget]
    exact ⟨rfl, h.repeatRetry hwaiting hbudget hmissing rfl hnotBusy rfl rfl rfl rfl rfl rfl rfl,
      rfl, rfl, rfl⟩
  · right
    rw [if_neg hbudget]
    -- three repetitions were made, and this outcome is that of the fourth hand-over
    have hspent : missingAcks log = 3 := eq_three_of_not_lt h.repeats hrepeats hbudget
    apply h.finish rfl
    · rcases hs with rfl | rfl <;> simp
    · rcases hs with rfl | rfl <;> simp
    · omega
    · have hcounts : busyAnswers (log ++ [PortEvent.outcome (.ok s)]) ≤ 3
          ∧ missingAcks (log ++ [PortEvent.outcome (.ok s)]) = 4
          ∧ handOvers (log ++ [PortEvent.outcome (.ok s)])
            = busyAnswers (log ++ [PortEvent.outcome (.ok s)])
              + missingAcks (log ++ [PortEvent.outcome (.ok s)]) := by
        simp only [handOvers_snoc, busyAnswers_snoc, missingAcks_snoc, hmissing, hnotBusy]
        simp [PortEvent.isHandOver]
        omega
      rcases hs with rfl | rfl
      · exact Or.inl ⟨hcounts.1, hcounts.2.1, hcounts.2.2, List.getLast?_concat⟩
      · exact Or.inl ⟨hcounts.1, hcounts.2.1, hcounts.2.2, List.getLast?_concat⟩

/-- An answer `e` that counts for neither budget, whatever else the new state `l'` says. -/
theorem InOperation.snoc_neutral (h : InOperation f before log l) {e : PortEvent}
    (hanswer : e.isHandOver = false) (hmissing : e.isMissingAck = false) (hbusy : e.isBusy = false)
    {l' : TxLayer} (hinit : l'.initialized = l.initialized)
    (hactive : l'.txOperation.active = l.txOperation.active) (hport : l'.port = l.port ++ [e])
    (hfilled : l'.txOperation.filled = l.txOperation.filled)
    (hbusyAttempt : l'.txOperation.busyAttempt = l.txOperation.busyAttempt)
    (hrepeatAttempt : l'.txOperation.repeatAttempt = l.txOperation.repeatAttempt)
    (hwaiting : l'.txOperation.waitingPhysicalOutcome = l.txOperation.waitingPhysicalOutcome) :
    InOperation f before (log ++ [e]) l' where
  initialized := hinit.trans h.initialized
  active := hactive.trans h.active
  valid := h.valid
  nonempty := h.nonempty
  port := by rw [hport, h.port, List.append_assoc]
  filled := by rw [hfilled, h.filled, frameAfter_snoc hmissing]
  busy := by simpa [hbusy, hbusyAttempt] using h.busy
  busyLe := by simpa [hbusy] using h.busyLe
  repeats := by simpa [hmissing, hrepeatAttempt] using h.repeats
  repeatsLe := by simpa [hmissing] using h.repeatsLe
  accounted := by simpa [hanswer, hmissing, hbusy, hwaiting] using h.accounted
  carries := h.carries.snoc_answer hanswer

/-- A busy answer `e` while the busy budget lasts, whatever else the new state `l'` says. -/
theorem InOperation.busyRetry (h : InOperation f before log l)
    (hwaiting : l.txOperation.waitingPhysicalOutcome = true)
    (hbudget : l.txOperation.busyAttempt < 3) {e : PortEvent} (hbusy : e.isBusy = true)
    {l' : TxLayer} (hinit : l'.initialized = l.initialized)
    (hactive : l'.txOperation.active = l.txOperation.active) (hport : l'.port = l.port ++ [e])
    (hfilled : l'.txOperation.filled = l.txOperation.filled)
    (hbusyAttempt : l'.txOperation.busyAttempt = l.txOperation.busyAttempt + 1)
    (hrepeatAttempt : l'.txOperation.repeatAttempt = l.txOperation.repeatAttempt)
    (hanswered : l'.txOperation.waitingPhysicalOutcome = false) :
    InOperation f before (log ++ [e]) l' := by
  -- no answer counts for both budgets
  have hmissing : e.isMissingAck = false := by
    cases e with
    | handOver octets => rfl
    | begun answer => rfl
    | outcome answer =>
      rcases answer with code | state
      · rfl
      · cases state with
        | timeout => cases hbusy
        | transmissionFailed => cases hbusy
        | _ => rfl
  have hanswer : e.isHandOver = false := by
    cases e with
    | handOver octets => cases hbusy
    | _ => rfl
  have hlt : busyAnswers log < 3 := by
    rw [← h.busy]
    exact UInt8.lt_iff_toNat_lt.mp hbudget
  exact {
    initialized := hinit.trans h.initialized
    active := hactive.trans h.active
    valid := h.valid
    nonempty := h.nonempty
    port := by rw [hport, h.port, List.append_assoc]
    filled := by rw [hfilled, h.filled, frameAfter_snoc hmissing]
    busy := by
      rw [hbusyAttempt, toNat_succ_of_lt_three hbudget, h.busy, busyAnswers_snoc, if_pos hbusy]
    busyLe := by
      rw [busyAnswers_snoc, if_pos hbusy]
      omega
    repeats := by
      rw [hrepeatAttempt, h.repeats, missingAcks_snoc, hmissing]
      rfl
    repeatsLe := by simpa [hmissing] using h.repeatsLe
    accounted := by
      have haccounted := h.accounted
      rw [if_pos hwaiting] at haccounted
      rw [handOvers_snoc, busyAnswers_snoc, missingAcks_snoc, hanswer, hmissing, hanswered,
        if_pos hbusy]
      simp
      omega
    carries := h.carries.snoc_answer hanswer }

theorem InOperation.pollOutcome (h : InOperation f before log l)
    (hwaiting : l.txOperation.waitingPhysicalOutcome = true)
    (answer : Result OperationProgressState) (nowMs : UInt64) :
    Continues f before (log ++ [PortEvent.outcome answer]) l (pollPhysicalOutcome answer nowMs l).1
        (pollPhysicalOutcome answer nowMs l).2
      ∨ Ended f before (log ++ [PortEvent.outcome answer]) l (pollPhysicalOutcome answer nowMs l).1
        (pollPhysicalOutcome answer nowMs l).2 := by
  have hbusy := h.busyLe
  have hrepeats := h.repeatsLe
  have haccounted : handOvers log = busyAnswers log + missingAcks log + 1 := by
    rw [h.accounted, if_pos hwaiting]
  rcases answer with code | state
  · -- the physical layer reports an error instead of an outcome
    right
    show Ended f before _ l (finishTxOperation _) (.error code)
    refine h.finish rfl (by simp) (by simp) (by omega) ⟨?_, ?_, List.getLast?_concat⟩
    · simpa [PortEvent.isBusy] using hbusy
    · simpa [PortEvent.isMissingAck] using hrepeats
  · cases state with
    | pending =>
      left
      exact ⟨rfl, h.snoc_neutral rfl rfl rfl rfl rfl rfl rfl rfl rfl rfl, rfl, rfl, rfl⟩
    | success =>
      right
      show Ended f before _ l (finishTxOperation _) (.ok .success)
      refine h.finish rfl (by simp) (by simp) (by omega) ⟨?_, ?_, List.getLast?_concat⟩
      · simpa [PortEvent.isBusy] using hbusy
      · simpa [PortEvent.isMissingAck] using hrepeats
    | busy =>
      by_cases hbudget : l.txOperation.busyAttempt < 3
      · left
        have hpoll : pollPhysicalOutcome (.ok .busy) nowMs l = _ := if_pos hbudget
        rw [hpoll]
        exact ⟨rfl, h.busyRetry hwaiting hbudget rfl rfl rfl rfl rfl rfl rfl rfl, rfl, rfl, rfl⟩
      · right
        have hspent : busyAnswers log = 3 := eq_three_of_not_lt h.busy hbusy hbudget
        have hpoll : pollPhysicalOutcome (.ok .busy) nowMs l = _ := if_neg hbudget
        rw [hpoll]
        refine h.finish rfl (by simp) (by simp) (by omega) ⟨?_, ?_, ?_⟩
        · simpa [PortEvent.isBusy] using hspent
        · simpa [PortEvent.isMissingAck] using hrepeats
        · simp [PortEvent.isHandOver, PortEvent.isBusy, PortEvent.isMissingAck]
          omega
    | transmissionFailed => exact h.missingAck hwaiting (Or.inr rfl) nowMs
    | timeout => exact h.missingAck hwaiting (Or.inl rfl) nowMs

/-- The buffered frame on its way to the physical layer, not answered yet. -/
def handedOver (l : TxLayer) : TxLayer :=
  { l with
    port := l.port ++ [.handOver l.txOperation.filled]
    txOperation := { l.txOperation with waitingPhysicalOutcome := true } }

theorem InOperation.handOver (h : InOperation f before log l)
    (hidle : l.txOperation.waitingPhysicalOutcome = false) :
    InOperation f before (log ++ [PortEvent.handOver l.txOperation.filled]) (handedOver l) where
  initialized := h.initialized
  active := h.active
  valid := h.valid
  nonempty := h.nonempty
  port := by
    show l.port ++ _ = _
    rw [h.port, List.append_assoc]
  filled := h.filled.trans (by rw [frameAfter_snoc rfl])
  busy := h.busy.trans (by simp [PortEvent.isBusy])
  busyLe := by simpa [PortEvent.isBusy] using h.busyLe
  repeats := h.repeats.trans (by simp [PortEvent.isMissingAck])
  repeatsLe := by simpa [PortEvent.isMissingAck] using h.repeatsLe
  accounted := by
    have haccounted := h.accounted
    rw [hidle] at haccounted
    simpa [PortEvent.isHandOver, PortEvent.isBusy, PortEvent.isMissingAck, handedOver]
      using haccounted
  carries := by
    apply h.carries.snoc
    rintro octets heq
    cases heq
    exact h.decodeFrame_filled

theorem InOperation.accept (h : InOperation f before log l)
    (hidle : l.txOperation.waitingPhysicalOutcome = false) (sequence : UInt32) :
    InOperation f before
      (log ++ [PortEvent.handOver l.txOperation.filled] ++ [PortEvent.begun (.ok sequence)])
      (acceptHandOver sequence l) := by
  have hport : (acceptHandOver sequence l).port
      = (handedOver l).port ++ [PortEvent.begun (.ok sequence)] := by
    show l.port ++ _ = l.port ++ _ ++ _
    rw [List.append_assoc]
    rfl
  exact (h.handOver hidle).snoc_neutral rfl rfl rfl rfl rfl hport rfl rfl rfl rfl

theorem InOperation.refuse (h : InOperation f before log l)
    (hidle : l.txOperation.waitingPhysicalOutcome = false) (code : ErrorCode) (nowMs : UInt64) :
    Continues f before
        (log ++ [PortEvent.handOver l.txOperation.filled] ++ [PortEvent.begun (.error code)]) l
        (refuseHandOver code nowMs l).1 (refuseHandOver code nowMs l).2
      ∨ Ended f before
        (log ++ [PortEvent.handOver l.txOperation.filled] ++ [PortEvent.begun (.error code)]) l
        (refuseHandOver code nowMs l).1 (refuseHandOver code nowMs l).2 := by
  have hover := h.handOver hidle
  have hbusy := hover.busyLe
  have hrepeats := hover.repeatsLe
  have haccounted := hover.accounted
  rw [if_pos (show (handedOver l).txOperation.waitingPhysicalOutcome = true from rfl)] at haccounted
  have hport : l.port ++ [PortEvent.handOver l.txOperation.filled, PortEvent.begun (.error code)]
      = (handedOver l).port ++ [PortEvent.begun (.error code)] := by
    show _ = l.port ++ _ ++ _
    rw [List.append_assoc]
    rfl
  -- a refusal counts for the busy budget only if it says busy; every other one ends the operation
  by_cases hretry : code = .busy ∧ l.txOperation.busyAttempt < 3
  · left
    obtain ⟨rfl, hbudget⟩ := hretry
    have hrefused : refuseHandOver .busy nowMs l = _ := if_pos ⟨rfl, hbudget⟩
    rw [hrefused]
    exact ⟨rfl, hover.busyRetry rfl hbudget rfl rfl rfl hport rfl rfl rfl hidle, rfl, rfl, rfl⟩
  · right
    have hrefused : refuseHandOver code nowMs l = _ := if_neg hretry
    rw [hrefused]
    -- the operation is reset whether or not it was waiting, so it may end from `handedOver`
    have hfinish : finishTxOperation
          { l with
            port := l.port
              ++ [PortEvent.handOver l.txOperation.filled, PortEvent.begun (.error code)] }
        = finishTxOperation
          { handedOver l with port := (handedOver l).port ++ [PortEvent.begun (.error code)] } := by
      rw [← hport]
      rfl
    have hended : ∀ r, r ≠ .ok .pending → r ≠ .ok .success →
        BudgetsOf
          (log ++ [PortEvent.handOver l.txOperation.filled] ++ [PortEvent.begun (.error code)]) r →
        Ended f before
          (log ++ [PortEvent.handOver l.txOperation.filled] ++ [PortEvent.begun (.error code)]) l
          (finishTxOperation
            { l with
              port := l.port
                ++ [PortEvent.handOver l.txOperation.filled, PortEvent.begun (.error code)] })
          r := by
      intro r hterminal hfailed hbudgets
      rw [hfinish]
      have hframes : (handedOver l).txFrames
          = (handedOver l).txFrames + if r = .ok .success then 1 else 0 := by
        rw [if_neg hfailed, UInt32.add_zero]
      have hend := hover.finish (e := .begun (.error code)) rfl hterminal hframes (by omega) hbudgets
      exact ⟨hend.terminal, hend.operation, hend.locks, hend.unlocks, hend.txFrames, hend.port,
        hend.bound, hend.carries, hend.budgets⟩
    by_cases hcode : code = .busy
    · subst hcode
      have hbudget : ¬ l.txOperation.busyAttempt < 3 := fun hlt => hretry ⟨rfl, hlt⟩
      have hspent := eq_three_of_not_lt hover.busy hbusy hbudget
      apply hended (.ok .busy) (by simp) (by simp)
      refine ⟨?_, ?_, ?_⟩
      · rw [busyAnswers_snoc, hspent]
        rfl
      · rw [missingAcks_snoc]
        exact hrepeats
      · rw [handOvers_snoc, busyAnswers_snoc, missingAcks_snoc, haccounted]
        simp [PortEvent.isHandOver, PortEvent.isBusy, PortEvent.isMissingAck]
        omega
    · have hquiet : (PortEvent.begun (.error code)).isBusy = false := by
        cases code with
        | busy => exact absurd rfl hcode
        | _ => rfl
      have hcounts : busyAnswers (log ++ [PortEvent.handOver l.txOperation.filled]
            ++ [PortEvent.begun (.error code)]) ≤ 3
          ∧ missingAcks (log ++ [PortEvent.handOver l.txOperation.filled]
            ++ [PortEvent.begun (.error code)]) ≤ 3 := by
        rw [busyAnswers_snoc, missingAcks_snoc, hquiet]
        exact ⟨hbusy, hrepeats⟩
      simp only [if_neg hcode]
      by_cases htimeout : code = .timeout
      · subst htimeout
        exact hended (.ok .timeout) (by simp) (by simp)
          (Or.inr ⟨hcounts.1, hcounts.2, List.getLast?_concat⟩)
      · rw [if_neg htimeout]
        exact hended (.ok .transmissionFailed) (by simp) (by simp)
          (Or.inr ⟨hcounts.1, hcounts.2, code, hcode, htimeout, List.getLast?_concat⟩)

theorem pollTransmit_operation (h : InOperation f before log l) (a : PhysicalAnswers) :
    ∃ more, Continues f before (log ++ more) l (pollTransmit a l).1 (pollTransmit a l).2
      ∨ Ended f before (log ++ more) l (pollTransmit a l).1 (pollTransmit a l).2 := by
  have hinit : (!l.initialized) = false := by rw [h.initialized]; rfl
  have hactive : (!l.txOperation.active) = false := by rw [h.active]; rfl
  rw [pollTransmit]
  simp only [hinit, hactive, Bool.false_eq_true, if_false]
  by_cases hretry : l.waitsForRetry (l.nowMs a.now) = true
  · -- the retry time is not reached: nothing happens
    rw [if_pos hretry]
    refine ⟨[], Or.inl ⟨rfl, ?_, rfl, rfl, rfl⟩⟩
    rw [List.append_nil]
    exact h
  · rw [if_neg hretry]
    cases hwaiting : l.txOperation.waitingPhysicalOutcome with
    | true => exact ⟨_, h.pollOutcome hwaiting a.outcome (l.nowMs a.now)⟩
    | false =>
      cases a.begun with
      | ok sequence =>
        have haccepted := h.accept hwaiting sequence
        refine ⟨[PortEvent.handOver l.txOperation.filled, PortEvent.begun (.ok sequence),
          PortEvent.outcome a.outcome], ?_⟩
        have hlog : log ++ [PortEvent.handOver l.txOperation.filled, PortEvent.begun (.ok sequence),
              .outcome a.outcome]
            = log ++ [PortEvent.handOver l.txOperation.filled] ++ [PortEvent.begun (.ok sequence)]
              ++ [PortEvent.outcome a.outcome] := by
          simp
        rw [hlog]
        rcases haccepted.pollOutcome rfl a.outcome (l.nowMs a.nowAgain) with hgoes | hends
        · exact Or.inl ⟨hgoes.pending, hgoes.inOperation, hgoes.locks, hgoes.unlocks,
            hgoes.txFrames⟩
        · exact Or.inr ⟨hends.terminal, hends.operation, hends.locks, hends.unlocks,
            hends.txFrames, hends.port, hends.bound, hends.carries, hends.budgets⟩
      | error code =>
        refine ⟨[PortEvent.handOver l.txOperation.filled, PortEvent.begun (.error code)], ?_⟩
        have hlog : log ++ [PortEvent.handOver l.txOperation.filled, PortEvent.begun (.error code)]
            = log ++ [PortEvent.handOver l.txOperation.filled] ++ [PortEvent.begun (.error code)] := by
          simp
        rw [hlog]
        exact h.refuse hwaiting code (l.nowMs a.now)

theorem driveTransmit_operation (answers : List PhysicalAnswers) :
    ∀ {log : List PortEvent} {l : TxLayer}, InOperation f before log l →
      ∃ more, Continues f before (log ++ more) l (driveTransmit answers l).1
            (driveTransmit answers l).2
        ∨ Ended f before (log ++ more) l (driveTransmit answers l).1
            (driveTransmit answers l).2 := by
  induction answers with
  | nil =>
    intro log l h
    refine ⟨[], Or.inl ⟨rfl, ?_, rfl, rfl, rfl⟩⟩
    rw [List.append_nil]
    exact h
  | cons a rest ih =>
    intro log l h
    obtain ⟨more, hgoes | hends⟩ := pollTransmit_operation h a
    · -- the poll left the operation pending: the others are polls of the operation it left
      have hdrive : driveTransmit (a :: rest) l = driveTransmit rest (pollTransmit a l).1 := by
        rw [driveTransmit, ← Prod.mk.eta (p := pollTransmit a l), hgoes.pending]
      obtain ⟨further, hresult⟩ := ih hgoes.inOperation
      refine ⟨more ++ further, ?_⟩
      rw [hdrive, ← List.append_assoc]
      rcases hresult with hlater | hlater
      · exact Or.inl ⟨hlater.pending, hlater.inOperation, hlater.locks.trans hgoes.locks,
          hlater.unlocks.trans hgoes.unlocks, hlater.txFrames.trans hgoes.txFrames⟩
      · refine Or.inr ⟨hlater.terminal, hlater.operation, hlater.locks.trans hgoes.locks, ?_, ?_,
          hlater.port, hlater.bound, hlater.carries, hlater.budgets⟩
        · rw [hlater.unlocks, hgoes.unlocks]
        · rw [hlater.txFrames, hgoes.txFrames]
    · -- the poll ended it: the other answers are never asked for
      have hdrive : driveTransmit (a :: rest) l = pollTransmit a l := by
        rw [driveTransmit]
        split
        · rename_i l' heq
          rw [heq] at hends
          exact absurd rfl hends.terminal
        · rfl
      rw [hdrive]
      exact ⟨more, Or.inr hends⟩

end Steps

/-! ## From the begin of an operation to its end -/

theorem beginTransmit_operation {f : LDataFrame} {lock : Result Unit} {l l0 : TxLayer}
    (h : beginTransmit f lock l = (l0, .ok ())) :
    InOperation f l.port [] l0 ∧ l0.txLocks = l.txLocks + 1 ∧ l0.txUnlocks = l.txUnlocks
      ∧ l0.txFrames = l.txFrames := by
  rw [beginTransmit.eq_def] at h
  by_cases hinit : l.initialized = true
  · rw [hinit] at h
    by_cases hactive : l.txOperation.active = true
    · rw [hactive] at h
      cases h
    · simp only [Bool.not_true, Bool.false_eq_true, if_false, hactive] at h
      cases lock with
      | error e => cases h
      | ok u =>
        cases hencode : encodeFrame f txBufferSize with
        | error e =>
          rw [hencode] at h
          cases h
        | ok octets =>
          rw [hencode] at h
          obtain ⟨hvalid, hne, rfl⟩ := encodeFrame_eq_ok hencode
          cases h
          refine ⟨?_, rfl, rfl, rfl⟩
          exact {
            initialized := rfl
            active := rfl
            valid := hvalid
            nonempty := hne
            port := (List.append_nil _).symm
            filled := by
              show wireOctets f = wireOctets { f with repeated := f.repeated || false }
              rw [Bool.or_false]
            busy := rfl
            busyLe := Nat.zero_le _
            repeats := rfl
            repeatsLe := Nat.zero_le _
            accounted := rfl
            carries := CarriesFrame.nil _ }
  · simp only [Bool.not_eq_true] at hinit
    rw [hinit] at h
    cases h

/-- A transmit operation under every sequence of answers. At most seven hand-overs; each decodes
to the frame in its wire format, marked as repeated exactly when an acknowledge was missing before;
the two budgets are independent; the frame is counted exactly on success; and a terminal result
leaves the operation inactive with the mutex taken once and released once. -/
theorem transmit_operation {f : LDataFrame} {lock : Result Unit} {l l0 : TxLayer}
    (hbegin : beginTransmit f lock l = (l0, .ok ())) (answers : List PhysicalAnswers) :
    ∃ log, (driveTransmit answers l0).1.port = l.port ++ log
      ∧ handOvers log ≤ 1 + 3 + 3
      ∧ CarriesFrame { f with standardFrame := decide (f.tpdu.size ≤ 16) } log
      ∧ BudgetsOf log (driveTransmit answers l0).2
      ∧ (driveTransmit answers l0).1.txFrames
          = l.txFrames + (if (driveTransmit answers l0).2 = .ok .success then 1 else 0)
      ∧ ((driveTransmit answers l0).2 ≠ .ok .pending →
          (driveTransmit answers l0).1.txOperation.active = false
            ∧ (driveTransmit answers l0).1.txLocks = l.txLocks + 1
            ∧ (driveTransmit answers l0).1.txUnlocks = l.txUnlocks + 1)
      ∧ ((driveTransmit answers l0).2 = .ok .pending →
          (driveTransmit answers l0).1.txOperation.active = true
            ∧ (driveTransmit answers l0).1.txUnlocks = l.txUnlocks) := by
  obtain ⟨hop, hlocks, hunlocks, hframes⟩ := beginTransmit_operation hbegin
  obtain ⟨log, hgoes | hends⟩ := driveTransmit_operation answers hop
  · have hin := hgoes.inOperation
    rw [List.nil_append] at hin
    refine ⟨log, hin.port, ?_, hin.carries, ?_, ?_, ?_, ?_⟩
    · have haccounted := hin.accounted
      have hbusy := hin.busyLe
      have hrepeats := hin.repeatsLe
      split at haccounted <;> omega
    · rw [hgoes.pending]
      exact ⟨hin.busyLe, hin.repeatsLe⟩
    · rw [hgoes.txFrames, hframes, hgoes.pending]
      simp
    · intro hterminal
      exact absurd hgoes.pending hterminal
    · intro _
      exact ⟨hin.active, hgoes.unlocks.trans hunlocks⟩
  · rw [List.nil_append] at hends
    refine ⟨log, hends.port, hends.bound, hends.carries, hends.budgets, ?_, ?_, ?_⟩
    · rw [hends.txFrames, hframes]
    · intro _
      refine ⟨?_, ?_, ?_⟩
      · rw [hends.operation]
      · rw [hends.locks, hlocks]
      · rw [hends.unlocks, hunlocks]
    · intro hpending
      exact absurd hpending hends.terminal

/-- Answers that acknowledge the frame at the second attempt, with a local busy in between. -/
def secondAttempt : List PhysicalAnswers :=
  [⟨0, .ok 1, 0, .ok .timeout⟩, ⟨10, .error .busy, 10, .ok .pending⟩, ⟨20, .ok 2, 20, .ok .success⟩]

theorem transmit_operation_secondAttempt :
    beginTransmit groupReadFrame (.ok ()) {}
        = ((beginTransmit groupReadFrame (.ok ()) {}).1, .ok ())
      ∧ ∃ log, (driveTransmit secondAttempt (beginTransmit groupReadFrame (.ok ()) {}).1).1.port
          = [] ++ log ∧ handOvers log ≤ 1 + 3 + 3 := by
  have hbegin : beginTransmit groupReadFrame (.ok ()) {}
      = ((beginTransmit groupReadFrame (.ok ()) {}).1, .ok ()) := by decide
  obtain ⟨log, hport, hbound, -⟩ := transmit_operation hbegin secondAttempt
  exact ⟨hbegin, log, hport, hbound⟩

/-- A frame that asks for the extended format with a TPDU that fits a standard frame does not come
back as it was: the encoder chooses the format from the length. -/
theorem extendedRequest_handedOver_standard :
    (beginTransmit { groupReadFrame with standardFrame := false } (.ok ()) {}).2 = .ok ()
      ∧ ¬ CarriesFrame { groupReadFrame with standardFrame := false }
        (driveTransmit secondAttempt
          (beginTransmit { groupReadFrame with standardFrame := false } (.ok ()) {}).1).1.port := by
  refine ⟨by decide, ?_⟩
  intro h
  have hfirst := h 0 [0xBE, 0x11, 0x01, 0x00, 0x01, 0xE1, 0x00, 0x00, 0xB1] (by decide)
  revert hfirst
  decide

/-! ## Room in the transmit buffer -/

theorem one_le_size_of_isValid {f : LDataFrame} (hv : f.isValid = true) : 1 ≤ f.tpdu.size := by
  unfold LDataFrame.isValid at hv
  simp only [Bool.and_eq_true, Bool.not_eq_true'] at hv
  obtain ⟨⟨⟨-, hne⟩, -⟩, -⟩ := hv
  apply List.length_pos_of_ne_nil
  intro hnil
  rw [(FixedVector.isEmpty_iff f.tpdu).mpr hnil] at hne
  cases hne

theorem encodeFrame_txBuffer {f : LDataFrame} (hv : f.isValid = true) :
    encodeFrame f txBufferSize
      = if f.tpdu.size ≤ 255 then .ok (frameOctets f ++ [calculateChecksum (frameOctets f)])
        else .error .bufferTooSmall := by
  have hpos := one_le_size_of_isValid hv
  have hle : f.tpdu.size ≤ 256 := f.tpdu.size_le
  unfold encodeFrame txBufferSize
  rw [if_neg (by simp [hv]), if_neg (by omega)]
  by_cases hfits : f.tpdu.size ≤ 255
  · rw [if_neg (by split <;> omega), if_pos hfits]
  · rw [if_pos (by split <;> omega), if_neg hfits]

/-- `beginTransmit` refused a frame for its size. -/
def RefusedForSize (result : Result Unit) : Prop :=
  result = .error .bufferTooSmall ∨ result = .error .invalidFrameSize

/-- A valid frame fits the transmit buffer exactly when its TPDU has at most 255 octets; then no
layer refuses it for its size. -/
theorem fits_txBuffer_iff {f : LDataFrame} (hv : f.isValid = true) :
    ((∃ octets, encodeFrame f txBufferSize = .ok octets)
        ∧ ∀ lock l, ¬ RefusedForSize (beginTransmit f lock l).2)
      ↔ f.tpdu.size ≤ 255 := by
  constructor
  · rintro ⟨⟨octets, hok⟩, -⟩
    rw [encodeFrame_txBuffer hv] at hok
    by_contra hlong
    rw [if_neg hlong] at hok
    cases hok
  · intro hfits
    have hencoded := encodeFrame_txBuffer hv
    rw [if_pos hfits] at hencoded
    refine ⟨⟨_, hencoded⟩, ?_⟩
    intro lock l hrefused
    unfold beginTransmit at hrefused
    split at hrefused
    · rcases hrefused with h | h <;> cases h
    · split at hrefused
      · rcases hrefused with h | h <;> cases h
      · cases lock with
        | error e => rcases hrefused with h | h <;> cases h
        | ok u =>
          rw [hencoded] at hrefused
          rcases hrefused with h | h <;> cases h

/-- The longest valid frame: 254 octets after the two of the header. -/
def longestFrame : LDataFrame :=
  { source := ⟨0x1101⟩, destination := ⟨0x0001⟩
    tpdu := ⟨List.replicate 256 0, Nat.le_of_eq List.length_replicate⟩ }

theorem longestFrame_valid : longestFrame.isValid = true := by
  have hpayload : tpduPayloadLength longestFrame.tpdu.data = 254 := by
    rw [tpduPayloadLength, longestFrame, List.length_replicate]
    rfl
  have hnonempty : longestFrame.tpdu.isEmpty = false := rfl
  rw [LDataFrame.isValid, hpayload, hnonempty]
  rfl

theorem fits_txBuffer_iff_longest :
    longestFrame.isValid = true
      ∧ (((∃ octets, encodeFrame longestFrame txBufferSize = .ok octets)
          ∧ ∀ lock l, ¬ RefusedForSize (beginTransmit longestFrame lock l).2)
        ↔ longestFrame.tpdu.size ≤ 255) :=
  ⟨longestFrame_valid, fits_txBuffer_iff longestFrame_valid⟩

/-- The longest valid frame is refused for its size. -/
theorem longestFrame_refused :
    longestFrame.isValid = true
      ∧ ¬ (∃ octets, encodeFrame longestFrame txBufferSize = .ok octets)
      ∧ (beginTransmit longestFrame (.ok ()) {}).2 = .error .bufferTooSmall := by
  have hlong : ¬ longestFrame.tpdu.size ≤ 255 := by
    rw [longestFrame, FixedVector.size, List.length_replicate]
    decide
  have hencoded := encodeFrame_txBuffer longestFrame_valid
  rw [if_neg hlong] at hencoded
  refine ⟨longestFrame_valid, ?_, ?_⟩
  · rintro ⟨octets, hok⟩
    rw [hencoded] at hok
    cases hok
  · unfold beginTransmit
    rw [hencoded]
    rfl

end KnxStack.Datalink
