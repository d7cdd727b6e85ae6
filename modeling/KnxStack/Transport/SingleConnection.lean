import KnxStack.Transport.Receive

/-!
# One connection

The transport layer initialises its table for one connection, so the table holds at most one entry
in every state it can reach. This module says once, for such tables, what each handler does to the
entry: the state is written `s.withEntry e`, and every lemma has the form
`(s.withEntry e).handler = s'.withEntry e'`.
-/

set_option autoImplicit false

namespace KnxStack.Transport

open KnxStack.Lib KnxStack.Lib.Words KnxStack.Protocol KnxStack.Datalink

namespace TransportLayer

/-- The state whose table holds exactly this entry. -/
def withEntry (s : TransportLayer) (e : ConnectionEntry) : TransportLayer :=
  { s with connectionTable := { s.connectionTable with connections := [e] } }

/-- The state whose table is empty. -/
def withoutEntry (s : TransportLayer) : TransportLayer :=
  { s with connectionTable := { s.connectionTable with connections := [] } }

theorem withEntry_eq_self {s : TransportLayer} {e : ConnectionEntry}
    (h : s.connectionTable.connections = [e]) : s.withEntry e = s := by
  unfold withEntry
  rw [← h]

section Lookup

variable (s : TransportLayer) {e : ConnectionEntry}

@[simp] theorem connections_withEntry (e : ConnectionEntry) :
    (s.withEntry e).connectionTable.connections = [e] := rfl

@[simp] theorem ownAddress_withEntry (e : ConnectionEntry) :
    (s.withEntry e).ownAddress = s.ownAddress := rfl

@[simp] theorem timebaseMs_withEntry (e : ConnectionEntry) :
    (s.withEntry e).timebaseMs = s.timebaseMs := rfl

@[simp] theorem initialized_withEntry (e : ConnectionEntry) :
    (s.withEntry e).initialized = s.initialized := rfl

@[simp] theorem findConnection_withEntry (e : ConnectionEntry) (a : IndividualAddress) :
    (s.withEntry e).connectionTable.findConnection a
      = if e.remoteAddress = a then some e else none := by
  by_cases h : e.remoteAddress = a <;> simp [ConnectionTable.findConnection, withEntry, h]

@[simp] theorem getConnection_withEntry (e : ConnectionEntry) (i : ConnectionIndex) :
    (s.withEntry e).connectionTable.getConnection i = if e.index = i then some e else none := by
  by_cases h : e.index = i <;> simp [ConnectionTable.getConnection, withEntry, h]

@[simp] theorem updateEntry_withEntry (e : ConnectionEntry) (a : IndividualAddress)
    (f : ConnectionEntry → ConnectionEntry) :
    (s.withEntry e).updateEntry a f = s.withEntry (if e.remoteAddress = a then f e else e) := by
  simp [updateEntry, ConnectionTable.updateByAddress, withEntry, withTable]

@[simp] theorem updateConnection_withEntry (e : ConnectionEntry) (i : ConnectionIndex)
    (f : ConnectionEntry → ConnectionEntry) :
    (s.withEntry e).updateConnection i f = s.withEntry (if e.index = i then f e else e) := by
  simp [updateConnection, ConnectionTable.updateByIndex, withEntry, withTable]

/-- The entry stamped with the given time. -/
def stamped (e : ConnectionEntry) (now : UInt32) : ConnectionEntry :=
  { e with lastActivityTimeMs := now }

@[simp] theorem touch_withEntry (e : ConnectionEntry) (i : ConnectionIndex) :
    (s.withEntry e).touch i
      = s.withEntry (if e.index = i then stamped e s.timebaseMs else e) := by
  simp [touch, ConnectionTable.updateActivityTime, ConnectionTable.updateByIndex, withEntry,
    withTable, stamped]

@[simp] theorem withTime_withEntry (e : ConnectionEntry) (now : UInt32) :
    (s.withEntry e).withTime now = (s.withTime now).withEntry e := rfl

@[simp] theorem ownAddress_withTime (now : UInt32) : (s.withTime now).ownAddress = s.ownAddress := rfl

@[simp] theorem timebaseMs_withTime (now : UInt32) : (s.withTime now).timebaseMs = now := rfl

@[simp] theorem note_withEntry (e : ConnectionEntry) (events : List TableEvent) :
    (s.withEntry e).note events = (s.note events).withEntry e := rfl

@[simp] theorem networkSend_withEntry (e : ConnectionEntry) (frame : NDataFrame) :
    (s.withEntry e).networkSend frame
      = ((s.networkSend frame).1, (s.networkSend frame).2.withEntry e) := rfl

@[simp] theorem networkBegin_withEntry (e : ConnectionEntry) (frame : NDataFrame) :
    (s.withEntry e).networkBegin frame
      = ((s.networkBegin frame).1, (s.networkBegin frame).2.withEntry e) := rfl

@[simp] theorem networkPoll_withEntry (e : ConnectionEntry) :
    (s.withEntry e).networkPoll = (s.networkPoll.1, s.networkPoll.2.withEntry e) := rfl

end Lookup

/-! ## Dispatch -/

/-- The transport PDUs a received TPDU can be. -/
inductive ReceivedPdu where
  | tConnect
  | tDisconnect
  | tAck (seqNum : UInt8)
  | tNak (seqNum : UInt8)
  | tDataConnected (seqNum : UInt8)
  | connectionless
  deriving DecidableEq, Repr

/-- Which transport PDU a TPDU is. -/
def classify (tpdu : List UInt8) : ReceivedPdu :=
  let tpci := receivedTpci tpdu
  match tpci.type with
  | .unnumberedControl =>
      if tpci.isControl .connect then .tConnect
      else if tpci.isControl .disconnect then .tDisconnect
      else .connectionless
  | .numberedControl =>
      if tpci.isAck then .tAck tpci.seqNum
      else if tpci.isNak then .tNak tpci.seqNum
      else .connectionless
  | .numberedData => .tDataConnected tpci.seqNum
  | .unnumberedData => .connectionless

/-- The handler of each transport PDU. -/
def dispatch (s : TransportLayer) (frame : NDataFrame) : TransportLayer :=
  match classify frame.dlFrame.tpdu.data with
  | .tConnect => s.handleTConnect frame.dlFrame
  | .tDisconnect => s.handleTDisconnect frame.dlFrame
  | .tAck seqNum => s.handleAck frame.dlFrame.source seqNum
  | .tNak seqNum => s.handleNak frame.dlFrame.source seqNum
  | .tDataConnected seqNum =>
      s.handleNumberedData frame.dlFrame.source seqNum frame.dlFrame.tpdu frame.dlFrame.priority
  | .connectionless => s.handleConnectionless frame

theorem classify_nil : classify [] = .connectionless := by decide

/-- A `T_ACK` is read back as one. -/
theorem classify_ack {seqNum : UInt8} (h : seqNum.toNat < 16) :
    classify (buildTpdu (.ack seqNum) ⟨0⟩ []) = .tAck seqNum := by
  obtain ⟨k, hk, rfl⟩ : ∃ k, k < 16 ∧ seqNum = UInt8.ofNat k := ⟨_, h, (UInt8.ofNat_toNat).symm⟩
  interval_cases k <;> decide

/-- A `T_NAK` is read back as one. -/
theorem classify_nak {seqNum : UInt8} (h : seqNum.toNat < 16) :
    classify (buildTpdu (.nak seqNum) ⟨0⟩ []) = .tNak seqNum := by
  obtain ⟨k, hk, rfl⟩ : ∃ k, k < 16 ∧ seqNum = UInt8.ofNat k := ⟨_, h, (UInt8.ofNat_toNat).symm⟩
  interval_cases k <;> decide

/-- The two bits of the APCI that share the first octet with the sequence number do not change
what is read from it. -/
theorem firstOctet_numberedData {k j : Nat} (hk : k < 16) (hj : j < 4) :
    isControlType ⟨((TPCIField.create .numberedData (UInt8.ofNat k)).raw &&& 0xFC) |||
        UInt8.ofNat j⟩ = false ∧
      (((TPCIField.create .numberedData (UInt8.ofNat k)).raw &&& 0xFC) ||| UInt8.ofNat j) &&& 0xFC
        = (TPCIField.create .numberedData (UInt8.ofNat k)).raw := by
  interval_cases k <;> interval_cases j <;> decide

theorem isControlType_numberedData {seqNum : UInt8} (h : seqNum.toNat < 16) :
    isControlType (.create .numberedData seqNum) = false := by
  obtain ⟨k, hk, rfl⟩ : ∃ k, k < 16 ∧ seqNum = UInt8.ofNat k := ⟨_, h, (UInt8.ofNat_toNat).symm⟩
  interval_cases k <;> decide

theorem buildTpdu_numberedData {seqNum : UInt8} (h : seqNum.toNat < 16) (apci : APCIField)
    (payload : List UInt8) :
    buildTpdu (.create .numberedData seqNum) apci payload
      = (packTpduHeader (.create .numberedData seqNum) apci).1 ::
          (packTpduHeader (.create .numberedData seqNum) apci).2 :: payload := by
  have hlen : tpduLengthFromTpci (.create .numberedData seqNum) payload.length ≠ 1 := by
    rw [tpduLengthFromTpci, isControlType_numberedData h, if_neg Bool.false_ne_true]
    omega
  rw [buildTpdu, if_neg hlen]

theorem classify_numberedData {seqNum : UInt8} (h : seqNum.toNat < 16) (apci : APCIField)
    (payload : List UInt8) :
    classify (buildTpdu (.create .numberedData seqNum) apci payload) = .tDataConnected seqNum := by
  have hdata := isControlType_numberedData h
  have hbuild := buildTpdu_numberedData h apci payload
  obtain ⟨k, hk, rfl⟩ : ∃ k, k < 16 ∧ seqNum = UInt8.ofNat k := ⟨_, h, (UInt8.ofNat_toNat).symm⟩
  obtain ⟨j, hj, hbits⟩ : ∃ j, j < 4 ∧
      (((apci.raw &&& 0x03FF) >>> 8) &&& 0x03).toUInt8 = UInt8.ofNat j := by
    refine ⟨(((apci.raw &&& 0x03FF) >>> 8) &&& 0x03).toUInt8.toNat, ?_, (UInt8.ofNat_toNat).symm⟩
    have hle := Nat.and_le_right (n := ((apci.raw &&& 0x03FF) >>> 8).toNat) (m := 3)
    rw [UInt16.toNat_toUInt8, UInt16.toNat_and, show (0x03 : UInt16).toNat = 3 from rfl]
    omega
  have htpci : receivedTpci (buildTpdu (.create .numberedData (UInt8.ofNat k)) apci payload)
      = .create .numberedData (UInt8.ofNat k) := by
    obtain ⟨hcontrol, hmask⟩ := firstOctet_numberedData hk hj
    simp only [receivedTpci, hbuild, packTpduHeader, hdata, Bool.false_eq_true, if_false,
      hbits, List.getD_cons_zero, List.getD_cons_succ, unpackTpduHeader, hcontrol, hmask]
  unfold classify
  rw [htpci]
  interval_cases k <;> rfl

theorem handleNetworkRx_eq_dispatch {s : TransportLayer} {frame : NDataFrame}
    (hinit : s.initialized = true) (hne : frame.dlFrame.tpdu.data ≠ []) :
    s.handleNetworkRx frame = s.startClock.dispatch frame := by
  unfold handleNetworkRx dispatch classify
  simp only [hinit, hne, Bool.not_true, Bool.false_eq_true, if_false]
  cases (receivedTpci frame.dlFrame.tpdu.data).type with
  | unnumberedData => rfl
  | numberedData => rfl
  | unnumberedControl =>
    dsimp only
    split
    · rfl
    · split
      · rfl
      · rfl
  | numberedControl =>
    dsimp only
    split
    · rfl
    · split
      · rfl
      · rfl

theorem table_transformAndDeliver (s : TransportLayer) (frame : TDataFrame) :
    (s.transformAndDeliver frame).connectionTable = s.connectionTable := by
  unfold transformAndDeliver deliver enqueueReceivedFrame
  split
  · rfl
  · split
    · rfl
    · split
      · rfl
      · rfl

theorem transformAndDeliver_fields (s : TransportLayer) (frame : TDataFrame) :
    (s.transformAndDeliver frame).network = s.network ∧
      (s.transformAndDeliver frame).initialized = s.initialized ∧
      (s.transformAndDeliver frame).timebaseMs = s.timebaseMs := by
  unfold transformAndDeliver deliver enqueueReceivedFrame
  split
  · exact ⟨rfl, rfl, rfl⟩
  · split
    · exact ⟨rfl, rfl, rfl⟩
    · split
      · exact ⟨rfl, rfl, rfl⟩
      · exact ⟨rfl, rfl, rfl⟩

theorem startClock_eq_withTime (s : TransportLayer) :
    s.startClock = s.withTime s.startClock.timebaseMs := by
  unfold startClock
  split
  · rfl
  · rfl

theorem network_startClock (s : TransportLayer) : s.startClock.network = s.network := by
  rw [startClock_eq_withTime]
  rfl

theorem initialized_startClock (s : TransportLayer) :
    s.startClock.initialized = s.initialized := by
  rw [startClock_eq_withTime]
  rfl

theorem timebaseMs_startClock_ne (s : TransportLayer) : s.startClock.timebaseMs ≠ 0 := by
  rw [startClock]
  split
  · exact (by decide : (1 : UInt32) ≠ 0)
  · next h => exact h

theorem startClock_withEntry (s : TransportLayer) (e : ConnectionEntry) :
    (s.withEntry e).startClock = s.startClock.withEntry e := by
  by_cases h : s.timebaseMs = 0 <;> simp [startClock, h]

theorem findConnection_empty {t : ConnectionTable} (h : t.connections = [])
    (a : IndividualAddress) : t.findConnection a = none := by
  simp [ConnectionTable.findConnection, h]

/-! ## Acknowledgements -/

/-- Entry after a `T_ACK`. -/
def ackedEntry (e : ConnectionEntry) (seqNum : UInt8) : ConnectionEntry :=
  if awaits e seqNum then
    { ConnectionTable.clearRetransmitState e with
      sequenceNumber := (e.sequenceNumber + 1) &&& 0x0F }
  else e

/-- Entry after a `T_NAK`. -/
def nakedEntry (e : ConnectionEntry) (seqNum : UInt8) (now : UInt32) : ConnectionEntry :=
  if awaits e seqNum then { e with lastTxTimeMs := nakTxTime now e.retransmitTimeoutMs } else e

@[simp] theorem remoteAddress_stamped (e : ConnectionEntry) (now : UInt32) :
    (stamped e now).remoteAddress = e.remoteAddress := rfl

@[simp] theorem index_stamped (e : ConnectionEntry) (now : UInt32) :
    (stamped e now).index = e.index := rfl

@[simp] theorem remoteAddress_clearRetransmitState (e : ConnectionEntry) :
    (ConnectionTable.clearRetransmitState e).remoteAddress = e.remoteAddress := rfl

@[simp] theorem index_clearRetransmitState (e : ConnectionEntry) :
    (ConnectionTable.clearRetransmitState e).index = e.index := rfl

@[simp] theorem sequenceNumber_clearRetransmitState (e : ConnectionEntry) :
    (ConnectionTable.clearRetransmitState e).sequenceNumber = e.sequenceNumber := rfl

@[simp] theorem resetRetransmitState_withEntry (s : TransportLayer) (e : ConnectionEntry) :
    (s.withEntry e).withTable ((s.withEntry e).connectionTable.resetRetransmitState e.index).2
      = s.withEntry (ConnectionTable.clearRetransmitState e) := by
  simp [ConnectionTable.resetRetransmitState]
  simp [ConnectionTable.updateByIndex, withEntry, withTable]

theorem handleAck_self (s : TransportLayer) (e : ConnectionEntry) (seqNum : UInt8) :
    (s.withEntry e).handleAck e.remoteAddress seqNum
      = s.withEntry (stamped (ackedEntry e seqNum) s.timebaseMs) := by
  by_cases h : awaits e seqNum
  · simp [handleAck, ackedEntry, h, resetRetransmitState_withEntry]
  · simp [handleAck, ackedEntry, h]

theorem handleNak_self (s : TransportLayer) (e : ConnectionEntry) (seqNum : UInt8) :
    (s.withEntry e).handleNak e.remoteAddress seqNum
      = s.withEntry (stamped (nakedEntry e seqNum s.timebaseMs) s.timebaseMs) := by
  by_cases h : awaits e seqNum
  · simp [handleNak, nakedEntry, h, h.1]
  · simp [handleNak, nakedEntry, h]

theorem handleAck_other (s : TransportLayer) {e : ConnectionEntry} {a : IndividualAddress}
    (seqNum : UInt8) (h : e.remoteAddress ≠ a) :
    (s.withEntry e).handleAck a seqNum = s.withEntry e := by
  simp [handleAck, h]

theorem handleNak_other (s : TransportLayer) {e : ConnectionEntry} {a : IndividualAddress}
    (seqNum : UInt8) (h : e.remoteAddress ≠ a) :
    (s.withEntry e).handleNak a seqNum = s.withEntry e := by
  simp [handleNak, h]

theorem ackedEntry_fields (e : ConnectionEntry) (seqNum : UInt8) :
    (ackedEntry e seqNum).remoteAddress = e.remoteAddress ∧
      (ackedEntry e seqNum).index = e.index ∧
      (ackedEntry e seqNum).stateMachine = e.stateMachine := by
  unfold ackedEntry
  split
  · exact ⟨rfl, rfl, rfl⟩
  · exact ⟨rfl, rfl, rfl⟩

theorem nakedEntry_fields (e : ConnectionEntry) (seqNum : UInt8) (now : UInt32) :
    (nakedEntry e seqNum now).remoteAddress = e.remoteAddress ∧
      (nakedEntry e seqNum now).index = e.index ∧
      (nakedEntry e seqNum now).stateMachine = e.stateMachine := by
  unfold nakedEntry
  split
  · exact ⟨rfl, rfl, rfl⟩
  · exact ⟨rfl, rfl, rfl⟩

/-! ## Retransmissions and timeouts -/

/-- Entry after the due check of the table. -/
def dueEntry (now : UInt32) (e : ConnectionEntry) : ConnectionEntry :=
  if ConnectionTable.isDue now e then
    if e.retransmitCount < e.maxRetries then
      { e with retransmitTimeoutMs := ConnectionTable.backoff e.retransmitTimeoutMs }
    else ConnectionTable.clearRetransmitState e
  else e

/-- The entry is due and has repetitions left. -/
def mayRepeat (now : UInt32) (e : ConnectionEntry) : Prop :=
  ConnectionTable.isDue now e = true ∧ e.retransmitCount < e.maxRetries

instance (now : UInt32) (e : ConnectionEntry) : Decidable (mayRepeat now e) :=
  inferInstanceAs (Decidable (_ ∧ _))

theorem tableProcessRetransmissions_withEntry (s : TransportLayer) (e : ConnectionEntry)
    (now : UInt32) :
    ((s.withEntry e).connectionTable.processRetransmissions now).1.data
        = (if mayRepeat now e then [e.index] else []) ∧
      (s.withEntry e).withTable ((s.withEntry e).connectionTable.processRetransmissions now).2
        = s.withEntry (dueEntry now e) := by
  have hstep : (s.withEntry e).connectionTable.processRetransmissions now
      = ConnectionTable.retransmissionStep now (.clear, (s.withEntry e).connectionTable) 0 := rfl
  rw [hstep]
  unfold ConnectionTable.retransmissionStep dueEntry mayRepeat
  by_cases hdue : ConnectionTable.isDue now e = true
  · by_cases hcount : e.retransmitCount < e.maxRetries
    · simp [hdue, hcount, maxConnectionsBound]
      rfl
    · simp [hdue, hcount]
  · simp [hdue]
    rfl

/-- Entry after a repetition went out. -/
def repeatedEntry (now : UInt32) (e : ConnectionEntry) : ConnectionEntry :=
  { e with
    retransmitCount := e.retransmitCount + 1
    lastTxTimeMs := now
    lastActivityTimeMs := now }

theorem markRepeated_withEntry (s : TransportLayer) (e : ConnectionEntry) (i : ConnectionIndex)
    (now : UInt32) :
    (s.withEntry e).markRepeated i now
      = s.withEntry (if e.index = i then repeatedEntry now e else e) := by
  by_cases h : e.index = i
  · simp [markRepeated, ConnectionTable.markDataSent, ConnectionTable.updateByIndex,
      ConnectionTable.updateActivityTime, withTable, repeatedEntry, h]
    rfl
  · simp [markRepeated, ConnectionTable.markDataSent, ConnectionTable.updateByIndex,
      ConnectionTable.updateActivityTime, withTable, h]
    rfl

/-- State and entry after the repetition of a due entry. -/
def sendDue (s : TransportLayer) (now : UInt32) (e : ConnectionEntry) :
    TransportLayer × ConnectionEntry :=
  if mayRepeat now e ∧ e.pendingData.data ≠ [] then
    match s.networkSend (s.repetitionFrame e) with
    | (.ok (), s) => (s, repeatedEntry now (dueEntry now e))
    | (.error _, s) => (s, dueEntry now e)
  else (s, dueEntry now e)

theorem processRetransmissions_withEntry (s : TransportLayer) (e : ConnectionEntry) (now : UInt32)
    (hinit : s.initialized = true) :
    (s.withEntry e).processRetransmissions now
      = ((sendDue (s.withTime now) now e).1.withEntry
          (sendDue (s.withTime now) now e).2).removeIdle now := by
  obtain ⟨hdata, htable⟩ := tableProcessRetransmissions_withEntry (s.withTime now) e now
  unfold processRetransmissions
  simp only [initialized_withEntry, hinit, Bool.not_true, Bool.false_eq_true, if_false,
    withTime_withEntry, hdata, htable]
  congr 1
  unfold sendDue
  by_cases hmay : mayRepeat now e
  · have hpend : e.pendingRetransmission = true := by
      have := hmay.1
      unfold ConnectionTable.isDue at this
      simp only [Bool.and_eq_true] at this
      exact this.1
    have hdue : dueEntry now e
        = { e with retransmitTimeoutMs := ConnectionTable.backoff e.retransmitTimeoutMs } := by
      unfold dueEntry
      rw [if_pos hmay.1, if_pos hmay.2]
    by_cases hdata : e.pendingData.data = []
    · simp [hmay, hdata, hdue, repeatPending, nothingToRepeat, hpend]
    · have hrep : ((s.withTime now).withEntry (dueEntry now e)).repetitionFrame (dueEntry now e)
          = (s.withTime now).repetitionFrame e := by
        rw [hdue]
        rfl
      obtain ⟨r, s', hsend⟩ :
          ∃ r s', (s.withTime now).networkSend ((s.withTime now).repetitionFrame e) = (r, s') :=
        ⟨_, _, rfl⟩
      have hskip : nothingToRepeat (dueEntry now e) = false := by
        rw [hdue]
        simp [nothingToRepeat, FixedVector.isEmpty, hdata, hpend]
      have hindex : (dueEntry now e).index = e.index := by rw [hdue]
      rw [if_pos hmay, if_pos ⟨hmay, hdata⟩, hsend]
      simp only [List.foldl_cons, List.foldl_nil, repeatPending, getConnection_withEntry, hindex,
        if_true, hskip, Bool.false_eq_true, if_false, networkSend_withEntry, hrep, hsend]
      cases r with
      | ok u => simp [markRepeated_withEntry, hindex]
      | error err => rfl
  · simp [hmay]

theorem removeIdle_withEntry (s : TransportLayer) (e : ConnectionEntry) (now : UInt32) :
    (s.withEntry e).removeIdle now
      = if ConnectionTable.reachedTimeout now connectionTimeoutMs e then
          (s.note [.removed e.remoteAddress]).withoutEntry
        else s.withEntry e := by
  unfold removeIdle ConnectionTable.processTimeouts
  by_cases h : ConnectionTable.reachedTimeout now connectionTimeoutMs e = true
  · simp [h]
    rfl
  · simp [h, note, withTable]
    rfl

theorem dueEntry_fields (now : UInt32) (e : ConnectionEntry) :
    (dueEntry now e).remoteAddress = e.remoteAddress ∧ (dueEntry now e).index = e.index ∧
      (dueEntry now e).lastActivityTimeMs = e.lastActivityTimeMs := by
  unfold dueEntry
  split
  · split
    · exact ⟨rfl, rfl, rfl⟩
    · exact ⟨rfl, rfl, rfl⟩
  · exact ⟨rfl, rfl, rfl⟩

/-- An entry stamped with the time of the call is stamped so after the repetition as well. -/
theorem sendDue_fields (s : TransportLayer) (now : UInt32) (e : ConnectionEntry) :
    (sendDue s now e).2.remoteAddress = e.remoteAddress ∧
      (sendDue s now e).2.index = e.index ∧
      (e.lastActivityTimeMs = now → (sendDue s now e).2.lastActivityTimeMs = now) := by
  obtain ⟨haddr, hindex, htime⟩ := dueEntry_fields now e
  unfold sendDue
  split
  · split
    · exact ⟨haddr, hindex, fun _ => rfl⟩
    · exact ⟨haddr, hindex, fun h => htime.trans h⟩
  · exact ⟨haddr, hindex, fun h => htime.trans h⟩

theorem sendDue_of_reliable {s : TransportLayer} (h : s.network.Reliable) (now : UInt32)
    (e : ConnectionEntry) :
    sendDue s now e
      = if mayRepeat now e ∧ e.pendingData.data ≠ [] then
          (s.put (s.repetitionFrame e), repeatedEntry now (dueEntry now e))
        else (s, dueEntry now e) := by
  unfold sendDue
  rw [networkSend_of_reliable h]

theorem processRetransmissions_active (s : TransportLayer) (e : ConnectionEntry) (now : UInt32)
    (hinit : s.initialized = true) (hactive : e.lastActivityTimeMs = now) :
    (s.withEntry e).processRetransmissions now
      = (sendDue (s.withTime now) now e).1.withEntry (sendDue (s.withTime now) now e).2 := by
  have htime := (sendDue_fields (s.withTime now) now e).2.2 hactive
  rw [processRetransmissions_withEntry s e now hinit, removeIdle_withEntry, if_neg]
  unfold ConnectionTable.reachedTimeout
  rw [htime, UInt32.sub_self]
  decide

/-! ## Numbered data -/

/-- Entry that has taken note of a numbered data frame which is no duplicate. -/
def recordedEntry (e : ConnectionEntry) (seqNum : UInt8) (priority : Priority) :
    ConnectionEntry :=
  { e with priority := priority, lastReceivedSeq := seqNum }

/-- Entry that has accepted a numbered data frame. -/
def advancedEntry (e : ConnectionEntry) : ConnectionEntry :=
  { e with expectedRxSeq := (e.expectedRxSeq + 1) &&& 0x0F }

@[simp] theorem sendAck_withEntry (s : TransportLayer) (e : ConnectionEntry)
    (a : IndividualAddress) (seqNum : UInt8) (priority : Priority) :
    (s.withEntry e).sendAck a seqNum priority
      = ((s.sendAck a seqNum priority).1, (s.sendAck a seqNum priority).2.withEntry e) := rfl

@[simp] theorem sendNak_withEntry (s : TransportLayer) (e : ConnectionEntry)
    (a : IndividualAddress) (seqNum : UInt8) (priority : Priority) :
    (s.withEntry e).sendNak a seqNum priority
      = ((s.sendNak a seqNum priority).1, (s.sendNak a seqNum priority).2.withEntry e) := rfl

@[simp] theorem timebaseMs_sendAck (s : TransportLayer) (a : IndividualAddress) (seqNum : UInt8)
    (priority : Priority) : (s.sendAck a seqNum priority).2.timebaseMs = s.timebaseMs := rfl

@[simp] theorem withTable_withEntry (s : TransportLayer) (e e' : ConnectionEntry) :
    (s.withEntry e).withTable (s.withEntry e').connectionTable = s.withEntry e' := rfl

theorem isDuplicate_withEntry (s : TransportLayer) (e : ConnectionEntry) (seqNum : UInt8) :
    (s.withEntry e).connectionTable.isDuplicate e.index seqNum
      = if e.lastReceivedSeq = seqNum &&& 0x0F then (.ok true, (s.withEntry e).connectionTable)
        else (.ok false,
          (s.withEntry { e with lastReceivedSeq := seqNum &&& 0x0F }).connectionTable) := by
  simp [ConnectionTable.isDuplicate]
  simp [ConnectionTable.updateByIndex, withEntry]

/-- Entry of a peer that has just been heard of. -/
def heardEntry (e : ConnectionEntry) (priority : Priority) (now : UInt32) : ConnectionEntry :=
  stamped { e with priority := priority } now

theorem isDuplicate_heardEntry (s : TransportLayer) (e : ConnectionEntry) (seqNum : UInt8)
    (priority : Priority) (now : UInt32) :
    (s.withEntry (heardEntry e priority now)).connectionTable.isDuplicate e.index (seqNum &&& 0x0F)
      = if e.lastReceivedSeq = seqNum &&& 0x0F then
          (.ok true, (s.withEntry (heardEntry e priority now)).connectionTable)
        else (.ok false,
          (s.withEntry (stamped (recordedEntry e (seqNum &&& 0x0F) priority) now)).connectionTable) := by
  have hcheck := isDuplicate_withEntry s (heardEntry e priority now) (seqNum &&& 0x0F)
  rw [and_fifteen_idem] at hcheck
  exact hcheck

theorem handleNumberedData_duplicate (s : TransportLayer) (e : ConnectionEntry) {seqNum : UInt8}
    (tpdu : FixedVector UInt8 maxFrameSize) (priority : Priority)
    (hdup : e.lastReceivedSeq = seqNum &&& 0x0F) :
    (s.withEntry e).handleNumberedData e.remoteAddress seqNum tpdu priority
      = ((s.sendAck e.remoteAddress (seqNum &&& 0x0F) priority).2.withEntry
          (stamped { e with priority := priority } s.timebaseMs)).repeatAtOnce e.remoteAddress := by
  have hcheck := isDuplicate_withEntry s { e with priority := priority } (seqNum &&& 0x0F)
  rw [and_fifteen_idem, if_pos hdup] at hcheck
  simp only [handleNumberedData, findConnection_withEntry, updateEntry_withEntry, if_true, hcheck,
    withTable_withEntry, sendAck_withEntry, touch_withEntry, timebaseMs_sendAck]

theorem repeatAtOnce_active (s : TransportLayer) (e : ConnectionEntry)
    (hinit : s.initialized = true) (hactive : e.lastActivityTimeMs = s.timebaseMs) :
    (s.withEntry e).repeatAtOnce e.remoteAddress
      = if e.pendingRetransmission = true ∧ e.pendingData.data ≠ [] ∧
            e.retransmitCount < e.maxRetries then
          (sendDue s s.timebaseMs { e with retransmitTimeoutMs := 0 }).1.withEntry
            { (sendDue s s.timebaseMs { e with retransmitTimeoutMs := 0 }).2 with
              retransmitTimeoutMs := ackTimeoutMs }
        else s.withEntry e := by
  have hfields := sendDue_fields s s.timebaseMs { e with retransmitTimeoutMs := 0 }
  have hwith : s.withTime s.timebaseMs = s := rfl
  unfold repeatAtOnce
  simp only [findConnection_withEntry, if_true, updateEntry_withEntry, timebaseMs_withEntry]
  split
  · rw [processRetransmissions_active s { e with retransmitTimeoutMs := 0 } s.timebaseMs hinit
      hactive, hwith, updateEntry_withEntry, if_pos hfields.1]
  · rfl

/-- On a reliable network the pending payload goes out at once, and the retransmission timeout starts
again from its first value. -/
theorem repeatAtOnce_of_reliable {s : TransportLayer} {e : ConnectionEntry}
    (hinit : s.initialized = true) (hrel : s.network.Reliable)
    (hactive : e.lastActivityTimeMs = s.timebaseMs) :
    (s.withEntry e).repeatAtOnce e.remoteAddress
      = if e.pendingRetransmission = true ∧ e.pendingData.data ≠ [] ∧
            e.retransmitCount < e.maxRetries then
          (s.put (s.repetitionFrame e)).withEntry
            { repeatedEntry s.timebaseMs e with retransmitTimeoutMs := ackTimeoutMs }
        else s.withEntry e := by
  rw [repeatAtOnce_active s e hinit hactive]
  split
  · next hcond =>
    obtain ⟨hpend, hdata, hcount⟩ := hcond
    -- a zero timeout has always elapsed
    have hmay : mayRepeat s.timebaseMs { e with retransmitTimeoutMs := 0 } := by
      refine ⟨?_, hcount⟩
      simp [ConnectionTable.isDue, hpend]
    rw [sendDue_of_reliable hrel, if_pos ⟨hmay, hdata⟩]
    unfold dueEntry
    rw [if_pos hmay.1, if_pos hmay.2]
    rfl
  · rfl

theorem handleNumberedData_outOfOrder (s : TransportLayer) (e : ConnectionEntry) {seqNum : UInt8}
    (tpdu : FixedVector UInt8 maxFrameSize) (priority : Priority)
    (hnew : e.lastReceivedSeq ≠ seqNum &&& 0x0F)
    (horder : seqNum &&& 0x0F ≠ e.expectedRxSeq &&& 0x0F) :
    (s.withEntry e).handleNumberedData e.remoteAddress seqNum tpdu priority
      = (s.sendNak e.remoteAddress (e.expectedRxSeq &&& 0x0F) priority).2.withEntry
          (stamped (recordedEntry e (seqNum &&& 0x0F) priority) s.timebaseMs) := by
  have hcheck := isDuplicate_withEntry s { e with priority := priority } (seqNum &&& 0x0F)
  rw [and_fifteen_idem, if_neg hnew] at hcheck
  simp only [handleNumberedData, findConnection_withEntry, updateEntry_withEntry, if_true, hcheck,
    withTable_withEntry]
  rw [if_pos horder, sendNak_withEntry, touch_withEntry, if_pos rfl]
  rfl

theorem handleNumberedData_accept (s : TransportLayer) (e : ConnectionEntry) {seqNum : UInt8}
    (tpdu : FixedVector UInt8 maxFrameSize) (priority : Priority)
    (hnew : e.lastReceivedSeq ≠ seqNum &&& 0x0F)
    (horder : seqNum &&& 0x0F = e.expectedRxSeq &&& 0x0F) :
    (s.withEntry e).handleNumberedData e.remoteAddress seqNum tpdu priority
      = ((s.sendAck e.remoteAddress (seqNum &&& 0x0F) priority).2.withEntry
          (advancedEntry (stamped (recordedEntry e (seqNum &&& 0x0F) priority)
            s.timebaseMs))).transformAndDeliver
          (connectedFrame s.ownAddress e.remoteAddress (seqNum &&& 0x0F) tpdu) := by
  have hcheck := isDuplicate_withEntry s { e with priority := priority } (seqNum &&& 0x0F)
  rw [and_fifteen_idem, if_neg hnew] at hcheck
  simp only [handleNumberedData, findConnection_withEntry, updateEntry_withEntry, if_true, hcheck,
    withTable_withEntry]
  rw [if_neg (not_not.mpr horder), sendAck_withEntry, touch_withEntry, if_pos rfl]
  simp only [updateEntry_withEntry, remoteAddress_stamped, if_true]
  rfl

/-! ## Sends -/

/-- The frame that goes on an open connection once the hook has passed it. -/
def transformedFor (s : TransportLayer) (frame : TDataFrame) (e : ConnectionEntry) :
    Result TDataFrame × TransformHook :=
  s.txHook.apply { frame with securityTpci6 := numberedTpci6 e.sequenceNumber }

/-- The numbered TPDU of a frame that is put on a connection. -/
def numberedFrame (e : ConnectionEntry) (work : TDataFrame) : NDataFrame where
  dlFrame :=
    { (toNetworkFrame work).dlFrame with
      tpdu := buildTpduInPlace (.create .numberedData (e.sequenceNumber &&& 0x0F))
        (tpduHeaderOf work.tpdu.data).apci (tpduPayloadOf work.tpdu).data
        (tpduLengthFromTpci_le _ (tpduPayloadOf work.tpdu).size_le) }

@[simp] theorem index_withPending (e : ConnectionEntry) (seqNum : UInt8) (apciRaw : UInt16)
    (payload : FixedVector UInt8 maxApduLength) (priority : Priority) (now : UInt32) :
    (withPending e seqNum apciRaw payload priority now).index = e.index := rfl

theorem findConnection_of_connectionFor {s : TransportLayer} {e : ConnectionEntry}
    {frame : TDataFrame} (h : s.connectionFor frame = some e) :
    s.connectionTable.findConnection ⟨frame.destination.raw⟩ = some e ∧
      e.stateMachine.state = .connected ∧ frame.destinationType = .individual := by
  unfold connectionFor at h
  split at h
  · next hframe =>
    split at h
    · next heq =>
      split at h
      · next hstate =>
        cases h
        exact ⟨heq, hstate, hframe.2.1⟩
      · cases h
    · cases h
  · cases h

theorem connectedDataEntry_eq_ok {s : TransportLayer} {index : ConnectionIndex}
    {e : ConnectionEntry} :
    s.connectedDataEntry index = .ok e ↔
      s.connectionTable.getConnection index = some e ∧ e.stateMachine.state = .connected ∧
        ¬ (e.pendingRetransmission = true ∧ e.pendingData.data ≠ []) := by
  unfold connectedDataEntry
  cases s.connectionTable.getConnection index with
  | none => simp
  | some e' =>
    by_cases hopen : e'.stateMachine.state = .connected
    · by_cases hbusy : e'.pendingRetransmission = true ∧ e'.pendingData.data ≠ []
      · simp only [ConnectionStateMachine.isConnected, hopen, beq_self_eq_true, Bool.not_true,
          Bool.false_eq_true, if_false, if_pos hbusy]
        constructor
        · intro h
          cases h
        · rintro ⟨heq, -, hfree⟩
          cases heq
          exact absurd hbusy hfree
      · simp only [ConnectionStateMachine.isConnected, hopen, beq_self_eq_true, Bool.not_true,
          Bool.false_eq_true, if_false, if_neg hbusy]
        constructor
        · intro h
          cases h
          exact ⟨rfl, hopen, hbusy⟩
        · rintro ⟨heq, -, -⟩
          cases heq
          rfl
    · have hclosed : e'.stateMachine.isConnected = false := by
        simp [ConnectionStateMachine.isConnected, hopen]
      simp only [hclosed, Bool.not_false, if_true]
      constructor
      · intro h
        cases h
      · rintro ⟨heq, hstate, -⟩
        cases heq
        exact absurd hstate hopen

theorem buildNetworkTxFrame_on_connection {s : TransportLayer} {e : ConnectionEntry}
    {frame work : TDataFrame} {hook : TransformHook}
    (hfor : (s.withEntry e).connectionFor frame = some e)
    (hwork : s.transformedFor frame e = (.ok work, hook)) (hne : work.tpdu.data ≠ []) :
    (s.withEntry e).buildNetworkTxFrame frame
      = (.ok (numberedFrame e work),
          { s with txHook := hook }.withEntry
            (withPending e (e.sequenceNumber &&& 0x0F) (tpduHeaderOf work.tpdu.data).apci.raw
              (tpduPayloadOf work.tpdu) work.priority s.timebaseMs)) := by
  have happly : (s.withEntry e).txHook.apply
      { frame with securityTpci6 := numberedTpci6 e.sequenceNumber } = (.ok work, hook) := hwork
  simp only [buildNetworkTxFrame, hfor, happly, hne, if_false]
  have hupdate := updateEntry_withEntry { s with txHook := hook } e e.remoteAddress
    (fun c => withPending c (e.sequenceNumber &&& 0x0F) (tpduHeaderOf work.tpdu.data).apci.raw
      (tpduPayloadOf work.tpdu) work.priority s.timebaseMs)
  rw [if_pos rfl] at hupdate
  exact congrArg (Prod.mk _) hupdate

theorem buildNetworkTxFrame_fields {s : TransportLayer} {frame : TDataFrame} {r : Result NDataFrame}
    {t : TransportLayer} (h : s.buildNetworkTxFrame frame = (r, t)) :
    t.network = s.network ∧ t.initialized = s.initialized := by
  have hfields : (s.buildNetworkTxFrame frame).2.network = s.network ∧
      (s.buildNetworkTxFrame frame).2.initialized = s.initialized := by
    rw [buildNetworkTxFrame]
    dsimp only
    split
    · exact ⟨rfl, rfl⟩
    · split
      · exact ⟨rfl, rfl⟩
      · split
        · exact ⟨rfl, rfl⟩
        · exact ⟨rfl, rfl⟩
  rw [h] at hfields
  exact hfields

theorem noFlight_of_networkBegin {s s' : TransportLayer} {frame : NDataFrame}
    (h : s.networkBegin frame = (.ok (), s')) : s.network.inFlight = none := by
  have hbegin : (s.network.beginTransmit frame).1 = .ok () := congrArg Prod.fst h
  rw [NetworkPort.beginTransmit] at hbegin
  split at hbegin
  · cases hbegin
  · next hnone => exact Option.not_isSome_iff_eq_none.mp hnone

theorem sendFrame_of_build {s t : TransportLayer} {frame : TDataFrame} {nFrame : NDataFrame}
    (hinit : s.initialized = true) (hbuild : s.buildNetworkTxFrame frame = (.ok nFrame, t)) :
    s.sendFrame frame = t.networkSend nFrame := by
  simp only [sendFrame, hinit, Bool.not_true, Bool.false_eq_true, if_false, hbuild]

theorem sendFrame_of_refused {s t : TransportLayer} {frame : TDataFrame} {err : ErrorCode}
    (hinit : s.initialized = true) (hbuild : s.buildNetworkTxFrame frame = (.error err, t)) :
    s.sendFrame frame = (.error err, t) := by
  simp only [sendFrame, hinit, Bool.not_true, Bool.false_eq_true, if_false, hbuild]

/-- Entry with the given data pending and its number not yet used up. -/
def withPendingData (e : ConnectionEntry) (data : FixedVector UInt8 maxApduLength) (now : UInt32) :
    ConnectionEntry :=
  withPending e (e.sequenceNumber &&& 0x0F) 0 data e.priority now

/-- Entry after its number has been used up by a send. -/
def numberUsed (e : ConnectionEntry) : ConnectionEntry :=
  { e with sequenceNumber := ((e.sequenceNumber &&& 0x0F) + 1) &&& 0x0F }

theorem sendConnectedData_free (s : TransportLayer) (e : ConnectionEntry) {data : List UInt8}
    (hinit : s.initialized = true) (hlen : data.length ≤ maxApduLength)
    (hopen : e.stateMachine.state = .connected)
    (hfree : ¬ (e.pendingRetransmission = true ∧ e.pendingData.data ≠ [])) :
    (s.withEntry e).sendConnectedData e.index data
      = match s.networkSend (numberedDataFrame s.ownAddress e.remoteAddress
            (e.sequenceNumber &&& 0x0F) 0 ⟨data, hlen⟩ e.priority) with
        | (.error err, s') => (.error err, s'.withEntry (withPendingData e ⟨data, hlen⟩ s.timebaseMs))
        | (.ok (), s') =>
            (.ok (), s'.withEntry
              (stamped (numberUsed (withPendingData e ⟨data, hlen⟩ s.timebaseMs)) s.timebaseMs)) := by
  have hentry : (s.withEntry e).connectedDataEntry e.index = .ok e := by
    refine connectedDataEntry_eq_ok.mpr ⟨?_, hopen, hfree⟩
    rw [getConnection_withEntry, if_pos rfl]
  simp only [sendConnectedData, initialized_withEntry, hinit, Bool.not_true, Bool.false_eq_true,
    if_false, hlen, dif_pos, hentry, updateConnection_withEntry, if_true, networkSend_withEntry]
  obtain ⟨r, s', hsend⟩ : ∃ r s', s.networkSend (numberedDataFrame s.ownAddress e.remoteAddress
      (e.sequenceNumber &&& 0x0F) 0 ⟨data, hlen⟩ e.priority) = (r, s') := ⟨_, _, rfl⟩
  have htime : s'.timebaseMs = s.timebaseMs := by
    have := congrArg (fun x => x.2.timebaseMs) hsend
    exact this.symm
  simp only [ownAddress_withEntry, hsend]
  cases r with
  | error err => rfl
  | ok u =>
    simp only [updateConnection_withEntry, index_withPending, if_true, touch_withEntry, htime,
      timebaseMs_withEntry]
    rfl

theorem sendConnectedData_refused {s : TransportLayer} {index : ConnectionIndex}
    {data : List UInt8}
    (h : ¬ (data.length ≤ maxApduLength ∧ ∃ e, s.connectedDataEntry index = .ok e)) :
    (s.sendConnectedData index data).2 = s := by
  unfold sendConnectedData
  split
  · rfl
  · split
    · next hlen =>
      cases hcheck : s.connectedDataEntry index with
      | error err => rfl
      | ok e => exact absurd ⟨hlen, e, hcheck⟩ h
    · rfl

theorem beginSendConnectedData_refused {s : TransportLayer} {index : ConnectionIndex}
    {data : List UInt8}
    (h : ¬ (data.length ≤ maxApduLength ∧ ∃ e, s.connectedDataEntry index = .ok e)) :
    (s.beginSendConnectedData index data).2 = s := by
  unfold beginSendConnectedData
  split
  · rfl
  · split
    · next hlen =>
      split
      · rfl
      · cases hcheck : s.connectedDataEntry index with
        | error err => rfl
        | ok e => exact absurd ⟨hlen, e, hcheck⟩ h
    · rfl

theorem beginSendConnectedData_free {s : TransportLayer} {e : ConnectionEntry} {data : List UInt8}
    (hinit : s.initialized = true) (hidle : s.connectedSendOperation.active = false)
    (hlen : data.length ≤ maxApduLength) (hopen : e.stateMachine.state = .connected)
    (hfree : ¬ (e.pendingRetransmission = true ∧ e.pendingData.data ≠ [])) :
    (s.withEntry e).beginSendConnectedData e.index data
      = match s.networkBegin (numberedDataFrame s.ownAddress e.remoteAddress
            (e.sequenceNumber &&& 0x0F) 0 ⟨data, hlen⟩ e.priority) with
        | (.error err, s') => (.error err, s'.withEntry e)
        | (.ok (), s') =>
            (.ok (), { s' with
              connectedSendOperation :=
                ⟨true, e.index, e.sequenceNumber &&& 0x0F, ⟨data, hlen⟩⟩ }.withEntry e) := by
  have hentry : (s.withEntry e).connectedDataEntry e.index = .ok e := by
    refine connectedDataEntry_eq_ok.mpr ⟨?_, hopen, hfree⟩
    rw [getConnection_withEntry, if_pos rfl]
  have hop : (s.withEntry e).connectedSendOperation.active = false := hidle
  simp only [beginSendConnectedData, initialized_withEntry, hinit, Bool.not_true,
    Bool.false_eq_true, if_false, hlen, dif_pos, hop, hentry, networkBegin_withEntry,
    ownAddress_withEntry]
  obtain ⟨r, s', hbegin⟩ : ∃ r s', s.networkBegin (numberedDataFrame s.ownAddress e.remoteAddress
      (e.sequenceNumber &&& 0x0F) 0 ⟨data, hlen⟩ e.priority) = (r, s') := ⟨_, _, rfl⟩
  rw [hbegin]
  cases r with
  | error err => rfl
  | ok u => rfl

/-- Entry after the transmission of its data has succeeded. -/
def transmitted (e : ConnectionEntry) (op : ConnectedSendOperationState) (now : UInt32) :
    ConnectionEntry :=
  stamped
    { withPending e op.sequenceNumber 0 op.payload e.priority now with
      sequenceNumber := (op.sequenceNumber + 1) &&& 0x0F }
    now

theorem pollConnectedDataSend_success {s : TransportLayer} {e : ConnectionEntry} {n : NetworkPort}
    (hinit : s.initialized = true) (hactive : s.connectedSendOperation.active = true)
    (hindex : s.connectedSendOperation.connectionIndex = e.index)
    (hopen : e.stateMachine.state = .connected)
    (hpoll : s.network.pollTransmit = (.ok .success, n)) :
    (s.withEntry e).pollConnectedDataSend
      = (.ok .success,
          { s with network := n, connectedSendOperation := {} }.withEntry
            (transmitted e s.connectedSendOperation s.timebaseMs)) := by
  obtain ⟨t, ht⟩ : ∃ t, t = ({ s with network := n } : TransportLayer) := ⟨_, rfl⟩
  have hop : (s.withEntry e).connectedSendOperation.active = true := hactive
  have hnet : (s.withEntry e).networkPoll = (.ok .success, t.withEntry e) := by
    rw [networkPoll_withEntry, networkPoll, hpoll, ht]
  have hfields : (t.withEntry e).connectedSendOperation = s.connectedSendOperation := by
    rw [ht]
    rfl
  have hget : (t.withEntry e).connectionTable.getConnection e.index = some e := by
    rw [getConnection_withEntry, if_pos rfl]
  have hconn : e.stateMachine.isConnected = true := by
    simp [ConnectionStateMachine.isConnected, hopen]
  simp only [pollConnectedDataSend, initialized_withEntry, hinit, hop, hnet, hfields, hget, hconn,
    Bool.not_true, Bool.false_eq_true, if_false, updateConnection_withEntry, touch_withEntry,
    hindex, if_true, index_withPending]
  rw [ht, hinit]
  rfl

end TransportLayer

end KnxStack.Transport
