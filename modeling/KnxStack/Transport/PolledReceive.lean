import KnxStack.Transport.ReceiveSafety

/-!
# Polled and synchronous reception

A received frame can be handled in one call, or be begun and polled until its answer is out. Both
ways shall have the same effect on the upper layer, on the network and on the connection table.
They are written separately for numbered data, and the polled one leaves out the repetition of the
pending TPDU that the other sends at once when the peer repeats a frame. `agreesOn_iff` says that
this is the only difference.
-/

set_option autoImplicit false

namespace KnxStack.Transport

open KnxStack.Lib KnxStack.Lib.Words KnxStack.Protocol KnxStack.Datalink

namespace TransportLayer

/-- Poll until the operation stops being pending; `none` when the polls did not suffice. -/
def pollToEnd : Nat → TransportLayer → Option TransportLayer
  | 0, _ => none
  | polls + 1, s =>
      match s.pollHandleNetworkRx with
      | (.ok .pending, s) => pollToEnd polls s
      | (_, s) => some s

/-- Begin the reception of a frame and poll it to its end. A network that has so many reports to
give answers at the latest after them. -/
def receivePolled (s : TransportLayer) (frame : NDataFrame) : Option TransportLayer :=
  let s := (s.beginHandleNetworkRx frame).2
  pollToEnd (s.network.progress.length + 1) s

/-- What the two ways of reception are compared by: frames handed to the callback and to the queue,
frames on the network, and the connection table. -/
def outcome (s : TransportLayer) :
    List TDataFrame × List TDataFrame × List NDataFrame × ConnectionTable :=
  (s.delivered, s.rxQueue, s.network.sent, s.connectionTable)

/-- Polled reception ends for every frame, and after each of them the outcome is that of synchronous
reception. -/
def AgreesOn (polled direct : TransportLayer) : List NDataFrame → Prop
  | [] => True
  | frame :: rest =>
      ∃ polled', polled.receivePolled frame = some polled' ∧
        polled'.outcome = (direct.handleNetworkRx frame).outcome ∧
        AgreesOn polled' (direct.handleNetworkRx frame) rest

/-- A repeated data frame from a peer for which a TPDU with payload is pending that has repetitions
left. -/
def RepeatsAtOnce (s : TransportLayer) (frame : NDataFrame) : Prop :=
  s.initialized = true ∧
    ∃ seqNum e, classify frame.dlFrame.tpdu.data = .tDataConnected seqNum ∧
      s.connectionTable.findConnection frame.dlFrame.source = some e ∧
      e.lastReceivedSeq = seqNum &&& 0x0F ∧ e.pendingRetransmission = true ∧
      e.pendingData.data ≠ [] ∧ e.retransmitCount < e.maxRetries

/-! ## Handlers that do not depend on the receive operation -/

/-- The same state over another network and with another receive operation. -/
def graft (s : TransportLayer) (n : NetworkPort) (o : ReceiveOperationState) : TransportLayer :=
  { s with network := n, receiveOperation := o }

/-- A handler that sends nothing did the same in both states. -/
structure Alike (n : NetworkPort) (o : ReceiveOperationState) (s t t' : TransportLayer) : Prop where
  same : t' = t.graft n o
  network : t.network = s.network
  initialized : t.initialized = s.initialized

/-- A handler did the same in both states: it sent nothing, or one and the same frame. -/
def Parallel (n : NetworkPort) (o : ReceiveOperationState) (s t t' : TransportLayer) : Prop :=
  Alike n o s t t' ∨
    ∃ frame, t' = t.graft (n.put frame) o ∧ t.network = s.network.put frame ∧
      t.initialized = s.initialized

section Graft

variable (s : TransportLayer) (n : NetworkPort) (o : ReceiveOperationState)

@[simp] theorem table_graft : (s.graft n o).connectionTable = s.connectionTable := rfl

@[simp] theorem ownAddress_graft : (s.graft n o).ownAddress = s.ownAddress := rfl

@[simp] theorem updateEntry_graft (a : IndividualAddress) (f : ConnectionEntry → ConnectionEntry) :
    (s.graft n o).updateEntry a f = (s.updateEntry a f).graft n o := rfl

@[simp] theorem touch_graft (i : ConnectionIndex) :
    (s.graft n o).touch i = (s.touch i).graft n o := rfl

@[simp] theorem withTable_graft (t : ConnectionTable) :
    (s.graft n o).withTable t = (s.withTable t).graft n o := rfl

theorem networkPoll_graft :
    (s.graft n o).networkPoll = (n.pollTransmit.1, s.graft n.pollTransmit.2 o) := rfl

theorem startClock_graft : (s.graft n o).startClock = s.startClock.graft n o := by
  have htime : (s.graft n o).timebaseMs = s.timebaseMs := rfl
  by_cases h : s.timebaseMs = 0
  · rw [startClock, startClock, if_pos h, htime, if_pos h]
    rfl
  · rw [startClock, startClock, if_neg h, htime, if_neg h]

variable {s n o} in
theorem Alike.updateEntry {t t' : TransportLayer} (h : Alike n o s t t') (a : IndividualAddress)
    (f : ConnectionEntry → ConnectionEntry) :
    Alike n o s (t.updateEntry a f) (t'.updateEntry a f) :=
  ⟨by rw [h.same]; rfl, h.network, h.initialized⟩

variable {s n o} in
theorem Alike.updateConnection {t t' : TransportLayer} (h : Alike n o s t t') (i : ConnectionIndex)
    (f : ConnectionEntry → ConnectionEntry) :
    Alike n o s (t.updateConnection i f) (t'.updateConnection i f) :=
  ⟨by rw [h.same]; rfl, h.network, h.initialized⟩

variable {s n o} in
theorem Alike.touch {t t' : TransportLayer} (h : Alike n o s t t') (i : ConnectionIndex) :
    Alike n o s (t.touch i) (t'.touch i) :=
  ⟨by rw [h.same]; rfl, h.network, h.initialized⟩

variable {s n o} in
theorem Alike.note {t t' : TransportLayer} (h : Alike n o s t t') (events : List TableEvent) :
    Alike n o s (t.note events) (t'.note events) :=
  ⟨by rw [h.same]; rfl, h.network, h.initialized⟩

variable {s n o} in
theorem Alike.withTable {t t' : TransportLayer} (h : Alike n o s t t') (table : ConnectionTable) :
    Alike n o s (t.withTable table) (t'.withTable table) :=
  ⟨by rw [h.same]; rfl, h.network, h.initialized⟩

theorem alike_refl : Alike n o s s (s.graft n o) := ⟨rfl, rfl, rfl⟩

theorem alike_deliver (frame : TDataFrame) :
    Alike n o s (s.deliver frame) ((s.graft n o).deliver frame) := by
  have hcb : (s.graft n o).rxCallback = s.rxCallback := rfl
  have hqueue : (s.graft n o).rxQueue = s.rxQueue := rfl
  rw [deliver, deliver, hcb]
  split
  · exact ⟨rfl, rfl, rfl⟩
  · rw [enqueueReceivedFrame, enqueueReceivedFrame, hqueue]
    split
    · exact ⟨rfl, rfl, rfl⟩
    · exact ⟨rfl, rfl, rfl⟩

theorem alike_transformAndDeliver (frame : TDataFrame) :
    Alike n o s (s.transformAndDeliver frame) ((s.graft n o).transformAndDeliver frame) := by
  have hhook : (s.graft n o).rxHook = s.rxHook := rfl
  rw [transformAndDeliver, transformAndDeliver, hhook]
  obtain ⟨r, hook, hr⟩ : ∃ r hook, s.rxHook.apply frame = (r, hook) := ⟨_, _, rfl⟩
  rw [hr]
  cases r with
  | error err => exact ⟨rfl, rfl, rfl⟩
  | ok frame' =>
    rcases alike_deliver { s with rxHook := hook } n o frame' with ⟨hsame, hnet, hinit⟩
    exact ⟨hsame, hnet, hinit⟩

theorem alike_handleAck (a : IndividualAddress) (seqNum : UInt8) :
    Alike n o s (s.handleAck a seqNum) ((s.graft n o).handleAck a seqNum) := by
  rw [handleAck, handleAck, table_graft]
  cases s.connectionTable.findConnection a with
  | none => exact alike_refl s n o
  | some e =>
    dsimp only
    split
    · exact (((alike_refl s n o).withTable _).updateEntry a _).touch e.index
    · exact (alike_refl s n o).touch e.index

theorem alike_handleNak (a : IndividualAddress) (seqNum : UInt8) :
    Alike n o s (s.handleNak a seqNum) ((s.graft n o).handleNak a seqNum) := by
  rw [handleNak, handleNak, table_graft]
  cases s.connectionTable.findConnection a with
  | none => exact alike_refl s n o
  | some e =>
    dsimp only
    split
    · exact ((alike_refl s n o).updateEntry a _).touch e.index
    · exact (alike_refl s n o).touch e.index

theorem alike_handleConnectResponse (a : IndividualAddress) :
    Alike n o s (s.handleConnectResponse a) ((s.graft n o).handleConnectResponse a) := by
  rw [handleConnectResponse, handleConnectResponse, table_graft]
  cases s.connectionTable.findConnection a with
  | none => exact alike_refl s n o
  | some e => exact ((alike_refl s n o).updateEntry a _).touch e.index

variable {s n o} in
theorem Alike.removeEntryByAddress {t t' : TransportLayer} (h : Alike n o s t t')
    (a : IndividualAddress) :
    Alike n o s (t.removeEntryByAddress a) (t'.removeEntryByAddress a) := by
  have hfind : t'.connectionTable.findConnection a = t.connectionTable.findConnection a := by
    rw [h.same, table_graft]
  rw [TransportLayer.removeEntryByAddress, TransportLayer.removeEntryByAddress, hfind]
  cases t.connectionTable.findConnection a with
  | none => exact h
  | some e =>
    have htable : t'.connectionTable = t.connectionTable := by rw [h.same, table_graft]
    rw [htable]
    exact (h.withTable _).note _

theorem alike_handleDisconnectResponse (a : IndividualAddress) :
    Alike n o s (s.handleDisconnectResponse a) ((s.graft n o).handleDisconnectResponse a) := by
  rw [handleDisconnectResponse, handleDisconnectResponse, table_graft]
  cases s.connectionTable.findConnection a with
  | none => exact (alike_refl s n o).removeEntryByAddress a
  | some e => exact (((alike_refl s n o).updateEntry a _).touch e.index).removeEntryByAddress a

theorem alike_handleTDisconnect (frame : LDataFrame) :
    Alike n o s (s.handleTDisconnect frame) ((s.graft n o).handleTDisconnect frame) := by
  rw [handleTDisconnect, handleTDisconnect, table_graft]
  cases s.connectionTable.findConnection frame.source with
  | none => exact alike_refl s n o
  | some e =>
    dsimp only
    split
    · exact alike_handleDisconnectResponse s n o frame.source
    · exact (alike_refl s n o).removeEntryByAddress frame.source

theorem createEntry_graft (a : IndividualAddress) (params : ConnectionParams) :
    (s.graft n o).createEntry a params
      = ((s.createEntry a params).1, (s.createEntry a params).2.graft n o) := rfl

theorem parallel_handleConnectRequest (hrel : s.network.Reliable) (hrel' : n.Reliable)
    (a : IndividualAddress) (priority : Priority) (rep : Bool) :
    Parallel n o s (s.handleConnectRequest a priority rep)
      ((s.graft n o).handleConnectRequest a priority rep) := by
  rw [handleConnectRequest, handleConnectRequest, table_graft]
  cases s.connectionTable.findConnection a with
  | some e =>
    left
    have hprio := (alike_refl s n o).updateEntry a (fun c => { c with priority := priority })
    dsimp only
    split
    · exact hprio.touch e.index
    · exact (((hprio.updateEntry a _).note _).updateEntry a _).touch e.index
  | none =>
    dsimp only
    rw [createEntry_graft]
    dsimp only
    have hnet : (s.createEntry a (serverParams a)).2.network = s.network := rfl
    have hinit : (s.createEntry a (serverParams a)).2.initialized = s.initialized := rfl
    generalize s.createEntry a (serverParams a) = created at *
    rcases created with ⟨index, t⟩
    by_cases h : index.isValid = true
    · left
      simp only [h, if_true]
      have halike : Alike n o s t (t.graft n o) := ⟨rfl, hnet, hinit⟩
      exact (halike.updateConnection index _).touch index
    · right
      refine ⟨controlFrame t.ownAddress a (.createControl .disconnect) priority, ?_⟩
      simp only [h, Bool.false_eq_true, if_false, sendDisconnect, ownAddress_graft]
      rw [networkSend_of_reliable (s := t.graft n o) hrel',
        networkSend_of_reliable (s := t) (by rw [hnet]; exact hrel)]
      exact ⟨rfl, congrArg (NetworkPort.put · _) hnet, hinit⟩

theorem parallel_handleTConnect (hrel : s.network.Reliable) (hrel' : n.Reliable)
    (frame : LDataFrame) :
    Parallel n o s (s.handleTConnect frame) ((s.graft n o).handleTConnect frame) := by
  rw [handleTConnect, handleTConnect, table_graft]
  cases s.connectionTable.findConnection frame.source with
  | none => exact parallel_handleConnectRequest s n o hrel hrel' _ _ _
  | some e =>
    dsimp only
    split
    · exact Or.inl (alike_handleConnectResponse s n o frame.source)
    · exact parallel_handleConnectRequest s n o hrel hrel' _ _ _

theorem parallel_dispatch (hrel : s.network.Reliable) (hrel' : n.Reliable) {frame : NDataFrame}
    (hdata : ∀ seqNum, classify frame.dlFrame.tpdu.data ≠ .tDataConnected seqNum) :
    Parallel n o s (s.dispatch frame) ((s.graft n o).dispatch frame) := by
  cases hc : classify frame.dlFrame.tpdu.data with
  | tConnect =>
    simp only [dispatch, hc]
    exact parallel_handleTConnect s n o hrel hrel' frame.dlFrame
  | tDisconnect =>
    simp only [dispatch, hc]
    exact Or.inl (alike_handleTDisconnect s n o frame.dlFrame)
  | tAck seqNum =>
    simp only [dispatch, hc]
    exact Or.inl (alike_handleAck s n o frame.dlFrame.source seqNum)
  | tNak seqNum =>
    simp only [dispatch, hc]
    exact Or.inl (alike_handleNak s n o frame.dlFrame.source seqNum)
  | tDataConnected seqNum => exact absurd hc (hdata seqNum)
  | connectionless =>
    simp only [dispatch, hc]
    exact Or.inl (alike_transformAndDeliver s n o _)

end Graft

/-! ## Polling -/

/-- The receive operation `beginHandleNetworkRx` starts with. -/
def startedOperation : ReceiveOperationState := { active := true, terminalState := .success }

theorem pollToEnd_at_once {s : TransportLayer} (polls : Nat) (hinit : s.initialized = true)
    (hactive : s.receiveOperation.active = true)
    (hwait : s.receiveOperation.waitingResponse = false)
    (hdone : s.receiveOperation.terminalState = .success) :
    pollToEnd (polls + 1) s = some s.finalizeReceiveOperation := by
  have hpoll : s.pollHandleNetworkRx = (.ok .success, s.finalizeReceiveOperation) := by
    simp only [pollHandleNetworkRx, hinit, hactive, hwait, hdone, Bool.not_true,
      Bool.false_eq_true, if_false]
  rw [pollToEnd, hpoll]

theorem pollToEnd_waiting (s : TransportLayer) (polls : Nat) {n : NetworkPort}
    {o : ReceiveOperationState} {frame : NDataFrame} (hinit : s.initialized = true)
    (hactive : o.active = true) (hwait : o.waitingResponse = true) (hrel : n.Reliable)
    (hflight : n.inFlight = some frame) (hpolls : n.progress.length < polls) :
    ∃ n' : NetworkPort, pollToEnd polls (s.graft n o) = some (s.graft n' o).finalizeReceiveOperation ∧
      n'.sent = n.sent ++ [frame] ∧ n'.Reliable ∧ n'.inFlight = none := by
  -- every poll that finds the frame still in flight uses up a report of the network
  induction polls generalizing n with
  | zero => exact absurd hpolls (Nat.not_lt_zero _)
  | succ polls ih =>
    have hgraft : (s.graft n o).receiveOperation = o := rfl
    have hinit' : (s.graft n o).initialized = true := hinit
    rcases hrel.pollTransmit_cases hflight with ⟨hne, hpoll⟩ | hpoll
    · have hstep : (s.graft n o).pollHandleNetworkRx
          = (.ok .pending, s.graft { n with progress := n.progress.tail } o) := by
        simp only [pollHandleNetworkRx, hinit', hgraft, hactive, hwait, Bool.not_true,
          Bool.false_eq_true, if_false, if_true, networkPoll_graft, hpoll]
      rw [pollToEnd, hstep]
      apply ih hrel.wait hflight
      have hpos := List.length_pos_of_ne_nil hne
      rw [List.length_tail]
      omega
    · have hstep : (s.graft n o).pollHandleNetworkRx
          = (.ok .success, (s.graft (n.land frame) o).finalizeReceiveOperation) := by
        simp only [pollHandleNetworkRx, hinit', hgraft, hactive, hwait, Bool.not_true,
          Bool.false_eq_true, if_false, if_true, networkPoll_graft, hpoll]
      rw [pollToEnd, hstep]
      exact ⟨n.land frame, rfl, rfl, hrel.land frame, rfl⟩

theorem finalize_quiet (s : TransportLayer) (n : NetworkPort) {o : ReceiveOperationState}
    (hactive : o.active = true) (hadv : o.advanceExpectedSequence = false)
    (hdel : o.deliverFrame = false) :
    (s.graft n o).finalizeReceiveOperation = s.graft n {} := by
  have hgraft : (s.graft n o).receiveOperation = o := rfl
  simp only [finalizeReceiveOperation, hgraft, hactive, hadv, hdel, Bool.not_true,
    Bool.false_eq_true, if_false]
  rfl

/-! ## Numbered data -/

section NumberedData

variable {s : TransportLayer} {e : ConnectionEntry} {n : NetworkPort} {o : ReceiveOperationState}
  {seqNum : UInt8} {tpdu : FixedVector UInt8 maxFrameSize} {priority : Priority}

theorem withEntry_graft (s : TransportLayer) (e : ConnectionEntry) (n : NetworkPort)
    (o : ReceiveOperationState) : (s.graft n o).withEntry e = (s.withEntry e).graft n o := rfl

/-- The receive operation of a frame from a known peer. -/
def forPeer (o : ReceiveOperationState) (e : ConnectionEntry) : ReceiveOperationState :=
  { o with connectionIndex := e.index }

theorem awaitResponse_launch (hrel : n.Reliable) (hfree : n.inFlight = none)
    (a : IndividualAddress) (tpci : TPCIField) :
    awaitResponse ((s.graft n o).beginControlResponse a tpci priority)
      = s.graft (n.launch (controlFrame s.ownAddress a tpci priority))
          { o with waitingResponse := true } := by
  unfold beginControlResponse
  rw [networkBegin_of_reliable (s := s.graft n o) hrel hfree]
  rfl

theorem beginHandleNumberedData_known (s : TransportLayer) (e : ConnectionEntry) (n : NetworkPort)
    (o : ReceiveOperationState) (seqNum : UInt8) (tpdu : FixedVector UInt8 maxFrameSize)
    (priority : Priority) :
    ((s.withEntry e).graft n o).beginHandleNumberedData e.remoteAddress seqNum tpdu priority
      = let t := (s.withEntry (heardEntry e priority s.timebaseMs)).graft n (forPeer o e)
        match t.connectionTable.isDuplicate e.index (seqNum &&& 0x0F) with
        | (.error _, _) => { t with receiveOperation.terminalState := .transmissionFailed }
        | (.ok true, table) =>
            awaitResponse ((t.withTable table).beginControlResponse e.remoteAddress
              (.ack (seqNum &&& 0x0F)) priority)
        | (.ok false, table) =>
            if seqNum &&& 0x0F ≠ e.expectedRxSeq &&& 0x0F then
              awaitResponse ((t.withTable table).beginControlResponse e.remoteAddress
                (.nak (e.expectedRxSeq &&& 0x0F)) priority)
            else
              awaitResponse ({ t.withTable table with
                receiveOperation.deliverFrame := true
                receiveOperation.advanceExpectedSequence := true
                receiveOperation.receivedFrame :=
                  connectedFrame s.ownAddress e.remoteAddress (seqNum &&& 0x0F) tpdu }
                |>.beginControlResponse e.remoteAddress (.ack (seqNum &&& 0x0F)) priority) := by
  simp only [beginHandleNumberedData, table_graft, findConnection_withEntry, if_true,
    updateEntry_graft, updateEntry_withEntry, touch_graft, touch_withEntry]
  rfl

theorem beginHandleNumberedData_duplicate (hrel : n.Reliable) (hfree : n.inFlight = none)
    (hdup : e.lastReceivedSeq = seqNum &&& 0x0F) :
    ((s.withEntry e).graft n o).beginHandleNumberedData e.remoteAddress seqNum tpdu priority
      = (s.withEntry (heardEntry e priority s.timebaseMs)).graft
          (n.launch (controlFrame s.ownAddress e.remoteAddress (.ack (seqNum &&& 0x0F)) priority))
          { forPeer o e with waitingResponse := true } := by
  rw [beginHandleNumberedData_known]
  simp only [table_graft, isDuplicate_heardEntry, hdup, if_true, withTable_graft,
    withTable_withEntry]
  exact awaitResponse_launch hrel hfree _ _

theorem beginHandleNumberedData_outOfOrder (hrel : n.Reliable) (hfree : n.inFlight = none)
    (hnew : e.lastReceivedSeq ≠ seqNum &&& 0x0F)
    (horder : seqNum &&& 0x0F ≠ e.expectedRxSeq &&& 0x0F) :
    ((s.withEntry e).graft n o).beginHandleNumberedData e.remoteAddress seqNum tpdu priority
      = (s.withEntry (stamped (recordedEntry e (seqNum &&& 0x0F) priority) s.timebaseMs)).graft
          (n.launch (controlFrame s.ownAddress e.remoteAddress (.nak (e.expectedRxSeq &&& 0x0F))
            priority))
          { forPeer o e with waitingResponse := true } := by
  rw [beginHandleNumberedData_known]
  simp only [table_graft, isDuplicate_heardEntry, hnew, if_false, withTable_graft,
    withTable_withEntry, horder, ne_eq, not_false_eq_true, if_true]
  exact awaitResponse_launch hrel hfree _ _

/-- The receive operation of a frame that is to be handed up. -/
def handingUp (o : ReceiveOperationState) (frame : TDataFrame) : ReceiveOperationState :=
  { o with deliverFrame := true, advanceExpectedSequence := true, receivedFrame := frame }

theorem beginHandleNumberedData_accept (hrel : n.Reliable) (hfree : n.inFlight = none)
    (hnew : e.lastReceivedSeq ≠ seqNum &&& 0x0F)
    (horder : seqNum &&& 0x0F = e.expectedRxSeq &&& 0x0F) :
    ((s.withEntry e).graft n o).beginHandleNumberedData e.remoteAddress seqNum tpdu priority
      = (s.withEntry (stamped (recordedEntry e (seqNum &&& 0x0F) priority) s.timebaseMs)).graft
          (n.launch (controlFrame s.ownAddress e.remoteAddress (.ack (seqNum &&& 0x0F)) priority))
          { handingUp (forPeer o e) (connectedFrame s.ownAddress e.remoteAddress
              (seqNum &&& 0x0F) tpdu) with waitingResponse := true } := by
  have hnot : ¬ (seqNum &&& 0x0F ≠ e.expectedRxSeq &&& 0x0F) := not_not.mpr horder
  rw [beginHandleNumberedData_known]
  simp only [table_graft, isDuplicate_heardEntry, hnew, if_false, withTable_graft,
    withTable_withEntry, hnot]
  exact awaitResponse_launch (o := handingUp (forPeer o e) (connectedFrame s.ownAddress
    e.remoteAddress (seqNum &&& 0x0F) tpdu)) hrel hfree _ _

end NumberedData

/-! ## Simulation -/

/-- The polled state is the direct one over a network of its own, on which the same frames went
out; no reception is under way. -/
structure Matches (n : NetworkPort) (o : ReceiveOperationState) (direct : TransportLayer) : Prop where
  idle : o.active = false
  sent : n.sent = direct.network.sent
  reliable : n.Reliable
  noFlight : n.inFlight = none
  reliable' : direct.network.Reliable

/-- Polled reception of a frame ends in a state that matches. -/
def Simulates (n : NetworkPort) (o : ReceiveOperationState) (direct : TransportLayer)
    (frame : NDataFrame) : Prop :=
  ∃ n' o', (direct.graft n o).receivePolled frame
      = some ((direct.handleNetworkRx frame).graft n' o') ∧
    Matches n' o' (direct.handleNetworkRx frame)

theorem startClock_startClock (s : TransportLayer) : s.startClock.startClock = s.startClock := by
  by_cases h : s.timebaseMs = 0
  · rw [startClock, startClock, if_pos h]
    rfl
  · rw [startClock, startClock, if_neg h, if_neg h]

theorem classify_eq_tDataConnected {tpdu : List UInt8} {seqNum : UInt8} :
    classify tpdu = .tDataConnected seqNum ↔
      (receivedTpci tpdu).type = .numberedData ∧ seqNum = (receivedTpci tpdu).seqNum := by
  unfold classify
  dsimp only
  cases (receivedTpci tpdu).type with
  | unnumberedData => simp
  | numberedData => simp [eq_comm]
  | unnumberedControl =>
    dsimp only
    split
    · simp
    · split
      · simp
      · simp
  | numberedControl =>
    dsimp only
    split
    · simp
    · split
      · simp
      · simp

section Simulation

variable {n : NetworkPort} {o : ReceiveOperationState} {s : TransportLayer} {frame : NDataFrame}

theorem receivePolled_eq {t : TransportLayer} (h : (s.beginHandleNetworkRx frame).2 = t) :
    s.receivePolled frame = pollToEnd (t.network.progress.length + 1) t := by
  rw [receivePolled, h]

theorem simulates_of_not_initialized (h : Matches n o s) (hinit : s.initialized = false) :
    Simulates n o s frame := by
  have hsame : s.handleNetworkRx frame = s := by
    rw [TransportLayer.handleNetworkRx, hinit]
    rfl
  have hinit' : (s.graft n o).initialized = false := hinit
  have hbegin : ((s.graft n o).beginHandleNetworkRx frame).2 = s.graft n o := by
    rw [beginHandleNetworkRx, hinit']
    rfl
  have hpoll : (s.graft n o).pollHandleNetworkRx = (.error .notInitialized, s.graft n o) := by
    rw [pollHandleNetworkRx, hinit']
    rfl
  refine ⟨n, o, ?_, ?_⟩
  · rw [receivePolled_eq hbegin, pollToEnd, hpoll, hsame]
  · rw [hsame]
    exact h

theorem simulates_of_begun (n' : NetworkPort)
    (hbegin : ((s.graft n o).beginHandleNetworkRx frame).2
      = (s.handleNetworkRx frame).graft n' startedOperation)
    (hinit' : (s.handleNetworkRx frame).initialized = true)
    (h : Matches n' {} (s.handleNetworkRx frame)) : Simulates n o s frame := by
  refine ⟨n', {}, ?_, h⟩
  rw [receivePolled_eq hbegin,
    pollToEnd_at_once (s := (s.handleNetworkRx frame).graft n' startedOperation) _ hinit' rfl rfl
      rfl,
    finalize_quiet _ _ rfl rfl rfl]

theorem beginHandleNetworkRx_eq (hinit : s.initialized = true) (hidle : o.active = false)
    (hne : frame.dlFrame.tpdu.data ≠ []) :
    ((s.graft n o).beginHandleNetworkRx frame).2
      = if (receivedTpci frame.dlFrame.tpdu.data).type = .numberedData then
          (s.startClock.graft n startedOperation).beginHandleNumberedData frame.dlFrame.source
            (receivedTpci frame.dlFrame.tpdu.data).seqNum frame.dlFrame.tpdu frame.dlFrame.priority
        else (s.startClock.graft n startedOperation).handleNetworkRx frame := by
  have hinit' : ¬ (!(s.graft n o).initialized) = true := by
    rw [show (s.graft n o).initialized = true from hinit]
    decide
  have hop : ¬ (s.graft n o).receiveOperation.active = true := by
    rw [show (s.graft n o).receiveOperation.active = false from hidle]
    decide
  rw [beginHandleNetworkRx, if_neg hinit', if_neg hop, ← startClock_graft]
  dsimp only
  rw [if_neg hne]
  split
  · rfl
  · rfl

theorem simulates_of_other (h : Matches n o s) (hinit : s.initialized = true)
    (hne : frame.dlFrame.tpdu.data ≠ [])
    (hdata : ∀ seqNum, classify frame.dlFrame.tpdu.data ≠ .tDataConnected seqNum) :
    Simulates n o s frame := by
  have hclock : s.startClock.network = s.network ∧ s.startClock.initialized = s.initialized :=
    ⟨network_startClock s, initialized_startClock s⟩
  have htype : (receivedTpci frame.dlFrame.tpdu.data).type ≠ .numberedData := by
    intro htype
    exact hdata _ (classify_eq_tDataConnected.mpr ⟨htype, rfl⟩)
  have hdirect := handleNetworkRx_eq_dispatch hinit hne
  have hpolled : (s.startClock.graft n startedOperation).handleNetworkRx frame
      = (s.startClock.graft n startedOperation).dispatch frame := by
    rw [handleNetworkRx_eq_dispatch (s := s.startClock.graft n startedOperation)
      (hclock.2.trans hinit) hne, startClock_graft, startClock_startClock]
  have hbegin := beginHandleNetworkRx_eq (n := n) hinit h.idle hne
  rw [if_neg htype, hpolled] at hbegin
  have hrel : s.startClock.network.Reliable := by
    rw [hclock.1]
    exact h.reliable'
  rcases parallel_dispatch s.startClock n startedOperation hrel h.reliable hdata with
    ⟨hsame, hnet, hinit'⟩ | ⟨f, hsame, hnet, hinit'⟩
  · rw [hsame, ← hdirect] at hbegin
    rw [← hdirect] at hnet hinit'
    apply simulates_of_begun _ hbegin (hinit'.trans (hclock.2.trans hinit))
    have hnet' := hnet.trans hclock.1
    exact ⟨rfl, by rw [hnet', h.sent], h.reliable, h.noFlight, by rw [hnet']; exact h.reliable'⟩
  · rw [hsame, ← hdirect] at hbegin
    rw [← hdirect] at hnet hinit'
    apply simulates_of_begun _ hbegin (hinit'.trans (hclock.2.trans hinit))
    have hnet' : (s.handleNetworkRx frame).network = s.network.put f := by rw [hnet, hclock.1]
    refine ⟨rfl, ?_, h.reliable.put f, h.noFlight, ?_⟩
    · rw [hnet', NetworkPort.put, NetworkPort.put, h.sent]
    · rw [hnet']
      exact h.reliable'.put f

theorem simulates_of_answer (h : Matches n o s) {t : TransportLayer} {e : ConnectionEntry}
    {f : NDataFrame} {o' : ReceiveOperationState} (hinit : t.initialized = true)
    (hnet : t.network = s.network)
    (hbegin : ((s.graft n o).beginHandleNetworkRx frame).2
      = (t.withEntry e).graft (n.launch f) o')
    (hactive : o'.active = true) (hwait : o'.waitingResponse = true)
    (hadv : o'.advanceExpectedSequence = false) (hdel : o'.deliverFrame = false)
    (hdirect : s.handleNetworkRx frame = (t.put f).withEntry e) : Simulates n o s frame := by
  rcases pollToEnd_waiting (t.withEntry e) (n.progress.length + 1) hinit hactive hwait
    (h.reliable.launch f) rfl (Nat.lt_succ_self _) with ⟨n', hpoll, hsent, hrel, hfree⟩
  refine ⟨n', {}, ?_, rfl, ?_, hrel, hfree, ?_⟩
  · rw [receivePolled_eq hbegin, hdirect]
    refine hpoll.trans ?_
    rw [finalize_quiet (t.withEntry e) n' hactive hadv hdel]
    rfl
  · rw [hsent, hdirect]
    show n.sent ++ [f] = t.network.sent ++ [f]
    rw [h.sent, hnet]
  · rw [hdirect]
    show (t.network.put f).Reliable
    rw [hnet]
    exact h.reliable'.put f

theorem finalize_handingUp (t : TransportLayer) (e : ConnectionEntry)
    (hactive : o.active = true) (hadv : o.advanceExpectedSequence = true)
    (hdel : o.deliverFrame = true) (hindex : o.connectionIndex = e.index) :
    ((t.withEntry e).graft n o).finalizeReceiveOperation
      = ((t.withEntry (advancedEntry e)).transformAndDeliver o.receivedFrame).graft n {} := by
  have hgraft : ((t.withEntry e).graft n o).receiveOperation = o := rfl
  have hdeliver := (alike_transformAndDeliver (t.withEntry (advancedEntry e)) n o
    o.receivedFrame).same
  have hupdate : ((t.withEntry e).graft n o).updateConnection e.index
      (fun c => { c with expectedRxSeq := (c.expectedRxSeq + 1) &&& 0x0F })
      = (t.withEntry (advancedEntry e)).graft n o := by
    rw [← withEntry_graft, updateConnection_withEntry, if_pos rfl]
    rfl
  simp only [finalizeReceiveOperation, hgraft, hactive, hadv, hdel, hindex, Bool.not_true,
    Bool.false_eq_true, if_false, if_true, hupdate, hdeliver]
  rfl

theorem simulates_of_handingUp (h : Matches n o s) {t : TransportLayer} {e : ConnectionEntry}
    {f : NDataFrame} {o' : ReceiveOperationState} (hinit : t.initialized = true)
    (hnet : t.network = s.network)
    (hbegin : ((s.graft n o).beginHandleNetworkRx frame).2
      = (t.withEntry e).graft (n.launch f) o')
    (hactive : o'.active = true) (hwait : o'.waitingResponse = true)
    (hadv : o'.advanceExpectedSequence = true) (hdel : o'.deliverFrame = true)
    (hindex : o'.connectionIndex = e.index)
    (hdirect : s.handleNetworkRx frame
      = ((t.put f).withEntry (advancedEntry e)).transformAndDeliver o'.receivedFrame) :
    Simulates n o s frame := by
  rcases pollToEnd_waiting (t.withEntry e) (n.progress.length + 1) hinit hactive hwait
    (h.reliable.launch f) rfl (Nat.lt_succ_self _) with ⟨n', hpoll, hsent, hrel, hfree⟩
  -- the direct state is the one that delivers, over the network that took the answer
  have hover : s.handleNetworkRx frame
      = ((t.withEntry (advancedEntry e)).transformAndDeliver o'.receivedFrame).graft
          (t.network.put f) t.receiveOperation := by
    rw [hdirect]
    exact (alike_transformAndDeliver (t.withEntry (advancedEntry e)) (t.network.put f)
      t.receiveOperation o'.receivedFrame).same
  refine ⟨n', {}, ?_, rfl, ?_, hrel, hfree, ?_⟩
  · rw [receivePolled_eq hbegin, hover]
    refine hpoll.trans ?_
    rw [finalize_handingUp t e hactive hadv hdel hindex]
    rfl
  · rw [hsent, hover]
    show n.sent ++ [f] = t.network.sent ++ [f]
    rw [h.sent, hnet]
  · rw [hover]
    show (t.network.put f).Reliable
    rw [hnet]
    exact h.reliable'.put f

theorem simulates_of_unknown (h : Matches n o s) (hinit : s.initialized = true)
    (hne : frame.dlFrame.tpdu.data ≠ []) {seqNum : UInt8}
    (hclass : classify frame.dlFrame.tpdu.data = .tDataConnected seqNum)
    (hfind : s.connectionTable.findConnection frame.dlFrame.source = none) :
    Simulates n o s frame := by
  rcases classify_eq_tDataConnected.mp hclass with ⟨htype, hnumber⟩
  have hfind' : s.startClock.connectionTable.findConnection frame.dlFrame.source = none := by
    rw [table_startClock, hfind]
  have hdirect : s.handleNetworkRx frame = s.startClock := by
    rw [handleNetworkRx_eq_dispatch hinit hne]
    simp only [dispatch, hclass, handleNumberedData, hfind']
  have hbegin := beginHandleNetworkRx_eq (n := n) hinit h.idle hne
  rw [if_pos htype, beginHandleNumberedData, table_graft, hfind'] at hbegin
  have hclock : s.startClock.network = s.network ∧ s.startClock.initialized = s.initialized :=
    ⟨network_startClock s, initialized_startClock s⟩
  refine simulates_of_begun n ?_ ?_ ?_
  · rw [hdirect]
    exact hbegin
  · rw [hdirect, hclock.2, hinit]
  · rw [hdirect]
    exact ⟨rfl, by rw [hclock.1, h.sent], h.reliable, h.noFlight,
      by rw [hclock.1]; exact h.reliable'⟩

theorem numberedData_known (hidle : o.active = false) (hslot : s.OneSlot)
    (hinit : s.initialized = true) {seqNum : UInt8} {e : ConnectionEntry}
    (hclass : classify frame.dlFrame.tpdu.data = .tDataConnected seqNum)
    (hfind : s.connectionTable.findConnection frame.dlFrame.source = some e) :
    s.handleNetworkRx frame = (s.startClock.withEntry e).handleNumberedData e.remoteAddress seqNum
        frame.dlFrame.tpdu frame.dlFrame.priority ∧
      ((s.graft n o).beginHandleNetworkRx frame).2
        = ((s.startClock.withEntry e).graft n startedOperation).beginHandleNumberedData
            e.remoteAddress seqNum frame.dlFrame.tpdu frame.dlFrame.priority := by
  have hne : frame.dlFrame.tpdu.data ≠ [] := by
    intro hnil
    rw [hnil, classify_nil] at hclass
    cases hclass
  rcases classify_eq_tDataConnected.mp hclass with ⟨htype, hnumber⟩
  rcases hslot.withEntry_of_find hfind with ⟨hs, haddr⟩
  have hentry : s.startClock = s.startClock.withEntry e := by
    rw [← startClock_withEntry, hs]
  constructor
  · rw [handleNetworkRx_eq_dispatch hinit hne, ← hentry]
    simp only [dispatch, hclass, haddr]
  · have hbegin := beginHandleNetworkRx_eq (n := n) hinit hidle hne
    rw [if_pos htype, ← hnumber, ← haddr, hentry] at hbegin
    exact hbegin

/-- Numbered data from a known peer: either reception takes the same branch, and they differ only
where the pending TPDU is repeated at once. -/
theorem simulates_of_known (h : Matches n o s) (hslot : s.OneSlot) (hinit : s.initialized = true)
    {seqNum : UInt8} {e : ConnectionEntry}
    (hclass : classify frame.dlFrame.tpdu.data = .tDataConnected seqNum)
    (hfind : s.connectionTable.findConnection frame.dlFrame.source = some e)
    (hrep : ¬ RepeatsAtOnce s frame) : Simulates n o s frame := by
  rcases numberedData_known (n := n) h.idle hslot hinit hclass hfind with ⟨hdirect, hbegin⟩
  have hrel : s.startClock.network.Reliable := by
    rw [network_startClock]
    exact h.reliable'
  have hinit' : s.startClock.initialized = true := by rw [initialized_startClock, hinit]
  have hnet := network_startClock s
  by_cases hdup : e.lastReceivedSeq = seqNum &&& 0x0F
  · rw [beginHandleNumberedData_duplicate h.reliable h.noFlight hdup] at hbegin
    have hquiet : ¬ (e.pendingRetransmission = true ∧ e.pendingData.data ≠ [] ∧
        e.retransmitCount < e.maxRetries) := by
      rintro ⟨hpend, hdata, hcount⟩
      exact hrep ⟨hinit, seqNum, e, hclass, hfind, hdup, hpend, hdata, hcount⟩
    refine simulates_of_answer h hinit' hnet hbegin rfl rfl rfl rfl ?_
    rw [hdirect, handleNumberedData_duplicate _ e _ _ hdup, sendAck,
      networkSend_of_reliable hrel]
    have hrepeat := repeatAtOnce_of_reliable
      (s := s.startClock.put (controlFrame s.startClock.ownAddress e.remoteAddress
        (.ack (seqNum &&& 0x0F)) frame.dlFrame.priority))
      (e := heardEntry e frame.dlFrame.priority s.startClock.timebaseMs) hinit' (hrel.put _) rfl
    exact hrepeat.trans (if_neg hquiet)
  · by_cases horder : seqNum &&& 0x0F = e.expectedRxSeq &&& 0x0F
    · rw [beginHandleNumberedData_accept h.reliable h.noFlight hdup horder] at hbegin
      refine simulates_of_handingUp h hinit' hnet hbegin rfl rfl rfl rfl rfl ?_
      rw [hdirect, handleNumberedData_accept _ e _ _ hdup horder, sendAck,
        networkSend_of_reliable hrel]
      rfl
    · rw [beginHandleNumberedData_outOfOrder h.reliable h.noFlight hdup horder] at hbegin
      refine simulates_of_answer h hinit' hnet hbegin rfl rfl rfl rfl ?_
      rw [hdirect, handleNumberedData_outOfOrder _ e _ _ hdup horder, sendNak,
        networkSend_of_reliable hrel]

/-- Where the pending TPDU is repeated at once, polled reception ends as well, one frame short. -/
theorem differs_of_repeatsAtOnce (h : Matches n o s) (hslot : s.OneSlot)
    (hrep : RepeatsAtOnce s frame) :
    ∃ polled', (s.graft n o).receivePolled frame = some polled' ∧
      polled'.outcome ≠ (s.handleNetworkRx frame).outcome := by
  rcases hrep with ⟨hinit, seqNum, e, hclass, hfind, hdup, hpend, hdata, hcount⟩
  rcases numberedData_known (n := n) h.idle hslot hinit hclass hfind with ⟨hdirect, hbegin⟩
  have hrel : s.startClock.network.Reliable := by
    rw [network_startClock]
    exact h.reliable'
  have hinit' : s.startClock.initialized = true := by rw [initialized_startClock, hinit]
  -- the answer of either reception
  obtain ⟨ack, hack⟩ : ∃ ack, ack = controlFrame s.startClock.ownAddress e.remoteAddress
      (.ack (seqNum &&& 0x0F)) frame.dlFrame.priority := ⟨_, rfl⟩
  rw [beginHandleNumberedData_duplicate h.reliable h.noFlight hdup, ← hack] at hbegin
  rcases pollToEnd_waiting
    (s.startClock.withEntry (heardEntry e frame.dlFrame.priority s.startClock.timebaseMs))
    (n.progress.length + 1) (o := { forPeer startedOperation e with waitingResponse := true })
    hinit' rfl rfl (h.reliable.launch ack) rfl (Nat.lt_succ_self _) with
    ⟨n', hpoll, hsent, -, -⟩
  rw [finalize_quiet _ _ rfl rfl rfl] at hpoll
  refine ⟨_, (receivePolled_eq hbegin).trans hpoll, ?_⟩
  have hrepeat := repeatAtOnce_of_reliable (s := s.startClock.put ack)
    (e := heardEntry e frame.dlFrame.priority s.startClock.timebaseMs) hinit' (hrel.put _) rfl
  have hsent' : (s.handleNetworkRx frame).network.sent
      = s.startClock.network.sent ++ [ack] ++ [(s.startClock.put ack).repetitionFrame
          (heardEntry e frame.dlFrame.priority s.startClock.timebaseMs)] := by
    rw [hdirect, handleNumberedData_duplicate _ e _ _ hdup, sendAck,
      networkSend_of_reliable hrel, ← hack]
    exact congrArg (fun t => t.network.sent) (hrepeat.trans (if_pos ⟨hpend, hdata, hcount⟩))
  intro heq
  have hlen := congrArg (fun x => x.2.2.1.length) heq
  have hleft : n'.sent.length = s.startClock.network.sent.length + 1 := by
    rw [hsent, network_startClock, ← h.sent, List.length_append]
    rfl
  have hright := congrArg List.length hsent'
  rw [List.length_append, List.length_append] at hright
  exact absurd (hleft.symm.trans (hlen.trans hright)) (by simp)

theorem simulates_of_empty (h : Matches n o s) (hinit : s.initialized = true)
    (hnil : frame.dlFrame.tpdu.data = []) : Simulates n o s frame := by
  have hdirect : s.handleNetworkRx frame = s := by
    simp only [TransportLayer.handleNetworkRx, hinit, hnil, Bool.not_true, Bool.false_eq_true,
      if_false, if_true]
  have hinit' : ¬ (!(s.graft n o).initialized) = true := by
    rw [show (s.graft n o).initialized = true from hinit]
    decide
  have hop : ¬ (s.graft n o).receiveOperation.active = true := by
    rw [show (s.graft n o).receiveOperation.active = false from h.idle]
    decide
  refine simulates_of_begun n ?_ ?_ ?_
  · rw [beginHandleNetworkRx, if_neg hinit', if_neg hop, hdirect]
    dsimp only
    rw [if_pos hnil]
    rfl
  · rw [hdirect, hinit]
  · rw [hdirect]
    exact ⟨rfl, h.sent, h.reliable, h.noFlight, h.reliable'⟩

theorem simulates_of_not_repeatsAtOnce (h : Matches n o s) (hslot : s.OneSlot)
    (hrep : ¬ RepeatsAtOnce s frame) : Simulates n o s frame := by
  cases hinit : s.initialized with
  | false => exact simulates_of_not_initialized h hinit
  | true =>
    by_cases hnil : frame.dlFrame.tpdu.data = []
    · exact simulates_of_empty h hinit hnil
    · by_cases hdata : ∃ seqNum, classify frame.dlFrame.tpdu.data = .tDataConnected seqNum
      · rcases hdata with ⟨seqNum, hclass⟩
        cases hfind : s.connectionTable.findConnection frame.dlFrame.source with
        | none => exact simulates_of_unknown h hinit hnil hclass hfind
        | some e => exact simulates_of_known h hslot hinit hclass hfind hrep
      · exact simulates_of_other h hinit hnil (fun seqNum hclass => hdata ⟨seqNum, hclass⟩)

end Simulation

theorem Matches.outcome_eq {n : NetworkPort} {o : ReceiveOperationState} {s : TransportLayer}
    (h : Matches n o s) : (s.graft n o).outcome = s.outcome := by
  rw [outcome, outcome]
  show (s.delivered, s.rxQueue, n.sent, s.connectionTable) = _
  rw [h.sent]

theorem Matches.agreesOn_iff {n : NetworkPort} {o : ReceiveOperationState} {s : TransportLayer}
    (h : Matches n o s) (hslot : s.OneSlot) (frames : List NDataFrame) :
    AgreesOn (s.graft n o) s frames
      ↔ Along handleNetworkRx (fun s frame => ¬ RepeatsAtOnce s frame) s frames := by
  induction frames generalizing n o s with
  | nil => exact Iff.rfl
  | cons frame rest ih =>
    have hslot' := hslot.handleNetworkRx frame
    rw [along_cons]
    constructor
    · rintro ⟨polled', hpolled, hout, hrest⟩
      have hrep : ¬ RepeatsAtOnce s frame := by
        intro hrep
        rcases differs_of_repeatsAtOnce h hslot hrep with ⟨other, hother, hne⟩
        rw [hpolled, Option.some_inj] at hother
        subst hother
        exact hne hout
      rcases simulates_of_not_repeatsAtOnce h hslot hrep with ⟨n', o', hsim, h'⟩
      rw [hpolled, Option.some_inj] at hsim
      subst hsim
      exact ⟨hrep, (ih h' hslot').mp hrest⟩
    · rintro ⟨hrep, hrest⟩
      rcases simulates_of_not_repeatsAtOnce h hslot hrep with ⟨n', o', hsim, h'⟩
      exact ⟨_, hsim, h'.outcome_eq, (ih h' hslot').mpr hrest⟩

/-- Polled reception. With a network that lets every transmission succeed, handling each frame in
polls has the effect of handling it in one call, on any sequence of frames, exactly if no frame of
the sequence makes the pending TPDU go out at once. -/
theorem agreesOn_iff_along {s : TransportLayer} (hreach : s.Reachable)
    (hidle : s.receiveOperation.active = false) (hrel : s.network.Reliable)
    (hfree : s.network.inFlight = none) (frames : List NDataFrame) :
    AgreesOn s s frames
      ↔ Along handleNetworkRx (fun s frame => ¬ RepeatsAtOnce s frame) s frames := by
  have h : Matches s.network s.receiveOperation s := ⟨hidle, rfl, hrel, hfree, hrel⟩
  exact h.agreesOn_iff (reachable_oneSlot hreach) frames

/-- A data frame that comes twice while nothing is pending. -/
theorem agreesOn_repeated_frame :
    AgreesOn openedByPeer openedByPeer
      [fromPeer [0x43, 0x40, 0x07], fromPeer [0x43, 0x40, 0x07]] := by
  have hidle : ∀ e ∈ openedByPeer.connectionTable.connections,
      e.pendingRetransmission = false := by decide
  have hidle' : ∀ e ∈ (openedByPeer.handleNetworkRx
      (fromPeer [0x43, 0x40, 0x07])).connectionTable.connections,
      e.pendingRetransmission = false := by decide
  rw [agreesOn_iff_along reachable_openedByPeer (by decide) ⟨by decide, by decide⟩ (by decide)]
  refine ⟨?_, ?_, trivial⟩
  · rintro ⟨-, seqNum, e, -, hfind, -, hpend, -⟩
    rw [hidle e (List.mem_of_find?_eq_some hfind)] at hpend
    cases hpend
  · rintro ⟨-, seqNum, e, -, hfind, -, hpend, -⟩
    rw [hidle' e (List.mem_of_find?_eq_some hfind)] at hpend
    cases hpend

/-- The peer repeats a data frame after this device has sent an octet that is still unacknowledged:
polled reception leaves out the repetition of the octet. -/
theorem polled_leaves_out_repetition :
    ¬ AgreesOn
      (run step openedByPeer
        [.handleNetworkRx (fromPeer [0x43, 0x40, 0x07]), .sendConnectedData ⟨0⟩ [1]])
      (run step openedByPeer
        [.handleNetworkRx (fromPeer [0x43, 0x40, 0x07]), .sendConnectedData ⟨0⟩ [1]])
      [fromPeer [0x43, 0x40, 0x07]] := by
  rintro ⟨polled', hpolled, hout, -⟩
  have hfew := congrArg (Option.map (fun t => t.network.sent.length)) hpolled
  have hshort : (Option.map (fun t => t.network.sent.length) (TransportLayer.receivePolled
      (run step openedByPeer
        [.handleNetworkRx (fromPeer [0x43, 0x40, 0x07]), .sendConnectedData ⟨0⟩ [1]])
      (fromPeer [0x43, 0x40, 0x07]))) = some 3 := by decide
  have hmany : (TransportLayer.handleNetworkRx
      (run step openedByPeer
        [.handleNetworkRx (fromPeer [0x43, 0x40, 0x07]), .sendConnectedData ⟨0⟩ [1]])
      (fromPeer [0x43, 0x40, 0x07])).network.sent.length = 4 := by decide
  have hsame := congrArg (fun x => x.2.2.1.length) hout
  have hthree := Option.some_inj.mp (hfew.symm.trans hshort)
  exact absurd (hthree.symm.trans (hsame.trans hmany)) (by decide)

end TransportLayer

end KnxStack.Transport
