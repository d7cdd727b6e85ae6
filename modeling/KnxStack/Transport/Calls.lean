import KnxStack.Transport.IndexAllocation
import KnxStack.Transport.SingleConnection

/-!
# Runs of the transport layer

The public operations of the transport layer as one type of calls, the state after a call, and the
states that runs of calls lead to. A receive callback that calls back into the transport layer does
so as the last thing of the handler that called it, so its calls are later calls of the run.

`reachable_oneSlot`: in every reachable state the table has room for one connection at most and
does not exceed it.
-/

set_option autoImplicit false

namespace KnxStack.Transport

open KnxStack.Lib KnxStack.Protocol KnxStack.Datalink

namespace TransportLayer

/-- Public operations. -/
inductive Call where
  | init (ownAddress : IndividualAddress)
  | setOwnAddress (ownAddress : IndividualAddress)
  | close
  | setReceiveCallback (installed : Bool)
  | setTxTransform (transform : Option TDataTransform)
  | setRxTransform (transform : Option TDataTransform)
  | sendFrame (frame : TDataFrame)
  | beginTransmit (frame : TDataFrame)
  | pollTransmit
  | connect (remote : IndividualAddress)
  | beginConnect (remote : IndividualAddress)
  | pollConnect
  | disconnect (index : ConnectionIndex)
  | sendConnectedData (index : ConnectionIndex) (data : List UInt8)
  | beginSendConnectedData (index : ConnectionIndex) (data : List UInt8)
  | pollConnectedDataSend
  | processRetransmissions (currentTimeMs : UInt32)
  | beginProcessRetransmissions (currentTimeMs : UInt32)
  | pollProcessRetransmissions
  | handleNetworkRx (frame : NDataFrame)
  | beginHandleNetworkRx (frame : NDataFrame)
  | pollHandleNetworkRx
  | popReceivedFrame

/-- State after a call. -/
def step (s : TransportLayer) : Call → TransportLayer
  | .init a => (s.init a).2
  | .setOwnAddress a => s.setOwnAddress a
  | .close => s.close
  | .setReceiveCallback installed => s.setReceiveCallback installed
  | .setTxTransform t => s.setTxTransform t
  | .setRxTransform t => s.setRxTransform t
  | .sendFrame f => (s.sendFrame f).2
  | .beginTransmit f => (s.beginTransmit f).2
  | .pollTransmit => s.pollTransmit.2
  | .connect a => (s.connect a).2
  | .beginConnect a => (s.beginConnect a).2
  | .pollConnect => s.pollConnect.2
  | .disconnect i => (s.disconnect i).2
  | .sendConnectedData i d => (s.sendConnectedData i d).2
  | .beginSendConnectedData i d => (s.beginSendConnectedData i d).2
  | .pollConnectedDataSend => s.pollConnectedDataSend.2
  | .processRetransmissions now => s.processRetransmissions now
  | .beginProcessRetransmissions now => (s.beginProcessRetransmissions now).2
  | .pollProcessRetransmissions => s.pollProcessRetransmissions.2
  | .handleNetworkRx f => s.handleNetworkRx f
  | .beginHandleNetworkRx f => (s.beginHandleNetworkRx f).2
  | .pollHandleNetworkRx => s.pollHandleNetworkRx.2
  | .popReceivedFrame => s.popReceivedFrame.2

/-- Frame of one device to an address, with the given TPDU octets. -/
def frameFrom (source : IndividualAddress) (destination : GroupAddress)
    (destinationType : AddressType) (tpdu : List UInt8) : NDataFrame where
  dlFrame :=
    { source := source
      destination := destination
      destinationType := destinationType
      tpdu := (FixedVector.clear.assign tpdu).2 }

/-- States of a transport layer over some network. -/
def Reachable (s : TransportLayer) : Prop :=
  ∃ (network : NetworkPort) (calls : List Call), s = run step { network := network } calls

/-- Device 1.1.1 after 1.1.2 has opened a connection to it. -/
def openedByPeer : TransportLayer :=
  run step {} [.init ⟨0x1101⟩, .setReceiveCallback true,
    .handleNetworkRx (frameFrom ⟨0x1102⟩ ⟨0x1101⟩ .individual [0x80])]

theorem reachable_openedByPeer : openedByPeer.Reachable := ⟨{}, _, rfl⟩

/-- Frame of 1.1.2 to 1.1.1. -/
def fromPeer (tpdu : List UInt8) : NDataFrame := frameFrom ⟨0x1102⟩ ⟨0x1101⟩ .individual tpdu

/-! ## Room for one connection -/

/-- The table has room for one connection at most and does not exceed its capacity; the index
counter stays below sixteen. -/
structure OneSlot (s : TransportLayer) : Prop where
  within : s.connectionTable.connections.length ≤ s.connectionTable.maxConnections
  single : s.connectionTable.maxConnections ≤ 1
  counter : s.connectionTable.nextIndex.toNat < 16

theorem OneSlot.cases {s : TransportLayer} (h : s.OneSlot) :
    s.connectionTable.connections = [] ∨ ∃ e, s.connectionTable.connections = [e] := by
  have hlen : s.connectionTable.connections.length ≤ 1 := h.within.trans h.single
  match hc : s.connectionTable.connections with
  | [] => exact Or.inl rfl
  | [e] => exact Or.inr ⟨e, rfl⟩
  | e :: e' :: rest =>
    rw [hc] at hlen
    simp at hlen

theorem OneSlot.withEntry_of_find {s : TransportLayer} (h : s.OneSlot) {a : IndividualAddress}
    {e : ConnectionEntry} (hfind : s.connectionTable.findConnection a = some e) :
    s.withEntry e = s ∧ e.remoteAddress = a := by
  rcases h.cases with hempty | ⟨e', hsingle⟩
  · rw [findConnection_empty hempty] at hfind
    cases hfind
  · have hs := withEntry_eq_self hsingle
    rw [← hs, findConnection_withEntry] at hfind
    split at hfind
    · next haddr =>
      cases hfind
      exact ⟨hs, haddr⟩
    · cases hfind

theorem OneSlot.withEntry_of_get {s : TransportLayer} (h : s.OneSlot) {i : ConnectionIndex}
    {e : ConnectionEntry} (hget : s.connectionTable.getConnection i = some e) :
    s.withEntry e = s ∧ e.index = i := by
  rcases h.cases with hempty | ⟨e', hsingle⟩
  · simp [ConnectionTable.getConnection, hempty] at hget
  · have hs := withEntry_eq_self hsingle
    rw [← hs, getConnection_withEntry] at hget
    split at hget
    · next hindex =>
      cases hget
      exact ⟨hs, hindex⟩
    · cases hget

theorem OneSlot.of_table {s s' : TransportLayer} (h : s.OneSlot)
    (hlen : s'.connectionTable.connections.length ≤ s.connectionTable.connections.length)
    (hmax : s'.connectionTable.maxConnections = s.connectionTable.maxConnections)
    (hnext : s'.connectionTable.nextIndex = s.connectionTable.nextIndex) : s'.OneSlot := by
  constructor
  · rw [hmax]
    exact hlen.trans h.within
  · rw [hmax]
    exact h.single
  · rw [hnext]
    exact h.counter

theorem OneSlot.nextIndex_isValid {s : TransportLayer} (h : s.OneSlot) :
    ConnectionIndex.isValid ⟨s.connectionTable.nextIndex⟩ = true := by
  have hlt := h.counter
  simp only [ConnectionIndex.isValid, bne_iff_ne, ne_eq]
  intro heq
  rw [heq] at hlt
  exact absurd hlt (by decide)

theorem OneSlot.congr {s s' : TransportLayer} (h : s.OneSlot)
    (ht : s'.connectionTable = s.connectionTable) : s'.OneSlot :=
  h.of_table (by rw [ht]) (by rw [ht]) (by rw [ht])

theorem OneSlot.of_eq {α : Type} {r : α × TransportLayer} {x : α} {s : TransportLayer}
    (h : r.2.OneSlot) (heq : r = (x, s)) : s.OneSlot := by
  rw [heq] at h
  exact h

section OneSlotSteps

variable {s : TransportLayer}

theorem OneSlot.updateEntry (h : s.OneSlot) (a : IndividualAddress)
    (f : ConnectionEntry → ConnectionEntry) : (s.updateEntry a f).OneSlot :=
  h.of_table (by simp [TransportLayer.updateEntry, withTable, ConnectionTable.updateByAddress]) rfl
    rfl

theorem OneSlot.updateConnection (h : s.OneSlot) (i : ConnectionIndex)
    (f : ConnectionEntry → ConnectionEntry) : (s.updateConnection i f).OneSlot :=
  h.of_table (by simp [TransportLayer.updateConnection, withTable, ConnectionTable.updateByIndex])
    rfl rfl

theorem OneSlot.touch (h : s.OneSlot) (i : ConnectionIndex) : (s.touch i).OneSlot :=
  h.updateConnection i _

theorem OneSlot.networkSend (h : s.OneSlot) (frame : NDataFrame) :
    (s.networkSend frame).2.OneSlot :=
  h.congr rfl

theorem OneSlot.networkBegin (h : s.OneSlot) (frame : NDataFrame) :
    (s.networkBegin frame).2.OneSlot :=
  h.congr rfl

theorem OneSlot.networkPoll (h : s.OneSlot) : s.networkPoll.2.OneSlot :=
  h.congr rfl

theorem OneSlot.note (h : s.OneSlot) (events : List TableEvent) : (s.note events).OneSlot :=
  h.congr rfl

theorem OneSlot.withTime (h : s.OneSlot) (now : UInt32) : (s.withTime now).OneSlot :=
  h.congr rfl

theorem OneSlot.startClock (h : s.OneSlot) : s.startClock.OneSlot := by
  unfold TransportLayer.startClock
  split
  · exact h.withTime 1
  · exact h

theorem OneSlot.createEntry (h : s.OneSlot) (a : IndividualAddress) (p : ConnectionParams) :
    (s.createEntry a p).2.OneSlot := by
  unfold TransportLayer.createEntry
  apply OneSlot.note
  by_cases hgo : a.isValid = true ∧ s.connectionTable.canCreateConnection a = .ok ()
  · rw [ConnectionTable.createConnection_of_can p hgo.1 hgo.2]
    obtain ⟨hroom, -⟩ := (ConnectionTable.canCreateConnection_iff _ a).mp hgo.2
    constructor
    · simp only [TransportLayer.withTable, List.length_append, List.length_singleton]
      omega
    · exact h.single
    · simp only [TransportLayer.withTable, UInt8.toNat_mod]
      exact Nat.mod_lt _ (by decide)
  · rw [ConnectionTable.createConnection_refused p hgo]
    exact h

theorem OneSlot.removeEntry (h : s.OneSlot) (i : ConnectionIndex) : (s.removeEntry i).OneSlot := by
  obtain ⟨hsub, hmax, hnext⟩ := s.connectionTable.afterCall_sublist (.removeConnection i) (by simp)
  unfold TransportLayer.removeEntry
  split
  · exact h
  · exact (h.of_table hsub.length_le hmax hnext : OneSlot (s.withTable _)).note _

theorem OneSlot.removeEntryByAddress (h : s.OneSlot) (a : IndividualAddress) :
    (s.removeEntryByAddress a).OneSlot := by
  obtain ⟨hsub, hmax, hnext⟩ := s.connectionTable.afterCall_sublist (.removeConnectionByAddress a) (by simp)
  unfold TransportLayer.removeEntryByAddress
  split
  · exact h
  · exact (h.of_table hsub.length_le hmax hnext : OneSlot (s.withTable _)).note _

theorem OneSlot.removeIdle (h : s.OneSlot) (now : UInt32) : (s.removeIdle now).OneSlot := by
  obtain ⟨hsub, hmax, hnext⟩ :=
    s.connectionTable.afterCall_sublist (.processTimeouts now connectionTimeoutMs) (by simp)
  exact (h.of_table hsub.length_le hmax hnext : OneSlot (s.withTable _)).note _

theorem OneSlot.markRepeated (h : s.OneSlot) (i : ConnectionIndex) (now : UInt32) :
    (s.markRepeated i now).OneSlot := by
  unfold TransportLayer.markRepeated ConnectionTable.markDataSent
  split
  · exact h.of_table (by simp [withTable, ConnectionTable.updateByIndex,
      ConnectionTable.updateActivityTime]) rfl rfl
  · exact h.of_table (by simp [withTable, ConnectionTable.updateByIndex,
      ConnectionTable.updateActivityTime]) rfl rfl

theorem OneSlot.deliver (h : s.OneSlot) (frame : TDataFrame) : (s.deliver frame).OneSlot := by
  unfold TransportLayer.deliver enqueueReceivedFrame
  split
  · exact h.congr rfl
  · split
    · exact h.congr rfl
    · exact h.congr rfl

theorem OneSlot.transformAndDeliver (h : s.OneSlot) (frame : TDataFrame) :
    (s.transformAndDeliver frame).OneSlot := by
  unfold TransportLayer.transformAndDeliver
  split
  · exact h.congr rfl
  · apply OneSlot.deliver
    exact h.congr rfl

theorem OneSlot.withDueTable (h : s.OneSlot) (now : UInt32) :
    (s.withTable (s.connectionTable.processRetransmissions now).2).OneSlot := by
  obtain ⟨hlen, hmax, hnext⟩ :=
    ConnectionTable.sameShape_processRetransmissions s.connectionTable now
  exact h.of_table hlen.le hmax hnext

theorem OneSlot.repeatPending (h : s.OneSlot) (now : UInt32) (i : ConnectionIndex) :
    (repeatPending now s i).OneSlot := by
  unfold TransportLayer.repeatPending
  split
  · exact h
  · next e _ =>
    split
    · exact h
    · have hsend := h.networkSend (s.repetitionFrame e)
      split
      · next heq => exact hsend.of_eq heq
      · next heq => exact (hsend.of_eq heq).markRepeated i now

theorem OneSlot.processRetransmissions (h : s.OneSlot) (now : UInt32) :
    (s.processRetransmissions now).OneSlot := by
  unfold TransportLayer.processRetransmissions
  split
  · exact h
  · apply OneSlot.removeIdle
    -- every round of the loop over the due connections keeps the bound
    have hloop : ∀ (due : List ConnectionIndex) (s : TransportLayer), s.OneSlot →
        (due.foldl (TransportLayer.repeatPending now) s).OneSlot := by
      intro due
      induction due with
      | nil => intro s hs; exact hs
      | cons i due ih => intro s hs; exact ih _ (hs.repeatPending now i)
    exact hloop _ _ ((h.withTime now).withDueTable now)

theorem OneSlot.startNextRepetition (h : s.OneSlot) (pending : List ConnectionIndex) :
    (s.startNextRepetition pending).2.OneSlot := by
  induction pending with
  | nil => exact (h.removeIdle _).congr rfl
  | cons i rest ih =>
    unfold TransportLayer.startNextRepetition
    split
    · exact ih
    · next e _ =>
      split
      · exact ih
      · have hbegin := h.networkBegin (s.repetitionFrame e)
        split
        · next heq => exact (hbegin.of_eq heq).congr rfl
        · next heq => exact (hbegin.of_eq heq).congr rfl

theorem OneSlot.repeatAtOnce (h : s.OneSlot) (a : IndividualAddress) :
    (s.repeatAtOnce a).OneSlot := by
  unfold TransportLayer.repeatAtOnce
  split
  · exact h
  · split
    · exact ((h.updateEntry a _).processRetransmissions _).updateEntry a _
    · exact h

theorem OneSlot.withDuplicateCheck (h : s.OneSlot) {i : ConnectionIndex} {seqNum : UInt8}
    {r : Result Bool} {t : ConnectionTable}
    (heq : s.connectionTable.isDuplicate i seqNum = (r, t)) : (s.withTable t).OneSlot := by
  unfold ConnectionTable.isDuplicate at heq
  split at heq
  · cases heq
    exact h
  · split at heq
    · cases heq
      exact h
    · cases heq
      exact h.updateConnection i _

theorem OneSlot.handleNumberedData (h : s.OneSlot) (a : IndividualAddress) (seqNum : UInt8)
    (tpdu : FixedVector UInt8 maxFrameSize) (priority : Priority) :
    (s.handleNumberedData a seqNum tpdu priority).OneSlot := by
  unfold TransportLayer.handleNumberedData
  split
  · exact h
  · have hprio := h.updateEntry a (fun c => { c with priority := priority })
    dsimp only
    split
    · exact hprio
    · next heq =>
      exact (((hprio.withDuplicateCheck heq).networkSend _).touch _).repeatAtOnce a
    · next heq =>
      have hcheck := hprio.withDuplicateCheck heq
      split
      · exact (hcheck.networkSend _).touch _
      · exact (((hcheck.networkSend _).touch _).updateEntry a _).transformAndDeliver _

theorem OneSlot.handleConnectRequest (h : s.OneSlot) (a : IndividualAddress) (priority : Priority)
    (repeatedFrame : Bool) : (s.handleConnectRequest a priority repeatedFrame).OneSlot := by
  unfold TransportLayer.handleConnectRequest
  split
  · have hprio := h.updateEntry a (fun c => { c with priority := priority })
    dsimp only
    split
    · exact hprio.touch _
    · exact (((hprio.updateEntry a _).note _).updateEntry a _).touch _
  · have hcreate := h.createEntry a (serverParams a)
    dsimp only
    split
    · exact (hcreate.updateConnection _ _).touch _
    · exact hcreate.networkSend _

theorem OneSlot.handleAck (h : s.OneSlot) (a : IndividualAddress) (seqNum : UInt8) :
    (s.handleAck a seqNum).OneSlot := by
  unfold TransportLayer.handleAck
  split
  · exact h
  · next e _ =>
    apply OneSlot.touch
    split
    · apply OneSlot.updateEntry
      unfold ConnectionTable.resetRetransmitState
      split
      · exact h.updateConnection e.index _
      · exact h
    · exact h

theorem OneSlot.handleNak (h : s.OneSlot) (a : IndividualAddress) (seqNum : UInt8) :
    (s.handleNak a seqNum).OneSlot := by
  unfold TransportLayer.handleNak
  split
  · exact h
  · apply OneSlot.touch
    split
    · exact h.updateEntry a _
    · exact h

theorem OneSlot.handleNetworkRx (h : s.OneSlot) (frame : NDataFrame) :
    (s.handleNetworkRx frame).OneSlot := by
  have hclock := h.startClock
  unfold TransportLayer.handleNetworkRx
  split
  · exact h
  · split
    · exact h
    · dsimp only
      split
      · split
        · unfold handleTConnect
          split
          · split
            · unfold handleConnectResponse
              split
              · exact hclock
              · exact (hclock.updateEntry _ _).touch _
            · exact hclock.handleConnectRequest _ _ _
          · exact hclock.handleConnectRequest _ _ _
        · split
          · unfold handleTDisconnect
            split
            · split
              · unfold handleDisconnectResponse
                split
                · exact hclock.removeEntryByAddress _
                · exact ((hclock.updateEntry _ _).touch _).removeEntryByAddress _
              · exact hclock.removeEntryByAddress _
            · exact hclock
          · exact hclock.transformAndDeliver _
      · split
        · exact hclock.handleAck _ _
        · split
          · exact hclock.handleNak _ _
          · exact hclock.transformAndDeliver _
      · exact hclock.handleNumberedData _ _ _ _
      · exact hclock.transformAndDeliver _

theorem OneSlot.buildNetworkTxFrame (h : s.OneSlot) (frame : TDataFrame) :
    (s.buildNetworkTxFrame frame).2.OneSlot := by
  unfold TransportLayer.buildNetworkTxFrame
  dsimp only
  split
  · exact h.congr rfl
  · split
    · exact h.congr rfl
    · split
      · exact h.congr rfl
      · apply OneSlot.updateEntry
        exact h.congr rfl

theorem OneSlot.sendFrame (h : s.OneSlot) (frame : TDataFrame) : (s.sendFrame frame).2.OneSlot := by
  have hbuild := h.buildNetworkTxFrame frame
  unfold TransportLayer.sendFrame
  split
  · exact h
  · split
    · next heq => exact hbuild.of_eq heq
    · next heq => exact (hbuild.of_eq heq).networkSend _

theorem OneSlot.beginTransmit (h : s.OneSlot) (frame : TDataFrame) :
    (s.beginTransmit frame).2.OneSlot := by
  have hbuild := h.buildNetworkTxFrame frame
  unfold TransportLayer.beginTransmit
  split
  · exact h
  · split
    · exact h
    · split
      · next heq => exact hbuild.of_eq heq
      · next nFrame _ heq =>
        have hbegin := (hbuild.of_eq heq).networkBegin nFrame
        split
        · next heq => exact hbegin.of_eq heq
        · next heq => exact (hbegin.of_eq heq).congr rfl

theorem OneSlot.pollTransmit (h : s.OneSlot) : s.pollTransmit.2.OneSlot := by
  have hpoll := h.networkPoll
  unfold TransportLayer.pollTransmit
  split
  · exact h
  · split
    · exact h
    · split
      · next heq => exact hpoll.of_eq heq
      · next heq => exact (hpoll.of_eq heq).congr rfl

theorem OneSlot.connect (h : s.OneSlot) (a : IndividualAddress) : (s.connect a).2.OneSlot := by
  have hcreate := h.createEntry a (clientParams a)
  unfold TransportLayer.connect
  split
  · exact h
  · split
    · exact h
    · dsimp only
      split
      · exact hcreate
      · have hsend : ((s.createEntry a (clientParams a)).2.sendConnect a).2.OneSlot :=
          hcreate.networkSend _
        split
        · next heq => exact (hsend.of_eq heq).removeEntry _
        · next heq => exact ((hsend.of_eq heq).updateConnection _ _).touch _

theorem OneSlot.beginConnect (h : s.OneSlot) (a : IndividualAddress) :
    (s.beginConnect a).2.OneSlot := by
  have hcreate := h.createEntry a (clientParams a)
  unfold TransportLayer.beginConnect
  split
  · exact h
  · split
    · exact h
    · split
      · exact h
      · dsimp only
        split
        · exact hcreate
        · have hbegin := hcreate.networkBegin
            (beginConnectFrame (s.createEntry a (clientParams a)).2.ownAddress a)
          split
          · next heq => exact (hbegin.of_eq heq).removeEntry _
          · next heq => exact (hbegin.of_eq heq).congr rfl

theorem OneSlot.abandonConnect (h : s.OneSlot) : s.abandonConnect.OneSlot := by
  unfold TransportLayer.abandonConnect
  dsimp only
  split
  · exact (h.removeEntry _).congr rfl
  · exact h.congr rfl

theorem OneSlot.pollConnect (h : s.OneSlot) : s.pollConnect.2.OneSlot := by
  have hpoll := h.networkPoll
  unfold TransportLayer.pollConnect
  split
  · exact h
  · split
    · exact h
    · split
      · next heq => exact hpoll.of_eq heq
      · next heq => exact (((hpoll.of_eq heq).updateConnection _ _).touch _).congr rfl
      · next heq => exact (hpoll.of_eq heq).abandonConnect

theorem OneSlot.disconnect (h : s.OneSlot) (i : ConnectionIndex) : (s.disconnect i).2.OneSlot := by
  unfold TransportLayer.disconnect
  split
  · exact h
  · split
    · exact h
    · next e _ =>
      have hsend : (s.sendDisconnect e.remoteAddress e.priority).2.OneSlot := h.networkSend _
      split
      · next heq => exact hsend.of_eq heq
      · next heq => exact ((hsend.of_eq heq).updateConnection _ _).touch _

theorem OneSlot.sendConnectedData (h : s.OneSlot) (i : ConnectionIndex) (data : List UInt8) :
    (s.sendConnectedData i data).2.OneSlot := by
  unfold TransportLayer.sendConnectedData
  split
  · exact h
  · split
    · split
      · exact h
      · dsimp only
        split
        · next heq => exact ((h.updateConnection i _).networkSend _).of_eq heq
        · next heq =>
          have hsent := ((h.updateConnection i _).networkSend _).of_eq heq
          exact (hsent.updateConnection _ _).touch _
    · exact h

theorem OneSlot.beginSendConnectedData (h : s.OneSlot) (i : ConnectionIndex) (data : List UInt8) :
    (s.beginSendConnectedData i data).2.OneSlot := by
  unfold TransportLayer.beginSendConnectedData
  split
  · exact h
  · split
    · split
      · exact h
      · split
        · exact h
        · dsimp only
          split
          · next heq => exact (h.networkBegin _).of_eq heq
          · next heq => exact ((h.networkBegin _).of_eq heq).congr rfl
    · exact h

theorem OneSlot.pollConnectedDataSend (h : s.OneSlot) : s.pollConnectedDataSend.2.OneSlot := by
  have hpoll := h.networkPoll
  unfold TransportLayer.pollConnectedDataSend
  split
  · exact h
  · split
    · exact h
    · split
      · next heq => exact hpoll.of_eq heq
      · next heq =>
        have hdone := hpoll.of_eq heq
        dsimp only
        split
        · exact hdone.congr rfl
        · split
          · exact hdone.congr rfl
          · exact ((hdone.updateConnection _ _).touch _).congr rfl
      · next heq => exact (hpoll.of_eq heq).congr rfl

theorem OneSlot.beginProcessRetransmissions (h : s.OneSlot) (now : UInt32) :
    (s.beginProcessRetransmissions now).2.OneSlot := by
  unfold TransportLayer.beginProcessRetransmissions
  split
  · exact h
  · split
    · exact h
    · exact (h.withDueTable now).congr rfl

theorem OneSlot.pollProcessRetransmissions (h : s.OneSlot) :
    s.pollProcessRetransmissions.2.OneSlot := by
  have hpoll := h.networkPoll
  unfold TransportLayer.pollProcessRetransmissions
  split
  · exact h
  · split
    · exact h
    · split
      · split
        · next heq => exact hpoll.of_eq heq
        · next heq =>
          apply OneSlot.startNextRepetition
          exact ((hpoll.of_eq heq).markRepeated _ _).congr rfl
        · next heq => exact (hpoll.of_eq heq).congr rfl
      · exact h.startNextRepetition _

theorem OneSlot.awaitResponse {r : Result Unit × TransportLayer} (h : r.2.OneSlot) :
    (awaitResponse r).OneSlot := by
  unfold TransportLayer.awaitResponse
  split
  · exact h.congr rfl
  · exact h.congr rfl

theorem OneSlot.beginHandleNumberedData (h : s.OneSlot) (a : IndividualAddress) (seqNum : UInt8)
    (tpdu : FixedVector UInt8 maxFrameSize) (priority : Priority) :
    (s.beginHandleNumberedData a seqNum tpdu priority).OneSlot := by
  unfold TransportLayer.beginHandleNumberedData
  split
  · exact h.congr rfl
  · next e _ =>
    have hstart : OneSlot { (s.updateEntry a (fun c => { c with priority := priority })).touch
        e.index with receiveOperation.connectionIndex := e.index } :=
      ((h.updateEntry a _).touch _).congr rfl
    dsimp only
    split
    · exact hstart.congr rfl
    · next heq =>
      apply OneSlot.awaitResponse
      exact (hstart.withDuplicateCheck heq).networkBegin _
    · next heq =>
      have hcheck := hstart.withDuplicateCheck heq
      split
      · apply OneSlot.awaitResponse
        exact hcheck.networkBegin _
      · apply OneSlot.awaitResponse
        apply OneSlot.networkBegin
        exact hcheck.congr rfl

theorem OneSlot.beginHandleNetworkRx (h : s.OneSlot) (frame : NDataFrame) :
    (s.beginHandleNetworkRx frame).2.OneSlot := by
  unfold TransportLayer.beginHandleNetworkRx
  split
  · exact h
  · split
    · exact h
    · have hstart : OneSlot { s with
          receiveOperation := { active := true, terminalState := .success } } := h.congr rfl
      dsimp only
      split
      · exact hstart
      · split
        · exact hstart.startClock.beginHandleNumberedData _ _ _ _
        · exact hstart.startClock.handleNetworkRx frame

theorem OneSlot.finalizeReceiveOperation (h : s.OneSlot) :
    s.finalizeReceiveOperation.OneSlot := by
  unfold TransportLayer.finalizeReceiveOperation
  split
  · exact h
  · dsimp only
    have hadvance : OneSlot (if s.receiveOperation.advanceExpectedSequence = true then
        s.updateConnection s.receiveOperation.connectionIndex
          (fun c => { c with expectedRxSeq := (c.expectedRxSeq + 1) &&& 0x0F }) else s) := by
      split
      · exact h.updateConnection _ _
      · exact h
    split
    · exact (hadvance.transformAndDeliver _).congr rfl
    · exact hadvance.congr rfl

theorem OneSlot.pollHandleNetworkRx (h : s.OneSlot) : s.pollHandleNetworkRx.2.OneSlot := by
  have hpoll := h.networkPoll
  unfold TransportLayer.pollHandleNetworkRx
  split
  · exact h
  · split
    · exact h
    · split
      · split
        · next heq => exact hpoll.of_eq heq
        · next heq => exact (hpoll.of_eq heq).finalizeReceiveOperation
        · next heq => exact (hpoll.of_eq heq).finalizeReceiveOperation
      · exact h.finalizeReceiveOperation

theorem OneSlot.init (h : s.OneSlot) (a : IndividualAddress) : (s.init a).2.OneSlot := by
  unfold TransportLayer.init
  split
  · exact h
  · exact ⟨Nat.zero_le _, le_refl 1, show (0 : UInt8).toNat < 16 by decide⟩

theorem OneSlot.close (h : s.OneSlot) : s.close.OneSlot := by
  unfold TransportLayer.close
  split
  · exact h.congr rfl
  · exact h

theorem OneSlot.popReceivedFrame (h : s.OneSlot) : s.popReceivedFrame.2.OneSlot := by
  unfold TransportLayer.popReceivedFrame
  split
  · exact h
  · exact h.congr rfl

end OneSlotSteps

theorem oneSlot_step (s : TransportLayer) (c : Call) (h : s.OneSlot) : (s.step c).OneSlot := by
  cases c with
  | init a => exact h.init a
  | setOwnAddress a => exact h.congr rfl
  | close => exact h.close
  | setReceiveCallback installed => exact h.congr rfl
  | setTxTransform t => exact h.congr rfl
  | setRxTransform t => exact h.congr rfl
  | sendFrame f => exact h.sendFrame f
  | beginTransmit f => exact h.beginTransmit f
  | pollTransmit => exact h.pollTransmit
  | connect a => exact h.connect a
  | beginConnect a => exact h.beginConnect a
  | pollConnect => exact h.pollConnect
  | disconnect i => exact h.disconnect i
  | sendConnectedData i d => exact h.sendConnectedData i d
  | beginSendConnectedData i d => exact h.beginSendConnectedData i d
  | pollConnectedDataSend => exact h.pollConnectedDataSend
  | processRetransmissions now => exact h.processRetransmissions now
  | beginProcessRetransmissions now => exact h.beginProcessRetransmissions now
  | pollProcessRetransmissions => exact h.pollProcessRetransmissions
  | handleNetworkRx f => exact h.handleNetworkRx f
  | beginHandleNetworkRx f => exact h.beginHandleNetworkRx f
  | pollHandleNetworkRx => exact h.pollHandleNetworkRx
  | popReceivedFrame => exact h.popReceivedFrame

theorem reachable_oneSlot {s : TransportLayer} (h : s.Reachable) : s.OneSlot := by
  obtain ⟨network, calls, rfl⟩ := h
  have hinit : OneSlot { network := network } :=
    ⟨Nat.zero_le _, Nat.zero_le _, show (0 : UInt8).toNat < 16 by decide⟩
  exact run_invariant oneSlot_step hinit calls

end TransportLayer

end KnxStack.Transport
