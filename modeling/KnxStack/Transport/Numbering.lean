import KnxStack.Transport.ReceiveSafety

/-!
# Numbering of sent data

The data TPDUs of a connection are numbered 0, 1, 2, … modulo sixteen. Three ways of sending share
the counter of the connection: `sendFrame` leaves it to the arriving `T_ACK` to advance it, while
`sendConnectedData` and `pollConnectedDataSend` advance it themselves, and the `T_ACK` advances it
once more. `numbers_consecutive` covers the runs in which no `T_ACK` arrives for a TPDU of the
latter kind.
-/

set_option autoImplicit false

namespace KnxStack.Transport

open KnxStack.Lib KnxStack.Lib.Words KnxStack.Protocol KnxStack.Datalink

namespace TransportLayer

/-- Number of a data TPDU to a device. -/
def dataNumber (remote : IndividualAddress) (f : NDataFrame) : Option UInt8 :=
  if f.dlFrame.destinationType = .individual ∧ f.dlFrame.destination.raw = remote.raw then
    match classify f.dlFrame.tpdu.data with
    | .tDataConnected seqNum => some seqNum
    | _ => none
  else none

/-- Numbers of the data TPDUs to a device that went out after the first `base` frames. -/
def sentNumbers (remote : IndividualAddress) (base : Nat) (s : TransportLayer) : List UInt8 :=
  (s.network.sent.drop base).filterMap (dataNumber remote)

/-- The first numbers of a connection. -/
def firstNumbers (count : Nat) : List UInt8 :=
  (List.range count).map (fun i => UInt8.ofNat (i % 16))

/-- The numbers are 0, 1, 2, … modulo sixteen. -/
def Consecutive (numbers : List UInt8) : Prop := numbers = firstNumbers numbers.length

instance (numbers : List UInt8) : Decidable (Consecutive numbers) :=
  inferInstanceAs (Decidable (_ = _))

/-- A connection that has just been opened, on a network that takes every frame, with no
transmission in flight. -/
structure FreshlyOpened (remote : IndividualAddress) (s : TransportLayer) : Prop where
  initialized : s.initialized = true
  reliable : s.network.Reliable
  noFlight : s.network.inFlight = none
  noSend : s.connectedSendOperation.active = false
  opened : ∃ e, s.connectionTable.connections = [e] ∧ e.remoteAddress = remote ∧
    e.stateMachine.state = .connected ∧ e.sequenceNumber = 0 ∧ e.pendingRetransmission = false

/-- No TPDU awaits its acknowledgement and none is in flight. -/
def NothingPending (s : TransportLayer) : Prop :=
  s.connectedSendOperation.active = false ∧
    ∀ e ∈ s.connectionTable.connections, e.pendingRetransmission = false

instance (s : TransportLayer) : Decidable (NothingPending s) :=
  inferInstanceAs (Decidable (_ ∧ _))

/-- Calls of a run that sends data on the connection only when no earlier TPDU is pending, and
receives acknowledgements. -/
def OneAtATime (s : TransportLayer) : Call → Prop
  | .sendFrame frame => NothingPending s ∧ (s.connectionFor frame).isSome = true
  | .sendConnectedData _ _ => NothingPending s
  | .beginSendConnectedData _ _ => NothingPending s
  | .pollConnectedDataSend => True
  | .handleNetworkRx frame =>
      ∃ seqNum, classify frame.dlFrame.tpdu.data = .tAck seqNum ∨
        classify frame.dlFrame.tpdu.data = .tNak seqNum
  | _ => False

/-- A `T_ACK` that is taken finds the counter of the connection still at the number it acknowledges,
as `sendFrame` leaves it. -/
def CounterUntouched (s : TransportLayer) : Call → Prop
  | .handleNetworkRx frame =>
      ∀ seqNum e, classify frame.dlFrame.tpdu.data = .tAck seqNum →
        s.connectionTable.findConnection frame.dlFrame.source = some e → awaits e seqNum →
        e.sequenceNumber = e.pendingSeq
  | _ => True

/-! ## Invariant -/

/-- Where the connection stands after `count` data TPDUs. -/
inductive Stage (count : Nat) (s : TransportLayer) (e : ConnectionEntry) : Prop where
  | idle (hop : s.connectedSendOperation.active = false) (hflight : s.network.inFlight = none)
      (hpend : e.pendingRetransmission = false) (hseq : e.sequenceNumber.toNat = count % 16)
  | sending (hop : s.connectedSendOperation.active = true)
      (hindex : s.connectedSendOperation.connectionIndex = e.index)
      (hopseq : s.connectedSendOperation.sequenceNumber = e.sequenceNumber)
      (hflight : ∃ f, s.network.inFlight = some f ∧
        dataNumber e.remoteAddress f = some e.sequenceNumber)
      (hpend : e.pendingRetransmission = false) (hseq : e.sequenceNumber.toNat = count % 16)
  | awaiting (hop : s.connectedSendOperation.active = false) (hflight : s.network.inFlight = none)
      (hpend : e.pendingRetransmission = true)
      (hseq : 0 < count ∧ e.pendingSeq.toNat = (count - 1) % 16)

/-- The connection after `count` data TPDUs. -/
structure Numbering (remote : IndividualAddress) (base count : Nat) (s : TransportLayer) :
    Prop where
  initialized : s.initialized = true
  reliable : s.network.Reliable
  base_le : base ≤ s.network.sent.length
  numbers : sentNumbers remote base s = firstNumbers count
  entry : ∃ e, s.connectionTable.connections = [e] ∧ e.remoteAddress = remote ∧
    e.stateMachine.state = .connected ∧ Stage count s e

theorem FreshlyOpened.numbering {remote : IndividualAddress} {s : TransportLayer}
    (h : FreshlyOpened remote s) : Numbering remote s.network.sent.length 0 s := by
  rcases h.opened with ⟨e, hconn, haddr, hopen, hseq, hpend⟩
  refine ⟨h.initialized, h.reliable, le_refl _, ?_, e, hconn, haddr, hopen,
    .idle h.noSend h.noFlight hpend ?_⟩
  · simp [sentNumbers, firstNumbers]
  · rw [hseq]
    rfl

theorem Numbering.consecutive {remote : IndividualAddress} {base count : Nat} {s : TransportLayer}
    (h : Numbering remote base count s) : Consecutive (sentNumbers remote base s) := by
  rw [Consecutive, h.numbers]
  simp [firstNumbers]

theorem firstNumbers_succ (count : Nat) :
    firstNumbers (count + 1) = firstNumbers count ++ [UInt8.ofNat (count % 16)] := by
  simp [firstNumbers, List.range_succ]

section Steps

variable {remote : IndividualAddress} {base count : Nat} {s s' : TransportLayer}

theorem Numbering.of_silent (h : Numbering remote base count s) (out : List NDataFrame)
    {e' : ConnectionEntry} (hinit : s'.initialized = s.initialized) (hrel : s'.network.Reliable)
    (hsent : s'.network.sent = s.network.sent ++ out)
    (hout : out.filterMap (dataNumber remote) = [])
    (hconn : s'.connectionTable.connections = [e']) (haddr : e'.remoteAddress = remote)
    (hopen : e'.stateMachine.state = .connected) (hstage : Stage count s' e') :
    Numbering remote base count s' := by
  refine ⟨hinit.trans h.initialized, hrel, ?_, ?_, e', hconn, haddr, hopen, hstage⟩
  · rw [hsent, List.length_append]
    exact h.base_le.trans (Nat.le_add_right _ _)
  · rw [sentNumbers, hsent, List.drop_append_of_le_length h.base_le, List.filterMap_append, hout,
      List.append_nil]
    exact h.numbers

theorem Numbering.of_data (h : Numbering remote base count s) {f : NDataFrame}
    {e' : ConnectionEntry} (hinit : s'.initialized = s.initialized) (hrel : s'.network.Reliable)
    (hsent : s'.network.sent = s.network.sent ++ [f])
    (hnumber : dataNumber remote f = some (UInt8.ofNat (count % 16)))
    (hconn : s'.connectionTable.connections = [e']) (haddr : e'.remoteAddress = remote)
    (hopen : e'.stateMachine.state = .connected) (hstage : Stage (count + 1) s' e') :
    Numbering remote base (count + 1) s' := by
  refine ⟨hinit.trans h.initialized, hrel, ?_, ?_, e', hconn, haddr, hopen, hstage⟩
  · rw [hsent, List.length_append]
    exact h.base_le.trans (Nat.le_add_right _ _)
  · have hnew : [f].filterMap (dataNumber remote) = [UInt8.ofNat (count % 16)] := by
      simp [hnumber]
    rw [sentNumbers, hsent, List.drop_append_of_le_length h.base_le, List.filterMap_append, hnew,
      firstNumbers_succ, ← h.numbers]
    rfl

/-! ## Sends -/

theorem dataNumber_numberedDataFrame (own remote : IndividualAddress) {seqNum : UInt8}
    (h : seqNum.toNat < 16) (apciRaw : UInt16) (payload : FixedVector UInt8 maxApduLength)
    (priority : Priority) :
    dataNumber remote (numberedDataFrame own remote seqNum apciRaw payload priority)
      = some seqNum := by
  have hclass : classify (numberedDataFrame own remote seqNum apciRaw payload
      priority).dlFrame.tpdu.data = .tDataConnected seqNum := classify_numberedData h _ _
  rw [dataNumber, if_pos ⟨rfl, rfl⟩, hclass]

theorem dataNumber_numberedFrame {e : ConnectionEntry} {frame work : TDataFrame}
    {hook : TransformHook} (hfor : s.connectionFor frame = some e)
    (hdest : remote = ⟨frame.destination.raw⟩)
    (hwork : s.transformedFor frame e = (.ok work, hook)) :
    dataNumber remote (numberedFrame e work) = some (e.sequenceNumber &&& 0x0F) := by
  -- the hook has changed neither the destination nor its type
  rcases TransformHook.apply_ok (congrArg Prod.fst hwork) with ⟨tpdu, security, rfl⟩
  have htype := (findConnection_of_connectionFor hfor).2.2
  have hclass := classify_numberedData (and_fifteen_lt e.sequenceNumber)
    (tpduHeaderOf tpdu.data).apci (tpduPayloadOf tpdu).data
  rw [dataNumber, if_pos ⟨htype, by rw [hdest]; rfl⟩]
  have htpdu : (numberedFrame e { frame with securityTpci6 := numberedTpci6 e.sequenceNumber
                                             tpdu := tpdu
                                             security := security }).dlFrame.tpdu.data
      = buildTpdu (.create .numberedData (e.sequenceNumber &&& 0x0F)) (tpduHeaderOf tpdu.data).apci
          (tpduPayloadOf tpdu).data := rfl
  rw [htpdu, hclass]

/-- An entry of a connection on which nothing is pending. -/
structure IdleEntry (remote : IndividualAddress) (count : Nat) (s : TransportLayer)
    (e : ConnectionEntry) : Prop where
  conn : s.connectionTable.connections = [e]
  addr : e.remoteAddress = remote
  opened : e.stateMachine.state = .connected
  noSend : s.connectedSendOperation.active = false
  noFlight : s.network.inFlight = none
  noPending : e.pendingRetransmission = false
  number : e.sequenceNumber.toNat = count % 16

theorem Numbering.idleEntry (h : Numbering remote base count s) (hidle : NothingPending s) :
    ∃ e, IdleEntry remote count s e := by
  rcases h.entry with ⟨e, hconn, haddr, hopen, hstage⟩
  refine ⟨e, ?_⟩
  have hpend := hidle.2 e (by rw [hconn]; exact List.mem_cons_self)
  cases hstage with
  | idle hop hflight hp hseq => exact ⟨hconn, haddr, hopen, hop, hflight, hp, hseq⟩
  | sending hop => rw [hidle.1] at hop; cases hop
  | awaiting _ _ hp => rw [hpend] at hp; cases hp

theorem IdleEntry.next {e : ConnectionEntry} (h : IdleEntry remote count s e) :
    e.sequenceNumber &&& 0x0F = UInt8.ofNat (count % 16) ∧
      (e.sequenceNumber &&& 0x0F).toNat = count % 16 := by
  have hlt : count % 16 < 16 := Nat.mod_lt _ (by decide)
  have hmask : e.sequenceNumber &&& 0x0F = e.sequenceNumber := by
    apply and_fifteen_of_lt
    rw [h.number]
    exact hlt
  rw [hmask]
  refine ⟨?_, h.number⟩
  rw [← h.number, UInt8.ofNat_toNat]

theorem Numbering.sendFrame (h : Numbering remote base count s) {frame : TDataFrame}
    (hidle : NothingPending s) (hfor : (s.connectionFor frame).isSome = true) :
    ∃ count', Numbering remote base count' (s.sendFrame frame).2 := by
  rcases h.idleEntry hidle with ⟨e, he⟩
  have hs := withEntry_eq_self he.conn
  rcases Option.isSome_iff_exists.mp hfor with ⟨e', hfor⟩
  -- the connection the frame is put on is this one
  have hfind := (findConnection_of_connectionFor hfor).1
  rw [← hs, findConnection_withEntry] at hfind
  split at hfind
  · next hdest =>
    cases hfind
    obtain ⟨r, hook, htrans⟩ : ∃ r hook, s.transformedFor frame e = (r, hook) := ⟨_, _, rfl⟩
    have happly : s.txHook.apply { frame with securityTpci6 := numberedTpci6 e.sequenceNumber }
        = (r, hook) := htrans
    cases r with
    | error err =>
      -- refused by the hook
      have hbuild : s.buildNetworkTxFrame frame = (.error err, { s with txHook := hook }) := by
        simp only [buildNetworkTxFrame, hfor, happly]
      refine ⟨count, ?_⟩
      rw [sendFrame_of_refused h.initialized hbuild]
      exact ⟨h.initialized, h.reliable, h.base_le, h.numbers, e, he.conn, he.addr, he.opened,
        .idle he.noSend he.noFlight he.noPending he.number⟩
    | ok work =>
      by_cases hne : work.tpdu.data = []
      · -- emptied by the hook: no data TPDU
        have hbuild : s.buildNetworkTxFrame frame
            = (.ok (toNetworkFrame work), { s with txHook := hook }) := by
          simp only [buildNetworkTxFrame, hfor, happly, hne, if_true]
        have hnone : [toNetworkFrame work].filterMap (dataNumber remote) = [] := by
          have hclass : classify (toNetworkFrame work).dlFrame.tpdu.data = .connectionless := by
            have : (toNetworkFrame work).dlFrame.tpdu.data = [] := hne
            rw [this, classify_nil]
          simp [dataNumber, hclass]
        refine ⟨count, ?_⟩
        rw [sendFrame_of_build h.initialized hbuild,
          networkSend_of_reliable (s := { s with txHook := hook }) h.reliable]
        exact h.of_silent [toNetworkFrame work] rfl (h.reliable.put _) rfl hnone he.conn he.addr he.opened
          (.idle he.noSend he.noFlight he.noPending he.number)
      · have hbuild := buildNetworkTxFrame_on_connection (s := s) (e := e) (by rw [hs]; exact hfor)
          htrans hne
        rw [hs] at hbuild
        refine ⟨count + 1, ?_⟩
        rw [sendFrame_of_build h.initialized hbuild, networkSend_withEntry,
          networkSend_of_reliable (s := { s with txHook := hook }) h.reliable]
        refine h.of_data rfl (h.reliable.put _) rfl ?_ rfl he.addr he.opened
          (.awaiting he.noSend he.noFlight rfl ⟨Nat.succ_pos _, ?_⟩)
        · rw [dataNumber_numberedFrame hfor (he.addr.symm.trans hdest) htrans, he.next.1]
        · exact he.next.2
  · cases hfind

theorem IdleEntry.checked {e : ConnectionEntry} (h : IdleEntry remote count s e)
    {index : ConnectionIndex} {e' : ConnectionEntry} (hcheck : s.connectedDataEntry index = .ok e') :
    e.index = index := by
  have hget := (connectedDataEntry_eq_ok.mp hcheck).1
  rw [← withEntry_eq_self h.conn, getConnection_withEntry] at hget
  split at hget
  · next hindex => exact hindex
  · cases hget

theorem IdleEntry.free {e : ConnectionEntry} (h : IdleEntry remote count s e) :
    ¬ (e.pendingRetransmission = true ∧ e.pendingData.data ≠ []) := by
  rintro ⟨hp, -⟩
  rw [h.noPending] at hp
  cases hp

theorem Numbering.sendConnectedData (h : Numbering remote base count s)
    (hidle : NothingPending s) (index : ConnectionIndex) (data : List UInt8) :
    ∃ count', Numbering remote base count' (s.sendConnectedData index data).2 := by
  rcases h.idleEntry hidle with ⟨e, he⟩
  have hs := withEntry_eq_self he.conn
  by_cases hgo : data.length ≤ maxApduLength ∧ ∃ e', s.connectedDataEntry index = .ok e'
  · rcases hgo with ⟨hlen, e', hcheck⟩
    have hindex := he.checked hcheck
    subst hindex
    have hsend := sendConnectedData_free s e h.initialized hlen he.opened he.free
    rw [networkSend_of_reliable h.reliable, hs] at hsend
    refine ⟨count + 1, ?_⟩
    rw [hsend]
    refine h.of_data rfl (h.reliable.put _) rfl ?_ rfl he.addr he.opened
      (.awaiting he.noSend he.noFlight rfl ⟨Nat.succ_pos _, he.next.2⟩)
    rw [he.addr, dataNumber_numberedDataFrame _ _ (and_fifteen_lt _), he.next.1]
  · rw [sendConnectedData_refused hgo]
    exact ⟨count, h⟩

theorem Numbering.beginSendConnectedData (h : Numbering remote base count s)
    (hidle : NothingPending s) (index : ConnectionIndex) (data : List UInt8) :
    ∃ count', Numbering remote base count' (s.beginSendConnectedData index data).2 := by
  rcases h.idleEntry hidle with ⟨e, he⟩
  have hs := withEntry_eq_self he.conn
  refine ⟨count, ?_⟩
  by_cases hgo : data.length ≤ maxApduLength ∧ ∃ e', s.connectedDataEntry index = .ok e'
  · rcases hgo with ⟨hlen, e', hcheck⟩
    have hindex := he.checked hcheck
    subst hindex
    have hbegin := beginSendConnectedData_free h.initialized he.noSend hlen he.opened he.free
    rw [networkBegin_of_reliable h.reliable he.noFlight, hs] at hbegin
    rw [hbegin]
    have hmask : e.sequenceNumber &&& 0x0F = e.sequenceNumber := by
      apply and_fifteen_of_lt
      rw [he.number]
      exact Nat.mod_lt _ (by decide)
    refine h.of_silent [] rfl (h.reliable.launch _) (List.append_nil _).symm rfl rfl he.addr
      he.opened (.sending rfl rfl hmask ⟨_, rfl, ?_⟩ he.noPending he.number)
    rw [dataNumber_numberedDataFrame _ _ (and_fifteen_lt _), hmask]
  · rw [beginSendConnectedData_refused hgo]
    exact h

theorem Numbering.pollConnectedDataSend (h : Numbering remote base count s) :
    ∃ count', Numbering remote base count' s.pollConnectedDataSend.2 := by
  rcases h.entry with ⟨e, hconn, haddr, hopen, hstage⟩
  have hs := withEntry_eq_self hconn
  by_cases hactive : s.connectedSendOperation.active = true
  · cases hstage with
    | idle hop => rw [hop] at hactive; cases hactive
    | awaiting hop => rw [hop] at hactive; cases hactive
    | sending hop hindex hopseq hflight hpend hseq =>
      rcases hflight with ⟨f, hflight, hnumber⟩
      rcases h.reliable.pollTransmit_cases hflight with ⟨-, hpoll⟩ | hpoll
      · -- still in flight
        have hstep : s.pollConnectedDataSend
            = (.ok .pending, { s with
                network := { s.network with progress := s.network.progress.tail } }) := by
          simp only [TransportLayer.pollConnectedDataSend, h.initialized, hop, Bool.not_true,
            Bool.false_eq_true, if_false, networkPoll, hpoll]
        rw [hstep]
        exact ⟨count, h.of_silent [] rfl h.reliable.wait (List.append_nil _).symm rfl hconn haddr
          hopen (.sending hop hindex hopseq ⟨f, hflight, hnumber⟩ hpend hseq)⟩
      · -- the next data TPDU is out
        have hstep := pollConnectedDataSend_success (s := s) (e := e) h.initialized hop hindex hopen
          hpoll
        rw [hs] at hstep
        have hnext : e.sequenceNumber = UInt8.ofNat (count % 16) := by
          rw [← hseq, UInt8.ofNat_toNat]
        refine ⟨count + 1, ?_⟩
        rw [hstep]
        refine h.of_data rfl (h.reliable.land f) rfl ?_ rfl haddr hopen
          (.awaiting rfl rfl rfl ⟨Nat.succ_pos _, ?_⟩)
        · rw [← haddr, hnumber, hnext]
        · rw [Nat.add_sub_cancel, ← hseq, ← hopseq]
          rfl
  · have hsame : s.pollConnectedDataSend.2 = s := by
      simp only [TransportLayer.pollConnectedDataSend, h.initialized, hactive, Bool.not_true,
        Bool.false_eq_true, if_false, Bool.not_false, if_true]
    rw [hsame]
    exact ⟨count, h⟩

/-! ## Acknowledgements -/

theorem Stage.congr {e e' : ConnectionEntry} (h : Stage count s e)
    (hop : s'.connectedSendOperation = s.connectedSendOperation) (hnet : s'.network = s.network)
    (haddr : e'.remoteAddress = e.remoteAddress) (hindex : e'.index = e.index)
    (hseq : e'.sequenceNumber = e.sequenceNumber) (hpseq : e'.pendingSeq = e.pendingSeq)
    (hpend : e'.pendingRetransmission = e.pendingRetransmission) : Stage count s' e' := by
  cases h with
  | idle h1 h2 h3 h4 =>
    exact .idle (by rw [hop, h1]) (by rw [hnet, h2]) (by rw [hpend, h3]) (by rw [hseq, h4])
  | sending h1 h2 h3 h4 h5 h6 =>
    exact .sending (by rw [hop, h1]) (by rw [hop, h2, hindex]) (by rw [hop, h3, hseq])
      (by rw [hnet, haddr, hseq]; exact h4) (by rw [hpend, h5]) (by rw [hseq, h6])
  | awaiting h1 h2 h3 h4 =>
    exact .awaiting (by rw [hop, h1]) (by rw [hnet, h2]) (by rw [hpend, h3])
      (by rw [hpseq]; exact h4)

/-- A `T_ACK` of the peer makes the connection idle again, with the next number, or is ignored. -/
theorem Stage.acked {e : ConnectionEntry} (h : Stage count s e) (seqNum : UInt8) (now : UInt32)
    (hop : s'.connectedSendOperation = s.connectedSendOperation) (hnet : s'.network = s.network)
    (hcounter : awaits e seqNum → e.sequenceNumber = e.pendingSeq) :
    Stage count s' (stamped (ackedEntry e seqNum) now) := by
  by_cases hawaits : awaits e seqNum
  · cases h with
    | idle _ _ hp => rw [hawaits.1] at hp; cases hp
    | sending _ _ _ _ hp => rw [hawaits.1] at hp; cases hp
    | awaiting hop' hflight hp hseq =>
      rw [ackedEntry, if_pos hawaits]
      refine .idle (by rw [hop, hop']) (by rw [hnet, hflight]) rfl ?_
      -- the counter moves on from the number just acknowledged
      have hsucc := toNat_succ_and_fifteen e.sequenceNumber
      rw [hcounter hawaits, hseq.2] at hsucc
      have hpos := hseq.1
      rw [stamped, hcounter hawaits, hsucc]
      omega
  · rw [ackedEntry, if_neg hawaits]
    exact h.congr hop hnet rfl rfl rfl rfl rfl

theorem Stage.naked {e : ConnectionEntry} (h : Stage count s e) (seqNum : UInt8)
    (now now' : UInt32) (hop : s'.connectedSendOperation = s.connectedSendOperation)
    (hnet : s'.network = s.network) : Stage count s' (stamped (nakedEntry e seqNum now) now') := by
  unfold nakedEntry
  split
  · exact h.congr hop hnet rfl rfl rfl rfl rfl
  · exact h.congr hop hnet rfl rfl rfl rfl rfl

theorem Numbering.handleNetworkRx (h : Numbering remote base count s) {frame : NDataFrame}
    (hframe : OneAtATime s (.handleNetworkRx frame))
    (hcounter : CounterUntouched s (.handleNetworkRx frame)) :
    Numbering remote base count (s.handleNetworkRx frame) := by
  rcases h.entry with ⟨e, hconn, haddr, hopen, hstage⟩
  have hs := withEntry_eq_self hconn
  have hfind : s.connectionTable.findConnection frame.dlFrame.source
      = if e.remoteAddress = frame.dlFrame.source then some e else none := by
    rw [← hs, findConnection_withEntry]
  have hne : frame.dlFrame.tpdu.data ≠ [] := by
    intro hnil
    rcases hframe with ⟨seqNum, hack | hnak⟩
    · rw [hnil, classify_nil] at hack
      cases hack
    · rw [hnil, classify_nil] at hnak
      cases hnak
  have hclock : s.startClock = (s.withTime s.startClock.timebaseMs).withEntry e := by
    rw [← withTime_withEntry, hs, ← startClock_eq_withTime]
  rw [handleNetworkRx_eq_dispatch h.initialized hne, hclock]
  rcases hframe with ⟨seqNum, hack | hnak⟩
  · simp only [dispatch, hack]
    by_cases hsource : e.remoteAddress = frame.dlFrame.source
    · rw [← hsource, handleAck_self]
      rcases ackedEntry_fields e seqNum with ⟨haddr', -, hstate'⟩
      refine h.of_silent [] rfl h.reliable (List.append_nil _).symm rfl rfl ?_ ?_ ?_
      · exact haddr'.trans haddr
      · rw [stamped, hstate', hopen]
      · refine Stage.acked hstage seqNum _ ?_ ?_ ?_
        · rfl
        · rfl
        · intro hawaits
          exact hcounter seqNum e hack (by rw [hfind, if_pos hsource]) hawaits
    · rw [handleAck_other _ seqNum hsource]
      refine h.of_silent [] rfl h.reliable (List.append_nil _).symm rfl rfl haddr hopen ?_
      exact hstage.congr rfl rfl rfl rfl rfl rfl rfl
  · simp only [dispatch, hnak]
    by_cases hsource : e.remoteAddress = frame.dlFrame.source
    · rw [← hsource, handleNak_self]
      rcases nakedEntry_fields e seqNum s.startClock.timebaseMs with ⟨haddr', -, hstate'⟩
      refine h.of_silent [] rfl h.reliable (List.append_nil _).symm rfl rfl ?_ ?_ ?_
      · exact haddr'.trans haddr
      · rw [stamped, timebaseMs_withTime, hstate', hopen]
      · refine Stage.naked hstage seqNum _ _ ?_ ?_
        · rfl
        · rfl
    · rw [handleNak_other _ seqNum hsource]
      refine h.of_silent [] rfl h.reliable (List.append_nil _).symm rfl rfl haddr hopen ?_
      exact hstage.congr rfl rfl rfl rfl rfl rfl rfl

theorem Numbering.step (h : Numbering remote base count s) {c : Call} (hc : OneAtATime s c)
    (hcounter : CounterUntouched s c) : ∃ count', Numbering remote base count' (s.step c) := by
  cases c with
  | sendFrame frame => exact h.sendFrame hc.1 hc.2
  | sendConnectedData index data => exact h.sendConnectedData hc index data
  | beginSendConnectedData index data => exact h.beginSendConnectedData hc index data
  | pollConnectedDataSend => exact h.pollConnectedDataSend
  | handleNetworkRx frame => exact ⟨count, h.handleNetworkRx hc hcounter⟩
  | _ => exact absurd hc id

end Steps

/-- Numbering. In a run that sends data only when none is pending and in which every `T_ACK`
finds the counter untouched, the data TPDUs of the connection are numbered 0, 1, 2, … modulo
sixteen in every state. -/
theorem numbers_consecutive {remote : IndividualAddress} {s : TransportLayer}
    (hs : FreshlyOpened remote s) (calls : List Call) (hcalls : Along step OneAtATime s calls)
    (hcounter : Along step CounterUntouched s calls) :
    Consecutive (sentNumbers remote s.network.sent.length (run step s calls)) := by
  have hstep : ∀ (t : TransportLayer) (c : Call),
      (∃ count, Numbering remote s.network.sent.length count t) →
      OneAtATime t c ∧ CounterUntouched t c →
      ∃ count, Numbering remote s.network.sent.length count (t.step c) := by
    rintro t c ⟨count, h⟩ ⟨hc, hfirst⟩
    exact h.step hc hfirst
  rcases run_invariant_along hstep ⟨0, hs.numbering⟩ (hcalls.and hcounter) with ⟨count, h⟩
  exact h.consecutive

theorem freshlyOpened_openedByPeer : FreshlyOpened ⟨0x1102⟩ openedByPeer where
  initialized := by decide
  reliable := ⟨by decide, by decide⟩
  noFlight := by decide
  noSend := by decide
  opened := by
    have hlen : openedByPeer.connectionTable.connections.length = 1 := by decide
    obtain ⟨e, he⟩ := List.length_eq_one_iff.mp hlen
    have hall : ∀ e ∈ openedByPeer.connectionTable.connections, e.remoteAddress = ⟨0x1102⟩ ∧
        e.stateMachine.state = .connected ∧ e.sequenceNumber = 0 ∧
        e.pendingRetransmission = false := by decide
    exact ⟨e, he, hall e (by rw [he]; exact List.mem_cons_self)⟩

/-- Frame that answers 1.1.2 on the connection, with the given TPDU. -/
def answerFrame (tpdu : List UInt8) : TDataFrame :=
  { service := .connected, source := ⟨0x1101⟩, destination := ⟨0x1102⟩,
    destinationType := .individual, tpdu := (FixedVector.clear.assign tpdu).2 }

/-- Two frames, the first of them acknowledged in between: numbers 0 and 1. -/
theorem numbers_consecutive_two :
    Consecutive (sentNumbers ⟨0x1102⟩ openedByPeer.network.sent.length
      (run step openedByPeer [.sendFrame (answerFrame [0x03, 0x40, 0x07]),
        .handleNetworkRx (fromPeer [0xC2]), .sendFrame (answerFrame [0x03, 0x40, 0x08])])) := by
  apply numbers_consecutive freshlyOpened_openedByPeer
  · refine ⟨⟨by decide, by decide⟩, ⟨0, Or.inl (by decide)⟩, ⟨by decide, by decide⟩, trivial⟩
  · refine ⟨trivial, ?_, trivial, trivial⟩
    intro seqNum e _ hfind _
    have hall : ∀ e ∈ (openedByPeer.step
        (.sendFrame (answerFrame [0x03, 0x40, 0x07]))).connectionTable.connections,
        e.sequenceNumber = e.pendingSeq := by decide
    exact hall e (List.mem_of_find?_eq_some hfind)

/-- Two octets sent with `sendConnectedData`, the first acknowledged before the second is sent: the
numbers are 0 and 2. -/
theorem number_skipped :
    Along step OneAtATime openedByPeer
        [.sendConnectedData ⟨0⟩ [1], .handleNetworkRx (fromPeer [0xC2]),
          .sendConnectedData ⟨0⟩ [2]] ∧
      ¬ Consecutive (sentNumbers ⟨0x1102⟩ openedByPeer.network.sent.length
        (run step openedByPeer
          [.sendConnectedData ⟨0⟩ [1], .handleNetworkRx (fromPeer [0xC2]),
            .sendConnectedData ⟨0⟩ [2]])) := by
  constructor
  · have hfirst : NothingPending openedByPeer := by decide
    have hsecond : NothingPending ((openedByPeer.step (.sendConnectedData ⟨0⟩ [1])).step
        (.handleNetworkRx (fromPeer [0xC2]))) := by decide
    exact ⟨hfirst, ⟨0, Or.inl (by decide)⟩, hsecond, trivial⟩
  · decide

end TransportLayer

end KnxStack.Transport
