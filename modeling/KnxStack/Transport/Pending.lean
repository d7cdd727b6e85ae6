import KnxStack.Transport.ReceiveSafety

/-!
# The pending TPDU

A data TPDU that has been accepted on a connection is kept until the peer acknowledges it. The slot
it is kept in belongs to the connection, so it must survive every other send, every received frame
and every maintenance call. `accepted_stays_pending` follows a TPDU through a run: it is given up
only with the connection, when the peer opens the connection anew, or when its repetitions are used
up.

Two sends write the slot without looking whether it is taken (`Overwrites`); runs with such a send
are left out.
-/

set_option autoImplicit false

namespace KnxStack.Transport

open KnxStack.Lib KnxStack.Lib.Words KnxStack.Protocol KnxStack.Datalink

namespace TransportLayer

/-- What is kept of a TPDU that awaits its acknowledgement. -/
structure PendingTpdu where
  seqNum : UInt8
  apciRaw : UInt16
  payload : FixedVector UInt8 maxApduLength
  deriving DecidableEq

/-- The TPDU an entry awaits the acknowledgement of. -/
def pendingTpdu (e : ConnectionEntry) : Option PendingTpdu :=
  if e.pendingRetransmission then some ⟨e.pendingSeq, e.pendingApciRaw, e.pendingData⟩ else none

/-- The TPDU pending on the connection with a device. -/
def pendingAt (s : TransportLayer) (remote : IndividualAddress) : Option PendingTpdu :=
  (s.connectionTable.findConnection remote).bind pendingTpdu

/-- Connection and TPDU of a send call that returns success with data for a connection. -/
def acceptedTpdu (s : TransportLayer) : Call → Option (IndividualAddress × PendingTpdu)
  | .sendFrame frame =>
      match (s.sendFrame frame).1, s.connectionFor frame with
      | .ok (), some e =>
          match (s.transformedFor frame e).1 with
          | .ok work =>
              if work.tpdu.data = [] then none
              else some (e.remoteAddress, ⟨e.sequenceNumber &&& 0x0F,
                (tpduHeaderOf work.tpdu.data).apci.raw, tpduPayloadOf work.tpdu⟩)
          | .error _ => none
      | _, _ => none
  | .sendConnectedData index data =>
      match (s.sendConnectedData index data).1, s.connectionTable.getConnection index with
      | .ok (), some e =>
          if h : data.length ≤ maxApduLength then
            some (e.remoteAddress, ⟨e.sequenceNumber &&& 0x0F, 0, ⟨data, h⟩⟩)
          else none
      | _, _ => none
  | _ => none

/-- The calls a TPDU is followed through. -/
def Call.isExchange : Call → Prop
  | .sendFrame frame => frame.service = .connected
  | .sendConnectedData _ _ => True
  | .handleNetworkRx _ => True
  | .processRetransmissions _ => True
  | _ => False

/-- The peer answers a TPDU with its own `T_ACK`, or opens the connection anew. -/
def PeerReleases (remote : IndividualAddress) (p : PendingTpdu) (s : TransportLayer) : Call → Prop
  | .handleNetworkRx frame =>
      frame.dlFrame.source = remote ∧
        (classify frame.dlFrame.tpdu.data = .tAck p.seqNum ∨
          classify frame.dlFrame.tpdu.data = .tConnect ∧ ControlActs s frame)
  | _ => False

/-- The call ends the wait for the acknowledgement of a TPDU: the peer releases it, or the
connection is gone after the call. -/
def Releases (remote : IndividualAddress) (p : PendingTpdu) (s : TransportLayer) (c : Call) : Prop :=
  PeerReleases remote p s c ∨ (s.step c).connectionTable.findConnection remote = none

/-- The maintenance call finds the TPDU due with its repetitions used up, and gives it up. -/
def GivesUp (remote : IndividualAddress) (s : TransportLayer) : Call → Prop
  | .processRetransmissions now =>
      ∃ e, s.connectionTable.findConnection remote = some e ∧
        ConnectionTable.isDue now e = true ∧ e.maxRetries ≤ e.retransmitCount
  | _ => False

/-- A send that writes the slot of a connection although a TPDU is pending there: a frame put on the
connection, which nothing checks, or data after a TPDU without payload, which the check takes for
an empty slot. -/
def Overwrites (s : TransportLayer) : Call → Prop
  | .sendFrame frame =>
      ∃ e, s.connectionFor frame = some e ∧ e.pendingRetransmission = true
  | .sendConnectedData index _ =>
      ∃ e, s.connectionTable.getConnection index = some e ∧ e.pendingRetransmission = true ∧
        e.pendingData.data = []
  | _ => False

/-! ## One call -/

theorem pendingAt_withEntry (s : TransportLayer) {e : ConnectionEntry} {remote : IndividualAddress}
    (h : e.remoteAddress = remote) : (s.withEntry e).pendingAt remote = pendingTpdu e := by
  simp [pendingAt, h]

theorem pendingAt_of_table {s s' : TransportLayer} (h : s'.connectionTable = s.connectionTable)
    (remote : IndividualAddress) : s'.pendingAt remote = s.pendingAt remote := by
  unfold pendingAt
  rw [h]

theorem OneSlot.entry_of_pendingAt {s : TransportLayer} (hslot : s.OneSlot)
    {remote : IndividualAddress} {p : PendingTpdu} (h : s.pendingAt remote = some p) :
    ∃ e, s.withEntry e = s ∧ e.remoteAddress = remote ∧ pendingTpdu e = some p := by
  obtain ⟨e, hfind, hp⟩ := Option.bind_eq_some_iff.mp h
  obtain ⟨hs, haddr⟩ := hslot.withEntry_of_find hfind
  exact ⟨e, hs, haddr, hp⟩

theorem pendingTpdu_eq_some {e : ConnectionEntry} {p : PendingTpdu} :
    pendingTpdu e = some p ↔
      e.pendingRetransmission = true ∧
        p = ⟨e.pendingSeq, e.pendingApciRaw, e.pendingData⟩ := by
  unfold pendingTpdu
  split
  · next h =>
    rw [Option.some_inj]
    exact ⟨fun heq => ⟨h, heq.symm⟩, fun heq => heq.2.symm⟩
  · next h =>
    constructor
    · intro heq
      cases heq
    · rintro ⟨hp, -⟩
      exact absurd hp h

theorem pendingTpdu_dueEntry {now : UInt32} {e : ConnectionEntry}
    (h : ConnectionTable.isDue now e = true → e.retransmitCount < e.maxRetries) :
    pendingTpdu (dueEntry now e) = pendingTpdu e := by
  unfold dueEntry
  by_cases hdue : ConnectionTable.isDue now e = true
  · rw [if_pos hdue, if_pos (h hdue)]
    rfl
  · rw [if_neg hdue]

theorem pendingTpdu_sendDue {s : TransportLayer} {now : UInt32} {e : ConnectionEntry}
    (h : ConnectionTable.isDue now e = true → e.retransmitCount < e.maxRetries) :
    pendingTpdu (sendDue s now e).2 = pendingTpdu e := by
  have hdue := pendingTpdu_dueEntry h
  unfold sendDue
  split
  · split
    · exact hdue
    · exact hdue
  · exact hdue

section OneCall

variable {s : TransportLayer} {e : ConnectionEntry}

theorem pendingAt_processRetransmissions (s : TransportLayer) (e : ConnectionEntry) (now : UInt32)
    (hkeep : ConnectionTable.isDue now e = true → e.retransmitCount < e.maxRetries) :
    ((s.withEntry e).processRetransmissions now).pendingAt e.remoteAddress = pendingTpdu e ∨
      ((s.withEntry e).processRetransmissions now).connectionTable.findConnection e.remoteAddress
        = none := by
  by_cases hinit : s.initialized = true
  · rw [processRetransmissions_withEntry s e now hinit, removeIdle_withEntry]
    split
    · exact Or.inr (findConnection_empty rfl _)
    · refine Or.inl ?_
      rw [pendingAt_withEntry _ (sendDue_fields (s.withTime now) now e).1,
        pendingTpdu_sendDue hkeep]
  · refine Or.inl ?_
    have hsame : (s.withEntry e).processRetransmissions now = s.withEntry e := by
      simp [processRetransmissions, hinit]
    rw [hsame, pendingAt_withEntry s rfl]

theorem pendingAt_handleNumberedData (s : TransportLayer) (e : ConnectionEntry) (seqNum : UInt8)
    (tpdu : FixedVector UInt8 maxFrameSize) (priority : Priority) (hinit : s.initialized = true) :
    ((s.withEntry e).handleNumberedData e.remoteAddress seqNum tpdu priority).pendingAt
      e.remoteAddress = pendingTpdu e := by
  by_cases hdup : e.lastReceivedSeq = seqNum &&& 0x0F
  · rw [handleNumberedData_duplicate s e tpdu priority hdup]
    have hrepeat := repeatAtOnce_active (s.sendAck e.remoteAddress (seqNum &&& 0x0F) priority).2
      (stamped { e with priority := priority } s.timebaseMs) hinit rfl
    rw [remoteAddress_stamped] at hrepeat
    rw [hrepeat]
    split
    · next hcond =>
      -- the repetition that goes out at once has repetitions left
      rw [pendingAt_withEntry]
      · exact pendingTpdu_sendDue (fun _ => hcond.2.2)
      · exact (sendDue_fields _ _ _).1
    · exact pendingAt_withEntry _ rfl
  · by_cases horder : seqNum &&& 0x0F = e.expectedRxSeq &&& 0x0F
    · rw [handleNumberedData_accept s e tpdu priority hdup horder,
        pendingAt_of_table (table_transformAndDeliver _ _)]
      exact pendingAt_withEntry _ rfl
    · rw [handleNumberedData_outOfOrder s e tpdu priority hdup horder]
      exact pendingAt_withEntry _ rfl

theorem pendingAt_handleAck (s : TransportLayer) (e : ConnectionEntry) {seqNum : UInt8}
    (h : ¬ awaits e seqNum) :
    ((s.withEntry e).handleAck e.remoteAddress seqNum).pendingAt e.remoteAddress
      = pendingTpdu e := by
  rw [handleAck_self]
  unfold ackedEntry
  rw [if_neg h]
  exact pendingAt_withEntry _ rfl

/-- A `T_NAK` moves the time of the transmission only. -/
theorem pendingAt_handleNak (s : TransportLayer) (e : ConnectionEntry) (seqNum : UInt8) :
    ((s.withEntry e).handleNak e.remoteAddress seqNum).pendingAt e.remoteAddress
      = pendingTpdu e := by
  rw [handleNak_self]
  unfold nakedEntry
  split
  · exact pendingAt_withEntry _ rfl
  · exact pendingAt_withEntry _ rfl

theorem table_dispatch_of_other (hslot : s.OneSlot) {remote : IndividualAddress}
    (hfind : s.connectionTable.findConnection remote ≠ none) {frame : NDataFrame}
    (hother : frame.dlFrame.source ≠ remote) :
    (s.dispatch frame).connectionTable = s.connectionTable := by
  obtain ⟨e, hfind⟩ := Option.ne_none_iff_exists'.mp hfind
  obtain ⟨hs, haddr⟩ := hslot.withEntry_of_find hfind
  have hnone : s.connectionTable.findConnection frame.dlFrame.source = none := by
    rw [← hs, findConnection_withEntry, if_neg]
    intro heq
    exact hother (heq.symm.trans haddr)
  have hfull : s.connectionTable.maxConnections ≤ s.connectionTable.connections.length := by
    rw [← hs]
    exact hslot.single
  unfold dispatch
  split
  · -- there is no room for a second connection
    have hrefused : ¬ (frame.dlFrame.source.isValid = true ∧
        s.connectionTable.canCreateConnection frame.dlFrame.source = .ok ()) := by
      rintro ⟨-, hcan⟩
      have hroom := ((ConnectionTable.canCreateConnection_iff _ _).mp hcan).1
      omega
    unfold handleTConnect handleConnectRequest createEntry
    simp only [hnone]
    rw [ConnectionTable.createConnection_refused _ hrefused]
    rfl
  · simp only [handleTDisconnect, hnone]
  · simp only [handleAck, hnone]
  · simp only [handleNak, hnone]
  · simp only [handleNumberedData, hnone]
  · exact table_transformAndDeliver _ _

/-- A `T_Connect` of the peer that does not reopen the connection keeps what is pending. -/
theorem pendingAt_handleTConnect (s : TransportLayer) (e : ConnectionEntry) {frame : NDataFrame}
    (hsource : frame.dlFrame.source = e.remoteAddress)
    (hclass : classify frame.dlFrame.tpdu.data = .tConnect)
    (hquiet : ¬ ControlActs (s.withEntry e) frame) :
    ((s.withEntry e).handleTConnect frame.dlFrame).pendingAt e.remoteAddress = pendingTpdu e := by
  have hfind : (s.withEntry e).connectionTable.findConnection e.remoteAddress = some e := by
    rw [findConnection_withEntry, if_pos rfl]
  have hcases : e.stateMachine.state = .connecting ∨
      (frame.dlFrame.repeated = true ∧ e.stateMachine.state = .connected) := by
    by_contra hnot
    rw [not_or] at hnot
    apply hquiet
    simp only [ControlActs, hclass, hsource, hfind]
    exact hnot
  by_cases hconnecting : e.stateMachine.state = .connecting
  · -- the answer to a request of this device
    simp only [handleTConnect, hsource, hfind, hconnecting, if_true, handleConnectResponse,
      updateEntry_withEntry, touch_withEntry]
    exact pendingAt_withEntry _ rfl
  · -- a repeated request is only taken note of
    have hrep := hcases.resolve_left hconnecting
    simp only [handleTConnect, hsource, hfind, handleConnectRequest, hrep, if_true, updateEntry_withEntry, touch_withEntry, and_self]
    exact pendingAt_withEntry _ rfl

/-- A `T_Disconnect` of the peer removes the connection. -/
theorem findConnection_handleTDisconnect (s : TransportLayer) (e : ConnectionEntry)
    {frame : NDataFrame} (hsource : frame.dlFrame.source = e.remoteAddress) :
    ((s.withEntry e).handleTDisconnect frame.dlFrame).connectionTable.findConnection
      e.remoteAddress = none := by
  apply findConnection_empty
  by_cases hstate : e.stateMachine.state = .disconnecting
  · simp [handleTDisconnect, handleDisconnectResponse, removeEntryByAddress, hsource, hstate,
      ConnectionTable.removeConnectionByAddress, withTable, note]
  · simp [handleTDisconnect, handleDisconnectRequest, removeEntryByAddress, hsource, hstate,
      ConnectionTable.removeConnectionByAddress, withTable, note]

theorem table_sendFrame_of_none {frame : TDataFrame} (h : s.connectionFor frame = none) :
    (s.sendFrame frame).2.connectionTable = s.connectionTable := by
  have hbuild : (s.buildNetworkTxFrame frame).2.connectionTable = s.connectionTable := by
    simp only [buildNetworkTxFrame, h]
    split
    · rfl
    · rfl
  unfold sendFrame
  split
  · rfl
  · split
    · next heq =>
      rw [heq] at hbuild
      exact hbuild
    · next heq =>
      rw [heq] at hbuild
      exact hbuild

theorem sendConnectedData_of_pending (s : TransportLayer) (e : ConnectionEntry)
    (index : ConnectionIndex) (data : List UInt8) (hpend : e.pendingRetransmission = true)
    (hne : e.index = index → e.pendingData.data ≠ []) :
    ((s.withEntry e).sendConnectedData index data).2 = s.withEntry e := by
  apply sendConnectedData_refused
  rintro ⟨-, e', hcheck⟩
  rcases connectedDataEntry_eq_ok.mp hcheck with ⟨hget, -, hfree⟩
  rw [getConnection_withEntry] at hget
  split at hget
  · next hindex =>
    cases hget
    exact hfree ⟨hpend, hne hindex⟩
  · cases hget

/-- The number of a received `T_ACK` is a four-bit number. -/
theorem classify_tAck_masked {tpdu : List UInt8} {n : UInt8} (h : classify tpdu = .tAck n) :
    n &&& 0x0F = n := by
  unfold classify at h
  dsimp only at h
  split at h
  · split at h
    · cases h
    · split at h
      · cases h
      · cases h
  · split at h
    · cases h
      exact and_fifteen_idem _
    · split at h
      · cases h
      · cases h
  · cases h
  · cases h

theorem pendingAt_dispatch (hslot : s.OneSlot) (hinit : s.initialized = true)
    {remote : IndividualAddress} {p : PendingTpdu} (hpend : s.pendingAt remote = some p)
    (hmask : p.seqNum &&& 0x0F = p.seqNum) (frame : NDataFrame) :
    (s.dispatch frame).pendingAt remote = some p ∨
      (frame.dlFrame.source = remote ∧
        (classify frame.dlFrame.tpdu.data = .tAck p.seqNum ∨
          classify frame.dlFrame.tpdu.data = .tConnect ∧ ControlActs s frame)) ∨
      (s.dispatch frame).connectionTable.findConnection remote = none := by
  rcases hslot.entry_of_pendingAt hpend with ⟨e, hs, rfl, hp⟩
  by_cases hsource : frame.dlFrame.source = e.remoteAddress
  · rw [← hs]
    cases hclass : classify frame.dlFrame.tpdu.data with
    | tConnect =>
      by_cases hacts : ControlActs (s.withEntry e) frame
      · exact Or.inr (Or.inl ⟨hsource, Or.inr ⟨rfl, hacts⟩⟩)
      · left
        simp only [dispatch, hclass]
        rw [pendingAt_handleTConnect s e hsource hclass hacts, hp]
    | tDisconnect =>
      refine Or.inr (Or.inr ?_)
      simp only [dispatch, hclass]
      exact findConnection_handleTDisconnect s e hsource
    | tAck n =>
      by_cases hn : n = p.seqNum
      · exact Or.inr (Or.inl ⟨hsource, Or.inl (by rw [hn])⟩)
      · left
        simp only [dispatch, hclass, hsource]
        rw [pendingAt_handleAck s e, hp]
        rintro ⟨-, hsame⟩
        have hseq : p.seqNum = e.pendingSeq := by rw [(pendingTpdu_eq_some.mp hp).2]
        rw [classify_tAck_masked hclass, ← hseq, hmask] at hsame
        exact hn hsame
    | tNak n =>
      left
      simp only [dispatch, hclass, hsource]
      rw [pendingAt_handleNak s e, hp]
    | tDataConnected n =>
      left
      simp only [dispatch, hclass, hsource]
      rw [pendingAt_handleNumberedData s e _ _ _ hinit, hp]
    | connectionless =>
      left
      simp only [dispatch, hclass, handleConnectionless]
      rw [pendingAt_of_table (table_transformAndDeliver _ _), pendingAt_withEntry s rfl, hp]
  · left
    have hfind : s.connectionTable.findConnection e.remoteAddress ≠ none := by
      rw [← hs, findConnection_withEntry, if_pos rfl]
      exact Option.some_ne_none e
    rw [pendingAt_of_table (table_dispatch_of_other hslot hfind hsource), hpend]

end OneCall

theorem pendingAt_step {s : TransportLayer} (hslot : s.OneSlot) {remote : IndividualAddress}
    {p : PendingTpdu} (hpend : s.pendingAt remote = some p)
    (hmask : p.seqNum &&& 0x0F = p.seqNum) {c : Call} (hc : c.isExchange)
    (hover : ¬ Overwrites s c) :
    (s.step c).pendingAt remote = some p ∨ Releases remote p s c ∨ GivesUp remote s c := by
  rcases hslot.entry_of_pendingAt hpend with ⟨e, hs, rfl, hp⟩
  rcases pendingTpdu_eq_some.mp hp with ⟨hflag, -⟩
  cases c with
  | sendFrame frame =>
    left
    have hnone : s.connectionFor frame = none := by
      rw [Option.eq_none_iff_forall_ne_some]
      intro e' he'
      have hfind := (findConnection_of_connectionFor he').1
      rw [← hs, findConnection_withEntry] at hfind
      split at hfind
      · cases hfind
        exact hover ⟨e, he', hflag⟩
      · cases hfind
    rw [← hpend]
    exact pendingAt_of_table (table_sendFrame_of_none hnone) _
  | sendConnectedData index data =>
    left
    have hne : e.index = index → e.pendingData.data ≠ [] := by
      intro hindex hempty
      apply hover
      refine ⟨e, ?_, hflag, hempty⟩
      rw [← hs, getConnection_withEntry, if_pos hindex]
    have hsame := sendConnectedData_of_pending s e index data hflag hne
    rw [hs] at hsame
    rw [← hpend]
    exact pendingAt_of_table (congrArg connectionTable hsame) _
  | processRetransmissions now =>
    by_cases hkeep : ConnectionTable.isDue now e = true → e.retransmitCount < e.maxRetries
    · rcases pendingAt_processRetransmissions s e now hkeep with hkept | hgone
      · left
        rw [hs] at hkept
        exact hkept.trans hp
      · right
        left
        right
        rw [hs] at hgone
        exact hgone
    · right
      right
      rw [Classical.not_imp] at hkeep
      refine ⟨e, ?_, hkeep.1, UInt8.not_lt.mp hkeep.2⟩
      rw [← hs, findConnection_withEntry, if_pos rfl]
  | handleNetworkRx frame =>
    by_cases hinit : s.initialized = true
    · by_cases hne : frame.dlFrame.tpdu.data = []
      · -- an empty TPDU is dropped
        left
        have hsame : s.handleNetworkRx frame = s := by simp [handleNetworkRx, hinit, hne]
        rw [← hpend]
        exact congrArg (pendingAt · e.remoteAddress) hsame
      · have hclock : s.startClock.pendingAt e.remoteAddress = some p := by
          rw [pendingAt_of_table (table_startClock s), hpend]
        have hinit' : s.startClock.initialized = true := by
          rw [startClock_eq_withTime]
          exact hinit
        have hstep : s.step (.handleNetworkRx frame) = s.startClock.dispatch frame :=
          handleNetworkRx_eq_dispatch hinit hne
        have hacts : ControlActs s.startClock frame → ControlActs s frame := by
          unfold ControlActs
          rw [table_startClock]
          exact id
        rcases pendingAt_dispatch hslot.startClock hinit' hclock hmask frame with
          hkept | ⟨hsource, hown⟩ | hgone
        · left
          rw [hstep, hkept]
        · right
          left
          left
          refine ⟨hsource, ?_⟩
          rcases hown with hack | ⟨hconnect, hdoes⟩
          · exact Or.inl hack
          · exact Or.inr ⟨hconnect, hacts hdoes⟩
        · right
          left
          right
          rw [hstep, hgone]
    · left
      have hsame : s.handleNetworkRx frame = s := by simp [handleNetworkRx, hinit]
      rw [← hpend]
      exact congrArg (pendingAt · e.remoteAddress) hsame
  | _ => exact absurd hc id

/-! ## Accepted sends -/

theorem pendingAt_sendFrame {s : TransportLayer} (hslot : s.OneSlot) {frame : TDataFrame}
    {remote : IndividualAddress} {p : PendingTpdu}
    (h : s.acceptedTpdu (.sendFrame frame) = some (remote, p)) :
    (s.step (.sendFrame frame)).pendingAt remote = some p ∧ p.seqNum &&& 0x0F = p.seqNum := by
  simp only [acceptedTpdu] at h
  split at h
  · next e hok hfor =>
    split at h
    · next work hwork =>
      split at h
      · cases h
      · next hne =>
        cases h
        obtain ⟨hs, -⟩ := hslot.withEntry_of_find (findConnection_of_connectionFor hfor).1
        have hinit : s.initialized = true := by
          by_contra hinit
          rw [Bool.not_eq_true] at hinit
          simp [sendFrame, hinit] at hok
        have hbuild := buildNetworkTxFrame_on_connection (s := s) (e := e) (by rw [hs]; exact hfor)
          (Prod.ext hwork rfl : s.transformedFor frame e = (.ok work, _)) hne
        rw [hs] at hbuild
        refine ⟨?_, and_fifteen_idem _⟩
        simp only [step, sendFrame, hinit, Bool.not_true, Bool.false_eq_true, if_false, hbuild]
        exact pendingAt_withEntry _ rfl
    · cases h
  · cases h

theorem pendingAt_sendConnectedData {s : TransportLayer} (hslot : s.OneSlot)
    {index : ConnectionIndex} {data : List UInt8} {remote : IndividualAddress} {p : PendingTpdu}
    (h : s.acceptedTpdu (.sendConnectedData index data) = some (remote, p)) :
    (s.step (.sendConnectedData index data)).pendingAt remote = some p ∧
      p.seqNum &&& 0x0F = p.seqNum := by
  simp only [acceptedTpdu] at h
  split at h
  · next e hok hget =>
    split at h
    · next hlen =>
      cases h
      refine ⟨?_, and_fifteen_idem _⟩
      -- success means that every check was passed
      have hinit : s.initialized = true := by
        by_contra hinit
        rw [Bool.not_eq_true] at hinit
        simp [sendConnectedData, hinit] at hok
      have hentry : s.connectedDataEntry index = .ok e := by
        cases hcheck : s.connectedDataEntry index with
        | error err => simp [sendConnectedData, hinit, hlen, hcheck] at hok
        | ok e' =>
          have hget' := (connectedDataEntry_eq_ok.mp hcheck).1
          rw [hget] at hget'
          cases hget'
          rfl
      obtain ⟨-, hopen, hfree⟩ := connectedDataEntry_eq_ok.mp hentry
      obtain ⟨hs, hindex⟩ := hslot.withEntry_of_get hget
      subst hindex
      have hsend := sendConnectedData_free s e hinit hlen hopen hfree
      rw [hs] at hsend
      rw [step, hsend]
      split
      · exact pendingAt_withEntry _ rfl
      · exact pendingAt_withEntry _ rfl
    · cases h
  · cases h

/-! ## Runs -/

/-- Pending data. A TPDU that a send call accepted is pending on its connection, unchanged, in
every state of a run up to the call that releases it or gives it up. -/
theorem accepted_stays_pending {s : TransportLayer} (hreach : s.Reachable) {send : Call}
    {remote : IndividualAddress} {p : PendingTpdu} (hsend : s.acceptedTpdu send = some (remote, p))
    (calls : List Call) (hcalls : ∀ c ∈ calls, c.isExchange)
    (hover : Along step (fun s c => ¬ Overwrites s c) (s.step send) calls)
    (hopen : Along step (fun s c => ¬ Releases remote p s c ∧ ¬ GivesUp remote s c) (s.step send)
      calls) :
    (run step (s.step send) calls).pendingAt remote = some p := by
  have hslot := reachable_oneSlot hreach
  have haccepted : (s.step send).pendingAt remote = some p ∧ p.seqNum &&& 0x0F = p.seqNum := by
    cases send with
    | sendFrame frame => exact pendingAt_sendFrame hslot hsend
    | sendConnectedData index data => exact pendingAt_sendConnectedData hslot hsend
    | _ => cases hsend
  rcases haccepted with ⟨hpend, hmask⟩
  have hslot' := oneSlot_step s send hslot
  generalize s.step send = s' at *
  -- the invariant: one slot at most, and the TPDU in it
  induction calls generalizing s' with
  | nil => exact hpend
  | cons c calls ih =>
    rcases hover with ⟨hfirst, hover⟩
    rcases hopen with ⟨⟨hrelease, hgive⟩, hopen⟩
    have hkept : (s'.step c).pendingAt remote = some p := by
      rcases pendingAt_step hslot' hpend hmask (hcalls c List.mem_cons_self) hfirst with
        hkept | hreleased | hgiven
      · exact hkept
      · exact absurd hreleased hrelease
      · exact absurd hgiven hgive
    exact ih (fun c' hc' => hcalls c' (List.mem_cons_of_mem c hc')) (s'.step c) hover hopen hkept
      (oneSlot_step s' c hslot')

/-- Three octets sent to 1.1.2 are still pending after a `T_NAK` and the repetition it causes. -/
theorem accepted_stays_pending_after_nak :
    (run step (openedByPeer.step (.sendConnectedData ⟨0⟩ [1, 2, 3]))
      [.handleNetworkRx (fromPeer [0xC3]), .processRetransmissions 3001]).pendingAt ⟨0x1102⟩
        = some ⟨0, 0, ⟨[1, 2, 3], by decide⟩⟩ := by
  apply accepted_stays_pending reachable_openedByPeer
  · decide
  · simp [Call.isExchange]
  · exact ⟨id, id, trivial⟩
  · refine ⟨⟨?_, id⟩, ⟨?_, ?_⟩, trivial⟩
    · rintro (⟨-, hack | ⟨hconnect, -⟩⟩ | hgone)
      · exact absurd hack (by decide)
      · exact absurd hconnect (by decide)
      · exact absurd hgone (by decide)
    · rintro (hpeer | hgone)
      · exact hpeer
      · exact absurd hgone (by decide)
    · rintro ⟨e, hfind, -, hcount⟩
      have hbelow : ∀ e ∈ ((openedByPeer.step (.sendConnectedData ⟨0⟩ [1, 2, 3])).step
          (.handleNetworkRx (fromPeer [0xC3]))).connectionTable.connections,
          e.retransmitCount < e.maxRetries := by decide
      exact absurd hcount (UInt8.not_le.mpr (hbelow e (List.mem_of_find?_eq_some hfind)))

theorem not_releases_of_isSome {remote : IndividualAddress} {p : PendingTpdu} {s : TransportLayer}
    {now : UInt32}
    (h : ((s.step (.processRetransmissions now)).connectionTable.findConnection remote).isSome) :
    ¬ Releases remote p s (.processRetransmissions now) := by
  rintro (hpeer | hgone)
  · exact hpeer
  · rw [hgone] at h
    cases h

/-- One octet sent to 1.1.2, never acknowledged and repeated three times, is dropped although the
peer has kept the connection open with a `T_ACK` of another number. -/
theorem repetitions_used_up :
    ¬ ∀ calls : List Call, (∀ c ∈ calls, c.isExchange) →
      Along step (fun s c => ¬ Releases ⟨0x1102⟩ ⟨0, 0, ⟨[1], by decide⟩⟩ s c)
        (openedByPeer.step (.sendConnectedData ⟨0⟩ [1])) calls →
      (run step (openedByPeer.step (.sendConnectedData ⟨0⟩ [1])) calls).pendingAt ⟨0x1102⟩
        = some ⟨0, 0, ⟨[1], by decide⟩⟩ := by
  intro hclaim
  have hpending := hclaim
    [.processRetransmissions 3001, .processRetransmissions 9001, .processRetransmissions 15001,
      .processRetransmissions 18001, .handleNetworkRx (fromPeer [0xD6]),
      .processRetransmissions 21001]
    (by simp [Call.isExchange])
    (by
      refine ⟨not_releases_of_isSome (by decide), not_releases_of_isSome (by decide),
        not_releases_of_isSome (by decide), not_releases_of_isSome (by decide), ?_,
        not_releases_of_isSome (by decide +kernel), trivial⟩
      rintro (⟨-, hack | ⟨hconnect, -⟩⟩ | hgone)
      · exact absurd hack (by decide)
      · exact absurd hconnect (by decide)
      · exact absurd hgone (by decide +kernel))
  exact absurd hpending (by decide +kernel)

end TransportLayer

end KnxStack.Transport
