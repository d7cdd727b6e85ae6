import KnxStack.Transport.Numbering
import KnxStack.Transport.Pending
import KnxStack.Transport.RetransmitTimer

/-!
# Repetition of unacknowledged data

A data TPDU that the peer does not acknowledge is put on the network again, octet for octet, up to
`maxRetries` times. The layer keeps the TPDU in pieces and takes an empty payload for an empty slot,
so a TPDU without payload is never repeated. `repeatedInFull_iff` says that this is the only
exception: every other TPDU is repeated in full, whichever way it was sent and whatever frames the
peer sends instead of the acknowledgement.

The calls of the layer move the pending TPDU as `RetransmitState` allows (`Carries`); what follows
about whole runs is taken from there.
-/

set_option autoImplicit false

namespace KnxStack.Transport

open KnxStack.Lib KnxStack.Lib.Words KnxStack.Protocol KnxStack.Datalink

namespace TransportLayer

/-- Octets of the data TPDUs to a device among some frames. -/
def dataTpdus (remote : IndividualAddress) (frames : List NDataFrame) : List (List UInt8) :=
  (frames.filter (fun f => (dataNumber remote f).isSome)).map (fun f => f.dlFrame.tpdu.data)

/-- Data TPDUs to a device that went out after the first `base` frames. -/
def repetitions (remote : IndividualAddress) (base : Nat) (s : TransportLayer) :
    List (List UInt8) :=
  dataTpdus remote (s.network.sent.drop base)

/-- Calls of a run in which the peer keeps the connection open and does not acknowledge the TPDU with
the given number. The clock may wrap around between two maintenance calls, but the time between
them stays twelve seconds short of a full turn. -/
def KeptOpen (remote : IndividualAddress) (seqNum : UInt8) (s : TransportLayer) (c : Call) : Prop :=
  (s.step c).connectionTable.findConnection remote ≠ none ∧
    match c with
    | .processRetransmissions now => (now - s.timebaseMs).toNat + 12000 < 2 ^ 32
    | .handleNetworkRx frame =>
        frame.dlFrame.source = remote → classify frame.dlFrame.tpdu.data ≠ .tAck seqNum ∧
          ¬ (classify frame.dlFrame.tpdu.data = .tConnect ∧ ControlActs s frame)
    | _ => False

/-- Number of maintenance calls that come at least twelve seconds after each other, `waited`
milliseconds after the last of them. Twelve seconds are twice the longest retransmission timeout. -/
def spacedCalls (s : TransportLayer) (waited : Nat) : List Call → Nat
  | [] => 0
  | c :: rest =>
      match c with
      | .processRetransmissions now =>
          let waited := waited + (now - s.timebaseMs).toNat
          if 12000 ≤ waited then spacedCalls (s.step c) 0 rest + 1
          else spacedCalls (s.step c) waited rest
      | _ => spacedCalls (s.step c) waited rest

theorem spacedCalls_rx (s : TransportLayer) (waited : Nat) (frame : NDataFrame)
    (rest : List Call) :
    spacedCalls s waited (.handleNetworkRx frame :: rest)
      = spacedCalls (s.step (.handleNetworkRx frame)) waited rest := rfl

theorem spacedCalls_process (s : TransportLayer) (waited : Nat) (now : UInt32)
    (rest : List Call) :
    spacedCalls s waited (.processRetransmissions now :: rest)
      = if 12000 ≤ waited + (now - s.timebaseMs).toNat then
          spacedCalls (s.step (.processRetransmissions now)) 0 rest + 1
        else spacedCalls (s.step (.processRetransmissions now))
          (waited + (now - s.timebaseMs).toNat) rest := rfl

/-- In every run in which the peer keeps the connection open without acknowledging the TPDU, all
that goes out on the connection are repetitions of it, at most `max` of them, and all `max` of them
once that many maintenance calls have come at a distance. -/
def RepeatedInFull (remote : IndividualAddress) (seqNum : UInt8) (tpdu : List UInt8) (max : Nat)
    (s : TransportLayer) : Prop :=
  ∀ calls, Along step (KeptOpen remote seqNum) s calls →
    ∃ count, repetitions remote s.network.sent.length (run step s calls)
        = List.replicate count tpdu ∧
      count ≤ max ∧ (max ≤ spacedCalls s 0 calls → count = max)

/-! ## Moves of the pending TPDU -/

/-- What an entry keeps about its pending TPDU. -/
def retransmitState (e : ConnectionEntry) : RetransmitState where
  awaiting := e.pendingRetransmission
  seqNum := e.pendingSeq
  apciRaw := e.pendingApciRaw
  payload := e.pendingData
  count := e.retransmitCount
  lastTxTimeMs := e.lastTxTimeMs
  timeoutMs := e.retransmitTimeoutMs
  maxRetries := e.maxRetries

/-- A call at the given time left this entry in the table and put these data TPDUs to the peer on the
network. -/
structure Carries (remote : IndividualAddress) (s s' : TransportLayer) (now : UInt32)
    (e' : ConnectionEntry) (out : List (List UInt8)) : Prop where
  initialized : s'.initialized = true
  reliable : s'.network.Reliable
  time : s'.timebaseMs = now
  sent : ∃ frames, s'.network.sent = s.network.sent ++ frames ∧ dataTpdus remote frames = out
  entry : s'.connectionTable.connections = [e']
  address : e'.remoteAddress = remote

theorem Carries.of_sent {remote : IndividualAddress} {s t s' : TransportLayer} {now : UInt32}
    {e' : ConnectionEntry} {out : List (List UInt8)} (h : Carries remote t s' now e' out)
    (hsent : t.network.sent = s.network.sent) : Carries remote s s' now e' out :=
  ⟨h.initialized, h.reliable, h.time, by rw [← hsent]; exact h.sent, h.entry, h.address⟩

theorem dataTpdus_of_no_number {remote : IndividualAddress} {f : NDataFrame}
    (h : dataNumber remote f = none) : dataTpdus remote [f] = [] := by
  simp [dataTpdus, h]

theorem dataTpdus_control (remote own a : IndividualAddress) {tpci : TPCIField}
    (priority : Priority)
    (h : ∀ seqNum, classify (buildTpdu tpci ⟨0⟩ []) ≠ .tDataConnected seqNum) :
    dataTpdus remote [controlFrame own a tpci priority] = [] := by
  apply dataTpdus_of_no_number
  rw [dataNumber]
  split
  · have htpdu : (controlFrame own a tpci priority).dlFrame.tpdu.data = buildTpdu tpci ⟨0⟩ [] := rfl
    rw [htpdu]
    cases hclass : classify (buildTpdu tpci ⟨0⟩ []) with
    | tDataConnected seqNum => exact absurd hclass (h seqNum)
    | _ => rfl
  · rfl

theorem dataTpdus_ack (remote own a : IndividualAddress) (seqNum : UInt8) (priority : Priority) :
    dataTpdus remote [controlFrame own a (.ack (seqNum &&& 0x0F)) priority] = [] := by
  apply dataTpdus_control
  intro n
  rw [classify_ack (and_fifteen_lt seqNum)]
  exact ReceivedPdu.noConfusion

theorem dataTpdus_nak (remote own a : IndividualAddress) (seqNum : UInt8) (priority : Priority) :
    dataTpdus remote [controlFrame own a (.nak (seqNum &&& 0x0F)) priority] = [] := by
  apply dataTpdus_control
  intro n
  rw [classify_nak (and_fifteen_lt seqNum)]
  exact ReceivedPdu.noConfusion

theorem dataTpdus_repetition (s : TransportLayer) (e : ConnectionEntry) :
    dataTpdus e.remoteAddress [s.repetitionFrame e] = [(retransmitState e).tpdu] := by
  have hnumber : dataNumber e.remoteAddress (s.repetitionFrame e)
      = some (e.pendingSeq &&& 0x0F) :=
    dataNumber_numberedDataFrame _ _ (and_fifteen_lt _) _ _ _
  have hfilter : [s.repetitionFrame e].filter
      (fun f => (dataNumber e.remoteAddress f).isSome) = [s.repetitionFrame e] := by
    simp [hnumber]
  rw [dataTpdus, hfilter]
  rfl

/-! ## The maintenance call -/

section Moves

variable {s : TransportLayer} {e : ConnectionEntry}

theorem isDue_iff (now : UInt32) (e : ConnectionEntry) :
    ConnectionTable.isDue now e = true ↔ (retransmitState e).awaiting = true ∧
      (retransmitState e).timeoutMs.toNat ≤ (retransmitState e).elapsed now := by
  rw [ConnectionTable.isDue, Bool.and_eq_true, decide_eq_true_eq, UInt32.le_iff_toNat_le]
  exact Iff.rfl

/-- The maintenance call repeats the pending TPDU, passes it over, gives it up or lets it wait. -/
theorem maintained_sendDue {s : TransportLayer} (hrel : s.network.Reliable) (now : UInt32)
    (e : ConnectionEntry) (hinit : s.initialized = true) (htime : s.timebaseMs = now) :
    ∃ out, Carries e.remoteAddress s ((sendDue s now e).1.withEntry (sendDue s now e).2) now
        (sendDue s now e).2 out ∧
      (retransmitState e).Maintained now (retransmitState (sendDue s now e).2) out := by
  rw [sendDue_of_reliable hrel]
  by_cases hdue : ConnectionTable.isDue now e = true
  · rcases (isDue_iff now e).mp hdue with ⟨hawait, hlate⟩
    by_cases hcount : e.retransmitCount < e.maxRetries
    · have hentry : dueEntry now e
          = { e with retransmitTimeoutMs := ConnectionTable.backoff e.retransmitTimeoutMs } := by
        rw [dueEntry, if_pos hdue, if_pos hcount]
      by_cases hpay : e.pendingData.data = []
      · rw [if_neg (fun h => h.2 hpay), hentry]
        exact ⟨[], ⟨hinit, hrel, htime, ⟨[], (List.append_nil _).symm, rfl⟩, rfl, rfl⟩,
          .passedOver hawait hlate hpay hcount⟩
      · rw [if_pos ⟨⟨hdue, hcount⟩, hpay⟩, hentry]
        exact ⟨_, ⟨hinit, hrel.put _, htime, ⟨_, rfl, dataTpdus_repetition s e⟩, rfl, rfl⟩,
          .repeated hawait hlate hpay hcount⟩
    · have hentry : dueEntry now e = ConnectionTable.clearRetransmitState e := by
        rw [dueEntry, if_pos hdue, if_neg hcount]
      rw [if_neg (fun h => hcount h.1.2), hentry]
      exact ⟨[], ⟨hinit, hrel, htime, ⟨[], (List.append_nil _).symm, rfl⟩, rfl, rfl⟩,
        .givenUp hawait hlate (UInt8.not_lt.mp hcount) rfl rfl⟩
  · have hentry : dueEntry now e = e := by rw [dueEntry, if_neg hdue]
    rw [if_neg (fun h => hdue h.1.1), hentry]
    refine ⟨[], ⟨hinit, hrel, htime, ⟨[], (List.append_nil _).symm, rfl⟩, rfl, rfl⟩, .waits ?_⟩
    intro hawait
    by_contra hlate
    exact hdue ((isDue_iff now e).mpr ⟨hawait, Nat.le_of_not_lt hlate⟩)

theorem maintained_processRetransmissions (hconn : s.connectionTable.connections = [e])
    (hinit : s.initialized = true) (hrel : s.network.Reliable) (now : UInt32)
    (halive : (s.processRetransmissions now).connectionTable.findConnection e.remoteAddress
      ≠ none) :
    ∃ e' out, Carries e.remoteAddress s (s.processRetransmissions now) now e' out ∧
      (retransmitState e).Maintained now (retransmitState e') out := by
  have hs := withEntry_eq_self hconn
  have hprocess := processRetransmissions_withEntry s e now hinit
  rw [hs, removeIdle_withEntry] at hprocess
  split at hprocess
  · -- removed for idleness
    rw [hprocess] at halive
    exact absurd (findConnection_empty rfl _) halive
  · rcases maintained_sendDue (s := s.withTime now) hrel now e hinit rfl with ⟨out, hcarries, hmove⟩
    rw [← hprocess] at hcarries
    exact ⟨_, out, hcarries.of_sent rfl, hmove⟩

/-! ## Received frames -/

/-- A handler that changed the entry but not its pending TPDU, and sent frames without data. -/
theorem received_untouched {t : TransportLayer} {e' : ConnectionEntry} {frames : List NDataFrame}
    (hinit : t.initialized = true) (hrel : t.network.Reliable)
    (hsent : t.network.sent = s.network.sent ++ frames)
    (hnone : dataTpdus e.remoteAddress frames = [])
    (hentry : t.connectionTable.connections = [e'])
    (haddr : e'.remoteAddress = e.remoteAddress)
    (hsame : retransmitState e' = retransmitState e) :
    ∃ e' out, Carries e.remoteAddress s t t.timebaseMs e' out ∧
      (retransmitState e).Received t.timebaseMs (retransmitState e') out := by
  refine ⟨e', [], ⟨hinit, hrel, rfl, ⟨frames, hsent, hnone⟩, hentry, haddr⟩, ?_⟩
  rw [hsame]
  exact .untouched

theorem received_quiet {e' : ConnectionEntry} (hinit : s.initialized = true)
    (hrel : s.network.Reliable) (haddr : e'.remoteAddress = e.remoteAddress)
    (hsame : retransmitState e' = retransmitState e) :
    ∃ e'' out, Carries e.remoteAddress s (s.withEntry e') s.timebaseMs e'' out ∧
      (retransmitState e).Received s.timebaseMs (retransmitState e'') out :=
  received_untouched (s := s) (t := s.withEntry e') hinit hrel (List.append_nil _).symm rfl rfl haddr
    hsame

theorem received_deliver {t : TransportLayer} {e' : ConnectionEntry} {frames : List NDataFrame}
    (hinit : t.initialized = true) (hrel : t.network.Reliable)
    (htime : t.timebaseMs = s.timebaseMs) (hsent : t.network.sent = s.network.sent ++ frames)
    (hnone : dataTpdus e.remoteAddress frames = [])
    (hentry : t.connectionTable.connections = [e'])
    (haddr : e'.remoteAddress = e.remoteAddress)
    (hsame : retransmitState e' = retransmitState e) (f : TDataFrame) :
    ∃ e' out, Carries e.remoteAddress s (t.transformAndDeliver f) s.timebaseMs e' out ∧
      (retransmitState e).Received s.timebaseMs (retransmitState e') out := by
  rcases transformAndDeliver_fields t f with ⟨hnet, hinit', htime'⟩
  rw [← htime, ← htime']
  refine received_untouched (hinit'.trans hinit) ?_ ?_ hnone ?_ haddr hsame
  · rw [hnet]
    exact hrel
  · rw [hnet]
    exact hsent
  · rw [table_transformAndDeliver]
    exact hentry

theorem received_connectionless (e : ConnectionEntry) (hinit : s.initialized = true)
    (hrel : s.network.Reliable) (frame : NDataFrame) :
    ∃ e' out, Carries e.remoteAddress s ((s.withEntry e).handleConnectionless frame) s.timebaseMs e'
        out ∧
      (retransmitState e).Received s.timebaseMs (retransmitState e') out :=
  received_deliver (s := s) (t := s.withEntry e) hinit hrel rfl (List.append_nil _).symm rfl rfl rfl
    rfl _

theorem received_handleNumberedData (e : ConnectionEntry) (hinit : s.initialized = true)
    (hrel : s.network.Reliable) (seqNum : UInt8) (tpdu : FixedVector UInt8 maxFrameSize)
    (priority : Priority) :
    ∃ e' out, Carries e.remoteAddress s
        ((s.withEntry e).handleNumberedData e.remoteAddress seqNum tpdu priority) s.timebaseMs e'
          out ∧
      (retransmitState e).Received s.timebaseMs (retransmitState e') out := by
  by_cases hdup : e.lastReceivedSeq = seqNum &&& 0x0F
  · -- acknowledged again; what is pending may go out at once
    rw [handleNumberedData_duplicate s e tpdu priority hdup, sendAck, networkSend_of_reliable hrel]
    have hrepeat := repeatAtOnce_of_reliable
      (s := s.put (controlFrame s.ownAddress e.remoteAddress (.ack (seqNum &&& 0x0F)) priority))
      (e := stamped { e with priority := priority } s.timebaseMs) hinit (hrel.put _) rfl
    by_cases hcond : e.pendingRetransmission = true ∧ e.pendingData.data ≠ [] ∧
        e.retransmitCount < e.maxRetries
    · have hafter := hrepeat.trans (if_pos hcond)
      rw [remoteAddress_stamped] at hafter
      rw [hafter]
      refine ⟨_, _, ⟨hinit, (hrel.put _).put _, rfl,
        ⟨_, List.append_assoc _ _ _, ?_⟩, rfl, rfl⟩, .repeated hcond.1 hcond.2.1 hcond.2.2⟩
      have hack := dataTpdus_ack e.remoteAddress s.ownAddress e.remoteAddress seqNum priority
      have hrep := dataTpdus_repetition s e
      rw [dataTpdus] at hack hrep ⊢
      rw [List.filter_append, List.map_append, hack]
      exact hrep
    · have hafter := hrepeat.trans (if_neg hcond)
      rw [remoteAddress_stamped] at hafter
      rw [hafter]
      exact received_untouched hinit (hrel.put _) rfl (dataTpdus_ack _ _ _ _ _) rfl rfl rfl
  · by_cases horder : seqNum &&& 0x0F = e.expectedRxSeq &&& 0x0F
    · rw [handleNumberedData_accept s e tpdu priority hdup horder, sendAck,
        networkSend_of_reliable hrel]
      apply received_deliver
      · exact hinit
      · exact hrel.put _
      · rfl
      · rfl
      · exact dataTpdus_ack _ _ _ _ _
      · rfl
      · rfl
      · rfl
    · rw [handleNumberedData_outOfOrder s e tpdu priority hdup horder, sendNak,
        networkSend_of_reliable hrel]
      exact received_untouched hinit (hrel.put _) rfl (dataTpdus_nak _ _ _ _ _) rfl rfl rfl

/-- A `T_NAK` of the peer. -/
theorem received_handleNak (e : ConnectionEntry) (hinit : s.initialized = true)
    (hrel : s.network.Reliable) (seqNum : UInt8) :
    ∃ e' out, Carries e.remoteAddress s ((s.withEntry e).handleNak e.remoteAddress seqNum)
        s.timebaseMs e' out ∧
      (retransmitState e).Received s.timebaseMs (retransmitState e') out := by
  rw [handleNak_self, nakedEntry]
  split
  · next hawaits =>
    exact ⟨_, [], ⟨hinit, hrel, rfl, ⟨[], (List.append_nil _).symm, rfl⟩, rfl, rfl⟩,
      .hurried hawaits.1⟩
  · exact received_quiet hinit hrel rfl rfl

/-- A `T_Connect` of the peer that does not reopen the connection. -/
theorem received_handleTConnect (e : ConnectionEntry) (hinit : s.initialized = true)
    (hrel : s.network.Reliable) {frame : NDataFrame}
    (hsource : frame.dlFrame.source = e.remoteAddress)
    (hclass : classify frame.dlFrame.tpdu.data = .tConnect)
    (hquiet : ¬ ControlActs (s.withEntry e) frame) :
    ∃ e' out, Carries e.remoteAddress s ((s.withEntry e).handleTConnect frame.dlFrame)
        s.timebaseMs e' out ∧
      (retransmitState e).Received s.timebaseMs (retransmitState e') out := by
  have hfind : (s.withEntry e).connectionTable.findConnection e.remoteAddress = some e := by
    rw [findConnection_withEntry, if_pos rfl]
  have hcases : e.stateMachine.state = .connecting ∨
      (frame.dlFrame.repeated = true ∧ e.stateMachine.state = .connected) := by
    by_contra hnot
    rw [not_or] at hnot
    apply hquiet
    simp only [ControlActs, hclass, hsource, hfind]
    exact hnot
  by_cases hconnecting : e.stateMachine.state = .connecting
  · simp only [handleTConnect, hsource, hfind, hconnecting, if_true, handleConnectResponse,
      updateEntry_withEntry, touch_withEntry]
    exact received_quiet hinit hrel rfl rfl
  · have hrep := hcases.resolve_left hconnecting
    simp only [handleTConnect, hsource, hfind, handleConnectRequest, hrep, if_true,
      updateEntry_withEntry, touch_withEntry, and_self]
    exact received_quiet hinit hrel rfl rfl

theorem received_of_other (e : ConnectionEntry) (hslot : (s.withEntry e).OneSlot)
    (hinit : s.initialized = true) (hrel : s.network.Reliable) {frame : NDataFrame}
    (hother : frame.dlFrame.source ≠ e.remoteAddress) :
    ∃ e' out, Carries e.remoteAddress s ((s.withEntry e).dispatch frame) s.timebaseMs e' out ∧
      (retransmitState e).Received s.timebaseMs (retransmitState e') out := by
  have hnone : (s.withEntry e).connectionTable.findConnection frame.dlFrame.source = none := by
    rw [findConnection_withEntry, if_neg (fun h => hother h.symm)]
  have hsame : ∃ e' out, Carries e.remoteAddress s (s.withEntry e) s.timebaseMs e' out ∧
      (retransmitState e).Received s.timebaseMs (retransmitState e') out :=
    received_quiet hinit hrel rfl rfl
  cases hclass : classify frame.dlFrame.tpdu.data with
  | tConnect =>
    have hrefused : ¬ (frame.dlFrame.source.isValid = true ∧
        (s.withEntry e).connectionTable.canCreateConnection frame.dlFrame.source = .ok ()) := by
      rintro ⟨-, hcan⟩
      have hroom := ((ConnectionTable.canCreateConnection_iff _ _).mp hcan).1
      have hsingle := hslot.single
      rw [connections_withEntry, List.length_singleton] at hroom
      omega
    have hdispatch : (s.withEntry e).dispatch frame = ((s.note []).put (controlFrame s.ownAddress
        frame.dlFrame.source (.createControl .disconnect) frame.dlFrame.priority)).withEntry e := by
      have hcreate : (s.withEntry e).createEntry frame.dlFrame.source
          (serverParams frame.dlFrame.source) = (.invalid, (s.note []).withEntry e) := by
        rw [createEntry, ConnectionTable.createConnection_refused _ hrefused]
        rfl
      have hinvalid : ConnectionIndex.invalid.isValid = false := by decide
      simp only [dispatch, hclass, handleTConnect, hnone, handleConnectRequest, hcreate, hinvalid,
        Bool.false_eq_true, if_false, sendDisconnect, networkSend_withEntry]
      rw [networkSend_of_reliable (s := s.note []) hrel]
      rfl
    rw [hdispatch]
    refine received_untouched hinit (hrel.put _) rfl ?_ rfl rfl rfl
    apply dataTpdus_control
    intro seqNum
    have hdisconnect : classify (buildTpdu (.createControl .disconnect) ⟨0⟩ []) = .tDisconnect := by
      decide
    rw [hdisconnect]
    exact ReceivedPdu.noConfusion
  | tDisconnect =>
    simp only [dispatch, hclass, handleTDisconnect, hnone]
    exact hsame
  | tAck seqNum =>
    simp only [dispatch, hclass, handleAck, hnone]
    exact hsame
  | tNak seqNum =>
    simp only [dispatch, hclass, handleNak, hnone]
    exact hsame
  | tDataConnected seqNum =>
    simp only [dispatch, hclass, handleNumberedData, hnone]
    exact hsame
  | connectionless =>
    simp only [dispatch, hclass]
    exact received_connectionless e hinit hrel frame

/-- Received frames move the pending TPDU as far as they may, as long as they neither acknowledge
it nor end the connection. -/
theorem received_dispatch (e : ConnectionEntry) (hslot : (s.withEntry e).OneSlot)
    (hinit : s.initialized = true) (hrel : s.network.Reliable) {frame : NDataFrame}
    (hack : ∀ seqNum, frame.dlFrame.source = e.remoteAddress →
      classify frame.dlFrame.tpdu.data = .tAck seqNum → ¬ awaits e seqNum)
    (hconnect : frame.dlFrame.source = e.remoteAddress →
      classify frame.dlFrame.tpdu.data = .tConnect → ¬ ControlActs (s.withEntry e) frame)
    (halive : ((s.withEntry e).dispatch frame).connectionTable.findConnection e.remoteAddress
      ≠ none) :
    ∃ e' out, Carries e.remoteAddress s ((s.withEntry e).dispatch frame) s.timebaseMs e' out ∧
      (retransmitState e).Received s.timebaseMs (retransmitState e') out := by
  by_cases hsource : frame.dlFrame.source = e.remoteAddress
  · cases hclass : classify frame.dlFrame.tpdu.data with
    | tConnect =>
      simp only [dispatch, hclass]
      exact received_handleTConnect e hinit hrel hsource hclass (hconnect hsource hclass)
    | tDisconnect =>
      simp only [dispatch, hclass] at halive
      exact absurd (findConnection_handleTDisconnect s e hsource) halive
    | tAck seqNum =>
      simp only [dispatch, hclass, hsource]
      rw [handleAck_self, ackedEntry, if_neg (hack seqNum hsource hclass)]
      exact received_quiet hinit hrel rfl rfl
    | tNak seqNum =>
      simp only [dispatch, hclass, hsource]
      exact received_handleNak e hinit hrel seqNum
    | tDataConnected seqNum =>
      simp only [dispatch, hclass, hsource]
      exact received_handleNumberedData e hinit hrel seqNum _ _
    | connectionless =>
      simp only [dispatch, hclass]
      exact received_connectionless e hinit hrel frame
  · exact received_of_other e hslot hinit hrel hsource

end Moves

/-! ## Runs -/

/-- A TPDU on its way through its repetitions: `count` of them are out. -/
structure InRepetition (remote : IndividualAddress) (tpdu : List UInt8) (max base : Nat)
    (count ticks waited : Nat) (s : TransportLayer) : Prop where
  slot : s.OneSlot
  initialized : s.initialized = true
  reliable : s.network.Reliable
  base_le : base ≤ s.network.sent.length
  out : repetitions remote base s = List.replicate count tpdu
  entry : ∃ e, s.connectionTable.connections = [e] ∧ e.remoteAddress = remote ∧
    RetransmitState.OnSchedule tpdu max count ticks waited s.timebaseMs (retransmitState e)

section Runs

variable {remote : IndividualAddress} {seqNum : UInt8} {tpdu : List UInt8}
  {max base count ticks waited : Nat} {s : TransportLayer}

theorem repetitions_of_carries {s s' : TransportLayer} {now : UInt32} {e' : ConnectionEntry}
    {out : List (List UInt8)} (hbase : base ≤ s.network.sent.length)
    (h : Carries remote s s' now e' out) :
    base ≤ s'.network.sent.length ∧
      repetitions remote base s' = repetitions remote base s ++ out := by
  rcases h.sent with ⟨frames, hsent, rfl⟩
  constructor
  · rw [hsent, List.length_append]
    exact hbase.trans (Nat.le_add_right _ _)
  · rw [repetitions, repetitions, hsent, List.drop_append_of_le_length hbase, dataTpdus, dataTpdus,
      dataTpdus, List.filter_append, List.map_append]

theorem InRepetition.processRetransmissions
    (h : InRepetition remote tpdu max base count ticks waited s) {now : UInt32}
    (hgap : (now - s.timebaseMs).toNat + 12000 < 2 ^ 32)
    (halive : (s.processRetransmissions now).connectionTable.findConnection remote ≠ none)
    {ticks' waited' : Nat}
    (hnext : RetransmitState.NextTick ticks waited (now - s.timebaseMs).toNat ticks' waited') :
    ∃ count', InRepetition remote tpdu max base count' ticks' waited'
      (s.processRetransmissions now) := by
  rcases h.entry with ⟨e, hconn, rfl, hschedule⟩
  rcases maintained_processRetransmissions hconn h.initialized h.reliable now halive with
    ⟨e', out, hcarries, hmove⟩
  rcases hschedule.maintained hgap hnext hmove with ⟨count', hschedule', hout⟩
  rcases repetitions_of_carries h.base_le hcarries with ⟨hbase, hreps⟩
  refine ⟨count', h.slot.processRetransmissions now, hcarries.initialized, hcarries.reliable, hbase,
    ?_, e', hcarries.entry, hcarries.address, ?_⟩
  · rw [hreps, h.out, hout]
  · rw [hcarries.time]
    exact hschedule'

theorem not_awaits_of_other {e : ConnectionEntry} {now : UInt32}
    (h : RetransmitState.OnSchedule tpdu max count ticks waited now (retransmitState e))
    (hnumber : classify tpdu = .tDataConnected seqNum) {frame : NDataFrame} {n : UInt8}
    (hclass : classify frame.dlFrame.tpdu.data = .tAck n)
    (hother : classify frame.dlFrame.tpdu.data ≠ .tAck seqNum) : ¬ awaits e n := by
  rintro ⟨hawait, hsame⟩
  cases h with
  | done _ hdone =>
    rw [show (retransmitState e).awaiting = e.pendingRetransmission from rfl, hawait] at hdone
    cases hdone
  | waiting h =>
    -- the number of the TPDU is the one the entry waits for
    have hpending := classify_numberedData (and_fifteen_lt e.pendingSeq) ⟨e.pendingApciRaw⟩
      e.pendingData.data
    have htpdu : buildTpdu (.create .numberedData (e.pendingSeq &&& 0x0F)) ⟨e.pendingApciRaw⟩
        e.pendingData.data = tpdu := h.tpdu_eq
    rw [htpdu, hnumber, ReceivedPdu.tDataConnected.injEq] at hpending
    rw [classify_tAck_masked hclass, ← hpending] at hsame
    rw [hclass, hsame] at hother
    exact hother rfl

theorem InRepetition.handleNetworkRx
    (h : InRepetition remote tpdu max base count ticks waited s)
    (hnumber : classify tpdu = .tDataConnected seqNum) {frame : NDataFrame}
    (hkept : KeptOpen remote seqNum s (.handleNetworkRx frame)) :
    ∃ count', InRepetition remote tpdu max base count' ticks waited (s.handleNetworkRx frame) := by
  rcases h.entry with ⟨e, hconn, rfl, hschedule⟩
  rcases hkept with ⟨halive, hquiet⟩
  by_cases hne : frame.dlFrame.tpdu.data = []
  · -- an empty TPDU is dropped
    have hsame : s.handleNetworkRx frame = s := by
      simp only [TransportLayer.handleNetworkRx, h.initialized, hne, Bool.not_true,
        Bool.false_eq_true, if_false, if_true]
    rw [hsame]
    exact ⟨count, h⟩
  · have hs := withEntry_eq_self hconn
    have hentry : s.startClock = s.startClock.withEntry e := by
      rw [← startClock_withEntry, hs]
    have hdispatch : s.handleNetworkRx frame = (s.startClock.withEntry e).dispatch frame := by
      rw [handleNetworkRx_eq_dispatch h.initialized hne, ← hentry]
    have halive' : ((s.startClock.withEntry e).dispatch frame).connectionTable.findConnection
        e.remoteAddress ≠ none := by
      rw [← hdispatch]
      exact halive
    have hclock : RetransmitState.OnSchedule tpdu max count ticks waited s.startClock.timebaseMs
        (retransmitState e) := by
      by_cases hzero : s.timebaseMs = 0
      · rw [hzero] at hschedule
        rw [startClock, if_pos hzero]
        exact hschedule.startClock
      · rw [startClock, if_neg hzero]
        exact hschedule
    have hacts : ControlActs (s.startClock.withEntry e) frame → ControlActs s frame := by
      rw [← hentry, ControlActs, ControlActs, table_startClock]
      exact id
    rcases received_dispatch (s := s.startClock) e (by rw [← hentry]; exact h.slot.startClock)
      (by rw [initialized_startClock, h.initialized])
      (by rw [network_startClock]; exact h.reliable)
      (fun n hsource hclass => not_awaits_of_other hclock hnumber hclass (hquiet hsource).1)
      (fun hsource hclass hdoes => (hquiet hsource).2 ⟨hclass, hacts hdoes⟩) halive' with
      ⟨e', out, hcarries, hmove⟩
    rw [← hdispatch] at hcarries
    have hcarries' := hcarries.of_sent (congrArg NetworkPort.sent (network_startClock s))
    rcases hclock.received (timebaseMs_startClock_ne s) hmove with ⟨count', hschedule', hout⟩
    rcases repetitions_of_carries h.base_le hcarries' with ⟨hbase, hreps⟩
    refine ⟨count', h.slot.handleNetworkRx frame, hcarries'.initialized, hcarries'.reliable, hbase,
      ?_, e', hcarries'.entry, hcarries'.address, ?_⟩
    · rw [hreps, h.out, hout]
    · rw [hcarries'.time]
      exact hschedule'

theorem InRepetition.run (h : InRepetition remote tpdu max base count ticks waited s)
    (hnumber : classify tpdu = .tDataConnected seqNum) {calls : List Call}
    (hcalls : Along step (KeptOpen remote seqNum) s calls) :
    ∃ count' waited', InRepetition remote tpdu max base count'
      (ticks + spacedCalls s waited calls) waited' (Lib.run step s calls) := by
  induction calls generalizing s count ticks waited with
  | nil => exact ⟨count, waited, h⟩
  | cons c calls ih =>
    rcases hcalls with ⟨hkept, hrest⟩
    cases c with
    | processRetransmissions now =>
      rcases hkept with ⟨halive, hgap⟩
      by_cases hlate : 12000 ≤ waited + (now - s.timebaseMs).toNat
      · rcases h.processRetransmissions hgap halive (Or.inl ⟨hlate, rfl, rfl⟩) with ⟨count', h'⟩
        rcases ih h' hrest with ⟨count'', waited', h''⟩
        refine ⟨count'', waited', ?_⟩
        rw [spacedCalls_process, if_pos hlate, Nat.add_comm (spacedCalls _ _ _) 1, ← Nat.add_assoc]
        exact h''
      · rcases h.processRetransmissions hgap halive
          (Or.inr ⟨Nat.lt_of_not_le hlate, rfl, rfl⟩) with ⟨count', h'⟩
        rcases ih h' hrest with ⟨count'', waited', h''⟩
        refine ⟨count'', waited', ?_⟩
        rw [spacedCalls_process, if_neg hlate]
        exact h''
    | handleNetworkRx frame =>
      rcases h.handleNetworkRx hnumber hkept with ⟨count', h'⟩
      rcases ih h' hrest with ⟨count'', waited', h''⟩
      exact ⟨count'', waited', h''⟩
    | _ => exact absurd hkept.2 id

theorem InRepetition.repeatedInFull
    (h : InRepetition remote tpdu max s.network.sent.length 0 0 0 s)
    (hnumber : classify tpdu = .tDataConnected seqNum) :
    RepeatedInFull remote seqNum tpdu max s := by
  intro calls hcalls
  rcases h.run hnumber hcalls with ⟨count, waited, hrun⟩
  rcases hrun.entry with ⟨e, -, -, hschedule⟩
  refine ⟨count, hrun.out, hschedule.count_le, ?_⟩
  intro hspaced
  apply hschedule.count_eq
  rw [Nat.zero_add]
  exact hspaced

end Runs

/-! ## Sends -/

/-- The ways to send data on a connection: in one call, or begun and polled, with so many polls that
find the transmission still pending. -/
inductive Sending where
  | frame (frame : TDataFrame)
  | data (index : ConnectionIndex) (octets : List UInt8)
  | polledFrame (frame : TDataFrame) (polls : Nat)
  | polledData (index : ConnectionIndex) (octets : List UInt8) (polls : Nat)

/-- The connection a send is for. -/
def Sending.connection (s : TransportLayer) : Sending → Option ConnectionEntry
  | .frame f => s.connectionFor f
  | .data index _ => s.connectionTable.getConnection index
  | .polledFrame f _ => s.connectionFor f
  | .polledData index _ _ => s.connectionTable.getConnection index

/-- The state after a poll that reports success, the given number of polls after the first one. -/
def pollUntil (poll : TransportLayer → Result OperationProgressState × TransportLayer) :
    Nat → TransportLayer → Option TransportLayer
  | 0, s =>
      match poll s with
      | (.ok .success, s) => some s
      | _ => none
  | polls + 1, s =>
      match poll s with
      | (.ok .pending, s) => pollUntil poll polls s
      | _ => none

/-- The state after a send that ended in success. -/
def Sending.result (s : TransportLayer) : Sending → Option TransportLayer
  | .frame f =>
      match s.sendFrame f with
      | (.ok (), s) => some s
      | _ => none
  | .data index octets =>
      match s.sendConnectedData index octets with
      | (.ok (), s) => some s
      | _ => none
  | .polledFrame f polls =>
      match s.beginTransmit f with
      | (.ok (), s) => pollUntil TransportLayer.pollTransmit polls s
      | _ => none
  | .polledData index octets polls =>
      match s.beginSendConnectedData index octets with
      | (.ok (), s) => pollUntil TransportLayer.pollConnectedDataSend polls s
      | _ => none

/-- The send succeeded and put a data TPDU, `first`, on the connection. -/
structure Accepted (s : TransportLayer) (send : Sending) (e : ConnectionEntry) (seqNum : UInt8)
    (first : NDataFrame) (s' : TransportLayer) : Prop where
  connection : send.connection s = some e
  result : send.result s = some s'
  sent : s'.network.sent = s.network.sent ++ [first]
  numbered : dataNumber e.remoteAddress first = some seqNum

/-- The state right after a send: the TPDU is the pending one, and its timer starts. -/
structure JustSent (s : TransportLayer) (e : ConnectionEntry) (first : NDataFrame)
    (s' : TransportLayer) : Prop where
  initialized : s'.initialized = true
  reliable : s'.network.Reliable
  entry : ∃ e', s'.connectionTable = (s.withEntry e').connectionTable ∧
    e'.remoteAddress = e.remoteAddress ∧
    ∃ seqNum apciRaw payload, retransmitState e'
        = ⟨true, seqNum, apciRaw, payload, 0, s'.timebaseMs, ackTimeoutMs, e.maxRetries⟩ ∧
      (retransmitState e').tpdu = first.dlFrame.tpdu.data

section Sends

variable {s s' : TransportLayer} {e : ConnectionEntry} {seqNum : UInt8} {first : NDataFrame}

theorem tpdu_masked (e : ConnectionEntry) (seqNum : UInt8) (h : e.pendingSeq = seqNum &&& 0x0F) :
    (retransmitState e).tpdu
      = buildTpdu (.create .numberedData (seqNum &&& 0x0F)) ⟨e.pendingApciRaw⟩
          e.pendingData.data := by
  show buildTpdu (.create .numberedData (e.pendingSeq &&& 0x0F)) _ _ = _
  rw [h, and_fifteen_idem]
  rfl

/-- A frame for an open connection that passes the hook goes out without a TPDU, or becomes the
pending TPDU. -/
theorem buildNetworkTxFrame_cases {frame : TDataFrame} {nFrame : NDataFrame} {t : TransportLayer}
    (hconn : s.connectionTable.connections = [e]) (hfor : s.connectionFor frame = some e)
    (hbuild : s.buildNetworkTxFrame frame = (.ok nFrame, t)) :
    nFrame.dlFrame.tpdu.data = [] ∨
      ∃ hook e', t = ({ s with txHook := hook }.withEntry e') ∧
        e'.remoteAddress = e.remoteAddress ∧
        ∃ seqNum apciRaw payload, retransmitState e'
            = ⟨true, seqNum, apciRaw, payload, 0, s.timebaseMs, ackTimeoutMs, e.maxRetries⟩ ∧
          (retransmitState e').tpdu = nFrame.dlFrame.tpdu.data := by
  have hs := withEntry_eq_self hconn
  obtain ⟨r, hook, htrans⟩ : ∃ r hook, s.transformedFor frame e = (r, hook) := ⟨_, _, rfl⟩
  have happly : s.txHook.apply { frame with securityTpci6 := numberedTpci6 e.sequenceNumber }
      = (r, hook) := htrans
  cases r with
  | error err =>
    simp only [buildNetworkTxFrame, hfor, happly] at hbuild
    cases hbuild
  | ok work =>
    by_cases hne : work.tpdu.data = []
    · left
      simp only [buildNetworkTxFrame, hfor, happly, hne, if_true] at hbuild
      cases hbuild
      exact hne
    · right
      have hnumbered := buildNetworkTxFrame_on_connection (s := s) (e := e) (by rw [hs]; exact hfor)
        htrans hne
      rw [hs, hbuild] at hnumbered
      cases hnumbered
      exact ⟨hook, _, rfl, rfl, _, _, _, rfl, tpdu_masked _ e.sequenceNumber rfl⟩

theorem tpdu_ne_nil_of_number {remote : IndividualAddress} {f : NDataFrame}
    (h : dataNumber remote f = some seqNum) : f.dlFrame.tpdu.data ≠ [] := by
  intro hnil
  rw [dataNumber, hnil, classify_nil] at h
  split at h
  · cases h
  · cases h

theorem justSent_of_build {frame : TDataFrame} {nFrame : NDataFrame} {t : TransportLayer}
    (hconn : s.connectionTable.connections = [e]) (hfor : s.connectionFor frame = some e)
    (hbuild : s.buildNetworkTxFrame frame = (.ok nFrame, t)) (hinit : s'.initialized = true)
    (hrel : s'.network.Reliable) (hsent : s'.network.sent = s.network.sent ++ [nFrame])
    (htime : s'.timebaseMs = t.timebaseMs) (htable : s'.connectionTable = t.connectionTable)
    (hfirst : s'.network.sent = s.network.sent ++ [first])
    (hnumber : dataNumber e.remoteAddress first = some seqNum) : JustSent s e first s' := by
  have hsame : nFrame = first := by
    rw [hsent] at hfirst
    exact List.singleton_inj.mp (List.append_cancel_left hfirst)
  subst hsame
  rcases buildNetworkTxFrame_cases hconn hfor hbuild with
    hnil | ⟨hook, e', rfl, haddr, seqNum', apciRaw, payload, hstate, htpdu⟩
  · exact absurd hnil (tpdu_ne_nil_of_number hnumber)
  · refine ⟨hinit, hrel, e', htable, haddr, seqNum', apciRaw, payload, ?_, htpdu⟩
    rw [hstate, htime]
    rfl

/-- `sendFrame`. -/
theorem justSent_frame {frame : TDataFrame} (hrel : s.network.Reliable)
    (hconn : s.connectionTable.connections = [e])
    (h : Accepted s (.frame frame) e seqNum first s') : JustSent s e first s' := by
  have hresult := h.result
  simp only [Sending.result] at hresult
  split at hresult
  · next t hsend =>
    cases hresult
    rw [TransportLayer.sendFrame] at hsend
    split at hsend
    · cases hsend
    · next hinit =>
      split at hsend
      · cases hsend
      · next nFrame t hbuild =>
        rcases buildNetworkTxFrame_fields hbuild with ⟨hnet, hinit'⟩
        have hrel' : t.network.Reliable := by
          rw [hnet]
          exact hrel
        rw [networkSend_of_reliable hrel'] at hsend
        cases hsend
        refine justSent_of_build hconn h.connection hbuild ?_ (hrel'.put nFrame) ?_ rfl rfl h.sent
          h.numbered
        · exact hinit'.trans (by simpa using hinit)
        · show t.network.sent ++ [nFrame] = _
          rw [hnet]
  · cases hresult

/-- `sendConnectedData`. -/
theorem justSent_data {index : ConnectionIndex} {octets : List UInt8} (hrel : s.network.Reliable)
    (hconn : s.connectionTable.connections = [e])
    (h : Accepted s (.data index octets) e seqNum first s') : JustSent s e first s' := by
  have hs := withEntry_eq_self hconn
  have hresult := h.result
  simp only [Sending.result] at hresult
  split at hresult
  · next t hsend =>
    cases hresult
    -- success means that every check was passed
    by_cases hinit : s.initialized = true
    · by_cases hgo : octets.length ≤ maxApduLength ∧ ∃ e', s.connectedDataEntry index = .ok e'
      · rcases hgo with ⟨hlen, e', hcheck⟩
        rcases connectedDataEntry_eq_ok.mp hcheck with ⟨hget, hopen, hfree⟩
        have hconnection : s.connectionTable.getConnection index = some e := h.connection
        rw [hconnection] at hget
        cases hget
        have hindex : e.index = index := by
          rw [← hs, getConnection_withEntry] at hconnection
          split at hconnection
          · next hindex => exact hindex
          · cases hconnection
        subst hindex
        have hfreely := sendConnectedData_free s e hinit hlen hopen hfree
        rw [hs, hsend, networkSend_of_reliable hrel] at hfreely
        cases hfreely
        have hsame := List.append_cancel_left h.sent
        refine ⟨hinit, hrel.put _, _, rfl, rfl, _, _, _, rfl, ?_⟩
        rw [← List.singleton_inj.mp hsame]
        exact tpdu_masked _ e.sequenceNumber rfl
      · have hsame : s' = s := by
          have hrefused := sendConnectedData_refused hgo
          rw [hsend] at hrefused
          exact hrefused
        have hsent := h.sent
        rw [hsame] at hsent
        exact absurd (List.self_eq_append_right.mp hsent) (List.cons_ne_nil _ _)
    · rw [TransportLayer.sendConnectedData, Bool.eq_false_of_not_eq_true hinit] at hsend
      cases hsend
  · cases hresult

/-- Polls of a transmission in flight, up to its success. The states it is polled in differ by the
network only. -/
theorem pollUntil_success {poll : TransportLayer → Result OperationProgressState × TransportLayer}
    (during after : NetworkPort → TransportLayer)
    (hpending : ∀ n n', n.pollTransmit = (.ok .pending, n') →
      poll (during n) = (.ok .pending, during n'))
    (hsuccess : ∀ n n', n.pollTransmit = (.ok .success, n') →
      poll (during n) = (.ok .success, after n'))
    {polls : Nat} {n : NetworkPort} {frame : NDataFrame} (hrel : n.Reliable)
    (hflight : n.inFlight = some frame) (h : pollUntil poll polls (during n) = some s') :
    ∃ n', s' = after n' ∧ n'.sent = n.sent ++ [frame] ∧ n'.Reliable := by
  induction polls generalizing n with
  | zero =>
    rcases hrel.pollTransmit_cases hflight with ⟨-, hpoll⟩ | hpoll
    · rw [pollUntil, hpending _ _ hpoll] at h
      cases h
    · rw [pollUntil, hsuccess _ _ hpoll] at h
      cases h
      exact ⟨n.land frame, rfl, rfl, hrel.land frame⟩
  | succ polls ih =>
    rcases hrel.pollTransmit_cases hflight with ⟨-, hpoll⟩ | hpoll
    · rw [pollUntil, hpending _ _ hpoll] at h
      have hrest := ih hrel.wait hflight h
      exact hrest
    · rw [pollUntil, hsuccess _ _ hpoll] at h
      cases h

/-- `beginTransmit` and `pollTransmit`. -/
theorem justSent_polledFrame {frame : TDataFrame} {polls : Nat} (hrel : s.network.Reliable)
    (hconn : s.connectionTable.connections = [e])
    (h : Accepted s (.polledFrame frame polls) e seqNum first s') : JustSent s e first s' := by
  have hresult := h.result
  simp only [Sending.result] at hresult
  split at hresult
  · next t hbegin =>
    rw [TransportLayer.beginTransmit] at hbegin
    split at hbegin
    · cases hbegin
    · next hinit =>
      split at hbegin
      · cases hbegin
      · split at hbegin
        · cases hbegin
        · next nFrame u hbuild =>
          rcases buildNetworkTxFrame_fields hbuild with ⟨hnet, hinit'⟩
          have hinit'' : u.initialized = true := hinit'.trans (by simpa using hinit)
          have hrel' : u.network.Reliable := by
            rw [hnet]
            exact hrel
          split at hbegin
          · cases hbegin
          · next v hlaunch =>
            rw [networkBegin_of_reliable hrel' (noFlight_of_networkBegin hlaunch)] at hlaunch
            cases hlaunch
            cases hbegin
            obtain ⟨n', rfl, hsent, hrel''⟩ := pollUntil_success
              (fun n => { u with network := n, sendActive := true })
              (fun n => { u with network := n, sendActive := false })
              (fun n n' hpoll => by
                simp only [TransportLayer.pollTransmit, hinit'', Bool.not_true, Bool.false_eq_true,
                  if_false, networkPoll, hpoll])
              (fun n n' hpoll => by
                simp only [TransportLayer.pollTransmit, hinit'', Bool.not_true, Bool.false_eq_true,
                  if_false, networkPoll, hpoll])
              (hrel'.launch nFrame) rfl hresult
            refine justSent_of_build hconn h.connection hbuild hinit'' hrel'' ?_ rfl rfl h.sent
              h.numbered
            show n'.sent = _
            rw [hsent, ← hnet]
            rfl
  · cases hresult

/-- `beginSendConnectedData` and `pollConnectedDataSend`. -/
theorem justSent_polledData {index : ConnectionIndex} {octets : List UInt8} {polls : Nat}
    (hrel : s.network.Reliable) (hconn : s.connectionTable.connections = [e])
    (h : Accepted s (.polledData index octets polls) e seqNum first s') :
    JustSent s e first s' := by
  have hs := withEntry_eq_self hconn
  have hresult := h.result
  simp only [Sending.result] at hresult
  split at hresult
  · next t hbegin =>
    rw [TransportLayer.beginSendConnectedData] at hbegin
    split at hbegin
    · cases hbegin
    · next hinit =>
      have hinit' : s.initialized = true := by simpa using hinit
      split at hbegin
      · next hlen =>
        split at hbegin
        · cases hbegin
        · split at hbegin
          · cases hbegin
          · next e' hcheck =>
            rcases connectedDataEntry_eq_ok.mp hcheck with ⟨hget, hopen, hfree⟩
            have hconnection : s.connectionTable.getConnection index = some e := h.connection
            rw [hconnection] at hget
            cases hget
            have hindex : e.index = index := by
              rw [← hs, getConnection_withEntry] at hconnection
              split at hconnection
              · next hindex => exact hindex
              · cases hconnection
            dsimp only at hbegin
            split at hbegin
            · cases hbegin
            · next v hlaunch =>
              rw [networkBegin_of_reliable hrel (noFlight_of_networkBegin hlaunch)] at hlaunch
              cases hlaunch
              cases hbegin
              subst hindex
              obtain ⟨op, hop⟩ : ∃ op : ConnectedSendOperationState,
                  op = ⟨true, e.index, e.sequenceNumber &&& 0x0F, ⟨octets, hlen⟩⟩ := ⟨_, rfl⟩
              have hactive : op.active = true := by rw [hop]
              rw [← hop] at hresult
              obtain ⟨n', rfl, hsent, hrel'⟩ := pollUntil_success
                (fun n => { s with network := n, connectedSendOperation := op })
                (fun n => { s with network := n, connectedSendOperation := {} }.withEntry
                  (transmitted e op s.timebaseMs))
                (fun n n' hpoll => by
                  simp only [TransportLayer.pollConnectedDataSend, hinit', hactive, Bool.not_true,
                    Bool.false_eq_true, if_false, networkPoll, hpoll])
                (fun n n' hpoll => by
                  have hstep := pollConnectedDataSend_success
                    (s := { s with network := n, connectedSendOperation := op }) (e := e) hinit'
                    hactive (by rw [hop]) hopen hpoll
                  rw [withEntry_eq_self (s := { s with network := n, connectedSendOperation := op })
                    hconn] at hstep
                  exact hstep)
                (hrel.launch _) rfl hresult
              have hfirst : n'.sent = s.network.sent ++ [first] := h.sent
              rw [hsent] at hfirst
              refine ⟨hinit', hrel', _, rfl, rfl, _, _, _, rfl, ?_⟩
              rw [← List.singleton_inj.mp (List.append_cancel_left hfirst), hop]
              exact tpdu_masked _ e.sequenceNumber rfl
      · cases hbegin
  · cases hresult

theorem Accepted.justSent {send : Sending} (h : Accepted s send e seqNum first s')
    (hrel : s.network.Reliable) (hconn : s.connectionTable.connections = [e]) :
    JustSent s e first s' := by
  cases send with
  | frame frame => exact justSent_frame hrel hconn h
  | data index octets => exact justSent_data hrel hconn h
  | polledFrame frame polls => exact justSent_polledFrame hrel hconn h
  | polledData index octets polls => exact justSent_polledData hrel hconn h

theorem Accepted.connections {send : Sending} (h : Accepted s send e seqNum first s')
    (hslot : s.OneSlot) : s.connectionTable.connections = [e] := by
  have hfound : s.withEntry e = s := by
    cases send with
    | frame frame =>
      exact (hslot.withEntry_of_find (findConnection_of_connectionFor h.connection).1).1
    | data index octets => exact (hslot.withEntry_of_get h.connection).1
    | polledFrame frame polls =>
      exact (hslot.withEntry_of_find (findConnection_of_connectionFor h.connection).1).1
    | polledData index octets polls => exact (hslot.withEntry_of_get h.connection).1
  rw [← hfound]
  rfl

theorem oneSlot_withEntry {e' : ConnectionEntry} (hslot : s.OneSlot)
    (hconn : s.connectionTable.connections = [e])
    (htable : s'.connectionTable = (s.withEntry e').connectionTable) : s'.OneSlot := by
  refine hslot.of_table ?_ ?_ ?_
  · rw [htable, hconn]
    exact le_refl 1
  · rw [htable]
    rfl
  · rw [htable]
    rfl

theorem drop_two_tpdu (r : RetransmitState) : r.tpdu.drop 2 = r.payload.data := by
  rw [RetransmitState.tpdu, buildTpdu_numberedData (and_fifteen_lt _)]
  rfl

theorem JustSent.inRepetition (h : JustSent s e first s') (hslot : s.OneSlot)
    (hconn : s.connectionTable.connections = [e])
    (hpay : first.dlFrame.tpdu.data.drop 2 ≠ [] ∨ e.maxRetries = 0) :
    InRepetition e.remoteAddress first.dlFrame.tpdu.data e.maxRetries.toNat s'.network.sent.length
      0 0 0 s' := by
  rcases h.entry with ⟨e', htable, haddr, seqNum, apciRaw, payload, hstate, htpdu⟩
  have hconn' : s'.connectionTable.connections = [e'] := by
    rw [htable]
    rfl
  refine ⟨oneSlot_withEntry hslot hconn htable, h.initialized, h.reliable, le_refl _, ?_, e', hconn',
    haddr, .waiting ?_⟩
  · rw [repetitions, List.drop_length]
    rfl
  · have hpayload : first.dlFrame.tpdu.data.drop 2 = (retransmitState e').payload.data := by
      rw [← htpdu, drop_two_tpdu]
    have helapsed : (retransmitState e').elapsed s'.timebaseMs = 0 := by
      rw [RetransmitState.elapsed, hstate, UInt32.sub_self]
      rfl
    have htimeout : (retransmitState e').timeoutMs.toNat = 3000 := by
      rw [hstate]
      rfl
    refine ⟨by rw [hstate], by rw [hstate], htpdu, ?_, by rw [hstate]; rfl, Nat.zero_le _, ?_, ?_, ?_,
      ?_, ?_⟩
    · rcases hpay with hne | hzero
      · exact Or.inr (by rw [← hpayload]; exact hne)
      · exact Or.inl (by rw [hzero]; rfl)
    · omega
    · omega
    · omega
    · intro _
      omega
    · exact Or.inr (Or.inr ⟨rfl, Or.inl (Nat.zero_le _)⟩)

end Sends

/-! ## Data without payload -/

/-- A `T_NAK` of the peer. -/
def nakFrom (remote own : IndividualAddress) : NDataFrame := controlFrame remote own (.nak 0) .system

/-- A run in which the peer keeps the connection open with a `T_NAK` before every maintenance call,
five seconds apart. -/
def nakRun (remote : IndividualAddress) : Nat → TransportLayer → List Call
  | 0, _ => []
  | rounds + 1, s =>
      let s₁ := s.step (.handleNetworkRx (nakFrom remote s.ownAddress))
      .handleNetworkRx (nakFrom remote s.ownAddress) ::
        .processRetransmissions (s₁.timebaseMs + 5000) ::
        nakRun remote rounds (s₁.step (.processRetransmissions (s₁.timebaseMs + 5000)))

/-- An entry without a pending payload that has repetitions left. -/
structure Unpaid (remote : IndividualAddress) (e : ConnectionEntry) : Prop where
  address : e.remoteAddress = remote
  noPayload : e.pendingData.data = []
  left : e.retransmitCount < e.maxRetries

section NoPayload

variable {remote : IndividualAddress} {s : TransportLayer} {e : ConnectionEntry}

theorem Unpaid.nakedEntry (h : Unpaid remote e) (seqNum : UInt8) (now now' : UInt32) :
    Unpaid remote (stamped (nakedEntry e seqNum now) now') := by
  rw [TransportLayer.nakedEntry]
  split
  · exact ⟨h.address, h.noPayload, h.left⟩
  · exact ⟨h.address, h.noPayload, h.left⟩

theorem Unpaid.dueEntry (h : Unpaid remote e) (now : UInt32) :
    Unpaid remote (dueEntry now e) := by
  rw [TransportLayer.dueEntry]
  split
  · rw [if_pos h.left]
    exact ⟨h.address, h.noPayload, h.left⟩
  · exact h

theorem classify_nakFrom (remote own : IndividualAddress) :
    classify (nakFrom remote own).dlFrame.tpdu.data = .tNak 0 := by
  have hnak : classify (buildTpdu (.nak 0) ⟨0⟩ []) = .tNak 0 := by decide
  exact hnak

/-- The `T_NAK` is taken note of. -/
theorem step_nakFrom (hinit : s.initialized = true) (hconn : s.connectionTable.connections = [e])
    (haddr : e.remoteAddress = remote) :
    s.step (.handleNetworkRx (nakFrom remote s.ownAddress))
      = s.startClock.withEntry
          (stamped (nakedEntry e 0 s.startClock.timebaseMs) s.startClock.timebaseMs) := by
  have hne : (nakFrom remote s.ownAddress).dlFrame.tpdu.data ≠ [] := by
    intro hnil
    have hclass := classify_nakFrom remote s.ownAddress
    rw [hnil, classify_nil] at hclass
    cases hclass
  have hs := withEntry_eq_self hconn
  have hentry : s.startClock = s.startClock.withEntry e := by
    rw [← startClock_withEntry, hs]
  have hsource : (nakFrom remote s.ownAddress).dlFrame.source = e.remoteAddress := haddr.symm
  rw [step, handleNetworkRx_eq_dispatch hinit hne, hentry]
  simp only [dispatch, classify_nakFrom, hsource]
  exact handleNak_self s.startClock e 0

theorem processRetransmissions_unpaid (hinit : s.initialized = true)
    (hunpaid : Unpaid remote e) (hactive : e.lastActivityTimeMs = s.timebaseMs) :
    (s.withEntry e).processRetransmissions (s.timebaseMs + 5000)
      = (s.withTime (s.timebaseMs + 5000)).withEntry (dueEntry (s.timebaseMs + 5000) e) := by
  have hdue : sendDue (s.withTime (s.timebaseMs + 5000)) (s.timebaseMs + 5000) e
      = (s.withTime (s.timebaseMs + 5000), dueEntry (s.timebaseMs + 5000) e) := by
    rw [sendDue, if_neg (fun h => h.2 hunpaid.noPayload)]
  have hkept : ¬ ConnectionTable.reachedTimeout (s.timebaseMs + 5000) connectionTimeoutMs
      (dueEntry (s.timebaseMs + 5000) e) = true := by
    rw [ConnectionTable.reachedTimeout, (dueEntry_fields _ e).2.2, hactive,
      UInt32.add_comm, UInt32.add_sub_cancel]
    decide
  rw [processRetransmissions_withEntry s e _ hinit, hdue, removeIdle_withEntry, if_neg hkept]

/-- One round of the run: from `s` over `s₁` to `s₂`, without a frame. -/
structure NakRound (remote : IndividualAddress) (seqNum : UInt8) (s s₁ s₂ : TransportLayer)
    (e₂ : ConnectionEntry) : Prop where
  first : s.step (.handleNetworkRx (nakFrom remote s.ownAddress)) = s₁
  second : s₁.step (.processRetransmissions (s₁.timebaseMs + 5000)) = s₂
  kept₁ : KeptOpen remote seqNum s (.handleNetworkRx (nakFrom remote s.ownAddress))
  kept₂ : KeptOpen remote seqNum s₁ (.processRetransmissions (s₁.timebaseMs + 5000))
  initialized : s₂.initialized = true
  entry : s₂.connectionTable.connections = [e₂]
  unpaid : Unpaid remote e₂
  network : s₂.network = s.network

theorem elapsed_five_seconds (now : UInt32) : (now + 5000 - now).toNat = 5000 := by
  rw [UInt32.add_comm, UInt32.add_sub_cancel]
  rfl

theorem nakRound (hinit : s.initialized = true) (hconn : s.connectionTable.connections = [e])
    (hunpaid : Unpaid remote e) (seqNum : UInt8) :
    ∃ s₁ s₂ e₂, NakRound remote seqNum s s₁ s₂ e₂ := by
  obtain ⟨c, hc⟩ : ∃ c, c = stamped (nakedEntry e 0 s.startClock.timebaseMs)
      s.startClock.timebaseMs := ⟨_, rfl⟩
  have hunpaid₁ : Unpaid remote c := by
    rw [hc]
    exact hunpaid.nakedEntry 0 _ _
  have hfirst : s.step (.handleNetworkRx (nakFrom remote s.ownAddress))
      = s.startClock.withEntry c := by
    rw [step_nakFrom hinit hconn hunpaid.address, ← hc]
  have hinit₁ : s.startClock.initialized = true := by rw [initialized_startClock, hinit]
  have hsecond := processRetransmissions_unpaid hinit₁ hunpaid₁ (by rw [hc]; rfl)
  have hgap := elapsed_five_seconds s.startClock.timebaseMs
  obtain ⟨now, hnow⟩ : ∃ now, now = s.startClock.timebaseMs + 5000 := ⟨_, rfl⟩
  rw [← hnow] at hsecond hgap
  have hunpaid₂ := hunpaid₁.dueEntry now
  refine ⟨s.startClock.withEntry c, (s.startClock.withTime now).withEntry (dueEntry now c),
    dueEntry now c, hfirst, ?_, ⟨?_, ?_⟩, ⟨?_, ?_⟩, hinit₁, rfl, hunpaid₂, network_startClock s⟩
  · rw [timebaseMs_withEntry, ← hnow]
    exact hsecond
  · rw [hfirst, findConnection_withEntry, if_pos hunpaid₁.address]
    exact Option.some_ne_none c
  · intro _
    rw [classify_nakFrom]
    exact ⟨ReceivedPdu.noConfusion, fun h => ReceivedPdu.noConfusion h.1⟩
  · rw [timebaseMs_withEntry, ← hnow, step, hsecond, findConnection_withEntry,
      if_pos hunpaid₂.address]
    exact Option.some_ne_none _
  · rw [timebaseMs_withEntry, ← hnow]
    show (now - s.startClock.timebaseMs).toNat + 12000 < 2 ^ 32
    rw [hgap]
    decide

/-- No repetition. The run keeps the connection, puts nothing on the network, and has as many
spaced calls as one likes. -/
theorem nakRun_silent (hinit : s.initialized = true) (hconn : s.connectionTable.connections = [e])
    (hunpaid : Unpaid remote e) (seqNum : UInt8) (rounds : Nat) {waited : Nat}
    (hwaited : waited < 12000) :
    Along step (KeptOpen remote seqNum) s (nakRun remote rounds s) ∧
      (run step s (nakRun remote rounds s)).network = s.network ∧
      waited + 5000 * rounds < 17000 * (spacedCalls s waited (nakRun remote rounds s) + 1) := by
  induction rounds generalizing s e waited with
  | zero =>
    refine ⟨trivial, rfl, ?_⟩
    omega
  | succ rounds ih =>
    rcases nakRound hinit hconn hunpaid seqNum with ⟨s₁, s₂, e₂, hround⟩
    have hrun : nakRun remote (rounds + 1) s
        = .handleNetworkRx (nakFrom remote s.ownAddress) ::
            .processRetransmissions (s₁.timebaseMs + 5000) :: nakRun remote rounds s₂ := by
      rw [nakRun, hround.first, hround.second]
    have hspaced : spacedCalls s waited (nakRun remote (rounds + 1) s)
        = if 12000 ≤ waited + 5000 then spacedCalls s₂ 0 (nakRun remote rounds s₂) + 1
          else spacedCalls s₂ (waited + 5000) (nakRun remote rounds s₂) := by
      rw [hrun, spacedCalls_rx, hround.first, spacedCalls_process, elapsed_five_seconds,
        hround.second]
    -- what is left of the wait after the round
    obtain ⟨waited', hwaited', hnext⟩ : ∃ waited', waited' < 12000 ∧
        ((12000 ≤ waited + 5000 ∧ waited' = 0) ∨
          (¬ 12000 ≤ waited + 5000 ∧ waited' = waited + 5000)) := by
      by_cases hlate : 12000 ≤ waited + 5000
      · exact ⟨0, by decide, Or.inl ⟨hlate, rfl⟩⟩
      · exact ⟨waited + 5000, Nat.lt_of_not_le hlate, Or.inr ⟨hlate, rfl⟩⟩
    rcases ih hround.initialized hround.entry hround.unpaid hwaited' with ⟨halong, hnet, hcount⟩
    refine ⟨?_, ?_, ?_⟩
    · rw [hrun, along_cons, along_cons, hround.first, hround.second]
      exact ⟨hround.kept₁, hround.kept₂, halong⟩
    · rw [hrun, run_cons, run_cons, hround.first, hround.second, hnet, hround.network]
    · rw [hspaced]
      rcases hnext with ⟨hlate, rfl⟩ | ⟨hearly, rfl⟩
      · rw [if_pos hlate]
        omega
      · rw [if_neg hearly, Nat.mul_succ, Nat.add_comm (5000 * rounds), ← Nat.add_assoc]
        exact hcount

theorem not_repeatedInFull (hinit : s.initialized = true)
    (hconn : s.connectionTable.connections = [e]) (hunpaid : Unpaid remote e) (seqNum : UInt8)
    (tpdu : List UInt8) : ¬ RepeatedInFull remote seqNum tpdu e.maxRetries.toNat s := by
  intro hfull
  rcases nakRun_silent hinit hconn hunpaid seqNum (4 * e.maxRetries.toNat)
    (by decide : 0 < 12000) with ⟨halong, hnet, hspaced⟩
  rcases hfull _ halong with ⟨count, hout, -, hall⟩
  have hnone : repetitions remote s.network.sent.length
      (run step s (nakRun remote (4 * e.maxRetries.toNat) s)) = [] := by
    rw [repetitions, hnet, List.drop_length]
    rfl
  have hcount : count = 0 := by
    rw [hnone] at hout
    exact (List.replicate_eq_nil_iff tpdu).mp hout.symm
  have hleft := UInt8.lt_iff_toNat_lt.mp hunpaid.left
  have hmax := hall (by omega)
  omega

end NoPayload

/-- Repetition. A data TPDU that was sent on a connection, in whichever way, is repeated in full
while the peer keeps the connection open without acknowledging it, exactly if it has a payload (or
the connection allows no repetitions at all). -/
theorem repeatedInFull_iff {s s' : TransportLayer} {send : Sending} {e : ConnectionEntry}
    {seqNum : UInt8} {first : NDataFrame} (hreach : s.Reachable) (hrel : s.network.Reliable)
    (h : Accepted s send e seqNum first s') :
    RepeatedInFull e.remoteAddress seqNum first.dlFrame.tpdu.data e.maxRetries.toNat s'
      ↔ first.dlFrame.tpdu.data.drop 2 ≠ [] ∨ e.maxRetries = 0 := by
  have hslot := reachable_oneSlot hreach
  have hconn := h.connections hslot
  have hsent := h.justSent hrel hconn
  constructor
  · intro hfull
    by_contra hnot
    rw [not_or, not_not] at hnot
    rcases hnot with ⟨hempty, hretries⟩
    rcases hsent.entry with ⟨e', htable, haddr, seqNum', apciRaw, payload, hstate, htpdu⟩
    have hmax : e'.maxRetries = e.maxRetries := congrArg RetransmitState.maxRetries hstate
    have hcount : e'.retransmitCount = 0 := congrArg RetransmitState.count hstate
    have hunpaid : Unpaid e.remoteAddress e' := by
      refine ⟨haddr, ?_, ?_⟩
      · rw [← htpdu, drop_two_tpdu] at hempty
        exact hempty
      · rw [hcount, hmax]
        exact UInt8.pos_iff_ne_zero.mpr hretries
    have hconn' : s'.connectionTable.connections = [e'] := by
      rw [htable]
      rfl
    rw [← hmax] at hfull
    exact not_repeatedInFull hsent.initialized hconn' hunpaid seqNum _ hfull
  · intro hpay
    have hnumber : classify first.dlFrame.tpdu.data = .tDataConnected seqNum := by
      have hnumbered := h.numbered
      rw [dataNumber] at hnumbered
      split at hnumbered
      · split at hnumbered
        · next hclass =>
          cases hnumbered
          exact hclass
        · cases hnumbered
      · cases hnumbered
    exact (hsent.inRepetition hslot hconn hpay).repeatedInFull hnumber

/-- Three octets sent to 1.1.2 are repeated in full. -/
theorem repeatedInFull_three_octets :
    RepeatedInFull ⟨0x1102⟩ 0 [0x40, 0x00, 1, 2, 3] 3
      (openedByPeer.step (.sendConnectedData ⟨0⟩ [1, 2, 3])) := by
  have hok : (openedByPeer.sendConnectedData ⟨0⟩ [1, 2, 3]).1 = .ok () := by decide
  obtain ⟨e, hget⟩ := Option.isSome_iff_exists.mp
    (by decide : (openedByPeer.connectionTable.getConnection ⟨0⟩).isSome = true)
  have hall : ∀ e ∈ openedByPeer.connectionTable.connections,
      e.remoteAddress = ⟨0x1102⟩ ∧ e.maxRetries = 3 := by decide
  rcases hall e (List.mem_of_find?_eq_some hget) with ⟨haddr, hmax⟩
  have haccepted : Accepted openedByPeer (.data ⟨0⟩ [1, 2, 3]) e 0
      (numberedDataFrame ⟨0x1101⟩ ⟨0x1102⟩ 0 0 ⟨[1, 2, 3], by decide⟩ .low)
      (openedByPeer.step (.sendConnectedData ⟨0⟩ [1, 2, 3])) := by
    refine ⟨hget, ?_, by decide, ?_⟩
    · have hsend : openedByPeer.sendConnectedData ⟨0⟩ [1, 2, 3]
          = (.ok (), openedByPeer.step (.sendConnectedData ⟨0⟩ [1, 2, 3])) := Prod.ext hok rfl
      simp only [Sending.result, hsend]
    · rw [haddr]
      decide
  have hfull := (repeatedInFull_iff reachable_openedByPeer ⟨by decide, by decide⟩ haccepted).mpr
    (Or.inl (by decide))
  rw [haddr, hmax] at hfull
  exact hfull

/-- A service without payload, sent to 1.1.2 as `43 00`, is accepted but not repeated in full. -/
theorem empty_payload_not_repeated :
    (openedByPeer.sendFrame (answerFrame [0x03, 0x00])).1 = .ok () ∧
      (openedByPeer.sendFrame (answerFrame [0x03, 0x00])).2.network.sent.map
        (fun f => f.dlFrame.tpdu.data) = [[0x43, 0x00]] ∧
      ¬ RepeatedInFull ⟨0x1102⟩ 0 [0x43, 0x00] 3
        (openedByPeer.step (.sendFrame (answerFrame [0x03, 0x00]))) := by
  refine ⟨by decide, by decide, ?_⟩
  obtain ⟨e, he⟩ := List.length_eq_one_iff.mp (by decide :
    (openedByPeer.step (.sendFrame (answerFrame [0x03, 0x00]))).connectionTable.connections.length
      = 1)
  have hall : ∀ e ∈ (openedByPeer.step
      (.sendFrame (answerFrame [0x03, 0x00]))).connectionTable.connections,
      e.remoteAddress = ⟨0x1102⟩ ∧ e.pendingData.data = [] ∧
        e.retransmitCount < e.maxRetries ∧ e.maxRetries.toNat = 3 := by decide
  rcases hall e (by rw [he]; exact List.mem_cons_self) with ⟨haddr, hempty, hleft, hmax⟩
  have hnot := not_repeatedInFull (by decide) he ⟨haddr, hempty, hleft⟩ 0 [0x43, 0x00]
  rw [hmax] at hnot
  exact hnot

end TransportLayer

end KnxStack.Transport
