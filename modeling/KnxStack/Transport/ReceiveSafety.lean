import KnxStack.Transport.Calls

/-!
# What a received frame may touch

A connection is point-to-point and open: data may go up as connected data only from a peer whose
connection is in `connected`, and only frames addressed to this device may open, reopen or close a
connection. The dispatcher looks at the control field alone and the handlers look up the
connection by the source of the frame, so both hold exactly when the frame is none of the two kinds
that slip through (`respectsConnections_iff`).
-/

set_option autoImplicit false

namespace KnxStack.Transport

open KnxStack.Lib KnxStack.Lib.Words KnxStack.Protocol KnxStack.Datalink

namespace TransportLayer

/-- Frames that went to the upper layer, through the callback or the queue, between two states. -/
def handedUp (before after : TransportLayer) : List TDataFrame :=
  after.delivered.drop before.delivered.length ++ after.rxQueue.drop before.rxQueue.length

/-- Frames that went to the network between two states. -/
def answers (before after : TransportLayer) : List NDataFrame :=
  after.network.sent.drop before.network.sent.length

/-- Changes of the set of connections between two states. -/
def tableEvents (before after : TransportLayer) : List TableEvent :=
  after.journal.drop before.journal.length

/-- Connected data comes from an open connection of the frame's source, and connections change only
for a frame to an individual address. -/
def Allowed (s : TransportLayer) (frame : NDataFrame) (up : List TDataFrame)
    (events : List TableEvent) : Prop :=
  (∀ f ∈ up, f.service = .connected →
      ∃ e, s.connectionTable.findConnection frame.dlFrame.source = some e ∧
        e.stateMachine.state = .connected) ∧
    ∀ ev ∈ events, frame.dlFrame.destinationType = .individual

/-- What the frame hands up and changes is allowed. -/
def RespectsConnections (s : TransportLayer) (frame : NDataFrame) : Prop :=
  Allowed s frame (handedUp s (s.handleNetworkRx frame)) (tableEvents s (s.handleNetworkRx frame))

/-- The upper layer gets a frame: the hook lets it pass, and there is a callback or room in the
queue. -/
def ReachesUpper (s : TransportLayer) (f : TDataFrame) : Prop :=
  (∃ f', (s.rxHook.apply f).1 = .ok f') ∧
    (s.rxCallback = true ∨ s.rxQueue.length < rxQueueCapacity)

/-- Numbered data, new and in order, from a peer whose connection is not open. -/
def DataOutsideConnection (s : TransportLayer) (frame : NDataFrame) : Prop :=
  s.initialized = true ∧
    ∃ seqNum e, classify frame.dlFrame.tpdu.data = .tDataConnected seqNum ∧
      s.connectionTable.findConnection frame.dlFrame.source = some e ∧
      e.stateMachine.state ≠ .connected ∧
      e.lastReceivedSeq ≠ seqNum &&& 0x0F ∧ seqNum &&& 0x0F = e.expectedRxSeq &&& 0x0F ∧
      ReachesUpper s (connectedFrame s.ownAddress frame.dlFrame.source (seqNum &&& 0x0F)
        frame.dlFrame.tpdu)

/-- A `T_Connect` that opens or reopens a connection, or a `T_Disconnect` that closes one. -/
def ControlActs (s : TransportLayer) (frame : NDataFrame) : Prop :=
  match classify frame.dlFrame.tpdu.data with
  | .tConnect =>
      match s.connectionTable.findConnection frame.dlFrame.source with
      | none =>
          frame.dlFrame.source.isValid = true ∧
            s.connectionTable.canCreateConnection frame.dlFrame.source = .ok ()
      | some e =>
          e.stateMachine.state ≠ .connecting ∧
            ¬ (frame.dlFrame.repeated = true ∧ e.stateMachine.state = .connected)
  | .tDisconnect => (s.connectionTable.findConnection frame.dlFrame.source).isSome = true
  | _ => False

/-- A control frame that acts on a connection although it is not addressed to this device alone. -/
def GroupControl (s : TransportLayer) (frame : NDataFrame) : Prop :=
  s.initialized = true ∧ frame.dlFrame.destinationType ≠ .individual ∧ ControlActs s frame

/-! ## What the upper layer and the journal see -/

/-- The logs towards the upper layer. -/
def upward (s : TransportLayer) : List TDataFrame × List TDataFrame × List TableEvent :=
  (s.delivered, s.rxQueue, s.journal)

@[simp] theorem upward_updateEntry (s : TransportLayer) (a : IndividualAddress)
    (f : ConnectionEntry → ConnectionEntry) : (s.updateEntry a f).upward = s.upward := rfl

@[simp] theorem upward_touch (s : TransportLayer) (i : ConnectionIndex) :
    (s.touch i).upward = s.upward := rfl

@[simp] theorem upward_networkSend (s : TransportLayer) (frame : NDataFrame) :
    (s.networkSend frame).2.upward = s.upward := rfl

@[simp] theorem upward_withTable (s : TransportLayer) (t : ConnectionTable) :
    (s.withTable t).upward = s.upward := rfl

@[simp] theorem upward_withEntry (s : TransportLayer) (e : ConnectionEntry) :
    (s.withEntry e).upward = s.upward := rfl

@[simp] theorem upward_updateConnection (s : TransportLayer) (i : ConnectionIndex)
    (f : ConnectionEntry → ConnectionEntry) : (s.updateConnection i f).upward = s.upward := rfl

@[simp] theorem upward_note (s : TransportLayer) (events : List TableEvent) :
    (s.note events).upward = (s.upward.1, s.upward.2.1, s.upward.2.2 ++ events) := rfl

@[simp] theorem upward_sendDisconnect (s : TransportLayer) (a : IndividualAddress)
    (priority : Priority) : (s.sendDisconnect a priority).2.upward = s.upward := rfl

@[simp] theorem upward_startClock (s : TransportLayer) : s.startClock.upward = s.upward := by
  unfold startClock
  split
  · rfl
  · rfl

theorem table_startClock (s : TransportLayer) : s.startClock.connectionTable = s.connectionTable := by
  unfold startClock
  split
  · rfl
  · rfl

theorem quiet_of_upward {s s' : TransportLayer} (h : s'.upward = s.upward) :
    handedUp s s' = [] ∧ tableEvents s s' = [] := by
  have hd : s'.delivered = s.delivered := congrArg (·.1) h
  have hq : s'.rxQueue = s.rxQueue := congrArg (·.2.1) h
  have hj : s'.journal = s.journal := congrArg (·.2.2) h
  simp [handedUp, tableEvents, hd, hq, hj]

theorem respects_of_upward {s : TransportLayer} {frame : NDataFrame}
    (h : (s.handleNetworkRx frame).upward = s.upward) : RespectsConnections s frame := by
  obtain ⟨hup, hev⟩ := quiet_of_upward h
  unfold RespectsConnections
  rw [hup, hev]
  simp [Allowed]

theorem handedUp_transformAndDeliver {s s' : TransportLayer} (h : s'.upward = s.upward)
    (hhook : s'.rxHook = s.rxHook) (hcb : s'.rxCallback = s.rxCallback) (f : TDataFrame) :
    tableEvents s (s'.transformAndDeliver f) = [] ∧
      (∀ g ∈ handedUp s (s'.transformAndDeliver f), g.service = f.service) ∧
      (handedUp s (s'.transformAndDeliver f) ≠ [] ↔ ReachesUpper s f) := by
  have hd : s'.delivered = s.delivered := congrArg (·.1) h
  have hq : s'.rxQueue = s.rxQueue := congrArg (·.2.1) h
  have hj : s'.journal = s.journal := congrArg (·.2.2) h
  unfold transformAndDeliver ReachesUpper
  rw [hhook]
  obtain ⟨r, hook, hr⟩ : ∃ r hook, s.rxHook.apply f = (r, hook) := ⟨_, _, rfl⟩
  rw [hr]
  cases r with
  | error err => simp [handedUp, tableEvents, hd, hq, hj]
  | ok f' =>
    have hok : (s.rxHook.apply f).1 = .ok f' := by rw [hr]
    obtain ⟨_, _, hf'⟩ := TransformHook.apply_ok hok
    have hservice : f'.service = f.service := by rw [hf']
    by_cases hc : s.rxCallback = true
    · simp [deliver, hcb, hc, handedUp, tableEvents, hd, hq, hj, hservice]
    · by_cases hroom : s.rxQueue.length < rxQueueCapacity
      · have hnotfull : ¬ rxQueueCapacity ≤ s.rxQueue.length := by omega
        simp [deliver, enqueueReceivedFrame, hcb, hc, handedUp, tableEvents, hd, hq, hj, hservice,
          hnotfull, hroom]
      · have hfull : rxQueueCapacity ≤ s.rxQueue.length := by omega
        simp [deliver, enqueueReceivedFrame, hcb, hc, handedUp, tableEvents, hd, hq, hj, hfull,
          hroom]

/-! ## Handlers that hand nothing up -/

theorem upward_handleAck (s : TransportLayer) (a : IndividualAddress) (seqNum : UInt8) :
    (s.handleAck a seqNum).upward = s.upward := by
  unfold handleAck
  split
  · rfl
  · dsimp only
    split
    · rfl
    · rfl

theorem upward_handleNak (s : TransportLayer) (a : IndividualAddress) (seqNum : UInt8) :
    (s.handleNak a seqNum).upward = s.upward := by
  unfold handleNak
  split
  · rfl
  · dsimp only
    split
    · rfl
    · rfl

theorem upward_sendDue (s : TransportLayer) (now : UInt32) (e : ConnectionEntry) :
    (sendDue s now e).1.upward = s.upward := by
  have hsend : (s.networkSend (s.repetitionFrame e)).2.upward = s.upward := rfl
  unfold sendDue
  split
  · split
    · next heq => rw [heq] at hsend; exact hsend
    · next heq => rw [heq] at hsend; exact hsend
  · rfl

theorem upward_duplicate (s : TransportLayer) (e : ConnectionEntry) {seqNum : UInt8}
    (tpdu : FixedVector UInt8 maxFrameSize) (priority : Priority) (hinit : s.initialized = true)
    (hdup : e.lastReceivedSeq = seqNum &&& 0x0F) :
    ((s.withEntry e).handleNumberedData e.remoteAddress seqNum tpdu priority).upward
      = s.upward := by
  rw [handleNumberedData_duplicate s e tpdu priority hdup]
  have hrepeat := repeatAtOnce_active (s.sendAck e.remoteAddress (seqNum &&& 0x0F) priority).2
    (stamped { e with priority := priority } s.timebaseMs) hinit rfl
  rw [show (stamped { e with priority := priority } s.timebaseMs).remoteAddress = e.remoteAddress
    from rfl] at hrepeat
  rw [hrepeat]
  split
  · exact upward_sendDue _ _ _
  · rfl

/-! ## Connection control -/

/-- A state that adds events to the journal of another and hands nothing up. -/
def Logs (s s' : TransportLayer) (events : List TableEvent) : Prop :=
  s'.upward = (s.upward.1, s.upward.2.1, s.upward.2.2 ++ events)

theorem Logs.handedUp_eq {s s' : TransportLayer} {events : List TableEvent}
    (h : Logs s s' events) : handedUp s s' = [] ∧ tableEvents s s' = events := by
  have hd : s'.delivered = s.delivered := congrArg (·.1) h
  have hq : s'.rxQueue = s.rxQueue := congrArg (·.2.1) h
  have hj : s'.journal = s.journal ++ events := congrArg (·.2.2) h
  simp [handedUp, tableEvents, hd, hq, hj]

/-- `T_Connect` notes an event exactly when it opens or reopens a connection. -/
theorem logs_handleTConnect {s : TransportLayer} (hslot : s.OneSlot) (frame : NDataFrame)
    (hc : classify frame.dlFrame.tpdu.data = .tConnect) :
    ∃ events, Logs s (s.handleTConnect frame.dlFrame) events ∧
      (events ≠ [] ↔ ControlActs s frame) := by
  unfold ControlActs handleTConnect Logs
  rw [hc]
  cases hfind : s.connectionTable.findConnection frame.dlFrame.source with
  | some e =>
    dsimp only
    by_cases hstate : e.stateMachine.state = .connecting
    · refine ⟨[], ?_, ?_⟩
      · simp [hstate, handleConnectResponse, hfind]
      · simp [hstate]
    · rw [if_neg hstate]
      unfold handleConnectRequest
      rw [hfind]
      dsimp only
      by_cases hrep : frame.dlFrame.repeated = true ∧ e.stateMachine.state = .connected
      · refine ⟨[], ?_, ?_⟩
        · rw [if_pos hrep]
          simp
        · simp [hrep]
      · refine ⟨[.resynchronised frame.dlFrame.source], ?_, ?_⟩
        · rw [if_neg hrep]
          simp
        · simp only [ne_eq, List.cons_ne_nil, not_false_eq_true, true_iff]
          exact ⟨hstate, hrep⟩
  | none =>
    dsimp only
    unfold handleConnectRequest
    rw [hfind]
    by_cases hgo : frame.dlFrame.source.isValid = true ∧
        s.connectionTable.canCreateConnection frame.dlFrame.source = .ok ()
    · refine ⟨[.created frame.dlFrame.source], ?_, ?_⟩
      · have hcreate := ConnectionTable.createConnection_of_can
          (serverParams frame.dlFrame.source) hgo.1 hgo.2
        have hvalid := hslot.nextIndex_isValid
        simp [createEntry, hcreate, hvalid]
      · simp only [ne_eq, List.cons_ne_nil, not_false_eq_true, true_iff]
        exact hgo
    · refine ⟨[], ?_, ?_⟩
      · have hcreate := ConnectionTable.createConnection_refused
          (serverParams frame.dlFrame.source) hgo
        simp [createEntry, hcreate, ConnectionIndex.isValid, ConnectionIndex.invalid]
      · simp [hgo]

/-- `T_Disconnect` notes an event exactly when it closes a connection. -/
theorem logs_handleTDisconnect {s : TransportLayer} (hslot : s.OneSlot) (frame : NDataFrame)
    (hc : classify frame.dlFrame.tpdu.data = .tDisconnect) :
    ∃ events, Logs s (s.handleTDisconnect frame.dlFrame) events ∧
      (events ≠ [] ↔ ControlActs s frame) := by
  unfold ControlActs handleTDisconnect Logs
  rw [hc]
  cases hfind : s.connectionTable.findConnection frame.dlFrame.source with
  | none => exact ⟨[], by simp, by simp⟩
  | some e =>
    refine ⟨[.removed frame.dlFrame.source], ?_, by simp⟩
    obtain ⟨hs, haddr⟩ := hslot.withEntry_of_find hfind
    by_cases hstate : e.stateMachine.state = .disconnecting
    · rw [← hs] at *
      simp [hstate, handleDisconnectResponse, removeEntryByAddress, haddr]
    · simp [hstate, handleDisconnectRequest, removeEntryByAddress, hfind]

/-! ## The two kinds of frames that slip through -/

/-- Numbered data: what goes up is connected data, and it goes up exactly when the frame is new, in
order and reaches the upper layer. -/
theorem handedUp_numberedData {s : TransportLayer} (hslot : s.OneSlot)
    (hinit : s.initialized = true) (frame : NDataFrame) (seqNum : UInt8) :
    let s' := s.handleNumberedData frame.dlFrame.source seqNum frame.dlFrame.tpdu
      frame.dlFrame.priority
    tableEvents s s' = [] ∧ (∀ g ∈ handedUp s s', g.service = .connected) ∧
      (handedUp s s' ≠ [] ↔
        ∃ e, s.connectionTable.findConnection frame.dlFrame.source = some e ∧
          e.lastReceivedSeq ≠ seqNum &&& 0x0F ∧ seqNum &&& 0x0F = e.expectedRxSeq &&& 0x0F ∧
          ReachesUpper s (connectedFrame s.ownAddress frame.dlFrame.source (seqNum &&& 0x0F)
            frame.dlFrame.tpdu)) := by
  intro s'
  cases hfind : s.connectionTable.findConnection frame.dlFrame.source with
  | none =>
    have hsame : s' = s := by
      simp only [s', handleNumberedData, hfind]
    obtain ⟨hup, hev⟩ := quiet_of_upward (congrArg upward hsame)
    simp [hup, hev]
  | some e =>
    obtain ⟨hs, haddr⟩ := hslot.withEntry_of_find hfind
    have hs' : s' = (s.withEntry e).handleNumberedData e.remoteAddress seqNum frame.dlFrame.tpdu
        frame.dlFrame.priority := by rw [hs, haddr]
    by_cases hdup : e.lastReceivedSeq = seqNum &&& 0x0F
    · have hquiet : s'.upward = s.upward := by
        rw [hs']
        exact upward_duplicate s e _ _ hinit hdup
      obtain ⟨hup, hev⟩ := quiet_of_upward hquiet
      simp [hup, hev, hdup]
    · by_cases horder : seqNum &&& 0x0F = e.expectedRxSeq &&& 0x0F
      · rw [handleNumberedData_accept s e _ _ hdup horder, haddr] at hs'
        have hdeliver := handedUp_transformAndDeliver
          (s := s) (upward_withEntry (s.sendAck frame.dlFrame.source (seqNum &&& 0x0F)
            frame.dlFrame.priority).2 (advancedEntry (stamped (recordedEntry e (seqNum &&& 0x0F)
              frame.dlFrame.priority) s.timebaseMs))) rfl rfl
          (connectedFrame s.ownAddress frame.dlFrame.source (seqNum &&& 0x0F) frame.dlFrame.tpdu)
        rw [← hs'] at hdeliver
        obtain ⟨hev, hservice, hiff⟩ := hdeliver
        refine ⟨hev, hservice, hiff.trans ?_⟩
        constructor
        · intro hreaches
          exact ⟨e, rfl, hdup, horder, hreaches⟩
        · rintro ⟨_, _, _, _, hreaches⟩
          exact hreaches
      · have hquiet : s'.upward = s.upward := by
          rw [hs', handleNumberedData_outOfOrder s e _ _ hdup horder]
          rfl
        obtain ⟨hup, hev⟩ := quiet_of_upward hquiet
        simp [hup, hev, horder]

theorem allowed_control_iff {s : TransportLayer} {frame : NDataFrame} {events : List TableEvent}
    (hdata : ∀ seqNum, classify frame.dlFrame.tpdu.data ≠ .tDataConnected seqNum)
    (hinit : s.initialized = true) (hacts : events ≠ [] ↔ ControlActs s frame) :
    Allowed s frame [] events ↔ ¬ DataOutsideConnection s frame ∧ ¬ GroupControl s frame := by
  have hnodata : ¬ DataOutsideConnection s frame := by
    rintro ⟨-, seqNum, -, hc, -⟩
    exact hdata seqNum hc
  unfold Allowed GroupControl
  rw [← hacts]
  constructor
  · rintro ⟨-, hev⟩
    refine ⟨hnodata, ?_⟩
    rintro ⟨-, hgroup, hne⟩
    obtain ⟨ev, hmem⟩ := List.exists_mem_of_ne_nil events hne
    exact hgroup (hev ev hmem)
  · rintro ⟨-, hnot⟩
    refine ⟨by simp, ?_⟩
    intro ev hmem
    by_contra hgroup
    exact hnot ⟨hinit, hgroup, List.ne_nil_of_mem hmem⟩

theorem allowed_dispatch_iff {s : TransportLayer} (hslot : s.OneSlot)
    (hinit : s.initialized = true) (frame : NDataFrame) :
    Allowed s frame (handedUp s (s.dispatch frame)) (tableEvents s (s.dispatch frame)) ↔
      ¬ DataOutsideConnection s frame ∧ ¬ GroupControl s frame := by
  cases hc : classify frame.dlFrame.tpdu.data with
  | tConnect =>
    obtain ⟨events, hlogs, hacts⟩ := logs_handleTConnect hslot frame hc
    have hdispatch : s.dispatch frame = s.handleTConnect frame.dlFrame := by simp [dispatch, hc]
    obtain ⟨hup, hev⟩ := hlogs.handedUp_eq
    rw [hdispatch, hup, hev]
    exact allowed_control_iff (by simp [hc]) hinit hacts
  | tDisconnect =>
    obtain ⟨events, hlogs, hacts⟩ := logs_handleTDisconnect hslot frame hc
    have hdispatch : s.dispatch frame = s.handleTDisconnect frame.dlFrame := by
      simp [dispatch, hc]
    obtain ⟨hup, hev⟩ := hlogs.handedUp_eq
    rw [hdispatch, hup, hev]
    exact allowed_control_iff (by simp [hc]) hinit hacts
  | tAck seqNum =>
    have hdispatch : s.dispatch frame = s.handleAck frame.dlFrame.source seqNum := by
      simp [dispatch, hc]
    obtain ⟨hup, hev⟩ := quiet_of_upward (upward_handleAck s frame.dlFrame.source seqNum)
    rw [hdispatch, hup, hev]
    exact allowed_control_iff (by simp [hc]) hinit (by simp [ControlActs, hc])
  | tNak seqNum =>
    have hdispatch : s.dispatch frame = s.handleNak frame.dlFrame.source seqNum := by
      simp [dispatch, hc]
    obtain ⟨hup, hev⟩ := quiet_of_upward (upward_handleNak s frame.dlFrame.source seqNum)
    rw [hdispatch, hup, hev]
    exact allowed_control_iff (by simp [hc]) hinit (by simp [ControlActs, hc])
  | connectionless =>
    have hdispatch : s.dispatch frame = s.handleConnectionless frame := by simp [dispatch, hc]
    obtain ⟨hev, hservice, -⟩ := handedUp_transformAndDeliver (s := s) rfl rfl rfl
      { convertFromNetwork frame with securityTpci6 := frame.dlFrame.tpdu.data.getD 0 0 >>> 2 }
    have hplain : (convertFromNetwork frame).service ≠ .connected := by
      unfold convertFromNetwork
      dsimp only
      split
      · simp
      · simp
    have hnone : Allowed s frame [] [] ↔ _ :=
      allowed_control_iff (by simp [hc]) hinit (by simp [ControlActs, hc])
    rw [← hnone, hdispatch]
    unfold handleConnectionless Allowed
    rw [hev]
    constructor
    · intro _
      simp
    · intro _
      refine ⟨?_, by simp⟩
      intro f hf hconn
      exact absurd ((hservice f hf).symm.trans hconn) hplain
  | tDataConnected seqNum =>
    have hdispatch : s.dispatch frame = s.handleNumberedData frame.dlFrame.source seqNum
        frame.dlFrame.tpdu frame.dlFrame.priority := by simp [dispatch, hc]
    obtain ⟨hev, hservice, hiff⟩ := handedUp_numberedData hslot hinit frame seqNum
    rw [hdispatch, hev]
    have hnogroup : ¬ GroupControl s frame := by simp [GroupControl, ControlActs, hc]
    constructor
    · rintro ⟨hallowed, -⟩
      refine ⟨?_, hnogroup⟩
      rintro ⟨-, seqNum', e, hc', hfind, hstate, hnew, horder, hreaches⟩
      rw [hc] at hc'
      cases hc'
      obtain ⟨f, hf⟩ := List.exists_mem_of_ne_nil _ (hiff.mpr ⟨e, hfind, hnew, horder, hreaches⟩)
      obtain ⟨e', hfind', hopen⟩ := hallowed f hf (hservice f hf)
      rw [hfind] at hfind'
      cases hfind'
      exact hstate hopen
    · rintro ⟨hnodata, -⟩
      refine ⟨?_, by simp⟩
      intro f hf _
      obtain ⟨e, hfind, hnew, horder, hreaches⟩ := hiff.mp (List.ne_nil_of_mem hf)
      refine ⟨e, hfind, ?_⟩
      by_contra hstate
      exact hnodata ⟨hinit, seqNum, e, hc, hfind, hstate, hnew, horder, hreaches⟩

theorem conditions_startClock (s : TransportLayer) (frame : NDataFrame) :
    (DataOutsideConnection s.startClock frame ↔ DataOutsideConnection s frame) ∧
      (GroupControl s.startClock frame ↔ GroupControl s frame) := by
  unfold startClock
  split
  · exact ⟨Iff.rfl, Iff.rfl⟩
  · exact ⟨Iff.rfl, Iff.rfl⟩

/-- Safety of reception. In a reachable state, connected data goes up only from an open
connection and only individually addressed frames act on connections, exactly when the frame is
neither data outside a connection nor a group-addressed control frame that acts. -/
theorem respectsConnections_iff {s : TransportLayer} (hreach : s.Reachable) (frame : NDataFrame) :
    RespectsConnections s frame ↔ ¬ DataOutsideConnection s frame ∧ ¬ GroupControl s frame := by
  have hslot := reachable_oneSlot hreach
  by_cases hinit : s.initialized = true
  · by_cases hne : frame.dlFrame.tpdu.data = []
    · -- an empty TPDU is dropped
      have hsame : s.handleNetworkRx frame = s := by simp [handleNetworkRx, hinit, hne]
      have hrespects := respects_of_upward (congrArg upward hsame)
      simp [hrespects, DataOutsideConnection, GroupControl, ControlActs, hne, classify_nil]
    · obtain ⟨hdata, hgroup⟩ := conditions_startClock s frame
      have hclock : s.startClock.initialized = true := by
        unfold startClock
        split
        · exact hinit
        · exact hinit
      rw [← hdata, ← hgroup, ← allowed_dispatch_iff hslot.startClock hclock frame]
      unfold RespectsConnections Allowed handedUp tableEvents
      have hup := upward_startClock s
      have hd : s.startClock.delivered = s.delivered := congrArg (·.1) hup
      have hq : s.startClock.rxQueue = s.rxQueue := congrArg (·.2.1) hup
      have hj : s.startClock.journal = s.journal := congrArg (·.2.2) hup
      rw [handleNetworkRx_eq_dispatch hinit hne, hd, hq, hj, table_startClock]
  · have hsame : s.handleNetworkRx frame = s := by simp [handleNetworkRx, hinit]
    have hrespects := respects_of_upward (congrArg upward hsame)
    simp [hrespects, DataOutsideConnection, GroupControl, hinit]

/-- A `T_Connect` from 1.1.2 to this device, 1.1.1, opens a connection. -/
theorem respectsConnections_tConnect :
    RespectsConnections (run step {} [.init ⟨0x1101⟩])
      (frameFrom ⟨0x1102⟩ ⟨0x1101⟩ .individual [0x80]) := by
  refine (respectsConnections_iff ⟨{}, [.init ⟨0x1101⟩], rfl⟩ _).mpr ⟨?_, ?_⟩
  · rintro ⟨-, seqNum, -, hc, -⟩
    have hclass : classify (frameFrom ⟨0x1102⟩ ⟨0x1101⟩ .individual [0x80]).dlFrame.tpdu.data
        = .tConnect := by decide
    rw [hclass] at hc
    cases hc
  · rintro ⟨-, hgroup, -⟩
    exact hgroup rfl

/-- While this device still waits for the answer to its own `T_Connect`, numbered data from 1.1.2 is
handed up; and a `T_Connect` sent to group 0/0/1 opens a connection. -/
theorem receive_slips_through :
    ¬ RespectsConnections
        (run step {} [.init ⟨0x1101⟩, .setReceiveCallback true, .connect ⟨0x1102⟩])
        (frameFrom ⟨0x1102⟩ ⟨0x1101⟩ .individual [0x43, 0x00]) ∧
      ¬ RespectsConnections (run step {} [.init ⟨0x1101⟩])
        (frameFrom ⟨0x1102⟩ ⟨0x0001⟩ .group [0x80]) := by
  constructor
  · rintro ⟨hup, -⟩
    have hstate : ((run step {} [.init ⟨0x1101⟩, .setReceiveCallback true,
        .connect ⟨0x1102⟩]).connectionTable.findConnection ⟨0x1102⟩).map
          (fun e => e.stateMachine.state) = some .connecting := by decide
    have hhanded : ∃ f ∈ handedUp
        (run step {} [.init ⟨0x1101⟩, .setReceiveCallback true, .connect ⟨0x1102⟩])
        ((run step {} [.init ⟨0x1101⟩, .setReceiveCallback true,
          .connect ⟨0x1102⟩]).handleNetworkRx
            (frameFrom ⟨0x1102⟩ ⟨0x1101⟩ .individual [0x43, 0x00])), f.service = .connected := by
      decide
    obtain ⟨f, hf, hservice⟩ := hhanded
    obtain ⟨e, hfind, hopen⟩ := hup f hf hservice
    rw [show (frameFrom ⟨0x1102⟩ ⟨0x1101⟩ .individual [0x43, 0x00]).dlFrame.source = ⟨0x1102⟩
      from rfl] at hfind
    rw [hfind] at hstate
    simp [hopen] at hstate
  · rintro ⟨-, hev⟩
    have hevent : TableEvent.created ⟨0x1102⟩ ∈ tableEvents (run step {} [.init ⟨0x1101⟩])
        ((run step {} [.init ⟨0x1101⟩]).handleNetworkRx
          (frameFrom ⟨0x1102⟩ ⟨0x0001⟩ .group [0x80])) := by decide
    cases hev _ hevent

end TransportLayer

end KnxStack.Transport
