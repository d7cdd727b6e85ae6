import KnxStack.Transport.ReceiveSafety

/-!
# Activity of a connection

Every call leaves the connection of a device in one of four ways (`EntryMove`): untouched by a call
in which no frame of the connection was exchanged, stamped with the current time, just created and
stamped, or gone. This module says so for the calls that handle frames at once; they leave the
operations in progress alone (`Background`).
-/

set_option autoImplicit false

namespace KnxStack.Transport

open KnxStack.Lib KnxStack.Lib.Words KnxStack.Protocol KnxStack.Datalink

namespace TransportLayer

/-- A transport PDU of a connection with the device, as it goes out. -/
def ConnectionFrame (a : IndividualAddress) (f : NDataFrame) : Prop :=
  f.dlFrame.destinationType = .individual ∧ f.dlFrame.destination.raw = a.raw ∧
    classify f.dlFrame.tpdu.data ≠ .connectionless

instance (a : IndividualAddress) (f : NDataFrame) : Decidable (ConnectionFrame a f) :=
  inferInstanceAs (Decidable (_ ∧ _))

/-- Device whose transport PDU a call takes in. -/
def heardFrom (s : TransportLayer) : Call → Option IndividualAddress
  | .handleNetworkRx frame =>
      if classify frame.dlFrame.tpdu.data = .connectionless then none else some frame.dlFrame.source
  | .beginHandleNetworkRx frame =>
      if classify frame.dlFrame.tpdu.data = .connectionless ∨
          (s.beginHandleNetworkRx frame).1 ≠ .ok () then none
      else some frame.dlFrame.source
  | _ => none

/-- The call takes in a frame of the connection with the device, or puts one on the network. -/
def Meets (s : TransportLayer) (c : Call) (a : IndividualAddress) : Prop :=
  s.heardFrom c = some a ∨ ∃ f ∈ answers s (s.step c), ConnectionFrame a f

/-! ## Operations in progress -/

/-- The transmission in flight and the operations that may wait for it, the time base and whether
the layer is initialised. -/
structure Background where
  inFlight : Option NDataFrame
  transmitting : Bool
  sendingData : Bool
  connectOperation : ConnectOperationState
  retransmissionOperation : RetransmissionOperationState
  responding : Bool
  initialized : Bool
  timebaseMs : UInt32

/-- What the handlers of frames leave alone. -/
def background (s : TransportLayer) : Background where
  inFlight := s.network.inFlight
  transmitting := s.sendActive
  sendingData := s.connectedSendOperation.active
  connectOperation := s.connectOperation
  retransmissionOperation := s.retransmissionOperation
  responding := s.receiveOperation.active && s.receiveOperation.waitingResponse
  initialized := s.initialized
  timebaseMs := s.timebaseMs

section Background

variable (s : TransportLayer)

@[simp] theorem background_withTable (t : ConnectionTable) :
    (s.withTable t).background = s.background := rfl

@[simp] theorem background_note (events : List TableEvent) :
    (s.note events).background = s.background := rfl

@[simp] theorem background_updateEntry (a : IndividualAddress)
    (f : ConnectionEntry → ConnectionEntry) : (s.updateEntry a f).background = s.background := rfl

@[simp] theorem background_updateConnection (i : ConnectionIndex)
    (f : ConnectionEntry → ConnectionEntry) :
    (s.updateConnection i f).background = s.background := rfl

@[simp] theorem background_touch (i : ConnectionIndex) : (s.touch i).background = s.background := rfl

@[simp] theorem background_withEntry (e : ConnectionEntry) :
    (s.withEntry e).background = s.background := rfl

theorem inFlight_sendFrame (n : NetworkPort) (f : NDataFrame) :
    (n.sendFrame f).2.inFlight = n.inFlight := by
  rw [NetworkPort.sendFrame, NetworkPort.nextAnswer]
  cases n.answers with
  | nil => rfl
  | cons answer rest =>
    cases answer with
    | ok u => rfl
    | error err => rfl

@[simp] theorem background_networkSend (f : NDataFrame) :
    (s.networkSend f).2.background = s.background := by
  have hflight : (s.networkSend f).2.network.inFlight = s.network.inFlight :=
    inFlight_sendFrame s.network f
  rw [background, background, hflight]
  rfl

@[simp] theorem background_transformAndDeliver (f : TDataFrame) :
    (s.transformAndDeliver f).background = s.background := by
  rw [transformAndDeliver]
  split
  · rfl
  · rw [deliver]
    split
    · rfl
    · rw [enqueueReceivedFrame]
      split
      · rfl
      · rfl

@[simp] theorem background_createEntry (a : IndividualAddress) (p : ConnectionParams) :
    (s.createEntry a p).2.background = s.background := rfl

@[simp] theorem background_removeEntryByAddress (a : IndividualAddress) :
    (s.removeEntryByAddress a).background = s.background := by
  rw [removeEntryByAddress]
  split
  · rfl
  · rfl

@[simp] theorem background_removeEntry (i : ConnectionIndex) :
    (s.removeEntry i).background = s.background := by
  rw [removeEntry]
  split
  · rfl
  · rfl

theorem background_repeatPending (now : UInt32) (i : ConnectionIndex) :
    (repeatPending now s i).background = s.background := by
  rw [repeatPending]
  split
  · rfl
  · split
    · rfl
    · next e _ _ =>
      have hsend := background_networkSend s (s.repetitionFrame e)
      split
      · next heq =>
        rw [heq] at hsend
        exact hsend
      · next heq =>
        rw [heq] at hsend
        exact hsend

theorem background_processRetransmissions (now : UInt32) :
    (s.processRetransmissions now).background
      = if s.initialized then (s.withTime now).background else s.background := by
  have hloop : ∀ (due : List ConnectionIndex) (t : TransportLayer),
      (due.foldl (repeatPending now) t).background = t.background := by
    intro due
    induction due with
    | nil => intro t; rfl
    | cons i due ih => intro t; exact (ih _).trans (background_repeatPending t now i)
  rw [processRetransmissions]
  cases s.initialized with
  | false => rfl
  | true => exact hloop _ _

theorem background_repeatAtOnce (a : IndividualAddress) :
    (s.repeatAtOnce a).background = s.background := by
  rw [repeatAtOnce]
  split
  · rfl
  · split
    · rw [background_updateEntry, background_processRetransmissions]
      split
      · rfl
      · rfl
    · rfl

theorem background_handleNumberedData (a : IndividualAddress) (seqNum : UInt8)
    (tpdu : FixedVector UInt8 maxFrameSize) (priority : Priority) :
    (s.handleNumberedData a seqNum tpdu priority).background = s.background := by
  rw [handleNumberedData]
  split
  · rfl
  · dsimp only
    split
    · rfl
    · rw [background_repeatAtOnce, background_touch, sendAck, background_networkSend,
        background_withTable, background_updateEntry]
    · split
      · rw [background_touch, sendNak, background_networkSend, background_withTable,
          background_updateEntry]
      · rw [background_transformAndDeliver, background_updateEntry, background_touch, sendAck,
          background_networkSend, background_withTable, background_updateEntry]

theorem background_handleConnectRequest (a : IndividualAddress) (priority : Priority) (rep : Bool) :
    (s.handleConnectRequest a priority rep).background = s.background := by
  rw [handleConnectRequest]
  split
  · dsimp only
    split
    · rw [background_touch, background_updateEntry]
    · rw [background_touch, background_updateEntry, background_note, background_updateEntry,
        background_updateEntry]
  · dsimp only
    split
    · rw [background_touch, background_updateConnection, background_createEntry]
    · rw [sendDisconnect, background_networkSend, background_createEntry]

theorem background_dispatch (frame : NDataFrame) :
    (s.dispatch frame).background = s.background := by
  cases hclass : classify frame.dlFrame.tpdu.data with
  | tConnect =>
    simp only [dispatch, hclass, handleTConnect]
    split
    · split
      · rw [handleConnectResponse]
        split
        · rfl
        · rw [background_touch, background_updateEntry]
      · exact background_handleConnectRequest s _ _ _
    · exact background_handleConnectRequest s _ _ _
  | tDisconnect =>
    simp only [dispatch, hclass, handleTDisconnect]
    split
    · split
      · rw [handleDisconnectResponse]
        split
        · rw [background_removeEntryByAddress]
        · rw [background_removeEntryByAddress, background_touch, background_updateEntry]
      · rw [handleDisconnectRequest, background_removeEntryByAddress]
    · rfl
  | tAck seqNum =>
    simp only [dispatch, hclass, handleAck]
    split
    · rfl
    · rw [background_touch]
      split
      · rw [background_updateEntry, background_withTable]
      · rfl
  | tNak seqNum =>
    simp only [dispatch, hclass, handleNak]
    split
    · rfl
    · rw [background_touch]
      split
      · rw [background_updateEntry]
      · rfl
  | tDataConnected seqNum =>
    simp only [dispatch, hclass]
    exact background_handleNumberedData s _ _ _ _
  | connectionless =>
    simp only [dispatch, hclass, handleConnectionless]
    exact background_transformAndDeliver s _

end Background

/-! ## What becomes of an entry -/

/-- What becomes of the only entry of a table when frames of the devices in `met` are exchanged. While
a connect operation waits for its frame, entries go only after the clock has started. -/
inductive EntryMove (met : IndividualAddress → Prop) (s s' : TransportLayer) : Prop where
  | kept {e e' : ConnectionEntry} (before : s.connectionTable.connections = [e])
      (after : s'.connectionTable.connections = [e']) (address : e'.remoteAddress = e.remoteAddress)
      (index : e'.index = e.index) (activity : e'.lastActivityTimeMs = e.lastActivityTimeMs)
      (unmet : ¬ met e.remoteAddress)
  | touched {e e' : ConnectionEntry} (before : s.connectionTable.connections = [e])
      (after : s'.connectionTable.connections = [e']) (address : e'.remoteAddress = e.remoteAddress)
      (index : e'.index = e.index) (activity : e'.lastActivityTimeMs = s'.timebaseMs)
  | created {e' : ConnectionEntry} (before : s.connectionTable.connections = [])
      (after : s'.connectionTable.connections = [e'])
      (activity : e'.lastActivityTimeMs = s'.timebaseMs)
  | gone (after : s'.connectionTable.connections = [])
      (started : s.connectionTable.connections = [] ∨ s'.timebaseMs ≠ 0 ∨
        s'.connectOperation.active = false)

section Moves

variable {s s' : TransportLayer} {e : ConnectionEntry} {met : IndividualAddress → Prop}

theorem connections_of_eq {s t : TransportLayer} {e : ConnectionEntry} (h : s = t.withEntry e) :
    s.connectionTable.connections = [e] := by
  rw [h]
  rfl

theorem EntryMove.of_same (hslot : s.OneSlot)
    (hsame : s'.connectionTable.connections = s.connectionTable.connections)
    (hunmet : ∀ e ∈ s.connectionTable.connections, ¬ met e.remoteAddress) : EntryMove met s s' := by
  rcases hslot.cases with hempty | ⟨e, hconn⟩
  · exact .gone (hsame.trans hempty) (Or.inl hempty)
  · refine .kept hconn (hsame.trans hconn) rfl rfl rfl (hunmet e ?_)
    rw [hconn]
    exact List.mem_cons_self

theorem EntryMove.of_table {t : TransportLayer} (h : EntryMove met t s')
    (htable : t.connectionTable.connections = s.connectionTable.connections) :
    EntryMove met s s' := by
  cases h with
  | kept before after address index activity unmet =>
    exact .kept (htable.symm.trans before) after address index activity unmet
  | touched before after address index activity =>
    exact .touched (htable.symm.trans before) after address index activity
  | created before after activity => exact .created (htable.symm.trans before) after activity
  | gone after started =>
    refine .gone after ?_
    rw [← htable]
    exact started

theorem sent_networkSend (s : TransportLayer) (f : NDataFrame) :
    (s.networkSend f).2.network.sent = s.network.sent ∨
      (s.networkSend f).2.network.sent = s.network.sent ++ [f] := by
  show (s.network.sendFrame f).2.sent = _ ∨ (s.network.sendFrame f).2.sent = _
  rw [NetworkPort.sendFrame, NetworkPort.nextAnswer]
  cases s.network.answers with
  | nil => exact Or.inr rfl
  | cons answer rest =>
    cases answer with
    | ok u => exact Or.inr rfl
    | error err => exact Or.inl rfl

theorem answers_subset {f g : NDataFrame}
    (h : s'.network.sent = s.network.sent ∨ s'.network.sent = s.network.sent ++ [f])
    (hg : g ∈ answers s s') : g = f := by
  rw [answers] at hg
  rcases h with hnone | hone
  · rw [hnone, List.drop_length] at hg
    cases hg
  · rw [hone, List.drop_left] at hg
    exact List.mem_singleton.mp hg

theorem answers_eq_nil (h : s'.network.sent = s.network.sent) : answers s s' = [] := by
  rw [answers, h, List.drop_length]

theorem not_connectionFrame_of_ne {own a b : IndividualAddress} (h : a ≠ b) (tpci : TPCIField)
    (priority : Priority) : ¬ ConnectionFrame b (controlFrame own a tpci priority) := by
  rintro ⟨-, hraw, -⟩
  have hraw' : a.raw = b.raw := hraw
  cases a
  cases b
  exact h (congrArg IndividualAddress.mk hraw')

/-- A `T_Connect` of the peer stamps its entry. -/
theorem handleTConnect_self (s : TransportLayer) (e : ConnectionEntry) (frame : LDataFrame)
    (hsource : frame.source = e.remoteAddress) :
    ∃ e', ((s.withEntry e).handleTConnect frame).connectionTable.connections = [e'] ∧
      e'.remoteAddress = e.remoteAddress ∧ e'.index = e.index ∧
      e'.lastActivityTimeMs = s.timebaseMs := by
  have hfind : (s.withEntry e).connectionTable.findConnection e.remoteAddress = some e := by
    rw [findConnection_withEntry, if_pos rfl]
  simp only [handleTConnect, hsource, hfind]
  split
  · simp only [handleConnectResponse, hfind, updateEntry_withEntry, touch_withEntry, if_true]
    exact ⟨_, rfl, rfl, rfl, rfl⟩
  · simp only [handleConnectRequest, hfind, updateEntry_withEntry, if_true]
    split
    · simp only [touch_withEntry, if_true]
      exact ⟨_, rfl, rfl, rfl, rfl⟩
    · simp only [note_withEntry, updateEntry_withEntry, touch_withEntry, resynchronise,
        acceptConnection, if_true]
      exact ⟨_, rfl, rfl, rfl, rfl⟩

theorem handleNumberedData_self (e : ConnectionEntry) (hinit : s.initialized = true)
    (seqNum : UInt8) (tpdu : FixedVector UInt8 maxFrameSize) (priority : Priority) :
    ∃ e', ((s.withEntry e).handleNumberedData e.remoteAddress seqNum tpdu
          priority).connectionTable.connections = [e'] ∧
      e'.remoteAddress = e.remoteAddress ∧ e'.index = e.index ∧
      e'.lastActivityTimeMs = s.timebaseMs := by
  by_cases hdup : e.lastReceivedSeq = seqNum &&& 0x0F
  · have hinit' : (s.sendAck e.remoteAddress (seqNum &&& 0x0F) priority).2.initialized = true :=
      hinit
    have hrepeat := repeatAtOnce_active (s.sendAck e.remoteAddress (seqNum &&& 0x0F) priority).2
      (stamped { e with priority := priority } s.timebaseMs) hinit' rfl
    rw [remoteAddress_stamped] at hrepeat
    rw [handleNumberedData_duplicate s e tpdu priority hdup, hrepeat]
    split
    · have hfields := sendDue_fields (s.sendAck e.remoteAddress (seqNum &&& 0x0F) priority).2
        s.timebaseMs { stamped { e with priority := priority } s.timebaseMs with
          retransmitTimeoutMs := 0 }
      exact ⟨_, rfl, hfields.1, hfields.2.1, hfields.2.2 rfl⟩
    · exact ⟨_, rfl, rfl, rfl, rfl⟩
  · by_cases horder : seqNum &&& 0x0F = e.expectedRxSeq &&& 0x0F
    · rw [handleNumberedData_accept s e tpdu priority hdup horder, table_transformAndDeliver]
      exact ⟨_, rfl, rfl, rfl, rfl⟩
    · rw [handleNumberedData_outOfOrder s e tpdu priority hdup horder]
      exact ⟨_, rfl, rfl, rfl, rfl⟩

/-- A `T_Disconnect` of the peer removes its entry. -/
theorem handleTDisconnect_self (s : TransportLayer) (e : ConnectionEntry) (frame : LDataFrame)
    (hsource : frame.source = e.remoteAddress) :
    ((s.withEntry e).handleTDisconnect frame).connectionTable.connections = [] := by
  by_cases hstate : e.stateMachine.state = .disconnecting
  · simp [handleTDisconnect, handleDisconnectResponse, removeEntryByAddress, hsource, hstate,
      ConnectionTable.removeConnectionByAddress, withTable, note]
  · simp [handleTDisconnect, handleDisconnectRequest, removeEntryByAddress, hsource, hstate,
      ConnectionTable.removeConnectionByAddress, withTable, note]

/-- A new entry is the only one of the table; its activity time is still unset. -/
structure NewEntry (s t : TransportLayer) (a : IndividualAddress) (e : ConnectionEntry) : Prop where
  before : s.connectionTable.connections = []
  after : t.connectionTable.connections = [e]
  valid : e.index.isValid = true
  background : t.background = s.background
  network : t.network = s.network

theorem createEntry_cases (hslot : s.OneSlot) (a : IndividualAddress) (p : ConnectionParams) :
    (∃ t e, s.createEntry a p = (e.index, t) ∧ NewEntry s t a e) ∨
      s.createEntry a p = (.invalid, s.note []) := by
  by_cases hgo : a.isValid = true ∧ s.connectionTable.canCreateConnection a = .ok ()
  · left
    have hroom := ((ConnectionTable.canCreateConnection_iff _ a).mp hgo.2).1
    have hempty : s.connectionTable.connections = [] := by
      have hsingle := hslot.single
      apply List.eq_nil_of_length_eq_zero
      omega
    have hvalid := hslot.nextIndex_isValid
    have hcreate := ConnectionTable.createConnection_of_can p hgo.1 hgo.2
    refine ⟨(s.createEntry a p).2, ConnectionTable.newEntry ⟨s.connectionTable.nextIndex⟩ a p
      (ConnectionTable.newMachine a p), ?_, hempty, ?_, hvalid, rfl, rfl⟩
    · rw [createEntry, hcreate]
      rfl
    · rw [createEntry, hcreate]
      show s.connectionTable.connections ++ _ = _
      rw [hempty]
      rfl
  · right
    rw [createEntry, ConnectionTable.createConnection_refused p hgo]
    rfl

theorem isValid_invalid : ConnectionIndex.invalid.isValid = false := by decide

theorem OneSlot.ne_of_find_none (hslot : s.OneSlot) {a : IndividualAddress}
    (hnone : s.connectionTable.findConnection a = none)
    (he : e ∈ s.connectionTable.connections) : a ≠ e.remoteAddress := by
  rintro rfl
  rcases hslot.cases with hempty | ⟨e', hconn⟩
  · rw [hempty] at he
    cases he
  · rw [hconn, List.mem_singleton] at he
    subst he
    rw [← withEntry_eq_self hconn, findConnection_withEntry, if_pos rfl] at hnone
    cases hnone

/-- A `T_Connect` of another device: the connection is opened and stamped, or refused. -/
theorem entryMove_openRequest (hslot : s.OneSlot) {a : IndividualAddress} (priority : Priority)
    (rep : Bool) (hnone : s.connectionTable.findConnection a = none)
    (hunmet : ∀ e ∈ s.connectionTable.connections, met e.remoteAddress →
      ∃ f ∈ answers s (s.handleConnectRequest a priority rep), ConnectionFrame e.remoteAddress f) :
    EntryMove met s (s.handleConnectRequest a priority rep) := by
  rcases createEntry_cases hslot a (serverParams a) with ⟨t, e, hcreate, hnew⟩ | hrefused
  · have hafter : s.handleConnectRequest a priority rep
        = (t.updateConnection e.index (acceptConnection priority)).touch e.index := by
      simp only [handleConnectRequest, hnone, hcreate, hnew.valid, if_true]
    have htime := background_handleConnectRequest s a priority rep
    have ht := withEntry_eq_self hnew.after
    rw [← ht, updateConnection_withEntry, if_pos rfl, touch_withEntry] at hafter
    have hindex : (acceptConnection priority e).index = e.index := rfl
    rw [if_pos hindex] at hafter
    refine .created hnew.before (connections_of_eq hafter) ?_
    have hsame : t.timebaseMs = s.timebaseMs := congrArg Background.timebaseMs hnew.background
    have hsame' := congrArg Background.timebaseMs htime
    exact hsame.trans hsame'.symm
  · have hafter : s.handleConnectRequest a priority rep
        = ((s.note []).sendDisconnect a priority).2 := by
      simp only [handleConnectRequest, hnone, hrefused, isValid_invalid, Bool.false_eq_true,
        if_false]
    refine .of_same hslot (by rw [hafter]; rfl) ?_
    intro e he hmet
    rcases hunmet e he hmet with ⟨f, hf, hframe⟩
    have hsent : (s.handleConnectRequest a priority rep).network.sent = s.network.sent ∨
        (s.handleConnectRequest a priority rep).network.sent = s.network.sent ++
          [controlFrame s.ownAddress a (.createControl .disconnect) priority] := by
      rw [hafter]
      exact sent_networkSend (s.note []) _
    rw [answers_subset hsent hf] at hframe
    exact not_connectionFrame_of_ne (hslot.ne_of_find_none hnone he) _ _ hframe

/-- The devices met by the handler of a frame: its source, if it is a transport PDU, and those that
frames are sent to. -/
def MetBy (met : IndividualAddress → Prop) (s : TransportLayer) (frame : NDataFrame) : Prop :=
  ∀ a, met a →
    (frame.dlFrame.source = a ∧ classify frame.dlFrame.tpdu.data ≠ .connectionless) ∨
      ∃ f ∈ answers s (s.dispatch frame), ConnectionFrame a f

theorem entryMove_dispatch (hslot : s.OneSlot) (hinit : s.initialized = true)
    (htime : s.timebaseMs ≠ 0) {frame : NDataFrame} (hmet : MetBy met s frame) :
    EntryMove met s (s.dispatch frame) := by
  have htime' : (s.dispatch frame).timebaseMs = s.timebaseMs :=
    congrArg Background.timebaseMs (background_dispatch s frame)
  cases hfind : s.connectionTable.findConnection frame.dlFrame.source with
  | some e =>
    rcases hslot.withEntry_of_find hfind with ⟨hs, haddr⟩
    have hconn := connections_of_eq hs.symm
    -- the handlers of the peer's frames stamp its entry or remove it
    have hstamped : (∃ e', (s.dispatch frame).connectionTable.connections = [e'] ∧
        e'.remoteAddress = e.remoteAddress ∧ e'.index = e.index ∧
        e'.lastActivityTimeMs = s.timebaseMs) → EntryMove met s (s.dispatch frame) := by
      rintro ⟨e', hafter, haddr', hindex, hact⟩
      exact .touched hconn hafter haddr' hindex (hact.trans htime'.symm)
    cases hclass : classify frame.dlFrame.tpdu.data with
    | tConnect =>
      apply hstamped
      have hself := handleTConnect_self s e frame.dlFrame haddr.symm
      rw [hs] at hself
      simp only [dispatch, hclass]
      exact hself
    | tDisconnect =>
      have hself := handleTDisconnect_self s e frame.dlFrame haddr.symm
      rw [hs] at hself
      refine .gone ?_ (Or.inr (Or.inl (by rw [htime']; exact htime)))
      simp only [dispatch, hclass]
      exact hself
    | tAck seqNum =>
      apply hstamped
      have hself := handleAck_self s e seqNum
      rw [hs, haddr] at hself
      simp only [dispatch, hclass]
      rw [hself]
      rcases ackedEntry_fields e seqNum with ⟨haddr', hindex, -⟩
      exact ⟨_, rfl, haddr', hindex, rfl⟩
    | tNak seqNum =>
      apply hstamped
      have hself := handleNak_self s e seqNum
      rw [hs, haddr] at hself
      simp only [dispatch, hclass]
      rw [hself]
      rcases nakedEntry_fields e seqNum s.timebaseMs with ⟨haddr', hindex, -⟩
      exact ⟨_, rfl, haddr', hindex, rfl⟩
    | tDataConnected seqNum =>
      apply hstamped
      have hself := handleNumberedData_self e hinit seqNum frame.dlFrame.tpdu frame.dlFrame.priority
      rw [hs, haddr] at hself
      simp only [dispatch, hclass]
      rw [← haddr] at hself ⊢
      exact hself
    | connectionless =>
      have hafter : s.dispatch frame = s.handleConnectionless frame := by
        simp only [dispatch, hclass]
      refine .of_same hslot ?_ ?_
      · rw [hafter, handleConnectionless, table_transformAndDeliver]
      · intro e' _ hm
        rcases hmet _ hm with ⟨-, hne⟩ | ⟨f, hf, -⟩
        · exact hne hclass
        · rw [answers_eq_nil] at hf
          · cases hf
          · rw [hafter, handleConnectionless, (transformAndDeliver_fields _ _).1]
  | none =>
    -- frames of other devices leave the entry alone, and so do those to the upper layer
    have hother : ∀ e ∈ s.connectionTable.connections, met e.remoteAddress →
        ∃ f ∈ answers s (s.dispatch frame), ConnectionFrame e.remoteAddress f := by
      intro e he hm
      rcases hmet _ hm with ⟨hsource, -⟩ | hsent
      · exact absurd hsource (hslot.ne_of_find_none hfind he)
      · exact hsent
    have hunchanged : (s.dispatch frame).connectionTable = s.connectionTable →
        (s.dispatch frame).network = s.network → EntryMove met s (s.dispatch frame) := by
      intro htable hnet
      refine .of_same hslot (by rw [htable]) ?_
      intro e he hm
      rcases hother e he hm with ⟨f, hf, -⟩
      rw [answers_eq_nil (by rw [hnet])] at hf
      cases hf
    cases hclass : classify frame.dlFrame.tpdu.data with
    | tConnect =>
      have hafter : s.dispatch frame = s.handleConnectRequest frame.dlFrame.source
          frame.dlFrame.priority frame.dlFrame.repeated := by
        simp only [dispatch, hclass, handleTConnect, hfind]
      rw [hafter] at hother ⊢
      exact entryMove_openRequest hslot _ _ hfind hother
    | tDisconnect =>
      have hafter : s.dispatch frame = s := by
        simp only [dispatch, hclass, handleTDisconnect, hfind]
      exact hunchanged (by rw [hafter]) (by rw [hafter])
    | tAck seqNum =>
      have hafter : s.dispatch frame = s := by simp only [dispatch, hclass, handleAck, hfind]
      exact hunchanged (by rw [hafter]) (by rw [hafter])
    | tNak seqNum =>
      have hafter : s.dispatch frame = s := by simp only [dispatch, hclass, handleNak, hfind]
      exact hunchanged (by rw [hafter]) (by rw [hafter])
    | tDataConnected seqNum =>
      have hafter : s.dispatch frame = s := by
        simp only [dispatch, hclass, handleNumberedData, hfind]
      exact hunchanged (by rw [hafter]) (by rw [hafter])
    | connectionless =>
      have hafter : s.dispatch frame = s.handleConnectionless frame := by
        simp only [dispatch, hclass]
      refine hunchanged ?_ ?_
      · rw [hafter, handleConnectionless, table_transformAndDeliver]
      · rw [hafter, handleConnectionless, (transformAndDeliver_fields _ _).1]

end Moves

/-! ## Calls that act at once -/

/-- The call leaves the operations in progress alone; at most it starts the clock. -/
structure Undisturbed (s : TransportLayer) (c : Call) : Prop where
  background : (s.step c).background = s.background ∨
    (s.timebaseMs = 0 ∧ (s.step c).background = { s.background with timebaseMs := 1 })
  move : EntryMove (Meets s c) s (s.step c)

/-- A frame that goes out with no connection-oriented TPDU. -/
def SentConnectionless (s : TransportLayer) (frame : TDataFrame) : Prop :=
  ∀ nFrame t, s.buildNetworkTxFrame frame = (.ok nFrame, t) → ∀ a, ¬ ConnectionFrame a nFrame

section Calls

variable {s : TransportLayer}

theorem meets_iff_of_silent {c : Call} {a : IndividualAddress} (h : s.heardFrom c = none) :
    Meets s c a ↔ ∃ f ∈ answers s (s.step c), ConnectionFrame a f := by
  rw [Meets, h]
  simp

theorem undisturbed_of_same (hslot : s.OneSlot) {c : Call} (hheard : s.heardFrom c = none)
    (hback : (s.step c).background = s.background)
    (htable : (s.step c).connectionTable.connections = s.connectionTable.connections)
    (hsent : (s.step c).network.sent = s.network.sent) : Undisturbed s c := by
  refine ⟨Or.inl hback, .of_same hslot htable ?_⟩
  intro e _ hmet
  rcases (meets_iff_of_silent hheard).mp hmet with ⟨f, hf, -⟩
  rw [answers_eq_nil hsent] at hf
  cases hf

theorem sent_of_refused {f : NDataFrame} {err : ErrorCode} {t : TransportLayer}
    (h : s.networkSend f = (.error err, t)) : t.network.sent = s.network.sent := by
  have hresult : (s.network.sendFrame f).1 = .error err := congrArg Prod.fst h
  have hstate : t.network = (s.network.sendFrame f).2 := by
    have := congrArg (fun x => x.2.network) h
    exact this.symm
  rw [hstate]
  rw [NetworkPort.sendFrame, NetworkPort.nextAnswer] at *
  cases hanswers : s.network.answers with
  | nil =>
    rw [hanswers] at hresult
    cases hresult
  | cons answer rest =>
    rw [hanswers] at hresult
    cases answer with
    | ok u => cases hresult
    | error err' => rfl

theorem undisturbed_handleNetworkRx (hslot : s.OneSlot) (hinit : s.initialized = true)
    (frame : NDataFrame) : Undisturbed s (.handleNetworkRx frame) := by
  by_cases hne : frame.dlFrame.tpdu.data = []
  · have hsame : s.step (.handleNetworkRx frame) = s := by
      simp only [step, handleNetworkRx, hinit, hne, Bool.not_true, Bool.false_eq_true, if_false,
        if_true]
    refine undisturbed_of_same hslot ?_ (by rw [hsame]) (by rw [hsame]) (by rw [hsame])
    rw [heardFrom, hne, classify_nil, if_pos rfl]
  · have hafter : s.step (.handleNetworkRx frame) = s.startClock.dispatch frame :=
      handleNetworkRx_eq_dispatch hinit hne
    constructor
    · rw [hafter, background_dispatch, startClock]
      split
      · next hzero => exact Or.inr ⟨hzero, rfl⟩
      · exact Or.inl rfl
    · have hmet : MetBy (Meets s (.handleNetworkRx frame)) s.startClock frame := by
        rintro a (hheard | ⟨f, hf, hframe⟩)
        · left
          rw [heardFrom] at hheard
          split at hheard
          · cases hheard
          · next hclass => exact ⟨Option.some_inj.mp hheard, hclass⟩
        · right
          rw [hafter, answers, ← network_startClock s] at hf
          exact ⟨f, hf, hframe⟩
      have hmove := entryMove_dispatch hslot.startClock
        (by rw [initialized_startClock, hinit]) (timebaseMs_startClock_ne s) hmet
      rw [hafter]
      exact hmove.of_table (by rw [table_startClock])

theorem removeEntry_self (s : TransportLayer) (e : ConnectionEntry) :
    ((s.withEntry e).removeEntry e.index).connectionTable.connections = [] := by
  simp [removeEntry, ConnectionTable.removeConnection, withTable, note]

/-- `connect`. -/
theorem undisturbed_connect (hslot : s.OneSlot) (hinit : s.initialized = true)
    (a : IndividualAddress) : Undisturbed s (.connect a) := by
  by_cases hfound : (s.connectionTable.findConnection a).isSome = true
  · have hsame : s.step (.connect a) = s := by
      simp only [step, connect, hinit, hfound, Bool.not_true, Bool.false_eq_true, if_false, if_true]
    exact undisturbed_of_same hslot rfl (by rw [hsame]) (by rw [hsame]) (by rw [hsame])
  · rcases createEntry_cases hslot a (clientParams a) with ⟨t, e, hcreate, hnew⟩ | hrefused
    · have ht := withEntry_eq_self hnew.after
      obtain ⟨r, u, hsend⟩ : ∃ r u, t.sendConnect a = (r, u) := ⟨_, _, rfl⟩
      have hback : u.background = s.background := by
        have hsame := background_networkSend t
          (controlFrame t.ownAddress a (.createControl .connect) .system)
        rw [show t.networkSend _ = (r, u) from hsend] at hsame
        exact hsame.trans hnew.background
      have hu : u.withEntry e = u := by
        have htable : u.connectionTable = t.connectionTable := by
          have := congrArg (fun x => x.2.connectionTable) hsend
          exact this.symm
        exact withEntry_eq_self (by rw [htable]; exact hnew.after)
      cases r with
      | error err =>
        have hafter : s.step (.connect a) = u.removeEntry e.index := by
          simp only [step, connect, hinit, hfound, hcreate, hnew.valid, hsend, Bool.not_true,
            Bool.false_eq_true, if_false]
        refine ⟨Or.inl ?_, .gone ?_ (Or.inl hnew.before)⟩
        · rw [hafter, background_removeEntry, hback]
        · rw [hafter, ← hu]
          exact removeEntry_self u e
      | ok v =>
        have hafter : s.step (.connect a) = (u.updateConnection e.index (fun e =>
            { e with stateMachine := e.stateMachine.onEvent .connectRequest })).touch e.index := by
          simp only [step, connect, hinit, hfound, hcreate, hnew.valid, hsend, Bool.not_true,
            Bool.false_eq_true, if_false]
        have hback' : (s.step (.connect a)).background = s.background := by
          rw [hafter, background_touch, background_updateConnection, hback]
        rw [← hu, updateConnection_withEntry, if_pos rfl, touch_withEntry, if_pos rfl] at hafter
        refine ⟨Or.inl hback', .created hnew.before (connections_of_eq hafter) ?_⟩
        exact (congrArg Background.timebaseMs hback).trans
          (congrArg Background.timebaseMs hback').symm
    · have hsame : s.step (.connect a) = s.note [] := by
        simp only [step, connect, hinit, hfound, hrefused, isValid_invalid, Bool.not_true,
          Bool.not_false, Bool.false_eq_true, if_false, if_true]
      exact undisturbed_of_same hslot rfl (by rw [hsame]; rfl) (by rw [hsame]; rfl)
        (by rw [hsame]; rfl)

/-- `disconnect`. -/
theorem undisturbed_disconnect (hslot : s.OneSlot) (hinit : s.initialized = true)
    (i : ConnectionIndex) : Undisturbed s (.disconnect i) := by
  cases hget : s.connectionTable.getConnection i with
  | none =>
    have hsame : s.step (.disconnect i) = s := by
      simp only [step, disconnect, hinit, hget, Bool.not_true, Bool.false_eq_true, if_false]
    exact undisturbed_of_same hslot rfl (by rw [hsame]) (by rw [hsame]) (by rw [hsame])
  | some e =>
    rcases hslot.withEntry_of_get hget with ⟨hs, rfl⟩
    obtain ⟨r, u, hsend⟩ : ∃ r u, s.sendDisconnect e.remoteAddress e.priority = (r, u) :=
      ⟨_, _, rfl⟩
    have hback : u.background = s.background := by
      have hsame := background_networkSend s
        (controlFrame s.ownAddress e.remoteAddress (.createControl .disconnect) e.priority)
      rw [show s.networkSend _ = (r, u) from hsend] at hsame
      exact hsame
    have htable : u.connectionTable = s.connectionTable := by
      have := congrArg (fun x => x.2.connectionTable) hsend
      exact this.symm
    cases r with
    | error err =>
      have hafter : s.step (.disconnect e.index) = u := by
        simp only [step, disconnect, hinit, hget, hsend, Bool.not_true, Bool.false_eq_true, if_false]
      exact undisturbed_of_same hslot rfl (by rw [hafter, hback]) (by rw [hafter, htable])
        (by rw [hafter]; exact sent_of_refused hsend)
    | ok v =>
      have hafter : s.step (.disconnect e.index) = (u.updateConnection e.index (fun e =>
          { e with stateMachine := e.stateMachine.onEvent .disconnectRequest })).touch e.index := by
        simp only [step, disconnect, hinit, hget, hsend, Bool.not_true, Bool.false_eq_true, if_false]
      have hback' : (s.step (.disconnect e.index)).background = s.background := by
        rw [hafter, background_touch, background_updateConnection, hback]
      have hconn := connections_of_eq hs.symm
      have hu : u.withEntry e = u := withEntry_eq_self (by rw [htable]; exact hconn)
      rw [← hu, updateConnection_withEntry, if_pos rfl, touch_withEntry, if_pos rfl] at hafter
      refine ⟨Or.inl hback', .touched hconn (connections_of_eq hafter) rfl rfl ?_⟩
      exact (congrArg Background.timebaseMs hback).trans (congrArg Background.timebaseMs hback').symm

/-- `sendConnectedData`. -/
theorem undisturbed_sendConnectedData (hslot : s.OneSlot) (hinit : s.initialized = true)
    (i : ConnectionIndex) (data : List UInt8) : Undisturbed s (.sendConnectedData i data) := by
  by_cases hgo : data.length ≤ maxApduLength ∧ ∃ e, s.connectedDataEntry i = .ok e
  · rcases hgo with ⟨hlen, e, hcheck⟩
    rcases connectedDataEntry_eq_ok.mp hcheck with ⟨hget, hopen, hfree⟩
    rcases hslot.withEntry_of_get hget with ⟨hs, rfl⟩
    have hconn := connections_of_eq hs.symm
    have hsend := sendConnectedData_free s e hinit hlen hopen hfree
    rw [hs] at hsend
    obtain ⟨r, u, hnet⟩ : ∃ r u, s.networkSend (numberedDataFrame s.ownAddress e.remoteAddress
        (e.sequenceNumber &&& 0x0F) 0 ⟨data, hlen⟩ e.priority) = (r, u) := ⟨_, _, rfl⟩
    have hback : u.background = s.background := by
      have hsame := background_networkSend s (numberedDataFrame s.ownAddress e.remoteAddress
        (e.sequenceNumber &&& 0x0F) 0 ⟨data, hlen⟩ e.priority)
      rw [hnet] at hsame
      exact hsame
    rw [hnet] at hsend
    cases r with
    | error err =>
      have hafter : s.step (.sendConnectedData e.index data)
          = u.withEntry (withPendingData e ⟨data, hlen⟩ s.timebaseMs) := by
        rw [step, hsend]
      refine ⟨Or.inl (by rw [hafter, background_withEntry, hback]),
        .kept hconn (connections_of_eq hafter) rfl rfl rfl ?_⟩
      intro hmet
      rcases (meets_iff_of_silent rfl).mp hmet with ⟨f, hf, -⟩
      have hsent : (s.step (.sendConnectedData e.index data)).network.sent = s.network.sent := by
        have hrefused := sent_of_refused hnet
        rw [hafter]
        exact hrefused
      rw [answers_eq_nil hsent] at hf
      cases hf
    | ok v =>
      have hafter : s.step (.sendConnectedData e.index data)
          = u.withEntry (stamped (numberUsed (withPendingData e ⟨data, hlen⟩ s.timebaseMs))
              s.timebaseMs) := by
        rw [step, hsend]
      have hback' : (s.step (.sendConnectedData e.index data)).background = s.background := by
        rw [hafter, background_withEntry, hback]
      refine ⟨Or.inl hback', .touched hconn (connections_of_eq hafter) rfl rfl ?_⟩
      exact (congrArg Background.timebaseMs hback').symm
  · have hsame : s.step (.sendConnectedData i data) = s := sendConnectedData_refused hgo
    exact undisturbed_of_same hslot rfl (by rw [hsame]) (by rw [hsame]) (by rw [hsame])

theorem connectionFrame_numberedFrame {e : ConnectionEntry} {frame work : TDataFrame}
    {hook : TransformHook} (hfor : s.connectionFor frame = some e)
    (hwork : s.transformedFor frame e = (.ok work, hook)) :
    ConnectionFrame ⟨frame.destination.raw⟩ (numberedFrame e work) := by
  -- the hook has changed neither the destination nor its type
  rcases TransformHook.apply_ok (congrArg Prod.fst hwork) with ⟨tpdu, security, rfl⟩
  refine ⟨(findConnection_of_connectionFor hfor).2.2, rfl, ?_⟩
  have hclass := classify_numberedData (and_fifteen_lt e.sequenceNumber)
    (tpduHeaderOf tpdu.data).apci (tpduPayloadOf tpdu).data
  rw [show (numberedFrame e { frame with securityTpci6 := numberedTpci6 e.sequenceNumber
                                         tpdu := tpdu
                                         security := security }).dlFrame.tpdu.data
    = buildTpdu (.create .numberedData (e.sequenceNumber &&& 0x0F)) (tpduHeaderOf tpdu.data).apci
        (tpduPayloadOf tpdu).data from rfl, hclass]
  exact ReceivedPdu.noConfusion

theorem buildNetworkTxFrame_connectionless (hslot : s.OneSlot) {frame : TDataFrame}
    (h : SentConnectionless s frame) {r : Result NDataFrame} {t : TransportLayer}
    (hbuild : s.buildNetworkTxFrame frame = (r, t)) :
    t.connectionTable = s.connectionTable ∧ t.background = s.background := by
  cases hfor : s.connectionFor frame with
  | none =>
    simp only [buildNetworkTxFrame, hfor] at hbuild
    split at hbuild
    · cases hbuild
      exact ⟨rfl, rfl⟩
    · cases hbuild
      exact ⟨rfl, rfl⟩
  | some e =>
    obtain ⟨r', hook, htrans⟩ : ∃ r' hook, s.transformedFor frame e = (r', hook) := ⟨_, _, rfl⟩
    have happly : s.txHook.apply { frame with securityTpci6 := numberedTpci6 e.sequenceNumber }
        = (r', hook) := htrans
    cases r' with
    | error err =>
      simp only [buildNetworkTxFrame, hfor, happly] at hbuild
      cases hbuild
      exact ⟨rfl, rfl⟩
    | ok work =>
      by_cases hne : work.tpdu.data = []
      · simp only [buildNetworkTxFrame, hfor, happly, hne, if_true] at hbuild
        cases hbuild
        exact ⟨rfl, rfl⟩
      · -- it would be numbered
        have hs := (hslot.withEntry_of_find (findConnection_of_connectionFor hfor).1).1
        have hnumbered := buildNetworkTxFrame_on_connection (s := s) (e := e)
          (by rw [hs]; exact hfor) htrans hne
        rw [hs] at hnumbered
        exact absurd (connectionFrame_numberedFrame hfor htrans) (h _ _ hnumbered _)

/-- `sendFrame`, as far as it sends connectionless frames. -/
theorem undisturbed_sendFrame (hslot : s.OneSlot) (hinit : s.initialized = true)
    {frame : TDataFrame} (h : SentConnectionless s frame) : Undisturbed s (.sendFrame frame) := by
  obtain ⟨r, t, hbuild⟩ : ∃ r t, s.buildNetworkTxFrame frame = (r, t) := ⟨_, _, rfl⟩
  rcases buildNetworkTxFrame_connectionless hslot h hbuild with ⟨htable, hback⟩
  have hnet := (buildNetworkTxFrame_fields hbuild).1
  cases r with
  | error err =>
    have hafter : s.step (.sendFrame frame) = t := by
      rw [step, sendFrame_of_refused hinit hbuild]
    exact undisturbed_of_same hslot rfl (by rw [hafter, hback]) (by rw [hafter, htable])
      (by rw [hafter, hnet])
  | ok nFrame =>
    have hafter : s.step (.sendFrame frame) = (t.networkSend nFrame).2 := by
      rw [step, sendFrame_of_build hinit hbuild]
    refine ⟨Or.inl (by rw [hafter, background_networkSend, hback]), .of_same hslot ?_ ?_⟩
    · rw [hafter, ← htable]
      rfl
    · intro e _ hmet
      rcases (meets_iff_of_silent rfl).mp hmet with ⟨f, hf, hframe⟩
      have hsent : (s.step (.sendFrame frame)).network.sent = s.network.sent ∨
          (s.step (.sendFrame frame)).network.sent = s.network.sent ++ [nFrame] := by
        rw [hafter, ← hnet]
        exact sent_networkSend t nFrame
      rw [answers_subset hsent hf] at hframe
      exact h nFrame t hbuild _ hframe

end Calls

end TransportLayer

end KnxStack.Transport
