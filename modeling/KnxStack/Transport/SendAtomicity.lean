import KnxStack.Transport.IndexAllocation
import KnxStack.Transport.Send

/-!
# What a failed send leaves behind

A call that sends writes to the connection table before it knows whether the network takes the
frame. `connect`, and `beginConnect` with its polls, take the new entry out again by its index.
`buildNetworkTxFrame` and `sendConnectedData` mark the connection as awaiting an acknowledgement and
leave it marked; `beginSendConnectedData` writes nothing before the transmission has succeeded.

`failed_send_atomic_iff` says after which failed calls the table is as it was before.
-/

set_option autoImplicit false

namespace KnxStack.Lib

universe u

variable {α : Type u}

theorem updateFirst_eq_self_iff {p : α → Bool} {f : α → α} {l : List α} :
    updateFirst p f l = l ↔ ∀ a, l.find? p = some a → f a = a := by
  induction l with
  | nil => simp
  | cons b l ih =>
    by_cases hb : p b = true
    · simp [updateFirst, hb]
    · simp [updateFirst, hb, ih]

end KnxStack.Lib

namespace KnxStack.Transport

open KnxStack.Lib KnxStack.Protocol KnxStack.Datalink

namespace ConnectionTable

variable {t : ConnectionTable}

theorem updateByAddress_eq_self_iff {a : IndividualAddress} {f : ConnectionEntry → ConnectionEntry} :
    t.updateByAddress a f = t ↔ ∀ e, t.findConnection a = some e → f e = e := by
  rw [findConnection, ← updateFirst_eq_self_iff, updateByAddress]
  constructor
  · intro h
    exact congrArg ConnectionTable.connections h
  · intro h
    rw [h]

theorem updateByIndex_eq_self_iff {i : ConnectionIndex} {f : ConnectionEntry → ConnectionEntry} :
    t.updateByIndex i f = t ↔ ∀ e, t.getConnection i = some e → f e = e := by
  rw [getConnection, ← updateFirst_eq_self_iff, updateByIndex]
  constructor
  · intro h
    exact congrArg ConnectionTable.connections h
  · intro h
    rw [h]

theorem nextIndex_succ_ne (n : UInt8) : (n + 1) % 16 ≠ n := by
  intro h
  have hnat := congrArg UInt8.toNat h
  rw [UInt8.toNat_mod, UInt8.toNat_add] at hnat
  have hlt := n.toNat_lt
  simp only [UInt8.reduceToNat] at hnat
  omega

end ConnectionTable

namespace TransportLayer

/-! ## The calls -/

/-- The sending calls of the transport layer. `transmit` is `beginTransmit` and at most so many calls
of `pollTransmit`, `openConnection` is `beginConnect` and at most so many calls of `pollConnect`; the
polls end when one does not report `pending`. -/
inductive SendCall where
  | sendFrame (frame : TDataFrame)
  | transmit (frame : TDataFrame) (polls : Nat)
  | connect (remoteAddress : IndividualAddress)
  | openConnection (remoteAddress : IndividualAddress) (polls : Nat)
  | sendConnectedData (index : ConnectionIndex) (data : List UInt8)

/-- Poll until the report is not `pending`. -/
def pollWhilePending
    (poll : TransportLayer → Result OperationProgressState × TransportLayer) :
    Nat → TransportLayer → Result OperationProgressState × TransportLayer
  | 0, s => (.ok .pending, s)
  | n + 1, s =>
      match poll s with
      | (.ok .pending, s) => pollWhilePending poll n s
      | (r, s) => (r, s)

/-- A `begin` and its polls; an error of the `begin` is the outcome. -/
def polled {α : Type} (begun : Result α × TransportLayer)
    (poll : TransportLayer → Result OperationProgressState × TransportLayer) (polls : Nat) :
    Result OperationProgressState × TransportLayer :=
  match begun with
  | (.error e, s) => (.error e, s)
  | (.ok _, s) => pollWhilePending poll polls s

/-- The outcome of a call that does not wait. -/
def atOnce {α : Type} (r : Result α × TransportLayer) :
    Result OperationProgressState × TransportLayer :=
  match r with
  | (.error e, s) => (.error e, s)
  | (.ok _, s) => (.ok .success, s)

/-- Run a call. -/
def SendCall.run (s : TransportLayer) : SendCall → Result OperationProgressState × TransportLayer
  | .sendFrame frame => atOnce (s.sendFrame frame)
  | .transmit frame polls => polled (s.beginTransmit frame) pollTransmit polls
  | .connect remote => atOnce (s.connect remote)
  | .openConnection remote polls => polled (s.beginConnect remote) pollConnect polls
  | .sendConnectedData index data => atOnce (s.sendConnectedData index data)

/-- An error, or a progress report other than `pending` and `success`. -/
def hasFailed : Result OperationProgressState → Bool
  | .ok .pending => false
  | .ok .success => false
  | _ => true

/-! ## When nothing is left behind -/

/-- The open connection a frame is put on and the frame as the transform hook left it; none when the
hook refuses the frame or empties its TPDU. -/
def putOnConnection (s : TransportLayer) (frame : TDataFrame) :
    Option (ConnectionEntry × TDataFrame) :=
  match s.connectionFor frame with
  | none => none
  | some e =>
      match (s.txHook.apply { frame with securityTpci6 := numberedTpci6 e.sequenceNumber }).1 with
      | .error _ => none
      | .ok work => if work.tpdu.data = [] then none else some (e, work)

/-- An entry that awaits the acknowledgement of a frame put on it. -/
def awaiting (s : TransportLayer) (seqNum : UInt8) (work : TDataFrame) (e : ConnectionEntry) :
    ConnectionEntry :=
  withPending e (seqNum &&& 0x0F) (tpduHeaderOf work.tpdu.data).apci.raw (tpduPayloadOf work.tpdu)
    work.priority s.timebaseMs

/-- The frame goes on no connection, or on one that is already marked exactly as it will be. -/
def MarksNothing (s : TransportLayer) (frame : TDataFrame) : Prop :=
  ∀ e work, s.putOnConnection frame = some (e, work) → s.awaiting e.sequenceNumber work e = e

/-- There is room for a connection to the address and none exists. -/
def CanConnect (s : TransportLayer) (remote : IndividualAddress) : Prop :=
  remote.isValid = true ∧ s.connectionTable.canCreateConnection remote = .ok ()

/-- The counter of indices stands at a valid index that no entry has. -/
def CounterFree (s : TransportLayer) : Prop :=
  s.connectionTable.nextIndex ≠ 0xFF ∧
    ∀ e ∈ s.connectionTable.connections, e.index ≠ ⟨s.connectionTable.nextIndex⟩

/-- The connected data is refused before the entry is written, or the entry is already marked exactly
as it will be. -/
def DataMarksNothing (s : TransportLayer) (index : ConnectionIndex) (data : List UInt8) : Prop :=
  ∀ (h : data.length ≤ maxApduLength) (e : ConnectionEntry), s.connectedDataEntry index = .ok e →
    withPending e (e.sequenceNumber &&& 0x0F) 0 ⟨data, h⟩ e.priority s.timebaseMs = e

/-- Condition under which a failed call leaves the entries as they were. -/
def SendCall.KeepsEntries (s : TransportLayer) : SendCall → Prop
  | .sendFrame frame => s.initialized = true → s.MarksNothing frame
  | .transmit frame _ => s.initialized = true → s.sendActive = false → s.MarksNothing frame
  | .connect remote => s.initialized = true → s.CanConnect remote → s.CounterFree
  | .openConnection remote _ =>
      s.initialized = true → s.connectOperation.active = false → s.CanConnect remote → s.CounterFree
  | .sendConnectedData index data => s.initialized = true → s.DataMarksNothing index data

/-- Condition under which a failed call leaves the whole table as it was: no index may have been
drawn either. -/
def SendCall.KeepsTable (s : TransportLayer) : SendCall → Prop
  | .connect remote => s.initialized = true → ¬ s.CanConnect remote
  | .openConnection remote _ =>
      s.initialized = true → s.connectOperation.active = false → ¬ s.CanConnect remote
  | call => call.KeepsEntries s

/-! ## T_Data -/

section Frames

variable {s : TransportLayer} {frame : TDataFrame}

theorem table_buildNetworkTxFrame (s : TransportLayer) (frame : TDataFrame) :
    (s.buildNetworkTxFrame frame).2.connectionTable =
      match s.putOnConnection frame with
      | none => s.connectionTable
      | some (e, work) =>
          s.connectionTable.updateByAddress e.remoteAddress (s.awaiting e.sequenceNumber work) := by
  unfold buildNetworkTxFrame putOnConnection
  cases hfor : s.connectionFor frame with
  | none =>
    dsimp only
    rcases s.txHook.apply frame with ⟨_ | work, hook⟩ <;> rfl
  | some e =>
    dsimp only
    rcases s.txHook.apply { frame with securityTpci6 := numberedTpci6 e.sequenceNumber }
      with ⟨_ | work, hook⟩
    · rfl
    · by_cases hempty : work.tpdu.data = []
      · simp [hempty]
      · simp only [hempty, if_false, updateEntry, withTable]
        rfl

theorem findConnection_own_address {e : ConnectionEntry}
    (h : s.connectionFor frame = some e) :
    s.connectionTable.findConnection e.remoteAddress = some e := by
  unfold connectionFor at h
  split at h
  · split at h
    · rename_i e' hfind
      split at h
      · cases h
        have haddr := List.find?_some hfind
        rw [beq_iff_eq] at haddr
        rw [haddr]
        exact hfind
      · cases h
    · cases h
  · cases h

theorem connectionFor_of_putOnConnection {e : ConnectionEntry} {work : TDataFrame}
    (h : s.putOnConnection frame = some (e, work)) : s.connectionFor frame = some e := by
  unfold putOnConnection at h
  cases hfor : s.connectionFor frame with
  | none => simp [hfor] at h
  | some e' =>
    simp only [hfor] at h
    split at h
    · cases h
    · split at h
      · cases h
      · cases h
        rfl

theorem table_buildNetworkTxFrame_eq_iff :
    (s.buildNetworkTxFrame frame).2.connectionTable = s.connectionTable ↔ s.MarksNothing frame := by
  rw [table_buildNetworkTxFrame, MarksNothing]
  cases hput : s.putOnConnection frame with
  | none => simp
  | some pair =>
    obtain ⟨e, work⟩ := pair
    have hfind := findConnection_own_address (connectionFor_of_putOnConnection hput)
    simp only [ConnectionTable.updateByAddress_eq_self_iff, hfind, Option.some.injEq, Prod.mk.injEq]
    constructor
    · rintro h e' work' ⟨rfl, rfl⟩
      exact h e rfl
    · rintro h e' rfl
      exact h e work ⟨rfl, rfl⟩

theorem sameShape_buildNetworkTxFrame (s : TransportLayer) (frame : TDataFrame) :
    s.connectionTable.SameShape (s.buildNetworkTxFrame frame).2.connectionTable := by
  rw [table_buildNetworkTxFrame]
  split
  · exact ⟨rfl, rfl, rfl⟩
  · exact ⟨length_updateFirst _ _ _, rfl, rfl⟩

/-- The network does not see the table: `sendFrame` leaves what the rewriting left. -/
theorem table_sendFrame (hinit : s.initialized = true) :
    (s.sendFrame frame).2.connectionTable = (s.buildNetworkTxFrame frame).2.connectionTable := by
  unfold sendFrame
  rw [if_neg (by simp [hinit])]
  rcases s.buildNetworkTxFrame frame with ⟨_ | nFrame, s'⟩ <;> rfl

theorem table_beginTransmit (hinit : s.initialized = true) (hidle : s.sendActive = false) :
    (s.beginTransmit frame).2.connectionTable
      = (s.buildNetworkTxFrame frame).2.connectionTable := by
  unfold beginTransmit
  rw [if_neg (by simp [hinit]), if_neg (by simp [hidle])]
  rcases s.buildNetworkTxFrame frame with ⟨_ | nFrame, s'⟩
  · rfl
  · dsimp only
    rcases hbegin : s'.networkBegin nFrame with ⟨_ | _, s''⟩
    · exact congrArg (·.2.connectionTable) hbegin.symm
    · exact congrArg (·.2.connectionTable) hbegin.symm

theorem table_pollTransmit (s : TransportLayer) :
    s.pollTransmit.2.connectionTable = s.connectionTable := by
  unfold pollTransmit
  split
  · rfl
  · split
    · rfl
    · rcases hpoll : s.networkPoll with ⟨r, s'⟩
      have htable : s'.connectionTable = s.connectionTable :=
        congrArg (·.2.connectionTable) hpoll.symm
      split
      · rename_i heq
        cases heq
        exact htable
      · rename_i heq
        cases heq
        exact htable

/-- Polling rule. What holds while polls report `pending` holds at the end, and what the last
poll gives is the outcome. -/
theorem pollWhilePending_rule
    {poll : TransportLayer → Result OperationProgressState × TransportLayer}
    {I : TransportLayer → Prop} {P : Result OperationProgressState × TransportLayer → Prop}
    (hpending : ∀ s s', I s → poll s = (.ok .pending, s') → I s')
    (hends : ∀ s, I s → (poll s).1 ≠ .ok .pending → P (poll s))
    (hwaits : ∀ s, I s → P (.ok .pending, s)) (n : Nat) {s : TransportLayer} (hs : I s) :
    P (pollWhilePending poll n s) := by
  induction n generalizing s with
  | zero => exact hwaits s hs
  | succ n ih =>
    rw [pollWhilePending]
    have hone := hends s hs
    split
    · rename_i s' heq
      exact ih (hpending s s' hs heq)
    · rename_i r s' hnot heq
      rw [heq] at hone
      exact hone hnot

theorem table_pollWhilePending
    {poll : TransportLayer → Result OperationProgressState × TransportLayer}
    (hpoll : ∀ s, (poll s).2.connectionTable = s.connectionTable) (n : Nat) (s : TransportLayer) :
    (pollWhilePending poll n s).2.connectionTable = s.connectionTable := by
  have hpending : ∀ s₁ s₂ : TransportLayer, s₁.connectionTable = s.connectionTable →
      poll s₁ = (.ok .pending, s₂) → s₂.connectionTable = s.connectionTable := by
    intro s₁ s₂ h heq
    have hone := hpoll s₁
    rw [heq] at hone
    exact hone.trans h
  exact pollWhilePending_rule
    (P := fun r => r.2.connectionTable = s.connectionTable) hpending
    (fun s₁ h _ => (hpoll s₁).trans h) (fun _ h => h) n rfl

theorem table_atOnce {α : Type} (r : Result α × TransportLayer) :
    (atOnce r).2.connectionTable = r.2.connectionTable := by
  rcases r with ⟨_ | _, s⟩ <;> rfl

theorem table_polled {α : Type} (begun : Result α × TransportLayer)
    {poll : TransportLayer → Result OperationProgressState × TransportLayer}
    (hpoll : ∀ s, (poll s).2.connectionTable = s.connectionTable) (polls : Nat) :
    (polled begun poll polls).2.connectionTable = begun.2.connectionTable := by
  rcases begun with ⟨_ | _, s⟩
  · rfl
  · exact table_pollWhilePending hpoll polls s

/-- `sendFrame` leaves the table alone exactly when it has nothing to mark. -/
theorem table_sendFrame_eq_iff :
    (s.sendFrame frame).2.connectionTable = s.connectionTable ↔
      (s.initialized = true → s.MarksNothing frame) := by
  cases hinit : s.initialized with
  | false => simp [sendFrame, hinit]
  | true =>
    rw [table_sendFrame hinit, table_buildNetworkTxFrame_eq_iff]
    exact ⟨fun h _ => h, fun h => h rfl⟩

theorem table_beginTransmit_eq_iff :
    (s.beginTransmit frame).2.connectionTable = s.connectionTable ↔
      (s.initialized = true → s.sendActive = false → s.MarksNothing frame) := by
  cases hinit : s.initialized with
  | false => simp [beginTransmit, hinit]
  | true =>
    cases hactive : s.sendActive with
    | true => simp [beginTransmit, hinit, hactive]
    | false =>
      rw [table_beginTransmit hinit hactive, table_buildNetworkTxFrame_eq_iff]
      exact ⟨fun h _ _ => h, fun h => h rfl rfl⟩

end Frames

/-! ## Connections -/

section Connections

variable {s : TransportLayer} {remote : IndividualAddress}

/-- The entry a connection this device opens starts with. -/
def openedEntry (s : TransportLayer) (remote : IndividualAddress) : ConnectionEntry :=
  ConnectionTable.newEntry ⟨s.connectionTable.nextIndex⟩ remote (clientParams remote)
    (ConnectionTable.newMachine remote (clientParams remote))

/-- The table with the new entry. -/
def openedTable (s : TransportLayer) (remote : IndividualAddress) : ConnectionTable :=
  { s.connectionTable with
    connections := s.connectionTable.connections ++ [s.openedEntry remote]
    nextIndex := (s.connectionTable.nextIndex + 1) % 16 }

theorem createEntry_of_canConnect (h : s.CanConnect remote) :
    (s.createEntry remote (clientParams remote)).1 = ⟨s.connectionTable.nextIndex⟩ ∧
      (s.createEntry remote (clientParams remote)).2.connectionTable = s.openedTable remote := by
  have hcreate := ConnectionTable.createConnection_of_can (clientParams remote) h.1 h.2
  rw [createEntry, hcreate]
  exact ⟨rfl, rfl⟩

theorem createEntry_of_not_canConnect (h : ¬ s.CanConnect remote) :
    (s.createEntry remote (clientParams remote)).1 = .invalid ∧
      (s.createEntry remote (clientParams remote)).2.connectionTable = s.connectionTable := by
  have hcreate := ConnectionTable.createConnection_refused (clientParams remote) h
  rw [createEntry, hcreate]
  exact ⟨rfl, rfl⟩

theorem table_removeEntry (s : TransportLayer) (index : ConnectionIndex) :
    (s.removeEntry index).connectionTable = (s.connectionTable.removeConnection index).2 := by
  unfold removeEntry ConnectionTable.removeConnection
  cases hget : s.connectionTable.getConnection index with
  | none => rfl
  | some e => simp [note, withTable]

/-- What an undone creation leaves. The new entry is the last one, so an older entry with the same
index is taken out in its place. -/
def undoneTable (s : TransportLayer) (remote : IndividualAddress) : ConnectionTable :=
  if s.connectionTable.nextIndex = 0xFF then s.openedTable remote
  else ((s.openedTable remote).removeConnection ⟨s.connectionTable.nextIndex⟩).2

theorem nextIndex_undoneTable (s : TransportLayer) (remote : IndividualAddress) :
    (s.undoneTable remote).nextIndex = (s.connectionTable.nextIndex + 1) % 16 := by
  unfold undoneTable
  split
  · rfl
  · unfold ConnectionTable.removeConnection
    split <;> rfl

theorem undoneTable_ne (s : TransportLayer) (remote : IndividualAddress) :
    s.undoneTable remote ≠ s.connectionTable := by
  intro heq
  have hindex := nextIndex_undoneTable s remote
  rw [heq] at hindex
  exact ConnectionTable.nextIndex_succ_ne _ hindex.symm

theorem connections_removed (s : TransportLayer) (remote : IndividualAddress) :
    ((s.openedTable remote).removeConnection ⟨s.connectionTable.nextIndex⟩).2.connections =
      (s.connectionTable.connections ++ [s.openedEntry remote]).eraseP
        (fun e => e.index == ⟨s.connectionTable.nextIndex⟩) := by
  have hsome : ((s.openedTable remote).getConnection ⟨s.connectionTable.nextIndex⟩).isSome := by
    rw [ConnectionTable.getConnection, List.find?_isSome]
    refine ⟨s.openedEntry remote, ?_, ?_⟩
    · simp [openedTable]
    · simp [openedEntry, ConnectionTable.newEntry]
  rw [ConnectionTable.removeConnection, if_pos hsome]
  rfl

/-- The undone creation restores the entries exactly when the new entry had an index of its own. -/
theorem connections_undoneTable_eq_iff (h : s.CanConnect remote) :
    (s.undoneTable remote).connections = s.connectionTable.connections ↔ s.CounterFree := by
  have hnew : s.openedEntry remote ∉ s.connectionTable.connections := by
    intro hmem
    have hnone := ((ConnectionTable.canCreateConnection_iff _ _).mp h.2).2
    exact ConnectionTable.findConnection_eq_none.mp hnone _ hmem rfl
  unfold undoneTable CounterFree
  by_cases hinvalid : s.connectionTable.nextIndex = 0xFF
  · rw [if_pos hinvalid]
    simp [openedTable, hinvalid]
  · rw [if_neg hinvalid, connections_removed]
    constructor
    · intro heq
      refine ⟨hinvalid, ?_⟩
      intro e he hindex
      -- an older entry is erased instead, and the new one stays
      rw [List.eraseP_append_left (by simpa using hindex) _ he] at heq
      apply hnew
      rw [← heq]
      simp
    · rintro ⟨-, hfree⟩
      rw [List.eraseP_append_right]
      · simp [openedEntry, ConnectionTable.newEntry]
      · intro e he
        simpa using hfree e he

theorem isValid_of_ne {n : UInt8} (h : n ≠ 0xFF) : (ConnectionIndex.mk n).isValid = true := by
  simpa [ConnectionIndex.isValid] using h

theorem notFound_of_canConnect (h : s.CanConnect remote) :
    (s.connectionTable.findConnection remote).isSome = false := by
  rw [((ConnectionTable.canCreateConnection_iff _ _).mp h.2).2]
  rfl

/-- A `connect` that does not come to a creation leaves the table alone. -/
theorem table_connect_of_not (h : s.initialized = true → ¬ s.CanConnect remote) :
    (s.connect remote).2.connectionTable = s.connectionTable := by
  unfold connect
  split
  · rfl
  · rename_i hinit
    split
    · rfl
    · obtain ⟨hindex, htable⟩ := createEntry_of_not_canConnect (h (by simpa using hinit))
      rcases hcreate : s.createEntry remote (clientParams remote) with ⟨index, s'⟩
      rw [hcreate] at hindex htable
      cases hindex
      exact htable

/-- A `connect` that fails after the creation undoes it. -/
theorem table_connect_of_failed (hinit : s.initialized = true) (h : s.CanConnect remote)
    (hfail : hasFailed (atOnce (s.connect remote)).1 = true) :
    (s.connect remote).2.connectionTable = s.undoneTable remote := by
  obtain ⟨hindex, htable⟩ := createEntry_of_canConnect h
  unfold connect at hfail ⊢
  rw [if_neg (by simp [hinit]), if_neg (by simp [notFound_of_canConnect h])] at hfail ⊢
  rcases hcreate : s.createEntry remote (clientParams remote) with ⟨index, s'⟩
  rw [hcreate] at hindex htable hfail
  cases hindex
  dsimp only at hfail ⊢
  unfold undoneTable
  by_cases hinvalid : s.connectionTable.nextIndex = 0xFF
  · rw [if_pos hinvalid, if_pos (by simp [hinvalid, ConnectionIndex.isValid])]
    exact htable
  · rw [if_neg (by simp [isValid_of_ne hinvalid])] at hfail ⊢
    rw [if_neg hinvalid]
    rcases hsend : s'.sendConnect remote with ⟨_ | _, s''⟩
    · have hsame : s''.connectionTable = s'.connectionTable :=
        congrArg (·.2.connectionTable) hsend.symm
      dsimp only
      rw [table_removeEntry, hsame, htable]
    · rw [hsend] at hfail
      cases hfail

/-- A `beginConnect` that does not come to a creation leaves the table alone and is an error. -/
theorem table_beginConnect_of_not
    (h : s.initialized = true → s.connectOperation.active = false → ¬ s.CanConnect remote) :
    (∃ e, (s.beginConnect remote).1 = .error e) ∧
      (s.beginConnect remote).2.connectionTable = s.connectionTable := by
  unfold beginConnect
  split
  · exact ⟨⟨_, rfl⟩, rfl⟩
  · rename_i hinit
    split
    · exact ⟨⟨_, rfl⟩, rfl⟩
    · rename_i hidle
      split
      · exact ⟨⟨_, rfl⟩, rfl⟩
      · obtain ⟨hindex, htable⟩ :=
          createEntry_of_not_canConnect (h (by simpa using hinit) (by simpa using hidle))
        rcases hcreate : s.createEntry remote (clientParams remote) with ⟨index, s'⟩
        rw [hcreate] at hindex htable
        cases hindex
        exact ⟨⟨_, rfl⟩, htable⟩

/-- The state while a connect operation is under way. -/
structure Opening (index : ConnectionIndex) (t : ConnectionTable) (s : TransportLayer) : Prop where
  initialized : s.initialized = true
  active : s.connectOperation.active = true
  created : s.connectOperation.createdConnection = true
  index_eq : s.connectOperation.connectionIndex = index
  valid : index.isValid = true
  table : s.connectionTable = t

theorem table_abandonConnect {index : ConnectionIndex} {t : ConnectionTable}
    (h : Opening index t s) : s.abandonConnect.connectionTable = (t.removeConnection index).2 := by
  unfold abandonConnect
  rw [h.created, h.index_eq, if_pos ⟨rfl, h.valid⟩]
  dsimp only
  rw [table_removeEntry, h.table]

theorem pollConnect_cases {index : ConnectionIndex} {t : ConnectionTable} (h : Opening index t s) :
    (∃ s', s.pollConnect = (.ok .pending, s') ∧ Opening index t s') ∨
      s.pollConnect.1 = .ok .success ∨
      s.pollConnect.1 ≠ .ok .pending ∧
        s.pollConnect.2.connectionTable = (t.removeConnection index).2 := by
  unfold pollConnect
  rw [if_neg (by simp [h.initialized]), if_neg (by simp [h.active])]
  rcases hpoll : s.networkPoll with ⟨r, s'⟩
  have hs' : Opening index t s' := by
    have heq : s' = s.networkPoll.2 := congrArg Prod.snd hpoll.symm
    subst heq
    exact ⟨h.initialized, h.active, h.created, h.index_eq, h.valid, h.table⟩
  split
  · rename_i heq
    cases heq
    exact Or.inl ⟨s', rfl, hs'⟩
  · exact Or.inr (Or.inl rfl)
  · rename_i hpending _ heq
    cases heq
    exact Or.inr (Or.inr ⟨hpending, table_abandonConnect hs'⟩)

theorem table_pollWhilePending_pollConnect {index : ConnectionIndex} {t : ConnectionTable} (n : Nat)
    (h : Opening index t s) (hfail : hasFailed (pollWhilePending pollConnect n s).1 = true) :
    (pollWhilePending pollConnect n s).2.connectionTable = (t.removeConnection index).2 := by
  have hpending : ∀ s₁ s₂ : TransportLayer, Opening index t s₁ →
      s₁.pollConnect = (.ok .pending, s₂) → Opening index t s₂ := by
    intro s₁ s₂ h₁ heq
    rcases pollConnect_cases h₁ with ⟨s', hpoll, hs'⟩ | hdone | ⟨hended, -⟩
    · rw [hpoll] at heq
      cases heq
      exact hs'
    · rw [heq] at hdone
      cases hdone
    · rw [heq] at hended
      exact absurd rfl hended
  have hends : ∀ s₁ : TransportLayer, Opening index t s₁ → s₁.pollConnect.1 ≠ .ok .pending →
      hasFailed s₁.pollConnect.1 = true →
        s₁.pollConnect.2.connectionTable = (t.removeConnection index).2 := by
    intro s₁ h₁ hne hfailed
    rcases pollConnect_cases h₁ with ⟨s', hpoll, -⟩ | hdone | ⟨-, htable⟩
    · rw [hpoll] at hne
      exact absurd rfl hne
    · rw [hdone] at hfailed
      cases hfailed
    · exact htable
  exact pollWhilePending_rule
    (P := fun r => hasFailed r.1 = true → r.2.connectionTable = (t.removeConnection index).2)
    hpending hends (fun _ _ => nofun) n h hfail

/-- `beginConnect` and its polls, when they fail after the creation, undo it. -/
theorem table_openConnection_of_failed (polls : Nat) (hinit : s.initialized = true)
    (hidle : s.connectOperation.active = false) (h : s.CanConnect remote)
    (hfail : hasFailed (polled (s.beginConnect remote) pollConnect polls).1 = true) :
    (polled (s.beginConnect remote) pollConnect polls).2.connectionTable = s.undoneTable remote := by
  obtain ⟨hindex, htable⟩ := createEntry_of_canConnect h
  have hkept : (s.createEntry remote (clientParams remote)).2.initialized = true := hinit
  unfold beginConnect at hfail ⊢
  rw [if_neg (by simp [hinit]), if_neg (by simp [hidle]),
    if_neg (by simp [notFound_of_canConnect h])] at hfail ⊢
  rcases hcreate : s.createEntry remote (clientParams remote) with ⟨index, s'⟩
  rw [hcreate] at hindex htable hkept hfail
  cases hindex
  dsimp only at hfail hkept ⊢
  unfold undoneTable
  by_cases hinvalid : s.connectionTable.nextIndex = 0xFF
  · rw [if_pos hinvalid, if_pos (by simp [hinvalid, ConnectionIndex.isValid])]
    exact htable
  · rw [if_neg (by simp [isValid_of_ne hinvalid])] at hfail ⊢
    rw [if_neg hinvalid]
    rcases hbegin : s'.networkBegin (beginConnectFrame s'.ownAddress remote) with ⟨_ | _, s''⟩
    · have hsame : s''.connectionTable = s'.connectionTable :=
        congrArg (·.2.connectionTable) hbegin.symm
      change (s''.removeEntry _).connectionTable = _
      rw [table_removeEntry, hsame, htable]
    · have heq : s'' = (s'.networkBegin (beginConnectFrame s'.ownAddress remote)).2 :=
        congrArg Prod.snd hbegin.symm
      rw [hbegin] at hfail
      apply table_pollWhilePending_pollConnect polls _ hfail
      subst heq
      exact ⟨hkept, rfl, rfl, rfl, isValid_of_ne hinvalid, htable⟩

end Connections

/-! ## Connected data -/

section ConnectedData

variable {s : TransportLayer} {index : ConnectionIndex} {data : List UInt8}

/-- A `sendConnectedData` that fails leaves the entry marked. -/
theorem table_sendConnectedData_of_failed {e : ConnectionEntry} (hinit : s.initialized = true)
    (hlen : data.length ≤ maxApduLength) (hentry : s.connectedDataEntry index = .ok e)
    (hfail : hasFailed (atOnce (s.sendConnectedData index data)).1 = true) :
    (s.sendConnectedData index data).2.connectionTable =
      s.connectionTable.updateByIndex index (fun c =>
        withPending c (e.sequenceNumber &&& 0x0F) 0 ⟨data, hlen⟩ e.priority s.timebaseMs) := by
  unfold sendConnectedData at hfail ⊢
  rw [if_neg (by simp [hinit]), dif_pos hlen, hentry] at hfail ⊢
  dsimp only at hfail ⊢
  split
  · rename_i s' heq
    exact congrArg (·.2.connectionTable) heq.symm
  · rename_i heq
    rw [heq] at hfail
    cases hfail

theorem getConnection_of_connectedDataEntry {e : ConnectionEntry}
    (h : s.connectedDataEntry index = .ok e) :
    s.connectionTable.getConnection index = some e := by
  unfold connectedDataEntry at h
  split at h
  · cases h
  · rename_i e' hget
    split at h
    · cases h
    · split at h
      · cases h
      · cases h
        exact hget

/-- A failed `sendConnectedData` leaves the table alone exactly when it has nothing to mark. -/
theorem table_sendConnectedData_eq_iff
    (hfail : hasFailed (atOnce (s.sendConnectedData index data)).1 = true) :
    (s.sendConnectedData index data).2.connectionTable = s.connectionTable ↔
      (s.initialized = true → s.DataMarksNothing index data) := by
  cases hinit : s.initialized with
  | false => simp [sendConnectedData, hinit]
  | true =>
    by_cases hlen : data.length ≤ maxApduLength
    · cases hentry : s.connectedDataEntry index with
      | error err =>
        simp [sendConnectedData, DataMarksNothing, hinit, hlen, hentry]
      | ok e =>
        rw [table_sendConnectedData_of_failed hinit hlen hentry hfail,
          ConnectionTable.updateByIndex_eq_self_iff, getConnection_of_connectedDataEntry hentry]
        constructor
        · intro h _ _ e' he'
          rw [hentry] at he'
          cases he'
          exact h e rfl
        · rintro h e' ⟨⟩
          exact h rfl hlen e hentry
    · simp [sendConnectedData, DataMarksNothing, hinit, hlen]

end ConnectedData

/-! ## All calls -/

theorem table_eq_iff_entries {t t' : ConnectionTable} (h : t.SameShape t') :
    t' = t ↔ t'.connections = t.connections := by
  obtain ⟨-, hmax, hnext⟩ := h
  constructor
  · intro heq
    rw [heq]
  · intro heq
    cases t
    cases t'
    cases heq
    cases hmax
    cases hnext
    rfl

theorem SendCall.sameShape_run (s : TransportLayer) (call : SendCall)
    (hsend : ∀ remote, call ≠ .connect remote)
    (hopen : ∀ remote polls, call ≠ .openConnection remote polls)
    (hfail : hasFailed (call.run s).1 = true) :
    s.connectionTable.SameShape (call.run s).2.connectionTable := by
  cases call with
  | connect remote => exact absurd rfl (hsend remote)
  | openConnection remote polls => exact absurd rfl (hopen remote polls)
  | sendFrame frame =>
    rw [run, table_atOnce]
    cases hinit : s.initialized with
    | false => simp [TransportLayer.sendFrame, hinit, ConnectionTable.SameShape]
    | true =>
      rw [table_sendFrame hinit]
      exact sameShape_buildNetworkTxFrame s frame
  | transmit frame polls =>
    rw [run, table_polled _ table_pollTransmit]
    cases hinit : s.initialized with
    | false => simp [beginTransmit, hinit, ConnectionTable.SameShape]
    | true =>
      cases hactive : s.sendActive with
      | true => simp [beginTransmit, hinit, hactive, ConnectionTable.SameShape]
      | false =>
        rw [table_beginTransmit hinit hactive]
        exact sameShape_buildNetworkTxFrame s frame
  | sendConnectedData index data =>
    rw [run] at hfail
    rw [run, table_atOnce]
    -- it writes once the entry was found; every check before that leaves the table alone
    by_cases hmarks : s.initialized = true ∧ data.length ≤ maxApduLength ∧
        ∃ e, s.connectedDataEntry index = .ok e
    · obtain ⟨hinit, hlen, e, hentry⟩ := hmarks
      rw [table_sendConnectedData_of_failed hinit hlen hentry hfail]
      exact ⟨length_updateFirst _ _ _, rfl, rfl⟩
    · have hkept := (table_sendConnectedData_eq_iff hfail).mpr
        (fun hinit hlen e hentry => absurd ⟨hinit, hlen, e, hentry⟩ hmarks)
      rw [hkept]
      exact ⟨rfl, rfl, rfl⟩

theorem connect_outcome {s : TransportLayer} {remote : IndividualAddress} {t : ConnectionTable}
    {reached : Prop} (hnot : ¬ reached → t = s.connectionTable)
    (hyes : reached → s.CanConnect remote ∧ t = s.undoneTable remote) :
    (t = s.connectionTable ↔ ¬ reached) ∧
      (t.connections = s.connectionTable.connections ↔ (reached → s.CounterFree)) := by
  by_cases h : reached
  · obtain ⟨hcan, rfl⟩ := hyes h
    refine ⟨?_, ?_⟩
    · simp [h, undoneTable_ne]
    · rw [connections_undoneTable_eq_iff hcan]
      simp [h]
  · have ht := hnot h
    subst ht
    simp [h]

/-- Failed sends. A call that fails leaves the table, or its entries, as they were exactly under
its condition. -/
theorem failed_send_atomic_iff (s : TransportLayer) (call : SendCall)
    (hfail : hasFailed (call.run s).1 = true) :
    ((call.run s).2.connectionTable = s.connectionTable ↔ call.KeepsTable s) ∧
      ((call.run s).2.connectionTable.connections = s.connectionTable.connections ↔
        call.KeepsEntries s) := by
  cases call with
  | sendFrame frame =>
    -- a call that only changes entries in place keeps the table when it keeps the entries
    have hshape := SendCall.sameShape_run s (.sendFrame frame) nofun nofun hfail
    rw [← table_eq_iff_entries hshape, SendCall.run, table_atOnce, table_sendFrame_eq_iff]
    exact ⟨Iff.rfl, Iff.rfl⟩
  | transmit frame polls =>
    have hshape := SendCall.sameShape_run s (.transmit frame polls) nofun nofun hfail
    rw [← table_eq_iff_entries hshape, SendCall.run, table_polled _ table_pollTransmit,
      table_beginTransmit_eq_iff]
    exact ⟨Iff.rfl, Iff.rfl⟩
  | sendConnectedData index data =>
    have hshape := SendCall.sameShape_run s (.sendConnectedData index data) nofun nofun hfail
    rw [SendCall.run] at hfail
    rw [← table_eq_iff_entries hshape, SendCall.run, table_atOnce,
      table_sendConnectedData_eq_iff hfail]
    exact ⟨Iff.rfl, Iff.rfl⟩
  | connect remote =>
    rw [SendCall.run] at hfail
    rw [SendCall.run, table_atOnce]
    -- an entry that was added is taken out by its index, but the counter has moved on
    have hnot : ¬ (s.initialized = true ∧ s.CanConnect remote) →
        (s.connect remote).2.connectionTable = s.connectionTable :=
      fun h => table_connect_of_not fun hinit hcan => h ⟨hinit, hcan⟩
    have hyes : s.initialized = true ∧ s.CanConnect remote → s.CanConnect remote ∧
        (s.connect remote).2.connectionTable = s.undoneTable remote :=
      fun h => ⟨h.2, table_connect_of_failed h.1 h.2 hfail⟩
    simpa only [SendCall.KeepsTable, SendCall.KeepsEntries, not_and, and_imp]
      using connect_outcome hnot hyes
  | openConnection remote polls =>
    rw [SendCall.run] at hfail
    rw [SendCall.run]
    have hnot : ¬ (s.initialized = true ∧ s.connectOperation.active = false ∧
        s.CanConnect remote) →
        (polled (s.beginConnect remote) pollConnect polls).2.connectionTable
          = s.connectionTable := by
      intro h
      obtain ⟨⟨e, herror⟩, htable⟩ :=
        table_beginConnect_of_not fun hinit hidle hcan => h ⟨hinit, hidle, hcan⟩
      rcases hbegun : s.beginConnect remote with ⟨r, s'⟩
      rw [hbegun] at herror htable
      cases herror
      exact htable
    have hyes : s.initialized = true ∧ s.connectOperation.active = false ∧
        s.CanConnect remote → s.CanConnect remote ∧
          (polled (s.beginConnect remote) pollConnect polls).2.connectionTable
            = s.undoneTable remote :=
      fun h => ⟨h.2.2, table_openConnection_of_failed polls h.1 h.2.1 h.2.2 hfail⟩
    simpa only [SendCall.KeepsTable, SendCall.KeepsEntries, not_and, and_imp]
      using connect_outcome hnot hyes

/-- A device with an open connection to 1.1.1 on a network that refuses the next frame. -/
def refusedDevice : TransportLayer where
  initialized := true
  timebaseMs := 5000
  network := { answers := [.error .busy] }
  connectionTable :=
    { connections :=
        [{ ConnectionTable.newEntry ⟨0⟩ ⟨0x1101⟩ (clientParams ⟨0x1101⟩)
            (ConnectionTable.newMachine ⟨0x1101⟩ (clientParams ⟨0x1101⟩)) with
          stateMachine :=
            { ConnectionTable.newMachine ⟨0x1101⟩ (clientParams ⟨0x1101⟩) with
              state := .connected } }]
      maxConnections := 1
      nextIndex := 1 }

/-- A property read on a connection. -/
def connectedRead : TDataFrame where
  service := .connected
  destination := ⟨0x1101⟩
  destinationType := .individual
  tpdu := ⟨[0x03, 0xD5, 0x00, 0x0B, 0x10, 0x01], by decide⟩

/-- A group frame that the network refuses leaves the table alone. -/
theorem failed_group_send_atomic :
    hasFailed (SendCall.run refusedDevice (.sendFrame {})).1 = true ∧
      (SendCall.run refusedDevice (.sendFrame {})).2.connectionTable
        = refusedDevice.connectionTable :=
  have hfail : hasFailed (SendCall.run refusedDevice (.sendFrame {})).1 = true := by decide
  ⟨hfail, (failed_send_atomic_iff refusedDevice (.sendFrame {}) hfail).1.mpr
    (fun _ _ _ h => absurd h (by simp [putOnConnection, connectionFor]))⟩

/-- The frame that was refused stays behind as the pending TPDU of the connection, and the entry of
the failed call is one that `processRetransmissions` will send. -/
theorem failed_send_marks_pending :
    ¬ ∀ (s : TransportLayer) (call : SendCall), hasFailed (call.run s).1 = true →
      (call.run s).2.connectionTable = s.connectionTable := by
  intro h
  have hkept := h refusedDevice (.sendFrame connectedRead) (by decide)
  have hpending := congrArg
    (fun t : ConnectionTable => t.connections.map ConnectionEntry.pendingRetransmission) hkept
  exact absurd hpending (by decide)

end TransportLayer

end KnxStack.Transport
