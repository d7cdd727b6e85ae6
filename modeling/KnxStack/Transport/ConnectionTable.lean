import KnxStack.Lib.Keyed
import KnxStack.Lib.Runs
import KnxStack.Protocol.Tpdu
import KnxStack.Transport.ConnectionState

/-!
# Connection table

The table of transport connections (`transport/connection_table.cpp`): creation, lookup by index
and by remote address, removal, the two timeout sweeps, and the bookkeeping of retransmission and
duplicate detection.

A pointer into the table is the place of the first entry with a given index or address, so every
write through such a pointer is an `updateByIndex` or `updateByAddress`.

`allocation_sound_iff` says which histories of creations and removals keep the live entries apart.
-/

set_option autoImplicit false

namespace KnxStack.Transport

open KnxStack.Lib KnxStack.Protocol

/-- Upper bound on concurrently tracked connections (`MAX_CONNECTIONS`). -/
def maxConnectionsBound : Nat := 16

/-- Connections a plain device accepts at once (`kDefaultMaxConnections`). -/
def defaultMaxConnections : Nat := 1

/-- Index of a connection; `0xFF` is the invalid index. -/
structure ConnectionIndex where
  raw : UInt8
  deriving DecidableEq, Repr

namespace ConnectionIndex

/-- The invalid index. -/
def invalid : ConnectionIndex := ⟨0xFF⟩

/-- Any index but the invalid one. -/
def isValid (i : ConnectionIndex) : Bool := i.raw != 0xFF

end ConnectionIndex

/-- Entry of the connection table. -/
structure ConnectionEntry where
  stateMachine : ConnectionStateMachine
  index : ConnectionIndex
  remoteAddress : IndividualAddress
  sequenceNumber : UInt8
  expectedRxSeq : UInt8
  pendingSeq : UInt8
  maxRetries : UInt8
  lastReceivedSeq : UInt8
  lastActivityTimeMs : UInt32
  pendingRetransmission : Bool
  pendingData : FixedVector UInt8 maxApduLength
  pendingApciRaw : UInt16
  priority : Priority
  pendingPriority : Priority
  retransmitCount : UInt8
  lastTxTimeMs : UInt32
  retransmitTimeoutMs : UInt32
  deriving DecidableEq

/-- The connection table. -/
structure ConnectionTable where
  connections : List ConnectionEntry := []
  maxConnections : Nat := 0
  nextIndex : UInt8 := 0
  deriving DecidableEq

namespace ConnectionTable

/-- `init`. -/
def init (t : ConnectionTable) (maxConnections : Nat) : Result Unit × ConnectionTable :=
  if maxConnections = 0 ∨ maxConnectionsBound < maxConnections then (.error .invalidParameter, t)
  else (.ok (), { connections := [], maxConnections := maxConnections, nextIndex := 0 })

/-! ## Lookup -/

/-- `getConnection`: the first entry with the index. -/
def getConnection (t : ConnectionTable) (index : ConnectionIndex) : Option ConnectionEntry :=
  t.connections.find? (fun e => e.index == index)

/-- `findConnection`: the first entry with the remote address. -/
def findConnection (t : ConnectionTable) (remoteAddress : IndividualAddress) :
    Option ConnectionEntry :=
  t.connections.find? (fun e => e.remoteAddress == remoteAddress)

/-- A write through the pointer that `getConnection` returned. -/
def updateByIndex (t : ConnectionTable) (index : ConnectionIndex)
    (f : ConnectionEntry → ConnectionEntry) : ConnectionTable :=
  { t with connections := updateFirst (fun e => e.index == index) f t.connections }

/-- A write through the pointer that `findConnection` returned. -/
def updateByAddress (t : ConnectionTable) (remoteAddress : IndividualAddress)
    (f : ConnectionEntry → ConnectionEntry) : ConnectionTable :=
  { t with
    connections := updateFirst (fun e => e.remoteAddress == remoteAddress) f t.connections }

/-- `canCreateConnection`. -/
def canCreateConnection (t : ConnectionTable) (remoteAddress : IndividualAddress) : Result Unit :=
  if t.maxConnections ≤ t.connections.length then .error .resourceUnavailable
  else if (t.findConnection remoteAddress).isSome then .error .operationFailed
  else .ok ()

/-! ## Creation and removal -/

/-- The entry a new connection starts with. -/
def newEntry (index : ConnectionIndex) (remoteAddress : IndividualAddress)
    (params : ConnectionParams) (machine : ConnectionStateMachine) : ConnectionEntry where
  stateMachine := machine
  index := index
  remoteAddress := remoteAddress
  sequenceNumber := params.initialSequence &&& 0x0F
  expectedRxSeq := params.initialSequence &&& 0x0F
  pendingSeq := 0
  maxRetries := params.maxRetries
  -- no frame received yet: not a four-bit number, so the first frame is no duplicate
  lastReceivedSeq := 0xFF
  lastActivityTimeMs := 0
  pendingRetransmission := false
  pendingData := .clear
  pendingApciRaw := 0
  priority := .system
  pendingPriority := .system
  retransmitCount := 0
  lastTxTimeMs := 0
  retransmitTimeoutMs := ackTimeoutMs

/-- `createConnection`: the index of the new entry, or the invalid index. -/
def createConnection (t : ConnectionTable) (remoteAddress : IndividualAddress)
    (params : ConnectionParams) : ConnectionIndex × ConnectionTable :=
  if !remoteAddress.isValid then (.invalid, t)
  else if t.maxConnections ≤ t.connections.length then (.invalid, t)
  else if (t.findConnection remoteAddress).isSome then (.invalid, t)
  else
    match ConnectionStateMachine.init { params with remoteAddress := remoteAddress } with
    | .error _ => (.invalid, t)
    | .ok machine =>
        (⟨t.nextIndex⟩,
          { t with
            connections := t.connections ++ [newEntry ⟨t.nextIndex⟩ remoteAddress params machine]
            nextIndex := (t.nextIndex + 1) % 16 })

/-- `removeConnection`. -/
def removeConnection (t : ConnectionTable) (index : ConnectionIndex) :
    Result Unit × ConnectionTable :=
  if (t.getConnection index).isSome then
    (.ok (), { t with connections := t.connections.eraseP (fun e => e.index == index) })
  else (.error .operationFailed, t)

/-- `removeConnectionByAddress`. -/
def removeConnectionByAddress (t : ConnectionTable) (remoteAddress : IndividualAddress) :
    Result Unit × ConnectionTable :=
  if (t.findConnection remoteAddress).isSome then
    (.ok (),
      { t with
        connections := t.connections.eraseP (fun e => e.remoteAddress == remoteAddress) })
  else (.error .operationFailed, t)

/-! ## Timeouts -/

/-- Idle longer than the timeout; an entry without an activity time is never so. -/
def exceedsTimeout (currentTimeMs timeoutMs : UInt32) (e : ConnectionEntry) : Bool :=
  e.lastActivityTimeMs != 0 && decide (timeoutMs < currentTimeMs - e.lastActivityTimeMs)

/-- `checkTimeouts`: removes the entries that exceed the timeout and counts them. -/
def checkTimeouts (t : ConnectionTable) (currentTimeMs timeoutMs : UInt32) :
    Nat × ConnectionTable :=
  (t.connections.countP (exceedsTimeout currentTimeMs timeoutMs),
    { t with
      connections := t.connections.filter (fun e => !exceedsTimeout currentTimeMs timeoutMs e) })

/-- Idle for the timeout, counted from whatever the activity time is. -/
def reachedTimeout (currentTimeMs timeoutMs : UInt32) (e : ConnectionEntry) : Bool :=
  decide (timeoutMs ≤ currentTimeMs - e.lastActivityTimeMs)

/-- `processTimeouts`: removes the entries that reached the timeout and returns their indices. -/
def processTimeouts (t : ConnectionTable) (currentTimeMs timeoutMs : UInt32) :
    FixedVector ConnectionIndex maxConnectionsBound × ConnectionTable :=
  ((t.connections.filter (reachedTimeout currentTimeMs timeoutMs)).foldl
      (fun timedOut e => timedOut.pushBack e.index) .clear,
    { t with
      connections := t.connections.filter (fun e => !reachedTimeout currentTimeMs timeoutMs e) })

/-! ## Activity, retransmission and duplicates -/

/-- `updateActivityTime`. -/
def updateActivityTime (t : ConnectionTable) (index : ConnectionIndex) (timeMs : UInt32) :
    ConnectionTable :=
  t.updateByIndex index (fun e => { e with lastActivityTimeMs := timeMs })

/-- `markDataSent`. -/
def markDataSent (t : ConnectionTable) (index : ConnectionIndex) :
    Result Unit × ConnectionTable :=
  if (t.getConnection index).isSome then
    (.ok (), t.updateByIndex index
      (fun e => { e with retransmitCount := e.retransmitCount + 1, lastTxTimeMs := 0 }))
  else (.error .invalidParameter, t)

/-- Entry without a pending TPDU. -/
def clearRetransmitState (e : ConnectionEntry) : ConnectionEntry :=
  { e with
    pendingRetransmission := false
    retransmitCount := 0
    lastTxTimeMs := 0
    retransmitTimeoutMs := ackTimeoutMs
    pendingData := .clear }

/-- `resetRetransmitState`. -/
def resetRetransmitState (t : ConnectionTable) (index : ConnectionIndex) :
    Result Unit × ConnectionTable :=
  if (t.getConnection index).isSome then (.ok (), t.updateByIndex index clearRetransmitState)
  else (.error .invalidParameter, t)

/-- Doubled retransmission timeout, capped at the connection timeout. -/
def backoff (timeoutMs : UInt32) : UInt32 :=
  if timeoutMs * 2 ≤ connectionTimeoutMs then timeoutMs * 2 else connectionTimeoutMs

/-- The entry awaits an acknowledgement and its retransmission timeout has elapsed. -/
def isDue (currentTimeMs : UInt32) (e : ConnectionEntry) : Bool :=
  e.pendingRetransmission && decide (e.retransmitTimeoutMs ≤ currentTimeMs - e.lastTxTimeMs)

/-- Body of the loop of `processRetransmissions`, for the entry at position `i`. -/
def retransmissionStep (currentTimeMs : UInt32)
    (acc : FixedVector ConnectionIndex maxConnectionsBound × ConnectionTable) (i : Nat) :
    FixedVector ConnectionIndex maxConnectionsBound × ConnectionTable :=
  match acc.2.connections[i]? with
  | none => acc
  | some e =>
      if !isDue currentTimeMs e then acc
      else if e.retransmitCount < e.maxRetries then
        (acc.1.pushBack e.index,
          { acc.2 with
            connections := acc.2.connections.set i
              { e with retransmitTimeoutMs := backoff e.retransmitTimeoutMs } })
      else (acc.1, (acc.2.resetRetransmitState e.index).2)

/-- `processRetransmissions`: the indices of the connections that need a retransmission. -/
def processRetransmissions (t : ConnectionTable) (currentTimeMs : UInt32) :
    FixedVector ConnectionIndex maxConnectionsBound × ConnectionTable :=
  (List.range t.connections.length).foldl (retransmissionStep currentTimeMs) (.clear, t)

/-- Tables with as many entries, the same capacity and the same counter. -/
def SameShape (t t' : ConnectionTable) : Prop :=
  t'.connections.length = t.connections.length ∧ t'.maxConnections = t.maxConnections ∧
    t'.nextIndex = t.nextIndex

theorem sameShape_retransmissionStep (currentTimeMs : UInt32)
    (acc : FixedVector ConnectionIndex maxConnectionsBound × ConnectionTable) (i : Nat) :
    SameShape acc.2 (retransmissionStep currentTimeMs acc i).2 := by
  unfold retransmissionStep
  split
  · exact ⟨rfl, rfl, rfl⟩
  · split
    · exact ⟨rfl, rfl, rfl⟩
    · split
      · exact ⟨List.length_set, rfl, rfl⟩
      · unfold resetRetransmitState
        split
        · exact ⟨length_updateFirst _ _ _, rfl, rfl⟩
        · exact ⟨rfl, rfl, rfl⟩

theorem sameShape_processRetransmissions (t : ConnectionTable) (currentTimeMs : UInt32) :
    SameShape t (t.processRetransmissions currentTimeMs).2 := by
  have hloop : ∀ (positions : List Nat)
      (acc : FixedVector ConnectionIndex maxConnectionsBound × ConnectionTable),
      SameShape acc.2 (positions.foldl (retransmissionStep currentTimeMs) acc).2 := by
    intro positions
    induction positions with
    | nil => intro acc; exact ⟨rfl, rfl, rfl⟩
    | cons i positions ih =>
      intro acc
      obtain ⟨hlen, hmax, hnext⟩ := sameShape_retransmissionStep currentTimeMs acc i
      obtain ⟨hlen', hmax', hnext'⟩ := ih (retransmissionStep currentTimeMs acc i)
      exact ⟨hlen'.trans hlen, hmax'.trans hmax, hnext'.trans hnext⟩
  exact hloop _ _

/-- `isDuplicate`: compares with the last received number and records a new one. -/
def isDuplicate (t : ConnectionTable) (index : ConnectionIndex) (seqNum : UInt8) :
    Result Bool × ConnectionTable :=
  match t.getConnection index with
  | none => (.error .invalidParameter, t)
  | some e =>
      if e.lastReceivedSeq = seqNum &&& 0x0F then (.ok true, t)
      else (.ok false,
        t.updateByIndex index (fun e => { e with lastReceivedSeq := seqNum &&& 0x0F }))

end ConnectionTable

end KnxStack.Transport
