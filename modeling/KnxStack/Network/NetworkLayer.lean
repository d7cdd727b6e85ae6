import KnxStack.Datalink.FrameCodec
import KnxStack.Network.FilterTable
import KnxStack.Lib.Runs

/-!
# Network layer with coupler modes

`NetworkLayer` (`network/network_layer.cpp`) with its `RoutingTable` (`network/routing_table.cpp`):
frames received from the data link layer are filtered, delivered locally, and in the coupler modes
put into a queue of eight frames that `pollForwarding` sends out again.

A received frame holds its hop count twice, in the data link frame and beside it. `handleDlRx`
counts down the one beside it, the queue keeps the data link frame. `forwarding_iff` says what is
left of the hop count on the wire: a copy carries the hop count the frame was received with.

The data link layer is given by its answers. The queue holds, next to each frame, the frame it was
received as; this is read by statements only.
-/

set_option autoImplicit false

namespace KnxStack.Network

open KnxStack.Lib KnxStack.Datalink

/-! ## Routing table -/

/-- `RoutingDecision`. -/
inductive RoutingDecision where
  | forward
  | forwardLocal
  | block
  | drop
  deriving DecidableEq, Repr

/-- `RoutingEntry`; a zero bit of the mask is a wildcard. -/
structure RoutingEntry where
  destination : IndividualAddress := ⟨0⟩
  mask : IndividualAddress := ⟨0xFFFF⟩
  hopCount : UInt8 := 6
  enabled : Bool := true
  deriving DecidableEq, Repr

/-- `RoutingEntry::matches`. -/
def RoutingEntry.matches (entry : RoutingEntry) (addr : IndividualAddress) : Bool :=
  addr.raw &&& entry.mask.raw == entry.destination.raw &&& entry.mask.raw

/-- `RoutingTable::MAX_ENTRIES`. -/
def maxRoutingEntries : Nat := 32

/-- `RoutingTable`. -/
abbrev RoutingTable : Type := FixedVector RoutingEntry maxRoutingEntries

namespace RoutingTable

/-- `findEntry`. -/
def findEntry (table : RoutingTable) (addr : IndividualAddress) : Option RoutingEntry :=
  table.data.find? fun entry => entry.matches addr && entry.enabled

/-- `isOnSameLine`. -/
def isOnSameLine (dest own : IndividualAddress) : Bool :=
  dest.area == own.area && dest.line == own.line

/-- `isOnSameArea`. -/
def isOnSameArea (dest own : IndividualAddress) : Bool := dest.area == own.area

/-- `route`. -/
def route (table : RoutingTable) (source : IndividualAddress) (dest : GroupAddress)
    (destinationType : AddressType) (hopCount : UInt8) (own : IndividualAddress) :
    RoutingDecision :=
  if hopCount = 0 then .drop
  else if destinationType = .group then .forward
  else
    let destAddr : IndividualAddress := ⟨dest.raw⟩
    if destAddr.raw = own.raw then .drop
    else if destAddr.raw = source.raw then .drop
    else if isOnSameLine destAddr own then .forwardLocal
    else if isOnSameArea destAddr own then .forward
    else
      match table.findEntry destAddr with
      | some entry =>
          if entry.enabled then if hopCount > entry.hopCount then .drop else .forward else .block
      | none => .block

end RoutingTable

/-! ## State -/

/-- `NDataFrame`. -/
structure NDataFrame where
  dlFrame : LDataFrame
  hopCount : UInt8 := 6
  deriving DecidableEq

/-- An operation on the data link layer (`TxOperationState`, `ForwardOperationState`). -/
structure LinkOperation where
  active : Bool := false
  started : Bool := false
  dlFrame : LDataFrame := {}
  deriving DecidableEq

/-- `FORWARD_QUEUE_CAPACITY`. -/
def forwardQueueCapacity : Nat := 8

/-- What the device is configured to do with received frames. `routingEnabled` is set by
`setNetworkMode` for the two coupler modes. -/
structure NetworkConfig where
  ownAddress : IndividualAddress
  routingEnabled : Bool := true
  filteringEnabled : Bool := false
  routingTable : RoutingTable := .clear
  filterTable : FilterTable := {}
  deriving DecidableEq

/-- A frame to be forwarded, and the frame it was received as. -/
structure ForwardFrame where
  dlFrame : LDataFrame
  received : LDataFrame
  deriving DecidableEq

/-- `NetworkLayer`. `copies` records the frames `pollForwarding` has started to transmit and
`delivered` the frames given to the upper layer. -/
structure NetworkLayer where
  config : NetworkConfig
  initialized : Bool := true
  txOperation : LinkOperation := {}
  forwardOperation : LinkOperation := {}
  forwardedAs : LDataFrame := {}
  forwardQueue : FixedVector ForwardFrame forwardQueueCapacity := .clear
  droppedForwardFrames : Nat := 0
  copies : List ForwardFrame := []
  delivered : List NDataFrame := []
  deriving DecidableEq

/-! ## Receiving -/

/-- `shouldForwardFrame`. -/
def shouldForwardFrame (config : NetworkConfig) (frame : LDataFrame) (hopCount : UInt8) : Bool :=
  if hopCount = 0 then false
  else
    match config.routingTable.route frame.source frame.destination frame.destinationType hopCount
        config.ownAddress with
    | .forward => true
    | .forwardLocal => true
    | .block => false
    | .drop => false

/-- `shouldFilterFrame`. -/
def shouldFilterFrame (config : NetworkConfig) (frame : LDataFrame) : Bool :=
  frame.destinationType.isGroupAddress
    && decide (config.filterTable.checkFilter frame.destination = .block)

/-- `enqueueForwardFrame`; `received` is the frame as it was received. -/
def enqueueForwardFrame (frame : NDataFrame) (received : LDataFrame) (l : NetworkLayer) :
    NetworkLayer × Result Unit :=
  if forwardQueueCapacity ≤ l.forwardQueue.size then
    ({ l with droppedForwardFrames := l.droppedForwardFrames + 1 }, .error .queueFull)
  else ({ l with forwardQueue := l.forwardQueue.pushBack ⟨frame.dlFrame, received⟩ }, .ok ())

/-- The frame is for this device, too. -/
def forLocalDelivery (config : NetworkConfig) (frame : LDataFrame) : Bool :=
  match frame.destinationType with
  | .group => true
  | .individual =>
      let destAddr : IndividualAddress := ⟨frame.destination.raw⟩
      destAddr.isBroadcast || destAddr == config.ownAddress

/-- The part of `handleDlRx` that forwards: the frame for the upper layer, with its hop count counted
down if it is forwarded, and the layer with the frame in its queue if hops are left. -/
def forwardReceived (frame : LDataFrame) (l : NetworkLayer) : NDataFrame × NetworkLayer :=
  let nFrame : NDataFrame := ⟨frame, frame.hopCount⟩
  if l.config.routingEnabled && shouldForwardFrame l.config frame nFrame.hopCount
      && decide (nFrame.hopCount > 0) then
    let nFrame := { nFrame with hopCount := nFrame.hopCount - 1 }
    (nFrame, if nFrame.hopCount > 0 then (enqueueForwardFrame nFrame frame l).1 else l)
  else (nFrame, l)

/-- `handleDlRx`. -/
def handleDlRx (frame : LDataFrame) (l : NetworkLayer) : NetworkLayer :=
  if !l.initialized then l
  else if l.config.filteringEnabled && shouldFilterFrame l.config frame then l
  else
    let (nFrame, l') := forwardReceived frame l
    if forLocalDelivery l.config frame then { l' with delivered := l'.delivered ++ [nFrame] } else l'

/-! ## Sending -/

/-- What the data link layer answers to a begin or to a poll. -/
structure LinkAnswers where
  begun : Result Unit
  progress : Result OperationProgressState
  deriving DecidableEq

/-- `ForwardProgressState`. -/
inductive ForwardProgressState where
  | idle
  | pending
  | success
  | busy
  | transmissionFailed
  | timeout
  deriving DecidableEq, Repr

/-- `finishForwardOperation`. -/
def finishForwardOperation (l : NetworkLayer) : NetworkLayer := { l with forwardOperation := {} }

/-- `pollForwarding` for an active forward operation. -/
def pollForwardOperation (a : LinkAnswers) (l : NetworkLayer) :
    NetworkLayer × Result ForwardProgressState :=
  if !l.forwardOperation.started then
    match a.begun with
    | .error .busy => (l, .ok .pending)
    | .error .timeout => (finishForwardOperation l, .ok .timeout)
    | .error _ => (finishForwardOperation l, .ok .transmissionFailed)
    | .ok () =>
        ({ l with
            forwardOperation := { l.forwardOperation with started := true }
            copies := l.copies ++ [⟨l.forwardOperation.dlFrame, l.forwardedAs⟩] },
          .ok .pending)
  else
    match a.progress with
    | .error e => (finishForwardOperation l, .error e)
    | .ok .pending => (l, .ok .pending)
    | .ok .success => (finishForwardOperation l, .ok .success)
    | .ok .busy => (finishForwardOperation l, .ok .busy)
    | .ok .transmissionFailed => (finishForwardOperation l, .ok .transmissionFailed)
    | .ok .timeout => (finishForwardOperation l, .ok .timeout)

/-- `pollForwarding`. After taking a frame from the queue the source polls once more, now with an
active operation. -/
def pollForwarding (a : LinkAnswers) (l : NetworkLayer) :
    NetworkLayer × Result ForwardProgressState :=
  if !l.initialized then (l, .error .notInitialized)
  else if l.txOperation.active then
    (l, .ok (if l.forwardOperation.active || !l.forwardQueue.isEmpty then .pending else .idle))
  else if l.forwardOperation.active then pollForwardOperation a l
  else
    match l.forwardQueue with
    | ⟨[], _⟩ => (l, .ok .idle)
    | ⟨frame :: rest, h⟩ =>
        pollForwardOperation a
          { l with
            forwardOperation := ⟨true, false, frame.dlFrame⟩
            forwardedAs := frame.received
            forwardQueue := ⟨rest, Nat.le_of_succ_le h⟩ }

/-- `beginTransmit`, for a frame of the device itself. -/
def beginTransmit (frame : NDataFrame) (l : NetworkLayer) : NetworkLayer × Result Unit :=
  if !l.initialized then (l, .error .notInitialized)
  else if l.forwardOperation.active then (l, .error .busy)
  else if l.txOperation.active then (l, .error .busy)
  else if frame.hopCount > 6 then (l, .error .invalidParameter)
  else
    ({ l with txOperation := ⟨true, false, { frame.dlFrame with hopCount := frame.hopCount }⟩ },
      .ok ())

/-- `finishTxOperation`. -/
def finishTxOperation (l : NetworkLayer) : NetworkLayer := { l with txOperation := {} }

/-- `pollTransmit`, for a frame of the device itself. -/
def pollTransmit (a : LinkAnswers) (l : NetworkLayer) :
    NetworkLayer × Result OperationProgressState :=
  if !l.initialized then (l, .error .notInitialized)
  else if !l.txOperation.active then (l, .error .operationNotReady)
  else
    match l.txOperation.started, a.begun with
    | false, .error .busy => (finishTxOperation l, .ok .busy)
    | false, .error .timeout => (finishTxOperation l, .ok .timeout)
    | false, .error _ => (finishTxOperation l, .ok .transmissionFailed)
    | _, _ =>
        let l := { l with txOperation := { l.txOperation with started := true } }
        match a.progress with
        | .error e => (finishTxOperation l, .error e)
        | .ok .pending => (l, .ok .pending)
        | .ok state => (finishTxOperation l, .ok state)

/-- `close`. -/
def close (l : NetworkLayer) : NetworkLayer :=
  if l.initialized then
    { l with txOperation := {}, forwardOperation := {}, forwardQueue := .clear, initialized := false }
  else l

/-- The calls made to the layer; `configure` stands for the setters and the table edits. -/
inductive NetworkCall where
  | receive (frame : LDataFrame)
  | pollForwarding (answers : LinkAnswers)
  | beginTransmit (frame : NDataFrame)
  | pollTransmit (answers : LinkAnswers)
  | configure (change : NetworkConfig → NetworkConfig)
  | close

/-- One call. -/
def networkCall (l : NetworkLayer) : NetworkCall → NetworkLayer
  | .receive frame => handleDlRx frame l
  | .pollForwarding answers => (pollForwarding answers l).1
  | .beginTransmit frame => (beginTransmit frame l).1
  | .pollTransmit answers => (pollTransmit answers l).1
  | .configure change => { l with config := change l.config }
  | .close => close l

/-! ## Copies on the wire -/

/-- A copy as it should be: one hop less, or none less for an unlimited frame, and no copy of a
frame that has no hop left. -/
def CopyRight (c : ForwardFrame) : Prop :=
  (1 ≤ c.received.hopCount ∧ c.received.hopCount ≤ 6 →
      c.dlFrame = { c.received with hopCount := c.received.hopCount - 1 })
    ∧ (c.received.hopCount = 7 → c.dlFrame = c.received) ∧ c.received.hopCount ≠ 0

/-- A frame received now is put into the forward queue. -/
def isEnqueued (l : NetworkLayer) (frame : LDataFrame) : Bool :=
  l.initialized && !(l.config.filteringEnabled && shouldFilterFrame l.config frame)
    && l.config.routingEnabled && shouldForwardFrame l.config frame frame.hopCount
    && decide (2 ≤ frame.hopCount) && decide (l.forwardQueue.size < forwardQueueCapacity)

theorem isEnqueued_hopCount {l : NetworkLayer} {frame : LDataFrame}
    (h : isEnqueued l frame = true) : 2 ≤ frame.hopCount := by
  simp only [isEnqueued, Bool.and_eq_true, decide_eq_true_eq] at h
  exact h.1.2

/-- No frame with two to six hops left is enqueued by the call. -/
def Unforwarded (l : NetworkLayer) : NetworkCall → Prop
  | .receive frame =>
      2 ≤ frame.hopCount → frame.hopCount ≤ 6 → isEnqueued l frame = false
  | _ => True

theorem hopCount_sub_one_pos (h : UInt8) (hpos : h > 0) : h - 1 > 0 ↔ 2 ≤ h := by
  have hpos' : 0 < h.toNat := UInt8.lt_iff_toNat_lt.mp hpos
  have hlt : h.toNat < 256 := h.toNat_lt
  have h0 : (0 : UInt8).toNat = 0 := rfl
  have h1 : (1 : UInt8).toNat = 1 := rfl
  have h2 : (2 : UInt8).toNat = 2 := rfl
  rw [gt_iff_lt, UInt8.lt_iff_toNat_lt, UInt8.le_iff_toNat_le, UInt8.toNat_sub, h0, h1, h2]
  omega

/-- Everything `handleDlRx` leaves alone. -/
structure ForwardingKept (l l' : NetworkLayer) : Prop where
  copies : l'.copies = l.copies
  forwardOperation : l'.forwardOperation = l.forwardOperation
  forwardedAs : l'.forwardedAs = l.forwardedAs
  txOperation : l'.txOperation = l.txOperation
  initialized : l'.initialized = l.initialized

theorem ForwardingKept.refl (l : NetworkLayer) : ForwardingKept l l := ⟨rfl, rfl, rfl, rfl, rfl⟩

theorem forwardReceived_enqueues {frame : LDataFrame} {l : NetworkLayer}
    (hinit : l.initialized = true)
    (hfilter : (l.config.filteringEnabled && shouldFilterFrame l.config frame) = false) :
    ForwardingKept l (forwardReceived frame l).2
      ∧ (forwardReceived frame l).2.forwardQueue.data
        = l.forwardQueue.data ++ (if isEnqueued l frame then [⟨frame, frame⟩] else []) := by
  rw [forwardReceived, isEnqueued, hinit, hfilter]
  simp only [Bool.not_false, Bool.true_and]
  cases hroute : l.config.routingEnabled && shouldForwardFrame l.config frame frame.hopCount with
  | false => simp [ForwardingKept.refl]
  | true =>
    have hpos : frame.hopCount > 0 := by
      rw [Bool.and_eq_true] at hroute
      by_contra hzero
      have h0 : frame.hopCount = 0 := by
        have hle := UInt8.le_iff_toNat_le.mp (UInt8.not_lt.mp hzero)
        apply UInt8.toNat_inj.mp
        have hz : (0 : UInt8).toNat = 0 := rfl
        omega
      rw [shouldForwardFrame, if_pos h0] at hroute
      cases hroute.2
    simp only [hpos, decide_true, Bool.true_and, if_true, hopCount_sub_one_pos _ hpos]
    by_cases htwo : 2 ≤ frame.hopCount
    · simp only [htwo, if_true, decide_true, Bool.true_and]
      by_cases hfull : forwardQueueCapacity ≤ l.forwardQueue.size
      · rw [enqueueForwardFrame, if_pos hfull]
        refine ⟨⟨rfl, rfl, rfl, rfl, rfl⟩, ?_⟩
        simp [Nat.not_lt.mpr hfull]
      · have hroom : l.forwardQueue.data.length < forwardQueueCapacity := Nat.not_le.mp hfull
        have hroom' : l.forwardQueue.size < forwardQueueCapacity := hroom
        rw [enqueueForwardFrame, if_neg hfull]
        refine ⟨⟨rfl, rfl, rfl, rfl, rfl⟩, ?_⟩
        show (l.forwardQueue.pushBack _).data = _
        rw [FixedVector.pushBack, dif_pos hroom]
        simp [hroom']
    · simp [htwo, ForwardingKept.refl]

/-- What receiving a frame does to the forwarding: nothing, or the frame joins the queue as it
was received. -/
theorem handleDlRx_enqueues (frame : LDataFrame) (l : NetworkLayer) :
    ForwardingKept l (handleDlRx frame l)
      ∧ (handleDlRx frame l).forwardQueue.data
        = l.forwardQueue.data ++ (if isEnqueued l frame then [⟨frame, frame⟩] else []) := by
  rw [handleDlRx]
  cases hinit : l.initialized with
  | false => simp [isEnqueued, hinit, ForwardingKept.refl]
  | true =>
    simp only [Bool.not_true, Bool.false_eq_true, if_false]
    cases hfilter : l.config.filteringEnabled && shouldFilterFrame l.config frame with
    | true => simp [isEnqueued, hinit, hfilter, ForwardingKept.refl]
    | false =>
      obtain ⟨hkept, hqueue⟩ := forwardReceived_enqueues hinit hfilter
      simp only [Bool.false_eq_true, if_false]
      -- delivering the frame here as well makes no difference to the forwarding
      split
      · exact ⟨⟨hkept.copies, hkept.forwardOperation, hkept.forwardedAs, hkept.txOperation,
          hkept.initialized⟩, hqueue⟩
      · exact ⟨hkept, hqueue⟩

/-! ## Runs -/

/-- Every frame on its way out satisfies `P`: those in the queue, the one being sent, and the copies
made so far. -/
structure OnTheWay (P : ForwardFrame → Prop) (l : NetworkLayer) : Prop where
  queued : ∀ c ∈ l.forwardQueue.data, P c
  sending : l.forwardOperation.active = true → P ⟨l.forwardOperation.dlFrame, l.forwardedAs⟩
  copied : ∀ c ∈ l.copies, P c

section Runs

variable {P : ForwardFrame → Prop} {l : NetworkLayer}

theorem OnTheWay.finish (h : OnTheWay P l) : OnTheWay P (finishForwardOperation l) := by
  refine ⟨h.queued, ?_, h.copied⟩
  intro hactive
  cases hactive

theorem OnTheWay.pollForwardOperation (h : OnTheWay P l)
    (hactive : l.forwardOperation.active = true) (a : LinkAnswers) :
    OnTheWay P (pollForwardOperation a l).1 := by
  rw [Network.pollForwardOperation]
  split
  · split
    · exact h
    · exact h.finish
    · exact h.finish
    · -- the frame goes out
      refine ⟨h.queued, fun _ => h.sending hactive, ?_⟩
      intro c hc
      rcases List.mem_append.mp hc with hold | hnew
      · exact h.copied c hold
      · rw [List.mem_singleton] at hnew
        rw [hnew]
        exact h.sending hactive
  · split
    · exact h.finish
    · exact h
    · exact h.finish
    · exact h.finish
    · exact h.finish
    · exact h.finish

theorem OnTheWay.pollForwarding (h : OnTheWay P l) (a : LinkAnswers) :
    OnTheWay P (pollForwarding a l).1 := by
  rw [Network.pollForwarding]
  split
  · exact h
  · split
    · exact h
    · split
      · rename_i hactive
        exact h.pollForwardOperation hactive a
      · split
        · exact h
        · rename_i frame rest hbound hqueue
          apply OnTheWay.pollForwardOperation _ rfl a
          have hmem : ∀ c ∈ frame :: rest, P c := by
            intro c hc
            apply h.queued
            rw [hqueue]
            exact hc
          exact ⟨fun c hc => hmem c (List.mem_cons_of_mem _ hc),
            fun _ => hmem frame List.mem_cons_self, h.copied⟩

theorem OnTheWay.receive (h : OnTheWay P l) {frame : LDataFrame}
    (hframe : isEnqueued l frame = true → P ⟨frame, frame⟩) : OnTheWay P (handleDlRx frame l) := by
  obtain ⟨hkept, hqueue⟩ := handleDlRx_enqueues frame l
  refine ⟨?_, ?_, ?_⟩
  · intro c hc
    rw [hqueue] at hc
    rcases List.mem_append.mp hc with hold | hnew
    · exact h.queued c hold
    · cases henqueued : isEnqueued l frame with
      | false =>
        rw [henqueued] at hnew
        cases hnew
      | true =>
        rw [henqueued, if_pos rfl, List.mem_singleton] at hnew
        rw [hnew]
        exact hframe henqueued
  · rw [hkept.forwardOperation, hkept.forwardedAs]
    exact h.sending
  · rw [hkept.copies]
    exact h.copied

/-- One call, when the frames it enqueues satisfy `P`. -/
theorem OnTheWay.networkCall (h : OnTheWay P l) {c : NetworkCall}
    (hc : ∀ frame, c = .receive frame → isEnqueued l frame = true → P ⟨frame, frame⟩) :
    OnTheWay P (networkCall l c) := by
  cases c with
  | receive frame => exact h.receive (hc frame rfl)
  | pollForwarding a => exact h.pollForwarding a
  | beginTransmit frame =>
    show OnTheWay P (Network.beginTransmit frame l).1
    rw [Network.beginTransmit]
    repeat' split
    all_goals exact ⟨h.queued, h.sending, h.copied⟩
  | pollTransmit a =>
    show OnTheWay P (Network.pollTransmit a l).1
    rw [Network.pollTransmit]
    repeat' split
    all_goals exact ⟨h.queued, h.sending, h.copied⟩
  | configure change => exact ⟨h.queued, h.sending, h.copied⟩
  | close =>
    show OnTheWay P (Network.close l)
    rw [Network.close]
    split
    · refine ⟨?_, ?_, h.copied⟩
      · intro c hc
        cases hc
      · intro hactive
        cases hactive
    · exact h

end Runs

theorem CopyRight.of_unlimited {c : ForwardFrame} (hsame : c.dlFrame = c.received)
    (hhop : ¬ c.received.hopCount ≤ 6) : CopyRight c := by
  refine ⟨?_, fun _ => hsame, ?_⟩
  · rintro ⟨-, hle⟩
    exact absurd hle hhop
  · intro hzero
    apply hhop
    rw [hzero]
    decide

theorem not_copyRight_same {frame : LDataFrame} (hlow : 2 ≤ frame.hopCount)
    (hhigh : frame.hopCount ≤ 6) : ¬ CopyRight ⟨frame, frame⟩ := by
  rintro ⟨hlimited, -, -⟩
  have hone : 1 ≤ frame.hopCount := UInt8.le_trans (by decide) hlow
  have hcopy := congrArg LDataFrame.hopCount (hlimited ⟨hone, hhigh⟩)
  have hnat : frame.hopCount.toNat = (frame.hopCount - 1).toNat := congrArg UInt8.toNat hcopy
  have hpos : 2 ≤ frame.hopCount.toNat := UInt8.le_iff_toNat_le.mp hlow
  rw [UInt8.toNat_sub] at hnat
  have h1 : (1 : UInt8).toNat = 1 := rfl
  have hlt : frame.hopCount.toNat < 256 := frame.hopCount.toNat_lt
  omega

theorem copies_of_receive_poll {l : NetworkLayer} (hinit : l.initialized = true)
    (htx : l.txOperation.active = false) (hidle : l.forwardOperation.active = false)
    (hqueue : l.forwardQueue.data = []) {a : LinkAnswers} (ha : a.begun = .ok ())
    (frame : LDataFrame) :
    (run networkCall l [.receive frame, .pollForwarding a]).copies
      = l.copies ++ (if isEnqueued l frame then [⟨frame, frame⟩] else []) := by
  obtain ⟨hkept, hafter⟩ := handleDlRx_enqueues frame l
  show (pollForwarding a (handleDlRx frame l)).1.copies = _
  rw [hqueue, List.nil_append] at hafter
  have hinit' : (!(handleDlRx frame l).initialized) = false := by
    rw [hkept.initialized, hinit]
    rfl
  rw [pollForwarding]
  simp only [hinit', hkept.txOperation, htx, hkept.forwardOperation, hidle, Bool.false_eq_true,
    if_false]
  cases henqueued : isEnqueued l frame with
  | false =>
    rw [henqueued] at hafter
    split
    · simp [hkept.copies]
    · rename_i first rest hbound heq
      rw [heq] at hafter
      cases hafter
  | true =>
    rw [henqueued] at hafter
    split
    · rename_i hbound heq
      rw [heq] at hafter
      cases hafter
    · rename_i first rest hbound heq
      rw [heq] at hafter
      cases hafter
      rw [pollForwardOperation, ha]
      simp [hkept.copies]

/-- Hop counts of forwarded frames. Along every run in which no frame with two to six hops left
is enqueued, every copy is right, and its hop count is smaller than the received one unless that is
unlimited; and a frame that an idle coupler receives and forwards gets the right copy, or none,
exactly when it is not such a frame. -/
theorem forwarding_iff (l : NetworkLayer) (hcopies : l.copies = [])
    (hidle : l.forwardOperation.active = false) (hqueue : l.forwardQueue.data = []) :
    (∀ calls, Along networkCall Unforwarded l calls →
        ∀ c ∈ (run networkCall l calls).copies, CopyRight c
          ∧ (c.received.hopCount < 7 → c.dlFrame.hopCount < c.received.hopCount))
      ∧ (∀ (frame : LDataFrame) (a : LinkAnswers), l.initialized = true →
        l.txOperation.active = false → a.begun = .ok () →
        ((∀ c ∈ (run networkCall l [.receive frame, .pollForwarding a]).copies, CopyRight c)
          ↔ Unforwarded l (.receive frame))) := by
  constructor
  · intro calls hcalls
    have hstart : OnTheWay (fun c => c.dlFrame = c.received ∧ ¬ c.received.hopCount ≤ 6) l := by
      refine ⟨?_, ?_, ?_⟩
      · rw [hqueue]
        intro c hc
        cases hc
      · rw [hidle]
        intro hactive
        cases hactive
      · rw [hcopies]
        intro c hc
        cases hc
    have hstep : ∀ s call, OnTheWay (fun c => c.dlFrame = c.received ∧ ¬ c.received.hopCount ≤ 6) s →
        Unforwarded s call →
        OnTheWay (fun c => c.dlFrame = c.received ∧ ¬ c.received.hopCount ≤ 6)
          (networkCall s call) := by
      intro s call hs hcall
      apply hs.networkCall
      rintro frame rfl henqueued
      refine ⟨rfl, ?_⟩
      intro hle
      rw [hcall (isEnqueued_hopCount henqueued) hle] at henqueued
      cases henqueued
    have hend := run_invariant_along hstep hstart hcalls
    intro c hc
    obtain ⟨hsame, hhop⟩ := hend.copied c hc
    refine ⟨CopyRight.of_unlimited hsame hhop, ?_⟩
    intro hlt
    exfalso
    apply hhop
    have hnat := UInt8.lt_iff_toNat_lt.mp hlt
    apply UInt8.le_iff_toNat_le.mpr
    have h6 : (6 : UInt8).toNat = 6 := rfl
    have h7 : (7 : UInt8).toNat = 7 := rfl
    omega
  · intro frame a hinit htx ha
    rw [copies_of_receive_poll hinit htx hidle hqueue ha, hcopies, List.nil_append]
    constructor
    · intro hright hlow hhigh
      cases henqueued : isEnqueued l frame with
      | false => rfl
      | true =>
        rw [henqueued] at hright
        exact absurd (hright _ (by simp)) (not_copyRight_same hlow hhigh)
    · intro hcond c hc
      cases henqueued : isEnqueued l frame with
      | false =>
        rw [henqueued] at hc
        cases hc
      | true =>
        rw [henqueued, if_pos rfl, List.mem_singleton] at hc
        rw [hc]
        apply CopyRight.of_unlimited rfl
        intro hle
        rw [hcond (isEnqueued_hopCount henqueued) hle] at henqueued
        cases henqueued

/-- Line coupler `1.1.0`, nothing received yet. -/
def idleCoupler : NetworkLayer := { config := { ownAddress := ⟨0x1100⟩ } }

/-- A group telegram from `1.1.1` with unlimited hop count. -/
def unlimitedGroupFrame : LDataFrame :=
  { source := ⟨0x1101⟩, destination := ⟨0x0001⟩, hopCount := 7, tpdu := ⟨[0x00, 0x80], by decide⟩ }

/-- A telegram with unlimited hop count goes out as it came. -/
theorem forwarding_unlimited :
    (run networkCall idleCoupler
        [.receive unlimitedGroupFrame, .pollForwarding ⟨.ok (), .ok .success⟩]).copies
        = [⟨unlimitedGroupFrame, unlimitedGroupFrame⟩]
      ∧ CopyRight ⟨unlimitedGroupFrame, unlimitedGroupFrame⟩ := by
  have hcopies : (run networkCall idleCoupler
      [.receive unlimitedGroupFrame, .pollForwarding ⟨.ok (), .ok .success⟩]).copies
      = [⟨unlimitedGroupFrame, unlimitedGroupFrame⟩] := by decide
  have hright := ((forwarding_iff idleCoupler rfl rfl rfl).2 unlimitedGroupFrame
    ⟨.ok (), .ok .success⟩ rfl rfl rfl).mpr (fun _ hle => absurd hle (by decide))
  rw [hcopies] at hright
  exact ⟨hcopies, hright _ (List.mem_singleton_self _)⟩

/-- The same telegram with six hops left goes out with six. -/
theorem limited_forwarded_unchanged :
    (run networkCall idleCoupler
        [.receive { unlimitedGroupFrame with hopCount := 6 },
          .pollForwarding ⟨.ok (), .ok .success⟩]).copies
        = [⟨{ unlimitedGroupFrame with hopCount := 6 }, { unlimitedGroupFrame with hopCount := 6 }⟩]
      ∧ ¬ ∀ c ∈ (run networkCall idleCoupler
        [.receive { unlimitedGroupFrame with hopCount := 6 },
          .pollForwarding ⟨.ok (), .ok .success⟩]).copies, CopyRight c := by
  have hcopies : (run networkCall idleCoupler
      [.receive { unlimitedGroupFrame with hopCount := 6 },
        .pollForwarding ⟨.ok (), .ok .success⟩]).copies
      = [⟨{ unlimitedGroupFrame with hopCount := 6 },
        { unlimitedGroupFrame with hopCount := 6 }⟩] := by decide
  refine ⟨hcopies, ?_⟩
  rw [hcopies]
  intro hright
  exact not_copyRight_same (by decide) (by decide) (hright _ (List.mem_singleton_self _))

end KnxStack.Network
