import KnxStack.Datalink.FrameCodec
import KnxStack.Lib.Runs

/-!
# Receive operation of the TP1 data link layer

`Tp1DataLinkLayer::beginReceive`, `pollReceive` and `finishRxOperation`, with the frame pool, the
cache of the last received frame and the address filter they use
(`datalink/tp1_data_link_layer.cpp`). The physical layer is given by its answers, one `RxAnswers`
for each turn of the loop in `pollReceive`.

`indicated` says which of the received octet strings reach the receive callback, in terms of the
strings alone: no cache, no pool, no counters. `receive_refines` is the link: along every history of
calls the callback has been given exactly these frames, the pool is free, and the five counters have
counted every string once.

Left out of the state: the contents of the pool slots, which the decoder overwrites, and
`RxOperationState::currentFrame`, which the source never assigns.
-/

set_option autoImplicit false

namespace KnxStack.Datalink

open KnxStack.Lib

/-! ## State -/

/-- `FRAME_POOL_SIZE`. -/
def framePoolSize : Nat := 16

/-- `MAX_GROUP_ADDRESSES`. -/
def maxGroupAddresses : Nat := 256

/-- What decides whether a decoded frame is for this device, and whether anybody is told. -/
structure RxFilter where
  ownAddress : IndividualAddress
  groupAddresses : FixedVector GroupAddress maxGroupAddresses := .clear
  promiscuousMode : Bool := false
  rxCallback : Bool := true
  deriving DecidableEq

/-- `LastRxFrameCache`. -/
structure LastRxFrameCache where
  valid : Bool := false
  source : UInt16 := 0
  destination : UInt16 := 0
  destinationType : AddressType := .individual
  priority : Priority := .low
  hopCount : UInt8 := 0
  tpdu : FixedVector UInt8 maxFrameSize := .clear
  deriving DecidableEq

/-- `RxOperationState`. -/
structure RxOperationState where
  active : Bool := false
  waitingPhysicalReceive : Bool := false
  firstReadTimeoutMs : UInt32 := 0
  readIndex : UInt32 := 0
  deliveredCount : Nat := 0
  deriving DecidableEq

/-- The diagnostics counters of the receive path. -/
structure RxStatistics where
  rxFrames : UInt32 := 0
  rxDropped : UInt32 := 0
  decodeFailed : UInt32 := 0
  filterDropped : UInt32 := 0
  duplicatesDropped : UInt32 := 0
  deriving DecidableEq

/-- All five of them together. -/
def RxStatistics.total (s : RxStatistics) : UInt32 :=
  s.rxFrames + s.filterDropped + s.duplicatesDropped + s.decodeFailed + s.rxDropped

/-- Receive side of the data link layer. `received` and `delivered` record the octet strings taken
from the physical layer, each with the filter of that moment, and the frames given to the
callback. -/
structure RxLayer where
  filter : RxFilter
  stats : RxStatistics := {}
  lastRxFrame : LastRxFrameCache := {}
  rxOperation : RxOperationState := {}
  lastRxProgressDeliveredCount : Nat := 0
  frameInUse : List Bool := List.replicate framePoolSize false
  rxProcessing : Bool := false
  received : List (RxFilter × List UInt8) := []
  delivered : List LDataFrame := []
  deriving DecidableEq

/-! ## Filter, cache and pool -/

/-- `isAddressMatch`. -/
def RxFilter.isAddressMatch (flt : RxFilter) (address : GroupAddress) (t : AddressType) : Bool :=
  if flt.promiscuousMode then true
  else
    match t with
    | .group => address.isBroadcast || decide (address ∈ flt.groupAddresses.data)
    | .individual =>
        let individual : IndividualAddress := ⟨address.raw⟩
        individual.isBroadcast || individual == flt.ownAddress

/-- `toOwnIndividual`: the frame is addressed to this device alone. The broadcast address `0.0.0` is
nobody's own. -/
def RxFilter.toOwnIndividual (flt : RxFilter) (frame : LDataFrame) : Bool :=
  decide (frame.destinationType = .individual)
    && !(IndividualAddress.isBroadcast ⟨frame.destination.raw⟩)
    && (⟨frame.destination.raw⟩ : IndividualAddress) == flt.ownAddress

/-- `isRepetitionOfLastRxFrame`. -/
def LastRxFrameCache.isRepetition (cache : LastRxFrameCache) (frame : LDataFrame) : Bool :=
  if !frame.repeated || !cache.valid then false
  else if frame.source.raw ≠ cache.source ∨ frame.destination.raw ≠ cache.destination
      ∨ frame.destinationType ≠ cache.destinationType ∨ frame.priority ≠ cache.priority
      ∨ frame.hopCount ≠ cache.hopCount ∨ frame.tpdu.size ≠ cache.tpdu.size then false
  else decide (frame.tpdu.data = cache.tpdu.data)

/-- `rememberRxFrame`. -/
def rememberRxFrame (frame : LDataFrame) : LastRxFrameCache where
  valid := true
  source := frame.source.raw
  destination := frame.destination.raw
  destinationType := frame.destinationType
  priority := frame.priority
  hopCount := frame.hopCount
  tpdu := (FixedVector.clear.assign frame.tpdu.data).2

/-- `allocateFrame`: the first slot that is free. -/
def allocateFrame (inUse : List Bool) : Option (Nat × List Bool) :=
  (inUse.findIdx? (!·)).map fun slot => (slot, inUse.set slot true)

/-- `releaseFrame`. -/
def releaseFrame (slot : Nat) (inUse : List Bool) : List Bool := inUse.set slot false

/-! ## Operations -/

/-- `finishRxOperation`. -/
def finishRxOperation (l : RxLayer) : RxLayer :=
  { l with
    lastRxProgressDeliveredCount :=
      if l.rxOperation.active then l.rxOperation.deliveredCount else l.lastRxProgressDeliveredCount
    rxOperation := {}
    rxProcessing := false }

/-- `beginReceive`. -/
def beginReceive (firstReadTimeoutMs : UInt32) (l : RxLayer) : RxLayer × Result Unit :=
  if l.rxProcessing then (l, .error .busy)
  else
    let l := { l with rxProcessing := true }
    if l.rxOperation.active then (l, .ok ())
    else
      ({ l with
          lastRxProgressDeliveredCount := 0
          rxOperation := { active := true, firstReadTimeoutMs := firstReadTimeoutMs } },
        .ok ())

/-- What the environment answers in one turn of the loop: the physical layer to `beginReceive`,
`pollReceive` and `receivedFrameView`, and the upper layers, which may reconfigure the filter while
they are given a frame. -/
structure RxAnswers where
  begun : Result Unit
  progress : Result OperationProgressState
  view : Result (List UInt8)
  reaction : RxFilter → RxFilter := id

/-- One received octet string, from `allocateFrame` to the end of the turn. -/
def receiveOctets (buffer : List UInt8) (reaction : RxFilter → RxFilter) (l : RxLayer) : RxLayer :=
  let next := { l.rxOperation with readIndex := l.rxOperation.readIndex + 1 }
  match allocateFrame l.frameInUse with
  | none =>
      { l with stats := { l.stats with rxDropped := l.stats.rxDropped + 1 }, rxOperation := next }
  | some (slot, inUse) =>
      match decodeFrame buffer with
      | .done frame =>
          if !l.filter.toOwnIndividual frame && l.lastRxFrame.isRepetition frame then
            { l with
              stats := { l.stats with duplicatesDropped := l.stats.duplicatesDropped + 1 }
              frameInUse := releaseFrame slot inUse
              rxOperation := next }
          else if l.filter.isAddressMatch frame.destination frame.destinationType then
            { l with
              lastRxFrame := rememberRxFrame frame
              delivered := if l.filter.rxCallback then l.delivered ++ [frame] else l.delivered
              filter := if l.filter.rxCallback then reaction l.filter else l.filter
              stats := { l.stats with rxFrames := l.stats.rxFrames + 1 }
              frameInUse := releaseFrame slot inUse
              rxOperation := { next with deliveredCount := next.deliveredCount + 1 } }
          else
            { l with
              lastRxFrame := rememberRxFrame frame
              stats := { l.stats with filterDropped := l.stats.filterDropped + 1 }
              frameInUse := releaseFrame slot inUse
              rxOperation := next }
      | _ =>
          { l with
            stats := { l.stats with decodeFailed := l.stats.decodeFailed + 1 }
            frameInUse := releaseFrame slot inUse
            rxOperation := next }

/-- Second half of a turn: the physical receive is under way, its progress is polled. The result is
`none` when the loop goes on. -/
def pollPhysicalReceive (a : RxAnswers) (l : RxLayer) :
    RxLayer × Option (Result OperationProgressState) :=
  match a.progress with
  | .error _ => (finishRxOperation l, some (.ok .success))
  | .ok .pending => (l, some (.ok .pending))
  | .ok .success =>
      match a.view with
      | .error _ => (finishRxOperation l, some (.ok .success))
      | .ok buffer =>
          let l :=
            { l with
              received := l.received ++ [(l.filter, buffer)]
              rxOperation := { l.rxOperation with waitingPhysicalReceive := false } }
          (receiveOctets buffer a.reaction l, none)
  | .ok _ => (finishRxOperation l, some (.ok .success))

/-- One turn of the loop in `pollReceive`; `RxProgressState::Complete` is `success`. -/
def receiveTurn (a : RxAnswers) (l : RxLayer) : RxLayer × Option (Result OperationProgressState) :=
  if l.rxOperation.waitingPhysicalReceive then pollPhysicalReceive a l
  else
    match a.begun with
    | .error _ => (finishRxOperation l, some (.ok .success))
    | .ok () =>
        pollPhysicalReceive a
          { l with rxOperation := { l.rxOperation with waitingPhysicalReceive := true } }

/-- The loop of `pollReceive`, as far as the answers go. -/
def receiveLoop : List RxAnswers → RxLayer → RxLayer × Result OperationProgressState
  | [], l => (l, .ok .pending)
  | a :: rest, l =>
      if l.rxOperation.active then
        match receiveTurn a l with
        | (l', none) => receiveLoop rest l'
        | (l', some r) => (l', r)
      else (finishRxOperation l, .ok .success)

/-- `pollReceive`. -/
def pollReceive (answers : List RxAnswers) (l : RxLayer) : RxLayer × Result OperationProgressState :=
  if l.rxOperation.active then receiveLoop answers l else (l, .error .operationNotReady)

/-- The calls made to the receive side. `configure` stands for every setter of the filter
(`setOwnAddress`, `addGroupAddress`, `removeGroupAddress`, `clearGroupAddresses`,
`setPromiscuousMode`, `setReceiveCallback`), `finish` for the end of an operation by its owner. -/
inductive RxCall where
  | begin (firstReadTimeoutMs : UInt32)
  | poll (answers : List RxAnswers)
  | finish
  | configure (change : RxFilter → RxFilter)

/-- One call. -/
def rxCall (l : RxLayer) : RxCall → RxLayer
  | .begin t => (beginReceive t l).1
  | .poll answers => (pollReceive answers l).1
  | .finish => finishRxOperation l
  | .configure change => { l with filter := change l.filter }

/-! ## Which frames are to be indicated -/

/-- The two frames say the same: source, destination, address type, priority, hop count and TPDU. -/
def SameContent (f g : LDataFrame) : Prop :=
  f.source = g.source ∧ f.destination = g.destination ∧ f.destinationType = g.destinationType
    ∧ f.priority = g.priority ∧ f.hopCount = g.hopCount ∧ f.tpdu = g.tpdu
  deriving Decidable

/-- The frame is a repetition of the one that was decoded before it. -/
def isRepetitionOf (preceding : Option LDataFrame) (frame : LDataFrame) : Bool :=
  match preceding with
  | none => false
  | some g => frame.repeated && decide (SameContent frame g)

/-- The frame goes to the callback: there is one, the filter lets the frame pass, and it is not a
repetition, unless it is for this device alone. -/
def isIndicated (flt : RxFilter) (preceding : Option LDataFrame) (frame : LDataFrame) : Bool :=
  flt.rxCallback && flt.isAddressMatch frame.destination frame.destinationType
    && (flt.toOwnIndividual frame || !isRepetitionOf preceding frame)

/-- The last frame that decodes among the received strings; `preceding` if none does. -/
def lastDecoded (preceding : Option LDataFrame) : List (RxFilter × List UInt8) → Option LDataFrame
  | [] => preceding
  | (_, octets) :: rest =>
      match decodeFrame octets with
      | .done frame => lastDecoded (some frame) rest
      | _ => lastDecoded preceding rest

/-- The frames to be indicated for the received strings, after the decoded frame `preceding`. -/
def indicated (preceding : Option LDataFrame) : List (RxFilter × List UInt8) → List LDataFrame
  | [] => []
  | (flt, octets) :: rest =>
      match decodeFrame octets with
      | .done frame =>
          (if isIndicated flt preceding frame then [frame] else []) ++ indicated (some frame) rest
      | _ => indicated preceding rest

/-- What one more received string adds. -/
def indicatedOne (preceding : Option LDataFrame) (flt : RxFilter) (octets : List UInt8) :
    List LDataFrame :=
  match decodeFrame octets with
  | .done frame => if isIndicated flt preceding frame then [frame] else []
  | _ => []

theorem indicated_snoc (log : List (RxFilter × List UInt8)) (flt : RxFilter) (octets : List UInt8) :
    ∀ preceding, indicated preceding (log ++ [(flt, octets)])
      = indicated preceding log ++ indicatedOne (lastDecoded preceding log) flt octets := by
  induction log with
  | nil =>
    intro preceding
    simp only [List.nil_append, indicated, indicatedOne, lastDecoded]
    cases decodeFrame octets with
    | done frame => exact List.append_nil _
    | fail e => rfl
    | outOfBounds i => rfl
  | cons entry rest ih =>
    intro preceding
    obtain ⟨flt', octets'⟩ := entry
    simp only [List.cons_append, indicated, lastDecoded]
    cases decodeFrame octets' with
    | done frame => simp only [ih, List.append_assoc]
    | fail e => exact ih preceding
    | outOfBounds i => exact ih preceding

theorem lastDecoded_snoc (log : List (RxFilter × List UInt8)) (flt : RxFilter)
    (octets : List UInt8) :
    ∀ preceding, lastDecoded preceding (log ++ [(flt, octets)])
      = lastDecoded (lastDecoded preceding log) [(flt, octets)] := by
  induction log with
  | nil =>
    intro preceding
    rfl
  | cons entry rest ih =>
    intro preceding
    obtain ⟨flt', octets'⟩ := entry
    simp only [List.cons_append, lastDecoded]
    cases decodeFrame octets' with
    | done frame => exact ih (some frame)
    | fail e => exact ih preceding
    | outOfBounds i => exact ih preceding

/-! ## The cache holds the last decoded frame -/

/-- The cache answers as the frame decoded last would. -/
def CacheAgrees (cache : LastRxFrameCache) (preceding : Option LDataFrame) : Prop :=
  ∀ frame, cache.isRepetition frame = isRepetitionOf preceding frame

theorem LastRxFrameCache.isRepetition_iff (cache : LastRxFrameCache) (frame : LDataFrame) :
    cache.isRepetition frame = true ↔ frame.repeated = true ∧ cache.valid = true
      ∧ frame.source.raw = cache.source ∧ frame.destination.raw = cache.destination
      ∧ frame.destinationType = cache.destinationType ∧ frame.priority = cache.priority
      ∧ frame.hopCount = cache.hopCount ∧ frame.tpdu = cache.tpdu := by
  have hsize : frame.tpdu = cache.tpdu ↔ frame.tpdu.size = cache.tpdu.size
      ∧ frame.tpdu.data = cache.tpdu.data := by
    constructor
    · intro h
      exact ⟨congrArg FixedVector.size h, congrArg FixedVector.data h⟩
    · rintro ⟨-, hdata⟩
      exact FixedVector.ext hdata
  rw [hsize, isRepetition]
  split
  · rename_i hguard
    constructor
    · intro h
      cases h
    · rintro ⟨hrepeated, hvalid, -⟩
      simp [hrepeated, hvalid] at hguard
  · rename_i hguard
    simp only [Bool.or_eq_true, Bool.not_eq_true', not_or, Bool.not_eq_false] at hguard
    split
    · rename_i hfields
      constructor
      · intro h
        cases h
      · rintro ⟨-, -, h1, h2, h3, h4, h5, h6, -⟩
        simp [h1, h2, h3, h4, h5, h6] at hfields
    · rename_i hfields
      simp only [ne_eq, not_or, not_not] at hfields
      simp [hguard, hfields]

theorem isRepetitionOf_iff (g frame : LDataFrame) :
    isRepetitionOf (some g) frame = true ↔ frame.repeated = true ∧ SameContent frame g := by
  simp [isRepetitionOf]

theorem cacheAgrees_initial : CacheAgrees {} none := by
  intro frame
  simp [LastRxFrameCache.isRepetition, isRepetitionOf]

theorem cacheAgrees_remember (g : LDataFrame) : CacheAgrees (rememberRxFrame g) (some g) := by
  intro frame
  have htpdu : (rememberRxFrame g).tpdu = g.tpdu := by
    show (FixedVector.clear.assign g.tpdu.data).2 = g.tpdu
    rw [FixedVector.assign_of_le _ g.tpdu.size_le]
  have hsource : frame.source = g.source ↔ frame.source.raw = g.source.raw := by
    rw [IndividualAddress.mk.injEq]
  have hdest : frame.destination = g.destination ↔ frame.destination.raw = g.destination.raw := by
    rw [GroupAddress.mk.injEq]
  rw [Bool.eq_iff_iff, LastRxFrameCache.isRepetition_iff, isRepetitionOf_iff, htpdu, SameContent,
    hsource, hdest]
  simp [rememberRxFrame]

/-- After a suppressed repetition the cache still answers as the frame decoded last would, though it
holds the one before. -/
theorem CacheAgrees.suppressed {cache : LastRxFrameCache} {preceding : Option LDataFrame}
    {f : LDataFrame} (h : CacheAgrees cache preceding) (hf : cache.isRepetition f = true) :
    CacheAgrees cache (some f) := by
  rw [h f] at hf
  cases preceding with
  | none => cases hf
  | some g =>
    obtain ⟨-, hsource, hdest, htype, hpriority, hhop, htpdu⟩ := (isRepetitionOf_iff g f).mp hf
    intro frame
    rw [h frame, Bool.eq_iff_iff, isRepetitionOf_iff, isRepetitionOf_iff, SameContent, SameContent,
      hsource, hdest, htype, hpriority, hhop, htpdu]

/-! ## The pool -/

theorem releaseFrame_allocateFrame {slot : Nat} {inUse : List Bool}
    (h : allocateFrame (List.replicate framePoolSize false) = some (slot, inUse)) :
    releaseFrame slot inUse = List.replicate framePoolSize false := by
  have hslot : allocateFrame (List.replicate framePoolSize false)
      = some (0, (List.replicate framePoolSize false).set 0 true) := by decide
  rw [hslot] at h
  cases h
  decide

/-! ## One string -/

section Counters

variable (s : RxStatistics)

theorem total_rxFrames : RxStatistics.total { s with rxFrames := s.rxFrames + 1 } = s.total + 1 := by
  simp only [RxStatistics.total]
  ac_rfl

theorem total_decodeFailed :
    RxStatistics.total { s with decodeFailed := s.decodeFailed + 1 } = s.total + 1 := by
  simp only [RxStatistics.total]
  ac_rfl

theorem total_filterDropped :
    RxStatistics.total { s with filterDropped := s.filterDropped + 1 } = s.total + 1 := by
  simp only [RxStatistics.total]
  ac_rfl

theorem total_duplicatesDropped :
    RxStatistics.total { s with duplicatesDropped := s.duplicatesDropped + 1 } = s.total + 1 := by
  simp only [RxStatistics.total]
  ac_rfl

end Counters

/-- What one received string does to a layer with a free pool whose cache answers for
`preceding`. -/
structure ReceivedOne (preceding : Option LDataFrame) (buffer : List UInt8) (l l' : RxLayer) :
    Prop where
  pool : l'.frameInUse = List.replicate framePoolSize false
  cache : CacheAgrees l'.lastRxFrame (lastDecoded preceding [(l.filter, buffer)])
  delivered : l'.delivered = l.delivered ++ indicatedOne preceding l.filter buffer
  counted : l'.stats.total = l.stats.total + 1
  received : l'.received = l.received

/-- One received string: every way through the turn frees the slot it took and counts once. -/
theorem receiveOctets_one {l : RxLayer} {preceding : Option LDataFrame} (buffer : List UInt8)
    (reaction : RxFilter → RxFilter) (hpool : l.frameInUse = List.replicate framePoolSize false)
    (hcache : CacheAgrees l.lastRxFrame preceding) :
    ReceivedOne preceding buffer l (receiveOctets buffer reaction l) := by
  obtain ⟨slot, inUse, halloc⟩ : ∃ slot inUse,
      allocateFrame l.frameInUse = some (slot, inUse) := by
    rw [hpool]
    exact ⟨_, _, rfl⟩
  have hrelease : releaseFrame slot inUse = List.replicate framePoolSize false := by
    rw [hpool] at halloc
    exact releaseFrame_allocateFrame halloc
  have hfailed : (∀ frame, decodeFrame buffer ≠ .done frame) →
      ReceivedOne preceding buffer l (receiveOctets buffer reaction l) := by
    intro hno
    have hlast : lastDecoded preceding [(l.filter, buffer)] = preceding := by
      simp only [lastDecoded]
    have hnone : indicatedOne preceding l.filter buffer = [] := by
      simp only [indicatedOne]
    simp only [receiveOctets, halloc]
    exact ⟨hrelease, by rw [hlast]; exact hcache, by rw [hnone, List.append_nil],
      total_decodeFailed l.stats, rfl⟩
  cases hdecode : decodeFrame buffer with
  | fail e =>
    apply hfailed
    rw [hdecode]
    simp
  | outOfBounds i =>
    apply hfailed
    rw [hdecode]
    simp
  | done frame =>
    have hlast : lastDecoded preceding [(l.filter, buffer)] = some frame := by
      simp only [lastDecoded, hdecode]
    have hone : indicatedOne preceding l.filter buffer
        = if isIndicated l.filter preceding frame then [frame] else [] := by
      simp only [indicatedOne, hdecode]
    have hrepetition := hcache frame
    simp only [receiveOctets, halloc, hdecode]
    by_cases hsuppress : (!l.filter.toOwnIndividual frame
        && l.lastRxFrame.isRepetition frame) = true
    · -- suppressed: the cache stays, and answers for the suppressed frame as well
      rw [if_pos hsuppress]
      simp only [Bool.and_eq_true, Bool.not_eq_true'] at hsuppress
      have hnot : isIndicated l.filter preceding frame = false := by
        rw [isIndicated, ← hrepetition, hsuppress.1, hsuppress.2]
        simp
      refine ⟨hrelease, ?_, ?_, total_duplicatesDropped l.stats, rfl⟩
      · rw [hlast]
        exact hcache.suppressed hsuppress.2
      · rw [hone, hnot]
        simp
    · rw [if_neg hsuppress]
      have hpass : (l.filter.toOwnIndividual frame || !isRepetitionOf preceding frame) = true := by
        rw [← hrepetition]
        cases h1 : l.filter.toOwnIndividual frame with
        | true => rfl
        | false =>
          cases h2 : l.lastRxFrame.isRepetition frame with
          | false => rfl
          | true => exact absurd (by rw [h1, h2]; rfl) hsuppress
      have hindicated : isIndicated l.filter preceding frame
          = (l.filter.rxCallback && l.filter.isAddressMatch frame.destination
            frame.destinationType) := by
        rw [isIndicated, hpass, Bool.and_true]
      by_cases hmatch : l.filter.isAddressMatch frame.destination frame.destinationType = true
      · rw [if_pos hmatch]
        refine ⟨hrelease, ?_, ?_, total_rxFrames l.stats, rfl⟩
        · rw [hlast]
          exact cacheAgrees_remember frame
        · rw [hone, hindicated, hmatch, Bool.and_true]
          cases l.filter.rxCallback with
          | true => rfl
          | false => exact (List.append_nil _).symm
      · rw [if_neg hmatch]
        refine ⟨hrelease, ?_, ?_, total_filterDropped l.stats, rfl⟩
        · rw [hlast]
          exact cacheAgrees_remember frame
        · rw [hone, hindicated]
          simp [hmatch]

/-! ## Histories -/

/-- The receive side of a layer whose counters started at `start`: the callback has been given what
it should have been, the pool is free, and every string has been counted once. -/
structure RxSound (start : UInt32) (l : RxLayer) : Prop where
  pool : l.frameInUse = List.replicate framePoolSize false
  cache : CacheAgrees l.lastRxFrame (lastDecoded none l.received)
  delivered : l.delivered = indicated none l.received
  counted : l.stats.total = start + UInt32.ofNat l.received.length

section Sound

variable {start : UInt32} {l : RxLayer}

theorem RxSound.of_eq {l' : RxLayer} (h : RxSound start l) (hpool : l'.frameInUse = l.frameInUse)
    (hcache : l'.lastRxFrame = l.lastRxFrame) (hreceived : l'.received = l.received)
    (hdelivered : l'.delivered = l.delivered) (hstats : l'.stats = l.stats) :
    RxSound start l' := by
  constructor
  · rw [hpool, h.pool]
  · rw [hcache, hreceived]
    exact h.cache
  · rw [hdelivered, hreceived, h.delivered]
  · rw [hstats, hreceived, h.counted]

theorem RxSound.finishRxOperation (h : RxSound start l) :
    RxSound start (finishRxOperation l) :=
  h.of_eq rfl rfl rfl rfl rfl

theorem RxSound.pollPhysicalReceive (h : RxSound start l) (a : RxAnswers) :
    RxSound start (pollPhysicalReceive a l).1 := by
  rw [Datalink.pollPhysicalReceive]
  split
  · exact h.finishRxOperation
  · exact h
  · split
    · exact h.finishRxOperation
    · rename_i buffer _
      -- a string has arrived
      have hone := receiveOctets_one (l :=
        { l with
          received := l.received ++ [(l.filter, buffer)]
          rxOperation := { l.rxOperation with waitingPhysicalReceive := false } })
        buffer a.reaction h.pool h.cache
      refine ⟨hone.pool, ?_, ?_, ?_⟩
      · rw [hone.received]
        show CacheAgrees _ (lastDecoded none (l.received ++ [(l.filter, buffer)]))
        rw [lastDecoded_snoc]
        exact hone.cache
      · rw [hone.received, hone.delivered]
        show l.delivered ++ _ = indicated none (l.received ++ [(l.filter, buffer)])
        rw [indicated_snoc, h.delivered]
      · rw [hone.received, hone.counted]
        show l.stats.total + 1
          = start + UInt32.ofNat (l.received ++ [(l.filter, buffer)]).length
        rw [h.counted, List.length_append, List.length_singleton, UInt32.ofNat_add,
          UInt32.add_assoc]
        rfl
  · exact h.finishRxOperation

theorem RxSound.receiveTurn (h : RxSound start l) (a : RxAnswers) :
    RxSound start (receiveTurn a l).1 := by
  rw [Datalink.receiveTurn]
  split
  · exact h.pollPhysicalReceive a
  · split
    · exact h.finishRxOperation
    · apply RxSound.pollPhysicalReceive
      exact h.of_eq rfl rfl rfl rfl rfl

theorem RxSound.receiveLoop (answers : List RxAnswers) :
    ∀ {l : RxLayer}, RxSound start l → RxSound start (receiveLoop answers l).1 := by
  induction answers with
  | nil =>
    intro l h
    exact h
  | cons a rest ih =>
    intro l h
    rw [Datalink.receiveLoop]
    split
    · have hturn := h.receiveTurn a
      split
      · rename_i l' heq
        rw [heq] at hturn
        exact ih hturn
      · rename_i l' r heq
        rw [heq] at hturn
        exact hturn
    · exact h.finishRxOperation

theorem RxSound.rxCall (h : RxSound start l) (c : RxCall) : RxSound start (rxCall l c) := by
  cases c with
  | begin t =>
    show RxSound start (beginReceive t l).1
    rw [beginReceive]
    split
    · exact h
    · dsimp only
      split
      · exact h.of_eq rfl rfl rfl rfl rfl
      · exact h.of_eq rfl rfl rfl rfl rfl
  | poll answers =>
    show RxSound start (pollReceive answers l).1
    rw [pollReceive]
    split
    · exact RxSound.receiveLoop answers h
    · exact h
  | finish => exact h.finishRxOperation
  | configure change => exact h.of_eq rfl rfl rfl rfl rfl

end Sound

/-! ## Where the received strings come from -/

/-- The string that the physical port gives to one who asks: the receive has ended, with a frame to be
seen. -/
def RxAnswers.octets (a : RxAnswers) : List (List UInt8) :=
  match a.progress, a.view with
  | .ok .success, .ok buffer => [buffer]
  | _, _ => []

/-- The string that a turn takes: it asks where a receive is under way, or begins. -/
def takenInTurn (a : RxAnswers) (l : RxLayer) : List (List UInt8) :=
  if l.rxOperation.waitingPhysicalReceive || a.begun.isOk then a.octets else []

/-- The strings that a poll takes. -/
def takenInLoop : List RxAnswers → RxLayer → List (List UInt8)
  | [], _ => []
  | a :: rest, l =>
      if l.rxOperation.active then
        takenInTurn a l ++
          (match receiveTurn a l with
          | (l', none) => takenInLoop rest l'
          | (_, some _) => [])
      else []

/-- The strings that a run takes. -/
def takenInRun : RxLayer → List RxCall → List (List UInt8)
  | _, [] => []
  | l, .poll answers :: calls =>
      (if l.rxOperation.active then takenInLoop answers l else [])
        ++ takenInRun (rxCall l (.poll answers)) calls
  | l, call :: calls => takenInRun (rxCall l call) calls

theorem received_receiveOctets (buffer : List UInt8) (reaction : RxFilter → RxFilter) (l : RxLayer) :
    (receiveOctets buffer reaction l).received = l.received := by
  unfold receiveOctets
  repeat' split
  all_goals rfl

theorem received_receiveTurn (a : RxAnswers) (l : RxLayer) :
    (receiveTurn a l).1.received.map Prod.snd = l.received.map Prod.snd ++ takenInTurn a l := by
  have hpolled : ∀ l : RxLayer, (pollPhysicalReceive a l).1.received.map Prod.snd
      = l.received.map Prod.snd ++ a.octets := by
    intro l
    unfold pollPhysicalReceive RxAnswers.octets
    rcases a.progress with error | progress
    · exact (List.append_nil _).symm
    · cases progress with
      | success =>
        rcases a.view with error | buffer
        · exact (List.append_nil _).symm
        · dsimp only
          rw [received_receiveOctets, List.map_append]
          rfl
      | _ => exact (List.append_nil _).symm
  unfold receiveTurn takenInTurn
  cases l.rxOperation.waitingPhysicalReceive with
  | true => exact hpolled l
  | false =>
    rcases a.begun with error | begun
    · exact (List.append_nil _).symm
    · exact hpolled { l with rxOperation := { l.rxOperation with waitingPhysicalReceive := true } }

theorem received_receiveLoop (answers : List RxAnswers) (l : RxLayer) :
    (receiveLoop answers l).1.received.map Prod.snd
      = l.received.map Prod.snd ++ takenInLoop answers l := by
  induction answers generalizing l with
  | nil => exact (List.append_nil _).symm
  | cons a rest ih =>
    have hturn := received_receiveTurn a l
    unfold receiveLoop takenInLoop
    split
    · rcases hresult : receiveTurn a l with ⟨l', _ | result⟩
      · rw [hresult] at hturn
        dsimp only at hturn ⊢
        rw [ih, hturn, List.append_assoc]
      · rw [hresult] at hturn
        dsimp only at hturn ⊢
        rw [hturn, List.append_nil]
    · exact (List.append_nil _).symm

/-- The record of the received strings is what the calls have taken from the physical port. -/
theorem received_run (l : RxLayer) (calls : List RxCall) :
    (run rxCall l calls).received.map Prod.snd = l.received.map Prod.snd ++ takenInRun l calls := by
  induction calls generalizing l with
  | nil => exact (List.append_nil _).symm
  | cons call calls ih =>
    rw [run_cons, ih]
    cases call with
    | begin timeout =>
      have hkept : (rxCall l (.begin timeout)).received = l.received := by
        change (beginReceive timeout l).1.received = _
        unfold beginReceive
        dsimp only
        repeat' split
        all_goals rfl
      rw [hkept]
      rfl
    | poll answers =>
      have hpolled : (rxCall l (.poll answers)).received.map Prod.snd = l.received.map Prod.snd
          ++ (if l.rxOperation.active then takenInLoop answers l else []) := by
        change (pollReceive answers l).1.received.map Prod.snd = _
        unfold pollReceive
        split
        · exact received_receiveLoop answers l
        · exact (List.append_nil _).symm
      rw [hpolled, List.append_assoc]
      rfl
    | finish => rfl
    | configure change => rfl

/-- Reception along every history of calls. From a layer that has received nothing, after any
number of begins, polls and reconfigurations: the callback was given exactly the frames that decode,
pass the filter and are not a repetition of the frame decoded before them (a frame to the own
address excepted), in order; every slot of the pool is free; and the five counters together have
moved by one for each received string. -/
theorem receive_refines (l : RxLayer) (hpool : l.frameInUse = List.replicate framePoolSize false)
    (hcache : l.lastRxFrame = {}) (hreceived : l.received = []) (hdelivered : l.delivered = [])
    (calls : List RxCall) :
    (run rxCall l calls).delivered = indicated none (run rxCall l calls).received
      ∧ (∀ inUse ∈ (run rxCall l calls).frameInUse, inUse = false)
      ∧ (run rxCall l calls).stats.total
          = l.stats.total + UInt32.ofNat (run rxCall l calls).received.length := by
  have hstart : RxSound l.stats.total l := by
    refine ⟨hpool, ?_, ?_, ?_⟩
    · rw [hcache, hreceived]
      exact cacheAgrees_initial
    · rw [hdelivered, hreceived]
      rfl
    · rw [hreceived]
      exact (UInt32.add_zero _).symm
  have hsound : RxSound l.stats.total (run rxCall l calls) :=
    run_invariant (fun _ c h => h.rxCall c) hstart calls
  refine ⟨hsound.delivered, ?_, hsound.counted⟩
  intro inUse hmem
  rw [hsound.pool] at hmem
  exact List.eq_of_mem_replicate hmem

/-- Device `1.1.2`, before anything was received. -/
def idleReceiver : RxLayer := { filter := { ownAddress := ⟨0x1102⟩ } }

/-- A broadcast from `1.1.1` and its repetition, in one poll. -/
def broadcastTwice : List RxCall :=
  [.begin 0,
    .poll
      [⟨.ok (), .ok .success, .ok [0xBC, 0x11, 0x01, 0x00, 0x00, 0xE1, 0x01, 0x00, 0xB3], id⟩,
        ⟨.ok (), .ok .success, .ok [0x9C, 0x11, 0x01, 0x00, 0x00, 0xE1, 0x01, 0x00, 0x93], id⟩]]

theorem receive_refines_broadcastTwice :
    (run rxCall idleReceiver broadcastTwice).delivered
        = indicated none (run rxCall idleReceiver broadcastTwice).received
      ∧ (run rxCall idleReceiver broadcastTwice).delivered.length = 1
      ∧ (run rxCall idleReceiver broadcastTwice).received.length = 2 :=
  ⟨(receive_refines idleReceiver rfl rfl rfl rfl broadcastTwice).1, by decide, by decide⟩

end KnxStack.Datalink
