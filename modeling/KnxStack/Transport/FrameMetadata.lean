import KnxStack.Network.NetworkLayer
import KnxStack.Transport.Send

/-!
# What a frame keeps on its way down

A T_Data frame passes two frame types before it reaches the data link layer: `buildNetworkTxFrame`
fills the data link part of an `NDataFrame`, and `NetworkLayer::sendFrame` or `beginTransmit`
(`network/network_layer.cpp`) copy that part and write the hop count of the `NDataFrame` over it.
The constructor sets that second hop count to six and the transport layer never writes it.

`metadata_kept_iff`: everything else arrives as it was given, and the hop count arrives if it is six.
-/

set_option autoImplicit false

namespace KnxStack.Network

open KnxStack.Lib KnxStack.Datalink

/-- `NetworkLayer::sendFrame`, over a data link layer that answers with `link`: the result, and the
frames given to the data link layer. -/
def sendFrame (link : LDataFrame → Result Unit) (frame : NDataFrame) (l : NetworkLayer) :
    Result Unit × List LDataFrame :=
  if !l.initialized then (.error .notInitialized, [])
  else if l.forwardOperation.active then (.error .busy, [])
  else if frame.hopCount > 6 then (.error .invalidParameter, [])
  else
    let dlFrame := { frame.dlFrame with hopCount := frame.hopCount }
    (link dlFrame, [dlFrame])

/-- The frame that `pollTransmit` gives to the data link layer: that of an operation which has not
started. -/
def startedByPoll (l : NetworkLayer) : List LDataFrame :=
  if l.initialized && l.txOperation.active && !l.txOperation.started then [l.txOperation.dlFrame]
  else []

end KnxStack.Network

namespace KnxStack.Transport

open KnxStack.Lib KnxStack.Protocol KnxStack.Datalink

/-- The `NDataFrame` that `buildNetworkTxFrame` has filled; beside the data link frame it has the hop
count of its constructor. -/
def NDataFrame.constructed (nFrame : NDataFrame) : Network.NDataFrame where
  dlFrame := nFrame.dlFrame

namespace TransportLayer

/-- `sendFrame`, down to the data link layer. -/
def sendFrameOver (s : TransportLayer) (l : Network.NetworkLayer) (link : LDataFrame → Result Unit)
    (frame : TDataFrame) : Result Unit × List LDataFrame :=
  if !s.initialized then (.error .notInitialized, [])
  else
    match (s.buildNetworkTxFrame frame).1 with
    | .error e => (.error e, [])
    | .ok nFrame => Network.sendFrame link nFrame.constructed l

/-- `beginTransmit`, over the network layer. -/
def beginTransmitOver (s : TransportLayer) (l : Network.NetworkLayer) (frame : TDataFrame) :
    Network.NetworkLayer × Result Unit :=
  if !s.initialized then (l, .error .notInitialized)
  else if s.sendActive then (l, .error .busy)
  else
    match (s.buildNetworkTxFrame frame).1 with
    | .error e => (l, .error e)
    | .ok nFrame => Network.beginTransmit nFrame.constructed l

/-- The data link frame has the contents of the T_Data frame. -/
structure CarriesContents (frame : TDataFrame) (dlFrame : LDataFrame) : Prop where
  source : dlFrame.source = frame.source
  destination : dlFrame.destination = frame.destination
  destinationType : dlFrame.destinationType = frame.destinationType
  tpdu : dlFrame.tpdu = frame.tpdu
  priority : dlFrame.priority = frame.priority
  repeated : dlFrame.repeated = frame.repeated
  ackRequested : dlFrame.ackRequested = frame.ackRequested
  confirmation : dlFrame.confirmation = frame.confirmation
  hopCount : dlFrame.hopCount = frame.hopCount

/-- What both paths give to the data link layer. -/
def loweredFrame (frame : TDataFrame) : LDataFrame :=
  { (toNetworkFrame frame).dlFrame with hopCount := 6 }

theorem carriesContents_loweredFrame_iff (frame : TDataFrame) :
    CarriesContents frame (loweredFrame frame) ↔ frame.hopCount = 6 := by
  constructor
  · intro h
    exact h.hopCount.symm
  · intro h
    exact ⟨rfl, rfl, rfl, rfl, rfl, rfl, rfl, rfl, h.symm⟩

section Paths

variable {s : TransportLayer} {l : Network.NetworkLayer} {link : LDataFrame → Result Unit}
  {frame : TDataFrame}

theorem buildNetworkTxFrame_plain (hservice : frame.service ≠ .connected)
    (hplain : s.txHook.transform = none) :
    (s.buildNetworkTxFrame frame).1 = .ok (toNetworkFrame frame) := by
  have hnone : s.connectionFor frame = none := by
    rw [connectionFor, if_neg]
    exact fun hall => hservice hall.1
  have happly : s.txHook.apply frame = (.ok frame, s.txHook) := by
    rw [TransformHook.apply, hplain]
  rw [buildNetworkTxFrame, hnone]
  dsimp only
  rw [happly]

theorem sendFrameOver_accepted (hservice : frame.service ≠ .connected)
    (hplain : s.txHook.transform = none) (h : (s.sendFrameOver l link frame).1 = .ok ()) :
    (s.sendFrameOver l link frame).2 = [loweredFrame frame] := by
  unfold sendFrameOver at h ⊢
  by_cases hinit : !s.initialized
  · rw [if_pos hinit] at h
    cases h
  · rw [if_neg hinit, buildNetworkTxFrame_plain hservice hplain] at h ⊢
    dsimp only at h ⊢
    unfold Network.sendFrame at h ⊢
    split at h
    · cases h
    · split at h
      · cases h
      · split at h
        · cases h
        · rename_i hready hidle hhops
          rw [if_neg hready, if_neg hidle, if_neg hhops]
          rfl

theorem beginTransmitOver_accepted (hservice : frame.service ≠ .connected)
    (hplain : s.txHook.transform = none) (h : (s.beginTransmitOver l frame).2 = .ok ()) :
    Network.startedByPoll (s.beginTransmitOver l frame).1 = [loweredFrame frame] := by
  unfold beginTransmitOver at h ⊢
  by_cases hinit : !s.initialized
  · rw [if_pos hinit] at h
    cases h
  · rw [if_neg hinit] at h ⊢
    by_cases hactive : s.sendActive
    · rw [if_pos hactive] at h
      cases h
    · rw [if_neg hactive, buildNetworkTxFrame_plain hservice hplain] at h ⊢
      dsimp only at h ⊢
      unfold Network.beginTransmit at h ⊢
      split at h
      · cases h
      · split at h
        · cases h
        · split at h
          · cases h
          · split at h
            · cases h
            · rename_i hready hidle hfree hhops
              rw [if_neg hready, if_neg hidle, if_neg hfree, if_neg hhops]
              have hup : l.initialized = true := by simpa using hready
              simp only [Network.startedByPoll, hup, Bool.not_false, Bool.and_self, if_true]
              rfl

/-- Each path that takes a frame gives one to the data link layer that carries its contents. -/
def MetadataKept (s : TransportLayer) (l : Network.NetworkLayer) (link : LDataFrame → Result Unit)
    (frame : TDataFrame) : Prop :=
  ((s.sendFrameOver l link frame).1 = .ok () →
      ∃ dlFrame, (s.sendFrameOver l link frame).2 = [dlFrame] ∧ CarriesContents frame dlFrame)
    ∧ ((s.beginTransmitOver l frame).2 = .ok () →
      ∃ dlFrame, Network.startedByPoll (s.beginTransmitOver l frame).1 = [dlFrame]
        ∧ CarriesContents frame dlFrame)

/-- A connectionless frame that is taken arrives as it was given exactly when its hop count is
six, on the blocking and on the polled path. -/
theorem metadata_kept_iff (hservice : frame.service ≠ .connected)
    (hplain : s.txHook.transform = none)
    (htaken : (s.sendFrameOver l link frame).1 = .ok () ∨ (s.beginTransmitOver l frame).2 = .ok ()) :
    MetadataKept s l link frame ↔ frame.hopCount = 6 := by
  constructor
  · rintro ⟨hsent, hbegun⟩
    rcases htaken with h | h
    · obtain ⟨dlFrame, hgiven, hcarries⟩ := hsent h
      rw [sendFrameOver_accepted hservice hplain h] at hgiven
      cases hgiven
      exact (carriesContents_loweredFrame_iff frame).mp hcarries
    · obtain ⟨dlFrame, hgiven, hcarries⟩ := hbegun h
      rw [beginTransmitOver_accepted hservice hplain h] at hgiven
      cases hgiven
      exact (carriesContents_loweredFrame_iff frame).mp hcarries
  · intro hsix
    have hcarries := (carriesContents_loweredFrame_iff frame).mpr hsix
    constructor
    · intro h
      exact ⟨_, sendFrameOver_accepted hservice hplain h, hcarries⟩
    · intro h
      exact ⟨_, beginTransmitOver_accepted hservice hplain h, hcarries⟩

end Paths

theorem switchedOn_fits : ([0x00, 0x81] : List UInt8).length ≤ maxFrameSize := by decide

/-- A group telegram that is to stay on its line. -/
def lineLocalFrame : TDataFrame :=
  { source := ⟨0x1101⟩, destination := ⟨0x0901⟩, hopCount := 0, tpdu := ⟨[0x00, 0x81], switchedOn_fits⟩ }

/-- A network layer of a plain device. -/
def plainNetwork : Network.NetworkLayer where
  config := { ownAddress := ⟨0x1101⟩, routingEnabled := false }

theorem metadata_kept_iff_lineLocal :
    MetadataKept { initialized := true } plainNetwork (fun _ => .ok ()) lineLocalFrame
      ↔ lineLocalFrame.hopCount = 6 :=
  metadata_kept_iff (by decide) rfl (.inl rfl)

/-- The hop count zero is sent as six. -/
theorem hopCount_replaced :
    ¬ MetadataKept { initialized := true } plainNetwork (fun _ => .ok ()) lineLocalFrame := by
  intro h
  obtain ⟨dlFrame, hgiven, hcarries⟩ := h.1 rfl
  have hsix : (sendFrameOver { initialized := true } plainNetwork (fun _ => .ok ())
      lineLocalFrame).2 = [loweredFrame lineLocalFrame] := rfl
  rw [hsix] at hgiven
  cases hgiven
  exact absurd hcarries.hopCount (by decide)

end TransportLayer

end KnxStack.Transport
