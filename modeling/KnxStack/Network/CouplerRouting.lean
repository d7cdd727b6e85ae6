import KnxStack.Datalink.FrameCodec
import KnxStack.Network.FilterTable

/-!
# Routing decisions of a coupler

`CouplerRoutingPolicy` (`network/coupler_routing.cpp`): what a coupler with two ports does with a
frame that arrives on one of them. The decision depends on the class of the frame, on the
configuration of the port it arrived on, and for individually addressed frames on the role that the
coupler's own address gives it.

`decideClass_hopCount` is what all the rules have in common: a frame that is forwarded has a hop left or
an unlimited hop count, and leaves with one hop less, with none, or as unlimited as it came.
-/

set_option autoImplicit false

namespace KnxStack.Network

open KnxStack.Datalink

/-! ## Actions, roles and ports -/

/-- `RoutingAction`. -/
inductive RoutingAction where
  | routeUnmodified
  | routeDecremented
  | routeLast
  | forwardLocally
  | ignoreTotally
  | ignoreAcked
  deriving DecidableEq, Repr

/-- `isForwardingAction`: the frame goes to the other port. -/
def RoutingAction.isForwardingAction : RoutingAction → Bool
  | .routeUnmodified => true
  | .routeDecremented => true
  | .routeLast => true
  | _ => false

/-- `CouplerRole`. -/
inductive CouplerRole where
  | repeater
  | lineCoupler
  | backboneCoupler
  deriving DecidableEq, Repr

/-- `CouplerPort`. -/
inductive CouplerPort where
  | primary
  | secondary
  deriving DecidableEq, Repr

/-- `otherPort`. -/
def CouplerPort.other : CouplerPort → CouplerPort
  | .primary => .secondary
  | .secondary => .primary

/-- `FrameClass`. -/
inductive FrameClass where
  | pointToPoint
  | multicast
  | broadcast
  | systemBroadcast
  deriving DecidableEq, Repr

/-! ## Configuration octets -/

/-- `PhysFrameHandling` and `GroupHandling`: pass all, pass none, or decide. -/
inductive Handling where
  | unlock
  | lock
  | route
  deriving DecidableEq, Repr

/-- `PhysAckHandling`. -/
inductive PhysAckHandling where
  | normal
  | all
  | nack
  deriving DecidableEq, Repr

/-- `LineCouplerConfig`, without the repetition bits, which no decision reads. -/
structure LineCouplerConfig where
  physFrame : Handling := .route
  broadcastLock : Bool := false
  groupAckRoutedOnly : Bool := true
  physAck : PhysAckHandling := .normal
  deriving DecidableEq, Repr

/-- `GroupCouplerConfig`, without the repetition bit. -/
structure GroupCouplerConfig where
  group6FFF : Handling := .route
  group7000 : Handling := .unlock
  deriving DecidableEq, Repr

/-- One value for each port. -/
structure PerPort (α : Type) where
  primary : α
  secondary : α
  deriving DecidableEq, Repr

/-- The value of a port. -/
def PerPort.at {α : Type} (v : PerPort α) : CouplerPort → α
  | .primary => v.primary
  | .secondary => v.secondary

/-- `CouplerRoutingPolicy`. `filterTable` is empty while no table is wired up. -/
structure CouplerRoutingPolicy where
  ownAddress : IndividualAddress := ⟨0⟩
  role : CouplerRole := .repeater
  lineConfig : PerPort LineCouplerConfig := ⟨{}, {}⟩
  groupConfig : PerPort GroupCouplerConfig := ⟨{}, {}⟩
  filterTable : Option FilterTable := none
  filterTableInUse : Bool := true
  deriving DecidableEq

/-! ## Hop counts -/

/-- `kHopCountUnlimited`. -/
def hopCountUnlimited : UInt8 := 7

/-- `hopAction`, the tail of every rule. -/
def hopAction (hopCount : UInt8) : RoutingAction :=
  if hopCountUnlimited ≤ hopCount then .routeUnmodified
  else if 0 < hopCount then .routeDecremented
  else .ignoreAcked

/-- `applyHopCount`. -/
def applyHopCount (action : RoutingAction) (hopCount : UInt8) : UInt8 :=
  match action with
  | .routeUnmodified => hopCount
  | .routeDecremented => if 0 < hopCount then hopCount - 1 else 0
  | .routeLast => 0
  | _ => hopCount

/-! ## Decisions -/

/-- `subnetworkOf`: area and line. -/
def subnetworkOf (address : IndividualAddress) : UInt8 := (address.raw >>> 8).toUInt8

/-- `lineAndDeviceOf`. -/
def lineAndDeviceOf (address : IndividualAddress) : UInt16 := address.raw &&& 0x0FFF

/-- `classify`; it never reports a system broadcast. -/
def classify (frame : LDataFrame) : FrameClass :=
  if !frame.destinationType.isGroupAddress then .pointToPoint
  else if frame.destination.isBroadcast then .broadcast
  else .multicast

namespace CouplerRoutingPolicy

/-- `roleFor`. -/
def roleFor (address : IndividualAddress) : CouplerRole :=
  if address.device ≠ 0 ∨ address.area = 0 then .repeater
  else if address.line = 0 then .backboneCoupler
  else .lineCoupler

/-- `setOwnAddress`. -/
def setOwnAddress (policy : CouplerRoutingPolicy) (address : IndividualAddress) :
    CouplerRoutingPolicy :=
  { policy with ownAddress := address, role := roleFor address }

/-- `routePointToPointAsLineCoupler`. -/
def routePointToPointAsLineCoupler (policy : CouplerRoutingPolicy) (origin : CouplerPort)
    (destination : IndividualAddress) (hopCount : UInt8) : RoutingAction :=
  match origin with
  | .primary =>
      if subnetworkOf destination ≠ subnetworkOf policy.ownAddress then .ignoreTotally
      else if destination.device = 0 then .forwardLocally
      else hopAction hopCount
  | .secondary =>
      if subnetworkOf destination ≠ subnetworkOf policy.ownAddress then hopAction hopCount
      else if destination.device = 0 then .forwardLocally
      else .ignoreTotally

/-- `routePointToPointAsBackboneCoupler`. -/
def routePointToPointAsBackboneCoupler (policy : CouplerRoutingPolicy) (origin : CouplerPort)
    (destination : IndividualAddress) (hopCount : UInt8) : RoutingAction :=
  match origin with
  | .primary =>
      if destination.area ≠ policy.ownAddress.area then .ignoreTotally
      else if lineAndDeviceOf destination = 0 then .forwardLocally
      else hopAction hopCount
  | .secondary =>
      if destination.area ≠ policy.ownAddress.area then hopAction hopCount
      else if lineAndDeviceOf destination = 0 then .forwardLocally
      else .ignoreTotally

/-- `decidePointToPoint`. -/
def decidePointToPoint (policy : CouplerRoutingPolicy) (origin : CouplerPort)
    (frame : LDataFrame) : RoutingAction :=
  let destination : IndividualAddress := ⟨frame.destination.raw⟩
  if policy.ownAddress.isValid && destination.raw == policy.ownAddress.raw then .forwardLocally
  else
    match (policy.lineConfig.at origin).physFrame with
    | .unlock => hopAction frame.hopCount
    | .lock => .ignoreTotally
    | .route =>
        match policy.role with
        | .lineCoupler => policy.routePointToPointAsLineCoupler origin destination frame.hopCount
        | .backboneCoupler =>
            policy.routePointToPointAsBackboneCoupler origin destination frame.hopCount
        | .repeater => hopAction frame.hopCount

/-- `groupRoutingCondition`. -/
def groupRoutingCondition (policy : CouplerRoutingPolicy) (origin : CouplerPort)
    (destination : GroupAddress) : Bool :=
  let config := policy.groupConfig.at origin
  match if destination.raw ≤ 0x6FFF then config.group6FFF else config.group7000 with
  | .unlock => true
  | .lock => false
  | .route =>
      match policy.filterTableInUse, policy.filterTable with
      | true, some table => decide (table.checkFilter destination = .allow)
      | _, _ => true

/-- `decideMulticast`. -/
def decideMulticast (policy : CouplerRoutingPolicy) (origin : CouplerPort) (frame : LDataFrame) :
    RoutingAction :=
  if !policy.groupRoutingCondition origin frame.destination then .ignoreTotally
  else hopAction frame.hopCount

/-- `decideBroadcast`. -/
def decideBroadcast (policy : CouplerRoutingPolicy) (origin : CouplerPort) (frame : LDataFrame) :
    RoutingAction :=
  if (policy.lineConfig.at origin).broadcastLock then .ignoreTotally
  else hopAction frame.hopCount

/-- `decideSystemBroadcast`. -/
def decideSystemBroadcast (frame : LDataFrame) : RoutingAction :=
  if hopCountUnlimited ≤ frame.hopCount then .routeUnmodified
  else if 0 < frame.hopCount then .routeLast
  else .ignoreAcked

/-- `decide`, for a frame of a known class. -/
def decideClass (policy : CouplerRoutingPolicy) (origin : CouplerPort) (frame : LDataFrame) :
    FrameClass → RoutingAction
  | .pointToPoint => policy.decidePointToPoint origin frame
  | .multicast => policy.decideMulticast origin frame
  | .broadcast => policy.decideBroadcast origin frame
  | .systemBroadcast => decideSystemBroadcast frame

/-- `decide`. -/
def decide (policy : CouplerRoutingPolicy) (origin : CouplerPort) (frame : LDataFrame) :
    RoutingAction :=
  policy.decideClass origin frame (classify frame)

end CouplerRoutingPolicy

/-- `AckPolicy`. -/
inductive AckPolicy where
  | acknowledge
  | noAcknowledge
  | negativeAcknowledge
  deriving DecidableEq, Repr

/-- `ackPolicy`: what layer 2 is to answer for a frame that was judged. -/
def CouplerRoutingPolicy.ackPolicy (policy : CouplerRoutingPolicy) (origin : CouplerPort)
    (frame : LDataFrame) (action : RoutingAction) : AckPolicy :=
  let config := policy.lineConfig.at origin
  if classify frame = .pointToPoint then
    match config.physAck with
    | .nack => .negativeAcknowledge
    | .all => .acknowledge
    | .normal =>
        if action.isForwardingAction ∨ action = .forwardLocally ∨ action = .ignoreAcked then
          .acknowledge
        else .noAcknowledge
  else if !config.groupAckRoutedOnly then .acknowledge
  else if action.isForwardingAction ∨ action = .ignoreAcked then .acknowledge
  else .noAcknowledge

/-! ## What every decision does to the hop count -/

/-- Of the hop count: forwarding needs a hop left, and what it leaves is one hop less, none, or
unlimited as before. -/
def RespectsHopCount (action : RoutingAction) (hopCount : UInt8) : Prop :=
  action.isForwardingAction = true →
    (hopCount < 7 → applyHopCount action hopCount < hopCount)
      ∧ (7 ≤ hopCount → applyHopCount action hopCount = hopCount)

theorem respectsHopCount_of_not_forwarding {action : RoutingAction} {hopCount : UInt8}
    (h : action.isForwardingAction = false) : RespectsHopCount action hopCount := by
  intro hforward
  rw [h] at hforward
  cases hforward

theorem hopCount_sub_one_lt {h : UInt8} (hpos : 0 < h) : h - 1 < h := by
  have hnat : 0 < h.toNat := UInt8.lt_iff_toNat_lt.mp hpos
  have h1 : (1 : UInt8).toNat = 1 := rfl
  have hlt : h.toNat < 256 := h.toNat_lt
  apply UInt8.lt_iff_toNat_lt.mpr
  rw [UInt8.toNat_sub, h1]
  omega

theorem respectsHopCount_hopAction (hopCount : UInt8) :
    RespectsHopCount (hopAction hopCount) hopCount := by
  intro hforward
  rw [hopAction] at hforward ⊢
  by_cases hunlimited : hopCountUnlimited ≤ hopCount
  · rw [if_pos hunlimited]
    refine ⟨?_, fun _ => rfl⟩
    intro hlt
    exact absurd hlt (UInt8.not_lt.mpr hunlimited)
  · rw [if_neg hunlimited] at hforward ⊢
    by_cases hpos : 0 < hopCount
    · rw [if_pos hpos]
      refine ⟨?_, fun hle => absurd hle hunlimited⟩
      intro _
      show (if 0 < hopCount then hopCount - 1 else 0) < hopCount
      rw [if_pos hpos]
      exact hopCount_sub_one_lt hpos
    · rw [if_neg hpos] at hforward
      cases hforward

theorem respectsHopCount_decideSystemBroadcast (frame : LDataFrame) :
    RespectsHopCount (CouplerRoutingPolicy.decideSystemBroadcast frame) frame.hopCount := by
  intro hforward
  rw [CouplerRoutingPolicy.decideSystemBroadcast] at hforward ⊢
  by_cases hunlimited : hopCountUnlimited ≤ frame.hopCount
  · rw [if_pos hunlimited]
    refine ⟨?_, fun _ => rfl⟩
    intro hlt
    exact absurd hlt (UInt8.not_lt.mpr hunlimited)
  · rw [if_neg hunlimited] at hforward ⊢
    by_cases hpos : 0 < frame.hopCount
    · rw [if_pos hpos]
      exact ⟨fun _ => hpos, fun hle => absurd hle hunlimited⟩
    · rw [if_neg hpos] at hforward
      cases hforward

theorem respectsHopCount_decidePointToPoint (policy : CouplerRoutingPolicy) (origin : CouplerPort)
    (frame : LDataFrame) :
    RespectsHopCount (policy.decidePointToPoint origin frame) frame.hopCount := by
  have hhop := respectsHopCount_hopAction frame.hopCount
  rw [CouplerRoutingPolicy.decidePointToPoint]
  dsimp only
  split
  · exact respectsHopCount_of_not_forwarding rfl
  · split
    · exact hhop
    · exact respectsHopCount_of_not_forwarding rfl
    · split
      · cases origin with
        | primary =>
          rw [CouplerRoutingPolicy.routePointToPointAsLineCoupler]
          split
          · exact respectsHopCount_of_not_forwarding rfl
          · split
            · exact respectsHopCount_of_not_forwarding rfl
            · exact hhop
        | secondary =>
          rw [CouplerRoutingPolicy.routePointToPointAsLineCoupler]
          split
          · exact hhop
          · split
            · exact respectsHopCount_of_not_forwarding rfl
            · exact respectsHopCount_of_not_forwarding rfl
      · cases origin with
        | primary =>
          rw [CouplerRoutingPolicy.routePointToPointAsBackboneCoupler]
          split
          · exact respectsHopCount_of_not_forwarding rfl
          · split
            · exact respectsHopCount_of_not_forwarding rfl
            · exact hhop
        | secondary =>
          rw [CouplerRoutingPolicy.routePointToPointAsBackboneCoupler]
          split
          · exact hhop
          · split
            · exact respectsHopCount_of_not_forwarding rfl
            · exact respectsHopCount_of_not_forwarding rfl
      · exact hhop

/-- Every decision, whatever the class, the configuration, the role and the filter table, respects
the hop count. -/
theorem decideClass_hopCount (policy : CouplerRoutingPolicy) (origin : CouplerPort)
    (frame : LDataFrame) (frameClass : FrameClass) :
    RespectsHopCount (policy.decideClass origin frame frameClass) frame.hopCount := by
  have hhop := respectsHopCount_hopAction frame.hopCount
  cases frameClass with
  | pointToPoint => exact respectsHopCount_decidePointToPoint policy origin frame
  | multicast =>
    show RespectsHopCount (policy.decideMulticast origin frame) frame.hopCount
    rw [CouplerRoutingPolicy.decideMulticast]
    split
    · exact respectsHopCount_of_not_forwarding rfl
    · exact hhop
  | broadcast =>
    show RespectsHopCount (policy.decideBroadcast origin frame) frame.hopCount
    rw [CouplerRoutingPolicy.decideBroadcast]
    split
    · exact respectsHopCount_of_not_forwarding rfl
    · exact hhop
  | systemBroadcast => exact respectsHopCount_decideSystemBroadcast frame

end KnxStack.Network
