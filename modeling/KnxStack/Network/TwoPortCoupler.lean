import KnxStack.Network.CouplerRouting
import KnxStack.Lib.Runs

/-!
# Two-port couplers and networks of them

`TwoPortCoupler` (`network/two_port_coupler.cpp`) receives on two ports, drops the echo of what it
has sent, and forwards to the other port what its policy decides to route.

`CouplerNet` is any number of such couplers on any arrangement of bus segments, loops included. What
is sent on a segment may reach the couplers there in any order, more than once or not at all, and
couplers may be reconfigured at any time. `hopCount_bounds_forwards` bounds the forwards that a
frame can give rise to by the hop count it was sent with.
-/

set_option autoImplicit false

namespace KnxStack.Network

open KnxStack.Lib KnxStack.Lib.Words KnxStack.Datalink

/-! ## One coupler -/

/-- `kRecentHashCapacity`. -/
def recentHashCapacity : Nat := 16

/-- `RecentHashes`: the last hashes remembered, the newest first. -/
abbrev RecentHashes : Type := List UInt64

/-- `RecentHashes::remember`. -/
def RecentHashes.remember (r : RecentHashes) (h : UInt64) : RecentHashes :=
  (h :: r).take recentHashCapacity

/-- One step of the FNV hash. -/
def mixOctet (h : UInt64) (b : UInt8) : UInt64 := (h ^^^ b.toUInt64) * 1099511628211

/-- `hashFrame`: over the encoded frame, or over the fields of one that does not fit the scratch
buffer. -/
def hashFrame (frame : LDataFrame) : UInt64 :=
  let offset : UInt64 := 14695981039346656037
  match encodeFrame frame 32 with
  | .ok octets => octets.foldl mixOctet offset
  | .error _ =>
      ([highByte frame.source.raw, lowByte frame.source.raw, highByte frame.destination.raw,
          lowByte frame.destination.raw,
          if frame.destinationType.isGroupAddress then 1 else 0, frame.hopCount]
        ++ frame.tpdu.data).foldl mixOctet offset

/-- `TwoPortCoupler`; its filter table is the one the policy consults. -/
structure TwoPortCoupler where
  initialized : Bool := true
  routingEnabled : Bool := true
  policy : CouplerRoutingPolicy := { filterTable := some {} }
  recent : PerPort RecentHashes := ⟨[], []⟩
  deriving DecidableEq

/-- What a coupler does on reception: the callbacks it makes and the frame it sends. -/
inductive CouplerEvent where
  | ackPolicy (origin : CouplerPort) (policy : AckPolicy)
  | localDelivery (origin : CouplerPort) (frame : LDataFrame)
  | filtered (origin : CouplerPort)
  | dropped (origin : CouplerPort)
  | sent (port : CouplerPort) (frame : LDataFrame)
  | forwarded (origin : CouplerPort)
  deriving DecidableEq

namespace TwoPortCoupler

/-- `rememberSentTo`. -/
def rememberSentTo (c : TwoPortCoupler) (port : CouplerPort) (h : UInt64) : TwoPortCoupler :=
  match port with
  | .primary => { c with recent := { c.recent with primary := c.recent.primary.remember h } }
  | .secondary => { c with recent := { c.recent with secondary := c.recent.secondary.remember h } }

/-- `forward`. -/
def forward (c : TwoPortCoupler) (origin : CouplerPort) (frame : LDataFrame)
    (action : RoutingAction) : TwoPortCoupler × List CouplerEvent :=
  if !c.routingEnabled then (c, [])
  else
    let fwd := { frame with hopCount := applyHopCount action frame.hopCount, repeated := false }
    (c.rememberSentTo origin.other (hashFrame fwd), [.sent origin.other fwd, .forwarded origin])

/-- `applyAction`. -/
def applyAction (c : TwoPortCoupler) (origin : CouplerPort) (frame : LDataFrame)
    (action : RoutingAction) : TwoPortCoupler × List CouplerEvent :=
  match action with
  | .forwardLocally => (c, [])
  | .ignoreTotally => (c, [.filtered origin])
  | .ignoreAcked => (c, [.dropped origin])
  | _ => c.forward origin frame action

/-- `handleRx`. -/
def handleRx (c : TwoPortCoupler) (origin : CouplerPort) (frame : LDataFrame) :
    TwoPortCoupler × List CouplerEvent :=
  if !c.initialized then (c, [])
  else if hashFrame frame ∈ c.recent.at origin then (c, [])
  else
    let action := c.policy.decide origin frame
    let delivery : List CouplerEvent :=
      if action = .forwardLocally ∨ frame.destinationType.isGroupAddress then
        [.localDelivery origin frame]
      else []
    let applied := c.applyAction origin frame action
    (applied.1,
      .ackPolicy origin (c.policy.ackPolicy origin frame action) :: (delivery ++ applied.2))

/-- What a coupler sends on receiving a frame: nothing, or the frame to the other port, with the
hop count its decision leaves. -/
theorem sent_of_handleRx {c : TwoPortCoupler} {origin port : CouplerPort} {frame fwd : LDataFrame}
    (h : CouplerEvent.sent port fwd ∈ (c.handleRx origin frame).2) :
    port = origin.other
      ∧ ∃ action, RespectsHopCount action frame.hopCount ∧ action.isForwardingAction = true
        ∧ fwd = { frame with hopCount := applyHopCount action frame.hopCount, repeated := false } := by
  rw [handleRx] at h
  split at h
  · cases h
  · split at h
    · cases h
    · have happlied : CouplerEvent.sent port fwd
          ∈ (c.applyAction origin frame (c.policy.decide origin frame)).2 := by
        rcases List.mem_cons.mp h with hack | hrest
        · cases hack
        · rcases List.mem_append.mp hrest with hlocal | happlied
          · split at hlocal
            · rw [List.mem_singleton] at hlocal
              cases hlocal
            · cases hlocal
          · exact happlied
      have hrespects := decideClass_hopCount c.policy origin frame (classify frame)
      have hforward : CouplerEvent.sent port fwd
            ∈ (c.forward origin frame (c.policy.decide origin frame)).2 →
          port = origin.other ∧ fwd = { frame with
            hopCount := applyHopCount (c.policy.decide origin frame) frame.hopCount
            repeated := false } := by
        intro hmem
        rw [forward] at hmem
        split at hmem
        · cases hmem
        · simpa using hmem
      -- only the three forwarding actions send
      cases haction : c.policy.decide origin frame with
      | forwardLocally =>
        rw [haction] at happlied
        cases happlied
      | ignoreTotally =>
        rw [haction, applyAction, List.mem_singleton] at happlied
        cases happlied
      | ignoreAcked =>
        rw [haction, applyAction, List.mem_singleton] at happlied
        cases happlied
      | routeUnmodified =>
        rw [haction] at happlied hforward
        exact ⟨(hforward happlied).1, _, haction ▸ hrespects, rfl, (hforward happlied).2⟩
      | routeDecremented =>
        rw [haction] at happlied hforward
        exact ⟨(hforward happlied).1, _, haction ▸ hrespects, rfl, (hforward happlied).2⟩
      | routeLast =>
        rw [haction] at happlied hforward
        exact ⟨(hforward happlied).1, _, haction ▸ hrespects, rfl, (hforward happlied).2⟩

end TwoPortCoupler

/-! ## Networks of couplers -/

/-- A frame sent on a segment. `earlier` holds the hop counts of the frames it was forwarded from,
the last one first; it is empty for a frame that a device sent. -/
structure Transmission (σ : Type) where
  segment : σ
  frame : LDataFrame
  earlier : List UInt8

/-- Hop counts of a frame and of the frames it was forwarded from, the newest first. -/
def Transmission.hopCounts {σ : Type} (t : Transmission σ) : List UInt8 :=
  t.frame.hopCount :: t.earlier

/-- The hop count the chain of forwards began with. -/
def Transmission.injected {σ : Type} (t : Transmission σ) : UInt8 :=
  t.hopCounts.getLast (List.cons_ne_nil _ _)

/-- Couplers, and everything sent so far. -/
structure CouplerNet (ι σ : Type) where
  couplers : ι → TwoPortCoupler
  sent : List (Transmission σ)

/-- What happens in a network: a device sends a frame, a coupler receives on one of its ports one of
the frames sent (with the flags a repetition or the frame format may have changed), or a coupler is
reconfigured. -/
inductive NetEvent (ι σ : Type) where
  | send (segment : σ) (frame : LDataFrame)
  | receive (index : Nat) (coupler : ι) (port : CouplerPort) (standardFrame repeated : Bool)
  | configure (coupler : ι) (change : TwoPortCoupler → TwoPortCoupler)

/-- What a coupler's event puts on the segments it is attached to. -/
def transmissionOf {σ : Type} (segment : CouplerPort → σ) (earlier : List UInt8) :
    CouplerEvent → Option (Transmission σ)
  | .sent port frame => some ⟨segment port, frame, earlier⟩
  | _ => none

section Nets

variable {ι σ : Type} [DecidableEq ι] [DecidableEq σ]

/-- One event; `segment` says where the ports of the couplers are attached. -/
def netStep (segment : ι → CouplerPort → σ) (net : CouplerNet ι σ) :
    NetEvent ι σ → CouplerNet ι σ
  | .send s frame => { net with sent := net.sent ++ [⟨s, frame, []⟩] }
  | .receive index i port standardFrame repeated =>
      match net.sent[index]? with
      | none => net
      | some t =>
          if segment i port = t.segment then
            let frame := { t.frame with standardFrame := standardFrame, repeated := repeated }
            let handled := (net.couplers i).handleRx port frame
            { couplers := fun j => if j = i then handled.1 else net.couplers j
              sent := net.sent ++ handled.2.filterMap (transmissionOf (segment i) t.hopCounts) }
          else net
  | .configure i change =>
      { net with couplers := fun j => if j = i then change (net.couplers i) else net.couplers j }

/-- Of two hop counts along a chain, the newer and the older: less while hops are limited, the same
when they are not. -/
def Ages (newer older : UInt8) : Prop := (older < 7 → newer < older) ∧ (7 ≤ older → newer = older)

theorem ages_of_sent {c : TwoPortCoupler} {origin port : CouplerPort} {frame fwd : LDataFrame}
    (h : CouplerEvent.sent port fwd ∈ (c.handleRx origin frame).2) :
    Ages fwd.hopCount frame.hopCount := by
  obtain ⟨-, action, hrespects, hforwarding, hfwd⟩ := TwoPortCoupler.sent_of_handleRx h
  rw [hfwd]
  exact hrespects hforwarding

omit [DecidableEq σ] [DecidableEq ι] in
theorem Ages.older_ne_zero {newer older : UInt8} (h : Ages newer older) : older ≠ 0 := by
  rintro rfl
  have hlt := UInt8.lt_iff_toNat_lt.mp (h.1 (by decide))
  exact absurd hlt (Nat.not_lt_zero _)

omit [DecidableEq σ] [DecidableEq ι] in
/-- A chain of aging hop counts that begins below seven decreases throughout, so that it is no
longer than what it began with; one that begins at seven or above never changes. -/
theorem chain_bound (l : List UInt8) :
    ∀ a, List.IsChain Ages (a :: l) →
      ((a :: l).getLast (List.cons_ne_nil _ _) < 7 →
          List.IsChain (fun newer older => newer < older) (a :: l)
            ∧ a.toNat + l.length ≤ ((a :: l).getLast (List.cons_ne_nil _ _)).toNat)
        ∧ (∀ x ∈ l, x ≠ 0)
        ∧ (7 ≤ (a :: l).getLast (List.cons_ne_nil _ _) →
          ∀ x ∈ a :: l, x = (a :: l).getLast (List.cons_ne_nil _ _)) := by
  induction l with
  | nil =>
    intro a _
    refine ⟨fun _ => ⟨List.IsChain.singleton _, Nat.le_refl _⟩, ?_, ?_⟩
    · intro x hx
      cases hx
    · intro _ x hx
      exact List.mem_singleton.mp hx
  | cons b l ih =>
    intro a hchain
    obtain ⟨hages, hrest⟩ := List.isChain_cons_cons.mp hchain
    obtain ⟨hlimited, hzero, hunlimited⟩ := ih b hrest
    rw [List.getLast_cons (List.cons_ne_nil b l)]
    refine ⟨?_, ?_, ?_⟩
    · intro hlt
      obtain ⟨hdecreasing, hbound⟩ := hlimited hlt
      have hlt' := UInt8.lt_iff_toNat_lt.mp hlt
      have hb : b < 7 := UInt8.lt_iff_toNat_lt.mpr (by omega)
      have hab := UInt8.lt_iff_toNat_lt.mp (hages.1 hb)
      refine ⟨List.isChain_cons_cons.mpr ⟨hages.1 hb, hdecreasing⟩, ?_⟩
      rw [List.length_cons]
      omega
    · intro x hx
      rcases List.mem_cons.mp hx with rfl | hmem
      · exact hages.older_ne_zero
      · exact hzero x hmem
    · intro hge x hx
      have hb := hunlimited hge b List.mem_cons_self
      rcases List.mem_cons.mp hx with rfl | hmem
      · have hb7 : 7 ≤ b := by rwa [← hb] at hge
        exact (hages.2 hb7).trans hb
      · exact hunlimited hge x hmem

/-- Every chain of forwards in the network ages. -/
def NetSound (net : CouplerNet ι σ) : Prop := ∀ t ∈ net.sent, List.IsChain Ages t.hopCounts

omit [DecidableEq σ] in
theorem NetSound.step [DecidableEq σ] (segment : ι → CouplerPort → σ) {net : CouplerNet ι σ}
    (h : NetSound net) (e : NetEvent ι σ) : NetSound (netStep segment net e) := by
  cases e with
  | send s frame =>
    intro t ht
    rcases List.mem_append.mp ht with hold | hnew
    · exact h t hold
    · rw [List.mem_singleton] at hnew
      rw [hnew]
      exact List.IsChain.singleton _
  | receive index i port standardFrame repeated =>
    intro t ht
    rw [netStep] at ht
    split at ht
    · exact h t ht
    · rename_i received hreceived
      split at ht
      · rcases List.mem_append.mp ht with hold | hnew
        · exact h t hold
        · -- a coupler has forwarded the frame `received`
          obtain ⟨event, hevent, hsome⟩ := List.mem_filterMap.mp hnew
          cases event with
          | sent port' fwd =>
            cases hsome
            have hages := ages_of_sent hevent
            exact List.isChain_cons_cons.mpr
              ⟨hages, h received (List.mem_of_getElem? hreceived)⟩
          | _ => cases hsome
      · exact h t ht
  | configure i change => exact h

/-- Hop counts bound the chains of forwards in every network of two-port couplers, whatever its
arrangement and configuration, along every run: the hop count decreases with every forward of a
limited frame, a frame without hops is not forwarded, a frame sent with `h < 7` gives rise to chains
of at most `h` forwards, and an unlimited frame stays unlimited. -/
theorem hopCount_bounds_forwards (segment : ι → CouplerPort → σ) (couplers : ι → TwoPortCoupler)
    (events : List (NetEvent ι σ)) :
    ∀ t ∈ (run (netStep segment) ⟨couplers, []⟩ events).sent,
      (t.injected < 7 → t.hopCounts.IsChain (fun newer older => newer < older)
          ∧ t.earlier.length ≤ t.injected.toNat)
        ∧ (∀ older ∈ t.earlier, older ≠ 0)
        ∧ (t.injected = 7 → ∀ h ∈ t.hopCounts, h = 7) := by
  intro t ht
  have hstart : NetSound (⟨couplers, []⟩ : CouplerNet ι σ) := by
    intro t ht
    cases ht
  have hstep : ∀ (net : CouplerNet ι σ) (e : NetEvent ι σ), NetSound net →
      NetSound (netStep segment net e) := by
    intro net e h
    exact h.step segment e
  have hsound := run_invariant hstep hstart events
  have hchain : List.IsChain Ages (t.frame.hopCount :: t.earlier) := hsound t ht
  obtain ⟨hlimited, hzero, hunlimited⟩ := chain_bound t.earlier t.frame.hopCount hchain
  refine ⟨?_, hzero, ?_⟩
  · intro hlt
    obtain ⟨hdecreasing, hbound⟩ := hlimited hlt
    refine ⟨hdecreasing, ?_⟩
    show t.earlier.length ≤ ((t.frame.hopCount :: t.earlier).getLast _).toNat
    omega
  · intro hseven h hmem
    have hge : (7 : UInt8) ≤ t.injected := by
      rw [hseven]
      decide
    rw [← hseven]
    exact hunlimited hge h hmem

end Nets

theorem groupWriteTpdu_fits : ([0x00, 0x80] : List UInt8).length ≤ maxFrameSize := by decide

/-- A group telegram with six hops left. -/
def sixHopFrame : LDataFrame :=
  { source := ⟨0x1101⟩, destination := ⟨0x0001⟩, hopCount := 6, tpdu := ⟨[0x00, 0x80], groupWriteTpdu_fits⟩ }

/-- The telegram is sent on one side of a repeater, which receives it there. -/
def repeaterRun : CouplerNet Unit CouplerPort :=
  run (netStep fun _ port => port) ⟨fun _ => {}, []⟩
    [.send .primary sixHopFrame, .receive 0 () .primary true false]

/-- A repeater forwards a telegram of six hops with five. -/
theorem hopCount_bounds_forwards_of_repeater :
    (⟨.secondary, { sixHopFrame with hopCount := 5 }, [6]⟩ : Transmission CouplerPort)
        ∈ repeaterRun.sent
      ∧ ([5, 6] : List UInt8).IsChain (fun newer older => newer < older)
      ∧ [(6 : UInt8)].length ≤ (6 : UInt8).toNat := by
  have hsent : repeaterRun.sent[1]?
      = some ⟨.secondary, { sixHopFrame with hopCount := 5 }, [6]⟩ := rfl
  have hmem := List.mem_of_getElem? hsent
  have hbounds := hopCount_bounds_forwards (fun (_ : Unit) port => port) (fun _ => {})
    [.send .primary sixHopFrame, .receive 0 () .primary true false] _ hmem
  exact ⟨hmem, hbounds.1 (by decide)⟩

end KnxStack.Network
