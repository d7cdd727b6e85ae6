import KnxStack.Transport.ReceiveSafety

/-!
# Acknowledgement of received data

A `T_ACK` tells the peer that its frame has been handed to the upper layer, now or as the last one
before. The layer keeps two numbers for that, the expected one and the last received one, and the
last received one is recorded for refused frames as well: a refused frame that comes twice in a row
is taken for a repetition and acknowledged. `acknowledgementLaw_iff` says for which sequences of
frames that happens.
-/

set_option autoImplicit false

namespace KnxStack.Transport

open KnxStack.Lib KnxStack.Lib.Words KnxStack.Protocol KnxStack.Datalink

namespace TransportLayer

/-- A numbered data frame of the given device. -/
def IsConnectedData (remote : IndividualAddress) (frame : NDataFrame) : Prop :=
  frame.dlFrame.source = remote ∧ (receivedTpci frame.dlFrame.tpdu.data).type = .numberedData

instance (remote : IndividualAddress) (frame : NDataFrame) :
    Decidable (IsConnectedData remote frame) :=
  inferInstanceAs (Decidable (_ ∧ _))

/-- Sequence number of a received frame. -/
def numberOf (frame : NDataFrame) : UInt8 := (receivedTpci frame.dlFrame.tpdu.data).seqNum

/-- Numbers of the `T_ACK`s among some frames. -/
def ackNumbers (frames : List NDataFrame) : List UInt8 :=
  frames.filterMap fun f =>
    match classify f.dlFrame.tpdu.data with
    | .tAck seqNum => some seqNum
    | _ => none

/-- A `T_NAK` to the device is among the frames. -/
def Refused (remote : IndividualAddress) (frames : List NDataFrame) : Prop :=
  ∃ f ∈ frames, f.dlFrame.destination.raw = remote.raw ∧
    ∃ seqNum, classify f.dlFrame.tpdu.data = .tNak seqNum

/-- Number of the last frame handed to the callback after the first `base` ones. -/
def lastHanded (base : Nat) (s : TransportLayer) : Option UInt8 :=
  (s.delivered.drop base).getLast?.map (·.sequenceNumber)

/-- A `T_ACK` with this number may answer the frame: the frame is handed to the callback and has
the number, or the last frame handed to the callback had it. -/
def MayAcknowledge (base : Nat) (s : TransportLayer) (frame : NDataFrame) (seqNum : UInt8) : Prop :=
  (s.delivered.length < (s.handleNetworkRx frame).delivered.length ∧ numberOf frame = seqNum) ∨
    lastHanded base s = some seqNum

instance (base : Nat) (s : TransportLayer) (frame : NDataFrame) (seqNum : UInt8) :
    Decidable (MayAcknowledge base s frame seqNum) :=
  inferInstanceAs (Decidable (_ ∨ _))

/-- A frame is acknowledged only as far as it may be; one that may not be is refused. -/
def AcknowledgementLaw (base : Nat) (s : TransportLayer) (frame : NDataFrame) : Prop :=
  let sent := answers s (s.handleNetworkRx frame)
  (∀ seqNum ∈ ackNumbers sent, MayAcknowledge base s frame seqNum) ∧
    (¬ MayAcknowledge base s frame (numberOf frame) →
      Refused frame.dlFrame.source sent ∧ ackNumbers sent = [])

/-- A connection that has just been opened and nothing else in the table; the network takes every
frame and the upper layer every delivery. -/
structure Listening (remote : IndividualAddress) (s : TransportLayer) : Prop where
  initialized : s.initialized = true
  callback : s.rxCallback = true
  accepts : s.rxHook.Accepts
  reliable : s.network.Reliable
  opened : ∃ e, s.connectionTable.connections = [e] ∧ e.remoteAddress = remote ∧
    e.stateMachine.state = .connected ∧ e.expectedRxSeq = 0 ∧ e.lastReceivedSeq = 0xFF

/-- Of the numbers that arrive, one that repeats the number right before it is that of the last
accepted frame. `accepted` frames have been accepted so far, and the next one in order is accepted. -/
def RepeatsAccepted (accepted : Nat) (previous : Option UInt8) : List UInt8 → Prop
  | [] => True
  | n :: rest =>
      (previous = some n → 0 < accepted ∧ n.toNat = (accepted - 1) % 16) ∧
        RepeatsAccepted (if n.toNat = accepted % 16 then accepted + 1 else accepted) (some n) rest

/-! ## Invariant -/

/-- The connection after some frames: `accepted` of them were handed up, and `previous` is the
number of the last one that came. -/
structure Progress (base : Nat) (remote : IndividualAddress) (accepted : Nat)
    (previous : Option UInt8) (s : TransportLayer) : Prop where
  initialized : s.initialized = true
  callback : s.rxCallback = true
  accepts : s.rxHook.Accepts
  reliable : s.network.Reliable
  entry : ∃ e, s.connectionTable.connections = [e] ∧ e.remoteAddress = remote ∧
    e.expectedRxSeq.toNat = accepted % 16 ∧ e.lastReceivedSeq = previous.getD 0xFF
  previous_lt : ∀ n, previous = some n → n.toNat < 16 ∧ n.toNat ≠ accepted % 16
  base_le : base ≤ s.delivered.length
  handed : lastHanded base s
    = if accepted = 0 then none else some (UInt8.ofNat ((accepted - 1) % 16))

theorem Listening.progress {remote : IndividualAddress} {s : TransportLayer}
    (h : Listening remote s) : Progress s.delivered.length remote 0 none s := by
  obtain ⟨e, hconn, haddr, -, hexp, hlast⟩ := h.opened
  refine ⟨h.initialized, h.callback, h.accepts, h.reliable, ⟨e, hconn, haddr, ?_, hlast⟩, ?_,
    le_refl _, ?_⟩
  · rw [hexp]
    rfl
  · intro n hn
    cases hn
  · simp [lastHanded]

theorem numberOf_lt (frame : NDataFrame) : (numberOf frame).toNat < 16 := and_fifteen_lt _

theorem handleNetworkRx_connectedData {s : TransportLayer} {e : ConnectionEntry}
    {frame : NDataFrame} (hinit : s.initialized = true)
    (hconn : s.connectionTable.connections = [e])
    (hdata : IsConnectedData e.remoteAddress frame) :
    s.handleNetworkRx frame
      = ((s.withTime s.startClock.timebaseMs).withEntry e).handleNumberedData e.remoteAddress
          (numberOf frame) frame.dlFrame.tpdu frame.dlFrame.priority := by
  obtain ⟨haddr, htype⟩ := hdata
  have hne : frame.dlFrame.tpdu.data ≠ [] := by
    intro hnil
    rw [hnil] at htype
    exact absurd htype (by decide)
  have hclass : classify frame.dlFrame.tpdu.data = .tDataConnected (numberOf frame) := by
    unfold classify
    simp only [htype]
    rfl
  rw [handleNetworkRx_eq_dispatch hinit hne, ← startClock_eq_withTime, ← startClock_withEntry,
    withEntry_eq_self hconn]
  unfold dispatch
  rw [hclass, haddr]

theorem transformAndDeliver_of_accepts {s : TransportLayer} (hcb : s.rxCallback = true)
    (hacc : s.rxHook.Accepts) (f : TDataFrame) :
    ∃ f' hook, f'.sequenceNumber = f.sequenceNumber ∧ hook.Accepts ∧
      s.transformAndDeliver f
        = { s with rxHook := hook, delivered := s.delivered ++ [f'] } := by
  unfold transformAndDeliver TransformHook.apply
  cases ht : s.rxHook.transform with
  | none =>
    refine ⟨f, s.rxHook, rfl, hacc, ?_⟩
    simp only [deliver, hcb, if_true]
  | some transform =>
    obtain ⟨out, hout⟩ := hacc transform ht s.rxHook.seen f
    refine ⟨{ f with tpdu := out.tpdu, security := out.security },
      { s.rxHook with seen := s.rxHook.seen ++ [f] }, rfl, ?_, ?_⟩
    · intro transform' ht'
      exact hacc transform' ht'
    · simp only [hout, deliver]
      rw [if_pos hcb, ht]

/-! ## The three answers -/

/-- What a step changes: the frames it puts on the network, the frames it hands to the callback and
the entry it leaves in the table. -/
structure Effect (s s' : TransportLayer) (out : List NDataFrame) (up : List TDataFrame)
    (e' : ConnectionEntry) : Prop where
  initialized : s'.initialized = s.initialized
  callback : s'.rxCallback = s.rxCallback
  accepts : s'.rxHook.Accepts
  reliable : s'.network.Reliable
  sent : s'.network.sent = s.network.sent ++ out
  delivered : s'.delivered = s.delivered ++ up
  entry : s'.connectionTable.connections = [e']

theorem Effect.answers_eq {s s' : TransportLayer} {out : List NDataFrame} {up : List TDataFrame}
    {e' : ConnectionEntry} (h : Effect s s' out up e') : answers s s' = out := by
  unfold answers
  rw [h.sent, List.drop_left]

/-- A repetition is no `T_ACK`. -/
theorem ackNumbers_repetition (s : TransportLayer) (e : ConnectionEntry) :
    ackNumbers [s.repetitionFrame e] = [] := by
  have hclass : classify (s.repetitionFrame e).dlFrame.tpdu.data
      = .tDataConnected (e.pendingSeq &&& 0x0F) :=
    classify_numberedData (and_fifteen_lt _) _ _
  simp [ackNumbers, hclass]

section Answers

variable {s : TransportLayer} {e : ConnectionEntry} {frame : NDataFrame}

/-- A number out of order is answered with a `T_NAK`. -/
theorem effect_outOfOrder (hinit : s.initialized = true) (hacc : s.rxHook.Accepts)
    (hrel : s.network.Reliable) (hconn : s.connectionTable.connections = [e])
    (hdata : IsConnectedData e.remoteAddress frame) (hnew : e.lastReceivedSeq ≠ numberOf frame)
    (horder : numberOf frame ≠ e.expectedRxSeq &&& 0x0F) :
    Effect s (s.handleNetworkRx frame)
      [controlFrame s.ownAddress e.remoteAddress (.nak (e.expectedRxSeq &&& 0x0F))
        frame.dlFrame.priority] []
      (stamped (recordedEntry e (numberOf frame) frame.dlFrame.priority)
        s.startClock.timebaseMs) := by
  have hmask : numberOf frame &&& 0x0F = numberOf frame := and_fifteen_of_lt (numberOf_lt frame)
  rw [handleNetworkRx_connectedData hinit hconn hdata,
    handleNumberedData_outOfOrder _ e _ _ (by rw [hmask]; exact hnew) (by rw [hmask]; exact horder),
    hmask]
  unfold sendNak
  rw [networkSend_of_reliable (s := s.withTime s.startClock.timebaseMs) hrel]
  exact ⟨rfl, rfl, hacc, hrel.put _, rfl, (List.append_nil _).symm, rfl⟩

/-- A new number in order is answered with a `T_ACK` and handed up. -/
theorem effect_accept (hinit : s.initialized = true) (hcb : s.rxCallback = true)
    (hacc : s.rxHook.Accepts) (hrel : s.network.Reliable)
    (hconn : s.connectionTable.connections = [e]) (hdata : IsConnectedData e.remoteAddress frame)
    (hnew : e.lastReceivedSeq ≠ numberOf frame)
    (horder : numberOf frame = e.expectedRxSeq &&& 0x0F) :
    ∃ f, f.sequenceNumber = numberOf frame ∧
      Effect s (s.handleNetworkRx frame)
        [controlFrame s.ownAddress e.remoteAddress (.ack (numberOf frame)) frame.dlFrame.priority]
        [f]
        (advancedEntry (stamped (recordedEntry e (numberOf frame) frame.dlFrame.priority)
          s.startClock.timebaseMs)) := by
  have hmask : numberOf frame &&& 0x0F = numberOf frame := and_fifteen_of_lt (numberOf_lt frame)
  rw [handleNetworkRx_connectedData hinit hconn hdata,
    handleNumberedData_accept _ e _ _ (by rw [hmask]; exact hnew) (by rw [hmask]; exact horder),
    hmask]
  unfold sendAck
  rw [networkSend_of_reliable (s := s.withTime s.startClock.timebaseMs) hrel]
  obtain ⟨f, hook, hseq, hhook, heq⟩ := transformAndDeliver_of_accepts
    (s := ((s.withTime s.startClock.timebaseMs).put (controlFrame s.ownAddress e.remoteAddress
      (.ack (numberOf frame)) frame.dlFrame.priority)).withEntry
        (advancedEntry (stamped (recordedEntry e (numberOf frame) frame.dlFrame.priority)
          s.startClock.timebaseMs))) hcb hacc
    (connectedFrame s.ownAddress e.remoteAddress (numberOf frame) frame.dlFrame.tpdu)
  refine ⟨f, hseq, ?_⟩
  rw [ownAddress_withTime, timebaseMs_withTime, heq]
  exact ⟨rfl, rfl, hhook, hrel.put _, rfl, rfl, rfl⟩

/-- A repeated number is answered with a `T_ACK`, possibly followed by a repetition of the TPDU
this device has pending; nothing is handed up. -/
theorem effect_duplicate (hinit : s.initialized = true) (hacc : s.rxHook.Accepts)
    (hrel : s.network.Reliable) (hconn : s.connectionTable.connections = [e])
    (hdata : IsConnectedData e.remoteAddress frame) (hdup : e.lastReceivedSeq = numberOf frame) :
    ∃ repetitions e', ackNumbers repetitions = [] ∧ e'.remoteAddress = e.remoteAddress ∧
      e'.expectedRxSeq = e.expectedRxSeq ∧ e'.lastReceivedSeq = e.lastReceivedSeq ∧
      Effect s (s.handleNetworkRx frame)
        (controlFrame s.ownAddress e.remoteAddress (.ack (numberOf frame)) frame.dlFrame.priority
          :: repetitions) [] e' := by
  have hmask : numberOf frame &&& 0x0F = numberOf frame := and_fifteen_of_lt (numberOf_lt frame)
  rw [handleNetworkRx_connectedData hinit hconn hdata,
    handleNumberedData_duplicate _ e _ _ (by rw [hmask]; exact hdup), hmask]
  unfold sendAck
  rw [networkSend_of_reliable (s := s.withTime s.startClock.timebaseMs) hrel]
  have hrepeat := repeatAtOnce_of_reliable
    (s := (s.withTime s.startClock.timebaseMs).put (controlFrame s.ownAddress e.remoteAddress
      (.ack (numberOf frame)) frame.dlFrame.priority))
    (e := stamped { e with priority := frame.dlFrame.priority } s.startClock.timebaseMs)
    hinit (hrel.put _) rfl
  rw [remoteAddress_stamped] at hrepeat
  rw [ownAddress_withTime, timebaseMs_withTime, hrepeat]
  split
  · refine ⟨[s.repetitionFrame e], _, ackNumbers_repetition s e, ?_, ?_, ?_, rfl, rfl, hacc,
      (hrel.put _).put _, List.append_assoc _ _ _, (List.append_nil _).symm, rfl⟩
    · rfl
    · rfl
    · rfl
  · exact ⟨[], stamped { e with priority := frame.dlFrame.priority } s.startClock.timebaseMs, rfl,
      rfl, rfl, rfl, rfl, rfl, hacc, hrel.put _, rfl, (List.append_nil _).symm, rfl⟩

end Answers

/-! ## The law along a sequence of frames -/

section Law

variable {base accepted : Nat} {remote : IndividualAddress} {previous : Option UInt8}
  {s : TransportLayer} {frame : NDataFrame}

theorem ackNumbers_cons_ack (own : IndividualAddress) (n : UInt8) (hn : n.toNat < 16)
    (priority : Priority) (rest : List NDataFrame) :
    ackNumbers (controlFrame own remote (.ack n) priority :: rest) = n :: ackNumbers rest := by
  have hclass : classify (controlFrame own remote (.ack n) priority).dlFrame.tpdu.data = .tAck n :=
    classify_ack hn
  simp [ackNumbers, hclass]

theorem ackNumbers_nak (own remote : IndividualAddress) (n : UInt8) (hn : n.toNat < 16)
    (priority : Priority) : ackNumbers [controlFrame own remote (.nak n) priority] = [] := by
  have hclass : classify (controlFrame own remote (.nak n) priority).dlFrame.tpdu.data = .tNak n :=
    classify_nak hn
  simp [ackNumbers, hclass]

theorem Progress.of_quiet (h : Progress base remote accepted previous s) {s' : TransportLayer}
    {out : List NDataFrame} {e' : ConnectionEntry} {n : UInt8} (heff : Effect s s' out [] e')
    (haddr : e'.remoteAddress = remote) (hexp : e'.expectedRxSeq.toNat = accepted % 16)
    (hlast : e'.lastReceivedSeq = n) (hn : n.toNat < 16) (hne : n.toNat ≠ accepted % 16) :
    Progress base remote accepted (some n) s' := by
  have hdel : s'.delivered = s.delivered := by rw [heff.delivered, List.append_nil]
  refine ⟨heff.initialized.trans h.initialized, heff.callback.trans h.callback, heff.accepts,
    heff.reliable, ⟨e', heff.entry, haddr, hexp, hlast⟩, ?_, ?_, ?_⟩
  · intro m hm
    cases hm
    exact ⟨hn, hne⟩
  · rw [hdel]
    exact h.base_le
  · unfold lastHanded
    rw [hdel]
    exact h.handed

theorem mayAcknowledge_of_quiet (base : Nat) {out : List NDataFrame} {e' : ConnectionEntry}
    (heff : Effect s (s.handleNetworkRx frame) out [] e') (n : UInt8) :
    MayAcknowledge base s frame n ↔ lastHanded base s = some n := by
  have hdel : (s.handleNetworkRx frame).delivered = s.delivered := by
    rw [heff.delivered, List.append_nil]
  unfold MayAcknowledge
  rw [hdel]
  simp

theorem law_of_duplicate {own : IndividualAddress} {priority : Priority}
    {repetitions : List NDataFrame} {e' : ConnectionEntry}
    (heff : Effect s (s.handleNetworkRx frame)
      (controlFrame own remote (.ack (numberOf frame)) priority :: repetitions) [] e')
    (hacks : ackNumbers repetitions = []) :
    AcknowledgementLaw base s frame ↔ lastHanded base s = some (numberOf frame) := by
  have hnumbers : ackNumbers (answers s (s.handleNetworkRx frame)) = [numberOf frame] := by
    rw [heff.answers_eq, ackNumbers_cons_ack own _ (numberOf_lt frame), hacks]
  have hmay := mayAcknowledge_of_quiet base heff (numberOf frame)
  unfold AcknowledgementLaw
  dsimp only
  rw [hnumbers, hmay]
  constructor
  · rintro ⟨hlaw, -⟩
    exact hmay.mp (hlaw _ List.mem_cons_self)
  · intro hlast
    refine ⟨?_, fun hnot => absurd hlast hnot⟩
    intro n hn
    rw [List.mem_singleton] at hn
    rw [hn]
    exact hmay.mpr hlast

theorem law_of_refused {own : IndividualAddress} {n : UInt8} {priority : Priority}
    {e' : ConnectionEntry} (hn : n.toNat < 16)
    (heff : Effect s (s.handleNetworkRx frame)
      [controlFrame own frame.dlFrame.source (.nak n) priority] [] e') :
    AcknowledgementLaw base s frame := by
  have hanswers := heff.answers_eq
  have hnone := ackNumbers_nak own frame.dlFrame.source n hn priority
  unfold AcknowledgementLaw
  rw [hanswers]
  refine ⟨?_, fun _ => ⟨⟨_, List.mem_cons_self, rfl, n, classify_nak hn⟩, hnone⟩⟩
  intro m hm
  rw [hnone] at hm
  cases hm

theorem law_of_accepted {own : IndividualAddress} {priority : Priority} {f : TDataFrame}
    {e' : ConnectionEntry}
    (heff : Effect s (s.handleNetworkRx frame)
      [controlFrame own remote (.ack (numberOf frame)) priority] [f] e') :
    AcknowledgementLaw base s frame := by
  have hmay : MayAcknowledge base s frame (numberOf frame) := by
    refine Or.inl ⟨?_, rfl⟩
    rw [heff.delivered, List.length_append, List.length_singleton]
    exact Nat.lt_succ_self _
  have hnumbers : ackNumbers (answers s (s.handleNetworkRx frame)) = [numberOf frame] := by
    rw [heff.answers_eq, ackNumbers_cons_ack own _ (numberOf_lt frame)]
    rfl
  unfold AcknowledgementLaw
  dsimp only
  rw [hnumbers]
  refine ⟨?_, fun hnot => absurd hmay hnot⟩
  intro n hn
  rw [List.mem_singleton] at hn
  rw [hn]
  exact hmay

theorem Progress.lastHanded_iff (h : Progress base remote accepted previous s) {n : UInt8} :
    lastHanded base s = some n ↔ 0 < accepted ∧ n.toNat = (accepted - 1) % 16 := by
  rw [h.handed]
  by_cases hzero : accepted = 0
  · simp [hzero]
  · have hlt : (accepted - 1) % 16 < 256 :=
      (Nat.mod_lt _ (by decide : 0 < 16)).trans (by decide)
    rw [if_neg hzero, Option.some_inj, ← UInt8.toNat_inj, UInt8.toNat_ofNat_of_lt' hlt]
    constructor
    · intro heq
      exact ⟨Nat.pos_of_ne_zero hzero, heq.symm⟩
    · rintro ⟨-, heq⟩
      exact heq.symm

theorem Progress.of_accepted (h : Progress base remote accepted previous s) {s' : TransportLayer}
    {out : List NDataFrame} {f : TDataFrame} {e' : ConnectionEntry} {n : UInt8}
    (heff : Effect s s' out [f] e') (haddr : e'.remoteAddress = remote)
    (hexp : e'.expectedRxSeq.toNat = (accepted + 1) % 16) (hlast : e'.lastReceivedSeq = n)
    (hseq : f.sequenceNumber = n) (hn : n.toNat = accepted % 16) :
    Progress base remote (accepted + 1) (some n) s' := by
  refine ⟨heff.initialized.trans h.initialized, heff.callback.trans h.callback, heff.accepts,
    heff.reliable, ⟨e', heff.entry, haddr, hexp, hlast⟩, ?_, ?_, ?_⟩
  · intro m hm
    cases hm
    omega
  · rw [heff.delivered, List.length_append]
    exact h.base_le.trans (Nat.le_add_right _ _)
  · unfold lastHanded
    rw [heff.delivered, List.drop_append_of_le_length h.base_le, List.getLast?_concat,
      if_neg (Nat.succ_ne_zero _), Nat.add_sub_cancel, Option.map_some, hseq, ← hn,
      UInt8.ofNat_toNat]

/-- One frame: the law holds exactly when the frame does not repeat a refused number, and the
invariant goes on. -/
theorem Progress.step (h : Progress base remote accepted previous s)
    (hdata : IsConnectedData remote frame) :
    (AcknowledgementLaw base s frame ↔
      (previous = some (numberOf frame) →
        0 < accepted ∧ (numberOf frame).toNat = (accepted - 1) % 16)) ∧
      Progress base remote
        (if (numberOf frame).toNat = accepted % 16 then accepted + 1 else accepted)
        (some (numberOf frame)) (s.handleNetworkRx frame) := by
  obtain ⟨e, hconn, rfl, hexp, hlast⟩ := h.entry
  have hlt := numberOf_lt frame
  have hmasked : e.expectedRxSeq &&& 0x0F = e.expectedRxSeq := by
    apply and_fifteen_of_lt
    rw [hexp]
    exact Nat.mod_lt _ (by decide)
  by_cases hprev : previous = some (numberOf frame)
  · -- the number that came last comes again
    have hne := (h.previous_lt _ hprev).2
    rw [hprev] at hlast
    obtain ⟨reps, e', hacks, haddr, hexp', hlast', heff⟩ :=
      effect_duplicate h.initialized h.accepts h.reliable hconn hdata hlast
    rw [if_neg hne, law_of_duplicate heff hacks, h.lastHanded_iff]
    refine ⟨?_, h.of_quiet heff haddr (hexp'.symm ▸ hexp) (hlast'.trans hlast) hlt hne⟩
    simp [hprev]
  · have hnew : e.lastReceivedSeq ≠ numberOf frame := by
      intro heq
      cases previous with
      | none =>
        rw [hlast] at heq
        rw [← heq] at hlt
        exact absurd hlt (by decide)
      | some m => exact hprev (congrArg some (hlast.symm.trans heq))
    by_cases horder : (numberOf frame).toNat = accepted % 16
    · have hnext : numberOf frame = e.expectedRxSeq &&& 0x0F := by
        rw [hmasked, ← UInt8.toNat_inj, horder, hexp]
      obtain ⟨f, hseq, heff⟩ :=
        effect_accept h.initialized h.callback h.accepts h.reliable hconn hdata hnew hnext
      rw [if_pos horder]
      refine ⟨?_, h.of_accepted heff rfl ?_ rfl hseq horder⟩
      · simp [law_of_accepted heff, hprev]
      · unfold advancedEntry
        rw [toNat_succ_and_fifteen]
        simp only [stamped, recordedEntry, hexp]
        omega
    · have hnot : numberOf frame ≠ e.expectedRxSeq &&& 0x0F := by
        rw [hmasked]
        intro heq
        exact horder (by rw [heq, hexp])
      have heff := effect_outOfOrder h.initialized h.accepts h.reliable hconn hdata hnew hnot
      rw [if_neg horder]
      refine ⟨?_, h.of_quiet heff rfl hexp rfl hlt horder⟩
      rw [← hdata.1] at heff
      simp [law_of_refused (and_fifteen_lt _) heff, hprev]

theorem Progress.along_iff (frames : List NDataFrame) (h : Progress base remote accepted previous s)
    (hdata : ∀ frame ∈ frames, IsConnectedData remote frame) :
    Along handleNetworkRx (AcknowledgementLaw base) s frames ↔
      RepeatsAccepted accepted previous (frames.map numberOf) := by
  induction frames generalizing accepted previous s with
  | nil => exact Iff.rfl
  | cons frame frames ih =>
    obtain ⟨hlaw, hnext⟩ := h.step (hdata frame List.mem_cons_self)
    rw [along_cons, hlaw, ih hnext (fun f hf => hdata f (List.mem_cons_of_mem _ hf))]
    exact Iff.rfl

end Law

/-- Acknowledgement. On a connection that has just been opened, every frame is acknowledged only
as far as it or the frame before it was handed up, and refused otherwise, exactly when no frame
repeats the number of the frame right before it, unless that is the number of the last accepted
one. -/
theorem acknowledgementLaw_iff {remote : IndividualAddress} {s : TransportLayer}
    (hs : Listening remote s) (frames : List NDataFrame)
    (hdata : ∀ frame ∈ frames, IsConnectedData remote frame) :
    Along handleNetworkRx (AcknowledgementLaw s.delivered.length) s frames ↔
      RepeatsAccepted 0 none (frames.map numberOf) :=
  hs.progress.along_iff frames hdata

theorem listening_openedByPeer : Listening ⟨0x1102⟩ openedByPeer where
  initialized := by decide
  callback := by decide
  accepts := by
    intro transform h
    cases h
  reliable := ⟨by decide, by decide⟩
  opened := by
    have hlen : openedByPeer.connectionTable.connections.length = 1 := by decide
    obtain ⟨e, he⟩ := List.length_eq_one_iff.mp hlen
    have hall : ∀ e ∈ openedByPeer.connectionTable.connections, e.remoteAddress = ⟨0x1102⟩ ∧
        e.stateMachine.state = .connected ∧ e.expectedRxSeq = 0 ∧ e.lastReceivedSeq = 0xFF := by
      decide
    exact ⟨e, he, hall e (by rw [he]; exact List.mem_cons_self)⟩

/-- Numbers 0, 0 and 1: the repetition of an accepted frame is acknowledged again. -/
theorem acknowledgementLaw_repeated_first :
    Along handleNetworkRx (AcknowledgementLaw openedByPeer.delivered.length) openedByPeer
      [fromPeer [0x43, 0x00], fromPeer [0x43, 0x00], fromPeer [0x47, 0x00]] := by
  refine (acknowledgementLaw_iff listening_openedByPeer _ (by decide)).mpr ?_
  have hnumbers : [fromPeer [0x43, 0x00], fromPeer [0x43, 0x00], fromPeer [0x47, 0x00]].map numberOf
      = [0, 0, 1] := by decide
  rw [hnumbers]
  simp [RepeatsAccepted]

/-- Number 5 twice on a new connection: the first frame is refused, the second acknowledged although
nothing has been handed up. -/
theorem refused_then_acknowledged :
    ¬ Along handleNetworkRx (AcknowledgementLaw openedByPeer.delivered.length) openedByPeer
      [fromPeer [0x57, 0x00], fromPeer [0x57, 0x00]] := by
  rintro ⟨-, ⟨hacks, -⟩, -⟩
  have hmem : (5 : UInt8) ∈ ackNumbers (answers (openedByPeer.handleNetworkRx (fromPeer [0x57, 0x00]))
      ((openedByPeer.handleNetworkRx (fromPeer [0x57, 0x00])).handleNetworkRx (fromPeer [0x57, 0x00]))) := by
    decide
  exact absurd (hacks 5 hmem) (by decide)


end TransportLayer

end KnxStack.Transport
