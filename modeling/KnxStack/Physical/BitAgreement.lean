import KnxStack.Physical.BitSteps
import Mathlib.Logic.Relation

/-!
# Two drivers on a bus

A sender and a receiver on an ideal bus: the bus is low when either pulls it low, the fall is an edge
for the other one at that very time, and every alarm fires when it is due. `tick` is the next alarm of
the two.

A bit takes one bit time at both. At the start of a bit of a character (`AtBit`) the sender is about to
send it and the receiver is about to sample it half a bit later; the bits of a character and the gap
after it keep the two in step.

- `frame_received`: every frame arrives octet by octet, followed by its end without an error.
-/

set_option autoImplicit false

namespace KnxStack.Physical

/-! ## The bus -/

structure Bus where
  sender : Driver
  receiver : Driver
  deriving DecidableEq, Repr

namespace Bus

/-- One of the two pulls the bus low. -/
def low (b : Bus) : Bool := b.sender.dominant || b.receiver.dominant

/-- The sender's alarm; a fall of the bus is an edge for the receiver. -/
def fireSender (b : Bus) : Bus :=
  let sender := b.sender.onTimerAlarm b.low
  { sender := sender
    receiver :=
      if !b.low && sender.dominant then b.receiver.onRxEdge b.sender.armedAlarmUs else b.receiver }

/-- The receiver's alarm; a fall of the bus is an edge for the sender. -/
def fireReceiver (b : Bus) : Bus :=
  let receiver := b.receiver.onTimerAlarm b.low
  { receiver := receiver
    sender :=
      if !b.low && receiver.dominant then b.sender.onRxEdge b.receiver.armedAlarmUs else b.sender }

/-- The next alarm of the two. -/
def tick (b : Bus) : Bus :=
  if b.sender.armedAlarmOwner = .none then
    if b.receiver.armedAlarmOwner = .none then b else b.fireReceiver
  else if b.receiver.armedAlarmOwner = .none then b.fireSender
  else if b.sender.armedAlarmUs ≤ b.receiver.armedAlarmUs then b.fireSender
  else b.fireReceiver

/-- What the bus comes to. -/
abbrev Reaches : Bus → Bus → Prop := Relation.ReflTransGen fun b b' => b.tick = b'

end Bus

/-! ## Steps of the bus -/

section Steps

variable {s r : Driver}

theorem tick_sender (howner : s.armedAlarmOwner = .tx)
    (hfirst : r.armedAlarmOwner = .none ∨ s.armedAlarmUs ≤ r.armedAlarmUs) :
    Bus.tick ⟨s, r⟩ = Bus.fireSender ⟨s, r⟩ := by
  have hsome : ¬s.armedAlarmOwner = .none := by
    rw [howner]
    decide
  rw [Bus.tick, if_neg hsome]
  rcases hfirst with hnone | hle
  · rw [if_pos hnone]
  · rw [if_pos hle, ite_self]

theorem tick_receiver (howner : r.armedAlarmOwner = .rx)
    (hfirst : s.armedAlarmOwner = .none ∨ r.armedAlarmUs < s.armedAlarmUs) :
    Bus.tick ⟨s, r⟩ = Bus.fireReceiver ⟨s, r⟩ := by
  have hsome : ¬r.armedAlarmOwner = .none := by
    rw [howner]
    decide
  rw [Bus.tick, if_neg hsome, if_neg hsome]
  rcases hfirst with hnone | hlt
  · rw [if_pos hnone]
  · rw [if_neg (Nat.not_le.mpr hlt), ite_self]

theorem reaches_level (howner : s.armedAlarmOwner = .tx)
    (hfirst : r.armedAlarmOwner = .none ∨ s.armedAlarmUs ≤ r.armedAlarmUs)
    (hsilent : (s.onTimerAlarm (Bus.low ⟨s, r⟩)).dominant = false) :
    Bus.Reaches ⟨s, r⟩ ⟨s.onTimerAlarm (Bus.low ⟨s, r⟩), r⟩ := by
  apply Relation.ReflTransGen.single
  rw [tick_sender howner hfirst, Bus.fireSender, hsilent, Bool.and_false]
  rfl

theorem reaches_fall (howner : s.armedAlarmOwner = .tx)
    (hfirst : r.armedAlarmOwner = .none ∨ s.armedAlarmUs ≤ r.armedAlarmUs)
    (hhigh : Bus.low ⟨s, r⟩ = false) (hpulls : (s.onTimerAlarm false).dominant = true) :
    Bus.Reaches ⟨s, r⟩ ⟨s.onTimerAlarm false, r.onRxEdge s.armedAlarmUs⟩ := by
  apply Relation.ReflTransGen.single
  rw [tick_sender howner hfirst, Bus.fireSender, hhigh, hpulls]
  rfl

theorem reaches_receiver (howner : r.armedAlarmOwner = .rx)
    (hfirst : s.armedAlarmOwner = .none ∨ r.armedAlarmUs < s.armedAlarmUs)
    (hsilent : (r.onTimerAlarm (Bus.low ⟨s, r⟩)).dominant = false) :
    Bus.Reaches ⟨s, r⟩ ⟨s, r.onTimerAlarm (Bus.low ⟨s, r⟩)⟩ := by
  apply Relation.ReflTransGen.single
  rw [tick_receiver howner hfirst, Bus.fireReceiver, hsilent, Bool.and_false]
  rfl

end Steps

/-! ## A character on the bus -/

/-- The sender has just pulled the bus low for the start bit of `octet`. -/
structure Started (s r : Driver) (start : Nat) (octet : UInt8) (rest : List UInt8)
    (before : Driver) (octets : List UInt8) : Prop where
  sender : SenderAt s true 0 (start + 35) octet rest
  receiver : ∃ position, ReceiverAt r .startBitPending position true (start + 15) start before octets

/-- The bit at `position` is about to be sent, and the receiver samples it half a bit later. -/
structure AtBit (s r : Driver) (position start : Nat) (octet : UInt8) (rest : List UInt8)
    (before : Driver) (octets : List UInt8) : Prop where
  sender : SenderAt s false position (start + 104 * (position + 1)) octet rest
  receiver : ReceiverAt r .receive position false (start + 104 * (position + 1) + 52) start before
    octets
  received : r.rxByte.toNat = octet.toNat % 2 ^ min position 8

section Character

variable {s r before : Driver} {start : Nat} {octet : UInt8} {rest : List UInt8}
  {octets : List UInt8}

theorem Started.bits (h : Started s r start octet rest before octets) :
    ∃ s' r', Bus.Reaches ⟨s, r⟩ ⟨s', r'⟩ ∧ AtBit s' r' 0 start octet rest before octets := by
  obtain ⟨position, hreceiver⟩ := h.receiver
  have hlow : Bus.low ⟨s, r⟩ = true := by rw [Bus.low, h.sender.dominant, Bool.true_or]
  -- the receiver looks at the bus while it is low
  obtain ⟨hvalid, hzero⟩ := hreceiver.validate
  rw [← hlow] at hvalid hzero
  have hone := reaches_receiver (s := s) hreceiver.owner
    (.inr (by rw [hreceiver.armed, h.sender.armed]; omega)) hvalid.silent
  generalize r.onTimerAlarm (Bus.low ⟨s, r⟩) = r₁ at hvalid hzero hone
  -- the sender lets the bus go
  have hreleased := h.sender.release (Bus.low ⟨s, r₁⟩)
  have htwo := reaches_level (r := r₁) h.sender.owner
    (.inr (by rw [hvalid.armed, h.sender.armed]; omega)) hreleased.dominant
  generalize s.onTimerAlarm (Bus.low ⟨s, r₁⟩) = s₂ at hreleased htwo
  -- the receiver passes the middle of the start bit
  obtain ⟨hskipped, hbyte⟩ := hvalid.skipStart (Bus.low ⟨s₂, r₁⟩)
  have hthree := reaches_receiver (s := s₂) hvalid.owner
    (.inr (by rw [hvalid.armed, hreleased.armed]; omega)) hskipped.silent
  refine ⟨s₂, _, (hone.trans htwo).trans hthree, hreleased, hskipped, ?_⟩
  rw [hbyte, hzero]
  exact (Nat.mod_one _).symm

theorem AtBit.bit {position : Nat} (h : AtBit s r position start octet rest before octets)
    (hposition : position ≤ 8) :
    ∃ s' r', Bus.Reaches ⟨s, r⟩ ⟨s', r'⟩
      ∧ AtBit s' r' (position + 1) start octet rest before octets := by
  have harmed : s.armedAlarmUs ≤ r.armedAlarmUs := by
    rw [h.sender.armed, h.receiver.armed]
    omega
  have hnext : start + 104 * (position + 1) + 104 = start + 104 * (position + 1 + 1) := by omega
  have hnext' : start + 104 * (position + 1) + 52 + 104 = start + 104 * (position + 1 + 1) + 52 := by
    omega
  -- once the sender is at its next bit, the receiver samples what it has seen
  have hsampled : ∀ s' r', SenderAt s' false (position + 1 : Nat) (start + 104 * (position + 1 + 1))
        octet rest →
      ReceiverAt r' .receive position (!bitAt octet position) (start + 104 * (position + 1) + 52)
        start before octets →
      r'.rxByte = r.rxByte →
      ∃ r'', Bus.Reaches ⟨s', r'⟩ ⟨s', r''⟩
        ∧ AtBit s' r'' (position + 1) start octet rest before octets := by
    intro s' r' hsender hreceiver hbyte
    obtain ⟨hsample, hreceived⟩ := hreceiver.sample hposition (by rw [hbyte, h.received])
      (Bus.low ⟨s', r'⟩)
    rw [hnext'] at hsample
    have hreach := reaches_receiver (s := s') hreceiver.owner
      (.inr (by rw [hreceiver.armed, hsender.armed]; omega)) hsample.silent
    exact ⟨_, hreach, hsender, hsample, hreceived⟩
  cases hvalue : bitAt octet position with
  | true =>
    have hsent := h.sender.sendBit hposition (Bus.low ⟨s, r⟩)
    rw [hvalue, if_pos rfl, hnext] at hsent
    have hlevel := reaches_level h.sender.owner (.inr harmed) hsent.dominant
    obtain ⟨r', hreach, hat⟩ := hsampled _ r hsent (by rw [hvalue]; exact h.receiver) rfl
    exact ⟨_, r', hlevel.trans hreach, hat⟩
  | false =>
    have hhigh : Bus.low ⟨s, r⟩ = false := by
      rw [Bus.low, h.sender.dominant, h.receiver.silent]
      rfl
    have hsent := h.sender.sendBit hposition false
    rw [hvalue, if_neg (by decide)] at hsent
    have hfall := reaches_fall h.sender.owner (.inr harmed) hhigh hsent.dominant
    obtain ⟨hpulsed, hbyte⟩ := h.receiver.pulsed s.armedAlarmUs
    generalize s.onTimerAlarm false = s₁ at hsent hfall
    generalize r.onRxEdge s.armedAlarmUs = r₁ at hpulsed hbyte hfall
    have hreleased := hsent.release (Bus.low ⟨s₁, r₁⟩)
    have hlevel := reaches_level (r := r₁) hsent.owner
      (.inr (by rw [hsent.armed, hpulsed.armed]; omega)) hreleased.dominant
    have hdue : start + 104 * (position + 1) + 35 + 69 = start + 104 * (position + 1 + 1) := by omega
    rw [hdue] at hreleased
    obtain ⟨r', hreach, hat⟩ := hsampled _ r₁ hreleased (by rw [hvalue]; exact hpulsed) hbyte
    exact ⟨_, r', (hfall.trans hlevel).trans hreach, hat⟩

theorem AtBit.bits (h : AtBit s r 0 start octet rest before octets) :
    ∀ position, position ≤ 9 → ∃ s' r', Bus.Reaches ⟨s, r⟩ ⟨s', r'⟩
      ∧ AtBit s' r' position start octet rest before octets := by
  intro position
  induction position with
  | zero =>
    intro _
    exact ⟨s, r, Relation.ReflTransGen.refl, h⟩
  | succ position ih =>
    intro hposition
    obtain ⟨s₁, r₁, hreach, hat⟩ := ih (by omega)
    obtain ⟨s₂, r₂, hreach', hat'⟩ := hat.bit (by omega)
    exact ⟨s₂, r₂, hreach.trans hreach', hat'⟩

theorem AtBit.rxByte_eq (h : AtBit s r 9 start octet rest before octets) : r.rxByte = octet := by
  apply UInt8.toNat_inj.mp
  rw [h.received, Nat.min_eq_right (by omega)]
  exact Nat.mod_eq_of_lt octet.toNat_lt

theorem AtBit.queued (h : AtBit s r 9 start octet rest before octets) (s' : Driver)
    (hfirst : s'.armedAlarmOwner = .none ∨ start + 1092 < s'.armedAlarmUs) :
    ∃ r', Bus.Reaches ⟨s', r⟩ ⟨s', r'⟩
      ∧ ReceiverAt r' .waitMoreData 9 false (start + 1404) start before (octets ++ [octet]) := by
  have hstopped := h.receiver.stop h.rxByte_eq (Bus.low ⟨s', r⟩)
  have hreach := reaches_receiver (s := s') h.receiver.owner (by rw [h.receiver.armed]; exact hfirst)
    hstopped.silent
  exact ⟨_, hreach, hstopped⟩

theorem AtBit.gap {next : UInt8} (h : AtBit s r 9 start octet (next :: rest) before octets) :
    ∃ s' r', Bus.Reaches ⟨s, r⟩ ⟨s', r'⟩
      ∧ Started s' r' (start + 1352) next rest before (octets ++ [octet]) := by
  have hgone := h.sender.next (Bus.low ⟨s, r⟩)
  have hone := reaches_level h.sender.owner
    (.inr (by rw [h.sender.armed, h.receiver.armed]; omega)) hgone.dominant
  generalize s.onTimerAlarm (Bus.low ⟨s, r⟩) = s₁ at hgone hone
  obtain ⟨r₂, htwo, hwaits⟩ := h.queued s₁ (.inr (by rw [hgone.armed]; omega))
  have hhigh : Bus.low ⟨s₁, r₂⟩ = false := by
    rw [Bus.low, hgone.dominant, hwaits.silent]
    rfl
  have hstarted := hgone.start false
  have hthree := reaches_fall hgone.owner (.inr (by rw [hgone.armed, hwaits.armed]; omega)) hhigh
    hstarted.dominant
  have hcharacter := hwaits.nextCharacter
    (show s₁.armedAlarmUs ≤ start + 1664 by rw [hgone.armed]; omega)
  rw [hgone.armed] at hcharacter hthree
  exact ⟨_, _, (hone.trans htwo).trans hthree, hstarted, 9, hcharacter⟩

theorem AtBit.ended (h : AtBit s r 9 start octet [] before octets) :
    ∃ s' r' due, Bus.Reaches ⟨s, r⟩ ⟨s', r'⟩ ∧ Finished s' due
      ∧ Ended r' before (octets ++ [octet]) := by
  have hdone := h.sender.last (Bus.low ⟨s, r⟩)
  have hone := reaches_level h.sender.owner
    (.inr (by rw [h.sender.armed, h.receiver.armed]; omega)) hdone.silent
  generalize s.onTimerAlarm (Bus.low ⟨s, r⟩) = s₁ at hdone hone
  have hlater : s₁.armedAlarmOwner = .none ∨ start + 1404 < s₁.armedAlarmUs := by
    rcases hdone.waits with hnone | ⟨-, -, hdue, -⟩
    · exact .inl hnone
    · rw [hdue]
      right
      omega
  obtain ⟨r₂, htwo, hwaits⟩ := h.queued s₁ (hlater.imp id (by omega))
  have hended := hwaits.finish (Bus.low ⟨s₁, r₂⟩)
  have hthree := reaches_receiver (s := s₁) hwaits.owner (by rw [hwaits.armed]; exact hlater)
    hended.silent
  exact ⟨_, _, _, (hone.trans htwo).trans hthree, hdone, hended⟩

theorem Started.ended (h : Started s r start octet rest before octets) :
    ∃ s' r' due, Bus.Reaches ⟨s, r⟩ ⟨s', r'⟩ ∧ Finished s' due
      ∧ Ended r' before (octets ++ octet :: rest) := by
  induction rest generalizing s r start octet octets with
  | nil =>
    obtain ⟨s₁, r₁, hstart, hbits⟩ := h.bits
    obtain ⟨s₂, r₂, hreach, hstop⟩ := hbits.bits 9 le_rfl
    obtain ⟨s₃, r₃, due, hend, hfinished, hended⟩ := hstop.ended
    exact ⟨s₃, r₃, due, (hstart.trans hreach).trans hend, hfinished, hended⟩
  | cons next rest ih =>
    obtain ⟨s₁, r₁, hstart, hbits⟩ := h.bits
    obtain ⟨s₂, r₂, hreach, hstop⟩ := hbits.bits 9 le_rfl
    obtain ⟨s₃, r₃, hgap, hnext⟩ := hstop.gap
    obtain ⟨s₄, r₄, due, hend, hfinished, hended⟩ := ih hnext
    rw [List.append_assoc] at hended
    exact ⟨s₄, r₄, due, ((hstart.trans hreach).trans hgap).trans hend, hfinished, hended⟩

end Character

/-! ## A frame on the bus -/

section Frame

variable {s r : Driver} {octet : UInt8} {rest : List UInt8}

theorem Waiting.started {alarm : Nat} (h : Waiting s alarm octet rest) (hr : Idle r)
    (hwait : 104 * s.txWaitTime ≤ alarm - s.lastCharStartUs) :
    ∃ s' r', Bus.Reaches ⟨s, r⟩ ⟨s', r'⟩ ∧ Started s' r' alarm octet rest r [] := by
  have hhigh : Bus.low ⟨s, r⟩ = false := by
    rw [Bus.low, h.silent, hr.silent]
    rfl
  have hstarted := h.start hwait false
  have hfall := reaches_fall h.owner (.inl hr.owner) hhigh hstarted.dominant
  have hfirst := hr.firstCharacter s.armedAlarmUs
  rw [h.armed] at hfirst hfall
  exact ⟨_, _, hfall, hstarted, _, hfirst⟩

theorem Waiting.starts {alarm : Nat} (h : Waiting s alarm octet rest) (hr : Idle r) :
    ∃ s' r' start, Bus.Reaches ⟨s, r⟩ ⟨s', r'⟩ ∧ Started s' r' start octet rest r [] := by
  by_cases hwait : 104 * s.txWaitTime ≤ alarm - s.lastCharStartUs
  · obtain ⟨s', r', hreach, hstarted⟩ := h.started hr hwait
    exact ⟨s', r', _, hreach, hstarted⟩
  · obtain ⟨hwaiting, htime, hlast⟩ := h.wait hwait (Bus.low ⟨s, r⟩)
    have hone := reaches_level h.owner (.inl hr.owner) hwaiting.silent
    generalize s.onTimerAlarm (Bus.low ⟨s, r⟩) = s₁ at hwaiting htime hlast hone
    obtain ⟨s', r', hreach, hstarted⟩ := hwaiting.started hr (by rw [htime, hlast]; omega)
    exact ⟨s', r', _, hone.trans hreach, hstarted⟩

theorem quiet_after {due : Nat} (hs : Finished s due) (hr : Idle r) {b : Bus}
    (h : Bus.Reaches ⟨s, r⟩ b) : b.receiver = r := by
  have hquiet : Finished b.sender due ∧ b.receiver = r := by
    induction h with
    | refl => exact ⟨hs, rfl⟩
    | @tail b' b'' _ hstep ih =>
      obtain ⟨hsender, hreceiver⟩ := ih
      obtain ⟨s₁, r₁⟩ := b'
      obtain rfl : r₁ = r := hreceiver
      rw [← hstep]
      by_cases hnone : s₁.armedAlarmOwner = .none
      · rw [Bus.tick, if_pos hnone, if_pos hr.owner]
        exact ⟨hsender, rfl⟩
      · have hnext := hsender.onTimerAlarm hnone (Bus.low ⟨s₁, r₁⟩)
        have hdominant : (s₁.onTimerAlarm (Bus.low ⟨s₁, r₁⟩)).dominant = false := hnext.silent
        rw [Bus.tick, if_neg hnone, if_pos hr.owner, Bus.fireSender, hdominant, Bool.and_false]
        exact ⟨hnext, rfl⟩
  exact hquiet.2

/-- Bit-level agreement. Every frame of 1 to 263 octets that an idle driver sends arrives at an idle
driver on the bus octet by octet, followed by its end without an error. Among them are only the notes of
an acknowledgement that the receiver arms, where `reports` has them; for a frame that does not address
it there is none, and nothing is queued after the end. -/
theorem frame_received (sender receiver : Driver) (hsender : Idle sender) (hreceiver : Idle receiver)
    (frame : List UInt8) (hframe : frame ≠ []) (hlength : frame.length ≤ maxTelegramSize)
    (nowUs : Nat) :
    (sender.send frame nowUs).2 = true
      ∧ (receiver.reports frame).filter Message.ofFrame = frame.map .data ++ [.frameEnd 0]
      ∧ (receiver.reports frame).all Message.ofFrame
        = !receiver.header.decides receiver.published frame
      ∧ ∃ b, Bus.Reaches ⟨(sender.send frame nowUs).1, receiver⟩ b
        ∧ b.receiver.rxState = .idle
        ∧ b.receiver.messages = receiver.messages ++ receiver.reports frame
        ∧ (receiver.header.decides receiver.published frame = false →
          ∀ b', Bus.Reaches b b' → b'.receiver.messages = b.receiver.messages) := by
  have hnotes := all_reports receiver frame (hlength.trans (by decide))
  refine ⟨?_, filter_reports receiver frame, hnotes, ?_⟩
  · obtain ⟨octet, rest, rfl⟩ := List.exists_cons_of_ne_nil hframe
    exact (hsender.send hlength nowUs).1
  · obtain ⟨octet, rest, rfl⟩ := List.exists_cons_of_ne_nil hframe
    obtain ⟨s₁, r₁, start, hwait, hstarted⟩ := (hsender.send hlength nowUs).2.starts hreceiver
    obtain ⟨s₂, r₂, due, hreach, hfinished, hended⟩ := hstarted.ended
    refine ⟨⟨s₂, r₂⟩, hwait.trans hreach, hended.state, hended.messages, ?_⟩
    intro hother b' hafter
    rw [hother] at hnotes
    rw [quiet_after hfinished (hended.idle hnotes) hafter]

/-- A frame without a destination, from one driver to another. -/
theorem frame_received_octets :
    (({} : Driver).send [0x10, 0xA5, 0x00] 7).2 = true
      ∧ (({} : Driver).reports [0x10, 0xA5, 0x00]).filter Message.ofFrame
        = [0x10, 0xA5, 0x00].map .data ++ [.frameEnd 0]
      ∧ (({} : Driver).reports [0x10, 0xA5, 0x00]).all Message.ofFrame
        = !({} : Driver).header.decides ({} : Driver).published [0x10, 0xA5, 0x00]
      ∧ ∃ b, Bus.Reaches ⟨(({} : Driver).send [0x10, 0xA5, 0x00] 7).1, {}⟩ b
        ∧ b.receiver.rxState = .idle
        ∧ b.receiver.messages = ({} : Driver).messages ++ ({} : Driver).reports [0x10, 0xA5, 0x00]
        ∧ (({} : Driver).header.decides ({} : Driver).published [0x10, 0xA5, 0x00] = false →
          ∀ b', Bus.Reaches b b' → b'.receiver.messages = b.receiver.messages) :=
  frame_received {} {} idle_default idle_default [0x10, 0xA5, 0x00] (by decide) (by decide) 7

end Frame

theorem reaches_iterate (b : Bus) (alarms : Nat) : Bus.Reaches b (Bus.tick^[alarms] b) := by
  induction alarms generalizing b with
  | zero => exact Relation.ReflTransGen.refl
  | succ alarms ih => exact Relation.ReflTransGen.head rfl (ih b.tick)

/-- The note of an acknowledgement stands among the octets: a telegram to the group address 0/0/0
arms one at every driver, after its sixth octet. -/
theorem broadcast_noted :
    ∃ b, Bus.Reaches ⟨(({} : Driver).send [0xB0, 0x11, 0x01, 0x00, 0x00, 0xE0] 0).1, {}⟩ b
      ∧ .earlyAckArmed 0xCC ∈ b.receiver.messages
      ∧ ¬b.receiver.messages <+: [0xB0, 0x11, 0x01, 0x00, 0x00, 0xE0].map .data ++ [.frameEnd 0] :=
  ⟨_, reaches_iterate _ 200, by decide +kernel, by decide +kernel⟩

end KnxStack.Physical
