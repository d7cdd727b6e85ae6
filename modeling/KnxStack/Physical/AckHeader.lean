import KnxStack.Physical.BitBangDriver

/-!
# The header of a telegram at the driver

The driver picks the destination out of the octets of a telegram while they come in, by a counter of the
octets with a good stop bit (`rxHandleStop`). The counter has eight bits: after 256 octets it starts over
and takes what follows for a header.

- `header_followHeader`: the fields of the driver follow the octets as `Header.follow` does.
- `Header.pending_octets`: what the counter makes of the octets, a pass of 256 at a time.
- `Header.report_pass`: where the driver notes a decision among the octets that it queues.
-/

set_option autoImplicit false

namespace KnxStack.Physical

open KnxStack.Lib.Words

/-- Messages other than the note that an acknowledgement is armed. -/
def Message.ofFrame : Message → Bool
  | .earlyAckArmed _ => false
  | _ => true

/-! ## The header by its octets -/

/-- What the stack published to the driver. -/
structure Published where
  ownAddressRaw : UInt16
  localBusy : Bool
  ackGroupAddresses : List UInt16
  deriving DecidableEq, Repr

namespace Published

/-- A destination of this device: its own individual address, the group broadcast, or a group address
of the table. -/
def isDestination (p : Published) (isGroupAddressed : Bool) (destRaw : UInt16) : Bool :=
  if isGroupAddressed then destRaw == 0x0000 || p.ackGroupAddresses.contains destRaw
  else p.ownAddressRaw != 0 && destRaw != 0xFFFF && destRaw == p.ownAddressRaw

/-- The header at the front of the octets addresses this device. An extended frame has its address type
in the second octet and its destination one octet later. -/
def addresses (p : Published) : List UInt8 → Bool
  | ctrl :: ctrle :: _ :: third :: fourth :: fifth :: _ =>
    if ctrl &&& 0xC0 == 0x00 then p.isDestination (ctrle &&& 0x80 != 0) (joinBytes fourth fifth)
    else p.isDestination (fifth &&& 0x80 != 0) (joinBytes third fourth)
  | _ => false

/-- The octet that the device acknowledges with when all went well. -/
def ackByte (p : Published) : UInt8 := if p.localBusy then ackByteBusy else ackByteAck

theorem ackByte_ne_zero (p : Published) : p.ackByte ≠ 0 := by
  unfold ackByte
  split <;> decide

end Published

/-- The fields by which the driver follows a header. -/
structure Header where
  count : UInt8 := 0
  extended : Bool := false
  extGroupAddressed : Bool := false
  dstHi : UInt8 := 0
  dstLo : UInt8 := 0
  pendingAckByte : UInt8 := 0
  deriving DecidableEq, Repr

namespace Header

variable {p : Published} {h : Header}

/-- The header where a telegram begins: the decision about another one is forgotten. -/
def begun (h : Header) : Header := { h with pendingAckByte := 0 }

/-- The decision, at the last octet of the address. -/
def arm (h : Header) (p : Published) (isGroupAddressed : Bool) : Header :=
  if p.isDestination isGroupAddressed (joinBytes h.dstHi h.dstLo) then
    { h with pendingAckByte := p.ackByte }
  else h

/-- One octet that is counted. -/
def follow (p : Published) (h : Header) (octet : UInt8) : Header :=
  let followed :=
    if h.count = 0 then { h with extended := octet &&& 0xC0 == 0x00 }
    else if h.extended then
      if h.count = 1 then { h with extGroupAddressed := octet &&& 0x80 != 0 }
      else if h.count = 4 then { h with dstHi := octet }
      else if h.count = 5 then ({ h with dstLo := octet }).arm p h.extGroupAddressed
      else h
    else
      if h.count = 3 then { h with dstHi := octet }
      else if h.count = 4 then { h with dstLo := octet }
      else if h.count = 5 then h.arm p (octet &&& 0x80 != 0)
      else h
  { followed with count := followed.count + 1 }

theorem follow_behind (hcount : 6 ≤ h.count.toNat) (octet : UInt8) :
    follow p h octet = { h with count := h.count + 1 } := by
  have hne : ∀ position : UInt8, position.toNat < 6 → h.count ≠ position := by
    intro position hposition hsame
    rw [hsame] at hcount
    omega
  unfold follow
  rw [if_neg (hne 0 (by decide)), if_neg (hne 1 (by decide)), if_neg (hne 4 (by decide)),
    if_neg (hne 5 (by decide)), if_neg (hne 3 (by decide)), if_neg (hne 4 (by decide)),
    if_neg (hne 5 (by decide)), ite_self]

theorem follow_octets_behind (octets : List UInt8) (hcount : 6 ≤ h.count.toNat)
    (hroom : h.count.toNat + octets.length ≤ 256) :
    octets.foldl (follow p) h = { h with count := h.count + UInt8.ofNat octets.length } := by
  induction octets generalizing h with
  | nil => simp
  | cons octet octets ih =>
    rw [List.length_cons] at hroom
    rw [List.foldl_cons, follow_behind hcount]
    -- The last octet of a pass wraps the counter to zero, so the hypothesis of the induction is only
    -- there while others follow.
    by_cases hlast : octets = []
    · subst hlast
      rfl
    · have hmore : 0 < octets.length := List.length_pos_iff.mpr hlast
      have hnext : (h.count + 1).toNat = h.count.toNat + 1 := by
        rw [UInt8.toNat_add, UInt8.toNat_one]
        omega
      rw [ih (by change 6 ≤ (h.count + 1).toNat; omega)
        (by change (h.count + 1).toNat + _ ≤ 256; omega)]
      change ({ h with count := h.count + 1 + UInt8.ofNat octets.length } : Header) = _
      rw [List.length_cons, UInt8.add_assoc, UInt8.ofNat_add, UInt8.add_comm 1]
      rfl

theorem count_follow (octet : UInt8) : (follow p h octet).count = h.count + 1 := by
  have harm : ∀ (h : Header) isGroupAddressed, (h.arm p isGroupAddressed).count = h.count := by
    intro h isGroupAddressed
    unfold arm
    split <;> rfl
  unfold follow
  dsimp only
  split
  · rfl
  · split
    · split
      · rfl
      · split
        · rfl
        · split
          · rw [harm]
          · rfl
    · split
      · rfl
      · split
        · rfl
        · split
          · rw [harm]
          · rfl

theorem count_follow_octets (octets : List UInt8) :
    (octets.foldl (follow p) h).count = h.count + UInt8.ofNat octets.length := by
  induction octets generalizing h with
  | nil => simp
  | cons octet octets ih =>
    rw [List.foldl_cons, ih, count_follow, List.length_cons, UInt8.add_assoc, UInt8.ofNat_add,
      UInt8.add_comm 1]
    rfl

/-- The octet completes a destination of this device. -/
def completes (p : Published) (h : Header) (octet : UInt8) : Bool :=
  h.count == 5
    && if h.extended then p.isDestination h.extGroupAddressed (joinBytes h.dstHi octet)
      else p.isDestination (octet &&& 0x80 != 0) (joinBytes h.dstHi h.dstLo)

theorem pending_follow (octet : UInt8) :
    (follow p h octet).pendingAckByte
      = if completes p h octet then p.ackByte else h.pendingAckByte := by
  obtain ⟨count, extended, group, hi, lo, pending⟩ := h
  by_cases hlast : count = 5
  · subst hlast
    cases extended with
    | true =>
      simp [follow, completes, arm]
      split <;> rfl
    | false =>
      simp [follow, completes, arm]
      split <;> rfl
  · have hnot : completes p ⟨count, extended, group, hi, lo, pending⟩ octet = false := by
      simp [completes, hlast]
    rw [hnot, if_neg Bool.false_ne_true]
    unfold follow
    rw [if_neg (c := count = 5) hlast, if_neg (c := count = 5) hlast]
    dsimp only
    split_ifs <;> rfl

theorem pending_follow_early {octet : UInt8} (hcount : h.count.toNat < 5) :
    (follow p h octet).pendingAckByte = h.pendingAckByte := by
  have hnot : (h.count == 5) = false := by
    apply beq_false_of_ne
    intro hfive
    rw [hfive] at hcount
    exact absurd hcount (by decide)
  rw [pending_follow, completes, hnot, Bool.false_and]
  rfl

theorem pending_follow_octets_early (octets : List UInt8) (hfew : h.count.toNat + octets.length < 6) :
    (octets.foldl (follow p) h).pendingAckByte = h.pendingAckByte := by
  induction octets generalizing h with
  | nil => rfl
  | cons octet octets ih =>
    rw [List.length_cons] at hfew
    have hnext : (follow p h octet).count.toNat = h.count.toNat + 1 := by
      rw [count_follow, UInt8.toNat_add, UInt8.toNat_one]
      omega
    rw [List.foldl_cons, ih (by omega), pending_follow_early (by omega)]

theorem pending_six (hcount : h.count = 0) (ctrl ctrle second third fourth fifth : UInt8)
    (rest : List UInt8) :
    ([ctrl, ctrle, second, third, fourth, fifth].foldl (follow p) h).pendingAckByte
      = if p.addresses (ctrl :: ctrle :: second :: third :: fourth :: fifth :: rest) then p.ackByte
        else h.pendingAckByte := by
  obtain ⟨count, extended, group, hi, lo, pending⟩ := h
  subst hcount
  -- The first octet says where the address is; what an earlier pass left is overwritten before it is
  -- read.
  cases hextended : ctrl &&& 0xC0 == 0x00 with
  | true =>
    simp [follow, hextended, arm, Published.addresses]
    split <;> rfl
  | false =>
    simp [follow, hextended, arm, Published.addresses]
    split <;> rfl

/-- A pass: from a count of zero, the first six octets decide, and the others up to 256 do not. -/
theorem pending_pass (hcount : h.count = 0) (octets : List UInt8) (hroom : octets.length ≤ 256) :
    (octets.foldl (follow p) h).pendingAckByte
      = if p.addresses octets then p.ackByte else h.pendingAckByte := by
  match octets with
  | ctrl :: ctrle :: second :: third :: fourth :: fifth :: rest =>
    have hsix := pending_six (p := p) hcount ctrl ctrle second third fourth fifth rest
    have hcounted : ([ctrl, ctrle, second, third, fourth, fifth].foldl (follow p) h).count = 6 := by
      rw [count_follow_octets, hcount]
      rfl
    have hsplit : (ctrl :: ctrle :: second :: third :: fourth :: fifth :: rest)
        = [ctrl, ctrle, second, third, fourth, fifth] ++ rest := rfl
    have hsixth : (6 : UInt8).toNat = 6 := rfl
    simp only [List.length_cons] at hroom
    rw [← hsix, hsplit, List.foldl_append]
    rw [follow_octets_behind rest (by rw [hcounted, hsixth]) (by rw [hcounted, hsixth]; omega)]
  -- A telegram without a whole header decides nothing.
  | [] | [_] | [_, _] | [_, _, _] | [_, _, _, _] | [_, _, _, _, _] =>
    rw [pending_follow_octets_early _ (by simp [hcount])]
    rfl

theorem addresses_take (octets : List UInt8) {count : Nat} (hcount : 6 ≤ count) :
    p.addresses (octets.take count) = p.addresses octets := by
  obtain ⟨more, rfl⟩ := Nat.exists_eq_add_of_le' hcount
  match octets with
  | _ :: _ :: _ :: _ :: _ :: _ :: _ => rfl
  | [] | [_] | [_, _] | [_, _, _] | [_, _, _, _] | [_, _, _, _, _] => rfl

theorem pending_wrapped (hcount : h.count = 0) (octets : List UInt8) (hroom : octets.length ≤ 512) :
    (octets.foldl (follow p) h).pendingAckByte
      = if p.addresses octets || p.addresses (octets.drop 256) then p.ackByte
        else h.pendingAckByte := by
  by_cases hlong : 256 ≤ octets.length
  · -- The second pass starts from whatever the first one left, but from a count of zero.
    have hwrapped : ((octets.take 256).foldl (follow p) h).count = 0 := by
      rw [count_follow_octets, hcount, List.length_take, Nat.min_eq_left hlong]
      rfl
    conv_lhs => rw [← List.take_append_drop 256 octets]
    rw [List.foldl_append, pending_pass hwrapped _ (by rw [List.length_drop]; omega),
      pending_pass hcount _ (by rw [List.length_take]; omega), addresses_take octets (by decide)]
    cases p.addresses octets <;> cases p.addresses (octets.drop 256) <;> rfl
  · have hnone : octets.drop 256 = [] := List.drop_eq_nil_of_le (by omega)
    rw [pending_pass hcount _ (by omega), hnone]
    cases p.addresses octets <;> rfl

/-- What the driver keeps of a header that it has begun to count: octets that it would follow to the
same state. -/
def heard (h : Header) : List UInt8 :=
  let group : UInt8 := if h.extGroupAddressed then 0x80 else 0x00
  (if h.extended then [0x00, group, 0x00, 0x00, h.dstHi]
    else [0x80, 0x00, 0x00, h.dstHi, h.dstLo]).take h.count.toNat

theorem length_heard (hcount : h.count.toNat < 6) : h.heard.length = h.count.toNat := by
  rw [heard]
  cases h.extended
  · exact List.length_take_of_le (by simp; omega)
  · exact List.length_take_of_le (by simp; omega)

theorem follow_heard (hcount : h.count.toNat < 6) :
    h.heard.foldl (follow p) { h with count := 0 } = h := by
  obtain ⟨count, extended, group, hi, lo, pending⟩ := h
  obtain ⟨n, hn, rfl⟩ : ∃ n < 6, count = UInt8.ofNat n :=
    ⟨count.toNat, hcount, UInt8.ofNat_toNat.symm⟩
  have hstandard : (0x80 : UInt8) &&& 0xC0 = 0x80 := by decide
  interval_cases n <;> cases extended <;> cases group <;> simp [heard, follow, hstandard]

/-- Whether the octets end a header that addresses this device: the one that was begun, or one that the
counter begins where it wraps. -/
def decides (p : Published) (h : Header) (octets : List UInt8) : Bool :=
  (h.count.toNat < 6 && p.addresses (h.heard ++ octets))
    || p.addresses (octets.drop (256 - h.count.toNat))
    || p.addresses (octets.drop (512 - h.count.toNat))

theorem pending_begun (octets : List UInt8) (hroom : h.count.toNat + octets.length ≤ 256) :
    (octets.foldl (follow p) h).pendingAckByte
      = if h.count.toNat < 6 && p.addresses (h.heard ++ octets) then p.ackByte
        else h.pendingAckByte := by
  by_cases hbegun : h.count.toNat < 6
  · have hwhole := pending_pass (p := p) (h := { h with count := 0 }) rfl (h.heard ++ octets)
      (by rw [List.length_append, length_heard hbegun]; exact hroom)
    rw [List.foldl_append, follow_heard hbegun] at hwhole
    rw [hwhole, decide_eq_true hbegun, Bool.true_and]
  · rw [follow_octets_behind octets (Nat.not_lt.mp hbegun) hroom, decide_eq_false hbegun,
      Bool.false_and]
    rfl

theorem pending_octets (octets : List UInt8) (hroom : octets.length ≤ 512) :
    (octets.foldl (follow p) h).pendingAckByte
      = if decides p h octets then p.ackByte else h.pendingAckByte := by
  have hbound := h.count.toNat_lt
  have hleft : octets.drop (512 - h.count.toNat)
      = (octets.drop (256 - h.count.toNat)).drop 256 := by
    rw [List.drop_drop]
    congr 1
    omega
  rw [decides, hleft]
  by_cases hlong : 256 - h.count.toNat ≤ octets.length
  · have hwrapped : ((octets.take (256 - h.count.toNat)).foldl (follow p) h).count = 0 := by
      rw [count_follow_octets, List.length_take, Nat.min_eq_left hlong]
      apply UInt8.toNat_inj.mp
      rw [UInt8.toNat_add, UInt8.toNat_ofNat']
      change _ = 0
      omega
    have hfirst : (decide (h.count.toNat < 6)
        && p.addresses (h.heard ++ octets.take (256 - h.count.toNat)))
          = (decide (h.count.toNat < 6) && p.addresses (h.heard ++ octets)) := by
      by_cases hbegun : h.count.toNat < 6
      · have hpass : h.heard ++ octets.take (256 - h.count.toNat)
            = (h.heard ++ octets).take (h.heard.length + (256 - h.count.toNat)) :=
          (List.take_length_add_append _).symm
        rw [hpass, addresses_take _ (by rw [length_heard hbegun]; omega)]
      · rw [decide_eq_false hbegun, Bool.false_and, Bool.false_and]
    conv_lhs => rw [← List.take_append_drop (256 - h.count.toNat) octets]
    rw [List.foldl_append, pending_wrapped hwrapped _ (by rw [List.length_drop]; omega),
      pending_begun _ (by rw [List.length_take]; omega), hfirst]
    cases (decide (h.count.toNat < 6) && p.addresses (h.heard ++ octets)) <;>
      cases p.addresses (octets.drop (256 - h.count.toNat)) <;>
      cases p.addresses ((octets.drop (256 - h.count.toNat)).drop 256) <;> rfl
  · have hnone : octets.drop (256 - h.count.toNat) = [] := List.drop_eq_nil_of_le (by omega)
    rw [pending_begun _ (by omega), hnone]
    cases (decide (h.count.toNat < 6) && p.addresses (h.heard ++ octets)) <;> rfl

/-! ### The notes of the decisions -/

/-- The note that is queued behind the octet. -/
def notes (p : Published) (h : Header) (octet : UInt8) : List Message :=
  if completes p h octet then [.earlyAckArmed p.ackByte] else []

/-- What is queued for octets that are counted. -/
def report (p : Published) (h : Header) : List UInt8 → List Message
  | [] => []
  | octet :: octets => .data octet :: (notes p h octet ++ report p (follow p h octet) octets)

theorem report_append (octets more : List UInt8) :
    report p h (octets ++ more)
      = report p h octets ++ report p (octets.foldl (follow p) h) more := by
  induction octets generalizing h with
  | nil => rfl
  | cons octet octets ih =>
    rw [List.cons_append, report, ih, report, List.foldl_cons]
    simp only [List.cons_append, List.append_assoc]

theorem filter_report (octets : List UInt8) :
    (report p h octets).filter Message.ofFrame = octets.map .data := by
  induction octets generalizing h with
  | nil => rfl
  | cons octet octets ih =>
    have hnotes : (notes p h octet).filter Message.ofFrame = [] := by
      unfold notes
      split <;> rfl
    rw [report, List.filter_cons_of_pos rfl, List.filter_append, hnotes, ih]
    rfl

/-- A note is queued if and only if an acknowledgement is armed. -/
theorem pending_report (octets : List UInt8) :
    (octets.foldl (follow p) h).pendingAckByte
      = if (report p h octets).all Message.ofFrame then h.pendingAckByte else p.ackByte := by
  induction octets generalizing h with
  | nil => rfl
  | cons octet octets ih =>
    rw [List.foldl_cons, ih, pending_follow, report, List.all_cons, List.all_append, notes]
    cases completes p h octet <;> cases (report p (follow p h octet) octets).all Message.ofFrame <;>
      rfl

theorem all_report (hnone : h.pendingAckByte = 0) (octets : List UInt8)
    (hroom : octets.length ≤ 512) :
    (report p h octets).all Message.ofFrame = !decides p h octets := by
  -- Both sides say what is pending after the octets, and no acknowledgement is the octet zero.
  have hpending := (pending_report (p := p) (h := h) octets).symm.trans (pending_octets octets hroom)
  rw [hnone] at hpending
  have hack := p.ackByte_ne_zero
  cases hall : (report p h octets).all Message.ofFrame <;> cases hdecides : decides p h octets
  all_goals rw [hall, hdecides] at hpending
  · exact absurd hpending hack
  · rfl
  · rfl
  · exact absurd hpending.symm hack

theorem report_behind (octets : List UInt8) (hcount : 6 ≤ h.count.toNat)
    (hroom : h.count.toNat + octets.length ≤ 256) : report p h octets = octets.map .data := by
  induction octets generalizing h with
  | nil => rfl
  | cons octet octets ih =>
    rw [List.length_cons] at hroom
    have hnotes : notes p h octet = [] := by
      have hlate : (h.count == 5) = false := by
        apply beq_false_of_ne
        intro hfive
        rw [hfive] at hcount
        exact absurd hcount (by decide)
      rw [notes, completes, hlate]
      rfl
    rw [report, hnotes, follow_behind hcount, List.nil_append, List.map_cons]
    -- The last octet of a pass wraps the counter, as in `follow_octets_behind`.
    by_cases hlast : octets = []
    · subst hlast
      rfl
    · have hmore : 0 < octets.length := List.length_pos_iff.mpr hlast
      have hnext : (h.count + 1).toNat = h.count.toNat + 1 := by
        rw [UInt8.toNat_add, UInt8.toNat_one]
        omega
      rw [ih (by change 6 ≤ (h.count + 1).toNat; omega)
        (by change (h.count + 1).toNat + _ ≤ 256; omega)]

/-- In the first pass the decision is noted once, behind the sixth octet of a telegram that addresses
this device. -/
theorem report_pass (hcount : h.count = 0) (octets : List UInt8) (hroom : octets.length ≤ 256) :
    report p h octets
      = (octets.take 6).map .data ++ (if p.addresses octets then [.earlyAckArmed p.ackByte] else [])
        ++ (octets.drop 6).map .data := by
  match octets with
  | ctrl :: ctrle :: second :: third :: fourth :: fifth :: rest =>
    have hcounted : ([ctrl, ctrle, second, third, fourth, fifth].foldl (follow p) h).count = 6 := by
      rw [count_follow_octets, hcount]
      rfl
    have hsixth : (6 : UInt8).toNat = 6 := rfl
    have hsplit : (ctrl :: ctrle :: second :: third :: fourth :: fifth :: rest)
        = [ctrl, ctrle, second, third, fourth, fifth] ++ rest := rfl
    simp only [List.length_cons] at hroom
    rw [hsplit, report_append,
      report_behind rest (by rw [hcounted, hsixth]) (by rw [hcounted, hsixth]; omega)]
    obtain ⟨count, extended, group, hi, lo, pending⟩ := h
    subst hcount
    cases hextended : ctrl &&& 0xC0 == 0x00 with
    | true => simp [report, notes, completes, follow, hextended, Published.addresses]
    | false => simp [report, notes, completes, follow, hextended, Published.addresses]
  -- A telegram without a whole header decides nothing.
  | [] | [_] | [_, _] | [_, _, _] | [_, _, _, _] | [_, _, _, _, _] =>
    obtain ⟨count, extended, group, hi, lo, pending⟩ := h
    subst hcount
    simp [report, notes, completes, count_follow, Published.addresses]

end Header

/-! ## The header at the driver -/

namespace Driver

/-- The fields that follow the header. -/
def header (d : Driver) : Header where
  count := d.rxByteCount
  extended := d.rxExtendedFrame
  extGroupAddressed := d.rxExtGroupAddressed
  dstHi := d.rxDstHi
  dstLo := d.rxDstLo
  pendingAckByte := d.pendingAckByte

/-- What was published to the driver. -/
def published (d : Driver) : Published where
  ownAddressRaw := d.ownAddressRaw
  localBusy := d.localBusy
  ackGroupAddresses := d.ackGroupAddresses

end Driver

theorem armEarlyAckIfAddressed_eq (d : Driver) (isGroupAddressed : Bool) :
    d.armEarlyAckIfAddressed isGroupAddressed
      = if d.published.isDestination isGroupAddressed (joinBytes d.rxDstHi d.rxDstLo) then
          ({ d with pendingAckByte := d.published.ackByte }).queueMessage
            (.earlyAckArmed d.published.ackByte)
        else d := rfl

theorem header_armEarlyAckIfAddressed (d : Driver) (isGroupAddressed : Bool) :
    (d.armEarlyAckIfAddressed isGroupAddressed).header
      = d.header.arm d.published isGroupAddressed := by
  rw [armEarlyAckIfAddressed_eq]
  unfold Header.arm
  by_cases haddressed : d.published.isDestination isGroupAddressed (joinBytes d.rxDstHi d.rxDstLo)
  · rw [if_pos haddressed, if_pos (show d.published.isDestination isGroupAddressed
      (joinBytes d.header.dstHi d.header.dstLo) = true from haddressed)]
    rfl
  · rw [if_neg haddressed, if_neg (show ¬ d.published.isDestination isGroupAddressed
      (joinBytes d.header.dstHi d.header.dstLo) = true from haddressed)]

/-- The driver follows the header as `Header.follow` does. -/
theorem header_followHeader (d : Driver) :
    ({ d.followHeader with rxByteCount := d.followHeader.rxByteCount + 1 } : Driver).header
      = d.header.follow d.published d.rxByte := by
  have hfollowed : d.followHeader.header
      = if d.header.count = 0 then { d.header with extended := d.rxByte &&& 0xC0 == 0x00 }
        else if d.header.extended then
          if d.header.count = 1 then { d.header with extGroupAddressed := d.rxByte &&& 0x80 != 0 }
          else if d.header.count = 4 then { d.header with dstHi := d.rxByte }
          else if d.header.count = 5 then
            ({ d.header with dstLo := d.rxByte } : Header).arm d.published d.header.extGroupAddressed
          else d.header
        else
          if d.header.count = 3 then { d.header with dstHi := d.rxByte }
          else if d.header.count = 4 then { d.header with dstLo := d.rxByte }
          else if d.header.count = 5 then d.header.arm d.published (d.rxByte &&& 0x80 != 0)
          else d.header := by
    unfold Driver.followHeader
    simp only [apply_ite Driver.header, header_armEarlyAckIfAddressed]
    rfl
  change ({ d.followHeader.header with count := d.followHeader.header.count + 1 } : Header) = _
  rw [hfollowed]
  rfl

theorem messages_armEarlyAckIfAddressed (d : Driver) (isGroupAddressed : Bool) :
    (d.armEarlyAckIfAddressed isGroupAddressed).messages
      = d.messages ++ if d.published.isDestination isGroupAddressed (joinBytes d.rxDstHi d.rxDstLo) then
          [.earlyAckArmed d.published.ackByte] else [] := by
  rw [armEarlyAckIfAddressed_eq]
  split
  · rfl
  · exact (List.append_nil _).symm

/-- The driver queues the notes of the header that it follows. -/
theorem messages_followHeader (d : Driver) :
    d.followHeader.messages = d.messages ++ d.header.notes d.published d.rxByte := by
  have hkept : d.messages = d.messages ++ [] := (List.append_nil _).symm
  unfold Header.notes Header.completes
  -- Only the sixth octet can arm; which branch looks at it depends on the format that the first one gave.
  by_cases hlast : d.rxByteCount = 5
  · have hcount : (d.header.count == 5) = true := beq_iff_eq.mpr hlast
    have hnot : ∀ position : UInt8, position ≠ 5 → ¬ d.rxByteCount = position :=
      fun position hne hsame => hne (hsame.symm.trans hlast)
    unfold Driver.followHeader
    rw [hcount, Bool.true_and, if_neg (hnot 0 (by decide)), if_neg (hnot 1 (by decide)),
      if_neg (hnot 4 (by decide)), if_neg (hnot 3 (by decide)), if_pos hlast, if_neg (hnot 4 (by decide)),
      if_pos hlast]
    by_cases hextended : d.rxExtendedFrame
    · rw [if_pos hextended, if_pos (show d.header.extended = true from hextended),
        messages_armEarlyAckIfAddressed]
      rfl
    · rw [if_neg hextended, if_neg (show ¬ d.header.extended = true from hextended),
        messages_armEarlyAckIfAddressed]
      rfl
  · have hcount : (d.header.count == 5) = false := beq_false_of_ne hlast
    rw [hcount, Bool.false_and, if_neg (by decide), ← hkept]
    unfold Driver.followHeader
    rw [if_neg hlast, if_neg hlast]
    split_ifs <;> rfl

end KnxStack.Physical
