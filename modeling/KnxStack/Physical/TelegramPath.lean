import KnxStack.Datalink.CodecInversion
import KnxStack.Datalink.Tp1Receive
import KnxStack.Physical.BitAgreement
import KnxStack.Physical.MacReceive
import KnxStack.Physical.MessageRing

/-!
# A telegram from codec to callback

What the layers of TP1 make of one telegram together. The codec encodes it, a driver sends the octets
bit by bit, the driver of another device samples them and queues messages, its task side reads them from
the ring of 128, collects the octets and hands the telegram to the MAC, which buffers it, and the data
link layer takes it from there, decodes it and filters it. A telegram of more than 126 octets may have
more messages than the ring has cells, and its device then has to read while it comes in.

- `rxRun_telegram`: the messages of a telegram become one event with its octets.
- `telegram_indicated`: the frame that was encoded is indicated at the other device if the ring refuses
  no message, it fits a slot of the MAC and the filter lets it pass; and nothing else is.
-/

set_option autoImplicit false

namespace KnxStack.Physical

open KnxStack.Datalink KnxStack.Lib KnxStack.Lib.BoundedFifo KnxStack.Physical.MessageRing

/-! ## From messages to events -/

namespace Backend

/-- The event with a frame that a message leads to: `BitBangMediumBackendAdapter::onRxFrame` for the
telegram that ended. A single acknowledgement octet is reported without a frame. -/
def rxEvents (b : Backend) : Message → List RxEvent
  | .frameEnd _ =>
    if b.activeFrameStarted = false ∨ b.activeFrame = [] then []
    else if b.activeFrame.length = 1 ∧ isTp1AckByte (b.activeFrame.getD 0 0) then []
    else [{ frame := b.activeFrame }]
  | _ => []

/-- Those of all messages that `process` reads. -/
def rxRun (b : Backend) : List Message → List RxEvent
  | [] => []
  | message :: rest => b.rxEvents message ++ (b.processMessage message).rxRun rest

section Collect

variable (b : Backend)

@[simp] theorem activeFrame_enqueueTp1Event (event : Tp1RxEvent) :
    (b.enqueueTp1Event event).activeFrame = b.activeFrame := by
  unfold enqueueTp1Event
  split <;> rfl

@[simp] theorem started_enqueueTp1Event (event : Tp1RxEvent) :
    (b.enqueueTp1Event event).activeFrameStarted = b.activeFrameStarted := by
  unfold enqueueTp1Event
  split <;> rfl

@[simp] theorem activeFrame_setState (newState : DriverState) :
    (b.setState newState).activeFrame = b.activeFrame := by
  unfold setState
  split
  · rfl
  · exact activeFrame_enqueueTp1Event _ _

@[simp] theorem started_setState (newState : DriverState) :
    (b.setState newState).activeFrameStarted = b.activeFrameStarted := by
  unfold setState
  split
  · rfl
  · exact started_enqueueTp1Event _ _

/-- The octets of the telegram under way. -/
def collected : List UInt8 := if b.activeFrameStarted then b.activeFrame else []

theorem collected_beginActiveFrameIfNeeded :
    b.beginActiveFrameIfNeeded.activeFrameStarted = true
      ∧ b.beginActiveFrameIfNeeded.activeFrame = b.collected := by
  unfold beginActiveFrameIfNeeded collected
  cases hstarted : b.activeFrameStarted with
  | true => exact ⟨hstarted, rfl⟩
  | false =>
    simp only [Bool.false_eq_true, if_false, started_enqueueTp1Event, activeFrame_enqueueTp1Event]
    split
    · rw [started_setState, activeFrame_setState]
      exact ⟨rfl, rfl⟩
    · exact ⟨rfl, rfl⟩

theorem collected_data (octet : UInt8) (hroom : b.collected.length < maxTelegramSize) :
    (b.processMessage (.data octet)).activeFrameStarted = true
      ∧ (b.processMessage (.data octet)).collected = b.collected ++ [octet] := by
  obtain ⟨hstarted, hframe⟩ := b.collected_beginActiveFrameIfNeeded
  have hbegun : (b.processMessage (.data octet)).activeFrameStarted = true :=
    (started_enqueueTp1Event _ _).trans hstarted
  have hadded : (b.processMessage (.data octet)).activeFrame
      = if b.beginActiveFrameIfNeeded.activeFrame.length < maxTelegramSize then
          b.beginActiveFrameIfNeeded.activeFrame ++ [octet]
        else b.beginActiveFrameIfNeeded.activeFrame := activeFrame_enqueueTp1Event _ _
  refine ⟨hbegun, ?_⟩
  rw [collected, if_pos hbegun, hadded, hframe, if_pos hroom]

theorem rxRun_data (octets : List UInt8) (rest : List Message) :
    ∀ b : Backend, b.collected.length + octets.length ≤ maxTelegramSize →
      (b.activeFrameStarted = true ∨ octets ≠ []) →
      ∃ b' : Backend, b.rxRun (octets.map .data ++ rest) = b'.rxRun rest
        ∧ b'.activeFrameStarted = true ∧ b'.collected = b.collected ++ octets := by
  induction octets with
  | nil =>
    intro b _ hstarted
    refine ⟨b, rfl, ?_, (List.append_nil _).symm⟩
    rcases hstarted with hstarted | hne
    · exact hstarted
    · exact absurd rfl hne
  | cons octet octets ih =>
    intro b hroom _
    rw [List.length_cons] at hroom
    obtain ⟨hstarted, hcollected⟩ := b.collected_data octet (by omega)
    obtain ⟨b', hrun, hstarted', hall⟩ := ih (b.processMessage (.data octet))
      (by rw [hcollected, List.length_append, List.length_singleton]; omega) (.inl hstarted)
    refine ⟨b', hrun, hstarted', ?_⟩
    rw [hall, hcollected, List.append_assoc, List.singleton_append]

theorem rxRun_filter (messages : List Message) :
    ∀ b : Backend, b.rxRun messages = b.rxRun (messages.filter Message.ofFrame) := by
  induction messages with
  | nil =>
    intro b
    rfl
  | cons message messages ih =>
    intro b
    cases message with
    | earlyAckArmed octet => exact ih b
    | _ => exact congrArg (b.rxEvents _ ++ ·) (ih _)

/-- The messages of a telegram become one event with its octets, whatever was noted between them. -/
theorem rxRun_telegram {messages : List Message} {octets : List UInt8} {errors : UInt8}
    (hmessages : messages.filter Message.ofFrame = octets.map .data ++ [.frameEnd errors])
    (hidle : b.activeFrameStarted = false) (hlong : 2 ≤ octets.length)
    (hroom : octets.length ≤ maxTelegramSize) : b.rxRun messages = [{ frame := octets }] := by
  have hnone : b.collected = [] := by
    rw [collected, hidle]
    rfl
  have hne : octets ≠ [] := by
    rintro rfl
    exact absurd hlong (by decide)
  obtain ⟨b', hrun, hstarted, hcollected⟩ := rxRun_data octets [.frameEnd errors] b
    (by rw [hnone, List.length_nil]; omega) (.inr hne)
  rw [hnone, List.nil_append, collected, if_pos hstarted] at hcollected
  rw [rxRun_filter, hmessages, hrun]
  change b'.rxEvents (.frameEnd errors) ++ [] = _
  rw [List.append_nil, rxEvents, hcollected, if_neg (by simp [hstarted, hne]),
    if_neg (by rintro ⟨hone, -⟩; omega)]

end Collect

end Backend

/-! ## From the MAC to the callback -/

section Receive

variable {m : MacReceive} {l : RxLayer} {preceding : Option LDataFrame}

/-- A turn of the data link layer that polls the MAC in its tick. -/
def receiveFromMac (m : MacReceive) (events : List RxEvent) (nowMs : UInt32)
    (reaction : RxFilter → RxFilter) (l : RxLayer) : RxLayer :=
  let polled := m.pollReceive events nowMs
  (receiveTurn ⟨.ok (), polled.2, polled.1.receivedFrameView, reaction⟩ l).1

/-- A MAC that waits for a telegram, with nothing buffered. -/
structure WaitsForTelegram (m : MacReceive) : Prop where
  initialized : m.initialized = true
  active : m.receiveActive = true
  empty : m.rxFrames.contents = []

theorem WaitsForTelegram.holds (h : WaitsForTelegram m) : Holds m Watched.empty :=
  ⟨h.empty, fun _ hframe => absurd hframe List.not_mem_nil⟩

theorem WaitsForTelegram.poll (h : WaitsForTelegram m) {octets : List UInt8} {g : LDataFrame}
    (hdecoded : decodeFrame octets = .done g) (hfits : octets.length ≤ maxRxFrameSize) (nowMs : UInt32) :
    (m.pollReceive [{ frame := octets }] nowMs).2 = .ok .success
      ∧ (m.pollReceive [{ frame := octets }] nowMs).1.receivedFrameView = .ok octets := by
  have htelegram := telegram_of_decoded hdecoded
  have hwaiting : ([{ frame := octets }].foldl arriveEvent Watched.empty).waiting = [octets] := by
    simp only [List.foldl_cons, List.foldl_nil, arriveEvent, htelegram]
    rfl
  have hactive : (m.initialized && m.receiveActive) = true := by rw [h.initialized, h.active]; rfl
  have hall : ∀ event ∈ [({ frame := octets } : RxEvent)], event.Fits := by
    intro event hmem frame hframe
    rw [List.mem_singleton.mp hmem, htelegram] at hframe
    obtain rfl := Option.some_inj.mp hframe
    exact hfits
  rcases h.holds.poll hactive hall nowMs with ⟨frame, hhead, hsuccess, hview, -⟩ | ⟨hnone, -, -⟩
  · rw [hwaiting] at hhead
    obtain rfl := Option.some_inj.mp hhead
    exact ⟨hsuccess, hview⟩
  · rw [hwaiting] at hnone
    cases hnone

theorem WaitsForTelegram.poll_dropped (h : WaitsForTelegram m) {octets : List UInt8}
    (hlong : maxRxFrameSize < octets.length) (nowMs : UInt32) :
    (m.pollReceive [{ frame := octets }] nowMs).2 = .ok .timeout
      ∨ (m.pollReceive [{ frame := octets }] nowMs).2 = .ok .pending := by
  have hsize : (256 : Nat) < octets.length := hlong
  have hne : octets ≠ [] := by
    rintro rfl
    exact absurd hsize (by decide)
  have hsame : m.handleTp1Event { frame := octets } = m := by
    unfold MacReceive.handleTp1Event
    rw [if_neg Bool.false_ne_true, if_neg hne, if_neg (by rintro ⟨hone, -⟩; dsimp only at hone; omega),
      if_pos hlong]
  have hactive : (m.initialized && m.receiveActive) = true := by rw [h.initialized, h.active]; rfl
  rw [pollReceive_active hactive]
  simp only [List.foldl_cons, List.foldl_nil, hsame, Ring.front_eq, h.empty, List.head?_nil]
  split
  · exact .inl rfl
  · exact .inr rfl

theorem delivered_receiveFromMac (h : WaitsForTelegram m) {octets : List UInt8} {g : LDataFrame}
    (hdecoded : decodeFrame octets = .done g)
    (hpool : l.frameInUse = List.replicate framePoolSize false)
    (hcache : CacheAgrees l.lastRxFrame preceding) (reaction : RxFilter → RxFilter) (nowMs : UInt32) :
    (receiveFromMac m [{ frame := octets }] nowMs reaction l).delivered
      = l.delivered ++ (if octets.length ≤ maxRxFrameSize ∧ isIndicated l.filter preceding g then [g]
          else []) := by
  -- whether the physical receive is under way already makes no difference to what is received
  have hturn : ∀ progress view, (∃ l' : RxLayer, l'.filter = l.filter ∧ l'.delivered = l.delivered
      ∧ l'.frameInUse = l.frameInUse ∧ l'.lastRxFrame = l.lastRxFrame
      ∧ (receiveTurn ⟨.ok (), progress, view, reaction⟩ l).1
        = (pollPhysicalReceive ⟨.ok (), progress, view, reaction⟩ l').1) := by
    intro progress view
    unfold receiveTurn
    by_cases hwaiting : l.rxOperation.waitingPhysicalReceive = true
    · rw [if_pos hwaiting]
      exact ⟨l, rfl, rfl, rfl, rfl, rfl⟩
    · rw [if_neg hwaiting]
      exact ⟨{ l with rxOperation := { l.rxOperation with waitingPhysicalReceive := true } }, rfl, rfl,
        rfl, rfl, rfl⟩
  unfold receiveFromMac
  dsimp only
  obtain ⟨l', hfilter, hdelivered, hpool', hcache', heq⟩ :=
    hturn (m.pollReceive [{ frame := octets }] nowMs).2
      (m.pollReceive [{ frame := octets }] nowMs).1.receivedFrameView
  rw [heq]
  by_cases hfits : octets.length ≤ maxRxFrameSize
  · obtain ⟨hsuccess, hview⟩ := h.poll hdecoded hfits nowMs
    simp only [pollPhysicalReceive, hsuccess, hview]
    have hone := receiveOctets_one (l :=
      { l' with
        received := l'.received ++ [(l'.filter, octets)]
        rxOperation := { l'.rxOperation with waitingPhysicalReceive := false } })
      octets reaction (hpool'.trans hpool) (by rw [hcache']; exact hcache)
    rw [hone.delivered, indicatedOne, hdecoded]
    dsimp only
    rw [hfilter, hdelivered]
    simp only [hfits, true_and]
  · rw [if_neg (fun hboth => hfits hboth.1), List.append_nil]
    rcases h.poll_dropped (Nat.lt_of_not_le hfits) nowMs with hpoll | hpoll
    · simp only [pollPhysicalReceive, hpoll]
      exact hdelivered
    · simp only [pollPhysicalReceive, hpoll]
      exact hdelivered

end Receive

/-! ## The whole path -/

theorem replays_one_by_one (queued : List Message) :
    ∃ events, Replays messageQueueCapacity [] events [] ∧ accepted events = queued := by
  induction queued using List.reverseRecOn with
  | nil => exact ⟨[], .nil, rfl⟩
  | append_singleton queued message ih =>
    obtain ⟨events, hreplays, haccepted⟩ := ih
    refine ⟨events ++ [.accepted message] ++ [.taken message],
      .snoc (.snoc hreplays (.accepted (by decide))) .taken, ?_⟩
    rw [accepted_snoc, accepted_snoc, haccepted]
    exact List.append_nil _

theorem length_frameOctets {f : LDataFrame} (octets : List UInt8)
    (h : octets = frameOctets f ++ [calculateChecksum (frameOctets f)]) :
    octets.length = (if 16 < f.tpdu.size then 8 else 7) + f.tpdu.size := by
  have hdata : f.tpdu.data.length = f.tpdu.size := rfl
  rw [h, List.length_append, List.length_singleton]
  split
  · rename_i hgt
    rw [frameOctets_extended hgt, List.length_append, hdata]
    simp only [List.length_cons, List.length_nil]
    omega
  · rename_i hle
    rw [frameOctets_standard (Nat.not_lt.mp hle), List.length_append, hdata]
    simp only [List.length_cons, List.length_nil]
    omega

/-- A telegram from codec to callback. A valid frame of 1 to 255 TPDU octets, encoded and sent by an
idle driver, reaches the messages of an idle driver on the bus. When its device has read them from a ring
that was empty and refused none, one turn of its data link layer gives the callback this frame, in the
format that its length calls for, exactly if it takes at most 256 octets, the filter lets it pass and it
is no repetition, and nothing else in any case. -/
theorem telegram_indicated {f : LDataFrame} (hvalid : f.isValid = true) (hsome : 1 ≤ f.tpdu.size)
    (hsize : f.tpdu.size ≤ 255) {sender receiver : Driver} (hsender : Idle sender)
    (hreceiver : Idle receiver) (nowUs : Nat) {b : Backend} (hidle : b.activeFrameStarted = false)
    {m : MacReceive} (hmac : WaitsForTelegram m) {l : RxLayer}
    (hpool : l.frameInUse = List.replicate framePoolSize false) {preceding : Option LDataFrame}
    (hcache : CacheAgrees l.lastRxFrame preceding) :
    ∃ octets, encodeFrame f maxTp1FrameSize = .ok octets
      ∧ (sender.send octets nowUs).2 = true
      ∧ ∃ bus queued, Bus.Reaches ⟨(sender.send octets nowUs).1, receiver⟩ bus
        ∧ bus.receiver.messages = receiver.messages ++ queued
        ∧ ∀ events, Replays messageQueueCapacity [] events [] → accepted events = queued →
          ∀ nowMs reaction,
          (receiveFromMac m (b.rxRun (BoundedFifo.taken events)) nowMs reaction l).delivered
            = l.delivered ++
              (if (if 16 < f.tpdu.size then 8 else 7) + f.tpdu.size ≤ maxRxFrameSize
                  ∧ isIndicated l.filter preceding
                    { f with standardFrame := decide (f.tpdu.size ≤ 16) } then
                [{ f with standardFrame := decide (f.tpdu.size ≤ 16) }]
              else []) := by
  obtain ⟨octets, hoctets⟩ : ∃ octets, octets = frameOctets f ++ [calculateChecksum (frameOctets f)] :=
    ⟨_, rfl⟩
  have hlength := length_frameOctets octets hoctets
  have hlong : 2 ≤ octets.length := by
    rw [hlength]
    split <;> omega
  have hroom : octets.length ≤ maxTelegramSize := by
    rw [hlength, maxTelegramSize]
    split <;> omega
  have hne : octets ≠ [] := List.ne_nil_of_length_pos (by omega)
  have hdecoded := decodeFrame_frameOctets hvalid hsome
  rw [← hoctets] at hdecoded
  refine ⟨octets, ?_, ?_⟩
  · rw [hoctets]
    exact encodeFrame_ok_of_isValid hvalid hsome (Nat.le_refl _)
  · obtain ⟨first, rest, hcons⟩ := List.exists_cons_of_ne_nil hne
    rw [hcons] at hroom
    obtain ⟨hsent, hwaiting⟩ := hsender.send hroom nowUs
    obtain ⟨s₁, r₁, start, hwait, hstarted⟩ := hwaiting.starts hreceiver
    obtain ⟨s₂, r₂, due, hreach, -, hended⟩ := hstarted.ended
    have hmessages := hended.messages
    rw [List.nil_append, ← hcons] at hmessages
    rw [← hcons] at hroom hsent hwait
    refine ⟨hsent, ⟨s₂, r₂⟩, _, hwait.trans hreach, hmessages, ?_⟩
    intro events hreplays haccepted nowMs reaction
    have htaken : BoundedFifo.taken events = receiver.reports octets := by
      have hall := hreplays.conserves
      rw [List.nil_append, List.append_nil] at hall
      exact hall.symm.trans haccepted
    rw [htaken, b.rxRun_telegram (filter_reports receiver octets) hidle hlong hroom,
      delivered_receiveFromMac hmac hdecoded hpool hcache reaction nowMs, hlength]

/-- A MAC that was asked for a telegram. -/
def askedMac : MacReceive := { receiveActive := true }

/-- A device that listens to everything. -/
def curiousReceiver : RxLayer := { filter := { ownAddress := ⟨0x1102⟩, promiscuousMode := true } }

theorem telegram_indicated_groupRead :
    ∃ octets, encodeFrame groupReadFrame maxTp1FrameSize = .ok octets
      ∧ ∃ bus queued, Bus.Reaches ⟨(({} : Driver).send octets 0).1, {}⟩ bus
        ∧ bus.receiver.messages = queued
        ∧ ∃ events, Replays messageQueueCapacity [] events [] ∧ accepted events = queued
        ∧ (receiveFromMac askedMac (({} : Backend).rxRun (BoundedFifo.taken events)) 0 id
            curiousReceiver).delivered
          = [{ groupReadFrame with standardFrame := true }] := by
  obtain ⟨octets, hoctets, -, bus, queued, hreach, hmessages, hdelivered⟩ :=
    telegram_indicated (f := groupReadFrame) (by decide) (by decide) (by decide) idle_default
      idle_default 0 (b := {}) rfl (m := askedMac) ⟨rfl, rfl, rfl⟩ (l := curiousReceiver) rfl
      cacheAgrees_initial
  obtain ⟨events, hreplays, haccepted⟩ := replays_one_by_one queued
  refine ⟨octets, hoctets, bus, queued, hreach, hmessages, events, hreplays, haccepted, ?_⟩
  rw [hdelivered events hreplays haccepted 0 id]
  decide

end KnxStack.Physical
