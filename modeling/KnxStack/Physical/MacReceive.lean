import KnxStack.Lib.Ring
import KnxStack.Lib.Runs
import KnxStack.Datalink.FrameCodec
import KnxStack.Physical.MacBackend

/-!
# The receive queue of the MAC

`Tp1MacPhysical` (`physical/tp1_mac_physical.cpp`) buffers the frames that the driver hands to its callback
in a ring of 32 slots of 256 octets each; `pollReceive` and `receiveFrame` take them from there. The largest
frame of the codec has 264 octets and does not fit a slot.

- `MacWatch` is the queue beside everything that came in and everything that was returned.
- `matches_run`: what the ring holds is what came in and neither was returned nor gave way.
- `received_in_order`: so frames of up to 256 octets are returned in their order, each once.
-/

set_option autoImplicit false

namespace KnxStack.Physical

open KnxStack.Lib KnxStack.Datalink

/-- `RX_QUEUE_CAPACITY`. -/
def rxQueueCapacity : Nat := 32

/-- `MAX_RX_FRAME_SIZE`. -/
def maxRxFrameSize : Nat := 256

/-- What the callback reads of a `Tp1RxEvent`. -/
structure RxEvent where
  linkStateChanged : Bool := false
  frame : List UInt8 := []
  deriving DecidableEq, Repr

/-- The receiving half of `Tp1MacPhysical`. -/
structure MacReceive where
  initialized : Bool := true
  rxFrames : Ring (List UInt8) rxQueueCapacity := ⟨fun _ => [], ⟨0, by decide⟩, 0, Nat.zero_le _⟩
  rxOverflowDrops : Nat := 0
  receiveActive : Bool := false
  receiveDeadlineMs : UInt64 := 0
  lastReceivedFrame : List UInt8 := []

namespace MacReceive

/-- A frame is copied into the slot behind the last one. -/
def insert (m : MacReceive) (frame : List UInt8) : MacReceive :=
  if h : m.rxFrames.count < rxQueueCapacity then
    { m with rxFrames := m.rxFrames.pushBack h frame }
  else m

/-- The oldest frame gives way when the ring is full. -/
def makeRoom (m : MacReceive) : MacReceive :=
  if rxQueueCapacity ≤ m.rxFrames.count then
    { m with rxFrames := m.rxFrames.dropFront, rxOverflowDrops := m.rxOverflowDrops + 1 }
  else { m with rxOverflowDrops := 0 }

/-- `handleTp1Event`. -/
def handleTp1Event (m : MacReceive) (event : RxEvent) : MacReceive :=
  if event.linkStateChanged then m
  else if event.frame = [] then m
  else if event.frame.length = 1 ∧ isTp1AckByte (event.frame.headD 0) then m
  else if maxRxFrameSize < event.frame.length then m
  else m.makeRoom.insert event.frame

/-- `beginReceive`. -/
def beginReceive (m : MacReceive) (timeoutMs nowMs : UInt32) : MacReceive × Result Unit :=
  if !m.initialized then (m, .error .notInitialized)
  else
    ({ m with
        receiveActive := true
        lastReceivedFrame := []
        receiveDeadlineMs := nowMs.toUInt64 + timeoutMs.toUInt64 }, .ok ())

/-- `pollReceive`; the events are those that its tick delivers. -/
def pollReceive (m : MacReceive) (events : List RxEvent) (nowMs : UInt32) :
    MacReceive × Result OperationProgressState :=
  if !m.initialized then (m, .error .notInitialized)
  else if !m.receiveActive then (m, .error .operationNotReady)
  else
    let ticked := events.foldl handleTp1Event m
    match ticked.rxFrames.front with
    | some buffered =>
      ({ ticked with
          lastReceivedFrame := buffered
          rxFrames := ticked.rxFrames.dropFront
          receiveActive := false }, .ok .success)
    | none =>
      if ticked.receiveDeadlineMs ≤ nowMs.toUInt64 then
        ({ ticked with receiveActive := false }, .ok .timeout)
      else (ticked, .ok .pending)

/-- `receivedFrameView`. -/
def receivedFrameView (m : MacReceive) : Result (List UInt8) :=
  if m.lastReceivedFrame = [] then .error .operationNotReady else .ok m.lastReceivedFrame

/-- The loop of `receiveFrame`, with what each of its polls meets; `none` while it is still waiting. -/
def receiveLoop (timeoutMs : UInt32) : List (List RxEvent × UInt32) → MacReceive →
    MacReceive × Option (Result (List UInt8))
  | [], m => (m, none)
  | turn :: turns, m =>
    match m.pollReceive turn.1 turn.2 with
    | (m, .error error) => (m, some (.error error))
    | (m, .ok .pending) =>
      if timeoutMs = 0 then (m, some (.error .timeout)) else receiveLoop timeoutMs turns m
    | (m, .ok .success) => (m, some m.receivedFrameView)
    | (m, .ok .timeout) => (m, some (.error .timeout))
    | (m, .ok .busy) => (m, some (.error .busy))
    | (m, .ok .transmissionFailed) => (m, some (.error .transmissionFailed))

/-- `receiveFrame`. -/
def receiveFrame (m : MacReceive) (timeoutMs startMs : UInt32) (turns : List (List RxEvent × UInt32)) :
    MacReceive × Option (Result (List UInt8)) :=
  match m.beginReceive timeoutMs startMs with
  | (m, .error error) => (m, some (.error error))
  | (m, .ok ()) => receiveLoop timeoutMs turns m

end MacReceive

/-! ## What comes in -/

/-- The telegram of an event: link events, empty frames and single acknowledgement octets are none. -/
def RxEvent.telegram (event : RxEvent) : Option (List UInt8) :=
  if event.linkStateChanged then none
  else if event.frame = [] then none
  else if event.frame.length = 1 ∧ isTp1AckByte (event.frame.headD 0) then none
  else some event.frame

/-- It fits a slot. -/
def RxEvent.Fits (event : RxEvent) : Prop :=
  ∀ frame ∈ event.telegram, frame.length ≤ maxRxFrameSize

theorem telegram_of_decoded {frame : List UInt8} {f : LDataFrame}
    (hd : decodeFrame frame = .done f) : RxEvent.telegram ⟨false, frame⟩ = some frame := by
  obtain ⟨ctrl, header, d⟩ := decodeFrame_eq_done.mp hd
  have hlength := d.length
  have hne : frame ≠ [] := by
    rintro rfl
    exact absurd hlength (by decide)
  unfold RxEvent.telegram
  rw [if_neg Bool.false_ne_true, if_neg hne, if_neg (by dsimp only; omega)]

/-- An event beside the queue. -/
def arriveEvent (q : Watched (List UInt8)) (event : RxEvent) : Watched (List UInt8) :=
  match event.telegram with
  | some frame => q.arrive rxQueueCapacity frame
  | none => q

/-! ## The queue beside the MAC -/

/-- The ring holds what waits in the queue, and no empty frame. -/
structure Holds (m : MacReceive) (q : Watched (List UInt8)) : Prop where
  contents : m.rxFrames.contents = q.waiting
  nonempty : ∀ frame ∈ q.waiting, frame ≠ []

section Callback

variable {m : MacReceive} {q : Watched (List UInt8)}

theorem contents_insert (h : m.rxFrames.count < rxQueueCapacity) (frame : List UInt8) :
    (m.insert frame).rxFrames.contents = m.rxFrames.contents ++ [frame] := by
  unfold MacReceive.insert
  rw [dif_pos h]
  exact Ring.contents_pushBack _ h frame

theorem Holds.makeRoom (h : Holds m q) :
    m.makeRoom.rxFrames.count < rxQueueCapacity
      ∧ m.makeRoom.rxFrames.contents =
        (if rxQueueCapacity ≤ q.waiting.length then q.leave false else q).waiting := by
  have hcount : m.rxFrames.count = q.waiting.length := by
    rw [← h.contents, Ring.length_contents]
  have hbound := m.rxFrames.bounded
  unfold MacReceive.makeRoom
  rw [hcount]
  by_cases hfull : rxQueueCapacity ≤ q.waiting.length
  · rw [if_pos hfull, if_pos hfull]
    constructor
    · have hpos : 0 < rxQueueCapacity := by decide
      change m.rxFrames.count - 1 < rxQueueCapacity
      omega
    · exact (Ring.contents_dropFront _).trans (congrArg List.tail h.contents)
  · rw [if_neg hfull, if_neg hfull]
    constructor
    · change m.rxFrames.count < rxQueueCapacity
      omega
    · exact h.contents

/-- The callback: a telegram that fits a slot arrives, everything else leaves the ring alone. -/
theorem Holds.handleTp1Event (h : Holds m q) {event : RxEvent} (hfits : event.Fits) :
    Holds (m.handleTp1Event event) (arriveEvent q event) := by
  unfold MacReceive.handleTp1Event arriveEvent
  unfold RxEvent.Fits at hfits
  by_cases hlink : event.linkStateChanged = true
  · rw [show event.telegram = none from if_pos hlink, if_pos hlink]
    exact h
  · by_cases hempty : event.frame = []
    · rw [show event.telegram = none by unfold RxEvent.telegram; rw [if_neg hlink, if_pos hempty],
        if_neg hlink, if_pos hempty]
      exact h
    · by_cases hack : event.frame.length = 1 ∧ isTp1AckByte (event.frame.headD 0) = true
      · rw [show event.telegram = none by
          unfold RxEvent.telegram; rw [if_neg hlink, if_neg hempty, if_pos hack],
          if_neg hlink, if_neg hempty, if_pos hack]
        exact h
      · have htelegram : event.telegram = some event.frame := by
          unfold RxEvent.telegram
          rw [if_neg hlink, if_neg hempty, if_neg hack]
        rw [htelegram] at hfits ⊢
        have hsize := hfits event.frame rfl
        rw [if_neg hlink, if_neg hempty, if_neg hack, if_neg (Nat.not_lt.mpr hsize)]
        obtain ⟨hroom, hcontents⟩ := h.makeRoom
        refine ⟨?_, ?_⟩
        · rw [contents_insert hroom, hcontents]
          rfl
        · intro frame hframe
          have hmem : frame ∈ (if rxQueueCapacity ≤ q.waiting.length then q.leave false
              else q).waiting ++ [event.frame] := hframe
          rcases List.mem_append.mp hmem with hold | hnew
          · apply h.nonempty frame
            split at hold
            · exact List.mem_of_mem_tail hold
            · exact hold
          · rw [List.mem_singleton.mp hnew]
            exact hempty

theorem initialized_handleTp1Event (m : MacReceive) (event : RxEvent) :
    (m.handleTp1Event event).initialized = m.initialized
      ∧ (m.handleTp1Event event).receiveActive = m.receiveActive := by
  unfold MacReceive.handleTp1Event MacReceive.makeRoom MacReceive.insert
  split_ifs <;> exact ⟨rfl, rfl⟩

theorem Holds.tick (h : Holds m q) {events : List RxEvent} (hfits : ∀ event ∈ events, event.Fits) :
    Holds (events.foldl MacReceive.handleTp1Event m) (events.foldl arriveEvent q) := by
  induction events generalizing m q with
  | nil => exact h
  | cons event events ih =>
    apply ih (h.handleTp1Event (hfits event List.mem_cons_self))
    intro other hother
    exact hfits other (List.mem_cons_of_mem event hother)

end Callback

theorem balanced_arriveEvents {q : Watched (List UInt8)} (h : q.Balanced) (events : List RxEvent) :
    (events.foldl arriveEvent q).Balanced := by
  induction events generalizing q with
  | nil => exact h
  | cons event events ih =>
    apply ih
    unfold arriveEvent
    cases event.telegram with
    | none => exact h
    | some frame => exact h.arrive rxQueueCapacity frame

theorem handed_arriveEvents (q : Watched (List UInt8)) (events : List RxEvent) :
    (events.foldl arriveEvent q).handed = q.handed := by
  induction events generalizing q with
  | nil => rfl
  | cons event events ih =>
    rw [List.foldl_cons, ih]
    unfold arriveEvent
    cases event.telegram with
    | none => rfl
    | some frame => exact Watched.handed_arrive rxQueueCapacity q frame

/-! ## Polls -/

/-- The queue beside one poll: what its tick delivers arrives, and what it answers leaves. -/
def pollQueue (m : MacReceive) (events : List RxEvent) (nowMs : UInt32)
    (q : Watched (List UInt8)) : Watched (List UInt8) :=
  if m.initialized && m.receiveActive then
    let ticked := events.foldl arriveEvent q
    if (m.pollReceive events nowMs).2 = .ok .success then ticked.leave true else ticked
  else q

section Poll

variable {m : MacReceive} {q : Watched (List UInt8)} {events : List RxEvent}

theorem pollReceive_idle (h : (m.initialized && m.receiveActive) = false) (events : List RxEvent)
    (nowMs : UInt32) : ∃ error, m.pollReceive events nowMs = (m, .error error) := by
  unfold MacReceive.pollReceive
  by_cases hinit : m.initialized = true
  · rw [hinit, Bool.true_and] at h
    rw [hinit, h]
    exact ⟨_, rfl⟩
  · rw [Bool.not_eq_true] at hinit
    rw [hinit]
    exact ⟨_, rfl⟩

theorem pollReceive_active (h : (m.initialized && m.receiveActive) = true) (events : List RxEvent)
    (nowMs : UInt32) : m.pollReceive events nowMs =
      let ticked := events.foldl MacReceive.handleTp1Event m
      match ticked.rxFrames.front with
      | some buffered =>
        ({ ticked with
            lastReceivedFrame := buffered
            rxFrames := ticked.rxFrames.dropFront
            receiveActive := false }, .ok .success)
      | none =>
        if ticked.receiveDeadlineMs ≤ nowMs.toUInt64 then
          ({ ticked with receiveActive := false }, .ok .timeout)
        else (ticked, .ok .pending) := by
  rw [Bool.and_eq_true] at h
  unfold MacReceive.pollReceive
  rw [h.1, h.2]
  rfl

theorem Holds.poll (h : Holds m q) (hactive : (m.initialized && m.receiveActive) = true)
    (hfits : ∀ event ∈ events, event.Fits) (nowMs : UInt32) :
    (∃ frame, (events.foldl arriveEvent q).waiting.head? = some frame
        ∧ (m.pollReceive events nowMs).2 = .ok .success
        ∧ (m.pollReceive events nowMs).1.receivedFrameView = .ok frame
        ∧ Holds (m.pollReceive events nowMs).1 ((events.foldl arriveEvent q).leave true))
    ∨ ((events.foldl arriveEvent q).waiting = []
        ∧ ((m.pollReceive events nowMs).2 = .ok .timeout
          ∨ (m.pollReceive events nowMs).2 = .ok .pending)
        ∧ Holds (m.pollReceive events nowMs).1 (events.foldl arriveEvent q)) := by
  have hticked := h.tick hfits
  rw [pollReceive_active hactive]
  dsimp only
  generalize events.foldl MacReceive.handleTp1Event m = ticked at hticked ⊢
  generalize events.foldl arriveEvent q = after at hticked ⊢
  rw [Ring.front_eq, hticked.contents]
  cases hwaiting : after.waiting with
  | nil =>
    right
    refine ⟨rfl, ?_⟩
    simp only [List.head?_nil]
    split
    · exact ⟨.inl rfl, ⟨hticked.contents, hticked.nonempty⟩⟩
    · exact ⟨.inr rfl, hticked⟩
  | cons frame rest =>
    left
    have hne : frame ≠ [] := hticked.nonempty frame (by rw [hwaiting]; exact List.mem_cons_self)
    refine ⟨frame, rfl, rfl, ?_, ?_, ?_⟩
    · exact if_neg hne
    · change ticked.rxFrames.dropFront.contents = after.waiting.tail
      rw [Ring.contents_dropFront, hticked.contents]
    · intro other hother
      exact hticked.nonempty other (List.mem_of_mem_tail hother)

theorem Holds.pollQueue (h : Holds m q) (hfits : ∀ event ∈ events, event.Fits) (nowMs : UInt32) :
    Holds (m.pollReceive events nowMs).1 (pollQueue m events nowMs q)
      ∧ ((∃ frame, (m.pollReceive events nowMs).2 = .ok .success
          ∧ (m.pollReceive events nowMs).1.receivedFrameView = .ok frame
          ∧ (Physical.pollQueue m events nowMs q).handed = q.handed ++ [frame])
        ∨ ((m.pollReceive events nowMs).2 ≠ .ok .success
          ∧ (Physical.pollQueue m events nowMs q).handed = q.handed)) := by
  unfold Physical.pollQueue
  cases hactive : m.initialized && m.receiveActive with
  | false =>
    obtain ⟨error, hpoll⟩ := pollReceive_idle hactive events nowMs
    rw [hpoll]
    exact ⟨h, .inr ⟨nofun, rfl⟩⟩
  | true =>
    rw [if_pos rfl]
    dsimp only
    rcases h.poll hactive hfits nowMs with
      ⟨frame, hhead, hsuccess, hview, hholds⟩ | ⟨-, hnone, hholds⟩
    · rw [if_pos hsuccess]
      refine ⟨hholds, .inl ⟨frame, hsuccess, hview, ?_⟩⟩
      rw [Watched.handed_leave hhead, handed_arriveEvents]
    · have hfails : (m.pollReceive events nowMs).2 ≠ .ok .success := by
        rcases hnone with hnone | hnone <;> rw [hnone] <;> exact nofun
      rw [if_neg hfails]
      exact ⟨hholds, .inr ⟨hfails, handed_arriveEvents q events⟩⟩

theorem balanced_pollQueue (h : q.Balanced) (m : MacReceive) (events : List RxEvent)
    (nowMs : UInt32) : (pollQueue m events nowMs q).Balanced := by
  have hticked := balanced_arriveEvents h events
  unfold pollQueue
  dsimp only
  split
  · split
    · exact hticked.leave true
    · exact hticked
  · exact h

end Poll

/-! ## Runs -/

/-- Frame that an answer of `receiveFrame` carries. -/
def answeredFrame : Option (Result (List UInt8)) → List (List UInt8)
  | some (.ok frame) => [frame]
  | _ => []

/-- The queue beside the loop of `receiveFrame`. -/
def loopQueue (timeoutMs : UInt32) : List (List RxEvent × UInt32) → MacReceive →
    Watched (List UInt8) → Watched (List UInt8)
  | [], _, q => q
  | turn :: turns, m, q =>
    match m.pollReceive turn.1 turn.2 with
    | (m', .ok .pending) =>
      if timeoutMs = 0 then pollQueue m turn.1 turn.2 q
      else loopQueue timeoutMs turns m' (pollQueue m turn.1 turn.2 q)
    | _ => pollQueue m turn.1 turn.2 q

theorem Holds.receiveLoop (timeoutMs : UInt32) (turns : List (List RxEvent × UInt32)) :
    ∀ {m : MacReceive} {q : Watched (List UInt8)}, Holds m q → q.Balanced →
      (∀ turn ∈ turns, ∀ event ∈ turn.1, event.Fits) →
      Holds (m.receiveLoop timeoutMs turns).1 (loopQueue timeoutMs turns m q)
        ∧ (loopQueue timeoutMs turns m q).Balanced
        ∧ (loopQueue timeoutMs turns m q).handed
          = q.handed ++ answeredFrame (m.receiveLoop timeoutMs turns).2 := by
  induction turns with
  | nil =>
    intro m q h hbalanced _
    exact ⟨h, hbalanced, (List.append_nil _).symm⟩
  | cons turn turns ih =>
    intro m q h hbalanced hfits
    obtain ⟨hholds, hanswer⟩ := h.pollQueue (hfits turn List.mem_cons_self) turn.2
    have hafter := balanced_pollQueue hbalanced m turn.1 turn.2
    unfold MacReceive.receiveLoop loopQueue
    -- By the answer of this poll.
    rcases hpoll : m.pollReceive turn.1 turn.2 with ⟨m', answer⟩
    rw [hpoll] at hholds hanswer
    rcases hanswer with ⟨frame, hsuccess, hview, hhanded⟩ | ⟨hfails, hhanded⟩
    · dsimp only at hsuccess hview
      subst hsuccess
      refine ⟨hholds, hafter, ?_⟩
      simp only [hview, answeredFrame]
      exact hhanded
    · dsimp only at hfails
      match answer, hfails with
      | .error error, _ => exact ⟨hholds, hafter, hhanded.trans (List.append_nil _).symm⟩
      | .ok .timeout, _ => exact ⟨hholds, hafter, hhanded.trans (List.append_nil _).symm⟩
      | .ok .busy, _ => exact ⟨hholds, hafter, hhanded.trans (List.append_nil _).symm⟩
      | .ok .transmissionFailed, _ =>
        exact ⟨hholds, hafter, hhanded.trans (List.append_nil _).symm⟩
      | .ok .pending, _ =>
        dsimp only
        split
        · exact ⟨hholds, hafter, hhanded.trans (List.append_nil _).symm⟩
        · rw [← hhanded]
          apply ih hholds hafter
          intro other hother
          exact hfits other (List.mem_cons_of_mem turn hother)

/-- The MAC, the queue that it should be, and what its calls returned. -/
structure MacWatch where
  mac : MacReceive := {}
  queue : Watched (List UInt8) := .empty
  returned : List (List UInt8) := []

/-- What happens to the receiving half. -/
inductive MacRxCall where
  | onTp1Event (event : RxEvent)
  | beginReceive (timeoutMs nowMs : UInt32)
  | pollReceive (events : List RxEvent) (nowMs : UInt32)
  | receiveFrame (timeoutMs startMs : UInt32) (turns : List (List RxEvent × UInt32))

/-- The events that the driver hands over in a call. -/
def MacRxCall.events : MacRxCall → List RxEvent
  | .onTp1Event event => [event]
  | .beginReceive _ _ => []
  | .pollReceive events _ => events
  | .receiveFrame _ _ turns => turns.flatMap Prod.fst

namespace MacWatch

/-- One call. After a successful poll the caller reads the frame with `receivedFrameView`. -/
def step (w : MacWatch) : MacRxCall → MacWatch
  | .onTp1Event event =>
    { w with mac := w.mac.handleTp1Event event, queue := arriveEvent w.queue event }
  | .beginReceive timeoutMs nowMs => { w with mac := (w.mac.beginReceive timeoutMs nowMs).1 }
  | .pollReceive events nowMs =>
    let polled := w.mac.pollReceive events nowMs
    { mac := polled.1
      queue := pollQueue w.mac events nowMs w.queue
      returned := w.returned ++
        if polled.2 = .ok .success then answeredFrame (some polled.1.receivedFrameView) else [] }
  | .receiveFrame timeoutMs startMs turns =>
    match w.mac.beginReceive timeoutMs startMs with
    | (_, .error _) => w
    | (begun, .ok ()) =>
      { mac := (begun.receiveLoop timeoutMs turns).1
        queue := loopQueue timeoutMs turns begun w.queue
        returned := w.returned ++ answeredFrame (begun.receiveLoop timeoutMs turns).2 }

/-- The frames returned are those that came in, in their order and each once, but for those that gave way
while thirty-two were waiting (`Watched.arrive`); and a poll answers as soon as one waits. -/
structure Delivers (w : MacWatch) : Prop where
  balanced : w.queue.Balanced
  returned : w.returned = w.queue.handed
  waiting : w.mac.rxFrames.contents = w.queue.waiting
  prompt : ∀ events nowMs, (w.mac.initialized && w.mac.receiveActive) = true →
    (∀ event ∈ events, event.Fits) →
    ((w.mac.pollReceive events nowMs).2 = .ok .success
      ↔ (events.foldl arriveEvent w.queue).waiting ≠ [])

/-- What every step keeps. -/
structure Matches (w : MacWatch) : Prop where
  holds : Holds w.mac w.queue
  balanced : w.queue.Balanced
  returned : w.returned = w.queue.handed

theorem Matches.delivers {w : MacWatch} (h : w.Matches) : w.Delivers where
  balanced := h.balanced
  returned := h.returned
  waiting := h.holds.contents
  prompt := by
    intro events nowMs hactive hfits
    rcases h.holds.poll hactive hfits nowMs with ⟨frame, hhead, hsuccess, -⟩ | ⟨hnone, hfails, -⟩
    · refine iff_of_true hsuccess ?_
      intro hempty
      rw [hempty] at hhead
      cases hhead
    · refine iff_of_false ?_ (not_not.mpr hnone)
      rcases hfails with hfails | hfails <;> rw [hfails] <;> exact nofun

theorem matches_initial : ({} : MacWatch).Matches where
  holds := ⟨rfl, fun _ hframe => absurd hframe List.not_mem_nil⟩
  balanced := Watched.balanced_empty
  returned := rfl

theorem holds_beginReceive {m : MacReceive} {q : Watched (List UInt8)} (h : Holds m q)
    (timeoutMs nowMs : UInt32) : Holds (m.beginReceive timeoutMs nowMs).1 q := by
  unfold MacReceive.beginReceive
  split
  · exact h
  · exact ⟨h.contents, h.nonempty⟩

theorem matches_step {w : MacWatch} (h : w.Matches) {call : MacRxCall}
    (hfits : ∀ event ∈ call.events, event.Fits) : (w.step call).Matches := by
  cases call with
  | onTp1Event event =>
    have hevent := hfits event List.mem_cons_self
    exact {
      holds := h.holds.handleTp1Event hevent
      balanced := balanced_arriveEvents h.balanced [event]
      returned := h.returned.trans (handed_arriveEvents w.queue [event]).symm }
  | beginReceive timeoutMs nowMs =>
    exact ⟨holds_beginReceive h.holds timeoutMs nowMs, h.balanced, h.returned⟩
  | pollReceive events nowMs =>
    have hevents : ∀ event ∈ events, event.Fits := hfits
    obtain ⟨hholds, hanswer⟩ := h.holds.pollQueue hevents nowMs
    refine ⟨hholds, balanced_pollQueue h.balanced w.mac events nowMs, ?_⟩
    unfold step
    dsimp only
    rcases hanswer with ⟨frame, hsuccess, hview, hhanded⟩ | ⟨hfails, hhanded⟩
    · rw [if_pos hsuccess, hview, hhanded, h.returned]
      rfl
    · rw [if_neg hfails, hhanded, h.returned, List.append_nil]
  | receiveFrame timeoutMs startMs turns =>
    have hturns : ∀ turn ∈ turns, ∀ event ∈ turn.1, event.Fits := by
      intro turn hturn event hevent
      exact hfits event (List.mem_flatMap.mpr ⟨turn, hturn, hevent⟩)
    have hbegin := holds_beginReceive h.holds timeoutMs startMs
    unfold step
    dsimp only
    rcases hbegun : w.mac.beginReceive timeoutMs startMs with ⟨begun, answer⟩
    rw [hbegun] at hbegin
    cases answer with
    | error error => exact h
    | ok _ =>
      obtain ⟨hholds, hbalanced, hhanded⟩ := hbegin.receiveLoop timeoutMs turns h.balanced hturns
      refine ⟨hholds, hbalanced, ?_⟩
      dsimp only
      rw [hhanded, h.returned]

theorem matches_run (calls : List MacRxCall)
    (hfits : ∀ call ∈ calls, ∀ event ∈ call.events, event.Fits) : (run step {} calls).Matches := by
  have halong : Along step (fun _ (call : MacRxCall) => ∀ event ∈ call.events, event.Fits) {} calls :=
    along_of_forall_mem _ hfits
  have hstep : ∀ (w : MacWatch) (call : MacRxCall), w.Matches →
      (∀ event ∈ call.events, event.Fits) → (w.step call).Matches :=
    fun _ _ hw hcall => matches_step hw hcall
  exact run_invariant_along hstep matches_initial halong

/-- The receive queue, over every run in which the driver hands over frames of up to 256 octets. -/
theorem received_in_order (calls : List MacRxCall)
    (hfits : ∀ call ∈ calls, ∀ event ∈ call.events, event.Fits) : (run step {} calls).Delivers :=
  (matches_run calls hfits).delivers

/-- The largest frame that the queue takes and one that it refuses: an extended group telegram with a TPDU
of so many octets. -/
def longFrame (tpduSize : Nat) : List UInt8 :=
  let octets := [0x3C, 0xE0, 0x11, 0x01, 0x08, 0x01, UInt8.ofNat (tpduSize - 1)]
    ++ List.replicate tpduSize 0x00
  octets ++ [calculateChecksum octets]

theorem received_in_order_largest :
    (run step {} [.beginReceive 10 0, .onTp1Event ⟨false, longFrame 248⟩, .pollReceive [] 1]).Delivers :=
  received_in_order _ (by
    simp only [List.mem_cons, List.not_mem_nil, or_false, forall_eq_or_imp, forall_eq,
      MacRxCall.events, IsEmpty.forall_iff, implies_true, true_and, and_true]
    unfold RxEvent.Fits
    decide +kernel)

/-- A frame of 257 octets can be decoded, and is refused for its size. -/
theorem large_frame_refused :
    (∃ f, decodeFrame (longFrame 249) = .done f) ∧ (longFrame 249).length = 257
      ∧ (run step {} [.onTp1Event ⟨false, longFrame 249⟩]).queue.arrived = [longFrame 249]
      ∧ (run step {} [.onTp1Event ⟨false, longFrame 249⟩]).mac.rxFrames.contents = []
      ∧ ¬ (run step {} [.onTp1Event ⟨false, longFrame 249⟩]).Delivers := by
  have hcontents : (run step {} [.onTp1Event ⟨false, longFrame 249⟩]).mac.rxFrames.contents = [] := by
    decide +kernel
  have harrived : (run step {} [.onTp1Event ⟨false, longFrame 249⟩]).queue.waiting ≠ [] := by
    decide +kernel
  have hdecoded : (decodeFrame (longFrame 249)).toOption.isSome = true := by decide +kernel
  refine ⟨?_, by decide +kernel, by decide +kernel, hcontents, ?_⟩
  · cases hd : decodeFrame (longFrame 249) with
    | done f => exact ⟨f, rfl⟩
    | fail error =>
      rw [hd] at hdecoded
      cases hdecoded
    | outOfBounds i =>
      rw [hd] at hdecoded
      cases hdecoded
  · intro h
    exact harrived (h.waiting.symm.trans hcontents)

end MacWatch

end KnxStack.Physical
