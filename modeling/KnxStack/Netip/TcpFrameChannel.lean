import KnxStack.Netip.ControlPacket

/-!
# Frames on a TCP stream

`TcpFrameChannel::receiveFrame` (`netip/tcp_frame_channel.cpp`) reads the header of a frame, takes the
length of the frame from it, and reads the rest. Nothing is kept between two calls: what a call has
read when it fails is lost, and the next one takes what follows for a header.

A socket is the sequence of what its `receive` meets: segments as they arrive, and times when nothing
comes. `receiveFrame_of_frame` and `receiveFrame_of_timeout` are the two calls that stay on the
boundary of a frame, and `frames_in_order` is about runs of calls: the frames come back up to the first
that does not fit the buffer, as long as no timeout falls inside one.
-/

set_option autoImplicit false

namespace KnxStack.Netip

open KnxStack.Lib.Words

/-! ## Sockets -/

/-- What a call of `receive` can meet. -/
inductive Arrival where
  | segment (octets : List UInt8)
  | timeout
  deriving DecidableEq, Repr

/-- `TcpSocket`, as far as it is read. -/
structure TcpSocket where
  isOpen : Bool := true
  arrivals : List Arrival
  deriving DecidableEq, Repr

namespace TcpSocket

/-- `TcpSocket::receive` into a buffer of the given size: the octets, or nothing when it returns zero
or less. -/
def receive (socket : TcpSocket) (size : Nat) : Option (List UInt8) × TcpSocket :=
  match socket.arrivals with
  | [] => (none, socket)
  | .timeout :: rest => (none, { socket with arrivals := rest })
  | .segment octets :: rest =>
      if octets.length ≤ size then (some octets, { socket with arrivals := rest })
      else
        (some (octets.take size), { socket with arrivals := .segment (octets.drop size) :: rest })

end TcpSocket

/-! ## The channel -/

namespace TcpFrameChannel

/-- The loop of `readExact`: as long as octets are missing. Every turn brings one at least, so there
are no more turns than octets. -/
def readLoop : Nat → TcpSocket → Nat → List UInt8 → Result (List UInt8) × TcpSocket
  | 0, socket, _, received => (.ok received, socket)
  | turns + 1, socket, missing, received =>
      if missing = 0 then (.ok received, socket)
      else
        match socket.receive missing with
        | (none, socket) => (.error .transmissionFailed, socket)
        | (some [], socket) => (.error .transmissionFailed, socket)
        | (some octets, socket) =>
            readLoop turns socket (missing - octets.length) (received ++ octets)

/-- `readExact`. -/
def readExact (socket : TcpSocket) (size : Nat) : Result (List UInt8) × TcpSocket :=
  if !socket.isOpen then (.error .notInitialized, socket)
  else if size = 0 then (.error .invalidParameter, socket)
  else readLoop size socket size []

/-- `receiveFrame`: the octets of the frame as they stand in the buffer of the given size. -/
def receiveFrame (socket : TcpSocket) (bufferSize : Nat) : Result (List UInt8) × TcpSocket :=
  if !socket.isOpen then (.error .notInitialized, socket)
  else if bufferSize < headerLen then (.error .bufferTooSmall, socket)
  else
    match readExact socket headerLen with
    | (.error e, socket) => (.error e, socket)
    | (.ok header, socket) =>
        let totalLen := (joinBytes (header.getD 4 0) (header.getD 5 0)).toNat
        if totalLen < headerLen then (.error .invalidFrameSize, socket)
        else if bufferSize < totalLen then (.error .bufferTooSmall, socket)
        else if 0 < totalLen - headerLen then
          match readExact socket (totalLen - headerLen) with
          | (.error e, socket) => (.error e, socket)
          | (.ok body, socket) => (.ok (header ++ body), socket)
        else (.ok header, socket)

/-- The results of successive calls. -/
def outcomes (bufferSize : Nat) : Nat → TcpSocket → List (Result (List UInt8))
  | 0, _ => []
  | calls + 1, socket =>
      (receiveFrame socket bufferSize).1
        :: outcomes bufferSize calls (receiveFrame socket bufferSize).2

/-- The results without those of calls that ran into a timeout or the end of the stream. -/
def answers (results : List (Result (List UInt8))) : List (Result (List UInt8)) :=
  results.filter fun result => result ≠ .error .transmissionFailed

end TcpFrameChannel

/-- A KNXnet/IP frame: a header with the length of the whole. -/
structure FrameWellFormed (frame : List UInt8) : Prop where
  header : headerLen ≤ frame.length
  start : frame.getD 0 0 = 0x06 ∧ frame.getD 1 0 = 0x10
  total : (joinBytes (frame.getD 4 0) (frame.getD 5 0)).toNat = frame.length

/-! ## Streams -/

/-- The octets that arrive. -/
def streamOf (arrivals : List Arrival) : List UInt8 :=
  arrivals.flatMap fun
    | .segment octets => octets
    | .timeout => []

/-- How many octets have arrived before each timeout. -/
def timeoutsAt : List Arrival → List Nat
  | [] => []
  | .segment octets :: rest => (timeoutsAt rest).map (octets.length + ·)
  | .timeout :: rest => 0 :: timeoutsAt rest

/-- Every segment has octets. -/
def SegmentsFilled (arrivals : List Arrival) : Prop := Arrival.segment [] ∉ arrivals

instance (arrivals : List Arrival) : Decidable (SegmentsFilled arrivals) :=
  inferInstanceAs (Decidable (_ ∉ _))

/-- What is left to arrive after some octets were read. -/
structure Rest (arrivals : List Arrival) (read : Nat) (rest : List Arrival) : Prop where
  stream : streamOf rest = (streamOf arrivals).drop read
  timeouts : timeoutsAt rest = (timeoutsAt arrivals).map (· - read)
  filled : SegmentsFilled rest

theorem Rest.refl {arrivals : List Arrival} (h : SegmentsFilled arrivals) : Rest arrivals 0 arrivals :=
  ⟨List.drop_zero.symm, by simp, h⟩

theorem Rest.trans {arrivals middle rest : List Arrival} {read further : Nat}
    (h : Rest arrivals read middle) (h' : Rest middle further rest) :
    Rest arrivals (read + further) rest where
  stream := by rw [h'.stream, h.stream, List.drop_drop]
  timeouts := by
    rw [h'.timeouts, h.timeouts, List.map_map]
    apply List.map_congr_left
    intro p _
    simp only [Function.comp_apply]
    omega
  filled := h'.filled

namespace TcpFrameChannel

theorem readLoop_zero (turns : Nat) (socket : TcpSocket) (received : List UInt8) :
    readLoop turns socket 0 received = (.ok received, socket) := by
  cases turns <;> rfl

theorem readLoop_ready {isOpen : Bool} (turns : Nat) :
    ∀ {arrivals : List Arrival} {missing : Nat} {received : List UInt8}, missing ≤ turns →
      missing ≤ (streamOf arrivals).length → (∀ p ∈ timeoutsAt arrivals, missing ≤ p) →
      SegmentsFilled arrivals →
      ∃ rest, readLoop turns ⟨isOpen, arrivals⟩ missing received
          = (.ok (received ++ (streamOf arrivals).take missing), ⟨isOpen, rest⟩)
        ∧ Rest arrivals missing rest := by
  induction turns with
  | zero =>
    intro arrivals missing received hturns _ _ hfilled
    obtain rfl := Nat.le_zero.mp hturns
    exact ⟨arrivals, by simp [readLoop], Rest.refl hfilled⟩
  | succ turns ih =>
    intro arrivals missing received hturns hlength htimeouts hfilled
    -- Each turn takes one segment or a part of it, so the turns never run out before the octets do.
    by_cases hzero : missing = 0
    · subst hzero
      exact ⟨arrivals, by simp [readLoop], Rest.refl hfilled⟩
    · cases arrivals with
      | nil => exact absurd (Nat.le_zero.mp hlength) hzero
      | cons arrival later =>
        cases arrival with
        | timeout => exact absurd (Nat.le_zero.mp (htimeouts 0 List.mem_cons_self)) hzero
        | segment octets =>
          have hne : octets ≠ [] := by
            rintro rfl
            exact hfilled List.mem_cons_self
          have hlater : SegmentsFilled later := fun hmem => hfilled (List.mem_cons_of_mem _ hmem)
          have hstream : streamOf (.segment octets :: later) = octets ++ streamOf later := rfl
          obtain ⟨first, others, rfl⟩ := List.exists_cons_of_ne_nil hne
          by_cases hwhole : (first :: others).length ≤ missing
          · -- the whole segment, and more
            have hrest : missing - (first :: others).length ≤ (streamOf later).length := by
              rw [hstream, List.length_append] at hlength
              omega
            have hafter : ∀ p ∈ timeoutsAt later, missing - (first :: others).length ≤ p := by
              intro p hp
              have hle := htimeouts ((first :: others).length + p) (List.mem_map_of_mem hp)
              omega
            have hfewer : missing - (first :: others).length ≤ turns := by
              rw [List.length_cons]
              omega
            obtain ⟨rest, hread, hleft⟩ :=
              @ih later (missing - (first :: others).length) (received ++ first :: others) hfewer hrest hafter
                hlater
            refine ⟨rest, ?_, ?_⟩
            · rw [readLoop, if_neg hzero, TcpSocket.receive]
              simp only [if_pos hwhole]
              rw [hread, hstream, List.append_assoc, List.take_append,
                List.take_of_length_le hwhole]
            · refine ⟨?_, ?_, hleft.filled⟩
              · rw [hleft.stream, hstream, List.drop_append, List.drop_of_length_le hwhole,
                  List.nil_append]
              -- Positions of timeouts count from the octets that are still to come.
              · rw [hleft.timeouts, timeoutsAt, List.map_map]
                apply List.map_congr_left
                intro p _
                simp only [Function.comp_apply]
                omega
          · -- a part of the segment
            have hpart : ((first :: others).take missing).length = missing := by
              rw [List.length_take]
              omega
            refine ⟨.segment ((first :: others).drop missing) :: later, ?_, ?_⟩
            · rw [readLoop, if_neg hzero, TcpSocket.receive]
              simp only [if_neg hwhole]
              obtain ⟨k, rfl⟩ := Nat.exists_eq_succ_of_ne_zero hzero
              have htake : (first :: others).take (k + 1) = first :: others.take k := rfl
              rw [Nat.succ_eq_add_one] at hpart ⊢
              rw [htake] at hpart ⊢
              simp only [hpart, Nat.sub_self, readLoop_zero]
              rw [hstream, List.take_append_of_le_length (by omega), htake]
            · refine ⟨?_, ?_, ?_⟩
              · rw [hstream, List.drop_append_of_le_length (by omega)]
                rfl
              · rw [timeoutsAt, timeoutsAt, List.map_map, List.length_drop]
                apply List.map_congr_left
                intro p _
                simp only [Function.comp_apply]
                omega
              · intro hmem
                rcases List.mem_cons.mp hmem with hfirst | hmore
                · injection hfirst with hnil
                  have hlengthNil := congrArg List.length hnil
                  rw [List.length_drop, List.length_nil] at hlengthNil
                  omega
                · exact hlater hmore

theorem readExact_ready {arrivals : List Arrival} {size : Nat} (hpos : 0 < size)
    (hlength : size ≤ (streamOf arrivals).length) (htimeouts : ∀ p ∈ timeoutsAt arrivals, size ≤ p)
    (hfilled : SegmentsFilled arrivals) :
    ∃ rest, readExact ⟨true, arrivals⟩ size = (.ok ((streamOf arrivals).take size), ⟨true, rest⟩)
      ∧ Rest arrivals size rest := by
  obtain ⟨rest, hread, hleft⟩ :=
    @readLoop_ready true size arrivals size [] (Nat.le_refl size) hlength htimeouts hfilled
  refine ⟨rest, ?_, hleft⟩
  rw [readExact, if_neg (by simp), if_neg (by omega), hread, List.nil_append]

theorem getD_take_header {frame : List UInt8} {i : Nat} (hi : i < headerLen) :
    (frame.take headerLen).getD i 0 = frame.getD i 0 := by
  rw [List.getD_eq_getElem?_getD, List.getD_eq_getElem?_getD, List.getElem?_take_of_lt hi]

theorem receiveFrame_of_frame {arrivals : List Arrival} {frame later : List UInt8}
    {bufferSize : Nat} (hframe : FrameWellFormed frame) (hfits : frame.length ≤ bufferSize)
    (hstream : streamOf arrivals = frame ++ later)
    (htimeouts : ∀ p ∈ timeoutsAt arrivals, frame.length ≤ p) (hfilled : SegmentsFilled arrivals) :
    ∃ rest, receiveFrame ⟨true, arrivals⟩ bufferSize = (.ok frame, ⟨true, rest⟩)
      ∧ Rest arrivals frame.length rest := by
  have hheader := hframe.header
  have htotal := hframe.total
  have hlength : frame.length ≤ (streamOf arrivals).length := by
    rw [hstream, List.length_append]
    exact Nat.le_add_right _ _
  -- The header first: it tells the length of the body.
  obtain ⟨middle, hread, hleft⟩ := @readExact_ready arrivals headerLen (by decide)
    (Nat.le_trans hheader hlength) (fun p hp => Nat.le_trans hheader (htimeouts p hp)) hfilled
  have hfirst : (streamOf arrivals).take headerLen = frame.take headerLen := by
    rw [hstream, List.take_append_of_le_length hheader]
  rw [receiveFrame, if_neg (by simp), if_neg (by omega), hread, hfirst]
  simp only [getD_take_header (show 4 < headerLen by decide),
    getD_take_header (show 5 < headerLen by decide), htotal]
  rw [if_neg (by omega), if_neg (by omega)]
  by_cases hbody : 0 < frame.length - headerLen
  · -- the body starts where the header was left, and no timeout falls inside it
    have hrest : streamOf middle = (frame ++ later).drop headerLen := by
      rw [hleft.stream, hstream]
    have hmiddle : frame.length - headerLen ≤ (streamOf middle).length := by
      rw [hrest, List.length_drop, List.length_append]
      omega
    have hafter : ∀ p ∈ timeoutsAt middle, frame.length - headerLen ≤ p := by
      intro p hp
      rw [hleft.timeouts] at hp
      obtain ⟨q, hq, rfl⟩ := List.mem_map.mp hp
      have hle := htimeouts q hq
      omega
    obtain ⟨rest, hread', hleft'⟩ := readExact_ready hbody hmiddle hafter hleft.filled
    have hbodyOctets : (streamOf middle).take (frame.length - headerLen) = frame.drop headerLen := by
      rw [hrest, List.drop_append_of_le_length hheader]
      exact List.take_left' (List.length_drop)
    refine ⟨rest, ?_, ?_⟩
    · rw [if_pos hbody, hread', hbodyOctets]
      simp only [List.take_append_drop]
    · have hboth := hleft.trans hleft'
      rwa [Nat.add_sub_cancel' hheader] at hboth
  · have hall : frame.length = headerLen := by omega
    refine ⟨middle, ?_, ?_⟩
    · rw [if_neg hbody, List.take_of_length_le (Nat.le_of_eq hall)]
    · rwa [hall]

theorem receiveFrame_of_timeout {rest : List Arrival} {bufferSize : Nat}
    (hbuffer : headerLen ≤ bufferSize) :
    receiveFrame ⟨true, .timeout :: rest⟩ bufferSize
      = (.error .transmissionFailed, ⟨true, rest⟩) := by
  rw [receiveFrame, if_neg (by simp), if_neg (by omega)]
  rfl

theorem receiveFrame_of_oversized {arrivals : List Arrival} {frame later : List UInt8}
    {bufferSize : Nat} (hbuffer : headerLen ≤ bufferSize) (hframe : FrameWellFormed frame)
    (hfits : bufferSize < frame.length) (hstream : streamOf arrivals = frame ++ later)
    (htimeouts : ∀ p ∈ timeoutsAt arrivals, frame.length ≤ p) (hfilled : SegmentsFilled arrivals) :
    (receiveFrame ⟨true, arrivals⟩ bufferSize).1 = .error .bufferTooSmall := by
  have hheader := hframe.header
  have hlength : headerLen ≤ (streamOf arrivals).length := by
    rw [hstream, List.length_append]
    exact Nat.le_add_right_of_le hheader
  obtain ⟨middle, hread, -⟩ := @readExact_ready arrivals headerLen (by decide) hlength
    (fun p hp => Nat.le_trans hheader (htimeouts p hp)) hfilled
  rw [receiveFrame, if_neg (by simp), if_neg (by omega), hread, hstream,
    List.take_append_of_le_length hheader]
  simp only [getD_take_header (show 4 < headerLen by decide),
    getD_take_header (show 5 < headerLen by decide), hframe.total]
  rw [if_neg (by omega), if_pos hfits]

/-! ## Runs -/

theorem answers_outcomes_nil {bufferSize : Nat} (hbuffer : headerLen ≤ bufferSize) (calls : Nat) :
    answers (outcomes bufferSize calls ⟨true, []⟩) = [] := by
  have hfails : receiveFrame ⟨true, []⟩ bufferSize = (.error .transmissionFailed, ⟨true, []⟩) := by
    rw [receiveFrame, if_neg (by simp), if_neg (by omega)]
    rfl
  induction calls with
  | zero => rfl
  | succ calls ih =>
    rw [outcomes, hfails]
    exact ih

theorem answers_outcomes_timeout {bufferSize : Nat} (hbuffer : headerLen ≤ bufferSize) (calls : Nat)
    (rest : List Arrival) :
    answers (outcomes bufferSize (calls + 1) ⟨true, .timeout :: rest⟩)
      = answers (outcomes bufferSize calls ⟨true, rest⟩) := by
  rw [outcomes, receiveFrame_of_timeout hbuffer]
  rfl

theorem answers_outcomes_silent {bufferSize : Nat} (hbuffer : headerLen ≤ bufferSize) (calls : Nat) :
    ∀ {arrivals : List Arrival}, SegmentsFilled arrivals → streamOf arrivals = [] →
      answers (outcomes bufferSize calls ⟨true, arrivals⟩) = [] := by
  induction calls with
  | zero => exact fun _ _ => rfl
  | succ calls ih =>
    intro arrivals hfilled hstream
    match arrivals with
    | [] => exact answers_outcomes_nil hbuffer (calls + 1)
    | .timeout :: rest =>
      rw [answers_outcomes_timeout hbuffer]
      exact ih (fun hmem => hfilled (List.mem_cons_of_mem _ hmem)) hstream
    | .segment octets :: rest =>
      have hnil : octets = [] := (List.append_eq_nil_iff.mp hstream).1
      subst hnil
      exact absurd List.mem_cons_self hfilled

/-- What is to be reported for a sequence of frames, up to the first that does not fit. -/
def reports (bufferSize : Nat) : List (List UInt8) → List (Result (List UInt8))
  | [] => []
  | frame :: frames =>
      if frame.length ≤ bufferSize then .ok frame :: reports bufferSize frames
      else [.error .bufferTooSmall]

/-- A place between two frames, or at an end. -/
def AtBoundary (frames : List (List UInt8)) (p : Nat) : Prop :=
  ∃ k ≤ frames.length, p = (frames.take k).flatten.length

theorem AtBoundary.of_cons {frame : List UInt8} {frames : List (List UInt8)} {p : Nat}
    (h : AtBoundary (frame :: frames) p) (hpos : 0 < p) :
    frame.length ≤ p ∧ AtBoundary frames (p - frame.length) := by
  obtain ⟨k, hk, rfl⟩ := h
  cases k with
  | zero => exact absurd hpos (by simp)
  | succ k =>
    rw [List.take_succ_cons, List.flatten_cons, List.length_append]
    exact ⟨Nat.le_add_right _ _, k, Nat.le_of_succ_le_succ hk, by omega⟩

theorem timeoutsAt_segment_pos {octets : List UInt8} {rest : List Arrival}
    (hfilled : SegmentsFilled (.segment octets :: rest)) {p : Nat}
    (hp : p ∈ timeoutsAt (.segment octets :: rest)) : 0 < p := by
  obtain ⟨q, -, rfl⟩ := List.mem_map.mp hp
  have hne : octets ≠ [] := by
    rintro rfl
    exact hfilled List.mem_cons_self
  have hpos := List.length_pos_of_ne_nil hne
  omega

/-- What stands in front of a stream that starts with a segment: the first frame is there whole. -/
theorem timeouts_behind_first {frame : List UInt8} {frames : List (List UInt8)} {octets : List UInt8}
    {rest : List Arrival} (hfilled : SegmentsFilled (.segment octets :: rest))
    (hcut : ∀ p ∈ timeoutsAt (.segment octets :: rest),
      p < (frame :: frames).flatten.length → AtBoundary (frame :: frames) p) :
    ∀ p ∈ timeoutsAt (.segment octets :: rest), frame.length ≤ p := by
  intro p hp
  rw [List.flatten_cons, List.length_append] at hcut
  by_cases hlate : p < frame.length + frames.flatten.length
  · exact ((hcut p hp hlate).of_cons (timeoutsAt_segment_pos hfilled hp)).1
  · omega

theorem answers_outcomes_frames {bufferSize : Nat} (hbuffer : headerLen ≤ bufferSize) (calls : Nat) :
    ∀ {frames : List (List UInt8)} {later : List UInt8} {arrivals : List Arrival},
      (∀ frame ∈ frames, FrameWellFormed frame) → SegmentsFilled arrivals →
      streamOf arrivals = frames.flatten ++ later →
      (∀ p ∈ timeoutsAt arrivals, p < frames.flatten.length → AtBoundary frames p) →
      frames.length + (timeoutsAt arrivals).length ≤ calls →
      reports bufferSize frames <+: answers (outcomes bufferSize calls ⟨true, arrivals⟩)
        ∧ (later = [] → (∀ frame ∈ frames, frame.length ≤ bufferSize) →
            answers (outcomes bufferSize calls ⟨true, arrivals⟩) = frames.map .ok) := by
  induction calls with
  | zero =>
    intro frames later arrivals _ _ _ _ hcalls
    have hnil : frames = [] := List.length_eq_zero_iff.mp (by omega)
    subst hnil
    exact ⟨List.nil_prefix, fun _ _ => rfl⟩
  | succ calls ih =>
    intro frames later arrivals hwell hfilled hstream hcut hcalls
    match frames with
    | [] =>
      refine ⟨List.nil_prefix, ?_⟩
      rintro rfl -
      exact answers_outcomes_silent hbuffer (calls + 1) hfilled hstream
    | frame :: frames =>
      have hframe := hwell frame List.mem_cons_self
      have hlater : ∀ f ∈ frames, FrameWellFormed f := fun f hf => hwell f (List.mem_cons_of_mem _ hf)
      have hfirst : streamOf arrivals = frame ++ (frames.flatten ++ later) := by
        rw [hstream, List.flatten_cons, List.append_assoc]
      match arrivals with
      | [] =>
        have hnil : frame = [] := (List.append_eq_nil_iff.mp hfirst.symm).1
        have hheader := hframe.header
        rw [hnil] at hheader
        exact absurd hheader (by decide)
      | .timeout :: rest =>
        -- the call is spent on the timeout
        rw [answers_outcomes_timeout hbuffer]
        apply ih hwell (fun hmem => hfilled (List.mem_cons_of_mem _ hmem)) hstream
        · exact fun p hp => hcut p (List.mem_cons_of_mem _ hp)
        · simp only [timeoutsAt, List.length_cons] at hcalls ⊢
          omega
      | .segment octets :: rest =>
        -- no timeout before the end of the frame, so the call reaches it
        have hbehind := timeouts_behind_first hfilled hcut
        by_cases hfits : frame.length ≤ bufferSize
        · obtain ⟨left, hread, hleft⟩ :=
            receiveFrame_of_frame hframe hfits hfirst hbehind hfilled
          have hstream' : streamOf left = frames.flatten ++ later := by
            rw [hleft.stream, hfirst, List.drop_left]
          have hcut' : ∀ p ∈ timeoutsAt left, p < frames.flatten.length → AtBoundary frames p := by
            intro p hp hlt
            rw [hleft.timeouts] at hp
            obtain ⟨q, hq, rfl⟩ := List.mem_map.mp hp
            have hle := hbehind q hq
            refine ((hcut q hq ?_).of_cons (timeoutsAt_segment_pos hfilled hq)).2
            rw [List.flatten_cons, List.length_append]
            omega
          have hcalls' : frames.length + (timeoutsAt left).length ≤ calls := by
            rw [hleft.timeouts, List.length_map]
            rw [List.length_cons] at hcalls
            omega
          obtain ⟨hreports, hall⟩ := ih hlater hleft.filled hstream' hcut' hcalls'
          have hanswers : answers (outcomes bufferSize (calls + 1) ⟨true, .segment octets :: rest⟩)
              = .ok frame :: answers (outcomes bufferSize calls ⟨true, left⟩) := by
            rw [outcomes, hread]
            rfl
          rw [hanswers]
          constructor
          · rw [reports, if_pos hfits]
            exact List.cons_prefix_cons.mpr ⟨rfl, hreports⟩
          · intro hnil hfit
            rw [hall hnil fun f hf => hfit f (List.mem_cons_of_mem _ hf), List.map_cons]
        · constructor
          · rw [reports, if_neg hfits, outcomes,
              receiveFrame_of_oversized hbuffer hframe (by omega) hfirst hbehind hfilled]
            exact List.cons_prefix_cons.mpr ⟨rfl, List.nil_prefix⟩
          · exact fun _ hfit => absurd (hfit frame List.mem_cons_self) hfits

/-- Frames in order. Frames that arrive in any segments, with timeouts between them, are returned
in order up to the first that does not fit the buffer, which is reported; when all fit, nothing else
is. What comes behind them may be anything. -/
theorem frames_in_order {bufferSize calls : Nat} {frames : List (List UInt8)} {later : List UInt8}
    {arrivals : List Arrival} (hbuffer : headerLen ≤ bufferSize)
    (hwell : ∀ frame ∈ frames, FrameWellFormed frame) (hfilled : SegmentsFilled arrivals)
    (hstream : streamOf arrivals = frames.flatten ++ later)
    (hcut : ∀ p ∈ timeoutsAt arrivals, p < frames.flatten.length → AtBoundary frames p)
    (hcalls : frames.length + (timeoutsAt arrivals).length ≤ calls) :
    reports bufferSize frames <+: answers (outcomes bufferSize calls ⟨true, arrivals⟩)
      ∧ (later = [] → (∀ frame ∈ frames, frame.length ≤ bufferSize) →
          answers (outcomes bufferSize calls ⟨true, arrivals⟩) = frames.map .ok) :=
  answers_outcomes_frames hbuffer calls hwell hfilled hstream hcut hcalls

/-- A frame with two octets of body, and one that is a header alone. -/
def searchLike : List UInt8 := [0x06, 0x10, 0x02, 0x05, 0x00, 0x08, 0xAA, 0x55]

def headerAlone : List UInt8 := [0x06, 0x10, 0x02, 0x06, 0x00, 0x06]

/-- Two frames in three segments, one of them across the boundary, and a timeout in front. -/
theorem frames_in_order_three_segments :
    answers (outcomes 64 4 ⟨true, [.timeout, .segment [0x06, 0x10, 0x02],
        .segment [0x05, 0x00, 0x08, 0xAA, 0x55, 0x06, 0x10], .segment [0x02, 0x06, 0x00, 0x06]]⟩)
      = [.ok searchLike, .ok headerAlone] :=
  (@frames_in_order 64 4 [searchLike, headerAlone] []
    [.timeout, .segment [0x06, 0x10, 0x02],
      .segment [0x05, 0x00, 0x08, 0xAA, 0x55, 0x06, 0x10], .segment [0x02, 0x06, 0x00, 0x06]]
    (by decide)
    (by
      intro frame hframe
      rcases List.mem_pair.mp hframe with rfl | rfl
      · exact ⟨by decide, by decide, by decide⟩
      · exact ⟨by decide, by decide, by decide⟩)
    (by decide) (by decide)
    (by
      intro p hp _
      rcases List.mem_singleton.mp hp
      exact ⟨0, by decide, by decide⟩)
    (by decide)).2 rfl (by decide)

/-- A timeout inside a frame loses it: the octets of the call that met it are gone. And behind a frame
that does not fit, its body is taken for a header. -/
theorem frame_lost_at_timeout :
    (¬ ∃ enough, ∀ calls ≥ enough,
      answers (outcomes 64 calls ⟨true, [.segment [0x06, 0x10, 0x02], .timeout,
          .segment [0x05, 0x00, 0x08, 0xAA, 0x55]]⟩) = [.ok searchLike])
    ∧ ¬ ∃ enough, ∀ calls ≥ enough,
        answers (outcomes 6 calls ⟨true, [.segment (searchLike ++ headerAlone)]⟩)
          = [.error .bufferTooSmall, .ok headerAlone] := by
  constructor
  · rintro ⟨enough, h⟩
    have hrun : ∀ calls, answers (outcomes 64 (calls + 2) ⟨true, [.segment [0x06, 0x10, 0x02],
        .timeout, .segment [0x05, 0x00, 0x08, 0xAA, 0x55]]⟩)
          = answers (outcomes 64 calls ⟨true, []⟩) := fun _ => rfl
    have hall := h (enough + 2) (Nat.le_add_right _ _)
    rw [hrun, answers_outcomes_nil (by decide)] at hall
    cases hall
  · rintro ⟨enough, h⟩
    have hrun : ∀ calls, answers (outcomes 6 (calls + 3) ⟨true, [.segment (searchLike ++ headerAlone)]⟩)
          = .error .bufferTooSmall :: .error .bufferTooSmall
              :: answers (outcomes 6 calls ⟨true, []⟩) := fun _ => rfl
    have hall := h (enough + 3) (Nat.le_add_right _ _)
    rw [hrun, answers_outcomes_nil (by decide)] at hall
    cases hall

end TcpFrameChannel

end KnxStack.Netip
