import KnxStack.Netip.DeviceManagement

/-!
# Requests of the device-management client

What `beginReadProperty` and `beginWriteProperty` write and send (`netip/device_management.cpp`): the
request goes to one buffer, the frame around it to another of the same size, and its number comes from
the session (`netip/tunneling_session_client.cpp`).

- `frames_inside_iff`: when the frame stays in its buffer. The check of the request leaves no room for
  the header of the frame.
- `numbers_kept_iff`: when an operation that fails takes no number. The number is taken before all
  checks.
-/

set_option autoImplicit false

namespace KnxStack.Netip.DeviceManagement

open KnxStack.Lib KnxStack.Lib.Octets KnxStack.Lib.Words

/-! ## Buffers -/

/-- `DatagramBuffer`. -/
abbrev DatagramBuffer (capacity : Nat) : Type := { octets : List UInt8 // octets.length = capacity }

/-- Octets copied into a buffer, or past its end. -/
def DatagramBuffer.put {capacity : Nat} (buffer : DatagramBuffer capacity) (offset : Nat)
    (octets : List UInt8) : Checked ErrorCode (DatagramBuffer capacity) :=
  if h : offset + octets.length ≤ buffer.1.length then
    .done ⟨overwrite buffer.1 offset octets, by rw [length_overwrite h, buffer.2]⟩
  else .outOfBounds buffer.1.length

/-- `requestBuffer` and `frameBuffer`. -/
structure Buffers (capacity : Nat) where
  request : DatagramBuffer capacity
  frame : DatagramBuffer capacity

/-- The result of a function without reads by index. -/
def ofResult {α : Type} : Result α → Checked ErrorCode α
  | .ok a => .done a
  | .error e => .fail e

/-- A property request of the client: with data it is a write. -/
inductive PropertyRequest where
  | read (target : PropertyAccessTarget)
  | write (target : PropertyAccessTarget) (data : List UInt8)
  deriving DecidableEq, Repr

namespace PropertyRequest

/-- What is asked for. -/
def target : PropertyRequest → PropertyAccessTarget
  | .read target => target
  | .write target _ => target

/-- How many octets of data go with it. -/
def dataLength : PropertyRequest → Nat
  | .read _ => 0
  | .write _ data => data.length

/-- The kind of the operation. -/
def kind : PropertyRequest → OperationType
  | .read _ => .propertyRead
  | .write _ _ => .propertyWrite

/-- `encodePropertyReadRequest` or `encodePropertyWriteRequest`. -/
def encode (capacity : Nat) (connection : ConnectionHeader) : PropertyRequest → Result (List UInt8)
  | .read target => encodePropertyReadRequest capacity connection target
  | .write target data => encodePropertyWriteRequest capacity connection target data

/-- `beginReadProperty` or `beginWriteProperty`. -/
def begin (c : Client) (e : Env) (responseSize : Nat) (timeoutMs : Int) :
    PropertyRequest → Client × Result Unit
  | .read target => c.beginReadProperty e target responseSize timeoutMs
  | .write target data => c.beginWriteProperty e target data responseSize timeoutMs

end PropertyRequest

namespace Client

variable (c : Client)

/-- The frame around a request, in `frameBuffer`: the buffer and the octets that are sent. -/
def buildFrame (b : Buffers c.bufferSize) (requestPayload : List UInt8) :
    Checked ErrorCode (Buffers c.bufferSize × List UInt8) :=
  if c.isOpen = false then .fail .notInitialized
  else if 65535 - headerLen < requestPayload.length then .fail .invalidFrameSize
  else do
    let frame ← b.frame.put 0 (encodeHeader deviceConfigurationRequestService requestPayload.length)
    let frame ← frame.put headerLen requestPayload
    .done ({ b with frame := frame }, frame.1.take (headerLen + requestPayload.length))

/-- A property request up to the socket: the buffers and the octets that are sent. -/
def writeRequest (b : Buffers c.bufferSize) (e : Env) (request : PropertyRequest)
    (responseSize : Nat) : Checked ErrorCode (Buffers c.bufferSize × List UInt8) := do
  let header ← ofResult (c.makeRequestConnectionHeader e)
  let payload ← ofResult (request.encode c.bufferSize header)
  let requestBuffer ← b.request.put 0 payload
  if c.operation.active then .fail .busy
  else if responseSize = 0 then .fail .invalidParameter
  else c.buildFrame { b with request := requestBuffer } (requestBuffer.1.take payload.length)

end Client

/-! ## What is encoded -/

theorem encode_cases (capacity : Nat) (connection : ConnectionHeader) (request : PropertyRequest) :
    (∃ error, request.encode capacity connection = .error error
        ∧ (capacity < 11 + request.dataLength ∨ ∃ error, validateTarget request.target = .error error))
      ∨ ∃ octets, request.encode capacity connection = .ok octets
        ∧ octets.length = 11 + request.dataLength ∧ 11 + request.dataLength ≤ capacity
        ∧ validateTarget request.target = .ok () ∧ octets.getD 2 0 = connection.sequenceCounter := by
  cases request with
  | read target =>
    simp only [PropertyRequest.encode, PropertyRequest.dataLength, PropertyRequest.target,
      encodePropertyReadRequest]
    by_cases hshort : capacity < 11
    · exact .inl ⟨_, if_pos hshort, .inl hshort⟩
    · rw [if_neg hshort, encodeProperty]
      cases htarget : validateTarget target with
      | error error => exact .inl ⟨error, rfl, .inr ⟨error, rfl⟩⟩
      | ok _ => exact .inr ⟨_, rfl, rfl, Nat.not_lt.mp hshort, rfl, rfl⟩
  | write target data =>
    simp only [PropertyRequest.encode, PropertyRequest.dataLength, PropertyRequest.target,
      encodePropertyWriteRequest]
    by_cases hshort : capacity < 11 + data.length
    · exact .inl ⟨_, if_pos hshort, .inl hshort⟩
    · rw [if_neg hshort, encodeProperty]
      cases htarget : validateTarget target with
      | error error => exact .inl ⟨error, rfl, .inr ⟨error, rfl⟩⟩
      | ok _ =>
        refine .inr ⟨_, rfl, ?_, Nat.not_lt.mp hshort, rfl, rfl⟩
        rw [List.length_append]
        rfl

/-- A request that is refused before its frame is built: there is no header for it, it does not fit the
request buffer, its target is invalid, an operation is active, there is no room for a response, or the
client is closed. A frame has sixteen bits for its length. -/
inductive Refused (c : Client) (e : Env) (request : PropertyRequest) (responseSize : Nat) : Prop
  | header (error : ErrorCode) (h : c.makeRequestConnectionHeader e = .error error)
  | size (h : c.bufferSize < 11 + request.dataLength)
  | target (error : ErrorCode) (h : validateTarget request.target = .error error)
  | busy (h : c.operation.active = true)
  | response (h : responseSize = 0)
  | closed (h : c.isOpen = false)
  | length (h : 65535 - headerLen < 11 + request.dataLength)

section

variable {c : Client} {e : Env} {request : PropertyRequest} {responseSize : Nat}

theorem writeRequest_cases (b : Buffers c.bufferSize) :
    (Refused c e request responseSize
        ∧ ∃ error, c.writeRequest b e request responseSize = .fail error)
      ∨ ¬ Refused c e request responseSize
        ∧ ∃ header payload requestBuffer, c.makeRequestConnectionHeader e = .ok header
          ∧ request.encode c.bufferSize header = .ok payload
          ∧ payload.length = 11 + request.dataLength
          ∧ payload.getD 2 0 = header.sequenceCounter
          ∧ c.operation.active = false ∧ responseSize ≠ 0 ∧ c.isOpen = true
          ∧ payload.length ≤ 65535 - headerLen
          ∧ c.writeRequest b e request responseSize
            = c.buildFrame { b with request := requestBuffer } payload := by
  rw [Client.writeRequest]
  cases hheader : c.makeRequestConnectionHeader e with
  | error error => exact .inl ⟨.header error hheader, error, rfl⟩
  | ok header =>
    simp only [ofResult, Checked.done_bind]
    obtain ⟨error, hencode, hreason⟩ | ⟨payload, hencode, hlength, hroom, htarget, hsequence⟩ :=
      encode_cases c.bufferSize header request
    · rw [hencode]
      refine .inl ⟨?_, error, rfl⟩
      rcases hreason with hsize | ⟨error, htarget⟩
      · exact .size hsize
      · exact .target error htarget
    · rw [hencode]
      -- The request buffer is as large as the capacity the encoding was checked against.
      have hfits : 0 + payload.length ≤ b.request.1.length := by
        rw [b.request.2, hlength]
        omega
      have hwritten : (overwrite b.request.1 0 payload).take payload.length = payload := by
        rw [overwrite, List.take_zero, List.nil_append, List.take_left]
      simp only [Checked.done_bind, DatagramBuffer.put, dif_pos hfits, hwritten]
      by_cases hactive : c.operation.active = true
      · rw [if_pos hactive]
        exact .inl ⟨.busy hactive, _, rfl⟩
      rw [if_neg hactive]
      by_cases hresponse : responseSize = 0
      · rw [if_pos hresponse]
        exact .inl ⟨.response hresponse, _, rfl⟩
      rw [if_neg hresponse]
      by_cases hclosed : c.isOpen = false
      · rw [Client.buildFrame, if_pos hclosed]
        exact .inl ⟨.closed hclosed, _, rfl⟩
      by_cases hlong : 65535 - headerLen < payload.length
      · rw [Client.buildFrame, if_neg hclosed, if_pos hlong]
        exact .inl ⟨.length (hlength ▸ hlong), _, rfl⟩
      refine .inr ⟨?_, header, payload, ⟨overwrite b.request.1 0 payload, _⟩, rfl, hencode, hlength,
        hsequence, by simpa using hactive, hresponse, by simpa using hclosed, Nat.not_lt.mp hlong,
        rfl⟩
      -- Each reason to refuse is one of the checks that were passed.
      rintro (⟨error, h⟩ | h | ⟨error, h⟩ | h | h | h | h)
      · rw [hheader] at h
        cases h
      · omega
      · rw [htarget] at h
        cases h
      · exact hactive h
      · exact hresponse h
      · exact hclosed h
      · omega

/-- A request and its frame stay in their buffers: nothing is written outside, and what is sent is
what the frame buffer holds, as long as the header says. -/
def FrameInside (c : Client) (b : Buffers c.bufferSize) (e : Env) (request : PropertyRequest)
    (responseSize : Nat) : Prop :=
  match c.writeRequest b e request responseSize with
  | .fail _ => True
  | .outOfBounds _ => False
  | .done (b', sent) =>
      sent = b'.frame.1.take sent.length ∧ sent.length = headerLen + 11 + request.dataLength
        ∧ (joinBytes (sent.getD 4 0) (sent.getD 5 0)).toNat = sent.length

theorem buildFrame_eq (b : Buffers c.bufferSize) {payload : List UInt8} (hopen : c.isOpen = true)
    (hlength : payload.length ≤ 65535 - headerLen) :
    (c.bufferSize < headerLen + payload.length ∧ ∃ i, c.buildFrame b payload = .outOfBounds i)
      ∨ headerLen + payload.length ≤ c.bufferSize
        ∧ ∃ frame : DatagramBuffer c.bufferSize,
          frame.1.take (headerLen + payload.length)
            = encodeHeader Client.deviceConfigurationRequestService payload.length ++ payload
          ∧ c.buildFrame b payload = .done ({ b with frame := frame },
            encodeHeader Client.deviceConfigurationRequestService payload.length ++ payload) := by
  have hheaderLength :
      (encodeHeader Client.deviceConfigurationRequestService payload.length).length = headerLen := rfl
  generalize hheader : encodeHeader Client.deviceConfigurationRequestService payload.length = header
    at hheaderLength
  rw [Client.buildFrame, if_neg (by simp [hopen]), if_neg (Nat.not_lt.mpr hlength), hheader]
  simp only [DatagramBuffer.put]
  by_cases hfirst : 0 + header.length ≤ b.frame.1.length
  · rw [dif_pos hfirst]
    simp only [Checked.done_bind]
    -- The header is written; what does not fit may be the payload behind it.
    have hcapacity : (overwrite b.frame.1 0 header).length = c.bufferSize := by
      rw [length_overwrite hfirst, b.frame.2]
    by_cases hroom : headerLen + payload.length ≤ c.bufferSize
    · have hput : headerLen + payload.length ≤ (overwrite b.frame.1 0 header).length := by omega
      have htake : (overwrite (overwrite b.frame.1 0 header) headerLen payload).take
          (headerLen + payload.length) = header ++ payload := by
        have hbefore : (overwrite b.frame.1 0 header).take headerLen = header := by
          rw [overwrite, List.take_zero, List.nil_append, List.take_left' hheaderLength]
        rw [overwrite, hbefore]
        exact List.take_left' (by rw [List.length_append, hheaderLength])
      rw [dif_pos hput]
      refine .inr ⟨hroom, ⟨overwrite (overwrite b.frame.1 0 header) headerLen payload, ?_⟩, htake, ?_⟩
      · rw [length_overwrite hput, hcapacity]
      · simp only [Checked.done_bind, htake]
    · rw [dif_neg (by omega)]
      exact .inl ⟨by omega, _, rfl⟩
  · rw [dif_neg hfirst]
    rw [b.frame.2] at hfirst
    exact .inl ⟨by omega, _, rfl⟩

theorem frame_inside_iff (c : Client) (b : Buffers c.bufferSize) (e : Env)
    (request : PropertyRequest) (responseSize : Nat) :
    FrameInside c b e request responseSize
      ↔ Refused c e request responseSize ∨ headerLen + 11 + request.dataLength ≤ c.bufferSize := by
  obtain ⟨hrefused, error, hfail⟩ | ⟨hpassed, header, payload, requestBuffer, -, -, hlength, -, -, -,
    hopen, hsmall, hbuild⟩ := @writeRequest_cases c e request responseSize b
  · rw [FrameInside, hfail]
    exact ⟨fun _ => .inl hrefused, fun _ => trivial⟩
  · rw [FrameInside, hbuild]
    obtain ⟨hlarge, i, hpast⟩ | ⟨hroom, frame, htake, hdone⟩ :=
      buildFrame_eq { b with request := requestBuffer } hopen hsmall
    · rw [hpast]
      refine ⟨False.elim, ?_⟩
      rintro (h | h)
      · exact hpassed h
      · omega
    · rw [hdone]
      refine ⟨fun _ => .inr (by omega), fun _ => ?_⟩
      dsimp only
      have hsent : (encodeHeader Client.deviceConfigurationRequestService payload.length
          ++ payload).length = headerLen + payload.length := by
        rw [List.length_append]
        rfl
      refine ⟨by rw [hsent, htake], by omega, ?_⟩
      rw [hsent]
      change (joinBytes (highByte (UInt16.ofNat (headerLen + payload.length)))
        (lowByte (UInt16.ofNat (headerLen + payload.length)))).toNat = _
      rw [joinBytes_highByte_lowByte, headerLen]
      rw [headerLen] at hsmall
      apply UInt16.toNat_ofNat_of_lt'
      show 6 + payload.length < 65536
      omega

/-- What `beginReadProperty` and `beginWriteProperty` have in common. -/
theorem begin_eq (c : Client) (e : Env) (request : PropertyRequest) (responseSize : Nat)
    (timeoutMs : Int) :
    request.begin c e responseSize timeoutMs
      = match c.makeRequestConnectionHeader e with
        | .error error => (c, .error error)
        | .ok header =>
          match request.encode c.bufferSize header with
          | .error error => (c, .error error)
          | .ok payload =>
              c.beginOperation e request.kind payload header responseSize timeoutMs := by
  cases request <;> rfl

theorem begin_of_refused (hrefused : Refused c e request responseSize) (timeoutMs : Int) :
    ∃ error, request.begin c e responseSize timeoutMs = (c, .error error) := by
  rw [begin_eq]
  cases hheader : c.makeRequestConnectionHeader e with
  | error error => exact ⟨error, rfl⟩
  | ok header =>
    dsimp only
    obtain ⟨error, hencode, -⟩ | ⟨payload, hencode, hlength, hroom, htarget, -⟩ :=
      encode_cases c.bufferSize header request
    · rw [hencode]
      exact ⟨error, rfl⟩
    · rw [hencode]
      dsimp only
      rw [Client.beginOperation]
      split
      · exact ⟨_, rfl⟩
      split
      · exact ⟨_, rfl⟩
      · rename_i hactive hresponse
        rw [Client.sendConfigurationRequest]
        rcases hrefused with ⟨error, h⟩ | h | ⟨error, h⟩ | h | h | h | h
        · rw [hheader] at h
          cases h
        · omega
        · rw [htarget] at h
          cases h
        · exact absurd h hactive
        · exact absurd h hresponse
        · rw [if_pos h]
          exact ⟨_, rfl⟩
        · rw [← hlength] at h
          by_cases hclosed : c.isOpen = false
          · rw [if_pos hclosed]
            exact ⟨_, rfl⟩
          · rw [if_neg hclosed, if_pos h]
            exact ⟨_, rfl⟩

theorem begin_of_not_refused (hpassed : ¬ Refused c e request responseSize) (timeoutMs : Int) :
    ∃ header payload, c.makeRequestConnectionHeader e = .ok header
      ∧ request.encode c.bufferSize header = .ok payload
      ∧ payload.getD 2 0 = header.sequenceCounter
      ∧ request.begin c e responseSize timeoutMs
        = match e.send (encodeHeader Client.deviceConfigurationRequestService payload.length
            ++ payload) with
          | .error error => (c, .error error)
          | .ok () =>
            ({ c with operation := ⟨true, request.kind, e.nowMs, timeoutMs, header, responseSize⟩ },
              .ok ()) := by
  cases hheader : c.makeRequestConnectionHeader e with
  | error error => exact absurd (.header error hheader) hpassed
  | ok header =>
    obtain ⟨error, -, hreason⟩ | ⟨payload, hencode, hlength, hroom, htarget, hsequence⟩ :=
      encode_cases c.bufferSize header request
    · rcases hreason with hsize | ⟨error, htarget⟩
      · exact absurd (.size hsize) hpassed
      · exact absurd (.target error htarget) hpassed
    · have hactive : ¬ c.operation.active = true := fun h => hpassed (.busy h)
      have hresponse : ¬ responseSize = 0 := fun h => hpassed (.response h)
      have hopen : ¬ c.isOpen = false := fun h => hpassed (.closed h)
      have hlong : ¬ 65535 - headerLen < payload.length := fun h =>
        hpassed (.length (hlength ▸ h))
      refine ⟨header, payload, rfl, hencode, hsequence, ?_⟩
      rw [begin_eq, hheader]
      dsimp only
      rw [hencode]
      dsimp only
      have hsend : c.sendConfigurationRequest e payload
          = e.send (encodeHeader Client.deviceConfigurationRequestService payload.length ++ payload) := by
        rw [Client.sendConfigurationRequest, if_neg hopen, if_neg hlong]
      rw [Client.beginOperation, if_neg hactive, if_neg hresponse]
      exact hsend ▸ rfl

/-- The frame that is built is the one that is sent. -/
theorem sent_of_writeRequest {b b' : Buffers c.bufferSize} {sent : List UInt8}
    (h : c.writeRequest b e request responseSize = .done (b', sent)) (timeoutMs : Int) :
    (request.begin c e responseSize timeoutMs).2 = e.send sent := by
  obtain ⟨-, error, hfail⟩ | ⟨hpassed, header, payload, requestBuffer, hheader, hencode, -, -, -, -,
    hopen, hsmall, hbuild⟩ := @writeRequest_cases c e request responseSize b
  · rw [hfail] at h
    cases h
  · obtain ⟨-, i, hpast⟩ | ⟨-, frame, -, hdone⟩ :=
      buildFrame_eq { b with request := requestBuffer } hopen hsmall
    · rw [hbuild, hpast] at h
      cases h
    · rw [hbuild, hdone] at h
      cases h
      obtain ⟨header', payload', hheader', hencode', -, hbegin⟩ :=
        begin_of_not_refused hpassed timeoutMs
      obtain rfl : header = header' := Except.ok.inj (hheader.symm.trans hheader')
      obtain rfl : payload = payload' := Except.ok.inj (hencode.symm.trans hencode')
      rw [hbegin]
      cases e.send (encodeHeader Client.deviceConfigurationRequestService payload.length
          ++ payload) with
      | error error => rfl
      | ok _ => rfl

end

/-- When frames stay inside, for reads and for writes of any length. -/
theorem frames_inside_iff (c : Client) (b : Buffers c.bufferSize) (e : Env)
    (target : PropertyAccessTarget) (responseSize : Nat) :
    (FrameInside c b e (.read target) responseSize
        ↔ Refused c e (.read target) responseSize ∨ 17 ≤ c.bufferSize)
      ∧ ∀ data : List UInt8, FrameInside c b e (.write target data) responseSize
        ↔ Refused c e (.write target data) responseSize ∨ 17 + data.length ≤ c.bufferSize :=
  ⟨frame_inside_iff c b e (.read target) responseSize,
    fun data => frame_inside_iff c b e (.write target data) responseSize⟩

/-- A client on an open session, with buffers of 2048 octets. -/
def boundClient : Client where
  isOpen := true
  remote := ⟨0xC0A80001, 3671⟩
  isSessionBound := true
  connection := {}
  bufferSize := 2048

/-- A socket that takes everything, and a session on channel 7. -/
def takingEnv : Env where
  nowMs := 0
  acquireHeader := .ok ⟨7, 0⟩
  send := fun _ => .ok ()
  waiting := none

/-- Two buffers of zeros. -/
def zeroBuffers (capacity : Nat) : Buffers capacity :=
  ⟨⟨List.replicate capacity 0, List.length_replicate⟩,
    ⟨List.replicate capacity 0, List.length_replicate⟩⟩

/-- A write of 2037 octets fits the request buffer to the last octet, and its frame does not fit. -/
theorem frame_past_the_end :
    ¬ FrameInside boundClient (zeroBuffers boundClient.bufferSize) takingEnv
      (.write {} (List.replicate 2037 0)) 16 := by
  have hlength : (List.replicate 2037 (0 : UInt8)).length = 2037 := List.length_replicate
  generalize List.replicate 2037 (0 : UInt8) = data at hlength
  rw [frame_inside_iff]
  simp only [PropertyRequest.dataLength, hlength]
  rintro (h | h)
  · rcases h with ⟨error, h⟩ | h | ⟨error, h⟩ | h | h | h | h
    · cases h
    · simp [boundClient, PropertyRequest.dataLength, hlength] at h
    · cases h
    · cases h
    · cases h
    · cases h
    · simp [headerLen, PropertyRequest.dataLength, hlength] at h
  · simp [headerLen, boundClient] at h

/-! ## Numbers -/

/-- `TunnelingSessionClient`, as far as it gives numbers. -/
structure NumberedSession where
  isOpen : Bool := true
  channelId : UInt8
  seq : UInt8 := 0
  deriving DecidableEq, Repr

/-- `acquireDeviceManagementConnectionHeader`. -/
def NumberedSession.acquire (s : NumberedSession) : Result ConnectionHeader × NumberedSession :=
  if !s.isOpen then (.error .notInitialized, s)
  else (.ok ⟨s.channelId, s.seq⟩, { s with seq := s.seq + 1 })

/-- What a run of property operations does on one session. -/
inductive PropertyCall where
  | begin (request : PropertyRequest) (responseSize : Nat) (timeoutMs : Int)
  | pollReadProperty
  | pollWriteProperty

/-- A client that is bound to a session, and the numbers of the requests that were sent. -/
structure BoundClient where
  client : Client
  session : NumberedSession
  sent : List UInt8 := []

namespace BoundClient

/-- The environment of a call: the session gives the header. -/
def env (s : BoundClient) (e : Env) : Env := { e with acquireHeader := s.session.acquire.1 }

/-- The number in the request that goes out, as the server reads it. -/
def numberOf (s : BoundClient) (e : Env) (request : PropertyRequest) : Option UInt8 :=
  match s.client.makeRequestConnectionHeader (s.env e) with
  | .error _ => none
  | .ok header =>
    match request.encode s.client.bufferSize header with
    | .error _ => none
    | .ok payload => some (payload.getD 2 0)

/-- One call. A bound client takes a header from the session in every operation that it begins. -/
def step (s : BoundClient) : PropertyCall × Env → BoundClient
  | (.begin request responseSize timeoutMs, e) =>
      { client := (request.begin s.client (s.env e) responseSize timeoutMs).1
        session := if s.client.isSessionBound then s.session.acquire.2 else s.session
        sent :=
          match (request.begin s.client (s.env e) responseSize timeoutMs).2 with
          | .ok () => s.sent ++ (s.numberOf e request).toList
          | .error _ => s.sent }
  | (.pollReadProperty, e) => { s with client := (s.client.pollReadProperty (s.env e)).1 }
  | (.pollWriteProperty, e) => { s with client := (s.client.pollWriteProperty (s.env e)).1 }

/-- A request that is sent has the number of the session, which goes on to the next; an operation that
fails takes no number, and leaves the one in progress. -/
def Kept (s : BoundClient) : PropertyCall × Env → Prop
  | (.begin request responseSize timeoutMs, e) =>
      match request.begin s.client (s.env e) responseSize timeoutMs with
      | (_, .ok ()) =>
          s.numberOf e request = some s.session.seq
            ∧ (s.step (.begin request responseSize timeoutMs, e)).session.seq = s.session.seq + 1
      | (client, .error _) =>
          (s.step (.begin request responseSize timeoutMs, e)).session = s.session
            ∧ client.operation = s.client.operation
  | _ => True

/-- The operation passes the checks that come after the header, and the socket takes the frame; or the
session is closed. -/
def Passes (s : BoundClient) : PropertyCall × Env → Prop
  | (.begin request responseSize _, e) =>
      s.session.isOpen = true →
        ¬ Refused s.client (s.env e) request responseSize
          ∧ ∀ payload, request.encode s.client.bufferSize ⟨s.session.channelId, s.session.seq⟩
              = .ok payload →
            e.send (encodeHeader Client.deviceConfigurationRequestService payload.length ++ payload)
              = .ok ()
  | _ => True

/-- The client stays bound to its session. -/
def Bound (s : BoundClient) : Prop := s.client.isSessionBound = true

theorem makeRequestConnectionHeader_of_bound {s : BoundClient} (hbound : s.Bound) (e : Env) :
    s.client.makeRequestConnectionHeader (s.env e) = s.session.acquire.1 :=
  if_pos hbound

theorem isSessionBound_begin (c : Client) (e : Env) (request : PropertyRequest) (responseSize : Nat)
    (timeoutMs : Int) :
    (request.begin c e responseSize timeoutMs).1.isSessionBound = c.isSessionBound := by
  by_cases hrefused : Refused c e request responseSize
  · obtain ⟨error, hbegin⟩ := begin_of_refused hrefused timeoutMs
    rw [hbegin]
  · obtain ⟨header, payload, -, -, -, hbegin⟩ := begin_of_not_refused hrefused timeoutMs
    rw [hbegin]
    split <;> rfl

theorem isSessionBound_pollOperation (c : Client) (e : Env) :
    (c.pollOperation e).1.isSessionBound = c.isSessionBound := by
  rw [Client.pollOperation]
  split
  · rfl
  split
  · rfl
  split
  · split <;> rfl
  · split <;> rfl

theorem isSessionBound_advance (c : Client) :
    c.advanceSequenceCounter.cancelOperation.isSessionBound = c.isSessionBound := by
  rw [Client.advanceSequenceCounter]
  split <;> rfl

theorem isSessionBound_pollReadProperty (c : Client) (e : Env) :
    (c.pollReadProperty e).1.isSessionBound = c.isSessionBound := by
  have hpoll := isSessionBound_pollOperation c e
  rw [Client.pollReadProperty]
  split
  · rfl
  · rcases hresult : c.pollOperation e with ⟨c', error | ⟨progress, response⟩⟩
    · rw [hresult] at hpoll
      exact hpoll
    · rw [hresult] at hpoll
      cases progress with
      | success =>
        dsimp only
        split
        · exact hpoll
        split
        · exact hpoll
        · exact (isSessionBound_advance c').trans hpoll
      | pending | busy | transmissionFailed | timeout => exact hpoll

theorem isSessionBound_pollWriteProperty (c : Client) (e : Env) :
    (c.pollWriteProperty e).1.isSessionBound = c.isSessionBound := by
  have hpoll := isSessionBound_pollOperation c e
  rw [Client.pollWriteProperty]
  split
  · rfl
  · rcases hresult : c.pollOperation e with ⟨c', error | ⟨progress, response⟩⟩
    · rw [hresult] at hpoll
      exact hpoll
    · rw [hresult] at hpoll
      cases progress with
      | success =>
        dsimp only
        split
        · exact hpoll
        split
        · exact hpoll
        · exact (isSessionBound_advance c').trans hpoll
      | pending | busy | transmissionFailed | timeout => exact hpoll

theorem Bound.step {s : BoundClient} (hbound : s.Bound) (call : PropertyCall × Env) :
    (s.step call).Bound := by
  obtain ⟨call, e⟩ := call
  cases call with
  | begin request responseSize timeoutMs =>
    exact (isSessionBound_begin s.client (s.env e) request responseSize timeoutMs).trans hbound
  | pollReadProperty => exact (isSessionBound_pollReadProperty s.client (s.env e)).trans hbound
  | pollWriteProperty => exact (isSessionBound_pollWriteProperty s.client (s.env e)).trans hbound

theorem kept_iff_passes {s : BoundClient} (hbound : s.Bound) (call : PropertyCall × Env) :
    s.Kept call ↔ s.Passes call := by
  obtain ⟨call, e⟩ := call
  cases call with
  | pollReadProperty => exact Iff.rfl
  | pollWriteProperty => exact Iff.rfl
  | begin request responseSize timeoutMs =>
    have hheader := makeRequestConnectionHeader_of_bound hbound e
    have hsession : (s.step (.begin request responseSize timeoutMs, e)).session
        = s.session.acquire.2 := if_pos hbound
    rw [Kept, Passes, hsession]
    by_cases hclosed : s.session.isOpen = true
    · have hacquire : s.session.acquire
          = (.ok ⟨s.session.channelId, s.session.seq⟩, { s.session with seq := s.session.seq + 1 }) := by
        rw [NumberedSession.acquire, if_neg (by simp [hclosed])]
      rw [hacquire] at hheader
      -- The number is taken before the request is built, and no refusal gives it back.
      have hmoved : ¬ s.session.acquire.2 = s.session := by
        rw [hacquire]
        intro heq
        have hseq := congrArg NumberedSession.seq heq
        simp at hseq
      by_cases hrefused : Refused s.client (s.env e) request responseSize
      · obtain ⟨error, hbegin⟩ := begin_of_refused hrefused timeoutMs
        rw [hbegin]
        exact ⟨fun h => absurd h.1 hmoved, fun h => absurd hrefused (h hclosed).1⟩
      · obtain ⟨header, payload, hheader', hencode, hsequence, hbegin⟩ :=
          begin_of_not_refused hrefused timeoutMs
        obtain rfl : _ = header := Except.ok.inj (hheader.symm.trans hheader')
        -- The payload carries the number in its third octet.
        have hnumber : s.numberOf e request = some s.session.seq := by
          rw [numberOf, hheader]
          dsimp only
          rw [hencode]
          exact congrArg some hsequence
        rw [hbegin]
        change (match (match e.send _ with
          | .error error => (s.client, (.error error : Result Unit))
          | .ok () => _) with
          | (_, .ok ()) => _
          | (client, .error _) => _) ↔ _
        cases hsend : e.send (encodeHeader Client.deviceConfigurationRequestService payload.length
            ++ payload) with
        | error error =>
          refine ⟨fun h => absurd h.1 hmoved, fun h => ?_⟩
          have hsent := (h hclosed).2 payload hencode
          rw [hsend] at hsent
          cases hsent
        | ok _ =>
          refine ⟨fun _ _ => ⟨hrefused, fun payload' hencode' => ?_⟩, fun _ => ⟨hnumber, ?_⟩⟩
          · obtain rfl : payload = payload' := Except.ok.inj (hencode.symm.trans hencode')
            exact hsend
          · rw [hacquire]
    · -- a closed session gives no number, and the request ends there
      have hacquire : s.session.acquire = (.error .notInitialized, s.session) := by
        rw [NumberedSession.acquire, if_pos (by simp [hclosed])]
      rw [hacquire] at hheader
      obtain ⟨error, hbegin⟩ :=
        @begin_of_refused s.client (s.env e) request responseSize (.header _ hheader) timeoutMs
      rw [hbegin, hacquire]
      exact ⟨fun _ hopen => absurd hopen hclosed, fun _ => ⟨rfl, rfl⟩⟩

/-! ## Runs -/

/-- The numbers `0, 1, 2` and so on, modulo 256. -/
def Consecutive (numbers : List UInt8) : Prop :=
  numbers = (List.range numbers.length).map UInt8.ofNat

/-- The requests so far have these numbers, and the next one is the session's. -/
structure Numbered (s : BoundClient) : Prop where
  sent : Consecutive s.sent
  next : s.session.seq = UInt8.ofNat s.sent.length

theorem Numbered.step {s : BoundClient} (h : s.Numbered) (call : PropertyCall × Env)
    (hkept : s.Kept call) : (s.step call).Numbered := by
  obtain ⟨call, e⟩ := call
  cases call with
  | pollReadProperty => exact ⟨h.sent, h.next⟩
  | pollWriteProperty => exact ⟨h.sent, h.next⟩
  | begin request responseSize timeoutMs =>
    rw [Kept] at hkept
    rcases hbegin : request.begin s.client (s.env e) responseSize timeoutMs with ⟨client, error | ⟨⟩⟩
    · rw [hbegin] at hkept
      have hsent : (s.step (.begin request responseSize timeoutMs, e)).sent = s.sent := by
        rw [BoundClient.step, hbegin]
      refine ⟨?_, ?_⟩
      · rw [hsent]
        exact h.sent
      · rw [hsent, hkept.1]
        exact h.next
    · rw [hbegin] at hkept
      obtain ⟨hnumber, hnext⟩ := hkept
      have hsent : (s.step (.begin request responseSize timeoutMs, e)).sent
          = s.sent ++ [s.session.seq] := by
        rw [BoundClient.step, hbegin]
        dsimp only
        rw [hnumber]
        rfl
      -- The number that was sent is the next of the sequence, and the session moves on by one.
      have hconsecutive : s.sent = (List.range s.sent.length).map UInt8.ofNat := h.sent
      refine ⟨?_, ?_⟩
      · rw [hsent, Consecutive, List.length_append, List.length_singleton, List.range_succ,
          List.map_append, ← hconsecutive, h.next]
        rfl
      · rw [hsent, hnext, h.next, List.length_append, List.length_singleton, UInt8.ofNat_add]
        rfl

/-- What is asked of a run: every operation keeps the numbers, and those that were sent are
consecutive. -/
def KeepsNumbers (s : BoundClient) (calls : List (PropertyCall × Env)) : Prop :=
  Along step Kept s calls ∧ Consecutive (run step s calls).sent

/-- `bindSession`, on a session that has just connected. -/
def connect (client : Client) (session : NumberedSession) : BoundClient where
  client := { client.cancelOperation with isSessionBound := true }
  session := { session with seq := 0 }

/-- When the numbers are kept. In a run after connecting, the numbers are consecutive and none is
lost exactly when every operation that is begun on the open session passes its checks and is taken by
the socket. -/
theorem numbers_kept_iff (client : Client) (session : NumberedSession)
    (calls : List (PropertyCall × Env)) :
    KeepsNumbers (connect client session) calls ↔ Along step Passes (connect client session) calls := by
  have hbound : (connect client session).Bound := rfl
  have hiff : Along step Kept (connect client session) calls
      ↔ Along step Passes (connect client session) calls :=
    @along_iff_along _ _ step Bound Kept Passes (fun _ call h _ => h.step call)
      (fun _ call h => kept_iff_passes h call) _ hbound calls
  have hnumbered : (connect client session).Numbered := ⟨rfl, rfl⟩
  constructor
  · exact fun h => hiff.mp h.1
  · intro h
    have hkept := hiff.mpr h
    exact ⟨hkept, (run_invariant_along (fun _ call hn hk => hn.step call hk) hnumbered hkept).sent⟩

/-- A read is begun twice, and again after the first has timed out: the second one was refused, but the
third has the number 2. -/
theorem number_lost_when_busy :
    ¬ ∀ calls, KeepsNumbers (connect boundClient { channelId := 7 }) calls := by
  intro h
  have hconsecutive := (h [(.begin (.read {}) 16 0, takingEnv), (.begin (.read {}) 16 0, takingEnv),
    (.pollReadProperty, takingEnv), (.begin (.read {}) 16 0, takingEnv)]).2
  have hsent : (run step (connect boundClient { channelId := 7 })
      [(.begin (.read {}) 16 0, takingEnv), (.begin (.read {}) 16 0, takingEnv),
        (.pollReadProperty, takingEnv), (.begin (.read {}) 16 0, takingEnv)]).sent = [0, 2] := by
    decide +kernel
  rw [hsent] at hconsecutive
  rw [Consecutive] at hconsecutive
  exact absurd hconsecutive (by decide)

end BoundClient

end KnxStack.Netip.DeviceManagement
