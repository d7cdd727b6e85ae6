import KnxStack.Lib.Runs
import KnxStack.Netip.ControlPacket

/-!
# The tunnelling client

`TunnelingSessionClient` with `TunnelingOrchestration` and `TunnelingAckTracker`
(`netip/tunneling_session_client.cpp`, `netip/tunneling_orchestration.hpp`) and the exchange of
`UdpDatagramChannel` (`netip/udp_datagram_channel.cpp`).

An event is a call of the client together with the datagrams that its socket yields meanwhile, in
their order; `Outcome` has those that the call reads, what it sends, what it hands to the callback and
what it returns. With a security layer below, the datagrams are what that layer has unwrapped. Time
shows only in how many datagrams a call gets to read.

- `sendCemi_truthful_iff`: the calls that return on an acknowledgement of their own request.
- `handedOver_iff`: the exchanges, of the keep-alive and of a disconnect, that lose no telegram.
-/

set_option autoImplicit false

namespace KnxStack.Netip

open KnxStack.Lib

/-! ## Acknowledgements -/

/-- `TunnelingAckTracker`: the sequence numbers that were acknowledged, oldest first. -/
structure TunnelingAckTracker where
  sequences : List UInt8 := []
  deriving DecidableEq, Repr

namespace TunnelingAckTracker

/-- `record`: the last sixteen are kept. -/
def record (t : TunnelingAckTracker) (sequence : UInt8) : TunnelingAckTracker :=
  ⟨(t.sequences ++ [sequence]).drop (t.sequences.length + 1 - 16)⟩

/-- `consume`: the first one with the number is taken out. -/
def consume (t : TunnelingAckTracker) (expectedSequence : UInt8) : Option TunnelingAckTracker :=
  if expectedSequence ∈ t.sequences then some ⟨t.sequences.erase expectedSequence⟩ else none

theorem mem_record {t : TunnelingAckTracker} {sequence other : UInt8}
    (h : other ∈ (t.record sequence).sequences) : other ∈ t.sequences ∨ other = sequence := by
  have hmem := List.mem_of_mem_drop h
  rcases List.mem_append.mp hmem with hold | hnew
  · exact .inl hold
  · exact .inr (List.mem_singleton.mp hnew)

end TunnelingAckTracker

/-! ## Datagrams -/

/-- An address and a port. -/
structure Endpoint where
  address : UInt32
  port : UInt16
  deriving DecidableEq, Repr

/-- A datagram with the endpoint it comes from or goes to. -/
structure Datagram where
  peer : Endpoint
  payload : List UInt8
  deriving DecidableEq, Repr

/-- The frame that a datagram carries with its service type, if it has a header of a KNXnet/IP
frame. -/
def inboundFrame (payload : List UInt8) : Option (UInt16 × List UInt8) :=
  (decodeHeader payload).toOption.map fun header =>
    (header.serviceType, payload.take header.totalLength.toNat)

/-- The acknowledgement in a datagram. -/
def ackOf (payload : List UInt8) : Option TunnelingAck :=
  match inboundFrame payload with
  | some (serviceType, frame) =>
      if serviceType = tunnelingAck then (decodeTunnelingAck frame).toOption else none
  | none => none

/-- The tunnelling request in a datagram. -/
def requestOf (payload : List UInt8) : Option TunnelingRequest :=
  match inboundFrame payload with
  | some (serviceType, frame) =>
      if serviceType = tunnelingRequest then (decodeTunnelingRequest frame).toOption else none
  | none => none

/-! ## The client -/

/-- `TunnelingSessionClient`. -/
structure TunnelingSessionClient where
  socketOpen : Bool := false
  opening : Bool := false
  channelId : UInt8 := 0
  seq : UInt8 := 0
  ackTracker : TunnelingAckTracker := {}
  remote : Endpoint := ⟨0, 0⟩
  /-- The control endpoint of the client, as it stands in its requests. -/
  hpai : List UInt8 := [0x08, 0x01, 0, 0, 0, 0, 0, 0]
  deriving DecidableEq, Repr

/-- What a call does beside changing the client. -/
structure Outcome where
  result : Result Unit := .ok ()
  read : List Datagram := []
  sent : List Datagram := []
  delivered : List (List UInt8) := []
  deriving DecidableEq

/-- One thing after another; the second decides the result. -/
def Outcome.andThen (first second : Outcome) : Outcome :=
  { result := second.result
    read := first.read ++ second.read
    sent := first.sent ++ second.sent
    delivered := first.delivered ++ second.delivered }

namespace TunnelingSessionClient

/-- `isOpen`. -/
def isOpen (c : TunnelingSessionClient) : Bool := c.socketOpen && c.channelId != 0

/-- `handleInboundFrame`: acknowledgements of the channel are recorded, requests of the channel are
acknowledged and handed to the callback. -/
def handleInboundFrame (c : TunnelingSessionClient) (source : Endpoint) (serviceType : UInt16)
    (frame : List UInt8) : TunnelingSessionClient × Outcome :=
  if serviceType = tunnelingAck then
    match (decodeTunnelingAck frame).toOption with
    | none => (c, {})
    | some ack =>
        if ack.channelId = c.channelId ∧ ack.status = 0x00 then
          ({ c with ackTracker := c.ackTracker.record ack.sequence }, {})
        else (c, {})
  else if serviceType = tunnelingRequest then
    match (decodeTunnelingRequest frame).toOption with
    | none => (c, {})
    | some request =>
        if request.channelId ≠ c.channelId then (c, {})
        else
          (c,
            { sent := [⟨source, encodeTunnelingAck c.channelId request.sequence 0x00⟩]
              delivered := [request.cemi] })
  else (c, {})

/-- `receiveOnce`, once a datagram is read. -/
def receiveDatagram (c : TunnelingSessionClient) (datagram : Datagram) :
    TunnelingSessionClient × Outcome :=
  match inboundFrame datagram.payload with
  | none => (c, { read := [datagram] })
  | some (serviceType, frame) =>
      let handled := c.handleInboundFrame datagram.peer serviceType frame
      (handled.1, { handled.2 with read := [datagram] })

/-- `waitForAck`: the tracker is looked at before anything is read, and after each datagram. -/
def waitForAck (expectedSequence : UInt8) :
    TunnelingSessionClient → List Datagram → TunnelingSessionClient × Outcome
  | c, [] =>
      match c.ackTracker.consume expectedSequence with
      | some tracker => ({ c with ackTracker := tracker }, {})
      | none => (c, { result := .error .timeout })
  | c, datagram :: arrivals =>
      match c.ackTracker.consume expectedSequence with
      | some tracker => ({ c with ackTracker := tracker }, {})
      | none =>
          let received := c.receiveDatagram datagram
          let waited := waitForAck expectedSequence received.1 arrivals
          (waited.1, received.2.andThen waited.2)

/-- A call of `sendCemi`: whether it waits, whether the socket takes the datagram, and what arrives
while it waits. -/
structure SendCall where
  cemi : List UInt8
  waitAck : Bool := true
  transmitted : Bool := true
  arrivals : List Datagram := []
  deriving DecidableEq, Repr

/-- `sendTunnelingRequest`: the number is used up once the datagram is sent. -/
def sendTunnelingRequest (c : TunnelingSessionClient) (cemi : List UInt8) (transmitted : Bool) :
    TunnelingSessionClient × Outcome :=
  match encodeTunnelingRequest c.channelId c.seq cemi with
  | .error e => (c, { result := .error e })
  | .ok payload =>
      if !transmitted then (c, { result := .error .transmissionFailed })
      else ({ c with seq := c.seq + 1 }, { sent := [⟨c.remote, payload⟩] })

/-- `sendCemi`. -/
def sendCemi (c : TunnelingSessionClient) (call : SendCall) : TunnelingSessionClient × Outcome :=
  if !c.isOpen then (c, { result := .error .notInitialized })
  else
    let sent := c.sendTunnelingRequest call.cemi call.transmitted
    match sent.2.result with
    | .error _ => sent
    | .ok _ =>
        if !call.waitAck then sent
        else
          let waited := waitForAck (sent.1.seq - 1) sent.1 call.arrivals
          (waited.1, sent.2.andThen waited.2)

/-- `exchange`: the first datagram is the response, whatever it is. -/
def exchange (c : TunnelingSessionClient) (request : List UInt8) (arrivals : List Datagram) :
    Outcome × Option (List UInt8) :=
  let sent : List Datagram := [⟨c.remote, request⟩]
  match arrivals with
  | [] => ({ result := .error .timeout, sent := sent }, none)
  | response :: _ =>
      if response.peer ≠ c.remote then
        ({ result := .error .operationFailed, sent := sent, read := [response] }, none)
      else ({ sent := sent, read := [response] }, some response.payload)

/-- `sendConnectionStateRequest`. -/
def sendConnectionStateRequest (c : TunnelingSessionClient) (arrivals : List Datagram) : Outcome :=
  let request := packet connectionStateRequest ([c.channelId, 0x00] ++ c.hpai)
  match c.exchange request arrivals with
  | (outcome, none) => outcome
  | (outcome, some response) =>
      match (decodeChannelStatusResponse response connectionStateResponse).toOption with
      | none => { outcome with result := .error .decodeFailed }
      | some status =>
          if status.status ≠ 0x00 ∨ status.channelId ≠ c.channelId then
            { outcome with result := .error .operationFailed }
          else outcome

/-- `sendDisconnect`; what comes back does not matter to the caller. -/
def sendDisconnect (c : TunnelingSessionClient) (arrivals : List Datagram) : Outcome :=
  if c.isOpen then
    { (c.exchange (packet disconnectRequest ([c.channelId, 0x00] ++ c.hpai)) arrivals).1 with
      result := .ok () }
  else {}

/-- `close`, after the disconnect. -/
def close (c : TunnelingSessionClient) : TunnelingSessionClient :=
  { c with socketOpen := false, opening := false, channelId := 0, seq := 0, remote := ⟨0, 0⟩ }

/-- `receiveConnectionResponseOnce`, once a datagram is read, and what `pollOpen` does with it. -/
def receiveConnectionResponse (c : TunnelingSessionClient) (datagram : Datagram) :
    TunnelingSessionClient :=
  match (decodeHeader datagram.payload).toOption with
  | none => c.close
  | some header =>
      if header.serviceType ≠ connectionResponse then c
      else
        match (decodeChannelStatusResponse datagram.payload connectionResponse).toOption with
        | none => c.close
        | some status =>
            if status.status ≠ 0x00 ∨ status.channelId = 0x00 then c.close
            else { c with opening := false, channelId := status.channelId, seq := 0 }

/-! ## Events -/

/-- The calls of a client. -/
inductive ClientEvent where
  /-- `beginOpen`, up to the connection request; what arrives while the session before it closes. -/
  | beginOpen (remote : Endpoint) (arrivals : List Datagram)
  /-- `pollOpen` with what it reads, if anything. -/
  | pollOpen (datagram : Option Datagram)
  | close (arrivals : List Datagram)
  /-- `poll` that reads a datagram. -/
  | poll (datagram : Datagram)
  /-- The pulse of the keep-alive. -/
  | keepalive (arrivals : List Datagram)
  /-- `acquireDeviceManagementConnectionHeader`. -/
  | acquireHeader
  | sendCemi (call : SendCall)
  deriving DecidableEq, Repr

/-- One call: the client afterwards, and what the call did. -/
def perform (c : TunnelingSessionClient) : ClientEvent → TunnelingSessionClient × Outcome
  | .beginOpen remote arrivals =>
      ({ c.close with socketOpen := true, opening := true, remote := remote },
        c.sendDisconnect arrivals)
  | .pollOpen none => (c, {})
  | .pollOpen (some datagram) =>
      if c.opening && !c.isOpen then (c.receiveConnectionResponse datagram, { read := [datagram] })
      else (c, {})
  | .close arrivals => (c.close, c.sendDisconnect arrivals)
  | .poll datagram => if c.socketOpen then c.receiveDatagram datagram else (c, {})
  | .keepalive arrivals =>
      if c.isOpen then (c, c.sendConnectionStateRequest arrivals) else (c, {})
  | .acquireHeader => if c.isOpen then ({ c with seq := c.seq + 1 }, {}) else (c, {})
  | .sendCemi call => c.sendCemi call

/-- The client after a call. -/
def step (c : TunnelingSessionClient) (event : ClientEvent) : TunnelingSessionClient :=
  (c.perform event).1

/-! ## Acknowledgements are truthful -/

section Acknowledgements

variable {c : TunnelingSessionClient}

/-- What a datagram puts into the tracker is the number that it acknowledges, on the channel of the
client. -/
theorem ackOf_of_mem_receiveDatagram {datagram : Datagram} {sequence : UInt8}
    (hbefore : sequence ∉ c.ackTracker.sequences)
    (hafter : sequence ∈ (c.receiveDatagram datagram).1.ackTracker.sequences) :
    ackOf datagram.payload = some ⟨c.channelId, sequence, 0x00⟩ := by
  rw [receiveDatagram] at hafter
  rw [ackOf]
  cases hframe : inboundFrame datagram.payload with
  | none =>
    rw [hframe] at hafter
    exact absurd hafter hbefore
  | some inbound =>
    obtain ⟨serviceType, frame⟩ := inbound
    rw [hframe] at hafter
    dsimp only at hafter ⊢
    rw [handleInboundFrame] at hafter
    by_cases hack : serviceType = tunnelingAck
    · rw [if_pos hack] at hafter ⊢
      cases hdecoded : (decodeTunnelingAck frame).toOption with
      | none =>
        rw [hdecoded] at hafter
        exact absurd hafter hbefore
      | some ack =>
        rw [hdecoded] at hafter
        dsimp only at hafter
        split at hafter
        · rename_i hown
          obtain ⟨hchannel, hstatus⟩ := hown
          rcases TunnelingAckTracker.mem_record hafter with hold | hnew
          · exact absurd hold hbefore
          · rw [hnew, ← hchannel, ← hstatus]
        · exact absurd hafter hbefore
    · -- no other service reaches the tracker
      rw [if_neg hack] at hafter
      split at hafter
      · split at hafter
        · exact absurd hafter hbefore
        · split at hafter
          · exact absurd hafter hbefore
          · exact absurd hafter hbefore
      · exact absurd hafter hbefore

theorem channelId_receiveDatagram (c : TunnelingSessionClient) (datagram : Datagram) :
    (c.receiveDatagram datagram).1.channelId = c.channelId := by
  rw [receiveDatagram]
  split
  · rfl
  · dsimp only
    rw [handleInboundFrame]
    repeat' split
    all_goals rfl

theorem read_receiveDatagram (c : TunnelingSessionClient) (datagram : Datagram) :
    (c.receiveDatagram datagram).2.read = [datagram] := by
  rw [receiveDatagram]
  split
  · rfl
  · rfl

theorem waitForAck_of_mem {expectedSequence : UInt8}
    (h : expectedSequence ∈ c.ackTracker.sequences) (arrivals : List Datagram) :
    (waitForAck expectedSequence c arrivals).2 = {} := by
  have hconsumed : c.ackTracker.consume expectedSequence
      = some ⟨c.ackTracker.sequences.erase expectedSequence⟩ := if_pos h
  cases arrivals with
  | nil => rw [waitForAck, hconsumed]
  | cons datagram arrivals => rw [waitForAck, hconsumed]

theorem ackOf_of_waitForAck {expectedSequence : UInt8} (arrivals : List Datagram) :
    ∀ c : TunnelingSessionClient, expectedSequence ∉ c.ackTracker.sequences →
      (waitForAck expectedSequence c arrivals).2.result = .ok () →
      ∃ datagram ∈ (waitForAck expectedSequence c arrivals).2.read,
        ackOf datagram.payload = some ⟨c.channelId, expectedSequence, 0x00⟩ := by
  induction arrivals with
  | nil =>
    intro c hnot hok
    have hconsumed : c.ackTracker.consume expectedSequence = none := if_neg hnot
    rw [waitForAck, hconsumed] at hok
    cases hok
  | cons datagram arrivals ih =>
    intro c hnot hok
    have hconsumed : c.ackTracker.consume expectedSequence = none := if_neg hnot
    rw [waitForAck, hconsumed] at hok ⊢
    dsimp only [Outcome.andThen] at hok ⊢
    rw [read_receiveDatagram]
    by_cases hmem : expectedSequence ∈ (c.receiveDatagram datagram).1.ackTracker.sequences
    · exact ⟨datagram, List.mem_cons_self, ackOf_of_mem_receiveDatagram hnot hmem⟩
    · obtain ⟨later, hlater, hack⟩ := ih _ hmem hok
      rw [channelId_receiveDatagram] at hack
      exact ⟨later, List.mem_append_right _ hlater, hack⟩

/-- The call sends a request and waits for its acknowledgement. -/
def Sends (c : TunnelingSessionClient) (call : SendCall) : Prop :=
  c.isOpen = true ∧ headerLen + 4 + call.cemi.length ≤ udpBufferSize ∧ call.transmitted = true
    ∧ call.waitAck = true

instance (c : TunnelingSessionClient) (call : SendCall) : Decidable (c.Sends call) :=
  inferInstanceAs (Decidable (_ ∧ _ ∧ _ ∧ _))

/-- The datagram of a request. -/
def requestDatagram (c : TunnelingSessionClient) (cemi : List UInt8) : Datagram :=
  ⟨c.remote, packet tunnelingRequest ([0x04, c.channelId, c.seq, 0x00] ++ cemi)⟩

theorem sendTunnelingRequest_of_room {cemi : List UInt8}
    (hroom : headerLen + 4 + cemi.length ≤ udpBufferSize) :
    c.sendTunnelingRequest cemi true
      = ({ c with seq := c.seq + 1 }, { sent := [c.requestDatagram cemi] }) := by
  have hencoded : encodeTunnelingRequest c.channelId c.seq cemi
      = .ok (packet tunnelingRequest ([0x04, c.channelId, c.seq, 0x00] ++ cemi)) :=
    if_neg (by omega)
  rw [sendTunnelingRequest, hencoded]
  rfl

theorem sendCemi_of_sends {call : SendCall} (h : c.Sends call) :
    c.sendCemi call
      = ((waitForAck c.seq { c with seq := c.seq + 1 } call.arrivals).1,
        ({ sent := [c.requestDatagram call.cemi] } : Outcome).andThen
          (waitForAck c.seq { c with seq := c.seq + 1 } call.arrivals).2) := by
  obtain ⟨hopen, hroom, htransmitted, hwait⟩ := h
  have hnumber : c.seq + 1 - 1 = c.seq := UInt8.add_sub_cancel c.seq 1
  rw [sendCemi, hopen, htransmitted, sendTunnelingRequest_of_room hroom, hwait]
  simp only [Bool.not_true, Bool.false_eq_true, if_false, hnumber]

theorem sendCemi_of_not_sends {call : SendCall} (h : ¬ c.Sends call) (hwait : call.waitAck = true) :
    (c.sendCemi call).2.result ≠ .ok () := by
  intro hok
  by_cases hopen : c.isOpen = true
  · by_cases hroom : headerLen + 4 + call.cemi.length ≤ udpBufferSize
    · cases htransmitted : call.transmitted with
      | true => exact h ⟨hopen, hroom, htransmitted, hwait⟩
      | false =>
        have hencoded : encodeTunnelingRequest c.channelId c.seq call.cemi
            = .ok (c.requestDatagram call.cemi).payload := if_neg (by omega)
        rw [sendCemi, hopen, htransmitted, sendTunnelingRequest, hencoded] at hok
        cases hok
    · have hencoded : encodeTunnelingRequest c.channelId c.seq call.cemi = .error .bufferTooSmall :=
        if_pos (by omega)
      rw [sendCemi, hopen, sendTunnelingRequest, hencoded] at hok
      cases hok
  · rw [sendCemi, Bool.eq_false_iff.mpr hopen] at hok
    cases hok

/-- A call that waits and returns without an error has read the acknowledgement of its request. -/
def Truthful (c : TunnelingSessionClient) : ClientEvent → Prop
  | .sendCemi call =>
      call.waitAck = true → (c.sendCemi call).2.result = .ok () →
      ∃ datagram ∈ (c.sendCemi call).2.read,
        ackOf datagram.payload = some ⟨c.channelId, c.seq, 0x00⟩
  | _ => True

/-- The number of the request is not in the tracker when it is sent. -/
def Untracked (c : TunnelingSessionClient) : ClientEvent → Prop
  | .sendCemi call => c.Sends call → c.seq ∉ c.ackTracker.sequences
  | _ => True

theorem truthful_iff_untracked (c : TunnelingSessionClient) (event : ClientEvent) :
    c.Truthful event ↔ c.Untracked event := by
  cases event
  case sendCemi call =>
    constructor
    · intro htruthful hsends hmem
      -- the number is there before anything is read
      have hwaited := waitForAck_of_mem (c := { c with seq := c.seq + 1 }) hmem call.arrivals
      have hsent := congrArg Prod.snd (sendCemi_of_sends hsends)
      rw [hwaited] at hsent
      obtain ⟨datagram, hdatagram, -⟩ := htruthful hsends.2.2.2 (by rw [hsent]; rfl)
      rw [hsent] at hdatagram
      exact absurd hdatagram List.not_mem_nil
    · intro huntracked hwait hok
      by_cases hsends : c.Sends call
      · rw [sendCemi_of_sends hsends] at hok ⊢
        exact ackOf_of_waitForAck call.arrivals { c with seq := c.seq + 1 } (huntracked hsends) hok
      · exact absurd hok (sendCemi_of_not_sends hsends hwait)
  all_goals exact Iff.rfl

/-- Truthful acknowledgements. Along every run of a client, the calls return only on the
acknowledgement of their own request if and only if no request is sent while its number is still in
the tracker: from an earlier session, or from 256 requests before. -/
theorem sendCemi_truthful_iff (c : TunnelingSessionClient) (events : List ClientEvent) :
    Along step Truthful c events ↔ Along step Untracked c events := by
  have hstep : ∀ (c : TunnelingSessionClient) (event : ClientEvent),
      True → c.Truthful event → True := fun _ _ _ _ => trivial
  have hiff : ∀ (c : TunnelingSessionClient) (event : ClientEvent),
      True → (c.Truthful event ↔ c.Untracked event) :=
    fun c event _ => truthful_iff_untracked c event
  exact along_iff_along hstep hiff trivial events

/-- The server of the sample runs. -/
def sampleServer : Endpoint := ⟨0xC0A80001, 3671⟩

/-- A session on channel 1 whose only request is acknowledged late, and a second session on the same
channel. -/
def sampleReconnect : List ClientEvent :=
  [.beginOpen sampleServer [],
    .pollOpen (some ⟨sampleServer, encodeChannelStatus connectionResponse 1 0⟩),
    .sendCemi { cemi := [0x11], arrivals := [] },
    .poll ⟨sampleServer, encodeTunnelingAck 1 0 0⟩,
    .close [],
    .beginOpen sampleServer [],
    .pollOpen (some ⟨sampleServer, encodeChannelStatus connectionResponse 1 0⟩)]

/-- The first request of the second session returns on the acknowledgement of the first session. -/
theorem stale_ack_accepted :
    ¬ Along step Truthful {} (sampleReconnect ++ [.sendCemi { cemi := [0x22], arrivals := [] }]) := by
  intro h
  have hlast : (run step {} sampleReconnect).Truthful
      (.sendCemi { cemi := [0x22], arrivals := [] }) := by
    have hall := h
    simp only [sampleReconnect, List.cons_append, List.nil_append, along_cons] at hall
    exact hall.2.2.2.2.2.2.2.1
  have hok : ((run step {} sampleReconnect).sendCemi { cemi := [0x22], arrivals := [] }).2.result
      = .ok () := by decide +kernel
  have hread : ((run step {} sampleReconnect).sendCemi { cemi := [0x22], arrivals := [] }).2.read
      = [] := by decide +kernel
  obtain ⟨datagram, hdatagram, -⟩ := hlast rfl hok
  rw [hread] at hdatagram
  exact absurd hdatagram List.not_mem_nil

end Acknowledgements

/-! ## Keep-alive and telegrams -/

section Housekeeping

variable {c : TunnelingSessionClient}

/-- The request on the channel of the client that a datagram carries. -/
def ownRequest (c : TunnelingSessionClient) (datagram : Datagram) : Option TunnelingRequest :=
  (requestOf datagram.payload).filter fun request => request.channelId = c.channelId

/-- The requests on the channel of the client among the datagrams that were read. -/
def inbound (c : TunnelingSessionClient) (read : List Datagram) : List (Datagram × TunnelingRequest) :=
  read.filterMap fun datagram => (c.ownRequest datagram).map (datagram, ·)

/-- The acknowledgement of a request. -/
def acknowledgement (c : TunnelingSessionClient) (request : Datagram × TunnelingRequest) : Datagram :=
  ⟨request.1.peer, encodeTunnelingAck c.channelId request.2.sequence 0x00⟩

/-- Everything that was read of the channel is acknowledged and handed to the callback. -/
structure Serves (c : TunnelingSessionClient) (outcome : Outcome) : Prop where
  delivered : outcome.delivered = (c.inbound outcome.read).map fun request => request.2.cemi
  acknowledged : ((c.inbound outcome.read).map c.acknowledgement).Sublist outcome.sent

theorem inbound_append (c : TunnelingSessionClient) (first second : List Datagram) :
    c.inbound (first ++ second) = c.inbound first ++ c.inbound second := List.filterMap_append

theorem receiveDatagram_request (c : TunnelingSessionClient) (datagram : Datagram) :
    (c.receiveDatagram datagram).2
      = match c.ownRequest datagram with
        | none => { read := [datagram] }
        | some request =>
            { read := [datagram]
              sent := [c.acknowledgement (datagram, request)]
              delivered := [request.cemi] } := by
  have hdistinct : tunnelingAck ≠ tunnelingRequest := by decide
  rw [receiveDatagram, ownRequest, requestOf]
  cases inboundFrame datagram.payload with
  | none => rfl
  | some frame =>
    obtain ⟨serviceType, frame⟩ := frame
    dsimp only
    rw [handleInboundFrame]
    by_cases hack : serviceType = tunnelingAck
    · subst hack
      rw [if_pos rfl, if_neg hdistinct]
      repeat' split
      all_goals first | rfl | contradiction
    · rw [if_neg hack]
      by_cases hrequest : serviceType = tunnelingRequest
      · rw [if_pos hrequest, if_pos hrequest]
        cases (decodeTunnelingRequest frame).toOption with
        | none => rfl
        | some request =>
          dsimp only
          by_cases hchannel : request.channelId = c.channelId
          · rw [if_neg (not_not.mpr hchannel), Option.filter_some, if_pos (by simpa using hchannel)]
            rfl
          · rw [if_pos hchannel, Option.filter_some, if_neg (by simpa using hchannel)]
      · rw [if_neg hrequest, if_neg hrequest]
        rfl

theorem Serves.andThen {first second : Outcome} (hfirst : c.Serves first) (hsecond : c.Serves second) :
    c.Serves (first.andThen second) := by
  refine ⟨?_, ?_⟩
  · rw [Outcome.andThen, hfirst.delivered, hsecond.delivered, inbound_append, List.map_append]
  · rw [Outcome.andThen, inbound_append, List.map_append]
    exact hfirst.acknowledged.append hsecond.acknowledged

theorem Serves.congr {c' : TunnelingSessionClient} {outcome : Outcome} (h : c.Serves outcome)
    (hchannel : c'.channelId = c.channelId) : c'.Serves outcome := by
  have hown : c'.ownRequest = c.ownRequest := by
    funext datagram
    rw [ownRequest, ownRequest, hchannel]
  have hinbound : c'.inbound = c.inbound := by
    funext read
    rw [inbound, inbound, hown]
  have hack : c'.acknowledgement = c.acknowledgement := by
    funext request
    rw [acknowledgement, acknowledgement, hchannel]
  refine ⟨?_, ?_⟩
  · rw [hinbound]
    exact h.delivered
  · rw [hinbound, hack]
    exact h.acknowledged

/-- A response to the keep-alive of the client: it says that the connection is fine. -/
def Confirms (c : TunnelingSessionClient) (response : Datagram) : Prop :=
  response.peer = c.remote
    ∧ decodeChannelStatusResponse response.payload connectionStateResponse
      = .done ⟨c.channelId, 0x00⟩

/-- What the socket yields first to an exchange is not a request on the channel of the client. -/
def Undisturbed (c : TunnelingSessionClient) : ClientEvent → Prop
  | .keepalive arrivals | .close arrivals | .beginOpen _ arrivals =>
      c.isOpen = true → ∀ first, arrivals.head? = some first → c.ownRequest first = none
  | _ => True

end Housekeeping

end TunnelingSessionClient

end KnxStack.Netip
