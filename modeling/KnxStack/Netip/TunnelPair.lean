import KnxStack.Lib.Delivery
import KnxStack.Netip.TunnelingServer

/-!
# A tunnel over a datagram service

A client and a server with a network between them that may lose, repeat and reorder datagrams. The
requests that were sent are kept in the order of their sending; a copy of any of them may arrive at
any time, any number of times, or never. Every other datagram may arrive at any time as well.

A call of `sendCemi` blocks while the server goes on, so it is split here: the request, the datagrams
that are read meanwhile, and the look at the acknowledgements.

- `delivered_in_order_iff`: the runs in which both callbacks get a subsequence of what was sent.
-/

set_option autoImplicit false

namespace KnxStack.Netip

open KnxStack.Lib

namespace TunnelingSessionClient

/-- One look of `waitForAck` at the tracker. -/
def consumeAck (expectedSequence : UInt8) (c : TunnelingSessionClient) : TunnelingSessionClient :=
  match c.ackTracker.consume expectedSequence with
  | some tracker => { c with ackTracker := tracker }
  | none => c

end TunnelingSessionClient

/-! ## The system -/

/-- A request as it was sent: the datagram, and the telegram that its sender put into it. -/
structure SentRequest where
  payload : List UInt8
  cemi : List UInt8
  deriving DecidableEq, Repr

/-- A client and a server, what each has sent, and what each has handed to its callback with the place
of the request among those the other one has sent. -/
structure Tunnel where
  client : TunnelingSessionClient
  server : TunnelingServerEndpoint
  clientEndpoint : Endpoint
  serverEndpoint : Endpoint
  clientSent : List SentRequest := []
  serverSent : List SentRequest := []
  toServer : List (Nat × List UInt8) := []
  toClient : List (Nat × List UInt8) := []
  deriving DecidableEq, Repr

inductive TunnelEvent where
  /-- The first half of `sendCemi` of the client. -/
  | request (cemi : List UInt8) (transmitted : Bool)
  /-- A copy of a request of the server arrives. -/
  | clientReads (position : Nat)
  /-- `waitForAck` looks for a number. -/
  | settle (expectedSequence : UInt8)
  /-- A call of the client that reads no request, or reads it elsewhere than for the callback. -/
  | client (event : TunnelingSessionClient.ClientEvent)
  /-- A copy of a request of the client arrives. -/
  | serverReads (nowMs : UInt32) (sendOk : Bool) (position : Nat)
  /-- A call of the server that reads no request of the client. -/
  | server (event : TunnelingServerEndpoint.ServerEvent)
  deriving DecidableEq, Repr

namespace Tunnel

/-- What the client calls between its requests; requests reach it as copies alone. -/
def clientCalls : TunnelingSessionClient.ClientEvent → Bool
  | .poll datagram => (requestOf datagram.payload).isNone
  | .sendCemi _ => false
  | _ => true

/-- What the server does beside reading requests of the client. -/
def serverCalls (t : Tunnel) : TunnelingServerEndpoint.ServerEvent → Bool
  | .poll _ _ (some datagram) =>
      datagram.peer != t.clientEndpoint
        || (decodeTunnelingRequest datagram.payload).toOption.isNone
  | _ => true

/-- The requests for the client among what the server sends. -/
def requestsFor (t : Tunnel) (event : TunnelingServerEndpoint.ServerEvent) : List SentRequest :=
  match event with
  | .sendCemi _ _ _ cemi =>
      ((t.server.perform event).2.sent.filter (·.peer == t.clientEndpoint)).map
        fun datagram => ⟨datagram.payload, cemi⟩
  | .poll _ _ _ => []

/-- One step of the system. -/
def step (t : Tunnel) : TunnelEvent → Tunnel
  | .request cemi transmitted =>
      if !t.client.isOpen then t
      else
        let sent := t.client.sendTunnelingRequest cemi transmitted
        { t with
          client := sent.1
          clientSent := t.clientSent ++ sent.2.sent.map fun datagram => ⟨datagram.payload, cemi⟩ }
  | .clientReads position =>
      match t.serverSent[position]? with
      | none => t
      | some request =>
          let read := t.client.perform (.poll ⟨t.serverEndpoint, request.payload⟩)
          { t with
            client := read.1
            toClient := t.toClient ++ read.2.delivered.map fun cemi => (position, cemi) }
  | .settle expectedSequence => { t with client := t.client.consumeAck expectedSequence }
  | .client event => if clientCalls event then { t with client := t.client.step event } else t
  | .serverReads nowMs sendOk position =>
      match t.clientSent[position]? with
      | none => t
      | some request =>
          let read := t.server.perform
            (.poll nowMs sendOk (some ⟨t.clientEndpoint, request.payload⟩))
          { t with
            server := read.1
            toServer := t.toServer ++ read.2.delivered.map fun telegram => (position, telegram.2) }
  | .server event =>
      if t.serverCalls event then
        { t with server := t.server.step event, serverSent := t.serverSent ++ t.requestsFor event }
      else t

/-! ## Copies of requests -/

/-- The datagram is the request with the telegram in it. -/
def Encoded (request : SentRequest) : Prop :=
  ∃ channelId sequence, encodeTunnelingRequest channelId sequence request.cemi = .ok request.payload

theorem inboundFrame_packet (serviceType : UInt16) {body : List UInt8}
    (h : headerLen + body.length < 2 ^ 16) :
    inboundFrame (packet serviceType body) = some (serviceType, packet serviceType body) := by
  have hdecoded : decodeHeader (packet serviceType body)
      = .done ⟨serviceType, UInt16.ofNat (headerLen + body.length)⟩ :=
    decodeHeader_encodeHeader serviceType h
  have hlength : (packet serviceType body).length = headerLen + body.length := List.length_append
  have htotal : (UInt16.ofNat (headerLen + body.length)).toNat = headerLen + body.length :=
    UInt16.toNat_ofNat_of_lt' h
  rw [inboundFrame, Checked.toOption_eq_some.mpr hdecoded, Option.map_some, htotal, ← hlength,
    List.take_length]

theorem packet_of_encodeTunnelingRequest {channelId sequence : UInt8} {cemi payload : List UInt8}
    (h : encodeTunnelingRequest channelId sequence cemi = .ok payload) :
    payload = packet tunnelingRequest ([0x04, channelId, sequence, 0x00] ++ cemi)
      ∧ headerLen + ([0x04, channelId, sequence, 0x00] ++ cemi).length < 2 ^ 16 := by
  rw [encodeTunnelingRequest] at h
  split at h
  · cases h
  · rename_i hroom
    cases h
    refine ⟨rfl, ?_⟩
    rw [List.length_append, headerLen]
    rw [headerLen, udpBufferSize] at hroom
    change 6 + (4 + cemi.length) < 2 ^ 16
    omega

theorem requestOf_encodeTunnelingRequest {channelId sequence : UInt8} {cemi payload : List UInt8}
    (h : encodeTunnelingRequest channelId sequence cemi = .ok payload) :
    requestOf payload = some ⟨channelId, sequence, cemi⟩ := by
  obtain ⟨hpacket, hlength⟩ := packet_of_encodeTunnelingRequest h
  have hdecoded := decodeTunnelingRequest_encodeTunnelingRequest h
  rw [hpacket] at hdecoded ⊢
  rw [requestOf, inboundFrame_packet _ hlength]
  dsimp only
  rw [if_pos rfl]
  exact Checked.toOption_eq_some.mpr hdecoded

/-- The client takes every request of its channel, whatever its number is. -/
def ClientTakes (t : Tunnel) (request : SentRequest) : Prop :=
  t.client.socketOpen = true
    ∧ (t.client.ownRequest ⟨t.serverEndpoint, request.payload⟩).isSome = true

instance (t : Tunnel) (request : SentRequest) : Decidable (t.ClientTakes request) :=
  inferInstanceAs (Decidable (_ ∧ _))

theorem delivered_clientReads (t : Tunnel) {request : SentRequest} (h : Encoded request) :
    (t.client.perform (.poll ⟨t.serverEndpoint, request.payload⟩)).2.delivered
      = if t.ClientTakes request then [request.cemi] else [] := by
  obtain ⟨channelId, sequence, hencoded⟩ := h
  have hrequest := requestOf_encodeTunnelingRequest hencoded
  rw [TunnelingSessionClient.perform]
  by_cases hopen : t.client.socketOpen = true
  · rw [if_pos hopen, TunnelingSessionClient.receiveDatagram_request]
    cases hown : t.client.ownRequest ⟨t.serverEndpoint, request.payload⟩ with
    | none =>
      have hnot : ¬ t.ClientTakes request := by
        rintro ⟨-, hsome⟩
        rw [hown] at hsome
        cases hsome
      rw [if_neg hnot]
    | some own =>
      have htakes : t.ClientTakes request := ⟨hopen, by rw [hown]; rfl⟩
      -- what the client decodes is what the sender encoded
      have hcemi : own.cemi = request.cemi := by
        rw [TunnelingSessionClient.ownRequest, hrequest] at hown
        obtain ⟨hsame, -⟩ := Option.filter_eq_some_iff.mp hown
        cases hsame
        rfl
      rw [if_pos htakes, ← hcemi]
  · rw [if_neg hopen, if_neg fun htakes => hopen htakes.1]

/-- The server takes a request of the channel of the client with the number that it expects, if its
acknowledgement goes out. -/
def ServerTakes (t : Tunnel) (nowMs : UInt32) (sendOk : Bool) (request : SentRequest) : Prop :=
  sendOk = true ∧ ∃ decoded, requestOf request.payload = some decoded ∧
    ∃ index, (t.server.pruneIdleChannels nowMs).ownChannel decoded.channelId t.clientEndpoint
        = some index
      ∧ ((t.server.pruneIdleChannels nowMs).slotAt index).expectedRxSequence = decoded.sequence

theorem handleDatagram_of_request {s : TunnelingServerEndpoint} {channelId sequence : UInt8}
    {cemi : List UInt8} {datagram : Datagram}
    (h : encodeTunnelingRequest channelId sequence cemi = .ok datagram.payload) (nowMs : UInt32)
    (sendOk : Bool) :
    s.handleDatagram nowMs sendOk datagram = s.handleTunnelingRequest nowMs sendOk datagram := by
  obtain ⟨hpacket, hlength⟩ := packet_of_encodeTunnelingRequest h
  have hdecoded : decodeHeader (packet tunnelingRequest ([0x04, channelId, sequence, 0x00] ++ cemi))
      = _ := decodeHeader_encodeHeader tunnelingRequest hlength
  rw [← hpacket] at hdecoded
  rw [TunnelingServerEndpoint.handleDatagram, Checked.toOption_eq_some.mpr hdecoded]
  dsimp only
  rw [if_neg (by decide), if_neg (by decide), if_neg (by decide), if_pos rfl]

theorem delivered_serverReads (t : Tunnel) (nowMs : UInt32) (sendOk : Bool) {request : SentRequest}
    (h : Encoded request) :
    (t.ServerTakes nowMs sendOk request →
        (t.server.perform (.poll nowMs sendOk
          (some ⟨t.clientEndpoint, request.payload⟩))).2.delivered.map Prod.snd = [request.cemi])
      ∧ (¬ t.ServerTakes nowMs sendOk request →
        (t.server.perform (.poll nowMs sendOk
          (some ⟨t.clientEndpoint, request.payload⟩))).2.delivered = []) := by
  obtain ⟨channelId, sequence, hencoded⟩ := h
  have hrequest := requestOf_encodeTunnelingRequest hencoded
  have hdecoded := decodeTunnelingRequest_encodeTunnelingRequest hencoded
  rw [TunnelingServerEndpoint.perform, handleDatagram_of_request hencoded,
    TunnelingServerEndpoint.handleTunnelingRequest, Checked.toOption_eq_some.mpr hdecoded]
  dsimp only
  cases hown : (t.server.pruneIdleChannels nowMs).ownChannel channelId t.clientEndpoint with
  | none =>
    refine ⟨?_, fun _ => rfl⟩
    rintro ⟨-, decoded, hsame, index, hfound, -⟩
    rw [hrequest] at hsame
    cases hsame
    rw [hown] at hfound
    cases hfound
  | some index =>
    dsimp only
    by_cases hsend : sendOk = true
    · subst hsend
      rw [if_neg (by decide)]
      by_cases hexpected
          : sequence = ((t.server.pruneIdleChannels nowMs).slotAt index).expectedRxSequence
      · rw [if_neg (not_not.mpr hexpected)]
        have htakes : t.ServerTakes nowMs true request :=
          ⟨rfl, _, hrequest, index, hown, hexpected.symm⟩
        exact ⟨fun _ => rfl, fun hnot => absurd htakes hnot⟩
      · rw [if_pos hexpected]
        refine ⟨?_, fun _ => rfl⟩
        rintro ⟨-, decoded, hsame, other, hfound, hnumber⟩
        rw [hrequest] at hsame
        cases hsame
        rw [hown] at hfound
        cases hfound
        exact absurd hnumber.symm hexpected
    · rw [if_pos (by simp [hsend])]
      exact ⟨fun htakes => absurd htakes.1 hsend, fun _ => rfl⟩

/-! ## At most once and in order -/

/-- Each callback has been given requests of the other side in the order of their sending and none
twice; so the telegrams are a subsequence of those that were sent. -/
structure Orderly (t : Tunnel) : Prop where
  toServer : InOrder (t.clientSent.map SentRequest.cemi) t.toServer
  toClient : InOrder (t.serverSent.map SentRequest.cemi) t.toClient
  serverGets : (t.toServer.map Prod.snd).Sublist (t.clientSent.map SentRequest.cemi)
  clientGets : (t.toClient.map Prod.snd).Sublist (t.serverSent.map SentRequest.cemi)

theorem orderly_of_inOrder {t : Tunnel}
    (hserver : InOrder (t.clientSent.map SentRequest.cemi) t.toServer)
    (hclient : InOrder (t.serverSent.map SentRequest.cemi) t.toClient) : t.Orderly :=
  ⟨hserver, hclient, hserver.sublist, hclient.sublist⟩

/-- What arrives is either not taken or later than everything that was taken. -/
def Fresh (t : Tunnel) : TunnelEvent → Prop
  | .clientReads position =>
      ∀ request, t.serverSent[position]? = some request → t.ClientTakes request →
        ∀ entry ∈ t.toClient, entry.1 < position
  | .serverReads nowMs sendOk position =>
      ∀ request, t.clientSent[position]? = some request → t.ServerTakes nowMs sendOk request →
        ∀ entry ∈ t.toServer, entry.1 < position
  | _ => True

/-- The requests that were sent are what their senders made of the telegrams. -/
structure Genuine (t : Tunnel) : Prop where
  clientSent : ∀ request ∈ t.clientSent, Encoded request
  serverSent : ∀ request ∈ t.serverSent, Encoded request

theorem encoded_of_sendTunnelingRequest (c : TunnelingSessionClient) (cemi : List UInt8)
    (transmitted : Bool) :
    ∀ datagram ∈ (c.sendTunnelingRequest cemi transmitted).2.sent,
      Encoded ⟨datagram.payload, cemi⟩ := by
  intro datagram hdatagram
  rw [TunnelingSessionClient.sendTunnelingRequest] at hdatagram
  split at hdatagram
  · exact absurd hdatagram List.not_mem_nil
  · rename_i payload hencoded
    split at hdatagram
    · exact absurd hdatagram List.not_mem_nil
    · rw [List.mem_singleton.mp hdatagram]
      exact ⟨_, _, hencoded⟩

theorem encoded_of_requestsFor (t : Tunnel) (event : TunnelingServerEndpoint.ServerEvent) :
    ∀ request ∈ t.requestsFor event, Encoded request := by
  intro request hrequest
  cases event with
  | poll nowMs sendOk datagram => exact absurd hrequest List.not_mem_nil
  | sendCemi nowMs sendOk channelId cemi =>
    rw [requestsFor, List.mem_map] at hrequest
    obtain ⟨datagram, hdatagram, rfl⟩ := hrequest
    have hsent := (List.mem_filter.mp hdatagram).1
    rw [TunnelingServerEndpoint.perform, TunnelingServerEndpoint.sendCemi] at hsent
    split at hsent
    · exact absurd hsent List.not_mem_nil
    · split at hsent
      · exact absurd hsent List.not_mem_nil
      · rename_i payload hencoded
        split at hsent
        · exact absurd hsent List.not_mem_nil
        · rw [List.mem_singleton.mp hsent]
          exact ⟨_, _, hencoded⟩

theorem Genuine.step {t : Tunnel} (h : t.Genuine) (event : TunnelEvent) : (t.step event).Genuine := by
  cases event with
  | request cemi transmitted =>
    rw [Tunnel.step]
    split
    · exact h
    · refine ⟨?_, h.serverSent⟩
      intro request hrequest
      rcases List.mem_append.mp hrequest with hold | hnew
      · exact h.clientSent request hold
      · obtain ⟨datagram, hdatagram, rfl⟩ := List.mem_map.mp hnew
        exact encoded_of_sendTunnelingRequest _ _ _ datagram hdatagram
  | clientReads position =>
    rw [Tunnel.step]
    split
    · exact h
    · exact ⟨h.clientSent, h.serverSent⟩
  | settle expectedSequence => exact ⟨h.clientSent, h.serverSent⟩
  | client event =>
    rw [Tunnel.step]
    split
    · exact ⟨h.clientSent, h.serverSent⟩
    · exact h
  | serverReads nowMs sendOk position =>
    rw [Tunnel.step]
    split
    · exact h
    · exact ⟨h.clientSent, h.serverSent⟩
  | server event =>
    rw [Tunnel.step]
    split
    · refine ⟨h.clientSent, ?_⟩
      intro request hrequest
      rcases List.mem_append.mp hrequest with hold | hnew
      · exact h.serverSent request hold
      · exact encoded_of_requestsFor t event request hnew
    · exact h

theorem orderly_clientReads_iff {t : Tunnel} (hgenuine : t.Genuine) (h : t.Orderly)
    (position : Nat) :
    (t.step (.clientReads position)).Orderly ↔ t.Fresh (.clientReads position) := by
  rw [Fresh, step]
  cases hsent : t.serverSent[position]? with
  | none => exact iff_of_true h fun _ hnone => by cases hnone
  | some request =>
    have hcemi : (t.serverSent.map SentRequest.cemi)[position]? = some request.cemi := by
      rw [List.getElem?_map, hsent]
      rfl
    have hencoded := hgenuine.serverSent request (List.mem_of_getElem? hsent)
    dsimp only
    rw [delivered_clientReads t hencoded]
    by_cases htakes : t.ClientTakes request
    · rw [if_pos htakes]
      have hiff := inOrder_deliver_iff h.toClient hcemi
      constructor
      · intro hafter other hother _
        exact hiff.mp hafter.toClient
      · intro hfresh
        exact orderly_of_inOrder h.toServer (hiff.mpr (hfresh request rfl htakes))
    · rw [if_neg htakes, List.map_nil, List.append_nil]
      refine iff_of_true (orderly_of_inOrder h.toServer h.toClient) ?_
      intro other hother hothertakes
      cases hother
      exact absurd hothertakes htakes

theorem orderly_serverReads_iff {t : Tunnel} (hgenuine : t.Genuine) (h : t.Orderly)
    (nowMs : UInt32) (sendOk : Bool) (position : Nat) :
    (t.step (.serverReads nowMs sendOk position)).Orderly
      ↔ t.Fresh (.serverReads nowMs sendOk position) := by
  rw [Fresh, step]
  cases hsent : t.clientSent[position]? with
  | none => exact iff_of_true h fun _ hnone => by cases hnone
  | some request =>
    have hcemi : (t.clientSent.map SentRequest.cemi)[position]? = some request.cemi := by
      rw [List.getElem?_map, hsent]
      rfl
    have hencoded := hgenuine.clientSent request (List.mem_of_getElem? hsent)
    obtain ⟨hgiven, hnothing⟩ := delivered_serverReads t nowMs sendOk hencoded
    dsimp only
    by_cases htakes : t.ServerTakes nowMs sendOk request
    · have hentries : (t.server.perform (.poll nowMs sendOk
          (some ⟨t.clientEndpoint, request.payload⟩))).2.delivered.map
            (fun telegram => (position, telegram.2)) = [(position, request.cemi)] := by
        have hone := congrArg (List.map fun cemi => (position, cemi)) (hgiven htakes)
        rw [List.map_map] at hone
        exact hone
      rw [hentries]
      have hiff := inOrder_deliver_iff h.toServer hcemi
      constructor
      · intro hafter other hother _
        exact hiff.mp hafter.toServer
      · intro hfresh
        exact orderly_of_inOrder (hiff.mpr (hfresh request rfl htakes)) h.toClient
    · rw [hnothing htakes, List.map_nil, List.append_nil]
      refine iff_of_true (orderly_of_inOrder h.toServer h.toClient) ?_
      intro other hother hothertakes
      cases hother
      exact absurd hothertakes htakes

theorem orderly_step_iff {t : Tunnel} (hgenuine : t.Genuine) (h : t.Orderly) (event : TunnelEvent) :
    (t.step event).Orderly ↔ t.Fresh event := by
  cases event with
  | clientReads position => exact orderly_clientReads_iff hgenuine h position
  | serverReads nowMs sendOk position => exact orderly_serverReads_iff hgenuine h nowMs sendOk position
  | request cemi transmitted =>
    refine iff_of_true ?_ trivial
    rw [step]
    split
    · exact h
    · refine orderly_of_inOrder ?_ h.toClient
      rw [List.map_append]
      exact h.toServer.send _
  | settle expectedSequence =>
    exact iff_of_true (orderly_of_inOrder h.toServer h.toClient) trivial
  | client event =>
    refine iff_of_true ?_ trivial
    rw [step]
    split
    · exact orderly_of_inOrder h.toServer h.toClient
    · exact h
  | server event =>
    refine iff_of_true ?_ trivial
    rw [step]
    split
    · refine orderly_of_inOrder h.toServer ?_
      rw [List.map_append]
      exact h.toClient.send _
    · exact h

/-- A client and a server in any states, and nothing sent yet. -/
def start (client : TunnelingSessionClient) (server : TunnelingServerEndpoint)
    (clientEndpoint serverEndpoint : Endpoint) : Tunnel :=
  { client := client, server := server, clientEndpoint := clientEndpoint
    serverEndpoint := serverEndpoint }

/-- At most once and in order. Along a run both callbacks get a subsequence of what was sent, no
request twice, exactly if the network gives neither side a request that this side takes and that is not
later than all it has taken. The client takes every request of its channel; the server takes the number
that it expects. -/
theorem delivered_in_order_iff (client : TunnelingSessionClient) (server : TunnelingServerEndpoint)
    (clientEndpoint serverEndpoint : Endpoint) (events : List TunnelEvent) :
    Along Tunnel.step (fun t event => (t.step event).Orderly)
        (start client server clientEndpoint serverEndpoint) events
      ↔ Along Tunnel.step Fresh (start client server clientEndpoint serverEndpoint) events := by
  have hstep : ∀ (t : Tunnel) (event : TunnelEvent), t.Genuine ∧ t.Orderly →
      (t.step event).Orderly → (t.step event).Genuine ∧ (t.step event).Orderly :=
    fun t event h horderly => ⟨h.1.step event, horderly⟩
  have hiff : ∀ (t : Tunnel) (event : TunnelEvent), t.Genuine ∧ t.Orderly →
      ((t.step event).Orderly ↔ t.Fresh event) := fun t event h => orderly_step_iff h.1 h.2 event
  have hnone : ∀ request ∈ ([] : List SentRequest), Encoded request :=
    fun _ hrequest => absurd hrequest List.not_mem_nil
  exact along_iff_along hstep hiff
    ⟨⟨hnone, hnone⟩, orderly_of_inOrder (inOrder_nil _) (inOrder_nil _)⟩ events

/-- A client that has connected. -/
def sampleConnection : List TunnelEvent :=
  [.client (.beginOpen TunnelingSessionClient.sampleServer []),
    .server (.poll 0 true (some TunnelingServerEndpoint.sampleConnect)),
    .client (.pollOpen (some ⟨TunnelingSessionClient.sampleServer,
      encodeChannelStatus connectionResponse 1 0x00⟩))]

/-- The tunnel that the client connects through. -/
def sampleTunnel : Tunnel :=
  start {} TunnelingServerEndpoint.sampleEndpoint TunnelingServerEndpoint.sampleClient
    TunnelingSessionClient.sampleServer

/-- The network repeats one request of the server, and the client hands its telegram over twice. -/
theorem repeated_request_delivered_twice :
    (run Tunnel.step sampleTunnel (sampleConnection ++
        [.server (.sendCemi 1 true 1 [0x29, 0x00]), .clientReads 0, .clientReads 0])).toClient
      = [(0, [0x29, 0x00]), (0, [0x29, 0x00])]
    ∧ ¬ Along Tunnel.step (fun t event => (t.step event).Orderly) sampleTunnel (sampleConnection ++
        [.server (.sendCemi 1 true 1 [0x29, 0x00]), .clientReads 0, .clientReads 0]) := by
  refine ⟨by decide +kernel, ?_⟩
  rintro ⟨-, -, -, -, -, horderly, -⟩
  have honce := horderly.clientGets
  revert honce
  decide +kernel

end Tunnel

end KnxStack.Netip
