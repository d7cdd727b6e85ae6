import KnxStack.Netip.TunnelPair

/-!
# A tunnel that loses datagrams

A client and a server whose requests, acknowledgements and responses may be lost. A call of `sendCemi`
is one exchange here: the request, the server's answer if the request arrives, and the acknowledgement
if it arrives.

The client counts the requests that it sends, the server those that it accepts. `InStep` says that the
two counts agree on the channel that both hold open.

- `exchange_served_iff`: a call is served exactly if they agree.
- `served_without_lost_request`: they agree in every run that has lost no request since the client last
  connected, however many acknowledgements it loses.
-/

set_option autoImplicit false

namespace KnxStack.Netip

open KnxStack.Lib KnxStack.Lib.Words

/-! ## What a call of the server leaves alone -/

namespace TunnelingServerEndpoint

/-- Every active channel has its place as its id, in eight bits, and the endpoint has one at most. -/
structure Apart (endpoint : Endpoint) (s : TunnelingServerEndpoint) : Prop where
  numbered : ∀ index slot, s.channels[index]? = some slot → slot.active = true →
    slot.channelId = UInt8.ofNat (index + 1)
  sole : ∀ (i j : Nat) (first second : ChannelSlot), s.channels[i]? = some first →
    s.channels[j]? = some second → first.active = true → second.active = true →
    first.remote = endpoint → second.remote = endpoint → i = j

/-- Channels stay where they are; of the endpoint none opens, and none moves on. -/
def Keeps (endpoint : Endpoint) (s s' : TunnelingServerEndpoint) : Prop :=
  ∀ index slot', s'.channels[index]? = some slot' → slot'.active = true →
    (∃ slot, s.channels[index]? = some slot ∧ slot.active = true
      ∧ slot.channelId = slot'.channelId ∧ slot.remote = slot'.remote
      ∧ (slot'.remote = endpoint → slot.expectedRxSequence = slot'.expectedRxSequence))
    ∨ (slot'.channelId = UInt8.ofNat (index + 1) ∧ slot'.remote ≠ endpoint)

section Keeping

variable {endpoint : Endpoint} {s s' s'' : TunnelingServerEndpoint}

theorem Keeps.refl (endpoint : Endpoint) (s : TunnelingServerEndpoint) : s.Keeps endpoint s :=
  fun _ slot hslot hactive => .inl ⟨slot, hslot, hactive, rfl, rfl, fun _ => rfl⟩

theorem Keeps.trans (h : Keeps endpoint s s') (h' : Keeps endpoint s' s'') :
    Keeps endpoint s s'' := by
  intro index slot'' hslot'' hactive''
  rcases h' index slot'' hslot'' hactive'' with
    ⟨slot', hslot', hactive', hid', hremote', hexpected'⟩ | hnew
  · rcases h index slot' hslot' hactive' with
      ⟨slot, hslot, hactive, hid, hremote, hexpected⟩ | ⟨hid, hother⟩
    · refine .inl ⟨slot, hslot, hactive, hid.trans hid', hremote.trans hremote', ?_⟩
      intro hown
      exact (hexpected (hremote'.trans hown)).trans (hexpected' hown)
    · exact .inr ⟨hid'.symm.trans hid, fun hown => hother (hremote'.trans hown)⟩
  · exact .inr hnew

theorem Apart.keeps (h : s.Apart endpoint) (hkeeps : Keeps endpoint s s') : s'.Apart endpoint := by
  refine ⟨?_, ?_⟩
  · intro index slot' hslot' hactive'
    rcases hkeeps index slot' hslot' hactive' with ⟨slot, hslot, hactive, hid, -⟩ | ⟨hid, -⟩
    · exact hid.symm.trans (h.numbered index slot hslot hactive)
    · exact hid
  · intro i j first' second' hi hj hfirst' hsecond' hown hown'
    rcases hkeeps i first' hi hfirst' with ⟨first, hfirst, hactive, -, hremote, -⟩ | ⟨-, hother⟩
    · rcases hkeeps j second' hj hsecond' with
        ⟨second, hsecond, hactive', -, hremote', -⟩ | ⟨-, hother⟩
      · exact h.sole i j first second hfirst hsecond hactive hactive' (hremote.trans hown)
          (hremote'.trans hown')
      · exact absurd hown' hother
    · exact absurd hown hother

theorem keeps_pruneIdleChannels (endpoint : Endpoint) (s : TunnelingServerEndpoint)
    (nowMs : UInt32) : Keeps endpoint s (s.pruneIdleChannels nowMs) := by
  rw [pruneIdleChannels]
  split
  · exact Keeps.refl endpoint s
  · intro index slot' hslot' hactive
    rw [List.getElem?_map] at hslot'
    obtain ⟨slot, hslot, rfl⟩ := Option.map_eq_some_iff.mp hslot'
    split at hactive
    · cases hactive
    · rename_i hkept
      rw [if_neg hkept]
      exact .inl ⟨slot, hslot, hactive, rfl, rfl, fun _ => rfl⟩

theorem keeps_modifySlot {index : Nat} {f : ChannelSlot → ChannelSlot}
    (hf : ∀ slot, s.channels[index]? = some slot → (f slot).active = true →
      slot.active = true ∧ slot.channelId = (f slot).channelId ∧ slot.remote = (f slot).remote
        ∧ ((f slot).remote = endpoint →
          slot.expectedRxSequence = (f slot).expectedRxSequence)) :
    Keeps endpoint s (s.modifySlot index f) := by
  intro place slot' hplace hactive
  rw [modifySlot, List.getElem?_modify] at hplace
  obtain ⟨slot, hslot, rfl⟩ := Option.map_eq_some_iff.mp hplace
  left
  by_cases hhere : index = place
  · subst hhere
    rw [if_pos rfl] at hactive ⊢
    exact ⟨slot, hslot, hf slot hslot hactive⟩
  · rw [if_neg hhere] at hactive ⊢
    exact ⟨slot, hslot, hactive, rfl, rfl, fun _ => rfl⟩

theorem keeps_markChannelActivity (endpoint : Endpoint) (s : TunnelingServerEndpoint) (index : Nat)
    (nowMs : UInt32) : Keeps endpoint s (s.markChannelActivity index nowMs) :=
  keeps_modifySlot fun _ _ hactive => ⟨hactive, rfl, rfl, fun _ => rfl⟩

theorem keeps_allocateChannel {remote : Endpoint} (hother : remote ≠ endpoint)
    (s : TunnelingServerEndpoint) (index : Nat) (nowMs : UInt32) :
    Keeps endpoint s (s.allocateChannel index remote nowMs) := by
  intro place slot' hplace hactive
  rw [allocateChannel] at hplace
  by_cases hhere : index = place
  · subst hhere
    rw [List.getElem?_set_self'] at hplace
    obtain ⟨-, -, rfl⟩ := Option.map_eq_some_iff.mp hplace
    exact .inr ⟨rfl, hother⟩
  · rw [List.getElem?_set_ne hhere] at hplace
    exact .inl ⟨slot', hplace, hactive, rfl, rfl, fun _ => rfl⟩

theorem keeps_handleConnectionRequest {datagram : Datagram} (hother : datagram.peer ≠ endpoint)
    (s : TunnelingServerEndpoint) (nowMs : UInt32) (sendOk : Bool) :
    Keeps endpoint s (s.handleConnectionRequest nowMs sendOk datagram).1 := by
  by_cases hlength : 26 ≤ datagram.payload.length
  · cases hfound : s.findChannelByEndpoint datagram.peer with
    | some index =>
      rw [handleConnectionRequest_known hlength hfound]
      exact keeps_markChannelActivity endpoint s index nowMs
    | none =>
      cases hfree : s.firstFree with
      | some index =>
        rw [handleConnectionRequest_new hlength hfound hfree]
        exact (keeps_allocateChannel hother s index nowMs).trans
          (keeps_markChannelActivity endpoint _ index nowMs)
      | none =>
        rw [handleConnectionRequest_full hlength hfound hfree]
        exact Keeps.refl endpoint s
  · rw [handleConnectionRequest, if_pos (Nat.not_le.mp hlength)]
    exact Keeps.refl endpoint s

theorem keeps_handleConnectionStateRequest (endpoint : Endpoint) (s : TunnelingServerEndpoint)
    (nowMs : UInt32) (sendOk : Bool) (datagram : Datagram) :
    Keeps endpoint s (s.handleConnectionStateRequest nowMs sendOk datagram).1 := by
  rw [handleConnectionStateRequest]
  split
  · exact Keeps.refl endpoint s
  · dsimp only
    split
    · exact Keeps.refl endpoint s
    · exact keeps_markChannelActivity endpoint s _ nowMs

theorem keeps_handleDisconnectRequest (endpoint : Endpoint) (s : TunnelingServerEndpoint)
    (sendOk : Bool) (datagram : Datagram) :
    Keeps endpoint s (s.handleDisconnectRequest sendOk datagram).1 := by
  rw [handleDisconnectRequest]
  split
  · exact Keeps.refl endpoint s
  · dsimp only
    split
    · exact Keeps.refl endpoint s
    · apply keeps_modifySlot
      intro slot _ hactive
      cases hactive

theorem remote_of_ownChannel {channelId : UInt8} {remote : Endpoint} {index : Nat}
    (h : s.ownChannel channelId remote = some index) :
    ∃ slot, s.channels[index]? = some slot ∧ slot.active = true ∧ slot.channelId = channelId
      ∧ slot.remote = remote := by
  obtain ⟨hfound, hremote⟩ := Option.filter_eq_some_iff.mp h
  obtain ⟨hbound, hhere, -⟩ := List.findIdx?_eq_some_iff_getElem.mp hfound
  have hslot := List.getElem?_eq_getElem hbound
  rw [slotAt_of_getElem? hslot, decide_eq_true_eq] at hremote
  rw [Bool.and_eq_true, beq_iff_eq] at hhere
  exact ⟨_, hslot, hhere.1, hhere.2, hremote⟩

theorem keeps_handleTunnelingRequest {datagram : Datagram} (hother : datagram.peer ≠ endpoint)
    (s : TunnelingServerEndpoint) (nowMs : UInt32) (sendOk : Bool) :
    Keeps endpoint s (s.handleTunnelingRequest nowMs sendOk datagram).1 := by
  rw [handleTunnelingRequest]
  split
  · exact Keeps.refl endpoint s
  · dsimp only
    split
    · exact Keeps.refl endpoint s
    · rename_i index hown
      split
      · exact Keeps.refl endpoint s
      · split
        · exact keeps_markChannelActivity endpoint s _ nowMs
        · -- the slot that moves on is of another endpoint
          obtain ⟨own, hslot, -, -, hremote⟩ := remote_of_ownChannel hown
          apply keeps_modifySlot
          intro slot hsame hactive
          rw [hslot] at hsame
          cases hsame
          exact ⟨hactive, rfl, rfl, fun hendpoint => absurd (hremote.symm.trans hendpoint) hother⟩

theorem keeps_sendCemi (endpoint : Endpoint) (s : TunnelingServerEndpoint) (nowMs : UInt32)
    (sendOk : Bool) (channelId : UInt8) (cemi : List UInt8) :
    Keeps endpoint s (s.sendCemi nowMs sendOk channelId cemi).1 := by
  rw [sendCemi]
  split
  · exact Keeps.refl endpoint s
  · split
    · exact Keeps.refl endpoint s
    · split
      · exact Keeps.refl endpoint s
      · exact keeps_modifySlot fun _ _ hactive => ⟨hactive, rfl, rfl, fun _ => rfl⟩

/-- A datagram that asks for a connection or carries a telegram. -/
def opensOrSends (payload : List UInt8) : Bool :=
  match (decodeHeader payload).toOption with
  | some header => header.serviceType == connectionRequest || header.serviceType == tunnelingRequest
  | none => false

theorem keeps_handleDatagram {datagram : Datagram}
    (hother : datagram.peer ≠ endpoint ∨ opensOrSends datagram.payload = false)
    (s : TunnelingServerEndpoint) (nowMs : UInt32) (sendOk : Bool) :
    Keeps endpoint s (s.handleDatagram nowMs sendOk datagram).1 := by
  rw [opensOrSends] at hother
  rw [handleDatagram]
  cases hheader : (decodeHeader datagram.payload).toOption with
  | none => exact Keeps.refl endpoint s
  | some header =>
    rw [hheader] at hother
    dsimp only at hother ⊢
    rw [Bool.or_eq_false_iff, beq_eq_false_iff_ne, beq_eq_false_iff_ne] at hother
    by_cases hconnect : header.serviceType = connectionRequest
    · rw [if_pos hconnect]
      rcases hother with hpeer | ⟨hnot, -⟩
      · exact keeps_handleConnectionRequest hpeer s nowMs sendOk
      · exact absurd hconnect hnot
    · rw [if_neg hconnect]
      split
      · exact keeps_handleConnectionStateRequest endpoint s nowMs sendOk datagram
      · split
        · exact keeps_handleDisconnectRequest endpoint s sendOk datagram
        · by_cases hrequest : header.serviceType = tunnelingRequest
          · rw [if_pos hrequest]
            rcases hother with hpeer | ⟨-, hnot⟩
            · exact keeps_handleTunnelingRequest hpeer s nowMs sendOk
            · exact absurd hrequest hnot
          · rw [if_neg hrequest]
            exact Keeps.refl endpoint s

end Keeping

/-! ## What a call of the client does to its channel -/

section Own

variable {endpoint : Endpoint} {s : TunnelingServerEndpoint}

theorem Apart.modifySlot (h : s.Apart endpoint) (index : Nat) {f : ChannelSlot → ChannelSlot}
    (hf : ∀ slot, (f slot).active = true → slot.active = true
      ∧ (f slot).channelId = slot.channelId ∧ (f slot).remote = slot.remote) :
    (s.modifySlot index f).Apart endpoint := by
  have hback : ∀ (place : Nat) (slot' : ChannelSlot),
      (s.modifySlot index f).channels[place]? = some slot' → slot'.active = true →
      ∃ slot, s.channels[place]? = some slot ∧ slot.active = true
        ∧ slot'.channelId = slot.channelId ∧ slot'.remote = slot.remote := by
    intro place slot' hplace hactive
    rw [TunnelingServerEndpoint.modifySlot, List.getElem?_modify] at hplace
    obtain ⟨slot, hslot, rfl⟩ := Option.map_eq_some_iff.mp hplace
    split at hactive
    · rename_i hhere
      rw [if_pos hhere]
      exact ⟨slot, hslot, hf slot hactive⟩
    · rename_i hhere
      rw [if_neg hhere]
      exact ⟨slot, hslot, hactive, rfl, rfl⟩
  refine ⟨?_, ?_⟩
  · intro place slot' hplace hactive
    obtain ⟨slot, hslot, hwas, hid, -⟩ := hback place slot' hplace hactive
    exact hid.trans (h.numbered place slot hslot hwas)
  · intro i j first' second' hi hj hfirst' hsecond' hown hown'
    obtain ⟨first, hfirst, hwas, -, hremote⟩ := hback i first' hi hfirst'
    obtain ⟨second, hsecond, hwas', -, hremote'⟩ := hback j second' hj hsecond'
    exact h.sole i j first second hfirst hsecond hwas hwas' (hremote.symm.trans hown)
      (hremote'.symm.trans hown')

theorem Apart.markChannelActivity (h : s.Apart endpoint) (index : Nat) (nowMs : UInt32) :
    (s.markChannelActivity index nowMs).Apart endpoint :=
  h.modifySlot index fun _ hactive => ⟨hactive, rfl, rfl⟩

theorem Apart.allocateChannel (h : s.Apart endpoint) {remote : Endpoint}
    (hunknown : s.findChannelByEndpoint remote = none) (index : Nat) (nowMs : UInt32) :
    (s.allocateChannel index remote nowMs).Apart endpoint := by
  have hnone : ∀ (place : Nat) (slot : ChannelSlot), s.channels[place]? = some slot →
      slot.active = true → slot.remote ≠ remote := by
    intro place slot hslot hactive hsame
    have hnot := List.findIdx?_eq_none_iff.mp hunknown slot (List.mem_of_getElem? hslot)
    rw [hactive, hsame, beq_self_eq_true] at hnot
    cases hnot
  have hback : ∀ (place : Nat) (slot : ChannelSlot),
      (s.allocateChannel index remote nowMs).channels[place]? = some slot →
      s.channels[place]? = some slot
        ∨ (index = place ∧ slot.channelId = UInt8.ofNat (place + 1) ∧ slot.remote = remote) := by
    intro place slot hslot
    rw [TunnelingServerEndpoint.allocateChannel] at hslot
    by_cases hhere : index = place
    · subst hhere
      rw [List.getElem?_set_self'] at hslot
      obtain ⟨-, -, rfl⟩ := Option.map_eq_some_iff.mp hslot
      exact .inr ⟨rfl, rfl, rfl⟩
    · rw [List.getElem?_set_ne hhere] at hslot
      exact .inl hslot
  refine ⟨?_, ?_⟩
  · intro place slot hslot hactive
    rcases hback place slot hslot with hold | ⟨-, hid, -⟩
    · exact h.numbered place slot hold hactive
    · exact hid
  · intro i j first second hi hj hfirst hsecond hown hown'
    rcases hback i first hi with hold | ⟨hhere, -, hremote⟩
    · rcases hback j second hj with hold' | ⟨-, -, hremote'⟩
      · exact h.sole i j first second hold hold' hfirst hsecond hown hown'
      · exact absurd (hown.trans (hown'.symm.trans hremote')) (hnone i first hold hfirst)
    · rcases hback j second hj with hold' | ⟨hhere', -, -⟩
      · exact absurd (hown'.trans (hown.symm.trans hremote)) (hnone j second hold' hsecond)
      · exact hhere.symm.trans hhere'

theorem Apart.handleConnectionRequest (h : s.Apart endpoint) {datagram : Datagram}
    (hlength : 26 ≤ datagram.payload.length) (nowMs : UInt32) (sendOk : Bool) :
    (s.handleConnectionRequest nowMs sendOk datagram).1.Apart endpoint := by
  cases hfound : s.findChannelByEndpoint datagram.peer with
  | some index =>
    rw [handleConnectionRequest_known hlength hfound]
    exact h.markChannelActivity index nowMs
  | none =>
    cases hfree : s.firstFree with
    | some index =>
      rw [handleConnectionRequest_new hlength hfound hfree]
      exact (h.allocateChannel hfound index nowMs).markChannelActivity index nowMs
    | none =>
      rw [handleConnectionRequest_full hlength hfound hfree]
      exact h

theorem Apart.handleTunnelingRequest (h : s.Apart endpoint) (nowMs : UInt32) (sendOk : Bool)
    (datagram : Datagram) : (s.handleTunnelingRequest nowMs sendOk datagram).1.Apart endpoint := by
  rw [TunnelingServerEndpoint.handleTunnelingRequest]
  split
  · exact h
  · dsimp only
    split
    · exact h
    · split
      · exact h
      · split
        · exact h.markChannelActivity _ nowMs
        · exact h.modifySlot _ fun _ hactive => ⟨hactive, rfl, rfl⟩

/-- An endpoint that connects gets a channel on which no number was used, among the first 255. -/
def Fresh (s : TunnelingServerEndpoint) (peer : Endpoint) : Prop :=
  (∀ index, s.findChannelByEndpoint peer = some index →
      index < 255 ∧ (s.slotAt index).expectedRxSequence = 0)
    ∧ (s.findChannelByEndpoint peer = none → ∀ index, s.firstFree = some index → index < 255)

theorem Fresh.channel {datagram : Datagram} (hfresh : s.Fresh datagram.peer)
    (h : s.Apart datagram.peer) (hlength : 26 ≤ datagram.payload.length) (nowMs : UInt32)
    (sendOk : Bool) {index : Nat} {slot : ChannelSlot}
    (hslot : (s.handleConnectionRequest nowMs sendOk datagram).1.channels[index]? = some slot)
    (hactive : slot.active = true) (hremote : slot.remote = datagram.peer) :
    index < 255 ∧ slot.expectedRxSequence = 0 := by
  have hapart := h.handleConnectionRequest hlength nowMs sendOk
  cases hfound : s.findChannelByEndpoint datagram.peer with
  | some place =>
    rw [handleConnectionRequest_known hlength hfound] at hslot hapart
    obtain ⟨hplace, hwas, hpeer⟩ := slot_of_findChannelByEndpoint hfound
    have hmarked := getElem?_markChannelActivity hplace nowMs
    obtain rfl := hapart.sole place index _ slot hmarked hslot hwas hactive hpeer hremote
    rw [hmarked] at hslot
    cases hslot
    exact hfresh.1 place hfound
  | none =>
    cases hfree : s.firstFree with
    | some place =>
      rw [handleConnectionRequest_new hlength hfound hfree] at hslot hapart
      have hmarked := getElem?_markChannelActivity
        (getElem?_allocateChannel hfree datagram.peer nowMs) nowMs
      obtain rfl := hapart.sole place index _ slot hmarked hslot rfl hactive rfl hremote
      rw [hmarked] at hslot
      cases hslot
      exact ⟨hfresh.2 hfound place hfree, rfl⟩
    | none =>
      -- then the endpoint has no channel
      rw [handleConnectionRequest_full hlength hfound hfree] at hslot
      have hnot := List.findIdx?_eq_none_iff.mp hfound slot (List.mem_of_getElem? hslot)
      rw [hactive, hremote, beq_self_eq_true] at hnot
      cases hnot

theorem Apart.ownChannel (h : s.Apart endpoint) {index : Nat} {slot : ChannelSlot}
    (hslot : s.channels[index]? = some slot) (hactive : slot.active = true) (hlow : index < 255) :
    s.ownChannel slot.channelId slot.remote = some index := by
  obtain ⟨hbound, hget⟩ := List.getElem?_eq_some_iff.mp hslot
  have hfound : s.findChannelById slot.channelId = some index := by
    rw [findChannelById, List.findIdx?_eq_some_iff_getElem]
    refine ⟨hbound, ?_, ?_⟩
    · rw [hget, hactive, beq_self_eq_true]
      rfl
    · intro place hplace
      rw [Bool.not_eq_true, Bool.and_eq_false_iff]
      by_cases hother : s.channels[place].active = true
      · right
        rw [beq_eq_false_iff_ne]
        intro hsame
        -- an earlier place has a smaller id
        rw [h.numbered place _ (List.getElem?_eq_getElem (by omega)) hother,
          h.numbered index slot hslot hactive] at hsame
        have hnat := congrArg UInt8.toNat hsame
        rw [toNat_place (by omega), toNat_place hlow] at hnat
        omega
      · exact .inl (Bool.not_eq_true _ ▸ hother)
  rw [TunnelingServerEndpoint.ownChannel, hfound, Option.filter_some, slotAt_of_getElem? hslot,
    if_pos (by simp)]

theorem apart_openWith {maxChannels : Nat} {channelIdleTimeoutMs : UInt32}
    (h : openWith maxChannels channelIdleTimeoutMs = .ok s) : s.Apart endpoint := by
  have hplaced := placed_openWith h
  refine ⟨fun index slot hslot hactive => (hplaced index slot hslot hactive).1, ?_⟩
  intro i j first second hi hj hfirst hsecond _ _
  rw [openWith] at h
  split at h
  · cases h
  · cases h
    rw [List.eq_of_mem_replicate (List.mem_of_getElem? hi)] at hfirst
    cases hfirst

end Own

end TunnelingServerEndpoint

/-! ## The session -/

/-- A client and a server, and where each is on the network. -/
structure Session where
  client : TunnelingSessionClient
  server : TunnelingServerEndpoint
  clientEndpoint : Endpoint
  serverEndpoint : Endpoint
  deriving DecidableEq, Repr

/-- What became of a call of `sendCemi`: what it returned, what the server answered, and what the
server handed to its callback. -/
structure Exchange where
  result : Result Unit
  acks : List Datagram
  delivered : List (UInt8 × List UInt8)
  deriving DecidableEq

inductive SessionEvent where
  /-- `beginOpen` and `pollOpen` of the client, with the connection request and its response. -/
  | connect (nowMs : UInt32) (requestLost responseLost : Bool)
  /-- `sendCemi` of the client. -/
  | send (nowMs : UInt32) (cemi : List UInt8) (requestLost ackLost : Bool)
  /-- Another call of the client. -/
  | client (event : TunnelingSessionClient.ClientEvent)
  /-- Another call of the server. -/
  | server (event : TunnelingServerEndpoint.ServerEvent)
  deriving DecidableEq, Repr

namespace Session

/-- An endpoint as it stands in a request (`appendHpai`). -/
def hpai (endpoint : Endpoint) : List UInt8 :=
  [0x08, 0x01, (endpoint.address >>> 24).toUInt8, (endpoint.address >>> 16).toUInt8,
    (endpoint.address >>> 8).toUInt8, endpoint.address.toUInt8, highByte endpoint.port,
    lowByte endpoint.port]

/-- The connection request of the client (`encodeConnectionRequest`). -/
def connectDatagram (t : Session) : Datagram :=
  ⟨t.clientEndpoint,
    packet connectionRequest
      (hpai t.clientEndpoint ++ hpai t.clientEndpoint ++ [0x04, 0x04, 0x02, 0x00])⟩

/-- The server with a datagram of the client that may be lost on the way. -/
def serve (t : Session) (nowMs : UInt32) (lost : Bool) (datagram : Datagram) :
    TunnelingServerEndpoint × ServerOutcome :=
  if lost then (t.server, {}) else t.server.perform (.poll nowMs true (some datagram))

/-- What comes back to the client. -/
def comeBack (t : Session) (lost : Bool) (sent : List Datagram) : List Datagram :=
  if lost then [] else sent.map fun datagram => ⟨t.serverEndpoint, datagram.payload⟩

/-- A connection. -/
def connect (t : Session) (nowMs : UInt32) (requestLost responseLost : Bool) : Session :=
  let served := t.serve nowMs requestLost t.connectDatagram
  let opening := t.client.step (.beginOpen t.serverEndpoint [])
  { t with
    server := served.1
    client := opening.step (.pollOpen (t.comeBack responseLost served.2.sent).head?) }

/-- A call of `sendCemi` with what happens on the network meanwhile. -/
def exchange (t : Session) (nowMs : UInt32) (cemi : List UInt8) (requestLost ackLost : Bool) :
    Session × Exchange :=
  let served : TunnelingServerEndpoint × ServerOutcome :=
    match (t.client.sendCemi { cemi := cemi }).2.sent with
    | [] => (t.server, {})
    | request :: _ => t.serve nowMs requestLost ⟨t.clientEndpoint, request.payload⟩
  let called := t.client.sendCemi { cemi := cemi, arrivals := t.comeBack ackLost served.2.sent }
  ({ t with client := called.1, server := served.1 },
    ⟨called.2.result, served.2.sent, served.2.delivered⟩)

/-- The other calls of the client; it connects and sends as above. -/
def clientCalls : TunnelingSessionClient.ClientEvent → Bool
  | .beginOpen _ _ => false
  | .pollOpen (some _) => false
  | .sendCemi _ => false
  | _ => true

/-- The other calls of the server; the requests of the client reach it as above. -/
def serverCalls (t : Session) : TunnelingServerEndpoint.ServerEvent → Bool
  | .poll _ _ (some datagram) =>
      datagram.peer != t.clientEndpoint
        || !TunnelingServerEndpoint.opensOrSends datagram.payload
  | _ => true

/-- One step of the session. -/
def step (t : Session) : SessionEvent → Session
  | .connect nowMs requestLost responseLost => t.connect nowMs requestLost responseLost
  | .send nowMs cemi requestLost ackLost => (t.exchange nowMs cemi requestLost ackLost).1
  | .client event => if clientCalls event then { t with client := t.client.step event } else t
  | .server event => if t.serverCalls event then { t with server := t.server.step event } else t

/-! ## Exchanges -/

/-- The telegram fits into a datagram. -/
def Fits (cemi : List UInt8) : Prop := headerLen + 4 + cemi.length ≤ udpBufferSize

/-- Both sides hold the channel open. -/
def Holds (t : Session) (nowMs : UInt32) : Prop :=
  t.client.isOpen = true
    ∧ ∃ slot ∈ (t.server.pruneIdleChannels nowMs).channels, slot.active = true
      ∧ slot.channelId = t.client.channelId ∧ slot.remote = t.clientEndpoint

/-- The call is acknowledged without an error, returns so, and its telegram is handed over. -/
def Served (t : Session) (nowMs : UInt32) (cemi : List UInt8) : Prop :=
  (t.exchange nowMs cemi false false).2
    = ⟨.ok (), [⟨t.clientEndpoint, encodeTunnelingAck t.client.channelId t.client.seq 0x00⟩],
        [(t.client.channelId, cemi)]⟩

theorem sends_of_fits {c : TunnelingSessionClient} (hopen : c.isOpen = true) {cemi : List UInt8}
    (hfits : Fits cemi) (arrivals : List Datagram) :
    c.Sends { cemi := cemi, arrivals := arrivals } := ⟨hopen, hfits, rfl, rfl⟩

theorem encode_of_fits {c : TunnelingSessionClient} {cemi : List UInt8} (hfits : Fits cemi) :
    encodeTunnelingRequest c.channelId c.seq cemi = .ok (c.requestDatagram cemi).payload := by
  have hroom : ¬ udpBufferSize < headerLen + 4 + cemi.length := Nat.not_lt.mpr hfits
  exact if_neg hroom

theorem exchange_of_fits {t : Session} (hopen : t.client.isOpen = true) {cemi : List UInt8}
    (hfits : Fits cemi) (nowMs : UInt32) (requestLost ackLost : Bool) :
    t.exchange nowMs cemi requestLost ackLost
      = (let served := t.serve nowMs requestLost
          ⟨t.clientEndpoint, (t.client.requestDatagram cemi).payload⟩
        let called := t.client.sendCemi
          { cemi := cemi, arrivals := t.comeBack ackLost served.2.sent }
        ({ t with client := called.1, server := served.1 },
          ⟨called.2.result, served.2.sent, served.2.delivered⟩)) := by
  have hsent : (t.client.sendCemi { cemi := cemi }).2.sent = [t.client.requestDatagram cemi] := by
    rw [TunnelingSessionClient.sendCemi_of_sends (sends_of_fits hopen hfits [])]
    rw [TunnelingSessionClient.waitForAck]
    split
    · rfl
    · rfl
  rw [exchange, hsent]

theorem handleTunnelingRequest_own {s : TunnelingServerEndpoint} {channelId sequence : UInt8}
    {endpoint : Endpoint} {index : Nat} (hown : s.ownChannel channelId endpoint = some index)
    {cemi payload : List UInt8}
    (hencoded : encodeTunnelingRequest channelId sequence cemi = .ok payload) (nowMs : UInt32) :
    s.handleTunnelingRequest nowMs true ⟨endpoint, payload⟩
      = if sequence = (s.slotAt index).expectedRxSequence then
          (s.modifySlot index fun slot =>
              { slot with expectedRxSequence := sequence + 1, lastActivityMs := nowMs },
            { sent := [⟨endpoint, encodeTunnelingAck channelId sequence 0x00⟩]
              delivered := [(channelId, cemi)] })
        else
          (s.markChannelActivity index nowMs,
            { sent := [⟨endpoint, encodeTunnelingAck channelId sequence statusSequenceError⟩] }) := by
  have hdecoded := decodeTunnelingRequest_encodeTunnelingRequest hencoded
  obtain ⟨slot, hslot, -, hid, -⟩ := TunnelingServerEndpoint.remote_of_ownChannel hown
  rw [TunnelingServerEndpoint.handleTunnelingRequest, Checked.toOption_eq_some.mpr hdecoded]
  dsimp only
  rw [hown]
  dsimp only
  rw [if_neg (by decide), TunnelingServerEndpoint.slotAt_of_getElem? hslot, hid]
  by_cases hexpected : sequence = slot.expectedRxSequence
  · rw [if_neg (not_not.mpr hexpected), if_pos hexpected, if_pos hexpected]
    rfl
  · rw [if_pos hexpected, if_neg hexpected, if_neg hexpected]
    rfl

theorem serve_request (t : Session) {cemi : List UInt8} (hfits : Fits cemi) (nowMs : UInt32) :
    t.serve nowMs false ⟨t.clientEndpoint, (t.client.requestDatagram cemi).payload⟩
      = (t.server.pruneIdleChannels nowMs).handleTunnelingRequest nowMs true
          ⟨t.clientEndpoint, (t.client.requestDatagram cemi).payload⟩ := by
  rw [serve, if_neg (by decide), TunnelingServerEndpoint.perform]
  have hencoded : encodeTunnelingRequest t.client.channelId t.client.seq cemi
      = .ok (Datagram.mk t.clientEndpoint (t.client.requestDatagram cemi).payload).payload :=
    encode_of_fits hfits
  exact Tunnel.handleDatagram_of_request hencoded nowMs true

theorem waitForAck_acknowledged (c : TunnelingSessionClient) (sequence : UInt8) (peer : Endpoint) :
    (TunnelingSessionClient.waitForAck sequence c
      [⟨peer, encodeTunnelingAck c.channelId sequence 0x00⟩]).2.result = .ok () := by
  have hframe : inboundFrame (encodeTunnelingAck c.channelId sequence 0x00)
      = some (tunnelingAck, encodeTunnelingAck c.channelId sequence 0x00) :=
    Tunnel.inboundFrame_packet tunnelingAck (by simp [headerLen])
  have hdecoded := decodeTunnelingAck_encodeTunnelingAck c.channelId sequence 0x00
  have hreceived : (c.receiveDatagram
      ⟨peer, encodeTunnelingAck c.channelId sequence 0x00⟩).1
        = { c with ackTracker := c.ackTracker.record sequence } := by
    rw [TunnelingSessionClient.receiveDatagram, hframe]
    dsimp only
    rw [TunnelingSessionClient.handleInboundFrame, if_pos rfl,
      Checked.toOption_eq_some.mpr hdecoded]
    dsimp only
    rw [if_pos ⟨rfl, rfl⟩]
  -- the newest entry is never the one that is dropped
  have hmem : sequence ∈ (c.ackTracker.record sequence).sequences := by
    rw [TunnelingAckTracker.record, List.drop_append_of_le_length (by omega)]
    exact List.mem_append_right _ List.mem_cons_self
  have hconsumed : (c.ackTracker.record sequence).consume sequence
      = some ⟨(c.ackTracker.record sequence).sequences.erase sequence⟩ := if_pos hmem
  rw [TunnelingSessionClient.waitForAck]
  split
  · rfl
  · dsimp only [Outcome.andThen]
    rw [hreceived, TunnelingSessionClient.waitForAck]
    dsimp only
    rw [hconsumed]

theorem exchange_served_iff {t : Session} {nowMs : UInt32} {index : Nat}
    (hopen : t.client.isOpen = true)
    (hown : (t.server.pruneIdleChannels nowMs).ownChannel t.client.channelId t.clientEndpoint
      = some index) {cemi : List UInt8} (hfits : Fits cemi) :
    t.Served nowMs cemi
      ↔ t.client.seq = ((t.server.pruneIdleChannels nowMs).slotAt index).expectedRxSequence := by
  rw [Served, exchange_of_fits hopen hfits, serve_request t hfits,
    handleTunnelingRequest_own hown (encode_of_fits hfits)]
  by_cases hexpected
      : t.client.seq = ((t.server.pruneIdleChannels nowMs).slotAt index).expectedRxSequence
  · rw [if_pos hexpected]
    refine iff_of_true ?_ hexpected
    have harrivals : ∀ ack : Datagram, t.comeBack false [ack] = [⟨t.serverEndpoint, ack.payload⟩] :=
      fun _ => rfl
    dsimp only
    rw [harrivals, TunnelingSessionClient.sendCemi_of_sends (sends_of_fits hopen hfits _)]
    dsimp only [Outcome.andThen]
    have hok := waitForAck_acknowledged { t.client with seq := t.client.seq + 1 } t.client.seq
      t.serverEndpoint
    dsimp only at hok
    rw [hok]
  · rw [if_neg hexpected]
    refine iff_of_false ?_ hexpected
    intro hserved
    have hdelivered := congrArg Exchange.delivered hserved
    cases hdelivered

/-! ## Counts that agree -/

/-- The channel that both hold open is one of the first 255 and expects the number that the client
sends next. -/
def InStep (t : Session) : Prop :=
  t.client.channelId ≠ 0 → ∀ index slot, t.server.channels[index]? = some slot →
    slot.active = true → slot.remote = t.clientEndpoint → slot.channelId = t.client.channelId →
    index < 255 ∧ slot.expectedRxSequence = t.client.seq

/-- The step loses no request, connects to a channel that is fresh, and takes no number away for device
management. -/
def InTouch (t : Session) : SessionEvent → Prop
  | .connect nowMs requestLost _ =>
      requestLost = false → (t.server.pruneIdleChannels nowMs).Fresh t.clientEndpoint
  | .send _ cemi requestLost _ => t.client.isOpen = true → Fits cemi → requestLost = false
  | .client event => event = .acquireHeader → t.client.isOpen = false
  | .server _ => True

/-- A step that connects. -/
def Connects : SessionEvent → Prop
  | .connect _ _ _ => True
  | _ => False

theorem InStep.keeps {t : Session} (h : t.InStep) {server : TunnelingServerEndpoint}
    (hkeeps : t.server.Keeps t.clientEndpoint server) :
    ({ t with server := server } : Session).InStep := by
  intro hchannel index slot hslot hactive hremote hid
  rcases hkeeps index slot hslot hactive with
    ⟨before, hbefore, hwas, hsame, hpeer, hexpected⟩ | ⟨-, hother⟩
  · rw [← hexpected hremote]
    exact h hchannel index before hbefore hwas (hpeer.trans hremote) (hsame.trans hid)
  · exact absurd hremote hother

theorem inStep_of_closed {t : Session} (h : t.client.channelId = 0) : t.InStep :=
  fun hopen => absurd h hopen

theorem seq_receiveDatagram (c : TunnelingSessionClient) (datagram : Datagram) :
    (c.receiveDatagram datagram).1.seq = c.seq := by
  rw [TunnelingSessionClient.receiveDatagram]
  split
  · rfl
  · dsimp only
    rw [TunnelingSessionClient.handleInboundFrame]
    repeat' split
    all_goals rfl

theorem waitForAck_same (expectedSequence : UInt8) (arrivals : List Datagram) :
    ∀ c : TunnelingSessionClient,
      (TunnelingSessionClient.waitForAck expectedSequence c arrivals).1.channelId = c.channelId
        ∧ (TunnelingSessionClient.waitForAck expectedSequence c arrivals).1.seq = c.seq := by
  induction arrivals with
  | nil =>
    intro c
    rw [TunnelingSessionClient.waitForAck]
    split
    · exact ⟨rfl, rfl⟩
    · exact ⟨rfl, rfl⟩
  | cons datagram arrivals ih =>
    intro c
    rw [TunnelingSessionClient.waitForAck]
    split
    · exact ⟨rfl, rfl⟩
    · obtain ⟨hchannel, hseq⟩ := ih (c.receiveDatagram datagram).1
      exact ⟨hchannel.trans (TunnelingSessionClient.channelId_receiveDatagram c datagram),
        hseq.trans (seq_receiveDatagram c datagram)⟩

theorem exchange_of_not_sending {t : Session} {cemi : List UInt8}
    (h : ¬ (t.client.isOpen = true ∧ Fits cemi)) (nowMs : UInt32) (requestLost ackLost : Bool) :
    (t.exchange nowMs cemi requestLost ackLost).1 = t := by
  have hcall : ∀ arrivals, (t.client.sendCemi { cemi := cemi, arrivals := arrivals }).1 = t.client
      ∧ (t.client.sendCemi { cemi := cemi, arrivals := arrivals }).2.sent = [] := by
    intro arrivals
    rw [TunnelingSessionClient.sendCemi]
    by_cases hopen : t.client.isOpen = true
    · have hlong : udpBufferSize < headerLen + 4 + cemi.length := by
        by_contra hnot
        exact h ⟨hopen, Nat.not_lt.mp hnot⟩
      have hencoded : encodeTunnelingRequest t.client.channelId t.client.seq cemi
          = .error .bufferTooSmall := if_pos hlong
      rw [if_neg (by rw [hopen]; decide), TunnelingSessionClient.sendTunnelingRequest, hencoded]
      exact ⟨rfl, rfl⟩
    · rw [if_pos (by simp [hopen])]
      exact ⟨rfl, rfl⟩
  rw [exchange, (hcall []).2]
  dsimp only
  rw [(hcall _).1]

theorem InStep.exchange {t : Session} (hapart : t.server.Apart t.clientEndpoint) (h : t.InStep)
    (nowMs : UInt32) (cemi : List UInt8) {requestLost : Bool}
    (hlost : t.client.isOpen = true → Fits cemi → requestLost = false) (ackLost : Bool) :
    (t.exchange nowMs cemi requestLost ackLost).1.InStep := by
  by_cases hsends : t.client.isOpen = true ∧ Fits cemi
  · obtain ⟨hopen, hfits⟩ := hsends
    obtain rfl := hlost hopen hfits
    rw [exchange_of_fits hopen hfits, serve_request t hfits]
    have hprunes := TunnelingServerEndpoint.keeps_pruneIdleChannels t.clientEndpoint t.server nowMs
    have hpruned := h.keeps hprunes
    have hplaces := hapart.keeps hprunes
    dsimp only
    rw [TunnelingSessionClient.sendCemi_of_sends (sends_of_fits hopen hfits _)]
    obtain ⟨hchannel, hseq⟩ := waitForAck_same t.client.seq
      (t.comeBack ackLost ((t.server.pruneIdleChannels nowMs).handleTunnelingRequest nowMs true
        ⟨t.clientEndpoint, (t.client.requestDatagram cemi).payload⟩).2.sent)
      { t.client with seq := t.client.seq + 1 }
    intro hnonzero place slot hslot hactive hremote hid
    dsimp only at hnonzero hslot hremote hid ⊢
    rw [hchannel] at hnonzero hid
    rw [hseq]
    dsimp only at hnonzero hid ⊢
    have hencoded := encode_of_fits (c := t.client) hfits
    -- the slot was there before with the number that the client has just sent
    cases hown : (t.server.pruneIdleChannels nowMs).ownChannel t.client.channelId
        t.clientEndpoint with
    | none =>
      have hdecoded := decodeTunnelingRequest_encodeTunnelingRequest hencoded
      rw [TunnelingServerEndpoint.handleTunnelingRequest, Checked.toOption_eq_some.mpr hdecoded]
        at hslot
      dsimp only at hslot
      rw [hown] at hslot
      obtain ⟨hlow, -⟩ := hpruned hnonzero place slot hslot hactive hremote hid
      have hfound := hplaces.ownChannel hslot hactive hlow
      rw [hid, hremote, hown] at hfound
      cases hfound
    | some index =>
      obtain ⟨own, hat, hownactive, hownid, hownremote⟩ :=
        TunnelingServerEndpoint.remote_of_ownChannel hown
      obtain ⟨hlow, hexpected⟩ := hpruned hnonzero index own hat hownactive hownremote hownid
      rw [handleTunnelingRequest_own hown hencoded,
        TunnelingServerEndpoint.slotAt_of_getElem? hat, if_pos hexpected.symm] at hslot
      dsimp only at hslot
      rw [TunnelingServerEndpoint.modifySlot, List.getElem?_modify] at hslot
      obtain ⟨before, hbefore, rfl⟩ := Option.map_eq_some_iff.mp hslot
      by_cases hhere : index = place
      · rw [if_pos hhere]
        exact ⟨hhere ▸ hlow, rfl⟩
      · rw [if_neg hhere] at hactive hremote
        exact absurd (hplaces.sole index place own before hat hbefore hownactive hactive hownremote
          hremote) hhere
  · rw [exchange_of_not_sending hsends]
    exact h

theorem isConnect_connectDatagram (t : Session) :
    TunnelingServerEndpoint.IsConnect t.connectDatagram := by
  have hbody : (hpai t.clientEndpoint ++ hpai t.clientEndpoint ++ [0x04, 0x04, 0x02, 0x00]).length
      = 20 := rfl
  refine ⟨?_, ⟨connectionRequest, UInt16.ofNat _⟩, decodeHeader_encodeHeader connectionRequest ?_,
    rfl⟩
  · exact Nat.le_of_eq rfl
  · rw [hbody]
    decide

theorem serve_connect (t : Session) (nowMs : UInt32) :
    t.serve nowMs false t.connectDatagram
      = (t.server.pruneIdleChannels nowMs).handleConnectionRequest nowMs true t.connectDatagram := by
  rw [serve, if_neg (by decide), TunnelingServerEndpoint.perform]
  exact TunnelingServerEndpoint.handleDatagram_of_isConnect (isConnect_connectDatagram t) nowMs true

theorem seq_pollOpen (c : TunnelingSessionClient) (remote : Endpoint) (datagram : Option Datagram) :
    ((c.step (.beginOpen remote [])).step (.pollOpen datagram)).seq = 0 := by
  cases datagram with
  | none => rfl
  | some datagram =>
    rw [TunnelingSessionClient.step, TunnelingSessionClient.perform]
    split
    · dsimp only
      rw [TunnelingSessionClient.receiveConnectionResponse]
      repeat' split
      all_goals rfl
    · rfl

theorem InStep.connect {t : Session} (hapart : t.server.Apart t.clientEndpoint) {nowMs : UInt32}
    {requestLost responseLost : Bool}
    (hnew : t.InTouch (.connect nowMs requestLost responseLost)) :
    (t.connect nowMs requestLost responseLost).InStep := by
  rw [Session.connect]
  cases hlost : requestLost with
  | true =>
    apply inStep_of_closed
    rw [serve, if_pos rfl, comeBack]
    split
    · rfl
    · rfl
  | false =>
    rw [serve_connect]
    intro hnonzero index slot hslot hactive hremote hid
    dsimp only at hslot hremote ⊢
    rw [seq_pollOpen]
    have hplaces := hapart.keeps
      (TunnelingServerEndpoint.keeps_pruneIdleChannels t.clientEndpoint t.server nowMs)
    have hfresh := hnew hlost
    exact TunnelingServerEndpoint.Fresh.channel hfresh hplaces (isConnect_connectDatagram t).1 nowMs
      true hslot hactive hremote

theorem InStep.clientCall {t : Session} (h : t.InStep)
    {event : TunnelingSessionClient.ClientEvent} (hcall : clientCalls event = true)
    (htouch : t.InTouch (.client event)) :
    ({ t with client := t.client.step event } : Session).InStep := by
  cases event with
  | beginOpen remote arrivals => cases hcall
  | sendCemi call => cases hcall
  | acquireHeader =>
    have hclosed : t.client.isOpen = false := htouch rfl
    have hsame : t.client.step .acquireHeader = t.client := by
      rw [TunnelingSessionClient.step, TunnelingSessionClient.perform, hclosed]
      rfl
    rw [hsame]
    exact h
  | close arrivals => exact inStep_of_closed rfl
  | pollOpen datagram =>
    cases datagram with
    | none => exact h
    | some datagram => cases hcall
  | keepalive arrivals =>
    have hsame : t.client.step (.keepalive arrivals) = t.client := by
      rw [TunnelingSessionClient.step, TunnelingSessionClient.perform]
      split
      · rfl
      · rfl
    rw [hsame]
    exact h
  | poll datagram =>
    have hsame : (t.client.step (.poll datagram)).channelId = t.client.channelId
        ∧ (t.client.step (.poll datagram)).seq = t.client.seq := by
      rw [TunnelingSessionClient.step, TunnelingSessionClient.perform]
      split
      · exact ⟨TunnelingSessionClient.channelId_receiveDatagram _ _, seq_receiveDatagram _ _⟩
      · exact ⟨rfl, rfl⟩
    rw [InStep]
    dsimp only
    rw [hsame.1, hsame.2]
    exact h

theorem keeps_serverCall {t : Session} {event : TunnelingServerEndpoint.ServerEvent}
    (hcall : t.serverCalls event = true) :
    t.server.Keeps t.clientEndpoint (t.server.step event) := by
  cases event with
  | sendCemi nowMs sendOk channelId cemi =>
    exact TunnelingServerEndpoint.keeps_sendCemi _ _ _ _ _ _
  | poll nowMs sendOk datagram =>
    have hprunes := TunnelingServerEndpoint.keeps_pruneIdleChannels t.clientEndpoint t.server nowMs
    cases datagram with
    | none => exact hprunes
    | some datagram =>
      have hother : datagram.peer ≠ t.clientEndpoint
          ∨ TunnelingServerEndpoint.opensOrSends datagram.payload = false := by
        rw [serverCalls, Bool.or_eq_true, bne_iff_ne, Bool.not_eq_true'] at hcall
        exact hcall
      exact hprunes.trans (TunnelingServerEndpoint.keeps_handleDatagram hother _ nowMs sendOk)

theorem apart_step {t : Session} (h : t.server.Apart t.clientEndpoint) (event : SessionEvent) :
    (t.step event).server.Apart (t.step event).clientEndpoint := by
  cases event with
  | connect nowMs requestLost responseLost =>
    rw [Session.step, Session.connect]
    cases requestLost with
    | true => exact h
    | false =>
      rw [serve_connect]
      exact (h.keeps (TunnelingServerEndpoint.keeps_pruneIdleChannels _ _ nowMs)).handleConnectionRequest
        (isConnect_connectDatagram t).1 nowMs true
  | send nowMs cemi requestLost ackLost =>
    rw [Session.step]
    by_cases hsends : t.client.isOpen = true ∧ Fits cemi
    · rw [exchange_of_fits hsends.1 hsends.2]
      cases requestLost with
      | true => exact h
      | false =>
        rw [serve_request t hsends.2]
        exact (h.keeps (TunnelingServerEndpoint.keeps_pruneIdleChannels _ _ nowMs)).handleTunnelingRequest
          nowMs true _
    · rw [exchange_of_not_sending hsends]
      exact h
  | client event =>
    rw [Session.step]
    split
    · exact h
    · exact h
  | server event =>
    rw [Session.step]
    split
    · rename_i hcall
      exact h.keeps (keeps_serverCall hcall)
    · exact h

theorem inStep_step {t : Session} (hapart : t.server.Apart t.clientEndpoint) {event : SessionEvent}
    (htouch : t.InTouch event) (h : Connects event ∨ t.InStep) : (t.step event).InStep := by
  cases event with
  | connect nowMs requestLost responseLost => exact InStep.connect hapart htouch
  | send nowMs cemi requestLost ackLost =>
    exact InStep.exchange hapart (h.resolve_left id) nowMs cemi htouch ackLost
  | client event =>
    have hbefore := h.resolve_left id
    rw [Session.step]
    split
    · rename_i hcall
      exact hbefore.clientCall hcall htouch
    · exact hbefore
  | server event =>
    have hbefore := h.resolve_left id
    rw [Session.step]
    split
    · rename_i hcall
      exact hbefore.keeps (keeps_serverCall hcall)
    · exact hbefore

/-- A lost datagram and the tunnel. From a server that was just opened and a client that is not
connected, over every run that has lost no request since the client last connected: as long as both
sides hold the channel open, the next call is acknowledged and its telegram is handed over.
Acknowledgements may be lost at will, and on earlier channels everything. -/
theorem served_without_lost_request {maxChannels : Nat} {channelIdleTimeoutMs : UInt32}
    {server : TunnelingServerEndpoint}
    (hopen : TunnelingServerEndpoint.openWith maxChannels channelIdleTimeoutMs = .ok server)
    {client : TunnelingSessionClient} (hclosed : client.channelId = 0)
    (clientEndpoint serverEndpoint : Endpoint) {events : List SessionEvent}
    (htouch : Since Session.step InTouch Connects ⟨client, server, clientEndpoint, serverEndpoint⟩
      True events)
    {nowMs : UInt32} {cemi : List UInt8}
    (hholds : (run Session.step ⟨client, server, clientEndpoint, serverEndpoint⟩ events).Holds nowMs)
    (hfits : Fits cemi) :
    (run Session.step ⟨client, server, clientEndpoint, serverEndpoint⟩ events).Served nowMs cemi := by
  have hbase : ∀ (t : Session) (event : SessionEvent), t.server.Apart t.clientEndpoint →
      (t.step event).server.Apart (t.step event).clientEndpoint :=
    fun t event h => apart_step h event
  have hstep : ∀ (t : Session) (event : SessionEvent), t.server.Apart t.clientEndpoint →
      t.InTouch event → Connects event ∨ t.InStep → (t.step event).InStep :=
    fun t event hapart htouch h => inStep_step hapart htouch h
  have hstart : (⟨client, server, clientEndpoint, serverEndpoint⟩ : Session).InStep :=
    inStep_of_closed hclosed
  obtain ⟨hapart, hafter⟩ := run_invariant_since hbase hstep
    (TunnelingServerEndpoint.apart_openWith hopen) (fun _ => hstart) htouch
  generalize run Session.step ⟨client, server, clientEndpoint, serverEndpoint⟩ events = t
    at hholds hapart hafter ⊢
  obtain ⟨hclient, slot, hmem, hactive, hid, hremote⟩ := hholds
  have hchannel : t.client.channelId ≠ 0 := by
    rw [TunnelingSessionClient.isOpen, Bool.and_eq_true, bne_iff_ne] at hclient
    exact hclient.2
  have hprunes := TunnelingServerEndpoint.keeps_pruneIdleChannels t.clientEndpoint t.server nowMs
  obtain ⟨index, hslot⟩ := List.mem_iff_getElem?.mp hmem
  obtain ⟨hlow, hexpected⟩ :=
    hafter.keeps hprunes hchannel index slot hslot hactive hremote hid
  have hown := (hapart.keeps hprunes).ownChannel hslot hactive hlow
  rw [hid, hremote] at hown
  apply (exchange_served_iff hclient hown hfits).mpr
  rw [TunnelingServerEndpoint.slotAt_of_getElem? hslot]
  exact hexpected.symm

/-- A session before the client connects. -/
def sampleSession : Session :=
  ⟨{}, TunnelingServerEndpoint.sampleEndpoint, TunnelingServerEndpoint.sampleClient,
    TunnelingSessionClient.sampleServer⟩

theorem fits_sample (octet : UInt8) : Fits [octet] := by
  rw [Fits, List.length_singleton]
  decide

/-- A request is lost, the client connects again, and an acknowledgement is lost: the next call is
served. -/
theorem served_after_lost_ack :
    (run Session.step sampleSession
      [.connect 0 false false, .send 1 [0x11] true false, .client .acquireHeader,
        .connect 2 false false, .send 3 [0x22] false true]).Served 4 [0x33] := by
  have hopen : TunnelingServerEndpoint.openWith 4 60000
      = .ok TunnelingServerEndpoint.sampleEndpoint := rfl
  -- the second connection finds the channel of the first as it was opened
  have hfresh : ((run Session.step sampleSession
      [.connect 0 false false, .send 1 [0x11] true false,
        .client .acquireHeader]).server.pruneIdleChannels 2).Fresh
          TunnelingServerEndpoint.sampleClient := by
    have hfound : ((run Session.step sampleSession
        [.connect 0 false false, .send 1 [0x11] true false,
          .client .acquireHeader]).server.pruneIdleChannels 2).findChannelByEndpoint
            TunnelingServerEndpoint.sampleClient = some 0 := by decide +kernel
    refine ⟨?_, ?_⟩
    · intro index hindex
      rw [hfound] at hindex
      cases hindex
      decide +kernel
    · intro hnone
      rw [hfound] at hnone
      cases hnone
  have htouch : Since Session.step InTouch Connects sampleSession True
      [.connect 0 false false, .send 1 [0x11] true false, .client .acquireHeader,
        .connect 2 false false, .send 3 [0x22] false true] :=
    ⟨fun _ _ => rfl, .inr ⟨fun _ => hfresh, .inl trivial⟩⟩
  have hholds : (run Session.step sampleSession
      [.connect 0 false false, .send 1 [0x11] true false, .client .acquireHeader,
        .connect 2 false false, .send 3 [0x22] false true]).Holds 4 :=
    ⟨by decide +kernel, by decide +kernel⟩
  exact served_without_lost_request hopen rfl _ _ htouch hholds (fits_sample 0x33)

/-- One request is lost, and the next call, which loses nothing, is refused. -/
theorem refused_after_lost_request :
    (run Session.step sampleSession [.connect 0 false false, .send 1 [0x11] true false]).Holds 2
      ∧ ¬ (run Session.step sampleSession [.connect 0 false false, .send 1 [0x11] true false]).Served 2
        [0x22] := by
  refine ⟨⟨by decide +kernel, by decide +kernel⟩, ?_⟩
  rw [Served]
  decide +kernel

end Session

end KnxStack.Netip
