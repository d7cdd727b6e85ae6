import KnxStack.Netip.TunnelingClient

/-!
# The tunnelling server

`TunnelingServerEndpoint` (`netip/tunneling_server_endpoint.cpp`): a table of channels, the requests
that open, keep and close them, and the telegrams in both directions.

A slot has its place in the table as its channel id, in eight bits. `Placed` is the invariant that
follows, and `channels_sound_iff` says along which runs the ids stay apart and every connection starts
with sequence number zero.
-/

set_option autoImplicit false

namespace KnxStack.Netip

open KnxStack.Lib

/-! ## Channels -/

/-- `ChannelSlot` with its `ChannelInfo`. -/
structure ChannelSlot where
  active : Bool := false
  channelId : UInt8 := 0
  remote : Endpoint := ⟨0, 0⟩
  expectedRxSequence : UInt8 := 0
  nextTxSequence : UInt8 := 0
  lastActivityMs : UInt32 := 0
  deriving DecidableEq, Repr

/-- `TunnelingServerEndpoint`, with the options it uses. -/
structure TunnelingServerEndpoint where
  channels : List ChannelSlot := []
  channelIdleTimeoutMs : UInt32 := 60000
  deriving DecidableEq, Repr

/-- What a call sends, and what it hands to the callback. -/
structure ServerOutcome where
  sent : List Datagram := []
  delivered : List (UInt8 × List UInt8) := []
  deriving DecidableEq, Repr

/-- `kStatusNoMoreConnections`. -/
def statusNoMoreConnections : UInt8 := 0x24
/-- `kStatusInvalidConnection`. -/
def statusInvalidConnection : UInt8 := 0x21
/-- `kStatusSequenceError`. -/
def statusSequenceError : UInt8 := 0x04

namespace TunnelingServerEndpoint

/-- `open`. -/
def openWith (maxChannels : Nat) (channelIdleTimeoutMs : UInt32) : Result TunnelingServerEndpoint :=
  if maxChannels = 0 then .error .invalidParameter
  else
    .ok
      { channels := List.replicate maxChannels {}
        channelIdleTimeoutMs := channelIdleTimeoutMs }

/-- `pruneIdleChannels`. -/
def pruneIdleChannels (s : TunnelingServerEndpoint) (nowMs : UInt32) : TunnelingServerEndpoint :=
  if s.channelIdleTimeoutMs = 0 then s
  else
    { s with
      channels := s.channels.map fun slot =>
        if slot.active && s.channelIdleTimeoutMs ≤ nowMs - slot.lastActivityMs then {} else slot }

/-- `findChannelById`. -/
def findChannelById (s : TunnelingServerEndpoint) (channelId : UInt8) : Option Nat :=
  s.channels.findIdx? fun slot => slot.active && slot.channelId == channelId

/-- `findChannelByEndpoint`. -/
def findChannelByEndpoint (s : TunnelingServerEndpoint) (remote : Endpoint) : Option Nat :=
  s.channels.findIdx? fun slot => slot.active && slot.remote == remote

/-- The slot that `allocateChannel` takes. -/
def firstFree (s : TunnelingServerEndpoint) : Option Nat :=
  s.channels.findIdx? fun slot => !slot.active

/-- `allocateChannel` into a free slot. -/
def allocateChannel (s : TunnelingServerEndpoint) (index : Nat) (remote : Endpoint) (nowMs : UInt32) :
    TunnelingServerEndpoint :=
  { s with
    channels := s.channels.set index
      { active := true
        channelId := UInt8.ofNat (index + 1)
        remote := remote
        lastActivityMs := nowMs } }

/-- A change of one slot. -/
def modifySlot (s : TunnelingServerEndpoint) (index : Nat) (f : ChannelSlot → ChannelSlot) :
    TunnelingServerEndpoint :=
  { s with channels := s.channels.modify index f }

/-- `markChannelActivity`. -/
def markChannelActivity (s : TunnelingServerEndpoint) (index : Nat) (nowMs : UInt32) :
    TunnelingServerEndpoint :=
  s.modifySlot index fun slot => { slot with lastActivityMs := nowMs }

/-- What the socket takes. -/
def transmit (sendOk : Bool) (datagram : Datagram) : List Datagram := if sendOk then [datagram] else []

/-- `sendChannelStatusResponse`. -/
def statusResponse (sendOk : Bool) (serviceType : UInt16) (destination : Endpoint)
    (channelId status : UInt8) : ServerOutcome :=
  { sent := transmit sendOk ⟨destination, encodeChannelStatus serviceType channelId status⟩ }

/-- The slot at an index. -/
def slotAt (s : TunnelingServerEndpoint) (index : Nat) : ChannelSlot := s.channels.getD index {}

/-- `handleConnectionRequest`: an endpoint that has a channel gets the same one again. -/
def handleConnectionRequest (s : TunnelingServerEndpoint) (nowMs : UInt32) (sendOk : Bool)
    (datagram : Datagram) : TunnelingServerEndpoint × ServerOutcome :=
  if datagram.payload.length < 26 then (s, {})
  else
    let found :=
      match s.findChannelByEndpoint datagram.peer with
      | some index => (s, some index)
      | none =>
          match s.firstFree with
          | some index => (s.allocateChannel index datagram.peer nowMs, some index)
          | none => (s, none)
    match found.2 with
    | none =>
        (found.1, statusResponse sendOk connectionResponse datagram.peer 0 statusNoMoreConnections)
    | some index =>
        (found.1.markChannelActivity index nowMs,
          statusResponse sendOk connectionResponse datagram.peer (found.1.slotAt index).channelId 0x00)

/-- The slot of a channel, if the channel belongs to the endpoint. -/
def ownChannel (s : TunnelingServerEndpoint) (channelId : UInt8) (remote : Endpoint) : Option Nat :=
  (s.findChannelById channelId).filter fun index => (s.slotAt index).remote = remote

/-- `handleConnectionStateRequest`. -/
def handleConnectionStateRequest (s : TunnelingServerEndpoint) (nowMs : UInt32) (sendOk : Bool)
    (datagram : Datagram) : TunnelingServerEndpoint × ServerOutcome :=
  if datagram.payload.length < 16 then (s, {})
  else
    let channelId := datagram.payload.getD 6 0
    match s.ownChannel channelId datagram.peer with
    | none =>
        (s, statusResponse sendOk connectionStateResponse datagram.peer channelId
          statusInvalidConnection)
    | some index =>
        (s.markChannelActivity index nowMs,
          statusResponse sendOk connectionStateResponse datagram.peer channelId 0x00)

/-- `handleDisconnectRequest`. -/
def handleDisconnectRequest (s : TunnelingServerEndpoint) (sendOk : Bool) (datagram : Datagram) :
    TunnelingServerEndpoint × ServerOutcome :=
  if datagram.payload.length < 16 then (s, {})
  else
    let channelId := datagram.payload.getD 6 0
    match s.ownChannel channelId datagram.peer with
    | none =>
        (s, statusResponse sendOk disconnectResponse datagram.peer channelId statusInvalidConnection)
    | some index =>
        (s.modifySlot index fun _ => {},
          statusResponse sendOk disconnectResponse datagram.peer channelId 0x00)

/-- `handleTunnelingRequest`: only the expected number is accepted, and what is not acknowledged is
not accepted either. -/
def handleTunnelingRequest (s : TunnelingServerEndpoint) (nowMs : UInt32) (sendOk : Bool)
    (datagram : Datagram) : TunnelingServerEndpoint × ServerOutcome :=
  match (decodeTunnelingRequest datagram.payload).toOption with
  | none => (s, {})
  | some request =>
      let ack := fun status : UInt8 =>
        transmit sendOk ⟨datagram.peer, encodeTunnelingAck request.channelId request.sequence status⟩
      match s.ownChannel request.channelId datagram.peer with
      | none => (s, { sent := ack statusInvalidConnection })
      | some index =>
          let accepted := request.sequence = (s.slotAt index).expectedRxSequence
          let sent := ack (if accepted then 0x00 else statusSequenceError)
          if !sendOk then (s, { sent := sent })
          else if ¬ accepted then (s.markChannelActivity index nowMs, { sent := sent })
          else
            (s.modifySlot index fun slot =>
                { slot with expectedRxSequence := request.sequence + 1, lastActivityMs := nowMs },
              { sent := sent, delivered := [((s.slotAt index).channelId, request.cemi)] })

/-- `poll`, once a datagram is read. -/
def handleDatagram (s : TunnelingServerEndpoint) (nowMs : UInt32) (sendOk : Bool)
    (datagram : Datagram) : TunnelingServerEndpoint × ServerOutcome :=
  match (decodeHeader datagram.payload).toOption with
  | none => (s, {})
  | some header =>
      if header.serviceType = connectionRequest then s.handleConnectionRequest nowMs sendOk datagram
      else if header.serviceType = connectionStateRequest then
        s.handleConnectionStateRequest nowMs sendOk datagram
      else if header.serviceType = disconnectRequest then s.handleDisconnectRequest sendOk datagram
      else if header.serviceType = tunnelingRequest then
        s.handleTunnelingRequest nowMs sendOk datagram
      else (s, {})

/-- `sendCemi`. -/
def sendCemi (s : TunnelingServerEndpoint) (nowMs : UInt32) (sendOk : Bool) (channelId : UInt8)
    (cemi : List UInt8) : TunnelingServerEndpoint × ServerOutcome :=
  match s.findChannelById channelId with
  | none => (s, {})
  | some index =>
      match encodeTunnelingRequest channelId (s.slotAt index).nextTxSequence cemi with
      | .error _ => (s, {})
      | .ok payload =>
          if !sendOk then (s, {})
          else
            (s.modifySlot index fun slot =>
                { slot with nextTxSequence := slot.nextTxSequence + 1, lastActivityMs := nowMs },
              { sent := [⟨(s.slotAt index).remote, payload⟩] })

/-! ## Events -/

/-- The calls of a server. -/
inductive ServerEvent where
  /-- `poll` with what it reads, if anything. -/
  | poll (nowMs : UInt32) (sendOk : Bool) (datagram : Option Datagram)
  | sendCemi (nowMs : UInt32) (sendOk : Bool) (channelId : UInt8) (cemi : List UInt8)
  deriving DecidableEq, Repr

/-- One call. -/
def perform (s : TunnelingServerEndpoint) : ServerEvent → TunnelingServerEndpoint × ServerOutcome
  | .poll nowMs _ none => (s.pruneIdleChannels nowMs, {})
  | .poll nowMs sendOk (some datagram) =>
      (s.pruneIdleChannels nowMs).handleDatagram nowMs sendOk datagram
  | .sendCemi nowMs sendOk channelId cemi => s.sendCemi nowMs sendOk channelId cemi

/-- The server after a call. `sendCemiToAll` is one `sendCemi` after another. -/
def step (s : TunnelingServerEndpoint) (event : ServerEvent) : TunnelingServerEndpoint :=
  (s.perform event).1

/-! ## Places -/

/-- Every active channel has its place as its id, and a place that eight bits can name. -/
def Placed (s : TunnelingServerEndpoint) : Prop :=
  ∀ index slot, s.channels[index]? = some slot → slot.active = true →
    slot.channelId = UInt8.ofNat (index + 1) ∧ index < 255

/-- The active channels have ids of their own, and none is zero. -/
structure DistinctIds (s : TunnelingServerEndpoint) : Prop where
  nonzero : ∀ slot ∈ s.channels, slot.active = true → slot.channelId ≠ 0
  distinct : s.channels.Pairwise fun first second =>
    first.active = true → second.active = true → first.channelId ≠ second.channelId

section Places

variable {s : TunnelingServerEndpoint}

theorem toNat_place {index : Nat} (h : index < 255) : (UInt8.ofNat (index + 1)).toNat = index + 1 :=
  UInt8.toNat_ofNat_of_lt' (by simp [UInt8.size]; omega)

theorem Placed.place_unique (h : s.Placed) {i j : Nat} {first second : ChannelSlot}
    (hi : s.channels[i]? = some first) (hj : s.channels[j]? = some second)
    (hfirst : first.active = true) (hsecond : second.active = true)
    (hid : first.channelId = second.channelId) : i = j := by
  obtain ⟨hidi, hlti⟩ := h i first hi hfirst
  obtain ⟨hidj, hltj⟩ := h j second hj hsecond
  rw [hidi, hidj] at hid
  have hnat := congrArg UInt8.toNat hid
  rw [toNat_place hlti, toNat_place hltj] at hnat
  omega

theorem Placed.distinctIds (h : s.Placed) : s.DistinctIds := by
  refine ⟨?_, ?_⟩
  · intro slot hslot hactive hzero
    obtain ⟨index, hindex⟩ := List.mem_iff_getElem?.mp hslot
    obtain ⟨hid, hlt⟩ := h index slot hindex hactive
    have hnat := congrArg UInt8.toNat (hid.symm.trans hzero)
    rw [toNat_place hlt] at hnat
    cases hnat
  · rw [List.pairwise_iff_getElem]
    intro i j hi hj hlt hfirst hsecond hsame
    have hplace := h.place_unique (List.getElem?_eq_getElem hi) (List.getElem?_eq_getElem hj)
      hfirst hsecond hsame
    exact Nat.ne_of_lt hlt hplace

theorem placed_openWith {maxChannels : Nat} {channelIdleTimeoutMs : UInt32}
    (h : openWith maxChannels channelIdleTimeoutMs = .ok s) : s.Placed := by
  rw [openWith] at h
  split at h
  · cases h
  · cases h
    intro index slot hslot hactive
    have hblank := List.eq_of_mem_replicate (List.mem_of_getElem? hslot)
    rw [hblank] at hactive
    cases hactive

theorem Placed.pruneIdleChannels (h : s.Placed) (nowMs : UInt32) :
    (s.pruneIdleChannels nowMs).Placed := by
  rw [TunnelingServerEndpoint.pruneIdleChannels]
  split
  · exact h
  · intro index slot hslot hactive
    rw [List.getElem?_map] at hslot
    obtain ⟨before, hbefore, rfl⟩ := Option.map_eq_some_iff.mp hslot
    split at hactive
    · cases hactive
    · rename_i hkept
      rw [if_neg hkept]
      exact h index before hbefore hactive

theorem Placed.modifySlot (h : s.Placed) (index : Nat) {f : ChannelSlot → ChannelSlot}
    (hf : ∀ slot, (f slot).active = true →
      slot.active = true ∧ (f slot).channelId = slot.channelId) : (s.modifySlot index f).Placed := by
  intro other slot hslot hactive
  rw [TunnelingServerEndpoint.modifySlot, List.getElem?_modify] at hslot
  obtain ⟨before, hbefore, rfl⟩ := Option.map_eq_some_iff.mp hslot
  split at hactive
  · obtain ⟨hwas, hsame⟩ := hf before hactive
    rename_i hhere
    rw [if_pos hhere, hsame]
    exact h other before hbefore hwas
  · rename_i hhere
    rw [if_neg hhere]
    exact h other before hbefore hactive

theorem Placed.markChannelActivity (h : s.Placed) (index : Nat) (nowMs : UInt32) :
    (s.markChannelActivity index nowMs).Placed :=
  h.modifySlot index fun _ hactive => ⟨hactive, rfl⟩

theorem Placed.allocateChannel (h : s.Placed) {index : Nat} (hindex : index < 255) (remote : Endpoint)
    (nowMs : UInt32) : (s.allocateChannel index remote nowMs).Placed := by
  intro other slot hslot hactive
  rw [TunnelingServerEndpoint.allocateChannel] at hslot
  by_cases hsame : index = other
  · subst hsame
    rw [List.getElem?_set_self'] at hslot
    obtain ⟨-, -, rfl⟩ := Option.map_eq_some_iff.mp hslot
    exact ⟨rfl, hindex⟩
  · rw [List.getElem?_set_ne hsame] at hslot
    exact h other slot hslot hactive

theorem Placed.findChannelById (h : s.Placed) {index : Nat} {slot : ChannelSlot}
    (hslot : s.channels[index]? = some slot) (hactive : slot.active = true) :
    s.findChannelById slot.channelId = some index := by
  obtain ⟨hbound, hget⟩ := List.getElem?_eq_some_iff.mp hslot
  rw [TunnelingServerEndpoint.findChannelById, List.findIdx?_eq_some_iff_getElem]
  refine ⟨hbound, ?_, ?_⟩
  · rw [hget, hactive, beq_self_eq_true]
    rfl
  · intro j hj
    rw [Bool.not_eq_true, Bool.and_eq_false_iff]
    by_cases hother : s.channels[j].active = true
    · right
      rw [beq_eq_false_iff_ne]
      intro hsame
      have hplace := h.place_unique (List.getElem?_eq_getElem (by omega)) hslot hother hactive hsame
      exact Nat.ne_of_lt hj hplace
    · exact .inl (Bool.not_eq_true _ ▸ hother)

theorem slotAt_of_getElem? {index : Nat} {slot : ChannelSlot} (h : s.channels[index]? = some slot) :
    s.slotAt index = slot := by
  rw [slotAt, List.getD_eq_getElem?_getD, h]
  rfl

theorem Placed.ownChannel (h : s.Placed) {index : Nat} {slot : ChannelSlot}
    (hslot : s.channels[index]? = some slot) (hactive : slot.active = true) :
    s.ownChannel slot.channelId slot.remote = some index := by
  rw [TunnelingServerEndpoint.ownChannel, h.findChannelById hslot hactive, Option.filter_some,
    slotAt_of_getElem? hslot, if_pos (by simp)]

end Places

/-! ## Connections -/

/-- A complete connection request. -/
def IsConnect (datagram : Datagram) : Prop :=
  26 ≤ datagram.payload.length
    ∧ ∃ header, decodeHeader datagram.payload = .done header ∧ header.serviceType = connectionRequest

section Connections

variable {s : TunnelingServerEndpoint}

theorem handleDatagram_of_isConnect {datagram : Datagram} (h : IsConnect datagram) (nowMs : UInt32)
    (sendOk : Bool) :
    s.handleDatagram nowMs sendOk datagram = s.handleConnectionRequest nowMs sendOk datagram := by
  obtain ⟨-, header, hdecoded, htype⟩ := h
  rw [handleDatagram, Checked.toOption_eq_some.mpr hdecoded]
  dsimp only
  rw [if_pos htype]

theorem handleConnectionRequest_known {datagram : Datagram} (hlength : 26 ≤ datagram.payload.length)
    {index : Nat} (hfound : s.findChannelByEndpoint datagram.peer = some index) (nowMs : UInt32)
    (sendOk : Bool) :
    s.handleConnectionRequest nowMs sendOk datagram
      = (s.markChannelActivity index nowMs,
        statusResponse sendOk connectionResponse datagram.peer (s.slotAt index).channelId 0x00) := by
  rw [handleConnectionRequest, if_neg (by omega), hfound]

theorem handleConnectionRequest_new {datagram : Datagram} (hlength : 26 ≤ datagram.payload.length)
    (hunknown : s.findChannelByEndpoint datagram.peer = none) {index : Nat}
    (hfree : s.firstFree = some index) (nowMs : UInt32) (sendOk : Bool) :
    s.handleConnectionRequest nowMs sendOk datagram
      = ((s.allocateChannel index datagram.peer nowMs).markChannelActivity index nowMs,
        statusResponse sendOk connectionResponse datagram.peer
          ((s.allocateChannel index datagram.peer nowMs).slotAt index).channelId 0x00) := by
  rw [handleConnectionRequest, if_neg (by omega), hunknown, hfree]

theorem handleConnectionRequest_full {datagram : Datagram} (hlength : 26 ≤ datagram.payload.length)
    (hunknown : s.findChannelByEndpoint datagram.peer = none) (hfull : s.firstFree = none)
    (nowMs : UInt32) (sendOk : Bool) :
    s.handleConnectionRequest nowMs sendOk datagram
      = (s, statusResponse sendOk connectionResponse datagram.peer 0 statusNoMoreConnections) := by
  rw [handleConnectionRequest, if_neg (by omega), hunknown, hfull]

theorem getElem?_allocateChannel {index : Nat} (hfree : s.firstFree = some index) (remote : Endpoint)
    (nowMs : UInt32) :
    (s.allocateChannel index remote nowMs).channels[index]?
      = some { active := true, channelId := UInt8.ofNat (index + 1), remote := remote
               lastActivityMs := nowMs } := by
  obtain ⟨hbound, -⟩ := List.findIdx?_eq_some_iff_getElem.mp hfree
  rw [allocateChannel, List.getElem?_set_self hbound]

theorem getElem?_markChannelActivity {index : Nat} {slot : ChannelSlot}
    (h : s.channels[index]? = some slot) (nowMs : UInt32) :
    (s.markChannelActivity index nowMs).channels[index]?
      = some { slot with lastActivityMs := nowMs } := by
  rw [markChannelActivity, modifySlot, List.getElem?_modify, h]
  simp

theorem slot_of_findChannelByEndpoint {remote : Endpoint} {index : Nat}
    (h : s.findChannelByEndpoint remote = some index) :
    s.channels[index]? = some (s.slotAt index) ∧ (s.slotAt index).active = true
      ∧ (s.slotAt index).remote = remote := by
  obtain ⟨hbound, hhere, -⟩ := List.findIdx?_eq_some_iff_getElem.mp h
  have hslot := List.getElem?_eq_getElem hbound
  rw [slotAt_of_getElem? hslot]
  rw [Bool.and_eq_true, beq_iff_eq] at hhere
  exact ⟨hslot, hhere.1, hhere.2⟩

theorem delivered_handleTunnelingRequest (h : s.Placed) {index : Nat} {slot : ChannelSlot}
    (hslot : s.channels[index]? = some slot) (hactive : slot.active = true) (nowMs : UInt32)
    {sequence : UInt8} {cemi payload : List UInt8}
    (hpayload : encodeTunnelingRequest slot.channelId sequence cemi = .ok payload) :
    (s.handleTunnelingRequest nowMs true ⟨slot.remote, payload⟩).2.delivered
      = if sequence = slot.expectedRxSequence then [(slot.channelId, cemi)] else [] := by
  have hdecoded := decodeTunnelingRequest_encodeTunnelingRequest hpayload
  rw [handleTunnelingRequest, Checked.toOption_eq_some.mpr hdecoded]
  dsimp only
  rw [h.ownChannel hslot hactive]
  dsimp only
  rw [slotAt_of_getElem? hslot]
  by_cases hexpected : sequence = slot.expectedRxSequence
  · rw [if_pos hexpected, if_neg (by decide), if_neg (not_not.mpr hexpected), if_pos hexpected]
  · rw [if_neg hexpected, if_neg (by decide), if_pos hexpected, if_neg hexpected]

theorem channelId_of_response {sendOk : Bool} {peer : Endpoint} {channelId other status : UInt8}
    (h : ⟨peer, encodeChannelStatus connectionResponse channelId 0x00⟩
      ∈ (statusResponse sendOk connectionResponse peer other status).sent) :
    sendOk = true ∧ channelId = other ∧ status = 0x00 := by
  rw [statusResponse, transmit] at h
  split at h
  · rename_i hsent
    have hsame := List.mem_singleton.mp h
    rw [Datagram.mk.injEq] at hsame
    simp only [encodeChannelStatus, packet, List.length_cons, List.length_nil, List.append_cancel_left_eq,
      List.cons.injEq, and_true] at hsame
    exact ⟨hsent, hsame.2.1, hsame.2.2.symm⟩
  · exact absurd h List.not_mem_nil

/-- After a call the ids are apart; and if it connected a client, then directly afterwards the channel
accepts sequence number zero and no other. -/
def Sound (s : TunnelingServerEndpoint) (event : ServerEvent) : Prop :=
  (s.step event).DistinctIds
    ∧ ∀ nowMs sendOk datagram channelId, event = .poll nowMs sendOk (some datagram) →
      IsConnect datagram →
      ⟨datagram.peer, encodeChannelStatus connectionResponse channelId 0x00⟩
        ∈ (s.perform event).2.sent →
      ∀ nowMs' sequence cemi payload, encodeTunnelingRequest channelId sequence cemi = .ok payload →
        ((s.step event).handleTunnelingRequest nowMs' true ⟨datagram.peer, payload⟩).2.delivered
          = if sequence = 0 then [(channelId, cemi)] else []

/-- A client that connects and has a channel already has used no number on it; one that gets a channel
gets one of the first 255. -/
def Starts (s : TunnelingServerEndpoint) : ServerEvent → Prop
  | .poll nowMs sendOk (some datagram) =>
      IsConnect datagram →
        (∀ index, (s.pruneIdleChannels nowMs).findChannelByEndpoint datagram.peer = some index →
          sendOk = true → ((s.pruneIdleChannels nowMs).slotAt index).expectedRxSequence = 0)
        ∧ ((s.pruneIdleChannels nowMs).findChannelByEndpoint datagram.peer = none →
          ∀ index, (s.pruneIdleChannels nowMs).firstFree = some index → index < 255)
  | _ => True

/-- A connection that starts well keeps the places, and the channel waits for number zero. -/
theorem connect_of_starts (h : s.Placed) {datagram : Datagram} (hlength : 26 ≤ datagram.payload.length)
    {sendOk : Bool}
    (hknown : ∀ index, s.findChannelByEndpoint datagram.peer = some index → sendOk = true →
      (s.slotAt index).expectedRxSequence = 0)
    (hnew : s.findChannelByEndpoint datagram.peer = none → ∀ index, s.firstFree = some index →
      index < 255) (nowMs : UInt32) :
    (s.handleConnectionRequest nowMs sendOk datagram).1.Placed
      ∧ ∀ channelId, ⟨datagram.peer, encodeChannelStatus connectionResponse channelId 0x00⟩
          ∈ (s.handleConnectionRequest nowMs sendOk datagram).2.sent →
        ∃ (index : Nat) (slot : ChannelSlot),
          (s.handleConnectionRequest nowMs sendOk datagram).1.channels[index]? = some slot
          ∧ slot.active = true ∧ slot.channelId = channelId ∧ slot.remote = datagram.peer
          ∧ slot.expectedRxSequence = 0 := by
  cases hfound : s.findChannelByEndpoint datagram.peer with
  | some index =>
    rw [handleConnectionRequest_known hlength hfound]
    refine ⟨h.markChannelActivity index nowMs, ?_⟩
    intro channelId hresponse
    obtain ⟨hsent, rfl, -⟩ := channelId_of_response hresponse
    obtain ⟨hslot, hactive, hremote⟩ := slot_of_findChannelByEndpoint hfound
    exact ⟨index, _, getElem?_markChannelActivity hslot nowMs, hactive, rfl, hremote,
      hknown index hfound hsent⟩
  | none =>
    cases hfree : s.firstFree with
    | some index =>
      rw [handleConnectionRequest_new hlength hfound hfree]
      have hallocated := getElem?_allocateChannel hfree datagram.peer nowMs
      refine ⟨(h.allocateChannel (hnew hfound index hfree) datagram.peer nowMs).markChannelActivity
        index nowMs, ?_⟩
      intro channelId hresponse
      obtain ⟨-, rfl, -⟩ := channelId_of_response hresponse
      rw [slotAt_of_getElem? hallocated]
      exact ⟨index, _, getElem?_markChannelActivity hallocated nowMs, rfl, rfl, rfl, rfl⟩
    | none =>
      rw [handleConnectionRequest_full hlength hfound hfree]
      refine ⟨h, ?_⟩
      intro channelId hresponse
      obtain ⟨-, -, hstatus⟩ := channelId_of_response hresponse
      exact absurd hstatus (by decide)

theorem Placed.handleConnectionStateRequest (h : s.Placed) (nowMs : UInt32) (sendOk : Bool)
    (datagram : Datagram) : (s.handleConnectionStateRequest nowMs sendOk datagram).1.Placed := by
  rw [TunnelingServerEndpoint.handleConnectionStateRequest]
  split
  · exact h
  · dsimp only
    split
    · exact h
    · exact h.markChannelActivity _ nowMs

theorem Placed.handleDisconnectRequest (h : s.Placed) (sendOk : Bool) (datagram : Datagram) :
    (s.handleDisconnectRequest sendOk datagram).1.Placed := by
  rw [TunnelingServerEndpoint.handleDisconnectRequest]
  split
  · exact h
  · dsimp only
    split
    · exact h
    · apply h.modifySlot
      intro slot hactive
      cases hactive

theorem Placed.handleTunnelingRequest (h : s.Placed) (nowMs : UInt32) (sendOk : Bool)
    (datagram : Datagram) : (s.handleTunnelingRequest nowMs sendOk datagram).1.Placed := by
  rw [TunnelingServerEndpoint.handleTunnelingRequest]
  split
  · exact h
  · dsimp only
    split
    · exact h
    · split
      · exact h
      · split
        · exact h.markChannelActivity _ nowMs
        · apply h.modifySlot
          intro slot hactive
          exact ⟨hactive, rfl⟩

theorem Placed.handleDatagram_other (h : s.Placed) {datagram : Datagram} (hother : ¬ IsConnect datagram)
    (nowMs : UInt32) (sendOk : Bool) : (s.handleDatagram nowMs sendOk datagram).1.Placed := by
  rw [TunnelingServerEndpoint.handleDatagram]
  split
  · exact h
  · rename_i header hheader
    split
    · rename_i htype
      have hshort : datagram.payload.length < 26 := by
        by_contra hlong
        exact hother ⟨Nat.not_lt.mp hlong, header, Checked.toOption_eq_some.mp hheader, htype⟩
      rw [handleConnectionRequest, if_pos hshort]
      exact h
    · split
      · exact h.handleConnectionStateRequest nowMs sendOk datagram
      · split
        · exact h.handleDisconnectRequest sendOk datagram
        · split
          · exact h.handleTunnelingRequest nowMs sendOk datagram
          · exact h

theorem Placed.sendCemi (h : s.Placed) (nowMs : UInt32) (sendOk : Bool) (channelId : UInt8)
    (cemi : List UInt8) : (s.sendCemi nowMs sendOk channelId cemi).1.Placed := by
  rw [TunnelingServerEndpoint.sendCemi]
  split
  · exact h
  · split
    · exact h
    · split
      · exact h
      · apply h.modifySlot
        intro slot hactive
        exact ⟨hactive, rfl⟩

theorem Placed.step (h : s.Placed) {event : ServerEvent} (hstarts : s.Starts event) :
    (s.step event).Placed := by
  cases event with
  | sendCemi nowMs sendOk channelId cemi => exact h.sendCemi nowMs sendOk channelId cemi
  | poll nowMs sendOk datagram =>
    have hpruned := h.pruneIdleChannels nowMs
    cases datagram with
    | none => exact hpruned
    | some datagram =>
      rw [TunnelingServerEndpoint.step, perform]
      by_cases hconnect : IsConnect datagram
      · obtain ⟨hknown, hnew⟩ := hstarts hconnect
        rw [handleDatagram_of_isConnect hconnect]
        exact (connect_of_starts hpruned hconnect.1 hknown hnew nowMs).1
      · exact hpruned.handleDatagram_other hconnect nowMs sendOk

theorem sound_of_starts (h : s.Placed) {event : ServerEvent} (hstarts : s.Starts event) :
    s.Sound event := by
  refine ⟨(h.step hstarts).distinctIds, ?_⟩
  intro nowMs sendOk datagram channelId hevent hconnect hresponse nowMs' sequence cemi payload hpayload
  subst hevent
  have hplaced := h.step hstarts
  rw [TunnelingServerEndpoint.step, perform, handleDatagram_of_isConnect hconnect] at hplaced ⊢
  rw [perform, handleDatagram_of_isConnect hconnect] at hresponse
  obtain ⟨hknown, hnew⟩ := hstarts hconnect
  obtain ⟨-, hchannel⟩ :=
    connect_of_starts (h.pruneIdleChannels nowMs) hconnect.1 hknown hnew nowMs
  obtain ⟨index, slot, hslot, hactive, rfl, hremote, hexpected⟩ := hchannel channelId hresponse
  have hdelivered := delivered_handleTunnelingRequest hplaced hslot hactive nowMs' hpayload
  rw [hexpected, hremote] at hdelivered
  exact hdelivered

theorem firstFree_le (h : s.Placed) {index : Nat} (hfree : s.firstFree = some index) : index ≤ 255 := by
  by_contra hbeyond
  obtain ⟨hbound, -, hbefore⟩ := List.findIdx?_eq_some_iff_getElem.mp hfree
  have hactive := hbefore 255 (by omega)
  rw [Bool.not_eq_true, Bool.not_eq_false'] at hactive
  exact absurd (h 255 _ (List.getElem?_eq_getElem (by omega)) hactive).2 (Nat.lt_irrefl 255)

theorem starts_of_sound (h : s.Placed) {event : ServerEvent} (hsound : s.Sound event) :
    s.Starts event := by
  cases event with
  | sendCemi nowMs sendOk channelId cemi => trivial
  | poll nowMs sendOk datagram =>
    have hpruned := h.pruneIdleChannels nowMs
    cases datagram with
    | none => trivial
    | some datagram =>
      intro hconnect
      obtain ⟨hdistinct, hfresh⟩ := hsound
      refine ⟨?_, ?_⟩
      · intro index hfound hsent
        subst hsent
        -- the number that the channel waits for is accepted, so it is zero
        obtain ⟨hslot, hactive, hremote⟩ := slot_of_findChannelByEndpoint hfound
        have hmarked := getElem?_markChannelActivity hslot nowMs
        have hplaced := hpruned.markChannelActivity index nowMs
        have hpayload : encodeTunnelingRequest
            ((s.pruneIdleChannels nowMs).slotAt index).channelId
            ((s.pruneIdleChannels nowMs).slotAt index).expectedRxSequence []
            = .ok _ := if_neg (by decide)
        have hdelivered := delivered_handleTunnelingRequest hplaced hmarked hactive nowMs hpayload
        have haccepted := hfresh nowMs true datagram
          ((s.pruneIdleChannels nowMs).slotAt index).channelId rfl hconnect
        rw [perform, handleDatagram_of_isConnect hconnect,
          handleConnectionRequest_known hconnect.1 hfound] at haccepted
        have hzero := haccepted (List.mem_singleton_self _) nowMs _ _ _ hpayload
        rw [TunnelingServerEndpoint.step, perform, handleDatagram_of_isConnect hconnect,
          handleConnectionRequest_known hconnect.1 hfound] at hzero
        dsimp only at hzero hdelivered
        rw [hremote] at hdelivered
        rw [hdelivered, if_pos rfl] at hzero
        by_contra hother
        rw [if_neg hother] at hzero
        cases hzero
      · intro hunknown index hfree
        by_contra hbeyond
        have hplace : index = 255 := by
          have hle := firstFree_le hpruned hfree
          omega
        subst hplace
        -- the id of that place is zero
        have hallocated := getElem?_allocateChannel hfree datagram.peer nowMs
        have hmarked := getElem?_markChannelActivity hallocated nowMs
        rw [TunnelingServerEndpoint.step, perform, handleDatagram_of_isConnect hconnect,
          handleConnectionRequest_new hconnect.1 hunknown hfree] at hdistinct
        exact hdistinct.nonzero _ (List.mem_of_getElem? hmarked) rfl rfl

/-- The channel table. Along every run of a server that was opened, the ids of the active channels
are distinct and not zero and every connection starts with number zero, if and only if no client
connects again on a channel that it has used, and none gets a place beyond the first 255. -/
theorem channels_sound_iff {maxChannels : Nat} {channelIdleTimeoutMs : UInt32}
    (hopen : openWith maxChannels channelIdleTimeoutMs = .ok s) (events : List ServerEvent) :
    Along TunnelingServerEndpoint.step Sound s events
      ↔ Along TunnelingServerEndpoint.step Starts s events := by
  have hiff : ∀ (s : TunnelingServerEndpoint) (event : ServerEvent), s.Placed →
      (s.Sound event ↔ s.Starts event) :=
    fun s event h => ⟨starts_of_sound h, sound_of_starts h⟩
  have hstep : ∀ (s : TunnelingServerEndpoint) (event : ServerEvent), s.Placed → s.Sound event →
      (s.step event).Placed := fun s event h hsound => h.step (starts_of_sound h hsound)
  exact along_iff_along hstep hiff (placed_openWith hopen) events

/-- A server with four channels. -/
def sampleEndpoint : TunnelingServerEndpoint := { channels := List.replicate 4 {} }

/-- The client of the sample runs. -/
def sampleClient : Endpoint := ⟨0xC0A80002, 50000⟩

/-- Its connection request. -/
def sampleConnect : Datagram := ⟨sampleClient, packet connectionRequest (List.replicate 20 0)⟩

theorem isConnect_sampleConnect : IsConnect sampleConnect := by
  refine ⟨by decide, ⟨connectionRequest, 26⟩, by decide, rfl⟩

/-- One connection is well started. -/
theorem sample_connection_sound :
    openWith 4 60000 = .ok sampleEndpoint
      ∧ Along TunnelingServerEndpoint.step Sound sampleEndpoint
        [.poll 0 true (some sampleConnect)] := by
  have hopen : openWith 4 60000 = .ok sampleEndpoint := rfl
  refine ⟨hopen, (channels_sound_iff hopen _).mpr ⟨fun _ => ⟨?_, ?_⟩, trivial⟩⟩
  · intro index hfound
    have hnone : (sampleEndpoint.pruneIdleChannels 0).findChannelByEndpoint sampleConnect.peer
        = none := by decide
    rw [hnone] at hfound
    cases hfound
  · intro _ index hfree
    have hzero : (sampleEndpoint.pruneIdleChannels 0).firstFree = some 0 := by decide
    rw [hzero] at hfree
    cases hfree
    decide

/-- A client that has sent one request, crashes and connects again is answered without an error, and
its next request number zero is not accepted. -/
theorem reconnected_client_refused :
    openWith 4 60000 = .ok sampleEndpoint
      ∧ ¬ Along TunnelingServerEndpoint.step Sound sampleEndpoint
        [.poll 0 true (some sampleConnect),
          .poll 1 true (some ⟨sampleClient, packet tunnelingRequest [0x04, 1, 0, 0x00, 0x11]⟩),
          .poll 2 true (some sampleConnect)] := by
  refine ⟨rfl, ?_⟩
  rintro ⟨-, -, ⟨-, hfresh⟩, -⟩
  have hpayload : encodeTunnelingRequest 1 0 [0x22]
      = .ok (packet tunnelingRequest [0x04, 1, 0, 0x00, 0x22]) := if_neg (by decide)
  have hzero := hfresh 2 true sampleConnect 1 rfl isConnect_sampleConnect (by decide +kernel) 3 0
    [0x22] _ hpayload
  revert hzero
  decide +kernel

end Connections

end TunnelingServerEndpoint

end KnxStack.Netip
