import KnxStack.Lib.Delivery
import KnxStack.Lib.Runs
import KnxStack.Security.DataSecure

/-!
# Two devices with one key

A device that secures frames, a device that unwraps them, and a network between them that may lose,
repeat and reorder frames. What was secured is kept in the order of sending; a copy of any of it may
arrive at any time, any number of times, or never. Any other frame may arrive at either device as
well, except that nobody else makes S-A_Data in the sender's name.

- `copy_unwrapped_iff`: a copy is unwrapped exactly if its number is newer than the last valid one,
  and gives what was secured.
- `unwrapped_in_order`: with either access flag, what is unwrapped is a subsequence of what was secured.
-/

set_option autoImplicit false

namespace KnxStack.Security

open KnxStack.Lib KnxStack.Lib.Octets KnxStack.Objects

/-! ## Keys -/

/-- What selects a key is the same. -/
structure SameKeys (o o' : SecurityInterfaceObject) : Prop where
  mode : o'.securityMode = o.securityMode
  toolKey : o'.toolKey = o.toolKey
  deviceKeys : o'.deviceKeys = o.deviceKeys
  groupKeys : o'.groupKeys = o.groupKeys

theorem SameKeys.refl (o : SecurityInterfaceObject) : SameKeys o o := ⟨rfl, rfl, rfl, rfl⟩

theorem SameKeys.enabled {o o' : SecurityInterfaceObject} (h : SameKeys o o') :
    o'.isSecurityEnabled = o.isSecurityEnabled := by
  rw [SecurityInterfaceObject.isSecurityEnabled, h.mode]
  rfl

theorem SameKeys.selectKey {o o' : SecurityInterfaceObject} (h : SameKeys o o') (info : SecureFrameInfo)
    (peer : IndividualAddress) (toolAccess : Bool) :
    selectKey o' info peer toolAccess = selectKey o info peer toolAccess := by
  unfold Security.selectKey SecurityInterfaceObject.hasToolKey
  rw [h.toolKey, h.deviceKeys, h.groupKeys]

theorem sameKeys_setLastValid (o : SecurityInterfaceObject) (source : IndividualAddress)
    (toolAccess : Bool) (seq : Nat) : SameKeys o (setLastValid o source toolAccess seq)
      ∧ (setLastValid o source toolAccess seq).sendingSequence = o.sendingSequence := by
  cases toolAccess with
  | true =>
    simp only [setLastValid, if_true, SecurityInterfaceObject.setToolAccessSequence]
    split <;> exact ⟨⟨rfl, rfl, rfl, rfl⟩, rfl⟩
  | false =>
    simp only [setLastValid, Bool.false_eq_true, if_false, SecurityInterfaceObject.setPeerSequence]
    split <;> exact ⟨⟨rfl, rfl, rfl, rfl⟩, rfl⟩

/-- A received frame changes no key and not the number that is sent next, and lowers no last valid
number. -/
theorem SecureApplicationLayer.Received.keeps {o o' : SecurityInterfaceObject} {info : SecureFrameInfo}
    {tpdu : List UInt8} {r : SecureRxResult}
    (h : SecureApplicationLayer.Received o info tpdu o' r) :
    SameKeys o o' ∧ o'.sendingSequence = o.sendingSequence ∧
      ∀ source toolAccess, lastValid o source toolAccess ≤ lastValid o' source toolAccess := by
  cases h with
  | nothing => exact ⟨.refl o, rfl, fun _ _ => Nat.le_refl _⟩
  | failure => exact ⟨⟨rfl, rfl, rfl, rfl⟩, rfl, fun _ _ => Nat.le_refl _⟩
  | accepted toolAccess seq _ _ hnew =>
    obtain ⟨hkeys, hsending⟩ := sameKeys_setLastValid o info.source toolAccess seq
    exact ⟨hkeys, hsending, le_lastValid_setLastValid (Nat.le_of_lt hnew)⟩
  | synchronised toolAccess seq _ _ hold =>
    obtain ⟨hkeys, hsending⟩ := sameKeys_setLastValid o info.source toolAccess seq
    exact ⟨hkeys, hsending, le_lastValid_setLastValid hold⟩

/-! ## Secured frames -/

/-- A frame as it was secured. -/
structure SecuredFrame where
  info : SecureFrameInfo
  toolAccess : Bool
  seq : Nat
  key : Key
  plain : List UInt8
  tpdu : List UInt8

/-- The frame carries its number and its payload, encrypted with its key. -/
structure SecuredFrame.Sealed (f : BlockFunction) (frame : SecuredFrame) : Prop where
  source : frame.info.source.isBroadcast = false
  length : 2 ≤ frame.plain.length ∧ frame.plain.length ≤ 255
  number : 0 < frame.seq ∧ frame.seq < 256 ^ 6
  octets : ∃ cipher,
    ccmEncrypt f.cipher frame.key frame.info (toOctets 6 frame.seq)
        (SecurityControlField.encode { toolAccess := frame.toolAccess }) [] frame.plain 259 = some cipher
      ∧ frame.tpdu = [0x03, 0xF1, SecurityControlField.encode { toolAccess := frame.toolAccess }]
        ++ toOctets 6 frame.seq ++ cipher

theorem source_of_ccmEncrypt {aes : BlockCipher} {key : Key} {info : SecureFrameInfo}
    {nonce : List UInt8} {scf : UInt8} {aTail plain : List UInt8} {capacity : Nat} {cipher : List UInt8}
    (h : ccmEncrypt aes key info nonce scf aTail plain capacity = some cipher) :
    info.source.isBroadcast = false := by
  by_contra hnot
  rw [Bool.not_eq_false] at hnot
  rw [ccmEncrypt] at h
  split at h
  · cases h
  · rw [buildSecureBlock0, if_pos (Or.inl hnot)] at h
    cases h

/-- What `processOutgoing` secures is sealed with the number it takes. -/
theorem SecureApplicationLayer.processOutgoing_secured {f : BlockFunction}
    {l : SecureApplicationLayer} {o : SecurityInterfaceObject} {info : SecureFrameInfo}
    {plainTpdu tpdu : List UInt8}
    (h : (l.processOutgoing f.cipher o info plainTpdu).2 = .secured tpdu)
    (hroom : o.sendingSequence + 1 < 256 ^ 6) :
    (l.processOutgoing f.cipher o info plainTpdu).1 = o.incrementSendingSequence ∧
      ∃ toolAccess key, l.outgoingToolAccess info = some toolAccess ∧
        selectKey o info ⟨if info.destinationType.isGroupAddress then l.inbound.peer
          else info.destination⟩ toolAccess = some key ∧
        SecuredFrame.Sealed f ⟨info, toolAccess, o.sendingSequence + 1, key, plainTpdu, tpdu⟩ := by
  have hnext : o.incrementSendingSequence.sendingSequence = o.sendingSequence + 1 :=
    Nat.mod_eq_of_lt (lt_of_lt_of_le hroom (by decide))
  rcases processOutgoing_cases f.cipher l o info plainTpdu with ⟨-, hnone⟩ | ⟨hobject, -⟩
  · exact absurd h (hnone tpdu)
  refine ⟨hobject, ?_⟩
  simp only [processOutgoing] at h
  split at h
  · cases h
  · rename_i hstart
    rw [not_or, not_lt] at hstart
    split at h
    · cases h
    · rename_i hapdu
      split at h
      · cases h
      · rename_i toolAccess haccess
        split at h
        · cases h
        · rename_i key hkey
          split at h
          · cases h
          · rename_i hlong
            split at h
            · cases h
            · rename_i cipher hcipher
              cases h
              rw [hnext] at hcipher
              exact ⟨toolAccess, key, haccess, hkey, source_of_ccmEncrypt hcipher,
                ⟨hstart.2, Nat.le_of_not_lt hlong⟩, ⟨Nat.succ_pos _, hroom⟩, cipher, hcipher, by rw [hnext]⟩

theorem decode_encode_data (toolAccess : Bool) :
    SecurityControlField.decode (SecurityControlField.encode { toolAccess := toolAccess })
      = some { toolAccess := toolAccess } := by
  cases toolAccess <;> decide

/-- A sealed frame that arrives is refused if its number is not newer, and otherwise unwrapped with
the key that the receiver selects, if that is the key it was sealed with. -/
theorem SecureApplicationLayer.processIncoming_sealed {f : BlockFunction} {frame : SecuredFrame}
    (hsealed : frame.Sealed f) (l : SecureApplicationLayer) {o : SecurityInterfaceObject}
    (henabled : o.isSecurityEnabled = true)
    (hkey : selectKey o frame.info frame.info.source frame.toolAccess = some frame.key)
    (around : Surroundings) :
    secureData frame.tpdu = some (frame.toolAccess, frame.seq) ∧
      (lastValid o frame.info.source frame.toolAccess < frame.seq →
        (l.processIncoming f.cipher o around frame.info frame.tpdu).2.1
            = setLastValid o frame.info.source frame.toolAccess frame.seq ∧
          (l.processIncoming f.cipher o around frame.info frame.tpdu).2.2
            = { disposition := .unwrapped, plain := frame.plain,
                security := ⟨true, frame.toolAccess, true⟩ }) := by
  obtain ⟨cipher, hcipher, htpdu⟩ := hsealed.octets
  obtain ⟨hpos, hfits⟩ := hsealed.number
  obtain ⟨body, mac, hencrypted, hbody, hmac, hdecrypt⟩ :=
    frame.info.blockContext.ccmDecrypt_ccmEncrypt f frame.key (toOctets 6 frame.seq)
      (SecurityControlField.encode { toolAccess := frame.toolAccess }) hsealed.source
      (show ([] : List UInt8).length ≤ 6 by decide) hsealed.length.2
      (show frame.plain.length + 4 ≤ 259 by have := hsealed.length.2; omega)
  rw [ccmEncrypt_eq, hencrypted, Option.some_inj] at hcipher
  subst hcipher
  have hnumber : (toOctets 6 frame.seq).length = 6 := length_toOctets 6 _
  have hlength : frame.tpdu.length = 13 + frame.plain.length := by
    rw [htpdu, List.length_append, List.length_append, hnumber, List.length_append, hbody, hmac]
    simp only [List.length_cons, List.length_nil]
    omega
  have hhead : ([0x03, 0xF1, SecurityControlField.encode { toolAccess := frame.toolAccess }]
      ++ toOctets 6 frame.seq).length = 9 := by
    rw [List.length_append, hnumber]
    rfl
  have hseq : ofOctets (slice frame.tpdu 3 6) = frame.seq := by
    have hpart : slice frame.tpdu 3 6 = toOctets 6 frame.seq := by
      rw [htpdu, List.append_assoc]
      change (toOctets 6 frame.seq ++ (body ++ mac)).take 6 = _
      exact List.take_left' hnumber
    rw [hpart, ofOctets_toOctets, Nat.mod_eq_of_lt hfits]
  have hcipherPart : slice frame.tpdu 9 (frame.tpdu.length - 13) = body := by
    rw [hlength, Nat.add_sub_cancel_left, ← hbody, htpdu, slice, List.drop_left' hhead,
      List.take_left' rfl]
  have hmacPart : slice frame.tpdu (9 + (frame.tpdu.length - 13)) 4 = mac := by
    rw [hlength, Nat.add_sub_cancel_left, ← hbody, htpdu, slice, ← List.append_assoc,
      List.drop_left' (by rw [List.length_append, hhead]), ← hmac, List.take_length]
  have hfirst : frame.tpdu.getD 0 0 = 0x03 := by rw [htpdu]; rfl
  have hsecond : frame.tpdu.getD 1 0 = 0xF1 := by rw [htpdu]; rfl
  have hthird : frame.tpdu.getD 2 0
      = SecurityControlField.encode { toolAccess := frame.toolAccess } := by rw [htpdu]; rfl
  have hsecure : isSecureApdu frame.tpdu = true := by
    simp only [isSecureApdu, hfirst, hsecond, hlength, Bool.and_eq_true, decide_eq_true_eq]
    exact ⟨⟨by omega, by decide⟩, by decide⟩
  refine ⟨?_, ?_⟩
  · rw [secureData, if_pos ⟨hsecure, by omega⟩, hthird, decode_encode_data]
    simp only [if_true, hseq]
  · intro hnew
    have hplain : ccmDecrypt f.cipher frame.key frame.info (toOctets 6 frame.seq)
        (SecurityControlField.encode { toolAccess := frame.toolAccess }) [] body mac 255
        = some frame.plain := hdecrypt 255 hsealed.length.2
    have hshort : ¬ frame.tpdu.length < 3 := by omega
    have hshort' : ¬ frame.tpdu.length < 13 := by omega
    have hzero : frame.seq ≠ 0 := by omega
    simp only [processIncoming, hsecure, Bool.not_true, Bool.false_eq_true, if_false, henabled,
      if_neg hshort, hthird, decode_encode_data, handleData, if_neg hshort', hseq, if_neg hzero,
      if_neg (Nat.not_le.mpr hnew), hkey, hcipherPart, hmacPart, hplain, and_self]

/-! ## The system -/

/-- A device: its layer and its Security Interface Object. -/
structure Device where
  layer : SecureApplicationLayer := {}
  object : SecurityInterfaceObject := {}

/-- A sender, a receiver, and what has happened between them. -/
structure SecureChannel where
  sender : Device
  receiver : Device
  sent : List SecuredFrame := []
  unwrapped : Bool → List (Nat × List UInt8) := fun _ => []

/-- What can happen. -/
inductive ChannelEvent where
  | send (info : SecureFrameInfo) (plainTpdu : List UInt8)
  | copy (position : Nat) (around : Surroundings)
  | atSender (around : Surroundings) (info : SecureFrameInfo) (tpdu : List UInt8)
  | atReceiver (around : Surroundings) (info : SecureFrameInfo) (tpdu : List UInt8)
  | answer (info : SecureFrameInfo) (plainTpdu : List UInt8)

namespace SecureChannel

/-- The frame that the sender has just secured. -/
def securedBy (d : Device) (info : SecureFrameInfo) (plainTpdu tpdu : List UInt8) : Option SecuredFrame :=
  (d.layer.outgoingToolAccess info).bind fun toolAccess =>
    (selectKey d.object info ⟨if info.destinationType.isGroupAddress then d.layer.inbound.peer
        else info.destination⟩ toolAccess).map fun key =>
      { info := info, toolAccess := toolAccess, seq := d.object.sendingSequence + 1, key := key,
        plain := plainTpdu, tpdu := tpdu }

/-- The receiver after a frame, and the result. -/
def receive (f : BlockFunction) (d : Device) (around : Surroundings) (info : SecureFrameInfo)
    (tpdu : List UInt8) : Device × SecureRxResult :=
  let after := d.layer.processIncoming f.cipher d.object around info tpdu
  (⟨after.1, after.2.1⟩, after.2.2)

theorem receive_keeps (f : BlockFunction) (d : Device) (around : Surroundings) (info : SecureFrameInfo)
    (tpdu : List UInt8) :
    let o := (receive f d around info tpdu).1.object
    SameKeys d.object o ∧ o.sendingSequence = d.object.sendingSequence ∧
      ∀ source toolAccess, lastValid d.object source toolAccess ≤ lastValid o source toolAccess :=
  (SecureApplicationLayer.received_processIncoming _ _ _ _ _).keeps

/-- One event. -/
def step (f : BlockFunction) (c : SecureChannel) : ChannelEvent → SecureChannel
  | .send info plainTpdu =>
      let outgoing := c.sender.layer.processOutgoing f.cipher c.sender.object info plainTpdu
      let sent :=
        match outgoing.2 with
        | .secured tpdu => c.sent ++ (securedBy c.sender info plainTpdu tpdu).toList
        | _ => c.sent
      { c with sender := { c.sender with object := outgoing.1 }, sent := sent }
  | .copy position around =>
      match c.sent[position]? with
      | none => c
      | some frame =>
          let after := receive f c.receiver around frame.info frame.tpdu
          { c with
            receiver := after.1
            unwrapped :=
              if after.2.disposition = .unwrapped then
                Function.update c.unwrapped after.2.security.toolAccess
                  (c.unwrapped after.2.security.toolAccess ++ [(position, after.2.plain)])
              else c.unwrapped }
  | .atSender around info tpdu => { c with sender := (receive f c.sender around info tpdu).1 }
  | .atReceiver around info tpdu => { c with receiver := (receive f c.receiver around info tpdu).1 }
  | .answer info plainTpdu =>
      { c with
        receiver :=
          { c.receiver with
            object := (c.receiver.layer.processOutgoing f.cipher c.receiver.object info plainTpdu).1 } }

/-- The receiver is addressed: with its own address, or by a group telegram. -/
def Addresses (address : IndividualAddress) (info : SecureFrameInfo) : Prop :=
  if info.destinationType.isGroupAddress then info.destination ≠ 0 else info.destination = address.raw

instance (address : IndividualAddress) (info : SecureFrameInfo) :
    Decidable (Addresses address info) :=
  inferInstanceAs
    (Decidable (if info.destinationType.isGroupAddress then info.destination ≠ 0
      else info.destination = address.raw))

/-- The two devices have been given the same keys for each other, in Security Mode. -/
structure KeysAgree (sender receiver : IndividualAddress) (c : SecureChannel) : Prop where
  enabled : c.receiver.object.isSecurityEnabled = true
  tool : c.receiver.object.toolKey = c.sender.object.toolKey
  group : ∀ address key, c.sender.object.groupKeys address = some key →
    c.receiver.object.groupKeys address = some key
  device : ∀ key, c.sender.object.deviceKeys receiver.raw = some key →
    c.receiver.object.deviceKeys sender.raw = some key

/-- What the events of a run are: the sender sends in its own name and has numbers left, a copy is of
a frame that addresses the receiver, and no other S-A_Data arrives in the sender's name. -/
def Fair (sender receiver : IndividualAddress) (c : SecureChannel) : ChannelEvent → Prop
  | .send info _ => info.source = sender ∧ c.sender.object.sendingSequence + 1 < 256 ^ 6
  | .copy position _ => ∀ frame, c.sent[position]? = some frame → Addresses receiver frame.info
  | .atSender _ _ _ => True
  | .atReceiver _ info tpdu => info.source = sender → SecureApplicationLayer.secureData tpdu = none
  | .answer _ _ => True

/-- The last number the receiver has taken from the sender. -/
def lastTaken (sender : IndividualAddress) (c : SecureChannel) (toolAccess : Bool) : Nat :=
  lastValid c.receiver.object sender toolAccess

/-- What the sender has secured, and what has been unwrapped of it. -/
structure Invariant (f : BlockFunction) (sender receiver : IndividualAddress) (c : SecureChannel) :
    Prop where
  keys : KeysAgree sender receiver c
  sealed : ∀ frame ∈ c.sent, frame.Sealed f ∧ frame.info.source = sender
  known : ∀ frame ∈ c.sent, Addresses receiver frame.info →
    selectKey c.receiver.object frame.info sender frame.toolAccess = some frame.key
  numbers : c.sent.Pairwise fun first second => first.seq < second.seq
  taken : ∀ frame ∈ c.sent, frame.seq ≤ c.sender.object.sendingSequence
  order : ∀ toolAccess, InOrder (c.sent.map SecuredFrame.plain) (c.unwrapped toolAccess)
  genuine : ∀ toolAccess, ∀ entry ∈ c.unwrapped toolAccess, ∃ frame, c.sent[entry.1]? = some frame ∧
    frame.toolAccess = toolAccess ∧ frame.seq ≤ lastTaken sender c toolAccess

section Steps

variable {f : BlockFunction} {sender receiver : IndividualAddress} {c : SecureChannel}

/-- The key that the sender takes for a frame to the receiver is the receiver's key for it. -/
theorem KeysAgree.selectKey (h : KeysAgree sender receiver c) {info : SecureFrameInfo}
    (haddressed : Addresses receiver info) {toolAccess : Bool} {key : Key}
    (hkey : Security.selectKey c.sender.object info
      ⟨if info.destinationType.isGroupAddress then c.sender.layer.inbound.peer else info.destination⟩
      toolAccess = some key) :
    Security.selectKey c.receiver.object info sender toolAccess = some key := by
  unfold Security.selectKey at hkey ⊢
  cases toolAccess with
  | true =>
    have hhas : c.receiver.object.hasToolKey = c.sender.object.hasToolKey := by
      rw [SecurityInterfaceObject.hasToolKey, h.tool]
      rfl
    simp only [if_true] at hkey ⊢
    rw [hhas, h.tool]
    exact hkey
  | false =>
    simp only [Bool.false_eq_true, if_false] at hkey ⊢
    rw [Addresses] at haddressed
    cases hgroup : info.destinationType.isGroupAddress with
    | true =>
      rw [hgroup, if_pos rfl] at haddressed
      rw [hgroup, if_pos ⟨rfl, haddressed⟩] at hkey
      rw [if_pos ⟨rfl, haddressed⟩]
      exact h.group _ _ hkey
    | false =>
      rw [hgroup, if_neg (by simp)] at haddressed
      rw [hgroup, if_neg (by simp)] at hkey
      simp only [Bool.false_eq_true, if_false, haddressed] at hkey
      rw [if_neg (by simp)]
      exact h.device _ hkey

theorem KeysAgree.of_same (h : KeysAgree sender receiver c) {c' : SecureChannel}
    (hsender : SameKeys c.sender.object c'.sender.object)
    (hreceiver : SameKeys c.receiver.object c'.receiver.object) : KeysAgree sender receiver c' := by
  refine ⟨hreceiver.enabled.trans h.enabled, ?_, ?_, ?_⟩
  · rw [hreceiver.toolKey, hsender.toolKey, h.tool]
  · rw [hreceiver.groupKeys, hsender.groupKeys]
    exact h.group
  · rw [hreceiver.deviceKeys, hsender.deviceKeys]
    exact h.device

theorem Invariant.of_quiet (h : Invariant f sender receiver c) {c' : SecureChannel}
    (hsent : c'.sent = c.sent) (hunwrapped : c'.unwrapped = c.unwrapped)
    (hsender : SameKeys c.sender.object c'.sender.object)
    (hreceiver : SameKeys c.receiver.object c'.receiver.object)
    (hcounter : c.sender.object.sendingSequence ≤ c'.sender.object.sendingSequence)
    (hlast : ∀ toolAccess, lastTaken sender c toolAccess ≤ lastTaken sender c' toolAccess) :
    Invariant f sender receiver c' := by
  refine ⟨h.keys.of_same hsender hreceiver, ?_, ?_, ?_, ?_, ?_, ?_⟩
  · rw [hsent]
    exact h.sealed
  · intro frame hframe haddressed
    rw [hsent] at hframe
    rw [hreceiver.selectKey]
    exact h.known frame hframe haddressed
  · rw [hsent]
    exact h.numbers
  · intro frame hframe
    rw [hsent] at hframe
    exact (h.taken frame hframe).trans hcounter
  · intro toolAccess
    rw [hsent, hunwrapped]
    exact h.order toolAccess
  · intro toolAccess entry hentry
    rw [hunwrapped] at hentry
    obtain ⟨frame, hframe, haccess, hseq⟩ := h.genuine toolAccess entry hentry
    exact ⟨frame, by rw [hsent]; exact hframe, haccess, hseq.trans (hlast toolAccess)⟩

theorem sending_processOutgoing (l : SecureApplicationLayer) (o : SecurityInterfaceObject)
    (info : SecureFrameInfo) (plainTpdu : List UInt8) (aes : BlockCipher) :
    SameKeys o (l.processOutgoing aes o info plainTpdu).1 ∧
      (∀ source toolAccess, lastValid (l.processOutgoing aes o info plainTpdu).1 source toolAccess
        = lastValid o source toolAccess) ∧
      (o.sendingSequence + 1 < 256 ^ 6 →
        o.sendingSequence ≤ (l.processOutgoing aes o info plainTpdu).1.sendingSequence) := by
  rcases l.processOutgoing_cases aes o info plainTpdu with ⟨hsame, -⟩ | ⟨hnext, -⟩
  · rw [hsame]
    exact ⟨.refl o, fun _ _ => rfl, fun _ => Nat.le_refl _⟩
  · rw [hnext]
    refine ⟨⟨rfl, rfl, rfl, rfl⟩, fun _ _ => rfl, ?_⟩
    intro hroom
    have hcounted : o.incrementSendingSequence.sendingSequence = o.sendingSequence + 1 :=
      Nat.mod_eq_of_lt (lt_of_lt_of_le hroom (by decide))
    omega

theorem Invariant.send (h : Invariant f sender receiver c) {info : SecureFrameInfo}
    {plainTpdu : List UInt8} (hfair : Fair sender receiver c (.send info plainTpdu)) :
    Invariant f sender receiver (step f c (.send info plainTpdu)) := by
  obtain ⟨hsource, hroom⟩ := hfair
  obtain ⟨hkeys, hlast, hcounter⟩ := sending_processOutgoing c.sender.layer c.sender.object info
    plainTpdu f.cipher
  cases hout : (c.sender.layer.processOutgoing f.cipher c.sender.object info plainTpdu).2 with
  | plain =>
    exact h.of_quiet (by simp only [step, hout]) rfl hkeys (.refl _) (hcounter hroom)
      (fun _ => Nat.le_refl _)
  | failed =>
    exact h.of_quiet (by simp only [step, hout]) rfl hkeys (.refl _) (hcounter hroom)
      (fun _ => Nat.le_refl _)
  | secured tpdu =>
    obtain ⟨hobject, toolAccess, key, haccess, hkey, hsealed⟩ :=
      SecureApplicationLayer.processOutgoing_secured hout hroom
    have hsecured : securedBy c.sender info plainTpdu tpdu
        = some ⟨info, toolAccess, c.sender.object.sendingSequence + 1, key, plainTpdu, tpdu⟩ := by
      rw [securedBy, haccess, Option.bind_some, hkey, Option.map_some]
    have hsent : (step f c (.send info plainTpdu)).sent
        = c.sent ++ [⟨info, toolAccess, c.sender.object.sendingSequence + 1, key, plainTpdu, tpdu⟩] := by
      simp only [step, hout, hsecured, Option.toList_some]
    have hnext : (step f c (.send info plainTpdu)).sender.object.sendingSequence
        = c.sender.object.sendingSequence + 1 := by
      change (c.sender.layer.processOutgoing f.cipher c.sender.object info plainTpdu).1.sendingSequence
        = _
      rw [hobject]
      exact Nat.mod_eq_of_lt (lt_of_lt_of_le hroom (by decide))
    have hafter : KeysAgree sender receiver (step f c (.send info plainTpdu)) :=
      h.keys.of_same hkeys (.refl _)
    refine ⟨hafter, ?_, ?_, ?_, ?_, ?_, ?_⟩
    · intro frame hframe
      rw [hsent] at hframe
      rcases List.mem_append.mp hframe with hold | hnew
      · exact h.sealed frame hold
      · rw [List.mem_singleton.mp hnew]
        exact ⟨hsealed, hsource⟩
    · intro frame hframe haddressed
      rw [hsent] at hframe
      rcases List.mem_append.mp hframe with hold | hnew
      · exact h.known frame hold haddressed
      · rw [List.mem_singleton.mp hnew] at haddressed ⊢
        exact h.keys.selectKey haddressed hkey
    · rw [hsent]
      refine List.pairwise_append.mpr ⟨h.numbers, List.pairwise_singleton _ _, ?_⟩
      intro frame hframe other hother
      rw [List.mem_singleton.mp hother]
      exact Nat.lt_succ_of_le (h.taken frame hframe)
    · intro frame hframe
      rw [hsent] at hframe
      rw [hnext]
      rcases List.mem_append.mp hframe with hold | hnew
      · exact (h.taken frame hold).trans (Nat.le_succ _)
      · rw [List.mem_singleton.mp hnew]
    · intro toolAccess'
      rw [hsent, List.map_append]
      exact (h.order toolAccess').send _
    · intro toolAccess' entry hentry
      obtain ⟨frame, hframe, haccess', hseq⟩ := h.genuine toolAccess' entry hentry
      refine ⟨frame, ?_, haccess', hseq⟩
      rw [hsent, List.getElem?_append_left (List.getElem?_eq_some_iff.mp hframe).1]
      exact hframe

/-- A copy is unwrapped exactly if its number is newer than the last one taken with its access
flag; then it gives what was secured. -/
theorem Invariant.copy_unwrapped_iff (h : Invariant f sender receiver c) {position : Nat}
    {frame : SecuredFrame} (hframe : c.sent[position]? = some frame)
    (haddressed : Addresses receiver frame.info) (around : Surroundings) :
    ((receive f c.receiver around frame.info frame.tpdu).2.disposition = .unwrapped
        ↔ lastTaken sender c frame.toolAccess < frame.seq) ∧
      (lastTaken sender c frame.toolAccess < frame.seq →
        (receive f c.receiver around frame.info frame.tpdu).1.object
            = setLastValid c.receiver.object sender frame.toolAccess frame.seq ∧
          (receive f c.receiver around frame.info frame.tpdu).2
            = { disposition := .unwrapped, plain := frame.plain,
                security := ⟨true, frame.toolAccess, true⟩ }) := by
  have hmem := List.mem_of_getElem? hframe
  obtain ⟨hsealed, hsource⟩ := h.sealed frame hmem
  have hkey := h.known frame hmem haddressed
  rw [← hsource] at hkey
  obtain ⟨hdata, hnew⟩ := SecureApplicationLayer.processIncoming_sealed hsealed c.receiver.layer
    h.keys.enabled hkey around
  rw [lastTaken, ← hsource]
  refine ⟨⟨?_, fun hlt => congrArg SecureRxResult.disposition (hnew hlt).2⟩, hnew⟩
  intro hunwrapped
  by_contra hold
  have hrejected := SecureApplicationLayer.processIncoming_replayed f.cipher c.receiver.layer
    c.receiver.object frame.info around hdata (Nat.le_of_not_lt hold)
  have hboth := hunwrapped.symm.trans hrejected
  cases hboth

theorem Invariant.deliver (h : Invariant f sender receiver c) {position : Nat} {frame : SecuredFrame}
    (hframe : c.sent[position]? = some frame)
    (hnewer : ∀ entry ∈ c.unwrapped frame.toolAccess, ∀ earlier, c.sent[entry.1]? = some earlier →
      earlier.seq < frame.seq)
    (htaken : frame.seq ≤ lastTaken sender c frame.toolAccess) :
    Invariant f sender receiver
      { c with
        unwrapped := Function.update c.unwrapped frame.toolAccess
          (c.unwrapped frame.toolAccess ++ [(position, frame.plain)]) } := by
  refine ⟨⟨h.keys.enabled, h.keys.tool, h.keys.group, h.keys.device⟩, h.sealed, h.known, h.numbers,
    h.taken, ?_, ?_⟩
  · intro toolAccess
    by_cases haccess : toolAccess = frame.toolAccess
    · subst haccess
      dsimp only
      rw [Function.update_self]
      have hplain : (c.sent.map SecuredFrame.plain)[position]? = some frame.plain := by
        rw [List.getElem?_map, hframe, Option.map_some]
      refine (inOrder_deliver_iff (h.order _) hplain).mpr ?_
      -- positions go up with the numbers
      intro entry hentry
      obtain ⟨earlier, hearlier, -, -⟩ := h.genuine _ entry hentry
      have hless := hnewer entry hentry earlier hearlier
      by_contra hnot
      obtain ⟨hbound, hat⟩ := List.getElem?_eq_some_iff.mp hearlier
      obtain ⟨hbound', hat'⟩ := List.getElem?_eq_some_iff.mp hframe
      rcases Nat.lt_or_eq_of_le (Nat.le_of_not_lt hnot) with hlater | hequal
      · have hmore := List.pairwise_iff_getElem.mp h.numbers _ _ hbound' hbound hlater
        rw [hat, hat'] at hmore
        omega
      · rw [← hequal, hframe, Option.some_inj] at hearlier
        rw [hearlier] at hless
        omega
    · dsimp only
      rw [Function.update_of_ne haccess]
      exact h.order toolAccess
  · intro toolAccess entry hentry
    by_cases haccess : toolAccess = frame.toolAccess
    · subst haccess
      dsimp only at hentry
      rw [Function.update_self] at hentry
      rcases List.mem_append.mp hentry with hold | hthis
      · exact h.genuine _ entry hold
      · rw [List.mem_singleton.mp hthis]
        exact ⟨frame, hframe, rfl, htaken⟩
    · dsimp only at hentry
      rw [Function.update_of_ne haccess] at hentry
      exact h.genuine toolAccess entry hentry

theorem Invariant.copy (h : Invariant f sender receiver c) {position : Nat} {around : Surroundings}
    (hfair : Fair sender receiver c (.copy position around)) :
    Invariant f sender receiver (step f c (.copy position around)) := by
  cases hframe : c.sent[position]? with
  | none =>
    simp only [step, hframe]
    exact h
  | some frame =>
    obtain ⟨hiff, hnew⟩ := h.copy_unwrapped_iff hframe (hfair frame hframe) around
    obtain ⟨hkeys, -, hlast⟩ := receive_keeps f c.receiver around frame.info frame.tpdu
    have hquiet : Invariant f sender receiver
        { c with receiver := (receive f c.receiver around frame.info frame.tpdu).1 } :=
      h.of_quiet rfl rfl (.refl _) hkeys (Nat.le_refl _) (hlast sender)
    simp only [step, hframe]
    by_cases hnewer : lastTaken sender c frame.toolAccess < frame.seq
    · obtain ⟨hobject, hresult⟩ := hnew hnewer
      rw [hresult, if_pos rfl]
      refine hquiet.deliver hframe ?_ ?_
      · intro entry hentry earlier hearlier
        obtain ⟨known, hknown, -, hseq⟩ := h.genuine _ entry hentry
        rw [hearlier, Option.some_inj] at hknown
        rw [hknown]
        exact Nat.lt_of_le_of_lt hseq hnewer
      · rw [lastTaken, hobject]
        exact Nat.le_of_eq (lastValid_setLastValid_self _ _ _ _).symm
    · rw [if_neg fun hunwrapped => hnewer (hiff.mp hunwrapped)]
      exact hquiet

theorem Invariant.step (h : Invariant f sender receiver c) (event : ChannelEvent)
    (hfair : Fair sender receiver c event) : Invariant f sender receiver (step f c event) := by
  cases event with
  | send info plainTpdu => exact h.send hfair
  | copy position around => exact h.copy hfair
  | atSender around info tpdu =>
    obtain ⟨hkeys, hcounter, -⟩ := receive_keeps f c.sender around info tpdu
    exact h.of_quiet rfl rfl hkeys (.refl _) (Nat.le_of_eq hcounter.symm) (fun _ => Nat.le_refl _)
  | atReceiver around info tpdu =>
    obtain ⟨hkeys, -, hlast⟩ := receive_keeps f c.receiver around info tpdu
    exact h.of_quiet rfl rfl (.refl _) hkeys (Nat.le_refl _) (hlast sender)
  | answer info plainTpdu =>
    obtain ⟨hkeys, hlast, -⟩ := sending_processOutgoing c.receiver.layer c.receiver.object info
      plainTpdu f.cipher
    exact h.of_quiet rfl rfl (.refl _) hkeys (Nat.le_refl _)
      (fun toolAccess => Nat.le_of_eq (hlast sender toolAccess).symm)

theorem Invariant.start (hkeys : KeysAgree sender receiver c) (hsent : c.sent = [])
    (hunwrapped : ∀ toolAccess, c.unwrapped toolAccess = []) : Invariant f sender receiver c := by
  have hnone : ∀ frame, frame ∉ c.sent := by
    rw [hsent]
    exact fun _ => List.not_mem_nil
  refine ⟨hkeys, fun frame h => absurd h (hnone frame), fun frame h => absurd h (hnone frame),
    hsent ▸ .nil, fun frame h => absurd h (hnone frame), ?_, ?_⟩
  · intro toolAccess
    rw [hunwrapped]
    exact inOrder_nil _
  · intro toolAccess entry hentry
    rw [hunwrapped] at hentry
    cases hentry

end Steps

/-- Over any run in which nobody else makes S-A_Data in the sender's name, the payloads that are
unwrapped with either access flag are a subsequence of those that were secured, each at most once; and
in the state that is reached a copy is unwrapped exactly if its number is newer than the last one
taken. -/
theorem unwrapped_in_order (f : BlockFunction) {sender receiver : IndividualAddress}
    {c c' : SecureChannel} (hkeys : KeysAgree sender receiver c) (hsent : c.sent = [])
    (hunwrapped : ∀ toolAccess, c.unwrapped toolAccess = []) {events : List ChannelEvent}
    (hfair : Along (step f) (Fair sender receiver) c events) (hrun : run (step f) c events = c') :
    (∀ toolAccess,
      ((c'.unwrapped toolAccess).map Prod.snd).Sublist (c'.sent.map SecuredFrame.plain)
        ∧ (c'.unwrapped toolAccess).Pairwise (fun first second => first.1 < second.1)
        ∧ ∀ entry ∈ c'.unwrapped toolAccess, ∃ frame, c'.sent[entry.1]? = some frame
            ∧ frame.toolAccess = toolAccess ∧ frame.plain = entry.2)
      ∧ ∀ (position : Nat) (frame : SecuredFrame) (around : Surroundings),
          c'.sent[position]? = some frame → Addresses receiver frame.info →
          ((receive f c'.receiver around frame.info frame.tpdu).2.disposition = .unwrapped
            ↔ lastTaken sender c' frame.toolAccess < frame.seq) := by
  have hinv : Invariant f sender receiver c' := by
    rw [← hrun]
    exact run_invariant_along (fun _ event hinv hevent => hinv.step event hevent)
      (Invariant.start hkeys hsent hunwrapped) hfair
  refine ⟨?_, ?_⟩
  · intro toolAccess
    refine ⟨(hinv.order toolAccess).sublist, (hinv.order toolAccess).once, ?_⟩
    intro entry hentry
    obtain ⟨frame, hframe, haccess, -⟩ := hinv.genuine toolAccess entry hentry
    have hplain := (hinv.order toolAccess).genuine entry hentry
    rw [List.getElem?_map, hframe, Option.map_some, Option.some_inj] at hplain
    exact ⟨frame, hframe, haccess, hplain⟩
  · intro position frame around hframe haddressed
    exact (hinv.copy_unwrapped_iff hframe haddressed around).1

theorem fair_copy {sender receiver : IndividualAddress} {c : SecureChannel} (position : Nat)
    (around : Surroundings) (h : ∀ info ∈ c.sent.map SecuredFrame.info, Addresses receiver info) :
    Fair sender receiver c (.copy position around) := by
  intro frame hframe
  exact h _ (List.mem_map_of_mem (List.mem_of_getElem? hframe))

/-- A device with a key for `0/0/1`. -/
def keyedDevice : Device where
  object :=
    { securityMode := 1
      groupKeys := Function.update (fun _ => none) 1 (some (List.replicate 16 7)) }

/-- A telegram of `1.1.1` to `0/0/1`. -/
def switching : SecureFrameInfo where
  source := ⟨0x1101⟩
  destination := 1

/-- It is switched on and off, and the first telegram comes again after the second. -/
def switchingEvents : List ChannelEvent :=
  [.send switching [0x00, 0x81], .send switching [0x00, 0x80], .copy 0 {}, .copy 1 {}, .copy 0 {}]

/-- What it comes to. -/
def switched : SecureChannel :=
  run (step DataSecureSession.addingFunction) ⟨keyedDevice, keyedDevice, [], fun _ => []⟩ switchingEvents

theorem unwrapped_in_order_switching :
    switched.unwrapped false = [(0, [0x00, 0x81]), (1, [0x00, 0x80])]
      ∧ ((switched.unwrapped false).map Prod.snd).Sublist (switched.sent.map SecuredFrame.plain) := by
  refine ⟨by rfl, ((unwrapped_in_order DataSecureSession.addingFunction
    (show KeysAgree ⟨0x1101⟩ ⟨0x1102⟩ _ from ?_) rfl ?_ ?_ rfl).1 false).1⟩
  · exact ⟨rfl, rfl, fun _ _ h => h, fun _ h => h⟩
  · intro toolAccess
    rfl
  · refine ⟨⟨rfl, by decide⟩, ⟨rfl, by decide⟩, fair_copy _ _ ?_, fair_copy _ _ ?_, fair_copy _ _ ?_,
      trivial⟩ <;> decide

end SecureChannel

end KnxStack.Security
