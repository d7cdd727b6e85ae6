import KnxStack.Objects.SecurityObject

/-!
# The secure application layer

`SecureApplicationLayer` (`security/secure_application_layer.cpp`) stands between transport and
application: it unwraps S-A_Data that it receives, wraps what it sends, and answers S-A_Sync
requests. The CCM mode is built as in the source, from AES-CTR and AES-CBC-MAC
(`security/aes128_ctr.cpp`, `security/aes128_cbc_mac.cpp`); the block cipher itself belongs to the
platform and is a parameter.

- `received_processIncoming`: what a received frame can do to the Security Interface Object.
- `processIncoming_replayed`: S-A_Data with a number that is not newer than the last valid one is
  rejected, whatever the keys are.
- `processOutgoing_cases`: what is sent carries the next sequence number.
-/

set_option autoImplicit false

namespace KnxStack.Security

open KnxStack.Lib.Octets KnxStack.Lib.Words KnxStack.Objects

/-! ## CCM -/

/-- The AES block cipher of the platform. -/
structure BlockCipher where
  encryptBlock : Key → List UInt8 → Option (List UInt8)

/-- The octets of two strings combined by exclusive or. -/
def xorOctets (a b : List UInt8) : List UInt8 := List.zipWith (· ^^^ ·) a b

/-- The increment loop of `Aes128Ctr::crypt`, from the last octet on. -/
def incrementReversed : List UInt8 → List UInt8
  | [] => []
  | octet :: rest => if octet + 1 ≠ 0 then (octet + 1) :: rest else 0 :: incrementReversed rest

/-- The next counter block. -/
def nextCounter (counter : List UInt8) : List UInt8 := (incrementReversed counter.reverse).reverse

/-- `Aes128Ctr::crypt`, for at most `blocks` blocks. -/
def ctrBlocks (cipher : BlockCipher) (key : Key) :
    Nat → List UInt8 → List UInt8 → Option (List UInt8)
  | 0, _, _ => some []
  | blocks + 1, counter, input =>
      if input = [] then some []
      else do
        let keyStream ← cipher.encryptBlock key counter
        let rest ← ctrBlocks cipher key blocks (nextCounter counter) (input.drop 16)
        return xorOctets (input.take 16) keyStream ++ rest

/-- `Aes128Ctr::crypt`. -/
def ctrCrypt (cipher : BlockCipher) (key : Key) (counter input : List UInt8) :
    Option (List UInt8) :=
  ctrBlocks cipher key input.length counter input

/-- The chaining of `Aes128CbcMac::compute`; the last block is filled with zeros. -/
def macBlocks (cipher : BlockCipher) (key : Key) :
    Nat → List UInt8 → List UInt8 → Option (List UInt8)
  | 0, chain, _ => some chain
  | blocks + 1, chain, input =>
      if input = [] then some chain
      else do
        let block := input.take 16 ++ List.replicate (16 - input.length) 0
        let chain ← cipher.encryptBlock key (xorOctets block chain)
        macBlocks cipher key blocks chain (input.drop 16)

/-- `Aes128CbcMac::compute`. -/
def cbcMac (cipher : BlockCipher) (key : Key) (block0 additionalData payload : List UInt8) :
    Option (List UInt8) := do
  let chain ← cipher.encryptBlock key (xorOctets block0 (List.replicate 16 0))
  let input := toOctets 2 additionalData.length ++ additionalData ++ payload
  macBlocks cipher key input.length chain input

/-- `SecureFrameInfo`. -/
structure SecureFrameInfo where
  source : IndividualAddress
  destination : UInt16
  destinationType : AddressType := .group
  tpci6 : UInt8 := 0
  connected : Bool := false
  deriving DecidableEq, Repr

/-- `SecureFrameInfo::isBroadcast`. -/
def SecureFrameInfo.isBroadcast (info : SecureFrameInfo) : Bool :=
  info.destinationType.isGroupAddress && info.destination == 0

/-- `blockContext` and `buildSecureBlock0`. -/
def buildSecureBlock0 (info : SecureFrameInfo) (nonce : List UInt8) (payloadLen : Nat) :
    Option (List UInt8) :=
  if info.source.isBroadcast ∨ 255 < payloadLen then none
  else
    some (nonce
      ++ [highByte info.source.raw, lowByte info.source.raw, highByte info.destination,
          lowByte info.destination, 0,
          if info.destinationType.isGroupAddress then 0x80 else 0x00,
          ((info.tpci6 &&& 0x3F) <<< 2) ||| 0x03, 0xF1, 0, UInt8.ofNat payloadLen])

/-- `buildSecureCounter0`. -/
def buildSecureCounter0 (info : SecureFrameInfo) (nonce : List UInt8) : Option (List UInt8) :=
  if info.source.isBroadcast then none
  else
    some (nonce
      ++ [highByte info.source.raw, lowByte info.source.raw, highByte info.destination,
          lowByte info.destination, 0, 0, 0, 0, 1, 0])

/-- `ccmDecrypt`: the plain octets, if the authentication code is right. -/
def ccmDecrypt (aes : BlockCipher) (key : Key) (info : SecureFrameInfo) (nonce : List UInt8)
    (scf : UInt8) (aTail cipher mac : List UInt8) (capacity : Nat) : Option (List UInt8) :=
  if 255 < cipher.length ∨ capacity < cipher.length then none
  else do
    let counter0 ← buildSecureCounter0 info nonce
    let combined ← ctrCrypt aes key counter0 (mac ++ cipher)
    let plain := combined.drop 4
    let block0 ← buildSecureBlock0 info nonce plain.length
    if 6 < aTail.length then none
    else
      let computed ← cbcMac aes key block0 (scf :: aTail) plain
      if computed.take 4 = combined.take 4 then some plain else none

/-- `ccmEncrypt`: the encrypted payload, followed by the encrypted authentication code. -/
def ccmEncrypt (aes : BlockCipher) (key : Key) (info : SecureFrameInfo) (nonce : List UInt8)
    (scf : UInt8) (aTail plain : List UInt8) (capacity : Nat) : Option (List UInt8) :=
  if 255 < plain.length ∨ capacity < plain.length + 4 then none
  else do
    let block0 ← buildSecureBlock0 info nonce plain.length
    if 6 < aTail.length then none
    else
      let mac ← cbcMac aes key block0 (scf :: aTail) plain
      let counter0 ← buildSecureCounter0 info nonce
      let combined ← ctrCrypt aes key counter0 (mac.take 4 ++ plain)
      return combined.drop 4 ++ combined.take 4

/-! ## The Security Control Field -/

/-- `SecureService`. -/
inductive SecureService where
  | data
  | syncRequest
  | syncResponse
  deriving DecidableEq, Repr

/-- `SecurityControlField`, with authentication and confidentiality, which is the only algorithm
that `decode` accepts and that is sent. -/
structure SecurityControlField where
  toolAccess : Bool := false
  systemBroadcast : Bool := false
  service : SecureService := .data
  deriving DecidableEq, Repr

/-- The service code. -/
def SecureService.code : SecureService → UInt8
  | .data => 0
  | .syncRequest => 2
  | .syncResponse => 3

/-- `SecurityControlField::encode`. -/
def SecurityControlField.encode (scf : SecurityControlField) : UInt8 :=
  scf.service.code ||| 0x10 ||| (if scf.toolAccess then 0x80 else 0)
    ||| (if scf.systemBroadcast then 0x08 else 0)

/-- `SecurityControlField::decode`. -/
def SecurityControlField.decode (raw : UInt8) : Option SecurityControlField :=
  let service : Option SecureService :=
    if raw &&& 0x07 = 0 then some .data
    else if raw &&& 0x07 = 2 then some .syncRequest
    else if raw &&& 0x07 = 3 then some .syncResponse
    else none
  service.bind fun service =>
    if (raw >>> 4) &&& 0x07 = 1 then
      some
        { toolAccess := raw &&& 0x80 != 0, systemBroadcast := raw &&& 0x08 != 0, service := service }
    else none

/-! ## The layer -/

/-- `PeerContext`. -/
structure PeerContext where
  address : UInt16 := 0
  valid : Bool := false
  toolAccess : Bool := false
  deriving DecidableEq, Repr

/-- `InboundContext`. -/
structure InboundContext where
  valid : Bool := false
  secured : Bool := false
  toolAccess : Bool := false
  peer : UInt16 := 0
  deriving DecidableEq, Repr

/-- `SecureApplicationLayer`, without the Security Interface Object that it works on. -/
structure SecureApplicationLayer where
  inbound : InboundContext := {}
  ownAddress : IndividualAddress := ⟨0xFFFF⟩
  serialNumber : List UInt8 := List.replicate 6 0
  peers : List PeerContext := List.replicate 4 {}
  nextPeerSlot : Nat := 0
  lastSyncResponseMs : UInt32 := 0
  syncResponded : Bool := false
  deriving DecidableEq, Repr

/-- What the platform and the transport layer supply to a call. -/
structure Surroundings where
  nowMs : UInt32 := 0
  random : List UInt8 := List.replicate 6 0
  connectedTpci6 : UInt8 := 0
  deriving DecidableEq, Repr

/-- `SecureRxDisposition`. -/
inductive SecureRxDisposition where
  | plain
  | unwrapped
  | consumed
  | rejected
  deriving DecidableEq, Repr

/-- `SecureRxResult`, with the plain octets and the frame that is sent in answer. -/
structure SecureRxResult where
  disposition : SecureRxDisposition
  plain : List UInt8 := []
  security : RequestSecurity := {}
  answer : Option (SecureFrameInfo × List UInt8) := none
  deriving DecidableEq, Repr

/-- `isSecureApdu`. -/
def isSecureApdu (tpdu : List UInt8) : Bool :=
  2 ≤ tpdu.length && tpdu.getD 0 0 &&& 0x03 == 0x03 && tpdu.getD 1 0 == 0xF1

/-- `selectKey`. -/
def selectKey (o : SecurityInterfaceObject) (info : SecureFrameInfo) (peer : IndividualAddress)
    (toolAccess : Bool) : Option Key :=
  if toolAccess then (if o.hasToolKey then some o.toolKey else none)
  else if info.destinationType.isGroupAddress ∧ info.destination ≠ 0 then o.groupKeys info.destination
  else o.deviceKeys peer.raw

/-- The last valid sequence number that applies to a sender. -/
def lastValid (o : SecurityInterfaceObject) (source : IndividualAddress) (toolAccess : Bool) : Nat :=
  if toolAccess then o.toolAccessSequence else o.peerSequences source.raw

/-- The update of that number. -/
def setLastValid (o : SecurityInterfaceObject) (source : IndividualAddress) (toolAccess : Bool)
    (seq : Nat) : SecurityInterfaceObject :=
  if toolAccess then o.setToolAccessSequence seq else o.setPeerSequence source.raw seq

theorem lastValid_setLastValid_self (o : SecurityInterfaceObject) (source : IndividualAddress)
    (toolAccess : Bool) (seq : Nat) :
    lastValid (setLastValid o source toolAccess seq) source toolAccess = seq := by
  cases toolAccess with
  | true =>
    simp only [lastValid, setLastValid, if_true, SecurityInterfaceObject.setToolAccessSequence]
    split
    · rename_i heq
      exact heq.symm
    · rfl
  | false =>
    simp only [lastValid, setLastValid, Bool.false_eq_true, if_false,
      SecurityInterfaceObject.setPeerSequence]
    split
    · assumption
    · exact Function.update_self _ _ _

theorem le_lastValid_setLastValid {o : SecurityInterfaceObject} {source : IndividualAddress}
    {toolAccess : Bool} {seq : Nat} (hraised : lastValid o source toolAccess ≤ seq)
    (other : IndividualAddress) (otherAccess : Bool) :
    lastValid o other otherAccess
      ≤ lastValid (setLastValid o source toolAccess seq) other otherAccess := by
  by_cases hsame : otherAccess = toolAccess ∧ (toolAccess = true ∨ other.raw = source.raw)
  · obtain ⟨rfl, hsource⟩ := hsame
    have hlive : ∀ o : SecurityInterfaceObject,
        lastValid o other otherAccess = lastValid o source otherAccess := by
      intro o
      rcases hsource with rfl | hraw
      · rfl
      · rw [lastValid, lastValid, hraw]
    rw [hlive, hlive, lastValid_setLastValid_self]
    exact hraised
  · apply Nat.le_of_eq
    cases toolAccess <;> cases otherAccess
    · have hne : other.raw ≠ source.raw := fun heq => hsame ⟨rfl, .inr heq⟩
      simp only [lastValid, setLastValid, Bool.false_eq_true, if_false,
        SecurityInterfaceObject.setPeerSequence]
      split
      · rfl
      · exact (Function.update_of_ne hne _ _).symm
    · simp only [lastValid, setLastValid, Bool.false_eq_true, if_false, if_true,
        SecurityInterfaceObject.setPeerSequence]
      split <;> rfl
    · simp only [lastValid, setLastValid, Bool.false_eq_true, if_false, if_true,
        SecurityInterfaceObject.setToolAccessSequence]
      split <;> rfl
    · exact absurd ⟨rfl, .inl rfl⟩ hsame

theorem setLastValid_marks (o : SecurityInterfaceObject) (source : IndividualAddress)
    (toolAccess : Bool) (seq : Nat) :
    setLastValid o source toolAccess seq = o
      ∨ (setLastValid o source toolAccess seq).sequenceStateDirty = true := by
  cases toolAccess with
  | true =>
    simp only [setLastValid, if_true, SecurityInterfaceObject.setToolAccessSequence]
    split
    · exact .inl rfl
    · exact .inr rfl
  | false =>
    simp only [setLastValid, Bool.false_eq_true, if_false, SecurityInterfaceObject.setPeerSequence]
    split
    · exact .inl rfl
    · exact .inr rfl

theorem wellFormed_setLastValid {o : SecurityInterfaceObject} (h : o.WellFormed)
    (hcovered : o.Covered) (source : IndividualAddress) (toolAccess : Bool) {seq : Nat}
    (hseq : seq < 256 ^ 6) :
    (setLastValid o source toolAccess seq).WellFormed
      ∧ (setLastValid o source toolAccess seq).Covered := by
  cases toolAccess with
  | true =>
    simp only [setLastValid, if_true, SecurityInterfaceObject.setToolAccessSequence]
    split
    · exact ⟨h, hcovered⟩
    · exact ⟨⟨h.whole, h.peer, hseq⟩, hcovered⟩
  | false => exact SecurityInterfaceObject.wellFormed_setPeerSequence h hcovered source.raw hseq

namespace SecureApplicationLayer

/-- `findPeer`. -/
def findPeer (l : SecureApplicationLayer) (peer : UInt16) : Option PeerContext :=
  l.peers.find? fun entry => entry.valid && entry.address == peer

/-- `rememberPeer`. -/
def rememberPeer (l : SecureApplicationLayer) (peer : IndividualAddress) (toolAccess : Bool) :
    SecureApplicationLayer :=
  match l.peers.findIdx? fun entry => entry.valid && entry.address == peer.raw with
  | some i => { l with peers := l.peers.modify i fun entry => { entry with toolAccess := toolAccess } }
  | none =>
      { l with
        peers := l.peers.set l.nextPeerSlot ⟨peer.raw, true, toolAccess⟩
        nextPeerSlot := (l.nextPeerSlot + 1) % 4 }

/-- `handleData`. -/
def handleData (aes : BlockCipher) (l : SecureApplicationLayer) (o : SecurityInterfaceObject)
    (info : SecureFrameInfo) (scf : SecurityControlField) (tpdu : List UInt8) :
    SecureApplicationLayer × SecurityInterfaceObject × SecureRxResult :=
  if tpdu.length < 13 then (l, o, { disposition := .rejected })
  else
    let seq := ofOctets (slice tpdu 3 6)
    if seq = 0 then (l, o, { disposition := .rejected })
    else if seq ≤ lastValid o info.source scf.toolAccess then
      (l, o.logSecurityFailure .sequenceNumberInvalid info.source.raw, { disposition := .rejected })
    else
      match selectKey o info info.source scf.toolAccess with
      | none =>
          (l, o.logSecurityFailure .unknownKey info.source.raw, { disposition := .rejected })
      | some key =>
          let cipherLen := tpdu.length - 13
          match ccmDecrypt aes key info (toOctets 6 seq) scf.encode [] (slice tpdu 9 cipherLen)
              (slice tpdu (9 + cipherLen) 4) 255 with
          | none =>
              (l, o.logSecurityFailure .decryptionFailed info.source.raw,
                { disposition := .rejected })
          | some plain =>
              let l :=
                if !info.destinationType.isGroupAddress ∨ info.destination = 0 then
                  l.rememberPeer info.source scf.toolAccess
                else l
              (l, setLastValid o info.source scf.toolAccess seq,
                { disposition := .unwrapped, plain := plain,
                  security := ⟨true, scf.toolAccess, true⟩ })

/-- The frame of an S-A_Sync response. -/
def syncResponse (aes : BlockCipher) (l : SecureApplicationLayer) (around : Surroundings) (key : Key)
    (info : SecureFrameInfo) (scf : SecurityControlField) (challenge : List UInt8)
    (seqRemote seqLocal : Nat) : Option (SecureFrameInfo × List UInt8) :=
  let responseScf := { scf with service := .syncResponse }
  let outgoing : SecureFrameInfo :=
    { source := l.ownAddress
      destination := if info.isBroadcast then 0 else info.source.raw
      destinationType := if info.isBroadcast then .group else .individual
      tpci6 := if info.connected ∧ !info.isBroadcast then around.connectedTpci6 else 0
      connected := info.connected }
  let payload := toOctets 6 seqRemote ++ toOctets 6 seqLocal
  (ccmEncrypt aes key outgoing around.random responseScf.encode [] payload 16).map fun cipher =>
    (outgoing,
      [0x03, 0xF1, responseScf.encode] ++ xorOctets challenge around.random ++ cipher)

/-- `handleSyncRequest`. -/
def handleSyncRequest (aes : BlockCipher) (l : SecureApplicationLayer) (o : SecurityInterfaceObject)
    (around : Surroundings) (info : SecureFrameInfo) (scf : SecurityControlField)
    (tpdu : List UInt8) : SecureApplicationLayer × SecurityInterfaceObject × SecureRxResult :=
  let consumed : SecureRxResult := { disposition := .consumed }
  if tpdu.length ≠ 25 then (l, o, { disposition := .rejected })
  else if l.syncResponded ∧ around.nowMs - l.lastSyncResponseMs < 1000 then (l, o, consumed)
  else
    let seqLocal := ofOctets (slice tpdu 3 6)
    let serial := slice tpdu 9 6
    let serialIsZero := serial.all (· == 0)
    if info.isBroadcast ∧ (serialIsZero ∨ serial ≠ l.serialNumber) then (l, o, consumed)
    else if !info.isBroadcast ∧ !serialIsZero ∧ serial ≠ l.serialNumber then (l, o, consumed)
    else if seqLocal = 0 then (l, o, consumed)
    else
      match selectKey o info info.source scf.toolAccess with
      | none => (l, o, consumed)
      | some key =>
          match ccmDecrypt aes key info (toOctets 6 seqLocal) scf.encode serial (slice tpdu 15 6)
              (slice tpdu 21 4) 6 with
          | none => (l, o.logSecurityFailure .decryptionFailed info.source.raw, consumed)
          | some challenge =>
              let newStoredLocal := max (seqLocal - 1) (lastValid o info.source scf.toolAccess)
              let o := setLastValid o info.source scf.toolAccess newStoredLocal
              match l.syncResponse aes around key info scf challenge (o.sendingSequence + 1)
                  (newStoredLocal + 1) with
              | none => (l, o, consumed)
              | some answer =>
                  let l := { l with lastSyncResponseMs := around.nowMs, syncResponded := true }
                  (l.rememberPeer info.source scf.toolAccess, o,
                    { disposition := .consumed, answer := some answer })

/-- `processIncoming`. -/
def processIncoming (aes : BlockCipher) (l : SecureApplicationLayer) (o : SecurityInterfaceObject)
    (around : Surroundings) (info : SecureFrameInfo) (tpdu : List UInt8) :
    SecureApplicationLayer × SecurityInterfaceObject × SecureRxResult :=
  let l := { l with inbound := ⟨true, false, false, info.source.raw⟩ }
  if !isSecureApdu tpdu then
    if o.isSecurityEnabled ∧ info.destinationType.isGroupAddress ∧ info.destination ≠ 0
        ∧ (o.groupKeys info.destination).isSome then
      (l, o.logSecurityFailure .authenticationFailed info.source.raw, { disposition := .rejected })
    else (l, o, { disposition := .plain })
  else if !o.isSecurityEnabled then (l, o, { disposition := .rejected })
  else if tpdu.length < 3 then (l, o, { disposition := .rejected })
  else
    match SecurityControlField.decode (tpdu.getD 2 0) with
    | none => (l, o, { disposition := .rejected })
    | some scf =>
        let l := { l with inbound := ⟨true, true, scf.toolAccess, info.source.raw⟩ }
        match scf.service with
        | .data => l.handleData aes o info scf tpdu
        | .syncRequest => l.handleSyncRequest aes o around info scf tpdu
        | .syncResponse => (l, o, { disposition := .consumed })

/-- What becomes of a frame that is to be sent: it goes out in plain, secured, or not at all. -/
inductive Outgoing where
  | plain
  | secured (tpdu : List UInt8)
  | failed
  deriving DecidableEq, Repr

/-- The protection that an outgoing frame gets: the one of the request that it answers, or of the
last request of its destination. Nothing for a frame that goes out in plain. -/
def outgoingToolAccess (l : SecureApplicationLayer) (info : SecureFrameInfo) : Option Bool :=
  if info.destinationType.isGroupAddress ∧ info.destination ≠ 0 then some false
  else if l.inbound.valid ∧ (info.isBroadcast ∨ l.inbound.peer = info.destination) then
    if !l.inbound.secured then none else some l.inbound.toolAccess
  else if info.isBroadcast then none
  else (l.findPeer info.destination).map (·.toolAccess)

/-- `processOutgoing`. -/
def processOutgoing (aes : BlockCipher) (l : SecureApplicationLayer) (o : SecurityInterfaceObject)
    (info : SecureFrameInfo) (plainTpdu : List UInt8) : SecurityInterfaceObject × Outgoing :=
  if !o.isSecurityEnabled ∨ plainTpdu.length < 2 then (o, .plain)
  else if isSecureApdu plainTpdu then (o, .plain)
  else
    let peer : IndividualAddress :=
      ⟨if info.destinationType.isGroupAddress then l.inbound.peer else info.destination⟩
    match l.outgoingToolAccess info with
    | none => (o, .plain)
    | some toolAccess =>
        match selectKey o info peer toolAccess with
        | none => (o, .plain)
        | some key =>
            if 255 < plainTpdu.length then (o, .failed)
            else
              let scf : SecurityControlField := { toolAccess := toolAccess }
              let o := o.incrementSendingSequence
              let nonce := toOctets 6 o.sendingSequence
              match ccmEncrypt aes key info nonce scf.encode [] plainTpdu 259 with
              | none => (o, .failed)
              | some cipher => (o, .secured ([0x03, 0xF1, scf.encode] ++ nonce ++ cipher))

/-! ## What is received -/

/-- The tool access flag and the sequence number of an S-A_Data PDU. -/
def secureData (tpdu : List UInt8) : Option (Bool × Nat) :=
  if isSecureApdu tpdu ∧ 13 ≤ tpdu.length then
    match SecurityControlField.decode (tpdu.getD 2 0) with
    | some scf =>
        if scf.service = .data then some (scf.toolAccess, ofOctets (slice tpdu 3 6)) else none
    | none => none
  else none

/-- What a received frame can do to the Security Interface Object. -/
inductive Received (o : SecurityInterfaceObject) (info : SecureFrameInfo) (tpdu : List UInt8) :
    SecurityInterfaceObject → SecureRxResult → Prop where
  | nothing (r : SecureRxResult) (hr : r.disposition ≠ .unwrapped) : Received o info tpdu o r
  | failure (failure : SecurityFailure) (r : SecureRxResult) (hr : r.disposition ≠ .unwrapped) :
      Received o info tpdu (o.logSecurityFailure failure info.source.raw) r
  | accepted (toolAccess : Bool) (seq : Nat) (r : SecureRxResult)
      (hdata : secureData tpdu = some (toolAccess, seq))
      (hnew : lastValid o info.source toolAccess < seq) :
      Received o info tpdu (setLastValid o info.source toolAccess seq) r
  | synchronised (toolAccess : Bool) (seq : Nat) (r : SecureRxResult)
      (hr : r.disposition ≠ .unwrapped) (hold : lastValid o info.source toolAccess ≤ seq)
      (hfits : seq < 256 ^ 6 ∨ seq = lastValid o info.source toolAccess) :
      Received o info tpdu (setLastValid o info.source toolAccess seq) r

theorem ofOctets_slice_lt (tpdu : List UInt8) (offset : Nat) :
    ofOctets (slice tpdu offset 6) < 256 ^ 6 := by
  have hlt := ofOctets_lt (slice tpdu offset 6)
  have hle : (slice tpdu offset 6).length ≤ 6 := by
    rw [slice, List.length_take]
    omega
  exact lt_of_lt_of_le hlt (Nat.pow_le_pow_right (by decide) hle)

theorem secureData_lt {tpdu : List UInt8} {toolAccess : Bool} {seq : Nat}
    (h : secureData tpdu = some (toolAccess, seq)) : seq < 256 ^ 6 := by
  rw [secureData] at h
  split at h
  · split at h
    · split at h
      · cases h
        exact ofOctets_slice_lt tpdu 3
      · cases h
    · cases h
  · cases h

section Incoming

variable (aes : BlockCipher) (l : SecureApplicationLayer) (o : SecurityInterfaceObject)
variable (info : SecureFrameInfo) {scf : SecurityControlField} {tpdu : List UInt8}

theorem received_handleData (hsecure : isSecureApdu tpdu)
    (hscf : SecurityControlField.decode (tpdu.getD 2 0) = some scf) (hdata : scf.service = .data) :
    Received o info tpdu (l.handleData aes o info scf tpdu).2.1
      (l.handleData aes o info scf tpdu).2.2 := by
  simp only [handleData]
  split
  · exact .nothing _ nofun
  · rename_i hlength
    split
    · exact .nothing _ nofun
    · split
      · exact .failure _ _ nofun
      · rename_i hnew
        split
        · exact .failure _ _ nofun
        · split
          · exact .failure _ _ nofun
          · refine .accepted _ _ _ ?_ (Nat.lt_of_not_le hnew)
            rw [secureData, if_pos ⟨hsecure, Nat.le_of_not_lt hlength⟩, hscf]
            simp only [hdata, if_true]

theorem received_handleSyncRequest (around : Surroundings) :
    Received o info tpdu (l.handleSyncRequest aes o around info scf tpdu).2.1
      (l.handleSyncRequest aes o around info scf tpdu).2.2 := by
  have hfits : max (ofOctets (slice tpdu 3 6) - 1) (lastValid o info.source scf.toolAccess) < 256 ^ 6
      ∨ max (ofOctets (slice tpdu 3 6) - 1) (lastValid o info.source scf.toolAccess)
        = lastValid o info.source scf.toolAccess := by
    have hlt := ofOctets_slice_lt tpdu 3
    omega
  simp only [handleSyncRequest]
  split
  · exact .nothing _ nofun
  · split
    · exact .nothing _ nofun
    · split
      · exact .nothing _ nofun
      · split
        · exact .nothing _ nofun
        · split
          · exact .nothing _ nofun
          · split
            · exact .nothing _ nofun
            · split
              · exact .failure _ _ nofun
              · split
                · exact .synchronised _ _ _ nofun (Nat.le_max_right _ _) hfits
                · exact .synchronised _ _ _ nofun (Nat.le_max_right _ _) hfits

theorem received_processIncoming (around : Surroundings) :
    Received o info tpdu (l.processIncoming aes o around info tpdu).2.1
      (l.processIncoming aes o around info tpdu).2.2 := by
  simp only [processIncoming]
  split
  · split
    · exact .failure _ _ nofun
    · exact .nothing _ nofun
  · rename_i hsecure
    split
    · exact .nothing _ nofun
    · split
      · exact .nothing _ nofun
      · split
        · exact .nothing _ nofun
        · rename_i scf hscf
          have hsecure' : isSecureApdu tpdu := by simpa using hsecure
          split
          · rename_i hservice
            exact received_handleData aes _ o info hsecure' hscf hservice
          · exact received_handleSyncRequest aes _ o info around
          · exact .nothing _ nofun

theorem processIncoming_replayed (around : Surroundings) {toolAccess : Bool} {seq : Nat}
    (hdata : secureData tpdu = some (toolAccess, seq))
    (hold : seq ≤ lastValid o info.source toolAccess) :
    (l.processIncoming aes o around info tpdu).2.2.disposition = .rejected := by
  rw [secureData] at hdata
  split at hdata
  · rename_i hframe
    split at hdata
    · rename_i scf hscf
      split at hdata
      · rename_i hservice
        cases hdata
        have hlong : ¬ tpdu.length < 3 := by omega
        have hlong' : ¬ tpdu.length < 13 := by omega
        simp only [processIncoming, hframe.1, Bool.not_true, if_neg hlong, hscf, hservice,
          handleData, if_neg hlong', if_pos hold]
        repeat' split
        all_goals first | rfl | contradiction
      · cases hdata
    · cases hdata
  · cases hdata

end Incoming

/-! ## What is sent -/

/-- What sending can do: nothing, or take the next sequence number, which a secured frame
carries. -/
theorem processOutgoing_cases (aes : BlockCipher) (l : SecureApplicationLayer)
    (o : SecurityInterfaceObject) (info : SecureFrameInfo) (plainTpdu : List UInt8) :
    ((l.processOutgoing aes o info plainTpdu).1 = o
        ∧ ∀ tpdu, (l.processOutgoing aes o info plainTpdu).2 ≠ .secured tpdu)
      ∨ ((l.processOutgoing aes o info plainTpdu).1 = o.incrementSendingSequence
        ∧ ∀ tpdu, (l.processOutgoing aes o info plainTpdu).2 = .secured tpdu →
          slice tpdu 3 6 = toOctets 6 o.incrementSendingSequence.sendingSequence) := by
  simp only [processOutgoing]
  split
  · exact .inl ⟨rfl, nofun⟩
  · split
    · exact .inl ⟨rfl, nofun⟩
    · split
      · exact .inl ⟨rfl, nofun⟩
      · split
        · exact .inl ⟨rfl, nofun⟩
        · split
          · exact .inl ⟨rfl, nofun⟩
          · split
            · exact .inr ⟨rfl, nofun⟩
            · refine .inr ⟨rfl, ?_⟩
              intro tpdu htpdu
              cases htpdu
              have hlength := length_toOctets 6 o.incrementSendingSequence.sendingSequence
              rw [slice, List.append_assoc]
              show List.take 6 (toOctets 6 o.incrementSendingSequence.sendingSequence ++ _) = _
              rw [List.take_append_of_le_length (by omega), List.take_of_length_le (by omega)]

end SecureApplicationLayer

end KnxStack.Security
