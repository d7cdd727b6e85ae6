import KnxStack.Lib.Checked
import KnxStack.Security.ReplayWindow
import KnxStack.Security.SecureApplicationLayer

/-!
# Data Secure sessions

`DataSecureSession` (`security/data_secure.cpp`) secures group telegrams with one key. It writes the
CCM construction out a second time, next to `ccmEncrypt` and `ccmDecrypt` of the secure application
layer, which are given here over the `SecureBlockContext` that both share.

Writes to the scratch arrays of `unprotect` are checked: a copy beyond their end is the outcome
`outOfBounds`.

- `ccmDecrypt_ccmEncrypt`: with a block function, what was encrypted is decrypted.
- `ccm_agreement`: the two copies of the construction produce and accept the same frames.
- `unprotect_stays_inside_iff`: which frames `unprotect` copies beyond its scratch arrays.
-/

set_option autoImplicit false

namespace KnxStack.Security

open KnxStack.Lib KnxStack.Lib.Octets KnxStack.Lib.Words KnxStack.Objects

/-! ## CCM over a block context -/

/-- `SecureBlockContext`. -/
structure SecureBlockContext where
  srcIa : IndividualAddress := ⟨0⟩
  dstRaw : UInt16 := 0
  atOctet : UInt8 := 0x80
  tpci6 : UInt8 := 0
  deriving DecidableEq, Repr

namespace SecureBlockContext

/-- `buildSecureBlock0`. -/
def buildSecureBlock0 (ctx : SecureBlockContext) (nonce : List UInt8) (payloadLen : Nat) :
    Option (List UInt8) :=
  if ctx.srcIa.isBroadcast ∨ 255 < payloadLen then none
  else
    some (nonce
      ++ [highByte ctx.srcIa.raw, lowByte ctx.srcIa.raw, highByte ctx.dstRaw, lowByte ctx.dstRaw, 0,
          ctx.atOctet, ((ctx.tpci6 &&& 0x3F) <<< 2) ||| 0x03, 0xF1, 0, UInt8.ofNat payloadLen])

/-- `buildSecureCounter0`. -/
def buildSecureCounter0 (ctx : SecureBlockContext) (nonce : List UInt8) : Option (List UInt8) :=
  if ctx.srcIa.isBroadcast then none
  else
    some (nonce
      ++ [highByte ctx.srcIa.raw, lowByte ctx.srcIa.raw, highByte ctx.dstRaw, lowByte ctx.dstRaw,
          0, 0, 0, 0, 1, 0])

/-- `ccmDecrypt`. -/
def ccmDecrypt (ctx : SecureBlockContext) (aes : BlockCipher) (key : Key) (nonce : List UInt8)
    (scf : UInt8) (aTail cipher mac : List UInt8) (capacity : Nat) : Option (List UInt8) :=
  if 255 < cipher.length ∨ capacity < cipher.length then none
  else do
    let counter0 ← ctx.buildSecureCounter0 nonce
    let combined ← ctrCrypt aes key counter0 (mac ++ cipher)
    let plain := combined.drop 4
    let block0 ← ctx.buildSecureBlock0 nonce plain.length
    if 6 < aTail.length then none
    else
      let computed ← cbcMac aes key block0 (scf :: aTail) plain
      if computed.take 4 = combined.take 4 then some plain else none

/-- `ccmEncrypt`. -/
def ccmEncrypt (ctx : SecureBlockContext) (aes : BlockCipher) (key : Key) (nonce : List UInt8)
    (scf : UInt8) (aTail plain : List UInt8) (capacity : Nat) : Option (List UInt8) :=
  if 255 < plain.length ∨ capacity < plain.length + 4 then none
  else do
    let block0 ← ctx.buildSecureBlock0 nonce plain.length
    if 6 < aTail.length then none
    else
      let mac ← cbcMac aes key block0 (scf :: aTail) plain
      let counter0 ← ctx.buildSecureCounter0 nonce
      let combined ← ctrCrypt aes key counter0 (mac.take 4 ++ plain)
      return combined.drop 4 ++ combined.take 4

end SecureBlockContext

/-- `SecureApplicationLayer::blockContext`. -/
def SecureFrameInfo.blockContext (info : SecureFrameInfo) : SecureBlockContext where
  srcIa := info.source
  dstRaw := info.destination
  atOctet := if info.destinationType.isGroupAddress then 0x80 else 0x00
  tpci6 := info.tpci6

theorem ccmDecrypt_eq (aes : BlockCipher) (key : Key) (info : SecureFrameInfo) (nonce : List UInt8)
    (scf : UInt8) (aTail cipher mac : List UInt8) (capacity : Nat) :
    ccmDecrypt aes key info nonce scf aTail cipher mac capacity
      = info.blockContext.ccmDecrypt aes key nonce scf aTail cipher mac capacity := rfl

theorem ccmEncrypt_eq (aes : BlockCipher) (key : Key) (info : SecureFrameInfo) (nonce : List UInt8)
    (scf : UInt8) (aTail plain : List UInt8) (capacity : Nat) :
    ccmEncrypt aes key info nonce scf aTail plain capacity
      = info.blockContext.ccmEncrypt aes key nonce scf aTail plain capacity := rfl

/-! ## Block functions -/

/-- A function from blocks to blocks of sixteen octets, for every key. -/
structure BlockFunction where
  encrypt : Key → List UInt8 → List UInt8
  length_encrypt : ∀ key block, (encrypt key block).length = 16

/-- A cipher that never fails. -/
def BlockFunction.cipher (f : BlockFunction) : BlockCipher where
  encryptBlock key block := some (f.encrypt key block)

section Construction

variable (f : BlockFunction) (key : Key)

theorem length_xorOctets {a b : List UInt8} (h : a.length ≤ b.length) :
    (xorOctets a b).length = a.length := by
  rw [xorOctets, List.length_zipWith]
  omega

theorem xorOctets_xorOctets (a : List UInt8) :
    ∀ b : List UInt8, a.length ≤ b.length → xorOctets (xorOctets a b) b = a := by
  induction a with
  | nil =>
    intro b _
    rfl
  | cons x a ih =>
    intro b h
    cases b with
    | nil => exact absurd h (Nat.not_succ_le_zero _)
    | cons y b =>
      have htail := ih b (Nat.le_of_succ_le_succ h)
      change (x ^^^ y ^^^ y) :: xorOctets (xorOctets a b) b = _
      rw [htail, UInt8.xor_assoc, UInt8.xor_self, UInt8.xor_zero]

/-- A first block that is full, or has nothing behind it, is all of the first sixteen octets. -/
theorem take_drop_firstBlock {first : List UInt8} (rest : List UInt8) (hshort : first.length ≤ 16)
    (hfull : first.length = 16 ∨ rest.length = 0) :
    (first ++ rest).take 16 = first ∧ (first ++ rest).drop 16 = rest := by
  rcases hfull with hfull | hlast
  · exact ⟨List.take_left' hfull, List.drop_left' hfull⟩
  · have hempty : rest = [] := List.length_eq_zero_iff.mp hlast
    rw [hempty, List.append_nil]
    exact ⟨List.take_of_length_le hshort, List.drop_of_length_le hshort⟩

theorem ctrBlocks_involutive (blocks : Nat) : ∀ counter input : List UInt8,
    input.length ≤ 16 * blocks →
      ∃ output, ctrBlocks f.cipher key blocks counter input = some output
        ∧ output.length = input.length
        ∧ ctrBlocks f.cipher key blocks counter output = some input := by
  induction blocks with
  | zero =>
    intro counter input h
    have hnil : input = [] := List.length_eq_zero_iff.mp (Nat.le_zero.mp h)
    subst hnil
    exact ⟨[], rfl, rfl, rfl⟩
  | succ blocks ih =>
    intro counter input h
    by_cases hnil : input = []
    · subst hnil
      exact ⟨[], rfl, rfl, rfl⟩
    · obtain ⟨rest, hrest, hlength, hback⟩ := ih (nextCounter counter) (input.drop 16) (by
        rw [List.length_drop]
        omega)
      have hstream := f.length_encrypt key counter
      have hfits : (input.take 16).length ≤ (f.encrypt key counter).length := by
        rw [hstream, List.length_take]
        omega
      have hfirst := length_xorOctets hfits
      rw [List.length_take] at hfirst
      rw [List.length_drop] at hlength
      have hone : ctrBlocks f.cipher key (blocks + 1) counter input
          = some (xorOctets (input.take 16) (f.encrypt key counter) ++ rest) := by
        rw [ctrBlocks, if_neg hnil]
        change (ctrBlocks f.cipher key blocks (nextCounter counter) (input.drop 16)).bind _ = _
        rw [hrest]
        rfl
      refine ⟨_, hone, ?_, ?_⟩
      · rw [List.length_append]
        omega
      · -- the output falls into the same blocks as the input
        obtain ⟨htake, hdrop⟩ := take_drop_firstBlock rest
          (show (xorOctets (input.take 16) (f.encrypt key counter)).length ≤ 16 by omega)
          (by omega)
        have hne : xorOctets (input.take 16) (f.encrypt key counter) ++ rest ≠ [] := by
          intro heq
          have hzero := congrArg List.length heq
          rw [List.length_append, List.length_nil] at hzero
          exact hnil (List.length_eq_zero_iff.mp (by omega))
        rw [ctrBlocks, if_neg hne, htake, hdrop]
        change (ctrBlocks f.cipher key blocks (nextCounter counter) rest).bind _ = _
        rw [hback]
        change some (xorOctets (xorOctets _ (f.encrypt key counter)) (f.encrypt key counter)
          ++ input.drop 16) = _
        rw [xorOctets_xorOctets _ _ hfits, List.take_append_drop]

theorem ctrCrypt_involutive (counter input : List UInt8) :
    ∃ output, ctrCrypt f.cipher key counter input = some output
      ∧ output.length = input.length ∧ ctrCrypt f.cipher key counter output = some input := by
  obtain ⟨output, hout, hlength, hback⟩ := ctrBlocks_involutive f key input.length counter input
    (by omega)
  refine ⟨output, hout, hlength, ?_⟩
  rw [ctrCrypt, hlength]
  exact hback

theorem macBlocks_total (blocks : Nat) : ∀ chain input : List UInt8, chain.length = 16 →
    ∃ mac, macBlocks f.cipher key blocks chain input = some mac ∧ mac.length = 16 := by
  induction blocks with
  | zero =>
    intro chain input hchain
    exact ⟨chain, rfl, hchain⟩
  | succ blocks ih =>
    intro chain input hchain
    by_cases hnil : input = []
    · exact ⟨chain, by rw [macBlocks, if_pos hnil], hchain⟩
    · rw [macBlocks, if_neg hnil]
      exact ih _ _ (f.length_encrypt key _)

theorem cbcMac_total (block0 additionalData payload : List UInt8) :
    ∃ mac, cbcMac f.cipher key block0 additionalData payload = some mac ∧ mac.length = 16 :=
  macBlocks_total f key _ _ _ (f.length_encrypt key _)

end Construction

/-! ## Encryption and decryption -/

namespace SecureBlockContext

section RoundTrip

variable (ctx : SecureBlockContext) (f : BlockFunction) (key : Key) (nonce : List UInt8) (scf : UInt8)
  {aTail plain : List UInt8}

theorem buildSecureBlock0_usable (hsource : ctx.srcIa.isBroadcast = false) {payloadLen : Nat}
    (hlength : payloadLen ≤ 255) : ∃ block0, ctx.buildSecureBlock0 nonce payloadLen = some block0 := by
  rw [buildSecureBlock0, if_neg]
  · exact ⟨_, rfl⟩
  · rintro (hbroadcast | hlong)
    · rw [hsource] at hbroadcast
      cases hbroadcast
    · omega

theorem buildSecureCounter0_usable (hsource : ctx.srcIa.isBroadcast = false) :
    ∃ counter0, ctx.buildSecureCounter0 nonce = some counter0 := by
  rw [buildSecureCounter0, hsource]
  exact ⟨_, rfl⟩

theorem ccmEncrypt_of_parts {f : BlockFunction} {key : Key} {nonce : List UInt8} {scf : UInt8}
    (htail : aTail.length ≤ 6) (hplain : plain.length ≤ 255) {capacity : Nat}
    (hcapacity : plain.length + 4 ≤ capacity) {block0 counter0 code combined : List UInt8}
    (hblock0 : ctx.buildSecureBlock0 nonce plain.length = some block0)
    (hcode : cbcMac f.cipher key block0 (scf :: aTail) plain = some code)
    (hcounter0 : ctx.buildSecureCounter0 nonce = some counter0)
    (hcombined : ctrCrypt f.cipher key counter0 (code.take 4 ++ plain) = some combined) :
    ctx.ccmEncrypt f.cipher key nonce scf aTail plain capacity
      = some (combined.drop 4 ++ combined.take 4) := by
  rw [ccmEncrypt, if_neg (by omega), hblock0]
  change (if 6 < aTail.length then none else _) = _
  rw [if_neg (by omega), hcode]
  change (ctx.buildSecureCounter0 nonce).bind _ = _
  rw [hcounter0]
  change (ctrCrypt f.cipher key counter0 (code.take 4 ++ plain)).bind _ = _
  rw [hcombined]
  rfl

/-- What is encrypted is decrypted: the ciphertext is as long as the plaintext, four octets of
authentication code follow it, and with the same parameters they give the plaintext again. -/
theorem ccmDecrypt_ccmEncrypt (hsource : ctx.srcIa.isBroadcast = false) (htail : aTail.length ≤ 6)
    (hplain : plain.length ≤ 255) {capacity : Nat} (hcapacity : plain.length + 4 ≤ capacity) :
    ∃ cipher mac, ctx.ccmEncrypt f.cipher key nonce scf aTail plain capacity = some (cipher ++ mac)
      ∧ cipher.length = plain.length ∧ mac.length = 4
      ∧ ∀ outSize, plain.length ≤ outSize →
        ctx.ccmDecrypt f.cipher key nonce scf aTail cipher mac outSize = some plain := by
  obtain ⟨block0, hblock0⟩ := buildSecureBlock0_usable ctx nonce hsource hplain
  obtain ⟨counter0, hcounter0⟩ := buildSecureCounter0_usable ctx nonce hsource
  obtain ⟨code, hcode, hcodeLength⟩ := cbcMac_total f key block0 (scf :: aTail) plain
  obtain ⟨combined, hcombined, hlength, hback⟩ :=
    ctrCrypt_involutive f key counter0 (code.take 4 ++ plain)
  have hfour : (code.take 4).length = 4 := by
    rw [List.length_take]
    omega
  rw [List.length_append, hfour] at hlength
  have hcipher : (combined.drop 4).length = plain.length := by
    rw [List.length_drop]
    omega
  refine ⟨combined.drop 4, combined.take 4, ?_, hcipher, ?_, ?_⟩
  · exact ctx.ccmEncrypt_of_parts htail hplain hcapacity hblock0 hcode hcounter0 hcombined
  · rw [List.length_take]
    omega
  · intro outSize hout
    rw [ccmDecrypt, if_neg (by omega), hcounter0]
    change (ctrCrypt f.cipher key counter0 (combined.take 4 ++ combined.drop 4)).bind _ = _
    rw [List.take_append_drop, hback]
    -- the code stands in front of the plaintext
    have hdrop : (code.take 4 ++ plain).drop 4 = plain := List.drop_left' hfour
    have htake : (code.take 4 ++ plain).take 4 = code.take 4 := List.take_left' hfour
    change (ctx.buildSecureBlock0 nonce ((code.take 4 ++ plain).drop 4).length).bind _ = _
    rw [hdrop, hblock0]
    change (if 6 < aTail.length then none else _) = _
    rw [if_neg (by omega), hcode]
    change (if code.take 4 = (code.take 4 ++ plain).take 4 then some plain else none) = _
    rw [htake, if_pos rfl]

end RoundTrip

end SecureBlockContext

/-! ## Sessions -/

/-- `DataSecureContext`. -/
structure DataSecureContext where
  srcIa : IndividualAddress := ⟨0⟩
  dstAddr : GroupAddress := ⟨0⟩
  cemiCtrl2 : UInt8 := 0
  seq48 : UInt64 := 0
  deriving DecidableEq, Repr

/-- `mask48`. -/
def mask48 (v : UInt64) : UInt64 := v &&& 0x0000FFFFFFFFFFFF

/-- `writeSecureU48BE`. -/
def writeSecureU48BE (value : UInt64) : List UInt8 := toOctets 6 (mask48 value).toNat

/-- `readSecureU48BE`. -/
def readSecureU48BE (octets : List UInt8) : UInt64 := UInt64.ofNat (ofOctets octets)

/-- `DataSecureSession`. -/
structure DataSecureSession where
  key : Key
  sendSeq48 : UInt64 := 0
  recvSeq48 : UInt64 := 0
  replay : ReplayWindow := {}
  deriving DecidableEq, Repr

namespace DataSecureSession

/-- `kMacSize`. -/
def macSize : Nat := 4

/-- `kSecureHeaderSize`. -/
def secureHeaderSize : Nat := 9

/-- `kSecureOverhead`. -/
def secureOverhead : Nat := secureHeaderSize + macSize

/-- `kMaxPlainApduSize`. -/
def maxPlainApduSize : Nat := 255

/-- `SCF_ENCRYPTION_S_A_DATA`. -/
def scfEncryptionSAData : UInt8 := 0x10

/-- `blockContext`: group data, so the TPCI is zero. -/
def blockContext (ctx : DataSecureContext) : SecureBlockContext where
  srcIa := ctx.srcIa
  dstRaw := ctx.dstAddr.raw
  atOctet := ctx.cemiCtrl2 &&& 0x8F
  tpci6 := 0

/-- `buildBlock0`. -/
def buildBlock0 (ctx : DataSecureContext) (plainApduLen : Nat) : Option (List UInt8) :=
  if !ctx.dstAddr.isValid then none
  else (blockContext ctx).buildSecureBlock0 (writeSecureU48BE ctx.seq48) plainApduLen

/-- `buildCounter0`. -/
def buildCounter0 (ctx : DataSecureContext) : Option (List UInt8) :=
  if !ctx.dstAddr.isValid then none
  else (blockContext ctx).buildSecureCounter0 (writeSecureU48BE ctx.seq48)

/-- The number that `protect` uses: the one of the context, or the next one. -/
def chosenSeq (s : DataSecureSession) (ctx : DataSecureContext) : UInt64 :=
  if mask48 ctx.seq48 = 0 then mask48 (s.sendSeq48 + 1) else mask48 ctx.seq48

/-- `protect` into a buffer of `capacity` octets. A cipher that fails reports an error of its own. -/
def protect (aes : BlockCipher) (s : DataSecureSession) (frameCtx : DataSecureContext)
    (plainApdu : List UInt8) (capacity : Nat) : DataSecureSession × Result (List UInt8) :=
  if plainApdu.length < 2 then (s, .error .invalidFrameSize)
  else if maxPlainApduSize < plainApdu.length then (s, .error .invalidParameter)
  else if capacity < secureOverhead + plainApdu.length then (s, .error .bufferTooSmall)
  else
    let seq48 := s.chosenSeq frameCtx
    if seq48 = 0 then (s, .error .operationFailed)
    else if s.sendSeq48 ≠ 0 ∧ seq48 ≤ mask48 s.sendSeq48 then (s, .error .invalidParameter)
    else
      let ctx := { frameCtx with seq48 := seq48 }
      match buildBlock0 ctx plainApdu.length with
      | none => (s, .error .invalidAddress)
      | some block0 =>
          match cbcMac aes s.key block0 [scfEncryptionSAData] plainApdu with
          | none => (s, .error .operationFailed)
          | some macFull =>
              match buildCounter0 ctx with
              | none => (s, .error .invalidAddress)
              | some counter0 =>
                  match ctrCrypt aes s.key counter0 (macFull.take macSize ++ plainApdu) with
                  | none => (s, .error .operationFailed)
                  | some combinedEnc =>
                      ({ s with sendSeq48 := seq48 },
                        .ok ([0x03, 0xF1, scfEncryptionSAData] ++ writeSecureU48BE ctx.seq48
                          ++ (combinedEnc.drop macSize ++ combinedEnc.take macSize)))

/-- `memcpy` into a scratch array, from an offset on. -/
def copyInto (scratch : List UInt8) (offset : Nat) (octets : List UInt8) :
    Checked ErrorCode (List UInt8) :=
  if offset + octets.length ≤ scratch.length then .done (overwrite scratch offset octets)
  else .outOfBounds scratch.length

/-- A result of the cipher or of a block. -/
def orFail {α : Type} (e : ErrorCode) : Option α → Checked ErrorCode α
  | some a => .done a
  | none => .fail e

/-- The number in a secure TPDU. -/
def seqOf (secureTpdu : List UInt8) : UInt64 := readSecureU48BE (slice secureTpdu 3 6)

/-- `encPayloadLen`. -/
def payloadLength (secureTpdu : List UInt8) : Nat := secureTpdu.length - secureOverhead

/-- The part of `unprotect` behind the copies: `combinedEnc` is decrypted and its code compared. -/
def authenticate (aes : BlockCipher) (key : Key) (ctx : DataSecureContext) (scf : UInt8)
    (counter0 combinedEnc : List UInt8) : Checked ErrorCode (List UInt8) := do
  let combinedPlain ← orFail .operationFailed (ctrCrypt aes key counter0 combinedEnc)
  let plainView := combinedPlain.drop macSize
  let block0 ← orFail .invalidParameter (buildBlock0 ctx plainView.length)
  let macFull ← orFail .operationFailed (cbcMac aes key block0 [scf] plainView)
  if macFull.take macSize ≠ combinedPlain.take macSize then .fail .decodeFailed
  else .done plainView

/-- `unprotect` up to the point where the session changes: the plain APDU. -/
def openTpdu (aes : BlockCipher) (s : DataSecureSession) (frameCtx : DataSecureContext)
    (secureTpdu : List UInt8) (plainSize : Nat) : Checked ErrorCode (List UInt8) :=
  if secureTpdu.length < secureOverhead then .fail .invalidFrameSize
  else if secureTpdu.getD 0 0 ≠ 0x03 ∨ secureTpdu.getD 1 0 ≠ 0xF1 then .fail .decodeFailed
  else if secureTpdu.getD 2 0 ≠ scfEncryptionSAData then .fail .decodeFailed
  else if seqOf secureTpdu = 0 then .fail .decodeFailed
  else if !s.replay.wouldAccept (seqOf secureTpdu) then .fail .operationNotReady
  else if plainSize < payloadLength secureTpdu then .fail .bufferTooSmall
  else do
    let ctx := { frameCtx with seq48 := seqOf secureTpdu }
    let counter0 ← orFail .invalidAddress (buildCounter0 ctx)
    let combinedEnc := List.replicate (macSize + maxPlainApduSize) 0
    let combinedEnc ← copyInto combinedEnc 0 (secureTpdu.drop (secureTpdu.length - macSize))
    let combinedEnc ← copyInto combinedEnc macSize
      (slice secureTpdu secureHeaderSize (payloadLength secureTpdu))
    authenticate aes s.key ctx (secureTpdu.getD 2 0) counter0
      (combinedEnc.take (macSize + payloadLength secureTpdu))

/-- `unprotect` into a buffer of `plainSize` octets. -/
def unprotect (aes : BlockCipher) (s : DataSecureSession) (frameCtx : DataSecureContext)
    (secureTpdu : List UInt8) (plainSize : Nat) :
    DataSecureSession × Checked ErrorCode (List UInt8) :=
  match openTpdu aes s frameCtx secureTpdu plainSize with
  | .done plain =>
      ({ s with
          replay := s.replay.accept (seqOf secureTpdu)
          recvSeq48 := seqOf secureTpdu },
        .done plain)
  | stopped => (s, stopped)

/-! ## The two copies agree -/

section Agreement

variable (f : BlockFunction) {s : DataSecureSession} {ctx : DataSecureContext}
  {plain : List UInt8}

/-- What `protect` asks of its arguments and of the session. -/
structure Protects (s : DataSecureSession) (ctx : DataSecureContext) (plain : List UInt8)
    (capacity : Nat) : Prop where
  atLeastTwo : 2 ≤ plain.length
  fits : plain.length ≤ maxPlainApduSize
  room : secureOverhead + plain.length ≤ capacity
  numbered : s.chosenSeq ctx ≠ 0
  fresh : s.sendSeq48 = 0 ∨ mask48 s.sendSeq48 < s.chosenSeq ctx
  source : ctx.srcIa.isBroadcast = false
  destination : ctx.dstAddr.isValid = true

/-- The frame that `ccmEncrypt` gives, behind the Secure APCI, the SCF and the number. -/
def sealedTpdu (seq48 : UInt64) (sealed : List UInt8) : List UInt8 :=
  [0x03, 0xF1, scfEncryptionSAData] ++ writeSecureU48BE seq48 ++ sealed

theorem buildBlock0_valid (ctx : DataSecureContext) (h : ctx.dstAddr.isValid = true)
    (plainApduLen : Nat) :
    buildBlock0 ctx plainApduLen
      = (blockContext ctx).buildSecureBlock0 (writeSecureU48BE ctx.seq48) plainApduLen := by
  rw [buildBlock0, h]
  rfl

theorem buildCounter0_valid (ctx : DataSecureContext) (h : ctx.dstAddr.isValid = true) :
    buildCounter0 ctx = (blockContext ctx).buildSecureCounter0 (writeSecureU48BE ctx.seq48) := by
  rw [buildCounter0, h]
  rfl

/-- `protect` is `ccmEncrypt` behind the header, with the TPCI zero and no associated tail. -/
theorem protect_eq {capacity : Nat} (h : Protects s ctx plain capacity) {sealed : List UInt8}
    (hsealed : (blockContext ctx).ccmEncrypt f.cipher s.key (writeSecureU48BE (s.chosenSeq ctx))
      scfEncryptionSAData [] plain (plain.length + 4) = some sealed) :
    s.protect f.cipher ctx plain capacity
      = ({ s with sendSeq48 := s.chosenSeq ctx }, .ok (sealedTpdu (s.chosenSeq ctx) sealed)) := by
  have hshort := h.fits
  rw [maxPlainApduSize] at hshort
  obtain ⟨block0, hblock0⟩ := SecureBlockContext.buildSecureBlock0_usable (blockContext ctx)
    (writeSecureU48BE (s.chosenSeq ctx)) h.source hshort
  obtain ⟨counter0, hcounter0⟩ := SecureBlockContext.buildSecureCounter0_usable
    (blockContext ctx) (writeSecureU48BE (s.chosenSeq ctx)) h.source
  obtain ⟨code, hcode, -⟩ := cbcMac_total f s.key block0 [scfEncryptionSAData] plain
  obtain ⟨combined, hcombined, -, -⟩ := ctrCrypt_involutive f s.key counter0 (code.take 4 ++ plain)
  -- both sides run the block function on the same blocks, so `sealed` is what `protect` computes
  have htail : ([] : List UInt8).length ≤ 6 := Nat.zero_le 6
  rw [(blockContext ctx).ccmEncrypt_of_parts htail hshort (Nat.le_refl _) hblock0 hcode hcounter0
    hcombined] at hsealed
  obtain rfl := Option.some.inj hsealed
  have hstale : ¬ (s.sendSeq48 ≠ 0 ∧ s.chosenSeq ctx ≤ mask48 s.sendSeq48) := by
    rintro ⟨hsent, hle⟩
    rcases h.fresh with hzero | hlt
    · exact hsent hzero
    · exact absurd hle (UInt64.not_le.mpr hlt)
  have hblock : buildBlock0 { ctx with seq48 := s.chosenSeq ctx } plain.length = some block0 :=
    (buildBlock0_valid ({ ctx with seq48 := s.chosenSeq ctx }) h.destination _).trans hblock0
  have hcounter : buildCounter0 { ctx with seq48 := s.chosenSeq ctx } = some counter0 :=
    (buildCounter0_valid ({ ctx with seq48 := s.chosenSeq ctx }) h.destination).trans hcounter0
  rw [protect, if_neg (Nat.not_lt.mpr h.atLeastTwo), if_neg (Nat.not_lt.mpr h.fits),
    if_neg (Nat.not_lt.mpr h.room)]
  dsimp only
  rw [if_neg h.numbered, if_neg hstale, hblock]
  dsimp only
  rw [hcode]
  dsimp only
  rw [hcounter]
  dsimp only
  rw [show macSize = 4 from rfl, hcombined]
  rfl

end Agreement

/-! ## The scratch arrays -/

section Scratch

variable {aes : BlockCipher} {s : DataSecureSession} {ctx : DataSecureContext}
  {secureTpdu : List UInt8} {plainSize : Nat}

/-- The checks that `unprotect` makes before it copies. -/
structure Reaches (s : DataSecureSession) (ctx : DataSecureContext) (secureTpdu : List UInt8)
    (plainSize : Nat) : Prop where
  whole : secureOverhead ≤ secureTpdu.length
  secureApci : secureTpdu.getD 0 0 = 0x03 ∧ secureTpdu.getD 1 0 = 0xF1
  scf : secureTpdu.getD 2 0 = scfEncryptionSAData
  numbered : seqOf secureTpdu ≠ 0
  accepted : s.replay.wouldAccept (seqOf secureTpdu) = true
  room : payloadLength secureTpdu ≤ plainSize
  source : ctx.srcIa.isBroadcast = false
  destination : ctx.dstAddr.isValid = true

theorem buildCounter0_none (h : ¬ (ctx.srcIa.isBroadcast = false ∧ ctx.dstAddr.isValid = true))
    (seq48 : UInt64) : buildCounter0 { ctx with seq48 := seq48 } = none := by
  rw [buildCounter0]
  cases hvalid : ctx.dstAddr.isValid with
  | false => rfl
  | true =>
    have hbroadcast : ctx.srcIa.isBroadcast = true := by
      by_contra hother
      exact h ⟨Bool.eq_false_iff.mpr hother, hvalid⟩
    change (if ctx.srcIa.isBroadcast then none else _) = none
    rw [hbroadcast]
    rfl

theorem openTpdu_refused (aes : BlockCipher) (h : ¬ Reaches s ctx secureTpdu plainSize) :
    ∃ e, openTpdu aes s ctx secureTpdu plainSize = .fail e := by
  unfold openTpdu
  split
  · exact ⟨_, rfl⟩
  · rename_i hwhole
    split
    · exact ⟨_, rfl⟩
    · rename_i hapci
      split
      · exact ⟨_, rfl⟩
      · rename_i hscf
        split
        · exact ⟨_, rfl⟩
        · rename_i hnumbered
          split
          · exact ⟨_, rfl⟩
          · rename_i haccepted
            split
            · exact ⟨_, rfl⟩
            · -- the addresses are all that is left
              rename_i hroom
              rw [not_or, not_not, not_not] at hapci
              have haddresses : ¬ (ctx.srcIa.isBroadcast = false ∧ ctx.dstAddr.isValid = true) := by
                rintro ⟨hsource, hdestination⟩
                exact h ⟨Nat.le_of_not_lt hwhole, hapci, not_not.mp hscf, hnumbered,
                  by simpa using haccepted, Nat.le_of_not_lt hroom, hsource, hdestination⟩
              refine ⟨.invalidAddress, ?_⟩
              dsimp only
              rw [buildCounter0_none haddresses]
              rfl

/-- The code of a frame: its last four octets. -/
def macOf (secureTpdu : List UInt8) : List UInt8 :=
  secureTpdu.drop (secureTpdu.length - macSize)

/-- The encrypted payload of a frame. -/
def cipherOf (secureTpdu : List UInt8) : List UInt8 :=
  slice secureTpdu secureHeaderSize (payloadLength secureTpdu)

theorem length_macOf (h : secureOverhead ≤ secureTpdu.length) :
    (macOf secureTpdu).length = macSize := by
  rw [secureOverhead, secureHeaderSize] at h
  rw [macOf, List.length_drop]
  omega

theorem length_cipherOf (h : secureOverhead ≤ secureTpdu.length) :
    (cipherOf secureTpdu).length = payloadLength secureTpdu := by
  rw [secureOverhead, macSize] at h
  rw [cipherOf, slice, List.length_take, List.length_drop, payloadLength, secureOverhead, macSize]
  omega

theorem openTpdu_reached (aes : BlockCipher) (h : Reaches s ctx secureTpdu plainSize) :
    ∃ counter0, (blockContext ctx).buildSecureCounter0 (writeSecureU48BE (seqOf secureTpdu))
        = some counter0
      ∧ openTpdu aes s ctx secureTpdu plainSize
        = if payloadLength secureTpdu ≤ maxPlainApduSize then
            authenticate aes s.key { ctx with seq48 := seqOf secureTpdu } scfEncryptionSAData counter0
              (macOf secureTpdu ++ cipherOf secureTpdu)
          else .outOfBounds (macSize + maxPlainApduSize) := by
  obtain ⟨counter0, hcounter0⟩ := SecureBlockContext.buildSecureCounter0_usable
    (blockContext ctx) (writeSecureU48BE (seqOf secureTpdu)) h.source
  refine ⟨counter0, hcounter0, ?_⟩
  have hcounter : buildCounter0 { ctx with seq48 := seqOf secureTpdu } = some counter0 :=
    (buildCounter0_valid ({ ctx with seq48 := seqOf secureTpdu }) h.destination).trans hcounter0
  have hmac := length_macOf h.whole
  have hcipher := length_cipherOf h.whole
  -- none of the checks before the block function is run refuses the frame
  have hapci : ¬ (secureTpdu.getD 0 0 ≠ 0x03 ∨ secureTpdu.getD 1 0 ≠ 0xF1) := by
    rw [not_or, not_not, not_not]
    exact h.secureApci
  rw [openTpdu, if_neg (Nat.not_lt.mpr h.whole), if_neg hapci, if_neg (not_not.mpr h.scf),
    if_neg h.numbered, if_neg (by simp [h.accepted]), if_neg (Nat.not_lt.mpr h.room)]
  dsimp only
  rw [hcounter, h.scf]
  -- the code goes to the front of the array
  have hfront : copyInto (List.replicate (macSize + maxPlainApduSize) 0) 0 (macOf secureTpdu)
      = .done (macOf secureTpdu ++ List.replicate maxPlainApduSize 0) := by
    rw [copyInto, if_pos (by rw [hmac, List.length_replicate]; omega), overwrite, hmac,
      List.take_zero, List.nil_append, Nat.zero_add, List.drop_replicate, Nat.add_sub_cancel_left]
  have hlength : (macOf secureTpdu ++ List.replicate maxPlainApduSize (0 : UInt8)).length
      = macSize + maxPlainApduSize := by
    rw [List.length_append, hmac, List.length_replicate]
  change (copyInto (List.replicate (macSize + maxPlainApduSize) 0) 0 (macOf secureTpdu)).bind _ = _
  rw [hfront]
  change (copyInto _ macSize (cipherOf secureTpdu)).bind _ = _
  rw [copyInto, hlength, hcipher]
  -- the ciphertext goes behind it; `unprotect` has not compared its length with the array's
  by_cases hfits : payloadLength secureTpdu ≤ maxPlainApduSize
  · rw [if_pos hfits, if_pos (Nat.add_le_add_left hfits macSize)]
    change authenticate _ _ _ _ _ (List.take _ (overwrite _ macSize (cipherOf secureTpdu))) = _
    congr 1
    rw [overwrite, List.take_left' hmac]
    apply List.take_left'
    rw [List.length_append, hmac, hcipher]
  · rw [if_neg hfits, if_neg (fun hle => hfits (Nat.le_of_add_le_add_left hle))]
    rfl

theorem inBounds_orFail {α : Type} (e : ErrorCode) (x : Option α) : (orFail e x).InBounds := by
  cases x with
  | none => exact Checked.inBounds_fail e
  | some a => exact Checked.inBounds_done a

theorem inBounds_authenticate (key : Key) (scf : UInt8) (counter0 combinedEnc : List UInt8) :
    (authenticate aes key ctx scf counter0 combinedEnc).InBounds := by
  refine (inBounds_orFail _ _).bind fun combinedPlain => ?_
  refine (inBounds_orFail _ _).bind fun block0 => ?_
  refine (inBounds_orFail _ _).bind fun macFull => ?_
  split
  · exact Checked.inBounds_fail _
  · exact Checked.inBounds_done _

/-- What `unprotect` reports is what was found before the session changes. -/
theorem unprotect_result (aes : BlockCipher) (s : DataSecureSession) (ctx : DataSecureContext)
    (secureTpdu : List UInt8) (plainSize : Nat) :
    (s.unprotect aes ctx secureTpdu plainSize).2 = s.openTpdu aes ctx secureTpdu plainSize := by
  rw [unprotect]
  cases openTpdu aes s ctx secureTpdu plainSize <;> rfl

theorem unprotect_failed {e : ErrorCode}
    (h : s.openTpdu aes ctx secureTpdu plainSize = .fail e) :
    (s.unprotect aes ctx secureTpdu plainSize).1 = s := by
  rw [unprotect, h]

/-- `unprotect` stays inside its arrays, and a payload that does not fit them is refused with the
replay window as it was. -/
def StaysInside (aes : BlockCipher) (s : DataSecureSession) (ctx : DataSecureContext)
    (secureTpdu : List UInt8) (plainSize : Nat) : Prop :=
  (s.unprotect aes ctx secureTpdu plainSize).2.InBounds
    ∧ (maxPlainApduSize < payloadLength secureTpdu →
      (∃ e, (s.unprotect aes ctx secureTpdu plainSize).2 = .fail e)
        ∧ (s.unprotect aes ctx secureTpdu plainSize).1.replay = s.replay)

theorem not_staysInside (hreaches : Reaches s ctx secureTpdu plainSize)
    (hlong : ¬ payloadLength secureTpdu ≤ maxPlainApduSize) :
    ¬ StaysInside aes s ctx secureTpdu plainSize := by
  rintro ⟨hinside, -⟩
  obtain ⟨counter0, -, hopen⟩ := openTpdu_reached aes hreaches
  rw [unprotect_result, hopen, if_neg hlong] at hinside
  exact Checked.not_inBounds_outOfBounds _ hinside

/-- `unprotect` stays inside its arrays exactly when the payload fits them or the frame is refused
by a check in front of the copies. -/
theorem unprotect_stays_inside_iff (aes : BlockCipher) (s : DataSecureSession)
    (ctx : DataSecureContext) (secureTpdu : List UInt8) (plainSize : Nat) :
    StaysInside aes s ctx secureTpdu plainSize
      ↔ payloadLength secureTpdu ≤ maxPlainApduSize ∨ ¬ Reaches s ctx secureTpdu plainSize := by
  by_cases hreaches : Reaches s ctx secureTpdu plainSize
  · obtain ⟨counter0, -, hopen⟩ := openTpdu_reached aes hreaches
    constructor
    · intro hstays
      left
      by_contra hlong
      exact not_staysInside hreaches hlong hstays
    · rintro (hfits | hrefused)
      · refine ⟨?_, fun hlong => absurd hfits (Nat.not_le.mpr hlong)⟩
        rw [unprotect_result, hopen, if_pos hfits]
        exact inBounds_authenticate _ _ _ _
      · exact absurd hreaches hrefused
  · obtain ⟨e, hfail⟩ := openTpdu_refused aes hreaches
    refine ⟨fun _ => .inr hreaches, fun _ => ⟨?_, fun _ => ⟨⟨e, ?_⟩, ?_⟩⟩⟩
    · rw [unprotect_result, hfail]
      exact Checked.inBounds_fail e
    · rw [unprotect_result, hfail]
    · rw [unprotect_failed hfail]

end Scratch

/-- A secure TPDU with a payload of 256 octets. -/
def overlongTpdu : List UInt8 :=
  [0x03, 0xF1, 0x10, 0, 0, 0, 0, 0, 1] ++ List.replicate 260 0

theorem payloadLength_overlongTpdu : payloadLength overlongTpdu = 256 := by
  rw [payloadLength, overlongTpdu, List.length_append, List.length_replicate]
  rfl

/-- A group frame with a payload of 256 octets, read into a buffer that would hold it. -/
theorem overlong_copied_outside :
    ¬ StaysInside ⟨fun _ _ => none⟩ ⟨List.replicate 16 0, 0, 0, {}⟩ { srcIa := ⟨0x1101⟩, dstAddr := ⟨1⟩ }
      overlongTpdu 256 := by
  have hlength : overlongTpdu.length = 269 := by
    rw [overlongTpdu, List.length_append, List.length_replicate]
    rfl
  have hseq : seqOf overlongTpdu = 1 := rfl
  refine not_staysInside ⟨?_, ⟨rfl, rfl⟩, rfl, ?_, ?_, ?_, rfl, rfl⟩ ?_
  · rw [hlength]
    decide
  · rw [hseq]
    decide
  · rw [hseq]
    decide
  · rw [payloadLength_overlongTpdu]
  · rw [payloadLength_overlongTpdu]
    decide

/-! ## Frames of one copy in the other -/

section Frames

variable (f : BlockFunction) {s : DataSecureSession} {ctx : DataSecureContext} {plain : List UInt8}

/-- What `ccmDecrypt` found when it accepted. -/
theorem ccmDecrypt_eq_some {block : SecureBlockContext} {aes : BlockCipher} {key : Key}
    {nonce aTail cipher mac : List UInt8} {scf : UInt8} {capacity : Nat}
    (h : block.ccmDecrypt aes key nonce scf aTail cipher mac capacity = some plain) :
    ∃ counter0 combined block0 computed, block.buildSecureCounter0 nonce = some counter0
      ∧ ctrCrypt aes key counter0 (mac ++ cipher) = some combined ∧ combined.drop 4 = plain
      ∧ block.buildSecureBlock0 nonce plain.length = some block0
      ∧ cbcMac aes key block0 (scf :: aTail) plain = some computed
      ∧ computed.take 4 = combined.take 4 := by
  rw [SecureBlockContext.ccmDecrypt] at h
  split at h
  · cases h
  · obtain ⟨counter0, hcounter0, h⟩ := Option.bind_eq_some_iff.mp h
    obtain ⟨combined, hcombined, h⟩ := Option.bind_eq_some_iff.mp h
    obtain ⟨block0, hblock0, h⟩ := Option.bind_eq_some_iff.mp h
    split at h
    · cases h
    · obtain ⟨computed, hcomputed, h⟩ := Option.bind_eq_some_iff.mp h
      split at h
      · rename_i hsame
        obtain rfl := Option.some.inj h
        exact ⟨counter0, combined, block0, computed, hcounter0, hcombined, rfl, hblock0, hcomputed,
          hsame⟩
      · cases h

/-- `unprotect` is `ccmDecrypt` of the octets behind the header. -/
theorem openTpdu_of_ccmDecrypt {aes : BlockCipher} {secureTpdu : List UInt8} {plainSize : Nat}
    (capacity : Nat) (hreaches : Reaches s ctx secureTpdu plainSize)
    (hfits : payloadLength secureTpdu ≤ maxPlainApduSize)
    (h : (blockContext ctx).ccmDecrypt aes s.key (writeSecureU48BE (seqOf secureTpdu))
      scfEncryptionSAData [] (cipherOf secureTpdu) (macOf secureTpdu) capacity = some plain) :
    s.openTpdu aes ctx secureTpdu plainSize = .done plain := by
  obtain ⟨counter0, hcounter0, hopen⟩ := openTpdu_reached aes hreaches
  obtain ⟨counter, combined, block0, computed, hcounter, hcombined, rfl, hblock0, hcomputed, hsame⟩ :=
    ccmDecrypt_eq_some h
  obtain rfl : counter0 = counter := Option.some.inj (hcounter0.symm.trans hcounter)
  have hblock : buildBlock0 { ctx with seq48 := seqOf secureTpdu } (combined.drop 4).length
      = some block0 :=
    (buildBlock0_valid ({ ctx with seq48 := seqOf secureTpdu }) hreaches.destination _).trans
      hblock0
  rw [hopen, if_pos hfits, authenticate, hcombined]
  change (orFail _ (buildBlock0 _ (combined.drop 4).length)).bind _ = _
  rw [hblock]
  change (orFail _ (cbcMac aes s.key block0 [scfEncryptionSAData] (combined.drop 4))).bind _ = _
  rw [hcomputed]
  change (if computed.take 4 ≠ combined.take 4 then _ else _) = _
  rw [if_neg (not_not.mpr hsame)]
  rfl

theorem sealedTpdu_parts {seq48 : UInt64} (hseq : mask48 seq48 = seq48) (cipher : List UInt8)
    {mac : List UInt8} (hmac : mac.length = macSize) :
    (sealedTpdu seq48 (cipher ++ mac)).length = secureOverhead + cipher.length
      ∧ payloadLength (sealedTpdu seq48 (cipher ++ mac)) = cipher.length
      ∧ seqOf (sealedTpdu seq48 (cipher ++ mac)) = seq48
      ∧ cipherOf (sealedTpdu seq48 (cipher ++ mac)) = cipher
      ∧ macOf (sealedTpdu seq48 (cipher ++ mac)) = mac := by
  have hnumber : (writeSecureU48BE seq48).length = 6 := length_toOctets 6 _
  have hhead : ([0x03, 0xF1, scfEncryptionSAData] ++ writeSecureU48BE seq48).length
      = secureHeaderSize := by
    rw [List.length_append, hnumber]
    rfl
  have hlength : (sealedTpdu seq48 (cipher ++ mac)).length = secureOverhead + cipher.length := by
    rw [sealedTpdu, List.length_append, hhead, List.length_append, hmac, secureOverhead]
    omega
  have hpayload : payloadLength (sealedTpdu seq48 (cipher ++ mac)) = cipher.length := by
    rw [payloadLength, hlength, Nat.add_sub_cancel_left]
  refine ⟨hlength, hpayload, ?_, ?_, ?_⟩
  · have hslice : slice (sealedTpdu seq48 (cipher ++ mac)) 3 6 = writeSecureU48BE seq48 := by
      change ((writeSecureU48BE seq48 ++ (cipher ++ mac)).take 6) = _
      exact List.take_left' hnumber
    have hsmall : seq48.toNat < 256 ^ 6 := by
      rw [← hseq, mask48, UInt64.toNat_and]
      exact Nat.lt_of_le_of_lt Nat.and_le_right (by decide)
    rw [seqOf, readSecureU48BE, hslice, writeSecureU48BE, ofOctets_toOctets, hseq,
      Nat.mod_eq_of_lt hsmall]
    exact UInt64.ofNat_toNat
  · rw [cipherOf, hpayload, slice, sealedTpdu, List.drop_left' hhead]
    exact List.take_left' rfl
  · have hfront : (sealedTpdu seq48 (cipher ++ mac)).length - macSize
        = ([0x03, 0xF1, scfEncryptionSAData] ++ writeSecureU48BE seq48 ++ cipher).length := by
      rw [hlength, List.length_append, hhead, secureOverhead]
      omega
    rw [macOf, hfront, sealedTpdu, ← List.append_assoc]
    exact List.drop_left' rfl

/-- What `unprotect` asks of a session, so that it looks at a frame with this number. -/
structure Expects (s : DataSecureSession) (ctx : DataSecureContext) (seq48 : UInt64) : Prop where
  number : mask48 seq48 = seq48
  numbered : seq48 ≠ 0
  accepted : s.replay.wouldAccept seq48 = true
  source : ctx.srcIa.isBroadcast = false
  destination : ctx.dstAddr.isValid = true

/-- The two copies of the construction agree, for every block function. What `ccmEncrypt` gives is
decrypted with the same parameters; `protect` gives the frame of `ccmEncrypt`, which `ccmDecrypt`
accepts; and `unprotect` accepts the frame of `ccmEncrypt`. -/
theorem ccm_agreement (f : BlockFunction) :
    (∀ (key : Key) (block : SecureBlockContext) (nonce : List UInt8) (scf : UInt8)
      (aTail plain : List UInt8) (capacity : Nat), block.srcIa.isBroadcast = false →
      aTail.length ≤ 6 → plain.length ≤ 255 → plain.length + 4 ≤ capacity →
      ∃ cipher mac,
        block.ccmEncrypt f.cipher key nonce scf aTail plain capacity = some (cipher ++ mac)
        ∧ cipher.length = plain.length ∧ mac.length = 4
        ∧ ∀ outSize, plain.length ≤ outSize →
          block.ccmDecrypt f.cipher key nonce scf aTail cipher mac outSize = some plain)
    ∧ (∀ (s : DataSecureSession) (ctx : DataSecureContext) (plain : List UInt8) (capacity : Nat),
      Protects s ctx plain capacity →
      ∃ cipher mac,
        (blockContext ctx).ccmEncrypt f.cipher s.key (writeSecureU48BE (s.chosenSeq ctx))
          scfEncryptionSAData [] plain (plain.length + 4) = some (cipher ++ mac)
        ∧ mac.length = 4
        ∧ s.protect f.cipher ctx plain capacity
          = ({ s with sendSeq48 := s.chosenSeq ctx },
              .ok (sealedTpdu (s.chosenSeq ctx) (cipher ++ mac)))
        ∧ ∀ outSize, plain.length ≤ outSize →
          (blockContext ctx).ccmDecrypt f.cipher s.key (writeSecureU48BE (s.chosenSeq ctx))
            scfEncryptionSAData [] cipher mac outSize = some plain)
    ∧ ∀ (s : DataSecureSession) (ctx : DataSecureContext) (seq48 : UInt64) (plain sealed : List UInt8)
      (capacity plainSize : Nat), Expects s ctx seq48 → plain.length ≤ 255 →
      plain.length ≤ plainSize →
      (blockContext ctx).ccmEncrypt f.cipher s.key (writeSecureU48BE seq48) scfEncryptionSAData []
        plain capacity = some sealed →
      (s.unprotect f.cipher ctx (sealedTpdu seq48 sealed) plainSize).2 = .done plain := by
  refine ⟨?_, ?_, ?_⟩
  · intro key block nonce scf aTail plain capacity hsource htail hplain hcapacity
    exact SecureBlockContext.ccmDecrypt_ccmEncrypt block f key nonce scf hsource htail hplain hcapacity
  · intro s ctx plain capacity h
    obtain ⟨cipher, mac, hsealed, -, hmac, hback⟩ := SecureBlockContext.ccmDecrypt_ccmEncrypt
      (blockContext ctx) f s.key (writeSecureU48BE (s.chosenSeq ctx)) scfEncryptionSAData
      h.source (show ([] : List UInt8).length ≤ 6 from Nat.zero_le 6) h.fits (Nat.le_refl (plain.length + 4))
    exact ⟨cipher, mac, hsealed, hmac, protect_eq f h hsealed, hback⟩
  · intro s ctx seq48 plain sealed capacity plainSize h hplain hroom hsealed
    -- an encryption that succeeded had the room for the code
    have hcapacity : plain.length + 4 ≤ capacity := by
      by_contra hsmall
      rw [SecureBlockContext.ccmEncrypt, if_pos (.inr (Nat.lt_of_not_le hsmall))] at hsealed
      cases hsealed
    obtain ⟨cipher, mac, hsame, hcipher, hmac, hback⟩ := SecureBlockContext.ccmDecrypt_ccmEncrypt
      (blockContext ctx) f s.key (writeSecureU48BE seq48) scfEncryptionSAData h.source
      (show ([] : List UInt8).length ≤ 6 from Nat.zero_le 6) hplain hcapacity
    rw [hsame] at hsealed
    obtain rfl := Option.some.inj hsealed
    obtain ⟨hlength, hpayload, hseq, hcipherOf, hmacOf⟩ :=
      sealedTpdu_parts h.number cipher hmac
    -- the receiver reads the number, the ciphertext and the code back from the frame
    have hreaches : Reaches s ctx (sealedTpdu seq48 (cipher ++ mac)) plainSize := by
      refine ⟨by omega, ⟨rfl, rfl⟩, rfl, ?_, ?_, ?_, h.source, h.destination⟩
      · rw [hseq]
        exact h.numbered
      · rw [hseq]
        exact h.accepted
      · rw [hpayload, hcipher]
        exact hroom
    rw [unprotect_result]
    refine openTpdu_of_ccmDecrypt plain.length hreaches ?_ ?_
    · rw [hpayload, hcipher]
      exact hplain
    · rw [hseq, hcipherOf, hmacOf]
      exact hback plain.length (Nat.le_refl _)

end Frames

/-- A block function that adds the key to the block. -/
def addingFunction : BlockFunction where
  encrypt key block :=
    xorOctets ((key ++ List.replicate 16 0).take 16) ((block ++ List.replicate 16 0).take 16)
  length_encrypt key block := by
    rw [xorOctets, List.length_zipWith, List.length_take, List.length_take, List.length_append,
      List.length_append, List.length_replicate]
    omega

/-- A switching telegram from `1.1.1`, encrypted for `0/0/1`. -/
theorem ccm_agreement_switching :
    ∃ cipher mac,
      (⟨⟨0x1101⟩, 1, 0x80, 0⟩ : SecureBlockContext).ccmEncrypt addingFunction.cipher
          (List.replicate 16 7) (writeSecureU48BE 1) 0x10 [] [0x00, 0x81] 6 = some (cipher ++ mac)
      ∧ (⟨⟨0x1101⟩, 1, 0x80, 0⟩ : SecureBlockContext).ccmDecrypt addingFunction.cipher
          (List.replicate 16 7) (writeSecureU48BE 1) 0x10 [] cipher mac 2 = some [0x00, 0x81] := by
  obtain ⟨cipher, mac, hsealed, -, -, hback⟩ := (ccm_agreement addingFunction).1 (List.replicate 16 7)
    ⟨⟨0x1101⟩, 1, 0x80, 0⟩ (writeSecureU48BE 1) 0x10 [] [0x00, 0x81] 6 rfl (by decide) (by decide)
    (by decide)
  exact ⟨cipher, mac, hsealed, hback 2 (Nat.le_refl 2)⟩

end DataSecureSession

end KnxStack.Security
