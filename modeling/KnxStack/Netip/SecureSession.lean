import KnxStack.Lib.Runs
import KnxStack.Netip.SecureWrapper

/-!
# Secure sessions

`SecureSession` and `SecureSessionBootstrap` (`netip/secure_session.cpp`,
`netip/secure_session_bootstrap.cpp`) open a secure session: a request with a public key, a response
with the server's, an authentication under the key that follows from both, and a status.
`SecureTunnelingSecurity` wraps and unwraps the frames of the session, and `SecureTunnelingClient`
(`netip/secure_tunneling_client.cpp`) opens it by polling. X25519, SHA-256, PBKDF2 and AES are
parameters.

- `nonces_of_session`: the nonces of a session repeat with the period of the counter and not before;
  what is unwrapped once is unwrapped at any time.
- `success_of_pollOpen`: what has been received when a session is open.
-/

set_option autoImplicit false

namespace KnxStack.Netip

open KnxStack.Lib KnxStack.Lib.Octets KnxStack.Lib.Words KnxStack.Objects KnxStack.Security

/-- The cryptography of the platform. -/
structure Crypto where
  aes : BlockCipher
  publicFromPrivate : List UInt8 → Option (List UInt8)
  sharedSecret : List UInt8 → List UInt8 → Option (List UInt8)
  sha256 : List UInt8 → Option (List UInt8)
  pbkdf2 : List UInt8 → List UInt8 → Nat → Option (List UInt8)

/-- Any error of the computation is reported as this one. -/
def failAs {α : Type} (e : ErrorCode) (x : Checked ErrorCode α) : Checked ErrorCode α :=
  match x with
  | .fail _ => .fail e
  | x => x

theorem failAs_eq_done {α : Type} {e : ErrorCode} {x : Checked ErrorCode α} {a : α} :
    failAs e x = .done a ↔ x = .done a := by
  cases x with
  | done b => exact Iff.rfl
  | fail e' =>
    constructor
    · intro h
      cases h
    · intro h
      cases h
  | outOfBounds i => exact Iff.rfl

/-! ## Frames of the handshake -/

namespace SecureSession

/-- `kServiceTypeSessionResponse`. -/
def sessionResponse : UInt16 := 0x0952
/-- `kServiceTypeSessionAuthenticate`. -/
def sessionAuthenticate : UInt16 := 0x0953
/-- `kServiceTypeSessionStatus`. -/
def sessionStatus : UInt16 := 0x0954

/-- `SessionResponse`. -/
structure SessionResponse where
  sessionId : UInt16
  serverPublicKey : List UInt8
  messageAuthenticationCode : List UInt8
  deriving DecidableEq, Repr

/-- `decodeHeader_`: the frame ends where its header says. -/
def decodeHeaderExact (frame : List UInt8) : Checked ErrorCode UInt16 := do
  let header ← decodeHeader frame
  if header.totalLength.toNat ≠ frame.length then .fail .invalidFrameSize
  else .done header.serviceType

/-- `decodeSessionResponse`; the authentication code is read and not checked. -/
def decodeSessionResponse (frame : List UInt8) : Checked ErrorCode SessionResponse := do
  let serviceType ← decodeHeaderExact frame
  if serviceType ≠ sessionResponse then .fail .decodeFailed
  else if frame.length ≠ 56 then .fail .invalidFrameSize
  else do
    let idHi ← readAt frame 6
    let idLo ← readAt frame 7
    let serverPublicKey ← readSpan frame 8 32
    let mac ← readSpan frame 40 16
    .done ⟨joinBytes idHi idLo, serverPublicKey, mac⟩

/-- `decodeSessionStatus`. -/
def decodeSessionStatus (frame : List UInt8) : Checked ErrorCode UInt8 := do
  let serviceType ← decodeHeaderExact frame
  if serviceType ≠ sessionStatus then .fail .decodeFailed
  else if frame.length ≠ 8 then .fail .invalidFrameSize
  else readAt frame 6

/-- `kUserPasswordSalt`, the text `user-password.1.secure.ip.knx.org`. -/
def userPasswordSalt : List UInt8 :=
  [0x75, 0x73, 0x65, 0x72, 0x2D, 0x70, 0x61, 0x73, 0x73, 0x77, 0x6F, 0x72, 0x64, 0x2E, 0x31, 0x2E,
  0x73, 0x65, 0x63, 0x75, 0x72, 0x65, 0x2E, 0x69, 0x70, 0x2E, 0x6B, 0x6E, 0x78, 0x2E, 0x6F, 0x72,
  0x67]

/-- `deriveUserPasswordKeyLatin1`. -/
def deriveUserPasswordKeyLatin1 (crypto : Crypto) (passwordLatin1 : List UInt8) : Option Key :=
  crypto.pbkdf2 passwordLatin1 userPasswordSalt 65536

/-- `deriveSessionKey`: the first half of the digest of the shared secret. -/
def deriveSessionKey (crypto : Crypto) (clientPrivateKey serverPublicKey : List UInt8) :
    Option Key := do
  let secret ← crypto.sharedSecret clientPrivateKey serverPublicKey
  let digest ← crypto.sha256 secret
  return digest.take 16

/-- `encodeSessionAuthenticate`. -/
def encodeSessionAuthenticate (crypto : Crypto) (userPasswordKey : Key) (userId : UInt8)
    (clientPublicKey serverPublicKey : List UInt8) : Option (List UInt8) := do
  let head := encodeHeader sessionAuthenticate 18 ++ [0x00, userId]
  let macCbc ← cbcMac crypto.aes userPasswordKey (List.replicate 16 0)
    (head ++ xorOctets clientPublicKey serverPublicKey) []
  let macEnc ← ctrCrypt crypto.aes userPasswordKey (List.replicate 14 0 ++ [0xFF, 0x00]) macCbc
  return head ++ macEnc

end SecureSession

/-! ## Wrapping in a session -/

/-- `kSeq48Mask`. -/
def seq48Mask : UInt64 := 0xFFFFFFFFFFFF

/-- `encodeSeq48BE`. -/
def encodeSeq48 (seq48 : UInt64) : List UInt8 := toOctets 6 (seq48 &&& seq48Mask).toNat

/-- The stamp of a wrapper of a session. -/
def sessionStamp (sessionId : UInt16) (serial : Vector UInt8 6) (seq48 : UInt64) :
    SecureWrapper.Stamp where
  sessionId := sessionId
  seq := encodeSeq48 seq48
  serial := serial.toList
  tag := [0x00, 0x00]
  counterSuffix := [0x00, 0x00, 0xFF, 0x00]

/-- `SecureTunnelingSecurity`. -/
structure SecureTunnelingSecurity where
  sessionKey : Key
  sessionId : UInt16
  serial : Vector UInt8 6
  seq48 : UInt64
  deriving DecidableEq, Repr

namespace SecureTunnelingSecurity

/-- `protect`; the number is used up whatever comes of the wrapping. -/
def protect (aes : BlockCipher) (s : SecureTunnelingSecurity) (inner : List UInt8) (capacity : Nat) :
    SecureTunnelingSecurity × Checked ErrorCode (List UInt8) :=
  if s.sessionId = 0 then (s, .fail .notInitialized)
  else
    ({ s with seq48 := s.seq48 + 1 },
      SecureWrapper.wrap aes s.sessionKey
        (sessionStamp s.sessionId s.serial (s.seq48 &&& seq48Mask)) inner capacity)

/-- `unprotect`. -/
def unprotect (aes : BlockCipher) (s : SecureTunnelingSecurity) (frame : List UInt8)
    (capacity : Nat) : Checked ErrorCode (List UInt8) :=
  if s.sessionId = 0 then .fail .notInitialized
  else SecureWrapper.unwrapAndVerify aes s.sessionKey s.sessionId frame capacity

end SecureTunnelingSecurity

/-! ## The bootstrap -/

/-- The options of the client that the handshake uses. -/
structure SecureOptions where
  userId : UInt8 := 1
  passwordLatin1 : List UInt8
  clientPrivateKey : List UInt8
  clientSerial : Vector UInt8 6
  initialSeq : UInt64 := 1
  deriving DecidableEq, Repr

/-- `NegotiatedSession`. -/
structure NegotiatedSession where
  wrapperKey : Key
  sessionId : UInt16
  nextSequence : UInt64
  deriving DecidableEq, Repr

/-- `AuthenticateRequest`, with the frame. -/
structure AuthenticateRequest where
  session : NegotiatedSession
  wrappedFrame : List UInt8
  deriving DecidableEq, Repr

namespace SecureSessionBootstrap

/-- `buildAuthenticateRequest`. -/
def buildAuthenticateRequest (crypto : Crypto) (options : SecureOptions)
    (clientPublicKey sessionResponseFrame : List UInt8) (capacity : Nat) :
    Checked ErrorCode AuthenticateRequest := do
  let parsed ← failAs .decodeFailed (SecureSession.decodeSessionResponse sessionResponseFrame)
  let sessionKey ← SecureWrapper.ofCipher
    (SecureSession.deriveSessionKey crypto options.clientPrivateKey parsed.serverPublicKey)
  let userPasswordKey ← SecureWrapper.ofCipher
    (SecureSession.deriveUserPasswordKeyLatin1 crypto options.passwordLatin1)
  let authPlain ← failAs .encodeFailed (SecureWrapper.ofCipher
    (SecureSession.encodeSessionAuthenticate crypto userPasswordKey options.userId clientPublicKey
      parsed.serverPublicKey))
  let seq48 := options.initialSeq &&& seq48Mask
  let wrappedFrame ← failAs .operationFailed (SecureWrapper.wrap crypto.aes sessionKey
    (sessionStamp parsed.sessionId options.clientSerial seq48) authPlain capacity)
  .done ⟨⟨sessionKey, parsed.sessionId, (seq48 + 1) &&& seq48Mask⟩, wrappedFrame⟩

/-- What an authentication is built from: the response of the server, the key that follows from it, and
the frame that is wrapped with that key. -/
theorem buildAuthenticateRequest_cases {crypto : Crypto} {options : SecureOptions}
    {clientPublicKey response : List UInt8} {capacity : Nat} {request : AuthenticateRequest}
    (h : buildAuthenticateRequest crypto options clientPublicKey response capacity = .done request) :
    ∃ parsed sessionKey authPlain wrappedFrame,
      SecureSession.decodeSessionResponse response = .done parsed
      ∧ SecureSession.deriveSessionKey crypto options.clientPrivateKey parsed.serverPublicKey
        = some sessionKey
      ∧ SecureWrapper.wrap crypto.aes sessionKey
          (sessionStamp parsed.sessionId options.clientSerial (options.initialSeq &&& seq48Mask))
          authPlain capacity = .done wrappedFrame
      ∧ request = ⟨⟨sessionKey, parsed.sessionId,
          ((options.initialSeq &&& seq48Mask) + 1) &&& seq48Mask⟩, wrappedFrame⟩ := by
  rw [buildAuthenticateRequest] at h
  obtain ⟨parsed, hparsed, h⟩ := Checked.bind_eq_done.mp h
  obtain ⟨sessionKey, hkey, h⟩ := Checked.bind_eq_done.mp h
  obtain ⟨userPasswordKey, -, h⟩ := Checked.bind_eq_done.mp h
  obtain ⟨authPlain, -, h⟩ := Checked.bind_eq_done.mp h
  obtain ⟨wrappedFrame, hwrapped, h⟩ := Checked.bind_eq_done.mp h
  cases h
  refine ⟨parsed, sessionKey, authPlain, wrappedFrame, failAs_eq_done.mp hparsed, ?_,
    failAs_eq_done.mp hwrapped, rfl⟩
  cases hderived : SecureSession.deriveSessionKey crypto options.clientPrivateKey
      parsed.serverPublicKey with
  | none =>
    rw [hderived] at hkey
    cases hkey
  | some key =>
    rw [hderived] at hkey
    cases hkey
    rfl

/-- `decodeSessionStatus`: a status in a wrapper, or a plain one. -/
def decodeSessionStatus (aes : BlockCipher) (session : NegotiatedSession) (frame : List UInt8)
    (capacity : Nat) : Checked ErrorCode UInt8 := do
  let header ← failAs .decodeFailed (decodeHeader frame)
  if header.serviceType = SecureWrapper.serviceType then do
    let inner ← failAs .decodeFailed
      (SecureWrapper.unwrapAndVerify aes session.wrapperKey session.sessionId frame capacity)
    failAs .decodeFailed (SecureSession.decodeSessionStatus inner)
  else failAs .decodeFailed (SecureSession.decodeSessionStatus frame)

end SecureSessionBootstrap

/-! ## A handshake -/

/-- A private key of the client, and the public key of a server. -/
def sampleClientPrivateKey : List UInt8 := (List.range 32).map fun i => UInt8.ofNat (i + 1)

def sampleServerPublicKey : List UInt8 :=
  [0x58, 0x69, 0xAF, 0xF4, 0x50, 0x54, 0x97, 0x32, 0xCB, 0xAA, 0xED, 0x5E, 0x5D, 0xF9, 0xB3, 0x0A,
  0x6D, 0xA3, 0x1C, 0xB0, 0xE5, 0x74, 0x2B, 0xAD, 0x5A, 0xD4, 0xA1, 0xA7, 0x68, 0xF1, 0xA6, 0x7B]

/-- Their shared secret. -/
def sampleSecret : List UInt8 :=
  [0xA8, 0x4D, 0xC7, 0xC3, 0xC8, 0xF0, 0x58, 0xB1, 0xB2, 0xDC, 0x4C, 0xD1, 0xE9, 0xB5, 0xDC, 0x0A,
  0x79, 0x87, 0xF8, 0x8B, 0x6A, 0x95, 0x64, 0xCD, 0xE3, 0x39, 0x1F, 0xC4, 0x21, 0x15, 0x9E, 0x77]

/-- Its digest, which begins with the session key. -/
def sampleDigest : List UInt8 :=
  [0x55, 0xE8, 0x32, 0xA7, 0xED, 0x7D, 0x0F, 0x03, 0xB4, 0x6E, 0x90, 0x8D, 0x9C, 0xCA, 0x79, 0x5D,
  0xE2, 0xD2, 0xBF, 0x14, 0x0F, 0xD8, 0x03, 0x08, 0xE8, 0x5A, 0x06, 0x06, 0x9A, 0xE2, 0xB7, 0xA4]

/-- The key of the password `secret`. -/
def samplePasswordKey : Key :=
  [0x03, 0xFC, 0xED, 0xB6, 0x66, 0x60, 0x25, 0x1E, 0xC8, 0x1A, 0x1A, 0x71, 0x69, 0x01, 0x69, 0x6A]

def samplePassword : List UInt8 := [0x73, 0x65, 0x63, 0x72, 0x65, 0x74]

/-- The public key of the client. -/
def sampleClientPublicKey : List UInt8 :=
  [0x07, 0xA3, 0x7C, 0xBC, 0x14, 0x20, 0x93, 0xC8, 0xB7, 0x55, 0xDC, 0x1B, 0x10, 0xE8, 0x6C, 0xB4,
  0x26, 0x37, 0x4A, 0xD1, 0x6A, 0xA8, 0x53, 0xED, 0x0B, 0xDF, 0xC0, 0xB2, 0xB8, 0x6D, 0x1C, 0x7C]

/-- Blocks and what AES-128 makes of them under the two keys. -/
def sampleBlocks : List ((Key × List UInt8) × List UInt8) :=
  [((samplePasswordKey, [0x00, 0x00, 0x00, 0x00, 0x00, 0x00, 0x00, 0x00, 0x00, 0x00, 0x00, 0x00, 0x00, 0x00, 0x00,
    0x00]),
    [0x94, 0xFA, 0x4B, 0x05, 0xFF, 0xED, 0x42, 0x38, 0x0C, 0x8F, 0x11, 0x88, 0x31, 0x0C, 0x8F,
    0x75]),
  ((samplePasswordKey, [0x94, 0xD2, 0x4D, 0x15, 0xF6, 0xBE, 0x42, 0x20, 0x0C, 0x8E, 0x4E, 0x42, 0xE2, 0x44, 0xCB,
    0x01]),
    [0x3E, 0xE0, 0x64, 0x98, 0xEB, 0x1C, 0xB7, 0x5F, 0x61, 0xCE, 0xE1, 0xEF, 0x9A, 0xD5, 0x67,
    0x34]),
  ((samplePasswordKey, [0x3A, 0x1A, 0x18, 0x67, 0xDA, 0x59, 0xFA, 0x4E, 0xBE, 0x70, 0xAA, 0x7B, 0xCC, 0xB4, 0xE8,
    0xE8]),
    [0x86, 0xB5, 0xE3, 0x85, 0xF5, 0x41, 0x15, 0x91, 0xF3, 0x67, 0xF3, 0xF3, 0x8C, 0x98, 0x37,
    0xF0]),
  ((samplePasswordKey, [0xFE, 0xF5, 0xB2, 0x8E, 0x94, 0x54, 0xC5, 0x0D, 0x49, 0x60, 0xF3, 0xF3, 0x8C, 0x98, 0x37,
    0xF0]),
    [0x0C, 0xE9, 0x37, 0xDA, 0x98, 0x92, 0x81, 0x03, 0xDC, 0x40, 0xFB, 0x59, 0x61, 0xC5, 0x31,
    0xA5]),
  ((samplePasswordKey, [0x00, 0x00, 0x00, 0x00, 0x00, 0x00, 0x00, 0x00, 0x00, 0x00, 0x00, 0x00, 0x00, 0x00, 0xFF,
    0x00]),
    [0x6B, 0x0B, 0x30, 0x1F, 0x7C, 0x39, 0x5E, 0x3D, 0x47, 0x34, 0x87, 0x63, 0x5A, 0x92, 0x91,
    0x51]),
  ((sampleDigest.take 16, [0x00, 0x00, 0x00, 0x00, 0x00, 0x01, 0x00, 0xFA, 0x01, 0x02, 0x03, 0x04, 0x00, 0x00, 0x00,
    0x18]),
    [0x72, 0x45, 0x56, 0x8C, 0x82, 0xC0, 0xF3, 0x82, 0x06, 0x0F, 0x4A, 0xAB, 0xD8, 0x9E, 0xD5,
    0x10]),
  ((sampleDigest.take 16, [0x72, 0x4D, 0x50, 0x9C, 0x8B, 0x90, 0xF3, 0xBC, 0x06, 0x0E, 0x4C, 0xBB, 0xD1, 0xCD, 0xD5,
    0x08]),
    [0x94, 0xED, 0x96, 0xF8, 0x78, 0xDD, 0x0F, 0xCF, 0x7A, 0x2C, 0x4C, 0x8B, 0x8F, 0x1C, 0xAD,
    0xDA]),
  ((sampleDigest.take 16, [0x94, 0xEC, 0xF1, 0x1A, 0x7F, 0x18, 0xEB, 0x64, 0xA5, 0x12, 0xD7, 0xFF, 0xF3, 0x26, 0x96,
    0x8D]),
    [0x54, 0xD8, 0xF5, 0xCD, 0xA3, 0x10, 0x55, 0x6A, 0x83, 0x04, 0xB1, 0x7B, 0x1E, 0x1A, 0x21,
    0x19]),
  ((sampleDigest.take 16, [0xF4, 0x2C, 0xF5, 0xCD, 0xA3, 0x10, 0x55, 0x6A, 0x83, 0x04, 0xB1, 0x7B, 0x1E, 0x1A, 0x21,
    0x19]),
    [0xAC, 0xCB, 0xAF, 0x17, 0xD0, 0x64, 0xAD, 0x7E, 0xB2, 0xC1, 0x38, 0x34, 0xE3, 0xE4, 0x90,
    0xE7]),
  ((sampleDigest.take 16, [0x00, 0x00, 0x00, 0x00, 0x00, 0x01, 0x00, 0xFA, 0x01, 0x02, 0x03, 0x04, 0x00, 0x00, 0xFF,
    0x00]),
    [0xA1, 0x63, 0x68, 0xDB, 0x50, 0xD2, 0xBC, 0x25, 0x8F, 0xBF, 0x84, 0xBF, 0x7C, 0x3C, 0x88,
    0xA5]),
  ((sampleDigest.take 16, [0x00, 0x00, 0x00, 0x00, 0x00, 0x01, 0x00, 0xFA, 0x01, 0x02, 0x03, 0x04, 0x00, 0x00, 0xFF,
    0x01]),
    [0x4F, 0xC9, 0xF8, 0x36, 0x0B, 0x35, 0xF4, 0x1E, 0xFB, 0x7E, 0xB9, 0x92, 0x28, 0x1E, 0x69,
    0x8F]),
  ((sampleDigest.take 16, [0x00, 0x00, 0x00, 0x00, 0x00, 0x01, 0x00, 0xFA, 0x01, 0x02, 0x03, 0x04, 0x00, 0x00, 0xFF,
    0x02]),
    [0xAE, 0x28, 0x9C, 0x57, 0x89, 0x70, 0xCC, 0xC2, 0xC4, 0x85, 0x1F, 0x6A, 0xAF, 0x32, 0x1D,
    0xE6]),
  ((sampleDigest.take 16, [0x00, 0x00, 0x00, 0x00, 0x00, 0x00, 0x00, 0xFA, 0x09, 0x09, 0x09, 0x09, 0x00, 0x00, 0x00,
    0x08]),
    [0xFF, 0x1C, 0x21, 0x4E, 0xCF, 0xB2, 0x05, 0x2F, 0x2E, 0x37, 0xC8, 0x20, 0xD7, 0x74, 0xB7,
    0x8F]),
  ((sampleDigest.take 16, [0xFF, 0x14, 0x27, 0x5E, 0xC6, 0xE2, 0x05, 0x01, 0x2E, 0x36, 0xCE, 0x30, 0xDE, 0x20, 0xB7,
    0x87]),
    [0x76, 0xE9, 0x67, 0x55, 0x0D, 0xA4, 0xCA, 0x77, 0xBA, 0x1B, 0x16, 0x1A, 0x62, 0xC5, 0x4F,
    0x62]),
  ((sampleDigest.take 16, [0x76, 0xE9, 0x67, 0x55, 0x0D, 0xA4, 0xCA, 0x77, 0xBA, 0x1B, 0x16, 0x1A, 0x62, 0xC5, 0x4F,
    0x62]),
    [0xAC, 0x81, 0x31, 0x66, 0xCF, 0xEC, 0x20, 0x4D, 0x89, 0xAE, 0xCE, 0x91, 0x4F, 0x04, 0x65,
    0x97]),
  ((sampleDigest.take 16, [0x00, 0x00, 0x00, 0x00, 0x00, 0x00, 0x00, 0xFA, 0x09, 0x09, 0x09, 0x09, 0x00, 0x00, 0xFF,
    0x00]),
    [0xB8, 0xDA, 0xD8, 0x57, 0x03, 0x04, 0x57, 0x54, 0xC1, 0xD0, 0xF0, 0xA4, 0x2A, 0x2C, 0x48,
    0x5E]),
  ((sampleDigest.take 16, [0x00, 0x00, 0x00, 0x00, 0x00, 0x00, 0x00, 0xFA, 0x09, 0x09, 0x09, 0x09, 0x00, 0x00, 0xFF,
    0x01]),
    [0x77, 0x28, 0x18, 0xAC, 0x97, 0x9B, 0xCA, 0x0F, 0x52, 0x28, 0x8B, 0x48, 0x7B, 0x2C, 0xD7,
    0x1F]),
  ((sampleDigest.take 16, [0x00, 0x00, 0x00, 0x00, 0x00, 0x02, 0x00, 0xFA, 0x01, 0x02, 0x03, 0x04, 0x00, 0x00, 0x00,
    0x08]),
    [0xAE, 0xB1, 0x2B, 0xA3, 0x46, 0x2C, 0xF5, 0x1D, 0xF0, 0xD0, 0x06, 0x2E, 0xF7, 0x17, 0xC3,
    0xC0]),
  ((sampleDigest.take 16, [0xAE, 0xB9, 0x2D, 0xB3, 0x4F, 0x7C, 0xF5, 0x33, 0xF0, 0xD1, 0x00, 0x3E, 0xFE, 0x43, 0xC3,
    0xC8]),
    [0x53, 0x90, 0xCE, 0xE7, 0xC1, 0x4D, 0x05, 0x61, 0x02, 0x1C, 0x6B, 0x4B, 0x45, 0xAF, 0x68,
    0xE7]),
  ((sampleDigest.take 16, [0x53, 0x90, 0xCE, 0xE7, 0xC1, 0x4D, 0x05, 0x61, 0x02, 0x1C, 0x6B, 0x4B, 0x45, 0xAF, 0x68,
    0xE7]),
    [0x4D, 0x3E, 0x75, 0xE9, 0xAB, 0xE9, 0x86, 0x89, 0x71, 0x44, 0xD2, 0x72, 0x52, 0xAE, 0xED,
    0xB0]),
  ((sampleDigest.take 16, [0x00, 0x00, 0x00, 0x00, 0x00, 0x02, 0x00, 0xFA, 0x01, 0x02, 0x03, 0x04, 0x00, 0x00, 0xFF,
    0x00]),
    [0x67, 0x7D, 0x29, 0x19, 0x26, 0xFD, 0x9E, 0x7B, 0xAE, 0x7C, 0x80, 0x2B, 0x60, 0x66, 0x40,
    0x3E]),
  ((sampleDigest.take 16, [0x00, 0x00, 0x00, 0x00, 0x00, 0x02, 0x00, 0xFA, 0x01, 0x02, 0x03, 0x04, 0x00, 0x00, 0xFF,
    0x01]),
    [0xB3, 0x6B, 0xBA, 0xA1, 0x73, 0x97, 0x56, 0x75, 0x7E, 0x0D, 0x7C, 0x3A, 0x4F, 0x23, 0x68,
    0xDE])]

/-- The cryptography, as far as it is tabulated. -/
def sampleCrypto : Crypto where
  aes := ⟨fun key block => sampleBlocks.lookup (key, block)⟩
  publicFromPrivate := fun clientPrivateKey =>
    if clientPrivateKey = sampleClientPrivateKey then some sampleClientPublicKey else none
  sharedSecret := fun clientPrivateKey serverPublicKey =>
    if clientPrivateKey = sampleClientPrivateKey ∧ serverPublicKey = sampleServerPublicKey then
      some sampleSecret
    else none
  sha256 := fun octets => if octets = sampleSecret then some sampleDigest else none
  pbkdf2 := fun password salt iterations =>
    if password = samplePassword ∧ salt = SecureSession.userPasswordSalt ∧ iterations = 65536 then
      some samplePasswordKey
    else none

def sampleOptions : SecureOptions where
  passwordLatin1 := samplePassword
  clientPrivateKey := sampleClientPrivateKey
  clientSerial := #v[0x00, 0xFA, 0x01, 0x02, 0x03, 0x04]

/-- A session response with an authentication code of zeros. -/
def sampleResponse : List UInt8 :=
  encodeHeader SecureSession.sessionResponse 50 ++ [0x00, 0x01] ++ sampleServerPublicKey
    ++ List.replicate 16 0x00

/-- A plain status of success. -/
def sampleStatus : List UInt8 := encodeHeader SecureSession.sessionStatus 2 ++ [0x00, 0x00]

/-- The same status in a wrapper of the server. -/
def sampleWrappedStatus : List UInt8 :=
  [0x06, 0x10, 0x09, 0x50, 0x00, 0x2E, 0x00, 0x01, 0x00, 0x00, 0x00, 0x00, 0x00, 0x00, 0x00, 0xFA,
  0x09, 0x09, 0x09, 0x09, 0x00, 0x00, 0x71, 0x38, 0x11, 0xF8, 0x97, 0x93, 0xCA, 0x0F, 0x14, 0x5B,
  0xE9, 0x31, 0xCC, 0xE8, 0x77, 0x19, 0x48, 0x7E, 0x3E, 0x35, 0x65, 0x28, 0x2D, 0xC9]

/-- What the authentication is made of. -/
def sampleRequest : AuthenticateRequest where
  session := ⟨sampleDigest.take 16, 1, 2⟩
  wrappedFrame :=
    [0x06, 0x10, 0x09, 0x50, 0x00, 0x3E, 0x00, 0x01, 0x00, 0x00, 0x00, 0x00, 0x00, 0x01, 0x00,
    0xFA, 0x01, 0x02, 0x03, 0x04, 0x00, 0x00, 0x49, 0xD9, 0xF1, 0x65, 0x0B, 0x2D, 0xF4, 0x1F,
    0x9C, 0x9C, 0xBE, 0x57, 0xCC, 0xB5, 0xB6, 0xB1, 0x35, 0x5C, 0xE0, 0x6D, 0xB2, 0x27, 0x6C,
    0x36, 0x0D, 0xA8, 0xC7, 0xCC, 0x80, 0xB6, 0x11, 0x5B, 0x3D, 0x7E, 0xBC, 0x8B, 0x9F, 0xD8,
    0x18, 0x42]

theorem buildAuthenticateRequest_sample :
    SecureSessionBootstrap.buildAuthenticateRequest sampleCrypto sampleOptions sampleClientPublicKey
      sampleResponse 4134 = .done sampleRequest := by decide +kernel

/-! ## Nonces -/

theorem toNat_and_seq48Mask (value : UInt64) :
    (value &&& seq48Mask).toNat = value.toNat % 2 ^ 48 := by
  have hmask : seq48Mask.toNat = 2 ^ 48 - 1 := by decide
  rw [UInt64.toNat_and, hmask, Nat.and_two_pow_sub_one_eq_mod]

theorem encodeSeq48_eq (seq48 : UInt64) : encodeSeq48 seq48 = toOctets 6 (seq48.toNat % 2 ^ 48) := by
  rw [encodeSeq48, toNat_and_seq48Mask]

theorem sized_sessionStamp (sessionId : UInt16) (serial : Vector UInt8 6) (seq48 : UInt64) :
    (sessionStamp sessionId serial seq48).Sized :=
  ⟨length_toOctets 6 _, serial.size_toArray ▸ Array.length_toList, rfl⟩

theorem nonce_sessionStamp_eq_iff {sessionId : UInt16} {serial : Vector UInt8 6}
    {first second : UInt64} :
    (sessionStamp sessionId serial first).nonce = (sessionStamp sessionId serial second).nonce
      ↔ first.toNat % 2 ^ 48 = second.toNat % 2 ^ 48 := by
  have hnonce : (sessionStamp sessionId serial first).nonce
      = (sessionStamp sessionId serial second).nonce
        ↔ encodeSeq48 first = encodeSeq48 second := by
    simp [SecureWrapper.Stamp.nonce, sessionStamp]
  rw [hnonce, encodeSeq48_eq, encodeSeq48_eq]
  constructor
  · intro h
    have hvalue := congrArg ofOctets h
    rw [ofOctets_toOctets, ofOctets_toOctets] at hvalue
    omega
  · intro h
    rw [h]

/-- A session at work: its security, how many wrappings were tried under its key, and the wrappers with
the numbers of their calls. -/
structure Wrappings where
  security : SecureTunnelingSecurity
  calls : Nat
  frames : List (Nat × List UInt8)
  deriving DecidableEq, Repr

/-- A call of the session. -/
inductive SecureCall where
  | protect (inner : List UInt8) (capacity : Nat)
  | unprotect (frame : List UInt8) (capacity : Nat)
  deriving DecidableEq, Repr

namespace Wrappings

/-- A session whose authentication was just built. -/
def authenticated (options : SecureOptions) (request : AuthenticateRequest) : Wrappings where
  security :=
    { sessionKey := request.session.wrapperKey
      sessionId := request.session.sessionId
      serial := options.clientSerial
      seq48 := request.session.nextSequence &&& seq48Mask }
  calls := 1
  frames := [(0, request.wrappedFrame)]

/-- One call. -/
def step (aes : BlockCipher) (w : Wrappings) : SecureCall → Wrappings
  | .unprotect _ _ => w
  | .protect inner capacity =>
      let made := w.security.protect aes inner capacity
      { security := made.1
        calls := if w.security.sessionId = 0 then w.calls else w.calls + 1
        frames := w.frames ++ (made.2.toOption.toList.map fun frame => (w.calls, frame)) }

/-- The session has the stamp of its start, the counter has gone on by one with each call, and each
wrapper has the number of its call. -/
structure Counted (sessionId : UInt16) (serial : Vector UInt8 6) (key : Key) (start : UInt64)
    (w : Wrappings) : Prop where
  sessionKey : w.security.sessionKey = key
  session : w.security.sessionId = sessionId
  serialNumber : w.security.serial = serial
  counter : w.security.seq48.toNat % 2 ^ 48 = (start.toNat + w.calls) % 2 ^ 48
  made : ∀ entry ∈ w.frames, entry.1 < w.calls
    ∧ ∃ number : UInt64, number.toNat % 2 ^ 48 = (start.toNat + entry.1) % 2 ^ 48
      ∧ SecureWrapper.nonceOf entry.2 = (sessionStamp sessionId serial number).nonce
  order : w.frames.Pairwise fun first second => first.1 < second.1

theorem Counted.step {sessionId : UInt16} {serial : Vector UInt8 6} {key : Key} {start : UInt64}
    {w : Wrappings} (h : w.Counted sessionId serial key start) (aes : BlockCipher) (call : SecureCall) :
    (w.step aes call).Counted sessionId serial key start := by
  cases call with
  | unprotect frame capacity => exact h
  | protect inner capacity =>
    rw [Wrappings.step, SecureTunnelingSecurity.protect]
    by_cases hzero : w.security.sessionId = 0
    · rw [if_pos hzero, if_pos hzero]
      dsimp only [Checked.toOption, Option.toList_none]
      rw [List.map_nil, List.append_nil]
      exact h
    · rw [if_neg hzero, if_neg hzero]
      have hnext : (w.security.seq48 + 1).toNat % 2 ^ 48 = (start.toNat + (w.calls + 1)) % 2 ^ 48 := by
        have hcounter := h.counter
        rw [UInt64.toNat_add]
        change (w.security.seq48.toNat + 1) % 2 ^ 64 % 2 ^ 48 = _
        omega
      have hkept : ∀ entry ∈ w.frames, entry.1 < w.calls + 1
          ∧ ∃ number : UInt64, number.toNat % 2 ^ 48 = (start.toNat + entry.1) % 2 ^ 48
            ∧ SecureWrapper.nonceOf entry.2 = (sessionStamp sessionId serial number).nonce := by
        intro entry hentry
        obtain ⟨hlt, hnumber⟩ := h.made entry hentry
        exact ⟨Nat.lt_succ_of_lt hlt, hnumber⟩
      -- the new wrapper has the number that the counter had
      have hnew : ∀ frame, SecureWrapper.wrap aes w.security.sessionKey
          (sessionStamp w.security.sessionId w.security.serial (w.security.seq48 &&& seq48Mask)) inner
            capacity = .done frame →
          ∃ number : UInt64, number.toNat % 2 ^ 48 = (start.toNat + w.calls) % 2 ^ 48
            ∧ SecureWrapper.nonceOf frame = (sessionStamp sessionId serial number).nonce := by
        intro frame hframe
        refine ⟨w.security.seq48 &&& seq48Mask, ?_, ?_⟩
        · rw [toNat_and_seq48Mask, Nat.mod_mod]
          exact h.counter
        · rw [SecureWrapper.nonce_of_wrap (sized_sessionStamp _ _ _) hframe, h.session, h.serialNumber]
      cases hmade : SecureWrapper.wrap aes w.security.sessionKey
          (sessionStamp w.security.sessionId w.security.serial (w.security.seq48 &&& seq48Mask)) inner
            capacity with
      | done frame =>
        refine ⟨h.sessionKey, h.session, h.serialNumber, hnext, ?_, ?_⟩
        · intro entry hentry
          rcases List.mem_append.mp hentry with hold | hnewest
          · exact hkept entry hold
          · rw [List.mem_singleton.mp hnewest]
            exact ⟨Nat.lt_succ_self _, hnew frame hmade⟩
        · refine List.pairwise_append.mpr ⟨h.order, List.pairwise_singleton _ _, ?_⟩
          intro entry hentry newest hnewest
          rw [List.mem_singleton.mp hnewest]
          exact (h.made entry hentry).1
      | fail e =>
        dsimp only [Checked.toOption, Option.toList_none]
        rw [List.map_nil, List.append_nil]
        exact ⟨h.sessionKey, h.session, h.serialNumber, hnext, hkept, h.order⟩
      | outOfBounds i =>
        dsimp only [Checked.toOption, Option.toList_none]
        rw [List.map_nil, List.append_nil]
        exact ⟨h.sessionKey, h.session, h.serialNumber, hnext, hkept, h.order⟩

theorem counted_authenticated {crypto : Crypto} {options : SecureOptions}
    {clientPublicKey response : List UInt8} {capacity : Nat} {request : AuthenticateRequest}
    (h : SecureSessionBootstrap.buildAuthenticateRequest crypto options clientPublicKey response
      capacity = .done request) :
    (authenticated options request).Counted request.session.sessionId options.clientSerial
      request.session.wrapperKey options.initialSeq := by
  obtain ⟨parsed, sessionKey, authPlain, wrappedFrame, -, -, hwrapped, rfl⟩ :=
    SecureSessionBootstrap.buildAuthenticateRequest_cases h
  have hnonce := SecureWrapper.nonce_of_wrap (sized_sessionStamp _ _ _) hwrapped
  refine ⟨rfl, rfl, rfl, ?_, ?_, List.pairwise_singleton _ _⟩
  · change ((((options.initialSeq &&& seq48Mask) + 1) &&& seq48Mask) &&& seq48Mask).toNat % 2 ^ 48
      = (options.initialSeq.toNat + 1) % 2 ^ 48
    rw [toNat_and_seq48Mask, toNat_and_seq48Mask, UInt64.toNat_add, toNat_and_seq48Mask]
    change (options.initialSeq.toNat % 2 ^ 48 + 1) % 2 ^ 64 % 2 ^ 48 % 2 ^ 48 % 2 ^ 48 = _
    omega
  · intro entry hentry
    rw [List.mem_singleton.mp hentry]
    refine ⟨Nat.one_pos, options.initialSeq &&& seq48Mask, ?_, hnonce⟩
    rw [toNat_and_seq48Mask, Nat.mod_mod]
    rfl

/-- Nonces and replay. The wrappers of a session, the authentication first, have different nonces
as long as there are at most 2^48 calls; the counter then starts again. Unwrapping looks at the key,
the session and the octets alone, so what is accepted at one time is accepted at every other. -/
theorem nonces_of_session {crypto : Crypto} {options : SecureOptions}
    {clientPublicKey response : List UInt8} {capacity : Nat} {request : AuthenticateRequest}
    (h : SecureSessionBootstrap.buildAuthenticateRequest crypto options clientPublicKey response
      capacity = .done request) (calls : List SecureCall) :
    ((run (step crypto.aes) (authenticated options request) calls).calls ≤ 2 ^ 48 →
        ((run (step crypto.aes) (authenticated options request) calls).frames.map
          fun entry => SecureWrapper.nonceOf entry.2).Nodup)
      ∧ (∀ first ∈ (run (step crypto.aes) (authenticated options request) calls).frames,
        ∀ second ∈ (run (step crypto.aes) (authenticated options request) calls).frames,
          SecureWrapper.nonceOf first.2 = SecureWrapper.nonceOf second.2
            ↔ first.1 % 2 ^ 48 = second.1 % 2 ^ 48)
      ∧ ∀ frame size,
        (run (step crypto.aes) (authenticated options request) calls).security.unprotect crypto.aes
            frame size
          = (authenticated options request).security.unprotect crypto.aes frame size := by
  have hstep : ∀ (w : Wrappings) (call : SecureCall),
      w.Counted request.session.sessionId options.clientSerial request.session.wrapperKey
        options.initialSeq →
      (w.step crypto.aes call).Counted request.session.sessionId options.clientSerial
        request.session.wrapperKey options.initialSeq := fun _ call hw => hw.step crypto.aes call
  have hcounted := run_invariant hstep (counted_authenticated h) calls
  generalize run (step crypto.aes) (authenticated options request) calls = w at hcounted ⊢
  have hiff : ∀ first ∈ w.frames, ∀ second ∈ w.frames,
      SecureWrapper.nonceOf first.2 = SecureWrapper.nonceOf second.2
        ↔ first.1 % 2 ^ 48 = second.1 % 2 ^ 48 := by
    intro first hfirst second hsecond
    obtain ⟨-, number, hnumber, hnonce⟩ := hcounted.made first hfirst
    obtain ⟨-, number', hnumber', hnonce'⟩ := hcounted.made second hsecond
    rw [hnonce, hnonce', nonce_sessionStamp_eq_iff, hnumber, hnumber']
    omega
  refine ⟨?_, hiff, ?_⟩
  · intro hfew
    rw [List.Nodup, List.pairwise_map]
    refine hcounted.order.imp_of_mem ?_
    intro first second hfirst hsecond hlt hsame
    have hperiod := (hiff first hfirst second hsecond).mp hsame
    have hbound := (hcounted.made first hfirst).1
    have hbound' := (hcounted.made second hsecond).1
    omega
  · intro frame size
    rw [SecureTunnelingSecurity.unprotect, SecureTunnelingSecurity.unprotect, hcounted.session,
      hcounted.sessionKey]
    rfl

/-- The authentication and one more wrapper have different nonces. -/
theorem sample_nonces_distinct :
    ((run (step sampleCrypto.aes) (authenticated sampleOptions sampleRequest)
      [.protect sampleStatus 100]).frames.map fun entry => SecureWrapper.nonceOf entry.2).Nodup :=
  (nonces_of_session buildAuthenticateRequest_sample [.protect sampleStatus 100]).1
    (by decide +kernel)

/-- A wrapper of the server is unwrapped, and unwrapped again. -/
theorem replayed_wrapper_accepted :
    (authenticated sampleOptions sampleRequest).security.unprotect sampleCrypto.aes
        sampleWrappedStatus 4096 = .done sampleStatus
      ∧ (run (step sampleCrypto.aes) (authenticated sampleOptions sampleRequest)
          [.unprotect sampleWrappedStatus 4096]).security.unprotect sampleCrypto.aes
            sampleWrappedStatus 4096 = .done sampleStatus := by
  decide +kernel

end Wrappings

/-! ## Opening by polling -/

/-- `OpenStage`. -/
inductive OpenStage where
  | waitingSessionResponse
  | waitingSessionStatus
  deriving DecidableEq, Repr

/-- `OpenOperation`, while it is active. -/
structure OpenOperation where
  stage : OpenStage := .waitingSessionResponse
  options : SecureOptions
  clientPublicKey : List UInt8
  negotiatedSession : NegotiatedSession := ⟨[], 0, 0⟩
  deriving DecidableEq, Repr

/-- `SecureTunnelingClient`, as far as the handshake goes. -/
structure SecureTunnelingClient where
  socketOpen : Bool := false
  security : Option SecureTunnelingSecurity := none
  openOperation : Option OpenOperation := none
  deriving DecidableEq, Repr

/-- What the socket has for one call of `pollOpen`. -/
inductive Polled where
  /-- The wait fails. -/
  | waitFailed (error : ErrorCode)
  /-- Nothing is there; the time may be over. -/
  | nothing (timedOut : Bool)
  /-- Reading the frame fails. -/
  | readFailed (error : ErrorCode)
  /-- A frame is read; whatever is written then may fail. -/
  | frame (octets : List UInt8) (written : Bool)
  deriving DecidableEq, Repr

namespace SecureTunnelingClient

/-- `kMaxTcpFrameLen`. -/
def maxTcpFrameLen : Nat := 4096

/-- `isOpen`. -/
def isOpen (c : SecureTunnelingClient) : Bool := c.socketOpen && c.security.isSome

/-- `beginOpen`, once the socket is connected and the session request is sent. -/
def begun (options : SecureOptions) (clientPublicKey : List UInt8) : SecureTunnelingClient where
  socketOpen := true
  openOperation := some { options := options, clientPublicKey := clientPublicKey }

/-- A result of a computation that reads inside its buffers. -/
def reported {α : Type} (x : Checked ErrorCode α) : Result α :=
  match x with
  | .done a => .ok a
  | .fail e => .error e
  | .outOfBounds _ => .error .unknownError

/-- The frame that `pollOpen` reads in the first stage. -/
def onSessionResponse (crypto : Crypto) (c : SecureTunnelingClient) (operation : OpenOperation)
    (octets : List UInt8) (written : Bool) :
    SecureTunnelingClient × Result OperationProgressState :=
  match reported (SecureSessionBootstrap.buildAuthenticateRequest crypto operation.options
      operation.clientPublicKey octets (maxTcpFrameLen + SecureWrapper.overhead)) with
  | .error e => ({}, .error e)
  | .ok request =>
      if !written then ({}, .error .transmissionFailed)
      else
        let waiting :=
          { operation with negotiatedSession := request.session, stage := .waitingSessionStatus }
        ({ c with openOperation := some waiting }, .ok .pending)

/-- The frame that `pollOpen` reads in the second stage. -/
def onSessionStatus (crypto : Crypto) (c : SecureTunnelingClient) (operation : OpenOperation)
    (octets : List UInt8) : SecureTunnelingClient × Result OperationProgressState :=
  match reported (SecureSessionBootstrap.decodeSessionStatus crypto.aes operation.negotiatedSession
      octets maxTcpFrameLen) with
  | .error e => ({}, .error e)
  | .ok status =>
      if status ≠ 0x00 then ({}, .error .operationFailed)
      else
        ({ c with
            security := some
              { sessionKey := operation.negotiatedSession.wrapperKey
                sessionId := operation.negotiatedSession.sessionId
                serial := operation.options.clientSerial
                seq48 := operation.negotiatedSession.nextSequence &&& seq48Mask }
            openOperation := none },
          .ok .success)

/-- `pollOpen`; every error closes the client. -/
def pollOpen (crypto : Crypto) (c : SecureTunnelingClient) (polled : Polled) :
    SecureTunnelingClient × Result OperationProgressState :=
  match c.openOperation with
  | none => (c, if c.isOpen then .ok .success else .error .operationNotReady)
  | some operation =>
      match polled with
      | .waitFailed e => ({}, .error e)
      | .nothing timedOut => if timedOut then ({}, .ok .timeout) else (c, .ok .pending)
      | .readFailed e => ({}, .error e)
      | .frame octets written =>
          match operation.stage with
          | .waitingSessionResponse => c.onSessionResponse crypto operation octets written
          | .waitingSessionStatus => c.onSessionStatus crypto operation octets

/-- The client after a poll. -/
def step (crypto : Crypto) (c : SecureTunnelingClient) (polled : Polled) : SecureTunnelingClient :=
  (c.pollOpen crypto polled).1

/-- The frames that the polls read. -/
def framesOf (polls : List Polled) : List (List UInt8) :=
  polls.filterMap fun polled =>
    match polled with
    | .frame octets _ => some octets
    | _ => none

/-- The frame is a session response, and the key follows from it. -/
def Responds (crypto : Crypto) (options : SecureOptions) (frame : List UInt8)
    (sessionId : UInt16) (key : Key) : Prop :=
  ∃ response, SecureSession.decodeSessionResponse frame = .done response
    ∧ response.sessionId = sessionId
    ∧ SecureSession.deriveSessionKey crypto options.clientPrivateKey response.serverPublicKey = some key

/-- The frame is a status of success, plain or in a wrapper that verifies under the key. -/
def Confirms (crypto : Crypto) (sessionId : UInt16) (key : Key) (frame : List UInt8) : Prop :=
  SecureSession.decodeSessionStatus frame = .done 0x00
    ∨ ∃ inner, SecureWrapper.unwrapAndVerify crypto.aes key sessionId frame maxTcpFrameLen = .done inner
      ∧ SecureSession.decodeSessionStatus inner = .done 0x00

/-- A session response was received, and after it a status of success. -/
def Opens (crypto : Crypto) (options : SecureOptions) (frames : List (List UInt8)) : Prop :=
  ∃ first second sessionId key, [first, second].Sublist frames
    ∧ Responds crypto options first sessionId key ∧ Confirms crypto sessionId key second

/-- What has been received at each point of the handshake. -/
def Reached (crypto : Crypto) (options : SecureOptions) (frames : List (List UInt8))
    (c : SecureTunnelingClient) : Prop :=
  match c.openOperation with
  | some operation =>
      operation.options = options ∧ (operation.stage = .waitingSessionStatus →
        ∃ first ∈ frames, Responds crypto options first operation.negotiatedSession.sessionId
          operation.negotiatedSession.wrapperKey)
  | none => c.security.isSome = true → Opens crypto options frames

section Handshake

variable {crypto : Crypto} {options : SecureOptions} {frames : List (List UInt8)}

theorem reached_closed : Reached crypto options frames {} := by
  intro h
  cases h

theorem Reached.more {c : SecureTunnelingClient} (h : Reached crypto options frames c)
    (later : List (List UInt8)) : Reached crypto options (frames ++ later) c := by
  rw [Reached] at h ⊢
  cases hoperation : c.openOperation with
  | none =>
    rw [hoperation] at h
    intro hsecure
    obtain ⟨first, second, sessionId, key, hsub, hopens⟩ := h hsecure
    exact ⟨first, second, sessionId, key, hsub.trans (List.sublist_append_left _ _), hopens⟩
  | some operation =>
    rw [hoperation] at h
    obtain ⟨hoptions, hstage⟩ := h
    refine ⟨hoptions, ?_⟩
    intro hwaiting
    obtain ⟨first, hfirst, hresponds⟩ := hstage hwaiting
    exact ⟨first, List.mem_append_left _ hfirst, hresponds⟩

theorem reported_eq_ok {α : Type} {x : Checked ErrorCode α} {a : α} (h : reported x = .ok a) :
    x = .done a := by
  cases x with
  | done b =>
    cases h
    rfl
  | fail e => cases h
  | outOfBounds i => cases h

theorem responds_of_build {clientPublicKey response : List UInt8} {capacity : Nat}
    {request : AuthenticateRequest}
    (h : SecureSessionBootstrap.buildAuthenticateRequest crypto options clientPublicKey response
      capacity = .done request) :
    Responds crypto options response request.session.sessionId request.session.wrapperKey := by
  obtain ⟨parsed, sessionKey, authPlain, wrappedFrame, hparsed, hkey, -, rfl⟩ :=
    SecureSessionBootstrap.buildAuthenticateRequest_cases h
  exact ⟨parsed, hparsed, rfl, hkey⟩

theorem confirms_of_decode {session : NegotiatedSession} {octets : List UInt8}
    (h : SecureSessionBootstrap.decodeSessionStatus crypto.aes session octets maxTcpFrameLen
      = .done 0x00) : Confirms crypto session.sessionId session.wrapperKey octets := by
  rw [SecureSessionBootstrap.decodeSessionStatus] at h
  obtain ⟨header, -, h⟩ := Checked.bind_eq_done.mp h
  split at h
  · obtain ⟨inner, hinner, hstatus⟩ := Checked.bind_eq_done.mp h
    exact .inr ⟨inner, failAs_eq_done.mp hinner, failAs_eq_done.mp hstatus⟩
  · exact .inl (failAs_eq_done.mp h)

theorem Reached.onSessionResponse {c : SecureTunnelingClient} {operation : OpenOperation}
    (hoptions : operation.options = options) (octets : List UInt8) (written : Bool) :
    Reached crypto options (frames ++ [octets])
      (c.onSessionResponse crypto operation octets written).1 := by
  rw [SecureTunnelingClient.onSessionResponse]
  cases hbuilt : reported (SecureSessionBootstrap.buildAuthenticateRequest crypto operation.options
      operation.clientPublicKey octets (maxTcpFrameLen + SecureWrapper.overhead)) with
  | error e => exact reached_closed
  | ok request =>
    dsimp only
    split
    · exact reached_closed
    · have hresponds := responds_of_build (reported_eq_ok hbuilt)
      rw [hoptions] at hresponds
      refine ⟨hoptions, fun _ => ⟨octets, ?_, hresponds⟩⟩
      exact List.mem_append_right _ List.mem_cons_self

theorem Reached.onSessionStatus {c : SecureTunnelingClient} {operation : OpenOperation}
    (hresponse : ∃ first ∈ frames, Responds crypto options first
      operation.negotiatedSession.sessionId operation.negotiatedSession.wrapperKey)
    (octets : List UInt8) :
    Reached crypto options (frames ++ [octets]) (c.onSessionStatus crypto operation octets).1 := by
  rw [SecureTunnelingClient.onSessionStatus]
  cases hdecoded : reported (SecureSessionBootstrap.decodeSessionStatus crypto.aes
      operation.negotiatedSession octets maxTcpFrameLen) with
  | error e => exact reached_closed
  | ok status =>
    dsimp only
    by_cases hstatus : status = 0x00
    · subst hstatus
      rw [if_neg (not_not.mpr rfl)]
      obtain ⟨first, hfirst, hresponds⟩ := hresponse
      intro _
      have hsub : [first, octets].Sublist (frames ++ [octets]) :=
        (List.singleton_sublist.mpr hfirst).append (List.Sublist.refl [octets])
      exact ⟨first, octets, _, _, hsub, hresponds, confirms_of_decode (reported_eq_ok hdecoded)⟩
    · rw [if_pos hstatus]
      exact reached_closed

theorem Reached.step {c : SecureTunnelingClient} (h : Reached crypto options frames c)
    (polled : Polled) :
    Reached crypto options (frames ++ framesOf [polled]) (c.step crypto polled) := by
  have hmore := h.more (framesOf [polled])
  rw [SecureTunnelingClient.step, pollOpen]
  cases hoperation : c.openOperation with
  | none => exact hmore
  | some operation =>
    rw [Reached, hoperation] at h
    obtain ⟨hoptions, hstage⟩ := h
    cases polled with
    | waitFailed e => exact reached_closed
    | readFailed e => exact reached_closed
    | nothing timedOut =>
      dsimp only
      split
      · exact reached_closed
      · exact hmore
    | frame octets written =>
      dsimp only
      cases hwhich : operation.stage with
      | waitingSessionResponse => exact Reached.onSessionResponse hoptions octets written
      | waitingSessionStatus => exact Reached.onSessionStatus (hstage hwhich) octets

theorem framesOf_append (first second : List Polled) :
    framesOf (first ++ second) = framesOf first ++ framesOf second := List.filterMap_append

theorem Reached.run (polls : List Polled) :
    ∀ {c : SecureTunnelingClient} {frames : List (List UInt8)}, Reached crypto options frames c →
      Reached crypto options (frames ++ framesOf polls)
        (KnxStack.Lib.run (SecureTunnelingClient.step crypto) c polls) := by
  induction polls with
  | nil =>
    intro c frames h
    exact h.more _
  | cons polled polls ih =>
    intro c frames h
    have hrest := ih (h.step polled)
    rw [List.append_assoc, ← framesOf_append] at hrest
    exact hrest

theorem secured_of_success {c : SecureTunnelingClient} {polled : Polled}
    (h : (c.pollOpen crypto polled).2 = .ok .success) :
    (c.step crypto polled).openOperation = none ∧ (c.step crypto polled).security.isSome = true := by
  rw [SecureTunnelingClient.step]
  rw [pollOpen] at h ⊢
  cases hoperation : c.openOperation with
  | none =>
    rw [hoperation] at h
    dsimp only at h ⊢
    split at h
    · rename_i hopen
      rw [isOpen, Bool.and_eq_true] at hopen
      exact ⟨hoperation, hopen.2⟩
    · cases h
  | some operation =>
    rw [hoperation] at h
    cases polled with
    | waitFailed e => cases h
    | readFailed e => cases h
    | nothing timedOut =>
      dsimp only at h
      split at h
      · cases h
      · cases h
    | frame octets written =>
      dsimp only at h ⊢
      cases hwhich : operation.stage with
      | waitingSessionResponse =>
        rw [hwhich] at h
        dsimp only [SecureTunnelingClient.onSessionResponse] at h
        split at h
        · cases h
        · split at h
          · cases h
          · cases h
      | waitingSessionStatus =>
        rw [hwhich] at h
        dsimp only [SecureTunnelingClient.onSessionStatus] at h ⊢
        split at h
        · cases h
        · split at h
          · cases h
          · rename_i hzero
            rw [if_neg hzero]
            exact ⟨rfl, rfl⟩

end Handshake

/-- A session opens for a peer that knows the key or says so. Whatever is polled, success is
reported only after a well-formed session response and, later, a status of success: in a wrapper that
verifies under the key that follows from the response, or plain. -/
theorem success_of_pollOpen (crypto : Crypto) (options : SecureOptions) (clientPublicKey : List UInt8)
    (polls : List Polled) (last : Polled)
    (h : ((run (SecureTunnelingClient.step crypto) (begun options clientPublicKey) polls).pollOpen
      crypto last).2 = .ok .success) : Opens crypto options (framesOf (polls ++ [last])) := by
  have hbegun : Reached crypto options [] (begun options clientPublicKey) :=
    ⟨rfl, fun hwaiting => by cases hwaiting⟩
  have hreached := (Reached.run polls hbegun).step last
  obtain ⟨hclosed, hsecured⟩ := secured_of_success h
  rw [Reached, hclosed] at hreached
  rw [framesOf_append]
  exact hreached hsecured

/-- A session that opens on a wrapped status. -/
theorem sample_session_opens :
    Opens sampleCrypto sampleOptions [sampleResponse, sampleWrappedStatus] :=
  success_of_pollOpen sampleCrypto sampleOptions sampleClientPublicKey [.frame sampleResponse true]
    (.frame sampleWrappedStatus true) (by decide +kernel)

/-- A session opens on a plain status, which verifies under no key. -/
theorem plain_status_accepted :
    ((run (SecureTunnelingClient.step sampleCrypto) (begun sampleOptions sampleClientPublicKey)
        [.frame sampleResponse true]).pollOpen sampleCrypto (.frame sampleStatus true)).2
      = .ok .success
    ∧ (∀ key sessionId inner,
        SecureWrapper.unwrapAndVerify sampleCrypto.aes key sessionId sampleStatus maxTcpFrameLen
          ≠ .done inner)
    ∧ ∀ key sessionId inner,
        SecureWrapper.unwrapAndVerify sampleCrypto.aes key sessionId sampleResponse maxTcpFrameLen
          ≠ .done inner := by
  have hnot : ∀ (frame : List UInt8) (header : KnxNetIpHeader),
      decodeHeader frame = .done header → header.serviceType ≠ SecureWrapper.serviceType →
      ∀ key sessionId inner, SecureWrapper.unwrapAndVerify sampleCrypto.aes key sessionId frame
        maxTcpFrameLen ≠ .done inner := by
    intro frame header hdecoded htype key sessionId inner hdone
    rw [SecureWrapper.unwrapAndVerify, hdecoded, Checked.done_bind] at hdone
    obtain ⟨-, hdone⟩ := Checked.guard_eq_done.mp hdone
    obtain ⟨hsame, -⟩ := Checked.guard_eq_done.mp hdone
    exact hsame htype
  refine ⟨by decide +kernel, hnot sampleStatus ⟨SecureSession.sessionStatus, 8⟩ (by decide) (by decide),
    hnot sampleResponse ⟨SecureSession.sessionResponse, 56⟩ (by decide) (by decide)⟩

end SecureTunnelingClient

end KnxStack.Netip
