import KnxStack.Bau.ReplayProtection
import KnxStack.Bau.NonceFreshness

/-!
# Runs of the secure application layer

The layer and the object that it works on, from any state: frames come in and go out in any order,
and a management client writes to the object, clears its tables and reconciles the Security Individual
Address Table with the live numbers.

- `replay_window_closed`: last valid numbers never fall, no number is unwrapped twice, and what is
  unwrapped was verified.
- `sent_numbers_increase`: while the 48-bit counter lasts, the numbers of what is sent increase.
- `counter_runs_over`: it is not checked whether it lasts, and the number after the last one is zero.
-/

set_option autoImplicit false

namespace KnxStack.Bau

open KnxStack.Lib KnxStack.Lib.Octets KnxStack.Objects KnxStack.Security
open SecureApplicationLayer

/-- What the layer and its object are called for. -/
inductive LayerEvent where
  | receive (around : Surroundings) (info : SecureFrameInfo) (tpdu : List UInt8)
  | send (info : SecureFrameInfo) (plainTpdu : List UInt8)
  | writeProperty (p : SecurityProperty) (startIndex : Nat) (value : List UInt8)
  | loadControlReset
  | syncSequencesFromAddressTable

/-- The layer with its object, and what it unwrapped and sent in a run. -/
structure LayerRun where
  layer : SecureApplicationLayer := {}
  object : SecurityInterfaceObject := {}
  unwrapped : List (SecureFrameInfo × List UInt8) := []
  sent : List (List UInt8) := []

/-- The secured frame in what goes out. -/
def securedFrames : Outgoing → List (List UInt8)
  | .secured tpdu => [tpdu]
  | .plain => []
  | .failed => []

/-- One call. -/
def LayerRun.step (aes : BlockCipher) (r : LayerRun) : LayerEvent → LayerRun
  | .receive around info tpdu =>
      let received := r.layer.processIncoming aes r.object around info tpdu
      { r with
        layer := received.1
        object := received.2.1
        unwrapped := r.unwrapped
          ++ if received.2.2.disposition = .unwrapped then [(info, tpdu)] else [] }
  | .send info plainTpdu =>
      let sent := r.layer.processOutgoing aes r.object info plainTpdu
      { r with object := sent.1, sent := r.sent ++ securedFrames sent.2 }
  | .writeProperty p startIndex value =>
      { r with object := (r.object.writeProperty p startIndex value).getD r.object }
  | .loadControlReset => { r with object := r.object.loadControlReset }
  | .syncSequencesFromAddressTable => { r with object := r.object.syncSequencesFromAddressTable }

/-! ## Verification -/

/-- The authentication code of an S-A_Data PDU verifies under a key: decrypted, it is the code of
the decrypted payload. -/
def MacVerifies (aes : BlockCipher) (key : Key) (info : SecureFrameInfo) (tpdu : List UInt8) : Prop :=
  ∃ counter0 combined block0 mac,
    buildSecureCounter0 info (slice tpdu 3 6) = some counter0
      ∧ ctrCrypt aes key counter0 (slice tpdu (tpdu.length - 4) 4 ++ slice tpdu 9 (tpdu.length - 13))
        = some combined
      ∧ buildSecureBlock0 info (slice tpdu 3 6) (combined.drop 4).length = some block0
      ∧ cbcMac aes key block0 [tpdu.getD 2 0] (combined.drop 4) = some mac
      ∧ mac.take 4 = combined.take 4

theorem encode_of_decode : ∀ (raw : UInt8) (scf : SecurityControlField),
    SecurityControlField.decode raw = some scf → scf.encode = raw := by
  have hall : ∀ n : Fin 256, ∀ scf ∈ SecurityControlField.decode (UInt8.ofNat n.val),
      scf.encode = UInt8.ofNat n.val := by
    decide +kernel
  intro raw scf h
  have hraw : UInt8.ofNat raw.toNat = raw := UInt8.ofNat_toNat
  have hscf := hall ⟨raw.toNat, raw.toNat_lt⟩ scf
  rw [hraw] at hscf
  exact hscf h

theorem ccmDecrypt_verified {aes : BlockCipher} {key : Key} {info : SecureFrameInfo}
    {nonce cipher mac plain : List UInt8} {scf : UInt8} {capacity : Nat}
    (h : ccmDecrypt aes key info nonce scf [] cipher mac capacity = some plain) :
    ∃ counter0 combined block0 computed,
      buildSecureCounter0 info nonce = some counter0
        ∧ ctrCrypt aes key counter0 (mac ++ cipher) = some combined
        ∧ buildSecureBlock0 info nonce (combined.drop 4).length = some block0
        ∧ cbcMac aes key block0 [scf] (combined.drop 4) = some computed
        ∧ computed.take 4 = combined.take 4 := by
  rw [ccmDecrypt] at h
  split at h
  · cases h
  · obtain ⟨counter0, hcounter, h⟩ := Option.bind_eq_some_iff.mp h
    obtain ⟨combined, hcombined, h⟩ := Option.bind_eq_some_iff.mp h
    obtain ⟨block0, hblock, h⟩ := Option.bind_eq_some_iff.mp h
    rw [if_neg (by decide)] at h
    obtain ⟨computed, hcomputed, h⟩ := Option.bind_eq_some_iff.mp h
    split at h
    · rename_i hsame
      exact ⟨counter0, combined, block0, computed, hcounter, hcombined, hblock, hcomputed, hsame⟩
    · cases h

/-- What it takes to be unwrapped. -/
structure Verified (aes : BlockCipher) (o : SecurityInterfaceObject) (info : SecureFrameInfo)
    (tpdu : List UInt8) (toolAccess : Bool) (seq : Nat) : Prop where
  data : secureData tpdu = some (toolAccess, seq)
  newer : lastValid o info.source toolAccess < seq
  mac : ∃ key, selectKey o info info.source toolAccess = some key ∧ MacVerifies aes key info tpdu

theorem handleSyncRequest_not_unwrapped (aes : BlockCipher) (l : SecureApplicationLayer)
    (o : SecurityInterfaceObject) (around : Surroundings) (info : SecureFrameInfo)
    (scf : SecurityControlField) (tpdu : List UInt8) :
    (l.handleSyncRequest aes o around info scf tpdu).2.2.disposition ≠ .unwrapped := by
  simp only [handleSyncRequest]
  repeat' split
  all_goals
    intro h
    cases h

/-- What `handleData` unwraps is newer and was verified. -/
theorem verified_of_handleData {aes : BlockCipher} {l : SecureApplicationLayer}
    {o : SecurityInterfaceObject} {info : SecureFrameInfo} {scf : SecurityControlField}
    {tpdu : List UInt8} (hsecure : isSecureApdu tpdu = true)
    (hscf : SecurityControlField.decode (tpdu.getD 2 0) = some scf) (hservice : scf.service = .data)
    (h : (l.handleData aes o info scf tpdu).2.2.disposition = .unwrapped) :
    Verified aes o info tpdu scf.toolAccess (ofOctets (slice tpdu 3 6)) := by
  simp only [handleData] at h
  split at h
  · cases h
  next hlength =>
    split at h
    · cases h
    · split at h
      · cases h
      next hnew =>
        split at h
        · cases h
        next key hkey =>
          split at h
          · cases h
          next plain hplain =>
            have hnonce : toOctets 6 (ofOctets (slice tpdu 3 6)) = slice tpdu 3 6 := by
              have hsix : (slice tpdu 3 6).length = 6 := by
                rw [slice, List.length_take, List.length_drop]
                omega
              have hsame := toOctets_ofOctets (slice tpdu 3 6)
              rwa [hsix] at hsame
            have hmac : 9 + (tpdu.length - 13) = tpdu.length - 4 := by omega
            rw [hnonce, hmac, encode_of_decode _ _ hscf] at hplain
            refine ⟨?_, Nat.lt_of_not_le hnew, key, hkey, ccmDecrypt_verified hplain⟩
            rw [secureData, if_pos ⟨hsecure, Nat.le_of_not_lt hlength⟩, hscf]
            simp only [hservice, if_true]

theorem verified_of_unwrapped {aes : BlockCipher} {l : SecureApplicationLayer}
    {o : SecurityInterfaceObject} {around : Surroundings} {info : SecureFrameInfo}
    {tpdu : List UInt8}
    (h : (l.processIncoming aes o around info tpdu).2.2.disposition = .unwrapped) :
    ∃ toolAccess seq, Verified aes o info tpdu toolAccess seq := by
  simp only [processIncoming] at h
  split at h
  · split at h <;> cases h
  next hsecure =>
    split at h
    · cases h
    · split at h
      · cases h
      · split at h
        · cases h
        next scf hscf =>
          split at h
          next hservice =>
            have hsecure' : isSecureApdu tpdu = true := by simpa using hsecure
            exact ⟨_, _, verified_of_handleData hsecure' hscf hservice h⟩
          next => exact absurd h (handleSyncRequest_not_unwrapped aes _ o around info scf tpdu)
          next => cases h

/-! ## The replay window -/

theorem le_syncEntry (state : (UInt16 → Nat) × List UInt8) (index : Nat) (address : UInt16) :
    state.1 address ≤ (SecurityIaTable.syncEntry state index).1 address := by
  simp only [SecurityIaTable.syncEntry]
  split
  next hraised =>
    dsimp only
    by_cases hsame : address = SecurityIaTable.addressAt state.2 index
    · rw [hsame, Function.update_self]
      exact Nat.le_of_lt hraised
    · rw [Function.update_of_ne hsame]
  next =>
    split
    · exact Nat.le_refl _
    · exact Nat.le_refl _

theorem le_sync (live : UInt16 → Nat) (blob : List UInt8) (address : UInt16) :
    live address ≤ (SecurityIaTable.sync live blob).1 address := by
  have hloop : ∀ (indices : List Nat) (state : (UInt16 → Nat) × List UInt8),
      state.1 address ≤ (indices.foldl SecurityIaTable.syncEntry state).1 address := by
    intro indices
    induction indices with
    | nil =>
      intro state
      exact Nat.le_refl _
    | cons index indices ih =>
      intro state
      exact Nat.le_trans (le_syncEntry state index address) (ih _)
  exact hloop _ (live, blob)

theorem noLower_refl (o : SecurityInterfaceObject) : NoLower o o := fun _ _ => Nat.le_refl _

theorem noLower_syncSequencesFromAddressTable (o : SecurityInterfaceObject) :
    NoLower o o.syncSequencesFromAddressTable := by
  rw [SecurityInterfaceObject.syncSequencesFromAddressTable]
  split
  · exact noLower_refl o
  next blob hblob =>
    intro source toolAccess
    cases toolAccess with
    | true => exact Nat.le_refl _
    | false => exact le_sync o.peerSequences blob source.raw

theorem noLower_of_received {o o' : SecurityInterfaceObject} {info : SecureFrameInfo}
    {tpdu : List UInt8} {r : SecureRxResult} (h : Received o info tpdu o' r) : NoLower o o' := by
  cases h with
  | nothing r hr => exact noLower_refl o
  | failure failure r hr => exact noLower_refl o
  | accepted toolAccess seq r hdata hnew =>
    exact fun other access => le_lastValid_setLastValid (Nat.le_of_lt hnew) other access
  | synchronised toolAccess seq r hr hold hfits =>
    exact fun other access => le_lastValid_setLastValid hold other access

theorem le_lastValid_of_received {o o' : SecurityInterfaceObject} {info : SecureFrameInfo}
    {tpdu : List UInt8} {r : SecureRxResult} (h : Received o info tpdu o' r)
    (hunwrapped : r.disposition = .unwrapped) :
    ∃ toolAccess seq, secureData tpdu = some (toolAccess, seq)
      ∧ seq ≤ lastValid o' info.source toolAccess := by
  cases h with
  | nothing r hr => exact absurd hunwrapped hr
  | failure failure r hr => exact absurd hunwrapped hr
  | accepted toolAccess seq r hdata hnew =>
    exact ⟨toolAccess, seq, hdata,
      Nat.le_of_eq (lastValid_setLastValid_self o info.source toolAccess seq).symm⟩
  | synchronised toolAccess seq r hr hold hfits => exact absurd hunwrapped hr

theorem LayerRun.noLower_step (aes : BlockCipher) (r : LayerRun) (e : LayerEvent) :
    NoLower r.object (r.step aes e).object := by
  cases e with
  | receive around info tpdu =>
    exact noLower_of_received (received_processIncoming aes r.layer r.object info around)
  | send info plainTpdu =>
    rcases processOutgoing_cases aes r.layer r.object info plainTpdu with ⟨hsame, -⟩ | ⟨hsame, -⟩
    · change NoLower r.object (r.layer.processOutgoing aes r.object info plainTpdu).1
      rw [hsame]
      exact noLower_refl r.object
    · change NoLower r.object (r.layer.processOutgoing aes r.object info plainTpdu).1
      rw [hsame]
      exact noLower_refl r.object
  | writeProperty p startIndex value =>
    change NoLower r.object ((r.object.writeProperty p startIndex value).getD r.object)
    cases hwritten : r.object.writeProperty p startIndex value with
    | none => exact noLower_refl r.object
    | some o =>
      exact noLower_of_sameNumbers (SecurityInterfaceObject.written_writeProperty hwritten).keeps.1
  | loadControlReset => exact noLower_refl r.object
  | syncSequencesFromAddressTable => exact noLower_syncSequencesFromAddressTable r.object

theorem LayerRun.noLower_run (aes : BlockCipher) (r : LayerRun) (events : List LayerEvent) :
    NoLower r.object (run (LayerRun.step aes) r events).object := by
  induction events generalizing r with
  | nil => exact noLower_refl r.object
  | cons e events ih =>
    intro source toolAccess
    exact Nat.le_trans (r.noLower_step aes e source toolAccess) (ih _ source toolAccess)

/-- Of two frames of one sender with one kind of access, the later one has the higher number. -/
def Older (earlier later : SecureFrameInfo × List UInt8) : Prop :=
  earlier.1.source = later.1.source → ∀ toolAccess seq seq',
    secureData earlier.2 = some (toolAccess, seq) → secureData later.2 = some (toolAccess, seq') →
      seq < seq'

/-- What was unwrapped is remembered, and was newer each time. -/
structure LayerRun.Closed (r : LayerRun) : Prop where
  remembered : Remembered r.object r.unwrapped
  increasing : r.unwrapped.Pairwise Older

theorem LayerRun.Closed.append {r : LayerRun} (h : r.Closed) {aes : BlockCipher}
    {info : SecureFrameInfo} {tpdu : List UInt8} {toolAccess : Bool} {seq : Nat}
    (hverified : Verified aes r.object info tpdu toolAccess seq) :
    (r.unwrapped ++ [(info, tpdu)]).Pairwise Older := by
  rw [List.pairwise_append]
  refine ⟨h.increasing, List.pairwise_singleton _ _, ?_⟩
  intro earlier hearlier later hlater hsource access number number' hdata hdata'
  rw [List.mem_singleton] at hlater
  subst hlater
  obtain ⟨access', seq', hremembered, hle⟩ := h.remembered earlier hearlier
  -- both frames carry the access flag and the number that their octets have
  cases hremembered.symm.trans hdata
  cases hverified.data.symm.trans hdata'
  have hnewer := hverified.newer
  rw [← hsource] at hnewer
  exact Nat.lt_of_le_of_lt hle hnewer

theorem LayerRun.Closed.receive {r : LayerRun} (h : r.Closed) (aes : BlockCipher)
    (around : Surroundings) (info : SecureFrameInfo) (tpdu : List UInt8) :
    (r.step aes (.receive around info tpdu)).Closed := by
  have hraised := r.noLower_step aes (.receive around info tpdu)
  by_cases hunwrapped :
      (r.layer.processIncoming aes r.object around info tpdu).2.2.disposition = .unwrapped
  · obtain ⟨toolAccess, seq, hverified⟩ := verified_of_unwrapped hunwrapped
    have hframes : (r.step aes (.receive around info tpdu)).unwrapped
        = r.unwrapped ++ [(info, tpdu)] := by
      simp only [LayerRun.step, hunwrapped, if_true]
    refine ⟨?_, ?_⟩
    · rw [hframes]
      intro frame hframe
      rw [List.mem_append, List.mem_singleton] at hframe
      rcases hframe with hold | rfl
      · exact h.remembered.mono hraised frame hold
      · exact le_lastValid_of_received
          (received_processIncoming aes r.layer r.object info around) hunwrapped
    · rw [hframes]
      exact h.append hverified
  · have hframes : (r.step aes (.receive around info tpdu)).unwrapped = r.unwrapped := by
      simp only [LayerRun.step, if_neg hunwrapped, List.append_nil]
    refine ⟨?_, ?_⟩
    · rw [hframes]
      exact h.remembered.mono hraised
    · rw [hframes]
      exact h.increasing

theorem LayerRun.Closed.step {r : LayerRun} (h : r.Closed) (aes : BlockCipher) (e : LayerEvent) :
    (r.step aes e).Closed := by
  have hraised := r.noLower_step aes e
  cases e with
  | receive around info tpdu => exact h.receive aes around info tpdu
  | send info plainTpdu => exact ⟨h.remembered.mono hraised, h.increasing⟩
  | writeProperty p startIndex value => exact ⟨h.remembered.mono hraised, h.increasing⟩
  | loadControlReset => exact ⟨h.remembered.mono hraised, h.increasing⟩
  | syncSequencesFromAddressTable => exact ⟨h.remembered.mono hraised, h.increasing⟩

/-- Only what is verified is unwrapped by a call. -/
def VerifiesUnwrapped (aes : BlockCipher) (r : LayerRun) : LayerEvent → Prop
  | .receive around info tpdu =>
      (r.layer.processIncoming aes r.object around info tpdu).2.2.disposition = .unwrapped →
        ∃ toolAccess seq, Verified aes r.object info tpdu toolAccess seq
  | _ => True

/-- The replay window stays closed. In every run from every state, no last valid number falls,
each frame that is unwrapped is newer than those of its sender before it, and was verified. -/
theorem replay_window_closed (aes : BlockCipher) (layer : SecureApplicationLayer)
    (object : SecurityInterfaceObject) (events : List LayerEvent) :
    let start : LayerRun := { layer := layer, object := object }
    (∀ earlier later, events = earlier ++ later →
      NoLower (run (LayerRun.step aes) start earlier).object
        (run (LayerRun.step aes) start events).object)
      ∧ (run (LayerRun.step aes) start events).unwrapped.Pairwise Older
      ∧ Along (LayerRun.step aes) (VerifiesUnwrapped aes) start events := by
  intro start
  refine ⟨?_, ?_, ?_⟩
  · rintro earlier later rfl
    have happend : run (LayerRun.step aes) start (earlier ++ later)
        = run (LayerRun.step aes) (run (LayerRun.step aes) start earlier) later :=
      List.foldl_append
    rw [happend]
    exact LayerRun.noLower_run aes _ later
  · have hstart : start.Closed := ⟨fun _ hframe => absurd hframe List.not_mem_nil, List.Pairwise.nil⟩
    exact (run_invariant (fun r e (h : r.Closed) => h.step aes e) hstart events).increasing
  · generalize start = r
    induction events generalizing r with
    | nil => trivial
    | cons e events ih =>
      refine ⟨?_, ih _⟩
      cases e with
      | receive around info tpdu => exact verified_of_unwrapped
      | send info plainTpdu => trivial
      | writeProperty p startIndex value => trivial
      | loadControlReset => trivial
      | syncSequencesFromAddressTable => trivial

/-! ## The decision to protect -/

/-- What `processOutgoing` decides for a frame: the access flag and the key that it is secured with,
or nothing where it goes out in plain. -/
def protection (l : SecureApplicationLayer) (o : SecurityInterfaceObject) (info : SecureFrameInfo)
    (plainTpdu : List UInt8) : Option (Bool × Key) :=
  if !o.isSecurityEnabled ∨ plainTpdu.length < 2 ∨ isSecureApdu plainTpdu then none
  else
    (l.outgoingToolAccess info).bind fun toolAccess =>
      (selectKey o info
        ⟨if info.destinationType.isGroupAddress then l.inbound.peer else info.destination⟩
        toolAccess).map fun key => (toolAccess, key)

/-- The frame that is sent once it is decided: the next number is taken, whether or not the frame can
be encrypted. -/
def sealFrame (aes : BlockCipher) (o : SecurityInterfaceObject) (info : SecureFrameInfo)
    (plainTpdu : List UInt8) (toolAccess : Bool) (key : Key) : SecurityInterfaceObject × Outgoing :=
  if 255 < plainTpdu.length then (o, .failed)
  else
    let scf : SecurityControlField := { toolAccess := toolAccess }
    let nonce := toOctets 6 o.incrementSendingSequence.sendingSequence
    (o.incrementSendingSequence,
      match ccmEncrypt aes key info nonce scf.encode [] plainTpdu 259 with
      | none => .failed
      | some cipher => .secured ([0x03, 0xF1, scf.encode] ++ nonce ++ cipher))

theorem processOutgoing_eq (aes : BlockCipher) (l : SecureApplicationLayer)
    (o : SecurityInterfaceObject) (info : SecureFrameInfo) (plainTpdu : List UInt8) :
    l.processOutgoing aes o info plainTpdu
      = match protection l o info plainTpdu with
        | none => (o, .plain)
        | some (toolAccess, key) => sealFrame aes o info plainTpdu toolAccess key := by
  rw [processOutgoing, protection]
  by_cases hoff : !o.isSecurityEnabled ∨ plainTpdu.length < 2
  · rw [if_pos hoff, if_pos (hoff.imp_right Or.inl)]
  · rw [if_neg hoff]
    by_cases hsecure : isSecureApdu plainTpdu = true
    · rw [if_pos hsecure, if_pos (.inr (.inr hsecure))]
    · have hneither : ¬(!o.isSecurityEnabled ∨ plainTpdu.length < 2 ∨ isSecureApdu plainTpdu) := by
        rintro (h | h | h)
        · exact hoff (.inl h)
        · exact hoff (.inr h)
        · exact hsecure h
      rw [if_neg hsecure, if_neg hneither]
      cases l.outgoingToolAccess info with
      | none => rfl
      | some toolAccess =>
        dsimp only [Option.bind_some]
        cases selectKey o info
            ⟨if info.destinationType.isGroupAddress then l.inbound.peer else info.destination⟩
            toolAccess with
        | none => rfl
        | some key =>
          dsimp only [Option.map_some, sealFrame]
          split
          · rfl
          · cases ccmEncrypt aes key info (toOctets 6 o.incrementSendingSequence.sendingSequence)
                (SecurityControlField.encode { toolAccess := toolAccess }) [] plainTpdu 259 with
            | none => rfl
            | some cipher => rfl

/-! ## The counter -/

/-- The counter lasts for a call: a frame that is secured finds a number of 48 bits after the last one,
and the counter is not written. -/
def CounterLasts (r : LayerRun) : LayerEvent → Prop
  | .send info plainTpdu =>
      protection r.layer r.object info plainTpdu = none ∨ 255 < plainTpdu.length
        ∨ r.object.sendingSequence + 1 < 2 ^ 48
  | .writeProperty p _ _ => p ≠ .sequenceNumberSending
  | _ => True

/-- The numbers on the wire so far increase, up to the counter. -/
structure LayerRun.Counting (r : LayerRun) : Prop where
  fits : r.object.sendingSequence < 2 ^ 48
  increasing : (r.sent.map sequenceNumber).Pairwise (· < ·)
  nonzero : ∀ tpdu ∈ r.sent, sequenceNumber tpdu ≠ 0
  used : ∀ tpdu ∈ r.sent, sequenceNumber tpdu ≤ r.object.sendingSequence

theorem LayerRun.Counting.of_same {r r' : LayerRun} (h : r.Counting)
    (hcounter : r'.object.sendingSequence = r.object.sendingSequence) (hsent : r'.sent = r.sent) :
    r'.Counting := by
  refine ⟨?_, ?_, ?_, ?_⟩
  · rw [hcounter]
    exact h.fits
  · rw [hsent]
    exact h.increasing
  · rw [hsent]
    exact h.nonzero
  · rw [hsent, hcounter]
    exact h.used

theorem sequenceNumber_sealed (scf : UInt8) (number : Nat) (cipher : List UInt8) :
    sequenceNumber ([0x03, 0xF1, scf] ++ toOctets 6 number ++ cipher) = number % 256 ^ 6 := by
  have hlength := length_toOctets 6 number
  have hslice : slice ([0x03, 0xF1, scf] ++ toOctets 6 number ++ cipher) 3 6 = toOctets 6 number := by
    rw [slice, List.append_assoc]
    show List.take 6 (toOctets 6 number ++ cipher) = toOctets 6 number
    rw [List.take_append_of_le_length (by omega), List.take_of_length_le (by omega)]
  rw [sequenceNumber, hslice, ofOctets_toOctets]

theorem sealFrame_cases (aes : BlockCipher) (o : SecurityInterfaceObject) (info : SecureFrameInfo)
    {plainTpdu : List UInt8} (toolAccess : Bool) (key : Key) (hshort : plainTpdu.length ≤ 255)
    (hroom : o.sendingSequence + 1 < 2 ^ 48) :
    (sealFrame aes o info plainTpdu toolAccess key).1.sendingSequence = o.sendingSequence + 1
      ∧ ∀ tpdu ∈ securedFrames (sealFrame aes o info plainTpdu toolAccess key).2,
        sequenceNumber tpdu = o.sendingSequence + 1 := by
  have hnumber : o.incrementSendingSequence.sendingSequence = o.sendingSequence + 1 := by
    rw [SecurityInterfaceObject.incrementSendingSequence]
    exact Nat.mod_eq_of_lt (by omega)
  rw [sealFrame, if_neg (by omega)]
  refine ⟨hnumber, ?_⟩
  dsimp only
  split
  · intro tpdu htpdu
    cases htpdu
  next cipher hcipher =>
    intro tpdu htpdu
    rw [securedFrames, List.mem_singleton] at htpdu
    rw [htpdu, sequenceNumber_sealed, hnumber]
    exact Nat.mod_eq_of_lt (by omega)

theorem pairwise_securedFrames (out : Outgoing) :
    ((securedFrames out).map sequenceNumber).Pairwise (· < ·) := by
  cases out with
  | secured tpdu => exact List.pairwise_singleton _ _
  | plain => exact List.Pairwise.nil
  | failed => exact List.Pairwise.nil

theorem LayerRun.Counting.next {r : LayerRun} (h : r.Counting) {o : SecurityInterfaceObject}
    {out : Outgoing} (hcounter : o.sendingSequence = r.object.sendingSequence + 1)
    (hroom : r.object.sendingSequence + 1 < 2 ^ 48)
    (hnumbers : ∀ tpdu ∈ securedFrames out, sequenceNumber tpdu = r.object.sendingSequence + 1) :
    LayerRun.Counting { r with object := o, sent := r.sent ++ securedFrames out } := by
  refine ⟨?_, ?_, ?_, ?_⟩
  · rw [hcounter]
    exact hroom
  · rw [List.map_append, List.pairwise_append]
    refine ⟨h.increasing, pairwise_securedFrames out, ?_⟩
    intro number hnumber number' hnumber'
    obtain ⟨tpdu, htpdu, rfl⟩ := List.mem_map.mp hnumber
    obtain ⟨tpdu', htpdu', rfl⟩ := List.mem_map.mp hnumber'
    rw [hnumbers tpdu' htpdu']
    exact Nat.lt_succ_of_le (h.used tpdu htpdu)
  · intro tpdu htpdu
    rcases List.mem_append.mp htpdu with hold | hnew
    · exact h.nonzero tpdu hold
    · rw [hnumbers tpdu hnew]
      exact Nat.succ_ne_zero _
  · intro tpdu htpdu
    rw [hcounter]
    rcases List.mem_append.mp htpdu with hold | hnew
    · exact Nat.le_succ_of_le (h.used tpdu hold)
    · exact Nat.le_of_eq (hnumbers tpdu hnew)

theorem LayerRun.Counting.send {r : LayerRun} (h : r.Counting) (aes : BlockCipher)
    (info : SecureFrameInfo) (plainTpdu : List UInt8)
    (hlasts : CounterLasts r (.send info plainTpdu)) :
    (r.step aes (.send info plainTpdu)).Counting := by
  rw [LayerRun.step, processOutgoing_eq]
  rcases hprotection : protection r.layer r.object info plainTpdu with _ | ⟨toolAccess, key⟩
  · exact h.of_same rfl (List.append_nil _)
  · dsimp only
    by_cases hlong : 255 < plainTpdu.length
    · rw [sealFrame, if_pos hlong]
      exact h.of_same rfl (List.append_nil _)
    · have hroom : r.object.sendingSequence + 1 < 2 ^ 48 := by
        rcases hlasts with hplain | hlong' | hroom
        · rw [hprotection] at hplain
          cases hplain
        · exact absurd hlong' hlong
        · exact hroom
      obtain ⟨hcounter, hnumbers⟩ :=
        sealFrame_cases aes r.object info toolAccess key (Nat.le_of_not_lt hlong) hroom
      exact h.next hcounter hroom hnumbers

theorem LayerRun.Counting.step {r : LayerRun} (h : r.Counting) (aes : BlockCipher) (e : LayerEvent)
    (hlasts : CounterLasts r e) : (r.step aes e).Counting := by
  cases e with
  | receive around info tpdu =>
    exact h.of_same (sendingSequence_processIncoming aes r.layer r.object around info tpdu) rfl
  | send info plainTpdu => exact h.send aes info plainTpdu hlasts
  | writeProperty p startIndex value =>
    refine h.of_same ?_ rfl
    change ((r.object.writeProperty p startIndex value).getD r.object).sendingSequence = _
    cases hwritten : r.object.writeProperty p startIndex value with
    | none => rfl
    | some o => exact (SecurityInterfaceObject.written_writeProperty hwritten).keeps.2.2 hlasts
  | loadControlReset => exact h.of_same rfl rfl
  | syncSequencesFromAddressTable =>
    exact h.of_same (SecurityInterfaceObject.syncSequencesFromAddressTable_keeps r.object).2.2 rfl

/-- The numbers on the wire increase and are never zero, in every run from a counter of 48 bits in
which the counter lasts. -/
theorem sent_numbers_increase (aes : BlockCipher) (layer : SecureApplicationLayer)
    (object : SecurityInterfaceObject) (hstart : object.sendingSequence < 2 ^ 48)
    (events : List LayerEvent)
    (hlasts : Along (LayerRun.step aes) CounterLasts { layer := layer, object := object } events) :
    let after := run (LayerRun.step aes) { layer := layer, object := object } events
    (after.sent.map sequenceNumber).Pairwise (· < ·) ∧ ∀ tpdu ∈ after.sent, sequenceNumber tpdu ≠ 0 := by
  intro after
  have hcounting : LayerRun.Counting { layer := layer, object := object } :=
    ⟨hstart, List.Pairwise.nil, fun _ h => absurd h List.not_mem_nil,
      fun _ h => absurd h List.not_mem_nil⟩
  have hafter := run_invariant_along (fun r e (h : r.Counting) => h.step aes e) hcounting hlasts
  exact ⟨hafter.increasing, hafter.nonzero⟩

/-- An object in Security Mode with the key for all groups, and a counter. -/
def keyedObject (sendingSequence : Nat) : SecurityInterfaceObject :=
  { securityMode := 1, groupKeys := fun _ => some sampleKey, sendingSequence := sendingSequence }

instance (r : LayerRun) (e : LayerEvent) : Decidable (CounterLasts r e) := by
  cases e with
  | send info plainTpdu => exact inferInstanceAs (Decidable (_ ∨ _ ∨ _))
  | writeProperty p startIndex value => exact inferInstanceAs (Decidable (_ ≠ _))
  | receive around info tpdu => exact isTrue trivial
  | loadControlReset => exact isTrue trivial
  | syncSequencesFromAddressTable => exact isTrue trivial

/-- Two group values with the numbers 1 and 2. -/
theorem two_numbers_increase :
    let events : List LayerEvent :=
      [.send sampleSending.1 sampleSending.2, .send sampleSending.1 sampleSending.2]
    let after := run (LayerRun.step sampleAes) { object := keyedObject 0 } events
    after.sent.length = 2 ∧ (after.sent.map sequenceNumber).Pairwise (· < ·)
      ∧ ∀ tpdu ∈ after.sent, sequenceNumber tpdu ≠ 0 := by
  intro events after
  exact ⟨by decide +kernel,
    sent_numbers_increase sampleAes {} (keyedObject 0) (by decide) events (by decide +kernel)⟩

/-- AES-128 under `sampleKey`, on the blocks of a group frame with number 0 from 1.1.1. -/
def zeroNumberBlocks : List (List UInt8 × List UInt8) :=
  [([0x00, 0x00, 0x00, 0x00, 0x00, 0x00, 0x11, 0x01, 0x09, 0x01, 0x00, 0x80, 0x03, 0xF1, 0x00, 0x02],
    [0x12, 0xD8, 0x62, 0xBB, 0x24, 0x58, 0x3C, 0xB6, 0x11, 0x0A, 0x98, 0x59, 0x0F, 0x0E, 0x7F, 0x36]),
   ([0x12, 0xD9, 0x72, 0xBB, 0xA5, 0x58, 0x3C, 0xB6, 0x11, 0x0A, 0x98, 0x59, 0x0F, 0x0E, 0x7F, 0x36],
    [0x97, 0x18, 0x3A, 0xBE, 0x81, 0xF9, 0x7F, 0x49, 0x18, 0x1B, 0xFA, 0xB9, 0xAA, 0xAD, 0xA2, 0xE8]),
   ([0x00, 0x00, 0x00, 0x00, 0x00, 0x00, 0x11, 0x01, 0x09, 0x01, 0x00, 0x00, 0x00, 0x00, 0x01, 0x00],
    [0x10, 0xBA, 0x5E, 0xB1, 0xDE, 0xFC, 0xBA, 0x96, 0x17, 0x25, 0xEC, 0xA5, 0x8C, 0x13, 0x6E, 0x8E])]

/-- The counter runs over. After the last number of 48 bits a frame is secured with the number
zero. -/
theorem counter_runs_over :
    ¬ ∀ (aes : BlockCipher) (layer : SecureApplicationLayer) (object : SecurityInterfaceObject)
      (events : List LayerEvent), object.sendingSequence < 2 ^ 48 →
        (∀ e ∈ events, ∃ info plainTpdu, e = .send info plainTpdu) →
        ∀ tpdu ∈ (run (LayerRun.step aes) { layer := layer, object := object } events).sent,
          sequenceNumber tpdu ≠ 0 := by
  intro hnonzero
  have hzero := hnonzero
    ⟨fun key block => if key = sampleKey then zeroNumberBlocks.lookup block else none⟩ {}
    (keyedObject (2 ^ 48 - 1)) [.send sampleSending.1 sampleSending.2] (by decide) (by
      intro e he
      rw [List.mem_singleton] at he
      exact ⟨_, _, he⟩)
  revert hzero
  decide +kernel

end KnxStack.Bau
