import KnxStack.Bau.SecurityPersistence

/-!
# Fresh sequence numbers across restarts

The sequence number of a secured frame is the nonce under which it is encrypted, so no two frames may
have the same one. `processOutgoing` takes the next number from `sendingSequence`, which is stored by
the full save as an ordinary property; but taking a number marks nothing, and the checkpoint of the
sequence numbers leaves this one out. A restart with no full save pending goes back to the number of
the last full save: `nonce_reused_after_restart`. Where every restart finds the counter stored, or a
full save pending, the numbers are all different: `sent_numbers_nodup`.
-/

set_option autoImplicit false

namespace KnxStack.Bau

open KnxStack.Lib KnxStack.Lib.Octets KnxStack.Objects KnxStack.Security
open KnxStack.Security.SecureApplicationLayer

/-- The sequence number of an S-A_Data PDU. -/
def sequenceNumber (tpdu : List UInt8) : Nat := ofOctets (slice tpdu 3 6)

/-- The stored `PID_SEQUENCE_NUMBER_SENDING`. -/
def storedSendingSequence (store : Store) : Nat :=
  ofOctets ((store (securityKeyId .sequenceNumberSending)).getD [])

/-- The stored number, if there is one, has six octets. -/
def SendingRecord (store : Store) : Prop :=
  ∀ stored, store (securityKeyId .sequenceNumberSending) = some stored → stored.length = 6

/-! ## Saving and restoring the counter -/

theorem storedSendingSequence_saveToPersistence {d : Device}
    (hsmall : d.security.sendingSequence < 256 ^ 6) :
    SendingRecord d.saveToPersistence.store
      ∧ storedSendingSequence d.saveToPersistence.store = d.security.sendingSequence := by
  have hvalue : persistedValue d.security .sequenceNumberSending
      = some (toOctets 6 d.security.sendingSequence) := rfl
  have hlength := length_toOctets 6 d.security.sendingSequence
  have hne : toOctets 6 d.security.sendingSequence ≠ [] := by
    intro hnil
    rw [hnil] at hlength
    cases hlength
  have hstored : d.saveToPersistence.store (securityKeyId .sequenceNumberSending)
      = some (toOctets 6 d.security.sendingSequence) := by
    rw [store_saveToPersistence d (by decide), hvalue, savedRecord_of_ne_nil _ hne]
  constructor
  · intro stored hrecord
    rw [hstored] at hrecord
    cases hrecord
    exact hlength
  · rw [storedSendingSequence, hstored, Option.getD_some, ofOctets_toOctets,
      Nat.mod_eq_of_lt hsmall]

theorem store_checkpointSecuritySequenceState_sending (d : Device) :
    d.checkpointSecuritySequenceState.store (securityKeyId .sequenceNumberSending)
      = d.store (securityKeyId .sequenceNumberSending) := by
  rw [Device.checkpointSecuritySequenceState]
  split
  · rfl
  · exact (store_saveSecuritySequenceState d).2.2 _ (by decide) (by decide)

theorem writeProperty_sequenceNumberSending (o : SecurityInterfaceObject) {stored : List UInt8}
    (hlength : stored.length = 6) :
    o.writeProperty .sequenceNumberSending 1 stored
      = some { o with sendingSequence := ofOctets stored } := by
  have hne : stored ≠ [] := by
    rintro rfl
    cases hlength
  have htake : stored.take 6 = stored := List.take_of_length_le hlength.le
  simp [SecurityInterfaceObject.writeProperty, SecurityProperty.handler, hne, hlength,
    SecurityInterfaceObject.writeElements, htake]

theorem sendingSequence_restoredSecurity {store : Store} (h : SendingRecord store) :
    (restoredSecurity store).sendingSequence = storedSendingSequence store := by
  have hsplit : persistedProperties
      = [SecurityProperty.securityMode, .p2pKeyTable, .groupKeyTable,
          .securityIndividualAddressTable, .toolKey]
        ++ SecurityProperty.sequenceNumberSending :: [.zoneKeyTable, .goSecurityFlags] := rfl
  rw [restoredSecurity, hsplit, List.foldl_append, List.foldl_cons,
    sendingSequence_foldl_loadProp store (by decide), loadProp, storedSendingSequence]
  cases hstored : store (securityKeyId .sequenceNumberSending) with
  | none => exact sendingSequence_foldl_loadProp store (by decide) {}
  | some stored =>
    simp only [writeProperty_sequenceNumberSending _ (h stored hstored), Option.getD_some]

theorem sendingSequence_init {identity : Identity} {store : Store} (ownAddress : IndividualAddress)
    (hschema : CurrentSchema identity store) (h : SendingRecord store) :
    (init identity ownAddress store).security.sendingSequence = storedSendingSequence store := by
  obtain ⟨-, -, -, -, -, hsending⟩ :=
    applySecurityKeyTables_numbers (wellFormed_restoredSecurity store)
      (restoreAddressTable (store addressTableKeyId))
  rw [init_security identity ownAddress hschema, ← sendingSequence_restoredSecurity h]
  exact hsending

theorem storedSendingSequence_lt {store : Store} (h : SendingRecord store) :
    storedSendingSequence store < 256 ^ 6 := by
  rw [storedSendingSequence]
  cases hstored : store (securityKeyId .sequenceNumberSending) with
  | none => exact Nat.pow_pos (by decide)
  | some stored =>
    have hlt := ofOctets_lt stored
    rw [h stored hstored] at hlt
    exact hlt

/-! ## The counter of a device -/

/-- The counter fits six octets, and so does what the store has of it. -/
structure Counting (identity : Identity) (d : Device) : Prop where
  small : d.security.sendingSequence < 256 ^ 6
  record : SendingRecord d.store
  schema : CurrentSchema identity d.store

section Counting

variable {identity : Identity} {d d' : Device}

theorem Counting.of_same (h : Counting identity d)
    (hsending : d'.security.sendingSequence = d.security.sendingSequence)
    (hstore : d'.store = d.store) : Counting identity d' := by
  refine ⟨?_, ?_, ?_⟩
  · rw [hsending]
    exact h.small
  · rw [hstore]
    exact h.record
  · rw [hstore]
    exact h.schema

theorem Counting.saveToPersistence (h : Counting identity d) :
    Counting identity d.saveToPersistence := by
  refine ⟨h.small, (storedSendingSequence_saveToPersistence h.small).1, ?_⟩
  rw [CurrentSchema, store_saveToPersistence_schemaVersion]
  exact h.schema

theorem Counting.checkpointSecuritySequenceState (h : Counting identity d) :
    Counting identity d.checkpointSecuritySequenceState
      ∧ d.checkpointSecuritySequenceState.security.sendingSequence = d.security.sendingSequence := by
  have hrecord : SendingRecord d.checkpointSecuritySequenceState.store := by
    rw [SendingRecord, store_checkpointSecuritySequenceState_sending]
    exact h.record
  rw [Device.checkpointSecuritySequenceState] at hrecord ⊢
  split
  · exact ⟨h, rfl⟩
  · rename_i hdirty
    rw [if_neg hdirty] at hrecord
    refine ⟨⟨h.small, hrecord, ?_⟩, rfl⟩
    rw [CurrentSchema, (store_saveSecuritySequenceState d).2.2 _ (by decide) (by decide)]
    exact h.schema

theorem Counting.loop (h : Counting identity d) (nowMs : UInt32) :
    Counting identity (d.loop nowMs)
      ∧ (d.loop nowMs).security.sendingSequence = d.security.sendingSequence := by
  have hpump : Counting identity (d.pumpPersistence nowMs)
      ∧ (d.pumpPersistence nowMs).security.sendingSequence = d.security.sendingSequence := by
    simp only [Device.pumpPersistence]
    split
    · exact ⟨h, rfl⟩
    · split
      · split
        · exact ⟨h.of_same rfl rfl, rfl⟩
        · exact ⟨h.of_same rfl rfl, rfl⟩
      · split
        · exact ⟨h.saveToPersistence, rfl⟩
        · exact ⟨h, rfl⟩
  obtain ⟨hpumped, hsending⟩ := hpump
  simp only [Device.loop, Device.pumpSecuritySequenceCheckpoint]
  split
  · exact ⟨hpumped.of_same rfl rfl, hsending⟩
  · split
    · exact ⟨hpumped, hsending⟩
    · obtain ⟨hpoint, hsame⟩ := hpumped.checkpointSecuritySequenceState
      exact ⟨hpoint.of_same rfl rfl, hsame.trans hsending⟩

/-- A restart goes on from the stored number, or from the live one when a full save is pending. -/
theorem Counting.restart (h : Counting identity d)
    (hsaved : d.persistenceDirty = true
      ∨ d.security.sendingSequence ≤ storedSendingSequence d.store) :
    Counting identity (d.restart identity)
      ∧ d.security.sendingSequence ≤ (d.restart identity).security.sendingSequence := by
  have hflush : Counting identity d.flushPersistenceIfDirty
      ∧ d.security.sendingSequence ≤ storedSendingSequence d.flushPersistenceIfDirty.store := by
    have hpoint : ∀ d : Device,
        storedSendingSequence d.checkpointSecuritySequenceState.store
          = storedSendingSequence d.store := by
      intro d
      rw [storedSendingSequence, store_checkpointSecuritySequenceState_sending, storedSendingSequence]
    cases hdirty : d.persistenceDirty with
    | true =>
      simp only [Device.flushPersistenceIfDirty, hdirty, if_true]
      refine ⟨h.saveToPersistence.checkpointSecuritySequenceState.1, ?_⟩
      rw [hpoint, (storedSendingSequence_saveToPersistence h.small).2]
    | false =>
      simp only [Device.flushPersistenceIfDirty, hdirty, Bool.false_eq_true, if_false]
      rw [hdirty] at hsaved
      refine ⟨h.checkpointSecuritySequenceState.1, ?_⟩
      rw [hpoint]
      simpa using hsaved
  obtain ⟨hcounting, hstored⟩ := hflush
  have hsending := sendingSequence_init d.secureAl.ownAddress hcounting.schema hcounting.record
  have hstore : (d.restart identity).store = d.flushPersistenceIfDirty.store :=
    enforcePersistenceSchemaVersion_of_current hcounting.schema
  rw [← hsending] at hstored
  refine ⟨⟨?_, ?_, ?_⟩, hstored⟩
  · exact hsending.trans_lt (storedSendingSequence_lt hcounting.record)
  · rw [hstore]
    exact hcounting.record
  · rw [hstore]
    exact hcounting.schema

end Counting

/-! ## Runs -/

/-- Invariant of a history. What was sent has different numbers, none above the counter. -/
structure Fresh (identity : Identity) (h : History) : Prop where
  counting : Counting identity h.device
  distinct : (h.sent.map sequenceNumber).Nodup
  bounded : ∀ tpdu ∈ h.sent, sequenceNumber tpdu ≤ h.device.security.sendingSequence

/-- The counter survives the event: a restart finds it stored, or finds a full save pending; there is
a next number of six octets; and no management client sets it. -/
def CounterSurvives (h : History) : Event → Prop
  | .restart => h.device.persistenceDirty = true
      ∨ h.device.security.sendingSequence ≤ storedSendingSequence h.device.store
  | .send _ _ => h.device.security.sendingSequence + 1 < 2 ^ 48
  | .writeSecurityProperty p _ _ => p ≠ .sequenceNumberSending
  | _ => True

instance (h : History) : (e : Event) → Decidable (CounterSurvives h e)
  | .restart => inferInstanceAs (Decidable (_ ∨ _))
  | .send _ _ => inferInstanceAs (Decidable (_ < _))
  | .writeSecurityProperty _ _ _ => inferInstanceAs (Decidable (_ ≠ _))
  | .receive _ _ _ | .loadControlCommand _ | .securityModeCommand _ | .writeAddressTable _ _
  | .writeOtherTable | .assignAddress _ | .loop _ => isTrue trivial

section Runs

variable {aes : BlockCipher} {identity : Identity} {h : History}

theorem Fresh.of_device (hf : Fresh identity h) {h' : History}
    (hcounting : Counting identity h'.device)
    (hraised : h.device.security.sendingSequence ≤ h'.device.security.sendingSequence)
    (hsent : h'.sent = h.sent) : Fresh identity h' := by
  refine ⟨hcounting, ?_, ?_⟩
  · rw [hsent]
    exact hf.distinct
  · intro tpdu htpdu
    rw [hsent] at htpdu
    exact Nat.le_trans (hf.bounded tpdu htpdu) hraised

theorem sendingSequence_setLastValid (o : SecurityInterfaceObject) (source : IndividualAddress)
    (toolAccess : Bool) (seq : Nat) :
    (setLastValid o source toolAccess seq).sendingSequence = o.sendingSequence := by
  rw [setLastValid, SecurityInterfaceObject.setToolAccessSequence,
    SecurityInterfaceObject.setPeerSequence]
  repeat' split
  all_goals rfl

theorem sendingSequence_processIncoming (aes : BlockCipher) (l : SecureApplicationLayer)
    (o : SecurityInterfaceObject) (around : Surroundings) (info : SecureFrameInfo)
    (tpdu : List UInt8) :
    (l.processIncoming aes o around info tpdu).2.1.sendingSequence = o.sendingSequence := by
  have hreceived : Received o info tpdu (l.processIncoming aes o around info tpdu).2.1
      (l.processIncoming aes o around info tpdu).2.2 :=
    received_processIncoming aes l o info around
  generalize (l.processIncoming aes o around info tpdu).2.1 = o' at hreceived ⊢
  cases hreceived with
  | nothing r hr => rfl
  | failure failure r hr => rfl
  | accepted toolAccess seq r hdata hnew => exact sendingSequence_setLastValid o _ toolAccess seq
  | synchronised toolAccess seq r hr hold hfits =>
    exact sendingSequence_setLastValid o _ toolAccess seq

theorem Fresh.send (hf : Fresh identity h) (info : SecureFrameInfo) (plainTpdu : List UInt8)
    (hroom : h.device.security.sendingSequence + 1 < 2 ^ 48) :
    Fresh identity (step aes identity h (.send info plainTpdu)) := by
  have hnext : h.device.security.incrementSendingSequence.sendingSequence
      = h.device.security.sendingSequence + 1 := Nat.mod_eq_of_lt (by omega)
  have hsmall : h.device.security.sendingSequence + 1 < 256 ^ 6 := by
    exact hroom
  simp only [step]
  rcases processOutgoing_cases aes h.device.secureAl h.device.security info plainTpdu with
    ⟨hsame, hplain⟩ | ⟨htaken, hsecured⟩
  · rw [hsame]
    refine hf.of_device (hf.counting.of_same rfl rfl) (Nat.le_refl _) ?_
    dsimp only
    split
    · rename_i tpdu htpdu
      exact absurd htpdu (hplain tpdu)
    · rfl
  · rw [htaken]
    have hcounting : Counting identity
        { h.device with security := h.device.security.incrementSendingSequence } := by
      refine ⟨?_, hf.counting.record, hf.counting.schema⟩
      rw [hnext]
      exact hsmall
    split
    · -- the new number is above all that were sent
      rename_i tpdu htpdu
      have hnumber : sequenceNumber tpdu = h.device.security.sendingSequence + 1 := by
        rw [sequenceNumber, hsecured tpdu htpdu, hnext, ofOctets_toOctets, Nat.mod_eq_of_lt hsmall]
      refine ⟨hcounting, ?_, ?_⟩
      · rw [List.map_cons, List.nodup_cons]
        refine ⟨?_, hf.distinct⟩
        intro hmem
        obtain ⟨earlier, hearlier, hequal⟩ := List.mem_map.mp hmem
        have hle := hf.bounded earlier hearlier
        omega
      · intro frame hframe
        rw [hnext]
        rcases List.mem_cons.mp hframe with rfl | hframe
        · exact hnumber.le
        · exact Nat.le_succ_of_le (hf.bounded frame hframe)
    · exact hf.of_device hcounting (hnext ▸ Nat.le_succ _) rfl

theorem Fresh.writeSecurityProperty (hf : Fresh identity h) {p : SecurityProperty}
    (hp : p ≠ .sequenceNumberSending) (startIndex : Nat) (value : List UInt8) :
    Fresh identity (step aes identity h (.writeSecurityProperty p startIndex value)) := by
  have hdevice : (h.device.writeSecurityProperty p startIndex value).security.sendingSequence
        = h.device.security.sendingSequence
      ∧ (h.device.writeSecurityProperty p startIndex value).store = h.device.store := by
    rw [Device.writeSecurityProperty]
    split
    · exact ⟨rfl, rfl⟩
    · rename_i o hwritten
      have hkept := (SecurityInterfaceObject.written_writeProperty hwritten).keeps.2.2 hp
      have hsync := (SecurityInterfaceObject.syncSequencesFromAddressTable_keeps
        { o with groupKeys := groupKeysOf o h.device.addressTable }).2.2
      exact ⟨hsync.trans hkept, rfl⟩
  exact hf.of_device (hf.counting.of_same hdevice.1 hdevice.2) hdevice.1.ge rfl

theorem Fresh.writeAddressTable (hf : Fresh identity h) (addresses : List UInt16) (marked : Bool) :
    Fresh identity (step aes identity h (.writeAddressTable addresses marked)) := by
  have hsending : (h.device.writeAddressTable addresses marked).security.sendingSequence
      = h.device.security.sendingSequence := by
    cases marked with
    | true =>
      exact (SecurityInterfaceObject.syncSequencesFromAddressTable_keeps
        { h.device.security with groupKeys := groupKeysOf h.device.security addresses }).2.2
    | false => rfl
  have hstore : (h.device.writeAddressTable addresses marked).store = h.device.store := by
    cases marked <;> rfl
  exact hf.of_device (hf.counting.of_same hsending hstore) hsending.ge rfl

theorem Fresh.step (hf : Fresh identity h) (e : Event) (hcounter : CounterSurvives h e) :
    Fresh identity (step aes identity h e) := by
  cases e with
  | receive around info tpdu =>
    have hsending := sendingSequence_processIncoming aes h.device.secureAl h.device.security around
      info tpdu
    exact hf.of_device (hf.counting.of_same hsending rfl) hsending.ge rfl
  | send info plainTpdu => exact hf.send info plainTpdu hcounter
  | writeSecurityProperty p startIndex value =>
    exact hf.writeSecurityProperty hcounter startIndex value
  | loadControlCommand event =>
    have hsending :=
      (SecurityInterfaceObject.sameNumbers_applyLoadControlEvent h.device.security event).2.1
    exact hf.of_device (hf.counting.of_same hsending rfl) hsending.ge rfl
  | securityModeCommand mode => exact hf.of_device (hf.counting.of_same rfl rfl) (Nat.le_refl _) rfl
  | writeAddressTable addresses marked => exact hf.writeAddressTable addresses marked
  | writeOtherTable => exact hf.of_device (hf.counting.of_same rfl rfl) (Nat.le_refl _) rfl
  | assignAddress address =>
    have hcounting : Counting identity
        { h.device with secureAl := { h.device.secureAl with ownAddress := address } } :=
      hf.counting.of_same rfl rfl
    exact hf.of_device hcounting.saveToPersistence (Nat.le_refl _) rfl
  | loop nowMs =>
    obtain ⟨hcounting, hsending⟩ := hf.counting.loop nowMs
    exact hf.of_device hcounting hsending.ge rfl
  | restart =>
    obtain ⟨hcounting, hraised⟩ := hf.counting.restart hcounter
    exact hf.of_device hcounting hraised rfl

theorem fresh_firstStart (ownAddress : IndividualAddress) :
    Fresh identity (firstStart identity ownAddress) := by
  have hschema := currentSchema_initialStore identity
  have hempty : SendingRecord (initialStore identity) := by
    intro stored hstored
    cases hstored
  have hsending := sendingSequence_init ownAddress hschema hempty
  have hstore : (firstStart identity ownAddress).device.store = initialStore identity := rfl
  refine ⟨⟨?_, ?_, ?_⟩, List.nodup_nil, nofun⟩
  · rw [firstStart_device, hsending]
    exact storedSendingSequence_lt hempty
  · rw [hstore]
    exact hempty
  · rw [hstore]
    exact hschema

end Runs

/-- No sequence number is used twice. In every run from the first start, with any number of
restarts, in which the counter survives every event, the numbers of the secured frames that were sent
are all different. -/
theorem sent_numbers_nodup (aes : BlockCipher) (identity : Identity) (ownAddress : IndividualAddress)
    (events : List Event)
    (hcounter : Along (step aes identity) CounterSurvives (firstStart identity ownAddress) events) :
    ((run (step aes identity) (firstStart identity ownAddress) events).sent.map
      sequenceNumber).Nodup := by
  have hstep : ∀ h e, Fresh identity h → CounterSurvives h e →
      Fresh identity (step aes identity h e) := fun h e hf => hf.step e
  exact (run_invariant_along hstep (fresh_firstStart ownAddress) hcounter).distinct

/-- A group value write that the device 1.1.1 sends to 1/1/1. -/
def sampleSending : SecureFrameInfo × List UInt8 :=
  ({ source := ⟨0x1101⟩, destination := 0x0901 }, [0x00, 0x81])

/-- A restart with a full save pending. -/
theorem sent_numbers_nodup_across_restart :
    let events := sampleDownload ++ [.send sampleSending.1 sampleSending.2, .restart,
      .send sampleSending.1 sampleSending.2]
    (run (step sampleAes {}) (firstStart {} ⟨0x1101⟩) events).sent.length = 2
      ∧ ((run (step sampleAes {}) (firstStart {} ⟨0x1101⟩) events).sent.map sequenceNumber).Nodup := by
  intro events
  exact ⟨by decide +kernel, sent_numbers_nodup sampleAes {} ⟨0x1101⟩ events (by decide +kernel)⟩

/-- A management client sets the counter. -/
def Event.setsCounter : Event → Bool
  | .writeSecurityProperty p _ _ => p == .sequenceNumberSending
  | _ => false

/-- A number is used twice. The frame is sent when nothing is marked, so that the restart in
between stores nothing. -/
theorem nonce_reused_after_restart :
    ¬ ∀ (aes : BlockCipher) (identity : Identity) (ownAddress : IndividualAddress)
      (events : List Event), events.all (fun e => !e.setsCounter) = true →
        ((run (step aes identity) (firstStart identity ownAddress) events).sent.map
          sequenceNumber).Nodup := by
  intro hnodup
  have hnumbers := hnodup sampleAes {} ⟨0x1101⟩
    (sampleDownload ++ [.restart, .send sampleSending.1 sampleSending.2, .restart,
      .send sampleSending.1 sampleSending.2]) (by decide)
  revert hnumbers
  decide +kernel

end KnxStack.Bau
