import KnxStack.Bau.SecurityPersistence

/-!
# Replay protection across restarts

Whatever has been unwrapped must be rejected when it is presented again, also after restarts. The last
valid number of a sender is in the live map, in its entry of the Security Individual Address Table,
and for tool access in a record of its own. `Kept` says which of these the store has, depending on the
two marks, and `NoLower` that no event but a restart lowers a number.

A sender that has a group key but no entry in the table is unwrapped as well. Its number is in the live
map only, so it is lost at a restart: `replay_of_unlisted_sender`. When every such sender has an entry
at each restart, nothing is unwrapped twice: `replayed_rejected`.
-/

set_option autoImplicit false

namespace KnxStack.Bau

open KnxStack.Lib KnxStack.Lib.Octets KnxStack.Objects KnxStack.Security
open KnxStack.Security.SecureApplicationLayer

/-! ## What the store has -/

/-- The stored table covers the number of every sender in the live one. -/
def PeersSaved (store : Store) (o : SecurityInterfaceObject) : Prop :=
  ∀ blob, o.iaTable = some blob → ∀ address, SecurityIaTable.Listed blob address →
    ∃ stored, store (securityKeyId .securityIndividualAddressTable) = some stored
      ∧ SecurityIaTable.Durable o.peerSequences stored address

/-- The stored number for tool access covers the live one. -/
def ToolSaved (store : Store) (o : SecurityInterfaceObject) : Prop :=
  o.toolAccessSequence = 0
    ∨ ∃ stored, store toolAccessSequenceKeyId = some stored ∧ stored.length = 6
      ∧ o.toolAccessSequence ≤ ofOctets stored

/-- The stored table, if there is one, has whole entries. -/
def RecordWhole (store : Store) : Prop :=
  ∀ stored, store (securityKeyId .securityIndividualAddressTable) = some stored →
    SecurityInterfaceObject.WholeEntries stored

/-- Invariant of a device. What neither mark announces is in the store. -/
structure Kept (identity : Identity) (d : Device) : Prop where
  wellFormed : d.security.WellFormed
  covered : d.security.Covered
  peers : d.persistenceDirty = false → d.security.sequenceStateDirty = false →
    PeersSaved d.store d.security
  tool : d.security.sequenceStateDirty = false → ToolSaved d.store d.security
  record : RecordWhole d.store
  schema : CurrentSchema identity d.store

theorem peersSaved_of_stored {store : Store} {o : SecurityInterfaceObject} (hcovered : o.Covered)
    (hstored : ∀ blob, o.iaTable = some blob → blob ≠ [] →
      store (securityKeyId .securityIndividualAddressTable) = some blob) : PeersSaved store o := by
  intro blob hblob address hlisted
  have hne : blob ≠ [] := by
    rintro rfl
    obtain ⟨index, hlt, -⟩ := hlisted
    exact Nat.not_lt_zero index hlt
  exact ⟨blob, hstored blob hblob hne, hcovered blob hblob address hlisted⟩

/-! ## Saving -/

section Saving

variable {identity : Identity} {d : Device}

theorem Kept.saveToPersistence (h : Kept identity d) : Kept identity d.saveToPersistence := by
  have hrecord := store_saveToPersistence d
    (show SecurityProperty.securityIndividualAddressTable ∈ persistedProperties by decide)
  have hvalue : persistedValue d.security .securityIndividualAddressTable
      = some (d.security.iaTable.getD []) := rfl
  rw [hvalue] at hrecord
  refine ⟨h.wellFormed, h.covered, ?_, ?_, ?_, ?_⟩
  · intro _ _
    apply peersSaved_of_stored h.covered
    intro blob hblob hne
    rw [hrecord, hblob, Option.getD_some, savedRecord_of_ne_nil _ hne]
  · intro hclean
    rw [ToolSaved, store_saveToPersistence_toolAccessSequence]
    exact h.tool hclean
  · intro stored hstored
    have hwhole := h.wellFormed.whole
    rw [SecurityInterfaceObject.TableWhole] at hwhole
    rw [hrecord] at hstored
    cases hblob : d.security.iaTable.getD [] with
    | nil =>
      rw [hblob] at hstored
      cases hstored
    | cons octet rest =>
      rw [hblob] at hstored hwhole
      cases hstored
      exact hwhole
  · rw [CurrentSchema, store_saveToPersistence_schemaVersion]
    exact h.schema

theorem Kept.saveSecuritySequenceState (h : Kept identity d) :
    Kept identity d.saveSecuritySequenceState := by
  obtain ⟨htool, htable, hother⟩ := store_saveSecuritySequenceState d
  have hformed : d.saveSecuritySequenceState.security.WellFormed :=
    ⟨h.wellFormed.whole, h.wellFormed.peer, h.wellFormed.tool⟩
  refine ⟨hformed, h.covered, ?_, ?_, ?_, ?_⟩
  · intro _ _
    apply peersSaved_of_stored h.covered
    intro blob hblob hne
    have hblob' : d.security.iaTable = some blob := hblob
    rw [htable, hblob', Option.getD_some, if_neg hne]
  · intro _
    refine .inr ⟨_, htool, length_toOctets 6 _, ?_⟩
    rw [ofOctets_toOctets, Nat.mod_eq_of_lt h.wellFormed.tool]
    exact Nat.le_refl _
  · intro stored hstored
    rw [htable] at hstored
    split at hstored
    · exact h.record stored hstored
    · cases hstored
      exact h.wellFormed.whole
  · rw [CurrentSchema, hother _ (by decide) (by decide)]
    exact h.schema

theorem Kept.checkpointSecuritySequenceState (h : Kept identity d) :
    Kept identity d.checkpointSecuritySequenceState := by
  rw [Device.checkpointSecuritySequenceState]
  split
  · exact h
  · exact h.saveSecuritySequenceState

theorem Kept.pumpPersistence (h : Kept identity d) (nowMs : UInt32) :
    Kept identity (d.pumpPersistence nowMs) := by
  simp only [Device.pumpPersistence]
  split
  · exact h
  · split
    · split
      · exact ⟨h.wellFormed, h.covered, h.peers, h.tool, h.record, h.schema⟩
      · exact ⟨h.wellFormed, h.covered, h.peers, h.tool, h.record, h.schema⟩
    · split
      · exact h.saveToPersistence
      · exact h

theorem Kept.pumpSecuritySequenceCheckpoint (h : Kept identity d) (nowMs : UInt32) :
    Kept identity (d.pumpSecuritySequenceCheckpoint nowMs) := by
  simp only [Device.pumpSecuritySequenceCheckpoint]
  split
  · exact ⟨h.wellFormed, h.covered, h.peers, h.tool, h.record, h.schema⟩
  · split
    · exact h
    · have hsaved := h.checkpointSecuritySequenceState
      exact ⟨hsaved.wellFormed, hsaved.covered, hsaved.peers, hsaved.tool, hsaved.record,
        hsaved.schema⟩

theorem Kept.flushPersistenceIfDirty (h : Kept identity d) :
    Kept identity d.flushPersistenceIfDirty ∧ d.flushPersistenceIfDirty.persistenceDirty = false
      ∧ d.flushPersistenceIfDirty.security = { d.security with sequenceStateDirty := false } := by
  have hcheckpoint : ∀ d : Device, Kept identity d → d.persistenceDirty = false →
      Kept identity d.checkpointSecuritySequenceState
        ∧ d.checkpointSecuritySequenceState.persistenceDirty = false
        ∧ d.checkpointSecuritySequenceState.security
          = { d.security with sequenceStateDirty := false } := by
    intro d hkept hsaved
    refine ⟨hkept.checkpointSecuritySequenceState, ?_⟩
    rw [Device.checkpointSecuritySequenceState]
    split
    · rename_i hclean
      have hclean' : d.security.sequenceStateDirty = false := by simpa using hclean
      exact ⟨hsaved, by rw [← hclean']⟩
    · exact ⟨hsaved, rfl⟩
  cases hdirty : d.persistenceDirty with
  | true =>
    simp only [Device.flushPersistenceIfDirty, hdirty, if_true]
    exact hcheckpoint d.saveToPersistence h.saveToPersistence rfl
  | false =>
    simp only [Device.flushPersistenceIfDirty, hdirty, Bool.false_eq_true, if_false]
    exact hcheckpoint d h hdirty

end Saving

/-! ## Starting up -/

section Starting

variable {identity : Identity} {store : Store}

theorem toolSaved_storedToolAccess (store : Store) {o : SecurityInterfaceObject}
    (h : o.toolAccessSequence = storedToolAccess store) : ToolSaved store o := by
  rw [storedToolAccess] at h
  split at h
  · exact .inl h
  · rename_i stored hstored
    split at h
    · rename_i hlength
      exact .inr ⟨stored, hstored, hlength, h.le⟩
    · exact .inl h

theorem ToolSaved.le_storedToolAccess {o : SecurityInterfaceObject} (h : ToolSaved store o) :
    o.toolAccessSequence ≤ storedToolAccess store := by
  rcases h with hzero | ⟨stored, hstored, hlength, hle⟩
  · rw [hzero]
    exact Nat.zero_le _
  · rw [storedToolAccess, hstored]
    simp only [hlength, if_true]
    exact hle

theorem peersSaved_restoredSecurity (hrecord : RecordWhole store) (addressTable : List UInt16) :
    PeersSaved store (applySecurityKeyTables (restoredSecurity store) addressTable) := by
  intro blob' hblob' address hlisted
  have hkeys := wellFormed_groupKeys (wellFormed_restoredSecurity store)
    (groupKeysOf (restoredSecurity store) addressTable)
  obtain ⟨blob, hblob, hlisted⟩ :=
    SecurityInterfaceObject.listed_of_syncSequencesFromAddressTable hkeys hblob' hlisted
  have hzero : (restoredSecurity store).peerSequences address = 0 := by
    rw [(restoredSecurity_fresh store).1.peerSequences]
  have hdurable := SecurityInterfaceObject.durable_syncSequencesFromAddressTable hkeys hblob hlisted
    hzero
  refine ⟨blob, ?_, hdurable⟩
  have hblob : (restoredSecurity store).iaTable = some blob := hblob
  by_cases hempty : (store (securityKeyId .securityIndividualAddressTable)).getD [] = []
  · rw [iaTable_restoredSecurity_none hempty] at hblob
    cases hblob
  · cases hstored : store (securityKeyId .securityIndividualAddressTable) with
    | none =>
      rw [hstored] at hempty
      exact absurd rfl hempty
    | some stored =>
      rw [hstored, Option.getD_some] at hempty
      rw [iaTable_restoredSecurity hstored (hrecord stored hstored) hempty] at hblob
      exact hblob

theorem kept_init (ownAddress : IndividualAddress) (hrecord : RecordWhole store)
    (hschema : CurrentSchema identity store) : Kept identity (init identity ownAddress store) := by
  have hsecurity := init_security identity ownAddress hschema
  have hstore : (init identity ownAddress store).store = store :=
    enforcePersistenceSchemaVersion_of_current hschema
  obtain ⟨hformed, hcovered, -⟩ := applySecurityKeyTables_numbers (wellFormed_restoredSecurity store)
    (restoreAddressTable (store addressTableKeyId))
  refine ⟨?_, ?_, ?_, ?_, ?_, ?_⟩
  · rw [hsecurity]
    exact ⟨hformed.whole, hformed.peer, storedToolAccess_lt store⟩
  · rw [hsecurity]
    exact hcovered
  · intro _ _
    rw [hstore, hsecurity]
    exact peersSaved_restoredSecurity hrecord _
  · intro _
    rw [hstore, hsecurity]
    exact toolSaved_storedToolAccess store rfl
  · rw [hstore]
    exact hrecord
  · rw [hstore]
    exact hschema

theorem lastValid_init (ownAddress : IndividualAddress) (hrecord : RecordWhole store)
    (hschema : CurrentSchema identity store) {o : SecurityInterfaceObject}
    (hpeers : PeersSaved store o) (htool : ToolSaved store o) {source : IndividualAddress}
    {toolAccess : Bool}
    (hlisted : toolAccess = true ∨ SecurityIaTable.Listed (o.iaTable.getD []) source.raw) :
    lastValid o source toolAccess
      ≤ lastValid (init identity ownAddress store).security source toolAccess := by
  rw [init_security identity ownAddress hschema]
  cases toolAccess with
  | true => exact htool.le_storedToolAccess
  | false =>
    have hlisted : SecurityIaTable.Listed (o.iaTable.getD []) source.raw := by
      simpa using hlisted
    cases hblob : o.iaTable with
    | none =>
      rw [hblob] at hlisted
      obtain ⟨index, hlt, -⟩ := hlisted
      exact absurd hlt (Nat.not_lt_zero index)
    | some blob =>
      rw [hblob, Option.getD_some] at hlisted
      obtain ⟨stored, hstored, index, hlt, haddress, hle⟩ := hpeers blob hblob source.raw hlisted
      have hne : stored ≠ [] := by
        rintro rfl
        exact Nat.not_lt_zero index hlt
      have htable := iaTable_restoredSecurity hstored (hrecord stored hstored) hne
      have hkeys := wellFormed_groupKeys (wellFormed_restoredSecurity store)
        (groupKeysOf (restoredSecurity store) (restoreAddressTable (store addressTableKeyId)))
      obtain ⟨-, -, -, hadopted⟩ := hkeys.syncSequencesFromAddressTable
      have hnumber := hadopted stored htable index hlt
      rw [haddress] at hnumber
      exact Nat.le_trans hle hnumber

end Starting

/-! ## Events -/

section Events

variable {identity : Identity} {d d' : Device}

theorem Kept.of_same (h : Kept identity d)
    (hnumbers : SecurityInterfaceObject.SameNumbers d.security d'.security)
    (htable : d'.security.iaTable = d.security.iaTable ∨ d'.security.iaTable = none)
    (hstore : d'.store = d.store)
    (hmark : d'.persistenceDirty = false → d.persistenceDirty = false) : Kept identity d' := by
  have hsome : ∀ blob, d'.security.iaTable = some blob → d.security.iaTable = some blob := by
    intro blob hblob
    rcases htable with hsame | hnone
    · rw [← hsame]
      exact hblob
    · rw [hnone] at hblob
      cases hblob
  refine ⟨h.wellFormed.of_sameNumbers hnumbers ?_, ?_, ?_, ?_, ?_, ?_⟩
  · rcases htable with hsame | hnone
    · rw [SecurityInterfaceObject.TableWhole, hsame]
      exact h.wellFormed.whole
    · rw [SecurityInterfaceObject.TableWhole, hnone]
      exact SecurityInterfaceObject.wholeEntries_nil
  · intro blob hblob
    rw [hnumbers.peerSequences]
    exact h.covered blob (hsome blob hblob)
  · intro hsaved hclean blob hblob
    rw [hnumbers.sequenceStateDirty] at hclean
    rw [hstore, hnumbers.peerSequences]
    exact h.peers (hmark hsaved) hclean blob (hsome blob hblob)
  · intro hclean
    rw [hnumbers.sequenceStateDirty] at hclean
    rw [ToolSaved, hstore, hnumbers.toolAccessSequence]
    exact h.tool hclean
  · rw [hstore]
    exact h.record
  · rw [hstore]
    exact h.schema

/-- What sets up the keys anew, after a change that keeps the numbers and marks the state. -/
theorem Kept.syncSecurityKeyTables (h : Kept identity d)
    (hnumbers : SecurityInterfaceObject.SameNumbers d.security d'.security)
    (hwhole : d'.security.TableWhole) (hstore : d'.store = d.store)
    (hmark : d'.persistenceDirty = true) :
    Kept identity d'.syncSecurityKeyTables
      ∧ NoLower d.security d'.syncSecurityKeyTables.security := by
  have hformed := h.wellFormed.of_sameNumbers hnumbers hwhole
  obtain ⟨hformed', hcovered, hraised, htool, hdirty, -⟩ :=
    applySecurityKeyTables_numbers hformed d'.addressTable
  refine ⟨⟨hformed', hcovered, ?_, ?_, ?_, ?_⟩, ?_⟩
  · intro hsaved
    have hunmarked : d'.persistenceDirty = false := hsaved
    rw [hmark] at hunmarked
    cases hunmarked
  · intro hclean
    have hclean' : d.security.sequenceStateDirty = false := by
      rw [← hnumbers.sequenceStateDirty, ← hdirty]
      exact hclean
    have hsame : d'.syncSecurityKeyTables.security.toolAccessSequence
        = d.security.toolAccessSequence := htool.trans hnumbers.toolAccessSequence
    have hstore' : d'.syncSecurityKeyTables.store = d.store := hstore
    rw [ToolSaved, hsame, hstore']
    exact h.tool hclean'
  · have hstore' : d'.syncSecurityKeyTables.store = d.store := hstore
    rw [hstore']
    exact h.record
  · have hstore' : d'.syncSecurityKeyTables.store = d.store := hstore
    rw [hstore']
    exact h.schema
  · intro source toolAccess
    exact Nat.le_trans (noLower_of_sameNumbers hnumbers source toolAccess) (hraised source toolAccess)

theorem Kept.writeSecurityProperty (h : Kept identity d) (p : SecurityProperty) (startIndex : Nat)
    (value : List UInt8) :
    Kept identity (d.writeSecurityProperty p startIndex value)
      ∧ NoLower d.security (d.writeSecurityProperty p startIndex value).security := by
  rw [Device.writeSecurityProperty]
  split
  · exact ⟨h, fun _ _ => Nat.le_refl _⟩
  · rename_i o hwritten
    obtain ⟨hnumbers, hwhole, -⟩ :=
      (SecurityInterfaceObject.written_writeProperty hwritten).keeps
    exact h.syncSecurityKeyTables hnumbers (hwhole h.wellFormed.whole) rfl rfl

theorem Kept.writeAddressTable (h : Kept identity d) (addresses : List UInt16) (marked : Bool) :
    Kept identity (d.writeAddressTable addresses marked)
      ∧ NoLower d.security (d.writeAddressTable addresses marked).security := by
  cases marked with
  | true => exact h.syncSecurityKeyTables ⟨rfl, rfl, rfl⟩ h.wellFormed.whole rfl rfl
  | false => exact ⟨h.of_same ⟨rfl, rfl, rfl⟩ (.inl rfl) rfl id, fun _ _ => Nat.le_refl _⟩

theorem noLower_loop (d : Device) (nowMs : UInt32) : NoLower d.security (d.loop nowMs).security := by
  have hsecurity : (d.pumpPersistence nowMs).security = d.security := by
    simp only [Device.pumpPersistence]
    repeat' split
    all_goals rfl
  rw [← hsecurity]
  intro source toolAccess
  apply Nat.le_of_eq
  simp only [Device.loop, Device.pumpSecuritySequenceCheckpoint,
    Device.checkpointSecuritySequenceState]
  repeat' split
  all_goals rfl

theorem Kept.setLastValid (h : Kept identity d) {source : IndividualAddress} {toolAccess : Bool}
    {seq : Nat} (hseq : seq < 256 ^ 6)
    (hsecurity : d'.security = setLastValid d.security source toolAccess seq)
    (hstore : d'.store = d.store) (hmark : d'.persistenceDirty = d.persistenceDirty) :
    Kept identity d' := by
  obtain ⟨hformed, hcovered⟩ := wellFormed_setLastValid h.wellFormed h.covered source toolAccess hseq
  rcases setLastValid_marks d.security source toolAccess seq with hsame | hdirty
  · rw [hsame] at hsecurity
    refine h.of_same ?_ (.inl ?_) hstore ?_
    · rw [hsecurity]
      exact ⟨rfl, rfl, rfl⟩
    · rw [hsecurity]
    · rw [hmark]
      exact id
  · rw [← hsecurity] at hformed hcovered hdirty
    refine ⟨hformed, hcovered, ?_, ?_, ?_, ?_⟩
    · intro _ hclean
      rw [hdirty] at hclean
      cases hclean
    · intro hclean
      rw [hdirty] at hclean
      cases hclean
    · rw [hstore]
      exact h.record
    · rw [hstore]
      exact h.schema

end Events

/-! ## Runs -/

/-- Every frame that was unwrapped has a number that is not newer than the last valid one. -/
def Remembered (o : SecurityInterfaceObject) (unwrapped : List (SecureFrameInfo × List UInt8)) :
    Prop :=
  ∀ frame ∈ unwrapped, ∃ toolAccess seq, secureData frame.2 = some (toolAccess, seq)
    ∧ seq ≤ lastValid o frame.1.source toolAccess

theorem Remembered.mono {o o' : SecurityInterfaceObject}
    {unwrapped : List (SecureFrameInfo × List UInt8)} (h : Remembered o unwrapped)
    (hraised : NoLower o o') : Remembered o' unwrapped := by
  intro frame hframe
  obtain ⟨toolAccess, seq, hdata, hle⟩ := h frame hframe
  exact ⟨toolAccess, seq, hdata, Nat.le_trans hle (hraised frame.1.source toolAccess)⟩

/-- Invariant of a history. -/
structure Protected (identity : Identity) (h : History) : Prop where
  kept : Kept identity h.device
  remembered : Remembered h.device.security h.unwrapped

/-- Every sender of a frame that was unwrapped without tool access has an entry in the table. -/
def SendersListed (h : History) : Prop :=
  ∀ frame ∈ h.unwrapped, (secureData frame.2).any (·.1) = true
    ∨ SecurityIaTable.Listed (h.device.security.iaTable.getD []) frame.1.source.raw

instance (h : History) : Decidable (SendersListed h) :=
  inferInstanceAs (Decidable (∀ frame ∈ h.unwrapped, _))

section Runs

variable {aes : BlockCipher} {identity : Identity} {h : History}

theorem Protected.receive (hp : Protected identity h) (around : Surroundings)
    (info : SecureFrameInfo) (tpdu : List UInt8) :
    Protected identity (step aes identity h (.receive around info tpdu)) := by
  have hreceived : Received h.device.security info tpdu
      (h.device.secureAl.processIncoming aes h.device.security around info tpdu).2.1
      (h.device.secureAl.processIncoming aes h.device.security around info tpdu).2.2 :=
    received_processIncoming aes h.device.secureAl h.device.security info around
  simp only [step]
  generalize h.device.secureAl.processIncoming aes h.device.security around info tpdu = received
    at hreceived ⊢
  obtain ⟨l', o', r⟩ := received
  dsimp only at hreceived ⊢
  cases hreceived with
  | nothing r hr =>
    rw [if_neg hr]
    exact ⟨hp.kept.of_same ⟨rfl, rfl, rfl⟩ (.inl rfl) rfl id, hp.remembered⟩
  | failure failure r hr =>
    rw [if_neg hr]
    exact ⟨hp.kept.of_same ⟨rfl, rfl, rfl⟩ (.inl rfl) rfl id, hp.remembered⟩
  | accepted toolAccess seq r hdata hnew =>
    have hraised := le_lastValid_setLastValid (Nat.le_of_lt hnew)
    refine ⟨hp.kept.setLastValid (secureData_lt hdata) rfl rfl rfl, ?_⟩
    split
    · -- the frame itself has the number that is now the last valid one
      intro frame hframe
      rcases List.mem_cons.mp hframe with rfl | hframe
      · exact ⟨toolAccess, seq, hdata, (lastValid_setLastValid_self _ _ _ _).ge⟩
      · exact hp.remembered.mono hraised frame hframe
    · exact hp.remembered.mono hraised
  | synchronised toolAccess seq r hr hold hfits =>
    have hlt : seq < 256 ^ 6 := by
      rcases hfits with hlt | rfl
      · exact hlt
      · cases toolAccess with
        | true => exact hp.kept.wellFormed.tool
        | false => exact hp.kept.wellFormed.peer info.source.raw
    rw [if_neg hr]
    exact ⟨hp.kept.setLastValid hlt rfl rfl rfl,
      hp.remembered.mono (le_lastValid_setLastValid hold)⟩

theorem Protected.send (hp : Protected identity h) (info : SecureFrameInfo)
    (plainTpdu : List UInt8) : Protected identity (step aes identity h (.send info plainTpdu)) := by
  simp only [step]
  rcases processOutgoing_cases aes h.device.secureAl h.device.security info plainTpdu with
    ⟨hsame, -⟩ | ⟨hnext, -⟩
  · refine ⟨hp.kept.of_same ?_ (.inl ?_) rfl id, ?_⟩
    · rw [hsame]
      exact ⟨rfl, rfl, rfl⟩
    · rw [hsame]
    · rw [hsame]
      exact hp.remembered
  · refine ⟨hp.kept.of_same ?_ (.inl ?_) rfl id, ?_⟩
    · rw [hnext]
      exact ⟨rfl, rfl, rfl⟩
    · rw [hnext]
      rfl
    · rw [hnext]
      exact hp.remembered

theorem Protected.restart (hp : Protected identity h) (hlisted : SendersListed h) :
    Protected identity (step aes identity h .restart) := by
  obtain ⟨hkept, hsaved, hsecurity⟩ := hp.kept.flushPersistenceIfDirty
  have hclean : h.device.flushPersistenceIfDirty.security.sequenceStateDirty = false := by
    rw [hsecurity]
  have hpeers := hkept.peers hsaved hclean
  have htool := hkept.tool hclean
  rw [hsecurity] at hpeers htool
  refine ⟨kept_init h.device.secureAl.ownAddress hkept.record hkept.schema, ?_⟩
  intro frame hframe
  obtain ⟨toolAccess, seq, hdata, hle⟩ := hp.remembered frame hframe
  have hcase := hlisted frame hframe
  rw [hdata] at hcase
  exact ⟨toolAccess, seq, hdata, Nat.le_trans hle
    (lastValid_init h.device.secureAl.ownAddress hkept.record hkept.schema hpeers htool hcase)⟩

theorem Protected.step (hp : Protected identity h) (e : Event)
    (hlisted : e = .restart → SendersListed h) : Protected identity (step aes identity h e) := by
  cases e with
  | receive around info tpdu => exact hp.receive around info tpdu
  | send info plainTpdu => exact hp.send info plainTpdu
  | writeSecurityProperty p startIndex value =>
    obtain ⟨hkept, hraised⟩ := hp.kept.writeSecurityProperty p startIndex value
    exact ⟨hkept, hp.remembered.mono hraised⟩
  | loadControlCommand event =>
    obtain ⟨hnumbers, -, htable⟩ :=
      SecurityInterfaceObject.sameNumbers_applyLoadControlEvent h.device.security event
    exact ⟨hp.kept.of_same hnumbers htable rfl id,
      hp.remembered.mono (noLower_of_sameNumbers hnumbers)⟩
  | securityModeCommand mode =>
    exact ⟨hp.kept.of_same ⟨rfl, rfl, rfl⟩ (.inl rfl) rfl id, hp.remembered⟩
  | writeAddressTable addresses marked =>
    obtain ⟨hkept, hraised⟩ := hp.kept.writeAddressTable addresses marked
    exact ⟨hkept, hp.remembered.mono hraised⟩
  | writeOtherTable =>
    exact ⟨hp.kept.of_same ⟨rfl, rfl, rfl⟩ (.inl rfl) rfl nofun, hp.remembered⟩
  | assignAddress address =>
    have hkept : Kept identity
        { h.device with secureAl := { h.device.secureAl with ownAddress := address } } :=
      hp.kept.of_same ⟨rfl, rfl, rfl⟩ (.inl rfl) rfl id
    exact ⟨hkept.saveToPersistence, hp.remembered⟩
  | loop nowMs =>
    refine ⟨(hp.kept.pumpPersistence nowMs).pumpSecuritySequenceCheckpoint nowMs, ?_⟩
    exact hp.remembered.mono (noLower_loop h.device nowMs)
  | restart => exact hp.restart (hlisted rfl)

theorem protected_firstStart (ownAddress : IndividualAddress) :
    Protected identity (firstStart identity ownAddress) := by
  have hempty : RecordWhole (initialStore identity) := by
    intro stored hstored
    cases hstored
  refine ⟨?_, nofun⟩
  rw [firstStart_device]
  exact kept_init ownAddress hempty (currentSchema_initialStore identity)

end Runs

/-- Replayed frames are rejected. In every run from the first start, with any number of restarts,
all at a time when every sender of an unwrapped frame has an entry in the Security Individual Address
Table, every frame that was unwrapped is rejected when it is presented again. -/
theorem replayed_rejected (aes : BlockCipher) (identity : Identity) (ownAddress : IndividualAddress)
    (events : List Event)
    (hlisted : Along (step aes identity) (fun h e => e = .restart → SendersListed h)
      (firstStart identity ownAddress) events) :
    ∀ frame ∈ (run (step aes identity) (firstStart identity ownAddress) events).unwrapped,
      ∀ around : Surroundings,
        ((run (step aes identity) (firstStart identity ownAddress) events).device.secureAl.processIncoming
          aes (run (step aes identity) (firstStart identity ownAddress) events).device.security around
          frame.1 frame.2).2.2.disposition = .rejected := by
  have hstep : ∀ h e, Protected identity h → (e = .restart → SendersListed h) →
      Protected identity (step aes identity h e) := fun h e hp => hp.step e
  have hprotected := run_invariant_along hstep (protected_firstStart ownAddress) hlisted
  intro frame hframe around
  obtain ⟨toolAccess, seq, hdata, hle⟩ := hprotected.remembered frame hframe
  exact processIncoming_replayed aes _ _ _ around hdata hle

/-- A group frame that 1.1.5 has secured under the key of `sampleDownload`. -/
def sampleFrame : SecureFrameInfo × List UInt8 :=
  ({ source := ⟨0x1105⟩, destination := 0x0901 },
    [0x03, 0xF1, 0x10, 0x00, 0x00, 0x00, 0x00, 0x00, 0x01, 0xC7, 0x85, 0xB3, 0x39, 0x5B, 0xB0])

/-- A sender with an entry. -/
theorem replayed_rejected_of_listed_sender :
    let events := sampleDownload
      ++ [.writeSecurityProperty .securityIndividualAddressTable 1 [0x11, 0x05, 0, 0, 0, 0, 0, 0],
        .receive {} sampleFrame.1 sampleFrame.2, .restart]
    let after := run (step sampleAes {}) (firstStart {} ⟨0x1101⟩) events
    sampleFrame ∈ after.unwrapped
      ∧ (after.device.secureAl.processIncoming sampleAes after.device.security {} sampleFrame.1
        sampleFrame.2).2.2.disposition = .rejected := by
  intro events after
  have hmem : sampleFrame ∈ after.unwrapped := by decide +kernel
  exact ⟨hmem, replayed_rejected sampleAes {} ⟨0x1101⟩ events (by decide +kernel) sampleFrame hmem {}⟩

/-- A sender without an entry is unwrapped again after a restart. -/
theorem replay_of_unlisted_sender :
    ¬ ∀ (aes : BlockCipher) (identity : Identity) (ownAddress : IndividualAddress)
      (events : List Event),
      ∀ frame ∈ (run (step aes identity) (firstStart identity ownAddress) events).unwrapped,
        ∀ around : Surroundings,
          let after := run (step aes identity) (firstStart identity ownAddress) (events ++ [.restart])
          (after.device.secureAl.processIncoming aes after.device.security around frame.1
            frame.2).2.2.disposition = .rejected := by
  intro hrejected
  have hfirst := hrejected sampleAes {} ⟨0x1101⟩
    (sampleDownload ++ [.receive {} sampleFrame.1 sampleFrame.2]) sampleFrame (by decide +kernel) {}
  revert hfirst
  decide +kernel

end KnxStack.Bau
