import KnxStack.Transport.ConnectionTable

/-!
# Which histories keep the connection table sound

Indices of connections come from a counter that wraps at sixteen and is not compared with the live
entries; `findAvailableIndex` would compare, but nothing calls it. Distinct addresses and the
capacity bound hold along every history. Distinct indices hold along a history exactly when every
creation meets a free counter value (`allocation_sound_iff`).
-/

set_option autoImplicit false

namespace KnxStack.Transport

open KnxStack.Lib

namespace ConnectionTable

/-- The calls that create and remove entries. -/
inductive Call where
  | createConnection (remoteAddress : IndividualAddress) (params : ConnectionParams)
  | removeConnection (index : ConnectionIndex)
  | removeConnectionByAddress (remoteAddress : IndividualAddress)
  | processTimeouts (currentTimeMs timeoutMs : UInt32)
  | checkTimeouts (currentTimeMs timeoutMs : UInt32)

/-- Table after a call. -/
def afterCall (t : ConnectionTable) : Call → ConnectionTable
  | .createConnection a p => (t.createConnection a p).2
  | .removeConnection i => (t.removeConnection i).2
  | .removeConnectionByAddress a => (t.removeConnectionByAddress a).2
  | .processTimeouts now timeout => (t.processTimeouts now timeout).2
  | .checkTimeouts now timeout => (t.checkTimeouts now timeout).2

/-- Live entries are told apart by index and by address, and there is room for them. -/
structure Sound (t : ConnectionTable) : Prop where
  indices_distinct : (t.connections.map ConnectionEntry.index).Nodup
  addresses_distinct : (t.connections.map ConnectionEntry.remoteAddress).Nodup
  within_capacity : t.connections.length ≤ t.maxConnections

/-- The index a creation returns leads to the entry of the address that was asked for. -/
def ReturnsOwnEntry (t : ConnectionTable) : Call → Prop
  | .createConnection a p =>
      (t.createConnection a p).1.isValid = true →
        ∃ e, (t.createConnection a p).2.getConnection (t.createConnection a p).1 = some e ∧
          e.remoteAddress = a
  | _ => True

/-- The call leaves a sound table and returns the index of its own entry. -/
def CallSound (t : ConnectionTable) (c : Call) : Prop :=
  Sound (t.afterCall c) ∧ ReturnsOwnEntry t c

/-- A creation that goes through finds the counter value unused. -/
def AllocatesFree (t : ConnectionTable) : Call → Prop
  | .createConnection a _ =>
      a.isValid = true → t.canCreateConnection a = .ok () →
        ∀ e ∈ t.connections, e.index ≠ ⟨t.nextIndex⟩
  | _ => True

/-! ## What creation and removal do -/

theorem canCreateConnection_iff (t : ConnectionTable) (a : IndividualAddress) :
    t.canCreateConnection a = .ok () ↔
      t.connections.length < t.maxConnections ∧ t.findConnection a = none := by
  unfold canCreateConnection
  by_cases hfull : t.maxConnections ≤ t.connections.length
  · simp [hfull]
  · cases hfind : t.findConnection a with
    | none => simp [hfull]; omega
    | some e => simp [hfull]

theorem findConnection_eq_none {t : ConnectionTable} {a : IndividualAddress} :
    t.findConnection a = none ↔ ∀ e ∈ t.connections, e.remoteAddress ≠ a := by
  simp [findConnection, List.find?_eq_none]

/-- State machine of a new connection. -/
def newMachine (a : IndividualAddress) (p : ConnectionParams) : ConnectionStateMachine :=
  ⟨{ p with remoteAddress := a }, .idle, p.initialSequence, 0⟩

theorem createConnection_of_can {t : ConnectionTable} {a : IndividualAddress}
    (p : ConnectionParams) (hvalid : a.isValid = true) (hcan : t.canCreateConnection a = .ok ()) :
    t.createConnection a p = (⟨t.nextIndex⟩,
      { t with
        connections := t.connections ++ [newEntry ⟨t.nextIndex⟩ a p (newMachine a p)]
        nextIndex := (t.nextIndex + 1) % 16 }) := by
  obtain ⟨hroom, hfind⟩ := (canCreateConnection_iff t a).mp hcan
  have hnotfull : ¬ t.maxConnections ≤ t.connections.length := by omega
  simp [createConnection, hvalid, hnotfull, hfind, ConnectionStateMachine.init, newMachine]

theorem createConnection_refused {t : ConnectionTable} {a : IndividualAddress}
    (p : ConnectionParams) (h : ¬ (a.isValid = true ∧ t.canCreateConnection a = .ok ())) :
    t.createConnection a p = (.invalid, t) := by
  unfold createConnection
  by_cases hvalid : a.isValid = true
  · rw [if_neg (by simp [hvalid])]
    by_cases hfull : t.maxConnections ≤ t.connections.length
    · rw [if_pos hfull]
    · rw [if_neg hfull, if_pos]
      rw [canCreateConnection_iff] at h
      rw [Option.isSome_iff_ne_none]
      intro hnone
      exact h ⟨hvalid, by omega, hnone⟩
  · rw [if_pos (by simpa using hvalid)]

/-- Every call but a creation keeps a part of the entries, in order, the capacity and the
counter. -/
theorem afterCall_sublist (t : ConnectionTable) (c : Call)
    (hc : ∀ a p, c ≠ .createConnection a p) :
    (t.afterCall c).connections.Sublist t.connections ∧
      (t.afterCall c).maxConnections = t.maxConnections ∧
      (t.afterCall c).nextIndex = t.nextIndex := by
  cases c with
  | createConnection a p => exact absurd rfl (hc a p)
  | removeConnection i =>
    simp only [afterCall, removeConnection]
    split
    · exact ⟨List.eraseP_sublist, rfl, rfl⟩
    · exact ⟨List.Sublist.refl _, rfl, rfl⟩
  | removeConnectionByAddress a =>
    simp only [afterCall, removeConnectionByAddress]
    split
    · exact ⟨List.eraseP_sublist, rfl, rfl⟩
    · exact ⟨List.Sublist.refl _, rfl, rfl⟩
  | processTimeouts now timeout => exact ⟨List.filter_sublist, rfl, rfl⟩
  | checkTimeouts now timeout => exact ⟨List.filter_sublist, rfl, rfl⟩

theorem Sound.of_sublist {t t' : ConnectionTable} (h : Sound t)
    (hs : t'.connections.Sublist t.connections) (hmax : t'.maxConnections = t.maxConnections) :
    Sound t' := by
  constructor
  · exact nodup_map_of_sublist hs h.indices_distinct
  · exact nodup_map_of_sublist hs h.addresses_distinct
  · rw [hmax]
    exact hs.length_le.trans h.within_capacity

/-- The table after a creation that goes through is sound exactly when the counter value was
free. -/
theorem sound_createConnection_iff {t : ConnectionTable} (h : Sound t) {a : IndividualAddress}
    (p : ConnectionParams) (hvalid : a.isValid = true) (hcan : t.canCreateConnection a = .ok ()) :
    Sound (t.createConnection a p).2 ↔ ∀ e ∈ t.connections, e.index ≠ ⟨t.nextIndex⟩ := by
  obtain ⟨hroom, hfind⟩ := (canCreateConnection_iff t a).mp hcan
  rw [createConnection_of_can p hvalid hcan]
  constructor
  · intro hsound
    exact (nodup_map_append_singleton h.indices_distinct).mp hsound.indices_distinct
  · intro hfree
    constructor
    · exact (nodup_map_append_singleton h.indices_distinct).mpr hfree
    · apply (nodup_map_append_singleton h.addresses_distinct).mpr
      exact findConnection_eq_none.mp hfind
    · simp only [List.length_append, List.length_singleton]
      omega

theorem callSound_iff {t : ConnectionTable} (h : Sound t) (c : Call) :
    CallSound t c ↔ AllocatesFree t c := by
  cases c with
  | createConnection a p =>
    by_cases hgo : a.isValid = true ∧ t.canCreateConnection a = .ok ()
    · obtain ⟨hvalid, hcan⟩ := hgo
      constructor
      · intro hsound _ _
        exact (sound_createConnection_iff h p hvalid hcan).mp hsound.1
      · intro hfree
        have hfree := hfree hvalid hcan
        refine ⟨(sound_createConnection_iff h p hvalid hcan).mpr hfree, ?_⟩
        intro _
        rw [createConnection_of_can p hvalid hcan]
        refine ⟨newEntry ⟨t.nextIndex⟩ a p (newMachine a p), ?_, rfl⟩
        -- the appended entry is the first one with its index
        apply find?_append_singleton
        · simp [newEntry]
        · intro e he
          simpa using hfree e he
    · constructor
      · intro _ hvalid hcan
        exact absurd ⟨hvalid, hcan⟩ hgo
      · intro _
        refine ⟨?_, ?_⟩
        · simpa only [afterCall, createConnection_refused p hgo] using h
        · intro hidx
          rw [createConnection_refused p hgo] at hidx
          simp [ConnectionIndex.isValid, ConnectionIndex.invalid] at hidx
  | removeConnection i =>
    obtain ⟨hs, hmax, -⟩ := t.afterCall_sublist (.removeConnection i) (by simp)
    exact ⟨fun _ => trivial, fun _ => ⟨h.of_sublist hs hmax, trivial⟩⟩
  | removeConnectionByAddress a =>
    obtain ⟨hs, hmax, -⟩ := t.afterCall_sublist (.removeConnectionByAddress a) (by simp)
    exact ⟨fun _ => trivial, fun _ => ⟨h.of_sublist hs hmax, trivial⟩⟩
  | processTimeouts now timeout =>
    obtain ⟨hs, hmax, -⟩ := t.afterCall_sublist (.processTimeouts now timeout) (by simp)
    exact ⟨fun _ => trivial, fun _ => ⟨h.of_sublist hs hmax, trivial⟩⟩
  | checkTimeouts now timeout =>
    obtain ⟨hs, hmax, -⟩ := t.afterCall_sublist (.checkTimeouts now timeout) (by simp)
    exact ⟨fun _ => trivial, fun _ => ⟨h.of_sublist hs hmax, trivial⟩⟩

/-! ## Histories -/

theorem sound_init (t : ConnectionTable) {maxConnections : Nat} (hpos : 1 ≤ maxConnections)
    (hmax : maxConnections ≤ maxConnectionsBound) : Sound (t.init maxConnections).2 := by
  have hinit : (t.init maxConnections).2
      = { connections := [], maxConnections := maxConnections, nextIndex := 0 } := by
    unfold init
    rw [if_neg]
    omega
  rw [hinit]
  exact ⟨List.nodup_nil, List.nodup_nil, Nat.zero_le _⟩

/-- Soundness of index allocation. Along a history of calls on an initialised table the live
entries stay apart, and every creation returns the index of its own entry, exactly when every
creation that goes through finds the counter value unused. -/
theorem allocation_sound_iff (t : ConnectionTable) {maxConnections : Nat}
    (hpos : 1 ≤ maxConnections) (hmax : maxConnections ≤ maxConnectionsBound)
    (calls : List Call) :
    Along afterCall CallSound (t.init maxConnections).2 calls ↔
      Along afterCall AllocatesFree (t.init maxConnections).2 calls := by
  have hkeeps : ∀ (t : ConnectionTable) c, Sound t → CallSound t c → Sound (t.afterCall c) := by
    intro t c _ hcall
    exact hcall.1
  apply along_iff_along hkeeps
  · intro t c h
    exact callSound_iff h c
  · exact sound_init t hpos hmax

/-- Two connections that come and go in turn, on a table of two. -/
theorem allocation_sound_two :
    Along afterCall CallSound (init {} 2).2
      [.createConnection ⟨0x1101⟩ {}, .createConnection ⟨0x1102⟩ {},
        .removeConnectionByAddress ⟨0x1101⟩, .createConnection ⟨0x1103⟩ {}] := by
  refine (allocation_sound_iff {} (by decide) (by decide) _).mpr ?_
  refine ⟨?_, ?_, trivial, ?_, trivial⟩
  · intro _ _
    decide
  · intro _ _
    decide
  · intro _ _
    decide

/-- One connection stays open while another address connects and leaves fifteen times. -/
def longLivedPeerCalls : List Call :=
  .createConnection ⟨0x1101⟩ {} ::
    (List.replicate 15
      [Call.createConnection ⟨0x1102⟩ {}, .removeConnectionByAddress ⟨0x1102⟩]).flatten ++
    [.createConnection ⟨0x1103⟩ {}]

/-- After `longLivedPeerCalls` two live entries share index 0. -/
theorem allocation_collides :
    ¬ Along afterCall CallSound (init {} 2).2 longLivedPeerCalls := by
  intro h
  have hkeeps : ∀ (t : ConnectionTable) c, Sound t → CallSound t c → Sound (t.afterCall c) := by
    intro t c _ hcall
    exact hcall.1
  have hsound : Sound (run afterCall (init {} 2).2 longLivedPeerCalls) :=
    run_invariant_along hkeeps (sound_init {} (by decide) (by decide)) h
  have hshared : ¬ ((run afterCall (init {} 2).2 longLivedPeerCalls).connections.map
      ConnectionEntry.index).Nodup := by decide +kernel
  exact hshared hsound.indices_distinct

end ConnectionTable

end KnxStack.Transport
