import KnxStack.Transport.Transmissions

/-!
# Idle connections

Connections are removed for idleness only after six seconds without a frame: `removed_only_when_idle`
says so for every run of calls that stay clear of what the activity times do not record (`Avoids`).

- `Carried`, `Serviced`: what a maintenance call does to the entry, before and after the idle ones are
  removed.
- `Sound.processRetransmissions`, `Sound.beginProcessRetransmissions`,
  `Sound.pollProcessRetransmissions`: the maintenance calls keep the watch sound.
- `idle_of_removed`: what a removal says about the activity time.
-/

set_option autoImplicit false

namespace KnxStack.Transport

open KnxStack.Lib KnxStack.Lib.Words KnxStack.Protocol KnxStack.Datalink
open TransportLayer

namespace Watch

/-! ## Maintenance of an entry -/

/-- The entry, if there is one, is stamped with the given time unless no frame of its connection was
exchanged. -/
inductive Carried (met : IndividualAddress → Prop) (now : UInt32) (s t : TransportLayer) : Prop where
  | empty (before : s.connectionTable.connections = []) (after : t.connectionTable.connections = [])
  | entry {e e₁ : ConnectionEntry} (before : s.connectionTable.connections = [e])
      (after : t.connectionTable.connections = [e₁]) (address : e₁.remoteAddress = e.remoteAddress)
      (index : e₁.index = e.index)
      (activity : (e₁.lastActivityTimeMs = e.lastActivityTimeMs ∧ ¬ met e.remoteAddress) ∨
        e₁.lastActivityTimeMs = now)

/-- The same, and then the entry is removed if it is idle at that time. -/
structure Serviced (met : IndividualAddress → Prop) (now : UInt32) (s t s' : TransportLayer) :
    Prop where
  carried : Carried met now s t
  removal : s'.connectionTable.connections = t.connectionTable.connections.filter
    (fun e => !ConnectionTable.reachedTimeout now connectionTimeoutMs e)

section Entries

variable {met met' : IndividualAddress → Prop} {now : UInt32} {s t s' : TransportLayer}

theorem Carried.mono (h : Carried met now s t) (hmet : ∀ a, met' a → met a) :
    Carried met' now s t := by
  cases h with
  | empty before after => exact .empty before after
  | entry before after address index activity =>
    refine .entry before after address index ?_
    rcases activity with ⟨hact, hunmet⟩ | hnow
    · exact Or.inl ⟨hact, fun hm => hunmet (hmet _ hm)⟩
    · exact Or.inr hnow

theorem Carried.move (h : Carried met now s t)
    (htable : s'.connectionTable.connections = t.connectionTable.connections)
    (htime : s'.timebaseMs = now) : EntryMove met s s' := by
  cases h with
  | empty before after => exact .gone (htable.trans after) (Or.inl before)
  | entry before after address index activity =>
    rcases activity with ⟨hact, hunmet⟩ | hnow
    · exact .kept before (htable.trans after) address index hact hunmet
    · exact .touched before (htable.trans after) address index (hnow.trans htime.symm)

theorem Serviced.move (h : Serviced met now s t s') (htime : s'.timebaseMs = now)
    (hoff : s'.connectOperation.active = false) : EntryMove met s s' := by
  have hremoval := h.removal
  cases hcase : t.connectionTable.connections.filter
      (fun e => !ConnectionTable.reachedTimeout now connectionTimeoutMs e) with
  | nil => exact .gone (hremoval.trans hcase) (Or.inr (Or.inr hoff))
  | cons e₂ rest =>
    refine h.carried.move (hremoval.trans ?_) htime
    -- with one entry at most, the filter that keeps one keeps all
    cases h.carried with
    | empty before after =>
      rw [after] at hcase
      cases hcase
    | @entry e e₁ before after address index activity =>
      rw [after, List.filter_singleton] at hcase ⊢
      cases hidle : ConnectionTable.reachedTimeout now connectionTimeoutMs e₁ with
      | false => rfl
      | true =>
        rw [hidle] at hcase
        cases hcase

/-- Removal. An entry that is gone after the maintenance was idle for the timeout, and no frame of
its connection was exchanged in the call. -/
theorem Serviced.idle (h : Serviced met now s t s') {remote : IndividualAddress}
    (hfound : (s.connectionTable.findConnection remote).isSome = true)
    (hgone : s'.connectionTable.findConnection remote = none) :
    ∃ e, s.connectionTable.connections = [e] ∧ e.remoteAddress = remote ∧ ¬ met remote ∧
      6000 ≤ (now - e.lastActivityTimeMs).toNat := by
  have hremoval := h.removal
  cases h.carried with
  | empty before after =>
    rw [findConnection_empty before] at hfound
    cases hfound
  | @entry e e₁ before after address index activity =>
    have haddr : e.remoteAddress = remote := by
      rw [← withEntry_eq_self before, findConnection_withEntry] at hfound
      split at hfound
      · next haddr => exact haddr
      · cases hfound
    have hidle : ConnectionTable.reachedTimeout now connectionTimeoutMs e₁ = true := by
      cases hcase : ConnectionTable.reachedTimeout now connectionTimeoutMs e₁ with
      | true => rfl
      | false =>
        rw [after, List.filter_singleton, hcase] at hremoval
        rw [← withEntry_eq_self hremoval, findConnection_withEntry,
          if_pos (address.trans haddr)] at hgone
        cases hgone
    rw [ConnectionTable.reachedTimeout, decide_eq_true_eq, UInt32.le_iff_toNat_le] at hidle
    rcases activity with ⟨hact, hunmet⟩ | hnow
    · rw [hact] at hidle
      exact ⟨e, before, haddr, haddr ▸ hunmet, hidle⟩
    · rw [hnow, UInt32.sub_self] at hidle
      exact absurd hidle (by decide)

end Entries

theorem last_add_le_of_idle {remote : IndividualAddress} {w : Watch} (h : Sound remote w)
    (hinit : w.layer.initialized = true) (hoff : w.layer.connectOperation.active = false)
    {e : ConnectionEntry} (hconn : w.layer.connectionTable.connections = [e])
    (haddr : e.remoteAddress = remote) {T : Nat} (htime : w.timebase ≤ T)
    (hidle : 6000 ≤ (UInt32.ofNat T - e.lastActivityTimeMs).toNat) : w.last + 6000 ≤ T := by
  have he : e ∈ w.layer.connectionTable.connections := by
    rw [hconn]
    exact List.mem_cons_self
  rcases h.stamps hinit e he with ⟨hon, -⟩ | ⟨A, hA, hAle, hlast⟩
  · rw [hoff] at hon
    cases hon
  · have helapsed := elapsed_le_of_modEq (hAle.trans htime)
    rw [hA] at hidle
    have hlast' := hlast haddr
    omega

/-! ## The maintenance calls -/

theorem sendDue_cases (s : TransportLayer) (now : UInt32) (e : ConnectionEntry) :
    ((sendDue s now e).2.lastActivityTimeMs = e.lastActivityTimeMs ∧
        (sendDue s now e).1.network.sent = s.network.sent) ∨
      (sendDue s now e).2.lastActivityTimeMs = now := by
  have hdue := (dueEntry_fields now e).2.2
  rw [sendDue]
  split
  · split
    · exact Or.inr rfl
    · next hsend => exact Or.inl ⟨hdue, sent_of_refused hsend⟩
  · exact Or.inl ⟨hdue, rfl⟩

/-- `processRetransmissions`. -/
theorem serviced_processRetransmissions {s : TransportLayer} (hslot : s.OneSlot)
    (hinit : s.initialized = true) (now : UInt32) :
    ∃ t, Serviced (Meets s (.processRetransmissions now)) now s t
      (s.step (.processRetransmissions now)) := by
  rcases hslot.cases with hempty | ⟨e, hconn⟩
  · refine ⟨s, .empty hempty hempty, ?_⟩
    simp [TransportLayer.step, processRetransmissions, hinit, ConnectionTable.processRetransmissions,
      withTime, withTable, removeIdle, note, ConnectionTable.processTimeouts, hempty]
  · have hs := withEntry_eq_self hconn
    have hafter : s.step (.processRetransmissions now)
        = ((sendDue (s.withTime now) now e).1.withEntry
            (sendDue (s.withTime now) now e).2).removeIdle now := by
      rw [← processRetransmissions_withEntry s e now hinit, hs]
      rfl
    rcases sendDue_fields (s.withTime now) now e with ⟨haddr, hindex, -⟩
    refine ⟨(sendDue (s.withTime now) now e).1.withEntry (sendDue (s.withTime now) now e).2,
      .entry hconn rfl haddr hindex ?_, by rw [hafter]; rfl⟩
    rcases sendDue_cases (s.withTime now) now e with ⟨hact, hsent⟩ | hact
    · refine Or.inl ⟨hact, not_meets_of_silent rfl ?_⟩
      rw [hafter]
      exact hsent
    · exact Or.inr hact

theorem sameEntries_due {s : TransportLayer} (hslot : s.OneSlot) (now : UInt32)
    {op : RetransmissionOperationState} :
    SameEntries s { (s.withTime now).withTable (s.connectionTable.processRetransmissions now).2 with
      retransmissionOperation := op } := by
  rcases hslot.cases with hempty | ⟨e, hconn⟩
  · refine Or.inl ⟨hempty, ?_⟩
    show (s.connectionTable.processRetransmissions now).2.connections = []
    simp [ConnectionTable.processRetransmissions, hempty]
  · have hdue := (tableProcessRetransmissions_withEntry s e now).2
    rw [withEntry_eq_self hconn] at hdue
    rcases dueEntry_fields now e with ⟨haddr, hindex, hact⟩
    refine Or.inr ⟨e, dueEntry now e, hconn, ?_, haddr, hindex, hact⟩
    exact congrArg (fun t => t.connectionTable.connections) hdue

section Maintenance

variable {remote : IndividualAddress} {w : Watch}

/-- Nothing waits that the time of a maintenance call matters to. -/
structure Unhurried (w : Watch) : Prop where
  connect : w.layer.connectOperation.active = false
  response : w.layer.background.responding = false

theorem onTime_processRetransmissions (hinit : w.layer.initialized = true) {now : UInt32}
    (htime : w.timebase ≤ readClock w.clock now) :
    w.nextTimebase (.processRetransmissions now) = readClock w.clock now ∧
      OnTime w (.processRetransmissions now) := by
  have hnext : w.nextTimebase (.processRetransmissions now) = readClock w.clock now := by
    rw [nextTimebase, if_pos (show w.maintains (.processRetransmissions now) = true from hinit)]
    rfl
  have hback := background_processRetransmissions w.layer now
  rw [hinit, if_pos rfl] at hback
  refine ⟨hnext, by rw [hnext]; exact htime, ?_⟩
  rw [hnext, ofNat_readClock]
  exact congrArg Background.timebaseMs hback

/-- `processRetransmissions`. -/
theorem Sound.processRetransmissions (h : Sound remote w) (hinit : w.layer.initialized = true)
    {now : UInt32} (htime : w.timebase ≤ readClock w.clock now) (hidle : Unhurried w) :
    Sound remote (w.step remote (.processRetransmissions now)) := by
  have hback := background_processRetransmissions w.layer now
  rw [hinit, if_pos rfl] at hback
  have hback' : (w.layer.step (.processRetransmissions now)).background
      = { w.layer.background with timebaseMs := now } := hback
  rcases onTime_processRetransmissions hinit htime with ⟨hnext, honTime⟩
  have hconnect : (w.layer.step (.processRetransmissions now)).connectOperation
      = w.layer.connectOperation := congrArg Background.connectOperation hback'
  have hretr : (w.layer.step (.processRetransmissions now)).retransmissionOperation
      = w.layer.retransmissionOperation := congrArg Background.retransmissionOperation hback'
  rcases serviced_processRetransmissions h.slot hinit now with ⟨t, hserviced⟩
  have hmove := hserviced.move (congrArg Background.timebaseMs hback')
    (by rw [hconnect]; exact hidle.connect)
  refine h.of_stamps ((congrArg Background.initialized hback').trans hinit) honTime
    (stamps_of_move h hinit honTime hmove ?_) ?_ ?_
  · rintro e e' - - - ⟨hon, -⟩
    rw [hidle.connect] at hon
    cases hon
  · rw [hretr]
    intro hactive
    rcases h.begun hactive with ⟨hshown, hle⟩
    exact ⟨hshown, hle.trans honTime.1⟩
  · refine flights_of_move h hmove ?_ rfl honTime.1 honTime.2 ?_
    · intro o ho
      refine ⟨?_, congrArg Background.inFlight hback', hconnect, fun _ => hretr⟩
      have ho' : (w.layer.step (.processRetransmissions now)).background.waits o = true := ho
      rw [hback'] at ho'
      cases o with
      | transmit => exact ho'
      | connect => exact ho'
      | sendData => exact ho'
      | repetition => exact ho'
      | response => exact ho'
    · rintro o ho (rfl | rfl)
      · have hon : w.layer.connectOperation.active = true := ho
        rw [hidle.connect] at hon
        cases hon
      · have hon : w.layer.background.responding = true := ho
        rw [hidle.response] at hon
        cases hon

/-- `beginProcessRetransmissions`. -/
theorem Sound.beginProcessRetransmissions (h : Sound remote w) (hinit : w.layer.initialized = true)
    {now : UInt32} (hclear : w.layer.retransmissionOperation.active = false →
      w.timebase ≤ readClock w.clock now ∧ Unhurried w) :
    Sound remote (w.step remote (.beginProcessRetransmissions now)) := by
  cases hactive : w.layer.retransmissionOperation.active with
  | true =>
    have hquiet : w.maintains (.beginProcessRetransmissions now) = false := by
      rw [maintains, hactive, Bool.not_true, Bool.and_false]
    refine h.same hinit hquiet rfl ?_
    simp only [TransportLayer.step, TransportLayer.beginProcessRetransmissions, hinit, hactive,
      Bool.not_true, Bool.false_eq_true, if_false, if_true]
  | false =>
    rcases hclear hactive with ⟨htime, hidle⟩
    have hmaintains : w.maintains (.beginProcessRetransmissions now) = true := by
      rw [maintains, hinit, hactive]
      rfl
    have hafter : w.layer.step (.beginProcessRetransmissions now)
        = { (w.layer.withTime now).withTable (w.layer.connectionTable.processRetransmissions now).2
            with retransmissionOperation :=
              { active := true
                currentTimeMs := now
                pending := (w.layer.connectionTable.processRetransmissions now).1.data } } := by
      simp only [TransportLayer.step, TransportLayer.beginProcessRetransmissions, hinit, hactive,
        Bool.not_true, Bool.false_eq_true, if_false]
    obtain ⟨op, hop⟩ : ∃ op, op = (w.layer.step (.beginProcessRetransmissions
        now)).retransmissionOperation := ⟨_, rfl⟩
    have hopen : op.active = true ∧ op.currentTimeMs = now ∧ op.sendingCurrent = false := by
      rw [hop, hafter]
      exact ⟨rfl, rfl, rfl⟩
    have hback : (w.layer.step (.beginProcessRetransmissions now)).background
        = { w.layer.background with timebaseMs := now, retransmissionOperation := op } := by
      rw [hop, hafter]
      rfl
    have hsent : (w.layer.step (.beginProcessRetransmissions now)).network.sent
        = w.layer.network.sent := by
      rw [hafter]
      rfl
    have hnext : w.nextTimebase (.beginProcessRetransmissions now) = readClock w.clock now := by
      rw [nextTimebase, if_pos hmaintains]
      rfl
    have honTime : OnTime w (.beginProcessRetransmissions now) := by
      refine ⟨by rw [hnext]; exact htime, ?_⟩
      rw [hnext, ofNat_readClock]
      exact congrArg Background.timebaseMs hback
    have hbegun : (w.step remote (.beginProcessRetransmissions now)).begun
        = w.nextTimebase (.beginProcessRetransmissions now) := by
      show (if w.maintains (.beginProcessRetransmissions now) = true then _ else _) = _
      rw [if_pos hmaintains]
    have hsame : SameEntries w.layer (w.layer.step (.beginProcessRetransmissions now)) := by
      rw [hafter]
      exact sameEntries_due h.slot now
    refine h.of_stamps ((congrArg Background.initialized hback).trans hinit) honTime
      (stamps_of_move h hinit honTime
        (.of_kept hsame (fun a => not_meets_of_silent rfl hsent)) ?_) ?_ ?_
    · rintro e e' - - - ⟨hon, -⟩
      rw [hidle.connect] at hon
      cases hon
    · intro _
      rw [hbegun, ← hop, hopen.2.1]
      refine ⟨?_, le_rfl⟩
      rw [hnext, ofNat_readClock]
    · -- the operations that go on waiting are those that the time does not matter to
      have hwaits : ∀ o, (w.layer.step (.beginProcessRetransmissions now)).background.waits o = true →
          w.layer.background.waits o = true ∧ (o = .transmit ∨ o = .sendData) := by
        intro o ho
        rw [hback] at ho
        cases o with
        | transmit => exact ⟨ho, Or.inl rfl⟩
        | sendData => exact ⟨ho, Or.inr rfl⟩
        | connect =>
          have hon : w.layer.connectOperation.active = true := ho
          rw [hidle.connect] at hon
          cases hon
        | response =>
          have hon : w.layer.background.responding = true := ho
          rw [hidle.response] at hon
          cases hon
        | repetition =>
          have hon : (op.active && op.sendingCurrent) = true := ho
          rw [hopen.2.2, Bool.and_false] at hon
          cases hon
      constructor
      · intro o o' ho ho'
        exact h.flights.single o o' (hwaits o ho).1 (hwaits o' ho').1
      · intro o ho
        rcases hwaits o ho with ⟨hold, hkind⟩
        rcases h.flights.settled o hold with ⟨f, hf, hsettled⟩
        refine ⟨f, (congrArg Background.inFlight hback).trans hf, ?_⟩
        rcases hkind with rfl | rfl
        · exact hsettled
        · trivial

end Maintenance

/-! ## Polled maintenance -/

/-- Outcome of the search for the next repetition: the maintenance is over, the network has refused
a repetition, or one is in flight. -/
inductive NextRepetition (t t' : TransportLayer) : Prop where
  | finished (after : t' = { t.removeIdle t.retransmissionOperation.currentTimeMs with
      retransmissionOperation := {} })
  | refused {u : TransportLayer} {f : NDataFrame} {err : ErrorCode}
      (begin_eq : t.networkBegin f = (.error err, u))
      (after : t' = { u with retransmissionOperation := {} })
  | started {i : ConnectionIndex} {rest : List ConnectionIndex} {e : ConnectionEntry}
      {u : TransportLayer} (entry : t.connectionTable.getConnection i = some e)
      (begin_eq : t.networkBegin (t.repetitionFrame e) = (.ok (), u))
      (after : t' = { u with
        retransmissionOperation := { u.retransmissionOperation with
          pending := rest, sendingCurrent := true, currentConnection := i } })

theorem nextRepetition (t : TransportLayer) (pending : List ConnectionIndex) :
    NextRepetition t (t.startNextRepetition pending).2 := by
  induction pending with
  | nil => exact .finished rfl
  | cons i rest ih =>
    rw [startNextRepetition]
    split
    · exact ih
    · next e hget =>
      split
      · exact ih
      · split
        · next heq => exact .refused heq rfl
        · next heq => exact .started hget heq rfl

section PolledMaintenance

variable {remote : IndividualAddress} {w : Watch}

/-- The state in which the next repetition is looked for. -/
structure Resumed (w : Watch) (t : TransportLayer) : Prop where
  background : t.background = { w.layer.background with
    inFlight := t.network.inFlight, retransmissionOperation := t.retransmissionOperation }
  active : t.retransmissionOperation.active = true
  free : t.retransmissionOperation.sendingCurrent = false
  time : t.retransmissionOperation.currentTimeMs = w.layer.timebaseMs
  slot : t.OneSlot
  carried : Carried (fun a => ∃ f ∈ answers w.layer t, ConnectionFrame a f) w.layer.timebaseMs
    w.layer t
  others : ∀ o, o ≠ .repetition → w.layer.background.waits o = true →
    t.network.inFlight = w.layer.network.inFlight ∧ t.network.inFlight ≠ none

theorem Carried.found {met : IndividualAddress → Prop} {now : UInt32} {s t s' : TransportLayer}
    (h : Carried met now s t)
    (htable : s'.connectionTable.connections = t.connectionTable.connections)
    (hfound : (s.connectionTable.findConnection remote).isSome = true) :
    s'.connectionTable.findConnection remote ≠ none := by
  cases h with
  | empty before after =>
    rw [findConnection_empty before] at hfound
    cases hfound
  | entry before after address index activity =>
    rw [← withEntry_eq_self before, findConnection_withEntry] at hfound
    rw [← withEntry_eq_self (htable.trans after), findConnection_withEntry, address]
    split at hfound
    · next haddr =>
      rw [if_pos haddr]
      exact Option.some_ne_none _
    · cases hfound

theorem Sound.polledMaintenance (h : Sound remote w) (hinit : w.layer.initialized = true)
    (hoff : w.layer.connectOperation.active = false) {flight : Option NDataFrame}
    {op : RetransmissionOperationState}
    (hback : (w.layer.step .pollProcessRetransmissions).background
      = { w.layer.background with inFlight := flight, retransmissionOperation := op })
    (hop : op.active = true → w.layer.retransmissionOperation.active = true ∧
      op.currentTimeMs = w.layer.retransmissionOperation.currentTimeMs)
    (hmove : EntryMove (Meets w.layer .pollProcessRetransmissions) w.layer
      (w.layer.step .pollProcessRetransmissions))
    (hflights : Flights (w.step remote .pollProcessRetransmissions)) :
    Sound remote (w.step remote .pollProcessRetransmissions) := by
  have hsame : (w.layer.step .pollProcessRetransmissions).timebaseMs = w.layer.timebaseMs :=
    congrArg Background.timebaseMs hback
  have hretr : (w.layer.step .pollProcessRetransmissions).retransmissionOperation = op :=
    congrArg Background.retransmissionOperation hback
  have honTime := onTime_of_sameTime h.shown rfl (Or.inl hsame)
  refine h.of_stamps ((congrArg Background.initialized hback).trans hinit) honTime
    (stamps_of_move h hinit honTime hmove ?_) ?_ hflights
  · rintro e e' - - - ⟨hon, -⟩
    rw [hoff] at hon
    cases hon
  · apply begun_of_quiet h rfl honTime.1
    rw [hretr]
    exact hop

theorem flights_of_over (h : Sound remote w) {t : TransportLayer} (ht : Resumed w t)
    (hback : (w.layer.step .pollProcessRetransmissions).background
      = { w.layer.background with
          inFlight := t.network.inFlight, retransmissionOperation := {} })
    (hmove : EntryMove (Meets w.layer .pollProcessRetransmissions) w.layer
      (w.layer.step .pollProcessRetransmissions)) :
    Flights (w.step remote .pollProcessRetransmissions) := by
  have hsame : (w.layer.step .pollProcessRetransmissions).timebaseMs = w.layer.timebaseMs :=
    congrArg Background.timebaseMs hback
  have honTime := onTime_of_sameTime h.shown rfl (Or.inl hsame)
  refine flights_of_move h hmove ?_ (begun_step_of_quiet rfl) honTime.1 honTime.2
    (fun _ _ _ _ => hsame)
  intro o ho
  have ho' : (w.layer.step .pollProcessRetransmissions).background.waits o = true := ho
  rw [hback] at ho'
  have hother : o ≠ .repetition ∧ w.layer.background.waits o = true := by
    cases o with
    | transmit => exact ⟨by decide, ho'⟩
    | connect => exact ⟨by decide, ho'⟩
    | sendData => exact ⟨by decide, ho'⟩
    | repetition => cases ho'
    | response => exact ⟨by decide, ho'⟩
  rcases hother with ⟨hne, hold⟩
  refine ⟨hold, ?_, congrArg Background.connectOperation hback, fun heq => absurd heq hne⟩
  exact (congrArg Background.inFlight hback).trans (ht.others o hne hold).1

theorem Sound.resumed (h : Sound remote w) (hinit : w.layer.initialized = true)
    (hactive : w.layer.retransmissionOperation.active = true)
    (hoff : w.layer.connectOperation.active = false) (hbegun : w.begun = w.timebase)
    {t : TransportLayer} (ht : Resumed w t)
    (hnext : NextRepetition t (w.layer.step .pollProcessRetransmissions)) :
    Sound remote (w.step remote .pollProcessRetransmissions) ∧
      ((w.layer.connectionTable.findConnection remote).isSome = true →
        (w.layer.step .pollProcessRetransmissions).connectionTable.findConnection remote = none →
        (w.step remote .pollProcessRetransmissions).last + 6000 ≤ w.begun) := by
  -- whatever is found, no further frame goes out in this call
  have hcarried : (w.layer.step .pollProcessRetransmissions).network.sent = t.network.sent →
      Carried (Meets w.layer .pollProcessRetransmissions) w.layer.timebaseMs w.layer t := by
    intro hsent
    refine ht.carried.mono ?_
    intro a hmet
    rcases (meets_iff_of_silent rfl).mp hmet with ⟨f, hf, hframe⟩
    rw [answers, hsent] at hf
    exact ⟨f, hf, hframe⟩
  have hoverOp : ({} : RetransmissionOperationState).active = true →
      w.layer.retransmissionOperation.active = true ∧
        ({} : RetransmissionOperationState).currentTimeMs
          = w.layer.retransmissionOperation.currentTimeMs := fun hon => by cases hon
  cases hnext with
  | finished after =>
    have hback : (w.layer.step .pollProcessRetransmissions).background
        = { w.layer.background with
            inFlight := t.network.inFlight, retransmissionOperation := {} } := by
      rw [after]
      show { t.background with retransmissionOperation := {} } = _
      rw [ht.background]
    have hserviced : Serviced (Meets w.layer .pollProcessRetransmissions) w.layer.timebaseMs w.layer t
        (w.layer.step .pollProcessRetransmissions) := by
      refine ⟨hcarried (by rw [after]; rfl), ?_⟩
      rw [after, ht.time]
      rfl
    have hmove := hserviced.move (congrArg Background.timebaseMs hback)
      (by rw [show (w.layer.step .pollProcessRetransmissions).connectOperation
            = w.layer.connectOperation from congrArg Background.connectOperation hback]
          exact hoff)
    refine ⟨h.polledMaintenance hinit hoff hback hoverOp hmove (flights_of_over h ht hback hmove), ?_⟩
    intro hfound hgone
    rcases hserviced.idle hfound hgone with ⟨e, hconn, haddr, hunmet, hidle⟩
    rw [last_step_of_unmet hconn haddr hunmet]
    rw [h.shown, ← hbegun] at hidle
    exact last_add_le_of_idle h hinit hoff hconn haddr hbegun.ge hidle
  | @refused u f err begin_eq after =>
    rcases begun_networkBegin begin_eq with ⟨hu, hbegin⟩
    cases hbegin with
    | refused background sent =>
      have hback : (w.layer.step .pollProcessRetransmissions).background
          = { w.layer.background with
              inFlight := t.network.inFlight, retransmissionOperation := {} } := by
        rw [after]
        show { u.background with retransmissionOperation := {} } = _
        rw [background, ht.background]
      have htable : (w.layer.step .pollProcessRetransmissions).connectionTable.connections
          = t.connectionTable.connections := by rw [after, hu]
      have hkept := hcarried (by rw [after]; exact sent)
      have hmove := hkept.move htable (congrArg Background.timebaseMs hback)
      refine ⟨h.polledMaintenance hinit hoff hback hoverOp hmove
        (flights_of_over h ht hback hmove), ?_⟩
      exact fun hfound hgone => absurd hgone (hkept.found htable hfound)
  | @started i rest e u entry begin_eq after =>
    rcases begun_networkBegin begin_eq with ⟨hu, hbegin⟩
    cases hbegin with
    | started free background sent =>
      have hop : u.retransmissionOperation = t.retransmissionOperation := by rw [hu]
      obtain ⟨op, hop'⟩ : ∃ op, op = { u.retransmissionOperation with
          pending := rest, sendingCurrent := true, currentConnection := i } := ⟨_, rfl⟩
      rw [← hop'] at after
      have hback : (w.layer.step .pollProcessRetransmissions).background
          = { w.layer.background with
              inFlight := some (t.repetitionFrame e), retransmissionOperation := op } := by
        rw [after]
        show { u.background with retransmissionOperation := op } = _
        rw [background, ht.background]
      have htable : (w.layer.step .pollProcessRetransmissions).connectionTable.connections
          = t.connectionTable.connections := by rw [after, hu]
      have hkept := hcarried (by rw [after]; exact sent)
      have hmove := hkept.move htable (congrArg Background.timebaseMs hback)
      refine ⟨h.polledMaintenance hinit hoff hback ?_ hmove ?_, ?_⟩
      · intro _
        rw [hop', hop]
        refine ⟨hactive, ht.time.trans ?_⟩
        rw [(h.begun hactive).1, hbegun]
        exact h.shown
      · refine flights_of_one (o := .repetition) ?_ (congrArg Background.inFlight hback) ?_
        · intro o ho
          have ho' : (w.layer.step .pollProcessRetransmissions).background.waits o = true := ho
          by_contra hne
          have hold : w.layer.background.waits o = true := by
            rw [hback] at ho'
            cases o with
            | transmit => exact ho'
            | connect => exact ho'
            | sendData => exact ho'
            | repetition => exact absurd rfl hne
            | response => exact ho'
          exact (ht.others o hne hold).2 free
        · -- the repetition is that of the only entry
          intro _ e' he' _
          left
          have hmem : e' ∈ (w.layer.step .pollProcessRetransmissions).connectionTable.connections :=
            he'
          rcases ht.slot.withEntry_of_get entry with ⟨hs, hindex⟩
          rw [htable, connections_of_eq hs.symm, List.mem_singleton] at hmem
          show e'.index
            = (w.layer.step .pollProcessRetransmissions).retransmissionOperation.currentConnection
          rw [show (w.layer.step .pollProcessRetransmissions).retransmissionOperation = op from
            congrArg Background.retransmissionOperation hback, hop', hmem]
          exact hindex
      · exact fun hfound hgone => absurd hgone (hkept.found htable hfound)

/-- Before a repetition is in flight the state itself is the one in which the next is looked for. -/
theorem resumed_self (h : Sound remote w)
    (hactive : w.layer.retransmissionOperation.active = true)
    (hfree : w.layer.retransmissionOperation.sendingCurrent = false)
    (hbegun : w.begun = w.timebase) : Resumed w w.layer := by
  refine ⟨rfl, hactive, hfree, ?_, h.slot, ?_, ?_⟩
  · rw [(h.begun hactive).1, hbegun, h.shown]
  · have hnone : ∀ a, ¬ ∃ f ∈ answers w.layer w.layer, ConnectionFrame a f := by
      rintro a ⟨f, hf, -⟩
      rw [answers_eq_nil rfl] at hf
      cases hf
    rcases h.slot.cases with hempty | ⟨e, hconn⟩
    · exact .empty hempty hempty
    · exact .entry hconn hconn rfl rfl (Or.inl ⟨rfl, hnone _⟩)
  · intro o _ ho
    rcases h.flights.settled o ho with ⟨f, hf, -⟩
    exact ⟨rfl, by rw [hf]; exact Option.some_ne_none f⟩

/-- The state after a repetition went out. -/
def repetitionDone (u : TransportLayer) (op : RetransmissionOperationState) : TransportLayer :=
  { u.markRepeated op.currentConnection op.currentTimeMs with
    retransmissionOperation := { op with sendingCurrent := false, currentConnection := .invalid } }

theorem repetitionDone_facts (u : TransportLayer) (op : RetransmissionOperationState) :
    (repetitionDone u op).background = { u.background with
        retransmissionOperation := { op with sendingCurrent := false, currentConnection := .invalid } } ∧
      (repetitionDone u op).network = u.network ∧
      (repetitionDone u op).connectionTable
        = (u.markRepeated op.currentConnection op.currentTimeMs).connectionTable :=
  ⟨rfl, rfl, rfl⟩

theorem resumed_done (h : Sound remote w)
    (hactive : w.layer.retransmissionOperation.active = true)
    (hsending : w.layer.retransmissionOperation.sendingCurrent = true)
    (hbegun : w.begun = w.timebase) {u : TransportLayer}
    (hu : u = { w.layer with network := u.network }) (hpolled : Polled w.layer u (.ok .success)) :
    Resumed w (repetitionDone u w.layer.retransmissionOperation) := by
  obtain ⟨op, hop⟩ : ∃ op, op = w.layer.retransmissionOperation := ⟨_, rfl⟩
  have hwaits : w.layer.background.waits .repetition = true := by
    show (w.layer.retransmissionOperation.active &&
      w.layer.retransmissionOperation.sendingCurrent) = true
    rw [hactive, hsending]
    rfl
  have htime : op.currentTimeMs = w.layer.timebaseMs := by
    rw [hop, (h.begun hactive).1, hbegun, h.shown]
  rcases h.flights.settled .repetition hwaits with ⟨f, hflight, hsettled⟩
  have hfresh := hsettled hbegun
  rw [← hop] at hfresh ⊢
  rcases hpolled.over (by simp) hflight with ⟨hback, hsent⟩
  rcases repetitionDone_facts u op with ⟨hback', hnet, htable⟩
  have hslot : u.OneSlot := h.slot.congr (by rw [hu])
  refine ⟨?_, by rw [hop] at *; exact hactive, rfl, htime,
    (hslot.markRepeated op.currentConnection op.currentTimeMs).congr htable, ?_, ?_⟩
  · have hnone : (repetitionDone u op).network.inFlight = none := by
      rw [hnet]
      exact congrArg Background.inFlight hback
    rw [hback', hback, hnone]
    rfl
  · -- the frame belongs to the entry that is marked, or to one that carries the time already
    rcases h.slot.cases with hempty | ⟨e, hconn⟩
    · refine .empty hempty ?_
      rw [htable, hu]
      simp [markRepeated, ConnectionTable.markDataSent, ConnectionTable.getConnection,
        ConnectionTable.updateByIndex, ConnectionTable.updateActivityTime, withTable, hempty]
    · have hconnu : u.connectionTable.connections = [e] := by
        rw [hu]
        exact hconn
      have hafter : (repetitionDone u op).connectionTable.connections
          = [if e.index = op.currentConnection then repeatedEntry op.currentTimeMs e else e] := by
        rw [htable]
        have hmark := markRepeated_withEntry u e op.currentConnection op.currentTimeMs
        rw [withEntry_eq_self hconnu] at hmark
        rw [hmark]
        rfl
      by_cases hindex : e.index = op.currentConnection
      · rw [if_pos hindex] at hafter
        exact .entry hconn hafter rfl rfl (Or.inr htime)
      · rw [if_neg hindex] at hafter
        refine .entry hconn hafter rfl rfl ?_
        by_cases hframe : ConnectionFrame e.remoteAddress f
        · right
          have he : e ∈ w.layer.connectionTable.connections := by
            rw [hconn]
            exact List.mem_cons_self
          rcases hfresh e he hframe with heq | hact
          · exact absurd heq hindex
          · exact hact
        · refine Or.inl ⟨rfl, ?_⟩
          rintro ⟨g, hg, hframe'⟩
          rw [answers_subset (by rw [hnet]; exact hsent) hg] at hframe'
          exact hframe hframe'
  · intro o hne ho
    exact absurd (h.flights.single o .repetition ho hwaits) hne

/-- `pollProcessRetransmissions`. -/
theorem Sound.pollProcessRetransmissions (h : Sound remote w) (hinit : w.layer.initialized = true)
    (hclear : w.layer.retransmissionOperation.active = true →
      w.begun = w.timebase ∧ w.layer.connectOperation.active = false) :
    Sound remote (w.step remote .pollProcessRetransmissions) ∧
      ((w.layer.connectionTable.findConnection remote).isSome = true →
        (w.layer.step .pollProcessRetransmissions).connectionTable.findConnection remote = none →
        (w.step remote .pollProcessRetransmissions).last + 6000 ≤ w.begun) := by
  -- a call that leaves the entry alone removes none
  have hkept : (w.layer.step .pollProcessRetransmissions).connectionTable.connections
        = w.layer.connectionTable.connections →
      (w.layer.connectionTable.findConnection remote).isSome = true →
      (w.layer.step .pollProcessRetransmissions).connectionTable.findConnection remote = none →
      (w.step remote .pollProcessRetransmissions).last + 6000 ≤ w.begun := by
    intro hsame hfound hgone
    rw [ConnectionTable.findConnection, hsame, ← ConnectionTable.findConnection, Option.isSome_iff_ne_none] at *
    exact absurd hgone hfound
  cases hactive : w.layer.retransmissionOperation.active with
  | false =>
    have hafter : w.layer.step .pollProcessRetransmissions = w.layer := by
      simp only [TransportLayer.step, TransportLayer.pollProcessRetransmissions, hinit, hactive,
        Bool.not_true, Bool.not_false, Bool.false_eq_true, if_false, if_true]
    exact ⟨h.same hinit rfl rfl hafter, hkept (by rw [hafter])⟩
  | true =>
    rcases hclear hactive with ⟨hbegun, hoff⟩
    cases hsending : w.layer.retransmissionOperation.sendingCurrent with
    | false =>
      have hafter : w.layer.step .pollProcessRetransmissions
          = (w.layer.startNextRepetition w.layer.retransmissionOperation.pending).2 := by
        simp only [TransportLayer.step, TransportLayer.pollProcessRetransmissions, hinit, hactive,
          hsending, Bool.not_true, Bool.false_eq_true, if_false]
      refine h.resumed hinit hactive hoff hbegun (resumed_self h hactive hsending hbegun) ?_
      rw [hafter]
      exact nextRepetition _ _
    | true =>
      obtain ⟨r, u, hpoll⟩ : ∃ r u, w.layer.networkPoll = (r, u) := ⟨_, _, rfl⟩
      rcases polled_networkPoll hpoll with ⟨hu, hpolled⟩
      have hop : u.retransmissionOperation = w.layer.retransmissionOperation := by rw [hu]
      have hwaits : w.layer.background.waits .repetition = true := by
        show (w.layer.retransmissionOperation.active &&
          w.layer.retransmissionOperation.sendingCurrent) = true
        rw [hactive, hsending]
        rfl
      cases hpolled with
      | waiting background sent =>
        have hafter : w.layer.step .pollProcessRetransmissions = u := by
          simp only [TransportLayer.step, TransportLayer.pollProcessRetransmissions, hinit, hactive,
            hsending, hpoll, Bool.not_true, Bool.false_eq_true, if_false, if_true]
        exact ⟨h.waiting hinit rfl rfl hafter hu (.waiting background sent),
          hkept (by rw [hafter, hu])⟩
      | success flight background sent =>
        have hafter : w.layer.step .pollProcessRetransmissions
            = ((repetitionDone u w.layer.retransmissionOperation).startNextRepetition
                w.layer.retransmissionOperation.pending).2 := by
          simp only [TransportLayer.step, TransportLayer.pollProcessRetransmissions, hinit, hactive,
            hsending, hpoll, hop, Bool.not_true, Bool.false_eq_true, if_false, if_true,
            repetitionDone]
        refine h.resumed hinit hactive hoff hbegun
          (resumed_done h hactive hsending hbegun hu (.success flight background sent)) ?_
        rw [hafter]
        exact nextRepetition _ _
      | failed ended background sent =>
        have hafter : w.layer.step .pollProcessRetransmissions
            = { u with retransmissionOperation := {} } := by
          rcases ended with ⟨hpending, hsuccess⟩
          simp only [TransportLayer.step, TransportLayer.pollProcessRetransmissions, hinit, hactive,
            hsending, hpoll, Bool.not_true, Bool.false_eq_true, if_false, if_true]
        have htable : (w.layer.step .pollProcessRetransmissions).connectionTable.connections
            = w.layer.connectionTable.connections := by rw [hafter, hu]
        refine ⟨h.landed hinit rfl hwaits ?_ (.of_same h.slot htable ?_) (fun heq => by cases heq),
          hkept htable⟩
        · rw [hafter]
          show { u.background with retransmissionOperation := {} } = _
          rw [background]
          rfl
        · intro e _
          refine not_meets_of_silent rfl ?_
          rw [hafter]
          exact sent

end PolledMaintenance

/-! ## Every call -/

/-- Time of a removal for idleness. Numbered data that is repeated calls the maintenance as well, with
the time base as its time. -/
def removalTime (w : Watch) : Call → Option Nat
  | .processRetransmissions now => some (readClock w.clock now)
  | .pollProcessRetransmissions => some w.begun
  | .handleNetworkRx frame =>
      match classify frame.dlFrame.tpdu.data with
      | .tDataConnected _ => some (w.nextTimebase (.handleNetworkRx frame))
      | _ => none
  | _ => none

/-- If the call removes the connection with the device for idleness, six seconds have passed since the
latest of its creation and its last frame. -/
def RemovedWhenIdle (remote : IndividualAddress) (w : Watch) (c : Call) : Prop :=
  ∀ T, w.removalTime c = some T →
    (w.layer.connectionTable.findConnection remote).isSome = true →
    (w.layer.step c).connectionTable.findConnection remote = none →
    (w.step remote c).last + 6000 ≤ T

/-- The call stays clear of what the activity times do not record.

- Maintenance is not called while a connect operation or the acknowledgement of received data waits
  for the network, nor for a time that the starting clock has run ahead of.
- Polled maintenance is continued while the time base stands where it stood when it began.
- Frames handed to `sendFrame` and `beginTransmit` are not sent on a connection.
- The connection of data in flight stays open until its transmission is polled. -/
def Avoids (w : Watch) : Call → Prop
  | .processRetransmissions now =>
      w.layer.initialized = true → w.timebase ≤ readClock w.clock now ∧ Unhurried w
  | .beginProcessRetransmissions now =>
      w.layer.initialized = true → w.layer.retransmissionOperation.active = false →
        w.timebase ≤ readClock w.clock now ∧ Unhurried w
  | .pollProcessRetransmissions =>
      w.layer.retransmissionOperation.active = true →
        w.begun = w.timebase ∧ w.layer.connectOperation.active = false
  | .sendFrame frame => w.layer.initialized = true → SentConnectionless w.layer frame
  | .beginTransmit frame =>
      w.layer.initialized = true → w.layer.sendActive = false → SentConnectionless w.layer frame
  | .pollConnectedDataSend =>
      w.layer.connectedSendOperation.active = true → ∃ e,
        w.layer.connectionTable.getConnection w.layer.connectedSendOperation.connectionIndex
            = some e ∧ e.stateMachine.state = .connected
  | _ => True

section Calls

variable {remote : IndividualAddress} {w : Watch}

/-- Before `init` the calls leave the operations alone. -/
theorem background_uninitialized {s : TransportLayer} (hoff : s.initialized = false) {c : Call}
    (hinit : ∀ a, c ≠ .init a) : (s.step c).background = s.background := by
  cases c with
  | init a => exact absurd rfl (hinit a)
  | setOwnAddress a => rfl
  | setReceiveCallback installed => rfl
  | setTxTransform transform => rfl
  | setRxTransform transform => rfl
  | popReceivedFrame =>
    rw [TransportLayer.step, popReceivedFrame]
    split
    · rfl
    · rfl
  | close => simp only [TransportLayer.step, close, hoff, Bool.false_eq_true, if_false]
  | sendFrame frame =>
    simp only [TransportLayer.step, sendFrame, hoff, Bool.not_false, if_true]
  | beginTransmit frame =>
    simp only [TransportLayer.step, TransportLayer.beginTransmit, hoff, Bool.not_false, if_true]
  | pollTransmit =>
    simp only [TransportLayer.step, TransportLayer.pollTransmit, hoff, Bool.not_false, if_true]
  | connect a => simp only [TransportLayer.step, connect, hoff, Bool.not_false, if_true]
  | beginConnect a => simp only [TransportLayer.step, beginConnect, hoff, Bool.not_false, if_true]
  | pollConnect => simp only [TransportLayer.step, pollConnect, hoff, Bool.not_false, if_true]
  | disconnect i => simp only [TransportLayer.step, disconnect, hoff, Bool.not_false, if_true]
  | sendConnectedData i data =>
    simp only [TransportLayer.step, sendConnectedData, hoff, Bool.not_false, if_true]
  | beginSendConnectedData i data =>
    simp only [TransportLayer.step, beginSendConnectedData, hoff, Bool.not_false, if_true]
  | pollConnectedDataSend =>
    simp only [TransportLayer.step, pollConnectedDataSend, hoff, Bool.not_false, if_true]
  | processRetransmissions now =>
    simp only [TransportLayer.step, processRetransmissions, hoff, Bool.not_false, if_true]
  | beginProcessRetransmissions now =>
    simp only [TransportLayer.step, beginProcessRetransmissions, hoff, Bool.not_false, if_true]
  | pollProcessRetransmissions =>
    simp only [TransportLayer.step, pollProcessRetransmissions, hoff, Bool.not_false, if_true]
  | handleNetworkRx frame =>
    simp only [TransportLayer.step, handleNetworkRx, hoff, Bool.not_false, if_true]
  | beginHandleNetworkRx frame =>
    simp only [TransportLayer.step, beginHandleNetworkRx, hoff, Bool.not_false, if_true]
  | pollHandleNetworkRx =>
    simp only [TransportLayer.step, pollHandleNetworkRx, hoff, Bool.not_false, if_true]

/-- A call that finds or leaves no operation in progress, and no entry of an initialised layer. -/
theorem Sound.cleared (h : Sound remote w) {c : Call} (hquiet : w.maintains c = false)
    (htime : (w.layer.step c).timebaseMs = w.layer.timebaseMs)
    (hnone : ∀ o, (w.layer.step c).background.waits o = false)
    (hretr : (w.layer.step c).retransmissionOperation.active = true →
      w.layer.retransmissionOperation.active = true ∧
        (w.layer.step c).retransmissionOperation.currentTimeMs
          = w.layer.retransmissionOperation.currentTimeMs)
    (hempty : (w.layer.step c).initialized = true →
      (w.layer.step c).connectionTable.connections = []) : Sound remote (w.step remote c) := by
  have honTime := onTime_of_sameTime h.shown hquiet (Or.inl htime)
  refine ⟨oneSlot_step w.layer c h.slot, honTime.2, last_step_le h.last_le honTime.1,
    begun_of_quiet h hquiet honTime.1 hretr, flights_of_none hnone, fun _ => hnone, ?_⟩
  intro hon e he
  have hmem : e ∈ (w.layer.step c).connectionTable.connections := he
  rw [hempty hon] at hmem
  cases hmem

/-- Before `init`. -/
theorem Sound.uninitialized (h : Sound remote w) (hoff : w.layer.initialized = false) {c : Call}
    (hinit : ∀ a, c ≠ .init a) : Sound remote (w.step remote c) := by
  have hback := background_uninitialized hoff hinit
  have hquiet : w.maintains c = false := by
    cases c with
    | processRetransmissions now => exact hoff
    | beginProcessRetransmissions now => rw [maintains, hoff, Bool.false_and]
    | _ => rfl
  refine h.cleared hquiet (congrArg Background.timebaseMs hback) ?_ ?_ ?_
  · rw [hback]
    exact h.idle hoff
  · rw [show (w.layer.step c).retransmissionOperation = w.layer.retransmissionOperation from
      congrArg Background.retransmissionOperation hback]
    exact fun hr => ⟨hr, rfl⟩
  · intro hon
    have hoff' : (w.layer.step c).initialized = false :=
      (congrArg Background.initialized hback).trans hoff
    rw [hoff'] at hon
    cases hon

/-- `init`: the table starts empty. -/
theorem Sound.init (h : Sound remote w) (a : IndividualAddress) :
    Sound remote (w.step remote (.init a)) := by
  cases hon : w.layer.initialized with
  | true =>
    refine h.same hon rfl rfl ?_
    simp only [TransportLayer.step, TransportLayer.init, hon, if_true]
  | false =>
    have hafter : w.layer.step (.init a) = { w.layer with
        ownAddress := a
        connectionTable := (w.layer.connectionTable.init defaultMaxConnections).2
        initialized := true } := by
      simp only [TransportLayer.step, TransportLayer.init, hon, Bool.false_eq_true, if_false]
      rfl
    have hback : (w.layer.step (.init a)).background
        = { w.layer.background with initialized := true } := by
      rw [hafter]
      rfl
    have hidle := h.idle hon
    refine h.cleared rfl (congrArg Background.timebaseMs hback) ?_ ?_ ?_
    · intro o
      rw [hback]
      cases o with
      | transmit => exact hidle .transmit
      | connect => exact hidle .connect
      | sendData => exact hidle .sendData
      | repetition => exact hidle .repetition
      | response => exact hidle .response
    · rw [show (w.layer.step (.init a)).retransmissionOperation = w.layer.retransmissionOperation from
        congrArg Background.retransmissionOperation hback]
      exact fun hr => ⟨hr, rfl⟩
    · intro _
      rw [hafter]
      rfl

/-- `close`: no operation goes on. -/
theorem Sound.close (h : Sound remote w) (hinit : w.layer.initialized = true) :
    Sound remote (w.step remote .close) := by
  have hback : (w.layer.step .close).background
      = { w.layer.background with
          transmitting := false
          sendingData := false
          connectOperation := {}
          retransmissionOperation := {}
          responding := false
          initialized := false } := by
    simp only [TransportLayer.step, TransportLayer.close, hinit, if_true]
    rfl
  refine h.cleared rfl (congrArg Background.timebaseMs hback) ?_ ?_ ?_
  · intro o
    rw [hback]
    cases o with
    | transmit => rfl
    | connect => rfl
    | sendData => rfl
    | repetition => rfl
    | response => rfl
  · rw [show (w.layer.step .close).retransmissionOperation = {} from
      congrArg Background.retransmissionOperation hback]
    exact fun hr => by cases hr
  · intro hon
    rw [show (w.layer.step .close).initialized = false from
      congrArg Background.initialized hback] at hon
    cases hon

theorem sound_step {c : Call} (h : Sound remote w) (havoids : Avoids w c) :
    Sound remote (w.step remote c) := by
  by_cases hset : ∃ a, c = .init a
  · rcases hset with ⟨a, rfl⟩
    exact h.init a
  · cases hinit : w.layer.initialized with
    | false => exact h.uninitialized hinit (fun a hc => hset ⟨a, hc⟩)
    | true =>
      cases c with
      | init a => exact absurd ⟨a, rfl⟩ hset
      | setOwnAddress a => exact h.unchanged hinit rfl rfl rfl rfl rfl
      | setReceiveCallback installed => exact h.unchanged hinit rfl rfl rfl rfl rfl
      | setTxTransform transform => exact h.unchanged hinit rfl rfl rfl rfl rfl
      | setRxTransform transform => exact h.unchanged hinit rfl rfl rfl rfl rfl
      | popReceivedFrame =>
        have hpop : ∃ queue, w.layer.step .popReceivedFrame = { w.layer with rxQueue := queue } := by
          rw [TransportLayer.step, popReceivedFrame]
          split
          · exact ⟨w.layer.rxQueue, rfl⟩
          · next rest _ => exact ⟨rest, rfl⟩
        rcases hpop with ⟨queue, hafter⟩
        exact h.unchanged hinit rfl rfl (by rw [hafter]; rfl) (by rw [hafter]) (by rw [hafter])
      | close => exact h.close hinit
      | sendFrame frame =>
        exact h.undisturbed hinit rfl (undisturbed_sendFrame h.slot hinit (havoids hinit))
      | beginTransmit frame => exact h.beginTransmit hinit (havoids hinit)
      | pollTransmit => exact h.pollTransmit hinit
      | connect a => exact h.undisturbed hinit rfl (undisturbed_connect h.slot hinit a)
      | beginConnect a => exact h.beginConnect hinit a
      | pollConnect => exact h.pollConnect hinit
      | disconnect i => exact h.undisturbed hinit rfl (undisturbed_disconnect h.slot hinit i)
      | sendConnectedData i data =>
        exact h.undisturbed hinit rfl (undisturbed_sendConnectedData h.slot hinit i data)
      | beginSendConnectedData i data => exact h.beginSendConnectedData hinit i data
      | pollConnectedDataSend => exact h.pollConnectedDataSend hinit havoids
      | processRetransmissions now =>
        rcases havoids hinit with ⟨htime, hidle⟩
        exact h.processRetransmissions hinit htime hidle
      | beginProcessRetransmissions now => exact h.beginProcessRetransmissions hinit (havoids hinit)
      | pollProcessRetransmissions => exact (h.pollProcessRetransmissions hinit havoids).1
      | handleNetworkRx frame =>
        exact h.undisturbed hinit rfl (undisturbed_handleNetworkRx h.slot hinit frame)
      | beginHandleNetworkRx frame => exact h.beginHandleNetworkRx hinit frame
      | pollHandleNetworkRx => exact h.pollHandleNetworkRx hinit

/-! ## Removals -/

/-- Numbered data removes no connection: its own is stamped before the maintenance is called. -/
theorem found_numberedData {s : TransportLayer} (hslot : s.OneSlot) {frame : NDataFrame}
    {seqNum : UInt8} (hclass : classify frame.dlFrame.tpdu.data = .tDataConnected seqNum)
    (hfound : (s.connectionTable.findConnection remote).isSome = true) :
    ((s.step (.handleNetworkRx frame)).connectionTable.findConnection remote).isSome = true := by
  cases hinit : s.initialized with
  | false =>
    simp only [TransportLayer.step, handleNetworkRx, hinit, Bool.not_false, if_true]
    exact hfound
  | true =>
    have hne : frame.dlFrame.tpdu.data ≠ [] := by
      intro hnil
      rw [hnil, classify_nil] at hclass
      cases hclass
    have hafter : s.step (.handleNetworkRx frame) = s.startClock.handleNumberedData
        frame.dlFrame.source seqNum frame.dlFrame.tpdu frame.dlFrame.priority := by
      have hrx := handleNetworkRx_eq_dispatch hinit hne
      rw [dispatch, hclass] at hrx
      exact hrx
    have hslot₁ := hslot.startClock
    rw [← table_startClock] at hfound
    rw [hafter]
    cases hfind : s.startClock.connectionTable.findConnection frame.dlFrame.source with
    | none =>
      simp only [handleNumberedData, hfind]
      exact hfound
    | some e =>
      rcases hslot₁.withEntry_of_find hfind with ⟨hs, haddr⟩
      have hself := handleNumberedData_self e (s := s.startClock)
        (by rw [initialized_startClock]; exact hinit) seqNum frame.dlFrame.tpdu
        frame.dlFrame.priority
      rw [hs, haddr] at hself
      rcases hself with ⟨e', hconn', haddr', -⟩
      rw [← hs, findConnection_withEntry, haddr] at hfound
      rw [← withEntry_eq_self hconn', findConnection_withEntry, haddr']
      split at hfound
      · next hremote =>
        rw [if_pos hremote]
        rfl
      · cases hfound

theorem removedWhenIdle_of_sound {c : Call} (h : Sound remote w) (havoids : Avoids w c) :
    RemovedWhenIdle remote w c := by
  intro T hT hfound hgone
  cases c with
  | processRetransmissions now =>
    cases hT
    cases hinit : w.layer.initialized with
    | false =>
      have hafter : w.layer.step (.processRetransmissions now) = w.layer := by
        simp only [TransportLayer.step, processRetransmissions, hinit, Bool.not_false, if_true]
      rw [hafter] at hgone
      rw [hgone] at hfound
      cases hfound
    | true =>
      rcases havoids hinit with ⟨htime, hidle⟩
      rcases serviced_processRetransmissions h.slot hinit now with ⟨t, hserviced⟩
      rcases hserviced.idle hfound hgone with ⟨e, hconn, haddr, hunmet, helapsed⟩
      rw [last_step_of_unmet hconn haddr hunmet]
      rw [← ofNat_readClock w.clock now] at helapsed
      exact last_add_le_of_idle h hinit hidle.connect hconn haddr htime helapsed
  | pollProcessRetransmissions =>
    cases hT
    cases hinit : w.layer.initialized with
    | false =>
      have hafter : w.layer.step .pollProcessRetransmissions = w.layer := by
        simp only [TransportLayer.step, pollProcessRetransmissions, hinit, Bool.not_false, if_true]
      rw [hafter] at hgone
      rw [hgone] at hfound
      cases hfound
    | true => exact (h.pollProcessRetransmissions hinit havoids).2 hfound hgone
  | handleNetworkRx frame =>
    cases hclass : classify frame.dlFrame.tpdu.data with
    | tDataConnected seqNum =>
      have hkept := found_numberedData h.slot hclass hfound
      rw [hgone] at hkept
      cases hkept
    | _ =>
      rw [removalTime, hclass] at hT
      cases hT
  | _ => cases hT

theorem sound_start (remote : IndividualAddress) (network : NetworkPort) :
    Sound remote { layer := { network := network } } where
  slot := ⟨Nat.zero_le _, Nat.zero_le _, show (0 : UInt8).toNat < 16 by decide⟩
  shown := rfl
  last_le := le_rfl
  begun := fun hactive => by cases hactive
  flights := flights_of_none (fun o => by cases o <;> rfl)
  idle := fun _ o => by cases o <;> rfl
  stamps := fun hon => by cases hon

end Calls

/-- Idle removals. In every run of calls that stay clear of the gaps in the activity times, a
connection is removed for idleness only when at least six seconds have passed since the latest of its
creation and its last frame. -/
theorem removed_only_when_idle (network : NetworkPort) (remote : IndividualAddress)
    (calls : List Call)
    (havoids : Along (step remote) Avoids { layer := { network := network } } calls) :
    Along (step remote) (RemovedWhenIdle remote) { layer := { network := network } } calls := by
  exact along_of_along (fun w c h hc => sound_step h hc)
    (fun w c h hc => removedWhenIdle_of_sound h hc) (sound_start remote network) havoids

/-- A connection opened by `connect` and left alone is removed six seconds later. -/
theorem removed_after_six_seconds :
    Along (step ⟨0x1102⟩) (RemovedWhenIdle ⟨0x1102⟩) { layer := {} }
        [.init ⟨0x1101⟩, .processRetransmissions 1000, .connect ⟨0x1102⟩,
          .processRetransmissions 7000] ∧
      (run TransportLayer.step {} [.init ⟨0x1101⟩, .processRetransmissions 1000,
        .connect ⟨0x1102⟩]).connectionTable.connections.length = 1 ∧
      (run TransportLayer.step {} [.init ⟨0x1101⟩, .processRetransmissions 1000,
        .connect ⟨0x1102⟩, .processRetransmissions 7000]).connectionTable.connections = [] := by
  refine ⟨removed_only_when_idle {} ⟨0x1102⟩ _ ?_, by decide, by decide⟩
  exact ⟨trivial, fun _ => ⟨by decide, by decide, by decide⟩, trivial,
    fun _ => ⟨by decide, by decide, by decide⟩, trivial⟩

/-- The entry of `beginConnect` is removed by a maintenance call ten milliseconds later, before
`pollConnect` has set its activity time. -/
theorem begun_connect_removed :
    ¬ Along (step ⟨0x1102⟩) (RemovedWhenIdle ⟨0x1102⟩) { layer := {} }
      [.init ⟨0x1101⟩, .processRetransmissions 10000, .beginConnect ⟨0x1102⟩,
        .processRetransmissions 10010] := by
  rintro ⟨-, -, -, hremoved, -⟩
  have hlast := hremoved 10010 (by decide) (by decide) (by decide)
  exact absurd hlast (by decide)

end Watch

end KnxStack.Transport
