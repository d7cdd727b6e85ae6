import KnxStack.Transport.Watch

/-!
# Transmissions under watch

The calls that start a transmission or poll for its end keep `Watch.Sound`, and so do the calls that
act at once. What the network does with a transmission is said once (`Begun`, `Polled`); a call that
waits for nothing is `Sound.undisturbed`, one that starts a transmission `Sound.started`, and one that
ends it `Sound.landed`.
-/

set_option autoImplicit false

namespace KnxStack.Transport

open KnxStack.Lib KnxStack.Lib.Words KnxStack.Protocol KnxStack.Datalink

namespace TransportLayer

/-! ## Transmissions -/

/-- A transmission has started, or the network has refused it. -/
inductive Begun (s u : TransportLayer) (f : NDataFrame) : Result Unit → Prop where
  | started (free : s.network.inFlight = none)
      (background : u.background = { s.background with inFlight := some f })
      (sent : u.network.sent = s.network.sent) : Begun s u f (.ok ())
  | refused {err : ErrorCode} (background : u.background = s.background)
      (sent : u.network.sent = s.network.sent) : Begun s u f (.error err)

/-- The transmission in flight goes on, or it has ended with or without its frame on the network. -/
inductive Polled (s u : TransportLayer) : Result OperationProgressState → Prop where
  | waiting (background : u.background = s.background)
      (sent : u.network.sent = s.network.sent) : Polled s u (.ok .pending)
  | success {f : NDataFrame} (flight : s.network.inFlight = some f)
      (background : u.background = { s.background with inFlight := none })
      (sent : u.network.sent = s.network.sent ++ [f]) : Polled s u (.ok .success)
  | failed {r : Result OperationProgressState} (ended : r ≠ .ok .pending ∧ r ≠ .ok .success)
      (background : u.background = { s.background with inFlight := none })
      (sent : u.network.sent = s.network.sent) : Polled s u r

/-- The operations in progress once the given one is over. -/
def Background.ended (b : Background) : Operation → Background
  | .transmit => { b with inFlight := none, transmitting := false }
  | .connect => { b with inFlight := none, connectOperation := {} }
  | .sendData => { b with inFlight := none, sendingData := false }
  | .repetition => { b with inFlight := none, retransmissionOperation := {} }
  | .response => { b with inFlight := none, responding := false }

theorem waits_ended {b : Background} {o o' : Operation} (h : (b.ended o).waits o' = true) :
    o' ≠ o ∧ b.waits o' = true := by
  cases o <;> cases o' <;> first | exact ⟨by decide, h⟩ | cases h

theorem ended_fields (b : Background) (o : Operation) :
    (b.ended o).initialized = b.initialized ∧ (b.ended o).timebaseMs = b.timebaseMs ∧
      ((b.ended o).retransmissionOperation.active = true →
        b.retransmissionOperation.active = true ∧
          (b.ended o).retransmissionOperation.currentTimeMs
            = b.retransmissionOperation.currentTimeMs) := by
  cases o with
  | transmit => exact ⟨rfl, rfl, fun h => ⟨h, rfl⟩⟩
  | connect => exact ⟨rfl, rfl, fun h => ⟨h, rfl⟩⟩
  | sendData => exact ⟨rfl, rfl, fun h => ⟨h, rfl⟩⟩
  | repetition => exact ⟨rfl, rfl, fun h => by cases h⟩
  | response => exact ⟨rfl, rfl, fun h => ⟨h, rfl⟩⟩

section Transmissions

variable {s u : TransportLayer}

theorem begun_networkBegin {f : NDataFrame} {r : Result Unit} (h : s.networkBegin f = (r, u)) :
    u = { s with network := u.network } ∧ Begun s u f r := by
  have hr : (s.network.beginTransmit f).1 = r := congrArg Prod.fst h
  have hu : { s with network := (s.network.beginTransmit f).2 } = u := congrArg Prod.snd h
  subst hu
  subst hr
  refine ⟨rfl, ?_⟩
  obtain ⟨n, hn⟩ : ∃ n, n = s.network.beginTransmit f := ⟨_, rfl⟩
  rw [← hn]
  rw [NetworkPort.beginTransmit] at hn
  split at hn
  · rw [hn]
    exact .refused rfl rfl
  · next hfree =>
    have hnone := Option.not_isSome_iff_eq_none.mp hfree
    rw [NetworkPort.nextAnswer] at hn
    cases hanswers : s.network.answers with
    | nil =>
      rw [hanswers] at hn
      rw [hn]
      exact .started hnone rfl rfl
    | cons answer rest =>
      rw [hanswers] at hn
      cases answer with
      | ok v =>
        rw [hn]
        exact .started hnone rfl rfl
      | error err =>
        rw [hn]
        exact .refused rfl rfl

theorem polled_networkPoll {r : Result OperationProgressState} (h : s.networkPoll = (r, u)) :
    u = { s with network := u.network } ∧ Polled s u r := by
  have hr : s.network.pollTransmit.1 = r := congrArg Prod.fst h
  have hu : { s with network := s.network.pollTransmit.2 } = u := congrArg Prod.snd h
  subst hu
  subst hr
  refine ⟨rfl, ?_⟩
  obtain ⟨n, hn⟩ : ∃ n, n = s.network.pollTransmit := ⟨_, rfl⟩
  rw [← hn]
  rw [NetworkPort.pollTransmit] at hn
  cases hflight : s.network.inFlight with
  | none =>
    rw [hflight] at hn
    dsimp only at hn
    rw [hn]
    refine .failed ⟨by simp, by simp⟩ ?_ rfl
    show s.background = { s.background with inFlight := none }
    rw [← hflight]
    rfl
  | some f =>
    rw [hflight, NetworkPort.nextProgress] at hn
    cases hprogress : s.network.progress with
    | nil =>
      rw [hprogress] at hn
      rw [hn]
      exact .success hflight rfl rfl
    | cons p rest =>
      rw [hprogress] at hn
      cases p with
      | error err =>
        dsimp only at hn
        rw [hn]
        exact .failed ⟨by simp, by simp⟩ rfl rfl
      | ok p =>
        cases p with
        | pending =>
          rw [hn]
          exact .waiting rfl rfl
        | success =>
          rw [hn]
          exact .success hflight rfl rfl
        | busy =>
          dsimp only at hn
          rw [hn]
          exact .failed ⟨by simp, by simp⟩ rfl rfl
        | timeout =>
          dsimp only at hn
          rw [hn]
          exact .failed ⟨by simp, by simp⟩ rfl rfl
        | transmissionFailed =>
          dsimp only at hn
          rw [hn]
          exact .failed ⟨by simp, by simp⟩ rfl rfl

theorem Polled.over {r : Result OperationProgressState} {f : NDataFrame} (h : Polled s u r)
    (hended : r ≠ .ok .pending) (hflight : s.network.inFlight = some f) :
    u.background = { s.background with inFlight := none } ∧
      (u.network.sent = s.network.sent ∨ u.network.sent = s.network.sent ++ [f]) := by
  cases h with
  | waiting background sent => exact absurd rfl hended
  | success flight background sent =>
    rw [hflight] at flight
    cases flight
    exact ⟨background, Or.inr sent⟩
  | failed ended background sent => exact ⟨background, Or.inl sent⟩

end Transmissions

/-! ## Entries that are left alone -/

/-- The entries keep their identity and their activity times. -/
def SameEntries (s s' : TransportLayer) : Prop :=
  (s.connectionTable.connections = [] ∧ s'.connectionTable.connections = []) ∨
    ∃ e e', s.connectionTable.connections = [e] ∧ s'.connectionTable.connections = [e'] ∧
      e'.remoteAddress = e.remoteAddress ∧ e'.index = e.index ∧
      e'.lastActivityTimeMs = e.lastActivityTimeMs

section Entries

variable {s s' : TransportLayer} {e : ConnectionEntry} {met : IndividualAddress → Prop}

theorem EntryMove.of_kept (hsame : SameEntries s s') (hunmet : ∀ a, ¬ met a) :
    EntryMove met s s' := by
  rcases hsame with ⟨hempty, hempty'⟩ | ⟨e, e', hconn, hconn', haddr, hindex, hact⟩
  · exact .gone hempty' (Or.inl hempty)
  · exact .kept hconn hconn' haddr hindex hact (hunmet _)

theorem EntryMove.of_fresh {f : NDataFrame} (hsame : SameEntries s s')
    (htime : s'.timebaseMs = s.timebaseMs) (hfresh : Fresh s f)
    (hmet : ∀ a, met a → ConnectionFrame a f) : EntryMove met s s' := by
  rcases hsame with ⟨hempty, hempty'⟩ | ⟨e, e', hconn, hconn', haddr, hindex, hact⟩
  · exact .gone hempty' (Or.inl hempty)
  · by_cases hframe : ConnectionFrame e.remoteAddress f
    · refine .touched hconn hconn' haddr hindex ?_
      rw [hact, htime]
      refine hfresh e ?_ hframe
      rw [hconn]
      exact List.mem_cons_self
    · exact .kept hconn hconn' haddr hindex hact (fun hm => hframe (hmet _ hm))

theorem connections_update_touch {i : ConnectionIndex} {g : ConnectionEntry → ConnectionEntry}
    (hconn : s.connectionTable.connections = [e]) (hindex : (g e).index = e.index) :
    ((s.updateConnection i g).touch i).connectionTable.connections
      = [if e.index = i then stamped (g e) s.timebaseMs else e] := by
  rw [← withEntry_eq_self hconn, updateConnection_withEntry]
  split
  · next heq => rw [touch_withEntry, if_pos (hindex.trans heq), timebaseMs_withEntry]; rfl
  · next hne => rw [touch_withEntry, if_neg hne]; rfl

theorem connections_update_touch_empty {i : ConnectionIndex}
    {g : ConnectionEntry → ConnectionEntry} (hempty : s.connectionTable.connections = []) :
    ((s.updateConnection i g).touch i).connectionTable.connections = [] := by
  simp [updateConnection, touch, withTable, ConnectionTable.updateByIndex,
    ConnectionTable.updateActivityTime, hempty]

theorem network_removeEntry (s : TransportLayer) (i : ConnectionIndex) :
    (s.removeEntry i).network = s.network := by
  rw [removeEntry]
  split
  · rfl
  · rfl

theorem removeEntry_other {i : ConnectionIndex}
    (h : ∀ e ∈ s.connectionTable.connections, e.index ≠ i) : s.removeEntry i = s := by
  have hnone : s.connectionTable.getConnection i = none := by
    simpa [ConnectionTable.getConnection] using h
  rw [removeEntry, hnone]

end Entries

end TransportLayer

open TransportLayer

namespace Watch

/-! ## Calls that act at once -/

section AtOnce

variable {remote : IndividualAddress} {w : Watch} {c : Call}

theorem begun_step_of_quiet (hquiet : w.maintains c = false) :
    (w.step remote c).begun = w.begun := by
  cases c with
  | beginProcessRetransmissions now =>
    show (if w.maintains (.beginProcessRetransmissions now) = true then _ else w.begun) = w.begun
    rw [hquiet, if_neg Bool.false_ne_true]
  | _ => rfl

theorem begun_of_quiet (h : Sound remote w) (hquiet : w.maintains c = false)
    (hle : w.timebase ≤ w.nextTimebase c)
    (hsame : (w.layer.step c).retransmissionOperation.active = true →
      w.layer.retransmissionOperation.active = true ∧
        (w.layer.step c).retransmissionOperation.currentTimeMs
          = w.layer.retransmissionOperation.currentTimeMs) :
    (w.layer.step c).retransmissionOperation.active = true →
      (w.layer.step c).retransmissionOperation.currentTimeMs
          = UInt32.ofNat (w.step remote c).begun ∧
        (w.step remote c).begun ≤ w.nextTimebase c := by
  intro hactive
  rcases hsame hactive with ⟨hold, htime⟩
  rcases h.begun hold with ⟨hshown, hbegun⟩
  rw [begun_step_of_quiet hquiet, htime]
  exact ⟨hshown, hbegun.trans hle⟩

theorem waits_of_unstamped {e : ConnectionEntry} (h : Unstamped w.layer e) :
    w.layer.background.waits .connect = true := h.1

theorem Sound.undisturbed (h : Sound remote w) (hinit : w.layer.initialized = true)
    (hquiet : w.maintains c = false) (hcall : Undisturbed w.layer c) :
    Sound remote (w.step remote c) := by
  -- everything but the time is as before
  obtain ⟨tb, hback, htb⟩ : ∃ tb, (w.layer.step c).background
      = { w.layer.background with timebaseMs := tb } ∧
        (tb = w.layer.timebaseMs ∨ (w.layer.timebaseMs = 0 ∧ tb = 1)) := by
    rcases hcall.background with hsame | ⟨hzero, hone⟩
    · exact ⟨w.layer.timebaseMs, hsame, Or.inl rfl⟩
    · exact ⟨1, hone, Or.inr ⟨hzero, rfl⟩⟩
  have htime : (w.layer.step c).timebaseMs = tb := congrArg Background.timebaseMs hback
  have hinit' : (w.layer.step c).initialized = w.layer.initialized :=
    congrArg Background.initialized hback
  have hconnect : (w.layer.step c).connectOperation = w.layer.connectOperation :=
    congrArg Background.connectOperation hback
  have hretr : (w.layer.step c).retransmissionOperation = w.layer.retransmissionOperation :=
    congrArg Background.retransmissionOperation hback
  have hflight : (w.layer.step c).network.inFlight = w.layer.network.inFlight :=
    congrArg Background.inFlight hback
  have hwaits : ∀ o, (w.layer.step c).background.waits o = w.layer.background.waits o := by
    intro o
    rw [hback]
    cases o with
    | transmit => rfl
    | connect => rfl
    | sendData => rfl
    | repetition => rfl
    | response => rfl
  have hsame : SameTime w.layer (w.layer.step c) := by
    rw [SameTime, htime]
    exact htb
  have honTime := onTime_of_sameTime h.shown hquiet hsame
  refine h.of_stamps (hinit'.trans hinit) honTime
    (stamps_of_move h hinit honTime hcall.move ?_) ?_ ?_
  · intro e e' _ _ hindex hun
    left
    rw [Unstamped, hconnect, hindex]
    exact hun
  · apply begun_of_quiet h hquiet honTime.1
    rw [hretr]
    exact fun hactive => ⟨hactive, rfl⟩
  · refine flights_of_move h hcall.move ?_ (begun_step_of_quiet hquiet) honTime.1 honTime.2 ?_
    · intro o ho
      exact ⟨(hwaits o).symm.trans ho, hflight, hconnect, fun _ => hretr⟩
    · intro o _ _ hne
      rcases hsame with hs | ⟨hzero, -⟩
      · exact hs
      · exact absurd hzero hne

theorem Sound.unchanged (h : Sound remote w) (hinit : w.layer.initialized = true)
    (hquiet : w.maintains c = false) (hheard : w.layer.heardFrom c = none)
    (hback : (w.layer.step c).background = w.layer.background)
    (htable : (w.layer.step c).connectionTable.connections = w.layer.connectionTable.connections)
    (hsent : (w.layer.step c).network.sent = w.layer.network.sent) :
    Sound remote (w.step remote c) :=
  h.undisturbed hinit hquiet (undisturbed_of_same h.slot hheard hback htable hsent)

theorem Sound.same (h : Sound remote w) (hinit : w.layer.initialized = true)
    (hquiet : w.maintains c = false) (hheard : w.layer.heardFrom c = none)
    (hafter : w.layer.step c = w.layer) : Sound remote (w.step remote c) :=
  h.unchanged hinit hquiet hheard (by rw [hafter]) (by rw [hafter]) (by rw [hafter])

theorem Sound.waiting (h : Sound remote w) (hinit : w.layer.initialized = true)
    (hquiet : w.maintains c = false) (hheard : w.layer.heardFrom c = none) {u : TransportLayer}
    (hafter : w.layer.step c = u) (hu : u = { w.layer with network := u.network })
    (hpolled : Polled w.layer u (.ok .pending)) : Sound remote (w.step remote c) := by
  cases hpolled with
  | waiting background sent =>
    exact h.unchanged hinit hquiet hheard (by rw [hafter, background]) (by rw [hafter, hu])
      (by rw [hafter, sent])
  | failed ended background sent => exact absurd rfl ended.1

end AtOnce

/-! ## Transmissions that start and end -/

section Operations

variable {remote : IndividualAddress} {w : Watch} {c : Call}

theorem not_waits_of_free (h : Sound remote w) (hfree : w.layer.network.inFlight = none)
    (o : Operation) : ¬ w.layer.background.waits o = true := by
  intro ho
  rcases h.flights.settled o ho with ⟨f, hf, -⟩
  rw [hfree] at hf
  cases hf

theorem Sound.startedUnstamped (h : Sound remote w)
    (hinit' : (w.layer.step c).initialized = true) (hquiet : w.maintains c = false)
    (hsame : SameTime w.layer (w.layer.step c)) {o : Operation} {f : NDataFrame}
    (hfree : w.layer.network.inFlight = none)
    (hflight : (w.layer.step c).network.inFlight = some f)
    (hwaits : ∀ o', (w.layer.step c).background.waits o' = true →
      o' = o ∨ w.layer.background.waits o' = true)
    (hretr : (w.layer.step c).retransmissionOperation.active = true →
      w.layer.retransmissionOperation.active = true ∧
        (w.layer.step c).retransmissionOperation.currentTimeMs
          = w.layer.retransmissionOperation.currentTimeMs)
    (hstamps : ∀ e' ∈ (w.layer.step c).connectionTable.connections,
      Unstamped (w.layer.step c) e' ∨ Stamped (w.step remote c) remote e')
    (hsettled : Settled (w.step remote c) f o) : Sound remote (w.step remote c) := by
  have honTime := onTime_of_sameTime h.shown hquiet hsame
  refine h.of_stamps hinit' honTime hstamps (begun_of_quiet h hquiet honTime.1 hretr) ?_
  refine flights_of_one (o := o) ?_ hflight hsettled
  intro o' ho'
  rcases hwaits o' ho' with rfl | hold
  · rfl
  · exact absurd hold (not_waits_of_free h hfree o')

theorem Sound.started (h : Sound remote w) (hinit : w.layer.initialized = true)
    (hinit' : (w.layer.step c).initialized = true) (hquiet : w.maintains c = false)
    (hsame : SameTime w.layer (w.layer.step c)) {o : Operation} {f : NDataFrame}
    (hfree : w.layer.network.inFlight = none)
    (hflight : (w.layer.step c).network.inFlight = some f)
    (hwaits : ∀ o', (w.layer.step c).background.waits o' = true →
      o' = o ∨ w.layer.background.waits o' = true)
    (hretr : (w.layer.step c).retransmissionOperation.active = true →
      w.layer.retransmissionOperation.active = true ∧
        (w.layer.step c).retransmissionOperation.currentTimeMs
          = w.layer.retransmissionOperation.currentTimeMs)
    (hmove : EntryMove (Meets w.layer c) w.layer (w.layer.step c))
    (hsettled : Settled (w.step remote c) f o) : Sound remote (w.step remote c) := by
  have honTime := onTime_of_sameTime h.shown hquiet hsame
  refine h.startedUnstamped hinit' hquiet hsame hfree hflight hwaits hretr
    (stamps_of_move h hinit honTime hmove ?_) hsettled
  intro e e' _ _ _ hun
  exact absurd (waits_of_unstamped hun) (not_waits_of_free h hfree .connect)

theorem Sound.landed (h : Sound remote w) (hinit : w.layer.initialized = true)
    (hquiet : w.maintains c = false) {o : Operation} (ho : w.layer.background.waits o = true)
    (hback : (w.layer.step c).background = w.layer.background.ended o)
    (hmove : EntryMove (Meets w.layer c) w.layer (w.layer.step c))
    (hunstamped : o = .connect → ∀ e e', w.layer.connectionTable.connections = [e] →
      (w.layer.step c).connectionTable.connections = [e'] → e'.index = e.index →
      Unstamped w.layer e → e'.lastActivityTimeMs = (w.layer.step c).timebaseMs) :
    Sound remote (w.step remote c) := by
  rcases ended_fields w.layer.background o with ⟨hinit', hsame, hretr⟩
  rw [← hback] at hinit' hsame hretr
  have honTime := onTime_of_sameTime h.shown hquiet (Or.inl hsame)
  refine h.of_stamps (hinit'.trans hinit) honTime (stamps_of_move h hinit honTime hmove ?_)
    (begun_of_quiet h hquiet honTime.1 hretr) ?_
  · intro e e' hconn hconn' hindex hun
    have hop := h.flights.single o .connect ho (waits_of_unstamped hun)
    exact Or.inr (hunstamped hop e e' hconn hconn' hindex hun)
  · apply flights_of_none
    intro o'
    cases hcase : (w.step remote c).layer.background.waits o' with
    | false => rfl
    | true =>
      have hended : (w.layer.background.ended o).waits o' = true := by
        rw [← hback]
        exact hcase
      rcases waits_ended hended with ⟨hne, hold⟩
      exact absurd (h.flights.single o' o hold ho) hne

/-- The devices met by a call that takes in no frame and puts at most the one in flight on the
network. -/
theorem connectionFrame_of_meets {s : TransportLayer} {a : IndividualAddress} {f : NDataFrame}
    (hheard : s.heardFrom c = none)
    (hsent : (s.step c).network.sent = s.network.sent ∨
      (s.step c).network.sent = s.network.sent ++ [f])
    (hmet : Meets s c a) : ConnectionFrame a f := by
  rcases (meets_iff_of_silent hheard).mp hmet with ⟨g, hg, hframe⟩
  rw [answers_subset hsent hg] at hframe
  exact hframe

theorem not_meets_of_silent {s : TransportLayer} {a : IndividualAddress}
    (hheard : s.heardFrom c = none) (hsent : (s.step c).network.sent = s.network.sent) :
    ¬ Meets s c a := by
  intro hmet
  rcases (meets_iff_of_silent hheard).mp hmet with ⟨g, hg, -⟩
  rw [answers_eq_nil hsent] at hg
  cases hg

end Operations

section Polls

variable {remote : IndividualAddress} {w : Watch}

/-- `pollTransmit`. -/
theorem Sound.pollTransmit (h : Sound remote w) (hinit : w.layer.initialized = true) :
    Sound remote (w.step remote .pollTransmit) := by
  cases hactive : w.layer.sendActive with
  | false =>
    have hafter : w.layer.step .pollTransmit = w.layer := by
      simp only [TransportLayer.step, TransportLayer.pollTransmit, hinit, hactive, Bool.not_true,
        Bool.not_false, Bool.false_eq_true, if_false, if_true]
    exact h.same hinit rfl rfl hafter
  | true =>
    obtain ⟨r, u, hpoll⟩ : ∃ r u, w.layer.networkPoll = (r, u) := ⟨_, _, rfl⟩
    rcases polled_networkPoll hpoll with ⟨hu, hpolled⟩
    by_cases hended : r = .ok .pending
    · subst hended
      have hafter : w.layer.step .pollTransmit = u := by
        simp only [TransportLayer.step, TransportLayer.pollTransmit, hinit, hactive, hpoll,
          Bool.not_true, Bool.false_eq_true, if_false]
      exact h.waiting hinit rfl rfl hafter hu hpolled
    · have hafter : w.layer.step .pollTransmit = { u with sendActive := false } := by
        simp only [TransportLayer.step, TransportLayer.pollTransmit, hinit, hactive, hpoll,
          Bool.not_true, Bool.false_eq_true, if_false]
      have hwaits : w.layer.background.waits .transmit = true := hactive
      rcases h.flights.settled .transmit hwaits with ⟨f, hflight, hsettled⟩
      rcases hpolled.over hended hflight with ⟨hback, hsent⟩
      refine h.landed hinit rfl hwaits ?_ (.of_same h.slot ?_ ?_) (fun heq => by cases heq)
      · rw [hafter]
        show { u.background with transmitting := false } = _
        rw [hback]
        rfl
      · rw [hafter, hu]
      · intro e _ hmet
        refine hsettled e.remoteAddress (connectionFrame_of_meets rfl ?_ hmet)
        rw [hafter]
        exact hsent

/-- `pollConnect`: the entry of the operation is stamped, or removed with it. -/
theorem Sound.pollConnect (h : Sound remote w) (hinit : w.layer.initialized = true) :
    Sound remote (w.step remote .pollConnect) := by
  cases hactive : w.layer.connectOperation.active with
  | false =>
    have hafter : w.layer.step .pollConnect = w.layer := by
      simp only [TransportLayer.step, TransportLayer.pollConnect, hinit, hactive, Bool.not_true,
        Bool.not_false, Bool.false_eq_true, if_false, if_true]
    exact h.same hinit rfl rfl hafter
  | true =>
    obtain ⟨r, u, hpoll⟩ : ∃ r u, w.layer.networkPoll = (r, u) := ⟨_, _, rfl⟩
    rcases polled_networkPoll hpoll with ⟨hu, hpolled⟩
    have hwaits : w.layer.background.waits .connect = true := hactive
    rcases h.flights.settled .connect hwaits with ⟨f, hflight, hcreated, hvalid, hentry⟩
    have hop : u.connectOperation = w.layer.connectOperation := by rw [hu]
    have htable : u.connectionTable = w.layer.connectionTable := by rw [hu]
    have htb : u.timebaseMs = w.layer.timebaseMs := by rw [hu]
    cases hpolled with
    | waiting background sent =>
      have hafter : w.layer.step .pollConnect = u := by
        simp only [TransportLayer.step, TransportLayer.pollConnect, hinit, hactive, hpoll,
          Bool.not_true, Bool.false_eq_true, if_false]
      exact h.waiting hinit rfl rfl hafter hu (.waiting background sent)
    | @success g flight background sent =>
      rw [hflight] at flight
      cases flight
      have hafter : w.layer.step .pollConnect
          = { (u.updateConnection w.layer.connectOperation.connectionIndex (fun e =>
              { e with stateMachine := e.stateMachine.onEvent .connectRequest })).touch
                w.layer.connectOperation.connectionIndex with connectOperation := {} } := by
        simp only [TransportLayer.step, TransportLayer.pollConnect, hinit, hactive, hpoll, hop,
          Bool.not_true, Bool.false_eq_true, if_false]
      have hback : (w.layer.step .pollConnect).background = w.layer.background.ended .connect := by
        rw [hafter]
        show { u.background with connectOperation := {} } = _
        rw [background]
        rfl
      have htb' : (w.layer.step .pollConnect).timebaseMs = w.layer.timebaseMs :=
        congrArg Background.timebaseMs hback
      -- the entry with the index of the operation is stamped, any other is left alone
      have hconn' : ∀ e, w.layer.connectionTable.connections = [e] →
          (w.layer.step .pollConnect).connectionTable.connections
            = [if e.index = w.layer.connectOperation.connectionIndex then
                stamped { e with stateMachine := e.stateMachine.onEvent .connectRequest }
                  w.layer.timebaseMs else e] := by
        intro e hconn
        rw [hafter, ← htb]
        exact connections_update_touch (htable.symm ▸ hconn) rfl
      refine h.landed hinit rfl hwaits hback ?_ ?_
      · rcases h.slot.cases with hempty | ⟨e, hconn⟩
        · refine .gone ?_ (Or.inl hempty)
          rw [hafter]
          exact connections_update_touch_empty (htable.symm ▸ hempty)
        · have hafter' := hconn' e hconn
          by_cases hindex : e.index = w.layer.connectOperation.connectionIndex
          · rw [if_pos hindex] at hafter'
            exact .touched hconn hafter' rfl rfl htb'.symm
          · rw [if_neg hindex] at hafter'
            rcases hentry with ⟨e₀, hconn₀, hindex₀⟩ | ⟨-, hfresh⟩
            · rw [hconn] at hconn₀
              cases hconn₀
              exact absurd hindex₀ hindex
            · refine .of_fresh (Or.inr ⟨e, e, hconn, hafter', rfl, rfl, rfl⟩) htb' hfresh ?_
              intro a hmet
              refine connectionFrame_of_meets rfl (Or.inr ?_) hmet
              rw [hafter]
              exact sent
      · rintro - e e' hconn hconn₂ - hun
        rw [hconn' e hconn, if_pos hun.2] at hconn₂
        cases hconn₂
        exact htb'.symm
    | failed ended background sent =>
      have hafter : w.layer.step .pollConnect = u.abandonConnect := by
        rcases ended with ⟨hpending, hsuccess⟩
        simp only [TransportLayer.step, TransportLayer.pollConnect, hinit, hactive, hpoll,
          Bool.not_true, Bool.false_eq_true, if_false]
      have habandon : u.abandonConnect = { u.removeEntry
          w.layer.connectOperation.connectionIndex with connectOperation := {} } := by
        rw [abandonConnect, hop, if_pos ⟨hcreated, hvalid⟩]
      have hback : (w.layer.step .pollConnect).background = w.layer.background.ended .connect := by
        rw [hafter, habandon]
        have hremove := background_removeEntry u w.layer.connectOperation.connectionIndex
        show { (u.removeEntry _).background with connectOperation := {} } = _
        rw [hremove, background]
        rfl
      have hsent : (w.layer.step .pollConnect).network.sent = w.layer.network.sent := by
        rw [hafter, habandon, ← sent]
        exact congrArg NetworkPort.sent (network_removeEntry u _)
      have hoff : (w.layer.step .pollConnect).connectOperation.active = false := by
        rw [hafter, habandon]
      refine h.landed hinit rfl hwaits hback ?_ ?_
      · rcases h.slot.cases with hempty | ⟨e, hconn⟩
        · refine .gone ?_ (Or.inl hempty)
          rw [hafter, habandon]
          show (u.removeEntry _).connectionTable.connections = []
          rw [removeEntry_other (by rw [htable]; exact fun e he => by simp [hempty] at he), htable,
            hempty]
        · have hu' : u.withEntry e = u := withEntry_eq_self (htable.symm ▸ hconn)
          by_cases hindex : e.index = w.layer.connectOperation.connectionIndex
          · refine .gone ?_ (Or.inr (Or.inr hoff))
            rw [hafter, habandon, ← hindex, ← hu']
            exact removeEntry_self u e
          · refine .of_kept (Or.inr ⟨e, e, hconn, ?_, rfl, rfl, rfl⟩)
              (fun a => not_meets_of_silent rfl hsent)
            rw [hafter, habandon]
            show (u.removeEntry _).connectionTable.connections = [e]
            rw [removeEntry_other (by rw [htable, hconn]; simpa using hindex), htable, hconn]
      · rintro - e e' hconn hconn₂ - hun
        have hu' : u.withEntry e = u := withEntry_eq_self (htable.symm ▸ hconn)
        rw [hafter, habandon, ← hun.2, ← hu'] at hconn₂
        have hgone := (removeEntry_self u e).symm.trans hconn₂
        cases hgone

/-- `pollConnectedDataSend`, while the connection of the data is still open. -/
theorem Sound.pollConnectedDataSend (h : Sound remote w) (hinit : w.layer.initialized = true)
    (hopen : w.layer.connectedSendOperation.active = true → ∃ e,
      w.layer.connectionTable.getConnection w.layer.connectedSendOperation.connectionIndex = some e ∧
        e.stateMachine.state = .connected) :
    Sound remote (w.step remote .pollConnectedDataSend) := by
  cases hactive : w.layer.connectedSendOperation.active with
  | false =>
    have hafter : w.layer.step .pollConnectedDataSend = w.layer := by
      simp only [TransportLayer.step, TransportLayer.pollConnectedDataSend, hinit, hactive,
        Bool.not_true, Bool.not_false, Bool.false_eq_true, if_false, if_true]
    exact h.same hinit rfl rfl hafter
  | true =>
    obtain ⟨r, u, hpoll⟩ : ∃ r u, w.layer.networkPoll = (r, u) := ⟨_, _, rfl⟩
    rcases polled_networkPoll hpoll with ⟨hu, hpolled⟩
    have hwaits : w.layer.background.waits .sendData = true := hactive
    have hop : u.connectedSendOperation = w.layer.connectedSendOperation := by rw [hu]
    have htable : u.connectionTable = w.layer.connectionTable := by rw [hu]
    have hended : ∀ t : TransportLayer, t.background = u.background →
        u.background = { w.layer.background with inFlight := none } →
        ({ t with connectedSendOperation := {} } : TransportLayer).background
          = w.layer.background.ended .sendData := by
      intro t ht hback
      show { t.background with sendingData := false } = _
      rw [ht, hback]
      rfl
    cases hpolled with
    | waiting background sent =>
      have hafter : w.layer.step .pollConnectedDataSend = u := by
        simp only [TransportLayer.step, TransportLayer.pollConnectedDataSend, hinit, hactive, hpoll,
          Bool.not_true, Bool.false_eq_true, if_false]
      exact h.waiting hinit rfl rfl hafter hu (.waiting background sent)
    | success flight background sent =>
      rcases hopen hactive with ⟨e, hget, hstate⟩
      rcases h.slot.withEntry_of_get hget with ⟨hs, hindex⟩
      have hconn := connections_of_eq hs.symm
      have hisConn : e.stateMachine.isConnected = true := by
        simp [ConnectionStateMachine.isConnected, hstate]
      obtain ⟨g, hg, hafter⟩ : ∃ g : ConnectionEntry → ConnectionEntry,
          ((g e).index = e.index ∧ (g e).remoteAddress = e.remoteAddress) ∧
            w.layer.step .pollConnectedDataSend
              = { (u.updateConnection e.index g).touch e.index with connectedSendOperation := {} } := by
        refine ⟨fun c =>
          { withPending c w.layer.connectedSendOperation.sequenceNumber 0
              w.layer.connectedSendOperation.payload c.priority u.timebaseMs with
            sequenceNumber := (w.layer.connectedSendOperation.sequenceNumber + 1) &&& 0x0F },
          ⟨rfl, rfl⟩, ?_⟩
        simp only [TransportLayer.step, TransportLayer.pollConnectedDataSend, hinit, hactive, hpoll,
          hop, htable, hget, hisConn, Bool.not_true, Bool.false_eq_true, if_false]
        rw [hindex]
      have hback := hended ((u.updateConnection e.index g).touch e.index)
        (by rw [background_touch, background_updateConnection]) background
      rw [← hafter] at hback
      refine h.landed hinit rfl hwaits hback ?_ (fun heq => by cases heq)
      have hconn' : (w.layer.step .pollConnectedDataSend).connectionTable.connections
          = [stamped (g e) u.timebaseMs] := by
        rw [hafter]
        have hupdate := connections_update_touch (s := u) (i := e.index) (htable.symm ▸ hconn) hg.1
        rw [if_pos rfl] at hupdate
        exact hupdate
      refine .touched hconn hconn' hg.2 hg.1 ?_
      rw [hafter]
      rfl
    | failed ended background sent =>
      have hafter : w.layer.step .pollConnectedDataSend = { u with connectedSendOperation := {} } := by
        rcases ended with ⟨hpending, hsuccess⟩
        simp only [TransportLayer.step, TransportLayer.pollConnectedDataSend, hinit, hactive, hpoll,
          Bool.not_true, Bool.false_eq_true, if_false]
      have hback := hended u rfl background
      rw [← hafter] at hback
      refine h.landed hinit rfl hwaits hback (.of_same h.slot ?_ ?_) (fun heq => by cases heq)
      · rw [hafter, ← htable]
      · intro e _
        refine not_meets_of_silent rfl ?_
        rw [hafter]
        exact sent

theorem finalize_facts (s : TransportLayer) (hslot : s.OneSlot)
    (hactive : s.receiveOperation.active = true) :
    s.finalizeReceiveOperation.background = { s.background with responding := false } ∧
      s.finalizeReceiveOperation.network = s.network ∧
      SameEntries s s.finalizeReceiveOperation := by
  obtain ⟨t, ht⟩ : ∃ t, t = if s.receiveOperation.advanceExpectedSequence = true then
      s.updateConnection s.receiveOperation.connectionIndex
        (fun c => { c with expectedRxSeq := (c.expectedRxSeq + 1) &&& 0x0F }) else s := ⟨_, rfl⟩
  have hback : t.background = s.background ∧ t.network = s.network := by
    rw [ht]
    split
    · exact ⟨rfl, rfl⟩
    · exact ⟨rfl, rfl⟩
  have hsame : SameEntries s t := by
    rcases hslot.cases with hempty | ⟨e, hconn⟩
    · refine Or.inl ⟨hempty, ?_⟩
      rw [ht]
      split
      · simp [updateConnection, withTable, ConnectionTable.updateByIndex, hempty]
      · exact hempty
    · have hs := withEntry_eq_self hconn
      have hupdate := updateConnection_withEntry s e s.receiveOperation.connectionIndex
        (fun c => { c with expectedRxSeq := (c.expectedRxSeq + 1) &&& 0x0F })
      rw [hs] at hupdate
      rw [hupdate] at ht
      right
      split at ht
      · split at ht
        · exact ⟨_, _, hconn, connections_of_eq ht, rfl, rfl, rfl⟩
        · exact ⟨_, _, hconn, connections_of_eq ht, rfl, rfl, rfl⟩
      · exact ⟨e, e, hconn, by rw [ht]; exact hconn, rfl, rfl, rfl⟩
  obtain ⟨v, hv⟩ : ∃ v, v = if s.receiveOperation.deliverFrame = true then
      t.transformAndDeliver s.receiveOperation.receivedFrame else t := ⟨_, rfl⟩
  have hafter : s.finalizeReceiveOperation = { v with receiveOperation := {} } := by
    rw [finalizeReceiveOperation, hv, ht, hactive]
    rfl
  have hv' : v.background = t.background ∧ v.network = t.network ∧
      v.connectionTable = t.connectionTable := by
    rw [hv]
    split
    · exact ⟨background_transformAndDeliver t _, (transformAndDeliver_fields t _).1,
        table_transformAndDeliver t _⟩
    · exact ⟨rfl, rfl, rfl⟩
  refine ⟨?_, ?_, ?_⟩
  · rw [hafter]
    show { v.background with responding := false } = _
    rw [hv'.1, hback.1]
  · rw [hafter]
    exact hv'.2.1.trans hback.2
  · rw [hafter, SameEntries]
    show _ ∨ ∃ e e', _ ∧ v.connectionTable.connections = [e'] ∧ _
    rw [hv'.2.2]
    exact hsame

/-- `pollHandleNetworkRx`. -/
theorem Sound.pollHandleNetworkRx (h : Sound remote w) (hinit : w.layer.initialized = true) :
    Sound remote (w.step remote .pollHandleNetworkRx) := by
  cases hactive : w.layer.receiveOperation.active with
  | false =>
    have hafter : w.layer.step .pollHandleNetworkRx = w.layer := by
      simp only [TransportLayer.step, TransportLayer.pollHandleNetworkRx, hinit, hactive,
        Bool.not_true, Bool.not_false, Bool.false_eq_true, if_false, if_true]
    exact h.same hinit rfl rfl hafter
  | true =>
    cases hwaiting : w.layer.receiveOperation.waitingResponse with
    | false =>
      -- nothing is awaited: the operation ends without a frame
      have hafter : w.layer.step .pollHandleNetworkRx = w.layer.finalizeReceiveOperation := by
        simp only [TransportLayer.step, TransportLayer.pollHandleNetworkRx, hinit, hactive, hwaiting,
          Bool.not_true, Bool.false_eq_true, if_false]
      rcases finalize_facts w.layer h.slot hactive with ⟨hback, hnet, hsame⟩
      rw [← hafter] at hback hnet hsame
      have hidle : w.layer.background.responding = false := by
        show (w.layer.receiveOperation.active && w.layer.receiveOperation.waitingResponse) = false
        rw [hwaiting, Bool.and_false]
      refine h.undisturbed hinit rfl ⟨Or.inl ?_, .of_kept hsame ?_⟩
      · rw [hback, ← hidle]
      · exact fun a => not_meets_of_silent rfl (by rw [hnet])
    | true =>
      obtain ⟨r, u, hpoll⟩ : ∃ r u, w.layer.networkPoll = (r, u) := ⟨_, _, rfl⟩
      rcases polled_networkPoll hpoll with ⟨hu, hpolled⟩
      have hwaits : w.layer.background.waits .response = true := by
        show (w.layer.receiveOperation.active && w.layer.receiveOperation.waitingResponse) = true
        rw [hactive, hwaiting]
        rfl
      rcases h.flights.settled .response hwaits with ⟨f, hflight, -, hfresh⟩
      by_cases hended : r = .ok .pending
      · subst hended
        have hafter : w.layer.step .pollHandleNetworkRx = u := by
          simp only [TransportLayer.step, TransportLayer.pollHandleNetworkRx, hinit, hactive,
            hwaiting, hpoll, Bool.not_true, Bool.false_eq_true, if_false, if_true]
        exact h.waiting hinit rfl rfl hafter hu hpolled
      · have hafter : w.layer.step .pollHandleNetworkRx = u.finalizeReceiveOperation := by
          simp only [TransportLayer.step, TransportLayer.pollHandleNetworkRx, hinit, hactive,
            hwaiting, hpoll, Bool.not_true, Bool.false_eq_true, if_false, if_true]
          cases r with
          | error err => rfl
          | ok p =>
            cases p with
            | pending => exact absurd rfl hended
            | success => rfl
            | busy => rfl
            | transmissionFailed => rfl
            | timeout => rfl
        have hslot : u.OneSlot := h.slot.congr (by rw [hu])
        rcases finalize_facts u hslot (by rw [hu]; exact hactive) with ⟨hback, hnet, hsame⟩
        rcases hpolled.over hended hflight with ⟨hback', hsent⟩
        have hback'' : (w.layer.step .pollHandleNetworkRx).background
            = w.layer.background.ended .response := by
          rw [hafter, hback, hback']
          rfl
        refine h.landed hinit rfl hwaits hback'' ?_ (fun heq => by cases heq)
        refine .of_fresh (f := f) ?_ (congrArg Background.timebaseMs hback'') hfresh ?_
        · rw [hafter]
          rw [SameEntries] at hsame ⊢
          rw [show u.connectionTable = w.layer.connectionTable by rw [hu]] at hsame
          exact hsame
        · intro a hmet
          refine connectionFrame_of_meets rfl ?_ hmet
          rw [hafter, hnet]
          exact hsent

end Polls

section Begins

variable {remote : IndividualAddress} {w : Watch}

/-- `beginTransmit` of a connectionless frame. -/
theorem Sound.beginTransmit (h : Sound remote w) (hinit : w.layer.initialized = true)
    {frame : TDataFrame} (hless : w.layer.sendActive = false → SentConnectionless w.layer frame) :
    Sound remote (w.step remote (.beginTransmit frame)) := by
  cases hactive : w.layer.sendActive with
  | true =>
    have hafter : w.layer.step (.beginTransmit frame) = w.layer := by
      simp only [TransportLayer.step, TransportLayer.beginTransmit, hinit, hactive, Bool.not_true,
        Bool.false_eq_true, if_false, if_true]
    exact h.same hinit rfl rfl hafter
  | false =>
    obtain ⟨r, t, hbuild⟩ : ∃ r t, w.layer.buildNetworkTxFrame frame = (r, t) := ⟨_, _, rfl⟩
    rcases buildNetworkTxFrame_connectionless h.slot (hless hactive) hbuild with ⟨htable, hback⟩
    have hnet := (buildNetworkTxFrame_fields hbuild).1
    cases r with
    | error err =>
      have hafter : w.layer.step (.beginTransmit frame) = t := by
        simp only [TransportLayer.step, TransportLayer.beginTransmit, hinit, hactive, hbuild,
          Bool.not_true, Bool.false_eq_true, if_false]
      exact h.unchanged hinit rfl rfl (by rw [hafter, hback]) (by rw [hafter, htable])
        (by rw [hafter, hnet])
    | ok nFrame =>
      obtain ⟨r, u, hbegin⟩ : ∃ r u, t.networkBegin nFrame = (r, u) := ⟨_, _, rfl⟩
      rcases begun_networkBegin hbegin with ⟨hu, hbegun⟩
      have hutable : u.connectionTable = w.layer.connectionTable := by rw [hu, htable]
      cases hbegun with
      | @refused err background sent =>
        have hafter : w.layer.step (.beginTransmit frame) = u := by
          simp only [TransportLayer.step, TransportLayer.beginTransmit, hinit, hactive, hbuild,
            hbegin, Bool.not_true, Bool.false_eq_true, if_false]
        exact h.unchanged hinit rfl rfl (by rw [hafter, background, hback])
          (by rw [hafter, hutable]) (by rw [hafter, sent, hnet])
      | started free background sent =>
        have hafter : w.layer.step (.beginTransmit frame) = { u with sendActive := true } := by
          simp only [TransportLayer.step, TransportLayer.beginTransmit, hinit, hactive, hbuild,
            hbegin, Bool.not_true, Bool.false_eq_true, if_false]
        have hback' : (w.layer.step (.beginTransmit frame)).background
            = { w.layer.background with inFlight := some nFrame, transmitting := true } := by
          rw [hafter]
          show { u.background with transmitting := true } = _
          rw [background, hback]
        have hsent : (w.layer.step (.beginTransmit frame)).network.sent = w.layer.network.sent := by
          rw [hafter, ← hnet]
          exact sent
        have hsettled : Settled (w.step remote (.beginTransmit frame)) nFrame .transmit :=
          hless hactive nFrame t hbuild
        refine h.started (o := .transmit) hinit
          ((congrArg Background.initialized hback').trans hinit) rfl
          (Or.inl (congrArg Background.timebaseMs hback')) (hnet ▸ free)
          (congrArg Background.inFlight hback') ?_ ?_ (.of_same h.slot ?_ ?_) hsettled
        · intro o' ho'
          rw [hback'] at ho'
          cases o' with
          | transmit => exact Or.inl rfl
          | connect => exact Or.inr ho'
          | sendData => exact Or.inr ho'
          | repetition => exact Or.inr ho'
          | response => exact Or.inr ho'
        · rw [show (w.layer.step (.beginTransmit frame)).retransmissionOperation
            = w.layer.retransmissionOperation from
              congrArg Background.retransmissionOperation hback']
          exact fun hr => ⟨hr, rfl⟩
        · rw [hafter, ← hutable]
        · exact fun e _ => not_meets_of_silent rfl hsent

/-- `beginSendConnectedData`. -/
theorem Sound.beginSendConnectedData (h : Sound remote w) (hinit : w.layer.initialized = true)
    (i : ConnectionIndex) (data : List UInt8) :
    Sound remote (w.step remote (.beginSendConnectedData i data)) := by
  by_cases hgo : data.length ≤ maxApduLength ∧ ∃ e, w.layer.connectedDataEntry i = .ok e
  · rcases hgo with ⟨hlen, e, hcheck⟩
    rcases connectedDataEntry_eq_ok.mp hcheck with ⟨hget, hopen, hfree⟩
    rcases h.slot.withEntry_of_get hget with ⟨hs, rfl⟩
    have hconn := connections_of_eq hs.symm
    cases hactive : w.layer.connectedSendOperation.active with
    | true =>
      have hafter : w.layer.step (.beginSendConnectedData e.index data) = w.layer := by
        simp only [TransportLayer.step, TransportLayer.beginSendConnectedData, hinit, hlen, hactive,
          Bool.not_true, Bool.false_eq_true, if_false, if_true, dif_pos]
      exact h.same hinit rfl rfl hafter
    | false =>
      have hbegin := beginSendConnectedData_free (s := w.layer) hinit hactive hlen hopen hfree
      rw [hs] at hbegin
      obtain ⟨r, u, hnet⟩ : ∃ r u, w.layer.networkBegin (numberedDataFrame w.layer.ownAddress
          e.remoteAddress (e.sequenceNumber &&& 0x0F) 0 ⟨data, hlen⟩ e.priority) = (r, u) :=
        ⟨_, _, rfl⟩
      rcases begun_networkBegin hnet with ⟨hu, hbegun⟩
      have hu' : u.withEntry e = u := withEntry_eq_self (by rw [hu]; exact hconn)
      rw [hnet] at hbegin
      cases hbegun with
      | @refused err background sent =>
        have hafter : w.layer.step (.beginSendConnectedData e.index data) = u := by
          rw [TransportLayer.step, hbegin, ← hu']
          rfl
        exact h.unchanged hinit rfl rfl (by rw [hafter, background]) (by rw [hafter, hu])
          (by rw [hafter, sent])
      | started free background sent =>
        have hafter : w.layer.step (.beginSendConnectedData e.index data)
            = { u with connectedSendOperation :=
                  ⟨true, e.index, e.sequenceNumber &&& 0x0F, ⟨data, hlen⟩⟩ } := by
          have hconn' : u.connectionTable.connections = [e] := by
            rw [hu]
            exact hconn
          rw [TransportLayer.step, hbegin]
          exact withEntry_eq_self hconn'
        have hback : (w.layer.step (.beginSendConnectedData e.index data)).background
            = { u.background with sendingData := true } := by
          rw [hafter]
          rfl
        rw [background] at hback
        refine h.started (o := .sendData) hinit
          ((congrArg Background.initialized hback).trans hinit) rfl
          (Or.inl (congrArg Background.timebaseMs hback)) free
          (congrArg Background.inFlight hback) ?_ ?_ (.of_same h.slot ?_ ?_) trivial
        · intro o' ho'
          rw [hback] at ho'
          cases o' with
          | transmit => exact Or.inr ho'
          | connect => exact Or.inr ho'
          | sendData => exact Or.inl rfl
          | repetition => exact Or.inr ho'
          | response => exact Or.inr ho'
        · rw [show (w.layer.step (.beginSendConnectedData e.index data)).retransmissionOperation
            = w.layer.retransmissionOperation from congrArg Background.retransmissionOperation hback]
          exact fun hr => ⟨hr, rfl⟩
        · rw [hafter, hu]
        · intro e' _
          refine not_meets_of_silent rfl ?_
          rw [hafter]
          exact sent
  · exact h.same hinit rfl rfl (beginSendConnectedData_refused hgo)

/-- `beginConnect`: the new entry is left unstamped for the operation. -/
theorem Sound.beginConnect (h : Sound remote w) (hinit : w.layer.initialized = true)
    (a : IndividualAddress) : Sound remote (w.step remote (.beginConnect a)) := by
  cases hactive : w.layer.connectOperation.active with
  | true =>
    have hafter : w.layer.step (.beginConnect a) = w.layer := by
      simp only [TransportLayer.step, TransportLayer.beginConnect, hinit, hactive, Bool.not_true,
        Bool.false_eq_true, if_false, if_true]
    exact h.same hinit rfl rfl hafter
  | false =>
    by_cases hfound : (w.layer.connectionTable.findConnection a).isSome = true
    · have hafter : w.layer.step (.beginConnect a) = w.layer := by
        simp only [TransportLayer.step, TransportLayer.beginConnect, hinit, hactive, hfound,
          Bool.not_true, Bool.false_eq_true, if_false, if_true]
      exact h.same hinit rfl rfl hafter
    · rcases createEntry_cases h.slot a (clientParams a) with ⟨t, e, hcreate, hnew⟩ | hrefused
      · obtain ⟨r, u, hbegin⟩ : ∃ r u, t.networkBegin (beginConnectFrame t.ownAddress a) = (r, u) :=
          ⟨_, _, rfl⟩
        rcases begun_networkBegin hbegin with ⟨hu, hbegun⟩
        have hconn : u.connectionTable.connections = [e] := by
          rw [hu]
          exact hnew.after
        cases hbegun with
        | @refused err background sent =>
          have hafter : w.layer.step (.beginConnect a) = u.removeEntry e.index := by
            simp only [TransportLayer.step, TransportLayer.beginConnect, hinit, hactive, hfound,
              hcreate, hnew.valid, hbegin, Bool.not_true, Bool.false_eq_true, if_false]
          have hgone : (w.layer.step (.beginConnect a)).connectionTable.connections = [] := by
            rw [hafter, ← withEntry_eq_self hconn]
            exact removeEntry_self u e
          refine h.undisturbed hinit rfl ⟨Or.inl ?_, .gone hgone (Or.inl hnew.before)⟩
          rw [hafter, background_removeEntry, background, hnew.background]
        | started free background sent =>
          have hafter : w.layer.step (.beginConnect a)
              = { u with connectOperation := ⟨true, true, e.index, a⟩ } := by
            simp only [TransportLayer.step, TransportLayer.beginConnect, hinit, hactive, hfound,
              hcreate, hnew.valid, hbegin, Bool.not_true, Bool.false_eq_true, if_false]
          have hback : (w.layer.step (.beginConnect a)).background
              = { u.background with connectOperation := ⟨true, true, e.index, a⟩ } := by
            rw [hafter]
            rfl
          rw [background, hnew.background] at hback
          have hconn' : (w.layer.step (.beginConnect a)).connectionTable.connections = [e] := by
            rw [hafter]
            exact hconn
          have hop : (w.layer.step (.beginConnect a)).connectOperation = ⟨true, true, e.index, a⟩ :=
            congrArg Background.connectOperation hback
          refine h.startedUnstamped (o := .connect)
            ((congrArg Background.initialized hback).trans hinit) rfl
            (Or.inl (congrArg Background.timebaseMs hback)) (hnew.network ▸ free)
            (congrArg Background.inFlight hback) ?_ ?_ ?_ ?_
          · intro o' ho'
            rw [hback] at ho'
            cases o' with
            | transmit => exact Or.inr ho'
            | connect => exact Or.inl rfl
            | sendData => exact Or.inr ho'
            | repetition => exact Or.inr ho'
            | response => exact Or.inr ho'
          · rw [show (w.layer.step (.beginConnect a)).retransmissionOperation
              = w.layer.retransmissionOperation from
                congrArg Background.retransmissionOperation hback]
            exact fun hr => ⟨hr, rfl⟩
          · intro e' he'
            rw [hconn', List.mem_singleton] at he'
            subst he'
            left
            rw [Unstamped, hop]
            exact ⟨rfl, rfl⟩
          · show (w.layer.step (.beginConnect a)).connectOperation.createdConnection = true ∧
              (w.layer.step (.beginConnect a)).connectOperation.connectionIndex.isValid = true ∧ _
            rw [hop]
            refine ⟨rfl, hnew.valid, Or.inl ⟨e, hconn', ?_⟩⟩
            show e.index = (w.layer.step (.beginConnect a)).connectOperation.connectionIndex
            rw [hop]
      · have hafter : w.layer.step (.beginConnect a) = w.layer.note [] := by
          simp only [TransportLayer.step, TransportLayer.beginConnect, hinit, hactive, hfound,
            hrefused, isValid_invalid, Bool.not_true, Bool.not_false, Bool.false_eq_true, if_false,
            if_true]
        exact h.unchanged hinit rfl rfl (by rw [hafter]; rfl) (by rw [hafter]; rfl)
          (by rw [hafter]; rfl)

theorem beginHandleNumberedData_peer (s : TransportLayer) (e : ConnectionEntry) (seqNum : UInt8)
    (tpdu : FixedVector UInt8 maxFrameSize) (priority : Priority) :
    ∃ (v : TransportLayer) (tpci : TPCIField) (e' : ConnectionEntry),
      (s.withEntry e).beginHandleNumberedData e.remoteAddress seqNum tpdu priority
          = awaitResponse (v.beginControlResponse e.remoteAddress tpci priority) ∧
        v.connectionTable.connections = [e'] ∧ e'.remoteAddress = e.remoteAddress ∧
        e'.index = e.index ∧ e'.lastActivityTimeMs = s.timebaseMs ∧ v.network = s.network ∧
        v.background = s.background ∧
        v.receiveOperation.active = s.receiveOperation.active := by
  have hcheck := isDuplicate_heardEntry s e seqNum priority s.timebaseMs
  rw [heardEntry] at hcheck
  simp only [beginHandleNumberedData, findConnection_withEntry, updateEntry_withEntry,
    touch_withEntry, if_true]
  by_cases hdup : e.lastReceivedSeq = seqNum &&& 0x0F
  · rw [if_pos hdup] at hcheck
    simp only [hcheck]
    exact ⟨_, _, _, rfl, rfl, rfl, rfl, rfl, rfl, rfl, rfl⟩
  · rw [if_neg hdup] at hcheck
    simp only [hcheck]
    by_cases horder : seqNum &&& 0x0F = e.expectedRxSeq &&& 0x0F
    · rw [if_neg (not_not.mpr horder)]
      exact ⟨_, _, _, rfl, rfl, rfl, rfl, rfl, rfl, rfl, rfl⟩
    · rw [if_pos horder]
      exact ⟨_, _, _, rfl, rfl, rfl, rfl, rfl, rfl, rfl, rfl⟩

/-- The state in which a receive operation looks at its frame. -/
def receiveStarted (s : TransportLayer) : TransportLayer :=
  ({ s with receiveOperation := { active := true, terminalState := .success } } :
    TransportLayer).startClock

theorem receiveStarted_facts (s : TransportLayer) (hidle : s.receiveOperation.active = false) :
    ((receiveStarted s).background = s.background ∨ (s.timebaseMs = 0 ∧
        (receiveStarted s).background = { s.background with timebaseMs := 1 })) ∧
      (receiveStarted s).connectionTable = s.connectionTable ∧
      (receiveStarted s).network = s.network ∧
      (receiveStarted s).receiveOperation.active = true := by
  have hback : ({ s with receiveOperation := { active := true, terminalState := .success } } :
      TransportLayer).background = s.background := by
    rw [background, background, hidle]
    rfl
  refine ⟨?_, table_startClock _, network_startClock _, ?_⟩
  · rw [receiveStarted, startClock]
    split
    · next hzero => exact Or.inr ⟨hzero, congrArg (fun b => { b with timebaseMs := 1 }) hback⟩
    · exact Or.inl hback
  · rw [receiveStarted, startClock_eq_withTime]
    rfl

theorem meets_beginHandleNetworkRx {s : TransportLayer} {frame : NDataFrame} {a : IndividualAddress}
    (h : Meets s (.beginHandleNetworkRx frame) a) :
    (frame.dlFrame.source = a ∧ classify frame.dlFrame.tpdu.data ≠ .connectionless) ∨
      ∃ f ∈ answers s (s.step (.beginHandleNetworkRx frame)), ConnectionFrame a f := by
  rcases h with hheard | hsent
  · left
    rw [heardFrom] at hheard
    split at hheard
    · cases hheard
    · next hclass =>
      rw [not_or] at hclass
      exact ⟨Option.some_inj.mp hheard, hclass.1⟩
  · exact Or.inr hsent

theorem undisturbed_beginHandleNetworkRx {s : TransportLayer} (hslot : s.OneSlot)
    (hinit : s.initialized = true) (hidle : s.receiveOperation.active = false) {frame : NDataFrame}
    (hne : frame.dlFrame.tpdu.data ≠ [])
    (htype : (receivedTpci frame.dlFrame.tpdu.data).type ≠ .numberedData) :
    Undisturbed s (.beginHandleNetworkRx frame) := by
  rcases receiveStarted_facts s hidle with ⟨hback, htable, hnet, -⟩
  have htb : (receiveStarted s).timebaseMs ≠ 0 := timebaseMs_startClock_ne _
  have hinit₁ : (receiveStarted s).initialized = true := by
    rw [receiveStarted, initialized_startClock]
    exact hinit
  have hafter : s.step (.beginHandleNetworkRx frame) = (receiveStarted s).dispatch frame := by
    have hrx := handleNetworkRx_eq_dispatch hinit₁ hne
    rw [startClock, if_neg htb] at hrx
    rw [← hrx]
    simp only [TransportLayer.step, TransportLayer.beginHandleNetworkRx, hinit, hidle, hne, htype,
      Bool.not_true, Bool.false_eq_true, if_false]
    rw [receiveStarted, hinit]
  constructor
  · rw [hafter, background_dispatch]
    exact hback
  · have hmet : MetBy (Meets s (.beginHandleNetworkRx frame)) (receiveStarted s) frame := by
      intro a hm
      rcases meets_beginHandleNetworkRx hm with hsource | ⟨f, hf, hframe⟩
      · exact Or.inl hsource
      · rw [hafter, answers, ← hnet] at hf
        exact Or.inr ⟨f, hf, hframe⟩
    rw [hafter]
    exact (entryMove_dispatch (hslot.congr htable) hinit₁ htb hmet).of_table (by rw [htable])

/-- `beginHandleNetworkRx`. -/
theorem Sound.beginHandleNetworkRx (h : Sound remote w) (hinit : w.layer.initialized = true)
    (frame : NDataFrame) : Sound remote (w.step remote (.beginHandleNetworkRx frame)) := by
  cases hactive : w.layer.receiveOperation.active with
  | true =>
    have hbusy : w.layer.beginHandleNetworkRx frame = (.error .busy, w.layer) := by
      simp only [TransportLayer.beginHandleNetworkRx, hinit, hactive, Bool.not_true,
        Bool.false_eq_true, if_false, if_true]
    refine h.same hinit rfl ?_ (congrArg Prod.snd hbusy)
    rw [heardFrom, if_pos]
    rw [hbusy]
    exact Or.inr (by simp)
  | false =>
    by_cases hne : frame.dlFrame.tpdu.data = []
    · have hafter : w.layer.step (.beginHandleNetworkRx frame)
          = { w.layer with receiveOperation := { active := true, terminalState := .success } } := by
        simp only [TransportLayer.step, TransportLayer.beginHandleNetworkRx, hinit, hactive, hne,
          Bool.not_true, Bool.false_eq_true, if_false, if_true]
      refine h.unchanged hinit rfl ?_ ?_ (by rw [hafter]) (by rw [hafter])
      · rw [heardFrom, if_pos (Or.inl (by rw [hne, classify_nil]))]
      · rw [hafter, background, background, hactive]
        rfl
    · by_cases htype : (receivedTpci frame.dlFrame.tpdu.data).type = .numberedData
      · rcases receiveStarted_facts w.layer hactive with ⟨hback, htable, hnet, hon⟩
        have htb : (receiveStarted w.layer).timebaseMs ≠ 0 := timebaseMs_startClock_ne _
        have hslot := h.slot.congr htable
        obtain ⟨seqNum, hseq⟩ : ∃ seqNum, seqNum = (receivedTpci frame.dlFrame.tpdu.data).seqNum :=
          ⟨_, rfl⟩
        have hrun : w.layer.step (.beginHandleNetworkRx frame)
            = (receiveStarted w.layer).beginHandleNumberedData frame.dlFrame.source seqNum
                frame.dlFrame.tpdu frame.dlFrame.priority := by
          simp only [TransportLayer.step, TransportLayer.beginHandleNetworkRx, hinit, hactive, hne,
            htype, Bool.not_true, Bool.false_eq_true, if_false, if_true]
          rw [hseq, receiveStarted, hinit]
        cases hfind : (receiveStarted w.layer).connectionTable.findConnection
            frame.dlFrame.source with
        | none =>
          -- data of a device without a connection is dropped
          have hafter : w.layer.step (.beginHandleNetworkRx frame)
              = { receiveStarted w.layer with receiveOperation.terminalState := .success } := by
            simp only [hrun, beginHandleNumberedData, hfind]
          refine h.undisturbed hinit rfl ⟨?_, .of_same h.slot ?_ ?_⟩
          · rw [hafter]
            exact hback
          · rw [hafter, ← htable]
          · intro e he hmet
            rw [← htable] at he
            rcases meets_beginHandleNetworkRx hmet with ⟨hsource, -⟩ | ⟨f, hf, -⟩
            · exact hslot.ne_of_find_none hfind he hsource
            · rw [hafter, answers_eq_nil (by rw [← hnet])] at hf
              cases hf
        | some e =>
          rcases hslot.withEntry_of_find hfind with ⟨hs, haddr⟩
          have hconn : w.layer.connectionTable.connections = [e] := by
            rw [← htable]
            exact connections_of_eq hs.symm
          rcases beginHandleNumberedData_peer (receiveStarted w.layer) e seqNum frame.dlFrame.tpdu
            frame.dlFrame.priority with
            ⟨v, tpci, e', hv, hvconn, haddr', hindex', hact', hvnet, hvback, hvon⟩
          rw [hs, haddr] at hv
          rw [hv] at hrun
          obtain ⟨r, u, hbegin⟩ : ∃ r u, v.networkBegin (controlFrame v.ownAddress
              frame.dlFrame.source tpci frame.dlFrame.priority) = (r, u) := ⟨_, _, rfl⟩
          rw [show v.beginControlResponse frame.dlFrame.source tpci frame.dlFrame.priority = (r, u)
            from hbegin] at hrun
          rcases begun_networkBegin hbegin with ⟨hu, hbegun⟩
          have huconn : u.connectionTable.connections = [e'] := by
            rw [hu]
            exact hvconn
          cases hbegun with
          | @refused err background sent =>
            have hafter : w.layer.step (.beginHandleNetworkRx frame)
                = { u with receiveOperation.terminalState := mapTxErrorToProgressState err } := hrun
            have hback' : (w.layer.step (.beginHandleNetworkRx frame)).background
                = (receiveStarted w.layer).background := by
              rw [hafter, ← hvback, ← background]
              rfl
            have hconn' : (w.layer.step (.beginHandleNetworkRx frame)).connectionTable.connections
                = [e'] := by
              rw [hafter]
              exact huconn
            refine h.undisturbed hinit rfl ⟨?_, .touched hconn hconn' haddr' hindex' ?_⟩
            · rw [hback']
              exact hback
            · exact hact'.trans (congrArg Background.timebaseMs hback').symm
          | started free background sent =>
            have hafter : w.layer.step (.beginHandleNetworkRx frame)
                = { u with receiveOperation.waitingResponse := true } := hrun
            have hconn' : (w.layer.step (.beginHandleNetworkRx frame)).connectionTable.connections
                = [e'] := by
              rw [hafter]
              exact huconn
            -- but for the clock, only the response is new
            obtain ⟨tb, hback₁, hsame⟩ : ∃ tb, (receiveStarted w.layer).background
                = { w.layer.background with timebaseMs := tb } ∧
                  (tb = w.layer.timebaseMs ∨ (w.layer.timebaseMs = 0 ∧ tb = 1)) := by
              rcases hback with hkept | ⟨hzero, hone⟩
              · exact ⟨w.layer.timebaseMs, hkept, Or.inl rfl⟩
              · exact ⟨1, hone, Or.inr ⟨hzero, rfl⟩⟩
            have huon : u.receiveOperation.active = true := by
              rw [hu]
              exact hvon.trans hon
            have hback' : (w.layer.step (.beginHandleNetworkRx frame)).background
                = { u.background with responding := true } := by
              rw [hafter]
              show { u.background with responding := u.receiveOperation.active && true } = _
              rw [huon]
              rfl
            rw [background, hvback, hback₁] at hback'
            have htb₁ : (receiveStarted w.layer).timebaseMs = tb :=
              congrArg Background.timebaseMs hback₁
            have htb' : (w.layer.step (.beginHandleNetworkRx frame)).timebaseMs = tb :=
              congrArg Background.timebaseMs hback'
            have hact : e'.lastActivityTimeMs
                = (w.layer.step (.beginHandleNetworkRx frame)).timebaseMs := by
              rw [hact', htb₁, htb']
            refine h.started (o := .response) hinit
              ((congrArg Background.initialized hback').trans hinit) rfl ?_ ?_
              (congrArg Background.inFlight hback') ?_ ?_
              (.touched hconn hconn' haddr' hindex' hact) ⟨?_, ?_⟩
            · rw [SameTime, htb']
              exact hsame
            · rw [← hnet, ← hvnet]
              exact free
            · intro o' ho'
              rw [hback'] at ho'
              cases o' with
              | transmit => exact Or.inr ho'
              | connect => exact Or.inr ho'
              | sendData => exact Or.inr ho'
              | repetition => exact Or.inr ho'
              | response => exact Or.inl rfl
            · rw [show (w.layer.step (.beginHandleNetworkRx frame)).retransmissionOperation
                = w.layer.retransmissionOperation from
                  congrArg Background.retransmissionOperation hback']
              exact fun hr => ⟨hr, rfl⟩
            · show (w.layer.step (.beginHandleNetworkRx frame)).timebaseMs ≠ 0
              rw [htb', ← htb₁]
              exact htb
            · intro e'' he'' _
              have hmem : e'' ∈ (w.layer.step (.beginHandleNetworkRx frame)).connectionTable.connections :=
                he''
              rw [hconn', List.mem_singleton] at hmem
              rw [hmem]
              exact hact
      · exact h.undisturbed hinit rfl (undisturbed_beginHandleNetworkRx h.slot hinit hactive hne htype)

end Begins

end Watch

end KnxStack.Transport
