import KnxStack.Transport.Activity

/-!
# A watched run

The transport layer together with an observer that knows more than it does: the real times behind
the wrapping millisecond clock of the maintenance calls, and when the last frame of the connection
with one device was exchanged (`Watch`). The maintenance calls are made at non-decreasing times less
than 2³² ms apart, so the time of each is the first one, counted from the call before, that the clock
shows as its argument (`readClock`).

`Watch.Sound` is what holds along a run of calls that keep the activity times right: every entry is
stamped no later than the time base and no earlier than its last frame, and the frame in flight, if
it belongs to the connection of an entry, is one whose end will stamp that entry or that the entry is
already stamped for (`Settled`). `Watch.Sound.of_stamps` assembles it after a call.
-/

set_option autoImplicit false

namespace KnxStack.Transport

open KnxStack.Lib KnxStack.Lib.Words KnxStack.Protocol KnxStack.Datalink

namespace TransportLayer

/-! ## Operations that wait for the network -/

/-- Operations that wait for the end of the transmission in flight. -/
inductive Operation where
  | transmit
  | connect
  | sendData
  | repetition
  | response
  deriving DecidableEq

/-- The operation waits. -/
def Background.waits (b : Background) : Operation → Bool
  | .transmit => b.transmitting
  | .connect => b.connectOperation.active
  | .sendData => b.sendingData
  | .repetition => b.retransmissionOperation.active && b.retransmissionOperation.sendingCurrent
  | .response => b.responding

/-- The entry of a connect operation in progress; its activity time is not set yet. -/
def Unstamped (s : TransportLayer) (e : ConnectionEntry) : Prop :=
  s.connectOperation.active = true ∧ e.index = s.connectOperation.connectionIndex

/-- Entries that the frame belongs to carry the current time. -/
def Fresh (s : TransportLayer) (f : NDataFrame) : Prop :=
  ∀ e ∈ s.connectionTable.connections, ConnectionFrame e.remoteAddress f →
    e.lastActivityTimeMs = s.timebaseMs

/-- The clock of the layer moves by itself only when it starts. -/
def SameTime (s s' : TransportLayer) : Prop :=
  s'.timebaseMs = s.timebaseMs ∨ (s.timebaseMs = 0 ∧ s'.timebaseMs = 1)

end TransportLayer

open TransportLayer

/-! ## The observer -/

/-- The first time from `clock` on that the clock shows as `now`. -/
def readClock (clock : Nat) (now : UInt32) : Nat := clock + (now - UInt32.ofNat clock).toNat

theorem ofNat_readClock (clock : Nat) (now : UInt32) : UInt32.ofNat (readClock clock now) = now := by
  rw [readClock, UInt32.ofNat_add, UInt32.ofNat_toNat]
  apply UInt32.toNat_inj.mp
  have hnow : now.toNat < 4294967296 := now.toNat_lt
  rw [UInt32.toNat_add, UInt32.toNat_sub, UInt32.toNat_ofNat']
  omega

/-- A transport layer and what the observer of the connection with one device has noted: the time of
the latest maintenance call, the time its time base stands for, the time of the latest
`beginProcessRetransmissions` that was accepted, and the latest of the creation and the last frame of
the connection, by the time base. -/
structure Watch where
  layer : TransportLayer
  clock : Nat := 0
  timebase : Nat := 0
  begun : Nat := 0
  last : Nat := 0

namespace Watch

/-- Time of the latest maintenance call once the call is made. -/
def reading (w : Watch) : Call → Nat
  | .processRetransmissions now => readClock w.clock now
  | .beginProcessRetransmissions now => readClock w.clock now
  | _ => w.clock

/-- A maintenance call that sets the time base. -/
def maintains (w : Watch) : Call → Bool
  | .processRetransmissions _ => w.layer.initialized
  | .beginProcessRetransmissions _ =>
      w.layer.initialized && !w.layer.retransmissionOperation.active
  | _ => false

/-- The time that the time base stands for after the call. -/
def nextTimebase (w : Watch) (c : Call) : Nat :=
  if w.maintains c then w.reading c
  else w.timebase + ((w.layer.step c).timebaseMs - w.layer.timebaseMs).toNat

/-- The call creates the connection with the device. -/
def creates (w : Watch) (remote : IndividualAddress) (c : Call) : Bool :=
  (w.layer.connectionTable.findConnection remote).isNone &&
    ((w.layer.step c).connectionTable.findConnection remote).isSome

instance (s : TransportLayer) (c : Call) (a : IndividualAddress) : Decidable (Meets s c a) :=
  inferInstanceAs (Decidable (_ ∨ _))

/-- The observer after a call. -/
def step (remote : IndividualAddress) (w : Watch) (c : Call) : Watch where
  layer := w.layer.step c
  clock := w.reading c
  timebase := w.nextTimebase c
  begun := match c with
    | .beginProcessRetransmissions _ => if w.maintains c then w.nextTimebase c else w.begun
    | _ => w.begun
  last := if w.creates remote c = true ∨ Meets w.layer c remote then w.nextTimebase c else w.last

/-! ## Settled transmissions -/

/-- The end of the frame's transmission leaves every entry with a right activity time, whichever
operation waits for it. -/
def Settled (w : Watch) (f : NDataFrame) : Operation → Prop
  | .transmit => ∀ a, ¬ ConnectionFrame a f
  | .connect =>
      w.layer.connectOperation.createdConnection = true ∧
        w.layer.connectOperation.connectionIndex.isValid = true ∧
        ((∃ e, w.layer.connectionTable.connections = [e] ∧
            e.index = w.layer.connectOperation.connectionIndex) ∨
          (w.layer.timebaseMs ≠ 0 ∧ Fresh w.layer f))
  | .sendData => True
  | .repetition => w.begun = w.timebase → ∀ e ∈ w.layer.connectionTable.connections,
      ConnectionFrame e.remoteAddress f →
        e.index = w.layer.retransmissionOperation.currentConnection ∨
          e.lastActivityTimeMs = w.layer.timebaseMs
  | .response => w.layer.timebaseMs ≠ 0 ∧ Fresh w.layer f

/-- At most one operation waits, and the transmission it waits for is settled. -/
structure Flights (w : Watch) : Prop where
  single : ∀ o o', w.layer.background.waits o = true → w.layer.background.waits o' = true → o = o'
  settled : ∀ o, w.layer.background.waits o = true →
    ∃ f, w.layer.network.inFlight = some f ∧ Settled w f o

/-- The activity time of an entry stands for a time that is not ahead of the time base and, if the
entry is that of the watched device, not before its last frame. -/
def Stamped (w : Watch) (remote : IndividualAddress) (e : ConnectionEntry) : Prop :=
  ∃ A, e.lastActivityTimeMs = UInt32.ofNat A ∧ A ≤ w.timebase ∧
    (e.remoteAddress = remote → w.last ≤ A)

/-- What holds along a run whose calls keep the activity times right. -/
structure Sound (remote : IndividualAddress) (w : Watch) : Prop where
  slot : w.layer.OneSlot
  shown : w.layer.timebaseMs = UInt32.ofNat w.timebase
  last_le : w.last ≤ w.timebase
  begun : w.layer.retransmissionOperation.active = true →
    w.layer.retransmissionOperation.currentTimeMs = UInt32.ofNat w.begun ∧ w.begun ≤ w.timebase
  flights : Flights w
  idle : w.layer.initialized = false → ∀ o, w.layer.background.waits o = false
  stamps : w.layer.initialized = true → ∀ e ∈ w.layer.connectionTable.connections,
    Unstamped w.layer e ∨ Stamped w remote e

/-! ## Times -/

section Times

variable {remote : IndividualAddress} {w : Watch} {c : Call}

/-- The clock of the layer follows the maintenance calls and moves by itself only when it starts. -/
def OnTime (w : Watch) (c : Call) : Prop :=
  w.timebase ≤ w.nextTimebase c ∧ (w.layer.step c).timebaseMs = UInt32.ofNat (w.nextTimebase c)

theorem onTime_of_sameTime (hshown : w.layer.timebaseMs = UInt32.ofNat w.timebase)
    (hquiet : w.maintains c = false) (htime : SameTime w.layer (w.layer.step c)) : OnTime w c := by
  have hnext : w.nextTimebase c
      = w.timebase + ((w.layer.step c).timebaseMs - w.layer.timebaseMs).toNat := by
    rw [nextTimebase, hquiet, if_neg Bool.false_ne_true]
  constructor
  · rw [hnext]
    exact Nat.le_add_right _ _
  · rw [hnext, UInt32.ofNat_add, UInt32.ofNat_toNat, ← hshown]
    rcases htime with hsame | ⟨hzero, hone⟩
    · rw [hsame]
      simp
    · rw [hzero, hone]
      decide

theorem last_step_le (h : w.last ≤ w.timebase) (htime : w.timebase ≤ w.nextTimebase c) :
    (w.step remote c).last ≤ (w.step remote c).timebase := by
  show (if _ then w.nextTimebase c else w.last) ≤ w.nextTimebase c
  split
  · exact le_rfl
  · exact h.trans htime

theorem last_step_of_unmet {e : ConnectionEntry}
    (hconn : w.layer.connectionTable.connections = [e]) (haddr : e.remoteAddress = remote)
    (hunmet : ¬ Meets w.layer c remote) : (w.step remote c).last = w.last := by
  have hfind : w.layer.connectionTable.findConnection remote = some e := by
    rw [← withEntry_eq_self hconn, findConnection_withEntry, if_pos haddr]
  have hold : w.creates remote c = false := by
    rw [creates, hfind]
    rfl
  show (if w.creates remote c = true ∨ Meets w.layer c remote then _ else w.last) = w.last
  rw [if_neg]
  rintro (hnew | hmet)
  · rw [hold] at hnew
    cases hnew
  · exact hunmet hmet

end Times

/-! ## What a call keeps -/

section Kept

variable {remote : IndividualAddress} {w : Watch} {c : Call}

theorem stamps_of_move (h : Sound remote w) (hinit : w.layer.initialized = true)
    (htime : OnTime w c) (hmove : EntryMove (Meets w.layer c) w.layer (w.layer.step c))
    (hunstamped : ∀ e e', w.layer.connectionTable.connections = [e] →
      (w.layer.step c).connectionTable.connections = [e'] → e'.index = e.index →
      Unstamped w.layer e →
        Unstamped (w.layer.step c) e' ∨ e'.lastActivityTimeMs = (w.layer.step c).timebaseMs) :
    ∀ e' ∈ (w.layer.step c).connectionTable.connections,
      Unstamped (w.layer.step c) e' ∨ Stamped (w.step remote c) remote e' := by
  rcases htime with ⟨hle, hshown⟩
  have hlast : (w.step remote c).last ≤ w.nextTimebase c := last_step_le h.last_le hle
  -- an entry with the current time is stamped right, whatever was exchanged
  have hnow : ∀ e' : ConnectionEntry, e'.lastActivityTimeMs = (w.layer.step c).timebaseMs →
      Stamped (w.step remote c) remote e' :=
    fun e' hact => ⟨w.nextTimebase c, hact.trans hshown, le_rfl, fun _ => hlast⟩
  intro e' he'
  cases hmove with
  | @kept e e'' before after address index activity unmet =>
    rw [after, List.mem_singleton] at he'
    subst he'
    have he : e ∈ w.layer.connectionTable.connections := by
      rw [before]
      exact List.mem_cons_self
    rcases h.stamps hinit e he with hun | ⟨A, hA, hAle, hAlast⟩
    · rcases hunstamped e e' before after index hun with hun' | hact
      · exact Or.inl hun'
      · exact Or.inr (hnow e' hact)
    · right
      refine ⟨A, activity.trans hA, hAle.trans hle, ?_⟩
      intro haddr
      have haddr' : e.remoteAddress = remote := address.symm.trans haddr
      rw [last_step_of_unmet before haddr' (haddr' ▸ unmet)]
      exact hAlast haddr'
  | touched before after address index activity =>
    rw [after, List.mem_singleton] at he'
    subst he'
    exact Or.inr (hnow _ activity)
  | created before after activity =>
    rw [after, List.mem_singleton] at he'
    subst he'
    exact Or.inr (hnow _ activity)
  | gone after started =>
    rw [after] at he'
    cases he'

theorem Sound.of_stamps (h : Sound remote w) (hinit' : (w.layer.step c).initialized = true)
    (htime : OnTime w c)
    (hstamps : ∀ e' ∈ (w.layer.step c).connectionTable.connections,
      Unstamped (w.layer.step c) e' ∨ Stamped (w.step remote c) remote e')
    (hbegun : (w.layer.step c).retransmissionOperation.active = true →
      (w.layer.step c).retransmissionOperation.currentTimeMs
          = UInt32.ofNat (w.step remote c).begun ∧
        (w.step remote c).begun ≤ w.nextTimebase c)
    (hflights : Flights (w.step remote c)) : Sound remote (w.step remote c) where
  slot := oneSlot_step w.layer c h.slot
  shown := htime.2
  last_le := last_step_le h.last_le htime.1
  begun := hbegun
  flights := hflights
  idle := fun hoff => absurd (hinit'.symm.trans hoff) (by decide)
  stamps := fun _ => hstamps

theorem settled_of_move {w' : Watch} {met : IndividualAddress → Prop} {f : NDataFrame}
    {o : Operation} (h : Settled w f o) (hwaits : w.layer.background.waits o = true)
    (hmove : EntryMove met w.layer w'.layer)
    (hconnect : w'.layer.connectOperation = w.layer.connectOperation)
    (hretr : o = .repetition →
      w'.layer.retransmissionOperation = w.layer.retransmissionOperation)
    (hbegun : o = .repetition → w'.begun = w'.timebase →
      w.begun = w.timebase ∧ w'.layer.timebaseMs = w.layer.timebaseMs)
    (htime : o = .connect ∨ o = .response → w.layer.timebaseMs ≠ 0 →
      w'.layer.timebaseMs = w.layer.timebaseMs) : Settled w' f o := by
  -- what is fresh stays so while the clock is not moved
  have hfresh : w'.layer.timebaseMs = w.layer.timebaseMs → Fresh w.layer f → Fresh w'.layer f := by
    intro hsame hf e' he' hframe
    cases hmove with
    | @kept e e'' before after address index activity unmet =>
      rw [after, List.mem_singleton] at he'
      subst he'
      rw [address] at hframe
      rw [activity, hsame]
      refine hf e ?_ hframe
      rw [before]
      exact List.mem_cons_self
    | touched before after address index activity =>
      rw [after, List.mem_singleton] at he'
      subst he'
      exact activity
    | created before after activity =>
      rw [after, List.mem_singleton] at he'
      subst he'
      exact activity
    | gone after started =>
      rw [after] at he'
      cases he'
  cases o with
  | transmit => exact h
  | sendData => trivial
  | response =>
    rcases h with ⟨htb, hf⟩
    have hsame := htime (Or.inr rfl) htb
    exact ⟨by rw [hsame]; exact htb, hfresh hsame hf⟩
  | connect =>
    rcases h with ⟨hcreated, hvalid, hcase⟩
    refine ⟨by rw [hconnect]; exact hcreated, by rw [hconnect]; exact hvalid, ?_⟩
    rw [hconnect]
    rcases hcase with ⟨e, hconn, hindex⟩ | ⟨htb, hf⟩
    · cases hmove with
      | kept before after address index activity unmet =>
        rw [hconn] at before
        cases before
        exact Or.inl ⟨_, after, index.trans hindex⟩
      | touched before after address index activity =>
        rw [hconn] at before
        cases before
        exact Or.inl ⟨_, after, index.trans hindex⟩
      | created before after activity =>
        rw [hconn] at before
        cases before
      | gone after started =>
        right
        rcases started with hempty | htb' | hoff
        · rw [hconn] at hempty
          cases hempty
        · refine ⟨htb', ?_⟩
          intro e' he'
          rw [after] at he'
          cases he'
        · have hon : w.layer.connectOperation.active = true := hwaits
          rw [← hconnect, hoff] at hon
          cases hon
    · have hsame := htime (Or.inl rfl) htb
      exact Or.inr ⟨by rw [hsame]; exact htb, hfresh hsame hf⟩
  | repetition =>
    intro hnow e' he' hframe
    rcases hbegun rfl hnow with ⟨hold, hsame⟩
    rw [hretr rfl]
    cases hmove with
    | @kept e e'' before after address index activity unmet =>
      rw [after, List.mem_singleton] at he'
      subst he'
      rw [address] at hframe
      rw [activity, hsame, index]
      refine h hold e ?_ hframe
      rw [before]
      exact List.mem_cons_self
    | touched before after address index activity =>
      rw [after, List.mem_singleton] at he'
      subst he'
      exact Or.inr activity
    | created before after activity =>
      rw [after, List.mem_singleton] at he'
      subst he'
      exact Or.inr activity
    | gone after started =>
      rw [after] at he'
      cases he'

theorem flights_of_none (h : ∀ o, w.layer.background.waits o = false) : Flights w := by
  constructor
  · intro o o' ho
    rw [h o] at ho
    cases ho
  · intro o ho
    rw [h o] at ho
    cases ho

theorem flights_of_one {o : Operation} {f : NDataFrame}
    (h : ∀ o', w.layer.background.waits o' = true → o' = o)
    (hflight : w.layer.network.inFlight = some f) (hsettled : Settled w f o) : Flights w := by
  constructor
  · intro o₁ o₂ h₁ h₂
    exact (h o₁ h₁).trans (h o₂ h₂).symm
  · intro o' ho'
    rw [h o' ho']
    exact ⟨f, hflight, hsettled⟩

theorem flights_of_move {w' : Watch} {met : IndividualAddress → Prop} (h : Sound remote w)
    (hmove : EntryMove met w.layer w'.layer)
    (hwaits : ∀ o, w'.layer.background.waits o = true → w.layer.background.waits o = true ∧
      w'.layer.network.inFlight = w.layer.network.inFlight ∧
      w'.layer.connectOperation = w.layer.connectOperation ∧
      (o = .repetition → w'.layer.retransmissionOperation = w.layer.retransmissionOperation))
    (hbegun : w'.begun = w.begun) (hle : w.timebase ≤ w'.timebase)
    (hshown : w'.layer.timebaseMs = UInt32.ofNat w'.timebase)
    (htime : ∀ o, w.layer.background.waits o = true → o = .connect ∨ o = .response →
      w.layer.timebaseMs ≠ 0 → w'.layer.timebaseMs = w.layer.timebaseMs) : Flights w' := by
  constructor
  · intro o o' ho ho'
    exact h.flights.single o o' (hwaits o ho).1 (hwaits o' ho').1
  · intro o ho
    rcases hwaits o ho with ⟨hold, hflight, hconnect, hretr⟩
    rcases h.flights.settled o hold with ⟨f, hf, hsettled⟩
    refine ⟨f, hflight.trans hf, settled_of_move hsettled hold hmove hconnect hretr ?_ (htime o hold)⟩
    rintro rfl hnow
    have hactive : w.layer.retransmissionOperation.active = true := by
      have hboth : (w.layer.retransmissionOperation.active &&
        w.layer.retransmissionOperation.sendingCurrent) = true := hold
      exact (Bool.and_eq_true _ _ ▸ hboth).1
    -- the time base stands where it stood when the operation began
    have hkept : w'.timebase = w.timebase := by
      have hle' := (h.begun hactive).2
      omega
    exact ⟨by omega, by rw [hshown, h.shown, hkept]⟩

end Kept

end Watch

end KnxStack.Transport
