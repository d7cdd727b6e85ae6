import KnxStack.Lib.Runs
import KnxStack.Lib.Windows
import KnxStack.Lib.Words
import Mathlib.Data.List.Induction

/-!
# The telegram rate limiter

`TelegramRateLimiter` (`application/telegram_rate_limiter.hpp`): a minimum gap between two sends, and a
bucket of tokens that is filled again by the first call after its window has run out. The gap is
checked before the bucket is filled, so a call that comes too soon leaves an old window in place.

`Metered` is a limiter with the times of what it granted, window by window. `Tracks` is what a run
keeps of it, and `limiter_bounds` has the bounds.
-/

set_option autoImplicit false

namespace KnxStack.Application

open KnxStack.Lib KnxStack.Lib.Words

/-- `TelegramRateLimitConfig`. -/
structure TelegramRateLimitConfig where
  maxTelegrams : UInt32 := 0
  perWindowMs : UInt32 := 1000
  minGapMs : UInt32 := 0
  deriving DecidableEq, Repr

/-- `TelegramRateLimiter`. -/
structure TelegramRateLimiter where
  config : TelegramRateLimitConfig := {}
  initialized : Bool := false
  hasSent : Bool := false
  tokens : UInt32 := 0
  windowStartMs : UInt32 := 0
  lastSendMs : UInt32 := 0
  deriving DecidableEq, Repr

namespace TelegramRateLimiter

/-- `reset`. -/
def reset (l : TelegramRateLimiter) : TelegramRateLimiter :=
  { l with
    initialized := false
    hasSent := false
    tokens := l.config.maxTelegrams
    windowStartMs := 0
    lastSendMs := 0 }

/-- `configure`. -/
def configure (l : TelegramRateLimiter) (config : TelegramRateLimitConfig) : TelegramRateLimiter :=
  reset { l with config := config }

/-- `unlimited`. -/
def unlimited (l : TelegramRateLimiter) : Bool :=
  l.config.maxTelegrams == 0 && l.config.minGapMs == 0

/-- The gap after the last send is not over. -/
def tooSoon (l : TelegramRateLimiter) (nowMs : UInt32) : Bool :=
  l.config.minGapMs != 0 && l.hasSent && nowMs - l.lastSendMs < l.config.minGapMs

/-- `allowed`. -/
def allowed (l : TelegramRateLimiter) (nowMs : UInt32) : Bool :=
  if l.unlimited then true
  else if l.tooSoon nowMs then false
  else if l.config.maxTelegrams ≠ 0 then
    let windowElapsed := l.initialized && l.config.perWindowMs ≤ nowMs - l.windowStartMs
    let availableTokens :=
      if !l.initialized || windowElapsed then l.config.maxTelegrams else l.tokens
    availableTokens != 0
  else true

/-- The first call opens the first window. -/
def begun (l : TelegramRateLimiter) (nowMs : UInt32) : TelegramRateLimiter :=
  if !l.initialized then
    { l with windowStartMs := nowMs, tokens := l.config.maxTelegrams, initialized := true }
  else l

/-- `tryConsume`. -/
def tryConsume (l : TelegramRateLimiter) (nowMs : UInt32) : Bool × TelegramRateLimiter :=
  if l.unlimited then (true, l)
  else
    let l := l.begun nowMs
    if l.tooSoon nowMs then (false, l)
    else if l.config.maxTelegrams ≠ 0 then
      let l :=
        if l.config.perWindowMs ≤ nowMs - l.windowStartMs then
          { l with windowStartMs := nowMs, tokens := l.config.maxTelegrams }
        else l
      if l.tokens = 0 then (false, l)
      else (true, { l with tokens := l.tokens - 1, lastSendMs := nowMs, hasSent := true })
    else (true, { l with lastSendMs := nowMs, hasSent := true })

/-- The calls of `tryConsume` that fill the bucket. -/
def refills (l : TelegramRateLimiter) (nowMs : UInt32) : Bool :=
  !l.unlimited && (!l.initialized || (l.config.maxTelegrams != 0 && !l.tooSoon nowMs
    && l.config.perWindowMs ≤ nowMs - l.windowStartMs))

/-! ## What a call does -/

variable {l : TelegramRateLimiter} {nowMs : UInt32}

/-- Nothing was sent before the first call. -/
def Fresh (l : TelegramRateLimiter) : Prop := l.initialized = false → l.hasSent = false

theorem begun_of_initialized (h : l.initialized = true) (nowMs : UInt32) : l.begun nowMs = l := by
  simp [begun, h]

theorem not_elapsed_at_once (hwindow : 0 < l.config.perWindowMs) :
    ¬ l.config.perWindowMs ≤ nowMs - nowMs := by
  rw [UInt32.sub_self]
  exact UInt32.not_le.mpr hwindow

/-- A grant, and what it leaves: the bucket was filled and gave one token, or gave one of those it
had. -/
structure Granted (l : TelegramRateLimiter) (nowMs : UInt32) (l' : TelegramRateLimiter) : Prop where
  config : l'.config = l.config
  initialized : l'.initialized = true
  hasSent : l'.hasSent = true
  lastSendMs : l'.lastSendMs = nowMs
  gap : l.tooSoon nowMs = false
  bucket : l.config.maxTelegrams ≠ 0 →
    (l.refills nowMs = true ∧ (l.initialized = true → l.config.perWindowMs ≤ nowMs - l.windowStartMs)
        ∧ l'.windowStartMs = nowMs ∧ l'.tokens = l.config.maxTelegrams - 1) ∨
      (l.refills nowMs = false ∧ l.initialized = true ∧ l'.windowStartMs = l.windowStartMs
        ∧ l.tokens ≠ 0 ∧ l'.tokens = l.tokens - 1)

theorem tryConsume_cases (hlimited : l.unlimited = false) (hfresh : l.Fresh)
    (hwindow : 0 < l.config.perWindowMs) :
    (l.tryConsume nowMs = (false, l) ∧ l.refills nowMs = false) ∨
      ∃ l', l.tryConsume nowMs = (true, l') ∧ Granted l nowMs l' := by
  have hgap : (l.begun nowMs).tooSoon nowMs = l.tooSoon nowMs := by
    unfold begun
    split <;> rfl
  have hconfig : (l.begun nowMs).config = l.config := by
    unfold begun
    split <;> rfl
  cases hinit : l.initialized with
  | false =>
    -- the first call opens a window of its own and finds it full
    right
    have hsoon : l.tooSoon nowMs = false := by simp [tooSoon, hfresh hinit]
    have hrefills : l.refills nowMs = true := by simp [refills, hlimited, hinit]
    have hbegun : l.begun nowMs
        = { l with windowStartMs := nowMs, tokens := l.config.maxTelegrams, initialized := true } := by
      simp [begun, hinit]
    by_cases hmax : l.config.maxTelegrams = 0
    · refine ⟨{ l.begun nowMs with lastSendMs := nowMs, hasSent := true }, ?_, ?_⟩
      · simp [tryConsume, hlimited, hgap, hsoon, hconfig, hmax]
      · rw [hbegun]
        exact ⟨rfl, rfl, rfl, rfl, hsoon, fun h => absurd hmax h⟩
    · refine ⟨{ l.begun nowMs with
        tokens := l.config.maxTelegrams - 1, lastSendMs := nowMs, hasSent := true }, ?_, ?_⟩
      · have hopen : ¬ l.config.perWindowMs ≤ nowMs - nowMs := not_elapsed_at_once hwindow
        have hsoon' : TelegramRateLimiter.tooSoon { l with
            windowStartMs := nowMs, tokens := l.config.maxTelegrams, initialized := true } nowMs
            = false := hsoon
        simp only [tryConsume, hlimited, hbegun, hsoon', Bool.false_eq_true, if_false, if_neg hopen]
        simp [hmax]
      · rw [hbegun]
        exact ⟨rfl, rfl, rfl, rfl, hsoon, fun _ => .inl ⟨hrefills, by simp [hinit], rfl, rfl⟩⟩
  | true =>
    have hbegun := begun_of_initialized hinit nowMs
    cases hsoon : l.tooSoon nowMs with
    | true =>
      left
      constructor
      · simp [tryConsume, hlimited, hbegun, hsoon]
      · simp [refills, hinit, hsoon]
    | false =>
      by_cases hmax : l.config.maxTelegrams = 0
      · right
        refine ⟨{ l with lastSendMs := nowMs, hasSent := true }, ?_, ?_⟩
        · simp [tryConsume, hlimited, hbegun, hsoon, hmax]
        · exact ⟨rfl, hinit, rfl, rfl, hsoon, fun h => absurd hmax h⟩
      · by_cases helapsed : l.config.perWindowMs ≤ nowMs - l.windowStartMs
        · right
          refine ⟨{ l with
            windowStartMs := nowMs, tokens := l.config.maxTelegrams - 1, lastSendMs := nowMs,
            hasSent := true }, ?_, ?_⟩
          · simp [tryConsume, hlimited, hbegun, hsoon, hmax, helapsed]
          · have hrefills : l.refills nowMs = true := by
              simp [refills, hlimited, hsoon, hmax, helapsed]
            exact ⟨rfl, hinit, rfl, rfl, hsoon, fun _ => .inl ⟨hrefills, fun _ => helapsed, rfl, rfl⟩⟩
        · have hrefills : l.refills nowMs = false := by simp [refills, hinit, helapsed]
          by_cases htokens : l.tokens = 0
          · left
            exact ⟨by simp [tryConsume, hlimited, hbegun, hsoon, hmax, helapsed, htokens], hrefills⟩
          · right
            refine ⟨{ l with tokens := l.tokens - 1, lastSendMs := nowMs, hasSent := true }, ?_, ?_⟩
            · simp [tryConsume, hlimited, hbegun, hsoon, hmax, helapsed, htokens]
            · exact ⟨rfl, hinit, rfl, rfl, hsoon,
                fun _ => .inr ⟨hrefills, hinit, rfl, htokens, rfl⟩⟩

/-- `allowed` answers what `tryConsume` would. -/
theorem allowed_eq_tryConsume (hwindow : 0 < l.config.perWindowMs) :
    l.allowed nowMs = (l.tryConsume nowMs).1 := by
  cases hlimited : l.unlimited with
  | true => simp [allowed, tryConsume, hlimited]
  | false =>
    have hgap : (l.begun nowMs).tooSoon nowMs = l.tooSoon nowMs := by
      unfold begun
      split <;> rfl
    rw [allowed, tryConsume]
    simp only [hlimited, hgap, Bool.false_eq_true, if_false]
    cases hsoon : l.tooSoon nowMs with
    | true => rfl
    | false =>
      simp only [Bool.false_eq_true, if_false]
      cases hinit : l.initialized with
      | false =>
        have hopen : ¬ l.config.perWindowMs ≤ nowMs - nowMs := not_elapsed_at_once hwindow
        by_cases hmax : l.config.maxTelegrams = 0
        · simp [begun, hinit, hmax]
        · simp [begun, hinit, hmax, UInt32.not_le.mpr hwindow]
      | true =>
        by_cases hmax : l.config.maxTelegrams = 0
        · simp [begun, hinit, hmax]
        · by_cases helapsed : l.config.perWindowMs ≤ nowMs - l.windowStartMs
          · simp [begun, hinit, hmax, helapsed]
          · by_cases htokens : l.tokens = 0
            · simp [begun, hinit, hmax, helapsed, htokens]
            · simp [begun, hinit, hmax, helapsed, htokens]

end TelegramRateLimiter

/-! ## Runs -/

/-- A limiter with the times of its grants, in the windows that are over and in the current one. -/
structure Metered where
  limiter : TelegramRateLimiter
  closed : List (List Nat) := []
  current : List Nat := []

namespace Metered

/-- All grants, in their order. -/
def grants (m : Metered) : List Nat := m.closed.flatten ++ m.current

/-- `tryConsume` at a time, on the clock of 32 bits that the limiter reads. -/
def call (m : Metered) (t : Nat) : Metered :=
  let outcome := m.limiter.tryConsume (UInt32.ofNat t)
  let m := if m.limiter.refills (UInt32.ofNat t) then
      { m with closed := m.closed ++ [m.current], current := [] } else m
  { m with
    limiter := outcome.2
    current := if outcome.1 then m.current ++ [t] else m.current }

/-- A limiter that was configured and not called yet. -/
def start (config : TelegramRateLimitConfig) : Metered :=
  ⟨TelegramRateLimiter.configure {} config, [], []⟩

/-- The calls come in order, less than one turn of the clock apart. -/
def InTime (times : List Nat) : Prop := times.Pairwise fun a b => a ≤ b ∧ b < a + 2 ^ 32

theorem grants_call (m : Metered) (t : Nat) :
    (m.call t).grants
      = m.grants ++ if (m.limiter.tryConsume (UInt32.ofNat t)).1 then [t] else [] := by
  unfold call grants
  cases m.limiter.refills (UInt32.ofNat t) <;>
    cases hgranted : (m.limiter.tryConsume (UInt32.ofNat t)).1 <;> simp [hgranted]

theorem toNat_pred {x : UInt32} (h : x ≠ 0) : 0 < x.toNat ∧ (x - 1).toNat = x.toNat - 1 := by
  have hpos : 0 < x.toNat := by
    rw [Nat.pos_iff_ne_zero]
    intro hzero
    exact h (UInt32.toNat_inj.mp hzero)
  have hle : (1 : UInt32) ≤ x := UInt32.le_iff_toNat_le.mpr hpos
  exact ⟨hpos, UInt32.toNat_sub_of_le _ _ hle⟩

theorem elapsed_eq {a t : Nat} (h : a ≤ t) (hnear : t < a + 2 ^ 32) :
    (UInt32.ofNat t - UInt32.ofNat a).toNat = t - a := by
  rw [UInt32.toNat_sub, UInt32.toNat_ofNat', UInt32.toNat_ofNat']
  omega

/-- What the limiter has of the calls at these times, when it has a limit. -/
structure Tracks (config : TelegramRateLimitConfig) (times : List Nat) (m : Metered) : Prop where
  config_eq : m.limiter.config = config
  called : m.limiter.initialized = false → times = [] ∧ m.limiter.hasSent = false
  sublist : m.grants.Sublist times
  gap : m.grants.Pairwise fun a b => a + config.minGapMs.toNat ≤ b
  last : m.grants ≠ [] → m.limiter.hasSent = true
    ∧ ∃ g ∈ times, m.limiter.lastSendMs = UInt32.ofNat g ∧ ∀ a ∈ m.grants, a ≤ g
  bucket : config.maxTelegrams ≠ 0 → m.limiter.initialized = true →
    m.current.length + m.limiter.tokens.toNat = config.maxTelegrams.toNat
      ∧ (∀ window ∈ m.closed, window.length ≤ config.maxTelegrams.toNat)
      ∧ ∃ opened ∈ times, m.limiter.windowStartMs = UInt32.ofNat opened
        ∧ Windowed config.maxTelegrams.toNat config.perWindowMs.toNat opened m.closed.flatten
          m.current

theorem tracks_start (config : TelegramRateLimitConfig) : Tracks config [] (start config) where
  config_eq := rfl
  called := fun _ => ⟨rfl, rfl⟩
  sublist := List.Sublist.refl []
  gap := List.Pairwise.nil
  last := fun h => absurd rfl h
  bucket := fun _ h => nomatch h

section Steps

variable {config : TelegramRateLimitConfig} {times : List Nat} {m : Metered} {t : Nat}

theorem call_of_refused (hrefused : m.limiter.tryConsume (UInt32.ofNat t) = (false, m.limiter))
    (hkept : m.limiter.refills (UInt32.ofNat t) = false) : m.call t = m := by
  simp [call, hrefused, hkept]

theorem Tracks.unlimited_eq (h : Tracks config times m) :
    m.limiter.unlimited = (config.maxTelegrams == 0 && config.minGapMs == 0) := by
  rw [TelegramRateLimiter.unlimited, h.config_eq]

theorem Tracks.later (h : Tracks config times m) (hcalled : m.limiter.initialized = true) (t : Nat) :
    Tracks config (times ++ [t]) m where
  config_eq := h.config_eq
  called := fun hnot => absurd hcalled (by simp [hnot])
  sublist := h.sublist.trans (List.sublist_append_left times [t])
  gap := h.gap
  last := by
    intro hne
    obtain ⟨hsent, g, hg, hlast, hall⟩ := h.last hne
    exact ⟨hsent, g, List.mem_append_left _ hg, hlast, hall⟩
  bucket := by
    intro hmax hinit
    obtain ⟨hcount, hclosed, opened, hopened, hstart, hwindowed⟩ := h.bucket hmax hinit
    exact ⟨hcount, hclosed, opened, List.mem_append_left _ hopened, hstart, hwindowed⟩

theorem Tracks.uncalled (h : Tracks config times m) (hinit : m.limiter.initialized = false) :
    m.closed.flatten = [] ∧ m.current = [] := by
  -- Before the first call there is no grant, in any window.
  have hsub := h.sublist
  rw [(h.called hinit).1] at hsub
  exact List.append_eq_nil_iff.mp (List.sublist_nil.mp hsub)

theorem Tracks.window_le (h : Tracks config times m) (hmax : config.maxTelegrams ≠ 0) :
    ∀ window ∈ m.closed ++ [m.current], window.length ≤ config.maxTelegrams.toNat := by
  intro window hwindow
  rw [List.mem_append, List.mem_singleton] at hwindow
  cases hinit : m.limiter.initialized with
  | false =>
    obtain ⟨hclosed, hcurrent⟩ := h.uncalled hinit
    rcases hwindow with hold | rfl
    · rw [List.flatten_eq_nil_iff.mp hclosed window hold]
      exact Nat.zero_le _
    · rw [hcurrent]
      exact Nat.zero_le _
  | true =>
    obtain ⟨hcount, hclosed, -⟩ := h.bucket hmax hinit
    rcases hwindow with hold | rfl
    · exact hclosed window hold
    · omega

theorem Tracks.gap_to (h : Tracks config times m)
    (hnow : ∀ a ∈ times, a ≤ t ∧ t < a + 2 ^ 32)
    (hgap : m.limiter.tooSoon (UInt32.ofNat t) = false) :
    ∀ a ∈ m.grants, a + config.minGapMs.toNat ≤ t := by
  intro a ha
  -- The gap is measured to the last grant, which is the latest of them.
  have hle := (hnow a (h.sublist.subset ha)).1
  obtain ⟨hsent, g, hg, hlast, hall⟩ := h.last (List.ne_nil_of_mem ha)
  obtain ⟨hgt, hnear⟩ := hnow g hg
  have hag := hall a ha
  by_cases hzero : config.minGapMs = 0
  · rw [hzero]
    exact hle
  · rw [TelegramRateLimiter.tooSoon, h.config_eq, hsent, hlast] at hgap
    have hfar : config.minGapMs.toNat ≤ (UInt32.ofNat t - UInt32.ofNat g).toNat := by
      simpa [hzero, UInt32.le_iff_toNat_le] using hgap
    rw [elapsed_eq hgt hnear] at hfar
    omega

theorem Tracks.bucket_call (h : Tracks config times m) {l' : TelegramRateLimiter}
    (hcall : m.limiter.tryConsume (UInt32.ofNat t) = (true, l'))
    (hgranted : TelegramRateLimiter.Granted m.limiter (UInt32.ofNat t) l')
    (hnow : ∀ a ∈ times, a ≤ t ∧ t < a + 2 ^ 32) (hmax : config.maxTelegrams ≠ 0) :
    (m.call t).current.length + l'.tokens.toNat = config.maxTelegrams.toNat
      ∧ (∀ window ∈ (m.call t).closed, window.length ≤ config.maxTelegrams.toNat)
      ∧ ∃ opened ∈ times ++ [t], l'.windowStartMs = UInt32.ofNat opened
        ∧ Windowed config.maxTelegrams.toNat config.perWindowMs.toNat opened
          (m.call t).closed.flatten (m.call t).current := by
  obtain ⟨hpos, hpred⟩ := toNat_pred hmax
  have hcurrent : m.current.Sublist m.grants := List.sublist_append_right _ _
  rcases hgranted.bucket (by rw [h.config_eq]; exact hmax) with
    ⟨hfull, helapsed, hstart, htokens⟩ | ⟨hfull, hinit, hstart, hsome, htokens⟩
  · -- the bucket is filled: a window closes and the grant is the first of the next
    have hclosed : (m.call t).closed = m.closed ++ [m.current] := by simp [call, hfull]
    have hnext : (m.call t).current = [t] := by simp [call, hfull, hcall]
    rw [h.config_eq] at htokens helapsed
    have hopen : Windowed config.maxTelegrams.toNat config.perWindowMs.toNat t
        (m.closed.flatten ++ m.current) [] := by
      cases hinit : m.limiter.initialized with
      | false =>
        rw [(h.uncalled hinit).1, (h.uncalled hinit).2]
        exact Windowed.first _ _ _
      | true =>
        obtain ⟨-, -, opened, hopened, hwhen, hwindowed⟩ := h.bucket hmax hinit
        obtain ⟨hle, hnear⟩ := hnow opened hopened
        have hlong := UInt32.le_iff_toNat_le.mp (helapsed hinit)
        rw [hwhen, elapsed_eq hle hnear] at hlong
        exact hwindowed.turn (by omega) fun a ha => (hnow a (h.sublist.subset (hcurrent.subset ha))).1
    refine ⟨?_, ?_, t, List.mem_append_right _ (List.mem_singleton.mpr rfl), hstart, ?_⟩
    · rw [hnext, htokens, hpred, List.length_singleton]
      omega
    · rw [hclosed]
      exact h.window_le hmax
    · rw [hclosed, hnext, List.flatten_append, List.flatten_singleton]
      exact hopen.push (Nat.le_refl t) hpos
  · -- one of the tokens of the current window
    obtain ⟨hcount, hlimits, opened, hopened, hwhen, hwindowed⟩ := h.bucket hmax hinit
    have hclosed : (m.call t).closed = m.closed := by simp [call, hfull]
    have hnext : (m.call t).current = m.current ++ [t] := by simp [call, hfull, hcall]
    obtain ⟨hpositive, hleft⟩ := toNat_pred hsome
    refine ⟨?_, ?_, opened, List.mem_append_left _ hopened, hstart.trans hwhen, ?_⟩
    · rw [hnext, htokens, hleft, List.length_append, List.length_singleton]
      omega
    · rw [hclosed]
      exact hlimits
    · rw [hclosed, hnext]
      exact hwindowed.push (hnow opened hopened).1 (by omega)

theorem Tracks.call (h : Tracks config times m) (hwindow : 0 < config.perWindowMs)
    (hlimited : m.limiter.unlimited = false) (hnow : ∀ a ∈ times, a ≤ t ∧ t < a + 2 ^ 32) :
    Tracks config (times ++ [t]) (m.call t) := by
  have hfresh : m.limiter.Fresh := fun hinit => (h.called hinit).2
  have hwindow' : 0 < m.limiter.config.perWindowMs := by rw [h.config_eq]; exact hwindow
  rcases @TelegramRateLimiter.tryConsume_cases _ (UInt32.ofNat t) hlimited hfresh hwindow' with
    ⟨hrefused, hkept⟩ | ⟨l', hcall, hgranted⟩
  · have hcalled : m.limiter.initialized = true := by
      cases hinit : m.limiter.initialized with
      | true => rfl
      | false => simp [TelegramRateLimiter.refills, hlimited, hinit] at hkept
    rw [call_of_refused hrefused hkept]
    exact h.later hcalled t
  · have hlimiter : (m.call t).limiter = l' := by simp [Metered.call, hcall]
    have hgrants : (m.call t).grants = m.grants ++ [t] := by rw [grants_call, hcall, if_pos rfl]
    have hfar := h.gap_to hnow hgranted.gap
    refine ⟨?_, ?_, ?_, ?_, ?_, ?_⟩
    · rw [hlimiter, hgranted.config]
      exact h.config_eq
    · intro hnot
      rw [hlimiter, hgranted.initialized] at hnot
      cases hnot
    · rw [hgrants]
      exact h.sublist.append (List.Sublist.refl [t])
    · rw [hgrants, List.pairwise_append]
      refine ⟨h.gap, List.pairwise_singleton _ t, ?_⟩
      intro a ha b hb
      rw [List.mem_singleton.mp hb]
      exact hfar a ha
    · intro _
      rw [hlimiter, hgrants]
      refine ⟨hgranted.hasSent, t, List.mem_append_right _ (List.mem_singleton.mpr rfl),
        hgranted.lastSendMs, ?_⟩
      intro a ha
      rcases List.mem_append.mp ha with hold | hnew
      · exact (hnow a (h.sublist.subset hold)).1
      · exact Nat.le_of_eq (List.mem_singleton.mp hnew)
    · intro hmax _
      rw [hlimiter]
      exact h.bucket_call hcall hgranted hnow hmax

end Steps

theorem grants_run_of_unlimited {m : Metered} (h : m.limiter.unlimited = true) (times : List Nat) :
    (run call m times).limiter = m.limiter ∧ (run call m times).grants = m.grants ++ times := by
  induction times generalizing m with
  | nil => exact ⟨rfl, (List.append_nil _).symm⟩
  | cons t times ih =>
    have hgranted : m.limiter.tryConsume (UInt32.ofNat t) = (true, m.limiter) := by
      rw [TelegramRateLimiter.tryConsume, if_pos h]
    have hlimiter : (m.call t).limiter = m.limiter := by simp [call, hgranted]
    have hrest := ih (m := m.call t) (by rw [hlimiter]; exact h)
    rw [run_cons, hrest.1, hrest.2, hlimiter, grants_call, hgranted, if_pos rfl, List.append_assoc]
    exact ⟨rfl, rfl⟩

theorem tracks_run {config : TelegramRateLimitConfig} (hwindow : 0 < config.perWindowMs)
    (hlimited : (config.maxTelegrams == 0 && config.minGapMs == 0) = false) (times : List Nat)
    (htimes : InTime times) : Tracks config times (run call (start config) times) := by
  induction times using List.reverseRecOn with
  | nil => exact tracks_start config
  | append_singleton times t ih =>
    obtain ⟨hbefore, -, hnow⟩ := List.pairwise_append.mp htimes
    have hbeforeTracks := ih hbefore
    rw [run_append, run_cons, run_nil]
    exact hbeforeTracks.call hwindow (hbeforeTracks.unlimited_eq.trans hlimited)
      fun a ha => hnow a ha t (List.mem_singleton.mpr rfl)

/-- The limiter. In every run: `allowed` says what `tryConsume` will answer; two grants are a gap
apart; an interval of one window has at most two buckets of grants, and a window one; and a refused
call changes nothing of what is granted later. -/
theorem limiter_bounds (config : TelegramRateLimitConfig) (hwindow : 0 < config.perWindowMs)
    (times : List Nat) (htimes : InTime times) :
    (∀ nowMs, (run call (start config) times).limiter.allowed nowMs
        = ((run call (start config) times).limiter.tryConsume nowMs).1) ∧
      ((run call (start config) times).grants.Pairwise fun a b => a + config.minGapMs.toNat ≤ b) ∧
      (config.maxTelegrams ≠ 0 →
        (∀ a, within a config.perWindowMs.toNat (run call (start config) times).grants
          ≤ 2 * config.maxTelegrams.toNat) ∧
        ∀ window ∈ (run call (start config) times).closed ++ [(run call (start config) times).current],
          window.length ≤ config.maxTelegrams.toNat) ∧
      ∀ t, ((run call (start config) times).limiter.tryConsume (UInt32.ofNat t)).1 = false →
        ∀ later, (run call (start config) (times ++ t :: later)).grants
          = (run call (start config) (times ++ later)).grants := by
  have hconfig : (run call (start config) times).limiter.config = config := by
    cases hlimited : config.maxTelegrams == 0 && config.minGapMs == 0 with
    | true => rw [(@grants_run_of_unlimited (start config) hlimited times).1]; rfl
    | false => exact (tracks_run hwindow hlimited times htimes).config_eq
  refine ⟨?_, ?_, ?_, ?_⟩
  · intro nowMs
    apply TelegramRateLimiter.allowed_eq_tryConsume
    rw [hconfig]
    exact hwindow
  · cases hlimited : config.maxTelegrams == 0 && config.minGapMs == 0 with
    | true =>
      have hnone : config.minGapMs = 0 := by
        rw [Bool.and_eq_true, beq_iff_eq, beq_iff_eq] at hlimited
        exact hlimited.2
      rw [(@grants_run_of_unlimited (start config) hlimited times).2, hnone]
      exact htimes.imp And.left
    | false => exact (tracks_run hwindow hlimited times htimes).gap
  · intro hmax
    have htracks := tracks_run hwindow (by simp [hmax]) times htimes
    refine ⟨?_, htracks.window_le hmax⟩
    intro a
    cases hinit : (run call (start config) times).limiter.initialized with
    | false =>
      rw [grants, (htracks.uncalled hinit).1, (htracks.uncalled hinit).2]
      exact Nat.zero_le _
    | true =>
      obtain ⟨-, -, opened, -, -, hwindowed⟩ := htracks.bucket hmax hinit
      exact hwindowed.within_le a
  · intro t hrefused later
    have hlimited : (run call (start config) times).limiter.unlimited = false := by
      cases hunlimited : (run call (start config) times).limiter.unlimited with
      | false => rfl
      | true => simp [TelegramRateLimiter.tryConsume, hunlimited] at hrefused
    have htracks := tracks_run hwindow
      (by rw [TelegramRateLimiter.unlimited, hconfig] at hlimited; exact hlimited) times htimes
    have hwindow' : 0 < (run call (start config) times).limiter.config.perWindowMs := by
      rw [hconfig]
      exact hwindow
    rcases @TelegramRateLimiter.tryConsume_cases _ (UInt32.ofNat t) hlimited
        (fun hinit => (htracks.called hinit).2) hwindow' with ⟨hsame, hkept⟩ | ⟨l', hcall, -⟩
    · rw [run_append, run_append, run_cons, call_of_refused hsame hkept]
    · rw [hcall] at hrefused
      cases hrefused

/-- A bucket of two tokens for 100 ms, called at the end of one window and the start of the next. -/
theorem limiter_bounds_two_windows :
    InTime [0, 90, 95, 100, 101, 102] ∧
      (run call (start ⟨2, 100, 0⟩) [0, 90, 95, 100, 101, 102]).grants = [0, 90, 100, 101] ∧
      within 90 100 (run call (start ⟨2, 100, 0⟩) [0, 90, 95, 100, 101, 102]).grants ≤ 2 * 2 :=
  have htimes : InTime [0, 90, 95, 100, 101, 102] := by
    unfold InTime
    decide
  ⟨htimes, by decide, ((limiter_bounds ⟨2, 100, 0⟩ (by decide) _ htimes).2.2.1 (by decide)).1 90⟩

end Metered

end KnxStack.Application
