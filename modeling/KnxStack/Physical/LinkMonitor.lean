import Mathlib
import KnxStack.Lib.Runs

/-!
# Debouncing a link signal

`LinkMonitor` (`physical/link_monitor.hpp`) turns samples of a hardware signal into debounced changes
of the link state. A level that differs from the reported state becomes the candidate, and is reported
once it has been seen without interruption for the window of its direction.

- `Debounced` is the invariant: the candidate is the level of the newest sample, and a candidate that is
  pending was first seen, after a sample of the reported level, at `candidateSinceUs`.
- `debounced_run`: every history of samples at non-decreasing times keeps it.
- `debounce_law`: what that means for whole histories: when a change is reported, when it must be, what
  the transition count and the remaining time say.
-/

set_option autoImplicit false

namespace KnxStack.Physical

open KnxStack.Lib

/-- `physical::LinkState`. -/
inductive LinkState where
  | unknown
  | down
  | degraded
  | up
  deriving DecidableEq, Repr

/-- The fields of `LinkSignalConfig` that the monitor reads. -/
structure LinkSignalConfig where
  pin : UInt8
  downDebounceUs : UInt32
  upDebounceUs : UInt32
  deriving DecidableEq, Repr

def LinkSignalConfig.isConfigured (config : LinkSignalConfig) : Bool := config.pin != 0xFF

/-- Window a level has to be kept before it is reported. -/
def LinkSignalConfig.window (config : LinkSignalConfig) (level : LinkState) : UInt32 :=
  if level = .down then config.downDebounceUs else config.upDebounceUs

/-- `LinkStatus`; its kind is `StateChanged` throughout. -/
structure LinkStatus where
  state : LinkState
  transitionCount : UInt32
  timestampUs : UInt64
  deriving DecidableEq, Repr

structure LinkMonitor where
  config : LinkSignalConfig
  state : LinkState
  candidate : LinkState
  seeded : Bool
  candidateSinceUs : UInt64
  lastSampleUs : UInt64
  transitionCount : UInt32
  deriving DecidableEq, Repr

namespace LinkMonitor

/-- `configure`, which resets everything else. -/
def configure (config : LinkSignalConfig) : LinkMonitor where
  config := config
  state := .unknown
  candidate := .unknown
  seeded := false
  candidateSinceUs := 0
  lastSampleUs := 0
  transitionCount := 0

def status (m : LinkMonitor) : LinkStatus :=
  ⟨m.state, m.transitionCount, m.lastSampleUs⟩

/-- Level a sample stands for. -/
def observed (up : Bool) : LinkState := if up then .up else .down

/-- `sample`: the monitor afterwards, and the new status where the source answers true. -/
def sample (m : LinkMonitor) (up : Bool) (nowUs : UInt64) : LinkMonitor × Option LinkStatus :=
  if m.config.isConfigured = false then (m, none)
  else
    let m := { m with lastSampleUs := nowUs }
    let observed := observed up
    if m.seeded = false then
      let m := { m with
        seeded := true, state := observed, candidate := observed, candidateSinceUs := nowUs }
      (m, some m.status)
    else if observed = m.state then
      -- Back at the committed state before the window expired.
      ({ m with candidate := observed, candidateSinceUs := nowUs }, none)
    else if observed ≠ m.candidate then
      ({ m with candidate := observed, candidateSinceUs := nowUs }, none)
    else if nowUs - m.candidateSinceUs < (m.config.window observed).toUInt64 then (m, none)
    else
      let m := { m with state := observed, transitionCount := m.transitionCount + 1 }
      (m, some m.status)

def hasPendingChange (m : LinkMonitor) : Bool := m.seeded && m.candidate != m.state

/-- `pendingRemainingUs`. -/
def pendingRemainingUs (m : LinkMonitor) (nowUs : UInt64) : UInt64 :=
  if m.hasPendingChange = false then 0
  else
    let window := (m.config.window m.candidate).toUInt64
    let elapsed := nowUs - m.candidateSinceUs
    if window ≤ elapsed then 0 else window - elapsed

/-! ## Histories of samples -/

/-- One call of `sample`. -/
structure Sample where
  up : Bool
  nowUs : UInt64
  deriving DecidableEq, Repr

def Sample.level (s : Sample) : LinkState := observed s.up

def step (m : LinkMonitor) (s : Sample) : LinkMonitor := (m.sample s.up s.nowUs).1

/-- Whether a sample makes a monitor that is already seeded report another state. -/
def Commits (m : LinkMonitor) (s : Sample) : Prop :=
  m.seeded = true ∧ (m.step s).state ≠ m.state

instance (m : LinkMonitor) (s : Sample) : Decidable (m.Commits s) :=
  inferInstanceAs (Decidable (_ ∧ _))

/-- Number of changes reported over a history. -/
def commits (m : LinkMonitor) : List Sample → Nat
  | [] => 0
  | s :: rest => (if m.Commits s then 1 else 0) + (m.step s).commits rest

/-- Samples whose times do not decrease. -/
def Ordered (history : List Sample) : Prop :=
  history.Pairwise fun a b => a.nowUs ≤ b.nowUs

/-- The monitor after a history. -/
def after (config : LinkSignalConfig) (history : List Sample) : LinkMonitor :=
  run step (configure config) history

theorem after_concat (config : LinkSignalConfig) (history : List Sample) (s : Sample) :
    after config (history ++ [s]) = (after config history).step s := by
  simp [after, run_append]

theorem level_eq_of_ne {s t u : Sample} (hs : s.level ≠ u.level) (ht : t.level ≠ u.level) :
    s.level = t.level := by
  revert hs ht
  rcases s with ⟨a, -⟩
  rcases t with ⟨b, -⟩
  rcases u with ⟨c, -⟩
  cases a <;> cases b <;> cases c <;> simp [Sample.level, observed]

/-! ## What one sample does -/

section Step

variable {m : LinkMonitor} {s : Sample}

theorem sample_seed (hc : m.config.isConfigured = true) (hseed : m.seeded = false) :
    m.step s = { m with
      lastSampleUs := s.nowUs, seeded := true, state := s.level, candidate := s.level,
      candidateSinceUs := s.nowUs } := by
  simp [step, sample, hc, hseed, Sample.level]

theorem sample_back (hc : m.config.isConfigured = true) (hseed : m.seeded = true)
    (hs : s.level = m.state) :
    m.sample s.up s.nowUs = ({ m with
      lastSampleUs := s.nowUs, candidate := s.level, candidateSinceUs := s.nowUs }, none) := by
  have hobs : observed s.up = m.state := hs
  simp [sample, hc, hseed, Sample.level, hobs]

theorem sample_candidate (hc : m.config.isConfigured = true) (hseed : m.seeded = true)
    (hs : s.level ≠ m.state) (hcand : s.level ≠ m.candidate) :
    m.sample s.up s.nowUs = ({ m with
      lastSampleUs := s.nowUs, candidate := s.level, candidateSinceUs := s.nowUs }, none) := by
  have hobs : observed s.up ≠ m.state := hs
  have hobs' : observed s.up ≠ m.candidate := hcand
  simp [sample, hc, hseed, Sample.level, hobs, hobs']

theorem elapsed_lt_iff {now since : UInt64} (h : since ≤ now) (window : UInt32) :
    now - since < window.toUInt64 ↔ now.toNat < since.toNat + window.toNat := by
  rw [UInt64.lt_iff_toNat_lt, UInt64.toNat_sub_of_le _ _ h, UInt32.toNat_toUInt64]
  have := UInt64.le_iff_toNat_le.mp h
  omega

theorem sample_wait (hc : m.config.isConfigured = true) (hseed : m.seeded = true)
    (hs : s.level ≠ m.state) (hcand : s.level = m.candidate) (hle : m.candidateSinceUs ≤ s.nowUs)
    (hwin : s.nowUs.toNat < m.candidateSinceUs.toNat + (m.config.window s.level).toNat) :
    m.sample s.up s.nowUs = ({ m with lastSampleUs := s.nowUs }, none) := by
  have hobs : observed s.up ≠ m.state := hs
  have hobs' : observed s.up = m.candidate := hcand
  have hopen : s.nowUs - m.candidateSinceUs < (m.config.window m.candidate).toUInt64 := by
    rw [elapsed_lt_iff hle, ← hcand]
    exact hwin
  simp only [hobs'] at hobs
  simp [sample, hc, hseed, hobs, hobs', hopen]

theorem sample_commit (hc : m.config.isConfigured = true) (hseed : m.seeded = true)
    (hs : s.level ≠ m.state) (hcand : s.level = m.candidate) (hle : m.candidateSinceUs ≤ s.nowUs)
    (hwin : m.candidateSinceUs.toNat + (m.config.window s.level).toNat ≤ s.nowUs.toNat) :
    m.sample s.up s.nowUs =
      ({ m with
          lastSampleUs := s.nowUs, state := s.level, transitionCount := m.transitionCount + 1 },
        some ⟨s.level, m.transitionCount + 1, s.nowUs⟩) := by
  have hobs : observed s.up ≠ m.state := hs
  have hobs' : observed s.up = m.candidate := hcand
  have hclosed : ¬ s.nowUs - m.candidateSinceUs < (m.config.window m.candidate).toUInt64 := by
    rw [elapsed_lt_iff hle, ← hcand]
    omega
  simp only [hobs'] at hobs
  simp [sample, hc, hseed, hobs, hobs', hclosed, hcand, status]

end Step

/-! ## The invariant -/

/-- What holds after the samples `earlier` and then `last`. -/
structure Debounced (config : LinkSignalConfig) (m : LinkMonitor) (earlier : List Sample)
    (last : Sample) : Prop where
  config : m.config = config
  seeded : m.seeded = true
  candidate : m.candidate = last.level
  reported : ∃ s : Sample, m.state = s.level
  since : m.candidateSinceUs ≤ last.nowUs
  /-- A pending candidate follows a sample of the reported level and was kept from then on. -/
  pending : m.candidate ≠ m.state → ∃ rest prev first kept,
    earlier ++ [last] = rest ++ prev :: first :: kept ∧ prev.level = m.state ∧
      first.nowUs = m.candidateSinceUs ∧ ∀ s ∈ first :: kept, s.level = m.candidate

section Invariant

variable {config : LinkSignalConfig} {m : LinkMonitor} {earlier : List Sample} {last s : Sample}

theorem debounced_seed (hc : config.isConfigured = true) (s : Sample) :
    Debounced config ((configure config).step s) [] s := by
  have hstep := @sample_seed (configure config) s hc rfl
  rw [hstep]
  exact {
    config := rfl
    seeded := rfl
    candidate := rfl
    reported := ⟨s, rfl⟩
    since := UInt64.le_refl _
    pending := fun h => absurd rfl h }

/-- A level that is neither reported nor the candidate meets a monitor with nothing pending. -/
theorem Debounced.settled (h : Debounced config m earlier last) (hs : s.level ≠ m.state)
    (hcand : s.level ≠ m.candidate) : m.candidate = m.state := by
  obtain ⟨r, hr⟩ := h.reported
  rw [hr, h.candidate]
  apply level_eq_of_ne (u := s)
  · rw [← h.candidate]
    exact hcand.symm
  · rw [← hr]
    exact hs.symm

theorem Debounced.step (hc : config.isConfigured = true) (h : Debounced config m earlier last)
    (hle : last.nowUs ≤ s.nowUs) : Debounced config (m.step s) (earlier ++ [last]) s := by
  have hconf : m.config.isConfigured = true := by rw [h.config]; exact hc
  have hsince : m.candidateSinceUs ≤ s.nowUs := UInt64.le_trans h.since hle
  by_cases hs : s.level = m.state
  · -- Back at the reported level: nothing is pending.
    have hstep : m.step s = _ := congrArg Prod.fst (sample_back hconf h.seeded hs)
    rw [hstep]
    exact {
      config := h.config
      seeded := h.seeded
      candidate := rfl
      reported := h.reported
      since := UInt64.le_refl _
      pending := fun hne => absurd hs hne }
  · by_cases hcand : s.level = m.candidate
    · rcases Nat.lt_or_ge s.nowUs.toNat
        (m.candidateSinceUs.toNat + (m.config.window s.level).toNat) with hwin | hwin
      · -- The window is open: the level has been kept for one sample more.
        have hstep : m.step s = _ :=
          congrArg Prod.fst (sample_wait hconf h.seeded hs hcand hsince hwin)
        rw [hstep]
        refine ⟨h.config, h.seeded, hcand.symm, h.reported, hsince, ?_⟩
        intro hne
        obtain ⟨rest, prev, first, kept, hhist, hprev, hfirst, hkept⟩ := h.pending hne
        refine ⟨rest, prev, first, kept ++ [s], ?_, hprev, hfirst, ?_⟩
        · rw [hhist]
          simp
        · intro x hx
          rw [← List.cons_append, List.mem_append, List.mem_singleton] at hx
          rcases hx with hx | rfl
          · exact hkept x hx
          · exact hcand
      · -- It has closed: the candidate is reported.
        have hstep : m.step s = _ :=
          congrArg Prod.fst (sample_commit hconf h.seeded hs hcand hsince hwin)
        rw [hstep]
        exact {
          config := h.config
          seeded := h.seeded
          candidate := hcand.symm
          reported := ⟨s, rfl⟩
          since := hsince
          pending := fun hne => absurd hcand.symm hne }
    · -- A new candidate, after a sample of the reported level.
      have hstep : m.step s = _ := congrArg Prod.fst (sample_candidate hconf h.seeded hs hcand)
      have hsettled := h.settled hs hcand
      rw [hstep]
      refine ⟨h.config, h.seeded, rfl, h.reported, UInt64.le_refl _, ?_⟩
      intro _
      refine ⟨earlier, last, s, [], by simp, ?_, rfl, ?_⟩
      · exact h.candidate.symm.trans hsettled
      · intro x hx
        rw [List.mem_singleton] at hx
        rw [hx]

end Invariant

theorem ordered_concat {history : List Sample} {last s : Sample}
    (h : Ordered (history ++ [last] ++ [s])) :
    Ordered (history ++ [last]) ∧ last.nowUs ≤ s.nowUs := by
  obtain ⟨hbefore, -, hcross⟩ := List.pairwise_append.mp h
  exact ⟨hbefore, hcross last (by simp) s (by simp)⟩

theorem debounced_run {config : LinkSignalConfig} (hc : config.isConfigured = true)
    (earlier : List Sample) (last : Sample) (hord : Ordered (earlier ++ [last])) :
    Debounced config (after config (earlier ++ [last])) earlier last := by
  induction earlier using List.reverseRecOn generalizing last with
  | nil => exact debounced_seed hc last
  | append_singleton earlier prev ih =>
    obtain ⟨hord', hle⟩ := ordered_concat hord
    rw [after_concat]
    exact (ih prev hord').step hc hle

/-! ## Keeping a level -/

section Keeping

variable {config : LinkSignalConfig} {m : LinkMonitor} {s : Sample} {level : LinkState}

/-- A level that is pending since a time. -/
structure PendingSince (config : LinkSignalConfig) (m : LinkMonitor) (level : LinkState)
    (sinceUs : UInt64) : Prop where
  config : m.config = config
  seeded : m.seeded = true
  state : m.state ≠ level
  candidate : m.candidate = level
  since : m.candidateSinceUs = sinceUs

theorem PendingSince.wait {sinceUs : UInt64} (hc : config.isConfigured = true)
    (h : PendingSince config m level sinceUs) (hs : s.level = level) (hle : sinceUs ≤ s.nowUs)
    (hwin : s.nowUs.toNat < sinceUs.toNat + (config.window level).toNat) :
    PendingSince config (m.step s) level sinceUs := by
  have hconf : m.config.isConfigured = true := by rw [h.config]; exact hc
  have hne : s.level ≠ m.state := by rw [hs]; exact h.state.symm
  have hcand : s.level = m.candidate := by rw [hs, h.candidate]
  have hstep : m.step s = _ := congrArg Prod.fst
    (sample_wait hconf h.seeded hne hcand (by rw [h.since]; exact hle)
      (by rw [h.since, h.config, hs]; exact hwin))
  rw [hstep]
  exact ⟨h.config, h.seeded, h.state, h.candidate, h.since⟩

theorem PendingSince.run_wait {sinceUs : UInt64} (hc : config.isConfigured = true)
    (h : PendingSince config m level sinceUs) (before : List Sample)
    (hbefore : ∀ s ∈ before, s.level = level ∧ sinceUs ≤ s.nowUs ∧
      s.nowUs.toNat < sinceUs.toNat + (config.window level).toNat) :
    PendingSince config (run step m before) level sinceUs := by
  induction before generalizing m with
  | nil => exact h
  | cons s before ih =>
    obtain ⟨hs, hle, hwin⟩ := hbefore s List.mem_cons_self
    apply ih (h.wait hc hs hle hwin)
    intro x hx
    exact hbefore x (List.mem_cons_of_mem s hx)

theorem PendingSince.commit {sinceUs : UInt64} (hc : config.isConfigured = true)
    (h : PendingSince config m level sinceUs) (hs : s.level = level) (hle : sinceUs ≤ s.nowUs)
    (hwin : sinceUs.toNat + (config.window level).toNat ≤ s.nowUs.toNat) :
    (m.step s).state = level ∧
      (m.sample s.up s.nowUs).2 = some ⟨level, m.transitionCount + 1, s.nowUs⟩ := by
  have hconf : m.config.isConfigured = true := by rw [h.config]; exact hc
  have hne : s.level ≠ m.state := by rw [hs]; exact h.state.symm
  have hcand : s.level = m.candidate := by rw [hs, h.candidate]
  have hsample := sample_commit hconf h.seeded hne hcand (by rw [h.since]; exact hle)
    (by rw [h.since, h.config, hs]; exact hwin)
  constructor
  · rw [step, hsample]
    exact hs
  · rw [hsample, hs]

theorem state_run_kept (hc : m.config.isConfigured = true) (hseed : m.seeded = true)
    (hstate : m.state = level) (kept : List Sample) (hkept : ∀ s ∈ kept, s.level = level) :
    (run step m kept).state = level := by
  induction kept generalizing m with
  | nil => exact hstate
  | cons s kept ih =>
    have hs : s.level = m.state := by rw [hstate]; exact hkept s List.mem_cons_self
    have hstep : m.step s = _ := congrArg Prod.fst (sample_back hc hseed hs)
    rw [run_cons, hstep]
    apply ih
    · exact hc
    · exact hseed
    · exact hstate
    · intro x hx
      exact hkept x (List.mem_cons_of_mem s hx)

end Keeping

/-! ## The transition count -/

theorem transitionCount_step {m : LinkMonitor} {s : Sample} :
    (m.step s).transitionCount.toNat =
      (m.transitionCount.toNat + if m.Commits s then 1 else 0) % 2 ^ 32 := by
  have hsmall := m.transitionCount.toNat_lt
  unfold Commits step sample
  dsimp only
  split_ifs <;> simp_all [UInt32.toNat_add]

theorem transitionCount_run (m : LinkMonitor) (history : List Sample) :
    (run step m history).transitionCount.toNat =
      (m.transitionCount.toNat + m.commits history) % 2 ^ 32 := by
  induction history generalizing m with
  | nil =>
    have hsmall := m.transitionCount.toNat_lt
    simp only [run_nil, commits]
    omega
  | cons s history ih =>
    rw [run_cons, ih, transitionCount_step, commits]
    omega

/-! ## Whole histories -/

/-- What a monitor configured afresh does over a history of samples. -/
structure DebounceLaw (config : LinkSignalConfig) (history : List Sample) : Prop where
  /-- A change needs a window of samples of the other level before it. -/
  kept : ∀ (earlier : List Sample) (s : Sample), history = earlier ++ [s] → earlier ≠ [] →
    (after config history).state ≠ (after config earlier).state →
    (after config history).state = s.level ∧
      ∃ (rest : List Sample) (first : Sample) (later : List Sample),
        earlier = rest ++ first :: later ∧
        (∀ x ∈ first :: later, x.level ≠ (after config earlier).state) ∧
        first.nowUs.toNat + (config.window s.level).toNat ≤ s.nowUs.toNat
  /-- A level that is kept is committed by the first sample a window after its first one. -/
  committed : ∀ (earlier : List Sample) (last first : Sample) (before : List Sample) (s : Sample),
    history = earlier ++ [last] ++ first :: before ++ [s] → last.level ≠ first.level →
    (∀ x ∈ before ++ [s], x.level = first.level) →
    (∀ x ∈ before, x.nowUs.toNat < first.nowUs.toNat + (config.window first.level).toNat) →
    first.nowUs.toNat + (config.window first.level).toNat ≤ s.nowUs.toNat →
    (after config history).state = first.level ∧
      ((after config (earlier ++ [last])).state ≠ first.level →
        (after config (earlier ++ [last] ++ first :: before)).state ≠ first.level)
  /-- The transition count is that of the commits, in 32 bits. -/
  counted : (after config history).transitionCount.toNat =
    (configure config).commits history % 2 ^ 32
  /-- No remaining time means that the next sample of the pending level commits. -/
  due : ∀ (earlier : List Sample) (last : Sample), history = earlier ++ [last] →
    (after config history).hasPendingChange = true → ∀ nowUs, last.nowUs ≤ nowUs →
    (after config history).pendingRemainingUs nowUs = 0 →
    ∀ s : Sample, nowUs ≤ s.nowUs → s.level = (after config history).candidate →
      ((after config history).step s).state = s.level ∧
        ((after config history).sample s.up s.nowUs).2 =
          some ⟨s.level, (after config history).transitionCount + 1, s.nowUs⟩

section Law

variable {config : LinkSignalConfig}

theorem kept_of_ordered (hc : config.isConfigured = true) {earlier : List Sample} {s : Sample}
    (hord : Ordered (earlier ++ [s])) (hne : earlier ≠ [])
    (hchange : (after config (earlier ++ [s])).state ≠ (after config earlier).state) :
    (after config (earlier ++ [s])).state = s.level ∧
      ∃ rest first later, earlier = rest ++ first :: later ∧
        (∀ x ∈ first :: later, x.level ≠ (after config earlier).state) ∧
        first.nowUs.toNat + (config.window s.level).toNat ≤ s.nowUs.toNat := by
  obtain ⟨before, last, rfl⟩ : ∃ before last, earlier = before ++ [last] :=
    ⟨_, _, (List.dropLast_append_getLast hne).symm⟩
  obtain ⟨hord', hle⟩ := ordered_concat hord
  have h := debounced_run hc before last hord'
  have hconf : (after config (before ++ [last])).config.isConfigured = true := by
    rw [h.config]
    exact hc
  have hsince := UInt64.le_trans h.since hle
  rw [after_concat] at hchange ⊢
  generalize after config (before ++ [last]) = m at h hconf hsince hchange ⊢
  -- Only the commit changes the state of a seeded monitor.
  by_cases hs : s.level = m.state
  · rw [step, sample_back hconf h.seeded hs] at hchange
    exact absurd rfl hchange
  · by_cases hcand : s.level = m.candidate
    · rcases Nat.lt_or_ge s.nowUs.toNat
        (m.candidateSinceUs.toNat + (m.config.window s.level).toNat) with hwin | hwin
      · rw [step, sample_wait hconf h.seeded hs hcand hsince hwin] at hchange
        exact absurd rfl hchange
      · obtain ⟨rest, prev, first, later, hhist, -, hfirst, hlater⟩ :=
          h.pending (by rw [← hcand]; exact hs)
        refine ⟨?_, rest ++ [prev], first, later, ?_, ?_, ?_⟩
        · rw [step, sample_commit hconf h.seeded hs hcand hsince hwin]
        · rw [hhist]
          simp
        · intro x hx
          rw [hlater x hx, ← hcand]
          exact hs
        · rw [hfirst, ← h.config]
          exact hwin
    · rw [step, sample_candidate hconf h.seeded hs hcand] at hchange
      exact absurd rfl hchange

/-- A level that is neither reported nor the newest becomes pending with its first sample. -/
theorem pendingSince_first (hc : config.isConfigured = true) {earlier : List Sample}
    {last first : Sample} {m : LinkMonitor} (h : Debounced config m earlier last)
    (hlast : last.level ≠ first.level) (hstate : m.state ≠ first.level) :
    PendingSince config (m.step first) first.level first.nowUs := by
  have hconf : m.config.isConfigured = true := by rw [h.config]; exact hc
  have hcand : first.level ≠ m.candidate := by rw [h.candidate]; exact hlast.symm
  have hstep : m.step first = _ :=
    congrArg Prod.fst (sample_candidate hconf h.seeded hstate.symm hcand)
  rw [hstep]
  exact ⟨h.config, h.seeded, hstate, rfl, rfl⟩

theorem after_append (config : LinkSignalConfig) (history later : List Sample) :
    after config (history ++ later) = run step (after config history) later := by
  rw [after, after, run_append]

theorem committed_of_ordered (hc : config.isConfigured = true) {earlier before : List Sample}
    {last first s : Sample} (hord : Ordered (earlier ++ [last] ++ first :: before ++ [s]))
    (hlast : last.level ≠ first.level) (hkept : ∀ x ∈ before ++ [s], x.level = first.level)
    (hopen : ∀ x ∈ before,
      x.nowUs.toNat < first.nowUs.toNat + (config.window first.level).toNat)
    (hclosed : first.nowUs.toNat + (config.window first.level).toNat ≤ s.nowUs.toNat) :
    (after config (earlier ++ [last] ++ first :: before ++ [s])).state = first.level ∧
      ((after config (earlier ++ [last])).state ≠ first.level →
        (after config (earlier ++ [last] ++ first :: before)).state ≠ first.level) := by
  rw [List.append_assoc] at hord
  obtain ⟨hearlier, hlater, -⟩ := List.pairwise_append.mp hord
  have hle : ∀ x ∈ before ++ [s], first.nowUs ≤ x.nowUs := (List.pairwise_cons.mp hlater).1
  have h := debounced_run hc earlier last hearlier
  rw [after_concat, after_append]
  generalize after config (earlier ++ [last]) = m at h ⊢
  by_cases hstate : m.state = first.level
  · -- The level is reported already, and stays.
    have hconf : m.config.isConfigured = true := by rw [h.config]; exact hc
    have hrun := state_run_kept hconf h.seeded hstate (first :: before ++ [s]) (by
      intro x hx
      rw [List.cons_append, List.mem_cons] at hx
      rcases hx with rfl | hx
      · rfl
      · exact hkept x hx)
    rw [run_append] at hrun
    exact ⟨hrun, fun hne => absurd hstate hne⟩
  · have hpending := (pendingSince_first hc h hlast hstate).run_wait hc before (by
      intro x hx
      have hx' : x ∈ before ++ [s] := List.mem_append_left [s] hx
      exact ⟨hkept x hx', hle x hx', hopen x hx⟩)
    have hs : s ∈ before ++ [s] := by simp
    exact ⟨(hpending.commit hc (hkept s hs) (hle s hs) hclosed).1, fun _ => hpending.state⟩

theorem due_of_ordered (hc : config.isConfigured = true) {earlier : List Sample} {last : Sample}
    (hord : Ordered (earlier ++ [last]))
    (hpend : (after config (earlier ++ [last])).hasPendingChange = true) {nowUs : UInt64}
    (hnow : last.nowUs ≤ nowUs)
    (hzero : (after config (earlier ++ [last])).pendingRemainingUs nowUs = 0) {s : Sample}
    (hs : nowUs ≤ s.nowUs) (hlevel : s.level = (after config (earlier ++ [last])).candidate) :
    ((after config (earlier ++ [last])).step s).state = s.level ∧
      ((after config (earlier ++ [last])).sample s.up s.nowUs).2 =
        some ⟨s.level, (after config (earlier ++ [last])).transitionCount + 1, s.nowUs⟩ := by
  have h := debounced_run hc earlier last hord
  generalize after config (earlier ++ [last]) = m at h hpend hzero hlevel ⊢
  have hsince : m.candidateSinceUs ≤ nowUs := UInt64.le_trans h.since hnow
  have hstate : m.state ≠ s.level := by
    simp only [hasPendingChange, Bool.and_eq_true, bne_iff_ne] at hpend
    rw [hlevel]
    exact hpend.2.symm
  -- Zero remaining means that the window was over at the time of the query.
  have hover : ¬ nowUs - m.candidateSinceUs < (m.config.window m.candidate).toUInt64 := by
    intro hlt
    simp only [pendingRemainingUs, hpend, Bool.true_eq_false, if_false] at hzero
    rw [if_neg (UInt64.not_le.mpr hlt)] at hzero
    have hleft := UInt64.lt_iff_toNat_lt.mp hlt
    have hnone := congrArg UInt64.toNat hzero
    rw [UInt64.toNat_sub_of_le _ _ (UInt64.le_of_lt hlt), UInt64.toNat_zero] at hnone
    omega
  rw [elapsed_lt_iff hsince] at hover
  have hnowNat := UInt64.le_iff_toNat_le.mp hs
  have hpending : PendingSince config m s.level m.candidateSinceUs :=
    ⟨h.config, h.seeded, hstate, hlevel.symm, rfl⟩
  apply hpending.commit hc rfl (UInt64.le_trans hsince hs)
  rw [← h.config, hlevel]
  omega

end Law

/-- Debounce. Every history of samples in time order obeys the law. -/
theorem debounce_law (config : LinkSignalConfig) (hc : config.isConfigured = true)
    (history : List Sample) (hord : Ordered history) : DebounceLaw config history where
  kept := by
    rintro earlier s rfl hne hchange
    exact kept_of_ordered hc hord hne hchange
  committed := by
    rintro earlier last first before s rfl hlast hkept hopen hclosed
    exact committed_of_ordered hc hord hlast hkept hopen hclosed
  counted := by
    rw [after, transitionCount_run]
    simp [configure]
  due := by
    rintro earlier last rfl hpend nowUs hnow hzero s hs hlevel
    exact due_of_ordered hc hord hpend hnow hzero hs hlevel

/-- A signal wired to pin 4 with windows of 20 and 200 milliseconds. -/
def wired : LinkSignalConfig := ⟨4, 20000, 200000⟩

theorem debounce_law_wired :
    DebounceLaw wired [⟨true, 0⟩, ⟨false, 5⟩, ⟨true, 9⟩, ⟨false, 10⟩, ⟨false, 20010⟩] :=
  debounce_law wired (by decide) _ (by unfold Ordered; decide)

/-! ## The count wraps -/

/-- A signal wired to pin 4 without debouncing. -/
def undebounced : LinkSignalConfig := ⟨4, 0, 0⟩

/-- Two changes: down and back up. -/
def flap : List Sample := [⟨false, 0⟩, ⟨false, 0⟩, ⟨true, 0⟩, ⟨true, 0⟩]

/-- A monitor that reports Up with a given count. -/
def reportingUp (count : UInt32) : LinkMonitor :=
  ⟨undebounced, .up, .up, true, 0, 0, count⟩

theorem run_flap (count : UInt32) :
    run step (reportingUp count) flap = reportingUp (count + 1 + 1) := rfl

theorem commits_append (m : LinkMonitor) (history later : List Sample) :
    m.commits (history ++ later) = m.commits history + (run step m history).commits later := by
  induction history generalizing m with
  | nil => simp [commits]
  | cons s history ih =>
    rw [List.cons_append, commits, commits, ih, run_cons, Nat.add_assoc]

theorem commits_flap (count : UInt32) : (reportingUp count).commits flap = 2 := by
  simp [commits, flap, Commits, step, sample, reportingUp, undebounced, LinkSignalConfig.isConfigured,
    observed, LinkSignalConfig.window]

theorem commits_flaps (count : UInt32) (flaps : Nat) :
    (reportingUp count).commits (List.replicate flaps flap).flatten = 2 * flaps := by
  induction flaps generalizing count with
  | zero => rfl
  | succ flaps ih =>
    rw [List.replicate_succ, List.flatten_cons, commits_append, commits_flap, run_flap, ih]
    omega

/-- Seeding, then `flaps` times down and back up. -/
def flapping (flaps : Nat) : List Sample := ⟨true, 0⟩ :: (List.replicate flaps flap).flatten

theorem nowUs_flapping {flaps : Nat} {s : Sample} (hs : s ∈ flapping flaps) : s.nowUs = 0 := by
  simp only [flapping, flap, List.mem_cons, List.mem_flatten, List.mem_replicate] at hs
  rcases hs with rfl | ⟨_, ⟨-, rfl⟩, hs⟩
  · rfl
  · simp only [List.mem_cons, List.not_mem_nil, or_false] at hs
    rcases hs with rfl | rfl | rfl | rfl <;> rfl

theorem ordered_flapping (flaps : Nat) : Ordered (flapping flaps) := by
  apply List.pairwise_of_forall_mem_list
  intro a ha b hb
  rw [nowUs_flapping ha, nowUs_flapping hb]
  exact UInt64.le_refl _

theorem commits_flapping (flaps : Nat) :
    (configure undebounced).commits (flapping flaps) = 2 * flaps := by
  have hseed : (configure undebounced).step ⟨true, 0⟩ = reportingUp 0 := rfl
  have hfirst : ¬ (configure undebounced).Commits ⟨true, 0⟩ := by
    rintro ⟨hseeded, -⟩
    exact Bool.noConfusion hseeded
  rw [flapping, commits, if_neg hfirst, hseed, commits_flaps, Nat.zero_add]

/-- After two to the power of thirty-two changes the count is zero again. -/
theorem transitionCount_wraps :
    undebounced.isConfigured = true ∧ Ordered (flapping (2 ^ 31)) ∧
      (configure undebounced).commits (flapping (2 ^ 31)) = 2 ^ 32 ∧
      (after undebounced (flapping (2 ^ 31))).transitionCount = 0 := by
  refine ⟨by decide, ordered_flapping _, ?_, ?_⟩
  · exact (commits_flapping _).trans Nat.pow_succ'.symm
  · rw [← UInt32.toNat_inj, after, transitionCount_run, commits_flapping]
    rfl

end LinkMonitor

end KnxStack.Physical
