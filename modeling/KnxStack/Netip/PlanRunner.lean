import KnxStack.Netip.DeviceManagement

/-!
# The plan runner

`beginPlan` and `pollPlan` of `BasicDeviceManagementSession` (`netip/device_management_session.hpp`) with
all that `PlanStatus` reports. What the client answers to a call is a parameter of that call, and the calls
that a plan has made are kept beside it, so that every sequence of step results is one.

`plan_runs`: a plan begins its steps in order, each once the one before has succeeded, and ends with the
first that fails. `session_simulated` ties the runner to the session of the procedures.
-/

set_option autoImplicit false

namespace KnxStack.Netip.DeviceManagement

open KnxStack.Lib

/-! ## The runner -/

/-- A call of the runner to the client, and what the client answered. -/
inductive PlanCall where
  | begun (step : PlanStep) (result : Result Unit)
  | polled (step : PlanStep) (result : Result OperationProgressState)
  deriving DecidableEq, Repr

/-- `PlanStatus`, in full. -/
structure PlanReport extends PlanStatus where
  totalSteps : Nat := 0
  completedSteps : Nat := 0
  activeStepIndex : Nat := 0
  activeOperation : OperationType := .none
  deriving DecidableEq, Repr

/-- The plan of a session, its status, and the calls since the plan began. -/
structure PlanRunner where
  plan : Plan := {}
  planStatus : PlanReport := {}
  calls : List PlanCall := []
  deriving DecidableEq, Repr

/-- What the client answers in a poll: the progress of the step, the kind of its operation, and whether the
next step can begin. -/
structure PollAnswers where
  progress : Result OperationProgressState
  activeOperation : OperationType := .none
  begun : Result Unit := .ok ()
  deriving DecidableEq, Repr

/-- The operation of a step. -/
def PlanStep.operation : PlanStep → OperationType
  | .read .. => .propertyRead
  | .write .. => .propertyWrite
  | .exchange .. => .configurationExchange

namespace PlanRunner

/-- `currentPlanStepOperation_`. -/
def currentPlanStepOperation (r : PlanRunner) : OperationType :=
  if !r.plan.active then .none
  else (r.plan.steps[r.plan.activeStepIndex]?).elim .none PlanStep.operation

/-- `beginCurrentPlanStep_`. -/
def beginCurrentPlanStep (r : PlanRunner) (begun : Result Unit) : PlanRunner × Result Unit :=
  match r.plan.steps[r.plan.activeStepIndex]? with
  | none => (r, .error .unknownError)
  | some step =>
    ({ r with
        planStatus := { r.planStatus with
          activeStepIndex := r.plan.activeStepIndex
          activeOperation := r.currentPlanStepOperation }
        calls := r.calls ++ [PlanCall.begun step begun] }, begun)

/-- The plan ends in a phase, with the error that goes with it. -/
def endPlan (r : PlanRunner) (phase : PlanPhase) (terminalError : Option ErrorCode) : PlanRunner :=
  { r with
    plan := {}
    planStatus := { r.planStatus with
      active := false
      phase
      activeOperation := .none
      terminalError } }

/-- The plan ends with the step that it is at. -/
def endAtStep (r : PlanRunner) (phase : PlanPhase) (terminalError : ErrorCode) : PlanRunner :=
  { r with
    planStatus := { r.planStatus with
      completedSteps := r.plan.activeStepIndex
      activeStepIndex := r.plan.activeStepIndex } }.endPlan phase (some terminalError)

/-- `beginPlan`. -/
def beginPlan (r : PlanRunner) (isOpen operationPending : Bool) (steps : List PlanStep)
    (begun : Result Unit) : PlanRunner × Result Unit :=
  if !isOpen then (r, .error .notInitialized)
  else if steps = [] then (r, .error .invalidParameter)
  else if r.plan.active ∨ operationPending then (r, .error .busy)
  else
    let started : PlanRunner :=
      { plan := ⟨true, 0, steps⟩
        planStatus := { active := true, phase := .running, totalSteps := steps.length } }
    match started.beginCurrentPlanStep begun with
    | (r, .error error) => (r.endPlan .failed (some error), .error error)
    | (r, .ok ()) => (r, .ok ())

/-- `pollPlan` after a step that ended in success: the plan ends, or its next step begins. -/
def nextPlanStep (r : PlanRunner) (begun : Result Unit) :
    PlanRunner × Result OperationProgressState :=
  let index := r.plan.activeStepIndex + 1
  let r := { r with
    plan := { r.plan with activeStepIndex := index }
    planStatus := { r.planStatus with completedSteps := index } }
  if r.plan.steps.length ≤ index then
    ({ r with planStatus := { r.planStatus with activeStepIndex := r.planStatus.totalSteps } }.endPlan
      .success none, .ok .success)
  else
    match r.beginCurrentPlanStep begun with
    | (r, .error error) =>
      ({ r with planStatus := { r.planStatus with activeStepIndex := index } }.endPlan .failed
        (some error), .error error)
    | (r, .ok ()) =>
      ({ r with
          planStatus := { r.planStatus with
            active := true
            phase := .running
            activeStepIndex := index
            activeOperation := r.currentPlanStepOperation } }, .ok .pending)

/-- `pollPlan`. -/
def pollPlan (r : PlanRunner) (answers : PollAnswers) :
    PlanRunner × Result OperationProgressState :=
  if !r.plan.active then (r, .error .operationNotReady)
  else
    match r.plan.steps[r.plan.activeStepIndex]? with
    | none => (r, .error .unknownError)
    | some step =>
      let r := { r with calls := r.calls ++ [PlanCall.polled step answers.progress] }
      match answers.progress with
      | .error error => (r.endAtStep .failed error, .error error)
      | .ok .success => r.nextPlanStep answers.begun
      | .ok .timeout => (r.endAtStep .timeout .timeout, .ok .timeout)
      | .ok .transmissionFailed =>
        (r.endAtStep .transmissionFailed .transmissionFailed, .ok .transmissionFailed)
      | .ok progress =>
        ({ r with
            planStatus := { r.planStatus with
              active := true
              phase := .running
              activeStepIndex := r.plan.activeStepIndex
              activeOperation := answers.activeOperation } }, .ok progress)

end PlanRunner

/-- A call to the session: a plan, or a poll of the one there is. -/
inductive PlanEvent where
  | beginPlan (isOpen operationPending : Bool) (steps : List PlanStep) (begun : Result Unit)
  | pollPlan (answers : PollAnswers)
  deriving DecidableEq, Repr

/-- One call. -/
def PlanRunner.step (r : PlanRunner) : PlanEvent → PlanRunner
  | .beginPlan isOpen operationPending steps begun =>
    (r.beginPlan isOpen operationPending steps begun).1
  | .pollPlan answers => (r.pollPlan answers).1

/-! ## What a plan may do -/

/-- The answers that leave a step as it is. -/
def Waits (progress : OperationProgressState) : Prop := progress = .pending ∨ progress = .busy

/-- The end that a failed step makes of its plan. -/
def failure : Result OperationProgressState → Option (PlanPhase × ErrorCode)
  | .error error => some (.failed, error)
  | .ok .timeout => some (.timeout, .timeout)
  | .ok .transmissionFailed => some (.transmissionFailed, .transmissionFailed)
  | .ok _ => none

/-- A step that is begun and waited for. -/
def openStep (step : PlanStep) (waits : List OperationProgressState) : List PlanCall :=
  .begun step (.ok ()) :: waits.map fun progress => .polled step (.ok progress)

/-- Steps that were begun once each, in order, and polled until they succeeded. -/
inductive Succeeded : List PlanStep → List PlanCall → Prop
  | nil : Succeeded [] []
  | snoc {done : List PlanStep} {calls : List PlanCall} (earlier : Succeeded done calls)
      (step : PlanStep) {waits : List OperationProgressState} (hwaits : ∀ w ∈ waits, Waits w) :
      Succeeded (done ++ [step]) (calls ++ (openStep step waits ++ [.polled step (.ok .success)]))

/-- How a plan stands, with the calls after its last success. -/
inductive Stands (steps : List PlanStep) (r : PlanRunner) : List PlanCall → Prop
  | running {step : PlanStep} {waits : List OperationProgressState}
      (hplan : r.plan = ⟨true, r.planStatus.completedSteps, steps⟩)
      (hstep : steps[r.planStatus.completedSteps]? = some step) (hwaits : ∀ w ∈ waits, Waits w)
      (hstatus : r.planStatus.toPlanStatus = ⟨true, .running, none⟩) :
      Stands steps r (openStep step waits)
  | succeeded (hplan : r.plan = {}) (hall : r.planStatus.completedSteps = steps.length)
      (hstatus : r.planStatus.toPlanStatus = ⟨false, .success, none⟩) : Stands steps r []
  | notBegun {step : PlanStep} {error : ErrorCode} (hplan : r.plan = {})
      (hstep : steps[r.planStatus.completedSteps]? = some step)
      (hstatus : r.planStatus.toPlanStatus = ⟨false, .failed, some error⟩) :
      Stands steps r [.begun step (.error error)]
  | failed {step : PlanStep} {waits : List OperationProgressState}
      {result : Result OperationProgressState} {phase : PlanPhase} {error : ErrorCode}
      (hplan : r.plan = {}) (hstep : steps[r.planStatus.completedSteps]? = some step)
      (hwaits : ∀ w ∈ waits, Waits w) (hresult : failure result = some (phase, error))
      (hstatus : r.planStatus.toPlanStatus = ⟨false, phase, some error⟩) :
      Stands steps r (openStep step waits ++ [.polled step result])

/-- A plan that is executed: the steps that it reports as completed have succeeded, and of the others
the first one alone was begun. -/
structure Executed (steps : List PlanStep) (r : PlanRunner) : Prop where
  total : r.planStatus.totalSteps = steps.length
  calls : ∃ earlier current, r.calls = earlier ++ current
    ∧ Succeeded (steps.take r.planStatus.completedSteps) earlier ∧ Stands steps r current

/-! ## Steps that were begun -/

namespace PlanCall

/-- The step that a call begins. -/
def begunStep? : PlanCall → Option PlanStep
  | .begun step _ => some step
  | .polled _ _ => none

/-- The call is the last one of a step that succeeded. -/
def succeeds : PlanCall → Bool
  | .polled _ (.ok .success) => true
  | _ => false

/-- What the session returns after a call as its last. -/
def answer : PlanCall → Result OperationProgressState
  | .begun _ (.ok ()) => .ok .pending
  | .begun _ (.error error) => .error error
  | .polled _ result => result

end PlanCall

theorem begunStep_openStep (step : PlanStep) (waits : List OperationProgressState) :
    (openStep step waits).filterMap PlanCall.begunStep? = [step] := by
  unfold openStep
  simp only [List.filterMap_cons, PlanCall.begunStep?, List.cons.injEq, true_and,
    List.filterMap_eq_nil_iff, List.mem_map]
  rintro call ⟨progress, -, rfl⟩
  rfl

theorem succeeds_openStep (step : PlanStep) {waits : List OperationProgressState}
    (hwaits : ∀ w ∈ waits, Waits w) : (openStep step waits).countP PlanCall.succeeds = 0 := by
  rw [List.countP_eq_zero]
  intro call hcall
  rcases List.mem_cons.mp hcall with rfl | hcall
  · nofun
  · obtain ⟨progress, hprogress, rfl⟩ := List.mem_map.mp hcall
    rcases hwaits progress hprogress with rfl | rfl <;> nofun

theorem Succeeded.begun {done : List PlanStep} {calls : List PlanCall} (h : Succeeded done calls) :
    calls.filterMap PlanCall.begunStep? = done := by
  induction h with
  | nil => rfl
  | snoc earlier step hwaits ih =>
    rw [List.filterMap_append, List.filterMap_append, ih, begunStep_openStep]
    rfl

theorem Succeeded.count {done : List PlanStep} {calls : List PlanCall} (h : Succeeded done calls) :
    calls.countP PlanCall.succeeds = done.length := by
  induction h with
  | nil => rfl
  | snoc earlier step hwaits ih =>
    rw [List.countP_append, List.countP_append, ih, succeeds_openStep step hwaits,
      List.length_append]
    rfl

variable {steps : List PlanStep} {r : PlanRunner}

theorem Executed.completed_le (h : Executed steps r) :
    r.planStatus.completedSteps ≤ steps.length := by
  obtain ⟨earlier, current, -, -, hstands⟩ := h.calls
  cases hstands with
  | succeeded hplan hall hstatus => exact hall.le
  | running hplan hstep | notBegun hplan hstep | failed hplan hstep =>
    exact (List.getElem?_eq_some_iff.mp hstep).1.le

theorem Executed.completed (h : Executed steps r) :
    r.calls.countP PlanCall.succeeds = r.planStatus.completedSteps := by
  have hle := h.completed_le
  obtain ⟨earlier, current, hcalls, hearlier, hstands⟩ := h.calls
  -- The calls after the last success hold no other one.
  have hcurrent : current.countP PlanCall.succeeds = 0 := by
    cases hstands with
    | succeeded => rfl
    | notBegun => rfl
    | running hplan hstep hwaits => exact succeeds_openStep _ hwaits
    | @failed step waits result phase error hplan hstep hwaits hresult =>
      rw [List.countP_append, succeeds_openStep step hwaits]
      rcases result with error | progress
      · rfl
      · cases progress <;> first | rfl | cases hresult
  rw [hcalls, List.countP_append, hearlier.count, hcurrent, List.length_take]
  omega

/-- The steps are begun in plan order, each once: those that succeeded and at most one more. -/
theorem Executed.begun (h : Executed steps r) :
    ∃ n, r.planStatus.completedSteps ≤ n ∧ n ≤ r.planStatus.completedSteps + 1
      ∧ r.calls.filterMap PlanCall.begunStep? = steps.take n := by
  obtain ⟨earlier, current, hcalls, hearlier, hstands⟩ := h.calls
  have hone : ∀ step, steps[r.planStatus.completedSteps]? = some step →
      current.filterMap PlanCall.begunStep? = [step] →
      r.calls.filterMap PlanCall.begunStep? = steps.take (r.planStatus.completedSteps + 1) := by
    intro step hstep hcurrent
    rw [hcalls, List.filterMap_append, hearlier.begun, hcurrent, List.take_add_one, hstep]
    rfl
  cases hstands with
  | succeeded =>
    refine ⟨_, Nat.le_refl _, Nat.le_succ _, ?_⟩
    rw [hcalls, List.append_nil, hearlier.begun]
  | running hplan hstep =>
    exact ⟨_, Nat.le_succ _, Nat.le_refl _, hone _ hstep (begunStep_openStep _ _)⟩
  | notBegun hplan hstep => exact ⟨_, Nat.le_succ _, Nat.le_refl _, hone _ hstep rfl⟩
  | failed hplan hstep =>
    refine ⟨_, Nat.le_succ _, Nat.le_refl _, hone _ hstep ?_⟩
    rw [List.filterMap_append, begunStep_openStep]
    rfl

/-! ## One call -/

theorem pollPlan_inactive (h : r.plan.active = false) (answers : PollAnswers) :
    r.pollPlan answers = (r, .error .operationNotReady) := by
  unfold PlanRunner.pollPlan
  rw [h]
  rfl

theorem beginPlan_active (h : r.plan.active = true) (isOpen operationPending : Bool)
    (steps : List PlanStep) (begun : Result Unit) :
    (r.beginPlan isOpen operationPending steps begun).1 = r
      ∧ ∃ error, (r.beginPlan isOpen operationPending steps begun).2 = .error error := by
  unfold PlanRunner.beginPlan
  rw [h]
  cases isOpen with
  | false => exact ⟨rfl, _, rfl⟩
  | true =>
    by_cases hempty : steps = []
    · simp [hempty]
    · simp [hempty]

/-- The begin of a plan: its first step is begun, or the plan ends with the error of the step. -/
theorem executed_beginPlan (hidle : r.plan.active = false) (hsteps : steps ≠ [])
    (begun : Result Unit) :
    Executed steps (r.beginPlan true false steps begun).1
      ∧ (r.beginPlan true false steps begun).2 = begun := by
  obtain ⟨first, rest, rfl⟩ := List.exists_cons_of_ne_nil hsteps
  unfold PlanRunner.beginPlan
  rw [hidle]
  simp only [Bool.not_true, Bool.false_eq_true, if_false, hsteps, or_self]
  cases begun with
  | ok done =>
    refine ⟨⟨rfl, [], openStep first [], rfl, .nil, ?_⟩, rfl⟩
    exact .running rfl rfl (fun _ hw => absurd hw List.not_mem_nil) rfl
  | error error =>
    refine ⟨⟨rfl, [], [.begun first (.error error)], rfl, .nil, ?_⟩, rfl⟩
    exact .notBegun rfl rfl rfl

theorem openStep_concat (step : PlanStep) (waits : List OperationProgressState)
    (progress : OperationProgressState) :
    openStep step waits ++ [PlanCall.polled step (.ok progress)]
      = openStep step (waits ++ [progress]) := by
  simp [openStep]

/-- What a poll returns is what the client answered last. -/
def ReturnsLast (polled : PlanRunner × Result OperationProgressState) : Prop :=
  ∃ call, polled.1.calls.getLast? = some call ∧ polled.2 = call.answer

theorem executed_endAtStep {earlier : List PlanCall} {step : PlanStep}
    {waits : List OperationProgressState} {result : Result OperationProgressState}
    {phase : PlanPhase} {error : ErrorCode}
    (htotal : r.planStatus.totalSteps = steps.length)
    (hplan : r.plan = ⟨true, r.planStatus.completedSteps, steps⟩)
    (hstep : steps[r.planStatus.completedSteps]? = some step)
    (hcalls : r.calls = earlier ++ (openStep step waits ++ [.polled step result]))
    (hearlier : Succeeded (steps.take r.planStatus.completedSteps) earlier)
    (hwaits : ∀ w ∈ waits, Waits w) (hresult : failure result = some (phase, error)) :
    Executed steps (r.endAtStep phase error)
      ∧ ReturnsLast (r.endAtStep phase error, result) := by
  have hcompleted : (r.endAtStep phase error).planStatus.completedSteps
      = r.planStatus.completedSteps := congrArg Plan.activeStepIndex hplan
  refine ⟨⟨htotal, earlier, _, hcalls, ?_, ?_⟩, .polled step result, ?_, rfl⟩
  · rw [hcompleted]
    exact hearlier
  · refine .failed rfl ?_ hwaits hresult rfl
    rw [hcompleted]
    exact hstep
  · change r.calls.getLast? = _
    rw [hcalls, ← List.append_assoc, List.getLast?_concat]

theorem executed_nextPlanStep {earlier : List PlanCall}
    (htotal : r.planStatus.totalSteps = steps.length)
    (hplan : r.plan = ⟨true, r.planStatus.completedSteps, steps⟩)
    (hcompleted : r.planStatus.completedSteps < steps.length)
    (hstatus : r.planStatus.toPlanStatus = ⟨true, .running, none⟩)
    (hcalls : r.calls = earlier)
    (hearlier : Succeeded (steps.take (r.planStatus.completedSteps + 1)) earlier)
    (hlast : ∃ step, earlier.getLast? = some (.polled step (.ok .success))) (begun : Result Unit) :
    Executed steps (r.nextPlanStep begun).1 ∧ ReturnsLast (r.nextPlanStep begun) := by
  obtain ⟨plan, ⟨status, total, completed, index, operation⟩, calls⟩ := r
  dsimp only at htotal hplan hcompleted hstatus hcalls hearlier
  subst htotal hplan hstatus hcalls
  obtain ⟨last, hlast⟩ := hlast
  unfold PlanRunner.nextPlanStep
  dsimp only
  split
  · rename_i hend
    have hall : completed + 1 = steps.length := Nat.le_antisymm hcompleted hend
    refine ⟨⟨rfl, calls, [], (List.append_nil _).symm, hearlier, ?_⟩, _, hlast, rfl⟩
    exact .succeeded rfl hall rfl
  · rename_i hmore
    obtain ⟨next, hnext⟩ : ∃ next, steps[completed + 1]? = some next :=
      ⟨_, List.getElem?_eq_getElem (Nat.not_le.mp hmore)⟩
    unfold PlanRunner.beginCurrentPlanStep
    dsimp only
    rw [hnext]
    cases begun with
    | ok done =>
      refine ⟨⟨rfl, calls, openStep _ [], rfl, hearlier, ?_⟩, _, List.getLast?_concat, rfl⟩
      exact .running rfl hnext (fun _ hw => absurd hw List.not_mem_nil) rfl
    | error error =>
      refine ⟨⟨rfl, calls, _, rfl, hearlier, ?_⟩, _, List.getLast?_concat, rfl⟩
      exact .notBegun rfl hnext rfl

theorem Executed.pollPlan_active (h : Executed steps r) (hactive : r.plan.active = true)
    (answers : PollAnswers) :
    Executed steps (r.pollPlan answers).1 ∧ ReturnsLast (r.pollPlan answers) := by
  obtain ⟨earlier, current, hcalls, hearlier, hstands⟩ := h.calls
  cases hstands with
  | succeeded hplan | notBegun hplan | failed hplan =>
    -- A plan that ended was reset, so it is not active.
    rw [hplan] at hactive
    cases hactive
  | @running step waits hplan hstep hwaits hstatus =>
    have hlt : r.planStatus.completedSteps < steps.length := (List.getElem?_eq_some_iff.mp hstep).1
    have hpolled : ∀ result : Result OperationProgressState,
        r.calls ++ [PlanCall.polled step result]
          = earlier ++ (openStep step waits ++ [.polled step result]) := by
      intro result
      rw [hcalls, List.append_assoc]
    unfold PlanRunner.pollPlan
    simp only [hplan, hstep, Bool.not_true, Bool.false_eq_true, if_false]
    rcases hresult : answers.progress with error | progress
    · exact executed_endAtStep h.total rfl hstep (hpolled _) hearlier hwaits rfl
    · have hwaiting : ∀ (progress : OperationProgressState), Waits progress →
          ∀ w ∈ waits ++ [progress], Waits w := by
        intro progress hprogress w hw
        rcases List.mem_append.mp hw with hold | hnew
        · exact hwaits w hold
        · rw [List.mem_singleton.mp hnew]
          exact hprogress
      cases progress with
      | timeout => exact executed_endAtStep h.total rfl hstep (hpolled _) hearlier hwaits rfl
      | transmissionFailed =>
        exact executed_endAtStep h.total rfl hstep (hpolled _) hearlier hwaits rfl
      | success =>
        -- The step joins those that succeeded, and the calls for it the earlier ones.
        refine executed_nextPlanStep
          (r := { r with
            plan := ⟨true, r.planStatus.completedSteps, steps⟩
            calls := r.calls ++ [PlanCall.polled step (.ok .success)] })
          h.total rfl hlt hstatus (hpolled _) ?_ ?_ answers.begun
        · change Succeeded (steps.take (r.planStatus.completedSteps + 1)) _
          rw [List.take_add_one, hstep]
          exact .snoc hearlier step hwaits
        · exact ⟨step, by rw [← List.append_assoc, List.getLast?_concat]⟩
      | pending | busy =>
        refine ⟨⟨h.total, earlier, _, (hpolled _).trans (by rw [openStep_concat]), hearlier, ?_⟩,
          _, List.getLast?_concat, rfl⟩
        refine .running rfl hstep (hwaiting _ ?_) ?_
        · first
          | exact .inl rfl
          | exact .inr rfl
        · change PlanStatus.mk true .running r.planStatus.terminalError = _
          rw [hstatus]

/-! ## Every run -/

/-- Begins are tried only while a plan is active. -/
def WhileActive (r : PlanRunner) : PlanEvent → Prop
  | .beginPlan _ _ _ _ => r.plan.active = true
  | .pollPlan _ => True

/-- What a call returns: a begin is refused and changes nothing, a poll of an active plan gives the answer of
the client's last call. -/
def Answered (r : PlanRunner) : PlanEvent → Prop
  | .beginPlan isOpen operationPending steps begun =>
    (r.beginPlan isOpen operationPending steps begun).1 = r
      ∧ ∃ error, (r.beginPlan isOpen operationPending steps begun).2 = .error error
  | .pollPlan answers =>
    if r.plan.active then ReturnsLast (r.pollPlan answers)
    else r.pollPlan answers = (r, .error .operationNotReady)

theorem Executed.step (h : Executed steps r) {event : PlanEvent} (hwhile : WhileActive r event) :
    Executed steps (r.step event) ∧ Answered r event := by
  cases event with
  | beginPlan isOpen operationPending steps begun =>
    have hrefused := beginPlan_active hwhile isOpen operationPending steps begun
    refine ⟨?_, hrefused⟩
    change Executed _ (r.beginPlan isOpen operationPending steps begun).1
    rw [hrefused.1]
    exact h
  | pollPlan answers =>
    unfold Answered
    by_cases hactive : r.plan.active = true
    · dsimp only
      rw [if_pos hactive]
      exact h.pollPlan_active hactive answers
    · have hended := pollPlan_inactive (Bool.not_eq_true _ ▸ hactive) answers
      dsimp only
      rw [if_neg hactive]
      refine ⟨?_, hended⟩
      change Executed steps (r.pollPlan answers).1
      rw [hended]
      exact h

/-- Every run of a plan: it is executed at every call, and every call returns what it should. -/
theorem Executed.run (h : Executed steps r) {events : List PlanEvent}
    (hwhile : Along PlanRunner.step WhileActive r events) :
    Executed steps (run PlanRunner.step r events) ∧ Along PlanRunner.step Answered r events := by
  induction events generalizing r with
  | nil => exact ⟨h, trivial⟩
  | cons event events ih =>
    obtain ⟨hnext, hanswered⟩ := h.step hwhile.1
    obtain ⟨hlast, hrest⟩ := ih hnext hwhile.2
    exact ⟨hlast, hanswered, hrest⟩

/-- The steps that were begun are the first ones of the plan, once each and in its order; those that
succeeded are counted, and at most one more was begun. -/
structure InOrder (steps : List PlanStep) (r : PlanRunner) : Prop where
  begun : ∃ n, r.planStatus.completedSteps ≤ n ∧ n ≤ r.planStatus.completedSteps + 1
    ∧ r.calls.filterMap PlanCall.begunStep? = steps.take n
  completed : r.calls.countP PlanCall.succeeds = r.planStatus.completedSteps

/-- A plan runs in order: whatever the client answers, and whatever plans are tried meanwhile, every
call returns what the client answered, a step is begun once the one before has succeeded, the plan ends with the
first step that fails, and the status reports how many succeeded. -/
theorem plan_runs (r : PlanRunner) (hidle : r.plan.active = false) (steps : List PlanStep)
    (hsteps : steps ≠ []) (begun : Result Unit) (events : List PlanEvent)
    (hwhile : Along PlanRunner.step WhileActive (r.beginPlan true false steps begun).1 events) :
    (r.beginPlan true false steps begun).2 = begun
      ∧ Along PlanRunner.step Answered (r.beginPlan true false steps begun).1 events
      ∧ Executed steps (run PlanRunner.step (r.beginPlan true false steps begun).1 events)
      ∧ InOrder steps (run PlanRunner.step (r.beginPlan true false steps begun).1 events) := by
  obtain ⟨hfirst, hresult⟩ := executed_beginPlan hidle hsteps begun
  obtain ⟨hexecuted, hanswered⟩ := hfirst.run hwhile
  exact ⟨hresult, hanswered, hexecuted, hexecuted.begun, hexecuted.completed⟩

/-- Two steps, of which the second is refused when it is begun. -/
def exampleSteps : List PlanStep := [.exchange [1] 8 1000, .exchange [2] 8 1000]

/-- The calls after the begin: another plan is tried, and the second step is refused. -/
def exampleEvents : List PlanEvent :=
  [.beginPlan true true [.exchange [3] 8 1000] (.ok ()), .pollPlan ⟨.ok .pending, .none, .ok ()⟩,
    .pollPlan ⟨.ok .success, .none, .error .busy⟩]

theorem plan_runs_refused :
    (run PlanRunner.step (({} : PlanRunner).beginPlan true false exampleSteps (.ok ())).1
        exampleEvents).planStatus.completedSteps = 1
      ∧ InOrder exampleSteps
        (run PlanRunner.step (({} : PlanRunner).beginPlan true false exampleSteps (.ok ())).1
          exampleEvents) := by
  have hwhile : Along PlanRunner.step WhileActive
      (({} : PlanRunner).beginPlan true false exampleSteps (.ok ())).1 exampleEvents :=
    ⟨rfl, trivial, trivial, trivial⟩
  obtain ⟨-, -, -, horder⟩ :=
    plan_runs {} rfl exampleSteps (List.cons_ne_nil _ _) (.ok ()) exampleEvents hwhile
  exact ⟨rfl, horder⟩

/-! ## The session of the procedures -/

/-- A session runs its plan as a runner does. -/
structure Simulates (s : Session) (r : PlanRunner) : Prop where
  plan : r.plan = s.plan
  planStatus : r.planStatus.toPlanStatus = s.planStatus

variable {s : Session}

theorem Simulates.beginPlan (h : Simulates s r) (e : Env) (steps : List PlanStep) :
    ∃ begun, Simulates (s.beginPlan e steps).1
        (r.beginPlan s.isOpen s.client.operation.active steps begun).1
      ∧ (s.beginPlan e steps).2
        = (r.beginPlan s.isOpen s.client.operation.active steps begun).2 := by
  cases steps with
  | nil =>
    refine ⟨.ok (), ?_⟩
    unfold Session.beginPlan PlanRunner.beginPlan
    cases s.isOpen
    · exact ⟨h, rfl⟩
    · exact ⟨h, rfl⟩
  | cons first rest =>
    refine ⟨(Session.beginStep s.client e first).2, ?_⟩
    unfold Session.beginPlan PlanRunner.beginPlan
    rw [h.plan]
    cases hopen : s.isOpen with
    | false => exact ⟨h, rfl⟩
    | true =>
      simp only [Bool.not_true, Bool.false_eq_true, Bool.true_eq_false, if_false,
        List.cons_ne_nil]
      by_cases hbusy : s.plan.active = true ∨ s.client.operation.active = true
      · rw [if_pos hbusy, if_pos hbusy]
        exact ⟨h, rfl⟩
      · rw [if_neg hbusy, if_neg hbusy]
        unfold Session.beginCurrentPlanStep PlanRunner.beginCurrentPlanStep
        simp only [List.getElem?_cons_zero]
        rcases (Session.beginStep s.client e first).2 with error | done
        · exact ⟨⟨rfl, rfl⟩, rfl⟩
        · exact ⟨⟨rfl, rfl⟩, rfl⟩

theorem Simulates.nextPlanStep (h : Simulates s r) (e : Env) :
    ∃ begun, Simulates (s.nextPlanStep e).1 (r.nextPlanStep begun).1
      ∧ (s.nextPlanStep e).2 = (r.nextPlanStep begun).2 := by
  unfold Session.nextPlanStep PlanRunner.nextPlanStep
  dsimp only
  rw [h.plan]
  by_cases hend : s.plan.steps.length ≤ s.plan.activeStepIndex + 1
  · rw [if_pos hend]
    simp only [if_pos hend]
    exact ⟨.ok (), ⟨rfl, rfl⟩, trivial⟩
  · rw [if_neg hend]
    simp only [if_neg hend]
    obtain ⟨next, hnext⟩ : ∃ next, s.plan.steps[s.plan.activeStepIndex + 1]? = some next :=
      ⟨_, List.getElem?_eq_getElem (Nat.not_le.mp hend)⟩
    unfold Session.beginCurrentPlanStep PlanRunner.beginCurrentPlanStep
    dsimp only
    rw [hnext]
    refine ⟨(Session.beginStep s.client e next).2, ?_⟩
    dsimp only
    rcases (Session.beginStep s.client e next).2 with error | done
    · exact ⟨⟨rfl, rfl⟩, rfl⟩
    · refine ⟨⟨rfl, ?_⟩, rfl⟩
      change PlanStatus.mk true .running r.planStatus.terminalError = _
      rw [← h.planStatus]

theorem Simulates.pollPlan (h : Simulates s r) (e : Env) (read : ReadIdentityOperation) :
    ∃ answers, Simulates (s.pollPlan e read).1 (r.pollPlan answers).1
      ∧ (s.pollPlan e read).2.2 = (r.pollPlan answers).2 := by
  obtain ⟨plan, status, calls⟩ := r
  obtain ⟨hplan, hstatus⟩ := h
  dsimp only at hplan hstatus
  subst hplan
  unfold Session.pollPlan PlanRunner.pollPlan
  dsimp only
  cases hactive : s.plan.active with
  | false => exact ⟨⟨.ok .pending, .none, .ok ()⟩, ⟨rfl, hstatus⟩, rfl⟩
  | true =>
    simp only [Bool.true_eq_false, Bool.not_true, Bool.false_eq_true, if_false]
    cases hstep : s.plan.steps[s.plan.activeStepIndex]? with
    | none => exact ⟨⟨.ok .pending, .none, .ok ()⟩, ⟨rfl, hstatus⟩, rfl⟩
    | some step =>
      dsimp only
      have hrunning : PlanStatus.mk true .running status.terminalError
          = { s.planStatus with active := true, phase := .running } := by
        rw [← hstatus]
      rcases Session.pollStep s.client e read step with ⟨c, read', error | progress⟩
      · exact ⟨⟨.error error, .none, .ok ()⟩, ⟨rfl, rfl⟩, rfl⟩
      · cases progress with
        | success =>
          have hclient : Simulates { s with client := c }
              ⟨s.plan, status, calls ++ [PlanCall.polled step (.ok .success)]⟩ := ⟨rfl, hstatus⟩
          obtain ⟨begun, hnext, hresult⟩ := hclient.nextPlanStep e
          refine ⟨⟨.ok .success, .none, begun⟩, ?_⟩
          exact ⟨hnext, hresult⟩
        | timeout => exact ⟨⟨.ok .timeout, .none, .ok ()⟩, ⟨rfl, rfl⟩, rfl⟩
        | transmissionFailed => exact ⟨⟨.ok .transmissionFailed, .none, .ok ()⟩, ⟨rfl, rfl⟩, rfl⟩
        | pending => exact ⟨⟨.ok .pending, .none, .ok ()⟩, ⟨rfl, hrunning⟩, rfl⟩
        | busy => exact ⟨⟨.ok .busy, .none, .ok ()⟩, ⟨rfl, hrunning⟩, rfl⟩

/-- A call to the session, with what the client meets in it. -/
inductive SessionEvent where
  | beginPlan (e : Env) (steps : List PlanStep)
  | pollPlan (e : Env) (read : ReadIdentityOperation)

/-- One call to the session. -/
def Session.planStep (s : Session) : SessionEvent → Session
  | .beginPlan e steps => (s.beginPlan e steps).1
  | .pollPlan e read => (s.pollPlan e read).1

/-- The session is such a runner: in every run it has the plan and the status of a runner that makes the
same calls. -/
theorem session_simulated (h : Simulates s r) (events : List SessionEvent) :
    ∃ calls : List PlanEvent, calls.length = events.length
      ∧ Simulates (run Session.planStep s events) (run PlanRunner.step r calls) := by
  induction events generalizing s r with
  | nil => exact ⟨[], rfl, h⟩
  | cons event events ih =>
    have hcall : ∃ call, Simulates (s.planStep event) (r.step call) := by
      cases event with
      | beginPlan e steps =>
        obtain ⟨begun, hnext, -⟩ := h.beginPlan e steps
        exact ⟨.beginPlan s.isOpen s.client.operation.active steps begun, hnext⟩
      | pollPlan e read =>
        obtain ⟨answers, hnext, -⟩ := h.pollPlan e read
        exact ⟨.pollPlan answers, hnext⟩
    obtain ⟨call, hnext⟩ := hcall
    obtain ⟨calls, hlength, hrun⟩ := ih hnext
    exact ⟨call :: calls, congrArg (· + 1) hlength, hrun⟩

end KnxStack.Netip.DeviceManagement
