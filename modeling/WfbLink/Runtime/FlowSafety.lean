/-
No transmission before the radio is ready.

The phases of the init sequence are noted in the trace, so that it shows which of them ran and which succeeded.

- `runInitPhases_noted`: the phases that ran are a prefix of the sequence that stops at the first failure.
- `prepareFlow_spec`: what `prepareFlow` leaves in the trace, and what is known when it succeeds.
- `runProductionRuntimeFlow_transmits_ready`: every bulk OUT write of a run comes after all of it has succeeded.
-/
import WfbLink.Runtime.FlowTrace

namespace WfbLink.Runtime

open WfbLink.Core WfbLink.RadioCore WfbLink.Bridge

/-! ## Phases in the trace -/

section Phases

variable {ω : Type} {kinds : List EventKind}

/-- the phases do register access only -/
def RegisterOnly (runPhase : InitPhaseRunner (RecordedHost ω)) : Prop :=
  ∀ phase, Leaves [.register] (runPhase phase)

/-- the same phases, noted in the trace when they are over -/
def notePhases (runPhase : InitPhaseRunner (RecordedHost ω)) : InitPhaseRunner (RecordedHost ω) := fun phase => do
  let outcome ← Action.attempt (runPhase phase)
  onHost fun host => ((), host.record (.phase phase outcome.isOk) host.inner)
  Action.ofExcept outcome

def RuntimeEvent.phase? : RuntimeEvent → Option (Rtl8812auInitPhase × Bool)
  | .phase ran succeeded => some (ran, succeeded)
  | _ => none

def phaseLog (trace : List RuntimeEvent) : List (Rtl8812auInitPhase × Bool) := trace.filterMap RuntimeEvent.phase?

theorem phaseLog_append (trace trace' : List RuntimeEvent) :
    phaseLog (trace ++ trace') = phaseLog trace ++ phaseLog trace' := List.filterMap_append

theorem phaseLog_eq_nil {trace : List RuntimeEvent} (h : ∀ e ∈ trace, e.kind ∈ kinds) (hk : .phase ∉ kinds) :
    phaseLog trace = [] := by
  refine List.filterMap_eq_nil_iff.2 fun e he => ?_
  cases e with
  | phase phase succeeded => exact absurd (h _ he) hk
  | usb event => rfl
  | writeFile path content succeeded => rfl
  | udpBind addr succeeded => rfl
  | spawnReceiver addr succeeded => rfl

theorem phaseLog_append_quiet (trace : List RuntimeEvent) {trace' : List RuntimeEvent}
    (h : ∀ e ∈ trace', e.kind ∈ kinds) (hk : .phase ∉ kinds) : phaseLog (trace ++ trace') = phaseLog trace := by
  rw [phaseLog_append, phaseLog_eq_nil h hk, List.append_nil]

/-- a noted phase leaves its transfers, then the note -/
theorem notePhases_run {runPhase : InitPhaseRunner (RecordedHost ω)} (hregister : RegisterOnly runPhase)
    (phase : Rtl8812auInitPhase) (session : RuntimeRadioSession (RecordedHost ω)) :
    ∃ outcome session' transfers, notePhases runPhase phase session = (outcome, session') ∧
      sessionTrace session' = sessionTrace session ++ (transfers ++ [.phase phase outcome.isOk]) ∧
      ∀ e ∈ transfers, e.kind ∈ [EventKind.register] := by
  obtain ⟨transfers, htrace, htransfers⟩ := hregister phase session
  refine ⟨(runPhase phase session).1, _, transfers, rfl, ?_, htransfers⟩
  rw [← List.append_assoc, ← htrace]
  rfl

/-- the log of phases that all succeeded -/
def allSucceeded (phases : List Rtl8812auInitPhase) : List (Rtl8812auInitPhase × Bool) := phases.map (·, true)

/-- how far a list of phases got -/
def PhasesRan (phases : List Rtl8812auInitPhase) (log : List (Rtl8812auInitPhase × Bool)) : Prop :=
  ∃ done phase rest, phases = done ++ phase :: rest ∧ log = allSucceeded done ++ [(phase, false)]

/-- **Phases run in order** and stop at the first failure; the induction is on the phases still to run. -/
theorem runInitPhases_noted {runPhase : InitPhaseRunner (RecordedHost ω)} (hregister : RegisterOnly runPhase)
    (phases : List Rtl8812auInitPhase) (phaseSummaries : List RuntimeSameSessionInitPhaseSummary)
    (session : RuntimeRadioSession (RecordedHost ω)) :
    ∃ outcome session' written, runInitPhases (notePhases runPhase) phases phaseSummaries session = (outcome, session') ∧
      sessionTrace session' = sessionTrace session ++ written ∧
      (∀ e ∈ written, e.kind ∈ [EventKind.register, .phase]) ∧
      match outcome with
      | .ok _ => phaseLog written = allSucceeded phases
      | .error _ => PhasesRan phases (phaseLog written) := by
  induction phases generalizing phaseSummaries session with
  | nil =>
    refine ⟨.ok phaseSummaries, session, [], rfl, ?_, ?_, ?_⟩
    · rw [List.append_nil]
    · intro e he
      exact absurd he List.not_mem_nil
    · simp only [phaseLog, allSucceeded, List.filterMap_nil, List.map_nil]
  | cons phase phases ih =>
    obtain ⟨outcome, session₁, transfers, hrun, htrace, htransfers⟩ := notePhases_run hregister phase session
    have hlog : phaseLog (transfers ++ [.phase phase outcome.isOk]) = [(phase, outcome.isOk)] := by
      rw [phaseLog_append, phaseLog_eq_nil htransfers (by decide)]
      rfl
    have hkinds : ∀ e ∈ transfers ++ [.phase phase outcome.isOk], e.kind ∈ [EventKind.register, .phase] := by
      intro e he
      simp only [List.mem_append, List.mem_singleton] at he
      rcases he with he | rfl
      · exact List.mem_cons.2 (Or.inl (List.mem_singleton.1 (htransfers e he)))
      · simp [RuntimeEvent.kind]
    have hattempt : (Action.attempt (notePhases runPhase phase) : Action (RuntimeRadioSession (RecordedHost ω))
        (List RuntimeSameSessionInitPhaseSummary × RuntimeRadioError) _) session = (.ok outcome, session₁) := by
      rw [Action.attempt_run, hrun]
    rw [runInitPhases, Action.bind_of_ok hattempt]
    rcases outcome with failure | summary
    · refine ⟨.error (phaseSummaries ++ [failure.summary], failure.error), session₁, _, rfl, htrace, hkinds, ?_⟩
      simp only
      rw [hlog]
      exact ⟨[], phase, phases, rfl, rfl⟩
    · obtain ⟨outcome, session', written, hrest, htrace', hwritten, hphases⟩ := ih (phaseSummaries ++ [summary]) session₁
      refine ⟨outcome, session', transfers ++ [.phase phase true] ++ written, hrest, ?_, ?_, ?_⟩
      · rw [htrace', htrace, List.append_assoc]
        rfl
      · intro e he
        rcases List.mem_append.1 he with he | he
        · exact hkinds e he
        · exact hwritten e he
      · have hsplit : phaseLog (transfers ++ [.phase phase true] ++ written) = (phase, true) :: phaseLog written := by
          rw [phaseLog_append]
          exact congrArg (· ++ phaseLog written) hlog
        rw [hsplit]
        rcases outcome with failure | phaseSummaries
        · obtain ⟨done, failed, rest, rfl, hdone⟩ := hphases
          exact ⟨phase :: done, failed, rest, rfl, by rw [hdone]; rfl⟩
        · simp only at hphases ⊢
          rw [hphases]
          rfl

/-- a log that ends in a failure is not the log of a success -/
theorem PhasesRan.ne_allSucceeded {phases phases' : List Rtl8812auInitPhase}
    {log : List (Rtl8812auInitPhase × Bool)} (h : PhasesRan phases log) : log ≠ allSucceeded phases' := by
  obtain ⟨done, phase, rest, _, rfl⟩ := h
  intro heq
  have hmem : (phase, false) ∈ allSucceeded phases' := by rw [← heq]; simp
  simp [allSucceeded] at hmem

theorem PhasesRan.executed {phases : List Rtl8812auInitPhase} {log : List (Rtl8812auInitPhase × Bool)}
    (h : PhasesRan phases log) : ExecutedPhases phases log := by
  obtain ⟨done, phase, rest, hphases, rfl⟩ := h
  exact .failed hphases

theorem sequence_ne_nil (order : Rtl8812auInitOrder) : [] ≠ allSucceeded (rtl8812auSameSessionInitSequence order) := by
  cases order <;> decide

/-- **Same-session init.** The phases that ran are a prefix of the sequence that stops at the first failure, and the
result is `ready` exactly if the whole sequence succeeded. -/
theorem runSameSessionInit_noted {runPhase : InitPhaseRunner (RecordedHost ω)} (hregister : RegisterOnly runPhase)
    (config : RuntimeSameSessionInitConfig) (session : RuntimeRadioSession (RecordedHost ω)) :
    ∃ outcome session' written,
      runRtl8812auSameSessionInit (notePhases runPhase) config session = (outcome, session') ∧
      sessionTrace session' = sessionTrace session ++ written ∧
      (∀ e ∈ written, e.kind ∈ [EventKind.register, .phase]) ∧
      match outcome with
      | .ok result => result.readiness = .ready ∧
          phaseLog written = allSucceeded (rtl8812auSameSessionInitSequence config.initOrder)
      | .error failure => failure.result.readiness = .failed ∧
          ExecutedPhases (rtl8812auSameSessionInitSequence config.initOrder) (phaseLog written) ∧
          phaseLog written ≠ allSucceeded (rtl8812auSameSessionInitSequence config.initOrder) := by
  rw [runRtl8812auSameSessionInit]
  rcases config.calibrationDecision with error | calibration
  · refine ⟨.error _, session, [], rfl, ?_, ?_, ?_⟩
    · rw [List.append_nil]
    · intro e he
      exact absurd he List.not_mem_nil
    · exact ⟨rfl, .notStarted, sequence_ne_nil _⟩
  · obtain ⟨outcome, session', written, hrun, htrace, hkinds, hphases⟩ :=
      runInitPhases_noted hregister (rtl8812auSameSessionInitSequence config.initOrder) [] session
    have hattempt : (Action.attempt (runInitPhases (notePhases runPhase)
        (rtl8812auSameSessionInitSequence config.initOrder) []) : Action (RuntimeRadioSession (RecordedHost ω))
          RuntimeSameSessionInitFailure _) session = (.ok outcome, session') := by
      rw [Action.attempt_run, hrun]
    dsimp only
    rw [Action.bind_of_ok hattempt]
    rcases outcome with ⟨phaseSummaries, error⟩ | phaseSummaries
    · refine ⟨.error _, session', written, rfl, htrace, hkinds, ?_⟩
      exact ⟨rfl, PhasesRan.executed hphases, PhasesRan.ne_allSucceeded hphases⟩
    · refine ⟨.ok _, session', written, rfl, htrace, hkinds, ?_⟩
      exact ⟨rfl, hphases⟩

end Phases

/-! ## Steps that succeeded -/

section Ready

variable {ω α : Type} {config : ProductionRuntimeFlowConfig} {inputs : ProductionRuntimeFlowExecutionInputs}

theorem orReturn_ok [RuntimeHost ω] {step : SessionAction ω α}
    {onError : RuntimeRadioError → FlowAction ω ProductionRuntimeFlowReport} {a : α} {s s' : RuntimeRadioSession ω}
    (h : orReturn step onError s = (.ok a, s')) : step s = (.ok a, s') := by
  obtain ⟨outcome, s₁, hattempt, hrest⟩ := Action.bind_ok h
  simp only [Action.attempt_run, Prod.mk.injEq, Except.ok.injEq] at hattempt
  obtain ⟨houtcome, rfl⟩ := hattempt
  rcases outcome with (error | panic) | a'
  · obtain ⟨report, s₂, _, hfail⟩ := Action.bind_ok hrest
    cases hfail
  · cases hrest
  · cases hrest
    exact Prod.ext houtcome rfl

/-- the checks leave what they checked -/
theorem validateFlow_ok [RuntimeHost ω] {validation : ProductionRuntimeFlowValidation} {s s' : RuntimeRadioSession ω}
    (h : validateFlow config inputs s = (.ok validation, s')) :
    config.validate = .ok validation ∧ inputs.validate = .ok () := by
  obtain ⟨_, s₁, _, h⟩ := Action.bind_ok h
  obtain ⟨validated, s₂, hconfig, h⟩ := Action.bind_ok h
  obtain ⟨_, s₃, hinputs, h⟩ := Action.bind_ok h
  obtain ⟨_, s₄, _, h⟩ := Action.bind_ok h
  cases h
  have hconfig := congrArg Prod.fst (orReturn_ok hconfig)
  have hinputs := congrArg Prod.fst (orReturn_ok hinputs)
  constructor
  · cases hvalidate : config.validate with
    | error error =>
      rw [hvalidate] at hconfig
      cases hconfig
    | ok validated =>
      rw [hvalidate] at hconfig
      cases hconfig
      rfl
  · cases hvalidate : inputs.validate with
    | error error =>
      rw [hvalidate] at hinputs
      cases hinputs
    | ok => rfl

/-- the inputs that pass have something to initialise the radio with -/
theorem initInputs_of_validate (h : inputs.validate = .ok ()) : ∃ initInputs, inputs.rtl8812auInit = some initInputs := by
  rw [ProductionRuntimeFlowExecutionInputs.validate] at h
  cases hinit : inputs.rtl8812auInit with
  | none =>
    rw [hinit, if_pos rfl] at h
    cases h
  | some initInputs => exact ⟨initInputs, rfl⟩

/-- a ready radio: everything that has to succeed before traffic has succeeded, one after the other -/
structure RadioReady [RuntimeHost ω] (procedures : CalibrationProcedures) (runPhase : InitPhaseRunner ω)
    (config : ProductionRuntimeFlowConfig) (inputs : ProductionRuntimeFlowExecutionInputs)
    (prepared : PreparedFlow) (start ready : RuntimeRadioSession ω) : Prop where
  configValid : config.validate = .ok prepared.validation
  inputsValid : inputs.validate = .ok ()
  steps : ∃ initInputs ∈ inputs.rtl8812auInit, ∃ s₀ s₁ s₂ s₃ s₄ txPower calibration,
    validateFlow config inputs start = (.ok prepared.validation, s₀) ∧
    runRtl8812auSameSessionInit runPhase (initConfig config initInputs) s₀ = (.ok prepared.init, s₁) ∧
    onRegisters applyProductionRuntimeMonitorOpmode s₁ = (.ok (), s₂) ∧
    onRegisters (applyProductionRuntimeTxPowerControl inputs.txPowerControl) s₂ = (.ok txPower, s₃) ∧
    onRegisters (applyProductionRuntimeTxCalibrationProfile procedures config initInputs.rfeType) s₃ =
      (.ok calibration, s₄) ∧
    CalibrationReady calibration ∧
    if txPower.isSome && calibration.isSome then
      ∃ txPower', onRegisters (applyProductionRuntimeTxPowerControl inputs.txPowerControl) s₄ = (.ok txPower', ready)
    else ready = s₄

variable [RuntimeHost ω]

/-- register work is done in sequence -/
theorem onRegisters_bind {β : Type} (action : RegisterAction α) (f : α → RegisterAction β) :
    (onRegisters (action >>= f) : SessionAction ω β) = onRegisters action >>= fun a => onRegisters (f a) := by
  funext session
  change onRegisters (action.andThen f) session = _
  rcases hrun : (action session.counters).run session.transport with ⟨⟨error | a, counters⟩, transport⟩
  · have hact : (onRegisters action : SessionAction ω α) session =
        (.error (.failed error), { session with transport, counters }) := by
      simp only [onRegisters, hrun]
      rfl
    rw [Action.bind_of_error hact, onRegisters, RegisterAction.andThen, RegisterProgram.run_bind, hrun]
    rfl
  · have hact : (onRegisters action : SessionAction ω α) session = (.ok a, { session with transport, counters }) := by
      simp only [onRegisters, hrun]
      rfl
    rw [Action.bind_of_ok hact, onRegisters, RegisterAction.andThen, RegisterProgram.run_bind, hrun]
    rfl

/-- a calibration profile that was applied is ready for TX -/
theorem applyCalibration_ready {procedures : CalibrationProcedures} {rfeType : UInt8}
    {calibration : Option Rtl8812auTxCalibrationProfileReport} {s s' : RuntimeRadioSession ω}
    (h : onRegisters (applyProductionRuntimeTxCalibrationProfile procedures config rfeType) s = (.ok calibration, s')) :
    CalibrationReady calibration := by
  rw [applyProductionRuntimeTxCalibrationProfile, onRegisters_bind] at h
  obtain ⟨report, s₁, _, h⟩ := Action.bind_ok h
  rcases report with _ | profile
  · cases h
    intro profile hprofile
    cases hprofile
  · dsimp only at h
    cases hready : validateProductionRuntimeTxCalibrationProfileReadyForTx profile with
    | error error =>
      rw [hready] at h
      cases h
    | ok =>
      rw [hready] at h
      cases h
      exact (readyForTx_iff profile).1 hready

theorem setUpRadio_ok {procedures : CalibrationProcedures} {initInputs : ProductionRuntimeRtl8812auInitInputs}
    {init : RuntimeSameSessionInitResult} {preLoop : ProductionRuntimePreLoopReports} {s₁ ready : RuntimeRadioSession ω}
    (h : setUpRadio procedures config inputs initInputs init s₁ = (.ok preLoop, ready)) :
    ∃ s₂ s₃ s₄ txPower calibration, onRegisters applyProductionRuntimeMonitorOpmode s₁ = (.ok (), s₂) ∧
      onRegisters (applyProductionRuntimeTxPowerControl inputs.txPowerControl) s₂ = (.ok txPower, s₃) ∧
      onRegisters (applyProductionRuntimeTxCalibrationProfile procedures config initInputs.rfeType) s₃ =
        (.ok calibration, s₄) ∧
      if txPower.isSome && calibration.isSome then
        ∃ txPower', onRegisters (applyProductionRuntimeTxPowerControl inputs.txPowerControl) s₄ = (.ok txPower', ready)
      else ready = s₄ := by
  obtain ⟨_, s₂, hmonitor, h⟩ := Action.bind_ok h
  obtain ⟨txPower, s₃, hpower, h⟩ := Action.bind_ok h
  obtain ⟨calibration, s₄, hcalibration, h⟩ := Action.bind_ok h
  refine ⟨s₂, s₃, s₄, txPower, calibration, orReturn_ok hmonitor, orReturn_ok hpower, orReturn_ok hcalibration, ?_⟩
  dsimp only at h
  split_ifs with hboth
  · rw [if_pos hboth] at h
    obtain ⟨txPower', s₅, hagain, h⟩ := Action.bind_ok h
    cases h
    exact ⟨txPower', orReturn_ok hagain⟩
  · rw [if_neg hboth] at h
    cases h
    rfl

end Ready

/-! ## What reports say about the initialisation -/

/-- a report that ends the action says this about the initialisation -/
def SaysInit {ω α : Type} (init : ProductionRuntimeInitTelemetry) (act : FlowAction ω α) : Prop :=
  Triple (fun _ => True) act (fun _ _ => True) fun exit _ => ∀ report, exit = .report report → report.init = init

/-- the report says this about the initialisation -/
def ReportsInit {ω : Type} (init : ProductionRuntimeInitTelemetry)
    (act : FlowAction ω ProductionRuntimeFlowReport) : Prop :=
  Triple (fun _ => True) act (fun report _ => report.init = init) fun exit _ => ∀ report, exit ≠ .report report

section Says

variable {ω α : Type} {init : ProductionRuntimeInitTelemetry} {act : FlowAction ω α}

theorem SaysInit.pure (a : α) : SaysInit init (Pure.pure a : FlowAction ω α) := Triple.pure fun _ _ => True.intro

theorem SaysInit.bind {β : Type} {f : α → FlowAction ω β} (h : SaysInit init act) (hf : ∀ a, SaysInit init (f a)) :
    SaysInit init (act >>= f) := Triple.bind h hf

theorem SaysInit.read (f : RuntimeRadioSession ω → α) : SaysInit init (Action.read f : FlowAction ω α) :=
  Triple.read fun _ _ => True.intro

theorem SaysInit.orReturn {step : SessionAction ω α}
    {onError : RuntimeRadioError → FlowAction ω ProductionRuntimeFlowReport}
    (herror : ∀ error, ReportsInit init (onError error)) : SaysInit init (Runtime.orReturn step onError) := by
  refine Triple.bind (Triple.attempt (Q := fun _ _ => True) Triple.trivial) fun outcome => ?_
  rcases outcome with (error | panic) | a
  · refine Triple.bind ((herror error).weaken (fun _ _ => True.intro) (fun _ _ h => h) ?_) fun report => ?_
    · intro exit _ h report hreport
      exact absurd hreport (h report)
    · refine Triple.fail fun _ h report' heq => ?_
      cases heq
      exact h
  · refine Triple.fail fun _ _ report heq => ?_
    cases heq
  · exact Triple.pure fun _ _ => True.intro

variable {config : ProductionRuntimeFlowConfig}

theorem reportsInit_fromState {state : FlowState} {stopReason : String} {airtime : ProductionRuntimeAirtimeReport}
    {result : ProductionRuntimeFlowResult} {error : Option RuntimeRadioError} (h : state.init = init) :
    ReportsInit init (productionRuntimeFlowReportFromState config state stopReason airtime result error :
      FlowAction ω _) := Triple.read fun _ _ => h

variable [RuntimeHost ω]

theorem reportsInit_withHealth {report : ProductionRuntimeFlowReport} {lifecycle : ProductionRuntimeServiceLifecycle}
    (h : report.init = init) :
    ReportsInit init (productionRuntimeReportWithHealth config report lifecycle : FlowAction ω _) := by
  refine Triple.bind (Triple.attempt (Q := fun _ _ => True) Triple.trivial) fun outcome => ?_
  rcases outcome with (error | panic) | ⟨⟩
  · exact Triple.pure fun _ _ => h
  · refine Triple.fail fun _ _ report heq => ?_
    cases heq
  · exact Triple.pure fun _ _ => h

theorem reportsInit_fromStateWithHealth {state : FlowState} {stopReason : String}
    {airtime : ProductionRuntimeAirtimeReport} {result : ProductionRuntimeFlowResult} {error : Option RuntimeRadioError}
    (h : state.init = init) :
    ReportsInit init (productionRuntimeFlowReportFromStateWithHealth config state stopReason airtime result error :
      FlowAction ω _) := by
  intro session _
  exact reportsInit_withHealth h session True.intro

theorem reportsInit_failed {state : FlowState} (h : state.init = init) (error : RuntimeRadioError) :
    ReportsInit init (failedReport config state error : FlowAction ω _) := reportsInit_fromStateWithHealth h

theorem saysInit_validateFlow {inputs : ProductionRuntimeFlowExecutionInputs} :
    SaysInit {} (validateFlow config inputs : FlowAction ω _) :=
  .bind (.orReturn fun _ => Triple.pure fun _ _ => rfl) fun _ =>
    .bind (.orReturn fun _ => reportsInit_withHealth rfl) fun _ =>
      .bind (.orReturn fun _ => reportsInit_withHealth rfl) fun _ =>
        .bind (.orReturn fun _ => Triple.pure fun _ _ => rfl) fun _ => .pure _

theorem saysInit_setUpRadio {procedures : CalibrationProcedures} {inputs : ProductionRuntimeFlowExecutionInputs}
    {initInputs : ProductionRuntimeRtl8812auInitInputs} {result : RuntimeSameSessionInitResult} :
    SaysInit (productionRuntimeInitTelemetry result)
      (setUpRadio procedures config inputs initInputs result : FlowAction ω _) := by
  refine .bind (.orReturn (reportsInit_failed rfl)) fun _ => .bind (.orReturn (reportsInit_failed rfl)) fun power =>
    .bind (.orReturn (reportsInit_failed rfl)) fun calibration => ?_
  dsimp only
  split_ifs
  · exact .bind (.orReturn (reportsInit_failed rfl)) fun _ => .pure _
  · exact .pure _

theorem saysInit_kickRx {prepared : PreparedFlow} :
    SaysInit (productionRuntimeInitTelemetry prepared.init) (kickRx config prepared : FlowAction ω _) := by
  rw [kickRx]
  split_ifs
  · exact .pure _
  · exact .bind (.orReturn (reportsInit_failed rfl)) fun _ => .pure _

theorem saysInit_announceReady {prepared : PreparedFlow} :
    SaysInit (productionRuntimeInitTelemetry prepared.init) (announceReady config prepared : FlowAction ω _) :=
  .bind (.orReturn (reportsInit_failed rfl)) fun _ =>
    .bind (.read _) fun _ => .orReturn fun _ => reportsInit_fromState rfl

theorem saysInit_openTraffic {prepared : PreparedFlow} :
    SaysInit (productionRuntimeInitTelemetry prepared.init) (openTraffic config prepared : FlowAction ω _) :=
  .bind (.orReturn (reportsInit_failed rfl)) fun _ => .bind (.orReturn (reportsInit_failed rfl)) fun _ =>
    .orReturn (reportsInit_failed rfl)

end Says

/-! ## Getting the radio ready -/

section Prepare

variable {ω ε α : Type} {kinds : List EventKind} {config : ProductionRuntimeFlowConfig}
  {inputs : ProductionRuntimeFlowExecutionInputs}

/-- the init phases of these inputs ran as they should -/
def InitExecuted (inputs : ProductionRuntimeFlowExecutionInputs) (log : List (Rtl8812auInitPhase × Bool)) : Prop :=
  match inputs.rtl8812auInit with
  | none => log = []
  | some initInputs => ExecutedPhases (rtl8812auSameSessionInitSequence initInputs.initOrder) log

/-- every phase of the chosen order succeeded -/
def InitSucceeded (inputs : ProductionRuntimeFlowExecutionInputs) (log : List (Rtl8812auInitPhase × Bool)) : Prop :=
  ∃ initInputs ∈ inputs.rtl8812auInit, log = allSucceeded (rtl8812auSameSessionInitSequence initInputs.initOrder)

theorem initExecuted_nil (inputs : ProductionRuntimeFlowExecutionInputs) : InitExecuted inputs [] := by
  rw [InitExecuted]
  cases inputs.rtl8812auInit with
  | none => rfl
  | some initInputs => exact .notStarted

theorem not_initSucceeded_nil (inputs : ProductionRuntimeFlowExecutionInputs) : ¬ InitSucceeded inputs [] := by
  rintro ⟨initInputs, _, hnil⟩
  exact sequence_ne_nil _ hnil

theorem InitSucceeded.executed {log : List (Rtl8812auInitPhase × Bool)} (h : InitSucceeded inputs log) :
    InitExecuted inputs log := by
  obtain ⟨initInputs, hinputs, rfl⟩ := h
  rw [InitExecuted, Option.mem_def.1 hinputs]
  exact .completed

/-- a step, with what it wrote -/
theorem Leaves.run {act : Action (RuntimeRadioSession (RecordedHost ω)) ε α} (h : Leaves kinds act)
    (session : RuntimeRadioSession (RecordedHost ω)) :
    ∃ outcome session' written, act session = (outcome, session') ∧
      sessionTrace session' = sessionTrace session ++ written ∧ ∀ e ∈ written, e.kind ∈ kinds := by
  obtain ⟨written, htrace, hkinds⟩ := h session
  exact ⟨(act session).1, (act session).2, written, rfl, htrace, hkinds⟩

/-- what a report of a run that ended says about the initialisation is true -/
def ReadinessTrue (inputs : ProductionRuntimeFlowExecutionInputs) (log : List (Rtl8812auInitPhase × Bool))
    (report : ProductionRuntimeFlowReport) : Prop := report.init.readiness = .ready ↔ InitSucceeded inputs log

/-- a report of a failed initialisation is true if not all phases succeeded -/
theorem readinessTrue_of_failed {initInputs : ProductionRuntimeRtl8812auInitInputs}
    (hinit : inputs.rtl8812auInit = some initInputs) {log : List (Rtl8812auInitPhase × Bool)}
    (hne : log ≠ allSucceeded (rtl8812auSameSessionInitSequence initInputs.initOrder))
    {report : ProductionRuntimeFlowReport} (hfailed : report.init.readiness = .failed) :
    ReadinessTrue inputs log report := by
  rw [ReadinessTrue, hfailed]
  refine iff_of_false nofun ?_
  rintro ⟨initInputs', hinputs', hsucceeded⟩
  cases hinit.symm.trans (Option.mem_def.1 hinputs')
  exact hne hsucceeded

variable [RuntimeHost ω]

/-- the kinds of events before traffic -/
def setupKinds : List EventKind := [.register, .phase, .record]

theorem written_append {written written' : List RuntimeEvent} (h : ∀ e ∈ written, e.kind ∈ kinds)
    (h' : ∀ e ∈ written', e.kind ∈ kinds) : ∀ e ∈ written ++ written', e.kind ∈ kinds := by
  intro e he
  rcases List.mem_append.1 he with he | he
  · exact h e he
  · exact h' e he

theorem initRadio_noted {runPhase : InitPhaseRunner (RecordedHost ω)} (hregister : RegisterOnly runPhase)
    (initInputs : ProductionRuntimeRtl8812auInitInputs) (start : RuntimeRadioSession (RecordedHost ω)) :
    ∃ outcome session written, initRadio (notePhases runPhase) config initInputs start = (outcome, session) ∧
      sessionTrace session = sessionTrace start ++ written ∧ (∀ e ∈ written, e.kind ∈ setupKinds) ∧
      match outcome with
      | .ok init => init.readiness = .ready ∧
          phaseLog written = allSucceeded (rtl8812auSameSessionInitSequence initInputs.initOrder) ∧
          runRtl8812auSameSessionInit (notePhases runPhase) (initConfig config initInputs) start = (.ok init, session)
      | .error exit => ExecutedPhases (rtl8812auSameSessionInitSequence initInputs.initOrder) (phaseLog written) ∧
          phaseLog written ≠ allSucceeded (rtl8812auSameSessionInitSequence initInputs.initOrder) ∧
          ∀ report, exit = .report report → report.init.readiness = .failed := by
  obtain ⟨outcome, session, written, hrun, htrace, hkinds, hphases⟩ :=
    runSameSessionInit_noted hregister (initConfig config initInputs) start
  have hkinds : ∀ e ∈ written, e.kind ∈ setupKinds := by
    intro e he
    have h := hkinds e he
    simp only [List.mem_cons, List.not_mem_nil, or_false] at h
    rcases h with h | h
    · rw [h]
      decide
    · rw [h]
      decide
  have hattempt : (Action.attempt (runRtl8812auSameSessionInit (notePhases runPhase) (initConfig config initInputs)) :
      FlowAction (RecordedHost ω) _) start = (.ok outcome, session) := by
    rw [Action.attempt_run, hrun]
  rw [initRadio, Action.bind_of_ok hattempt]
  rcases outcome with failure | init
  · obtain ⟨hreadiness, hexecuted, hne⟩ := hphases
    have hended : ReportsInit (productionRuntimeInitTelemetry failure.result)
        (failedReport config { init := productionRuntimeInitTelemetry failure.result } failure.error :
          FlowAction (RecordedHost ω) _) := reportsInit_failed rfl failure.error
    have hended := hended session True.intro
    have hleaves : Leaves [.record]
        (failedReport config { init := productionRuntimeInitTelemetry failure.result } failure.error :
          FlowAction (RecordedHost ω) _) := leaves_failedReport (by decide) failure.error
    obtain ⟨ended, session', records, hreport, htrace', hrecords⟩ := hleaves.run session
    have hlog := phaseLog_append_quiet written hrecords (by decide)
    have htrace' : sessionTrace session' = sessionTrace start ++ (written ++ records) := by
      rw [htrace', htrace, List.append_assoc]
    have hkinds' : ∀ e ∈ written ++ records, e.kind ∈ setupKinds :=
      written_append hkinds fun e he => (by decide : [EventKind.record] ⊆ setupKinds) (hrecords e he)
    rw [hreport] at hended
    dsimp only
    rcases ended with exit | report
    · rw [Action.bind_of_error hreport]
      refine ⟨.error exit, session', _, rfl, htrace', hkinds', ?_⟩
      simp only
      rw [hlog]
      exact ⟨hexecuted, hne, fun report hexit => absurd hexit (hended report)⟩
    · rw [Action.bind_of_ok hreport]
      refine ⟨.error (.report report), session', _, rfl, htrace', hkinds', ?_⟩
      simp only
      rw [hlog]
      refine ⟨hexecuted, hne, fun report' hexit => ?_⟩
      cases hexit
      have hinit : report.init = productionRuntimeInitTelemetry failure.result := hended
      rw [hinit, productionRuntimeInitTelemetry]
      simp only [hreadiness]
  · refine ⟨.ok init, session, written, rfl, htrace, hkinds, ?_⟩
    exact ⟨hphases.1, hphases.2, hrun⟩

/-- a run that is refused before its radio is initialised says so -/
theorem validateFlow_noted (start : RuntimeRadioSession (RecordedHost ω)) :
    ∃ outcome session records, validateFlow config inputs start = (outcome, session) ∧
      sessionTrace session = sessionTrace start ++ records ∧ (∀ e ∈ records, e.kind ∈ setupKinds) ∧
      phaseLog records = [] ∧ ∀ report, outcome = .error (.report report) → ReadinessTrue inputs [] report := by
  have hvalidate : Leaves [.record] (validateFlow config inputs : FlowAction (RecordedHost ω) _) :=
    leaves_validateFlow (by decide)
  obtain ⟨outcome, session, records, hrun, htrace, hrecords⟩ := hvalidate.run start
  have hreadiness := @saysInit_validateFlow _ config _ inputs start True.intro
  rw [hrun] at hreadiness
  refine ⟨outcome, session, records, hrun, htrace, ?_, phaseLog_eq_nil hrecords (by decide), ?_⟩
  · exact fun e he => (by decide : [EventKind.record] ⊆ setupKinds) (hrecords e he)
  · rintro report rfl
    rw [ReadinessTrue, hreadiness report rfl]
    exact iff_of_false nofun (not_initSucceeded_nil inputs)

/-- a run whose radio is initialised does not forget it when a later step fails -/
theorem setUpRadio_noted {procedures : CalibrationProcedures} {initInputs : ProductionRuntimeRtl8812auInitInputs}
    {init : RuntimeSameSessionInitResult} (hready : init.readiness = .ready)
    (start : RuntimeRadioSession (RecordedHost ω)) :
    ∃ outcome session work, setUpRadio procedures config inputs initInputs init start = (outcome, session) ∧
      sessionTrace session = sessionTrace start ++ work ∧ (∀ e ∈ work, e.kind ∈ setupKinds) ∧ phaseLog work = [] ∧
      ∀ report, outcome = .error (.report report) → report.init.readiness = .ready := by
  have hsetUp : Leaves [.register, .record] (setUpRadio procedures config inputs initInputs init :
      FlowAction (RecordedHost ω) _) := leaves_setUpRadio (by decide) (by decide)
  obtain ⟨outcome, session, work, hrun, htrace, hwork⟩ := hsetUp.run start
  have hreadiness := @saysInit_setUpRadio _ config _ procedures inputs initInputs init start True.intro
  rw [hrun] at hreadiness
  refine ⟨outcome, session, work, hrun, htrace, ?_, phaseLog_eq_nil hwork (by decide), ?_⟩
  · exact fun e he => (by decide : [EventKind.register, .record] ⊆ setupKinds) (hwork e he)
  · rintro report rfl
    rw [hreadiness report rfl, productionRuntimeInitTelemetry, hready]

/-- **Getting the radio ready.** When it succeeds the radio is ready; when it fails, the log of the phases and the report
agree. The steps are taken in the order of the source. -/
theorem prepareFlow_noted {procedures : CalibrationProcedures} {runPhase : InitPhaseRunner (RecordedHost ω)}
    (hregister : RegisterOnly runPhase) (start : RuntimeRadioSession (RecordedHost ω)) :
    ∃ outcome session written, prepareFlow procedures (notePhases runPhase) config inputs start = (outcome, session) ∧
      sessionTrace session = sessionTrace start ++ written ∧ (∀ e ∈ written, e.kind ∈ setupKinds) ∧
      match outcome with
      | .ok prepared => InitSucceeded inputs (phaseLog written) ∧ prepared.init.readiness = .ready ∧
          RadioReady procedures (notePhases runPhase) config inputs prepared start session
      | .error exit => InitExecuted inputs (phaseLog written) ∧
          ∀ report, exit = .report report → ReadinessTrue inputs (phaseLog written) report := by
  rw [prepareFlow]
  obtain ⟨outcome, s₀, records, hrun, htrace, hkinds, hquiet, hreport⟩ := @validateFlow_noted _ config inputs _ start
  rcases outcome with exit | validation
  · rw [Action.bind_of_error hrun]
    refine ⟨.error exit, s₀, records, rfl, htrace, hkinds, ?_⟩
    simp only
    rw [hquiet]
    exact ⟨initExecuted_nil inputs, fun report hexit => hreport report (congrArg Except.error hexit)⟩
  obtain ⟨hconfig, hinputs⟩ := validateFlow_ok hrun
  obtain ⟨initInputs, hinit⟩ := initInputs_of_validate hinputs
  rw [Action.bind_of_ok hrun, hinit]
  dsimp only
  obtain ⟨outcome, s₁, phases, hrun₁, htrace₁, hkinds₁, hradio⟩ := @initRadio_noted _ config _ _ hregister initInputs s₀
  have hlog₁ : phaseLog (records ++ phases) = phaseLog phases := by
    rw [phaseLog_append, hquiet, List.nil_append]
  have htrace₁ : sessionTrace s₁ = sessionTrace start ++ (records ++ phases) := by
    rw [htrace₁, htrace, List.append_assoc]
  have hkinds₁ := written_append hkinds hkinds₁
  rcases outcome with exit | init
  · obtain ⟨hexecuted, hne, hreport⟩ := hradio
    rw [Action.bind_of_error hrun₁]
    refine ⟨.error exit, s₁, records ++ phases, rfl, htrace₁, hkinds₁, ?_⟩
    simp only
    rw [hlog₁]
    refine ⟨?_, fun report hexit => readinessTrue_of_failed hinit hne (hreport report hexit)⟩
    rw [InitExecuted, hinit]
    exact hexecuted
  obtain ⟨hready, hsucceeded, hinitRun⟩ := hradio
  have hsucceeded : InitSucceeded inputs (phaseLog (records ++ phases)) := ⟨initInputs, hinit, hlog₁.trans hsucceeded⟩
  rw [Action.bind_of_ok hrun₁]
  obtain ⟨outcome, ready, work, hrun₂, htrace₂, hkinds₂, hquiet₂, hreport₂⟩ :=
    @setUpRadio_noted _ config inputs _ procedures initInputs init hready s₁
  have hlog₂ : phaseLog (records ++ phases ++ work) = phaseLog (records ++ phases) := by
    rw [phaseLog_append, hquiet₂, List.append_nil]
  have htrace₂ : sessionTrace ready = sessionTrace start ++ (records ++ phases ++ work) := by
    rw [htrace₂, htrace₁, List.append_assoc]
  have hkinds₂ := written_append hkinds₁ hkinds₂
  rcases outcome with exit | preLoop
  · rw [Action.bind_of_error hrun₂]
    refine ⟨.error exit, ready, records ++ phases ++ work, rfl, htrace₂, hkinds₂, ?_⟩
    simp only
    rw [hlog₂]
    refine ⟨hsucceeded.executed, fun report hexit => ?_⟩
    rw [ReadinessTrue, hreport₂ report (congrArg Except.error hexit)]
    exact iff_of_true rfl hsucceeded
  · rw [Action.bind_of_ok hrun₂]
    refine ⟨.ok { validation, init, preLoop }, ready, records ++ phases ++ work, rfl, htrace₂, hkinds₂, ?_⟩
    simp only
    rw [hlog₂]
    refine ⟨hsucceeded, hready, hconfig, hinputs, initInputs, hinit, s₀, s₁, ?_⟩
    obtain ⟨s₂, s₃, s₄, txPower, calibration, hmonitor, hpower, hcalibration, hagain⟩ := setUpRadio_ok hrun₂
    exact ⟨s₂, s₃, s₄, txPower, calibration, hrun, hinitRun, hmonitor, hpower, hcalibration,
      applyCalibration_ready hcalibration, hagain⟩

end Prepare

/-! ## The run -/

section Run

variable {ω : Type} [RuntimeHost ω] {config : ProductionRuntimeFlowConfig}
  {inputs : ProductionRuntimeFlowExecutionInputs} {procedures : CalibrationProcedures}

/-- what the run does once it has said that it is ready -/
def afterReady (config : ProductionRuntimeFlowConfig) (inputs : ProductionRuntimeFlowExecutionInputs) (fuel : ℕ)
    (prepared : PreparedFlow) : FlowAction ω ProductionRuntimeFlowReport := do
  let rxForwards ← openTraffic config prepared
  let s ← startLoop inputs prepared rxForwards
  let (loopOutcome, s) ← bridgeTraffic config inputs fuel s
  finishFlow config prepared loopOutcome s

/-- the run from a ready radio on -/
def afterPreparation (config : ProductionRuntimeFlowConfig) (inputs : ProductionRuntimeFlowExecutionInputs) (fuel : ℕ)
    (prepared : PreparedFlow) : FlowAction ω ProductionRuntimeFlowReport := do
  let prepared ← kickRx config prepared
  announceReady config prepared
  afterReady config inputs fuel prepared

theorem runFlow_eq (runPhase : InitPhaseRunner ω) (fuel : ℕ) :
    runProductionRuntimeFlowWithSession config inputs procedures runPhase fuel =
      prepareFlow procedures runPhase config inputs >>= afterPreparation config inputs fuel := by
  rw [runProductionRuntimeFlowWithSession, enterLoop, Action.bind_assoc]
  congr 1
  funext prepared
  simp only [Action.bind_assoc, afterPreparation, afterReady]
  rfl

/-- the kinds of events once the radio is ready -/
def afterKinds : List EventKind := [.register, .bulkIn, .bulkOut, .record, .readyRecord, .socket]

theorem leaves_afterReady {kinds : List EventKind} (htraffic : trafficKinds ⊆ kinds) (hsocket : .socket ∈ kinds)
    (hk : .record ∈ kinds) (fuel : ℕ) (prepared : PreparedFlow) :
    Leaves kinds (afterReady config inputs fuel prepared : FlowAction (RecordedHost ω) _) := by
  refine Emits.bind (leaves_openTraffic hsocket hk) fun rxForwards session => ?_
  have hstart : Leaves kinds (startLoop inputs prepared rxForwards : FlowAction (RecordedHost ω) _) := leaves_startLoop
  have hstarted := hstart session
  obtain ⟨s, session', hrun, hs⟩ : ∃ s session', (startLoop inputs prepared rxForwards :
      FlowAction (RecordedHost ω) _) session = (.ok s, session') ∧ loopTrace s = sessionTrace session' :=
    ⟨_, _, rfl, rfl⟩
  rw [hrun] at hstarted
  rw [Action.bind_of_ok hrun]
  have hloop := Extends.mono (leaves_bridgeTraffic config inputs fuel s session') fun e he => htraffic he
  rw [hs] at hloop
  rcases hrun' : bridgeTraffic config inputs fuel s session' with ⟨exit | ⟨loopOutcome, s'⟩, session''⟩
  · rw [hrun'] at hloop
    rw [Action.bind_of_error hrun']
    exact hstarted.trans hloop
  · rw [hrun'] at hloop
    rw [Action.bind_of_ok hrun']
    have hfinish : Leaves kinds (finishFlow config prepared loopOutcome s' : FlowAction (RecordedHost ω) _) :=
      leaves_finishFlow hk
    exact (hstarted.trans hloop).trans (hfinish session'')

theorem leaves_afterPreparation (fuel : ℕ) (prepared : PreparedFlow) :
    Leaves afterKinds (afterPreparation config inputs fuel prepared : FlowAction (RecordedHost ω) _) :=
  Emits.bind (leaves_kickRx (by decide) (by decide)) fun _ =>
    Emits.bind (leaves_announceReady (by decide) (by decide)) fun _ =>
      leaves_afterReady (by decide) (by decide) (by decide) fuel _

theorem kickRx_init {prepared prepared' : PreparedFlow} {s s' : RuntimeRadioSession ω}
    (h : kickRx config prepared s = (.ok prepared', s')) : prepared'.init = prepared.init := by
  rw [kickRx] at h
  split_ifs at h
  · cases h
    rfl
  · obtain ⟨report, s₁, _, h⟩ := Action.bind_ok h
    cases h
    rfl

theorem reportsInit_finishFlow {prepared : PreparedFlow}
    {loopOutcome : Except RuntimeRadioError ProductionRuntimeBridgeLoopOutcome} {s : FlowLoopState ω} :
    ReportsInit (productionRuntimeInitTelemetry prepared.init)
      (finishFlow config prepared loopOutcome s : FlowAction ω _) := by
  intro session _
  rcases loopOutcome with error | outcome
  · exact reportsInit_failed rfl error _ True.intro
  · exact reportsInit_fromStateWithHealth rfl _ True.intro

theorem saysInit_startLoop {init : ProductionRuntimeInitTelemetry} {prepared : PreparedFlow}
    {rxForwards : List ProductionRuntimeRxForwardRuntime} :
    SaysInit init (startLoop inputs prepared rxForwards : FlowAction ω _) :=
  .bind (Triple.ofState fun _ _ => True.intro) fun _ => .read _

/-- the loop does not end in a report -/
theorem saysInit_bridgeTraffic {init : ProductionRuntimeInitTelemetry} {fuel : ℕ} {s : FlowLoopState ω} :
    SaysInit init (bridgeTraffic config inputs fuel s) := by
  intro session _
  rw [bridgeTraffic]
  rcases runProductionBridgeLoop (flowHooks config inputs) (flowLoopConfig config) s fuel with
    running | ⟨(error | panic) | outcome, s'⟩
  · exact fun report hexit => by cases hexit
  · exact True.intro
  · exact fun report hexit => by cases hexit
  · exact True.intro

/-- a report of the run from a ready radio on repeats the result of the initialisation -/
theorem afterPreparation_init (fuel : ℕ) (prepared : PreparedFlow) :
    Triple (fun _ : RuntimeRadioSession ω => True) (afterPreparation config inputs fuel prepared)
      (fun report _ => report.init = productionRuntimeInitTelemetry prepared.init)
      fun exit _ => ∀ report, exit = .report report → report.init = productionRuntimeInitTelemetry prepared.init := by
  intro session _
  have hkick := @saysInit_kickRx _ config _ prepared session True.intro
  rw [afterPreparation]
  rcases hrun : kickRx config prepared session with ⟨exit | kicked, session'⟩
  · rw [hrun] at hkick
    rw [Action.bind_of_error hrun]
    exact hkick
  · rw [Action.bind_of_ok hrun, ← kickRx_init hrun]
    refine Triple.bind saysInit_announceReady (fun _ => Triple.bind saysInit_openTraffic fun rxForwards => ?_)
      session' True.intro
    refine Triple.bind saysInit_startLoop fun s => Triple.bind saysInit_bridgeTraffic fun loop => ?_
    exact Triple.weaken reportsInit_finishFlow (fun _ _ => True.intro) (fun _ _ h => h)
      fun exit _ h report hexit => absurd hexit (h report)

/-- **No transmission before readiness.** In every run every bulk OUT write comes after everything that makes the radio
ready has succeeded, all phases of the chosen order included. The phases that ran are a prefix of that order that stops
at the first failure, and a report of the run says `ready` exactly if all of them succeeded. -/
theorem runProductionRuntimeFlow_transmits_ready {runPhase : InitPhaseRunner (RecordedHost ω)}
    (hregister : RegisterOnly runPhase) (fuel : ℕ) (start : RuntimeRadioSession (RecordedHost ω)) :
    ∃ outcome session written,
      runProductionRuntimeFlowWithSession config inputs procedures (notePhases runPhase) fuel start = (outcome, session) ∧
      sessionTrace session = sessionTrace start ++ written ∧
      (∀ before endpoint data after, written = before ++ .usb (.bulkOut endpoint data) :: after →
        InitSucceeded inputs (phaseLog before) ∧
        ∃ prepared ready, RadioReady procedures (notePhases runPhase) config inputs prepared start ready ∧
          sessionTrace ready <+: sessionTrace start ++ before) ∧
      InitExecuted inputs (phaseLog written) ∧
      ∀ report, outcome = .ok report ∨ outcome = .error (.report report) →
        ReadinessTrue inputs (phaseLog written) report := by
  obtain ⟨outcome, ready, setup, hrun, htrace, hkinds, hprepared⟩ :=
    @prepareFlow_noted _ config inputs _ procedures _ hregister start
  have hquiet : ∀ endpoint data, RuntimeEvent.usb (.bulkOut endpoint data) ∉ setup := by
    intro endpoint data hmem
    have hkind : EventKind.bulkOut ∈ setupKinds := hkinds _ hmem
    exact absurd hkind (by decide)
  rw [runFlow_eq]
  rcases outcome with exit | prepared
  · obtain ⟨hexecuted, hreport⟩ := hprepared
    rw [Action.bind_of_error hrun]
    refine ⟨.error exit, ready, setup, rfl, htrace, ?_, hexecuted, ?_⟩
    · intro before endpoint data after hsplit
      refine absurd ?_ (hquiet endpoint data)
      rw [hsplit]
      simp
    · rintro report (hok | herror)
      · cases hok
      · cases herror
        exact hreport report rfl
  obtain ⟨hsucceeded, hready, hradio⟩ := hprepared
  rw [Action.bind_of_ok hrun]
  obtain ⟨outcome, session, traffic, hrest, htrace', htraffic⟩ :=
    (@leaves_afterPreparation _ _ config inputs fuel prepared).run ready
  have hlog := phaseLog_append_quiet setup htraffic (by decide)
  have hreports := @afterPreparation_init _ _ config inputs fuel prepared ready True.intro
  rw [hrest] at hreports ⊢
  refine ⟨outcome, session, setup ++ traffic, rfl, ?_, ?_, ?_, ?_⟩
  · rw [htrace', htrace, List.append_assoc]
  · intro before endpoint data after hsplit
    rcases List.append_eq_append_iff.1 hsplit with ⟨rest, rfl, hrest⟩ | ⟨rest, rfl, hrest⟩
    · have hkinds' : ∀ e ∈ rest, e.kind ∈ afterKinds := by
        intro e he
        refine htraffic e ?_
        rw [hrest]
        exact List.mem_append_left _ he
      refine ⟨?_, prepared, ready, hradio, ?_⟩
      · rw [phaseLog_append_quiet setup hkinds' (by decide)]
        exact hsucceeded
      · rw [htrace, ← List.append_assoc]
        exact List.prefix_append _ _
    · rcases rest with _ | ⟨e, rest⟩
      · rw [List.append_nil] at hkinds hsucceeded htrace
        refine ⟨hsucceeded, prepared, ready, hradio, ?_⟩
        rw [htrace]
      · obtain ⟨rfl, -⟩ := List.cons.inj hrest
        refine absurd ?_ (hquiet endpoint data)
        simp
  · rw [hlog]
    exact hsucceeded.executed
  · intro report hreport
    have hinit : report.init = productionRuntimeInitTelemetry prepared.init := by
      rcases hreport with rfl | rfl
      · exact hreports
      · exact hreports report rfl
    rw [hlog, ReadinessTrue, hinit, productionRuntimeInitTelemetry, hready]
    exact iff_of_true rfl hsucceeded

end Run

/-! ## A run in a world in which everything works -/

/-- an init phase that reads one register -/
def checkCrPhase {ω : Type} [Rtl8812auUsbTransport ω] : InitPhaseRunner ω := fun phase session =>
  let ((result, counters), transport) :=
    (read8WithCounter {} regCr "REG_CR" "init" session.counters).run session.transport
  let summary (status : RuntimeSameSessionInitPhaseStatus) : RuntimeSameSessionInitPhaseSummary :=
    { phase, status, detail := "REG_CR", registerWrites := none, counters }
  let session := { session with transport, counters }
  match result with
  | .ok _ => (.ok (summary .completed), session)
  | .error error => (.error ⟨summary .blocked, error⟩, session)

theorem checkCrPhase_registerOnly {ω : Type} [Rtl8812auUsbTransport ω] :
    RegisterOnly (checkCrPhase : InitPhaseRunner (RecordedHost ω)) := by
  intro phase session
  have hread : Appends [.register] (sessionTrace session) _ :=
    appends_registers (by decide) (read8WithCounter {} regCr "REG_CR" "init" session.counters) session.transport
  rw [checkCrPhase]
  rcases hrun : (read8WithCounter {} regCr "REG_CR" "init" session.counters).run session.transport with
    ⟨⟨error | value, counters⟩, transport⟩
  · rw [hrun] at hread
    exact hread
  · rw [hrun] at hread
    exact hread

def noProcedures : CalibrationProcedures where
  runRtl8812auLckCalibration _ := .fail (.new "lck" "not in use")
  runRtl8812auRuntimeIqkCalibration _ _ _ := .fail (.new "iqk" "not in use")

def sampleForwardingConfig : ProductionRuntimeFlowConfig :=
  { sampleFlowConfig ⟨36, 5180, .ghz5⟩ .mhz20 with
    durationMs := 1
    readyFile := some "ready.json"
    rxForwards := [⟨some 7, 0, some ⟨"127.0.0.1", 5800⟩⟩] }

def sampleFlowInputs : ProductionRuntimeFlowExecutionInputs where
  rtl8812auInit := some ⟨.linux, 0⟩
  txPowerControl := .manualIndex .both 0x20

def sampleSession (busy : List SocketAddr) : RuntimeRadioSession (RecordedHost WorkingHost) where
  transport := ⟨{ busy }, []⟩
  endpoints := ⟨some 0x84, some 0x05⟩
  counters := {}

/-- a run that forwards sends the kick-off frame, after everything that has to come before it -/
theorem runProductionRuntimeFlow_transmits_ready_sample :
    ((sessionTrace (runProductionRuntimeFlowWithSession sampleForwardingConfig sampleFlowInputs noProcedures
      (notePhases checkCrPhase) 5 (sampleSession [])).2).map RuntimeEvent.kind).count .bulkOut = 1 ∧
    ∃ outcome session written,
      runProductionRuntimeFlowWithSession sampleForwardingConfig sampleFlowInputs noProcedures
        (notePhases checkCrPhase) 5 (sampleSession []) = (outcome, session) ∧
      sessionTrace session = sessionTrace (sampleSession []) ++ written ∧
      (∀ before endpoint data after, written = before ++ .usb (.bulkOut endpoint data) :: after →
        InitSucceeded sampleFlowInputs (phaseLog before) ∧
        ∃ prepared ready, RadioReady noProcedures (notePhases checkCrPhase) sampleForwardingConfig sampleFlowInputs
            prepared (sampleSession []) ready ∧
          sessionTrace ready <+: sessionTrace (sampleSession []) ++ before) ∧
      InitExecuted sampleFlowInputs (phaseLog written) ∧
      ∀ report, outcome = .ok report ∨ outcome = .error (.report report) →
        ReadinessTrue sampleFlowInputs (phaseLog written) report :=
  ⟨by decide +kernel, runProductionRuntimeFlow_transmits_ready checkCrPhase_registerOnly 5 (sampleSession [])⟩

end WfbLink.Runtime
