/-
What the files of a run say about its result.

Every early end of a run is a failure, and a failed write of a file ends the run. A run that passes has therefore written
all its records, none of which says that it has failed, and a health record last of all.

- `runProductionRuntimeFlow`: the run of the thread, which opens its device first.
- `finishing_flow`: the records of a run that passes.
-/
import WfbLink.Core.Members
import WfbLink.Runtime.FlowReady

namespace WfbLink.Runtime

open WfbLink.Core WfbLink.RadioCore WfbLink.Bridge

/-! ## The run of the thread -/

/-- what comes before the session: the signal handlers, and the session itself -/
structure SessionStart (ω : Type) where
  installSignalHandlers : SessionAction ω Unit
  openSession : SessionAction ω Unit

section Thread

variable {ω : Type} [RuntimeHost ω]

def runProductionRuntimeFlow (start : SessionStart ω) (config : ProductionRuntimeFlowConfig)
    (inputs : ProductionRuntimeFlowExecutionInputs) (procedures : CalibrationProcedures) (runPhase : InitPhaseRunner ω)
    (fuel : ℕ) : FlowAction ω ProductionRuntimeFlowReport := do
  let notStarted (error : RuntimeRadioError) : FlowAction ω ProductionRuntimeFlowReport :=
    productionRuntimeReportWithHealth config (.notStarted config error) .exitedFail
  orReturn (writeHealthFromConfig config .validating) fun error => return .notStarted config error
  let _ ← checkOrReturn config.validate notStarted
  checkOrReturn inputs.validate notStarted
  orReturn (if inputs.processSignalStop then start.installSignalHandlers else return ()) notStarted
  orReturn (writeHealthFromConfig config .initializing) fun error => return .notStarted config error
  orReturn start.openSession notStarted
  runProductionRuntimeFlowWithSession config inputs procedures runPhase fuel

end Thread

/-! ## Results -/

/-- the report of a run that passed -/
def FlowExit.Passed : FlowExit → Prop
  | .report last => last.result = .pass
  | .panicked _ | .running => False

/-- a record that was written, and does not say that the run has failed -/
def RuntimeEvent.WellWritten : RuntimeEvent → Prop
  | .writeFile _ (.health record) succeeded => succeeded = true ∧ record.lifecycle ≠ .exitedFail
  | .writeFile _ (.readyMarker _) succeeded => succeeded = true
  | .usb _ | .phase _ _ | .udpBind _ _ | .spawnReceiver _ _ => True

section Records

variable {ω ε α β : Type}

/-- the records since the trace `earlier` are well written -/
def WellWritten (earlier : List RuntimeEvent) (session : RuntimeRadioSession (RecordedHost ω)) : Prop :=
  Extends RuntimeEvent.WellWritten earlier (sessionTrace session)

/-- the action does not end the run with a pass; if it returns, its records are well written -/
def Clean (earlier : List RuntimeEvent) (act : FlowAction (RecordedHost ω) α) : Prop :=
  Triple (WellWritten earlier) act (fun _ => WellWritten earlier) fun exit _ => ¬ exit.Passed

/-- the action returns the report of a failed run -/
def Failing (act : FlowAction (RecordedHost ω) ProductionRuntimeFlowReport) : Prop :=
  Triple (fun _ => True) act (fun report _ => report.result = .fail) fun exit _ => ¬ exit.Passed

variable {earlier : List RuntimeEvent} {kinds : List EventKind}

theorem wellWritten_of_kind {e : RuntimeEvent} (hrecord : e.kind ≠ .record) (hready : e.kind ≠ .readyRecord) :
    e.WellWritten := by
  cases e with
  | writeFile path content succeeded =>
    cases content with
    | readyMarker marker => exact absurd rfl hready
    | health record =>
      change healthKind record.lifecycle ≠ .record at hrecord
      change healthKind record.lifecycle ≠ .readyRecord at hready
      rw [healthKind] at hrecord hready
      split_ifs at hrecord hready <;> contradiction
  | usb _ | phase _ _ | udpBind _ _ | spawnReceiver _ _ => trivial

theorem WellWritten.appends {session session' : RuntimeRadioSession (RecordedHost ω)} (h : WellWritten earlier session)
    (hk : .record ∉ kinds ∧ .readyRecord ∉ kinds) (hlater : Appends kinds (sessionTrace session) (sessionTrace session')) :
    WellWritten earlier session' := by
  refine Extends.trans h (Extends.mono hlater fun e he => wellWritten_of_kind ?_ ?_)
  · exact fun hkind => hk.1 (hkind ▸ he)
  · exact fun hkind => hk.2 (hkind ▸ he)

/-- a step that writes no records -/
theorem silent_clean (kinds : List EventKind) {act : Action (RuntimeRadioSession (RecordedHost ω)) ε α} (hk : .record ∉ kinds ∧ .readyRecord ∉ kinds)
    (h : Leaves kinds act) : Triple (WellWritten earlier) act (fun _ => WellWritten earlier) fun _ => WellWritten earlier :=
  Within.triple (R := fun s s' => Appends kinds (sessionTrace s) (sessionTrace s')) h fun _ _ hlater hs =>
    hs.appends hk hlater

theorem Clean.bind {act : FlowAction (RecordedHost ω) α} {f : α → FlowAction (RecordedHost ω) β} (h : Clean earlier act)
    (hf : ∀ a, Clean earlier (f a)) : Clean earlier (act >>= f) := Triple.bind h hf

theorem Clean.pure (a : α) : Clean earlier (Pure.pure a : FlowAction (RecordedHost ω) α) := Triple.pure fun _ h => h

theorem clean_orReturn {step : SessionAction (RecordedHost ω) α}
    {onError : RuntimeRadioError → FlowAction (RecordedHost ω) ProductionRuntimeFlowReport}
    (hstep : Triple (WellWritten earlier) step (fun _ => WellWritten earlier) fun _ _ => True)
    (herror : ∀ error, Failing (onError error)) : Clean earlier (orReturn step onError) := by
  have hattempt : Triple (WellWritten earlier) (Action.attempt step : FlowAction (RecordedHost ω) _)
      (fun outcome session => outcome.isOk = true → WellWritten earlier session) (fun exit _ => ¬ exit.Passed) :=
    Triple.attempt (hstep.weaken (fun _ h => h) (fun _ _ h _ => h) fun _ _ _ => nofun)
  refine Triple.bind hattempt fun outcome => ?_
  rcases outcome with (error | panic) | a
  · refine Triple.bind ((herror error).weaken (fun _ _ => True.intro) (fun _ _ h => h) fun _ _ h => h) fun report => ?_
    refine Triple.fail fun _ hfail hpass => ?_
    rw [FlowExit.Passed, hfail] at hpass
    cases hpass
  · exact Triple.fail fun _ _ => id
  · exact Triple.pure fun _ h => h rfl

theorem failing_pure {report : ProductionRuntimeFlowReport} (h : report.result = .fail) :
    Failing (Pure.pure report : FlowAction (RecordedHost ω) _) := Triple.pure fun _ _ => h

variable [RuntimeHost ω] {config : ProductionRuntimeFlowConfig} {inputs : ProductionRuntimeFlowExecutionInputs}
  {procedures : CalibrationProcedures} {runPhase : InitPhaseRunner (RecordedHost ω)} {prepared : PreparedFlow}

theorem failing_reportWithHealth {report : ProductionRuntimeFlowReport} (h : report.result = .fail)
    (lifecycle : ProductionRuntimeServiceLifecycle) :
    Failing (productionRuntimeReportWithHealth config report lifecycle : FlowAction (RecordedHost ω) _) := by
  have hattempt : Triple (fun _ => True)
      (Action.attempt (writeHealthFromReport config report lifecycle) : FlowAction (RecordedHost ω) _)
      (fun _ _ => True) fun exit _ => ¬ exit.Passed := Triple.attempt Triple.trivial
  refine Triple.bind hattempt fun outcome => ?_
  rcases outcome with (error | panic) | ⟨⟩
  · exact Triple.pure fun _ _ => rfl
  · exact Triple.fail fun _ _ => id
  · exact Triple.pure fun _ _ => h

theorem failing_failedReport (state : FlowState) (error : RuntimeRadioError) :
    Failing (failedReport config state error : FlowAction (RecordedHost ω) _) :=
  Triple.bind (Q := fun report _ => report.result = .fail) (Triple.read fun _ _ => rfl) fun _ _ hfail =>
    failing_reportWithHealth hfail .exitedFail _ True.intro

/-! ## Steps that write records -/

/-- a health record that is written -/
theorem clean_serviceHealth {path : Option String} {health : ProductionRuntimeServiceHealth}
    (h : health.lifecycle ≠ .exitedFail) :
    Triple (WellWritten earlier) (writeProductionRuntimeServiceHealth path health : SessionAction (RecordedHost ω) Unit)
      (fun _ session => WellWritten earlier session ∧
        ∀ file ∈ path, .writeFile file (.health health) true ∈ sessionTrace session) fun _ _ => True := by
  intro session hs
  cases path with
  | none => exact ⟨hs, nofun⟩
  | some path =>
    rcases hwrite : writeFile session.transport path (.health health) with ⟨result, host⟩
    obtain ⟨outcome, hrun, -, herror⟩ := serviceHealth_run path health hwrite
    have htrace := writeFile_recorded hwrite
    rw [hrun]
    cases outcome with
    | error fault => exact True.intro
    | ok =>
      obtain rfl : result = .ok () := by
        by_contra hfailed
        obtain ⟨error, hfault⟩ := herror hfailed
        cases hfault
      have hafter : sessionTrace { session with transport := host } =
          sessionTrace session ++ [.writeFile path (.health health) true] := htrace
      constructor
      · change Extends _ _ _
        rw [hafter]
        exact Extends.trans hs (Extends.single _ ⟨rfl, h⟩)
      · rintro file ⟨⟩
        rw [hafter]
        exact List.mem_append_right _ (List.mem_singleton_self _)

theorem clean_unixMs : Triple (WellWritten earlier) (onHost runtimeUnixMs : SessionAction (RecordedHost ω) UInt64)
    (fun _ => WellWritten earlier) fun _ _ => True :=
  (silent_clean [] (by decide) leaves_unixMs).weaken (fun _ h => h) (fun _ _ h => h) fun _ _ _ => True.intro

theorem clean_healthFromConfig {lifecycle : ProductionRuntimeServiceLifecycle} (h : lifecycle ≠ .exitedFail) :
    Triple (WellWritten earlier) (writeHealthFromConfig config lifecycle : SessionAction (RecordedHost ω) Unit)
      (fun _ => WellWritten earlier) fun _ _ => True :=
  Triple.bind clean_unixMs fun _ => (clean_serviceHealth h).weaken (fun _ h => h) (fun _ _ h => h.1) fun _ _ h => h

theorem clean_healthFromReport {report : ProductionRuntimeFlowReport} {lifecycle : ProductionRuntimeServiceLifecycle}
    (h : lifecycle ≠ .exitedFail) :
    Triple (WellWritten earlier) (writeHealthFromReport config report lifecycle : SessionAction (RecordedHost ω) Unit)
      (fun _ session => WellWritten earlier session ∧
        ∀ file ∈ config.healthFile, ∃ record, .writeFile file record true ∈ sessionTrace session) fun _ _ => True :=
  Triple.bind clean_unixMs fun _ => (clean_serviceHealth h).weaken (fun _ h => h)
    (fun _ _ h => ⟨h.1, fun file hfile => ⟨_, h.2 file hfile⟩⟩) fun _ _ h => h

theorem clean_readyMarker (path : Option String) (marker : ProductionRuntimeReadyMarker) :
    Triple (WellWritten earlier) (writeProductionRuntimeReadyMarker path marker : SessionAction (RecordedHost ω) Unit)
      (fun _ => WellWritten earlier) fun _ _ => True := by
  intro session hs
  cases path with
  | none => exact hs
  | some path =>
    rcases hwrite : writeFile (runtimeUnixMs session.transport).2 path
      (.readyMarker { marker with readyAtUnixMs := some (runtimeUnixMs session.transport).1 }) with ⟨result, host⟩
    obtain ⟨outcome, hrun, -, herror⟩ := readyMarker_run path marker rfl hwrite
    have htrace := writeFile_recorded hwrite
    rw [hrun]
    cases outcome with
    | error fault => exact True.intro
    | ok =>
      obtain rfl : result = .ok () := by
        by_contra hfailed
        obtain ⟨error, hfault⟩ := herror hfailed
        cases hfault
      change Extends _ _ host.events
      rw [htrace]
      exact Extends.trans hs (Extends.single _ rfl)

/-! ## A run that passes -/

omit [RuntimeHost ω] in
theorem clean_of_leaves (kinds : List EventKind) {α : Type} {step : SessionAction (RecordedHost ω) α} (hk : .record ∉ kinds ∧ .readyRecord ∉ kinds)
    (h : Leaves kinds step) :
    Triple (WellWritten earlier) step (fun _ => WellWritten earlier) fun _ _ => True :=
  (silent_clean kinds hk h).weaken (fun _ h => h) (fun _ _ h => h) fun _ _ _ => True.intro

omit [RuntimeHost ω] in
theorem clean_check {α : Type} {check : Except RuntimeRadioError α}
    {onError : RuntimeRadioError → FlowAction (RecordedHost ω) ProductionRuntimeFlowReport}
    (herror : ∀ error, Failing (onError error)) :
    Clean earlier (checkOrReturn check onError : FlowAction (RecordedHost ω) α) :=
  clean_orReturn (clean_of_leaves [] (by decide) (Emits.ofExcept _)) herror

theorem clean_validateFlow : Clean earlier (validateFlow config inputs : FlowAction (RecordedHost ω) _) := by
  have hnotStarted (error : RuntimeRadioError) : Failing (productionRuntimeReportWithHealth config
      (.notStarted config error) .exitedFail : FlowAction (RecordedHost ω) _) := failing_reportWithHealth rfl _
  refine (clean_orReturn (clean_healthFromConfig (by decide)) fun _ => failing_pure rfl).bind fun _ => ?_
  refine (clean_check hnotStarted).bind fun validation => (clean_check hnotStarted).bind fun _ => ?_
  exact (clean_orReturn (clean_healthFromConfig (by decide)) fun _ => failing_pure rfl).bind fun _ => .pure validation

theorem clean_initRadio (hregister : RegisterOnly runPhase) (initInputs : ProductionRuntimeRtl8812auInitInputs) :
    Clean earlier (initRadio runPhase config initInputs : FlowAction (RecordedHost ω) _) := by
  have hinit : Triple (WellWritten earlier) (runRtl8812auSameSessionInit runPhase (initConfig config initInputs))
      (fun _ => WellWritten earlier) fun _ => WellWritten earlier :=
    silent_clean [.register] (by decide) (leaves_sameSessionInit hregister _)
  have hattempt : Triple (WellWritten earlier) (Action.attempt (runRtl8812auSameSessionInit runPhase
      (initConfig config initInputs)) : FlowAction (RecordedHost ω) _) (fun _ => WellWritten earlier)
      (fun exit _ => ¬ exit.Passed) := Triple.attempt hinit
  refine Triple.bind hattempt fun outcome => ?_
  rcases outcome with failure | init
  · refine Triple.bind ((failing_failedReport _ failure.error).weaken (fun _ _ => True.intro) (fun _ _ h => h)
      fun _ _ h => h) fun report => Triple.fail fun _ hfail hpass => ?_
    rw [FlowExit.Passed, hfail] at hpass
    cases hpass
  · exact Triple.pure fun _ h => h

theorem clean_setUpRadio (initInputs : ProductionRuntimeRtl8812auInitInputs) (init : RuntimeSameSessionInitResult) :
    Clean earlier (setUpRadio procedures config inputs initInputs init : FlowAction (RecordedHost ω) _) := by
  have hstep {α : Type} (action : RegisterAction α) (state : FlowState) :
      Clean earlier (orReturn (onRegisters action) (failedReport config state) : FlowAction (RecordedHost ω) α) :=
    clean_orReturn (clean_of_leaves [.register] (by decide) (leaves_onRegisters (by decide) action))
      (failing_failedReport state)
  refine (hstep _ _).bind fun _ => (hstep _ _).bind fun power => (hstep _ _).bind fun calibration => ?_
  dsimp only
  split_ifs
  · exact (hstep _ _).bind fun _ => .pure _
  · exact .pure _

theorem clean_prepareFlow (hregister : RegisterOnly runPhase) :
    Clean earlier (prepareFlow procedures runPhase config inputs : FlowAction (RecordedHost ω) _) := by
  refine clean_validateFlow.bind fun validation => ?_
  rcases inputs.rtl8812auInit with _ | initInputs
  · exact Triple.fail fun _ _ h => h
  · exact (clean_initRadio hregister initInputs).bind fun init => (clean_setUpRadio initInputs init).bind fun _ => .pure _

theorem clean_kickRx : Clean earlier (kickRx config prepared : FlowAction (RecordedHost ω) _) := by
  rw [kickRx]
  split_ifs
  · exact .pure _
  · refine (clean_orReturn (clean_of_leaves [.bulkOut] (by decide) (leaves_startupKick (by decide)))
      (failing_failedReport _)).bind fun _ => .pure _

theorem clean_announceReady : Clean earlier (announceReady config prepared : FlowAction (RecordedHost ω) _) := by
  have hread : Clean earlier (productionRuntimeFlowReportFromState config prepared.state "ready"
      (.idle config.airtimeSchedule) .pass none : FlowAction (RecordedHost ω) _) := Triple.read fun _ h => h
  refine (clean_orReturn (clean_readyMarker _ _) (failing_failedReport _)).bind fun _ => hread.bind fun report => ?_
  refine clean_orReturn ((clean_healthFromReport (by decide)).weaken (fun _ h => h) (fun _ _ h => h.1) fun _ _ h => h)
    fun error => ?_
  exact Triple.read fun _ _ => rfl

theorem clean_openTraffic : Clean earlier (openTraffic config prepared : FlowAction (RecordedHost ω) _) :=
  (clean_orReturn (clean_of_leaves [.socket] (by decide) (leaves_bindSockets (by decide) _ _ _))
      (failing_failedReport _)).bind fun _ =>
    (clean_orReturn (clean_of_leaves [.socket] (by decide) (leaves_spawnReceivers (by decide) _ _))
      (failing_failedReport _)).bind fun _ =>
    clean_orReturn (clean_of_leaves [.socket] (by decide) (leaves_createForwards (by decide) _))
      (failing_failedReport _)

/-- what the files say after a run that passed -/
structure PassRecorded (config : ProductionRuntimeFlowConfig) (earlier : List RuntimeEvent)
    (session : RuntimeRadioSession (RecordedHost ω)) : Prop where
  wellWritten : WellWritten earlier session
  written : ∀ file ∈ config.healthFile, ∃ record, .writeFile file record true ∈ sessionTrace session

/-- the last part of a run: a pass is recorded -/
def Finishing (config : ProductionRuntimeFlowConfig) (earlier : List RuntimeEvent)
    (act : FlowAction (RecordedHost ω) ProductionRuntimeFlowReport) : Prop :=
  Triple (WellWritten earlier) act (fun report session => report.result = .pass → PassRecorded config earlier session)
    fun exit _ => ¬ exit.Passed

omit [RuntimeHost ω] in
theorem Clean.finishing {act : FlowAction (RecordedHost ω) α}
    {f : α → FlowAction (RecordedHost ω) ProductionRuntimeFlowReport} (h : Clean earlier act)
    (hf : ∀ a, Finishing config earlier (f a)) : Finishing config earlier (act >>= f) := Triple.bind h hf

theorem finishing_passedReport (state : FlowState) (stopReason : String) (airtime : ProductionRuntimeAirtimeReport) :
    Finishing config earlier (productionRuntimeFlowReportFromStateWithHealth config state stopReason airtime .pass none :
      FlowAction (RecordedHost ω) _) := by
  refine Triple.bind (Q := fun _ => WellWritten earlier) (Triple.read fun _ h => h) fun report => ?_
  have hattempt : Triple (WellWritten earlier)
      (Action.attempt (writeHealthFromReport config report .exitedPass) : FlowAction (RecordedHost ω) _)
      (fun outcome session => outcome.isOk = true → PassRecorded config earlier session) (fun exit _ => ¬ exit.Passed) :=
    Triple.attempt ((clean_healthFromReport (by decide)).weaken (fun _ h => h) (fun _ _ h _ => ⟨h.1, h.2⟩)
      fun _ _ _ => nofun)
  refine Triple.bind hattempt fun outcome => ?_
  rcases outcome with (error | panic) | ⟨⟩
  · exact Triple.pure fun _ _ => nofun
  · exact Triple.fail fun _ _ h => h
  · exact Triple.pure fun _ h _ => h rfl

theorem finishing_finishFlow (loopOutcome : Except RuntimeRadioError ProductionRuntimeBridgeLoopOutcome)
    (s : FlowLoopState (RecordedHost ω)) :
    Finishing config earlier (finishFlow config prepared loopOutcome s : FlowAction (RecordedHost ω) _) := by
  have hingress : Clean earlier (onHost ingressTelemetry : FlowAction (RecordedHost ω) _) := Triple.ofState fun _ h => h
  refine hingress.finishing fun ingress => ?_
  rcases loopOutcome with error | outcome
  · refine (failing_failedReport _ error).weaken (fun _ _ => True.intro) (fun report _ hfail hpass => ?_) fun _ _ h => h
    rw [hfail] at hpass
    cases hpass
  · exact finishing_passedReport _ _ _

/-- the loop starts with the records so far -/
theorem clean_startLoop (rxForwards : List ProductionRuntimeRxForwardRuntime) :
    Triple (WellWritten earlier) (startLoop inputs prepared rxForwards : FlowAction (RecordedHost ω) _)
      (fun s _ => Extends RuntimeEvent.WellWritten earlier (loopTrace s)) fun exit _ => ¬ exit.Passed := by
  have hclock : Clean earlier (onHost instantNow : FlowAction (RecordedHost ω) ℕ) := Triple.ofState fun _ h => h
  exact Triple.bind hclock fun now => Triple.read fun _ h => h

/-- the loop writes no records, and does not end the run with a report -/
theorem clean_bridgeTraffic (fuel : ℕ) (s : FlowLoopState (RecordedHost ω)) :
    Triple (fun _ => Extends RuntimeEvent.WellWritten earlier (loopTrace s))
      (bridgeTraffic config inputs fuel s : FlowAction (RecordedHost ω) _) (fun _ => WellWritten earlier)
      fun exit _ => ¬ exit.Passed := by
  intro session hs
  have htrace := leaves_bridgeTraffic config inputs fuel s session
  have hbefore : WellWritten earlier s.session := hs
  have hkeeps : WellWritten earlier (bridgeTraffic config inputs fuel s session).2 :=
    hbefore.appends (by decide) htrace
  revert hkeeps
  rw [bridgeTraffic]
  rcases runProductionBridgeLoop (flowHooks config inputs) (flowLoopConfig config) s fuel with
    running | ⟨(error | panic) | outcome, s'⟩
  · exact fun _ => id
  · exact id
  · exact fun _ => id
  · exact id

theorem finishing_afterReady (fuel : ℕ) :
    Finishing config earlier (afterReady config inputs fuel prepared : FlowAction (RecordedHost ω) _) := by
  refine clean_openTraffic.finishing fun rxForwards => ?_
  exact Triple.bind (clean_startLoop rxForwards) fun s => Triple.bind (clean_bridgeTraffic fuel s) fun outcome =>
    finishing_finishFlow _ _

theorem finishing_flowWithSession (hregister : RegisterOnly runPhase) (fuel : ℕ) :
    Finishing config earlier (runProductionRuntimeFlowWithSession config inputs procedures runPhase fuel :
      FlowAction (RecordedHost ω) _) := by
  rw [runFlow_eq]
  refine (clean_prepareFlow hregister).finishing fun prepared => ?_
  exact clean_kickRx.finishing fun prepared => clean_announceReady.finishing fun _ => finishing_afterReady fuel

/-- a start that writes no files -/
structure SilentStart (start : SessionStart (RecordedHost ω)) : Prop where
  handlers : Leaves [.register] start.installSignalHandlers
  session : Leaves [.register] start.openSession

/-- **The records of a run that passes.** -/
theorem finishing_flow {start : SessionStart (RecordedHost ω)} (hstart : SilentStart start)
    (hregister : RegisterOnly runPhase) (fuel : ℕ) :
    Finishing config earlier (runProductionRuntimeFlow start config inputs procedures runPhase fuel :
      FlowAction (RecordedHost ω) _) := by
  have hnotStarted (error : RuntimeRadioError) : Failing (productionRuntimeReportWithHealth config
      (.notStarted config error) .exitedFail : FlowAction (RecordedHost ω) _) := failing_reportWithHealth rfl _
  have hhandlers : Triple (WellWritten earlier)
      (if inputs.processSignalStop then start.installSignalHandlers else return () : SessionAction (RecordedHost ω) Unit)
      (fun _ => WellWritten earlier) fun _ _ => True := by
    split_ifs
    · exact clean_of_leaves [.register] (by decide) hstart.handlers
    · exact Triple.pure fun _ h => h
  refine (clean_orReturn (clean_healthFromConfig (by decide)) fun _ => failing_pure rfl).finishing fun _ => ?_
  refine (clean_check hnotStarted).finishing fun validation => (clean_check hnotStarted).finishing fun _ => ?_
  refine (clean_orReturn hhandlers hnotStarted).finishing fun _ => ?_
  refine (clean_orReturn (clean_healthFromConfig (by decide)) fun _ => failing_pure rfl).finishing fun _ => ?_
  refine (clean_orReturn (clean_of_leaves [.register] (by decide) hstart.session) hnotStarted).finishing fun _ => ?_
  exact finishing_flowWithSession hregister fuel

end Records

end WfbLink.Runtime
