/-
A run of the production runtime on an open session (`run_production_runtime_flow_with_session`).

The run is cut where the source has its early returns: `prepareFlow` gets the radio ready, `announceReady` tells the
outside, `openTraffic` opens the sockets, and then comes the bridge loop. An early return ends the run with a report;
a panic ends it without one, in the state before the call that panicked.
-/
import WfbLink.Runtime.FlowSteps

namespace WfbLink.Runtime

open WfbLink.Core WfbLink.RadioCore WfbLink.Bridge

/-- how a run ends before its last report -/
inductive FlowExit where
  | report (report : ProductionRuntimeFlowReport)
  | panicked (panic : Panic)
  /-- not ended yet: the loop is still running -/
  | running

abbrev FlowAction (ω α : Type) : Type := Action (RuntimeRadioSession ω) FlowExit α

section Flow

variable {ω α : Type} [RuntimeHost ω]

/-! ## Reports -/

def productionRuntimeReportWithHealth (config : ProductionRuntimeFlowConfig) (report : ProductionRuntimeFlowReport)
    (lifecycle : ProductionRuntimeServiceLifecycle) : FlowAction ω ProductionRuntimeFlowReport := do
  match ← Action.attempt (writeHealthFromReport config report lifecycle) with
  | .ok () => return report
  | .error (.failed error) => return { report with result := .fail, error := some error }
  | .error (.panicked panic) => Action.fail (.panicked panic)

/-- the endpoints and the counters of a report are those of the session -/
def productionRuntimeFlowReportFromState (config : ProductionRuntimeFlowConfig) (state : FlowState)
    (stopReason : String) (airtime : ProductionRuntimeAirtimeReport) (result : ProductionRuntimeFlowResult)
    (error : Option RuntimeRadioError) : FlowAction ω ProductionRuntimeFlowReport :=
  Action.read fun session =>
    .fromState config { state with endpoints := some session.endpoints, counters := session.counters } stopReason airtime
      result error

def productionRuntimeFlowReportFromStateWithHealth (config : ProductionRuntimeFlowConfig) (state : FlowState)
    (stopReason : String) (airtime : ProductionRuntimeAirtimeReport) (result : ProductionRuntimeFlowResult)
    (error : Option RuntimeRadioError) : FlowAction ω ProductionRuntimeFlowReport := do
  let report ← productionRuntimeFlowReportFromState config state stopReason airtime result error
  productionRuntimeReportWithHealth config report (match result with
    | .pass => .exitedPass
    | .fail => .exitedFail)

/-- the report of a run that fails before its loop has stopped -/
def failedReport (config : ProductionRuntimeFlowConfig) (state : FlowState) (error : RuntimeRadioError) :
    FlowAction ω ProductionRuntimeFlowReport :=
  productionRuntimeFlowReportFromStateWithHealth config state "not_started" (.idle config.airtimeSchedule) .fail
    (some error)

/-- a step whose error makes the run return a report -/
def orReturn (step : SessionAction ω α) (onError : RuntimeRadioError → FlowAction ω ProductionRuntimeFlowReport) :
    FlowAction ω α := do
  match ← Action.attempt step with
  | .ok a => return a
  | .error (.failed error) =>
    let report ← onError error
    Action.fail (.report report)
  | .error (.panicked panic) => Action.fail (.panicked panic)

/-- a pure check whose error makes the run return a report -/
def checkOrReturn (check : Except RuntimeRadioError α)
    (onError : RuntimeRadioError → FlowAction ω ProductionRuntimeFlowReport) : FlowAction ω α :=
  orReturn (Action.ofExcept (check.mapError .failed)) onError

/-! ## Up to a ready radio -/

section Setup

variable (procedures : CalibrationProcedures) (runPhase : InitPhaseRunner ω) (config : ProductionRuntimeFlowConfig)
  (inputs : ProductionRuntimeFlowExecutionInputs)

/-- what the run knows once the radio is ready -/
structure PreparedFlow where
  validation : ProductionRuntimeFlowValidation
  init : RuntimeSameSessionInitResult
  preLoop : ProductionRuntimePreLoopReports

def PreparedFlow.state (prepared : PreparedFlow) : FlowState where
  init := productionRuntimeInitTelemetry prepared.init
  preLoop := prepared.preLoop

/-- the checks, with the health records around them -/
def validateFlow : FlowAction ω ProductionRuntimeFlowValidation := do
  orReturn (writeHealthFromConfig config .validating) fun error => return .notStarted config error
  let validation ← checkOrReturn config.validate fun error =>
    productionRuntimeReportWithHealth config (.notStarted config error) .exitedFail
  checkOrReturn inputs.validate fun error =>
    productionRuntimeReportWithHealth config (.notStarted config error) .exitedFail
  orReturn (writeHealthFromConfig config .initializing) fun error => return .notStarted config error
  return validation

def initConfig (initInputs : ProductionRuntimeRtl8812auInitInputs) : RuntimeSameSessionInitConfig where
  initOrder := initInputs.initOrder
  channel := config.channel
  bandwidth := config.bandwidth
  rfeType := initInputs.rfeType
  txCalibrationProfile := config.calibrationProfile
  liveWriteAuthorized := config.liveRegisterWriteAuthorized
  capturedTailApplied := config.capturedTailApplied

def initRadio (initInputs : ProductionRuntimeRtl8812auInitInputs) : FlowAction ω RuntimeSameSessionInitResult := do
  match ← Action.attempt (runRtl8812auSameSessionInit runPhase (initConfig config initInputs)) with
  | .ok init => return init
  | .error failure =>
    let report ← failedReport config { init := productionRuntimeInitTelemetry failure.result } failure.error
    Action.fail (.report report)

/-- monitor opmode, TX power, calibration, and TX power once more where both are in use -/
def setUpRadio (initInputs : ProductionRuntimeRtl8812auInitInputs) (init : RuntimeSameSessionInitResult) :
    FlowAction ω ProductionRuntimePreLoopReports := do
  let failed (preLoop : ProductionRuntimePreLoopReports) :=
    failedReport config { init := productionRuntimeInitTelemetry init, preLoop }
  orReturn (onRegisters applyProductionRuntimeMonitorOpmode) (failed {})
  let preLoop : ProductionRuntimePreLoopReports := { monitorOpmodeApplied := true }
  let txPowerControl ← orReturn (onRegisters (applyProductionRuntimeTxPowerControl inputs.txPowerControl))
    (failed preLoop)
  let preLoop := { preLoop with txPowerControl }
  let txCalibrationProfile ← orReturn
    (onRegisters (applyProductionRuntimeTxCalibrationProfile procedures config initInputs.rfeType)) (failed preLoop)
  let preLoop := { preLoop with txCalibrationProfile }
  if preLoop.txPowerControl.isSome && preLoop.txCalibrationProfile.isSome then
    let txPowerControl ← orReturn (onRegisters (applyProductionRuntimeTxPowerControl inputs.txPowerControl))
      (failed preLoop)
    return { preLoop with txPowerControl }
  else return preLoop

def prepareFlow : FlowAction ω PreparedFlow := do
  let validation ← validateFlow config inputs
  match inputs.rtl8812auInit with
  | none => Action.fail (.panicked (.expectFailed "validated production runtime inputs include init assets"))
  | some initInputs =>
    let init ← initRadio runPhase config initInputs
    let preLoop ← setUpRadio procedures config inputs initInputs init
    return { validation, init, preLoop }

end Setup

/-! ## Up to the loop -/

variable (config : ProductionRuntimeFlowConfig)

/-- the kick-off frame, sent where there is something to forward -/
def kickRx (prepared : PreparedFlow) : FlowAction ω PreparedFlow := do
  if prepared.validation.wfbLoop.rxForwards.isEmpty then return prepared
  else
    let report ← orReturn (applyProductionRuntimeRxStartupKick config) (failedReport config prepared.state)
    return { prepared with preLoop := { prepared.preLoop with rxStartupKick := some report } }

/-- the ready marker, then the health record that says `ready` -/
def announceReady (prepared : PreparedFlow) : FlowAction ω Unit := do
  orReturn (writeProductionRuntimeReadyMarker config.readyFile
    (productionRuntimeReadyMarker config prepared.validation prepared.init prepared.preLoop))
    (failedReport config prepared.state)
  let readyReport ← productionRuntimeFlowReportFromState config prepared.state "ready" (.idle config.airtimeSchedule)
    .pass none
  orReturn (writeHealthFromReport config readyReport .ready) fun error =>
    productionRuntimeFlowReportFromState config prepared.state "not_started" (.idle config.airtimeSchedule) .fail
      (some error)

/-- the ingress sockets and their receivers, then the sockets of the RX forwards -/
def openTraffic (prepared : PreparedFlow) : FlowAction ω (List ProductionRuntimeRxForwardRuntime) := do
  let txSockets ← orReturn
    (bindProductionTxIngressSockets productionTxSocketRcvbufBytes 0 prepared.validation.wfbLoop.txBindAddrs)
    (failedReport config prepared.state)
  orReturn (spawnProductionTxIngressReceivers productionTxReceiveTimeout txSockets) (failedReport config prepared.state)
  orReturn (createProductionRxForwardRuntimes prepared.validation.wfbLoop.rxForwards)
    (failedReport config prepared.state)

/-! ## The loop -/

theorem rxBuf_le_isizeMax : 16 * 1024 ≤ isizeMax := by decide

/-- what the closures of the loop share -/
structure FlowLoopState (ω : Type) where
  session : RuntimeRadioSession ω
  heartbeat : LedHeartbeat
  rx : RuntimeFlowRxTelemetry := {}
  tx : RuntimeFlowTxTelemetry
  bridgeCounters : TxCounters := {}
  submitCounters : TxSubmitCounters := {}
  rxForwards : List ProductionRuntimeRxForwardRuntime
  rxBuf : ByteBuf (16 * 1024) := .zeroed (16 * 1024) rxBuf_le_isizeMax

def FlowLoopState.withTransport (s : FlowLoopState ω) (transport : ω) : FlowLoopState ω :=
  { s with session := { s.session with transport } }

def onTransport (f : ω → α × ω) (s : FlowLoopState ω) : α × FlowLoopState ω :=
  ((f s.session.transport).1, s.withTransport (f s.session.transport).2)

variable (inputs : ProductionRuntimeFlowExecutionInputs)

/-- a flag that is not in use is not looked at -/
def flowStopRequested (host : ω) : Bool × ω :=
  let (signalled, host) := if inputs.processSignalStop then processStopRequested host else (false, host)
  if signalled then (true, host)
  else if inputs.hasExternalStop then externalStopRequested host
  else (false, host)

def runHeartbeat (toggle : LedHeartbeat → RegisterProgram LedHeartbeat) (s : FlowLoopState ω) : FlowLoopState ω :=
  let (heartbeat, transport) := (toggle s.heartbeat).run s.session.transport
  { s.withTransport transport with heartbeat }

abbrev StepResult (ω : Type) : Type := Except FlowFault ProductionRuntimeBridgeLoopStepOutcome × FlowLoopState ω

/-- what a handled datagram leaves in the telemetry; only a failed submission has failed -/
def recordTx (s : FlowLoopState ω) (tx : RuntimeFlowTxTelemetry) (reportIndex : ℕ) (handled : HandledDatagram ω) :
    FlowLoopState ω :=
  let s := { s with session := handled.session }
  match handled.result with
  | .ok outcome =>
    let (tx, transport) := applyProductionRuntimeTxBindOutcome tx reportIndex outcome.metadata.isSome false
      outcome.metadata.isNone s.session.transport
    let tx := observeProductionRuntimeTxMetadata tx outcome.metadata
    { s.withTransport transport with
      bridgeCounters := outcome.bridgeCounters
      submitCounters := outcome.submitCounters
      tx := applyProductionRuntimeTxTelemetry tx outcome.bridgeCounters outcome.submitCounters }
  | .error error =>
    let (tx, transport) := applyProductionRuntimeTxBindOutcome tx reportIndex false true true s.session.transport
    let tx := observeProductionRuntimeTxMetadata tx error.metadata
    { s.withTransport transport with
      bridgeCounters := error.bridgeCounters
      submitCounters := error.submitCounters
      tx := applyProductionRuntimeTxTelemetry tx error.bridgeCounters error.submitCounters }

def handleTryTx (s : FlowLoopState ω) : StepResult ω :=
  match onTransport tryRecv s with
  | (.error .empty, s) => (.ok .txEmpty, s)
  | (.error .disconnected, s) => (.ok .txDisconnected, s)
  | (.ok queued, s) =>
    let tx := { s.tx with datagramsReceived := satAdd s.tx.datagramsReceived 1 }
    let tx := applyProductionRuntimeTxBindDatagram tx queued.reportIndex
    match handleProductionBridgeTxDatagram s.session queued ⟨config.channel, config.bandwidth, {}⟩ s.bridgeCounters
      s.submitCounters with
    | .error panic => (.error (.panicked panic), s)
    | .ok handled => (.ok .txProcessed, recordTx s tx queued.reportIndex handled)

def RuntimeFlowRxTelemetry.withForwards (rx : RuntimeFlowRxTelemetry)
    (rxForwards : List ProductionRuntimeRxForwardSnapshot) : RuntimeFlowRxTelemetry :=
  { rx with rxForwards, forwardedPayloads := Runtime.forwardedPayloads rxForwards }

/-- the packets of a read that was not empty -/
def handleRxPackets (s : FlowLoopState ω) (packets : List ParsedRxPacket) : StepResult ω :=
  match processProductionRxPacketOutcomes packets s.rxForwards s.session.transport with
  | .error panic => (.error (.panicked panic), s)
  | .ok (.error error, rxForwards, transport) =>
    (.error (.failed error), { s.withTransport transport with rxForwards })
  | .ok (.ok outcome, rxForwards, transport) =>
    let rx := applyProductionRuntimeRxPacketTelemetry s.rx outcome.telemetry
    let rx := { rx.withForwards outcome.rxForwards with lastRxUnixMs := latestRxUnixMs outcome.rxForwards }
    (.ok .rxRead, { s.withTransport transport with rx, rxForwards })

def handleReadRx (timeout : ℕ) (s : FlowLoopState ω) : StepResult ω :=
  match readRxPackets s.session config.channel s.rxBuf timeout with
  | .error panic => (.error (.panicked panic), s)
  | .ok (.ok read, rxBuf, session) =>
    let s := { s with session, rxBuf, rx := { s.rx with buffersRead := satAdd s.rx.buffersRead 1 } }
    if read.bytesRead = 0 then (.ok .rxRead, s) else handleRxPackets s read.packets
  | .ok (.error error, rxBuf, session) =>
    let s := { s with session, rxBuf }
    if error.timeout then
      (.ok .rxTimeout, { s with rx := { s.rx with readTimeouts := satAdd s.rx.readTimeouts 1 } })
    else
      match onTransport (flowStopRequested inputs) s with
      | (true, s) => (.ok (.stop .signal), s)
      | (false, s) => (.error (.failed error), s)

def flowHooks : BridgeLoopHooks (FlowLoopState ω) FlowFault where
  instantNow := onTransport instantNow
  onIterationStart now := runHeartbeat fun heartbeat => heartbeat.maybeToggle now
  stopRequested := onTransport (flowStopRequested inputs)
  handleStep
    | .tryTx => handleTryTx config
    | .readRx timeout => handleReadRx config inputs timeout

def flowLoopConfig : ProductionRuntimeBridgeLoopRunConfig :=
  ((ProductionRuntimeBridgeLoopRunConfig.fromBounds config.durationMs config.rxTimeoutMs config.txBurstLimit
    config.maxDatagrams.toUInt64).withTxMinInterval config.txMinIntervalUs).withAirtimeSchedule config.airtimeSchedule

/-- the variables of the loop, in front of it -/
def startLoop (prepared : PreparedFlow) (rxForwards : List ProductionRuntimeRxForwardRuntime) :
    FlowAction ω (FlowLoopState ω) := do
  let started ← onHost instantNow
  Action.read fun session =>
    { session
      heartbeat := .new inputs.heartbeatLed started
      tx := { txBinds := productionRuntimeTxBindTelemetry prepared.validation.wfbLoop.txBindAddrs }
      rxForwards }

/-- the loop, and the LED off after it; a panic leaves the LED alone -/
def bridgeTraffic (fuel : ℕ) (s : FlowLoopState ω) :
    FlowAction ω (Except RuntimeRadioError ProductionRuntimeBridgeLoopOutcome × FlowLoopState ω) := fun _ =>
  match runProductionBridgeLoop (flowHooks config inputs) (flowLoopConfig config) s fuel with
  | .running s => (.error .running, s.host.session)
  | .stopped (.error (.panicked panic), s) => (.error (.panicked panic), s.session)
  | .stopped (.error (.failed error), s) =>
    let s := runHeartbeat LedHeartbeat.turnOff s
    (.ok (.error error, s), s.session)
  | .stopped (.ok outcome, s) =>
    let s := runHeartbeat LedHeartbeat.turnOff s
    (.ok (.ok outcome, s), s.session)

/-! ## The last report -/

def ProductionRuntimeBridgeLoopStopReason.asStr : ProductionRuntimeBridgeLoopStopReason → String
  | .signal => "signal"
  | .durationElapsed => "duration_elapsed"
  | .txDatagramLimit => "tx_datagram_limit"

def finishFlow (prepared : PreparedFlow) (loopOutcome : Except RuntimeRadioError ProductionRuntimeBridgeLoopOutcome)
    (s : FlowLoopState ω) : FlowAction ω ProductionRuntimeFlowReport := do
  let rx := s.rx.withForwards (productionRxForwardSnapshots s.rxForwards)
  let ingress ← onHost ingressTelemetry
  let tx := applyProductionRuntimeTxTelemetry s.tx s.bridgeCounters s.submitCounters
  let tx := applyProductionRuntimeTxIngressTelemetry tx ingress
  let state := { prepared.state with heartbeatLed := some (heartbeatLedReport s.heartbeat), rx, tx }
  match loopOutcome with
  | .error error => failedReport config state error
  | .ok loopOutcome =>
    productionRuntimeFlowReportFromStateWithHealth config state loopOutcome.stopReason.asStr
      { schedule := config.airtimeSchedule
        txAllowedIterations := loopOutcome.airtimeTxAllowedIterations
        txGatedIterations := loopOutcome.airtimeTxGatedIterations } .pass none

/-! ## The run -/

/-- everything before the loop -/
def enterLoop (procedures : CalibrationProcedures) (runPhase : InitPhaseRunner ω) :
    FlowAction ω (PreparedFlow × FlowLoopState ω) := do
  let prepared ← prepareFlow procedures runPhase config inputs
  let prepared ← kickRx config prepared
  announceReady config prepared
  let rxForwards ← openTraffic config prepared
  let s ← startLoop inputs prepared rxForwards
  return (prepared, s)

def runProductionRuntimeFlowWithSession (procedures : CalibrationProcedures) (runPhase : InitPhaseRunner ω)
    (fuel : ℕ) : FlowAction ω ProductionRuntimeFlowReport := do
  let (prepared, s) ← enterLoop config inputs procedures runPhase
  let (loopOutcome, s) ← bridgeTraffic config inputs fuel s
  finishFlow config prepared loopOutcome s

end Flow

end WfbLink.Runtime
