/-
What a run of the production runtime reports: telemetry, the flow report, the service health record and the ready
marker (`wfb-radio-runtime/src/lib.rs`).
-/
import WfbLink.Runtime.LedHeartbeat
import WfbLink.Runtime.RadioSetup
import WfbLink.Runtime.SameSessionInit

namespace WfbLink.Runtime

open WfbLink.Core WfbLink.RadioCore WfbLink.Bridge

/-! ## Merging -/

def mergeRuntimeWfbChannelObservations (target source : List RuntimeWfbChannelObservation) :
    List RuntimeWfbChannelObservation :=
  source.foldl (fun target observation => addWfbChannelObservation target observation observation.count) target

def RuntimeRxSignalMetric.merge (metric other : RuntimeRxSignalMetric) : RuntimeRxSignalMetric :=
  if other.sampleCount = 0 then metric
  else
    let sampleCount := satAdd metric.sampleCount other.sampleCount
    let sum := satAddI64 metric.sum other.sum
    { sampleCount
      sum
      min := match metric.min, other.min with
        | some left, some right => some (if right < left then right else left)
        | none, some right => some right
        | left, none => left
      max := match metric.max, other.max with
        | some left, some right => some (if left < right then right else left)
        | none, some right => some right
        | left, none => left
      average := some (roundedAverageI64 sum sampleCount) }

def RuntimeRxSignalSummary.merge (summary other : RuntimeRxSignalSummary) : RuntimeRxSignalSummary where
  rssiDbm := summary.rssiDbm.merge other.rssiDbm
  snrDb := summary.snrDb.merge other.snrDb
  noiseDbm := summary.noiseDbm.merge other.noiseDbm

/-! ## RX telemetry -/

structure RuntimeFlowRxTelemetry where
  buffersRead : UInt64 := 0
  readTimeouts : UInt64 := 0
  parsedFrames : UInt64 := 0
  phyStatusFrames : UInt64 := 0
  rssiValidFrames : UInt64 := 0
  snrFrames : UInt64 := 0
  noiseFrames : UInt64 := 0
  signal : RuntimeRxSignalSummary := {}
  forwardedPayloads : UInt64 := 0
  rxForwards : List ProductionRuntimeRxForwardSnapshot := []
  droppedPackets : UInt64 := 0
  needMoreData : UInt64 := 0
  managementFrames : UInt64 := 0
  controlFrames : UInt64 := 0
  dataFrames : UInt64 := 0
  extensionFrames : UInt64 := 0
  wfbChannelObservations : List RuntimeWfbChannelObservation := []
  lastRxUnixMs : Option UInt64 := none
deriving DecidableEq

def applyProductionRuntimeRxPacketTelemetry (rx : RuntimeFlowRxTelemetry)
    (telemetry : ProductionRuntimeRxPacketTelemetry) : RuntimeFlowRxTelemetry :=
  { rx with
    parsedFrames := satAdd rx.parsedFrames telemetry.parsedFrames
    phyStatusFrames := satAdd rx.phyStatusFrames telemetry.phyStatusFrames
    rssiValidFrames := satAdd rx.rssiValidFrames telemetry.rssiValidFrames
    snrFrames := satAdd rx.snrFrames telemetry.snrFrames
    noiseFrames := satAdd rx.noiseFrames telemetry.noiseFrames
    signal := rx.signal.merge telemetry.signal
    droppedPackets := satAdd rx.droppedPackets telemetry.droppedPackets
    needMoreData := satAdd rx.needMoreData telemetry.needMoreData
    managementFrames := satAdd rx.managementFrames telemetry.managementFrames
    controlFrames := satAdd rx.controlFrames telemetry.controlFrames
    dataFrames := satAdd rx.dataFrames telemetry.dataFrames
    extensionFrames := satAdd rx.extensionFrames telemetry.extensionFrames
    wfbChannelObservations :=
      mergeRuntimeWfbChannelObservations rx.wfbChannelObservations telemetry.wfbChannelObservations }

/-- `.map(..forwarded).sum()`, which does not saturate -/
def forwardedPayloads (rxForwards : List ProductionRuntimeRxForwardSnapshot) : UInt64 :=
  rxForwards.foldl (fun sum forward => sum + forward.counters.forwarded) 0

/-- the latest time of a forwarded payload -/
def latestRxUnixMs (rxForwards : List ProductionRuntimeRxForwardSnapshot) : Option UInt64 :=
  (rxForwards.filterMap (·.lastRxUnixMs)).max?

/-! ## TX telemetry -/

structure RuntimeTxBindTelemetry where
  reportIndex : ℕ
  bindAddr : SocketAddr
  datagramsReceived : UInt64 := 0
  submittedFrames : UInt64 := 0
  failedSubmissions : UInt64 := 0
  droppedDatagrams : UInt64 := 0
  lastSubmitUnixMs : Option UInt64 := none
deriving DecidableEq

structure RuntimeFlowTxTelemetry where
  ingressDatagramsReceived : UInt64 := 0
  ingressBytesReceived : UInt64 := 0
  ingressQueueSendFailed : UInt64 := 0
  ingressPendingDatagrams : UInt64 := 0
  datagramsReceived : UInt64 := 0
  submittedFrames : UInt64 := 0
  failedSubmissions : UInt64 := 0
  droppedDatagrams : UInt64 := 0
  bytesWritten : UInt64 := 0
  wfbChannelObservations : List RuntimeWfbChannelObservation := []
  txBinds : List RuntimeTxBindTelemetry := []
  lastSubmitUnixMs : Option UInt64 := none
deriving DecidableEq

structure ProductionRuntimeTxIngressTelemetry where
  datagramsReceived : UInt64 := 0
  bytesReceived : UInt64 := 0
  queueSendFailed : UInt64 := 0
deriving DecidableEq, Repr

def productionRuntimeTxBindTelemetry (bindAddrs : List SocketAddr) : List RuntimeTxBindTelemetry :=
  bindAddrs.mapIdx fun reportIndex bindAddr => { reportIndex, bindAddr }

/-- changes the first bind of this index, if there is one -/
def RuntimeFlowTxTelemetry.modifyBind (tx : RuntimeFlowTxTelemetry) (reportIndex : ℕ)
    (f : RuntimeTxBindTelemetry → RuntimeTxBindTelemetry) : RuntimeFlowTxTelemetry :=
  match tx.txBinds.findIdx? fun bind => bind.reportIndex == reportIndex with
  | some i => { tx with txBinds := tx.txBinds.modify i f }
  | none => tx

def applyProductionRuntimeTxBindDatagram (tx : RuntimeFlowTxTelemetry) (reportIndex : ℕ) : RuntimeFlowTxTelemetry :=
  tx.modifyBind reportIndex fun bind => { bind with datagramsReceived := satAdd bind.datagramsReceived 1 }

/-- the time is read only where the frame was submitted -/
def applyProductionRuntimeTxBindOutcome {ω : Type} [DatagramHost ω] (tx : RuntimeFlowTxTelemetry) (reportIndex : ℕ)
    (submitted failed dropped : Bool) (host : ω) : RuntimeFlowTxTelemetry × ω :=
  let (now, host) : Option UInt64 × ω :=
    if submitted then (some (runtimeUnixMs host).1, (runtimeUnixMs host).2) else (none, host)
  let tx := tx.modifyBind reportIndex fun bind =>
    { bind with
      submittedFrames := if submitted then satAdd bind.submittedFrames 1 else bind.submittedFrames
      lastSubmitUnixMs := if submitted then now else bind.lastSubmitUnixMs
      failedSubmissions := if failed then satAdd bind.failedSubmissions 1 else bind.failedSubmissions
      droppedDatagrams := if dropped then satAdd bind.droppedDatagrams 1 else bind.droppedDatagrams }
  ({ tx with lastSubmitUnixMs := now.or tx.lastSubmitUnixMs }, host)

def applyProductionRuntimeTxTelemetry (tx : RuntimeFlowTxTelemetry) (bridgeCounters : TxCounters)
    (submitCounters : TxSubmitCounters) : RuntimeFlowTxTelemetry :=
  { tx with
    submittedFrames := submitCounters.submitted
    failedSubmissions := submitCounters.failed
    droppedDatagrams := bridgeCounters.dropped
    bytesWritten := submitCounters.bytesWritten }

def applyProductionRuntimeTxIngressTelemetry (tx : RuntimeFlowTxTelemetry)
    (ingress : ProductionRuntimeTxIngressTelemetry) : RuntimeFlowTxTelemetry :=
  { tx with
    ingressDatagramsReceived := ingress.datagramsReceived
    ingressBytesReceived := ingress.bytesReceived
    ingressQueueSendFailed := ingress.queueSendFailed
    ingressPendingDatagrams := satSub ingress.datagramsReceived tx.datagramsReceived }

def observeProductionRuntimeTxMetadata (tx : RuntimeFlowTxTelemetry)
    (metadata : Option ProductionRuntimeBridgeTxDatagramMetadata) : RuntimeFlowTxTelemetry :=
  match metadata.bind (·.wfbChannelObservation) with
  | none => tx
  | some observation =>
    { tx with
      wfbChannelObservations := mergeRuntimeWfbChannelObservations tx.wfbChannelObservations [observation] }

/-! ## Parts of the report -/

inductive ProductionRuntimeInitReadiness where
  | notStarted
  | ready
  | failed
deriving DecidableEq, Repr

structure ProductionRuntimeInitTelemetry where
  readiness : ProductionRuntimeInitReadiness := .notStarted
  phaseCount : ℕ := 0
  completedPhaseCount : ℕ := 0
deriving DecidableEq, Repr

def productionRuntimeInitTelemetry (init : RuntimeSameSessionInitResult) : ProductionRuntimeInitTelemetry where
  readiness := match init.readiness with
    | .ready => .ready
    | .failed => .failed
  phaseCount := init.phaseSummaries.length
  completedPhaseCount := init.phaseSummaries.countP (·.status = .completed)

structure ProductionRuntimeRxStartupKickReport where
  frameLen : ℕ
  txOptions : TxOptions
  attempted : UInt64
  submitted : UInt64
  failed : UInt64
  bytesWritten : UInt64

structure ProductionRuntimePreLoopReports where
  monitorOpmodeApplied : Bool := false
  txPowerControl : Option Rtl8812auTxPowerControlReport := none
  txCalibrationProfile : Option Rtl8812auTxCalibrationProfileReport := none
  rxStartupKick : Option ProductionRuntimeRxStartupKickReport := none

structure ProductionRuntimeHeartbeatLedReport where
  enabled : Bool
  halfPeriodMs : UInt64
  togglesAttempted : UInt64
  togglesSucceeded : UInt64
  togglesFailed : UInt64
deriving DecidableEq

def heartbeatLedReport (heartbeat : LedHeartbeat) : ProductionRuntimeHeartbeatLedReport where
  enabled := heartbeat.config.enabled
  halfPeriodMs := heartbeat.config.halfPeriodMs
  togglesAttempted := heartbeat.counters.togglesAttempted
  togglesSucceeded := heartbeat.counters.togglesSucceeded
  togglesFailed := heartbeat.counters.togglesFailed

structure ProductionRuntimeAirtimeReport where
  schedule : ProductionRuntimeAirtimeSchedule
  txAllowedIterations : UInt64
  txGatedIterations : UInt64
deriving DecidableEq

def ProductionRuntimeAirtimeReport.idle (schedule : ProductionRuntimeAirtimeSchedule) :
    ProductionRuntimeAirtimeReport := ⟨schedule, 0, 0⟩

inductive ProductionRuntimeFlowResult where
  | pass
  | fail
deriving DecidableEq, Repr

/-! ## The report -/

/-- without the constants and the identity of the adapter -/
structure ProductionRuntimeFlowReport where
  endpoints : Option UsbEndpoints
  channel : Option Channel
  bandwidth : Bandwidth
  durationMs : UInt64
  readyFile : Option String
  stopReason : String
  calibrationProfile : TxCalibrationProfile
  calibrationClass : TxCalibrationClass
  calibrationEvidenceSource : RuntimeTxCalibrationEvidenceSource
  txPowerControl : Option Rtl8812auTxPowerControlReport
  txCalibrationProfile : Option Rtl8812auTxCalibrationProfileReport
  rxStartupKick : Option ProductionRuntimeRxStartupKickReport
  heartbeatLed : Option ProductionRuntimeHeartbeatLedReport
  airtime : ProductionRuntimeAirtimeReport
  receiverBackedValidationRequired : Bool
  init : ProductionRuntimeInitTelemetry
  rx : RuntimeFlowRxTelemetry
  tx : RuntimeFlowTxTelemetry
  counters : RuntimeRadioCounters
  result : ProductionRuntimeFlowResult
  error : Option RuntimeRadioError

/-- what a report says about the session, its initialisation and its traffic -/
structure FlowState where
  endpoints : Option UsbEndpoints := none
  init : ProductionRuntimeInitTelemetry := {}
  preLoop : ProductionRuntimePreLoopReports := {}
  heartbeatLed : Option ProductionRuntimeHeartbeatLedReport := none
  rx : RuntimeFlowRxTelemetry := {}
  tx : RuntimeFlowTxTelemetry := {}
  counters : RuntimeRadioCounters := {}

namespace ProductionRuntimeFlowReport

/-- a report of a state; the fields that only copy the configuration are filled in here -/
def fromState (config : ProductionRuntimeFlowConfig) (state : FlowState) (stopReason : String)
    (airtime : ProductionRuntimeAirtimeReport) (result : ProductionRuntimeFlowResult)
    (error : Option RuntimeRadioError) : ProductionRuntimeFlowReport where
  endpoints := state.endpoints
  channel := some config.channel
  bandwidth := config.bandwidth
  durationMs := config.durationMs
  readyFile := config.readyFile
  stopReason
  calibrationProfile := config.calibrationProfile
  calibrationClass := config.calibrationProfile.beforeTxClass config.capturedTailApplied
  calibrationEvidenceSource := config.calibrationProfile.evidenceSource config.capturedTailApplied
  txPowerControl := state.preLoop.txPowerControl
  txCalibrationProfile := state.preLoop.txCalibrationProfile
  rxStartupKick := state.preLoop.rxStartupKick
  heartbeatLed := state.heartbeatLed
  airtime
  receiverBackedValidationRequired := !config.calibrationProfile.isDefault
  init := state.init
  rx := state.rx
  tx := state.tx
  counters := state.counters
  result
  error

def notStarted (config : ProductionRuntimeFlowConfig) (error : RuntimeRadioError) : ProductionRuntimeFlowReport :=
  fromState config {} "not_started" (.idle config.airtimeSchedule) .fail (some error)

end ProductionRuntimeFlowReport

/-! ## Service health -/

inductive ProductionRuntimeServiceLifecycle where
  | starting
  | validating
  | initializing
  | ready
  | running
  | stopping
  | exitedPass
  | exitedFail
deriving DecidableEq, Repr

inductive ProductionRuntimeServiceOperatorAction where
  | wait
  | monitor
  | investigate
  | restart
  | stopped
deriving DecidableEq, Repr

def productionServiceOperatorAction (lifecycle : ProductionRuntimeServiceLifecycle)
    (result : Option ProductionRuntimeFlowResult) (stopReason : Option String) (rx : RuntimeFlowRxTelemetry)
    (tx : RuntimeFlowTxTelemetry) (error : Option RuntimeRadioError) : ProductionRuntimeServiceOperatorAction :=
  match lifecycle with
  | .starting | .validating | .initializing => .wait
  | .stopping => .stopped
  | .exitedFail => .restart
  | .ready | .running | .exitedPass =>
    let rxForwardSendFailures := rx.rxForwards.foldl (fun sum forward => sum + forward.counters.sendFailed) 0
    if error.isSome ∨ result = some .fail then .restart
    else if stopReason = some "signal" then .stopped
    else if tx.failedSubmissions > 0 ∨ tx.droppedDatagrams > 0 ∨ rx.droppedPackets > 0 ∨ rxForwardSendFailures > 0 then
      .investigate
    else .monitor

structure ProductionRuntimeServiceHealth where
  updatedAtUnixMs : UInt64
  lifecycle : ProductionRuntimeServiceLifecycle
  operatorAction : ProductionRuntimeServiceOperatorAction
  endpoints : Option UsbEndpoints
  channel : Option Channel
  bandwidth : Bandwidth
  durationMs : UInt64
  readyFile : Option String
  healthFile : Option String
  stopReason : Option String
  result : Option ProductionRuntimeFlowResult
  init : ProductionRuntimeInitTelemetry
  heartbeatLed : Option ProductionRuntimeHeartbeatLedReport
  rx : RuntimeFlowRxTelemetry
  tx : RuntimeFlowTxTelemetry
  counters : RuntimeRadioCounters
  error : Option RuntimeRadioError
deriving DecidableEq

namespace ProductionRuntimeServiceHealth

/-- the record of a run that has not got to a report, and has no error -/
def fromConfig (config : ProductionRuntimeFlowConfig) (lifecycle : ProductionRuntimeServiceLifecycle)
    (updatedAtUnixMs : UInt64) : ProductionRuntimeServiceHealth where
  updatedAtUnixMs
  lifecycle
  operatorAction := productionServiceOperatorAction lifecycle none none {} {} none
  endpoints := none
  channel := some config.channel
  bandwidth := config.bandwidth
  durationMs := config.durationMs
  readyFile := config.readyFile
  healthFile := config.healthFile
  stopReason := none
  result := none
  init := {}
  heartbeatLed := none
  rx := {}
  tx := {}
  counters := {}
  error := none

def fromReport (report : ProductionRuntimeFlowReport) (lifecycle : ProductionRuntimeServiceLifecycle)
    (healthFile : Option String) (updatedAtUnixMs : UInt64) : ProductionRuntimeServiceHealth where
  updatedAtUnixMs
  lifecycle
  operatorAction := productionServiceOperatorAction lifecycle (some report.result) (some report.stopReason) report.rx
    report.tx report.error
  endpoints := report.endpoints
  channel := report.channel
  bandwidth := report.bandwidth
  durationMs := report.durationMs
  readyFile := report.readyFile
  healthFile
  stopReason := some report.stopReason
  result := some report.result
  init := report.init
  heartbeatLed := report.heartbeatLed
  rx := report.rx
  tx := report.tx
  counters := report.counters
  error := report.error

end ProductionRuntimeServiceHealth

/-! ## The ready marker -/

/-- without the fields that are always absent -/
structure ProductionRuntimeReadyMarker where
  readyAtUnixMs : Option UInt64
  bindAddr : String
  bindAddrs : List String
  channel : Option UInt8
  channelFrequencyMhz : Option UInt16
  bandwidthMhz : UInt16
  maxDatagrams : UInt32
  durationMs : Option UInt64
  rxTimeoutMs : Option UInt64
  txBurstLimit : Option UInt32
  txMinIntervalUs : Option UInt64
  airtimeSchedule : ProductionRuntimeAirtimeSchedule
  sameSessionInitResult : Option String
  monitorOpmodeApplied : Option Bool
  txPowerControlApplied : Bool
  txCalibrationProfileApplied : Bool
  rxStartupKickApplied : Bool
deriving DecidableEq

def productionRuntimeReadyMarker (config : ProductionRuntimeFlowConfig) (validation : ProductionRuntimeFlowValidation)
    (init : RuntimeSameSessionInitResult) (preLoop : ProductionRuntimePreLoopReports) : ProductionRuntimeReadyMarker where
  readyAtUnixMs := none
  bindAddr := config.bindAddr.text
  bindAddrs := validation.wfbLoop.txBindAddrs.map (·.text)
  channel := some config.channel.number
  channelFrequencyMhz := some config.channel.frequencyMhz
  bandwidthMhz := config.bandwidth.mhz
  maxDatagrams := config.maxDatagrams
  durationMs := some config.durationMs
  rxTimeoutMs := some config.rxTimeoutMs
  txBurstLimit := some config.txBurstLimit
  txMinIntervalUs := if config.txMinIntervalUs ≠ 0 then some config.txMinIntervalUs else none
  airtimeSchedule := config.airtimeSchedule
  sameSessionInitResult := some (match init.readiness with
    | .ready => "pass"
    | .failed => "fail")
  monitorOpmodeApplied := some preLoop.monitorOpmodeApplied
  txPowerControlApplied := preLoop.txPowerControl.isSome
  txCalibrationProfileApplied := preLoop.txCalibrationProfile.isSome
  rxStartupKickApplied := preLoop.rxStartupKick.isSome

end WfbLink.Runtime
