/-
What each step of a run leaves in the trace.

Events fall into kinds, and a step `Leaves` only events of certain kinds. The lemmas follow the steps; each is stated
for any list of kinds that has the kinds of the step.
-/
import WfbLink.Runtime.Flow

namespace WfbLink.Runtime

open WfbLink.Core WfbLink.RadioCore WfbLink.Bridge

inductive EventKind where
  | register
  | bulkIn
  | bulkOut
  | phase
  | record
  /-- the ready marker, or a health record that says `ready` -/
  | readyRecord
  | socket
deriving DecidableEq, Repr

def healthKind (lifecycle : ProductionRuntimeServiceLifecycle) : EventKind :=
  if lifecycle = .ready then .readyRecord else .record

def FileContent.kind : FileContent → EventKind
  | .readyMarker _ => .readyRecord
  | .health record => healthKind record.lifecycle

def RuntimeEvent.kind : RuntimeEvent → EventKind
  | .usb (.readVendor _ _) => .register
  | .usb (.writeVendor _ _ _) => .register
  | .usb (.bulkIn _) => .bulkIn
  | .usb (.bulkOut _ _) => .bulkOut
  | .phase _ _ => .phase
  | .writeFile _ content _ => content.kind
  | .udpBind _ _ => .socket
  | .spawnReceiver _ _ => .socket

section Leaves

variable {ω ε α β : Type} {kinds : List EventKind}

def sessionTrace (session : RuntimeRadioSession (RecordedHost ω)) : List RuntimeEvent := session.transport.events

def loopTrace (s : FlowLoopState (RecordedHost ω)) : List RuntimeEvent := sessionTrace s.session

theorem loopTrace_onTransport {f : RecordedHost ω → α × RecordedHost ω} (hf : ∀ host, (f host).2.events = host.events)
    (s : FlowLoopState (RecordedHost ω)) : loopTrace (onTransport f s).2 = loopTrace s :=
  hf s.session.transport

/-- events of these kinds are appended -/
abbrev Appends (kinds : List EventKind) (earlier later : List RuntimeEvent) : Prop :=
  Extends (fun e => e.kind ∈ kinds) earlier later

/-- the step appends events of these kinds only -/
abbrev Leaves (kinds : List EventKind) (act : Action (RuntimeRadioSession (RecordedHost ω)) ε α) : Prop :=
  Emits sessionTrace (fun e => e.kind ∈ kinds) act

theorem Leaves.mono {kinds' : List EventKind} {act : Action (RuntimeRadioSession (RecordedHost ω)) ε α}
    (h : Leaves kinds act) (hsub : kinds ⊆ kinds') : Leaves kinds' act :=
  Emits.mono h fun _ he => hsub he

theorem leaves_onHost {f : RecordedHost ω → α × RecordedHost ω}
    (hf : ∀ host, Appends kinds host.events (f host).2.events) :
    Leaves kinds (onHost f : Action (RuntimeRadioSession (RecordedHost ω)) ε α) := fun session => hf session.transport

theorem leaves_onHost_silent {f : RecordedHost ω → α × RecordedHost ω} (hf : ∀ host, (f host).2.events = host.events) :
    Leaves kinds (onHost f : Action (RuntimeRadioSession (RecordedHost ω)) ε α) :=
  leaves_onHost fun host => .of_eq (hf host)

theorem appends_registers [Rtl8812auUsbTransport ω] (hk : .register ∈ kinds) (program : RegisterProgram α)
    (host : RecordedHost ω) : Appends kinds host.events (program.run host).2.events := by
  obtain ⟨transfers, hevents, hregister⟩ := program.run_recorded host
  refine ⟨transfers, hevents, fun e he => ?_⟩
  obtain ⟨event, hevent, rfl⟩ := hregister e he
  cases event with
  | readVendor value index => exact hk
  | writeVendor value index data => exact hk
  | bulkIn endpoint => exact hevent.elim
  | bulkOut endpoint data => exact hevent.elim

theorem leaves_onRegisters [Rtl8812auUsbTransport ω] (hk : .register ∈ kinds) (action : RegisterAction α) :
    Leaves kinds (onRegisters action : SessionAction (RecordedHost ω) α) :=
  fun session => appends_registers hk (action session.counters) session.transport

theorem leaves_orReturn {step : SessionAction (RecordedHost ω) α}
    {onError : RuntimeRadioError → FlowAction (RecordedHost ω) ProductionRuntimeFlowReport} (hstep : Leaves kinds step)
    (herror : ∀ error, Leaves kinds (onError error)) : Leaves kinds (orReturn step onError) := by
  refine Emits.bind (Emits.attempt hstep) fun outcome => ?_
  rcases outcome with (error | panic) | a
  · exact Emits.bind (herror error) fun report => Emits.fail _
  · exact Emits.fail _
  · exact Emits.pure a

variable [RuntimeHost ω]

/-! ## Files -/

theorem leaves_writeFile {path : String} {content : FileContent} (hk : content.kind ∈ kinds) :
    Leaves kinds (onHost fun host => writeFile host path content :
      Action (RuntimeRadioSession (RecordedHost ω)) ε (Except WriteFileError Unit)) :=
  leaves_onHost fun host => .single host.events hk

theorem leaves_unixMs : Leaves kinds (onHost runtimeUnixMs : Action (RuntimeRadioSession (RecordedHost ω)) ε UInt64) :=
  leaves_onHost_silent fun _ => rfl

theorem leaves_serviceHealth {path : Option String} {health : ProductionRuntimeServiceHealth}
    (hk : healthKind health.lifecycle ∈ kinds) :
    Leaves kinds (writeProductionRuntimeServiceHealth path health : SessionAction (RecordedHost ω) Unit) := by
  cases path with
  | none => exact Emits.pure ()
  | some path =>
    refine Emits.bind (leaves_writeFile hk) fun outcome => ?_
    rcases outcome with (text | text) | ⟨⟩
    · exact Emits.fail _
    · exact Emits.fail _
    · exact Emits.pure ()

theorem leaves_healthFromConfig {config : ProductionRuntimeFlowConfig} {lifecycle : ProductionRuntimeServiceLifecycle}
    (hk : healthKind lifecycle ∈ kinds) :
    Leaves kinds (writeHealthFromConfig config lifecycle : SessionAction (RecordedHost ω) Unit) :=
  Emits.bind leaves_unixMs fun _ => leaves_serviceHealth hk

theorem leaves_healthFromReport {config : ProductionRuntimeFlowConfig} {report : ProductionRuntimeFlowReport}
    {lifecycle : ProductionRuntimeServiceLifecycle} (hk : healthKind lifecycle ∈ kinds) :
    Leaves kinds (writeHealthFromReport config report lifecycle : SessionAction (RecordedHost ω) Unit) :=
  Emits.bind leaves_unixMs fun _ => leaves_serviceHealth hk

theorem leaves_readyMarker {path : Option String} {marker : ProductionRuntimeReadyMarker}
    (hk : .readyRecord ∈ kinds) :
    Leaves kinds (writeProductionRuntimeReadyMarker path marker : SessionAction (RecordedHost ω) Unit) := by
  cases path with
  | none => exact Emits.pure ()
  | some path =>
    refine Emits.bind leaves_unixMs fun now => Emits.bind (leaves_writeFile hk) fun outcome => ?_
    rcases outcome with (text | text) | ⟨⟩
    · exact Emits.fail _
    · exact Emits.fail _
    · exact Emits.pure ()

/-! ## Reports -/

theorem leaves_reportWithHealth {config : ProductionRuntimeFlowConfig} {report : ProductionRuntimeFlowReport}
    {lifecycle : ProductionRuntimeServiceLifecycle} (hk : healthKind lifecycle ∈ kinds) :
    Leaves kinds (productionRuntimeReportWithHealth config report lifecycle : FlowAction (RecordedHost ω) _) := by
  refine Emits.bind (Emits.attempt (leaves_healthFromReport hk)) fun outcome => ?_
  rcases outcome with (error | panic) | ⟨⟩
  · exact Emits.pure _
  · exact Emits.fail _
  · exact Emits.pure _

theorem leaves_reportFromStateWithHealth {config : ProductionRuntimeFlowConfig} {state : FlowState} {stopReason : String}
    {airtime : ProductionRuntimeAirtimeReport} {result : ProductionRuntimeFlowResult} {error : Option RuntimeRadioError}
    (hk : .record ∈ kinds) :
    Leaves kinds (productionRuntimeFlowReportFromStateWithHealth config state stopReason airtime result error :
      FlowAction (RecordedHost ω) _) := by
  refine Emits.bind (Emits.read _) fun report => leaves_reportWithHealth ?_
  cases result with
  | pass => exact hk
  | fail => exact hk

theorem leaves_failedReport {config : ProductionRuntimeFlowConfig} {state : FlowState} (hk : .record ∈ kinds)
    (error : RuntimeRadioError) :
    Leaves kinds (failedReport config state error : FlowAction (RecordedHost ω) _) :=
  leaves_reportFromStateWithHealth hk

/-! ## Up to a ready radio -/

theorem leaves_validateFlow {config : ProductionRuntimeFlowConfig} {inputs : ProductionRuntimeFlowExecutionInputs}
    (hk : .record ∈ kinds) : Leaves kinds (validateFlow config inputs : FlowAction (RecordedHost ω) _) :=
  Emits.bind (leaves_orReturn (leaves_healthFromConfig hk) fun _ => Emits.pure _) fun _ =>
    Emits.bind (leaves_orReturn (Emits.ofExcept _) fun _ => leaves_reportWithHealth hk) fun _ =>
      Emits.bind (leaves_orReturn (Emits.ofExcept _) fun _ => leaves_reportWithHealth hk) fun _ =>
        Emits.bind (leaves_orReturn (leaves_healthFromConfig hk) fun _ => Emits.pure _) fun _ => Emits.pure _

omit [RuntimeHost ω] in
theorem leaves_initPhases {runPhase : InitPhaseRunner (RecordedHost ω)} (hphase : ∀ phase, Leaves kinds (runPhase phase))
    (phases : List Rtl8812auInitPhase) (phaseSummaries : List RuntimeSameSessionInitPhaseSummary) :
    Leaves kinds (runInitPhases runPhase phases phaseSummaries) := by
  induction phases generalizing phaseSummaries with
  | nil => exact Emits.pure _
  | cons phase phases ih =>
    refine Emits.bind (Emits.attempt (hphase phase)) fun outcome => ?_
    rcases outcome with failure | summary
    · exact Emits.fail _
    · exact ih _

omit [RuntimeHost ω] in
theorem leaves_sameSessionInit {runPhase : InitPhaseRunner (RecordedHost ω)}
    (hphase : ∀ phase, Leaves kinds (runPhase phase)) (config : RuntimeSameSessionInitConfig) :
    Leaves kinds (runRtl8812auSameSessionInit runPhase config) := by
  rw [runRtl8812auSameSessionInit]
  rcases config.calibrationDecision with error | calibration
  · exact Emits.bind (Emits.read _) fun counters => Emits.fail _
  · refine Emits.bind (Emits.attempt (leaves_initPhases hphase _ _)) fun outcome => Emits.bind (Emits.read _) fun _ => ?_
    rcases outcome with ⟨phaseSummaries, error⟩ | phaseSummaries
    · exact Emits.fail _
    · exact Emits.pure _

theorem leaves_initRadio {runPhase : InitPhaseRunner (RecordedHost ω)} {config : ProductionRuntimeFlowConfig}
    {initInputs : ProductionRuntimeRtl8812auInitInputs} (hphase : ∀ phase, Leaves kinds (runPhase phase))
    (hk : .record ∈ kinds) : Leaves kinds (initRadio runPhase config initInputs : FlowAction (RecordedHost ω) _) := by
  refine Emits.bind (Emits.attempt (leaves_sameSessionInit hphase _)) fun outcome => ?_
  rcases outcome with failure | init
  · exact Emits.bind (leaves_failedReport hk failure.error) fun _ => Emits.fail _
  · exact Emits.pure _

theorem leaves_setUpRadio {procedures : CalibrationProcedures} {config : ProductionRuntimeFlowConfig}
    {inputs : ProductionRuntimeFlowExecutionInputs} {initInputs : ProductionRuntimeRtl8812auInitInputs}
    {init : RuntimeSameSessionInitResult} (hregister : .register ∈ kinds) (hk : .record ∈ kinds) :
    Leaves kinds (setUpRadio procedures config inputs initInputs init : FlowAction (RecordedHost ω) _) := by
  have hstep : ∀ {α : Type} (action : RegisterAction α) (state : FlowState),
      Leaves kinds (orReturn (onRegisters action) (failedReport config state) : FlowAction (RecordedHost ω) α) :=
    fun action state => leaves_orReturn (leaves_onRegisters hregister action) (leaves_failedReport hk)
  refine Emits.bind (hstep _ _) fun _ => Emits.bind (hstep _ _) fun power => Emits.bind (hstep _ _) fun calibration => ?_
  dsimp only
  split_ifs
  · exact Emits.bind (hstep _ _) fun _ => Emits.pure _
  · exact Emits.pure _

theorem leaves_prepareFlow {procedures : CalibrationProcedures} {runPhase : InitPhaseRunner (RecordedHost ω)}
    {config : ProductionRuntimeFlowConfig} {inputs : ProductionRuntimeFlowExecutionInputs}
    (hphase : ∀ phase, Leaves kinds (runPhase phase)) (hregister : .register ∈ kinds) (hk : .record ∈ kinds) :
    Leaves kinds (prepareFlow procedures runPhase config inputs : FlowAction (RecordedHost ω) _) := by
  refine Emits.bind (leaves_validateFlow hk) fun validation => ?_
  rcases inputs.rtl8812auInit with _ | initInputs
  · exact Emits.fail _
  · exact Emits.bind (leaves_initRadio hphase hk) fun init => Emits.bind (leaves_setUpRadio hregister hk) fun _ =>
      Emits.pure _

/-! ## Up to the loop -/

theorem leaves_startupKick {config : ProductionRuntimeFlowConfig} (hk : .bulkOut ∈ kinds) :
    Leaves kinds (applyProductionRuntimeRxStartupKick config : SessionAction (RecordedHost ω) _) := by
  intro session
  obtain ⟨result, session', counters, hsubmit, hevents⟩ := submit80211Frame_recorded session productionRxStartupKickFrame
    config.channel (rxStartupKickOptions config) {}
  have hout : Appends kinds (sessionTrace session) (sessionTrace session') := by
    rcases hevents with hnone | ⟨bulkOut, packet, _, hone⟩
    · exact .of_eq hnone
    · exact ⟨[.usb (.bulkOut bulkOut packet)], hone, fun e he => List.mem_singleton.1 he ▸ hk⟩
  rw [applyProductionRuntimeRxStartupKick, hsubmit]
  cases result with
  | error error => exact hout
  | ok written => exact hout

theorem leaves_kickRx {config : ProductionRuntimeFlowConfig} {prepared : PreparedFlow} (hout : .bulkOut ∈ kinds)
    (hk : .record ∈ kinds) : Leaves kinds (kickRx config prepared : FlowAction (RecordedHost ω) _) := by
  rw [kickRx]
  split_ifs
  · exact Emits.pure _
  · exact Emits.bind (leaves_orReturn (leaves_startupKick hout) (leaves_failedReport hk)) fun _ => Emits.pure _

theorem leaves_announceReady {config : ProductionRuntimeFlowConfig} {prepared : PreparedFlow}
    (hready : .readyRecord ∈ kinds) (hk : .record ∈ kinds) :
    Leaves kinds (announceReady config prepared : FlowAction (RecordedHost ω) _) :=
  Emits.bind (leaves_orReturn (leaves_readyMarker hready) (leaves_failedReport hk)) fun _ =>
    Emits.bind (Emits.read _) fun _ => leaves_orReturn (leaves_healthFromReport hready) fun _ => Emits.read _

theorem leaves_udpBind {addr : SocketAddr} (hk : .socket ∈ kinds) :
    Leaves kinds (onHost fun host => udpBind host addr :
      Action (RuntimeRadioSession (RecordedHost ω)) ε (Except String UdpSocket)) :=
  leaves_onHost fun host => .single host.events hk

theorem leaves_bindSockets (hk : .socket ∈ kinds) (receiveBufferBytes reportIndex : ℕ) (bindAddrs : List SocketAddr) :
    Leaves kinds (bindProductionTxIngressSockets receiveBufferBytes reportIndex bindAddrs :
      SessionAction (RecordedHost ω) _) := by
  induction bindAddrs generalizing reportIndex with
  | nil => exact Emits.pure _
  | cons bindAddr bindAddrs ih =>
    refine Emits.bind (leaves_udpBind hk) fun outcome => ?_
    cases outcome with
    | error error => exact Emits.fail _
    | ok socket =>
      have hconfigure : Leaves kinds (configureProductionTxIngressSocket socket bindAddr receiveBufferBytes :
          SessionAction (RecordedHost ω) Unit) := by
        refine Emits.bind (leaves_onHost_silent fun _ => rfl) fun outcome => ?_
        cases outcome with
        | error error => exact Emits.fail _
        | ok => exact Emits.pure ()
      exact Emits.bind hconfigure fun _ => Emits.bind (ih (reportIndex + 1)) fun _ => Emits.pure _

theorem leaves_spawnReceivers (hk : .socket ∈ kinds) (receiveTimeout : ℕ)
    (txSockets : List ProductionRuntimeTxIngressSocket) :
    Leaves kinds (spawnProductionTxIngressReceivers receiveTimeout txSockets : SessionAction (RecordedHost ω) _) := by
  induction txSockets with
  | nil => exact Emits.pure ()
  | cons txSocket txSockets ih =>
    refine Emits.bind (leaves_onHost_silent fun _ => rfl) fun outcome => ?_
    cases outcome with
    | error error => exact Emits.fail _
    | ok =>
      refine Emits.bind (leaves_onHost fun host => .single host.events hk) fun outcome => ?_
      cases outcome with
      | error error => exact Emits.fail _
      | ok => exact ih

theorem leaves_createForwards (hk : .socket ∈ kinds) (plans : List ProductionRuntimeRxForwardPlan) :
    Leaves kinds (createProductionRxForwardRuntimes plans : SessionAction (RecordedHost ω) _) := by
  induction plans with
  | nil => exact Emits.pure _
  | cons plan plans ih =>
    have hsocket : Leaves kinds (createRxForwardSocket plan.aggregator : SessionAction (RecordedHost ω) _) := by
      cases plan.aggregator with
      | none => exact Emits.pure none
      | some aggregator =>
        refine Emits.bind (leaves_udpBind hk) fun outcome => ?_
        cases outcome with
        | error error => exact Emits.fail _
        | ok socket => exact Emits.pure (some socket)
    exact Emits.bind hsocket fun _ => Emits.bind ih fun _ => Emits.pure _

theorem leaves_openTraffic {config : ProductionRuntimeFlowConfig} {prepared : PreparedFlow} (hsocket : .socket ∈ kinds)
    (hk : .record ∈ kinds) : Leaves kinds (openTraffic config prepared : FlowAction (RecordedHost ω) _) :=
  Emits.bind (leaves_orReturn (leaves_bindSockets hsocket _ _ _) (leaves_failedReport hk)) fun _ =>
    Emits.bind (leaves_orReturn (leaves_spawnReceivers hsocket _ _) (leaves_failedReport hk)) fun _ =>
      leaves_orReturn (leaves_createForwards hsocket _) (leaves_failedReport hk)

theorem leaves_startLoop {inputs : ProductionRuntimeFlowExecutionInputs} {prepared : PreparedFlow}
    {rxForwards : List ProductionRuntimeRxForwardRuntime} :
    Leaves kinds (startLoop inputs prepared rxForwards : FlowAction (RecordedHost ω) _) :=
  Emits.bind (leaves_onHost_silent fun _ => rfl) fun _ => Emits.read _

/-! ## The loop -/

theorem flowStopRequested_events (inputs : ProductionRuntimeFlowExecutionInputs) (host : RecordedHost ω) :
    (flowStopRequested inputs host).2.events = host.events := by
  have hexternal : ∀ host : RecordedHost ω,
      (if inputs.hasExternalStop then externalStopRequested host else (false, host)).2.events = host.events := by
    intro host
    split_ifs
    · rfl
    · rfl
  rw [flowStopRequested]
  by_cases hprocess : inputs.processSignalStop
  · rw [if_pos hprocess]
    rcases hstop : processStopRequested host with ⟨signalled, host'⟩
    have hevents : host'.events = host.events := by
      rw [show host' = (processStopRequested host).2 by rw [hstop]]
      rfl
    dsimp only
    split_ifs
    · exact hevents
    · rw [← hevents]
      rfl
    · exact hevents
  · rw [if_neg hprocess]
    exact hexternal host

theorem appends_heartbeat (hk : .register ∈ kinds) (toggle : LedHeartbeat → RegisterProgram LedHeartbeat)
    (s : FlowLoopState (RecordedHost ω)) : Appends kinds (loopTrace s) (loopTrace (runHeartbeat toggle s)) :=
  appends_registers hk (toggle s.heartbeat) s.session.transport

/-- the telemetry of a datagram reads the time, and leaves no trace -/
theorem loopTrace_recordTx (s : FlowLoopState (RecordedHost ω)) (tx : RuntimeFlowTxTelemetry) (reportIndex : ℕ)
    (handled : HandledDatagram (RecordedHost ω)) :
    loopTrace (recordTx s tx reportIndex handled) = sessionTrace handled.session := by
  have houtcome : ∀ submitted failed dropped : Bool, (applyProductionRuntimeTxBindOutcome tx reportIndex submitted failed
      dropped handled.session.transport).2.events = handled.session.transport.events := by
    intro submitted failed dropped
    cases submitted with
    | true => rfl
    | false => rfl
  rw [recordTx]
  rcases handled.result with error | outcome
  · exact houtcome false true true
  · exact houtcome outcome.metadata.isSome false outcome.metadata.isNone

theorem appends_handleTryTx (hk : .bulkOut ∈ kinds) (config : ProductionRuntimeFlowConfig)
    (s : FlowLoopState (RecordedHost ω)) : Appends kinds (loopTrace s) (loopTrace (handleTryTx config s).2) := by
  have hrecv : ∀ s : FlowLoopState (RecordedHost ω), loopTrace (onTransport tryRecv s).2 = loopTrace s :=
    loopTrace_onTransport fun _ => rfl
  have hs := hrecv s
  rw [handleTryTx]
  rcases hrun : onTransport tryRecv s with ⟨(_ | _) | queued, s'⟩
  · rw [hrun] at hs
    exact .of_eq hs
  · rw [hrun] at hs
    exact .of_eq hs
  · rw [hrun] at hs
    obtain ⟨handled, hhandled, hevents⟩ := handleProductionBridgeTxDatagram_recorded s'.session queued
      ⟨config.channel, config.bandwidth, {}⟩ s'.bridgeCounters s'.submitCounters
    dsimp only
    rw [hhandled, loopTrace_recordTx, ← hs]
    rcases hevents with hnone | ⟨bulkOut, packet, options, _, _, hone⟩
    · exact .of_eq hnone
    · exact ⟨[.usb (.bulkOut bulkOut packet)], hone, fun e he => List.mem_singleton.1 he ▸ hk⟩

/-- sending forwards and reading the time leave no trace -/
theorem processForward_events {runtime runtime' : ProductionRuntimeRxForwardRuntime} {frame : RxFrame}
    {host host' : RecordedHost ω} {result : Except RuntimeRadioError Unit}
    (h : processProductionWfbRxForward runtime frame host = .ok (result, runtime', host')) :
    host'.events = host.events := by
  rw [processProductionWfbRxForward] at h
  rcases hbuild : buildRxForwardDatagram frame runtime.config runtime.counters with panic | ⟨packet, counters⟩
  · rw [hbuild] at h
    cases h
  · rw [hbuild, checked_bind_ok] at h
    dsimp only at h
    split at h
    · rename_i socket aggregator _ _
      rcases hsend : sendTo host socket _ aggregator with ⟨error | bytes, host₁⟩
      · rw [hsend] at h
        cases h
        rw [show host' = (sendTo host socket _ aggregator).2 by rw [hsend]]
        rfl
      · rw [hsend] at h
        cases h
        rw [show host₁ = (sendTo host socket _ aggregator).2 by rw [hsend]]
        rfl
    · cases h
      rfl

theorem processForwards_events {runtimes runtimes' : List ProductionRuntimeRxForwardRuntime} {frame : RxFrame}
    {host host' : RecordedHost ω} {result : Except RuntimeRadioError Unit}
    (h : processProductionWfbRxForwards runtimes frame host = .ok (result, runtimes', host')) :
    host'.events = host.events := by
  induction runtimes generalizing host host' runtimes' result with
  | nil =>
    cases h
    rfl
  | cons runtime runtimes ih =>
    rw [processProductionWfbRxForwards] at h
    rcases hone : processProductionWfbRxForward runtime frame host with panic | ⟨error | ⟨⟩, runtime₁, host₁⟩
    · rw [hone] at h
      cases h
    · rw [hone] at h
      cases h
      exact processForward_events hone
    · rw [hone, checked_bind_ok] at h
      dsimp only at h
      rcases hrest : processProductionWfbRxForwards runtimes frame host₁ with panic | ⟨result', runtimes₁, host₂⟩
      · rw [hrest] at h
        cases h
      · rw [hrest] at h
        cases h
        rw [ih hrest, processForward_events hone]

theorem processPacket_events {p p' : RxProcessing (RecordedHost ω)} {parsed : ParsedRxPacket}
    {result : Except RuntimeRadioError Unit} (h : processPacket p parsed = .ok (result, p')) :
    p'.host.events = p.host.events := by
  rw [processPacket] at h
  rcases hout : parsed.outcome with _ | _ | _
  · rw [hout] at h
    dsimp only at h
    rcases hframe : expect "frame outcome includes frame" parsed.frame with panic | frame
    · rw [hframe] at h
      cases h
    · rw [hframe, checked_bind_ok] at h
      obtain ⟨telemetry, _, h⟩ := except_bind_ok h
      obtain ⟨observations, _, h⟩ := except_bind_ok h
      obtain ⟨⟨result', rxForwards, host⟩, hforward, h⟩ := except_bind_ok h
      cases h
      exact processForwards_events hforward
  · rw [hout] at h
    cases h
    rfl
  · rw [hout] at h
    cases h
    rfl

theorem processPackets_events {p p' : RxProcessing (RecordedHost ω)} {packets : List ParsedRxPacket}
    {result : Except RuntimeRadioError Unit} (h : processPackets p packets = .ok (result, p')) :
    p'.host.events = p.host.events := by
  induction packets generalizing p with
  | nil =>
    cases h
    rfl
  | cons parsed packets ih =>
    rw [processPackets] at h
    obtain ⟨⟨error | ⟨⟩, p₁⟩, hone, h⟩ := except_bind_ok h
    · cases h
      exact processPacket_events hone
    · rw [ih h, processPacket_events hone]

/-- a read leaves at most one bulk IN transfer -/
theorem appends_readRxPackets (hk : .bulkIn ∈ kinds) {n : ℕ} {session session' : RuntimeRadioSession (RecordedHost ω)}
    {channel : Channel} {buffer buffer' : ByteBuf n} {timeout : ℕ} {result : Except RuntimeRadioError RuntimeRxRead}
    (h : readRxPackets session channel buffer timeout = .ok (result, buffer', session')) :
    Appends kinds (sessionTrace session) (sessionTrace session') := by
  rw [readRxPackets] at h
  rcases hin : session.endpoints.bulkIn with _ | bulkIn
  · rw [hin] at h
    cases h
    exact .refl _
  · rw [hin] at h
    have hread : Appends kinds (sessionTrace session)
        (readBulkTransfer session.transport bulkIn buffer timeout).2.2.events := .single _ hk
    dsimp only at h
    rcases hrun : readBulkTransfer session.transport bulkIn buffer timeout with ⟨error | bytesRead, buffer₁, transport⟩
    · rw [hrun] at h hread
      cases h
      exact hread
    · rw [hrun] at h hread
      obtain ⟨⟨counters, packets⟩, _, h⟩ := except_bind_ok h
      cases h
      exact hread

theorem loopTrace_handleRxPackets (s : FlowLoopState (RecordedHost ω)) (packets : List ParsedRxPacket) :
    loopTrace (handleRxPackets s packets).2 = loopTrace s := by
  rw [handleRxPackets]
  rcases hrun : processProductionRxPacketOutcomes packets s.rxForwards s.session.transport with
    panic | ⟨result, rxForwards, transport⟩
  · rfl
  · have hevents : transport.events = s.session.transport.events := by
      obtain ⟨⟨error | ⟨⟩, p⟩, hpackets, hrest⟩ := except_bind_ok hrun
      · cases hrest
        exact processPackets_events hpackets
      · cases hrest
        exact processPackets_events hpackets
    rcases result with error | outcome
    · exact hevents
    · exact hevents

theorem appends_handleReadRx (hk : .bulkIn ∈ kinds) (config : ProductionRuntimeFlowConfig)
    (inputs : ProductionRuntimeFlowExecutionInputs) (timeout : ℕ) (s : FlowLoopState (RecordedHost ω)) :
    Appends kinds (loopTrace s) (loopTrace (handleReadRx config inputs timeout s).2) := by
  rw [handleReadRx]
  rcases hrun : readRxPackets s.session config.channel s.rxBuf timeout with panic | ⟨error | read, rxBuf, session⟩
  · exact .refl _
  · have hread := appends_readRxPackets hk hrun
    dsimp only
    split_ifs
    · exact hread
    · have hstop := loopTrace_onTransport (flowStopRequested_events inputs) { s with session, rxBuf }
      rcases hflag : onTransport (flowStopRequested inputs) { s with session, rxBuf } with ⟨_ | _, s'⟩
      · rw [hflag] at hstop
        exact hread.trans (.of_eq hstop)
      · rw [hflag] at hstop
        exact hread.trans (.of_eq hstop)
  · have hread := appends_readRxPackets hk hrun
    dsimp only
    split_ifs
    · exact hread
    · exact hread.trans (.of_eq (loopTrace_handleRxPackets _ _))

/-- the events of the loop -/
def trafficKinds : List EventKind := [.register, .bulkIn, .bulkOut]

theorem flowHooks_emit (config : ProductionRuntimeFlowConfig) (inputs : ProductionRuntimeFlowExecutionInputs) :
    HooksEmit loopTrace (fun e => e.kind ∈ trafficKinds)
      (flowHooks config inputs : BridgeLoopHooks (FlowLoopState (RecordedHost ω)) FlowFault) where
  instantNow s := .of_eq (loopTrace_onTransport (fun _ => rfl) s)
  onIterationStart now s := appends_heartbeat (by decide) _ s
  stopRequested s := .of_eq (loopTrace_onTransport (flowStopRequested_events inputs) s)
  handleStep step s := by
    cases step with
    | tryTx => exact appends_handleTryTx (by decide) config s
    | readRx timeout => exact appends_handleReadRx (by decide) config inputs timeout s

/-- the loop and the LED after it -/
theorem leaves_bridgeTraffic (config : ProductionRuntimeFlowConfig) (inputs : ProductionRuntimeFlowExecutionInputs)
    (fuel : ℕ) (s : FlowLoopState (RecordedHost ω)) (session : RuntimeRadioSession (RecordedHost ω)) :
    Appends trafficKinds (loopTrace s) (sessionTrace (bridgeTraffic config inputs fuel s session).2) := by
  have hloop := @runProductionBridgeLoop_emits _ _ _ _ _ _ (flowLoopConfig config) (flowHooks_emit config inputs) s fuel
  rw [bridgeTraffic]
  rcases hrun : runProductionBridgeLoop (flowHooks config inputs) (flowLoopConfig config) s fuel with
    running | ⟨(error | panic) | outcome, s'⟩
  · rw [hrun] at hloop
    exact hloop
  · rw [hrun] at hloop
    exact hloop.trans (appends_heartbeat (by decide) _ s')
  · rw [hrun] at hloop
    exact hloop
  · rw [hrun] at hloop
    exact hloop.trans (appends_heartbeat (by decide) _ s')

theorem leaves_finishFlow {config : ProductionRuntimeFlowConfig} {prepared : PreparedFlow}
    {loopOutcome : Except RuntimeRadioError ProductionRuntimeBridgeLoopOutcome} {s : FlowLoopState (RecordedHost ω)}
    (hk : .record ∈ kinds) :
    Leaves kinds (finishFlow config prepared loopOutcome s : FlowAction (RecordedHost ω) _) := by
  refine Emits.bind (leaves_onHost_silent fun _ => rfl) fun ingress => ?_
  rcases loopOutcome with error | outcome
  · exact leaves_failedReport hk error
  · exact leaves_reportFromStateWithHealth hk

end Leaves

end WfbLink.Runtime
