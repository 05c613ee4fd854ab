/-
The steps of a run of the production runtime, outside its loop: files, registers, the init sequence, the kick-off frame,
and sockets. Each works on the session, whose transport is the world, and may fail with a runtime error or panic.
-/
import WfbLink.Runtime.RuntimeHost

namespace WfbLink.Runtime

open WfbLink.Core WfbLink.RadioCore WfbLink.Bridge

structure ProductionRuntimeRtl8812auInitInputs where
  initOrder : Rtl8812auInitOrder
  rfeType : UInt8
deriving DecidableEq, Repr

/-- the stop flag of the caller is part of the world -/
structure ProductionRuntimeFlowExecutionInputs where
  rtl8812auInit : Option ProductionRuntimeRtl8812auInitInputs := none
  txPowerControl : ProductionRuntimeTxPowerControlInput := .none
  heartbeatLed : LedHeartbeatConfig := {}
  processSignalStop : Bool := false
  hasExternalStop : Bool := false

def ProductionRuntimeFlowExecutionInputs.validate (inputs : ProductionRuntimeFlowExecutionInputs) :
    Except RuntimeRadioError Unit :=
  if inputs.rtl8812auInit = none then
    .error (.new "missing_runtime_init_assets"
      "production radio run requires parsed firmware and RTL8812AU table plans")
  else inputs.heartbeatLed.validate.mapError (.new "invalid_heartbeat_led_config")

/-- why a step did not return -/
inductive FlowFault where
  | failed (error : RuntimeRadioError)
  | panicked (panic : Panic)
deriving DecidableEq, Repr

/-- a step of the run -/
abbrev SessionAction (ω α : Type) : Type := Action (RuntimeRadioSession ω) FlowFault α

section Steps

variable {ω ε α : Type}

def onHost (f : ω → α × ω) : Action (RuntimeRadioSession ω) ε α :=
  Action.ofState fun session => ((f session.transport).1, { session with transport := (f session.transport).2 })

def failWith (error : RuntimeRadioError) : SessionAction ω α := Action.fail (.failed error)

def onRegisters [Rtl8812auUsbTransport ω] (action : RegisterAction α) : SessionAction ω α := fun session =>
  let ((result, counters), transport) := (action session.counters).run session.transport
  (result.mapError .failed, { session with transport, counters })

variable [RuntimeHost ω]

/-! ## Files -/

def writeProductionRuntimeServiceHealth (path : Option String) (health : ProductionRuntimeServiceHealth) :
    SessionAction ω Unit :=
  match path with
  | none => return ()
  | some path => do
    match ← onHost fun host => writeFile host path (.health health) with
    | .ok () => return ()
    | .error (.serialize text) => failWith (.new "runtime_health_serialize_failed" text)
    | .error (.write text) => failWith (.new "runtime_health_write_failed" s!"{path}: {text}")

def writeProductionRuntimeReadyMarker (path : Option String) (marker : ProductionRuntimeReadyMarker) :
    SessionAction ω Unit :=
  match path with
  | none => return ()
  | some path => do
    let now ← onHost runtimeUnixMs
    match ← onHost fun host => writeFile host path (.readyMarker { marker with readyAtUnixMs := some now }) with
    | .ok () => return ()
    | .error (.serialize text) => failWith (.new "runtime_ready_marker_serialize_failed" text)
    | .error (.write text) => failWith (.new "runtime_ready_marker_write_failed" s!"{path}: {text}")

/-- the health record of a run that has no report yet -/
def writeHealthFromConfig (config : ProductionRuntimeFlowConfig) (lifecycle : ProductionRuntimeServiceLifecycle) :
    SessionAction ω Unit := do
  let now ← onHost runtimeUnixMs
  writeProductionRuntimeServiceHealth config.healthFile (.fromConfig config lifecycle now)

def writeHealthFromReport (config : ProductionRuntimeFlowConfig) (report : ProductionRuntimeFlowReport)
    (lifecycle : ProductionRuntimeServiceLifecycle) : SessionAction ω Unit := do
  let now ← onHost runtimeUnixMs
  writeProductionRuntimeServiceHealth config.healthFile (.fromReport report lifecycle config.healthFile now)

/-! ## The kick-off frame -/

/-- a data-null frame from a local address that is not a WFB one, to the broadcast address -/
def productionRxStartupKickFrame : List UInt8 :=
  [0x48, 0x00, 0x00, 0x00, 0xff, 0xff, 0xff, 0xff, 0xff, 0xff, 0x02, 0x00, 0x5e, 0x00, 0x00, 0x01, 0x02, 0x00, 0x5e,
    0x00, 0x00, 0x01, 0x00, 0x00]

def rxStartupKickOptions (config : ProductionRuntimeFlowConfig) : TxOptions :=
  { rate := .ofdm6m
    bandwidth := .mhz20
    channelBandwidth := some config.bandwidth
    queue := .mgnt
    retries := 0
    noRetry := true
    rateFallbackLimit := 0 }

def applyProductionRuntimeRxStartupKick (config : ProductionRuntimeFlowConfig) :
    SessionAction ω ProductionRuntimeRxStartupKickReport := fun session =>
  match submit80211Frame session productionRxStartupKickFrame config.channel (rxStartupKickOptions config) {} with
  | .error panic => (.error (.panicked panic), session)
  | .ok (.error error, session, _) => (.error (.failed error), session)
  | .ok (.ok _, session, counters) =>
    (.ok {
      frameLen := productionRxStartupKickFrame.length
      txOptions := rxStartupKickOptions config
      attempted := counters.attempted
      submitted := counters.submitted
      failed := counters.failed
      bytesWritten := counters.bytesWritten }, session)

/-! ## Sockets -/

def productionTxSocketRcvbufBytes : ℕ := 4 * 1024 * 1024
/-- 100 ms, in nanoseconds -/
def productionTxReceiveTimeout : ℕ := 100000000

def configureProductionTxIngressSocket (socket : UdpSocket) (bindAddr : SocketAddr) (receiveBufferBytes : ℕ) :
    SessionAction ω Unit := do
  match ← onHost fun host => setUdpReceiveBuffer host socket receiveBufferBytes with
  | .ok () => return ()
  | .error error =>
    failWith (.new "udp_rcvbuf_config_failed"
      s!"failed to configure {bindAddr.text} receive buffer to {receiveBufferBytes} bytes: {error}")

/-- the addresses from number `reportIndex` on -/
def bindProductionTxIngressSockets (receiveBufferBytes : ℕ) (reportIndex : ℕ) :
    List SocketAddr → SessionAction ω (List ProductionRuntimeTxIngressSocket)
  | [] => return []
  | bindAddr :: bindAddrs => do
    match ← onHost fun host => udpBind host bindAddr with
    | .error error =>
      failWith (.new "udp_bind_failed" s!"failed to bind TX ingress UDP socket {bindAddr.text}: {error}")
    | .ok socket =>
      configureProductionTxIngressSocket socket bindAddr receiveBufferBytes
      let sockets ← bindProductionTxIngressSockets receiveBufferBytes (reportIndex + 1) bindAddrs
      return { bindAddr, socket, reportIndex } :: sockets

def spawnProductionTxIngressReceivers (receiveTimeout : ℕ) :
    List ProductionRuntimeTxIngressSocket → SessionAction ω Unit
  | [] => return ()
  | txSocket :: txSockets => do
    match ← onHost fun host => setReadTimeout host txSocket.socket receiveTimeout with
    | .error error =>
      failWith (.new "udp_timeout_config_failed"
        s!"failed to configure {txSocket.bindAddr.text} receive timeout: {error}")
    | .ok () =>
      match ← onHost fun host => spawnReceiver host txSocket with
      | .error error => Action.fail (.panicked (.expectFailed s!"failed to spawn thread: {error}"))
      | .ok () => spawnProductionTxIngressReceivers receiveTimeout txSockets

def rxForwardBindAddr : SocketAddr := ⟨"0.0.0.0", 0⟩

/-- the socket of a forward, which it has if it has an aggregator -/
def createRxForwardSocket (aggregator : Option SocketAddr) : SessionAction ω (Option UdpSocket) :=
  match aggregator with
  | none => return none
  | some _ => do
    match ← onHost fun host => udpBind host rxForwardBindAddr with
    | .error error =>
      failWith (.new "rx_forward_socket_bind_failed" s!"failed to bind WFB RX forwarding UDP socket: {error}")
    | .ok socket => return some socket

def createProductionRxForwardRuntimes :
    List ProductionRuntimeRxForwardPlan → SessionAction ω (List ProductionRuntimeRxForwardRuntime)
  | [] => return []
  | plan :: plans => do
    let socket ← createRxForwardSocket plan.aggregator
    let runtimes ← createProductionRxForwardRuntimes plans
    return { config := plan.config, aggregator := plan.aggregator, socket } :: runtimes

end Steps

end WfbLink.Runtime
