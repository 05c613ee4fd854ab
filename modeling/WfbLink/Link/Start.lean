/-
The start of a link (`UserspaceRadioHandle::start`, `ManagedWfbStreamsHandle::start`, `MacosWfbTunnelHandle::start`).

A start checks its configuration, starts the thread of the radio, and then launches one helper after the other. Its
handle owns all of them, so a start that returns an error behind the radio has to stop what it started.

- `spawnLogged_cases`: a launch that succeeds, and one that does not.
- `launchEach_run`, `launchOrTerminate_run`: launches in a row, and who holds their helpers.
- `managed_started`, `startManagedTunnel_run`: a managed start behind its checks.
- `start_atomic_iff`: a failed start leaves nothing behind, exactly if every helper ahead of the tunnel can be launched.
- `leaked_radio`: a start that fails with the helper of a best-effort stream.
-/
import WfbLink.Link.Managed
import WfbLink.Link.Streams
import WfbLink.Link.Termination

namespace WfbLink.Link

open WfbLink.Core WfbLink.RadioCore WfbLink.Bridge WfbLink.Runtime

/-! ## The host -/

inductive LaunchAnswer where
  | stdoutFailed (source : String)
  | stderrFailed (source : String)
  | spawnFailed (source : String)
  | launched
deriving DecidableEq, Repr

inductive RemoveAnswer where
  | removed
  | notFound
  | failed (source : String)
deriving DecidableEq, Repr

/-- what the system answers to a start; launches are numbered -/
structure StartHost where
  loopback : LoopbackHost
  pathExists : String → Bool
  createDirAll : String → Option String
  removeFile : String → RemoveAnswer
  bindError : SocketAddr → Option String
  uniqueRuntimeArtifactPath : String → String
  /-- what the thread of the radio will do -/
  radioRun : ProductionRuntimeFlowConfig → RadioRun
  launch : ℕ → LaunchAnswer

/-- a helper that was spawned -/
structure SpawnedHelper where
  pid : ℕ
  command : Command
deriving DecidableEq, Repr

/-- a process has the number of its launch -/
structure StartState where
  world : LinkWorld
  radioStarted : Bool := false
  launches : ℕ := 0
  spawned : List SpawnedHelper := []

abbrev StartAction (α : Type) : Type := Action StartState (LinkFault LinkError) α

def ofLink {α : Type} (result : Except LinkError α) : StartAction α := Action.ofExcept (result.mapError .failed)

def onLinkWorld {α : Type} (act : LinkAction α) : StartAction α := fun s =>
  let (result, world) := act s.world
  (result, { s with world })

/-! ## The text of an error -/

/-- `{:?}` -/
def LinkDirection.debugText : LinkDirection → String
  | .tx => "Tx"
  | .rx => "Rx"

def LinkBuilderError.text : LinkBuilderError → String
  | .duplicateStreamName name => s!"duplicate stream name: {name}"
  | .duplicateLocalUdp localUdp => s!"duplicate local UDP socket: {localUdp.text}"
  | .duplicateDirectionRadioPort direction radioPort =>
    s!"duplicate {direction.debugText} stream radio port: {radioPort}"

/-- a duration in a unit of `10 ^ digits` nanoseconds, without trailing zeros -/
def durationInUnit (nanos digits : ℕ) (unit : String) : String :=
  let fraction := ((Nat.toDigits 10 (nanos % 10 ^ digits)).leftpad digits '0').rdropWhile fun c => c = '0'
  toString (nanos / 10 ^ digits) ++ (if fraction = [] then "" else "." ++ String.ofList fraction) ++ unit

/-- `{:?}` -/
def durationText (nanos : ℕ) : String :=
  if 10 ^ 9 ≤ nanos then durationInUnit nanos 9 "s"
  else if 10 ^ 6 ≤ nanos then durationInUnit nanos 6 "ms"
  else if 10 ^ 3 ≤ nanos then durationInUnit nanos 3 "µs"
  else durationInUnit nanos 0 "ns"

def LinkError.text : LinkError → String
  | .invalidEndpoints error => s!"invalid link endpoints: {error.text}"
  | .invalidBackendConfig code message => s!"invalid backend config ({code}): {message}"
  | .backendExitedBeforeReady => "backend exited before ready"
  | .readyTimeout timeout => s!"timeout waiting for ready marker after {durationText timeout}"
  | .joinFailed => "failed to join backend thread"
  | .missingPath label path => s!"missing {label}: {path}"
  | .spawn label source => s!"failed to spawn {label}: {source}"
  | .processExitedBeforeReady label status => s!"{label} exited before ready with status {status}"
  | .io path source | .json path source => s!"{path}: {source}"

variable (host : StartHost)

/-! ## Files -/

def requireExistingPath (path label : String) : Except LinkError Unit :=
  if host.pathExists path then .ok () else .error (.missingPath label path)

def createDirAll (path : String) : Except LinkError Unit :=
  match host.createDirAll path with
  | none => .ok ()
  | some source => .error (.io path source)

def removeFileIfExists (path : String) : Except LinkError Unit :=
  match host.removeFile path with
  | .removed | .notFound => .ok ()
  | .failed source => .error (.io path source)

/-- `dir.join(file)`, of a relative file -/
def joinPath (dir file : String) : String :=
  if dir = "" ∨ dir.toList.getLast? = some '/' then dir ++ file else dir ++ "/" ++ file

def artifactFileLabel (label : String) : String :=
  String.ofList (label.toList.map fun c => if c.isAlphanum ∨ c = '-' ∨ c = '_' then c else '-')

/-! ## The radio -/

/-- a radio that can be started -/
structure PreparedRadio where
  handle : UserspaceRadioHandle
  runtimeConfig : ProductionRuntimeFlowConfig

/-- `UserspaceRadioHandle::start` up to its thread -/
def UserspaceRadioConfig.prepare (config : UserspaceRadioConfig) : Except LinkError PreparedRadio := do
  validateUserspaceRadioEndpointContract config.endpoints
  let preflight := applyBestEffortTxBindPreflight host.bindError config.runtimeConfig config.endpoints
  let readyFile := preflight.1.readyFile.getD (host.uniqueRuntimeArtifactPath "ready")
  let healthFile := preflight.1.healthFile.getD (host.uniqueRuntimeArtifactPath "health")
  removeFileIfExists host readyFile
  removeFileIfExists host healthFile
  return {
    handle := {
      endpoints := config.endpoints
      startupDegradedStreams := preflight.2
      readyFile
      healthFile
      readyPollInterval := config.readyPollInterval }
    runtimeConfig := { preflight.1 with readyFile := some readyFile, healthFile := some healthFile } }

/-- the thread is started, and has not been asked to stop -/
def StartState.withRadio (s : StartState) (run : RadioRun) : StartState :=
  { s with world := { s.world with radio := run, done := 0, stopRequested := false }, radioStarted := true }

def startRadioThread (run : RadioRun) : StartAction Unit := Action.modify fun s => s.withRadio run

def UserspaceRadioHandle.start (config : UserspaceRadioConfig) : StartAction UserspaceRadioHandle := do
  let prepared ← ofLink (config.prepare host)
  startRadioThread (host.radioRun prepared.runtimeConfig)
  return prepared.handle

/-! ## Helpers -/

def launchedChild (label artifactDir : String) (pid : ℕ) : ManagedChild where
  name := label
  streamName := none
  criticality := .required
  pid
  stdoutLog := joinPath artifactDir s!"{artifactFileLabel label}.stdout.log"
  stderrLog := joinPath artifactDir s!"{artifactFileLabel label}.stderr.log"

/-- the error of a launch that is not answered with a process -/
def LaunchAnswer.error (child : ManagedChild) : LaunchAnswer → Option LinkError
  | .stdoutFailed source => some (.io child.stdoutLog source)
  | .stderrFailed source => some (.io child.stderrLog source)
  | .spawnFailed source => some (.spawn child.name source)
  | .launched => none

def spawnLogged (label : String) (command : Command) (artifactDir : String) : StartAction ManagedChild := fun s =>
  let child := launchedChild label artifactDir s.launches
  match (host.launch s.launches).error child with
  | some error => (.error (.failed error), { s with world := s.world.tick, launches := s.launches + 1 })
  | none =>
    (.ok child, { s with
      world := s.world.tick.setHelper s.launches (.running false)
      launches := s.launches + 1
      spawned := s.spawned ++ [⟨s.launches, command⟩] })

def spawnLoggedWithAttribution (streamName : Option String) (criticality : StreamCriticality) (label : String)
    (command : Command) (artifactDir : String) : StartAction ManagedChild := do
  let child ← spawnLogged host label command artifactDir
  return { child with streamName, criticality }

def spawnLoggedStream (stream : ManagedWfbStreamConfig) (label : String) (command : Command) (artifactDir : String) :
    StartAction ManagedChild :=
  spawnLoggedWithAttribution host (some stream.name) stream.criticality label command artifactDir

/-- launches one helper after the other, up to the first error -/
def launchEach : List (StartAction ManagedChild) → StartAction (List ManagedChild)
  | [] => return []
  | launch :: launches => do
    let child ← launch
    let children ← launchEach launches
    return child :: children

def terminateLaunched (children : List ManagedChild) : StartAction Unit := fun s =>
  let (result, after) := terminateChildProcesses ⟨children, s.world⟩
  (result, { s with world := after.world })

/-- the same, but an error terminates the helpers that were launched -/
def launchOrTerminate (children : List ManagedChild) : List (StartAction ManagedChild) → StartAction (List ManagedChild)
  | [] => return children
  | launch :: launches => do
    match ← Action.attempt launch with
    | .ok child => launchOrTerminate (children ++ [child]) launches
    | .error error =>
      terminateLaunched children
      Action.fail error

/-! ## The managed streams -/

/-- the label and the command of the helper of a stream -/
def streamHelper (config : ManagedWfbStreamsConfig) (name : String) (stream : ManagedWfbStreamConfig)
    (mapping : ManagedWfbStreamMapping) : String × Command :=
  match stream.direction with
  | .tx => (s!"wfb-tx-{name}", managedWfbTxCommand config stream mapping)
  | .rx => (s!"wfb-rx-{name}", managedWfbRxCommand config stream mapping)

def ManagedWfbStreamsConfig.launchStream (config : ManagedWfbStreamsConfig)
    (wired : ManagedWfbStreamConfig × ManagedWfbStreamMapping) : StartAction ManagedChild :=
  let helper := streamHelper config wired.1.name wired.1 wired.2
  spawnLoggedStream host wired.1 helper.1 helper.2 config.artifactDir

/-- the streams of the configuration, then those of the tunnel -/
def ManagedWiring.wired (wiring : ManagedWiring) : List (ManagedWfbStreamConfig × ManagedWfbStreamMapping) :=
  wiring.runtimeStreams.zip wiring.mappings

/-- the helpers of the tunnel: one for each of its two streams, and the tunnel itself -/
def tunnelHelpers (config : ManagedWfbStreamsConfig) (tunnel : ManagedWfbTunnelConfig) (wiring : ManagedWiring)
    (tunSummaryFile : String) : List (String × Command) :=
  (wiring.wired.drop config.streams.length).map (fun wired => streamHelper config "tunnel" wired.1 wired.2) ++
    [("wfb-tun", managedWfbTunCommand tunnel tunSummaryFile)]

def tunnelLaunches (config : ManagedWfbStreamsConfig) (tunnel : ManagedWfbTunnelConfig) (wiring : ManagedWiring)
    (tunSummaryFile : String) : List (StartAction ManagedChild) :=
  (tunnelHelpers config tunnel wiring tunSummaryFile).map fun helper =>
    spawnLoggedWithAttribution host (some managedTunnelSentinel) tunnel.criticality helper.1 helper.2 config.artifactDir

def spawnManagedTunnelChildren (config : ManagedWfbStreamsConfig) (tunnel : ManagedWfbTunnelConfig)
    (wiring : ManagedWiring) (tunSummaryFile : String) : StartAction (List ManagedChild) :=
  launchOrTerminate [] (tunnelLaunches host config tunnel wiring tunSummaryFile)

def tunSummaryFile (config : ManagedWfbStreamsConfig) : String :=
  joinPath config.artifactDir "managed-wfb-tun-summary.json"

def tunnelDegradation (error : LinkError) : LinkStreamDegradation where
  name := managedTunnelSentinel
  reason := s!"best-effort tunnel startup failed: {error.text}"

/-- the helpers of the tunnel, or its degradation -/
def startManagedTunnel (config : ManagedWfbStreamsConfig) (wiring : ManagedWiring) (children : List ManagedChild) :
    StartAction (List ManagedChild × List LinkStreamDegradation) :=
  match config.tunnel with
  | none => return ([], [])
  | some tunnel => do
    ofLink (removeFileIfExists host (tunSummaryFile config))
    match ← Action.attempt (spawnManagedTunnelChildren host config tunnel wiring (tunSummaryFile config)) with
    | .ok tunnelChildren => return (tunnelChildren, [])
    | .error .running => Action.fail .running
    | .error (.failed error) =>
      if tunnel.criticality = .bestEffort then return ([], [tunnelDegradation error])
      else
        let _ ← Action.attempt (onLinkWorld UserspaceRadioHandle.requestStop : StartAction Unit)
        terminateLaunched children
        Action.fail (.failed error)

/-- a best-effort tunnel may lack its binary -/
def requireTunBin : Option ManagedWfbTunnelConfig → Except LinkError Unit
  | some tunnel =>
    if tunnel.criticality = .required then requireExistingPath host tunnel.tunBin "wfb-tun-macos binary" else .ok ()
  | none => .ok ()

/-- `ManagedWfbStreamsHandle::start` up to the radio -/
def ManagedWfbStreamsConfig.prepare (config : ManagedWfbStreamsConfig) : Except LinkError ManagedWiring := do
  requireExistingPath host config.wfbKey "WFB key"
  requireExistingPath host config.wfbTxBin "wfb_tx binary"
  requireExistingPath host config.wfbRxBin "wfb_rx binary"
  requireTunBin host config.tunnel
  createDirAll host config.artifactDir
  config.wire host.loopback

/-- the handle, and the helpers that it owns -/
def ManagedWfbStreamsHandle.start (config : ManagedWfbStreamsConfig) :
    StartAction (ManagedWfbStreamsHandle × List ManagedChild) := do
  let wiring ← ofLink (config.prepare host)
  let radioHandle ← UserspaceRadioHandle.start host wiring.radio
  let children ← launchEach ((wiring.wired.take config.streams.length).map (config.launchStream host))
  let tunnel ← startManagedTunnel host config wiring children
  return ({
    endpoints := config.endpoints
    radioEndpoints := wiring.radioEndpoints
    radioHandle
    startupDegradations := tunnel.2
    startupSettle := config.startupSettle }, children ++ tunnel.1)

/-! ## The tunnel on macOS -/

/-- addresses and the aggregation time are their text -/
structure MacosWfbTunnelConfig where
  radio : UserspaceRadioConfig
  wfbKey : String
  wfbTxBin : String := "target/wfb-ng-macos/bin/wfb_tx"
  wfbRxBin : String := "target/wfb-ng-macos/bin/wfb_rx"
  tunBin : String := "target/debug/wfb-tun-macos"
  artifactDir : String
  linkId : UInt32
  tunnelRxRadioPort : UInt8
  tunnelTxRadioPort : UInt8 := 4
  tunnelRxAggregator : SocketAddr
  tunnelTxRadioBind : SocketAddr
  tunnelTxUdp : SocketAddr := ⟨"127.0.0.1", 56020⟩
  tunnelRxUdp : SocketAddr := ⟨"127.0.0.1", 56021⟩
  localIp : String
  peerIp : String
  prefixLen : UInt8 := 24
  tunMtu : ℕ := 1400
  radioMtu : ℕ := 1445
  aggTimeoutMs : String := "5"
  bandwidthMhz : UInt8
  mcs : UInt8 := 1
  fecK : UInt8 := 2
  fecN : UInt8 := 4
  useSudoForTun : Bool := true
  startupSettle : ℕ := 500 * 10 ^ 6

/-- without the directory of its artifacts -/
structure MacosWfbTunnelHandle where
  endpoints : LinkEndpoints
  radioHandle : UserspaceRadioHandle
  tunSummaryFile : String
  startupSettle : ℕ
deriving DecidableEq

/-- the endpoint of a required stream of distributor datagrams -/
def radioEndpoint (name : String) (direction : LinkDirection) (localUdp : SocketAddr) (stream : Option WfbStreamId) :
    LinkStreamEndpoint where
  name
  direction
  localUdp
  payloadKind := .wfbDistributorDatagram
  criticality := .required
  stream

def userspaceRadioEndpoints (config : ProductionRuntimeFlowConfig) : LinkEndpoints where
  streams :=
    (runtimeTxBindAddrs config).mapIdx (fun i localUdp => radioEndpoint s!"tx{i}" .tx localUdp none) ++
    (match config.primaryRxForward.aggregator, config.primaryRxForward.radioPort with
      | some localUdp, some radioPort =>
        [radioEndpoint "rx-primary" .rx localUdp (some ⟨config.primaryRxForward.linkId, radioPort⟩)]
      | _, _ => []) ++
    (config.rxForwards.mapIdx fun i forward => forward.aggregator.map fun localUdp =>
      radioEndpoint s!"rx{i}" .rx localUdp (some ⟨forward.linkId, forward.radioPort⟩)).filterMap id
  tunnel := none

namespace MacosWfbTunnelConfig

variable (config : MacosWfbTunnelConfig)

/-- `refresh_endpoints` -/
def endpoints : LinkEndpoints where
  streams := (userspaceRadioEndpoints config.radio.runtimeConfig).streams ++ [
    { radioEndpoint managedTunnelTxStream .tx config.tunnelTxUdp (some ⟨some config.linkId, config.tunnelTxRadioPort⟩) with
      payloadKind := .rawApplicationDatagram },
    { radioEndpoint managedTunnelRxStream .rx config.tunnelRxUdp (some ⟨some config.linkId, config.tunnelRxRadioPort⟩) with
      payloadKind := .rawApplicationDatagram }]
  tunnel := some ⟨config.localIp, config.peerIp, none⟩

def wfbRxCommand : Command where
  program := config.wfbRxBin
  args := [
    "-a", toString config.tunnelRxAggregator.port,
    "-K", config.wfbKey,
    "-i", toString config.linkId,
    "-p", toString config.tunnelRxRadioPort,
    "-c", ipText config.tunnelRxUdp,
    "-u", toString config.tunnelRxUdp.port]

def wfbTxCommand : Command where
  program := config.wfbTxBin
  args := [
    "-d",
    "-K", config.wfbKey,
    "-i", toString config.linkId,
    "-p", toString config.tunnelTxRadioPort,
    "-B", toString config.bandwidthMhz,
    "-M", toString config.mcs,
    "-k", toString config.fecK,
    "-n", toString config.fecN,
    "-u", toString config.tunnelTxUdp.port,
    config.tunnelTxRadioBind.text]

def wfbTunCommand (summaryFile : String) : Command :=
  let args := [
    "--local-ip", config.localIp,
    "--peer-ip", config.peerIp,
    "--prefix-len", toString config.prefixLen,
    "--tun-mtu", toString config.tunMtu,
    "--radio-mtu", toString config.radioMtu,
    "--agg-timeout-ms", config.aggTimeoutMs,
    "--tx-peer", config.tunnelTxUdp.text,
    "--rx-bind", config.tunnelRxUdp.text,
    "--summary-file", summaryFile]
  if config.useSudoForTun then { program := "sudo", args := ["-n", config.tunBin] ++ args }
  else { program := config.tunBin, args }

def tunSummaryFile : String := joinPath config.artifactDir "wf-tun-summary.json"

/-- the radio of the tunnel -/
def tunnelRadio : UserspaceRadioConfig :=
  { config.radio with
    runtimeConfig := { config.radio.runtimeConfig with
      primaryRxForward := {
        linkId := some config.linkId
        radioPort := some config.tunnelRxRadioPort
        aggregator := some config.tunnelRxAggregator }
      bindAddr := config.tunnelTxRadioBind } }

/-- `MacosWfbTunnelHandle::start` up to the radio -/
def prepare : Except LinkError Unit := do
  requireExistingPath host config.wfbKey "WFB key"
  requireExistingPath host config.wfbTxBin "wfb_tx binary"
  requireExistingPath host config.wfbRxBin "wfb_rx binary"
  requireExistingPath host config.tunBin "wfb-tun-macos binary"
  createDirAll host config.artifactDir
  removeFileIfExists host config.tunSummaryFile

def launches : List (StartAction ManagedChild) := [
  spawnLogged host "wfb-rx" config.wfbRxCommand config.artifactDir,
  spawnLogged host "wfb-tx" config.wfbTxCommand config.artifactDir,
  spawnLogged host "wfb-tun" (config.wfbTunCommand config.tunSummaryFile) config.artifactDir]

end MacosWfbTunnelConfig

def MacosWfbTunnelHandle.start (config : MacosWfbTunnelConfig) :
    StartAction (MacosWfbTunnelHandle × List ManagedChild) := do
  ofLink (config.prepare host)
  let radioHandle ← UserspaceRadioHandle.start host config.tunnelRadio
  let children ← launchEach (config.launches host)
  return ({
    endpoints := config.endpoints
    radioHandle
    tunSummaryFile := config.tunSummaryFile
    startupSettle := config.startupSettle }, children)

/-! ## What a start holds -/

/-- the radio has been started, and every helper that was spawned is held by a child that fits it, or is terminated -/
structure Held (children : List ManagedChild) (s : StartState) : Prop where
  radioStarted : s.radioStarted = true
  nodup : (children.map ManagedChild.pid).Nodup
  fits : ∀ child ∈ children, Fits child (s.world.helpers child.pid)
  known : ∀ child ∈ children, child.pid < s.launches
  spawned : ∀ helper ∈ s.spawned, helper.pid < s.launches ∧
    (helper.pid ∈ children.map ManagedChild.pid ∨ Terminated s.world helper.pid)

/-- a launch is answered with a process, or with an error -/
inductive Launch (s : StartState) : Except (LinkFault LinkError) ManagedChild × StartState → Prop
  | launched (h : host.launch s.launches = .launched) {child : ManagedChild} (hpid : child.pid = s.launches)
      (hstatus : child.status = none) (howner : child.terminatedByOwner = false) (command : Command) :
      Launch s (.ok child, { s with
        world := s.world.tick.setHelper s.launches (.running false)
        launches := s.launches + 1
        spawned := s.spawned ++ [⟨s.launches, command⟩] })
  | failed (h : host.launch s.launches ≠ .launched) (error : LinkError) :
      Launch s (.error (.failed error), { s with world := s.world.tick, launches := s.launches + 1 })

theorem spawnLogged_cases (label : String) (command : Command) (artifactDir : String) (s : StartState) :
    Launch host s (spawnLogged host label command artifactDir s) := by
  rw [spawnLogged]
  cases hanswer : host.launch s.launches with
  | launched => exact .launched hanswer rfl rfl rfl command
  | stdoutFailed source => exact .failed (by rw [hanswer]; nofun) _
  | stderrFailed source => exact .failed (by rw [hanswer]; nofun) _
  | spawnFailed source => exact .failed (by rw [hanswer]; nofun) _

/-- whose helper it is makes no difference -/
theorem spawnLoggedWithAttribution_cases (streamName : Option String) (criticality : StreamCriticality) (label : String)
    (command : Command) (artifactDir : String) (s : StartState) :
    Launch host s (spawnLoggedWithAttribution host streamName criticality label command artifactDir s) := by
  have hcase := spawnLogged_cases host label command artifactDir s
  rw [spawnLoggedWithAttribution]
  rcases hrun : spawnLogged host label command artifactDir s with ⟨error | child, s'⟩
  · rw [hrun] at hcase
    rw [Action.bind_of_error hrun]
    exact hcase
  · rw [hrun] at hcase
    rw [Action.bind_of_ok hrun]
    cases hcase with
    | launched h hpid hstatus howner command =>
      refine .launched h ?_ ?_ ?_ command
      · exact hpid
      · exact hstatus
      · exact howner

section Holding

variable {host}
variable {children streams : List ManagedChild} {s : StartState}

theorem Held.fail (h : Held children s) :
    Held children { s with world := s.world.tick, launches := s.launches + 1 } where
  radioStarted := h.radioStarted
  nodup := h.nodup
  fits child hchild := stable_fits _ _ _ ((passes_tick s.world).helper child.pid) (h.fits child hchild)
  known child hchild := Nat.lt_succ_of_lt (h.known child hchild)
  spawned helper hhelper := by
    obtain ⟨hknown, hheld⟩ := h.spawned helper hhelper
    refine ⟨Nat.lt_succ_of_lt hknown, hheld.imp_right fun hterminated => ?_⟩
    exact hterminated.later ((passes_tick s.world).helper helper.pid).later (List.prefix_refl _)

theorem Held.spawn (h : Held children s) {child : ManagedChild} (hpid : child.pid = s.launches)
    (hstatus : child.status = none) (howner : child.terminatedByOwner = false) (command : Command) :
    Held (children ++ [child]) { s with
      world := s.world.tick.setHelper s.launches (.running false)
      launches := s.launches + 1
      spawned := s.spawned ++ [⟨s.launches, command⟩] } := by
  have hother : ∀ pid ≠ s.launches,
      (s.world.tick.setHelper s.launches (.running false)).helpers pid = s.world.tick.helpers pid :=
    fun pid hpid => if_neg hpid
  have hmap : (children ++ [child]).map ManagedChild.pid = children.map ManagedChild.pid ++ [s.launches] := by
    rw [List.map_append, List.map_singleton, hpid]
  refine { radioStarted := h.radioStarted, nodup := ?_, fits := ?_, known := ?_, spawned := ?_ }
  · rw [hmap]
    refine h.nodup.append (List.nodup_singleton _) (List.disjoint_singleton.2 fun hmem => ?_)
    obtain ⟨known, hknown, hsame⟩ := List.mem_map.1 hmem
    exact absurd (h.known known hknown) (by omega)
  · intro one hone
    rcases List.mem_append.1 hone with hone | hone
    · rw [hother one.pid (h.known one hone).ne]
      exact stable_fits _ _ _ ((passes_tick s.world).helper one.pid) (h.fits one hone)
    · obtain rfl := List.mem_singleton.1 hone
      rw [hpid, helpers_setHelper]
      refine ⟨fun status hsome => ?_, howner⟩
      rw [hstatus] at hsome
      cases hsome
  · intro one hone
    rcases List.mem_append.1 hone with hone | hone
    · exact Nat.lt_succ_of_lt (h.known one hone)
    · obtain rfl := List.mem_singleton.1 hone
      exact hpid ▸ Nat.lt_succ_self _
  · intro helper hhelper
    rw [hmap]
    rcases List.mem_append.1 hhelper with hhelper | hhelper
    · obtain ⟨hknown, hheld⟩ := h.spawned helper hhelper
      refine ⟨Nat.lt_succ_of_lt hknown, hheld.imp (List.mem_append_left _) fun hterminated => ?_⟩
      refine hterminated.later ?_ (List.prefix_refl _)
      rw [hother helper.pid hknown.ne]
      exact ((passes_tick s.world).helper helper.pid).later
    · obtain rfl := List.mem_singleton.1 hhelper
      exact ⟨Nat.lt_succ_self _, Or.inl (List.mem_append_right _ (List.mem_singleton_self _))⟩

/-- what is behind a termination of some of the children -/
theorem terminateLaunched_held (h : Held (streams ++ children) s) :
    ∃ s', terminateLaunched children s = (.ok (), s') ∧ Held streams s' ∧
      s'.world.stopRequested = s.world.stopRequested := by
  obtain ⟨hstreams, hchildren, hdisjoint⟩ := List.nodup_append'.1 (List.map_append ▸ h.nodup)
  obtain ⟨_, after, hrun⟩ := terminateChildProcesses_returns ⟨children, s.world⟩
  have hfits : Each Fits ⟨children, s.world⟩ :=
    ⟨hchildren, fun child hchild => h.fits child (List.mem_append_right _ hchild)⟩
  have hterminates := terminateChildProcesses_terminates hfits hrun
  have hspares := terminateChildProcesses_spares ⟨children, s.world⟩
  have hgoes := (terminateChildProcesses_goes ⟨children, s.world⟩).world
  rw [hrun] at hspares hgoes
  refine ⟨{ s with world := after.world }, ?_, ?_, hspares.signals.stopRequested⟩
  · rw [terminateLaunched, hrun]
  · refine { radioStarted := h.radioStarted, nodup := hstreams, fits := ?_, known := ?_, spawned := ?_ }
    · intro child hchild
      refine stable_fits _ _ _ (hspares.others child.pid fun hmem => ?_) (h.fits child (List.mem_append_left _ hchild))
      exact hdisjoint (List.mem_map_of_mem hchild) hmem
    · exact fun child hchild => h.known child (List.mem_append_left _ hchild)
    · intro helper hhelper
      obtain ⟨hknown, hheld⟩ := h.spawned helper hhelper
      refine ⟨hknown, ?_⟩
      rcases hheld with hheld | hterminated
      · rw [List.map_append, List.mem_append] at hheld
        refine hheld.imp_right fun hmem => ?_
        obtain ⟨child, hchild, hsame⟩ := List.mem_map.1 hmem
        exact hsame ▸ hterminates child hchild
      · exact Or.inr (hterminated.later (hgoes.helper helper.pid) hspares.signals.added)

end Holding

/-! ## Launches in a row -/

/-- an action that launches one helper -/
def Launches (launch : StartAction ManagedChild) : Prop := ∀ s, Launch host s (launch s)

/-- the next launches are all answered with a process -/
def Launchable (s : StartState) (number : ℕ) : Prop := ∀ i < number, host.launch (s.launches + i) = .launched

section Row

variable {host}
variable {children streams : List ManagedChild} {s : StartState} {launches : List (StartAction ManagedChild)}

theorem Launchable.zero : Launchable host s 0 := fun _ hi => absurd hi (Nat.not_lt_zero _)

theorem launchable_succ {world : LinkWorld} {spawned : List SpawnedHelper} {number : ℕ}
    (hfirst : host.launch s.launches = .launched) :
    Launchable host { s with world, spawned, launches := s.launches + 1 } number ↔ Launchable host s (number + 1) := by
  constructor
  · intro h i hi
    cases i with
    | zero => exact hfirst
    | succ i =>
      have hnext := h i (by omega)
      rwa [Nat.add_assoc, Nat.add_comm 1 i] at hnext
  · intro h i hi
    have hnext := h (i + 1) (by omega)
    rwa [Nat.add_comm i 1, ← Nat.add_assoc] at hnext

theorem not_launchable {number : ℕ} (hfirst : host.launch s.launches ≠ .launched) :
    ¬ Launchable host s (number + 1) := fun h => hfirst (h 0 (Nat.succ_pos _))

/-- **Launches one after the other**: all of them, or an error behind the first that fails. -/
theorem launchEach_run (hlaunches : ∀ launch ∈ launches, Launches host launch) (h : Held children s) :
    (Launchable host s launches.length ∧ ∃ launched s', launchEach launches s = (.ok launched, s') ∧
      Held (children ++ launched) s' ∧ s'.launches = s.launches + launches.length ∧
      s'.world.stopRequested = s.world.stopRequested) ∨
    (¬ Launchable host s launches.length ∧ ∃ error s', launchEach launches s = (.error (.failed error), s') ∧
      s'.radioStarted = true ∧ s'.world.stopRequested = s.world.stopRequested) := by
  induction launches generalizing s children with
  | nil => exact Or.inl ⟨.zero, [], s, rfl, by rwa [List.append_nil], rfl, rfl⟩
  | cons launch launches ih =>
    have hcase := hlaunches launch List.mem_cons_self s
    rw [launchEach]
    rcases hrun : launch s with ⟨error | child, s₁⟩
    · rw [hrun] at hcase
      rw [Action.bind_of_error hrun]
      cases hcase with
      | failed hfailed error =>
        exact Or.inr ⟨not_launchable hfailed, error, _, rfl, h.radioStarted, rfl⟩
    · rw [hrun] at hcase
      rw [Action.bind_of_ok hrun]
      cases hcase with
      | launched hlaunched hpid hstatus howner command =>
        have hheld := h.spawn hpid hstatus howner command
        rcases ih (fun other hother => hlaunches other (List.mem_cons_of_mem _ hother)) hheld with
          ⟨hall, launched, s', hrest, hheld', hcount, hstop⟩ | ⟨hnot, error, s', hrest, hradio, hstop⟩
        · rw [Action.bind_of_ok hrest]
          refine Or.inl ⟨(launchable_succ hlaunched).1 hall, child :: launched, s', rfl, ?_, ?_, hstop⟩
          · rwa [List.append_assoc] at hheld'
          · rw [hcount, List.length_cons]
            dsimp only
            omega
        · rw [Action.bind_of_error hrest]
          exact Or.inr ⟨fun hall => hnot ((launchable_succ hlaunched).2 hall), error, s', rfl, hradio, hstop⟩

/-- the same, but behind an error only the helpers from before are held -/
theorem launchOrTerminate_run (hlaunches : ∀ launch ∈ launches, Launches host launch)
    (h : Held (streams ++ children) s) :
    (Launchable host s launches.length ∧ ∃ launched s', launchOrTerminate children launches s = (.ok launched, s') ∧
      s'.world.stopRequested = s.world.stopRequested) ∨
    (¬ Launchable host s launches.length ∧ ∃ error s',
      launchOrTerminate children launches s = (.error (.failed error), s') ∧ Held streams s' ∧
      s'.world.stopRequested = s.world.stopRequested) := by
  induction launches generalizing s children with
  | nil => exact Or.inl ⟨.zero, children, s, rfl, rfl⟩
  | cons launch launches ih =>
    have hcase := hlaunches launch List.mem_cons_self s
    have hattempt : (Action.attempt launch : StartAction _) s = (.ok (launch s).1, (launch s).2) := rfl
    rw [launchOrTerminate, Action.bind_of_ok hattempt]
    rcases hrun : launch s with ⟨error | child, s₁⟩
    · rw [hrun] at hcase
      dsimp only
      cases hcase with
      | failed hfailed error =>
        obtain ⟨s', hterminate, hheld, hstop⟩ := terminateLaunched_held h.fail
        rw [Action.bind_of_ok hterminate]
        exact Or.inr ⟨not_launchable hfailed, error, s', rfl, hheld, hstop⟩
    · rw [hrun] at hcase
      dsimp only
      cases hcase with
      | launched hlaunched hpid hstatus howner command =>
        have hheld := h.spawn hpid hstatus howner command
        rw [List.append_assoc] at hheld
        rcases ih (fun other hother => hlaunches other (List.mem_cons_of_mem _ hother)) hheld with
          ⟨hall, launched, s', hrest, hstop⟩ | ⟨hnot, error, s', hrest, hheld', hstop⟩
        · exact Or.inl ⟨(launchable_succ hlaunched).1 hall, launched, s', hrest, hstop⟩
        · exact Or.inr ⟨fun hall => hnot ((launchable_succ hlaunched).2 hall), error, s', hrest, hheld', hstop⟩

end Row

/-! ## A start behind its checks -/

section Started

variable {host}
variable {config : ManagedWfbStreamsConfig} {wiring : ManagedWiring} {radio : PreparedRadio} {s : StartState}

/-- the checks of a managed configuration pass, up to the radio -/
structure ManagedPrepared (host : StartHost) (config : ManagedWfbStreamsConfig) (wiring : ManagedWiring)
    (radio : PreparedRadio) : Prop where
  checks : config.prepare host = .ok wiring
  radioChecks : wiring.radio.prepare host = .ok radio

theorem radio_started {config : UserspaceRadioConfig} (h : config.prepare host = .ok radio) (s : StartState) :
    UserspaceRadioHandle.start host config s = (.ok radio.handle, s.withRadio (host.radioRun radio.runtimeConfig)) := by
  have hchecks : (ofLink (config.prepare host) : StartAction PreparedRadio) s = (.ok radio, s) := by
    rw [ofLink, h]
    rfl
  rw [UserspaceRadioHandle.start, Action.bind_of_ok hchecks]
  rfl

theorem radio_refused {config : UserspaceRadioConfig} {error : LinkError} (h : config.prepare host = .error error)
    (s : StartState) : UserspaceRadioHandle.start host config s = (.error (.failed error), s) := by
  have hchecks : (ofLink (config.prepare host) : StartAction PreparedRadio) s = (.error (.failed error), s) := by
    rw [ofLink, h]
    rfl
  rw [UserspaceRadioHandle.start, Action.bind_of_error hchecks]

theorem managed_refused (h : ∀ wiring radio, ¬ ManagedPrepared host config wiring radio) (s : StartState) :
    ∃ error, ManagedWfbStreamsHandle.start host config s = (.error error, s) := by
  rw [ManagedWfbStreamsHandle.start]
  cases hwiring : config.prepare host with
  | error error => exact ⟨.failed error, Action.bind_of_error (by rw [ofLink]; rfl)⟩
  | ok wiring =>
    have hchecks : (ofLink (.ok wiring) : StartAction ManagedWiring) s = (.ok wiring, s) := rfl
    rw [Action.bind_of_ok hchecks]
    cases hradio : wiring.radio.prepare host with
    | error error => exact ⟨.failed error, Action.bind_of_error (radio_refused hradio s)⟩
    | ok radio => exact absurd ⟨hwiring, hradio⟩ (h wiring radio)

/-- every stream has a mapping -/
theorem wired_length {loopback : LoopbackHost} (h : config.wire loopback = .ok wiring) :
    wiring.wired.length = (managedWfbRuntimeStreams config.streams config.tunnel).length := by
  obtain ⟨_, hstreams, hmappings, _⟩ := wire_ok h
  have hmapped := (mappings_described hmappings).length_eq
  rw [ManagedWiring.wired, List.length_zip, ← hmapped, Nat.min_self, hstreams]

theorem ManagedPrepared.wired_length (h : ManagedPrepared host config wiring radio) :
    wiring.wired.length = config.streams.length + if config.tunnel = none then 0 else 2 := by
  have hwire := h.checks
  rw [ManagedWfbStreamsConfig.prepare] at hwire
  obtain ⟨_, _, hwire⟩ := except_bind_ok hwire
  obtain ⟨_, _, hwire⟩ := except_bind_ok hwire
  obtain ⟨_, _, hwire⟩ := except_bind_ok hwire
  obtain ⟨_, _, hwire⟩ := except_bind_ok hwire
  obtain ⟨_, _, hwire⟩ := except_bind_ok hwire
  rw [Link.wired_length hwire, managedWfbRuntimeStreams.eq_def]
  cases config.tunnel with
  | none => rfl
  | some tunnel => rw [List.length_append]; rfl

theorem streamLaunches_length (h : ManagedPrepared host config wiring radio) :
    ((wiring.wired.take config.streams.length).map (config.launchStream host)).length = config.streams.length := by
  rw [List.length_map, List.length_take, h.wired_length]
  exact Nat.min_eq_left (Nat.le_add_right _ _)

theorem streamLaunches_launch (host : StartHost) (config : ManagedWfbStreamsConfig)
    (streams : List (ManagedWfbStreamConfig × ManagedWfbStreamMapping)) :
    ∀ launch ∈ streams.map (config.launchStream host), Launches host launch :=
  List.forall_mem_map.2 fun _ _ => spawnLoggedWithAttribution_cases host _ _ _ _ _

theorem tunnelLaunches_length (h : ManagedPrepared host config wiring radio) {tunnel : ManagedWfbTunnelConfig}
    (htunnel : config.tunnel = some tunnel) (file : String) :
    (tunnelLaunches host config tunnel wiring file).length = 3 := by
  rw [tunnelLaunches, List.length_map, tunnelHelpers, List.length_append, List.length_map, List.length_drop,
    h.wired_length, htunnel]
  simp

theorem tunnelLaunches_launch (host : StartHost) (config : ManagedWfbStreamsConfig) (tunnel : ManagedWfbTunnelConfig)
    (wiring : ManagedWiring) (file : String) : ∀ launch ∈ tunnelLaunches host config tunnel wiring file, Launches host launch :=
  List.forall_mem_map.2 fun _ _ => spawnLoggedWithAttribution_cases host _ _ _ _ _

/-- the radio runs, and no helper has been launched -/
theorem held_withRadio (run : RadioRun) (hspawned : s.spawned = []) :
    Held [] (s.withRadio run) where
  radioStarted := rfl
  nodup := .nil
  fits := nofun
  known := nofun
  spawned helper hhelper := by
    change helper ∈ s.spawned at hhelper
    rw [hspawned] at hhelper
    cases hhelper

/-- a start that returns an error behind the radio has stopped it, and terminated every helper -/
def LeavesNothing {α : Type} (run : Except (LinkFault LinkError) α × StartState) : Prop :=
  ∀ error, run.1 = .error error → run.2.radioStarted = true →
    run.2.world.stopRequested = true ∧ ∀ helper ∈ run.2.spawned, Terminated run.2.world helper.pid

theorem leavesNothing_ok {α : Type} {a : α} : LeavesNothing (.ok a, s) := nofun

/-- an error behind a radio that nobody stops -/
theorem not_leavesNothing {α : Type} {error : LinkFault LinkError} (hradio : s.radioStarted = true)
    (hstop : s.world.stopRequested = false) :
    ¬ LeavesNothing ((.error error, s) : Except (LinkFault LinkError) α × StartState) := by
  intro h
  obtain ⟨hstopped, _⟩ := h error rfl hradio
  exact absurd (hstop.symm.trans hstopped) nofun

/-- the tunnel's stale summary can be removed -/
def SummaryRemovable (host : StartHost) (config : ManagedWfbStreamsConfig) : Prop :=
  config.tunnel ≠ none → ∀ source, host.removeFile (tunSummaryFile config) ≠ .failed source

theorem removeFileIfExists_ok {path : String} (h : ∀ source, host.removeFile path ≠ .failed source) :
    removeFileIfExists host path = .ok () := by
  rw [removeFileIfExists]
  cases hanswer : host.removeFile path with
  | removed => rfl
  | notFound => rfl
  | failed source => exact absurd hanswer (h source)

/-- **The tunnel's helpers**, behind those of the streams: they are launched, or their start is a degradation, or the
start fails and leaves nothing. -/
theorem startManagedTunnel_run {children : List ManagedChild} (hprepared : ManagedPrepared host config wiring radio)
    (hsummary : SummaryRemovable host config) (h : Held children s) :
    (∃ tunnel s', startManagedTunnel host config wiring children s = (.ok tunnel, s')) ∨
      ((config.tunnel ≠ none ∧ ¬ Launchable host s 3) ∧ ∃ error s',
        startManagedTunnel host config wiring children s = (.error error, s') ∧ Held [] s' ∧
        s'.world.stopRequested = true) := by
  rw [startManagedTunnel]
  cases htunnel : config.tunnel with
  | none => exact Or.inl ⟨_, s, rfl⟩
  | some tunnel =>
    have hremoved : (ofLink (removeFileIfExists host (tunSummaryFile config)) : StartAction Unit) s = (.ok (), s) := by
      rw [removeFileIfExists_ok (hsummary (htunnel ▸ Option.some_ne_none tunnel))]
      rfl
    have hattempt : (Action.attempt (spawnManagedTunnelChildren host config tunnel wiring (tunSummaryFile config)) :
        StartAction _) s = (.ok (spawnManagedTunnelChildren host config tunnel wiring (tunSummaryFile config) s).1,
          (spawnManagedTunnelChildren host config tunnel wiring (tunSummaryFile config) s).2) := rfl
    dsimp only
    rw [Action.bind_of_ok hremoved, Action.bind_of_ok hattempt, spawnManagedTunnelChildren]
    have hheld : Held (children ++ []) s := by rwa [List.append_nil]
    have hrun := launchOrTerminate_run (tunnelLaunches_launch host config tunnel wiring (tunSummaryFile config)) hheld
    rw [tunnelLaunches_length hprepared htunnel] at hrun
    rcases hrun with ⟨_, launched, s', hrun, _⟩ | ⟨hnot, error, s₁, hrun, hheld, _⟩
    · rw [hrun]
      exact Or.inl ⟨_, s', rfl⟩
    · rw [hrun]
      dsimp only
      split_ifs with hcriticality
      · exact Or.inl ⟨_, s₁, rfl⟩
      · -- the streams' helpers are terminated behind the radio's stop
        have hstop : (Action.attempt (onLinkWorld UserspaceRadioHandle.requestStop : StartAction Unit) :
            StartAction _) s₁ = (.ok (.ok ()), { s₁ with world := { s₁.world.tick with stopRequested := true } }) := rfl
        have hstopped : Held ([] ++ children) { s₁ with world := { s₁.world.tick with stopRequested := true } } := by
          have hpasses := passes_tick s₁.world
          refine { hheld with fits := fun child hchild => ?_, spawned := fun helper hhelper => ?_ }
          · exact stable_fits _ _ _ (hpasses.helper child.pid) (hheld.fits child hchild)
          · obtain ⟨hknown, howned⟩ := hheld.spawned helper hhelper
            refine ⟨hknown, howned.imp_right fun hterminated => ?_⟩
            exact hterminated.later (hpasses.helper helper.pid).later (List.prefix_refl _)
        obtain ⟨s₂, hterminate, hheld₂, hstop₂⟩ := terminateLaunched_held hstopped
        rw [Action.bind_of_ok hstop, Action.bind_of_ok hterminate]
        exact Or.inr ⟨⟨nofun, hnot⟩, _, s₂, rfl, hheld₂, hstop₂⟩

end Started

/-! ## What has to be launched -/

/-- every stream's helper can be launched, and the tunnel's stale summary removed, if the checks pass -/
def ManagedLaunchable (config : ManagedWfbStreamsConfig) : Prop :=
  ∀ wiring radio, ManagedPrepared host config wiring radio →
    (∀ i < config.streams.length, host.launch i = .launched) ∧ SummaryRemovable host config

/-- the three helpers of a tunnel can be launched, if the checks pass -/
def TunnelLaunchable (config : MacosWfbTunnelConfig) : Prop :=
  config.prepare host = .ok () → ∀ radio, config.tunnelRadio.prepare host = .ok radio →
    ∀ i < 3, host.launch i = .launched

/-- the helpers of the managed tunnel come behind those of the streams -/
def TunnelStarts (config : ManagedWfbStreamsConfig) : Prop :=
  SummaryRemovable host config ∧
    (config.tunnel ≠ none → ∀ i < 3, host.launch (config.streams.length + i) = .launched)

/-- where only helpers of best-effort streams cannot be launched, the start degrades these streams -/
def DegradesBestEffort (config : ManagedWfbStreamsConfig) (world : LinkWorld) : Prop :=
  ∀ wiring radio, ManagedPrepared host config wiring radio → TunnelStarts host config →
    (∀ i stream, config.streams[i]? = some stream → host.launch i ≠ .launched → stream.criticality = .bestEffort) →
    ∃ handle children s', ManagedWfbStreamsHandle.start host config { world } = (.ok (handle, children), s') ∧
      ∀ i stream, config.streams[i]? = some stream → host.launch i ≠ .launched →
        stream.name ∈ handle.startupDegradations.map (·.name)

section Verdict

variable {host}
variable {config : ManagedWfbStreamsConfig} {wiring : ManagedWiring} {radio : PreparedRadio} {world : LinkWorld}

/-- behind the checks, the helpers of the streams are launched -/
theorem managed_started (hprepared : ManagedPrepared host config wiring radio) (world : LinkWorld) :
    ((∀ i < config.streams.length, host.launch i = .launched) ∧ ∃ children s', Held children s' ∧
      s'.launches = config.streams.length ∧ s'.world.stopRequested = false ∧
      ManagedWfbStreamsHandle.start host config { world } = (startManagedTunnel host config wiring children >>=
        fun tunnel => pure ({
          endpoints := config.endpoints
          radioEndpoints := wiring.radioEndpoints
          radioHandle := radio.handle
          startupDegradations := tunnel.2
          startupSettle := config.startupSettle }, children ++ tunnel.1)) s') ∨
    ((¬ ∀ i < config.streams.length, host.launch i = .launched) ∧ ∃ error s',
      ManagedWfbStreamsHandle.start host config { world } = (.error error, s') ∧
      s'.radioStarted = true ∧ s'.world.stopRequested = false) := by
  have hchecks : (ofLink (config.prepare host) : StartAction ManagedWiring) { world } = (.ok wiring, { world }) := by
    rw [ofLink, hprepared.checks]
    rfl
  have hradio := radio_started hprepared.radioChecks { world }
  rw [ManagedWfbStreamsHandle.start, Action.bind_of_ok hchecks, Action.bind_of_ok hradio]
  have hheld := held_withRadio (s := { world }) (host.radioRun radio.runtimeConfig) rfl
  have hrun := launchEach_run (streamLaunches_launch host config (wiring.wired.take config.streams.length)) hheld
  rw [streamLaunches_length hprepared] at hrun
  have hnumbers : Launchable host (StartState.withRadio { world } (host.radioRun radio.runtimeConfig))
      config.streams.length ↔ ∀ i < config.streams.length, host.launch i = .launched := by
    refine forall₂_congr fun i _ => ?_
    rw [StartState.withRadio, Nat.zero_add]
  rw [hnumbers] at hrun
  rcases hrun with ⟨hall, children, s', hrun, hheld, hcount, hstop⟩ | ⟨hnot, error, s', hrun, hradio, hstop⟩
  · rw [Action.bind_of_ok hrun]
    exact Or.inl ⟨hall, children, s', hheld, hcount.trans (Nat.zero_add _), hstop, rfl⟩
  · rw [Action.bind_of_error hrun]
    exact Or.inr ⟨hnot, _, s', rfl, hradio, hstop⟩

/-- a tunnel whose stale summary cannot be removed fails the start, and nobody stops the radio -/
theorem startManagedTunnel_stale {children : List ManagedChild} {s : StartState}
    (h : ¬ SummaryRemovable host config) :
    ∃ error, startManagedTunnel host config wiring children s = (.error error, s) := by
  rw [SummaryRemovable] at h
  push Not at h
  obtain ⟨htunnel, source, hfailed⟩ := h
  obtain ⟨tunnel, htunnel⟩ := Option.ne_none_iff_exists'.1 htunnel
  have hremoved : (ofLink (removeFileIfExists host (tunSummaryFile config)) : StartAction Unit) s =
      (.error (.failed (.io (tunSummaryFile config) source)), s) := by
    rw [ofLink, removeFileIfExists, hfailed]
    rfl
  rw [startManagedTunnel, htunnel]
  exact ⟨_, Action.bind_of_error hremoved⟩

theorem leavesNothing_held {α : Type} {error : LinkFault LinkError} {s : StartState} (h : Held [] s)
    (hstop : s.world.stopRequested = true) :
    LeavesNothing ((.error error, s) : Except (LinkFault LinkError) α × StartState) := by
  refine fun _ _ _ => ⟨hstop, fun helper hhelper => ?_⟩
  obtain ⟨_, hheld⟩ := h.spawned helper hhelper
  exact hheld.resolve_left (List.not_mem_nil)

/-- a start whose helpers can all be launched degrades nothing, and leaves nothing behind where its tunnel fails -/
theorem managed_launchable (h : ManagedLaunchable host config) (world : LinkWorld) :
    LeavesNothing (ManagedWfbStreamsHandle.start host config { world }) ∧ DegradesBestEffort host config world := by
  by_cases hchecks : ∃ wiring radio, ManagedPrepared host config wiring radio
  · obtain ⟨wiring, radio, hprepared⟩ := hchecks
    obtain ⟨hlaunched, hsummary⟩ := h wiring radio hprepared
    rcases managed_started hprepared world with ⟨_, children, s', hheld, hcount, _, hrun⟩ | ⟨hnot, _⟩
    · rw [DegradesBestEffort, hrun]
      have hlaunches : config.tunnel ≠ none → TunnelStarts host config → Launchable host s' 3 := by
        intro htunnel hstarts i hi
        rw [hcount]
        exact hstarts.2 htunnel i hi
      rcases startManagedTunnel_run hprepared hsummary hheld with
        ⟨tunnel, s₁, htunnel⟩ | ⟨⟨hsome, hnot⟩, error, s₁, htunnel, hheld₁, hstop⟩
      · rw [Action.bind_of_ok htunnel]
        refine ⟨leavesNothing_ok, fun _ _ _ _ _ => ⟨_, _, s₁, rfl, fun i stream hstream hfailed => ?_⟩⟩
        obtain ⟨hi, _⟩ := List.getElem?_eq_some_iff.1 hstream
        exact absurd (hlaunched i hi) hfailed
      · rw [Action.bind_of_error htunnel]
        exact ⟨leavesNothing_held hheld₁ hstop, fun _ _ _ hstarts _ => absurd (hlaunches hsome hstarts) hnot⟩
    · exact absurd hlaunched hnot
  · push Not at hchecks
    obtain ⟨error, hrun⟩ := managed_refused hchecks { world }
    rw [DegradesBestEffort, hrun]
    exact ⟨fun _ _ hradio => absurd hradio nofun, fun wiring radio hprepared => absurd hprepared (hchecks wiring radio)⟩

/-- a start that cannot launch them leaves the radio running -/
theorem managed_unlaunchable (h : ¬ ManagedLaunchable host config) (world : LinkWorld) :
    ¬ LeavesNothing (ManagedWfbStreamsHandle.start host config { world }) := by
  rw [ManagedLaunchable] at h
  push Not at h
  obtain ⟨wiring, radio, hprepared, hfailed⟩ := h
  rcases managed_started hprepared world with ⟨hall, children, s', hheld, _, hstop, hrun⟩ | ⟨_, error, s', hrun, hradio, hstop⟩
  · obtain ⟨error, htunnel⟩ := startManagedTunnel_stale (hfailed hall)
    rw [hrun, Action.bind_of_error htunnel]
    exact not_leavesNothing hheld.radioStarted hstop
  · rw [hrun]
    exact not_leavesNothing hradio hstop

/-- the macOS tunnel leaves nothing behind, exactly if its helpers can be launched -/
theorem tunnel_atomic_iff (config : MacosWfbTunnelConfig) (world : LinkWorld) :
    LeavesNothing (MacosWfbTunnelHandle.start host config { world }) ↔ TunnelLaunchable host config := by
  rw [MacosWfbTunnelHandle.start, TunnelLaunchable]
  cases hchecks : config.prepare host with
  | error error =>
    have hrefused : (ofLink (.error error) : StartAction Unit) { world } = (.error (.failed error), { world }) := rfl
    rw [Action.bind_of_error hrefused]
    exact iff_of_true (fun _ _ hradio => absurd hradio Bool.false_ne_true) fun h => nomatch h
  | ok _ =>
    have hpassed : (ofLink (.ok ()) : StartAction Unit) { world } = (.ok (), { world }) := rfl
    rw [Action.bind_of_ok hpassed]
    cases hprepared : config.tunnelRadio.prepare host with
    | error error =>
      rw [Action.bind_of_error (radio_refused hprepared _)]
      exact iff_of_true (fun _ _ hradio => absurd hradio Bool.false_ne_true) fun _ _ h => nomatch h
    | ok radio =>
      rw [Action.bind_of_ok (radio_started hprepared _)]
      have hlaunches : ∀ launch ∈ config.launches host, Launches host launch := by
        rw [MacosWfbTunnelConfig.launches]
        simp only [List.forall_mem_cons]
        exact ⟨spawnLogged_cases host _ _ _, spawnLogged_cases host _ _ _, spawnLogged_cases host _ _ _, nofun⟩
      have hheld := held_withRadio (s := { world }) (host.radioRun radio.runtimeConfig) rfl
      have hnumbers : Launchable host (StartState.withRadio { world } (host.radioRun radio.runtimeConfig)) 3 ↔
          ∀ i < 3, host.launch i = .launched := by
        refine forall₂_congr fun i _ => ?_
        rw [StartState.withRadio, Nat.zero_add]
      have hcount : (config.launches host).length = 3 := rfl
      have hrun := launchEach_run hlaunches hheld
      rw [hcount, hnumbers] at hrun
      rcases hrun with ⟨hall, children, s', hrun, _⟩ | ⟨hnot, error, s', hrun, hradio, hstop⟩
      · rw [Action.bind_of_ok hrun]
        exact iff_of_true leavesNothing_ok fun _ _ _ => hall
      · rw [Action.bind_of_error hrun]
        exact iff_of_false (not_leavesNothing hradio hstop) fun h => hnot (h rfl radio rfl)

/-- **A failed start leaves nothing behind**, exactly if every helper ahead of the managed tunnel's, and every one of
the macOS tunnel's, can be launched. -/
theorem start_atomic_iff (host : StartHost) (world : LinkWorld) :
    (∀ config : ManagedWfbStreamsConfig,
      LeavesNothing (ManagedWfbStreamsHandle.start host config { world }) ∧ DegradesBestEffort host config world ↔
        ManagedLaunchable host config) ∧
    ∀ config : MacosWfbTunnelConfig,
      LeavesNothing (MacosWfbTunnelHandle.start host config { world }) ↔ TunnelLaunchable host config := by
  refine ⟨fun config => ⟨fun h => ?_, fun h => managed_launchable h world⟩, fun config => tunnel_atomic_iff config world⟩
  by_contra hnot
  exact managed_unlaunchable hnot world h.1

end Verdict

/-! ## Samples -/

def sampleLaunchWorld : LinkWorld where
  oracle := {
    delay := fun _ => 0
    ends := fun _ _ => none
    progress := fun _ => 0
    pollError := fun _ => none
    waited := fun _ => .ok .signal }
  helpers := fun _ => .ended .never (.code 0)
  radio := ⟨[], .error .indexOutOfRange, id⟩

/-- everything is there, but the second helper cannot be spawned -/
def sampleStartHost : StartHost where
  loopback := sampleLoopback
  pathExists := fun _ => true
  createDirAll := fun _ => none
  removeFile := fun _ => .notFound
  bindError := fun _ => none
  uniqueRuntimeArtifactPath := fun kind => s!"/tmp/wfb-link-{kind}.json"
  radioRun := fun _ => ⟨[], .error .indexOutOfRange, id⟩
  launch := fun number => if number = 1 then .spawnFailed "Resource temporarily unavailable" else .launched

/-- a required stream, and a best-effort stream behind it -/
def sampleLeakyConfig : ManagedWfbStreamsConfig where
  radio := sampleRadioConfig
  wfbKey := "/tmp/gs.key"
  artifactDir := "/tmp/managed"
  streams := [
    { name := "video-down", direction := .rx, linkId := some 1, radioPort := 4, appUdp := ⟨"127.0.0.1", 5804⟩ },
    { name := "control-up", direction := .tx, linkId := some 1, radioPort := 6, appUdp := ⟨"127.0.0.1", 5606⟩,
      criticality := .bestEffort }]

/-- the helper of the best-effort stream fails the start; the radio and the first helper go on, and nobody stops them -/
theorem leaked_radio :
    (ManagedWfbStreamsHandle.start sampleStartHost sampleLeakyConfig { world := sampleLaunchWorld }).1 =
      .error (.failed (.spawn "wfb-tx-control-up" "Resource temporarily unavailable")) ∧
    (ManagedWfbStreamsHandle.start sampleStartHost sampleLeakyConfig { world := sampleLaunchWorld }).2.radioStarted =
      true ∧
    (ManagedWfbStreamsHandle.start sampleStartHost sampleLeakyConfig
      { world := sampleLaunchWorld }).2.world.stopRequested = false ∧
    (ManagedWfbStreamsHandle.start sampleStartHost sampleLeakyConfig
      { world := sampleLaunchWorld }).2.spawned.map (·.pid) = [0] ∧
    (ManagedWfbStreamsHandle.start sampleStartHost sampleLeakyConfig
      { world := sampleLaunchWorld }).2.world.helpers 0 = .running false ∧
    ¬ LeavesNothing (ManagedWfbStreamsHandle.start sampleStartHost sampleLeakyConfig { world := sampleLaunchWorld }) ∧
    ¬ DegradesBestEffort sampleStartHost sampleLeakyConfig sampleLaunchWorld := by
  have herror : (ManagedWfbStreamsHandle.start sampleStartHost sampleLeakyConfig { world := sampleLaunchWorld }).1 =
      .error (.failed (.spawn "wfb-tx-control-up" "Resource temporarily unavailable")) := by decide +kernel
  have hradio : (ManagedWfbStreamsHandle.start sampleStartHost sampleLeakyConfig
      { world := sampleLaunchWorld }).2.radioStarted = true := by decide +kernel
  have hstop : (ManagedWfbStreamsHandle.start sampleStartHost sampleLeakyConfig
      { world := sampleLaunchWorld }).2.world.stopRequested = false := by decide +kernel
  refine ⟨herror, hradio, hstop, by decide +kernel, by decide +kernel, fun h => ?_, fun h => ?_⟩
  · exact absurd (hstop.symm.trans (h _ herror hradio).1) Bool.false_ne_true
  · have hprepared : ∃ wiring radio, ManagedPrepared sampleStartHost sampleLeakyConfig wiring radio :=
      ⟨_, _, rfl, rfl⟩
    obtain ⟨wiring, radio, hprepared⟩ := hprepared
    have hbestEffort : ∀ i stream, sampleLeakyConfig.streams[i]? = some stream →
        sampleStartHost.launch i ≠ .launched → stream.criticality = .bestEffort := by
      intro i stream hstream hfailed
      have hi : i = 1 := by
        by_contra hi
        exact hfailed (if_neg hi)
      rw [hi] at hstream
      cases hstream
      rfl
    obtain ⟨handle, children, s', hrun, _⟩ :=
      h wiring radio hprepared ⟨fun hsome => absurd rfl hsome, fun hsome => absurd rfl hsome⟩ hbestEffort
    rw [hrun] at herror
    cases herror

end WfbLink.Link
