/-
The streams of a managed link (`managed_wfb_stream_mappings`, `apply_managed_wfb_streams_to_radio`).

A managed stream has a socket of the application and a socket of the radio, with a helper process between them. The
radio's socket is given, or reserved on the loopback before the applications bind their own; the radio's configuration
is rewritten to bind and to forward to these sockets.

- `reserveLoopbackUdpAddrExcluding_reserved`: a reserved socket is new, and of the reserved range.
- `mappings_described`, `mappings_nodup`: the mapping of each stream, and their sockets.
- `applied_binds`, `applied_forwards`, `applied_accepted`: the rewritten configuration.
- `managed_wiring`: all of it for every list of streams that is accepted.
- `unlinked_stream_unwired`: a stream for which the most that fails does.
-/
import WfbLink.Core.Scan
import WfbLink.Core.Text
import WfbLink.Link.Preflight

namespace WfbLink.Link

open WfbLink.Core WfbLink.RadioCore WfbLink.Bridge WfbLink.Runtime

/-! ## Configurations -/

structure ManagedWfbTxProfile where
  bandwidthMhz : UInt16 := 20
  mcs : UInt8 := 1
  fecK : UInt8 := 2
  fecN : UInt8 := 4
deriving DecidableEq, Repr

structure ManagedWfbStreamConfig where
  name : String
  direction : LinkDirection
  linkId : Option UInt32 := none
  radioPort : UInt8
  appUdp : SocketAddr
  radioUdp : Option SocketAddr := none
  criticality : StreamCriticality := .required
  txProfile : ManagedWfbTxProfile := {}

/-- addresses and the aggregation time are their text -/
structure ManagedWfbTunnelConfig where
  linkId : UInt32 := 0
  tunnelRxRadioPort : UInt8 := 3
  tunnelTxRadioPort : UInt8 := 4
  tunnelTxUdp : SocketAddr := ⟨"127.0.0.1", 56020⟩
  tunnelRxUdp : SocketAddr := ⟨"127.0.0.1", 56021⟩
  localIp : String
  peerIp : String
  prefixLen : UInt8 := 24
  tunMtu : ℕ := 1400
  radioMtu : ℕ := 1445
  aggTimeoutMs : String := "5"
  txProfile : ManagedWfbTxProfile := {}
  tunBin : String := "target/debug/wfb-tun-macos"
  useSudoForTun : Bool := true
  criticality : StreamCriticality := .required

structure UserspaceRadioConfig where
  runtimeConfig : ProductionRuntimeFlowConfig
  endpoints : LinkEndpoints
  readyPollInterval : ℕ := 25 * 10 ^ 6

/-- the paths of files are their text; the endpoints are those of the streams and the tunnel, refreshed at the start -/
structure ManagedWfbStreamsConfig where
  radio : UserspaceRadioConfig
  wfbKey : String
  wfbTxBin : String := "target/wfb-ng-macos/bin/wfb_tx"
  wfbRxBin : String := "target/wfb-ng-macos/bin/wfb_rx"
  artifactDir : String
  streams : List ManagedWfbStreamConfig := []
  tunnel : Option ManagedWfbTunnelConfig := none
  startupSettle : ℕ := 500 * 10 ^ 6

structure ManagedWfbStreamMapping where
  direction : LinkDirection
  linkId : Option UInt32
  radioPort : UInt8
  appUdp : SocketAddr
  radioUdp : SocketAddr

def managedTunnelSentinel : String := "__tunnel"

def managedTunnelTxStream : String := "tunnel-tx"

def managedTunnelRxStream : String := "tunnel-rx"

/-! ## The endpoints of the product -/

def ManagedWfbStreamConfig.productEndpoint (stream : ManagedWfbStreamConfig) : LinkStreamEndpoint where
  name := stream.name
  direction := stream.direction
  localUdp := stream.appUdp
  payloadKind := .rawApplicationDatagram
  criticality := stream.criticality
  stream := some ⟨stream.linkId, stream.radioPort⟩

namespace ManagedWfbTunnelConfig

variable (tunnel : ManagedWfbTunnelConfig)

def productEndpoint : LinkTunnelEndpoint where
  localIp := tunnel.localIp
  peerIp := tunnel.peerIp
  interfaceName := none

def txProductEndpoint : LinkStreamEndpoint where
  name := managedTunnelTxStream
  direction := .tx
  localUdp := tunnel.tunnelTxUdp
  payloadKind := .rawApplicationDatagram
  criticality := tunnel.criticality
  stream := some ⟨some tunnel.linkId, tunnel.tunnelTxRadioPort⟩

def rxProductEndpoint : LinkStreamEndpoint where
  name := managedTunnelRxStream
  direction := .rx
  localUdp := tunnel.tunnelRxUdp
  payloadKind := .rawApplicationDatagram
  criticality := tunnel.criticality
  stream := some ⟨some tunnel.linkId, tunnel.tunnelRxRadioPort⟩

end ManagedWfbTunnelConfig

/-- `refresh_endpoints` -/
def ManagedWfbStreamsConfig.endpoints (config : ManagedWfbStreamsConfig) : LinkEndpoints where
  streams := config.streams.map (·.productEndpoint) ++
    match config.tunnel with
    | some tunnel => [tunnel.txProductEndpoint, tunnel.rxProductEndpoint]
    | none => []
  tunnel := config.tunnel.map (·.productEndpoint)

def managedWfbTunnelStreams (tunnel : ManagedWfbTunnelConfig) : List ManagedWfbStreamConfig :=
  [{ name := managedTunnelTxStream
     direction := .tx
     linkId := some tunnel.linkId
     radioPort := tunnel.tunnelTxRadioPort
     appUdp := tunnel.tunnelTxUdp
     criticality := tunnel.criticality
     txProfile := tunnel.txProfile },
   { name := managedTunnelRxStream
     direction := .rx
     linkId := some tunnel.linkId
     radioPort := tunnel.tunnelRxRadioPort
     appUdp := tunnel.tunnelRxUdp
     criticality := tunnel.criticality }]

def managedWfbRuntimeStreams (streams : List ManagedWfbStreamConfig) (tunnel : Option ManagedWfbTunnelConfig) :
    List ManagedWfbStreamConfig :=
  match tunnel with
  | some tunnel => streams ++ managedWfbTunnelStreams tunnel
  | none => streams

def validateManagedWfbStreams (streams : List ManagedWfbStreamConfig) : Except LinkError Unit :=
  if streams = [] then
    .error (.invalidBackendConfig "managed_wfb_streams_empty" "ManagedWfbStreamsBackend requires at least one stream")
  else
    streams.forM fun stream =>
      if trim stream.name.toList = [] then
        .error (.invalidBackendConfig "managed_wfb_stream_empty_name" "managed WFB stream name cannot be empty")
      else .ok ()

/-! ## Reserved sockets -/

/-- what the system says when a loopback port is bound -/
inductive PortAnswer where
  | unbound
  | addrInUse
  | bindFailed (source : String)
  | localAddrFailed (source : String)
deriving DecidableEq, Repr

/-- the counter of the ports, which other threads move too, and the answer to each attempt to bind one -/
structure LoopbackHost where
  nextManagedUdpPort : ℕ → UInt64
  answer : ℕ → PortAnswer

/-- a reserved socket, and the attempts that were made so far -/
structure Reservation where
  addr : SocketAddr
  attempts : ℕ
deriving DecidableEq, Repr

def managedUdpPortBase : UInt16 := 39000

def managedUdpPortSpan : UInt16 := 2000

/-- the range of the ports that are reserved -/
def managedUdpPorts : String := s!"{managedUdpPortBase}..{managedUdpPortBase + managedUdpPortSpan - 1}"

/-- the socket that a value of the counter stands for -/
def managedUdpAddr (next : UInt64) : SocketAddr where
  ip := "127.0.0.1"
  port := managedUdpPortBase + (next % managedUdpPortSpan.toUInt64).toUInt16

def reservationFailed (message : String) : LinkError :=
  .invalidBackendConfig "managed_wfb_udp_reservation_failed" message

variable (host : LoopbackHost)

/-- the loop of `reserve_loopback_udp_addr`, with its number of tries -/
def reserveLoopbackUdpAddrTries : ℕ → ℕ → Except LinkError Reservation
  | 0, _ => .error (reservationFailed s!"failed to reserve a loopback UDP port in {managedUdpPorts}")
  | tries + 1, attempts =>
    let addr := managedUdpAddr (host.nextManagedUdpPort attempts)
    match host.answer attempts with
    | .unbound => .ok ⟨addr, attempts + 1⟩
    | .addrInUse => reserveLoopbackUdpAddrTries tries (attempts + 1)
    | .bindFailed source =>
      .error (reservationFailed s!"failed to reserve loopback UDP port {addr.text}: {source}")
    | .localAddrFailed source =>
      .error (reservationFailed s!"failed to read reserved loopback UDP port: {source}")

def reserveLoopbackUdpAddr (attempts : ℕ) : Except LinkError Reservation :=
  reserveLoopbackUdpAddrTries host managedUdpPortSpan.toNat attempts

/-- the loop of `reserve_loopback_udp_addr_excluding` -/
def reserveLoopbackUdpAddrExcludingTries (used : List SocketAddr) : ℕ → ℕ → Except LinkError Reservation
  | 0, _ => .error (reservationFailed s!"failed to reserve a unique loopback UDP port in {managedUdpPorts}")
  | tries + 1, attempts => do
    let reserved ← reserveLoopbackUdpAddr host attempts
    if reserved.addr ∉ used then return reserved
    else reserveLoopbackUdpAddrExcludingTries used tries reserved.attempts

def reserveLoopbackUdpAddrExcluding (used : List SocketAddr) (attempts : ℕ) : Except LinkError Reservation :=
  reserveLoopbackUdpAddrExcludingTries host used managedUdpPortSpan.toNat attempts

/-! ## Mappings -/

/-- the socket of the radio that a stream gives, or a reserved one -/
def managedRadioUdp (used : List SocketAddr) (attempts : ℕ) (stream : ManagedWfbStreamConfig) :
    Except LinkError Reservation :=
  match stream.radioUdp with
  | some radioUdp => .ok ⟨radioUdp, attempts⟩
  | none => reserveLoopbackUdpAddrExcluding host used attempts

def managedWfbStreamMapping (stream : ManagedWfbStreamConfig) (radioUdp : SocketAddr) : ManagedWfbStreamMapping where
  direction := stream.direction
  linkId := stream.linkId
  radioPort := stream.radioPort
  appUdp := stream.appUdp
  radioUdp

/-- the loop of `managed_wfb_stream_mappings` -/
def mapManagedWfbStreams (used : List SocketAddr) (attempts : ℕ) :
    List ManagedWfbStreamConfig → Except LinkError (List ManagedWfbStreamMapping)
  | [] => .ok []
  | stream :: streams => do
    let reserved ← managedRadioUdp host used attempts stream
    let mappings ← mapManagedWfbStreams (reserved.addr :: used) reserved.attempts streams
    return managedWfbStreamMapping stream reserved.addr :: mappings

def managedWfbStreamMappings (streams : List ManagedWfbStreamConfig) : Except LinkError (List ManagedWfbStreamMapping) :=
  mapManagedWfbStreams host [] 0 streams

/-- the endpoint of the radio for a stream -/
def managedRadioEndpoint (stream : ManagedWfbStreamConfig) (mapping : ManagedWfbStreamMapping) :
    LinkStreamEndpoint where
  name := stream.name
  direction := stream.direction
  localUdp := mapping.radioUdp
  payloadKind := .wfbDistributorDatagram
  criticality := stream.criticality
  stream := some ⟨stream.linkId, stream.radioPort⟩

def managedRadioEndpoints (streams : List ManagedWfbStreamConfig) (mappings : List ManagedWfbStreamMapping) :
    Except LinkError LinkEndpoints :=
  if streams.length ≠ mappings.length then
    .error (.invalidBackendConfig "managed_wfb_stream_mapping_mismatch"
      "managed WFB stream mapping count did not match stream count")
  else
    .ok {
      streams := (streams.zip mappings).map fun (stream, mapping) => managedRadioEndpoint stream mapping
      tunnel := none }

/-! ## The radio's contract -/

/-- `{:?}` -/
def PayloadKind.debugText : PayloadKind → String
  | .rawApplicationDatagram => "RawApplicationDatagram"
  | .wfbDistributorDatagram => "WfbDistributorDatagram"

def validateUserspaceRadioStream (stream : LinkStreamEndpoint) : Except LinkError Unit :=
  if stream.payloadKind ≠ .wfbDistributorDatagram then
    .error (.invalidBackendConfig "userspace_radio_requires_wfb_distributor_datagram"
      s!"stream '{stream.name}' is {stream.payloadKind.debugText}; UserspaceRadioBackend only accepts WFB distributor/aggregator datagrams. Use MacosWfbTunnelBackend or a codec/helper layer for raw application datagrams.")
  else if stream.direction = .rx ∧ stream.criticality = .bestEffort then
    .error (.invalidBackendConfig "userspace_radio_rx_best_effort_unsupported"
      s!"stream '{stream.name}' is a best-effort RX stream. UserspaceRadioBackend cannot preflight UDP forward-target reachability, so RX streams must be required until managed RX degradation semantics are implemented.")
  else .ok ()

def validateUserspaceRadioEndpointContract (endpoints : LinkEndpoints) : Except LinkError Unit :=
  endpoints.streams.forM validateUserspaceRadioStream

/-! ## The rewritten configuration -/

/-- the forward of a mapping behind the first one -/
def ManagedWfbStreamMapping.rxForward (mapping : ManagedWfbStreamMapping) : ProductionRuntimeRxForwardConfig where
  linkId := mapping.linkId
  radioPort := mapping.radioPort
  aggregator := some mapping.radioUdp

/-- the sockets of the transmitting mappings -/
def txRadioUdps (mappings : List ManagedWfbStreamMapping) : List SocketAddr :=
  (mappings.filter fun mapping => mapping.direction = .tx).map (·.radioUdp)

def rxMappings (mappings : List ManagedWfbStreamMapping) : List ManagedWfbStreamMapping :=
  mappings.filter fun mapping => mapping.direction = .rx

/-- the first half of `apply_managed_wfb_streams_to_radio` -/
def applyTxBinds (mappings : List ManagedWfbStreamMapping) (config : ProductionRuntimeFlowConfig) :
    ProductionRuntimeFlowConfig :=
  match txRadioUdps mappings with
  | first :: rest => { config with bindAddr := first, txBinds := rest }
  | [] => { config with txBinds := [] }

/-- the second half of `apply_managed_wfb_streams_to_radio` -/
def applyRxForwards (mappings : List ManagedWfbStreamMapping) (config : ProductionRuntimeFlowConfig) :
    ProductionRuntimeFlowConfig :=
  match rxMappings mappings with
  | first :: rest =>
    { config with
      primaryRxForward := {
        linkId := first.linkId
        radioPort := some first.radioPort
        aggregator := some first.radioUdp }
      rxForwards := rest.map (·.rxForward) }
  | [] => { config with primaryRxForward := ⟨none, none, none⟩, rxForwards := [] }

def applyManagedWfbStreamsToRadio (radio : UserspaceRadioConfig) (radioEndpoints : LinkEndpoints)
    (mappings : List ManagedWfbStreamMapping) : UserspaceRadioConfig :=
  { radio with
    runtimeConfig := applyRxForwards mappings (applyTxBinds mappings radio.runtimeConfig)
    endpoints := radioEndpoints }

/-- what the start knows before it starts the radio -/
structure ManagedWiring where
  runtimeStreams : List ManagedWfbStreamConfig
  mappings : List ManagedWfbStreamMapping
  radioEndpoints : LinkEndpoints
  radio : UserspaceRadioConfig

/-- `ManagedWfbStreamsHandle::start` from its validation to the start of the radio -/
def ManagedWfbStreamsConfig.wire (config : ManagedWfbStreamsConfig) : Except LinkError ManagedWiring := do
  (validateLinkEndpoints config.endpoints).mapError .invalidEndpoints
  validateManagedWfbStreams config.streams
  let runtimeStreams := managedWfbRuntimeStreams config.streams config.tunnel
  let mappings ← managedWfbStreamMappings host runtimeStreams
  let radioEndpoints ← managedRadioEndpoints runtimeStreams mappings
  (validateLinkEndpoints radioEndpoints).mapError .invalidEndpoints
  validateUserspaceRadioEndpointContract radioEndpoints
  return {
    runtimeStreams
    mappings
    radioEndpoints
    radio := applyManagedWfbStreamsToRadio config.radio radioEndpoints mappings }

/-! ## Helpers -/

structure Command where
  program : String
  args : List String
deriving DecidableEq, Repr

/-- `addr.ip()`; an IPv6 address stands in brackets, with its scope -/
def ipText (addr : SocketAddr) : String :=
  match addr.ip.toList with
  | '[' :: rest => String.ofList (rest.takeWhile fun c => c ≠ ']' ∧ c ≠ '%')
  | _ => addr.ip

def managedWfbRxCommand (config : ManagedWfbStreamsConfig) (stream : ManagedWfbStreamConfig)
    (mapping : ManagedWfbStreamMapping) : Command where
  program := config.wfbRxBin
  args := [
    "-a", toString mapping.radioUdp.port,
    "-K", config.wfbKey,
    "-i", toString (stream.linkId.getD 0),
    "-p", toString stream.radioPort,
    "-c", ipText stream.appUdp,
    "-u", toString stream.appUdp.port]

def managedWfbTxCommand (config : ManagedWfbStreamsConfig) (stream : ManagedWfbStreamConfig)
    (mapping : ManagedWfbStreamMapping) : Command where
  program := config.wfbTxBin
  args := [
    "-d",
    "-K", config.wfbKey,
    "-i", toString (stream.linkId.getD 0),
    "-p", toString stream.radioPort,
    "-B", toString stream.txProfile.bandwidthMhz,
    "-M", toString stream.txProfile.mcs,
    "-k", toString stream.txProfile.fecK,
    "-n", toString stream.txProfile.fecN,
    "-u", toString stream.appUdp.port,
    mapping.radioUdp.text]

def managedWfbTunCommand (tunnel : ManagedWfbTunnelConfig) (summaryFile : String) : Command :=
  let args := [
    "--local-ip", tunnel.localIp,
    "--peer-ip", tunnel.peerIp,
    "--prefix-len", toString tunnel.prefixLen,
    "--tun-mtu", toString tunnel.tunMtu,
    "--radio-mtu", toString tunnel.radioMtu,
    "--agg-timeout-ms", tunnel.aggTimeoutMs,
    "--tx-peer", tunnel.tunnelTxUdp.text,
    "--rx-bind", tunnel.tunnelRxUdp.text,
    "--summary-file", summaryFile]
  if tunnel.useSudoForTun then { program := "sudo", args := ["-n", tunnel.tunBin] ++ args }
  else { program := tunnel.tunBin, args }

/-- the argument of an option, of a command whose options all take one -/
def optionArg (option : String) : List String → Option String
  | name :: arg :: args => if name = option then some arg else optionArg option args
  | _ => none

/-! ## What is reserved -/

section Reserved

variable {host}
variable {used : List SocketAddr} {tries attempts : ℕ} {reserved : Reservation}

/-- a loopback socket of the reserved range -/
def ManagedUdp (addr : SocketAddr) : Prop :=
  addr.ip = "127.0.0.1" ∧ managedUdpPortBase ≤ addr.port ∧ addr.port < managedUdpPortBase + managedUdpPortSpan

theorem managedUdpAddr_managed (next : UInt64) : ManagedUdp (managedUdpAddr next) := by
  have hoffset : (next % managedUdpPortSpan.toUInt64).toUInt16.toNat < 2000 := by
    have hspan : managedUdpPortSpan.toUInt64.toNat = 2000 := rfl
    rw [UInt64.toNat_toUInt16, UInt64.toNat_mod, hspan]
    omega
  have hbase : managedUdpPortBase.toNat = 39000 := rfl
  have hlimit : (managedUdpPortBase + managedUdpPortSpan).toNat = 41000 := rfl
  refine ⟨rfl, ?_, ?_⟩
  · rw [managedUdpAddr, UInt16.le_iff_toNat_le, UInt16.toNat_add]
    omega
  · rw [managedUdpAddr, UInt16.lt_iff_toNat_lt, UInt16.toNat_add]
    omega

theorem reserveLoopbackUdpAddrTries_managed (h : reserveLoopbackUdpAddrTries host tries attempts = .ok reserved) :
    ManagedUdp reserved.addr := by
  induction tries generalizing attempts with
  | zero => cases h
  | succ tries ih =>
    rw [reserveLoopbackUdpAddrTries] at h
    cases hanswer : host.answer attempts with
    | unbound =>
      rw [hanswer] at h
      cases h
      exact managedUdpAddr_managed _
    | addrInUse =>
      rw [hanswer] at h
      exact ih h
    | bindFailed source =>
      rw [hanswer] at h
      cases h
    | localAddrFailed source =>
      rw [hanswer] at h
      cases h

/-- **A reserved socket** is of the reserved range, and is not one that is used. -/
theorem reserveLoopbackUdpAddrExcluding_reserved (h : reserveLoopbackUdpAddrExcluding host used attempts = .ok reserved) :
    ManagedUdp reserved.addr ∧ reserved.addr ∉ used := by
  rw [reserveLoopbackUdpAddrExcluding] at h
  generalize managedUdpPortSpan.toNat = tries at h
  induction tries generalizing attempts with
  | zero => cases h
  | succ tries ih =>
    rw [reserveLoopbackUdpAddrExcludingTries] at h
    obtain ⟨next, hnext, h⟩ := except_bind_ok h
    split_ifs at h with hused
    · exact ih h
    · cases h
      exact ⟨reserveLoopbackUdpAddrTries_managed hnext, hused⟩

end Reserved

/-! ## What is mapped -/

section Mapped

variable {host}
variable {used : List SocketAddr} {attempts : ℕ} {streams : List ManagedWfbStreamConfig}
  {mappings : List ManagedWfbStreamMapping}

/-- the mapping of a stream, to the socket that it gives or to one of the reserved range -/
structure Maps (stream : ManagedWfbStreamConfig) (mapping : ManagedWfbStreamMapping) : Prop where
  described : mapping = managedWfbStreamMapping stream mapping.radioUdp
  kept : ∀ radioUdp, stream.radioUdp = some radioUdp → mapping.radioUdp = radioUdp
  reserved : stream.radioUdp = none → ManagedUdp mapping.radioUdp

theorem managedRadioUdp_maps {stream : ManagedWfbStreamConfig} {reserved : Reservation}
    (h : managedRadioUdp host used attempts stream = .ok reserved) :
    Maps stream (managedWfbStreamMapping stream reserved.addr) := by
  rw [managedRadioUdp] at h
  cases hgiven : stream.radioUdp with
  | some radioUdp =>
    rw [hgiven] at h
    cases h
    refine { described := rfl, kept := fun _ hsame => ?_, reserved := fun hnone => ?_ }
    · exact Option.some.inj (hgiven.symm.trans hsame)
    · cases hgiven.symm.trans hnone
  | none =>
    rw [hgiven] at h
    obtain ⟨hmanaged, _⟩ := reserveLoopbackUdpAddrExcluding_reserved h
    refine { described := rfl, kept := fun _ hsome => ?_, reserved := fun _ => hmanaged }
    cases hgiven.symm.trans hsome

theorem mappings_described (h : mapManagedWfbStreams host used attempts streams = .ok mappings) :
    List.Forall₂ Maps streams mappings := by
  induction streams generalizing used attempts mappings with
  | nil =>
    cases h
    exact .nil
  | cons stream streams ih =>
    rw [mapManagedWfbStreams] at h
    obtain ⟨reserved, hreserved, h⟩ := except_bind_ok h
    obtain ⟨rest, hrest, h⟩ := except_bind_ok h
    cases h
    exact .cons (managedRadioUdp_maps hreserved) (ih hrest)

/-- the mappings of streams, as a function of the sockets they are mapped to -/
theorem Maps.map_eq {α : Type} {f : ManagedWfbStreamConfig → α} {g : ManagedWfbStreamMapping → α}
    (hsame : ∀ stream radioUdp, g (managedWfbStreamMapping stream radioUdp) = f stream)
    (h : List.Forall₂ Maps streams mappings) : mappings.map g = streams.map f := by
  induction h with
  | nil => rfl
  | cons hmaps _ ih =>
    rw [List.map_cons, List.map_cons, ih, hmaps.described, hsame]

theorem managedRadioEndpoints_sockets {endpoints : LinkEndpoints}
    (h : managedRadioEndpoints streams mappings = .ok endpoints) :
    endpoints.streams.map (·.localUdp) = mappings.map (·.radioUdp) := by
  rw [managedRadioEndpoints] at h
  split_ifs at h with hlength
  cases h
  have hzip : (streams.zip mappings).map Prod.snd = mappings := List.map_snd_zip (not_not.1 hlength).ge
  rw [← hzip, List.map_map, List.map_map, hzip]
  rfl

end Mapped

/-! ## What is rewritten -/

section Applied

variable {config : ProductionRuntimeFlowConfig} {mappings : List ManagedWfbStreamMapping}

/-- only the sockets and the forwards are rewritten -/
theorem applied_rest (mappings : List ManagedWfbStreamMapping) (config : ProductionRuntimeFlowConfig) :
    ∃ bindAddr txBinds primaryRxForward rxForwards, applyRxForwards mappings (applyTxBinds mappings config) =
      { config with bindAddr, txBinds, primaryRxForward, rxForwards } := by
  rw [applyTxBinds, applyRxForwards]
  cases txRadioUdps mappings with
  | nil =>
    cases rxMappings mappings with
    | nil => exact ⟨_, _, _, _, rfl⟩
    | cons first rest => exact ⟨_, _, _, _, rfl⟩
  | cons bind binds =>
    cases rxMappings mappings with
    | nil => exact ⟨_, _, _, _, rfl⟩
    | cons first rest => exact ⟨_, _, _, _, rfl⟩

/-- the sockets of the transmitting streams are bound, in their order -/
theorem applied_binds (htx : txRadioUdps mappings ≠ []) :
    runtimeTxBindAddrs (applyRxForwards mappings (applyTxBinds mappings config)) = txRadioUdps mappings := by
  have hforwards : ∀ config, runtimeTxBindAddrs (applyRxForwards mappings config) = runtimeTxBindAddrs config := by
    intro config
    rw [applyRxForwards]
    cases rxMappings mappings with
    | nil => rfl
    | cons first rest => rfl
  obtain ⟨first, rest, hbinds⟩ := List.exists_cons_of_ne_nil htx
  rw [hforwards, applyTxBinds, hbinds]
  rfl

/-- the receiving streams are forwarded, in their order -/
theorem applied_forwards (mappings : List ManagedWfbStreamMapping) (config : ProductionRuntimeFlowConfig) :
    ForwardsTo (applyRxForwards mappings config).wfbLoopConfig ((rxMappings mappings).map (·.rxForward)) := by
  rw [applyRxForwards]
  cases rxMappings mappings with
  | nil => exact ⟨rfl, rfl⟩
  | cons first rest => exact ⟨rfl, rfl⟩

/-- an accepted configuration is still accepted, exactly if the receiving streams have link ids that fit -/
theorem applied_accepted {validation : ProductionRuntimeFlowValidation} (h : config.validate = .ok validation) :
    (∃ validation, (applyRxForwards mappings (applyTxBinds mappings config)).validate = .ok validation) ↔
      ∀ mapping ∈ rxMappings mappings, ∃ linkId, mapping.linkId = some linkId ∧ linkId ≤ 0x00ffffff := by
  obtain ⟨hnumber, hsupports, hplan, hfirmware, hcalibration⟩ := validate_steps h
  obtain ⟨htimeout, hburst, hschedule, _⟩ := plan_ok hplan
  have htargets := applied_forwards mappings (applyTxBinds mappings config)
  obtain ⟨bindAddr, txBinds, primaryRxForward, rxForwards, happlied⟩ := applied_rest mappings config
  rw [happlied] at htargets ⊢
  constructor
  · rintro ⟨rewritten, hrewritten⟩ mapping hmapping
    obtain ⟨_, _, hreplan, _⟩ := validate_steps hrewritten
    have hplanned := List.forall₂_map_left_iff.1 (planned_targets htargets hreplan)
    obtain ⟨forward, _, linkId, hlink, hfits, _⟩ := forall₂_exists_right hplanned mapping hmapping
    exact ⟨linkId, hlink, hfits⟩
  · intro hfits
    obtain ⟨plan, hreplan⟩ := plan_of_targets htargets (List.forall_mem_map.2 hfits) htimeout hburst hschedule
    refine ⟨⟨validation.calibration, plan⟩, ?_⟩
    exact validate_of_steps hnumber hsupports hreplan hfirmware hcalibration

end Applied

/-! ## The wiring -/

/-- an RX stream is forwarded to its socket, with the link id of its helper -/
structure Forwarded (config : ManagedWfbStreamsConfig) (stream : ManagedWfbStreamConfig)
    (mapping : ManagedWfbStreamMapping) (forward : ProductionRuntimeRxForwardConfig) : Prop where
  linkId : forward.linkId = stream.linkId
  radioPort : forward.radioPort = stream.radioPort
  aggregator : forward.aggregator = some mapping.radioUdp
  helper : ∀ linkId, stream.linkId = some linkId →
    optionArg "-i" (managedWfbRxCommand config stream mapping).args = some (toString linkId)

/-- the streams of a direction with their mappings -/
def ManagedWiring.streamsOf (wiring : ManagedWiring) (direction : LinkDirection) :
    List (ManagedWfbStreamConfig × ManagedWfbStreamMapping) :=
  (wiring.runtimeStreams.zip wiring.mappings).filter fun wired => wired.1.direction = direction

/-- the streams of a configuration are wired -/
structure Wired (config : ManagedWfbStreamsConfig) (wiring : ManagedWiring) : Prop where
  streams : wiring.runtimeStreams = managedWfbRuntimeStreams config.streams config.tunnel
  mapped : List.Forall₂ Maps wiring.runtimeStreams wiring.mappings
  radioSockets : (wiring.mappings.map (·.radioUdp)).Nodup
  appSockets : (wiring.mappings.map (·.appUdp)).Nodup
  apart : (∀ stream ∈ wiring.runtimeStreams, ¬ ManagedUdp stream.appUdp ∧
      ∀ other ∈ wiring.runtimeStreams, other.radioUdp ≠ some stream.appUdp) →
    (wiring.mappings.map (·.radioUdp) ++ wiring.mappings.map (·.appUdp)).Nodup
  binds : wiring.streamsOf .tx ≠ [] →
    runtimeTxBindAddrs wiring.radio.runtimeConfig = (wiring.streamsOf .tx).map (·.2.radioUdp)
  forwards : ∃ forwards, ForwardsTo wiring.radio.runtimeConfig.wfbLoopConfig forwards ∧
    List.Forall₂ (fun wired => Forwarded config wired.1 wired.2) (wiring.streamsOf .rx) forwards
  accepted : ∀ validation, config.radio.runtimeConfig.validate = .ok validation →
    ((∃ validation, wiring.radio.runtimeConfig.validate = .ok validation) ↔
      ∀ wired ∈ wiring.streamsOf .rx, ∃ linkId, wired.1.linkId = some linkId ∧ linkId ≤ 0x00ffffff)

variable {host}
variable {config : ManagedWfbStreamsConfig} {wiring : ManagedWiring}

theorem except_mapError_ok {ε δ α : Type} {f : ε → δ} {r : Except ε α} {a : α} (h : r.mapError f = .ok a) :
    r = .ok a := by
  cases r with
  | error error => cases h
  | ok value =>
    cases h
    rfl

/-- the steps of a wiring that is accepted -/
theorem wire_ok (h : config.wire host = .ok wiring) :
    validateLinkEndpoints config.endpoints = .ok () ∧
      wiring.runtimeStreams = managedWfbRuntimeStreams config.streams config.tunnel ∧
      managedWfbStreamMappings host wiring.runtimeStreams = .ok wiring.mappings ∧
      managedRadioEndpoints wiring.runtimeStreams wiring.mappings = .ok wiring.radioEndpoints ∧
      validateLinkEndpoints wiring.radioEndpoints = .ok () ∧
      wiring.radio = applyManagedWfbStreamsToRadio config.radio wiring.radioEndpoints wiring.mappings := by
  rw [ManagedWfbStreamsConfig.wire] at h
  obtain ⟨_, hproduct, h⟩ := except_bind_ok h
  obtain ⟨_, _, h⟩ := except_bind_ok h
  obtain ⟨mappings, hmappings, h⟩ := except_bind_ok h
  obtain ⟨radioEndpoints, hendpoints, h⟩ := except_bind_ok h
  obtain ⟨_, hradio, h⟩ := except_bind_ok h
  obtain ⟨_, _, h⟩ := except_bind_ok h
  cases h
  exact ⟨except_mapError_ok hproduct, rfl, hmappings, hendpoints, except_mapError_ok hradio, rfl⟩

/-- the endpoints of the product have the applications' sockets -/
theorem endpoints_sockets (config : ManagedWfbStreamsConfig) :
    config.endpoints.streams.map (·.localUdp) =
      (managedWfbRuntimeStreams config.streams config.tunnel).map (·.appUdp) := by
  rw [ManagedWfbStreamsConfig.endpoints, managedWfbRuntimeStreams.eq_def]
  cases config.tunnel with
  | none =>
    rw [List.append_nil, List.map_map]
    rfl
  | some tunnel =>
    rw [List.map_append, List.map_append, List.map_map]
    rfl

/-- the mappings of a direction are those of its streams -/
theorem zip_mappings {streams : List ManagedWfbStreamConfig} {mappings : List ManagedWfbStreamMapping}
    (hmapped : List.Forall₂ Maps streams mappings) (direction : LinkDirection) :
    ((streams.zip mappings).filter fun wired => wired.1.direction = direction).map Prod.snd =
      mappings.filter fun mapping => mapping.direction = direction := by
  induction hmapped with
  | nil => rfl
  | @cons stream mapping streams mappings hmaps _ ih =>
    have hdirection : mapping.direction = stream.direction := by
      rw [hmaps.described]
      rfl
    rw [List.zip_cons_cons, List.filter_cons, List.filter_cons, hdirection]
    split_ifs with hsame
    · rw [List.map_cons, ih]
    · exact ih

theorem streamsOf_maps (hmapped : List.Forall₂ Maps wiring.runtimeStreams wiring.mappings)
    {direction : LinkDirection} {wired : ManagedWfbStreamConfig × ManagedWfbStreamMapping}
    (hwired : wired ∈ wiring.streamsOf direction) : Maps wired.1 wired.2 :=
  (List.forall₂_iff_zip.1 hmapped).2 (List.mem_filter.1 hwired).1

/-- the helper of an RX stream with a link id is told that link id -/
theorem rxCommand_linkId (config : ManagedWfbStreamsConfig) (mapping : ManagedWfbStreamMapping)
    {stream : ManagedWfbStreamConfig} {linkId : UInt32} (hlink : stream.linkId = some linkId) :
    optionArg "-i" (managedWfbRxCommand config stream mapping).args = some (toString linkId) := by
  rw [managedWfbRxCommand, hlink]
  rfl

theorem forwarded_of_maps (config : ManagedWfbStreamsConfig) {stream : ManagedWfbStreamConfig}
    {mapping : ManagedWfbStreamMapping} (hmaps : Maps stream mapping) :
    Forwarded config stream mapping mapping.rxForward := by
  rw [ManagedWfbStreamMapping.rxForward]
  refine { linkId := ?_, radioPort := ?_, aggregator := rfl, helper := fun _ => rxCommand_linkId config mapping }
  · rw [hmaps.described]
    rfl
  · rw [hmaps.described]
    rfl

/-- **The streams of every accepted configuration are wired.** -/
theorem managed_wiring (host : LoopbackHost) (config : ManagedWfbStreamsConfig) (wiring : ManagedWiring)
    (h : config.wire host = .ok wiring) : Wired config wiring := by
  obtain ⟨hproduct, hstreams, hmappings, hendpoints, hradio, hconfig⟩ := wire_ok h
  have hmapped : List.Forall₂ Maps wiring.runtimeStreams wiring.mappings := mappings_described hmappings
  have happs : wiring.mappings.map (·.appUdp) = wiring.runtimeStreams.map (·.appUdp) :=
    Maps.map_eq (fun _ _ => rfl) hmapped
  have hradioSockets : (wiring.mappings.map (·.radioUdp)).Nodup :=
    managedRadioEndpoints_sockets hendpoints ▸ (validateLinkEndpoints_ok hradio).sockets
  have happSockets : (wiring.mappings.map (·.appUdp)).Nodup := by
    rw [happs, hstreams, ← endpoints_sockets]
    exact (validateLinkEndpoints_ok hproduct).sockets
  have htx : (wiring.streamsOf .tx).map (·.2.radioUdp) = txRadioUdps wiring.mappings := by
    rw [txRadioUdps, ← zip_mappings hmapped .tx, List.map_map]
    rfl
  have hrx : (wiring.streamsOf .rx).map Prod.snd = rxMappings wiring.mappings := zip_mappings hmapped .rx
  refine {
    streams := hstreams
    mapped := hmapped
    radioSockets := hradioSockets
    appSockets := happSockets
    apart := fun happart => List.Nodup.append hradioSockets happSockets ?_
    binds := fun hsome => ?_
    forwards := ⟨(rxMappings wiring.mappings).map (·.rxForward), ?_, ?_⟩
    accepted := fun validation hvalid => ?_ }
  · -- a socket of the radio that an application has too was given or reserved
    intro socket hsocket happ
    obtain ⟨mapping, hmapping, rfl⟩ := List.mem_map.1 hsocket
    rw [happs] at happ
    obtain ⟨stream, hstream, hsame⟩ := List.mem_map.1 happ
    obtain ⟨hunmanaged, hungiven⟩ := happart stream hstream
    obtain ⟨owner, howner, hmaps⟩ := forall₂_exists_left hmapped mapping hmapping
    cases hgiven : owner.radioUdp with
    | none => exact hunmanaged (hsame ▸ hmaps.reserved hgiven)
    | some radioUdp =>
      refine hungiven owner howner ?_
      rw [hgiven, hsame, hmaps.kept radioUdp hgiven]
  · rw [htx, hconfig]
    refine applied_binds fun hnone => hsome ?_
    rw [← htx] at hnone
    exact List.map_eq_nil_iff.1 hnone
  · rw [hconfig]
    exact applied_forwards _ _
  · rw [← hrx, List.map_map, List.forall₂_map_right_iff, List.forall₂_same]
    exact fun wired hwired => forwarded_of_maps config (streamsOf_maps hmapped hwired)
  · rw [hconfig]
    refine (applied_accepted hvalid).trans ?_
    rw [← hrx, List.forall_mem_map]
    refine forall₂_congr fun wired hwired => ?_
    rw [(streamsOf_maps hmapped hwired).described]
    rfl

/-! ## Samples -/

/-- the first port is in use, the others are not -/
def sampleLoopback : LoopbackHost where
  nextManagedUdpPort := fun attempts => attempts.toUInt64
  answer := fun attempts => if attempts = 0 then .addrInUse else .unbound

def sampleRadioConfig : UserspaceRadioConfig where
  runtimeConfig := sampleFlowConfig ⟨36, 5180, .ghz5⟩ .mhz20
  endpoints := { streams := [], tunnel := none }

def sampleStreamsConfig : ManagedWfbStreamsConfig where
  radio := sampleRadioConfig
  wfbKey := "/tmp/gs.key"
  artifactDir := "/tmp/managed"
  streams := [
    { name := "video-down", direction := .rx, linkId := some 1, radioPort := 4, appUdp := ⟨"127.0.0.1", 5804⟩ },
    { name := "control-up", direction := .tx, linkId := some 1, radioPort := 6, appUdp := ⟨"127.0.0.1", 5606⟩,
      radioUdp := some ⟨"127.0.0.1", 5906⟩ }]
  tunnel := some { localIp := "10.5.0.1", peerIp := "10.5.0.2", linkId := 1 }

/-- two streams and a tunnel -/
theorem managed_wiring_sample : ∃ wiring, sampleStreamsConfig.wire sampleLoopback = .ok wiring ∧
    wiring.mappings.map (·.radioUdp.port) = [39001, 5906, 39002, 39003] ∧ Wired sampleStreamsConfig wiring :=
  ⟨_, rfl, by decide +kernel, managed_wiring sampleLoopback sampleStreamsConfig _ rfl⟩

/-- one receiving stream, whose application has the second port of the reserved range -/
def sampleUnlinkedConfig : ManagedWfbStreamsConfig where
  radio := sampleRadioConfig
  wfbKey := "/tmp/gs.key"
  artifactDir := "/tmp/managed"
  streams := [{ name := "video-down", direction := .rx, radioPort := 4, appUdp := ⟨"127.0.0.1", 39001⟩ }]

/-- the application's socket is reserved for the radio, a socket that no stream has is bound, the helper is told a link
id that the forward lacks, and the rewritten configuration is refused -/
theorem unlinked_stream_unwired : ∃ wiring, sampleUnlinkedConfig.wire sampleLoopback = .ok wiring ∧
    (∃ validation, sampleUnlinkedConfig.radio.runtimeConfig.validate = .ok validation) ∧
    wiring.mappings.map (·.radioUdp) = wiring.mappings.map (·.appUdp) ∧
    wiring.streamsOf .tx = [] ∧ runtimeTxBindAddrs wiring.radio.runtimeConfig = [⟨"127.0.0.1", 5600⟩] ∧
    (wiring.streamsOf .rx).map (fun wired =>
      optionArg "-i" (managedWfbRxCommand sampleUnlinkedConfig wired.1 wired.2).args) = [some "0"] ∧
    wiring.radio.runtimeConfig.primaryRxForward.linkId = none ∧
    ∀ validation, wiring.radio.runtimeConfig.validate ≠ .ok validation := by
  refine ⟨_, rfl, ⟨_, rfl⟩, ?_, ?_, ?_, ?_, ?_, ?_⟩
  · decide +kernel
  · decide +kernel
  · decide +kernel
  · decide +kernel
  · decide +kernel
  · intro validation h
    cases h

end WfbLink.Link
