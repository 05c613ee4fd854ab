/-
The configuration of the radio service (`wfb-radio-service`): the config file, the command line over it, and the
settings they resolve to. Paths are their text.

- `parseServiceRxForwardArg_text`: a forward is read back from the text a stream was printed to.
-/
import WfbLink.Core.SocketText
import WfbLink.Runtime.FlowConfig

namespace WfbLink.Service

open WfbLink.Core WfbLink.RadioCore WfbLink.Runtime

/-! ## Choices -/

inductive ServiceStreamDirection where
  | tx
  | rx
deriving DecidableEq, Repr

inductive ServiceStreamPayloadKind where
  | rawApplicationDatagram
  | wfbDistributorDatagram
deriving DecidableEq, Repr

inductive ServiceStreamCriticality where
  | required
  | bestEffort
deriving DecidableEq, Repr

inductive ServiceTxPowerControlMode where
  | manualIndex
  | efuseDerived
deriving DecidableEq, Repr

inductive ServiceTxPowerSafetyProfile where
  | maxIndex
  | linuxCh36Ht20
deriving DecidableEq, Repr

inductive ServiceTxPowerPath where
  | a
  | b
  | both
deriving DecidableEq, Repr

inductive ServiceTxCalibrationProfile where
  | currentDefault
  | linuxParityCh36Ht20
  | rtl8812aLck
  | rtl8812aIqkProbe
  | rtl8812aRuntimeIqk
deriving DecidableEq, Repr

inductive ServiceAirtimeMode where
  | continuous
  | tdd
deriving DecidableEq, Repr

inductive ServiceTddWindow where
  | rx
  | tx
deriving DecidableEq, Repr

def ServiceTxCalibrationProfile.toRuntime : ServiceTxCalibrationProfile → TxCalibrationProfile
  | .currentDefault => .currentDefault
  | .linuxParityCh36Ht20 => .linuxParityCh36Ht20
  | .rtl8812aLck => .rtl8812aLck
  | .rtl8812aIqkProbe => .rtl8812aIqkProbe
  | .rtl8812aRuntimeIqk => .rtl8812aRuntimeIqk

def ServiceAirtimeMode.toRuntime : ServiceAirtimeMode → ProductionRuntimeAirtimeMode
  | .continuous => .continuous
  | .tdd => .tdd

def ServiceTddWindow.toRuntime : ServiceTddWindow → ProductionRuntimeTddWindow
  | .rx => .rx
  | .tx => .tx

/-! ## The config file -/

structure ServiceAdapterConfig where
  vid : Option UInt16 := none
  pid : Option UInt16 := none
  bus : Option UInt8 := none
  address : Option UInt8 := none
deriving DecidableEq, Repr

structure ServiceMacosUsbHostConfig where
  enabled : Option Bool := none
  configurationValue : Option UInt8 := none
  interfaceNumber : Option UInt8 := none
  bulkInEndpoint : Option UInt8 := none
  bulkOutEndpoint : Option UInt8 := none
  bulkOutEndpointCount : Option ℕ := none
  pollAttempts : Option UInt32 := none
  pollDelayMs : Option UInt64 := none

structure ServiceAndroidUsbHostConfig where
  enabled : Option Bool := none
  deviceFd : Option Int32 := none
  interfaceNumber : Option UInt8 := none
  bulkInEndpoint : Option UInt8 := none
  bulkOutEndpoint : Option UInt8 := none
  bulkOutEndpointCount : Option ℕ := none

structure ServiceRadioConfig where
  channel : Option UInt8 := none
  bandwidthMhz : Option UInt16 := none
  firmware : Option String := none
  durationMs : Option UInt64 := none
  rxTimeoutMs : Option UInt64 := none
  txBurstLimit : Option UInt32 := none
  txMinIntervalUs : Option UInt64 := none
  maxDatagrams : Option UInt32 := none

structure ServiceAirtimeConfig where
  mode : Option ServiceAirtimeMode := none
  tddFirstWindow : Option ServiceTddWindow := none
  tddRxWindowMs : Option UInt64 := none
  tddTxWindowMs : Option UInt64 := none
  tddGuardMs : Option UInt64 := none
  tddStartDelayMs : Option UInt64 := none

structure ServiceWfbConfig where
  bind : Option Net.SocketAddr := none
  txBinds : Option (List Net.SocketAddr) := none
  linkId : Option UInt32 := none
  radioPort : Option UInt8 := none
  rxAggregator : Option Net.SocketAddr := none
  rxForwards : Option (List String) := none
  rxWlanIdx : Option UInt8 := none
  rxMcsIndex : Option UInt8 := none

structure ServiceStreamConfig where
  name : String
  direction : ServiceStreamDirection
  radioPort : UInt8
  localUdp : Net.SocketAddr
  linkId : Option UInt32 := none
  payloadKind : Option ServiceStreamPayloadKind := none
  criticality : Option ServiceStreamCriticality := none

inductive IpAddr where
  | v4 (addr : Net.Ipv4Addr)
  | v6 (addr : Net.Ipv6Addr)
deriving DecidableEq, Repr

structure ServiceTunnelConfig where
  localIp : IpAddr
  peerIp : IpAddr
  interfaceName : Option String := none
deriving DecidableEq, Repr

structure ServiceTxPowerConfig where
  mode : Option ServiceTxPowerControlMode := none
  index : Option UInt8 := none
  path : Option ServiceTxPowerPath := none
  efuseReport : Option String := none
  efuseLogicalMap : Option String := none
  safetyProfile : Option ServiceTxPowerSafetyProfile := none
  maxIndex : Option UInt8 := none

structure ServiceCalibrationConfig where
  profile : Option ServiceTxCalibrationProfile := none
deriving DecidableEq, Repr

structure ServiceHeartbeatConfig where
  enabled : Option Bool := none
  halfPeriodMs : Option UInt64 := none
deriving DecidableEq, Repr

structure ServiceAuthorizationConfig where
  transmit : Option Bool := none
  liveRegisterWrites : Option Bool := none
deriving DecidableEq, Repr

structure ServiceArtifactConfig where
  readyFile : Option String := none
  healthFile : Option String := none
deriving DecidableEq, Repr

structure ServiceConfigFile where
  adapter : Option ServiceAdapterConfig := none
  macosUsbhost : Option ServiceMacosUsbHostConfig := none
  androidUsbhost : Option ServiceAndroidUsbHostConfig := none
  radio : Option ServiceRadioConfig := none
  airtime : Option ServiceAirtimeConfig := none
  wfb : Option ServiceWfbConfig := none
  streams : Option (List ServiceStreamConfig) := none
  tunnel : Option ServiceTunnelConfig := none
  txPower : Option ServiceTxPowerConfig := none
  calibration : Option ServiceCalibrationConfig := none
  heartbeat : Option ServiceHeartbeatConfig := none
  authorization : Option ServiceAuthorizationConfig := none
  artifacts : Option ServiceArtifactConfig := none

/-! ## The command line -/

/-- without an override, as `config_only` makes it -/
structure ServiceCli where
  report : Option String := none
  config : String
  vid : Option UInt16 := none
  pid : Option UInt16 := none
  bus : Option UInt8 := none
  address : Option UInt8 := none
  macosUsbhost : Bool := false
  macosConfigurationValue : Option UInt8 := none
  macosInterfaceNumber : Option UInt8 := none
  macosBulkInEndpoint : Option UInt8 := none
  macosBulkOutEndpoint : Option UInt8 := none
  macosBulkOutEndpointCount : Option ℕ := none
  macosPollAttempts : Option UInt32 := none
  macosPollDelayMs : Option UInt64 := none
  androidUsbhost : Bool := false
  androidDeviceFd : Option Int32 := none
  androidInterfaceNumber : Option UInt8 := none
  androidBulkInEndpoint : Option UInt8 := none
  androidBulkOutEndpoint : Option UInt8 := none
  androidBulkOutEndpointCount : Option ℕ := none
  channel : Option UInt8 := none
  bandwidth : Option Bandwidth := none
  firmware : Option String := none
  bind : Option Net.SocketAddr := none
  txBinds : List Net.SocketAddr := []
  durationMs : Option UInt64 := none
  rxTimeoutMs : Option UInt64 := none
  txBurstLimit : Option UInt32 := none
  txMinIntervalUs : Option UInt64 := none
  maxDatagrams : Option UInt32 := none
  airtimeMode : Option ServiceAirtimeMode := none
  airtimeTddFirstWindow : Option ServiceTddWindow := none
  airtimeTddRxWindowMs : Option UInt64 := none
  airtimeTddTxWindowMs : Option UInt64 := none
  airtimeTddGuardMs : Option UInt64 := none
  airtimeTddStartDelayMs : Option UInt64 := none
  readyFile : Option String := none
  healthFile : Option String := none
  iUnderstandThisWritesRegisters : Bool := false
  txPowerIndex : Option UInt8 := none
  txPowerMode : Option ServiceTxPowerControlMode := none
  txPowerPath : Option ServiceTxPowerPath := none
  txPowerEfuseReport : Option String := none
  txPowerEfuseLogicalMap : Option String := none
  txPowerSafetyProfile : Option ServiceTxPowerSafetyProfile := none
  txPowerMaxIndex : Option UInt8 := none
  txCalibrationProfile : Option ServiceTxCalibrationProfile := none
  noHeartbeatLed : Bool := false
  heartbeatLedHalfPeriodMs : Option UInt64 := none
  wfbLinkId : Option UInt32 := none
  wfbRadioPort : Option UInt8 := none
  rxAggregator : Option Net.SocketAddr := none
  rxForwards : List String := []
  rxWlanIdx : Option UInt8 := none
  rxMcsIndex : Option UInt8 := none

def ServiceCli.configOnly (config : String) : ServiceCli := { config }

/-! ## Resolved settings -/

structure ResolvedServiceStream where
  name : String
  direction : ServiceStreamDirection
  radioPort : UInt8
  localUdp : Net.SocketAddr
  linkId : Option UInt32
  payloadKind : ServiceStreamPayloadKind
  criticality : ServiceStreamCriticality

structure ResolvedServiceTunnel where
  localIp : IpAddr
  peerIp : IpAddr
  interfaceName : Option String
deriving DecidableEq, Repr

structure ResolvedServiceTxPowerControl where
  mode : Option ServiceTxPowerControlMode
  index : Option UInt8
  path : ServiceTxPowerPath
  efuseReport : Option String
  efuseLogicalMap : Option String
  safetyProfile : ServiceTxPowerSafetyProfile
  maxIndex : UInt8

structure ResolvedServiceRun where
  report : Option String
  adapter : ServiceAdapterConfig
  macosUsbhost : ServiceMacosUsbHostConfig
  androidUsbhost : ServiceAndroidUsbHostConfig
  channel : UInt8
  bandwidth : Bandwidth
  firmware : String
  bind : Net.SocketAddr
  txBinds : List Net.SocketAddr
  durationMs : UInt64
  rxTimeoutMs : UInt64
  txBurstLimit : UInt32
  txMinIntervalUs : UInt64
  maxDatagrams : UInt32
  airtimeSchedule : ProductionRuntimeAirtimeSchedule
  readyFile : Option String
  healthFile : Option String
  txAuthorized : Bool
  liveRegisterWriteAuthorized : Bool
  txPower : ResolvedServiceTxPowerControl
  calibrationProfile : ServiceTxCalibrationProfile
  heartbeatEnabled : Bool
  heartbeatHalfPeriodMs : UInt64
  wfbLinkId : Option UInt32
  wfbRadioPort : Option UInt8
  rxAggregator : Option Net.SocketAddr
  rxForwards : List String
  rxWlanIdx : UInt8
  rxMcsIndex : UInt8
  streams : List ResolvedServiceStream
  tunnel : Option ResolvedServiceTunnel

structure ServiceRxForwardArg where
  linkId : Option UInt32
  radioPort : UInt8
  aggregator : Net.SocketAddr
deriving DecidableEq, Repr

def defaultHeartbeatHalfPeriodMs : UInt64 := 500

def rtl8812auTxPowerIndexMax : UInt8 := 0x3f

def serviceMissingRequired (field : String) : RuntimeRadioError :=
  .new "service_config_missing_required" s!"wfb-radio-service requires {field} from CLI or --config"

def serviceDefaultBind : Net.SocketAddr := .v4 ⟨⟨127, 0, 0, 1⟩, 5600⟩

/-! ## Bandwidths -/

/-- `str::trim_start_matches`: the pattern is taken away as often as it is there -/
def trimStartMatches (pattern : List Char) : ℕ → List Char → List Char
  | 0, text => text
  | rounds + 1, text =>
    match stripPrefix pattern text with
    | some rest => trimStartMatches pattern rounds rest
    | none => text

def trimEndMatches (pattern : List Char) (rounds : ℕ) (text : List Char) : List Char :=
  (trimStartMatches pattern.reverse rounds text.reverse).reverse

def parseBandwidth (input : List Char) : Except String Bandwidth :=
  let normalized := ((trim input).map Char.toLower).filter fun c => c != '-' && c != '_' && c != ' '
  let unit := "mhz".toList
  let digits := trimEndMatches unit normalized.length (trimStartMatches unit normalized.length normalized)
  if digits = ['2', '0'] then .ok .mhz20
  else if digits = ['4', '0'] then .ok .mhz40
  else if digits = ['8', '0'] then .ok .mhz80
  else .error "expected 20, 40, or 80 MHz"

def serviceConfigBandwidth : Option UInt16 → Except RuntimeRadioError (Option Bandwidth)
  | none => .ok none
  | some mhz =>
    match parseBandwidth (Nat.toDigits 10 mhz.toNat) with
    | .ok bandwidth => .ok (some bandwidth)
    | .error error => .error (.new "service_config_invalid_field" s!"radio.bandwidth_mhz: {error}")

/-- a width is read back from its number -/
theorem serviceConfigBandwidth_mhz (bandwidth : Bandwidth) :
    serviceConfigBandwidth (some bandwidth.mhz) = .ok (some bandwidth) := by
  cases bandwidth <;> decide

/-! ## Streams -/

structure ServiceStreamRxInputs where
  linkId : Option UInt32
  radioPort : UInt8
  aggregator : Net.SocketAddr
  rxForwards : List String
deriving DecidableEq, Repr

def serviceResolvedStream (defaultLinkId : Option UInt32) (stream : ServiceStreamConfig) :
    Except RuntimeRadioError ResolvedServiceStream :=
  if (trim stream.name.toList).isEmpty then
    .error (.new "service_stream_invalid_name" "stream name cannot be empty")
  else
    .ok {
      name := stream.name
      direction := stream.direction
      radioPort := stream.radioPort
      localUdp := stream.localUdp
      linkId := stream.linkId.or defaultLinkId
      payloadKind := stream.payloadKind.getD .wfbDistributorDatagram
      criticality := stream.criticality.getD .required }

def serviceResolvedStreams (streams : Option (List ServiceStreamConfig)) (wfb : Option ServiceWfbConfig) :
    Except RuntimeRadioError (List ResolvedServiceStream) :=
  let defaultLinkId := wfb.bind (·.linkId)
  (streams.getD []).mapM (serviceResolvedStream defaultLinkId)

def serviceResolvedTunnel (tunnel : ServiceTunnelConfig) : ResolvedServiceTunnel where
  localIp := tunnel.localIp
  peerIp := tunnel.peerIp
  interfaceName := tunnel.interfaceName

def serviceStreamTxBindAddrs (streams : List ResolvedServiceStream) : List Net.SocketAddr :=
  (streams.filter fun stream => stream.direction = .tx).map (·.localUdp)

def serviceStreamRxForwardArg (stream : ResolvedServiceStream) (defaultLinkId : Option UInt32) : String :=
  match stream.linkId.or defaultLinkId with
  | some linkId => s!"{linkId.toNat}:{stream.radioPort.toNat}={String.ofList stream.localUdp.text}"
  | none => s!"{stream.radioPort.toNat}={String.ofList stream.localUdp.text}"

def serviceStreamRxInputs (streams : List ResolvedServiceStream) (defaultLinkId : Option UInt32) :
    Option ServiceStreamRxInputs :=
  match streams.filter fun stream => stream.direction = .rx with
  | [] => none
  | first :: rest =>
    some {
      linkId := first.linkId.or defaultLinkId
      radioPort := first.radioPort
      aggregator := first.localUdp
      rxForwards := rest.map fun stream => serviceStreamRxForwardArg stream defaultLinkId }

/-! ## Numbers and forwards in text -/

/-- digits of a `u64`, hexadecimal behind `0x` -/
def parsePrefixedInt (input : List Char) : Except String ℕ :=
  let trimmed := trim input
  let result :=
    match (stripPrefix ['0', 'x'] trimmed).orElse fun _ => stripPrefix ['0', 'X'] trimmed with
    | some hex => fromStrRadix (2 ^ 64) hex 16
    | none => fromStrRadix (2 ^ 64) trimmed 10
  match result with
  | .ok value => .ok value
  | .error error => .error error.message

/-- `parse_service_prefixed_u8` and `parse_service_prefixed_u32`, by the type's name and its number of values -/
def parseServicePrefixed (typeName : String) (limit : ℕ) (input : List Char) : Except RuntimeRadioError ℕ :=
  match parsePrefixedInt input with
  | .error error => .error (.new "service_rx_forward_parse_failed" error)
  | .ok value =>
    if value < limit then .ok value
    else .error (.new "service_rx_forward_parse_failed" s!"{String.ofList input} does not fit in {typeName}")

def parseServicePrefixedU32 (input : List Char) : Except RuntimeRadioError UInt32 :=
  (parseServicePrefixed "u32" (2 ^ 32) input).map UInt32.ofNat

def parseServicePrefixedU8 (input : List Char) : Except RuntimeRadioError UInt8 :=
  (parseServicePrefixed "u8" (2 ^ 8) input).map UInt8.ofNat

def parseServiceRxForwardArg (input : String) : Except RuntimeRadioError ServiceRxForwardArg := do
  match splitOnce '=' input.toList with
  | none =>
    .error (.new "service_rx_forward_parse_failed"
      "expected LINK_ID:RADIO_PORT=HOST:PORT or RADIO_PORT=HOST:PORT")
  | some (lhs, rhs) =>
    match Net.parseSocketAddr rhs with
    | .error error =>
      .error (.new "service_rx_forward_parse_failed"
        s!"invalid RX forward aggregator {(String.ofList rhs).quote}: {error}")
    | .ok aggregator =>
      match lhs.splitOn ':' with
      | [radioPort] =>
        let radioPort ← parseServicePrefixedU8 radioPort
        return { linkId := none, radioPort, aggregator }
      | [linkId, radioPort] =>
        let linkId ← parseServicePrefixedU32 linkId
        let radioPort ← parseServicePrefixedU8 radioPort
        return { linkId := some linkId, radioPort, aggregator }
      | _ => .error (.new "service_rx_forward_parse_failed" "expected at most one ':' before '='")

/-! ## Reading forwards back -/

/-- decimal digits have no `x` in them, of either case -/
theorem stripPrefix_decimal {n : ℕ} {x : Char} (hx : toDigit 10 x = none) :
    stripPrefix ['0', x] (Nat.toDigits 10 n) = none := by
  have hmem : x ∉ Nat.toDigits 10 n := notMem_toDigits (by omega) (by omega) hx
  rw [stripPrefix, if_neg]
  intro hprefix
  exact hmem ((List.isPrefixOf_iff_prefix.1 hprefix).subset (by simp))

theorem parsePrefixedInt_decimal {n : ℕ} (hn : n < 2 ^ 64) : parsePrefixedInt (Nat.toDigits 10 n) = .ok n := by
  rw [parsePrefixedInt, trim_of_solid solid_decimal, stripPrefix_decimal (by decide), stripPrefix_decimal (by decide)]
  dsimp only [Option.orElse]
  rw [fromStrRadix_toDigits (by omega) (by omega) hn]

theorem parseServicePrefixed_decimal {typeName : String} {limit n : ℕ} (hlimit : limit ≤ 2 ^ 64) (hn : n < limit) :
    parseServicePrefixed typeName limit (Nat.toDigits 10 n) = .ok n := by
  rw [parseServicePrefixed, parsePrefixedInt_decimal (by omega)]
  exact if_pos hn

theorem parseServicePrefixedU32_decimal (value : UInt32) :
    parseServicePrefixedU32 (Nat.toDigits 10 value.toNat) = .ok value := by
  rw [parseServicePrefixedU32, parseServicePrefixed_decimal (by decide) value.toNat_lt]
  exact congrArg Except.ok UInt32.ofNat_toNat

theorem parseServicePrefixedU8_decimal (value : UInt8) :
    parseServicePrefixedU8 (Nat.toDigits 10 value.toNat) = .ok value := by
  rw [parseServicePrefixedU8, parseServicePrefixed_decimal (by decide) value.toNat_lt]
  exact congrArg Except.ok UInt8.ofNat_toNat

/-- **A forward is read back** from the text a stream was printed to. -/
theorem parseServiceRxForwardArg_text (stream : ResolvedServiceStream) (defaultLinkId : Option UInt32) :
    parseServiceRxForwardArg (serviceStreamRxForwardArg stream defaultLinkId) =
      .ok {
        linkId := stream.linkId.or defaultLinkId
        radioPort := stream.radioPort
        aggregator := stream.localUdp } := by
  have hequals : ∀ n : ℕ, '=' ∉ Nat.toDigits 10 n := fun n => notMem_toDigits (by omega) (by omega) (by decide)
  have hcolon : ∀ n : ℕ, ':' ∉ Nat.toDigits 10 n := fun n => notMem_toDigits (by omega) (by omega) (by decide)
  have hself : ∀ text : String, toString text = text := fun _ => rfl
  rw [serviceStreamRxForwardArg]
  cases stream.linkId.or defaultLinkId with
  | some linkId =>
    have htext : (s!"{linkId.toNat}:{stream.radioPort.toNat}={String.ofList stream.localUdp.text}").toList =
        (Nat.toDigits 10 linkId.toNat ++ ':' :: Nat.toDigits 10 stream.radioPort.toNat) ++
          '=' :: stream.localUdp.text := by
      simp [String.toList_append, hself]
    have hlhs : '=' ∉ Nat.toDigits 10 linkId.toNat ++ ':' :: Nat.toDigits 10 stream.radioPort.toNat := by
      simp [hequals]
    dsimp only
    rw [parseServiceRxForwardArg, htext, splitOnce_append hlhs]
    dsimp only
    rw [Net.parseSocketAddr_text]
    dsimp only
    rw [List.splitOn_append_cons_self, List.splitOn_eq_singleton (hcolon _), List.splitOn_eq_singleton (hcolon _),
      List.singleton_append]
    dsimp only
    rw [parseServicePrefixedU32_decimal, parseServicePrefixedU8_decimal]
    rfl
  | none =>
    have htext : (s!"{stream.radioPort.toNat}={String.ofList stream.localUdp.text}").toList =
        Nat.toDigits 10 stream.radioPort.toNat ++ '=' :: stream.localUdp.text := by
      simp [String.toList_append, hself]
    dsimp only
    rw [parseServiceRxForwardArg, htext, splitOnce_append (hequals _)]
    dsimp only
    rw [Net.parseSocketAddr_text]
    dsimp only
    rw [List.splitOn_eq_singleton (hcolon _)]
    dsimp only
    rw [parseServicePrefixedU8_decimal]
    rfl

end WfbLink.Service
