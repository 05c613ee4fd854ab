/-
From the settings of the radio service to the configuration of the runtime (`resolve_service_run` and
`service_runtime_config_from_resolved`).

Every setting is the command line's, or else the file's, or else a default.

- `runtimeSocket_injective`: the runtime tells apart the sockets that the file does.
-/
import WfbLink.Service.Config

namespace WfbLink.Service

open WfbLink.Core WfbLink.RadioCore WfbLink.Runtime

/-! ## Resolution -/

def serviceAirtimeScheduleFromInputs (cli : ServiceCli) (airtime : Option ServiceAirtimeConfig) :
    Except RuntimeRadioError ProductionRuntimeAirtimeSchedule := do
  let mode := (cli.airtimeMode.or (airtime.bind (·.mode))).getD .continuous
  let schedule : ProductionRuntimeAirtimeSchedule := {
    mode := mode.toRuntime
    tddFirstWindow := ((cli.airtimeTddFirstWindow.or (airtime.bind (·.tddFirstWindow))).getD .rx).toRuntime
    tddRxWindowMs := (cli.airtimeTddRxWindowMs.or (airtime.bind (·.tddRxWindowMs))).getD 1000
    tddTxWindowMs := (cli.airtimeTddTxWindowMs.or (airtime.bind (·.tddTxWindowMs))).getD 1000
    tddGuardMs := (cli.airtimeTddGuardMs.or (airtime.bind (·.tddGuardMs))).getD 0
    tddStartDelayMs := (cli.airtimeTddStartDelayMs.or (airtime.bind (·.tddStartDelayMs))).getD 0 }
  schedule.validate
  return schedule

/-- the sockets to transmit from: the first one and the others -/
def resolveBind (cli : ServiceCli) (wfb : Option ServiceWfbConfig) (streamTxBindAddrs : List Net.SocketAddr) :
    Net.SocketAddr :=
  if cli.bind.isSome || !cli.txBinds.isEmpty then (cli.bind.or (wfb.bind (·.bind))).getD serviceDefaultBind
  else
    match streamTxBindAddrs with
    | first :: _ => first
    | [] => (wfb.bind (·.bind)).getD serviceDefaultBind

def resolveTxBinds (cli : ServiceCli) (wfb : Option ServiceWfbConfig) (streamTxBindAddrs : List Net.SocketAddr) :
    List Net.SocketAddr :=
  if !cli.txBinds.isEmpty then cli.txBinds
  else if cli.bind.isNone && !streamTxBindAddrs.isEmpty then streamTxBindAddrs.drop 1
  else (wfb.bind (·.txBinds)).getD []

def ServiceCli.rxOverrides (cli : ServiceCli) : Bool :=
  cli.wfbLinkId.isSome || cli.wfbRadioPort.isSome || cli.rxAggregator.isSome || !cli.rxForwards.isEmpty

def resolveMacosUsbhost (cli : ServiceCli) (macos : Option ServiceMacosUsbHostConfig) : ServiceMacosUsbHostConfig where
  enabled := some (cli.macosUsbhost || (macos.bind (·.enabled)).getD false)
  configurationValue := (cli.macosConfigurationValue.or (macos.bind (·.configurationValue))).or (some 1)
  interfaceNumber := (cli.macosInterfaceNumber.or (macos.bind (·.interfaceNumber))).or (some 0)
  bulkInEndpoint := (cli.macosBulkInEndpoint.or (macos.bind (·.bulkInEndpoint))).or (some 0x81)
  bulkOutEndpoint := (cli.macosBulkOutEndpoint.or (macos.bind (·.bulkOutEndpoint))).or (some 0x02)
  bulkOutEndpointCount := (cli.macosBulkOutEndpointCount.or (macos.bind (·.bulkOutEndpointCount))).or (some 3)
  pollAttempts := (cli.macosPollAttempts.or (macos.bind (·.pollAttempts))).or (some 25)
  pollDelayMs := (cli.macosPollDelayMs.or (macos.bind (·.pollDelayMs))).or (some 100)

def resolveAndroidUsbhost (cli : ServiceCli) (android : Option ServiceAndroidUsbHostConfig) :
    ServiceAndroidUsbHostConfig where
  enabled := some (cli.androidUsbhost || (android.bind (·.enabled)).getD false)
  deviceFd := cli.androidDeviceFd.or (android.bind (·.deviceFd))
  interfaceNumber := (cli.androidInterfaceNumber.or (android.bind (·.interfaceNumber))).or (some 0)
  bulkInEndpoint := (cli.androidBulkInEndpoint.or (android.bind (·.bulkInEndpoint))).or (some 0x81)
  bulkOutEndpoint := (cli.androidBulkOutEndpoint.or (android.bind (·.bulkOutEndpoint))).or (some 0x02)
  bulkOutEndpointCount := (cli.androidBulkOutEndpointCount.or (android.bind (·.bulkOutEndpointCount))).or (some 3)

def resolveTxPower (cli : ServiceCli) (txPower : Option ServiceTxPowerConfig) : ResolvedServiceTxPowerControl where
  mode := cli.txPowerMode.or (txPower.bind (·.mode))
  index := cli.txPowerIndex.or (txPower.bind (·.index))
  path := (cli.txPowerPath.or (txPower.bind (·.path))).getD .both
  efuseReport := cli.txPowerEfuseReport.or (txPower.bind (·.efuseReport))
  efuseLogicalMap := cli.txPowerEfuseLogicalMap.or (txPower.bind (·.efuseLogicalMap))
  safetyProfile := (cli.txPowerSafetyProfile.or (txPower.bind (·.safetyProfile))).getD .linuxCh36Ht20
  maxIndex := (cli.txPowerMaxIndex.or (txPower.bind (·.maxIndex))).getD rtl8812auTxPowerIndexMax

/-- `load` reads and parses the config file -/
def resolveServiceRun (load : String → Except RuntimeRadioError ServiceConfigFile) (cli : ServiceCli) :
    Except RuntimeRadioError ResolvedServiceRun := do
  let file ← load cli.config
  let adapter := file.adapter
  let radio := file.radio
  let wfb := file.wfb
  let streams ← serviceResolvedStreams file.streams wfb
  let tunnel := file.tunnel.map serviceResolvedTunnel
  let heartbeat := file.heartbeat
  let authorization := file.authorization
  let artifacts := file.artifacts
  let some channel := cli.channel.or (radio.bind (·.channel)) | .error (serviceMissingRequired "radio.channel")
  let configBandwidth ← serviceConfigBandwidth (radio.bind (·.bandwidthMhz))
  let some firmware := cli.firmware.or (radio.bind (·.firmware)) | .error (serviceMissingRequired "radio.firmware")
  let streamTxBindAddrs := serviceStreamTxBindAddrs streams
  let streamRxInputs := serviceStreamRxInputs streams (wfb.bind (·.linkId))
  let airtimeSchedule ← serviceAirtimeScheduleFromInputs cli file.airtime
  return {
    report := cli.report
    adapter := {
      vid := cli.vid.or (adapter.bind (·.vid))
      pid := cli.pid.or (adapter.bind (·.pid))
      bus := cli.bus.or (adapter.bind (·.bus))
      address := cli.address.or (adapter.bind (·.address)) }
    macosUsbhost := resolveMacosUsbhost cli file.macosUsbhost
    androidUsbhost := resolveAndroidUsbhost cli file.androidUsbhost
    channel
    bandwidth := (cli.bandwidth.or configBandwidth).getD .mhz20
    firmware
    bind := resolveBind cli wfb streamTxBindAddrs
    txBinds := resolveTxBinds cli wfb streamTxBindAddrs
    durationMs := (cli.durationMs.or (radio.bind (·.durationMs))).getD 10000
    rxTimeoutMs := (cli.rxTimeoutMs.or (radio.bind (·.rxTimeoutMs))).getD 20
    txBurstLimit := (cli.txBurstLimit.or (radio.bind (·.txBurstLimit))).getD 8
    txMinIntervalUs := (cli.txMinIntervalUs.or (radio.bind (·.txMinIntervalUs))).getD 0
    maxDatagrams := (cli.maxDatagrams.or (radio.bind (·.maxDatagrams))).getD 0
    airtimeSchedule
    readyFile := cli.readyFile.or (artifacts.bind (·.readyFile))
    healthFile := cli.healthFile.or (artifacts.bind (·.healthFile))
    txAuthorized := true
    liveRegisterWriteAuthorized :=
      cli.iUnderstandThisWritesRegisters || (authorization.bind (·.liveRegisterWrites)).getD false
    txPower := resolveTxPower cli file.txPower
    calibrationProfile :=
      (cli.txCalibrationProfile.or (file.calibration.bind (·.profile))).getD .currentDefault
    heartbeatEnabled := !(cli.noHeartbeatLed || ((heartbeat.bind (·.enabled)).map (!·)).getD false)
    heartbeatHalfPeriodMs :=
      (cli.heartbeatLedHalfPeriodMs.or (heartbeat.bind (·.halfPeriodMs))).getD defaultHeartbeatHalfPeriodMs
    wfbLinkId :=
      if cli.rxOverrides then cli.wfbLinkId.or (wfb.bind (·.linkId))
      else
        match streamRxInputs with
        | some inputs => inputs.linkId
        | none => wfb.bind (·.linkId)
    wfbRadioPort :=
      if cli.rxOverrides then cli.wfbRadioPort.or (wfb.bind (·.radioPort))
      else
        match streamRxInputs with
        | some inputs => some inputs.radioPort
        | none => wfb.bind (·.radioPort)
    rxAggregator :=
      if cli.rxOverrides then cli.rxAggregator.or (wfb.bind (·.rxAggregator))
      else
        match streamRxInputs with
        | some inputs => some inputs.aggregator
        | none => wfb.bind (·.rxAggregator)
    rxForwards :=
      if cli.rxOverrides then cli.rxForwards
      else
        match streamRxInputs with
        | some inputs => inputs.rxForwards
        | none => (wfb.bind (·.rxForwards)).getD []
    rxWlanIdx := (cli.rxWlanIdx.or (wfb.bind (·.rxWlanIdx))).getD 0
    rxMcsIndex := (cli.rxMcsIndex.or (wfb.bind (·.rxMcsIndex))).getD 0
    streams
    tunnel }

/-! ## The configuration of the runtime -/

structure DeviceSelector where
  vid : Option UInt16
  pid : Option UInt16
  bus : Option UInt8
  address : Option UInt8
deriving DecidableEq, Repr

/-- the delay in milliseconds -/
structure MacosUsbHostConfig where
  configurationValue : UInt8
  interfaceNumber : UInt8
  bulkInEndpoint : UInt8
  bulkOutEndpoint : UInt8
  bulkOutEndpointCount : ℕ
  pollAttempts : UInt32
  pollDelay : UInt64

structure AndroidUsbHostConfig where
  deviceFd : Option Int32
  interfaceNumber : UInt8
  bulkInEndpoint : UInt8
  bulkOutEndpoint : UInt8
  bulkOutEndpointCount : ℕ

inductive ProductionRuntimeUsbConfig where
  | libusb (selector : DeviceSelector)
  | macosUsbhost (selector : DeviceSelector) (config : MacosUsbHostConfig)
  | androidUsbhost (selector : DeviceSelector) (config : AndroidUsbHostConfig)

def ServiceAdapterConfig.selector (adapter : ServiceAdapterConfig) : DeviceSelector where
  vid := adapter.vid
  pid := adapter.pid
  bus := adapter.bus
  address := adapter.address

def serviceMacosUsbhostConfig (config : ServiceMacosUsbHostConfig) : MacosUsbHostConfig where
  configurationValue := config.configurationValue.getD 1
  interfaceNumber := config.interfaceNumber.getD 0
  bulkInEndpoint := config.bulkInEndpoint.getD 0x81
  bulkOutEndpoint := config.bulkOutEndpoint.getD 0x02
  bulkOutEndpointCount := config.bulkOutEndpointCount.getD 3
  pollAttempts := config.pollAttempts.getD 25
  pollDelay := config.pollDelayMs.getD 100

def serviceAndroidUsbhostConfig (config : ServiceAndroidUsbHostConfig) : AndroidUsbHostConfig where
  deviceFd := config.deviceFd
  interfaceNumber := config.interfaceNumber.getD 0
  bulkInEndpoint := config.bulkInEndpoint.getD 0x81
  bulkOutEndpoint := config.bulkOutEndpoint.getD 0x02
  bulkOutEndpointCount := config.bulkOutEndpointCount.getD 3

/-- the configuration of a run, with the two fields the radio's loop does not read -/
structure ServiceRuntimeConfig extends ProductionRuntimeFlowConfig where
  usb : ProductionRuntimeUsbConfig
  txAuthorized : Bool

/-- a socket as the runtime knows it: its address by its text -/
def runtimeSocket : Net.SocketAddr → SocketAddr
  | .v4 addr => ⟨String.ofList addr.ip.text, addr.port⟩
  | .v6 addr =>
    ⟨String.ofList ('[' :: (addr.ip.text ++
      ((if addr.scopeId = 0 then [] else '%' :: Net.decimal addr.scopeId.toNat) ++ [']']))), addr.port⟩

theorem runtimeSocket_text (addr : Net.SocketAddr) : (runtimeSocket addr).text.toList = addr.text := by
  have hself : ∀ text : String, toString text = text := fun _ => rfl
  have hport : ∀ port : UInt16, toString port = port.toNat.repr := fun _ => rfl
  cases addr with
  | v4 addr =>
    simp [runtimeSocket, SocketAddr.text, Net.SocketAddr.text, Net.SocketAddrV4.text, Net.decimal, hself,
      hport, String.toList_append]
  | v6 addr =>
    simp [runtimeSocket, SocketAddr.text, Net.SocketAddr.text, Net.SocketAddrV6.text, Net.SocketAddrV6.suffix,
      Net.decimal, hself, hport, String.toList_append]

theorem runtimeSocket_injective : Function.Injective runtimeSocket := by
  intro addr other h
  have htext : addr.text = other.text := by
    rw [← runtimeSocket_text, ← runtimeSocket_text, h]
  have hparsed := Net.parseSocketAddr_text addr
  rw [htext, Net.parseSocketAddr_text] at hparsed
  exact (Except.ok.inj hparsed).symm

def serviceShouldApplyCapturedTxBringupTail (channel : Channel) (bandwidth : Bandwidth) : Bool :=
  channel.number == 36 && (bandwidth == .mhz20 || bandwidth == .mhz40)

def serviceRuntimeRxForward (wfbLinkId : Option UInt32) (forward : String) :
    Except RuntimeRadioError ProductionRuntimeRxForwardConfig := do
  let forward ← parseServiceRxForwardArg forward
  return {
    linkId := forward.linkId.or wfbLinkId
    radioPort := forward.radioPort
    aggregator := some (runtimeSocket forward.aggregator) }

def serviceRuntimeRxForwards (resolved : ResolvedServiceRun) :
    Except RuntimeRadioError (List ProductionRuntimeRxForwardConfig) :=
  resolved.rxForwards.mapM (serviceRuntimeRxForward resolved.wfbLinkId)

def serviceUsbConfig (resolved : ResolvedServiceRun) : Except RuntimeRadioError ProductionRuntimeUsbConfig :=
  match resolved.macosUsbhost.enabled.getD false, resolved.androidUsbhost.enabled.getD false with
  | true, true =>
    .error (.new "multiple_usb_backends_enabled"
      "enable only one USB backend: libusb, macos_usbhost, or android_usbhost")
  | true, false =>
    .ok (.macosUsbhost resolved.adapter.selector (serviceMacosUsbhostConfig resolved.macosUsbhost))
  | false, true =>
    .ok (.androidUsbhost resolved.adapter.selector (serviceAndroidUsbhostConfig resolved.androidUsbhost))
  | false, false => .ok (.libusb resolved.adapter.selector)

def serviceChannel (number : UInt8) : Except RuntimeRadioError Channel :=
  match Channel.fromNumber number with
  | .ok channel => .ok channel
  | .error error => .error (.new "invalid_channel" s!"invalid production service channel: {error.message}")

def serviceRuntimeConfigFromResolved (resolved : ResolvedServiceRun) :
    Except RuntimeRadioError ServiceRuntimeConfig := do
  let channel ← serviceChannel resolved.channel
  let usb ← serviceUsbConfig resolved
  let rxForwards ← serviceRuntimeRxForwards resolved
  return {
    usb
    channel
    bandwidth := resolved.bandwidth
    firmware := some resolved.firmware
    bindAddr := runtimeSocket resolved.bind
    txBinds := resolved.txBinds.map runtimeSocket
    durationMs := resolved.durationMs
    rxTimeoutMs := resolved.rxTimeoutMs
    txBurstLimit := resolved.txBurstLimit
    txMinIntervalUs := resolved.txMinIntervalUs
    maxDatagrams := resolved.maxDatagrams
    airtimeSchedule := resolved.airtimeSchedule
    readyFile := resolved.readyFile
    healthFile := resolved.healthFile
    txAuthorized := resolved.txAuthorized
    liveRegisterWriteAuthorized := resolved.liveRegisterWriteAuthorized
    calibrationProfile := resolved.calibrationProfile.toRuntime
    capturedTailApplied := serviceShouldApplyCapturedTxBringupTail channel resolved.bandwidth
    primaryRxForward := {
      linkId := resolved.wfbLinkId
      radioPort := resolved.wfbRadioPort
      aggregator := resolved.rxAggregator.map runtimeSocket }
    rxForwards
    rxWlanIdx := resolved.rxWlanIdx
    rxMcsIndex := resolved.rxMcsIndex }

end WfbLink.Service
