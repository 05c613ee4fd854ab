/-
The settings of a radio run (`wfb-radio-diag/src/radio_run_support.rs`): the command line, the config file, and what
they resolve to. Paths are their text.

- `parseBandwidth_decimal`: the numbers of the widths, and no others, are widths of a config file.
-/
import WfbLink.Core.SocketText
import WfbLink.RadioCore.Channel
import WfbLink.Runtime.Counters

namespace WfbLink.Diag

open WfbLink.Core WfbLink.RadioCore WfbLink.Runtime

/-! ## Choices -/

inductive TxPowerControlModeArg where
  | manualIndex
  | efuseDerived
deriving DecidableEq, Repr

inductive TxPowerSafetyProfileArg where
  | maxIndex
  | linuxCh36Ht20
deriving DecidableEq, Repr

inductive TxPowerPathArg where
  | a
  | b
  | both
deriving DecidableEq, Repr

inductive TxCalibrationProfileArg where
  | currentDefault
  | linuxParityCh36Ht20
  | rtl8812aLck
  | rtl8812aIqkProbe
  | rtl8812aRuntimeIqk
deriving DecidableEq, Repr

structure BridgeRunRxForwardArg where
  linkId : Option UInt32
  radioPort : UInt8
  aggregator : Net.SocketAddr
deriving DecidableEq, Repr

/-! ## The config file -/

structure RadioRunAdapterConfig where
  vid : Option UInt16 := none
  pid : Option UInt16 := none
  bus : Option UInt8 := none
  address : Option UInt8 := none
deriving DecidableEq, Repr

structure RadioRunMacosUsbHostConfig where
  enabled : Option Bool := none
  configurationValue : Option UInt8 := none
  interfaceNumber : Option UInt8 := none
  bulkInEndpoint : Option UInt8 := none
  bulkOutEndpoint : Option UInt8 := none
  bulkOutEndpointCount : Option ℕ := none
  pollAttempts : Option UInt32 := none
  pollDelayMs : Option UInt64 := none

structure RadioRunRadioConfig where
  channel : Option UInt8 := none
  bandwidthMhz : Option UInt16 := none
  firmware : Option String := none
  durationMs : Option UInt64 := none
  rxTimeoutMs : Option UInt64 := none
  txBurstLimit : Option UInt32 := none
  txMinIntervalUs : Option UInt64 := none
  maxDatagrams : Option UInt32 := none

structure RadioRunWfbConfig where
  bind : Option Net.SocketAddr := none
  txBinds : Option (List Net.SocketAddr) := none
  linkId : Option UInt32 := none
  radioPort : Option UInt8 := none
  rxAggregator : Option Net.SocketAddr := none
  rxForwards : Option (List String) := none
  rxWlanIdx : Option UInt8 := none
  rxMcsIndex : Option UInt8 := none

structure RadioRunTxPowerConfig where
  mode : Option TxPowerControlModeArg := none
  index : Option UInt8 := none
  path : Option TxPowerPathArg := none
  efuseReport : Option String := none
  efuseLogicalMap : Option String := none
  safetyProfile : Option TxPowerSafetyProfileArg := none
  maxIndex : Option UInt8 := none

structure RadioRunCalibrationConfig where
  profile : Option TxCalibrationProfileArg := none
deriving DecidableEq, Repr

structure RadioRunHeartbeatConfig where
  enabled : Option Bool := none
  halfPeriodMs : Option UInt64 := none
deriving DecidableEq, Repr

structure RadioRunAuthorizationConfig where
  liveRegisterWrites : Option Bool := none
deriving DecidableEq, Repr

structure RadioRunArtifactConfig where
  readyFile : Option String := none
  healthFile : Option String := none
deriving DecidableEq, Repr

structure RadioRunConfigFile where
  adapter : Option RadioRunAdapterConfig := none
  macosUsbhost : Option RadioRunMacosUsbHostConfig := none
  radio : Option RadioRunRadioConfig := none
  wfb : Option RadioRunWfbConfig := none
  txPower : Option RadioRunTxPowerConfig := none
  calibration : Option RadioRunCalibrationConfig := none
  heartbeat : Option RadioRunHeartbeatConfig := none
  authorization : Option RadioRunAuthorizationConfig := none
  artifacts : Option RadioRunArtifactConfig := none

/-! ## The command line -/

structure AdapterArgs where
  vid : Option UInt16 := none
  pid : Option UInt16 := none
  bus : Option UInt8 := none
  address : Option UInt8 := none
deriving DecidableEq, Repr

structure MacosUsbHostArgs where
  enabled : Bool := false
  configurationValue : UInt8 := 1
  interfaceNumber : UInt8 := 0
  bulkInEndpoint : UInt8 := 0x81
  bulkOutEndpoint : UInt8 := 0x02
  bulkOutEndpointCount : ℕ := 3
  pollAttempts : UInt32 := 25
  pollDelayMs : UInt64 := 100
deriving DecidableEq

def rtl8812auTxPowerIndexMax : UInt8 := 0x3f
def defaultHeartbeatHalfPeriodMs : UInt64 := 500

structure TxPowerControlArgs where
  txPowerIndex : Option UInt8 := none
  txPowerMode : Option TxPowerControlModeArg := none
  txPowerPath : TxPowerPathArg := .both
  txPowerEfuseReport : Option String := none
  txPowerEfuseLogicalMap : Option String := none
  txPowerSafetyProfile : TxPowerSafetyProfileArg := .linuxCh36Ht20
  txPowerMaxIndex : UInt8 := rtl8812auTxPowerIndexMax
deriving DecidableEq

structure TxCalibrationProfileArgs where
  txCalibrationProfile : TxCalibrationProfileArg := .currentDefault
deriving DecidableEq, Repr

structure HeartbeatLedArgs where
  noHeartbeatLed : Bool := false
  heartbeatLedHalfPeriodMs : UInt64 := defaultHeartbeatHalfPeriodMs
deriving DecidableEq, Repr

structure RadioRunArgs where
  config : Option String := none
  adapter : AdapterArgs := {}
  channel : Option UInt8 := none
  bandwidth : Option Bandwidth := none
  firmware : Option String := none
  bind : Option Net.SocketAddr := none
  txBinds : List Net.SocketAddr := []
  durationMs : Option UInt64 := none
  rxTimeoutMs : Option UInt64 := none
  txBurstLimit : Option UInt32 := none
  txMinIntervalUs : Option UInt64 := none
  maxDatagrams : Option UInt32 := none
  readyFile : Option String := none
  healthFile : Option String := none
  iUnderstandThisWritesRegisters : Bool := false
  macosUsbhost : MacosUsbHostArgs := {}
  txPower : TxPowerControlArgs := {}
  txCalibration : TxCalibrationProfileArgs := {}
  heartbeatLed : HeartbeatLedArgs := {}
  wfbLinkId : Option UInt32 := none
  wfbRadioPort : Option UInt8 := none
  rxAggregator : Option Net.SocketAddr := none
  rxForwards : List BridgeRunRxForwardArg := []
  rxWlanIdx : Option UInt8 := none
  rxMcsIndex : Option UInt8 := none

structure ResolvedRadioRunArgs where
  adapter : AdapterArgs
  macosUsbhost : MacosUsbHostArgs
  txPower : TxPowerControlArgs
  txCalibration : TxCalibrationProfileArgs
  heartbeatLed : HeartbeatLedArgs
  channel : UInt8
  bandwidth : Bandwidth
  firmware : String
  bind : Net.SocketAddr
  txBinds : List Net.SocketAddr
  durationMs : UInt64
  rxTimeoutMs : UInt64
  txBurstLimit : UInt32
  txMinIntervalUs : UInt64
  maxDatagrams : UInt32
  readyFile : Option String
  healthFile : Option String
  iUnderstandThisWritesRegisters : Bool
  wfbLinkId : Option UInt32
  wfbRadioPort : Option UInt8
  rxAggregator : Option Net.SocketAddr
  rxForwards : List BridgeRunRxForwardArg
  rxWlanIdx : UInt8
  rxMcsIndex : UInt8
deriving DecidableEq

/-! ## Numbers, widths and forwards in text -/

/-- `parse_u16` and `parse_u32`, by the number of values: hexadecimal behind `0x` -/
def parseUnsigned (limit : ℕ) (input : List Char) : Except String ℕ :=
  let trimmed := trim input
  let result :=
    match (stripPrefix ['0', 'x'] trimmed).orElse fun _ => stripPrefix ['0', 'X'] trimmed with
    | some hex => fromStrRadix limit hex 16
    | none => fromStrRadix limit trimmed 10
  result.mapError ParseIntError.message

def parseU16 (input : List Char) : Except String UInt16 := (parseUnsigned (2 ^ 16) input).map UInt16.ofNat

def parseU32 (input : List Char) : Except String UInt32 := (parseUnsigned (2 ^ 32) input).map UInt32.ofNat

def parseU8 (input : List Char) : Except String UInt8 := do
  let value ← parseU16 input
  if value.toNat < 2 ^ 8 then return UInt8.ofNat value.toNat
  else .error s!"{(String.ofList input).quote} is outside u8 range"

def parseBandwidth (input : List Char) : Except String Bandwidth :=
  let normalized := (trim input).map Char.toLower
  if normalized ∈ ["20".toList, "20mhz".toList, "mhz20".toList] then .ok .mhz20
  else if normalized ∈ ["40".toList, "40mhz".toList, "mhz40".toList] then .ok .mhz40
  else if normalized ∈ ["80".toList, "80mhz".toList, "mhz80".toList] then .ok .mhz80
  else .error s!"unsupported bandwidth {(String.ofList normalized).quote}; expected 20, 40, or 80"

def parseBridgeRunRxForwardArg (input : String) : Except String BridgeRunRxForwardArg :=
  match splitOnce '=' input.toList with
  | none => .error s!"{input.quote} must use LINK_ID:RADIO_PORT=HOST:PORT or RADIO_PORT=HOST:PORT"
  | some (channelPart, aggregatorPart) =>
    match Net.parseSocketAddr aggregatorPart with
    | .error error => .error s!"invalid RX aggregator address {(String.ofList aggregatorPart).quote}: {error}"
    | .ok aggregator =>
      match channelPart.splitOn ':' with
      | [] => .error s!"{input.quote} is missing a radio port"
      | first :: others =>
        if (trim first).isEmpty then .error s!"{input.quote} is missing a radio port"
        else
          match others with
          | [] => do
            let radioPort ← parseU8 first
            return { linkId := none, radioPort, aggregator }
          | [port] =>
            if (trim port).isEmpty then .error s!"{input.quote} is missing a radio port"
            else do
              let linkId ← parseU32 first
              let radioPort ← parseU8 port
              return { linkId := some linkId, radioPort, aggregator }
          | _ :: _ :: _ =>
            .error (input.quote ++ " has too many ':' separators before '='; expected LINK_ID:RADIO_PORT")

/-! ## Resolution -/

def radioRunMissingRequired (field : String) : RuntimeRadioError :=
  .new "radio_run_config_missing_required" s!"radio-run requires {field} from CLI or --config"

def radioRunInvalidConfigField (field message : String) : RuntimeRadioError :=
  .new "radio_run_config_invalid_field" s!"{field}: {message}"

def radioRunDefaultBind : Net.SocketAddr := .v4 ⟨⟨127, 0, 0, 1⟩, 5600⟩

def radioRunConfigBandwidth : Option UInt16 → Except RuntimeRadioError (Option Bandwidth)
  | none => .ok none
  | some mhz =>
    match parseBandwidth (Nat.toDigits 10 mhz.toNat) with
    | .ok bandwidth => .ok (some bandwidth)
    | .error error => .error (radioRunInvalidConfigField "radio.bandwidth_mhz" error)

def radioRunConfigRxForwards (forwards : Option (List String)) :
    Except RuntimeRadioError (List BridgeRunRxForwardArg) :=
  (forwards.getD []).mapM fun forward =>
    (parseBridgeRunRxForwardArg forward).mapError (radioRunInvalidConfigField "wfb.rx_forwards")

/-- a value of the command line that is not the default comes before the config file -/
def cliOrConfigOrDefault {α : Type} [DecidableEq α] (cli default : α) (config : Option α) : α :=
  if cli ≠ default then cli else config.getD default

def resolveAdapter (args : AdapterArgs) (adapter : Option RadioRunAdapterConfig) : AdapterArgs where
  vid := args.vid.or (adapter.bind (·.vid))
  pid := args.pid.or (adapter.bind (·.pid))
  bus := args.bus.or (adapter.bind (·.bus))
  address := args.address.or (adapter.bind (·.address))

def resolveMacosUsbhost (args : MacosUsbHostArgs) (macos : Option RadioRunMacosUsbHostConfig) : MacosUsbHostArgs :=
  let defaultMacos : MacosUsbHostArgs := {}
  { enabled := args.enabled || (macos.bind (·.enabled)).getD false
    configurationValue := cliOrConfigOrDefault args.configurationValue defaultMacos.configurationValue
      (macos.bind (·.configurationValue))
    interfaceNumber := cliOrConfigOrDefault args.interfaceNumber defaultMacos.interfaceNumber
      (macos.bind (·.interfaceNumber))
    bulkInEndpoint := cliOrConfigOrDefault args.bulkInEndpoint defaultMacos.bulkInEndpoint
      (macos.bind (·.bulkInEndpoint))
    bulkOutEndpoint := cliOrConfigOrDefault args.bulkOutEndpoint defaultMacos.bulkOutEndpoint
      (macos.bind (·.bulkOutEndpoint))
    bulkOutEndpointCount := cliOrConfigOrDefault args.bulkOutEndpointCount defaultMacos.bulkOutEndpointCount
      (macos.bind (·.bulkOutEndpointCount))
    pollAttempts := cliOrConfigOrDefault args.pollAttempts defaultMacos.pollAttempts (macos.bind (·.pollAttempts))
    pollDelayMs := cliOrConfigOrDefault args.pollDelayMs defaultMacos.pollDelayMs (macos.bind (·.pollDelayMs)) }

def resolveTxPower (args : TxPowerControlArgs) (txPower : Option RadioRunTxPowerConfig) : TxPowerControlArgs :=
  let defaultTxPower : TxPowerControlArgs := {}
  { txPowerIndex := args.txPowerIndex.or (txPower.bind (·.index))
    txPowerMode := args.txPowerMode.or (txPower.bind (·.mode))
    txPowerPath := cliOrConfigOrDefault args.txPowerPath defaultTxPower.txPowerPath (txPower.bind (·.path))
    txPowerEfuseReport := args.txPowerEfuseReport.or (txPower.bind (·.efuseReport))
    txPowerEfuseLogicalMap := args.txPowerEfuseLogicalMap.or (txPower.bind (·.efuseLogicalMap))
    txPowerSafetyProfile := cliOrConfigOrDefault args.txPowerSafetyProfile defaultTxPower.txPowerSafetyProfile
      (txPower.bind (·.safetyProfile))
    txPowerMaxIndex := cliOrConfigOrDefault args.txPowerMaxIndex defaultTxPower.txPowerMaxIndex
      (txPower.bind (·.maxIndex)) }

def resolveHeartbeatLed (args : HeartbeatLedArgs) (heartbeat : Option RadioRunHeartbeatConfig) : HeartbeatLedArgs :=
  let defaultHeartbeat : HeartbeatLedArgs := {}
  { noHeartbeatLed := args.noHeartbeatLed || ((heartbeat.bind (·.enabled)).map fun enabled => !enabled).getD false
    heartbeatLedHalfPeriodMs := cliOrConfigOrDefault args.heartbeatLedHalfPeriodMs
      defaultHeartbeat.heartbeatLedHalfPeriodMs (heartbeat.bind (·.halfPeriodMs)) }

def resolveRxForwards (args : RadioRunArgs) (wfb : Option RadioRunWfbConfig) :
    Except RuntimeRadioError (List BridgeRunRxForwardArg) :=
  if args.rxForwards.isEmpty then radioRunConfigRxForwards (wfb.bind (·.rxForwards)) else .ok args.rxForwards

/-- the settings, once the required ones are known -/
def resolveArgs (args : RadioRunArgs) (file : RadioRunConfigFile) (channel : UInt8) (bandwidth : Bandwidth)
    (firmware : String) (rxForwards : List BridgeRunRxForwardArg) : ResolvedRadioRunArgs :=
  let radio := file.radio
  let wfb := file.wfb
  { adapter := resolveAdapter args.adapter file.adapter
    macosUsbhost := resolveMacosUsbhost args.macosUsbhost file.macosUsbhost
    txPower := resolveTxPower args.txPower file.txPower
    txCalibration := ⟨cliOrConfigOrDefault args.txCalibration.txCalibrationProfile .currentDefault
      (file.calibration.bind (·.profile))⟩
    heartbeatLed := resolveHeartbeatLed args.heartbeatLed file.heartbeat
    channel
    bandwidth
    firmware
    bind := (args.bind.or (wfb.bind (·.bind))).getD radioRunDefaultBind
    txBinds := if args.txBinds.isEmpty then (wfb.bind (·.txBinds)).getD [] else args.txBinds
    durationMs := (args.durationMs.or (radio.bind (·.durationMs))).getD 10000
    rxTimeoutMs := (args.rxTimeoutMs.or (radio.bind (·.rxTimeoutMs))).getD 20
    txBurstLimit := (args.txBurstLimit.or (radio.bind (·.txBurstLimit))).getD 8
    txMinIntervalUs := (args.txMinIntervalUs.or (radio.bind (·.txMinIntervalUs))).getD 0
    maxDatagrams := (args.maxDatagrams.or (radio.bind (·.maxDatagrams))).getD 0
    readyFile := args.readyFile.or (file.artifacts.bind (·.readyFile))
    healthFile := args.healthFile.or (file.artifacts.bind (·.healthFile))
    iUnderstandThisWritesRegisters := args.iUnderstandThisWritesRegisters ||
      (file.authorization.bind (·.liveRegisterWrites)).getD false
    wfbLinkId := args.wfbLinkId.or (wfb.bind (·.linkId))
    wfbRadioPort := args.wfbRadioPort.or (wfb.bind (·.radioPort))
    rxAggregator := args.rxAggregator.or (wfb.bind (·.rxAggregator))
    rxForwards
    rxWlanIdx := (args.rxWlanIdx.or (wfb.bind (·.rxWlanIdx))).getD 0
    rxMcsIndex := (args.rxMcsIndex.or (wfb.bind (·.rxMcsIndex))).getD 0 }

/-- `load` reads and parses the config file -/
def radioRunConfigFile (load : String → Except RuntimeRadioError RadioRunConfigFile) :
    Option String → Except RuntimeRadioError RadioRunConfigFile
  | some path => load path
  | none => .ok {}

def radioRunResolvedArgs (load : String → Except RuntimeRadioError RadioRunConfigFile) (args : RadioRunArgs) :
    Except RuntimeRadioError ResolvedRadioRunArgs := do
  let file ← radioRunConfigFile load args.config
  let channel ← (args.channel.or (file.radio.bind (·.channel))).elim
    (.error (radioRunMissingRequired "radio.channel")) .ok
  let configBandwidth ← radioRunConfigBandwidth (file.radio.bind (·.bandwidthMhz))
  let bandwidth := (args.bandwidth.or configBandwidth).getD .mhz20
  let firmware ← (args.firmware.or (file.radio.bind (·.firmware))).elim
    (.error (radioRunMissingRequired "radio.firmware")) .ok
  let rxForwards ← resolveRxForwards args file.wfb
  return resolveArgs args file channel bandwidth firmware rxForwards

/-! ## Widths -/

/-- the width with this number -/
def bandwidthOfMhz (mhz : UInt16) : Option Bandwidth :=
  [Bandwidth.mhz20, .mhz40, .mhz80].find? fun bandwidth => bandwidth.mhz = mhz

/-- a printed number is none of the spellings with letters -/
theorem decimal_mem_spellings (n width : ℕ) :
    Nat.toDigits 10 n ∈ [Nat.toDigits 10 width, Nat.toDigits 10 width ++ "mhz".toList,
      "mhz".toList ++ Nat.toDigits 10 width] ↔ n = width := by
  have hletter : 'm' ∉ Nat.toDigits 10 n := notMem_toDigits (by omega) (by omega) (by decide)
  constructor
  · intro h
    rcases List.mem_cons.1 h with h | h
    · exact toDigits_injective (by omega) (by omega) h
    · refine absurd ?_ hletter
      rcases List.mem_cons.1 h with h | h
      · rw [h]
        simp
      · rw [List.mem_singleton.1 h]
        simp
  · rintro rfl
    exact List.mem_cons_self

/-- **Widths of a config file.** A number is read as the width with this number, and refused if there is none. -/
theorem parseBandwidth_decimal (mhz : UInt16) :
    (parseBandwidth (Nat.toDigits 10 mhz.toNat)).toOption = bandwidthOfMhz mhz := by
  have hspellings : ∀ width : UInt16, ∀ spellings,
      spellings = [Nat.toDigits 10 width.toNat, Nat.toDigits 10 width.toNat ++ "mhz".toList,
        "mhz".toList ++ Nat.toDigits 10 width.toNat] →
      (Nat.toDigits 10 mhz.toNat ∈ spellings ↔ mhz = width) := by
    rintro width _ rfl
    rw [decimal_mem_spellings, UInt16.toNat_inj]
  have h20 := hspellings 20 ["20".toList, "20mhz".toList, "mhz20".toList] (by decide)
  have h40 := hspellings 40 ["40".toList, "40mhz".toList, "mhz40".toList] (by decide)
  have h80 := hspellings 80 ["80".toList, "80mhz".toList, "mhz80".toList] (by decide)
  unfold parseBandwidth bandwidthOfMhz
  rw [trim_of_solid solid_decimal, toLower_decimal]
  simp only [h20, h40, h80]
  by_cases hmhz20 : mhz = 20
  · subst hmhz20
    rfl
  · by_cases hmhz40 : mhz = 40
    · subst hmhz40
      rfl
    · by_cases hmhz80 : mhz = 80
      · subst hmhz80
        rfl
      · rw [if_neg hmhz20, if_neg hmhz40, if_neg hmhz80]
        simp [Except.toOption, Bandwidth.mhz, Ne.symm hmhz20, Ne.symm hmhz40, Ne.symm hmhz80]

end WfbLink.Diag
