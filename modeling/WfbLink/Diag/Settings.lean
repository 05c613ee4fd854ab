/-
Explicit options of a radio run (`radio_run_resolved_args`).

The command-line parser fills an option that is not given with its default, so `RadioRunArgs` does not say which options
were given. `RadioRunOptions` does, and `wanted` is what they and the config file should resolve to: an option that is
given has its value, one that is not has the value of the file, and the default comes last.

- `cliOrConfigOrDefault_filled_iff`: a defaulted setting is resolved as it should be unless its default is given and the
  file has another value.
- `resolved_wanted_iff`: a run is resolved as it should be exactly if no setting is like that, and the file has no
  invalid width.
-/
import WfbLink.Diag.RadioRun

namespace WfbLink.Diag

open WfbLink.Core WfbLink.RadioCore WfbLink.Runtime

/-! ## One setting -/

section Setting

variable {α : Type}

/-- the value that is given, or that of the config file, or the default -/
def setting (given file : Option α) (default : α) : α := (given.or file).getD default

/-- what the parser makes of an option -/
def filled (given : Option α) (default : α) : α := given.getD default

/-- the default is given, and the config file has another value -/
def Shadowed (given file : Option α) (default : α) : Prop :=
  given = some default ∧ ∃ value, file = some value ∧ value ≠ default

theorem setting_given (value : α) (file : Option α) (default : α) : setting (some value) file default = value := rfl

theorem setting_none (file : Option α) (default : α) : setting none file default = file.getD default := rfl

/-- **One setting.** A defaulted setting is resolved as it should be unless the file shadows the default that was
given. -/
theorem cliOrConfigOrDefault_filled_iff [DecidableEq α] (given file : Option α) (default : α) :
    cliOrConfigOrDefault (filled given default) default file = setting given file default ↔
      ¬Shadowed given file default := by
  unfold cliOrConfigOrDefault filled Shadowed
  cases given with
  | none =>
    rw [setting_none, Option.getD_none, if_neg (not_not.2 rfl)]
    exact iff_of_true rfl fun h => nomatch h.1
  | some value =>
    rw [setting_given, Option.getD_some]
    by_cases hvalue : value = default
    · subst hvalue
      rw [if_neg (not_not.2 rfl)]
      cases file with
      | none =>
        refine iff_of_true rfl ?_
        rintro ⟨-, value, hfile, -⟩
        cases hfile
      | some other => simp [eq_comm]
    · rw [if_pos hvalue]
      exact iff_of_true rfl fun h => hvalue (Option.some.inj h.1)

end Setting

/-! ## The options that are given -/

structure MacosUsbHostOptions where
  enabled : Bool := false
  configurationValue : Option UInt8 := none
  interfaceNumber : Option UInt8 := none
  bulkInEndpoint : Option UInt8 := none
  bulkOutEndpoint : Option UInt8 := none
  bulkOutEndpointCount : Option ℕ := none
  pollAttempts : Option UInt32 := none
  pollDelayMs : Option UInt64 := none

structure TxPowerControlOptions where
  txPowerIndex : Option UInt8 := none
  txPowerMode : Option TxPowerControlModeArg := none
  txPowerPath : Option TxPowerPathArg := none
  txPowerEfuseReport : Option String := none
  txPowerEfuseLogicalMap : Option String := none
  txPowerSafetyProfile : Option TxPowerSafetyProfileArg := none
  txPowerMaxIndex : Option UInt8 := none

structure HeartbeatLedOptions where
  noHeartbeatLed : Bool := false
  heartbeatLedHalfPeriodMs : Option UInt64 := none
deriving DecidableEq, Repr

/-- a list is given if it is not empty, and a flag if it is true -/
structure RadioRunOptions where
  config : Option String := none
  adapter : AdapterArgs := {}
  channel : Option UInt8 := none
  bandwidth : Option Bandwidth := none
  firmware : Option String := none
  bind : Option Net.SocketAddr := none
  txBinds : List Net.SocketAddr := []
  durationMs : Option UInt64 := none
  rxTimeoutMs : Option UInt64 := none
  txBurstLimit : Option UInt32 := none
  txMinIntervalUs : Option UInt64 := none
  maxDatagrams : Option UInt32 := none
  readyFile : Option String := none
  healthFile : Option String := none
  iUnderstandThisWritesRegisters : Bool := false
  macosUsbhost : MacosUsbHostOptions := {}
  txPower : TxPowerControlOptions := {}
  txCalibrationProfile : Option TxCalibrationProfileArg := none
  heartbeatLed : HeartbeatLedOptions := {}
  wfbLinkId : Option UInt32 := none
  wfbRadioPort : Option UInt8 := none
  rxAggregator : Option Net.SocketAddr := none
  rxForwards : List BridgeRunRxForwardArg := []
  rxWlanIdx : Option UInt8 := none
  rxMcsIndex : Option UInt8 := none

/-! ### What the parser makes of them -/

def MacosUsbHostOptions.parsed (options : MacosUsbHostOptions) : MacosUsbHostArgs where
  enabled := options.enabled
  configurationValue := filled options.configurationValue 1
  interfaceNumber := filled options.interfaceNumber 0
  bulkInEndpoint := filled options.bulkInEndpoint 0x81
  bulkOutEndpoint := filled options.bulkOutEndpoint 0x02
  bulkOutEndpointCount := filled options.bulkOutEndpointCount 3
  pollAttempts := filled options.pollAttempts 25
  pollDelayMs := filled options.pollDelayMs 100

def TxPowerControlOptions.parsed (options : TxPowerControlOptions) : TxPowerControlArgs where
  txPowerIndex := options.txPowerIndex
  txPowerMode := options.txPowerMode
  txPowerPath := filled options.txPowerPath .both
  txPowerEfuseReport := options.txPowerEfuseReport
  txPowerEfuseLogicalMap := options.txPowerEfuseLogicalMap
  txPowerSafetyProfile := filled options.txPowerSafetyProfile .linuxCh36Ht20
  txPowerMaxIndex := filled options.txPowerMaxIndex 0x3f

def HeartbeatLedOptions.parsed (options : HeartbeatLedOptions) : HeartbeatLedArgs where
  noHeartbeatLed := options.noHeartbeatLed
  heartbeatLedHalfPeriodMs := filled options.heartbeatLedHalfPeriodMs defaultHeartbeatHalfPeriodMs

def RadioRunOptions.parsed (options : RadioRunOptions) : RadioRunArgs where
  config := options.config
  adapter := options.adapter
  channel := options.channel
  bandwidth := options.bandwidth
  firmware := options.firmware
  bind := options.bind
  txBinds := options.txBinds
  durationMs := options.durationMs
  rxTimeoutMs := options.rxTimeoutMs
  txBurstLimit := options.txBurstLimit
  txMinIntervalUs := options.txMinIntervalUs
  maxDatagrams := options.maxDatagrams
  readyFile := options.readyFile
  healthFile := options.healthFile
  iUnderstandThisWritesRegisters := options.iUnderstandThisWritesRegisters
  macosUsbhost := options.macosUsbhost.parsed
  txPower := options.txPower.parsed
  txCalibration := ⟨filled options.txCalibrationProfile .currentDefault⟩
  heartbeatLed := options.heartbeatLed.parsed
  wfbLinkId := options.wfbLinkId
  wfbRadioPort := options.wfbRadioPort
  rxAggregator := options.rxAggregator
  rxForwards := options.rxForwards
  rxWlanIdx := options.rxWlanIdx
  rxMcsIndex := options.rxMcsIndex

/-- without options the parser makes the default arguments -/
example : RadioRunOptions.parsed {} = {} := rfl

/-! ## What they should resolve to -/

def MacosUsbHostOptions.wanted (options : MacosUsbHostOptions) (macos : Option RadioRunMacosUsbHostConfig) :
    MacosUsbHostArgs where
  enabled := options.enabled || (macos.bind (·.enabled)).getD false
  configurationValue := setting options.configurationValue (macos.bind (·.configurationValue)) 1
  interfaceNumber := setting options.interfaceNumber (macos.bind (·.interfaceNumber)) 0
  bulkInEndpoint := setting options.bulkInEndpoint (macos.bind (·.bulkInEndpoint)) 0x81
  bulkOutEndpoint := setting options.bulkOutEndpoint (macos.bind (·.bulkOutEndpoint)) 0x02
  bulkOutEndpointCount := setting options.bulkOutEndpointCount (macos.bind (·.bulkOutEndpointCount)) 3
  pollAttempts := setting options.pollAttempts (macos.bind (·.pollAttempts)) 25
  pollDelayMs := setting options.pollDelayMs (macos.bind (·.pollDelayMs)) 100

def TxPowerControlOptions.wanted (options : TxPowerControlOptions) (txPower : Option RadioRunTxPowerConfig) :
    TxPowerControlArgs where
  txPowerIndex := options.txPowerIndex.or (txPower.bind (·.index))
  txPowerMode := options.txPowerMode.or (txPower.bind (·.mode))
  txPowerPath := setting options.txPowerPath (txPower.bind (·.path)) .both
  txPowerEfuseReport := options.txPowerEfuseReport.or (txPower.bind (·.efuseReport))
  txPowerEfuseLogicalMap := options.txPowerEfuseLogicalMap.or (txPower.bind (·.efuseLogicalMap))
  txPowerSafetyProfile := setting options.txPowerSafetyProfile (txPower.bind (·.safetyProfile)) .linuxCh36Ht20
  txPowerMaxIndex := setting options.txPowerMaxIndex (txPower.bind (·.maxIndex)) 0x3f

def HeartbeatLedOptions.wanted (options : HeartbeatLedOptions) (heartbeat : Option RadioRunHeartbeatConfig) :
    HeartbeatLedArgs where
  noHeartbeatLed := options.noHeartbeatLed || !(heartbeat.bind (·.enabled)).getD true
  heartbeatLedHalfPeriodMs := setting options.heartbeatLedHalfPeriodMs (heartbeat.bind (·.halfPeriodMs))
    defaultHeartbeatHalfPeriodMs

namespace RadioRunOptions

variable (options : RadioRunOptions) (file : RadioRunConfigFile)

/-- the settings, once the required ones are known -/
def wantedArgs (channel : UInt8) (bandwidth : Bandwidth) (firmware : String) (rxForwards : List BridgeRunRxForwardArg) :
    ResolvedRadioRunArgs :=
  let radio := file.radio
  let wfb := file.wfb
  { adapter := {
      vid := options.adapter.vid.or (file.adapter.bind (·.vid))
      pid := options.adapter.pid.or (file.adapter.bind (·.pid))
      bus := options.adapter.bus.or (file.adapter.bind (·.bus))
      address := options.adapter.address.or (file.adapter.bind (·.address)) }
    macosUsbhost := options.macosUsbhost.wanted file.macosUsbhost
    txPower := options.txPower.wanted file.txPower
    txCalibration := ⟨setting options.txCalibrationProfile (file.calibration.bind (·.profile)) .currentDefault⟩
    heartbeatLed := options.heartbeatLed.wanted file.heartbeat
    channel
    bandwidth
    firmware
    bind := setting options.bind (wfb.bind (·.bind)) radioRunDefaultBind
    txBinds := if options.txBinds.isEmpty then (wfb.bind (·.txBinds)).getD [] else options.txBinds
    durationMs := setting options.durationMs (radio.bind (·.durationMs)) 10000
    rxTimeoutMs := setting options.rxTimeoutMs (radio.bind (·.rxTimeoutMs)) 20
    txBurstLimit := setting options.txBurstLimit (radio.bind (·.txBurstLimit)) 8
    txMinIntervalUs := setting options.txMinIntervalUs (radio.bind (·.txMinIntervalUs)) 0
    maxDatagrams := setting options.maxDatagrams (radio.bind (·.maxDatagrams)) 0
    readyFile := options.readyFile.or (file.artifacts.bind (·.readyFile))
    healthFile := options.healthFile.or (file.artifacts.bind (·.healthFile))
    iUnderstandThisWritesRegisters := options.iUnderstandThisWritesRegisters ||
      (file.authorization.bind (·.liveRegisterWrites)).getD false
    wfbLinkId := options.wfbLinkId.or (wfb.bind (·.linkId))
    wfbRadioPort := options.wfbRadioPort.or (wfb.bind (·.radioPort))
    rxAggregator := options.rxAggregator.or (wfb.bind (·.rxAggregator))
    rxForwards
    rxWlanIdx := setting options.rxWlanIdx (wfb.bind (·.rxWlanIdx)) 0
    rxMcsIndex := setting options.rxMcsIndex (wfb.bind (·.rxMcsIndex)) 0 }

/-- the width that is given, or that of the config file, or 20 MHz -/
def wantedBandwidth : Option Bandwidth :=
  match options.bandwidth, file.radio.bind (·.bandwidthMhz) with
  | some bandwidth, _ => some bandwidth
  | none, some mhz => bandwidthOfMhz mhz
  | none, none => some .mhz20

/-- the forwards that are given, or those of the config file -/
def wantedForwards : Option (List BridgeRunRxForwardArg) :=
  if options.rxForwards.isEmpty then (radioRunConfigRxForwards (file.wfb.bind (·.rxForwards))).toOption
  else some options.rxForwards

/-- a run needs a channel and a firmware, and what counts of the config file has to be valid -/
def wanted : Option ResolvedRadioRunArgs := do
  let channel ← options.channel.or (file.radio.bind (·.channel))
  let bandwidth ← options.wantedBandwidth file
  let firmware ← options.firmware.or (file.radio.bind (·.firmware))
  let rxForwards ← options.wantedForwards file
  return options.wantedArgs file channel bandwidth firmware rxForwards

/-! ## When they do -/

/-- no default that is given meets another value in the config file -/
structure NoneShadowed : Prop where
  configurationValue :
    ¬Shadowed options.macosUsbhost.configurationValue (file.macosUsbhost.bind (·.configurationValue)) 1
  interfaceNumber : ¬Shadowed options.macosUsbhost.interfaceNumber (file.macosUsbhost.bind (·.interfaceNumber)) 0
  bulkInEndpoint : ¬Shadowed options.macosUsbhost.bulkInEndpoint (file.macosUsbhost.bind (·.bulkInEndpoint)) 0x81
  bulkOutEndpoint : ¬Shadowed options.macosUsbhost.bulkOutEndpoint (file.macosUsbhost.bind (·.bulkOutEndpoint)) 0x02
  bulkOutEndpointCount :
    ¬Shadowed options.macosUsbhost.bulkOutEndpointCount (file.macosUsbhost.bind (·.bulkOutEndpointCount)) 3
  pollAttempts : ¬Shadowed options.macosUsbhost.pollAttempts (file.macosUsbhost.bind (·.pollAttempts)) 25
  pollDelayMs : ¬Shadowed options.macosUsbhost.pollDelayMs (file.macosUsbhost.bind (·.pollDelayMs)) 100
  txPowerPath : ¬Shadowed options.txPower.txPowerPath (file.txPower.bind (·.path)) .both
  txPowerSafetyProfile :
    ¬Shadowed options.txPower.txPowerSafetyProfile (file.txPower.bind (·.safetyProfile)) .linuxCh36Ht20
  txPowerMaxIndex : ¬Shadowed options.txPower.txPowerMaxIndex (file.txPower.bind (·.maxIndex)) 0x3f
  txCalibrationProfile :
    ¬Shadowed options.txCalibrationProfile (file.calibration.bind (·.profile)) .currentDefault
  heartbeatLedHalfPeriodMs :
    ¬Shadowed options.heartbeatLed.heartbeatLedHalfPeriodMs (file.heartbeat.bind (·.halfPeriodMs))
      defaultHeartbeatHalfPeriodMs

end RadioRunOptions

/-- the width of the config file, if it has one, is a width -/
def RadioRunConfigFile.ValidBandwidth (file : RadioRunConfigFile) : Prop :=
  ∀ mhz, file.radio.bind (·.bandwidthMhz) = some mhz → mhz ∈ [20, 40, 80]

theorem resolveMacosUsbhost_parsed_iff (options : MacosUsbHostOptions) (macos : Option RadioRunMacosUsbHostConfig) :
    resolveMacosUsbhost options.parsed macos = options.wanted macos ↔
      ¬Shadowed options.configurationValue (macos.bind (·.configurationValue)) 1 ∧
      ¬Shadowed options.interfaceNumber (macos.bind (·.interfaceNumber)) 0 ∧
      ¬Shadowed options.bulkInEndpoint (macos.bind (·.bulkInEndpoint)) 0x81 ∧
      ¬Shadowed options.bulkOutEndpoint (macos.bind (·.bulkOutEndpoint)) 0x02 ∧
      ¬Shadowed options.bulkOutEndpointCount (macos.bind (·.bulkOutEndpointCount)) 3 ∧
      ¬Shadowed options.pollAttempts (macos.bind (·.pollAttempts)) 25 ∧
      ¬Shadowed options.pollDelayMs (macos.bind (·.pollDelayMs)) 100 := by
  simp only [resolveMacosUsbhost, MacosUsbHostOptions.parsed, MacosUsbHostOptions.wanted, MacosUsbHostArgs.mk.injEq,
    cliOrConfigOrDefault_filled_iff, true_and]

theorem resolveTxPower_parsed_iff (options : TxPowerControlOptions) (txPower : Option RadioRunTxPowerConfig) :
    resolveTxPower options.parsed txPower = options.wanted txPower ↔
      ¬Shadowed options.txPowerPath (txPower.bind (·.path)) .both ∧
      ¬Shadowed options.txPowerSafetyProfile (txPower.bind (·.safetyProfile)) .linuxCh36Ht20 ∧
      ¬Shadowed options.txPowerMaxIndex (txPower.bind (·.maxIndex)) 0x3f := by
  simp only [resolveTxPower, TxPowerControlOptions.parsed, TxPowerControlOptions.wanted, TxPowerControlArgs.mk.injEq,
    rtl8812auTxPowerIndexMax, cliOrConfigOrDefault_filled_iff, true_and]

theorem resolveHeartbeatLed_parsed_iff (options : HeartbeatLedOptions) (heartbeat : Option RadioRunHeartbeatConfig) :
    resolveHeartbeatLed options.parsed heartbeat = options.wanted heartbeat ↔
      ¬Shadowed options.heartbeatLedHalfPeriodMs (heartbeat.bind (·.halfPeriodMs)) defaultHeartbeatHalfPeriodMs := by
  have hled : ((heartbeat.bind (·.enabled)).map fun enabled => !enabled).getD false
      = !(heartbeat.bind (·.enabled)).getD true := by
    cases heartbeat.bind (·.enabled) <;> rfl
  simp only [resolveHeartbeatLed, HeartbeatLedOptions.parsed, HeartbeatLedOptions.wanted, HeartbeatLedArgs.mk.injEq,
    cliOrConfigOrDefault_filled_iff, hled, true_and]

namespace RadioRunOptions

variable (options : RadioRunOptions) (file : RadioRunConfigFile)

/-- **The settings.** Once the required ones are known, all are as they should be unless one is shadowed. -/
theorem resolveArgs_parsed_iff (channel : UInt8) (bandwidth : Bandwidth) (firmware : String)
    (rxForwards : List BridgeRunRxForwardArg) :
    resolveArgs options.parsed file channel bandwidth firmware rxForwards
        = options.wantedArgs file channel bandwidth firmware rxForwards ↔ options.NoneShadowed file := by
  simp only [resolveArgs, wantedArgs, ResolvedRadioRunArgs.mk.injEq, TxCalibrationProfileArgs.mk.injEq, resolveAdapter,
    parsed, setting, true_and, and_true]
  have hcalibration := cliOrConfigOrDefault_filled_iff options.txCalibrationProfile (file.calibration.bind (·.profile))
    TxCalibrationProfileArg.currentDefault
  rw [setting] at hcalibration
  rw [resolveMacosUsbhost_parsed_iff, resolveTxPower_parsed_iff, resolveHeartbeatLed_parsed_iff, hcalibration]
  constructor
  · rintro ⟨⟨h₁, h₂, h₃, h₄, h₅, h₆, h₇⟩, ⟨h₈, h₉, h₁₀⟩, h₁₁, h₁₂, -⟩
    exact ⟨h₁, h₂, h₃, h₄, h₅, h₆, h₇, h₈, h₉, h₁₀, h₁₁, h₁₂⟩
  · rintro ⟨h₁, h₂, h₃, h₄, h₅, h₆, h₇, h₈, h₉, h₁₀, h₁₁, h₁₂⟩
    exact ⟨⟨h₁, h₂, h₃, h₄, h₅, h₆, h₇⟩, ⟨h₈, h₉, h₁₀⟩, h₁₁, h₁₂, rfl⟩

theorem bandwidthOfMhz_isSome (mhz : UInt16) : (bandwidthOfMhz mhz).isSome = true ↔ mhz ∈ [20, 40, 80] := by
  rw [bandwidthOfMhz, List.find?_isSome]
  simp [Bandwidth.mhz, eq_comm]

/-- the width that the run takes is the wanted one, unless the file has an invalid one -/
theorem radioRunConfigBandwidth_wanted :
    (∃ configBandwidth, radioRunConfigBandwidth (file.radio.bind (·.bandwidthMhz)) = .ok configBandwidth ∧
      options.wantedBandwidth file = some ((options.bandwidth.or configBandwidth).getD .mhz20) ∧ file.ValidBandwidth) ∨
    ((∃ error, radioRunConfigBandwidth (file.radio.bind (·.bandwidthMhz)) = .error error) ∧ ¬file.ValidBandwidth) := by
  unfold wantedBandwidth RadioRunConfigFile.ValidBandwidth
  cases hfile : file.radio.bind (·.bandwidthMhz) with
  | none =>
    refine .inl ⟨none, rfl, ?_, nofun⟩
    cases options.bandwidth <;> rfl
  | some mhz =>
    have hparse := parseBandwidth_decimal mhz
    rw [radioRunConfigBandwidth]
    rcases hbandwidth : parseBandwidth (Nat.toDigits 10 mhz.toNat) with error | bandwidth
    · rw [hbandwidth] at hparse
      refine .inr ⟨⟨_, rfl⟩, fun h => ?_⟩
      have hsome := (bandwidthOfMhz_isSome mhz).2 (h mhz rfl)
      rw [← hparse] at hsome
      cases hsome
    · rw [hbandwidth] at hparse
      refine .inl ⟨some bandwidth, rfl, ?_, ?_⟩
      · cases options.bandwidth with
        | none => exact hparse.symm
        | some given => rfl
      · rintro _ ⟨⟩
        exact (bandwidthOfMhz_isSome mhz).1 (by rw [← hparse]; rfl)

/-- **Explicit options.** A run is resolved as it should be exactly if, unless it cannot be resolved at all, the config
file has no invalid width and none of the defaults that are given is shadowed by another value of the file. -/
theorem resolved_wanted_iff {load : String → Except RuntimeRadioError RadioRunConfigFile}
    (hload : radioRunConfigFile load options.config = .ok file) :
    (radioRunResolvedArgs load options.parsed).toOption = options.wanted file ↔
      ((options.wanted file).isSome = true → file.ValidBandwidth ∧ options.NoneShadowed file) := by
  have hfile : radioRunConfigFile load options.parsed.config = .ok file := hload
  have hforwards : (resolveRxForwards options.parsed file.wfb).toOption = options.wantedForwards file := by
    unfold resolveRxForwards wantedForwards
    rw [show options.parsed.rxForwards = options.rxForwards from rfl]
    split_ifs <;> rfl
  have hresolved := options.resolveArgs_parsed_iff file
  have hbandwidth := options.radioRunConfigBandwidth_wanted file
  have hrun : radioRunResolvedArgs load options.parsed = (do
      let channel ← (options.channel.or (file.radio.bind (·.channel))).elim
        (.error (radioRunMissingRequired "radio.channel")) .ok
      let configBandwidth ← radioRunConfigBandwidth (file.radio.bind (·.bandwidthMhz))
      let firmware ← (options.firmware.or (file.radio.bind (·.firmware))).elim
        (.error (radioRunMissingRequired "radio.firmware")) .ok
      let rxForwards ← resolveRxForwards options.parsed file.wfb
      return resolveArgs options.parsed file channel ((options.bandwidth.or configBandwidth).getD .mhz20) firmware
        rxForwards) := by
    unfold radioRunResolvedArgs
    rw [hfile]
    rfl
  rw [hrun, wanted, ← hforwards]
  -- without a channel there is nothing to resolve
  cases options.channel.or (file.radio.bind (·.channel)) with
  | none => exact iff_of_true rfl nofun
  | some channel =>
    rcases hbandwidth with ⟨configBandwidth, hconfig, hwanted, hvalid⟩ | ⟨⟨error, hconfig⟩, hinvalid⟩
    · rw [hconfig, hwanted]
      cases options.firmware.or (file.radio.bind (·.firmware)) with
      | none => exact iff_of_true rfl nofun
      | some firmware =>
        cases resolveRxForwards options.parsed file.wfb with
        | error error => exact iff_of_true rfl nofun
        | ok rxForwards =>
          have h := hresolved channel ((options.bandwidth.or configBandwidth).getD .mhz20) firmware rxForwards
          constructor
          · intro heq _
            exact ⟨hvalid, h.1 (Option.some.inj heq)⟩
          · intro hshadowed
            exact congrArg some (h.2 (hshadowed rfl).2)
    · rw [hconfig]
      constructor
      · intro heq hsome
        rw [← heq] at hsome
        cases hsome
      · intro hshadowed
        by_contra hne
        have hsome := Option.isSome_iff_ne_none.2 (Ne.symm hne)
        exact hinvalid (hshadowed hsome).1

end RadioRunOptions

/-! ## A default that is given -/

/-- the calibration is turned off on the command line -/
def currentDefaultOptions : RadioRunOptions where
  config := some "radio-run.toml"
  txCalibrationProfile := some .currentDefault

/-- and turned on in the file -/
def runtimeIqkFile : RadioRunConfigFile where
  radio := some { channel := some 36, firmware := some "rtl8812a_fw.bin" }
  calibration := some { profile := some .rtl8812aRuntimeIqk }

/-- then it is turned on -/
theorem currentDefault_loses :
    (radioRunResolvedArgs (fun _ => .ok runtimeIqkFile) currentDefaultOptions.parsed).toOption
        ≠ currentDefaultOptions.wanted runtimeIqkFile ∧
      ((radioRunResolvedArgs (fun _ => .ok runtimeIqkFile) currentDefaultOptions.parsed).toOption.map fun resolved =>
        resolved.txCalibration.txCalibrationProfile) = some .rtl8812aRuntimeIqk := by
  decide

theorem currentDefault_resolved_iff :
    (radioRunResolvedArgs (fun _ => .ok runtimeIqkFile) currentDefaultOptions.parsed).toOption
        = currentDefaultOptions.wanted runtimeIqkFile ↔
      ((currentDefaultOptions.wanted runtimeIqkFile).isSome = true →
        runtimeIqkFile.ValidBandwidth ∧ currentDefaultOptions.NoneShadowed runtimeIqkFile) :=
  currentDefaultOptions.resolved_wanted_iff runtimeIqkFile rfl

end WfbLink.Diag
