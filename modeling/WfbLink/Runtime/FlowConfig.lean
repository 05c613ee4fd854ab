/-
The configuration of the production runtime and its validation (`validate_production_runtime_flow_config`).

- `validate_channel`: an accepted configuration has a channel of the table and a bandwidth it supports.
- `accepted_transmits_iff`: an accepted configuration can transmit every datagram it should, exactly if its channel is
  not a misaligned one.
- `accepted_but_mute`: channel 149 at 40 MHz is accepted and cannot be planned.
-/
import WfbLink.Runtime.BridgeLoop
import WfbLink.Runtime.ChannelPlan
import WfbLink.Runtime.TxDatagram

namespace WfbLink.Runtime

open WfbLink.Core WfbLink.RadioCore WfbLink.Bridge

/-! ## The plan of the WFB loop -/

structure ProductionRuntimeRxForwardConfig where
  linkId : Option UInt32
  radioPort : UInt8
  aggregator : Option SocketAddr
deriving DecidableEq, Repr

structure ProductionRuntimePrimaryRxForwardConfig where
  linkId : Option UInt32
  radioPort : Option UInt8
  aggregator : Option SocketAddr
deriving DecidableEq, Repr

structure ProductionRuntimeRxForwardPlan where
  config : RxForwardConfig
  aggregator : Option SocketAddr
deriving DecidableEq, Repr

structure ProductionRuntimeWfbLoopConfig where
  bindAddr : SocketAddr
  txBinds : List SocketAddr
  rxTimeoutMs : UInt64
  txBurstLimit : UInt32
  txMinIntervalUs : UInt64
  maxDatagrams : UInt32
  airtimeSchedule : ProductionRuntimeAirtimeSchedule
  bandwidth : Bandwidth
  primaryRxForward : ProductionRuntimePrimaryRxForwardConfig
  rxForwards : List ProductionRuntimeRxForwardConfig
  rxWlanIdx : UInt8
  rxMcsIndex : UInt8

structure ProductionRuntimeWfbLoopPlan where
  txBindAddrs : List SocketAddr
  rxForwards : List ProductionRuntimeRxForwardPlan
  rxTimeoutMs : UInt64
  txBurstLimit : UInt32
  txMinIntervalUs : UInt64
  maxDatagrams : UInt32
  airtimeSchedule : ProductionRuntimeAirtimeSchedule
  rxWlanIdx : UInt8
  rxMcsIndex : UInt8
  bandwidthMhz : UInt8

/-- the plan of one forward; both kinds of targets end here -/
def planRxForward (config : ProductionRuntimeWfbLoopConfig) (linkId : UInt32) (radioPort : UInt8)
    (aggregator : Option SocketAddr) : Except RuntimeRadioError ProductionRuntimeRxForwardPlan :=
  match WfbChannelId.new linkId radioPort with
  | .error error => .error (.new "invalid_wfb_rx_channel_id" error.message)
  | .ok channelId =>
    .ok {
      config := {
        channelId
        wlanIdx := config.rxWlanIdx
        mcsIndex := config.rxMcsIndex
        bandwidthMhz := config.bandwidth.mhz.toUInt8 }
      aggregator }

def planPrimaryRxForward (config : ProductionRuntimeWfbLoopConfig) :
    Except RuntimeRadioError (List ProductionRuntimeRxForwardPlan) :=
  match config.primaryRxForward.linkId, config.primaryRxForward.radioPort, config.primaryRxForward.aggregator with
  | none, none, none => .ok []
  | none, none, some _ =>
    .error (.new "missing_wfb_rx_filter" "production RX aggregator requires WFB link ID and radio port")
  | some _, none, _ | none, some _, _ =>
    .error (.new "incomplete_wfb_rx_filter"
      "production RX forwarding requires WFB link ID and radio port together")
  | some linkId, some radioPort, aggregator => do
    let forward ← planRxForward config linkId radioPort aggregator
    return [forward]

def planRxForwardTarget (config : ProductionRuntimeWfbLoopConfig) (forward : ProductionRuntimeRxForwardConfig) :
    Except RuntimeRadioError ProductionRuntimeRxForwardPlan :=
  match forward.linkId with
  | none =>
    .error (.new "missing_wfb_rx_forward_link_id" "production RX forward target requires a WFB link ID")
  | some linkId => planRxForward config linkId forward.radioPort forward.aggregator

def planProductionWfbLoop (config : ProductionRuntimeWfbLoopConfig) :
    Except RuntimeRadioError ProductionRuntimeWfbLoopPlan := do
  if config.rxTimeoutMs = 0 then
    .error (.new "invalid_rx_timeout" "production WFB loop requires rx_timeout_ms greater than zero")
  if config.txBurstLimit = 0 then
    .error (.new "invalid_tx_burst_limit" "production WFB loop requires tx_burst_limit greater than zero")
  config.airtimeSchedule.validate
  let primary ← planPrimaryRxForward config
  let rxForwards ← config.rxForwards.mapM (planRxForwardTarget config)
  return {
    txBindAddrs := config.bindAddr :: config.txBinds
    rxForwards := primary ++ rxForwards
    rxTimeoutMs := config.rxTimeoutMs
    txBurstLimit := config.txBurstLimit
    txMinIntervalUs := config.txMinIntervalUs
    maxDatagrams := config.maxDatagrams
    airtimeSchedule := config.airtimeSchedule
    rxWlanIdx := config.rxWlanIdx
    rxMcsIndex := config.rxMcsIndex
    bandwidthMhz := config.bandwidth.mhz.toUInt8 }

/-! ## What a plan says -/

section Plan

variable {config : ProductionRuntimeWfbLoopConfig} {plan : ProductionRuntimeWfbLoopPlan}
  {forward : ProductionRuntimeRxForwardPlan} {linkId : UInt32} {radioPort : UInt8} {aggregator : Option SocketAddr}
  {targets : List ProductionRuntimeRxForwardConfig}

theorem planRxForward_channel (h : planRxForward config linkId radioPort aggregator = .ok forward) :
    forward.config.channelId = ⟨linkId, radioPort⟩ ∧ forward.aggregator = aggregator ∧ linkId ≤ 0x00ffffff := by
  rw [planRxForward, WfbChannelId.new] at h
  split_ifs at h with hwide
  cases h
  exact ⟨rfl, rfl, UInt32.not_lt.1 hwide⟩

theorem planRxForward_fits (config : ProductionRuntimeWfbLoopConfig) (hfits : linkId ≤ 0x00ffffff)
    (radioPort : UInt8) (aggregator : Option SocketAddr) :
    ∃ forward, planRxForward config linkId radioPort aggregator = .ok forward := by
  rw [planRxForward, WfbChannelId.new, if_neg (UInt32.not_lt.2 hfits)]
  exact ⟨_, rfl⟩

/-- what a plan that is not refused says of its configuration -/
theorem plan_ok (h : planProductionWfbLoop config = .ok plan) :
    config.rxTimeoutMs ≠ 0 ∧ config.txBurstLimit ≠ 0 ∧ config.airtimeSchedule.validate = .ok () ∧
      plan.txBindAddrs = config.bindAddr :: config.txBinds ∧ ∃ primary forwards,
        planPrimaryRxForward config = .ok primary ∧
        config.rxForwards.mapM (planRxForwardTarget config) = .ok forwards ∧ plan.rxForwards = primary ++ forwards := by
  rw [planProductionWfbLoop] at h
  by_cases htimeout : config.rxTimeoutMs = 0
  · rw [if_pos htimeout] at h
    obtain ⟨_, herror, _⟩ := except_bind_ok h
    cases herror
  rw [if_neg htimeout] at h
  by_cases hburst : config.txBurstLimit = 0
  · rw [if_pos hburst] at h
    obtain ⟨_, herror, _⟩ := except_bind_ok h
    cases herror
  rw [if_neg hburst] at h
  obtain ⟨_, hschedule, h⟩ := except_bind_ok h
  obtain ⟨primary, hprimary, h⟩ := except_bind_ok h
  obtain ⟨forwards, hforwards, h⟩ := except_bind_ok h
  cases h
  exact ⟨htimeout, hburst, hschedule, rfl, primary, forwards, hprimary, hforwards, rfl⟩

theorem plan_txBindAddrs (h : planProductionWfbLoop config = .ok plan) :
    plan.txBindAddrs = config.bindAddr :: config.txBinds := by
  obtain ⟨_, _, _, hbinds, _⟩ := plan_ok h
  exact hbinds

/-- the first of the targets is the primary forward -/
def primaryTarget : List ProductionRuntimeRxForwardConfig → ProductionRuntimePrimaryRxForwardConfig
  | [] => ⟨none, none, none⟩
  | first :: _ => ⟨first.linkId, some first.radioPort, first.aggregator⟩

/-- the targets of a configuration, the primary one and the others -/
structure ForwardsTo (config : ProductionRuntimeWfbLoopConfig) (targets : List ProductionRuntimeRxForwardConfig) :
    Prop where
  primary : config.primaryRxForward = primaryTarget targets
  others : config.rxForwards = targets.tail

/-- the forward of a target, whose link id fits -/
def PlannedTarget (target : ProductionRuntimeRxForwardConfig) (forward : ProductionRuntimeRxForwardPlan) : Prop :=
  ∃ linkId, target.linkId = some linkId ∧ linkId ≤ 0x00ffffff ∧
    forward.config.channelId = ⟨linkId, target.radioPort⟩ ∧ forward.aggregator = target.aggregator

theorem planRxForwardTarget_planned {target : ProductionRuntimeRxForwardConfig}
    (h : planRxForwardTarget config target = .ok forward) : PlannedTarget target forward := by
  rw [planRxForwardTarget] at h
  cases hlink : target.linkId with
  | none =>
    rw [hlink] at h
    cases h
  | some linkId =>
    rw [hlink] at h
    obtain ⟨hchannel, haggregator, hfits⟩ := planRxForward_channel h
    exact ⟨linkId, hlink, hfits, hchannel, haggregator⟩

theorem planRxForwardTarget_fits {target : ProductionRuntimeRxForwardConfig} (hlink : target.linkId = some linkId)
    (hfits : linkId ≤ 0x00ffffff) : ∃ forward, planRxForwardTarget config target = .ok forward := by
  rw [planRxForwardTarget, hlink]
  exact planRxForward_fits config hfits _ _

/-- the primary forward is planned like the others, where there is one -/
theorem planPrimaryRxForward_target (htargets : ForwardsTo config targets) :
    (planPrimaryRxForward config).toOption = ((targets.take 1).mapM (planRxForwardTarget config)).toOption := by
  rw [planPrimaryRxForward, htargets.primary]
  cases targets with
  | nil => rfl
  | cons first rest =>
    rw [primaryTarget, List.take_succ_cons, List.take_zero, List.mapM_cons, List.mapM_nil, planRxForwardTarget]
    cases first.linkId with
    | none => rfl
    | some linkId => rfl

/-- **The forwards of a plan** are those of the targets, one by one. -/
theorem planned_targets (htargets : ForwardsTo config targets) (h : planProductionWfbLoop config = .ok plan) :
    List.Forall₂ PlannedTarget targets plan.rxForwards := by
  obtain ⟨_, _, _, _, primary, forwards, hprimary, hforwards, hplan⟩ := plan_ok h
  have hfirst : (targets.take 1).mapM (planRxForwardTarget config) = .ok primary := by
    have hsame := planPrimaryRxForward_target htargets
    rw [hprimary] at hsame
    cases hmap : (targets.take 1).mapM (planRxForwardTarget config) with
    | error error =>
      rw [hmap] at hsame
      cases hsame
    | ok planned =>
      rw [hmap] at hsame
      exact congrArg Except.ok (Option.some.inj hsame).symm
  rw [htargets.others] at hforwards
  rw [hplan, ← List.take_append_drop 1 targets, List.drop_one]
  exact List.rel_append (mapM_forall₂ (fun _ _ _ => planRxForwardTarget_planned) hfirst)
    (mapM_forall₂ (fun _ _ _ => planRxForwardTarget_planned) hforwards)

/-- targets with link ids that fit are planned -/
theorem plan_of_targets (htargets : ForwardsTo config targets)
    (hfits : ∀ target ∈ targets, ∃ linkId, target.linkId = some linkId ∧ linkId ≤ 0x00ffffff)
    (htimeout : config.rxTimeoutMs ≠ 0) (hburst : config.txBurstLimit ≠ 0)
    (hschedule : config.airtimeSchedule.validate = .ok ()) : ∃ plan, planProductionWfbLoop config = .ok plan := by
  have hplanned : ∀ target ∈ targets, ∃ forward, planRxForwardTarget config target = .ok forward := by
    intro target htarget
    obtain ⟨linkId, hlink, hlinkFits⟩ := hfits target htarget
    exact planRxForwardTarget_fits hlink hlinkFits
  have hprimary : ∃ primary, planPrimaryRxForward config = .ok primary := by
    obtain ⟨primary, hfirst⟩ := mapM_exists fun target htarget => hplanned target (List.mem_of_mem_take htarget)
    have hsame := planPrimaryRxForward_target htargets
    rw [hfirst] at hsame
    cases hprimary : planPrimaryRxForward config with
    | error error =>
      rw [hprimary] at hsame
      cases hsame
    | ok primary => exact ⟨primary, rfl⟩
  have hforwards : ∃ forwards, config.rxForwards.mapM (planRxForwardTarget config) = .ok forwards := by
    rw [htargets.others]
    exact mapM_exists fun target htarget => hplanned target (List.mem_of_mem_tail htarget)
  obtain ⟨primary, hprimary⟩ := hprimary
  obtain ⟨forwards, hforwards⟩ := hforwards
  rw [planProductionWfbLoop, if_neg htimeout, if_neg hburst, hschedule, hprimary, hforwards]
  exact ⟨_, rfl⟩

end Plan

/-! ## Calibration profiles -/

inductive TxCalibrationProfile where
  | currentDefault
  | linuxParityCh36Ht20
  | rtl8812aLck
  | rtl8812aIqkProbe
  | rtl8812aRuntimeIqk
deriving DecidableEq, Repr

inductive TxCalibrationClass where
  | unknown
  | stopGapCaptured
  | targetedLinuxParity
  | runtimeApproximation
deriving DecidableEq, Repr

inductive RuntimeTxCalibrationEvidenceSource where
  | default
  | capturedLinuxTail
  | targetedLinuxParityCapture
  | runtimeLck
  | readOnlyIqkProbe
  | runtimeIqk
deriving DecidableEq, Repr

inductive RuntimeTxCalibrationValidationStatus where
  | notRequired
  | receiverBackedValidationRequired
deriving DecidableEq, Repr

structure RuntimeTxCalibrationDecision where
  profile : TxCalibrationProfile
  cls : TxCalibrationClass
  evidenceSource : RuntimeTxCalibrationEvidenceSource
  requiresLiveWriteAuthorization : Bool
  authorized : Bool
  validationStatus : RuntimeTxCalibrationValidationStatus
  productionSafeDefault : Bool

namespace TxCalibrationProfile

def name : TxCalibrationProfile → String
  | .currentDefault => "current-default"
  | .linuxParityCh36Ht20 => "linux-parity-ch36-ht20"
  | .rtl8812aLck => "rtl8812a-lck"
  | .rtl8812aIqkProbe => "rtl8812a-iqk-probe"
  | .rtl8812aRuntimeIqk => "rtl8812a-runtime-iqk"

def isDefault : TxCalibrationProfile → Bool
  | .currentDefault => true
  | _ => false

def requiresRegisterWriteAuthorization : TxCalibrationProfile → Bool
  | .linuxParityCh36Ht20 | .rtl8812aLck | .rtl8812aRuntimeIqk => true
  | _ => false

def beforeTxClass (capturedTailApplied : Bool) : TxCalibrationProfile → TxCalibrationClass
  | .linuxParityCh36Ht20 => .targetedLinuxParity
  | .rtl8812aLck | .rtl8812aRuntimeIqk => .runtimeApproximation
  | .currentDefault | .rtl8812aIqkProbe => if capturedTailApplied then .stopGapCaptured else .unknown

def evidenceSource (capturedTailApplied : Bool) : TxCalibrationProfile → RuntimeTxCalibrationEvidenceSource
  | .currentDefault => if capturedTailApplied then .capturedLinuxTail else .default
  | .linuxParityCh36Ht20 => .targetedLinuxParityCapture
  | .rtl8812aLck => .runtimeLck
  | .rtl8812aIqkProbe => .readOnlyIqkProbe
  | .rtl8812aRuntimeIqk => .runtimeIqk

def validationStatus (profile : TxCalibrationProfile) : RuntimeTxCalibrationValidationStatus :=
  if profile.isDefault then .notRequired else .receiverBackedValidationRequired

def calibrationDecision (profile : TxCalibrationProfile) (capturedTailApplied authorized : Bool) :
    Except RuntimeRadioError RuntimeTxCalibrationDecision :=
  let requiresLiveWriteAuthorization := profile.requiresRegisterWriteAuthorization
  if requiresLiveWriteAuthorization && !authorized then
    .error (.new "missing_write_authorization"
      s!"tx calibration profile {profile.name} writes live RTL8812A BB/RF calibration registers and requires hardware-write authorization")
  else
    .ok {
      profile
      cls := profile.beforeTxClass capturedTailApplied
      evidenceSource := profile.evidenceSource capturedTailApplied
      requiresLiveWriteAuthorization
      authorized
      validationStatus := profile.validationStatus
      productionSafeDefault := profile.isDefault }

end TxCalibrationProfile

/-! ## The configuration -/

/-- the paths of files are their text -/
structure ProductionRuntimeFlowConfig where
  channel : Channel
  bandwidth : Bandwidth
  firmware : Option String
  bindAddr : SocketAddr
  txBinds : List SocketAddr
  durationMs : UInt64
  rxTimeoutMs : UInt64
  txBurstLimit : UInt32
  txMinIntervalUs : UInt64
  maxDatagrams : UInt32
  airtimeSchedule : ProductionRuntimeAirtimeSchedule
  readyFile : Option String
  healthFile : Option String
  liveRegisterWriteAuthorized : Bool
  calibrationProfile : TxCalibrationProfile
  capturedTailApplied : Bool
  primaryRxForward : ProductionRuntimePrimaryRxForwardConfig
  rxForwards : List ProductionRuntimeRxForwardConfig
  rxWlanIdx : UInt8
  rxMcsIndex : UInt8

structure ProductionRuntimeFlowValidation where
  calibration : RuntimeTxCalibrationDecision
  wfbLoop : ProductionRuntimeWfbLoopPlan

namespace ProductionRuntimeFlowConfig

def wfbLoopConfig (config : ProductionRuntimeFlowConfig) : ProductionRuntimeWfbLoopConfig where
  bindAddr := config.bindAddr
  txBinds := config.txBinds
  rxTimeoutMs := config.rxTimeoutMs
  txBurstLimit := config.txBurstLimit
  txMinIntervalUs := config.txMinIntervalUs
  maxDatagrams := config.maxDatagrams
  airtimeSchedule := config.airtimeSchedule
  bandwidth := config.bandwidth
  primaryRxForward := config.primaryRxForward
  rxForwards := config.rxForwards
  rxWlanIdx := config.rxWlanIdx
  rxMcsIndex := config.rxMcsIndex

/-- `validate_production_runtime_flow_config` -/
def validate (config : ProductionRuntimeFlowConfig) : Except RuntimeRadioError ProductionRuntimeFlowValidation :=
  match Channel.fromNumber config.channel.number with
  | .error error => .error (.new "invalid_channel" s!"invalid runtime channel: {error.message}")
  | .ok supportedChannel =>
    if supportedChannel ≠ config.channel then
      .error (.new "invalid_channel"
        s!"channel {config.channel.number} metadata does not match supported channel table")
    else if ¬ config.channel.supportsBandwidth config.bandwidth then
      .error (.new "unsupported_bandwidth"
        s!"channel {config.channel.number} does not support {config.bandwidth.mhz} MHz bandwidth")
    else do
      let wfbLoop ← planProductionWfbLoop config.wfbLoopConfig
      if config.firmware = none then
        .error (.new "missing_firmware" "production radio run requires an RTL8812A firmware image path")
      let calibration ←
        config.calibrationProfile.calibrationDecision config.capturedTailApplied config.liveRegisterWriteAuthorized
      return { calibration, wfbLoop }

end ProductionRuntimeFlowConfig

/-! ## What validation promises -/

variable {config : ProductionRuntimeFlowConfig} {validation : ProductionRuntimeFlowValidation}

/-- the steps of an accepted validation -/
theorem validate_steps (h : config.validate = .ok validation) :
    Channel.fromNumber config.channel.number = .ok config.channel ∧
      config.channel.supportsBandwidth config.bandwidth = true ∧
      planProductionWfbLoop config.wfbLoopConfig = .ok validation.wfbLoop ∧ config.firmware ≠ none ∧
      config.calibrationProfile.calibrationDecision config.capturedTailApplied config.liveRegisterWriteAuthorized =
        .ok validation.calibration := by
  rw [ProductionRuntimeFlowConfig.validate] at h
  cases hnumber : Channel.fromNumber config.channel.number with
  | error error =>
    rw [hnumber] at h
    cases h
  | ok supportedChannel =>
    rw [hnumber] at h
    dsimp only at h
    split_ifs at h with hchannel hsupports hfirmware
    · obtain ⟨_, _, h⟩ := except_bind_ok h
      obtain ⟨_, herror, _⟩ := except_bind_ok h
      cases herror
    obtain ⟨wfbLoop, hplan, h⟩ := except_bind_ok h
    obtain ⟨calibration, hcalibration, h⟩ := except_bind_ok h
    cases h
    exact ⟨congrArg Except.ok (not_not.1 hchannel), hsupports, hplan, hfirmware, hcalibration⟩

/-- steps that all succeed make an accepted validation -/
theorem validate_of_steps {wfbLoop : ProductionRuntimeWfbLoopPlan} {calibration : RuntimeTxCalibrationDecision}
    (hnumber : Channel.fromNumber config.channel.number = .ok config.channel)
    (hsupports : config.channel.supportsBandwidth config.bandwidth = true)
    (hplan : planProductionWfbLoop config.wfbLoopConfig = .ok wfbLoop) (hfirmware : config.firmware ≠ none)
    (hcalibration : config.calibrationProfile.calibrationDecision config.capturedTailApplied
      config.liveRegisterWriteAuthorized = .ok calibration) :
    config.validate = .ok { calibration, wfbLoop } := by
  rw [ProductionRuntimeFlowConfig.validate, hnumber]
  dsimp only
  rw [if_neg (not_not.2 rfl), if_neg (not_not.2 hsupports), hplan]
  change (if config.firmware = none then _ else _) = _
  rw [if_neg hfirmware, hcalibration]
  rfl

/-- the ingress of an accepted configuration has its address and the others -/
theorem validate_txBindAddrs (h : config.validate = .ok validation) :
    validation.wfbLoop.txBindAddrs = config.bindAddr :: config.txBinds := by
  obtain ⟨_, _, hplan, _⟩ := validate_steps h
  exact plan_txBindAddrs hplan

/-- **An accepted configuration** names a channel of the table and a bandwidth the channel supports. -/
theorem validate_channel (h : config.validate = .ok validation) :
    config.channel ∈ supportedChannels ∧ config.channel.supportsBandwidth config.bandwidth = true := by
  obtain ⟨hnumber, hsupports, _⟩ := validate_steps h
  exact ⟨fromNumber_mem hnumber, hsupports⟩

/-- the channel can be programmed, and a packet be built for a datagram -/
def CanTransmit (config : ProductionRuntimeFlowConfig) (parsed : ParsedTxDatagram) : Prop :=
  Planned config.channel config.bandwidth ∧
    ∃ packet, buildTxPacket parsed.ieee80211Frame config.channel
      (applyProductionBridgeTxOverrides {} config.bandwidth parsed.txOptions) = .ok (.ok packet)

/-- what the default overrides leave alone -/
theorem defaultOverrides (channelBandwidth : Bandwidth) (options : TxOptions) :
    (applyProductionBridgeTxOverrides {} channelBandwidth options).rate = options.rate ∧
      (applyProductionBridgeTxOverrides {} channelBandwidth options).bandwidth = options.bandwidth ∧
      (applyProductionBridgeTxOverrides {} channelBandwidth options).channelBandwidth = some channelBandwidth := by
  obtain ⟨rate, bandwidth⟩ := options
  cases rate <;> exact ⟨rfl, rfl, rfl⟩

/-- **Accepted configurations can transmit**, unless the channel is a misaligned one. -/
theorem accepted_transmits_iff (config : ProductionRuntimeFlowConfig) (validation : ProductionRuntimeFlowValidation)
    (hvalid : config.validate = .ok validation) (datagram : List UInt8) (parsed : ParsedTxDatagram)
    (_hparsed : parseTxDatagram datagram = .ok (.ok parsed)) (hlen : 10 ≤ parsed.ieee80211Frame.length)
    (hrate : parsed.txOptions.rate.isHardware) (hfits : parsed.txOptions.bandwidth.fits config.bandwidth) :
    CanTransmit config parsed ↔ ¬ Misaligned config.channel config.bandwidth := by
  obtain ⟨hchannel, hsupports⟩ := validate_channel hvalid
  constructor
  · rintro ⟨hplanned, _⟩
    exact (plan_iff hchannel hsupports).1 hplanned
  · intro haligned
    obtain ⟨secondaryChannel, hsc⟩ := txDataSecondaryChannel_ok hchannel hsupports hfits haligned
    obtain ⟨hrateEq, hbandwidthEq, hchannelEq⟩ := defaultOverrides config.bandwidth parsed.txOptions
    rw [← hbandwidthEq] at hsc
    have hband : config.channel.supportsBandwidth
        (applyProductionBridgeTxOverrides {} config.bandwidth parsed.txOptions).bandwidth = true := by
      rw [hbandwidthEq]
      exact supportsBandwidth_mono config.channel hchannel _ _ hfits hsupports
    have hsc : txDataSecondaryChannel config.channel
        ((applyProductionBridgeTxOverrides {} config.bandwidth parsed.txOptions).channelBandwidth.getD
          (applyProductionBridgeTxOverrides {} config.bandwidth parsed.txOptions).bandwidth)
        (applyProductionBridgeTxOverrides {} config.bandwidth parsed.txOptions).bandwidth = .ok secondaryChannel := by
      rw [hchannelEq]
      exact hsc
    exact ⟨(plan_iff hchannel hsupports).2 haligned, buildTxPacket_ok hlen hband (hrateEq.symm ▸ hrate) hsc⟩

/-- a misaligned channel drops every narrow frame, also where the descriptor alone is asked -/
theorem misaligned_drops_narrow_frames (hvalid : config.validate = .ok validation)
    (hmisaligned : Misaligned config.channel config.bandwidth) {parsed : ParsedTxDatagram}
    (hnarrow : parsed.txOptions.bandwidth = .mhz20) (packet : List UInt8) :
    buildTxPacket parsed.ieee80211Frame config.channel
      (applyProductionBridgeTxOverrides {} config.bandwidth parsed.txOptions) ≠ .ok (.ok packet) := by
  have htable : ∀ channel ∈ supportedChannels, Misaligned channel .mhz40 →
      txDataSecondaryChannel channel .mhz40 .mhz20 = .error (.unsupportedBandwidth channel.number 40) := by decide
  obtain ⟨_, hbandwidthEq, hchannelEq⟩ := defaultOverrides config.bandwidth parsed.txOptions
  have hwide : config.bandwidth = .mhz40 := hmisaligned.1
  have hsc : txDataSecondaryChannel config.channel
      ((applyProductionBridgeTxOverrides {} config.bandwidth parsed.txOptions).channelBandwidth.getD
        (applyProductionBridgeTxOverrides {} config.bandwidth parsed.txOptions).bandwidth)
      (applyProductionBridgeTxOverrides {} config.bandwidth parsed.txOptions).bandwidth =
        .error (.unsupportedBandwidth config.channel.number 40) := by
    rw [hchannelEq, hbandwidthEq, hnarrow, hwide]
    exact htable config.channel (validate_channel hvalid).1 (hwide ▸ hmisaligned)
  exact buildTxPacket_no_secondaryChannel hsc packet

def sampleFlowConfig (channel : Channel) (bandwidth : Bandwidth) : ProductionRuntimeFlowConfig where
  channel
  bandwidth
  firmware := some "rtl8812aefw.bin"
  bindAddr := ⟨"127.0.0.1", 5600⟩
  txBinds := []
  durationMs := 0
  rxTimeoutMs := 10
  txBurstLimit := 8
  txMinIntervalUs := 0
  maxDatagrams := 0
  airtimeSchedule := .continuous
  readyFile := none
  healthFile := none
  liveRegisterWriteAuthorized := false
  calibrationProfile := .currentDefault
  capturedTailApplied := false
  primaryRxForward := ⟨none, none, none⟩
  rxForwards := []
  rxWlanIdx := 0
  rxMcsIndex := 0

/-- the datagram that `sampleDatagram` parses to -/
def sampleParsed : ParsedTxDatagram where
  fwmark := 1
  radiotapLen := 13
  txOptions := { rate := .mcs 1, noRetry := true }
  ieee80211Frame := [0x08, 0x01, 0, 0, 0xff, 0xff, 0xff, 0xff, 0xff, 0xff]

theorem parse_sampleDatagram : parseTxDatagram sampleDatagram.data = .ok (.ok sampleParsed) := by decide +kernel

/-- channel 36 at 20 MHz -/
theorem accepted_transmits_iff_sample :
    CanTransmit (sampleFlowConfig ⟨36, 5180, .ghz5⟩ .mhz20) sampleParsed ↔
      ¬ Misaligned (sampleFlowConfig ⟨36, 5180, .ghz5⟩ .mhz20).channel
        (sampleFlowConfig ⟨36, 5180, .ghz5⟩ .mhz20).bandwidth :=
  accepted_transmits_iff _ _ rfl sampleDatagram.data sampleParsed parse_sampleDatagram (by decide) (by decide)
    (by decide)

/-- channel 149 at 40 MHz is accepted, but cannot be planned, and drops a frame of 20 MHz -/
theorem accepted_but_mute :
    (∃ validation, (sampleFlowConfig ⟨149, 5745, .ghz5⟩ .mhz40).validate = .ok validation) ∧
      parseTxDatagram sampleDatagram.data = .ok (.ok sampleParsed) ∧
      10 ≤ sampleParsed.ieee80211Frame.length ∧ sampleParsed.txOptions.rate.isHardware ∧
      sampleParsed.txOptions.bandwidth.fits .mhz40 ∧
      ¬ CanTransmit (sampleFlowConfig ⟨149, 5745, .ghz5⟩ .mhz40) sampleParsed ∧
      ∀ packet, buildTxPacket sampleParsed.ieee80211Frame ⟨149, 5745, .ghz5⟩
        (applyProductionBridgeTxOverrides {} .mhz40 sampleParsed.txOptions) ≠ .ok (.ok packet) := by
  have hplan : ¬ Planned ⟨149, 5745, .ghz5⟩ .mhz40 := by
    rw [plan_iff (by decide) (by decide)]
    decide
  have hvalid : ∃ validation, (sampleFlowConfig ⟨149, 5745, .ghz5⟩ .mhz40).validate = .ok validation := ⟨_, rfl⟩
  refine ⟨hvalid, parse_sampleDatagram, by decide, by decide, by decide, fun h => hplan h.1, ?_⟩
  obtain ⟨validation, hvalid⟩ := hvalid
  exact misaligned_drops_narrow_frames hvalid (by decide) rfl

end WfbLink.Runtime
