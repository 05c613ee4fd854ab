/-
The set-up and the one-shots of the runtime IQK (`wfb-radio-runtime/src/lib.rs`).

A one-shot goes in rounds: each triggers a measurement, waits until the paths are ready, and takes a candidate from
every path that is not finished. The TX and the RX one-shot differ in what they trigger, in how a candidate is read, and
in when they give up.

The loop over the rounds is bounded by a number that is never used up (`iqkRounds_over`, `iqkRounds_enough`).
-/
import WfbLink.Runtime.IqkPlan

namespace WfbLink.Runtime

open WfbLink.Core WfbLink.RadioCore

/-! ## Register access -/

def formatRegisterAddress (address : UInt16) : String := s!"0x{hexText 4 address.toNat}"

def applyRfMask (original bitmask data : UInt32) : UInt32 :=
  if bitmask = 0 then original else maskedValue original bitmask data

section Access

variable (registers : Rtl8812auRegisterAccess)

def runtimeIqkWrite32 (spec : Rtl8812auRegisterReadSpec) (value : UInt32) (errorCode : String) : RegisterAction Unit :=
  (write32WithCounter registers spec.2 value spec.1 "runtime-iqk").mapError fun error =>
    .new errorCode
      s!"{spec.1} {formatRegisterAddress spec.2} write {formatRegisterValue value.toNat 8} failed: {error.message}"

def runtimeIqkRead32 (spec : Rtl8812auRegisterReadSpec) (errorCode : String) : RegisterAction UInt32 :=
  (read32WithCounter registers spec.2 spec.1 "runtime-iqk").mapError fun error =>
    .new errorCode s!"{spec.1} {formatRegisterAddress spec.2} read failed: {error.message}"

def runtimeIqkSetBbReg (spec : Rtl8812auRegisterReadSpec) (mask data : UInt32) (errorCode : String) :
    RegisterAction Unit :=
  (bbSetBbReg registers spec.2 mask data spec.1).mapError fun error =>
    .new errorCode
      s!"{spec.1} {formatRegisterAddress spec.2} masked write mask={formatRegisterValue mask.toNat 8} data={formatRegisterValue data.toNat 8} failed: {error.message}"

def runtimeIqkRfMaskedWrite (path : Rtl8812auRfPath) (rfOffset mask data : UInt32) (errorCode : String) :
    RegisterAction Unit := do
  let before ← rfSerialReadRegister registers path rfOffset
  let _ ← (rfSerialWriteSinglePath registers path rfOffset (applyRfMask before.value mask data)).mapError fun error =>
    .new errorCode
      s!"RF path {before.pathName} offset {formatRegisterValue before.rfOffset.toNat 2} masked write mask={formatRegisterValue mask.toNat 5} data={formatRegisterValue data.toNat 5} failed: {error.message}"
  return ()

/-- which page the accesses to the banked registers reach -/
def rtl8812auIqkSelectPage (pageC1 : Bool) : RegisterAction Unit :=
  (bbSetBbReg registers regAgcTableJaguar rtl8812aIqkPageC1SelectBit (if pageC1 then 1 else 0)
    "REG_AGC_TABLE_JAGUAR").mapError fun error =>
      let page := if pageC1 then "C1" else "C"
      .new "rtl8812a_runtime_iqk_page_select_failed"
        s!"REG_AGC_TABLE_JAGUAR page {page} select failed: {error.message}"

/-! ## Set-up -/

def applyRtl8812auRuntimeIqkSetupWrite : Rtl8812auRuntimeIqkSetupWritePlan → RegisterAction Unit
  | .register registerName address width value =>
    if width = "u8" then write8WithCounter registers address value.toUInt8 registerName "runtime-iqk-setup"
    else write32WithCounter registers address value registerName "runtime-iqk-setup"
  | .maskedBb registerName address mask data => do
    let before ← read32WithCounter registers address registerName "runtime-iqk-setup"
    write32WithCounter registers address (applyRfMask before mask data) registerName "runtime-iqk-setup"
    let _ ← read32WithCounter registers address registerName "runtime-iqk-setup"
    return ()
  | .rf path rfOffset value => do
    let _ ← rfSerialWriteSinglePath registers path rfOffset value
    return ()

/-- how many writes were applied -/
def applyRtl8812auRuntimeIqkSetupPlan : List Rtl8812auRuntimeIqkSetupWritePlan → RegisterAction ℕ
  | [] => return 0
  | write :: plan => do
    applyRtl8812auRuntimeIqkSetupWrite registers write
    let applied ← applyRtl8812auRuntimeIqkSetupPlan plan
    return applied + 1

/-! ## One-shots -/

/-- where the candidates of a path come from -/
structure IqkOneShotTarget where
  pathName : String
  latch : Rtl8812auRegisterReadSpec
  result : Rtl8812auRegisterReadSpec

def iqkOneShotTargetA : IqkOneShotTarget :=
  ⟨"A", ("R_0xcb8", regRfeTimingAJaguar), ("R_0xd00", regIqkResultAD00)⟩

def iqkOneShotTargetB : IqkOneShotTarget :=
  ⟨"B", ("R_0xeb8", regRfeTimingBJaguar), ("R_0xd40", regIqkResultBD40)⟩

/-- the two halves of a result, which are latched one after the other -/
def iqkCaptureRaw (target : IqkOneShotTarget) (latchX latchY : UInt32) (errorCode : String) :
    RegisterAction Rtl8812auRuntimeIqkRawCandidateReport := do
  runtimeIqkWrite32 registers target.latch latchX errorCode
  let xRaw ← runtimeIqkRead32 registers target.result errorCode
  runtimeIqkWrite32 registers target.latch latchY errorCode
  let yRaw ← runtimeIqkRead32 registers target.result errorCode
  return rtl8812auRuntimeIqkRawCandidateReport xRaw yRaw

abbrev IqkCandidate : Type := Rtl8812auRuntimeIqkIqcValue × Rtl8812auRuntimeIqkRawCandidateReport

/-- a candidate that is zero is an error -/
def runtimeIqkCaptureTxCandidate (target : IqkOneShotTarget) : RegisterAction IqkCandidate := do
  let raw ← iqkCaptureRaw registers target 0x02000000 0x04000000 "rtl8812a_runtime_iqk_tx_failed"
  let candidate := rtl8812auRuntimeIqkIqcValue raw.xField raw.yField
  if candidate.x = 0 ∧ candidate.y = 0 then
    .fail (.new "rtl8812a_runtime_iqk_tx_failed"
      s!"path {target.pathName} TX IQK produced a zero TX_X/TX_Y candidate")
  else return (candidate, raw)

def runtimeIqkCaptureRxCandidate (target : IqkOneShotTarget) : RegisterAction IqkCandidate := do
  let raw ← iqkCaptureRaw registers target 0x06000000 0x08000000 "rtl8812a_runtime_iqk_rx_failed"
  return (rtl8812auRuntimeIqkIqcValue raw.xField raw.yField, raw)

/-- what the two one-shots differ in; a path that is not active is left alone -/
structure IqkOneShot where
  stage : String
  errorCode : String
  failMask : UInt32
  failedLabel : String
  notReadyLabel : String
  activeA : Bool
  activeB : Bool
  trigger : RegisterAction Unit
  capture : IqkOneShotTarget → RegisterAction IqkCandidate
  exhausted : Rtl8812auRuntimeIqkOneShotPathState → Bool

abbrev IqkPaths : Type := Rtl8812auRuntimeIqkOneShotPathState × Rtl8812auRuntimeIqkOneShotPathState

/-- the paths while they are polled, with the last status of each -/
structure IqkPolled where
  paths : IqkPaths
  statusA : Option UInt32 := none
  statusB : Option UInt32 := none
  delayCount : UInt8 := 0

/-- the path still measures -/
def iqkMeasures (active : Bool) (path : Rtl8812auRuntimeIqkOneShotPathState) : Bool := !path.finished && active

def iqkPollPath (shot : IqkOneShot) (target : IqkOneShotTarget) (active : Bool)
    (path : Rtl8812auRuntimeIqkOneShotPathState) (status : Option UInt32) :
    RegisterAction (Rtl8812auRuntimeIqkOneShotPathState × Option UInt32) :=
  if iqkMeasures active path then do
    let value ← runtimeIqkRead32 registers target.result shot.errorCode
    return (path.setReady (value &&& rtl8812aIqkReadyMask != 0), some value)
  else return (path, status)

def iqkPathReady (active : Bool) (path : Rtl8812auRuntimeIqkOneShotPathState) : Bool :=
  path.finished || !active || path.ready.getD false

/-- until both paths are ready, or `left` waits are over -/
def iqkPoll (shot : IqkOneShot) : ℕ → IqkPolled → RegisterAction IqkPolled
  | left, polled => do
    let (pathA, statusA) ← iqkPollPath registers shot iqkOneShotTargetA shot.activeA polled.paths.1 polled.statusA
    let (pathB, statusB) ← iqkPollPath registers shot iqkOneShotTargetB shot.activeB polled.paths.2 polled.statusB
    let polled := { polled with paths := (pathA, pathB), statusA, statusB }
    if iqkPathReady shot.activeA pathA && iqkPathReady shot.activeB pathB then return polled
    else
      match left with
      | 0 => return polled
      | left + 1 => iqkPoll shot left { polled with delayCount := polled.delayCount + 1 }

/-- a path that is ready gives a candidate, or says that it failed -/
def iqkMeasurePath (shot : IqkOneShot) (target : IqkOneShotTarget) (active : Bool) (delayCount : UInt8)
    (path : Rtl8812auRuntimeIqkOneShotPathState) : RegisterAction Rtl8812auRuntimeIqkOneShotPathState :=
  if iqkMeasures active path then do
    let value ← runtimeIqkRead32 registers target.result shot.errorCode
    let failed := value &&& shot.failMask != 0
    let path := path.setFailed failed
    if failed then
      return (path.pushAttempt path.ready (some failed) (some delayCount) (some value) none none
        (some shot.failedLabel)).noteRetry shot.failedLabel
    else do
      let (candidate, raw) ← shot.capture target
      return (path.pushAttempt path.ready (some failed) (some delayCount) (some value) (some raw) (some candidate)
        none).pushCandidate candidate
  else return path

def iqkNotReadyPath (shot : IqkOneShot) (active : Bool) (delayCount : UInt8) (status : Option UInt32)
    (path : Rtl8812auRuntimeIqkOneShotPathState) : Rtl8812auRuntimeIqkOneShotPathState :=
  if iqkMeasures active path then
    (path.pushAttempt path.ready none (some delayCount) status none none (some shot.notReadyLabel)).noteRetry
      shot.notReadyLabel
  else path

def iqkRound (shot : IqkOneShot) (paths : IqkPaths) : RegisterAction IqkPaths := do
  shot.trigger
  let polled ← iqkPoll registers shot (rtl8812aIqkReadyPollLimit + 1) { paths }
  let pathA := polled.paths.1.noteDelayCount polled.delayCount
  let pathB := polled.paths.2.noteDelayCount polled.delayCount
  if polled.delayCount.toNat < rtl8812aIqkReadyPollLimit then do
    let pathA ← iqkMeasurePath registers shot iqkOneShotTargetA shot.activeA polled.delayCount pathA
    let pathB ← iqkMeasurePath registers shot iqkOneShotTargetB shot.activeB polled.delayCount pathB
    return (pathA, pathB)
  else
    return (iqkNotReadyPath shot shot.activeA polled.delayCount polled.statusA pathA,
      iqkNotReadyPath shot shot.activeB polled.delayCount polled.statusB pathB)

def iqkPathsDone (shot : IqkOneShot) (paths : IqkPaths) : Bool :=
  !iqkMeasures shot.activeA paths.1 && !iqkMeasures shot.activeB paths.2

/-- the loop is left: both paths are done, or one of them has to give up -/
def iqkOver (shot : IqkOneShot) (paths : IqkPaths) : Bool :=
  iqkPathsDone shot paths || (shot.exhausted paths.1 || shot.exhausted paths.2)

/-- `while !done { .. }`; the number of rounds that may still be made is the model's, and never used up, see
`iqkRounds_over` -/
def iqkRounds (shot : IqkOneShot) : ℕ → IqkPaths → RegisterAction IqkPaths
  | 0, paths => return paths
  | rounds + 1, paths =>
    if iqkPathsDone shot paths then return paths
    else do
      let paths ← iqkRound registers shot paths
      if iqkOver shot paths then return paths
      else iqkRounds shot rounds paths

/-- after so many rounds the loop has been left -/
def iqkMaxRounds : ℕ := rtl8812aIqkMaxAttempts.toNat

def iqkFallback : Rtl8812auRuntimeIqkIqcValue := rtl8812auRuntimeIqkIqcValue 0x200 0

abbrev IqkStages : Type := Rtl8812auRuntimeIqkStageReport × Rtl8812auRuntimeIqkStageReport

/-! ### TX -/

def iqkTxTrigger : RegisterAction Unit := do
  runtimeIqkWrite32 registers ("R_0xcb8", regRfeTimingAJaguar) 0x00100000 "rtl8812a_runtime_iqk_tx_failed"
  runtimeIqkWrite32 registers ("R_0xeb8", regRfeTimingBJaguar) 0x00100000 "rtl8812a_runtime_iqk_tx_failed"
  runtimeIqkWrite32 registers ("R_0x980", regIqkTrigger980) 0xfa000000 "rtl8812a_runtime_iqk_tx_failed"
  runtimeIqkWrite32 registers ("R_0x980", regIqkTrigger980) 0xf8000000 "rtl8812a_runtime_iqk_tx_failed"
  runtimeIqkWrite32 registers ("R_0xcb8", regRfeTimingAJaguar) 0 "rtl8812a_runtime_iqk_tx_failed"
  runtimeIqkWrite32 registers ("R_0xeb8", regRfeTimingBJaguar) 0 "rtl8812a_runtime_iqk_tx_failed"

def iqkTxOneShot : IqkOneShot where
  stage := "tx"
  errorCode := "rtl8812a_runtime_iqk_tx_failed"
  failMask := rtl8812aIqkTxFailMask
  failedLabel := "tx_iqk_failed_flag"
  notReadyLabel := "tx_iqk_not_ready"
  activeA := true
  activeB := true
  trigger := iqkTxTrigger registers
  capture := runtimeIqkCaptureTxCandidate registers
  exhausted path := rtl8812aIqkMaxAttempts ≤ path.attempts

def runRtl8812auRuntimeIqkTxOneshot : RegisterAction IqkStages := do
  let (pathA, pathB) ← iqkRounds registers (iqkTxOneShot registers) iqkMaxRounds ({}, {})
  return (pathA.intoStageReport "tx" iqkFallback [], pathB.intoStageReport "tx" iqkFallback [])

/-! ### RX -/

def runtimeIqkPrepareRxWrites : List (UInt32 × UInt32) :=
  [(rfIqkModeJaguar, 0x80000), (rfIqkTx0x30Jaguar, 0x30000), (rfIqkTx0x31Jaguar, 0x3f7ff),
    (rfIqkTx0x32Jaguar, 0xfe7bf), (0x8f, 0x88001), (0x65, 0x931d1), (rfIqkModeJaguar, 0)]

def runtimeIqkPrepareRxPath (path : Rtl8812auRfPath) : List (UInt32 × UInt32) → RegisterAction Unit
  | [] => return ()
  | (rfOffset, value) :: writes => do
    let _ ← (rfSerialWriteSinglePath registers path rfOffset value).mapError fun error =>
      .new "rtl8812a_runtime_iqk_rx_failed"
        s!"RF path {path.debug} RX IQK setup offset {formatRegisterValue rfOffset.toNat 2} value {formatRegisterValue value.toNat 5} failed: {error.message}"
    runtimeIqkPrepareRxPath path writes

def runtimeIqkLoadLok (path : Rtl8812auRfPath) : RegisterAction Unit := do
  let lokSource ← rfSerialReadRegister registers path rfIqkLokReadbackJaguar
  runtimeIqkRfMaskedWrite registers path rfIqkLokLoadJaguar 0x0007fe00 (bbMaskedField lokSource.value 0x000ffc00)
    "rtl8812a_runtime_iqk_rx_failed"

/-- for a path that is ready only -/
def iqkWhen (ready : Bool) (action : RegisterAction Unit) : RegisterAction Unit := if ready then action else return ()

def runtimeIqkPrepareRxOneshot (txPathAReady txPathBReady : Bool) (rfeType : UInt8) : RegisterAction Unit := do
  rtl8812auIqkSelectPage registers false
  iqkWhen txPathAReady (runtimeIqkPrepareRxPath registers .a runtimeIqkPrepareRxWrites)
  iqkWhen txPathBReady (runtimeIqkPrepareRxPath registers .b runtimeIqkPrepareRxWrites)
  runtimeIqkSetBbReg registers ("R_0x978", 0x0978) 0x80000000 1 "rtl8812a_runtime_iqk_rx_failed"
  runtimeIqkSetBbReg registers ("R_0x97c", 0x097c) 0x80000000 0 "rtl8812a_runtime_iqk_rx_failed"
  runtimeIqkWrite32 registers ("R_0x90c", regIqkMacbb0x090c) 0x00008000 "rtl8812a_runtime_iqk_rx_failed"
  runtimeIqkWrite32 registers ("R_0x984", 0x0984) 0x0046a890 "rtl8812a_runtime_iqk_rx_failed"
  runtimeIqkWrite32 registers ("rA_RFE_Pinmux_Jaguar", regRfePinmuxAJaguar) 0x77777717 "rtl8812a_runtime_iqk_rx_failed"
  runtimeIqkWrite32 registers ("rB_RFE_Pinmux_Jaguar", regRfePinmuxBJaguar) 0x77777717 "rtl8812a_runtime_iqk_rx_failed"
  let invValue : UInt32 := if rfeType = 1 then 0x00000077 else 0x02000077
  runtimeIqkWrite32 registers ("rA_RFE_Inv_Jaguar", regRfeInvAJaguar) invValue "rtl8812a_runtime_iqk_rx_failed"
  runtimeIqkWrite32 registers ("rB_RFE_Inv_Jaguar", regRfeInvBJaguar) invValue "rtl8812a_runtime_iqk_rx_failed"
  rtl8812auIqkSelectPage registers true
  iqkWhen txPathAReady do
    runtimeIqkWrite32 registers ("R_0xc80", regIqkTxToneAC80) 0x38008c10 "rtl8812a_runtime_iqk_rx_failed"
    runtimeIqkWrite32 registers ("R_0xc84", regIqkRxToneAC84) 0x18008c10 "rtl8812a_runtime_iqk_rx_failed"
    runtimeIqkWrite32 registers ("R_0xc88", regIqkRfeSettingAC88) 0x82140119 "rtl8812a_runtime_iqk_rx_failed"
  iqkWhen txPathBReady do
    runtimeIqkWrite32 registers ("R_0xe80", regIqkTxToneBE80) 0x38008c10 "rtl8812a_runtime_iqk_rx_failed"
    runtimeIqkWrite32 registers ("R_0xe84", regIqkRxToneBE84) 0x18008c10 "rtl8812a_runtime_iqk_rx_failed"
    runtimeIqkWrite32 registers ("R_0xe88", regIqkRfeSettingBE88) 0x82140119 "rtl8812a_runtime_iqk_rx_failed"

def runtimeIqkTriggerRxPath (txIqc : Rtl8812auRuntimeIqkIqcValue) (mixer latch : Rtl8812auRegisterReadSpec)
    (mixerValue : UInt32) : RegisterAction Unit := do
  rtl8812auIqkSelectPage registers false
  runtimeIqkSetBbReg registers ("R_0x978", 0x0978) 0x03ff8000 txIqc.x "rtl8812a_runtime_iqk_rx_failed"
  runtimeIqkSetBbReg registers ("R_0x978", 0x0978) 0x000007ff txIqc.y "rtl8812a_runtime_iqk_rx_failed"
  rtl8812auIqkSelectPage registers true
  runtimeIqkWrite32 registers mixer mixerValue "rtl8812a_runtime_iqk_rx_failed"
  runtimeIqkWrite32 registers latch 0x00300000 "rtl8812a_runtime_iqk_rx_failed"
  runtimeIqkWrite32 registers latch 0x00100000 "rtl8812a_runtime_iqk_rx_failed"
  runtimeIqkWrite32 registers mixer 0x3c000000 "rtl8812a_runtime_iqk_rx_failed"
  runtimeIqkWrite32 registers latch 0 "rtl8812a_runtime_iqk_rx_failed"

/-- every path with a TX correction is triggered again, also one that is finished -/
def iqkRxTrigger (txIqcA txIqcB : Option Rtl8812auRuntimeIqkIqcValue) (rfeType : UInt8) : RegisterAction Unit := do
  match txIqcA with
  | none => pure ()
  | some txIqc =>
    runtimeIqkTriggerRxPath registers txIqc ("R_0xc8c", regIqkRfeSettingAC8c) ("R_0xcb8", regRfeTimingAJaguar)
      (if rfeType = 1 then 0x28161500 else 0x28160cc0)
  match txIqcB with
  | none => pure ()
  | some txIqc =>
    runtimeIqkTriggerRxPath registers txIqc ("R_0xe8c", regIqkRfeSettingBE8c) ("R_0xeb8", regRfeTimingBJaguar)
      (if rfeType = 1 then 0x28161500 else 0x28160ca0)

def iqkRxOneShot (txIqcA txIqcB : Option Rtl8812auRuntimeIqkIqcValue) (rfeType : UInt8) : IqkOneShot where
  stage := "rx"
  errorCode := "rtl8812a_runtime_iqk_rx_failed"
  failMask := rtl8812aIqkRxFailMask
  failedLabel := "rx_iqk_failed_flag"
  notReadyLabel := "rx_iqk_not_ready"
  activeA := txIqcA.isSome
  activeB := txIqcB.isSome
  trigger := iqkRxTrigger registers txIqcA txIqcB rfeType
  capture := runtimeIqkCaptureRxCandidate registers
  exhausted path := rtl8812aIqkMaxAttempts ≤ path.attempts || rtl8812aIqkMaxRxCandidates ≤ path.candidateCount

def iqkRxStageReport (active : Bool) (path : Rtl8812auRuntimeIqkOneShotPathState) : Rtl8812auRuntimeIqkStageReport :=
  if active then path.intoStageReport "rx" iqkFallback []
  else rtl8812auRuntimeIqkSkippedStageReport "rx" "rx_iqk_skipped_without_tx_iqk" []

def runRtl8812auRuntimeIqkRxOneshot (txPathA txPathB : Rtl8812auRuntimeIqkStageReport) (rfeType : UInt8) :
    RegisterAction IqkStages := do
  let txIqcA := rtl8812auRuntimeIqkStageSuccessIqc txPathA
  let txIqcB := rtl8812auRuntimeIqkStageSuccessIqc txPathB
  rtl8812auIqkSelectPage registers false
  iqkWhen txIqcA.isSome (runtimeIqkLoadLok registers .a)
  iqkWhen txIqcB.isSome (runtimeIqkLoadLok registers .b)
  runtimeIqkPrepareRxOneshot registers txIqcA.isSome txIqcB.isSome rfeType
  let (pathA, pathB) ← iqkRounds registers (iqkRxOneShot registers txIqcA txIqcB rfeType) iqkMaxRounds ({}, {})
  return (iqkRxStageReport txIqcA.isSome pathA, iqkRxStageReport txIqcB.isSome pathB)

end Access

end WfbLink.Runtime
