/-
Backup, restore and sweeps of the runtime IQK (`wfb-radio-runtime/src/lib.rs`).

A sweep backs up the registers it is going to disturb, runs the set-up and the one-shots, restores the backup whatever
became of them, and then fills in what was selected. The restore does not stop at a failure but keeps a list of them.
-/
import WfbLink.Runtime.IqkOneShot

namespace WfbLink.Runtime

open WfbLink.Core WfbLink.RadioCore

/-! ## Reports -/

structure Rtl8812auRuntimeIqkBackupReport where
  hssiReadRegister : Rtl8812auRegisterReadReport
  pageSelectRegister : Rtl8812auRegisterReadReport
  txPauseRegister : Rtl8812auRegisterReadReport
  macbbBackup : List Rtl8812auRegisterReadReport
  afeBackup : List Rtl8812auRegisterReadReport
  rfBackupPathA : List Rtl8812auRfSerialReadReport
  rfBackupPathB : List Rtl8812auRfSerialReadReport
  pageC1Latches : List Rtl8812auRegisterReadReport

structure Rtl8812auRuntimeIqkCleanupReport where
  status : String
  failures : List String
  macbbRestoreCount : ℕ
  afeRestoreCount : ℕ
  rfPathARestoreCount : ℕ
  rfPathBRestoreCount : ℕ
  pageC1LatchRestoreCount : ℕ
  hssiReadRestored : Option Bool
  pageSelectRestored : Option Bool
  txPauseRestored : Option Bool
  counters : RuntimeRadioCounters

structure Rtl8812auRuntimeIqkPreSweepStateReport where
  bbAgcStatePreIqk : Rtl8812auRegisterReadReport
  ofdmcckenPreIqk : Option Rtl8812auRegisterReadReport
  ccaOnSecPreIqk : Option Rtl8812auRegisterReadReport
  rfModePathAPreIqk : Option Rtl8812auRfSerialReadReport
  rfModePathBPreIqk : Option Rtl8812auRfSerialReadReport
  txagcRegistersPreIqk : List Rtl8812auRegisterReadReport

/-- the whole report; the runtime reads what it extends -/
structure Rtl8812auRuntimeIqkCalibrationFullReport extends Rtl8812auRuntimeIqkCalibrationReport where
  sweepIndex : UInt8
  sweepSummaries : List Rtl8812auRuntimeIqkSweepSummaryReport
  cleanupFailures : List String
  backup : Rtl8812auRuntimeIqkBackupReport
  preSweepState : Rtl8812auRuntimeIqkPreSweepStateReport
  cleanup : Rtl8812auRuntimeIqkCleanupReport
  selectedIqcFillRegisterCount : ℕ
  paths : List Rtl8812auRuntimeIqkPathReport
  affectedRegisters : List Rtl8812auRegisterReadReport
  beforeIqkRegisters : List Rtl8812auRegisterReadReport
  afterIqkRegisters : List Rtl8812auRegisterReadReport

def registerReadReport (spec : Rtl8812auRegisterReadSpec) (width : String) (value : UInt32) :
    Rtl8812auRegisterReadReport := ⟨spec.1, spec.2, width, value⟩

section Iqk

variable (registers : Rtl8812auRegisterAccess)

/-! ## Backup -/

def rtl8812auIqkRead32Group : List Rtl8812auRegisterReadSpec → RegisterAction (List Rtl8812auRegisterReadReport)
  | [] => return []
  | spec :: group => do
    let value ← read32WithCounter registers spec.2 spec.1 "runtime-iqk-backup"
    let reports ← rtl8812auIqkRead32Group group
    return registerReadReport spec "u32" value :: reports

def rtl8812auIqkRfBackupReadsOf (path : Rtl8812auRfPath) :
    List UInt32 → RegisterAction (List Rtl8812auRfSerialReadReport)
  | [] => return []
  | rfOffset :: offsets => do
    let report ← rfSerialReadRegister registers path rfOffset
    let reports ← rtl8812auIqkRfBackupReadsOf path offsets
    return report :: reports

def rtl8812auIqkRfBackupReads (path : Rtl8812auRfPath) : RegisterAction (List Rtl8812auRfSerialReadReport) :=
  rtl8812auIqkRfBackupReadsOf registers path rtl8812aIqkRfBackupOffsets

def iqkHssiSpec : Rtl8812auRegisterReadSpec := ("rHSSIRead_Jaguar", regHssiReadJaguar)
def iqkTxPauseSpec : Rtl8812auRegisterReadSpec := ("REG_TXPAUSE", regTxpause)

def iqkBackupError (spec : Rtl8812auRegisterReadSpec) (error : RuntimeRadioError) : RuntimeRadioError :=
  .new "rtl8812a_runtime_iqk_backup_failed" s!"{spec.1} backup read failed: {error.message}"

/-- a register that is read on whatever page is selected -/
def iqkBackupRead32 (spec : Rtl8812auRegisterReadSpec) : RegisterAction Rtl8812auRegisterReadReport := do
  let value ← (read32WithCounter registers spec.2 spec.1 "runtime-iqk-backup").mapError (iqkBackupError spec)
  return registerReadReport spec "u32" value

def iqkBackupRead8 (spec : Rtl8812auRegisterReadSpec) : RegisterAction Rtl8812auRegisterReadReport := do
  let value ← (read8WithCounter registers spec.2 spec.1 "runtime-iqk-backup").mapError (iqkBackupError spec)
  return registerReadReport spec "u8" value.toUInt32

def runRtl8812auRuntimeIqkBackup : RegisterAction Rtl8812auRuntimeIqkBackupReport := do
  let hssiReadRegister ← iqkBackupRead32 registers iqkHssiSpec
  let pageSelectRegister ← iqkBackupRead32 registers iqkPageSelectSpec
  let txPauseRegister ← iqkBackupRead8 registers iqkTxPauseSpec
  rtl8812auIqkSelectPage registers false
  let macbbBackup ← rtl8812auIqkRead32Group registers rtl8812aIqkMacbbBackupRegisters
  rtl8812auIqkSelectPage registers true
  let pageC1Latches ← rtl8812auIqkRead32Group registers rtl8812aIqkPageC1LatchRegisters
  rtl8812auIqkSelectPage registers false
  let afeBackup ← rtl8812auIqkRead32Group registers rtl8812aIqkAfeBackupRegisters
  let rfBackupPathA ← rtl8812auIqkRfBackupReads registers .a
  let rfBackupPathB ← rtl8812auIqkRfBackupReads registers .b
  return {
    hssiReadRegister
    pageSelectRegister
    txPauseRegister
    macbbBackup
    afeBackup
    rfBackupPathA
    rfBackupPathB
    pageC1Latches }

/-! ## Snapshot -/

def runtimeIqkPreSweepReads : List Rtl8812auRegisterReadSpec → RegisterAction (List Rtl8812auRegisterReadReport)
  | [] => return []
  | spec :: group => do
    let value ← runtimeIqkRead32 registers spec "rtl8812a_runtime_iqk_pre_sweep_state_failed"
    let reports ← runtimeIqkPreSweepReads group
    return registerReadReport spec "u32" value :: reports

def rtl8812auRuntimeIqkPreSweepState (backup : Rtl8812auRuntimeIqkBackupReport) :
    RegisterAction Rtl8812auRuntimeIqkPreSweepStateReport := do
  let txagcRegistersPreIqk ← runtimeIqkPreSweepReads registers (rtl8812auTxPowerAgcRegisters .both)
  return {
    bbAgcStatePreIqk := backup.pageSelectRegister
    ofdmcckenPreIqk := backup.macbbBackup.find? (·.address = regOfdmcckenJaguar)
    ccaOnSecPreIqk := backup.macbbBackup.find? (·.address = regCcaOnSecJaguar)
    rfModePathAPreIqk := backup.rfBackupPathA.find? (·.rfOffset = 0x00)
    rfModePathBPreIqk := backup.rfBackupPathB.find? (·.rfOffset = 0x00)
    txagcRegistersPreIqk }

/-! ## Restore -/

/-- a step that may fail: whether it was done, and the failures so far -/
def restoreStep {α : Type} (action : RegisterAction α) (failure : RuntimeRadioError → String)
    (failures : List String) : RegisterAction (Bool × List String) := do
  match ← action.attempt with
  | .ok _ => return (true, failures)
  | .error error => return (false, failures ++ [failure error])

/-- an access to a register whose old value is known -/
def restoreWrite32 (backup : Rtl8812auRegisterReadReport) : RegisterAction Unit :=
  write32WithCounter registers backup.address backup.value backup.registerName "runtime-iqk-restore"

def restoreRuntimeIqkRegisterGroup (groupName : String) :
    List Rtl8812auRegisterReadReport → List String → RegisterAction (ℕ × List String)
  | [], failures => return (0, failures)
  | backup :: backups, failures => do
    let (done, failures) ← restoreStep (restoreWrite32 registers backup)
      (fun error =>
        s!"{groupName} restore {backup.registerName} {formatRegisterAddress backup.address} to {formatRegisterValue backup.value.toNat 8} failed: {error.message}")
      failures
    let (restored, failures) ← restoreRuntimeIqkRegisterGroup groupName backups failures
    return (done.toNat + restored, failures)

def restoreRuntimeIqkRfGroup (path : Rtl8812auRfPath) :
    List Rtl8812auRfSerialReadReport → List String → RegisterAction (ℕ × List String)
  | [], failures => return (0, failures)
  | backup :: backups, failures => do
    let (done, failures) ← restoreStep (rfSerialWriteSinglePath registers path backup.rfOffset backup.value)
      (fun error =>
        s!"RF path {backup.pathName} restore {formatRegisterValue backup.rfOffset.toNat 2} to {formatRegisterValue backup.value.toNat 5} failed: {error.message}")
      failures
    let (restored, failures) ← restoreRuntimeIqkRfGroup path backups failures
    return (done.toNat + restored, failures)

def restoreSelectPage (pageC1 : Bool) (failures : List String) : RegisterAction (List String) := do
  let (_, failures) ← restoreStep (rtl8812auIqkSelectPage registers pageC1) (·.message) failures
  return failures

/-- a value that is written back and read again -/
def restoreChecked (name : String) (digits : ℕ) (value : UInt32) (write : RegisterAction Unit)
    (readBack : RegisterAction UInt32) (failures : List String) : RegisterAction (Option Bool × List String) := do
  match ← write.attempt with
  | .error error =>
    return (none, failures ++ [s!"{name} restore to {formatRegisterValue value.toNat digits} failed: {error.message}"])
  | .ok () => do
    match ← readBack.attempt with
    | .error error => return (none, failures ++ [s!"{name} post-restore read failed: {error.message}"])
    | .ok after =>
      if after = value then return (some true, failures)
      else
        return (some false, failures ++
          [s!"{name} restored to {formatRegisterValue after.toNat digits}, expected {formatRegisterValue value.toNat digits}"])

def restoreChecked32 (backup : Rtl8812auRegisterReadReport) (failures : List String) :
    RegisterAction (Option Bool × List String) :=
  restoreChecked backup.registerName 8 backup.value (restoreWrite32 registers backup)
    (read32WithCounter registers backup.address backup.registerName "runtime-iqk-restore") failures

def restoreChecked8 (backup : Rtl8812auRegisterReadReport) (failures : List String) :
    RegisterAction (Option Bool × List String) :=
  restoreChecked backup.registerName 2 backup.value
    (write8WithCounter registers backup.address backup.value.toUInt8 backup.registerName "runtime-iqk-restore")
    (do
      let after ← read8WithCounter registers backup.address backup.registerName "runtime-iqk-restore"
      return after.toUInt32)
    failures

def restoreRtl8812auRuntimeIqkBackup (backup : Rtl8812auRuntimeIqkBackupReport) :
    RegisterAction Rtl8812auRuntimeIqkCleanupReport := do
  let before ← RegisterAction.counters
  let failures ← restoreSelectPage registers false []
  let (rfPathARestoreCount, failures) ← restoreRuntimeIqkRfGroup registers .a backup.rfBackupPathA failures
  let (rfPathBRestoreCount, failures) ← restoreRuntimeIqkRfGroup registers .b backup.rfBackupPathB failures
  let failures ← restoreSelectPage registers false failures
  let (afeRestoreCount, failures) ← restoreRuntimeIqkRegisterGroup registers "AFE" backup.afeBackup failures
  let failures ← restoreSelectPage registers true failures
  let (pageC1LatchRestoreCount, failures) ←
    restoreRuntimeIqkRegisterGroup registers "page-C1 latch" backup.pageC1Latches failures
  let failures ← restoreSelectPage registers false failures
  let (macbbRestoreCount, failures) ←
    restoreRuntimeIqkRegisterGroup registers "MAC/BB" backup.macbbBackup failures
  let (hssiReadRestored, failures) ← restoreChecked32 registers backup.hssiReadRegister failures
  let (pageSelectRestored, failures) ← restoreChecked32 registers backup.pageSelectRegister failures
  let (txPauseRestored, failures) ← restoreChecked8 registers backup.txPauseRegister failures
  let counters ← RegisterAction.counters
  return {
    status := if failures = [] then "restored" else "restore_failed"
    failures
    macbbRestoreCount
    afeRestoreCount
    rfPathARestoreCount
    rfPathBRestoreCount
    pageC1LatchRestoreCount
    hssiReadRestored
    pageSelectRestored
    txPauseRestored
    counters := counters.saturatingSub before }

/-! ## Fill -/

def applyRuntimeIqkMaskedBbWrite (write : Rtl8812auRuntimeIqkMaskedBbWritePlan) (errorCode : String) :
    RegisterAction Unit :=
  (bbSetBbReg registers write.address write.mask write.data write.registerName).mapError fun error =>
    .new errorCode s!"{write.registerName} masked write failed: {error.message}"

def applyRuntimeIqkMaskedBbWrites (errorCode : String) :
    List Rtl8812auRuntimeIqkMaskedBbWritePlan → RegisterAction Unit
  | [] => return ()
  | write :: plan => do
    applyRuntimeIqkMaskedBbWrite registers write errorCode
    applyRuntimeIqkMaskedBbWrites errorCode plan

/-- the stages get their plans; the number of writes is returned -/
def applyRtl8812auRuntimeIqkFill (path : Rtl8812auRfPath) (stages : IqkStages) : RegisterAction (ℕ × IqkStages) := do
  let txIqc := rtl8812auRuntimeIqkStageIqcOrFallback stages.1
  let rxIqc := rtl8812auRuntimeIqkStageIqcOrFallback stages.2
  let txPlan ← RegisterAction.ofExcept (rtl8812auIqkTxFillIqcPlan path txIqc.x txIqc.y false)
  let rxPlan ← RegisterAction.ofExcept (rtl8812auIqkRxFillIqcPlan path rxIqc.x rxIqc.y)
  applyRuntimeIqkMaskedBbWrites registers "rtl8812a_runtime_iqk_fill_failed" (txPlan ++ rxPlan)
  return (txPlan.length + rxPlan.length, { stages.1 with fillPlan := txPlan }, { stages.2 with fillPlan := rxPlan })

/-! ## Sweeps -/

/-- what a sweep reads before it disturbs the registers -/
structure IqkPrologue where
  beforeIqkRegisters : List Rtl8812auRegisterReadReport
  backup : Rtl8812auRuntimeIqkBackupReport
  preSweepState : Rtl8812auRuntimeIqkPreSweepStateReport

def iqkPrologue : RegisterAction IqkPrologue := do
  let beforeIqkRegisters ← rtl8812auIqkRead32Group registers rtl8812aIqkResultRegisters
  let backup ← runRtl8812auRuntimeIqkBackup registers
  let preSweepState ← rtl8812auRuntimeIqkPreSweepState registers backup
  return { beforeIqkRegisters, backup, preSweepState }

/-- the stages of both paths: TX and RX of path A, TX and RX of path B -/
abbrev IqkPathStages : Type := IqkStages × IqkStages

/-- what runs between backup and restore -/
def iqkDisturb (channel : Channel) (rfeType : UInt8) : RegisterAction IqkPathStages := do
  let _ ← applyRtl8812auRuntimeIqkSetupPlan registers
    (rtl8812auRuntimeIqkSetupPlan channel.band rfeType (channel.band = .ghz5) false)
  let (txA, txB) ← runRtl8812auRuntimeIqkTxOneshot registers
  let (rxA, rxB) ← runRtl8812auRuntimeIqkRxOneshot registers txA txB rfeType
  return ((txA, rxA), (txB, rxB))

def iqkCanFill (cleanup : Rtl8812auRuntimeIqkCleanupReport) (stages : IqkPathStages) : Bool :=
  cleanup.status = "restored" && rtl8812auRuntimeIqkPathCanFill stages.1.1 stages.1.2 &&
    rtl8812auRuntimeIqkPathCanFill stages.2.1 stages.2.2

/-- both paths are filled in, or none -/
def iqkFill (cleanup : Rtl8812auRuntimeIqkCleanupReport) (stages : IqkPathStages) :
    RegisterAction (ℕ × IqkPathStages) :=
  if iqkCanFill cleanup stages then do
    let (fillA, stagesA) ← applyRtl8812auRuntimeIqkFill registers .a stages.1
    let (fillB, stagesB) ← applyRtl8812auRuntimeIqkFill registers .b stages.2
    return (fillA + fillB, stagesA, stagesB)
  else return (0, stages)

/-- the result registers, or nothing at all -/
def iqkResultRegisters : RegisterAction (List Rtl8812auRegisterReadReport) := do
  match ← (rtl8812auIqkRead32Group registers rtl8812aIqkResultRegisters).attempt with
  | .ok reports => return reports
  | .error _ => return []

/-- a failure, with what could not be restored -/
def iqkFailure (error : RuntimeRadioError) (cleanup : Rtl8812auRuntimeIqkCleanupReport) : RuntimeRadioError :=
  if cleanup.status ≠ "restored" then
    let failures := String.intercalate "; " cleanup.failures
    .new error.code s!"{error.message}; runtime IQK cleanup status={cleanup.status} failures={failures}"
  else error

def runRtl8812auRuntimeIqkCalibrationSweep (channel : Channel) (rfeType : UInt8) :
    RegisterAction Rtl8812auRuntimeIqkCalibrationFullReport := do
  let beforeCounters ← RegisterAction.counters
  let prologue ← iqkPrologue registers
  let result ← (iqkDisturb registers channel rfeType).attempt
  let cleanup ← restoreRtl8812auRuntimeIqkBackup registers prologue.backup
  match result with
  | .error error => .fail (iqkFailure error cleanup)
  | .ok stages => do
    let (fillCount, stages) ← iqkFill registers cleanup stages
    let afterIqkRegisters ← iqkResultRegisters registers
    let paths : List Rtl8812auRuntimeIqkPathReport :=
      [⟨.a, "A", stages.1.1, stages.1.2⟩, ⟨.b, "B", stages.2.1, stages.2.2⟩]
    let affectedRegisters ← iqkResultRegisters registers
    let counters ← RegisterAction.counters
    return {
      sweepCount := 1
      maxSweeps := 1
      status := rtl8812auRuntimeIqkReportStatus paths cleanup.status
      cleanupStatus := cleanup.status
      selectedIqcFillApplied := fillCount > 0
      counters := counters.saturatingSub beforeCounters
      sweepIndex := 1
      sweepSummaries := []
      cleanupFailures := cleanup.failures
      backup := prologue.backup
      preSweepState := prologue.preSweepState
      cleanup
      selectedIqcFillRegisterCount := fillCount
      paths
      affectedRegisters
      beforeIqkRegisters := prologue.beforeIqkRegisters
      afterIqkRegisters }

/-- the report of a sweep, numbered, with the summaries of all sweeps so far -/
def iqkNumbered (report : Rtl8812auRuntimeIqkCalibrationFullReport) (sweepIndex maxSweeps : UInt8)
    (summaries : List Rtl8812auRuntimeIqkSweepSummaryReport) (counters : RuntimeRadioCounters) :
    Rtl8812auRuntimeIqkCalibrationFullReport :=
  { report with sweepIndex, sweepCount := sweepIndex, maxSweeps, sweepSummaries := summaries, counters }

/-- `for sweep_index in ..`: up to the first sweep that completes -/
def iqkSweeps (channel : Channel) (rfeType : UInt8) (before : RuntimeRadioCounters) (maxSweeps : ℕ) :
    ℕ → ℕ → List Rtl8812auRuntimeIqkSweepSummaryReport → Option Rtl8812auRuntimeIqkCalibrationFullReport →
      RegisterAction Rtl8812auRuntimeIqkCalibrationFullReport
  | 0, _, _, none =>
    .fail (.new "rtl8812a_runtime_iqk_failed" "runtime IQK did not execute any calibration sweeps")
  | 0, _, _, some lastReport => return lastReport
  | left + 1, sweepIndex, summaries, _ => do
    let report ← runRtl8812auRuntimeIqkCalibrationSweep registers channel rfeType
    let summaries := summaries ++
      [rtl8812auRuntimeIqkSweepSummary report.paths report.status report.cleanupStatus (UInt8.ofNat sweepIndex)]
    let counters ← RegisterAction.counters
    let report := iqkNumbered report (UInt8.ofNat sweepIndex) (UInt8.ofNat maxSweeps) summaries
      (counters.saturatingSub before)
    if report.status = "completed" then return report
    else iqkSweeps channel rfeType before maxSweeps left (sweepIndex + 1) summaries (some report)

/-- the calibration with that many sweeps -/
def runIqkCalibrationSweeps (channel : Channel) (rfeType : UInt8) (maxSweeps : ℕ) :
    RegisterAction Rtl8812auRuntimeIqkCalibrationFullReport := do
  let beforeAllSweeps ← RegisterAction.counters
  iqkSweeps registers channel rfeType beforeAllSweeps maxSweeps maxSweeps 1 [] none

def runRtl8812auRuntimeIqkCalibration (channel : Channel) (rfeType : UInt8) :
    RegisterAction Rtl8812auRuntimeIqkCalibrationFullReport :=
  runIqkCalibrationSweeps registers channel rfeType rtl8812aIqkMaxSweeps

end Iqk

end WfbLink.Runtime
